import HidPointer.Json.Printer
import HidPointer.Shape.Basic

/-!
# JSON shape of events

An event is its name and its data, each in a member of its own. The data are always an object.
-/

set_option autoImplicit false

namespace HidPointer.Event

inductive Kind where
  | modeChanged
  | reportDropped
  | readCanceled

namespace Kind

def name : Kind → String
  | modeChanged => "device.mode_changed"
  | reportDropped => "device.report_dropped"
  | readCanceled => "device.read_canceled"

def names : List (String × Kind) :=
  [modeChanged, reportDropped, readCanceled].map fun kind => (kind.name, kind)

end Kind

private def record (kind : Kind) (data : List (String × Json)) : Json :=
  .object [("event", .text kind.name), ("data", .object data)]

def toJson : Event → Json
  | modeChanged transition flushedReads discardedReports =>
      record .modeChanged
        (transition.members ++
          [("flushed_reads", .nat flushedReads), ("discarded_reports", .nat discardedReports)])
  | reportDropped mode reason =>
      record .reportDropped [("mode", mode.toJson), ("reason", reason.toJson)]
  | readCanceled id => record .readCanceled [("request_id", .nat id)]

/-- The event of a kind that some data make up. -/
def ofData? (route : Json.Route) (data : Json) : Kind → Option Event
  | .modeChanged => do
      let fields ← data.objectFields?
        ["from", "to", "epoch", "flushed_reads", "discarded_reports"]
      let transition ← Transition.ofFields? route fields
      let flushedReads ← fields.required "flushed_reads" Document.count?
      let discardedReports ← fields.required "discarded_reports" Document.count?
      return modeChanged transition flushedReads discardedReports
  | .reportDropped => do
      let fields ← data.objectFields? ["mode", "reason"]
      let mode ← fields.required "mode" (Mode.ofJson? route)
      let reason ← fields.required "reason" (DropReason.ofJson? route)
      return reportDropped mode reason
  | .readCanceled => do
      let fields ← data.objectFields? ["request_id"]
      let id ← fields.required "request_id" Document.count?
      return readCanceled id

def ofJson? (value : Json) : Option Event := do
  let (kind, contents) ← value.tagAndContent? "event" "data" Kind.names
  let (route, data) ← contents
  ofData? route data kind

def summary (event : Event) : String :=
  event.toJson.render

end HidPointer.Event
