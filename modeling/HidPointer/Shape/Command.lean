import HidPointer.Json.Parser
import HidPointer.Shape.Report
import HidPointer.Shape.Basic

/-!
# Commands

The lines of a script: each is one request to the device, written as a JSON record whose field
`cmd` tells which.
-/

set_option autoImplicit false

namespace HidPointer

inductive Command where
  | attributes
  | classDescriptor
  | reportDescriptor
  | mode
  | setMode (mode : Mode)
  | submit (report : Report)
  | submitRaw (mode : Mode) (bytes : Bytes)
  | read (capacity : Nat)
  | cancel (id : Nat)
  | counters
  deriving DecidableEq, Repr

namespace Command

inductive Kind where
  | attributes
  | classDescriptor
  | reportDescriptor
  | mode
  | setMode
  | submit
  | submitRaw
  | read
  | cancel
  | counters

namespace Kind

def names : List (String × Kind) :=
  [("attributes", attributes), ("hid_descriptor", classDescriptor),
    ("report_descriptor", reportDescriptor), ("mode", mode), ("set_mode", setMode),
    ("submit", submit), ("submit_raw", submitRaw), ("read", read), ("cancel", cancel),
    ("stats", counters)]

end Kind

/-- The room that a reader offers if it does not say how much. -/
def defaultCapacity : Nat := 64

/-- A command without fields. Whatever members an object has are ignored. -/
def bare (command : Command) : Json → Option Command
  | .obj _ => some command
  | .arr [] => some command
  | _ => none

/-- The command of a kind that the rest of a record makes up. -/
def ofRest? (value : Json) : Kind → Option Command
  | .attributes => bare attributes value
  | .classDescriptor => bare classDescriptor value
  | .reportDescriptor => bare reportDescriptor value
  | .mode => bare mode value
  | .setMode => do
      let fields ← value.fields? ["mode"]
      return setMode (← fields.required "mode" (Mode.ofJson? .kept))
  | .submit => do
      let fields ← value.fields? ["report"]
      return submit (← fields.required "report" (Report.ofJson? .kept))
  | .submitRaw => do
      let fields ← value.fields? ["mode", "bytes"]
      let mode ← fields.required "mode" (Mode.ofJson? .kept)
      let bytes ← fields.required "bytes" (Json.list? Document.byte?)
      return submitRaw mode bytes
  | .read => do
      let fields ← value.fields? ["capacity"]
      return read (← fields.optional "capacity" Document.count? defaultCapacity)
  | .cancel => do
      let fields ← value.fields? ["id"]
      return cancel (← fields.required "id" Document.count?)
  | .counters => bare counters value

/-- A command is kept until its kind is known, so all of it must denote something. -/
def ofJson? (value : Json) : Option Command := do
  if ¬ value.isDefinite Json.maxLevels then none
  let (kind, rest) ← value.tagged? "cmd" Kind.names .direct
  ofRest? rest kind

def parse? (line : String) : Option Command := do
  ofJson? (← Json.parse? line)

end Command

end HidPointer
