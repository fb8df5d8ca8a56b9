import HidPointer.Config
import HidPointer.Device.Request
import HidPointer.Json.Reader

/-!
# JSON shapes of the small types

How modes, policies, counters, identities, transitions and submission statuses are written and
read. Where a type occurs inside values that may have been kept, its reader takes the route.
-/

set_option autoImplicit false

namespace HidPointer

namespace Mode

def toJson (mode : Mode) : Json :=
  .text mode.name

def ofJson? (route : Json.Route) : Json → Option Mode :=
  Json.variant? names route

end Mode

namespace Overflow

def toJson (overflow : Overflow) : Json :=
  .text overflow.name

end Overflow

namespace DropReason

def name : DropReason → String
  | overflow => "overflow"
  | bufferTooSmall => "buffer_too_small"

def names : List (String × DropReason) :=
  [overflow, bufferTooSmall].map fun reason => (reason.name, reason)

def toJson (reason : DropReason) : Json :=
  .text reason.name

def ofJson? (route : Json.Route) : Json → Option DropReason :=
  Json.variant? names route

end DropReason

namespace Policy

def toJson (policy : Policy) : Json :=
  .object [("capacity", .nat policy.capacity), ("overflow", policy.overflow.toJson)]

end Policy

namespace Counters

def toJson (counters : Counters) : Json :=
  .object
    [("accepted", .nat counters.accepted), ("delivered", .nat counters.delivered),
      ("buffered", .nat counters.buffered), ("overflow_drops", .nat counters.overflowDrops),
      ("too_small_drops", .nat counters.tooSmallDrops), ("rejected", .nat counters.rejected),
      ("canceled", .nat counters.canceled), ("reconfigured", .nat counters.reconfigured)]

def ofJson? (value : Json) : Option Counters := do
  let fields ← value.fields?
    ["accepted", "delivered", "buffered", "overflow_drops", "too_small_drops", "rejected",
      "canceled", "reconfigured"]
  let accepted ← fields.required "accepted" Document.count?
  let delivered ← fields.required "delivered" Document.count?
  let buffered ← fields.required "buffered" Document.count?
  let overflowDrops ← fields.required "overflow_drops" Document.count?
  let tooSmallDrops ← fields.required "too_small_drops" Document.count?
  let rejected ← fields.required "rejected" Document.count?
  let canceled ← fields.required "canceled" Document.count?
  let reconfigured ← fields.required "reconfigured" Document.count?
  return { accepted, delivered, buffered, overflowDrops, tooSmallDrops, rejected, canceled,
           reconfigured }

end Counters

namespace Attributes

def toJson (attributes : Attributes) : Json :=
  .object
    [("vendor_id", .nat attributes.vendorId.toNat),
      ("product_id", .nat attributes.productId.toNat),
      ("version_number", .nat attributes.versionNumber.toNat)]

def ofJson? (value : Json) : Option Attributes := do
  let fields ← value.fields? ["vendor_id", "product_id", "version_number"]
  let vendorId ← fields.required "vendor_id" Document.word?
  let productId ← fields.required "product_id" Document.word?
  let versionNumber ← fields.required "version_number" Document.word?
  return { vendorId, productId, versionNumber }

end Attributes

namespace Transition

def members (transition : Transition) : List (String × Json) :=
  [("from", transition.source.toJson), ("to", transition.target.toJson),
    ("epoch", .nat transition.epoch)]

def toJson (transition : Transition) : Json :=
  .object transition.members

/-- The transition that the fields of a record make up. -/
def ofFields? (route : Json.Route) (fields : Fields Json) : Option Transition := do
  let source ← fields.required "from" (Mode.ofJson? route)
  let target ← fields.required "to" (Mode.ofJson? route)
  let epoch ← fields.required "epoch" Document.count?
  return { source, target, epoch }

def ofJson? (value : Json) : Option Transition := do
  ofFields? .direct (← value.fields? ["from", "to", "epoch"])

end Transition

namespace SubmitStatus

inductive Kind where
  | delivered
  | buffered
  | bufferedWithDrop
  | dropped

namespace Kind

def name : Kind → String
  | delivered => "delivered"
  | buffered => "buffered"
  | bufferedWithDrop => "buffered_with_drop"
  | dropped => "dropped"

def names : List (String × Kind) :=
  [delivered, buffered, bufferedWithDrop, dropped].map fun kind => (kind.name, kind)

end Kind

def toJson : SubmitStatus → Json
  | delivered id =>
      .object [("status", .text Kind.delivered.name), ("request_id", .nat id)]
  | buffered => .object [("status", .text Kind.buffered.name)]
  | bufferedWithDrop => .object [("status", .text Kind.bufferedWithDrop.name)]
  | dropped => .object [("status", .text Kind.dropped.name)]

/-- Contents that say nothing: none at all, or null. -/
def isBare : Option (Json.Route × Json) → Bool
  | none => true
  | some (_, .null) => true
  | some _ => false

def ofJson? (value : Json) : Option SubmitStatus := do
  let (kind, contents) ← value.tagAndContent? "status" "request_id" Kind.names
  match kind with
  | .delivered => (Document.count? (← contents).2).map delivered
  | .buffered => if isBare contents then some buffered else none
  | .bufferedWithDrop => if isBare contents then some bufferedWithDrop else none
  | .dropped => if isBare contents then some dropped else none

end SubmitStatus

end HidPointer
