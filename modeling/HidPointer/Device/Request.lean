import HidPointer.Config
import HidPointer.Event
import HidPointer.Queue
import HidPointer.Report

/-!
# Requests

What can be asked of a device and what it answers. A read carries its completion, which is
whatever the asker wants back with the result.
-/

set_option autoImplicit false

namespace HidPointer

inductive Request (κ : Type) where
  | attributes
  | classDescriptor
  | reportDescriptor
  | mode
  | setMode (tag : UInt8)
  | submit (report : Report)
  | submitRaw (tag : UInt8) (bytes : Bytes)
  | read (capacity : Nat) (completion : κ)
  | cancel (id : Nat)
  | counters

/-- What happened to an accepted report. -/
inductive SubmitStatus where
  | delivered (id : Nat)
  | buffered
  /-- Buffered in the place of an earlier report. -/
  | bufferedWithDrop
  | dropped
  deriving DecidableEq, Repr

/-- The answer to a request that did not fail. -/
inductive Response where
  | attributes (attributes : Attributes)
  | classDescriptor (bytes : Bytes)
  | reportDescriptor (bytes : Bytes)
  | mode (mode : Mode)
  | modeSet (transition : Transition)
  | accepted (status : SubmitStatus)
  /-- The read got a report at once; its completion is not used. -/
  | ready (bytes : Bytes)
  /-- The read is parked under this number. -/
  | pending (id : Nat)
  | canceled (wasParked : Bool)
  | counters (counters : Counters)
  deriving DecidableEq, Repr

abbrev Reply := Except DeviceError Response

namespace Request

variable {κ : Type}

def name : Request κ → String
  | attributes => "get_attributes"
  | classDescriptor => "get_hid_descriptor"
  | reportDescriptor => "get_report_descriptor"
  | mode => "get_mode"
  | setMode _ => "set_device_mode"
  | submit _ => "submit_input_report"
  | submitRaw _ _ => "submit_raw_report"
  | read _ _ => "read_input_report"
  | cancel _ => "cancel_read"
  | counters => "get_stats"

/-- The same request, with another completion if it is a read. -/
def map {α : Type} (change : κ → α) : Request κ → Request α
  | attributes => .attributes
  | classDescriptor => .classDescriptor
  | reportDescriptor => .reportDescriptor
  | mode => .mode
  | setMode tag => .setMode tag
  | submit report => .submit report
  | submitRaw tag bytes => .submitRaw tag bytes
  | read capacity completion => .read capacity (change completion)
  | cancel id => .cancel id
  | counters => .counters

end Request

end HidPointer
