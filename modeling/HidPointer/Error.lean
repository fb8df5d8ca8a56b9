import HidPointer.Bytes
import HidPointer.Mode

/-!
# Device errors

Why a request fails or a parked read ends without a report. Each cause is a constructor; the
wording is in `ModeFault.text`, `ReportFault.text` and `DeviceError.message`.
-/

set_option autoImplicit false

namespace HidPointer

/-- Why something does not denote a mode. -/
inductive ModeFault where
  | unknownTag (tag : UInt8)
  /-- No mode has the name, which is given in normal form. -/
  | unknownName (name : String)
  /-- A reason stated by an embedder. -/
  | other (reason : String)
  deriving DecidableEq, Repr

/-- Why a report, or a byte string submitted as one, is not accepted. -/
inductive ReportFault where
  | undeclaredButtons (buttons : UInt8)
  | deltaOutOfRange
  | coordinateOutOfRange (x y : UInt16)
  | tooManyContacts (count : Nat)
  | contactIdOutOfRange (id : UInt8)
  | duplicateContactId (id : UInt8)
  | wrongLength (mode : Mode) (length : Nat)
  | contactCountOutOfRange (count : UInt8)
  | wrongMode (submitted active : Mode)
  | unknownTag (tag : UInt8)
  /-- A reason stated by an embedder. -/
  | other (reason : String)
  deriving DecidableEq, Repr

/-- What a device answers instead of serving a request or delivering a report. -/
inductive DeviceError where
  | invalidMode (fault : ModeFault)
  | validation (fault : ReportFault)
  | bufferTooSmall (required capacity : Nat)
  /-- The read was withdrawn by its reader or by the removal of the device. -/
  | canceled
  /-- The read was waiting when the device switched its mode. -/
  | reconfigured
  deriving DecidableEq, Repr

namespace ModeFault

def text : ModeFault → String
  | unknownTag tag => s!"unknown mode tag {tag.toNat}"
  | unknownName name => s!"unknown mode name '{name}'"
  | other reason => reason

end ModeFault

namespace ReportFault

def text : ReportFault → String
  | undeclaredButtons buttons =>
      let digits := String.ofList (Bytes.hex buttons)
      s!"mouse buttons 0x{digits} use bits beyond the 3 declared buttons"
  | deltaOutOfRange => "mouse delta out of range -127..=127"
  | coordinateOutOfRange x y => s!"coordinate ({x.toNat}, {y.toNat}) outside 0..={coordinateMax}"
  | tooManyContacts count => s!"{count} contacts exceed capacity of {contactSlots}"
  | contactIdOutOfRange id => s!"contact id {id.toNat} out of range 0..{contactSlots}"
  | duplicateContactId id => s!"duplicate contact id {id.toNat}"
  | wrongLength mode length => s!"{mode.name} report must be {mode.byteLength} bytes, got {length}"
  | contactCountOutOfRange count =>
      s!"contact count {count.toNat} exceeds capacity of {contactSlots}"
  | wrongMode submitted active =>
      s!"{submitted.name} report submitted while device is in {active.name} mode"
  | unknownTag tag => s!"unknown report tag {tag.toNat}"
  | other reason => reason

end ReportFault

namespace DeviceError

def code : DeviceError → String
  | invalidMode _ => "invalid_mode"
  | validation _ => "validation"
  | bufferTooSmall _ _ => "buffer_too_small"
  | canceled => "canceled"
  | reconfigured => "reconfigured"

def message : DeviceError → String
  | invalidMode fault => "Invalid device mode: " ++ fault.text
  | validation fault => "Report validation failed: " ++ fault.text
  | bufferTooSmall required capacity =>
      s!"Buffer too small: report needs {required} bytes, buffer holds {capacity}"
  | canceled => "Read canceled"
  | reconfigured => "Device reconfigured"

/-- The sentence among errors that do not come from a device. -/
def qualifiedMessage (error : DeviceError) : String :=
  "HID error: " ++ error.message

end DeviceError

namespace Mode

def ofTag (tag : UInt8) : Except DeviceError Mode :=
  match ofTag? tag with
  | some mode => .ok mode
  | none => .error (.invalidMode (.unknownTag tag))

def ofName (text : String) : Except DeviceError Mode :=
  match ofName? text with
  | some mode => .ok mode
  | none => .error (.invalidMode (.unknownName (normalize text)))

end Mode

end HidPointer
