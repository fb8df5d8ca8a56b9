import HidPointer.Error
import HidPointer.Report

/-!
# Wire form of reports

`Report.encode` lays a report out as the descriptor of its mode declares it, and refuses one with
a field outside the declared range. `Report.decode` reads the bytes of a mode back; it ignores
the bits that carry no field and the contact slots beyond the contact count.
-/

set_option autoImplicit false

namespace HidPointer

/-- Both coordinates of a point must be within the surface. -/
def checkCoordinates (x y : UInt16) : Except ReportFault Unit :=
  if coordinateMax < x.toNat ∨ coordinateMax < y.toNat then
    .error (.coordinateOutOfRange x y)
  else .ok ()

namespace Contact

/-- Presence, identifier and coordinates: one contact slot. -/
def slot (contact : Contact) : Bytes :=
  contact.present.toUInt8 :: contact.id ::
    (Bytes.ofWord contact.x ++ Bytes.ofWord contact.y)

/-- The slots of a list of contacts. Each identifier must name a slot that no earlier contact
named. -/
def encodeSlots (seen : List UInt8) : List Contact → Except ReportFault Bytes
  | [] => .ok []
  | contact :: contacts =>
      if contactSlots ≤ contact.id.toNat then .error (.contactIdOutOfRange contact.id)
      else if contact.id ∈ seen then .error (.duplicateContactId contact.id)
      else do
        checkCoordinates contact.x contact.y
        let rest ← encodeSlots (contact.id :: seen) contacts
        return contact.slot ++ rest

def decodeSlots : Nat → Bytes → List Contact
  | count + 1, present :: id :: xLow :: xHigh :: yLow :: yHigh :: rest =>
      { id := id
        present := present % 2 == 1
        x := Bytes.toWord xLow xHigh
        y := Bytes.toWord yLow yHigh } :: decodeSlots count rest
  | _, _ => []

end Contact

namespace Report

def encode : Report → Except ReportFault Bytes
  | mouse buttons dx dy =>
      if 8 ≤ buttons then .error (.undeclaredButtons buttons)
      else if dx = -128 ∨ dy = -128 then .error .deltaOutOfRange
      else .ok [buttons, dx.toUInt8, dy.toUInt8]
  | singleTouch present x y => do
      checkCoordinates x y
      return present.toUInt8 :: (Bytes.ofWord x ++ Bytes.ofWord y)
  | multiTouch contacts =>
      if contactSlots < contacts.length then .error (.tooManyContacts contacts.length)
      else do
        let slots ← Contact.encodeSlots [] contacts
        let unused := List.replicate ((contactSlots - contacts.length) * contactSlotLength) 0
        return slots ++ unused ++ [UInt8.ofNat contacts.length]

/-- The report of a mode that a byte string encodes. -/
def decode (mode : Mode) (bytes : Bytes) : Except ReportFault Report :=
  match mode, bytes with
  | .mouse, [buttons, dx, dy] => .ok (.mouse (buttons % 8) dx.toInt8 dy.toInt8)
  | .singleTouch, [present, xLow, xHigh, yLow, yHigh] =>
      .ok (.singleTouch (present % 2 == 1) (Bytes.toWord xLow xHigh) (Bytes.toWord yLow yHigh))
  | .multiTouch, bytes =>
      match bytes.drop (contactSlots * contactSlotLength) with
      | [count] =>
          if contactSlots < count.toNat then .error (.contactCountOutOfRange count)
          else .ok (.multiTouch (Contact.decodeSlots count.toNat bytes))
      | _ => .error (.wrongLength .multiTouch bytes.length)
  | mode, bytes => .error (.wrongLength mode bytes.length)

end Report

end HidPointer
