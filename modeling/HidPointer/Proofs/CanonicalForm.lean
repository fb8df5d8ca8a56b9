import HidPointer.Proofs.WireForm
import Mathlib.Data.List.Basic

/-!
# Bytes that come back changed

Any bytes of the right length can be submitted raw, and are decoded if their contact count is one
that a report can have. `fieldMasks` are the bits of a report that carry a field. A decoded report
that can be encoded at all is encoded as the bytes it came from, with all other bits cleared
(`Report.reencoding_clears_the_rest`).
-/

set_option autoImplicit false

namespace HidPointer

namespace Bytes

/-- The word at an offset, if there is a whole one. -/
def word? (bytes : Bytes) (offset : Nat) : Option UInt16 := do
  return toWord (← bytes[offset]?) (← bytes[offset + 1]?)

/-- What the last byte says when it is a contact count. -/
def contactCount (bytes : Bytes) : Nat :=
  (bytes.getLast?.getD 0).toNat

structure WellFormed (bytes : Bytes) (mode : Mode) : Prop where
  length : bytes.length = mode.byteLength
  count : mode = .multiTouch → bytes.contactCount ≤ contactSlots

def OffSurfaceAt (bytes : Bytes) (offset : Nat) : Prop :=
  ∃ coordinate, bytes.word? offset = some coordinate ∧ coordinateMax < coordinate.toNat

/-- Where the identifier of a contact stands. -/
def idOffset (slot : Nat) : Nat :=
  slot * contactSlotLength + 1

/-- What the bytes of a contact slot say is not to be said of a contact, given the slots before. -/
def UndeclaredSlot (bytes : Bytes) (slot : Nat) : Prop :=
  bytes.OffSurfaceAt (slot * contactSlotLength + 2) ∨
    bytes.OffSurfaceAt (slot * contactSlotLength + 4) ∨
      (∃ id, bytes[idOffset slot]? = some id ∧ contactSlots ≤ id.toNat) ∨
        ∃ earlier < slot, bytes[idOffset earlier]? = bytes[idOffset slot]?

/-- A field that is in use has a value that the descriptor does not declare, or two contacts have
the same identifier. -/
def Undeclared (bytes : Bytes) : Mode → Prop
  | .mouse => bytes[1]? = some 0x80 ∨ bytes[2]? = some 0x80
  | .singleTouch => bytes.OffSurfaceAt 1 ∨ bytes.OffSurfaceAt 3
  | .multiTouch => ∃ slot < bytes.contactCount, bytes.UndeclaredSlot slot

end Bytes

namespace Contact

/-- The presence of a contact is one bit of its byte. -/
def slotMask : Bytes :=
  [0x01, 0xff, 0xff, 0xff, 0xff, 0xff]

structure StandsAt (contact : Contact) (bytes : Bytes) (offset : Nat) : Prop where
  present : ∃ byte, bytes[offset]? = some byte ∧ contact.present = byte.toNat.testBit 0
  id : bytes[offset + 1]? = some contact.id
  x : bytes.word? (offset + 2) = some contact.x
  y : bytes.word? (offset + 4) = some contact.y

end Contact

namespace Report

/-- Every field of the report is in the bytes, at its own offset. -/
def StandsIn (bytes : Bytes) : Report → Prop
  | mouse buttons dx dy =>
      (∃ byte, bytes[0]? = some byte ∧ buttons = byte &&& 0x07) ∧
        bytes[1]? = some dx.toUInt8 ∧ bytes[2]? = some dy.toUInt8
  | singleTouch present x y =>
      (∃ byte, bytes[0]? = some byte ∧ present = byte.toNat.testBit 0) ∧
        bytes.word? 1 = some x ∧ bytes.word? 3 = some y
  | multiTouch contacts =>
      contacts.length = bytes.contactCount ∧
        ∀ (slot : Nat) (contact : Contact), contacts[slot]? = some contact →
          contact.StandsAt bytes (slot * contactSlotLength)

/-- The bits that carry a field, byte by byte. `count` is the number of contacts. -/
def fieldMasks (count : Nat) : Mode → Bytes
  | .mouse => [0x07, 0xff, 0xff]
  | .singleTouch => [0x01, 0xff, 0xff, 0xff, 0xff]
  | .multiTouch =>
      (List.replicate count Contact.slotMask).flatten ++
        (List.replicate ((contactSlots - count) * contactSlotLength) 0x00 ++ [0xff])

end Report

/-- The bytes with only those bits kept that carry a field. -/
def Bytes.cleared (bytes : Bytes) (mode : Mode) : Bytes :=
  List.zipWith (· &&& ·) bytes (Report.fieldMasks bytes.contactCount mode)

/-- No bit is set but those that carry a field. -/
def Bytes.IsClear (bytes : Bytes) (mode : Mode) : Prop :=
  ∀ (offset : Nat) (byte mask : UInt8), bytes[offset]? = some byte →
    (Report.fieldMasks bytes.contactCount mode)[offset]? = some mask →
      byte &&& ~~~mask = 0

section Bits

variable (byte mask : UInt8)

private theorem and_eq_self_iff : byte &&& mask = byte ↔ byte &&& ~~~mask = 0 := by
  constructor
  · intro kept
    rw [← kept, UInt8.and_assoc, UInt8.and_not_self, UInt8.and_zero]
  · intro clear
    have split : byte &&& (mask ||| ~~~mask) = byte &&& mask ||| byte &&& ~~~mask :=
      UInt8.toBitVec_inj.mp (BitVec.and_or_distrib_left ..)
    rw [clear, UInt8.or_zero, UInt8.or_not_self, UInt8.and_neg_one] at split
    exact split.symm

private theorem and_ff : byte &&& 0xff = byte :=
  UInt8.and_neg_one

private theorem mod_eight : byte % 8 = byte &&& 0x07 := by
  apply UInt8.toNat_inj.mp
  rw [UInt8.toNat_mod, UInt8.toNat_and]
  exact (Nat.and_two_pow_sub_one_eq_mod byte.toNat 3).symm

private theorem mod_two : (byte % 2 == 1) = byte.toNat.testBit 0 := by
  rw [Nat.testBit_zero, beq_eq_decide, decide_eq_decide, ← UInt8.toNat_inj, UInt8.toNat_mod]
  rfl

private theorem presence_byte : (byte % 2 == 1).toUInt8 = byte &&& 0x01 := by
  have last : byte &&& 0x01 = byte % 2 := by
    apply UInt8.toNat_inj.mp
    rw [UInt8.toNat_mod, UInt8.toNat_and]
    exact Nat.and_two_pow_sub_one_eq_mod byte.toNat 1
  have small : (byte % 2).toNat < 2 := UInt8.toNat_mod .. ▸ Nat.mod_lt _ (by decide)
  rw [last]
  obtain off | on : (byte % 2).toNat = 0 ∨ (byte % 2).toNat = 1 := by omega
  · obtain same : byte % 2 = 0 := UInt8.toNat_inj.mp off
    rw [same]
    rfl
  · obtain same : byte % 2 = 1 := UInt8.toNat_inj.mp on
    rw [same]
    rfl

end Bits

namespace Bytes

theorem word?_append {front : Bytes} (behind : Bytes) (offset : Nat) :
    word? (front ++ behind) (front.length + offset) = behind.word? offset := by
  simp only [word?, Nat.add_assoc, List.getElem?_append_right (Nat.le_add_right ..),
    Nat.add_sub_cancel_left]

theorem getLast?_of_drop {bytes : Bytes} {offset : Nat} {last : UInt8}
    (rest : bytes.drop offset = [last]) : bytes.getLast? = some last := by
  rw [← List.take_append_drop offset bytes, rest, List.getLast?_concat]

theorem contactCount_of_drop {bytes : Bytes} {offset : Nat} {last : UInt8}
    (rest : bytes.drop offset = [last]) : bytes.contactCount = last.toNat := by
  rw [contactCount, getLast?_of_drop rest]
  rfl

end Bytes

namespace Contact

variable {bytes : Bytes}

theorem StandsAt.append {contact : Contact} {behind : Bytes} {offset : Nat}
    (stands : contact.StandsAt behind offset) (front : Bytes) :
    contact.StandsAt (front ++ behind) (front.length + offset) := by
  obtain ⟨present, id, x, y⟩ := stands
  constructor
  · rwa [List.getElem?_append_right (Nat.le_add_right ..), Nat.add_sub_cancel_left]
  · rwa [Nat.add_assoc, List.getElem?_append_right (Nat.le_add_right ..), Nat.add_sub_cancel_left]
  · rwa [Nat.add_assoc, Bytes.word?_append]
  · rwa [Nat.add_assoc, Bytes.word?_append]

theorem length_slotMasks (count : Nat) :
    (List.replicate count slotMask).flatten.length = count * contactSlotLength := by
  simp [slotMask, contactSlotLength]

theorem exists_slot (covers : contactSlotLength ≤ bytes.length) :
    ∃ presence id xLow xHigh yLow yHigh rest,
      bytes = presence :: id :: xLow :: xHigh :: yLow :: yHigh :: rest := by
  match bytes, covers with
  | presence :: id :: xLow :: xHigh :: yLow :: yHigh :: rest, _ =>
      exact ⟨presence, id, xLow, xHigh, yLow, yHigh, rest, rfl⟩
  | [], covers | [_], covers | [_, _], covers | [_, _, _], covers | [_, _, _, _], covers
  | [_, _, _, _, _], covers => simp [contactSlotLength] at covers

/-- Each of so many slots is decoded, and nothing else is looked at. -/
theorem decodeSlots_stand {count : Nat} (covers : count * contactSlotLength ≤ bytes.length) :
    (decodeSlots count bytes).length = count ∧
      ∀ (slot : Nat) (contact : Contact), (decodeSlots count bytes)[slot]? = some contact →
        contact.StandsAt bytes (slot * contactSlotLength) := by
  induction count generalizing bytes with
  | zero => simp [decodeSlots]
  | succ count ih =>
      rw [Nat.succ_mul] at covers
      obtain ⟨presence, id, xLow, xHigh, yLow, yHigh, rest, rfl⟩ :=
        exists_slot (Nat.le_of_add_left_le covers)
      have remains : count * contactSlotLength ≤ rest.length := Nat.le_of_add_le_add_right covers
      obtain ⟨length, stand⟩ := ih remains
      refine ⟨congrArg (· + 1) length, ?_⟩
      intro slot contact here
      cases slot with
      | zero =>
          cases here
          exact ⟨⟨presence, rfl, mod_two presence⟩, rfl, rfl, rfl⟩
      | succ slot =>
          have later := (stand slot contact here).append [presence, id, xLow, xHigh, yLow, yHigh]
          rw [Nat.succ_mul, Nat.add_comm]
          exact later

/-- The slots of the decoded contacts are those they were decoded from, but for the other bits of
the presence bytes. -/
theorem flatMap_slot_decodeSlots {count : Nat} {front : Bytes}
    (covers : front.length = count * contactSlotLength) (behind : Bytes) :
    (decodeSlots count (front ++ behind)).flatMap slot =
      List.zipWith (· &&& ·) front (List.replicate count slotMask).flatten := by
  induction count generalizing front with
  | zero => simp [decodeSlots]
  | succ count ih =>
      rw [Nat.succ_mul] at covers
      obtain ⟨presence, id, xLow, xHigh, yLow, yHigh, rest, rfl⟩ :=
        exists_slot (Nat.le_of_add_left_le (Nat.le_of_eq covers.symm))
      have covers : rest.length + contactSlotLength = count * contactSlotLength + _ := covers
      have remains : rest.length = count * contactSlotLength := Nat.add_right_cancel covers
      simp only [List.cons_append, decodeSlots, List.flatMap_cons, ih remains, slot,
        presence_byte, Bytes.ofWord_toWord, List.replicate_succ, List.flatten_cons, slotMask,
        List.zipWith_cons_cons, and_ff, List.nil_append]

end Contact

namespace Report

variable {bytes : Bytes} {report : Report}

theorem decode_mouse_eq_ok_iff :
    decode .mouse bytes = .ok report ↔ ∃ buttons dx dy, bytes = [buttons, dx, dy] ∧
      report = .mouse (buttons &&& 0x07) dx.toInt8 dy.toInt8 := by
  constructor
  · intro decoded
    unfold decode at decoded
    split at decoded
    · cases decoded
      exact ⟨_, _, _, rfl, by rw [mod_eight]⟩
    all_goals simp_all
  · intro parts
    obtain ⟨buttons, dx, dy, rfl, rfl⟩ := parts
    rw [decode, mod_eight]

theorem decode_singleTouch_eq_ok_iff :
    decode .singleTouch bytes = .ok report ↔
      ∃ presence xLow xHigh yLow yHigh, bytes = [presence, xLow, xHigh, yLow, yHigh] ∧
        report = .singleTouch (presence % 2 == 1) (Bytes.toWord xLow xHigh)
          (Bytes.toWord yLow yHigh) := by
  constructor
  · intro decoded
    unfold decode at decoded
    split at decoded
    · contradiction
    · cases decoded
      exact ⟨_, _, _, _, _, rfl, rfl⟩
    all_goals simp_all
  · intro parts
    obtain ⟨presence, xLow, xHigh, yLow, yHigh, rfl, rfl⟩ := parts
    rfl

theorem decode_multiTouch_eq_ok_iff :
    decode .multiTouch bytes = .ok report ↔
      ∃ count, bytes.drop (contactSlots * contactSlotLength) = [count] ∧
        count.toNat ≤ contactSlots ∧
          report = .multiTouch (Contact.decodeSlots count.toNat bytes) := by
  constructor
  · intro decoded
    simp only [decode] at decoded
    split at decoded
    · rename_i count last
      split at decoded
      · cases decoded
      · rename_i few
        cases decoded
        exact ⟨count, last, Nat.not_lt.mp few, rfl⟩
    · cases decoded
  · intro parts
    obtain ⟨count, last, few, rfl⟩ := parts
    simp only [decode, last, if_neg (Nat.not_lt.mpr few)]

theorem decode_isOk_iff {mode : Mode} :
    (∃ report, decode mode bytes = .ok report) ↔ bytes.WellFormed mode := by
  cases mode with
  | mouse =>
      constructor
      · intro accepted
        obtain ⟨report, decoded⟩ := accepted
        obtain ⟨buttons, dx, dy, rfl, _⟩ := decode_mouse_eq_ok_iff.mp decoded
        exact ⟨rfl, nofun⟩
      · intro wellFormed
        have length := wellFormed.length
        obtain ⟨buttons, dx, dy, rfl⟩ := List.length_eq_three.mp length
        exact ⟨_, rfl⟩
  | singleTouch =>
      constructor
      · intro accepted
        obtain ⟨report, decoded⟩ := accepted
        obtain ⟨_, _, _, _, _, rfl, _⟩ := decode_singleTouch_eq_ok_iff.mp decoded
        exact ⟨rfl, nofun⟩
      · intro wellFormed
        have length := wellFormed.length
        match bytes, length with
        | [_, _, _, _, _], _ => exact ⟨_, rfl⟩
  | multiTouch =>
      have last : bytes.length = Mode.multiTouch.byteLength ↔
          ∃ count, bytes.drop (contactSlots * contactSlotLength) = [count] := by
        rw [← List.length_eq_one_iff, List.length_drop]
        simp only [Mode.byteLength, contactSlots, contactSlotLength]
        omega
      constructor
      · intro accepted
        obtain ⟨report, decoded⟩ := accepted
        obtain ⟨count, rest, few, _⟩ := decode_multiTouch_eq_ok_iff.mp decoded
        refine ⟨last.mpr ⟨count, rest⟩, fun _ => ?_⟩
        rw [Bytes.contactCount_of_drop rest]
        exact few
      · intro wellFormed
        obtain ⟨count, rest⟩ := last.mp wellFormed.length
        have few := wellFormed.count rfl
        rw [Bytes.contactCount_of_drop rest] at few
        exact ⟨_, decode_multiTouch_eq_ok_iff.mpr ⟨count, rest, few, rfl⟩⟩

/-- A decoded report is of the mode, and is nothing but what the bytes say. -/
theorem standsIn_of_decode {mode : Mode} (decoded : decode mode bytes = .ok report) :
    report.mode = mode ∧ report.StandsIn bytes := by
  cases mode with
  | mouse =>
      obtain ⟨buttons, dx, dy, rfl, rfl⟩ := decode_mouse_eq_ok_iff.mp decoded
      exact ⟨rfl, ⟨buttons, rfl, rfl⟩, rfl, rfl⟩
  | singleTouch =>
      obtain ⟨presence, xLow, xHigh, yLow, yHigh, rfl, rfl⟩ :=
        decode_singleTouch_eq_ok_iff.mp decoded
      exact ⟨rfl, ⟨presence, rfl, mod_two presence⟩, rfl, rfl⟩
  | multiTouch =>
      obtain ⟨count, rest, few, rfl⟩ := decode_multiTouch_eq_ok_iff.mp decoded
      have covers : count.toNat * contactSlotLength ≤ bytes.length := by
        have length := congrArg List.length rest
        rw [List.length_drop, List.length_singleton] at length
        simp only [contactSlots, contactSlotLength] at few length ⊢
        omega
      obtain ⟨length, stand⟩ := Contact.decodeSlots_stand covers
      refine ⟨rfl, ?_, stand⟩
      rw [length, Bytes.contactCount_of_drop rest]

theorem offSurfaceAt_iff {offset : Nat} {coordinate : UInt16}
    (here : bytes.word? offset = some coordinate) :
    bytes.OffSurfaceAt offset ↔ ¬ coordinate.toNat ≤ coordinateMax := by
  rw [Bytes.OffSurfaceAt, here, Nat.not_le]
  simp

theorem undeclaredSlot_iff {contacts : List Contact}
    (stand : (multiTouch contacts).StandsIn bytes) {slot : Nat} {contact : Contact}
    (here : contacts[slot]? = some contact) :
    bytes.UndeclaredSlot slot ↔
      ¬ contact.InRange ∨
        ∃ earlier < slot, ∃ other, contacts[earlier]? = some other ∧ other.id = contact.id := by
  obtain ⟨length, stand⟩ := stand
  obtain ⟨_, id, x, y⟩ := stand slot contact here
  have inRange : contact.InRange ↔ contact.x.toNat ≤ coordinateMax ∧
      contact.y.toNat ≤ coordinateMax ∧ contact.id.toNat < contactSlots :=
    ⟨fun ⟨id, x, y⟩ => ⟨x, y, id⟩, fun ⟨x, y, id⟩ => ⟨id, x, y⟩⟩
  have repeated :
      (∃ earlier < slot, bytes[Bytes.idOffset earlier]? = bytes[Bytes.idOffset slot]?) ↔
        ∃ earlier < slot, ∃ other, contacts[earlier]? = some other ∧ other.id = contact.id := by
    refine exists_congr fun earlier => and_congr_right fun before => ?_
    have present : earlier < contacts.length :=
      Nat.lt_trans before (List.getElem?_eq_some_iff.mp here).1
    have there := List.getElem?_eq_getElem present
    rw [Bytes.idOffset, Bytes.idOffset, (stand earlier _ there).id, id]
    simp [there]
  rw [Bytes.UndeclaredSlot, offSurfaceAt_iff x, offSurfaceAt_iff y, repeated, inRange,
    Bytes.idOffset, id]
  simp only [Option.some.injEq, exists_eq_left', not_and_or, Nat.not_lt, or_assoc]

theorem undeclaredSlots_iff {contacts : List Contact}
    (stand : (multiTouch contacts).StandsIn bytes) :
    (∃ slot < contacts.length, bytes.UndeclaredSlot slot) ↔
      ¬ ((∀ contact ∈ contacts, contact.InRange) ∧ contacts.Pairwise (·.id ≠ ·.id)) := by
  constructor
  · intro declaration sound
    obtain ⟨slot, inside, undeclared⟩ := declaration
    obtain ⟨inRange, distinct⟩ := sound
    have here := List.getElem?_eq_getElem inside
    cases (undeclaredSlot_iff stand here).mp undeclared with
    | inl outOfRange => exact outOfRange (inRange _ (List.getElem_mem inside))
    | inr repeated =>
        obtain ⟨earlier, before, other, there, same⟩ := repeated
        obtain ⟨present, rfl⟩ := List.getElem?_eq_some_iff.mp there
        exact List.pairwise_iff_getElem.mp distinct earlier slot present inside before same
  · intro outOfRange
    by_contra declared
    apply outOfRange
    have each (slot : Nat) (inside : slot < contacts.length) :=
      (undeclaredSlot_iff stand (List.getElem?_eq_getElem inside)).not.mp
        fun undeclared => declared ⟨slot, inside, undeclared⟩
    refine ⟨?_, ?_⟩
    · intro contact member
      obtain ⟨slot, inside, rfl⟩ := List.getElem_of_mem member
      exact not_not.mp (not_or.mp (each slot inside)).1
    · rw [List.pairwise_iff_getElem]
      intro earlier slot present inside before same
      exact (not_or.mp (each slot inside)).2
        ⟨earlier, before, _, List.getElem?_eq_getElem present, same⟩

/-- A decoded report has a field out of range exactly if the bytes it comes from have one. -/
theorem undeclared_iff (stand : report.StandsIn bytes)
    (few : report.mode = .multiTouch → bytes.contactCount ≤ contactSlots) :
    bytes.Undeclared report.mode ↔ ¬ report.InRange := by
  cases report with
  | mouse buttons dx dy =>
      obtain ⟨⟨byte, _, rfl⟩, isDx, isDy⟩ := stand
      have declared : byte &&& 0x07 < 8 := by
        rw [← mod_eight]
        exact UInt8.mod_lt byte (by decide)
      have lowest (delta : Int8) : delta.toUInt8 = 0x80 ↔ delta = -128 :=
        ⟨fun same => delta.toInt8_toUInt8.symm.trans (congrArg UInt8.toInt8 same),
          congrArg Int8.toUInt8⟩
      rw [mode, Bytes.Undeclared, InRange, isDx, isDy, Option.some.injEq, Option.some.injEq, lowest,
        lowest, ← buttons_lt_iff, and_iff_right declared, not_and_or, not_not, not_not]
  | singleTouch present x y =>
      obtain ⟨_, isX, isY⟩ := stand
      rw [mode, Bytes.Undeclared, InRange, OnSurface, offSurfaceAt_iff isX, offSurfaceAt_iff isY,
        not_and_or]
  | multiTouch contacts =>
      have length := stand.1
      have few : contacts.length ≤ contactSlots := by
        rw [length]
        exact few rfl
      rw [mode, Bytes.Undeclared, InRange, and_iff_right few, ← length]
      exact undeclaredSlots_iff stand

private theorem zipWith_zeros (bytes : Bytes) :
    List.zipWith (· &&& ·) bytes (List.replicate bytes.length 0x00) =
      List.replicate bytes.length 0 := by
  induction bytes with
  | nil => rfl
  | cons byte bytes ih =>
      rw [List.length_cons, List.replicate_succ, List.zipWith_cons_cons, ih, UInt8.and_zero]

/-- The bytes in three parts: the slots in use, those that are not, and the count. -/
private theorem exists_parts {count : UInt8}
    (rest : bytes.drop (contactSlots * contactSlotLength) = [count])
    (few : count.toNat ≤ contactSlots) :
    ∃ front middle : Bytes, bytes = front ++ (middle ++ [count]) ∧
      front.length = count.toNat * contactSlotLength ∧
      middle.length = (contactSlots - count.toNat) * contactSlotLength := by
  have whole := congrArg List.length rest
  rw [List.length_drop, List.length_singleton] at whole
  have used : count.toNat * contactSlotLength ≤ contactSlots * contactSlotLength :=
    Nat.mul_le_mul_right _ few
  have width : (bytes.take (contactSlots * contactSlotLength)).length =
      contactSlots * contactSlotLength := by
    rw [List.length_take]
    omega
  refine ⟨bytes.take (count.toNat * contactSlotLength),
    (bytes.take (contactSlots * contactSlotLength)).drop (count.toNat * contactSlotLength),
    ?_, ?_, ?_⟩
  · rw [← rest, ← List.drop_append_of_le_length (by rwa [width]), List.take_append_drop,
      List.take_append_drop]
  · rw [List.length_take]
    omega
  · rw [List.length_drop, width, Nat.sub_mul]

/-- A decoded report is encoded as the bytes it was decoded from, with the other bits cleared. -/
theorem encode_eq_cleared {mode : Mode} (decoded : decode mode bytes = .ok report)
    (inRange : report.InRange) : report.encode = .ok (bytes.cleared mode) := by
  obtain ⟨encoding, encoded⟩ := encode_isOk_iff.mpr inRange
  rw [encoded]
  apply congrArg Except.ok
  cases mode with
  | mouse =>
      obtain ⟨buttons, dx, dy, rfl, rfl⟩ := decode_mouse_eq_ok_iff.mp decoded
      obtain ⟨_, rfl⟩ := encode_mouse_eq_ok_iff.mp encoded
      simp [Bytes.cleared, fieldMasks, and_ff]
  | singleTouch =>
      obtain ⟨presence, xLow, xHigh, yLow, yHigh, rfl, rfl⟩ :=
        decode_singleTouch_eq_ok_iff.mp decoded
      obtain ⟨_, rfl⟩ := encode_singleTouch_eq_ok_iff.mp encoded
      simp [Bytes.cleared, fieldMasks, and_ff, presence_byte, Bytes.ofWord_toWord]
  | multiTouch =>
      obtain ⟨count, rest, few, rfl⟩ := decode_multiTouch_eq_ok_iff.mp decoded
      obtain ⟨_, slots, filled, rfl⟩ := encode_multiTouch_eq_ok_iff.mp encoded
      obtain rfl := Contact.encodeSlots_eq_flatMap filled
      obtain ⟨front, middle, rfl, used, unused⟩ := exists_parts rest few
      have slots := Contact.flatMap_slot_decodeSlots used (middle ++ [count])
      have covers : count.toNat * contactSlotLength ≤ (front ++ (middle ++ [count])).length := by
        rw [← used, List.length_append]
        exact Nat.le_add_right ..
      have number := (Contact.decodeSlots_stand covers).1
      have masks := (Contact.length_slotMasks count.toNat).trans used.symm
      rw [Bytes.cleared, Bytes.contactCount_of_drop rest, fieldMasks,
        List.zipWith_append masks.symm, List.zipWith_append (by simp [unused]), ← unused,
        zipWith_zeros, slots, number, ← unused, UInt8.ofNat_toNat, List.append_assoc]
      simp [and_ff]

theorem length_fieldMasks {count : Nat} {mode : Mode}
    (few : mode = .multiTouch → count ≤ contactSlots) :
    (fieldMasks count mode).length = mode.byteLength := by
  cases mode with
  | mouse => rfl
  | singleTouch => rfl
  | multiTouch =>
      rw [fieldMasks, List.length_append, Contact.length_slotMasks, List.length_append,
        List.length_replicate, ← Nat.add_assoc, ← Nat.add_mul, Nat.add_sub_cancel' (few rfl)]
      rfl

private theorem zipWith_and_eq_self_iff {bytes masks : Bytes}
    (same : masks.length = bytes.length) :
    List.zipWith (· &&& ·) bytes masks = bytes ↔
      ∀ (offset : Nat) (byte mask : UInt8), bytes[offset]? = some byte →
        masks[offset]? = some mask → byte &&& ~~~mask = 0 := by
  constructor
  · intro kept offset byte mask isByte isMask
    apply (and_eq_self_iff byte mask).mp
    have here := congrArg (·[offset]?) kept
    simpa [List.getElem?_zipWith, isByte, isMask] using here
  · intro clear
    apply List.ext_getElem
    · rw [List.length_zipWith, same, Nat.min_self]
    · intro offset _ inside
      have masked : offset < masks.length := by rwa [same]
      rw [List.getElem_zipWith]
      exact (and_eq_self_iff _ _).mpr (clear offset _ _ (List.getElem?_eq_getElem inside)
        (List.getElem?_eq_getElem masked))

theorem cleared_eq_self_iff {mode : Mode} (wellFormed : bytes.WellFormed mode) :
    bytes.cleared mode = bytes ↔ bytes.IsClear mode :=
  zipWith_and_eq_self_iff ((length_fieldMasks wellFormed.count).trans wellFormed.length.symm)

/-- Decoding accepts the bytes that are long enough for their mode and have a contact count, and
the report it yields is encoded as the same bytes with all that carries no field cleared. -/
theorem reencoding_clears_the_rest (mode : Mode) (bytes : Bytes) :
    ((∃ report, decode mode bytes = .ok report) ↔ bytes.WellFormed mode) ∧
      ∀ report, decode mode bytes = .ok report →
        report.mode = mode ∧ report.StandsIn bytes ∧
        ((∃ fault, report.encode = .error fault) ↔ bytes.Undeclared mode) ∧
        (¬ bytes.Undeclared mode →
          report.encode = .ok (bytes.cleared mode) ∧
          decode mode (bytes.cleared mode) = .ok report ∧
          (bytes.cleared mode = bytes ↔ bytes.IsClear mode)) := by
  refine ⟨decode_isOk_iff, ?_⟩
  intro report decoded
  have wellFormed := decode_isOk_iff.mp ⟨report, decoded⟩
  obtain ⟨rfl, stand⟩ := standsIn_of_decode decoded
  have undeclared := undeclared_iff stand wellFormed.count
  refine ⟨rfl, stand, ?_, ?_⟩
  · rw [undeclared, ← encode_isOk_iff]
    cases report.encode with
    | ok encoding => simp
    | error fault => simp
  · intro declared
    rw [undeclared, not_not] at declared
    have encoded := encode_eq_cleared decoded declared
    exact ⟨encoded, decode_encode encoded, cleared_eq_self_iff wellFormed⟩

end Report

end HidPointer
