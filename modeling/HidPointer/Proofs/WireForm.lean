import HidPointer.Device

/-!
# What is encoded can be decoded

A report can be encoded exactly if all its fields are in the ranges that the descriptors declare.
Its bytes then have the length of its mode and are decoded as the report they come from.
-/

set_option autoImplicit false

namespace HidPointer

private theorem bind_eq_ok_iff {ε α β : Type} {first : Except ε α} {next : α → Except ε β}
    {result : β} :
    first >>= next = .ok result ↔ ∃ value, first = .ok value ∧ next value = .ok result := by
  constructor
  · intro done
    cases first with
    | error fault => cases done
    | ok value => exact ⟨value, rfl, done⟩
  · rintro ⟨value, rfl, done⟩
    exact done

private theorem ite_error_eq_ok_iff {ε α : Type} {refused : Prop} [Decidable refused] {fault : ε}
    {next : Except ε α} {result : α} :
    (if refused then .error fault else next) = .ok result ↔ ¬ refused ∧ next = .ok result := by
  by_cases holds : refused
  · rw [if_pos holds]
    constructor
    · intro done
      cases done
    · rintro ⟨accepted, _⟩
      exact absurd holds accepted
  · rw [if_neg holds]
    exact (and_iff_right holds).symm

/-- The point is within the surface. -/
def OnSurface (x y : UInt16) : Prop :=
  x.toNat ≤ coordinateMax ∧ y.toNat ≤ coordinateMax

theorem checkCoordinates_eq_ok_iff {x y : UInt16} {checked : Unit} :
    checkCoordinates x y = .ok checked ↔ OnSurface x y := by
  unfold checkCoordinates
  rw [ite_error_eq_ok_iff, not_or, Nat.not_lt, Nat.not_lt]
  exact and_iff_left rfl

namespace Contact

structure InRange (contact : Contact) : Prop where
  id : contact.id.toNat < contactSlots
  point : OnSurface contact.x contact.y

theorem length_slot (contact : Contact) : contact.slot.length = contactSlotLength := rfl

theorem decodeSlots_slot_append (contact : Contact) (count : Nat) (behind : Bytes) :
    decodeSlots (count + 1) (contact.slot ++ behind) = contact :: decodeSlots count behind := by
  obtain ⟨id, present, x, y⟩ := contact
  have presence : (present.toUInt8 % 2 == 1) = present := by cases present <;> rfl
  simp only [slot, Bytes.ofWord, List.cons_append, List.nil_append, decodeSlots, presence,
    Bytes.toWord_ofWord]

theorem encodeSlots_cons_eq_ok_iff {seen : List UInt8} {contact : Contact}
    {contacts : List Contact} {bytes : Bytes} :
    encodeSlots seen (contact :: contacts) = .ok bytes ↔
      contact.InRange ∧ contact.id ∉ seen ∧
        ∃ rest, encodeSlots (contact.id :: seen) contacts = .ok rest ∧
          bytes = contact.slot ++ rest := by
  simp only [encodeSlots, ite_error_eq_ok_iff, bind_eq_ok_iff, checkCoordinates_eq_ok_iff]
  constructor
  · rintro ⟨slotExists, new, _, point, rest, remaining, done⟩
    cases done
    exact ⟨⟨Nat.not_le.mp slotExists, point⟩, new, rest, remaining, rfl⟩
  · rintro ⟨⟨slotExists, point⟩, new, rest, remaining, rfl⟩
    exact ⟨Nat.not_le.mpr slotExists, new, (), point, rest, remaining, rfl⟩

theorem encodeSlots_isOk_iff {seen : List UInt8} {contacts : List Contact} :
    (∃ bytes, encodeSlots seen contacts = .ok bytes) ↔
      (∀ contact ∈ contacts, contact.InRange ∧ contact.id ∉ seen) ∧
        contacts.Pairwise (·.id ≠ ·.id) := by
  -- The identifiers are distinct if each is new when its slot is filled, so `seen` must vary.
  induction contacts generalizing seen with
  | nil => simp [encodeSlots]
  | cons contact contacts ih =>
      constructor
      · rintro ⟨bytes, encoded⟩
        obtain ⟨inRange, new, rest, remaining, _⟩ := encodeSlots_cons_eq_ok_iff.mp encoded
        obtain ⟨others, distinct⟩ := ih.mp ⟨rest, remaining⟩
        refine ⟨?_, List.pairwise_cons.mpr ⟨?_, distinct⟩⟩
        · intro other member
          rcases List.mem_cons.mp member with rfl | later
          · exact ⟨inRange, new⟩
          · obtain ⟨otherInRange, otherNew⟩ := others other later
            exact ⟨otherInRange, List.not_mem_of_not_mem_cons otherNew⟩
        · intro other member same
          apply (others other member).2
          rw [same]
          exact List.mem_cons_self
      · rintro ⟨each, distinct⟩
        obtain ⟨differ, distinct⟩ := List.pairwise_cons.mp distinct
        obtain ⟨inRange, new⟩ := each contact List.mem_cons_self
        have others (other : Contact) (member : other ∈ contacts) :
            other.InRange ∧ other.id ∉ contact.id :: seen := by
          obtain ⟨otherInRange, otherNew⟩ := each other (List.mem_cons_of_mem _ member)
          refine ⟨otherInRange, ?_⟩
          rw [List.mem_cons, not_or]
          exact ⟨(differ other member).symm, otherNew⟩
        obtain ⟨rest, remaining⟩ := ih.mpr ⟨others, distinct⟩
        exact ⟨_, encodeSlots_cons_eq_ok_iff.mpr ⟨inRange, new, rest, remaining, rfl⟩⟩

theorem encodeSlots_eq_flatMap {seen : List UInt8} {contacts : List Contact} {bytes : Bytes}
    (encoded : encodeSlots seen contacts = .ok bytes) : bytes = contacts.flatMap slot := by
  induction contacts generalizing seen bytes with
  | nil =>
      cases encoded
      rfl
  | cons contact contacts ih =>
      obtain ⟨_, _, rest, remaining, rfl⟩ := encodeSlots_cons_eq_ok_iff.mp encoded
      rw [ih remaining, List.flatMap_cons]

theorem length_flatMap_slot (contacts : List Contact) :
    (contacts.flatMap slot).length = contacts.length * contactSlotLength := by
  induction contacts with
  | nil => rfl
  | cons contact contacts ih =>
      rw [List.flatMap_cons, List.length_append, length_slot, ih, List.length_cons, Nat.succ_mul,
        Nat.add_comm]

theorem length_encodeSlots {seen : List UInt8} {contacts : List Contact} {bytes : Bytes}
    (encoded : encodeSlots seen contacts = .ok bytes) :
    bytes.length = contacts.length * contactSlotLength := by
  rw [encodeSlots_eq_flatMap encoded, length_flatMap_slot]

theorem decodeSlots_encodeSlots {seen : List UInt8} {contacts : List Contact} {bytes : Bytes}
    (encoded : encodeSlots seen contacts = .ok bytes) (behind : Bytes) :
    decodeSlots contacts.length (bytes ++ behind) = contacts := by
  induction contacts generalizing seen bytes with
  | nil => simp [decodeSlots]
  | cons contact contacts ih =>
      obtain ⟨_, _, rest, remaining, rfl⟩ := encodeSlots_cons_eq_ok_iff.mp encoded
      rw [List.append_assoc, List.length_cons, decodeSlots_slot_append, ih remaining]

end Contact

namespace Report

/-- All fields are in the ranges that the descriptors declare, and no two contacts go by the same
identifier. -/
def InRange : Report → Prop
  | mouse buttons dx dy =>
      (∀ bit, 2 < bit → buttons.toNat.testBit bit = false) ∧ dx ≠ -128 ∧ dy ≠ -128
  | singleTouch _ x y => OnSurface x y
  | multiTouch contacts =>
      contacts.length ≤ contactSlots ∧ (∀ contact ∈ contacts, contact.InRange) ∧
        contacts.Pairwise (·.id ≠ ·.id)

theorem buttons_lt_iff {buttons : UInt8} :
    buttons < 8 ↔ ∀ bit, 2 < bit → buttons.toNat.testBit bit = false := by
  rw [UInt8.lt_iff_toNat_lt]
  constructor
  · intro small bit above
    have fits : 2 ^ 3 ≤ 2 ^ bit := Nat.pow_le_pow_right Nat.zero_lt_two above
    exact Nat.testBit_lt_two_pow (Nat.lt_of_lt_of_le small fits)
  · intro clear
    exact Nat.lt_pow_two_of_testBit buttons.toNat clear

theorem encode_mouse_eq_ok_iff {buttons : UInt8} {dx dy : Int8} {bytes : Bytes} :
    (mouse buttons dx dy).encode = .ok bytes ↔
      (mouse buttons dx dy).InRange ∧ bytes = [buttons, dx.toUInt8, dy.toUInt8] := by
  simp only [encode, InRange, ← buttons_lt_iff, ite_error_eq_ok_iff, not_or, UInt8.not_le]
  constructor
  · rintro ⟨declared, inside, done⟩
    cases done
    exact ⟨⟨declared, inside⟩, rfl⟩
  · rintro ⟨⟨declared, inside⟩, rfl⟩
    exact ⟨declared, inside, rfl⟩

theorem encode_singleTouch_eq_ok_iff {present : Bool} {x y : UInt16} {bytes : Bytes} :
    (singleTouch present x y).encode = .ok bytes ↔
      (singleTouch present x y).InRange ∧
        bytes = present.toUInt8 :: (Bytes.ofWord x ++ Bytes.ofWord y) := by
  simp only [encode, InRange, bind_eq_ok_iff, checkCoordinates_eq_ok_iff]
  constructor
  · rintro ⟨_, point, done⟩
    cases done
    exact ⟨point, rfl⟩
  · rintro ⟨point, rfl⟩
    exact ⟨(), point, rfl⟩

theorem encode_multiTouch_eq_ok_iff {contacts : List Contact} {bytes : Bytes} :
    (multiTouch contacts).encode = .ok bytes ↔
      contacts.length ≤ contactSlots ∧
        ∃ slots, Contact.encodeSlots [] contacts = .ok slots ∧
          bytes = slots ++
            List.replicate ((contactSlots - contacts.length) * contactSlotLength) 0 ++
            [UInt8.ofNat contacts.length] := by
  simp only [encode, ite_error_eq_ok_iff, bind_eq_ok_iff, Nat.not_lt]
  constructor
  · rintro ⟨few, slots, filled, done⟩
    cases done
    exact ⟨few, slots, filled, rfl⟩
  · rintro ⟨few, slots, filled, rfl⟩
    exact ⟨few, slots, filled, rfl⟩

/-- What can be encoded is what is in range. -/
theorem encode_isOk_iff {report : Report} :
    (∃ bytes, report.encode = .ok bytes) ↔ report.InRange := by
  cases report with
  | mouse buttons dx dy => simp [encode_mouse_eq_ok_iff]
  | singleTouch present x y => simp [encode_singleTouch_eq_ok_iff]
  | multiTouch contacts =>
      constructor
      · rintro ⟨bytes, encoded⟩
        obtain ⟨few, slots, filled, _⟩ := encode_multiTouch_eq_ok_iff.mp encoded
        obtain ⟨each, distinct⟩ := Contact.encodeSlots_isOk_iff.mp ⟨slots, filled⟩
        exact ⟨few, fun contact member => (each contact member).1, distinct⟩
      · rintro ⟨few, each, distinct⟩
        have new (contact : Contact) (member : contact ∈ contacts) :
            contact.InRange ∧ contact.id ∉ [] := ⟨each contact member, List.not_mem_nil⟩
        obtain ⟨slots, filled⟩ := Contact.encodeSlots_isOk_iff.mpr ⟨new, distinct⟩
        exact ⟨_, encode_multiTouch_eq_ok_iff.mpr ⟨few, slots, filled, rfl⟩⟩

/-- The contact count fits into its byte. -/
theorem toNat_count {count : Nat} (few : count ≤ contactSlots) :
    (UInt8.ofNat count).toNat = count := by
  have few : count ≤ 5 := few
  rw [UInt8.toNat_ofNat']
  omega

private theorem length_slots {contacts : List Contact} {slots : Bytes}
    (few : contacts.length ≤ contactSlots)
    (filled : Contact.encodeSlots [] contacts = .ok slots) :
    (slots ++ List.replicate ((contactSlots - contacts.length) * contactSlotLength) 0).length =
      contactSlots * contactSlotLength := by
  rw [List.length_append, List.length_replicate, Contact.length_encodeSlots filled,
    ← Nat.add_mul, Nat.add_sub_cancel' few]

theorem length_encode {report : Report} {bytes : Bytes} (encoded : report.encode = .ok bytes) :
    bytes.length = report.mode.byteLength := by
  cases report with
  | mouse =>
      obtain ⟨_, rfl⟩ := encode_mouse_eq_ok_iff.mp encoded
      rfl
  | singleTouch =>
      obtain ⟨_, rfl⟩ := encode_singleTouch_eq_ok_iff.mp encoded
      rfl
  | multiTouch contacts =>
      obtain ⟨few, slots, filled, rfl⟩ := encode_multiTouch_eq_ok_iff.mp encoded
      rw [List.length_append, length_slots few filled]
      rfl

/-- Whatever can be encoded is decoded as it was. -/
theorem decode_encode {report : Report} {bytes : Bytes} (encoded : report.encode = .ok bytes) :
    decode report.mode bytes = .ok report := by
  cases report with
  | mouse buttons dx dy =>
      obtain ⟨inRange, rfl⟩ := encode_mouse_eq_ok_iff.mp encoded
      have allDeclared : buttons % 8 = buttons :=
        UInt8.mod_eq_of_lt (buttons_lt_iff.mpr inRange.1)
      simp only [mode, decode, allDeclared, Int8.toInt8_toUInt8]
  | singleTouch present x y =>
      have presence : (present.toUInt8 % 2 == 1) = present := by cases present <;> rfl
      obtain ⟨_, rfl⟩ := encode_singleTouch_eq_ok_iff.mp encoded
      simp only [mode, Bytes.ofWord, List.cons_append, List.nil_append, decode, presence,
        Bytes.toWord_ofWord]
  | multiTouch contacts =>
      obtain ⟨few, slots, filled, rfl⟩ := encode_multiTouch_eq_ok_iff.mp encoded
      simp only [mode, decode, List.drop_left' (length_slots few filled), toNat_count few,
        Nat.not_lt.mpr few, if_false]
      rw [List.append_assoc, Contact.decodeSlots_encodeSlots filled]

/-- Encoding is defined exactly on the reports in range, and undone by decoding. A report out of
range is refused by every device as not valid. -/
theorem encode_exact (report : Report) :
    ((∃ bytes, report.encode = .ok bytes) ↔ report.InRange) ∧
      (¬ report.InRange → ∃ fault, report.encode = .error fault ∧
        ∀ (κ : Type) (device : Device κ),
          (device.serve (.submit report)).2.reply = .error (.validation fault)) ∧
      ∀ bytes, report.encode = .ok bytes →
        bytes.length = report.mode.byteLength ∧ decode report.mode bytes = .ok report ∧
          ∀ other : Report, other.mode = report.mode → other.encode = .ok bytes →
            other = report := by
  refine ⟨encode_isOk_iff, ?_, ?_⟩
  · intro outOfRange
    cases encoded : report.encode with
    | ok bytes => exact absurd (encode_isOk_iff.mp ⟨bytes, encoded⟩) outOfRange
    | error fault =>
        refine ⟨fault, rfl, fun κ device => ?_⟩
        simp only [Device.serve, encoded]
        rfl
  · intro bytes encoded
    refine ⟨length_encode encoded, decode_encode encoded, ?_⟩
    intro other sameMode sameBytes
    have read := decode_encode encoded
    rw [← sameMode, decode_encode sameBytes] at read
    exact Except.ok.inj read

end Report

end HidPointer
