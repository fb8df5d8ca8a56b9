import HidPointer.Proofs.ReportLayout
import HidPointer.Proofs.WireForm
import Mathlib.Data.List.Basic

/-!
# The encoder speaks the language of the descriptor

The bytes that reports are encoded as are those that the report descriptor of the mode allows
(`Descriptor.encoder_matches_descriptor`). What the descriptor cannot say is said of the contact
slots in addition: the identifiers of the contacts are distinct, and the slots that hold none are
zero.
-/

set_option autoImplicit false

namespace HidPointer

namespace Descriptor

/-- Bits that each may be set, in a byte of their own. -/
def flags (count : Nat) : List Field :=
  List.replicate count (.ranged 1 0 1) ++ [.constant (8 - count)]

def delta : Field :=
  .ranged 8 (-127) 127

def coordinate : Field :=
  .ranged 16 0 coordinateMax

def fingerFields : List Field :=
  flags 1 ++ ([.ranged 8 0 (contactSlots - 1 : Nat)] ++ ([coordinate] ++ [coordinate]))

def fieldsOf : Mode → List Field
  | .mouse => flags 3 ++ ([delta] ++ [delta])
  | .singleTouch => flags 1 ++ ([coordinate] ++ [coordinate])
  | .multiTouch =>
      (List.replicate contactSlots fingerFields).flatten ++ [.ranged 8 0 contactSlots]

theorem layout_ofMode (mode : Mode) : layout (ofMode mode) = some (fieldsOf mode) := by
  cases mode <;> decide +kernel

section Fields

private theorem fits_switches (count padding number : Nat) :
    Fits (List.replicate count (.ranged 1 0 1) ++ [.constant padding])
        (Bits.low (count + padding) number) ↔
      number / 2 ^ count % 2 ^ padding = 0 := by
  induction count generalizing number with
  | zero =>
      rw [Nat.zero_add, Nat.pow_zero, Nat.div_one]
      exact fits_singleton_low (.constant padding) number
  | succ count ih =>
      have split : count + 1 + padding = (Field.ranged 1 0 1).width + (count + padding) := by
        rw [Field.width]
        omega
      have admitted : (Field.ranged 1 0 1).Admits (number % 2 ^ (Field.ranged 1 0 1).width) := by
        simp only [Field.Admits, Field.read, Field.width, Int.lt_irrefl, if_false]
        omega
      rw [split, List.replicate_succ, List.cons_append, fits_cons_low, and_iff_right admitted, ih,
        Nat.div_div_eq_div_mul, ← Nat.pow_add, Field.width, Nat.add_comm 1]

theorem fits_flags {count : Nat} (few : count ≤ 8) (byte : UInt8) :
    Fits (flags count) (Bytes.bits [byte]) ↔ byte.toNat < 2 ^ count := by
  have whole : 2 ^ 8 = 2 ^ count * 2 ^ (8 - count) := by
    rw [← Nat.pow_add, Nat.add_sub_cancel' few]
  have inside : byte.toNat / 2 ^ count < 2 ^ (8 - count) := by
    apply Nat.div_lt_of_lt_mul
    rw [← whole]
    exact byte.toNat_lt
  have switches := fits_switches count (8 - count) byte.toNat
  rw [Nat.add_sub_cancel' few, Nat.mod_eq_of_lt inside,
    Nat.div_eq_zero_iff_lt (Nat.two_pow_pos count)] at switches
  rw [Bytes.bits_singleton]
  exact switches

theorem fits_presence (byte : UInt8) :
    Fits (flags 1) (Bytes.bits [byte]) ↔ ∃ present : Bool, byte = present.toUInt8 := by
  rw [fits_flags (by decide)]
  constructor
  · intro small
    have either : byte.toNat = 0 ∨ byte.toNat = 1 := by omega
    rcases either with off | on
    · exact ⟨false, UInt8.toNat_inj.mp off⟩
    · exact ⟨true, UInt8.toNat_inj.mp on⟩
  · rintro ⟨present, rfl⟩
    cases present <;> decide

theorem fits_delta (change : Int8) :
    Fits [delta] (Bytes.bits [change.toUInt8]) ↔ change ≠ -128 := by
  have bounds : -2 ^ 7 ≤ change.toInt ∧ change.toInt < 2 ^ 7 := ⟨change.le_toInt, change.toInt_lt⟩
  have value : Int.bmod change.toUInt8.toNat (2 ^ 8) = change.toInt :=
    (BitVec.toInt_eq_toNat_bmod change.toBitVec).symm
  have admits := fits_singleton_low delta change.toUInt8.toNat
  rw [show delta.width = 8 from rfl, Nat.mod_eq_of_lt change.toUInt8.toNat_lt] at admits
  rw [Bytes.bits_singleton, admits, Ne, ← Int8.toInt_inj, show (-128 : Int8).toInt = -128 from rfl]
  simp only [delta, Field.Admits, Field.read, value]
  rw [if_pos (by decide)]
  omega

theorem fits_bounded (maximum : Nat) (byte : UInt8) :
    Fits [.ranged 8 0 maximum] (Bytes.bits [byte]) ↔ byte.toNat ≤ maximum := by
  have admits := fits_singleton_low (.ranged 8 0 maximum) byte.toNat
  rw [Bytes.bits_singleton]
  refine admits.trans ?_
  rw [Field.width, Nat.mod_eq_of_lt byte.toNat_lt]
  simp [Field.Admits, Field.read]

theorem fits_coordinate (word : UInt16) :
    Fits [coordinate] (Bytes.ofWord word).bits ↔ word.toNat ≤ coordinateMax := by
  have admits := fits_singleton_low coordinate word.toNat
  rw [Bytes.bits_ofWord]
  refine admits.trans ?_
  rw [coordinate, Field.width, Nat.mod_eq_of_lt word.toNat_lt]
  simp [Field.Admits, Field.read]

theorem fits_point (x y : UInt16) :
    Fits ([coordinate] ++ [coordinate]) (Bytes.ofWord x ++ Bytes.ofWord y).bits ↔
      OnSurface x y := by
  rw [fits_append rfl, fits_coordinate, fits_coordinate, OnSurface]

theorem fits_finger (presence id : UInt8) (x y : UInt16) :
    Fits fingerFields (Bytes.bits (presence :: id :: (Bytes.ofWord x ++ Bytes.ofWord y))) ↔
      (∃ present : Bool, presence = present.toUInt8) ∧ id.toNat < contactSlots ∧
        OnSurface x y := by
  have split : presence :: id :: (Bytes.ofWord x ++ Bytes.ofWord y) =
      [presence] ++ ([id] ++ (Bytes.ofWord x ++ Bytes.ofWord y)) := rfl
  rw [split, fingerFields, fits_append rfl, fits_append rfl, fits_presence, fits_bounded,
    fits_point, Nat.le_sub_one_iff_lt (by decide)]

end Fields

private theorem words_eq (xLow xHigh yLow yHigh : UInt8) :
    [xLow, xHigh, yLow, yHigh] =
      Bytes.ofWord (Bytes.toWord xLow xHigh) ++ Bytes.ofWord (Bytes.toWord yLow yHigh) := by
  rw [Bytes.ofWord_toWord, Bytes.ofWord_toWord]
  rfl

theorem fits_contact {slot : Bytes} (covers : slot.length = contactSlotLength) :
    Fits fingerFields slot.bits ↔ ∃ contact : Contact, contact.InRange ∧ slot = contact.slot := by
  obtain ⟨presence, id, xLow, xHigh, yLow, yHigh, rfl⟩ : ∃ presence id xLow xHigh yLow yHigh,
      slot = [presence, id, xLow, xHigh, yLow, yHigh] := by
    match slot, covers with
    | [presence, id, xLow, xHigh, yLow, yHigh], _ => exact ⟨_, _, _, _, _, _, rfl⟩
  constructor
  · intro fit
    rw [words_eq] at fit ⊢
    obtain ⟨⟨present, rfl⟩, slotExists, point⟩ := (fits_finger ..).mp fit
    exact ⟨⟨id, present, _, _⟩, ⟨slotExists, point⟩, rfl⟩
  · rintro ⟨contact, ⟨slotExists, point⟩, filled⟩
    rw [filled]
    exact (fits_finger ..).mpr ⟨⟨contact.present, rfl⟩, slotExists, point⟩

theorem fits_contacts (count : Nat) {bytes : Bytes}
    (covers : bytes.length = count * contactSlotLength) :
    Fits (List.replicate count fingerFields).flatten bytes.bits ↔
      ∃ contacts : List Contact, contacts.length = count ∧
        (∀ contact ∈ contacts, contact.InRange) ∧ bytes = contacts.flatMap Contact.slot := by
  induction count generalizing bytes with
  | zero =>
      rw [Nat.zero_mul] at covers
      rw [List.eq_nil_of_length_eq_zero covers]
      exact ⟨fun _ => ⟨[], rfl, List.forall_mem_nil _, rfl⟩, fun _ => rfl⟩
  | succ count ih =>
      rw [Nat.succ_mul] at covers
      have first : (bytes.take contactSlotLength).length = contactSlotLength := by
        rw [List.length_take, covers, Nat.min_eq_left (Nat.le_add_left ..)]
      have others : (bytes.drop contactSlotLength).length = count * contactSlotLength := by
        rw [List.length_drop, covers, Nat.add_sub_cancel]
      have split : Fits (fingerFields ++ (List.replicate count fingerFields).flatten)
          (Bytes.bits (bytes.take contactSlotLength ++ bytes.drop contactSlotLength)) ↔ _ :=
        fits_append (by rw [first]; rfl)
      rw [List.take_append_drop, fits_contact first, ih others] at split
      rw [List.replicate_succ, List.flatten_cons, split]
      constructor
      · rintro ⟨⟨contact, inRange, slot⟩, contacts, number, all, rest⟩
        refine ⟨contact :: contacts, congrArg (· + 1) number,
          List.forall_mem_cons.mpr ⟨inRange, all⟩, ?_⟩
        rw [List.flatMap_cons, ← slot, ← rest, List.take_append_drop]
      · rintro ⟨contacts, number, all, rfl⟩
        cases contacts with
        | nil => cases number
        | cons contact contacts =>
            obtain ⟨inRange, all⟩ := List.forall_mem_cons.mp all
            exact ⟨⟨contact, inRange, List.take_left' contact.length_slot⟩, contacts,
              Nat.succ.inj number, all, List.drop_left' contact.length_slot⟩

/-- The bytes of so many contact slots. -/
def slots : Nat → Bytes → List Bytes
  | 0, _ => []
  | count + 1, bytes =>
      bytes.take contactSlotLength :: slots count (bytes.drop contactSlotLength)

theorem slots_flatMap (contacts : List Contact) (behind : Bytes) :
    slots contacts.length (contacts.flatMap Contact.slot ++ behind) =
      contacts.map Contact.slot := by
  induction contacts with
  | nil => rfl
  | cons contact contacts ih =>
      rw [List.flatMap_cons, List.append_assoc, List.length_cons, slots,
        List.take_left' contact.length_slot, List.drop_left' contact.length_slot, ih,
        List.map_cons]

/-- What the descriptor cannot say about the contact slots when so many of them are in use. -/
structure InUse (count : Nat) (bytes : Bytes) : Prop where
  distinct : ((slots contactSlots bytes).take count).Pairwise (·[1]? ≠ ·[1]?)
  unused : ∀ slot ∈ (slots contactSlots bytes).drop count, ∀ byte ∈ slot, byte = 0

/-- A contact slot that no contact fills. -/
def blank : Contact :=
  ⟨0, false, 0, 0⟩

theorem slot_blank : blank.slot = List.replicate contactSlotLength 0 := rfl

theorem inRange_blank : blank.InRange :=
  ⟨by decide, by decide, by decide⟩

theorem flatMap_blank (count : Nat) :
    (List.replicate count blank).flatMap Contact.slot =
      List.replicate (count * contactSlotLength) 0 := by
  rw [List.flatMap_replicate, slot_blank, List.flatten_replicate_replicate]

theorem slot_zero_iff {contact : Contact} :
    (∀ byte ∈ contact.slot, byte = 0) ↔ contact = blank := by
  constructor
  · intro zeros
    have same : contact.slot = blank.slot := List.eq_replicate_iff.mpr ⟨rfl, zeros⟩
    have read := Contact.decodeSlots_slot_append contact 0 []
    rw [same, Contact.decodeSlots_slot_append] at read
    exact (List.cons.inj read).1.symm
  · rintro rfl
    exact (List.eq_replicate_iff.mp slot_blank).2

theorem inUse_iff {contacts : List Contact} (all : contacts.length = contactSlots) (count : Nat)
    (behind : Bytes) :
    InUse count (contacts.flatMap Contact.slot ++ behind) ↔
      (contacts.take count).Pairwise (·.id ≠ ·.id) ∧
        ∀ contact ∈ contacts.drop count, contact = blank := by
  have split : slots contactSlots (contacts.flatMap Contact.slot ++ behind) =
      contacts.map Contact.slot := by
    rw [← all, slots_flatMap]
  have ids : ((contacts.map Contact.slot).take count).Pairwise (·[1]? ≠ ·[1]?) ↔
      (contacts.take count).Pairwise (·.id ≠ ·.id) := by
    rw [← List.map_take, List.pairwise_map]
    refine List.Pairwise.iff fun contact other => ?_
    exact not_congr (Option.some_inj (a := contact.id) (b := other.id))
  have zeros : (∀ slot ∈ (contacts.map Contact.slot).drop count, ∀ byte ∈ slot, byte = 0) ↔
      ∀ contact ∈ contacts.drop count, contact = blank := by
    rw [← List.map_drop, List.forall_mem_map]
    simp only [slot_zero_iff]
  rw [← ids, ← zeros, ← split]
  exact ⟨fun inUse => ⟨inUse.distinct, inUse.unused⟩,
    fun ⟨distinct, unused⟩ => ⟨distinct, unused⟩⟩

theorem encodes_mouse_iff {bytes : Bytes} :
    (∃ report : Report, report.mode = .mouse ∧ report.encode = .ok bytes) ↔
      bytes.length = Mode.mouse.byteLength ∧ Fits (fieldsOf .mouse) bytes.bits := by
  have fits (buttons : UInt8) (dx dy : Int8) :
      Fits (fieldsOf .mouse) (Bytes.bits [buttons, dx.toUInt8, dy.toUInt8]) ↔
        (Report.mouse buttons dx dy).InRange := by
    have split : [buttons, dx.toUInt8, dy.toUInt8] =
        [buttons] ++ ([dx.toUInt8] ++ [dy.toUInt8]) := rfl
    rw [split, fieldsOf, fits_append rfl, fits_append rfl, fits_flags (by decide), fits_delta,
      fits_delta, Report.InRange, ← Report.buttons_lt_iff, UInt8.lt_iff_toNat_lt]
    rfl
  constructor
  · rintro ⟨report, sameMode, encoded⟩
    cases report with
    | mouse buttons dx dy =>
        obtain ⟨inRange, rfl⟩ := Report.encode_mouse_eq_ok_iff.mp encoded
        exact ⟨rfl, (fits buttons dx dy).mpr inRange⟩
    | _ => cases sameMode
  · rintro ⟨covers, fit⟩
    obtain ⟨buttons, dx, dy, rfl⟩ := List.length_eq_three.mp covers
    rw [← dx.toUInt8_toInt8, ← dy.toUInt8_toInt8] at fit ⊢
    exact ⟨.mouse buttons dx.toInt8 dy.toInt8, rfl,
      Report.encode_mouse_eq_ok_iff.mpr ⟨(fits ..).mp fit, rfl⟩⟩

theorem encodes_singleTouch_iff {bytes : Bytes} :
    (∃ report : Report, report.mode = .singleTouch ∧ report.encode = .ok bytes) ↔
      bytes.length = Mode.singleTouch.byteLength ∧ Fits (fieldsOf .singleTouch) bytes.bits := by
  have fits (presence : UInt8) (x y : UInt16) :
      Fits (fieldsOf .singleTouch) (Bytes.bits (presence :: (Bytes.ofWord x ++ Bytes.ofWord y))) ↔
        (∃ present : Bool, presence = present.toUInt8) ∧ OnSurface x y := by
    rw [← List.singleton_append, fieldsOf, fits_append rfl, fits_presence, fits_point]
  constructor
  · rintro ⟨report, sameMode, encoded⟩
    cases report with
    | singleTouch present x y =>
        obtain ⟨inRange, rfl⟩ := Report.encode_singleTouch_eq_ok_iff.mp encoded
        exact ⟨rfl, (fits ..).mpr ⟨⟨present, rfl⟩, inRange⟩⟩
    | _ => cases sameMode
  · rintro ⟨covers, fit⟩
    match bytes, covers with
    | [presence, xLow, xHigh, yLow, yHigh], _ =>
        rw [words_eq] at fit ⊢
        obtain ⟨⟨present, rfl⟩, point⟩ := (fits ..).mp fit
        exact ⟨.singleTouch present _ _, rfl,
          Report.encode_singleTouch_eq_ok_iff.mpr ⟨point, rfl⟩⟩

/-- The bytes are all the contact slots of a report and a contact count. -/
structure Slotted (bytes : Bytes) (contacts : List Contact) (count : UInt8) : Prop where
  all : contacts.length = contactSlots
  inRange : ∀ contact ∈ contacts, contact.InRange
  few : count.toNat ≤ contactSlots
  laid : bytes = contacts.flatMap Contact.slot ++ [count]

theorem fits_multiTouch_iff {bytes : Bytes} (covers : bytes.length = Mode.multiTouch.byteLength) :
    Fits (fieldsOf .multiTouch) bytes.bits ↔ ∃ contacts count, Slotted bytes contacts count := by
  have filled : (bytes.take (contactSlots * contactSlotLength)).length =
      contactSlots * contactSlotLength := by
    rw [List.length_take, covers]
    rfl
  obtain ⟨count, last⟩ : ∃ count, bytes.drop (contactSlots * contactSlotLength) = [count] := by
    rw [← List.length_eq_one_iff, List.length_drop, covers]
    rfl
  have split : Fits ((List.replicate contactSlots fingerFields).flatten ++
      [.ranged 8 0 contactSlots])
        (Bytes.bits (bytes.take (contactSlots * contactSlotLength) ++ [count])) ↔ _ :=
    fits_append (by rw [filled]; rfl)
  rw [fits_contacts _ filled, fits_bounded, ← last, List.take_append_drop] at split
  refine split.trans ?_
  constructor
  · rintro ⟨⟨contacts, all, inRange, same⟩, few⟩
    refine ⟨contacts, count, all, inRange, few, ?_⟩
    rw [← same, ← last, List.take_append_drop]
  · rintro ⟨contacts, number, all, inRange, few, rfl⟩
    have width : (contacts.flatMap Contact.slot).length = contactSlots * contactSlotLength := by
      rw [Contact.length_flatMap_slot, all]
    rw [List.drop_left' width] at last
    rw [List.take_left' width]
    cases last
    exact ⟨⟨contacts, all, inRange, rfl⟩, few⟩

/-- The slots beyond those of the contacts are blank. -/
theorem slotted_of_encode {used : List Contact} {bytes : Bytes}
    (encoded : (Report.multiTouch used).encode = .ok bytes) :
    ∃ contacts count, Slotted bytes contacts count ∧ InUse count.toNat bytes := by
  obtain ⟨few, slots, filled, rfl⟩ := Report.encode_multiTouch_eq_ok_iff.mp encoded
  obtain ⟨each, distinct⟩ := Contact.encodeSlots_isOk_iff.mp ⟨slots, filled⟩
  obtain rfl := Contact.encodeSlots_eq_flatMap filled
  have all : (used ++ List.replicate (contactSlots - used.length) blank).length =
      contactSlots := by
    rw [List.length_append, List.length_replicate, Nat.add_sub_cancel' few]
  have inRange : ∀ contact ∈ used ++ List.replicate (contactSlots - used.length) blank,
      contact.InRange := by
    intro contact member
    rcases List.mem_append.mp member with isUsed | isUnused
    · exact (each contact isUsed).1
    · rw [List.eq_of_mem_replicate isUnused]
      exact inRange_blank
  rw [← flatMap_blank, ← List.flatMap_append]
  refine ⟨_, _, ⟨all, inRange, ?_, rfl⟩, ?_⟩
  · rw [Report.toNat_count few]
    exact few
  · rw [inUse_iff all, Report.toNat_count few, List.take_left, List.drop_left]
    exact ⟨distinct, fun contact member => List.eq_of_mem_replicate member⟩

theorem Slotted.encode {bytes : Bytes} {contacts : List Contact} {count : UInt8}
    (slotted : Slotted bytes contacts count) (inUse : InUse count.toNat bytes) :
    (Report.multiTouch (contacts.take count.toNat)).encode = .ok bytes := by
  obtain ⟨all, inRange, few, rfl⟩ := slotted
  obtain ⟨distinct, unused⟩ := (inUse_iff all ..).mp inUse
  have length : (contacts.take count.toNat).length = count.toNat := by
    rw [List.length_take, all, Nat.min_eq_left few]
  have blanks : contacts.drop count.toNat =
      List.replicate (contactSlots - count.toNat) blank := by
    rw [List.eq_replicate_iff, List.length_drop, all]
    exact ⟨rfl, unused⟩
  have each (contact : Contact) (member : contact ∈ contacts.take count.toNat) :
      contact.InRange ∧ contact.id ∉ [] :=
    ⟨inRange contact (List.mem_of_mem_take member), List.not_mem_nil⟩
  obtain ⟨slots, filled⟩ := Contact.encodeSlots_isOk_iff.mpr ⟨each, distinct⟩
  rw [Report.encode_multiTouch_eq_ok_iff, length]
  refine ⟨few, slots, filled, ?_⟩
  rw [Contact.encodeSlots_eq_flatMap filled, UInt8.ofNat_toNat, ← flatMap_blank, ← blanks,
    ← List.flatMap_append, List.take_append_drop]

theorem encodes_multiTouch_iff {bytes : Bytes} :
    (∃ report : Report, report.mode = .multiTouch ∧ report.encode = .ok bytes) ↔
      bytes.length = Mode.multiTouch.byteLength ∧ Fits (fieldsOf .multiTouch) bytes.bits ∧
        ∀ count, bytes.getLast? = some count → InUse count.toNat bytes := by
  constructor
  · rintro ⟨report, sameMode, encoded⟩
    have covers : bytes.length = Mode.multiTouch.byteLength := by
      rw [Report.length_encode encoded, sameMode]
    cases report with
    | multiTouch used =>
        obtain ⟨contacts, count, slotted, inUse⟩ := slotted_of_encode encoded
        refine ⟨covers, (fits_multiTouch_iff covers).mpr ⟨contacts, count, slotted⟩, ?_⟩
        intro last isLast
        rw [slotted.laid, List.getLast?_concat] at isLast
        cases isLast
        exact inUse
    | _ => cases sameMode
  · rintro ⟨covers, fit, used⟩
    obtain ⟨contacts, count, slotted⟩ := (fits_multiTouch_iff covers).mp fit
    refine ⟨.multiTouch (contacts.take count.toNat), rfl, slotted.encode (used count ?_)⟩
    rw [slotted.laid, List.getLast?_concat]

/-- What the descriptor of a mode allows is what the reports of the mode are encoded as. -/
theorem encoder_matches_descriptor (mode : Mode) :
    ∃ fields, layout (ofMode mode) = some fields ∧ width fields = 8 * mode.byteLength ∧
      ∀ bytes : Bytes, (∃ report : Report, report.mode = mode ∧ report.encode = .ok bytes) ↔
        bytes.length = mode.byteLength ∧ Fits fields bytes.bits ∧
          (mode = .multiTouch → ∀ count, bytes.getLast? = some count →
            InUse count.toNat bytes) := by
  refine ⟨fieldsOf mode, layout_ofMode mode, by cases mode <;> rfl, ?_⟩
  intro bytes
  cases mode with
  | mouse => simpa using encodes_mouse_iff
  | singleTouch => simpa using encodes_singleTouch_iff
  | multiTouch => simpa using encodes_multiTouch_iff

end Descriptor

end HidPointer
