import HidPointer.Descriptor
import Mathlib.Algebra.GroupWithZero.Nat

/-!
# What a report descriptor says about its reports

A host reads a report descriptor as a stream of items. The first byte of an item tells its kind and
how many data bytes follow. Some items set values that all later ones inherit, and each Input item
lays out fields by the values that are set when it comes. The fields follow one another in the bits
of a report, low bit first (`Descriptor.layout`). Bytes are a report in that layout when they are as
long as it and every field admits what they have there (`Fits`).
-/

set_option autoImplicit false

namespace HidPointer

namespace Bits

/-- So many of the bits of a number, low bit first. -/
def low : Nat → Nat → List Bool
  | 0, _ => []
  | count + 1, value => (value % 2 == 1) :: low count (value / 2)

def value : List Bool → Nat
  | [] => 0
  | bit :: bits => bit.toNat + 2 * value bits

theorem length_low (count number : Nat) : (low count number).length = count := by
  induction count generalizing number with
  | zero => rfl
  | succ count ih => rw [low, List.length_cons, ih]

theorem value_low (count number : Nat) : value (low count number) = number % 2 ^ count := by
  induction count generalizing number with
  | zero => rw [Nat.pow_zero, Nat.mod_one, low, value]
  | succ count ih =>
      have lowest : (number % 2 == 1).toNat = number % 2 := by
        rcases Nat.mod_two_eq_zero_or_one number with even | odd
        · rw [even]
          rfl
        · rw [odd]
          rfl
      rw [low, value, ih, lowest, Nat.pow_succ, Nat.mul_comm (2 ^ count), Nat.mod_mul]

theorem low_add (count more number : Nat) :
    low (count + more) number = low count number ++ low more (number / 2 ^ count) := by
  induction count generalizing number with
  | zero => rw [Nat.zero_add, Nat.pow_zero, Nat.div_one, low, List.nil_append]
  | succ count ih =>
      rw [Nat.succ_add, low, ih, low, Nat.div_div_eq_div_mul, Nat.pow_succ, Nat.mul_comm,
        List.cons_append]

/-- Higher bits do not matter. -/
theorem low_add_mul (count number higher : Nat) :
    low count (number + 2 ^ count * higher) = low count number := by
  induction count generalizing number with
  | zero => rfl
  | succ count ih =>
      have shifted : 2 ^ (count + 1) * higher = 2 * (2 ^ count * higher) := by
        rw [Nat.pow_succ, Nat.mul_comm (2 ^ count), Nat.mul_assoc]
      rw [low, low, shifted, Nat.add_mul_mod_self_left, Nat.add_mul_div_left _ _ Nat.zero_lt_two,
        ih]

end Bits

/-- The bits of a byte string in the order in which fields take them up. -/
def Bytes.bits (bytes : Bytes) : List Bool :=
  bytes.flatMap fun byte => Bits.low 8 byte.toNat

namespace Bytes

theorem bits_append (front behind : Bytes) : (front ++ behind).bits = front.bits ++ behind.bits :=
  List.flatMap_append

theorem length_bits (bytes : Bytes) : bytes.bits.length = 8 * bytes.length := by
  induction bytes with
  | nil => rfl
  | cons byte bytes ih =>
      rw [← List.singleton_append, bits_append, List.length_append, ih, List.length_append,
        Nat.mul_add]
      rfl

theorem bits_singleton (byte : UInt8) : bits [byte] = Bits.low 8 byte.toNat :=
  List.append_nil _

/-- The bits of a word follow one another as those of a number. -/
theorem bits_ofWord (word : UInt16) : (ofWord word).bits = Bits.low 16 word.toNat := by
  have bound := word.toNat_lt
  have lower : (UInt8.ofNat (word.toNat % 256)).toNat = word.toNat % 256 := by
    rw [UInt8.toNat_ofNat']
    omega
  have upper : (UInt8.ofNat (word.toNat / 256)).toNat = word.toNat / 2 ^ 8 := by
    rw [UInt8.toNat_ofNat']
    omega
  have whole := Bits.low_add_mul 8 (word.toNat % 256) (word.toNat / 256)
  rw [show (2 : Nat) ^ 8 = 256 from rfl, Nat.mod_add_div] at whole
  rw [ofWord, ← List.singleton_append, bits_append, bits_singleton, bits_singleton, lower, upper,
    ← whole, ← Bits.low_add]

end Bytes

namespace Descriptor

structure Item where
  /-- The first byte, without the bits that tell the number of data bytes. -/
  kind : UInt8
  data : Bytes
  deriving DecidableEq, Repr

/-- The items of a descriptor, if it does not end within one. -/
def items : Bytes → Option (List Item)
  | [] => some []
  | first :: rest =>
      let kind := first &&& 0xfc
      match first.toNat % 4, rest with
      | 0, rest => (items rest).map (⟨kind, []⟩ :: ·)
      | 1, one :: rest => (items rest).map (⟨kind, [one]⟩ :: ·)
      | 2, one :: two :: rest => (items rest).map (⟨kind, [one, two]⟩ :: ·)
      | 3, one :: two :: three :: four :: rest =>
          (items rest).map (⟨kind, [one, two, three, four]⟩ :: ·)
      | _, _ => none

namespace Item

def unsigned (item : Item) : Nat :=
  item.data.foldr (fun byte higher => byte.toNat + 256 * higher) 0

def signed (item : Item) : Int :=
  Int.bmod item.unsigned (256 ^ item.data.length)

end Item

/-- What an Input item lays out. -/
inductive Field where
  | constant (width : Nat)
  | ranged (width : Nat) (minimum maximum : Int)
  deriving DecidableEq, Repr

/-- The values that items inherit from earlier ones. -/
structure Globals where
  size : Nat := 0
  count : Nat := 0
  minimum : Int := 0
  maximum : Int := 0

/-- The fields of the Input items. Data that is not variable is an array, which has no fields of its
own and is not provided for. -/
def fields (globals : Globals) : List Item → Option (List Field)
  | [] => some []
  | item :: items =>
      match item.kind with
      | 0x14 => fields { globals with minimum := item.signed } items
      | 0x24 => fields { globals with maximum := item.signed } items
      | 0x74 => fields { globals with size := item.unsigned } items
      | 0x94 => fields { globals with count := item.unsigned } items
      | 0x80 => do
          let field ←
            if item.unsigned.testBit 0 then some (.constant globals.size)
            else if item.unsigned.testBit 1 then
              some (.ranged globals.size globals.minimum globals.maximum)
            else none
          let later ← fields globals items
          return List.replicate globals.count field ++ later
      | _ => fields globals items

/-- The fields of the reports that a descriptor describes. -/
def layout (descriptor : Bytes) : Option (List Field) :=
  (items descriptor).bind (fields {})

namespace Field

def width : Field → Nat
  | constant width => width
  | ranged width _ _ => width

/-- The bits of a field are two's complement when its values can be negative. -/
def read (width : Nat) (minimum : Int) (number : Nat) : Int :=
  if minimum < 0 then Int.bmod number (2 ^ width) else number

def Admits : Field → Nat → Prop
  | constant _, number => number = 0
  | ranged width minimum maximum, number =>
      minimum ≤ read width minimum number ∧ read width minimum number ≤ maximum

end Field

def width (fields : List Field) : Nat :=
  (fields.map Field.width).sum

theorem width_cons (field : Field) (fields : List Field) :
    width (field :: fields) = field.width + width fields :=
  List.sum_cons

/-- The fields cover the bits, and each admits its own. -/
def Fits : List Field → List Bool → Prop
  | [], bits => bits = []
  | field :: fields, bits =>
      field.width ≤ bits.length ∧ field.Admits (Bits.value (bits.take field.width)) ∧
        Fits fields (bits.drop field.width)

section Fits

variable {fields behind : List Field} {bits rest : List Bool}

theorem fits_append_bits (covers : bits.length = width fields) :
    Fits (fields ++ behind) (bits ++ rest) ↔ Fits fields bits ∧ Fits behind rest := by
  induction fields generalizing bits with
  | nil =>
      rw [List.eq_nil_of_length_eq_zero covers]
      exact (and_iff_right rfl).symm
  | cons field fields ih =>
      rw [width_cons] at covers
      have covered : field.width ≤ bits.length := Nat.le.intro covers.symm
      have remaining : (bits.drop field.width).length = width fields := by
        rw [List.length_drop, covers, Nat.add_sub_cancel_left]
      have more : field.width ≤ (bits ++ rest).length := by
        rw [List.length_append]
        exact Nat.le_add_right_of_le covered
      simp only [List.cons_append, Fits, List.take_append_of_le_length covered,
        List.drop_append_of_le_length covered, ih remaining, more, covered, true_and, and_assoc]

theorem fits_append {front tail : Bytes} (covers : 8 * front.length = width fields) :
    Fits (fields ++ behind) (front ++ tail).bits ↔
      Fits fields front.bits ∧ Fits behind tail.bits := by
  rw [Bytes.bits_append]
  exact fits_append_bits ((Bytes.length_bits front).trans covers)

theorem fits_singleton_low (field : Field) (number : Nat) :
    Fits [field] (Bits.low field.width number) ↔ field.Admits (number % 2 ^ field.width) := by
  have covers : (Bits.low field.width number).length ≤ field.width :=
    Nat.le_of_eq (Bits.length_low ..)
  simp only [Fits, List.take_of_length_le covers, List.drop_of_length_le covers, Bits.value_low,
    Bits.length_low, Nat.le_refl, true_and, and_true]

theorem fits_cons_low (field : Field) (fields : List Field) (count number : Nat) :
    Fits (field :: fields) (Bits.low (field.width + count) number) ↔
      field.Admits (number % 2 ^ field.width) ∧
        Fits fields (Bits.low count (number / 2 ^ field.width)) := by
  have covers : (Bits.low field.width number).length = width [field] :=
    (Bits.length_low ..).trans (width_cons field []).symm
  rw [Bits.low_add, ← List.singleton_append, fits_append_bits covers, fits_singleton_low]

end Fits

end Descriptor

end HidPointer
