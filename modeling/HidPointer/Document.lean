/-!
# Documents

The same record can be read from values of different notations. `Document` is what a notation has
to offer for that: records, natural numbers, and variants that go by a name. Each notation decides
for itself which spellings of them it accepts.
-/

set_option autoImplicit false

namespace HidPointer

/-- The fields found in a record, each with its name. -/
abbrev Fields (ν : Type) := List (String × ν)

namespace Fields

variable {ν α : Type}

def required (fields : Fields ν) (name : String) (read : ν → Option α) : Option α :=
  (fields.lookup name).bind read

/-- A field that has a default. If it is there it must be readable. -/
def optional (fields : Fields ν) (name : String) (read : ν → Option α) (default : α) :
    Option α :=
  match fields.lookup name with
  | some value => read value
  | none => some default

end Fields

/-- A notation whose values can be read as records, numbers and variants. -/
class Document (ν : Type) where
  fields? : List String → ν → Option (Fields ν)
  nat? : ν → Option Nat
  variant? {α : Type} : List (String × α) → ν → Option α

namespace Document

variable {ν : Type} [Document ν]

/-- The natural number below a bound that a value is. -/
def below? (bound : Nat) (value : ν) : Option Nat :=
  (nat? value).filter (· < bound)

def byte? (value : ν) : Option UInt8 :=
  (below? UInt8.size value).map UInt8.ofNat

def word? (value : ν) : Option UInt16 :=
  (below? UInt16.size value).map UInt16.ofNat

/-- The number of up to 64 bits that a value is. -/
def count? (value : ν) : Option Nat :=
  below? UInt64.size value

end Document

end HidPointer
