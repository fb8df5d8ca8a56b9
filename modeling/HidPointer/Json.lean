import HidPointer.Binary64

/-!
# JSON values

A JSON document as it is written: the members of an object stay in order, and a name may occur
twice. Two kinds of token are well formed and yet denote nothing. A string literal can hold an
escape for half of a surrogate pair; then there is no text (`none`). A number can lie beyond the
range of finite numbers; `Json.Decimal.isFinite` tells.
-/

set_option autoImplicit false

namespace HidPointer

/-- A number literal that is not an integer: `coefficient · 10 ^ exponent`, with a sign. Negative
zero is one of them. -/
structure Json.Decimal where
  negative : Bool
  coefficient : Nat
  exponent : Int
  deriving DecidableEq, Repr

inductive Json where
  | null
  | bool (value : Bool)
  | int (value : Int)
  | decimal (value : Json.Decimal)
  | str (text : Option String)
  | arr (items : List Json)
  | obj (members : List (Option String × Json))
  deriving Repr, Inhabited

namespace Json

def text (text : String) : Json :=
  .str (some text)

def nat (value : Nat) : Json :=
  .int value

def object (members : List (String × Json)) : Json :=
  .obj (members.map fun (name, value) => (some name, value))

def bytes (bytes : List UInt8) : Json :=
  .arr (bytes.map fun byte => .nat byte.toNat)

/-- The leading digits of a coefficient that fit into 64 bits, and the number of digits left
out. -/
def leadingDigits (coefficient : Nat) : Nat × Nat :=
  let digits := Nat.toDigits 10 coefficient
  let rec take (value : Nat) : List Char → Nat × Nat
    | [] => (value, 0)
    | digit :: rest =>
        let longer := Nat.ofDigitChars 10 [digit] value
        if longer < UInt64.size then take longer rest else (value, rest.length + 1)
  take 0 digits

/-- Whether `coefficient · 10 ^ exponent` is read as a finite double. The reader rounds the
leading digits and the power of ten, and then their product. -/
def isFinite (coefficient : Nat) (exponent : Int) : Bool :=
  let (leading, dropped) := leadingDigits coefficient
  let power := exponent + dropped
  if leading = 0 ∨ power < 0 then true
  else if power > 308 then false
  else
    decide (Binary64.round leading * Binary64.round (Nat.pow 10 power.toNat) <
      Binary64.overflow)

def Decimal.isFinite (value : Decimal) : Bool :=
  Json.isFinite value.coefficient value.exponent

mutual

/-- Whether every token of a value denotes something, and no more than `levels` arrays and objects
are nested. A value that is kept while it is not yet known what it is for must be so. -/
def isDefinite (levels : Nat) : Json → Bool
  | null => true
  | bool _ => true
  | int value => isFinite value.natAbs 0
  | decimal value => value.isFinite
  | str text => text.isSome
  | arr items => match levels with
    | 0 => false
    | levels + 1 => itemsDefinite levels items
  | obj members => match levels with
    | 0 => false
    | levels + 1 => membersDefinite levels members

def itemsDefinite (levels : Nat) : List Json → Bool
  | [] => true
  | item :: items => item.isDefinite levels && itemsDefinite levels items

def membersDefinite (levels : Nat) : List (Option String × Json) → Bool
  | [] => true
  | (name, value) :: members =>
      name.isSome && value.isDefinite levels && membersDefinite levels members

end

/-- Puts a member in its place among members that are in order of their names. The member that was
there under the name is replaced. -/
def insertMember (name : Option String) (value : Json) :
    List (Option String × Json) → List (Option String × Json)
  | [] => [(name, value)]
  | (other, kept) :: members =>
      if name = other then (name, value) :: members
      else if name.getD "" < other.getD "" then (name, value) :: (other, kept) :: members
      else (other, kept) :: insertMember name value members

mutual

/-- The same value with the members of every object in order of their names. Of several members
with one name the last stays. -/
def sorted : Json → Json
  | arr items => .arr (itemsSorted items)
  | obj members => .obj (membersSorted members [])
  | value => value

def itemsSorted : List Json → List Json
  | [] => []
  | item :: items => item.sorted :: itemsSorted items

def membersSorted :
    List (Option String × Json) → List (Option String × Json) → List (Option String × Json)
  | [], done => done
  | (name, value) :: members, done =>
      membersSorted members (insertMember name value.sorted done)

end

end Json

end HidPointer
