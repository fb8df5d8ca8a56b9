/-!
# The range of double-precision numbers

Which numbers are so large that they are not read as finite double-precision numbers, in exact
arithmetic.
-/

set_option autoImplicit false

namespace HidPointer.Binary64

def precision : Nat := 53

/-- From here on a number is nearer to infinity than to the greatest finite double, which is
`2 ^ 1024 - 2 ^ 971`. -/
def overflow : Nat := Nat.pow 2 1024 - Nat.pow 2 970

def bitLength (value : Nat) : Nat :=
  if value = 0 then 0 else value.log2 + 1

/-- The nearest number with as many significant bits as a double has, and the even one of two that
are equally near. -/
def round (value : Nat) : Nat :=
  let unit := Nat.pow 2 (bitLength value - precision)
  let quotient := value / unit
  let remainder := value % unit
  let up := 2 * remainder > unit ∨ (2 * remainder = unit ∧ quotient % 2 = 1)
  (if up then quotient + 1 else quotient) * unit

/-- Whether `coefficient · 10 ^ exponent` overflows. A number with more than 310 digits before its
point certainly does, and one with fewer than 300 does not. -/
def overflows (coefficient : Nat) (exponent : Int) : Bool :=
  let size : Int := (Nat.toDigits 10 coefficient).length + exponent
  if coefficient = 0 ∨ size < 300 then false
  else if 310 < size then true
  else if exponent < 0 then
    decide (overflow * Nat.pow 10 (-exponent).toNat ≤ coefficient)
  else decide (overflow ≤ coefficient * Nat.pow 10 exponent.toNat)

end HidPointer.Binary64
