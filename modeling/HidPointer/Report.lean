import HidPointer.Mode

/-!
# Input reports

What a producer submits: a mouse movement, a single contact, or a list of contacts.
-/

set_option autoImplicit false

namespace HidPointer

structure Contact where
  /-- Which finger it is, as long as it stays down. -/
  id : UInt8
  present : Bool
  x : UInt16
  y : UInt16
  deriving DecidableEq, Repr

/-- A report, formed for one of the modes. -/
inductive Report where
  /-- Bit 0 of `buttons` is the left button, bit 1 the right one and bit 2 the middle one. -/
  | mouse (buttons : UInt8) (dx dy : Int8)
  | singleTouch (present : Bool) (x y : UInt16)
  /-- The contacts in the order of their slots. -/
  | multiTouch (contacts : List Contact)
  deriving DecidableEq, Repr

namespace Report

def mode : Report → Mode
  | mouse .. => .mouse
  | singleTouch .. => .singleTouch
  | multiTouch .. => .multiTouch

end Report

end HidPointer
