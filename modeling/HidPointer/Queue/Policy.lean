import HidPointer.Mode

/-!
# Buffering policies

How many reports wait for a reader, and which one is given up when there is no room for another.
-/

set_option autoImplicit false

namespace HidPointer

/-- Which report is lost when one arrives at a full buffer. -/
inductive Overflow where
  /-- The newest of the buffered reports. -/
  | latestWins
  /-- The oldest of the buffered reports. -/
  | dropOldest
  /-- The arriving report. -/
  | dropNewest
  deriving DecidableEq, Repr

/-- How the reports of a mode are buffered. -/
structure Policy where
  capacity : Nat
  overflow : Overflow
  deriving DecidableEq, Repr

namespace Overflow

def name : Overflow → String
  | latestWins => "latest_wins"
  | dropOldest => "drop_oldest"
  | dropNewest => "drop_newest"

def names : List (String × Overflow) :=
  [latestWins, dropOldest, dropNewest].map fun overflow => (overflow.name, overflow)

end Overflow

namespace Policy

/-- Relative movements do not queue up, so that the pointer does not lag behind the hand. Contacts
form a short queue, from which the oldest is shed. -/
def default (mode : Mode) : Policy :=
  if mode.isTouch then ⟨4, .dropOldest⟩ else ⟨1, .latestWins⟩

/-- The bytes that a buffer takes for each report, apart from the contents. -/
def slotSize : Nat := 32

/-- The most bytes that can be reserved at once: what a signed number of 64 bits can count. -/
def reservationLimit : Nat := 9223372036854775807

/-- Room for a full buffer can be asked for. Whether the system has it is another matter. -/
def Reservable (policy : Policy) : Prop :=
  policy.capacity * slotSize ≤ reservationLimit

instance (policy : Policy) : Decidable policy.Reservable :=
  inferInstanceAs (Decidable (_ ≤ _))

end Policy

structure Policies where
  mouse : Policy
  singleTouch : Policy
  multiTouch : Policy
  deriving DecidableEq, Repr

namespace Policies

def default : Policies :=
  ⟨.default .mouse, .default .singleTouch, .default .multiTouch⟩

def get (policies : Policies) : Mode → Policy
  | .mouse => policies.mouse
  | .singleTouch => policies.singleTouch
  | .multiTouch => policies.multiTouch

end Policies

end HidPointer
