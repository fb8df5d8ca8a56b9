import HidPointer.Mode

/-!
# Device events

A device publishes an event whenever it throws away something that waited.
-/

set_option autoImplicit false

namespace HidPointer

inductive DropReason where
  | overflow
  /-- The read it was meant for could not hold it. -/
  | bufferTooSmall
  deriving DecidableEq, Repr

/-- A change of mode, and the number of the epoch it starts. -/
structure Transition where
  source : Mode
  target : Mode
  epoch : Nat
  deriving DecidableEq, Repr

/-- What a device tells its subscribers. -/
inductive Event where
  /-- The mode was switched, which ended some parked reads and discarded some reports. -/
  | modeChanged (transition : Transition) (flushedReads discardedReports : Nat)
  | reportDropped (mode : Mode) (reason : DropReason)
  | readCanceled (id : Nat)
  deriving DecidableEq, Repr

end HidPointer
