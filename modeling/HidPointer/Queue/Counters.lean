/-!
# Counters

What has become of the reports and the parked reads of a device since it was created.
-/

set_option autoImplicit false

namespace HidPointer

/-- Counts over the life of a device. Each begins with zero and is never more than the number of
requests so far, so no run on a machine brings it to 2^64, and it is taken as a natural number. The
same goes for the epochs and the read numbers of a device. -/
structure Counters where
  /-- Reports that passed validation. -/
  accepted : Nat := 0
  /-- Reports handed to a reader. -/
  delivered : Nat := 0
  /-- Reports put into the buffer. -/
  buffered : Nat := 0
  /-- Reports lost to an overflow policy. -/
  overflowDrops : Nat := 0
  /-- Reports lost because the parked read could not hold them. -/
  tooSmallDrops : Nat := 0
  /-- Submissions that failed validation. -/
  rejected : Nat := 0
  /-- Parked reads that were canceled. -/
  canceled : Nat := 0
  /-- Parked reads that a mode switch flushed. -/
  reconfigured : Nat := 0
  deriving DecidableEq, Repr

end HidPointer
