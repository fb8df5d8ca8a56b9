/-!
# Throttled messages

A message that repeats is written the first time it occurs and then once in an interval. What is
not written is counted, and the count goes with the next one that is. Whether the interval is
over is the caller's decision: it has the clock. A timed throttle is such a caller.
-/

set_option autoImplicit false

namespace HidPointer

/-- For each kind of message, how many were held back since the last one was written. -/
structure Throttle where
  heldBack : List (String × Nat) := []
  deriving Repr

namespace Throttle

/-- One occurrence of a message. The answer is the number held back before it, if it is to be
written, and nothing if it is held back as well. `due` tells whether the interval is over. -/
def check (throttle : Throttle) (key : String) (due : Bool) : Throttle × Option Nat :=
  let others := throttle.heldBack.filter (·.1 != key)
  match throttle.heldBack.lookup key with
  | none => ({ heldBack := (key, 0) :: others }, some 0)
  | some count =>
      if due then ({ heldBack := (key, 0) :: others }, some count)
      else ({ heldBack := (key, count + 1) :: others }, none)

def clear (throttle : Throttle) (key : String) : Throttle :=
  { heldBack := throttle.heldBack.filter (·.1 != key) }

end Throttle

/-- A throttle with the times at which messages were last written, as its clock shows them. -/
structure TimedThrottle (τ : Type) where
  /-- Whether the interval from the first of two times has expired at the second. -/
  expired : τ → τ → Bool
  lastWritten : List (String × τ) := []
  throttle : Throttle := {}

namespace TimedThrottle

variable {τ : Type}

/-- Times and the interval are in nanoseconds. A clock that was read before another thread wrote
the message shows a time before that; then no time counts as passed. -/
def ofInterval (interval : Nat) : TimedThrottle Nat :=
  { expired := fun last now => decide (interval ≤ now - last) }

def isDue (timed : TimedThrottle τ) (key : String) (now : τ) : Bool :=
  match timed.lastWritten.lookup key with
  | none => true
  | some last => timed.expired last now

def check (timed : TimedThrottle τ) (key : String) (now : τ) : TimedThrottle τ × Option Nat :=
  let (throttle, answer) := timed.throttle.check key (timed.isDue key now)
  let lastWritten :=
    if answer.isSome then (key, now) :: timed.lastWritten.filter (·.1 != key)
    else timed.lastWritten
  ({ timed with lastWritten := lastWritten, throttle := throttle }, answer)

def clear (timed : TimedThrottle τ) (key : String) : TimedThrottle τ :=
  { timed with
    lastWritten := timed.lastWritten.filter (·.1 != key)
    throttle := timed.throttle.clear key }

end TimedThrottle

end HidPointer
