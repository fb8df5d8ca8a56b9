import HidPointer.Error
import HidPointer.Queue.Counters
import HidPointer.Queue.Policy

/-!
# The report queue

Where reports and reads meet. Either reports wait for reads, or reads wait for reports. A read
that waits is parked together with its completion, whatever that is: the queue hands completions
back and never runs one.
-/

set_option autoImplicit false

namespace HidPointer

/-- What a read ends with: the bytes of one report, or the reason why there is none. -/
abbrev ReadResult := Except DeviceError Bytes

structure ParkedRead (κ : Type) where
  id : Nat
  capacity : Nat
  completion : κ
  deriving Repr

structure ReportQueue (κ : Type) where
  policy : Policy
  /-- The reports that wait for a read, oldest first. -/
  buffered : List Bytes := []
  /-- The reads that wait for a report, oldest first. -/
  parked : List (ParkedRead κ) := []
  counters : Counters := {}
  deriving Repr

/-- What happened to a report that was pushed. -/
inductive PushOutcome (κ : Type) where
  | resolved (read : ParkedRead κ) (result : ReadResult)
  | buffered
  /-- Buffered in the place of an earlier report. -/
  | bufferedWithDrop
  | dropped
  deriving Repr

structure Flushed (κ : Type) where
  reads : List (ParkedRead κ)
  /-- The number of buffered reports. -/
  discarded : Nat
  deriving Repr

namespace Overflow

/-- The buffer after a report arrived at it when it was full. -/
def receive (overflow : Overflow) (buffered : List Bytes) (report : Bytes) : List Bytes :=
  match overflow with
  | latestWins => buffered.dropLast ++ [report]
  | dropOldest => buffered.drop 1 ++ [report]
  | dropNewest => buffered

end Overflow

namespace ReportQueue

variable {κ : Type}

/-- A report goes to the oldest parked read, else into the buffer, else through the overflow
policy. A parked read that cannot hold the report ends all the same, and the report is lost. -/
def push (queue : ReportQueue κ) (report : Bytes) : ReportQueue κ × PushOutcome κ :=
  let counters := { queue.counters with accepted := queue.counters.accepted + 1 }
  match queue.parked with
  | read :: parked =>
      if read.capacity < report.length then
        ({ queue with
            parked := parked
            counters := { counters with tooSmallDrops := counters.tooSmallDrops + 1 } },
          .resolved read (.error (.bufferTooSmall report.length read.capacity)))
      else
        ({ queue with
            parked := parked
            counters := { counters with delivered := counters.delivered + 1 } },
          .resolved read (.ok report))
  | [] =>
      if queue.buffered.length < queue.policy.capacity then
        ({ queue with
            buffered := queue.buffered ++ [report]
            counters := { counters with buffered := counters.buffered + 1 } },
          .buffered)
      else
        let counters := { counters with overflowDrops := counters.overflowDrops + 1 }
        let buffered := queue.policy.overflow.receive queue.buffered report
        match queue.policy.overflow with
        | .dropNewest => ({ queue with buffered := buffered, counters := counters }, .dropped)
        | _ =>
            ({ queue with
                buffered := buffered
                counters := { counters with buffered := counters.buffered + 1 } },
              .bufferedWithDrop)

def pop (queue : ReportQueue κ) : Option (ReportQueue κ × Bytes) :=
  match queue.buffered with
  | [] => none
  | report :: buffered =>
      some
        ({ queue with
            buffered := buffered
            counters := { queue.counters with delivered := queue.counters.delivered + 1 } },
          report)

def park (queue : ReportQueue κ) (read : ParkedRead κ) : ReportQueue κ :=
  { queue with parked := queue.parked ++ [read] }

/-- Takes the read with the given number out of its place, if it is parked. -/
def cancel (queue : ReportQueue κ) (id : Nat) : Option (ReportQueue κ × ParkedRead κ) :=
  match queue.parked.find? (·.id == id) with
  | none => none
  | some read =>
      some
        ({ queue with
            parked := queue.parked.eraseP (·.id == id)
            counters := { queue.counters with canceled := queue.counters.canceled + 1 } },
          read)

/-- Removes everything that waits and adopts a policy. -/
def flush (queue : ReportQueue κ) (policy : Policy) : ReportQueue κ × Flushed κ :=
  ({ policy := policy
     counters :=
      { queue.counters with
        reconfigured := queue.counters.reconfigured + queue.parked.length } },
    { reads := queue.parked, discarded := queue.buffered.length })

/-- Takes all parked reads and leaves the buffer alone. -/
def drain (queue : ReportQueue κ) : ReportQueue κ × List (ParkedRead κ) :=
  ({ queue with
      parked := []
      counters :=
        { queue.counters with canceled := queue.counters.canceled + queue.parked.length } },
    queue.parked)

def reject (queue : ReportQueue κ) : ReportQueue κ :=
  { queue with counters := { queue.counters with rejected := queue.counters.rejected + 1 } }

end ReportQueue

end HidPointer
