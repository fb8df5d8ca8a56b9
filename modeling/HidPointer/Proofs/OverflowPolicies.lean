import HidPointer.Queue
import Mathlib.Data.List.Basic
import Mathlib.Data.List.Induction
import Mathlib.Data.List.Infix

/-!
# What the overflow policies keep

As long as no read is parked, reports that are pushed wait in the buffer until they are popped, and
the overflow policy decides which of them are lost. None of the policies changes the order of the
reports, and each keeps what it is named for (`ReportQueue.overflow_promises`): the newest reports,
the oldest, or the oldest and the very newest.
-/

set_option autoImplicit false

namespace HidPointer

/-- What is done to a queue on which no read waits. -/
inductive Access where
  | push (report : Bytes)
  | pop

/-- A queue with all that was pushed to it and all that was popped from it, oldest first. -/
structure Accessed (κ : Type) where
  queue : ReportQueue κ
  pushed : List Bytes := []
  popped : List Bytes := []

namespace Accessed

variable {κ : Type}

def step (accessed : Accessed κ) : Access → Accessed κ
  | .push report =>
      { accessed with
        queue := (accessed.queue.push report).1
        pushed := accessed.pushed ++ [report] }
  | .pop =>
      match accessed.queue.pop with
      | none => accessed
      | some (queue, report) =>
          { accessed with queue := queue, popped := accessed.popped ++ [report] }

end Accessed

namespace Policy

/-- The buffer after a report arrived at it. -/
def receive (policy : Policy) (buffered : List Bytes) (report : Bytes) : List Bytes :=
  if buffered.length < policy.capacity then buffered ++ [report]
  else policy.overflow.receive buffered report

/-- What is buffered when these reports have been pushed and none was popped: the last of them, or
the first, as many as there is room for, or the first with the very last behind them. -/
def retained (policy : Policy) (reports : List Bytes) : List Bytes :=
  match policy.overflow with
  | .dropOldest => reports.drop (reports.length - policy.capacity)
  | .dropNewest => reports.take policy.capacity
  | .latestWins => reports.dropLast.take (policy.capacity - 1) ++ reports.getLast?.toList

variable {policy : Policy} {buffered : List Bytes} {report : Bytes}

theorem receive_of_room (room : buffered.length < policy.capacity) :
    policy.receive buffered report = buffered ++ [report] :=
  if_pos room

theorem receive_of_full (full : policy.capacity ≤ buffered.length) :
    policy.receive buffered report = policy.overflow.receive buffered report :=
  if_neg (Nat.not_lt.mpr full)

theorem receive_sublist : (policy.receive buffered report).Sublist (buffered ++ [report]) := by
  by_cases room : buffered.length < policy.capacity
  · rw [receive_of_room room]
  · rw [receive_of_full (Nat.not_lt.mp room)]
    cases policy.overflow with
    | latestWins => exact (List.dropLast_sublist buffered).append_right [report]
    | dropOldest => exact (List.drop_sublist 1 buffered).append_right [report]
    | dropNewest => exact List.sublist_append_left buffered [report]

theorem receive_suffix (drops : policy.overflow = .dropOldest) :
    policy.receive buffered report <:+ buffered ++ [report] := by
  by_cases room : buffered.length < policy.capacity
  · rw [receive_of_room room]
  · rw [receive_of_full (Nat.not_lt.mp room), drops]
    exact List.suffix_append_self_iff.mpr (List.drop_suffix 1 buffered)

theorem prefix_receive (refuses : policy.overflow = .dropNewest) :
    buffered <+: policy.receive buffered report := by
  by_cases room : buffered.length < policy.capacity
  · rw [receive_of_room room]
    exact List.prefix_append buffered [report]
  · rw [receive_of_full (Nat.not_lt.mp room), refuses]
    exact List.prefix_rfl

theorem receive_latestWins (replaces : policy.overflow = .latestWins) :
    policy.receive buffered report =
      (if buffered.length < policy.capacity then buffered else buffered.dropLast) ++ [report] := by
  by_cases room : buffered.length < policy.capacity
  · rw [receive_of_room room, if_pos room]
  · rw [receive_of_full (Nat.not_lt.mp room), if_neg room, replaces]
    rfl

section Retained

variable {reports : List Bytes}

theorem retained_dropOldest (drops : policy.overflow = .dropOldest) :
    policy.retained reports = reports.drop (reports.length - policy.capacity) := by
  rw [retained, drops]

theorem retained_dropNewest (refuses : policy.overflow = .dropNewest) :
    policy.retained reports = reports.take policy.capacity := by
  rw [retained, refuses]

theorem retained_latestWins (replaces : policy.overflow = .latestWins) :
    policy.retained (reports ++ [report]) = reports.take (policy.capacity - 1) ++ [report] := by
  rw [retained, replaces]
  simp

theorem retained_of_room (room : reports.length ≤ policy.capacity) :
    policy.retained reports = reports := by
  cases overflow : policy.overflow with
  | dropOldest => rw [retained_dropOldest overflow, Nat.sub_eq_zero_of_le room, List.drop_zero]
  | dropNewest => rw [retained_dropNewest overflow, List.take_of_length_le room]
  | latestWins =>
      rcases reports.eq_nil_or_concat' with rfl | ⟨earlier, last, rfl⟩
      · simp [retained, overflow]
      · rw [List.length_append, List.length_singleton] at room
        rw [retained_latestWins overflow, List.take_of_length_le (Nat.le_sub_of_add_le room)]

/-- One more report makes what is retained of the earlier ones what is retained of all. -/
theorem receive_retained (positive : 0 < policy.capacity) (reports : List Bytes) (report : Bytes) :
    policy.receive (policy.retained reports) report = policy.retained (reports ++ [report]) := by
  by_cases room : reports.length < policy.capacity
  · have all := retained_of_room (Nat.le_of_lt room)
    have allAgain : policy.retained (reports ++ [report]) = reports ++ [report] := by
      apply retained_of_room
      rw [List.length_append]
      exact room
    rw [all, receive_of_room room, allAgain]
  · have many : policy.capacity ≤ reports.length := Nat.not_lt.mp room
    cases overflow : policy.overflow with
    | dropOldest =>
        have full : policy.capacity ≤ (reports.drop (reports.length - policy.capacity)).length := by
          rw [List.length_drop]
          omega
        have later : (reports ++ [report]).length - policy.capacity =
            reports.length - policy.capacity + 1 := by
          rw [List.length_append, List.length_singleton, Nat.sub_add_comm many]
        have inside : reports.length - policy.capacity + 1 ≤ reports.length := by omega
        rw [retained_dropOldest overflow, retained_dropOldest overflow, receive_of_full full,
          overflow, Overflow.receive, List.drop_drop, later, List.drop_append_of_le_length inside]
    | dropNewest =>
        have full : policy.capacity ≤ (reports.take policy.capacity).length :=
          Nat.le_of_eq (List.length_take_of_le many).symm
        rw [retained_dropNewest overflow, retained_dropNewest overflow, receive_of_full full,
          overflow, Overflow.receive, List.take_append_of_le_length many]
    | latestWins =>
        rcases reports.eq_nil_or_concat' with rfl | ⟨earlier, last, rfl⟩
        · exact absurd positive (Nat.not_lt.mpr many)
        · rw [List.length_append, List.length_singleton] at many
          have inside : policy.capacity - 1 ≤ earlier.length := Nat.sub_le_of_le_add many
          have full :
              ¬ (earlier.take (policy.capacity - 1) ++ [last]).length < policy.capacity := by
            rw [List.length_append, List.length_take, List.length_singleton]
            omega
          rw [retained_latestWins overflow, retained_latestWins overflow,
            receive_latestWins overflow, if_neg full, List.dropLast_concat,
            List.take_append_of_le_length inside]

theorem foldl_receive (positive : 0 < policy.capacity) (reports : List Bytes) :
    reports.foldl policy.receive [] = policy.retained reports := by
  induction reports using List.reverseRecOn with
  | nil => exact (retained_of_room (Nat.zero_le _)).symm
  | append_singleton reports report ih =>
      rw [List.foldl_append, ih]
      exact receive_retained positive reports report

end Retained

end Policy

/-- `Loses buffered report after outcome`: of the buffered reports and the one that is pushed, the
outcome tells which is not in the buffer after that. -/
inductive Loses {κ : Type} (buffered : List Bytes) (report : Bytes) :
    List Bytes → PushOutcome κ → Prop where
  | nothing : Loses buffered report (buffered ++ [report]) .buffered
  | earlier {front back : List Bytes} {lost : Bytes} (split : buffered = front ++ lost :: back) :
      Loses buffered report (front ++ back ++ [report]) .bufferedWithDrop
  | pushed : Loses buffered report buffered .dropped

theorem Loses.outcome_eq {κ : Type} {buffered after : List Bytes} {report : Bytes}
    {outcome : PushOutcome κ} (loses : Loses buffered report after outcome)
    (new : report ∉ buffered) :
    outcome =
      if buffered.length < after.length then .buffered
      else if report ∈ after then .bufferedWithDrop
      else .dropped := by
  cases loses with
  | nothing => simp
  | earlier split => simp [split]
  | pushed => simp [new]

/-- The buffer tells the outcomes apart, unless the same report was in it before. -/
theorem Loses.unique {κ : Type} {buffered after : List Bytes} {report : Bytes}
    {one other : PushOutcome κ} (oneLoses : Loses buffered report after one)
    (otherLoses : Loses buffered report after other) (new : report ∉ buffered) : one = other :=
  (oneLoses.outcome_eq new).trans (otherLoses.outcome_eq new).symm

namespace ReportQueue

variable {κ : Type} {queue : ReportQueue κ}

theorem push_idle (idle : queue.parked = []) (report : Bytes) :
    (queue.push report).1.policy = queue.policy ∧ (queue.push report).1.parked = [] ∧
      (queue.push report).1.buffered = queue.policy.receive queue.buffered report := by
  by_cases room : queue.buffered.length < queue.policy.capacity
  · simp only [push, idle, room, if_true, Policy.receive_of_room room, and_self]
  · simp only [push, idle, room, if_false, Policy.receive_of_full (Nat.not_lt.mp room)]
    cases queue.policy.overflow <;> exact ⟨rfl, rfl, rfl⟩

theorem push_loses (idle : queue.parked = []) (positive : 0 < queue.policy.capacity)
    (report : Bytes) :
    Loses queue.buffered report (queue.push report).1.buffered (queue.push report).2 := by
  by_cases room : queue.buffered.length < queue.policy.capacity
  · simp only [push, idle, room, if_true]
    exact .nothing
  · have some : queue.buffered ≠ [] := by
      intro none
      rw [none] at room
      exact room positive
    simp only [push, idle, room, if_false]
    cases queue.policy.overflow with
    | latestWins =>
        have loses : Loses queue.buffered report _ (.bufferedWithDrop : PushOutcome κ) :=
          .earlier (List.dropLast_append_getLast some).symm
        rw [List.append_nil] at loses
        exact loses
    | dropOldest =>
        obtain ⟨oldest, rest, split⟩ := List.exists_cons_of_ne_nil some
        have loses : Loses queue.buffered report ([] ++ rest ++ [report])
            (.bufferedWithDrop : PushOutcome κ) := .earlier split
        rw [split] at loses ⊢
        exact loses
    | dropNewest => exact .pushed

end ReportQueue

namespace Accessed

variable {κ : Type} {policy : Policy} {accessed : Accessed κ}

/-- The reports that are not lost, in the order in which they leave the queue. -/
def surviving (accessed : Accessed κ) : List Bytes :=
  accessed.popped ++ accessed.queue.buffered

/-- What holds of a queue with this policy at all times. -/
structure Sound (policy : Policy) (accessed : Accessed κ) : Prop where
  policy_eq : accessed.queue.policy = policy
  idle : accessed.queue.parked = []
  inOrder : accessed.surviving.Sublist accessed.pushed
  newest : policy.overflow = .dropOldest → accessed.queue.buffered <:+ accessed.pushed

theorem step_pop_of_nil (nothing : accessed.queue.buffered = []) :
    accessed.step .pop = accessed := by
  simp only [step, ReportQueue.pop, nothing]

theorem step_pop_of_cons {report : Bytes} {rest : List Bytes}
    (waiting : accessed.queue.buffered = report :: rest) :
    (accessed.step .pop).queue.policy = accessed.queue.policy ∧
      (accessed.step .pop).queue.parked = accessed.queue.parked ∧
      (accessed.step .pop).queue.buffered = rest ∧
      (accessed.step .pop).pushed = accessed.pushed ∧
      (accessed.step .pop).surviving = accessed.surviving := by
  simp only [step, surviving, ReportQueue.pop, waiting, List.append_assoc, List.singleton_append,
    and_self]

theorem Sound.step (sound : Sound policy accessed) (access : Access) :
    Sound policy (accessed.step access) := by
  obtain ⟨same, idle, inOrder, newest⟩ := sound
  cases access with
  | push report =>
      obtain ⟨policy_eq, stillIdle, buffered⟩ := ReportQueue.push_idle idle report
      rw [same] at policy_eq buffered
      refine ⟨policy_eq, stillIdle, ?_, ?_⟩
      · have added := inOrder.append_right [report]
        rw [surviving, List.append_assoc] at added
        refine List.Sublist.trans ?_ added
        simp only [surviving, Accessed.step, buffered]
        exact Policy.receive_sublist.append_left accessed.popped
      · intro drops
        have added : accessed.queue.buffered ++ [report] <:+ accessed.pushed ++ [report] :=
          List.suffix_append_self_iff.mpr (newest drops)
        simp only [Accessed.step, buffered]
        exact (Policy.receive_suffix drops).trans added
  | pop =>
      cases waiting : accessed.queue.buffered with
      | nil =>
          rw [step_pop_of_nil waiting]
          exact ⟨same, idle, inOrder, newest⟩
      | cons report rest =>
          obtain ⟨policy_eq, parked, left, pushed, surviving⟩ := step_pop_of_cons waiting
          refine ⟨policy_eq.trans same, parked.trans idle, ?_, ?_⟩
          · rw [surviving, pushed]
            exact inOrder
          · intro drops
            rw [left, pushed]
            have newest := newest drops
            rw [waiting] at newest
            exact (List.suffix_cons report rest).trans newest

theorem Sound.foldl (sound : Sound policy accessed) (accesses : List Access) :
    Sound policy (accesses.foldl Accessed.step accessed) := by
  induction accesses generalizing accessed with
  | nil => exact sound
  | cons access accesses ih => exact ih (sound.step access)

/-- Where the policy is to refuse what comes last, a report that was let in is not lost. -/
theorem Sound.surviving_prefix (sound : Sound policy accessed)
    (refuses : policy.overflow = .dropNewest) (accesses : List Access) :
    accessed.surviving <+: (accesses.foldl Accessed.step accessed).surviving := by
  induction accesses generalizing accessed with
  | nil => exact List.prefix_rfl
  | cons access accesses ih =>
      refine List.IsPrefix.trans ?_ (ih (sound.step access))
      cases access with
      | push report =>
          obtain ⟨_, _, buffered⟩ := ReportQueue.push_idle sound.idle report
          rw [sound.policy_eq] at buffered
          simp only [surviving, Accessed.step, buffered]
          exact (List.prefix_append_right_inj _).mpr (Policy.prefix_receive refuses)
      | pop =>
          cases waiting : accessed.queue.buffered with
          | nil =>
              rw [step_pop_of_nil waiting]
          | cons report rest =>
              obtain ⟨_, _, _, _, surviving⟩ := step_pop_of_cons waiting
              rw [surviving]

theorem Sound.buffered_foldl (sound : Sound policy accessed) (reports : List Bytes) :
    ((reports.map Access.push).foldl Accessed.step accessed).queue.buffered =
      reports.foldl policy.receive accessed.queue.buffered := by
  induction reports generalizing accessed with
  | nil => rfl
  | cons report reports ih =>
      obtain ⟨_, _, buffered⟩ := ReportQueue.push_idle sound.idle report
      rw [sound.policy_eq] at buffered
      rw [List.map_cons, List.foldl_cons, ih (sound.step _), List.foldl_cons]
      simp only [Accessed.step, buffered]

end Accessed

namespace ReportQueue

variable {κ : Type}

/-- The queue after it was accessed so, with what went through it. -/
def access (queue : ReportQueue κ) (accesses : List Access) : Accessed κ :=
  accesses.foldl Accessed.step { queue := queue }

/-- What the policy promises of one push, in the state of the queue before it. -/
structure PushKeeps (policy : Policy) (queue : ReportQueue κ) (report : Bytes) : Prop where
  latestWins : policy.overflow = .latestWins →
    (queue.push report).1.buffered =
      (if queue.buffered.length < policy.capacity then queue.buffered
        else queue.buffered.dropLast) ++ [report]
  dropNewest : policy.overflow = .dropNewest → policy.capacity ≤ queue.buffered.length →
    (queue.push report).1.buffered = queue.buffered
  loses : Loses queue.buffered report (queue.push report).1.buffered (queue.push report).2
  exactly : report ∉ queue.buffered → ∀ other : PushOutcome κ,
    Loses queue.buffered report (queue.push report).1.buffered other →
      other = (queue.push report).2

/-- What the policies promise. None reorders the reports; `dropOldest` keeps the newest, and
`dropNewest` never gives up what it has let in. -/
theorem overflow_promises (policy : Policy) (counters : Counters)
    (positive : 1 ≤ policy.capacity) :
    let start : ReportQueue κ := { policy := policy, counters := counters }
    (∀ accesses : List Access,
      let now := start.access accesses
      (now.popped ++ now.queue.buffered).Sublist now.pushed ∧
      (policy.overflow = .dropOldest → now.queue.buffered <:+ now.pushed) ∧
      (policy.overflow = .dropNewest → ∀ more : List Access,
        let later := start.access (accesses ++ more)
        now.popped ++ now.queue.buffered <+: later.popped ++ later.queue.buffered) ∧
      ∀ report : Bytes, PushKeeps policy now.queue report) ∧
    ∀ reports : List Bytes,
      (start.access (reports.map .push)).queue.buffered = policy.retained reports := by
  intro start
  have initially : Accessed.Sound policy ({ queue := start } : Accessed κ) :=
    ⟨rfl, rfl, .slnil, fun _ => List.suffix_rfl⟩
  refine ⟨?_, ?_⟩
  · intro accesses now
    have sound : Accessed.Sound policy now := initially.foldl accesses
    refine ⟨sound.inOrder, sound.newest, ?_, ?_⟩
    · intro refuses more later
      have continued : later = more.foldl Accessed.step now := List.foldl_append
      rw [continued]
      exact sound.surviving_prefix refuses more
    · intro report
      obtain ⟨_, _, buffered⟩ := push_idle sound.idle report
      rw [sound.policy_eq] at buffered
      have positive : 0 < now.queue.policy.capacity := by rwa [sound.policy_eq]
      have loses := push_loses sound.idle positive report
      refine ⟨?_, ?_, loses, fun new other otherLoses => otherLoses.unique loses new⟩
      · intro replaces
        rw [buffered]
        exact Policy.receive_latestWins replaces
      · intro refuses full
        rw [buffered, Policy.receive_of_full full, refuses]
        rfl
  · intro reports
    exact (initially.buffered_foldl reports).trans (Policy.foldl_receive positive reports)

/-- The second report gives way to the third, and the third stays when the first has left. -/
theorem overflow_promises_latestWins :
    let policy : Policy := ⟨2, .latestWins⟩
    let start : ReportQueue Unit := { policy := policy }
    let accesses : List Access := [.push [1], .push [2], .push [3], .pop, .push [4]]
    let now := start.access accesses
    1 ≤ policy.capacity ∧ now.popped = [[1]] ∧ now.queue.buffered = [[3], [4]] ∧
      (now.popped ++ now.queue.buffered).Sublist now.pushed ∧
      PushKeeps policy now.queue [5] ∧
      (start.access ([[1], [2], [3]].map .push)).queue.buffered = [[1], [3]] := by
  intro policy start accesses now
  have positive : 1 ≤ policy.capacity := by decide
  obtain ⟨promised, pushes⟩ := overflow_promises (κ := Unit) policy {} positive
  obtain ⟨inOrder, _, _, push⟩ := promised accesses
  exact ⟨positive, rfl, rfl, inOrder, push [5], pushes [[1], [2], [3]]⟩

end ReportQueue

end HidPointer
