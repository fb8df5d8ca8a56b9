import HidPointer.Throttle
import Mathlib.Algebra.GroupWithZero.Nat
import Mathlib.Data.List.DropRight
import Mathlib.Data.List.Induction
import Mathlib.Data.List.ReduceOption

/-!
# A throttle loses no occurrence

Whoever checks a message is told how many occurrences of it were held back before. What one kind of
message is answered follows from its own checks since it was last cleared, one after the other
(`TimedThrottle.Account`), so no other kind has a say in it. Every occurrence is written, counted in
an answer or still held back (`TimedThrottle.no_occurrence_lost`), whatever the clock shows.
-/

set_option autoImplicit false

namespace HidPointer

/-- What is done with a throttle. A check comes with the time, or in a record of what was done with
its answer. -/
inductive ThrottleUse (α : Type) where
  | check (key : String) (given : α)
  | clear (key : String)

namespace ThrottleUse

variable {α : Type}

def key : ThrottleUse α → String
  | check key _ | clear key => key

def clears (key : String) : ThrottleUse α → Bool
  | check _ _ => false
  | clear cleared => cleared == key

def given? (key : String) : ThrottleUse α → Option α
  | check checked given => if checked = key then some given else none
  | clear _ => none

/-- What the checks of one kind of message come with, from when it was last cleared. -/
def since (key : String) (uses : List (ThrottleUse α)) : List α :=
  (uses.rtakeWhile fun use => !use.clears key).filterMap (given? key)

def about (key : String) (uses : List (ThrottleUse α)) : List (ThrottleUse α) :=
  uses.filter fun use => use.key = key

variable {key : String} {uses : List (ThrottleUse α)} {use : ThrottleUse α}

theorem since_check (given : α) :
    since key (uses ++ [check key given]) = since key uses ++ [given] := by
  simp [since, clears, given?]

theorem since_clear : since key (uses ++ [clear key]) = [] := by
  simp [since, clears]

theorem since_of_ne (foreign : use.key ≠ key) : since key (uses ++ [use]) = since key uses := by
  cases use with
  | check other given =>
      have differs : other ≠ key := foreign
      simp [since, clears, given?, differs]
  | clear other =>
      have differs : other ≠ key := foreign
      simp [since, clears, given?, differs]

theorem about_of_eq (own : use.key = key) :
    about key (uses ++ [use]) = about key uses ++ [use] := by
  simp [about, own]

theorem about_of_ne (foreign : use.key ≠ key) : about key (uses ++ [use]) = about key uses := by
  simp [about, foreign]

end ThrottleUse

section Lookup

variable {β : Type} {key other : String}

theorem lookup_without (entries : List (String × β)) (key : String) :
    (entries.filter (·.1 != key)).lookup key = none := by
  rw [List.lookup_eq_none_iff]
  intro entry member
  have differs : entry.1 ≠ key := by simpa using (List.mem_filter.mp member).2
  simpa using Ne.symm differs

theorem lookup_without_of_ne (differs : other ≠ key) (entries : List (String × β)) :
    (entries.filter (·.1 != key)).lookup other = entries.lookup other := by
  induction entries with
  | nil => rfl
  | cons entry entries ih =>
      by_cases same : entry.1 = key
      · have apart : (other == entry.1) = false := by simp [same, differs]
        rw [List.filter_cons_of_neg (by simp [same]), ih, List.lookup_cons, apart]
      · rw [List.filter_cons_of_pos (by simp [same]), List.lookup_cons, List.lookup_cons, ih]

theorem lookup_put (value : β) (entries : List (String × β)) (key : String) :
    ((key, value) :: entries.filter (·.1 != key)).lookup key = some value :=
  List.lookup_cons_self

theorem lookup_put_of_ne (differs : other ≠ key) (value : β) (entries : List (String × β)) :
    ((key, value) :: entries.filter (·.1 != key)).lookup other = entries.lookup other := by
  have apart : (other == key) = false := by simp [differs]
  rw [List.lookup_cons, apart, lookup_without_of_ne differs]

end Lookup

namespace Throttle

variable {throttle : Throttle} {key other : String}

theorem check_of_unknown (unknown : throttle.heldBack.lookup key = none) (due : Bool) :
    throttle.check key due =
      ({ heldBack := (key, 0) :: throttle.heldBack.filter (·.1 != key) }, some 0) := by
  simp only [check, unknown]

theorem check_of_known {count : Nat} (known : throttle.heldBack.lookup key = some count)
    (due : Bool) :
    throttle.check key due =
      if due then ({ heldBack := (key, 0) :: throttle.heldBack.filter (·.1 != key) }, some count)
      else ({ heldBack := (key, count + 1) :: throttle.heldBack.filter (·.1 != key) }, none) := by
  simp only [check, known]

theorem lookup_check_of_ne (differs : other ≠ key) (due : Bool) :
    (throttle.check key due).1.heldBack.lookup other = throttle.heldBack.lookup other := by
  cases known : throttle.heldBack.lookup key with
  | none => rw [check_of_unknown known, lookup_put_of_ne differs]
  | some count =>
      rw [check_of_known known]
      cases due with
      | true | false => exact lookup_put_of_ne differs _ _

end Throttle

namespace TimedThrottle

open ThrottleUse (since about since_check since_clear since_of_ne about_of_eq about_of_ne)

variable {τ : Type} {expired : τ → τ → Bool}

/-- How many occurrences are held back, to be told when the message is next written. -/
def held (timed : TimedThrottle τ) (key : String) : Nat :=
  (timed.throttle.heldBack.lookup key).getD 0

/-- What is known of a kind of message: when it was last written and how many were held back since
then, if it occurred since it was cleared. -/
structure Knows (timed : TimedThrottle τ) (key : String) (known : Option (τ × Nat)) : Prop where
  last : timed.lastWritten.lookup key = known.map Prod.fst
  count : timed.throttle.heldBack.lookup key = known.map Prod.snd

/-- All that a check can do: what was known before it, the time, the answer and what is known after
it. -/
inductive Checked (expired : τ → τ → Bool) :
    Option (τ × Nat) → τ → Option Nat → τ × Nat → Prop where
  | first {now : τ} : Checked expired none now (some 0) (now, 0)
  | written {last now : τ} {count : Nat} (due : expired last now = true) :
      Checked expired (some (last, count)) now (some count) (now, 0)
  | heldBack {last now : τ} {count : Nat} (early : expired last now = false) :
      Checked expired (some (last, count)) now none (last, count + 1)

theorem Checked.unique {known : Option (τ × Nat)} {now : τ} {answer other : Option Nat}
    {after otherAfter : τ × Nat} (checked : Checked expired known now answer after)
    (again : Checked expired known now other otherAfter) : answer = other ∧ after = otherAfter := by
  cases checked with
  | first =>
      cases again with
      | first => exact ⟨rfl, rfl⟩
  | written due =>
      cases again with
      | written => exact ⟨rfl, rfl⟩
      | heldBack early => cases due.symm.trans early
  | heldBack early =>
      cases again with
      | written due => cases due.symm.trans early
      | heldBack => exact ⟨rfl, rfl⟩

section Known

variable {timed : TimedThrottle τ} {key other : String} {known : Option (τ × Nat)}

theorem Knows.held_eq (knows : timed.Knows key known) :
    timed.held key = (known.map Prod.snd).getD 0 := by
  rw [held, knows.count]

theorem check_eq {now : τ} {throttle : Throttle} {answer : Option Nat}
    (served : timed.throttle.check key (timed.isDue key now) = (throttle, answer)) :
    timed.check key now =
      ({ timed with
        lastWritten :=
          if answer.isSome then (key, now) :: timed.lastWritten.filter (·.1 != key)
          else timed.lastWritten
        throttle := throttle }, answer) := by
  simp only [check, served]

theorem isDue_eq {last : τ} {count : Nat} (knows : timed.Knows key (some (last, count))) (now : τ) :
    timed.isDue key now = timed.expired last now := by
  rw [isDue, knows.last]
  rfl

theorem Knows.checked (knows : timed.Knows key known) (now : τ) :
    ∃ after, Checked timed.expired known now (timed.check key now).2 after ∧
      (timed.check key now).1.Knows key (some after) := by
  cases known with
  | none =>
      rw [check_eq (Throttle.check_of_unknown knows.count _)]
      exact ⟨(now, 0), .first, lookup_put now _ key, lookup_put 0 _ key⟩
  | some writing =>
      obtain ⟨last, count⟩ := writing
      have served := Throttle.check_of_known knows.count (timed.isDue key now)
      cases interval : timed.expired last now with
      | true =>
          rw [if_pos ((isDue_eq knows now).trans interval)] at served
          rw [check_eq served]
          exact ⟨(now, 0), .written interval, lookup_put now _ key, lookup_put 0 _ key⟩
      | false =>
          rw [if_neg (by rw [isDue_eq knows, interval]; decide)] at served
          rw [check_eq served]
          exact ⟨(last, count + 1), .heldBack interval, knows.last, lookup_put (count + 1) _ key⟩

theorem lastWritten_check (timed : TimedThrottle τ) (key : String) (now : τ) :
    (timed.check key now).1.lastWritten =
      if (timed.check key now).2.isSome then
        (key, now) :: timed.lastWritten.filter (·.1 != key)
      else timed.lastWritten :=
  rfl

theorem Knows.checked_of_ne (knows : timed.Knows other known) (differs : other ≠ key) (now : τ) :
    (timed.check key now).1.Knows other known := by
  refine ⟨?_, (Throttle.lookup_check_of_ne differs _).trans knows.count⟩
  rw [lastWritten_check]
  split
  · exact (lookup_put_of_ne differs now _).trans knows.last
  · exact knows.last

theorem clear_knows : (timed.clear key).Knows key none :=
  ⟨lookup_without _ key, lookup_without _ key⟩

theorem Knows.cleared_of_ne (knows : timed.Knows other known) (differs : other ≠ key) :
    (timed.clear key).Knows other known :=
  ⟨(lookup_without_of_ne differs _).trans knows.last,
    (lookup_without_of_ne differs _).trans knows.count⟩

end Known

def serve (timed : TimedThrottle τ) :
    ThrottleUse τ → TimedThrottle τ × ThrottleUse (Option Nat)
  | .check key now => ((timed.check key now).1, .check key (timed.check key now).2)
  | .clear key => (timed.clear key, .clear key)

/-- A throttle with the record of what was done with it, oldest first. -/
structure Recorded (τ : Type) where
  throttle : TimedThrottle τ
  record : List (ThrottleUse (Option Nat)) := []

def Recorded.step (recorded : Recorded τ) (use : ThrottleUse τ) : Recorded τ :=
  { throttle := (recorded.throttle.serve use).1
    record := recorded.record ++ [(recorded.throttle.serve use).2] }

def after (timed : TimedThrottle τ) (uses : List (ThrottleUse τ)) : Recorded τ :=
  uses.foldl Recorded.step { throttle := timed }

/-- One kind of message since it was last cleared: the times of its checks, the answers, and what is
known after them. -/
inductive Account (expired : τ → τ → Bool) :
    List τ → List (Option Nat) → Option (τ × Nat) → Prop where
  | fresh : Account expired [] [] none
  | checked {times : List τ} {answers : List (Option Nat)} {known : Option (τ × Nat)} {now : τ}
      {answer : Option Nat} {after : τ × Nat} (account : Account expired times answers known)
      (checked : Checked expired known now answer after) :
      Account expired (times ++ [now]) (answers ++ [answer]) (some after)

/-- The accounts of one kind of message since it was last cleared: every check has an answer, and
the occurrences that were not written are told in an answer or still held back. -/
structure Balanced (checks : Nat) (answers : List (Option Nat)) (held : Nat) : Prop where
  answered : answers.length = checks
  balance : checks = answers.reduceOption.length + answers.reduceOption.sum + held
  first : 0 < checks → answers.head? = some (some 0)

theorem Balanced.concat {checks : Nat} {answers : List (Option Nat)} {before held : Nat}
    {answer : Option Nat} (balanced : Balanced checks answers before) (checked : 0 < checks)
    (moves : before + 1 = answer.toList.length + answer.toList.sum + held) :
    Balanced (checks + 1) (answers ++ [answer]) held := by
  obtain ⟨answered, balance, first⟩ := balanced
  refine ⟨by simp [answered], ?_, fun _ => ?_⟩
  · rw [List.reduceOption_append, List.reduceOption_singleton, List.length_append, List.sum_append]
    omega
  · rw [List.head?_append, first checked, Option.some_or]

section Runs

variable {timed : TimedThrottle τ} {uses : List (ThrottleUse τ)} {use : ThrottleUse τ}
  {key : String} {known : Option (τ × Nat)}

theorem after_concat (timed : TimedThrottle τ) (uses : List (ThrottleUse τ)) (use : ThrottleUse τ) :
    timed.after (uses ++ [use]) = (timed.after uses).step use := by
  rw [after, List.foldl_append]
  rfl

theorem key_serve : (timed.serve use).2.key = use.key := by
  cases use <;> rfl

theorem expired_serve : (timed.serve use).1.expired = timed.expired := by
  cases use <;> rfl

theorem expired_after (timed : TimedThrottle τ) (uses : List (ThrottleUse τ)) :
    (timed.after uses).throttle.expired = timed.expired := by
  induction uses using List.reverseRecOn with
  | nil => rfl
  | append_singleton uses use ih =>
      rw [after_concat]
      exact expired_serve.trans ih

theorem Knows.served_of_ne (knows : timed.Knows key known) (foreign : use.key ≠ key) :
    (timed.serve use).1.Knows key known := by
  cases use with
  | check other now => exact knows.checked_of_ne (Ne.symm foreign) now
  | clear other => exact knows.cleared_of_ne (Ne.symm foreign)

/-- Two throttles that know the same of a kind of message do the same with it. -/
theorem Knows.served_alike {twin : TimedThrottle τ} (knows : timed.Knows key known)
    (twinKnows : twin.Knows key known) (sameClock : twin.expired = timed.expired)
    (own : use.key = key) :
    (twin.serve use).2 = (timed.serve use).2 ∧
      ∃ after, (timed.serve use).1.Knows key after ∧ (twin.serve use).1.Knows key after := by
  subst own
  cases use with
  | check key now =>
      obtain ⟨after, checked, afterKnows⟩ := knows.checked now
      obtain ⟨twinAfter, twinChecked, twinAfterKnows⟩ := twinKnows.checked now
      rw [sameClock] at twinChecked
      obtain ⟨sameAnswer, rfl⟩ := twinChecked.unique checked
      exact ⟨congrArg (ThrottleUse.check key) sameAnswer, some twinAfter, afterKnows,
        twinAfterKnows⟩
  | clear key => exact ⟨rfl, none, clear_knows, clear_knows⟩

theorem start_knows (expired : τ → τ → Bool) (key : String) :
    ({ expired := expired } : TimedThrottle τ).Knows key none :=
  ⟨rfl, rfl⟩

/-- The record of one kind of message is what it would be if nothing else was done. -/
theorem about_record (knows : timed.Knows key known) (uses : List (ThrottleUse τ)) :
    about key (timed.after uses).record = (timed.after (about key uses)).record ∧
      ∃ known, (timed.after uses).throttle.Knows key known ∧
        (timed.after (about key uses)).throttle.Knows key known := by
  -- From the last use: both throttles know the same of the message, so they answer alike.
  induction uses using List.reverseRecOn with
  | nil => exact ⟨rfl, known, knows, knows⟩
  | append_singleton uses use ih =>
      obtain ⟨same, known, knows, aloneKnows⟩ := ih
      rw [after_concat]
      by_cases own : use.key = key
      · have sameClock := (expired_after timed (about key uses)).trans
          (expired_after timed uses).symm
        obtain ⟨sameEntry, after, afterKnows, aloneAfterKnows⟩ :=
          knows.served_alike aloneKnows sameClock own
        rw [about_of_eq own, after_concat]
        refine ⟨?_, after, afterKnows, aloneAfterKnows⟩
        rw [Recorded.step, Recorded.step, about_of_eq (key_serve.trans own), same, sameEntry]
      · have foreign : ((timed.after uses).throttle.serve use).2.key ≠ key := by rwa [key_serve]
        rw [about_of_ne own]
        exact ⟨(about_of_ne foreign).trans same, known, knows.served_of_ne own, aloneKnows⟩

theorem exists_account (knows : timed.Knows key none) (uses : List (ThrottleUse τ)) :
    ∃ known, Account timed.expired (since key uses) (since key (timed.after uses).record) known ∧
      (timed.after uses).throttle.Knows key known := by
  -- From the last use: the throttle knows of the message what its account says.
  induction uses using List.reverseRecOn with
  | nil => exact ⟨none, .fresh, knows⟩
  | append_singleton uses use ih =>
      obtain ⟨known, account, knows⟩ := ih
      rw [after_concat]
      by_cases own : use.key = key
      · subst own
        cases use with
        | check key now =>
            obtain ⟨after, checked, afterKnows⟩ := knows.checked now
            rw [expired_after] at checked
            refine ⟨some after, ?_, afterKnows⟩
            simp only [Recorded.step, serve, ThrottleUse.key, since_check]
            exact account.checked checked
        | clear key =>
            refine ⟨none, ?_, clear_knows⟩
            simp only [Recorded.step, serve, ThrottleUse.key, since_clear]
            exact .fresh
      · have foreign : ((timed.after uses).throttle.serve use).2.key ≠ key := by rwa [key_serve]
        refine ⟨known, ?_, knows.served_of_ne own⟩
        rw [since_of_ne own, Recorded.step, since_of_ne foreign]
        exact account

end Runs

namespace Account

variable {times : List τ} {answers : List (Option Nat)} {known : Option (τ × Nat)}

theorem nil_of_unknown (account : Account expired times answers none) :
    times = [] ∧ answers = [] := by
  cases account
  exact ⟨rfl, rfl⟩

theorem last_mem {last : τ} {count : Nat}
    (account : Account expired times answers (some (last, count))) : last ∈ times := by
  generalize state : some (last, count) = known at account
  induction account generalizing last count with
  | fresh => cases state
  | checked account checked ih =>
      cases state
      cases checked with
      | first | written => exact List.mem_concat_self
      | heldBack => exact List.mem_append_left _ (ih rfl)

theorem balanced (account : Account expired times answers known) :
    Balanced times.length answers ((known.map Prod.snd).getD 0) := by
  induction account with
  | fresh => exact ⟨rfl, rfl, nofun⟩
  | checked account checked ih =>
      rw [List.length_append, List.length_singleton]
      cases checked with
      | first =>
          obtain ⟨rfl, rfl⟩ := account.nil_of_unknown
          exact ⟨rfl, rfl, fun _ => rfl⟩
      | @written last now count due =>
          have moves : count + 1 = [count].length + [count].sum + 0 := by simp; omega
          exact ih.concat (List.length_pos_of_mem account.last_mem) moves
      | @heldBack last now count early =>
          have moves : count + 1 = 0 + 0 + (count + 1) := by omega
          exact ih.concat (List.length_pos_of_mem account.last_mem) moves

/-- Where every interval is over at once, nothing is ever held back. -/
theorem answers_of_always (always : ∀ last now, expired last now = true)
    (account : Account expired times answers known) :
    answers = List.replicate times.length (some 0) ∧ (known.map Prod.snd).getD 0 = 0 := by
  induction account with
  | fresh => exact ⟨rfl, rfl⟩
  | @checked times answers _ _ answer after account checked ih =>
      obtain ⟨same, none⟩ := ih
      have next : answer = some 0 ∧ after.2 = 0 := by
        cases checked with
        | first => exact ⟨rfl, rfl⟩
        | written => exact ⟨congrArg some none, rfl⟩
        | heldBack early => cases (always _ _).symm.trans early
      rw [same, next.1, List.length_append, List.length_singleton, List.replicate_succ']
      exact ⟨rfl, next.2⟩

/-- Where no interval is over between two checks, only the first of them is written. -/
theorem answers_of_running (account : Account expired times answers known)
    (running : times.Pairwise fun earlier later => expired earlier later = false) :
    answers = (List.replicate times.length none).set 0 (some 0) := by
  induction account with
  | fresh => rfl
  | @checked times answers _ now answer after account checked ih =>
      obtain ⟨earlier, _, early⟩ := List.pairwise_append.mp running
      cases checked with
      | first =>
          obtain ⟨rfl, rfl⟩ := account.nil_of_unknown
          rfl
      | written due =>
          have running := early _ account.last_mem now List.mem_cons_self
          cases due.symm.trans running
      | heldBack =>
          have some : 0 < times.length := List.length_pos_of_mem account.last_mem
          rw [ih earlier, List.length_append, List.length_singleton, List.replicate_succ',
            List.set_append_left 0 _ (by simpa using some)]

end Account

/-- No occurrence of a message is lost, and messages do not concern each other. However the
comparisons with the interval turn out, the checks of a message since it was last cleared are
accounted for at every point of a run, and the answers to them are what they would be if nothing
else had been checked or cleared. If the interval is zero, each check is told that the message is to
be written; if it does not expire, only the first is. -/
theorem no_occurrence_lost :
    (∀ {τ : Type} (expired : τ → τ → Bool) (uses : List (ThrottleUse τ)) (key : String),
      let start : TimedThrottle τ := { expired := expired }
      let now := start.after uses
      Balanced (since key uses).length (since key now.record) (now.throttle.held key) ∧
        about key now.record = (start.after (about key uses)).record) ∧
    ∀ (interval : Nat) (uses : List (ThrottleUse Nat)) (key : String),
      let checks := (since key uses).length
      let answers := since key ((ofInterval interval).after uses).record
      (interval = 0 → answers = List.replicate checks (some 0)) ∧
      ((since key uses).Pairwise (fun earlier later => later - earlier < interval) →
        answers = (List.replicate checks none).set 0 (some 0)) := by
  refine ⟨?_, ?_⟩
  · intro τ expired uses key start now
    have initially := start_knows expired key
    obtain ⟨known, account, knows⟩ := exists_account initially uses
    obtain ⟨alone, _⟩ := about_record initially uses
    rw [knows.held_eq]
    exact ⟨account.balanced, alone⟩
  · intro interval uses key checks answers
    have initially := start_knows (ofInterval interval).expired key
    obtain ⟨known, account, _⟩ := exists_account initially uses
    refine ⟨?_, ?_⟩
    · rintro rfl
      exact (account.answers_of_always fun last now => by simp [ofInterval]).1
    · intro running
      apply account.answers_of_running
      exact running.imp fun early => by simpa [ofInterval] using early

/-- What was held back when the message was cleared is forgotten. Of the four checks since then the
third comes after the interval and is told of the second. -/
theorem no_occurrence_lost_among_two_messages :
    let uses : List (ThrottleUse Nat) :=
      [.check "overflow" 1, .check "overflow" 2, .clear "overflow", .check "overflow" 3,
        .clear "reset", .check "overflow" 4, .check "reset" 5, .check "overflow" 9,
        .check "overflow" 10]
    let answers (interval : Nat) := since "overflow" ((ofInterval interval).after uses).record
    let now := (ofInterval 5).after uses
    Balanced 4 [some 0, none, some 1, none] (now.throttle.held "overflow") ∧
      now.throttle.held "overflow" = 1 ∧
      about "reset" now.record = [.clear "reset", .check "reset" (some 0)] ∧
      answers 0 = [some 0, some 0, some 0, some 0] ∧
      (since "overflow" uses).Pairwise (fun earlier later => later - earlier < 20) ∧
      answers 20 = [some 0, none, none, none] := by
  intro uses answers now
  obtain ⟨always, timed⟩ := no_occurrence_lost
  obtain ⟨balanced, _⟩ := always (ofInterval 5).expired uses "overflow"
  obtain ⟨_, alone⟩ := always (ofInterval 5).expired uses "reset"
  have running : (since "overflow" uses).Pairwise (fun earlier later => later - earlier < 20) := by
    decide
  exact ⟨balanced, by decide, alone, (timed 0 uses "overflow").1 rfl, running,
    (timed 20 uses "overflow").2 running⟩

end TimedThrottle

end HidPointer
