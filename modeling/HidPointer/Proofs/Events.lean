import Mathlib.Algebra.GroupWithZero.Nat
import HidPointer.Proofs.Invariant
import HidPointer.Proofs.Reads

/-!
# Events account for what is thrown away

A device publishes an event for each mode switch, for each report that it drops and for each read
that is canceled, outside the lock and after the counters have changed. In between others come in,
and a completion can ask for more of the same. But an event that a request gives rise to is
published once, so when nothing is due the events and the counters tell the same.
-/

set_option autoImplicit false

namespace HidPointer

namespace Event

def transition? : Event → Option Transition
  | modeChanged transition _ _ => some transition
  | _ => none

def flushedReads : Event → Nat
  | modeChanged _ reads _ => reads
  | _ => 0

def drops (reason : DropReason) : Event → Bool
  | reportDropped _ given => given = reason
  | _ => false

def canceled? : Event → Option Nat
  | readCanceled id => some id
  | _ => none

end Event

/-- The events that are to be published by the given duties. -/
def announcements {κ : Type} (duties : List (Duty κ)) : List Event :=
  duties.filterMap fun
    | .publish event => some event
    | .complete _ _ => none

/-- The reads among those that ended which were canceled, by their numbers. -/
def cancellations {κ : Type} (ended : List (ParkedRead κ × ReadResult)) : List Nat :=
  ended.filterMap fun
    | (read, .error .canceled) => some read.id
    | _ => none

section Announcements

variable {κ : Type}

@[simp] theorem announcements_nil : announcements ([] : List (Duty κ)) = [] := rfl

@[simp] theorem announcements_complete (read : ParkedRead κ) (result : ReadResult)
    (duties : List (Duty κ)) :
    announcements (.complete read result :: duties) = announcements duties := rfl

@[simp] theorem announcements_publish (event : Event) (duties : List (Duty κ)) :
    announcements (.publish event :: duties) = event :: announcements duties := rfl

@[simp] theorem announcements_append (first second : List (Duty κ)) :
    announcements (first ++ second) = announcements first ++ announcements second :=
  List.filterMap_append

@[simp] theorem announcements_flush (reads : List (ParkedRead κ)) (result : ReadResult) :
    announcements (reads.map (.complete · result)) = [] := by
  induction reads with
  | nil => rfl
  | cons read reads ih => simp [ih]

theorem cancellations_append (first second : List (ParkedRead κ × ReadResult)) :
    cancellations (first ++ second) = cancellations first ++ cancellations second :=
  List.filterMap_append

theorem cancellations_flush (reads : List (ParkedRead κ)) :
    cancellations (reads.map (·, .error .reconfigured)) = [] := by
  simp [cancellations]

theorem cancellations_of_canceled (reads : List (ParkedRead κ)) :
    cancellations (reads.map (·, .error .canceled)) = reads.map (·.id) := by
  induction reads with
  | nil => rfl
  | cons read reads ih => exact congrArg (read.id :: ·) ih

end Announcements

/-- The counters went from `before` to `after`, with the answers that made the given transitions,
while the given events were announced and the given reads ended. -/
structure Announced {κ : Type} (before after : Counters) (switches : List Transition)
    (events : List Event) (ended : List (ParkedRead κ × ReadResult)) : Prop where
  switches : events.filterMap Event.transition? = switches
  reconfigured : after.reconfigured = before.reconfigured + (events.map Event.flushedReads).sum
  overflowDrops :
    after.overflowDrops = before.overflowDrops + events.countP (Event.drops .overflow)
  tooSmallDrops :
    after.tooSmallDrops = before.tooSmallDrops + events.countP (Event.drops .bufferTooSmall)
  canceled : after.canceled = before.canceled + (events.filterMap Event.canceled?).length
  cancellations : events.filterMap Event.canceled? = cancellations ended

namespace Announced

variable {κ : Type}

theorem none (counters : Counters) :
    Announced counters counters [] [] ([] : List (ParkedRead κ × ReadResult)) :=
  ⟨rfl, rfl, rfl, rfl, rfl, rfl⟩

theorem trans {first second third : Counters} {switches nextSwitches : List Transition}
    {events nextEvents : List Event} {ended nextEnded : List (ParkedRead κ × ReadResult)}
    (before : Announced first second switches events ended)
    (after : Announced second third nextSwitches nextEvents nextEnded) :
    Announced first third (switches ++ nextSwitches) (events ++ nextEvents)
      (ended ++ nextEnded) := by
  refine ⟨?_, ?_, ?_, ?_, ?_, ?_⟩
  · rw [List.filterMap_append, before.switches, after.switches]
  · rw [after.reconfigured, before.reconfigured, List.map_append, List.sum_append, Nat.add_assoc]
  · rw [after.overflowDrops, before.overflowDrops, List.countP_append, Nat.add_assoc]
  · rw [after.tooSmallDrops, before.tooSmallDrops, List.countP_append, Nat.add_assoc]
  · rw [after.canceled, before.canceled, List.filterMap_append, List.length_append, Nat.add_assoc]
  · rw [List.filterMap_append, before.cancellations, after.cancellations, cancellations_append]

end Announced

namespace Device.Effect

variable {κ : Type} {device after : Device κ} {request : Request κ} {served : Served κ}

/-- What a request changes in the counters is announced by the events that it gives rise to. -/
theorem announced (effect : Effect device request after served) :
    Announced device.queue.counters after.queue.counters
      (request.transition? served.reply).toList (announcements served.duties)
      (resolutions served.duties) := by
  cases effect with
  | told tells => cases tells <;> exact .none _
  | noSuchMode | unknownTag | noRoom | parked | notParked => exact .none _
  | unencodable | ready | canceled => exact ⟨rfl, rfl, rfl, rfl, rfl, rfl⟩
  | switched =>
      simp only [announcements_append, announcements_flush, List.nil_append, resolutions_append,
        resolutions_flush, resolutions_publish, resolutions_nil, List.append_nil]
      exact ⟨rfl, rfl, rfl, rfl, rfl, (cancellations_flush _).symm⟩
  | invalid submits =>
      rw [submits.transition_eq_none]
      exact ⟨rfl, rfl, rfl, rfl, rfl, rfl⟩
  | delivered accepts | tooSmall accepts | buffered accepts | displaced accepts
  | dropped accepts =>
      rw [accepts.submits.transition_eq_none]
      exact ⟨rfl, rfl, rfl, rfl, rfl, rfl⟩

end Device.Effect

/-- Switch by switch, the transitions lead from one mode to another. -/
def Leads : Mode → List Transition → Mode → Prop
  | source, [], target => source = target
  | source, transition :: later, target =>
      transition.source = source ∧ Leads transition.target later target

theorem Leads.concat {source middle : Mode} {earlier : List Transition}
    (leads : Leads source earlier middle) {last : Transition} (joined : last.source = middle) :
    Leads source (earlier ++ [last]) last.target := by
  induction earlier generalizing source with
  | nil => exact ⟨joined.trans leads.symm, rfl⟩
  | cons first earlier ih => exact ⟨leads.1, ih leads.2⟩

section Interleavings

variable {ν : Type}

def Deed.event? : Deed ν → Option Event
  | published event => some event
  | _ => none

def events (past : List (Deed ν)) : List Event :=
  past.filterMap Deed.event?

theorem events_append (past later : List (Deed ν)) :
    events (past ++ later) = events past ++ events later :=
  List.filterMap_append

theorem announcements_discharged (past : List (Deed ν)) :
    announcements (past.flatMap Deed.discharged) = events past := by
  induction past with
  | nil => rfl
  | cons deed past ih =>
      cases deed with
      | published event => exact congrArg (event :: ·) ih
      | served | entered | noted => exact ih

namespace History

variable {start now : Device (Completion ν)} {past : List (Deed ν)}

theorem announced (history : History start past now) :
    Announced start.queue.counters now.queue.counters (transitions past)
      (announcements (past.flatMap Deed.raised)) (resolutions (past.flatMap Deed.raised)) := by
  induction history with
  | begin => exact .none _
  | entered _ _ _ ih | published _ _ ih | noted _ _ ih =>
      simpa [transitions_concat, Deed.transition?, Deed.raised] using ih
  | @served past now request _ ih =>
      have step := ih.trans (now.serve_effect request).announced
      simpa [transitions_concat, Deed.transition?, Deed.raised] using step

theorem transitions_lead (history : History start past now) :
    Leads start.mode (transitions past) now.mode := by
  refine history.transitions_invariant
    (fun earlier active => Leads start.mode earlier active.mode) rfl ?_
  intro earlier before after leads _
  exact leads.concat rfl

theorem transition_epochs (history : History start past now) :
    (transitions past).map (·.epoch) =
      List.range' (start.active.epoch + 1) (transitions past).length := by
  have counted := history.transitions_invariant
    (fun earlier active => active.epoch = start.active.epoch + earlier.length ∧
      earlier.map (·.epoch) = List.range' (start.active.epoch + 1) earlier.length)
    ⟨rfl, rfl⟩
  refine (counted ?_).2
  intro earlier before after ih next
  obtain ⟨epoch, epochs⟩ := ih
  rw [List.length_append, List.length_singleton, ← List.range'_append_1, List.map_append, epochs,
    next, epoch]
  exact ⟨rfl, by simp [Nat.add_right_comm]⟩

end History

/-- Nothing that a request made due is left to be done. So it is with every thread whose outermost
request has returned: what it does next is all that remains. -/
def Quiet (errands : List (Errand ν)) : Prop :=
  errands.flatMap Errand.owed = []

namespace Interleaving

variable {start now : Device (Completion ν)} {activities : List (Activity ν)}
  {past : List (Deed ν)} {threads : List (List (Errand ν))}

/-- What was announced in the critical sections has been published or is due. -/
theorem announcements_perm (run : Interleaving start activities past now threads) :
    (announcements (past.flatMap Deed.raised)).Perm
      (events past ++ announcements (threads.flatten.flatMap Errand.owed)) := by
  rw [← announcements_discharged, ← announcements_append]
  exact run.discharges.filterMap _

theorem events_perm (run : Interleaving start activities past now threads)
    (quiet : Quiet threads.flatten) :
    (announcements (past.flatMap Deed.raised)).Perm (events past) := by
  have published := run.announcements_perm
  rw [quiet] at published
  simpa using published

theorem entered_perm (run : Interleaving start activities past now threads)
    (quiet : Quiet threads.flatten) :
    (resolutions (past.flatMap Deed.raised)).Perm (entered past) := by
  have ended := run.resolutions_perm
  rw [due, quiet] at ended
  simpa using ended

end Interleaving

theorem events_removal (device : Device (Completion ν)) :
    events device.removal = device.queue.parked.map (.readCanceled ·.id) := by
  rw [← announcements_discharged, device.discharged_removal]
  unfold Device.retire ReportQueue.drain
  induction device.queue.parked with
  | nil => rfl
  | cons read reads ih => exact congrArg (.readCanceled read.id :: ·) ih

/-- An event was published for each read whose completion was told of its cancellation, and for no
other, and the counter counts them. -/
structure CancellationsPublished (past : List (Deed ν)) (counters : Counters) : Prop where
  ids : ((events past).filterMap Event.canceled?).Perm (cancellations (entered past))
  counted : ((events past).filterMap Event.canceled?).length = counters.canceled

/-- How the published events account for what was thrown away by a device that started in the given
mode: `past` has been done, and the device is `now`. -/
structure EventsAccount (initialMode : Mode) (past : List (Deed ν))
    (now : Device (Completion ν)) : Prop where
  switches : ((events past).filterMap Event.transition?).Perm (transitions past)
  epochs : (transitions past).map (·.epoch) = List.range' 1 now.active.epoch
  lead : Leads initialMode (transitions past) now.mode
  flushedReads : ((events past).map Event.flushedReads).sum = now.queue.counters.reconfigured
  overflowDrops :
    (events past).countP (Event.drops .overflow) = now.queue.counters.overflowDrops
  tooSmallDrops :
    (events past).countP (Event.drops .bufferTooSmall) = now.queue.counters.tooSmallDrops
  canceled : CancellationsPublished past now.queue.counters
  removed : CancellationsPublished (past ++ now.removal) now.retire.1.queue.counters
  /-- The end of the device adds the reads that are parked, in the order of their registration. -/
  drained : (events (past ++ now.removal)).filterMap Event.canceled? =
    (events past).filterMap Event.canceled? ++ now.queue.parked.map (·.id)
  registered : (now.queue.parked.map (·.id)).Pairwise (· < ·)

/-- Whenever nothing is due, the events that were published and the counters tell the same. -/
theorem Interleaving.events_account {attributes : Attributes} {initialMode : Mode}
    {policies : Policies} {activities : List (Activity ν)} {past : List (Deed ν)}
    {now : Device (Completion ν)} {threads : List (List (Errand ν))}
    (run : Interleaving (.create attributes initialMode policies) activities past now threads)
    (quiet : Quiet threads.flatten) : EventsAccount initialMode past now := by
  have history := run.history
  have published := run.events_perm quiet
  obtain ⟨switches, reconfigured, overflowDrops, tooSmallDrops, canceled, ids⟩ := history.announced
  have account : CancellationsPublished past now.queue.counters := by
    refine ⟨?_, ?_⟩
    · refine (published.symm.filterMap _).trans ?_
      rw [ids]
      exact (run.entered_perm quiet).filterMap _
    · rw [canceled, (published.filterMap _).length_eq]
      exact (Nat.zero_add _).symm
  have drained : (events (past ++ now.removal)).filterMap Event.canceled? =
      (events past).filterMap Event.canceled? ++ now.queue.parked.map (·.id) := by
    rw [events_append, events_removal, List.filterMap_append, List.filterMap_map]
    exact congrArg (_ ++ ·) (congrFun List.filterMap_eq_map' _)
  refine ⟨?_, ?_, history.transitions_lead, ?_, ?_, ?_, account, ⟨?_, ?_⟩, drained, ?_⟩
  · rw [← switches]
    exact (published.filterMap _).symm
  · have numbers := history.transition_epochs
    have count := history.epoch
    simp only [Device.create, ActiveMode.initial, Nat.zero_add] at numbers count
    rw [numbers, count]
  · rw [reconfigured, ← (published.map _).sum_nat]
    exact (Nat.zero_add _).symm
  · rw [overflowDrops, published.countP_eq]
    exact (Nat.zero_add _).symm
  · rw [tooSmallDrops, published.countP_eq]
    exact (Nat.zero_add _).symm
  · rw [drained, entered_append, entered_removal, cancellations_append,
      cancellations_of_canceled]
    exact account.ids.append_right _
  · rw [drained, List.length_append, account.counted, List.length_map]
    rfl
  · rw [List.pairwise_map]
    exact (history.coherent (Device.coherent_create ..)).1.ordered

/-- A switch whose flushed read makes another switch when it is told, a read that is withdrawn and
one that is left parked. -/
theorem Interleaving.events_account_nested_switch :
    let device : Device (Completion Unit) :=
      .create DeviceConfig.default.attributes .mouse .default
    let reader : Activity Unit :=
      .issue (.read 3 fun _ => .issue (.setMode 2) (fun _ => .done) .done) (fun _ =>
        .issue (.setMode 1) (fun _ =>
          .issue (.read 31 fun _ => .done) (fun _ =>
            .issue (.cancel 2) (fun _ =>
              .issue (.read 31 fun _ => .done) (fun _ => .done) .done) .done) .done) .done) .done
    ∃ past now threads, Interleaving device [reader] past now threads ∧ Quiet threads.flatten ∧
      (events past).length = 3 ∧ now.queue.parked.length = 1 ∧ EventsAccount .mouse past now := by
  intro device reader
  have start : Run device reader [] device [.act reader] := .begin
  have switched := start.serve.serve.enter.serve.publish.leave.publish
  have canceled := switched.serve.serve.enter.leave.publish
  have run := canceled.serve.interleaving
  exact ⟨_, _, _, run, rfl, rfl, rfl, Interleaving.events_account run rfl⟩

end Interleavings

end HidPointer
