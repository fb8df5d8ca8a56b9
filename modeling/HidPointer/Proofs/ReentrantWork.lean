import HidPointer.Proofs.Flattening
import HidPointer.Proofs.Reads
import Mathlib.Data.ENat.Lattice
import Mathlib.Order.CompletePartialOrder
import Mathlib.Tactic.Ring

/-!
# The work inside a request

A completion may ask the device for more, and so may the completions of the reads it issues. All
that a request leads to is done before it returns. It comes to an end, and how many completions are
entered is bounded beforehand: by the reads that are parked, those that their completions can issue,
and those that the request brings along.

A mode switch enters the completions of the reads it flushed one after the other. They find the
queue without these reads, and what they park themselves is not flushed with them.
-/

set_option autoImplicit false

namespace HidPointer

variable {ν : Type}

mutual

/-- The most reads that an activity can issue, whatever it is answered; those that the completions
of its reads can issue are counted with them. -/
noncomputable def Activity.reads : Activity ν → ℕ∞
  | .done => 0
  | .note _ next => next.reads
  | .issue request next _ => Request.reads request + ⨆ reply, (next reply).reads

noncomputable def Request.reads : Request (ReadResult → Activity ν) → ℕ∞
  | .read _ completion => 1 + ⨆ result, (completion result).reads
  | _ => 0

end

/-- The most reads that a completion can issue, whatever its read ends with. -/
noncomputable def Completion.reads (completion : Completion ν) : ℕ∞ :=
  ⨆ result, (completion result).reads

/-- The most completions that can be entered on account of the reads. -/
noncomputable def completable (reads : List (ParkedRead (Completion ν))) : ℕ∞ :=
  (reads.map fun read => 1 + read.completion.reads).sum

noncomputable def Errand.reads : Errand ν → ℕ∞
  | .act activity => activity.reads
  | .duty (.complete read _) => 1 + read.completion.reads
  | .duty (.publish _) => 0

section Completable

theorem completable_append (first second : List (ParkedRead (Completion ν))) :
    completable (first ++ second) = completable first + completable second := by
  simp only [completable, List.map_append, List.sum_append]

theorem completable_perm {first second : List (ParkedRead (Completion ν))}
    (same : first.Perm second) : completable first = completable second :=
  (same.map _).sum_eq

theorem completable_eq (reads : List (ParkedRead (Completion ν))) :
    completable reads = reads.length + (reads.map (·.completion.reads)).sum := by
  induction reads with
  | nil => rfl
  | cons read reads ih =>
      simp only [completable, List.map_cons, List.sum_cons, List.length_cons] at ih ⊢
      rw [ih]
      push_cast
      ring

theorem reads_le_completion (completion : Completion ν) (result : ReadResult) :
    (completion result).reads ≤ completion.reads :=
  le_iSup (fun result => (completion result).reads) result

theorem sum_reads_duties (duties : List (Duty (Completion ν))) :
    ((duties.map Errand.duty).map Errand.reads).sum =
      completable ((resolutions duties).map Prod.fst) := by
  induction duties with
  | nil => rfl
  | cons duty duties ih =>
      cases duty with
      | complete read result =>
          simp only [completable, List.map_cons, List.sum_cons, Errand.reads,
            resolutions_complete] at ih ⊢
          rw [ih]
      | publish event =>
          simp only [List.map_cons, List.sum_cons, Errand.reads, resolutions_publish, zero_add, ih]

/-- A request parks its own read, if any. -/
theorem completable_parks (request : Request (Completion ν)) (reply : Reply) :
    completable (request.parks reply) ≤ Request.reads request := by
  unfold Request.parks
  split
  · simp [completable, Request.reads, Completion.reads]
  · exact zero_le

end Completable

/-- What one thread does next is paid for by what it could still issue. -/
theorem Step.completable_le {device later : Device (Completion ν)}
    {errands remaining : List (Errand ν)} {done : List (Deed ν)}
    (step : Step device errands done later remaining) :
    (entered done).length + (completable later.queue.parked + (remaining.map Errand.reads).sum) ≤
      completable device.queue.parked + (errands.map Errand.reads).sum := by
  cases step with
  | leave | note | publish => simp [entered, Deed.discharged, Errand.reads, Activity.reads]
  | @enter read result errands =>
      have issued := reads_le_completion read.completion result
      have one : ((entered [Deed.entered read result]).length : ℕ∞) = 1 := rfl
      simp only [List.map_cons, List.sum_cons, Errand.reads]
      calc _ = completable device.queue.parked +
            (1 + (read.completion result).reads + (errands.map Errand.reads).sum) := by
              rw [one]
              ring
        _ ≤ _ := by gcongr
  | @serve request next gone errands =>
      have conserved := (device.serve_effect request).reads_conserved
      have same := completable_perm conserved
      rw [completable_append, completable_append] at same
      have own := completable_parks request (device.serve request).2.reply
      have answered : (next (device.serve request).2.reply).reads ≤ ⨆ reply, (next reply).reads :=
        le_iSup (fun reply => (next reply).reads) _
      have none : ((entered [Deed.served device request]).length : ℕ∞) = 0 := rfl
      simp only [List.map_append, List.sum_append, List.map_cons, List.sum_cons, Errand.reads,
        sum_reads_duties, none, Activity.reads]
      calc _ = completable (device.serve request).1.queue.parked +
              completable ((resolutions (device.serve request).2.duties).map Prod.fst) +
              ((next (device.serve request).2.reply).reads + (errands.map Errand.reads).sum) := by
              ring
        _ = completable device.queue.parked +
              completable (request.parks (device.serve request).2.reply) +
              ((next (device.serve request).2.reply).reads + (errands.map Errand.reads).sum) := by
              rw [same]
        _ ≤ completable device.queue.parked + Request.reads request +
              ((⨆ reply, (next reply).reads) + (errands.map Errand.reads).sum) := by
              gcongr
        _ = _ := by ring

/-- However many threads there are, they enter no more completions than the parked reads and the
activities they began with allow. -/
theorem Interleaving.completable_le {start now : Device (Completion ν)}
    {activities : List (Activity ν)} {past : List (Deed ν)} {threads : List (List (Errand ν))}
    (run : Interleaving start activities past now threads) :
    (entered past).length +
        (completable now.queue.parked + (threads.flatten.map Errand.reads).sum) ≤
      completable start.queue.parked + (activities.map Activity.reads).sum := by
  induction run with
  | begin =>
      have each : ((activities.map ([Errand.act ·])).flatten.map Errand.reads) =
          activities.map Activity.reads := by
        induction activities with
        | nil => rfl
        | cons activity activities ih => exact congrArg (_ :: ·) ih
      simp [each, entered]
  | @step front back past deeds now later errands remaining run step ih =>
      have paid := step.completable_le
      simp only [List.flatten_append, List.flatten_cons, List.map_append, List.sum_append,
        entered_append, List.length_append, Nat.cast_add] at ih ⊢
      calc _ = (entered past).length + ((front.flatten.map Errand.reads).sum +
              (back.flatten.map Errand.reads).sum) +
              ((entered deeds).length +
                (completable later.queue.parked + (remaining.map Errand.reads).sum)) := by
              ring
        _ ≤ (entered past).length + ((front.flatten.map Errand.reads).sum +
              (back.flatten.map Errand.reads).sum) +
              (completable now.queue.parked + (errands.map Errand.reads).sum) := by
              gcongr
        _ = _ := by ring
        _ ≤ _ := ih

/-- A thread that works alone comes from the earlier state to the later one by its next step. -/
inductive Follows : Device (Completion ν) × List (Errand ν) →
    Device (Completion ν) × List (Errand ν) → Prop where
  | step {device later : Device (Completion ν)} {errands remaining : List (Errand ν)}
      {done : List (Deed ν)} :
      Step device errands done later remaining → Follows (later, remaining) (device, errands)

private theorem acc_of_step {device : Device (Completion ν)} {errands : List (Errand ν)}
    (next : ∀ {done : List (Deed ν)} {later : Device (Completion ν)} {remaining : List (Errand ν)},
      Step device errands done later remaining → Acc Follows (later, remaining)) :
    Acc Follows (device, errands) := by
  refine .intro _ fun later follows => ?_
  cases follows with
  | step step => exact next step

/-- Nobody works forever. -/
theorem follows_wellFounded : WellFounded (Follows (ν := ν)) := by
  refine ⟨fun (device, errands) => ?_⟩
  -- Along the recursion of `perform`: each of its steps is the only one there is.
  induction device, errands using Device.perform.induct with
  | case1 device =>
      refine acc_of_step fun step => ?_
      cases step
  | case2 device errands ih | case3 device entry next errands _ _ _ ih
  | case5 device read result errands _ _ _ ih | case6 device event errands _ _ _ ih =>
      refine acc_of_step fun step => ?_
      cases step
      exact ih
  | case4 device request next gone errands =>
      rename_i ih
      refine acc_of_step fun step => ?_
      cases step
      exact ih

/-- A read that was parked before or in between is parked still, or its completion was entered. -/
theorem Run.accounted {start now : Device (Completion ν)} {activity : Activity ν}
    {past : List (Deed ν)} (run : Run start activity past now []) :
    (start.queue.parked ++ parkings past).Perm
      (now.queue.parked ++ (entered past).map Prod.fst) := by
  simpa [due] using run.reads_perm

theorem resultsIn_moments (done : List (Deed ν)) :
    resultsIn (done.map Deed.moment) = (entered done).map fun ended => (ended.1.id, ended.2) := by
  induction done with
  | nil => rfl
  | cons deed done ih =>
      cases deed with
      | served | published | noted => exact ih
      | entered read result => exact congrArg ((read.id, result) :: ·) ih

/-- What a request leads to, if `done` is all that is done before it returns. -/
structure Returns (device : Device (Completion ν)) (request : Request (Completion ν))
    (done : List (Deed ν)) : Prop where
  run : Run device (.issue request (fun _ => .done) .done) done (device.dispatch request).1 []
  moments : (device.dispatch request).2.2 = done.map Deed.moment
  accounted : (device.queue.parked ++ parkings done).Perm
    ((device.dispatch request).1.queue.parked ++ (entered done).map Prod.fst)
  distinct : ((entered done).map (·.1.id)).Nodup
  bounded : (entered done).length ≤
    device.queue.parked.length + (device.queue.parked.map (·.completion.reads)).sum +
      Request.reads request

theorem Device.Coherent.returns {device : Device (Completion ν)} (coherent : device.Coherent)
    (request : Request (Completion ν)) : ∃ done, Returns device request done := by
  obtain ⟨done, run, moments⟩ := Run.exists_run device (.issue request (fun _ => .done) .done)
  have dispatched := device.dispatch_eq_perform request
  have final := congrArg Prod.fst dispatched
  have accounted := run.accounted
  refine ⟨done, ?_, ?_, ?_, ?_, ?_⟩
  · rw [final]
    exact run
  · exact (congrArg (·.2.2) dispatched).trans moments
  · rw [final]
    exact accounted
  · have nodup := (accounted.map (·.id)).nodup_iff.mp (run.history.ids_nodup coherent)
    rw [List.map_append, List.map_map] at nodup
    exact (List.nodup_append.mp nodup).2.1
  · have paid := run.interleaving.completable_le
    simp only [List.flatten_cons, List.flatten_nil, List.append_nil, List.map_nil, List.sum_nil,
      add_zero, List.map_cons, List.sum_cons, Activity.reads, ENat.iSup_zero,
      completable_eq] at paid
    exact le_trans le_self_add paid

namespace Device

/-- The reads are told, first to last, that the mode was switched. What one of them asks for is done
before the next one is told, and completes no read with a number below the given one. -/
inductive Flushes (bound : Nat) : Device (Completion ν) → List (ParkedRead (Completion ν)) →
    Device (Completion ν) → List (Moment ν) → Prop where
  | nil {device : Device (Completion ν)} : Flushes bound device [] device []
  | cons {device inner final : Device (Completion ν)} {read : ParkedRead (Completion ν)}
      {reads : List (ParkedRead (Completion ν))} {nested moments : List (Moment ν)}
      (told : device.perform [.act (read.completion (.error .reconfigured))] = (inner, nested))
      (later : ∀ ended ∈ resultsIn nested, bound ≤ ended.1)
      (rest : Flushes bound inner reads final moments) :
      Flushes bound device (read :: reads) final
        (.completed read.id (.error .reconfigured) :: (nested ++ moments))

/-- Only the flushed reads are among those that end and have earlier numbers. -/
theorem Flushes.earlier {bound : Nat} {device final : Device (Completion ν)}
    {reads : List (ParkedRead (Completion ν))} {moments : List (Moment ν)}
    (flushes : Flushes bound device reads final moments) (below : ∀ read ∈ reads, read.id < bound) :
    (resultsIn moments).filter (·.1 < bound) = reads.map (·.id, .error .reconfigured) := by
  induction flushes with
  | nil => rfl
  | @cons device inner final read reads nested moments told later rest ih =>
      obtain ⟨first, others⟩ := List.forall_mem_cons.mp below
      have head : resultsIn (.completed read.id (.error .reconfigured) :: (nested ++ moments)) =
          (read.id, .error .reconfigured) :: (resultsIn nested ++ resultsIn moments) :=
        congrArg (_ :: ·) (resultsIn_append nested moments)
      have inside : (resultsIn nested).filter (·.1 < bound) = [] := by
        simpa using later
      rw [head, List.filter_cons_of_pos (by simpa using first), List.filter_append, inside,
        ih others]
      rfl

/-- All its reads, those to come included, have numbers from the given one on. -/
structure NumbersFrom (bound : Nat) (device : Device (Completion ν)) : Prop where
  parked : ∀ read ∈ device.queue.parked, bound ≤ read.id
  next : bound ≤ device.nextId

/-- An activity completes only reads that are parked or that it leads to. -/
theorem NumbersFrom.completes {bound : Nat} {device : Device (Completion ν)}
    (numbers : NumbersFrom bound device) (activity : Activity ν) :
    NumbersFrom bound (device.perform [.act activity]).1 ∧
      ∀ ended ∈ resultsIn (device.perform [.act activity]).2, bound ≤ ended.1 := by
  obtain ⟨done, run, moments⟩ := Run.exists_run device activity
  obtain ⟨issued, next⟩ := run.history.parkings_ids
  have every : ∀ read ∈ device.queue.parked ++ parkings done, bound ≤ read.id := by
    intro read member
    rcases List.mem_append.mp member with before | since
    · exact numbers.parked read before
    · have number := List.mem_map_of_mem (f := (·.id)) since
      rw [issued] at number
      exact Nat.le_trans numbers.next (List.mem_range'_1.mp number).1
  refine ⟨⟨fun read parked => ?_, ?_⟩, fun ended member => ?_⟩
  · exact every read (run.accounted.symm.subset (List.mem_append_left _ parked))
  · rw [next]
    exact Nat.le_add_right_of_le numbers.next
  · rw [moments, resultsIn_moments] at member
    obtain ⟨resolution, isEntered, rfl⟩ := List.mem_map.mp member
    have isRead := List.mem_map_of_mem (f := Prod.fst) isEntered
    exact every _ (run.accounted.symm.subset (List.mem_append_right _ isRead))

theorem NumbersFrom.flushes {bound : Nat} {device : Device (Completion ν)}
    (numbers : NumbersFrom bound device) (reads : List (ParkedRead (Completion ν))) :
    ∃ final moments, Flushes bound device reads final moments ∧
      ∀ rest, device.perform (reads.map (.duty <| .complete · (.error .reconfigured)) ++ rest) =
        ((final.perform rest).1, moments ++ (final.perform rest).2) := by
  induction reads generalizing device with
  | nil => exact ⟨device, [], .nil, fun _ => rfl⟩
  | cons read reads ih =>
      obtain ⟨kept, later⟩ := numbers.completes (read.completion (.error .reconfigured))
      obtain ⟨final, moments, flushes, performs⟩ := ih kept
      refine ⟨final, _, .cons rfl later flushes, fun rest => ?_⟩
      rw [List.map_cons, List.cons_append, perform, ← List.singleton_append, perform_append,
        performs]
      simp only [List.cons_append, List.append_assoc]

/-- A mode switch tells the reads that were parked, each in its turn, and then announces itself. No
read that is parked in between is told. -/
def FlushesOnSwitch (device : Device (Completion ν)) (tag : UInt8) (mode : Mode) : Prop :=
  let transition : Transition := ⟨device.mode, mode, device.active.epoch + 1⟩
  ∃ final moments,
    Flushes device.nextId (device.serve (.setMode tag)).1 device.queue.parked final moments ∧
    device.dispatch (.setMode tag) =
      (final, .ok (.modeSet transition),
        .served (.setMode tag) (.ok (.modeSet transition)) :: (moments ++
          [.published (.modeChanged transition device.queue.parked.length
            device.queue.buffered.length)])) ∧
    (resultsIn moments).filter (·.1 < device.nextId) =
      device.queue.parked.map (·.id, .error .reconfigured)

theorem Coherent.flushesOnSwitch {device : Device (Completion ν)} (coherent : device.Coherent)
    {tag : UInt8} {mode : Mode} (known : Mode.ofTag? tag = some mode) :
    device.FlushesOnSwitch tag mode := by
  unfold FlushesOnSwitch
  intro transition
  have served : device.serve (.setMode tag) = _ := (Effect.switched known).serve_eq
  have numbers : NumbersFrom device.nextId (device.serve (.setMode tag)).1 := by
    rw [served]
    exact ⟨by simp, Nat.le_refl _⟩
  obtain ⟨final, moments, flushes, performs⟩ := numbers.flushes device.queue.parked
  refine ⟨final, moments, flushes, ?_, flushes.earlier coherent.below⟩
  have performed := performs [.duty (.publish (.modeChanged transition device.queue.parked.length
    device.queue.buffered.length))]
  simp only [dispatch]
  rw [served] at performed ⊢
  simp only [List.map_append, List.map_map, List.map_cons, List.map_nil, Function.comp_def]
  rw [performed]
  simp only [perform]
  rfl

/-- The work inside the request comes to an end, and no completion is entered twice or beyond what
can be told beforehand. -/
structure WorkEnds (device : Device (Completion ν)) (request : Request (Completion ν)) : Prop where
  ends : Acc Follows (device, [.act (.issue request (fun _ => .done) .done)])
  returns : ∃ done, Returns device request done
  flushes : ∀ tag mode, request = .setMode tag → Mode.ofTag? tag = some mode →
    device.FlushesOnSwitch tag mode

end Device

/-- Whatever a device has been asked before, the work inside a request is bounded. -/
theorem History.reentrant_work_ends {attributes : Attributes} {initialMode : Mode}
    {policies : Policies} {past : List (Deed ν)} {device : Device (Completion ν)}
    (history : History (Device.create attributes initialMode policies) past device)
    (request : Request (Completion ν)) : device.WorkEnds request := by
  have coherent := (history.coherent (Device.coherent_create ..)).1
  refine ⟨follows_wellFounded.apply _, coherent.returns request, ?_⟩
  rintro tag mode rfl known
  exact coherent.flushesOnSwitch known

/-- The read that is parked issues another when it ends, which the switch does not flush. -/
theorem History.reentrant_work_ends_rearmed :
    let start : Device (Completion Unit) :=
      .create DeviceConfig.default.attributes .mouse .default
    let rearms : Completion Unit := fun _ => .issue (.read 64 inert) (fun _ => .done) .done
    let device := (start.serve (.read 64 rearms)).1
    History start [.served start (.read 64 rearms)] device ∧
      device.queue.parked.map (·.id) = [1] ∧ rearms.reads = 1 ∧ device.WorkEnds (.setMode 1) := by
  intro start rearms device
  have history : History start [.served start (.read 64 rearms)] device := History.begin.served _
  refine ⟨history, rfl, ?_, history.reentrant_work_ends _⟩
  have inner : ∀ result, (rearms result).reads = 1 := by
    intro result
    simp [rearms, Activity.reads, Request.reads, inert]
  simp [Completion.reads, inner]

end HidPointer
