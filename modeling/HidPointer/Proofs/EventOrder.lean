import HidPointer.Proofs.Events

/-!
# The order in which mode changes are published

A switch publishes its event last, when the reads that it flushed have been told. One of them can
ask for another switch when it is told, whose event is then published before. So the events are in
order exactly if no switch is made while the event of an earlier one is still due.
-/

set_option autoImplicit false

namespace HidPointer

variable {ν : Type}

/-- The switches that have been made known, as they were published. -/
def modeChanges (past : List (Deed ν)) : List Transition :=
  (events past).filterMap Event.transition?

/-- The switches that are still to be made known, as they will be published. -/
def pendingChanges (errands : List (Errand ν)) : List Transition :=
  (announcements (errands.flatMap Errand.owed)).filterMap Event.transition?

/-- The mode changes are published with increasing epochs, and the last one tells what the device
is. -/
structure InOrder (past : List (Deed ν)) (now : Device (Completion ν)) : Prop where
  increasing : (modeChanges past).Pairwise (·.epoch < ·.epoch)
  current : ∀ last, (modeChanges past).getLast? = some last →
    last.target = now.mode ∧ last.epoch = now.active.epoch

/-- No switch is made before all earlier ones have been published. -/
def SwitchesSeparate (past : List (Deed ν)) : Prop :=
  ∀ earlier deed, earlier ++ [deed] <+: past → deed.transition? ≠ none →
    ∀ transition ∈ transitions earlier, transition ∈ modeChanges earlier

theorem SwitchesSeparate.concat_iff {past : List (Deed ν)} {deed : Deed ν} :
    SwitchesSeparate (past ++ [deed]) ↔
      SwitchesSeparate past ∧
        (deed.transition? ≠ none →
          ∀ transition ∈ transitions past, transition ∈ modeChanges past) := by
  constructor
  · intro separate
    exact ⟨fun earlier other before =>
      separate earlier other (before.trans (List.prefix_append past [deed])),
      separate past deed List.prefix_rfl⟩
  · rintro ⟨separate, last⟩ earlier other before
    rcases List.prefix_concat_iff.mp before with same | before
    · obtain ⟨rfl, rfl⟩ := List.concat_inj.mp (by simpa using same)
      exact last
    · exact separate earlier other before

theorem SwitchesSeparate.concat_iff_of_unswitched {past : List (Deed ν)} {deed : Deed ν}
    (unswitched : deed.transition? = none) :
    SwitchesSeparate (past ++ [deed]) ↔ SwitchesSeparate past := by
  simp [SwitchesSeparate.concat_iff, unswitched]

theorem modeChanges_concat (past : List (Deed ν)) (deed : Deed ν) :
    modeChanges (past ++ [deed]) =
      modeChanges past ++ (deed.event?.bind Event.transition?).toList := by
  rw [modeChanges, events, List.filterMap_filterMap, filterMap_concat, ← List.filterMap_filterMap]
  rfl

/-- The switch `next` follows those that have been made. Its event can go in front of the pending
ones only if there are none. -/
private theorem increasing_insert_iff {made published pending : List Transition} {next : Transition}
    (changes : (published ++ pending).Perm made)
    (increasing : (made ++ [next]).Pairwise (·.epoch < ·.epoch)) :
    (published ++ next :: pending).Pairwise (·.epoch < ·.epoch) ↔
      (published ++ pending).Pairwise (·.epoch < ·.epoch) ∧
        ∀ transition ∈ made, transition ∈ published := by
  have latest : ∀ transition ∈ published ++ pending, transition.epoch < next.epoch := by
    intro transition member
    exact (List.pairwise_append.mp increasing).2.2 transition (changes.subset member) next (by simp)
  constructor
  · intro inOrder
    have nonePending : pending = [] := by
      rw [List.eq_nil_iff_forall_not_mem]
      intro earlier member
      have later := (List.pairwise_cons.mp (List.pairwise_append.mp inOrder).2.1).1 earlier member
      exact Nat.lt_asymm later (latest earlier (List.mem_append_right _ member))
    subst nonePending
    rw [List.append_nil] at changes ⊢
    exact ⟨(List.pairwise_append.mp inOrder).1, fun _ member => changes.symm.subset member⟩
  · rintro ⟨inOrder, known⟩
    have nonePending : pending = [] := by
      rw [List.eq_nil_iff_forall_not_mem]
      intro transition member
      have already := known transition (changes.subset (List.mem_append_right _ member))
      have before := (List.pairwise_append.mp inOrder).2.2 transition already transition member
      exact Nat.lt_irrefl _ before
    subst nonePending
    refine List.pairwise_append.mpr ⟨by simpa using inOrder, List.pairwise_singleton .., ?_⟩
    intro transition member last isLast
    cases List.mem_singleton.mp isLast
    exact latest transition (List.mem_append_left _ member)

namespace History

variable {start now : Device (Completion ν)} {past : List (Deed ν)}

theorem transitions_increasing (history : History start past now) :
    (transitions past).Pairwise (·.epoch < ·.epoch) := by
  rw [← List.pairwise_map (f := Transition.epoch) (R := (· < ·)), history.transition_epochs]
  exact List.pairwise_lt_range'

theorem last_transition (history : History start past now) :
    ∀ last, (transitions past).getLast? = some last →
      last.target = now.mode ∧ last.epoch = now.active.epoch := by
  refine history.transitions_invariant
    (fun earlier active => ∀ last, earlier.getLast? = some last →
      last.target = active.mode ∧ last.epoch = active.epoch) nofun ?_
  intro earlier before after _ _ last isLast
  rw [List.getLast?_concat] at isLast
  cases isLast
  exact ⟨rfl, rfl⟩

end History

namespace Run

variable {start now : Device (Completion ν)} {activity : Activity ν} {past : List (Deed ν)}
  {errands : List (Errand ν)}

theorem changes_perm (run : Run start activity past now errands) :
    (modeChanges past ++ pendingChanges errands).Perm (transitions past) := by
  rw [modeChanges, pendingChanges, ← List.filterMap_append, ← run.history.announced.switches]
  have announced := run.interleaving.announcements_perm
  rw [List.flatten_singleton] at announced
  exact (announced.filterMap _).symm

/-- What is published, and what is then still due, is in order exactly if the switches were
separate. -/
theorem separate_iff (run : Run start activity past now errands) :
    SwitchesSeparate past ↔
      (modeChanges past ++ pendingChanges errands).Pairwise (·.epoch < ·.epoch) := by
  induction run using byStep with
  | begin => simp [SwitchesSeparate, modeChanges, pendingChanges, events, Errand.owed]
  | leave _ ih => exact ih
  | note _ ih | enter _ ih =>
      rw [SwitchesSeparate.concat_iff_of_unswitched rfl, modeChanges_concat, ih]
      simp [Deed.event?, pendingChanges, Errand.owed]
  | @publish past now event errands _ ih =>
      have published : pendingChanges (.duty (.publish event) :: errands) =
          event.transition?.toList ++ pendingChanges errands := by
        cases transition : event.transition? <;> simp [pendingChanges, Errand.owed, transition]
      rw [SwitchesSeparate.concat_iff_of_unswitched rfl, modeChanges_concat, ih, published,
        List.append_assoc]
      rfl
  | @serve past now request next gone errands run ih =>
      -- What the request makes due comes before all that was due.
      have pending : pendingChanges ((now.serve request).2.duties.map .duty ++
          .act (next (now.serve request).2.reply) :: errands) =
            (request.transition? (now.serve request).2.reply).toList ++ pendingChanges errands := by
        rw [← (now.serve_effect request).announced.switches]
        simp [pendingChanges, Errand.owed, List.flatMap_map]
      have changes := run.changes_perm
      have increasing := run.serve.history.transitions_increasing
      rw [pending, modeChanges_concat]
      rw [transitions_concat] at increasing
      cases switched : Deed.transition? (.served now request) with
      | none =>
          rw [SwitchesSeparate.concat_iff_of_unswitched switched, ih]
          rw [Deed.transition?] at switched
          simp [switched, Deed.event?, pendingChanges, Errand.owed]
      | some transition =>
          rw [switched] at increasing
          rw [SwitchesSeparate.concat_iff, switched, ih]
          rw [Deed.transition?] at switched
          simpa [switched, Deed.event?, pendingChanges, Errand.owed] using
            (increasing_insert_iff changes increasing).symm

/-- When the outermost request has returned, the mode changes have been published in order exactly
if the switches were separate. -/
theorem announced_in_order_iff (run : Run start activity past now errands)
    (quiet : Quiet errands) : InOrder past now ↔ SwitchesSeparate past := by
  have changes := run.changes_perm
  have separate := run.separate_iff
  rw [pendingChanges, quiet] at changes separate
  simp only [announcements_nil, List.filterMap_nil, List.append_nil] at changes separate
  rw [separate]
  refine ⟨InOrder.increasing, fun increasing => ⟨increasing, ?_⟩⟩
  have same : modeChanges past = transitions past :=
    changes.eq_of_pairwise (fun _ _ _ _ before after => absurd before (Nat.lt_asymm after))
      increasing run.history.transitions_increasing
  rw [same]
  exact run.history.last_transition

/-- Two switches, one after the other, of which the first ends a parked read. -/
theorem announced_in_order_iff_in_turn :
    let device : Device (Completion Unit) :=
      .create DeviceConfig.default.attributes .mouse .default
    let switcher : Activity Unit :=
      .issue (.read 3 fun _ => .note () .done) (fun _ =>
        .issue (.setMode 1) (fun _ =>
          .issue (.setMode 2) (fun _ => .done) .done) .done) .done
    ∃ past now, Run device switcher past now [] ∧ (modeChanges past).map (·.epoch) = [1, 2] ∧
      (InOrder past now ↔ SwitchesSeparate past) := by
  intro device switcher
  have start : Run device switcher [] device [.act switcher] := .begin
  have first := start.serve.serve.enter.note.leave.publish
  have run := first.serve.publish.leave
  exact ⟨_, _, run, rfl, run.announced_in_order_iff rfl⟩

/-- The flushed read asks for another switch when it is told. What is published last is then the
switch that is over. -/
theorem announced_out_of_order :
    let device : Device (Completion Unit) :=
      .create DeviceConfig.default.attributes .mouse .default
    let switcher : Activity Unit :=
      .issue (.read 3 fun _ => .issue (.setMode 2) (fun _ => .done) .done) (fun _ =>
        .issue (.setMode 1) (fun _ => .done) .done) .done
    ∃ past now, Run device switcher past now [] ∧ now.mode = .multiTouch ∧
      now.active.epoch = 2 ∧
      modeChanges past = [⟨.singleTouch, .multiTouch, 2⟩, ⟨.mouse, .singleTouch, 1⟩] ∧
      ¬ InOrder past now := by
  intro device switcher
  have start : Run device switcher [] device [.act switcher] := .begin
  have run := start.serve.serve.enter.serve.publish.leave.publish.leave
  refine ⟨_, _, run, rfl, rfl, rfl, ?_⟩
  intro inOrder
  have stale := (inOrder.current _ rfl).2
  cases stale

end Run

end HidPointer
