import HidPointer.Proofs.Run

/-!
# Threads that share a device

A request holds the lock of the device for its whole effect. So threads meet in the order in which
their requests are taken, and each request finds the device as the last one left it, whoever issued
that one. What a request makes due is done outside the lock by the thread that issued it, and
others may come in between at any point.

`Interleaving` is all that several threads can do together; a `Run` is what a single one does.
`History` keeps the order of the requests and nothing else, which suffices for what is true of the
device.
-/

set_option autoImplicit false

namespace HidPointer

variable {ν : Type}

/-- `Interleaving start activities past now threads`: each thread began with one of the activities;
together they have done `past`, and the device is `now`. A thread is the list of its errands. -/
inductive Interleaving (start : Device (Completion ν)) (activities : List (Activity ν)) :
    List (Deed ν) → Device (Completion ν) → List (List (Errand ν)) → Prop where
  | begin : Interleaving start activities [] start (activities.map ([.act ·]))
  | step (front back : List (List (Errand ν))) {past deeds : List (Deed ν)}
      {now later : Device (Completion ν)} {errands remaining : List (Errand ν)} :
      Interleaving start activities past now (front ++ errands :: back) →
      Step now errands deeds later remaining →
      Interleaving start activities (past ++ deeds) later (front ++ remaining :: back)

/-- `History start past now`: the requests among the deeds `past`, in their order, lead from `start`
to `now`. -/
inductive History (start : Device (Completion ν)) :
    List (Deed ν) → Device (Completion ν) → Prop where
  | begin : History start [] start
  | served {past : List (Deed ν)} {now : Device (Completion ν)}
      (request : Request (Completion ν)) :
      History start past now →
      History start (past ++ [.served now request]) (now.serve request).1
  | entered {past : List (Deed ν)} {now : Device (Completion ν)}
      (read : ParkedRead (Completion ν)) (result : ReadResult) :
      History start past now → History start (past ++ [.entered read result]) now
  | published {past : List (Deed ν)} {now : Device (Completion ν)} (event : Event) :
      History start past now → History start (past ++ [.published event]) now
  | noted {past : List (Deed ν)} {now : Device (Completion ν)} (entry : ν) :
      History start past now → History start (past ++ [.noted entry]) now

theorem filterMap_concat {α β : Type} (view : α → Option β) (list : List α) (last : α) :
    (list ++ [last]).filterMap view = list.filterMap view ++ (view last).toList := by
  cases seen : view last <;> simp [seen]

section Steps

variable {start now later : Device (Completion ν)} {past deeds : List (Deed ν)}
  {errands remaining : List (Errand ν)}

theorem Step.history (step : Step now errands deeds later remaining)
    (history : History start past now) : History start (past ++ deeds) later := by
  cases step with
  | leave => simpa using history
  | note => exact history.noted _
  | serve => exact history.served _
  | enter => exact history.entered _ _
  | publish => exact history.published _

theorem Step.discharges (step : Step now errands deeds later remaining) :
    (deeds.flatMap Deed.raised ++ errands.flatMap Errand.owed).Perm
      (deeds.flatMap Deed.discharged ++ remaining.flatMap Errand.owed) := by
  cases step with
  | leave | note | enter | publish => simp [Deed.raised, Deed.discharged, Errand.owed]
  | @serve request next gone errands =>
      have duties : ((now.serve request).2.duties.map Errand.duty).flatMap Errand.owed =
          (now.serve request).2.duties := by
        simp [List.flatMap_map, Errand.owed]
      simp [Deed.raised, Deed.discharged, Errand.owed, duties]

/-- What one thread does leaves what the others owe as it is. -/
theorem Step.discharges_among (step : Step now errands deeds later remaining)
    (front back : List (List (Errand ν)))
    (before : (past.flatMap Deed.raised).Perm
      (past.flatMap Deed.discharged ++
        (front ++ errands :: back).flatten.flatMap Errand.owed)) :
    ((past ++ deeds).flatMap Deed.raised).Perm
      ((past ++ deeds).flatMap Deed.discharged ++
        (front ++ remaining :: back).flatten.flatMap Errand.owed) := by
  have moved := step.discharges
  -- The threads stand in a list, so what one of them owes is counted in place.
  classical
  rw [List.perm_iff_count] at before moved ⊢
  intro duty
  have earlier := before duty
  have change := moved duty
  simp only [List.flatMap_append, List.flatten_append, List.flatten_cons, List.count_append]
    at earlier change ⊢
  omega

end Steps

namespace History

variable {start now : Device (Completion ν)} {past : List (Deed ν)}

/-- What holds of a device and is kept by every request holds at all times: of the device now, and
of the device that took any of the requests. -/
theorem invariant (history : History start past now)
    (property : Device (Completion ν) → Prop) (initially : property start)
    (step : ∀ device request, property device → property (device.serve request).1) :
    property now ∧ ∀ before request, Deed.served before request ∈ past → property before := by
  induction history with
  | begin => exact ⟨initially, by simp⟩
  | entered _ _ _ ih | published _ _ ih | noted _ _ ih => simpa using ih
  | @served past now request _ ih =>
      obtain ⟨current, earlier⟩ := ih
      refine ⟨step now request current, ?_⟩
      intro before other member
      rcases List.mem_append.mp member with old | new
      · exact earlier before other old
      · cases List.mem_singleton.mp new
        exact current

end History

namespace Interleaving

variable {start now : Device (Completion ν)} {activities : List (Activity ν)}
  {past : List (Deed ν)} {threads : List (List (Errand ν))}

theorem history (run : Interleaving start activities past now threads) :
    History start past now := by
  induction run with
  | begin => exact .begin
  | step _ _ _ step ih => exact step.history ih

theorem owed_begin (activities : List (Activity ν)) :
    (activities.map ([Errand.act ·])).flatten.flatMap Errand.owed = [] := by
  induction activities with
  | nil => rfl
  | cons activity activities ih => exact ih

/-- Whatever a request gave rise to has been done once or is still to be done, by whichever
thread. -/
theorem discharges (run : Interleaving start activities past now threads) :
    (past.flatMap Deed.raised).Perm
      (past.flatMap Deed.discharged ++ threads.flatten.flatMap Errand.owed) := by
  induction run with
  | begin => exact .of_eq (owed_begin activities).symm
  | step front back _ step ih => exact step.discharges_among front back ih

end Interleaving

namespace Run

variable {start now : Device (Completion ν)} {activity : Activity ν} {past : List (Deed ν)}
  {errands : List (Errand ν)}

/-- What one thread does is an interleaving without others. -/
theorem interleaving (run : Run start activity past now errands) :
    Interleaving start [activity] past now [errands] := by
  induction run with
  | begin => exact .begin
  | step _ step ih => exact ih.step [] [] step

theorem history (run : Run start activity past now errands) : History start past now :=
  run.interleaving.history

theorem discharges (run : Run start activity past now errands) :
    (past.flatMap Deed.raised).Perm
      (past.flatMap Deed.discharged ++ errands.flatMap Errand.owed) := by
  simpa using run.interleaving.discharges

end Run

end HidPointer
