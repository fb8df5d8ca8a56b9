import HidPointer.Device.Run

/-!
# Runs step by step

`Device.perform` tells where a run ends. A `Step` is what is done of it at once, and a `Run` stops
after any number of steps: what has been done, the device at that point, and the errands that
remain, innermost first. `Run.perform_eq` and `exists_run` tie the two together, so what holds of
every `Run` holds all along what is performed.
-/

set_option autoImplicit false

namespace HidPointer

variable {ν : Type}

/-- One thing done in a run. -/
inductive Deed (ν : Type) where
  /-- The device, being as given, took a request. -/
  | served (before : Device (Completion ν)) (request : Request (Completion ν))
  | entered (read : ParkedRead (Completion ν)) (result : ReadResult)
  | published (event : Event)
  | noted (entry : ν)

namespace Deed

def moment : Deed ν → Moment ν
  | served before request => .served (request.map fun _ => ()) (before.serve request).2.reply
  | entered read result => .completed read.id result
  | published event => .published event
  | noted entry => .noted entry

def raised : Deed ν → List (Duty (Completion ν))
  | served before request => (before.serve request).2.duties
  | _ => []

def discharged : Deed ν → List (Duty (Completion ν))
  | entered read result => [.complete read result]
  | published event => [.publish event]
  | _ => []

end Deed

namespace Errand

def owed : Errand ν → List (Duty (Completion ν))
  | act _ => []
  | .duty owed => [owed]

end Errand

/-- The deeds of the end of a device. -/
def Device.removal (device : Device (Completion ν)) : List (Deed ν) :=
  device.retire.2.flatMap fun
    | .complete read result =>
        .entered read result :: (read.completion result).withoutDevice.map .noted
    | .publish event => [.published event]

theorem Device.removal_moments (device : Device (Completion ν)) :
    device.removal.map Deed.moment = device.remove := by
  unfold removal remove
  rw [List.map_flatMap]
  congr 1
  funext duty
  cases duty <;> simp [Deed.moment, Function.comp_def]

theorem Device.discharged_removal (device : Device (Completion ν)) :
    device.removal.flatMap Deed.discharged = device.retire.2 := by
  unfold removal
  induction device.retire.2 with
  | nil => rfl
  | cons duty duties ih =>
      rw [List.flatMap_cons, List.flatMap_append, ih]
      cases duty <;> simp [Deed.discharged]

/-- What is performed first does not depend on what comes later. -/
theorem Device.perform_append (device : Device (Completion ν)) (first second : List (Errand ν)) :
    device.perform (first ++ second) =
      (((device.perform first).1.perform second).1,
        (device.perform first).2 ++ ((device.perform first).1.perform second).2) := by
  induction device, first using Device.perform.induct with
  | case1 device => simp [Device.perform]
  | case2 device errands ih => simp only [List.cons_append, Device.perform, ih]
  | case3 device entry next errands _ _ _ ih =>
      simp only [List.cons_append] at ih
      simp only [List.cons_append, Device.perform, ih]
  | case4 device request next gone errands =>
      rename_i ih
      simp only [List.append_assoc, List.cons_append] at ih
      simp only [List.cons_append, Device.perform]
      have final := congrArg Prod.fst ih
      have moments := congrArg Prod.snd ih
      exact Prod.ext final (congrArg (_ :: ·) moments)
  | case5 device read result errands _ _ _ ih =>
      simp only [List.cons_append] at ih
      simp only [List.cons_append, Device.perform, ih]
  | case6 device event errands _ _ _ ih => simp only [List.cons_append, Device.perform, ih]

/-- Dispatching a request is performing an activity that issues it and nothing else. -/
theorem Device.dispatch_eq_perform (device : Device (Completion ν))
    (request : Request (Completion ν)) :
    device.dispatch request =
      ((device.perform [.act (.issue request (fun _ => .done) .done)]).1,
        (device.serve request).2.reply,
        (device.perform [.act (.issue request (fun _ => .done) .done)]).2) := by
  simp [Device.dispatch, Device.perform, Device.perform_append]

/-- What the owner of the errands does next: the deeds, the device after them, and the errands that
remain. -/
inductive Step (device : Device (Completion ν)) :
    List (Errand ν) → List (Deed ν) → Device (Completion ν) → List (Errand ν) → Prop where
  | leave {errands : List (Errand ν)} : Step device (.act .done :: errands) [] device errands
  | note {entry : ν} {next : Activity ν} {errands : List (Errand ν)} :
      Step device (.act (.note entry next) :: errands) [.noted entry] device
        (.act next :: errands)
  | serve {request : Request (Completion ν)} {next : Reply → Activity ν} {gone : Activity ν}
      {errands : List (Errand ν)} :
      Step device (.act (.issue request next gone) :: errands) [.served device request]
        (device.serve request).1
        ((device.serve request).2.duties.map .duty ++
          .act (next (device.serve request).2.reply) :: errands)
  | enter {read : ParkedRead (Completion ν)} {result : ReadResult} {errands : List (Errand ν)} :
      Step device (.duty (.complete read result) :: errands) [.entered read result] device
        (.act (read.completion result) :: errands)
  | publish {event : Event} {errands : List (Errand ν)} :
      Step device (.duty (.publish event) :: errands) [.published event] device errands

/-- `Run start activity past now errands`: in the run of the activity on the device `start`, after
the deeds `past` the device is `now` and the errands remain. -/
inductive Run (start : Device (Completion ν)) (activity : Activity ν) :
    List (Deed ν) → Device (Completion ν) → List (Errand ν) → Prop where
  | begin : Run start activity [] start [.act activity]
  | step {past deeds : List (Deed ν)} {now later : Device (Completion ν)}
      {errands remaining : List (Errand ν)} :
      Run start activity past now errands →
      Step now errands deeds later remaining →
      Run start activity (past ++ deeds) later remaining

namespace Run

variable {start now : Device (Completion ν)} {activity : Activity ν} {past : List (Deed ν)}
  {errands : List (Errand ν)}

theorem leave (run : Run start activity past now (.act .done :: errands)) :
    Run start activity past now errands := by
  simpa using run.step .leave

theorem note {entry : ν} {next : Activity ν}
    (run : Run start activity past now (.act (.note entry next) :: errands)) :
    Run start activity (past ++ [.noted entry]) now (.act next :: errands) :=
  run.step .note

theorem serve {request : Request (Completion ν)} {next : Reply → Activity ν} {gone : Activity ν}
    (run : Run start activity past now (.act (.issue request next gone) :: errands)) :
    Run start activity (past ++ [.served now request]) (now.serve request).1
      ((now.serve request).2.duties.map .duty ++
        .act (next (now.serve request).2.reply) :: errands) :=
  run.step .serve

theorem enter {read : ParkedRead (Completion ν)} {result : ReadResult}
    (run : Run start activity past now (.duty (.complete read result) :: errands)) :
    Run start activity (past ++ [.entered read result]) now
      (.act (read.completion result) :: errands) :=
  run.step .enter

theorem publish {event : Event}
    (run : Run start activity past now (.duty (.publish event) :: errands)) :
    Run start activity (past ++ [.published event]) now errands :=
  run.step .publish

/-- Induction along a run, with a case for each kind of step. -/
@[elab_as_elim]
theorem byStep
    {motive : ∀ past now errands, Run start activity past now errands → Prop}
    (begin : motive [] start [.act activity] .begin)
    (leave : ∀ {past now errands} (run : Run start activity past now (.act .done :: errands)),
      motive past now (.act .done :: errands) run → motive past now errands run.leave)
    (note : ∀ {past now entry next errands}
      (run : Run start activity past now (.act (.note entry next) :: errands)),
      motive past now (.act (.note entry next) :: errands) run →
        motive (past ++ [.noted entry]) now (.act next :: errands) run.note)
    (serve : ∀ {past now request next gone errands}
      (run : Run start activity past now (.act (.issue request next gone) :: errands)),
      motive past now (.act (.issue request next gone) :: errands) run →
        motive (past ++ [.served now request]) (now.serve request).1
          ((now.serve request).2.duties.map .duty ++
            .act (next (now.serve request).2.reply) :: errands) run.serve)
    (enter : ∀ {past now read result errands}
      (run : Run start activity past now (.duty (.complete read result) :: errands)),
      motive past now (.duty (.complete read result) :: errands) run →
        motive (past ++ [.entered read result]) now (.act (read.completion result) :: errands)
          run.enter)
    (publish : ∀ {past now event errands}
      (run : Run start activity past now (.duty (.publish event) :: errands)),
      motive past now (.duty (.publish event) :: errands) run →
        motive (past ++ [.published event]) now errands run.publish)
    {past : List (Deed ν)} {now : Device (Completion ν)} {errands : List (Errand ν)}
    (run : Run start activity past now errands) : motive past now errands run := by
  induction run with
  | begin => exact begin
  | @step past deeds now later errands remaining run step ih =>
      cases step with
      | leave =>
          -- Nothing is added to the past, but the index is an empty list longer.
          have moved : ∀ other, past = other → ∀ run : Run start activity other now remaining,
              motive other now remaining run := by
            intro other same _
            subst same
            exact leave run ih
          exact moved _ (List.append_nil past).symm _
      | note => exact note run ih
      | serve => exact serve run ih
      | enter => exact enter run ih
      | publish => exact publish run ih

/-- What is performed from the beginning is what has been done and what is performed from here. -/
theorem perform_eq (run : Run start activity past now errands) :
    start.perform [.act activity] =
      ((now.perform errands).1, past.map Deed.moment ++ (now.perform errands).2) := by
  induction run using byStep with
  | begin => rfl
  | leave _ ih =>
      rw [ih]
      simp only [Device.perform]
  | note _ ih | serve _ ih | enter _ ih | publish _ ih =>
      rw [ih]
      simp [Device.perform, Deed.moment]

private theorem finishes (run : Run start activity past now errands) :
    ∃ later, Run start activity (past ++ later) (now.perform errands).1 [] ∧
      (now.perform errands).2 = later.map Deed.moment := by
  -- Along the recursion of `perform`: each of its steps is one step of the run.
  induction now, errands using Device.perform.induct generalizing past with
  | case1 now => exact ⟨[], by simpa [Device.perform] using run, by simp [Device.perform]⟩
  | case2 now errands ih =>
      obtain ⟨later, finished, moments⟩ := ih run.leave
      rw [Device.perform]
      exact ⟨later, finished, moments⟩
  | case3 now entry next errands _ _ _ ih =>
      obtain ⟨later, finished, moments⟩ := ih run.note
      rw [List.append_assoc] at finished
      rw [Device.perform]
      exact ⟨.noted entry :: later, finished, congrArg (_ :: ·) moments⟩
  | case4 now request next gone errands =>
      rename_i ih
      obtain ⟨later, finished, moments⟩ := ih run.serve
      rw [List.append_assoc] at finished
      rw [Device.perform]
      exact ⟨.served now request :: later, finished, congrArg (_ :: ·) moments⟩
  | case5 now read result errands _ _ _ ih =>
      obtain ⟨later, finished, moments⟩ := ih run.enter
      rw [List.append_assoc] at finished
      rw [Device.perform]
      exact ⟨.entered read result :: later, finished, congrArg (_ :: ·) moments⟩
  | case6 now event errands _ _ _ ih =>
      obtain ⟨later, finished, moments⟩ := ih run.publish
      rw [List.append_assoc] at finished
      rw [Device.perform]
      exact ⟨.published event :: later, finished, congrArg (_ :: ·) moments⟩

/-- Every activity has a run to its end, and that is what is performed. -/
theorem exists_run (start : Device (Completion ν)) (activity : Activity ν) :
    ∃ past, Run start activity past (start.perform [.act activity]).1 [] ∧
      (start.perform [.act activity]).2 = past.map Deed.moment :=
  finishes .begin

end Run

end HidPointer
