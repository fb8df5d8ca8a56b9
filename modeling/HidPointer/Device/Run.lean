import HidPointer.Activity

/-!
# Running a device

`Device.perform` carries out errands until none is left. A request that is issued on the way takes
its whole effect at once; its duties come next, before the rest of the activity that issued it. So
a completion runs while the request that led to it has not yet returned to its issuer.

The run ends for every device and all errands. `Device.serve_work` is the reason: a request adds
nothing that runs but the completion it carries and an event; whatever else it makes due was
parked before.
-/

set_option autoImplicit false

namespace HidPointer

variable {ν : Type}

namespace Duty

def work : Duty (Completion ν) → List (Activity.Work ν)
  | .complete read _ => [.completion read.completion]
  | .publish _ => [.event]

end Duty

namespace Errand

def work : Errand ν → List (Activity.Work ν)
  | .act activity => [.activity activity]
  | .duty owed => owed.work

end Errand

namespace Device

def work (device : Device (Completion ν)) : List (Activity.Work ν) :=
  device.queue.parked.map fun read => .completion read.completion

/-- The work that a request brings along. -/
def broughtWork : Request (Completion ν) → List (Activity.Work ν)
  | .read _ completion => [.completion completion]
  | _ => []

private theorem refuse_work (device : Device (Completion ν)) (fault : ReportFault) :
    (device.refuse fault).1.work ++ (device.refuse fault).2.duties.flatMap Duty.work =
      device.work := by
  simp [refuse, work, ReportQueue.reject]

private theorem switchMode_work (device : Device (Completion ν)) (mode : Mode) :
    (device.switchMode mode).1.work ++ (device.switchMode mode).2.duties.flatMap Duty.work =
      device.work ++ [.event] := by
  simp only [switchMode, work, ReportQueue.flush, List.flatMap_append, List.flatMap_map]
  simp [Duty.work, List.map_eq_flatMap]

private theorem submitBytes_work (device : Device (Completion ν)) (mode : Mode) (bytes : Bytes) :
    ∃ events, (∀ work ∈ events, work = Activity.Work.event) ∧
      ((device.submitBytes mode bytes).1.work ++
        (device.submitBytes mode bytes).2.duties.flatMap Duty.work).Perm
        (events ++ device.work) := by
  unfold submitBytes
  split
  · exact ⟨[], by simp, .of_eq (refuse_work device _)⟩
  · simp only [ReportQueue.push]
    rcases parked : device.queue.parked with _ | ⟨read, rest⟩
    · by_cases room : device.queue.buffered.length < device.queue.policy.capacity
      · exact ⟨[], by simp, by simp [room, work, parked]⟩
      · refine ⟨[.event], by simp, ?_⟩
        cases overflow : device.queue.policy.overflow <;>
          simp [room, work, parked, Duty.work]
    · by_cases small : read.capacity < bytes.length
      · refine ⟨[.event], by simp, ?_⟩
        simp only [small, if_true, work, parked, List.flatMap_cons, List.flatMap_nil, Duty.work,
          List.map_cons, List.append_nil]
        exact List.perm_append_comm
      · refine ⟨[], by simp, ?_⟩
        simp only [small, if_false, work, parked, List.flatMap_cons, List.flatMap_nil, Duty.work,
          List.map_cons, List.append_nil]
        exact List.perm_append_comm

private theorem beginRead_work (device : Device (Completion ν)) (capacity : Nat)
    (completion : Completion ν) :
    ∃ brought, (∀ work ∈ brought, work = Activity.Work.completion completion) ∧
      ((device.beginRead capacity completion).1.work ++
        (device.beginRead capacity completion).2.duties.flatMap Duty.work).Perm
        (brought ++ device.work) := by
  by_cases small : capacity < device.mode.byteLength
  · exact ⟨[], by simp, by simp [beginRead, small]⟩
  · rcases buffered : device.queue.buffered with _ | ⟨report, rest⟩
    · refine ⟨[.completion completion], by simp, ?_⟩
      simp only [beginRead, small, if_false, ReportQueue.pop, buffered, work, ReportQueue.park,
        List.map_append, List.map_cons, List.map_nil, List.flatMap_nil, List.append_nil]
      exact List.perm_append_comm
    · exact ⟨[], by simp, by simp [beginRead, small, ReportQueue.pop, buffered, work]⟩

private theorem perm_cons_eraseP {α : Type} {list : List α} {test : α → Bool} {found : α}
    (isFound : list.find? test = some found) : list.Perm (found :: list.eraseP test) := by
  obtain ⟨passes, front, back, rfl, earlier⟩ := List.find?_eq_some_iff_append.mp isFound
  have notEarlier : ∀ element ∈ front, ¬ test element := by simpa using earlier
  rw [List.eraseP_append_right _ notEarlier, List.eraseP_cons_of_pos passes]
  exact List.perm_middle

private theorem cancelRead_work (device : Device (Completion ν)) (id : Nat) :
    ∃ events, (∀ work ∈ events, work = Activity.Work.event) ∧
      ((device.cancelRead id).1.work ++
        (device.cancelRead id).2.duties.flatMap Duty.work).Perm (events ++ device.work) := by
  rcases found : device.queue.parked.find? (·.id == id) with _ | read
  · exact ⟨[], by simp, by simp [cancelRead, ReportQueue.cancel, found]⟩
  · refine ⟨[.event], by simp, ?_⟩
    simp only [cancelRead, ReportQueue.cancel, found, work, List.flatMap_cons, List.flatMap_nil,
      Duty.work, List.append_nil]
    have moved := (perm_cons_eraseP found).map
      (fun read => Activity.Work.completion read.completion)
    refine .trans ?_ (moved.symm.cons _)
    exact (List.perm_append_comm).trans (.swap ..)

/-- A request adds at most its own completion and an event to the work there is. -/
theorem serve_work (device : Device (Completion ν)) (request : Request (Completion ν)) :
    ∃ added, (∀ work ∈ added, work = Activity.Work.event ∨ work ∈ broughtWork request) ∧
      ((device.serve request).1.work ++ (device.serve request).2.duties.flatMap Duty.work).Perm
        (added ++ device.work) := by
  have unchanged : ∀ reply : Reply,
      ∃ added : List (Activity.Work ν),
        (∀ work ∈ added, work = Activity.Work.event ∨ work ∈ broughtWork request) ∧
        (device.work ++ ({ reply := reply } : Served (Completion ν)).duties.flatMap
          Duty.work).Perm (added ++ device.work) :=
    fun _ => ⟨[], by simp, by simp⟩
  have refused : ∀ fault : ReportFault,
      ∃ added : List (Activity.Work ν),
        (∀ work ∈ added, work = Activity.Work.event ∨ work ∈ broughtWork request) ∧
        ((device.refuse fault).1.work ++ (device.refuse fault).2.duties.flatMap
          Duty.work).Perm (added ++ device.work) :=
    fun fault => ⟨[], by simp, .of_eq (refuse_work device fault)⟩
  have submitted : ∀ (mode : Mode) (bytes : Bytes),
      ∃ added : List (Activity.Work ν),
        (∀ work ∈ added, work = Activity.Work.event ∨ work ∈ broughtWork request) ∧
        ((device.submitBytes mode bytes).1.work ++
          (device.submitBytes mode bytes).2.duties.flatMap Duty.work).Perm
          (added ++ device.work) := fun mode bytes => by
    obtain ⟨events, only, same⟩ := submitBytes_work device mode bytes
    exact ⟨events, fun work member => .inl (only work member), same⟩
  cases request with
  | attributes => exact unchanged _
  | classDescriptor => exact unchanged _
  | reportDescriptor => exact unchanged _
  | mode => exact unchanged _
  | counters => exact unchanged _
  | setMode tag =>
      simp only [serve]
      split
      · exact unchanged _
      · refine ⟨[.event], by simp, .trans (.of_eq (switchMode_work device _)) ?_⟩
        exact List.perm_append_comm
  | submit report =>
      simp only [serve]
      split
      · exact refused _
      · exact submitted _ _
  | submitRaw tag bytes =>
      simp only [serve]
      split
      · exact unchanged _
      · exact submitted _ _
  | read capacity completion =>
      obtain ⟨brought, only, same⟩ := beginRead_work device capacity completion
      exact ⟨brought, fun work member => .inr (by simp [broughtWork, only work member]), same⟩
  | cancel id =>
      obtain ⟨events, only, same⟩ := cancelRead_work device id
      exact ⟨events, fun work member => .inl (only work member), same⟩

/-- All the work there is: what is parked and what remains to be performed. -/
def remaining (device : Device (Completion ν)) (errands : List (Errand ν)) :
    List (Activity.Work ν) :=
  device.work ++ errands.flatMap Errand.work

private theorem replaces_first {device : Device (Completion ν)} {errands : List (Errand ν)}
    {removed : Activity.Work ν} (added : List (Activity.Work ν))
    (below : ∀ work ∈ added, Activity.Work.Below work removed) :
    Replaces Activity.Work.Below (device.work ++ (added ++ errands.flatMap Errand.work))
      (device.work ++ (removed :: errands.flatMap Errand.work)) := by
  refine ⟨removed, device.work ++ errands.flatMap Errand.work, added, List.perm_middle, ?_,
    below⟩
  rw [← List.append_assoc, ← List.append_assoc]
  exact List.perm_append_comm.append_right _

private theorem replaces_issue (device : Device (Completion ν))
    (request : Request (Completion ν)) (next : Reply → Activity ν) (gone : Activity ν)
    (errands : List (Errand ν)) :
    Replaces Activity.Work.Below
      (remaining (device.serve request).1
        ((device.serve request).2.duties.map .duty ++
          .act (next (device.serve request).2.reply) :: errands))
      (remaining device (.act (.issue request next gone) :: errands)) := by
  obtain ⟨added, only, same⟩ := serve_work device request
  refine ⟨.activity (.issue request next gone), device.work ++ errands.flatMap Errand.work,
    .activity (next (device.serve request).2.reply) :: added, List.perm_middle, ?_, ?_⟩
  · have dutyWork : ((device.serve request).2.duties.map Errand.duty).flatMap Errand.work =
        (device.serve request).2.duties.flatMap Duty.work := by
      rw [List.flatMap_map]
      rfl
    simp only [remaining, List.flatMap_append, List.flatMap_cons, dutyWork, Errand.work]
    rw [← List.append_assoc]
    refine (same.append_right _).trans ?_
    rw [List.cons_append, ← List.append_assoc]
    exact List.perm_middle
  · intro work member
    rcases List.mem_cons.mp member with rfl | isAdded
    · exact .answered _
    · rcases only work isAdded with rfl | brought
      · exact .published
      · cases request <;> simp [broughtWork] at brought
        subst brought
        exact .parked

/-- Performs errands one after the other. The result is the device in the end and what could be
observed. -/
def perform (device : Device (Completion ν)) (errands : List (Errand ν)) :
    Device (Completion ν) × List (Moment ν) :=
  match errands with
  | [] => (device, [])
  | .act .done :: errands => perform device errands
  | .act (.note entry next) :: errands =>
      let (final, moments) := perform device (.act next :: errands)
      (final, .noted entry :: moments)
  | .act (.issue request next _) :: errands =>
      let served := device.serve request
      let (final, moments) := perform served.1
        (served.2.duties.map .duty ++ .act (next served.2.reply) :: errands)
      (final, .served (request.map fun _ => ()) served.2.reply :: moments)
  | .duty (.complete read result) :: errands =>
      let (final, moments) := perform device (.act (read.completion result) :: errands)
      (final, .completed read.id result :: moments)
  | .duty (.publish event) :: errands =>
      let (final, moments) := perform device errands
      (final, .published event :: moments)
termination_by
  (Replaces.wellFounded Activity.Work.below_wellFounded).wrap (remaining device errands)
decreasing_by
  · exact replaces_first [] (by simp)
  · exact replaces_first [_] (by simp [Activity.Work.Below.noted])
  · exact replaces_issue ..
  · exact replaces_first [_] (by simp [Activity.Work.Below.entered])
  · exact replaces_first [] (by simp)

/-- Issues one request and performs all that it leads to. The answer comes with the device in the
end and what could be observed. -/
def dispatch (device : Device (Completion ν)) (request : Request (Completion ν)) :
    Device (Completion ν) × Reply × List (Moment ν) :=
  let (next, served) := device.serve request
  let (final, moments) := next.perform (served.duties.map .duty)
  (final, served.reply, .served (request.map fun _ => ()) served.reply :: moments)

/-- The moments of the end of a device. The completions are run, but find no device. -/
def remove (device : Device (Completion ν)) : List (Moment ν) :=
  device.retire.2.flatMap fun
    | .complete read result =>
        .completed read.id result :: (read.completion result).withoutDevice.map .noted
    | .publish event => [.published event]

end Device

end HidPointer
