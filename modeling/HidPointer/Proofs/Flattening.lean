import HidPointer.Proofs.Relabel
import HidPointer.Proofs.Interleaving

/-!
# Nested requests act as if flattened

A request that is issued from inside a completion finds the device as the requests before it left
it: each of them took its whole effect before any completion ran. So the requests of a run, taken
in the order in which they were issued and dispatched one after the other with completions that
do nothing, get the same answers, end the same reads with the same results and leave the same
device (`nested_requests_flatten`).
-/

set_option autoImplicit false

namespace HidPointer

variable {ν : Type}

def inert : Completion ν := fun _ => .done

def Duty.moment : Duty (Completion ν) → Moment ν
  | complete read result => .completed read.id result
  | publish event => .published event

/-- The requests of a run in the order in which they were issued, with completions that do
nothing. -/
def requestsIn (moments : List (Moment ν)) : List (Request (Completion ν)) :=
  moments.filterMap fun
    | .served request _ => some (request.map fun _ => inert)
    | _ => none

def repliesIn (moments : List (Moment ν)) : List Reply :=
  moments.filterMap fun
    | .served _ reply => some reply
    | _ => none

def resultsIn (moments : List (Moment ν)) : List (Nat × ReadResult) :=
  moments.filterMap fun
    | .completed id result => some (id, result)
    | _ => none

@[simp] theorem resultsIn_append (earlier later : List (Moment ν)) :
    resultsIn (earlier ++ later) = resultsIn earlier ++ resultsIn later :=
  List.filterMap_append

namespace Device

def muted (device : Device (Completion ν)) : Device (Completion ν) :=
  device.map fun _ => inert

def dispatchAll (device : Device (Completion ν)) :
    List (Request (Completion ν)) → Device (Completion ν) × List Reply × List (Moment ν)
  | [] => (device, [], [])
  | request :: requests =>
      let (next, reply, moments) := device.dispatch request
      let (final, replies, later) := next.dispatchAll requests
      (final, reply :: replies, moments ++ later)

theorem dispatchAll_append (device : Device (Completion ν))
    (earlier later : List (Request (Completion ν))) :
    device.dispatchAll (earlier ++ later) =
      let first := device.dispatchAll earlier
      let second := first.1.dispatchAll later
      (second.1, first.2.1 ++ second.2.1, first.2.2 ++ second.2.2) := by
  induction earlier generalizing device with
  | nil => rfl
  | cons request earlier ih => simp [dispatchAll, ih]

private theorem perform_muted (device : Device (Completion ν))
    (duties : List (Duty (Completion ν))) :
    device.perform ((duties.map (·.map fun _ => inert)).map .duty) =
      (device, duties.map Duty.moment) := by
  induction duties with
  | nil => simp [perform]
  | cons duty duties ih =>
      cases duty with
      | complete read result =>
          simp only [List.map_cons, Duty.map_complete, Duty.moment]
          rw [perform, ParkedRead.map_completion, inert, perform, ih]
          rfl
      | publish event =>
          simp only [List.map_cons, Duty.map_publish, Duty.moment]
          rw [perform, ih]

/-- Dispatched with a completion that does nothing, on a device that has only such, a request has
its effect and no more. -/
theorem dispatch_muted (device : Device (Completion ν)) (request : Request (Completion ν)) :
    device.muted.dispatch (request.map fun _ => inert) =
      ((device.serve request).1.muted, (device.serve request).2.reply,
        .served (request.map fun _ => ()) (device.serve request).2.reply ::
          (device.serve request).2.duties.map Duty.moment) := by
  have served := device.serve_map (fun _ => (inert : Completion ν)) request
  unfold dispatch muted
  rw [served]
  simp only [Served.map]
  rw [perform_muted, Request.map_map]

theorem muted_eq_self {device : Device (Completion ν)}
    (quiet : ∀ read ∈ device.queue.parked, read.completion = inert) : device.muted = device := by
  have same : ∀ read ∈ device.queue.parked, read.map (fun _ => inert) = read := by
    intro read member
    obtain ⟨id, capacity, completion⟩ := read
    exact congrArg (ParkedRead.mk id capacity) (quiet _ member).symm
  obtain ⟨attributes, policies, active, ⟨policy, buffered, parked, counters⟩, nextId⟩ := device
  simp only [muted, map, ReportQueue.map]
  rw [List.map_congr_left same, List.map_id']

/-- A device with completions that do nothing stays one when it is dispatched such a request. -/
theorem dispatch_of_muted {α : Type} {device : Device (Completion ν)}
    (muted : device.muted = device) (request : Request α) :
    let mute := request.map fun _ => (inert : Completion ν)
    (device.serve mute).1.muted = (device.serve mute).1 ∧
      device.dispatch mute = ((device.serve mute).1, (device.serve mute).2.reply,
        .served (request.map fun _ => ()) (device.serve mute).2.reply ::
          (device.serve mute).2.duties.map Duty.moment) := by
  intro mute
  have again : mute.map (fun _ => inert) = mute := Request.map_map ..
  have stays : (device.serve mute).1.muted = (device.serve mute).1 := by
    have served := device.serve_map (fun _ => (inert : Completion ν)) mute
    rw [again, show device.map (fun _ => inert) = device from muted] at served
    exact (congrArg Prod.fst served).symm
  have dispatched := device.dispatch_muted mute
  rw [again, muted, stays, Request.map_map] at dispatched
  exact ⟨stays, dispatched⟩

end Device

private theorem Run.flattens {start now : Device (Completion ν)} {activity : Activity ν}
    {past : List (Deed ν)} {errands : List (Errand ν)}
    (run : Run start activity past now errands) :
    ∃ moments,
      start.muted.dispatchAll (requestsIn (past.map Deed.moment)) =
        (now.muted, repliesIn (past.map Deed.moment), moments) ∧
      resultsIn moments = resultsIn ((past.flatMap Deed.raised).map Duty.moment) := by
  induction run using Run.byStep with
  | begin => exact ⟨[], rfl, rfl⟩
  | leave _ ih => exact ih
  | note _ ih | enter _ ih | publish _ ih =>
      simpa only [requestsIn, repliesIn, Deed.moment, Deed.raised, List.map_append, List.map_cons,
        List.map_nil, List.filterMap_append, List.filterMap_cons, List.filterMap_nil,
        List.flatMap_append, List.flatMap_cons, List.flatMap_nil, List.append_nil] using ih
  | @serve past now request next gone errands _ ih =>
      obtain ⟨moments, dispatched, results⟩ := ih
      have requests : requestsIn ((past ++ [Deed.served now request]).map Deed.moment) =
          requestsIn (past.map Deed.moment) ++ [request.map fun _ => inert] := by
        simp [requestsIn, Deed.moment, Request.map_map, Function.comp_def]
      have replies : repliesIn ((past ++ [Deed.served now request]).map Deed.moment) =
          repliesIn (past.map Deed.moment) ++ [(now.serve request).2.reply] := by
        simp [repliesIn, Deed.moment]
      rw [requests, replies, Device.dispatchAll_append, dispatched]
      simp only [Device.dispatchAll, Device.dispatch_muted]
      refine ⟨_, rfl, ?_⟩
      have served : ∀ later : List (Moment ν),
          resultsIn (.served (request.map fun _ => ()) (now.serve request).2.reply :: later) =
            resultsIn later := fun _ => rfl
      simp [results, served, Deed.raised]

private theorem resultsIn_discharged (past : List (Deed ν)) :
    resultsIn ((past.flatMap Deed.discharged).map Duty.moment) =
      resultsIn (past.map Deed.moment) := by
  induction past with
  | nil => rfl
  | cons deed past ih =>
      cases deed with
      | entered read result => exact congrArg ((read.id, result) :: ·) ih
      | served | published | noted => exact ih

/-- Nested requests act as if flattened. The run that is performed goes to its end, so the requests
in it are all that the activity and the completions issue. -/
theorem nested_requests_flatten (device : Device (Completion ν)) (activity : Activity ν) :
    let nested := device.perform [.act activity]
    let flat := device.muted.dispatchAll (requestsIn nested.2)
    (∃ past, Run device activity past nested.1 [] ∧ nested.2 = past.map Deed.moment) ∧
      flat.1 = nested.1.muted ∧ flat.2.1 = repliesIn nested.2 ∧
      (resultsIn flat.2.2).Perm (resultsIn nested.2) := by
  obtain ⟨past, run, moments⟩ := Run.exists_run device activity
  obtain ⟨flatMoments, dispatched, results⟩ := run.flattens
  have discharges : (past.flatMap Deed.raised).Perm (past.flatMap Deed.discharged) := by
    simpa using run.discharges
  refine ⟨⟨past, run, moments⟩, ?_⟩
  simp only [moments, dispatched, true_and, results]
  rw [← resultsIn_discharged]
  exact (discharges.map Duty.moment).filterMap _

/-- A switch flushes two reads. The completion of the first switches again and reads anew; that of
the second cancels this read. -/
theorem nested_requests_flatten_in_flush :
    let device : Device (Completion Unit) := .create DeviceConfig.default.attributes .mouse .default
    let rearm : Completion Unit := fun _ =>
      .issue (.setMode 2) (fun _ => .issue (.read 64 inert) (fun _ => .done) .done) .done
    let withdraw : Completion Unit := fun _ => .issue (.cancel 3) (fun _ => .done) .done
    let activity : Activity Unit :=
      .issue (.read 3 rearm)
        (fun _ => .issue (.read 3 withdraw)
          (fun _ => .issue (.setMode 1) (fun _ => .done) .done) .done) .done
    let requests : List (Request (Completion Unit)) :=
      [.read 3 inert, .read 3 inert, .setMode 1, .setMode 2, .read 64 inert, .cancel 3]
    let nested := device.perform [.act activity]
    let flat := device.muted.dispatchAll requests
    requestsIn nested.2 = requests ∧
      resultsIn nested.2 =
        [(1, .error .reconfigured), (2, .error .reconfigured), (3, .error .canceled)] ∧
      flat.1 = nested.1.muted ∧ flat.2.1 = repliesIn nested.2 ∧
      (resultsIn flat.2.2).Perm (resultsIn nested.2) := by
  intro device rearm withdraw activity requests nested flat
  have start : Run device activity [] device [.act activity] := .begin
  have flushed := start.serve.serve.serve.enter
  have rearmed := flushed.serve.publish.serve.leave.enter
  have withdrawn := rearmed.serve.enter.leave.publish.leave
  have performed := withdrawn.publish.leave.perform_eq
  have moments := congrArg Prod.snd performed
  simp only [Device.perform, List.append_nil] at moments
  have issued : requestsIn nested.2 = requests := by
    rw [moments]
    rfl
  have flattens := (nested_requests_flatten device activity).2
  rw [show device.perform [.act activity] = nested from rfl, issued] at flattens
  refine ⟨issued, ?_, flattens⟩
  rw [moments]
  rfl

end HidPointer
