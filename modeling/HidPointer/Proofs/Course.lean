import HidPointer.Proofs.Coherent
import HidPointer.Proofs.Flattening
import HidPointer.Proofs.Renumbering

/-!
# Requests one after the other

Where no completion does anything, a run is a list of requests. `Device.course` is what comes of
them: the device in the end, and what could be observed. It goes from request to request, each of
which is served at once (`Device.course_cons`).
-/

set_option autoImplicit false

namespace HidPointer.Device

variable {ν : Type}

def course (device : Device (Completion ν)) (requests : List (Request Unit)) :
    Device (Completion ν) × List (Moment ν) :=
  let (final, _, moments) := device.dispatchAll (requests.map (·.map fun _ => inert))
  (final, moments)

/-- The device after one request. -/
def next (device : Device (Completion ν)) (request : Request Unit) : Device (Completion ν) :=
  (device.serve (request.map fun _ => inert)).1

/-- What can be observed of one request. -/
def turn (device : Device (Completion ν)) (request : Request Unit) : List (Moment ν) :=
  let served := (device.serve (request.map fun _ => inert)).2
  .served request served.reply :: served.duties.map Duty.moment

variable {device : Device (Completion ν)} {requests : List (Request Unit)}

theorem next_muted (muted : device.muted = device) (request : Request Unit) :
    (device.next request).muted = device.next request :=
  (dispatch_of_muted muted request).1

theorem course_cons (muted : device.muted = device) (request : Request Unit)
    (requests : List (Request Unit)) :
    device.course (request :: requests) =
      (((device.next request).course requests).1,
        device.turn request ++ ((device.next request).course requests).2) := by
  have dispatched := (dispatch_of_muted muted request).2
  have same : request.map (fun _ => ()) = request := by cases request <;> rfl
  rw [same] at dispatched
  simp only [course, List.map_cons, dispatchAll, dispatched]
  rfl

theorem course_append (device : Device (Completion ν)) (earlier later : List (Request Unit)) :
    device.course (earlier ++ later) =
      (((device.course earlier).1.course later).1,
        (device.course earlier).2 ++ ((device.course earlier).1.course later).2) := by
  simp only [course, List.map_append, dispatchAll_append]

theorem course_fst (muted : device.muted = device) (requests : List (Request Unit)) :
    (device.course requests).1 = requests.foldl next device := by
  induction requests generalizing device with
  | nil => rfl
  | cons request requests ih =>
      rw [course_cons muted]
      exact ih (next_muted muted request)

/-- What every request keeps holds in the end. -/
theorem course_invariant (property : Device (Completion ν) → Prop)
    (step : ∀ (device : Device (Completion ν)) (request : Request Unit),
      property device → property (device.next request))
    (muted : device.muted = device) (initially : property device) :
    property (device.course requests).1 ∧
      (device.course requests).1.muted = (device.course requests).1 := by
  induction requests generalizing device with
  | nil => exact ⟨initially, muted⟩
  | cons request requests ih =>
      rw [course_cons muted]
      exact ih (next_muted muted request) (step device request initially)

theorem course_muted (muted : device.muted = device) (requests : List (Request Unit)) :
    (device.course requests).1.muted = (device.course requests).1 :=
  (course_invariant (fun _ => True) (fun _ _ _ => trivial) muted trivial).2

theorem course_coherent (muted : device.muted = device) (coherent : device.Coherent)
    (requests : List (Request Unit)) : (device.course requests).1.Coherent :=
  (course_invariant Coherent (fun device _ => (device.serve_effect _).coherent) muted
    coherent).1

theorem nextId_le_course (muted : device.muted = device) (requests : List (Request Unit)) :
    device.nextId ≤ (device.course requests).1.nextId :=
  (course_invariant (device.nextId ≤ ·.nextId)
    (fun device _ below => Nat.le_trans below (device.serve_effect _).nextId_le) muted
    (Nat.le_refl _)).1

private theorem moment_renumber (change : Renumbering) (duty : Duty (Completion ν)) :
    (duty.renumber change).moment = duty.moment.renumber change := by
  cases duty <;> rfl

theorem turn_renumber {change : Renumbering} {other : Device (Completion ν)}
    {request renumbered : Request Unit} (requested : request.renumber change = renumbered)
    (served : (other.serve (renumbered.map fun _ => inert)).2 =
      (device.serve (request.map fun _ => inert)).2.renumber change) :
    other.turn renumbered = (device.turn request).map (·.renumber change) := by
  simp only [turn, served, Served.renumber, List.map_cons, List.map_map, Function.comp_def,
    moment_renumber, Moment.renumber, requested]

/-- What holds of a device that was made for a valid configuration, as long as no completion does
anything. -/
structure Operating (device : Device (Completion ν)) : Prop where
  coherent : device.Coherent
  muted : device.muted = device
  positive : ∀ mode, 0 < (device.policies.get mode).capacity

theorem operating_of_config {config : Config} (created : ofConfig config = .ok device) :
    device.Operating := by
  obtain ⟨positive, _, rfl⟩ := ofConfig_eq_ok_iff.mp created
  exact ⟨coherent_create .., rfl, positive⟩

theorem Operating.capacity_pos (operating : device.Operating) : 0 < device.queue.policy.capacity :=
  operating.coherent.capacity_pos operating.positive

theorem Operating.next (operating : device.Operating) (request : Request Unit) :
    (device.next request).Operating := by
  have effect := device.serve_effect (request.map fun _ => inert)
  refine ⟨effect.coherent operating.coherent, next_muted operating.muted request, ?_⟩
  rw [Device.next, effect.policies]
  exact operating.positive

end HidPointer.Device
