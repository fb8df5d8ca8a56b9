import HidPointer.Device.Run
import HidPointer.Proofs.Effect

/-!
# Requests that come to nothing

A request that is answered with an error leaves no trace but, if it is a submission, in the count of
what was rejected; nor does the cancellation of a read that is not parked. Nothing that waits is
touched before the last check has passed, so no completion is entered and nothing is published
(`Device.failed_requests_atomic`).
-/

set_option autoImplicit false

namespace HidPointer

namespace Request

variable {κ : Type}

/-- The answer says that the request came to nothing. -/
def Fails : Request κ → Reply → Prop
  | _, .error _ => True
  | .cancel _, .ok (.canceled false) => True
  | _, _ => False

/-- The kinds of requests that can be answered with the error. -/
def Risks : Request κ → DeviceError → Prop
  | .setMode _, .invalidMode _ => True
  | .submit _, .validation _ => True
  | .submitRaw _ _, .validation _ => True
  | .read _ _, .bufferTooSmall _ _ => True
  | _, _ => False

def IsSubmission : Request κ → Prop
  | .submit _ => True
  | .submitRaw _ _ => True
  | _ => False

theorem Submits.isSubmission {request : Request κ} {mode : Mode} {bytes : Bytes}
    (submits : request.Submits mode bytes) : request.IsSubmission := by
  cases submits <;> trivial

theorem Submits.risks_validation {request : Request κ} {mode : Mode} {bytes : Bytes}
    (submits : request.Submits mode bytes) (fault : ReportFault) :
    request.Risks (.validation fault) := by
  cases submits <;> trivial

theorem Submits.not_fails_ok {request : Request κ} {mode : Mode} {bytes : Bytes}
    (submits : request.Submits mode bytes) (response : Response) :
    ¬ request.Fails (.ok response) := by
  cases submits <;> simp [Fails]

end Request

/-- All that waits and all that is presented is as before. Of the counters only the one of the
rejected submissions may have changed, by one and by a submission. -/
structure Device.LeftAlone {κ : Type} (device after : Device κ) (request : Request κ) : Prop where
  attributes : after.attributes = device.attributes
  policies : after.policies = device.policies
  mode : after.active.mode = device.active.mode
  descriptor : after.active.descriptor = device.active.descriptor
  epoch : after.active.epoch = device.active.epoch
  policy : after.queue.policy = device.queue.policy
  buffered : after.queue.buffered = device.queue.buffered
  parked : after.queue.parked = device.queue.parked
  nextId : after.nextId = device.nextId
  counters : after.queue.counters =
    { device.queue.counters with rejected := after.queue.counters.rejected }
  rejected : after.queue.counters.rejected = device.queue.counters.rejected ∨
    request.IsSubmission ∧
      after.queue.counters.rejected = device.queue.counters.rejected + 1

namespace Device

section Effects

variable {κ : Type} {device after : Device κ} {request : Request κ} {served : Served κ}

theorem LeftAlone.refl (device : Device κ) (request : Request κ) :
    device.LeftAlone device request :=
  ⟨rfl, rfl, rfl, rfl, rfl, rfl, rfl, rfl, rfl, rfl, .inl rfl⟩

theorem LeftAlone.counted (device : Device κ) (isSubmission : request.IsSubmission) :
    device.LeftAlone
      (device.queued device.queue.buffered device.queue.parked
        { device.queue.counters with rejected := device.queue.counters.rejected + 1 }) request :=
  ⟨rfl, rfl, rfl, rfl, rfl, rfl, rfl, rfl, rfl, rfl, .inr ⟨isSubmission, rfl⟩⟩

/-- The one place where the ways to fail are told apart. -/
theorem Effect.left_alone (effect : Effect device request after served)
    (fails : request.Fails served.reply) :
    device.LeftAlone after request ∧ served.duties = [] ∧
      ∀ error, served.reply = .error error → request.Risks error := by
  cases effect with
  | told tells => cases tells <;> exact fails.elim
  | switched | ready | parked | canceled => exact fails.elim
  | delivered accepts | tooSmall accepts | buffered accepts | displaced accepts
  | dropped accepts => exact absurd fails (accepts.submits.not_fails_ok _)
  | noSuchMode | unknownTag | noRoom =>
      refine ⟨.refl .., rfl, ?_⟩
      intro error isError
      cases isError
      trivial
  | notParked =>
      refine ⟨.refl .., rfl, ?_⟩
      intro error isError
      cases isError
  | unencodable =>
      refine ⟨.counted device trivial, rfl, ?_⟩
      intro error isError
      cases isError
      trivial
  | invalid submits =>
      refine ⟨.counted device submits.isSubmission, rfl, ?_⟩
      intro error isError
      cases isError
      exact submits.risks_validation _

end Effects

variable {ν : Type}

/-- The device took the request, and that was all. -/
structure OnlyAnswered (device : Device (Completion ν)) (request : Request (Completion ν)) :
    Prop where
  unchanged : device.LeftAlone (device.dispatch request).1 request
  cause : ∀ error, (device.dispatch request).2.1 = .error error → request.Risks error
  /-- No completion is entered and no event is published. -/
  quiet : (device.dispatch request).2.2 =
    [.served (request.map fun _ => ()) (device.dispatch request).2.1]
  /-- Where the request is issued in the course of a run, its issuer goes on at once. -/
  nested : ∀ (next : Reply → Activity ν) (gone : Activity ν) (errands : List (Errand ν)),
    device.perform (.act (.issue request next gone) :: errands) =
      let (after, reply, moments) := device.dispatch request
      let (final, later) := after.perform (.act (next reply) :: errands)
      (final, moments ++ later)

/-- Failed requests are atomic, in whatever state the device is. -/
theorem failed_requests_atomic (device : Device (Completion ν))
    (request : Request (Completion ν))
    (fails : request.Fails (device.dispatch request).2.1) : device.OnlyAnswered request := by
  obtain ⟨leftAlone, noDuties, cause⟩ := (device.serve_effect request).left_alone fails
  have dispatched : device.dispatch request =
      ((device.serve request).1, (device.serve request).2.reply,
        [.served (request.map fun _ => ()) (device.serve request).2.reply]) := by
    simp only [dispatch, noDuties, List.map_nil, perform]
  refine ⟨?_, cause, ?_, ?_⟩
  · rw [dispatched]
    exact leftAlone
  · rw [dispatched]
  · intro next gone errands
    rw [dispatched, perform]
    simp only [noDuties, List.map_nil, List.nil_append, List.cons_append]

/-- Two reads are parked when a report of another mode comes in. -/
theorem failed_requests_atomic_wrong_mode :
    let device : Device (Completion Unit) :=
      (((create DeviceConfig.default.attributes .mouse .default).serve
        (.read 3 fun _ => .note () .done)).1.serve (.read 8 fun _ => .done)).1
    let request : Request (Completion Unit) := .submit (.singleTouch true 100 200)
    device.queue.parked.map (·.id) = [1, 2] ∧
      (device.dispatch request).2.1 =
        .error (.validation (.wrongMode .singleTouch .mouse)) ∧
      device.OnlyAnswered request := by
  intro device request
  have reply : (device.dispatch request).2.1 =
      .error (.validation (.wrongMode .singleTouch .mouse)) := rfl
  refine ⟨rfl, reply, failed_requests_atomic device request ?_⟩
  rw [reply]
  trivial

end Device

end HidPointer
