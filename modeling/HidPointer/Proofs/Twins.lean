import HidPointer.Proofs.Course

/-!
# The overflow policy decides which reports are lost, not how many

Twins are devices whose settings differ in the overflow policies at most. They hold different
reports after a while, but as many of them, and nothing that a device decides hangs on what a report
says. So the same requests are answered alike by both, the same reads end at the same time, and the
same number of reports is lost (`Device.twins_lose_alike`).
-/

set_option autoImplicit false

namespace HidPointer

/-- The counters without that of the reports that got into the buffer. -/
def Counters.veil (counters : Counters) : Counters :=
  { counters with buffered := 0 }

/-- Which of the reports was lost is not told. -/
def SubmitStatus.veil : SubmitStatus → SubmitStatus
  | .bufferedWithDrop => .dropped
  | status => status

/-- What is left of a response when nothing is told that the overflow policy decides: what a report
from the buffer says, and which report was lost. -/
def Response.veil : Response → Response
  | .accepted status => .accepted status.veil
  | .ready bytes => .ready (bytes.map fun _ => 0)
  | .counters values => .counters values.veil
  | response => response

def Reply.veil : Reply → Reply
  | .ok response => .ok response.veil
  | .error error => .error error

def Moment.veil {ν : Type} : Moment ν → Moment ν
  | .served request reply => .served request (Reply.veil reply)
  | moment => moment

theorem Counters.veil_add {counters twin : Counters} (same : twin.veil = counters.veil)
    (more : Counters) {further : Counters} (alike : further.veil = more.veil) :
    (twin.add further).veil = (counters.add more).veil := by
  have each : twin.veil.add further.veil = counters.veil.add more.veil := by rw [same, alike]
  exact each

namespace Device

variable {κ : Type}

/-- The devices are in the same state but for the contents of their buffers and the overflow
policies. -/
structure Twins (device twin : Device κ) : Prop where
  attributes : twin.attributes = device.attributes
  capacities : ∀ mode, (twin.policies.get mode).capacity = (device.policies.get mode).capacity
  active : twin.active = device.active
  buffered : twin.queue.buffered.length = device.queue.buffered.length
  parked : twin.queue.parked = device.queue.parked
  counters : twin.queue.counters.veil = device.queue.counters.veil
  nextId : twin.nextId = device.nextId

theorem Accepts.of_mode_eq {device other : Device κ} {request : Request κ} {bytes : Bytes}
    (accepts : device.Accepts request bytes) (same : other.mode = device.mode) :
    other.Accepts request bytes := by
  constructor
  · rw [same]
    exact accepts.submits
  · rw [same]
    exact accepts.length

variable {device twin : Device κ}

namespace Twins

theorem mode (twins : Twins device twin) : twin.mode = device.mode :=
  congrArg ActiveMode.mode twins.active

theorem capacity (twins : Twins device twin) (coherent : device.Coherent)
    (twinCoherent : twin.Coherent) :
    twin.queue.policy.capacity = device.queue.policy.capacity := by
  rw [coherent.policy, twinCoherent.policy, twins.mode]
  exact twins.capacities device.mode

theorem queued (twins : Twins device twin) {buffered twinBuffered : List Bytes}
    (parked : List (ParkedRead κ)) (more : Counters) {further : Counters}
    (sameLength : twinBuffered.length = buffered.length) (alike : further.veil = more.veil) :
    Twins (device.queued buffered parked (device.queue.counters.add more))
      (twin.queued twinBuffered parked (twin.queue.counters.add further)) :=
  ⟨twins.attributes, twins.capacities, twins.active, sameLength, rfl,
    Counters.veil_add twins.counters more alike, twins.nextId⟩

end Twins

theorem Tells.twins {request : Request κ} {response : Response}
    (tells : device.Tells request response) (twins : Twins device twin) :
    ∃ twinResponse, twin.Tells request twinResponse ∧ twinResponse.veil = response.veil := by
  cases tells with
  | attributes => exact ⟨_, .attributes, by rw [twins.attributes]⟩
  | classDescriptor => exact ⟨_, .classDescriptor, by rw [twins.mode]⟩
  | reportDescriptor => exact ⟨_, .reportDescriptor, by rw [twins.active]⟩
  | mode => exact ⟨_, .mode, by rw [twins.mode]⟩
  | counters => exact ⟨_, .counters, congrArg Response.counters twins.counters⟩

variable {after : Device κ} {request : Request κ} {served : Served κ}

/-- A report that arrives at a full buffer costs exactly one report, and the buffer stays full. -/
theorem Effect.of_full {bytes : Bytes} (accepts : twin.Accepts request bytes)
    (parked : twin.queue.parked = [])
    (full : twin.queue.policy.capacity ≤ twin.queue.buffered.length)
    (positive : 0 < twin.queue.policy.capacity) :
    ∃ buffered status more, Effect twin request
      (twin.queued buffered [] (twin.queue.counters.add more))
      { reply := .ok (.accepted status)
        duties := [.publish (.reportDropped twin.mode .overflow)] } ∧
      buffered.length = twin.queue.buffered.length ∧ status.veil = .dropped ∧
        more.veil = { accepted := 1, overflowDrops := 1 } := by
  by_cases drops : twin.queue.policy.overflow = .dropNewest
  · exact ⟨_, _, { accepted := 1, overflowDrops := 1 }, .dropped accepts parked full drops, rfl,
      rfl, rfl⟩
  · exact ⟨_, _, { accepted := 1, overflowDrops := 1, buffered := 1 },
      .displaced accepts parked full drops, Overflow.length_receive _ (by omega) bytes, rfl, rfl⟩

/-- What one of two twins does the other does, too. -/
theorem Effect.twins (effect : Effect device request after served) (twins : Twins device twin)
    (coherent : device.Coherent) (twinCoherent : twin.Coherent)
    (positive : 0 < device.queue.policy.capacity) :
    ∃ twinAfter twinServed, Effect twin request twinAfter twinServed ∧ Twins after twinAfter ∧
      Reply.veil twinServed.reply = Reply.veil served.reply ∧
        twinServed.duties = served.duties := by
  have capacity := twins.capacity coherent twinCoherent
  have buffered := twins.buffered
  cases effect with
  | told tells =>
      obtain ⟨twinResponse, twinTells, same⟩ := tells.twins twins
      exact ⟨_, _, .told twinTells, twins, congrArg Except.ok same, rfl⟩
  | noSuchMode unknown => exact ⟨_, _, .noSuchMode unknown, twins, rfl, rfl⟩
  | @switched _ mode known =>
      have parked := congrArg List.length twins.parked
      refine ⟨_, _, .switched known, ⟨twins.attributes, twins.capacities, ?_, rfl, rfl, ?_,
        twins.nextId⟩, ?_, ?_⟩
      · rw [twins.active]
      · rw [parked]
        exact Counters.veil_add twins.counters { reconfigured := device.queue.parked.length } rfl
      · rw [twins.mode, twins.active]
      · rw [twins.mode, twins.active, twins.parked, twins.buffered]
  | unknownTag unknown => exact ⟨_, _, .unknownTag unknown, twins, rfl, rfl⟩
  | unencodable refused =>
      refine ⟨_, _, .unencodable refused, ?_, rfl, rfl⟩
      rw [twins.parked]
      exact twins.queued _ { rejected := 1 } twins.buffered rfl
  | invalid submits refused =>
      rw [← twins.active] at refused
      refine ⟨_, _, .invalid submits refused, ?_, rfl, rfl⟩
      rw [twins.parked]
      exact twins.queued _ { rejected := 1 } twins.buffered rfl
  | delivered accepts parked room =>
      rw [← twins.parked] at parked
      exact ⟨_, _, .delivered (accepts.of_mode_eq twins.mode) parked room,
        twins.queued _ { accepted := 1, delivered := 1 } twins.buffered rfl, rfl, rfl⟩
  | tooSmall accepts parked small =>
      exact absurd small (coherent.room_for accepts parked)
  | @buffered _ bytes accepts parked room =>
      rw [← twins.parked] at parked
      rw [← capacity, ← buffered] at room
      refine ⟨_, _, .buffered (accepts.of_mode_eq twins.mode) parked room, ?_, rfl, rfl⟩
      exact twins.queued _ { accepted := 1, buffered := 1 } (by simp [buffered]) rfl
  | displaced accepts parked full displaces =>
      obtain ⟨twinBuffered, status, more, effect, length, lost, counted⟩ := Effect.of_full
        (accepts.of_mode_eq twins.mode) (twins.parked.trans parked) (by omega) (by omega)
      refine ⟨_, _, effect, ?_, congrArg (Except.ok ∘ Response.accepted) lost, ?_⟩
      · refine twins.queued _ { accepted := 1, overflowDrops := 1, buffered := 1 } ?_ counted
        rw [length, Overflow.length_receive _ (by omega), buffered]
      · rw [twins.mode]
  | dropped accepts parked full drops =>
      obtain ⟨twinBuffered, status, more, effect, length, lost, counted⟩ := Effect.of_full
        (accepts.of_mode_eq twins.mode) (twins.parked.trans parked) (by omega) (by omega)
      refine ⟨_, _, effect, ?_, congrArg (Except.ok ∘ Response.accepted) lost, ?_⟩
      · exact twins.queued _ { accepted := 1, overflowDrops := 1 } (length.trans buffered) counted
      · rw [twins.mode]
  | noRoom small =>
      rw [← twins.mode] at small
      exact ⟨_, _, .noRoom small, twins, by rw [twins.mode], rfl⟩
  | @ready capacity completion report rest room held =>
      rw [← twins.mode] at room
      cases twinHeld : twin.queue.buffered with
      | nil =>
          rw [twinHeld, held] at buffered
          contradiction
      | cons twinReport twinRest =>
          rw [twinHeld, held] at buffered
          have length := coherent.lengths report (by simp [held])
          have twinLength := twinCoherent.lengths twinReport (by simp [twinHeld])
          rw [twins.mode] at twinLength
          refine ⟨_, _, .ready room twinHeld, ?_, ?_, rfl⟩
          · rw [twins.parked]
            exact twins.queued _ { delivered := 1 } (Nat.succ.inj buffered) rfl
          · simp only [Reply.veil, Response.veil, List.map_const', length, twinLength]
  | parked room empty =>
      rw [← twins.mode] at room
      rw [empty] at buffered
      refine ⟨_, _, .parked room (List.length_eq_zero_iff.mp buffered), ?_, ?_, rfl⟩
      · rw [twins.parked, twins.nextId]
        exact ⟨twins.attributes, twins.capacities, twins.active, rfl, rfl, twins.counters, rfl⟩
      · rw [twins.nextId]
  | notParked absent =>
      rw [← twins.parked] at absent
      exact ⟨_, _, .notParked absent, twins, rfl, rfl⟩
  | canceled parked first =>
      rw [← twins.parked] at parked
      exact ⟨_, _, .canceled parked first, twins.queued _ { canceled := 1 } twins.buffered rfl,
        rfl, rfl⟩

section Runs

variable {ν : Type} {device twin : Device (Completion ν)}

theorem Twins.next (twins : Twins device twin) (operating : device.Operating)
    (twinOperating : twin.Operating) (request : Request Unit) :
    Twins (device.next request) (twin.next request) ∧
      (twin.turn request).map Moment.veil = (device.turn request).map Moment.veil := by
  obtain ⟨twinAfter, twinServed, effect, after, replies, duties⟩ :=
    (device.serve_effect (request.map fun _ => inert)).twins twins operating.coherent
      twinOperating.coherent operating.capacity_pos
  have served := effect.serve_eq
  refine ⟨?_, ?_⟩
  · rw [Device.next, Device.next, served]
    exact after
  · simp only [turn, served, List.map_cons, Moment.veil, replies, duties]

theorem Twins.course (twins : Twins device twin) (operating : device.Operating)
    (twinOperating : twin.Operating) (requests : List (Request Unit)) :
    Twins (device.course requests).1 (twin.course requests).1 ∧
      (twin.course requests).2.map Moment.veil = (device.course requests).2.map Moment.veil := by
  induction requests generalizing device twin with
  | nil => exact ⟨twins, rfl⟩
  | cons request requests ih =>
      obtain ⟨nextTwins, turns⟩ := twins.next operating twinOperating request
      obtain ⟨final, later⟩ :=
        ih nextTwins (operating.next request) (twinOperating.next request)
      rw [course_cons operating.muted, course_cons twinOperating.muted]
      refine ⟨final, ?_⟩
      rw [List.map_append, List.map_append, turns, later]

/-- The overflow policies decide which reports are lost, never how many. What can be told of the two
runs is the same, but for the contents of the reports that reads found buffered and for which report
of two was lost, and so it is after each of the requests, as any number of them may be taken. -/
theorem twins_lose_alike {config other : Config}
    (created : ofConfig config = .ok device) (twinCreated : ofConfig other = .ok twin)
    (sameDevice : other.device = config.device)
    (sameCapacities : ∀ mode,
      (other.queue.get mode).capacity = (config.queue.get mode).capacity)
    (requests : List (Request Unit)) :
    Twins (device.course requests).1 (twin.course requests).1 ∧
      (twin.course requests).2.map Moment.veil = (device.course requests).2.map Moment.veil := by
  have operating := operating_of_config created
  have twinOperating := operating_of_config twinCreated
  obtain ⟨-, -, rfl⟩ := ofConfig_eq_ok_iff.mp created
  obtain ⟨-, -, rfl⟩ := ofConfig_eq_ok_iff.mp twinCreated
  have twins : Twins
      (create config.device.attributes config.device.initialMode config.queue :
        Device (Completion ν))
      (create other.device.attributes other.device.initialMode other.queue) := by
    rw [sameDevice]
    exact ⟨rfl, sameCapacities, rfl, rfl, rfl, rfl, rfl⟩
  exact twins.course operating twinOperating requests

/-- Two reports arrive at a buffer for one. A read gets the second or the first. -/
theorem twins_lose_alike_two_reports :
    let config := Config.default
    let other := { config with queue := { config.queue with mouse := ⟨1, .dropNewest⟩ } }
    let device : Device (Completion Unit) :=
      create config.device.attributes config.device.initialMode config.queue
    let twin : Device (Completion Unit) :=
      create config.device.attributes config.device.initialMode other.queue
    let reports : List (Request Unit) := [.submitRaw 0 [1, 5, 5], .submitRaw 0 [0, 7, 7]]
    let requests := reports ++ [.counters, .read 3 (), .read 8 (), .setMode 1]
    ofConfig config = .ok device ∧ ofConfig other = .ok twin ∧
      (device.course reports).1.queue.buffered = [[0, 7, 7]] ∧
      (twin.course reports).1.queue.buffered = [[1, 5, 5]] ∧
      Twins (device.course requests).1 (twin.course requests).1 ∧
      (twin.course requests).2.map Moment.veil = (device.course requests).2.map Moment.veil := by
  intro config other device twin reports requests
  have created : ofConfig config = .ok device := rfl
  have twinCreated : ofConfig other = .ok twin := rfl
  have sameCapacities : ∀ mode,
      (other.queue.get mode).capacity = (config.queue.get mode).capacity := by
    intro mode
    cases mode <;> rfl
  refine ⟨created, twinCreated, ?_, ?_,
    twins_lose_alike created twinCreated rfl sameCapacities requests⟩
  · rw [course_fst rfl]
    rfl
  · rw [course_fst rfl]
    rfl

end Runs

end Device

end HidPointer
