import HidPointer.Proofs.Coherent

/-!
# The state of a device

What is true of a device for a valid configuration at every point of an interleaving: its queue
never holds more than the policy of the active mode allows, the policy and the descriptor are those
of the active mode, the epoch counts the switches, and parked reads are in the order of their
numbers.
-/

set_option autoImplicit false

namespace HidPointer

/-- The length of the one report descriptor that a class descriptor announces. -/
def Descriptor.announcedLength : Bytes → Option Nat
  | [0x09, 0x21, _, _, _, 0x01, 0x22, low, high] => some (Bytes.toWord low high).toNat
  | _ => none

theorem Descriptor.announcedLength_announcing (length : UInt16) :
    announcedLength (announcing length) = some length.toNat := by
  rw [announcing, Bytes.ofWord]
  exact congrArg (some ·.toNat) (Bytes.toWord_ofWord length)

theorem Descriptor.announcedLength_classOfMode (mode : Mode) :
    announcedLength (classOfMode mode) = some (ofMode mode).length := by
  have small : (ofMode mode).length < UInt16.size := by
    rw [length_ofMode]
    cases mode <;> decide
  rw [classOfMode, announcedLength_announcing, UInt16.toNat_ofNat']
  exact congrArg some (Nat.mod_eq_of_lt small)

/-- The switch of the mode that a request was answered with. -/
def Request.transition? {κ : Type} : Request κ → Reply → Option Transition
  | .setMode _, .ok (.modeSet transition) => some transition
  | _, _ => none

theorem Request.Submits.transition_eq_none {κ : Type} {request : Request κ} {mode : Mode}
    {bytes : Bytes} (submits : request.Submits mode bytes) (reply : Reply) :
    request.transition? reply = none := by
  cases submits <;> rfl

namespace Device.Effect

variable {κ : Type} {device after : Device κ} {request : Request κ} {served : Served κ}

theorem bounded (effect : Effect device request after served)
    (buffers : 0 < device.queue.policy.capacity)
    (bounded : device.queue.buffered.length ≤ device.queue.policy.capacity) :
    after.queue.buffered.length ≤ after.queue.policy.capacity := by
  cases effect with
  | told | noSuchMode | unknownTag | unencodable | invalid | delivered | tooSmall | dropped
  | noRoom | notParked | canceled => exact bounded
  | switched | parked => exact Nat.zero_le _
  | buffered _ _ room =>
      rw [queued_queue, List.length_append, List.length_singleton]
      exact room
  | @displaced _ bytes _ _ full _ =>
      -- `latestWins` fills an empty buffer, which is why a capacity of 0 is not enough.
      have holds := Nat.lt_of_lt_of_le buffers full
      rw [queued_queue, device.queue.policy.overflow.length_receive holds bytes]
      exact bounded
  | ready _ buffered =>
      rw [buffered, List.length_cons] at bounded
      exact Nat.le_of_succ_le bounded

theorem descriptor (effect : Effect device request after served)
    (current : device.active.descriptor = Descriptor.ofMode device.mode) :
    after.active.descriptor = Descriptor.ofMode after.mode := by
  cases effect with
  | switched => rfl
  | _ => exact current

/-- A switch leads from the mode before it to the mode after it and starts the next epoch. Nothing
else changes what is active. -/
theorem transition_exact (effect : Effect device request after served) :
    request.transition? served.reply = none ∧ after.active = device.active ∨
      request.transition? served.reply =
        some ⟨device.mode, after.mode, device.active.epoch + 1⟩ ∧
        after.active.epoch = device.active.epoch + 1 := by
  cases effect with
  | told tells => cases tells <;> exact .inl ⟨rfl, rfl⟩
  | switched => exact .inr ⟨rfl, rfl⟩
  | invalid submits => exact .inl ⟨submits.transition_eq_none _, rfl⟩
  | delivered accepts | tooSmall accepts | buffered accepts | displaced accepts
  | dropped accepts => exact .inl ⟨accepts.submits.transition_eq_none _, rfl⟩
  | noSuchMode | unknownTag | unencodable | noRoom | ready | parked | notParked | canceled =>
      exact .inl ⟨rfl, rfl⟩

end Device.Effect

section Interleavings

variable {ν : Type}

def Deed.transition? : Deed ν → Option Transition
  | served before request => request.transition? (before.serve request).2.reply
  | _ => none

/-- The switches of the mode so far. -/
def transitions (past : List (Deed ν)) : List Transition :=
  past.filterMap Deed.transition?

theorem transitions_concat (past : List (Deed ν)) (deed : Deed ν) :
    transitions (past ++ [deed]) = transitions past ++ deed.transition?.toList :=
  filterMap_concat Deed.transition? past deed

namespace History

variable {start now : Device (Completion ν)} {past : List (Deed ν)}

theorem bounded (history : History start past now) (coherent : start.Coherent)
    (positive : ∀ mode, 0 < (start.policies.get mode).capacity)
    (initially : start.queue.buffered.length ≤ start.queue.policy.capacity) :
    now.queue.buffered.length ≤ now.queue.policy.capacity := by
  induction history with
  | begin => exact initially
  | entered _ _ _ ih | published _ _ ih | noted _ _ ih => exact ih
  | @served past now request history ih =>
      exact (now.serve_effect request).bounded (history.buffers coherent positive) ih

/-- What is true of the switches so far and of what is active, and is kept by every switch, is true
at all times. -/
theorem transitions_invariant (history : History start past now)
    (property : List Transition → ActiveMode → Prop) (initially : property [] start.active)
    (step : ∀ earlier before after, property earlier before → after.epoch = before.epoch + 1 →
      property (earlier ++ [⟨before.mode, after.mode, after.epoch⟩]) after) :
    property (transitions past) now.active := by
  induction history with
  | begin => exact initially
  | entered _ _ _ ih | published _ _ ih | noted _ _ ih =>
      simpa [transitions_concat, Deed.transition?] using ih
  | @served past now request _ ih =>
      rw [transitions_concat, Deed.transition?]
      rcases (now.serve_effect request).transition_exact with ⟨unswitched, same⟩ | ⟨switched, next⟩
      · rw [unswitched, same]
        simpa using ih
      · rw [switched, Option.toList_some, ← next]
        exact step _ _ _ ih next

theorem epoch (history : History start past now) :
    now.active.epoch = start.active.epoch + (transitions past).length := by
  refine history.transitions_invariant
    (fun earlier active => active.epoch = start.active.epoch + earlier.length) rfl ?_
  intro earlier before after counted next
  rw [next, counted, List.length_append, List.length_singleton, Nat.add_assoc]

end History

/-- What is true of a device with the given configuration after the deeds `past`. -/
structure DeviceInvariant (config : Config) (past : List (Deed ν))
    (now : Device (Completion ν)) : Prop where
  apart : now.queue.buffered = [] ∨ now.queue.parked = []
  bounded : now.queue.buffered.length ≤ now.queue.policy.capacity
  policy : now.queue.policy = config.queue.get now.mode
  descriptor : now.active.descriptor = Descriptor.ofMode now.mode
  /-- The class descriptor that is answered announces the length of the report descriptor. -/
  announced : ∃ bytes, (now.serve .classDescriptor).2.reply = .ok (.classDescriptor bytes) ∧
    Descriptor.announcedLength bytes = some now.active.descriptor.length
  epoch : now.active.epoch = (transitions past).length
  ordered : now.queue.parked.Pairwise (·.id < ·.id)
  below : ∀ read ∈ now.queue.parked, read.id < now.nextId

/-- The invariant holds at every point, whatever the threads ask for. -/
theorem Interleaving.device_invariant {config : Config} {device now : Device (Completion ν)}
    {activities : List (Activity ν)} {past : List (Deed ν)} {threads : List (List (Errand ν))}
    (built : Device.ofConfig config = .ok device)
    (run : Interleaving device activities past now threads) :
    DeviceInvariant config past now := by
  obtain ⟨positive, _, rfl⟩ := Device.ofConfig_eq_ok_iff.mp built
  have history := run.history
  obtain ⟨policy, apart, _, _, ordered, below⟩ :=
    (history.coherent (Device.coherent_create ..)).1
  have descriptor : now.active.descriptor = Descriptor.ofMode now.mode :=
    (history.invariant (fun device => device.active.descriptor = Descriptor.ofMode device.mode)
      rfl fun device request => (device.serve_effect request).descriptor).1
  refine ⟨apart, ?_, ?_, descriptor, ?_, ?_, ordered, below⟩
  · exact history.bounded (Device.coherent_create ..) positive (Nat.zero_le _)
  · rw [policy, history.policies]
    rfl
  · refine ⟨Descriptor.classOfMode now.mode, rfl, ?_⟩
    rw [Descriptor.announcedLength_classOfMode, descriptor]
  · rw [history.epoch]
    exact Nat.zero_add _

end Interleavings

/-- A switch whose flushed read is parked again, and a second switch to the same mode. -/
theorem Interleaving.device_invariant_rearmed :
    let device : Device (Completion Unit) :=
      .create DeviceConfig.default.attributes .mouse .default
    let reader : Activity Unit :=
      .issue (.read 3 fun _ => .issue (.read 31 fun _ => .done) (fun _ => .done) .done)
        (fun _ => .done) .done
    let switcher : Activity Unit :=
      .issue (.setMode 2) (fun _ => .issue (.setMode 2) (fun _ => .done) .done) .done
    ∃ past now threads, Device.ofConfig .default = .ok device ∧
      Interleaving device [reader, switcher] past now threads ∧
      now.active.epoch = 2 ∧ DeviceInvariant .default past now := by
  intro device reader switcher
  have built : Device.ofConfig .default = .ok device := rfl
  have start : Interleaving device [reader, switcher] []
      device [[.act reader], [.act switcher]] := .begin
  have flushed := ((start.step [] [_] .serve).step [_] [] .serve).step [_] [] .enter
  have parkedAgain := (flushed.step [_] [] .serve).step [_] [] .leave
  have again := (parkedAgain.step [_] [] .publish).step [_] [] .serve
  exact ⟨_, _, _, built, again, rfl, Interleaving.device_invariant built again⟩

end HidPointer
