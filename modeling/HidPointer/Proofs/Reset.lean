import HidPointer.Proofs.Coherent
import HidPointer.Proofs.Flattening
import HidPointer.Proofs.Renumbering

/-!
# A mode switch is a full reset

Nothing of what a device has been through is left after a switch of the mode, except in how far its
numbers have come. From then on it acts as one that was just created in that mode, only that all its
numbers are ahead. So two devices with the same configuration cannot be told apart after a switch to
the same mode by what they do, whatever each went through before (`Interleaving.switch_resets`).

An activity that depends on the numbers themselves could tell the two apart. Therefore an activity
is displaced together with its device: it names a read by its place among the reads that were parked
since the switch, and finds numbers in the answers as they are counted from there.
-/

set_option autoImplicit false

namespace HidPointer

/-- How far the numbers of a device are ahead of those of another. -/
structure Offset where
  ids : Nat
  epochs : Nat
  counters : Counters

namespace Offset

def ahead (offset : Offset) : Renumbering where
  id := (· + offset.ids)
  epoch := (· + offset.epochs)
  counters := (·.add offset.counters)

def back (offset : Offset) : Renumbering where
  id := (· - offset.ids)
  epoch := (· - offset.epochs)
  counters := (·.sub offset.counters)

theorem back_undoes (offset : Offset) : offset.back.Undoes offset.ahead :=
  ⟨fun id => Nat.add_sub_cancel id _, fun epoch => Nat.add_sub_cancel epoch _,
    fun counters => counters.add_sub_cancel _⟩

theorem ahead_steady (offset : Offset) (first : Nat) : offset.ahead.Steady first :=
  ⟨Nat.add_right_cancel, fun id _ => Nat.add_right_comm id 1 _,
    fun epoch => Nat.add_right_comm epoch 1 _,
    fun counters more => counters.add_right_comm more _⟩

end Offset

variable {ν : Type}

mutual

/-- The same course of action on a device that is ahead. -/
def Activity.displaced (offset : Offset) : Activity ν → Activity ν
  | .done => .done
  | .note entry next => .note entry (next.displaced offset)
  | .issue request next gone =>
      .issue (displacedRequest offset request)
        (fun reply => (next (Reply.renumber offset.back reply)).displaced offset)
        (gone.displaced offset)

def displacedRequest (offset : Offset) : Request (Completion ν) → Request (Completion ν)
  | .read capacity completion => .read capacity fun result => (completion result).displaced offset
  | request => request.renumber offset.ahead

end

theorem displacedRequest_eq (offset : Offset) (request : Request (Completion ν)) :
    displacedRequest offset request =
      (request.map fun completion result => (completion result).displaced offset).renumber
        offset.ahead := by
  cases request <;> rfl

def Duty.displaced (offset : Offset) (duty : Duty (Completion ν)) : Duty (Completion ν) :=
  (duty.map fun completion result => (completion result).displaced offset).renumber offset.ahead

def Errand.displaced (offset : Offset) : Errand ν → Errand ν
  | .act activity => .act (activity.displaced offset)
  | .duty owed => .duty (owed.displaced offset)

section Displaced

variable (offset : Offset)

@[simp] theorem Errand.displaced_act (activity : Activity ν) :
    (Errand.act activity).displaced offset = .act (activity.displaced offset) := rfl

@[simp] theorem Errand.displaced_duty (owed : Duty (Completion ν)) :
    (Errand.duty owed).displaced offset = .duty (owed.displaced offset) := rfl

@[simp] theorem Duty.displaced_complete (read : ParkedRead (Completion ν))
    (result : ReadResult) :
    (Duty.complete read result).displaced offset =
      .complete ⟨read.id + offset.ids, read.capacity,
        fun result => (read.completion result).displaced offset⟩ result := rfl

@[simp] theorem Duty.displaced_publish (event : Event) :
    (Duty.publish event : Duty (Completion ν)).displaced offset =
      .publish (event.renumber offset.ahead) := rfl

end Displaced

namespace Device

/-- The device with all its numbers ahead. What waits, and in which order, is the same. -/
def displaced (offset : Offset) (device : Device (Completion ν)) : Device (Completion ν) :=
  (device.map fun completion result => (completion result).displaced offset).renumber
    offset.ahead

theorem serve_displaced (offset : Offset) (device : Device (Completion ν))
    (request : Request (Completion ν)) :
    ((device.displaced offset).serve (displacedRequest offset request)).1 =
        (device.serve request).1.displaced offset ∧
      ((device.displaced offset).serve (displacedRequest offset request)).2.reply =
        Reply.renumber offset.ahead (device.serve request).2.reply ∧
      ((device.displaced offset).serve (displacedRequest offset request)).2.duties =
        (device.serve request).2.duties.map (·.displaced offset) := by
  rw [displacedRequest_eq, displaced, serve_renumber (offset.ahead_steady _), serve_map]
  refine ⟨rfl, rfl, ?_⟩
  simp only [Served.renumber, Served.map, List.map_map]
  rfl

/-- On a device that is ahead, everything happens as it does on the other one. -/
theorem perform_displaced (offset : Offset) (device : Device (Completion ν))
    (errands : List (Errand ν)) :
    (device.displaced offset).perform (errands.map (·.displaced offset)) =
      ((device.perform errands).1.displaced offset,
        (device.perform errands).2.map (·.renumber offset.ahead)) := by
  induction device, errands using Device.perform.induct with
  | case1 device => simp only [List.map_nil, perform]
  | case2 device errands ih =>
      simp only [List.map_cons, Errand.displaced_act, Activity.displaced, perform]
      exact ih
  | case3 device entry next errands _ _ _ ih =>
      simp only [List.map_cons, Errand.displaced_act, Activity.displaced, perform] at ih ⊢
      rw [ih]
      rfl
  | case4 device request next gone errands =>
      rename_i ih
      obtain ⟨after, reply, duties⟩ := serve_displaced offset device request
      have moment : (displacedRequest offset request).map (fun _ => ()) =
          (request.map fun _ => ()).renumber offset.ahead := by
        rw [displacedRequest_eq, Request.map_renumber, Request.map_map]
      have dutiesSame : ((device.serve request).2.duties.map (·.displaced offset)).map .duty =
          ((device.serve request).2.duties.map Errand.duty).map (·.displaced offset) := by
        simp only [List.map_map, Function.comp_def, Errand.displaced_duty]
      simp only [List.map_cons, List.map_append, Errand.displaced_act] at ih
      simp only [List.map_cons, Errand.displaced_act, Activity.displaced, perform]
      rw [after, reply, duties, Reply.renumber_back offset.back_undoes, moment, dutiesSame, ih]
      rfl
  | case5 device read result errands _ _ _ ih =>
      simp only [List.map_cons, Errand.displaced_act] at ih
      simp only [List.map_cons, Errand.displaced_duty, Duty.displaced_complete, perform]
      rw [ih]
      rfl
  | case6 device event errands _ _ _ ih =>
      simp only [List.map_cons, Errand.displaced_duty, Duty.displaced_publish, perform]
      rw [ih]
      rfl

/-- How far a device is ahead of a new one when its mode has been switched. -/
def resetOffset (device : Device (Completion ν)) : Offset where
  ids := device.nextId - 1
  epochs := device.active.epoch + 1
  counters :=
    { device.queue.counters with
      reconfigured := device.queue.counters.reconfigured + device.queue.parked.length }

/-- The switch leaves nothing but the numbers. -/
theorem serve_setMode (device : Device (Completion ν)) (numbered : 1 ≤ device.nextId)
    {tag : UInt8} {mode : Mode} (known : Mode.ofTag? tag = some mode) :
    (device.serve (.setMode tag)).1 =
      (create device.attributes mode device.policies).displaced device.resetOffset := by
  rw [(Effect.switched known).serve_eq]
  simp only [displaced, Device.renumber, Device.map, ReportQueue.map, create, ActiveMode.initial,
    Offset.ahead, resetOffset, Counters.add, List.map_nil, Nat.zero_add]
  rw [Nat.add_sub_cancel' numbered]

/-- Where the parked reads have completions that do nothing, dispatching a switch does no more than
the switch. -/
theorem dispatch_setMode {device : Device (Completion ν)} (numbered : 1 ≤ device.nextId)
    (quiet : ∀ read ∈ device.queue.parked, read.completion = inert)
    {tag : UInt8} {mode : Mode} (known : Mode.ofTag? tag = some mode) :
    (device.dispatch (.setMode tag)).1 =
        (create device.attributes mode device.policies).displaced device.resetOffset ∧
      (device.dispatch (.setMode tag)).2.1 =
        .ok (.modeSet ⟨device.mode, mode, device.resetOffset.epochs⟩) := by
  obtain ⟨_, dispatched⟩ := dispatch_of_muted (muted_eq_self quiet) (.setMode tag : Request Unit)
  rw [Request.map] at dispatched
  rw [dispatched]
  refine ⟨serve_setMode device numbered known, ?_⟩
  rw [(Effect.switched known).serve_eq]
  rfl

end Device

theorem History.settings {start now : Device (Completion ν)} {past : List (Deed ν)}
    (history : History start past now) (numbered : 1 ≤ start.nextId) :
    now.attributes = start.attributes ∧ now.policies = start.policies ∧ 1 ≤ now.nextId := by
  refine (history.invariant (fun device => device.attributes = start.attributes ∧
    device.policies = start.policies ∧ 1 ≤ device.nextId) ⟨rfl, rfl, numbered⟩ ?_).1
  rintro device request ⟨attributes, policies, nextId⟩
  have effect := device.serve_effect request
  exact ⟨effect.attributes.trans attributes, effect.policies.trans policies,
    Nat.le_trans nextId effect.nextId_le⟩

/-- What comes of switching both devices by the tag and then going the same way with both: both do
what a device does that was created in the mode, each under its own numbers. The answers to the
switch differ in the mode that was left and in the epoch. -/
structure ResetsAlike (config : Config) (tag : UInt8) (mode : Mode)
    (now other : Device (Completion ν)) : Prop where
  reply : (now.dispatch (.setMode tag)).2.1 =
    .ok (.modeSet ⟨now.mode, mode, now.resetOffset.epochs⟩)
  otherReply : (other.dispatch (.setMode tag)).2.1 =
    .ok (.modeSet ⟨other.mode, mode, other.resetOffset.epochs⟩)
  alike : ∀ activity : Activity ν,
    let (final, moments) := (Device.create config.device.attributes mode config.queue).perform
      [.act activity]
    (now.dispatch (.setMode tag)).1.perform [.act (activity.displaced now.resetOffset)] =
        (final.displaced now.resetOffset, moments.map (·.renumber now.resetOffset.ahead)) ∧
      (other.dispatch (.setMode tag)).1.perform [.act (activity.displaced other.resetOffset)] =
        (final.displaced other.resetOffset, moments.map (·.renumber other.resetOffset.ahead))

/-- A mode switch is a full reset. -/
theorem Interleaving.switch_resets {config : Config} {device now other : Device (Completion ν)}
    {activities otherActivities : List (Activity ν)} {past otherPast : List (Deed ν)}
    {threads otherThreads : List (List (Errand ν))}
    (built : Device.ofConfig config = .ok device)
    (run : Interleaving device activities past now threads)
    (otherRun : Interleaving device otherActivities otherPast other otherThreads)
    (quiet : ∀ read ∈ now.queue.parked, read.completion = inert)
    (otherQuiet : ∀ read ∈ other.queue.parked, read.completion = inert)
    {tag : UInt8} {mode : Mode} (known : Mode.ofTag? tag = some mode) :
    ResetsAlike config tag mode now other := by
  obtain ⟨_, _, rfl⟩ := Device.ofConfig_eq_ok_iff.mp built
  obtain ⟨attributes, policies, numbered⟩ := run.history.settings (Nat.le_refl 1)
  obtain ⟨otherAttributes, otherPolicies, otherNumbered⟩ :=
    otherRun.history.settings (Nat.le_refl 1)
  obtain ⟨reset, reply⟩ := Device.dispatch_setMode numbered quiet known
  obtain ⟨otherReset, otherReply⟩ := Device.dispatch_setMode otherNumbered otherQuiet known
  refine ⟨reply, otherReply, ?_⟩
  intro activity
  have alike (offset : Offset) :=
    (Device.create config.device.attributes mode config.queue).perform_displaced offset
      [.act activity]
  rw [reset, otherReset, attributes, policies, otherAttributes, otherPolicies]
  exact ⟨alike now.resetOffset, alike other.resetOffset⟩

/-- One device is new. The other has been in another mode, and a second read is parked. -/
theorem Interleaving.switch_resets_second_epoch :
    let device : Device (Completion Unit) :=
      .create DeviceConfig.default.attributes .mouse .default
    let reader : Activity Unit :=
      .issue (.read 3 inert)
        (fun _ => .issue (.setMode 1) (fun _ => .issue (.read 5 inert) (fun _ => .done) .done)
          .done) .done
    ∃ past other threads, Device.ofConfig .default = .ok device ∧
      Interleaving device [reader] past other threads ∧
      other.queue.parked.map (·.id) = [2] ∧ other.active.epoch = 1 ∧
      ResetsAlike .default 2 .multiTouch device other := by
  intro device reader
  have built : Device.ofConfig .default = .ok device := rfl
  have untouched : Interleaving device [] [] device [] := .begin
  have start : Interleaving device [reader] [] device [[.act reader]] := .begin
  have switched := (start.step [] [] .serve).step [] [] .serve
  have parked := (((switched.step [] [] .enter).step [] [] .leave).step [] [] .publish).step
    [] [] .serve
  refine ⟨_, _, _, built, parked, rfl, rfl, ?_⟩
  refine Interleaving.switch_resets built untouched parked ?_ ?_ rfl
  · intro read member
    cases member
  · intro read member
    rw [List.mem_singleton.mp member]

end HidPointer
