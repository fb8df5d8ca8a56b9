import HidPointer.Proofs.Effect
import HidPointer.Proofs.Interleaving

/-!
# Coherent devices

What holds of a device at all times, whatever is asked of it: queue and mode agree, reports and
reads do not wait at the same time, and the parked reads are numbered in the order of their
arrival. A parked read has room for any report that can reach it before it is flushed.
-/

set_option autoImplicit false

namespace HidPointer

/-- A full buffer keeps its length, whichever report is lost. -/
theorem Overflow.length_receive (overflow : Overflow) {buffered : List Bytes}
    (holds : 0 < buffered.length) (report : Bytes) :
    (overflow.receive buffered report).length = buffered.length := by
  cases overflow with
  | latestWins | dropOldest =>
      simp only [receive, List.length_append, List.length_dropLast, List.length_drop,
        List.length_singleton]
      omega
  | dropNewest => rfl

theorem Config.validate_eq_ok_iff {config : Config} :
    config.validate = .ok () ↔ ∀ mode, 0 < (config.queue.get mode).capacity := by
  unfold validate
  cases found : Mode.all.find? fun mode => (config.queue.get mode).capacity == 0 with
  | none =>
      simp only [true_iff]
      intro mode
      have nonzero := List.find?_eq_none.mp found mode mode.mem_all
      exact Nat.pos_of_ne_zero (by simpa using nonzero)
  | some mode =>
      have zero : (config.queue.get mode).capacity = 0 := by
        simpa using List.find?_some found
      simp only [reduceCtorEq, false_iff]
      intro positive
      exact Nat.ne_of_gt (positive mode) zero

namespace Device

variable {κ : Type}

structure Coherent (device : Device κ) : Prop where
  policy : device.queue.policy = device.policies.get device.mode
  apart : device.queue.buffered = [] ∨ device.queue.parked = []
  lengths : ∀ report ∈ device.queue.buffered, report.length = device.mode.byteLength
  room : ∀ read ∈ device.queue.parked, device.mode.byteLength ≤ read.capacity
  ordered : device.queue.parked.Pairwise (·.id < ·.id)
  below : ∀ read ∈ device.queue.parked, read.id < device.nextId

/-- The oldest parked read has room for whatever is accepted. -/
theorem Coherent.room_for {device : Device κ} (coherent : device.Coherent) {request : Request κ}
    {bytes : Bytes} (accepts : device.Accepts request bytes) {read : ParkedRead κ}
    {rest : List (ParkedRead κ)} (parked : device.queue.parked = read :: rest) :
    ¬ read.capacity < bytes.length := by
  rw [accepts.length]
  exact Nat.not_lt.mpr (coherent.room read (by rw [parked]; exact List.mem_cons_self))

/-- Where every mode can buffer a report, the active one can. -/
theorem Coherent.capacity_pos {device : Device κ} (coherent : device.Coherent)
    (positive : ∀ mode, 0 < (device.policies.get mode).capacity) :
    0 < device.queue.policy.capacity := by
  rw [coherent.policy]
  exact positive device.mode

theorem coherent_create (attributes : Attributes) (initialMode : Mode) (policies : Policies) :
    (create attributes initialMode policies : Device κ).Coherent where
  policy := rfl
  apart := .inl rfl
  lengths := by simp [create]
  room := by simp [create]
  ordered := by simp [create]
  below := by simp [create]

/-- A configuration is accepted when every mode can buffer a report and the room for the buffer of
the first mode can be reserved. -/
theorem ofConfig_eq_ok_iff {config : Config} {device : Device κ} :
    ofConfig config = .ok device ↔
      (∀ mode, 0 < (config.queue.get mode).capacity) ∧
        (config.queue.get config.device.initialMode).Reservable ∧
        create config.device.attributes config.device.initialMode config.queue = device := by
  rw [← Config.validate_eq_ok_iff, ofConfig]
  cases config.validate with
  | error fault => simp [bind, Except.bind]
  | ok =>
      by_cases room : (config.queue.get config.device.initialMode).Reservable <;>
        simp [bind, Except.bind, pure, Except.pure, throw, throwThe, MonadExceptOf.throw, room]

namespace Effect

variable {device after : Device κ} {request : Request κ} {served : Served κ}

theorem policies (effect : Effect device request after served) :
    after.policies = device.policies := by
  cases effect <;> rfl

theorem attributes (effect : Effect device request after served) :
    after.attributes = device.attributes := by
  cases effect <;> rfl

private theorem mem_receive {overflow : Overflow} {buffered : List Bytes} {arrived report : Bytes}
    (member : report ∈ overflow.receive buffered arrived) :
    report ∈ buffered ∨ report = arrived := by
  cases overflow with
  | latestWins =>
      rcases List.mem_append.mp member with earlier | new
      · exact .inl ((List.dropLast_sublist buffered).subset earlier)
      · exact .inr (by simpa using new)
  | dropOldest =>
      rcases List.mem_append.mp member with earlier | new
      · exact .inl (List.mem_of_mem_drop earlier)
      · exact .inr (by simpa using new)
  | dropNewest => exact .inl member

theorem coherent (effect : Effect device request after served) (coherent : device.Coherent) :
    after.Coherent := by
  obtain ⟨policy, apart, lengths, room, ordered, below⟩ := coherent
  cases effect with
  | told | noSuchMode | unknownTag | noRoom | notParked =>
      exact ⟨policy, apart, lengths, room, ordered, below⟩
  | unencodable | invalid => exact ⟨policy, apart, lengths, room, ordered, below⟩
  | switched known =>
      exact ⟨rfl, .inl rfl, by simp, by simp, .nil, by simp⟩
  | delivered _ parked _ | tooSmall _ parked _ =>
      rw [parked] at apart room ordered below
      simp only [List.pairwise_cons, List.mem_cons, forall_eq_or_imp, reduceCtorEq, or_false]
        at apart room ordered below
      exact ⟨policy, .inl apart, lengths, room.2, ordered.2, below.2⟩
  | @buffered _ bytes accepts _ _ =>
      refine ⟨policy, .inr rfl, ?_, by simp, .nil, by simp⟩
      exact List.forall_mem_append.mpr ⟨lengths, List.forall_mem_singleton.mpr accepts.length⟩
  | @displaced _ bytes accepts _ _ _ =>
      refine ⟨policy, .inr rfl, ?_, by simp, .nil, by simp⟩
      intro report member
      rcases mem_receive member with earlier | new
      · exact lengths report earlier
      · rw [new]
        exact accepts.length
  | dropped accepts _ _ _ => exact ⟨policy, .inr rfl, lengths, by simp, .nil, by simp⟩
  | @ready _ _ report rest _ buffered =>
      rw [buffered] at apart lengths
      simp only [reduceCtorEq, false_or, List.mem_cons, forall_eq_or_imp] at apart lengths
      exact ⟨policy, .inr apart, lengths.2, room, ordered, below⟩
  | @parked capacity completion enough _ =>
      refine ⟨policy, .inl rfl, by simp, ?_, ?_, ?_⟩
      · exact List.forall_mem_append.mpr ⟨room, List.forall_mem_singleton.mpr enough⟩
      · refine List.pairwise_append.mpr ⟨ordered, List.pairwise_singleton .., ?_⟩
        intro earlier member new isNew
        rw [List.mem_singleton.mp isNew]
        exact below earlier member
      · intro read member
        rcases List.mem_append.mp member with earlier | new
        · exact Nat.lt_succ_of_lt (below read earlier)
        · rw [List.mem_singleton.mp new]
          exact Nat.lt_succ_self _
  | @canceled front back read parked _ =>
      rw [parked] at apart room ordered below
      have remains : (front ++ back).Sublist (front ++ read :: back) :=
        (List.sublist_cons_self read back).append_left front
      refine ⟨policy, .inl ?_, lengths, ?_, ordered.sublist remains, ?_⟩
      · simpa using apart
      · exact fun other member => room other (remains.subset member)
      · exact fun other member => below other (remains.subset member)

end Effect

end Device

namespace History

variable {ν : Type} {start now : Device (Completion ν)} {past : List (Deed ν)}

theorem policies (history : History start past now) : now.policies = start.policies :=
  (history.invariant (·.policies = start.policies) rfl fun device request same =>
    (device.serve_effect request).policies.trans same).1

theorem coherent (history : History start past now) (coherent : start.Coherent) :
    now.Coherent ∧ ∀ before request, Deed.served before request ∈ past → before.Coherent :=
  history.invariant Device.Coherent coherent fun device request kept =>
    (device.serve_effect request).coherent kept

theorem buffers (history : History start past now) (coherent : start.Coherent)
    (positive : ∀ mode, 0 < (start.policies.get mode).capacity) :
    0 < now.queue.policy.capacity := by
  refine (history.coherent coherent).1.capacity_pos ?_
  rw [history.policies]
  exact positive

end History

end HidPointer
