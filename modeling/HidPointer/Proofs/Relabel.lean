import HidPointer.Device

/-!
# Completions are opaque

A device keeps completions and hands them back; it never looks into one. So exchanging the
completions commutes with every step (`Device.serve_map`).
-/

set_option autoImplicit false

namespace HidPointer

variable {κ α : Type}

def ParkedRead.map (change : κ → α) (read : ParkedRead κ) : ParkedRead α :=
  ⟨read.id, read.capacity, change read.completion⟩

@[simp] theorem ParkedRead.map_id (change : κ → α) (read : ParkedRead κ) :
    (read.map change).id = read.id := rfl

@[simp] theorem ParkedRead.map_capacity (change : κ → α) (read : ParkedRead κ) :
    (read.map change).capacity = read.capacity := rfl

@[simp] theorem ParkedRead.map_completion (change : κ → α) (read : ParkedRead κ) :
    (read.map change).completion = change read.completion := rfl

def ReportQueue.map (change : κ → α) (queue : ReportQueue κ) : ReportQueue α :=
  ⟨queue.policy, queue.buffered, queue.parked.map (·.map change), queue.counters⟩

def PushOutcome.map (change : κ → α) : PushOutcome κ → PushOutcome α
  | resolved read result => .resolved (read.map change) result
  | buffered => .buffered
  | bufferedWithDrop => .bufferedWithDrop
  | dropped => .dropped

def Duty.map (change : κ → α) : Duty κ → Duty α
  | complete read result => .complete (read.map change) result
  | publish event => .publish event

@[simp] theorem Duty.map_complete (change : κ → α) (read : ParkedRead κ) (result : ReadResult) :
    (Duty.complete read result).map change = .complete (read.map change) result := rfl

@[simp] theorem Duty.map_publish (change : κ → α) (event : Event) :
    (Duty.publish event : Duty κ).map change = .publish event := rfl

def Served.map (change : κ → α) (served : Served κ) : Served α :=
  ⟨served.reply, served.duties.map (·.map change)⟩

/-- The same device, with exchanged completions of its parked reads. -/
def Device.map (change : κ → α) (device : Device κ) : Device α :=
  ⟨device.attributes, device.policies, device.active, device.queue.map change, device.nextId⟩

theorem Request.map_map {β : Type} (change : κ → α) (again : α → β) (request : Request κ) :
    (request.map change).map again = request.map (again ∘ change) := by
  cases request <;> rfl

namespace ReportQueue

variable (change : κ → α) (queue : ReportQueue κ)

theorem push_map (report : Bytes) :
    (queue.map change).push report =
      ((queue.push report).1.map change, (queue.push report).2.map change) := by
  unfold push
  cases parked : queue.parked with
  | cons read rest =>
      by_cases small : read.capacity < report.length <;>
        simp [map, parked, small, PushOutcome.map]
  | nil =>
      by_cases room : queue.buffered.length < queue.policy.capacity
      · simp [map, parked, room, PushOutcome.map]
      · cases overflow : queue.policy.overflow <;>
          simp [map, parked, room, overflow, PushOutcome.map]

theorem pop_map :
    (queue.map change).pop = queue.pop.map fun popped => (popped.1.map change, popped.2) := by
  cases buffered : queue.buffered <;> simp [pop, map, buffered]

theorem park_map (read : ParkedRead κ) :
    (queue.map change).park (read.map change) = (queue.park read).map change := by
  simp [park, map]

theorem cancel_map (id : Nat) :
    (queue.map change).cancel id =
      (queue.cancel id).map fun canceled => (canceled.1.map change, canceled.2.map change) := by
  have sameTest : ((·.id == id) ∘ ParkedRead.map change) = (·.id == id) := rfl
  cases found : queue.parked.find? (·.id == id) <;>
    simp [cancel, map, List.find?_map, List.eraseP_map, sameTest, found]

theorem flush_map (policy : Policy) :
    (queue.map change).flush policy =
      ((queue.flush policy).1.map change,
        ⟨(queue.flush policy).2.reads.map (·.map change), (queue.flush policy).2.discarded⟩) := by
  simp [flush, map]

end ReportQueue

namespace Device

variable (change : κ → α) (device : Device κ)

@[simp] theorem map_mode : (device.map change).mode = device.mode := rfl

private theorem switchMode_map (mode : Mode) :
    (device.map change).switchMode mode =
      ((device.switchMode mode).1.map change, (device.switchMode mode).2.map change) := by
  simp [switchMode, map, ReportQueue.flush_map, Served.map, Duty.map, Function.comp_def]

private theorem refuse_map (fault : ReportFault) :
    (device.map change).refuse fault =
      ((device.refuse fault).1.map change, (device.refuse fault).2.map change) := rfl

private theorem submitBytes_map (mode : Mode) (bytes : Bytes) :
    (device.map change).submitBytes mode bytes =
      ((device.submitBytes mode bytes).1.map change,
        (device.submitBytes mode bytes).2.map change) := by
  unfold submitBytes
  have sameActive : (device.map change).active = device.active := rfl
  have sameQueue : (device.map change).queue = device.queue.map change := rfl
  rw [sameActive, sameQueue]
  cases device.active.validate mode bytes.length with
  | error fault => exact refuse_map change device fault
  | ok =>
      rw [ReportQueue.push_map]
      obtain ⟨queue, outcome⟩ := device.queue.push bytes
      cases outcome with
      | resolved read result => cases result <;> rfl
      | buffered | bufferedWithDrop | dropped => rfl

private theorem beginRead_map (capacity : Nat) (completion : κ) :
    (device.map change).beginRead capacity (change completion) =
      ((device.beginRead capacity completion).1.map change,
        (device.beginRead capacity completion).2.map change) := by
  have sameQueue : (device.map change).queue = device.queue.map change := rfl
  unfold beginRead
  rw [sameQueue, ReportQueue.pop_map]
  by_cases small : capacity < device.mode.byteLength
  · simp [small, Served.map]
  · simp only [map_mode, small, if_false]
    cases device.queue.pop with
    | none =>
        have parked := device.queue.park_map change ⟨device.nextId, capacity, completion⟩
        simp [map, ← parked, ParkedRead.map, Served.map]
    | some popped => rfl

private theorem cancelRead_map (id : Nat) :
    (device.map change).cancelRead id =
      ((device.cancelRead id).1.map change, (device.cancelRead id).2.map change) := by
  have sameQueue : (device.map change).queue = device.queue.map change := rfl
  unfold cancelRead
  rw [sameQueue, ReportQueue.cancel_map]
  cases device.queue.cancel id <;> rfl

/-- A device does the same with other completions, and hands these back instead. -/
theorem serve_map (request : Request κ) :
    (device.map change).serve (request.map change) =
      ((device.serve request).1.map change, (device.serve request).2.map change) := by
  cases request with
  | attributes | classDescriptor | reportDescriptor | mode | counters => rfl
  | setMode tag =>
      simp only [serve, Request.map]
      cases Mode.ofTag tag with
      | error error => rfl
      | ok mode => exact switchMode_map change device mode
  | submit report =>
      simp only [serve, Request.map]
      cases report.encode with
      | error fault => rfl
      | ok bytes => exact submitBytes_map change device report.mode bytes
  | submitRaw tag bytes =>
      simp only [serve, Request.map]
      cases Mode.ofTag? tag with
      | none => rfl
      | some mode => exact submitBytes_map change device mode bytes
  | read capacity completion => exact beginRead_map change device capacity completion
  | cancel id => exact cancelRead_map change device id

end Device

end HidPointer
