import HidPointer.Proofs.Course

/-!
# A larger buffer never hurts

How many reports and reads wait can be told without knowing the reports: what a request does to the
numbers of a device depends on these numbers, on the mode and on the capacities only
(`Device.Effect.level`). So devices with buffers of different sizes are compared by their levels.
What counts is the number of reports that are held, less the reads that wait for one. In this a
device with larger buffers never falls behind, and what it is ahead by the other one has lost
(`Level.Relieved`).
-/

set_option autoImplicit false

namespace HidPointer

/-- What a request comes down to where only numbers count. -/
inductive Demand where
  | nothing
  | report
  | read
  | switch (target : Mode)

def Demand.modeAfter (active : Mode) : Demand → Mode
  | .switch target => target
  | _ => active

namespace Request

variable {κ : Type}

/-- What the request comes down to in the given mode. Cancellations are left out: what becomes of
them depends on which reads are parked. -/
def demand (active : Mode) : Request κ → Demand
  | .setMode tag =>
      match Mode.ofTag? tag with
      | some target => .switch target
      | none => .nothing
  | .submit report =>
      match report.encode with
      | .ok bytes =>
          if report.mode = active ∧ bytes.length = active.byteLength then .report else .nothing
      | .error _ => .nothing
  | .submitRaw tag bytes =>
      match Mode.ofTag? tag with
      | some named =>
          if named = active ∧ bytes.length = active.byteLength then .report else .nothing
      | none => .nothing
  | .read capacity _ => if active.byteLength ≤ capacity then .read else .nothing
  | _ => .nothing

theorem Submits.demand_eq {request : Request κ} {mode : Mode} {bytes : Bytes}
    (submits : request.Submits mode bytes) (active : Mode) :
    request.demand active =
      if mode = active ∧ bytes.length = active.byteLength then .report else .nothing := by
  cases submits with
  | typed encoded => rw [demand, encoded]
  | raw known => rw [demand, known]

end Request

/-- The numbers of a device. -/
structure Level where
  mode : Mode
  buffered : Nat
  parked : Nat
  delivered : Nat
  overflowDrops : Nat

namespace Level

/-- `Becomes capacities level demand next`: what a demand makes of a level. -/
inductive Becomes (capacities : Mode → Nat) (level : Level) : Demand → Level → Prop where
  | nothing : Becomes capacities level .nothing level
  | delivered {others : Nat} (waits : level.parked = others + 1) :
      Becomes capacities level .report
        { level with parked := others, delivered := level.delivered + 1 }
  | buffered (idle : level.parked = 0) (room : level.buffered < capacities level.mode) :
      Becomes capacities level .report { level with buffered := level.buffered + 1 }
  | lost (idle : level.parked = 0) (full : capacities level.mode ≤ level.buffered) :
      Becomes capacities level .report { level with overflowDrops := level.overflowDrops + 1 }
  | answered {others : Nat} (holds : level.buffered = others + 1) :
      Becomes capacities level .read
        { level with buffered := others, delivered := level.delivered + 1 }
  | parked (empty : level.buffered = 0) :
      Becomes capacities level .read { level with parked := level.parked + 1 }
  | switched (target : Mode) :
      Becomes capacities level (.switch target)
        { level with mode := target, buffered := 0, parked := 0 }

def Apart (level : Level) : Prop :=
  level.buffered = 0 ∨ level.parked = 0

/-- The reports that are held, less the reads that wait for one. -/
def net (level : Level) : Int :=
  level.buffered - level.parked

/-- The reads that got a report or may still get one. -/
def reads (level : Level) : Nat :=
  level.delivered + level.parked

section Becomes

variable {capacities : Mode → Nat} {level next : Level} {demand : Demand}

theorem Becomes.mode (becomes : Becomes capacities level demand next) :
    next.mode = demand.modeAfter level.mode := by
  cases becomes <;> rfl

theorem Becomes.apart (becomes : Becomes capacities level demand next) (apart : level.Apart) :
    next.Apart := by
  cases becomes with
  | nothing | lost => exact apart
  | delivered waits =>
      rcases apart with empty | idle
      · exact .inl empty
      · rw [idle] at waits
        contradiction
  | buffered idle => exact .inr idle
  | answered holds =>
      rcases apart with empty | idle
      · rw [empty] at holds
        contradiction
      · exact .inr idle
  | parked empty => exact .inl empty
  | switched => exact .inl rfl

/-- A report counts, unless as many are held as there is room for. -/
theorem Becomes.net_report (becomes : Becomes capacities level .report next)
    (apart : level.Apart) :
    (level.net < capacities level.mode ∧ next.net = level.net + 1 ∧
        next.overflowDrops = level.overflowDrops) ∨
      (capacities level.mode ≤ level.net ∧ next.net = level.net ∧
        next.overflowDrops = level.overflowDrops + 1) := by
  unfold Apart at apart
  unfold net
  cases becomes with
  | delivered waits => exact .inl ⟨by omega, by simp only; omega, rfl⟩
  | buffered idle room => exact .inl ⟨by omega, by simp only; omega, rfl⟩
  | lost idle full => exact .inr ⟨by omega, rfl, rfl⟩

theorem Becomes.reads_report (becomes : Becomes capacities level .report next) :
    next.reads = level.reads := by
  unfold reads
  cases becomes with
  | delivered waits => simp only; omega
  | buffered | lost => rfl

theorem Becomes.net_read (becomes : Becomes capacities level .read next) :
    next.net = level.net - 1 ∧ next.overflowDrops = level.overflowDrops ∧
      next.reads = level.reads + 1 := by
  unfold net reads
  cases becomes with
  | answered holds => exact ⟨by simp only; omega, rfl, by simp only; omega⟩
  | parked => exact ⟨by simp only; omega, rfl, rfl⟩

end Becomes

/-- How the numbers of a device compare with those of one that has larger buffers. -/
structure Relieved (tight roomy : Level) : Prop where
  mode : roomy.mode = tight.mode
  tightApart : tight.Apart
  roomyApart : roomy.Apart
  ahead : tight.net ≤ roomy.net
  /-- What the one is ahead by, the other has lost. -/
  paid : roomy.overflowDrops + roomy.net ≤ tight.overflowDrops + tight.net
  reads : tight.reads ≤ roomy.reads

namespace Relieved

variable {tight roomy : Level}

theorem overflowDrops (relieved : Relieved tight roomy) :
    roomy.overflowDrops ≤ tight.overflowDrops := by
  have ahead := relieved.ahead
  have paid := relieved.paid
  omega

theorem parked (relieved : Relieved tight roomy) : roomy.parked ≤ tight.parked := by
  have apart := relieved.roomyApart
  have ahead := relieved.ahead
  unfold Apart at apart
  unfold net at ahead
  omega

theorem delivered (relieved : Relieved tight roomy) : tight.delivered ≤ roomy.delivered := by
  have parked := relieved.parked
  have reads := relieved.reads
  unfold Level.reads at reads
  omega

variable {small large : Mode → Nat} {tightNext roomyNext : Level}

theorem report (relieved : Relieved tight roomy) (larger : ∀ mode, small mode ≤ large mode)
    (tightBecomes : Becomes small tight .report tightNext)
    (roomyBecomes : Becomes large roomy .report roomyNext) : Relieved tightNext roomyNext := by
  have more := larger tight.mode
  have ahead := relieved.ahead
  have paid := relieved.paid
  have tightNet := tightBecomes.net_report relieved.tightApart
  have roomyNet := roomyBecomes.net_report relieved.roomyApart
  rw [relieved.mode] at roomyNet
  constructor
  case mode => rw [tightBecomes.mode, roomyBecomes.mode, relieved.mode]
  case tightApart => exact tightBecomes.apart relieved.tightApart
  case roomyApart => exact roomyBecomes.apart relieved.roomyApart
  -- If the report is lost on the roomy side only, more are held there than the tight side can hold.
  case ahead => omega
  case paid => omega
  case reads =>
    rw [tightBecomes.reads_report, roomyBecomes.reads_report]
    exact relieved.reads

theorem read (relieved : Relieved tight roomy) (tightBecomes : Becomes small tight .read tightNext)
    (roomyBecomes : Becomes large roomy .read roomyNext) : Relieved tightNext roomyNext := by
  have ahead := relieved.ahead
  have paid := relieved.paid
  obtain ⟨tightNet, tightDrops, tightReads⟩ := tightBecomes.net_read
  obtain ⟨roomyNet, roomyDrops, roomyReads⟩ := roomyBecomes.net_read
  constructor
  case mode => rw [tightBecomes.mode, roomyBecomes.mode, relieved.mode]
  case tightApart => exact tightBecomes.apart relieved.tightApart
  case roomyApart => exact roomyBecomes.apart relieved.roomyApart
  case ahead => omega
  case paid => omega
  case reads =>
    rw [tightReads, roomyReads]
    exact Nat.succ_le_succ relieved.reads

/-- A switch takes away what the roomy side is ahead by. -/
theorem switch (relieved : Relieved tight roomy) {target : Mode}
    (tightBecomes : Becomes small tight (.switch target) tightNext)
    (roomyBecomes : Becomes large roomy (.switch target) roomyNext) :
    Relieved tightNext roomyNext := by
  cases tightBecomes
  cases roomyBecomes
  constructor
  case mode => rfl
  case tightApart => exact .inl rfl
  case roomyApart => exact .inl rfl
  case ahead => exact Int.le_refl _
  case paid => exact Int.add_le_add_right (Int.ofNat_le.mpr relieved.overflowDrops) _
  case reads => exact relieved.delivered

theorem step (relieved : Relieved tight roomy) (larger : ∀ mode, small mode ≤ large mode)
    {demand : Demand} (tightBecomes : Becomes small tight demand tightNext)
    (roomyBecomes : Becomes large roomy demand roomyNext) : Relieved tightNext roomyNext := by
  cases demand with
  | nothing =>
      cases tightBecomes
      cases roomyBecomes
      exact relieved
  | report => exact relieved.report larger tightBecomes roomyBecomes
  | read => exact relieved.read tightBecomes roomyBecomes
  | switch => exact relieved.switch tightBecomes roomyBecomes

end Relieved

end Level

namespace Device

variable {κ : Type}

def capacities (device : Device κ) (mode : Mode) : Nat :=
  (device.policies.get mode).capacity

def level (device : Device κ) : Level where
  mode := device.mode
  buffered := device.queue.buffered.length
  parked := device.queue.parked.length
  delivered := device.queue.counters.delivered
  overflowDrops := device.queue.counters.overflowDrops

variable {device after : Device κ} {request : Request κ} {served : Served κ}

theorem Accepts.demand_eq {bytes : Bytes} (accepts : device.Accepts request bytes) :
    request.demand device.mode = .report := by
  rw [accepts.submits.demand_eq]
  exact if_pos ⟨rfl, accepts.length⟩

/-- The numbers after a request follow from those before it. -/
theorem Effect.level (effect : Effect device request after served) (coherent : device.Coherent)
    (positive : 0 < device.queue.policy.capacity) (kept : ∀ id, request ≠ .cancel id) :
    Level.Becomes device.capacities device.level (request.demand device.mode) after.level := by
  have capacity : device.capacities device.mode = device.queue.policy.capacity := by
    rw [capacities, coherent.policy]
  cases effect with
  | told tells => cases tells <;> exact .nothing
  | noSuchMode unknown | unknownTag unknown =>
      rw [Request.demand, unknown]
      exact .nothing
  | @switched _ mode known =>
      rw [Request.demand, known]
      exact .switched mode
  | unencodable refused =>
      rw [Request.demand, refused]
      exact .nothing
  | @invalid _ mode bytes _ submits refused =>
      have unfit : ¬ (mode = device.mode ∧ bytes.length = device.mode.byteLength) := by
        intro fits
        obtain ⟨rfl, length⟩ := fits
        have valid := ActiveMode.validate_eq_ok_iff.mpr ⟨rfl, length⟩
        cases valid.symm.trans refused
      rw [submits.demand_eq, if_neg unfit]
      exact .nothing
  | delivered accepts parked room =>
      rw [accepts.demand_eq]
      exact .delivered (congrArg List.length parked)
  | tooSmall accepts parked small => exact absurd small (coherent.room_for accepts parked)
  | buffered accepts parked room =>
      rw [← capacity] at room
      have idle : device.level.parked = 0 := congrArg List.length parked
      have becomes := Level.Becomes.buffered idle room
      rw [accepts.demand_eq]
      simpa only [Device.level, mode, queued, List.length_append, List.length_singleton, parked]
        using becomes
  | @displaced _ bytes accepts parked full =>
      have holds := Nat.lt_of_lt_of_le positive full
      have length := device.queue.policy.overflow.length_receive holds bytes
      rw [← capacity] at full
      have idle : device.level.parked = 0 := congrArg List.length parked
      have becomes := Level.Becomes.lost idle full
      rw [accepts.demand_eq]
      simpa only [Device.level, mode, queued, length, parked] using becomes
  | dropped accepts parked full =>
      rw [← capacity] at full
      have idle : device.level.parked = 0 := congrArg List.length parked
      have becomes := Level.Becomes.lost idle full
      rw [accepts.demand_eq]
      simpa only [Device.level, mode, queued, parked] using becomes
  | noRoom small =>
      rw [Request.demand, if_neg (Nat.not_le.mpr small)]
      exact .nothing
  | ready room buffered =>
      rw [Request.demand, if_pos room]
      exact .answered (congrArg List.length buffered)
  | parked room buffered =>
      have empty : device.level.buffered = 0 := congrArg List.length buffered
      have becomes := @Level.Becomes.parked device.capacities _ empty
      rw [Request.demand, if_pos room]
      simpa only [Device.level, mode, queued, List.length_append, List.length_singleton, buffered]
        using becomes
  | notParked | canceled => exact absurd rfl (kept _)

section Runs

variable {ν : Type} {device roomy : Device (Completion ν)}

theorem relieved_next (relieved : Level.Relieved device.level roomy.level)
    (larger : ∀ mode, device.capacities mode ≤ roomy.capacities mode)
    (operating : device.Operating) (roomyOperating : roomy.Operating) {request : Request Unit}
    (kept : ∀ id, request ≠ .cancel id) :
    Level.Relieved (device.next request).level (roomy.next request).level := by
  have stillKept : ∀ id, request.map (fun _ => (inert : Completion ν)) ≠ .cancel id := by
    intro id
    cases request with
    | cancel other => exact absurd rfl (kept other)
    | _ => exact nofun
  have becomes := (device.serve_effect (request.map fun _ => inert)).level operating.coherent
    operating.capacity_pos stillKept
  have roomyBecomes := (roomy.serve_effect (request.map fun _ => inert)).level
    roomyOperating.coherent roomyOperating.capacity_pos stillKept
  have sameMode : roomy.mode = device.mode := relieved.mode
  rw [sameMode] at roomyBecomes
  exact relieved.step larger becomes roomyBecomes

theorem capacities_next (device : Device (Completion ν)) (request : Request Unit) :
    (device.next request).capacities = device.capacities := by
  funext mode
  rw [capacities, Device.next, (device.serve_effect _).policies]
  rfl

theorem relieved_course (relieved : Level.Relieved device.level roomy.level)
    (larger : ∀ mode, device.capacities mode ≤ roomy.capacities mode)
    (operating : device.Operating) (roomyOperating : roomy.Operating)
    {requests : List (Request Unit)} (kept : ∀ id, .cancel id ∉ requests) :
    Level.Relieved (device.course requests).1.level (roomy.course requests).1.level := by
  induction requests generalizing device roomy with
  | nil => exact relieved
  | cons request requests ih =>
      rw [course_cons operating.muted, course_cons roomyOperating.muted]
      apply ih
      · apply relieved_next relieved larger operating roomyOperating
        intro id isCancel
        exact kept id (by simp [isCancel])
      · rw [capacities_next, capacities_next]
        exact larger
      · exact operating.next request
      · exact roomyOperating.next request
      · intro id member
        exact kept id (List.mem_cons_of_mem request member)

/-- Of two devices that start in the same mode, the one with the larger buffers is never the worse
for it, whatever the overflow policies are. That holds after each of the requests, as any number of
them may be taken. -/
theorem larger_buffers_never_hurt {config other : Config} (created : ofConfig config = .ok device)
    (roomyCreated : ofConfig other = .ok roomy)
    (sameMode : other.device.initialMode = config.device.initialMode)
    (larger : ∀ mode, (config.queue.get mode).capacity ≤ (other.queue.get mode).capacity)
    {requests : List (Request Unit)} (kept : ∀ id, .cancel id ∉ requests) :
    let queue := (device.course requests).1.queue
    let roomyQueue := (roomy.course requests).1.queue
    roomyQueue.counters.overflowDrops ≤ queue.counters.overflowDrops ∧
      queue.counters.delivered ≤ roomyQueue.counters.delivered ∧
      roomyQueue.parked.length ≤ queue.parked.length := by
  intro queue roomyQueue
  have operating := operating_of_config created
  have roomyOperating := operating_of_config roomyCreated
  obtain ⟨-, -, rfl⟩ := ofConfig_eq_ok_iff.mp created
  obtain ⟨-, -, rfl⟩ := ofConfig_eq_ok_iff.mp roomyCreated
  have initially : Level.Relieved
      (create config.device.attributes config.device.initialMode config.queue :
        Device (Completion ν)).level
      (create other.device.attributes other.device.initialMode other.queue :
        Device (Completion ν)).level :=
    ⟨sameMode, .inl rfl, .inl rfl, Int.le_refl _, Int.le_refl _, Nat.le_refl _⟩
  have relieved := relieved_course initially larger operating roomyOperating kept
  exact ⟨relieved.overflowDrops, relieved.delivered, relieved.parked⟩

/-- Two reports and then two reads arrive at a buffer for one and at one for two. -/
theorem larger_buffers_never_hurt_two_reads :
    let config := Config.default
    let other := { config with queue := { config.queue with mouse := ⟨2, .latestWins⟩ } }
    let device : Device (Completion Unit) :=
      create config.device.attributes config.device.initialMode config.queue
    let roomy : Device (Completion Unit) :=
      create other.device.attributes other.device.initialMode other.queue
    let requests : List (Request Unit) :=
      [.submitRaw 0 [1, 5, 5], .submitRaw 0 [0, 7, 7], .read 3 (), .read 8 ()]
    let queue := (device.course requests).1.queue
    let roomyQueue := (roomy.course requests).1.queue
    ofConfig config = .ok device ∧ ofConfig other = .ok roomy ∧
      (∀ mode, (config.queue.get mode).capacity ≤ (other.queue.get mode).capacity) ∧
      (∀ id, .cancel id ∉ requests) ∧ queue.parked.length = 1 ∧ roomyQueue.parked.length = 0 ∧
      roomyQueue.counters.overflowDrops ≤ queue.counters.overflowDrops ∧
      queue.counters.delivered ≤ roomyQueue.counters.delivered ∧
      roomyQueue.parked.length ≤ queue.parked.length := by
  intro config other device roomy requests queue roomyQueue
  have created : ofConfig config = .ok device := rfl
  have roomyCreated : ofConfig other = .ok roomy := rfl
  have larger : ∀ mode, (config.queue.get mode).capacity ≤ (other.queue.get mode).capacity := by
    intro mode
    cases mode <;> decide
  have kept : ∀ id, .cancel id ∉ requests := by
    intro id
    simp [requests]
  have final : queue = (requests.foldl next device).queue :=
    congrArg Device.queue (course_fst rfl requests)
  have roomyFinal : roomyQueue = (requests.foldl next roomy).queue :=
    congrArg Device.queue (course_fst rfl requests)
  refine ⟨created, roomyCreated, larger, kept, ?_, ?_,
    larger_buffers_never_hurt created roomyCreated rfl larger kept⟩
  · rw [final]
    rfl
  · rw [roomyFinal]
    rfl

end Runs

end Device

end HidPointer
