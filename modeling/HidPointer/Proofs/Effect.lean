import HidPointer.Device

/-!
# What a request does

`Device.Effect` lists all that a request can do to a device, with the circumstances of each case.
`Device.serve_effect` and its converse `Device.Effect.serve_eq` are the only places where the
operations of device and queue are taken apart; what a step preserves is proved by cases on the
effect.
-/

set_option autoImplicit false

namespace HidPointer

/-- The request submits these bytes as a report of this mode. -/
inductive Request.Submits {κ : Type} : Request κ → Mode → Bytes → Prop where
  | typed {report : Report} {bytes : Bytes} (encoded : report.encode = .ok bytes) :
      Submits (.submit report) report.mode bytes
  | raw {tag : UInt8} {mode : Mode} {bytes : Bytes} (known : Mode.ofTag? tag = some mode) :
      Submits (.submitRaw tag bytes) mode bytes

/-- A report is let through when it was formed for the active mode and has its length. -/
theorem ActiveMode.validate_eq_ok_iff {active : ActiveMode} {mode : Mode} {length : Nat} :
    active.validate mode length = .ok () ↔ mode = active.mode ∧ length = mode.byteLength := by
  unfold validate
  by_cases sameMode : mode = active.mode <;> by_cases sameLength : length = mode.byteLength <;>
    simp [sameMode, sameLength]

namespace Device

variable {κ : Type}

/-- The request only asks for something, and this is the answer. -/
inductive Tells (device : Device κ) : Request κ → Response → Prop where
  | attributes : Tells device .attributes (.attributes device.attributes)
  | classDescriptor :
      Tells device .classDescriptor (.classDescriptor (Descriptor.classOfMode device.mode))
  | reportDescriptor :
      Tells device .reportDescriptor (.reportDescriptor device.active.descriptor)
  | mode : Tells device .mode (.mode device.mode)
  | counters : Tells device .counters (.counters device.queue.counters)

/-- The bytes of a submission form a report of the active mode. -/
structure Accepts (device : Device κ) (request : Request κ) (bytes : Bytes) : Prop where
  submits : request.Submits device.mode bytes
  length : bytes.length = device.mode.byteLength

/-- The device with another queue and other counts. The policy stays. -/
def queued (device : Device κ) (buffered : List Bytes) (parked : List (ParkedRead κ))
    (counters : Counters) : Device κ :=
  { device with queue := ⟨device.queue.policy, buffered, parked, counters⟩ }

section Queued

variable (device : Device κ) (buffered : List Bytes) (parked : List (ParkedRead κ))
  (counters : Counters)

@[simp] theorem queued_queue :
    (device.queued buffered parked counters).queue =
      ⟨device.queue.policy, buffered, parked, counters⟩ := rfl

@[simp] theorem queued_active :
    (device.queued buffered parked counters).active = device.active := rfl

@[simp] theorem queued_mode :
    (device.queued buffered parked counters).mode = device.mode := rfl

@[simp] theorem queued_policies :
    (device.queued buffered parked counters).policies = device.policies := rfl

@[simp] theorem queued_nextId :
    (device.queued buffered parked counters).nextId = device.nextId := rfl

end Queued

/-- What a request does to a device: the device after it, the answer and the duties. -/
inductive Effect (device : Device κ) : Request κ → Device κ → Served κ → Prop where
  | told {request : Request κ} {response : Response} (tells : device.Tells request response) :
      Effect device request device { reply := .ok response }
  | noSuchMode {tag : UInt8} (unknown : Mode.ofTag? tag = none) :
      Effect device (.setMode tag) device { reply := .error (.invalidMode (.unknownTag tag)) }
  | switched {tag : UInt8} {mode : Mode} (known : Mode.ofTag? tag = some mode) :
      Effect device (.setMode tag)
        { device with
          active := ⟨mode, Descriptor.ofMode mode, device.active.epoch + 1⟩
          queue := ⟨device.policies.get mode, [], [],
            { device.queue.counters with
              reconfigured :=
                device.queue.counters.reconfigured + device.queue.parked.length }⟩ }
        { reply := .ok (.modeSet ⟨device.mode, mode, device.active.epoch + 1⟩)
          duties :=
            device.queue.parked.map (.complete · (.error .reconfigured)) ++
              [.publish (.modeChanged ⟨device.mode, mode, device.active.epoch + 1⟩
                device.queue.parked.length device.queue.buffered.length)] }
  | unknownTag {tag : UInt8} {bytes : Bytes} (unknown : Mode.ofTag? tag = none) :
      Effect device (.submitRaw tag bytes) device
        { reply := .error (.validation (.unknownTag tag)) }
  | unencodable {report : Report} {fault : ReportFault} (refused : report.encode = .error fault) :
      Effect device (.submit report)
        (device.queued device.queue.buffered device.queue.parked
          { device.queue.counters with rejected := device.queue.counters.rejected + 1 })
        { reply := .error (.validation fault) }
  | invalid {request : Request κ} {mode : Mode} {bytes : Bytes} {fault : ReportFault}
      (submits : request.Submits mode bytes)
      (refused : device.active.validate mode bytes.length = .error fault) :
      Effect device request
        (device.queued device.queue.buffered device.queue.parked
          { device.queue.counters with rejected := device.queue.counters.rejected + 1 })
        { reply := .error (.validation fault) }
  | delivered {request : Request κ} {bytes : Bytes} {read : ParkedRead κ}
      {rest : List (ParkedRead κ)} (accepts : device.Accepts request bytes)
      (parked : device.queue.parked = read :: rest) (room : bytes.length ≤ read.capacity) :
      Effect device request
        (device.queued device.queue.buffered rest
          { device.queue.counters with
            accepted := device.queue.counters.accepted + 1
            delivered := device.queue.counters.delivered + 1 })
        { reply := .ok (.accepted (.delivered read.id)), duties := [.complete read (.ok bytes)] }
  | tooSmall {request : Request κ} {bytes : Bytes} {read : ParkedRead κ}
      {rest : List (ParkedRead κ)} (accepts : device.Accepts request bytes)
      (parked : device.queue.parked = read :: rest) (small : read.capacity < bytes.length) :
      Effect device request
        (device.queued device.queue.buffered rest
          { device.queue.counters with
            accepted := device.queue.counters.accepted + 1
            tooSmallDrops := device.queue.counters.tooSmallDrops + 1 })
        { reply := .ok (.accepted (.delivered read.id))
          duties :=
            [.publish (.reportDropped device.mode .bufferTooSmall),
              .complete read (.error (.bufferTooSmall bytes.length read.capacity))] }
  | buffered {request : Request κ} {bytes : Bytes} (accepts : device.Accepts request bytes)
      (parked : device.queue.parked = [])
      (room : device.queue.buffered.length < device.queue.policy.capacity) :
      Effect device request
        (device.queued (device.queue.buffered ++ [bytes]) []
          { device.queue.counters with
            accepted := device.queue.counters.accepted + 1
            buffered := device.queue.counters.buffered + 1 })
        { reply := .ok (.accepted .buffered) }
  | displaced {request : Request κ} {bytes : Bytes} (accepts : device.Accepts request bytes)
      (parked : device.queue.parked = [])
      (full : device.queue.policy.capacity ≤ device.queue.buffered.length)
      (displaces : device.queue.policy.overflow ≠ .dropNewest) :
      Effect device request
        (device.queued (device.queue.policy.overflow.receive device.queue.buffered bytes) []
          { device.queue.counters with
            accepted := device.queue.counters.accepted + 1
            overflowDrops := device.queue.counters.overflowDrops + 1
            buffered := device.queue.counters.buffered + 1 })
        { reply := .ok (.accepted .bufferedWithDrop)
          duties := [.publish (.reportDropped device.mode .overflow)] }
  | dropped {request : Request κ} {bytes : Bytes} (accepts : device.Accepts request bytes)
      (parked : device.queue.parked = [])
      (full : device.queue.policy.capacity ≤ device.queue.buffered.length)
      (drops : device.queue.policy.overflow = .dropNewest) :
      Effect device request
        (device.queued device.queue.buffered []
          { device.queue.counters with
            accepted := device.queue.counters.accepted + 1
            overflowDrops := device.queue.counters.overflowDrops + 1 })
        { reply := .ok (.accepted .dropped)
          duties := [.publish (.reportDropped device.mode .overflow)] }
  | noRoom {capacity : Nat} {completion : κ} (small : capacity < device.mode.byteLength) :
      Effect device (.read capacity completion) device
        { reply := .error (.bufferTooSmall device.mode.byteLength capacity) }
  | ready {capacity : Nat} {completion : κ} {report : Bytes} {rest : List Bytes}
      (room : device.mode.byteLength ≤ capacity)
      (buffered : device.queue.buffered = report :: rest) :
      Effect device (.read capacity completion)
        (device.queued rest device.queue.parked
          { device.queue.counters with delivered := device.queue.counters.delivered + 1 })
        { reply := .ok (.ready report) }
  | parked {capacity : Nat} {completion : κ} (room : device.mode.byteLength ≤ capacity)
      (buffered : device.queue.buffered = []) :
      Effect device (.read capacity completion)
        { device.queued [] (device.queue.parked ++ [⟨device.nextId, capacity, completion⟩])
            device.queue.counters with
          nextId := device.nextId + 1 }
        { reply := .ok (.pending device.nextId) }
  | notParked {id : Nat} (absent : ∀ read ∈ device.queue.parked, read.id ≠ id) :
      Effect device (.cancel id) device { reply := .ok (.canceled false) }
  | canceled {front back : List (ParkedRead κ)} {read : ParkedRead κ}
      (parked : device.queue.parked = front ++ read :: back)
      (first : ∀ other ∈ front, other.id ≠ read.id) :
      Effect device (.cancel read.id)
        (device.queued device.queue.buffered (front ++ back)
          { device.queue.counters with canceled := device.queue.counters.canceled + 1 })
        { reply := .ok (.canceled true)
          duties := [.complete read (.error .canceled), .publish (.readCanceled read.id)] }

private theorem submitBytes_effect (device : Device κ) {request : Request κ} {mode : Mode}
    {bytes : Bytes} (submits : request.Submits mode bytes) :
    Effect device request (device.submitBytes mode bytes).1 (device.submitBytes mode bytes).2 := by
  unfold submitBytes
  cases checked : device.active.validate mode bytes.length with
  | error fault => exact .invalid submits checked
  | ok =>
      obtain ⟨rfl, length⟩ := ActiveMode.validate_eq_ok_iff.mp checked
      have accepts : device.Accepts request bytes := ⟨submits, length⟩
      simp only [ReportQueue.push]
      cases parked : device.queue.parked with
      | cons read rest =>
          by_cases small : read.capacity < bytes.length
          · simp only [small, if_true]
            exact .tooSmall accepts parked small
          · simp only [small, if_false]
            exact .delivered accepts parked (by omega)
      | nil =>
          by_cases room : device.queue.buffered.length < device.queue.policy.capacity
          · simp only [room, if_true]
            exact .buffered accepts parked room
          · have full : device.queue.policy.capacity ≤ device.queue.buffered.length := by omega
            simp only [room, if_false]
            cases overflow : device.queue.policy.overflow with
            | dropNewest => exact .dropped accepts parked full overflow
            | latestWins =>
                have effect := Effect.displaced accepts parked full (by simp [overflow])
                rw [overflow] at effect
                exact effect
            | dropOldest =>
                have effect := Effect.displaced accepts parked full (by simp [overflow])
                rw [overflow] at effect
                exact effect

private theorem beginRead_effect (device : Device κ) (capacity : Nat) (completion : κ) :
    Effect device (.read capacity completion) (device.beginRead capacity completion).1
      (device.beginRead capacity completion).2 := by
  unfold beginRead
  by_cases small : capacity < device.mode.byteLength
  · simp only [small, if_true]
    exact .noRoom small
  · simp only [small, if_false, ReportQueue.pop]
    cases buffered : device.queue.buffered with
    | nil =>
        have room : device.mode.byteLength ≤ capacity := by omega
        have effect := @Effect.parked _ _ _ completion room buffered
        rw [← buffered] at effect
        exact effect
    | cons report rest => exact .ready (by omega) buffered

private theorem cancelRead_effect (device : Device κ) (id : Nat) :
    Effect device (.cancel id) (device.cancelRead id).1 (device.cancelRead id).2 := by
  unfold cancelRead ReportQueue.cancel
  cases found : device.queue.parked.find? (·.id == id) with
  | none => exact .notParked (by simpa using found)
  | some read =>
      obtain ⟨same, front, back, parked, earlier⟩ := List.find?_eq_some_iff_append.mp found
      have same : read.id = id := by simpa using same
      subst same
      have first : ∀ other ∈ front, other.id ≠ read.id := by simpa using earlier
      have removed : device.queue.parked.eraseP (·.id == read.id) = front ++ back := by
        rw [parked, List.eraseP_append_right _ (by simpa using first)]
        simp
      simp only [removed]
      exact .canceled parked first

/-- Every request has one of the effects. -/
theorem serve_effect (device : Device κ) (request : Request κ) :
    Effect device request (device.serve request).1 (device.serve request).2 := by
  cases request with
  | attributes => exact .told .attributes
  | classDescriptor => exact .told .classDescriptor
  | reportDescriptor => exact .told .reportDescriptor
  | mode => exact .told .mode
  | counters => exact .told .counters
  | setMode tag =>
      cases known : Mode.ofTag? tag with
      | none =>
          simp only [serve, Mode.ofTag, known]
          exact .noSuchMode known
      | some mode =>
          simp only [serve, Mode.ofTag, known]
          exact .switched known
  | submit report =>
      cases encoded : report.encode with
      | error fault =>
          simp only [serve, encoded]
          exact .unencodable encoded
      | ok bytes =>
          simp only [serve, encoded]
          exact submitBytes_effect device (.typed encoded)
  | submitRaw tag bytes =>
      cases known : Mode.ofTag? tag with
      | none =>
          simp only [serve, known]
          exact .unknownTag known
      | some mode =>
          simp only [serve, known]
          exact submitBytes_effect device (.raw known)
  | read capacity completion => exact beginRead_effect device capacity completion
  | cancel id => exact cancelRead_effect device id

theorem Effect.of_eq {device after later : Device κ} {request : Request κ} {served : Served κ}
    (effect : Effect device request after served) (same : after = later) :
    Effect device request later served := by
  rw [← same]
  exact effect

theorem Accepts.submits_here {device : Device κ} {request : Request κ} {bytes : Bytes}
    (accepts : device.Accepts request bytes) :
    device.active.validate device.mode bytes.length = .ok () ∧
      device.serve request = device.submitBytes device.mode bytes := by
  obtain ⟨submits, length⟩ := accepts
  refine ⟨ActiveMode.validate_eq_ok_iff.mpr ⟨rfl, length⟩, ?_⟩
  generalize device.mode = mode at submits
  cases submits with
  | typed encoded => simp only [serve, encoded]
  | raw known => simp only [serve, known]

/-- The effects exclude each other: what is one of them is what is served. -/
theorem Effect.serve_eq {device after : Device κ} {request : Request κ} {served : Served κ}
    (effect : Effect device request after served) : device.serve request = (after, served) := by
  cases effect with
  | told tells => cases tells <;> rfl
  | noSuchMode unknown => simp only [serve, Mode.ofTag, unknown]
  | switched known =>
      simp only [serve, Mode.ofTag, known]
      rfl
  | unknownTag unknown => simp only [serve, unknown]
  | unencodable refused =>
      simp only [serve, refused]
      rfl
  | invalid submits refused =>
      cases submits with
      | typed encoded =>
          simp only [serve, encoded, submitBytes, refused]
          rfl
      | raw known =>
          simp only [serve, known, submitBytes, refused]
          rfl
  | @delivered _ bytes read rest accepts parked room =>
      obtain ⟨valid, submitted⟩ := accepts.submits_here
      have enough : ¬ read.capacity < bytes.length := Nat.not_lt.mpr room
      simp only [submitted, submitBytes, valid, ReportQueue.push, parked, enough, if_false]
      rfl
  | tooSmall accepts parked small =>
      obtain ⟨valid, submitted⟩ := accepts.submits_here
      simp only [submitted, submitBytes, valid, ReportQueue.push, parked, small, if_true]
      rfl
  | buffered accepts parked room =>
      obtain ⟨valid, submitted⟩ := accepts.submits_here
      simp only [submitted, submitBytes, valid, ReportQueue.push, parked, room, if_true]
      rfl
  | displaced accepts parked full displaces =>
      obtain ⟨valid, submitted⟩ := accepts.submits_here
      simp only [submitted, submitBytes, valid, ReportQueue.push, parked, Nat.not_lt.mpr full,
        if_false]
      cases overflow : device.queue.policy.overflow with
      | dropNewest => exact absurd overflow displaces
      | latestWins | dropOldest => simp only [queued]
  | dropped accepts parked full drops =>
      obtain ⟨valid, submitted⟩ := accepts.submits_here
      simp only [submitted, submitBytes, valid, ReportQueue.push, parked, Nat.not_lt.mpr full,
        if_false, drops]
      rfl
  | noRoom small => simp only [serve, beginRead, small, if_true]
  | ready room buffered =>
      simp only [serve, beginRead, Nat.not_lt.mpr room, if_false, ReportQueue.pop, buffered]
      rfl
  | parked room buffered =>
      simp only [serve, beginRead, Nat.not_lt.mpr room, if_false, ReportQueue.pop, queued,
        ReportQueue.park, buffered]
  | @notParked id absent =>
      have nowhere : device.queue.parked.find? (·.id == id) = none := by simpa using absent
      simp only [serve, cancelRead, ReportQueue.cancel, nowhere]
  | @canceled front back read parked first =>
      have passed : ∀ other ∈ front, ¬ (other.id == read.id) = true := by simpa using first
      have found : device.queue.parked.find? (·.id == read.id) = some read := by
        rw [parked, List.find?_append, List.find?_eq_none.mpr passed]
        simp
      have removed : device.queue.parked.eraseP (·.id == read.id) = front ++ back := by
        rw [parked, List.eraseP_append_right _ passed]
        simp
      simp only [serve, cancelRead, ReportQueue.cancel, found, removed]
      rfl

end Device

end HidPointer
