import HidPointer.Proofs.Conservation

/-!
# A parked read has room for its report

A read is checked for room when it is issued, and gets its report later. In between the mode can
change, and with it the length of the reports. But a switch flushes the parked reads, so a read that
is still parked was issued for reports of the active mode. Therefore no report meets a read that
cannot hold it.
-/

set_option autoImplicit false

namespace HidPointer

/-- Where all parked reads have room, a report that ends a read is handed to it. -/
theorem ReportQueue.push_hands {κ : Type} {queue : ReportQueue κ} {report : Bytes}
    (room : ∀ read ∈ queue.parked, report.length ≤ read.capacity) {read : ParkedRead κ}
    {result : ReadResult} (resolved : (queue.push report).2 = .resolved read result) :
    result = .ok report := by
  unfold push at resolved
  cases parked : queue.parked with
  | cons oldest rest =>
      have enough : ¬ oldest.capacity < report.length :=
        Nat.not_lt.mpr (room oldest (by simp [parked]))
      simp only [parked, enough, if_false] at resolved
      cases resolved
      rfl
  | nil =>
      simp only [parked] at resolved
      split at resolved
      · cases resolved
      · cases overflow : queue.policy.overflow <;> simp [overflow] at resolved

theorem Ends.ne_bufferTooSmall {result : ReadResult} (ends : Ends result)
    (required capacity : Nat) : result ≠ .error (.bufferTooSmall required capacity) := by
  rintro rfl
  rcases ends with ⟨bytes, delivered⟩ | reconfigured | canceled
  · cases delivered
  · cases reconfigured
  · cases canceled

namespace Device.Effect

variable {κ : Type} {device after : Device κ} {request : Request κ} {served : Served κ}

theorem tooSmallDrops (effect : Effect device request after served)
    (coherent : device.Coherent) :
    after.queue.counters.tooSmallDrops = device.queue.counters.tooSmallDrops := by
  cases effect with
  | tooSmall accepts parked small => exact absurd small (coherent.room_for accepts parked)
  | _ => rfl

theorem publishes_no_tooSmall (effect : Effect device request after served)
    (coherent : device.Coherent) (mode : Mode) :
    .publish (.reportDropped mode .bufferTooSmall) ∉ served.duties := by
  cases effect with
  | tooSmall accepts parked small => exact absurd small (coherent.room_for accepts parked)
  | _ => simp

/-- A report that is answered as delivered goes to the read that the answer names. -/
theorem hands (effect : Effect device request after served) (coherent : device.Coherent)
    {id : Nat} (delivered : served.reply = .ok (.accepted (.delivered id))) :
    ∃ read, read.id = id ∧ resolutions served.duties = [(read, .ok request.content)] := by
  cases effect with
  | told tells => cases tells <;> cases delivered
  | @delivered _ bytes read rest accepts _ _ =>
      cases delivered
      exact ⟨read, rfl, by rw [accepts.submits.content_eq]; rfl⟩
  | tooSmall accepts parked small => exact absurd small (coherent.room_for accepts parked)
  | _ => cases delivered

end Device.Effect

section Interleavings

variable {ν : Type}

/-- At its end a device publishes nothing but cancellations. -/
theorem published_of_removal {device : Device (Completion ν)} {event : Event}
    (member : Deed.published event ∈ device.removal) : ∃ id, event = .readCanceled id := by
  obtain ⟨duty, owed, done⟩ := List.mem_flatMap.mp member
  obtain ⟨read, _, isDuty⟩ := List.mem_flatMap.mp owed
  rcases List.mem_cons.mp isDuty with rfl | isDuty
  · simp at done
  · rw [List.mem_singleton.mp isDuty] at done
    exact ⟨read.id, by simpa using done⟩

theorem History.tooSmallDrops {start now : Device (Completion ν)} {past : List (Deed ν)}
    (history : History start past now) (coherent : start.Coherent) :
    now.queue.counters.tooSmallDrops = start.queue.counters.tooSmallDrops := by
  induction history with
  | begin => rfl
  | entered _ _ _ ih | published _ _ ih | noted _ _ ih => exact ih
  | @served past now request history ih =>
      exact ((now.serve_effect request).tooSmallDrops (history.coherent coherent).1).trans ih

/-- The reads that the end of the device finds parked are canceled, and the others have ended as
reads do. -/
theorem Interleaving.removal_ends {start now : Device (Completion ν)}
    {activities : List (Activity ν)} {past : List (Deed ν)} {threads : List (List (Errand ν))}
    (run : Interleaving start activities past now threads) (coherent : start.Coherent)
    {resolution : ParkedRead (Completion ν) × ReadResult}
    (member : resolution ∈ entered (past ++ now.removal) ++ due threads.flatten) :
    Ends resolution.2 := by
  rw [entered_append, entered_removal, List.append_assoc] at member
  rcases List.mem_append.mp member with done | later
  · exact run.resolutions_end coherent (List.mem_append_left _ done)
  rcases List.mem_append.mp later with atTheEnd | owed
  · obtain ⟨read, _, rfl⟩ := List.mem_map.mp atTheEnd
    exact .inr (.inr rfl)
  · exact run.resolutions_end coherent (List.mem_append_right _ owed)

theorem Interleaving.published_raised {start now : Device (Completion ν)}
    {activities : List (Activity ν)} {past : List (Deed ν)} {threads : List (List (Errand ν))}
    (run : Interleaving start activities past now threads) {event : Event}
    (member : Deed.published event ∈ past) :
    ∃ before request, Deed.served before request ∈ past ∧
      .publish event ∈ (before.serve request).2.duties := by
  have discharged : .publish event ∈ past.flatMap Deed.discharged :=
    List.mem_flatMap.mpr ⟨_, member, List.mem_singleton.mpr rfl⟩
  have raised := run.discharges.symm.subset (List.mem_append_left _ discharged)
  obtain ⟨deed, done, isRaised⟩ := List.mem_flatMap.mp raised
  cases deed with
  | served before request => exact ⟨before, request, done, isRaised⟩
  | entered | published | noted => cases isRaised

/-- No report meets a read that is too small for it. `past` has been done, the device is `now`, and
`threads` are the errands that remain. -/
structure AllHaveRoom (past : List (Deed ν)) (now : Device (Completion ν))
    (threads : List (List (Errand ν))) : Prop where
  lengths : ∀ report ∈ now.queue.buffered, report.length = now.mode.byteLength
  room : ∀ read ∈ now.queue.parked, now.mode.byteLength ≤ read.capacity
  /-- Whatever passes validation now is handed to the read that it ends. -/
  pushed : ∀ mode bytes, now.active.validate mode bytes.length = .ok () →
    ∀ read result, (now.queue.push bytes).2 = .resolved read result → result = .ok bytes
  /-- No completion is told that its read was too small, not even at the end of the device. -/
  completions : ∀ resolution ∈ entered (past ++ now.removal) ++ due threads.flatten,
    ∀ required capacity, resolution.2 ≠ .error (.bufferTooSmall required capacity)
  counter : now.queue.counters.tooSmallDrops = 0
  events : ∀ mode, Deed.published (.reportDropped mode .bufferTooSmall) ∉ past ++ now.removal
  /-- A report that is answered as delivered reaches the read that the answer names. -/
  delivered : ∀ before request id, Deed.served before request ∈ past →
    (before.serve request).2.reply = .ok (.accepted (.delivered id)) →
    ∃ read, read.id = id ∧
      (read, .ok request.content) ∈ entered past ++ due threads.flatten

theorem Interleaving.all_have_room {attributes : Attributes} {initialMode : Mode}
    {policies : Policies} {activities : List (Activity ν)} {past : List (Deed ν)}
    {now : Device (Completion ν)} {threads : List (List (Errand ν))}
    (run : Interleaving (.create attributes initialMode policies) activities past now threads) :
    AllHaveRoom past now threads := by
  have history := run.history
  have coherentStart : (Device.create attributes initialMode policies :
      Device (Completion ν)).Coherent := Device.coherent_create ..
  obtain ⟨coherent, pastCoherent⟩ := history.coherent coherentStart
  have perm := run.resolutions_perm
  refine ⟨coherent.lengths, coherent.room, ?_, ?_, ?_, ?_, ?_⟩
  · intro mode bytes valid read result
    obtain ⟨rfl, length⟩ := ActiveMode.validate_eq_ok_iff.mp valid
    refine ReportQueue.push_hands fun read parked => ?_
    rw [length]
    exact coherent.room read parked
  · intro resolution member
    exact (run.removal_ends coherentStart member).ne_bufferTooSmall
  · rw [history.tooSmallDrops coherentStart]
    rfl
  · intro mode member
    rcases List.mem_append.mp member with done | atTheEnd
    · obtain ⟨before, request, served, raised⟩ := run.published_raised done
      exact (before.serve_effect request).publishes_no_tooSmall (pastCoherent before request served)
        mode raised
    · obtain ⟨id, isCancellation⟩ := published_of_removal atTheEnd
      cases isCancellation
  · intro before request id served reply
    obtain ⟨read, same, resolved⟩ :=
      (before.serve_effect request).hands (pastCoherent before request served) reply
    refine ⟨read, same, perm.subset ?_⟩
    exact mem_resolutions_raised.mpr ⟨before, request, served, by simp [resolved]⟩

end Interleavings

/-- A read with room for a movement only is flushed, and the read that its completion issues holds
the longer report. -/
theorem Interleaving.all_have_room_after_switch :
    let device : Device (Completion Unit) :=
      .create DeviceConfig.default.attributes .mouse .default
    let reader : Activity Unit :=
      .issue (.read 3 fun _ => .issue (.read 5 fun _ => .done) (fun _ => .done) .done)
        (fun _ => .done) .done
    let producer : Activity Unit :=
      .issue (.setMode 1)
        (fun _ => .issue (.submitRaw 1 [1, 10, 0, 20, 0]) (fun _ => .done) .done) .done
    ∃ past now threads, Interleaving device [reader, producer] past now threads ∧
      now.queue.counters.delivered = 1 ∧ AllHaveRoom past now threads := by
  intro device reader producer
  have start : Interleaving device [reader, producer] []
      device [[.act reader], [.act producer]] := .begin
  have flushed := ((start.step [] [_] .serve).step [_] [] .serve).step [_] [] .enter
  have parkedAgain := (flushed.step [_] [] .serve).step [_] [] .leave
  have delivered := (parkedAgain.step [_] [] .publish).step [_] [] .serve
  exact ⟨_, _, _, delivered, rfl, Interleaving.all_have_room delivered⟩

end HidPointer
