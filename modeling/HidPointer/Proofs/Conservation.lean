import HidPointer.Proofs.Ledger
import HidPointer.Proofs.Reads

/-!
# No report is lost or duplicated

The ledger tells the truth. At every point of a run the reports that it has as waiting are those
in the buffer, each report it has as handed out went to one read, and the counters count its
entries. Since a receipt has one fate, every accepted report is accounted for exactly once.
-/

set_option autoImplicit false

namespace HidPointer

def returnedBy : Reply → Option Bytes
  | .ok (.ready bytes) => some bytes
  | _ => none

/-- The parked reads that ended with a report, and the reports. -/
def reportsIn {κ : Type} (ended : List (ParkedRead κ × ReadResult)) : List (Nat × Bytes) :=
  ended.filterMap fun
    | (read, .ok bytes) => some (read.id, bytes)
    | _ => none

/-- The number of reports that were discarded, as it is published. -/
def discardedBy {κ : Type} : List (Duty κ) → Nat
  | [] => 0
  | .publish (.modeChanged _ _ discarded) :: duties => discarded + discardedBy duties
  | _ :: duties => discardedBy duties

/-- The ledger follows a step of the device: `receipts` before and `later` after it. -/
structure Booked {κ : Type} (device after : Device κ) (request : Request κ) (served : Served κ)
    (position : Nat) (receipts later : List Receipt) : Prop where
  entries : later.map Receipt.entry =
    receipts.map Receipt.entry ++ ((request.accepted? served.reply).map (position, ·)).toList
  returned : (later.filterMap Receipt.returned?).Perm
    (receipts.filterMap Receipt.returned? ++ ((returnedBy served.reply).map (position, ·)).toList)
  delivered : (later.filterMap Receipt.delivered?).Perm
    (receipts.filterMap Receipt.delivered? ++ reportsIn (resolutions served.duties))
  displaced : (later.filterMap Receipt.displaced?).length + device.queue.counters.overflowDrops =
    (receipts.filterMap Receipt.displaced?).length + after.queue.counters.overflowDrops
  discarded : (later.filterMap Receipt.discarded?).Perm
    (receipts.filterMap Receipt.discarded? ++
      List.replicate (discardedBy served.duties) position)
  accepted : after.queue.counters.accepted =
    device.queue.counters.accepted + (request.accepted? served.reply).toList.length
  handed : after.queue.counters.delivered =
    device.queue.counters.delivered +
      ((returnedBy served.reply).toList.length + (reportsIn (resolutions served.duties)).length)
  tooSmall : after.queue.counters.tooSmallDrops = device.queue.counters.tooSmallDrops

namespace Device.Effect

variable {κ : Type} {device after : Device κ} {request : Request κ} {served : Served κ}

private theorem discardedBy_flush (reads : List (ParkedRead κ)) (transition : Transition)
    (result : ReadResult) (flushed discarded : Nat) :
    discardedBy (reads.map (.complete · result) ++
      [.publish (.modeChanged transition flushed discarded)]) = discarded := by
  induction reads with
  | nil => rfl
  | cons read reads ih => exact ih

private theorem reportsIn_flush (reads : List (ParkedRead κ)) (error : DeviceError) :
    reportsIn (reads.map (·, .error error)) = [] := by
  simp [reportsIn]

private theorem booked_of_shows {receipts later shown : List Receipt} {position : Nat}
    (shows : Shows receipts later shown)
    (entries : later.map Receipt.entry =
      receipts.map Receipt.entry ++ ((request.accepted? served.reply).map (position, ·)).toList)
    (returned : shown.filterMap Receipt.returned? =
      ((returnedBy served.reply).map (position, ·)).toList)
    (delivered : shown.filterMap Receipt.delivered? = reportsIn (resolutions served.duties))
    (displaced : after.queue.counters.overflowDrops =
      device.queue.counters.overflowDrops + (shown.filterMap Receipt.displaced?).length)
    (discarded : shown.filterMap Receipt.discarded? =
      List.replicate (discardedBy served.duties) position)
    (accepted : after.queue.counters.accepted =
      device.queue.counters.accepted + (request.accepted? served.reply).toList.length)
    (handed : after.queue.counters.delivered =
      device.queue.counters.delivered +
        ((returnedBy served.reply).toList.length +
          (reportsIn (resolutions served.duties)).length))
    (tooSmall : after.queue.counters.tooSmallDrops = device.queue.counters.tooSmallDrops) :
    Booked device after request served position receipts later := by
  refine ⟨entries, ?_, ?_, ?_, ?_, accepted, handed, tooSmall⟩
  · rw [← returned]
    exact shows.returned
  · rw [← delivered]
    exact shows.delivered
  · rw [shows.displaced.length_eq, List.length_append, displaced]
    omega
  · rw [← discarded]
    exact shows.discarded

private theorem views_discarded (position : Nat) (receipts : List Receipt) :
    let discarded := receipts.map (·.settle (.discarded position))
    discarded.filterMap Receipt.returned? = [] ∧ discarded.filterMap Receipt.delivered? = [] ∧
      discarded.filterMap Receipt.displaced? = [] ∧
      discarded.filterMap Receipt.discarded? = List.replicate receipts.length position := by
  induction receipts with
  | nil => exact ⟨rfl, rfl, rfl, rfl⟩
  | cons receipt receipts ih =>
      obtain ⟨returned, delivered, displaced, discarded⟩ := ih
      exact ⟨returned, delivered, displaced, congrArg (position :: ·) discarded⟩

/-- Every step of a coherent device that can buffer a report is booked. -/
theorem booked (effect : Effect device request after served) (coherent : device.Coherent)
    (buffers : 0 < device.queue.policy.capacity) {receipts : List Receipt} (position : Nat)
    (waiting : receipts.filterMap Receipt.waiting? = device.queue.buffered) :
    Booked device after request served position receipts
      (device.book position request served.reply receipts) := by
  have entries := device.entries_book position request served.reply receipts
  cases effect with
  | told tells =>
      cases tells <;> exact booked_of_shows (.refl receipts) entries rfl rfl rfl rfl rfl rfl rfl
  | noSuchMode | unknownTag | noRoom | notParked | unencodable | invalid | canceled | parked =>
      exact booked_of_shows (.refl receipts) entries rfl rfl rfl rfl rfl rfl rfl
  | tooSmall accepts parked small => exact absurd small (coherent.room_for accepts parked)
  | @delivered _ bytes read rest accepts =>
      have shows := (Shows.refl receipts).append ⟨position, request.content, .delivered read.id⟩
      refine booked_of_shows shows entries rfl ?_ rfl rfl rfl rfl rfl
      rw [accepts.submits.content_eq]
      rfl
  | buffered | dropped =>
      exact booked_of_shows ((Shows.refl receipts).append _) entries rfl rfl rfl rfl rfl rfl rfl
  | displaced _ _ full displaces =>
      -- Without room for a single report, one would be counted as lost and none given up.
      have nonempty : device.queue.buffered ≠ [] := by
        intro empty
        rw [empty, List.length_nil] at full
        omega
      simp only [book] at entries ⊢
      cases overflow : device.queue.policy.overflow with
      | dropNewest => exact absurd overflow displaces
      | latestWins =>
          have ends := List.dropLast_concat_getLast nonempty
          obtain ⟨receipt, _, moved⟩ :=
            Receipt.settleLast_settled .displaced (waiting.trans ends.symm)
          rw [overflow] at entries
          exact booked_of_shows (moved.shows.append _) entries rfl rfl rfl rfl rfl rfl rfl
      | dropOldest =>
          obtain ⟨oldest, younger, buffered⟩ := List.exists_cons_of_ne_nil nonempty
          obtain ⟨receipt, _, moved⟩ :=
            Receipt.settleFirst_settled .displaced (waiting.trans buffered)
          rw [overflow] at entries
          exact booked_of_shows (moved.shows.append _) entries rfl rfl rfl rfl rfl rfl rfl
  | ready _ buffered =>
      obtain ⟨receipt, same, moved⟩ :=
        Receipt.settleFirst_settled (.returned position) (waiting.trans buffered)
      refine booked_of_shows moved.shows entries ?_ rfl rfl rfl rfl rfl rfl
      rw [← same]
      rfl
  | switched =>
      obtain ⟨settled, bytes, moved⟩ := Receipt.settleAll_settled (.discarded position) receipts
      have size : settled.length = device.queue.buffered.length := by
        rw [← waiting, ← bytes, List.length_map]
      obtain ⟨returned, delivered, displaced, discarded⟩ := views_discarded position settled
      refine booked_of_shows moved.shows entries returned ?_ ?_ ?_ rfl ?_ rfl
      · simp [delivered, reportsIn_flush]
      · simp [displaced]
      · rw [discarded, discardedBy_flush, size]
      · simp [returnedBy, reportsIn_flush]

end Device.Effect

section Accounts

variable {ν : Type}

def Deed.accepted? : Deed ν → Option Bytes
  | served before request => request.accepted? (before.serve request).2.reply
  | _ => none

def Deed.returned? : Deed ν → Option Bytes
  | served before request => returnedBy (before.serve request).2.reply
  | _ => none

def Deed.discards : Deed ν → Nat
  | served before request => discardedBy (before.serve request).2.duties
  | _ => 0

/-- What a view shows of the deeds, with the points at which they were done. -/
def located {α : Type} (view : Deed ν → Option α) (past : List (Deed ν)) : List (Nat × α) :=
  past.zipIdx.filterMap fun (deed, position) => (view deed).map (position, ·)

def acceptances (past : List (Deed ν)) : List (Nat × Bytes) :=
  located Deed.accepted? past

def returns (past : List (Deed ν)) : List (Nat × Bytes) :=
  located Deed.returned? past

/-- The points at which reports were discarded, as often as one was. -/
def discards (past : List (Deed ν)) : List Nat :=
  past.zipIdx.flatMap fun (deed, position) => List.replicate deed.discards position

/-- The number of reports that all the switches together discarded. -/
def discardCount : List (Deed ν) → Nat
  | [] => 0
  | deed :: past => deed.discards + discardCount past

theorem located_append {α : Type} (view : Deed ν → Option α) (past : List (Deed ν))
    (deed : Deed ν) :
    located view (past ++ [deed]) =
      located view past ++ ((view deed).map (past.length, ·)).toList := by
  cases seen : view deed <;> simp [located, List.zipIdx_append, seen]

theorem length_located_append {α : Type} (view : Deed ν → Option α) (past : List (Deed ν))
    (deed : Deed ν) :
    (located view (past ++ [deed])).length =
      (located view past).length + (view deed).toList.length := by
  rw [located_append, List.length_append]
  cases view deed <;> rfl

theorem located_nodup {α : Type} (view : Deed ν → Option α) (past : List (Deed ν)) :
    ((located view past).map Prod.fst).Nodup := by
  have positions : (past.zipIdx.map Prod.snd).Nodup := by
    rw [List.zipIdx_map_snd]
    exact List.nodup_range'
  unfold located List.Nodup at *
  rw [List.pairwise_map] at positions ⊢
  refine List.pairwise_filterMap.mpr (positions.imp ?_)
  intro first second differ located isFirst other isSecond
  obtain ⟨_, _, rfl⟩ := Option.map_eq_some_iff.mp isFirst
  obtain ⟨_, _, rfl⟩ := Option.map_eq_some_iff.mp isSecond
  exact differ

theorem discards_append (past : List (Deed ν)) (deed : Deed ν) :
    discards (past ++ [deed]) = discards past ++ List.replicate deed.discards past.length := by
  simp [discards, List.zipIdx_append]

theorem length_discards (past : List (Deed ν)) :
    (discards past).length = discardCount past := by
  have counted : ∀ position, ((past.zipIdx position).flatMap fun (deed, position) =>
      List.replicate deed.discards position).length = discardCount past := by
    induction past with
    | nil => exact fun _ => rfl
    | cons deed past ih =>
        intro position
        rw [List.zipIdx_cons, List.flatMap_cons, List.length_append, List.length_replicate, ih]
        rfl
  exact counted 0

end Accounts

/-- How the accepted reports are accounted for when `past` has been done, the device is `now` and
the reads `ended` have ended. -/
structure LedgerHolds {ν : Type} (past : List (Deed ν)) (now : Device (Completion ν))
    (ended : List (ParkedRead (Completion ν) × ReadResult)) : Prop where
  entries : (ledger past).map Receipt.entry = acceptances past
  waiting : (ledger past).filterMap Receipt.waiting? = now.queue.buffered
  returned : ((ledger past).filterMap Receipt.returned?).Perm (returns past)
  delivered : ((ledger past).filterMap Receipt.delivered?).Perm (reportsIn ended)
  displaced :
    ((ledger past).filterMap Receipt.displaced?).length = now.queue.counters.overflowDrops
  discarded : ((ledger past).filterMap Receipt.discarded?).Perm (discards past)
  accepted : now.queue.counters.accepted = (acceptances past).length
  handed : now.queue.counters.delivered = (returns past).length + (reportsIn ended).length
  tooSmall : now.queue.counters.tooSmallDrops = 0

namespace LedgerHolds

variable {ν : Type} {past : List (Deed ν)} {now : Device (Completion ν)}
  {ended : List (ParkedRead (Completion ν) × ReadResult)}

private theorem idle (holds : LedgerHolds past now ended) {deed : Deed ν}
    (unbooked : deed.book past.length (ledger past) = ledger past)
    (noneAccepted : deed.accepted? = none) (noneReturned : deed.returned? = none)
    (noneDiscarded : deed.discards = 0) : LedgerHolds (past ++ [deed]) now ended := by
  have sameLedger : ledger (past ++ [deed]) = ledger past := by rw [ledger_append, unbooked]
  have sameAcceptances : acceptances (past ++ [deed]) = acceptances past := by
    simp [acceptances, located_append, noneAccepted]
  have sameReturns : returns (past ++ [deed]) = returns past := by
    simp [returns, located_append, noneReturned]
  have sameDiscards : discards (past ++ [deed]) = discards past := by
    simp [discards_append, noneDiscarded]
  obtain ⟨entries, waiting, returned, delivered, displaced, discarded, accepted, handed, small⟩ :=
    holds
  rw [← sameLedger] at entries waiting returned delivered displaced discarded
  rw [← sameAcceptances] at entries accepted
  rw [← sameReturns] at returned handed
  rw [← sameDiscards] at discarded
  exact ⟨entries, waiting, returned, delivered, displaced, discarded, accepted, handed, small⟩

private theorem served {request : Request (Completion ν)}
    (holds : LedgerHolds past now ended)
    (booked : Booked now (now.serve request).1 request (now.serve request).2 past.length
      (ledger past) (ledger (past ++ [.served now request])))
    (waiting : (ledger (past ++ [.served now request])).filterMap Receipt.waiting? =
      (now.serve request).1.queue.buffered) :
    LedgerHolds (past ++ [.served now request]) (now.serve request).1
      (ended ++ resolutions (now.serve request).2.duties) where
  entries := by
    rw [booked.entries, holds.entries]
    exact (located_append Deed.accepted? past (.served now request)).symm
  waiting := waiting
  returned := by
    unfold returns
    rw [located_append]
    exact booked.returned.trans (holds.returned.append_right _)
  delivered := by
    unfold reportsIn
    rw [List.filterMap_append]
    exact booked.delivered.trans (holds.delivered.append_right _)
  displaced := by
    have before := holds.displaced
    have step := booked.displaced
    omega
  discarded := by
    rw [discards_append]
    exact booked.discarded.trans (holds.discarded.append_right _)
  accepted := by
    rw [booked.accepted, holds.accepted]
    exact (length_located_append Deed.accepted? past (.served now request)).symm
  handed := by
    have grown : (returns (past ++ [.served now request])).length =
        (returns past).length + (returnedBy (now.serve request).2.reply).toList.length :=
      length_located_append Deed.returned? past (.served now request)
    have ends : reportsIn (ended ++ resolutions (now.serve request).2.duties) =
        reportsIn ended ++ reportsIn (resolutions (now.serve request).2.duties) :=
      List.filterMap_append
    rw [booked.handed, holds.handed, grown, ends, List.length_append]
    omega
  tooSmall := booked.tooSmall.trans holds.tooSmall

theorem perm {others : List (ParkedRead (Completion ν) × ReadResult)}
    (holds : LedgerHolds past now ended) (same : ended.Perm others) :
    LedgerHolds past now others :=
  { holds with
    delivered := holds.delivered.trans (same.filterMap _)
    handed := by rw [holds.handed, reportsIn, reportsIn, (same.filterMap _).length_eq] }

theorem balance (holds : LedgerHolds past now ended) :
    now.queue.counters.accepted =
      now.queue.counters.delivered + now.queue.counters.overflowDrops +
        now.queue.counters.tooSmallDrops + discardCount past +
        now.queue.buffered.length := by
  have entries := congrArg List.length holds.entries
  have fates := length_eq_fates (ledger past)
  rw [List.length_map] at entries
  rw [holds.waiting, holds.returned.length_eq, holds.delivered.length_eq,
    holds.displaced, holds.discarded.length_eq, length_discards] at fates
  rw [holds.accepted, holds.handed, holds.tooSmall]
  omega

end LedgerHolds

namespace Run

variable {ν : Type} {start now : Device (Completion ν)} {activity : Activity ν}
  {past : List (Deed ν)} {errands : List (Errand ν)}

private theorem ledger_holds (run : Run start activity past now errands)
    (coherent : start.Coherent) (positive : ∀ mode, 0 < (start.policies.get mode).capacity)
    (empty : start.queue.buffered = []) (zero : start.queue.counters = {}) :
    LedgerHolds past now (resolutions (past.flatMap Deed.raised)) := by
  induction run using byStep with
  | begin =>
      refine ⟨rfl, empty.symm, .nil, .nil, ?_, .nil, ?_, ?_, ?_⟩
      all_goals rw [zero]
      all_goals rfl
  | leave _ ih => exact ih
  | note _ ih | enter _ ih | publish _ ih => simpa [Deed.raised] using ih.idle rfl rfl rfl rfl
  | @serve past now request next gone errands run ih =>
      have booked := (now.serve_effect request).booked (run.history.coherent coherent).1
        (run.history.buffers coherent positive) past.length ih.waiting
      have follows : ledger (past ++ [.served now request]) =
          now.book past.length request (now.serve request).2.reply (ledger past) :=
        ledger_append past (.served now request)
      rw [← follows] at booked
      simpa [Deed.raised] using ih.served booked (run.serve.ledger_waiting empty)

theorem ended_nodup (run : Run start activity past now errands)
    (empty : start.queue.parked = []) (first : start.nextId = 1) :
    ((entered past ++ due errands).map (·.1.id)).Nodup := by
  have parked := (run.parkings_perm empty).map (·.id)
  rw [(run.parkings_ids first).1, List.map_append, List.map_map] at parked
  exact (List.nodup_append.mp (parked.nodup_iff.mp List.nodup_range')).2.1

end Run

/-- What is true of the accepted reports at any point of a run: `past` has been done, the device is
`now`, and `errands` remain. -/
structure ReportsAccounted {ν : Type} (past : List (Deed ν)) (now : Device (Completion ν))
    (errands : List (Errand ν)) : Prop where
  holds : LedgerHolds past now (entered past ++ due errands)
  returnedOnce : ((returns past).map Prod.fst).Nodup
  deliveredOnce : ((entered past ++ due errands).map (·.1.id)).Nodup
  balance : now.queue.counters.accepted =
    now.queue.counters.delivered + now.queue.counters.overflowDrops +
      now.queue.counters.tooSmallDrops + discardCount past + now.queue.buffered.length

/-- Every report that a device for a valid configuration accepts has one fate, and the counters
tell what became of all of them. -/
theorem Run.reports_accounted {ν : Type} {config : Config} {device : Device (Completion ν)}
    {activity : Activity ν} {past : List (Deed ν)} {now : Device (Completion ν)}
    {errands : List (Errand ν)} (built : Device.ofConfig config = .ok device)
    (run : Run device activity past now errands) : ReportsAccounted past now errands := by
  obtain ⟨positive, _, rfl⟩ := Device.ofConfig_eq_ok_iff.mp built
  have holds : LedgerHolds past now (entered past ++ due errands) :=
    (run.ledger_holds (Device.coherent_create ..) positive rfl rfl).perm run.resolutions_perm
  exact ⟨holds, located_nodup _ _, run.ended_nodup rfl rfl, holds.balance⟩

/-- A movement that displaces another, a switch that discards it, and a completion that submits
one more. -/
theorem Run.reports_accounted_default :
    let device : Device (Completion Unit) :=
      .create DeviceConfig.default.attributes .mouse .default
    let activity : Activity Unit :=
      .issue (.submitRaw 0 [0, 1, 1]) (fun _ =>
        .issue (.submitRaw 0 [0, 2, 2]) (fun _ =>
          .issue (.setMode 0) (fun _ =>
            .issue (.read 3 fun _ => .issue (.submitRaw 0 [0, 4, 4]) (fun _ => .done) .done)
              (fun _ => .issue (.submitRaw 0 [0, 3, 3]) (fun _ => .done) .done) .done) .done)
          .done) .done
    ∃ past now, Device.ofConfig .default = .ok device ∧ Run device activity past now [] ∧
      now.queue.counters.accepted = 4 ∧ ReportsAccounted past now [] := by
  intro device activity
  have built : Device.ofConfig .default = .ok device := rfl
  have start : Run device activity [] device [.act activity] := .begin
  have switched := start.serve.serve.publish.serve.publish
  have finished := switched.serve.serve.enter.serve.leave.leave
  exact ⟨_, _, built, finished, rfl, Run.reports_accounted built finished⟩

end HidPointer
