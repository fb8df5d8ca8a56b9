import HidPointer.Proofs.Coherent

/-!
# Every read ends once

A read that is parked gets the next number, and its completion is entered exactly once: by a
report, by a mode switch, by its cancellation, or at the end of the device. A read that is not
parked never has its completion entered.
-/

set_option autoImplicit false

namespace HidPointer

/-- The reads that end by the given duties, with their results. -/
def resolutions {κ : Type} (duties : List (Duty κ)) : List (ParkedRead κ × ReadResult) :=
  duties.filterMap fun
    | .complete read result => some (read, result)
    | .publish _ => none

/-- How a parked read ends: with a report, by a mode switch, or canceled. -/
def Ends (result : ReadResult) : Prop :=
  (∃ bytes, result = .ok bytes) ∨ result = .error .reconfigured ∨ result = .error .canceled

def Request.parks {κ : Type} : Request κ → Reply → List (ParkedRead κ)
  | .read capacity completion, .ok (.pending id) => [⟨id, capacity, completion⟩]
  | _, _ => []

section Resolutions

variable {κ : Type}

@[simp] theorem resolutions_nil : resolutions ([] : List (Duty κ)) = [] := rfl

@[simp] theorem resolutions_complete (read : ParkedRead κ) (result : ReadResult)
    (duties : List (Duty κ)) :
    resolutions (.complete read result :: duties) = (read, result) :: resolutions duties := rfl

@[simp] theorem resolutions_publish (event : Event) (duties : List (Duty κ)) :
    resolutions (.publish event :: duties) = resolutions duties := rfl

@[simp] theorem resolutions_append (first second : List (Duty κ)) :
    resolutions (first ++ second) = resolutions first ++ resolutions second :=
  List.filterMap_append

@[simp] theorem resolutions_flush (reads : List (ParkedRead κ)) (result : ReadResult) :
    resolutions (reads.map (.complete · result)) = reads.map (·, result) := by
  induction reads with
  | nil => rfl
  | cons read reads ih => simp [ih]

@[simp] theorem parks_read (capacity id : Nat) (completion : κ) :
    (Request.read capacity completion).parks (.ok (.pending id)) = [⟨id, capacity, completion⟩] :=
  rfl

@[simp] theorem parks_error (request : Request κ) (error : DeviceError) :
    request.parks (.error error) = [] := by
  cases request <;> rfl

@[simp] theorem parks_accepted (request : Request κ) (status : SubmitStatus) :
    request.parks (.ok (.accepted status)) = [] := by
  cases request <;> rfl

theorem Request.mem_parks {request : Request κ} {reply : Reply} {read : ParkedRead κ} :
    read ∈ request.parks reply ↔
      request = .read read.capacity read.completion ∧ reply = .ok (.pending read.id) := by
  constructor
  · intro member
    unfold parks at member
    split at member
    · cases List.mem_singleton.mp member
      exact ⟨rfl, rfl⟩
    · cases member
  · rintro ⟨rfl, rfl⟩
    exact List.mem_singleton.mpr rfl

end Resolutions

/-- Its number singles out a parked read. -/
theorem Device.Coherent.parked_filter {κ : Type} {device : Device κ} (coherent : device.Coherent)
    {front back : List (ParkedRead κ)} {read : ParkedRead κ}
    (parked : device.queue.parked = front ++ read :: back) :
    front ++ back = device.queue.parked.filter (·.id ≠ read.id) := by
  have ordered := coherent.ordered
  rw [parked] at ordered ⊢
  obtain ⟨_, behind, across⟩ := List.pairwise_append.mp ordered
  have earlier : ∀ other ∈ front, other.id ≠ read.id := fun other member =>
    Nat.ne_of_lt (across other member read List.mem_cons_self)
  have later : ∀ other ∈ back, other.id ≠ read.id := fun other member =>
    Nat.ne_of_gt ((List.pairwise_cons.mp behind).1 other member)
  rw [List.filter_append, List.filter_cons_of_neg (by simp),
    List.filter_eq_self.mpr (by simpa using earlier),
    List.filter_eq_self.mpr (by simpa using later)]

namespace Device.Effect

variable {κ : Type} {device after : Device κ} {request : Request κ} {served : Served κ}

/-- The reads that were parked or are new remain parked or end, each one once. -/
theorem reads_conserved (effect : Effect device request after served) :
    (device.queue.parked ++ request.parks served.reply).Perm
      (after.queue.parked ++ (resolutions served.duties).map Prod.fst) := by
  cases effect with
  | told tells => cases tells <;> simp [Request.parks]
  | noSuchMode | unknownTag | unencodable | invalid | noRoom => simp
  | notParked => simp [Request.parks]
  | switched => simp [Request.parks, Function.comp_def]
  | buffered _ parked _ | displaced _ parked _ _ | dropped _ parked _ _ => simp [parked]
  | @delivered _ _ read rest _ parked _ | @tooSmall _ _ read rest _ parked _ =>
      simp only [parked, parks_accepted, List.append_nil]
      exact (List.perm_append_singleton read rest).symm
  | ready => simp [Request.parks]
  | parked => simp
  | @canceled front back read parked _ =>
      simp only [parked, Request.parks, List.append_nil]
      exact List.perm_middle.trans (List.perm_append_singleton read (front ++ back)).symm

theorem ids_consecutive (effect : Effect device request after served) :
    (request.parks served.reply).map (·.id) =
        List.range' device.nextId (request.parks served.reply).length ∧
      after.nextId = device.nextId + (request.parks served.reply).length := by
  cases effect with
  | told tells => cases tells <;> simp [Request.parks]
  | switched | notParked | ready | canceled => simp [Request.parks]
  | _ => simp

/-- In a coherent device no read ends because it is too small for a report. -/
theorem resolution_ends (effect : Effect device request after served) (coherent : device.Coherent)
    {resolution : ParkedRead κ × ReadResult} (member : resolution ∈ resolutions served.duties) :
    Ends resolution.2 := by
  cases effect with
  | told | noSuchMode | unknownTag | unencodable | invalid | buffered | noRoom | ready | parked
  | notParked => simp at member
  | displaced | dropped => simp at member
  | switched =>
      have flushed : ∃ read ∈ device.queue.parked, (read, .error .reconfigured) = resolution := by
        simpa using member
      obtain ⟨read, _, rfl⟩ := flushed
      exact .inr (.inl rfl)
  | @delivered _ bytes =>
      rw [List.mem_singleton.mp member]
      exact .inl ⟨bytes, rfl⟩
  | tooSmall accepts parked small => exact absurd small (coherent.room_for accepts parked)
  | canceled =>
      rw [List.mem_singleton.mp member]
      exact .inr (.inr rfl)

theorem reads_counted (effect : Effect device request after served) :
    after.queue.parked.length + (resolutions served.duties).countP (·.2.isOk) +
        after.queue.counters.tooSmallDrops + after.queue.counters.canceled +
        after.queue.counters.reconfigured =
      device.queue.parked.length + (request.parks served.reply).length +
        device.queue.counters.tooSmallDrops + device.queue.counters.canceled +
        device.queue.counters.reconfigured := by
  cases effect with
  | told tells => cases tells <;> simp [Request.parks]
  | noSuchMode | unknownTag | unencodable | invalid | noRoom => simp
  | buffered _ parked _ | displaced _ parked _ _ | dropped _ parked _ _ => simp [parked]
  | notParked | ready => simp [Request.parks]
  | switched =>
      have none : (device.queue.parked.map (·, (.error .reconfigured : ReadResult))).countP
          (·.2.isOk) = 0 := by
        simp [List.countP_eq_zero, Except.isOk, Except.toBool]
      simp [Request.parks, none]
      omega
  | delivered _ parked _ => simp [parked, Except.isOk, Except.toBool]
  | tooSmall _ parked _ =>
      simp [parked, Except.isOk, Except.toBool]
      omega
  | parked => simp
  | canceled parked _ =>
      simp [parked, Request.parks, Except.isOk, Except.toBool]
      omega

theorem read_exact {capacity : Nat} {completion : κ}
    (effect : Effect device (.read capacity completion) after served) :
    served.duties = [] ∧
      (served.reply = .error (.bufferTooSmall device.mode.byteLength capacity) ∧ after = device ∨
        (∃ bytes, served.reply = .ok (.ready bytes)) ∧ after.nextId = device.nextId ∧
          after.queue.parked = device.queue.parked ∨
        served.reply = .ok (.pending device.nextId) ∧ after.nextId = device.nextId + 1 ∧
          after.queue.parked =
            device.queue.parked ++ [⟨device.nextId, capacity, completion⟩]) := by
  cases effect with
  | told tells => cases tells
  | invalid submits => cases submits
  | delivered accepts | tooSmall accepts | buffered accepts | displaced accepts
  | dropped accepts => cases accepts.submits
  | noRoom => exact ⟨rfl, .inl ⟨rfl, rfl⟩⟩
  | @ready _ _ report => exact ⟨rfl, .inr (.inl ⟨⟨report, rfl⟩, rfl, rfl⟩)⟩
  | parked => exact ⟨rfl, .inr (.inr ⟨rfl, rfl, rfl⟩)⟩

theorem cancel_exact {id : Nat} (effect : Effect device (.cancel id) after served)
    (coherent : device.Coherent) :
    (served.reply = .ok (.canceled false) ∧ after = device ∧ served.duties = [] ∧
        ∀ read ∈ device.queue.parked, read.id ≠ id) ∨
      ∃ read ∈ device.queue.parked, read.id = id ∧ served.reply = .ok (.canceled true) ∧
        after.queue.parked = device.queue.parked.filter (·.id ≠ id) ∧
        resolutions served.duties = [(read, .error .canceled)] := by
  cases effect with
  | told tells => cases tells
  | invalid submits => cases submits
  | delivered accepts | tooSmall accepts | buffered accepts | displaced accepts
  | dropped accepts => cases accepts.submits
  | notParked absent => exact .inl ⟨rfl, rfl, rfl, absent⟩
  | @canceled front back read parked first =>
      refine .inr ⟨read, by simp [parked], rfl, rfl, ?_, rfl⟩
      exact coherent.parked_filter parked

end Device.Effect

/-- The reads whose completions were entered, with their results. -/
def entered {ν : Type} (past : List (Deed ν)) : List (ParkedRead (Completion ν) × ReadResult) :=
  resolutions (past.flatMap Deed.discharged)

theorem entered_append {ν : Type} (past later : List (Deed ν)) :
    entered (past ++ later) = entered past ++ entered later := by
  rw [entered, List.flatMap_append, resolutions_append]
  rfl

/-- The reads that have ended and whose completions are still to be entered. -/
def due {ν : Type} (errands : List (Errand ν)) :
    List (ParkedRead (Completion ν) × ReadResult) :=
  resolutions (errands.flatMap Errand.owed)

def parkings {ν : Type} (past : List (Deed ν)) : List (ParkedRead (Completion ν)) :=
  past.flatMap fun
    | .served before request => request.parks (before.serve request).2.reply
    | _ => []

theorem mem_resolutions_raised {ν : Type} {past : List (Deed ν)}
    {resolution : ParkedRead (Completion ν) × ReadResult} :
    resolution ∈ resolutions (past.flatMap Deed.raised) ↔
      ∃ before request, Deed.served before request ∈ past ∧
        resolution ∈ resolutions (before.serve request).2.duties := by
  induction past with
  | nil => simp
  | cons deed past ih =>
      rw [List.flatMap_cons, resolutions_append, List.mem_append, ih]
      constructor
      · rintro (first | ⟨before, request, member, ended⟩)
        · cases deed with
          | served before request => exact ⟨before, request, List.mem_cons_self, first⟩
          | entered | published | noted => cases first
        · exact ⟨before, request, List.mem_cons_of_mem _ member, ended⟩
      · rintro ⟨before, request, member, ended⟩
        rcases List.mem_cons.mp member with rfl | later
        · exact .inl ended
        · exact .inr ⟨before, request, later, ended⟩

namespace History

variable {ν : Type} {start now : Device (Completion ν)} {past : List (Deed ν)}

/-- The reads that were parked at the start or have been since are parked still or have ended, each
one once. -/
theorem parkings_raised (history : History start past now) :
    (start.queue.parked ++ parkings past).Perm
      (now.queue.parked ++ (resolutions (past.flatMap Deed.raised)).map Prod.fst) := by
  induction history with
  | begin => simp [parkings]
  | entered _ _ _ ih | published _ _ ih | noted _ _ ih => simpa [parkings, Deed.raised] using ih
  | @served past now request _ ih =>
      have step := (now.serve_effect request).reads_conserved
      simp only [parkings, Deed.raised, List.flatMap_append, List.flatMap_cons, List.flatMap_nil,
        List.append_nil, resolutions_append, List.map_append] at ih ⊢
      rw [← List.append_assoc]
      refine (ih.append_right _).trans ?_
      rw [List.append_assoc]
      refine (List.perm_append_comm.append_left _).trans ?_
      rw [← List.append_assoc]
      refine (step.append_right _).trans ?_
      rw [List.append_assoc]
      exact List.perm_append_comm.append_left _

theorem parkings_ids (history : History start past now) :
    (parkings past).map (·.id) = List.range' start.nextId (parkings past).length ∧
      now.nextId = start.nextId + (parkings past).length := by
  induction history with
  | begin => simp [parkings]
  | entered _ _ _ ih | published _ _ ih | noted _ _ ih => simpa [parkings] using ih
  | @served past now request _ ih =>
      obtain ⟨numbers, nextNumber⟩ := ih
      obtain ⟨added, advanced⟩ := (now.serve_effect request).ids_consecutive
      have grown : parkings (past ++ [.served now request]) =
          parkings past ++ request.parks (now.serve request).2.reply := by
        simp [parkings]
      rw [grown, List.map_append, numbers, added, nextNumber, advanced, nextNumber,
        List.length_append, Nat.add_assoc]
      exact ⟨List.range'_append_1, rfl⟩

/-- A number belongs to one read. -/
theorem ids_nodup (history : History start past now) (coherent : start.Coherent) :
    ((start.queue.parked ++ parkings past).map (·.id)).Nodup := by
  rw [List.map_append, List.nodup_append, history.parkings_ids.1]
  refine ⟨?_, List.nodup_range', ?_⟩
  · exact List.pairwise_map.mpr (coherent.ordered.imp Nat.ne_of_lt)
  · intro earlier isEarlier later isLater same
    obtain ⟨read, member, rfl⟩ := List.mem_map.mp isEarlier
    have issued := (List.mem_range'_1.mp isLater).1
    exact Nat.not_lt.mpr issued (same ▸ coherent.below read member)

theorem id_lt (history : History start past now) (coherent : start.Coherent)
    {read : ParkedRead (Completion ν)} (member : read ∈ start.queue.parked ++ parkings past) :
    read.id < now.nextId := by
  obtain ⟨numbers, nextNumber⟩ := history.parkings_ids
  rw [nextNumber]
  rcases List.mem_append.mp member with earlier | since
  · exact Nat.lt_add_right _ (coherent.below read earlier)
  · have issued : read.id ∈ (parkings past).map (·.id) := List.mem_map_of_mem since
    rw [numbers] at issued
    exact (List.mem_range'_1.mp issued).2

end History

/-- The ends that came out of the critical sections were brought to the readers or are due. -/
theorem Interleaving.resolutions_perm {ν : Type} {start now : Device (Completion ν)}
    {activities : List (Activity ν)} {past : List (Deed ν)} {threads : List (List (Errand ν))}
    (run : Interleaving start activities past now threads) :
    (resolutions (past.flatMap Deed.raised)).Perm (entered past ++ due threads.flatten) := by
  unfold entered due
  rw [← resolutions_append]
  exact run.discharges.filterMap _

/-- No read ends because it is too small for a report, in whichever thread. -/
theorem Interleaving.resolutions_end {ν : Type} {start now : Device (Completion ν)}
    {activities : List (Activity ν)} {past : List (Deed ν)} {threads : List (List (Errand ν))}
    (run : Interleaving start activities past now threads) (coherent : start.Coherent)
    {resolution : ParkedRead (Completion ν) × ReadResult}
    (member : resolution ∈ entered past ++ due threads.flatten) : Ends resolution.2 := by
  obtain ⟨before, request, served, ended⟩ :=
    mem_resolutions_raised.mp (run.resolutions_perm.symm.subset member)
  have beforeCoherent := (run.history.coherent coherent).2 before request served
  exact (before.serve_effect request).resolution_ends beforeCoherent ended

namespace Run

variable {ν : Type} {start now : Device (Completion ν)} {activity : Activity ν}
  {past : List (Deed ν)} {errands : List (Errand ν)}

theorem resolutions_perm (run : Run start activity past now errands) :
    (resolutions (past.flatMap Deed.raised)).Perm (entered past ++ due errands) := by
  simpa using run.interleaving.resolutions_perm

theorem reads_perm (run : Run start activity past now errands) :
    (start.queue.parked ++ parkings past).Perm
      (now.queue.parked ++ (entered past ++ due errands).map Prod.fst) :=
  run.history.parkings_raised.trans ((run.resolutions_perm.map Prod.fst).append_left _)

theorem parkings_perm (run : Run start activity past now errands)
    (empty : start.queue.parked = []) :
    (parkings past).Perm (now.queue.parked ++ (entered past ++ due errands).map Prod.fst) := by
  have accounted := run.reads_perm
  rw [empty, List.nil_append] at accounted
  exact accounted

theorem parkings_ids (run : Run start activity past now errands) (first : start.nextId = 1) :
    (parkings past).map (·.id) = List.range' 1 (parkings past).length ∧
      now.nextId = (parkings past).length + 1 := by
  obtain ⟨numbers, nextNumber⟩ := run.history.parkings_ids
  rw [first] at numbers nextNumber
  exact ⟨numbers, nextNumber.trans (Nat.add_comm ..)⟩

private theorem parkings_counted (run : Run start activity past now errands)
    (empty : start.queue.parked = []) (zero : start.queue.counters = {}) :
    (parkings past).length =
      now.queue.parked.length + (resolutions (past.flatMap Deed.raised)).countP (·.2.isOk) +
        now.queue.counters.tooSmallDrops + now.queue.counters.canceled +
        now.queue.counters.reconfigured := by
  induction run using byStep with
  | begin => simp [parkings, empty, zero]
  | leave _ ih => exact ih
  | note _ ih | enter _ ih | publish _ ih => simpa [parkings, Deed.raised] using ih
  | @serve past now request next gone errands _ ih =>
      have step := (now.serve_effect request).reads_counted
      have grown : (parkings (past ++ [.served now request])).length =
          (parkings past).length + (request.parks (now.serve request).2.reply).length := by
        simp [parkings]
      rw [grown]
      simp only [Deed.raised, List.flatMap_append, List.flatMap_cons, List.flatMap_nil,
        List.append_nil, resolutions_append, List.countP_append] at ih ⊢
      omega

end Run

theorem entered_removal {ν : Type} (device : Device (Completion ν)) :
    entered device.removal = device.queue.parked.map (·, .error .canceled) := by
  rw [entered, device.discharged_removal]
  unfold Device.retire ReportQueue.drain
  induction device.queue.parked with
  | nil => rfl
  | cons read reads ih => exact congrArg ((read, .error .canceled) :: ·) ih

namespace Device

variable {ν : Type}

/-- How a device, being as given, serves a read. No completion is due, and a number is given out
only if the read is parked. -/
def AnswersRead (before : Device (Completion ν)) (capacity : Nat)
    (completion : Completion ν) : Prop :=
  let (after, served) := before.serve (.read capacity completion)
  served.duties = [] ∧
    (served.reply = .error (.bufferTooSmall before.mode.byteLength capacity) ∧ after = before ∨
      (∃ bytes, served.reply = .ok (.ready bytes)) ∧ after.nextId = before.nextId ∧
        after.queue.parked = before.queue.parked ∨
      served.reply = .ok (.pending before.nextId) ∧ after.nextId = before.nextId + 1 ∧
        after.queue.parked = before.queue.parked ++ [⟨before.nextId, capacity, completion⟩])

/-- How a device, being as given, serves the cancellation of a read. `ended` are the reads that
have ended. -/
def AnswersCancel (before : Device (Completion ν)) (id : Nat)
    (ended : List (ParkedRead (Completion ν) × ReadResult)) : Prop :=
  let (after, served) := before.serve (.cancel id)
  (served.reply = .ok (.canceled false) ∧ after = before ∧ served.duties = [] ∧
      ∀ read ∈ before.queue.parked, read.id ≠ id) ∨
    ∃ read ∈ before.queue.parked, read.id = id ∧ served.reply = .ok (.canceled true) ∧
      after.queue.parked = before.queue.parked.filter (·.id ≠ id) ∧
      (read, .error .canceled) ∈ ended

end Device

/-- What is true of the reads at any point of a run: `past` has been done, the device is `now`,
and `errands` remain. -/
structure ReadsEndOnce {ν : Type} (past : List (Deed ν)) (now : Device (Completion ν))
    (errands : List (Errand ν)) : Prop where
  answered : ∀ before capacity completion,
    Deed.served before (.read capacity completion) ∈ past → before.AnswersRead capacity completion
  /-- Numbers are given out from 1 without a gap, to the parked reads alone. -/
  numbered : (parkings past).map (·.id) = List.range' 1 (parkings past).length ∧
    now.nextId = (parkings past).length + 1
  /-- A read that was parked is parked still, or its completion was entered or is due, once. No
  other completion is. -/
  once : (parkings past).Perm (now.queue.parked ++ (entered past ++ due errands).map Prod.fst)
  ends : ∀ resolution ∈ entered past ++ due errands, Ends resolution.2
  canceled : ∀ before id, Deed.served before (.cancel id) ∈ past →
    before.AnswersCancel id (entered past ++ due errands)
  balance : (parkings past).length =
    now.queue.parked.length + (entered past ++ due errands).countP (·.2.isOk) +
      now.queue.counters.tooSmallDrops + now.queue.counters.canceled +
      now.queue.counters.reconfigured
  /-- When all has been done and the device is removed, each parked read has ended. -/
  removed : errands = [] →
    ((entered (past ++ now.removal)).map Prod.fst).Perm (parkings past) ∧
      ∀ resolution ∈ entered (past ++ now.removal), Ends resolution.2

/-- Every read of a device that was created empty is resolved exactly once. -/
theorem Run.reads_end_once {ν : Type} {attributes : Attributes} {initialMode : Mode}
    {policies : Policies} {activity : Activity ν} {past : List (Deed ν)}
    {now : Device (Completion ν)} {errands : List (Errand ν)}
    (run : Run (.create attributes initialMode policies) activity past now errands) :
    ReadsEndOnce past now errands := by
  obtain ⟨coherent, pastCoherent⟩ := run.history.coherent (Device.coherent_create ..)
  have perm := run.resolutions_perm
  have ends : ∀ resolution ∈ entered past ++ due errands, Ends resolution.2 := by
    intro resolution member
    obtain ⟨before, request, served, ended⟩ :=
      mem_resolutions_raised.mp (perm.symm.subset member)
    exact (before.serve_effect request).resolution_ends (pastCoherent before request served) ended
  refine ⟨?_, run.parkings_ids rfl, run.parkings_perm rfl, ends, ?_, ?_, ?_⟩
  · intro before capacity completion member
    exact (before.serve_effect (.read capacity completion)).read_exact
  · intro before id member
    rcases (before.serve_effect (.cancel id)).cancel_exact (pastCoherent before _ member) with
      absent | ⟨read, parked, same, reply, remaining, resolved⟩
    · exact .inl absent
    · refine .inr ⟨read, parked, same, reply, remaining, perm.subset ?_⟩
      exact mem_resolutions_raised.mpr ⟨before, .cancel id, member, by simp [resolved]⟩
  · rw [run.parkings_counted rfl rfl, perm.countP_eq]
  · rintro rfl
    have whole : entered (past ++ now.removal) =
        entered past ++ now.queue.parked.map (·, .error .canceled) := by
      rw [← entered_removal, entered, List.flatMap_append, resolutions_append]
      rfl
    have all := run.parkings_perm rfl
    have noneDue : due ([] : List (Errand ν)) = [] := rfl
    rw [noneDue, List.append_nil] at all ends
    rw [whole]
    constructor
    · refine .trans ?_ all.symm
      simp only [List.map_append, List.map_map, Function.comp_def, List.map_id']
      exact List.perm_append_comm
    · intro resolution member
      rcases List.mem_append.mp member with earlier | atTheEnd
      · exact ends resolution earlier
      · obtain ⟨read, _, rfl⟩ := List.mem_map.mp atTheEnd
        exact .inr (.inr rfl)

/-- A read that is flushed and parked again by its completion, and then withdrawn. -/
theorem Run.reads_end_once_rearmed :
    let device : Device (Completion Unit) :=
      .create DeviceConfig.default.attributes .mouse .default
    let activity : Activity Unit :=
      .issue (.read 3 fun _ => .issue (.read 5 fun _ => .done) (fun _ => .done) .done)
        (fun _ => .issue (.setMode 1) (fun _ => .issue (.cancel 2) (fun _ => .done) .done) .done)
        .done
    ∃ past now, Run device activity past now [] ∧
      (parkings past).length = 2 ∧ ReadsEndOnce past now [] := by
  intro device activity
  have start : Run device activity [] device [.act activity] := .begin
  have flushed := start.serve.serve.enter.serve.leave.publish
  have finished := flushed.serve.enter.leave.publish.leave
  exact ⟨_, _, finished, rfl, Run.reads_end_once finished⟩

end HidPointer
