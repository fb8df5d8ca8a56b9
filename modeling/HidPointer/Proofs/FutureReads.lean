import HidPointer.Proofs.SharedSessions
import Mathlib.Data.List.Nodup

/-!
# A future owns its read

The first poll of a future parks one read, or gives the result at once. A future that was left
waiting stands for that read from then on: it waits until the completion of the read is entered,
then yields its result, once. Whoever drops the future before cancels this read and no other, and
if the read is over nothing happens.
-/

set_option autoImplicit false

namespace HidPointer

variable {ν : Type}

/-- Polled for the first time, the future is left waiting for the read. -/
def LeftWaiting (before : Session ν) (index : Nat) (read : ParkedRead (Completion ν)) : Prop :=
  ∃ capacity : Nat, before.futures[index]? = some (some (.fresh capacity)) ∧
    (before.poll index).2.1 = some .waiting ∧ read = ⟨before.device.nextId, capacity, inert⟩

def Awaits (past : List (Happening ν)) (index : Nat) (read : ParkedRead (Completion ν)) : Prop :=
  ∃ before : Session ν, .polled before index ∈ past ∧ LeftWaiting before index read

section Awaits

variable {past : List (Happening ν)} {index : Nat} {read : ParkedRead (Completion ν)}

theorem awaits_append_iff {later : List (Happening ν)} :
    Awaits (past ++ later) index read ↔ Awaits past index read ∨ Awaits later index read := by
  simp only [Awaits, List.mem_append, or_and_right, exists_or]

theorem awaits_polled_iff {before : Session ν} {polled : Nat} :
    Awaits [.polled before polled] index read ↔
      polled = index ∧ LeftWaiting before index read := by
  constructor
  · rintro ⟨_, member, left⟩
    cases List.mem_singleton.mp member
    exact ⟨rfl, left⟩
  · rintro ⟨rfl, left⟩
    exact ⟨before, List.mem_cons_self, left⟩

/-- Only polls leave a future waiting. -/
theorem awaits_of_append {later : List (Happening ν)}
    (awaits : Awaits (past ++ later) index read)
    (unpolled : ∀ before, .polled before index ∉ later) : Awaits past index read := by
  obtain earlier | ⟨before, polled, _⟩ := awaits_append_iff.mp awaits
  · exact earlier
  · exact absurd polled (unpolled before)

end Awaits

/-- What has become of a future that was left waiting for the read. -/
inductive Stage (done : List (Deed ν)) (read : ParkedRead (Completion ν)) : Option Future → Prop
  where
  | waiting (unresolved : ∀ result, (read, result) ∉ entered done) :
      Stage done read (some (.waiting read.id))
  | settled {result : ReadResult} (resolved : (read, result) ∈ entered done) :
      Stage done read (some (.settled read.id result))
  | gone : Stage done read none

section Stages

variable {done : List (Deed ν)} {read : ParkedRead (Completion ν)} {slot : Option Future}

theorem Stage.append (stage : Stage done read slot) {later : List (Deed ν)}
    (quiet : entered later = []) : Stage (done ++ later) read slot := by
  have same : entered (done ++ later) = entered done := by
    rw [entered_append, quiet, List.append_nil]
  cases stage with
  | waiting unresolved => exact .waiting (same ▸ unresolved)
  | settled resolved => exact .settled (same ▸ resolved)
  | gone => exact .gone

/-- A future that waits for a read is settled when its completion is entered, and by nothing
else. -/
theorem Stage.step {device later : Device (Completion ν)} {errands remaining : List (Errand ν)}
    {more : List (Deed ν)} (step : Step device errands more later remaining)
    (stage : Stage done read slot)
    (one : ∀ other result, (other, result) ∈ due errands → other.id = read.id → other = read) :
    Stage (done ++ more) read (slot.map (·.settle (more.map Deed.moment))) := by
  have still (uncompleted : ∀ id, Future.resultIn (more.map Deed.moment) id = none) :
      slot.map (·.settle (more.map Deed.moment)) = slot := by
    cases slot with
    | none => rfl
    | some future => exact congrArg some (Future.settle_of_uncompleted fun id _ => uncompleted id)
  cases step with
  | leave | note | serve | publish =>
      rw [still fun _ => rfl]
      exact stage.append rfl
  | @enter other result errands =>
      have grown : entered (done ++ [.entered other result]) =
          entered done ++ [(other, result)] := entered_append done [.entered other result]
      cases stage with
      | gone => exact .gone
      | settled resolved =>
          refine .settled ?_
          rw [grown]
          exact List.mem_append_left _ resolved
      | waiting unresolved =>
          by_cases named : other.id = read.id
          · obtain rfl := one other result List.mem_cons_self named
            have settles : Future.settle [Moment.completed (ν := ν) other.id result]
                (.waiting other.id) = .settled other.id result := by
              simp [Future.settle, Future.resultIn]
            simp only [List.map_cons, List.map_nil, Deed.moment, Option.map_some, settles]
            refine .settled ?_
            rw [grown]
            exact List.mem_append_right _ List.mem_cons_self
          · have waits : Future.settle [Moment.completed (ν := ν) other.id result]
                (.waiting read.id) = .waiting read.id := by
              simp [Future.settle, Future.resultIn, named]
            simp only [List.map_cons, List.map_nil, Deed.moment, Option.map_some, waits]
            refine .waiting fun outcome member => ?_
            rw [grown] at member
            rcases List.mem_append.mp member with earlier | last
            · exact unresolved outcome earlier
            · cases List.mem_singleton.mp last
              exact named rfl

end Stages

namespace Device

variable {device : Device (Completion ν)} {read : ParkedRead (Completion ν)} {id : Nat}

theorem dispatch_cancel_absent (absent : ∀ read ∈ device.queue.parked, read.id ≠ id) :
    device.dispatch (.cancel id) =
      (device, .ok (.canceled false), [.served (.cancel id) (.ok (.canceled false))]) := by
  simp only [dispatch, (Effect.notParked absent).serve_eq, List.map_nil, perform]
  rfl

/-- The cancellation of a parked read that nobody but its future hears of. -/
theorem dispatch_cancel_parked (coherent : device.Coherent) (parked : read ∈ device.queue.parked)
    (unheard : read.completion = inert) :
    device.dispatch (.cancel read.id) =
      (device.queued device.queue.buffered (device.queue.parked.filter (·.id ≠ read.id))
          { device.queue.counters with canceled := device.queue.counters.canceled + 1 },
        .ok (.canceled true),
        [.served (.cancel read.id) (.ok (.canceled true)), .completed read.id (.error .canceled),
          .published (.readCanceled read.id)]) := by
  obtain ⟨front, back, place⟩ := List.append_of_mem parked
  have ordered := coherent.ordered
  rw [place] at ordered
  have first : ∀ other ∈ front, other.id ≠ read.id := fun other member =>
    Nat.ne_of_lt ((List.pairwise_append.mp ordered).2.2 other member read List.mem_cons_self)
  rw [← coherent.parked_filter place]
  simp only [dispatch, (Effect.canceled place first).serve_eq, List.map_cons, List.map_nil,
    perform, unheard, inert]
  rfl

end Device

namespace Session

section Reads

variable {past : List (Happening ν)} {session : Session ν} {threads : List (List (Errand ν))}
  {read : ParkedRead (Completion ν)} {result : ReadResult}

/-- All reads that were parked, by where they are now. -/
def reads (past : List (Happening ν)) (session : Session ν) (threads : List (List (Errand ν))) :
    List (ParkedRead (Completion ν)) :=
  session.device.queue.parked ++ (entered (deeds past) ++ due threads.flatten).map Prod.fst

theorem mem_reads_of_parked (parked : read ∈ session.device.queue.parked) :
    read ∈ reads past session threads :=
  List.mem_append_left _ parked

theorem mem_reads_of_entered (resolved : (read, result) ∈ entered (deeds past)) :
    read ∈ reads past session threads :=
  List.mem_append_right _
    (List.mem_map_of_mem (f := Prod.fst) (List.mem_append_left _ resolved))

theorem mem_reads_of_due (resolved : (read, result) ∈ due threads.flatten) :
    read ∈ reads past session threads :=
  List.mem_append_right _
    (List.mem_map_of_mem (f := Prod.fst) (List.mem_append_right _ resolved))

end Reads

/-- A first poll that leaves the future waiting parks one read and does nothing else. -/
theorem Polls.parks {session after : Session ν} {index capacity : Nat} {done : List (Deed ν)}
    (polls : Polls session index after (some .waiting) done)
    (fresh : session.futures[index]? = some (some (.fresh capacity))) :
    let read : ParkedRead (Completion ν) := ⟨session.device.nextId, capacity, inert⟩
    after.device =
        { session.device with
          queue := session.device.queue.park read
          nextId := session.device.nextId + 1 } ∧
      after.futures = session.futures.set index (some (.waiting read.id)) ∧
      done = [.served session.device (.read capacity inert)] ∧ parkings done = [read] := by
  cases polls with
  | waiting found =>
      rw [fresh] at found
      cases found
  | parked found served =>
      rw [fresh] at found
      cases found
      refine ⟨congrArg Prod.fst served, rfl, rfl, ?_⟩
      simp only [parkings, served, List.flatMap_cons, List.flatMap_nil, List.append_nil,
        parks_read]

namespace Sharing

variable {start : Device (Completion ν)} {activities : List (Activity ν)}
  {past : List (Happening ν)} {session : Session ν} {threads : List (List (Errand ν))}
  {index : Nat} {read : ParkedRead (Completion ν)}

theorem resolutions_perm (sharing : Sharing start activities past session threads) :
    (resolutions ((deeds past).flatMap Deed.raised)).Perm
      (entered (deeds past) ++ due threads.flatten) := by
  unfold entered due
  rw [← resolutions_append]
  exact sharing.discharges.filterMap _

/-- The reads there have been are parked, or their completions were entered or are due. -/
theorem reads_perm (sharing : Sharing start activities past session threads) :
    (start.queue.parked ++ parkings (deeds past)).Perm (reads past session threads) :=
  sharing.history.parkings_raised.trans ((sharing.resolutions_perm.map Prod.fst).append_left _)

theorem reads_nodup (sharing : Sharing start activities past session threads)
    (coherent : start.Coherent) : ((reads past session threads).map (·.id)).Nodup :=
  (sharing.reads_perm.map (·.id)).nodup_iff.mp (sharing.history.ids_nodup coherent)

/-- A number tells which read it is, wherever the read is. -/
theorem read_eq (sharing : Sharing start activities past session threads)
    (coherent : start.Coherent) {first second : ParkedRead (Completion ν)}
    (isFirst : first ∈ reads past session threads)
    (isSecond : second ∈ reads past session threads)
    (same : first.id = second.id) : first = second :=
  List.inj_on_of_nodup_map (sharing.reads_nodup coherent) isFirst isSecond same

theorem unparked_of_entered (sharing : Sharing start activities past session threads)
    (coherent : start.Coherent) {result : ReadResult}
    (resolved : (read, result) ∈ entered (deeds past)) :
    read ∉ session.device.queue.parked := by
  intro parked
  have nodup := (sharing.reads_nodup coherent).of_map
  have apart := (List.nodup_append.mp nodup).2.2
  have left : read ∈ (entered (deeds past) ++ due threads.flatten).map Prod.fst :=
    List.mem_map_of_mem (f := Prod.fst) (List.mem_append_left _ resolved)
  exact apart read parked read left rfl

/-- No read ends twice. -/
theorem entered_nodup (sharing : Sharing start activities past session threads)
    (coherent : start.Coherent) : ((entered (deeds past)).map (·.1.id)).Nodup := by
  have nodup := sharing.reads_nodup coherent
  simp only [reads, List.map_append, List.map_map] at nodup
  exact (List.nodup_append.mp (List.nodup_append.mp nodup).2.1).1

/-- The read that a future was left waiting for has been parked. -/
theorem parkings_of_awaits (awaits : Awaits past index read) : read ∈ parkings (deeds past) := by
  obtain ⟨before, polled, capacity, fresh, waits, rfl⟩ := awaits
  obtain ⟨front, back, rfl⟩ := List.append_of_mem polled
  have polls := before.polls index
  rw [waits] at polls
  obtain ⟨_, _, _, parks⟩ := polls.parks fresh
  have among : deeds (front ++ .polled before index :: back) =
      deeds front ++ ((Happening.polled before index).deeds ++ deeds back) := by
    simp only [deeds, List.flatMap_append, List.flatMap_cons]
  simp only [among, parkings, List.flatMap_append] at parks ⊢
  rw [parks]
  simp

theorem mem_reads_of_awaits (sharing : Sharing start activities past session threads)
    (awaits : Awaits past index read) : read ∈ reads past session threads :=
  sharing.reads_perm.subset (List.mem_append_right _ (parkings_of_awaits awaits))

theorem id_lt (sharing : Sharing start activities past session threads)
    (coherent : start.Coherent) (isRead : read ∈ reads past session threads) :
    read.id < session.device.nextId :=
  sharing.history.id_lt coherent (sharing.reads_perm.symm.subset isRead)

theorem slot_set {futures : List (Option Future)} {slot : Option Future}
    (found : futures[index]? = some slot) (changed : Nat) (replaced : Option Future) :
    (futures.set changed replaced)[index]? =
      some (if changed = index then replaced else slot) := by
  obtain ⟨inside, _⟩ := List.getElem?_eq_some_iff.mp found
  rw [List.getElem?_set]
  by_cases same : changed = index
  · subst same
    simp [inside]
  · simp [same, found]

/-- A future that is there after one was changed was there before or is the changed one. -/
theorem of_slot_set {futures : List (Option Future)} {changed : Nat} {replaced : Option Future}
    {future : Future} (found : (futures.set changed replaced)[index]? = some (some future)) :
    changed ≠ index ∧ futures[index]? = some (some future) ∨
      changed = index ∧ replaced = some future := by
  rw [List.getElem?_set] at found
  split at found
  · split at found
    · exact .inr ⟨‹_›, Option.some_inj.mp found⟩
    · cases found
  · exact .inl ⟨‹_›, found⟩

/-- Whichever future is polled, one that waits still waits, and one that yields its result is
gone. -/
theorem polled_stage {session after : Session ν} {polled : Nat} {answer : Option Poll}
    {more done : List (Deed ν)} {slot : Option Future}
    (polls : Polls session polled after answer more)
    (found : session.futures[index]? = some slot) (stage : Stage done read slot) :
    ∃ slot, after.futures[index]? = some slot ∧ Stage (done ++ more) read slot := by
  cases polls with
  | gone | waiting => exact ⟨slot, found, stage.append rfl⟩
  | settled =>
      refine ⟨_, slot_set found polled none, Stage.append ?_ rfl⟩
      split
      · exact .gone
      · exact stage
  | answered fresh | parked fresh =>
      -- A future with a stage has been polled before.
      have other : polled ≠ index := by
        rintro rfl
        rw [fresh] at found
        cases found
        cases stage
      refine ⟨_, slot_set found polled _, Stage.append ?_ rfl⟩
      rw [if_neg other]
      exact stage

theorem stage (sharing : Sharing start activities past session threads)
    (coherent : start.Coherent) (awaits : Awaits past index read) :
    ∃ slot, session.futures[index]? = some slot ∧ Stage (deeds past) read slot := by
  induction sharing with
  | begin =>
      obtain ⟨_, polled, _⟩ := awaits
      cases polled
  | @step front back past session done later errands remaining sharing step ih =>
      have awaits := awaits_of_append awaits (by simp)
      obtain ⟨slot, found, stage⟩ := ih awaits
      refine ⟨slot.map (·.settle (done.map Deed.moment)), by simp [passed, found], ?_⟩
      rw [deeds_append, deeds_did]
      refine stage.step step fun other result isDue same => ?_
      refine sharing.read_eq coherent ?_ (sharing.mem_reads_of_awaits awaits) same
      have among : (other, result) ∈ due (front ++ errands :: back).flatten := by
        simp only [due, List.flatten_append, List.flatten_cons, List.flatMap_append,
          resolutions_append, List.mem_append]
        exact .inr (.inl isDue)
      exact mem_reads_of_due among
  | @create capacity past session threads sharing ih =>
      have awaits := awaits_of_append awaits (by simp)
      obtain ⟨slot, found, stage⟩ := ih awaits
      obtain ⟨inside, _⟩ := List.getElem?_eq_some_iff.mp found
      refine ⟨slot, ?_, ?_⟩
      · rw [Session.start, List.getElem?_append_left inside, found]
      · rw [deeds_append]
        exact stage.append rfl
  | @drop dropped front back past session errands sharing ih =>
      have awaits := awaits_of_append awaits (by simp)
      obtain ⟨slot, found, stage⟩ := ih awaits
      refine ⟨_, slot_set found dropped none, ?_⟩
      rw [deeds_append]
      refine Stage.append ?_ rfl
      split
      · exact .gone
      · exact stage
  | @poll polled past session threads sharing ih =>
      have polls := session.polls polled
      rw [deeds_append, deeds_singleton]
      rcases awaits_append_iff.mp awaits with awaits | awaits
      · obtain ⟨slot, found, stage⟩ := ih awaits
        exact polled_stage polls found stage
      · obtain ⟨rfl, capacity, fresh, waits, rfl⟩ := awaits_polled_iff.mp awaits
        rw [waits] at polls
        obtain ⟨_, futures, done, _⟩ := polls.parks fresh
        rw [futures, done]
        refine ⟨_, slot_set fresh polled _, ?_⟩
        rw [if_pos rfl]
        refine .append (.waiting fun result resolved => ?_) rfl
        -- The read has a number that no earlier one has.
        exact Nat.lt_irrefl _ (sharing.id_lt coherent (mem_reads_of_entered resolved))

/-- A future that is responsible for a read was left waiting for it. -/
theorem owner (sharing : Sharing start activities past session threads) {future : Future} {id : Nat}
    (found : session.futures[index]? = some (some future)) (responsible : future.id? = some id) :
    ∃ read, Awaits past index read ∧ read.id = id := by
  induction sharing generalizing future with
  | begin => cases found
  | step _ _ _ _ ih =>
      simp only [passed, List.getElem?_map, Option.map_eq_some_iff] at found
      obtain ⟨_, found, earlier, rfl, rfl⟩ := found
      rw [Future.id?_settle] at responsible
      obtain ⟨read, awaits, same⟩ := ih found responsible
      exact ⟨read, awaits_append_iff.mpr (.inl awaits), same⟩
  | @create capacity past session threads _ ih =>
      by_cases inside : index < session.futures.length
      · rw [Session.start, List.getElem?_append_left inside] at found
        obtain ⟨read, awaits, same⟩ := ih found responsible
        exact ⟨read, awaits_append_iff.mpr (.inl awaits), same⟩
      · rw [Session.start, List.getElem?_append_right (Nat.not_lt.mp inside)] at found
        have isNew := List.mem_singleton.mp (List.mem_of_getElem? found)
        cases isNew
        cases responsible
  | @drop dropped front back past session errands _ ih =>
      obtain ⟨_, kept⟩ | ⟨_, gone⟩ := of_slot_set found
      · obtain ⟨read, awaits, same⟩ := ih kept responsible
        exact ⟨read, awaits_append_iff.mpr (.inl awaits), same⟩
      · cases gone
  | @poll polled past session threads _ ih =>
      have earlier (kept : session.futures[index]? = some (some future)) :
          ∃ read, Awaits (past ++ [.polled session polled]) index read ∧ read.id = id := by
        obtain ⟨read, awaits, same⟩ := ih kept responsible
        exact ⟨read, awaits_append_iff.mpr (.inl awaits), same⟩
      have left : ∀ read, LeftWaiting session polled read →
          Awaits (past ++ [.polled session polled]) polled read :=
        fun _ left => awaits_append_iff.mpr (.inr (awaits_polled_iff.mpr ⟨rfl, left⟩))
      have polls := session.polls polled
      generalize answered : (session.poll polled).2.1 = answer at polls
      generalize (session.poll polled).1 = after, (Happening.polled session polled).deeds = done
        at polls found
      cases polls with
      | gone | waiting => exact earlier found
      | settled | answered =>
          obtain ⟨_, kept⟩ | ⟨_, gone⟩ := of_slot_set found
          · exact earlier kept
          · cases gone
      | @parked capacity fresh served =>
          obtain ⟨_, kept⟩ | ⟨rfl, isWaiting⟩ := of_slot_set found
          · exact earlier kept
          · cases isWaiting
            cases responsible
            exact ⟨_, left _ ⟨capacity, fresh, answered, rfl⟩, rfl⟩

/-- A future is left waiting once, and nobody else for a read of that number. -/
theorem awaits_eq_iff (sharing : Sharing start activities past session threads)
    (coherent : start.Coherent) {first second : Nat} {one other : ParkedRead (Completion ν)}
    (isFirst : Awaits past first one) (isSecond : Awaits past second other) :
    first = second ↔ one.id = other.id := by
  induction sharing with
  | begin =>
      obtain ⟨_, polled, _⟩ := isFirst
      cases polled
  | step _ _ _ _ ih | create _ _ ih | drop _ _ _ _ ih =>
      exact ih (awaits_of_append isFirst (by simp)) (awaits_of_append isSecond (by simp))
  | @poll polled past session threads sharing ih =>
      have apart {index : Nat} {early late : ParkedRead (Completion ν)}
          (earlier : Awaits past index early) (left : LeftWaiting session polled late) :
          index ≠ polled ∧ early.id < late.id := by
        obtain ⟨capacity, fresh, _, rfl⟩ := left
        refine ⟨?_, sharing.id_lt coherent (sharing.mem_reads_of_awaits earlier)⟩
        rintro rfl
        obtain ⟨slot, found, stage⟩ := sharing.stage coherent earlier
        rw [fresh] at found
        cases found
        cases stage
      rcases awaits_append_iff.mp isFirst with isFirst | isFirst <;>
        rcases awaits_append_iff.mp isSecond with isSecond | isSecond
      · exact ih isFirst isSecond
      · obtain ⟨rfl, left⟩ := awaits_polled_iff.mp isSecond
        obtain ⟨differs, below⟩ := apart isFirst left
        exact iff_of_false differs (Nat.ne_of_lt below)
      · obtain ⟨rfl, left⟩ := awaits_polled_iff.mp isFirst
        obtain ⟨differs, below⟩ := apart isSecond left
        exact iff_of_false differs.symm (Nat.ne_of_gt below)
      · obtain ⟨rfl, _, _, _, rfl⟩ := awaits_polled_iff.mp isFirst
        obtain ⟨rfl, _, _, _, rfl⟩ := awaits_polled_iff.mp isSecond
        exact iff_of_true rfl rfl

/-- Another read than the one with the given number is parked, or none with that number is. -/
theorem absent_of_not_parked (sharing : Sharing start activities past session threads)
    (coherent : start.Coherent) (isRead : read ∈ reads past session threads)
    (unparked : read ∉ session.device.queue.parked) :
    ∀ other ∈ session.device.queue.parked, other.id ≠ read.id := by
  intro other parked same
  cases sharing.read_eq coherent (mem_reads_of_parked parked) isRead same
  exact unparked parked

/-- Dropping a future that has not yielded the result of its read is canceling the read. -/
theorem dropFuture_eq (sharing : Sharing start activities past session threads)
    (coherent : start.Coherent) (awaits : Awaits past index read) {future : Future}
    (found : session.futures[index]? = some (some future))
    (responsible : future.id? = some read.id) :
    session.dropFuture index =
      (⟨(session.device.dispatch (.cancel read.id)).1, session.futures.set index none⟩, true,
        (session.device.dispatch (.cancel read.id)).2.2) := by
  have dropped : session.dropFuture index =
      ((session.setFuture index none).passed (session.device.dispatch (.cancel read.id)).1
        (session.device.dispatch (.cancel read.id)).2.2, true,
        (session.device.dispatch (.cancel read.id)).2.2) := by
    simp only [dropFuture, found, Option.join_some, responsible]
    rfl
  suffices settled : (session.setFuture index none).passed
      (session.device.dispatch (.cancel read.id)).1
      (session.device.dispatch (.cancel read.id)).2.2 = _ by rw [dropped, settled]
  have silent : ∀ id, id ≠ read.id →
      Future.resultIn (session.device.dispatch (.cancel read.id)).2.2 id = none := by
    intro id other
    by_cases parked : read ∈ session.device.queue.parked
    · have coherent := (sharing.history.coherent coherent).1
      have unheard : read.completion = inert := by
        obtain ⟨_, _, _, _, _, rfl⟩ := awaits
        rfl
      simp [Device.dispatch_cancel_parked coherent parked unheard, Future.resultIn, other.symm]
    · have isRead := sharing.mem_reads_of_awaits awaits
      rw [Device.dispatch_cancel_absent (sharing.absent_of_not_parked coherent isRead parked)]
      rfl
  refine passed_of_unsettled (fun other member => ?_) _
  -- Another future stands for another read.
  refine Future.settle_of_uncompleted fun id responsible => silent id ?_
  rintro rfl
  obtain ⟨position, place⟩ := List.getElem?_of_mem member
  obtain ⟨apart, kept⟩ | ⟨_, gone⟩ := of_slot_set place
  · obtain ⟨others, awaitsToo, same⟩ := sharing.owner kept responsible
    exact apart ((sharing.awaits_eq_iff coherent awaits awaitsToo).mpr same.symm)
  · cases gone

end Sharing

/-- Dropping the future has exactly the effect of canceling the read. -/
structure CancelsOnDrop (session : Session ν) (index : Nat) (read : ParkedRead (Completion ν)) :
    Prop where
  withdrawal : session.withdrawal index = [.act (.issue (.cancel read.id) (fun _ => .done) .done)]
  drop : session.dropFuture index =
    (⟨(session.device.dispatch (.cancel read.id)).1, session.futures.set index none⟩, true,
      (session.device.dispatch (.cancel read.id)).2.2)

/-- Dropping the future does not touch the device. -/
structure IdleOnDrop (session : Session ν) (index : Nat) : Prop where
  withdrawal : session.withdrawal index = []
  device : (session.dropFuture index).1.device = session.device
  moments : (session.dropFuture index).2.2 = []

/-- Where a future stands that was left waiting for the read. A read is resolved when its completion
is entered. -/
inductive Stands (past : List (Happening ν)) (session : Session ν)
    (threads : List (List (Errand ν))) (index : Nat) (read : ParkedRead (Completion ν)) : Prop where
  | waiting (unresolved : ∀ result, (read, result) ∉ entered (deeds past))
      (held : read ∈ session.device.queue.parked ∨ ∃ result, (read, result) ∈ due threads.flatten)
      (poll : session.poll index = (session, some .waiting, []))
      (drop : session.CancelsOnDrop index read)
  | settled {result : ReadResult} (resolved : (read, result) ∈ entered (deeds past))
      (ends : Ends result) (unparked : read ∉ session.device.queue.parked)
      (poll : session.poll index = (session.setFuture index none, some (.ready result), []))
      (drop : session.CancelsOnDrop index read)
  | gone (poll : session.poll index = (session, none, [])) (drop : session.IdleOnDrop index)

namespace Sharing

variable {start : Device (Completion ν)} {activities : List (Activity ν)}
  {past : List (Happening ν)} {session : Session ν} {threads : List (List (Errand ν))}
  {index : Nat} {read : ParkedRead (Completion ν)}

theorem idleOnDrop_of_gone (gone : session.futures[index]?.join = none) :
    session.IdleOnDrop index where
  withdrawal := by simp only [Session.withdrawal, gone, Option.bind_none]
  device := by simp only [dropFuture, gone]
  moments := by simp only [dropFuture, gone]

/-- Only a future that was left waiting ever cancels a read. -/
theorem idleOnDrop (sharing : Sharing start activities past session threads)
    (unowned : ∀ read, ¬ Awaits past index read) : session.IdleOnDrop index := by
  rcases found : session.futures[index]? with _ | _ | future
  · exact idleOnDrop_of_gone (by rw [found]; rfl)
  · exact idleOnDrop_of_gone (by rw [found]; rfl)
  · have idle : future.id? = none := by
      refine Option.eq_none_iff_forall_ne_some.mpr fun id responsible => ?_
      obtain ⟨read, awaits, _⟩ := sharing.owner found responsible
      exact unowned read awaits
    constructor
    · simp only [Session.withdrawal, found, Option.join_some, Option.bind_some, idle]
    · simp only [dropFuture, found, Option.join_some, idle, setFuture]
    · simp only [dropFuture, found, Option.join_some, idle]

theorem cancelsOnDrop (sharing : Sharing start activities past session threads)
    (coherent : start.Coherent) (awaits : Awaits past index read) {future : Future}
    (found : session.futures[index]? = some (some future))
    (responsible : future.id? = some read.id) : session.CancelsOnDrop index read where
  withdrawal := by
    simp only [Session.withdrawal, found, Option.join_some, Option.bind_some, responsible]
  drop := sharing.dropFuture_eq coherent awaits found responsible

theorem stands (sharing : Sharing start activities past session threads)
    (coherent : start.Coherent) (awaits : Awaits past index read) :
    Stands past session threads index read := by
  obtain ⟨slot, found, stage⟩ := sharing.stage coherent awaits
  cases stage with
  | waiting unresolved =>
      refine .waiting unresolved ?_ ?_ (sharing.cancelsOnDrop coherent awaits found rfl)
      · have isRead := sharing.mem_reads_of_awaits awaits
        simp only [reads, List.mem_append, List.mem_map, Prod.exists, exists_and_right,
          exists_eq_right] at isRead
        rcases isRead with parked | ⟨result, resolved | isDue⟩
        · exact .inl parked
        · exact absurd resolved (unresolved result)
        · exact .inr ⟨result, isDue⟩
      · simp only [Session.poll, found, Option.join_some]
  | @settled result resolved =>
      have raised := sharing.resolutions_perm.symm.subset (List.mem_append_left _ resolved)
      obtain ⟨before, request, served, ended⟩ := mem_resolutions_raised.mp raised
      have ends := (before.serve_effect request).resolution_ends
        ((sharing.history.coherent coherent).2 before request served) ended
      refine .settled resolved ends (sharing.unparked_of_entered coherent resolved) ?_
        (sharing.cancelsOnDrop coherent awaits found rfl)
      simp only [Session.poll, found, Option.join_some]
  | gone =>
      refine .gone ?_ (idleOnDrop_of_gone (by rw [found]; rfl))
      simp only [Session.poll, found, Option.join_some]

end Sharing

/-- What holds of the futures of a session and of the reads they were left waiting for. -/
structure FuturesOwnReads (start : Device (Completion ν)) (past : List (Happening ν))
    (session : Session ν) (threads : List (List (Errand ν))) : Prop where
  /-- Whatever became of the device came of the requests of the threads and of first polls. -/
  history : History start (deeds past) session.device
  /-- A future that was not left waiting, or not polled at all, leaves the device alone. -/
  idle : ∀ index, (∀ read, ¬ Awaits past index read) → session.IdleOnDrop index
  /-- A first poll that waits parks one read, and that is all it does. -/
  parks : ∀ index capacity, session.futures[index]? = some (some (.fresh capacity)) →
    (session.poll index).2.1 = some .waiting →
    let read : ParkedRead (Completion ν) := ⟨session.device.nextId, capacity, inert⟩
    (session.poll index).1.device =
        { session.device with
          queue := session.device.queue.park read
          nextId := session.device.nextId + 1 } ∧
      parkings (Happening.polled session index).deeds = [read]
  stands : ∀ index read, Awaits past index read → Stands past session threads index read
  /-- A future has one read, and a read has one future. -/
  owns : ∀ first second one other, Awaits past first one → Awaits past second other →
    (first = second ↔ one.id = other.id)
  canceled : ∀ index read, Awaits past index read → read ∈ session.device.queue.parked →
    session.device.dispatch (.cancel read.id) =
      (session.device.queued session.device.queue.buffered
          (session.device.queue.parked.filter (·.id ≠ read.id))
          { session.device.queue.counters with
            canceled := session.device.queue.counters.canceled + 1 },
        .ok (.canceled true),
        [.served (.cancel read.id) (.ok (.canceled true)), .completed read.id (.error .canceled),
          .published (.readCanceled read.id)])
  /-- To cancel a read that is over does nothing, to this read or another. -/
  tooLate : ∀ index read, Awaits past index read → read ∉ session.device.queue.parked →
    session.device.dispatch (.cancel read.id) =
      (session.device, .ok (.canceled false),
        [.served (.cancel read.id) (.ok (.canceled false))])
  once : ((entered (deeds past)).map (·.1.id)).Nodup

/-- A future that was left waiting keeps its read: whatever threads do with a session, it waits
until this read is resolved, then yields its result, and cancels no other. -/
theorem Sharing.futures_own_reads {attributes : Attributes} {initialMode : Mode}
    {policies : Policies} {activities : List (Activity ν)} {past : List (Happening ν)}
    {session : Session ν} {threads : List (List (Errand ν))}
    (sharing : Sharing (Device.create attributes initialMode policies) activities past session
      threads) :
    FuturesOwnReads (Device.create attributes initialMode policies) past session threads := by
  have coherent : (Device.create attributes initialMode policies :
      Device (Completion ν)).Coherent := Device.coherent_create ..
  refine
    { history := sharing.history
      idle := fun index => sharing.idleOnDrop
      parks := fun index capacity fresh waits => ?_
      stands := fun index read => sharing.stands coherent
      owns := fun first second one other => sharing.awaits_eq_iff coherent
      canceled := fun index read awaits parked => ?_
      tooLate := fun index read awaits unparked => ?_
      once := sharing.entered_nodup coherent }
  · have polls := session.polls index
    rw [waits] at polls
    obtain ⟨device, _, _, parks⟩ := polls.parks fresh
    exact ⟨device, parks⟩
  · obtain ⟨_, _, _, _, _, rfl⟩ := awaits
    exact Device.dispatch_cancel_parked (sharing.history.coherent coherent).1 parked rfl
  · have isRead := sharing.mem_reads_of_awaits awaits
    exact Device.dispatch_cancel_absent (sharing.absent_of_not_parked coherent isRead unparked)

/-- Of three futures the first has been brought a report, the second waits, and the third has not
been polled. -/
theorem Sharing.futures_own_reads_of_three :
    let start : Device (Completion Unit) :=
      .create DeviceConfig.default.attributes .mouse .default
    let submitter : Activity Unit := .issue (.submitRaw 0 [1, 2, 3]) (fun _ => .done) .done
    ∃ past session threads,
      Sharing start [submitter] past session threads ∧
      Awaits past 0 ⟨1, 3, inert⟩ ∧ Awaits past 1 ⟨2, 5, inert⟩ ∧
      session.futures =
        [some (.settled 1 (.ok [1, 2, 3])), some (.waiting 2), some (.fresh 64)] ∧
      FuturesOwnReads start past session threads := by
  intro start submitter
  let unpolled : Session Unit := ⟨start, [some (.fresh 3), some (.fresh 5), some (.fresh 64)]⟩
  let polled : Session Unit :=
    ⟨{ start with queue := start.queue.park ⟨1, 3, inert⟩, nextId := 2 },
      [some (.waiting 1), some (.fresh 5), some (.fresh 64)]⟩
  have first : unpolled.poll 0 = (polled, some .waiting, _) :=
    poll_of_unbuffered rfl (by decide) rfl
  have second : polled.poll 1 = _ := poll_of_unbuffered rfl (by decide) rfl
  have created : Sharing start [submitter] [.started 3, .started 5, .started 64] unpolled
      [[.act submitter]] := ((Sharing.begin.create 3).create 5).create 64
  have parked := created.poll 0
  rw [first] at parked
  have parked := parked.poll 1
  rw [second] at parked
  have settled := (parked.step [] [] .serve).step [] [] .enter
  refine ⟨_, _, _, settled, ?_, ?_, rfl, settled.futures_own_reads⟩
  · exact ⟨unpolled, by simp, 3, rfl, by rw [first], rfl⟩
  · exact ⟨polled, by simp, 5, rfl, by rw [second], rfl⟩

end Session

end HidPointer
