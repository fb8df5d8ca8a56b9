import HidPointer.Proofs.Ledger
import HidPointer.Proofs.Reads
import HidPointer.Proofs.WireForm

/-!
# Epochs do not mix

A report reaches a reader only in the epoch in which it was accepted and in which the read was
issued. What waits is flushed by a switch, and between the step that decides on a delivery and the
completion that gets the report nothing else is done.
-/

set_option autoImplicit false

namespace HidPointer

variable {ν : Type}

/-- The deed is a switch of the mode, be it to the mode that was active already. -/
def Deed.Switches : Deed ν → Prop
  | served before (.setMode tag) =>
      ∃ transition, (before.serve (.setMode tag)).2.reply = .ok (.modeSet transition)
  | _ => False

/-- At the given point the device, being `before`, took the request. The mode and the epoch were
those of `now`, and no switch has been done since. -/
structure SameEpoch (past : List (Deed ν)) (now : Device (Completion ν)) (position : Nat)
    (before : Device (Completion ν)) (request : Request (Completion ν)) : Prop where
  taken : past[position]? = some (.served before request)
  mode : before.mode = now.mode
  epoch : before.active.epoch = now.active.epoch
  unswitched : ∀ deed ∈ past.drop position, ¬ deed.Switches

/-- The report was accepted in the epoch of `now`, and if it was submitted as a report, its bytes
are read as that report. -/
def Receipt.Current (past : List (Deed ν)) (now : Device (Completion ν)) (receipt : Receipt) :
    Prop :=
  ∃ before request, SameEpoch past now receipt.position before request ∧
    request.accepted? (before.serve request).2.reply = some receipt.bytes ∧
    ∀ report, request = .submit report → Report.decode now.mode receipt.bytes = .ok report

/-- The read was issued in the epoch of `now`, and parked. -/
def ParkedRead.Current (past : List (Deed ν)) (now : Device (Completion ν))
    (read : ParkedRead (Completion ν)) : Prop :=
  ∃ position before,
    SameEpoch past now position before (.read read.capacity read.completion) ∧
      (before.serve (.read read.capacity read.completion)).2.reply = .ok (.pending read.id)

def Errand.Hands (errand : Errand ν) : Prop :=
  ∃ read bytes, errand = .duty (.complete read (.ok bytes))

namespace Device.Effect

variable {κ : Type} {device after : Device κ} {request : Request κ} {served : Served κ}

/-- Only a switch changes the epoch, and it leaves nothing parked. -/
theorem same_epoch_or_switched (effect : Effect device request after served) :
    (after.active = device.active ∧ ∀ transition, served.reply ≠ .ok (.modeSet transition)) ∨
      ((∃ transition, served.reply = .ok (.modeSet transition)) ∧ after.queue.parked = []) := by
  cases effect with
  | told tells =>
      cases tells <;> exact .inl ⟨rfl, nofun⟩
  | switched => exact .inr ⟨⟨_, rfl⟩, rfl⟩
  | _ => exact .inl ⟨rfl, nofun⟩

theorem accepts_of_accepted (effect : Effect device request after served) {bytes : Bytes}
    (accepted : request.accepted? served.reply = some bytes) : device.Accepts request bytes := by
  have same : ∀ {content : Bytes}, device.Accepts request content →
      some request.content = some bytes → device.Accepts request bytes := by
    intro content accepts isContent
    rw [accepts.submits.content_eq] at isContent
    cases isContent
    exact accepts
  cases effect with
  | told tells => cases tells <;> cases accepted
  | delivered accepts | tooSmall accepts | buffered accepts | displaced accepts
  | dropped accepts => exact same accepts accepted
  | _ => cases accepted

/-- A completion gets a report by nothing but a delivery, and then nothing else is due. -/
theorem delivers (effect : Effect device request after served) {read : ParkedRead κ}
    {bytes : Bytes} (member : .complete read (.ok bytes) ∈ served.duties) :
    served = { reply := .ok (.accepted (.delivered read.id)),
               duties := [.complete read (.ok bytes)] } ∧
      request.content = bytes ∧ read ∈ device.queue.parked ∧ after.active = device.active := by
  cases effect with
  | switched => simp at member
  | @delivered _ bytes found rest accepts parked _ =>
      cases List.mem_singleton.mp member
      exact ⟨rfl, accepts.submits.content_eq, by simp [parked], rfl⟩
  | _ => simp at member

theorem answers_with_oldest (effect : Effect device request after served) {bytes : Bytes}
    (ready : served.reply = .ok (.ready bytes)) :
    ∃ rest, device.queue.buffered = bytes :: rest := by
  cases effect with
  | told tells => cases tells <;> cases ready
  | ready _ buffered =>
      cases ready
      exact ⟨_, buffered⟩
  | _ => cases ready

end Device.Effect

theorem Request.Submits.of_report {κ : Type} {report : Report} {mode : Mode} {bytes : Bytes}
    (submits : (Request.submit report : Request κ).Submits mode bytes) :
    report.mode = mode ∧ report.encode = .ok bytes := by
  cases submits with
  | typed encoded => exact ⟨rfl, encoded⟩

theorem Deed.Switches.reply {before : Device (Completion ν)} {request : Request (Completion ν)}
    (switches : (served before request).Switches) :
    ∃ transition, (before.serve request).2.reply = .ok (.modeSet transition) := by
  cases request with
  | setMode => exact switches
  | _ => cases switches

section Later

variable {past : List (Deed ν)} {now later : Device (Completion ν)} {deed : Deed ν}

/-- What was done in this epoch was done in it after another deed, if that is not a switch. -/
theorem SameEpoch.lasts {position : Nat} {before : Device (Completion ν)}
    {request : Request (Completion ν)} (same : SameEpoch past now position before request)
    (quiet : ¬ deed.Switches) (active : later.active = now.active) :
    SameEpoch (past ++ [deed]) later position before request := by
  have inPast : position < past.length := (List.getElem?_eq_some_iff.mp same.taken).1
  refine ⟨?_, ?_, ?_, ?_⟩
  · rw [List.getElem?_append_left inPast]
    exact same.taken
  · rw [same.mode, Device.mode, Device.mode, active]
  · rw [same.epoch, active]
  · intro other member
    rw [List.drop_append_of_le_length (Nat.le_of_lt inPast)] at member
    rcases List.mem_append.mp member with earlier | new
    · exact same.unswitched other earlier
    · cases List.mem_singleton.mp new
      exact quiet

theorem SameEpoch.served {request : Request (Completion ν)}
    (quiet : ¬ (Deed.served now request).Switches) (active : later.active = now.active) :
    SameEpoch (past ++ [.served now request]) later past.length now request := by
  refine ⟨by simp, ?_, by rw [active], ?_⟩
  · rw [Device.mode, Device.mode, active]
  · simpa using quiet

theorem Receipt.Current.lasts {receipt : Receipt} (current : receipt.Current past now)
    (quiet : ¬ deed.Switches) (active : later.active = now.active) :
    receipt.Current (past ++ [deed]) later := by
  obtain ⟨before, request, same, accepted, reads⟩ := current
  have mode : later.mode = now.mode := by rw [Device.mode, Device.mode, active]
  exact ⟨before, request, same.lasts quiet active, accepted, by rwa [mode]⟩

theorem ParkedRead.Current.lasts {read : ParkedRead (Completion ν)}
    (current : read.Current past now) (quiet : ¬ deed.Switches)
    (active : later.active = now.active) : read.Current (past ++ [deed]) later := by
  obtain ⟨position, before, same, parked⟩ := current
  exact ⟨position, before, same.lasts quiet active, parked⟩

theorem Receipt.Current.accepted {request : Request (Completion ν)} {receipt : Receipt}
    (quiet : ¬ (Deed.served now request).Switches) (active : later.active = now.active)
    (position : receipt.position = past.length)
    (accepted : request.accepted? (now.serve request).2.reply = some receipt.bytes) :
    receipt.Current (past ++ [.served now request]) later := by
  refine ⟨now, request, by rw [position]; exact .served quiet active, accepted, ?_⟩
  rintro report rfl
  have mode : later.mode = now.mode := by rw [Device.mode, Device.mode, active]
  have accepts := (now.serve_effect (.submit report)).accepts_of_accepted accepted
  obtain ⟨sameMode, encoded⟩ := accepts.submits.of_report
  rw [mode, ← sameMode]
  exact Report.decode_encode encoded

end Later

/-- Nothing of an earlier epoch waits in the device, and nothing of it is on its way. A report is on
its way only directly after the step that decided on its delivery. -/
structure Isolated (past : List (Deed ν)) (now : Device (Completion ν))
    (errands : List (Errand ν)) : Prop where
  waiting : ∀ receipt ∈ ledger past, receipt.fate = .waiting → receipt.Current past now
  parked : ∀ read ∈ now.queue.parked, read.Current past now
  first : ∀ read bytes rest, errands = .duty (.complete read (.ok bytes)) :: rest →
    (∃ receipt ∈ ledger past, receipt.fate = .delivered read.id ∧ receipt.bytes = bytes ∧
      receipt.Current past now) ∧ read.Current past now
  others : ∀ errand ∈ errands.tail, ¬ errand.Hands

namespace Isolated

variable {past : List (Deed ν)} {now : Device (Completion ν)} {errands : List (Errand ν)}

theorem idle {deed : Deed ν} {remaining : List (Errand ν)}
    (isolated : Isolated past now errands)
    (unbooked : deed.book past.length (ledger past) = ledger past) (quiet : ¬ deed.Switches)
    (none : ∀ errand ∈ remaining, ¬ errand.Hands) :
    Isolated (past ++ [deed]) now remaining := by
  have sameLedger : ledger (past ++ [deed]) = ledger past := by rw [ledger_append, unbooked]
  refine ⟨?_, ?_, ?_, ?_⟩
  · intro receipt member waits
    rw [sameLedger] at member
    exact (isolated.waiting receipt member waits).lasts quiet rfl
  · intro read member
    exact (isolated.parked read member).lasts quiet rfl
  · rintro read bytes rest rfl
    exact absurd ⟨read, bytes, rfl⟩ (none _ List.mem_cons_self)
  · exact fun errand member => none errand (List.mem_of_mem_tail member)

private theorem quiet_of_reply {request : Request (Completion ν)}
    (noSwitch : ∀ transition, (now.serve request).2.reply ≠ .ok (.modeSet transition)) :
    ¬ (Deed.served now request).Switches ∧ (now.serve request).1.active = now.active := by
  constructor
  · intro switches
    obtain ⟨transition, reply⟩ := switches.reply
    exact noSwitch transition reply
  · rcases (now.serve_effect request).same_epoch_or_switched with ⟨active, _⟩ | ⟨⟨_, reply⟩, _⟩
    · exact active
    · exact absurd reply (noSwitch _)

private theorem served_waiting (isolated : Isolated past now errands)
    (request : Request (Completion ν)) {receipt : Receipt}
    (member : receipt ∈ ledger (past ++ [.served now request])) (waits : receipt.fate = .waiting) :
    receipt.Current (past ++ [.served now request]) (now.serve request).1 := by
  rw [ledger_append] at member
  rcases Device.mem_book_of_waiting member waits with ⟨old, noSwitch⟩ | ⟨position, accepted⟩
  · obtain ⟨quiet, active⟩ := quiet_of_reply noSwitch
    exact (isolated.waiting receipt old waits).lasts quiet active
  · have noSwitch : ∀ transition, (now.serve request).2.reply ≠ .ok (.modeSet transition) := by
      intro transition reply
      rw [reply] at accepted
      cases accepted
    obtain ⟨quiet, active⟩ := quiet_of_reply noSwitch
    exact .accepted quiet active position accepted

private theorem served_parked (isolated : Isolated past now errands)
    (request : Request (Completion ν)) {read : ParkedRead (Completion ν)}
    (member : read ∈ (now.serve request).1.queue.parked) :
    read.Current (past ++ [.served now request]) (now.serve request).1 := by
  have effect := now.serve_effect request
  rcases effect.same_epoch_or_switched with ⟨_, noSwitch⟩ | ⟨_, empty⟩
  · obtain ⟨quiet, active⟩ := quiet_of_reply noSwitch
    have origin := effect.reads_conserved.symm.subset (List.mem_append_left _ member)
    rcases List.mem_append.mp origin with old | new
    · exact (isolated.parked read old).lasts quiet active
    · obtain ⟨rfl, reply⟩ := Request.mem_parks.mp new
      exact ⟨past.length, now, .served quiet active, reply⟩
  · rw [empty] at member
    cases member

private theorem served_first (isolated : Isolated past now errands)
    (request : Request (Completion ν)) {read : ParkedRead (Completion ν)} {bytes : Bytes}
    (member : .complete read (.ok bytes) ∈ (now.serve request).2.duties) :
    (∃ receipt ∈ ledger (past ++ [.served now request]), receipt.fate = .delivered read.id ∧
      receipt.bytes = bytes ∧
      receipt.Current (past ++ [.served now request]) (now.serve request).1) ∧
    read.Current (past ++ [.served now request]) (now.serve request).1 := by
  obtain ⟨delivered, content, parked, active⟩ := (now.serve_effect request).delivers member
  have reply := congrArg Served.reply delivered
  have noSwitch : ∀ transition, (now.serve request).2.reply ≠ .ok (.modeSet transition) := by
    rw [reply]
    exact nofun
  obtain ⟨quiet, _⟩ := quiet_of_reply noSwitch
  refine ⟨⟨⟨past.length, bytes, .delivered read.id⟩, ?_, rfl, rfl, ?_⟩, ?_⟩
  · rw [ledger_append, Deed.book, reply, ← content]
    exact List.mem_append_right _ List.mem_cons_self
  · refine .accepted quiet active rfl ?_
    rw [reply, ← content]
    rfl
  · exact (isolated.parked read parked).lasts quiet active

theorem served {request : Request (Completion ν)} {next : Reply → Activity ν} {gone : Activity ν}
    (isolated : Isolated past now (.act (.issue request next gone) :: errands)) :
    Isolated (past ++ [.served now request]) (now.serve request).1
      ((now.serve request).2.duties.map .duty ++
        .act (next (now.serve request).2.reply) :: errands) := by
  refine ⟨fun _ => isolated.served_waiting request, fun _ => isolated.served_parked request,
    ?_, ?_⟩
  · intro read bytes rest same
    refine isolated.served_first request ?_
    cases duties : (now.serve request).2.duties with
    | nil =>
        rw [duties] at same
        cases same
    | cons duty duties =>
        rw [duties] at same
        cases same
        exact List.mem_cons_self
  · intro errand member hands
    cases duties : (now.serve request).2.duties with
    | nil =>
        rw [duties] at member
        exact isolated.others errand member hands
    | cons duty later =>
        rw [duties] at member
        rcases List.mem_append.mp member with due | behind
        · obtain ⟨other, isLater, rfl⟩ := List.mem_map.mp due
          obtain ⟨read, bytes, same⟩ := hands
          cases same
          have member : .complete read (.ok bytes) ∈ (now.serve request).2.duties := by
            rw [duties]
            exact List.mem_cons_of_mem _ isLater
          -- A delivery makes nothing else due, so no report stands behind another duty.
          have alone := congrArg Served.duties ((now.serve_effect request).delivers member).1
          rw [duties] at alone
          cases alone
          cases isLater
        · rcases List.mem_cons.mp behind with rfl | remaining
          · exact nomatch hands
          · exact isolated.others errand remaining hands

end Isolated

namespace Run

variable {start now : Device (Completion ν)} {activity : Activity ν} {past : List (Deed ν)}
  {errands : List (Errand ν)}

theorem isolated (run : Run start activity past now errands)
    (empty : start.queue.parked = []) : Isolated past now errands := by
  induction run using byStep with
  | begin => exact ⟨nofun, by simp [empty], nofun, nofun⟩
  | leave _ ih =>
      -- What becomes the first errand was behind another one, so it does not hand out a report.
      refine ⟨ih.waiting, ih.parked, ?_, fun errand member => ?_⟩
      · rintro read bytes rest rfl
        exact absurd ⟨read, bytes, rfl⟩ (ih.others _ List.mem_cons_self)
      · exact ih.others errand (List.mem_of_mem_tail member)
  | note _ ih | enter _ ih =>
      refine ih.idle rfl id fun errand member hands => ?_
      rcases List.mem_cons.mp member with rfl | remaining
      · exact nomatch hands
      · exact ih.others errand remaining hands
  | publish _ ih => exact ih.idle rfl id ih.others
  | serve _ ih => exact ih.served

end Run

/-- What is true of the reports that reach a reader, at any point of a run: `past` has been done,
the device is `now`, and `errands` remain. -/
structure EpochsKept (past : List (Deed ν)) (now : Device (Completion ν))
    (errands : List (Errand ν)) : Prop where
  /-- When a completion is entered with a report, report and read are of the present epoch. -/
  entered : ∀ read bytes rest, errands = .duty (.complete read (.ok bytes)) :: rest →
    (∃ receipt ∈ ledger past, receipt.fate = .delivered read.id ∧ receipt.bytes = bytes ∧
      receipt.Current past now) ∧ read.Current past now
  /-- When a read is answered with a report, the report is of the present epoch. -/
  returned : ∀ capacity completion next gone rest bytes,
    errands = .act (.issue (.read capacity completion) next gone) :: rest →
    (now.serve (.read capacity completion)).2.reply = .ok (.ready bytes) →
    ∃ receipt ∈ ledger (past ++ [.served now (.read capacity completion)]),
      receipt.fate = .returned past.length ∧ receipt.bytes = bytes ∧ receipt.Current past now

/-- No report and no read of one epoch meets one of another. -/
theorem Run.epochs_kept {attributes : Attributes} {initialMode : Mode} {policies : Policies}
    {activity : Activity ν} {past : List (Deed ν)} {now : Device (Completion ν)}
    {errands : List (Errand ν)}
    (run : Run (.create attributes initialMode policies) activity past now errands) :
    EpochsKept past now errands := by
  have isolated := run.isolated rfl
  refine ⟨isolated.first, ?_⟩
  intro capacity completion next gone rest bytes _ reply
  obtain ⟨behind, buffered⟩ :=
    (now.serve_effect (.read capacity completion)).answers_with_oldest reply
  obtain ⟨receipt, same, moved⟩ :=
    Receipt.settleFirst_settled (.returned past.length) ((run.ledger_waiting rfl).trans buffered)
  obtain ⟨kept, wasPerm, isPerm⟩ := moved.exchanged
  have waits := moved.waited receipt List.mem_cons_self
  have old : receipt ∈ ledger past := wasPerm.symm.subset (by simp)
  refine ⟨receipt.settle (.returned past.length), ?_, rfl, same, isolated.waiting receipt old waits⟩
  rw [ledger_append, Deed.book, reply]
  exact isPerm.symm.subset (by simp)

/-- A read that is parked again after a switch gets a report that was submitted after it. -/
theorem Run.epochs_kept_rearmed :
    let device : Device (Completion Unit) :=
      .create DeviceConfig.default.attributes .mouse .default
    let touch : Report := .singleTouch true 10 20
    let activity : Activity Unit :=
      .issue (.read 3 fun _ => .issue (.read 5 fun _ => .done) (fun _ => .done) .done)
        (fun _ => .issue (.setMode 1) (fun _ => .issue (.submit touch) (fun _ => .done) .done)
          .done) .done
    ∃ past now read rest,
      Run device activity past now
        (.duty (.complete read (.ok [1, 10, 0, 20, 0])) :: rest) ∧ read.id = 2 ∧
      EpochsKept past now (.duty (.complete read (.ok [1, 10, 0, 20, 0])) :: rest) := by
  intro device touch activity
  have start : Run device activity [] device [.act activity] := .begin
  have flushed := start.serve.serve.enter.serve.leave.publish
  have handed := flushed.serve
  exact ⟨_, _, _, _, handed, rfl, Run.epochs_kept handed⟩

end HidPointer
