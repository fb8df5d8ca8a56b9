import HidPointer.Proofs.Effect
import HidPointer.Proofs.Interleaving

/-!
# What is counted of the submissions

A submission is answered in one of two ways: its report is accepted, or it is refused because it
is not valid. The counters of the device tell how many of them were answered in either way, but for
one exception. Bytes whose tag no mode has are turned away before they come to the device, and are
not counted. So nothing is missing from the counters exactly when every submission was for a mode
that exists (`Interleaving.submissions_counted`).
-/

set_option autoImplicit false

namespace HidPointer

def Request.submission? {κ : Type} (request : Request κ) (reply : Reply) :
    Option (Request κ × Reply) :=
  match request with
  | .submit _ | .submitRaw _ _ => some (request, reply)
  | _ => none

/-- Whether the mode that the request is for exists. Only raw bytes can be for one that does not. -/
def Request.namesMode {κ : Type} : Request κ → Bool
  | .submitRaw tag _ => (Mode.ofTag? tag).isSome
  | _ => true

def Reply.accepts : Reply → Bool
  | .ok (.accepted _) => true
  | _ => false

/-- Whether the answer is that something is not valid. -/
def Reply.refuses : Reply → Bool
  | .error (.validation _) => true
  | _ => false

namespace Request.Submits

variable {κ : Type} {request : Request κ} {mode : Mode} {bytes : Bytes}

theorem submission_eq (submits : request.Submits mode bytes) (reply : Reply) :
    request.submission? reply = some (request, reply) := by
  cases submits <;> rfl

theorem names_mode (submits : request.Submits mode bytes) : request.namesMode = true := by
  cases submits with
  | typed => rfl
  | raw known => exact Option.isSome_iff_exists.mpr ⟨mode, known⟩

end Request.Submits

/-- The counters went from `before` to `after` with these answered submissions. -/
structure Tallied {κ : Type} (before after : Counters) (answered : List (Request κ × Reply)) :
    Prop where
  accepted : after.accepted = before.accepted + answered.countP (Reply.accepts ·.2)
  rejected : after.rejected = before.rejected + answered.countP
    fun submission => submission.1.namesMode && Reply.refuses submission.2
  total : after.accepted + after.rejected =
    before.accepted + before.rejected + answered.countP (·.1.namesMode)

theorem Tallied.trans {κ : Type} {first second third : Counters}
    {earlier later : List (Request κ × Reply)} (before : Tallied first second earlier)
    (after : Tallied second third later) : Tallied first third (earlier ++ later) := by
  refine ⟨?_, ?_, ?_⟩
  · rw [after.accepted, before.accepted, List.countP_append, Nat.add_assoc]
  · rw [after.rejected, before.rejected, List.countP_append, Nat.add_assoc]
  · rw [after.total, before.total, List.countP_append, Nat.add_assoc]

namespace Device.Effect

variable {κ : Type} {device after : Device κ} {request : Request κ} {served : Served κ}

theorem tallied (effect : Effect device request after served) :
    Tallied device.queue.counters after.queue.counters
      (request.submission? served.reply).toList := by
  cases effect with
  | told tells => cases tells <;> exact ⟨rfl, rfl, rfl⟩
  | unknownTag unknown =>
      constructor <;> simp [Request.submission?, Request.namesMode, Reply.accepts, unknown]
  | unencodable => exact ⟨rfl, rfl, rfl⟩
  | invalid submits =>
      rw [submits.submission_eq]
      refine ⟨rfl, ?_, ?_⟩
      · simp [submits.names_mode, Reply.refuses]
      · simp [submits.names_mode, Nat.add_assoc]
  | delivered accepts | tooSmall accepts | buffered accepts | displaced accepts
  | dropped accepts =>
      rw [accepts.submits.submission_eq]
      refine ⟨rfl, ?_, ?_⟩
      · simp [Reply.refuses]
      · simp [accepts.submits.names_mode, Nat.add_right_comm]
  | noSuchMode | switched | noRoom | ready | parked | notParked | canceled =>
      exact ⟨rfl, rfl, rfl⟩

theorem answers_submission (effect : Effect device request after served) :
    ∀ submission ∈ request.submission? served.reply,
      Reply.refuses submission.2 = !Reply.accepts submission.2 ∧
        (submission.1.namesMode = false → Reply.refuses submission.2 = true) := by
  cases effect with
  | told tells => cases tells <;> simp [Request.submission?]
  | unknownTag | unencodable => simp [Request.submission?, Reply.accepts, Reply.refuses]
  | invalid submits => simp [submits.submission_eq, Reply.accepts, Reply.refuses]
  | delivered accepts | tooSmall accepts | buffered accepts | displaced accepts
  | dropped accepts =>
      simp [accepts.submits.submission_eq, accepts.submits.names_mode, Reply.accepts,
        Reply.refuses]
  | noSuchMode | switched | noRoom | ready | parked | notParked | canceled =>
      simp [Request.submission?]

end Device.Effect

section Interleavings

variable {ν : Type}

def Deed.submission? : Deed ν → Option (Request (Completion ν) × Reply)
  | served before request => request.submission? (before.serve request).2.reply
  | _ => none

/-- The submissions so far, each with the answer to it. -/
def submissions (past : List (Deed ν)) : List (Request (Completion ν) × Reply) :=
  past.filterMap Deed.submission?

theorem submissions_concat (past : List (Deed ν)) (deed : Deed ν) :
    submissions (past ++ [deed]) = submissions past ++ deed.submission?.toList :=
  filterMap_concat Deed.submission? past deed

/-- What the counters of the device `now` tell of the submissions among the deeds `past`. -/
structure SubmissionsCounted (past : List (Deed ν)) (now : Device (Completion ν)) : Prop where
  accepted : now.queue.counters.accepted = (submissions past).countP (Reply.accepts ·.2)
  rejected : now.queue.counters.rejected = (submissions past).countP
    fun submission => submission.1.namesMode && Reply.refuses submission.2
  total : now.queue.counters.accepted + now.queue.counters.rejected =
    (submissions past).countP (·.1.namesMode)
  /-- A submission is accepted or else refused, and refused if its mode does not exist. -/
  answered : ∀ submission ∈ submissions past,
    Reply.refuses submission.2 = !Reply.accepts submission.2 ∧
      (submission.1.namesMode = false → Reply.refuses submission.2 = true)

/-- Nothing is missing from the counters. -/
structure EverySubmissionCounted (past : List (Deed ν)) (now : Device (Completion ν)) : Prop where
  accepted : now.queue.counters.accepted = (submissions past).countP (Reply.accepts ·.2)
  rejected : now.queue.counters.rejected = (submissions past).countP (Reply.refuses ·.2)
  total : now.queue.counters.accepted + now.queue.counters.rejected = (submissions past).length

theorem History.tallied {start now : Device (Completion ν)} {past : List (Deed ν)}
    (history : History start past now) :
    Tallied start.queue.counters now.queue.counters (submissions past) := by
  induction history with
  | begin => exact ⟨rfl, rfl, rfl⟩
  | entered _ _ _ ih | published _ _ ih | noted _ _ ih =>
      simpa only [submissions_concat, Deed.submission?, Option.toList_none, List.append_nil]
        using ih
  | @served past now request _ ih =>
      rw [submissions_concat]
      exact ih.trans (now.serve_effect request).tallied

theorem answers_submissions {past : List (Deed ν)} :
    ∀ submission ∈ submissions past,
      Reply.refuses submission.2 = !Reply.accepts submission.2 ∧
        (submission.1.namesMode = false → Reply.refuses submission.2 = true) := by
  intro submission member
  obtain ⟨deed, _, submitted⟩ := List.mem_filterMap.mp member
  cases deed with
  | served before request =>
      exact (before.serve_effect request).answers_submission submission submitted
  | entered | published | noted => cases submitted

theorem SubmissionsCounted.every_iff {past : List (Deed ν)} {now : Device (Completion ν)}
    (counted : SubmissionsCounted past now) :
    EverySubmissionCounted past now ↔
      ∀ submission ∈ submissions past, submission.1.namesMode = true := by
  constructor
  · intro every
    have same := counted.total.symm.trans every.total
    exact List.countP_eq_length.mp same
  · intro named
    refine ⟨counted.accepted, ?_, ?_⟩
    · rw [counted.rejected]
      refine List.countP_congr fun submission member => ?_
      rw [named submission member, Bool.true_and]
    · rw [counted.total]
      exact List.countP_eq_length.mpr named

/-- The counters tell how many submissions for modes that exist were accepted and refused. They
tell it of all submissions if there were no others. -/
theorem Interleaving.submissions_counted {attributes : Attributes} {initialMode : Mode}
    {policies : Policies} {activities : List (Activity ν)} {past : List (Deed ν)}
    {now : Device (Completion ν)} {threads : List (List (Errand ν))}
    (run : Interleaving (.create attributes initialMode policies) activities past now threads) :
    SubmissionsCounted past now ∧
      (EverySubmissionCounted past now ↔
        ∀ submission ∈ submissions past, submission.1.namesMode = true) := by
  obtain ⟨accepted, rejected, total⟩ := run.history.tallied
  have counted : SubmissionsCounted past now :=
    ⟨accepted.trans (Nat.zero_add _), rejected.trans (Nat.zero_add _),
      total.trans (Nat.zero_add _), answers_submissions⟩
  exact ⟨counted, counted.every_iff⟩

/-- A movement that is accepted, one that is refused, and bytes for no mode at all. -/
theorem Interleaving.submissions_counted_unknown_tag :
    let device : Device (Completion Unit) :=
      .create DeviceConfig.default.attributes .mouse .default
    let producer : Activity Unit :=
      .issue (.submit (.mouse 1 5 (-3))) (fun _ =>
        .issue (.submitRaw 1 [1, 10, 0, 20, 0]) (fun _ =>
          .issue (.submitRaw 7 [0, 1, 1]) (fun _ => .done) .done) .done) .done
    ∃ past now threads, Interleaving device [producer] past now threads ∧
      (submissions past).length = 3 ∧ now.queue.counters.rejected = 1 ∧
      SubmissionsCounted past now ∧ ¬ EverySubmissionCounted past now := by
  intro device producer
  have start : Run device producer [] device [.act producer] := .begin
  have run := start.serve.serve.serve.interleaving
  obtain ⟨counted, _⟩ := Interleaving.submissions_counted run
  refine ⟨_, _, _, run, rfl, rfl, counted, fun every => ?_⟩
  have total : 1 + 1 = 3 := every.total
  contradiction

/-- Not every submission is counted: bytes for no mode are refused, and no counter tells. -/
theorem Interleaving.submission_uncounted :
    ¬ ∀ (attributes : Attributes) (initialMode : Mode) (policies : Policies)
      (activities : List (Activity Unit)) (past : List (Deed Unit))
      (now : Device (Completion Unit)) (threads : List (List (Errand Unit))),
      Interleaving (.create attributes initialMode policies) activities past now threads →
        EverySubmissionCounted past now := by
  intro always
  let device : Device (Completion Unit) :=
    .create DeviceConfig.default.attributes .mouse .default
  let producer : Activity Unit := .issue (.submitRaw 7 [0, 0, 0]) (fun _ => .done) .done
  have start : Run device producer [] device [.act producer] := .begin
  have every := always _ _ _ _ _ _ _ start.serve.interleaving
  have rejected : 0 = 1 := every.rejected
  contradiction

end Interleavings

end HidPointer
