import Mathlib.Data.List.Forall2
import Mathlib.Data.List.Induction
import HidPointer.Proofs.Coherent
import HidPointer.Proofs.ConfigOverlay
import HidPointer.Proofs.JsonShapes
import HidPointer.Proofs.Reads
import HidPointer.Proofs.Relabel
import HidPointer.Proofs.TextLines

/-!
# The output of a script

A command is answered by one line, and before it stand the lines for the reads that it ended. To
say which line belongs to which read, a device is taken whose reads keep nothing but the number of
the command that issued them (`Dialogue`). With completions that write lines it does the same, so
the dialogue is what the program writes: its rows can be read off the lines of the output again.
-/

set_option autoImplicit false

namespace HidPointer

namespace Device.Effect

variable {κ : Type} {device after : Device κ} {request : Request κ} {served : Served κ}

theorem resolution_parked (effect : Effect device request after served)
    {resolution : ParkedRead κ × ReadResult} (member : resolution ∈ resolutions served.duties) :
    resolution.1 ∈ device.queue.parked := by
  cases effect with
  | switched =>
      simp only [resolutions_append, resolutions_flush, resolutions_publish, resolutions_nil,
        List.append_nil, List.mem_map] at member
      obtain ⟨read, parked, rfl⟩ := member
      exact parked
  | delivered _ parked _ | tooSmall _ parked _ | canceled parked _ =>
      cases List.mem_singleton.mp member
      simp [parked]
  | _ => cases member

theorem parked_sublist (effect : Effect device request after served) :
    after.queue.parked.Sublist (device.queue.parked ++ request.parks served.reply) := by
  cases effect with
  | switched | buffered | displaced | dropped => exact List.nil_sublist _
  | delivered _ parked _ | tooSmall _ parked _ =>
      rw [parked]
      exact (List.sublist_cons_self ..).trans (List.sublist_append_left ..)
  | parked => exact .refl _
  | canceled parked _ =>
      rw [parked]
      exact ((List.sublist_cons_self ..).append_left _).trans (List.sublist_append_left ..)
  | _ => exact List.sublist_append_left ..

theorem parks_of_pending (effect : Effect device request after served) {id : Nat}
    (pending : served.reply = .ok (.pending id)) : request.parks served.reply ≠ [] := by
  cases effect with
  | told tells => cases tells <;> cases pending
  | parked => simp
  | _ => cases pending

end Device.Effect

namespace Replay

/-- The request that a command stands for, with its number as the completion. -/
def labelled (seq : Nat) : Command → Request Nat
  | .attributes => .attributes
  | .classDescriptor => .classDescriptor
  | .reportDescriptor => .reportDescriptor
  | .mode => .mode
  | .setMode mode => .setMode mode.tag
  | .submit report => .submit report
  | .submitRaw mode bytes => .submitRaw mode.tag bytes
  | .read capacity => .read capacity seq
  | .cancel id => .cancel id
  | .counters => .counters

def completionLines (ended : List (ParkedRead Nat × ReadResult)) : List Json :=
  ended.map fun (read, result) => completionLine read.completion result

/-- The lines for the reads that still wait in a device at its end. -/
def canceledLines (device : Device Nat) : List Json :=
  completionLines (device.queue.parked.map (·, .error .canceled))

/-- `Dialogue explain start commands rows now`: the device `start` takes the commands, one after the
other, and is `now`. The rows are the lines that are written meanwhile. `explain` is what the parser
says of a line that is no command. -/
inductive Dialogue (explain : String → String) (start : Device Nat) :
    List String → List Json → Device Nat → Prop where
  | begin : Dialogue explain start [] [] start
  | malformed {lines : List String} {rows : List Json} {now : Device Nat} {line : String} :
      Dialogue explain start lines rows now →
      Command.parse? line = none →
      Dialogue explain start (lines ++ [line])
        (rows ++
          [.object
            [("seq", .nat (lines.length + 1)), ("error", .text "serialization"),
              ("message", .text ("Serialization error: " ++ explain line))]]) now
  | answered {lines : List String} {rows : List Json} {now : Device Nat} {line : String}
      {command : Command} :
      Dialogue explain start lines rows now →
      Command.parse? line = some command →
      Dialogue explain start (lines ++ [line])
        (rows ++
          (completionLines
              (resolutions (now.serve (labelled (lines.length + 1) command)).2.duties) ++
            [responseLine (lines.length + 1)
              (now.serve (labelled (lines.length + 1) command)).2.reply]))
        (now.serve (labelled (lines.length + 1) command)).1

section Writing

def writes (seq : Nat) : Completion Json :=
  fun result => .note (completionLine seq result) .done

theorem labelled_map (seq : Nat) (command : Command) :
    (labelled seq command).map writes = request seq command := by
  cases command <;> rfl

theorem perform_writes (device : Device (Completion Json)) (duties : List (Duty Nat)) :
    (device.perform ((duties.map (·.map writes)).map .duty)).1 = device ∧
      noted (device.perform ((duties.map (·.map writes)).map .duty)).2 =
        completionLines (resolutions duties) := by
  induction duties with
  | nil => simp [Device.perform, noted, completionLines]
  | cons duty duties ih =>
      cases duty with
      | complete read result =>
          simp only [List.map_cons, Duty.map_complete, Device.perform, ParkedRead.map_completion,
            writes]
          exact ⟨ih.1, congrArg (_ :: ·) ih.2⟩
      | publish event =>
          simp only [List.map_cons, Duty.map_publish, Device.perform]
          exact ih

theorem step_malformed (device : Device (Completion Json)) (seq : Nat) {line : String}
    (unparsed : Command.parse? line = none) (explain : String → Option String) :
    step device seq line explain =
      { device := device, completions := [], response := malformedLine seq (explain line) } := by
  rw [step, unparsed]

theorem step_answered (now : Device Nat) (seq : Nat) {line : String} {command : Command}
    (parsed : Command.parse? line = some command) (explain : String → Option String) :
    step (now.map writes) seq line explain =
      { device := (now.serve (labelled seq command)).1.map writes
        completions := completionLines (resolutions (now.serve (labelled seq command)).2.duties)
        response := responseLine seq (now.serve (labelled seq command)).2.reply } := by
  have served := now.serve_map writes (labelled seq command)
  have performed := perform_writes ((now.serve (labelled seq command)).1.map writes)
    (now.serve (labelled seq command)).2.duties
  rw [step, parsed]
  simp only [Device.dispatch, ← labelled_map, served, Served.map, performed.1]
  rw [← performed.2]
  rfl

/-- The commands among lines: the lines without the blanks around them, if there is something left
that is no comment. -/
def commandsIn (lines : List String) : List String :=
  (lines.map Text.trim).filter fun line => line ≠ "" ∧ line.toList.head? ≠ some '#'

theorem isCommand_eq_true_iff {line : String} :
    isCommand line = true ↔ line ≠ "" ∧ line.toList.head? ≠ some '#' := by
  rw [isCommand, ne_eq, ← String.toList_eq_nil_iff]
  cases line.toList <;> simp

theorem commandsIn_concat_of_isCommand {lines : List String} {line : String}
    (isCommand : isCommand (Text.trim line) = true) :
    commandsIn (lines ++ [line]) = commandsIn lines ++ [Text.trim line] := by
  simp [commandsIn, List.filter_append, isCommand_eq_true_iff.mp isCommand]

theorem commandsIn_concat_of_not_isCommand {lines : List String} {line : String}
    (noCommand : ¬ isCommand (Text.trim line) = true) :
    commandsIn (lines ++ [line]) = commandsIn lines := by
  rw [isCommand_eq_true_iff] at noCommand
  simp [commandsIn, List.filter_append, noCommand]

/-- The line after those that have been taken. -/
theorem State.takeAll_concat {state next final : State} {explain : String → Option String}
    {lines : List (List UInt8)} {line : List UInt8} {rows more : List Json}
    (sofar : state.takeAll explain lines = (rows, some next))
    (last : next.take? explain line = some (final, more)) :
    state.takeAll explain (lines ++ [line]) = (rows ++ more, some final) := by
  induction lines generalizing state rows with
  | nil =>
      cases sofar
      simp [takeAll, last]
  | cons first lines ih =>
      cases taken : state.take? explain first with
      | none => simp [takeAll, taken] at sofar
      | some step =>
          simp only [takeAll, taken, Prod.mk.injEq] at sofar
          obtain ⟨rfl, isNext⟩ := sofar
          have rest := ih (Prod.ext rfl isNext)
          simp [List.cons_append, takeAll, taken, rest]

/-- The commands in the lines have a dialogue, and that is what the program writes. -/
theorem exists_dialogue (explain : String → String) (start : Device Nat)
    (lines : List String) :
    ∃ rows now, Dialogue explain start (commandsIn lines) rows now ∧
      ({ device := start.map writes } : State).takeAll (fun line => some (explain line))
          (lines.map Text.encode) =
        (rows, some { device := now.map writes, taken := (commandsIn lines).length }) := by
  induction lines using List.reverseRecOn with
  | nil => exact ⟨_, _, .begin, rfl⟩
  | append_singleton lines line ih =>
      obtain ⟨rows, now, dialogue, written⟩ := ih
      rw [List.map_append, List.map_singleton]
      by_cases isCommand : isCommand (Text.trim line) = true
      · rw [commandsIn_concat_of_isCommand isCommand, List.length_append, List.length_singleton]
        cases parsed : Command.parse? (Text.trim line) with
        | none =>
            refine ⟨_, _, dialogue.malformed parsed, State.takeAll_concat written ?_⟩
            simp [State.take?, Text.decode?_encode, State.take, isCommand,
              step_malformed _ _ parsed, malformedLine]
        | some command =>
            refine ⟨_, _, dialogue.answered parsed, State.takeAll_concat written ?_⟩
            simp [State.take?, Text.decode?_encode, State.take, isCommand,
              step_answered _ _ parsed]
      · rw [commandsIn_concat_of_not_isCommand isCommand]
        refine ⟨rows, now, dialogue, ?_⟩
        have taken : ({ device := now.map writes, taken := (commandsIn lines).length } :
            State).take? (fun line => some (explain line)) (Text.encode line) =
              some ({ device := now.map writes, taken := (commandsIn lines).length }, []) := by
          simp [State.take?, Text.decode?_encode, State.take, isCommand]
        simpa using State.takeAll_concat written taken

theorem finish_writes (now : Device Nat) : finish (now.map writes) = canceledLines now := by
  unfold finish Device.remove Device.retire ReportQueue.drain canceledLines
  simp only [Device.map, ReportQueue.map]
  induction now.queue.parked with
  | nil => rfl
  | cons read reads ih => exact congrArg (_ :: ·) ih

end Writing

section Lines

/-- The number that a line has under a name. -/
def number? (name : String) : Json → Option Nat
  | .obj members => (members.lookup (some name)).bind fun
      | .int value => value.toNat?
      | _ => none
  | _ => none

variable (seq : Nat) (reply : Reply) (result : ReadResult)

@[simp] theorem seq_responseLine : number? "seq" (responseLine seq reply) = some seq := by
  cases reply <;> rfl

@[simp] theorem completed_responseLine : number? "completed" (responseLine seq reply) = none := by
  cases reply <;> rfl

@[simp] theorem seq_completionLine : number? "seq" (completionLine seq result) = none := by
  cases result <;> rfl

@[simp] theorem completed_completionLine :
    number? "completed" (completionLine seq result) = some seq := rfl

@[simp] theorem seq_completionLines (ended : List (ParkedRead Nat × ReadResult)) :
    (completionLines ended).filterMap (number? "seq") = [] := by
  simp [completionLines]

@[simp] theorem completed_completionLines (ended : List (ParkedRead Nat × ReadResult)) :
    (completionLines ended).filterMap (number? "completed") = ended.map (·.1.completion) := by
  simp [completionLines, List.filterMap_map, Function.comp_def]

theorem completed_canceledLines (device : Device Nat) :
    (canceledLines device).filterMap (number? "completed") =
      device.queue.parked.map (·.completion) := by
  simp [canceledLines, Function.comp_def]

theorem responseLine_not_mem (ended : List (ParkedRead Nat × ReadResult)) :
    responseLine seq reply ∉ completionLines ended := by
  intro member
  obtain ⟨resolution, _, same⟩ := List.mem_map.mp member
  simpa using congrArg (number? "completed") same

end Lines

theorem toJson_eq_pending {response : Response} {id : Nat}
    (same : response.toJson = (Response.pending id).toJson) : response = .pending id := by
  have number : number? "pending" response.toJson = some id := by
    rw [same]
    rfl
  cases response with
  | pending other => exact congrArg Response.pending (Option.some.inj number)
  | accepted status => cases status <;> exact nomatch number
  | mode active => cases active <;> exact nomatch number
  | _ => exact nomatch number

theorem responseLine_eq_pending {seq number id : Nat} {reply : Reply}
    (same : responseLine seq reply = responseLine number (.ok (.pending id))) :
    seq = number ∧ reply = .ok (.pending id) := by
  have sameNumber : some seq = some number := by simpa using congrArg (number? "seq") same
  refine ⟨Option.some.inj sameNumber, ?_⟩
  cases reply with
  | error error => simp [responseLine, Json.object, DeviceError.members] at same
  | ok response =>
      have sameResponse : Json.nat seq = Json.nat number ∧
          response.toJson = (Response.pending id).toJson := by
        simpa [responseLine, Json.object] using same
      rw [toJson_eq_pending sameResponse.2]

/-- The command waits, by its number, if the answer is that the read is parked. -/
theorem labelled_waits (seq : Nat) (command : Command) (reply : Reply) :
    let waits := ((labelled seq command).parks reply).map (·.completion)
    waits = [] ∨ waits = [seq] ∧ ∃ id, reply = .ok (.pending id) := by
  cases command with
  | read capacity =>
      rcases reply with error | response
      · exact .inl rfl
      · cases response with
        | pending id => exact .inr ⟨rfl, id, rfl⟩
        | _ => exact .inl rfl
  | _ => exact .inl rfl

theorem mem_waits_iff {seq : Nat} {command : Command} {now after : Device Nat}
    {served : Served Nat} (effect : now.Effect (labelled seq command) after served)
    (number : Nat) :
    number ∈ ((labelled seq command).parks served.reply).map (·.completion) ↔
      ∃ id, responseLine number (.ok (.pending id)) = responseLine seq served.reply := by
  rcases labelled_waits seq command served.reply with none | ⟨one, id, pending⟩
  · rw [none]
    refine ⟨fun member => absurd member List.not_mem_nil, ?_⟩
    rintro ⟨id, same⟩
    have pending := (responseLine_eq_pending same.symm).2
    exact absurd (List.map_eq_nil_iff.mp none) (effect.parks_of_pending pending)
  · rw [one, List.mem_singleton, pending]
    constructor
    · rintro rfl
      exact ⟨id, rfl⟩
    · rintro ⟨other, same⟩
      exact (responseLine_eq_pending same.symm).1.symm

/-- A line that tells of the end of a read comes after the line that says that it waits. -/
def AfterAnswers (rows : List Json) : Prop :=
  ∀ front row back seq, rows = front ++ row :: back → number? "completed" row = some seq →
    ∃ id, responseLine seq (.ok (.pending id)) ∈ front

theorem AfterAnswers.append {rows more : List Json} (earlier : AfterAnswers rows)
    (answered : ∀ row ∈ more, ∀ seq, number? "completed" row = some seq →
      ∃ id, responseLine seq (.ok (.pending id)) ∈ rows) : AfterAnswers (rows ++ more) := by
  intro front row back seq split completed
  rcases List.append_eq_append_iff.mp split with ⟨middle, same, rest⟩ | ⟨middle, same, rest⟩
  · obtain ⟨id, member⟩ := answered row (by simp [rest]) seq completed
    exact ⟨id, by simp [same, member]⟩
  · cases middle with
    | nil =>
        -- The line is the first of the new ones.
        have isFirst : more = row :: back := rest.symm
        obtain ⟨id, member⟩ := answered row (by simp [isFirst]) seq completed
        exact ⟨id, by simpa [same] using member⟩
    | cons first middle =>
        obtain ⟨rfl, _⟩ := List.cons.inj rest
        exact earlier front row middle seq same completed

/-- How the lines account for the reads when `count` commands have been taken, of which those in
`waits` were told to wait. -/
structure Accounted (count : Nat) (rows : List Json) (now : Device Nat) (waits : List Nat) :
    Prop where
  numbered : rows.filterMap (number? "seq") = List.range' 1 count
  answered : ∀ seq, seq ∈ waits ↔ ∃ id, responseLine seq (.ok (.pending id)) ∈ rows
  issued : waits.Sublist (List.range' 1 count)
  ended : (now.queue.parked.map (·.completion) ++ rows.filterMap (number? "completed")).Perm waits
  parked : (now.queue.parked.map (·.completion)).Sublist waits
  after : AfterAnswers rows

/-- What a turn adds: the reads that ended were parked, and at most the command itself waits. -/
theorem Accounted.turn {count : Nat} {rows : List Json} {now later : Device Nat}
    {waits : List Nat} (accounted : Accounted count rows now waits)
    (ended : List (ParkedRead Nat × ReadResult)) (more : List Nat) {response : Json}
    (number : number? "seq" response = some (count + 1))
    (answers : number? "completed" response = none)
    (pending : ∀ seq, seq ∈ more ↔ ∃ id, responseLine seq (.ok (.pending id)) = response)
    (own : more.Sublist [count + 1])
    (conserved : (now.queue.parked.map (·.completion) ++ more).Perm
      (later.queue.parked.map (·.completion) ++ ended.map (·.1.completion)))
    (kept : (later.queue.parked.map (·.completion)).Sublist
      (now.queue.parked.map (·.completion) ++ more))
    (wereParked : ∀ resolution ∈ ended, resolution.1 ∈ now.queue.parked) :
    Accounted (count + 1) (rows ++ (completionLines ended ++ [response])) later
      (waits ++ more) := by
  refine ⟨?_, ?_, ?_, ?_, kept.trans (accounted.parked.append_right more), ?_⟩
  · simp [accounted.numbered, number, List.range'_concat, Nat.add_comm]
  · intro seq
    simp only [List.mem_append, accounted.answered, pending, responseLine_not_mem,
      List.mem_singleton, false_or, exists_or]
  · rw [List.range'_concat, Nat.one_mul, Nat.add_comm 1]
    exact accounted.issued.append own
  · -- A number moves from the parked reads to the lines, or comes in with the command.
    rw [List.perm_iff_count]
    intro seq
    have before := accounted.ended.count_eq seq
    have change := conserved.count_eq seq
    simp only [List.filterMap_append, completed_completionLines, List.count_append, answers,
      List.filterMap_cons_none, List.filterMap_nil, List.count_nil] at before change ⊢
    omega
  · refine accounted.after.append ?_
    intro row member seq completed
    rcases List.mem_append.mp member with line | line
    · obtain ⟨resolution, isEnded, rfl⟩ := List.mem_map.mp line
      cases completed
      have waited : resolution.1.completion ∈ now.queue.parked.map (·.completion) :=
        List.mem_map_of_mem (wereParked resolution isEnded)
      exact (accounted.answered _).mp (accounted.parked.subset waited)
    · cases List.mem_singleton.mp line
      cases answers.symm.trans completed

theorem Dialogue.accounted {explain : String → String} {start now : Device Nat}
    {lines : List String} {rows : List Json} (dialogue : Dialogue explain start lines rows now)
    (noRead : start.queue.parked = []) :
    ∃ waits, Accounted lines.length rows now waits := by
  induction dialogue with
  | begin =>
      refine ⟨[], rfl, by simp, .slnil, by simp [noRead], by simp [noRead], ?_⟩
      intro front row back seq split
      simp at split
  | @malformed lines rows now line _ unparsed ih =>
      obtain ⟨waits, accounted⟩ := ih
      rw [List.length_append]
      refine ⟨waits ++ [], accounted.turn [] [] rfl rfl ?_ (List.nil_sublist _) (.refl _)
        (List.sublist_append_left ..) (by simp)⟩
      intro seq
      simp [responseLine, Json.object]
  | @answered lines rows now line command _ parsed ih =>
      obtain ⟨waits, accounted⟩ := ih
      have effect := now.serve_effect (labelled (lines.length + 1) command)
      have conserved := effect.reads_conserved.map (·.completion)
      have kept := effect.parked_sublist.map (·.completion)
      simp only [List.map_append, List.map_map, Function.comp_def] at conserved kept
      rw [List.length_append]
      refine ⟨_, accounted.turn _ _ (seq_responseLine ..) (completed_responseLine ..)
        (mem_waits_iff effect) ?_ conserved kept fun _ => effect.resolution_parked⟩
      rcases labelled_waits (lines.length + 1) command
        (now.serve (labelled (lines.length + 1) command)).2.reply with none | ⟨one, _⟩
      · simp [none]
      · simp [one]

section Shown

theorem plain_toJson (response : Response) : response.toJson.Plain := by
  cases response with
  | attributes identity => exact identity.plain_toJson
  | classDescriptor bytes | reportDescriptor bytes => exact Json.plain_bytes bytes
  | mode active => exact active.plain_toJson
  | modeSet transition => exact transition.plain_toJson
  | accepted status => exact status.plain_toJson
  | ready bytes => exact Json.plain_object (by simp) (by simp)
  | pending id => exact Json.plain_object (by simp) (by simp)
  | canceled wasParked => exact Json.plain_object (by simp) (by simp)
  | counters counts => exact counts.plain_toJson

theorem plain_responseLine (seq : Nat) (reply : Reply) : (responseLine seq reply).Plain := by
  cases reply with
  | ok response => exact Json.plain_object (by simp) (by simp [plain_toJson])
  | error error =>
      exact Json.plain_object (by simp [DeviceError.members]) (by simp [DeviceError.members])

theorem plain_completionLine (seq : Nat) (result : ReadResult) :
    (completionLine seq result).Plain := by
  cases result with
  | ok bytes =>
      exact Json.plain_object (by simp [ReadResult.members])
        (by simp [ReadResult.members])
  | error error =>
      exact Json.plain_object (by simp [ReadResult.members, DeviceError.members])
        (by simp [ReadResult.members, DeviceError.members])

theorem plain_completionLines {ended : List (ParkedRead Nat × ReadResult)} :
    ∀ row ∈ completionLines ended, row.Plain := by
  intro row member
  obtain ⟨resolution, _, rfl⟩ := List.mem_map.mp member
  exact plain_completionLine ..

theorem Dialogue.plain {explain : String → String} {start now : Device Nat}
    {lines : List String} {rows : List Json} (dialogue : Dialogue explain start lines rows now) :
    ∀ row ∈ rows, row.Plain := by
  induction dialogue with
  | begin => simp
  | malformed _ _ ih =>
      refine List.forall_mem_append.mpr ⟨ih, List.forall_mem_singleton.mpr ?_⟩
      exact Json.plain_object (by simp) (by simp)
  | answered _ _ ih =>
      refine List.forall_mem_append.mpr ⟨ih, List.forall_mem_append.mpr ⟨?_, ?_⟩⟩
      · exact plain_completionLines
      · exact List.forall_mem_singleton.mpr (plain_responseLine ..)

/-- Each row is shown by the line that is written for it. -/
theorem shows_render {rows : List Json} (plain : ∀ row ∈ rows, row.Plain) :
    List.Forall₂ Json.Shows (rows.map render) rows := by
  rw [List.forall₂_map_left_iff, List.forall₂_same]
  exact fun row member => (plain row member).shows_sorted

end Shown

/-- How a script is answered by a device that starts as `start`. -/
structure FollowsProtocol (explain : String → String) (start : Device Nat)
    (commands : List String) (rows : List Json) : Prop where
  /-- Turn by turn, and then the reads that still wait, in the order of their commands. -/
  turns : ∃ answered final, Dialogue explain start commands answered final ∧
    rows = answered ++ canceledLines final ∧
    (final.queue.parked.map (·.completion)).Pairwise (· < ·)
  numbered : rows.filterMap (number? "seq") = List.range' 1 commands.length
  once : ∀ seq id, responseLine seq (.ok (.pending id)) ∈ rows →
    rows.countP (number? "completed" · == some seq) = 1
  after : AfterAnswers rows

theorem Dialogue.follows_protocol {explain : String → String} {start final : Device Nat}
    {commands : List String} {answered : List Json}
    (dialogue : Dialogue explain start commands answered final)
    (noRead : start.queue.parked = []) :
    FollowsProtocol explain start commands (answered ++ canceledLines final) := by
  obtain ⟨waits, accounted⟩ := dialogue.accounted noRead
  have increasing : waits.Pairwise (· < ·) :=
    List.Pairwise.sublist accounted.issued List.pairwise_lt_range'
  refine ⟨⟨answered, final, dialogue, rfl, increasing.sublist accounted.parked⟩, ?_, ?_, ?_⟩
  · simp [accounted.numbered, canceledLines]
  · intro seq id member
    have before := (List.mem_append.mp member).resolve_right (responseLine_not_mem _ _ _)
    have ended : ((answered ++ canceledLines final).filterMap (number? "completed")).Perm
        waits := by
      rw [List.filterMap_append, completed_canceledLines]
      exact List.perm_append_comm.trans accounted.ended
    rw [← List.count_filterMap, ended.count_eq]
    have waited := (accounted.answered seq).mpr ⟨id, before⟩
    rw [List.Nodup.count (increasing.imp Nat.ne_of_lt), if_pos waited]
  · refine accounted.after.append ?_
    intro row member seq completed
    have waiting : seq ∈ final.queue.parked.map (·.completion) := by
      rw [← completed_canceledLines]
      exact List.mem_filterMap.mpr ⟨row, member, completed⟩
    exact (accounted.answered seq).mp (accounted.parked.subset waiting)

end Replay

/-- Without a mode among the options, the device is that of the configuration file. -/
theorem Program.device_of_load {options : Options} {path : String} {contents : Option ByteArray}
    {config : Config} {remarks : Remarks} (file : options.config = some path)
    (noMode : options.mode = none) (loaded : Config.load contents = .ok config) :
    Program.device options contents remarks = (Device.ofConfig config).mapError refusal := by
  rw [Program.device, file, noMode]
  simp only [loaded]
  rfl

/-- For every valid configuration whose first buffer can be reserved, and every input that is a
text, the output shows, line by line, the dialogue of the device with the commands of the script.
`explain` is what the parser says of a line that is no command. -/
theorem Program.replay_follows_protocol {config : Config} {stdin : ByteArray} {script : String}
    (explain : String → String) (valid : config.validate = .ok ())
    (room : (config.queue.get config.device.initialMode).Reservable)
    (isText : String.fromUTF8? stdin = some script) :
    ∃ device stdout rows,
      Device.ofConfig config = .ok device ∧
      replay device stdin (fun line => some (explain line)) = { exitCode := 0, stdout := stdout } ∧
      List.Forall₂ Json.Shows stdout rows ∧
      Replay.FollowsProtocol explain
        (.create config.device.attributes config.device.initialMode config.queue)
        (Replay.commandsIn (Text.lines script)) rows := by
  obtain ⟨rows, final, dialogue, written⟩ :=
    Replay.exists_dialogue explain
      (.create config.device.attributes config.device.initialMode config.queue) (Text.lines script)
  have started : (Device.create config.device.attributes config.device.initialMode
      config.queue : Device Nat).map Replay.writes =
        .create config.device.attributes config.device.initialMode config.queue := rfl
  rw [started] at written
  refine ⟨_, (rows ++ Replay.canceledLines final).map Replay.render,
    rows ++ Replay.canceledLines final,
    Device.ofConfig_eq_ok_iff.mpr ⟨Config.validate_eq_ok_iff.mp valid, room, rfl⟩, ?_, ?_,
    dialogue.follows_protocol rfl⟩
  · rw [replay, lines_of_text isText, written]
    simp only [Replay.finish_writes]
  · exact Replay.shows_render
      (List.forall_mem_append.mpr ⟨dialogue.plain, Replay.plain_completionLines⟩)

/-- A read that has to wait until the end, a comment and a line that is no command. -/
theorem Program.replay_follows_protocol_to_the_end :
    let script := "\x7b\"cmd\":\"read\"\x7d\n # and then\n nonsense \n"
    let explain : String → String := fun _ => "expected ident at line 1 column 2"
    Config.default.validate = .ok () ∧ (Policies.default.get .mouse).Reservable ∧
      Replay.commandsIn (Text.lines script) = ["\x7b\"cmd\":\"read\"\x7d", "nonsense"] ∧
      ∃ device stdout rows, Device.ofConfig .default = .ok device ∧
        replay device script.toUTF8 (fun line => some (explain line)) =
          { exitCode := 0, stdout := stdout } ∧
        List.Forall₂ Json.Shows stdout rows ∧
        Replay.FollowsProtocol explain (.create DeviceConfig.default.attributes .mouse .default)
          (Replay.commandsIn (Text.lines script)) rows := by
  intro script explain
  have valid : Config.default.validate = .ok () := rfl
  have room : (Policies.default.get .mouse).Reservable := by decide
  exact ⟨valid, room, by decide,
    replay_follows_protocol explain valid room (Text.fromUTF8?_toUTF8 script)⟩

/-- A configuration that is valid, and a command that is not answered: there is no device. -/
theorem Program.command_unanswered :
    let script := "\x7b\"cmd\":\"mode\"\x7d\n"
    Config.load (some Config.largestFile.toUTF8) = .ok .largest ∧
      Config.largest.validate = .ok () ∧
      Replay.commandsIn (Text.lines script) = ["\x7b\"cmd\":\"mode\"\x7d"] ∧
      run ["--config", "pointer.toml"] (fun _ => some Config.largestFile.toUTF8) script.toUTF8 =
        { exitCode := 101, stdout := [], stderr := ["capacity overflow"] } := by
  intro script
  refine ⟨Config.load_largestFile, rfl, by decide, ?_⟩
  let given : Options :=
    { config := some "pointer.toml", mode := none, logLevel := .info, verbosity := 0,
      jsonLogs := false }
  have parsed : Program.options ["--config", "pointer.toml"] {} = .ok given := rfl
  have refused : Program.device given (some Config.largestFile.toUTF8) {} =
      .error (crash "capacity overflow") := by
    rw [device_of_load rfl rfl Config.load_largestFile, Config.ofConfig_largest]
    rfl
  have found : given.config.bind (fun _ => some Config.largestFile.toUTF8) =
      some Config.largestFile.toUTF8 := Option.bind_some ..
  rw [run, parsed]
  simp only [found, refused]
  rfl

end HidPointer
