import HidPointer.Proofs.Conservation
import HidPointer.Proofs.WireForm

/-!
# Reports and reads meet in the order of their arrival

While reports are submitted and reads are issued, and no report is lost to the overflow policy, the
first read gets the first report, the second read the second, and so on. It does not matter which
of the two came first: a report that finds a parked read ends it, and a read that finds a buffered
report is answered with it. So the threads that submit and the threads that read may come in any
order, and each read gets the same report.
-/

set_option autoImplicit false

namespace HidPointer

/-- A read as it was issued, and how it was answered. -/
structure IssuedRead (κ : Type) where
  capacity : Nat
  completion : κ
  reply : Reply

namespace IssuedRead

variable {κ : Type}

/-- The number under which the read was parked. -/
def number? (read : IssuedRead κ) : Option Nat :=
  match read.reply with
  | .ok (.pending id) => some id
  | _ => none

/-- All that a read is given: by the answer, or later by its completion. -/
def results (ended : List (ParkedRead κ × ReadResult)) (read : IssuedRead κ) : List ReadResult :=
  match read.reply with
  | .error error => [.error error]
  | .ok (.ready bytes) => [.ok bytes]
  | .ok (.pending id) =>
      ended.filterMap fun (parked, result) => if parked.id = id then some result else none
  | .ok _ => []

theorem results_concat (ended : List (ParkedRead κ × ReadResult)) (parked : ParkedRead κ)
    (result : ReadResult) (read : IssuedRead κ) :
    read.results (ended ++ [(parked, result)]) =
      read.results ended ++ if read.number? = some parked.id then [result] else [] := by
  obtain ⟨capacity, completion, reply⟩ := read
  cases reply with
  | error => simp [results, number?]
  | ok response =>
      cases response with
      | pending id =>
          by_cases same : id = parked.id
          · simp [results, number?, same]
          · simp [results, number?, same, Ne.symm same]
      | _ => simp [results, number?]

end IssuedRead

def ParkedRead.issued {κ : Type} (read : ParkedRead κ) : IssuedRead κ :=
  ⟨read.capacity, read.completion, .ok (.pending read.id)⟩

@[simp] theorem ParkedRead.number_issued {κ : Type} (read : ParkedRead κ) :
    read.issued.number? = some read.id := rfl

def Request.issuedRead? {κ : Type} : Request κ → Reply → Option (IssuedRead κ)
  | .read capacity completion, reply => some ⟨capacity, completion, reply⟩
  | _, _ => none

/-- The `k`-th of the reads has the `k`-th of the reports, if there is one. What is left over of the
reports or of the reads waits in the device. -/
structure Matched {κ : Type} (reads : List (IssuedRead κ)) (reports : List Bytes)
    (ended : List (ParkedRead κ × ReadResult)) (device : Device κ) : Prop where
  buffered : device.queue.buffered = reports.drop reads.length
  parked : device.queue.parked.map ParkedRead.issued = reads.drop reports.length
  results : ∀ (k : Nat) (read : IssuedRead κ), reads[k]? = some read →
    read.results ended = (reports[k]?.map Except.ok).toList
  room : ∀ read ∈ device.queue.parked, device.mode.byteLength ≤ read.capacity
  /-- Two reads are not parked under one number. -/
  numbered : reads.Pairwise fun first second =>
    ∀ id, first.number? = some id → second.number? ≠ some id
  below : ∀ read ∈ reads, ∀ id, read.number? = some id → id < device.nextId
  endedBelow : ∀ resolution ∈ ended, resolution.1.id < device.nextId

namespace Matched

variable {κ : Type} {reads : List (IssuedRead κ)} {reports : List Bytes}
  {ended : List (ParkedRead κ × ReadResult)} {device : Device κ}

private theorem getElem?_concat {α : Type} {list : List α} {last element : α} {k : Nat} :
    (list ++ [last])[k]? = some element ↔
      list[k]? = some element ∨ k = list.length ∧ last = element := by
  rcases Nat.lt_trichotomy k list.length with before | rfl | behind
  · rw [List.getElem?_append_left before]
    simp [Nat.ne_of_lt before]
  · simp
  · rw [List.getElem?_eq_none (by simp; omega), List.getElem?_eq_none (by omega)]
    simp [Nat.ne_of_gt behind]

private theorem getElem?_of_drop {α : Type} {list rest : List α} {first : α} {k : Nat}
    (cut : list.drop k = first :: rest) : list[k]? = some first := by
  rw [← List.head?_drop, cut, List.head?_cons]

theorem same_index (matched : Matched reads reports ended device) {i j : Nat}
    {first second : IssuedRead κ} {id : Nat} (isFirst : reads[i]? = some first)
    (isSecond : reads[j]? = some second) (firstNumber : first.number? = some id)
    (secondNumber : second.number? = some id) : i = j := by
  obtain ⟨_, rfl⟩ := List.getElem?_eq_some_iff.mp isFirst
  obtain ⟨_, rfl⟩ := List.getElem?_eq_some_iff.mp isSecond
  have differ := List.pairwise_iff_getElem.mp matched.numbered
  rcases Nat.lt_trichotomy i j with before | same | behind
  · exact absurd secondNumber (differ i j _ _ before id firstNumber)
  · exact same
  · exact absurd firstNumber (differ j i _ _ behind id secondNumber)

/-- A report ends the oldest parked read, which is the read it was due to. -/
theorem deliver (matched : Matched reads reports ended device) {read : ParkedRead κ}
    {rest : List (ParkedRead κ)} (parked : device.queue.parked = read :: rest) (bytes : Bytes)
    (counters : Counters) :
    Matched reads (reports ++ [bytes]) (ended ++ [(read, .ok bytes)])
      (device.queued device.queue.buffered rest counters) := by
  have waiting : reads.drop reports.length = read.issued :: rest.map ParkedRead.issued := by
    rw [← matched.parked, parked, List.map_cons]
  have due := getElem?_of_drop waiting
  have more : reports.length < reads.length := (List.getElem?_eq_some_iff.mp due).1
  refine ⟨?_, ?_, ?_, ?_, matched.numbered, matched.below, ?_⟩
  · have none : ∀ list : List Bytes, list.length ≤ reads.length → list.drop reads.length = [] :=
      fun _ => List.drop_eq_nil_of_le
    rw [Device.queued_queue, matched.buffered, none reports (Nat.le_of_lt more),
      none (reports ++ [bytes]) (by simp; omega)]
  · rw [List.length_append, List.length_singleton, ← List.tail_drop, waiting]
    rfl
  · -- The end goes by the number of the read, and no other read has that number.
    intro k other isOther
    rw [IssuedRead.results_concat, matched.results k other isOther]
    by_cases same : k = reports.length
    · subst same
      obtain rfl : read.issued = other := Option.some.inj (due.symm.trans isOther)
      simp
    · have differs : other.number? ≠ some read.id := fun number =>
        same (matched.same_index isOther due number rfl)
      rw [if_neg differs, List.append_nil, List.getElem?_append]
      split
      · rfl
      · rw [List.getElem?_eq_none (by omega), List.getElem?_eq_none (by simp; omega)]
  · intro other member
    exact matched.room other (by rw [parked]; exact List.mem_cons_of_mem _ member)
  · have readBelow := matched.below read.issued (List.mem_of_getElem? due) read.id rfl
    exact List.forall_mem_append.mpr
      ⟨matched.endedBelow, List.forall_mem_singleton.mpr readBelow⟩

/-- A report that finds no parked read is behind all that were due to a read. -/
theorem buffer (matched : Matched reads reports ended device)
    (parked : device.queue.parked = []) (bytes : Bytes) (counters : Counters) :
    Matched reads (reports ++ [bytes]) ended
      (device.queued (device.queue.buffered ++ [bytes]) [] counters) := by
  have enough : reads.length ≤ reports.length := by
    have noneWaits := matched.parked
    rw [parked, List.map_nil] at noneWaits
    exact List.drop_eq_nil_iff.mp noneWaits.symm
  refine ⟨?_, ?_, ?_, by simp, matched.numbered, matched.below, matched.endedBelow⟩
  · rw [Device.queued_queue, matched.buffered, List.drop_append_of_le_length enough]
  · rw [List.drop_eq_nil_of_le (by simp; omega)]
    rfl
  · intro k read isRead
    have earlier : k < reports.length := by
      have bound := (List.getElem?_eq_some_iff.mp isRead).1
      omega
    rw [List.getElem?_append_left earlier]
    exact matched.results k read isRead

/-- A read that finds a buffered report is answered with the one that is due to it. -/
theorem answer (matched : Matched reads reports ended device) {report : Bytes}
    {rest : List Bytes} (buffered : device.queue.buffered = report :: rest) (capacity : Nat)
    (completion : κ) (counters : Counters) :
    Matched (reads ++ [⟨capacity, completion, .ok (.ready report)⟩]) reports ended
      (device.queued rest device.queue.parked counters) := by
  have waiting : reports.drop reads.length = report :: rest :=
    matched.buffered.symm.trans buffered
  have due := getElem?_of_drop waiting
  have more : reads.length < reports.length := (List.getElem?_eq_some_iff.mp due).1
  refine ⟨?_, ?_, ?_, matched.room, ?_, ?_, matched.endedBelow⟩
  · rw [List.length_append, List.length_singleton, ← List.tail_drop, waiting]
    rfl
  · rw [Device.queued_queue, matched.parked, List.drop_eq_nil_of_le (by omega),
      List.drop_eq_nil_of_le (by simp; omega)]
  · intro k read isRead
    rcases getElem?_concat.mp isRead with old | ⟨rfl, rfl⟩
    · exact matched.results k read old
    · rw [due]
      rfl
  · refine List.pairwise_append.mpr ⟨matched.numbered, List.pairwise_singleton .., ?_⟩
    intro earlier _ new isNew id _ isParked
    cases List.mem_singleton.mp isNew
    cases isParked
  · refine List.forall_mem_append.mpr ⟨matched.below, List.forall_mem_singleton.mpr ?_⟩
    intro id isParked
    cases isParked

/-- A read that finds no report is behind all reads that got one. -/
theorem park (matched : Matched reads reports ended device)
    (buffered : device.queue.buffered = []) {capacity : Nat} (completion : κ)
    (room : device.mode.byteLength ≤ capacity) (counters : Counters) :
    Matched (reads ++ [⟨capacity, completion, .ok (.pending device.nextId)⟩]) reports ended
      { device.queued [] (device.queue.parked ++ [⟨device.nextId, capacity, completion⟩])
          counters with
        nextId := device.nextId + 1 } := by
  have enough : reports.length ≤ reads.length := by
    have noneWaits := matched.buffered
    rw [buffered] at noneWaits
    exact List.drop_eq_nil_iff.mp noneWaits.symm
  refine ⟨?_, ?_, ?_, ?_, ?_, ?_, ?_⟩
  · rw [List.drop_eq_nil_of_le (by simp; omega)]
    rfl
  · rw [List.drop_append_of_le_length enough, ← matched.parked]
    simp [ParkedRead.issued]
  · intro k read isRead
    rcases getElem?_concat.mp isRead with old | ⟨rfl, rfl⟩
    · exact matched.results k read old
    · have fresh : ∀ resolution ∈ ended, resolution.1.id ≠ device.nextId :=
        fun resolution member => Nat.ne_of_lt (matched.endedBelow resolution member)
      rw [List.getElem?_eq_none enough]
      simpa [IssuedRead.results, List.filterMap_eq_nil_iff] using fresh
  · exact List.forall_mem_append.mpr ⟨matched.room, List.forall_mem_singleton.mpr room⟩
  · refine List.pairwise_append.mpr ⟨matched.numbered, List.pairwise_singleton .., ?_⟩
    intro earlier old new isNew id isParked again
    cases List.mem_singleton.mp isNew
    cases again
    exact Nat.lt_irrefl _ (matched.below earlier old _ isParked)
  · intro read member id isParked
    rcases List.mem_append.mp member with old | new
    · exact Nat.lt_succ_of_lt (matched.below read old id isParked)
    · cases List.mem_singleton.mp new
      cases isParked
      exact Nat.lt_succ_self _
  · intro resolution member
    exact Nat.lt_succ_of_lt (matched.endedBelow resolution member)

end Matched

/-- The request is a valid submission for the mode, a read with room for a report of the mode, or
asks for something. -/
def Request.Exchanges {κ : Type} (mode : Mode) : Request κ → Prop
  | .submit report => report.mode = mode ∧ ∃ bytes, report.encode = .ok bytes
  | .submitRaw tag bytes => Mode.ofTag? tag = some mode ∧ bytes.length = mode.byteLength
  | .read capacity _ => mode.byteLength ≤ capacity
  | .setMode _ | .cancel _ => False
  | .attributes | .classDescriptor | .reportDescriptor | .mode | .counters => True

theorem Request.Exchanges.submission {κ : Type} {active mode : Mode} {request : Request κ}
    {bytes : Bytes} (exchanges : request.Exchanges active) (submits : request.Submits mode bytes) :
    mode = active ∧ bytes.length = mode.byteLength := by
  cases submits with
  | typed encoded => exact ⟨exchanges.1, Report.length_encode encoded⟩
  | raw known =>
      cases exchanges.1.symm.trans known
      exact ⟨rfl, exchanges.2⟩

theorem Request.Submits.issuedRead_eq_none {κ : Type} {request : Request κ} {mode : Mode}
    {bytes : Bytes} (submits : request.Submits mode bytes) (reply : Reply) :
    request.issuedRead? reply = none := by
  cases submits <;> rfl

theorem Request.Submits.accepted_eq {κ : Type} {request : Request κ} {mode : Mode}
    {bytes : Bytes} (submits : request.Submits mode bytes) (status : SubmitStatus) :
    request.accepted? (.ok (.accepted status)) = some bytes :=
  congrArg some submits.content_eq

/-- Neither the report nor one in its place was lost to the overflow policy. -/
def Reply.Keeps : Reply → Prop
  | .ok (.accepted .bufferedWithDrop) | .ok (.accepted .dropped) => False
  | _ => True

theorem Device.Effect.matched {κ : Type} {device after : Device κ} {request : Request κ}
    {served : Served κ} (effect : Effect device request after served)
    {reads : List (IssuedRead κ)} {reports : List Bytes}
    {ended : List (ParkedRead κ × ReadResult)} (matched : Matched reads reports ended device)
    (exchanges : request.Exchanges device.mode) (keeps : Reply.Keeps served.reply) :
    after.mode = device.mode ∧
      Matched (reads ++ (request.issuedRead? served.reply).toList)
        (reports ++ (request.accepted? served.reply).toList)
        (ended ++ resolutions served.duties) after := by
  have unchanged : Matched (reads ++ []) (reports ++ []) (ended ++ []) device := by
    simpa using matched
  cases effect with
  | told tells => cases tells <;> exact ⟨rfl, unchanged⟩
  | noSuchMode | switched | notParked | canceled => exact exchanges.elim
  | unknownTag unknown => cases exchanges.1.symm.trans unknown
  | unencodable refused =>
      obtain ⟨_, bytes, encoded⟩ := exchanges
      cases encoded.symm.trans refused
  | invalid submits refused =>
      have valid := ActiveMode.validate_eq_ok_iff.mpr (exchanges.submission submits)
      cases valid.symm.trans refused
  | @delivered _ bytes read rest accepts parked _ =>
      rw [accepts.submits.issuedRead_eq_none, accepts.submits.accepted_eq, Option.toList_none,
        List.append_nil]
      exact ⟨rfl, matched.deliver parked bytes _⟩
  | @tooSmall _ bytes read _ accepts parked small =>
      have room := matched.room read (by simp [parked])
      rw [accepts.length] at small
      exact absurd small (Nat.not_lt.mpr room)
  | @buffered _ bytes accepts parked _ =>
      rw [accepts.submits.issuedRead_eq_none, accepts.submits.accepted_eq, Option.toList_none,
        List.append_nil, resolutions_nil, List.append_nil]
      exact ⟨rfl, matched.buffer parked bytes _⟩
  | displaced | dropped => exact keeps.elim
  | noRoom small => exact absurd small (Nat.not_lt.mpr exchanges)
  | @ready capacity completion report rest _ buffered =>
      simp only [Request.issuedRead?, Request.accepted?, resolutions_nil, Option.toList_none,
        List.append_nil]
      exact ⟨rfl, matched.answer buffered capacity completion _⟩
  | @parked capacity completion room buffered =>
      simp only [Request.issuedRead?, Request.accepted?, resolutions_nil, Option.toList_none,
        List.append_nil]
      exact ⟨rfl, matched.park buffered completion room _⟩

section Exchanges

variable {ν : Type}

def Deed.issuedRead? : Deed ν → Option (IssuedRead (Completion ν))
  | served before request => request.issuedRead? (before.serve request).2.reply
  | _ => none

def issuedReads (past : List (Deed ν)) : List (IssuedRead (Completion ν)) :=
  past.filterMap Deed.issuedRead?

def acceptedReports (past : List (Deed ν)) : List Bytes :=
  past.filterMap Deed.accepted?

theorem issuedReads_concat (past : List (Deed ν)) (deed : Deed ν) :
    issuedReads (past ++ [deed]) = issuedReads past ++ deed.issuedRead?.toList :=
  filterMap_concat Deed.issuedRead? past deed

theorem acceptedReports_concat (past : List (Deed ν)) (deed : Deed ν) :
    acceptedReports (past ++ [deed]) = acceptedReports past ++ deed.accepted?.toList :=
  filterMap_concat Deed.accepted? past deed

/-- If the deed is a request, it takes part in an exchange in the mode, and no report is lost. -/
def Deed.Exchanges (mode : Mode) : Deed ν → Prop
  | served before request =>
      request.Exchanges mode ∧ Reply.Keeps (before.serve request).2.reply
  | _ => True

theorem History.matched {start now : Device (Completion ν)} {past : List (Deed ν)}
    (history : History start past now) (noReport : start.queue.buffered = [])
    (noRead : start.queue.parked = []) (exchanges : ∀ deed ∈ past, deed.Exchanges start.mode) :
    now.mode = start.mode ∧
      Matched (issuedReads past) (acceptedReports past)
        (resolutions (past.flatMap Deed.raised)) now := by
  induction history with
  | begin =>
      refine ⟨rfl, noReport, ?_, ?_, ?_, ?_, ?_, ?_⟩
      all_goals simp [issuedReads, noRead]
  | entered _ _ _ ih | published _ _ ih | noted _ _ ih =>
      have kept := ih fun deed member => exchanges deed (List.mem_append_left _ member)
      simpa [issuedReads_concat, acceptedReports_concat, Deed.issuedRead?, Deed.accepted?,
        Deed.raised] using kept
  | @served past now request _ ih =>
      obtain ⟨mode, matched⟩ := ih fun deed member => exchanges deed (List.mem_append_left _ member)
      obtain ⟨exchanges, keeps⟩ := exchanges (.served now request) (by simp)
      rw [← mode] at exchanges
      obtain ⟨sameMode, next⟩ := (now.serve_effect request).matched matched exchanges keeps
      refine ⟨sameMode.trans mode, ?_⟩
      simpa [issuedReads_concat, acceptedReports_concat, Deed.issuedRead?, Deed.accepted?,
        Deed.raised] using next

end Exchanges

end HidPointer
