import HidPointer.Config.Read
import HidPointer.Proofs.JsonOrder
import HidPointer.Shape.Config
import HidPointer.Shape.Event
import HidPointer.Shape.Report

/-!
# Values are read back from JSON

Each type that is written as JSON is read back as it was (`every_shape_reads_back`). A record is
written with each of its fields under its name, so what its reader finds under the names are these
fields; a variant is written under the name by which it is found. Numbers must have 64 bits at most,
which the fields of the types do not say.
-/

set_option autoImplicit false

namespace HidPointer

/-- A number of no more than 53 bits is a double. -/
theorem Binary64.round_eq_self {value : Nat} (small : value < Nat.pow 2 53) :
    round value = value := by
  have bits : bitLength value ≤ precision := by
    unfold bitLength
    split
    · exact Nat.zero_le _
    · exact (Nat.log2_lt ‹_›).mpr small
  simp only [round, Nat.sub_eq_zero_of_le bits]
  simp [Nat.pow, Nat.mod_one]

namespace Json

section Finite

theorem ofDigitChars_ge (digits : List Char) (value : Nat) :
    value ≤ Nat.ofDigitChars 10 digits value := by
  induction digits generalizing value with
  | nil => simp
  | cons digit digits ih =>
      rw [Nat.ofDigitChars_cons]
      refine Nat.le_trans ?_ (ih _)
      omega

theorem take_eq {digits : List Char} {value : Nat}
    (fits : Nat.ofDigitChars 10 digits value < UInt64.size) :
    leadingDigits.take value digits = (Nat.ofDigitChars 10 digits value, 0) := by
  induction digits generalizing value with
  | nil => simp [leadingDigits.take]
  | cons digit digits ih =>
      have first : Nat.ofDigitChars 10 digits (Nat.ofDigitChars 10 [digit] value) =
          Nat.ofDigitChars 10 (digit :: digits) value := by
        simp [Nat.ofDigitChars_cons]
      rw [← first] at fits ⊢
      rw [leadingDigits.take, if_pos (Nat.lt_of_le_of_lt (ofDigitChars_ge digits _) fits), ih fits]

/-- A number of 16 bits is far from the bound of the finite doubles. -/
theorem isFinite_of_small {value : Nat} (small : value < UInt16.size) :
    isFinite value 0 = true := by
  have below : UInt16.size < Binary64.overflow ∧ UInt16.size < UInt64.size ∧
      UInt16.size < Nat.pow 2 53 := by decide +kernel
  have leading : leadingDigits value = (value, 0) := by
    have whole : Nat.ofDigitChars 10 (Nat.toDigits 10 value) 0 = value := size_toDigits value
    rw [leadingDigits, take_eq (by omega), whole]
  have exact : Binary64.round value * Binary64.round (Nat.pow 10 0) = value := by
    rw [Binary64.round_eq_self (by omega), Binary64.round_eq_self (by decide +kernel)]
    exact Nat.mul_one value
  have finite : value < Binary64.overflow := by omega
  simp only [isFinite, leading, Int.add_zero, Int.ofNat_zero, Int.toNat_zero, exact, finite]
  simp

variable {levels : Nat}

theorem isDefinite_text (text : String) : (Json.text text).isDefinite levels = true := rfl

theorem isDefinite_bool (value : Bool) : (Json.bool value).isDefinite levels = true := rfl

theorem isDefinite_word (word : UInt16) : (nat word.toNat).isDefinite levels = true :=
  isFinite_of_small word.toNat_lt

theorem isDefinite_byte (byte : UInt8) : (nat byte.toNat).isDefinite levels = true :=
  isFinite_of_small (Nat.lt_trans byte.toNat_lt (by decide))

theorem isDefinite_signedByte (byte : Int8) : (Json.int byte.toInt).isDefinite levels = true := by
  have above := byte.le_toInt
  have below := byte.toInt_lt
  exact isFinite_of_small (by simp only [UInt16.size]; omega)

theorem isDefinite_object {members : List (String × Json)}
    (each : ∀ member ∈ members, member.2.isDefinite levels = true) :
    (object members).isDefinite (levels + 1) = true := by
  rw [object, isDefinite]
  induction members with
  | nil => rfl
  | cons member members ih =>
      obtain ⟨first, others⟩ := List.forall_mem_cons.mp each
      simp [membersDefinite, first, ih others]

theorem isDefinite_map {α : Type} {write : α → Json}
    (each : ∀ item, (write item).isDefinite levels = true) (items : List α) :
    (Json.arr (items.map write)).isDefinite (levels + 1) = true := by
  rw [isDefinite]
  induction items with
  | nil => rfl
  | cons item items ih => simp [itemsDefinite, each, ih]

end Finite

section Readers

variable {α : Type}

theorem named?_object (members : List (String × Json)) :
    named? (members.map fun (name, value) => (some name, value)) = some members := by
  unfold named?
  induction members with
  | nil => rfl
  | cons member members ih => simp [List.mapM_cons, ih]

/-- The fields of a record are found if it is written with them and nothing else. -/
theorem fields?_object {names : List String} {members : List (String × Json)}
    (apart : names.Nodup) (same : members.map Prod.fst = names) :
    (object members).fields? names = some members := by
  have known : members.filter (fun (name, _) => names.contains name) = members := by
    refine List.filter_eq_self.mpr fun member isMember => ?_
    subst same
    simpa using List.mem_map_of_mem (f := Prod.fst) isMember
  simp only [object, fields?, memberFields?, named?_object, Option.bind_eq_bind, Option.bind_some,
    known, same, if_pos apart]

theorem bind_fields? {names : List String} {members : List (String × Json)}
    (apart : names.Nodup) (same : members.map Prod.fst = names) (next : Fields Json → Option α) :
    ((object members).fields? names).bind next = next members := by
  rw [fields?_object apart same, Option.bind_some]

theorem bind_objectFields? {names : List String} {members : List (String × Json)}
    (apart : names.Nodup) (same : members.map Prod.fst = names) (next : Fields Json → Option α) :
    ((object members).objectFields? names).bind next = next members :=
  bind_fields? apart same next

theorem below?_nat {value bound : Nat} (below : value < bound) :
    Document.below? bound (nat value) = some value := by
  simp [Document.below?, Document.nat?, nat, nat?, Option.filter, below]

theorem count?_nat {value : Nat} (fits : value < UInt64.size) :
    Document.count? (nat value) = some value :=
  below?_nat fits

@[simp] theorem word?_nat (word : UInt16) : Document.word? (nat word.toNat) = some word := by
  rw [Document.word?, below?_nat word.toNat_lt, Option.map_some, UInt16.ofNat_toNat]

@[simp] theorem byte?_nat (byte : UInt8) : Document.byte? (nat byte.toNat) = some byte := by
  rw [Document.byte?, below?_nat byte.toNat_lt, Option.map_some, UInt8.ofNat_toNat]

@[simp] theorem signedByte?_int (byte : Int8) : signedByte? (.int byte.toInt) = some byte := by
  have above := byte.le_toInt
  have below := byte.toInt_lt
  rw [signedByte?, if_pos ⟨above, below⟩, Int8.ofInt_toInt]

@[simp] theorem bool?_bool (value : Bool) : bool? (.bool value) = some value := rfl

theorem list?_map {write : α → Json} {read : Json → Option α}
    (reads : ∀ item, read (write item) = some item) (items : List α) :
    list? read (.arr (items.map write)) = some items := by
  unfold list?
  induction items with
  | nil => rfl
  | cons item items ih => simp only [List.map_cons, List.mapM_cons, reads, ih]; rfl

end Readers

/-- Written as a text and read again, the value is what it was. -/
def ReadsBack {α : Type} (write : α → Json) (read : Json → Option α) (value : α) : Prop :=
  (parse? (write value).render).bind read = some value

theorem readsBack {α : Type} {write : α → Json} {read : Json → Option α} {value : α}
    (plain : (write value).Plain) (reads : read (write value) = some value) :
    ReadsBack write read value := by
  rw [ReadsBack, parse?_render plain.denotes, Option.bind_some, reads]

end Json

theorem Mode.ofJson?_toJson (route : Json.Route) (mode : Mode) :
    ofJson? route mode.toJson = some mode := by
  cases mode <;> rfl

theorem Overflow.variant?_toJson (overflow : Overflow) :
    Document.variant? names overflow.toJson = some overflow := by
  cases overflow <;> rfl

theorem DropReason.ofJson?_toJson (route : Json.Route) (reason : DropReason) :
    ofJson? route reason.toJson = some reason := by
  cases reason <;> rfl

theorem Policy.read?_toJson {policy : Policy} (fits : policy.capacity < UInt64.size) :
    read? policy.toJson = some policy := by
  unfold read? toJson
  refine (Json.bind_fields? (by decide) (by rfl) _).trans ?_
  simp [Fields.required, List.lookup_cons, Json.count?_nat fits, Overflow.variant?_toJson]

/-- Each of the counts has 64 bits at most. -/
structure Counters.Fits (counters : Counters) : Prop where
  accepted : counters.accepted < UInt64.size
  delivered : counters.delivered < UInt64.size
  buffered : counters.buffered < UInt64.size
  overflowDrops : counters.overflowDrops < UInt64.size
  tooSmallDrops : counters.tooSmallDrops < UInt64.size
  rejected : counters.rejected < UInt64.size
  canceled : counters.canceled < UInt64.size
  reconfigured : counters.reconfigured < UInt64.size

theorem Counters.ofJson?_toJson {counters : Counters} (fits : counters.Fits) :
    ofJson? counters.toJson = some counters := by
  unfold ofJson? toJson
  refine (Json.bind_fields? (by decide) (by rfl) _).trans ?_
  simp [Fields.required, List.lookup_cons, Json.count?_nat, fits.accepted, fits.delivered,
    fits.buffered, fits.overflowDrops, fits.tooSmallDrops, fits.rejected, fits.canceled,
    fits.reconfigured]

theorem Attributes.ofJson?_toJson (attributes : Attributes) :
    ofJson? attributes.toJson = some attributes := by
  unfold ofJson? toJson
  refine (Json.bind_fields? (by decide) (by rfl) _).trans ?_
  simp [Fields.required, List.lookup_cons]

theorem Transition.ofFields?_members {transition : Transition}
    (fits : transition.epoch < UInt64.size) (route : Json.Route) (others : List (String × Json)) :
    ofFields? route (transition.members ++ others) = some transition := by
  simp [ofFields?, members, Fields.required, List.lookup_cons, Json.count?_nat fits,
    Mode.ofJson?_toJson]

theorem Transition.ofJson?_toJson {transition : Transition}
    (fits : transition.epoch < UInt64.size) : ofJson? transition.toJson = some transition := by
  unfold ofJson? toJson
  refine (Json.bind_fields? (by decide) (by rfl) _).trans ?_
  simpa using Transition.ofFields?_members fits .direct []

def SubmitStatus.Fits : SubmitStatus → Prop
  | delivered id => id < UInt64.size
  | buffered | bufferedWithDrop | dropped => True

theorem SubmitStatus.ofJson?_toJson {status : SubmitStatus} (fits : status.Fits) :
    ofJson? status.toJson = some status := by
  cases status with
  | buffered | bufferedWithDrop | dropped => rfl
  | delivered id =>
      have found : (toJson (delivered id)).tagAndContent? "status" "request_id" Kind.names =
          some (.delivered, some (.direct, .nat id)) := rfl
      simp [ofJson?, found, Json.count?_nat fits]

namespace Event

def Fits : Event → Prop
  | modeChanged transition flushedReads discardedReports =>
      transition.epoch < UInt64.size ∧ flushedReads < UInt64.size ∧ discardedReports < UInt64.size
  | reportDropped _ _ => True
  | readCanceled id => id < UInt64.size

/-- Tag and data are found, the data as they were written. -/
theorem ofData?_of_toJson {event : Event} (kind : Kind) {data : List (String × Json)}
    (written : event.toJson = .object [("event", .text kind.name), ("data", .object data)]) :
    ofJson? event.toJson = ofData? .direct (.object data) kind := by
  rw [written]
  cases kind <;> rfl

theorem ofJson?_toJson {event : Event} (fits : event.Fits) :
    ofJson? event.toJson = some event := by
  cases event with
  | modeChanged transition flushedReads discardedReports =>
      obtain ⟨epoch, flushed, discarded⟩ := fits
      rw [ofData?_of_toJson .modeChanged rfl, ofData?]
      refine (Json.bind_objectFields? (by decide) (by rfl) _).trans ?_
      rw [Transition.ofFields?_members epoch]
      simp [Transition.members, Fields.required, List.lookup_cons, Json.count?_nat, flushed,
        discarded]
  | reportDropped mode reason =>
      rw [ofData?_of_toJson .reportDropped rfl, ofData?]
      refine (Json.bind_objectFields? (by decide) (by rfl) _).trans ?_
      simp [Fields.required, List.lookup_cons, Mode.ofJson?_toJson, DropReason.ofJson?_toJson]
  | readCanceled id =>
      rw [ofData?_of_toJson .readCanceled rfl, ofData?]
      refine (Json.bind_objectFields? (by decide) (by rfl) _).trans ?_
      simp [Fields.required, Json.count?_nat fits]

end Event

theorem Contact.ofJson?_toJson (contact : Contact) : ofJson? contact.toJson = some contact := by
  unfold ofJson? toJson
  refine (Json.bind_fields? (by decide) (by rfl) _).trans ?_
  simp [Fields.required, List.lookup_cons]

namespace Report

/-- The mode is found, and the rest as it was written. -/
theorem tagged?_of_toJson {report : Report} (mode : Mode) {others : List (String × Json)}
    (written : report.toJson = .object (("mode", .text mode.name) :: others))
    (apart : ∀ member ∈ others, member.1 ≠ "mode") (route : Json.Route) :
    report.toJson.tagged? "mode" Mode.names route = some (mode, .object others) := by
  have tags : others.filter (fun (name, _) => name == "mode") = [] := by
    simpa using apart
  have rest : others.filter (fun (name, _) => !(name == "mode")) = others := by
    simpa using apart
  have variant : Json.tagVariant? Mode.names route (.text mode.name) = some mode := by
    cases mode <;> rfl
  rw [written, Json.object, Json.tagged?, Json.named?_object]
  simp only [Option.bind_eq_bind, Option.bind_some, List.partition_eq_filter_filter]
  simp [Function.comp_def, tags, rest, variant]

theorem ofRest?_toJson (report : Report) (route : Json.Route) :
    ∃ rest, report.toJson.tagged? "mode" Mode.names route = some (report.mode, rest) ∧
      ofRest? rest report.mode = some report := by
  cases report with
  | mouse buttons dx dy =>
      refine ⟨_, tagged?_of_toJson .mouse rfl (by simp) route, ?_⟩
      rw [mode, ofRest?]
      refine (Json.bind_fields? (by decide) (by rfl) _).trans ?_
      simp [Fields.optional, List.lookup_cons]
  | singleTouch present x y =>
      refine ⟨_, tagged?_of_toJson .singleTouch rfl (by simp) route, ?_⟩
      rw [mode, ofRest?]
      refine (Json.bind_fields? (by decide) (by rfl) _).trans ?_
      simp [Fields.required, List.lookup_cons]
  | multiTouch contacts =>
      refine ⟨_, tagged?_of_toJson .multiTouch rfl (by simp) route, ?_⟩
      rw [mode, ofRest?]
      refine (Json.bind_fields? (by decide) (by rfl) _).trans ?_
      simp [Fields.required, Json.list?_map Contact.ofJson?_toJson]

theorem isDefinite_toJson (report : Report) :
    report.toJson.isDefinite Json.maxLevels = true := by
  cases report with
  | mouse buttons dx dy =>
      exact Json.isDefinite_object (by
        simp [Json.isDefinite_text, Json.isDefinite_byte, Json.isDefinite_signedByte])
  | singleTouch present x y =>
      exact Json.isDefinite_object (by
        simp [Json.isDefinite_text, Json.isDefinite_bool, Json.isDefinite_word])
  | multiTouch contacts =>
      have each (contact : Contact) : contact.toJson.isDefinite 125 = true :=
        Json.isDefinite_object (by
          simp [Json.isDefinite_byte, Json.isDefinite_bool, Json.isDefinite_word])
      have all := Json.isDefinite_map each contacts
      exact Json.isDefinite_object (by simp [Json.isDefinite_text, all])

theorem ofJson?_toJson (report : Report) (route : Json.Route) :
    ofJson? route report.toJson = some report := by
  obtain ⟨rest, tagged, reads⟩ := ofRest?_toJson report route
  have definite := isDefinite_toJson report
  rw [ofJson?, if_neg (by simp [definite]), tagged]
  exact reads

end Report

/-- Each of the numbers has 64 bits at most. -/
structure Config.Fits (config : Config) : Prop where
  capacities : ∀ mode, (config.queue.get mode).capacity < UInt64.size
  throttleSeconds : config.log.throttleSeconds < UInt64.size

theorem DeviceConfig.read?_toJson (config : DeviceConfig) : read? config.toJson = some config := by
  unfold read? toJson
  refine (Json.bind_fields? (by decide) (by rfl) _).trans ?_
  have mode : Document.variant? Mode.names config.initialMode.toJson = some config.initialMode :=
    Mode.ofJson?_toJson .direct config.initialMode
  simp [Fields.optional, List.lookup_cons, mode]

theorem Policies.read?_toJson {policies : Policies}
    (fits : ∀ mode, (policies.get mode).capacity < UInt64.size) :
    read? policies.toJson = some policies := by
  unfold read? toJson
  refine (Json.bind_fields? (by decide) (by rfl) _).trans ?_
  have mouse := Policy.read?_toJson (fits .mouse)
  have singleTouch := Policy.read?_toJson (fits .singleTouch)
  have multiTouch := Policy.read?_toJson (fits .multiTouch)
  simp only [get] at mouse singleTouch multiTouch
  simp [Fields.optional, List.lookup_cons, mouse, singleTouch, multiTouch]

theorem LogConfig.read?_toJson {config : LogConfig}
    (fits : config.throttleSeconds < UInt64.size) : read? config.toJson = some config := by
  unfold read? toJson
  refine (Json.bind_fields? (by decide) (by rfl) _).trans ?_
  simp [Fields.optional, Json.count?_nat fits]

theorem Config.read?_toJson {config : Config} (fits : config.Fits) :
    read? config.toJson = some config := by
  unfold read? toJson
  refine (Json.bind_fields? (by decide) (by rfl) _).trans ?_
  simp [Fields.optional, List.lookup_cons, DeviceConfig.read?_toJson,
    Policies.read?_toJson fits.capacities, LogConfig.read?_toJson fits.throttleSeconds]

section Plain

@[simp] theorem Mode.plain_toJson (mode : Mode) : mode.toJson.Plain := rfl

@[simp] theorem Overflow.plain_toJson (overflow : Overflow) : overflow.toJson.Plain := rfl

@[simp] theorem DropReason.plain_toJson (reason : DropReason) : reason.toJson.Plain := rfl

@[simp] theorem Policy.plain_toJson (policy : Policy) : policy.toJson.Plain :=
  Json.plain_object (by simp) (by simp)

@[simp] theorem Policies.plain_toJson (policies : Policies) : policies.toJson.Plain :=
  Json.plain_object (by simp) (by simp)

@[simp] theorem DeviceConfig.plain_toJson (config : DeviceConfig) : config.toJson.Plain :=
  Json.plain_object (by simp) (by simp)

@[simp] theorem LogConfig.plain_toJson (config : LogConfig) : config.toJson.Plain :=
  Json.plain_object (by simp) (by simp)

theorem Config.plain_toJson (config : Config) : config.toJson.Plain :=
  Json.plain_object (by simp) (by simp)

theorem Counters.plain_toJson (counters : Counters) : counters.toJson.Plain :=
  Json.plain_object (by simp) (by simp)

theorem Attributes.plain_toJson (attributes : Attributes) : attributes.toJson.Plain :=
  Json.plain_object (by simp) (by simp)

theorem Transition.plain_toJson (transition : Transition) : transition.toJson.Plain :=
  Json.plain_object (by simp [Transition.members]) (by simp [Transition.members])

theorem SubmitStatus.plain_toJson (status : SubmitStatus) : status.toJson.Plain := by
  cases status <;> exact Json.plain_object (by simp) (by simp)

theorem Event.plain_toJson (event : Event) : event.toJson.Plain := by
  cases event with
  | modeChanged transition flushedReads discardedReports =>
      have data : (Json.object (transition.members ++
          [("flushed_reads", .nat flushedReads),
            ("discarded_reports", .nat discardedReports)])).Plain :=
        Json.plain_object (by simp [Transition.members]) (by simp [Transition.members])
      exact Json.plain_object (by simp) (by simp [data])
  | reportDropped mode reason =>
      have data : (Json.object [("mode", mode.toJson), ("reason", reason.toJson)]).Plain :=
        Json.plain_object (by simp) (by simp)
      exact Json.plain_object (by simp) (by simp [data])
  | readCanceled id =>
      have data : (Json.object [("request_id", .nat id)]).Plain :=
        Json.plain_object (by simp) (by simp)
      exact Json.plain_object (by simp) (by simp [data])

theorem Contact.plain_toJson (contact : Contact) : contact.toJson.Plain :=
  Json.plain_object (by simp) (by simp)

theorem Report.plain_toJson (report : Report) : report.toJson.Plain := by
  cases report with
  | mouse | singleTouch => exact Json.plain_object (by simp) (by simp)
  | multiTouch contacts =>
      have all : (Json.arr (contacts.map Contact.toJson)).Plain :=
        Json.itemsPlain_map Contact.plain_toJson contacts
      exact Json.plain_object (by simp) (by simp [all])

end Plain

/-- Every value of each of the types is read back from its JSON text. -/
structure EveryShapeReadsBack : Prop where
  mode : ∀ mode, Json.ReadsBack Mode.toJson (Mode.ofJson? .direct) mode
  overflow : ∀ overflow,
    Json.ReadsBack Overflow.toJson (Document.variant? Overflow.names) overflow
  policy : ∀ policy : Policy, policy.capacity < UInt64.size →
    Json.ReadsBack Policy.toJson Policy.read? policy
  counters : ∀ counters : Counters, counters.Fits →
    Json.ReadsBack Counters.toJson Counters.ofJson? counters
  attributes : ∀ attributes, Json.ReadsBack Attributes.toJson Attributes.ofJson? attributes
  contact : ∀ contact, Json.ReadsBack Contact.toJson Contact.ofJson? contact
  report : ∀ report, Json.ReadsBack Report.toJson (Report.ofJson? .direct) report
  transition : ∀ transition : Transition, transition.epoch < UInt64.size →
    Json.ReadsBack Transition.toJson Transition.ofJson? transition
  status : ∀ status : SubmitStatus, status.Fits →
    Json.ReadsBack SubmitStatus.toJson SubmitStatus.ofJson? status
  reason : ∀ reason, Json.ReadsBack DropReason.toJson (DropReason.ofJson? .direct) reason
  event : ∀ event : Event, event.Fits → Json.ReadsBack Event.toJson Event.ofJson? event
  config : ∀ config : Config, config.Fits → Json.ReadsBack Config.toJson Config.read? config

theorem every_shape_reads_back : EveryShapeReadsBack where
  mode mode := Json.readsBack mode.plain_toJson (Mode.ofJson?_toJson .direct mode)
  overflow overflow := Json.readsBack overflow.plain_toJson overflow.variant?_toJson
  policy policy fits := Json.readsBack policy.plain_toJson (Policy.read?_toJson fits)
  counters counters fits := Json.readsBack counters.plain_toJson (Counters.ofJson?_toJson fits)
  attributes attributes := Json.readsBack attributes.plain_toJson attributes.ofJson?_toJson
  contact contact := Json.readsBack contact.plain_toJson contact.ofJson?_toJson
  report report := Json.readsBack report.plain_toJson (report.ofJson?_toJson .direct)
  transition transition fits :=
    Json.readsBack transition.plain_toJson (Transition.ofJson?_toJson fits)
  status status fits := Json.readsBack status.plain_toJson (SubmitStatus.ofJson?_toJson fits)
  reason reason := Json.readsBack reason.plain_toJson (DropReason.ofJson?_toJson .direct reason)
  event event fits := Json.readsBack event.plain_toJson (Event.ofJson?_toJson fits)
  config config fits := Json.readsBack config.plain_toJson (Config.read?_toJson fits)

/-- The greatest numbers of an event and of all counters, the farthest movement back, and a list of
contacts inside a report. -/
theorem every_shape_reads_back_greatest :
    let greatest := UInt64.size - 1
    Json.ReadsBack Event.toJson Event.ofJson?
        (.modeChanged ⟨.mouse, .multiTouch, greatest⟩ greatest greatest) ∧
      Json.ReadsBack Counters.toJson Counters.ofJson?
        ⟨greatest, greatest, greatest, greatest, greatest, greatest, greatest, greatest⟩ ∧
      Json.ReadsBack Report.toJson (Report.ofJson? .direct) (.mouse 7 (-127) (-128)) ∧
      Json.ReadsBack Report.toJson (Report.ofJson? .direct)
        (.multiTouch [⟨0, true, 32767, 0⟩, ⟨255, false, 65535, 1⟩]) := by
  intro greatest
  refine ⟨?_, ?_, ?_, ?_⟩
  · exact every_shape_reads_back.event _ ⟨by decide, by decide, by decide⟩
  · refine every_shape_reads_back.counters _ ⟨?_, ?_, ?_, ?_, ?_, ?_, ?_, ?_⟩
    all_goals decide
  · exact every_shape_reads_back.report _
  · exact every_shape_reads_back.report _

end HidPointer
