import HidPointer.Config.Load
import HidPointer.Proofs.Coherent
import HidPointer.Proofs.TextLines

/-!
# A configuration file is laid over the defaults

What `Config.load` makes of a document, said by the paths of its keys: each setting has the value
that the document gives it, or else its default. A document is refused as malformed when a known
key has a value of another type or range, or when a policy lacks one of its two keys. If there is
nothing to say against it otherwise, a mode whose buffer holds nothing is named, be it the initial
mode or another.

This is about documents in which sections and policies are tables and the values of enumerations
are strings (`Config.Shaped`).

Of settings that were accepted a device is made, unless the room for its first buffer cannot be
reserved (`Config.Makes`).
-/

set_option autoImplicit false

namespace HidPointer

namespace Toml

/-- The value at the end of a path of keys. -/
def valueAt? : List String → Toml → Option Toml
  | [], value => some value
  | key :: path, .table entries => (entries.lookup key).bind (valueAt? path)
  | _ :: _, _ => none

/-- The entries of the table at the end of a path. There are none if there is no table. -/
def fieldsAt (path : List String) (document : Toml) : Fields Toml :=
  match document.valueAt? path with
  | some (.table entries) => entries
  | _ => []

theorem valueAt?_concat (document : Toml) (path : List String) (key : String) :
    document.valueAt? (path ++ [key]) = (document.fieldsAt path).lookup key := by
  induction path generalizing document with
  | nil =>
      cases document with
      | table entries =>
          cases found : entries.lookup key <;> simp [valueAt?, fieldsAt, found]
      | _ => rfl
  | cons first path ih =>
      cases document with
      | table entries =>
          cases found : entries.lookup first with
          | none => simp [valueAt?, fieldsAt, found]
          | some inner =>
              have deeper := ih inner
              simp only [fieldsAt] at deeper
              simp only [List.cons_append, valueAt?, fieldsAt, found, Option.bind_some, deeper]
      | _ => rfl

def isTable : Toml → Bool
  | .table _ => true
  | _ => false

def isString : Toml → Bool
  | .string _ => true
  | _ => false

theorem isTable_iff {value : Toml} : value.isTable ↔ ∃ entries, value = .table entries := by
  cases value <;> simp [isTable]

theorem isString_iff {value : Toml} : value.isString ↔ ∃ text, value = .string text := by
  cases value <;> simp [isString]

/-- What a value stands for as a setting. -/
def IsWord (value : Toml) (word : UInt16) : Prop :=
  value = .integer word.toNat

def IsCount (value : Toml) (count : Nat) : Prop :=
  value = .integer count ∧ count < UInt64.size

def IsMode (value : Toml) (mode : Mode) : Prop :=
  value = .string mode.name

def IsOverflow (value : Toml) (overflow : Overflow) : Prop :=
  value = .string overflow.name

theorem below?_eq_some_iff {bound number : Nat} {value : Toml} :
    Document.below? bound value = some number ↔ value = .integer number ∧ number < bound := by
  unfold Document.below?
  rw [Option.filter_eq_some_iff]
  have natural : Document.nat? value = some number ↔ value = .integer number := by
    cases value with
    | integer value =>
        cases value with
        | ofNat value =>
            show some value = some number ↔ integer (.ofNat value) = integer (.ofNat number)
            rw [Option.some_inj, integer.injEq, Int.ofNat.injEq]
        | negSucc value => simp [Document.nat?, nat?]
    | _ => simp [Document.nat?, nat?]
  simp [natural]

theorem count?_eq_some_iff {value : Toml} {count : Nat} :
    Document.count? value = some count ↔ value.IsCount count :=
  below?_eq_some_iff

theorem word?_eq_some_iff {value : Toml} {word : UInt16} :
    Document.word? value = some word ↔ value.IsWord word := by
  unfold Document.word? IsWord
  rw [Option.map_eq_some_iff]
  constructor
  · rintro ⟨number, found, rfl⟩
    obtain ⟨rfl, below⟩ := below?_eq_some_iff.mp found
    rw [UInt16.toNat_ofNat', Nat.mod_eq_of_lt below]
  · rintro rfl
    exact ⟨word.toNat, below?_eq_some_iff.mpr ⟨rfl, word.toNat_lt⟩, UInt16.ofNat_toNat⟩

theorem exists_table {text : String} {document : Toml} (parses : parse? text = some document) :
    ∃ entries, document = .table entries := by
  obtain ⟨draft, _, isTable⟩ := Option.map_eq_some_iff.mp parses
  exact ⟨_, isTable.symm⟩

/-- A name stands for the variant that has it. -/
theorem lookup_names {α : Type} {name : α → String} (apart : Function.Injective name)
    {variants : List α} {text : String} {variant : α} (isVariant : variant ∈ variants) :
    (variants.map fun variant => (name variant, variant)).lookup text = some variant ↔
      text = name variant := by
  constructor
  · intro found
    obtain ⟨front, back, split, _⟩ := List.lookup_eq_some_iff.mp found
    have member : (text, variant) ∈ variants.map fun variant => (name variant, variant) := by
      rw [split]
      exact List.mem_append_right _ List.mem_cons_self
    obtain ⟨other, _, same⟩ := List.mem_map.mp member
    cases same
    rfl
  · rintro rfl
    induction variants with
    | nil => cases isVariant
    | cons first variants ih =>
        rw [List.map_cons, List.lookup_cons]
        cases same : name variant == name first with
        | true => rw [apart (eq_of_beq same)]
        | false =>
            have differs : variant ≠ first := by
              rintro rfl
              simp at same
            exact ih ((List.mem_cons.mp isVariant).resolve_left differs)

theorem variant?_eq_some_iff {α : Type} {name : α → String} (apart : Function.Injective name)
    {variants : List α} {variant : α} (isVariant : variant ∈ variants) {value : Toml}
    (named : value.isString) :
    Document.variant? (variants.map fun variant => (name variant, variant)) value = some variant ↔
      value = .string (name variant) := by
  obtain ⟨text, rfl⟩ := isString_iff.mp named
  rw [string.injEq]
  exact lookup_names apart isVariant

end Toml

/-- The setting is what the document says, or else the default. -/
def Overlaid {α : Type} (stands : Toml → α → Prop) (found : Option Toml) (default actual : α) :
    Prop :=
  match found with
  | some value => stands value actual
  | none => actual = default

/-- The types of the settings. -/
inductive SettingType where
  | word
  | count
  | mode
  | overflow
  deriving DecidableEq

namespace SettingType

def Accepts : SettingType → Toml → Prop
  | word, value => ∃ word, value.IsWord word
  | count, value => ∃ count, value.IsCount count
  | mode, value => ∃ mode, value.IsMode mode
  | overflow, value => ∃ overflow, value.IsOverflow overflow

end SettingType

namespace Config

def knownKeys : List (List String × SettingType) :=
  [(["device", "vendor_id"], .word), (["device", "product_id"], .word),
    (["device", "version_number"], .word), (["device", "initial_mode"], .mode),
    (["log", "throttle_secs"], .count)] ++
  Mode.all.flatMap fun mode =>
    [(["queue", mode.name, "capacity"], .count), (["queue", mode.name, "overflow"], .overflow)]

theorem capacity_known (mode : Mode) :
    (["queue", mode.name, "capacity"], .count) ∈ knownKeys := by
  cases mode <;> decide

theorem overflow_known (mode : Mode) :
    (["queue", mode.name, "overflow"], .overflow) ∈ knownKeys := by
  cases mode <;> decide

/-- Sections and policies, where present, are tables, and the values of enumerations strings. -/
structure Shaped (document : Toml) : Prop where
  sections : ∀ key ∈ ["device", "queue", "log"], ∀ value ∈ document.valueAt? [key], value.isTable
  policies : ∀ mode : Mode, ∀ value ∈ document.valueAt? ["queue", mode.name], value.isTable
  initialMode : ∀ value ∈ document.valueAt? ["device", "initial_mode"], value.isString
  overflow : ∀ mode : Mode, ∀ value ∈ document.valueAt? ["queue", mode.name, "overflow"],
    value.isString

instance (document : Toml) : Decidable (Shaped document) :=
  decidable_of_iff
    ((∀ key ∈ ["device", "queue", "log"], ∀ value ∈ document.valueAt? [key], value.isTable) ∧
      (∀ value ∈ document.valueAt? ["device", "initial_mode"], value.isString) ∧
      ∀ mode ∈ Mode.all, (∀ value ∈ document.valueAt? ["queue", mode.name], value.isTable) ∧
        ∀ value ∈ document.valueAt? ["queue", mode.name, "overflow"], value.isString)
    ⟨fun ⟨sections, initialMode, modes⟩ =>
      ⟨sections, fun mode => (modes mode mode.mem_all).1, initialMode,
        fun mode => (modes mode mode.mem_all).2⟩,
      fun shaped => ⟨shaped.sections, shaped.initialMode,
        fun mode _ => ⟨shaped.policies mode, shaped.overflow mode⟩⟩⟩

/-- If there is a policy for the mode, it has both keys. -/
def CompleteFor (document : Toml) (mode : Mode) : Prop :=
  (document.valueAt? ["queue", mode.name]).isSome →
    (document.valueAt? ["queue", mode.name, "capacity"]).isSome ∧
      (document.valueAt? ["queue", mode.name, "overflow"]).isSome

/-- Every known key that is present has a value of its type, and no policy lacks a key. -/
structure WellTyped (document : Toml) : Prop where
  typed : ∀ path type, (path, type) ∈ knownKeys → ∀ value, document.valueAt? path = some value →
    type.Accepts value
  complete : ∀ mode, CompleteFor document mode

/-- How many reports the document has a mode buffer. -/
def Capacity (document : Toml) (mode : Mode) (capacity : Nat) : Prop :=
  Overlaid Toml.IsCount (document.valueAt? ["queue", mode.name, "capacity"])
    (default.queue.get mode).capacity capacity

structure PolicyOverlay (document : Toml) (mode : Mode) (policy : Policy) : Prop where
  capacity : Capacity document mode policy.capacity
  overflow : Overlaid Toml.IsOverflow (document.valueAt? ["queue", mode.name, "overflow"])
    (default.queue.get mode).overflow policy.overflow

/-- The configuration has the settings of the document, and defaults for all others. -/
structure Overlay (document : Toml) (config : Config) : Prop where
  vendorId : Overlaid Toml.IsWord (document.valueAt? ["device", "vendor_id"])
    default.device.attributes.vendorId config.device.attributes.vendorId
  productId : Overlaid Toml.IsWord (document.valueAt? ["device", "product_id"])
    default.device.attributes.productId config.device.attributes.productId
  versionNumber : Overlaid Toml.IsWord (document.valueAt? ["device", "version_number"])
    default.device.attributes.versionNumber config.device.attributes.versionNumber
  initialMode : Overlaid Toml.IsMode (document.valueAt? ["device", "initial_mode"])
    default.device.initialMode config.device.initialMode
  queue : ∀ mode, PolicyOverlay document mode (config.queue.get mode)
  throttleSeconds : Overlaid Toml.IsCount (document.valueAt? ["log", "throttle_secs"])
    default.log.throttleSeconds config.log.throttleSeconds

end Config

section Readers

variable {α : Type} {fields : Fields Toml} {name : String} {read : Toml → Option α}
  {stands : Toml → α → Prop} {default actual : α}

theorem Fields.optional_eq_some_iff
    (reads : ∀ value, fields.lookup name = some value →
      (read value = some actual ↔ stands value actual)) :
    fields.optional name read default = some actual ↔
      Overlaid stands (fields.lookup name) default actual := by
  unfold optional Overlaid
  cases found : fields.lookup name with
  | none =>
      rw [Option.some_inj]
      exact eq_comm
  | some value => exact reads value found

/-- A section that is not there says as much as an empty one. -/
theorem Fields.optional_eq_read {document : Toml} {path : List String} {key : String}
    (isTable : ∀ value ∈ document.valueAt? (path ++ [key]), value.isTable)
    (empty : read (.table []) = some default) :
    (document.fieldsAt path).optional key read default =
      read (.table (document.fieldsAt (path ++ [key]))) := by
  cases found : (document.fieldsAt path).lookup key with
  | none =>
      have nothing : document.fieldsAt (path ++ [key]) = [] := by
        rw [Toml.fieldsAt, Toml.valueAt?_concat, found]
      rw [optional, found, nothing, empty]
  | some value =>
      rw [Toml.valueAt?_concat] at isTable
      obtain ⟨entries, rfl⟩ := Toml.isTable_iff.mp (isTable value found)
      have inside : document.fieldsAt (path ++ [key]) = entries := by
        rw [Toml.fieldsAt, Toml.valueAt?_concat, found]
      rw [optional, found, inside]

theorem Fields.required_eq_some_iff :
    fields.required name read = some actual ↔
      ∃ value, fields.lookup name = some value ∧ read value = some actual :=
  Option.bind_eq_some_iff

end Readers

theorem Mode.variant?_eq_some_iff {value : Toml} {mode : Mode} (named : value.isString) :
    Document.variant? names value = some mode ↔ value.IsMode mode := by
  refine Toml.variant?_eq_some_iff ?_ mode.mem_all named
  intro one other same
  cases one <;> cases other <;> first | rfl | simp [name] at same

theorem Overflow.variant?_eq_some_iff {value : Toml} {overflow : Overflow}
    (named : value.isString) :
    Document.variant? names value = some overflow ↔ value.IsOverflow overflow := by
  refine Toml.variant?_eq_some_iff ?_ (by cases overflow <;> simp) named
  intro one other same
  cases one <;> cases other <;> first | rfl | simp [name] at same

section Sections

variable {fields : Fields Toml}

theorem DeviceConfig.read?_eq_some_iff {config : DeviceConfig}
    (named : ∀ value ∈ fields.lookup "initial_mode", value.isString) :
    read? (Toml.table fields) = some config ↔
      Overlaid Toml.IsWord (fields.lookup "vendor_id") default.attributes.vendorId
          config.attributes.vendorId ∧
        Overlaid Toml.IsWord (fields.lookup "product_id") default.attributes.productId
          config.attributes.productId ∧
        Overlaid Toml.IsWord (fields.lookup "version_number") default.attributes.versionNumber
          config.attributes.versionNumber ∧
        Overlaid Toml.IsMode (fields.lookup "initial_mode") default.initialMode
          config.initialMode := by
  have word (name : String) (base actual : UInt16) :
      fields.optional name Document.word? base = some actual ↔
        Overlaid Toml.IsWord (fields.lookup name) base actual :=
    Fields.optional_eq_some_iff fun _ _ => Toml.word?_eq_some_iff
  have mode (actual : Mode) :
      fields.optional "initial_mode" (Document.variant? Mode.names) default.initialMode =
          some actual ↔
        Overlaid Toml.IsMode (fields.lookup "initial_mode") default.initialMode actual :=
    Fields.optional_eq_some_iff fun value found => Mode.variant?_eq_some_iff (named value found)
  have found : Document.fields? ["vendor_id", "product_id", "version_number", "initial_mode"]
      (Toml.table fields) = some fields := rfl
  simp only [read?, found, Option.bind_eq_bind, Option.bind_some, Option.bind_eq_some_iff, word,
    mode, Option.pure_def, Option.some_inj]
  constructor
  · rintro ⟨vendorId, isVendor, productId, isProduct, version, isVersion, initial, isInitial, rfl⟩
    exact ⟨isVendor, isProduct, isVersion, isInitial⟩
  · rintro ⟨isVendor, isProduct, isVersion, isInitial⟩
    exact ⟨_, isVendor, _, isProduct, _, isVersion, _, isInitial, rfl⟩

theorem LogConfig.read?_eq_some_iff {config : LogConfig} :
    read? (Toml.table fields) = some config ↔
      Overlaid Toml.IsCount (fields.lookup "throttle_secs") default.throttleSeconds
        config.throttleSeconds := by
  have count (actual : Nat) :
      fields.optional "throttle_secs" Document.count? default.throttleSeconds = some actual ↔
        Overlaid Toml.IsCount (fields.lookup "throttle_secs") default.throttleSeconds actual :=
    Fields.optional_eq_some_iff fun _ _ => Toml.count?_eq_some_iff
  have found : Document.fields? ["throttle_secs"] (Toml.table fields) = some fields := rfl
  simp only [read?, found, Option.bind_eq_bind, Option.bind_some, Option.bind_eq_some_iff, count,
    Option.pure_def, Option.some_inj]
  constructor
  · rintro ⟨seconds, isSeconds, rfl⟩
    exact isSeconds
  · intro isSeconds
    exact ⟨_, isSeconds, rfl⟩

theorem Policy.read?_eq_some_iff {policy : Policy}
    (named : ∀ value ∈ fields.lookup "overflow", value.isString) :
    read? (Toml.table fields) = some policy ↔
      (∃ value, fields.lookup "capacity" = some value ∧ value.IsCount policy.capacity) ∧
        ∃ value, fields.lookup "overflow" = some value ∧ value.IsOverflow policy.overflow := by
  have found : Document.fields? ["capacity", "overflow"] (Toml.table fields) = some fields := rfl
  simp only [read?, found, Option.bind_eq_bind, Option.bind_some, Option.bind_eq_some_iff,
    Fields.required_eq_some_iff, Toml.count?_eq_some_iff, Option.pure_def, Option.some_inj]
  constructor
  · rintro ⟨capacity, isCapacity, overflow, ⟨value, there, reads⟩, rfl⟩
    exact ⟨isCapacity, value, there, (Overflow.variant?_eq_some_iff (named value there)).mp reads⟩
  · rintro ⟨isCapacity, value, there, stands⟩
    have reads := (Overflow.variant?_eq_some_iff (named value there)).mpr stands
    exact ⟨_, isCapacity, _, ⟨value, there, reads⟩, rfl⟩

theorem Policies.read?_eq_some_iff {policies : Policies} :
    read? (Toml.table fields) = some policies ↔
      ∀ mode : Mode, fields.optional mode.name Policy.read? (default.get mode) =
        some (policies.get mode) := by
  have found : Document.fields? ["mouse", "single_touch", "multi_touch"] (Toml.table fields) =
    some fields := rfl
  simp only [read?, found, Option.bind_eq_bind, Option.bind_some, Option.bind_eq_some_iff,
    Option.pure_def, Option.some_inj]
  constructor
  · rintro ⟨mouse, isMouse, singleTouch, isSingle, multiTouch, isMulti, rfl⟩ mode
    cases mode with
    | mouse => exact isMouse
    | singleTouch => exact isSingle
    | multiTouch => exact isMulti
  · intro each
    exact ⟨_, each .mouse, _, each .singleTouch, _, each .multiTouch, rfl⟩

end Sections

theorem overlaid_of_some_iff {α : Type} {stands : Toml → α → Prop} {found : Option Toml}
    {actual : α} (default : α) :
    (∃ value, found = some value ∧ stands value actual) ↔
      found.isSome ∧ Overlaid stands found default actual := by
  cases found <;> simp [Overlaid]

theorem Overlaid.stands {α : Type} {stands : Toml → α → Prop} {found : Option Toml} {value : Toml}
    {default actual : α} (overlaid : Overlaid stands found default actual)
    (isFound : found = some value) : stands value actual := by
  subst isFound
  exact overlaid

theorem exists_overlaid {α : Type} {stands : Toml → α → Prop} {found : Option Toml} (default : α)
    (accepted : ∀ value, found = some value → ∃ actual, stands value actual) :
    ∃ actual, Overlaid stands found default actual := by
  cases found with
  | none => exact ⟨default, rfl⟩
  | some value => exact accepted value rfl

namespace Config

variable {document : Toml} {config : Config}

theorem optional_policy_eq_some_iff (shaped : Shaped document) {mode : Mode} {policy : Policy} :
    (document.fieldsAt ["queue"]).optional mode.name Policy.read? (default.queue.get mode) =
        some policy ↔
      CompleteFor document mode ∧ PolicyOverlay document mode policy := by
  have parts : PolicyOverlay document mode policy ↔
      Capacity document mode policy.capacity ∧
        Overlaid Toml.IsOverflow (document.valueAt? ["queue", mode.name, "overflow"])
          (default.queue.get mode).overflow policy.overflow :=
    ⟨fun overlay => ⟨overlay.capacity, overlay.overflow⟩, fun both => ⟨both.1, both.2⟩⟩
  have here := document.valueAt?_concat ["queue"] mode.name
  have capacity := document.valueAt?_concat ["queue", mode.name] "capacity"
  have overflow := document.valueAt?_concat ["queue", mode.name] "overflow"
  simp only [List.cons_append, List.nil_append] at here capacity overflow
  cases found : (document.fieldsAt ["queue"]).lookup mode.name with
  | none =>
      have nothing : document.fieldsAt ["queue", mode.name] = [] := by
        rw [Toml.fieldsAt, here, found]
      rw [parts, Capacity, Fields.optional, found, CompleteFor, here, capacity, overflow, nothing,
        found]
      simp only [List.lookup_nil, Overlaid, Option.isSome_none, Bool.false_eq_true,
        false_implies, true_and, Option.some_inj]
      constructor
      · rintro rfl
        exact ⟨rfl, rfl⟩
      · rintro ⟨sameCapacity, sameOverflow⟩
        cases policy
        cases sameCapacity
        cases sameOverflow
        rfl
  | some value =>
      rw [found] at here
      obtain ⟨inner, rfl⟩ := Toml.isTable_iff.mp (shaped.policies mode value here)
      have inside : document.fieldsAt ["queue", mode.name] = inner := by
        rw [Toml.fieldsAt, here]
      have named : ∀ value ∈ inner.lookup "overflow", value.isString := by
        intro value there
        refine shaped.overflow mode value ?_
        rwa [overflow, inside]
      rw [parts, Capacity, Fields.optional, found, CompleteFor, here, capacity, overflow, inside]
      refine (Policy.read?_eq_some_iff named).trans ?_
      rw [overlaid_of_some_iff (default.queue.get mode).capacity,
        overlaid_of_some_iff (default.queue.get mode).overflow]
      simp only [Option.isSome_some, true_implies]
      exact and_and_and_comm

theorem read?_eq_some_iff {entries : Fields Toml} (shaped : Shaped (.table entries)) :
    read? (Toml.table entries) = some config ↔
      (∀ mode, CompleteFor (.table entries) mode) ∧ Overlay (.table entries) config := by
  have isTable (key : String) (known : key ∈ ["device", "queue", "log"]) :
      ∀ value ∈ (Toml.table entries).valueAt? ([] ++ [key]), value.isTable :=
    shaped.sections key known
  have device : entries.optional "device" DeviceConfig.read? .default =
      DeviceConfig.read? (Toml.table ((Toml.table entries).fieldsAt ["device"])) :=
    Fields.optional_eq_read (isTable "device" (by decide)) rfl
  have queue : entries.optional "queue" Policies.read? .default =
      Policies.read? (Toml.table ((Toml.table entries).fieldsAt ["queue"])) :=
    Fields.optional_eq_read (isTable "queue" (by decide)) rfl
  have log : entries.optional "log" LogConfig.read? .default =
      LogConfig.read? (Toml.table ((Toml.table entries).fieldsAt ["log"])) :=
    Fields.optional_eq_read (isTable "log" (by decide)) rfl
  have found : Document.fields? ["device", "queue", "log"] (Toml.table entries) = some entries :=
    rfl
  have named : ∀ value ∈ ((Toml.table entries).fieldsAt ["device"]).lookup "initial_mode",
      value.isString := by
    intro value there
    rw [← Toml.valueAt?_concat] at there
    exact shaped.initialMode value there
  simp only [read?, found, device, queue, log, Option.bind_eq_bind, Option.bind_some,
    Option.bind_eq_some_iff, DeviceConfig.read?_eq_some_iff named, Policies.read?_eq_some_iff,
    LogConfig.read?_eq_some_iff, ← Toml.valueAt?_concat, List.cons_append, List.nil_append,
    Option.pure_def, Option.some_inj]
  constructor
  · rintro ⟨device, ⟨vendorId, productId, versionNumber, initialMode⟩, queue, policies, log,
      throttleSeconds, rfl⟩
    have each (mode : Mode) := (optional_policy_eq_some_iff shaped).mp (policies mode)
    refine ⟨fun mode => (each mode).1, ?_⟩
    exact ⟨vendorId, productId, versionNumber, initialMode, fun mode => (each mode).2,
      throttleSeconds⟩
  · rintro ⟨complete, overlay⟩
    refine ⟨config.device, ⟨overlay.vendorId, overlay.productId, overlay.versionNumber,
      overlay.initialMode⟩, config.queue, fun mode => ?_, config.log, overlay.throttleSeconds, rfl⟩
    exact (optional_policy_eq_some_iff shaped).mpr
      ⟨complete mode, overlay.queue mode⟩

theorem Capacity.unique {mode : Mode} {one other : Nat} (first : Capacity document mode one)
    (second : Capacity document mode other) : one = other := by
  unfold Capacity at first second
  cases found : document.valueAt? ["queue", mode.name, "capacity"] with
  | none =>
      rw [found] at first second
      exact first.trans second.symm
  | some value =>
      rw [found] at first second
      obtain ⟨rfl, _⟩ := first
      obtain ⟨same, _⟩ := second
      exact Int.ofNat_inj.mp (Toml.integer.inj same)

theorem Overlay.wellTyped (overlay : Overlay document config)
    (complete : ∀ mode, CompleteFor document mode) : WellTyped document := by
  refine ⟨fun path type known value found => ?_, complete⟩
  rcases List.mem_append.mp known with known | known
  · simp only [List.mem_cons, List.not_mem_nil, or_false, Prod.mk.injEq] at known
    rcases known with ⟨rfl, rfl⟩ | ⟨rfl, rfl⟩ | ⟨rfl, rfl⟩ | ⟨rfl, rfl⟩ | ⟨rfl, rfl⟩
    · exact ⟨_, overlay.vendorId.stands found⟩
    · exact ⟨_, overlay.productId.stands found⟩
    · exact ⟨_, overlay.versionNumber.stands found⟩
    · exact ⟨_, overlay.initialMode.stands found⟩
    · exact ⟨_, overlay.throttleSeconds.stands found⟩
  · obtain ⟨mode, _, member⟩ := List.mem_flatMap.mp known
    simp only [List.mem_cons, List.not_mem_nil, or_false, Prod.mk.injEq] at member
    rcases member with ⟨rfl, rfl⟩ | ⟨rfl, rfl⟩
    · exact ⟨_, Overlaid.stands (overlay.queue mode).capacity found⟩
    · exact ⟨_, (overlay.queue mode).overflow.stands found⟩

theorem WellTyped.exists_policies (wellTyped : WellTyped document) :
    ∃ policies : Policies, ∀ mode, PolicyOverlay document mode (policies.get mode) := by
  have each (mode : Mode) : ∃ policy, PolicyOverlay document mode policy := by
    obtain ⟨capacity, isCapacity⟩ := exists_overlaid (default.queue.get mode).capacity
      (wellTyped.typed _ .count (capacity_known mode))
    obtain ⟨overflow, isOverflow⟩ := exists_overlaid (default.queue.get mode).overflow
      (wellTyped.typed _ .overflow (overflow_known mode))
    exact ⟨⟨capacity, overflow⟩, isCapacity, isOverflow⟩
  obtain ⟨mouse, isMouse⟩ := each .mouse
  obtain ⟨singleTouch, isSingleTouch⟩ := each .singleTouch
  obtain ⟨multiTouch, isMultiTouch⟩ := each .multiTouch
  refine ⟨⟨mouse, singleTouch, multiTouch⟩, fun mode => ?_⟩
  cases mode with
  | mouse => exact isMouse
  | singleTouch => exact isSingleTouch
  | multiTouch => exact isMultiTouch

theorem WellTyped.exists_overlay (wellTyped : WellTyped document) :
    ∃ config, Overlay document config := by
  obtain ⟨vendorId, isVendorId⟩ := exists_overlaid default.device.attributes.vendorId
    (wellTyped.typed ["device", "vendor_id"] .word (by decide))
  obtain ⟨productId, isProductId⟩ := exists_overlaid default.device.attributes.productId
    (wellTyped.typed ["device", "product_id"] .word (by decide))
  obtain ⟨versionNumber, isVersionNumber⟩ := exists_overlaid
    default.device.attributes.versionNumber
    (wellTyped.typed ["device", "version_number"] .word (by decide))
  obtain ⟨initialMode, isInitialMode⟩ := exists_overlaid default.device.initialMode
    (wellTyped.typed ["device", "initial_mode"] .mode (by decide))
  obtain ⟨throttleSeconds, isThrottleSeconds⟩ := exists_overlaid default.log.throttleSeconds
    (wellTyped.typed ["log", "throttle_secs"] .count (by decide))
  obtain ⟨policies, arePolicies⟩ := wellTyped.exists_policies
  exact ⟨⟨⟨⟨vendorId, productId, versionNumber⟩, initialMode⟩, policies, ⟨throttleSeconds⟩⟩,
    isVendorId, isProductId, isVersionNumber, isInitialMode, arePolicies, isThrottleSeconds⟩

theorem read?_eq_none_iff {entries : Fields Toml} (shaped : Shaped (.table entries)) :
    read? (Toml.table entries) = none ↔ ¬ WellTyped (.table entries) := by
  rw [Option.eq_none_iff_forall_ne_some]
  constructor
  · intro none wellTyped
    obtain ⟨config, overlay⟩ := wellTyped.exists_overlay
    exact none config ((read?_eq_some_iff shaped).mpr ⟨wellTyped.complete, overlay⟩)
  · intro untyped config reads
    obtain ⟨complete, overlay⟩ := (read?_eq_some_iff shaped).mp reads
    exact untyped (overlay.wellTyped complete)

/-- The first mode without room for a report is named. -/
theorem validate_eq_error {before after : List Mode} {mode : Mode}
    (order : Mode.all = before ++ mode :: after)
    (earlier : ∀ other ∈ before, (config.queue.get other).capacity ≠ 0)
    (zero : (config.queue.get mode).capacity = 0) :
    config.validate = .error (.noCapacity mode) := by
  have first : Mode.all.find? (fun mode => (config.queue.get mode).capacity == 0) = some mode := by
    refine List.find?_eq_some_iff_append.mpr ⟨by simpa using zero, before, after, order, ?_⟩
    intro other member
    simpa using earlier other member
  rw [validate, first]

/-- What it means that a document is laid over the defaults and checked for every mode. -/
structure Overlays (document : Toml) (loaded : Except LoadError Config) : Prop where
  succeeds : (∃ config, loaded = .ok config) ↔
    WellTyped document ∧ ∀ mode capacity, Capacity document mode capacity → 1 ≤ capacity
  overlay : ∀ config, loaded = .ok config → Overlay document config
  malformed : ¬ WellTyped document → loaded = .error .malformed
  invalid : WellTyped document → ∀ before mode after, Mode.all = before ++ mode :: after →
    (∀ earlier ∈ before, ¬ Capacity document earlier 0) → Capacity document mode 0 →
    loaded = .error (.invalid (.noCapacity mode))

theorem ofDocument_of_valid (reads : read? document = some config)
    (valid : config.validate = .ok ()) : ofDocument document = .ok config := by
  simp only [ofDocument, reads, valid]
  rfl

theorem ofDocument_of_invalid {fault : ConfigFault} (reads : read? document = some config)
    (invalid : config.validate = .error fault) :
    ofDocument document = .error (.invalid fault) := by
  simp only [ofDocument, reads, invalid]

theorem ofDocument_overlays {entries : Fields Toml} (shaped : Shaped (.table entries)) :
    Overlays (.table entries) (ofDocument (.table entries)) := by
  cases reads : read? (Toml.table entries) with
  | none =>
      have untyped := (read?_eq_none_iff shaped).mp reads
      have refused : ofDocument (Toml.table entries) = .error .malformed := by
        rw [ofDocument, reads]
      rw [refused]
      refine ⟨⟨?_, fun holds => (untyped holds.1).elim⟩, ?_, fun _ => rfl,
        fun wellTyped => (untyped wellTyped).elim⟩
      · rintro ⟨_, ⟨⟩⟩
      · rintro _ ⟨⟩
  | some config =>
      obtain ⟨complete, overlay⟩ := (read?_eq_some_iff shaped).mp reads
      have wellTyped := overlay.wellTyped complete
      have actual (mode : Mode) :
          Capacity (.table entries) mode (config.queue.get mode).capacity :=
        (overlay.queue mode).capacity
      cases valid : config.validate with
      | ok =>
          rw [ofDocument_of_valid reads valid]
          have positive := validate_eq_ok_iff.mp valid
          refine ⟨⟨fun _ => ⟨wellTyped, ?_⟩, fun _ => ⟨config, rfl⟩⟩, ?_,
            fun untyped => (untyped wellTyped).elim, ?_⟩
          · intro mode capacity isCapacity
            rw [isCapacity.unique (actual mode)]
            exact positive mode
          · rintro _ ⟨⟩
            exact overlay
          · intro _ _ mode _ _ _ zero
            exact absurd ((actual mode).unique zero) (Nat.ne_of_gt (positive mode))
      | error fault =>
          rw [ofDocument_of_invalid reads valid]
          refine ⟨⟨?_, ?_⟩, ?_, fun untyped => (untyped wellTyped).elim, ?_⟩
          · rintro ⟨_, ⟨⟩⟩
          · rintro ⟨_, positive⟩
            rw [validate_eq_ok_iff.mpr fun mode => positive mode _ (actual mode)] at valid
            cases valid
          · rintro _ ⟨⟩
          · intro _ before mode after order earlier zero
            have named : config.validate = .error (.noCapacity mode) := by
              refine validate_eq_error order (fun other member isZero => ?_)
                ((actual mode).unique zero)
              exact earlier other member (isZero ▸ actual other)
            rw [named] at valid
            cases valid
            rfl

/-- The documents have the same values of known keys and policies for the same modes. -/
structure Agree (document other : Toml) : Prop where
  values : ∀ path type, (path, type) ∈ knownKeys → document.valueAt? path = other.valueAt? path
  policies : ∀ mode : Mode, (document.valueAt? ["queue", mode.name]).isSome =
    (other.valueAt? ["queue", mode.name]).isSome

theorem Agree.symm {other : Toml} (agree : Agree document other) : Agree other document :=
  ⟨fun path type known => (agree.values path type known).symm,
    fun mode => (agree.policies mode).symm⟩

theorem Agree.completeFor {other : Toml} (agree : Agree document other) (mode : Mode) :
    CompleteFor document mode ↔ CompleteFor other mode := by
  unfold CompleteFor
  rw [agree.policies, agree.values _ _ (capacity_known mode),
    agree.values _ _ (overflow_known mode)]

theorem Agree.overlay {other : Toml} (agree : Agree document other)
    (overlay : Overlay document config) : Overlay other config where
  vendorId := agree.values ["device", "vendor_id"] .word (by decide) ▸ overlay.vendorId
  productId := agree.values ["device", "product_id"] .word (by decide) ▸ overlay.productId
  versionNumber :=
    agree.values ["device", "version_number"] .word (by decide) ▸ overlay.versionNumber
  initialMode := agree.values ["device", "initial_mode"] .mode (by decide) ▸ overlay.initialMode
  queue mode := by
    obtain ⟨capacity, overflow⟩ := overlay.queue mode
    rw [Capacity, agree.values _ _ (capacity_known mode)] at capacity
    rw [agree.values _ _ (overflow_known mode)] at overflow
    exact ⟨capacity, overflow⟩
  throttleSeconds :=
    agree.values ["log", "throttle_secs"] .count (by decide) ▸ overlay.throttleSeconds

theorem Agree.ofDocument_eq {entries others : Fields Toml}
    (agree : Agree (.table entries) (.table others)) (shaped : Shaped (.table entries))
    (otherShaped : Shaped (.table others)) :
    ofDocument (Toml.table entries) = ofDocument (Toml.table others) := by
  have reads : read? (Toml.table entries) = read? (Toml.table others) := by
    refine Option.ext fun config => ?_
    rw [read?_eq_some_iff shaped, read?_eq_some_iff otherShaped]
    exact and_congr (forall_congr' agree.completeFor) ⟨agree.overlay, agree.symm.overlay⟩
  rw [ofDocument, ofDocument, reads]

theorem load_eq_ofDocument {contents : ByteArray} {text : String}
    (decodes : String.fromUTF8? contents = some text)
    (parses : Toml.parse? text = some document) :
    load (some contents) = ofDocument document := by
  rw [load, Option.bind_some, decodes]
  show ofText text = ofDocument document
  rw [ofText, parses]

/-- What it means that a device is made of settings where every mode can buffer a report and the
room for the buffer of the first mode can be reserved, and only there. -/
structure Makes {κ : Type} (config : Config) (made : Except ConfigFault (Device κ)) : Prop where
  succeeds : (∃ device, made = .ok device) ↔
    (∀ mode, 1 ≤ (config.queue.get mode).capacity) ∧
      (config.queue.get config.device.initialMode).Reservable
  invalid : ∀ before mode after, Mode.all = before ++ mode :: after →
    (∀ earlier ∈ before, (config.queue.get earlier).capacity ≠ 0) →
    (config.queue.get mode).capacity = 0 → made = .error (.noCapacity mode)
  breaksOff : (∀ mode, 1 ≤ (config.queue.get mode).capacity) →
    ¬ (config.queue.get config.device.initialMode).Reservable → made = .error .capacityOverflow

theorem ofConfig_makes {κ : Type} (config : Config) :
    Makes config (Device.ofConfig config : Except ConfigFault (Device κ)) := by
  refine ⟨⟨?_, ?_⟩, ?_, ?_⟩
  · rintro ⟨device, made⟩
    obtain ⟨positive, room, _⟩ := Device.ofConfig_eq_ok_iff.mp made
    exact ⟨positive, room⟩
  · rintro ⟨positive, room⟩
    exact ⟨_, Device.ofConfig_eq_ok_iff.mpr ⟨positive, room, rfl⟩⟩
  · intro before mode after order earlier zero
    rw [Device.ofConfig, validate_eq_error order earlier zero]
    rfl
  · intro positive noRoom
    rw [Device.ofConfig, validate_eq_ok_iff.mpr positive, if_neg noRoom]
    rfl

/-- A file is laid over the defaults, whichever mode is the initial one, and what else it says makes
no difference. A device is made of settings under the same condition on the capacities, and where
the room for the first buffer can be reserved besides. -/
theorem load_overlays_defaults {κ : Type} {contents : ByteArray} {text : String}
    (decodes : String.fromUTF8? contents = some text)
    (parses : Toml.parse? text = some document) (shaped : Shaped document) :
    Overlays document (load (some contents)) ∧
      (∀ others othersText other, String.fromUTF8? others = some othersText →
        Toml.parse? othersText = some other → Shaped other → Agree document other →
        load (some others) = load (some contents)) ∧
      ∀ config : Config, Makes config (Device.ofConfig config : Except ConfigFault (Device κ)) := by
  obtain ⟨entries, rfl⟩ := Toml.exists_table parses
  rw [load_eq_ofDocument decodes parses]
  refine ⟨ofDocument_overlays shaped, ?_, ofConfig_makes⟩
  intro others othersText other otherDecodes otherParses otherShaped agree
  obtain ⟨otherEntries, rfl⟩ := Toml.exists_table otherParses
  rw [load_eq_ofDocument otherDecodes otherParses]
  exact (agree.ofDocument_eq shaped otherShaped).symm

theorem load_overlays_defaults_multi_touch :
    load (some ("title = \"pointer\"\n[device]\ninitial_mode = \"multi_touch\"\n" ++
      "[queue.mouse]\ncapacity = 0\noverflow = \"latest_wins\"\n").toUTF8) =
      .error (.invalid (.noCapacity .mouse)) := by
  generalize isText : "title = \"pointer\"\n[device]\ninitial_mode = \"multi_touch\"\n" ++
    "[queue.mouse]\ncapacity = 0\noverflow = \"latest_wins\"\n" = text
  have checked : (Toml.parse? text).any fun document => Shaped document ∧
      (read? document).map (fun config => (config.queue.get .mouse).capacity) = some 0 := by
    rw [← isText]
    decide +kernel
  obtain ⟨document, parses, holds⟩ := (Option.any_eq_true _ _).mp checked
  obtain ⟨entries, rfl⟩ := Toml.exists_table parses
  obtain ⟨shaped, nothing⟩ := of_decide_eq_true holds
  obtain ⟨config, reads, zero⟩ := Option.map_eq_some_iff.mp nothing
  obtain ⟨complete, overlay⟩ := (read?_eq_some_iff shaped).mp reads
  obtain ⟨overlays, _⟩ :=
    load_overlays_defaults (κ := Unit) (Text.fromUTF8?_toUTF8 text) parses shaped
  have empty : Capacity (.table entries) .mouse 0 := zero ▸ (overlay.queue .mouse).capacity
  exact overlays.invalid (overlay.wellTyped complete) [] .mouse [.singleTouch, .multiTouch] rfl
    (fun _ member => absurd member List.not_mem_nil) empty

section LargestCapacity

/-- A file that asks for the largest buffer that can be written in it. -/
def largestFile : String :=
  "[queue.mouse]\ncapacity = 9223372036854775807\noverflow = \"latest_wins\"\n"

def largest : Config :=
  { default with
    queue := { Policies.default with mouse := ⟨9223372036854775807, .latestWins⟩ } }

theorem one_le_capacity_largest (mode : Mode) : 1 ≤ (largest.queue.get mode).capacity := by
  cases mode <;> decide

theorem load_largestFile : load (some largestFile.toUTF8) = .ok largest := by
  have read : (Toml.parse? largestFile).any (fun document => read? document = some largest) := by
    decide +kernel
  obtain ⟨document, parses, reads⟩ := (Option.any_eq_true _ _).mp read
  rw [load_eq_ofDocument (Text.fromUTF8?_toUTF8 largestFile) parses]
  exact ofDocument_of_valid (of_decide_eq_true reads)
    (validate_eq_ok_iff.mpr one_le_capacity_largest)

theorem ofConfig_largest {κ : Type} :
    (Device.ofConfig largest : Except ConfigFault (Device κ)) = .error .capacityOverflow :=
  (ofConfig_makes largest).breaksOff one_le_capacity_largest (by decide)

/-- A capacity with room for a report in every mode is accepted, but no device is made: the room for
the buffer cannot be reserved. -/
theorem valid_without_device :
    load (some largestFile.toUTF8) = .ok largest ∧
      (∀ mode, 1 ≤ (largest.queue.get mode).capacity) ∧
      (Device.ofConfig largest : Except ConfigFault (Device Unit)) = .error .capacityOverflow :=
  ⟨load_largestFile, one_le_capacity_largest, ofConfig_largest⟩

end LargestCapacity

end Config

end HidPointer
