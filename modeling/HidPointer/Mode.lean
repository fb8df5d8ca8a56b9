import HidPointer.Text

/-!
# Device modes

The three report layouts a device can present, with the tag and the name each goes by and the
length of its reports.
-/

set_option autoImplicit false

namespace HidPointer

/-- The report layout a device presents to its host. -/
inductive Mode where
  | mouse
  | singleTouch
  | multiTouch
  deriving DecidableEq, Repr, Inhabited

def contactSlots : Nat := 5

/-- The bytes of one contact slot: presence, identifier and two coordinates. -/
def contactSlotLength : Nat := 6

def coordinateMax : Nat := 32767

namespace Mode

def all : List Mode := [.mouse, .singleTouch, .multiTouch]

def tag : Mode → UInt8
  | .mouse => 0
  | .singleTouch => 1
  | .multiTouch => 2

def ofTag? (tag : UInt8) : Option Mode :=
  all.find? (·.tag = tag)

def name : Mode → String
  | .mouse => "mouse"
  | .singleTouch => "single_touch"
  | .multiTouch => "multi_touch"

def names : List (String × Mode) :=
  all.map fun mode => (mode.name, mode)

/-- Names are compared without surrounding blanks, in lower case, and with underscores for
hyphens. -/
def normalize (text : String) : String :=
  String.ofList ((Text.trimChars text.toList).map fun char =>
    if char = '-' then '_' else char.toLower)

def ofName? (text : String) : Option Mode :=
  names.lookup (normalize text)

/-- Whether reports carry absolute coordinates. -/
def isTouch (mode : Mode) : Bool :=
  mode != .mouse

def byteLength : Mode → Nat
  | .mouse => 3
  | .singleTouch => 5
  | .multiTouch => contactSlots * contactSlotLength + 1

theorem mem_all (mode : Mode) : mode ∈ all := by
  cases mode <;> decide

/-- A tag is read as the mode that has it. -/
theorem ofTag?_eq_some_iff {tag : UInt8} {mode : Mode} :
    ofTag? tag = some mode ↔ mode.tag = tag := by
  constructor
  · intro found
    simpa using List.find?_some found
  · rintro rfl
    cases mode <;> rfl

end Mode

end HidPointer
