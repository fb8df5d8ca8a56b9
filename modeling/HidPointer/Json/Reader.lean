import HidPointer.Document
import HidPointer.Json

/-!
# Reading records and variants from JSON

How values of a program's own types are read from JSON. A record is an object with a member for
each field, or an array of the fields in their order. A variant is its name. A value that says
which variant it is by a member of its own can be read only when that member has been found; what
was passed on the way is kept, and then read under slightly wider rules (`Route.kept`).
-/

set_option autoImplicit false

namespace HidPointer.Json

/-- The nesting of arrays and objects in a text is limited. -/
def maxLevels : Nat := 127

/-- How a value comes to its reader: straight from the document, or after it was kept for a
while. -/
inductive Route where
  | direct
  | kept
  deriving DecidableEq, Repr

def bool? : Json → Option Bool
  | .bool value => some value
  | _ => none

def nat? : Json → Option Nat
  | .int (.ofNat value) => some value
  | _ => none

def signedByte? : Json → Option Int8
  | .int value => if -128 ≤ value ∧ value < 128 then some (Int8.ofInt value) else none
  | _ => none

def list? {α : Type} (read : Json → Option α) : Json → Option (List α)
  | .arr items => items.mapM read
  | _ => none

/-- The members of an object, if every name denotes a text. -/
def named? (members : List (Option String × Json)) : Option (List (String × Json)) :=
  members.mapM fun (name, value) => name.map (·, value)

/-- The variant that a value names. An object whose only member has the name and no contents will
also do; among kept values an empty object counts as no contents. -/
def variant? {α : Type} (names : List (String × α)) (route : Route) : Json → Option α
  | .str (some name) => names.lookup name
  | .obj [(some name, .null)] => names.lookup name
  | .obj [(some name, .obj [])] => if route = .kept then names.lookup name else none
  | _ => none

/-- The known fields among the members of an object. Others are passed over. A known field occurs
once at most. -/
def memberFields? (names : List String) (members : List (Option String × Json)) :
    Option (Fields Json) := do
  let members ← named? members
  let known := members.filter fun (name, _) => names.contains name
  if (known.map Prod.fst).Nodup then some known else none

/-- The fields of a record with the given field names. An array may end early, but has no further
items. -/
def fields? (names : List String) : Json → Option (Fields Json)
  | .obj members => memberFields? names members
  | .arr items => if items.length ≤ names.length then some (names.zip items) else none
  | _ => none

instance : Document Json where
  fields? := fields?
  nat? := nat?
  variant? names := variant? names .direct

def objectFields? (names : List String) : Json → Option (Fields Json)
  | .obj members => memberFields? names members
  | _ => none

/-- The variant that a tag stands for: its name, or among kept values also its number. -/
def tagVariant? {α : Type} (names : List (String × α)) (route : Route) : Json → Option α
  | .str (some name) => names.lookup name
  | .int (.ofNat index) => if route = .kept then names[index]?.map Prod.snd else none
  | _ => none

/-- A record that tells by one of its fields which variant it is: that variant, and the record
without the field. The tag is a member of an object or the first item of an array. -/
def tagged? {α : Type} (tag : String) (names : List (String × α)) (route : Route) :
    Json → Option (α × Json)
  | .obj members => do
      let members ← named? members
      let (tags, others) := members.partition fun (name, _) => name == tag
      match tags with
      | [(_, value)] =>
          let variant ← tagVariant? names route value
          return (variant, .object others)
      | _ => none
  | .arr (value :: items) => do
      let variant ← tagVariant? names route value
      return (variant, .arr items)
  | _ => none

/-- A variant and its contents, each in a member of its own; the contents may be missing. If they
come before the tag they are kept until it is found. In an array both are there, the tag first
and as a plain name. -/
def tagAndContent? {α : Type} (tag content : String) (names : List (String × α)) :
    Json → Option (α × Option (Route × Json))
  | .obj members => do
      let members ← named? members
      match members.filter fun (name, _) => name == tag || name == content with
      | [(first, value)] =>
          if first = tag then
            let variant ← variant? names .direct value
            return (variant, none)
          else none
      | [(first, one), (second, other)] =>
          if first = tag ∧ second = content then
            let variant ← variant? names .direct one
            return (variant, some (.direct, other))
          else if first = content ∧ second = tag ∧ one.isDefinite (maxLevels - 1) then
            let variant ← variant? names .direct other
            return (variant, some (.kept, one))
          else none
      | _ => none
  | .arr [value, contents] => do
      let variant ← tagVariant? names .direct value
      return (variant, some (.direct, contents))
  | _ => none

end HidPointer.Json
