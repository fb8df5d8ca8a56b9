import HidPointer.Document
import HidPointer.Toml.Value

/-!
# Reading records and variants from TOML

A record is a table with a key for each field. It can also be an array of the fields in their
order; items left over are ignored. A date counts as a table in which no field occurs.
-/

set_option autoImplicit false

namespace HidPointer.Toml

def fields? (names : List String) : Toml → Option (Fields Toml)
  | .table entries => some entries
  | .array items => some (names.zip items)
  | .datetime _ => some []
  | _ => none

def nat? : Toml → Option Nat
  | .integer (.ofNat value) => some value
  | _ => none

/-- The variant that a value names. A table whose only key is the name and stands for an empty
table or array will also do. -/
def variant? {α : Type} (names : List (String × α)) : Toml → Option α
  | .string name => names.lookup name
  | .table [(name, .table [])] => names.lookup name
  | .table [(name, .array [])] => names.lookup name
  | _ => none

instance : Document Toml where
  fields? := fields?
  nat? := nat?
  variant? := variant?

end HidPointer.Toml
