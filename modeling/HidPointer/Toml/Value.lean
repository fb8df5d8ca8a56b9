/-!
# TOML values

What a TOML document denotes. Floating-point numbers and dates are kept by their literals.
-/

set_option autoImplicit false

namespace HidPointer

inductive Toml where
  | string (text : String)
  | integer (value : Int)
  | float (literal : String)
  | boolean (value : Bool)
  | datetime (literal : String)
  | array (items : List Toml)
  /-- No key occurs twice. -/
  | table (entries : List (String × Toml))
  deriving Repr, Inhabited

end HidPointer
