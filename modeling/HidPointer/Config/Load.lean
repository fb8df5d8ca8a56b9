import HidPointer.Config.Read
import HidPointer.Toml.Parser
import HidPointer.Toml.Reader

/-!
# Loading a configuration

A configuration file is a TOML document. The settings it leads to must be such that a device can
operate with them.
-/

set_option autoImplicit false

namespace HidPointer

/-- Why a configuration file cannot be used. -/
inductive LoadError where
  /-- There is no file, or it is no text. -/
  | unreadable
  /-- It is no TOML document, or a setting does not have its type. -/
  | malformed
  | invalid (fault : ConfigFault)
  deriving DecidableEq, Repr

namespace LoadError

def code : LoadError → String
  | unreadable => "io"
  | malformed => "config_parse"
  | invalid _ => "config"

/-- The error as a sentence. `cause` is what the system says of the file, or the parser of its text;
a configuration that is invalid has no cause behind it. -/
def message (error : LoadError) (cause : String := "") : String :=
  match error with
  | unreadable => "IO error: " ++ cause
  | malformed => "Config parse error: " ++ cause
  | invalid fault => "Configuration error: " ++ fault.text

end LoadError

namespace Config

def ofDocument (document : Toml) : Except LoadError Config := do
  let some config := read? document | .error .malformed
  match config.validate with
  | .ok () => return config
  | .error fault => .error (.invalid fault)

def ofText (text : String) : Except LoadError Config := do
  let some document := Toml.parse? text | .error .malformed
  ofDocument document

/-- The configuration in a file, which may not exist. -/
def load (contents : Option ByteArray) : Except LoadError Config := do
  let some text := contents.bind String.fromUTF8? | .error .unreadable
  ofText text

end Config

end HidPointer
