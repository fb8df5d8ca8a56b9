import HidPointer.CommandLine
import HidPointer.Config.Load
import HidPointer.Replay

/-!
# The program

What the program does with its arguments, its configuration file and its input: it answers a
request for a text, or creates the device and replays the script in its input.
-/

set_option autoImplicit false

namespace HidPointer.Program

/-- What a run of the program leaves behind. -/
structure Outcome where
  exitCode : Nat
  stdout : List String := []
  stderr : List String := []
  deriving DecidableEq, Repr

def versionText : String := "vhid 0.1.0"

def helpText : List String :=
  [ "Virtual HID pointer/touch device replay harness",
    "",
    "Usage: vhid [OPTIONS]",
    "",
    "Options:",
    "  -c, --config <FILE>      Configuration file (TOML)",
    "  -m, --mode <MODE>        Startup mode (overrides config)",
    "  -l, --log-level <LEVEL>  Log level (error, warn, info, verbose, debug, trace) " ++
      "[default: info] [possible values: error, warn, info, verbose, debug, trace]",
    "  -v, --verbose...         " ++
      "Increase verbosity (-v for verbose, -vv for debug, -vvv for trace)",
    "      --json-logs          Emit logs as JSON",
    "  -h, --help               Print help",
    "  -V, --version            Print version" ]

/-- What others say in a run of the program: the system, and the parsers of arguments, of TOML and
of JSON. The program passes their sentences on. -/
structure Remarks where
  /-- Why the arguments are not understood. -/
  usage : String := ""
  /-- Why the configuration file cannot be read, or is malformed. -/
  config : String := ""
  /-- Why a line of the script is no command. -/
  command : String → Option String := fun _ => none

/-- What the arguments lead to before anything else is looked at: options, or the end. -/
def options (args : List String) (remarks : Remarks) : Except Outcome Options :=
  match Options.parse args with
  | .ok options => .ok options
  | .error .help => .error { exitCode := 0, stdout := helpText }
  | .error .version => .error { exitCode := 0, stdout := [versionText] }
  | .error _ => .error { exitCode := 2, stderr := [remarks.usage] }

def failure (message : String) : Outcome :=
  { exitCode := 1, stderr := ["Error: " ++ message] }

/-- The end of a run that breaks off where it cannot go on. -/
def crash (message : String) : Outcome :=
  { exitCode := 101, stderr := [message] }

/-- The end of a run that could not make a device. -/
def refusal : ConfigFault → Outcome
  | .capacityOverflow => crash ConfigFault.capacityOverflow.text
  | fault => failure (LoadError.invalid fault).message

/-- The device that the options ask for. `contents` is what the configuration file holds, if there
is one. A mode among the options takes the place of the configured one. -/
def device (options : Options) (contents : Option ByteArray) (remarks : Remarks) :
    Except Outcome (Device (Completion Json)) := do
  let config ← match options.config with
    | none => pure Config.default
    | some _ =>
        (Config.load contents).mapError fun error => failure (error.message remarks.config)
  let initialMode := options.mode.getD config.device.initialMode
  let config := { config with device := { config.device with initialMode := initialMode } }
  (Device.ofConfig config).mapError refusal

/-- The lines of a byte string. -/
def lines (bytes : List UInt8) : List (List UInt8) :=
  bytes.splitOn 0x0a

/-- The end of a run in which a line is no text. -/
def brokenInput : Outcome :=
  failure "stream did not contain valid UTF-8"

/-- Replays the script in the input. A line that is no text ends the program. -/
def replay (device : Device (Completion Json)) (stdin : ByteArray)
    (explain : String → Option String) : Outcome :=
  match ({ device := device } : Replay.State).takeAll explain (lines stdin.toList) with
  | (rows, some final) =>
      { exitCode := 0, stdout := (rows ++ Replay.finish final.device).map Replay.render }
  | (rows, none) => { brokenInput with stdout := rows.map Replay.render }

/-- A whole run. `file` gives the contents of files. -/
def run (args : List String) (file : String → Option ByteArray) (stdin : ByteArray)
    (remarks : Remarks := {}) : Outcome :=
  match options args remarks with
  | .error outcome => outcome
  | .ok options =>
      match device options (options.config.bind file) remarks with
      | .error outcome => outcome
      | .ok device => replay device stdin remarks.command

end HidPointer.Program
