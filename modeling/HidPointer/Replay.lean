import HidPointer.Device.Run
import HidPointer.Json.Printer
import HidPointer.Shape.Command
import HidPointer.Shape.Response
import HidPointer.Text

/-!
# Replaying a script

A script is a text whose lines are commands. Each command is numbered, also one that cannot be
read, and is answered by one line of output with its number. Reads that have to wait are completed
by a line of their own, before the answer to the command that ended them. When the script is
over, the device is removed, which completes the reads that still wait.
-/

set_option autoImplicit false

namespace HidPointer.Replay

def responseLine (seq : Nat) : Reply → Json
  | .ok response => .object [("seq", .nat seq), ("ok", response.toJson)]
  | .error error => .object (("seq", .nat seq) :: error.members)

def completionLine (seq : Nat) (result : ReadResult) : Json :=
  .object (("completed", .nat seq) :: ReadResult.members result)

/-- The line for a line that is no command. `cause` is what the parser says of it, where it says
something. -/
def malformedLine (seq : Nat) (cause : Option String) : Json :=
  let message := cause.map fun cause => ("message", .text ("Serialization error: " ++ cause))
  .object ([("seq", .nat seq), ("error", .text "serialization")] ++ message.toList)

/-- The request that a command stands for. A read that has to wait writes its own line. -/
def request (seq : Nat) : Command → Request (Completion Json)
  | .attributes => .attributes
  | .classDescriptor => .classDescriptor
  | .reportDescriptor => .reportDescriptor
  | .mode => .mode
  | .setMode mode => .setMode mode.tag
  | .submit report => .submit report
  | .submitRaw mode bytes => .submitRaw mode.tag bytes
  | .read capacity =>
      .read capacity fun result => .note (completionLine seq result) .done
  | .cancel id => .cancel id
  | .counters => .counters

def noted {ν : Type} (moments : List (Moment ν)) : List ν :=
  moments.filterMap fun
    | .noted entry => some entry
    | _ => none

/-- What one line of a script does: the device after it, the lines for the reads it ended, and
the line that answers it. -/
structure Step where
  device : Device (Completion Json)
  completions : List Json
  response : Json

/-- `explain` tells what the parser says of a line that is no command. -/
def step (device : Device (Completion Json)) (seq : Nat) (line : String)
    (explain : String → Option String := fun _ => none) : Step :=
  match Command.parse? line with
  | none => { device := device, completions := [], response := malformedLine seq (explain line) }
  | some command =>
      let (device, reply, moments) := device.dispatch (request seq command)
      { device := device, completions := noted moments, response := responseLine seq reply }

/-- The lines for the reads that still wait when the script is over. -/
def finish (device : Device (Completion Json)) : List Json :=
  noted device.remove

/-- Whether a line without surrounding blanks is a command. Empty lines are not, and neither are
comments, which start with a hash. -/
def isCommand (line : String) : Bool :=
  match line.toList with
  | [] => false
  | char :: _ => char != '#'

/-- Where a replay stands between two lines of its script. -/
structure State where
  device : Device (Completion Json)
  /-- The number of commands so far. -/
  taken : Nat := 0

namespace State

/-- Takes a line of the script. The result is the state after it and the lines that are written. -/
def take (state : State) (explain : String → Option String) (line : String) : State × List Json :=
  let line := Text.trim line
  if isCommand line then
    let step := step state.device (state.taken + 1) line explain
    ({ device := step.device, taken := state.taken + 1 }, step.completions ++ [step.response])
  else (state, [])

/-- Takes a line as it is in the input, if it is a text. -/
def take? (state : State) (explain : String → Option String) (bytes : List UInt8) :
    Option (State × List Json) :=
  (Text.decode? bytes).map (state.take explain)

/-- Takes lines up to the first that is no text. There is a state after them only if there is no
such line. -/
def takeAll (state : State) (explain : String → Option String) :
    List (List UInt8) → List Json × Option State
  | [] => ([], some state)
  | line :: lines =>
      match state.take? explain line with
      | none => ([], none)
      | some (next, rows) =>
          let (later, final) := next.takeAll explain lines
          (rows ++ later, final)

end State

/-- A line of output: compact, with the members in order of their names. -/
def render (line : Json) : String :=
  line.sorted.render

end HidPointer.Replay
