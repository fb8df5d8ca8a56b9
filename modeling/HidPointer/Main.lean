import HidPointer.Program

/-!
# The command

Reads the files and the input that `HidPointer.Program` asks for and writes what it says, line by
line.
-/

set_option autoImplicit false

namespace HidPointer.Main

/-- The sentences of this command in the places of those that others have. -/
def remarks : Program.Remarks :=
  { usage := "error: the arguments are not understood"
    config := "the configuration file cannot be used"
    command := fun _ => some "the line is no command" }

/-- Writes what a run leaves behind. -/
def finishWith (outcome : Program.Outcome) : IO UInt32 := do
  let stdout ← IO.getStdout
  let stderr ← IO.getStderr
  for line in outcome.stdout do stdout.putStrLn line
  for line in outcome.stderr do stderr.putStrLn line
  return UInt32.ofNat outcome.exitCode

def write (rows : List Json) : IO Unit := do
  let stdout ← IO.getStdout
  for row in rows do
    stdout.putStrLn (Replay.render row)
    stdout.flush

/-- The next line of the input without its line feed, if there is one. `front` is what has been read
of it, last byte first. -/
partial def nextLine? (front : List UInt8 := []) : IO (Option (List UInt8)) := do
  let next ← (← IO.getStdin).read 1
  match next.toList with
  | [] => return if front.isEmpty then none else some front.reverse
  | byte :: _ =>
      if byte == 0x0a then return some front.reverse
      else nextLine? (byte :: front)

/-- Answers the commands in the input as they come in. -/
partial def replay (state : Replay.State) : IO UInt32 := do
  match ← nextLine? with
  | none =>
      write (Replay.finish state.device)
      return 0
  | some line =>
      match state.take? remarks.command line with
      | none => finishWith Program.brokenInput
      | some (next, rows) =>
          write rows
          replay next

end HidPointer.Main

open HidPointer in
def main (args : List String) : IO UInt32 := do
  match Program.options args Main.remarks with
  | .error outcome => Main.finishWith outcome
  | .ok options =>
      let contents ← match options.config with
        | none => pure none
        | some path => try some <$> IO.FS.readBinFile path catch _ => pure none
      match Program.device options contents Main.remarks with
      | .error outcome => Main.finishWith outcome
      | .ok device => Main.replay { device := device }
