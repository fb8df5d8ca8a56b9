import HidPointer.Error

/-!
# The command line

Options in long and short form. A value follows its option as the next argument, or stands in the
same one: behind an equals sign, or directly behind a short option. Short options can share an
argument. There are no other arguments than options and their values.
-/

set_option autoImplicit false

namespace HidPointer

/-- How much is written to the log. -/
inductive LogLevel where
  | error
  | warn
  | info
  | verbose
  | debug
  | trace
  deriving DecidableEq, Repr

namespace LogLevel

def all : List LogLevel := [.error, .warn, .info, .verbose, .debug, .trace]

def name : LogLevel → String
  | error => "error"
  | warn => "warn"
  | info => "info"
  | verbose => "verbose"
  | debug => "debug"
  | trace => "trace"

end LogLevel

structure Options where
  config : Option String
  mode : Option Mode
  logLevel : LogLevel
  verbosity : Nat
  jsonLogs : Bool
  deriving DecidableEq, Repr

/-- Why the arguments do not amount to options. Two of the reasons are requests for a text. -/
inductive UsageError where
  | help
  | version
  | unknownArgument
  | invalidValue
  | valueValidation
  | tooManyValues
  | argumentConflict
  deriving DecidableEq, Repr

namespace CommandLine

inductive Setting where
  | config
  | mode
  | logLevel
  deriving DecidableEq, Repr

inductive Switch where
  | verbose
  | jsonLogs
  | help
  | version
  deriving DecidableEq, Repr

inductive Key where
  | setting (setting : Setting)
  | switch (switch : Switch)
  deriving DecidableEq, Repr

def longNames : List (String × Key) :=
  [("config", .setting .config), ("mode", .setting .mode), ("log-level", .setting .logLevel),
    ("verbose", .switch .verbose), ("json-logs", .switch .jsonLogs), ("help", .switch .help),
    ("version", .switch .version)]

def long? (name : List Char) : Option Key :=
  longNames.lookup (String.ofList name)

def short? : Char → Option Key
  | 'c' => some (.setting .config)
  | 'm' => some (.setting .mode)
  | 'l' => some (.setting .logLevel)
  | 'v' => some (.switch .verbose)
  | 'h' => some (.switch .help)
  | 'V' => some (.switch .version)
  | _ => none

/-- What has been found so far. -/
structure Draft where
  config : Option String := none
  mode : Option Mode := none
  logLevel : Option LogLevel := none
  verbosity : Nat := 0
  jsonLogs : Bool := false
  /-- An option whose value is still to be checked, with the value if there is one already. -/
  unsettled : Option (Setting × Option String) := none
  deriving Repr

def assign (draft : Draft) (setting : Setting) (value : String) : Except UsageError Draft :=
  match setting with
  | .config =>
      if draft.config.isSome then .error .argumentConflict
      else if value.isEmpty then .error .invalidValue
      else .ok { draft with config := some value }
  | .mode =>
      if draft.mode.isSome then .error .argumentConflict
      else match Mode.ofName? value with
        | none => .error .valueValidation
        | some mode => .ok { draft with mode := some mode }
  | .logLevel =>
      if draft.logLevel.isSome then .error .argumentConflict
      else match LogLevel.all.find? (·.name == value) with
        | none => .error .invalidValue
        | some level => .ok { draft with logLevel := some level }

/-- Checks the value of the last option, if that is still to be done. -/
def settle (draft : Draft) : Except UsageError Draft :=
  match draft.unsettled with
  | none => .ok draft
  | some (_, none) => .error .invalidValue
  | some (setting, some value) => assign { draft with unsettled := none } setting value

/-- The highest verbosity that is counted. -/
def maxVerbosity : Nat := 255

def turnOn (draft : Draft) (switch : Switch) : Except UsageError Draft := do
  let draft ← settle draft
  match switch with
  | .verbose => return { draft with verbosity := min (draft.verbosity + 1) maxVerbosity }
  | .jsonLogs =>
      if draft.jsonLogs then .error .argumentConflict else return { draft with jsonLogs := true }
  | .help => .error .help
  | .version => .error .version

def set (draft : Draft) (setting : Setting) (value : List Char) : Except UsageError Draft := do
  assign (← settle draft) setting (String.ofList value)

/-- An option whose value is the next argument. -/
def await (draft : Draft) (setting : Setting) : Except UsageError Draft := do
  let draft ← settle draft
  return { draft with unsettled := some (setting, none) }

def longOption (draft : Draft) (argument : List Char) : Except UsageError Draft :=
  let (name, rest) := argument.span (· != '=')
  match long? name, rest with
  | none, _ => .error .unknownArgument
  | some (.switch switch), [] => turnOn draft switch
  | some (.switch _), _ :: _ => .error .tooManyValues
  | some (.setting setting), [] => await draft setting
  | some (.setting setting), _ :: value => set draft setting value

def shortOptions (draft : Draft) : List Char → Except UsageError Draft
  | [] => .ok draft
  | letter :: rest =>
      match short? letter, rest with
      | none, _ => .error .unknownArgument
      | some (.switch switch), rest => do shortOptions (← turnOn draft switch) rest
      | some (.setting setting), [] => await draft setting
      | some (.setting setting), '=' :: value => set draft setting value
      | some (.setting setting), value => set draft setting value

/-- An argument that is not an option: the value that the last option waits for. -/
def plainArgument (draft : Draft) (argument : List Char) : Except UsageError Draft :=
  match draft.unsettled with
  | some (setting, none) =>
      .ok { draft with unsettled := some (setting, some (String.ofList argument)) }
  | _ => .error .unknownArgument

/-- Goes through the arguments. Nothing may follow two hyphens that stand alone. -/
def arguments (draft : Draft) : List (List Char) → Except UsageError Draft
  | [] => settle draft
  | [['-', '-']] => settle draft
  | ['-', '-'] :: _ :: _ => .error .unknownArgument
  | ('-' :: '-' :: option) :: rest => do arguments (← longOption draft option) rest
  | ('-' :: letter :: letters) :: rest => do
      arguments (← shortOptions draft (letter :: letters)) rest
  | argument :: rest => do arguments (← plainArgument draft argument) rest

end CommandLine

namespace Options

def parse (args : List String) : Except UsageError Options := do
  let draft ← CommandLine.arguments {} (args.map String.toList)
  return { config := draft.config
           mode := draft.mode
           logLevel := draft.logLevel.getD .info
           verbosity := draft.verbosity
           jsonLogs := draft.jsonLogs }

end Options

end HidPointer
