import LiveShader.Compiler
import LiveShader.Path

/-!
# Arguments of the command line

A call names a command, then its options and the files it works on in any order. An
option is given at most once; its value follows it, behind `=` or as the next argument,
and then does not begin with a dash. Behind `--` nothing is an option.
-/

namespace LiveShader.CommandLine

/-- A call of `check`: compile an entry file as a stage. -/
structure CheckCall where
  entry : Option Path
  config : Option Path
  stage : Stage
  format : Option DiagnosticFormat
  json : Bool
deriving DecidableEq

/-- A call of `flatten`: show the flattened unit, or where its lines come from. -/
structure FlattenCall where
  entry : Path
  config : Option Path
  map : Bool
deriving DecidableEq

/-- A call of `watch`: rebuild whenever a file changes. -/
structure WatchCall where
  entry : Option Path
  config : Option Path
  format : Option DiagnosticFormat
deriving DecidableEq

/-- What a call asks for. -/
inductive Command where
  | check (call : CheckCall)
  | flatten (call : FlattenCall)
  | watch (call : WatchCall)
deriving DecidableEq

/-- Why arguments make no call. -/
inductive UsageError where
  | noCommand
  | unknownCommand (name : String)
  | unexpected (argument : String)
  | missingValue (option : String)
  | needlessValue (option : String)
  | repeated (option : String)
  | unknownValue (option value : String)
  | missingEntry
deriving DecidableEq

/-- The wording of a usage error. -/
def UsageError.message : UsageError → String
  | .noCommand => "a command is required: check, flatten or watch"
  | .unknownCommand name => "unrecognized command '" ++ name ++ "'"
  | .unexpected argument => "unexpected argument '" ++ argument ++ "'"
  | .missingValue option => "a value is required for '" ++ option ++ "'"
  | .needlessValue option => "no value is allowed for '" ++ option ++ "'"
  | .repeated option => "'" ++ option ++ "' is given more than once"
  | .unknownValue option value => "invalid value '" ++ value ++ "' for '" ++ option ++ "'"
  | .missingEntry => "an entry file is required"

/-- Why no command is run. -/
inductive Halt where
  | help
  | version
  | usage (error : UsageError)
deriving DecidableEq

/-- Which options a command has, those that stand alone and those with a value, and how
many files it works on. -/
structure Shape where
  switches : List String
  options : List String
  files : Nat

/-- The arguments of a command, sorted out. -/
structure Given where
  switches : List String
  values : List (String × String)
  files : List String

namespace Given

/-- No arguments. -/
def empty : Given := ⟨[], [], []⟩

/-- Give a switch. -/
def addSwitch (given : Given) (name : String) : Except Halt Given :=
  if given.switches.contains name then .error (.usage (.repeated name))
  else .ok { given with switches := name :: given.switches }

/-- Give an option with a value. -/
def addValue (given : Given) (name value : String) : Except Halt Given :=
  if (given.values.lookup name).isSome then .error (.usage (.repeated name))
  else if value = "" then .error (.usage (.missingValue name))
  else .ok { given with values := (name, value) :: given.values }

/-- Give a file. -/
def addFile (given : Given) (shape : Shape) (file : String) : Except Halt Given :=
  if shape.files ≤ given.files.length then .error (.usage (.unexpected file))
  else if file = "" then .error (.usage (.missingValue "entry"))
  else .ok { given with files := given.files ++ [file] }

/-- The path that an option gives. -/
def path? (given : Given) (name : String) : Option Path :=
  (given.values.lookup name).map Path.mk

/-- The value that an option names. -/
def choice? {α : Type} (given : Given) (name : String) (ofName? : String → Option α) :
    Except Halt (Option α) :=
  match given.values.lookup name with
  | none => .ok none
  | some value =>
    match ofName? value with
    | some choice => .ok (some choice)
    | none => .error (.usage (.unknownValue name value))

end Given

/-- The argument begins with a dash. A single dash is a name like any other. -/
def isOption (argument : String) : Bool :=
  argument.toList.head? = some '-' && argument ≠ "-"

/-- An option cut at its first equals sign. -/
def cutOption (argument : String) : String × Option String :=
  let characters := argument.toList
  let name := String.ofList (characters.takeWhile (· ≠ '='))
  match characters.dropWhile (· ≠ '=') with
  | [] => (name, none)
  | _ :: value => (name, some (String.ofList value))

/-- The argument asks for help. -/
def asksHelp (argument : String) : Bool :=
  argument = "--help" || argument.startsWith "-h"

/-- Sort out one option. An option whose value is to follow is handed on. -/
def readOption (shape : Shape) (given : Given) (argument : String) :
    Except Halt (Given × Option String) :=
  let (name, value) := cutOption argument
  if asksHelp argument then .error .help
  else if shape.switches.contains name then
    match value with
    | none => (given.addSwitch name).map (·, none)
    | some _ => .error (.usage (.needlessValue name))
  else if shape.options.contains name then
    match value with
    | none => .ok (given, some name)
    | some value => (given.addValue name value).map (·, none)
  else .error (.usage (.unexpected argument))

/-- Sort out arguments. `pending` is the option whose value is to follow. -/
def readArguments (shape : Shape) (given : Given) (pending : Option String) :
    List String → Except Halt Given
  | [] =>
    match pending with
    | some name => .error (.usage (.missingValue name))
    | none => .ok given
  | argument :: rest =>
    match pending with
    | some name =>
      if isOption argument then .error (.usage (.missingValue name))
      else
        match given.addValue name argument with
        | .error halt => .error halt
        | .ok given => readArguments shape given none rest
    | none =>
      if argument = "--" then rest.foldlM (fun given file => given.addFile shape file) given
      else if isOption argument then
        match readOption shape given argument with
        | .error halt => .error halt
        | .ok (given, pending) => readArguments shape given pending rest
      else
        match given.addFile shape argument with
        | .error halt => .error halt
        | .ok given => readArguments shape given none rest

/-- The arguments of `check`. -/
def readCheck (arguments : List String) : Except Halt Command := do
  let shape : Shape := ⟨["--json"], ["--config", "--stage", "--format"], 1⟩
  let given ← readArguments shape .empty none arguments
  let stage ← given.choice? "--stage" Stage.ofName?
  let format ← given.choice? "--format" DiagnosticFormat.ofName?
  .ok (.check
    { entry := given.files.head?.map Path.mk
      config := given.path? "--config"
      stage := stage.getD .fragment
      format := format
      json := given.switches.contains "--json" })

/-- The arguments of `flatten`. -/
def readFlatten (arguments : List String) : Except Halt Command := do
  let given ← readArguments ⟨["--map"], ["--config"], 1⟩ .empty none arguments
  match given.files.head? with
  | none => .error (.usage .missingEntry)
  | some entry =>
    .ok (.flatten
      { entry := ⟨entry⟩
        config := given.path? "--config"
        map := given.switches.contains "--map" })

/-- The arguments of `watch`. -/
def readWatch (arguments : List String) : Except Halt Command := do
  let given ← readArguments ⟨[], ["--config", "--format"], 1⟩ .empty none arguments
  let format ← given.choice? "--format" DiagnosticFormat.ofName?
  .ok (.watch
    { entry := given.files.head?.map Path.mk
      config := given.path? "--config"
      format := format })

/-- The command that arguments ask for. -/
def Command.ofArguments : List String → Except Halt Command
  | [] => .error (.usage .noCommand)
  | name :: arguments =>
    if name = "check" then readCheck arguments
    else if name = "flatten" then readFlatten arguments
    else if name = "watch" then readWatch arguments
    else if name = "help" then
      match arguments with
      | [] => .error .help
      | topic :: _ =>
        if ["check", "flatten", "watch", "help"].contains topic then .error .help
        else .error (.usage (.unknownCommand topic))
    else if name = "--version" ∨ name.startsWith "-V" then .error .version
    else if asksHelp name then .error .help
    else if name = "--" then .error (.usage .noCommand)
    else if isOption name then .error (.usage (.unexpected name))
    else .error (.usage (.unknownCommand name))

end LiveShader.CommandLine
