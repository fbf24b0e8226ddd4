import LittleMan.Command.Environment
import LittleMan.Text.Numeral

/-! The grammar of the command line. Arguments are read from the left, and the first one
that is wrong, or that asks for help or for the version, decides. -/

namespace LittleMan.Command

open Text (NumeralRange)

/-- How a program is run. -/
structure RunOptions where
  start : Nat := 0
  minimal : Bool := false
  trace : Bool := false
  maxCycles : Option Nat := none
deriving DecidableEq, Repr

/-- What a command line asks for. -/
inductive Request where
  | banner
  | version
  | help
  | run (path : String) (options : RunOptions)
  | check (path : String)
deriving DecidableEq, Repr

/-- An argument by its form. -/
inductive Argument where
  /-- `--`, after which all arguments are plain. -/
  | separator
  /-- `--name` or `--name=value`. -/
  | long (name : List Char) (value : Option (List Char))
  /-- Single letters behind one dash. -/
  | short (letters : List Char)
  | plain (text : String)

def Argument.of (argument : String) : Argument :=
  match argument.toList with
  | ['-', '-'] => .separator
  | '-' :: '-' :: rest =>
    let name := rest.takeWhile (· ≠ '=')
    .long name (if name.length < rest.length then some (rest.drop (name.length + 1)) else none)
  | '-' :: letter :: letters => .short (letter :: letters)
  | _ => .plain argument

/-- Why reading stops before the end of the arguments. -/
inductive Interruption where
  | helpAsked
  | wrong

/-- The options that take a value. -/
inductive Setting where
  | start
  | maxCycles

/-- The arguments of a subcommand as read so far. -/
structure Draft where
  path : Option String := none
  start : Option Nat := none
  minimal : Bool := false
  trace : Bool := false
  maxCycles : Option Nat := none
  /-- Only plain arguments follow. -/
  literal : Bool := false
  /-- An option whose value is the next argument. -/
  awaiting : Option Setting := none

namespace Draft

/-- A path is given once and is not empty. -/
def addPath (draft : Draft) (path : String) : Except Interruption Draft :=
  if draft.path.isSome ∨ path = "" then .error .wrong
  else .ok { draft with path := some path }

def setMinimal (draft : Draft) : Except Interruption Draft :=
  if draft.minimal then .error .wrong else .ok { draft with minimal := true }

def setTrace (draft : Draft) : Except Interruption Draft :=
  if draft.trace then .error .wrong else .ok { draft with trace := true }

/-- Gives an option its value. -/
def assign (draft : Draft) (setting : Setting) (value : List Char) : Except Interruption Draft :=
  match setting with
  | .start =>
    match (NumeralRange.signed 64).read value, draft.start with
    | .ok number, none =>
      if 0 ≤ number ∧ number ≤ 999 then .ok { draft with start := some number.toNat }
      else .error .wrong
    | _, _ => .error .wrong
  | .maxCycles =>
    match (NumeralRange.unsigned 64).read value, draft.maxCycles with
    | .ok number, none => .ok { draft with maxCycles := some number.toNat }
    | _, _ => .error .wrong

/-- An option with its value attached, or with the next argument for a value. -/
def option (draft : Draft) (setting : Setting) (value : Option (List Char)) :
    Except Interruption Draft :=
  match value with
  | some value => draft.assign setting value
  | none => .ok { draft with awaiting := some setting }

/-- Letters behind one dash. The first that takes a value takes the remaining letters. -/
def letters (draft : Draft) : List Char → Except Interruption Draft
  | [] => .ok draft
  | 'h' :: _ => .error .helpAsked
  | 'm' :: rest => draft.setMinimal.bind fun draft => draft.letters rest
  | 't' :: rest => draft.setTrace.bind fun draft => draft.letters rest
  | ['s'] => draft.option .start none
  | 's' :: '=' :: value => draft.option .start (some value)
  | 's' :: value => draft.option .start (some value)
  | _ => .error .wrong

/-- Adds one argument of the subcommand that runs a program. -/
def runArgument (draft : Draft) (argument : String) : Except Interruption Draft :=
  if draft.literal then draft.addPath argument
  else match draft.awaiting, Argument.of argument with
    | some setting, .plain text => { draft with awaiting := none }.assign setting text.toList
    | some _, _ => .error .wrong
    | none, .plain text => draft.addPath text
    | none, .separator => .ok { draft with literal := true }
    | none, .short letters => draft.letters letters
    | none, .long name value =>
      match String.ofList name, value with
      | "help", none => .error .helpAsked
      | "minimal", none => draft.setMinimal
      | "trace", none => draft.setTrace
      | "start", value => draft.option .start value
      | "max-cycles", value => draft.option .maxCycles value
      | _, _ => .error .wrong

/-- Adds one argument of the subcommand that checks a program. -/
def checkArgument (draft : Draft) (argument : String) : Except Interruption Draft :=
  if draft.literal then draft.addPath argument
  else match Argument.of argument with
    | .plain text => draft.addPath text
    | .separator => .ok { draft with literal := true }
    | .short ('h' :: _) => .error .helpAsked
    | .short _ => .error .wrong
    | .long name value =>
      if name = "help".toList ∧ value.isNone then .error .helpAsked else .error .wrong

/-- The options once all arguments are read. The environment is asked for the trace only
if no argument was. -/
def options (draft : Draft) (environment : Environment) : Option RunOptions :=
  if draft.awaiting.isSome then none
  else (if draft.trace then some true else environment.tracing).map fun trace =>
    { start := draft.start.getD 0
      minimal := draft.minimal
      trace := trace
      maxCycles := draft.maxCycles }

end Draft

namespace Request

/-- The subcommand that runs a program. -/
def ofRunArguments (environment : Environment) (arguments : List String) : Option Request :=
  match arguments.foldlM Draft.runArgument {} with
  | .error .helpAsked => some .help
  | .error .wrong => none
  | .ok draft =>
    match draft.path, draft.options environment with
    | some path, some options => some (.run path options)
    | _, _ => none

/-- The subcommand that checks a program. -/
def ofCheckArguments (arguments : List String) : Option Request :=
  match arguments.foldlM Draft.checkArgument {} with
  | .error .helpAsked => some .help
  | .error .wrong => none
  | .ok draft => draft.path.map .check

/-- The subcommand that explains the program or one of its subcommands. -/
def ofHelpArguments : List String → Option Request
  | [] => some .help
  | [name] => if name ∈ ["run", "check", "help"] then some .help else none
  | _ => none

/-- Adds a path to the arguments in front of any subcommand. -/
def withPath (path : Option String) (text : String) : Option String :=
  if path.isSome ∨ text = "" then none else some text

/-- Reads arguments after those in front, which may have given a path. -/
def ofArgumentsAfter (environment : Environment) (path : Option String) (literal : Bool) :
    List String → Option Request
  | [] => match path with
    | none => some .banner
    | some path => some (.run path {})
  | argument :: rest =>
    if literal then
      (withPath path argument).bind fun path => ofArgumentsAfter environment path true rest
    else match Argument.of argument with
      | .plain "run" => ofRunArguments environment rest
      | .plain "check" => ofCheckArguments rest
      | .plain "help" => ofHelpArguments rest
      | .plain text =>
        (withPath path text).bind fun path => ofArgumentsAfter environment path false rest
      | .separator => ofArgumentsAfter environment path true rest
      | .short ('h' :: _) => some .help
      | .short ('V' :: _) => some .version
      | .short _ => none
      | .long name value =>
        match String.ofList name, value with
        | "help", none => some .help
        | "version", none => some .version
        | _, _ => none

/-- Reads a whole command line, or answers `none` when it is wrong. -/
def ofArguments (environment : Environment) (arguments : List String) : Option Request :=
  ofArgumentsAfter environment none false arguments

end Request

end LittleMan.Command
