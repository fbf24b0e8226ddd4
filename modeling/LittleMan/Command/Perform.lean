import LittleMan.Channel.Streams
import LittleMan.Command.Line
import LittleMan.Program.File
import LittleMan.Run

/-! Performing a request: what is printed, with which exit code the program ends, and the
report it ends with if it fails. -/

namespace LittleMan.Command

open Text (Style numeral rightAligned zeroPadded)

/-- What a request finds around it. -/
structure Surroundings where
  contents : String → Except FileFault Content
  environment : Environment := {}
  input : Input := .redirected [] []
  outputTerminal : Bool := false

/-- What is left when a request is done. A program that was stopped has no exit code. -/
structure Transcript where
  exit : Option Nat
  console : Console
  report : Option Report := none

/-- How far a request got. -/
inductive Conclusion where
  | usageError
  | finished (transcript : Transcript)
  /-- The fuel ended before the run did. -/
  | unfinished (console : Console)

def Transcript.success (console : Console) : Transcript :=
  { exit := some 0, console := console }

def Transcript.failure (console : Console) (report : Report) : Transcript :=
  { exit := some 1, console := console, report := some report }

def Transcript.stopped (console : Console) : Transcript := { exit := none, console := console }

/-- A line about the progress of the program itself. Minimal output has none. -/
def announce (console : Console) (style : Style) (word text : String) : Console :=
  if console.minimal then console
  else
    let left := rightAligned 12 word
    let left := if console.coloured then style.paint left else left
    console.append .output (left ++ " " ++ text ++ "\n")

/-- A program that is loaded and about to run. -/
structure Launch where
  path : String
  machine : Machine
  streams : Streams

namespace Surroundings

def console (surroundings : Surroundings) : Console where
  coloured := surroundings.environment.usesColour surroundings.outputTerminal

/-- Reads the file at a path, and what is left of the input then. The bytes of a terminal
never end. -/
def read (surroundings : Surroundings) (path : String) :
    Option (Except FileFault (List UInt8) × Input) :=
  match surroundings.contents path, surroundings.input with
  | .error fault, input => some (.error fault, input)
  | .ok (.own bytes), input => some (.ok bytes, input)
  | .ok .standardInput, .redirected _ lines => some (.ok lines.flatten, .redirected [] [])
  | .ok .standardInput, .typed _ => none

/-- Loads the program at a path, after the console has announced it. -/
def load (surroundings : Surroundings) (console : Console) (path : String) :
    Except Transcript (Memory × Input) :=
  match surroundings.read path with
  | none => .error (.stopped console)
  | some (bytes, input) =>
    match Program.loadFile path bytes with
    | .error report => .error (.failure console report)
    | .ok memory => .ok (memory, input)

/-- Loads the program to run. -/
def launch (surroundings : Surroundings) (path : String) (options : RunOptions) :
    Except Transcript Launch :=
  let console := { surroundings.console with minimal := options.minimal }
  let console := announce console .green "Loading" ("target " ++ path)
  match surroundings.load console path with
  | .error transcript => .error transcript
  | .ok (memory, input) =>
    let console :=
      announce console .green "Running" ("from address " ++ zeroPadded 3 options.start)
    .ok
      { path := path
        machine :=
          { memory := memory
            pc := options.start
            trace := options.trace
            maxCycles := options.maxCycles }
        streams :=
          { input := input
            outputTerminal := surroundings.outputTerminal
            console := console } }

/-- Loads a program without running it. -/
def check (surroundings : Surroundings) (path : String) : Transcript :=
  let console := announce surroundings.console .green "Checking" ("target " ++ path)
  match surroundings.load console path with
  | .error transcript => transcript
  | .ok (memory, _) =>
    .success (announce console .green "Success" (numeral memory.size ++ " cells loaded"))

end Surroundings

/-- Ends a run that has halted or failed. A run that was stopped just breaks off. -/
def Launch.conclude (launch : Launch) (answer : Except Fault Unit) : Transcript :=
  if launch.streams.stopped then .stopped launch.streams.console
  else
    let console := launch.streams.console.startNewLine .output
    match answer with
    | .error fault => .failure console (fault.report launch.machine.pc)
    | .ok _ =>
      let console :=
        announce console .cyan "Halted" ("after " ++ numeral launch.machine.cycles ++ " cycles")
      .success (announce console .green "Completed" ("target " ++ launch.path))

/-- Whether the next cycle takes a line that nobody has typed yet. -/
def Launch.awaitsLine (launch : Launch) : Bool :=
  launch.streams.outputTerminal && launch.streams.input = .typed [] &&
    launch.machine.verdict.isNone &&
    (launch.machine.memory.get launch.machine.pc).any fun word =>
      Instruction.decode word = .input

/-- Runs a loaded program to its end. -/
def Launch.finish (launch : Launch) (fuel : Nat) : Conclusion :=
  match Machine.resume Streams.channel fuel launch.machine launch.streams with
  | ⟨none, _, streams⟩ => .unfinished streams.console
  | ⟨some answer, machine, streams⟩ =>
    .finished ({ launch with machine := machine, streams := streams }.conclude answer)

def versionNumber : String := "0.1.0"

def version : String := "lmc " ++ versionNumber ++ "\n"

def logo : String :=
  "\n _\n| |_ __ ___   ___\n| | '_ ` _ \\ / __|\n| | | | | | | (__\n|_|_| |_| |_|\\___|"

def shortInfo : String :=
  "\nWelcome to lmc, a simulator for the Little Man Computer:\n" ++
  "one accumulator, one B register and a thousand decimal words of memory.\n" ++
  "Please use `-h` or `--help` to access the usage instructions and documentation.\n"

/-- What is shown when nothing is asked for. -/
def banner (surroundings : Surroundings) : String :=
  let style :=
    if surroundings.environment.hasTrueColour then Style.boldPink else Style.boldWhite
  let logo := if surroundings.console.coloured then style.paint logo else logo
  "\n~ lmc v" ++ versionNumber ++ " ~\n" ++ logo ++ "\n" ++ shortInfo ++ "\n"

def usage : String :=
  "Usage: lmc [PATH] [COMMAND]\n\nCommands:\n" ++
  "  run    Load a program file and run it until it halts\n" ++
  "  check  Load a program file without running it\n" ++
  "  help   Print this message or the help of the given subcommand(s)\n"

/-- A request that only shows a text. -/
def showText (surroundings : Surroundings) (text : String) : Conclusion :=
  .finished (.success (surroundings.console.append .output text))

/-- Performs what a command line asks for. -/
def perform (surroundings : Surroundings) (fuel : Nat) (arguments : List String) :
    Conclusion :=
  match Request.ofArguments surroundings.environment arguments with
  | none => .usageError
  | some .banner => showText surroundings (banner surroundings)
  | some .version => showText surroundings version
  | some .help => showText surroundings usage
  | some (.check path) => .finished (surroundings.check path)
  | some (.run path options) =>
    match surroundings.launch path options with
    | .error transcript => .finished transcript
    | .ok launch => launch.finish fuel

end LittleMan.Command
