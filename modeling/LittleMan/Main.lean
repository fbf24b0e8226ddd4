import LittleMan.Command.Perform

/-! The program on a real terminal and real files. Everything it decides is decided by
the request it performs; here its texts are read and printed. -/

namespace LittleMan.Main

open Command

/-- The variables that some setting depends on. -/
def variableNames : List String :=
  ["LMC_TRACE", "CLICOLOR_FORCE", "NO_COLOR", "CLICOLOR", "COLORTERM"]

def readEnvironment : IO Environment := do
  let bindings ← variableNames.filterMapM fun name => do
    return (← IO.getEnv name).map (name, ·)
  return ⟨bindings⟩

def fileFault : IO.Error → FileFault
  | .noFileOrDirectory .. => .notFound
  | .inappropriateType _ 21 _ => .isDirectory
  | .inappropriateType .. => .notDirectory
  | .invalidArgument _ 36 _ => .nameTooLong
  | error => .other (toString error)

def readBytes (path : String) : IO (Except FileFault (List UInt8)) := do
  try
    return .ok (← IO.FS.readBinFile path).toList
  catch error =>
    return .error (fileFault error)

/-- All that a stream still holds. -/
partial def readAll (stream : IO.FS.Stream) (before : ByteArray) : IO ByteArray := do
  let bytes ← stream.read 65536
  if bytes.isEmpty then return before
  readAll stream (before ++ bytes)

/-- Prints what a console has gathered and forgets it. -/
def flush (console : Console) : IO Console := do
  let stdout ← IO.getStdout
  stdout.putStr console.output
  stdout.flush
  (← IO.getStderr).putStr console.trace
  return { console with output := "", trace := "" }

/-- Shows the prompt of an instruction that awaits a line, takes the line from the
terminal, which shows it as it is typed, and performs the instruction. -/
def performTyped (launch : Launch) : IO (Turn (Except Fault Unit) Streams) := do
  let prompted := (launch.machine.cycle Streams.channel launch.streams).world
  let console ← flush prompted.console
  let line ← (← IO.getStdin).getLine
  let streams := { prompted with input := .ofKeys line.toUTF8.toList, console := console }
  let silent := { Streams.channel with prompt := fun _ streams => streams }
  let turn := launch.machine.cycle silent streams
  return { turn with
    world := { turn.world with console := { turn.world.console with output := "" } } }

/-- Runs a loaded program to its end, printing as it goes on. -/
partial def drive (launch : Launch) : IO Transcript := do
  if launch.awaitsLine then
    let turn ← performTyped launch
    let launch := { launch with machine := turn.machine, streams := turn.world }
    match turn.answer with
    | .ok _ => drive launch
    | .error fault => return launch.conclude (.error fault)
  else
    let typed := match launch.streams.input with
      | .typed _ => true
      | .redirected _ _ => false
    let fuel := if typed then 1 else 4096
    let turn := launch.machine.resume Streams.channel fuel launch.streams
    let streams := { turn.world with console := ← flush turn.world.console }
    let launch := { launch with machine := turn.machine, streams := streams }
    match turn.answer with
    | none => drive launch
    | some answer => return launch.conclude answer

/-- The exit code of a program that was interrupted. -/
def interruptedExit : Nat := 130

/-- Prints what is left of a transcript and answers its exit code. -/
def finish (transcript : Transcript) : IO UInt32 := do
  discard (flush transcript.console)
  if let some report := transcript.report then
    (← IO.getStderr).putStr report.text
  return UInt32.ofNat (transcript.exit.getD interruptedExit)

/-- Performs the request of a command line. -/
def performArguments (arguments : List String) : IO UInt32 := do
  let environment ← readEnvironment
  let stdin ← IO.getStdin
  let outputTerminal ← (← IO.getStdout).isTty
  let surroundings (contents : Except FileFault (List UInt8)) (input : Input) : Surroundings :=
    { contents := fun _ => contents.map Content.own
      environment := environment
      input := input
      outputTerminal := outputTerminal }
  match Request.ofArguments environment arguments with
  | none =>
    (← IO.getStderr).putStr ("error: the command line is wrong\n\n" ++ usage)
    return 2
  | some (.run path options) =>
    let contents ← readBytes path
    let input ←
      if ← stdin.isTty then pure (Input.typed [])
      else pure (Input.ofBytes (← readAll stdin ByteArray.empty).toList)
    match (surroundings contents input).launch path options with
    | .error transcript => finish transcript
    | .ok launch => finish (← drive launch)
  | some (.check path) =>
    finish ((surroundings (← readBytes path) (.redirected [] [])).check path)
  | some .banner => showNow (banner (surroundings (.error .notFound) (.redirected [] [])))
  | some .version => showNow version
  | some .help => showNow usage
where
  showNow (text : String) : IO UInt32 := do
    (← IO.getStdout).putStr text
    return 0

end LittleMan.Main

def main (arguments : List String) : IO UInt32 := LittleMan.Main.performArguments arguments
