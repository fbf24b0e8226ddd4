import LittleMan.Channel
import LittleMan.Channel.Keys
import LittleMan.Console
import LittleMan.Text.Blank
import LittleMan.Text.Numeral
import LittleMan.Text.Runs

/-! The standard streams as a channel. Redirected input is a stream of tokens, taken
line by line; at a terminal each value is a line of its own, echoed as it is typed. -/

namespace LittleMan

open Text (NumeralRange isBlank numeral pieces runs trim)

/-- Where values are read from. -/
inductive Input where
  /-- The tokens taken from a line but not yet used, and the lines after it. -/
  | redirected (pending : List (List Char)) (lines : List (List UInt8))
  /-- The keys still to be typed at a terminal. -/
  | typed (keys : List Key)
deriving DecidableEq

namespace Input

/-- Redirected input that holds these bytes. Each line keeps its newline. -/
def ofBytes (bytes : List UInt8) : Input := .redirected [] (pieces (· = 10) bytes)

/-- Input from a terminal at which these bytes are typed. -/
def ofKeys (bytes : List UInt8) : Input := .typed (Key.ofBytes bytes)

/-- Takes the next token of the pending line or of the first later line that has one. A
line that is not text is used up by the fault it causes. -/
def nextToken (pending : List (List Char)) (lines : List (List UInt8)) :
    Except Fault (List Char) × Input :=
  match pending, lines with
  | token :: pending, lines => (.ok token, .redirected pending lines)
  | [], [] => (.error (.channel "end of input"), .redirected [] [])
  | [], line :: lines =>
    match decodeText line with
    | none => (.error (.channel "stream did not contain valid UTF-8"), .redirected [] lines)
    | some text => nextToken (runs isBlank text) lines

/-- Forgets the tokens that were taken from a line but not used. -/
def dropPending : Input → Input
  | .redirected _ lines => .redirected [] lines
  | .typed keys => .typed keys

end Input

/-- The standard streams of a run. -/
structure Streams where
  input : Input
  /-- Whether program output goes to a terminal. -/
  outputTerminal : Bool := false
  console : Console := {}
  /-- Whether the program was stopped while it waited for a typed line. -/
  stopped : Bool := false

namespace Streams

/-- Reads a token as a value. -/
def readValue (token : List Char) : Except Fault Int :=
  match (NumeralRange.signed 32).read token with
  | .ok value => .ok value
  | .error _ => .error (.inputNotNumber (String.ofList token))

/-- Takes one value. Lines can be typed only where they can be echoed; a terminal for
input without one for output gives an empty line at once. A line that never ends stops
the program. -/
def read (streams : Streams) : Except Fault Int × Streams :=
  match streams.input with
  | .redirected pending lines =>
    let (token, input) := Input.nextToken pending lines
    (token.bind readValue, { streams with input := input })
  | .typed keys =>
    if streams.outputTerminal then
      let line := TypedLine.afterKeys [] [] keys
      let console := streams.console.append .output (String.ofList line.echo)
      let streams := { streams with input := .typed line.rest, console := console }
      match line.text with
      | none => (.error (.channel "read interrupted"), { streams with stopped := true })
      | some text => (readValue (trim text), streams)
    else (readValue [], streams)

def print : Streams → String → Streams
  | ⟨input, outputTerminal, console, stopped⟩, text =>
    ⟨input, outputTerminal, console.print .output text, stopped⟩

def printTrace : Streams → TraceEntry → Streams
  | ⟨input, outputTerminal, console, stopped⟩, entry =>
    ⟨input, outputTerminal, console.printTrace .trace entry, stopped⟩

/-- The standard streams as the surroundings of a machine. -/
def channel : Channel Streams where
  read := read
  write word streams := (.ok (), streams.print (numeral word ++ "\n"))
  inputInteractive streams := match streams.input with
    | .redirected _ _ => false
    | .typed _ => true
  outputInteractive := outputTerminal
  prompt text streams := streams.print text
  trace entry streams := streams.printTrace entry

end Streams

end LittleMan
