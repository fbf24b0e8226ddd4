import LittleMan.Text.Style
import LittleMan.Trace

/-! The two output streams of a run, which end up in one place before the user's eyes.
The console remembers whether that place is at the start of a line, counting
only what is visible. -/

namespace LittleMan

/-- Program output goes to the one stream untouched, trace output to the other. -/
inductive Stream where
  | output
  | trace
deriving DecidableEq, Repr

/-- What has been printed, and how to print more. -/
structure Console where
  /-- No decoration at all. -/
  minimal : Bool := false
  coloured : Bool := false
  lineStart : Bool := true
  output : String := ""
  trace : String := ""

namespace Console

open Text (Style visible zeroPadded)

/-- What arrives on a stream when a text is printed to it. -/
def rendition (console : Console) (stream : Stream) (text : String) : String :=
  match stream with
  | .output => text
  | .trace =>
    if console.minimal then String.ofList (visible text.toList)
    else if console.coloured then Style.blue.paint text
    else text

/-- Appends raw text to a stream. -/
def append (console : Console) (stream : Stream) (text : String) : Console :=
  match stream with
  | .output => { console with output := console.output ++ text }
  | .trace => { console with trace := console.trace ++ text }

/-- Whether a line starts after a text is shown. Without visible text nothing changes. -/
def startsLineAfter (console : Console) (text : String) : Bool :=
  match (visible text.toList).getLast? with
  | some c => c = '\n'
  | none => console.lineStart

def print (console : Console) (stream : Stream) (text : String) : Console :=
  let shown := console.rendition stream text
  let lineStart := console.startsLineAfter text
  { console.append stream shown with lineStart := lineStart }

/-- Ends a line that has been begun. -/
def startNewLine (console : Console) (stream : Stream) : Console :=
  if console.lineStart then console else console.print stream "\n"

/-- A trace line, with its address dimmed unless the console is minimal. -/
def traceText (console : Console) (entry : TraceEntry) : String :=
  if console.minimal then entry.line
  else
    String.ofList (Style.dim.sequence ++ (entry.line.toList.take 3 ++ Style.plain.sequence) ++
      entry.line.toList.drop 3)

/-- Prints a trace line on a line of its own. -/
def printTrace (console : Console) (stream : Stream) (entry : TraceEntry) : Console :=
  let ready := console.startNewLine stream
  ready.print stream (ready.traceText entry)

end Console

end LittleMan
