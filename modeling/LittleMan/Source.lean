/-! Program text under the name it is reported by, and places in it. Offsets and columns
count bytes of the text; lines and columns start from one. A newline ends a line, and so
does a carriage return; the two together end it once. -/

namespace LittleMan

/-- A program text and the name a diagnostic gives it. -/
structure Source where
  name : String
  text : String

/-- A stretch of a program text, by byte offset and byte length. -/
structure Extent where
  offset : Nat
  length : Nat
deriving DecidableEq, Repr

namespace Source

/-- The characters that begin before a byte offset. -/
def before : List Char → Nat → List Char
  | [], _ => []
  | c :: rest, offset => if offset = 0 then [] else c :: before rest (offset - c.utf8Size)

/-- The number of lines that end in a text. -/
def lineEnds : List Char → Nat
  | [] => 0
  | c :: rest =>
    if c = '\n' ∨ (c = '\r' ∧ rest.head? ≠ some '\n') then lineEnds rest + 1
    else lineEnds rest

/-- The part of a text that follows its last line end. -/
def lastLine (text : List Char) : List Char :=
  (text.reverse.takeWhile fun c => c ≠ '\n' && c ≠ '\r').reverse

/-- The line and the column of a byte offset. -/
def position (source : Source) (offset : Nat) : Nat × Nat :=
  let earlier := before source.text.toList offset
  (lineEnds earlier + 1, (String.ofList (lastLine earlier)).utf8ByteSize + 1)

/-- A place as `name:line:column`. -/
def place (source : Source) (offset : Nat) : String :=
  let (line, column) := source.position offset
  source.name ++ ":" ++ toString line ++ ":" ++ toString column

end Source

end LittleMan
