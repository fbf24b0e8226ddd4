import LittleMan.Source
import LittleMan.Text.Blank
import LittleMan.Text.Runs

/-! Lines of program text. A comment runs from the first `;` or `#` to the end of its
line, and what stands before it is cut into tokens at white space and at `:`.
Every character keeps its byte offset in the whole text. -/

namespace LittleMan.Program

open Text (isBlank runs pieces trimBy)

/-- A character and the byte offset at which it stands. -/
abbrev Located := Nat × Char

/-- Gives each character its byte offset, the first one the offset given. -/
def locate (offset : Nat) : List Char → List Located
  | [] => []
  | c :: rest => (offset, c) :: locate (offset + c.utf8Size) rest

/-- The lines of a text. Each keeps its newline, and a carriage return before it; both
are white space. -/
def lines (text : String) : List (List Located) :=
  pieces (fun located => located.2 = '\n') (locate 0 text.toList)

def opensComment (c : Char) : Bool := c = ';' ∨ c = '#'

def separates (c : Char) : Bool := isBlank c ∨ c = ':'

/-- A stretch of characters that stands somewhere in a text. -/
structure Token where
  text : List Char
  extent : Extent
deriving DecidableEq, Repr

/-- The token of characters that follow one another. -/
def Token.of (stretch : List Located) : Token :=
  let text := stretch.map Prod.snd
  ⟨text, (stretch.head?.map Prod.fst).getD 0, (String.ofList text).utf8ByteSize⟩

/-- A line up to its comment. -/
def code (line : List Located) : List Located :=
  line.takeWhile fun located => !opensComment located.2

/-- The tokens of a line before its comment. -/
def tokens (line : List Located) : List Token :=
  (runs (fun located => separates located.2) (code line)).map Token.of

/-- The whole of a line before its comment, without white space at the ends. -/
def trimmedCode (line : List Located) : Token :=
  Token.of (trimBy (fun located => isBlank located.2) (code line))

end LittleMan.Program
