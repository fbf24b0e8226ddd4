/-! Styled terminal text. An escape sequence runs from an escape character up to
and including the next `m`, or to the end of the text when there is none. -/

namespace LittleMan.Text

/-- The character that opens an escape sequence. -/
def escape : Char := '\x1b'

/-- The characters outside escape sequences. The flag tells whether the text
starts inside one. -/
def visibleFrom (inside : Bool) : List Char → List Char
  | [] => []
  | c :: rest =>
    if inside then visibleFrom (c ≠ 'm') rest
    else if c = escape then visibleFrom true rest
    else c :: visibleFrom false rest

/-- What a terminal shows of a text. -/
def visible (text : List Char) : List Char := visibleFrom false text

/-- A rendition of terminal text, by its parameters. -/
structure Style where
  parameters : String

namespace Style

def green : Style := ⟨"32"⟩
def blue : Style := ⟨"34"⟩
def cyan : Style := ⟨"36"⟩
def dim : Style := ⟨"2"⟩
def plain : Style := ⟨"0"⟩
def boldWhite : Style := ⟨"1;37"⟩
def boldPink : Style := ⟨"1;38;2;255;183;197"⟩

/-- The escape sequence that selects a style. -/
def sequence (style : Style) : List Char := escape :: '[' :: style.parameters.toList ++ ['m']

/-- Selects a style again after each sequence that ends all styles. -/
def resume (style : Style) : List Char → List Char
  | '\x1b' :: '[' :: '0' :: 'm' :: rest =>
    plain.sequence ++ (style.sequence ++ resume style rest)
  | c :: rest => c :: resume style rest
  | [] => []

/-- Shows a text in a style, also where parts of it end styles of their own. -/
def paint (style : Style) (text : String) : String :=
  String.ofList (style.sequence ++ style.resume text.toList ++ plain.sequence)

end Style

end LittleMan.Text
