/-! Decimal numerals: an optional sign and digits, read into a bounded range. Reading
goes from the left and stops at the first character that rules the numeral out,
so a range that is left early wins over a bad character further on. -/

namespace LittleMan.Text

/-- The integers that a numeral may denote. A range without negative numbers
has no minus sign either. -/
structure NumeralRange where
  lowest : Int
  highest : Int

/-- Why a text is not a numeral of its range. -/
inductive NumeralFault where
  | empty
  | invalidDigit
  | tooLarge
  | tooSmall
deriving DecidableEq, Repr

namespace NumeralFault

def message : NumeralFault → String
  | .empty => "cannot parse integer from empty string"
  | .invalidDigit => "invalid digit found in string"
  | .tooLarge => "number too large to fit in target type"
  | .tooSmall => "number too small to fit in target type"

end NumeralFault

namespace NumeralRange

/-- The integers of a signed binary word. -/
def signed (bits : Nat) : NumeralRange :=
  let half : Int := Nat.pow 2 (bits - 1)
  ⟨-half, half - 1⟩

/-- The integers of an unsigned binary word. -/
def unsigned (bits : Nat) : NumeralRange := ⟨0, Nat.pow 2 bits - 1⟩

/-- Reads digits after those that gave the value so far. -/
def readDigits (range : NumeralRange) (negative : Bool) :
    List Char → Int → Except NumeralFault Int
  | [], value => .ok value
  | c :: rest, value =>
    if c.isDigit then
      let digit : Int := c.toNat - '0'.toNat
      let next := if negative then 10 * value - digit else 10 * value + digit
      if range.highest < next then .error .tooLarge
      else if next < range.lowest then .error .tooSmall
      else readDigits range negative rest next
    else .error .invalidDigit

/-- Reads a whole numeral. A sign needs at least one digit after it. -/
def read (range : NumeralRange) : List Char → Except NumeralFault Int
  | [] => .error .empty
  | ['+'] => .error .invalidDigit
  | '+' :: digits => range.readDigits false digits 0
  | '-' :: digits =>
    if digits.isEmpty ∨ 0 ≤ range.lowest then .error .invalidDigit
    else range.readDigits true digits 0
  | digits => range.readDigits false digits 0

end NumeralRange

/-- The shortest numeral of an integer. -/
def numeral (value : Int) : String :=
  String.ofList ((if value < 0 then ['-'] else []) ++ Nat.toDigits 10 value.natAbs)

end LittleMan.Text
