/-! A property of code points by the points at which it changes, starting from "does
not hold". Long tables of such changes make up the properties that Unicode defines. -/

namespace LittleMan.Text

/-- Counts the changes up to a code point: after an odd number the property holds. -/
def holdsAt (changes : List Nat) (code : Nat) : Bool :=
  changes.countP (· ≤ code) % 2 = 1

end LittleMan.Text
