/-! Words of the decimal machine. A word holds three decimal digits, and the result
of an instruction is reduced to a word before it is kept. -/

namespace LittleMan.Word

/-- Reduces an integer to a word. Negative values wrap around, so -1 becomes 999. -/
def truncate (value : Int) : Nat := (value % 1000).toNat

/-- The digits above the operand, kept as one byte. -/
def operator (word : Nat) : Nat := word / 100 % 256

/-- The low two digits of a word. -/
def operand (word : Nat) : Nat := word % 100

theorem truncate_lt (value : Int) : truncate value < 1000 := by
  unfold truncate
  omega

theorem truncate_of_lt {value : Nat} (small : value < 1000) : truncate value = value := by
  unfold truncate
  omega

end LittleMan.Word
