import LittleMan.Memory
import LittleMan.Word

/-! The state of the machine. Words from 500 to 999 stand for the negative numbers
-500 to -1. -/

namespace LittleMan

/-- Zero and positive condition flags. Both start cleared, so a conditional branch
before any flag-setting instruction is not taken. -/
structure Flags where
  zero : Bool := false
  positive : Bool := false
deriving DecidableEq, Repr

/-- The flags that describe a word. -/
def Flags.of (word : Nat) : Flags := ⟨word = 0, word < 500⟩

/-- Everything a run changes, and the settings it obeys. -/
@[ext] structure Machine where
  memory : Memory
  pc : Nat := 0
  acc : Nat := 0
  b : Nat := 0
  flags : Flags := {}
  /-- The next instruction reads and writes B in place of the accumulator. -/
  useB : Bool := false
  /-- Never cleared once set. -/
  halted : Bool := false
  /-- Completed cycles. -/
  cycles : Nat := 0
  /-- Whether each completed cycle is shown. -/
  trace : Bool := false
  /-- A run fails when it has not halted after so many cycles. -/
  maxCycles : Option Nat := none
deriving DecidableEq

namespace Machine

/-- The value of the register that the next instruction works on. -/
def working (machine : Machine) : Nat := if machine.useB then machine.b else machine.acc

/-- Reduces an arithmetic result to a word and describes it by the flags. -/
def settle (machine : Machine) (value : Int) : Machine × Nat :=
  let word := Word.truncate value
  ({ machine with flags := Flags.of word }, word)

end Machine

end LittleMan
