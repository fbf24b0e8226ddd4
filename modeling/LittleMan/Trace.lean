import LittleMan.Instruction
import LittleMan.Machine
import LittleMan.Text.Layout

/-! Trace lines: one for each completed cycle, with where the instruction was, what it
was and the registers after it. -/

namespace LittleMan

/-- One completed cycle as the trace shows it. -/
structure TraceEntry where
  address : Nat
  word : Nat
  instruction : Instruction
  acc : Nat
  b : Nat
  flags : Flags
  useB : Bool
deriving DecidableEq, Repr

namespace TraceEntry

/-- The entry of an instruction fetched from an address, with the machine after it. -/
def of (address word : Nat) (instruction : Instruction) (machine : Machine) : TraceEntry where
  address := address
  word := word
  instruction := instruction
  acc := machine.acc
  b := machine.b
  flags := machine.flags
  useB := machine.useB

open Text (zeroPadded leftAligned)

/-- Everything after the address, with the line's newline. -/
def columns (entry : TraceEntry) : String :=
  "  " ++ zeroPadded 3 entry.word ++ "  " ++ leftAligned 6 entry.instruction.mnemonic ++
    "  A " ++ zeroPadded 3 entry.acc ++ "  B " ++ zeroPadded 3 entry.b ++ "  " ++
    (if entry.flags.zero then "Z" else "-") ++ (if entry.flags.positive then "P" else "-") ++
    (if entry.useB then "B" else "-") ++ "\n"

/-- The whole line. -/
def line (entry : TraceEntry) : String := zeroPadded 3 entry.address ++ entry.columns

end TraceEntry

end LittleMan
