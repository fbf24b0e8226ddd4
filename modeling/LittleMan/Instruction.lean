import LittleMan.Text.Layout
import LittleMan.Word

/-! The instruction set. Decoding never fails: a word without a meaning becomes an
instruction that reports itself when it is executed. -/

namespace LittleMan

/-- A decoded instruction. Operands are two-digit numbers. -/
inductive Instruction where
  | halt
  /-- Words 001 to 099; no trap is defined. -/
  | trap (operand : Nat)
  | add (cell : Nat)
  | subtract (cell : Nat)
  | store (cell : Nat)
  /-- Makes the next instruction read and write B in place of the accumulator. -/
  | useB
  | multiply
  | divide
  /-- The other words of class 4. -/
  | unknownExtended (operand : Nat)
  | load (cell : Nat)
  | branch (target : Nat)
  | branchIfZero (target : Nat)
  | branchIfPositive (target : Nat)
  | input
  | output
  /-- The other words of class 9, left to the devices of the channel. -/
  | device (operand : Nat)
deriving DecidableEq, Repr

namespace Instruction

/-- Decodes a word by its class, the hundreds digit. Longer words are reduced first. -/
def decode (word : Nat) : Instruction :=
  let word := word % 1000
  let operand := Word.operand word
  match Word.operator word with
  | 0 => if operand = 0 then .halt else .trap operand
  | 1 => .add operand
  | 2 => .subtract operand
  | 3 => .store operand
  | 4 =>
    match operand with
    | 1 => .useB
    | 2 => .multiply
    | 3 => .divide
    | _ => .unknownExtended operand
  | 5 => .load operand
  | 6 => .branch operand
  | 7 => .branchIfZero operand
  | 8 => .branchIfPositive operand
  | _ =>
    match operand with
    | 1 => .input
    | 2 => .output
    | _ => .device operand

open Text (zeroPadded)

/-- The mnemonic, with a two-digit operand where the instruction has one. -/
def mnemonic : Instruction → String
  | .halt => "HLT"
  | .trap operand => "TRP " ++ zeroPadded 2 operand
  | .add cell => "ADD " ++ zeroPadded 2 cell
  | .subtract cell => "SUB " ++ zeroPadded 2 cell
  | .store cell => "STA " ++ zeroPadded 2 cell
  | .useB => "USB"
  | .multiply => "MUL"
  | .divide => "DIV"
  | .unknownExtended operand => "EXT " ++ zeroPadded 2 operand
  | .load cell => "LDA " ++ zeroPadded 2 cell
  | .branch target => "BRA " ++ zeroPadded 2 target
  | .branchIfZero target => "BRZ " ++ zeroPadded 2 target
  | .branchIfPositive target => "BRP " ++ zeroPadded 2 target
  | .input => "INP"
  | .output => "OUT"
  | .device operand => "IO  " ++ zeroPadded 2 operand

end Instruction

end LittleMan
