import LittleMan.Report
import LittleMan.Text.Layout
import LittleMan.Text.Numeral

/-! What can stop a run. A fault ends the run that raised it; the machine stays as the
failed cycle left it. -/

namespace LittleMan

/-- The causes that stop a run before it halts. -/
inductive Fault where
  | programCounterOutOfRange (pc : Nat)
  | unmappedMemory (address : Nat)
  | unknownTrap (operand : Nat)
  | unknownExtended (operand : Nat)
  | unknownDevice (operand : Nat)
  | inputOutOfRange (value : Int)
  | divisionByZero (dividend : Nat)
  /-- The input held something that is not a number. -/
  | inputNotNumber (text : String)
  /-- The channel failed or was closed. -/
  | channel (reason : String)
  | cycleLimit (limit : Nat)
deriving DecidableEq, Repr

namespace Fault

open Text (zeroPadded numeral)

def code : Fault → String
  | .programCounterOutOfRange _ => "run::out_of_range_pc"
  | .unmappedMemory _ => "run::unmapped_memory"
  | .unknownTrap _ => "run::unknown_trap"
  | .unknownExtended _ => "run::unknown_extended"
  | .unknownDevice _ => "run::unknown_io"
  | .inputOutOfRange _ => "run::io_value_range"
  | .divisionByZero _ => "run::division_by_zero"
  | .inputNotNumber _ => "run::invalid_input"
  | .channel _ => "run::channel"
  | .cycleLimit _ => "run::cycle_limit"

def message : Fault → String
  | .programCounterOutOfRange pc => "Out of range program counter: " ++ numeral pc
  | .unmappedMemory address => "Read from unmapped memory at address " ++ zeroPadded 3 address
  | .unknownTrap operand => "Unknown trap instruction: " ++ zeroPadded 3 operand
  | .unknownExtended operand => "Unknown extended instruction: " ++ zeroPadded 3 (400 + operand)
  | .unknownDevice operand => "Unknown I/O instruction: " ++ zeroPadded 3 (900 + operand)
  | .inputOutOfRange value => "Out of range input value: " ++ numeral value
  | .divisionByZero dividend => "Division by zero (dividend " ++ numeral dividend ++ ")"
  | .inputNotNumber text => "Input is not a number: `" ++ text ++ "`"
  | .channel reason => "I/O channel failed: " ++ reason
  | .cycleLimit limit => "Program did not halt within " ++ numeral limit ++ " cycles"

def help : Fault → String
  | .programCounterOutOfRange _ => "addresses range from 000 to 999"
  | .unmappedMemory _ => "every cell must be loaded or stored to before it is read"
  | .unknownTrap _ => "only `000` (HLT) is defined under opcode 0xx"
  | .unknownExtended _ => "defined extended instructions are 401 (USB), 402 (MUL) and 403 (DIV)"
  | .unknownDevice _ => "defined I/O instructions are 901 (INP) and 902 (OUT)"
  | .inputOutOfRange _ | .inputNotNumber _ => "input values range from 0 to 999"
  | .divisionByZero _ => "check the divisor before executing DIV"
  | .channel _ => "the program may be reading more input than was given"
  | .cycleLimit _ => "raise `--max-cycles` or check the program for loops"

/-- The diagnostic of a fault, naming the instruction that would have come next. -/
def report (fault : Fault) (pc : Nat) : Report where
  message := fault.message ++ " (next instruction at " ++ zeroPadded 3 pc ++ ")"
  code := some fault.code
  severity := some .error
  help := some fault.help

end Fault

end LittleMan
