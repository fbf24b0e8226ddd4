import LittleMan.Channel.Queue
import LittleMan.Instruction
import LittleMan.Text.Quoted

/-! Structural notation: a value written on one line with the names of its variants and
fields, as a developer wants to see it. -/

namespace LittleMan.Inspect

open Text (numeral quoted)

/-- Items separated by commas. -/
def commaSeparated (items : List String) : String := String.intercalate ", " items

/-- A variant with one unnamed part. -/
def wrapped (name part : String) : String := name ++ "(" ++ part ++ ")"

/-- A record with its fields by name. -/
def record (name : String) (fields : List (String × String)) : String :=
  name ++ " \x7b " ++ commaSeparated (fields.map fun field => field.1 ++ ": " ++ field.2) ++
    " \x7d"

/-- Values in order. -/
def list (items : List String) : String := "[" ++ commaSeparated items ++ "]"

def boolean (value : Bool) : String := if value then "true" else "false"

def instruction : Instruction → String
  | .halt => "Halt"
  | .trap operand => wrapped "Trap" (numeral operand)
  | .add cell => wrapped "Add" (numeral cell)
  | .subtract cell => wrapped "Sub" (numeral cell)
  | .store cell => wrapped "Store" (numeral cell)
  | .useB => wrapped "Extended" "UseB"
  | .multiply => wrapped "Extended" "Mul"
  | .divide => wrapped "Extended" "Div"
  | .unknownExtended operand => wrapped "Extended" (wrapped "Unknown" (numeral operand))
  | .load cell => wrapped "Load" (numeral cell)
  | .branch target => wrapped "Branch" (numeral target)
  | .branchIfZero target => wrapped "BranchZero" (numeral target)
  | .branchIfPositive target => wrapped "BranchPositive" (numeral target)
  | .input => "Input"
  | .output => "Output"
  | .device operand => wrapped "UserIo" (numeral operand)

def flags (flags : Flags) : String :=
  record "Flags" [("zero", boolean flags.zero), ("positive", boolean flags.positive)]

def fault : Fault → String
  | .programCounterOutOfRange pc => record "OutOfRangeProgramCounter" [("pc", numeral pc)]
  | .unmappedMemory address => record "UnmappedMemory" [("address", numeral address)]
  | .unknownTrap operand => record "UnknownTrap" [("operand", numeral operand)]
  | .unknownExtended operand =>
    record "UnknownExtendedInstruction" [("operand", numeral operand)]
  | .unknownDevice operand => record "UnknownIoInstruction" [("operand", numeral operand)]
  | .inputOutOfRange value => record "IoValueRange" [("value", numeral value)]
  | .divisionByZero dividend => record "DivisionByZero" [("dividend", numeral dividend)]
  | .inputNotNumber text => record "InvalidInput" [("text", quoted text)]
  | .channel reason => record "Channel" [("reason", quoted reason)]
  | .cycleLimit limit => record "CycleLimit" [("limit", numeral limit)]

/-- The mapped cells in address order. -/
def memory (memory : Memory) : String :=
  "\x7b" ++
    commaSeparated (memory.toList.map fun cell => numeral cell.1 ++ ": " ++ numeral cell.2) ++
    "\x7d"

def queue (queue : Queue) : String :=
  record "BufferChannel"
    [("input", list (queue.input.map numeral)),
      ("output", list (queue.output.toList.map fun (word : Nat) => numeral word))]

end LittleMan.Inspect
