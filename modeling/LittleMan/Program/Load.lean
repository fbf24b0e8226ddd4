import LittleMan.Memory
import LittleMan.Program.Line
import LittleMan.Text.Numeral

/-! Loading a program text into memory. A line holds a value, or an address and a value;
a bare value goes to the address after the previous one, starting from 0. Loading
stops at the first line at fault, and the lines before it stay loaded. -/

namespace LittleMan.Program

open Text (NumeralFault NumeralRange zeroPadded)

/-- The two parts of a line. -/
inductive Part where
  | address
  | value
deriving DecidableEq, Repr

def Part.name : Part → String
  | .address => "address"
  | .value => "value"

/-- Why a line cannot be loaded. -/
inductive LoadCause where
  | badNumber (fault : NumeralFault)
  | outOfRange (part : Part)
  | duplicateAddress (address : Nat)
  | overflow
  | trailing
deriving DecidableEq, Repr

/-- Why loading stopped, and where in the text. -/
structure LoadFault where
  cause : LoadCause
  extent : Extent
deriving DecidableEq, Repr

namespace LoadCause

def code : LoadCause → String
  | .badNumber _ => "load::bad_number"
  | .outOfRange _ => "load::out_of_range"
  | .duplicateAddress _ => "load::duplicate_address"
  | .overflow => "load::overflow"
  | .trailing => "load::trailing"

def message : LoadCause → String
  | .badNumber fault => "Encountered an invalid number: " ++ fault.message
  | .outOfRange part => "Encountered an out of range " ++ part.name
  | .duplicateAddress address => "Address " ++ zeroPadded 3 address ++ " is defined twice"
  | .overflow => "Program does not fit in memory"
  | .trailing => "Unexpected token after value"

def help : LoadCause → String
  | .badNumber _ => "values and addresses are plain decimal numbers"
  | .outOfRange _ => "addresses and values range from 0 to 999"
  | .duplicateAddress _ => "each address may only be given a value once"
  | .overflow =>
    "the program continues past address 999; give this line an explicit address"
  | .trailing => "lines hold `value`, `address value` or `address: value`"

/-- The remark on the offending text. -/
def remark : LoadCause → String
  | .badNumber _ => "not a number"
  | .outOfRange part => part.name ++ " out of range"
  | .duplicateAddress _ => "already defined"
  | .overflow => "no address left"
  | .trailing => "unexpected token"

end LoadCause

/-- The diagnostic of a fault in a program text. -/
def LoadFault.report (fault : LoadFault) (source : Source) : Report where
  message := fault.cause.message
  code := some fault.cause.code
  severity := some .error
  help := some fault.cause.help
  labels := [⟨fault.cause.remark, fault.extent⟩]
  source := some source

/-- A memory that is being filled, and the address of the next bare value. -/
structure Loading where
  memory : Memory
  next : Nat := 0

/-- Reads a token as a word. -/
def readWord (part : Part) (token : Token) : Except LoadFault Nat :=
  match (NumeralRange.signed 64).read token.text with
  | .error fault => .error ⟨.badNumber fault, token.extent⟩
  | .ok value =>
    if 0 ≤ value ∧ value ≤ 999 then .ok value.toNat
    else .error ⟨.outOfRange part, token.extent⟩

namespace Loading

/-- Stores the value of a line at its address, which must be free. -/
def define (loading : Loading) (line : List Located) (address : Nat) (value : Token)
    (extra : List Token) : Except LoadFault Loading :=
  match extra with
  | token :: _ => .error ⟨.trailing, token.extent⟩
  | [] =>
    match readWord .value value with
    | .error fault => .error fault
    | .ok word =>
      if loading.memory.isMapped address then
        .error ⟨.duplicateAddress address, (trimmedCode line).extent⟩
      else .ok ⟨loading.memory.write address word, address + 1⟩

/-- Loads one line. Lines without tokens change nothing. -/
def loadLine (loading : Loading) (line : List Located) : Except LoadFault Loading :=
  match tokens line with
  | [] => .ok loading
  | [value] =>
    if loading.next < 1000 then loading.define line loading.next value []
    else .error ⟨.overflow, value.extent⟩
  | first :: value :: extra =>
    match readWord .address first with
    | .error fault => .error fault
    | .ok address => loading.define line address value extra

/-- Loads lines up to the first one at fault. -/
def loadLines (loading : Loading) : List (List Located) → Option LoadFault × Loading
  | [] => (none, loading)
  | line :: rest =>
    match loading.loadLine line with
    | .error fault => (some fault, loading)
    | .ok loading => loading.loadLines rest

end Loading

/-- Loads a program text into a memory. A text at fault leaves what it has loaded. -/
def load (text : String) (memory : Memory) : Option LoadFault × Memory :=
  let (fault, loading) := Loading.loadLines ⟨memory, 0⟩ (lines text)
  (fault, loading.memory)

end LittleMan.Program
