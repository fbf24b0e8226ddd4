import LittleMan.Program.Load
import Mathlib.Data.String.Defs

/-! What reports say, word for word: the code and the message of each fault, and of a fault in a
program text the remark on its place as well. Numbers stand as the library writes them. -/

namespace LittleMan

namespace Text

theorem zeroPadded_eq_leftpad (width number : Nat) :
    zeroPadded width number = String.leftpad width '0' (toString number) := by
  unfold zeroPadded String.leftpad
  rw [Nat.toString_eq_repr, Nat.repr, String.toList_ofList]

theorem numeral_natCast (number : Nat) : numeral number = toString number := by
  have whole : ¬(number : Int) < 0 := Int.not_lt.mpr (Int.natCast_nonneg number)
  rw [numeral, if_neg whole]
  rfl

private theorem numeral_eq_toString (value : Int) : numeral value = toString value := by
  cases value with
  | ofNat number => exact numeral_natCast number
  | negSucc number =>
    have negative : Int.negSucc number < 0 := Int.negSucc_lt_zero number
    rw [numeral, if_pos negative, String.ofList_append]
    rfl

end Text

open Text (numeral_eq_toString numeral_natCast zeroPadded_eq_leftpad)

namespace Fault

inductive Worded : Fault → String → String → Prop where
  | programCounterOutOfRange (pc : Nat) :
      Worded (.programCounterOutOfRange pc) "run::out_of_range_pc"
        ("Out of range program counter: " ++ toString pc)
  | unmappedMemory (address : Nat) :
      Worded (.unmappedMemory address) "run::unmapped_memory"
        ("Read from unmapped memory at address " ++ String.leftpad 3 '0' (toString address))
  | unknownTrap (operand : Nat) :
      Worded (.unknownTrap operand) "run::unknown_trap"
        ("Unknown trap instruction: " ++ String.leftpad 3 '0' (toString operand))
  | unknownExtended (operand : Nat) :
      Worded (.unknownExtended operand) "run::unknown_extended"
        ("Unknown extended instruction: " ++ String.leftpad 3 '0' (toString (400 + operand)))
  | unknownDevice (operand : Nat) :
      Worded (.unknownDevice operand) "run::unknown_io"
        ("Unknown I/O instruction: " ++ String.leftpad 3 '0' (toString (900 + operand)))
  | inputOutOfRange (value : Int) :
      Worded (.inputOutOfRange value) "run::io_value_range"
        ("Out of range input value: " ++ toString value)
  | divisionByZero (dividend : Nat) :
      Worded (.divisionByZero dividend) "run::division_by_zero"
        ("Division by zero (dividend " ++ toString dividend ++ ")")
  | inputNotNumber (text : String) :
      Worded (.inputNotNumber text) "run::invalid_input" ("Input is not a number: `" ++ text ++ "`")
  | channel (reason : String) :
      Worded (.channel reason) "run::channel" ("I/O channel failed: " ++ reason)
  | cycleLimit (limit : Nat) :
      Worded (.cycleLimit limit) "run::cycle_limit"
        ("Program did not halt within " ++ toString limit ++ " cycles")

/-- A report gives the code of a fault, and its message with the address of the next
instruction. -/
def Explains (fault : Fault) (pc : Nat) (report : Report) : Prop :=
  ∃ code message, fault.Worded code message ∧ report.code = some code ∧
    report.message =
      message ++ " (next instruction at " ++ String.leftpad 3 '0' (toString pc) ++ ")"

private theorem worded (fault : Fault) : fault.Worded fault.code fault.message := by
  unfold code message
  cases fault with
  | inputOutOfRange value =>
    simp only [numeral_eq_toString]
    exact .inputOutOfRange value
  | _ =>
    simp only [numeral_natCast, zeroPadded_eq_leftpad]
    constructor

theorem explains_report (fault : Fault) (pc : Nat) : fault.Explains pc (fault.report pc) := by
  refine ⟨_, _, fault.worded, rfl, ?_⟩
  rw [report, zeroPadded_eq_leftpad]

end Fault

namespace Program

inductive LoadCause.Worded : LoadCause → String → String → String → Prop where
  | badNumber {fault : Text.NumeralFault} {reason : String}
      (known : (fault, reason) ∈
        [(.empty, "cannot parse integer from empty string"),
          (.invalidDigit, "invalid digit found in string"),
          (.tooLarge, "number too large to fit in target type"),
          (.tooSmall, "number too small to fit in target type")]) :
      Worded (.badNumber fault) "load::bad_number" ("Encountered an invalid number: " ++ reason)
        "not a number"
  | addressOutOfRange :
      Worded (.outOfRange .address) "load::out_of_range" "Encountered an out of range address"
        "address out of range"
  | valueOutOfRange :
      Worded (.outOfRange .value) "load::out_of_range" "Encountered an out of range value"
        "value out of range"
  | duplicateAddress (address : Nat) :
      Worded (.duplicateAddress address) "load::duplicate_address"
        ("Address " ++ String.leftpad 3 '0' (toString address) ++ " is defined twice")
        "already defined"
  | overflow :
      Worded .overflow "load::overflow" "Program does not fit in memory" "no address left"
  | trailing :
      Worded .trailing "load::trailing" "Unexpected token after value" "unexpected token"

def LoadFault.Explains (fault : LoadFault) (report : Report) : Prop :=
  ∃ code message remark, fault.cause.Worded code message remark ∧ report.code = some code ∧
    report.message = message ∧ report.labels.map Label.text = [remark]

private theorem LoadCause.worded (cause : LoadCause) :
    cause.Worded cause.code cause.message cause.remark := by
  unfold code message remark
  cases cause with
  | badNumber fault => exact .badNumber (by cases fault <;> simp [Text.NumeralFault.message])
  | outOfRange part =>
    cases part with
    | address => exact .addressOutOfRange
    | value => exact .valueOutOfRange
  | duplicateAddress address =>
    simp only [zeroPadded_eq_leftpad]
    exact .duplicateAddress address
  | overflow => exact .overflow
  | trailing => exact .trailing

theorem LoadFault.explains_report (fault : LoadFault) (source : Source) :
    fault.Explains (fault.report source) :=
  ⟨_, _, _, fault.cause.worded, rfl, rfl, rfl⟩

end Program

end LittleMan
