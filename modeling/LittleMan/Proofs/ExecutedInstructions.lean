import LittleMan.Proofs.OperandCells

/-! All that an instruction does to a machine, as one equation. The flags describe its result or stay
as they are, and everything but the program counter follows from the instruction. -/

namespace LittleMan

namespace Instruction

def describes : Instruction → Bool
  | .add _ | .subtract _ | .store _ | .multiply | .divide | .load _ | .input | .output => true
  | _ => false

end Instruction

theorem Encodes.describes_iff {word : Nat} {instruction : Instruction}
    (encoded : Encodes word instruction) :
    instruction.describes = true ↔ word / 100 ∈ [1, 2, 3, 5] ∨ word ∈ [402, 403, 901, 902] := by
  simp only [List.mem_cons, List.not_mem_nil, or_false]
  cases encoded with
  | halt | useB | multiply | divide | input | output => decide
  | _ =>
    simp only [Instruction.describes, Bool.false_eq_true, true_iff, false_iff]
    omega

theorem Encodes.eq_halt_iff {word : Nat} {instruction : Instruction}
    (encoded : Encodes word instruction) : instruction = .halt ↔ word = 0 := by
  cases encoded with
  | halt | useB | multiply | divide | input | output => decide
  | _ =>
    simp only [reduceCtorEq, false_iff]
    omega

namespace Machine

section

variable {World : Type} {channel : Channel World} {instruction : Instruction} {working result : Nat}
  {machine executed : Machine} {world after : World}

/-- An instruction changes memory, flags and switches by what it is and by its result. -/
theorem execute_changes (performed : execute channel instruction working machine world =
    (.ok (executed, result), after)) :
    executed = { machine with
      memory := instruction.stored working machine.memory
      pc := executed.pc
      flags := if instruction.describes then Flags.of result else machine.flags
      useB := machine.useB || instruction = .useB
      halted := machine.halted || instruction = .halt } := by
  cases instruction with
  | trap | unknownExtended => cases performed
  | halt | store | useB | multiply | branch =>
    cases performed
    simp [Instruction.stored, Instruction.describes]
  | branchIfZero | branchIfPositive =>
    cases performed
    split <;> simp [Instruction.stored, Instruction.describes]
  | @add cell | @subtract cell | @load cell =>
    simp only [execute, combine] at performed
    cases found : machine.memory.read cell <;> rw [found] at performed <;> cases performed
    simp [Instruction.stored, Instruction.describes]
  | input =>
    simp only [execute] at performed
    split at performed
    · cases performed
    · split at performed <;> cases performed
      simp [Instruction.stored, Instruction.describes]
  | divide | output | device =>
    simp only [execute] at performed
    split at performed <;> cases performed
    simp [Instruction.stored, Instruction.describes]

@[simp]
theorem complete_flags (onB : Bool) :
    (machine.complete instruction onB result).flags = machine.flags := by
  simp only [complete, writeBack]
  split <;> rfl

@[simp]
theorem complete_halted (onB : Bool) :
    (machine.complete instruction onB result).halted = machine.halted := by
  simp only [complete, writeBack]
  split <;> rfl

end

end Machine

end LittleMan
