import LittleMan.Proofs.CycleFrame

/-! The one cell that an instruction reads or writes. It is named by a two-digit operand, so only a
fetch reaches beyond the first hundred cells, and all that a cycle does to memory is to store the
working value in a cell of these. -/

namespace LittleMan

namespace Instruction

def cell? : Instruction → Option Nat
  | .add cell | .subtract cell | .store cell | .load cell => some cell
  | _ => none

def stored (instruction : Instruction) (working : Nat) (memory : Memory) : Memory :=
  match instruction with
  | .store cell => memory.write cell working
  | _ => memory

end Instruction

theorem Encodes.cell_lt {word cell : Nat} {instruction : Instruction}
    (encoded : Encodes word instruction) (reached : instruction.cell? = some cell) :
    cell < 100 := by
  cases encoded with
  | add digits | subtract digits | store digits | load digits =>
    cases reached
    exact digits
  | _ => cases reached

def Turn.withMemory {Answer World : Type} (turn : Turn Answer World) (memory : Memory) :
    Turn Answer World :=
  { turn with machine := { turn.machine with memory := memory } }

namespace Machine

/-- The cell that the next cycle stores to, if the word that it fetches is one of 300 to 399. -/
def storesTo (machine : Machine) : Option Nat :=
  (machine.memory.get machine.pc).bind fun word =>
    if word % 1000 / 100 = 3 then some (word % 100) else none

/-- What the next cycle makes of a memory. -/
def store (machine : Machine) (memory : Memory) : Memory :=
  match machine.storesTo with
  | some cell => memory.write cell machine.working
  | none => memory

section

variable {machine : Machine} {word cell : Nat}

theorem storesTo_eq_some_iff : machine.storesTo = some cell ↔
    ∃ word, machine.memory.get machine.pc = some word ∧ word % 1000 = 300 + cell ∧ cell < 100 := by
  simp only [storesTo, Option.bind_eq_some_iff]
  constructor
  · intro ⟨word, fetched, stores⟩
    split at stores
    next => cases stores; exact ⟨word, fetched, by omega, by omega⟩
    next => cases stores
  · intro ⟨word, fetched, encoded, digits⟩
    refine ⟨word, fetched, ?_⟩
    rw [if_pos (by omega)]
    congr
    omega

private theorem store_of_unmapped (unmapped : machine.memory.get machine.pc = none)
    (memory : Memory) :
    machine.store memory = memory := by
  simp only [store, storesTo, unmapped, Option.bind_none]

private theorem store_of_fetched (fetched : machine.memory.get machine.pc = some word)
    (memory : Memory) :
    machine.store memory = (Instruction.decode word).stored machine.working memory := by
  have encoded := Instruction.encodes_decode word
  generalize Instruction.decode word = instruction at encoded
  have group : machine.storesTo =
      if word % 1000 / 100 = 3 then some (word % 1000 % 100) else none := by
    simp [storesTo, fetched]
  generalize word % 1000 = reduced at encoded group
  rw [store, group]
  cases encoded with
  | @store cell digits =>
    have same : (300 + cell) % 100 = cell := by omega
    rw [if_pos (by omega), same]
    rfl
  | _ =>
    rw [if_neg (by omega)]
    rfl

end

section

variable {World : Type} (channel : Channel World) (instruction : Instruction) (working : Nat)
  (machine : Machine) (world : World) (memory : Memory)

/-- An instruction sees nothing of a memory but its own cell. -/
theorem execute_withMemory
    (agree : ∀ cell ∈ instruction.cell?, memory.get cell = machine.memory.get cell) :
    execute channel instruction working { machine with memory := memory } world =
      ((execute channel instruction working machine world).1.map fun done =>
          ({ done.1 with memory := instruction.stored working memory }, done.2),
        (execute channel instruction working machine world).2) := by
  have found {cell : Nat} (reached : instruction.cell? = some cell) :
      memory.read cell = machine.memory.read cell := by
    simp only [Memory.read, agree cell reached]
  cases instruction with
  | add cell | subtract cell | load cell =>
    simp only [execute, combine, found rfl]
    cases machine.memory.read cell <;> rfl
  | branchIfZero =>
    simp only [execute, jump]
    cases machine.flags.zero <;> rfl
  | branchIfPositive =>
    simp only [execute, jump]
    cases machine.flags.positive <;> rfl
  | divide =>
    simp only [execute]
    split <;> rfl
  | input =>
    simp only [execute]
    split
    · rfl
    · split <;> rfl
  | output | device =>
    simp only [execute]
    split <;> rfl
  | _ => rfl

variable {instruction working machine world} in
private theorem stored_of_refused {fault : Fault} {after : World}
    (refused : execute channel instruction working machine world = (.error fault, after)) :
    instruction.stored working memory = memory := by
  cases instruction with
  | store => cases refused
  | _ => rfl

private theorem complete_withMemory (onB : Bool) (result : Nat) :
    complete { machine with memory := memory } instruction onB result =
      { machine.complete instruction onB result with memory := memory } := by
  simp only [complete, writeBack]
  split <;> rfl

/-- A cycle sees nothing of a memory but the cell that it fetches from and the first hundred. -/
theorem cycle_withMemory (fetched : memory.get machine.pc = machine.memory.get machine.pc)
    (low : ∀ cell < 100, memory.get cell = machine.memory.get cell) :
    cycle channel { machine with memory := memory } world =
      (machine.cycle channel world).withMemory (machine.store memory) := by
  have read : memory.read machine.pc = machine.memory.read machine.pc := by
    simp only [Memory.read, fetched]
  have executes (word : Nat) := execute_withMemory channel (.decode word) machine.working
    machine.advance world memory fun cell reached =>
      low cell ((Instruction.encodes_decode word).cell_lt reached)
  obtain ⟨fault, unread, failed⟩ | ⟨word, fault, after, fetch, refused, failed⟩ |
    ⟨word, executed, result, after, fetch, performed, done⟩ := cycle_cases channel machine world
  · rw [failed, store_of_unmapped (Memory.get_of_read_error unread)]
    exact cycle_of_unmapped (read.trans unread)
  · have same := executes word
    rw [refused] at same
    rw [failed, store_of_fetched (Memory.read_eq_ok_iff.mp fetch), stored_of_refused channel memory refused]
    exact cycle_of_failed (read.trans fetch) same
  · have same := executes word
    rw [performed] at same
    rw [done, store_of_fetched (Memory.read_eq_ok_iff.mp fetch)]
    apply Eq.trans (cycle_of_executed (read.trans fetch) same)
    rw [complete_withMemory]
    rfl

theorem cycle_memory :
    (machine.cycle channel world).machine.memory = machine.store machine.memory :=
  congrArg (fun turn => turn.machine.memory)
    (machine.cycle_withMemory channel world machine.memory rfl fun _ _ => rfl)

theorem cycle_of_storesTo {cell : Nat} (stores : machine.storesTo = some cell) :
    (machine.cycle channel world).answer = .ok () := by
  obtain ⟨word, fetched, encoded, digits⟩ := storesTo_eq_some_iff.mp stores
  have found := Instruction.encodes_decode word
  rw [encoded] at found
  have instruction : Instruction.decode word = .store cell :=
    found.decode.symm.trans (Encodes.store digits).decode
  have read := Memory.read_eq_ok_iff.mpr fetched
  simp only [cycle, read, instruction, execute]

end

end Machine

end LittleMan
