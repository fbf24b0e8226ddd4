import LittleMan.Proofs.Encoding
import LittleMan.Proofs.Words

/-! What a cycle leaves alone, for machines in any state. Executing an instruction neither
reads nor changes the accumulator, the cycle count and the settings of a run; the program
counter never leaves memory. -/

namespace LittleMan.Machine

/-- The machine with the accumulator, the cycle count and the settings of another. -/
def withFrame (machine outer : Machine) : Machine :=
  { machine with
    acc := outer.acc, cycles := outer.cycles, trace := outer.trace, maxCycles := outer.maxCycles }

/-- A change to machines that instructions neither see on a machine nor undo. -/
structure Unseen (change : Machine → Machine) (machine : Machine) : Prop where
  memory : (change machine).memory = machine.memory
  b : (change machine).b = machine.b
  flags : (change machine).flags = machine.flags
  keepsMemory : ∀ state memory,
    change { state with memory := memory } = { change state with memory := memory }
  keepsPc : ∀ state pc, change { state with pc := pc } = { change state with pc := pc }
  keepsFlags : ∀ state flags,
    change { state with flags := flags } = { change state with flags := flags }
  keepsHalted : ∀ state halted,
    change { state with halted := halted } = { change state with halted := halted }

/-- A cycle fails to fetch, fails to execute or completes. -/
theorem cycle_cases {World : Type} (channel : Channel World) (machine : Machine) (world : World) :
    (∃ fault, machine.memory.read machine.pc = .error fault ∧
      machine.cycle channel world = ⟨.error fault, machine, world⟩) ∨
    (∃ word fault after, machine.memory.read machine.pc = .ok word ∧
      execute channel (.decode word) machine.working machine.advance world =
        (.error fault, after) ∧
      machine.cycle channel world = ⟨.error fault, machine.advance, after⟩) ∨
    ∃ word executed result after, machine.memory.read machine.pc = .ok word ∧
      execute channel (.decode word) machine.working machine.advance world =
        (.ok (executed, result), after) ∧
      machine.cycle channel world =
        let completed := executed.complete (.decode word) machine.useB result
        ⟨.ok (), completed, showCycle channel machine.pc word completed after⟩ := by
  cases fetched : machine.memory.read machine.pc with
  | error fault => exact .inl ⟨fault, rfl, cycle_of_unmapped fetched⟩
  | ok word =>
    cases performed : execute channel (.decode word) machine.working machine.advance world with
    | mk outcome after =>
      cases outcome with
      | error fault =>
        exact .inr (.inl ⟨word, fault, after, rfl, performed, cycle_of_failed fetched performed⟩)
      | ok done =>
        exact .inr (.inr ⟨word, done.1, done.2, after, rfl, performed,
          cycle_of_executed fetched performed⟩)

section

variable {World : Type} (channel : Channel World) (instruction : Instruction) (working : Nat)
  (machine : Machine) (world : World)

variable {machine}

/-- Executing an instruction commutes with an unseen change. What selects B is unseen by every
instruction but the one that selects it. -/
theorem execute_change {change : Machine → Machine} (unseen : Unseen change machine)
    (keepsUseB : instruction = .useB → ∀ state : Machine,
      change { state with useB := true } = { change state with useB := true }) :
    execute channel instruction working (change machine) world =
      ((execute channel instruction working machine world).1.map
        fun done => (change done.1, done.2),
        (execute channel instruction working machine world).2) := by
  -- The change is any function, so every case names the field that its instruction sets.
  have settled (value : Int) :
      (change machine).settle value =
        (change (machine.settle value).1, (machine.settle value).2) :=
    Prod.ext (unseen.keepsFlags machine _).symm rfl
  have found (cell : Nat) : (change machine).memory.read cell = machine.memory.read cell :=
    congrArg (Memory.read · cell) unseen.memory
  have combined (cell : Nat) (value : Nat → Int) :
      (change machine).combine cell value =
        (machine.combine cell value).map fun done => (change done.1, done.2) := by
    rw [combine, combine, found]
    cases machine.memory.read cell with
    | error fault => rfl
    | ok word => exact congrArg Except.ok (settled _)
  have jumped (condition : Bool) (target : Nat) :
      (change machine).jump condition target working =
        (machine.jump condition target working).map fun done => (change done.1, done.2) := by
    cases condition with
    | false => rfl
    | true => exact congrArg (fun state => Except.ok (state, working)) (unseen.keepsPc machine _).symm
  have described (flags : Flags) (result : Nat) :
      (.ok ({ change machine with flags := flags }, result) : Except Fault (Machine × Nat)) =
        .ok (change { machine with flags := flags }, result) :=
    congrArg (fun state => Except.ok (state, result)) (unseen.keepsFlags machine flags).symm
  cases instruction with
  | trap | unknownExtended => rfl
  | halt =>
    exact congrArg (fun state => (Except.ok (state, working), world)) (unseen.keepsHalted machine _).symm
  | add | subtract => exact congrArg (fun done => (done, world)) (combined _ _)
  | store cell =>
    have stored := unseen.keepsMemory { machine with flags := Flags.of working }
      (machine.memory.write cell working)
    rw [unseen.keepsFlags] at stored
    rw [execute, unseen.memory]
    exact congrArg (fun state => (Except.ok (state, working), world)) stored.symm
  | useB =>
    exact congrArg (fun state => (Except.ok (state, working), world)) (keepsUseB rfl machine).symm
  | multiply =>
    rw [execute, unseen.b]
    exact congrArg (fun done => (Except.ok done, world)) (settled _)
  | divide =>
    simp only [execute, unseen.b]
    split
    · rfl
    · exact congrArg (fun done => (Except.ok done, world)) (settled _)
  | load cell =>
    rw [execute, execute, found]
    cases machine.memory.read cell with
    | error fault => rfl
    | ok word => exact congrArg (fun done => (done, world)) (described _ _)
  | branch => exact congrArg (fun moved => (moved, world)) (jumped _ _)
  | branchIfZero | branchIfPositive =>
    rw [execute, unseen.flags]
    exact congrArg (fun moved => (moved, world)) (jumped _ _)
  | input =>
    simp only [execute]
    split
    · rfl
    · split
      · exact congrArg (fun done => (Except.ok done, _)) (settled _)
      · rfl
  | output =>
    simp only [execute]
    split
    · rfl
    · exact congrArg (fun done => (done, _)) (described _ _)
  | device =>
    simp only [execute]
    split <;> rfl

variable {channel instruction working world} {executed : Machine} {result : Nat} {after : World}

/-- What an unseen change does not do to a machine, it does not do to what the machine becomes. -/
theorem execute_fixed {change : Machine → Machine} (unseen : Unseen change machine)
    (keepsUseB : instruction = .useB → ∀ state : Machine,
      change { state with useB := true } = { change state with useB := true })
    (fixed : change machine = machine)
    (performed : execute channel instruction working machine world =
      (.ok (executed, result), after)) : change executed = executed := by
  have changed := execute_change channel instruction working world unseen keepsUseB
  rw [fixed, performed] at changed
  injection changed with same
  injection same with same
  exact (congrArg Prod.fst same).symm

theorem execute_frame (performed : execute channel instruction working machine world =
    (.ok (executed, result), after)) : executed.withFrame machine = executed := by
  have unseen : Unseen (fun state => state.withFrame machine) machine := by
    constructor <;> intros <;> rfl
  exact execute_fixed unseen (fun _ _ => rfl) rfl performed

theorem execute_b (performed : execute channel instruction working machine world =
    (.ok (executed, result), after)) : executed.b = machine.b := by
  have unseen : Unseen (fun state => { state with b := machine.b }) machine := by
    constructor <;> intros <;> rfl
  exact (congrArg Machine.b (execute_fixed unseen (fun _ _ => rfl) rfl performed)).symm

/-- Only the instruction that selects B changes whether it is selected. -/
theorem execute_useB (selectsNone : instruction ≠ .useB)
    (performed : execute channel instruction working machine world =
      (.ok (executed, result), after)) : executed.useB = machine.useB := by
  have unseen : Unseen (fun state => { state with useB := machine.useB }) machine := by
    constructor <;> intros <;> rfl
  have fixed := execute_fixed unseen (fun selects => absurd selects selectsNone) rfl performed
  exact (congrArg Machine.useB fixed).symm

private theorem execute_pc {word : Nat} (encoded : Encodes word instruction)
    (performed : execute channel instruction working machine world =
      (.ok (executed, result), after)) : executed.pc = machine.pc ∨ executed.pc < 100 := by
  have jumped {condition : Bool} {target : Nat} (digits : target < 100)
      (moved : machine.jump condition target working = .ok (executed, result)) :
      executed.pc = machine.pc ∨ executed.pc < 100 := by
    cases moved
    split
    · exact .inr digits
    · exact .inl rfl
  cases encoded with
  | trap | unknownExtended => cases performed
  | halt | store | useB | multiply =>
    cases performed
    exact .inl rfl
  | branch digits | branchIfZero digits | branchIfPositive digits =>
    exact jumped digits (Prod.mk.inj performed).1
  | @add cell | @subtract cell | @load cell =>
    simp only [execute, combine] at performed
    cases found : machine.memory.read cell <;> rw [found] at performed <;> cases performed
    exact .inl rfl
  | input =>
    simp only [execute] at performed
    split at performed
    · cases performed
    · split at performed <;> cases performed
      exact .inl rfl
  | divide | output | device =>
    simp only [execute] at performed
    split at performed <;> cases performed
    exact .inl rfl

@[simp]
theorem complete_pc (onB : Bool) : (machine.complete instruction onB result).pc = machine.pc := by
  simp only [complete, writeBack]
  split <;> rfl

@[simp]
theorem complete_cycles (onB : Bool) :
    (machine.complete instruction onB result).cycles = machine.cycles + 1 := by
  simp only [complete, writeBack]
  split <;> rfl

@[simp]
theorem complete_maxCycles (onB : Bool) :
    (machine.complete instruction onB result).maxCycles = machine.maxCycles := by
  simp only [complete, writeBack]
  split <;> rfl

/-- A completed cycle counts itself and leaves the program counter inside memory. -/
theorem cycle_completed {final : Machine} (completed : machine.cycle channel world =
    ⟨.ok (), final, after⟩) : final.cycles = machine.cycles + 1 ∧ final.pc ≤ 999 := by
  obtain ⟨fault, -, failed⟩ | ⟨word, fault, last, -, -, failed⟩ |
    ⟨word, executed, result, last, -, performed, done⟩ := cycle_cases channel machine world
  · rw [failed] at completed
    cases completed
  · rw [failed] at completed
    cases completed
  · rw [done] at completed
    cases completed
    have counted : executed.cycles = machine.cycles :=
      (congrArg Machine.cycles (execute_frame performed)).symm
    have moved := execute_pc (Instruction.encodes_decode word) performed
    have wrapped : machine.advance.pc < 1000 := Nat.mod_lt _ (by decide)
    simp only [complete_cycles, complete_pc, counted, true_and]
    omega

/-- A cycle fails before anything has happened, or while it executes an instruction. -/
theorem cycle_failed_cases {fault : Fault} {final : Machine}
    (failed : machine.cycle channel world = ⟨.error fault, final, after⟩) :
    (machine.memory.read machine.pc = .error fault ∧ final = machine ∧ after = world) ∨
      ∃ word, machine.memory.read machine.pc = .ok word ∧
        execute channel (.decode word) machine.working machine.advance world =
          (.error fault, after) ∧
        final = machine.advance := by
  obtain ⟨reason, fetched, stuck⟩ | ⟨word, reason, last, fetched, refused, stuck⟩ |
    ⟨word, executed, result, last, -, -, done⟩ := cycle_cases channel machine world
  · rw [stuck] at failed
    cases failed
    exact .inl ⟨fetched, rfl, rfl⟩
  · rw [stuck] at failed
    cases failed
    exact .inr ⟨word, fetched, refused, rfl⟩
  · rw [done] at failed
    cases failed

theorem cycle_failed {fault : Fault} {final : Machine} (failed : machine.cycle channel world =
    ⟨.error fault, final, after⟩) : final = machine ∨ final = machine.advance := by
  obtain ⟨-, same, -⟩ | ⟨word, -, -, moved⟩ := cycle_failed_cases failed
  · exact .inl same
  · exact .inr moved

theorem cycle_failed_cycles {fault : Fault} {final : Machine} (failed : machine.cycle channel world =
    ⟨.error fault, final, after⟩) : final.cycles = machine.cycles := by
  rcases cycle_failed failed with rfl | rfl <;> rfl

variable (channel machine world)

theorem cycle_maxCycles : (machine.cycle channel world).machine.maxCycles = machine.maxCycles := by
  obtain ⟨fault, -, failed⟩ | ⟨word, fault, last, -, -, failed⟩ |
    ⟨word, executed, result, last, -, performed, done⟩ := cycle_cases channel machine world
  · rw [failed]
  · rw [failed]
    rfl
  · rw [done]
    simp only [complete_maxCycles]
    exact (congrArg Machine.maxCycles (execute_frame performed)).symm

/-- A cycle leaves the program counter inside memory, or it has not got as far as fetching
and changes nothing. -/
theorem cycle_pc : (machine.cycle channel world).machine.pc ≤ 999 ∨
    (machine.cycle channel world).machine = machine := by
  match stepped : machine.cycle channel world with
  | ⟨.ok _, final, last⟩ => exact .inl (cycle_completed stepped).2
  | ⟨.error fault, final, last⟩ =>
    rcases cycle_failed stepped with rfl | rfl
    · exact .inr rfl
    · exact .inl (Nat.le_of_lt_succ (Nat.mod_lt _ (by decide)))

end

end LittleMan.Machine
