import LittleMan.Channel

/-! One cycle of the machine: fetch, decode, execute, write back. A cycle that fails
leaves the machine as it was, except that the program counter has moved on when
the fetch succeeded. -/

namespace LittleMan

/-- What an action of the machine answers, and the machine and the world after it. -/
structure Turn (Answer World : Type) where
  answer : Answer
  machine : Machine
  world : World

namespace Machine

/-- An instruction that computes a result from the word in a cell. -/
def combine (machine : Machine) (cell : Nat) (result : Nat → Int) :
    Except Fault (Machine × Nat) :=
  (machine.memory.read cell).map fun word => machine.settle (result word)

/-- Continues at another address if the condition holds. -/
def jump (machine : Machine) (condition : Bool) (target working : Nat) :
    Except Fault (Machine × Nat) :=
  .ok (if condition then { machine with pc := target } else machine, working)

/-- Performs an instruction on the working value and answers the machine with the value
to write back. -/
def execute {World : Type} (channel : Channel World) (instruction : Instruction)
    (working : Nat) (machine : Machine) (world : World) :
    Except Fault (Machine × Nat) × World :=
  match instruction with
  | .halt => (.ok ({ machine with halted := true }, working), world)
  | .trap operand => (.error (.unknownTrap operand), world)
  | .add cell => (machine.combine cell fun word => working + word, world)
  | .subtract cell => (machine.combine cell fun word => working - word, world)
  | .store cell =>
    let stored := { machine with memory := machine.memory.write cell working }
    (.ok ({ stored with flags := Flags.of working }, working), world)
  | .useB => (.ok ({ machine with useB := true }, working), world)
  | .multiply => (.ok (machine.settle (machine.b * working)), world)
  | .divide =>
    if working = 0 then (.error (.divisionByZero machine.b), world)
    else (.ok (machine.settle (machine.b / working : Nat)), world)
  | .unknownExtended operand => (.error (.unknownExtended operand), world)
  | .load cell =>
    ((machine.memory.read cell).map fun word =>
      ({ machine with flags := Flags.of word }, word), world)
  | .branch target => (machine.jump true target working, world)
  | .branchIfZero target => (machine.jump machine.flags.zero target working, world)
  | .branchIfPositive target => (machine.jump machine.flags.positive target working, world)
  | .input =>
    match channel.ask world with
    | (.error fault, world) => (.error fault, world)
    | (.ok value, world) =>
      if 0 ≤ value ∧ value ≤ 999 then (.ok (machine.settle value), world)
      else (.error (.inputOutOfRange value), world)
  | .output =>
    match channel.tell working world with
    | (.error fault, world) => (.error fault, world)
    | (.ok _, world) => (.ok ({ machine with flags := Flags.of working }, working), world)
  | .device operand =>
    match channel.device operand working world with
    | (none, world) => (.error (.unknownDevice operand), world)
    | (some (.error fault), world) => (.error fault, world)
    | (some (.ok value), world) => (.ok (machine, Word.truncate value), world)

/-- Writes a result to the register that the instruction worked on. The instruction that
selects B always writes to the accumulator and leaves B selected. -/
def writeBack (machine : Machine) (instruction : Instruction) (onB : Bool) (result : Nat) :
    Machine :=
  if onB ∧ instruction ≠ .useB then { machine with b := result, useB := false }
  else { machine with acc := result }

/-- Moves the program counter past a fetched word. -/
def advance (machine : Machine) : Machine := { machine with pc := (machine.pc + 1) % 1000 }

/-- Writes a result back and counts the cycle. -/
def complete (machine : Machine) (instruction : Instruction) (onB : Bool) (result : Nat) :
    Machine :=
  let written := machine.writeBack instruction onB result
  { written with cycles := written.cycles + 1 }

/-- Shows a completed cycle if the machine traces. -/
def showCycle {World : Type} (channel : Channel World) (address word : Nat)
    (completed : Machine) (world : World) : World :=
  if completed.trace then
    channel.trace (TraceEntry.of address word (Instruction.decode word) completed) world
  else world

/-- Runs one instruction. -/
def cycle {World : Type} (channel : Channel World) (machine : Machine) (world : World) :
    Turn (Except Fault Unit) World :=
  match machine.memory.read machine.pc with
  | .error fault => ⟨.error fault, machine, world⟩
  | .ok word =>
    let instruction := Instruction.decode word
    match execute channel instruction machine.working machine.advance world with
    | (.error fault, world) => ⟨.error fault, machine.advance, world⟩
    | (.ok (executed, result), world) =>
      let completed := executed.complete instruction machine.useB result
      ⟨.ok (), completed, showCycle channel machine.pc word completed world⟩

section

variable {World : Type} {channel : Channel World} {machine : Machine} {world after : World}

theorem cycle_of_unmapped {fault : Fault}
    (fetched : machine.memory.read machine.pc = .error fault) :
    machine.cycle channel world = ⟨.error fault, machine, world⟩ := by
  simp only [cycle, fetched]

theorem cycle_of_failed {word : Nat} {fault : Fault}
    (fetched : machine.memory.read machine.pc = .ok word)
    (failed : execute channel (Instruction.decode word) machine.working machine.advance world =
      (.error fault, after)) :
    machine.cycle channel world = ⟨.error fault, machine.advance, after⟩ := by
  simp only [cycle, fetched, failed]

theorem cycle_of_executed {word result : Nat} {executed : Machine}
    (fetched : machine.memory.read machine.pc = .ok word)
    (performed : execute channel (Instruction.decode word) machine.working machine.advance world =
      (.ok (executed, result), after)) :
    machine.cycle channel world =
      let completed := executed.complete (Instruction.decode word) machine.useB result
      ⟨.ok (), completed, showCycle channel machine.pc word completed after⟩ := by
  simp only [cycle, fetched, performed]

end

end Machine

end LittleMan
