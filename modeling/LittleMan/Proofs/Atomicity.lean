import LittleMan.Channel.Queue
import LittleMan.Proofs.CycleFrame

/-! What a failed cycle leaves behind. A cycle is also a sequence of updates in place, where each
update stays even if a later one fails, and the two agree: every instruction does what can fail
before its first update. -/

namespace LittleMan

/-- Updates of a machine and the world around it, one after another, up to the first failure. -/
abbrev Updates (World Answer : Type) := ExceptT Fault (StateM (Machine × World)) Answer

namespace Updates

variable {World Answer : Type}

def change (update : Machine → Machine) : Updates World Unit :=
  modify fun state => (update state.1, state.2)

def look (view : Machine → Answer) : Updates World Answer := do
  let state ← get
  return view state.1

def call (operation : World → Answer × World) : Updates World Answer :=
  modifyGet fun state =>
    let (answer, world) := operation state.2
    (answer, state.1, world)

def demand : Except Fault Answer → Updates World Answer
  | .ok answer => pure answer
  | .error fault => throw fault

def readCell (address : Nat) : Updates World Nat := do
  demand (← look fun machine => machine.memory.read address)

def setFlags (word : Nat) : Updates World Unit :=
  change fun machine => { machine with flags := Flags.of word }

def settle (value : Int) : Updates World Nat := do
  let word := Word.truncate value
  setFlags word
  return word

def jump (target : Nat) : Updates World Unit := change fun machine => { machine with pc := target }

def execute (channel : Channel World) (instruction : Instruction) (working : Nat) :
    Updates World Nat :=
  match instruction with
  | .halt => do
    change fun machine => { machine with halted := true }
    return working
  | .trap operand => throw (.unknownTrap operand)
  | .add cell => do
    let word ← readCell cell
    settle (working + word)
  | .subtract cell => do
    let word ← readCell cell
    settle (working - word)
  | .store cell => do
    change fun machine => { machine with memory := machine.memory.write cell working }
    setFlags working
    return working
  | .useB => do
    change fun machine => { machine with useB := true }
    return working
  | .multiply => do
    let b ← look Machine.b
    settle (b * working)
  | .divide => do
    let b ← look Machine.b
    if working = 0 then throw (.divisionByZero b)
    settle (b / working : Nat)
  | .unknownExtended operand => throw (.unknownExtended operand)
  | .load cell => do
    let word ← readCell cell
    setFlags word
    return word
  | .branch target => do
    jump target
    return working
  | .branchIfZero target => do
    if (← look Machine.flags).zero then jump target
    return working
  | .branchIfPositive target => do
    if (← look Machine.flags).positive then jump target
    return working
  | .input => do
    -- A value that is refused has left the channel all the same.
    let value ← demand (← call channel.ask)
    if ¬(0 ≤ value ∧ value ≤ 999) then throw (.inputOutOfRange value)
    settle value
  | .output => do
    demand (← call (channel.tell working))
    setFlags working
    return working
  | .device operand => do
    match ← call (channel.device operand working) with
    | none => throw (.unknownDevice operand)
    | some answer =>
      let value ← demand answer
      return Word.truncate value

def writeBack (instruction : Instruction) (onB : Bool) (result : Nat) : Updates World Unit :=
  if onB ∧ instruction ≠ .useB then do
    change fun machine => { machine with b := result }
    change fun machine => { machine with useB := false }
  else
    change fun machine => { machine with acc := result }

def showCycle (channel : Channel World) (address word : Nat) : Updates World Unit := do
  if ← look Machine.trace then
    let completed ← look id
    call fun world =>
      ((), channel.trace (.of address word (Instruction.decode word) completed) world)

def cycle (channel : Channel World) : Updates World Unit := do
  let address ← look Machine.pc
  let word ← readCell address
  -- The one update before something else that can fail. Branches write over it.
  change Machine.advance
  let instruction := Instruction.decode word
  let onB ← look Machine.useB
  let working ← look Machine.working
  let result ← execute channel instruction working
  writeBack instruction onB result
  change fun machine => { machine with cycles := machine.cycles + 1 }
  showCycle channel address word

def run (updates : Updates World Answer) (machine : Machine) (world : World) :
    Turn (Except Fault Answer) World :=
  let (answer, machine, world) := (ExceptT.run updates).run (machine, world)
  ⟨answer, machine, world⟩

section

variable {Other : Type} (machine : Machine) (world : World)

private theorem run_bind (first : Updates World Answer) (next : Answer → Updates World Other) :
    (first >>= next).run machine world =
      match first.run machine world with
      | ⟨.ok answer, changed, after⟩ => (next answer).run changed after
      | ⟨.error fault, changed, after⟩ => ⟨.error fault, changed, after⟩ := by
  have unfolded : (first >>= next).run machine world =
      let (answer, state) := (ExceptT.run first).run (machine, world)
      let (answer, changed, after) := (ExceptT.bindCont next answer).run state
      ⟨answer, changed, after⟩ := rfl
  rw [unfolded, run]
  rcases (ExceptT.run first).run (machine, world) with ⟨fault | answer, changed, after⟩ <;> rfl

@[simp]
theorem run_throw (fault : Fault) :
    (throw fault : Updates World Answer).run machine world = ⟨.error fault, machine, world⟩ := rfl

@[simp]
theorem run_change (update : Machine → Machine) :
    (change update).run machine world = ⟨.ok (), update machine, world⟩ := rfl

@[simp]
theorem run_look (view : Machine → Answer) :
    (look view).run machine world = ⟨.ok (view machine), machine, world⟩ := rfl

@[simp]
theorem run_call (operation : World → Answer × World) :
    (call operation).run machine world =
      ⟨.ok (operation world).1, machine, (operation world).2⟩ := rfl

@[simp]
theorem run_demand (outcome : Except Fault Answer) :
    (demand outcome).run machine world = ⟨outcome, machine, world⟩ := by
  cases outcome <;> rfl

@[simp]
theorem run_readCell (address : Nat) :
    (readCell address).run machine world = ⟨machine.memory.read address, machine, world⟩ := by
  simp [readCell, run_bind]

@[simp]
theorem run_settle (value : Int) :
    (settle value).run machine world =
      ⟨.ok (machine.settle value).2, (machine.settle value).1, world⟩ := rfl

/-- What an instruction has done before it fails leaves the machine alone. -/
theorem run_execute (channel : Channel World) (instruction : Instruction) (working : Nat) :
    (execute channel instruction working).run machine world =
      match machine.execute channel instruction working world with
      | (.error fault, after) => ⟨.error fault, machine, after⟩
      | (.ok (executed, result), after) => ⟨.ok result, executed, after⟩ := by
  -- Instructions with an update after a request that can be refused come apart there.
  cases instruction with
  | halt | trap | store | useB | multiply | unknownExtended | branch => rfl
  | add cell | subtract cell | load cell =>
    simp only [execute, run_bind, run_readCell, Machine.execute, Machine.combine]
    cases machine.memory.read cell <;> rfl
  | divide =>
    by_cases zero : working = 0
    · simp [execute, run_bind, Machine.execute, zero]
    · simp [execute, run_bind, Machine.execute, zero]
  | branchIfZero target =>
    simp only [execute, run_bind, run_look, Machine.execute, Machine.jump]
    cases machine.flags.zero <;> rfl
  | branchIfPositive target =>
    simp only [execute, run_bind, run_look, Machine.execute, Machine.jump]
    cases machine.flags.positive <;> rfl
  | input =>
    simp only [execute, run_bind, run_call, run_demand, Machine.execute]
    rcases channel.ask world with ⟨fault | value, after⟩
    · rfl
    · by_cases inside : 0 ≤ value ∧ value ≤ 999
      · simp [inside]
      · simp [inside]
  | output =>
    simp only [execute, run_bind, run_call, run_demand, Machine.execute]
    rcases channel.tell working world with ⟨fault | answer, after⟩ <;> rfl
  | device operand =>
    simp only [execute, run_bind, run_call, Machine.execute]
    rcases channel.device operand working world with ⟨none | fault | value, after⟩ <;> rfl

@[simp]
theorem run_writeBack (instruction : Instruction) (onB : Bool) (result : Nat) :
    (writeBack instruction onB result).run machine world =
      ⟨.ok (), machine.writeBack instruction onB result, world⟩ := by
  unfold writeBack Machine.writeBack
  split <;> rfl

@[simp]
theorem run_showCycle (channel : Channel World) (address word : Nat) :
    (showCycle channel address word).run machine world =
      ⟨.ok (), machine, machine.showCycle channel address word world⟩ := by
  simp only [showCycle, Machine.showCycle, run_bind, run_look]
  cases machine.trace <;> rfl

private theorem run_cycle (channel : Channel World) :
    (cycle channel).run machine world = machine.cycle channel world := by
  have onB : machine.advance.useB = machine.useB := rfl
  have working : machine.advance.working = machine.working := rfl
  simp only [cycle, run_bind, run_look, run_readCell, run_change, run_execute]
  obtain ⟨fault, fetched, failed⟩ | ⟨word, fault, after, fetched, failed, stopped⟩ |
    ⟨word, executed, result, after, fetched, performed, done⟩ :=
      Machine.cycle_cases channel machine world
  · rw [failed]
    simp only [fetched]
  · rw [stopped]
    simp only [fetched, working, failed]
  · rw [done]
    simp only [fetched, working, performed, onB, run_writeBack, run_showCycle]
    rfl

end

end Updates

namespace Machine

section

variable {World : Type} {channel : Channel World} {machine final : Machine}
  {world after : World} {fault : Fault}

private theorem execute_shown (shown : TraceEntry → World → World) (instruction : Instruction)
    (working : Nat) :
    execute { channel with trace := shown } instruction working machine world =
      execute channel instruction working machine world := by
  cases instruction <;> rfl

private theorem cycle_failed_shown (shown : TraceEntry → World → World)
    (failed : machine.cycle channel world = ⟨.error fault, final, after⟩) :
    machine.cycle { channel with trace := shown } world = ⟨.error fault, final, after⟩ := by
  obtain ⟨fetched, rfl, rfl⟩ | ⟨word, fetched, refused, rfl⟩ := cycle_failed_cases failed
  · exact cycle_of_unmapped fetched
  · exact cycle_of_failed fetched ((execute_shown shown _ _).trans refused)

private theorem cycle_failed_machine
    (failed : machine.cycle channel world = ⟨.error fault, final, after⟩) :
    final = { machine with pc := if machine.memory.get machine.pc = none then machine.pc
      else (machine.pc + 1) % 1000 } := by
  obtain ⟨fetched, rfl, rfl⟩ | ⟨word, fetched, -, rfl⟩ := cycle_failed_cases failed
  · rw [Memory.read] at fetched
    split at fetched
    · cases fetched
    next unmapped => rw [if_pos unmapped]
  · rw [if_neg (by simp [Memory.read_eq_ok_iff.mp fetched])]
    rfl

/-- A failed cycle leaves the machine as it was, except that the program counter has moved on if
a word was fetched, and shows nothing. Updates in place leave the same machine behind. -/
theorem cycle_failed_keeps
    (failed : machine.cycle channel world = ⟨.error fault, final, after⟩) :
    (Updates.cycle channel).run machine world = ⟨.error fault, final, after⟩ ∧
      final = { machine with pc := if machine.memory.get machine.pc = none then machine.pc
        else (machine.pc + 1) % 1000 } ∧
      (999 < machine.pc → final.pc = machine.pc) ∧
      ∀ shown : TraceEntry → World → World,
        machine.cycle { channel with trace := shown } world = ⟨.error fault, final, after⟩ := by
  refine ⟨(Updates.run_cycle machine world channel).trans failed, cycle_failed_machine failed, ?_,
    fun shown => cycle_failed_shown shown failed⟩
  intro beyond
  rw [cycle_failed_machine failed, if_pos (machine.memory.get_eq_none_of_le beyond)]

/-- Input that is not a word, for an instruction in the last cell that works on B. -/
theorem cycle_refuses_input :
    let machine : Machine :=
      { memory := Memory.empty.write 999 901, pc := 999, acc := 5, useB := true, trace := true }
    let channel : Channel Queue :=
      { Queue.channel with trace := fun entry queue => queue.write entry.word }
    machine.cycle Queue.channel ⟨[1000], #[]⟩ =
        ⟨.error (.inputOutOfRange 1000), { machine with pc := 0 }, ⟨[], #[]⟩⟩ ∧
      machine.cycle channel ⟨[1000], #[]⟩ =
        ⟨.error (.inputOutOfRange 1000), { machine with pc := 0 }, ⟨[], #[]⟩⟩ := by
  intro machine channel
  have fetched : machine.memory.read machine.pc = .ok 901 := by
    simp [machine, Memory.read, Memory.get_write]
  have refused : execute Queue.channel (.decode 901) machine.working machine.advance
      ⟨[1000], #[]⟩ = (.error (.inputOutOfRange 1000), ⟨[], #[]⟩) := by
    rw [Encodes.decode .input]
    rfl
  have failed : machine.cycle Queue.channel ⟨[1000], #[]⟩ =
      ⟨.error (.inputOutOfRange 1000), { machine with pc := 0 }, ⟨[], #[]⟩⟩ := by
    rw [cycle_of_failed fetched refused]
    simp [machine, advance]
  exact ⟨failed, (cycle_failed_keeps failed).2.2.2 _⟩

end

end Machine

end LittleMan
