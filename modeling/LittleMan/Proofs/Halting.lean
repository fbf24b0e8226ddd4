import LittleMan.Proofs.ExecutedInstructions
import LittleMan.Proofs.Histories
import LittleMan.Proofs.RunEnds

/-! How machines halt. A run succeeds only by a cycle that executes the word 000, which leaves
registers, flags and memory as they were. From then on the machine stays halted, and runs of it do
nothing. -/

namespace LittleMan

namespace Machine

/-- The next cycle fetches the word that halts. A word beyond 999 counts as what it is reduced to. -/
def FetchesHalt (machine : Machine) : Prop :=
  ∃ word, machine.memory.get machine.pc = some word ∧ word % 1000 = 0

structure HaltsAs (machine final : Machine) : Prop where
  halted : final.halted = true
  pc : machine.pc = (final.pc + 999) % 1000
  acc : final.acc = machine.acc
  b : final.b = machine.b
  flags : final.flags = machine.flags
  memory : final.memory = machine.memory

section

variable {World : Type} {channel : Channel World} {machine final : Machine} {world last : World}

private theorem cycle_of_fetchesHalt (channel : Channel World) (world : World)
    (halts : machine.FetchesHalt) :
    ∃ final last, machine.cycle channel world = ⟨.ok (), final, last⟩ ∧ machine.HaltsAs final := by
  obtain ⟨word, fetched, zero⟩ := halts
  have inside := Memory.le_of_get fetched
  have decoded : Instruction.decode word = .halt :=
    (Instruction.encodes_decode word).eq_halt_iff.mpr zero
  have performed : execute channel (.decode word) machine.working machine.advance world =
      (.ok ({ machine.advance with halted := true }, machine.working), world) := by
    rw [decoded, execute]
  refine ⟨_, _, cycle_of_executed (Memory.read_eq_ok_iff.mpr fetched) performed, ?_⟩
  have back : machine.pc = ((machine.pc + 1) % 1000 + 999) % 1000 := by omega
  -- The working value goes back to the register that it came from.
  rw [decoded, working, complete, writeBack]
  cases machine.useB with
  | true => exact ⟨rfl, back, rfl, rfl, rfl, rfl⟩
  | false => exact ⟨rfl, back, rfl, rfl, rfl, rfl⟩

private theorem cycle_halted_iff (completed : machine.cycle channel world = ⟨.ok (), final, last⟩) :
    final.halted = true ↔ machine.halted = true ∨ machine.FetchesHalt := by
  rcases cycle_cases channel machine world with ⟨fault, -, failed⟩ | ⟨_, fault, _, -, -, failed⟩ |
    ⟨word, executed, result, after, fetched, performed, done⟩
  · rw [failed] at completed
    cases completed
  · rw [failed] at completed
    cases completed
  · rw [done] at completed
    cases completed
    have fetched := Memory.read_eq_ok_iff.mp fetched
    have zero := (Instruction.encodes_decode word).eq_halt_iff
    rw [complete_halted, execute_changes performed]
    simp [FetchesHalt, fetched, zero, advance]

private theorem cycle_halted (halted : machine.halted = true) :
    (machine.cycle channel world).machine.halted = true := by
  match stepped : machine.cycle channel world with
  | ⟨.ok _, final, last⟩ => exact (cycle_halted_iff stepped).mpr (.inl halted)
  | ⟨.error fault, final, last⟩ =>
    rcases cycle_failed stepped with same | moved
    · rwa [same]
    · rwa [moved]

theorem HoldsWords.cycleTimes {count : Nat} (words : machine.HoldsWords)
    (completed : machine.cycleTimes channel count world = ⟨.ok (), final, last⟩) :
    final.HoldsWords := by
  induction count generalizing final last with
  | zero =>
    cases completed
    exact words
  | succ count ih =>
    obtain ⟨middle, current, prior, stepped⟩ := cycleTimes_split completed
    have next : (middle.cycle channel current).machine.HoldsWords := (ih prior).cycle
    rwa [stepped] at next

/-- A run that succeeds without having been halted ends with the first cycle that fetches the word
that halts. -/
theorem exists_halt_of_resume {fuel : Nat} (active : machine.halted = false)
    (ended : machine.resume channel fuel world = ⟨some (.ok ()), final, last⟩) :
    ∃ earlier middle current, machine.cycleTimes channel earlier world = ⟨.ok (), middle, current⟩ ∧
      middle.cycle channel current = ⟨.ok (), final, last⟩ ∧ middle.FetchesHalt ∧
      ∀ index < earlier, ∀ state before,
        machine.cycleTimes channel index world = ⟨.ok (), state, before⟩ → ¬state.FetchesHalt := by
  have inside : machine.pc ≤ 999 := by
    apply Nat.le_of_not_lt
    intro outside
    rw [resume_of_verdict (verdict_of_outside active outside)] at ended
    cases ended
  obtain ⟨count, -, ends⟩ := exists_ends_of_resume active inside ended
  cases ends with
  | settled ends =>
    obtain ⟨earlier, middle, current, rfl, proceeds, completed, going, stepped⟩ := ends.exists_cycle
    have halts : middle.FetchesHalt := by
      rcases (cycle_halted_iff stepped).mp (ends.halted rfl) with before | halts
      · rw [going] at before
        cases before
      · exact halts
    refine ⟨earlier, middle, current, completed, stepped, halts, ?_⟩
    intro index small state before reached early
    obtain ⟨next, after, moved, halted⟩ := cycle_of_fetchesHalt channel before early
    obtain ⟨_, _, again, active⟩ := proceeds (index + 1) small
    rw [cycleTimes_succ reached, moved] at again
    cases again
    rw [halted.halted] at active
    cases active

end

end Machine

namespace Operation

variable {World : Type} {channel : Channel World} {state : Machine × World}

private theorem perform_halted (halted : state.1.halted = true) (operation : Operation) :
    (perform channel state operation).1.halted = true := by
  cases operation with
  | cycle => exact Machine.cycle_halted halted
  | resume fuel =>
    rw [perform, Machine.resume_of_verdict (Machine.verdict_of_halted halted)]
    exact halted
  | run fuel start =>
    have ended : Machine.verdict { state.1 with pc := start } = some (.ok ()) :=
      Machine.verdict_of_halted halted
    rw [perform, Machine.run, Machine.resume_of_verdict ended]
    exact halted
  | setPc | setMaxCycles | setTrace | load | write => exact halted

private theorem performAll_halted (halted : state.1.halted = true) (history : List Operation) :
    (performAll channel state history).1.halted = true := by
  induction history generalizing state with
  | nil => exact halted
  | cons operation history ih => exact ih (perform_halted halted operation)

end Operation

/-- Runs succeed only by halting. The last cycle fetches 000, no earlier one does, and it leaves
registers, flags and memory alone; a word beyond 999 counts as what it is reduced to. A machine stays
halted whatever is done with it, and every further run of it succeeds without a call to its channel,
changing nothing but the program counter where it is told to. -/
theorem resume_succeeds_by_halting {World : Type} (channel : Channel World) (machine : Machine)
    (world : World) :
    (machine.halted = false → ∀ fuel final last,
      machine.resume channel fuel world = ⟨some (.ok ()), final, last⟩ →
      ∃ earlier middle current,
        machine.cycleTimes channel earlier world = ⟨.ok (), middle, current⟩ ∧
        middle.cycle channel current = ⟨.ok (), final, last⟩ ∧
        final.cycles = machine.cycles + (earlier + 1) ∧
        middle.FetchesHalt ∧ (machine.HoldsWords → middle.memory.get middle.pc = some 0) ∧
        middle.HaltsAs final ∧
        ∀ index < earlier, ∀ state before,
          machine.cycleTimes channel index world = ⟨.ok (), state, before⟩ →
          ¬state.FetchesHalt) ∧
    (machine.halted = true → ∀ history,
      let later := Operation.performAll channel (machine, world) history
      later.1.halted = true ∧ ∀ budget fuel,
        let state := { later.1 with maxCycles := budget }
        state.resume channel fuel later.2 = ⟨some (.ok ()), state, later.2⟩ ∧
        ∀ start, state.run channel fuel start later.2 =
          ⟨some (.ok ()), { state with pc := start }, later.2⟩) := by
  constructor
  · intro active fuel final last ended
    obtain ⟨earlier, middle, current, completed, stepped, halts, others⟩ :=
      Machine.exists_halt_of_resume active ended
    have counted : final.cycles = machine.cycles + (earlier + 1) := by
      rw [(Machine.cycle_completed stepped).1, (Machine.cycleTimes_completed completed).1]
      rfl
    have word (words : machine.HoldsWords) : middle.memory.get middle.pc = some 0 := by
      obtain ⟨word, fetched, zero⟩ := halts
      have small := (words.cycleTimes completed).memory _ _ fetched
      rw [fetched, ← zero, Nat.mod_eq_of_lt (Nat.lt_succ_of_le small)]
    obtain ⟨_, _, again, left⟩ := Machine.cycle_of_fetchesHalt channel current halts
    rw [stepped] at again
    cases again
    exact ⟨earlier, middle, current, completed, stepped, counted, halts, word, left, others⟩
  · intro halted history later
    have remains : later.1.halted = true := Operation.performAll_halted halted history
    refine ⟨remains, ?_⟩
    intro budget fuel state
    have ended (start : Nat) : Machine.verdict { state with pc := start } = some (.ok ()) :=
      Machine.verdict_of_halted remains
    exact ⟨Machine.resume_of_verdict (ended state.pc) fuel,
      fun start => Machine.resume_of_verdict (ended start) fuel⟩

/-- The last cell halts a machine on B, and the program counter comes round to the first. -/
theorem resume_succeeds_by_halting_in_last_cell :
    let memory := (Memory.empty.write 998 401).write 999 0
    let machine : Machine := { memory, pc := 998, acc := 7, b := 3, maxCycles := some 2 }
    let final : Machine := { machine with pc := 0, halted := true, cycles := 2 }
    let queue : Queue := ⟨[5], #[]⟩
    machine.resume Queue.channel 2 queue = ⟨some (.ok ()), final, queue⟩ ∧
      (∃ (middle : Machine) (current : Queue),
        machine.cycleTimes Queue.channel 1 queue = ⟨.ok (), middle, current⟩ ∧
        middle.cycle Queue.channel current = ⟨.ok (), final, queue⟩ ∧ middle.pc = 999 ∧
        middle.memory.get middle.pc = some 0 ∧ middle.b = 3) ∧
      final.run Queue.channel 0 65535 queue =
        ⟨some (.ok ()), { final with pc := 65535 }, queue⟩ := by
  intro memory machine final queue
  have words : machine.HoldsWords :=
    ⟨(Memory.HoldsWords.empty.write 998 (by decide)).write 999 (by decide), by decide, by decide⟩
  have first : memory.read 998 = .ok 401 := by simp [memory, Memory.read, Memory.get_write]
  have second : memory.read 999 = .ok 0 := by simp [memory, Memory.read, Memory.get_write]
  have ended : machine.resume Queue.channel 2 queue = ⟨some (.ok ()), final, queue⟩ := by
    simp [Machine.resume, Machine.verdict, Machine.cycle, Machine.advance, machine, final, first,
      second, Encodes.decode .useB, Encodes.decode .halt, Machine.execute, Machine.complete,
      Machine.writeBack, Machine.working, Machine.showCycle]
  obtain ⟨earlier, middle, current, completed, stepped, counted, -, zero, left, -⟩ :=
    (resume_succeeds_by_halting Queue.channel machine queue).1 rfl 2 final queue ended
  obtain rfl : earlier = 1 := by
    simp only [final, machine] at counted
    omega
  have pc : middle.pc = 999 := by simp [left.pc, final]
  obtain ⟨-, again⟩ := (resume_succeeds_by_halting Queue.channel final queue).2 rfl []
  exact ⟨ended, ⟨middle, current, completed, stepped, pc, zero words, left.b.symm⟩,
    (again (some 2) 0).2 65535⟩

end LittleMan
