import LittleMan.Channel.Queue
import LittleMan.Proofs.CallLog

/-! Cycles on B. Selecting B only redirects a cycle: it does what the same cycle does on an
accumulator that holds what B holds, and leaves its result in the other register. -/

namespace LittleMan

/-- Turns that differ in the registers at most, and in a world that may have been shown them. -/
structure Turn.SameBesideRegisters {Answer World : Type} (first second : Turn Answer World) :
    Prop where
  answer : first.answer = second.answer
  memory : first.machine.memory = second.machine.memory
  pc : first.machine.pc = second.machine.pc
  flags : first.machine.flags = second.machine.flags
  halted : first.machine.halted = second.machine.halted
  cycles : first.machine.cycles = second.machine.cycles

namespace Machine

/-- The same machine with the accumulator selected, and in it what B holds. -/
def onAccumulator (machine : Machine) : Machine :=
  { machine with useB := false, acc := machine.b }

theorem decode_ne_useB {word : Nat} (other : word % 1000 ≠ 401) :
    Instruction.decode word ≠ .useB := by
  intro selects
  have encoded := Instruction.encodes_decode word
  rw [selects] at encoded
  generalize word % 1000 = reduced at encoded other
  cases encoded
  contradiction

private theorem showCycle_unseen {World : Type} {channel : Channel World} {machine : Machine}
    (unseen : machine.trace = false ∨ ∀ entry world, channel.trace entry world = world)
    (address word : Nat) (world : World) : showCycle channel address word machine world = world := by
  unfold showCycle
  split
  · rename_i shown
    rcases unseen with silent | unseen
    · rw [silent] at shown
      contradiction
    · exact unseen _ world
  · rfl

section

variable {World : Type} {machine : Machine}

private theorem execute_onAccumulator (channel : Channel World) {instruction : Instruction}
    (selectsNone : instruction ≠ .useB) (working : Nat) (machine : Machine) (world : World) :
    execute channel instruction working machine.onAccumulator world =
      ((execute channel instruction working machine world).1.map
        fun done => ({ done.1 with useB := false, acc := machine.b }, done.2),
        (execute channel instruction working machine world).2) := by
  have unseen : Unseen (fun state => { state with useB := false, acc := machine.b }) machine := by
    constructor <;> intros <;> rfl
  apply execute_change channel instruction working world unseen
  intro selects
  contradiction

/-- A cycle on B fails like the cycle on the accumulator, or both complete with one result. -/
theorem cycle_onB_cases (channel : Channel World) (world : World) (onB : machine.useB = true)
    (selectsNone : ∀ word, machine.memory.read machine.pc = .ok word → word % 1000 ≠ 401) :
    (∃ fault final after,
      machine.cycle channel world = ⟨.error fault, final, after⟩ ∧
      machine.onAccumulator.cycle channel world = ⟨.error fault, final.onAccumulator, after⟩) ∨
    ∃ (word result : Nat) (executed onB plain : Machine) (after : World),
      executed.withFrame machine = executed ∧ executed.b = machine.b ∧
      onB = { executed with b := result, useB := false, cycles := executed.cycles + 1 } ∧
      plain = { executed with acc := result, useB := false, cycles := executed.cycles + 1 } ∧
      machine.cycle channel world = ⟨.ok (), onB, showCycle channel machine.pc word onB after⟩ ∧
      machine.onAccumulator.cycle channel world =
        ⟨.ok (), plain, showCycle channel machine.pc word plain after⟩ := by
  have working : machine.onAccumulator.working = machine.working := by
    simp only [Machine.working, onB, if_true]
    rfl
  obtain ⟨fault, fetched, failed⟩ | ⟨word, fault, after, fetched, performed, failed⟩ |
    ⟨word, executed, result, after, fetched, performed, done⟩ :=
    cycle_cases channel machine world
  · exact .inl ⟨fault, machine, world, failed, cycle_of_unmapped fetched⟩
  · have redirected := execute_onAccumulator channel (decode_ne_useB (selectsNone word fetched))
      machine.working machine.advance world
    rw [performed, ← working] at redirected
    exact .inl ⟨fault, machine.advance, after, failed, cycle_of_failed fetched redirected⟩
  · have instruction := decode_ne_useB (selectsNone word fetched)
    have redirected := execute_onAccumulator channel instruction machine.working machine.advance world
    rw [performed, ← working] at redirected
    have written : executed.complete (.decode word) machine.useB result =
        { executed with b := result, useB := false, cycles := executed.cycles + 1 } := by
      simp only [complete, writeBack, onB, true_and, if_pos instruction]
    have plain := @cycle_of_executed _ channel machine.onAccumulator _ _ _ _ _ fetched redirected
    have framed := execute_frame performed
    have kept := execute_b performed
    exact .inr ⟨word, result, executed, _, _, after, framed, kept, written, rfl, done, plain⟩

/-- A cycle on B does what the cycle on the accumulator does, asks the channel the same things
and leaves its result in B. A word beyond 999 counts as what it is reduced to. -/
theorem cycle_redirected (channel : Channel World) (machine : Machine) (world : World)
    (onB : machine.useB = true)
    (selectsNone : ∀ word, machine.memory.read machine.pc = .ok word → word % 1000 ≠ 401) :
    let first := machine.cycle channel world
    let second := machine.onAccumulator.cycle channel world
    first.SameBesideRegisters second ∧
      (first.answer = .ok () → first.machine.useB = false ∧ first.machine.acc = machine.acc ∧
        first.machine.b = second.machine.acc ∧ second.machine.b = machine.b) ∧
      (∀ log, (machine.cycle channel.logged (world, log)).world.2 =
        (machine.onAccumulator.cycle channel.logged (world, log)).world.2) ∧
      (machine.trace = false ∨ (∀ entry world, channel.trace entry world = world) →
        first.world = second.world) := by
  intro first second
  have asked (log : Array Call) : (machine.cycle channel.logged (world, log)).world.2 =
      (machine.onAccumulator.cycle channel.logged (world, log)).world.2 := by
    obtain ⟨fault, final, after, one, two⟩ |
      ⟨word, result, executed, onB, plain, after, -, -, -, -, one, two⟩ :=
      cycle_onB_cases channel.logged (world, log) onB selectsNone
    · rw [one, two]
    · rw [one, two, showCycle_logged, showCycle_logged]
  obtain ⟨fault, final, after, one, two⟩ |
    ⟨word, result, executed, onB, plain, after, framed, kept, rfl, rfl, one, two⟩ :=
    cycle_onB_cases channel world onB selectsNone
  · rw [show first = _ from one, show second = _ from two]
    exact ⟨⟨rfl, rfl, rfl, rfl, rfl, rfl⟩, nofun, asked, fun _ => rfl⟩
  · have acc : executed.acc = machine.acc := (congrArg Machine.acc framed).symm
    have trace : executed.trace = machine.trace := (congrArg Machine.trace framed).symm
    rw [show first = _ from one, show second = _ from two, ← trace]
    refine ⟨⟨rfl, rfl, rfl, rfl, rfl, rfl⟩, fun _ => ⟨rfl, acc, rfl, kept⟩, asked, ?_⟩
    intro unseen
    have shown {completed : Machine} (same : completed.trace = executed.trace) :
        showCycle channel machine.pc word completed after = after :=
      showCycle_unseen (same ▸ unseen) _ _ _
    exact Eq.trans (shown rfl) (Eq.symm (shown rfl))

/-- A product on B has B as both factors. -/
theorem cycle_redirected_square :
    let machine : Machine :=
      { memory := Memory.empty.write 999 402, pc := 999, acc := 7, b := 31, useB := true, trace := true }
    let queue : Queue := ⟨[], #[]⟩
    let final := (machine.cycle Queue.channel queue).machine
    machine.useB = true ∧
      (∀ word, machine.memory.read machine.pc = .ok word → word % 1000 ≠ 401) ∧
      (machine.cycle Queue.channel queue).answer = .ok () ∧
      final.b = 961 ∧ final.acc = 7 ∧ final.pc = 0 ∧ final.useB = false := by
  intro machine queue final
  have fetched : machine.memory.read machine.pc = .ok 402 := by
    simp [machine, Memory.read, Memory.get_write]
  have selectsNone : ∀ word, machine.memory.read machine.pc = .ok word → word % 1000 ≠ 401 := by
    intro word found
    cases fetched.symm.trans found
    decide
  obtain ⟨same, registers, -, -⟩ := cycle_redirected Queue.channel machine queue rfl selectsNone
  have completed : (machine.cycle Queue.channel queue).answer = .ok () := by
    simp only [cycle, fetched, Encodes.decode .multiply, execute]
  have plain : (machine.onAccumulator.cycle Queue.channel queue).machine.acc = 961 ∧
      (machine.onAccumulator.cycle Queue.channel queue).machine.pc = 0 := by
    decide +kernel
  obtain ⟨selected, acc, b, -⟩ := registers completed
  exact ⟨rfl, selectsNone, completed, b.trans plain.1, acc, same.pc.trans plain.2, selected⟩

end

end Machine

end LittleMan
