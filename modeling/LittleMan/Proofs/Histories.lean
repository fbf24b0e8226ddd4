import LittleMan.Channel.Queue
import LittleMan.Proofs.Invariant
import LittleMan.Proofs.Loading
import Mathlib.Data.List.Induction

/-! Machines under any history of operations. What is out of the ordinary in a history, such
as a channel with strange values, a failed cycle or a text that cannot be loaded, never puts a
number beyond a word into a register or a cell. -/

namespace LittleMan

/-- What can be done with a machine and its memory. The fuel of a run bounds how long it is
watched: a run that has not ended is one among the states reached. -/
inductive Operation where
  | cycle
  | resume (fuel : Nat)
  | run (fuel start : Nat)
  | setPc (pc : Nat)
  | setMaxCycles (limit : Option Nat)
  | setTrace (shown : Bool)
  | load (text : String)
  | write (address word : Fin 1000)

namespace Operation

def target : Operation → Option Nat
  | run _ start => some start
  | setPc pc => some pc
  | _ => none

variable {World : Type} (channel : Channel World)

def perform (state : Machine × World) : Operation → Machine × World
  | cycle =>
    let turn := state.1.cycle channel state.2
    (turn.machine, turn.world)
  | resume fuel =>
    let turn := state.1.resume channel fuel state.2
    (turn.machine, turn.world)
  | run fuel start =>
    let turn := state.1.run channel fuel start state.2
    (turn.machine, turn.world)
  | setPc pc => ({ state.1 with pc := pc }, state.2)
  | setMaxCycles limit => ({ state.1 with maxCycles := limit }, state.2)
  | setTrace shown => ({ state.1 with trace := shown }, state.2)
  | load text => ({ state.1 with memory := (Program.load text state.1.memory).2 }, state.2)
  | write address word => ({ state.1 with memory := state.1.memory.write address word }, state.2)

def performAll (state : Machine × World) (history : List Operation) : Machine × World :=
  history.foldl (perform channel) state

private theorem performAll_concat (state : Machine × World) (history : List Operation)
    (operation : Operation) :
    performAll channel state (history ++ [operation]) =
      perform channel (performAll channel state history) operation := by
  simp [performAll]

/-- The last jump of a history was to an address, and no cycle has completed since. -/
def JumpedTo (start : Machine × World) (history : List Operation) (address : Nat) : Prop :=
  ∃ earlier jump later, history = earlier ++ jump :: later ∧ jump.target = some address ∧
    (∀ operation ∈ later, operation.target = none) ∧
    (performAll channel start history).1.cycles = (performAll channel start earlier).1.cycles

section

variable {channel} {start state : Machine × World} {operation : Operation}

private theorem perform_sound (sound : state.1.Sound) :
    (perform channel state operation).1.Sound := by
  cases operation with
  | cycle => exact sound.cycle
  | resume fuel => exact sound.resume fuel
  | run fuel start =>
    have placed : Machine.Sound { state.1 with pc := start } :=
      ⟨⟨sound.words.memory, sound.words.acc, sound.words.b⟩, sound.flags⟩
    exact placed.resume fuel
  | setPc | setMaxCycles | setTrace =>
    exact ⟨⟨sound.words.memory, sound.words.acc, sound.words.b⟩, sound.flags⟩
  | load text =>
    have loaded : (Program.load text state.1.memory).2.HoldsWords :=
      Program.load_preserves (fun _ address _ words _ _ small => words.write address small)
        sound.words.memory text
    exact ⟨⟨loaded, sound.words.acc, sound.words.b⟩, sound.flags⟩
  | write address word =>
    exact ⟨⟨sound.words.memory.write _ (Nat.le_of_lt_succ word.isLt), sound.words.acc,
      sound.words.b⟩, sound.flags⟩

theorem performAll_sound (sound : start.1.Sound) (history : List Operation) :
    (performAll channel start history).1.Sound := by
  induction history using List.reverseRecOn with
  | nil => exact sound
  | append_singleton history operation ih =>
    rw [performAll_concat]
    exact perform_sound ih

/-- An operation that does not bring the program counter into memory has completed no cycle,
and it jumps or leaves the program counter alone. -/
theorem perform_pc : (perform channel state operation).1.pc ≤ 999 ∨
    ((perform channel state operation).1.cycles = state.1.cycles ∧
      (operation.target = some (perform channel state operation).1.pc ∨
        operation.target = none ∧ (perform channel state operation).1.pc = state.1.pc)) := by
  cases operation with
  | cycle =>
    rcases Machine.cycle_pc channel state.1 state.2 with inside | same
    · exact .inl inside
    · exact .inr ⟨congrArg Machine.cycles same, .inr ⟨rfl, congrArg Machine.pc same⟩⟩
  | resume fuel =>
    rcases Machine.resume_pc fuel with inside | same
    · exact .inl inside
    · exact .inr ⟨congrArg Machine.cycles same, .inr ⟨rfl, congrArg Machine.pc same⟩⟩
  | run fuel start =>
    rcases Machine.resume_pc fuel with inside | same
    · exact .inl inside
    · have placed : (perform channel state (run fuel start)).1 = { state.1 with pc := start } :=
        same
      rw [placed]
      exact .inr ⟨rfl, .inl rfl⟩
  | setPc pc => exact .inr ⟨rfl, .inl rfl⟩
  | setMaxCycles | setTrace | load | write => exact .inr ⟨rfl, .inr ⟨rfl, rfl⟩⟩

private theorem performAll_pc (inside : start.1.pc ≤ 999) (history : List Operation) :
    (performAll channel start history).1.pc ≤ 999 ∨
      JumpedTo channel start history (performAll channel start history).1.pc := by
  induction history using List.reverseRecOn with
  | nil => exact .inl inside
  | append_singleton history operation ih =>
    rcases perform_pc with moved | ⟨counted, jumped | ⟨stays, same⟩⟩
    · rw [performAll_concat]
      exact .inl moved
    · refine .inr ⟨history, operation, [], rfl, ?_, by simp, ?_⟩
      · rwa [performAll_concat]
      · rw [performAll_concat, counted]
    · -- The last jump stays the same one, and still nothing has completed since.
      rw [performAll_concat, same]
      rcases ih with stayed | ⟨earlier, jump, later, rfl, target, quiet, uncounted⟩
      · exact .inl stayed
      · refine .inr ⟨earlier, jump, later ++ [operation], by simp, target, ?_, ?_⟩
        · intro other member
          rcases List.mem_append.mp member with before | last
          · exact quiet other before
          · rwa [List.mem_singleton.mp last]
        · rw [performAll_concat, counted, uncounted]

end

end Operation

/-- No history of operations, with any channel, takes a register or a cell beyond a word, and
the program counter leaves memory only by a jump there. -/
theorem reachable_in_range {World : Type} (channel : Channel World) {memory : Memory}
    (words : memory.HoldsWords) (world : World) (history : List Operation) :
    let start : Machine × World := ({ memory }, world)
    let machine := (Operation.performAll channel start history).1
    machine.acc ≤ 999 ∧ machine.b ≤ 999 ∧ machine.memory.HoldsWords ∧
      (machine.flags.zero = true → machine.flags.positive = true) ∧
      (machine.pc ≤ 999 ∨ Operation.JumpedTo channel start history machine.pc) := by
  intro start machine
  have sound : machine.Sound := Operation.performAll_sound (.initial words) history
  exact ⟨sound.words.acc, sound.words.b, sound.words.memory, sound.flags,
    Operation.performAll_pc (Nat.zero_le _) history⟩

/-- A number that is no word is refused, and a jump beyond memory is all that remains of it. -/
theorem reachable_in_range_after_jump :
    let memory := Memory.empty.write 0 901
    let world : Queue := ⟨[-1], #[]⟩
    let history := [Operation.cycle, .setPc 1000, .resume 5]
    memory.HoldsWords ∧
      (Operation.performAll Queue.channel ({ memory }, world) history).1.pc = 1000 ∧
      Operation.JumpedTo Queue.channel ({ memory }, world) history 1000 := by
  intro memory world history
  have words : memory.HoldsWords := Memory.HoldsWords.empty.write 0 (by decide)
  have outside : (Operation.performAll Queue.channel ({ memory }, world) history).1.pc = 1000 := by
    decide +kernel
  obtain ⟨-, -, -, -, reached⟩ := reachable_in_range Queue.channel words world history
  simp only [outside, Nat.reduceLeDiff, false_or] at reached
  exact ⟨words, outside, reached⟩

end LittleMan
