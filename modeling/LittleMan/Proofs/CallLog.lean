import LittleMan.Proofs.ChannelAgreement

/-! What is in a call log. Only the instructions of class 9 call the channel, so the log of a run is
made up of the calls of its cycles, and the calls of a cycle follow from the word that it fetches. -/

namespace LittleMan

variable {World : Type}

def Instruction.calls (channel : Channel World) (instruction : Instruction) (working : Nat)
    (world : World) : List Call :=
  match instruction with
  | .input =>
    (if channel.inputInteractive world then [.prompt "in? "] else []) ++
      [.read (channel.ask world).1]
  | .output =>
    (if channel.outputInteractive world then [.prompt "out="] else []) ++
      [.write working (channel.tell working world).1]
  | .device operand => [.device operand working (channel.device operand working world).1]
  | _ => []

def Machine.calls (channel : Channel World) (machine : Machine) (world : World) : List Call :=
  match machine.memory.get machine.pc with
  | some word => (Instruction.decode word).calls channel machine.working world
  | none => []

/-- Channels that answer alike do so with a log. -/
theorem Channel.Mirrors.logged {Other : Type} {first : Channel World} {second : Channel Other}
    {matched : World → Other → Prop} (mirrors : first.Mirrors second matched) :
    first.logged.Mirrors second.logged fun state other => matched state.1 other.1 where
  ask state other start := by
    have one := first.mirrors_logged.ask state state.1 rfl
    have two := second.mirrors_logged.ask other other.1 rfl
    have alike := mirrors.ask state.1 other.1 start
    refine ⟨one.answer.trans (alike.answer.trans two.answer.symm), ?_⟩
    rw [one.world, two.world]
    exact alike.world
  tell word state other start := by
    have one := first.mirrors_logged.tell word state state.1 rfl
    have two := second.mirrors_logged.tell word other other.1 rfl
    have alike := mirrors.tell word state.1 other.1 start
    refine ⟨one.answer.trans (alike.answer.trans two.answer.symm), ?_⟩
    rw [one.world, two.world]
    exact alike.world
  device operand working state other start := by
    have alike := mirrors.device operand working state.1 other.1 start
    exact ⟨alike.answer, alike.world⟩
  trace entry state other start := mirrors.trace entry state.1 other.1 start

namespace Machine

section

variable (channel : Channel World) (instruction : Instruction) (working : Nat) (machine : Machine)
  (world : World)

/-- What an instruction makes of the world, whether or not it succeeds. -/
theorem execute_world : (machine.execute channel instruction working world).2 =
    match instruction with
    | .input => (channel.ask world).2
    | .output => (channel.tell working world).2
    | .device operand => (channel.device operand working world).2
    | _ => world := by
  cases instruction with
  | input =>
    rcases asked : channel.ask world with ⟨fault | value, told⟩
    · simp only [execute, asked]
    · simp only [execute, asked]
      split <;> rfl
  | output =>
    rcases told : channel.tell working world with ⟨fault | _, after⟩ <;> simp only [execute, told]
  | device operand =>
    rcases answered : channel.device operand working world with ⟨_ | _ | _, after⟩ <;>
      simp only [execute, answered]
  | divide =>
    simp only [execute]
    split <;> rfl
  | _ => rfl

private theorem execute_logged (log : Array Call) :
    (machine.execute channel.logged instruction working (world, log)).2.2.toList =
      log.toList ++ instruction.calls channel working world := by
  rw [execute_world]
  cases instruction with
  | input =>
    cases typed : channel.inputInteractive world <;>
      simp [Channel.ask, Channel.logged, Instruction.calls, typed]
  | output =>
    cases watched : channel.outputInteractive world <;>
      simp [Channel.tell, Channel.logged, Instruction.calls, watched]
  | device operand => exact Array.toList_push
  | _ => exact (List.append_nil _).symm

theorem showCycle_logged (address word : Nat) (log : Array Call) :
    (showCycle channel.logged address word machine (world, log)).2 = log := by
  unfold showCycle
  split <;> rfl

private theorem cycle_logged (log : Array Call) :
    (machine.cycle channel.logged (world, log)).world.2.toList =
      log.toList ++ machine.calls channel world := by
  obtain ⟨fault, unread, failed⟩ | ⟨word, fault, after, fetched, refused, failed⟩ |
    ⟨word, executed, result, after, fetched, performed, done⟩ :=
      cycle_cases channel.logged machine (world, log)
  · rw [failed, calls, Memory.get_of_read_error unread]
    exact (List.append_nil _).symm
  · have called := execute_logged channel (.decode word) machine.working machine.advance world log
    rw [refused] at called
    rw [failed, calls, Memory.read_eq_ok_iff.mp fetched]
    exact called
  · have called := execute_logged channel (.decode word) machine.working machine.advance world log
    rw [performed] at called
    rw [done, calls, Memory.read_eq_ok_iff.mp fetched]
    dsimp only
    rw [showCycle_logged]
    exact called

/-- The log of a number of cycles is what each of them calls. -/
theorem cycleEach_logged (log : Array Call) (count : Nat) :
    (machine.cycleEach channel.logged count (world, log)).world.2.toList =
      log.toList ++ (List.range count).flatMap fun index =>
        let reached := machine.cycleEach channel index world
        reached.machine.calls channel reached.world := by
  induction count with
  | zero => exact (List.append_nil _).symm
  | succ count ih =>
    obtain ⟨answers, reached, ⟨told, made⟩, _, one, two, rfl⟩ :=
      (cycleEach_logged_alike channel machine world log count).exists_eq
    rw [one] at ih
    rw [cycleEach, one, List.range_succ, List.flatMap_append, ← List.append_assoc, ← ih,
      List.flatMap_singleton, two]
    exact cycle_logged channel reached told made

end

end Machine

end LittleMan
