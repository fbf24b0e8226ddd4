import LittleMan.Channel.Log
import LittleMan.Proofs.Resumption

/-! Machines on different channels. A machine learns about its world only from what the channel
answers, so two channels that answer alike, each in its own world, take a machine through the
same states for as long as they do. -/

namespace LittleMan

variable {World Other Answer : Type}

structure Alike (matched : World → Other → Prop) (first : Answer × World)
    (second : Answer × Other) : Prop where
  answer : first.1 = second.1
  world : matched first.2 second.2

structure Turn.Alike (matched : World → Other → Prop) (first : Turn Answer World)
    (second : Turn Answer Other) : Prop where
  answer : first.answer = second.answer
  machine : first.machine = second.machine
  world : matched first.world second.world

theorem Alike.exists_eq {matched : World → Other → Prop} {first : Answer × World}
    {second : Answer × Other} (alike : Alike matched first second) :
    ∃ answer told heard, first = (answer, told) ∧ second = (answer, heard) ∧
      matched told heard :=
  ⟨first.1, first.2, second.2, rfl, Prod.ext alike.answer.symm rfl, alike.world⟩

theorem Turn.Alike.exists_eq {matched : World → Other → Prop} {first : Turn Answer World}
    {second : Turn Answer Other} (alike : first.Alike matched second) :
    ∃ answer machine told heard, first = ⟨answer, machine, told⟩ ∧
      second = ⟨answer, machine, heard⟩ ∧ matched told heard := by
  obtain ⟨answer, machine, told⟩ := first
  obtain ⟨again, same, heard⟩ := second
  obtain ⟨rfl, rfl, worlds⟩ := alike
  exact ⟨_, _, _, _, rfl, rfl, worlds⟩

def AnswerAlike (first : Channel World) (second : Channel Other) (matched : World → Other → Prop)
    (instruction : Instruction) (working : Nat) (world : World) (other : Other) : Prop :=
  match instruction with
  | .input => Alike matched (first.ask world) (second.ask other)
  | .output => Alike matched (first.tell working world) (second.tell working other)
  | .device operand =>
    Alike matched (first.device operand working world) (second.device operand working other)
  | _ => matched world other

/-- Whatever is asked in worlds that match is answered alike. -/
structure Channel.Mirrors (first : Channel World) (second : Channel Other)
    (matched : World → Other → Prop) : Prop where
  ask : ∀ world other, matched world other → Alike matched (first.ask world) (second.ask other)
  tell : ∀ word world other, matched world other →
    Alike matched (first.tell word world) (second.tell word other)
  device : ∀ operand working world other, matched world other →
    Alike matched (first.device operand working world) (second.device operand working other)
  trace : ∀ entry world other, matched world other →
    matched (first.trace entry world) (second.trace entry other)

section

variable {first : Channel World} {second : Channel Other} {matched : World → Other → Prop}
  {instruction : Instruction} {working : Nat} {machine : Machine} {world : World} {other : Other}

theorem Channel.Mirrors.answerAlike (mirrors : first.Mirrors second matched)
    (start : matched world other) (instruction : Instruction) (working : Nat) :
    AnswerAlike first second matched instruction working world other := by
  cases instruction with
  | input => exact mirrors.ask world other start
  | output => exact mirrors.tell working world other start
  | device operand => exact mirrors.device operand working world other start
  | _ => exact start

namespace Machine

private theorem execute_alike
    (alike : AnswerAlike first second matched instruction working world other) :
    Alike matched (machine.execute first instruction working world)
      (machine.execute second instruction working other) := by
  cases instruction with
  | input =>
    obtain ⟨answer, told, heard, one, two, worlds⟩ := Alike.exists_eq alike
    simp only [execute, one, two]
    cases answer with
    | error fault => exact ⟨rfl, worlds⟩
    | ok value =>
      dsimp only
      split <;> exact ⟨rfl, worlds⟩
  | output =>
    obtain ⟨answer, told, heard, one, two, worlds⟩ := Alike.exists_eq alike
    simp only [execute, one, two]
    cases answer <;> exact ⟨rfl, worlds⟩
  | device operand =>
    obtain ⟨answer, told, heard, one, two, worlds⟩ := Alike.exists_eq alike
    simp only [execute, one, two]
    rcases answer with _ | _ | _ <;> exact ⟨rfl, worlds⟩
  | divide =>
    simp only [execute]
    split <;> exact ⟨rfl, alike⟩
  | _ => exact ⟨rfl, alike⟩

private theorem showCycle_alike
    (shown : ∀ entry world other, matched world other →
      matched (first.trace entry world) (second.trace entry other))
    (start : matched world other) (address word : Nat) :
    matched (machine.showCycle first address word world)
      (machine.showCycle second address word other) := by
  unfold showCycle
  split
  · exact shown _ _ _ start
  · exact start

/-- A cycle goes the same way where the fetched instruction is answered alike. -/
theorem cycle_alike
    (shown : ∀ entry world other, matched world other →
      matched (first.trace entry world) (second.trace entry other))
    (start : matched world other)
    (alike : ∀ word, machine.memory.read machine.pc = .ok word →
      AnswerAlike first second matched (.decode word) machine.working world other) :
    (machine.cycle first world).Alike matched (machine.cycle second other) := by
  cases fetched : machine.memory.read machine.pc with
  | error fault =>
    rw [cycle_of_unmapped fetched, cycle_of_unmapped fetched]
    exact ⟨rfl, rfl, start⟩
  | ok word =>
    have executed : Alike matched
        (machine.advance.execute first (.decode word) machine.working world)
        (machine.advance.execute second (.decode word) machine.working other) :=
      execute_alike (alike word fetched)
    obtain ⟨outcome, told, heard, one, two, worlds⟩ := executed.exists_eq
    cases outcome with
    | error fault =>
      rw [cycle_of_failed fetched one, cycle_of_failed fetched two]
      exact ⟨rfl, rfl, worlds⟩
    | ok done =>
      rw [cycle_of_executed fetched one, cycle_of_executed fetched two]
      exact ⟨rfl, rfl, showCycle_alike shown worlds _ _⟩

end Machine

namespace Channel.Mirrors

variable (mirrors : first.Mirrors second matched) (start : matched world other)

include mirrors start

private theorem cycle (machine : Machine) :
    (machine.cycle first world).Alike matched (machine.cycle second other) :=
  Machine.cycle_alike mirrors.trace start fun word _ => mirrors.answerAlike start (.decode word) _

theorem cycleEach (machine : Machine) (count : Nat) :
    (machine.cycleEach first count world).Alike matched
      (machine.cycleEach second count other) := by
  induction count with
  | zero => exact ⟨rfl, rfl, start⟩
  | succ count ih =>
    have last := mirrors.cycle ih.world (machine.cycleEach first count world).machine
    simp only [Machine.cycleEach, ← ih.answer, ← ih.machine]
    exact ⟨by rw [last.answer], last.machine, last.world⟩

theorem resume (machine : Machine) (fuel : Nat) :
    (machine.resume first fuel world).Alike matched (machine.resume second fuel other) := by
  fun_induction Machine.resume first fuel machine world generalizing other with
  | case1 fuel machine world answer ended =>
    rw [Machine.resume_of_verdict ended]
    exact ⟨rfl, rfl, start⟩
  | case2 machine world going =>
    rw [Machine.resume_zero going]
    exact ⟨rfl, rfl, start⟩
  | case3 machine world going fuel fault final after stepped =>
    obtain ⟨answer, _, told, heard, one, two, worlds⟩ := (mirrors.cycle start machine).exists_eq
    cases stepped.symm.trans one
    rw [Machine.resume_succ going, two]
    exact ⟨rfl, rfl, worlds⟩
  | case4 machine world going fuel _ next after stepped ih =>
    obtain ⟨answer, _, told, heard, one, two, worlds⟩ := (mirrors.cycle start machine).exists_eq
    cases stepped.symm.trans one
    rw [Machine.resume_succ going, two]
    exact ih worlds

/-- Runs on both channels are the same number of cycles. -/
theorem exists_cycleEach_of_resume (machine : Machine) (fuel : Nat) :
    ∃ count ≤ fuel,
      ((machine.resume first fuel world).machine = (machine.cycleEach first count world).machine ∧
        (machine.resume first fuel world).world = (machine.cycleEach first count world).world) ∧
      (machine.resume second fuel other).machine = (machine.cycleEach second count other).machine ∧
        (machine.resume second fuel other).world = (machine.cycleEach second count other).world := by
  fun_induction Machine.resume first fuel machine world generalizing other with
  | case1 fuel machine world answer ended =>
    rw [Machine.resume_of_verdict ended]
    exact ⟨0, Nat.zero_le fuel, ⟨rfl, rfl⟩, rfl, rfl⟩
  | case2 machine world going =>
    rw [Machine.resume_zero going]
    exact ⟨0, Nat.le_refl 0, ⟨rfl, rfl⟩, rfl, rfl⟩
  | case3 machine world going fuel fault final after stepped =>
    obtain ⟨answer, _, told, heard, one, two, worlds⟩ := (mirrors.cycle start machine).exists_eq
    cases stepped.symm.trans one
    rw [Machine.resume_succ going, two]
    refine ⟨1, Nat.succ_pos fuel, ?_⟩
    rw [Machine.cycleEach_succ_first, Machine.cycleEach_succ_first, stepped, two]
    exact ⟨⟨rfl, rfl⟩, rfl, rfl⟩
  | case4 machine world going fuel _ next after stepped ih =>
    obtain ⟨answer, _, told, heard, one, two, worlds⟩ := (mirrors.cycle start machine).exists_eq
    cases stepped.symm.trans one
    obtain ⟨count, small, here, there⟩ := ih worlds
    rw [Machine.resume_succ going, two]
    refine ⟨count + 1, Nat.succ_le_succ small, ?_⟩
    rw [Machine.cycleEach_succ_first, Machine.cycleEach_succ_first, stepped, two]
    exact ⟨here, there⟩

end Channel.Mirrors

end

theorem Channel.mirrors_self (channel : Channel World) : channel.Mirrors channel Eq where
  ask := by
    intro world _ same
    cases same
    exact ⟨rfl, rfl⟩
  tell := by
    intro word world _ same
    cases same
    exact ⟨rfl, rfl⟩
  device := by
    intro operand working world _ same
    cases same
    exact ⟨rfl, rfl⟩
  trace entry _ _ same := congrArg (channel.trace entry) same

/-- A run is a number of cycles. -/
theorem Machine.exists_cycleEach_of_resume (channel : Channel World) (machine : Machine)
    (fuel : Nat) (world : World) : ∃ count ≤ fuel,
      (machine.resume channel fuel world).machine = (machine.cycleEach channel count world).machine ∧
        (machine.resume channel fuel world).world =
          (machine.cycleEach channel count world).world := by
  obtain ⟨count, small, same, -⟩ :=
    channel.mirrors_self.exists_cycleEach_of_resume rfl machine fuel
  exact ⟨count, small, same⟩

/-- A log of its calls changes nothing in what a channel does. -/
theorem Channel.mirrors_logged (channel : Channel World) :
    channel.logged.Mirrors channel fun state world => state.1 = world where
  ask := by
    intro state _ same
    cases same
    cases typed : channel.inputInteractive state.1 <;>
      exact ⟨by simp [ask, logged, typed], by simp [ask, logged, typed]⟩
  tell := by
    intro word state _ same
    cases same
    cases watched : channel.outputInteractive state.1 <;>
      exact ⟨by simp [tell, logged, watched], by simp [tell, logged, watched]⟩
  device := by
    intro operand working state _ same
    cases same
    exact ⟨rfl, rfl⟩
  trace entry _ _ same := congrArg (channel.trace entry) same

namespace Machine

variable (channel : Channel World) (machine : Machine) (world : World) (log : Array Call)

theorem cycleEach_logged_alike (count : Nat) :
    (machine.cycleEach channel.logged count (world, log)).Alike (fun state world => state.1 = world)
      (machine.cycleEach channel count world) :=
  channel.mirrors_logged.cycleEach rfl machine count

theorem resume_logged_alike (fuel : Nat) :
    (machine.resume channel.logged fuel (world, log)).Alike (fun state world => state.1 = world)
      (machine.resume channel fuel world) :=
  channel.mirrors_logged.resume rfl machine fuel

end Machine

end LittleMan
