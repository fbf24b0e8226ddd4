import LittleMan.Proofs.CycleFrame
import LittleMan.Run

/-! Runs as iterated cycles. A run follows the plain iteration of cycles for as long as
nothing ends it, so what a cycle keeps is kept by a run of any length. -/

namespace LittleMan.Machine

/-- Cycles a number of times, up to the first fault. Neither the budget nor a halt is
looked at in between. -/
def cycleTimes {World : Type} (channel : Channel World) (count : Nat) (machine : Machine)
    (world : World) : Turn (Except Fault Unit) World :=
  -- The recursion is on the last cycle, so a longer iteration extends a shorter one.
  match count with
  | 0 => ⟨.ok (), machine, world⟩
  | count + 1 =>
    match cycleTimes channel count machine world with
    | ⟨.ok _, machine, world⟩ => cycle channel machine world
    | failed => failed

/-- Cycles a number of times whether or not they complete, and answers what each of them
answers. -/
def cycleEach {World : Type} (channel : Channel World) (count : Nat) (machine : Machine)
    (world : World) : Turn (List (Except Fault Unit)) World :=
  match count with
  | 0 => ⟨[], machine, world⟩
  | count + 1 =>
    let earlier := cycleEach channel count machine world
    let turn := cycle channel earlier.machine earlier.world
    ⟨earlier.answer ++ [turn.answer], turn.machine, turn.world⟩

section

variable {World : Type} {channel : Channel World} {machine middle : Machine}
  {world current : World} {count : Nat}

theorem cycleTimes_succ
    (completed : machine.cycleTimes channel count world = ⟨.ok (), middle, current⟩) :
    machine.cycleTimes channel (count + 1) world = middle.cycle channel current := by
  rw [cycleTimes, completed]

theorem cycleTimes_split {final : Machine} {last : World}
    (completed : machine.cycleTimes channel (count + 1) world = ⟨.ok (), final, last⟩) :
    ∃ middle current, machine.cycleTimes channel count world = ⟨.ok (), middle, current⟩ ∧
      middle.cycle channel current = ⟨.ok (), final, last⟩ := by
  rw [cycleTimes] at completed
  split at completed
  next middle current stepped => exact ⟨middle, current, stepped, completed⟩
  next failed => exact absurd completed (failed () final last)

/-- Completed cycles are counted, leave the budget alone and keep the program counter inside
memory. -/
theorem cycleTimes_completed
    (completed : machine.cycleTimes channel count world = ⟨.ok (), middle, current⟩) :
    middle.cycles = machine.cycles + count ∧ middle.maxCycles = machine.maxCycles ∧
      (machine.pc ≤ 999 → middle.pc ≤ 999) := by
  induction count generalizing middle current with
  | zero =>
    cases completed
    exact ⟨rfl, rfl, id⟩
  | succ count ih =>
    obtain ⟨earlier, before, prior, stepped⟩ := cycleTimes_split completed
    obtain ⟨counted, budget, -⟩ := ih prior
    obtain ⟨one, inside⟩ := cycle_completed stepped
    have same : middle.maxCycles = earlier.maxCycles := by
      have kept := cycle_maxCycles channel earlier before
      rwa [stepped] at kept
    exact ⟨by omega, same.trans budget, fun _ => inside⟩

/-- Cycles a number of times by the first cycle and the others after it. -/
theorem cycleEach_succ_first (count : Nat) :
    machine.cycleEach channel (count + 1) world =
      let first := machine.cycle channel world
      let later := first.machine.cycleEach channel count first.world
      ⟨first.answer :: later.answer, later.machine, later.world⟩ := by
  induction count with
  | zero => rfl
  | succ count ih =>
    rw [cycleEach, ih]
    rfl

/-- A run reaches what the iteration reaches if nothing ends it on the way. -/
theorem resume_cycleTimes
    (completed : machine.cycleTimes channel count world = ⟨.ok (), middle, current⟩)
    (going : ∀ earlier < count, ∀ state before,
      machine.cycleTimes channel earlier world = ⟨.ok (), state, before⟩ → state.verdict = none)
    (fuel : Nat) :
    machine.resume channel (count + fuel) world = middle.resume channel fuel current := by
  induction count generalizing middle current fuel with
  | zero =>
    cases completed
    rw [Nat.zero_add]
  | succ count ih =>
    obtain ⟨earlier, before, prior, stepped⟩ := cycleTimes_split completed
    have reached := ih prior (fun index inside => going index (by omega)) (fuel + 1)
    have next : count + 1 + fuel = count + (fuel + 1) := by omega
    rw [next, reached, resume_succ (going count (by omega) _ _ prior), stepped]

/-- What a cycle keeps is kept by a run, however it ends. -/
theorem resume_preserves (invariant : Machine → World → Prop)
    (kept : ∀ machine world, invariant machine world →
      invariant (machine.cycle channel world).machine (machine.cycle channel world).world)
    (fuel : Nat) (holds : invariant machine world) :
    invariant (machine.resume channel fuel world).machine
      (machine.resume channel fuel world).world := by
  induction fuel generalizing machine world with
  | zero =>
    cases ended : machine.verdict with
    | some answer => rwa [resume_of_verdict ended]
    | none => rwa [resume_zero ended]
  | succ fuel ih =>
    cases ended : machine.verdict with
    | some answer => rwa [resume_of_verdict ended]
    | none =>
      have next := kept machine world holds
      rw [resume_succ ended]
      match stepped : machine.cycle channel world with
      | ⟨.error fault, final, last⟩ => rwa [stepped] at next
      | ⟨.ok _, final, last⟩ =>
        rw [stepped] at next
        exact ih next

/-- A run that ends, ends the same way with fuel to spare. -/
theorem resume_of_le {fuel more : Nat} (enough : fuel ≤ more) {outcome : Except Fault Unit}
    {final : Machine} {last : World}
    (ended : machine.resume channel fuel world = ⟨some outcome, final, last⟩) :
    machine.resume channel more world = ⟨some outcome, final, last⟩ := by
  induction fuel generalizing machine world more with
  | zero =>
    cases stopped : machine.verdict with
    | some answer => rwa [resume_of_verdict stopped] at ended ⊢
    | none =>
      rw [resume_zero stopped] at ended
      cases ended
  | succ fuel ih =>
    cases stopped : machine.verdict with
    | some answer => rwa [resume_of_verdict stopped] at ended ⊢
    | none =>
      obtain ⟨more, rfl⟩ : ∃ rest, more = rest + 1 := ⟨more - 1, by omega⟩
      rw [resume_succ stopped] at ended ⊢
      match stepped : machine.cycle channel world with
      | ⟨.error fault, failed, after⟩ => rwa [stepped] at ended
      | ⟨.ok _, next, after⟩ =>
        rw [stepped] at ended
        exact ih (Nat.le_of_succ_le_succ enough) ended

end

end LittleMan.Machine
