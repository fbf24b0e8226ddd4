import LittleMan.Cycle

/-! Runs: cycles until the machine halts, a fault stops it or its cycle budget is used
up. A run takes fuel; it answers `none` when the fuel ends first, so that an
unfinished run is told apart from a finished one. -/

namespace LittleMan.Machine

/-- How a run ends before the next cycle, if it does. -/
def verdict (machine : Machine) : Option (Except Fault Unit) :=
  if machine.halted then some (.ok ())
  else if 999 < machine.pc then some (.error (.programCounterOutOfRange machine.pc))
  else match machine.maxCycles with
    | none => none
    | some limit => if limit ≤ machine.cycles then some (.error (.cycleLimit limit)) else none

/-- Cycles from the current program counter. -/
def resume {World : Type} (channel : Channel World) (fuel : Nat) (machine : Machine)
    (world : World) : Turn (Option (Except Fault Unit)) World :=
  match machine.verdict with
  | some answer => ⟨some answer, machine, world⟩
  | none =>
    match fuel with
    | 0 => ⟨none, machine, world⟩
    | fuel + 1 =>
      match cycle channel machine world with
      | ⟨.error fault, machine, world⟩ => ⟨some (.error fault), machine, world⟩
      | ⟨.ok _, machine, world⟩ => resume channel fuel machine world

/-- Cycles from a given address. -/
def run {World : Type} (channel : Channel World) (fuel start : Nat) (machine : Machine)
    (world : World) : Turn (Option (Except Fault Unit)) World :=
  resume channel fuel { machine with pc := start } world

section

variable {World : Type} {channel : Channel World} {machine : Machine} {world : World}

theorem resume_of_verdict {answer : Except Fault Unit} (ended : machine.verdict = some answer)
    (fuel : Nat) : machine.resume channel fuel world = ⟨some answer, machine, world⟩ := by
  unfold resume
  simp only [ended]

theorem resume_zero (going : machine.verdict = none) :
    machine.resume channel 0 world = ⟨none, machine, world⟩ := by
  unfold resume
  simp only [going]

theorem resume_succ (going : machine.verdict = none) (fuel : Nat) :
    machine.resume channel (fuel + 1) world =
      match machine.cycle channel world with
      | ⟨.error fault, machine, world⟩ => ⟨some (.error fault), machine, world⟩
      | ⟨.ok _, machine, world⟩ => resume channel fuel machine world := by
  rw [resume]
  simp only [going]

end

end LittleMan.Machine
