import LittleMan.Proofs.UnreadInput

/-! Runs that starve. A read from an empty queue leaves nothing behind but a program counter
that has moved on, so whoever moves it back and queues more values gets the run that would have
had them from the start. -/

namespace LittleMan.Machine

section

variable {machine starved : Machine} {queue last : Queue} {fuel : Nat}

private theorem pc_le_of_verdict (going : machine.verdict = none) : machine.pc ≤ 999 := by
  unfold verdict at going
  split at going
  · cases going
  · split at going
    · cases going
    next inside => exact Nat.le_of_not_lt inside

/-- What ends a run before a cycle never comes from the channel. -/
theorem verdict_ne_channel (reason : String) :
    machine.verdict ≠ some (.error (.channel reason)) := by
  unfold verdict
  repeat' split
  all_goals simp

/-- A run comes to the cycle that starves as it would with more input, and then takes it. -/
theorem exists_starves_of_resume
    (ended : machine.resume Queue.channel fuel queue =
      ⟨some (.error Queue.starvation), starved, last⟩) :
    ∃ (spent : Nat) (paused : Machine), starved = paused.advance ∧ paused.pc ≤ 999 ∧
      starved.cycles = machine.cycles + spent ∧
      ∀ values more, machine.resume Queue.channel (spent + more) (queue.followedBy values) =
        paused.resume Queue.channel more (last.followedBy values) := by
  fun_induction resume Queue.channel fuel machine queue with
  | case1 fuel machine queue answer stopped =>
    cases ended
    exact absurd stopped (verdict_ne_channel _)
  | case2 => cases ended
  | case3 machine queue going fuel fault final after stepped =>
    cases ended
    have starves := cycle_starved_iff.mp (congrArg Turn.answer stepped)
    cases stepped.symm.trans (cycle_of_starves starves)
    refine ⟨0, machine, rfl, pc_le_of_verdict going, rfl, ?_⟩
    intro values more
    rw [Nat.zero_add]
  | case4 machine queue going fuel _ next after stepped ih =>
    obtain ⟨spent, paused, rfl, inside, counted, same⟩ := ih ended
    have one := (cycle_completed stepped).1
    have fed : ¬machine.Starves queue := by
      intro starves
      cases stepped.symm.trans (cycle_of_starves starves)
    refine ⟨spent + 1, paused, rfl, inside, by omega, ?_⟩
    intro values more
    have regrouped : spent + 1 + more = spent + more + 1 := by omega
    rw [regrouped, resume_succ going, cycle_followedBy fed, stepped]
    exact same values more

private theorem rewind_advance (inside : machine.pc ≤ 999) :
    { machine.advance with pc := (machine.advance.pc + 999) % 1000 } = machine := by
  have back : ((machine.pc + 1) % 1000 + 999) % 1000 = machine.pc := by omega
  simp only [advance, back]

/-- A run that starves can be retried without trace: with the program counter moved back and
more values queued, it goes on as one run from the start with all the values does after the
cycles completed so far. -/
theorem resume_retried
    (ended : machine.resume Queue.channel fuel queue =
      ⟨some (.error Queue.starvation), starved, last⟩) (values : List Int) :
    let retried (more : Nat) := resume Queue.channel more
      { starved with pc := (starved.pc + 999) % 1000 } (values.foldl Queue.push last)
    let whole (fuel : Nat) := machine.resume Queue.channel fuel (queue.followedBy values)
    (∀ more, retried more = whole (starved.cycles - machine.cycles + more)) ∧
      ∀ outcome final after, (∃ more, retried more = ⟨some outcome, final, after⟩) ↔
        ∃ fuel, whole fuel = ⟨some outcome, final, after⟩ := by
  intro retried whole
  obtain ⟨spent, paused, rfl, inside, counted, same⟩ := exists_starves_of_resume ended
  have completed : paused.advance.cycles - machine.cycles = spent := by omega
  have alike (more : Nat) : retried more = whole (spent + more) := by
    simp only [retried, whole, rewind_advance inside, Queue.foldl_push, same]
  rw [completed]
  refine ⟨alike, ?_⟩
  intro outcome final after
  constructor
  · intro ⟨more, ends⟩
    exact ⟨spent + more, (alike more).symm.trans ends⟩
  · intro ⟨fuel, ends⟩
    exact ⟨fuel, (alike fuel).trans (resume_of_le (Nat.le_add_left fuel spent) ends)⟩

end

/-- B is selected when the last cell asks for a value that is not there yet. -/
theorem resume_retried_at_last_cell :
    let memory := ((Memory.empty.write 998 401).write 999 901).write 0 0
    let machine : Machine := { memory, pc := 998, maxCycles := some 3 }
    let starved : Machine := { machine with pc := 0, useB := true, cycles := 1 }
    machine.resume Queue.channel 5 ⟨[], #[]⟩ =
        ⟨some (.error Queue.starvation), starved, ⟨[], #[]⟩⟩ ∧
      resume Queue.channel 5 { starved with pc := 999 } ⟨[7], #[]⟩ =
        machine.resume Queue.channel 6 ⟨[7], #[]⟩ ∧
      (machine.resume Queue.channel 6 ⟨[7], #[]⟩).machine.b = 7 := by
  intro memory machine starved
  have first : memory.read 998 = .ok 401 := by simp [memory, Memory.read, Memory.get_write]
  have second : memory.read 999 = .ok 901 := by simp [memory, Memory.read, Memory.get_write]
  have ended : machine.resume Queue.channel 5 ⟨[], #[]⟩ =
      ⟨some (.error Queue.starvation), starved, ⟨[], #[]⟩⟩ := by
    simp [resume, verdict, advance, machine, starved, cycle, first, second, Encodes.decode .useB,
      Encodes.decode .input, execute, complete, writeBack, working, showCycle, Queue.read,
      Queue.starvation]
  have retried := (resume_retried ended [7]).1 5
  have back : (starved.pc + 999) % 1000 = 999 := by simp [starved]
  have spent : starved.cycles - machine.cycles + 5 = 6 := by simp [starved, machine]
  rw [back, spent] at retried
  exact ⟨ended, retried, by decide +kernel⟩

end LittleMan.Machine
