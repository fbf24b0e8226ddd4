import LittleMan.Channel.Bench
import LittleMan.Proofs.CycleBudget
import LittleMan.Proofs.Settings

/-! Runs cut into slices by their budget. Whoever goes on after each stop for want of budget
sees what one run under the last budget shows. A channel that records its calls does so in
its world, so worlds that agree have been asked the same things in the same order. -/

namespace LittleMan.Machine

def withBudget (machine : Machine) (budget : Option Nat) : Machine :=
  { machine with maxCycles := budget }

/-- Runs under each of the budgets in turn, and at the end under the last one. A run that
reports a cycle limit is gone on with, and any other end is final. -/
def resumeSliced {World : Type} (channel : Channel World) (fuel : Nat) (last : Option Nat)
    (budgets : List Nat) (machine : Machine) (world : World) :
    Turn (Option (Except Fault Unit)) World :=
  match budgets with
  | [] => (machine.withBudget last).resume channel fuel world
  | limit :: budgets =>
    match (machine.withBudget (some limit)).resume channel fuel world with
    | ⟨some (.error (.cycleLimit _)), machine, world⟩ =>
      resumeSliced channel fuel last budgets machine world
    | stopped => stopped

section

variable {World : Type} {channel : Channel World} {machine final : Machine}
  {world after : World} {outcome : Except Fault Unit} {fuel limit : Nat} {last : Option Nat}

private theorem invisible_withBudget (budget : Option Nat) :
    Invisible fun machine => machine.withBudget budget where
  unseen machine := by
    constructor <;> intros <;> rfl
  pc _ := rfl
  acc _ := rfl
  useB _ := rfl
  keepsUseB _ := rfl
  completes state instruction onB result := by
    simp only [complete, writeBack]
    split <;> rfl

private theorem cycle_withBudget (channel : Channel World) (machine : Machine) (world : World)
    (budget : Option Nat) :
    (machine.withBudget budget).cycle channel world =
      ⟨(machine.cycle channel world).answer,
        (machine.cycle channel world).machine.withBudget budget,
        (machine.cycle channel world).world⟩ :=
  (invisible_withBudget budget).cycle (fun _ _ _ _ => rfl) machine world

/-- Before a cycle, every budget ends a run alike, a smaller budget alone ends it, or neither
it nor a larger one does. -/
theorem verdict_withBudget (machine : Machine)
    (bounded : ∀ bound, last = some bound → limit ≤ bound) :
    (∃ answer, (∀ bound, answer ≠ .error (.cycleLimit bound)) ∧
      ∀ budget, (machine.withBudget budget).verdict = some answer) ∨
    (machine.withBudget (some limit)).verdict = some (.error (.cycleLimit limit)) ∨
    (machine.cycles < limit ∧ (machine.withBudget (some limit)).verdict = none ∧
      (machine.withBudget last).verdict = none) := by
  cases active : machine.halted with
  | true => exact .inl ⟨.ok (), by simp, fun budget => verdict_of_halted active⟩
  | false =>
    by_cases outside : 999 < machine.pc
    · refine .inl ⟨.error (.programCounterOutOfRange machine.pc), by simp, fun budget => ?_⟩
      exact @verdict_of_outside (machine.withBudget budget) active outside
    · have inside : machine.pc ≤ 999 := Nat.le_of_not_lt outside
      by_cases spent : limit ≤ machine.cycles
      · exact .inr (.inl (verdict_of_spent active inside rfl spent))
      · have paid : machine.cycles < limit := Nat.lt_of_not_le spent
        refine .inr (.inr ⟨paid, verdict_eq_none active inside ?_,
          verdict_eq_none active inside ?_⟩)
        · rintro bound ⟨⟩
          exact paid
        · exact fun bound budget => Nat.lt_of_lt_of_le paid (bounded bound budget)

/-- A slice of a run that ends is stopped by its budget, with the rest of the run before it,
or ends like the run. -/
theorem resume_slice (bounded : ∀ bound, last = some bound → limit ≤ bound)
    (ended : (machine.withBudget last).resume channel fuel world = ⟨some outcome, final, after⟩) :
    (∃ paused current, (machine.withBudget (some limit)).resume channel fuel world =
        ⟨some (.error (.cycleLimit limit)), paused, current⟩ ∧
      (paused.withBudget last).resume channel fuel current = ⟨some outcome, final, after⟩) ∨
    (machine.withBudget (some limit)).resume channel fuel world =
        ⟨some outcome, final.withBudget (some limit), after⟩ ∧
      ∀ bound, outcome = .error (.cycleLimit bound) → final.cycles < limit := by
  -- A verdict before the cycle settles both runs whatever the fuel, so zero is no case apart.
  induction fuel using Nat.strongRecOn generalizing machine world with
  | ind fuel ih =>
    rcases verdict_withBudget machine bounded with ⟨answer, other, alike⟩ | spent |
      ⟨paid, going, whole⟩
    · rw [resume_of_verdict (alike last)] at ended
      cases ended
      exact .inr ⟨resume_of_verdict (alike _) _, fun bound same => absurd same (other bound)⟩
    · exact .inl ⟨_, _, resume_of_verdict spent _, ended⟩
    · cases fuel with
      | zero =>
        rw [resume_zero whole] at ended
        cases ended
      | succ fuel =>
        rw [resume_succ whole, cycle_withBudget] at ended
        rw [resume_succ going, cycle_withBudget]
        match stepped : machine.cycle channel world with
        | ⟨.error fault, failed, told⟩ =>
          rw [stepped] at ended
          cases ended
          have counted := cycle_failed_cycles stepped
          exact .inr ⟨rfl, fun _ _ => counted ▸ paid⟩
        | ⟨.ok (), next, told⟩ =>
          rw [stepped] at ended
          rcases ih fuel (Nat.lt_succ_self fuel) ended with
            ⟨paused, current, stopped, rest⟩ | same
          · exact .inl ⟨paused, current, stopped, resume_of_le (Nat.le_succ fuel) rest⟩
          · exact .inr same

/-- Preempting a run by its budget is invisible, unless the channel itself reports a cycle
limit while an earlier budget is not yet spent: that report is taken for a preemption. -/
theorem resumeSliced_agrees {budgets : List Nat}
    (bounded : ∀ limit ∈ budgets, ∀ bound, last = some bound → limit ≤ bound)
    (ended : (machine.withBudget last).resume channel fuel world = ⟨some outcome, final, after⟩)
    (spent : ∀ bound, outcome = .error (.cycleLimit bound) →
      ∀ limit ∈ budgets, limit ≤ final.cycles) :
    let turn := machine.resumeSliced channel fuel last budgets world
    turn.answer = some outcome ∧ turn.world = after ∧
      (turn.machine = final ∨ ∃ limit ∈ budgets, turn.machine = final.withBudget (some limit)) := by
  induction budgets generalizing machine world with
  | nil =>
    simp only [resumeSliced, ended, true_or, and_self]
  | cons limit budgets ih =>
    have first := List.mem_cons_self (a := limit) (l := budgets)
    rcases resume_slice (bounded limit first) ended with
      ⟨paused, current, stopped, rest⟩ | ⟨alike, early⟩
    · obtain ⟨answered, told, same⟩ := ih
        (fun other member => bounded other (List.mem_cons_of_mem _ member)) rest
        (fun bound reported other member =>
          spent bound reported other (List.mem_cons_of_mem _ member))
      simp only [resumeSliced, stopped]
      refine ⟨answered, told, same.imp_right ?_⟩
      intro ⟨other, member, changed⟩
      exact ⟨other, List.mem_cons_of_mem _ member, changed⟩
    · have kept : machine.resumeSliced channel fuel last (limit :: budgets) world =
          ⟨some outcome, final.withBudget (some limit), after⟩ := by
        unfold resumeSliced
        rw [alike]
        -- The series goes on after a cycle limit alone, and this slice had budget left for one.
        split
        next bound paused current same =>
          cases same
          have := early bound rfl
          have := spent bound rfl limit first
          omega
        next => rfl
      rw [kept]
      exact ⟨rfl, rfl, .inr ⟨limit, first, rfl⟩⟩

end

/-- A slice ends between the selection of B and the output of B. -/
theorem resumeSliced_agrees_between_registers :
    let memory := ((Memory.empty.write 0 401).write 1 902).write 2 0
    let machine : Machine := { memory, b := 7 }
    let final : Machine :=
      { memory, pc := 3, b := 7, flags := ⟨false, true⟩, halted := true, cycles := 3,
        maxCycles := some 3 }
    let turn := machine.resumeSliced Queue.channel 3 (some 3) [1] ⟨[], #[]⟩
    (machine.withBudget (some 3)).resume Queue.channel 3 ⟨[], #[]⟩ =
        ⟨some (.ok ()), final, ⟨[], #[7]⟩⟩ ∧
      turn.answer = some (.ok ()) ∧ turn.world = ⟨[], #[7]⟩ ∧
      (turn.machine = final ∨ ∃ limit ∈ [1], turn.machine = final.withBudget (some limit)) := by
  intro memory machine final turn
  have first : memory.read 0 = .ok 401 := by simp [memory, Memory.read, Memory.get_write]
  have second : memory.read 1 = .ok 902 := by simp [memory, Memory.read, Memory.get_write]
  have third : memory.read 2 = .ok 0 := by simp [memory, Memory.read, Memory.get_write]
  have ended : (machine.withBudget (some 3)).resume Queue.channel 3 ⟨[], #[]⟩ =
      ⟨some (.ok ()), final, ⟨[], #[7]⟩⟩ := by
    simp [resume, verdict, withBudget, advance, machine, cycle, first, second, third,
      Encodes.decode .useB, Encodes.decode .output, Encodes.decode .halt, execute, complete,
      writeBack, working, showCycle, Channel.tell, Queue.channel, Queue.write, Flags.of, final]
  exact ⟨ended, resumeSliced_agrees (by simp) ended (by simp)⟩

/-- A device that reports a cycle limit is taken for a preemption. -/
theorem not_resumeSliced_agrees_with_every_channel :
    ¬∀ (World : Type) (channel : Channel World) (machine final : Machine) (world after : World)
        (outcome : Except Fault Unit) (fuel : Nat) (last : Option Nat) (budgets : List Nat),
      budgets.Pairwise (· ≤ ·) →
      (∀ limit ∈ budgets, ∀ bound, last = some bound → limit ≤ bound) →
      (machine.withBudget last).resume channel fuel world = ⟨some outcome, final, after⟩ →
      let turn := machine.resumeSliced channel fuel last budgets world
      turn.answer = some outcome ∧ turn.world = after ∧
        (turn.machine = final ∨
          ∃ limit ∈ budgets, turn.machine = final.withBudget (some limit)) := by
  intro always
  let memory := (Memory.empty.write 0 905).write 1 0
  let machine : Machine := { memory }
  let bench : Bench := { queue := ⟨[], #[]⟩, devices := [.failing 5 (.cycleLimit 7)] }
  have fetched : machine.memory.read machine.pc = .ok 905 := by
    simp [machine, memory, Memory.read, Memory.get_write]
  have refused : execute Bench.channel (.decode 905) machine.working machine.advance bench =
      (.error (.cycleLimit 7), bench) := by
    rw [Encodes.decode (.device (.inr (by decide : 2 < 5)) (by decide))]
    rfl
  have failed := cycle_of_failed fetched refused
  have reported (limit : Nat) (paid : 0 < limit) :
      (machine.withBudget (some limit)).resume Bench.channel 2 bench =
        ⟨some (.error (.cycleLimit 7)), machine.advance.withBudget (some limit), bench⟩ := by
    have going : (machine.withBudget (some limit)).verdict = none :=
      verdict_eq_none rfl (Nat.zero_le _) fun bound budget => Option.some.inj budget ▸ paid
    rw [resume_succ going, cycle_withBudget, failed]
  have halted : ((machine.advance.withBudget (some 1)).withBudget (some 2)).resume
      Bench.channel 2 bench =
        ⟨some (.ok ()), { memory, pc := 2, halted := true, cycles := 1, maxCycles := some 2 },
          bench⟩ := by
    have halt : memory.read 1 = .ok 0 := by simp [memory, Memory.read, Memory.get_write]
    simp [resume, verdict, withBudget, advance, machine, cycle, halt, Encodes.decode .halt,
      execute, complete, writeBack, working, showCycle]
  have agrees := always Bench Bench.channel machine _ bench _ _ 2 (some 2) [1] (by simp) (by simp)
    (reported 2 Nat.two_pos)
  simp [resumeSliced, reported 1 Nat.one_pos, halted] at agrees

end LittleMan.Machine
