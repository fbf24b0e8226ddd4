import LittleMan.Channel.Queue
import LittleMan.Proofs.Resumption

/-! A run under a cycle budget, against the plain iteration of cycles. The budget changes
neither what a cycle does nor how many complete: it only says where the run is cut off. -/

namespace LittleMan.Machine

/-- A number of cycles complete, and the machine is not halted before or after any of them. -/
def Proceeds {World : Type} (channel : Channel World) (machine : Machine) (world : World)
    (count : Nat) : Prop :=
  ∀ index ≤ count, ∃ middle current,
    machine.cycleTimes channel index world = ⟨.ok (), middle, current⟩ ∧ middle.halted = false

/-- The cycle with this number is the first that fails or halts the machine. -/
structure EndsAt {World : Type} (channel : Channel World) (machine : Machine) (world : World)
    (count : Nat) (outcome : Except Fault Unit) (final : Machine) (last : World) : Prop where
  pos : 0 < count
  proceeds : machine.Proceeds channel world (count - 1)
  reached : machine.cycleTimes channel count world = ⟨outcome, final, last⟩
  halted : outcome = .ok () → final.halted = true

section

variable {World : Type} {channel : Channel World} {machine final : Machine} {world last : World}
  {count limit fuel : Nat} {outcome : Except Fault Unit}

theorem verdict_of_halted (halted : machine.halted = true) :
    machine.verdict = some (.ok ()) := by
  simp [verdict, halted]

theorem verdict_of_outside (active : machine.halted = false) (outside : 999 < machine.pc) :
    machine.verdict = some (.error (.programCounterOutOfRange machine.pc)) := by
  simp [verdict, active, outside]

theorem verdict_of_spent (active : machine.halted = false) (inside : machine.pc ≤ 999)
    (budget : machine.maxCycles = some limit) (spent : limit ≤ machine.cycles) :
    machine.verdict = some (.error (.cycleLimit limit)) := by
  simp [verdict, active, Nat.not_lt_of_le inside, budget, spent]

theorem verdict_eq_none (active : machine.halted = false) (inside : machine.pc ≤ 999)
    (paid : ∀ limit, machine.maxCycles = some limit → machine.cycles < limit) :
    machine.verdict = none := by
  cases budget : machine.maxCycles with
  | none => simp [verdict, active, Nat.not_lt_of_le inside, budget]
  | some limit =>
    simp [verdict, active, Nat.not_lt_of_le inside, budget, Nat.not_le_of_lt (paid limit budget)]

/-- After some cycles nothing ends a run whose budget pays for one more. -/
theorem verdict_cycleTimes {middle : Machine} {current : World}
    (completed : machine.cycleTimes channel count world = ⟨.ok (), middle, current⟩)
    (active : middle.halted = false) (inside : machine.pc ≤ 999)
    (paid : ∀ limit, machine.maxCycles = some limit → machine.cycles + count < limit) :
    middle.verdict = none := by
  obtain ⟨counted, budget, stays⟩ := cycleTimes_completed completed
  apply verdict_eq_none active (stays inside)
  intro limit limited
  rw [counted]
  exact paid limit (budget ▸ limited)

/-- A run keeps to the iteration over cycles that the budget pays for. -/
theorem Proceeds.resume (proceeds : machine.Proceeds channel world count)
    (inside : machine.pc ≤ 999)
    (paid : ∀ limit, machine.maxCycles = some limit → machine.cycles + count ≤ limit)
    {middle : Machine} {current : World}
    (completed : machine.cycleTimes channel count world = ⟨.ok (), middle, current⟩)
    (fuel : Nat) :
    machine.resume channel (count + fuel) world = middle.resume channel fuel current := by
  apply resume_cycleTimes completed
  intro index earlier state before stepped
  obtain ⟨_, _, again, active⟩ := proceeds index (Nat.le_of_lt earlier)
  rw [stepped] at again
  cases again
  apply verdict_cycleTimes stepped active inside
  intro limit limited
  have enough := paid limit limited
  omega

theorem EndsAt.exists_cycle (ends : machine.EndsAt channel world count outcome final last) :
    ∃ before middle current, count = before + 1 ∧ machine.Proceeds channel world before ∧
      machine.cycleTimes channel before world = ⟨.ok (), middle, current⟩ ∧
      middle.halted = false ∧ middle.cycle channel current = ⟨outcome, final, last⟩ := by
  obtain ⟨before, rfl⟩ : ∃ before, count = before + 1 := Nat.exists_eq_add_one.mpr ends.pos
  obtain ⟨middle, current, completed, active⟩ := ends.proceeds before (Nat.le_refl _)
  have stepped := ends.reached
  rw [cycleTimes_succ completed] at stepped
  exact ⟨before, middle, current, rfl, ends.proceeds, completed, active, stepped⟩

theorem EndsAt.cycles_le (ends : machine.EndsAt channel world count outcome final last) :
    final.cycles ≤ machine.cycles + count := by
  obtain ⟨before, middle, current, rfl, -, completed, -, stepped⟩ := ends.exists_cycle
  have counted := (cycleTimes_completed completed).1
  cases outcome with
  | ok =>
    have one := (cycle_completed stepped).1
    omega
  | error fault =>
    have same := cycle_failed_cycles stepped
    omega

/-- A run ends with the first cycle that fails or halts if the budget pays for it. -/
theorem EndsAt.resume (ends : machine.EndsAt channel world count outcome final last)
    (inside : machine.pc ≤ 999)
    (paid : ∀ limit, machine.maxCycles = some limit → machine.cycles + count ≤ limit)
    (enough : count ≤ fuel) :
    machine.resume channel fuel world = ⟨some outcome, final, last⟩ := by
  obtain ⟨before, middle, current, rfl, proceeds, completed, active, stepped⟩ := ends.exists_cycle
  obtain ⟨rest, rfl⟩ := Nat.exists_eq_add_of_le enough
  have going : middle.verdict = none := verdict_cycleTimes completed active inside paid
  have reached := proceeds.resume inside
    (fun limit limited => Nat.le_of_succ_le (paid limit limited)) completed (rest + 1)
  have regrouped : before + 1 + rest = before + (rest + 1) := by omega
  rw [regrouped, reached, resume_succ going, stepped]
  cases outcome with
  | error fault => rfl
  | ok => exact resume_of_verdict (verdict_of_halted (ends.halted rfl)) rest

/-- A run that outlives its budget stops where the budget is spent. -/
theorem Proceeds.resume_spent
    (proceeds : machine.Proceeds channel world (limit - machine.cycles))
    (inside : machine.pc ≤ 999) (budget : machine.maxCycles = some limit)
    (enough : limit - machine.cycles ≤ fuel) :
    ∃ final last, machine.cycleTimes channel (limit - machine.cycles) world =
        ⟨.ok (), final, last⟩ ∧
      final.cycles = max machine.cycles limit ∧
      machine.resume channel fuel world = ⟨some (.error (.cycleLimit limit)), final, last⟩ := by
  obtain ⟨rest, rfl⟩ := Nat.exists_eq_add_of_le enough
  obtain ⟨final, last, completed, active⟩ := proceeds _ (Nat.le_refl _)
  obtain ⟨counted, same, stays⟩ := cycleTimes_completed completed
  have spent : final.cycles = max machine.cycles limit := by omega
  refine ⟨final, last, completed, spent, ?_⟩
  by_cases exhausted : limit ≤ machine.cycles
  · have none : limit - machine.cycles = 0 := Nat.sub_eq_zero_of_le exhausted
    rw [none] at completed
    cases completed
    exact resume_of_verdict (verdict_of_spent active inside budget exhausted) _
  · rw [proceeds.resume inside _ completed]
    · exact resume_of_verdict (verdict_of_spent active (stays inside) (same.trans budget)
        (by omega)) rest
    · intro other limited
      rw [budget] at limited
      cases limited
      omega

theorem proceeds_or_endsAt (active : machine.halted = false) (count : Nat) :
    machine.Proceeds channel world count ∨
      ∃ index outcome final last, index ≤ count ∧
        machine.EndsAt channel world index outcome final last := by
  induction count with
  | zero =>
    refine .inl fun index none => ⟨machine, world, ?_, active⟩
    rw [Nat.le_zero.mp none]
    rfl
  | succ count ih =>
    rcases ih with proceeds | ⟨index, outcome, final, last, small, ends⟩
    · match reached : machine.cycleTimes channel (count + 1) world with
      | ⟨.error fault, final, last⟩ =>
        exact .inr ⟨count + 1, _, final, last, Nat.le_refl _,
          ⟨Nat.succ_pos _, proceeds, reached, fun impossible => by cases impossible⟩⟩
      | ⟨.ok (), final, last⟩ =>
        cases halted : final.halted with
        | true =>
          exact .inr ⟨count + 1, _, final, last, Nat.le_refl _,
            ⟨Nat.succ_pos _, proceeds, reached, fun _ => halted⟩⟩
        | false =>
          refine .inl fun index small => ?_
          rcases Nat.le_succ_iff.mp small with earlier | rfl
          · exact proceeds index earlier
          · exact ⟨final, last, reached, halted⟩
    · exact .inr ⟨index, outcome, final, last, Nat.le_succ_of_le small, ends⟩

end

/-- The cycle budget is exact. -/
theorem resume_budget {World : Type} (channel : Channel World) (machine : Machine)
    (world : World) :
    (machine.halted = true → ∀ fuel,
      machine.resume channel fuel world = ⟨some (.ok ()), machine, world⟩) ∧
    (machine.halted = false → 999 < machine.pc → ∀ fuel,
      machine.resume channel fuel world =
        ⟨some (.error (.programCounterOutOfRange machine.pc)), machine, world⟩) ∧
    (machine.halted = false → machine.pc ≤ 999 → ∀ limit, machine.maxCycles = some limit →
      ∀ fuel, limit - machine.cycles ≤ fuel →
        (∀ count final last, machine.EndsAt channel world count (.ok ()) final last →
          machine.cycles + count ≤ limit →
          machine.resume channel fuel world = ⟨some (.ok ()), final, last⟩) ∧
        (∀ count fault final last, machine.EndsAt channel world count (.error fault) final last →
          machine.cycles + count - 1 < limit →
          machine.resume channel fuel world = ⟨some (.error fault), final, last⟩) ∧
        ((∀ count outcome final last, machine.EndsAt channel world count outcome final last →
            limit < machine.cycles + count) →
          ∃ final last, machine.cycleTimes channel (limit - machine.cycles) world =
              ⟨.ok (), final, last⟩ ∧
            final.cycles = max machine.cycles limit ∧
            machine.resume channel fuel world =
              ⟨some (.error (.cycleLimit limit)), final, last⟩) ∧
        ∃ outcome final last,
          machine.resume channel fuel world = ⟨some outcome, final, last⟩ ∧
          final.cycles ≤ max machine.cycles limit) := by
  refine ⟨fun halted => resume_of_verdict (verdict_of_halted halted),
    fun active outside => resume_of_verdict (verdict_of_outside active outside), ?_⟩
  intro active inside limit budget fuel enough
  have ended {count : Nat} {outcome : Except Fault Unit} {final : Machine} {last : World}
      (ends : machine.EndsAt channel world count outcome final last)
      (paid : machine.cycles + count ≤ limit) :
      machine.resume channel fuel world = ⟨some outcome, final, last⟩ := by
    apply ends.resume inside _ (by omega)
    intro other limited
    rw [budget] at limited
    cases limited
    exact paid
  refine ⟨fun _ _ _ ends paid => ended ends paid, ?_, ?_, ?_⟩
  · intro count fault final last ends paid
    have := ends.pos
    exact ended ends (by omega)
  · intro late
    rcases proceeds_or_endsAt active (limit - machine.cycles) with
      proceeds | ⟨index, outcome, final, last, small, ends⟩
    · exact proceeds.resume_spent inside budget enough
    · have := late index outcome final last ends
      have := ends.pos
      omega
  · rcases proceeds_or_endsAt active (limit - machine.cycles) with
      proceeds | ⟨index, outcome, final, last, small, ends⟩
    · obtain ⟨final, last, -, spent, stopped⟩ := proceeds.resume_spent inside budget enough
      exact ⟨_, final, last, stopped, Nat.le_of_eq spent⟩
    · have := ends.pos
      have := ends.cycles_le
      exact ⟨outcome, final, last, ended ends (by omega), by omega⟩

/-- A halt in the last cycle that the budget pays for, a budget of nothing and a fetch from an
unmapped cell. -/
theorem resume_budget_of_one :
    let memory := Memory.empty.write 0 0
    let queue : Queue := ⟨[], #[]⟩
    Machine.resume Queue.channel 1 { memory, maxCycles := some 1 } queue =
      ⟨some (.ok ()), { memory, pc := 1, halted := true, cycles := 1, maxCycles := some 1 },
        queue⟩ ∧
    Machine.resume Queue.channel 1 { memory, maxCycles := some 0 } queue =
      ⟨some (.error (.cycleLimit 0)), { memory, maxCycles := some 0 }, queue⟩ ∧
    Machine.resume Queue.channel 1 { memory := .empty, maxCycles := some 1 } queue =
      ⟨some (.error (.unmappedMemory 0)), { memory := .empty, maxCycles := some 1 }, queue⟩ := by
  intro memory queue
  have none (machine : Machine) (active : machine.halted = false) :
      machine.Proceeds Queue.channel queue 0 := by
    intro index small
    rw [Nat.le_zero.mp small]
    exact ⟨machine, queue, rfl, active⟩
  refine ⟨?_, ?_, ?_⟩
  · have ends : Machine.EndsAt Queue.channel { memory, maxCycles := some 1 } queue 1 (.ok ())
        { memory, pc := 1, halted := true, cycles := 1, maxCycles := some 1 } queue := by
      refine ⟨Nat.one_pos, none _ rfl, ?_, fun _ => rfl⟩
      have fetched : memory.read 0 = .ok 0 := by simp [memory, Memory.read, Memory.get_write]
      simp [cycleTimes, cycle, fetched, Encodes.decode .halt, execute, complete, writeBack,
        advance, working, showCycle]
    exact ((resume_budget _ _ _).2.2 rfl (Nat.zero_le _) 1 rfl 1 (Nat.le_refl _)).1 1 _ _ ends
      (Nat.le_refl _)
  · obtain ⟨final, last, reached, -, stopped⟩ :=
      ((resume_budget Queue.channel { memory, maxCycles := some 0 } queue).2.2 rfl
        (Nat.zero_le _) 0 rfl 1 (Nat.zero_le _)).2.2.1 fun count _ _ _ ends => by
          have := ends.pos
          omega
    simp only [Nat.sub_self, cycleTimes, Turn.mk.injEq, true_and] at reached
    obtain ⟨rfl, rfl⟩ := reached
    exact stopped
  · have ends : Machine.EndsAt Queue.channel { memory := .empty, maxCycles := some 1 } queue 1
        (.error (.unmappedMemory 0)) { memory := .empty, maxCycles := some 1 } queue := by
      refine ⟨Nat.one_pos, none _ rfl, ?_, fun impossible => by cases impossible⟩
      simp [cycleTimes, cycle, Memory.read, Memory.get_empty]
    exact ((resume_budget _ _ _).2.2 rfl (Nat.zero_le _) 1 rfl 1 (Nat.le_refl _)).2.1 1 _ _ _
      ends (by decide)

end LittleMan.Machine
