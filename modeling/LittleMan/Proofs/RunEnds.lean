import LittleMan.Proofs.CycleBudget

/-! How runs end. A run that ends does so with the first cycle that fails or halts, or where its
budget is spent, and its fuel has no part in it. -/

namespace LittleMan.Machine

/-- A run ends after a number of cycles, as the plain iteration of cycles and the budget have it. -/
inductive Ends {World : Type} (channel : Channel World) (machine : Machine) (world : World) :
    Nat → Except Fault Unit → Machine → World → Prop where
  /-- The budget pays for the first cycle that fails or halts the machine. -/
  | settled {count : Nat} {outcome : Except Fault Unit} {final : Machine} {last : World}
      (ends : machine.EndsAt channel world count outcome final last)
      (paid : ∀ limit, machine.maxCycles = some limit → machine.cycles + count ≤ limit) :
      Ends channel machine world count outcome final last
  /-- The budget is spent before. -/
  | spent {limit : Nat} {final : Machine} {last : World} (budget : machine.maxCycles = some limit)
      (proceeds : machine.Proceeds channel world (limit - machine.cycles))
      (reached : machine.cycleTimes channel (limit - machine.cycles) world =
        ⟨.ok (), final, last⟩) :
      Ends channel machine world (limit - machine.cycles) (.error (.cycleLimit limit)) final last

section

variable {World : Type} {channel : Channel World} {machine final : Machine} {world last : World}
  {count fuel : Nat} {outcome : Except Fault Unit}

theorem Proceeds.mono {more : Nat} (proceeds : machine.Proceeds channel world more)
    (less : count ≤ more) : machine.Proceeds channel world count :=
  fun index small => proceeds index (Nat.le_trans small less)

private theorem ends_of_spent {limit : Nat} (inside : machine.pc ≤ 999)
    (budget : machine.maxCycles = some limit)
    (proceeds : machine.Proceeds channel world (limit - machine.cycles))
    (enough : limit - machine.cycles ≤ fuel)
    (ended : machine.resume channel fuel world = ⟨some outcome, final, last⟩) :
    ∃ count ≤ fuel, machine.Ends channel world count outcome final last := by
  obtain ⟨_, _, reached, -, stopped⟩ := proceeds.resume_spent inside budget enough
  cases stopped.symm.trans ended
  exact ⟨_, enough, .spent budget proceeds reached⟩

theorem Ends.resume (ends : machine.Ends channel world count outcome final last)
    (inside : machine.pc ≤ 999) (enough : count ≤ fuel) :
    machine.resume channel fuel world = ⟨some outcome, final, last⟩ := by
  cases ends with
  | settled ends paid => exact ends.resume inside paid enough
  | spent budget proceeds reached =>
    obtain ⟨_, _, again, -, stopped⟩ := proceeds.resume_spent inside budget enough
    cases again.symm.trans reached
    exact stopped

theorem exists_ends_of_resume (active : machine.halted = false) (inside : machine.pc ≤ 999)
    (ended : machine.resume channel fuel world = ⟨some outcome, final, last⟩) :
    ∃ count ≤ fuel, machine.Ends channel world count outcome final last := by
  have either : machine.Proceeds channel world fuel ∨ ∃ count outcome final last, count ≤ fuel ∧
      machine.EndsAt channel world count outcome final last := proceeds_or_endsAt active fuel
  rcases either with proceeds | ⟨count, _, _, _, small, ends⟩
  · by_cases later : ∀ limit, machine.maxCycles = some limit → machine.cycles + fuel < limit
    · -- The run would have to go on with what the budget pays for.
      obtain ⟨middle, current, completed, going⟩ := proceeds fuel (Nat.le_refl fuel)
      have paused := proceeds.resume inside
        (fun limit limited => Nat.le_of_lt (later limit limited)) completed 0
      have undecided := verdict_cycleTimes completed going inside later
      rw [resume_zero undecided, Nat.add_zero, ended] at paused
      cases paused
    · obtain ⟨limit, budget, short⟩ :
          ∃ limit, machine.maxCycles = some limit ∧ limit ≤ machine.cycles + fuel := by
        simpa using later
      exact ends_of_spent inside budget (proceeds.mono (by omega)) (by omega) ended
  · by_cases paid : ∀ limit, machine.maxCycles = some limit → machine.cycles + count ≤ limit
    · cases (ends.resume inside paid small).symm.trans ended
      exact ⟨count, small, .settled ends paid⟩
    · obtain ⟨limit, budget, short⟩ :
          ∃ limit, machine.maxCycles = some limit ∧ limit < machine.cycles + count := by
        simpa using paid
      have := ends.pos
      exact ends_of_spent inside budget (ends.proceeds.mono (by omega)) (by omega) ended

theorem cycleEach_of_cycleTimes
    (completed : machine.cycleTimes channel count world = ⟨.ok (), final, last⟩) :
    (machine.cycleEach channel count world).machine = final ∧
      (machine.cycleEach channel count world).world = last := by
  induction count generalizing final last with
  | zero =>
    cases completed
    exact ⟨rfl, rfl⟩
  | succ count ih =>
    obtain ⟨middle, current, prior, stepped⟩ := cycleTimes_split completed
    obtain ⟨reached, told⟩ := ih prior
    simp only [cycleEach, reached, told, stepped, and_self]

theorem EndsAt.cycleEach (ends : machine.EndsAt channel world count outcome final last) :
    (machine.cycleEach channel count world).machine = final ∧
      (machine.cycleEach channel count world).world = last := by
  obtain ⟨before, middle, current, rfl, -, completed, -, stepped⟩ := ends.exists_cycle
  obtain ⟨reached, told⟩ := cycleEach_of_cycleTimes completed
  simp only [Machine.cycleEach, reached, told, stepped, and_self]

/-- A run has come to its end when it has made its cycles. -/
theorem Ends.cycleEach (ends : machine.Ends channel world count outcome final last) :
    (machine.cycleEach channel count world).machine = final ∧
      (machine.cycleEach channel count world).world = last := by
  cases ends with
  | settled ends => exact ends.cycleEach
  | spent budget proceeds reached => exact cycleEach_of_cycleTimes reached

/-- Before the last cycle of a run nothing has ended it, and the budget pays for one more cycle. -/
theorem Ends.proceeds_before {before : Nat}
    (ends : machine.Ends channel world count outcome final last) (earlier : before < count) :
    machine.Proceeds channel world before ∧
      ∀ limit, machine.maxCycles = some limit → machine.cycles + (before + 1) ≤ limit := by
  cases ends with
  | settled ends paid =>
    refine ⟨ends.proceeds.mono (by omega), ?_⟩
    intro limit budget
    have enough := paid limit budget
    omega
  | spent budget proceeds reached =>
    refine ⟨proceeds.mono (by omega), ?_⟩
    intro limit again
    cases budget.symm.trans again
    omega

theorem Ends.cycles_of_ok (ends : machine.Ends channel world count (.ok ()) final last) :
    final.cycles = machine.cycles + count := by
  cases ends with
  | settled ends => exact (cycleTimes_completed ends.reached).1

/-- A run that ends ends well exactly if the machine halts within the budget. -/
theorem ended_well_iff (active : machine.halted = false) (inside : machine.pc ≤ 999)
    (ended : machine.resume channel fuel world = ⟨some outcome, final, last⟩) :
    outcome = .ok () ↔ ∃ count final last,
      machine.EndsAt channel world count (.ok ()) final last ∧
        ∀ limit, machine.maxCycles = some limit → machine.cycles + count ≤ limit := by
  constructor
  · rintro rfl
    obtain ⟨count, -, ends⟩ := exists_ends_of_resume active inside ended
    cases ends with
    | settled ends paid => exact ⟨_, _, _, ends, paid⟩
  · intro ⟨count, _, _, ends, paid⟩
    have whole := ends.resume inside paid (Nat.le_add_left count fuel)
    cases (resume_of_le (Nat.le_add_right fuel count) ended).symm.trans whole
    rfl

end

end LittleMan.Machine
