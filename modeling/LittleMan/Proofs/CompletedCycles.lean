import LittleMan.Proofs.Histories

/-! The cycles that complete in a history of operations, one after another. The registers and the
flags are theirs: between two of them the memory, the program counter and the settings may change,
and cycles may fail, but each begins with what the previous one has left. -/

namespace LittleMan

structure Completed where
  before : Machine
  word : Nat
  after : Machine

/-- Machines that agree in all that only a completed cycle changes. -/
structure Machine.SameRegisters (machine other : Machine) : Prop where
  acc : machine.acc = other.acc
  b : machine.b = other.b
  flags : machine.flags = other.flags
  useB : machine.useB = other.useB
  cycles : machine.cycles = other.cycles

namespace Machine

variable {World : Type} (channel : Channel World)

/-- The next cycle, if it completes. -/
def completed? (machine : Machine) (world : World) : Option Completed :=
  match machine.cycle channel world with
  | ⟨.ok _, after, _⟩ => (machine.memory.get machine.pc).map fun word => ⟨machine, word, after⟩
  | ⟨.error _, _, _⟩ => none

/-- The cycles that complete in a run. -/
def completedIn : Nat → Machine → World → List Completed
  | 0, _, _ => []
  | fuel + 1, machine, world =>
    match machine.verdict, machine.completed? channel world with
    | none, some done =>
      done :: completedIn fuel done.after (machine.cycle channel world).world
    | _, _ => []

theorem SameRegisters.refl (machine : Machine) : machine.SameRegisters machine :=
  ⟨rfl, rfl, rfl, rfl, rfl⟩

theorem SameRegisters.trans {first second third : Machine} (one : first.SameRegisters second)
    (two : second.SameRegisters third) : first.SameRegisters third :=
  ⟨one.acc.trans two.acc, one.b.trans two.b, one.flags.trans two.flags, one.useB.trans two.useB,
    one.cycles.trans two.cycles⟩

variable {channel}

private theorem completed?_cases (channel : Channel World) (machine : Machine) (world : World) :
    (∃ fault final after, machine.cycle channel world = ⟨.error fault, final, after⟩ ∧
      machine.completed? channel world = none ∧ machine.SameRegisters final) ∨
    ∃ word final after, machine.cycle channel world = ⟨.ok (), final, after⟩ ∧
      machine.completed? channel world = some ⟨machine, word, final⟩ := by
  rcases cycle_cases channel machine world with ⟨fault, -, failed⟩ | ⟨_, fault, after, -, -, failed⟩ |
    ⟨word, executed, result, after, fetched, -, done⟩
  · exact .inl ⟨fault, machine, world, failed, by rw [completed?, failed], .refl machine⟩
  · exact .inl ⟨fault, machine.advance, after, failed, by rw [completed?, failed],
      ⟨rfl, rfl, rfl, rfl, rfl⟩⟩
  · refine .inr ⟨word, _, _, done, ?_⟩
    rw [completed?, done, Memory.read_eq_ok_iff.mp fetched]
    rfl

end Machine

section

variable {World : Type} (channel : Channel World)

/-- A cycle that completes in some world. -/
def Completed.Genuine (done : Completed) : Prop :=
  ∃ world, done.before.completed? channel world = some done

/-- Completed cycles lead from a machine to another. -/
inductive Linked : Machine → List Completed → Machine → Prop where
  | nil {start final : Machine} (same : start.SameRegisters final) : Linked start [] final
  | cons {start final : Machine} {done : Completed} {rest : List Completed}
      (begins : start.SameRegisters done.before) (genuine : done.Genuine channel)
      (others : Linked done.after rest final) : Linked start (done :: rest) final

variable {channel}

theorem Completed.Genuine.exists_executed {done : Completed} (genuine : done.Genuine channel) :
    ∃ world executed result after,
      Machine.execute channel (.decode done.word) done.before.working done.before.advance world =
        (.ok (executed, result), after) ∧
      done.after = executed.complete (.decode done.word) done.before.useB result := by
  obtain ⟨world, completes⟩ := genuine
  rcases Machine.cycle_cases channel done.before world with ⟨fault, -, failed⟩ |
    ⟨_, fault, _, -, -, failed⟩ | ⟨word, executed, result, after, fetched, performed, stepped⟩
  · rw [Machine.completed?, failed] at completes
    cases completes
  · rw [Machine.completed?, failed] at completes
    cases completes
  · rw [Machine.completed?, stepped, Memory.read_eq_ok_iff.mp fetched] at completes
    have same := Option.some.inj completes
    rw [← same]
    exact ⟨world, executed, result, after, performed, rfl⟩

theorem Completed.Genuine.cycles {done : Completed} (genuine : done.Genuine channel) :
    done.after.cycles = done.before.cycles + 1 := by
  obtain ⟨world, executed, result, after, performed, left⟩ := genuine.exists_executed
  have counted : executed.cycles = done.before.cycles :=
    (congrArg Machine.cycles (Machine.execute_frame performed)).symm
  rw [left, Machine.complete_cycles, counted]

namespace Linked

variable {start middle final : Machine} {done : Completed} {first second : List Completed}

private theorem of_same (same : start.SameRegisters middle)
    (linked : Linked channel middle first final) :
    Linked channel start first final := by
  cases linked with
  | nil ends => exact .nil (same.trans ends)
  | cons begins genuine others => exact .cons (same.trans begins) genuine others

private theorem append (one : Linked channel start first middle)
    (two : Linked channel middle second final) :
    Linked channel start (first ++ second) final := by
  induction one with
  | nil same => exact of_same same two
  | cons begins genuine _ ih => exact .cons begins genuine (ih two)

theorem split (linked : Linked channel start (first ++ second) final) :
    ∃ middle, Linked channel start first middle ∧ Linked channel middle second final := by
  induction first generalizing start with
  | nil => exact ⟨start, .nil (.refl start), linked⟩
  | cons done first ih =>
    cases linked with
    | cons begins genuine others =>
      obtain ⟨middle, one, two⟩ := ih others
      exact ⟨middle, .cons begins genuine one, two⟩

theorem genuine_of_mem (linked : Linked channel start log final) (member : done ∈ log) :
    done.Genuine channel := by
  induction linked with
  | nil => cases member
  | cons _ genuine _ ih =>
    rcases List.mem_cons.mp member with rfl | later
    · exact genuine
    · exact ih later

theorem cycles_eq (linked : Linked channel start first final) :
    final.cycles = start.cycles + first.length := by
  induction linked with
  | nil same => exact same.cycles.symm
  | cons begins genuine _ ih =>
    rw [ih, genuine.cycles, ← begins.cycles, List.length_cons]
    omega

/-- What is left at the end is what the last completed cycle has left. -/
theorem last (linked : Linked channel start first final) (member : done ∈ first.getLast?) :
    done.after.SameRegisters final := by
  obtain ⟨earlier, rfl⟩ := List.getLast?_eq_some_iff.mp member
  obtain ⟨middle, -, one⟩ := split linked
  cases one with
  | cons _ _ others =>
    cases others with
    | nil same => exact same

end Linked

private theorem linked_resume (fuel : Nat) (machine : Machine) (world : World) :
    Linked channel machine (machine.completedIn channel fuel world)
      (machine.resume channel fuel world).machine := by
  induction fuel generalizing machine world with
  | zero =>
    cases ended : machine.verdict with
    | some answer =>
      rw [Machine.resume_of_verdict ended]
      exact .nil (.refl machine)
    | none =>
      rw [Machine.resume_zero ended]
      exact .nil (.refl machine)
  | succ fuel ih =>
    cases ended : machine.verdict with
    | some answer =>
      rw [Machine.resume_of_verdict ended, Machine.completedIn, ended]
      exact .nil (.refl machine)
    | none =>
      rw [Machine.resume_succ ended, Machine.completedIn, ended]
      rcases machine.completed?_cases channel world with ⟨fault, final, after, stepped, none, same⟩ |
        ⟨word, next, after, stepped, completes⟩
      · rw [stepped, none]
        exact .nil same
      · rw [stepped, completes]
        exact .cons (.refl machine) ⟨world, completes⟩ (ih next after)

end

namespace Operation

variable {World : Type} (channel : Channel World)

def completed (state : Machine × World) : Operation → List Completed
  | cycle => (state.1.completed? channel state.2).toList
  | resume fuel => state.1.completedIn channel fuel state.2
  | run fuel start => Machine.completedIn channel fuel { state.1 with pc := start } state.2
  | setPc _ | setMaxCycles _ | setTrace _ | load _ | write _ _ => []

def completedAll (state : Machine × World) : List Operation → List Completed
  | [] => []
  | operation :: history =>
    operation.completed channel state ++ completedAll (perform channel state operation) history

variable {channel}

private theorem linked_perform (state : Machine × World) (operation : Operation) :
    Linked channel state.1 (operation.completed channel state) (perform channel state operation).1 := by
  cases operation with
  | cycle =>
    rw [completed, perform]
    rcases state.1.completed?_cases channel state.2 with
      ⟨fault, final, after, stepped, none, same⟩ | ⟨word, final, after, stepped, completes⟩
    · rw [stepped, none]
      exact .nil same
    · rw [stepped, completes]
      exact .cons (.refl _) ⟨state.2, completes⟩ (.nil (.refl _))
  | resume fuel => exact linked_resume fuel state.1 state.2
  | run fuel start =>
    have placed : state.1.SameRegisters { state.1 with pc := start } := ⟨rfl, rfl, rfl, rfl, rfl⟩
    exact .of_same placed (linked_resume fuel _ state.2)
  | setPc | setMaxCycles | setTrace | load | write => exact .nil ⟨rfl, rfl, rfl, rfl, rfl⟩

/-- The completed cycles of a history lead from the machine before it to the one after it. -/
theorem linked_performAll (state : Machine × World) (history : List Operation) :
    Linked channel state.1 (completedAll channel state history) (performAll channel state history).1 := by
  induction history generalizing state with
  | nil => exact .nil (.refl _)
  | cons operation history ih => exact (linked_perform state operation).append (ih _)

end Operation

end LittleMan
