import LittleMan.Proofs.Resumption

/-! Settings of a run. A cycle does its work without looking at them, so a machine with other
settings goes the same way and keeps them. Only what a channel is shown depends on one. -/

namespace LittleMan.Machine

structure Invisible (change : Machine → Machine) : Prop where
  unseen : ∀ machine, Unseen change machine
  pc : ∀ machine, (change machine).pc = machine.pc
  acc : ∀ machine, (change machine).acc = machine.acc
  useB : ∀ machine, (change machine).useB = machine.useB
  keepsUseB : ∀ state, change { state with useB := true } = { change state with useB := true }
  completes : ∀ state instruction onB result,
    (change state).complete instruction onB result = change (state.complete instruction onB result)

section

variable {World : Type} {channel : Channel World} {change : Machine → Machine}

namespace Invisible

private theorem advance (invisible : Invisible change) (machine : Machine) :
    (change machine).advance = change machine.advance := by
  rw [Machine.advance, invisible.pc]
  exact ((invisible.unseen machine).keepsPc machine _).symm

private theorem working (invisible : Invisible change) (machine : Machine) :
    (change machine).working = machine.working := by
  rw [Machine.working, Machine.working, invisible.useB, invisible.acc, (invisible.unseen machine).b]

theorem cycle (invisible : Invisible change)
    (shows : ∀ address word state world, showCycle channel address word (change state) world =
      showCycle channel address word state world) (machine : Machine) (world : World) :
    (change machine).cycle channel world =
      ⟨(machine.cycle channel world).answer, change (machine.cycle channel world).machine,
        (machine.cycle channel world).world⟩ := by
  have read : (change machine).memory.read (change machine).pc = machine.memory.read machine.pc := by
    rw [invisible.pc, (invisible.unseen machine).memory]
  have executes (word : Nat) :
      (change machine).advance.execute channel (.decode word) (change machine).working world =
        ((machine.advance.execute channel (.decode word) machine.working world).1.map
          fun done => (change done.1, done.2),
          (machine.advance.execute channel (.decode word) machine.working world).2) := by
    rw [invisible.advance, invisible.working]
    exact execute_change channel _ _ world (invisible.unseen _) fun _ => invisible.keepsUseB
  obtain ⟨fault, unread, failed⟩ | ⟨word, fault, after, fetched, refused, failed⟩ |
    ⟨word, executed, result, after, fetched, performed, done⟩ := cycle_cases channel machine world
  · rw [failed]
    exact cycle_of_unmapped (read.trans unread)
  · have same := executes word
    rw [refused] at same
    rw [failed, ← invisible.advance]
    exact cycle_of_failed (read.trans fetched) same
  · have same := executes word
    rw [performed] at same
    rw [done]
    apply Eq.trans (cycle_of_executed (read.trans fetched) same)
    rw [invisible.useB, invisible.pc, invisible.completes]
    exact congrArg (Turn.mk (Except.ok ()) _) (shows _ _ _ after)

private theorem resume (invisible : Invisible change)
    (shows : ∀ address word state world, showCycle channel address word (change state) world =
      showCycle channel address word state world)
    (ends : ∀ machine, (change machine).verdict = machine.verdict) (machine : Machine) (fuel : Nat)
    (world : World) :
    (change machine).resume channel fuel world =
      ⟨(machine.resume channel fuel world).answer,
        change (machine.resume channel fuel world).machine,
        (machine.resume channel fuel world).world⟩ := by
  fun_induction Machine.resume channel fuel machine world with
  | case1 fuel machine world answer ended => exact resume_of_verdict ((ends machine).trans ended) fuel
  | case2 machine world going => exact resume_zero ((ends machine).trans going)
  | case3 machine world going fuel fault final after stepped =>
    rw [resume_succ ((ends machine).trans going), invisible.cycle shows, stepped]
  | case4 machine world going fuel _ next after stepped ih =>
    rw [resume_succ ((ends machine).trans going), invisible.cycle shows, stepped]
    exact ih

end Invisible

def withTrace (machine : Machine) (on : Bool) : Machine := { machine with trace := on }

private theorem invisible_withTrace (on : Bool) :
    Invisible fun machine => machine.withTrace on where
  unseen machine := by
    constructor <;> intros <;> rfl
  pc _ := rfl
  acc _ := rfl
  useB _ := rfl
  keepsUseB _ := rfl
  completes state instruction onB result := by
    simp only [complete, writeBack]
    split <;> rfl

/-- On a channel that is blind to the trace, it makes no difference whether a machine traces. -/
theorem resume_withTrace (blind : ∀ entry world, channel.trace entry world = world)
    (machine : Machine) (on : Bool) (fuel : Nat) (world : World) :
    (machine.withTrace on).resume channel fuel world =
      ⟨(machine.resume channel fuel world).answer,
        (machine.resume channel fuel world).machine.withTrace on,
        (machine.resume channel fuel world).world⟩ := by
  have shows (address word : Nat) (state : Machine) (world : World) :
      showCycle channel address word state world = world := by
    unfold showCycle
    split
    · exact blind _ world
    · rfl
  apply (invisible_withTrace on).resume
  · intro address word state world
    rw [shows, shows]
  · intro machine
    rfl

end

end LittleMan.Machine
