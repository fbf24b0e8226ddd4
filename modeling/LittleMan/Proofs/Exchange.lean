import LittleMan.Proofs.CallLog
import Mathlib.Data.List.Basic

/-! What a run takes in and gives out: the answers of the channel to the instructions that ask for a
value, and the words of the output instructions that complete. -/

namespace LittleMan

variable {World Other Result : Type}

namespace Machine

def fetched? (machine : Machine) : Option Instruction :=
  (machine.memory.get machine.pc).map .decode

/-- What there is to observe before each of a number of cycles. -/
def gather (observe : Machine → World → Option Result) (channel : Channel World) (count : Nat)
    (machine : Machine) (world : World) : List Result :=
  (List.range count).filterMap fun index =>
    let reached := machine.cycleEach channel index world
    observe reached.machine reached.world

/-- What the channel answers to the next cycle if that asks for a value. -/
def heard? (channel : Channel World) (machine : Machine) (world : World) :
    Option (Except Fault Int) :=
  if machine.fetched? = some .input then some (channel.ask world).1 else none

/-- The word that the next cycle writes if it completes. -/
def written? (channel : Channel World) (machine : Machine) (world : World) : Option Nat :=
  if machine.fetched? = some .output ∧ (machine.cycle channel world).answer.isOk = true then
    some (if machine.useB then machine.b else machine.acc)
  else none

def heard (channel : Channel World) (count : Nat) (machine : Machine) (world : World) :
    List (Except Fault Int) :=
  machine.gather (heard? channel) channel count world

def written (channel : Channel World) (count : Nat) (machine : Machine) (world : World) :
    List Nat :=
  machine.gather (written? channel) channel count world

section

variable {first : Channel World} {second : Channel Other} {machine : Machine} {world : World}
  {other : Other}

theorem gather_succ (observe : Machine → World → Option Result) (channel : Channel World)
    (count : Nat) (machine : Machine) (world : World) :
    machine.gather observe channel (count + 1) world =
      machine.gather observe channel count world ++
        (observe (machine.cycleEach channel count world).machine
          (machine.cycleEach channel count world).world).toList := by
  rw [gather, List.range_succ, List.filterMap_append, List.filterMap_eq_flatMap_toList _ [count],
    List.flatMap_singleton]
  rfl

theorem gather_congr {observe : Machine → World → Option Result}
    {again : Machine → Other → Option Result} {count : Nat}
    (same : ∀ index < count,
      observe (machine.cycleEach first index world).machine
          (machine.cycleEach first index world).world =
        again (machine.cycleEach second index other).machine
          (machine.cycleEach second index other).world) :
    machine.gather observe first count world = machine.gather again second count other := by
  apply List.filterMap_congr
  intro index inside
  exact same index (List.mem_range.mp inside)

theorem gather_prefix {observe : Machine → World → Option Result} {less count : Nat}
    (small : less ≤ count) :
    machine.gather observe first less world <+: machine.gather observe first count world := by
  induction small with
  | refl => exact List.prefix_rfl
  | step _ ih =>
    rw [gather_succ]
    exact ih.trans (List.prefix_append _ _)

theorem exists_first_of_gather {observe : Machine → World → Option Result} {count : Nat}
    (seen : machine.gather observe first count world ≠ []) :
    ∃ before < count, machine.gather observe first before world = [] ∧
      observe (machine.cycleEach first before world).machine
        (machine.cycleEach first before world).world ≠ none := by
  induction count with
  | zero => exact absurd rfl seen
  | succ count ih =>
    by_cases earlier : machine.gather observe first count world = []
    · refine ⟨count, Nat.lt_succ_self count, earlier, ?_⟩
      intro nothing
      rw [gather_succ, earlier, nothing] at seen
      exact seen rfl
    · obtain ⟨before, small, rest⟩ := ih earlier
      exact ⟨before, Nat.lt_succ_of_lt small, rest⟩

theorem fetched?_of_read {word : Nat} (fetched : machine.memory.read machine.pc = .ok word) :
    machine.fetched? = some (.decode word) := by
  rw [fetched?, Memory.read_eq_ok_iff.mp fetched, Option.map_some]

theorem fetched?_of_unread {fault : Fault}
    (unread : machine.memory.read machine.pc = .error fault) : machine.fetched? = none := by
  rw [fetched?, Memory.get_of_read_error unread, Option.map_none]

/-- What holds of the world after the fetched instruction holds of it after the cycle. -/
theorem cycle_world {good : World → Prop}
    (shown : ∀ entry world, good world → good (first.trace entry world))
    (idle : machine.fetched? = none → good world)
    (done : ∀ instruction, machine.fetched? = some instruction →
      good (machine.advance.execute first instruction machine.working world).2) :
    good (machine.cycle first world).world := by
  obtain ⟨fault, unread, failed⟩ | ⟨word, fault, after, fetched, refused, failed⟩ |
    ⟨word, executed, result, after, fetched, performed, ended⟩ := cycle_cases first machine world
  · rw [failed]
    exact idle (fetched?_of_unread unread)
  · have kept := done _ (fetched?_of_read fetched)
    rw [refused] at kept
    rw [failed]
    exact kept
  · have kept := done _ (fetched?_of_read fetched)
    rw [performed] at kept
    rw [ended]
    dsimp only
    unfold showCycle
    split
    · exact shown _ _ kept
    · exact kept

theorem written?_alike {matched : World → Other → Prop}
    (alike : (machine.cycle first world).Alike matched (machine.cycle second other)) :
    machine.written? first world = machine.written? second other := by
  rw [written?, written?, alike.answer]

end

end Machine

end LittleMan
