import LittleMan.Channel.Queue
import LittleMan.Proofs.StoredCells

/-! The cells from 100 on. Only a fetch reaches them, so machines that differ there and nowhere else
go the same way, and keep the difference, for as long as nothing is fetched from a cell in which
they differ. -/

namespace LittleMan

namespace Memory

/-- The first hundred cells of a memory, with the other cells of another. -/
-- Comparing two memories cell by cell is never a step of a proof.
@[irreducible]
def withHigh (memory high : Memory) : Memory :=
  ⟨Vector.ofFn fun address =>
    if address.val < 100 then memory.cells[address.val] else high.cells[address.val]⟩

private theorem get_withHigh (memory high : Memory) (address : Nat) :
    (memory.withHigh high).get address =
      if address < 100 then memory.get address else high.get address := by
  unfold withHigh
  by_cases inside : address < 1000
  · simp only [get, Vector.getElem?_ofFn, inside, dif_pos]
    split <;> simp [inside]
  · have beyond : 1000 ≤ address := Nat.le_of_not_lt inside
    rw [if_neg (by omega), get_eq_none_of_le _ beyond, get_eq_none_of_le _ beyond]

private theorem eq_withHigh {memory low : Memory}
    (same : ∀ address < 100, memory.get address = low.get address) :
    memory = low.withHigh memory := by
  apply ext_get
  intro address
  rw [get_withHigh]
  split
  next small => exact same address small
  next => rfl

end Memory

/-- Turns with the same answer and the same machine but for the cells from 100 on. There each holds
what the memory that it started from held. -/
structure Turn.SameBelow {Answer World : Type} (first second : Turn Answer World)
    (memory other : Memory) : Prop where
  answer : second.answer = first.answer
  world : second.world = first.world
  machine : second.machine = { first.machine with memory := second.machine.memory }
  low : ∀ address < 100, second.machine.memory.get address = first.machine.memory.get address
  high : ∀ address, 100 ≤ address → first.machine.memory.get address = memory.get address
  otherHigh : ∀ address, 100 ≤ address → second.machine.memory.get address = other.get address

def Turn.withHigh {Answer World : Type} (turn : Turn Answer World) (high : Memory) :
    Turn Answer World :=
  turn.withMemory (turn.machine.memory.withHigh high)

theorem Turn.sameBelow_withMemory {Answer World : Type} {turn : Turn Answer World}
    {memory other replaced : Memory}
    (low : ∀ address < 100, replaced.get address = turn.machine.memory.get address)
    (high : ∀ address, 100 ≤ address → turn.machine.memory.get address = memory.get address)
    (otherHigh : ∀ address, 100 ≤ address → replaced.get address = other.get address) :
    turn.SameBelow (turn.withMemory replaced) memory other :=
  ⟨rfl, rfl, rfl, low, high, otherHigh⟩

theorem Turn.sameBelow_withHigh {Answer World : Type} {turn : Turn Answer World}
    {memory : Memory} (high : Memory)
    (kept : ∀ address, 100 ≤ address → turn.machine.memory.get address = memory.get address) :
    turn.SameBelow (turn.withHigh high) memory high := by
  apply Turn.sameBelow_withMemory
  · intro address small
    rw [Memory.get_withHigh, if_pos small]
  · exact kept
  · intro address large
    rw [Memory.get_withHigh, if_neg (Nat.not_lt_of_le large)]

namespace Machine

def withHigh (machine : Machine) (high : Memory) : Machine :=
  { machine with memory := machine.memory.withHigh high }

/-- The next fetch finds the same in another memory, if it goes beyond the first hundred cells. -/
def FetchesAlike (machine : Machine) (high : Memory) : Prop :=
  100 ≤ machine.pc → high.get machine.pc = machine.memory.get machine.pc

section

variable {World : Type} {channel : Channel World} {machine : Machine} {world : World}
  {high : Memory}

private theorem store_withHigh (memory high : Memory) :
    machine.store (memory.withHigh high) = (machine.store memory).withHigh high := by
  cases stores : machine.storesTo with
  | none => simp only [store, stores]
  | some cell =>
    obtain ⟨-, -, -, digits⟩ := storesTo_eq_some_iff.mp stores
    apply Memory.ext_get
    intro address
    simp only [store, stores, Memory.get_write, Memory.get_withHigh]
    split
    next written => rw [if_pos (by omega)]
    next => rfl

private theorem cycle_withHigh (channel : Channel World) (world : World)
    (alike : machine.FetchesAlike high) :
    (machine.withHigh high).cycle channel world = (machine.cycle channel world).withHigh high := by
  have fetched : (machine.memory.withHigh high).get machine.pc =
      machine.memory.get machine.pc := by
    rw [Memory.get_withHigh]
    split
    next => rfl
    next large => exact alike (Nat.le_of_not_lt large)
  have low (cell : Nat) (small : cell < 100) :
      (machine.memory.withHigh high).get cell = machine.memory.get cell := by
    rw [Memory.get_withHigh, if_pos small]
  rw [withHigh, machine.cycle_withMemory channel world _ fetched low, store_withHigh, Turn.withHigh,
    cycle_memory]

private theorem cycleEach_withHigh {count : Nat}
    (alike : ∀ index < count, (machine.cycleEach channel index world).machine.FetchesAlike high) :
    (machine.withHigh high).cycleEach channel count world =
      (machine.cycleEach channel count world).withHigh high := by
  induction count with
  | zero => rfl
  | succ count ih =>
    have earlier := ih fun index inside => alike index (Nat.lt_succ_of_lt inside)
    have last := cycle_withHigh channel (machine.cycleEach channel count world).world
      (alike count (Nat.lt_succ_self count))
    rw [cycleEach, earlier]
    simp only [Turn.withHigh, Turn.withMemory, withHigh] at last ⊢
    rw [last]
    rfl

private theorem verdict_withMemory (machine : Machine) (memory : Memory) :
    verdict { machine with memory := memory } = machine.verdict := rfl

private theorem verdict_withHigh : (machine.withHigh high).verdict = machine.verdict :=
  verdict_withMemory machine (machine.memory.withHigh high)

private theorem resume_withHigh {fuel : Nat}
    (alike : ∀ index < fuel, let paused := machine.resume channel index world
      paused.answer = none → paused.machine.FetchesAlike high) :
    (machine.withHigh high).resume channel fuel world =
      (machine.resume channel fuel world).withHigh high := by
  fun_induction resume channel fuel machine world with
  | case1 fuel machine world answer ended =>
    exact resume_of_verdict (verdict_withHigh.trans ended) fuel
  | case2 machine world going => exact resume_zero (verdict_withHigh.trans going)
  | case3 machine world going fuel fault final after stepped =>
    have first := alike 0 (Nat.succ_pos fuel)
    simp only [resume_zero going, true_implies] at first
    rw [resume_succ (verdict_withHigh.trans going), cycle_withHigh channel _ first, stepped]
    rfl
  | case4 machine world going fuel _ next after stepped ih =>
    have first := alike 0 (Nat.succ_pos fuel)
    simp only [resume_zero going, true_implies] at first
    rw [resume_succ (verdict_withHigh.trans going), cycle_withHigh channel _ first, stepped]
    apply ih
    intro index inside
    have later := alike (index + 1) (Nat.succ_lt_succ inside)
    rwa [resume_succ going, stepped] at later

private theorem resume_get (fuel : Nat) {address : Nat} (large : 100 ≤ address) :
    (machine.resume channel fuel world).machine.memory.get address =
      machine.memory.get address := by
  obtain ⟨count, -, same, -⟩ := machine.exists_cycleEach_of_resume channel fuel world
  rw [same]
  exact machine.cycleEach_get channel world count large

/-- Machines that differ in cells from 100 on go the same way, ask the channel for the same and keep
the difference, for as long as nothing is fetched from where they differ. -/
theorem high_cells_irrelevant (channel : Channel World) (machine : Machine) (world : World)
    {memory : Memory} (low : ∀ address < 100, memory.get address = machine.memory.get address) :
    let other : Machine := { machine with memory := memory }
    (∀ count,
      (∀ index < count, let pc := (machine.cycleEach channel index world).machine.pc
        memory.get pc = machine.memory.get pc) →
      (machine.cycleEach channel count world).SameBelow (other.cycleEach channel count world)
          machine.memory memory ∧
        (machine.cycleEach channel.logged count (world, #[])).world.2 =
          (other.cycleEach channel.logged count (world, #[])).world.2) ∧
    ∀ fuel,
      (∀ index < fuel, let paused := machine.resume channel index world
        paused.answer = none →
          memory.get paused.machine.pc = machine.memory.get paused.machine.pc) →
      (machine.resume channel fuel world).SameBelow (other.resume channel fuel world)
          machine.memory memory ∧
        (machine.resume channel.logged fuel (world, #[])).world.2 =
          (other.resume channel.logged fuel (world, #[])).world.2 := by
  intro other
  have parted : other = machine.withHigh memory := by
    rw [withHigh, ← Memory.eq_withHigh low]
  rw [parted]
  refine ⟨?_, ?_⟩
  · intro count agree
    have alike (index : Nat) (inside : index < count) :
        (machine.cycleEach channel index world).machine.FetchesAlike memory := by
      intro large
      rw [machine.cycleEach_get channel world index large]
      exact agree index inside
    have logged (index : Nat) (inside : index < count) :
        (machine.cycleEach channel.logged index (world, #[])).machine.FetchesAlike memory := by
      rw [(cycleEach_logged_alike channel machine world #[] index).machine]
      exact alike index inside
    rw [cycleEach_withHigh alike, cycleEach_withHigh logged]
    exact ⟨Turn.sameBelow_withHigh memory fun _ large =>
      machine.cycleEach_get channel world count large, rfl⟩
  · intro fuel agree
    have alike (index : Nat) (inside : index < fuel)
        (paused : (machine.resume channel index world).answer = none) :
        (machine.resume channel index world).machine.FetchesAlike memory := by
      intro large
      rw [resume_get index large]
      exact agree index inside paused
    have logged (index : Nat) (inside : index < fuel)
        (paused : (machine.resume channel.logged index (world, #[])).answer = none) :
        (machine.resume channel.logged index (world, #[])).machine.FetchesAlike memory := by
      have same := resume_logged_alike channel machine world #[] index
      rw [same.answer] at paused
      rw [same.machine]
      exact alike index inside paused
    rw [resume_withHigh alike, resume_withHigh logged]
    exact ⟨Turn.sameBelow_withHigh memory fun _ large => resume_get fuel large, rfl⟩

/-- A store after the fetch from the last cell but one, with another word in a cell that is never
fetched. -/
theorem high_cells_irrelevant_past_last_cell :
    let memory := (((Memory.empty.write 998 501).write 999 302).write 0 0).write 1 7
    let other := memory.write 500 3
    let machine : Machine := { memory, pc := 998 }
    let queue : Queue := ⟨[], #[]⟩
    (∀ address < 100, other.get address = memory.get address) ∧
      (machine.cycleEach Queue.channel 3 queue).SameBelow
        (Machine.cycleEach Queue.channel 3 { machine with memory := other } queue) memory other ∧
      (machine.cycleEach Queue.channel 3 queue).machine.halted = true ∧
      (machine.cycleEach Queue.channel 3 queue).machine.memory.get 2 = some 7 := by
  intro memory other machine queue
  have low : ∀ address < 100, other.get address = memory.get address := by
    intro address small
    simp only [other, Memory.get_write]
    rw [if_neg (by omega)]
  have fetched : ∀ index < 3, let pc := (machine.cycleEach Queue.channel index queue).machine.pc
      other.get pc = machine.memory.get pc := by decide +kernel
  have same := ((high_cells_irrelevant Queue.channel machine queue low).1 3 fetched).1
  exact ⟨low, same, by decide +kernel, by decide +kernel⟩

end

end Machine

end LittleMan
