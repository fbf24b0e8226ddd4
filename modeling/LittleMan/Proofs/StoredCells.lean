import LittleMan.Proofs.ChannelAgreement
import LittleMan.Proofs.OperandCells

/-! What running programs do to memory. They store in the first hundred cells, one cell in a cycle,
so the cells from 100 on never change, no cell is lost, and there is a new one for each store at
most. -/

namespace LittleMan

namespace Memory

private theorem isMapped_write (memory : Memory) (address word : Nat) {other : Nat}
    (mapped : memory.isMapped other = true) :
    (memory.write address word).isMapped other = true := by
  rw [isMapped, get_write]
  split
  · rfl
  · exact mapped

private theorem size_write {memory : Memory} {address : Nat} (inside : address < 1000)
    (word : Nat) :
    (memory.write address word).size =
      if memory.isMapped address then memory.size else memory.size + 1 := by
  have placed : memory.cells.setIfInBounds address (some word) =
      memory.cells.set address (some word) inside := by
    apply Vector.ext
    intro index _
    rw [Vector.getElem_set, Vector.getElem_setIfInBounds]
  have found : memory.isMapped address = memory.cells[address].isSome := by
    simp [isMapped, get, inside]
  have counted : (if memory.cells[address].isSome then 1 else 0) ≤
      memory.cells.countP Option.isSome := Vector.boole_getElem_le_countP inside
  simp only [size, write, placed, Vector.countP_set, found, Option.isSome_some, if_true]
  cases mapped : memory.cells[address].isSome with
  | false => rfl
  | true =>
    simp only [mapped, if_true] at counted ⊢
    omega

end Memory

namespace Machine

section

variable (machine : Machine) (memory : Memory)

private theorem get_store {address : Nat} (high : 100 ≤ address) :
    (machine.store memory).get address = memory.get address := by
  cases stores : machine.storesTo with
  | none => simp only [store, stores]
  | some cell =>
    obtain ⟨-, -, -, digits⟩ := storesTo_eq_some_iff.mp stores
    simp only [store, stores, Memory.get_write]
    rw [if_neg (by omega)]

private theorem isMapped_store {address : Nat} (mapped : memory.isMapped address = true) :
    (machine.store memory).isMapped address = true := by
  unfold store
  split
  · exact memory.isMapped_write _ _ mapped
  · exact mapped

private theorem size_store : memory.size ≤ (machine.store memory).size ∧
    (machine.store memory).size ≤ memory.size + if machine.storesTo.isSome then 1 else 0 := by
  cases stores : machine.storesTo with
  | none => simp only [store, stores, Nat.le_refl, Nat.le_add_right, and_self]
  | some cell =>
    obtain ⟨-, -, -, digits⟩ := storesTo_eq_some_iff.mp stores
    simp only [store, stores, Memory.size_write (Nat.lt_trans digits (by decide : 100 < 1000))]
    split <;> simp

end

variable {World : Type}

section

variable (channel : Channel World) (machine : Machine) (world : World) (count : Nat)

private theorem cycleEach_memory_succ :
    let reached := (machine.cycleEach channel count world).machine
    (machine.cycleEach channel (count + 1) world).machine.memory = reached.store reached.memory :=
  cycle_memory channel _ _

theorem cycleEach_get {address : Nat} (high : 100 ≤ address) :
    (machine.cycleEach channel count world).machine.memory.get address =
      machine.memory.get address := by
  induction count with
  | zero => rfl
  | succ count ih => rw [cycleEach_memory_succ, get_store _ _ high, ih]

private theorem cycleEach_isMapped {address : Nat}
    (mapped : machine.memory.isMapped address = true) :
    (machine.cycleEach channel count world).machine.memory.isMapped address = true := by
  induction count with
  | zero => exact mapped
  | succ count ih =>
    rw [cycleEach_memory_succ]
    exact isMapped_store _ _ ih

private theorem cycleEach_size :
    machine.memory.size ≤ (machine.cycleEach channel count world).machine.memory.size ∧
      (machine.cycleEach channel count world).machine.memory.size ≤
        machine.memory.size + (List.range count).countP fun index =>
          (machine.cycleEach channel index world).machine.storesTo.isSome := by
  induction count with
  | zero => exact ⟨Nat.le_refl _, Nat.le_refl _⟩
  | succ count ih =>
    have one := size_store (machine.cycleEach channel count world).machine
      (machine.cycleEach channel count world).machine.memory
    rw [cycleEach_memory_succ, List.range_succ, List.countP_append, List.countP_singleton]
    omega

end

/-- Memory changes in a cycle only if a word of 300 to 399 is fetched, and then the cycle completes
and the cell that the word names takes the working value. -/
structure StoresLow (channel : Channel World) (machine : Machine) (world : World) : Prop where
  stored (index cell : Nat)
    (stores : (machine.cycleEach channel index world).machine.storesTo = some cell) :
    let before := machine.cycleEach channel index world
    let after := machine.cycleEach channel (index + 1) world
    cell < 100 ∧ (before.machine.cycle channel before.world).answer = .ok () ∧
      ∀ address, after.machine.memory.get address =
        if address = cell then
          some (if before.machine.useB then before.machine.b else before.machine.acc)
        else before.machine.memory.get address
  kept (index : Nat)
    (spared : (machine.cycleEach channel index world).machine.storesTo = none) :
    (machine.cycleEach channel (index + 1) world).machine.memory =
      (machine.cycleEach channel index world).machine.memory
  high (count address : Nat) (beyond : 100 ≤ address) :
    (machine.cycleEach channel count world).machine.memory.get address =
      machine.memory.get address
  mapped (count address : Nat) (mapped : machine.memory.isMapped address = true) :
    (machine.cycleEach channel count world).machine.memory.isMapped address = true
  size_le (count : Nat) :
    machine.memory.size ≤ (machine.cycleEach channel count world).machine.memory.size
  le_size (count : Nat) :
    (machine.cycleEach channel count world).machine.memory.size ≤
      machine.memory.size + (List.range count).countP fun index =>
        (machine.cycleEach channel index world).machine.storesTo.isSome
  resumed (fuel : Nat) : ∃ count ≤ fuel,
    (machine.resume channel fuel world).machine = (machine.cycleEach channel count world).machine

/-- Whatever a program does, memory from 100 on stays as it is and no cell is lost. -/
theorem cycles_store_low (channel : Channel World) (machine : Machine) (world : World) :
    machine.StoresLow channel world where
  stored index cell stores := by
    intro before after
    have changed : after.machine.memory = before.machine.store before.machine.memory :=
      machine.cycleEach_memory_succ channel world index
    obtain ⟨-, -, -, digits⟩ := storesTo_eq_some_iff.mp stores
    refine ⟨digits, cycle_of_storesTo channel before.machine _ stores, ?_⟩
    intro address
    have inside : cell < 1000 := Nat.lt_trans digits (by decide)
    simp only [changed, store, before, stores, Memory.get_write, inside, and_true]
    rfl
  kept index spared := by
    rw [cycleEach_memory_succ]
    unfold store
    rw [spared]
  high count _ beyond := machine.cycleEach_get channel world count beyond
  mapped count _ mapped := machine.cycleEach_isMapped channel world count mapped
  size_le count := (machine.cycleEach_size channel world count).1
  le_size count := (machine.cycleEach_size channel world count).2
  resumed fuel := by
    obtain ⟨count, small, same, -⟩ := machine.exists_cycleEach_of_resume channel fuel world
    exact ⟨count, small, same⟩

end Machine

end LittleMan
