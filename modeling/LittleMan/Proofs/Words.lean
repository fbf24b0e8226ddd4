import LittleMan.Cycle

/-! Registers and mapped cells hold words, the numbers up to 999. Only under this
invariant does decoding see the whole of a fetched number. -/

namespace LittleMan

def Memory.HoldsWords (memory : Memory) : Prop :=
  ∀ address word, memory.get address = some word → word ≤ 999

structure Machine.HoldsWords (machine : Machine) : Prop where
  memory : machine.memory.HoldsWords
  acc : machine.acc ≤ 999
  b : machine.b ≤ 999

theorem Machine.HoldsWords.working {machine : Machine} (words : machine.HoldsWords) :
    machine.working ≤ 999 := by
  unfold Machine.working
  split
  · exact words.b
  · exact words.acc

theorem Word.truncate_natCast (value : Nat) : truncate value = value % 1000 := by
  unfold truncate
  omega

namespace Memory

theorem read_eq_ok_iff {memory : Memory} {address word : Nat} :
    memory.read address = .ok word ↔ memory.get address = some word := by
  unfold read
  cases memory.get address <;> simp

theorem read_eq_error_iff {memory : Memory} {address : Nat} {fault : Fault} :
    memory.read address = .error fault ↔
      memory.get address = none ∧ fault = .unmappedMemory address := by
  unfold read
  cases memory.get address <;> simp [eq_comm]

theorem get_of_read_error {memory : Memory} {address : Nat} {fault : Fault}
    (unread : memory.read address = .error fault) : memory.get address = none :=
  (read_eq_error_iff.mp unread).1

theorem le_of_get {memory : Memory} {address word : Nat}
    (found : memory.get address = some word) : address ≤ 999 := by
  rcases Nat.lt_or_ge address 1000 with inside | beyond
  · exact Nat.le_of_lt_succ inside
  · rw [memory.get_eq_none_of_le beyond] at found
    cases found

theorem HoldsWords.empty : empty.HoldsWords := by
  intro address word found
  rw [get_empty] at found
  cases found

theorem HoldsWords.write {memory : Memory} (words : memory.HoldsWords) (address : Nat)
    {word : Nat} (small : word ≤ 999) : (memory.write address word).HoldsWords := by
  intro other found stored
  rw [get_write] at stored
  split at stored
  · cases stored
    exact small
  · exact words other found stored

end Memory

end LittleMan
