import LittleMan.Fault

/-! Memory of a thousand words. A cell that was never written holds nothing, and
reading it is a fault rather than a zero. -/

namespace LittleMan

/-- The cells 0 to 999, each mapped to a word or to nothing. -/
structure Memory where
  cells : Vector (Option Nat) 1000
deriving DecidableEq

namespace Memory

/-- No cell is mapped. -/
def empty : Memory := ⟨Vector.replicate 1000 none⟩

/-- The word at an address, if the address exists and its cell is mapped. -/
def get (memory : Memory) (address : Nat) : Option Nat :=
  memory.cells[address]?.join

def read (memory : Memory) (address : Nat) : Except Fault Nat :=
  match memory.get address with
  | some word => .ok word
  | none => .error (.unmappedMemory address)

/-- Maps a cell to a word. Addresses without a cell change nothing. -/
def write (memory : Memory) (address word : Nat) : Memory :=
  ⟨memory.cells.setIfInBounds address (some word)⟩

/-- Maps a cell to a word, or refuses an address without a cell. -/
def write? (memory : Memory) (address word : Nat) : Option Memory :=
  if address < 1000 then some (memory.write address word) else none

def isMapped (memory : Memory) (address : Nat) : Bool := (memory.get address).isSome

/-- The mapped cells in address order. -/
def toList (memory : Memory) : List (Nat × Nat) :=
  (List.range 1000).filterMap fun address => (memory.get address).map (address, ·)

/-- The number of mapped cells. -/
def size (memory : Memory) : Nat := memory.cells.countP Option.isSome

def isEmpty (memory : Memory) : Bool := memory.size = 0

theorem get_empty (address : Nat) : empty.get address = none := by
  simp only [get, empty, Vector.getElem?_replicate]
  split <;> rfl

theorem get_write (memory : Memory) (address word other : Nat) :
    (memory.write address word).get other =
      if other = address ∧ address < 1000 then some word else memory.get other := by
  simp only [get, write, Vector.getElem?_setIfInBounds]
  split
  · subst_vars
    split <;> simp_all
  · simp_all [eq_comm]

theorem get_eq_none_of_le (memory : Memory) {address : Nat} (beyond : 1000 ≤ address) :
    memory.get address = none := by
  simp [get, beyond]

/-- Two memories are equal when they agree on every address. -/
theorem ext_get {first second : Memory}
    (agree : ∀ address, first.get address = second.get address) : first = second := by
  obtain ⟨first⟩ := first
  obtain ⟨second⟩ := second
  congr
  ext address inside : 1
  simpa [get, inside] using agree address

end Memory

end LittleMan
