import LittleMan.Program.Load

/-! Loading only ever maps a free cell to a word. Whatever such a write keeps is kept by
loading any text, also by one that stops at a fault. -/

namespace LittleMan.Program

theorem readWord_le {part : Part} {token : Token} {word : Nat}
    (read : readWord part token = .ok word) : word ≤ 999 := by
  unfold readWord at read
  split at read
  · cases read
  · split at read
    next inside =>
      cases read
      omega
    next => cases read

namespace Loading

section

variable {loading final : Loading} {first second : List (List Located)}

theorem loadLines_append {middle : Loading} (done : loading.loadLines first = (none, middle)) :
    loading.loadLines (first ++ second) = middle.loadLines second := by
  induction first generalizing loading with
  | nil =>
    cases done
    rfl
  | cons line first ih =>
    rw [loadLines] at done
    rw [List.cons_append, loadLines]
    split at done
    · cases done
    next => exact ih done

theorem exists_of_loadLines_append (loaded : loading.loadLines (first ++ second) = (none, final)) :
    ∃ middle, loading.loadLines first = (none, middle) ∧
      middle.loadLines second = (none, final) := by
  induction first generalizing loading with
  | nil => exact ⟨loading, rfl, loaded⟩
  | cons line first ih =>
    rw [List.cons_append, loadLines] at loaded
    rw [loadLines]
    split at loaded
    · cases loaded
    next => exact ih loaded

end

variable {invariant : Memory → Prop}
  (kept : ∀ memory address word, invariant memory → memory.get address = none →
    address ≤ 999 → word ≤ 999 → invariant (memory.write address word))

include kept

private theorem define_preserves {loading final : Loading} {line : List Located} {address : Nat}
    {value : Token} {extra : List Token} (holds : invariant loading.memory)
    (inside : address ≤ 999) (defined : loading.define line address value extra = .ok final) :
    invariant final.memory := by
  unfold define at defined
  split at defined
  · cases defined
  split at defined
  · cases defined
  next word read =>
    split at defined
    · cases defined
    next free =>
      cases defined
      exact kept _ _ _ holds (by simpa [Memory.isMapped] using free) inside (readWord_le read)

private theorem loadLine_preserves {loading final : Loading} {line : List Located}
    (holds : invariant loading.memory) (loaded : loading.loadLine line = .ok final) :
    invariant final.memory := by
  unfold loadLine at loaded
  split at loaded
  · cases loaded
    exact holds
  · split at loaded
    next room => exact define_preserves kept holds (by omega) loaded
    next => cases loaded
  · split at loaded
    · cases loaded
    next address read => exact define_preserves kept holds (readWord_le read) loaded

private theorem loadLines_preserves {loading : Loading} (holds : invariant loading.memory)
    (lines : List (List Located)) : invariant (loading.loadLines lines).2.memory := by
  induction lines generalizing loading with
  | nil => exact holds
  | cons line rest ih =>
    unfold loadLines
    split
    · exact holds
    next loaded => exact ih (loadLine_preserves kept holds loaded)

end Loading

theorem load_preserves {invariant : Memory → Prop}
    (kept : ∀ memory address word, invariant memory → memory.get address = none →
      address ≤ 999 → word ≤ 999 → invariant (memory.write address word))
    {memory : Memory} (holds : invariant memory) (text : String) :
    invariant (load text memory).2 :=
  Loading.loadLines_preserves kept holds (lines text)

end LittleMan.Program
