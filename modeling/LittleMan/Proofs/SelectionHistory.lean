import LittleMan.Proofs.CompletedCycles
import LittleMan.Proofs.RegisterSelection

/-! What selects B along a history. It lasts for one completed cycle, however many fail in between:
the next cycle to complete uses it up and writes to B, unless that selects B again. -/

namespace LittleMan

namespace Completed

/-- The word of a cycle selects B. A word beyond 999 counts as what it is reduced to. -/
def SelectsB (done : Completed) : Prop := done.word % 1000 = 401

end Completed

def LastSelectsB (log : List Completed) : Prop := ∃ last ∈ log.getLast?, last.SelectsB

/-- What a completed cycle does to the registers, after the cycles that have completed before. -/
structure OneShot (earlier : List Completed) (done : Completed) : Prop where
  resumes : ∀ previous ∈ earlier.getLast?, previous.after.SameRegisters done.before
  selected : done.before.useB = true ↔ LastSelectsB earlier
  redirected : LastSelectsB earlier → ¬done.SelectsB → done.after.acc = done.before.acc
  kept : ¬(LastSelectsB earlier ∧ ¬done.SelectsB) → done.after.b = done.before.b
  copied : LastSelectsB earlier → done.SelectsB → done.after.acc = done.before.b

section

variable {World : Type} {channel : Channel World}

namespace Completed

variable {done : Completed}

theorem SelectsB.decode (selects : done.SelectsB) : Instruction.decode done.word = .useB := by
  have reduced := (Instruction.encodes_decode done.word).decode
  rw [show done.word % 1000 = 401 from selects] at reduced
  exact reduced.symm

theorem Genuine.of_selects (genuine : done.Genuine channel) (selects : done.SelectsB) :
    done.after.acc = done.before.working ∧ done.after.b = done.before.b ∧
      done.after.flags = done.before.flags ∧ done.after.useB = true := by
  obtain ⟨world, executed, result, after, performed, left⟩ := genuine.exists_executed
  rw [selects.decode] at performed left
  cases performed
  have written : ¬(done.before.useB = true ∧ Instruction.useB ≠ .useB) := fun both => both.2 rfl
  rw [left, Machine.complete, Machine.writeBack, if_neg written]
  exact ⟨rfl, rfl, rfl, rfl⟩

theorem Genuine.of_other (genuine : done.Genuine channel) (other : ¬done.SelectsB) :
    done.after.useB = false ∧ (done.before.useB = true → done.after.acc = done.before.acc) ∧
      (done.before.useB = false → done.after.b = done.before.b) := by
  obtain ⟨world, executed, result, after, performed, left⟩ := genuine.exists_executed
  have selectsNone : Instruction.decode done.word ≠ .useB := Machine.decode_ne_useB other
  have acc : executed.acc = done.before.acc :=
    (congrArg Machine.acc (Machine.execute_frame performed)).symm
  have b := Machine.execute_b performed
  have useB := Machine.execute_useB selectsNone performed
  rw [left, Machine.complete, Machine.writeBack]
  cases onB : done.before.useB with
  | true =>
    rw [if_pos ⟨rfl, selectsNone⟩]
    exact ⟨rfl, fun _ => acc, fun off => absurd off (by simp)⟩
  | false =>
    rw [if_neg (by simp)]
    exact ⟨useB.trans onB, fun on => absurd on (by simp), fun _ => b⟩

theorem Genuine.useB_iff (genuine : done.Genuine channel) :
    done.after.useB = true ↔ done.SelectsB := by
  constructor
  · intro selected
    by_contra other
    rw [(genuine.of_other other).1] at selected
    cases selected
  · exact fun selects => (genuine.of_selects selects).2.2.2

end Completed

namespace Linked

variable {start final : Machine} {log earlier later : List Completed} {done : Completed}

private theorem useB_iff (plain : start.useB = false) (linked : Linked channel start log final) :
    final.useB = true ↔ LastSelectsB log := by
  cases found : log.getLast? with
  | none =>
    obtain rfl := List.getLast?_eq_none_iff.mp found
    cases linked with
    | nil same => simp [LastSelectsB, ← same.useB, plain]
  | some done =>
    have genuine := linked.genuine_of_mem (List.mem_of_getLast? found)
    have same := linked.last (Option.mem_def.mpr found)
    rw [← same.useB, genuine.useB_iff, LastSelectsB, found]
    simp

private theorem oneShot (plain : start.useB = false)
    (linked : Linked channel start (earlier ++ done :: later) final) : OneShot earlier done := by
  obtain ⟨middle, before, after⟩ := linked.split
  cases after with
  | cons begins genuine _ =>
    have selected : done.before.useB = true ↔ LastSelectsB earlier := by
      rw [← begins.useB, before.useB_iff plain]
    refine ⟨fun previous member => (before.last member).trans begins, selected, ?_, ?_, ?_⟩
    · exact fun last other => (genuine.of_other other).2.1 (selected.mpr last)
    · intro neither
      by_cases selects : done.SelectsB
      · exact (genuine.of_selects selects).2.1
      · apply (genuine.of_other selects).2.2
        exact Bool.eq_false_iff.mpr fun onB => neither ⟨selected.mp onB, selects⟩
    · intro last selects
      rw [(genuine.of_selects selects).1, Machine.working, if_pos (selected.mpr last)]

/-- Cycles that select B one after another leave B and the flags alone. From the second on, the
accumulator holds what B holds. -/
theorem of_selections (linked : Linked channel start log final) (present : log ≠ [])
    (selects : ∀ done ∈ log, done.SelectsB) :
    final.b = start.b ∧ final.flags = start.flags ∧ final.useB = true ∧
      (start.useB = true ∨ 2 ≤ log.length → final.acc = final.b) := by
  induction linked with
  | nil => contradiction
  | @cons start final done rest begins genuine others ih =>
    obtain ⟨first, remaining⟩ := List.forall_mem_cons.mp selects
    obtain ⟨acc, b, flags, useB⟩ := genuine.of_selects first
    by_cases more : rest = []
    · subst more
      cases others with
      | nil same =>
        refine ⟨by rw [← same.b, b, begins.b], by rw [← same.flags, flags, begins.flags],
          by rw [← same.useB, useB], ?_⟩
        rintro (onB | long)
        · rw [← same.acc, acc, ← same.b, b, Machine.working, if_pos (begins.useB ▸ onB)]
        · simp at long
    · obtain ⟨keptB, keptFlags, selected, equal⟩ := ih more remaining
      exact ⟨by rw [keptB, b, begins.b], by rw [keptFlags, flags, begins.flags], selected,
        fun _ => equal (.inl useB)⟩

end Linked

/-- Selecting B is one-shot along every history, of any operations on any channel. B is selected
exactly when the last completed cycle has selected it; the next one to complete either writes to B
and leaves the accumulator alone, or selects B again and copies it to the accumulator. -/
theorem useB_one_shot (channel : Channel World) (memory : Memory) (world : World)
    (history : List Operation) :
    let start : Machine × World := ({ memory }, world)
    let log := Operation.completedAll channel start history
    let machine := (Operation.performAll channel start history).1
    machine.cycles = log.length ∧ (machine.useB = true ↔ LastSelectsB log) ∧
      (∀ earlier done later, log = earlier ++ done :: later → OneShot earlier done) ∧
      ∀ earlier block later, log = earlier ++ (block ++ later) → 2 ≤ block.length →
        (∀ done ∈ block, done.SelectsB) →
        ∀ first ∈ block.head?, ∀ last ∈ block.getLast?,
          last.after.acc = last.after.b ∧ last.after.b = first.before.b ∧
            last.after.flags = first.before.flags ∧ last.after.useB = true := by
  intro start log machine
  have linked : Linked channel { memory } log machine := Operation.linked_performAll start history
  have counted := linked.cycles_eq
  rw [Nat.zero_add] at counted
  refine ⟨counted, linked.useB_iff rfl, ?_, ?_⟩
  · intro earlier done later cut
    rw [cut] at linked
    exact linked.oneShot rfl
  · intro earlier block later cut long selects first head last ends
    rw [cut] at linked
    obtain ⟨middle, -, behind⟩ := linked.split
    obtain ⟨reached, within, -⟩ := behind.split
    have present : block ≠ [] := by
      rintro rfl
      cases head
    obtain ⟨b, flags, useB, equal⟩ := within.of_selections present selects
    have left := within.last ends
    have begins : middle.SameRegisters first.before := by
      cases within with
      | nil => contradiction
      | cons begins =>
        cases head
        exact begins
    rw [left.acc, left.b, left.flags, left.useB, ← begins.b, ← begins.flags]
    exact ⟨equal (.inr long), b, flags, useB⟩

end

/-- B is selected, kept over a failed input and a jump, selected again and used up by a cell that a
text has mapped in between. -/
theorem useB_one_shot_over_failed_input :
    let memory := ((Memory.empty.write 0 401).write 1 901).write 2 510
    let start : Machine × Queue := ({ memory }, ⟨[], #[]⟩)
    let history := [Operation.cycle, .cycle, .setPc 0, .cycle, .load "10 7", .setPc 2, .cycle]
    let log := Operation.completedAll Queue.channel start history
    let machine := (Operation.performAll Queue.channel start history).1
    log.map Completed.word = [401, 401, 510] ∧ machine.b = 7 ∧ machine.acc = 0 ∧
      ∃ first second third, log = [first, second, third] ∧ OneShot [first, second] third ∧
        second.after.acc = second.after.b := by
  intro memory start history log machine
  have words : log.map Completed.word = [401, 401, 510] := by decide +kernel
  obtain ⟨first, rest, cut, one, others⟩ := List.map_eq_cons_iff.mp words
  obtain ⟨second, last, rfl, two, others⟩ := List.map_eq_cons_iff.mp others
  obtain ⟨third, rfl, -⟩ := List.map_eq_singleton_iff.mp others
  obtain ⟨-, -, each, blocks⟩ := useB_one_shot Queue.channel memory ⟨[], #[]⟩ history
  have selects : ∀ done ∈ [first, second], done.SelectsB := by
    simp [Completed.SelectsB, one, two]
  obtain ⟨equal, -⟩ := blocks [] [first, second] [third] cut (by simp) selects first rfl second rfl
  exact ⟨words, by decide +kernel, by decide +kernel, first, second, third, cut,
    each [first, second] third [] cut, equal⟩

end LittleMan
