import LittleMan.Proofs.ExecutedInstructions
import LittleMan.Proofs.SelectionHistory

/-! What the flags tell along a history. They describe the value that the last cycle with a result to
describe has written back, whatever has completed, failed or been loaded since. -/

namespace LittleMan

namespace Completed

/-- The flags describe the result of a cycle with one of these words. -/
def SetsFlags (done : Completed) : Prop :=
  done.word % 1000 / 100 ∈ [1, 2, 3, 5] ∨ done.word % 1000 ∈ [402, 403, 901, 902]

/-- The value that a cycle has written back, in the register that it worked on. The word that selects
B writes to the accumulator. -/
def written (done : Completed) : Nat :=
  if done.before.useB = true ∧ done.word % 1000 ≠ 401 then done.after.b else done.after.acc

end Completed

theorem Machine.complete_written {machine : Machine} {instruction : Instruction} {result : Nat}
    (onB : Bool) :
    (if onB = true ∧ instruction ≠ .useB then (machine.complete instruction onB result).b
      else (machine.complete instruction onB result).acc) = result := by
  rw [complete, writeBack]
  split <;> rfl

section

variable {World : Type} {channel : Channel World}

namespace Completed

variable {done : Completed}

private theorem ne_useB_iff : Instruction.decode done.word ≠ .useB ↔ done.word % 1000 ≠ 401 := by
  constructor
  · intro other selects
    exact other (SelectsB.decode selects)
  · exact Machine.decode_ne_useB

private theorem setsFlags_iff : (Instruction.decode done.word).describes = true ↔ done.SetsFlags :=
  (Instruction.encodes_decode done.word).describes_iff

theorem Genuine.flags_of_describes (genuine : done.Genuine channel) :
    done.after.flags =
      if (Instruction.decode done.word).describes then Flags.of done.written
      else done.before.flags := by
  obtain ⟨world, executed, result, after, performed, left⟩ := genuine.exists_executed
  have written : done.written = result := by
    rw [Completed.written, left]
    simp only [← ne_useB_iff]
    apply Machine.complete_written
  rw [left, Machine.complete_flags, Machine.execute_changes performed, written]
  rfl

theorem Genuine.flags_of_sets (genuine : done.Genuine channel) (sets : done.SetsFlags) :
    done.after.flags = Flags.of done.written := by
  rw [genuine.flags_of_describes, if_pos (setsFlags_iff.mpr sets)]

theorem Genuine.flags_of_other (genuine : done.Genuine channel) (other : ¬done.SetsFlags) :
    done.after.flags = done.before.flags := by
  rw [genuine.flags_of_describes, if_neg fun describes => other (setsFlags_iff.mp describes)]

end Completed

namespace Linked

variable {start final : Machine} {log : List Completed}

private theorem flags_of_others (linked : Linked channel start log final)
    (others : ∀ done ∈ log, ¬done.SetsFlags) : final.flags = start.flags := by
  induction linked with
  | nil same => exact same.flags.symm
  | cons begins genuine _ ih =>
    obtain ⟨first, later⟩ := List.forall_mem_cons.mp others
    rw [ih later, genuine.flags_of_other first, begins.flags]

end Linked

/-- The flags describe the last result that sets them, along every history, of any operations on any
channel. Other cycles leave them alone, and so do all that fail. -/
theorem flags_describe_last_result (channel : Channel World) (memory : Memory) (world : World)
    (history : List Operation) :
    let start : Machine × World := ({ memory }, world)
    let log := Operation.completedAll channel start history
    let machine := (Operation.performAll channel start history).1
    machine.cycles = log.length ∧
      (∀ earlier last later, log = earlier ++ last :: later → last.SetsFlags →
        (∀ done ∈ later, ¬done.SetsFlags) →
        (machine.flags.zero = true ↔ last.written = 0) ∧
          (machine.flags.positive = true ↔ last.written < 500)) ∧
      ((∀ done ∈ log, ¬done.SetsFlags) →
        machine.flags.zero = false ∧ machine.flags.positive = false) ∧
      (∀ done ∈ log, ¬done.SetsFlags → done.after.flags = done.before.flags) ∧
      ∀ current fault final after, machine.cycle channel current = ⟨.error fault, final, after⟩ →
        final.flags = machine.flags := by
  intro start log machine
  have linked : Linked channel { memory } log machine := Operation.linked_performAll start history
  have counted := linked.cycles_eq
  rw [Nat.zero_add] at counted
  refine ⟨counted, ?_, ?_, ?_, ?_⟩
  · intro earlier last later cut sets others
    rw [cut] at linked
    obtain ⟨middle, -, behind⟩ := linked.split
    cases behind with
    | cons _ genuine rest =>
      rw [rest.flags_of_others others, genuine.flags_of_sets sets]
      simp [Flags.of]
  · intro others
    rw [linked.flags_of_others others]
    exact ⟨rfl, rfl⟩
  · intro done member
    apply Completed.Genuine.flags_of_other
    exact linked.genuine_of_mem member
  · intro current fault final after failed
    rcases Machine.cycle_failed failed with same | moved
    · rw [same]
    · rw [moved]
      rfl

end

/-- A product that wraps to zero is described over a division by it, a text loaded and a branch. -/
theorem flags_describe_last_result_of_wrapped_product :
    let program := (((Memory.empty.write 0 510).write 1 401).write 2 510).write 3 402
    let memory := ((program.write 4 403).write 5 600).write 10 500
    let start : Machine × Queue := ({ memory }, ⟨[], #[]⟩)
    let history := [Operation.resume 9, .load "20 7", .cycle]
    let log := Operation.completedAll Queue.channel start history
    let machine := (Operation.performAll Queue.channel start history).1
    ∃ earlier product branch, log = earlier ++ [product, branch] ∧ product.word = 402 ∧
      branch.word = 600 ∧ ¬branch.SetsFlags ∧ product.written = 0 ∧ machine.flags = ⟨true, true⟩ := by
  intro program memory start history log machine
  have words : log.map Completed.word = [510, 401, 510] ++ [402, 600] := by decide +kernel
  obtain ⟨earlier, others, cut, -, last⟩ := List.map_eq_append_iff.mp words
  obtain ⟨product, rest, rfl, multiplies, last⟩ := List.map_eq_cons_iff.mp last
  obtain ⟨branch, rfl, branches⟩ := List.map_eq_singleton_iff.mp last
  have sets : product.SetsFlags := by simp [Completed.SetsFlags, multiplies]
  have other : ¬branch.SetsFlags := by simp [Completed.SetsFlags, branches]
  obtain ⟨-, describe, -⟩ := flags_describe_last_result Queue.channel memory ⟨[], #[]⟩ history
  obtain ⟨zero, -⟩ := describe earlier product [branch] cut sets (by simpa using other)
  have wrapped : product.written = 0 := zero.mp (by decide +kernel)
  exact ⟨earlier, product, branch, cut, multiplies, branches, other, wrapped, by decide +kernel⟩

end LittleMan
