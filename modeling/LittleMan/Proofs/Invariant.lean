import LittleMan.Proofs.InstructionTable
import LittleMan.Proofs.Resumption

/-! The invariant of cycles and runs. -/

namespace LittleMan.Machine

/-- Registers and cells hold words, and the flags do not call a number zero without calling
it positive. -/
structure Sound (machine : Machine) : Prop where
  words : machine.HoldsWords
  flags : machine.flags.zero = true → machine.flags.positive = true

theorem Sound.initial {memory : Memory} (words : memory.HoldsWords) :
    ({ memory } : Machine).Sound :=
  ⟨⟨words, Nat.zero_le _, Nat.zero_le _⟩, fun impossible => by cases impossible⟩

section

variable {World : Type} {channel : Channel World} {machine : Machine} {world told : World}

theorem HoldsWords.after {word : Nat} {effect : Effect} (words : machine.HoldsWords)
    (row : Row channel machine machine.working world word effect told) :
    (machine.after word effect).HoldsWords := by
  have small := row.result_le words
  have memory : (machine.undergo effect).memory.HoldsWords := by
    unfold undergo
    dsimp only
    split
    · exact words.memory.write _ words.working
    · exact words.memory
  unfold Machine.after
  dsimp only
  split
  · exact ⟨memory, words.acc, small⟩
  · exact ⟨memory, small, words.b⟩

theorem Sound.after {word : Nat} {effect : Effect} (sound : machine.Sound)
    (row : Row channel machine machine.working world word effect told) :
    (machine.after word effect).Sound := by
  have flags : (machine.undergo effect).flags.zero = true →
      (machine.undergo effect).flags.positive = true := by
    unfold undergo
    dsimp only
    split
    · simp only [decide_eq_true_eq]
      omega
    · exact sound.flags
  refine ⟨sound.words.after row, ?_⟩
  unfold Machine.after
  dsimp only
  split <;> exact flags

/-- What holds of a machine holds of it after a cycle if no row changes it, nor an advance of the
program counter. -/
theorem HoldsWords.cycle_preserves (words : machine.HoldsWords) (property : Machine → Prop)
    (advances : property machine → property machine.advance)
    (rows : property machine → ∀ word effect told,
      Row channel machine machine.working world word effect told →
        property (machine.after word effect))
    (holds : property machine) : property (machine.cycle channel world).machine := by
  match stepped : machine.cycle channel world with
  | ⟨.ok _, final, last⟩ =>
    obtain ⟨word, effect, told, fetched, row⟩ := Row.of_cycle words stepped
    rw [row.cycle words fetched] at stepped
    cases stepped
    exact rows holds word effect told row
  | ⟨.error fault, final, last⟩ =>
    rcases cycle_failed stepped with rfl | rfl
    · exact holds
    · exact advances holds

theorem HoldsWords.cycle (words : machine.HoldsWords) :
    (machine.cycle channel world).machine.HoldsWords :=
  words.cycle_preserves HoldsWords (fun words => ⟨words.memory, words.acc, words.b⟩)
    (fun words _ _ _ row => words.after row) words

theorem Sound.cycle (sound : machine.Sound) : (machine.cycle channel world).machine.Sound :=
  sound.words.cycle_preserves Sound
    (fun sound => ⟨⟨sound.words.memory, sound.words.acc, sound.words.b⟩, sound.flags⟩)
    (fun sound _ _ _ row => sound.after row) sound

theorem Sound.resume (sound : machine.Sound) (fuel : Nat) :
    (machine.resume channel fuel world).machine.Sound :=
  resume_preserves (fun state _ => state.Sound) (fun _ _ sound => sound.cycle) fuel sound

/-- A run leaves the program counter inside memory, or it has changed nothing. -/
theorem resume_pc (fuel : Nat) : (machine.resume channel fuel world).machine.pc ≤ 999 ∨
    (machine.resume channel fuel world).machine = machine := by
  apply resume_preserves (fun state _ => state.pc ≤ 999 ∨ state = machine) _ fuel (.inr rfl)
  rintro state current (inside | rfl)
  · rcases cycle_pc channel state current with moved | same
    · exact .inl moved
    · exact .inl (by rwa [same])
  · exact cycle_pc channel state current

end

end LittleMan.Machine
