import LittleMan.Instruction

/-! The encoding of the instruction set. A word is a class, its hundreds digit, and a
two-digit operand. Every word encodes one instruction, and decoding finds it. -/

namespace LittleMan

inductive Encodes : Nat → Instruction → Prop where
  | halt : Encodes 0 .halt
  | trap {operand : Nat} (assigned : 0 < operand) (digits : operand < 100) :
      Encodes operand (.trap operand)
  | add {cell : Nat} (digits : cell < 100) : Encodes (100 + cell) (.add cell)
  | subtract {cell : Nat} (digits : cell < 100) : Encodes (200 + cell) (.subtract cell)
  | store {cell : Nat} (digits : cell < 100) : Encodes (300 + cell) (.store cell)
  | useB : Encodes 401 .useB
  | multiply : Encodes 402 .multiply
  | divide : Encodes 403 .divide
  | unknownExtended {operand : Nat} (free : operand = 0 ∨ 3 < operand)
      (digits : operand < 100) : Encodes (400 + operand) (.unknownExtended operand)
  | load {cell : Nat} (digits : cell < 100) : Encodes (500 + cell) (.load cell)
  | branch {target : Nat} (digits : target < 100) : Encodes (600 + target) (.branch target)
  | branchIfZero {target : Nat} (digits : target < 100) :
      Encodes (700 + target) (.branchIfZero target)
  | branchIfPositive {target : Nat} (digits : target < 100) :
      Encodes (800 + target) (.branchIfPositive target)
  | input : Encodes 901 .input
  | output : Encodes 902 .output
  | device {operand : Nat} (free : operand = 0 ∨ 2 < operand)
      (digits : operand < 100) : Encodes (900 + operand) (.device operand)

namespace Encodes

private theorem exists_instruction {word : Nat} (small : word ≤ 999) :
    ∃ instruction, Encodes word instruction := by
  obtain ⟨group, digit, rfl, known, digits⟩ :
      ∃ group digit, word = group * 100 + digit ∧ group < 10 ∧ digit < 100 :=
    ⟨word / 100, word % 100, by omega, by omega, by omega⟩
  match group, digit with
  | 0, 0 => exact ⟨_, .halt⟩
  | 0, digit + 1 => exact ⟨.trap (digit + 1), by simpa using trap (Nat.succ_pos digit) digits⟩
  | 1, _ => exact ⟨_, .add digits⟩
  | 2, _ => exact ⟨_, .subtract digits⟩
  | 3, _ => exact ⟨_, .store digits⟩
  | 4, 0 => exact ⟨_, .unknownExtended (.inl rfl) digits⟩
  | 4, 1 => exact ⟨_, .useB⟩
  | 4, 2 => exact ⟨_, .multiply⟩
  | 4, 3 => exact ⟨_, .divide⟩
  | 4, digit + 4 => exact ⟨_, .unknownExtended (.inr (by omega)) digits⟩
  | 5, _ => exact ⟨_, .load digits⟩
  | 6, _ => exact ⟨_, .branch digits⟩
  | 7, _ => exact ⟨_, .branchIfZero digits⟩
  | 8, _ => exact ⟨_, .branchIfPositive digits⟩
  | 9, 0 => exact ⟨_, .device (.inl rfl) digits⟩
  | 9, 1 => exact ⟨_, .input⟩
  | 9, 2 => exact ⟨_, .output⟩
  | 9, digit + 3 => exact ⟨_, .device (.inr (by omega)) digits⟩
  | _ + 10, _ => omega

open Word (operator operand)

private theorem parts (group : Nat) (known : group < 10) {digit : Nat} (digits : digit < 100) :
    operator ((100 * group + digit) % 1000) = group ∧
      operand ((100 * group + digit) % 1000) = digit := by
  unfold operator operand
  omega

theorem decode {word : Nat} {instruction : Instruction} (encoded : Encodes word instruction) :
    Instruction.decode word = instruction := by
  cases encoded with
  | halt | useB | multiply | divide | input | output => rfl
  | @trap operand assigned digits =>
    have split := parts 0 (by decide) digits
    rw [Nat.mul_zero, Nat.zero_add] at split
    simp only [Instruction.decode, split, if_neg (Nat.ne_of_gt assigned)]
  | add digits => simp only [Instruction.decode, parts 1 (by decide) digits]
  | subtract digits => simp only [Instruction.decode, parts 2 (by decide) digits]
  | store digits => simp only [Instruction.decode, parts 3 (by decide) digits]
  | @unknownExtended operand free digits =>
    simp only [Instruction.decode, parts 4 (by decide) digits]
    match operand with
    | 0 | _ + 4 => rfl
    | 1 | 2 | 3 => omega
  | load digits => simp only [Instruction.decode, parts 5 (by decide) digits]
  | branch digits => simp only [Instruction.decode, parts 6 (by decide) digits]
  | branchIfZero digits => simp only [Instruction.decode, parts 7 (by decide) digits]
  | branchIfPositive digits => simp only [Instruction.decode, parts 8 (by decide) digits]
  | @device operand free digits =>
    simp only [Instruction.decode, parts 9 (by decide) digits]
    match operand with
    | 0 | _ + 3 => rfl
    | 1 | 2 => omega

end Encodes

/-- Decoding finds the instruction that a word encodes, and reduces a longer number first. -/
theorem Instruction.encodes_decode (word : Nat) : Encodes (word % 1000) (decode word) := by
  have reduced : word % 1000 ≤ 999 := Nat.le_of_lt_succ (Nat.mod_lt word (by decide))
  obtain ⟨instruction, encoded⟩ := Encodes.exists_instruction reduced
  have same : decode word = decode (word % 1000) := by simp only [decode, Nat.mod_mod]
  rwa [same, encoded.decode]

theorem Instruction.encodes_decode_of_le {word : Nat} (small : word ≤ 999) :
    Encodes word (decode word) := by
  have encoded := encodes_decode word
  rwa [Nat.mod_eq_of_lt (Nat.lt_succ_of_le small)] at encoded

end LittleMan
