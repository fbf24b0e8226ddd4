import LittleMan.Text.Numeral
import Mathlib.Data.Nat.Digits.Defs

/-! Numerals by what they denote. Reading from the left with a bound on every step accepts
a numeral exactly when its whole value is in range: digits move a value away from zero, so a
value that ends inside the range has never left it. -/

namespace LittleMan.Text

def decimal (digits : List Char) : Nat :=
  Nat.ofDigits 10 (digits.map fun c => c.toNat - '0'.toNat).reverse

theorem decimal_cons (c : Char) (digits : List Char) :
    decimal (c :: digits) = (c.toNat - '0'.toNat) * 10 ^ digits.length + decimal digits := by
  simp only [decimal, List.map_cons, List.reverse_cons, Nat.ofDigits_append, List.length_reverse,
    List.length_map, Nat.ofDigits_singleton]
  rw [Nat.add_comm, Nat.mul_comm]

structure IsDecimal (digits : List Char) : Prop where
  present : digits ≠ []
  digit : ∀ c ∈ digits, c.isDigit = true

private theorem decimal_concat (digits : List Char) (c : Char) :
    decimal (digits ++ [c]) = 10 * decimal digits + (c.toNat - '0'.toNat) := by
  simp only [decimal, List.map_append, List.map_singleton, List.reverse_concat, Nat.ofDigits_cons]
  exact Nat.add_comm _ _

theorem decimal_toDigits (number : Nat) : decimal (Nat.toDigits 10 number) = number := by
  have digit {last : Nat} (small : last < 10) : last.digitChar.toNat - '0'.toNat = last :=
    Nat.toNat_digitChar_sub_48_of_lt_ten small
  induction number using Nat.strongRecOn with
  | ind number ih =>
    by_cases small : number < 10
    · have single := decimal_concat [] number.digitChar
      rw [digit small] at single
      rw [Nat.toDigits_of_lt_base small]
      exact single.trans (Nat.zero_add number)
    · have last : number % 10 < 10 := Nat.mod_lt _ (by decide)
      have split := Nat.toDigits_append_toDigits (by decide : 1 < 10) (by omega : 0 < number / 10) last
      rw [Nat.div_add_mod, Nat.toDigits_of_lt_base last] at split
      rw [← split, decimal_concat, ih (number / 10) (by omega), digit last, Nat.div_add_mod]

theorem isDecimal_toDigits (number : Nat) : IsDecimal (Nat.toDigits 10 number) where
  present := Nat.toDigits_ne_nil
  digit _ member := Nat.isDigit_of_mem_toDigits (by decide) (by decide) member

/-- An optional sign and decimal digits denote an integer. -/
inductive Denotes : List Char → Int → Prop where
  | unsigned {digits : List Char} (isDecimal : IsDecimal digits) :
      Denotes digits (decimal digits)
  | plus {digits : List Char} (isDecimal : IsDecimal digits) :
      Denotes ('+' :: digits) (decimal digits)
  | minus {digits : List Char} (isDecimal : IsDecimal digits) :
      Denotes ('-' :: digits) (-decimal digits)

section

variable {digits text : List Char} {value : Int}

private theorem denotes_plus_iff :
    Denotes ('+' :: digits) value ↔ IsDecimal digits ∧ value = decimal digits := by
  constructor
  · intro denoted
    cases denoted with
    | unsigned isDecimal => exact absurd (isDecimal.digit '+' List.mem_cons_self) (by decide)
    | plus isDecimal => exact ⟨isDecimal, rfl⟩
  · rintro ⟨isDecimal, rfl⟩
    exact .plus isDecimal

private theorem denotes_minus_iff :
    Denotes ('-' :: digits) value ↔ IsDecimal digits ∧ value = -decimal digits := by
  constructor
  · intro denoted
    cases denoted with
    | unsigned isDecimal => exact absurd (isDecimal.digit '-' List.mem_cons_self) (by decide)
    | minus isDecimal => exact ⟨isDecimal, rfl⟩
  · rintro ⟨isDecimal, rfl⟩
    exact .minus isDecimal

private theorem denotes_unsigned_iff (plus : ∀ digits, text ≠ '+' :: digits)
    (minus : ∀ digits, text ≠ '-' :: digits) :
    Denotes text value ↔ IsDecimal text ∧ value = decimal text := by
  constructor
  · intro denoted
    cases denoted with
    | unsigned isDecimal => exact ⟨isDecimal, rfl⟩
    | plus => exact absurd rfl (plus _)
    | minus => exact absurd rfl (minus _)
  · rintro ⟨isDecimal, rfl⟩
    exact .unsigned isDecimal

theorem Denotes.unique {other : Int} (denoted : Denotes text value) (also : Denotes text other) :
    value = other := by
  cases also with
  | unsigned isDecimal =>
    cases denoted with
    | unsigned => rfl
    | plus => exact absurd (isDecimal.digit '+' List.mem_cons_self) (by decide)
    | minus => exact absurd (isDecimal.digit '-' List.mem_cons_self) (by decide)
  | plus => exact (denotes_plus_iff.mp denoted).2
  | minus => exact (denotes_minus_iff.mp denoted).2

theorem Denotes.ne_nil (denoted : Denotes text value) :
    text ≠ [] := by
  cases denoted with
  | unsigned isDecimal => exact isDecimal.present
  | plus | minus => exact List.cons_ne_nil _ _

/-- The characters of a numeral are printed ones, and no blanks. -/
theorem Denotes.printing (denoted : Denotes text value) :
    ∀ c ∈ text, 32 < c.toNat ∧ c.toNat < 127 := by
  have digits {text : List Char} (isDecimal : IsDecimal text) :
      ∀ c ∈ text, 32 < c.toNat ∧ c.toNat < 127 := by
    intro c inside
    have digit := Char.isDigit_iff_toNat.mp (isDecimal.digit c inside)
    simp only [Char.reduceToNat] at digit
    omega
  cases denoted with
  | unsigned isDecimal => exact digits isDecimal
  | plus isDecimal | minus isDecimal =>
    exact List.forall_mem_cons.mpr ⟨by decide, digits isDecimal⟩

end

theorem denotes_numeral (value : Int) : Denotes (numeral value).toList value := by
  have isDecimal := isDecimal_toDigits value.natAbs
  have magnitude := decimal_toDigits value.natAbs
  rw [numeral, String.toList_ofList]
  split
  next negative =>
    rw [List.singleton_append, denotes_minus_iff, magnitude]
    exact ⟨isDecimal, by omega⟩
  next =>
    have denoted := Denotes.unsigned isDecimal
    have whole : (value.natAbs : Int) = value := by omega
    rwa [magnitude, whole] at denoted

namespace NumeralRange

def Holds (range : NumeralRange) (value : Int) : Prop :=
  range.lowest ≤ value ∧ value ≤ range.highest

def signedValue (negative : Bool) (magnitude : Nat) : Int :=
  if negative then -magnitude else magnitude

@[simp]
theorem signedValue_zero (negative : Bool) : signedValue negative 0 = 0 := by cases negative <;> rfl

section

variable {range : NumeralRange} {digits : List Char} {negative : Bool}

theorem Holds.of_le {small large : Nat} (zero : range.Holds 0) (less : small ≤ large)
    (holds : range.Holds (signedValue negative large)) :
    range.Holds (signedValue negative small) := by
  unfold Holds at zero holds ⊢
  cases negative
  · simp only [signedValue, Bool.false_eq_true, if_false] at holds ⊢
    omega
  · simp only [signedValue, if_true] at holds ⊢
    omega

private theorem readDigits_cons {c : Char} (digit : c.isDigit = true) (magnitude : Nat) :
    range.readDigits negative (c :: digits) (signedValue negative magnitude) =
      let next := signedValue negative (magnitude * 10 + (c.toNat - '0'.toNat))
      if range.highest < next then .error .tooLarge
      else if next < range.lowest then .error .tooSmall
      else range.readDigits negative digits next := by
  have bounds := Char.isDigit_iff_toNat.mp digit
  have step : (if negative then 10 * signedValue negative magnitude - ((c.toNat : Int) - '0'.toNat)
      else 10 * signedValue negative magnitude + ((c.toNat : Int) - '0'.toNat)) =
        signedValue negative (magnitude * 10 + (c.toNat - '0'.toNat)) := by
    cases negative
    · simp only [signedValue, Bool.false_eq_true, if_false]
      omega
    · simp only [signedValue, if_true]
      omega
  rw [readDigits, if_pos digit]
  simp only [step]

private theorem readDigits_cons_eq_ok_iff {c : Char} (digit : c.isDigit = true) (magnitude : Nat)
    (result : Int) :
    range.readDigits negative (c :: digits) (signedValue negative magnitude) = .ok result ↔
      let next := signedValue negative (magnitude * 10 + (c.toNat - '0'.toNat))
      range.Holds next ∧ range.readDigits negative digits next = .ok result := by
  rw [readDigits_cons digit]
  simp only [Holds]
  generalize signedValue negative (magnitude * 10 + (c.toNat - '0'.toNat)) = next
  split
  next tooLarge =>
    exact ⟨fun stopped => (by cases stopped), fun read => absurd read.1.2 (Int.not_le_of_gt tooLarge)⟩
  next small =>
    split
    next tooSmall =>
      exact ⟨fun stopped => (by cases stopped),
        fun read => absurd read.1.1 (Int.not_le_of_gt tooSmall)⟩
    next large =>
      have holds := And.intro (Int.le_of_not_gt large) (Int.le_of_not_gt small)
      exact ⟨fun read => ⟨holds, read⟩, And.right⟩

/-- Digits only lead out of a range with zero in it on the side of their sign. -/
theorem readDigits_error (zero : range.Holds 0) (digit : ∀ c ∈ digits, c.isDigit = true)
    {magnitude : Nat} {fault : NumeralFault}
    (refused : range.readDigits negative digits (signedValue negative magnitude) = .error fault) :
    fault = if negative then .tooSmall else .tooLarge := by
  induction digits generalizing magnitude with
  | nil => cases refused
  | cons c digits ih =>
    obtain ⟨first, others⟩ := List.forall_mem_cons.mp digit
    rw [readDigits_cons first] at refused
    dsimp only at refused
    split at refused
    next tooLarge =>
      cases refused
      cases negative
      · rfl
      · have low := zero.2
        simp only [signedValue, if_true] at tooLarge
        omega
    next =>
      split at refused
      next tooSmall =>
        cases refused
        cases negative
        · have high := zero.1
          simp only [signedValue, Bool.false_eq_true, if_false] at tooSmall
          omega
        · rfl
      next => exact ih others refused

private theorem readDigits_eq_ok_iff (zero : range.Holds 0) {magnitude : Nat} {result : Int}
    (start : range.Holds (signedValue negative magnitude)) :
    range.readDigits negative digits (signedValue negative magnitude) = .ok result ↔
      (∀ c ∈ digits, c.isDigit = true) ∧ range.Holds result ∧
        result = signedValue negative (magnitude * 10 ^ digits.length + decimal digits) := by
  induction digits generalizing magnitude with
  | nil =>
    have whole : magnitude * 10 ^ ([] : List Char).length + decimal [] = magnitude := by
      simp [decimal]
    rw [readDigits, whole, Except.ok.injEq]
    constructor
    · rintro rfl
      exact ⟨by simp, start, rfl⟩
    · exact fun read => read.2.2.symm
  | cons c digits ih =>
    by_cases digit : c.isDigit = true
    · have whole : magnitude * 10 ^ (c :: digits).length + decimal (c :: digits) =
          (magnitude * 10 + (c.toNat - '0'.toNat)) * 10 ^ digits.length + decimal digits := by
        rw [decimal_cons, List.length_cons, Nat.pow_succ]
        ring
      rw [readDigits_cons_eq_ok_iff digit, whole, List.forall_mem_cons]
      constructor
      · intro ⟨inside, read⟩
        obtain ⟨others, holds, same⟩ := (ih inside).mp read
        exact ⟨⟨digit, others⟩, holds, same⟩
      · rintro ⟨⟨-, others⟩, holds, same⟩
        have less : magnitude * 10 + (c.toNat - '0'.toNat) ≤
            (magnitude * 10 + (c.toNat - '0'.toNat)) * 10 ^ digits.length + decimal digits :=
          Nat.le_add_right_of_le (Nat.le_mul_of_pos_right _ (Nat.pow_pos (by decide)))
        have inside := zero.of_le less (same ▸ holds)
        exact ⟨inside, (ih inside).mpr ⟨others, holds, same⟩⟩
    · rw [readDigits, if_neg digit]
      simp [digit]

private theorem readDigits_zero_eq_ok_iff (zero : range.Holds 0) (present : digits ≠ [])
    {result : Int} :
    range.readDigits negative digits 0 = .ok result ↔
      (IsDecimal digits ∧ result = signedValue negative (decimal digits)) ∧
        range.Holds result := by
  have start := signedValue_zero negative
  have held : range.Holds (signedValue negative 0) := start.symm ▸ zero
  rw [← start, readDigits_eq_ok_iff zero held, Nat.zero_mul, Nat.zero_add]
  constructor
  · intro ⟨digit, holds, same⟩
    exact ⟨⟨⟨present, digit⟩, same⟩, holds⟩
  · intro ⟨⟨isDecimal, same⟩, holds⟩
    exact ⟨isDecimal.digit, holds, same⟩

private theorem read_eq_ok_iff (below : range.lowest < 0) (above : 0 ≤ range.highest)
    {text : List Char}
    {value : Int} : range.read text = .ok value ↔ Denotes text value ∧ range.Holds value := by
  have zero : range.Holds 0 := ⟨Int.le_of_lt below, above⟩
  unfold read
  split
  next =>
    rw [denotes_unsigned_iff (by simp) (by simp)]
    exact ⟨fun refused => (by cases refused), fun denoted => absurd rfl denoted.1.1.present⟩
  next =>
    rw [denotes_plus_iff]
    exact ⟨fun refused => (by cases refused), fun denoted => absurd rfl denoted.1.1.present⟩
  next digits lone =>
    rw [denotes_plus_iff]
    exact readDigits_zero_eq_ok_iff zero fun none => lone (none ▸ rfl)
  next digits =>
    rw [denotes_minus_iff]
    split
    next refused =>
      have none : digits = [] := by simpa [Int.not_le_of_gt below] using refused
      exact ⟨fun refused => (by cases refused), fun denoted => absurd none denoted.1.1.present⟩
    next allowed =>
      exact readDigits_zero_eq_ok_iff zero fun none => allowed (.inl (List.isEmpty_iff.mpr none))
  next empty _ plus minus =>
    rw [denotes_unsigned_iff (fun digits => plus digits) (fun digits => minus digits)]
    exact readDigits_zero_eq_ok_iff zero empty

theorem signed_read_eq_ok_iff (bits : Nat) {text : List Char} {value : Int} :
    (signed bits).read text = .ok value ↔ Denotes text value ∧ (signed bits).Holds value := by
  have half : 0 < Nat.pow 2 (bits - 1) := Nat.pow_pos (by decide)
  apply read_eq_ok_iff
  · simp only [signed]
    omega
  · simp only [signed]
    omega

private theorem read_of_denotes (below : range.lowest < 0) {text : List Char} {value : Int}
    (denoted : Denotes text value) :
    ∃ negative digits, IsDecimal digits ∧ value = signedValue negative (decimal digits) ∧
      range.read text = range.readDigits negative digits 0 := by
  cases denoted with
  | unsigned isDecimal =>
    refine ⟨false, text, isDecimal, rfl, ?_⟩
    unfold read
    split
    · exact absurd rfl isDecimal.present
    · exact absurd (isDecimal.digit '+' List.mem_cons_self) (by decide)
    · exact absurd (isDecimal.digit '+' List.mem_cons_self) (by decide)
    · exact absurd (isDecimal.digit '-' List.mem_cons_self) (by decide)
    · rfl
  | @plus digits isDecimal =>
    refine ⟨false, digits, isDecimal, rfl, ?_⟩
    rw [read]
    exact isDecimal.present
  | @minus digits isDecimal =>
    have signed : ¬(digits.isEmpty = true ∨ 0 ≤ range.lowest) := by
      simp [isDecimal.present, Int.not_le_of_gt below]
    exact ⟨true, digits, isDecimal, rfl, if_neg signed⟩

/-- A numeral out of range is refused for the side on which it lies, however long it is. -/
theorem signed_read_eq_error (bits : Nat) {text : List Char} {value : Int}
    (denoted : Denotes text value) (outside : ¬(signed bits).Holds value) :
    (signed bits).read text = .error (if value < 0 then .tooSmall else .tooLarge) := by
  have half : 0 < Nat.pow 2 (bits - 1) := Nat.pow_pos (by decide)
  have below : (signed bits).lowest < 0 := by
    simp only [signed]
    omega
  have zero : (signed bits).Holds 0 := by
    simp only [Holds, signed]
    omega
  cases read : (signed bits).read text with
  | ok other =>
    obtain ⟨also, holds⟩ := (signed_read_eq_ok_iff bits).mp read
    exact absurd (also.unique denoted ▸ holds) outside
  | error fault =>
    obtain ⟨negative, digits, isDecimal, same, digitwise⟩ := read_of_denotes below denoted
    rw [digitwise, ← signedValue_zero negative] at read
    rw [readDigits_error zero isDecimal.digit read]
    have sign : negative = true ↔ value < 0 := by
      have nonzero : value ≠ 0 := fun none => outside (none ▸ zero)
      subst same
      cases negative
      · simp only [signedValue, Bool.false_eq_true, if_false, false_iff]
        omega
      · simp only [signedValue, if_true, true_iff] at nonzero ⊢
        omega
    simp only [sign]

end

end NumeralRange

end LittleMan.Text
