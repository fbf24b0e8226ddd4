import LittleMan.Text.Style
import Mathlib.Data.List.Induction

/-! Escape sequences by the places that they take in a text. One pass finds what is visible, and
remembers only whether it is inside a sequence; what it keeps stands at the places outside all
sequences. A text that leaves no sequence open is seen as by itself in front of every other one. -/

namespace LittleMan.Text

theorem escape_not_mem_visibleFrom (inside : Bool) (text : List Char) :
    escape ∉ visibleFrom inside text := by
  induction text generalizing inside with
  | nil => exact List.not_mem_nil
  | cons c rest ih =>
    rw [visibleFrom]
    split
    · exact ih _
    · split
      · exact ih _
      next other =>
        apply List.not_mem_cons_of_ne_of_not_mem
        · exact fun same => other same.symm
        · exact ih _

theorem visible_of_not_mem {text : List Char} (unescaped : escape ∉ text) :
    visible text = text := by
  unfold visible
  induction text with
  | nil => rfl
  | cons c text ih =>
    obtain ⟨first, others⟩ := List.ne_and_not_mem_of_not_mem_cons unescaped
    rw [visibleFrom, if_neg Bool.false_ne_true, if_neg first.symm, ih others]

theorem visibleFrom_append_ended {skipped : List Char} (unended : 'm' ∉ skipped)
    (rest : List Char) : visibleFrom true (skipped ++ 'm' :: rest) = visible rest := by
  induction skipped with
  | nil => rfl
  | cons c skipped ih =>
    obtain ⟨first, others⟩ := List.ne_and_not_mem_of_not_mem_cons unended
    rw [List.cons_append, visibleFrom, if_pos rfl, decide_eq_true first.symm, ih others]

/-- Whether a text ends inside an escape sequence, by whether it starts inside one. -/
def endsInside (inside : Bool) (text : List Char) : Bool :=
  text.foldl (fun inside c => if inside then c ≠ 'm' else c = escape) inside

private theorem endsInside_append (inside : Bool) (first rest : List Char) :
    endsInside inside (first ++ rest) = endsInside (endsInside inside first) rest :=
  List.foldl_append

theorem visibleFrom_append (inside : Bool) (first rest : List Char) :
    visibleFrom inside (first ++ rest) =
      visibleFrom inside first ++ visibleFrom (endsInside inside first) rest := by
  induction first generalizing inside with
  | nil => rfl
  | cons c first ih =>
    have next : endsInside inside (c :: first) =
        endsInside (if inside then c ≠ 'm' else c = escape) first := rfl
    rw [List.cons_append, visibleFrom, visibleFrom, next, ih, ih, ih]
    cases inside with
    | true => rfl
    | false => by_cases opens : c = escape <;> simp [opens]

private theorem endsInside_concat_iff (inside : Bool) (text : List Char) (c : Char) :
    endsInside inside (text ++ [c]) = true ↔
      (c = escape ∨ endsInside inside text = true) ∧ c ≠ 'm' := by
  rw [endsInside_append]
  cases endsInside inside text with
  | true => simp [endsInside]
  | false =>
    have opens : endsInside false [c] = decide (c = escape) := rfl
    have other : c = escape → c ≠ 'm' := by
      rintro rfl
      decide
    rw [opens, decide_eq_true_iff, or_iff_left Bool.false_ne_true, and_iff_left_of_imp other]

private theorem endsInside_of_not_mem {text : List Char} (unended : 'm' ∉ text) :
    endsInside true text = true := by
  induction text with
  | nil => rfl
  | cons c text ih =>
    obtain ⟨first, others⟩ := List.ne_and_not_mem_of_not_mem_cons unended
    have kept : endsInside true (c :: text) = endsInside (decide (c ≠ 'm')) text := rfl
    rw [kept, decide_eq_true first.symm, ih others]

/-- An `m` follows the last escape character of a text, if it has one. -/
def LeavesNoneOpen (text : List Char) : Prop :=
  ∀ before after, text = before ++ escape :: after → escape ∉ after → 'm' ∈ after

section

variable (text : List Char)

private theorem endsInside_iff_exists :
    endsInside false text = true ↔
      ∃ before after, text = before ++ escape :: after ∧ escape ∉ after ∧ 'm' ∉ after := by
  constructor
  · intro inside
    -- from the end, since it is the last escape character that is looked for
    induction text using List.reverseRecOn with
    | nil => cases inside
    | append_singleton text c ih =>
      obtain ⟨entered, unended⟩ := (endsInside_concat_iff false text c).mp inside
      by_cases opens : c = escape
      · exact ⟨text, [], by rw [opens], List.not_mem_nil, List.not_mem_nil⟩
      · obtain ⟨before, after, rfl, last, unclosed⟩ := ih (entered.resolve_left opens)
        refine ⟨before, after ++ [c], List.append_assoc _ _ _, ?_, ?_⟩
        · simpa [last] using Ne.symm opens
        · simpa [unclosed] using Ne.symm unended
  · rintro ⟨before, after, rfl, -, unclosed⟩
    have opened (inside : Bool) : endsInside inside (escape :: after) = endsInside true after := by
      cases inside <;> rfl
    rw [endsInside_append, opened, endsInside_of_not_mem unclosed]

private theorem leavesNoneOpen_iff : LeavesNoneOpen text ↔ endsInside false text = false := by
  rw [← Bool.not_eq_true, endsInside_iff_exists, LeavesNoneOpen]
  simp only [not_exists, not_and, not_not]

private theorem visible_append_iff :
    (∀ rest, visible (text ++ rest) = visible text ++ visible rest) ↔ LeavesNoneOpen text := by
  rw [leavesNoneOpen_iff]
  constructor
  · intro apart
    -- a blank is shown by itself, but does not end a sequence
    have shown := apart [' ']
    rw [visible, visibleFrom_append] at shown
    cases inside : endsInside false text with
    | false => rfl
    | true =>
      rw [inside] at shown
      cases List.append_cancel_left shown
  · intro closed rest
    rw [visible, visibleFrom_append, closed]
    rfl

variable {text}

theorem visible_append_of_not_mem (unescaped : escape ∉ text) (rest : List Char) :
    visible (text ++ rest) = text ++ visible rest := by
  have closed : LeavesNoneOpen text := by
    rintro before after rfl
    exact absurd (List.mem_append_right before List.mem_cons_self) unescaped
  rw [(visible_append_iff text).mpr closed, visible_of_not_mem unescaped]

end

section

variable (text : List Char)

/-- What begins at one place covers another up to and including the next `m`, or to the end of the
text when there is none. -/
def Covers (first place : Nat) : Prop :=
  first ≤ place ∧ ∀ between < place, first < between → text[between]? ≠ some 'm'

/-- An escape sequence begins with an escape character that is not inside another one. -/
def Begins (first : Nat) : Prop :=
  text[first]? = some escape ∧ ∀ earlier < first, Begins earlier → ¬ Covers text earlier first
termination_by first

def Inside (place : Nat) : Prop := ∃ first, Begins text first ∧ Covers text first place

def Continues (place : Nat) : Prop :=
  ∃ first < place, Begins text first ∧ Covers text first place

private theorem covers_self (place : Nat) : Covers text place place :=
  ⟨Nat.le_refl place, fun _ before behind => absurd behind (Nat.lt_asymm before)⟩

private theorem covers_succ_iff {first place : Nat} (le : first ≤ place) :
    Covers text first (place + 1) ↔
      Covers text first place ∧ (first < place → text[place]? ≠ some 'm') := by
  constructor
  · rintro ⟨-, unended⟩
    refine ⟨⟨le, ?_⟩, unended place (Nat.lt_succ_self place)⟩
    exact fun between inner => unended between (Nat.lt_succ_of_lt inner)
  · rintro ⟨⟨-, unended⟩, last⟩
    refine ⟨Nat.le_succ_of_le le, fun between inner behind => ?_⟩
    rcases Nat.lt_succ_iff_lt_or_eq.mp inner with earlier | rfl
    · exact unended between earlier behind
    · exact last behind

theorem Begins.getElem? {text : List Char} {first : Nat} (begun : Begins text first) :
    text[first]? = some escape := by
  rw [Begins] at begun
  exact begun.1

private theorem inside_iff_continues (place : Nat) :
    Inside text place ↔ text[place]? = some escape ∨ Continues text place := by
  constructor
  · intro ⟨first, begun, covers⟩
    rcases Nat.lt_or_eq_of_le covers.1 with before | rfl
    · exact .inr ⟨first, before, begun, covers⟩
    · exact .inl begun.getElem?
  · intro covered
    by_cases continues : Continues text place
    · obtain ⟨first, -, begun, covers⟩ := continues
      exact ⟨first, begun, covers⟩
    · refine ⟨place, ?_, covers_self text place⟩
      rw [Begins]
      exact ⟨covered.resolve_right continues,
        fun first before begun covers => continues ⟨first, before, begun, covers⟩⟩

private theorem continues_succ_iff (place : Nat) :
    Continues text (place + 1) ↔ Inside text place ∧ text[place]? ≠ some 'm' := by
  constructor
  · intro ⟨first, inner, begun, covers⟩
    have le := Nat.le_of_lt_succ inner
    obtain ⟨covers, unended⟩ := (covers_succ_iff text le).mp covers
    refine ⟨⟨first, begun, covers⟩, ?_⟩
    rcases Nat.lt_or_eq_of_le le with before | rfl
    · exact unended before
    · rw [begun.getElem?]
      decide
  · intro ⟨⟨first, begun, covers⟩, unended⟩
    exact ⟨first, Nat.lt_succ_of_le covers.1, begun,
      (covers_succ_iff text covers.1).mpr ⟨covers, fun _ => unended⟩⟩

private theorem endsInside_take_succ_iff (place : Nat) :
    endsInside false (text.take (place + 1)) = true ↔
      (text[place]? = some escape ∨ endsInside false (text.take place) = true) ∧
        text[place]? ≠ some 'm' := by
  rw [List.take_add_one]
  cases text[place]? with
  | none => simp
  | some c => simp [endsInside_concat_iff]

/-- The pass is inside a sequence in front of a place exactly when the sequence continues there. -/
theorem endsInside_take_iff (place : Nat) :
    endsInside false (text.take place) = true ↔ Continues text place := by
  induction place with
  | zero => simp [endsInside, Continues]
  | succ place ih => rw [endsInside_take_succ_iff, ih, ← inside_iff_continues, continues_succ_iff]

private theorem inside_iff (place : Nat) :
    Inside text place ↔
      text[place]? = some escape ∨ endsInside false (text.take place) = true := by
  rw [endsInside_take_iff, inside_iff_continues]

instance : DecidablePred (Inside text) := fun place => decidable_of_iff' _ (inside_iff text place)

/-- The characters of a text that stand outside its escape sequences. -/
def outside : List Char :=
  (text.zipIdx.filter fun entry => ¬ Inside text entry.2).map Prod.fst

end

/-- The rest of a text shows what stands outside the sequences of the whole. -/
theorem visibleFrom_endsInside (before rest : List Char) :
    visibleFrom (endsInside false before) rest =
      ((rest.zipIdx before.length).filter fun entry =>
        ¬ Inside (before ++ rest) entry.2).map Prod.fst := by
  induction rest generalizing before with
  | nil => rfl
  | cons c rest ih =>
    have here : Inside (before ++ c :: rest) before.length ↔
        c = escape ∨ endsInside false before = true := by
      rw [inside_iff]
      simp
    have parts : visibleFrom (endsInside false before) (c :: rest) =
        visibleFrom (endsInside false before) [c] ++
          visibleFrom (endsInside false (before ++ [c])) rest := by
      rw [endsInside_append]
      exact visibleFrom_append _ [c] rest
    rw [parts, ih, List.append_assoc, List.singleton_append, List.length_append,
      List.length_singleton, List.zipIdx_cons]
    by_cases covered : Inside (before ++ c :: rest) before.length
    · have hidden : visibleFrom (endsInside false before) [c] = [] := by
        rcases here.mp covered with rfl | inside
        · cases endsInside false before <;> rfl
        · rw [inside]
          rfl
      rw [hidden, List.nil_append, List.filter_cons_of_neg (by simpa using covered)]
    · have shown : visibleFrom (endsInside false before) [c] = [c] := by
        obtain ⟨opens, inside⟩ := not_or.mp (mt here.mpr covered)
        simp [visibleFrom, opens, inside]
      rw [shown, List.filter_cons_of_pos (by simpa using covered)]
      rfl

/-- What is visible of a text is what stands outside its escape sequences. No escape character is
left, so a second pass takes nothing away. A text is seen as by itself in front of every other one
exactly when an `m` follows its last escape character. -/
theorem visible_drops_escape_sequences (text : List Char) :
    visible text = outside text ∧ escape ∉ visible text ∧ visible (visible text) = visible text ∧
      ((∀ rest, visible (text ++ rest) = visible text ++ visible rest) ↔ LeavesNoneOpen text) := by
  have unescaped : escape ∉ visible text := escape_not_mem_visibleFrom false text
  refine ⟨?_, unescaped, visible_of_not_mem unescaped, visible_append_iff text⟩
  exact visibleFrom_endsInside [] text

/-- Inside a sequence an escape character opens no other one, and a later `m` is text. -/
example : outside "a\x1b[1\x1b[0mm b\x1b[2".toList = "am b".toList := by decide

end LittleMan.Text
