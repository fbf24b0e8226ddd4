import LittleMan.Proofs.LineShapes
import LittleMan.Proofs.TokenSlots

/-! The first line of a text and the end of a line. Lines are loaded one after another from where
their text begins; a line goes up to the first newline, and blanks at its end are not seen. -/

namespace LittleMan

namespace Text

variable {α β : Type} {ends : α → Bool}

/-- A list is closed but for a rest in which no piece ends. -/
theorem exists_closed_append (ends : α → Bool) (items : List α) :
    ∃ whole rest, items = whole ++ rest ∧ Closed ends whole ∧ ∀ item ∈ rest, ends item = false := by
  induction items with
  | nil => exact ⟨[], [], rfl, by simp [Closed], by simp⟩
  | cons item items ih =>
    obtain ⟨whole, rest, rfl, closed, inside⟩ := ih
    by_cases last : ends item = true
    · exact ⟨item :: whole, rest, rfl, closed.cons fun _ => last, inside⟩
    · cases whole with
      | nil =>
        exact ⟨[], item :: rest, rfl, closed,
          List.forall_mem_cons.mpr ⟨Bool.eq_false_iff.mpr last, inside⟩⟩
      | cons first whole =>
        exact ⟨item :: first :: whole, rest, rfl, closed.cons (by simp), inside⟩

/-- The first piece of a list goes up to the first end. -/
theorem pieces_line {line rest : List α} (clean : ∀ item ∈ line, ends item = false)
    (ended : ∀ item ∈ rest.head?, ends item = true) (present : line ++ rest ≠ []) :
    pieces ends (line ++ rest) = (line ++ rest.take 1) :: pieces ends rest.tail := by
  have first : pieces ends rest = [] ∧ rest = [] ∨
      pieces ends rest = rest.take 1 :: pieces ends rest.tail := by
    cases rest with
    | nil => exact .inl ⟨rfl, rfl⟩
    | cons item rest =>
      have last : ends item = true := ended item rfl
      rw [pieces, if_pos last]
      exact .inr rfl
  by_cases none : line = []
  · rcases first with ⟨-, empty⟩ | whole
    · exact absurd (List.append_eq_nil_iff.mpr ⟨none, empty⟩) present
    · rw [none, List.nil_append, List.nil_append, whole]
  · rw [pieces_open_append none clean]
    rcases first with ⟨none, rfl⟩ | whole
    · simp [none, joinFirst]
    · rw [whole, joinFirst]

private theorem trimBy_append {drop : α → Bool} (items : List α) {ending : List α}
    (dropped : ∀ item ∈ ending, drop item = true) :
    trimBy drop (items ++ ending) = trimBy drop items := by
  rw [trimBy, trimBy, List.dropWhile_append]
  split
  next none =>
    have gone : ending.dropWhile drop = [] := List.dropWhile_eq_nil_iff.mpr dropped
    rw [gone, List.isEmpty_iff.mp none]
  next =>
    rw [List.reverse_append, List.dropWhile_append_of_pos (by simpa using dropped)]

private theorem trimBy_ne_nil {drop : α → Bool} {items : List α} {item : α} (inside : item ∈ items)
    (stays : drop item = false) : trimBy drop items ≠ [] := by
  intro none
  have some : items.dropWhile drop ≠ [] := by
    intro gone
    rw [List.dropWhile_eq_nil_iff.mp gone item inside] at stays
    cases stays
  have first := List.head_dropWhile_not drop some
  have last := List.dropWhile_eq_nil_iff.mp (List.reverse_eq_nil_iff.mp none)
  rw [last _ (List.mem_reverse.mpr (List.head_mem some))] at first
  cases first

theorem trimBy_map (drop : β → Bool) (f : α → β) (items : List α) :
    trimBy drop (items.map f) = (trimBy (fun item => drop (f item)) items).map f := by
  simp only [trimBy, List.dropWhile_map, ← List.map_reverse]
  rfl

theorem ne_nil_of_mem_runs {separates : α → Bool} {items run : List α}
    (member : run ∈ runs separates items) : run ≠ [] := by
  simpa using (List.mem_filter.mp member).2

theorem runs_map (separates : β → Bool) (f : α → β) (items : List α) :
    runs separates (items.map f) =
      (runs (fun item => separates (f item)) items).map (List.map f) := by
  have falls : FallsInto (fun item => separates (f item) = true) items _ := runs_eq_iff.mp rfl
  have mapped : FallsInto (fun item => separates item = true) (items.map f) _ := falls.map f
  exact mapped.runs_eq

end Text

namespace Program

open Text
open String (utf8Len)

theorem opensComment_of_isBlank {c : Char} (blank : isBlank c = true) : opensComment c = false := by
  apply decide_eq_false
  rintro (rfl | rfl) <;> exact absurd blank (by decide)

theorem separates_of_isBlank {c : Char} (blank : isBlank c = true) : separates c = true := by
  simp [separates, blank]

theorem codeText_eq (line : List Char) : codeText line = line.takeWhile fun c => !opensComment c := by
  have same : (fun c : Char => decide (c ≠ ';' ∧ c ≠ '#')) = fun c => !opensComment c := by
    funext c
    simp [opensComment]
  rw [codeText, same]

section

variable {line ending : List Located} (blank : ∀ item ∈ ending, isBlank item.2 = true)

include blank

private theorem code_append_blank (line : List Located) :
    code (line ++ ending) = code line ∨ code (line ++ ending) = code line ++ ending := by
  have kept : ending.takeWhile (fun located => !opensComment located.2) = ending := by
    apply List.takeWhile_eq_self_iff.mpr
    intro item inside
    simp [opensComment_of_isBlank (blank item inside)]
  rw [code, code, List.takeWhile_append, kept]
  split
  next whole =>
    right
    rw [(List.takeWhile_prefix _).eq_of_length whole]
  next => exact .inl rfl

private theorem tokens_append_blank (line : List Located) :
    tokens (line ++ ending) = tokens line := by
  have apart : ∀ item ∈ ending, separates item.2 = true :=
    fun item inside => separates_of_isBlank (blank item inside)
  rcases code_append_blank blank line with same | more
  · rw [tokens, tokens, same]
  · rw [tokens, tokens, more, runs_append_separators _ apart]

private theorem trimmedCode_append_blank (line : List Located) :
    trimmedCode (line ++ ending) = trimmedCode line := by
  rcases code_append_blank blank line with same | more
  · rw [trimmedCode, trimmedCode, same]
  · rw [trimmedCode, trimmedCode, more, trimBy_append _ blank]

theorem Loading.loadLine_append_blank (loading : Loading) (line : List Located) :
    loading.loadLine (line ++ ending) = loading.loadLine line := by
  simp only [loadLine, define, tokens_append_blank blank, trimmedCode_append_blank blank]

end

theorem trimBy_code_ne_nil {line : List Located} (present : tokens line ≠ []) :
    trimBy (fun located => isBlank located.2) (code line) ≠ [] := by
  obtain ⟨item, inside, solid⟩ : ∃ item ∈ code line, separates item.2 = false := by
    by_contra none
    have apart : ∀ item ∈ code line, separates item.2 = true := by simpa using none
    rw [tokens, runs_separators apart] at present
    exact present rfl
  have stays : isBlank item.2 = false ∧ item.2 ≠ ':' := by simpa [separates] using solid
  exact trimBy_ne_nil inside stays.1

/-- Lines are loaded in parts, one after another, up to the first fault. -/
theorem Loading.loadLines_append_eq (loading : Loading) (first second : List (List Located)) :
    loading.loadLines (first ++ second) =
      match loading.loadLines first with
      | (some fault, final) => (some fault, final)
      | (none, middle) => middle.loadLines second := by
  induction first generalizing loading with
  | nil => rfl
  | cons line first ih =>
    rw [List.cons_append, loadLines, loadLines]
    cases loading.loadLine line with
    | error fault => rfl
    | ok middle => exact ih middle

def linesFrom (offset : Nat) (text : List Char) : List (List Located) :=
  pieces (fun located => located.2 = '\n') (locate offset text)

theorem linesFrom_append {first : List Char} (closed : Closed (fun c => c = '\n') first)
    (offset : Nat) (second : List Char) :
    linesFrom offset (first ++ second) =
      linesFrom offset first ++ linesFrom (offset + utf8Len first) second := by
  rw [linesFrom, locate_append, pieces_append (closed_locate offset closed)]
  rfl

/-- The first line of a text goes up to the first newline. -/
theorem linesFrom_line {line rest : List Char} (clean : '\n' ∉ line)
    (ended : rest = [] ∨ rest.head? = some '\n') (present : line ++ rest ≠ []) (offset : Nat) :
    linesFrom offset (line ++ rest) = locate offset (line ++ rest.take 1) ::
      linesFrom (offset + utf8Len (line ++ rest.take 1)) rest.tail := by
  have inside : ∀ located ∈ locate offset line, decide (located.2 = '\n') = false := by
    intro located member
    apply decide_eq_false
    intro newline
    exact clean (newline ▸ snd_mem_of_locate member)
  have split : locate offset (line ++ rest) =
      locate offset line ++ locate (offset + utf8Len line) rest := locate_append _ _ _
  have filled : locate offset line ++ locate (offset + utf8Len line) rest ≠ [] :=
    split ▸ locate_ne_nil present offset
  rw [linesFrom, split]
  cases rest with
  | nil =>
    rw [pieces_line inside (by simp [locate]) filled]
    simp [locate, linesFrom]
  | cons c rest =>
    obtain rfl : c = '\n' := by simpa using ended
    rw [pieces_line inside (by simp [locate]) filled, locate_append, String.utf8Len_append,
      ← Nat.add_assoc]
    rfl

def loadReport (name text : String) (memory : Memory) : Option Report :=
  (load text memory).1.map fun fault => fault.report ⟨name, text⟩

end Program

end LittleMan
