import LittleMan.Program.Line
import LittleMan.Proofs.MaximalRuns
import Mathlib.Data.List.Forall2
import Mathlib.Data.List.TakeWhile

/-! The lines of a program text and their tokens as a reader sees them. Loading keeps the
newline of a line and the carriage return before it, and tells every character its offset;
the tokens are the same. -/

namespace LittleMan

namespace Text

variable {α β : Type}

private theorem map_extendFirst (f : α → β) (item : α) (lists : List (List α)) :
    (extendFirst item lists).map (List.map f) = extendFirst (f item) (lists.map (List.map f)) := by
  cases lists <;> rfl

theorem map_pieces (ends : β → Bool) (f : α → β) (items : List α) :
    (pieces (fun item => ends (f item)) items).map (List.map f) =
      pieces ends (items.map f) := by
  induction items with
  | nil => rfl
  | cons item rest ih =>
    rw [List.map_cons, pieces, pieces]
    split
    · rw [List.map_cons, ih]
      rfl
    · rw [map_extendFirst, ih]

end Text

namespace Program

open Text

/-- The lines of a text. A newline ends a line, together with a carriage return that stands
right before it. What follows the last newline is a line if there is anything. -/
def textLines : List Char → List (List Char)
  | [] => []
  | '\n' :: rest => [] :: textLines rest
  | '\r' :: '\n' :: rest => [] :: textLines rest
  | c :: rest => extendFirst c (textLines rest)

/-- The tokens of a line are the maximal runs without white space and `:` in what stands
before its first `;` or `#`. -/
def HasTokens (line : List Char) (found : List (List Char)) : Prop :=
  FallsInto (fun c => isBlank c = true ∨ c = ':')
    (line.takeWhile fun c => c ≠ ';' ∧ c ≠ '#') found

def Ended (piece line : List Char) : Prop :=
  ∃ ending ∈ [[], ['\n'], ['\r', '\n']], piece = line ++ ending

def Shows (piece : List Located) (line : List Char) : Prop :=
  HasTokens line ((tokens piece).map Token.text)

theorem hasTokens_iff {line : List Char} {found : List (List Char)} :
    HasTokens line found ↔
      runs separates (line.takeWhile fun c => !opensComment c) = found := by
  have code : (fun c : Char => decide (c ≠ ';' ∧ c ≠ '#')) = fun c => !opensComment c := by
    funext c
    simp [opensComment]
  rw [runs_eq_iff, HasTokens, code]
  simp only [separates, decide_eq_true_eq]

theorem HasTokens.eq {line : List Char} {first second : List (List Char)}
    (one : HasTokens line first) (other : HasTokens line second) : first = second :=
  (hasTokens_iff.mp one).symm.trans (hasTokens_iff.mp other)

theorem tokens_text (piece : List Located) :
    (tokens piece).map Token.text =
      runs separates ((piece.map Prod.snd).takeWhile fun c => !opensComment c) := by
  have falls : FallsInto (fun located : Located => separates located.2 = true) (code piece)
      (runs (fun located => separates located.2) (code piece)) := runs_eq_iff.mp rfl
  have mapped : FallsInto (fun c => separates c = true) ((code piece).map Prod.snd) _ :=
    falls.map Prod.snd
  rw [List.takeWhile_map, tokens, List.map_map]
  exact mapped.runs_eq.symm

theorem Ended.shows {piece : List Located} {line : List Char}
    (ended : Ended (piece.map Prod.snd) line) : Shows piece line := by
  obtain ⟨ending, known, same⟩ := ended
  have apart : ∀ c ∈ ending, separates c = true ∧ (!opensComment c) = true := by
    simp only [List.mem_cons, List.not_mem_nil, or_false] at known
    rcases known with rfl | rfl | rfl <;> simp [separates, isBlank, opensComment]
  rw [Shows, hasTokens_iff, tokens_text, same, List.takeWhile_append]
  split
  next whole =>
    have kept : ending.takeWhile (fun c => !opensComment c) = ending :=
      List.takeWhile_eq_self_iff.mpr fun c inside => (apart c inside).2
    have all : line.takeWhile (fun c => !opensComment c) = line :=
      (List.takeWhile_prefix _).eq_of_length whole
    rw [kept, all, runs_append_separators _ fun c inside => (apart c inside).1]
  next => rfl

private theorem ended_extendFirst (c : Char) {found expected : List (List Char)}
    (ended : List.Forall₂ Ended found expected) :
    List.Forall₂ Ended (extendFirst c found) (extendFirst c expected) := by
  cases ended with
  | nil => exact .cons ⟨[], by simp, rfl⟩ .nil
  | cons first others =>
    obtain ⟨ending, known, rfl⟩ := first
    exact .cons ⟨ending, known, rfl⟩ others

private theorem pieces_ended (text : List Char) :
    List.Forall₂ Ended (pieces (fun c => c = '\n') text) (textLines text) := by
  fun_induction textLines text with
  | case1 => exact .nil
  | case2 rest ih => exact .cons ⟨['\n'], by simp, rfl⟩ ih
  | case3 rest ih => exact .cons ⟨['\r', '\n'], by simp, rfl⟩ ih
  | case4 c rest newline _ ih =>
    rw [pieces, if_neg (by simpa using newline)]
    exact ended_extendFirst c ih

theorem map_locate (offset : Nat) (text : List Char) :
    (locate offset text).map Prod.snd = text := by
  induction text generalizing offset with
  | nil => rfl
  | cons c rest ih => rw [locate, List.map_cons, ih]

/-- Loading sees the tokens of the lines of a text, wherever it starts to count. -/
theorem pieces_show (offset : Nat) (text : List Char) :
    List.Forall₂ Shows (pieces (fun located => located.2 = '\n') (locate offset text))
      (textLines text) := by
  have ended := pieces_ended text
  rw [← map_locate offset text, ← map_pieces, map_locate, List.forall₂_map_left_iff] at ended
  exact ended.imp fun _ _ => Ended.shows

theorem lines_show (text : String) : List.Forall₂ Shows (lines text) (textLines text.toList) :=
  pieces_show 0 text.toList

end Program

end LittleMan
