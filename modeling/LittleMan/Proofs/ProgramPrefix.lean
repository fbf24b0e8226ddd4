import LittleMan.Proofs.ProgramLines
import Mathlib.Data.String.Basic

/-! The first lines of a program text as a text of their own. A text can be cut after the end
of any of its lines, and both ways of reading lines see the lines on either side of the cut. -/

namespace LittleMan

namespace Text

variable {α : Type} {ends : α → Bool}

/-- Nothing is left open at the end of a list. -/
def Closed (ends : α → Bool) (items : List α) : Prop := ∀ item ∈ items.getLast?, ends item = true

theorem Closed.of_cons {item : α} {rest : List α} (closed : Closed ends (item :: rest)) :
    Closed ends rest := by
  intro last found
  apply closed
  cases rest with
  | nil => cases found
  | cons => rwa [List.getLast?_cons_cons]

theorem Closed.cons {item : α} {rest : List α} (closed : Closed ends rest)
    (alone : rest = [] → ends item = true) : Closed ends (item :: rest) := by
  intro last found
  cases rest with
  | nil =>
    cases found
    exact alone rfl
  | cons =>
    rw [List.getLast?_cons_cons] at found
    exact closed last found

private theorem pieces_ne_nil {items : List α} (present : items ≠ []) : pieces ends items ≠ [] := by
  intro none
  apply present
  rw [← flatten_pieces ends items, none, List.flatten_nil]

private theorem extendFirst_append (item : α) {first : List (List α)} (present : first ≠ [])
    (second : List (List α)) :
    extendFirst item (first ++ second) = extendFirst item first ++ second := by
  cases first with
  | nil => exact absurd rfl present
  | cons => rfl

theorem pieces_append {first : List α} (closed : Closed ends first) (second : List α) :
    pieces ends (first ++ second) = pieces ends first ++ pieces ends second := by
  induction first with
  | nil => rfl
  | cons item rest ih =>
    rw [List.cons_append, pieces, pieces, ih closed.of_cons]
    split
    · rfl
    next continues =>
      have present : rest ≠ [] := by
        rintro rfl
        exact continues (closed item rfl)
      exact extendFirst_append item (pieces_ne_nil present) _

end Text

namespace Program

open Text
open String (utf8Len)

theorem locate_append (offset : Nat) (first second : List Char) :
    locate offset (first ++ second) =
      locate offset first ++ locate (offset + utf8Len first) second := by
  induction first generalizing offset with
  | nil => rfl
  | cons c rest ih =>
    rw [List.cons_append, locate, locate, ih, String.utf8Len_cons, Nat.add_comm (utf8Len rest),
      Nat.add_assoc]
    rfl

theorem closed_locate {text : List Char} (offset : Nat)
    (closed : Closed (fun c => c = '\n') text) :
    Closed (fun located : Located => located.2 = '\n') (locate offset text) := by
  intro last found
  apply closed
  have mapped := congrArg (Option.map Prod.snd) (Option.mem_def.mp found)
  rwa [← List.getLast?_map, map_locate] at mapped

/-- The lines of a closed text stay the first lines when more text follows. -/
theorem lines_append {first : List Char} (closed : Closed (fun c => c = '\n') first)
    (second : List Char) :
    lines (String.ofList (first ++ second)) = lines (String.ofList first) ++
      pieces (fun located => located.2 = '\n') (locate (utf8Len first) second) := by
  rw [lines, lines, String.toList_ofList, String.toList_ofList, locate_append, Nat.zero_add,
    pieces_append (closed_locate 0 closed)]

private theorem textLines_split {text : List Char} {before after : List (List Char)}
    {line : List Char}
    (falls : textLines text = before ++ line :: after) :
    ∃ earlier rest, text = earlier ++ rest ∧ Closed (fun c => c = '\n') earlier ∧
      textLines earlier = before := by
  fun_induction textLines text generalizing before with
  | case1 => simp at falls
  | case2 rest ih =>
    cases before with
    | nil => exact ⟨[], _, rfl, by simp [Closed], rfl⟩
    | cons first before =>
      obtain ⟨rfl, tail⟩ := List.cons.inj falls
      obtain ⟨earlier, more, rfl, closed, same⟩ := ih tail
      exact ⟨'\n' :: earlier, more, rfl, closed.cons fun _ => rfl, by rw [textLines, same]⟩
  | case3 rest ih =>
    cases before with
    | nil => exact ⟨[], _, rfl, by simp [Closed], rfl⟩
    | cons first before =>
      obtain ⟨rfl, tail⟩ := List.cons.inj falls
      obtain ⟨earlier, more, rfl, closed, same⟩ := ih tail
      refine ⟨'\r' :: '\n' :: earlier, more, rfl, ?_, by rw [textLines, same]⟩
      exact (closed.cons fun _ => rfl).cons (by simp)
  | case4 c rest newline crlf ih =>
    cases before with
    | nil => exact ⟨[], _, rfl, by simp [Closed], rfl⟩
    | cons first before =>
      obtain ⟨next, others, found⟩ : ∃ next others, textLines rest = next :: others := by
        cases found : textLines rest with
        | nil => simp [found, extendFirst] at falls
        | cons next others => exact ⟨next, others, rfl⟩
      rw [found] at falls
      obtain ⟨rfl, rfl⟩ := List.cons.inj falls
      obtain ⟨earlier, more, rfl, closed, same⟩ := @ih (next :: before) found
      have present : earlier ≠ [] := by
        rintro rfl
        cases same
      refine ⟨c :: earlier, more, rfl, closed.cons fun none => absurd none present, ?_⟩
      rw [textLines, same]
      · rfl
      · exact newline
      · rintro others rfl rfl
        exact crlf _ rfl rfl

theorem forall₂_append_cons {α β : Type} {related : α → β → Prop} {first rest : List α} {item : α}
    {found : List β} (all : List.Forall₂ related (first ++ item :: rest) found) :
    ∃ before other later, found = before ++ other :: later ∧
      List.Forall₂ related first before ∧ related item other := by
  induction first generalizing found with
  | nil =>
    obtain ⟨other, later, here, -, rfl⟩ := List.forall₂_cons_left_iff.mp all
    exact ⟨[], other, later, rfl, .nil, here⟩
  | cons head first ih =>
    obtain ⟨start, more, here, others, rfl⟩ := List.forall₂_cons_left_iff.mp all
    obtain ⟨before, other, later, rfl, shared, there⟩ := ih others
    exact ⟨start :: before, other, later, rfl, .cons here shared, there⟩

/-- What stands before a located line of a text is a text of its own, with the lines before it. -/
theorem lines_split {text : String} {pieces rest : List (List Located)} {piece : List Located}
    (cut : lines text = pieces ++ piece :: rest) :
    ∃ earlier line later, earlier.toList <+: text.toList ∧
      textLines text.toList = textLines earlier.toList ++ line :: later ∧
      lines earlier = pieces ∧ Shows piece line := by
  obtain ⟨before, line, later, falls, shown, shows⟩ :=
    forall₂_append_cons (cut ▸ lines_show text)
  obtain ⟨earlier, more, whole, closed, rfl⟩ := textLines_split falls
  have agrees := lines_append closed more
  rw [← whole, String.ofList_toList, cut] at agrees
  -- Both are first lines of the text, so they are the same if there are as many.
  have sizes := (lines_show (String.ofList earlier)).length_eq
  rw [String.toList_ofList, ← shown.length_eq] at sizes
  refine ⟨String.ofList earlier, line, later, ?_, ?_,
    (List.append_inj_left agrees sizes.symm).symm, shows⟩
  · rw [String.toList_ofList, whole]
    exact List.prefix_append _ _
  · rw [String.toList_ofList, falls]

end Program

end LittleMan
