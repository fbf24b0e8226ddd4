import LittleMan.Proofs.LineEnds

/-! Loading two texts as one, with a newline between them. The seam is blank wherever it falls:
after a line end it makes an empty line, after a carriage return or a comment it ends the line that
is open. What follows it is the second text, further on. -/

namespace LittleMan.Program

open Text
open String (utf8Len)

theorem Loading.loadLines_newline (loading : Loading) (offset : Nat) (text : List Char) :
    loading.loadLines (linesFrom offset (text ++ ['\n'])) =
      loading.loadLines (linesFrom offset text) := by
  obtain ⟨whole, rest, rfl, closed, inside⟩ := exists_closed_append (fun c => c = '\n') text
  have clean : '\n' ∉ rest := fun member => by simpa using inside _ member
  have blank (offset : Nat) : ∀ item ∈ locate offset ['\n'], isBlank item.2 = true := by
    simp [locate, isBlank]
  -- The newline makes a line of its own or ends the one that is open.
  have last (middle : Loading) (offset : Nat) :
      middle.loadLines (linesFrom offset (rest ++ ['\n'])) =
        middle.loadLines (linesFrom offset rest) := by
    have added (line : List Located) (offset : Nat) :
        middle.loadLines [line ++ locate offset ['\n']] = middle.loadLines [line] := by
      rw [loadLines, loadLines, loadLine_append_blank (blank offset)]
    by_cases none : rest = []
    · rw [none]
      exact added [] offset
    · have alone := linesFrom_line clean (.inl rfl) (by simpa using none) offset
      rw [List.append_nil, List.take_nil, List.append_nil] at alone
      rw [linesFrom_line clean (.inr rfl) (by simp), alone, List.take_one, List.head?_cons,
        Option.toList_some, locate_append]
      exact added _ _
  rw [List.append_assoc, linesFrom_append closed, linesFrom_append closed, loadLines_append_eq,
    loadLines_append_eq]
  split
  · rfl
  next middle _ => exact last middle _

/-! ### A text further on -/

def move (distance : Nat) (located : Located) : Located := (located.1 + distance, located.2)

def Token.move (distance : Nat) (token : Token) : Token :=
  ⟨token.text, token.extent.offset + distance, token.extent.length⟩

def LoadFault.move (distance : Nat) (fault : LoadFault) : LoadFault :=
  ⟨fault.cause, fault.extent.offset + distance, fault.extent.length⟩

section

variable (distance : Nat)

private theorem locate_add (offset : Nat) (text : List Char) :
    locate (offset + distance) text = (locate offset text).map (move distance) := by
  induction text generalizing offset with
  | nil => rfl
  | cons c rest ih =>
    rw [locate, locate, List.map_cons, ← ih, move, Nat.add_right_comm]

private theorem linesFrom_add (offset : Nat) (text : List Char) :
    linesFrom (offset + distance) text =
      (linesFrom offset text).map (List.map (move distance)) := by
  rw [linesFrom, locate_add]
  exact (map_pieces (fun located : Located => located.2 = '\n') (move distance) _).symm

private theorem of_map_move {stretch : List Located} (present : stretch ≠ []) :
    Token.of (stretch.map (move distance)) = (Token.of stretch).move distance := by
  obtain ⟨first, rest, rfl⟩ := List.exists_cons_of_ne_nil present
  have same : (fun located : Located => (move distance located).2) = Prod.snd := rfl
  simp only [Token.of, Token.move, List.map_map, Function.comp_def, same, List.map_cons]
  rfl

private theorem code_map_move (line : List Located) :
    code (line.map (move distance)) = (code line).map (move distance) := List.takeWhile_map

private theorem tokens_map_move (line : List Located) :
    tokens (line.map (move distance)) = (tokens line).map (Token.move distance) := by
  rw [tokens, code_map_move, runs_map, List.map_map, tokens, List.map_map]
  apply List.map_congr_left
  intro run member
  exact of_map_move distance (ne_nil_of_mem_runs member)

private theorem trimmedCode_map_move {line : List Located} (present : tokens line ≠ []) :
    trimmedCode (line.map (move distance)) = (trimmedCode line).move distance := by
  rw [trimmedCode, code_map_move, trimBy_map]
  exact of_map_move distance (trimBy_code_ne_nil present)

private theorem readWord_move (part : Part) (token : Token) :
    readWord part (token.move distance) =
      (readWord part token).mapError (LoadFault.move distance) := by
  unfold readWord
  dsimp only [Token.move]
  cases (NumeralRange.signed 64).read token.text with
  | error fault => rfl
  | ok value =>
    dsimp only
    split <;> rfl

namespace Loading

variable (loading : Loading)

private theorem define_move {line : List Located} (present : tokens line ≠ []) (address : Nat)
    (value : Token) (extra : List Token) :
    loading.define (line.map (move distance)) address (value.move distance)
        (extra.map (Token.move distance)) =
      (loading.define line address value extra).mapError (LoadFault.move distance) := by
  cases extra with
  | cons => rfl
  | nil =>
    rw [List.map_nil, define, define, readWord_move]
    cases readWord .value value with
    | error fault => rfl
    | ok word =>
      simp only [Except.mapError, trimmedCode_map_move distance present]
      split <;> rfl

private theorem loadLine_move (line : List Located) :
    loading.loadLine (line.map (move distance)) =
      (loading.loadLine line).mapError (LoadFault.move distance) := by
  rw [loadLine, loadLine, tokens_map_move]
  cases found : tokens line with
  | nil => rfl
  | cons first more =>
    have present : tokens line ≠ [] := by simp [found]
    cases more with
    | nil =>
      simp only [List.map_cons, List.map_nil]
      split
      · exact loading.define_move distance present _ first []
      · rfl
    | cons value extra =>
      simp only [List.map_cons, readWord_move]
      cases readWord .address first with
      | error fault => rfl
      | ok address => exact loading.define_move distance present address value extra

private theorem loadLines_move (lines : List (List Located)) :
    loading.loadLines (lines.map (List.map (move distance))) =
      ((loading.loadLines lines).1.map (LoadFault.move distance), (loading.loadLines lines).2) := by
  induction lines generalizing loading with
  | nil => rfl
  | cons line rest ih =>
    rw [List.map_cons, loadLines, loadLines, loadLine_move]
    cases loading.loadLine line with
    | error fault => rfl
    | ok middle => exact ih middle

end Loading

end

/-- A report, when the text in question begins further on in another source. -/
def reportMoved (distance : Nat) (source : Source) (report : Report) : Report :=
  { report with
    labels := report.labels.map fun label =>
      ⟨label.text, label.extent.offset + distance, label.extent.length⟩
    source := some source }

/-! ### The running address at the seam -/

inductive StartsPlaced : List (List Char) → Prop where
  | nil : StartsPlaced []
  | blank {line : List Char} {rest : List (List Char)} (empty : HasTokens line [])
      (others : StartsPlaced rest) : StartsPlaced (line :: rest)
  | placed {line place value : List Char} {extra rest : List (List Char)}
      (cut : HasTokens line (place :: value :: extra)) : StartsPlaced (line :: rest)

theorem Loading.loadLines_of_startsPlaced {pieces : List (List Located)} {lines : List (List Char)}
    (shown : List.Forall₂ Shows pieces lines) (placed : StartsPlaced lines) (memory : Memory)
    (next other : Nat) :
    (loadLines ⟨memory, next⟩ pieces).1 = (loadLines ⟨memory, other⟩ pieces).1 ∧
      (loadLines ⟨memory, next⟩ pieces).2.memory = (loadLines ⟨memory, other⟩ pieces).2.memory := by
  induction shown with
  | nil => exact ⟨rfl, rfl⟩
  | @cons piece line pieces lines shows shown ih =>
    cases placed with
    | blank empty others =>
      have none : tokens piece = [] := List.map_eq_nil_iff.mp (shows.eq empty)
      have skips (loading : Loading) : loading.loadLine piece = .ok loading :=
        loadLine_eq_ok_iff.mpr (.inl ⟨none, rfl⟩)
      rw [loadLines, loadLines, skips, skips]
      exact ih others
    | placed cut =>
      obtain ⟨first, more, found, -, rest⟩ := List.map_eq_cons_iff.mp (shows.eq cut)
      obtain ⟨value, extra, rfl, -, -⟩ := List.map_eq_cons_iff.mp rest
      have same : loadLine ⟨memory, next⟩ piece = loadLine ⟨memory, other⟩ piece := by
        simp only [loadLine, found, define]
      rw [loadLines, loadLines, same]
      cases loadLine ⟨memory, other⟩ piece with
      | error fault => exact ⟨rfl, rfl⟩
      | ok middle => exact ⟨rfl, rfl⟩

/-! ### Loading is compositional -/

/-- Of two texts that are joined, the second is loaded after the first, by the same lines. -/
theorem loadLines_joined (first second : String) (memory : Memory) :
    Loading.loadLines ⟨memory, 0⟩ (lines (first ++ "\n" ++ second)) =
      match Loading.loadLines ⟨memory, 0⟩ (lines first) with
      | (some fault, final) => (some fault, final)
      | (none, middle) => middle.loadLines
          ((lines second).map (List.map (move (first.utf8ByteSize + 1)))) := by
  have whole : lines (first ++ "\n" ++ second) =
      linesFrom 0 (first.toList ++ ['\n'] ++ second.toList) := by
    rw [lines, String.toList_append, String.toList_append]
    rfl
  have closed : Closed (fun c => c = '\n') (first.toList ++ ['\n']) := by simp [Closed]
  have size : 0 + utf8Len (first.toList ++ ['\n']) = 0 + (first.utf8ByteSize + 1) := by
    rw [String.utf8Len_append, String.utf8Len_toList]
    rfl
  rw [whole, linesFrom_append closed, Loading.loadLines_append_eq, Loading.loadLines_newline, size,
    linesFrom_add]
  rfl

/-- Loading is compositional. A first text at fault is all that a joined text is loaded for; one
that loads is followed by the second text, as if that had been loaded alone, but for the places
of its faults. The second text must not take up the running address of the first. -/
theorem load_joined (first second : String) (memory : Memory) :
    let joined := first ++ "\n" ++ second
    let seam := first.utf8ByteSize + 1
    ((load first memory).1 ≠ none →
      load joined memory = load first memory ∧ ∀ name, loadReport name joined memory =
        (loadReport name first memory).map (reportMoved 0 ⟨name, joined⟩)) ∧
    ((load first memory).1 = none → StartsPlaced (textLines second.toList) →
      let after := (load first memory).2
      load joined memory =
          ((load second after).1.map (LoadFault.move seam), (load second after).2) ∧
        ∀ name, loadReport name joined memory =
          (loadReport name second after).map (reportMoved seam ⟨name, joined⟩)) := by
  intro joined seam
  have parts := loadLines_joined first second memory
  cases stopped : Loading.loadLines ⟨memory, 0⟩ (lines first) with
  | mk fault middle =>
    have loaded : load first memory = (fault, middle.memory) := by rw [load, stopped]
    rw [stopped] at parts
    cases fault with
    | some fault =>
      have same : load joined memory = load first memory := by rw [loaded, load, parts]
      refine ⟨fun _ => ⟨same, fun name => ?_⟩, fun impossible => ?_⟩
      · rw [loadReport, loadReport, same, Option.map_map]
        rfl
      · rw [loaded] at impossible
        cases impossible
    | none =>
      refine ⟨fun impossible => absurd (congrArg Prod.fst loaded) impossible, fun _ placed => ?_⟩
      intro after
      obtain ⟨sameFault, sameMemory⟩ := Loading.loadLines_of_startsPlaced (lines_show second) placed
        middle.memory middle.next 0
      have here : after = middle.memory := congrArg Prod.snd loaded
      have same : load joined memory =
          ((load second after).1.map (LoadFault.move seam), (load second after).2) := by
        dsimp only at parts
        rw [Loading.loadLines_move, sameFault] at parts
        rw [load, parts, here]
        exact Prod.ext rfl sameMemory
      refine ⟨same, fun name => ?_⟩
      rw [loadReport, loadReport, same, Option.map_map, Option.map_map]
      rfl

/-- A text at fault, and one that ends in a comment and a carriage return and is followed by an
empty line and by a cell that it has mapped. -/
theorem load_joined_at_open_line :
    load ("9x" ++ "\n" ++ "1 2 3") Memory.empty = load "9x" Memory.empty ∧
      (load ("5 901;é\r" ++ "\n" ++ "\n5: 1") Memory.empty).1 =
        some ⟨.duplicateAddress 5, 11, 4⟩ := by
  have failing : (load "9x" Memory.empty).1 ≠ none := by decide +kernel
  have loading : (load "5 901;é\r" Memory.empty).1 = none := by decide +kernel
  have cut : textLines "\n5: 1".toList = [[], "5: 1".toList] := by decide
  have placed : StartsPlaced (textLines "\n5: 1".toList) := by
    have tokens : HasTokens "5: 1".toList [['5'], ['1']] := hasTokens_iff.mpr (by decide)
    rw [cut]
    exact .blank .nil (.placed tokens)
  obtain ⟨same, -⟩ := (load_joined "9x" "1 2 3" Memory.empty).1 failing
  obtain ⟨follows, -⟩ := (load_joined "5 901;é\r" "\n5: 1" Memory.empty).2 loading placed
  refine ⟨same, ?_⟩
  rw [follows]
  decide +kernel

end LittleMan.Program
