import LittleMan.Proofs.LineEnds

/-! What loading takes from a text: the tokens of the lines that have any. Where they stand, what
separates them and what is between the lines tells only the place of a fault. -/

namespace LittleMan.Program

open Text

def lineTokens (line : List Char) : List (List Char) :=
  runs separates (line.takeWhile fun c => !opensComment c)

def withTokens (lines : List (List Char)) : List (List (List Char)) :=
  (lines.map lineTokens).filter (fun found => !found.isEmpty)

def codeLines (text : List Char) : List (List (List Char)) :=
  withTokens (pieces (fun c => c = '\n') text)

section

variable {line lead gap rest tail : List Char}

private theorem lineTokens_append (line : List Char)
    (empty : ∀ c ∈ tail.takeWhile (fun c => !opensComment c),
    separates c = true) : lineTokens (line ++ tail) = lineTokens line := by
  rw [lineTokens, lineTokens, List.takeWhile_append]
  split
  next whole =>
    have all : line.takeWhile (fun c => !opensComment c) = line :=
      (List.takeWhile_prefix _).eq_of_length whole
    rw [runs_append_separators _ empty, all]
  next => rfl

theorem lineTokens_append_blank (line : List Char) (blank : Blank gap) :
    lineTokens (line ++ gap) = lineTokens line := by
  apply lineTokens_append
  intro c inside
  exact separates_of_isBlank (blank c ((List.takeWhile_prefix _).subset inside))

theorem lineTokens_append_comment (line : List Char) {marker : Char}
    (opens : opensComment marker = true) (remark : List Char) :
    lineTokens (line ++ marker :: remark) = lineTokens line := by
  apply lineTokens_append
  simp [opens]

theorem lineTokens_blank_append (blank : Blank gap) (rest : List Char) :
    lineTokens (gap ++ rest) = lineTokens rest := by
  induction gap with
  | nil => rfl
  | cons c gap ih =>
    obtain ⟨first, others⟩ := List.forall_mem_cons.mp blank
    rw [← ih others, List.cons_append, lineTokens,
      List.takeWhile_cons_of_pos (by simp [opensComment_of_isBlank first]),
      runs_cons_separator (separates_of_isBlank first)]
    rfl

/-- Blanks keep the tokens on either side apart, whichever blanks they are. -/
theorem lineTokens_around (uncommented : ∀ c ∈ lead, opensComment c = false) (present : gap ≠ [])
    (blank : Blank gap) (rest : List Char) :
    lineTokens (lead ++ (gap ++ rest)) = lineTokens lead ++ lineTokens rest := by
  obtain ⟨c, gap, rfl⟩ := List.exists_cons_of_ne_nil present
  obtain ⟨first, others⟩ := List.forall_mem_cons.mp blank
  have kept (more : List Char) : (lead ++ more).takeWhile (fun c => !opensComment c) =
      lead ++ more.takeWhile (fun c => !opensComment c) :=
    List.takeWhile_append_of_pos fun c inside => by simp [uncommented c inside]
  have alone : lineTokens lead = runs separates lead := by
    have whole := kept []
    rw [List.append_nil, List.takeWhile_nil, List.append_nil] at whole
    rw [lineTokens, whole]
  rw [← lineTokens_blank_append others rest, alone, lineTokens, lineTokens, kept, List.cons_append,
    List.takeWhile_cons_of_pos (by simp [opensComment_of_isBlank first]),
    runs_append_cons (separates_of_isBlank first)]

end

section

variable {before line rest : List Char}

private theorem withTokens_append (first second : List (List Char)) :
    withTokens (first ++ second) = withTokens first ++ withTokens second := by
  simp [withTokens]

theorem codeLines_append (closed : Closed (fun c => c = '\n') before) (rest : List Char) :
    codeLines (before ++ rest) = codeLines before ++ codeLines rest := by
  rw [codeLines, pieces_append closed, withTokens_append]
  rfl

/-- The first line of a text, up to its newline or to the end of the text. -/
theorem codeLines_line (clean : '\n' ∉ line) (ended : rest = [] ∨ rest.head? = some '\n') :
    codeLines (line ++ rest) = withTokens [line] ++ codeLines rest.tail := by
  by_cases present : line ++ rest = []
  · obtain ⟨rfl, rfl⟩ := List.append_eq_nil_iff.mp present
    rfl
  have inside : ∀ c ∈ line, decide (c = '\n') = false := by
    intro c member
    apply decide_eq_false
    rintro rfl
    exact clean member
  have newline : ∀ c ∈ rest.head?, c = '\n' := by
    rcases ended with rfl | ended
    · simp
    · simp [ended]
  have blank : Blank (rest.take 1) := by
    intro c member
    cases rest with
    | nil => cases member
    | cons first rest =>
      obtain rfl : c = first := by simpa using member
      rw [newline c rfl]
      decide
  rw [codeLines, pieces_line inside (by simpa using newline) present,
    ← List.singleton_append, withTokens_append]
  simp only [withTokens, List.map_cons, List.map_nil, lineTokens_append_blank line blank]
  rfl

end

/-! ### Loading by tokens -/

/-- The tokens of a located line, as they are written. -/
def written (line : List Located) : List (List Char) := (tokens line).map Token.text

private theorem withTokens_lines (text : String) :
    ((lines text).map written).filter (fun found => !found.isEmpty) = codeLines text.toList := by
  have same : written = fun line => lineTokens (line.map Prod.snd) := funext tokens_text
  have unlocated := map_pieces (fun c => c = '\n') Prod.snd (locate 0 text.toList)
  rw [map_locate] at unlocated
  rw [codeLines, withTokens, ← unlocated, List.map_map, same]
  rfl

private theorem mapError_eq_cases {α ε κ : Type} {f : ε → κ} {one other : Except ε α}
    (same : one.mapError f = other.mapError f) :
    (∃ fault also, one = .error fault ∧ other = .error also ∧ f fault = f also) ∨
      ∃ value, one = .ok value ∧ other = .ok value := by
  cases one with
  | error fault =>
    cases other with
    | error also => exact .inl ⟨fault, also, rfl, rfl, Except.error.inj same⟩
    | ok value => cases same
  | ok value =>
    cases other with
    | error fault => cases same
    | ok also => exact .inr ⟨value, rfl, congrArg Except.ok (Except.ok.inj same).symm⟩

private theorem readWord_congr (part : Part) {token other : Token}
    (same : token.text = other.text) :
    (readWord part token).mapError LoadFault.cause =
      (readWord part other).mapError LoadFault.cause := by
  unfold readWord
  rw [same]
  cases (NumeralRange.signed 64).read other.text with
  | error fault => rfl
  | ok value =>
    dsimp only
    split <;> rfl

namespace Loading

variable (loading : Loading) {line other : List Located}

private theorem define_congr (address : Nat) {value instead : Token}
    (same : value.text = instead.text) :
    (loading.define line address value []).mapError LoadFault.cause =
      (loading.define other address instead []).mapError LoadFault.cause := by
  rw [define, define]
  rcases mapError_eq_cases (readWord_congr .value same) with
    ⟨fault, also, read, here, cause⟩ | ⟨word, read, here⟩
  · rw [read, here]
    exact congrArg Except.error cause
  · rw [read, here]
    dsimp only
    split <;> rfl

/-- The tokens of a line decide what it loads to and the cause for which it is refused. -/
theorem loadLine_congr (same : written line = written other) :
    (loading.loadLine line).mapError LoadFault.cause =
      (loading.loadLine other).mapError LoadFault.cause := by
  rw [loadLine, loadLine]
  unfold written at same
  generalize tokens line = found, tokens other = instead at same
  cases found with
  | nil =>
    rw [List.map_eq_nil_iff.mp same.symm]
  | cons first found =>
    obtain ⟨start, instead, rfl, place, same⟩ := List.map_eq_cons_iff.mp same.symm
    cases found with
    | nil =>
      rw [List.map_eq_nil_iff.mp same]
      dsimp only
      split
      · exact loading.define_congr _ place.symm
      · rfl
    | cons value extra =>
      obtain ⟨second, others, rfl, text, same⟩ := List.map_eq_cons_iff.mp same
      dsimp only
      rcases mapError_eq_cases (readWord_congr .address place.symm) with
        ⟨fault, also, read, here, cause⟩ | ⟨address, read, here⟩
      · rw [read, here]
        exact congrArg Except.error cause
      · rw [read, here]
        cases extra with
        | nil =>
          rw [List.map_eq_nil_iff.mp same]
          exact loading.define_congr address text.symm
        | cons third extra =>
          obtain ⟨_, _, rfl, -, -⟩ := List.map_eq_cons_iff.mp same
          rfl

/-- The cause of a fault and what has been loaded. -/
def outcome (result : Option LoadFault × Loading) : Option LoadCause × Loading :=
  (result.1.map LoadFault.cause, result.2)

private theorem loadLines_congr {pieces others : List (List Located)}
    (same : pieces.map written = others.map written) :
    outcome (loading.loadLines pieces) = outcome (loading.loadLines others) := by
  induction pieces generalizing loading others with
  | nil => rw [List.map_eq_nil_iff.mp same.symm]
  | cons piece pieces ih =>
    obtain ⟨other, others, rfl, first, rest⟩ := List.map_eq_cons_iff.mp same.symm
    rw [loadLines, loadLines]
    rcases mapError_eq_cases (loading.loadLine_congr first.symm) with
      ⟨fault, also, refused, here, cause⟩ | ⟨middle, loaded, here⟩
    · rw [refused, here, outcome, outcome, Option.map_some, Option.map_some, cause]
    · rw [loaded, here]
      exact ih middle rest.symm

private theorem loadLines_filter (pieces : List (List Located)) :
    loading.loadLines (pieces.filter fun line => !(written line).isEmpty) =
      loading.loadLines pieces := by
  induction pieces generalizing loading with
  | nil => rfl
  | cons piece pieces ih =>
    by_cases none : written piece = []
    · have skipped : loading.loadLine piece = .ok loading :=
        loadLine_eq_ok_iff.mpr (.inl ⟨List.map_eq_nil_iff.mp none, rfl⟩)
      rw [List.filter_cons_of_neg (by simp [none]), ih, loadLines, skipped]
    · rw [List.filter_cons_of_pos (by simp [none]), loadLines, loadLines]
      cases loading.loadLine piece with
      | error fault => rfl
      | ok middle => exact ih middle

end Loading

/-- Texts with the same tokens in their lines load to the same memory, or are refused for the same
cause. -/
theorem load_congr {text other : String} (same : codeLines text.toList = codeLines other.toList)
    (memory : Memory) :
    (load text memory).1.map LoadFault.cause = (load other memory).1.map LoadFault.cause ∧
      (load text memory).2 = (load other memory).2 := by
  rw [← withTokens_lines, ← withTokens_lines, List.filter_map, List.filter_map] at same
  have agrees := Loading.loadLines_congr ⟨memory, 0⟩ same
  simp only [Function.comp_def, Loading.loadLines_filter] at agrees
  obtain ⟨cause, loading⟩ := Prod.mk.inj agrees
  exact ⟨cause, congrArg Loading.memory loading⟩

end LittleMan.Program
