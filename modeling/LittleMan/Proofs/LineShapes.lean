import LittleMan.Proofs.ProgramListing

/-! How the lines of a text that loads are laid out. Loading takes every `:` for white space, so
colons may stand anywhere around the numbers of a line. Documented are fewer layouts, with one
colon at the most and only between an address and a value. -/

namespace LittleMan

namespace Text

section

variable {α : Type} {separates : α → Prop} {items run : List α} {found : List (List α)}

theorem FallsInto.separators (falls : FallsInto separates items []) :
    ∀ item ∈ items, separates item := by
  generalize none : ([] : List (List α)) = found at falls
  induction falls with
  | nil => simp
  | separator apart _ ih => exact List.forall_mem_cons.mpr ⟨apart, ih none⟩
  | run => cases none

/-- The first run of a list, with the separators before it and the list after it. -/
theorem FallsInto.exists_append (falls : FallsInto separates items (run :: found)) :
    ∃ lead rest, items = lead ++ run ++ rest ∧ (∀ item ∈ lead, separates item) ∧ run ≠ [] ∧
      (∀ item ∈ run, ¬separates item) ∧ (∀ item ∈ rest.head?, separates item) ∧
      FallsInto separates rest found := by
  generalize whole : run :: found = runs at falls
  induction falls with
  | nil => cases whole
  | @separator item rest _ apart _ ih =>
    obtain ⟨lead, rest, rfl, before, others⟩ := ih whole
    exact ⟨item :: lead, rest, rfl, List.forall_mem_cons.mpr ⟨apart, before⟩, others⟩
  | @run _ rest _ present solid ended others =>
    cases whole
    exact ⟨[], rest, rfl, by simp, present, solid, ended, others⟩

end

end Text

namespace Program

open Text

def codeText (line : List Char) : List Char := line.takeWhile fun c => c ≠ ';' ∧ c ≠ '#'

def Blank (gap : List Char) : Prop := ∀ c ∈ gap, isBlank c = true

def Separators (gap : List Char) : Prop := ∀ c ∈ gap, isBlank c = true ∨ c = ':'

/-- Nothing, one number or two numbers, with what may stand around and between them. -/
inductive LaidOut (around between : List Char → Prop) : List Char → Prop where
  | blank {gap : List Char} (outside : around gap) : LaidOut around between gap
  | value {lead value trail : List Char} {word : Nat} (before : around lead)
      (isWord : IsWord value word) (after : around trail) :
      LaidOut around between (lead ++ value ++ trail)
  | placed {lead place gap value trail : List Char} {address word : Nat} (before : around lead)
      (isAddress : IsWord place address) (apart : between gap) (isWord : IsWord value word)
      (after : around trail) :
      LaidOut around between (lead ++ place ++ gap ++ value ++ trail)

def Accepted : List Char → Prop := LaidOut Separators fun gap => gap ≠ [] ∧ Separators gap

def HoldsColon (gap : List Char) : Prop :=
  ∃ before after, gap = before ++ ':' :: after ∧ Blank before ∧ Blank after

/-- The layouts that the help on a line at fault lists: a value, an address and a value, and an
address with a colon and a value. -/
def Documented : List Char → Prop :=
  LaidOut Blank fun gap => (gap ≠ [] ∧ Blank gap) ∨ HoldsColon gap

/-- One colon at the most, with something to separate on both sides. -/
structure Tidy (code : List Char) : Prop where
  once : code.count ':' ≤ 1
  between : ∀ before after, code = before ++ ':' :: after → ¬Separators before ∧ ¬Separators after

section

variable {text : String} {memory : Memory} {line code gap lead trail before after : List Char}
  {next address word : Nat} {found rest : List (List Char)} {entries : List (Nat × Nat)}

theorem Listing.entry_of_mem (listing : Listing next rest entries) (present : line ∈ rest) :
    HasTokens line [] ∨
      ∃ next found address word, HasTokens line found ∧ Entry next found address word := by
  induction listing with
  | nil => cases present
  | blank empty _ ih =>
    rcases List.mem_cons.mp present with rfl | later
    · exact .inl empty
    · exact ih later
  | entry cut gives _ ih =>
    rcases List.mem_cons.mp present with rfl | later
    · exact .inr ⟨_, _, _, _, cut, gives⟩
    · exact ih later

theorem HasTokens.accepted (cut : HasTokens line found) (gives : Entry next found address word) :
    Accepted (codeText line) := by
  cases gives with
  | bare isWord =>
    obtain ⟨lead, trail, whole, before, -, -, -, others⟩ := FallsInto.exists_append cut
    rw [codeText, whole]
    exact .value before isWord others.separators
  | placed isAddress isWord =>
    obtain ⟨lead, rest, whole, before, -, -, ended, others⟩ := FallsInto.exists_append cut
    obtain ⟨gap, trail, rfl, apart, present, solid, -, others⟩ := others.exists_append
    have parted : gap ≠ [] := by
      rintro rfl
      obtain ⟨c, more, rfl⟩ := List.exists_cons_of_ne_nil present
      exact solid c List.mem_cons_self (ended c rfl)
    rw [codeText, whole, ← List.append_assoc, ← List.append_assoc]
    exact .placed before isAddress ⟨parted, apart⟩ isWord others.separators

theorem Blank.colon_not_mem (blank : Blank gap) : ':' ∉ gap :=
  fun inside => absurd (blank ':' inside) (by decide)

theorem Separators.blank (separators : Separators gap) (none : ':' ∉ gap) : Blank gap := by
  intro c inside
  rcases separators c inside with blank | rfl
  · exact blank
  · exact absurd inside none

theorem Separators.mono (separators : Separators code) (within : gap ⊆ code) : Separators gap :=
  fun c inside => separators c (within inside)

private theorem colon_not_mem_of_denotes {value : Int} (denoted : Denotes line value) :
    ':' ∉ line :=
  fun inside => absurd (solid_of_denotes denoted ':' inside).1 (by decide)

private theorem not_separators_of_denotes {value : Int} (denoted : Denotes line value) :
    ¬Separators line := by
  intro separators
  obtain ⟨c, rest, rfl⟩ := List.exists_cons_of_ne_nil denoted.ne_nil
  have solid := (solid_of_denotes denoted c List.mem_cons_self).1
  have separator : separates c = true := by simpa [separates] using separators c List.mem_cons_self
  rw [separator] at solid
  cases solid

theorem Tidy.of_parted (first : ':' ∉ before) (second : ':' ∉ after)
    (left : ¬Separators before) (right : ¬Separators after) : Tidy (before ++ ':' :: after) := by
  refine ⟨?_, ?_⟩
  · rw [List.count_append, List.count_cons_self, List.count_eq_zero_of_not_mem first,
      List.count_eq_zero_of_not_mem second]
  · intro start finish same
    obtain ⟨rfl, -, rfl⟩ := (List.append_cons_inj_of_notMem first second).mp same
    exact ⟨left, right⟩

theorem Tidy.of_not_mem (none : ':' ∉ code) : Tidy code := by
  refine ⟨by rw [List.count_eq_zero_of_not_mem none]; exact Nat.zero_le _, ?_⟩
  rintro before after rfl
  exact absurd (by simp) none

private theorem tidy_of_documented (documented : Documented code) : Tidy code := by
  cases documented with
  | blank outside => exact .of_not_mem outside.colon_not_mem
  | value before isWord after =>
    apply Tidy.of_not_mem
    simp [before.colon_not_mem, colon_not_mem_of_denotes isWord.1.1, after.colon_not_mem]
  | @placed lead place gap value trail _ _ before isAddress apart isWord after =>
    have first := colon_not_mem_of_denotes isAddress.1.1
    have second := colon_not_mem_of_denotes isWord.1.1
    rcases apart with ⟨-, blank⟩ | ⟨left, right, rfl, leftBlank, rightBlank⟩
    · apply Tidy.of_not_mem
      simp [before.colon_not_mem, first, blank.colon_not_mem, second, after.colon_not_mem]
    · have parted : Tidy ((lead ++ place ++ left) ++ ':' :: (right ++ value ++ trail)) := by
        apply Tidy.of_parted
        · simp [before.colon_not_mem, first, leftBlank.colon_not_mem]
        · simp [rightBlank.colon_not_mem, second, after.colon_not_mem]
        · exact fun separators => not_separators_of_denotes isAddress.1.1 (separators.mono (by simp))
        · exact fun separators => not_separators_of_denotes isWord.1.1 (separators.mono (by simp))
      simpa using parted

theorem Tidy.lead_blank (tidy : Tidy code) (starts : lead <+: code)
    (separators : Separators lead) : Blank lead := by
  apply separators.blank
  intro inside
  obtain ⟨rest, rfl⟩ := starts
  obtain ⟨before, after, rfl⟩ := List.append_of_mem inside
  exact (tidy.between before (after ++ rest) (by simp)).1 (separators.mono (by simp))

theorem Tidy.trail_blank (tidy : Tidy code) (ends : trail <:+ code)
    (separators : Separators trail) : Blank trail := by
  apply separators.blank
  intro inside
  obtain ⟨start, rfl⟩ := ends
  obtain ⟨before, after, rfl⟩ := List.append_of_mem inside
  exact (tidy.between (start ++ before) after (by simp)).2 (separators.mono (by simp))

theorem Separators.holdsColon (separators : Separators gap) (inside : ':' ∈ gap)
    (once : gap.count ':' ≤ 1) : HoldsColon gap := by
  obtain ⟨before, after, rfl⟩ := List.append_of_mem inside
  rw [List.count_append, List.count_cons_self] at once
  refine ⟨before, after, rfl, ?_, ?_⟩
  · exact (separators.mono (by simp)).blank (List.count_eq_zero.mp (by omega))
  · exact (separators.mono (by simp)).blank (List.count_eq_zero.mp (by omega))

private theorem documented_of_tidy (accepted : Accepted code) (tidy : Tidy code) :
    Documented code := by
  cases accepted with
  | blank outside => exact .blank (tidy.lead_blank List.prefix_rfl outside)
  | @value lead value trail _ before isWord after =>
    have starts : lead <+: lead ++ value ++ trail := ⟨value ++ trail, by simp⟩
    exact .value (tidy.lead_blank starts before) isWord
      (tidy.trail_blank (List.suffix_append _ _) after)
  | @placed lead place gap value trail _ _ before isAddress apart isWord after =>
    obtain ⟨parted, separators⟩ := apart
    have starts : lead <+: lead ++ place ++ gap ++ value ++ trail :=
      ⟨place ++ gap ++ value ++ trail, by simp⟩
    have within : gap <:+: lead ++ place ++ gap ++ value ++ trail :=
      ⟨lead ++ place, value ++ trail, by simp⟩
    refine .placed (tidy.lead_blank starts before) isAddress ?_ isWord
      (tidy.trail_blank (List.suffix_append _ _) after)
    by_cases inside : ':' ∈ gap
    · exact .inr (separators.holdsColon inside ((within.sublist.count_le _).trans tidy.once))
    · exact .inl ⟨parted, separators.blank inside⟩

/-- Every line of a text that loads holds numbers among white space and colons, and is laid out
as documented exactly if it is tidy. -/
theorem load_accepts_layouts (loaded : (load text memory).1 = none) :
    ∀ line ∈ textLines text.toList, Accepted (codeText line) ∧
      (Documented (codeText line) ↔ Tidy (codeText line)) := by
  intro line present
  obtain ⟨entries, listing, -⟩ := load_eq_none_iff.mp (Prod.ext loaded rfl)
  have accepted : Accepted (codeText line) := by
    rcases listing.entry_of_mem present with empty | ⟨next, found, address, word, cut, gives⟩
    · exact .blank empty.separators
    · exact cut.accepted gives
  exact ⟨accepted, tidy_of_documented, documented_of_tidy accepted⟩

/-- Colons between numbers, behind one and in front of one. -/
theorem load_accepts_layouts_with_colons :
    let text := "10 :512 ; load\n7:\n:: 20: :3"
    (load text Memory.empty).1 = none ∧
      ∀ line ∈ textLines text.toList, Accepted (codeText line) ∧
        (Documented (codeText line) ↔ Tidy (codeText line)) := by
  intro text
  have loaded : (load text Memory.empty).1 = none := by decide +kernel
  exact ⟨loaded, load_accepts_layouts loaded⟩

/-- An address without a value loads, as a value. -/
theorem load_accepts_address_alone :
    (load "5:" Memory.empty).1 = none ∧ (load "5:" Memory.empty).2.get 0 = some 5 ∧
      ¬∀ line ∈ textLines "5:".toList, Documented (codeText line) := by
  refine ⟨by decide +kernel, by decide +kernel, fun documented => ?_⟩
  have tidy : Tidy ['5', ':'] := tidy_of_documented (documented ['5', ':'] (by decide))
  exact (tidy.between ['5'] [] rfl).2 (by simp [Separators])

end

end Program

end LittleMan
