import LittleMan.Proofs.ProgramListing
import LittleMan.Proofs.TraceLines
import LittleMan.Proofs.Words
import Mathlib.Data.List.Nodup

/-! Memory written as program text. Its cells may be listed in any order and each in a form of its
own; what the text loads to is the memory again, whatever was chosen. -/

namespace LittleMan

open Text

namespace Memory

variable {memory : Memory} {address word : Nat}

theorem mem_toList_iff : (address, word) ∈ memory.toList ↔ memory.get address = some word := by
  simp only [toList, List.mem_filterMap, List.mem_range, Option.map_eq_some_iff, Prod.mk.injEq]
  constructor
  · rintro ⟨_, -, _, found, rfl, rfl⟩
    exact found
  · intro found
    exact ⟨address, Nat.lt_succ_of_le (le_of_get found), word, found, rfl, rfl⟩

private theorem nodup_addresses (memory : Memory) : (memory.toList.map Prod.fst).Nodup := by
  rw [List.Nodup, List.pairwise_map, toList, List.pairwise_filterMap]
  refine List.nodup_range.imp fun different first found second also => ?_
  obtain ⟨_, -, rfl⟩ := Option.map_eq_some_iff.mp found
  obtain ⟨_, -, rfl⟩ := Option.map_eq_some_iff.mp also
  exact different

end Memory

namespace Program

/-- How a line shows the cell it maps, every number with zeros in front up to some width. -/
inductive CellForm where
  | spaced (places digits : Nat)
  | colonSpaced (places digits : Nat)
  | colon (places digits : Nat)
  | bare (digits : Nat)

structure CellLine where
  address : Nat
  word : Nat
  form : CellForm

namespace CellLine

def cell (line : CellLine) : Nat × Nat := (line.address, line.word)

def text (line : CellLine) : String :=
  match line.form with
  | .spaced places digits => zeroPadded places line.address ++ " " ++ zeroPadded digits line.word
  | .colonSpaced places digits =>
    zeroPadded places line.address ++ ": " ++ zeroPadded digits line.word
  | .colon places digits => zeroPadded places line.address ++ ":" ++ zeroPadded digits line.word
  | .bare digits => zeroPadded digits line.word

def IsBare (line : CellLine) : Prop := ∃ digits, line.form = .bare digits

end CellLine

/-- Lines as a text. The last one may end with a newline or without. -/
def imageText (ended : Bool) : List CellLine → String
  | [] => ""
  | [line] => line.text ++ if ended then "\n" else ""
  | line :: rest => line.text ++ "\n" ++ imageText ended rest

/-- Bare values stand only where the address is the one after that of the line before. -/
inductive Follows : Nat → List CellLine → Prop where
  | nil {next : Nat} : Follows next []
  | cons {next : Nat} {line : CellLine} {rest : List CellLine}
      (continues : line.IsBare → line.address = next) (others : Follows (line.address + 1) rest) :
      Follows next (line :: rest)

structure Lists (memory : Memory) (lines : List CellLine) : Prop where
  cells : (lines.map CellLine.cell).Perm memory.toList
  follows : Follows 0 lines

private theorem isDecimal_zeroPadded (width number : Nat) :
    IsDecimal (zeroPadded width number).toList := by
  have digits := isDecimal_toDigits number
  rw [zeroPadded, String.toList_ofList, List.leftpad]
  refine ⟨by simp [digits.present], List.forall_mem_append.mpr ⟨?_, digits.digit⟩⟩
  intro c member
  rw [List.eq_of_mem_replicate member]
  rfl

theorem isWord_zeroPadded {number : Nat} (small : number ≤ 999) (width : Nat) :
    IsWord (zeroPadded width number).toList number := by
  have denoted := Denotes.unsigned (isDecimal_zeroPadded width number)
  rw [decimal_zeroPadded] at denoted
  exact ⟨⟨denoted, by omega, by omega⟩, small⟩

section

variable {place value gap : List Char} {first second : Int}

private theorem hasTokens_value (denoted : Denotes value first) : HasTokens value [value] := by
  have solid := solid_of_denotes denoted
  have whole : value.takeWhile (fun c => !opensComment c) = value :=
    List.takeWhile_eq_self_iff.mpr fun c inside => by simp [(solid c inside).2]
  rw [hasTokens_iff, whole, runs_solid denoted.ne_nil fun c inside => (solid c inside).1]

private theorem hasTokens_placed (here : Denotes place first) (there : Denotes value second)
    (parted : gap ≠ []) (apart : ∀ c ∈ gap, separates c = true ∧ opensComment c = false) :
    HasTokens (place ++ gap ++ value) [place, value] := by
  have solid := solid_of_denotes here
  have whole : (place ++ gap ++ value).takeWhile (fun c => !opensComment c) =
      place ++ gap ++ value := by
    refine List.takeWhile_eq_self_iff.mpr fun c inside => ?_
    rw [List.mem_append, List.mem_append] at inside
    rcases inside with (before | between) | after
    · simp [(solid c before).2]
    · simp [(apart c between).2]
    · simp [(solid_of_denotes there c after).2]
  have separators := fun c inside => (apart c inside).1
  have opened : ∀ c ∈ (gap ++ value).head?, separates c = true := by
    intro c first
    rw [List.head?_append_of_ne_nil _ parted] at first
    exact separators c (List.mem_of_mem_head? first)
  have last : runs separates (gap ++ (value ++ [])) = _ :=
    runs_append_solid there.ne_nil (fun c inside => (solid_of_denotes there c inside).1)
      (fun c last => separators c (List.mem_of_getLast? last)) (by simp)
  rw [List.append_nil, runs_separators separators, runs_nil, List.nil_append] at last
  rw [hasTokens_iff, whole, List.append_assoc,
    runs_solid_append here.ne_nil (fun c inside => (solid c inside).1) opened, last]

end

section

variable {line : List Char}

private theorem textLines_cons {c : Char} (single : c ≠ '\n' ∧ c ≠ '\r') (rest : List Char) :
    textLines (c :: rest) = extendFirst c (textLines rest) := by
  simp [textLines, single]

private theorem textLines_append (single : ∀ c ∈ line, c ≠ '\n' ∧ c ≠ '\r') (rest : List Char) :
    textLines (line ++ '\n' :: rest) = line :: textLines rest := by
  induction line with
  | nil => rfl
  | cons c line ih =>
    obtain ⟨first, others⟩ := List.forall_mem_cons.mp single
    rw [List.cons_append, textLines_cons first, ih others]
    rfl

private theorem textLines_alone (single : ∀ c ∈ line, c ≠ '\n' ∧ c ≠ '\r') (present : line ≠ []) :
    textLines line = [line] := by
  induction line with
  | nil => exact absurd rfl present
  | cons c line ih =>
    obtain ⟨first, others⟩ := List.forall_mem_cons.mp single
    rw [textLines_cons first]
    cases line with
    | nil => rfl
    | cons =>
      rw [ih others (List.cons_ne_nil _ _)]
      rfl

end

namespace CellLine

variable {line : CellLine}

private theorem isPlain_text (line : CellLine) : IsPlain line.text.toList := by
  unfold text
  split <;> simp only [String.toList_append, isPlain_append, isPlain_zeroPadded, and_true] <;> decide

private theorem single_text (line : CellLine) : ∀ c ∈ line.text.toList, c ≠ '\n' ∧ c ≠ '\r' := by
  intro c inside
  have plain := (line.isPlain_text c inside).1
  constructor <;> rintro rfl <;> exact absurd plain (by decide)

private theorem text_ne_nil (line : CellLine) : line.text.toList ≠ [] := by
  have present (width number : Nat) := (isDecimal_zeroPadded width number).present
  unfold text
  split <;> simp [present]

private theorem gives {next : Nat} (inside : line.address ≤ 999) (small : line.word ≤ 999)
    (continues : line.IsBare → line.address = next) :
    ∃ found, HasTokens line.text.toList found ∧ Entry next found line.address line.word := by
  have isAddress := isWord_zeroPadded inside
  have isWord := isWord_zeroPadded small
  have placed {gap : List Char} (parted : gap ≠ [])
      (apart : ∀ c ∈ gap, separates c = true ∧ opensComment c = false) (places digits : Nat) :
      ∃ found, HasTokens ((zeroPadded places line.address).toList ++ gap ++
        (zeroPadded digits line.word).toList) found ∧ Entry next found line.address line.word :=
    ⟨_, hasTokens_placed (isAddress places).1.1 (isWord digits).1.1 parted apart,
      .placed (isAddress places) (isWord digits)⟩
  cases form : line.form with
  | spaced | colonSpaced | colon =>
    simp only [text, form, String.toList_append]
    exact placed (by simp) (by simp [separates, isBlank, opensComment]) _ _
  | bare digits =>
    simp only [text, form, continues ⟨digits, form⟩]
    exact ⟨_, hasTokens_value (isWord digits).1.1, .bare (isWord digits)⟩

end CellLine

section

variable {memory : Memory} {lines : List CellLine}

private theorem textLines_imageText (ended : Bool) (lines : List CellLine) :
    textLines (imageText ended lines).toList = lines.map fun line => line.text.toList := by
  fun_induction imageText ended lines with
  | case1 => rfl
  | case2 line =>
    cases ended
    · simp [textLines_alone line.single_text line.text_ne_nil]
    · simp [textLines_append line.single_text, textLines]
  | case3 line rest _ ih => simp [textLines_append line.single_text, ih]

theorem Follows.listing {next : Nat} (follows : Follows next lines)
    (bounds : ∀ line ∈ lines, line.address ≤ 999 ∧ line.word ≤ 999) :
    Listing next (lines.map fun line => line.text.toList) (lines.map CellLine.cell) := by
  induction follows with
  | nil => exact .nil
  | cons continues _ ih =>
    obtain ⟨⟨inside, small⟩, others⟩ := List.forall_mem_cons.mp bounds
    obtain ⟨found, cut, gives⟩ := CellLine.gives inside small continues
    exact .entry cut gives (ih others)

private theorem exists_follows (cells : List (Nat × Nat)) :
    ∃ lines, lines.map CellLine.cell = cells ∧ ∀ next, Follows next lines := by
  induction cells with
  | nil => exact ⟨[], rfl, fun _ => .nil⟩
  | cons cell rest ih =>
    obtain ⟨lines, same, follows⟩ := ih
    refine ⟨⟨cell.1, cell.2, .spaced 0 0⟩ :: lines, by rw [List.map_cons, same]; rfl, ?_⟩
    intro next
    exact .cons (by rintro ⟨_, ⟨⟩⟩) (follows _)

/-- The cells of a memory are the entries recorded in it. -/
theorem Fits.perm_toList {entries : List (Nat × Nat)} (fits : Fits Memory.empty entries) :
    entries.Perm (Memory.empty.record entries).toList := by
  have first : entries.Nodup := List.Nodup.of_map _ fits.distinct
  have second : (Memory.empty.record entries).toList.Nodup :=
    List.Nodup.of_map _ (Memory.nodup_addresses _)
  refine (List.perm_ext_iff_of_nodup first second).mpr ?_
  intro ⟨address, word⟩
  rw [Memory.mem_toList_iff, fits.get_record, Memory.get_empty]
  simp

theorem Lists.get_iff (lists : Lists memory lines) (address word : Nat) :
    (address, word) ∈ lines.map CellLine.cell ↔ memory.get address = some word :=
  lists.cells.mem_iff.trans Memory.mem_toList_iff

theorem Lists.fits (lists : Lists memory lines) : Fits Memory.empty (lines.map CellLine.cell) where
  inside := by
    intro ⟨address, word⟩ member
    exact Memory.le_of_get ((lists.get_iff address word).mp member)
  distinct := (lists.cells.map Prod.fst).nodup_iff.mpr memory.nodup_addresses
  free _ _ := Memory.get_empty _

theorem Lists.record (lists : Lists memory lines) :
    Memory.empty.record (lines.map CellLine.cell) = memory := by
  apply Memory.ext_get
  intro address
  apply Option.ext
  intro word
  rw [lists.fits.get_record, lists.get_iff, Memory.get_empty]
  simp

theorem Lists.load (lists : Lists memory lines) (words : memory.HoldsWords) (ended : Bool) :
    load (imageText ended lines) Memory.empty = (none, memory) := by
  have bounds : ∀ line ∈ lines, line.address ≤ 999 ∧ line.word ≤ 999 := by
    intro line member
    have found := (lists.get_iff _ _).mp (List.mem_map_of_mem member)
    exact ⟨Memory.le_of_get found, words _ _ found⟩
  have listing := lists.follows.listing bounds
  rw [← textLines_imageText ended lines] at listing
  exact load_eq_none_iff.mpr ⟨_, listing, lists.fits, lists.record.symm⟩

/-- A memory that holds words can be written as text, with its cells in any order. Whatever the
order and the forms of the lines, the text loads, and what it loads is the memory. -/
theorem load_imageText (words : memory.HoldsWords) :
    (∀ cells, cells.Perm memory.toList →
      ∃ lines, lines.map CellLine.cell = cells ∧ Lists memory lines) ∧
    (∀ lines, Lists memory lines →
      ∀ ended, load (imageText ended lines) Memory.empty = (none, memory)) ∧
    ∀ lines others, Lists memory lines → Lists memory others → ∀ ended also,
      load (imageText ended lines) Memory.empty = load (imageText also others) Memory.empty := by
  refine ⟨?_, fun lines lists => lists.load words, ?_⟩
  · intro cells ordered
    obtain ⟨lines, same, follows⟩ := exists_follows cells
    exact ⟨lines, same, same ▸ ordered, follows 0⟩
  · intro lines others lists also ended finished
    rw [lists.load words, also.load words]

end

/-- The last cell first, then one with its address and the one after it without. -/
theorem load_imageText_out_of_order :
    let memory := Memory.empty.record [(999, 5), (0, 901), (1, 7)]
    let lines : List CellLine := [⟨999, 5, .colon 0 5⟩, ⟨0, 901, .colonSpaced 4 0⟩, ⟨1, 7, .bare 3⟩]
    imageText false lines = "999:00005\n0000: 901\n007" ∧ Lists memory lines ∧
      load (imageText false lines) Memory.empty = (none, memory) := by
  intro memory lines
  have words : memory.HoldsWords :=
    ((Memory.HoldsWords.empty.write 999 (by decide)).write 0 (by decide)).write 1 (by decide)
  have fits : Fits Memory.empty (lines.map CellLine.cell) :=
    ⟨by decide, by decide, fun _ _ => Memory.get_empty _⟩
  have follows : Follows 0 lines :=
    .cons (by rintro ⟨_, ⟨⟩⟩) (.cons (by rintro ⟨_, ⟨⟩⟩) (.cons (fun _ => rfl) .nil))
  have lists : Lists memory lines := ⟨fits.perm_toList, follows⟩
  exact ⟨by decide +kernel, lists, (load_imageText words).2.1 lines lists false⟩

end Program

end LittleMan
