import LittleMan.Proofs.Literals
import LittleMan.Proofs.Loading
import LittleMan.Proofs.ProgramLines

/-! What a program text lists: the address and the word of each of its lines, read off the
text without any memory. A text loads when its entries fit a memory, and the memory
afterwards holds them besides what it held before. -/

namespace LittleMan

namespace Memory

def record (memory : Memory) (entries : List (Nat × Nat)) : Memory :=
  entries.foldl (fun memory entry => memory.write entry.1 entry.2) memory

end Memory

namespace Program

open Text

/-- The characters of a numeral do not end a token, nor a line of code. -/
theorem solid_of_denotes {token : List Char} {value : Int} (denoted : Denotes token value) :
    ∀ c ∈ token, separates c = false ∧ opensComment c = false := by
  have digits {text : List Char} (isDecimal : IsDecimal text) :
      ∀ c ∈ text, separates c = false ∧ opensComment c = false := by
    intro c inside
    have bounds := Char.isDigit_iff_toNat.mp (isDecimal.digit c inside)
    have different (other : Char) (outside : other.toNat < '0'.toNat ∨ '9'.toNat < other.toNat) :
        c ≠ other := by
      rintro rfl
      omega
    have blank : isBlank c = false := by
      simp only [Char.reduceToNat] at bounds
      simp only [isBlank, decide_eq_false_iff_not]
      omega
    simp [separates, opensComment, blank, different ':' (by decide), different ';' (by decide),
      different '#' (by decide)]
  cases denoted with
  | unsigned isDecimal => exact digits isDecimal
  | plus isDecimal | minus isDecimal =>
    exact List.forall_mem_cons.mpr ⟨by decide, digits isDecimal⟩

def IsLiteral (token : List Char) (value : Int) : Prop :=
  Denotes token value ∧ -2 ^ 63 ≤ value ∧ value ≤ 2 ^ 63 - 1

def IsWord (token : List Char) (word : Nat) : Prop := IsLiteral token word ∧ word ≤ 999

/-- The address and the word that the tokens of a line give. A word alone goes to the
running address. -/
inductive Entry (next : Nat) : List (List Char) → Nat → Nat → Prop where
  | bare {value : List Char} {word : Nat} (isWord : IsWord value word) : Entry next [value] next word
  | placed {place value : List Char} {address word : Nat} (isAddress : IsWord place address)
      (isWord : IsWord value word) : Entry next [place, value] address word

/-- The entries of lines, from a running address on. Lines without tokens give none. -/
inductive Listing : Nat → List (List Char) → List (Nat × Nat) → Prop where
  | nil {next : Nat} : Listing next [] []
  | blank {next : Nat} {line : List Char} {rest : List (List Char)} {entries : List (Nat × Nat)}
      (empty : HasTokens line []) (others : Listing next rest entries) :
      Listing next (line :: rest) entries
  | entry {next address word : Nat} {line : List Char} {found rest : List (List Char)}
      {entries : List (Nat × Nat)} (cut : HasTokens line found)
      (gives : Entry next found address word) (others : Listing (address + 1) rest entries) :
      Listing next (line :: rest) ((address, word) :: entries)

/-- The running address after entries. -/
def nextAddress (next : Nat) (entries : List (Nat × Nat)) : Nat :=
  (entries.getLast?.map fun entry => entry.1 + 1).getD next

/-- Entries that a memory has room for: addresses of cells, all different and all free. -/
structure Fits (memory : Memory) (entries : List (Nat × Nat)) : Prop where
  inside : ∀ entry ∈ entries, entry.1 ≤ 999
  distinct : (entries.map Prod.fst).Nodup
  free : ∀ entry ∈ entries, memory.get entry.1 = none

section

variable {memory : Memory} {entries : List (Nat × Nat)} {address word : Nat}

private theorem fits_nil : Fits memory [] := ⟨by simp, by simp, by simp⟩

private theorem fits_cons_iff :
    Fits memory ((address, word) :: entries) ↔
      address ≤ 999 ∧ memory.get address = none ∧ Fits (memory.write address word) entries := by
  constructor
  · intro ⟨inside, distinct, free⟩
    obtain ⟨absent, distinct⟩ := List.nodup_cons.mp distinct
    obtain ⟨small, inside⟩ := List.forall_mem_cons.mp inside
    obtain ⟨unmapped, free⟩ := List.forall_mem_cons.mp free
    refine ⟨small, unmapped, inside, distinct, ?_⟩
    intro entry member
    have different : entry.1 ≠ address := fun same =>
      absent (List.mem_map.mpr ⟨entry, member, same⟩)
    rw [Memory.get_write, if_neg fun same => different same.1]
    exact free entry member
  · intro ⟨small, unmapped, inside, distinct, free⟩
    have apart : ∀ entry ∈ entries, entry.1 ≠ address ∧ memory.get entry.1 = none := by
      intro entry member
      have unwritten := free entry member
      rw [Memory.get_write] at unwritten
      split at unwritten
      · cases unwritten
      next outside => exact ⟨fun same => outside ⟨same, by omega⟩, unwritten⟩
    refine ⟨List.forall_mem_cons.mpr ⟨small, inside⟩, List.nodup_cons.mpr ⟨?_, distinct⟩,
      List.forall_mem_cons.mpr ⟨unmapped, fun entry member => (apart entry member).2⟩⟩
    intro member
    obtain ⟨entry, present, same⟩ := List.mem_map.mp member
    exact (apart entry present).1 same

/-- A memory with entries recorded holds them and what it held before. -/
theorem Fits.get_record (fits : Fits memory entries) (place value : Nat) :
    (memory.record entries).get place = some value ↔
      (place, value) ∈ entries ∨ memory.get place = some value := by
  induction entries generalizing memory with
  | nil => simp [Memory.record]
  | cons entry entries ih =>
    obtain ⟨small, unmapped, others⟩ := fits_cons_iff.mp fits
    have first : memory.record (entry :: entries) =
        (memory.write entry.1 entry.2).record entries := rfl
    rw [first, ih others, Memory.get_write, List.mem_cons]
    by_cases here : place = entry.1
    · subst here
      rw [if_pos ⟨rfl, by omega⟩, unmapped]
      constructor
      · rintro (member | same)
        · exact .inl (.inr member)
        · cases same
          exact .inl (.inl rfl)
      · rintro ((same | member) | impossible)
        · exact .inr (congrArg some (congrArg Prod.snd same).symm)
        · exact .inl member
        · cases impossible
    · rw [if_neg fun same => here same.1]
      constructor
      · exact Or.imp_left .inr
      · exact Or.imp_left fun member => member.resolve_left fun same => here (congrArg Prod.fst same)

end

theorem readWord_eq_ok_iff {part : Part} {token : Token} {word : Nat} :
    readWord part token = .ok word ↔ IsWord token.text word := by
  have range (value : Int) : (NumeralRange.signed 64).Holds value ↔
      -2 ^ 63 ≤ value ∧ value ≤ 2 ^ 63 - 1 := Iff.rfl
  constructor
  · intro accepted
    unfold readWord at accepted
    split at accepted
    · cases accepted
    next value read =>
      obtain ⟨denoted, holds⟩ := (NumeralRange.signed_read_eq_ok_iff 64).mp read
      split at accepted
      next inside =>
        cases accepted
        obtain ⟨word, rfl⟩ := Int.eq_ofNat_of_zero_le inside.1
        exact ⟨⟨denoted, (range _).mp holds⟩, by omega⟩
      next => cases accepted
  · intro ⟨⟨denoted, holds⟩, small⟩
    have read := (NumeralRange.signed_read_eq_ok_iff 64).mpr ⟨denoted, (range _).mpr holds⟩
    have inside : (0 : Int) ≤ word ∧ (word : Int) ≤ 999 := by omega
    simp only [readWord, read, if_pos inside, Int.toNat_natCast]

namespace Loading

variable {loading final : Loading} {piece : List Located} {line : List Char}
  {pieces : List (List Located)} {rest : List (List Char)}

private theorem define_eq_ok_iff {address : Nat} {value : Token} {extra : List Token} :
    loading.define piece address value extra = .ok final ↔
      extra = [] ∧ ∃ word, IsWord value.text word ∧ loading.memory.get address = none ∧
        final = ⟨loading.memory.write address word, address + 1⟩ := by
  have free : loading.memory.isMapped address = false ↔ loading.memory.get address = none := by
    simp [Memory.isMapped]
  constructor
  · intro defined
    unfold define at defined
    split at defined
    · cases defined
    · split at defined
      · cases defined
      next word read =>
        split at defined
        · cases defined
        next unmapped =>
          cases defined
          exact ⟨rfl, word, readWord_eq_ok_iff.mp read,
            free.mp (Bool.eq_false_iff.mpr unmapped), rfl⟩
  · rintro ⟨rfl, word, isWord, unmapped, rfl⟩
    simp [define, readWord_eq_ok_iff.mpr isWord, free.mpr unmapped]

/-- A line loads when it has no tokens or gives an entry for a free cell. -/
theorem loadLine_eq_ok_iff :
    loading.loadLine piece = .ok final ↔
      (tokens piece = [] ∧ final = loading) ∨
      ∃ address word, Entry loading.next ((tokens piece).map Token.text) address word ∧
        address ≤ 999 ∧ loading.memory.get address = none ∧
        final = ⟨loading.memory.write address word, address + 1⟩ := by
  unfold loadLine
  split
  next none =>
    simp only [none, List.map_nil, true_and]
    constructor
    · intro same
      cases same
      exact .inl rfl
    · rintro (rfl | ⟨_, _, impossible, -⟩)
      · rfl
      · cases impossible
  next value single =>
    simp only [single, List.map_cons, List.map_nil, List.cons_ne_nil, false_and, false_or]
    constructor
    · intro loaded
      split at loaded
      next room =>
        obtain ⟨-, word, isWord, unmapped, same⟩ := define_eq_ok_iff.mp loaded
        exact ⟨loading.next, word, .bare isWord, Nat.le_of_lt_succ room, unmapped, same⟩
      next => cases loaded
    · rintro ⟨address, word, ⟨isWord⟩, small, unmapped, same⟩
      rw [if_pos (Nat.lt_succ_of_le small)]
      exact define_eq_ok_iff.mpr ⟨rfl, word, isWord, unmapped, same⟩
  next place value extra several =>
    simp only [several, List.map_cons, List.cons_ne_nil, false_and, false_or]
    constructor
    · intro loaded
      split at loaded
      next => cases loaded
      next address read =>
        have isAddress := readWord_eq_ok_iff.mp read
        obtain ⟨rfl, word, isWord, unmapped, same⟩ := define_eq_ok_iff.mp loaded
        exact ⟨address, word, .placed isAddress isWord, isAddress.2, unmapped, same⟩
    · rintro ⟨address, word, gives, -, unmapped, same⟩
      cases extra with
      | cons => cases gives
      | nil =>
        cases gives with
        | placed isAddress isWord =>
          rw [readWord_eq_ok_iff.mpr isAddress]
          exact define_eq_ok_iff.mpr ⟨rfl, word, isWord, unmapped, same⟩

private theorem nextAddress_cons (next : Nat) (entry : Nat × Nat) (entries : List (Nat × Nat)) :
    nextAddress next (entry :: entries) = nextAddress (entry.1 + 1) entries := by
  cases entries <;> simp [nextAddress, List.getLast?_cons]

theorem loadLines_eq_none_iff (shown : List.Forall₂ Shows pieces rest) :
    loading.loadLines pieces = (none, final) ↔
      ∃ entries, Listing loading.next rest entries ∧ Fits loading.memory entries ∧
        final = ⟨loading.memory.record entries, nextAddress loading.next entries⟩ := by
  induction shown generalizing loading with
  | nil =>
    constructor
    · intro loaded
      cases loaded
      exact ⟨[], .nil, fits_nil, rfl⟩
    · rintro ⟨entries, ⟨⟩, -, rfl⟩
      rfl
  | @cons piece line pieces rest shows _ ih =>
    rw [loadLines]
    constructor
    · intro loaded
      split at loaded
      · cases loaded
      next after first =>
        obtain ⟨entries, listing, fits, same⟩ := ih.mp loaded
        rcases loadLine_eq_ok_iff.mp first with
          ⟨none, rfl⟩ | ⟨address, word, gives, small, unmapped, rfl⟩
        · rw [Shows, none] at shows
          exact ⟨entries, .blank shows listing, fits, same⟩
        · refine ⟨(address, word) :: entries, .entry shows gives listing,
            fits_cons_iff.mpr ⟨small, unmapped, fits⟩, ?_⟩
          rw [same, nextAddress_cons]
          rfl
    · rintro ⟨entries, listing, fits, same⟩
      cases listing with
      | blank empty others =>
        have none : tokens piece = [] := List.map_eq_nil_iff.mp (shows.eq empty)
        have first : loading.loadLine piece = .ok loading :=
          loadLine_eq_ok_iff.mpr (.inl ⟨none, rfl⟩)
        rw [first]
        exact ih.mpr ⟨entries, others, fits, same⟩
      | @entry _ address word _ found _ entries cut gives others =>
        obtain ⟨small, unmapped, fits⟩ := fits_cons_iff.mp fits
        have first : loading.loadLine piece =
            .ok ⟨loading.memory.write address word, address + 1⟩ :=
          loadLine_eq_ok_iff.mpr
            (.inr ⟨address, word, shows.eq cut ▸ gives, small, unmapped, rfl⟩)
        rw [first]
        refine ih.mpr ⟨entries, others, fits, ?_⟩
        rw [same, nextAddress_cons]
        rfl

end Loading

theorem load_eq_none_iff {text : String} {memory final : Memory} :
    load text memory = (none, final) ↔
      ∃ entries, Listing 0 (textLines text.toList) entries ∧ Fits memory entries ∧
        final = memory.record entries := by
  have loads (final : Loading) : Loading.loadLines ⟨memory, 0⟩ (lines text) = (none, final) ↔ _ :=
    Loading.loadLines_eq_none_iff (lines_show text)
  constructor
  · intro loaded
    obtain ⟨stopped, same⟩ := Prod.mk.inj loaded
    obtain ⟨entries, listing, fits, filled⟩ := (loads _).mp (Prod.ext stopped rfl)
    exact ⟨entries, listing, fits, same.symm.trans (congrArg Loading.memory filled)⟩
  · rintro ⟨entries, listing, fits, rfl⟩
    rw [load, (loads _).mpr ⟨entries, listing, fits, rfl⟩]

/-- A text loads exactly when its lines list entries that fit the memory, and then every entry
is in memory and nothing else has changed. -/
theorem load_succeeds_iff (text : String) (memory : Memory) :
    ((load text memory).1 = none ↔
      ∃ entries, Listing 0 (textLines text.toList) entries ∧ Fits memory entries) ∧
    ∀ entries, Listing 0 (textLines text.toList) entries → Fits memory entries →
      ∀ address word, (load text memory).2.get address = some word ↔
        (address, word) ∈ entries ∨ memory.get address = some word := by
  refine ⟨⟨?_, ?_⟩, ?_⟩
  · intro loaded
    obtain ⟨entries, listing, fits, -⟩ := load_eq_none_iff.mp (Prod.ext loaded rfl)
    exact ⟨entries, listing, fits⟩
  · intro ⟨entries, listing, fits⟩
    rw [load_eq_none_iff.mpr ⟨entries, listing, fits, rfl⟩]
  · intro entries listing fits address word
    rw [load_eq_none_iff.mpr ⟨entries, listing, fits, rfl⟩]
    exact fits.get_record address word

/-- A comment, an address with a colon, a blank line and a word that follows on, with carriage
returns at the ends of lines and another cell mapped before. -/
theorem load_succeeds_around_blank_line :
    let text := "; sum\r\n10: +512 # load\r\n\r\n007"
    let memory := Memory.empty.write 5 1
    let entries := [(10, 512), (11, 7)]
    Listing 0 (textLines text.toList) entries ∧ Fits memory entries ∧
      (load text memory).1 = none ∧ (load text memory).2.get 11 = some 7 ∧
      (load text memory).2.get 5 = some 1 := by
  intro text memory entries
  have cut : textLines text.toList =
      ["; sum".toList, "10: +512 # load".toList, [], "007".toList] := by decide
  have ten : IsWord ['1', '0'] 10 :=
    ⟨⟨.unsigned ⟨by simp, List.all_eq_true.mp (by decide)⟩, by decide⟩, by decide⟩
  have load : IsWord ['+', '5', '1', '2'] 512 :=
    ⟨⟨.plus ⟨by simp, List.all_eq_true.mp (by decide)⟩, by decide⟩, by decide⟩
  have seven : IsWord ['0', '0', '7'] 7 :=
    ⟨⟨.unsigned ⟨by simp, List.all_eq_true.mp (by decide)⟩, by decide⟩, by decide⟩
  have listing : Listing 0 (textLines text.toList) entries := by
    rw [cut]
    exact .blank (hasTokens_iff.mpr (by decide)) (.entry (hasTokens_iff.mpr (by decide))
      (.placed ten load) (.blank (hasTokens_iff.mpr (by decide))
        (.entry (hasTokens_iff.mpr (by decide)) (.bare seven) .nil)))
  have fits : Fits memory entries :=
    ⟨by decide, by decide, by simp [entries, memory, Memory.get_write, Memory.get_empty]⟩
  obtain ⟨succeeds, holds⟩ := load_succeeds_iff text memory
  exact ⟨listing, fits, succeeds.mpr ⟨entries, listing, fits⟩,
    (holds entries listing fits 11 7).mpr (.inl (by simp [entries])),
    (holds entries listing fits 5 1).mpr (.inr (by simp [memory, Memory.get_write]))⟩

end Program

end LittleMan
