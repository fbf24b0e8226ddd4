import LittleMan.Proofs.LoadFailure
import LittleMan.Proofs.MemoryImages
import Mathlib.Data.List.Induction

/-! Memory as a table of words. Whatever was written and loaded, with or without success, a memory
holds for each address the word that was stored there last, and every way of looking at it tells
the same table. -/

namespace LittleMan

namespace Memory

section

variable (memory : Memory)

private theorem toList_cells : memory.cells.toList = (List.range 1000).map memory.get := by
  apply List.ext_getElem
  · simp
  · intro address inside _
    have small : address < 1000 := by simpa using inside
    simp [get, small]

theorem size_eq_length : memory.size = memory.toList.length := by
  rw [size, ← Vector.countP_toList, toList_cells, List.countP_map, toList,
    List.length_filterMap_eq_countP]
  simp only [Option.isSome_map]
  rfl

private theorem pairwise_toList :
    memory.toList.Pairwise fun first second => first.1 < second.1 := by
  rw [toList, List.pairwise_filterMap]
  refine List.pairwise_lt_range.imp fun earlier first found second also => ?_
  obtain ⟨_, -, rfl⟩ := Option.map_eq_some_iff.mp found
  obtain ⟨_, -, rfl⟩ := Option.map_eq_some_iff.mp also
  exact earlier

private theorem isEmpty_iff : memory.isEmpty = true ↔ memory.toList = [] := by
  rw [isEmpty, decide_eq_true_iff, size_eq_length, List.length_eq_zero_iff]

private theorem isMapped_eq_true_iff {memory : Memory} {address : Nat} :
    memory.isMapped address = true ↔ memory.get address ≠ none := by
  rw [isMapped, Option.isSome_iff_ne_none]

private theorem write?_eq_none_iff {memory : Memory} {address word : Nat} :
    memory.write? address word = none ↔ 999 < address := by
  unfold write?
  split
  next inside => exact iff_of_false (Option.some_ne_none _) (by omega)
  next beyond => exact iff_of_true rfl (by omega)

end

private theorem eq_iff_get {first second : Memory} :
    first = second ↔ ∀ address, first.get address = second.get address := by
  constructor
  · intro same address
    rw [same]
  · exact ext_get

private theorem eq_iff_toList {first second : Memory} :
    first = second ↔ first.toList = second.toList := by
  constructor
  · exact congrArg toList
  · intro same
    apply ext_get
    intro address
    apply Option.ext
    intro word
    rw [← mem_toList_iff, ← mem_toList_iff, same]

structure Tells (memory : Memory) (table : Nat → Option Nat) : Prop where
  get : ∀ address, memory.get address = table address
  beyond : ∀ address, 999 < address → table address = none
  read : ∀ address word, memory.read address = .ok word ↔ table address = some word
  unread : ∀ address, memory.read address = .error (.unmappedMemory address) ↔ table address = none
  isMapped : ∀ address, memory.isMapped address = true ↔ table address ≠ none
  listed : ∀ address word, (address, word) ∈ memory.toList ↔ table address = some word
  ordered : memory.toList.Pairwise fun first second => first.1 < second.1
  size : memory.size = memory.toList.length
  isEmpty : memory.isEmpty = true ↔ memory.toList = []

private theorem tells_get (memory : Memory) : memory.Tells memory.get where
  get _ := rfl
  beyond _ outside := memory.get_eq_none_of_le outside
  read _ _ := read_eq_ok_iff
  unread _ := read_eq_error_iff.trans (and_iff_left rfl)
  isMapped _ := isMapped_eq_true_iff
  listed _ _ := mem_toList_iff
  ordered := memory.pairwise_toList
  size := memory.size_eq_length
  isEmpty := memory.isEmpty_iff

/-- The word that was stored last at an address. -/
def lastStored (log : List (Nat × Nat)) (address : Nat) : Option Nat := log.reverse.lookup address

private theorem get_record {log : List (Nat × Nat)} (inside : ∀ entry ∈ log, entry.1 ≤ 999)
    (address : Nat) : (empty.record log).get address = lastStored log address := by
  -- from the end, where the store that decides stands
  induction log using List.reverseRecOn with
  | nil => exact get_empty address
  | append_singleton log entry ih =>
    obtain ⟨earlier, here⟩ := List.forall_mem_append.mp inside
    have small := here entry (List.mem_singleton_self entry)
    have last : empty.record (log ++ [entry]) = (empty.record log).write entry.1 entry.2 := by
      simp [record]
    rw [last, get_write, ih earlier, lastStored, lastStored, List.reverse_concat, List.lookup_cons]
    by_cases same : address = entry.1
    · rw [if_pos ⟨same, Nat.lt_succ_of_le small⟩, beq_iff_eq.mpr same]
    · rw [if_neg fun both => same both.1, beq_eq_false_iff_ne.mpr same]

private theorem record_append (memory : Memory) (first second : List (Nat × Nat)) :
    memory.record (first ++ second) = (memory.record first).record second :=
  List.foldl_append

end Memory

/-- What can change a memory. Neither a write beyond memory nor a text at fault need succeed. -/
inductive MemoryChange where
  | write (address word : Nat)
  | load (text : String)

namespace Program

structure Enters (memory : Memory) (lines : List (List Char)) (entries : List (Nat × Nat)) :
    Prop where
  listing : Listing 0 lines entries
  fits : Fits memory entries

section

variable {memory : Memory} {pieces : List (List Located)} {lines : List (List Char)}
  (shown : List.Forall₂ Shows pieces lines)

include shown

private theorem enters_iff :
    (∃ entries, Enters memory lines entries) ↔
      ∃ final, Loading.loadLines ⟨memory, 0⟩ pieces = (none, final) := by
  constructor
  · intro entered
    obtain ⟨entries, listing, fits⟩ := entered
    exact ⟨_, (Loading.loadLines_eq_none_iff shown).mpr ⟨entries, listing, fits, rfl⟩⟩
  · intro loaded
    obtain ⟨final, loaded⟩ := loaded
    obtain ⟨entries, listing, fits, -⟩ := (Loading.loadLines_eq_none_iff shown).mp loaded
    exact ⟨entries, listing, fits⟩

private theorem enters_concat_iff {piece : List Located} {line : List Char} {final : Loading}
    (shows : Shows piece line) (loaded : Loading.loadLines ⟨memory, 0⟩ pieces = (none, final)) :
    (∃ entries, Enters memory (lines ++ [line]) entries) ↔
      ∃ next, final.loadLine piece = .ok next := by
  have whole : List.Forall₂ Shows (pieces ++ [piece]) (lines ++ [line]) :=
    List.rel_append shown (.cons shows .nil)
  rw [enters_iff whole, Loading.loadLines_append loaded, Loading.loadLines]
  cases final.loadLine piece with
  | error fault => simp
  | ok next => simp [Loading.loadLines]

end

end Program

namespace MemoryChange

open Program

def perform (memory : Memory) : MemoryChange → Memory
  | write address word => (memory.write? address word).getD memory
  | load text => (Program.load text memory).2

def performAll (memory : Memory) (history : List MemoryChange) : Memory :=
  history.foldl perform memory

/-- What a change stores, in this order. Of a text these are the entries of the lines before the
first that cannot be loaded. -/
inductive Stores (memory : Memory) : MemoryChange → List (Nat × Nat) → Prop where
  | write {address word : Nat} (inside : address ≤ 999) :
      Stores memory (.write address word) [(address, word)]
  | refused {address word : Nat} (beyond : 999 < address) : Stores memory (.write address word) []
  | load {text : String} {before after : List (List Char)} {entries : List (Nat × Nat)}
      (cut : textLines text.toList = before ++ after) (enters : Enters memory before entries)
      (stops : ∀ line ∈ after.head?, ∀ more, ¬Enters memory (before ++ [line]) more) :
      Stores memory (.load text) entries

inductive StoresAll : Memory → List MemoryChange → List (Nat × Nat) → Prop where
  | nil {memory : Memory} : StoresAll memory [] []
  | cons {memory : Memory} {change : MemoryChange} {rest : List MemoryChange}
      {entries others : List (Nat × Nat)} (first : Stores memory change entries)
      (later : StoresAll (perform memory change) rest others) :
      StoresAll memory (change :: rest) (entries ++ others)

section

variable {memory : Memory} {change : MemoryChange} {history : List MemoryChange}
  {entries log : List (Nat × Nat)}

private theorem perform_write_of_lt {address : Nat} (beyond : 999 < address) (word : Nat) :
    perform memory (.write address word) = memory := by
  rw [perform, Memory.write?_eq_none_iff.mpr beyond]
  rfl

private theorem load_of_enters {text : String} {before after : List (List Char)}
    (cut : textLines text.toList = before ++ after) (enters : Enters memory before entries)
    (stops : ∀ line ∈ after.head?, ∀ more, ¬Enters memory (before ++ [line]) more) :
    (Program.load text memory).2 = memory.record entries := by
  have shown := lines_show text
  rw [cut] at shown
  obtain ⟨pieces, others, falls, here, there⟩ : ∃ pieces others, lines text = pieces ++ others ∧
      List.Forall₂ Shows pieces before ∧ List.Forall₂ Shows others after :=
    ⟨_, _, (List.take_append_drop before.length (lines text)).symm,
      List.forall₂_take_append _ _ _ shown, List.forall₂_drop_append _ _ _ shown⟩
  have first : Loading.loadLines ⟨memory, 0⟩ pieces =
      (none, ⟨memory.record entries, nextAddress 0 entries⟩) :=
    (Loading.loadLines_eq_none_iff here).mpr ⟨entries, enters.listing, enters.fits, rfl⟩
  rw [Program.load, falls, Loading.loadLines_append first]
  cases there with
  | nil => rfl
  | @cons piece _ _ _ shows _ =>
    rw [Loading.loadLines]
    cases loaded : Loading.loadLine ⟨memory.record entries, nextAddress 0 entries⟩ piece with
    | error fault => rfl
    | ok next =>
      obtain ⟨more, entered⟩ := (enters_concat_iff here shows first).mpr ⟨next, loaded⟩
      exact absurd entered (stops _ rfl more)

theorem Stores.perform (stores : Stores memory change entries) :
    change.perform memory = memory.record entries ∧ ∀ entry ∈ entries, entry.1 ≤ 999 := by
  cases stores with
  | @write address word inside =>
    have known : memory.write? address word = some (memory.write address word) :=
      if_pos (Nat.lt_succ_of_le inside)
    rw [MemoryChange.perform, known]
    exact ⟨rfl, List.forall_mem_singleton.mpr inside⟩
  | refused beyond => exact ⟨perform_write_of_lt beyond _, List.forall_mem_nil _⟩
  | load cut enters stops => exact ⟨load_of_enters cut enters stops, enters.fits.inside⟩

private theorem exists_stores (memory : Memory) (change : MemoryChange) :
    ∃ entries, Stores memory change entries := by
  cases change with
  | write address word =>
    rcases Nat.lt_or_ge 999 address with beyond | inside
    · exact ⟨[], .refused beyond⟩
    · exact ⟨[(address, word)], .write inside⟩
  | load text =>
    rcases result : Loading.loadLines ⟨memory, 0⟩ (lines text) with ⟨stopped, final⟩
    cases stopped with
    | none =>
      obtain ⟨entries, entered⟩ := (enters_iff (lines_show text)).mpr ⟨final, result⟩
      exact ⟨entries, .load (List.append_nil _).symm entered (by simp)⟩
    | some fault =>
      obtain ⟨pieces, piece, others, falls, loaded, refused⟩ :=
        Loading.exists_of_loadLines_eq_some result
      obtain ⟨before, line, after, cut, here, shows⟩ :=
        forall₂_append_cons (falls ▸ lines_show text)
      obtain ⟨entries, entered⟩ := (enters_iff here).mpr ⟨final, loaded⟩
      -- other entries for the same lines would not help: loading has refused the next one
      refine ⟨entries, .load cut entered ?_⟩
      intro next first more enters
      cases first
      obtain ⟨_, accepted⟩ := (enters_concat_iff here shows loaded).mp ⟨more, enters⟩
      cases refused.symm.trans accepted

theorem StoresAll.performAll (stored : StoresAll memory history log) :
    MemoryChange.performAll memory history = memory.record log ∧
      ∀ entry ∈ log, entry.1 ≤ 999 := by
  induction stored with
  | nil => exact ⟨rfl, List.forall_mem_nil _⟩
  | cons first later ih =>
    obtain ⟨changed, inside⟩ := first.perform
    refine ⟨?_, List.forall_mem_append.mpr ⟨inside, ih.2⟩⟩
    rw [Memory.record_append, ← changed]
    exact ih.1

private theorem exists_storesAll (memory : Memory) (history : List MemoryChange) :
    ∃ log, StoresAll memory history log := by
  induction history generalizing memory with
  | nil => exact ⟨[], .nil⟩
  | cons change rest ih =>
    obtain ⟨entries, stores⟩ := exists_stores memory change
    obtain ⟨others, later⟩ := ih (change.perform memory)
    exact ⟨entries ++ others, .cons stores later⟩

end

/-- After any history a memory is the table of the words stored last. A write beyond memory fails and
changes nothing, and memories are equal if they hold the same table, however they came by it. -/
structure TellsTable (history others : List MemoryChange) : Prop where
  logged : ∃ log, StoresAll Memory.empty history log
  tells (log : List (Nat × Nat)) (stored : StoresAll Memory.empty history log) :
    (performAll Memory.empty history).Tells (Memory.lastStored log)
  refused (address word : Nat) :
    (performAll Memory.empty history).write? address word = none ↔ 999 < address
  kept (address word : Nat) (beyond : 999 < address) :
    perform (performAll Memory.empty history) (.write address word) =
      performAll Memory.empty history
  eq_iff_get : performAll Memory.empty history = performAll Memory.empty others ↔
    ∀ address, (performAll Memory.empty history).get address =
      (performAll Memory.empty others).get address
  eq_iff_toList : performAll Memory.empty history = performAll Memory.empty others ↔
    (performAll Memory.empty history).toList = (performAll Memory.empty others).toList

theorem performAll_tells_table (history others : List MemoryChange) :
    TellsTable history others where
  logged := exists_storesAll Memory.empty history
  tells log stored := by
    obtain ⟨recorded, inside⟩ := stored.performAll
    have table : (performAll Memory.empty history).get = Memory.lastStored log := by
      funext address
      rw [← Memory.get_record inside, ← recorded]
    exact table ▸ (performAll Memory.empty history).tells_get
  refused _ _ := Memory.write?_eq_none_iff
  kept _ word beyond := perform_write_of_lt beyond word
  eq_iff_get := Memory.eq_iff_get
  eq_iff_toList := Memory.eq_iff_toList

/-- A text that defines a cell again, a write beyond memory, and a write over the loaded cell. -/
theorem performAll_tells_table_after_failure :
    let text := "5: 100\n5 200"
    let history : List MemoryChange := [.load text, .write 1000 4, .write 5 6]
    let log := [(5, 100), (5, 6)]
    let memory := performAll Memory.empty history
    (Program.load text Memory.empty).1 ≠ none ∧ StoresAll Memory.empty history log ∧
      memory.Tells (Memory.lastStored log) ∧ memory.get 5 = some 6 ∧ (5, 100) ∉ memory.toList := by
  intro text history log memory
  have cut : textLines text.toList = ["5: 100".toList] ++ ["5 200".toList] := by decide
  have shown := lines_show text
  rw [cut] at shown
  have fails : (Program.load text Memory.empty).1.isSome = true := by decide +kernel
  have five : IsWord ['5'] 5 := isWord_zeroPadded (show 5 ≤ 999 by decide) 0
  have hundred : IsWord ['1', '0', '0'] 100 := isWord_zeroPadded (show 100 ≤ 999 by decide) 0
  have enters : Enters Memory.empty ["5: 100".toList] [(5, 100)] :=
    ⟨.entry (hasTokens_iff.mpr (by decide)) (.placed five hundred) .nil,
      by decide, by decide, fun _ _ => Memory.get_empty _⟩
  have loads : Stores Memory.empty (.load text) [(5, 100)] := by
    apply Stores.load cut enters
    intro line first more entered
    cases first
    obtain ⟨final, loaded⟩ := (enters_iff shown).mp ⟨more, entered⟩
    rw [Program.load, loaded] at fails
    cases fails
  have stored : StoresAll Memory.empty history log :=
    .cons loads (.cons (.refused (by decide)) (.cons (.write (by decide)) .nil))
  have table := (performAll_tells_table history []).tells log stored
  have last : Memory.lastStored log 5 = some 6 := by decide
  refine ⟨Option.isSome_iff_ne_none.mp fails, stored, table, (table.get 5).trans last, ?_⟩
  rw [table.listed, last]
  decide

end MemoryChange

end LittleMan
