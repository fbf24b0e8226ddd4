import LittleMan.Proofs.InputLines
import LittleMan.Proofs.ProgramListing
import LittleMan.Proofs.ProgramPrefix

/-! Places for tokens in a program text. What a text loads to is put together from the lines before
such a place, the tokens around it in its line and the lines after; another token in the same place
changes nothing else. -/

namespace LittleMan

open Text
open String (utf8Len)

namespace Text

section

variable {α : Type} {ends : α → Bool} {separates : α → Prop}

private theorem head?_first_piece (ends : α → Bool) (items : List α) :
    ((pieces ends items).headD []).head? = items.head? := by
  cases items with
  | nil => rfl
  | cons item rest =>
    rw [pieces]
    split
    · rfl
    · cases pieces ends rest <;> rfl

private theorem pieces_open {items : List α} :
    ∀ piece ∈ pieces ends items, piece ≠ [] ∧ ∀ item ∈ piece.dropLast, ends item = false := by
  induction items with
  | nil => simp [pieces]
  | cons item rest ih =>
    rw [pieces]
    split
    · exact List.forall_mem_cons.mpr ⟨by simp, ih⟩
    next continues =>
      cases found : pieces ends rest with
      | nil => simp [extendFirst]
      | cons piece others =>
        obtain ⟨⟨present, inside⟩, rest⟩ := List.forall_mem_cons.mp (found ▸ ih)
        refine List.forall_mem_cons.mpr ⟨⟨List.cons_ne_nil _ _, ?_⟩, rest⟩
        rw [List.dropLast_cons_of_ne_nil present]
        exact List.forall_mem_cons.mpr ⟨Bool.eq_false_iff.mpr continues, inside⟩

private theorem pieces_closed {items : List α} {first rest : List (List α)}
    (cut : pieces ends items = first ++ rest) (more : rest ≠ []) : Closed ends first.flatten := by
  induction items generalizing first with
  | nil =>
    have none : first ++ rest = [] := cut.symm
    exact absurd (List.append_eq_nil_iff.mp none).2 more
  | cons item items ih =>
    cases first with
    | nil => simp [Closed]
    | cons piece first =>
      rw [pieces] at cut
      split at cut
      next last =>
        obtain ⟨rfl, others⟩ := List.cons.inj cut
        exact (ih others).cons fun _ => last
      next =>
        cases found : pieces ends items with
        | nil =>
          rw [found] at cut
          obtain ⟨-, none⟩ := List.cons.inj cut
          exact absurd (List.append_eq_nil_iff.mp none.symm).2 more
        | cons start others =>
          rw [found] at cut
          obtain ⟨rfl, rfl⟩ := List.cons.inj cut
          have present : start ≠ [] := (pieces_open start (found ▸ List.mem_cons_self)).1
          have later : pieces ends items = (start :: first) ++ rest := found
          exact (ih later).cons fun none => absurd (List.append_eq_nil_iff.mp none).1 present

theorem FallsInto.exists_around {items run : List α} {found : List (List α)}
    (falls : FallsInto separates items found) (member : run ∈ found) :
    ∃ lead rest, items = lead ++ (run ++ rest) ∧ run ≠ [] ∧ (∀ item ∈ run, ¬separates item) ∧
      (∀ item ∈ lead.getLast?, separates item) ∧ ∀ item ∈ rest.head?, separates item := by
  induction falls with
  | nil => cases member
  | @separator item _ _ apart _ ih =>
    obtain ⟨lead, rest, rfl, present, solid, opened, ended⟩ := ih member
    refine ⟨item :: lead, rest, rfl, present, solid, ?_, ended⟩
    cases lead with
    | nil => simpa using apart
    | cons => simpa only [List.getLast?_cons_cons] using opened
  | @run start others _ present solid ended _ ih =>
    rcases List.mem_cons.mp member with rfl | later
    · exact ⟨[], others, rfl, present, solid, by simp, ended⟩
    · obtain ⟨lead, rest, rfl, filled, dense, opened, finish⟩ := ih later
      refine ⟨start ++ lead, rest, by simp, filled, dense, ?_, finish⟩
      cases lead with
      | nil =>
        -- Two runs do not touch.
        obtain ⟨c, more, rfl⟩ := List.exists_cons_of_ne_nil filled
        exact absurd (ended c rfl) (dense c List.mem_cons_self)
      | cons => simpa using opened

end

end Text

namespace Program

theorem snd_mem_of_locate {offset : Nat} {text : List Char} {located : Located}
    (member : located ∈ locate offset text) : located.2 ∈ text :=
  map_locate offset text ▸ List.mem_map_of_mem member

theorem locate_eq_append {offset : Nat} {text : List Char} {first second : List Located}
    (cut : locate offset text = first ++ second) :
    locate offset (first.map Prod.snd) = first ∧
      locate (offset + utf8Len (first.map Prod.snd)) (second.map Prod.snd) = second := by
  have parted : text = first.map Prod.snd ++ second.map Prod.snd := by
    rw [← List.map_append, ← cut, map_locate]
  rw [parted, locate_append] at cut
  have sizes : (locate offset (first.map Prod.snd)).length = first.length := by
    rw [← List.length_map Prod.snd, map_locate, List.length_map]
  exact List.append_inj cut sizes

theorem locate_ne_nil {text : List Char} (present : text ≠ []) (offset : Nat) :
    locate offset text ≠ [] := by
  cases text with
  | nil => exact absurd rfl present
  | cons => exact List.cons_ne_nil _ _

theorem of_locate {text : List Char} (present : text ≠ []) (offset : Nat) :
    Token.of (locate offset text) = ⟨text, offset, utf8Len text⟩ := by
  cases text with
  | nil => exact absurd rfl present
  | cons c rest =>
    rw [Token.of, map_locate, String.utf8ByteSize_ofList]
    rfl

private theorem tokens_around {lead stretch trail : List Located}
    (uncommented : ∀ item ∈ lead, opensComment item.2 = false)
    (opened : ∀ item ∈ lead.getLast?, separates item.2 = true) (present : stretch ≠ [])
    (solid : ∀ item ∈ stretch, separates item.2 = false ∧ opensComment item.2 = false)
    (ended : ∀ item ∈ trail.head?, separates item.2 = true ∨ opensComment item.2 = true) :
    tokens (lead ++ (stretch ++ trail)) = tokens lead ++ Token.of stretch :: tokens trail := by
  have kept {part : List Located} (uncommented : ∀ item ∈ part, opensComment item.2 = false)
      (rest : List Located) : code (part ++ rest) = part ++ code rest :=
    List.takeWhile_append_of_pos fun item inside => by simp [uncommented item inside]
  have whole : code lead = lead := by simpa [code] using kept uncommented []
  have behind : ∀ item ∈ (code trail).head?, separates item.2 = true := by
    cases trail with
    | nil => simp [code]
    | cons first trail =>
      intro item found
      by_cases opener : opensComment first.2 = true
      · simp [code, opener] at found
      · have same : first = item := by simpa [code, opener] using found
        exact same ▸ (ended first rfl).resolve_right opener
  rw [tokens, kept uncommented, kept fun item inside => (solid item inside).2,
    runs_append_solid present (fun item inside => (solid item inside).1) opened behind,
    List.map_append, List.map_cons, tokens, whole]
  rfl

/-- A place in a program text for a token that stands alone: the lines before, what stands before
it in its own line, and all that follows. -/
structure Slot where
  earlier : List Char
  lead : List Char
  after : List Char
  closed : Closed (fun c => c = '\n') earlier
  inLine : ∀ c ∈ lead, c ≠ '\n' ∧ opensComment c = false
  opened : ∀ c ∈ lead.getLast?, separates c = true
  ended : ∀ c ∈ after.head?, separates c = true ∨ opensComment c = true

/-- The three places that a token can take in a line that gives an entry. -/
theorem Entry.places {next address word : Nat} {first rest : List (List Char)} {token : List Char}
    (gives : Entry next (first ++ token :: rest) address word) :
    (first = [] ∧ rest = [] ∧ address = next ∧ IsWord token word) ∨
      (∃ value, first = [] ∧ rest = [value] ∧ IsWord token address ∧ IsWord value word) ∨
      ∃ place, first = [place] ∧ rest = [] ∧ IsWord place address ∧ IsWord token word := by
  generalize whole : first ++ token :: rest = found at gives
  cases gives with
  | bare isWord =>
    obtain ⟨rfl, same⟩ | ⟨-, impossible⟩ := List.append_eq_singleton_iff.mp whole
    · cases same
      exact .inl ⟨rfl, rfl, rfl, isWord⟩
    · cases impossible
  | placed isAddress isWord =>
    match first, whole with
    | [], same =>
      cases same
      exact .inr (.inl ⟨_, rfl, rfl, isAddress, isWord⟩)
    | [_], same =>
      cases same
      exact .inr (.inr ⟨_, rfl, rfl, isAddress, isWord⟩)
    | _ :: _ :: _, same => simp at same

theorem Entry.replace {next address word : Nat} {first rest : List (List Char)}
    {token other : List Char} (same : ∀ word, IsWord token word → IsWord other word)
    (gives : Entry next (first ++ token :: rest) address word) :
    Entry next (first ++ other :: rest) address word := by
  rcases gives.places with ⟨rfl, rfl, rfl, isWord⟩ | ⟨value, rfl, rfl, isAddress, isWord⟩ |
    ⟨place, rfl, rfl, isAddress, isWord⟩
  · exact .bare (same _ isWord)
  · exact .placed (same _ isAddress) isWord
  · exact .placed isAddress (same _ isWord)

namespace Slot

variable (slot : Slot) (token : List Char)

def fill : String := String.ofList (slot.earlier ++ (slot.lead ++ token ++ slot.after))

def extent : Extent := ⟨utf8Len slot.earlier + utf8Len slot.lead, utf8Len token⟩

/-- The rest of the text as loading sees it, beginning with the rest of the line of the token. -/
def rest : List (List Located) :=
  pieces (fun located => located.2 = '\n')
    (locate (utf8Len slot.earlier + utf8Len (slot.lead ++ token)) slot.after)

def before : List Token := tokens (locate (utf8Len slot.earlier) slot.lead)

def behind : List Token := tokens ((slot.rest token).headD [])

def line : List Located :=
  locate (utf8Len slot.earlier) (slot.lead ++ token) ++ (slot.rest token).headD []

section

variable {slot} {token} {value : Int}

theorem lines_fill (denoted : Denotes token value) :
    lines (slot.fill token) = lines (String.ofList slot.earlier) ++
      slot.line token :: (slot.rest token).tail := by
  have present : slot.lead ++ token ≠ [] := by simp [denoted.ne_nil]
  have unended : ∀ located ∈ locate (utf8Len slot.earlier) (slot.lead ++ token),
      decide (located.2 = '\n') = false := by
    intro located member
    apply decide_eq_false
    rcases List.mem_append.mp (snd_mem_of_locate member) with lead | inside
    · exact (slot.inLine _ lead).1
    · intro newline
      have solid := (solid_of_denotes denoted _ inside).1
      rw [newline] at solid
      exact absurd solid (by decide)
  rw [fill, lines_append slot.closed, locate_append,
    pieces_open_append (locate_ne_nil present _) unended, line, ← rest]
  cases slot.rest token <;> simp [joinFirst]

theorem tokens_line (denoted : Denotes token value) :
    tokens (slot.line token) =
      slot.before ++ ⟨token, slot.extent token⟩ :: slot.behind token := by
  have opened : ∀ item ∈ (locate (utf8Len slot.earlier) slot.lead).getLast?,
      separates item.2 = true := by
    intro item last
    have mapped := congrArg (Option.map Prod.snd) (Option.mem_def.mp last)
    rw [← List.getLast?_map, map_locate] at mapped
    exact slot.opened _ mapped
  have ended : ∀ item ∈ ((slot.rest token).headD []).head?,
      separates item.2 = true ∨ opensComment item.2 = true := by
    intro item first
    rw [rest, head?_first_piece] at first
    have mapped := congrArg (Option.map Prod.snd) (Option.mem_def.mp first)
    rw [← List.head?_map, map_locate] at mapped
    exact slot.ended _ mapped
  rw [line, locate_append, List.append_assoc,
    tokens_around (fun item member => (slot.inLine _ (snd_mem_of_locate member)).2) opened
      (locate_ne_nil denoted.ne_nil _)
      (fun item member => solid_of_denotes denoted _ (snd_mem_of_locate member)) ended,
    of_locate denoted.ne_nil]
  rfl

private theorem rest_shows (slot : Slot) (token : List Char) :
    List.Forall₂ Shows (slot.rest token) (textLines slot.after) := pieces_show _ _

/-- What follows in the line does not depend on the token. -/
theorem behind_text (slot : Slot) (token other : List Char) :
    (slot.behind token).map Token.text = (slot.behind other).map Token.text := by
  have shows (token : List Char) :
      Shows ((slot.rest token).headD []) ((textLines slot.after).headD []) := by
    have shown := slot.rest_shows token
    generalize slot.rest token = pieces, textLines slot.after = lines at shown ⊢
    cases shown with
    | nil => exact FallsInto.nil
    | cons first => exact first
  exact (shows token).eq (shows other)

private theorem rest_loads {loading final : Loading} (other : List Char)
    (loaded : loading.loadLines (slot.rest token).tail = (none, final)) :
    loading.loadLines (slot.rest other).tail = (none, final) := by
  have shown (token : List Char) :
      List.Forall₂ Shows (slot.rest token).tail (textLines slot.after).tail := by
    have shown := slot.rest_shows token
    generalize slot.rest token = pieces, textLines slot.after = lines at shown ⊢
    cases shown with
    | nil => exact .nil
    | cons _ others => exact others
  exact (Loading.loadLines_eq_none_iff (shown other)).mpr
    ((Loading.loadLines_eq_none_iff (shown token)).mp loaded)

end

/-- A text loads in three steps: the lines before the token in a slot, its own line and the
rest. -/
structure Loads (slot : Slot) (memory : Memory) (token : List Char) (middle : Loading)
    (address word : Nat) (final : Loading) : Prop where
  earlier : Loading.loadLines ⟨memory, 0⟩ (lines (String.ofList slot.earlier)) = (none, middle)
  gives : Entry middle.next
    (slot.before.map Token.text ++ token :: (slot.behind token).map Token.text) address word
  inside : address ≤ 999
  free : middle.memory.get address = none
  rest : Loading.loadLines ⟨middle.memory.write address word, address + 1⟩
    (slot.rest token).tail = (none, final)

section

variable {slot : Slot} {memory result : Memory} {token plain : List Char} {middle final : Loading}
  {address word number : Nat} {value : Int}

private theorem text_tokens_line (denoted : Denotes token value) :
    (tokens (slot.line token)).map Token.text =
      slot.before.map Token.text ++ token :: (slot.behind token).map Token.text := by
  rw [tokens_line denoted, List.map_append, List.map_cons]

theorem load_fill_eq_none_iff (denoted : Denotes token value) :
    load (slot.fill token) memory = (none, result) ↔
      ∃ middle address word final, Loads slot memory token middle address word final ∧
        result = final.memory := by
  constructor
  · intro loaded
    obtain ⟨stopped, left⟩ := Prod.mk.inj loaded
    obtain ⟨final, whole, same⟩ : ∃ final : Loading,
        Loading.loadLines ⟨memory, 0⟩ (lines (slot.fill token)) = (none, final) ∧
          result = final.memory := ⟨_, Prod.ext stopped rfl, left.symm⟩
    rw [lines_fill denoted] at whole
    obtain ⟨middle, earlier, others⟩ := Loading.exists_of_loadLines_append whole
    rw [Loading.loadLines] at others
    split at others
    · cases others
    next after done =>
      rcases Loading.loadLine_eq_ok_iff.mp done with
        ⟨none, -⟩ | ⟨address, word, gives, inside, free, rfl⟩
      · rw [tokens_line denoted] at none
        simp at none
      · rw [text_tokens_line denoted] at gives
        exact ⟨middle, address, word, final, ⟨earlier, gives, inside, free, others⟩, same⟩
  · rintro ⟨middle, address, word, final, ⟨earlier, gives, inside, free, rest⟩, rfl⟩
    rw [← text_tokens_line denoted] at gives
    have done : middle.loadLine (slot.line token) =
        .ok ⟨middle.memory.write address word, address + 1⟩ :=
      Loading.loadLine_eq_ok_iff.mpr (.inr ⟨address, word, gives, inside, free, rfl⟩)
    rw [load, lines_fill denoted, Loading.loadLines_append earlier, Loading.loadLines, done]
    exact congrArg (fun loaded => (loaded.1, loaded.2.memory)) rest

/-- Another numeral of the same word loads to the same memory. -/
theorem Loads.replace {other : List Char} (same : ∀ word, IsWord token word → IsWord other word)
    (loads : Loads slot memory token middle address word final) :
    Loads slot memory other middle address word final where
  earlier := loads.earlier
  gives := slot.behind_text token other ▸ loads.gives.replace same
  inside := loads.inside
  free := loads.free
  rest := rest_loads other loads.rest

end

end Slot

private theorem exists_around_token {piece : List Located} {token : Token}
    (member : token ∈ tokens piece) :
    ∃ lead run rest, piece = lead ++ (run ++ rest) ∧ token = Token.of run ∧ run ≠ [] ∧
      (∀ located ∈ lead, opensComment located.2 = false) ∧
      (∀ located ∈ run, separates located.2 = false) ∧
      (∀ located ∈ lead.getLast?, separates located.2 = true) ∧
      ∀ located ∈ rest.head?, separates located.2 = true ∨ opensComment located.2 = true := by
  obtain ⟨run, inside, rfl⟩ := List.mem_map.mp member
  obtain ⟨lead, trail, cut, present, solid, opened, ended⟩ :=
    (runs_eq_iff.mp rfl).exists_around inside
  have whole : code piece ++ piece.dropWhile (fun located => !opensComment located.2) = piece :=
    List.takeWhile_append_dropWhile
  have stops := List.head?_dropWhile_not (fun located : Located => !opensComment located.2) piece
  generalize piece.dropWhile _ = comment at whole stops
  refine ⟨lead, run, trail ++ comment, ?_, rfl, present, ?_, ?_, opened, ?_⟩
  · rw [← whole, cut]
    simp
  · intro located before
    have uncommented := List.mem_takeWhile_imp (cut ▸ List.mem_append_left _ before)
    simpa using uncommented
  · intro located within
    exact Bool.eq_false_iff.mpr (solid located within)
  · intro located first
    cases trail with
    | nil =>
      rw [List.nil_append] at first
      rw [first] at stops
      exact .inr (by simpa using stops)
    | cons => exact .inl (ended located first)

/-- Every token of a text stands in a slot. -/
theorem exists_slot {text : String} {piece : List Located} {token : Token}
    (line : piece ∈ lines text) (member : token ∈ tokens piece) :
    ∃ slot : Slot, slot.fill token.text = text ∧ slot.extent token.text = token.extent := by
  obtain ⟨lead, run, rest, parted, rfl, present, uncommented, solid, opened, ended⟩ :=
    exists_around_token member
  obtain ⟨before, after, whole⟩ := List.append_of_mem line
  have cut : pieces (fun located : Located => located.2 = '\n') (locate 0 text.toList) =
      before ++ piece :: after := whole
  have spread : locate 0 text.toList =
      before.flatten ++ (lead ++ (run ++ (rest ++ after.flatten))) := by
    rw [← flatten_pieces (fun located : Located => located.2 = '\n') (locate 0 text.toList), cut,
      List.flatten_append, List.flatten_cons, parted]
    simp
  have closed : Closed (fun located : Located => located.2 = '\n') before.flatten :=
    pieces_closed cut (List.cons_ne_nil _ _)
  have inLine : ∀ located ∈ lead, located.2 ≠ '\n' := by
    intro located member newline
    have inside := (pieces_open piece line).2 located (by simp [parted, present, member])
    simp [newline] at inside
  have behind : ∀ located ∈ (rest ++ after.flatten).head?,
      separates located.2 = true ∨ opensComment located.2 = true := by
    intro located first
    cases rest with
    | cons => exact ended located first
    | nil =>
      -- The line would end with the token, and yet another one follows.
      have more : after ≠ [] := by
        rintro rfl
        cases first
      have split : pieces (fun located : Located => located.2 = '\n') (locate 0 text.toList) =
          (before ++ [piece]) ++ after := by simp [cut]
      obtain ⟨start, last, rfl⟩ := (List.eq_nil_or_concat run).resolve_left present
      have newline : last.2 = '\n' := by
        simpa using pieces_closed split more last (by simp [parted])
      have dense := solid last (by simp)
      rw [newline] at dense
      exact absurd dense (by decide)
  refine ⟨⟨before.flatten.map Prod.snd, lead.map Prod.snd, (rest ++ after.flatten).map Prod.snd,
    ?closed, ?inLine, ?opened, ?ended⟩, ?fill, ?extent⟩
  case closed =>
    intro c last
    rw [List.getLast?_map] at last
    obtain ⟨located, found, rfl⟩ := Option.map_eq_some_iff.mp last
    exact closed located found
  case inLine =>
    intro c member
    obtain ⟨located, inside, rfl⟩ := List.mem_map.mp member
    exact ⟨inLine located inside, uncommented located inside⟩
  case opened =>
    intro c last
    rw [List.getLast?_map] at last
    obtain ⟨located, found, rfl⟩ := Option.map_eq_some_iff.mp last
    exact opened located found
  case ended =>
    intro c first
    rw [List.head?_map] at first
    obtain ⟨located, found, rfl⟩ := Option.map_eq_some_iff.mp first
    exact behind located found
  case fill =>
    have characters := congrArg (List.map Prod.snd) spread
    rw [map_locate] at characters
    rw [Slot.fill, ← String.ofList_toList (s := text), characters]
    simp [Token.of]
  case extent =>
    obtain ⟨-, afterLines⟩ := locate_eq_append spread
    obtain ⟨-, afterLead⟩ := locate_eq_append afterLines
    obtain ⟨here, -⟩ := locate_eq_append afterLead
    rw [← here, of_locate (by simpa using present)]
    simp [Slot.extent]

end Program

end LittleMan
