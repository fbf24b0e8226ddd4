import LittleMan.Proofs.LineEnds
import LittleMan.Proofs.LoadFailure

/-! Where the report on a text at fault points. It is a stretch of the code of the first line that
is refused: a token, known by the tokens before it, or all of the code. Counted in bytes, the
stretch begins after everything that stands before it in the text. -/

namespace LittleMan

namespace Text

theorem Closed.append {α : Type} {ends : α → Bool} {first second : List α}
    (closed : Closed ends first) (also : Closed ends second) : Closed ends (first ++ second) := by
  intro item last
  rw [List.getLast?_append] at last
  rcases Option.or_eq_some_iff.mp (Option.mem_def.mp last) with found | ⟨-, found⟩
  · exact also item found
  · exact closed item found

private theorem exists_of_runs_eq_append {α : Type} {separates : α → Bool} {items run : List α}
    {first found : List (List α)} (cut : runs separates items = first ++ run :: found) :
    ∃ lead rest, items = lead ++ (run ++ rest) ∧ runs separates lead = first ∧ run ≠ [] := by
  induction first generalizing items with
  | nil =>
    obtain ⟨lead, rest, rfl, apart, present, -⟩ := (runs_eq_iff.mp cut).exists_append
    exact ⟨lead, rest, List.append_assoc _ _ _, runs_separators apart, present⟩
  | cons start first ih =>
    obtain ⟨lead, rest, rfl, apart, filled, solid, ended, others⟩ :=
      (runs_eq_iff.mp cut).exists_append
    obtain ⟨gap, rest, rfl, earlier, present⟩ := ih others.runs_eq
    refine ⟨lead ++ (start ++ gap), rest, by simp, ?_, present⟩
    have opened : ∀ item ∈ lead.getLast?, separates item = true :=
      fun item last => apart item (List.mem_of_getLast? last)
    have behind : ∀ item ∈ gap.head?, separates item = true := by
      intro item head
      apply ended
      rw [List.head?_append, Option.mem_def.mp head]
      rfl
    rw [runs_append_solid filled (fun item inside => Bool.eq_false_iff.mpr (solid item inside))
      opened behind, runs_separators apart, earlier, List.nil_append]

private theorem exists_of_trimBy {α : Type} (drop : α → Bool) (items : List α) :
    ∃ lead trail, items = lead ++ (trimBy drop items ++ trail) ∧ (∀ item ∈ lead, drop item = true) ∧
      (∀ item ∈ trail, drop item = true) ∧ (∀ item ∈ (trimBy drop items).head?, drop item = false) ∧
      ∀ item ∈ (trimBy drop items).getLast?, drop item = false := by
  have front : items.takeWhile drop ++ items.dropWhile drop = items := List.takeWhile_append_dropWhile
  have opened := List.head?_dropWhile_not drop items
  generalize cut : items.dropWhile drop = rest at front opened
  have back : trimBy drop items ++ (rest.reverse.takeWhile drop).reverse = rest := by
    rw [trimBy, cut, ← List.reverse_append, List.takeWhile_append_dropWhile, List.reverse_reverse]
  have ended := List.head?_dropWhile_not drop rest.reverse
  refine ⟨items.takeWhile drop, (rest.reverse.takeWhile drop).reverse, by rw [back, front],
    fun item inside => List.mem_takeWhile_imp inside, ?_, ?_, ?_⟩
  · intro item inside
    exact List.mem_takeWhile_imp (List.mem_reverse.mp inside)
  · intro item first
    have head : rest.head? = some item := by
      rw [← back, List.head?_append, Option.mem_def.mp first]
      rfl
    rw [head] at opened
    simpa using opened
  · intro item last
    rw [trimBy, cut, List.getLast?_reverse] at last
    rw [Option.mem_def.mp last] at ended
    simpa using ended

end Text

namespace Program

open Text
open String (utf8Len)

inductive ReadAs : Part → List (List Char) → List (List Char) → Prop where
  | address {value : List Char} {extra : List (List Char)} : ReadAs .address [] (value :: extra)
  | bare : ReadAs .value [] []
  | value {place : List Char} {address : Nat} (isAddress : IsWord place address) :
      ReadAs .value [place] []

inductive Refused : LoadCause → List (List Char) → List Char → List (List Char) → Prop where
  | badNumber {part : Part} {earlier later : List (List Char)} {token : List Char}
      {reason : NumeralFault} (read : ReadAs part earlier later)
      (malformed : ∀ number, ¬IsLiteral token number) :
      Refused (.badNumber reason) earlier token later
  | outOfRange {part : Part} {earlier later : List (List Char)} {token : List Char} {number : Int}
      (read : ReadAs part earlier later) (literal : IsLiteral token number)
      (outside : number < 0 ∨ 999 < number) : Refused (.outOfRange part) earlier token later
  | trailing {place value third : List Char} {extra : List (List Char)} {address : Nat}
      (isAddress : IsWord place address) : Refused .trailing [place, value] third extra
  | overflow {value : List Char} : Refused .overflow [] value []

inductive LiesIn (line : List Located) (fault : LoadFault) : Prop where
  | token {earlier later : List Token} {token : Token}
      (cut : tokens line = earlier ++ token :: later) (extent : fault.extent = token.extent)
      (refused : Refused fault.cause (earlier.map Token.text) token.text (later.map Token.text))
  | whole {address : Nat} (present : tokens line ≠ [])
      (extent : fault.extent = (trimmedCode line).extent)
      (cause : fault.cause = .duplicateAddress address)

private theorem readWord_refused {part : Part} {token : Token} {fault : LoadFault}
    {earlier later : List (List Char)} (read : ReadAs part earlier later)
    (refused : readWord part token = .error fault) :
    fault.extent = token.extent ∧ Refused fault.cause earlier token.text later := by
  constructor
  · unfold readWord at refused
    split at refused
    · cases refused
      rfl
    · split at refused
      · cases refused
      · cases refused
        rfl
  · rcases readWord_error refused with ⟨reason, cause, malformed⟩ | ⟨number, cause, literal, outside⟩
    · rw [cause]
      exact .badNumber read malformed
    · rw [cause]
      exact .outOfRange read literal outside

namespace Loading

variable {loading : Loading} {line : List Located} {fault : LoadFault}

private theorem define_liesIn {address : Nat} {earlier : List Token} {value : Token}
    (cut : tokens line = earlier ++ [value]) (read : ReadAs .value (earlier.map Token.text) [])
    (refused : loading.define line address value [] = .error fault) : LiesIn line fault := by
  unfold define at refused
  dsimp only at refused
  split at refused
  next stopped =>
    cases refused
    obtain ⟨extent, cause⟩ := readWord_refused read stopped
    exact .token cut extent cause
  next =>
    split at refused
    · cases refused
      exact .whole (by simp [cut]) rfl rfl
    · cases refused

private theorem loadLine_liesIn (refused : loading.loadLine line = .error fault) :
    LiesIn line fault := by
  unfold loadLine at refused
  split at refused
  · cases refused
  next value single =>
    have cut : tokens line = [] ++ [value] := single
    split at refused
    · exact define_liesIn cut .bare refused
    · cases refused
      exact .token cut rfl .overflow
  next place value extra several =>
    split at refused
    next stopped =>
      cases refused
      have cut : tokens line = [] ++ place :: value :: extra := several
      obtain ⟨extent, cause⟩ := readWord_refused .address stopped
      exact .token cut extent cause
    next address read =>
      have isAddress := readWord_eq_ok_iff.mp read
      cases extra with
      | nil =>
        have cut : tokens line = [place] ++ [value] := several
        exact define_liesIn cut (.value isAddress) refused
      | cons third extra =>
        cases refused
        have cut : tokens line = [place, value] ++ third :: extra := several
        exact .token cut rfl (.trailing isAddress)

end Loading

/-- A line of a text. What stands before it is closed, and it goes up to a newline or to the end. -/
structure LineAt (text before line after : List Char) : Prop where
  whole : text = before ++ line ++ after
  starts : Closed (fun c => c = '\n') before
  clean : '\n' ∉ line
  ends : after = [] ∨ after.head? = some '\n'

private theorem exists_first_line {offset : Nat} {text : List Char} {piece : List Located}
    {others : List (List Located)} (cut : linesFrom offset text = piece :: others) :
    ∃ line after, LineAt text [] line after ∧ piece = locate offset (line ++ after.take 1) ∧
      linesFrom (offset + utf8Len (line ++ after.take 1)) after.tail = others := by
  have split : text.takeWhile (fun c => c ≠ '\n') ++ text.dropWhile (fun c => c ≠ '\n') = text :=
    List.takeWhile_append_dropWhile
  have clean : '\n' ∉ text.takeWhile (fun c => c ≠ '\n') :=
    fun inside => by simpa using List.mem_takeWhile_imp inside
  have stops := List.head?_dropWhile_not (fun c => c ≠ '\n') text
  generalize text.takeWhile _ = line, text.dropWhile _ = after at split clean stops
  have ends : after = [] ∨ after.head? = some '\n' := by
    cases after with
    | nil => exact .inl rfl
    | cons c after => exact .inr (by simpa using stops)
  subst split
  have present : line ++ after ≠ [] := by
    intro none
    rw [none] at cut
    cases cut
  rw [linesFrom_line clean ends present] at cut
  obtain ⟨first, rest⟩ := List.cons.inj cut
  exact ⟨line, after, ⟨rfl, by simp [Closed], clean, ends⟩, first.symm, rest⟩

private theorem exists_lineAt {offset : Nat} {text : List Char} {earlier rest : List (List Located)}
    {piece : List Located} (cut : linesFrom offset text = earlier ++ piece :: rest) :
    ∃ before line after, LineAt text before line after ∧ linesFrom offset before = earlier ∧
      piece = locate (offset + utf8Len before) (line ++ after.take 1) := by
  induction earlier generalizing offset text with
  | nil =>
    obtain ⟨line, after, here, located, -⟩ := exists_first_line cut
    exact ⟨[], line, after, here, rfl, located⟩
  | cons first earlier ih =>
    obtain ⟨line, after, here, start, others⟩ := exists_first_line cut
    obtain ⟨more, rfl⟩ : ∃ more, after = '\n' :: more := by
      rcases here.ends with rfl | newline
      · have impossible : [] = earlier ++ piece :: rest := others
        simp at impossible
      · exact List.head?_eq_some_iff.mp newline
    have head : line ++ List.take 1 ('\n' :: more) = line ++ ['\n'] := rfl
    rw [head] at start others
    obtain ⟨before, found, after, there, same, located⟩ := ih others
    have closed : Closed (fun c => c = '\n') (line ++ ['\n']) := by simp [Closed]
    have alone : linesFrom offset (line ++ ['\n']) = [first] := by
      rw [linesFrom_line here.clean (.inr rfl) (by simp), start]
      rfl
    refine ⟨line ++ ['\n'] ++ before, found, after, ⟨?_, closed.append there.starts, there.clean,
      there.ends⟩, ?_, ?_⟩
    · have rest : more = before ++ found ++ after := there.whole
      rw [here.whole, rest]
      simp
    · rw [linesFrom_append closed, alone, same]
      rfl
    · rw [located, String.utf8Len_append (line ++ ['\n']), Nat.add_assoc]

/-- The stretch of a line at which a fault points, after a lead. It is a token that is known by the
tokens before it, or the whole of the code without the white space at its ends. -/
inductive PointsAt (line lead stretch : List Char) : LoadCause → Prop where
  | token {cause : LoadCause} {earlier later : List (List Char)} (before : HasTokens lead earlier)
      (whole : HasTokens line (earlier ++ stretch :: later))
      (refused : Refused cause earlier stretch later) : PointsAt line lead stretch cause
  | code {address : Nat} {trail : List Char} (whole : codeText line = lead ++ stretch ++ trail)
      (before : Blank lead) (after : Blank trail) (first : ∀ c ∈ stretch.head?, isBlank c = false)
      (last : ∀ c ∈ stretch.getLast?, isBlank c = false) :
      PointsAt line lead stretch (.duplicateAddress address)

section

variable {offset : Nat} {line : List Char} {fault : LoadFault}

private theorem map_code (offset : Nat) (line : List Char) :
    (code (locate offset line)).map Prod.snd = codeText line := by
  rw [codeText_eq, ← map_locate offset line, List.takeWhile_map, map_locate]
  rfl

private theorem of_within {lead run trail : List Located}
    (split : code (locate offset line) = lead ++ (run ++ trail)) (present : run ≠ []) :
    Token.of run = ⟨run.map Prod.snd, offset + utf8Len (lead.map Prod.snd),
      utf8Len (run.map Prod.snd)⟩ := by
  have whole : code (locate offset line) ++
      (locate offset line).dropWhile (fun located => !opensComment located.2) =
        locate offset line := List.takeWhile_append_dropWhile
  rw [split, List.append_assoc, List.append_assoc] at whole
  obtain ⟨-, behind⟩ := locate_eq_append whole.symm
  obtain ⟨here, -⟩ := locate_eq_append behind
  rw [← here, of_locate (by simpa using present), map_locate]

theorem LiesIn.exists_pointsAt (lies : LiesIn (locate offset line) fault) :
    ∃ lead stretch, stretch ≠ [] ∧ lead ++ stretch <+: codeText line ∧
      PointsAt line lead stretch fault.cause ∧
      fault.extent = ⟨offset + utf8Len lead, utf8Len stretch⟩ := by
  cases lies with
  | @token earlier later token cut extent refused =>
    have written := tokens_text (locate offset line)
    rw [map_locate, cut] at written
    obtain ⟨first, others, found, rfl, rest⟩ := List.map_eq_append_iff.mp cut
    obtain ⟨run, found', rfl, rfl, rfl⟩ := List.map_eq_cons_iff.mp rest
    obtain ⟨lead, trail, split, earlier, present⟩ := exists_of_runs_eq_append found
    have uncommented : ∀ c ∈ lead.map Prod.snd, (!opensComment c) = true := by
      intro c inside
      obtain ⟨located, member, rfl⟩ := List.mem_map.mp inside
      have within : located ∈ code (locate offset line) := split ▸ List.mem_append_left _ member
      have outside := List.mem_takeWhile_imp within
      exact outside
    have before : HasTokens (lead.map Prod.snd) ((first.map Token.of).map Token.text) := by
      rw [hasTokens_iff, List.takeWhile_eq_self_iff.mpr uncommented, runs_map, earlier, List.map_map]
      rfl
    refine ⟨lead.map Prod.snd, run.map Prod.snd, by simpa using present, ?_, ?_, ?_⟩
    · rw [← map_code offset line, split, ← List.append_assoc, List.map_append, List.map_append]
      exact List.prefix_append _ _
    · refine .token before (hasTokens_iff.mpr ?_) refused
      rw [← written]
      simp [Token.of]
    · rw [extent, of_within split present]
  | @whole address present extent cause =>
    have filled := trimBy_code_ne_nil present
    obtain ⟨lead, trail, split, before, after, first, last⟩ :=
      exists_of_trimBy (fun located : Located => isBlank located.2) (code (locate offset line))
    rw [trimmedCode, of_within split filled] at extent
    generalize trimBy _ _ = stretch at split filled first last extent
    have text : codeText line =
        lead.map Prod.snd ++ stretch.map Prod.snd ++ trail.map Prod.snd := by
      rw [← map_code offset line, split, List.map_append, List.map_append, List.append_assoc]
    refine ⟨lead.map Prod.snd, stretch.map Prod.snd, by simpa using filled, ?_, ?_, extent⟩
    · rw [text]
      exact List.prefix_append _ _
    · rw [cause]
      refine .code text ?before ?after ?first ?last
      case before =>
        intro c inside
        obtain ⟨located, member, rfl⟩ := List.mem_map.mp inside
        exact before located member
      case after =>
        intro c inside
        obtain ⟨located, member, rfl⟩ := List.mem_map.mp inside
        exact after located member
      case first =>
        intro c head
        rw [List.head?_map] at head
        obtain ⟨located, found, rfl⟩ := Option.map_eq_some_iff.mp head
        exact first located found
      case last =>
        intro c ends
        rw [List.getLast?_map] at ends
        obtain ⟨located, found, rfl⟩ := Option.map_eq_some_iff.mp ends
        exact last located found

end

structure FaultPlace (text : String) (memory : Memory) (cause : LoadCause)
    (before line after lead stretch : List Char) : Prop where
  lineAt : LineAt text.toList before line after
  loaded : load (String.ofList before) memory = (none, (load text memory).2)
  refused : load (String.ofList (before ++ line)) memory = load text memory
  present : stretch ≠ []
  inCode : lead ++ stretch <+: codeText line
  points : PointsAt line lead stretch cause

private theorem exists_place {text : String} {memory : Memory} {fault : LoadFault}
    (failed : (load text memory).1 = some fault) :
    ∃ before line after lead stretch,
      FaultPlace text memory fault.cause before line after lead stretch ∧
        fault.extent = ⟨utf8Len (before ++ lead), utf8Len stretch⟩ := by
  obtain ⟨final, stopped, left⟩ : ∃ final : Loading,
      Loading.loadLines ⟨memory, 0⟩ (lines text) = (some fault, final) ∧
        (load text memory).2 = final.memory := ⟨_, Prod.ext failed rfl, rfl⟩
  obtain ⟨pieces, piece, rest, cut, succeeded, refused⟩ :=
    Loading.exists_of_loadLines_eq_some stopped
  obtain ⟨before, line, after, lineAt, rfl, rfl⟩ := exists_lineAt cut
  -- The newline of the line is not part of what is refused.
  have blank (offset : Nat) : ∀ item ∈ locate offset (after.take 1), isBlank item.2 = true := by
    intro item member
    have inside := snd_mem_of_locate member
    rcases lineAt.ends with rfl | newline
    · cases inside
    · obtain ⟨more, rfl⟩ := List.head?_eq_some_iff.mp newline
      rw [List.mem_singleton.mp inside]
      decide
  rw [locate_append, Loading.loadLine_append_blank (blank _)] at refused
  obtain ⟨lead, stretch, present, inCode, points, extent⟩ :=
    (Loading.loadLine_liesIn refused).exists_pointsAt
  have filled : line ≠ [] := by
    rintro rfl
    have none := List.prefix_nil.mp inCode
    exact present (List.append_eq_nil_iff.mp none).2
  have alone : linesFrom 0 (before ++ line) =
      linesFrom 0 before ++ [locate (0 + utf8Len before) line] := by
    have single := linesFrom_line lineAt.clean (.inl rfl) (by simpa using filled)
      (0 + utf8Len before)
    rw [List.append_nil, List.take_nil, List.append_nil] at single
    rw [linesFrom_append lineAt.starts, single]
    rfl
  refine ⟨before, line, after, lead, stretch, {
    lineAt := lineAt
    loaded := ?loaded
    refused := ?refused
    present := present
    inCode := inCode
    points := points }, ?extent⟩
  case loaded =>
    have earlier : lines (String.ofList before) = linesFrom 0 before := by
      rw [lines, String.toList_ofList, linesFrom]
    rw [load, earlier, succeeded, left]
  case refused =>
    have upTo : lines (String.ofList (before ++ line)) = linesFrom 0 (before ++ line) := by
      rw [lines, String.toList_ofList, linesFrom]
    have whole : load text memory = (some fault, final.memory) := Prod.ext failed left
    rw [whole, load, upTo, alone, Loading.loadLines_append succeeded, Loading.loadLines, refused]
  case extent =>
    rw [extent, String.utf8Len_append, Nat.zero_add]

private theorem extract_between {text : String} {before stretch after : List Char}
    (whole : text.toList = before ++ stretch ++ after) :
    String.Pos.Raw.IsValid text ⟨utf8Len before⟩ ∧
      String.Pos.Raw.IsValid text ⟨utf8Len before + utf8Len stretch⟩ ∧
      String.Pos.Raw.extract text ⟨utf8Len before⟩ ⟨utf8Len before + utf8Len stretch⟩ =
        String.ofList stretch := by
  have valid (first second : List Char) (split : text.toList = first ++ second) :
      String.Pos.Raw.IsValid text ⟨utf8Len first⟩ := by
    refine String.Pos.Raw.isValid_iff_exists_append.mpr
      ⟨String.ofList first, String.ofList second, ?_, ?_⟩
    · rw [← String.ofList_append, ← split, String.ofList_toList]
    · rw [String.rawEndPos, String.utf8ByteSize_ofList]
  refine ⟨valid before (stretch ++ after) (by rw [whole, List.append_assoc]), ?_, ?_⟩
  · rw [← String.utf8Len_append]
    exact valid (before ++ stretch) after whole
  · rw [← String.ofList_toList (s := text), whole]
    exact String.extract_of_valid before stretch after

/-- A report on a text at fault has one label. It covers a stretch of the code of the first line
that is refused, the token or the trimmed code that the fault is about, from one boundary between
characters to another. -/
theorem load_report_points {text : String} {memory : Memory} {fault : LoadFault}
    (failed : (load text memory).1 = some fault) :
    ∃ before line after lead stretch,
      FaultPlace text memory fault.cause before line after lead stretch ∧
      let first := utf8Len (before ++ lead)
      let last := first + utf8Len stretch
      (∀ source, (fault.report source).labels =
        [⟨fault.cause.remark, first, utf8Len stretch⟩]) ∧
      last ≤ text.utf8ByteSize ∧ String.Pos.Raw.IsValid text ⟨first⟩ ∧
      String.Pos.Raw.IsValid text ⟨last⟩ ∧
      String.Pos.Raw.extract text ⟨first⟩ ⟨last⟩ = String.ofList stretch := by
  obtain ⟨before, line, after, lead, stretch, place, extent⟩ := exists_place failed
  obtain ⟨rest, behind⟩ : ∃ rest, line = lead ++ stretch ++ rest := by
    obtain ⟨rest, code⟩ := place.inCode.trans (List.takeWhile_prefix _)
    exact ⟨rest, code.symm⟩
  have whole : text.toList = (before ++ lead) ++ stretch ++ (rest ++ after) := by
    rw [place.lineAt.whole, behind]
    simp
  obtain ⟨opens, closes, covered⟩ := extract_between whole
  refine ⟨before, line, after, lead, stretch, place, fun source => ?_, closes.le_rawEndPos, opens,
    closes, covered⟩
  rw [LoadFault.report, extent]

/-- The third of four equal tokens, behind white space of three bytes and before a comment with the
same token in it. -/
theorem load_report_points_at_third_token :
    let text := "7\r\n\u2003 7 : 7 7 7 # 7"
    (load text Memory.empty).1 = some ⟨.trailing, 13, 1⟩ ∧
      ∃ before line after lead stretch,
        FaultPlace text Memory.empty .trailing before line after lead stretch ∧
          utf8Len (before ++ lead) = 13 ∧
          String.Pos.Raw.extract text ⟨13⟩ ⟨14⟩ = String.ofList stretch := by
  intro text
  have failed : (load text Memory.empty).1 = some ⟨.trailing, 13, 1⟩ := by decide +kernel
  obtain ⟨before, line, after, lead, stretch, place, labels, -, -, -, covered⟩ :=
    load_report_points failed
  obtain ⟨-, extent⟩ := Label.mk.inj (List.singleton_inj.mp (labels ⟨"sum", text⟩))
  obtain ⟨first, size⟩ := Extent.mk.inj extent
  refine ⟨failed, before, line, after, lead, stretch, place, first.symm, ?_⟩
  rwa [← first, ← size] at covered

end Program

end LittleMan
