import LittleMan.Proofs.InputLines
import LittleMan.Proofs.LineEnds

/-! Redirected input as a stream of elements. Bytes are cut into lines, and a line gives its tokens or
one failure if it is not text. Every read takes one element, whatever it answers, so nothing of the
layout is left but its order. -/

namespace LittleMan

open Text

theorem encode_of_decodeText {bytes : List UInt8} {text : List Char}
    (decoded : decodeText bytes = some text) : encode text = bytes := by
  obtain ⟨found, valid, rfl⟩ := Option.map_eq_some_iff.mp decoded
  unfold String.fromUTF8? at valid
  split at valid
  next holds =>
    cases valid
    apply List.toByteArray_inj.mp
    have same : (encode (String.fromUTF8 bytes.toByteArray holds).toList).toByteArray =
        (String.ofList (String.fromUTF8 bytes.toByteArray holds).toList).toByteArray :=
      String.toByteArray_ofList.symm
    rw [same, String.ofList_toList]
    rfl
  next => cases valid

private theorem decodeText_eq_none_iff {bytes : List UInt8} :
    decodeText bytes = none ↔ ∀ text, encode text ≠ bytes := by
  constructor
  · rintro undecodable text rfl
    rw [decodeText_encode] at undecodable
    cases undecodable
  · intro undecodable
    apply Option.eq_none_iff_forall_ne_some.mpr
    intro text decoded
    exact undecodable text (encode_of_decodeText decoded)

namespace Input

inductive Element where
  | token (text : List Char)
  /-- A line that is not text. -/
  | failure
deriving DecidableEq, Repr

/-- A line at the head of bytes goes up to the first newline or to their end. -/
inductive FirstLine : List UInt8 → List UInt8 → Prop where
  | closed {body rest : List UInt8} (clean : 10 ∉ body) : FirstLine (body ++ [10]) rest
  | last {body : List UInt8} (clean : 10 ∉ body) (present : body ≠ []) : FirstLine body []

/-- Bytes give elements line by line. A line in UTF-8 gives its maximal runs without white space, any
other line one failure. -/
inductive Gives : List UInt8 → List Element → Prop where
  | nil : Gives [] []
  | text {line rest : List UInt8} {text : List Char} {tokens : List (List Char)}
      {others : List Element} (cut : FirstLine line rest) (encoded : encode text = line)
      (falls : FallsInto (fun c => isBlank c = true) text tokens) (later : Gives rest others) :
      Gives (line ++ rest) (tokens.map .token ++ others)
  | failure {line rest : List UInt8} {others : List Element} (cut : FirstLine line rest)
      (undecodable : ∀ text, encode text ≠ line) (later : Gives rest others) :
      Gives (line ++ rest) (.failure :: others)

inductive Answers : Option Element → Except Fault Int → Prop where
  | value {token : List Char} {value : Int} (denoted : Denotes token value)
      (low : -2147483648 ≤ value) (high : value ≤ 2147483647) :
      Answers (some (.token token)) (.ok value)
  | notNumber {token : List Char}
      (none : ∀ value, Denotes token value → ¬(-2147483648 ≤ value ∧ value ≤ 2147483647)) :
      Answers (some (.token token)) (.error (.inputNotNumber (String.ofList token)))
  | failure :
      Answers (some .failure) (.error (.channel "stream did not contain valid UTF-8"))
  | ended : Answers none (.error (.channel "end of input"))

def lineElements (line : List UInt8) : List Element :=
  match decodeText line with
  | none => [.failure]
  | some text => (runs isBlank text).map .token

private theorem lineElements_encode (text : List Char) :
    lineElements (encode text) = (runs isBlank text).map .token := by
  rw [lineElements, decodeText_encode]

private theorem lineElements_of_undecodable {line : List UInt8}
    (undecodable : ∀ text, encode text ≠ line) :
    lineElements line = [.failure] := by
  rw [lineElements, decodeText_eq_none_iff.mpr undecodable]

def elements : Input → List Element
  | .redirected pending lines => pending.map .token ++ lines.flatMap lineElements
  | .typed _ => []

def taken : Option Element → Except Fault (List Char)
  | none => .error (.channel "end of input")
  | some .failure => .error (.channel "stream did not contain valid UTF-8")
  | some (.token text) => .ok text

section

variable {bytes line rest : List UInt8} {found : List Element}

theorem FirstLine.ne_nil (cut : FirstLine line rest) : line ≠ [] := by
  cases cut with
  | closed => simp
  | last _ present => exact present

theorem FirstLine.cons {byte : UInt8} (other : byte ≠ 10) (cut : FirstLine line rest) :
    FirstLine (byte :: line) rest := by
  cases cut with
  | @closed body rest clean =>
    have still : 10 ∉ byte :: body := by simp [clean, other.symm]
    exact .closed still
  | last clean => exact .last (by simp [clean, other.symm]) (List.cons_ne_nil _ _)

private theorem exists_firstLine (present : bytes ≠ []) :
    ∃ line rest, bytes = line ++ rest ∧ FirstLine line rest := by
  induction bytes with
  | nil => contradiction
  | cons byte others ih =>
    by_cases newline : byte = 10
    · have cut : FirstLine ([] ++ [10]) others := .closed (by simp)
      subst newline
      exact ⟨[10], others, rfl, cut⟩
    · by_cases alone : others = []
      · subst alone
        exact ⟨[byte], [], rfl, .last (by simpa using Ne.symm newline) (by simp)⟩
      · obtain ⟨line, rest, rfl, cut⟩ := ih alone
        exact ⟨byte :: line, rest, rfl, cut.cons newline⟩

private theorem pieces_firstLine (cut : FirstLine line rest) :
    pieces (· = 10) (line ++ rest) = line :: pieces (· = 10) rest := by
  have apart {body : List UInt8} (clean : 10 ∉ body) (byte : UInt8) (member : byte ∈ body) :
      decide (byte = 10) = false := by
    apply decide_eq_false
    rintro rfl
    exact clean member
  cases cut with
  | @closed body rest clean =>
    have first : pieces (· = 10) (body ++ 10 :: rest) = (body ++ [10]) :: pieces (· = 10) rest :=
      pieces_line (apart clean) (by simp) (by simp)
    rwa [List.append_assoc, List.singleton_append]
  | last clean present =>
    rw [pieces_open_append present (apart clean)]
    simp [pieces, joinFirst]

private theorem elements_ofBytes (bytes : List UInt8) :
    (ofBytes bytes).elements = (pieces (· = 10) bytes).flatMap lineElements := rfl

theorem Gives.eq (gives : Gives bytes found) : found = (ofBytes bytes).elements := by
  induction gives with
  | nil => rfl
  | text cut encoded falls _ ih =>
    subst encoded
    rw [elements_ofBytes, pieces_firstLine cut, List.flatMap_cons, ← elements_ofBytes, ← ih,
      lineElements_encode, falls.runs_eq]
  | failure cut undecodable _ ih =>
    rw [elements_ofBytes, pieces_firstLine cut, List.flatMap_cons, ← elements_ofBytes, ← ih,
      lineElements_of_undecodable undecodable]
    rfl

private theorem exists_gives (bytes : List UInt8) : ∃ found, Gives bytes found := by
  by_cases none : bytes = []
  · subst none
    exact ⟨[], .nil⟩
  · obtain ⟨line, rest, whole, cut⟩ := exists_firstLine none
    have shorter : rest.length < bytes.length := by
      have begun := List.length_pos_of_ne_nil cut.ne_nil
      rw [whole, List.length_append]
      omega
    obtain ⟨others, later⟩ := exists_gives rest
    rw [whole]
    by_cases encoded : ∃ text, encode text = line
    · obtain ⟨text, encoded⟩ := encoded
      exact ⟨_, .text cut encoded (runs_eq_iff.mp rfl) later⟩
    · exact ⟨_, .failure cut (not_exists.mp encoded) later⟩
termination_by bytes.length

theorem Holds.elements {input : Input} {tokens : List (List Char)} (holds : Holds input tokens) :
    input.elements = tokens.map .token := by
  cases holds with
  | redirected pending lines =>
    have each : (lines.map encode).flatMap lineElements =
        (lines.flatMap (runs isBlank)).map .token := by
      rw [List.flatMap_map, List.map_flatMap]
      apply List.flatMap_congr
      intro line _
      apply lineElements_encode
    rw [Input.elements, each, List.map_append]

end

private theorem nextToken_elements (pending : List (List Char)) (lines : List (List UInt8)) :
    let found := (redirected pending lines).elements
    ∃ others left, nextToken pending lines = (taken found.head?, .redirected others left) ∧
      (redirected others left).elements = found.tail := by
  induction lines generalizing pending with
  | nil =>
    cases pending with
    | nil => exact ⟨[], [], rfl, rfl⟩
    | cons token pending => exact ⟨pending, [], rfl, rfl⟩
  | cons line lines ih =>
    cases pending with
    | cons token pending => exact ⟨pending, line :: lines, rfl, rfl⟩
    | nil =>
      cases decoded : decodeText line with
      | none =>
        refine ⟨[], lines, ?_, ?_⟩
        · simp [nextToken, decoded, Input.elements, lineElements, taken]
        · simp [decoded, Input.elements, lineElements]
      | some text =>
        obtain ⟨others, left, next, rest⟩ := ih (runs isBlank text)
        refine ⟨others, left, ?_, ?_⟩
        · rw [nextToken, decoded]
          simpa [Input.elements, lineElements, decoded] using next
        · simpa [Input.elements, lineElements, decoded] using rest

end Input

namespace Streams

private theorem answers_readValue (token : List Char) :
    Input.Answers (some (.token token)) (readValue token) := by
  unfold readValue
  cases parsed : (NumeralRange.signed 32).read token with
  | ok value =>
    obtain ⟨denoted, low, high⟩ := (NumeralRange.signed_read_eq_ok_iff 32).mp parsed
    exact .value denoted low high
  | error fault =>
    apply Input.Answers.notNumber
    intro value denoted fits
    have read := (NumeralRange.signed_read_eq_ok_iff 32).mpr ⟨denoted, fits⟩
    rw [parsed] at read
    cases read

private theorem answers_read {streams : Streams} {pending : List (List Char)}
    {lines : List (List UInt8)}
    (redirected : streams.input = .redirected pending lines) :
    Input.Answers streams.input.elements.head? streams.read.1 ∧
      ∃ others left, streams.read.2.input = .redirected others left ∧
        streams.read.2.input.elements = streams.input.elements.tail := by
  obtain ⟨others, left, next, rest⟩ := Input.nextToken_elements pending lines
  have taken : streams.read = ((Input.taken streams.input.elements.head?).bind readValue,
      { streams with input := .redirected others left }) := by
    simp only [read, redirected, next]
  rw [taken, redirected]
  refine ⟨?_, others, left, rfl, rest⟩
  match (Input.redirected pending lines).elements.head? with
  | none => exact .ended
  | some .failure => exact .failure
  | some (.token token) => exact answers_readValue token

end Streams

/-- Redirected input is a stream of tokens, however it is laid out, with a failure for each line that
is not text. Every read answers for the element it takes and for no other one, and so for the end when
there is none left; between the reads anything may happen to the streams that leaves the input. Input
that is text as a whole gives its tokens, wherever its lines end. -/
theorem redirected_reads (bytes : List UInt8) (calls : Nat → Streams)
    (first : (calls 0).input = .ofBytes bytes)
    (next : ∀ index, (calls (index + 1)).input = (calls index).read.2.input) :
    ∃ elements, Input.Gives bytes elements ∧
      (∀ others, Input.Gives bytes others → others = elements) ∧
      (∀ index : Nat, Input.Answers elements[index]? (calls index).read.1) ∧
      ∀ text, encode text = bytes →
        ∃ tokens, FallsInto (fun c => isBlank c = true) text tokens ∧
          elements = tokens.map .token := by
  obtain ⟨elements, gives⟩ := Input.exists_gives bytes
  refine ⟨elements, gives, ?_, ?_, ?_⟩
  · intro others also
    rw [also.eq, gives.eq]
  · have reached (index : Nat) : ∃ pending lines, (calls index).input = .redirected pending lines ∧
        (calls index).input.elements = elements.drop index := by
      induction index with
      | zero => exact ⟨[], _, first, by rw [first, gives.eq, List.drop_zero]⟩
      | succ index ih =>
        obtain ⟨pending, lines, redirected, left⟩ := ih
        obtain ⟨-, others, later, same, rest⟩ := Streams.answers_read redirected
        refine ⟨others, later, (next index).trans same, ?_⟩
        rw [next, rest, left, List.tail_drop]
    intro index
    obtain ⟨pending, lines, redirected, left⟩ := reached index
    obtain ⟨answers, -⟩ := Streams.answers_read redirected
    rwa [left, List.head?_drop] at answers
  · rintro text rfl
    exact ⟨_, runs_eq_iff.mp rfl, gives.eq.trans (Input.ofBytes_holds text).elements⟩

/-- A line that is not text between lines that are, and a prompt after every read. -/
theorem redirected_reads_around_broken_line :
    let bytes := encode "4x 7\n\n".toList ++ [255, 53, 10] ++ encode " 8".toList
    let start : Streams := { input := .ofBytes bytes }
    let calls (index : Nat) := (fun streams => streams.read.2.print "? ")^[index] start
    let elements := [.token ['4', 'x'], .token ['7'], .failure, .token ['8']]
    Input.Gives bytes elements ∧
      ∀ index : Nat, Input.Answers elements[index]? (calls index).read.1 := by
  intro bytes start calls elements
  have next (index : Nat) : (calls (index + 1)).input = (calls index).read.2.input := by
    show (Nat.iterate _ (index + 1) start).input = _
    rw [Function.iterate_succ_apply']
    rfl
  obtain ⟨found, gives, -, answers, -⟩ := redirected_reads bytes calls rfl next
  have taken : (Input.ofBytes bytes).elements = elements := by decide +kernel
  obtain rfl : found = elements := gives.eq.trans taken
  exact ⟨gives, answers⟩

end LittleMan
