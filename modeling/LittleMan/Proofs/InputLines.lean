import LittleMan.Channel.Streams
import LittleMan.Proofs.Literals
import LittleMan.Proofs.MaximalRuns

/-! Redirected text as the tokens it yields. Lines are cut from the bytes before they are
decoded, and tokens from one line after another. Neither cut is seen from outside: the tokens
are those of the whole text, in their order. -/

namespace LittleMan

namespace Text

section

variable {α β : Type} {ends separates : α → Bool}

/-- Puts a list in front of the first piece. -/
def joinFirst (lead : List α) : List (List α) → List (List α)
  | [] => [lead]
  | piece :: others => (lead ++ piece) :: others

private theorem extendFirst_eq_joinFirst (item : α) (found : List (List α)) :
    extendFirst item found = joinFirst [item] found := by
  cases found <;> rfl

private theorem joinFirst_append (first second : List α) (found : List (List α)) :
    joinFirst (first ++ second) found = joinFirst first (joinFirst second found) := by
  cases found <;> simp [joinFirst]

private theorem map_joinFirst {encode : List α → List β}
    (joins : ∀ first second, encode (first ++ second) = encode first ++ encode second)
    (lead : List α) (found : List (List α)) :
    (joinFirst lead found).map encode = joinFirst (encode lead) (found.map encode) := by
  cases found <;> simp [joinFirst, joins]

/-- A stretch in which no piece ends belongs to the first piece. -/
theorem pieces_open_append {lead : List α} (present : lead ≠ [])
    (inside : ∀ item ∈ lead, ends item = false) (rest : List α) :
    pieces ends (lead ++ rest) = joinFirst lead (pieces ends rest) := by
  induction lead with
  | nil => contradiction
  | cons item lead ih =>
    obtain ⟨first, others⟩ := List.forall_mem_cons.mp inside
    rw [List.cons_append, pieces, if_neg (Bool.eq_false_iff.mp first), extendFirst_eq_joinFirst]
    cases lead with
    | nil => rfl
    | cons next lead =>
      rw [ih (List.cons_ne_nil _ _) others, ← joinFirst_append]
      rfl

private theorem flatMap_joinFirst_nil (found : List (List α)) :
    (joinFirst [] found).flatMap (runs separates) = found.flatMap (runs separates) := by
  cases found <;> simp [joinFirst, runs_nil]

private theorem runs_append_eq_flatMap (apart : ∀ item, ends item = true → separates item = true)
    (lead rest : List α) :
    runs separates (lead ++ rest) = (joinFirst lead (pieces ends rest)).flatMap (runs separates) := by
  -- What precedes the rest in its piece is carried along, as it may begin a run that goes on.
  induction rest generalizing lead with
  | nil => simp [pieces, joinFirst]
  | cons item rest ih =>
    by_cases last : ends item = true
    · have separated := apart item last
      have alone : ∀ other ∈ [item], separates other = true := by simpa using separated
      calc runs separates (lead ++ item :: rest)
          = runs separates lead ++ runs separates ([] ++ rest) := runs_append_cons separated lead rest
        _ = runs separates (lead ++ [item]) ++ (pieces ends rest).flatMap (runs separates) := by
          rw [runs_append_separators lead alone, ih [], flatMap_joinFirst_nil]
        _ = (joinFirst lead (pieces ends (item :: rest))).flatMap (runs separates) := by
          rw [pieces, if_pos last, joinFirst, List.flatMap_cons]
    · rw [pieces, if_neg last, extendFirst_eq_joinFirst, ← joinFirst_append, ← ih, List.append_assoc]
      rfl

/-- No run reaches over the end of a piece, so the runs of a list are those of its pieces. -/
theorem runs_eq_flatMap_pieces (apart : ∀ item, ends item = true → separates item = true)
    (items : List α) : runs separates items = (pieces ends items).flatMap (runs separates) :=
  (runs_append_eq_flatMap apart [] items).trans (flatMap_joinFirst_nil _)

end

def encode (text : List Char) : List UInt8 := text.flatMap String.utf8EncodeChar

@[simp]
theorem encode_append (first second : List Char) :
    encode (first ++ second) = encode first ++ encode second := List.flatMap_append

/-- A byte of ASCII stands for its own character only. -/
theorem toNat_of_mem_utf8EncodeChar {c : Char} {byte : UInt8} (ascii : byte.toNat < 128)
    (member : byte ∈ String.utf8EncodeChar c) : byte.toNat = c.toNat := by
  have code : c.toNat = c.val.toNat := rfl
  unfold String.utf8EncodeChar at member
  dsimp only at member
  rw [← code] at member
  split at member
  next small =>
    rw [List.mem_singleton.mp member, UInt8.toNat_ofNat']
    omega
  next large =>
    -- Every byte of a longer encoding has its highest bit set.
    have high {offset rest : Nat} (offsets : 128 ≤ offset) (fits : rest + offset < 256) :
        byte ≠ UInt8.ofNat (rest + offset) := by
      rintro rfl
      rw [UInt8.toNat_ofNat'] at ascii
      omega
    split at member
    · simp only [List.mem_cons, List.not_mem_nil, or_false] at member
      rcases member with same | same <;> exact absurd same (high (by omega) (by omega))
    · split at member
      · simp only [List.mem_cons, List.not_mem_nil, or_false] at member
        rcases member with same | same | same <;> exact absurd same (high (by omega) (by omega))
      · simp only [List.mem_cons, List.not_mem_nil, or_false] at member
        rcases member with same | same | same | same <;>
          exact absurd same (high (by omega) (by omega))

private theorem pieces_encode (text : List Char) :
    pieces (· = 10) (encode text) = (pieces (· = '\n') text).map encode := by
  induction text with
  | nil => rfl
  | cons c rest ih =>
    by_cases newline : c = '\n'
    · subst newline
      have first : encode ('\n' :: rest) = 10 :: encode rest := rfl
      rw [first, pieces, pieces, ih]
      rfl
    · have inside : ∀ byte ∈ String.utf8EncodeChar c, decide (byte = 10) = false := by
        intro byte member
        apply decide_eq_false
        rintro rfl
        exact newline (Char.toNat_inj.mp (toNat_of_mem_utf8EncodeChar (by decide) member).symm)
      have first : encode (c :: rest) = encode [c] ++ encode rest := encode_append [c] rest
      have alone : encode [c] = String.utf8EncodeChar c := List.flatMap_singleton _ _
      rw [pieces, if_neg (by simpa using newline), extendFirst_eq_joinFirst, map_joinFirst encode_append,
        ← ih, first, alone, pieces_open_append String.utf8EncodeChar_ne_nil inside]

end Text

open Text

theorem decodeText_encode (text : List Char) : decodeText (encode text) = some text := by
  have bytes : (encode text).toByteArray = text.utf8Encode := rfl
  have valid : text.utf8Encode.IsValidUTF8 := ByteArray.isValidUTF8_utf8Encode
  have decoded : String.fromUTF8 text.utf8Encode valid = String.ofList text := by
    apply String.toByteArray_inj.mp
    rw [String.toByteArray_ofList]
    rfl
  rw [decodeText, bytes, String.fromUTF8?, dif_pos valid, decoded, Option.map_some,
    String.toList_ofList]

namespace Input

/-- Redirected input that has these tokens to give. -/
inductive Holds : Input → List (List Char) → Prop where
  | redirected (pending lines : List (List Char)) :
      Holds (.redirected pending (lines.map encode)) (pending ++ lines.flatMap (runs isBlank))

theorem ofBytes_holds (text : List Char) :
    Holds (.ofBytes (encode text)) (runs isBlank text) := by
  have apart : ∀ c : Char, decide (c = '\n') = true → isBlank c = true := by
    intro c newline
    rw [of_decide_eq_true newline]
    decide
  rw [ofBytes, pieces_encode, runs_eq_flatMap_pieces apart]
  exact .redirected [] _

private theorem nextToken_encoded (pending lines : List (List Char)) :
    let tokens := pending ++ lines.flatMap (runs isBlank)
    ∃ rest, nextToken pending (lines.map encode) =
      (tokens.head?.elim (.error (.channel "end of input")) .ok, rest) ∧ Holds rest tokens.tail := by
  induction lines generalizing pending with
  | nil =>
    cases pending with
    | nil => exact ⟨_, rfl, .redirected [] []⟩
    | cons token pending => exact ⟨_, rfl, .redirected pending []⟩
  | cons line lines ih =>
    cases pending with
    | nil =>
      obtain ⟨rest, taken, holds⟩ := ih (runs isBlank line)
      refine ⟨rest, ?_, by simpa using holds⟩
      simpa [nextToken, decodeText_encode] using taken
    | cons token pending => exact ⟨_, rfl, .redirected pending (line :: lines)⟩

/-- The next token is the first that the input has to give. -/
theorem Holds.exists_next {input : Input} {tokens : List (List Char)} (holds : Holds input tokens) :
    ∃ pending lines rest, input = .redirected pending lines ∧
      nextToken pending lines =
        (tokens.head?.elim (.error (.channel "end of input")) .ok, rest) ∧
      Holds rest tokens.tail := by
  cases holds with
  | redirected pending lines =>
    obtain ⟨rest, taken, others⟩ := nextToken_encoded pending lines
    exact ⟨_, _, rest, rfl, taken, others⟩

end Input

/-- A numeral is read as its number if that has 32 bits. -/
theorem Streams.readValue_of_denotes {token : List Char} {value : Int}
    (denoted : Denotes token value) :
    readValue token =
      if -2147483648 ≤ value ∧ value ≤ 2147483647 then .ok value
      else .error (.inputNotNumber (String.ofList token)) := by
  have range : (NumeralRange.signed 32).Holds value ↔
      -2147483648 ≤ value ∧ value ≤ 2147483647 := Iff.rfl
  unfold readValue
  split_ifs with fits
  · rw [(NumeralRange.signed_read_eq_ok_iff 32).mpr ⟨denoted, range.mpr fits⟩]
  · rw [NumeralRange.signed_read_eq_error 32 denoted fun holds => fits (range.mp holds)]

end LittleMan
