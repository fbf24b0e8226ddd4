import LittleMan.Proofs.InputLines
import LittleMan.Proofs.Literals

/-! Lines typed at a terminal. The bytes of a text are the keys of its characters, and a number that
is typed with blanks around it is read as the number. -/

namespace LittleMan

open Text

namespace Key

/-- The key that types a character. -/
def ofCharacter (c : Char) : Key :=
  if c.toNat < 128 then ofByte (UInt8.ofNat c.toNat) else .character c

private theorem announced_ofNat : ∀ code < 248, announced (UInt8.ofNat code) =
    if code < 192 then 0 else if code < 224 then 1 else if code < 240 then 2 else 3 := by
  decide +kernel

private theorem exists_lead {c : Char} (wide : 128 ≤ c.toNat) : ∃ byte next tail,
    String.utf8EncodeChar c = byte :: next :: tail ∧ announced byte = tail.length + 1 := by
  have code : c.toNat = c.val.toNat := rfl
  unfold String.utf8EncodeChar
  dsimp only
  rw [← code]
  split
  next small => omega
  next =>
    split
    · refine ⟨_, _, _, rfl, ?_⟩
      rw [announced_ofNat _ (by omega), if_neg (by omega), if_pos (by omega)]
      rfl
    · split
      · refine ⟨_, _, _, rfl, ?_⟩
        rw [announced_ofNat _ (by omega), if_neg (by omega), if_neg (by omega), if_pos (by omega)]
        rfl
      · refine ⟨_, _, _, rfl, ?_⟩
        rw [announced_ofNat _ (by omega), if_neg (by omega), if_neg (by omega), if_neg (by omega)]
        rfl

private theorem le_toNat_of_mem {c : Char} (wide : 128 ≤ c.toNat) {byte : UInt8}
    (member : byte ∈ String.utf8EncodeChar c) : 128 ≤ byte.toNat := by
  by_contra small
  have same := toNat_of_mem_utf8EncodeChar (by omega) member
  omega

private theorem ofBytes_utf8EncodeChar {c : Char} (plain : c ≠ '\x1b') (rest : List UInt8) :
    ofBytes (String.utf8EncodeChar c ++ rest) = ofCharacter c :: ofBytes rest := by
  unfold ofCharacter
  split
  next small =>
    have alone : String.utf8EncodeChar c = [UInt8.ofNat c.toNat] := by
      rw [String.utf8EncodeChar, if_pos (by exact Nat.le_of_lt_succ small)]
      rfl
    rw [alone, List.singleton_append, ofBytes_cons_of_single]
    · intro same
      apply plain
      have code := congrArg UInt8.toNat same
      rw [UInt8.toNat_ofNat', Nat.mod_eq_of_lt (by omega)] at code
      exact Char.toNat_inj.mp code
    · rw [announced_ofNat _ (by omega), if_pos (by omega)]
  next wide =>
    obtain ⟨byte, next, tail, bytes, announces⟩ := exists_lead (Nat.le_of_not_lt wide)
    have large : ∀ other ∈ byte :: next :: tail, 128 ≤ other.toNat := by
      rw [← bytes]
      exact fun _ => le_toNat_of_mem (Nat.le_of_not_lt wide)
    have decoded : decodeText (byte :: next :: tail) = some [c] := by
      rw [← bytes, ← decodeText_encode [c]]
      exact congrArg decodeText (List.flatMap_singleton _ _).symm
    have unescaped : byte ≠ 0x1b := by
      rintro rfl
      exact absurd (large _ List.mem_cons_self) (by decide)
    have going : (next :: tail ++ rest).head? ≠ some interruptByte := by
      intro same
      cases same
      have high := large interruptByte (by simp)
      exact absurd high (by decide)
    have taken : (next :: tail ++ rest).take (tail.length + 1) = next :: tail := by simp
    have dropped : (next :: tail ++ rest).drop (tail.length + 1) = rest := by simp
    have key : first byte (next :: tail ++ rest) = (.character c, tail.length + 1) := by
      rw [first, if_neg unescaped, announces]
      dsimp only
      rw [if_neg (Nat.succ_ne_zero _), if_neg going, taken, decoded]
    rw [bytes, List.cons_append, ofBytes_cons, key, dropped]

private theorem ofBytes_encode {text : List Char} (plain : ∀ c ∈ text, c ≠ '\x1b')
    (rest : List UInt8) :
    ofBytes (encode text ++ rest) = text.map ofCharacter ++ ofBytes rest := by
  induction text with
  | nil => rfl
  | cons c text ih =>
    obtain ⟨first, others⟩ := List.forall_mem_cons.mp plain
    have bytes : encode (c :: text) = String.utf8EncodeChar c ++ encode text := rfl
    rw [bytes, List.append_assoc, ofBytes_utf8EncodeChar first, ih others]
    rfl

private theorem ofByte_of_printing : ∀ code < 127, 32 ≤ code →
    ofByte (UInt8.ofNat code) = .character (Char.ofNat code) := by
  decide +kernel

private theorem ofCharacter_of_printing {c : Char} (low : 32 ≤ c.toNat) (high : c.toNat < 127) :
    ofCharacter c = .character c := by
  rw [ofCharacter, if_pos (by omega), ofByte_of_printing _ high low, Char.ofNat_toNat]

private theorem ofByte_of_blank :
    ∀ code < 128, isBlank (Char.ofNat code) = true → code ≠ 10 → code ≠ 13 →
    ofByte (UInt8.ofNat code) = .character (Char.ofNat code) ∨
      ofByte (UInt8.ofNat code) = .idle := by
  decide +kernel

private theorem ofCharacter_of_blank {c : Char} (blank : isBlank c = true) (newline : c ≠ '\n')
    (carriage : c ≠ '\r') : ofCharacter c = .character c ∨ ofCharacter c = .idle := by
  unfold ofCharacter
  split
  next small =>
    have typed := ofByte_of_blank c.toNat small
    rw [Char.ofNat_toNat] at typed
    exact typed blank (fun code => newline (Char.toNat_inj.mp code))
      fun code => carriage (Char.toNat_inj.mp code)
  next => exact .inl rfl

end Key

namespace TypedLine

/-- What is left of a text when it is typed. -/
def kept (text : List Char) : List Char :=
  text.filter fun c => Key.ofCharacter c = .character c

private theorem afterKeys_line {text : List Char}
    (plain : ∀ c ∈ text, Key.ofCharacter c = .character c ∨ Key.ofCharacter c = .idle)
    (before echo : List Char) (keys : List Key) :
    afterKeys before echo (text.map Key.ofCharacter ++ .enter :: keys) =
      ⟨some (before ++ kept text), echo ++ kept text ++ ['\n'], keys⟩ := by
  induction text generalizing before echo with
  | nil => simp [afterKeys, kept]
  | cons c text ih =>
    obtain ⟨first, others⟩ := List.forall_mem_cons.mp plain
    rcases first with typed | ignored
    · have stays : kept (c :: text) = c :: kept text := List.filter_cons_of_pos (by simpa using typed)
      rw [List.map_cons, typed, List.cons_append, afterKeys, ih others, stays]
      simp
    · have goes : kept (c :: text) = kept text :=
        List.filter_cons_of_neg (by simp [ignored])
      rw [List.map_cons, ignored, List.cons_append, afterKeys, ih others, goes]

end TypedLine

namespace Text

private theorem dropWhile_solid {token : List Char} (present : token ≠ [])
    (solid : ∀ c ∈ token, isBlank c = false) (rest : List Char) :
    (token ++ rest).dropWhile isBlank = token ++ rest := by
  obtain ⟨c, others, rfl⟩ := List.exists_cons_of_ne_nil present
  rw [List.cons_append, List.dropWhile_cons_of_neg]
  simp [solid c List.mem_cons_self]

private theorem trim_around {lead token trail : List Char} (before : ∀ c ∈ lead, isBlank c = true)
    (present : token ≠ []) (solid : ∀ c ∈ token, isBlank c = false)
    (after : ∀ c ∈ trail, isBlank c = true) : trim (lead ++ (token ++ trail)) = token := by
  have again : token.reverse.dropWhile isBlank = token.reverse := by
    have kept : (token.reverse ++ []).dropWhile isBlank = token.reverse ++ [] :=
      dropWhile_solid (by simpa using present) (by simpa using solid) []
    rwa [List.append_nil] at kept
  rw [trim, trimBy, List.dropWhile_append_of_pos before, dropWhile_solid present solid,
    List.reverse_append, List.dropWhile_append_of_pos (by simpa using after), again,
    List.reverse_reverse]

private theorem isBlank_of_printing {c : Char} (low : 32 < c.toNat) (high : c.toNat < 127) :
    isBlank c = false := by
  simp only [isBlank, decide_eq_false_iff_not]
  omega

end Text

structure NumberLine where
  lead : List Char
  token : List Char
  trail : List Char
  value : Int
  enter : UInt8
  blanks : ∀ c ∈ lead ++ trail, isBlank c = true ∧ c ≠ '\n' ∧ c ≠ '\r'
  denotes : Denotes token value
  ends : enter = 0x0a ∨ enter = 0x0d

namespace NumberLine

def ofInt (value : Int) : NumberLine where
  lead := []
  token := (numeral value).toList
  trail := []
  value := value
  enter := 0x0a
  blanks := by simp
  denotes := denotes_numeral value
  ends := .inl rfl

variable (line : NumberLine)

def text : List Char := line.lead ++ (line.token ++ line.trail)

def bytes : List UInt8 := encode line.text ++ [line.enter]

/-- The number, if it is one of 32 bits. -/
def parse : Except Fault Int :=
  if -2147483648 ≤ line.value ∧ line.value ≤ 2147483647 then .ok line.value
  else .error (.inputNotNumber (String.ofList line.token))

theorem readValue_token : Streams.readValue line.token = line.parse :=
  Streams.readValue_of_denotes line.denotes

/-- What is left of a line when it is typed is the number and blanks around it. -/
theorem trim_kept : trim (TypedLine.kept line.text) = line.token := by
  have solid : ∀ c ∈ line.token, isBlank c = false := by
    intro c inside
    obtain ⟨low, high⟩ := line.denotes.printing c inside
    exact isBlank_of_printing low high
  have whole : TypedLine.kept line.token = line.token := by
    apply List.filter_eq_self.mpr
    intro c inside
    obtain ⟨low, high⟩ := line.denotes.printing c inside
    exact decide_eq_true (Key.ofCharacter_of_printing (Nat.le_of_lt low) high)
  have around {gap : List Char} (outside : gap ⊆ line.lead ++ line.trail) :
      ∀ c ∈ TypedLine.kept gap, isBlank c = true := by
    intro c inside
    exact (line.blanks c (outside (List.mem_filter.mp inside).1)).1
  have parted : TypedLine.kept line.text = TypedLine.kept line.lead ++
      (TypedLine.kept line.token ++ TypedLine.kept line.trail) := by
    simp only [text, TypedLine.kept, List.filter_append]
  rw [parted, whole]
  exact trim_around (around (List.subset_append_left _ _)) line.denotes.ne_nil solid
    (around (List.subset_append_right _ _))

private theorem blank_or_printing {c : Char} (inside : c ∈ line.text) :
    (isBlank c = true ∧ c ≠ '\n' ∧ c ≠ '\r') ∨ 32 < c.toNat ∧ c.toNat < 127 := by
  rcases List.mem_append.mp inside with lead | rest
  · exact .inl (line.blanks c (List.mem_append_left _ lead))
  · rcases List.mem_append.mp rest with token | trail
    · exact .inr (line.denotes.printing c token)
    · exact .inl (line.blanks c (List.mem_append_right _ trail))

private theorem ofCharacter_text (c : Char) (inside : c ∈ line.text) :
    Key.ofCharacter c = .character c ∨ Key.ofCharacter c = .idle := by
  rcases line.blank_or_printing inside with ⟨blank, newline, carriage⟩ | ⟨low, high⟩
  · exact Key.ofCharacter_of_blank blank newline carriage
  · exact .inl (Key.ofCharacter_of_printing (Nat.le_of_lt low) high)

private theorem escape_not_mem_text : '\x1b' ∉ line.text := by
  intro inside
  rcases line.blank_or_printing inside with ⟨blank, -⟩ | ⟨low, -⟩
  · exact absurd blank (by decide)
  · exact absurd low (by decide)

private theorem ofBytes_bytes (rest : List UInt8) :
    Key.ofBytes (line.bytes ++ rest) =
      line.text.map Key.ofCharacter ++ .enter :: Key.ofBytes rest := by
  have unescaped : ∀ c ∈ line.text, c ≠ '\x1b' := by
    intro c inside same
    exact line.escape_not_mem_text (same ▸ inside)
  have ended : Key.ofBytes (line.enter :: rest) = .enter :: Key.ofBytes rest := by
    rcases line.ends with same | same
    all_goals
      rw [same]
      exact Key.ofBytes_cons_of_single (by decide) (by decide) rest
  rw [bytes, List.append_assoc, Key.ofBytes_encode unescaped, List.singleton_append, ended]

/-- A terminal hands over the number and blanks around it, and goes on behind the line. -/
theorem afterKeys_bytes (rest : List UInt8) :
    ∃ echo, TypedLine.afterKeys [] [] (Key.ofBytes (line.bytes ++ rest)) =
      ⟨some (TypedLine.kept line.text), echo, Key.ofBytes rest⟩ := by
  rw [line.ofBytes_bytes, TypedLine.afterKeys_line line.ofCharacter_text]
  exact ⟨_, rfl⟩

end NumberLine

end LittleMan
