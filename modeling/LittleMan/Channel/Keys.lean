import LittleMan.Text.Width

/-! Keys typed at a terminal, and the lines they make. A terminal sends bytes: a printed
character arrives in UTF-8, any other key as a control byte or an escape sequence. -/

namespace LittleMan

/-- The characters that bytes stand for in UTF-8, if they do. -/
def decodeText (bytes : List UInt8) : Option (List Char) :=
  (String.fromUTF8? bytes.toByteArray).map String.toList

/-- What a key does to the line being typed. -/
inductive Key where
  | enter
  | erase
  | character (typed : Char)
  /-- A key without effect. -/
  | idle
  /-- The key that stops the program. -/
  | interrupt
deriving DecidableEq, Repr

namespace Key

/-- The byte that interrupts. -/
def interruptByte : UInt8 := 0x03

/-- The key of a byte that stands for itself. -/
def ofByte (byte : UInt8) : Key :=
  if byte = interruptByte then .interrupt
  else if byte = 0x0a ∨ byte = 0x0d then .enter
  else if byte = 0x7f ∨ byte = 0x08 then .erase
  else if byte = 0x09 ∨ byte = 0x01 ∨ byte = 0x05 then .idle
  else .character (Char.ofNat byte.toNat)

/-- The number of bytes that a byte announces after itself, as the first of a character. -/
def announced (byte : UInt8) : Nat :=
  if byte &&& 0xe0 = 0xc0 then 1
  else if byte &&& 0xf0 = 0xe0 then 2
  else if byte &&& 0xf8 = 0xf0 then 3
  else 0

/-- The bytes that an escape takes with it: one, or after an opening bracket two or three,
as the byte after the bracket names a key by itself or begins its number. -/
def escaped : List UInt8 → Nat
  | 0x5b :: name :: _ => if "ABCDFHZ".toList.contains (Char.ofNat name.toNat) then 2 else 3
  | _ => 1

/-- The key that starts with a byte, and how many of the bytes after it belong to it. An
escape takes them one by one and a character all at once, and whatever is taken is an
interrupt if it begins as one. -/
def first (byte : UInt8) (rest : List UInt8) : Key × Nat :=
  if byte = 0x1b then
    let count := escaped rest
    (if (rest.take count).contains interruptByte then .interrupt else .idle, count)
  else
    let count := announced byte
    if count = 0 then (ofByte byte, 0)
    else if rest.head? = some interruptByte then (.interrupt, count)
    else match decodeText (byte :: rest.take count) with
      | some [typed] => (.character typed, count)
      | _ => (.idle, count)

/-- The keys that a terminal sends as these bytes. -/
def ofBytes : List UInt8 → List Key
  | [] => []
  | byte :: rest =>
    let (key, count) := first byte rest
    key :: ofBytes (rest.drop count)
termination_by bytes => bytes.length
decreasing_by simp only [List.length_drop, List.length_cons]; omega

theorem ofBytes_nil : ofBytes [] = [] := by rw [ofBytes]

theorem ofBytes_cons (byte : UInt8) (rest : List UInt8) :
    ofBytes (byte :: rest) = (first byte rest).1 :: ofBytes (rest.drop (first byte rest).2) := by
  rw [ofBytes]

/-- A byte that stands for itself is one key, whatever follows. -/
theorem ofBytes_cons_of_single {byte : UInt8} (plain : byte ≠ 0x1b) (single : announced byte = 0)
    (rest : List UInt8) : ofBytes (byte :: rest) = ofByte byte :: ofBytes rest := by
  simp [ofBytes_cons, first, plain, single]

end Key

/-- A line typed at a terminal: its text unless it never ended, what the terminal shows
meanwhile, and the keys after it. -/
structure TypedLine where
  text : Option (List Char)
  echo : List Char
  rest : List Key

namespace TypedLine

/-- Moves the cursor back over a character and clears the rest of the line. -/
def erasure (typed : Char) : List Char :=
  match Text.columns typed with
  | 0 => []
  | count => ("\x1b[" ++ toString count ++ "D\x1b[0K").toList

/-- Types keys up to the one that ends the line, after those typed before. -/
def afterKeys (text echo : List Char) : List Key → TypedLine
  | [] => ⟨none, echo, []⟩
  | .enter :: keys => ⟨some text, echo ++ ['\n'], keys⟩
  | .erase :: keys =>
    match text.getLast? with
    | none => afterKeys text echo keys
    | some typed => afterKeys text.dropLast (echo ++ erasure typed) keys
  | .character typed :: keys => afterKeys (text ++ [typed]) (echo ++ [typed]) keys
  | .idle :: keys => afterKeys text echo keys
  | .interrupt :: _ => ⟨none, echo, []⟩

end TypedLine

end LittleMan
