import LittleMan.Channel.Streams
import LittleMan.Proofs.Encoding
import LittleMan.Proofs.TokenSlots
import LittleMan.Proofs.Words

/-! Reports on numbers. A numeral may be of any length, but it is read into an integer of a fixed
width before its range is checked: what does not fit that width is taken for something that is no
number. -/

namespace LittleMan

open Text

namespace Program

def numberCause (part : Part) (value : Int) : LoadCause :=
  if -2 ^ 63 ≤ value ∧ value ≤ 2 ^ 63 - 1 then .outOfRange part
  else .badNumber (if value < 0 then .tooSmall else .tooLarge)

private theorem readWord_eq_error {token : Token} {value : Int} (denoted : Denotes token.text value)
    (outside : value < 0 ∨ 999 < value) (part : Part) :
    readWord part token = .error ⟨numberCause part value, token.extent⟩ := by
  have range : (NumeralRange.signed 64).Holds value ↔ -2 ^ 63 ≤ value ∧ value ≤ 2 ^ 63 - 1 := Iff.rfl
  unfold readWord numberCause
  by_cases fits : -2 ^ 63 ≤ value ∧ value ≤ 2 ^ 63 - 1
  · have read := (NumeralRange.signed_read_eq_ok_iff 64).mpr ⟨denoted, range.mpr fits⟩
    have refused : ¬(0 ≤ value ∧ value ≤ 999) := by omega
    simp only [read, if_neg refused, if_pos fits]
  · have read := NumeralRange.signed_read_eq_error 64 denoted fun holds => fits (range.mp holds)
    simp only [read, if_neg fits]

private theorem code_numberCause (part : Part) (value : Int) : (numberCause part value).code =
    if -2 ^ 63 ≤ value ∧ value ≤ 2 ^ 63 - 1 then "load::out_of_range" else "load::bad_number" := by
  unfold numberCause
  split <;> rfl

namespace Slot

/-- A numeral stands in the place of a number that loads. -/
structure TakesNumeral (slot : Slot) (memory : Memory) (number : Nat) (token : List Char)
    (value : Int) : Prop where
  accepted (same : value = number) :
    load (slot.fill token) memory = load (slot.fill (Nat.toDigits 10 number)) memory
  refused (outside : value < 0 ∨ 999 < value) : ∃ part,
    (load (slot.fill token) memory).1 = some ⟨numberCause part value, slot.extent token⟩
  code (outside : value < 0 ∨ 999 < value) : ∃ fault,
    (load (slot.fill token) memory).1 = some fault ∧ ∀ source, (fault.report source).code =
      some (if -2 ^ 63 ≤ value ∧ value ≤ 2 ^ 63 - 1 then "load::out_of_range"
        else "load::bad_number")

variable {slot : Slot} {memory : Memory} {token : List Char} {value : Int}

theorem Loads.refuse {other : List Char} {middle final : Loading} {address word : Nat}
    (loads : Loads slot memory token middle address word final)
    (denoted : Denotes other value) (outside : value < 0 ∨ 999 < value) :
    ∃ part, middle.loadLine (slot.line other) =
      .error ⟨numberCause part value, slot.extent other⟩ := by
  have refused (part : Part) : readWord part ⟨other, slot.extent other⟩ =
      .error ⟨numberCause part value, slot.extent other⟩ := readWord_eq_error denoted outside part
  have gives := loads.gives
  rw [slot.behind_text token other] at gives
  unfold Loading.loadLine
  rw [tokens_line denoted]
  rcases gives.places with ⟨none, last, rfl, -⟩ | ⟨value, none, last, -, -⟩ |
    ⟨place, first, last, isAddress, -⟩
  · rw [List.map_eq_nil_iff.mp none, List.map_eq_nil_iff.mp last]
    have room : middle.next < 1000 := Nat.lt_succ_of_le loads.inside
    exact ⟨.value, by simp [room, Loading.define, refused]⟩
  · obtain ⟨_, one, -⟩ := List.map_eq_singleton_iff.mp last
    rw [List.map_eq_nil_iff.mp none, one]
    exact ⟨.address, by simp [refused]⟩
  · obtain ⟨token, one, rfl⟩ := List.map_eq_singleton_iff.mp first
    rw [one, List.map_eq_nil_iff.mp last]
    exact ⟨.value, by simp [readWord_eq_ok_iff.mpr isAddress, Loading.define, refused]⟩

/-- In the place of a number that loads, another numeral of it loads to the same memory, and a
number that is no word is refused where it stands. -/
theorem load_fill {number : Nat} (denoted : Denotes token value)
    (loaded : (load (slot.fill (Nat.toDigits 10 number)) memory).1 = none) :
    slot.TakesNumeral memory number token value := by
  have plain : Denotes (Nat.toDigits 10 number) number := by
    have denoted := Denotes.unsigned (isDecimal_toDigits number)
    rwa [decimal_toDigits] at denoted
  obtain ⟨middle, address, word, final, loads, same⟩ :=
    (load_fill_eq_none_iff plain).mp (Prod.ext loaded rfl)
  have refuses (outside : value < 0 ∨ 999 < value) : ∃ part,
      (load (slot.fill token) memory).1 = some ⟨numberCause part value, slot.extent token⟩ := by
    obtain ⟨part, refused⟩ := loads.refuse denoted outside
    refine ⟨part, ?_⟩
    rw [load, lines_fill denoted, Loading.loadLines_append loads.earlier, Loading.loadLines, refused]
  refine ⟨?_, refuses, ?_⟩
  · rintro rfl
    have words : ∀ word, IsWord (Nat.toDigits 10 number) word → IsWord token word := by
      rintro word ⟨⟨also, bounds⟩, fits⟩
      exact ⟨⟨plain.unique also ▸ denoted, bounds⟩, fits⟩
    rw [(load_fill_eq_none_iff denoted).mpr ⟨_, _, _, _, loads.replace words, same⟩]
    exact Prod.ext loaded.symm rfl
  · intro outside
    obtain ⟨part, refused⟩ := refuses outside
    exact ⟨_, refused, fun _ => congrArg some (code_numberCause part value)⟩

end Slot

end Program

namespace Streams

/-- The fault of an input instruction that reads a number that is no word. -/
def numberFault (token : List Char) (value : Int) : Fault :=
  if -2147483648 ≤ value ∧ value ≤ 2147483647 then .inputOutOfRange value
  else .inputNotNumber (String.ofList token)

/-- An input instruction reads a numeral and leaves the rest of the input. -/
structure TakesNumeral (machine : Machine) (streams : Streams) (rest : Input) (token : List Char)
    (value : Int) : Prop where
  rest : (machine.cycle channel streams).world.input = rest
  accepted (word : 0 ≤ value ∧ value ≤ 999) : (machine.cycle channel streams).answer = .ok () ∧
    (if machine.useB then (machine.cycle channel streams).machine.b
      else (machine.cycle channel streams).machine.acc) = value
  refused (outside : value < 0 ∨ 999 < value) :
    (machine.cycle channel streams).answer = .error (numberFault token value) ∧
      (machine.cycle channel streams).machine = machine.advance
  code (outside : value < 0 ∨ 999 < value) : ∃ fault,
    (machine.cycle channel streams).answer = .error fault ∧ ∀ pc, (fault.report pc).code =
      some (if -2147483648 ≤ value ∧ value ≤ 2147483647 then "run::io_value_range"
        else "run::invalid_input")

variable {machine : Machine} {streams : Streams} {pending : List (List Char)}
  {lines : List (List UInt8)} {rest : Input} {token : List Char} {value : Int}

private theorem code_numberFault (token : List Char) (value : Int) :
    (numberFault token value).code =
    if -2147483648 ≤ value ∧ value ≤ 2147483647 then "run::io_value_range"
    else "run::invalid_input" := by
  unfold numberFault
  split <;> rfl

private theorem ask_redirected (redirected : streams.input = .redirected pending lines)
    (taken : Input.nextToken pending lines = (.ok token, rest)) (denoted : Denotes token value) :
    channel.ask streams =
      (if -2147483648 ≤ value ∧ value ≤ 2147483647 then .ok value
        else .error (.inputNotNumber (String.ofList token)), { streams with input := rest }) := by
  simp [Channel.ask, channel, read, redirected, taken, Except.bind, readValue_of_denotes denoted]

private theorem input_showCycle (machine : Machine) (address word : Nat) (streams : Streams) :
    (machine.showCycle channel address word streams).input = streams.input := by
  unfold Machine.showCycle
  split <;> rfl

private theorem cycle_reads_number (fetched : machine.memory.get machine.pc = some 901)
    (redirected : streams.input = .redirected pending lines)
    (taken : Input.nextToken pending lines = (.ok token, rest)) (denoted : Denotes token value) :
    TakesNumeral machine streams rest token value := by
  have asked := ask_redirected redirected taken denoted
  have read := Memory.read_eq_ok_iff.mpr fetched
  by_cases word : 0 ≤ value ∧ value ≤ 999
  · have fits : -2147483648 ≤ value ∧ value ≤ 2147483647 := by omega
    rw [if_pos fits] at asked
    have performed : machine.advance.execute channel (.decode 901) machine.working streams =
        (.ok (machine.advance.settle value), { streams with input := rest }) := by
      rw [Encodes.decode .input]
      simp only [Machine.execute, asked, if_pos word]
    have same : (Word.truncate value : Int) = value := by
      unfold Word.truncate
      omega
    have completed := Machine.cycle_of_executed read performed
    refine ⟨?_, fun _ => ⟨?_, ?_⟩, fun outside => by omega, fun outside => by omega⟩
    · rw [completed]
      exact input_showCycle _ _ _ _
    · rw [completed]
    · rw [completed, Encodes.decode .input]
      cases redirection : machine.useB <;>
        simpa [Machine.complete, Machine.writeBack, redirection] using same
  · have refused : machine.advance.execute channel (.decode 901) machine.working streams =
        (.error (numberFault token value), { streams with input := rest }) := by
      rw [Encodes.decode .input]
      by_cases fits : -2147483648 ≤ value ∧ value ≤ 2147483647
      · rw [if_pos fits] at asked
        simp only [Machine.execute, asked, if_neg word, numberFault, if_pos fits]
      · rw [if_neg fits] at asked
        simp only [Machine.execute, asked, numberFault, if_neg fits]
    have failed := Machine.cycle_of_failed read refused
    refine ⟨?_, fun inside => absurd inside word, fun _ => ?_, fun _ => ⟨_, ?_,
      fun _ => congrArg some (code_numberFault token value)⟩⟩
    · rw [failed]
    · rw [failed]
      exact ⟨rfl, rfl⟩
    · rw [failed]

end Streams

open Program

/-- A numeral of any length is accepted if its number is a word, in a program text and by an input
instruction. Otherwise it is reported as out of range, but only if the number fits the width that it
is read with: 64 bits in a text and 32 bits from input. Beyond that it is reported as no number. -/
structure ReportedByWidth (token : List Char) (value : Int) : Prop where
  text (slot : Slot) (memory : Memory) (number : Nat)
    (loaded : (load (slot.fill (Nat.toDigits 10 number)) memory).1 = none) :
    slot.TakesNumeral memory number token value
  /-- Wherever the numeral is a token of a text, that text is a slot with the numeral in it. -/
  slot (text : String) (piece : List Located) (place : Extent) (line : piece ∈ lines text)
    (member : ⟨token, place⟩ ∈ tokens piece) :
    ∃ slot : Slot, slot.fill token = text ∧ slot.extent token = place
  input (machine : Machine) (streams : Streams) (pending : List (List Char))
    (lines : List (List UInt8)) (rest : Input)
    (fetched : machine.memory.get machine.pc = some 901)
    (redirected : streams.input = .redirected pending lines)
    (taken : Input.nextToken pending lines = (.ok token, rest)) :
    Streams.TakesNumeral machine streams rest token value

theorem numbers_reported_by_width {token : List Char} {value : Int} (denoted : Denotes token value) :
    ReportedByWidth token value where
  text _ _ _ loaded := Slot.load_fill denoted loaded
  slot _ _ _ line member := exists_slot line member
  input _ _ _ _ _ fetched redirected taken :=
    Streams.cycle_reads_number fetched redirected taken denoted

/-- A number below all words, as the value of the second line and as the first token of input. -/
theorem numbers_reported_by_width_of_negative :
    let token := "-0001000".toList
    let slot : Slot :=
      ⟨['5', '\n'], ['7', ':', ' '], [' ', '#'], by simp [Closed], by simp [opensComment],
        by simp [separates, isBlank], by simp [separates, isBlank]⟩
    let machine : Machine := { memory := Memory.empty.write 0 901 }
    let streams : Streams := { input := .ofBytes (encode "-0001000 5\n".toList) }
    Denotes token (-1000) ∧ slot.fill token = "5\n7: -0001000 #" ∧
      (load (slot.fill ['3']) Memory.empty).1 = none ∧
      (∃ part, (load (slot.fill token) Memory.empty).1 = some ⟨.outOfRange part, ⟨5, 8⟩⟩) ∧
      (machine.cycle Streams.channel streams).answer = .error (.inputOutOfRange (-1000)) := by
  intro token slot machine streams
  have denoted : Denotes token (-1000) := .minus ⟨by decide, List.all_eq_true.mp (by decide)⟩
  have loaded : (load (slot.fill (Nat.toDigits 10 3)) Memory.empty).1 = none := by decide +kernel
  have fetched : machine.memory.get machine.pc = some 901 := by decide +kernel
  have taken : Input.nextToken [] (pieces (· = 10) (encode "-0001000 5\n".toList)) =
      (.ok token, .redirected [['5']] []) := by decide +kernel
  have reported := numbers_reported_by_width denoted
  have negative : (-1000 : Int) < 0 ∨ 999 < (-1000 : Int) := .inl (by decide)
  have text := reported.text slot Memory.empty 3 loaded
  have input := reported.input machine streams [] _ _ fetched rfl taken
  exact ⟨denoted, by decide +kernel, loaded, text.refused negative, (input.refused negative).1⟩

/-- Numbers just beyond the widths are out of range and reported as no numbers. -/
theorem number_beyond_width_not_out_of_range :
    Denotes "9223372036854775808".toList 9223372036854775808 ∧
      (load "0\n" Memory.empty).1 = none ∧
      ((load "9223372036854775808\n" Memory.empty).1.map fun fault => fault.cause.code) =
        some "load::bad_number" ∧
      Denotes "2147483648".toList 2147483648 ∧
      (Machine.cycle Streams.channel { memory := Memory.empty.write 0 901 }
        { input := .ofBytes (encode "2147483648\n".toList) }).answer =
          .error (.inputNotNumber "2147483648") := by
  refine ⟨.unsigned ⟨by decide, List.all_eq_true.mp (by decide)⟩, by decide +kernel, by decide +kernel,
    .unsigned ⟨by decide, List.all_eq_true.mp (by decide)⟩, by decide +kernel⟩

end LittleMan
