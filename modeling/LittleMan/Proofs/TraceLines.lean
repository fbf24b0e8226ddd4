import LittleMan.Console
import LittleMan.Proofs.Encoding
import LittleMan.Proofs.EscapeSequences
import LittleMan.Proofs.Literals
import Mathlib.Data.List.Basic

/-! Trace lines read back. The numbers of a machine and the mnemonics of its instructions fit their
columns, so every trace line has the same width, and a text made up of trace lines tells each
of them. -/

namespace LittleMan

namespace Text

/-- Cuts a text into pieces of given widths. What is left over is dropped. -/
def cut : List Nat → List Char → List (List Char)
  | [], _ => []
  | width :: widths, text => text.take width :: cut widths (text.drop width)

private theorem cut_flatten (pieces : List (List Char)) (rest : List Char) :
    cut (pieces.map List.length) (pieces.flatten ++ rest) = pieces := by
  induction pieces with
  | nil => rfl
  | cons piece pieces ih =>
    rw [List.map_cons, List.flatten_cons, List.append_assoc, cut, List.take_left, List.drop_left,
      ih]

def IsPlain (text : List Char) : Prop := ∀ c ∈ text, ' '.toNat ≤ c.toNat ∧ c.toNat ≤ 'Z'.toNat

instance : DecidablePred IsPlain := fun text => List.decidableBAll _ text

theorem isPlain_append {first second : List Char} :
    IsPlain (first ++ second) ↔ IsPlain first ∧ IsPlain second :=
  List.forall_mem_append

private theorem isPlain_replicate {c : Char} (plain : ' '.toNat ≤ c.toNat ∧ c.toNat ≤ 'Z'.toNat)
    (count : Nat) : IsPlain (List.replicate count c) := by
  intro other member
  rwa [List.eq_of_mem_replicate member]

theorem IsPlain.not_mem {text : List Char} (plain : IsPlain text) {c : Char}
    (other : c.toNat < ' '.toNat) : c ∉ text :=
  fun member => Nat.not_lt_of_le (plain c member).1 other

section

variable (width number : Nat)

theorem decimal_zeroPadded : decimal (zeroPadded width number).toList = number := by
  rw [zeroPadded, String.toList_ofList, List.leftpad]
  generalize width - (Nat.toDigits 10 number).length = missing
  induction missing with
  | zero => exact decimal_toDigits number
  | succ missing ih =>
    rw [List.replicate_succ, List.cons_append, decimal_cons, ih, Nat.sub_self, Nat.zero_mul,
      Nat.zero_add]

theorem isPlain_zeroPadded : IsPlain (zeroPadded width number).toList := by
  rw [zeroPadded, String.toList_ofList, List.leftpad, isPlain_append]
  refine ⟨isPlain_replicate (by decide) _, ?_⟩
  intro c member
  have bounds := Char.isDigit_iff_toNat.mp ((isDecimal_toDigits number).digit c member)
  exact ⟨Nat.le_trans (by decide) bounds.1, Nat.le_trans bounds.2 (by decide)⟩

variable {width number}

private theorem length_zeroPadded (some : 0 < width) (fits : number < 10 ^ width) :
    (zeroPadded width number).toList.length = width := by
  have digits := (Nat.length_toDigits_le_iff (by decide : 1 < 10) some).mpr fits
  rw [zeroPadded, String.toList_ofList, List.length_leftpad, Nat.max_eq_left digits]

private theorem isPlain_leftAligned {text : String} (plain : IsPlain text.toList) (width : Nat) :
    IsPlain (leftAligned width text).toList := by
  rw [leftAligned, String.toList_ofList, List.rightpad, isPlain_append]
  exact ⟨plain, isPlain_replicate (by decide) _⟩

private theorem length_leftAligned {text : String} (fits : text.toList.length ≤ width) :
    (leftAligned width text).toList.length = width := by
  rw [leftAligned, String.toList_ofList, List.length_rightpad, Nat.max_eq_left fits]

end

end Text

open Text

namespace Instruction

private theorem isPlain_mnemonic (instruction : Instruction) :
    IsPlain instruction.mnemonic.toList := by
  cases instruction <;>
    simp only [mnemonic, String.toList_append, isPlain_append, isPlain_zeroPadded, and_true] <;>
    decide

private theorem length_mnemonic {word : Nat} {instruction : Instruction}
    (encoded : Encodes word instruction) : instruction.mnemonic.toList.length ≤ 6 := by
  have operand {number : Nat} (digits : number < 100) :
      (zeroPadded 2 number).toList.length = 2 := length_zeroPadded (by decide) digits
  cases encoded <;> simp [mnemonic, *]

end Instruction

namespace TraceEntry

structure Legible (entry : TraceEntry) : Prop where
  address : entry.address ≤ 999
  word : entry.word ≤ 999
  instruction : entry.instruction = .decode entry.word
  acc : entry.acc ≤ 999
  b : entry.b ≤ 999

/-- The columns of a trace line, with the texts between them. -/
def pieces (entry : TraceEntry) : List (List Char) :=
  [(zeroPadded 3 entry.address).toList, [' ', ' '], (zeroPadded 3 entry.word).toList, [' ', ' '],
    (leftAligned 6 entry.instruction.mnemonic).toList, [' ', ' ', 'A', ' '],
    (zeroPadded 3 entry.acc).toList, [' ', ' ', 'B', ' '], (zeroPadded 3 entry.b).toList,
    [' ', ' '], [if entry.flags.zero then 'Z' else '-'],
    [if entry.flags.positive then 'P' else '-'], [if entry.useB then 'B' else '-']]

def widths : List Nat := [3, 2, 3, 2, 6, 4, 3, 4, 3, 2, 1, 1, 1]

/-- Reads a trace line back by its columns, if it shows the mnemonic of its word. -/
def read (text : List Char) : Option TraceEntry :=
  match cut widths text with
  | [address, _, word, _, mnemonic, _, acc, _, b, _, zero, positive, useB] =>
    let instruction := Instruction.decode (decimal word)
    if mnemonic = (leftAligned 6 instruction.mnemonic).toList then
      some {
        address := decimal address, word := decimal word, instruction,
        acc := decimal acc, b := decimal b,
        flags := ⟨zero = ['Z'], positive = ['P']⟩, useB := useB = ['B'] }
    else none
  | _ => none

variable {entry : TraceEntry}

theorem toList_line (entry : TraceEntry) :
    entry.line.toList = entry.pieces.flatten ++ ['\n'] := by
  have letter (set : Bool) (shown : Char) :
      (if set then String.singleton shown else "-").toList = [if set then shown else '-'] := by
    cases set <;> simp
  have zero := letter entry.flags.zero 'Z'
  have positive := letter entry.flags.positive 'P'
  have useB := letter entry.useB 'B'
  -- An equation of the columns would be costly to derive.
  delta line columns pieces
  simp only [String.toList_append, List.flatten_cons, List.flatten_nil, List.append_assoc,
    List.append_nil]
  rw [← zero, ← positive, ← useB]
  rfl

theorem isPlain_pieces (entry : TraceEntry) : IsPlain entry.pieces.flatten := by
  have mnemonic := isPlain_leftAligned entry.instruction.isPlain_mnemonic 6
  simp only [pieces, List.flatten_cons, List.flatten_nil, isPlain_append, isPlain_zeroPadded,
    mnemonic, true_and]
  refine ⟨by decide, by decide, by decide, by decide, by decide, ?_, ?_, ?_, by decide⟩
  all_goals
    split <;> decide

theorem Legible.map_length_pieces (legible : entry.Legible) :
    entry.pieces.map List.length = widths := by
  have encoded := Instruction.encodes_decode_of_le legible.word
  rw [← legible.instruction] at encoded
  have number {number : Nat} (small : number ≤ 999) :
      (zeroPadded 3 number).toList.length = 3 :=
    length_zeroPadded (by decide) (Nat.lt_succ_of_le small)
  simp only [pieces, List.map_cons, List.map_nil, number legible.address, number legible.word,
    length_leftAligned (Instruction.length_mnemonic encoded), number legible.acc, number legible.b]
  rfl

theorem Legible.cut_line (legible : entry.Legible) :
    cut widths entry.line.toList = entry.pieces := by
  rw [toList_line, ← legible.map_length_pieces, cut_flatten]

def readAll (text : List Char) : List TraceEntry :=
  (cut (List.replicate (text.length / 36) 36) text).filterMap read

end TraceEntry

theorem TraceEntry.escape_not_mem_line (entry : TraceEntry) : escape ∉ entry.line.toList := by
  rw [entry.toList_line, List.mem_append]
  rintro (inside | last)
  · exact entry.isPlain_pieces.not_mem (by decide) inside
  · exact absurd last (by decide)

namespace Console

/-- A trace line shows the same whether or not its address is dimmed. -/
theorem visible_traceText (console : Console) (entry : TraceEntry) (rest : List Char) :
    visible ((console.traceText entry).toList ++ rest) = entry.line.toList ++ visible rest := by
  have unescaped := entry.escape_not_mem_line
  have address : escape ∉ entry.line.toList.take 3 :=
    fun inside => unescaped (List.mem_of_mem_take inside)
  have others : escape ∉ entry.line.toList.drop 3 :=
    fun inside => unescaped (List.mem_of_mem_drop inside)
  have dimmed (text : List Char) : visible (Style.dim.sequence ++ text) = visible text := rfl
  have plain (text : List Char) : visible (Style.plain.sequence ++ text) = visible text := rfl
  unfold traceText
  split
  · exact visible_append_of_not_mem unescaped rest
  · rw [String.toList_ofList, List.append_assoc, List.append_assoc, List.append_assoc, dimmed,
      visible_append_of_not_mem address, plain, visible_append_of_not_mem others,
      ← List.append_assoc, List.take_append_drop]

/-- At the start of a line a trace line is printed as it is rendered, and begins the next line. -/
theorem printTrace_of_lineStart {console : Console} (lineStart : console.lineStart = true)
    (entry : TraceEntry) :
    console.printTrace .trace entry =
      { console with
        trace := console.trace ++ console.rendition .trace (console.traceText entry) } := by
  have shown : visible (console.traceText entry).toList = entry.line.toList := by
    have whole := console.visible_traceText entry []
    rw [List.append_nil] at whole
    exact whole.trans (List.append_nil _)
  have ends : console.startsLineAfter (console.traceText entry) = true := by
    rw [startsLineAfter, shown, entry.toList_line, List.getLast?_concat]
    rfl
  have ready : console.startNewLine .trace = console := by
    rw [startNewLine, if_pos lineStart]
  rw [printTrace, ready, print, ends, append, ← lineStart]

/-- On a minimal console at the start of a line a trace line is printed as it is. -/
theorem printTrace_of_minimal {console : Console} (minimal : console.minimal = true)
    (lineStart : console.lineStart = true) (entry : TraceEntry) :
    console.printTrace .trace entry = { console with trace := console.trace ++ entry.line } := by
  have text : console.traceText entry = entry.line := if_pos minimal
  have rendered : console.rendition .trace entry.line = entry.line := by
    rw [rendition, if_pos minimal, visible_of_not_mem entry.escape_not_mem_line,
      String.ofList_toList]
  rw [printTrace_of_lineStart lineStart, text, rendered]

end Console

end LittleMan
