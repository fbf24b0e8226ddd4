import LittleMan.Proofs.CodeLines
import Mathlib.Logic.Relation

/-! Changes to the layout of a program text. Each keeps the tokens of the lines that have any, so a
text may be laid out anew in as many steps as one likes and still loads to the same memory, or is
refused for the same cause. -/

namespace LittleMan.Program

open Text

/-- A line laid out anew. Lines are given without the newline at their end; a carriage return before
it is part of the line. -/
inductive LineEdit : List Char → List Char → Prop where
  | comment {line remark ending : List Char} {marker : Char} (opens : marker = ';' ∨ marker = '#')
      (ended : ending = [] ∨ ending = ['\r']) :
      LineEdit (line ++ ending) (line ++ marker :: remark ++ ending)
  | leading {gap line : List Char} (blank : Blank gap) : LineEdit line (gap ++ line)
  | trailing {code gap rest : List Char} (blank : Blank gap)
      (ended : rest = [] ∨ rest = ['\r'] ∨ rest.head? = some ';' ∨ rest.head? = some '#') :
      LineEdit (code ++ rest) (code ++ gap ++ rest)
  | between {code gap other rest : List Char} (inCode : ∀ c ∈ code, c ≠ ';' ∧ c ≠ '#')
      (present : gap ≠ []) (blank : Blank gap) (filled : other ≠ []) (also : Blank other) :
      LineEdit (code ++ gap ++ rest) (code ++ other ++ rest)

def withCarriageReturns (text : List Char) : List Char :=
  text.flatMap fun c => if c = '\n' then ['\r', '\n'] else [c]

/-- A text laid out anew in one step. Lines begin where the text before them is closed, and go up
to a newline or to the end of the text. -/
inductive Edit : List Char → List Char → Prop where
  | inLine {before line other rest : List Char} (starts : Closed (fun c => c = '\n') before)
      (clean : '\n' ∉ line) (cleanOther : '\n' ∉ other)
      (ends : rest = [] ∨ rest.head? = some '\n') (edit : LineEdit line other) :
      Edit (before ++ line ++ rest) (before ++ other ++ rest)
  | insertLine {before line rest : List Char} (starts : Closed (fun c => c = '\n') before)
      (clean : '\n' ∉ line) (empty : Blank (codeText line)) :
      Edit (before ++ rest) (before ++ line ++ '\n' :: rest)
  | lastLine {before line : List Char} (starts : Closed (fun c => c = '\n') before)
      (clean : '\n' ∉ line) (empty : Blank (codeText line)) : Edit before (before ++ line)
  | finalNewline {text : List Char} : Edit text (text ++ ['\n'])
  | carriageReturns {text : List Char} : Edit text (withCarriageReturns text)

section

variable {line other text before rest : List Char}

private theorem lineTokens_append_carriage (line : List Char) {ending : List Char}
    (ended : ending = [] ∨ ending = ['\r']) : lineTokens (line ++ ending) = lineTokens line := by
  apply lineTokens_append_blank
  rcases ended with rfl | rfl <;> simp [Blank, isBlank]

theorem LineEdit.lineTokens_eq (edit : LineEdit line other) :
    lineTokens other = lineTokens line := by
  cases edit with
  | @comment line remark ending marker opens ended =>
    have marked : opensComment marker = true := by simpa [opensComment] using opens
    rw [lineTokens_append_carriage _ ended, lineTokens_append_carriage _ ended,
      lineTokens_append_comment line marked]
  | leading blank => exact lineTokens_blank_append blank line
  | @trailing code gap rest blank ended =>
    have unread (line : List Char) : lineTokens (line ++ rest) = lineTokens line := by
      have commented {marker : Char} (opens : opensComment marker = true)
          (first : rest.head? = some marker) : lineTokens (line ++ rest) = lineTokens line := by
        obtain ⟨remark, rfl⟩ := List.head?_eq_some_iff.mp first
        exact lineTokens_append_comment line opens remark
      rcases ended with none | carriage | semicolon | hash
      · exact lineTokens_append_carriage line (.inl none)
      · exact lineTokens_append_carriage line (.inr carriage)
      · exact commented rfl semicolon
      · exact commented rfl hash
    rw [unread, unread, lineTokens_append_blank code blank]
  | @between code gap other rest inCode present blank filled also =>
    have uncommented : ∀ c ∈ code, opensComment c = false := by
      intro c inside
      simpa [opensComment] using inCode c inside
    rw [List.append_assoc, List.append_assoc, lineTokens_around uncommented present blank,
      lineTokens_around uncommented filled also]

theorem LineEdit.withTokens_eq (edit : LineEdit line other) : withTokens [other] = withTokens [line] := by
  simp only [withTokens, List.map_cons, List.map_nil, edit.lineTokens_eq]

private theorem withTokens_empty (empty : Blank (codeText line)) : withTokens [line] = [] := by
  have none : lineTokens line = [] := by
    rw [lineTokens, ← codeText_eq]
    exact runs_separators fun c inside => separates_of_isBlank (empty c inside)
  simp [withTokens, none]

private theorem codeLines_around (starts : Closed (fun c => c = '\n') before) (clean : '\n' ∉ line)
    (ends : rest = [] ∨ rest.head? = some '\n') :
    codeLines (before ++ line ++ rest) =
      codeLines before ++ (withTokens [line] ++ codeLines rest.tail) := by
  rw [List.append_assoc, codeLines_append starts, codeLines_line clean ends]

private theorem codeLines_withCarriageReturns (text : List Char) :
    codeLines (withCarriageReturns text) = codeLines text := by
  -- What precedes the text in its first line is carried along.
  suffices carried : ∀ lead, '\n' ∉ lead →
      codeLines (lead ++ withCarriageReturns text) = codeLines (lead ++ text) from
    carried [] List.not_mem_nil
  induction text with
  | nil => exact fun lead _ => rfl
  | cons c text ih =>
    intro lead clean
    by_cases newline : c = '\n'
    · subst newline
      have ended : '\n' ∉ lead ++ ['\r'] := by simpa using clean
      have same : withTokens [lead ++ ['\r']] = withTokens [lead] := by
        simp only [withTokens, List.map_cons, List.map_nil,
          lineTokens_append_carriage lead (.inr rfl)]
      calc codeLines (lead ++ withCarriageReturns ('\n' :: text))
          = codeLines (lead ++ ['\r'] ++ '\n' :: withCarriageReturns text) := by
            rw [List.append_assoc]
            rfl
        _ = withTokens [lead] ++ codeLines (withCarriageReturns text) := by
            rw [codeLines_line ended (.inr rfl), same]
            rfl
        _ = withTokens [lead] ++ codeLines text := by
            rw [← List.nil_append (withCarriageReturns text), ih [] List.not_mem_nil]
            rfl
        _ = codeLines (lead ++ '\n' :: text) := by
            rw [codeLines_line clean (.inr rfl)]
            rfl
    · have longer : '\n' ∉ lead ++ [c] := by simpa [eq_comm] using And.intro clean newline
      have kept : withCarriageReturns (c :: text) = c :: withCarriageReturns text := by
        rw [withCarriageReturns, List.flatMap_cons, if_neg newline]
        rfl
      rw [kept, List.append_cons lead c, List.append_cons lead c text, ih _ longer]

theorem Edit.codeLines_eq (edit : Edit text other) : codeLines other = codeLines text := by
  cases edit with
  | inLine starts clean cleanOther ends edit =>
    rw [codeLines_around starts cleanOther ends, codeLines_around starts clean ends,
      edit.withTokens_eq]
  | insertLine starts clean empty =>
    rw [codeLines_around starts clean (.inr rfl), withTokens_empty empty, codeLines_append starts]
    rfl
  | lastLine starts clean empty =>
    have whole := codeLines_around starts clean (.inl rfl)
    rw [List.append_nil] at whole
    rw [whole, withTokens_empty empty]
    exact List.append_nil _
  | finalNewline =>
    obtain ⟨before, line, rfl, starts, unended⟩ := exists_closed_append (fun c => c = '\n') text
    have clean : '\n' ∉ line := fun inside => by simpa using unended _ inside
    have whole := codeLines_around starts clean (.inl rfl)
    rw [List.append_nil] at whole
    rw [codeLines_around starts clean (.inr rfl), whole]
    rfl
  | carriageReturns => exact codeLines_withCarriageReturns text

private theorem codeLines_eq_of_edits (edits : Relation.EqvGen Edit text other) :
    codeLines other = codeLines text := by
  induction edits with
  | rel _ _ edit => exact edit.codeLines_eq
  | refl _ => rfl
  | symm _ _ _ ih => exact ih.symm
  | trans _ _ _ _ _ first second => exact second.trans first

end

/-- What a report says, without the places that it points at and the source that they are in. -/
def wording (report : Report) :
    String × Option String × Option Severity × Option String × List String :=
  (report.message, report.code, report.severity, report.help, report.labels.map Label.text)

/-- Layout is irrelevant to loading. A text that is laid out anew by any number of edits and of
edits undone loads to the same memory, and is refused in the same words if it is refused. -/
theorem load_relaid {text other : String}
    (edits : Relation.EqvGen Edit text.toList other.toList) (memory : Memory) :
    (load other memory).2 = (load text memory).2 ∧
      ∀ name, (loadReport name other memory).map wording =
        (loadReport name text memory).map wording := by
  obtain ⟨cause, same⟩ := load_congr (codeLines_eq_of_edits edits) memory
  refine ⟨same, fun name => ?_⟩
  have worded (text : String) : (loadReport name text memory).map wording =
      ((load text memory).1.map LoadFault.cause).map fun cause =>
        (cause.message, some cause.code, some .error, some cause.help, [cause.remark]) := by
    rw [loadReport, Option.map_map, Option.map_map]
    rfl
  rw [worded, worded, cause]

/-- A text at fault on its second line, with other white space between two tokens, a comment on a
line before them, carriage returns and a comment behind the fault. -/
theorem load_relaid_around_fault :
    let text := "5 1\n9x"
    let other := "# ;\r\n5\u30001\r\n9x;#"
    Relation.EqvGen Edit text.toList other.toList ∧
      (load other Memory.empty).2 = (load text Memory.empty).2 ∧
      (loadReport "sum" other Memory.empty).map wording =
        some ("Encountered an invalid number: invalid digit found in string",
          some "load::bad_number", some .error,
          some "values and addresses are plain decimal numbers", ["not a number"]) := by
  intro text other
  let spacedText := "5\u30001".toList ++ "\n9x".toList
  let returnedText := withCarriageReturns ("# ;".toList ++ '\n' :: spacedText)
  have blank : Blank [' '] ∧ Blank ['\u3000'] := by simp [Blank, isBlank]
  have spaced : Edit text.toList spacedText := by
    have cut : text.toList = [] ++ (['5'] ++ [' '] ++ ['1']) ++ "\n9x".toList := by decide
    have edit : LineEdit (['5'] ++ [' '] ++ ['1']) (['5'] ++ ['\u3000'] ++ ['1']) :=
      .between (by simp) (by simp) blank.1 (by simp) blank.2
    rw [cut]
    exact .inLine (by simp [Closed]) (by decide) (by decide) (.inr rfl) edit
  have inserted : Edit spacedText ("# ;".toList ++ '\n' :: spacedText) :=
    @Edit.insertLine [] "# ;".toList spacedText (by simp [Closed]) (by decide)
      (by simp [codeText, Blank])
  have returned : Edit ("# ;".toList ++ '\n' :: spacedText) returnedText := .carriageReturns
  have remarked : Edit returnedText other.toList := by
    let before := "# ;\r\n5\u30001\r\n".toList
    have cut : returnedText = before ++ ("9x".toList ++ []) ++ [] := by decide
    have cutOther : other.toList = before ++ ("9x".toList ++ ';' :: ['#'] ++ []) ++ [] := by decide
    rw [cut, cutOther]
    exact .inLine (by simp [before, Closed]) (by decide) (by decide) (.inl rfl)
      (.comment (.inl rfl) (.inl rfl))
  have edits : Relation.EqvGen Edit text.toList other.toList :=
    .trans _ _ _ (.rel _ _ spaced) (.trans _ _ _ (.rel _ _ inserted)
      (.trans _ _ _ (.rel _ _ returned) (.rel _ _ remarked)))
  obtain ⟨memory, report⟩ := load_relaid edits Memory.empty
  refine ⟨edits, memory, ?_⟩
  rw [report]
  decide +kernel

end LittleMan.Program
