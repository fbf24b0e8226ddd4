import LittleMan.Proofs.TraceLines

/-! What is shown of what is printed. A stream may take a text as it is, without its escape sequences
or in a colour; the characters outside escape sequences are the same on each of these ways, and so
a trace entry shows the same line on each of them. -/

namespace LittleMan

namespace Text

private theorem visibleFrom_append_plain (inside : Bool) (text rest : List Char) :
    visibleFrom inside (text ++ (Style.plain.sequence ++ rest)) =
      visibleFrom inside text ++ visible rest := by
  rw [visibleFrom_append]
  cases endsInside inside text <;> rfl

namespace Style

variable {style : Style} (bare : 'm' ∉ style.parameters.toList)

include bare

private theorem visible_sequence (rest : List Char) :
    visible (style.sequence ++ rest) = visible rest := by
  have opened : visible (style.sequence ++ rest) =
      visibleFrom true (style.parameters.toList ++ ['m'] ++ rest) := rfl
  rw [opened, List.append_assoc, List.singleton_append, visibleFrom_append_ended bare]

/-- Selecting a style again shows nothing, whether the sequence before it ended a style or was
itself inside another sequence. -/
theorem visibleFrom_resume (inside : Bool) (text rest : List Char) :
    visibleFrom inside (style.resume text ++ rest) = visibleFrom inside (text ++ rest) := by
  fun_induction style.resume text generalizing inside with
  | case1 text ih =>
    have selected := visible_sequence bare (style.resume text ++ rest)
    rw [List.append_assoc, List.append_assoc]
    cases inside <;> exact selected.trans (ih false)
  | case2 c text _ ih => rw [List.cons_append, List.cons_append, visibleFrom, visibleFrom, ih, ih, ih]
  | case3 => rfl

private theorem visible_paint (text : String) (rest : List Char) :
    visible ((style.paint text).toList ++ rest) = visible text.toList ++ visible rest := by
  rw [paint, String.toList_ofList, List.append_assoc, List.append_assoc, visible_sequence bare,
    visible, visibleFrom_resume bare, visibleFrom_append_plain]
  rfl

end Style

end Text

open Text

namespace Console

/-- What a console has printed more than before, on either stream. -/
def added (before after : Console) : List Char :=
  after.output.toList.drop before.output.toList.length ++
    after.trace.toList.drop before.trace.toList.length

section

variable (console : Console) (stream : Stream)

theorem added_append (text : String) (lineStart : Bool) :
    console.added { console.append stream text with lineStart := lineStart } = text.toList := by
  cases stream <;> simp [added, append]

private theorem append_append (first second : String) :
    (console.append stream first).append stream second =
      console.append stream (first ++ second) := by
  cases stream <;> simp only [append, String.append_assoc]

/-- The way in which a text is rendered has no part in what is shown of it. -/
theorem visible_rendition_append (text : String) {rest : List Char}
    (closed : visible (text.toList ++ rest) = visible text.toList ++ visible rest) :
    visible ((console.rendition stream text).toList ++ rest) =
      visible text.toList ++ visible rest := by
  cases stream with
  | output => exact closed
  | trace =>
    rw [rendition]
    split
    · rw [String.toList_ofList]
      apply visible_append_of_not_mem
      exact escape_not_mem_visibleFrom false text.toList
    · split
      · exact Style.visible_paint (by decide) text rest
      · exact closed

private theorem visible_rendition (text : String) :
    visible (console.rendition stream text).toList = visible text.toList := by
  have closed : visible (text.toList ++ []) = visible text.toList ++ visible [] := by
    rw [List.append_nil]
    exact (List.append_nil _).symm
  have shown := console.visible_rendition_append stream text closed
  rwa [← closed, List.append_nil, List.append_nil] at shown

theorem visible_added_print (text : String) :
    visible (console.added (console.print stream text)) = visible text.toList := by
  rw [print, added_append, visible_rendition]

private theorem rendition_of_minimal {console : Console} (minimal : console.minimal = true)
    {text : String}
    (unescaped : escape ∉ text.toList) : console.rendition stream text = text := by
  cases stream with
  | output => rfl
  | trace => rw [rendition, if_pos minimal, visible_of_not_mem unescaped, String.ofList_toList]

def traceRendition (entry : TraceEntry) : String :=
  (if console.lineStart then "" else console.rendition stream "\n") ++
    console.rendition stream (console.traceText entry)

theorem printTrace_eq_append (entry : TraceEntry) :
    console.printTrace stream entry =
      { console.append stream (console.traceRendition stream entry) with lineStart := true } := by
  have shown := console.visible_traceText entry []
  have ends (before : Console) (same : before.traceText entry = console.traceText entry) :
      before.startsLineAfter (before.traceText entry) = true := by
    rw [List.append_nil] at shown
    rw [startsLineAfter, same, shown, entry.toList_line]
    simp [visible, visibleFrom]
  rw [printTrace, startNewLine, traceRendition]
  split
  · rw [print, ends console rfl, String.empty_append]
  · have broken : console.print stream "\n" =
        { console.append stream (console.rendition stream "\n") with lineStart := true } := rfl
    rw [print, ends _ (by cases stream <;> rfl), ← append_append, broken]
    cases stream <;> rfl

theorem visible_traceRendition (entry : TraceEntry) :
    visible (console.traceRendition stream entry).toList =
      (if console.lineStart then [] else ['\n']) ++ entry.line.toList := by
  have nothing : visible [] = [] := rfl
  have line := console.visible_traceText entry []
  rw [nothing, List.append_nil, List.append_nil, ← console.visible_rendition stream] at line
  rw [traceRendition, String.toList_append]
  split
  · rw [String.toList_empty, List.nil_append, List.nil_append, line]
  · rw [visible_rendition_append _ _ _ rfl, line]
    rfl

end

/-- However a console decorates what it prints, and whichever stream a trace entry goes to, its line
is shown on a line of its own. A minimal console prints no escape sequence with it. -/
theorem printTrace_shows_line (console : Console) (stream : Stream) (address word : Nat)
    (instruction : Instruction) (machine : Machine) :
    let entry : TraceEntry :=
      ⟨address, word, instruction, machine.acc, machine.b, machine.flags, machine.useB⟩
    ∃ printed : String,
      (console.printTrace stream entry =
        match stream with
        | .output => { console with output := console.output ++ printed, lineStart := true }
        | .trace => { console with trace := console.trace ++ printed, lineStart := true }) ∧
      visible printed.toList =
        (if console.lineStart then [] else ['\n']) ++ (entry.pieces.flatten ++ ['\n']) ∧
      (console.minimal = true → escape ∉ printed.toList) := by
  intro entry
  have appended := console.printTrace_eq_append stream entry
  refine ⟨console.traceRendition stream entry, ?_, ?_, ?_⟩
  · cases stream <;> exact appended
  · rw [← entry.toList_line]
    exact console.visible_traceRendition stream entry
  · intro minimal
    have newline : escape ∉ "\n".toList := by decide
    have text : console.traceText entry = entry.line := if_pos minimal
    rw [traceRendition, text, rendition_of_minimal stream minimal newline,
      rendition_of_minimal stream minimal entry.escape_not_mem_line, String.toList_append,
      List.mem_append]
    intro inside
    rcases inside with broken | line
    · split at broken
      · cases broken
      · exact newline broken
    · exact entry.escape_not_mem_line line

end Console

end LittleMan
