import LittleMan.Proofs.ShownTexts
import Mathlib.Data.List.Induction

/-! Where lines start. A console has one flag for two streams and for texts that may show nothing or
leave an escape sequence open, and still the flag says after any history whether all that was shown
ends with a line. -/

namespace LittleMan

open Text

inductive Printing where
  | print (stream : Stream) (text : String)
  | startNewLine (stream : Stream)
  | printTrace (stream : Stream) (entry : TraceEntry)
  | decorate (minimal coloured : Bool)

def AtLineStart (text : List Char) : Prop := text = [] ∨ text.getLast? = some '\n'

instance (text : List Char) : Decidable (AtLineStart text) := inferInstanceAs (Decidable (_ ∨ _))

def lineBreak (text : List Char) : List Char := if AtLineStart text then [] else ['\n']

private theorem atLineStart_lineBreak (text : List Char) :
    AtLineStart (text ++ lineBreak text) := by
  unfold lineBreak
  split
  next already => rwa [List.append_nil]
  next => exact .inr List.getLast?_concat

namespace Console

/-- The flag of a console says whether a text is at the start of a line. -/
def Tells (console : Console) (seen : List Char) : Prop :=
  console.lineStart = true ↔ AtLineStart seen

section

variable {console : Console} {seen : List Char} (tells : console.Tells seen) (stream : Stream)

include tells

theorem Tells.lineBreak :
    lineBreak seen = if console.lineStart then [] else ['\n'] := by
  rw [LittleMan.lineBreak]
  exact if_congr tells.symm rfl rfl

theorem Tells.print (text : String) :
    (console.print stream text).Tells (seen ++ visible text.toList) := by
  have flag : (console.print stream text).lineStart = console.startsLineAfter text := rfl
  rw [Tells, flag, startsLineAfter]
  cases last : (visible text.toList).getLast? with
  | none =>
    rw [List.getLast?_eq_none_iff.mp last, List.append_nil]
    exact tells
  | some c =>
    have ends : (seen ++ visible text.toList).getLast? = some c := by
      rw [List.getLast?_append, last, Option.some_or]
    have shows : seen ++ visible text.toList ≠ [] := by
      intro nothing
      rw [nothing] at ends
      cases ends
    simp [AtLineStart, ends, shows]

theorem Tells.startNewLine :
    (console.startNewLine stream).Tells (seen ++ LittleMan.lineBreak seen) ∧
      visible (console.added (console.startNewLine stream)) = LittleMan.lineBreak seen := by
  rw [tells.lineBreak, Console.startNewLine]
  split
  · rw [List.append_nil]
    refine ⟨tells, ?_⟩
    simp [added, visible, visibleFrom]
  · exact ⟨tells.print stream "\n", visible_added_print console stream "\n"⟩

theorem Tells.printTrace (entry : TraceEntry) :
    (console.printTrace stream entry).Tells
        (seen ++ (LittleMan.lineBreak seen ++ entry.line.toList)) ∧
      visible (console.added (console.printTrace stream entry)) =
        LittleMan.lineBreak seen ++ entry.line.toList := by
  have line : entry.line.toList.getLast? = some '\n' := by
    rw [entry.toList_line, List.getLast?_concat]
  rw [printTrace_eq_append]
  constructor
  · apply iff_of_true
    · rfl
    · right
      rw [← List.append_assoc, List.getLast?_append, line, Option.some_or]
  · rw [added_append, visible_traceRendition, tells.lineBreak]

end

end Console

namespace Printing

def perform (console : Console) : Printing → Console
  | print stream text => console.print stream text
  | startNewLine stream => console.startNewLine stream
  | printTrace stream entry => console.printTrace stream entry
  | decorate minimal coloured => { console with minimal := minimal, coloured := coloured }

def performAll (console : Console) (history : List Printing) : Console :=
  history.foldl perform console

def shown (console : Console) : List Printing → List Char
  | [] => []
  | first :: rest =>
    visible (console.added (perform console first)) ++ shown (perform console first) rest

private theorem performAll_concat (console : Console) (history : List Printing) (last : Printing) :
    performAll console (history ++ [last]) = perform (performAll console history) last := by
  simp [performAll]

private theorem shown_concat (console : Console) (history : List Printing) (last : Printing) :
    shown console (history ++ [last]) =
      shown console history ++ visible ((performAll console history).added
        (performAll console (history ++ [last]))) := by
  induction history generalizing console with
  | nil => exact List.append_nil _
  | cons first rest ih =>
    rw [List.cons_append, shown, shown, ih, List.append_assoc]
    rfl

def text (seen : List Char) : Printing → List Char
  | print _ text => visible text.toList
  | startNewLine _ => lineBreak seen
  | printTrace _ entry => lineBreak seen ++ entry.line.toList
  | decorate _ _ => []

private theorem perform_tells {console : Console} {seen : List Char} (tells : console.Tells seen)
    (printing : Printing) :
    (perform console printing).Tells (seen ++ printing.text seen) ∧
      visible (console.added (perform console printing)) = printing.text seen := by
  cases printing with
  | print stream text => exact ⟨tells.print stream text, console.visible_added_print stream text⟩
  | startNewLine stream => exact tells.startNewLine stream
  | printTrace stream entry => exact tells.printTrace stream entry
  | decorate minimal coloured =>
    have nothing : console.added (perform console (decorate minimal coloured)) = [] := by
      simp [Console.added, perform]
    rw [nothing, text, List.append_nil]
    exact ⟨tells, rfl⟩

section

variable {console : Console} (fresh : console.lineStart = true) (history : List Printing)

include fresh

private theorem performAll_tells : (performAll console history).Tells (shown console history) := by
  -- from the end, since what a printing shows depends on all that was seen before it
  induction history using List.reverseRecOn with
  | nil => exact iff_of_true fresh (.inl rfl)
  | append_singleton history last ih =>
    obtain ⟨tells, seen⟩ := perform_tells ih last
    rw [shown_concat, performAll_concat, seen]
    exact tells

private theorem shown_append_singleton (last : Printing) :
    shown console (history ++ [last]) =
      shown console history ++ last.text (shown console history) := by
  rw [shown_concat, performAll_concat, (perform_tells (performAll_tells fresh history) last).2]

private theorem performAll_startNewLine (ready : AtLineStart (shown console history))
    (stream : Stream) :
    performAll console (history ++ [startNewLine stream]) = performAll console history := by
  rw [performAll_concat]
  exact if_pos ((performAll_tells fresh history).mpr ready)

end

/-- The flag of a console tells whether all that was shown on both streams ends with a line. So a new
line is started in the middle of a line only, and only once, and every trace line is a line. -/
theorem lineStart_tells_lines {console : Console} (fresh : console.lineStart = true)
    (history : List Printing) :
    let seen := shown console history
    ((performAll console history).lineStart = true ↔ AtLineStart seen) ∧
      (∀ stream text,
        shown console (history ++ [print stream text]) = seen ++ visible text.toList) ∧
      (∀ stream,
        shown console (history ++ [startNewLine stream]) = seen ++ lineBreak seen) ∧
      (∀ stream, AtLineStart seen →
        performAll console (history ++ [startNewLine stream]) = performAll console history) ∧
      (∀ stream other,
        performAll console (history ++ [startNewLine stream] ++ [startNewLine other]) =
          performAll console (history ++ [startNewLine stream])) ∧
      ∀ stream entry, AtLineStart (seen ++ lineBreak seen) ∧
        shown console (history ++ [printTrace stream entry]) =
          seen ++ lineBreak seen ++ entry.line.toList := by
  intro seen
  have next := shown_append_singleton fresh history
  refine ⟨performAll_tells fresh history, fun stream text => next (.print stream text),
    fun stream => next (.startNewLine stream), fun stream ready => ?_, fun stream other => ?_,
    fun stream entry => ⟨atLineStart_lineBreak seen, ?_⟩⟩
  · exact performAll_startNewLine fresh history ready stream
  · apply performAll_startNewLine fresh
    rw [next]
    exact atLineStart_lineBreak seen
  · rw [List.append_assoc]
    exact next (.printTrace stream entry)

/-- A prompt, an escape sequence that is left open and a mode without any, before a new line is
asked for twice. -/
theorem lineStart_tells_lines_behind_open_sequence :
    let console : Console := { coloured := true }
    let history := [print .output "in? ", print .trace "\x1b[0", decorate true false]
    console.lineStart = true ∧ shown console history = "in? ".toList ∧
      (performAll console history).lineStart = false ∧
      shown console (history ++ [startNewLine .trace]) = "in? \n".toList ∧
      performAll console (history ++ [startNewLine .trace] ++ [startNewLine .output]) =
        performAll console (history ++ [startNewLine .trace]) := by
  intro console history
  have seen : shown console history = "in? ".toList := by decide +kernel
  obtain ⟨flag, -, broken, -, once, -⟩ := @lineStart_tells_lines console rfl history
  rw [seen] at flag broken
  exact ⟨rfl, seen, Bool.eq_false_iff.mpr (mt flag.mp (by decide)), broken .trace,
    once .trace .output⟩

end Printing

end LittleMan
