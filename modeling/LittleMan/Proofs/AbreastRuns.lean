import LittleMan.Proofs.SettledStreams

/-! Two runs side by side that differ in what they show. The trace of a run, its decoration and what
was printed before it are never read, so runs that begin with the same input print the same words
and end the same way. -/

namespace LittleMan

open Text

/-- The streams of two runs. What the second has printed follows a lead, and what both have traced
is related. -/
structure Streams.Abreast (lead : String) (traces : Console → Console → Prop)
    (first second : Streams) : Prop where
  settled : first.Settled
  alsoSettled : second.Settled
  input : second.input = first.input
  outputTerminal : second.outputTerminal = first.outputTerminal
  output : second.console.output = lead ++ first.console.output
  traces : traces first.console second.console

namespace Streams

/-- A relation of consoles that has nothing to do with their output. -/
def IgnoresOutput (traces : Console → Console → Prop) : Prop :=
  ∀ first second text other, traces first second →
    traces { first with output := text } { second with output := other }

section

variable {lead : String} {traces : Console → Console → Prop} {first second third : Streams}

theorem Abreast.ask (abreast : Abreast lead traces first second) :
    Alike (Abreast lead traces) (channel.ask first) (channel.ask second) := by
  obtain ⟨input, outputTerminal, console, stopped⟩ := first
  obtain ⟨_, _, screen, halted⟩ := second
  obtain ⟨⟨⟨pending, lines, rfl⟩, lineStart, running⟩, ⟨-, also, active⟩, rfl, terminal, output,
    traces⟩ := abreast
  have redirected := Input.nextToken_redirected pending lines
  exact ⟨rfl, ⟨redirected, lineStart, running⟩, ⟨redirected, also, active⟩, rfl, terminal, output,
    traces⟩

theorem Abreast.tell (abreast : Abreast lead traces first second) (kept : IgnoresOutput traces)
    (word : Nat) : Alike (Abreast lead traces) (channel.tell word first)
      (channel.tell word second) := by
  obtain ⟨settled, alsoSettled, input, outputTerminal, output, traces⟩ := abreast
  rw [settled.tell, alsoSettled.tell, outputTerminal]
  refine ⟨rfl, settled.congr rfl rfl rfl, alsoSettled.congr rfl rfl rfl, input, outputTerminal, ?_,
    kept _ _ _ _ traces⟩
  simp only [withOutput, output, String.append_assoc]

theorem Abreast.mirrors (kept : IgnoresOutput traces) {trace : TraceEntry → Streams → Streams}
    (shown : ∀ entry first second, Abreast lead traces first second →
      Abreast lead traces (channel.trace entry first) (trace entry second)) :
    channel.Mirrors { channel with trace := trace } (Abreast lead traces) where
  ask _ _ abreast := abreast.ask
  tell word _ _ abreast := abreast.tell kept word
  device _ _ _ _ abreast := ⟨rfl, abreast⟩
  trace := shown

abbrev Level : Streams → Streams → Prop := Abreast "" fun _ _ => True

theorem Settled.level (settled : first.Settled) : Level first first :=
  ⟨settled, settled, rfl, rfl, String.empty_append.symm, trivial⟩

theorem Abreast.level_of_common (one : Level first third) (two : Level second third) :
    Level first second := by
  refine ⟨one.settled, two.settled, two.input.symm.trans one.input,
    two.outputTerminal.symm.trans one.outputTerminal, ?_, trivial⟩
  have same := one.output.symm.trans two.output
  rw [String.empty_append, String.empty_append] at same
  rw [String.empty_append, same]

private theorem mirrors_blind : channel.Mirrors channel.blind Level := by
  apply Abreast.mirrors
  · intro first second text other unasked
    trivial
  · intro entry first second level
    rw [level.settled.trace]
    exact ⟨level.settled.congr rfl rfl rfl, level.alsoSettled, level.input, level.outputTerminal,
      level.output, trivial⟩

/-- A run goes the same way and prints the same whether or not it is traced. -/
theorem Abreast.resume_withTrace (level : Level second first) (machine : Machine) (on : Bool)
    (fuel : Nat) : ∃ answer final told heard,
      machine.resume channel fuel first = ⟨answer, final, told⟩ ∧
      (machine.withTrace on).resume channel fuel second = ⟨answer, final.withTrace on, heard⟩ ∧
      Level told heard := by
  -- Where nobody sees the trace the two runs are the same, and each goes like one of those.
  obtain ⟨answer, final, told, plain, one, two, here⟩ :=
    (mirrors_blind.resume level.alsoSettled.level machine fuel).exists_eq
  obtain ⟨_, _, heard, _, three, four, there⟩ :=
    (mirrors_blind.resume level (machine.withTrace on) fuel).exists_eq
  rw [Machine.resume_withTrace (fun _ _ => rfl), two] at four
  cases four
  exact ⟨answer, final, told, heard, one, three, here.level_of_common there⟩

/-- A minimal console next to one that dims addresses and colours nothing. -/
structure Undecorated (first second : Console) : Prop where
  minimal : first.minimal = true
  decorated : second.minimal = false
  uncoloured : second.coloured = false
  trace : ∀ rest, visible (second.trace.toList ++ rest) = first.trace.toList ++ visible rest

theorem mirrors_undecorated (lead : String) :
    channel.Mirrors channel (Abreast lead Undecorated) := by
  apply Abreast.mirrors
  · intro first second text other ⟨minimal, decorated, uncoloured, trace⟩
    exact ⟨minimal, decorated, uncoloured, trace⟩
  · intro entry first second abreast
    obtain ⟨minimal, decorated, uncoloured, trace⟩ := abreast.traces
    have plain := Console.printTrace_of_minimal minimal abreast.settled.lineStart entry
    have dimmed : second.console.rendition .trace (second.console.traceText entry) =
        second.console.traceText entry := by
      rw [Console.rendition, decorated, uncoloured]
      rfl
    have told : channel.trace entry first =
        { first with console := { first.console with trace := first.console.trace ++ entry.line } } :=
      congrArg (fun console => { first with console := console }) plain
    have also := abreast.alsoSettled.trace entry
    rw [dimmed] at also
    change Abreast lead Undecorated (channel.trace entry first) (channel.trace entry second)
    rw [told, also]
    refine ⟨abreast.settled.congr rfl rfl rfl, abreast.alsoSettled.congr rfl rfl rfl, abreast.input,
      abreast.outputTerminal, abreast.output, minimal, decorated, uncoloured, ?_⟩
    intro rest
    simp only [String.toList_append, List.append_assoc, trace, Console.visible_traceText]

end

end Streams

end LittleMan
