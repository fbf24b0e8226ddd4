import LittleMan.Proofs.Exchange
import LittleMan.Proofs.PipedRuns
import LittleMan.Proofs.Settings
import LittleMan.Proofs.TraceLines

/-! Streams between the cycles of a run whose input is redirected. Nothing is asked for and every
word that is written ends its line, so the streams are at the start of a line whatever else they
show, and what a run has printed are the words it has written. -/

namespace LittleMan

open Text

theorem Text.escape_not_mem_numeral (value : Int) : escape ∉ (numeral value).toList := by
  have digits : escape ∉ Nat.toDigits 10 value.natAbs :=
    fun inside => absurd ((isDecimal_toDigits value.natAbs).digit escape inside) (by decide)
  rw [numeral, String.toList_ofList, List.mem_append]
  rintro (sign | inside)
  · split at sign <;> simp [escape] at sign
  · exact digits inside

theorem Input.nextToken_redirected (pending : List (List Char)) (lines : List (List UInt8)) :
    ∃ tokens others, (nextToken pending lines).2 = .redirected tokens others := by
  fun_induction nextToken pending lines with
  | case1 => exact ⟨_, _, rfl⟩
  | case2 => exact ⟨_, _, rfl⟩
  | case3 => exact ⟨_, _, rfl⟩
  | case4 _ _ _ _ ih => exact ih

/-- A channel with nobody to see the trace. -/
def Channel.blind {World : Type} (channel : Channel World) : Channel World :=
  { channel with trace := fun _ world => world }

namespace Streams

def shown (terminal : Bool) (words : List Nat) : String :=
  String.join (words.map fun word : Nat =>
    (if terminal then "out=" else "") ++ (numeral word ++ "\n"))

private theorem shown_append (terminal : Bool) (first second : List Nat) :
    shown terminal (first ++ second) = shown terminal first ++ shown terminal second := by
  simp [shown]

structure Settled (streams : Streams) : Prop where
  redirected : ∃ pending lines, streams.input = .redirected pending lines
  lineStart : streams.console.lineStart = true
  running : streams.stopped = false

theorem Settled.congr {streams after : Streams} (settled : streams.Settled)
    (input : after.input = streams.input)
    (lineStart : after.console.lineStart = streams.console.lineStart)
    (stopped : after.stopped = streams.stopped) : after.Settled := by
  refine ⟨?_, lineStart.trans settled.lineStart, stopped.trans settled.running⟩
  rw [input]
  exact settled.redirected

def withOutput (streams : Streams) (text : String) : Streams :=
  { streams with console := { streams.console with output := streams.console.output ++ text } }

section

variable {streams : Streams} {machine : Machine}

theorem Settled.ask (settled : streams.Settled) : ∃ input,
    (channel.ask streams).2 = { streams with input := input } ∧
      (channel.ask streams).2.Settled := by
  obtain ⟨input, outputTerminal, console, stopped⟩ := streams
  obtain ⟨⟨pending, lines, rfl⟩, lineStart, running⟩ := settled
  exact ⟨(Input.nextToken pending lines).2, rfl,
    ⟨Input.nextToken_redirected pending lines, lineStart, running⟩⟩

theorem Settled.tell (settled : streams.Settled) (word : Nat) :
    channel.tell word streams =
      (.ok (), streams.withOutput (shown streams.outputTerminal [word])) := by
  obtain ⟨input, outputTerminal, ⟨minimal, coloured, lineStart, output, trace⟩, stopped⟩ := streams
  obtain ⟨-, rfl, -⟩ := settled
  have ends (console : Console) : console.startsLineAfter (numeral word ++ "\n") = true := by
    have unescaped : escape ∉ (numeral word).toList ++ ['\n'] := by
      rw [List.mem_append]
      rintro (inside | last)
      · exact escape_not_mem_numeral word inside
      · exact absurd last (by decide)
    have newline : "\n".toList = ['\n'] := rfl
    rw [Console.startsLineAfter, String.toList_append, newline, visible_of_not_mem unescaped,
      List.getLast?_concat]
    rfl
  cases outputTerminal <;>
    simp [Channel.tell, channel, print, Console.print, Console.append, Console.rendition, ends,
      withOutput, shown, String.append_assoc]

/-- Words are printed, and nothing else happens to the output. -/
structure Prints (streams : Streams) (words : List Nat) (after : Streams) : Prop where
  settled : after.Settled
  outputTerminal : after.outputTerminal = streams.outputTerminal
  minimal : after.console.minimal = streams.console.minimal
  coloured : after.console.coloured = streams.console.coloured
  output : after.console.output = streams.console.output ++ shown streams.outputTerminal words

theorem Prints.refl (settled : streams.Settled) : streams.Prints [] streams :=
  ⟨settled, rfl, rfl, rfl, String.append_empty.symm⟩

theorem Prints.trans {first second : List Nat} {middle after : Streams}
    (earlier : streams.Prints first middle) (later : middle.Prints second after) :
    streams.Prints (first ++ second) after := by
  refine ⟨later.settled, later.outputTerminal.trans earlier.outputTerminal,
    later.minimal.trans earlier.minimal, later.coloured.trans earlier.coloured, ?_⟩
  rw [later.output, earlier.output, earlier.outputTerminal, shown_append, String.append_assoc]

theorem Settled.trace (settled : streams.Settled) (entry : TraceEntry) :
    channel.trace entry streams =
      { streams with
        console :=
          { streams.console with
            trace := streams.console.trace ++
              streams.console.rendition .trace (streams.console.traceText entry) } } := by
  have printed := Console.printTrace_of_lineStart settled.lineStart entry
  exact congrArg (fun console => { streams with console := console }) printed

theorem Settled.execute (settled : streams.Settled) (instruction : Instruction) (working : Nat)
    (machine : Machine) :
    streams.Prints (if instruction = .output then [working] else [])
      (machine.execute channel instruction working streams).2 := by
  rw [Machine.execute_world]
  cases instruction with
  | input =>
    obtain ⟨input, same, kept⟩ := settled.ask
    refine ⟨kept, ?_, ?_, ?_, ?_⟩
    · rw [same]
    · rw [same]
    · rw [same]
    · rw [same]
      exact String.append_empty.symm
  | output =>
    rw [settled.tell]
    exact ⟨settled.congr rfl rfl rfl, rfl, rfl, rfl, rfl⟩
  | device => exact .refl settled
  | _ => exact .refl settled

theorem Settled.showCycle (settled : streams.Settled) (address word : Nat) (machine : Machine) :
    streams.Prints [] (machine.showCycle channel address word streams) := by
  unfold Machine.showCycle
  split
  · rw [settled.trace]
    exact ⟨settled.congr rfl rfl rfl, rfl, rfl, rfl, String.append_empty.symm⟩
  · exact .refl settled

theorem Settled.cycle (settled : streams.Settled) (machine : Machine) :
    streams.Prints (machine.written? channel streams).toList
      (machine.cycle channel streams).world := by
  obtain ⟨fault, unread, failed⟩ | ⟨word, fault, after, fetched, refused, failed⟩ |
    ⟨word, executed, result, after, fetched, performed, done⟩ :=
      Machine.cycle_cases channel machine streams
  · rw [Machine.written?, Machine.fetched?_of_unread unread, failed]
    exact .refl settled
  · have printed := settled.execute (.decode word) machine.working machine.advance
    have silent : Instruction.decode word ≠ .output := by
      intro same
      rw [same, Machine.execute, settled.tell] at refused
      cases refused
    rw [refused, if_neg silent] at printed
    rw [Machine.written?, Machine.fetched?_of_read fetched, failed, if_neg (by simp [silent])]
    exact printed
  · have printed := settled.execute (.decode word) machine.working machine.advance
    rw [performed] at printed
    have completed : (machine.cycle channel streams).answer.isOk = true := by
      rw [done]
      rfl
    have words : (machine.written? channel streams).toList =
        if Instruction.decode word = .output then [machine.working] else [] := by
      rw [Machine.written?, Machine.fetched?_of_read fetched, completed]
      by_cases tells : Instruction.decode word = .output <;> simp [tells, Machine.working]
    rw [words, done, ← List.append_nil (ite _ _ _)]
    exact printed.trans (printed.settled.showCycle _ _ _)

/-- A number of cycles print the words that they write. -/
theorem Settled.cycleEach (settled : streams.Settled) (machine : Machine) (count : Nat) :
    streams.Prints (machine.written channel count streams)
      (machine.cycleEach channel count streams).world := by
  induction count with
  | zero => exact .refl settled
  | succ count ih =>
    rw [Machine.written, Machine.gather_succ]
    exact ih.trans (ih.settled.cycle _)

end

end Streams

end LittleMan
