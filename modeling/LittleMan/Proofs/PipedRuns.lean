import LittleMan.Proofs.InputLines
import LittleMan.Proofs.Literals
import LittleMan.Proofs.Starvation

/-! Runs on redirected streams. Values written out as text, however it is laid out, are the same
input to a run as a queue of those values, and the run prints what the queue would keep. Only the
reason for which a read fails tells the end of a pipe from the end of a queue. -/

namespace LittleMan

open Text

theorem Console.print_output (console : Console) (text : String) :
    (console.print .output text).output = console.output ++ text := rfl

theorem Console.printTrace_output (console : Console) (entry : TraceEntry) :
    (console.printTrace .trace entry).output = console.output := by
  have begun : (console.startNewLine .trace).output = console.output := by
    unfold startNewLine
    split <;> rfl
  exact begun

namespace Streams

/-- What a pipe reports where a queue reports a fault. -/
def pipeFault (fault : Fault) : Fault :=
  if fault = Queue.starvation then .channel "end of input" else fault

def printed (words : List Nat) : String :=
  String.join (words.map fun word : Nat => numeral word ++ "\n")

private theorem printed_concat (words : List Nat) (word : Nat) :
    printed (words ++ [word]) = printed words ++ (numeral word ++ "\n") := by
  simp [printed]

private theorem mapError_pipeFault {answer : Except Fault Unit}
    (other : answer ≠ .error Queue.starvation) :
    answer.mapError pipeFault = answer := by
  cases answer with
  | ok => rfl
  | error fault =>
    have unstarved : fault ≠ Queue.starvation := fun same => other (congrArg Except.error same)
    rw [Except.mapError, pipeFault, if_neg unstarved]

private theorem mapError_pipeFault_of_verdict {machine : Machine} {answer : Except Fault Unit}
    (ended : machine.verdict = some answer) : answer.mapError pipeFault = answer := by
  apply mapError_pipeFault
  rintro rfl
  exact machine.verdict_ne_channel _ ended

private theorem readValue_numeral {value : Int} (small : (NumeralRange.signed 32).Holds value) :
    readValue (numeral value).toList = .ok value :=
  (readValue_of_denotes (denotes_numeral value)).trans (if_pos small)

/-- Streams between pipes next to a queue. The one has the numerals of the values that wait in
the other still to read, and has printed the words that the other keeps. -/
structure Pipes (before : String) (streams : Streams) (queue : Queue) : Prop where
  input : streams.input.Holds (queue.input.map fun value => (numeral value).toList)
  range : ∀ value ∈ queue.input, (NumeralRange.signed 32).Holds value
  redirected : streams.outputTerminal = false
  output : streams.console.output = before ++ printed queue.output.toList

section

variable {before : String} {streams : Streams} {queue : Queue}

theorem Pipes.ask (pipes : Pipes before streams queue) :
    ∃ rest, Pipes before rest queue.read.2 ∧
      channel.ask streams = (queue.read.1.mapError pipeFault, rest) := by
  obtain ⟨input, outputTerminal, console, stopped⟩ := streams
  obtain ⟨values, words⟩ := queue
  obtain ⟨holds, range, redirected, output⟩ := pipes
  obtain ⟨pending, lines, rest, rfl, taken, others⟩ := holds.exists_next
  have asked : channel.ask ⟨.redirected pending lines, outputTerminal, console, stopped⟩ =
      ((Input.nextToken pending lines).1.bind readValue,
        ⟨(Input.nextToken pending lines).2, outputTerminal, console, stopped⟩) := rfl
  rw [asked, taken]
  refine ⟨⟨rest, outputTerminal, console, stopped⟩, ?_, ?_⟩
  · cases values with
    | nil => exact ⟨others, range, redirected, output⟩
    | cons value values => exact ⟨others, (List.forall_mem_cons.mp range).2, redirected, output⟩
  · cases values with
    | nil => rfl
    | cons value values =>
      exact congrArg (·, _) (readValue_numeral (List.forall_mem_cons.mp range).1)

theorem Pipes.tell (pipes : Pipes before streams queue) (word : Nat) :
    Alike (Pipes before) (channel.tell word streams) (Queue.channel.tell word queue) := by
  obtain ⟨input, outputTerminal, console, stopped⟩ := streams
  obtain ⟨holds, range, rfl, output⟩ := pipes
  have told : channel.tell word ⟨input, false, console, stopped⟩ =
      (.ok (), ⟨input, false, console.print .output (numeral word ++ "\n"), stopped⟩) := rfl
  rw [told]
  refine ⟨rfl, holds, range, rfl, ?_⟩
  rw [Console.print_output, output, Queue.tell_channel, Queue.write, Array.toList_push,
    printed_concat, String.append_assoc]

theorem Pipes.trace (pipes : Pipes before streams queue) (entry : TraceEntry) :
    Pipes before (channel.trace entry streams) queue where
  input := pipes.input
  range := pipes.range
  redirected := pipes.redirected
  output := (Console.printTrace_output streams.console entry).trans pipes.output

theorem Pipes.answerAlike (pipes : Pipes before streams queue) {instruction : Instruction}
    (supplied : instruction = .input → queue.input ≠ []) (working : Nat) :
    AnswerAlike channel Queue.channel (Pipes before) instruction working streams queue := by
  cases instruction with
  | input =>
    obtain ⟨rest, kept, asked⟩ := pipes.ask
    cases waiting : queue.input with
    | nil => exact absurd waiting (supplied rfl)
    | cons value values =>
      refine ⟨?_, by rwa [asked]⟩
      rw [asked, Queue.ask_channel, Queue.read, waiting]
      rfl
  | output => exact pipes.tell working
  | device => exact ⟨rfl, pipes⟩
  | _ => exact pipes

/-- A cycle goes the same way on both, and fails for reasons of their own where it reads past
the end. -/
theorem Pipes.cycle (pipes : Pipes before streams queue) (machine : Machine) :
    ∃ answer final told heard, machine.cycle Queue.channel queue = ⟨answer, final, heard⟩ ∧
      machine.cycle channel streams = ⟨answer.mapError pipeFault, final, told⟩ ∧
      Pipes before told heard := by
  -- Only a read past the end is answered differently, so that cycle is a case apart.
  by_cases starves : machine.Starves queue
  · obtain ⟨word, fetched, input, empty⟩ := Machine.starves_iff.mp starves
    obtain ⟨rest, kept, asked⟩ := pipes.ask
    have refused : machine.advance.execute channel (.decode word) machine.working streams =
        (.error (pipeFault Queue.starvation), rest) := by
      simp [input, Machine.execute, asked, Queue.read, empty, Except.mapError, Queue.starvation]
    refine ⟨_, _, rest, queue, Machine.cycle_of_starves starves,
      Machine.cycle_of_failed fetched refused, ?_⟩
    simpa [Queue.read, empty] using kept
  · have alike : (machine.cycle channel streams).Alike (Pipes before)
        (machine.cycle Queue.channel queue) := by
      apply Machine.cycle_alike
      · intro entry told heard matched
        exact matched.trace entry
      · exact pipes
      · intro word fetched
        apply pipes.answerAlike
        intro input empty
        exact starves (Machine.starves_iff.mpr ⟨word, fetched, input, empty⟩)
    obtain ⟨answer, final, told, heard, one, two, matched⟩ := alike.exists_eq
    have unstarved : answer ≠ .error Queue.starvation := by
      intro same
      apply starves
      rw [← Machine.cycle_starved_iff, two, same]
    refine ⟨answer, final, told, heard, two, ?_, matched⟩
    rw [one, mapError_pipeFault unstarved]

theorem Pipes.resume (pipes : Pipes before streams queue) (machine : Machine) (fuel : Nat) :
    ∃ answer final told heard, machine.resume Queue.channel fuel queue = ⟨answer, final, heard⟩ ∧
      machine.resume channel fuel streams =
        ⟨answer.map (Except.mapError pipeFault), final, told⟩ ∧
      Pipes before told heard := by
  fun_induction Machine.resume Queue.channel fuel machine queue generalizing streams with
  | case1 fuel machine queue answer ended =>
    refine ⟨_, _, streams, queue, rfl, ?_, pipes⟩
    rw [Machine.resume_of_verdict ended, Option.map_some, mapError_pipeFault_of_verdict ended]
  | case2 machine queue going => exact ⟨_, _, _, _, rfl, Machine.resume_zero going, pipes⟩
  | case3 machine queue going fuel fault final after stepped =>
    obtain ⟨answer, _, told, heard, one, two, matched⟩ := pipes.cycle machine
    cases stepped.symm.trans one
    rw [Machine.resume_succ going, two]
    exact ⟨_, _, told, _, rfl, rfl, matched⟩
  | case4 machine queue going fuel _ next after stepped ih =>
    obtain ⟨answer, _, told, heard, one, two, matched⟩ := pipes.cycle machine
    cases stepped.symm.trans one
    rw [Machine.resume_succ going, two]
    exact ih matched

end

end Streams

/-- However values are laid out in the text of a pipe, a run on it goes as on a queue of these
values, and prints the words that the queue keeps. At the end of the input only the reason
differs. -/
theorem Machine.run_piped (machine : Machine) (start fuel : Nat) {values : List Int}
    (range : ∀ value ∈ values, -2147483648 ≤ value ∧ value ≤ 2147483647) {text : List Char}
    (layout : FallsInto (fun c => isBlank c = true) text
      (values.map fun value => (numeral value).toList)) (console : Console) :
    let streams : Streams := { input := .ofBytes (encode text), console }
    let queue : Queue := { input := values }
    let piped := machine.run Streams.channel fuel start streams
    let queued := machine.run Queue.channel fuel start queue
    piped.machine = queued.machine ∧
      piped.answer = queued.answer.map (Except.mapError Streams.pipeFault) ∧
      piped.world.console.output =
        console.output ++ Streams.printed queued.world.output.toList := by
  intro streams queue piped queued
  have pipes : Streams.Pipes console.output streams queue := by
    refine ⟨?_, range, rfl, (String.append_empty).symm⟩
    rw [← layout.runs_eq]
    exact Input.ofBytes_holds text
  obtain ⟨answer, final, told, heard, one, two, matched⟩ :=
    pipes.resume { machine with pc := start } fuel
  rw [show piped = _ from two, show queued = _ from one]
  exact ⟨rfl, rfl, matched.output⟩

/-- The second number is printed, and the third is missing. -/
theorem Machine.run_piped_to_its_end :
    let memory := (((Memory.empty.write 7 901).write 8 901).write 9 902).write 10 901
    let machine : Machine := { memory }
    let text := "\r\n\t0 \r\n\r\n12".toList
    let streams : Streams := { input := .ofBytes (encode text) }
    FallsInto (fun c => isBlank c = true) text ([0, 12].map fun value => (numeral value).toList) ∧
      (machine.run Streams.channel 9 7 streams).world.console.output = "12\n" ∧
      (machine.run Streams.channel 9 7 streams).answer =
        some (.error (.channel "end of input")) := by
  intro memory machine text streams
  have layout : FallsInto (fun c => isBlank c = true) text
      ([0, 12].map fun value => (numeral value).toList) := runs_eq_iff.mp (by decide +kernel)
  obtain ⟨-, answer, output⟩ := Machine.run_piped machine 7 9 (by decide) layout {}
  have ended : (machine.run Queue.channel 9 7 ⟨[0, 12], #[]⟩).answer =
      some (.error Queue.starvation) := by
    have asks : memory.read 7 = .ok 901 ∧ memory.read 8 = .ok 901 ∧ memory.read 10 = .ok 901 := by
      simp [memory, Memory.read, Memory.get_write]
    have tells : memory.read 9 = .ok 902 := by simp [memory, Memory.read, Memory.get_write]
    simp [machine, run, resume, verdict, cycle, advance, asks, tells, Encodes.decode .input,
      Encodes.decode .output, execute, settle, complete, writeBack, working, showCycle, Queue.read,
      Queue.write, Queue.starvation]
  refine ⟨layout, ?_, ?_⟩
  · rw [output]
    decide +kernel
  · rw [answer, ended]
    rfl

end LittleMan
