import LittleMan.Proofs.ReportTexts
import LittleMan.Proofs.TraceSwitch

/-! Minimal requests on redirected input. Nothing but the words of the program is printed, and what
other requests print besides is decoration. -/

namespace LittleMan.Command

/-- The words that a program has written after a number of cycles, as they are shown. -/
def Surroundings.printout (surroundings : Surroundings) (path : String) (options : RunOptions)
    (memory : Memory) (input : Input) (count : Nat) : String :=
  Streams.shown surroundings.outputTerminal
    ((options.machine memory).written Streams.channel count (surroundings.streams path options input))

/-- What is left of a request to run a program when nothing is printed but the words it writes. -/
inductive PrintsWords (surroundings : Surroundings) (path : String) (options : RunOptions) :
    Option Nat × String × Option Report → Prop where
  | unloaded {report : Report} {input : Input}
      (loaded : surroundings.program path = some (.error report, input)) :
      PrintsWords surroundings path options (some 1, "", some report)
  | halted {memory : Memory} {input : Input} {count : Nat} {final : Machine} {last : Streams}
      (loaded : surroundings.program path = some (.ok memory, input))
      (ends : (options.machine memory).Ends Streams.channel (surroundings.streams path options input)
        count (.ok ()) final last) :
      PrintsWords surroundings path options
        (some 0, surroundings.printout path options memory input count, none)
  | failed {memory : Memory} {input : Input} {count : Nat} {fault : Fault} {final : Machine}
      {last : Streams} (loaded : surroundings.program path = some (.ok memory, input))
      (ends : (options.machine memory).Ends Streams.channel (surroundings.streams path options input)
        count (.error fault) final last)
      (explained : fault.Explains final.pc (fault.report final.pc)) :
      PrintsWords surroundings path options
        (some 1, surroundings.printout path options memory input count, some (fault.report final.pc))

section

variable {surroundings : Surroundings} {arguments : List String} {path : String}
  {options : RunOptions} {fuel : Nat} {transcript : Transcript}

theorem opening_of_minimal (minimal : options.minimal = true) :
    surroundings.opening path options = { surroundings.console with minimal := true } := by
  rw [Surroundings.opening, announce_of_minimal minimal, minimal]

theorem streams_of_minimal (minimal : options.minimal = true) (input : Input) :
    (surroundings.streams path options input).console =
      { surroundings.console with minimal := true } := by
  rw [← opening_of_minimal minimal]
  apply announce_of_minimal
  rw [opening_of_minimal minimal]

private theorem conclude_of_minimal {last : Streams} (settled : last.Settled)
    (minimal : last.console.minimal = true) (path : String) (final : Machine)
    (outcome : Except Fault Unit) :
    (Launch.conclude ⟨path, final, last⟩ outcome).untraced =
      match outcome with
      | .ok () => (some 0, last.console.output, none)
      | .error fault => (some 1, last.console.output, some (fault.report final.pc)) := by
  rw [conclude_settled settled, announce_of_minimal minimal, announce_of_minimal minimal]
  cases outcome <;> rfl

private theorem printsWords_of_minimal {pending : List (List Char)} {lines : List (List UInt8)}
    (redirected : surroundings.input = .redirected pending lines)
    (requested : Request.ofArguments surroundings.environment arguments =
      some (.run path options))
    (minimal : options.minimal = true)
    (finished : perform surroundings fuel arguments = .finished transcript) :
    PrintsWords surroundings path options transcript.untraced := by
  obtain ⟨report, input, loaded, rfl⟩ |
    ⟨memory, input, outcome, final, last, loaded, piped, resumed, rfl⟩ :=
      finished_cases redirected requested finished
  · rw [opening_of_minimal minimal]
    exact .unloaded loaded
  · obtain ⟨count, ends, printed⟩ :=
      exists_ends_of_settled (surroundings.settled_streams path options piped) rfl
        (Request.start_le_of_ofArguments requested) resumed
    have bare : last.console.minimal = true := by
      rw [printed.minimal, streams_of_minimal minimal]
    have output : last.console.output =
        surroundings.printout path options memory input count := by
      rw [printed.output, streams_of_minimal minimal]
      exact String.empty_append
    rw [conclude_of_minimal printed.settled bare, output]
    cases outcome with
    | ok => exact .halted loaded ends
    | error fault => exact .failed loaded ends (fault.explains_report final.pc)

/-- A minimal run on redirected input prints the words that it writes and nothing else, whether it
succeeds or fails, and its exit code tells whether the program was loaded and has halted. The trace
has no part in this. -/
theorem minimal_run_prints_words {bytes : List UInt8}
    (redirected : surroundings.input = .ofBytes bytes)
    (requested : Request.ofArguments surroundings.environment arguments =
      some (.run path options))
    (minimal : options.minimal = true)
    (finished : perform surroundings fuel arguments = .finished transcript) :
    PrintsWords surroundings path options transcript.untraced ∧
    (transcript.exit = some 0 ↔ ∃ memory input count final last,
      surroundings.program path = some (.ok memory, input) ∧
      (options.machine memory).EndsAt Streams.channel (surroundings.streams path options input)
        count (.ok ()) final last ∧
      ∀ limit, options.maxCycles = some limit → count ≤ limit) ∧
    ∀ (other : Surroundings) (others : List String) (on : Bool),
      other.contents = surroundings.contents → other.input = surroundings.input →
      other.outputTerminal = surroundings.outputTerminal →
      Request.ofArguments other.environment others =
        some (.run path { options with trace := on }) →
      ∃ also, perform other fuel others = .finished also ∧
        also.untraced = transcript.untraced := by
  refine ⟨printsWords_of_minimal redirected requested minimal finished,
    finished_well_iff redirected requested finished, ?_⟩
  intro other others on contents input terminal again
  exact finished_withTrace redirected requested finished contents input terminal (.inl minimal) again

end

/-- The input ends before the second read, and the word between has been printed. -/
theorem minimal_run_prints_words_before_fault :
    let surroundings : Surroundings :=
      { contents := fun _ => .ok (.own (Text.encode "901\n902\n901\n".toList))
        environment := { bindings := [("LMC_TRACE", "1")] }
        input := .ofBytes (Text.encode "7\n".toList) }
    let arguments := ["run", "p", "--minimal"]
    let options : RunOptions := { minimal := true, trace := true }
    Request.ofArguments surroundings.environment arguments = some (.run "p" options) ∧
      ∃ transcript, perform surroundings 9 arguments = .finished transcript ∧
        PrintsWords surroundings "p" options transcript.untraced ∧
        transcript.untraced.1 = some 1 ∧ transcript.untraced.2.1 = "7\n" ∧
        (∃ report, transcript.report = some report ∧ report.code = some "run::channel" ∧
          report.message = "I/O channel failed: end of input (next instruction at 003)") ∧
        ∃ also, perform { surroundings with environment := {} } 9 arguments = .finished also ∧
          also.untraced = transcript.untraced := by
  intro surroundings arguments options
  have requested : Request.ofArguments surroundings.environment arguments =
      some (.run "p" options) := by decide +kernel
  have left : (perform surroundings 9 arguments).transcript?.map
      (fun transcript => (transcript.exit, transcript.console.output,
        transcript.report.map fun report => (report.code, report.message))) =
        some (some 1, "7\n", some (some "run::channel",
          "I/O channel failed: end of input (next instruction at 003)")) := by
    decide +kernel
  obtain ⟨transcript, ended, shown⟩ := Option.map_eq_some_iff.mp left
  have finished := Conclusion.transcript?_eq_some_iff.mp ended
  obtain ⟨printed, -, switched⟩ := minimal_run_prints_words rfl requested rfl finished
  obtain ⟨exit, output, reported⟩ : transcript.exit = _ ∧ transcript.console.output = _ ∧
      transcript.report.map _ = _ := by simpa only [Prod.mk.injEq] using shown
  obtain ⟨report, stated, same⟩ := Option.map_eq_some_iff.mp reported
  refine ⟨requested, transcript, finished, printed, exit, output,
    ⟨report, stated, congrArg Prod.fst same, congrArg Prod.snd same⟩,
    switched { surroundings with environment := {} } arguments false rfl rfl rfl ?_⟩
  decide +kernel

end LittleMan.Command
