import LittleMan.Proofs.AbreastRuns
import LittleMan.Proofs.RunRequests

/-! Requests that differ in whether the run is traced. Everything else that is left of them is the
same, whether it is the command line that differs or the environment. -/

namespace LittleMan.Command

/-- All that is left of a request but its trace. -/
def Transcript.untraced (transcript : Transcript) : Option Nat × String × Option Report :=
  (transcript.exit, transcript.console.output, transcript.report)

structure LooksLike (first second : Console) : Prop where
  minimal : second.minimal = first.minimal
  coloured : first.minimal = true ∨ second.coloured = first.coloured
  output : second.output = first.output

section

variable {first second : Console} {surroundings other : Surroundings} {path : String}
  {options : RunOptions} {fuel : Nat}

theorem LooksLike.announce (like : LooksLike first second) (style : Text.Style)
    (word text : String) :
    LooksLike (announce first style word text) (announce second style word text) := by
  obtain ⟨minimal, coloured, output⟩ := like
  unfold Command.announce
  rw [minimal]
  split
  · exact ⟨minimal, coloured, output⟩
  next decorated =>
    have same : second.coloured = first.coloured := coloured.resolve_left decorated
    simp only [same, Console.append, output]
    exact ⟨minimal, .inr rfl, rfl⟩

theorem LooksLike.conclude {last heard : Streams} (like : LooksLike last.console heard.console)
    (settled : last.Settled) (also : heard.Settled) (path : String) (final : Machine) (on : Bool)
    (outcome : Except Fault Unit) :
    (Launch.conclude ⟨path, final.withTrace on, heard⟩ outcome).untraced =
      (Launch.conclude ⟨path, final, last⟩ outcome).untraced := by
  rw [conclude_settled settled, conclude_settled also]
  cases outcome with
  | error fault =>
    simp only [Transcript.untraced, Transcript.failure, like.output]
    rfl
  | ok =>
    have ended := (like.announce .cyan "Halted" ("after " ++ Text.numeral final.cycles ++
      " cycles")).announce .green "Completed" ("target " ++ path)
    simp only [Transcript.untraced, Transcript.success]
    rw [← ended.output]
    rfl

theorem LooksLike.after {start again last heard : Streams} {words others : List Nat}
    (like : LooksLike start.console again.console) (here : start.Prints words last)
    (there : again.Prints others heard) (level : last.Level heard) :
    LooksLike last.console heard.console := by
  refine ⟨?_, ?_, ?_⟩
  · rw [here.minimal, there.minimal, like.minimal]
  · rw [here.minimal, here.coloured, there.coloured]
    exact like.coloured
  · rw [level.output, String.empty_append]

/-- Switching the trace on or off makes no difference to the rest. -/
theorem finished_withTrace {pending : List (List Char)} {lines : List (List UInt8)}
    {arguments others : List String} {transcript : Transcript} {on : Bool}
    (redirected : surroundings.input = .redirected pending lines)
    (requested : Request.ofArguments surroundings.environment arguments =
      some (.run path options))
    (finished : perform surroundings fuel arguments = .finished transcript)
    (contents : other.contents = surroundings.contents) (input : other.input = surroundings.input)
    (terminal : other.outputTerminal = surroundings.outputTerminal)
    (look : options.minimal = true ∨ other.console.coloured = surroundings.console.coloured)
    (again : Request.ofArguments other.environment others =
      some (.run path { options with trace := on })) :
    ∃ also, perform other fuel others = .finished also ∧
      also.untraced = transcript.untraced := by
  have found : other.program path = surroundings.program path := by
    rw [Surroundings.program, Surroundings.program, Surroundings.read, Surroundings.read, contents,
      input]
  have plain : LooksLike { surroundings.console with minimal := options.minimal }
      { other.console with minimal := options.minimal } := ⟨rfl, look, rfl⟩
  have opened : LooksLike (surroundings.opening path options)
      (other.opening path { options with trace := on }) :=
    plain.announce .green "Loading" ("target " ++ path)
  obtain ⟨report, rest, loaded, rfl⟩ |
    ⟨memory, rest, outcome, final, last, loaded, piped, resumed, rfl⟩ :=
      finished_cases redirected requested finished
  · rw [other.perform_run again, found, loaded]
    refine ⟨_, rfl, ?_⟩
    simp only [Transcript.untraced, Transcript.failure, opened.output]
  · have ready : LooksLike (surroundings.streams path options rest).console
        (other.streams path { options with trace := on } rest).console :=
      opened.announce .green "Running" ("from address " ++ Text.zeroPadded 3 options.start)
    have settled := surroundings.settled_streams path options piped
    have also := other.settled_streams path { options with trace := on } piped
    have level : Streams.Level (other.streams path { options with trace := on } rest)
        (surroundings.streams path options rest) := by
      refine ⟨also, settled, rfl, terminal.symm, ?_, trivial⟩
      rw [ready.output, String.empty_append]
    obtain ⟨_, _, _, heard, one, two, ended⟩ :=
      level.resume_withTrace (options.machine memory) on fuel
    cases resumed.symm.trans one
    have inside := Request.start_le_of_ofArguments requested
    obtain ⟨_, -, here⟩ := exists_ends_of_settled settled rfl inside one
    obtain ⟨_, -, there⟩ := exists_ends_of_settled also rfl inside two
    refine ⟨Launch.conclude ⟨path, final.withTrace on, heard⟩ outcome, ?_, ?_⟩
    · apply Conclusion.transcript?_eq_some_iff.mp
      exact transcript?_run again (found.trans loaded) two
    · exact (ready.after here there ended).conclude here.settled there.settled path final on outcome

end

end LittleMan.Command
