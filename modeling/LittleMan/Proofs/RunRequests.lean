import LittleMan.Command.Perform
import LittleMan.Proofs.CommandLines
import LittleMan.Proofs.RunEnds
import LittleMan.Proofs.SettledStreams

/-! Requests to run a program. What is shown is the announcement of the program, then the run, then
how it ended. -/

namespace LittleMan.Command

open Text (Style numeral zeroPadded)

def RunOptions.machine (options : RunOptions) (memory : Memory) : Machine where
  memory := memory
  pc := options.start
  trace := options.trace
  maxCycles := options.maxCycles

namespace Surroundings

section

variable {surroundings : Surroundings} {arguments : List String} {path : String}
  {options : RunOptions}

/-- What loading the program at a path gives, and the input that is left for it. -/
def program (surroundings : Surroundings) (path : String) :
    Option (Except Report Memory × Input) :=
  (surroundings.read path).map fun found => (Program.loadFile path found.1, found.2)

def opening (surroundings : Surroundings) (path : String) (options : RunOptions) : Console :=
  announce { surroundings.console with minimal := options.minimal } .green "Loading"
    ("target " ++ path)

/-- The streams with which a program starts to run. -/
def streams (surroundings : Surroundings) (path : String) (options : RunOptions)
    (input : Input) : Streams where
  input := input
  outputTerminal := surroundings.outputTerminal
  console :=
    announce (surroundings.opening path options) .green "Running"
      ("from address " ++ zeroPadded 3 options.start)

theorem launch_eq (surroundings : Surroundings) (path : String) (options : RunOptions) :
    surroundings.launch path options =
      match surroundings.program path with
      | none => .error (.stopped (surroundings.opening path options))
      | some (.error report, _) => .error (.failure (surroundings.opening path options) report)
      | some (.ok memory, input) =>
        .ok ⟨path, options.machine memory, surroundings.streams path options input⟩ := by
  unfold launch load program
  cases surroundings.read path with
  | none => rfl
  | some found =>
    obtain ⟨bytes, input⟩ := found
    simp only [Option.map_some]
    cases Program.loadFile path bytes <;> rfl

theorem perform_run
    (requested : Request.ofArguments surroundings.environment arguments =
      some (.run path options)) (fuel : Nat) :
    perform surroundings fuel arguments =
      match surroundings.program path with
      | none => .finished (.stopped (surroundings.opening path options))
      | some (.error report, _) =>
        .finished (.failure (surroundings.opening path options) report)
      | some (.ok memory, input) =>
        Launch.finish ⟨path, options.machine memory, surroundings.streams path options input⟩
          fuel := by
  rw [perform, requested]
  dsimp only
  rw [launch_eq]
  rcases surroundings.program path with _ | ⟨_ | _, _⟩ <;> rfl

/-- Something is found at every path, unless it is a terminal that is to be read as a file. -/
theorem exists_program {pending : List (List Char)} {lines : List (List UInt8)}
    (redirected : surroundings.input = .redirected pending lines) (path : String) :
    ∃ found pending lines, surroundings.program path = some (found, .redirected pending lines) := by
  unfold program read
  rw [redirected]
  rcases surroundings.contents path with _ | _ | _ <;> exact ⟨_, _, _, rfl⟩

end

end Surroundings

def Conclusion.transcript? : Conclusion → Option Transcript
  | .finished transcript => some transcript
  | _ => none

theorem Conclusion.transcript?_eq_some_iff {conclusion : Conclusion} {transcript : Transcript} :
    conclusion.transcript? = some transcript ↔ conclusion = .finished transcript := by
  cases conclusion <;> simp [transcript?]

section

variable {surroundings : Surroundings} {pending : List (List Char)} {lines : List (List UInt8)}
  {arguments : List String} {path : String} {options : RunOptions} {fuel : Nat}
  {transcript : Transcript} {outcome : Except Fault Unit} {final : Machine} {last : Streams}

theorem announce_of_minimal {console : Console} (minimal : console.minimal = true)
    (style : Style) (word text : String) : announce console style word text = console :=
  if_pos minimal

/-- Announcements go to the output and change nothing else. -/
theorem announce_frame (console : Console) (style : Style) (word text : String) :
    { announce console style word text with output := console.output } = console := by
  unfold announce
  split <;> rfl

/-- A request to run a program that is loaded is done when the run has ended. -/
theorem transcript?_run {memory : Memory} {input : Input} {answer : Option (Except Fault Unit)}
    (requested : Request.ofArguments surroundings.environment arguments =
      some (.run path options))
    (loaded : surroundings.program path = some (.ok memory, input))
    (resumed : (options.machine memory).resume Streams.channel fuel
      (surroundings.streams path options input) = ⟨answer, final, last⟩) :
    (perform surroundings fuel arguments).transcript? =
      answer.map (Launch.conclude ⟨path, final, last⟩) := by
  rw [surroundings.perform_run requested, loaded]
  dsimp only
  rw [Launch.finish, resumed]
  cases answer <;> rfl

/-- Streams at the start of a line need no line break at the end. -/
theorem conclude_settled (settled : last.Settled) (path : String)
    (final : Machine) (outcome : Except Fault Unit) :
    Launch.conclude ⟨path, final, last⟩ outcome =
      match outcome with
      | .error fault => .failure last.console (fault.report final.pc)
      | .ok () =>
        .success (announce (announce last.console .cyan "Halted"
          ("after " ++ numeral final.cycles ++ " cycles")) .green "Completed"
            ("target " ++ path)) := by
  unfold Launch.conclude
  rw [settled.running, Console.startNewLine, settled.lineStart]
  cases outcome <;> rfl

theorem Surroundings.settled_streams {input : Input} (surroundings : Surroundings) (path : String)
    (options : RunOptions) (redirected : ∃ pending lines, input = .redirected pending lines) :
    (surroundings.streams path options input).Settled := by
  refine ⟨redirected, ?_, rfl⟩
  have running := announce_frame (surroundings.opening path options) .green "Running"
    ("from address " ++ zeroPadded 3 options.start)
  have loading := announce_frame { surroundings.console with minimal := options.minimal } .green
    "Loading" ("target " ++ path)
  exact (congrArg Console.lineStart running).trans (congrArg Console.lineStart loading)

/-- A run that ends has printed the words that it wrote. -/
theorem exists_ends_of_settled {machine : Machine} {streams : Streams}
    (settled : streams.Settled) (active : machine.halted = false) (inside : machine.pc ≤ 999)
    (resumed : machine.resume Streams.channel fuel streams = ⟨some outcome, final, last⟩) :
    ∃ count, machine.Ends Streams.channel streams count outcome final last ∧
      streams.Prints (machine.written Streams.channel count streams) last := by
  obtain ⟨count, -, ends⟩ := Machine.exists_ends_of_resume active inside resumed
  have printed := settled.cycleEach machine count
  rw [ends.cycleEach.2] at printed
  exact ⟨count, ends, printed⟩

/-- A request to run a program on redirected input is over where loading fails or the run ends. -/
theorem finished_cases (redirected : surroundings.input = .redirected pending lines)
    (requested : Request.ofArguments surroundings.environment arguments =
      some (.run path options))
    (finished : perform surroundings fuel arguments = .finished transcript) :
    (∃ report input, surroundings.program path = some (.error report, input) ∧
        transcript = .failure (surroundings.opening path options) report) ∨
      ∃ memory input outcome final last,
        surroundings.program path = some (.ok memory, input) ∧
        (∃ pending lines, input = .redirected pending lines) ∧
        (options.machine memory).resume Streams.channel fuel
            (surroundings.streams path options input) = ⟨some outcome, final, last⟩ ∧
        transcript = Launch.conclude ⟨path, final, last⟩ outcome := by
  obtain ⟨found, pending, lines, loaded⟩ := surroundings.exists_program redirected path
  cases found with
  | error report =>
    rw [surroundings.perform_run requested, loaded] at finished
    cases finished
    exact .inl ⟨report, _, loaded, rfl⟩
  | ok memory =>
    rcases resumed : (options.machine memory).resume Streams.channel fuel
      (surroundings.streams path options (.redirected pending lines)) with ⟨answer, final, last⟩
    have left := transcript?_run requested loaded resumed
    rw [finished] at left
    obtain ⟨outcome, rfl, rfl⟩ := Option.map_eq_some_iff.mp left.symm
    exact .inr ⟨memory, _, outcome, final, last, loaded, ⟨pending, lines, rfl⟩, resumed, rfl⟩

private theorem conclude_exit (settled : last.Settled) (path : String) (final : Machine)
    (outcome : Except Fault Unit) :
    (Launch.conclude ⟨path, final, last⟩ outcome).exit = some 0 ↔ outcome = .ok () := by
  rw [conclude_settled settled]
  cases outcome with
  | error fault => simp [Transcript.failure]
  | ok => exact ⟨fun _ => rfl, fun _ => rfl⟩

/-- The exit code is zero if the program is loaded and halts within the budget, and only then. -/
theorem finished_well_iff (redirected : surroundings.input = .redirected pending lines)
    (requested : Request.ofArguments surroundings.environment arguments =
      some (.run path options))
    (finished : perform surroundings fuel arguments = .finished transcript) :
    transcript.exit = some 0 ↔ ∃ memory input count final last,
      surroundings.program path = some (.ok memory, input) ∧
      (options.machine memory).EndsAt Streams.channel (surroundings.streams path options input)
        count (.ok ()) final last ∧
      ∀ limit, options.maxCycles = some limit → count ≤ limit := by
  obtain ⟨report, input, loaded, rfl⟩ |
    ⟨memory, input, outcome, final, last, loaded, piped, resumed, rfl⟩ :=
      finished_cases redirected requested finished
  · simp [loaded, Transcript.failure]
  · have inside := Request.start_le_of_ofArguments requested
    obtain ⟨_, -, printed⟩ :=
      exists_ends_of_settled (surroundings.settled_streams path options piped) rfl inside resumed
    rw [conclude_exit printed.settled, Machine.ended_well_iff rfl inside resumed, loaded]
    constructor
    · intro ⟨count, final, last, ends, paid⟩
      refine ⟨memory, input, count, final, last, rfl, ends, ?_⟩
      intro limit budget
      exact (Nat.le_add_left count _).trans (paid limit budget)
    · intro ⟨_, _, count, final, last, same, ends, paid⟩
      cases same
      refine ⟨count, final, last, ends, ?_⟩
      intro limit budget
      rw [show (options.machine memory).cycles = 0 from rfl, Nat.zero_add]
      exact paid limit budget

end

end LittleMan.Command
