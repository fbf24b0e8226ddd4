import LittleMan.Proofs.MinimalRuns

/-! Decoration. Requests that are not minimal announce what they do and dim what they trace. Without
the announcements and the escape sequences, what they leave is what minimal ones leave. -/

namespace LittleMan.Command

open Text (numeral rightAligned visible zeroPadded)

def progressLine (word text : String) : String := rightAligned 12 word ++ " " ++ text ++ "\n"

def heading (path : String) (options : RunOptions) : String :=
  progressLine "Loading" ("target " ++ path) ++
    progressLine "Running" ("from address " ++ zeroPadded 3 options.start)

def ending (path : String) (count : Nat) (outcome : Except Fault Unit) : String :=
  match outcome with
  | .ok () =>
    progressLine "Halted" ("after " ++ numeral count ++ " cycles") ++
      progressLine "Completed" ("target " ++ path)
  | .error _ => ""

structure Decorates (surroundings : Surroundings) (path : String) (options : RunOptions)
    (full short : Transcript) : Prop where
  exit : full.exit = short.exit
  report : full.report = short.report
  trace : String.ofList (visible full.console.trace.toList) = short.console.trace
  unloaded : ∀ report input, surroundings.program path = some (.error report, input) →
    full.console.output = progressLine "Loading" ("target " ++ path) ++ short.console.output
  loaded : ∀ memory input, surroundings.program path = some (.ok memory, input) →
    ∃ count outcome final last,
      (options.machine memory).Ends Streams.channel (surroundings.streams path options input)
        count outcome final last ∧
      full.console.output =
        heading path options ++ short.console.output ++ ending path count outcome

section

variable {surroundings : Surroundings} {path : String} {options : RunOptions} {fuel : Nat}
  {console : Console}

private theorem console_of_unforced (piped : surroundings.outputTerminal = false)
    (unforced : ∀ value, surroundings.environment.get? "CLICOLOR_FORCE" = some value → value = "0") :
    surroundings.console = {} := by
  have off : (surroundings.environment.get? "CLICOLOR_FORCE").any (· ≠ "0") = false := by
    cases set : surroundings.environment.get? "CLICOLOR_FORCE" with
    | none => rfl
    | some value => simp [unforced value set]
  rw [Surroundings.console, Environment.usesColour, off, piped, Bool.false_and]
  simp

private theorem announce_uncoloured (decorated : console.minimal = false)
    (uncoloured : console.coloured = false) (style : Text.Style) (word text : String) :
    announce console style word text =
      { console with output := console.output ++ progressLine word text } := by
  simp only [announce, decorated, uncoloured, Console.append, progressLine, Bool.false_eq_true,
    if_false]

private theorem opening_decorated (plain : surroundings.console = {})
    (decorated : options.minimal = false) :
    surroundings.opening path options =
      { output := progressLine "Loading" ("target " ++ path) } := by
  rw [Surroundings.opening, plain, decorated]
  rfl

private theorem streams_decorated (plain : surroundings.console = {})
    (decorated : options.minimal = false) (input : Input) :
    (surroundings.streams path options input).console = { output := heading path options } := by
  rw [Surroundings.streams, opening_decorated plain decorated]
  rfl

private theorem abreast_streams {input : Input} (plain : surroundings.console = {})
    (decorated : options.minimal = false)
    (redirected : ∃ pending lines, input = .redirected pending lines) :
    Streams.Abreast (heading path options) Streams.Undecorated
      (surroundings.streams path { options with minimal := true } input)
      (surroundings.streams path options input) := by
  have bare : (surroundings.streams path { options with minimal := true } input).console =
      { minimal := true } := by
    rw [streams_of_minimal rfl, plain]
  refine ⟨surroundings.settled_streams path _ redirected,
    surroundings.settled_streams path options redirected, rfl, rfl, ?_, ?_⟩
  · rw [streams_decorated plain decorated, bare]
    exact String.append_empty.symm
  · rw [streams_decorated plain decorated, bare]
    exact ⟨rfl, rfl, rfl, fun rest => rfl⟩

private theorem conclude_decorates {lead : String} {last heard : Streams}
    (abreast : Streams.Abreast lead Streams.Undecorated last heard) (path : String)
    (final : Machine) (outcome : Except Fault Unit) :
    let full := Launch.conclude ⟨path, final, heard⟩ outcome
    let short := Launch.conclude ⟨path, final, last⟩ outcome
    full.exit = short.exit ∧ full.report = short.report ∧
      String.ofList (visible full.console.trace.toList) = short.console.trace ∧
      full.console.output = lead ++ short.console.output ++ ending path final.cycles outcome := by
  have traced : String.ofList (visible heard.console.trace.toList) = last.console.trace := by
    have same := abreast.traces.trace []
    rw [List.append_nil] at same
    rw [same]
    exact (congrArg _ (List.append_nil _)).trans (String.ofList_toList)
  obtain ⟨minimal, decorated, uncoloured, -⟩ := abreast.traces
  rw [conclude_settled abreast.settled, conclude_settled abreast.alsoSettled]
  cases outcome with
  | error fault =>
    refine ⟨rfl, rfl, traced, ?_⟩
    rw [ending, String.append_empty]
    exact abreast.output
  | ok =>
    dsimp only
    rw [announce_of_minimal minimal, announce_of_minimal minimal,
      announce_uncoloured decorated uncoloured, announce_uncoloured]
    · refine ⟨rfl, rfl, traced, ?_⟩
      simp only [Transcript.success, ending, abreast.output, String.append_assoc]
    · exact decorated
    · exact uncoloured

/-- A request and its minimal counterpart end together, if they end, and differ in the announcements
and in the escape sequences only. -/
theorem minimal_removes_decoration {bytes : List UInt8} {arguments others : List String}
    (redirected : surroundings.input = .ofBytes bytes)
    (piped : surroundings.outputTerminal = false)
    (unforced : ∀ value, surroundings.environment.get? "CLICOLOR_FORCE" = some value → value = "0")
    (requested : Request.ofArguments surroundings.environment arguments =
      some (.run path options))
    (decorated : options.minimal = false)
    (bare : Request.ofArguments surroundings.environment others =
      some (.run path { options with minimal := true })) (fuel : Nat) :
    Option.Rel (Decorates surroundings path options)
      (perform surroundings fuel arguments).transcript?
      (perform surroundings fuel others).transcript? := by
  have plain := console_of_unforced piped unforced
  obtain ⟨found, pending, lines, loaded⟩ := surroundings.exists_program redirected path
  cases found with
  | error report =>
    rw [surroundings.perform_run requested, surroundings.perform_run bare, loaded]
    apply Option.Rel.some
    rw [opening_decorated plain decorated, opening_of_minimal rfl, plain]
    refine ⟨rfl, rfl, rfl, ?_, ?_⟩
    · intro _ _ _
      exact String.append_empty.symm
    · intro memory input same
      cases loaded.symm.trans same
  | ok memory =>
    have start : Streams.Abreast (heading path options) Streams.Undecorated
        (surroundings.streams path { options with minimal := true } (.redirected pending lines))
        (surroundings.streams path options (.redirected pending lines)) :=
      abreast_streams plain decorated ⟨pending, lines, rfl⟩
    obtain ⟨answer, final, last, heard, one, two, ended⟩ :=
      ((Streams.mirrors_undecorated _).resume start (options.machine memory) fuel).exists_eq
    rw [transcript?_run requested loaded two, transcript?_run bare loaded one]
    cases answer with
    | none => exact .none
    | some outcome =>
      obtain ⟨count, ends, -⟩ := exists_ends_of_settled start.alsoSettled rfl
        (Request.start_le_of_ofArguments requested) two
      obtain ⟨exit, report, trace, output⟩ := conclude_decorates ended path final outcome
      refine .some ⟨exit, report, trace, ?_, ?_⟩
      · intro report input same
        cases loaded.symm.trans same
      · intro memory input same
        cases loaded.symm.trans same
        refine ⟨count, outcome, final, heard, ends, ?_⟩
        cases outcome with
        | error => exact output
        | ok =>
          have counted : final.cycles = count := ends.cycles_of_ok.trans (Nat.zero_add count)
          rwa [counted] at output

end

/-- One word is read and printed, and the run is traced. -/
theorem minimal_removes_decoration_of_traced_run :
    let surroundings : Surroundings :=
      { contents := fun _ => .ok (.own (Text.encode "901\n902\n0\n".toList))
        input := .ofBytes (Text.encode "7\n".toList) }
    let options : RunOptions := { trace := true }
    let full := (perform surroundings 9 ["run", "p", "-t"]).transcript?
    let short := (perform surroundings 9 ["run", "p", "-tm"]).transcript?
    Option.Rel (Decorates surroundings "p" options) full short ∧
      full.map (fun transcript => transcript.console.output) =
        some (heading "p" options ++ "7\n" ++ ending "p" 3 (.ok ())) ∧
      short.map (fun transcript => transcript.console.output) = some "7\n" := by
  intro surroundings options full short
  have requested : Request.ofArguments surroundings.environment ["run", "p", "-t"] =
      some (.run "p" options) := by decide +kernel
  have bare : Request.ofArguments surroundings.environment ["run", "p", "-tm"] =
      some (.run "p" { options with minimal := true }) := by decide +kernel
  refine ⟨minimal_removes_decoration rfl rfl ?_ requested rfl bare 9, by decide +kernel,
    by decide +kernel⟩
  intro value set
  cases set

end LittleMan.Command
