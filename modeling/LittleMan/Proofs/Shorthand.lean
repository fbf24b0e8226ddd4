import LittleMan.Proofs.TraceSwitch

/-! A path as the whole command line. It stands for a request to run the program with every option
at its default, and the environment is not asked whether to trace, as it is for the subcommand. -/

namespace LittleMan.Command

def Environment.without (environment : Environment) (name : String) : Environment where
  bindings := environment.bindings.filter fun binding => binding.1 ≠ name

theorem Environment.get?_without (environment : Environment) (name other : String) :
    (environment.without name).get? other =
      if other = name then none else environment.get? other := by
  unfold get? without
  induction environment.bindings with
  | nil => simp
  | cons binding rest ih =>
    obtain ⟨bound, value⟩ := binding
    by_cases dropped : bound = name
    · rw [List.filter_cons_of_neg (by simpa using dropped), ih]
      split
      · rfl
      next kept =>
        have apart : (other == bound) = false := by
          rw [dropped]
          exact beq_eq_false_iff_ne.mpr kept
        rw [List.lookup_cons, apart]
    · rw [List.filter_cons_of_pos (by simpa using dropped), List.lookup_cons, List.lookup_cons, ih]
      by_cases found : other = bound
      · subst found
        simp [dropped]
      · rw [beq_eq_false_iff_ne.mpr found]

structure NamesFile (path : String) : Prop where
  present : path ≠ ""
  plain : path.toList.head? ≠ some '-'
  free : path ∉ ["run", "check", "help"]

section

variable {surroundings other : Surroundings} {environment : Environment} {path : String}

theorem NamesFile.ofArguments_alone (names : NamesFile path) (environment : Environment) :
    Request.ofArguments environment [path] = some (.run path {}) := by
  obtain ⟨unrun, uncheck, unhelp⟩ : path ≠ "run" ∧ path ≠ "check" ∧ path ≠ "help" := by
    simpa using names.free
  simp [Request.ofArguments, Request.ofArgumentsAfter, argument_of_head names.plain,
    Request.withPath, names.present]

theorem NamesFile.foldlM_runArgument (names : NamesFile path) {draft : Draft}
    (options : draft.literal = false) (settled : draft.awaiting = none)
    (unnamed : draft.path = none) :
    [path].foldlM Draft.runArgument draft = .ok { draft with path := some path } := by
  simp [Draft.runArgument, options, settled, unnamed, argument_of_head names.plain, Draft.addPath,
    names.present]

theorem NamesFile.ofArguments_run (names : NamesFile path) (environment : Environment) :
    Request.ofArguments environment ["run", path] =
      environment.tracing.map fun trace => .run path { trace } := by
  have drafted : [path].foldlM Draft.runArgument {} = .ok { path := some path } :=
    names.foldlM_runArgument rfl rfl rfl
  have subcommand : Request.ofArguments environment ["run", path] =
      Request.ofRunArguments environment [path] := rfl
  rw [subcommand, Request.ofRunArguments, drafted]
  cases asked : environment.tracing <;> simp [Draft.options, asked]

theorem NamesFile.ofArguments_traced (names : NamesFile path) (environment : Environment) :
    Request.ofArguments environment ["run", "--trace", path] =
      some (.run path { trace := true }) := by
  have drafted : ["--trace", path].foldlM Draft.runArgument {} =
      .ok { trace := true, path := some path } :=
    names.foldlM_runArgument rfl rfl rfl
  have subcommand : Request.ofArguments environment ["run", "--trace", path] =
      Request.ofRunArguments environment ["--trace", path] := rfl
  rw [subcommand, Request.ofRunArguments, drafted]
  rfl

private theorem launch_without (surroundings : Surroundings) (path : String)
    (options : RunOptions) :
    ({ surroundings with environment := surroundings.environment.without "LMC_TRACE" } :
      Surroundings).launch path options = surroundings.launch path options := by
  have colours : ({ surroundings with
      environment := surroundings.environment.without "LMC_TRACE" } : Surroundings).console =
        surroundings.console := by
    simp [Surroundings.console, Environment.usesColour, Environment.get?_without]
  unfold Surroundings.launch
  rw [colours]
  rfl

/-- A path alone does what the subcommand does where nothing is said about the trace. That the
environment asks for one makes no difference to it, and to the subcommand only in the trace, unless
what it says is not understood. -/
theorem path_alone_ignores_trace_setting (names : NamesFile path) (surroundings : Surroundings)
    (fuel : Nat) :
    perform surroundings fuel [path] =
        perform { surroundings with
          environment := surroundings.environment.without "LMC_TRACE" } fuel ["run", path] ∧
      match surroundings.environment.tracing with
      | some false => perform surroundings fuel ["run", path] = perform surroundings fuel [path]
      | some true =>
        perform surroundings fuel ["run", path] =
            perform surroundings fuel ["run", "--trace", path] ∧
          ∀ bytes transcript, surroundings.input = .ofBytes bytes →
            perform surroundings fuel [path] = .finished transcript →
            ∃ also, perform surroundings fuel ["run", path] = .finished also ∧
              also.untraced = transcript.untraced
      | none => perform surroundings fuel ["run", path] = .usageError := by
  have alone := names.ofArguments_alone surroundings.environment
  have subcommand := names.ofArguments_run surroundings.environment
  refine ⟨?_, ?_⟩
  · have unset : (surroundings.environment.without "LMC_TRACE").tracing = some false := by
      rw [Environment.tracing, Environment.get?_without, if_pos rfl]
    have again := names.ofArguments_run (surroundings.environment.without "LMC_TRACE")
    rw [unset] at again
    rw [perform, alone, perform, again]
    dsimp only [Option.map_some]
    rw [launch_without]
  · split
    next asked =>
      rw [asked] at subcommand
      rw [perform, subcommand, perform, alone]
      rfl
    next asked =>
      rw [asked] at subcommand
      refine ⟨?_, ?_⟩
      · rw [perform, subcommand, perform, names.ofArguments_traced]
        rfl
      · intro bytes transcript redirected finished
        exact finished_withTrace redirected alone finished rfl rfl rfl (.inr rfl) subcommand
    next asked =>
      rw [asked] at subcommand
      rw [perform, subcommand]
      rfl

end

/-- A program that halts at once, with the trace switched on by the environment. -/
theorem path_alone_ignores_trace_setting_of_one :
    let surroundings : Surroundings :=
      { contents := fun _ => .ok (.own (Text.encode "0\n".toList))
        environment := { bindings := [("LMC_TRACE", "1")] }
        input := .ofBytes [] }
    NamesFile "p" ∧ ∃ transcript also, perform surroundings 1 ["p"] = .finished transcript ∧
      perform surroundings 1 ["run", "p"] = .finished also ∧
      also.untraced = transcript.untraced ∧ transcript.exit = some 0 := by
  intro surroundings
  have names : NamesFile "p" := ⟨by decide, by decide, by decide⟩
  have left : (perform surroundings 1 ["p"]).transcript?.map (fun transcript => transcript.exit) =
      some (some 0) := by decide +kernel
  obtain ⟨transcript, ended, exit⟩ := Option.map_eq_some_iff.mp left
  have finished := Conclusion.transcript?_eq_some_iff.mp ended
  obtain ⟨-, -, switched⟩ := path_alone_ignores_trace_setting names surroundings 1
  obtain ⟨also, again, same⟩ := switched [] transcript rfl finished
  exact ⟨names, transcript, also, finished, again, same, exit⟩

/-- The environment asks for a trace, and only the subcommand gives one. -/
theorem path_alone_gives_no_trace :
    let surroundings : Surroundings :=
      { contents := fun _ => .ok (.own (Text.encode "0\n".toList))
        environment := { bindings := [("LMC_TRACE", "1")] }
        input := .ofBytes [] }
    let trace (arguments : List String) :=
      (perform surroundings 1 arguments).transcript?.map fun transcript => transcript.console.trace
    NamesFile "p" ∧ trace ["p"] = some "" ∧
      trace ["run", "p"] = some "\x1b[2m000\x1b[0m  000  HLT     A 000  B 000  ---\n" := by
  intro surroundings trace
  exact ⟨⟨by decide, by decide, by decide⟩, by decide +kernel, by decide +kernel⟩

end LittleMan.Command
