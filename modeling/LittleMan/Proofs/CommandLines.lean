import LittleMan.Command.Line

/-! Command lines that ask to run a program start it at an address. -/

namespace LittleMan.Command

namespace Draft

def StartsInside (draft : Draft) : Prop := ∀ start, draft.start = some start → start ≤ 999

section

variable {draft next : Draft}

theorem StartsInside.of_start_eq (inside : draft.StartsInside) (same : next.start = draft.start) :
    next.StartsInside := by
  intro start given
  exact inside start (same.symm.trans given)

theorem StartsInside.of_guarded {condition : Prop} [Decidable condition] {changed : Draft}
    {reason : Interruption} (inside : draft.StartsInside)
    (added : (if condition then .error reason else .ok changed) = Except.ok next)
    (same : changed.start = draft.start) : next.StartsInside := by
  split at added
  · cases added
  · cases added
    exact inside.of_start_eq same

theorem StartsInside.addPath {path : String} (inside : draft.StartsInside)
    (added : draft.addPath path = .ok next) : next.StartsInside :=
  inside.of_guarded added rfl

theorem StartsInside.setMinimal (inside : draft.StartsInside)
    (added : draft.setMinimal = .ok next) : next.StartsInside :=
  inside.of_guarded added rfl

theorem StartsInside.setTrace (inside : draft.StartsInside)
    (added : draft.setTrace = .ok next) : next.StartsInside :=
  inside.of_guarded added rfl

theorem StartsInside.assign {setting : Setting} {value : List Char} (inside : draft.StartsInside)
    (added : draft.assign setting value = .ok next) : next.StartsInside := by
  cases setting with
  | start =>
    simp only [Draft.assign] at added
    split at added
    · split at added
      next bounds =>
        cases added
        intro start given
        cases given
        omega
      · cases added
    · cases added
  | maxCycles =>
    simp only [Draft.assign] at added
    split at added
    · cases added
      exact inside.of_start_eq rfl
    · cases added

theorem StartsInside.option {setting : Setting} {value : Option (List Char)}
    (inside : draft.StartsInside) (added : draft.option setting value = .ok next) :
    next.StartsInside := by
  cases value with
  | none =>
    cases added
    exact inside.of_start_eq rfl
  | some value => exact inside.assign added

private theorem exists_of_bind {attempt : Except Interruption Draft}
    {others : Draft → Except Interruption Draft} (added : attempt.bind others = .ok next) :
    ∃ middle, attempt = .ok middle ∧ others middle = .ok next := by
  cases attempt with
  | error => cases added
  | ok middle => exact ⟨middle, rfl, added⟩

theorem StartsInside.letters {letters : List Char} (inside : draft.StartsInside)
    (added : draft.letters letters = .ok next) : next.StartsInside := by
  fun_induction Draft.letters draft letters with
  | case1 draft =>
    cases added
    exact inside
  | case2 => cases added
  | case3 draft rest ih =>
    obtain ⟨middle, set, others⟩ := exists_of_bind added
    exact ih middle (inside.setMinimal set) others
  | case4 draft rest ih =>
    obtain ⟨middle, set, others⟩ := exists_of_bind added
    exact ih middle (inside.setTrace set) others
  | case5 => exact inside.option added
  | case6 => exact inside.option added
  | case7 => exact inside.option added
  | case8 => cases added

theorem StartsInside.runArgument {argument : String} (inside : draft.StartsInside)
    (added : draft.runArgument argument = .ok next) : next.StartsInside := by
  unfold Draft.runArgument at added
  split at added
  · exact inside.addPath added
  · split at added
    · have cleared : ({ draft with awaiting := none } : Draft).StartsInside :=
        inside.of_start_eq rfl
      exact cleared.assign added
    · cases added
    · exact inside.addPath added
    · cases added
      exact inside.of_start_eq rfl
    · exact inside.letters added
    · split at added
      · cases added
      · exact inside.setMinimal added
      · exact inside.setTrace added
      · exact inside.option added
      · exact inside.option added
      · cases added

theorem StartsInside.foldlM_runArgument {arguments : List String} (inside : draft.StartsInside)
    (added : arguments.foldlM Draft.runArgument draft = .ok next) : next.StartsInside := by
  induction arguments generalizing draft with
  | nil =>
    cases added
    exact inside
  | cons argument rest ih =>
    obtain ⟨middle, step, others⟩ := exists_of_bind added
    exact ih (inside.runArgument step) others

theorem StartsInside.options {environment : Environment} {options : RunOptions}
    (inside : draft.StartsInside) (taken : draft.options environment = some options) :
    options.start ≤ 999 := by
  unfold Draft.options at taken
  split at taken
  · cases taken
  · obtain ⟨trace, -, rfl⟩ := Option.map_eq_some_iff.mp taken
    cases given : draft.start with
    | none => exact Nat.zero_le 999
    | some start => exact inside start given

end

end Draft

namespace Request

variable {environment : Environment} {path : String} {options : RunOptions}

private theorem start_le_of_ofRunArguments {arguments : List String}
    (requested : ofRunArguments environment arguments = some (.run path options)) :
    options.start ≤ 999 := by
  unfold ofRunArguments at requested
  split at requested
  · cases requested
  · cases requested
  next draft added =>
    split at requested
    next taken =>
      cases requested
      have inside : Draft.StartsInside {} := fun _ none => (by cases none)
      exact (inside.foldlM_runArgument added).options taken
    · cases requested

private theorem ofCheckArguments_ne_run {arguments : List String} :
    ofCheckArguments arguments ≠ some (.run path options) := by
  unfold ofCheckArguments
  split
  · simp
  · simp
  · simp

private theorem ofHelpArguments_ne_run {arguments : List String} :
    ofHelpArguments arguments ≠ some (.run path options) := by
  unfold ofHelpArguments
  split
  · simp
  · split <;> simp
  · simp

private theorem start_le_of_ofArgumentsAfter {front : Option String} {literal : Bool}
    {arguments : List String}
    (requested : ofArgumentsAfter environment front literal arguments = some (.run path options)) :
    options.start ≤ 999 := by
  fun_induction ofArgumentsAfter environment front literal arguments with
  | case2 =>
    cases requested
    exact Nat.zero_le 999
  | case3 front argument rest ih =>
    obtain ⟨named, -, others⟩ := Option.bind_eq_some_iff.mp requested
    exact ih named others
  | case4 => exact start_le_of_ofRunArguments requested
  | case5 => exact absurd requested ofCheckArguments_ne_run
  | case6 => exact absurd requested ofHelpArguments_ne_run
  | case7 front literal argument rest plain text unrun uncheck unhelp same ih =>
    obtain ⟨named, -, others⟩ := Option.bind_eq_some_iff.mp requested
    exact ih named others
  | case8 front literal argument rest plain same ih => exact ih requested
  | case1 | case9 | case10 | case11 | case12 | case13 | case14 => cases requested

theorem start_le_of_ofArguments {arguments : List String}
    (requested : ofArguments environment arguments = some (.run path options)) :
    options.start ≤ 999 :=
  start_le_of_ofArgumentsAfter requested

end Request

/-- What does not begin with a dash is no option. -/
theorem argument_of_head {text : String} (plain : text.toList.head? ≠ some '-') :
    Argument.of text = .plain text := by
  unfold Argument.of
  split
  next same => simp [same] at plain
  next same => simp [same] at plain
  next same => simp [same] at plain
  next => rfl

end LittleMan.Command
