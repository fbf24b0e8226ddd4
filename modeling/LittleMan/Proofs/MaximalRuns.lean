import LittleMan.Text.Runs

/-! Maximal runs as a relation between a list and its runs. What is left over between the
runs separates, and no run can be made longer, so a list has its runs in one way only. -/

namespace LittleMan.Text

/-- A list falls into separators and maximal runs without any. -/
inductive FallsInto {α : Type} (separates : α → Prop) : List α → List (List α) → Prop where
  | nil : FallsInto separates [] []
  | separator {item : α} {rest : List α} {found : List (List α)} (apart : separates item)
      (others : FallsInto separates rest found) : FallsInto separates (item :: rest) found
  | run {run rest : List α} {found : List (List α)} (present : run ≠ [])
      (solid : ∀ item ∈ run, ¬separates item) (ended : ∀ item ∈ rest.head?, separates item)
      (others : FallsInto separates rest found) :
      FallsInto separates (run ++ rest) (run :: found)

section

variable {α β : Type} {separates : α → Bool} {items : List α} {found : List (List α)}

theorem runs_nil : runs separates [] = [] := rfl

theorem runs_cons_separator {item : α} (apart : separates item = true) (rest : List α) :
    runs separates (item :: rest) = runs separates rest :=
  runs_append_cons apart [] rest

theorem runs_solid {run : List α} (present : run ≠ [])
    (solid : ∀ item ∈ run, separates item = false) : runs separates run = [run] := by
  simp [runs, List.splitOnP_eq_singleton solid, present]

theorem runs_solid_append {run rest : List α} (present : run ≠ [])
    (solid : ∀ item ∈ run, separates item = false)
    (ended : ∀ item ∈ rest.head?, separates item = true) :
    runs separates (run ++ rest) = run :: runs separates rest := by
  cases rest with
  | nil => rw [List.append_nil, runs_solid present solid, runs_nil]
  | cons item rest =>
    have apart : separates item = true := ended item rfl
    rw [runs_append_cons apart, runs_solid present solid, runs_cons_separator apart]
    rfl

theorem runs_separators (apart : ∀ item ∈ items, separates item = true) :
    runs separates items = [] := by
  induction items with
  | nil => rfl
  | cons item rest ih =>
    obtain ⟨first, others⟩ := List.forall_mem_cons.mp apart
    rw [runs_cons_separator first, ih others]

theorem runs_append_separators (items : List α) {ending : List α}
    (apart : ∀ item ∈ ending, separates item = true) :
    runs separates (items ++ ending) = runs separates items := by
  cases ending with
  | nil => rw [List.append_nil]
  | cons item ending =>
    obtain ⟨first, others⟩ := List.forall_mem_cons.mp apart
    rw [runs_append_cons first, runs_separators others, List.append_nil]

/-- A run that stands alone among others. -/
theorem runs_append_solid {before run after : List α} (present : run ≠ [])
    (solid : ∀ item ∈ run, separates item = false)
    (opened : ∀ item ∈ before.getLast?, separates item = true)
    (ended : ∀ item ∈ after.head?, separates item = true) :
    runs separates (before ++ (run ++ after)) =
      runs separates before ++ run :: runs separates after := by
  have alone := runs_solid_append present solid ended
  rcases List.eq_nil_or_concat before with rfl | ⟨earlier, last, rfl⟩
  · rw [List.nil_append, alone, runs_nil, List.nil_append]
  · have apart : separates last = true := opened last (by simp)
    have closed : runs separates (earlier ++ [last]) = runs separates earlier :=
      runs_append_separators earlier (by simpa using apart)
    rw [List.concat_eq_append, List.append_assoc, List.singleton_append, runs_append_cons apart,
      alone, closed]

theorem FallsInto.runs_eq (falls : FallsInto (fun item => separates item = true) items found) :
    runs separates items = found := by
  induction falls with
  | nil => rfl
  | separator apart _ ih => rw [runs_cons_separator apart, ih]
  | run present solid ended _ ih =>
    have solid := fun item inside => Bool.not_eq_true _ ▸ solid item inside
    rw [runs_solid_append present solid ended, ih]

/-- An element in front of a list begins a run, or makes the first one longer. -/
theorem FallsInto.exists_cons {separates : α → Prop} {item : α} {rest : List α}
    (joins : ¬separates item) (falls : FallsInto separates rest found) :
    ∃ more, FallsInto separates (item :: rest) more := by
  have alone : ∀ other ∈ [item], ¬separates other := by
    intro other member
    rwa [List.mem_singleton.mp member]
  cases falls with
  | nil => exact ⟨[[item]], .run (List.cons_ne_nil _ _) alone (by simp) .nil⟩
  | @separator next rest found apart others =>
    exact ⟨[item] :: found, .run (List.cons_ne_nil _ _) alone (by simpa using apart)
      (.separator apart others)⟩
  | @run run rest found present solid ended others =>
    refine ⟨(item :: run) :: found, ?_⟩
    rw [← List.cons_append]
    refine .run (List.cons_ne_nil _ _) ?_ ended others
    intro other member
    rcases List.mem_cons.mp member with rfl | inside
    · exact joins
    · exact solid other inside

private theorem exists_fallsInto (separates : α → Prop) (items : List α) :
    ∃ found, FallsInto separates items found := by
  induction items with
  | nil => exact ⟨[], .nil⟩
  | cons item rest ih =>
    obtain ⟨found, falls⟩ := ih
    by_cases apart : separates item
    · exact ⟨found, .separator apart falls⟩
    · exact falls.exists_cons apart

/-- The runs of a list are the maximal ones. -/
theorem runs_eq_iff :
    runs separates items = found ↔ FallsInto (fun item => separates item = true) items found := by
  constructor
  · rintro rfl
    obtain ⟨found, falls⟩ := exists_fallsInto (fun item => separates item = true) items
    rwa [falls.runs_eq]
  · exact FallsInto.runs_eq

theorem FallsInto.map {separates : β → Prop} (f : α → β)
    (falls : FallsInto (fun item => separates (f item)) items found) :
    FallsInto separates (items.map f) (found.map (List.map f)) := by
  induction falls with
  | nil => exact .nil
  | separator apart _ ih => exact .separator apart ih
  | run present solid ended _ ih =>
    rw [List.map_append, List.map_cons]
    refine .run (by simpa using present) ?_ ?_ ih
    · intro item inside
      obtain ⟨original, member, rfl⟩ := List.mem_map.mp inside
      exact solid original member
    · intro item first
      rw [List.head?_map] at first
      obtain ⟨original, member, rfl⟩ := Option.map_eq_some_iff.mp first
      exact ended original member

end

end LittleMan.Text
