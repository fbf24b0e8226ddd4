/-! Two ways to cut a list: into the maximal runs that avoid its separators, and
into pieces that each keep the element that ends them. -/

namespace LittleMan.Text

/-- The maximal runs of elements that do not separate, in order. No run is empty. -/
def runs {α : Type} (separates : α → Bool) (items : List α) : List (List α) :=
  (items.splitOnP separates).filter (fun run => !run.isEmpty)

/-- Puts an element in front of the first piece. -/
def extendFirst {α : Type} (item : α) : List (List α) → List (List α)
  | [] => [[item]]
  | piece :: others => (item :: piece) :: others

/-- Cuts a list after each element that ends a piece. The last piece may lack one. -/
def pieces {α : Type} (ends : α → Bool) : List α → List (List α)
  | [] => []
  | item :: rest =>
    if ends item then [item] :: pieces ends rest
    else extendFirst item (pieces ends rest)

theorem flatten_extendFirst {α : Type} (item : α) (lists : List (List α)) :
    (extendFirst item lists).flatten = item :: lists.flatten := by
  cases lists <;> simp [extendFirst]

/-- The pieces join to the whole list. -/
theorem flatten_pieces {α : Type} (ends : α → Bool) (items : List α) :
    (pieces ends items).flatten = items := by
  induction items with
  | nil => rfl
  | cons item rest ih =>
    rw [pieces]
    split <;> simp [flatten_extendFirst, ih]

/-- A separator between two lists keeps their runs apart. -/
theorem runs_append_cons {α : Type} {separates : α → Bool} {separator : α}
    (separated : separates separator = true) (first second : List α) :
    runs separates (first ++ separator :: second) =
      runs separates first ++ runs separates second := by
  simp [runs, List.splitOnP_append_cons first second separated]

end LittleMan.Text
