import SqlWriter.Condition

/-! Condition trees with other scalars in them, which keep their shape. -/

namespace SqlWriter

namespace Condition

mutual

/-- A tree with another scalar in the place of each of its own. -/
def mapScalars (change : Scalar → Scalar) : Condition → Condition
  | .scalar value => .scalar (change value)
  | .list items => .list (mapItems change items)
  | .group entries => .group (mapEntries change entries)

/-- The items of a list, each with other scalars in it. -/
def mapItems (change : Scalar → Scalar) : List Condition → List Condition
  | [] => []
  | item :: rest => item.mapScalars change :: mapItems change rest

/-- The entries of a group, each with other scalars in its tree. -/
def mapEntries (change : Scalar → Scalar) : List (Text × Condition) → List (Text × Condition)
  | [] => []
  | (key, condition) :: rest => (key, condition.mapScalars change) :: mapEntries change rest

end

section change

variable {change : Scalar → Scalar}

/-- A changed list has a group in it if the list has one. -/
theorem any_isGroup_mapItems (items : List Condition) :
    (mapItems change items).any isGroup = items.any isGroup := by
  -- Changing scalars makes no item a group, and leaves no group as something else.
  induction items with
  | nil => rfl
  | cons item rest ih =>
    simp only [mapItems, List.any_cons, ih]
    cases item <;> rfl

/-- A changed group has as many entries as the group. -/
theorem length_mapEntries (entries : List (Text × Condition)) :
    (mapEntries change entries).length = entries.length := by
  -- Each entry stays one entry.
  induction entries with
  | nil => rfl
  | cons entry rest ih => simp [mapEntries, ih]

/-- The scalars of the items of a changed list are the changed scalars, if this holds of each. -/
theorem scalarsOfEach_mapItems {items : List Condition}
    (each : ∀ item ∈ items, (item.mapScalars change).scalars = item.scalars.map change) :
    scalarsOfEach (mapItems change items) = (scalarsOfEach items).map change := by
  -- The scalars of the items are changed item by item.
  induction items with
  | nil => rfl
  | cons item rest ih =>
    obtain ⟨head, tail⟩ := List.forall_mem_cons.mp each
    simp only [mapItems, scalarsOfEach, head, ih tail, List.map_append]

/-- The scalars of a changed tree are the changed scalars of the tree. -/
theorem scalars_mapScalars (tree : Condition) :
    (tree.mapScalars change).scalars = tree.scalars.map change := by
  -- A change goes through lists, and it keeps groups apart from what they hold.
  induction tree with
  | scalar value => rfl
  | list items each _ => simpa [mapScalars, scalars] using scalarsOfEach_mapItems each
  | group entries _ => rfl

end change

end Condition

end SqlWriter
