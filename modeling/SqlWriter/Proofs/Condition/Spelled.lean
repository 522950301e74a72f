import SqlWriter.Proofs.Condition.Mapped
import SqlWriter.Proofs.Value.Spelled

/-! Condition trees with other scalars in them are written alike if the scalars are. -/

namespace SqlWriter

/-- A change of scalars that makes no difference to how they are written and compared. -/
structure WritesAlike (change : Scalar → Scalar) : Prop where
  value (value : Scalar) : writeValue (change value) = writeValue value
  operator (value : Scalar) : comparisonOperator (change value) = comparisonOperator value

/-- Spelling out the integers and booleans is such a change. -/
theorem writesAlike_spelledOut : WritesAlike Scalar.spelledOut where
  -- A value and its spelled out form are written alike and compared alike.
  value := write_ofScalar_spelledOut true
  operator := comparisonOperator_spelledOut

namespace Condition

/-- A tree with the texts of its integers and booleans in their places. -/
def spelledOut (tree : Condition) : Condition :=
  tree.mapScalars Scalar.spelledOut

section change

variable {change : Scalar → Scalar}

/-- The entries of a group are written alike if each of them is. -/
theorem writeEntries_mapEntries {path : Option Text} {entries : List (Text × Condition)}
    (each : ∀ entry ∈ entries, writeEntry path entry.1 (entry.2.mapScalars change) =
      writeEntry path entry.1 entry.2) :
    writeEntries path (mapEntries change entries) = writeEntries path entries := by
  -- Each entry is written alike, so the parts are the same one by one.
  induction entries with
  | nil => rfl
  | cons entry rest ih =>
    obtain ⟨head, tail⟩ := List.forall_mem_cons.mp each
    simp only [mapEntries, writeEntries, head, ih tail]

/-- The groups in a list are written alike if their entries are. -/
theorem writeAlternatives_mapItems {items : List Condition}
    (each : ∀ entries, .group entries ∈ items → ∀ entry ∈ entries,
      writeEntry none entry.1 (entry.2.mapScalars change) = writeEntry none entry.1 entry.2) :
    writeAlternatives (mapItems change items) = writeAlternatives items := by
  induction items with
  | nil => rfl
  | cons item rest ih =>
    have tail := ih fun entries member => each entries (List.mem_cons_of_mem _ member)
    cases item with
    | scalar value => exact tail
    | list items => exact tail
    | group entries =>
      have own := writeEntries_mapEntries (each entries List.mem_cons_self)
      -- Several entries stand in parentheses, and the changed group has as many of them.
      simp only [mapItems, mapScalars, writeAlternatives, own, tail, length_mapEntries]

end change

end Condition

namespace WritesAlike

variable {change : Scalar → Scalar} (alike : WritesAlike change)
include alike

/-- A comparison is written alike. -/
theorem writeComparison_eq (field : Text) (value : Scalar) :
    writeComparison field (change value) = writeComparison field value := by
  -- A comparison shows the operator and the value only.
  rw [writeComparison, alike.operator, alike.value, writeComparison]

/-- A membership is written alike. -/
theorem writeMembership_eq (field : Text) (items : List Condition) :
    writeMembership field (Condition.mapItems change items) = writeMembership field items := by
  have scalars : Condition.scalarsOfEach (Condition.mapItems change items) =
      (Condition.scalarsOfEach items).map change :=
    Condition.scalarsOfEach_mapItems fun item _ => Condition.scalars_mapScalars item
  rw [writeMembership, scalars, writeMembership]
  -- There are as many scalars as before, so both are memberships or neither is.
  cases Condition.scalarsOfEach items with
  | nil => rfl
  | cons value rest => simp [alike.value, Function.comp_def]

/-- An entry is written alike, under every path and key. -/
theorem writeEntry_eq (tree : Condition) (path : Option Text) (key : Text) :
    Condition.writeEntry path key (tree.mapScalars change) =
      Condition.writeEntry path key tree := by
  -- The path grows on the way into a tree, so the induction is on the tree under every path.
  induction tree generalizing path key with
  | scalar value =>
    simp only [Condition.mapScalars, Condition.writeEntry, alike.writeComparison_eq]
  | list items _ groups =>
    -- Alternatives are groups, so the list asks about the entries of its items.
    have alternatives := Condition.writeAlternatives_mapItems
      fun entries member entry among => groups entries member entry among none entry.1
    simp only [Condition.mapScalars, Condition.writeEntry, alike.writeMembership_eq, alternatives,
      Condition.any_isGroup_mapItems]
  | group entries ih =>
    have own (path : Option Text) := Condition.writeEntries_mapEntries
      fun entry member => ih entry member path entry.1
    simp only [Condition.mapScalars, Condition.writeEntry, own]

/-- A whole tree is written alike. -/
theorem write?_eq (tree : Condition) : (tree.mapScalars change).write? = tree.write? := by
  -- Only a group is written, and its entries are written alike.
  cases tree with
  | scalar value => rfl
  | list items => rfl
  | group entries =>
    have own := Condition.writeEntries_mapEntries
      fun entry (_ : entry ∈ entries) => alike.writeEntry_eq entry.2 none entry.1
    simp only [Condition.mapScalars, Condition.write?, own]

end WritesAlike

/-- A tree is written like the one with its integers and booleans spelled out. -/
theorem Condition.write?_spelledOut (tree : Condition) : tree.spelledOut.write? = tree.write? :=
  -- The general law is applied to the scalars that are spelled out.
  writesAlike_spelledOut.write?_eq tree

end SqlWriter
