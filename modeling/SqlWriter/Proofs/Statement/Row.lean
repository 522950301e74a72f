import SqlWriter.Proofs.Text.Joined
import SqlWriter.Statement.Change

/-! One row in the statements that write it: its columns and its values, in pairs and apart. -/

namespace SqlWriter

/--
The columns of a row with the values under them as they are written, in the order of the fields.

An undefined field is null, unless undefined fields are left out.
-/
def Record.cells (row : Record) (ignoreUndefined : Bool) : List (Text × Text) :=
  row.fields.flatMap fun (key, value) =>
    match value with
    | some value => [(fieldKey key, writeValue value)]
    | none => if ignoreUndefined then [] else [(fieldKey key, "NULL".toList)]

/-- A column with its value behind a sign. -/
def assignment (column value : Text) : Text :=
  column ++ " = ".toList ++ value

section row

variable (row : Record) (ignoreUndefined : Bool)

/-- The fields with a column and a value are those that are written. -/
theorem Record.cells_eq :
    row.cells ignoreUndefined = (row.written ignoreUndefined).map fun field =>
      (fieldKey field.1, fieldValue field.2) := by
  -- The loop and the filter drop the same fields, one at a time.
  unfold Record.cells Record.written
  induction row.fields with
  | nil => rfl
  | cons field rest ih =>
    obtain ⟨key, value⟩ := field
    rw [List.flatMap_cons, ih]
    cases value with
    | some value => rfl
    | none => cases ignoreUndefined <;> rfl

/-- A row has no columns exactly if all of its fields are undefined and left out. -/
theorem Record.cells_eq_nil_iff :
    row.cells ignoreUndefined = [] ↔
      ∀ field ∈ row.fields, field.2 = none ∧ ignoreUndefined = true := by
  -- A field is dropped when it is undefined and the setting says so, and only then.
  rw [Record.cells_eq, List.map_eq_nil_iff, Record.written, List.filter_eq_nil_iff]
  refine forall₂_congr fun field _ => ?_
  cases field.2 <;> simp

/-- The keys of a row are its columns, one after another. -/
theorem keyList_eq_cells :
    keyList row ignoreUndefined =
      commaJoined ((row.cells ignoreUndefined).map Prod.fst) := by
  -- Names are the first components of the cells.
  rw [keyList, Record.cells_eq, List.map_map]
  rfl

/-- The tuple of a row holds its values, one after another. -/
theorem valueTuple_eq_cells :
    valueTuple row ignoreUndefined =
      inParens (commaJoined ((row.cells ignoreUndefined).map Prod.snd)) := by
  -- Values are the second components of the cells.
  rw [valueTuple_eq, Record.cells_eq, List.map_map]
  rfl

/-- The assignments of a row pair its columns with its values. -/
theorem assignments_eq_cells :
    assignments row ignoreUndefined =
      commaJoined ((row.cells ignoreUndefined).map fun cell => assignment cell.1 cell.2) := by
  -- An assignment uses both components of a cell.
  rw [assignments_eq, Record.cells_eq, List.map_map]
  rfl

/-- There is nothing to assign exactly if a row has no columns. -/
theorem assignments_eq_nil_iff :
    assignments row ignoreUndefined = [] ↔ row.cells ignoreUndefined = [] := by
  -- Each assignment has its sign at the least.
  have present : ∀ text ∈ (row.cells ignoreUndefined).map fun cell => assignment cell.1 cell.2,
      text ≠ [] := by
    intro text there
    obtain ⟨cell, -, rfl⟩ := List.mem_map.mp there
    simp [assignment]
  rw [assignments_eq_cells, commaJoined_eq_nil_iff present, List.map_eq_nil_iff]

/-- An insertion of one row in columns has one tuple, with a value for each column. -/
theorem InsertMany.write_row (table : Reference) :
    InsertMany.write { table, rows := [row], ignoreUndefined } =
      .ok ("INSERT INTO ".toList ++ table.write {} ++ ' ' ::
        inParens (commaJoined ((row.cells ignoreUndefined).map Prod.fst)) ++ " VALUES ".toList ++
        inParens (commaJoined ((row.cells ignoreUndefined).map Prod.snd))) := by
  -- A single row needs no comma between the tuples.
  have tuples : valueTuples [row] ignoreUndefined = valueTuple row ignoreUndefined := by
    rw [valueTuples, commaJoined, List.map_singleton, List.intercalate_singleton]
  rw [← keyList_eq_cells, ← valueTuple_eq_cells, ← tuples]
  rfl

/-- An insertion of one row in pairs fails if the row has no columns, and only then. -/
theorem Insert.write_row (table : Reference) :
    Insert.write { table, row, ignoreUndefined } =
      if row.cells ignoreUndefined = [] then .error (.input .noField)
      else .ok ("INSERT INTO ".toList ++ table.write {} ++ " SET ".toList ++
        assignments row ignoreUndefined) := by
  -- The assignments are empty exactly when no cell is written.
  simp only [Insert.write, assignments_eq_nil_iff]

/-- An update leaves the clause for its row out if the row has no columns, and only then. -/
theorem Update.write_row (table : Reference) (filter : Option Filter) :
    Update.write { table, row, filter, ignoreUndefined } =
      "UPDATE ".toList ++ table.write {} ++
        (if row.cells ignoreUndefined = [] then []
        else " SET ".toList ++ assignments row ignoreUndefined) ++ whereClause filter := by
  unfold Update.write
  -- The assignments are empty exactly when no cell is written.
  simp only [assignments_eq_nil_iff]

/--
Every statement that writes a row has the same columns and values for it, in the same order.

An insertion of several rows lists the columns and the values apart, as many of the one as of the
other. An insertion of one row and an update assign the values to the columns in pairs. Without a
column, the insertion of one row fails, and the update has no clause for them.
-/
theorem row_written_alike (table : Reference) (filter : Option Filter) :
    let columns := (row.cells ignoreUndefined).map Prod.fst
    let values := (row.cells ignoreUndefined).map Prod.snd
    let assigned := commaJoined (List.zipWith assignment columns values)
    columns.length = values.length ∧
      (columns = [] ↔ ∀ field ∈ row.fields, field.2 = none ∧ ignoreUndefined = true) ∧
      keyList row ignoreUndefined = commaJoined columns ∧
      valueTuple row ignoreUndefined = inParens (commaJoined values) ∧
      assignments row ignoreUndefined = assigned ∧
      InsertMany.write { table, rows := [row], ignoreUndefined } =
        .ok ("INSERT INTO ".toList ++ table.write {} ++ ' ' :: inParens (commaJoined columns) ++
          " VALUES ".toList ++ inParens (commaJoined values)) ∧
      Insert.write { table, row, ignoreUndefined } =
        (if columns = [] then .error (.input .noField)
        else .ok ("INSERT INTO ".toList ++ table.write {} ++ " SET ".toList ++ assigned)) ∧
      Update.write { table, row, filter, ignoreUndefined } =
        "UPDATE ".toList ++ table.write {} ++
          (if columns = [] then [] else " SET ".toList ++ assigned) ++ whereClause filter := by
  intro columns values assigned
  have nothing : columns = [] ↔ row.cells ignoreUndefined = [] := List.map_eq_nil_iff
  have pairs : assigned = assignments row ignoreUndefined := by
    -- Columns and values are the two halves of the cells, so zipping them gives the cells back.
    rw [assignments_eq_cells]
    simp only [assigned, columns, values, List.zipWith_map, List.zipWith_self]
  refine ⟨?counts, ?kept, keyList_eq_cells row _, valueTuple_eq_cells row _, pairs.symm,
    InsertMany.write_row row _ table, ?insert, ?update⟩
  case counts => rw [List.length_map, List.length_map]
  case kept => rw [nothing, Record.cells_eq_nil_iff]
  case insert => simp only [Insert.write_row, pairs, nothing]
  case update => simp only [Update.write_row, pairs, nothing]

end row

end SqlWriter
