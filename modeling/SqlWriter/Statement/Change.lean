import SqlWriter.Statement.Filter

/-! Statements that change rows: deletions, updates and insertions. -/

namespace SqlWriter

/-- The value of a field as it is written, null where it is undefined. -/
def fieldValue : Option Scalar → Text
  | some value => writeValue value
  | none => "NULL".toList

/-- The value of a field as it is written, unless it is undefined and left out. -/
def fieldValue? (ignoreUndefined : Bool) (value : Option Scalar) : Option Text :=
  match value, ignoreUndefined with
  | none, true => none
  | value, _ => some (fieldValue value)

/-- The key of a field as it is written. -/
def fieldKey (key : Text) : Text :=
  writeReference .numeric key

/-- The assignments of a record, one for each field that has a value to write. -/
def assignments (row : Record) (ignoreUndefined : Bool) : Text :=
  commaJoined <| row.fields.filterMap fun (key, value) =>
    (fieldValue? ignoreUndefined value).map fun cell => fieldKey key ++ " = ".toList ++ cell

/-- The keys of a record, one for each field that is written. -/
def keyList (row : Record) (ignoreUndefined : Bool) : Text :=
  commaJoined <| (row.written ignoreUndefined).map fun field => fieldKey field.1

/-- The values of a record in parentheses, one for each field that has a value to write. -/
def valueTuple (row : Record) (ignoreUndefined : Bool) : Text :=
  inParens <| commaJoined <| row.fields.filterMap fun field =>
    fieldValue? ignoreUndefined field.2

/-- The fields that have a value to write are those that are written. -/
theorem Record.filterMap_fieldValue? {α : Type} (row : Record) (ignoreUndefined : Bool)
    (write : Text × Option Scalar → Text → α) :
    row.fields.filterMap (fun field =>
        (fieldValue? ignoreUndefined field.2).map (write field)) =
      (row.written ignoreUndefined).map fun field => write field (fieldValue field.2) := by
  unfold Record.written
  induction row.fields with
  | nil => rfl
  | cons field rest ih =>
    -- Only an undefined field can be left out, which both sides do in the same case.
    obtain ⟨key, value⟩ := field
    cases value with
    | some value =>
      have kept : fieldValue? ignoreUndefined (some value) = some (fieldValue (some value)) := rfl
      simp [kept, ih]
    -- An undefined field is dropped by the setting, or written with no value.
    | none =>
      cases ignoreUndefined with
      | true => exact ih
      | false => exact congrArg (write (key, none) (fieldValue none) :: ·) ih

/-- The assignments of a record are those of the fields that are written. -/
theorem assignments_eq (row : Record) (ignoreUndefined : Bool) :
    assignments row ignoreUndefined = commaJoined ((row.written ignoreUndefined).map fun field =>
      fieldKey field.1 ++ " = ".toList ++ fieldValue field.2) :=
  -- Written fields are those with a cell, so the loop and the map agree.
  congrArg commaJoined (row.filterMap_fieldValue? ignoreUndefined
    fun field cell => fieldKey field.1 ++ " = ".toList ++ cell)

/-- The tuple of a record holds the values of the fields that are written. -/
theorem valueTuple_eq (row : Record) (ignoreUndefined : Bool) :
    valueTuple row ignoreUndefined = inParens (commaJoined
      ((row.written ignoreUndefined).map fun field => fieldValue field.2)) := by
  -- Written fields are those with a cell, so the loop and the map agree.
  have cells := row.filterMap_fieldValue? ignoreUndefined fun _ cell => cell
  simp only [Option.map_id'] at cells
  rw [valueTuple, cells]

/-- The values of several records, one tuple for each. -/
def valueTuples (rows : List Record) (ignoreUndefined : Bool) : Text :=
  commaJoined <| rows.map fun row => valueTuple row ignoreUndefined

/-- A deletion of rows. -/
structure Delete where
  table : Reference
  filter : Option Filter := none

/-- A deletion as it is written. -/
def Delete.write (delete : Delete) : Text :=
  "DELETE FROM ".toList ++ delete.table.write {} ++ whereClause delete.filter

/-- An update of rows. -/
structure Update where
  table : Reference
  row : Record
  filter : Option Filter := none
  ignoreUndefined : Bool := true

/-- An update as it is written; without assignments it has no clause for them. -/
def Update.write (update : Update) : Text :=
  let assigned := assignments update.row update.ignoreUndefined
  "UPDATE ".toList ++ update.table.write {} ++
    (if assigned = [] then [] else " SET ".toList ++ assigned) ++ whereClause update.filter

/-- An insertion of one row. -/
structure Insert where
  table : Reference
  row : Record
  ignoreUndefined : Bool := true

/-- An insertion as it is written, which needs a field to insert. -/
def Insert.write (insert : Insert) : Except Error Text :=
  -- Without fields there would be nothing behind the keyword.
  let assigned := assignments insert.row insert.ignoreUndefined
  if assigned = [] then .error (.input .noField)
  else .ok ("INSERT INTO ".toList ++ insert.table.write {} ++ " SET ".toList ++ assigned)

/-- An insertion of several rows. -/
structure InsertMany where
  table : Reference
  rows : List Record
  ignoreUndefined : Bool := true

/-- An insertion as it is written, which needs a row and takes its keys from the first one. -/
def InsertMany.write (insert : InsertMany) : Except Error Text :=
  -- Every row has a tuple of its own, even one without fields.
  match insert.rows with
  | [] => .error (.input .noRow)
  | first :: _ =>
    .ok ("INSERT INTO ".toList ++ insert.table.write {} ++ ' ' ::
      inParens (keyList first insert.ignoreUndefined) ++ " VALUES ".toList ++
      valueTuples insert.rows insert.ignoreUndefined)

end SqlWriter
