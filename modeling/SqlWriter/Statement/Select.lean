import SqlWriter.Statement.Filter

/-! Statements that read: selections of rows, and counts of them. -/

namespace SqlWriter

/-- A selection of rows. -/
structure Select where
  projection : Projection := .columns .all
  table : Option Reference := none
  filter : Option Filter := none
  orderBy : Option Reference := none
  order : SortDirection := .descending
  limit : Option UInt64 := none
  skip : Option UInt64 := none

/-- The table of a selection, unless it has none or a blank one. -/
def Select.table? (select : Select) : Option Reference :=
  select.table.filter fun table => !table.isBlank

/-- The clause for the order of the rows. -/
def Select.orderClause (select : Select) : Text :=
  match select.orderBy with
  | some field => " ORDER BY ".toList ++ field.write {} ++ ' ' :: select.order.keyword
  | none => []

/-- The clause for a limit of the rows; the number of rows to skip counts only along with one. -/
def Select.limitClause (select : Select) : Text :=
  -- The number of rows to skip stands in front of the limit.
  match select.limit, select.skip with
  | some limit, some skip =>
    " LIMIT ".toList ++ natText skip.toNat ++ ", ".toList ++ natText limit.toNat
  | some limit, none => " LIMIT ".toList ++ natText limit.toNat
  | none, _ => []

/-- A selection as it is written. -/
def Select.write (select : Select) : Except Error Text :=
  -- The table is checked before the columns, so its fault is the one reported.
  match select.table? with
  | none => .error .missingTable
  | some table => do
    let projection ← select.projection.write
    return "SELECT ".toList ++ projection ++ " FROM ".toList ++ table.write {} ++
      whereClause select.filter ++ select.orderClause ++ select.limitClause

/-- A count of rows, which is shown under an alias. -/
structure Count where
  table : Reference
  filter : Option Filter := none
  expression : Reference := .name ['*']
  label : Reference := .name "count".toList

/-- The column of a count. -/
def Count.column (count : Count) : Text :=
  "COUNT".toList ++ inParens (count.expression.write .numeric) ++ " AS ".toList ++
    count.label.write {}

/-- The selection that a count stands for. -/
def Count.toSelect (count : Count) : Select where
  -- The column is complete, so that nothing in it is split or quoted again.
  projection := .columns (.literal (.raw count.column))
  table := count.table
  filter := count.filter

/-- A count as it is written. -/
def Count.write (count : Count) : Except Error Text :=
  count.toSelect.write

end SqlWriter
