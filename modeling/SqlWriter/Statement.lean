import SqlWriter.Statement.Change
import SqlWriter.Statement.Select

/-! Statements of all kinds. -/

namespace SqlWriter

/-- A statement. -/
inductive Statement where
  | select (statement : Select)
  | count (statement : Count)
  | delete (statement : Delete)
  | update (statement : Update)
  | insert (statement : Insert)
  | insertMany (statement : InsertMany)

/-- The kind of a statement. -/
def Statement.kind : Statement → StatementKind
  | .select _ => .select
  | .count _ => .count
  | .delete _ => .delete
  | .update _ => .update
  | .insert _ => .insert
  | .insertMany _ => .insertMany

/-- A statement as it is written. -/
def Statement.write : Statement → Except Error Text
  | .select statement => statement.write
  | .count statement => statement.write
  | .delete statement => .ok statement.write
  | .update statement => .ok statement.write
  | .insert statement => statement.write
  | .insertMany statement => statement.write

end SqlWriter
