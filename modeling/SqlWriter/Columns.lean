import SqlWriter.Error
import SqlWriter.Reference
import SqlWriter.Shape.Alias
import SqlWriter.Value.Literal
import SqlWriter.Value.Record

/-! Column expressions, and the specifications of which columns a selection shows. -/

namespace SqlWriter

/-- An expression under an alias; neither of them can be a wildcard. -/
def Alias.write (aliased : Alias) : Except Error Text :=
  if (wildcard? aliased.expression).isSome || (wildcard? aliased.name).isSome then
    .error .wildcardAlias
  else
    let expression := writeReference .numeric aliased.expression
    let name := writeReference {} aliased.name
    .ok (expression ++ ' ' :: aliased.keyword ++ ' ' :: name)

/-- A column expression with or without an alias; a function call on its own stays as it is. -/
def writeColumn (column : Text) : Except Error Text :=
  -- The keyword is tried first, so that it never ends up inside the expression.
  match explicitAlias? column with
  | some aliased => aliased.write
  | none =>
  match implicitAlias? column with
  | some aliased => aliased.write
  | none =>
  match functionCall? column with
  | some call => .ok call
  | none => .ok (writeReference .numeric column)

/-- A column of a table carries the name of the table in front. -/
def qualify (table : Option Text) (column : Text) : Text :=
  match table with
  | some table => table ++ '.' :: column
  | none => column

/-- Column expressions one after another, unless one of them cannot be written. -/
def writeColumns (table : Option Text) (columns : List Text) : Except Error Text := do
  return commaJoined (← columns.mapM fun column => writeColumn (qualify table column))

/-- A specification of columns. -/
inductive Columns where
  /-- A text of column expressions with commas between them. -/
  | text (columns : Text)
  /-- Specifications one after another, or a sample record followed by anything. -/
  | list (items : List Columns)
  /-- A sample record whose defined keys are the columns. -/
  | record (sample : Record)
  /-- Sample records, of which the first one counts. -/
  | records (samples : List Record)
  /-- A single value in place of columns. -/
  | literal (value : Scalar)

/-- All columns. -/
def Columns.all : Columns :=
  .text ['*']

mutual

/-- The columns of a specification as they are written, each in the given table if any. -/
def Columns.write (table : Option Text) : Columns → Except Error Text
  | .text columns => writeColumns table (splitColumns columns)
  | .list items =>
    -- A record in front makes the list a list of samples, whatever follows it.
    match items with
    | .record sample :: _ => writeColumns table sample.definedKeys
    | _ => (Columns.writeEach table items).map commaJoined
  | .record sample => writeColumns table sample.definedKeys
  | .records samples =>
    match samples with
    | sample :: _ => writeColumns table sample.definedKeys
    | [] => .ok []
  -- A text that is given as a literal is written as it is.
  | .literal (.text words) => .ok words
  | .literal value => .ok (writeValue value)

/-- The specifications of a list as they are written, unless one of them cannot be. -/
def Columns.writeEach (table : Option Text) : List Columns → Except Error (List Text)
  | [] => .ok []
  | item :: rest => do
    let sql ← item.write table
    let more ← Columns.writeEach table rest
    return sql :: more

end

end SqlWriter
