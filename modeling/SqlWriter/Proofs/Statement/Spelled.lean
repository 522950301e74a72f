import SqlWriter.Proofs.Condition.Spelled
import SqlWriter.Statement

/-! Statements with their integers and booleans spelled out, which are written in the same way. -/

namespace SqlWriter

namespace Record

/-- A record with the texts of its integers and booleans in their places. -/
def spelledOut (row : Record) : Record where
  fields := row.fields.map fun field => (field.1, field.2.map Scalar.spelledOut)
  distinct := by
    rw [List.map_map]
    exact row.distinct

variable (row : Record) (ignoreUndefined : Bool)

/-- The same fields have a value. -/
theorem definedKeys_spelledOut : row.spelledOut.definedKeys = row.definedKeys := by
  -- Spelling a value out keeps whether it is defined, so it keeps the keys.
  simp [definedKeys, spelledOut, List.filter_map, Function.comp_def]

/-- The same fields are written. -/
theorem written_spelledOut :
    row.spelledOut.written ignoreUndefined = (row.written ignoreUndefined).map fun field =>
      (field.1, field.2.map Scalar.spelledOut) := by
  -- Spelling a value out keeps whether it is defined, so the same fields are written.
  simp [written, spelledOut, List.filter_map, Function.comp_def]

end Record

/-- The value of a field is written like its text. -/
theorem fieldValue_spelledOut (value : Option Scalar) :
    fieldValue (value.map Scalar.spelledOut) = fieldValue value := by
  -- An undefined value is no scalar, so there is nothing to spell out.
  cases value with
  | none => rfl
  | some value => exact write_ofScalar_spelledOut true value

section rows

variable (row : Record) (ignoreUndefined : Bool)

/-- The assignments of a record are the same. -/
theorem assignments_spelledOut :
    assignments row.spelledOut ignoreUndefined = assignments row ignoreUndefined := by
  -- The same fields are written, each with the same value.
  simp [assignments_eq, Record.written_spelledOut, fieldValue_spelledOut, Function.comp_def]

/-- The keys of a record are the same. -/
theorem keyList_spelledOut :
    keyList row.spelledOut ignoreUndefined = keyList row ignoreUndefined := by
  -- Names are not spelled out, and the same fields are written.
  simp [keyList, Record.written_spelledOut, Function.comp_def]

/-- The values of a record are written in the same way. -/
theorem valueTuple_spelledOut :
    valueTuple row.spelledOut ignoreUndefined = valueTuple row ignoreUndefined := by
  -- The same fields are written, each with the same value.
  simp [valueTuple_eq, Record.written_spelledOut, fieldValue_spelledOut, Function.comp_def]

/-- The values of several records are written in the same way. -/
theorem valueTuples_spelledOut (rows : List Record) :
    valueTuples (rows.map Record.spelledOut) ignoreUndefined =
      valueTuples rows ignoreUndefined := by
  -- The tuples are written one row at a time.
  simp [valueTuples, valueTuple_spelledOut, Function.comp_def]

end rows

namespace Columns

mutual

/-- A specification with its samples spelled out; a literal stays as it is. -/
def spelledOut : Columns → Columns
  | .list items => .list (spelledOutEach items)
  | .record sample => .record sample.spelledOut
  | .records samples => .records (samples.map Record.spelledOut)
  | spec => spec

/-- The specifications of a list, each with its samples spelled out. -/
def spelledOutEach : List Columns → List Columns
  | [] => []
  | item :: rest => item.spelledOut :: spelledOutEach rest

end

mutual

/-- A specification is written like the one with its samples spelled out. -/
theorem write_spelledOut (table : Option Text) :
    ∀ spec : Columns, spec.spelledOut.write table = spec.write table
  | .text columns => rfl
  | .literal value => rfl
  | .record sample => by
    rw [spelledOut, write, write, sample.definedKeys_spelledOut]
  | .records samples => by
    -- The first sample has the keys, and spelling out keeps them.
    cases samples with
    | nil => rfl
    | cons sample rest =>
      simp only [spelledOut, List.map_cons, write, sample.definedKeys_spelledOut]
  | .list items => by
    have each := writeEach_spelledOut table items
    rw [spelledOut]
    -- A sample record in front of a list counts alone, and it stays one.
    match items with
    | [] => rfl
    | .record sample :: rest =>
      simp only [spelledOutEach, spelledOut, write, sample.definedKeys_spelledOut]
    | .text _ :: _ | .list _ :: _ | .records _ :: _ | .literal _ :: _ =>
      simp only [spelledOutEach, spelledOut, write] at each ⊢
      rw [each]

/-- Specifications are written one by one like those with their samples spelled out. -/
theorem writeEach_spelledOut (table : Option Text) :
    ∀ items : List Columns, writeEach table (spelledOutEach items) = writeEach table items
  | [] => rfl
  -- Each item is spelled out by itself.
  | item :: rest => by
    rw [spelledOutEach, writeEach, writeEach, write_spelledOut table item,
      writeEach_spelledOut table rest]

end

end Columns

/-- A filter with its tree spelled out. -/
def Filter.spelledOut : Filter → Filter
  | .raw sql => .raw sql
  | .tree condition => .tree condition.spelledOut

/-- A filter has the same condition. -/
theorem Filter.write?_spelledOut (filter : Filter) : filter.spelledOut.write? = filter.write? := by
  -- Raw SQL has nothing to spell out.
  cases filter with
  | raw sql => rfl
  | tree condition => exact condition.write?_spelledOut

/-- The clause for a filter is the same. -/
theorem whereClause_spelledOut (filter : Option Filter) :
    whereClause (filter.map Filter.spelledOut) = whereClause filter := by
  -- Without a tree there is no clause.
  cases filter with
  | none => rfl
  | some filter =>
    simp only [whereClause, Option.map_some, Option.bind_some, filter.write?_spelledOut]

/-- A projection with its columns spelled out. -/
def Projection.spelledOut : Projection → Projection
  | .columns spec => .columns spec.spelledOut
  | .computed sql => .computed sql

/-- A projection is written in the same way. -/
theorem Projection.write_spelledOut (projection : Projection) :
    projection.spelledOut.write = projection.write := by
  -- A computed projection is a finished text.
  cases projection with
  | columns spec => exact spec.write_spelledOut none
  | computed sql => rfl

/-- A selection with all that it is made from spelled out. -/
def Select.spelledOut (select : Select) : Select :=
  { select with
    projection := select.projection.spelledOut
    table := select.table.map Reference.spelledOut
    filter := select.filter.map Filter.spelledOut
    orderBy := select.orderBy.map Reference.spelledOut }

/-- A count with all that it is made from spelled out. -/
def Count.spelledOut (count : Count) : Count where
  table := count.table.spelledOut
  filter := count.filter.map Filter.spelledOut
  expression := count.expression.spelledOut
  label := count.label.spelledOut

/-- A deletion with all that it is made from spelled out. -/
def Delete.spelledOut (delete : Delete) : Delete where
  table := delete.table.spelledOut
  filter := delete.filter.map Filter.spelledOut

/-- An update with all that it is made from spelled out. -/
def Update.spelledOut (update : Update) : Update :=
  { update with
    table := update.table.spelledOut
    row := update.row.spelledOut
    filter := update.filter.map Filter.spelledOut }

/-- An insertion with all that it is made from spelled out. -/
def Insert.spelledOut (insert : Insert) : Insert :=
  { insert with
    table := insert.table.spelledOut
    row := insert.row.spelledOut }

/-- An insertion of several rows with all that it is made from spelled out. -/
def InsertMany.spelledOut (insert : InsertMany) : InsertMany :=
  { insert with
    table := insert.table.spelledOut
    rows := insert.rows.map Record.spelledOut }

/-- A statement with the texts of its integers and booleans in their places, except for literals. -/
def Statement.spelledOut : Statement → Statement
  | .select statement => .select statement.spelledOut
  | .count statement => .count statement.spelledOut
  | .delete statement => .delete statement.spelledOut
  | .update statement => .update statement.spelledOut
  | .insert statement => .insert statement.spelledOut
  | .insertMany statement => .insertMany statement.spelledOut

/-- A selection has the same table, spelled out, or none. -/
theorem Select.table?_spelledOut (select : Select) :
    select.spelledOut.table? = select.table?.map Reference.spelledOut := by
  -- A table that is blank stays so, since spelling it out keeps its text.
  simp only [Select.table?, Select.spelledOut, Option.filter_map, Function.comp_def,
    Reference.isBlank_spelledOut]

/-- A selection is written in the same way, or fails with the same error. -/
theorem Select.write_spelledOut (select : Select) : select.spelledOut.write = select.write := by
  -- The five parts of the text agree, each by its own law.
  have order : select.spelledOut.orderClause = select.orderClause := by
    unfold Select.orderClause Select.spelledOut
    cases select.orderBy with
    | none => rfl
    | some field => simp [field.write_spelledOut]
  have limit : select.spelledOut.limitClause = select.limitClause := rfl
  have filter : whereClause select.spelledOut.filter = whereClause select.filter :=
    whereClause_spelledOut select.filter
  have projection : select.spelledOut.projection.write = select.projection.write :=
    select.projection.write_spelledOut
  -- A missing table is missing on both sides, and so the statement fails on both.
  rw [Select.write, Select.table?_spelledOut, order, limit, filter, projection, Select.write]
  cases select.table? with
  | none => rfl
  | some table => simp only [Option.map_some, table.write_spelledOut]

/-- A count is written in the same way, or fails with the same error. -/
theorem Count.write_spelledOut (count : Count) : count.spelledOut.write = count.write := by
  have expression : count.spelledOut.expression = count.expression.spelledOut := rfl
  have label : count.spelledOut.label = count.label.spelledOut := rfl
  have column : count.spelledOut.column = count.column := by
    unfold Count.column
    rw [expression, label, count.expression.write_spelledOut, count.label.write_spelledOut]
  -- The column is a literal of the selection, and the same text with or without spelling it out.
  have same : count.spelledOut.toSelect = count.toSelect.spelledOut := by
    rw [Count.toSelect, column]
    rfl
  rw [Count.write, same, Select.write_spelledOut, Count.write]

/-- A deletion is written in the same way. -/
theorem Delete.write_spelledOut (delete : Delete) : delete.spelledOut.write = delete.write := by
  -- Only the name and the clause stand in this text, and both agree.
  have table : delete.spelledOut.table = delete.table.spelledOut := rfl
  have filter : delete.spelledOut.filter = delete.filter.map Filter.spelledOut := rfl
  have name := delete.table.write_spelledOut {}
  have clause := whereClause_spelledOut delete.filter
  unfold Delete.write
  rw [table, filter, name, clause]

/-- An update is written in the same way. -/
theorem Update.write_spelledOut (update : Update) : update.spelledOut.write = update.write := by
  -- The name, the assignments and the clause agree, and the setting is kept.
  have table : update.spelledOut.table = update.table.spelledOut := rfl
  have row : update.spelledOut.row = update.row.spelledOut := rfl
  have filter : update.spelledOut.filter = update.filter.map Filter.spelledOut := rfl
  have ignoreUndefined : update.spelledOut.ignoreUndefined = update.ignoreUndefined := rfl
  have name := update.table.write_spelledOut {}
  have assigned := assignments_spelledOut update.row update.ignoreUndefined
  have clause := whereClause_spelledOut update.filter
  unfold Update.write
  rw [table, row, filter, ignoreUndefined, name, assigned, clause]

/-- An insertion is written in the same way, or fails with the same error. -/
theorem Insert.write_spelledOut (insert : Insert) : insert.spelledOut.write = insert.write := by
  -- The name and the assignments agree, and the setting is kept.
  have table : insert.spelledOut.table = insert.table.spelledOut := rfl
  have row : insert.spelledOut.row = insert.row.spelledOut := rfl
  have ignoreUndefined : insert.spelledOut.ignoreUndefined = insert.ignoreUndefined := rfl
  have name := insert.table.write_spelledOut {}
  have assigned := assignments_spelledOut insert.row insert.ignoreUndefined
  unfold Insert.write
  rw [table, row, ignoreUndefined, name, assigned]

/-- An insertion of several rows is written in the same way, or fails with the same error. -/
theorem InsertMany.write_spelledOut (insert : InsertMany) :
    insert.spelledOut.write = insert.write := by
  obtain ⟨table, rows, ignoreUndefined⟩ := insert
  cases rows with
  | nil => rfl
  | cons row rest =>
    -- The keys are those of the first row, and there is a tuple for each row.
    have name := table.write_spelledOut {}
    have keys := keyList_spelledOut row ignoreUndefined
    have tuples := valueTuples_spelledOut ignoreUndefined (row :: rest)
    rw [List.map_cons] at tuples
    unfold InsertMany.write InsertMany.spelledOut
    simp only [List.map_cons]
    rw [name, keys, tuples]

/-- A statement is written in the same way, or fails with the same error. -/
theorem Statement.write_spelledOut (statement : Statement) :
    statement.spelledOut.write = statement.write := by
  -- Each kind of statement has its own law.
  cases statement with
  | select select => exact select.write_spelledOut
  | count count => exact count.write_spelledOut
  | delete delete => exact congrArg Except.ok delete.write_spelledOut
  | update update => exact congrArg Except.ok update.write_spelledOut
  | insert insert => exact insert.write_spelledOut
  | insertMany insert => exact insert.write_spelledOut

/--
Integers and booleans are written like their texts, wherever they stand.

As a value and as a reference in any style, each of them is written like the text that spells it.
Trees, specifications of columns and statements that are the same once their integers and booleans
are spelled out are therefore written alike, or fail with the same error. Literals in the place of
columns are not spelled out, because a text there is written as it is.
-/
theorem spelled_out_alike :
    (∀ allowNull value, (Literal.ofScalar allowNull (.int value)).write =
        (Literal.ofScalar allowNull (.text (intText value.toInt))).write) ∧
      (∀ allowNull value, (Literal.ofScalar allowNull (.bool value)).write =
        (Literal.ofScalar allowNull (.text (boolWord value))).write) ∧
      (∀ style value, (Reference.int value).write style =
        (Reference.name (intText value.toInt)).write style) ∧
      (∀ style value, (Reference.bool value).write style =
        (Reference.name (boolWord value)).write style) ∧
      (∀ tree other : Condition, tree.spelledOut = other.spelledOut → tree.write? = other.write?) ∧
      (∀ spec other : Columns, spec.spelledOut = other.spelledOut →
        ∀ table, spec.write table = other.write table) ∧
      ∀ statement other : Statement, statement.spelledOut = other.spelledOut →
        statement.write = other.write := by
  -- What is written is fixed by what is spelled out, so each part goes through that.
  refine ⟨?int, ?bool, ?intName, ?boolName, ?trees, ?columns, ?statements⟩
  case int => exact fun allowNull value => (write_ofScalar_spelledOut allowNull (.int value)).symm
  case bool => exact fun allowNull value => (write_ofScalar_spelledOut allowNull (.bool value)).symm
  case intName => exact fun style value => ((Reference.int value).write_spelledOut style).symm
  case boolName => exact fun style value => ((Reference.bool value).write_spelledOut style).symm
  -- A tree, a specification and a statement are written as what they spell out.
  case trees =>
    intro tree other same
    rw [← tree.write?_spelledOut, same, other.write?_spelledOut]
  case columns =>
    intro spec other same table
    rw [← spec.write_spelledOut, same, other.write_spelledOut]
  case statements =>
    intro statement other same
    rw [← statement.write_spelledOut, same, other.write_spelledOut]

/-- An update is the same with its numbers and booleans as texts. -/
theorem spelled_out_alike_update :
    let filter (value : Scalar) : Filter := .tree (.group [("a".toList, .list [.scalar value])])
    let update (table : Reference) (row : Record) (value : Scalar) : Statement :=
      .update { table := table, row := row, filter := some (filter value) }
    let typed := update (.int 5) (.define .empty "b".toList (.bool true)) (.int (-7))
    let textual := update (.name "5".toList) (.define .empty "b".toList (.text "true".toList))
      (.text "-7".toList)
    typed.spelledOut = textual.spelledOut ∧ typed.write = textual.write := by
  intro filter update typed textual
  -- The two statements differ in the types of their values alone.
  have same : typed.spelledOut = textual.spelledOut := by
    rfl
  obtain ⟨-, -, -, -, -, -, statements⟩ := spelled_out_alike
  exact ⟨same, statements typed textual same⟩

end SqlWriter
