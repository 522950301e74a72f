import SqlWriter.Columns
import SqlWriter.Condition

/-! Filters and projections, the parts that several kinds of statements share. -/

namespace SqlWriter

/-- What the rows of a statement are filtered by. -/
inductive Filter where
  /-- A piece of a statement that is written as it is. -/
  | raw (sql : Text)
  | tree (condition : Condition)

/-- The condition of a filter, if it has one. -/
def Filter.write? : Filter → Option Text
  | .raw sql => some sql
  | .tree condition => condition.write?

/-- The clause for a filter, which is left out where its condition is blank. -/
def whereClause (filter : Option Filter) : Text :=
  -- The keyword is written only along with a condition.
  match filter.bind Filter.write? with
  | some condition => if isBlank condition then [] else " WHERE ".toList ++ condition
  | none => []

/-- What a selection shows of each row. -/
inductive Projection where
  | columns (spec : Columns)
  /-- A text that the caller makes, from columns or otherwise. -/
  | computed (sql : Except Error Text)

/-- A projection as it is written. -/
def Projection.write : Projection → Except Error Text
  | .columns spec => spec.write none
  | .computed sql => sql

end SqlWriter
