import SqlWriter.Statement.Kind

/-! Settings, which stand in where a request leaves an option open. -/

namespace SqlWriter

/-- The settings of the program, each with its default. -/
structure Config where
  /-- The direction of sorting. -/
  order : SortDirection := .descending
  /-- Whether undefined fields are left out or written as null. -/
  ignoreUndefined : Bool := true
  /-- The alias of a count. -/
  countAlias : Text := "count".toList
  /-- The expression that is counted. -/
  countExpression : Text := "*".toList
  /-- Whether the output may be colored. -/
  color : Bool := true
deriving DecidableEq, Repr

end SqlWriter
