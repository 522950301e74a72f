import SqlWriter.Number.Written

/-! Single values, as they come in before they are written as literals. -/

namespace SqlWriter

/-- A single value. -/
inductive Scalar where
  | null
  | bool (value : Bool)
  | int (value : Int64)
  | float (value : Float)
  | text (value : Text)
  /-- A piece of a statement that is written as it is. -/
  | raw (sql : Text)
deriving DecidableEq

/-- The plain text of a value, without quotes. -/
def Scalar.plainText : Scalar → Text
  | .null => "null".toList
  | .bool value => boolWord value
  | .int value => intText value.toInt
  | .float value => numberText value
  | .text value => value
  | .raw sql => sql

end SqlWriter
