import SqlWriter.Shape.Call
import SqlWriter.Text.Quoted
import SqlWriter.Value.Scalar

/-! Literals: the forms that a value can take inside a statement. -/

namespace SqlWriter

/-- A value in the form that it takes inside a statement. -/
inductive Literal where
  | bool (value : Bool)
  | null
  | integer (value : Int64)
  | number (digits : Text)
  | call (sql : Text)
  | raw (sql : Text)
  | text (value : Text)
deriving DecidableEq

/-- A text stands bare if it is a boolean word, a finite number or a whole function call. -/
def Literal.ofText (text : Text) : Literal :=
  -- A boolean word has to stand alone, while gaps around a number or a call are dropped.
  match boolOfWord? text with
  | some value => .bool value
  | none =>
    match numeral? text with
    | some digits => .number digits
    | none =>
      match functionCall? text with
      | some sql => .call sql
      | none => .text text

/-- The form of a value; where null is not allowed, it is the text of its name. -/
def Literal.ofScalar (allowNull : Bool) : Scalar → Literal
  | .null => if allowNull then .null else .text "null".toList
  | .bool value => .bool value
  | .int value => .integer value
  | .float value =>
    -- The names of the values that are no finite numbers are quoted as texts.
    if isFiniteFloat value then .number (numberText value) else .text (floatText value)
  | .text value => .ofText value
  | .raw sql => .raw sql

/-- A literal as it is written: only text is quoted. -/
def Literal.write : Literal → Text
  | .bool value => boolWord value
  | .null => "NULL".toList
  | .integer value => intText value.toInt
  -- These three were settled when the literal was chosen, so they stand as they are.
  | .number digits => digits
  | .call sql => sql
  | .raw sql => sql
  | .text value => quoteString value

/-- A value as it is written inside a statement. -/
def writeValue (value : Scalar) : Text :=
  (Literal.ofScalar true value).write

end SqlWriter
