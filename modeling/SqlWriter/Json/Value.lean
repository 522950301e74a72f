import SqlWriter.Number.Written

/-! JSON values, with the members of objects in order and integers apart from other numbers. -/

namespace SqlWriter

/-- A JSON value. -/
inductive Json where
  | null
  | bool (value : Bool)
  | integer (value : Int)
  | float (value : Float)
  | string (text : Text)
  | array (items : List Json)
  | object (members : List (Text × Json))

/-- The six kinds of JSON values. -/
inductive JsonKind where
  | null
  | boolean
  | number
  | string
  | array
  | object
deriving DecidableEq, Repr

/-- The kind of a value. -/
def Json.kind : Json → JsonKind
  | .null => .null
  | .bool _ => .boolean
  -- Both readings of a number are of one kind.
  | .integer _ => .number
  | .float _ => .number
  | .string _ => .string
  | .array _ => .array
  | .object _ => .object

/-- The word for a kind of values. -/
def JsonKind.word : JsonKind → String
  | .null => "null"
  | .boolean => "boolean"
  | .number => "number"
  | .string => "string"
  | .array => "array"
  | .object => "object"

/-- The sign and the magnitude of an integer make up a decimal without a fraction. -/
def Decimal.ofInt (value : Int) : Decimal :=
  { negative := value < 0, digits := value.natAbs, exponent := 0 }

/-- The double nearest to an integer. -/
def floatOfInt (value : Int) : Float :=
  (Decimal.ofInt value).toFloat

end SqlWriter
