import SqlWriter.Statement.Filter

/-! The parts of statements, read from JSON values. -/

namespace SqlWriter

/-- Whether an integer fits sixty-four bits with a sign. -/
def fitsInt64 (value : Int) : Bool :=
  Int64.minValue.toInt ≤ value && value ≤ Int64.maxValue.toInt

/-- An integer as a value: the nearest double where it does not fit. -/
def Scalar.ofInteger (value : Int) : Scalar :=
  if fitsInt64 value then .int (Int64.ofInt value) else .float (floatOfInt value)

/-- An integer as a reference: the nearest double where it does not fit. -/
def Reference.ofInteger (value : Int) : Reference :=
  if fitsInt64 value then .int (Int64.ofInt value) else .float (floatOfInt value)

/-- A value that is neither an array nor an object. -/
def Scalar.ofJson : Json → Except Error Scalar
  | .null => .ok .null
  | .bool value => .ok (.bool value)
  | .integer value => .ok (.ofInteger value)
  | .float value => .ok (.float value)
  -- A nested value has no scalar to be.
  | .string words => .ok (.text words)
  | .array _ => .error (.input (.notScalar .array))
  | .object _ => .error (.input (.notScalar .object))

/-- The value of one member of a record. -/
def fieldOfJson (key : Text) (value : Json) : Except Error Scalar :=
  match Scalar.ofJson value with
  | .ok scalar => .ok scalar
  | .error _ => .error (.input (.fieldNotScalar key))

/-- The record of the members of an object, all of which have to be scalars. -/
def Record.ofMembers (members : List (Text × Json)) : Except Error Record :=
  -- The first member that is no scalar is the one reported.
  members.foldlM (fun record (key, value) => do return record.define key (← fieldOfJson key value))
    .empty

/-- The record that an object spells. -/
def Record.ofJson : Json → Except Error Record
  | .object members => Record.ofMembers members
  | other => .error (.input (.notObject other.kind))

/-- The records of an array of objects, or of a single object. -/
def Record.listOfJson : Json → Except Error (List Record)
  | .array items => items.mapM Record.ofJson
  | other => do return [← Record.ofJson other]

mutual

/-- The reference that a text, a boolean, a number or an array of such spells. -/
def Reference.ofJson : Json → Except Error Reference
  | .string text => .ok (.name text)
  | .bool value => .ok (.bool value)
  | .integer value => .ok (.ofInteger value)
  | .float value => .ok (.float value)
  -- Items are read in order, and the first fault is the one reported.
  | .array items => do return .list (← Reference.eachOfJson items)
  | .null => .error (.input (.notReference .null))
  | .object _ => .error (.input (.notReference .object))

/-- The references that the items of an array spell. -/
def Reference.eachOfJson : List Json → Except Error (List Reference)
  | [] => .ok []
  | item :: rest => do
    let reference ← Reference.ofJson item
    let more ← Reference.eachOfJson rest
    return reference :: more

end

/-- Whether a value is an object. -/
def Json.isObject : Json → Bool
  | .object _ => true
  | _ => false

mutual

/-- The specification of columns that a value spells; a null stands for all columns. -/
def Columns.ofJson : Json → Except Error Columns
  | .null => .ok .all
  | .string expressions => .ok (.text expressions)
  | .object members => do return .record (← Record.ofMembers members)
  | .array items =>
    -- Objects alone are sample records; among other items each one is a specification.
    if !items.isEmpty && items.all Json.isObject then do
      return .records (← items.mapM Record.ofJson)
    else do
      return .list (← Columns.eachOfJson items)
  | other => do return .literal (← Scalar.ofJson other)

/-- The specifications that the items of an array spell. -/
def Columns.eachOfJson : List Json → Except Error (List Columns)
  | [] => .ok []
  | item :: rest => do
    let columns ← Columns.ofJson item
    let more ← Columns.eachOfJson rest
    return columns :: more

end

mutual

/-- The condition tree that a value spells, which every value does. -/
def Condition.ofJson : Json → Condition
  | .null => .scalar .null
  | .bool value => .scalar (.bool value)
  | .integer value => .scalar (.ofInteger value)
  | .float value => .scalar (.float value)
  | .string text => .scalar (.text text)
  | .array items => .list (Condition.eachOfJson items)
  -- Twin keys were merged when the object was read, so its members stand as they are.
  | .object members => .group (Condition.membersOfJson members)

/-- The condition trees that the items of an array spell. -/
def Condition.eachOfJson : List Json → List Condition
  | [] => []
  | item :: rest => Condition.ofJson item :: Condition.eachOfJson rest

/-- The entries that the members of an object spell. -/
def Condition.membersOfJson : List (Text × Json) → List (Text × Condition)
  | [] => []
  | (key, value) :: rest => (key, Condition.ofJson value) :: Condition.membersOfJson rest

end

/-- The filter that a value spells: a text is taken as it is, and a null is none. -/
def Filter.ofJson? : Json → Option Filter
  | .null => none
  | .string sql => some (.raw sql)
  | other => some (.tree (Condition.ofJson other))

end SqlWriter
