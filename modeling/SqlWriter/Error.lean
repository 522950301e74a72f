import SqlWriter.Json.Value
import SqlWriter.Request.Field
import SqlWriter.Text.Visible

/-! The causes for which a statement cannot be written, and the messages about them. -/

namespace SqlWriter

/-- A member of a request as a message about it shows it. -/
inductive Found where
  | null
  | bool (value : Bool)
  | integer (value : Int)
  | float (value : Float)
  | string (text : Text)
  | sequence
  | map
deriving DecidableEq

/-- What a member of a request should have been. -/
inductive Expected where
  | naturalNumber
  | boolean
  | direction
  | nothing
deriving DecidableEq, Repr

/-- Faults in the members of a request. -/
inductive RequestFault where
  /-- Two members stand for one field. -/
  | duplicateField (field : Field)
  | wrongType (found : Found) (expected : Expected)
  /-- A limit or an offset is below zero. -/
  | negativeNumber (value : Int)
  | unknownDirection (word : Text)
  /-- A direction that is an object has other than one member. -/
  | notOneMember
deriving DecidableEq

/-- Faults in the values that a statement is made from. -/
inductive InputFault where
  | notScalar (found : JsonKind)
  | notObject (found : JsonKind)
  | notReference (found : JsonKind)
  | fieldNotScalar (key : Text)
  | requestNotObject (kind : StatementKind) (found : JsonKind)
  | noTable (kind : StatementKind)
  | noField
  | noRow
  | unknownKind (word : Text)
  | unknownDirection (word : Text)
deriving DecidableEq

/-- Reasons for which a file cannot be read. -/
inductive FileFault where
  | notFound
  | notDirectory
  | isDirectory
  | nameTooLong
  | other (reason : String)
deriving DecidableEq, Repr

/-- The causes for which no statement is written. -/
inductive Error where
  /-- A wildcard cannot have an alias or be one. -/
  | wildcardAlias
  /-- A selection needs a table that is not blank. -/
  | missingTable
  | input (fault : InputFault)
  | request (fault : RequestFault)
  /-- The settings are no valid document. -/
  | settings
  | file (fault : FileFault)
deriving DecidableEq

/-- A double as a message shows it. -/
def floatWord (value : Float) : String :=
  String.ofList (messageFloatText value)

/-- A member as it is shown in a message. -/
def Found.word : Found → String
  | .null => "null"
  | .bool value => s!"boolean `{value}`"
  | .integer value => s!"integer `{value}`"
  | .float value => s!"floating point `{floatWord value}`"
  -- A text is shown in its quotes, so it can be told from a word.
  | .string text => s!"string {String.ofList (showText text)}"
  | .sequence => "sequence"
  | .map => "map"

/-- The word for what a member should have been. -/
def Expected.word : Expected → String
  | .naturalNumber => "u64"
  | .boolean => "a boolean"
  | .direction => "string or map"
  | .nothing => "unit"

/-- The message about a fault in the members of a request. -/
def RequestFault.message : RequestFault → String
  | .duplicateField field => s!"duplicate field `{field.key}`"
  | .wrongType found expected => s!"invalid type: {found.word}, expected {expected.word}"
  | .negativeNumber value => s!"invalid value: integer `{value}`, expected u64"
  | .unknownDirection word =>
    s!"unknown variant `{String.ofList word}`, expected one of `ASC`, `asc`, `DESC`, `desc`"
  | .notOneMember => "invalid value: map, expected map with a single key"

/-- The message about a fault in the values that a statement is made from. -/
def InputFault.message : InputFault → String
  | .notScalar found => s!"expected a scalar, found {found.word}"
  | .notObject found => s!"expected an object, found {found.word}"
  | .notReference found => s!"expected an identifier, found {found.word}"
  | .fieldNotScalar key => s!"field `{String.ofList key}` must be a scalar"
  | .requestNotObject kind found => s!"{kind.name} request must be an object, found {found.word}"
  | .noTable kind => s!"{kind.name} requires a `table`"
  | .noField => "insert needs at least one field"
  | .noRow => "insert needs at least one row"
  | .unknownKind word => s!"unknown statement kind `{String.ofList word}`"
  | .unknownDirection word => s!"unknown sort direction `{String.ofList word}`"

/-- The reason for which a file cannot be read, in words. -/
def FileFault.message : FileFault → String
  | .notFound => "No such file or directory (os error 2)"
  | .notDirectory => "Not a directory (os error 20)"
  | .isDirectory => "Is a directory (os error 21)"
  | .nameTooLong => "File name too long (os error 36)"
  | .other reason => reason

/-- The message about a cause. -/
def Error.message : Error → String
  | .wildcardAlias => "You have an error in your SQL syntax."
  | .missingTable => "Missing select `from` table."
  | .input fault => s!"Invalid input: {fault.message}"
  | .request fault => s!"JSON error: {fault.message}"
  | .settings => "Configuration error: the settings are not a valid document"
  | .file fault => s!"IO error: {fault.message}"

/-- The message about a cause, followed by the message about what lies behind it, if anything. -/
def Error.fullMessage (error : Error) : String :=
  match error with
  | .request fault => s!"{error.message}: {fault.message}"
  | .file fault => s!"{error.message}: {fault.message}"
  | _ => error.message

end SqlWriter
