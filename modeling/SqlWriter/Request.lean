import SqlWriter.Config
import SqlWriter.Request.Value
import SqlWriter.Statement

/-! Requests: JSON objects whose members say what a statement is made of. -/

namespace SqlWriter

/-- A field of a request with its value; options are read at once, and null leaves them open. -/
inductive Setting where
  | columns (value : Json)
  | source (value : Json)
  | table (value : Json)
  | filter (value : Json)
  | orderBy (value : Json)
  | order (direction : Option SortDirection)
  | limit (count : Option UInt64)
  | skip (count : Option UInt64)
  | expression (value : Json)
  | label (value : Json)
  | content (value : Json)
  | ignoreUndefined (choice : Option Bool)

/-- The field that a setting is for. -/
def Setting.field : Setting → Field
  | .columns _ => .columns
  | .source _ => .source
  | .table _ => .table
  | .filter _ => .filter
  | .orderBy _ => .orderBy
  | .order _ => .order
  | .limit _ => .limit
  | .skip _ => .skip
  | .expression _ => .expression
  | .label _ => .label
  | .content _ => .content
  | .ignoreUndefined _ => .ignoreUndefined

/-- A value as a message about a request shows it. -/
def Found.ofJson : Json → Found
  | .null => .null
  | .bool value => .bool value
  | .integer value =>
    -- An integer of more than sixty-four bits is described as the double nearest to it.
    if Int64.minValue.toInt ≤ value && value < UInt64.size then .integer value
    else .float (floatOfInt value)
  | .float value => .float value
  | .string text => .string text
  | .array _ => .sequence
  | .object _ => .map

/-- The fault of a value that is of another type than expected. -/
def wrongType {α : Type} (value : Json) (expected : Expected) : Except RequestFault α :=
  .error (.wrongType (.ofJson value) expected)

/-- The direction that a word names in a request. -/
def directionOfWord (word : Text) : Except RequestFault SortDirection :=
  match SortDirection.ofKeyword? word with
  | some direction => .ok direction
  | none => .error (.unknownDirection word)

/-- A direction is a word, or an object whose only member has that word as key and null as value. -/
def directionOfJson : Json → Except RequestFault SortDirection
  | .string word => directionOfWord word
  | .object members =>
    match members with
    | [(word, value)] => do
      -- The word is read before the value, so its fault is the one reported.
      let direction ← directionOfWord word
      match value with
      | .null => return direction
      | other => wrongType other .nothing
    | _ => .error .notOneMember
  | other => wrongType other .direction

/-- A number of rows is an integer that fits sixty-four bits without a sign. -/
def rowNumberOfJson : Json → Except RequestFault UInt64
  | .integer value =>
    -- An integer beyond all sixty-four bits counts as a double, and so as another type.
    if 0 ≤ value && value < UInt64.size then .ok (.ofNat value.toNat)
    else if Int64.minValue.toInt ≤ value && value < 0 then .error (.negativeNumber value)
    else wrongType (.integer value) .naturalNumber
  | other => wrongType other .naturalNumber

/-- A choice is a boolean. -/
def choiceOfJson : Json → Except RequestFault Bool
  | .bool value => .ok value
  | other => wrongType other .boolean

/-- An option that is null is left open. -/
def unlessNull {α : Type} (read : Json → Except RequestFault α) :
    Json → Except RequestFault (Option α)
  | .null => .ok none
  | value => (read value).map some

/-- The setting of a field to a value. -/
def Setting.ofJson (value : Json) : Field → Except RequestFault Setting
  | .columns => .ok (.columns value)
  | .source => .ok (.source value)
  | .table => .ok (.table value)
  | .filter => .ok (.filter value)
  | .orderBy => .ok (.orderBy value)
  -- A null is no value here, so it is not handed to the reader.
  | .order => (unlessNull directionOfJson value).map .order
  | .limit => (unlessNull rowNumberOfJson value).map .limit
  | .skip => (unlessNull rowNumberOfJson value).map .skip
  | .expression => .ok (.expression value)
  | .label => .ok (.label value)
  | .content => .ok (.content value)
  | .ignoreUndefined => (unlessNull choiceOfJson value).map .ignoreUndefined

/-- The settings of a request of one kind; members that stand for no field of it are passed over. -/
def readSettings (kind : StatementKind) (seen : List Field) :
    List (Text × Json) → Except RequestFault (List Setting)
  | [] => .ok []
  | (key, value) :: rest =>
    match Field.ofKey? kind key with
    | none => readSettings kind seen rest
    | some field =>
      -- Two spellings of one field clash even where one of them is null.
      if field ∈ seen then .error (.duplicateField field)
      else do
        let setting ← Setting.ofJson value field
        let more ← readSettings kind (field :: seen) rest
        return setting :: more

/-- The JSON value of a setting that is no option. -/
def Setting.value? : Setting → Option Json
  | .columns value | .source value | .table value | .filter value => some value
  | .orderBy value | .expression value | .label value | .content value => some value
  | .order _ | .limit _ | .skip _ | .ignoreUndefined _ => none

/-- The direction that a setting asks for. -/
def Setting.order? : Setting → Option SortDirection
  | .order direction => direction
  | _ => none

/-- The limit that a setting asks for. -/
def Setting.limit? : Setting → Option UInt64
  | .limit count => count
  | _ => none

/-- The number of rows to skip that a setting asks for. -/
def Setting.skip? : Setting → Option UInt64
  | .skip count => count
  | _ => none

/-- The choice about undefined fields that a setting makes. -/
def Setting.ignoreUndefined? : Setting → Option Bool
  | .ignoreUndefined choice => choice
  | _ => none

/-- A value that is not null. -/
def Json.unlessNull? : Json → Option Json
  | .null => none
  | value => some value

/-- The value that settings have for a field, unless that is null. -/
def valueOf? (settings : List Setting) (field : Field) : Option Json :=
  ((settings.find? fun setting => setting.field = field).bind Setting.value?).bind Json.unlessNull?

/-- What is read from the value of a field, if there is one. -/
def readValue {α : Type} (settings : List Setting) (field : Field) (read : Json → Except Error α) :
    Except Error (Option α) :=
  match valueOf? settings field with
  | some value => (read value).map some
  | none => .ok none

/-- The filter of a request. -/
def requestFilter (settings : List Setting) : Option Filter :=
  (valueOf? settings .filter).bind Filter.ofJson?

/-- The table of a request that cannot do without one. -/
def requestTable (kind : StatementKind) (settings : List Setting) : Except Error Reference := do
  match ← readValue settings .table Reference.ofJson with
  | some table => return table
  | none => .error (.input (.noTable kind))

/-- Whether a request leaves undefined fields out; the configuration decides if it does not say. -/
def requestIgnores (config : Config) (settings : List Setting) : Bool :=
  (settings.findSome? Setting.ignoreUndefined?).getD config.ignoreUndefined

/-- The selection that settings ask for. -/
def Select.ofSettings (config : Config) (settings : List Setting) : Except Error Select := do
  -- The values are read in the order of the written statement, whatever order they came in.
  let columns ← readValue settings .columns Columns.ofJson
  let table ← readValue settings .source Reference.ofJson
  let orderBy ← readValue settings .orderBy Reference.ofJson
  return {
    projection := .columns (columns.getD .all)
    table := table
    filter := requestFilter settings
    orderBy := orderBy
    order := (settings.findSome? Setting.order?).getD config.order
    limit := settings.findSome? Setting.limit?
    skip := settings.findSome? Setting.skip? }

/-- The count that settings ask for. -/
def Count.ofSettings (config : Config) (settings : List Setting) : Except Error Count := do
  let table ← requestTable .count settings
  let expression ← readValue settings .expression Reference.ofJson
  let label ← readValue settings .label Reference.ofJson
  return {
    table := table
    filter := requestFilter settings
    -- The configuration answers only what the request leaves open.
    expression := expression.getD (.name config.countExpression)
    label := label.getD (.name config.countAlias) }

/-- The statement of one kind that settings ask for. -/
def Statement.ofSettings (config : Config) (kind : StatementKind) (settings : List Setting) :
    Except Error Statement :=
  match kind with
  | .select => do return .select (← Select.ofSettings config settings)
  | .count => do return .count (← Count.ofSettings config settings)
  -- The table is read before the content, so its fault is the one reported.
  | .delete => do
    let table ← requestTable kind settings
    return .delete { table := table, filter := requestFilter settings }
  | .update => do
    let table ← requestTable kind settings
    let row ← readValue settings .content Record.ofJson
    return .update {
      table := table
      row := row.getD .empty
      filter := requestFilter settings
      ignoreUndefined := requestIgnores config settings }
  | .insert => do
    let table ← requestTable kind settings
    let row ← readValue settings .content Record.ofJson
    return .insert {
      table := table
      row := row.getD .empty
      ignoreUndefined := requestIgnores config settings }
  | .insertMany => do
    let table ← requestTable kind settings
    let rows ← readValue settings .content Record.listOfJson
    return .insertMany {
      table := table
      rows := rows.getD []
      ignoreUndefined := requestIgnores config settings }

/-- The statement of one kind that a JSON request asks for. -/
def Statement.ofJson (config : Config) (kind : StatementKind) : Json → Except Error Statement
  | .object members =>
    match readSettings kind [] members with
    | .ok settings => Statement.ofSettings config kind settings
    | .error fault => .error (.request fault)
  | other => .error (.input (.requestNotObject kind other.kind))

end SqlWriter
