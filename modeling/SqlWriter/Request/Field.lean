import SqlWriter.Statement.Kind

/-! The fields of requests and the spellings of their keys. -/

namespace SqlWriter

/-- The fields that a request can have. -/
inductive Field where
  | columns
  | source
  | table
  | filter
  | orderBy
  | order
  | limit
  | skip
  | expression
  | label
  | content
  | ignoreUndefined
deriving DecidableEq, Repr

/-- The key of a field in its first spelling. -/
def Field.key : Field → String
  | .columns => "columns"
  | .source => "from"
  | .table => "table"
  | .filter => "where"
  | .orderBy => "orderBy"
  | .order => "order"
  | .limit => "limit"
  | .skip => "skip"
  | .expression => "expr"
  | .label => "alias"
  | .content => "set"
  | .ignoreUndefined => "ignoreUndefined"

/-- The further spellings of the key of a field. -/
def Field.otherKeys : Field → List String
  | .table => ["from"]
  | .orderBy => ["order_by"]
  | .content => ["values", "row", "rows"]
  | .ignoreUndefined => ["ignore_undefined"]
  | _ => []

/-- The fields of the requests of one kind. -/
def StatementKind.fields : StatementKind → List Field
  | .select => [.columns, .source, .filter, .orderBy, .order, .limit, .skip]
  | .count => [.table, .filter, .expression, .label]
  | .delete | .update | .insert | .insertMany => [.table, .filter, .content, .ignoreUndefined]

/-- Whether a key is one of the spellings of a field. -/
def Field.isSpelled (field : Field) (key : Text) : Bool :=
  key == field.key.toList || field.otherKeys.any fun other => key == other.toList

/-- The field that a key stands for in the requests of one kind. -/
def Field.ofKey? (kind : StatementKind) (key : Text) : Option Field :=
  -- The spellings of two fields of one kind never meet, so the first hit is the only one.
  kind.fields.find? fun field => field.isSpelled key

end SqlWriter
