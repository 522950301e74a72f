import SqlWriter.CommandLine.Arguments
import SqlWriter.Config.Document
import SqlWriter.Json.Text
import SqlWriter.Request

/-! Runs of the program: from arguments, input and files to output and an exit code. -/

namespace SqlWriter

/-- What a run can see of the world around it. -/
structure Environment where
  /-- The text on standard input. -/
  input : Text
  /-- The variable that names a settings document. -/
  configVariable : Option Text
  /-- The variable that forces colors, unless it is `0`. -/
  colorVariable : Option Text
  /-- The path of the user's own settings document. -/
  userConfig : Option Text
  /-- The contents of files by path. -/
  contents : Text → Except FileFault Text

/-- What a run leaves behind. -/
structure Outcome where
  exitCode : UInt32
  output : Text
  errors : Text
deriving DecidableEq, Repr

/-- The causes for which a run fails. -/
inductive Failure where
  | config (cause : Error)
  /-- An argument that has to be JSON is not. -/
  | notJson (argument : Text)
  | statement (cause : Error)
deriving DecidableEq

/-- The message about a failure. -/
def Failure.message : Failure → String
  | .config cause => s!"failed to load config: {cause.fullMessage}"
  | .notJson argument => s!"invalid JSON: {String.ofList (trim argument)}: the text is not JSON"
  | .statement cause => cause.fullMessage

/-- The settings document that is looked for in the working directory. -/
def localConfig : Text :=
  "sql-stringify.toml".toList

/-- The settings of a document at a path. -/
def Environment.readConfig (environment : Environment) (path : Text) : Except Error Config :=
  match environment.contents path with
  | .ok text =>
    match Config.ofDocument? text with
    | some config => .ok config
    | none => .error .settings
  | .error fault => .error (.file fault)

/-- Whether there is a file at a path, readable or not. -/
def Environment.isFile (environment : Environment) (path : Text) : Bool :=
  match environment.contents path with
  | .ok _ => true
  | .error (.other _) => true
  | .error _ => false

/-- The settings of a run: of the given document, of the first one found, or else the defaults. -/
def Environment.loadConfig (environment : Environment) (given : Option Text) :
    Except Error Config :=
  match given with
  | some path => environment.readConfig path
  -- Without a path the local file comes before the one of the user.
  | none =>
    match (localConfig :: environment.userConfig.toList).find? environment.isFile with
    | some path => environment.readConfig path
    | none => .ok {}

/-- A step of a run, which can take the text on standard input or fail. -/
abbrev Step := StateT Text (Except Failure)

/-- An argument, where a hyphen stands for standard input, of which nothing is left then. -/
def readArgument (argument : Text) : Step Text :=
  if argument = ['-'] then modifyGet fun input => (input, [])
  else return argument

/-- An argument that has to be JSON. -/
def readJson (argument : Text) : Step Json := do
  let text ← readArgument argument
  match Json.ofText? text with
  | some value => return value
  | none => throw (.notJson text)

/-- An argument that is taken as a text if it is not JSON. -/
def readLoose (argument : Text) : Step Json := do
  let text ← readArgument argument
  return (Json.ofText? text).getD (.string text)

/-- An optional argument that is taken as a text if it is not JSON. -/
def readLooseMember (key : String) : Option Text → Step (List (Text × Json))
  | some argument => do return [(key.toList, ← readLoose argument)]
  | none => return []

/-- A member of a request with a text as value, if there is one. -/
def textMember (key : String) (text : Option Text) : List (Text × Json) :=
  text.toList.map fun text => (key.toList, .string text)

/-- What is made of values, or the failure to make it. -/
def orFail {α : Type} : Except Error α → Step α
  | .ok value => return value
  | .error cause => throw (.statement cause)

/-- The statement that a request asks for as it is written. -/
def writeRequest (config : Config) (kind : StatementKind) (request : Json) : Step Text :=
  orFail (Statement.ofJson config kind request >>= Statement.write)

/-- What a command is to write. -/
def Command.write (config : Config) : Command → Step Text
  | .select request => do writeRequest config .select (← readJson request)
  | .count table filter expression label => do
    -- The tree is read before the request is put together, since it may come from the input.
    let filter ← readLooseMember "where" filter
    writeRequest config .count <| .object <|
      textMember "table" table ++ filter ++ textMember "expr" expression ++ textMember "alias" label
  | .delete table filter => do
    let filter ← readLooseMember "where" filter
    writeRequest config .delete (.object (textMember "table" table ++ filter))
  | .update table row filter => do
    let row ← readJson row
    let filter ← readLooseMember "where" filter
    writeRequest config .update <| .object <|
      textMember "table" table ++ [("set".toList, row)] ++ filter
  | .insert table row => do
    let row ← readJson row
    writeRequest config .insert (.object (textMember "table" table ++ [("set".toList, row)]))
  | .insertMany table rows => do
    let rows ← readJson rows
    writeRequest config .insertMany (.object (textMember "table" table ++ [("rows".toList, rows)]))
  | .condition tree => do
    let tree ← readJson tree
    -- A tree that is no group is shown as an empty line.
    return (Condition.ofJson tree).write?.getD []
  | .columns specification table => do
    let specification ← readLoose specification
    orFail ((Columns.ofJson specification) >>= Columns.write table)
  | .key text wholeNames bareNumbers =>
    return writeReference { wholeNames := wholeNames, bareNumbers := bareNumbers } text
  | .value text => do
    let value ← readLoose text
    orFail ((Scalar.ofJson value).map writeValue)

/-- The codes that switch the terminal to a style. -/
def styleCode (numbers : String) : Text :=
  '\x1b' :: '[' :: (numbers.toList ++ ['m'])

/-- The text with a style put back in behind each code that resets it. -/
def restyle (style : Text) : Text → Text
  | '\x1b' :: '[' :: '0' :: 'm' :: rest =>
    '\x1b' :: '[' :: '0' :: 'm' :: (style ++ restyle style rest)
  | c :: rest => c :: restyle style rest
  | [] => []

/-- A text in a style, if colors are on. -/
def paint (colored : Bool) (style : String) (text : Text) : Text :=
  if colored then styleCode style ++ restyle (styleCode style) text ++ styleCode "0" else text

/-- What the program says about its version. -/
def versionText : Text :=
  "sql-stringify 0.1.0\n".toList

/-- What the program says about its use. -/
def helpText : Text :=
  ("Usage: sql-stringify [OPTIONS] <COMMAND>\n\n" ++
    "Commands: select, count, delete, update, insert, insert-many, where, columns, key, value\n" ++
    "Options: --config <PATH>, --plain, --verbose, --help, --version\n").toList

/-- What is left behind by a run that fails. -/
def Failure.outcome (colored : Bool) (failure : Failure) : Outcome where
  exitCode := 1
  output := []
  errors := paint colored "1;31" "Error:".toList ++ ' ' :: failure.message.toList ++ ['\n']

/-- What is left behind by a run that writes a statement. -/
def successOutcome (colored plain : Bool) (sql : Text) : Outcome where
  exitCode := 0
  output :=
    if plain then sql ++ ['\n']
    else paint colored "1;32" "Generated SQL:".toList ++ '\n' :: paint colored "37" sql ++ ['\n']
  errors := []

/-- What a run leaves behind. -/
def Invocation.run (environment : Environment) (invocation : Invocation) : Outcome :=
  let forced := environment.colorVariable.any (· != ['0'])
  match environment.loadConfig invocation.config with
  | .error cause => (Failure.config cause).outcome forced
  | .ok config =>
    -- Only settings that were loaded can switch colors off.
    let colored := forced && !invocation.plain && config.color
    match (invocation.command.write config).run environment.input with
    | .ok (sql, _) => successOutcome colored invocation.plain sql
    | .error failure => failure.outcome colored

/-- What the program leaves behind for arguments that ask for no run. -/
def NoRun.outcome : NoRun → Outcome
  | .version => { exitCode := 0, output := versionText, errors := [] }
  | .help => { exitCode := 0, output := helpText, errors := [] }
  | .misuse => { exitCode := 2, output := [], errors := helpText }

/-- What the program leaves behind for its arguments. -/
def runArguments (environment : Environment) (arguments : List Text) : Outcome :=
  match Invocation.ofArguments environment.configVariable arguments with
  | .ok invocation => invocation.run environment
  | .error noRun => noRun.outcome

end SqlWriter
