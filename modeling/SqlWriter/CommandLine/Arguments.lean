import SqlWriter.Text.Basic

/-! The arguments of the program: a command with its operands, and the options around them. -/

namespace SqlWriter

/-- What the program is asked to write. -/
inductive Command where
  | select (request : Text)
  | count (table : Text) (filter expression label : Option Text)
  | delete (table : Text) (filter : Option Text)
  | update (table row : Text) (filter : Option Text)
  | insert (table row : Text)
  | insertMany (table rows : Text)
  | condition (tree : Text)
  | columns (specification : Text) (table : Option Text)
  | key (text : Text) (wholeNames bareNumbers : Bool)
  | value (value : Text)
deriving DecidableEq, Repr

/-- A run of the program. -/
structure Invocation where
  /-- The path of the settings document, unless it is searched for. -/
  config : Option Text
  /-- Whether the statement is written without a heading and colors. -/
  plain : Bool
  command : Command
deriving DecidableEq, Repr

/-- What arguments can ask for instead of a run. -/
inductive NoRun where
  | version
  | help
  /-- The arguments make no sense. -/
  | misuse
deriving DecidableEq, Repr

/-- The options of the program and its commands. -/
inductive OptionName where
  | config
  | plain
  | verbose
  | help
  | version
  | expression
  | label
  | table
  | wholeNames
  | bareNumbers
deriving DecidableEq, Repr

/-- The word of an option behind two hyphens. -/
def OptionName.word : OptionName → String
  | .config => "config"
  | .plain => "plain"
  | .verbose => "verbose"
  | .help => "help"
  | .version => "version"
  | .expression => "expr"
  | .label => "alias"
  | .table => "table"
  | .wholeNames => "forbid-qualified"
  | .bareNumbers => "ignore-number"

/-- The letter of an option behind one hyphen. -/
def OptionName.letter? : OptionName → Option Char
  | .config => some 'c'
  | .plain => some 'p'
  | .verbose => some 'v'
  | .help => some 'h'
  | .version => some 'V'
  | .table => some 't'
  -- The other options have a long name only.
  | _ => none

/-- Whether an option comes with a value. -/
def OptionName.takesValue : OptionName → Bool
  | .config | .expression | .label | .table => true
  | _ => false

/-- The names of the commands. -/
inductive CommandName where
  | select
  | count
  | delete
  | update
  | insert
  | insertMany
  | condition
  | columns
  | key
  | value
deriving DecidableEq, Repr

/-- The word of a command. -/
def CommandName.word : CommandName → String
  | .select => "select"
  | .count => "count"
  | .delete => "delete"
  | .update => "update"
  | .insert => "insert"
  | .insertMany => "insert-many"
  | .condition => "where"
  | .columns => "columns"
  | .key => "key"
  | .value => "value"

/-- All commands. -/
def CommandName.all : List CommandName :=
  [.select, .count, .delete, .update, .insert, .insertMany, .condition, .columns, .key, .value]

/-- The options that stand in front of the command. -/
def leadingOptions : List OptionName :=
  [.config, .plain, .verbose, .help, .version]

/-- The options that stand behind a command. -/
def CommandName.options (name : CommandName) : List OptionName :=
  [.config, .plain, .verbose, .help] ++
    match name with
    | .count => [.expression, .label]
    | .columns => [.table]
    | .key => [.wholeNames, .bareNumbers]
    | _ => []

/-- The largest number of operands of a command. -/
def CommandName.operands : CommandName → Nat
  | .select | .condition | .columns | .key | .value => 1
  | .count | .delete | .insert | .insertMany => 2
  | .update => 3

/-- The options given so far, each with its value if it takes one. -/
abbrev GivenOptions := List (OptionName × Text)

/-- Whether an option is given. -/
def GivenOptions.has (given : GivenOptions) (name : OptionName) : Bool :=
  given.any fun option => option.1 == name

/-- The value that an option is given. -/
def GivenOptions.value? (given : GivenOptions) (name : OptionName) : Option Text :=
  given.lookup name

/-- Adds an option, which can be given only once; the path of the settings cannot be empty. -/
def GivenOptions.add (given : GivenOptions) (name : OptionName) (value : Text) :
    Except NoRun GivenOptions :=
  -- A question about the program ends the reading of its arguments at once.
  if name = .version then .error .version
  else if name = .help then .error .help
  else if given.has name || (name = .config && value = []) then .error .misuse
  else .ok (given ++ [(name, value)])

/-- The options given so far, and the option that still waits for its value. -/
structure OptionState where
  given : GivenOptions
  waiting : Option OptionName

/-- Takes a cluster of letters, of which the first one with a value has the rest for it. -/
def takeLetters (known : List OptionName) (given : GivenOptions) : Text → Except NoRun OptionState
  | [] => .ok ⟨given, none⟩
  | letter :: rest =>
    match known.find? fun name => name.letter? == some letter with
    | none => .error .misuse
    | some name =>
      if name.takesValue then
        -- A letter with a value takes what is left of the word, or else the next word.
        match rest with
        | [] => .ok ⟨given, some name⟩
        | '=' :: value => do return ⟨← given.add name value, none⟩
        | value => do return ⟨← given.add name value, none⟩
      else do
        let given ← given.add name []
        takeLetters known given rest

/-- Takes the word of an option, with its value behind an equals sign if any. -/
def takeWord (known : List OptionName) (given : GivenOptions) (text : Text) :
    Except NoRun OptionState :=
  -- An equals sign ends the word even where the value behind it is empty.
  let word := text.takeWhile (· != '=')
  match known.find? fun name => name.word.toList == word, text.dropWhile (· != '=') with
  | none, _ => .error .misuse
  | some name, _ :: value =>
    if name.takesValue then do return ⟨← given.add name value, none⟩ else .error .misuse
  | some name, [] =>
    if name.takesValue then .ok ⟨given, some name⟩
    else do return ⟨← given.add name [], none⟩

/-- The arguments in front of the command, the command, and the arguments behind it. -/
def takeLeading (state : OptionState) :
    List Text → Except NoRun (GivenOptions × CommandName × List Text)
  | [] => .error .misuse
  | argument :: rest =>
    match state.waiting, argument with
    -- A value cannot look like an option, except for the hyphen alone.
    | some _, '-' :: _ :: _ => .error .misuse
    | some name, value => do
      let given ← state.given.add name value
      takeLeading ⟨given, none⟩ rest
    | none, '-' :: '-' :: word =>
      -- Behind two hyphens alone there are operands only, and so no command.
      if word = [] then .error .misuse
      else do
        let state ← takeWord leadingOptions state.given word
        takeLeading state rest
    | none, '-' :: letter :: letters => do
      let state ← takeLetters leadingOptions state.given (letter :: letters)
      takeLeading state rest
    | none, word =>
      if word = "help".toList then .error .help
      else match CommandName.all.find? fun name => name.word.toList == word with
        | some name => .ok (state.given, name, rest)
        | none => .error .misuse

/-- Adds an operand, if the command has room for one more. -/
def addOperand (name : CommandName) (operands : List Text) (operand : Text) :
    Except NoRun (List Text) :=
  if operands.length < name.operands then .ok (operands ++ [operand]) else .error .misuse

/-- The options and operands of a command. -/
def takeTrailing (name : CommandName) (state : OptionState) (operands : List Text) :
    List Text → Except NoRun (GivenOptions × List Text)
  | [] => if state.waiting.isSome then .error .misuse else .ok (state.given, operands)
  | argument :: rest =>
    match state.waiting, argument with
    | some _, '-' :: _ :: _ => .error .misuse
    | some option, value => do
      let given ← state.given.add option value
      takeTrailing name ⟨given, none⟩ operands rest
    | none, '-' :: '-' :: word =>
      if word = [] then do
        -- Everything behind two hyphens alone is an operand.
        let operands ← rest.foldlM (addOperand name) operands
        return (state.given, operands)
      else do
        let state ← takeWord name.options state.given word
        takeTrailing name state operands rest
    | none, '-' :: letter :: letters => do
      let state ← takeLetters name.options state.given (letter :: letters)
      takeTrailing name state operands rest
    | none, operand => do
      let operands ← addOperand name operands operand
      takeTrailing name state operands rest

/-- The command of a name with its options and operands. -/
def CommandName.build (given : GivenOptions) : CommandName → List Text → Except NoRun Command
  | .select, [request] => .ok (.select request)
  -- The operands behind the required ones are optional, and the first of them is the tree.
  | .count, table :: filter =>
    .ok (.count table filter.head? (given.value? .expression) (given.value? .label))
  | .delete, table :: filter => .ok (.delete table filter.head?)
  | .update, table :: row :: filter => .ok (.update table row filter.head?)
  | .insert, [table, row] => .ok (.insert table row)
  | .insertMany, [table, rows] => .ok (.insertMany table rows)
  | .condition, [tree] => .ok (.condition tree)
  | .columns, [specification] => .ok (.columns specification (given.value? .table))
  | .key, [text] => .ok (.key text (given.has .wholeNames) (given.has .bareNumbers))
  | .value, [text] => .ok (.value text)
  -- A wrong number of operands is a misuse.
  | _, _ => .error .misuse

/--
The run that arguments ask for.

The path of the settings is taken from behind the command, from in front of it, or else from the
environment. An empty path in the environment is refused wherever it would be looked at.
-/
def Invocation.ofArguments (configVariable : Option Text) (arguments : List Text) :
    Except NoRun Invocation := do
  let (leading, name, rest) ← takeLeading ⟨[], none⟩ arguments
  let (trailing, operands) ← takeTrailing name ⟨[], none⟩ [] rest
  let command ← name.build trailing operands
  -- An empty variable is a misuse unless both positions give a path instead.
  if configVariable = some [] && !(leading.has .config && trailing.has .config) then
    throw .misuse
  return {
    config := ((trailing.value? .config).or (leading.value? .config)).or configVariable
    plain := leading.has .plain || trailing.has .plain
    command := command }

end SqlWriter
