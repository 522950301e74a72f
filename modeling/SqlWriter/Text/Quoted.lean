import SqlWriter.Text.Blank

/-! The two quotings of the dialect: literals with backslash sequences, and names in backticks. -/

namespace SqlWriter

/-- The letter that follows the backslash where a character cannot stand for itself in a literal. -/
def escapeLetter? (c : Char) : Option Char :=
  if c = '\x00' then some '0'
  else if c = '\x08' then some 'b'
  else if c = '\t' then some 't'
  else if c = '\n' then some 'n'
  else if c = '\r' then some 'r'
  else if c = '\x1a' then some 'Z'
  -- These three are escaped by themselves, with no letter in their place.
  else if c = '\'' || c = '\\' || c = '"' then some c
  else none

/-- A character as it stands inside a string literal. -/
def escapeChar (c : Char) : Text :=
  match escapeLetter? c with
  | some letter => ['\\', letter]
  | none => [c]

/-- The body of a string literal: each special character is replaced by its backslash sequence. -/
def escapeString (text : Text) : Text :=
  text.flatMap escapeChar

/-- A string literal stands between single quotes. -/
def quoteString (text : Text) : Text :=
  '\'' :: (escapeString text ++ ['\''])

/-- The body of a quoted name: a backtick is written twice and all else once. -/
def doubleBackticks (name : Text) : Text :=
  -- Nothing else is special inside backticks, and a backslash least of all.
  name.flatMap fun c => if c = '`' then ['`', '`'] else [c]

/-- A quoted name stands between backticks. -/
def quoteName (name : Text) : Text :=
  '`' :: (doubleBackticks name ++ ['`'])

/-- A dotted path is quoted part by part, with the dots left between the parts. -/
def quotePath (path : Text) : Text :=
  -- A dot at either end leaves an empty part there, which is quoted like the others.
  ['.'].intercalate ((path.splitOn '.').map quoteName)

/-- The quotes of a name are visible. -/
@[simp] theorem isBlank_quoteName (name : Text) : isBlank (quoteName name) = false :=
  -- The quote in front is visible.
  rfl

/-- The quotes of a literal are visible. -/
@[simp] theorem isBlank_quoteString (text : Text) : isBlank (quoteString text) = false :=
  -- The quote in front is visible.
  rfl

end SqlWriter
