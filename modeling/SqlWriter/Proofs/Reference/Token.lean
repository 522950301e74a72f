import SqlWriter.Proofs.Dialect.Lexing
import SqlWriter.Reference

/-! Written references consist of a few kinds of tokens, whatever text they were written from. -/

namespace SqlWriter

/-- The pieces that a written reference consists of. -/
inductive ReferenceToken where
  /-- Quoted names with dots between them. -/
  | path (names : List Text)
  /-- A star, behind quoted names with a dot after each of them if it is qualified. -/
  | star (qualifier : Option (List Text))
  | opening
  | closing
  | quotedWord (mark : Char) (word : Text)
  | number (digits : Text)
  | bool (value : Bool)
  | operator (sign : Operator)

/-- Quoted names as they are written, with dots between them. -/
def writeNames (names : List Text) : Text :=
  ['.'].intercalate (names.map quoteName)

namespace ReferenceToken

/-- A token as it is written; an operator comes with the spaces around it. -/
def write : ReferenceToken → Text
  -- Spaces stand around operators only.
  | .path names => writeNames names
  | .star none => ['*']
  | .star (some names) => writeNames names ++ ['.', '*']
  | .opening => ['(']
  | .closing => [')']
  | .quotedWord mark word => mark :: (word ++ [mark])
  | .number digits => digits
  | .bool value => boolWord value
  | .operator sign => sign.write

/-- The lexemes that a token is cut into. -/
def lexemes : ReferenceToken → List Lexeme
  -- An operator has the two spaces around it as marks.
  | .path names => pathLexemes names
  | .star none => [.mark '*']
  | .star (some names) => pathLexemes names ++ [.mark '.', .mark '*']
  | .opening => [.mark '(']
  | .closing => [.mark ')']
  | .quotedWord mark word => [.literal mark word]
  | .number digits => [.number digits]
  | .bool value => [.word (boolWord value)]
  | .operator sign => [.mark ' ', .mark sign.symbol, .mark ' ']

/-- Paths have names, quoted words have characters of words only, and numbers are finite. -/
def IsWellFormed : ReferenceToken → Prop
  | .path names => names ≠ []
  | .star qualifier => qualifier ≠ some []
  | .quotedWord mark word =>
    (mark = '\'' ∨ mark = '"') ∧ word ≠ [] ∧ ∀ c ∈ word, isWordChar c = true
  | .number digits => ∃ number, Decimal.ofText? digits = some number ∧ number.isFinite = true
  | _ => True

/-- The number of open parentheses behind some tokens, unless one is closed that is not open. -/
def depthAfter? (depth : Nat) : List ReferenceToken → Option Nat
  | [] => some depth
  | .opening :: rest => depthAfter? (depth + 1) rest
  | .closing :: rest => if depth = 0 then none else depthAfter? (depth - 1) rest
  | _ :: rest => depthAfter? depth rest

end ReferenceToken

/-- An operator separates its operands. -/
theorem separates_operator (operator : Operator) :
    Separates operator.write [.mark ' ', .mark operator.symbol, .mark ' '] where
  lexed := by
    -- The space behind it keeps the symbol from being read as part of a number or a comment.
    have symbol : LexesBefore (fun rest => rest.head? = some ' ') [operator.symbol]
        [.mark operator.symbol] := by
      have run : ∀ rest : Text, rest.head? = some ' ' → EndsRun rest := fun rest space c first => by
        cases space.symm.trans first
        decide
      match operator with
      | .plus => exact (lexesBefore_run (by decide) (by decide) (by decide)).mono run
      | .minus => exact (lexesBefore_run (by decide) (by decide) (by decide)).mono run
      | .times => exact .of_lexeme? fun rest _ => lexeme?_mark (by decide) nofun
      | .over =>
        -- A slash could open a comment, but a space is behind it.
        refine .of_lexeme? fun rest space => lexeme?_mark (by decide) fun _ => ?_
        simp [space]
    have spaced := symbol.append separates_space.lexed fun rest _ => rfl
    exact separates_space.lexed.append spaced fun _ _ => trivial
  delimits rest := separates_space.delimits _

/-- A text spelled by well-formed tokens with balanced parentheses, which it is also cut into. -/
structure SpelledBy (sql : Text) (tokens : List ReferenceToken) : Prop where
  spelled : tokens.flatMap ReferenceToken.write = sql
  lexed : Lexes sql (tokens.flatMap ReferenceToken.lexemes)
  wellFormed : ∀ token ∈ tokens, token.IsWellFormed
  balanced : ∀ depth rest, ReferenceToken.depthAfter? depth (tokens ++ rest) =
    ReferenceToken.depthAfter? depth rest

namespace SpelledBy

/-- A token that is no parenthesis spells what it is written as. -/
theorem single (token : ReferenceToken) (lexed : Lexes token.write token.lexemes)
    (wellFormed : token.IsWellFormed)
    (inside : ∀ depth rest, ReferenceToken.depthAfter? depth (token :: rest) =
      ReferenceToken.depthAfter? depth rest) : SpelledBy token.write [token] where
  -- Appending one text to nothing leaves it as it is.
  spelled := List.flatMap_singleton _ _
  lexed := by rwa [List.flatMap_singleton]
  wellFormed := List.forall_mem_singleton.mpr wellFormed
  balanced := inside

/-- A text in parentheses is spelled by two more tokens. -/
theorem inParens {sql : Text} {tokens : List ReferenceToken} (inner : SpelledBy sql tokens) :
    SpelledBy (inParens sql) (.opening :: (tokens ++ [.closing])) where
  -- Each law holds of the two parentheses on their own, and of the tokens between them.
  spelled := by
    simp [inner.spelled, ReferenceToken.write, SqlWriter.inParens]
  lexed := by
    simpa [ReferenceToken.lexemes] using inner.lexed.inParens
  wellFormed := by
    simpa [ReferenceToken.IsWellFormed, or_imp, forall_and] using inner.wellFormed
  balanced depth rest := by
    simp [ReferenceToken.depthAfter?, inner.balanced]

/-- An operator stands between two slices of tokens. -/
theorem operation {front back : Text} {before after : List ReferenceToken}
    (first : SpelledBy front before) (operator : Operator) (second : SpelledBy back after) :
    SpelledBy (front ++ (operator.write ++ back)) (before ++ .operator operator :: after) where
  -- The operator stands between its spaces, and so it separates what is on its sides.
  spelled := by
    simp [first.spelled, second.spelled, ReferenceToken.write]
  lexed := by
    simpa [ReferenceToken.lexemes] using
      first.lexed.between (separates_operator operator) second.lexed
  wellFormed := by
    simpa [ReferenceToken.IsWellFormed, or_imp, forall_and] using
      And.intro first.wellFormed second.wellFormed
  balanced depth rest := by
    simp [ReferenceToken.depthAfter?, first.balanced, second.balanced]

end SpelledBy

end SqlWriter
