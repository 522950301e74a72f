import SqlWriter.Shape.Word

/-! The `*` that stands for all columns, with a qualifier and parentheses around it if any. -/

namespace SqlWriter

/-- All columns, or all columns of a qualifying table. -/
structure Wildcard where
  qualifier : Option Text
  parenthesized : Bool
deriving DecidableEq, Repr

/-- A qualifier has parts of any characters but white space, parentheses, dots and stars. -/
def isQualifierChar (c : Char) : Bool :=
  !isWhite c && !(c == '(' || c == ')' || c == '.' || c == '*')

/-- Whether a text starts with a given character, and the rest behind it. -/
def takeChar (mark : Char) : Text → Bool × Text
  | c :: rest => if c = mark then (true, rest) else (false, c :: rest)
  | [] => (false, [])

/-- The qualifying path and dot that a text starts with, and the rest. -/
def takeQualifier (text : Text) : Option Text × Text :=
  -- Only a dot right behind the path makes it a qualifier.
  match path? isQualifierChar text with
  | some (path, '.' :: rest) => (some path, rest)
  | _ => (none, text)

/-- The wildcard that a whole text is: both parentheses are there, or neither. -/
def wildcard? (text : Text) : Option Wildcard :=
  -- Gaps may stand inside the parentheses and around them.
  let (opened, inner) := takeChar '(' (skipGap text)
  let (qualifier, star) := takeQualifier (skipGap inner)
  match star with
  | '*' :: behind =>
    let (closed, rest) := takeChar ')' (skipGap behind)
    if skipGap rest = [] ∧ opened = closed then some ⟨qualifier, opened⟩ else none
  | _ => none

end SqlWriter
