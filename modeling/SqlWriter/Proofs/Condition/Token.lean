import SqlWriter.Condition

/-! Tokens of written conditions, and how they are read: `AND` binds tighter than `OR`. -/

namespace SqlWriter

/-- The conditions that are written without a connective. -/
inductive Atom where
  | comparison (field : Text) (value : Scalar)
  | membership (field : Text) (values : List Scalar)
  /-- The condition that no row meets. -/
  | never

/-- A condition without a connective as it is written. -/
def Atom.write : Atom → Text
  | .comparison field value => writeComparison field value
  | .membership field values =>
    writeReference .numeric field ++ " IN ".toList ++ inParens (commaJoined (values.map writeValue))
  | .never => neverTrue

/-- A field is a member of the scalars in a list, or of none if there are no scalars in it. -/
def Atom.ofItems (field : Text) (items : List Condition) : Atom :=
  match Condition.scalarsOfEach items with
  | [] => .never
  | values => .membership field values

/-- The membership of a field is written as the atom for it. -/
theorem Atom.write_ofItems (field : Text) (items : List Condition) :
    (Atom.ofItems field items).write = writeMembership field items := by
  -- An empty list of scalars is the one case with an atom of its own.
  unfold Atom.ofItems writeMembership
  cases Condition.scalarsOfEach items <;> rfl

/-- Truth values for all comparisons and memberships. -/
structure Assignment where
  comparison : Text → Scalar → Bool
  membership : Text → List Scalar → Bool

/-- The truth value of a condition without a connective. -/
def Atom.truth (assignment : Assignment) : Atom → Bool
  | .comparison field value => assignment.comparison field value
  | .membership field values => assignment.membership field values
  | .never => false

/-- The pieces that a written condition consists of. -/
inductive Token where
  | atom (condition : Atom)
  | connective (joiner : Connective)
  | opening
  | closing

/-- A token as it is written; a connective comes with the spaces around it. -/
def Token.write : Token → Text
  | .atom condition => condition.write
  | .connective joiner => joiner.separator
  | .opening => ['(']
  | .closing => [')']

/-- The text that tokens spell. -/
def spell (tokens : List Token) : Text :=
  tokens.flatMap Token.write

/-- The spelling of two runs of tokens is one spelling after the other. -/
@[simp] theorem spell_append (front back : List Token) :
    spell (front ++ back) = spell front ++ spell back :=
  -- Tokens are spelled one by one.
  List.flatMap_append

/-- The spelling of a run of tokens starts with that of its first one. -/
@[simp] theorem spell_cons (token : Token) (rest : List Token) :
    spell (token :: rest) = token.write ++ spell rest :=
  -- Tokens are spelled one by one.
  List.flatMap_cons

/-- The truth value of a connective over those of its parts. -/
def Connective.truth (connective : Connective) (parts : List Bool) : Bool :=
  match connective with
  | .and => parts.all id
  | .or => parts.any id

/-- What a run of tokens reads as. -/
inductive Formula where
  | atom (condition : Atom)
  | joined (connective : Connective) (parts : List Formula)

/-- The truth value of a formula. -/
def Formula.truth (assignment : Assignment) : Formula → Bool
  | .atom condition => condition.truth assignment
  | .joined connective parts => connective.truth (parts.map fun part => part.truth assignment)

/-- What has been read between two parentheses: whole alternatives, and operands of the next one. -/
structure Level where
  alternatives : List Formula := []
  operands : List Formula := []

namespace Level

/-- The level with further operands in the alternative that is being read. -/
def push (level : Level) (operands : List Formula) : Level :=
  { level with operands := level.operands ++ operands }

/-- The level behind a connective: `AND` goes on with the alternative that `OR` ends. -/
def behind (level : Level) : Connective → Level
  | .and => level
  | .or => { alternatives := level.alternatives ++ [.joined .and level.operands] }

/-- The formula of a level that is complete. -/
def formula (level : Level) : Formula :=
  .joined .or (level.alternatives ++ [.joined .and level.operands])

/-- Operands that are pushed one after another are pushed together. -/
@[simp] theorem push_push (level : Level) (first second : List Formula) :
    (level.push first).push second = level.push (first ++ second) := by
  -- Formulas are added at the end.
  simp [push]

end Level

mutual

/-- Reads on where an operand has to follow, with the levels around the one that is read. -/
def readOperand (outer : List Level) (level : Level) : List Token → Option Formula
  | .atom condition :: rest => readFurther outer (level.push [.atom condition]) rest
  | .opening :: rest => readOperand (level :: outer) {} rest
  | _ => none

/-- Reads on behind an operand, where a connective, a parenthesis or the end has to follow. -/
def readFurther (outer : List Level) (level : Level) : List Token → Option Formula
  | [] => if outer.isEmpty then some level.formula else none
  | .connective joiner :: rest => readOperand outer (level.behind joiner) rest
  | .closing :: rest =>
    -- A level that is complete is one operand of the level around it.
    match outer with
    | around :: outer => readFurther outer (around.push [level.formula]) rest
    | [] => none
  | _ => none

end

/-- The formula that a whole run of tokens reads as; no tokens at all ask for nothing. -/
def readTokens : List Token → Option Formula
  | [] => some (.joined .and [])
  | tokens => readOperand [] {} tokens

/-- Whether every `OR` in a run of tokens stands inside parentheses, some of which may be open. -/
def orsEnclosed (depth : Nat) : List Token → Bool
  | [] => true
  | .opening :: rest => orsEnclosed (depth + 1) rest
  | .closing :: rest => orsEnclosed (depth - 1) rest
  | .connective .or :: rest => 0 < depth && orsEnclosed depth rest
  | _ :: rest => orsEnclosed depth rest

end SqlWriter
