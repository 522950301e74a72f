import SqlWriter.Shape.Chain
import SqlWriter.Shape.Wildcard

/-! Aliases behind column expressions, with the keyword `AS` or without it. -/

namespace SqlWriter

/-- A column expression, the keyword in front of its alias, and the alias. -/
structure Alias where
  expression : Text
  keyword : Text
  name : Text
deriving DecidableEq, Repr

/-- Every cut of a text in front of a white character with more than white space before it. -/
def cuts (text : Text) : List (Text × Text) :=
  -- The shortest fronts come first, so the first cut with an alias behind it counts.
  (List.range text.length).filterMap fun size =>
    let tail := text.drop size
    if tail.head?.any isWhite && !isBlank (text.take size) then some (text.take size, tail)
    else none

/-- The word that a whole text is, without a gap behind it. -/
def wholeWord? (text : Text) : Option Text :=
  match word? text with
  | some (word, rest) => if skipGap rest = [] then some word else none
  | none => none

/-- The keyword and the alias that a whole tail is: a gap, `as` in any case, a gap and a word. -/
def explicitTail? (tail : Text) : Option (Text × Text) :=
  match afterGap? tail with
  | some (first :: second :: behind) =>
    if lowerCase [first, second] = "as".toList then
      ((afterGap? behind).bind wholeWord?).map fun name => ([first, second], name)
    else none
  | _ => none

/-- The alias that a whole tail is: a gap and a word. -/
def implicitTail? (tail : Text) : Option Text :=
  (afterGap? tail).bind wholeWord?

/-- The alias that a text ends with behind the keyword, which is kept as it is written. -/
def explicitAlias? (text : Text) : Option Alias :=
  (cuts text).findSome? fun (front, tail) =>
    (explicitTail? tail).map fun (keyword, name) =>
      { expression := trim front, keyword := keyword, name := name }

/-- Whether an expression still waits for an operand, so that no alias can follow it. -/
def awaitsOperand (expression : Text) : Bool :=
  -- The star of a wildcard is no operator.
  (expression.getLast?.bind Operator.ofChar?).isSome && (wildcard? expression).isNone

/-- The alias that a text ends with although no keyword stands in front of it. -/
def implicitAlias? (text : Text) : Option Alias :=
  (cuts text).findSome? fun (front, tail) =>
    let expression := trim front
    if awaitsOperand expression then none
    else (implicitTail? tail).map fun name =>
      { expression := expression, keyword := "AS".toList, name := name }

end SqlWriter
