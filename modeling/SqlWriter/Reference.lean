import SqlWriter.Shape.Chain
import SqlWriter.Shape.Wildcard
import SqlWriter.Text.Quoted
import SqlWriter.Value.Scalar

/-! References to tables and columns, which are quoted according to the shape of their text. -/

namespace SqlWriter

/-- How the text of a reference is taken. -/
structure ReferenceStyle where
  /-- A text with dots is one name and not a path. -/
  wholeNames : Bool := false
  /-- A text that spells a number is written as that number. -/
  bareNumbers : Bool := false
  /-- The text is a literal already, so that nothing in it is quoted or escaped. -/
  verbatim : Bool := false
deriving DecidableEq, Repr

/-- References to columns inside expressions and conditions may be numbers. -/
def ReferenceStyle.numeric : ReferenceStyle :=
  { bareNumbers := true }

/-- A plain name is quoted as a path, or as one name where paths are not wanted. -/
def ReferenceStyle.quote (style : ReferenceStyle) (name : Text) : Text :=
  if style.wholeNames then quoteName name else quotePath name

/-- A wildcard keeps its star and its parentheses, and its qualifier is quoted. -/
def Wildcard.write (style : ReferenceStyle) (wildcard : Wildcard) : Text :=
  let star := match wildcard.qualifier with
    | some path => style.quote path ++ ".*".toList
    | none => "*".toList
  if wildcard.parenthesized then inParens star else star

/-- Whether an operand stands between two quotes of one kind. -/
def isQuotedOperand (operand : Text) : Bool :=
  -- A lone quote would be its own partner without the bound on the length.
  2 ≤ operand.length &&
    ((operand.head? == some '\'' && operand.getLast? == some '\'') ||
      (operand.head? == some '"' && operand.getLast? == some '"'))

/-- Operands may be numbers, and quoted ones are literals. -/
def ReferenceStyle.forOperand (style : ReferenceStyle) (operand : Text) : ReferenceStyle :=
  { style with bareNumbers := true, verbatim := isQuotedOperand operand }

/-- An operator stands between two spaces. -/
def Operator.write (operator : Operator) : Text :=
  [' ', operator.symbol, ' ']

/-- The number that a reference is written as, where its style lets it be one. -/
def ReferenceStyle.numeral? (style : ReferenceStyle) (text : Text) : Option Text :=
  if style.bareNumbers then SqlWriter.numeral? text else none

/--
The text of a reference as it is written.

The shapes are tried in order: a boolean word, a number, a wildcard, a chain, a call, a text in
parentheses. A chain is written operand by operand, and a text in parentheses by its inside.
-/
def writeReference (style : ReferenceStyle) (text : Text) : Text :=
  -- Boolean words stand bare under every style.
  if (boolOfWord? text).isSome then text
  else match style.numeral? text with
  | some digits => digits
  | none =>
  match wildcard? text with
  | some wildcard => wildcard.write style
  | none =>
  match _chained : operatorChain? text with
  | some chain =>
    -- Operands keep their shapes: a call or a group among them is written as one.
    writeReference (style.forOperand chain.first) chain.first ++
      chain.links.attach.flatMap fun ⟨(operator, operand), _linked⟩ =>
        operator.write ++ writeReference (style.forOperand operand) operand
  | none =>
  match functionCall? text with
  | some call => if style.verbatim then call else escapeString call
  | none =>
  match _wrapped : parenthesized? text with
  | some inner => inParens (writeReference style inner)
  | none => if style.verbatim then text else style.quote text
termination_by text.length
decreasing_by
  · exact operatorChain?_length _chained _ (by simp [Chain.operands])
  · refine operatorChain?_length _chained _ (List.mem_cons_of_mem _ ?_)
    exact List.mem_map.mpr ⟨_, _linked, rfl⟩
  · exact parenthesized?_length _wrapped

/-- A reference to a table or a column. -/
inductive Reference where
  | name (text : Text)
  | int (value : Int64)
  | float (value : Float)
  | bool (value : Bool)
  /-- A piece of a statement that is written as it is. -/
  | raw (sql : Text)
  /-- References that are written one after another. -/
  | list (items : List Reference)

/-- A reference by the plain text of a value. -/
def Reference.ofScalar (value : Scalar) : Reference :=
  .name value.plainText

mutual

/-- A reference as it is written. -/
def Reference.write (style : ReferenceStyle) : Reference → Text
  | .name text => writeReference style text
  -- A number that is not left bare is written as the name it would spell.
  | .int value =>
    if style.bareNumbers then intText value.toInt else writeReference style (intText value.toInt)
  | .float value => writeReference style (numberText value)
  | .bool value => boolWord value
  | .raw sql => sql
  | .list items => commaJoined (Reference.writeEach style items)

/-- The references of a list, each as it is written. -/
def Reference.writeEach (style : ReferenceStyle) : List Reference → List Text
  | [] => []
  | item :: rest => item.write style :: Reference.writeEach style rest

end

/-- Whether a reference names no table: a blank name, or a list of nothing. -/
def Reference.isBlank : Reference → Bool
  | .name text => SqlWriter.isBlank text
  | .list items => items.isEmpty
  | _ => false

end SqlWriter
