import SqlWriter.Proofs.Condition.Compared
import SqlWriter.Proofs.Reference.Flattened
import SqlWriter.Proofs.Reference.Order
import SqlWriter.Proofs.Value.Visible

/-! Integers and booleans spelled out as texts, which are written in the same way. -/

namespace SqlWriter

/-- An integer of sixty-four bits is finite as a double. -/
theorem isFinite_ofInt (value : Int64) : (Decimal.ofInt value.toInt).isFinite = true := by
  -- No such integer is anywhere near the limit.
  have least := value.minValue_le_toInt
  have greatest := value.toInt_le
  have small : value.toInt.natAbs < 2 ^ 64 := by
    have low : Int64.minValue.toInt = -2 ^ 63 := by decide
    have high : Int64.maxValue.toInt = 2 ^ 63 - 1 := by decide
    omega
  have limit : 2 ^ 64 ≤ overflowLimit := by decide +kernel
  -- The exponent is zero, so the digits themselves are compared with the limit.
  have below : value.toInt.natAbs * Nat.pow 10 0 < overflowLimit := by
    rw [Nat.pow_eq, Nat.pow_zero, Nat.mul_one]
    exact Nat.lt_of_lt_of_le small limit
  have isFinite : (Decimal.ofInt value.toInt).isFinite =
      (decide (value.toInt.natAbs = 0) ||
        (decide (0 ≤ 308) && decide (value.toInt.natAbs * Nat.pow 10 0 < overflowLimit))) := rfl
  rw [isFinite, decide_eq_true below]
  simp

/-- The text of an integer has nothing to trim. -/
theorem trim_intText (value : Int) : trim (intText value) = intText value :=
  -- Signs and digits are no white space.
  trim_of_visible fun _ there =>
    not_isWhite_of_isNumberChar (isNumberChar_of_ofText? (ofText?_intText value) there)

/-- The text of an integer is a numeral. -/
theorem numeral?_intText (value : Int64) :
    numeral? (intText value.toInt) = some (intText value.toInt) := by
  -- The text of an integer spells a finite number, and there is nothing to trim.
  simp only [numeral?, trim_intText, ofText?_intText, isFinite_ofInt, if_true]

/-- A value with its text in its place, if it is an integer or a boolean. -/
def Scalar.spelledOut : Scalar → Scalar
  | .int value => .text (intText value.toInt)
  | .bool value => .text (boolWord value)
  | value => value

/-- A value is written like its text. -/
theorem write_ofScalar_spelledOut (allowNull : Bool) (value : Scalar) :
    (Literal.ofScalar allowNull value.spelledOut).write =
      (Literal.ofScalar allowNull value).write := by
  cases value with
  | int value =>
    have number := numeral?_intText value
    -- A numeral is no word of a boolean.
    have noBool : boolOfWord? (intText value.toInt) = none := by
      rw [Option.eq_none_iff_forall_ne_some]
      intro bool word
      rw [(exclusion_of_boolOfWord? word).1] at number
      cases number
    simp [Scalar.spelledOut, Literal.ofScalar, Literal.ofText, noBool, number, Literal.write]
  -- The word of a boolean is read back as that boolean.
  | bool value =>
    simp [Scalar.spelledOut, Literal.ofScalar, Literal.ofText, boolOfWord?_boolWord, Literal.write]
  | _ => rfl

/-- A value is compared like its text. -/
theorem comparisonOperator_spelledOut (value : Scalar) :
    comparisonOperator value.spelledOut = comparisonOperator value := by
  -- Neither digits nor the words of booleans hold a pattern, so both are compared as before.
  cases value with
  | int value =>
    have plain := isLikePattern_of_numeral? (numeral?_intText value)
    simp [Scalar.spelledOut, comparisonOperator, plain]
  | bool value =>
    have plain := isLikePattern_of_boolOfWord? (boolOfWord?_boolWord value)
    simp [Scalar.spelledOut, comparisonOperator, plain]
  | _ => rfl

namespace Reference

mutual

/-- A reference with their texts as names in the place of the integers and booleans in it. -/
def spelledOut : Reference → Reference
  | .int value => .name (intText value.toInt)
  | .bool value => .name (boolWord value)
  | .list items => .list (spelledOutEach items)
  | reference => reference

/-- The references of a list, each with its integers and booleans spelled out. -/
def spelledOutEach : List Reference → List Reference
  | [] => []
  | item :: rest => item.spelledOut :: spelledOutEach rest

end

/-- The references of a list are spelled out one by one. -/
theorem spelledOutEach_eq (items : List Reference) :
    spelledOutEach items = items.map spelledOut := by
  -- Each item is spelled out on its own.
  induction items with
  | nil => rfl
  | cons item rest ih => rw [spelledOutEach, ih, List.map_cons]

/-- A reference is written like its text, in whatever style. -/
theorem write_spelledOut (style : ReferenceStyle) (reference : Reference) :
    reference.spelledOut.write style = reference.write style := by
  induction reference using Reference.induction with
  | leaf reference leaf =>
    cases reference with
    | int value =>
      rw [spelledOut, write, write]
      split
      · -- The text of the integer is a number, and so it is written as that.
        rename_i bare
        have fits : ReferenceShape.numeral.write? style (intText value.toInt) =
            some (intText value.toInt) := by
          rw [ReferenceShape.write?, ReferenceStyle.numeral?, if_pos bare, numeral?_intText]
        exact ReferenceShape.writeReference_of_write? fits
      · rfl
    | bool value =>
      rw [spelledOut, write, write]
      have fits : ReferenceShape.bool.write? style (boolWord value) = some (boolWord value) := by
        rw [ReferenceShape.write?, boolOfWord?_boolWord]
        rfl
      exact ReferenceShape.writeReference_of_write? fits
    | list items => cases leaf
    | _ => rfl
  -- A list is written item by item, and each item keeps its text.
  | list items each =>
    rw [spelledOut, write, write, writeEach_eq, writeEach_eq, spelledOutEach_eq, List.map_map]
    exact congrArg commaJoined (List.map_congr_left each)

/-- Spelling out a reference does not make it name a table, or none. -/
theorem isBlank_spelledOut (reference : Reference) :
    reference.spelledOut.isBlank = reference.isBlank := by
  -- Spelling out gives digits or a word, and it keeps the length of a list.
  cases reference with
  | int value => exact isBlank_intText value.toInt
  | bool value => exact isBlank_boolWord value
  | list items => cases items <;> rfl
  | _ => rfl

end Reference

end SqlWriter
