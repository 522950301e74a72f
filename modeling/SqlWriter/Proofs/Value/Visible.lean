import SqlWriter.Proofs.Shape.Alias
import SqlWriter.Proofs.Value.Masked

/-! Values that can be seen: all are written as something, apart from raw pieces that are blank. -/

namespace SqlWriter

/-- The word of a boolean can be seen. -/
theorem isBlank_boolWord (value : Bool) : isBlank (boolWord value) = false := by
  -- There are two words, and both are looked at.
  cases value <;> decide

/-- No character of a numeral is white. -/
theorem not_isWhite_of_isNumberChar {c : Char} (plain : isNumberChar c = true) :
    isWhite c = false := by
  -- Digits are characters of words, and the other five are looked at one by one.
  simp only [isNumberChar, Bool.or_eq_true, beq_iff_eq] at plain
  rcases plain with ((((digit | rfl) | rfl) | rfl) | rfl) | rfl
  · exact not_isWhite_of_isWordChar (by simp [isWordChar, Char.isAlphanum, digit])
  all_goals decide

/-- A numeral can be seen. -/
theorem isBlank_of_ofText? {text : Text} {number : Decimal}
    (spelled : Decimal.ofText? text = some number) : isBlank text = false := by
  -- It has a character, and none of its characters is white.
  cases text with
  | nil => cases spelled
  | cons c rest =>
    have plain : isNumberChar c = true := isNumberChar_of_ofText? spelled List.mem_cons_self
    have visible : isWhite c = false := not_isWhite_of_isNumberChar plain
    rw [isBlank_cons, visible, Bool.false_and]

/-- The text of an integer can be seen. -/
theorem isBlank_intText (value : Int) : isBlank (intText value) = false :=
  -- An integer spells a decimal, which has a character that can be seen.
  isBlank_of_ofText? (ofText?_intText value)

/-- A call can be seen, and it still can when its text is escaped. -/
theorem IsCall.isBlank {call : Text} (whole : IsCall call) :
    SqlWriter.isBlank call = false ∧ SqlWriter.isBlank (escapeString call) = false := by
  -- The parenthesis behind the name can be seen, and escaping leaves it as it is.
  have visible : isWhite '(' = false := by decide
  have escaped : '(' ∈ escapeChar '(' := by decide
  constructor
  · exact isBlank_eq_false_iff.mpr ⟨'(', whole.mem_parenthesis, visible⟩
  · exact isBlank_eq_false_iff.mpr
      ⟨'(', List.mem_flatMap_of_mem whole.mem_parenthesis escaped, visible⟩

/-- What stands bare can be seen. -/
theorem Bare.isBlank {text sql : Text} (bare : Bare text sql) : SqlWriter.isBlank sql = false := by
  -- Each of the three forms has a character that can be seen.
  cases bare with
  | word value => exact isBlank_boolWord value
  | number spelled finite plain => exact isBlank_of_ofText? spelled
  | call before whole behind => exact whole.isBlank.1

/-- A number that is written in full can be seen. -/
theorem isBlank_positional (digits : Nat) (exponent : Int) :
    isBlank (positional digits exponent) = false := by
  -- Digits can be seen if there is no fraction, and otherwise the dot can.
  have whole : isBlank (natText digits) = false := isBlank_intText digits
  have point : isWhite '.' = false := by decide
  cases exponent with
  | ofNat zeros => simp [positional, whole]
  | negSucc places => simp [positional, point]

/-- A sign leaves a text that can be seen visible. -/
theorem isBlank_signed {text : Text} (negative : Bool) (visible : isBlank text = false) :
    isBlank (signed negative text) = false := by
  -- What can be seen still can be behind a minus.
  cases negative <;> simp [signed, visible]

/-- The text of a double can be seen. -/
theorem isBlank_floatText (x : Float) : isBlank (floatText x) = false := by
  -- Each kind of double has a text of its own: a name, a zero or digits.
  unfold floatText
  split
  · decide
  · exact isBlank_signed _ (by decide)
  · exact isBlank_signed _ (by decide)
  · exact isBlank_signed _ (isBlank_positional _ _)

/-- A double inside a statement can be seen. -/
theorem isBlank_numberText (x : Float) : isBlank (numberText x) = false := by
  -- Zero is written without its sign, and all else is as above.
  unfold numberText
  split
  · decide
  · exact isBlank_floatText x

/-- A value is written as nothing that can be seen only if it is a raw piece of that kind. -/
theorem isBlank_writeValue_iff {value : Scalar} :
    isBlank (writeValue value) = true ↔ ∃ sql, value = .raw sql ∧ isBlank sql = true := by
  cases value with
  | raw sql => simp [writeValue, Literal.ofScalar, Literal.write]
  | null => exact iff_of_false (by decide) (by simp)
  | bool value =>
    simp [writeValue, Literal.ofScalar, Literal.write, isBlank_boolWord]
  | int value =>
    simp [writeValue, Literal.ofScalar, Literal.write, isBlank_intText]
  | float value =>
    -- The names of the values that are no finite numbers stand in quotes.
    cases finite : isFiniteFloat value <;>
      simp [writeValue, Literal.ofScalar, Literal.write, finite, isBlank_numberText]
  -- A text is never blank, for neither the quotes nor the bare forms are.
  | text words =>
    have visible : isBlank (writeValue (.text words)) = false := by
      rcases bare_or_quoted words with bare | quoted
      · exact bare.isBlank
      · rw [quoted, isBlank_quoteString]
    simp [visible]

end SqlWriter
