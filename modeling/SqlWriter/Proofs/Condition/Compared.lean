import SqlWriter.Condition
import SqlWriter.Proofs.Shape.Pattern

/-! The operators of comparisons: which values a field is compared with as patterns. -/

namespace SqlWriter

/-- A value whose right side of a comparison is a pattern: a literal, or a call as it is written. -/
inductive ComparesByLike : Scalar → Prop where
  | quoted {text : Text} (literal : writeValue (.text text) = quoteString text)
    (wild : HoldsWildcard text) : ComparesByLike (.text text)
  | call {text : Text} (called : functionCall? text = some (writeValue (.text text)))
    (wild : HoldsWildcard (writeValue (.text text))) : ComparesByLike (.text text)

/-- No word of a boolean is a pattern. -/
theorem isLikePattern_of_boolOfWord? {text : Text} {value : Bool}
    (found : boolOfWord? text = some value) : isLikePattern text = false := by
  -- There are two words, and neither of them has a wild character.
  rw [boolOfWord?_eq_some_iff.mp found]
  cases value <;> decide

/-- No numeral is a pattern. -/
theorem isLikePattern_of_numeral? {text digits : Text} (found : numeral? text = some digits) :
    isLikePattern text = false := by
  -- None of the characters that make up patterns belongs to numerals.
  rw [Bool.eq_false_iff, ne_eq, isLikePattern_iff]
  intro held
  cases held with
  | @mark text c wild there =>
    rcases wild with rfl | rfl
    · exact not_mem_of_numeral? found (by decide) (by decide) there
    · exact not_mem_of_numeral? found (by decide) (by decide) there
  | brackets shape => exact not_mem_of_numeral? (c := '[') found (by decide) (by decide) (by simp)

/-- A pattern is no word of a boolean and no numeral. -/
theorem not_bare_of_isLikePattern {text : Text} (pattern : isLikePattern text = true) :
    boolOfWord? text = none ∧ numeral? text = none := by
  -- A boolean or a number would be no pattern.
  simp only [Option.eq_none_iff_forall_ne_some]
  constructor
  · intro value word
    rw [isLikePattern_of_boolOfWord? word] at pattern
    cases pattern
  · intro digits number
    rw [isLikePattern_of_numeral? number] at pattern
    cases pattern

/-- A text that is a call is a pattern exactly if the call is, since there are only gaps around. -/
theorem isLikePattern_of_functionCall? {text call : Text}
    (found : functionCall? text = some call) : isLikePattern text = isLikePattern call := by
  -- A gap in front of a call or behind it opens and closes no brackets.
  obtain ⟨front, back, before, -, behind, rfl⟩ := exists_gaps_of_functionCall? found
  exact isLikePattern_between_gaps before behind call

/-- A text that is a call is written as that call. -/
theorem writeValue_of_functionCall? {text call : Text} (found : functionCall? text = some call) :
    writeValue (.text text) = call := by
  -- A literal looks for booleans and numerals first, and no call has one of these shapes.
  have noBool : boolOfWord? text = none := by
    rw [Option.eq_none_iff_forall_ne_some]
    intro value word
    rw [(exclusion_of_boolOfWord? word).2.2.2.1] at found
    cases found
  have noNumeral : numeral? text = none := by
    rw [Option.eq_none_iff_forall_ne_some]
    intro digits number
    rw [(exclusion_of_numeral? number).2.2.1] at found
    cases found
  simp [writeValue, Literal.ofScalar, Literal.ofText, noBool, noNumeral, found, Literal.write]

/-- A text is compared as a pattern exactly if it is one. -/
theorem comparesByLike_text_iff {text : Text} :
    ComparesByLike (.text text) ↔ isLikePattern text = true := by
  constructor
  · intro compared
    cases compared with
    | quoted _ wild => exact isLikePattern_iff.mpr wild
    | call called wild =>
      rw [isLikePattern_of_functionCall? called]
      exact isLikePattern_iff.mpr wild
  · intro pattern
    -- A pattern stands in quotes unless it is a call, for the other bare forms are no patterns.
    obtain ⟨noBool, noNumeral⟩ := not_bare_of_isLikePattern pattern
    cases called : functionCall? text with
    | some call =>
      -- A call is written without the gaps around it, and no wildcard is lost with those.
      have written := writeValue_of_functionCall? called
      rw [isLikePattern_of_functionCall? called] at pattern
      rw [← written] at called pattern
      exact .call called (isLikePattern_iff.mp pattern)
    | none =>
      have literal : writeValue (.text text) = quoteString text := by
        simp [writeValue, Literal.ofScalar, Literal.ofText, noBool, noNumeral, called,
          Literal.write]
      exact .quoted literal (isLikePattern_iff.mp pattern)

/-- A value is compared as a pattern exactly if `LIKE` is its operator. -/
theorem comparisonOperator_eq_like_iff {value : Scalar} :
    comparisonOperator value = "LIKE".toList ↔ ComparesByLike value := by
  cases value with
  | text text =>
    rw [comparesByLike_text_iff]
    cases pattern : isLikePattern text <;> simp [comparisonOperator, pattern]
  | _ =>
    -- Only texts can be patterns.
    refine ⟨fun same => ?_, fun compared => by cases compared⟩
    simp [comparisonOperator] at same

/-- Null is what `IS` stands for. -/
theorem comparisonOperator_eq_is_iff {value : Scalar} :
    comparisonOperator value = "IS".toList ↔ value = .null := by
  -- Only a text makes a choice, and null is no text.
  cases value with
  | text text => cases pattern : isLikePattern text <;> simp [comparisonOperator, pattern]
  | _ => simp [comparisonOperator]

/-- There are three operators. -/
theorem comparisonOperator_cases (value : Scalar) :
    comparisonOperator value = "IS".toList ∨ comparisonOperator value = "LIKE".toList ∨
      comparisonOperator value = "=".toList := by
  -- A text is a pattern or not, and everything else has one operator.
  unfold comparisonOperator
  split
  · exact .inl rfl
  · split
    · exact .inr (.inl rfl)
    · exact .inr (.inr rfl)
  · exact .inr (.inr rfl)

/-- All values but null and the patterns are compared by an equals sign. -/
theorem comparisonOperator_eq_equals_iff {value : Scalar} :
    comparisonOperator value = "=".toList ↔ value ≠ .null ∧ ¬ ComparesByLike value := by
  -- The equals sign is what is left once the other two are ruled out.
  rw [ne_eq, ← comparisonOperator_eq_is_iff, ← comparisonOperator_eq_like_iff]
  rcases comparisonOperator_cases value with same | same | same <;> rw [same] <;> decide

/--
A field is compared by the operator that the right side calls for.

`IS` stands in front of null, and `LIKE` in front of the patterns: quoted literals of texts that
hold a wildcard, and calls that hold one as they are written. An equals sign stands in front of all
else, and so in front of all texts that are written as words of booleans or as numbers.
-/
theorem writeComparison_by_operator (field : Text) (value : Scalar) :
    (writeComparison field value = writeReference .numeric field ++
        ' ' :: comparisonOperator value ++ ' ' :: writeValue value) ∧
      (comparisonOperator value = "IS".toList ↔ value = .null) ∧
      (comparisonOperator value = "LIKE".toList ↔ ComparesByLike value) ∧
      (comparisonOperator value = "=".toList ↔ value ≠ .null ∧ ¬ ComparesByLike value) ∧
      ∀ text, value = .text text → (boolOfWord? text ≠ none ∨ numeral? text ≠ none) →
        comparisonOperator value = "=".toList := by
  refine ⟨rfl, comparisonOperator_eq_is_iff, comparisonOperator_eq_like_iff,
    comparisonOperator_eq_equals_iff, ?bare⟩
  -- A text that stands bare is no pattern, so it is compared as a whole.
  case bare =>
    rintro text rfl bare
    rw [comparisonOperator_eq_equals_iff, comparesByLike_text_iff]
    refine ⟨nofun, ?_⟩
    rcases bare with word | number
    · obtain ⟨value, found⟩ := Option.ne_none_iff_exists'.mp word
      simp [isLikePattern_of_boolOfWord? found]
    · obtain ⟨digits, found⟩ := Option.ne_none_iff_exists'.mp number
      simp [isLikePattern_of_numeral? found]

/-- A text that spells a number is compared by an equals sign. -/
theorem writeComparison_by_operator_numeral :
    numeral? " 1e3 ".toList ≠ none ∧ comparisonOperator (.text " 1e3 ".toList) = "=".toList := by
  -- The number stays one with white space around it, and so it is no pattern.
  have number : numeral? " 1e3 ".toList ≠ none := by decide +kernel
  obtain ⟨-, -, -, -, bare⟩ := writeComparison_by_operator "a".toList (.text " 1e3 ".toList)
  exact ⟨number, bare _ rfl (.inr number)⟩

/-- The underscore of a call makes a pattern of it, although the call is no quoted literal. -/
theorem like_of_unquoted_call :
    writeComparison "a".toList (.text "f_x()".toList) = "`a` LIKE f_x()".toList ∧
      comparisonOperator (.text "f_x()".toList) = "LIKE".toList ∧
      ¬ ∃ text, writeValue (.text "f_x()".toList) = quoteString text := by
  -- The underscore is a wild character, and the call stands without quotes.
  have written : writeValue (.text "f_x()".toList) = "f_x()".toList := by decide +kernel
  refine ⟨by decide +kernel, by decide +kernel, ?_⟩
  rintro ⟨text, quoted⟩
  rw [written] at quoted
  cases quoted

end SqlWriter
