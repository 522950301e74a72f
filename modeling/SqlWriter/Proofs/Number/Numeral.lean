import SqlWriter.Proofs.Number.Decimal
import SqlWriter.Proofs.Reference.Order
import SqlWriter.Proofs.Value.Visible

/-! Numerals: how numbers are spelled, which texts are read as one, and where they stand bare. -/

namespace SqlWriter

section grammar

/-- A sign is a plus or a minus, or nothing at all. -/
inductive IsSign : Text → Bool → Prop where
  | none : IsSign [] false
  | plus : IsSign ['+'] false
  | minus : IsSign ['-'] true

/-- A mantissa is digits with at most one dot anywhere, and with at least one digit. -/
inductive IsMantissa : Text → ℚ → Prop where
  | whole {digits : Text} (run : IsRun Char.isDigit digits) : IsMantissa digits (wholeNumber digits)
  | pointed {whole fraction : Text} (front : ∀ c ∈ whole, c.isDigit = true)
    (back : ∀ c ∈ fraction, c.isDigit = true) (present : whole ++ fraction ≠ []) :
    IsMantissa (whole ++ '.' :: fraction) (wholeNumber whole + fractionNumber fraction)

/-- An exponent is a mark with a sign and at least one digit behind it, or nothing at all. -/
inductive IsExponent : Text → ℤ → Prop where
  | none : IsExponent [] 0
  | power {mark : Char} {sign digits : Text} {negative : Bool} (marked : mark = 'e' ∨ mark = 'E')
    (signed : IsSign sign negative) (run : IsRun Char.isDigit digits) :
    IsExponent (mark :: (sign ++ digits)) (signFactor negative * wholeNumber digits)

/-- A numeral is a sign, a mantissa and an exponent, and the three of them make its value. -/
inductive IsNumeral : Text → ℚ → Prop where
  | intro {sign mantissa exponent : Text} {negative : Bool} {value : ℚ} {power : ℤ}
    (signed : IsSign sign negative) (counted : IsMantissa mantissa value)
    (scaled : IsExponent exponent power) :
    IsNumeral (sign ++ (mantissa ++ exponent)) (signFactor negative * value * 10 ^ power)

end grammar

section sign

/-- A digit is no sign. -/
theorem unsigned_of_isDigit {c : Char} (digit : c.isDigit = true) : c ≠ '-' ∧ c ≠ '+' := by
  -- A sign is tested as a digit, which fails.
  constructor <;> rintro rfl <;> cases digit

/-- What is taken for the sign of a text is one, and stands in front of it. -/
theorem exists_isSign (text : Text) :
    ∃ sign, IsSign sign (takeSign text).1 ∧ text = sign ++ (takeSign text).2 := by
  -- The three ways to take a sign are the three ways to write one.
  unfold takeSign
  split
  · exact ⟨_, .minus, rfl⟩
  · exact ⟨_, .plus, rfl⟩
  · exact ⟨_, .none, rfl⟩

/-- A sign is taken off a text that goes on with no other sign. -/
theorem IsSign.takeSign_append {sign rest : Text} {negative : Bool} (signed : IsSign sign negative)
    (unsigned : ∀ c ∈ rest.head?, c ≠ '-' ∧ c ≠ '+') :
    takeSign (sign ++ rest) = (negative, rest) := by
  cases signed with
  | plus => rfl
  | minus => rfl
  | none =>
    -- What looks like a sign belongs to the rest, which does not start with one.
    rw [List.nil_append]
    unfold takeSign
    split
    · exact absurd rfl (unsigned '-' rfl).1
    · exact absurd rfl (unsigned '+' rfl).2
    · rfl

end sign

section exponent

/-- An exponent is read exactly from the texts that spell it. -/
theorem exponentOfText?_iff_isExponent {text : Text} {power : ℤ} :
    exponentOfText? text = some power ↔ IsExponent text power := by
  constructor
  · intro spelled
    -- The reader is followed test by test, and each of its ways out is one form of the grammar.
    unfold exponentOfText? at spelled
    split at spelled
    · cases spelled
      exact .none
    · rename_i mark rest
      -- What the reader takes for a sign is one of the grammar.
      obtain ⟨sign, signed, shape⟩ := exists_isSign rest
      split at spelled
      · rename_i marked
        simp only at spelled
        split at spelled
        · rename_i digits
          simp only [Bool.and_eq_true, decide_eq_true_eq, List.all_eq_true] at digits
          simp only [Bool.or_eq_true, decide_eq_true_eq] at marked
          rw [← signFactor_mul, digitsValue_eq_wholeNumber] at spelled
          rw [← Option.some.inj spelled]
          nth_rewrite 1 [shape]
          exact .power marked signed ⟨digits.1, digits.2⟩
        · cases spelled
      · cases spelled
  · intro spelled
    cases spelled with
    | none => rfl
    | @power mark sign digits negative marked signed run =>
      -- The digits go on with no second sign, so the reader stops where the grammar does.
      have unsigned : ∀ c ∈ digits.head?, c ≠ '-' ∧ c ≠ '+' := fun c first =>
        unsigned_of_isDigit (run.inside c (List.mem_of_mem_head? first))
      rw [exponentOfText?, if_pos (by simpa using marked), signed.takeSign_append unsigned]
      simp only
      rw [if_pos (by simpa using ⟨run.present, run.inside⟩), ← signFactor_mul,
        digitsValue_eq_wholeNumber]

/-- An exponent starts with its mark, and so with no digit and no dot. -/
theorem IsExponent.head {text : Text} {power : ℤ} (scaled : IsExponent text power) :
    ∀ c ∈ text.head?, c = 'e' ∨ c = 'E' := by
  -- Either there is nothing, or the mark is the first character.
  cases scaled with
  | none => simp
  | power marked _ _ => simpa using marked

end exponent

section mantissa

/-- A mantissa starts with a digit or with a dot. -/
theorem IsMantissa.head {mantissa : Text} {value : ℚ} (counted : IsMantissa mantissa value)
    (rest : Text) : ∀ c ∈ (mantissa ++ rest).head?, c.isDigit = true ∨ c = '.' := by
  -- What stands first is the first digit, or the dot if no digit is in front of it.
  cases counted with
  | whole run =>
    obtain ⟨c, tail, rfl⟩ := List.exists_cons_of_ne_nil run.present
    rintro _ ⟨⟩
    exact .inl (run.inside c List.mem_cons_self)
  | @pointed whole fraction front _ _ =>
    cases whole with
    | nil =>
      rintro _ ⟨⟩
      exact .inr rfl
    | cons c tail =>
      rintro _ ⟨⟩
      exact .inl (front c List.mem_cons_self)

/-- The digits in front of a dot and behind it are a mantissa if there are any. -/
theorem exists_isMantissa {body whole fraction rest : Text}
    (front : body.takeWhile Char.isDigit = whole)
    (behind : takeFraction (body.dropWhile Char.isDigit) = (fraction, rest))
    (present : whole ++ fraction ≠ []) :
    ∃ mantissa, IsMantissa mantissa (wholeNumber whole + fractionNumber fraction) ∧
      body = mantissa ++ rest := by
  have shape : body = whole ++ body.dropWhile Char.isDigit := by
    rw [← front, List.takeWhile_append_dropWhile]
  have digits : ∀ c ∈ whole, c.isDigit = true := by
    rw [← front]
    exact fun c there => List.mem_takeWhile_imp there
  generalize body.dropWhile Char.isDigit = tail at shape behind
  unfold takeFraction at behind
  split at behind
  · -- The dot is part of the mantissa.
    rename_i next
    cases behind
    refine ⟨_, .pointed digits (fun c there => List.mem_takeWhile_imp there) present, ?_⟩
    rw [shape, List.append_assoc, List.cons_append, List.takeWhile_append_dropWhile]
  · -- Without a dot, the digits in front are the whole mantissa.
    cases behind
    rw [List.append_nil] at present
    rw [fractionNumber, add_zero]
    exact ⟨whole, .whole ⟨present, digits⟩, shape⟩

/-- A mantissa is taken off a text that goes on with neither a digit nor a dot. -/
theorem IsMantissa.exists_take {mantissa rest : Text} {value : ℚ}
    (counted : IsMantissa mantissa value)
    (ends : ∀ c ∈ rest.head?, c.isDigit = false ∧ c ≠ '.') :
    ∃ whole fraction, (mantissa ++ rest).takeWhile Char.isDigit = whole ∧
      takeFraction ((mantissa ++ rest).dropWhile Char.isDigit) = (fraction, rest) ∧
      whole ++ fraction ≠ [] ∧ value = wholeNumber whole + fractionNumber fraction := by
  -- Behind the mantissa neither run of digits goes on.
  have noDigit : ∀ c ∈ rest.head?, c.isDigit = false := fun c first => (ends c first).1
  cases counted with
  | whole run =>
    obtain ⟨taken, dropped⟩ := takeWhile_dropWhile_run run.inside noDigit
    refine ⟨mantissa, [], taken, ?_, by simpa using run.present, by simp [fractionNumber]⟩
    rw [dropped]
    unfold takeFraction
    split
    · -- Without a dot of its own, the mantissa must not take one from the rest.
      exact absurd rfl (ends '.' rfl).2
    · rfl
  | @pointed whole fraction front back present =>
    have dot : ∀ c ∈ ('.' :: (fraction ++ rest)).head?, c.isDigit = false := by
      rintro _ ⟨⟩
      rfl
    -- The dot ends the first run, and the rest ends the second.
    obtain ⟨taken, dropped⟩ := takeWhile_dropWhile_run front dot
    obtain ⟨takenBehind, droppedBehind⟩ := takeWhile_dropWhile_run back noDigit
    refine ⟨whole, fraction, ?_, ?_, present, rfl⟩
    · rw [List.append_assoc, List.cons_append, taken]
    · rw [List.append_assoc, List.cons_append, dropped, takeFraction, takenBehind, droppedBehind]

end mantissa

section numeral

/-- What is read as a decimal is a numeral, and the decimal has its value. -/
theorem isNumeral_of_ofText? {text : Text} {number : Decimal}
    (spelled : Decimal.ofText? text = some number) : IsNumeral text number.value := by
  -- The parts that the reader cuts off are put together again from the front.
  obtain ⟨sign, signed, shape⟩ := exists_isSign text
  simp only [Decimal.ofText?] at spelled
  split at spelled
  · cases spelled
  · -- Each part is taken by its own lemma, and the value is that of the digits around the dot.
    rename_i present
    obtain ⟨power, scaled, rfl⟩ := Option.map_eq_some_iff.mp spelled
    obtain ⟨mantissa, counted, body⟩ := exists_isMantissa rfl rfl present
    rw [Decimal.value_point]
    nth_rewrite 1 [shape, body]
    exact .intro signed counted (exponentOfText?_iff_isExponent.mp scaled)

/-- A numeral is read as a decimal, which has its value. -/
theorem IsNumeral.exists_ofText? {text : Text} {value : ℚ} (numeral : IsNumeral text value) :
    ∃ number, Decimal.ofText? text = some number ∧ number.value = value := by
  cases numeral with
  | @intro sign mantissa exponent negative value power signed counted scaled =>
    -- No part takes anything from the one behind it, because of what that one starts with.
    have unsigned : ∀ c ∈ (mantissa ++ exponent).head?, c ≠ '-' ∧ c ≠ '+' := by
      intro c first
      rcases counted.head exponent c first with digit | rfl
      · exact unsigned_of_isDigit digit
      · decide
    have ends : ∀ c ∈ exponent.head?, c.isDigit = false ∧ c ≠ '.' := by
      intro c first
      rcases scaled.head c first with rfl | rfl <;> decide
    obtain ⟨whole, fraction, front, behind, present, rfl⟩ := counted.exists_take ends
    have read : exponentOfText? exponent = some power := exponentOfText?_iff_isExponent.mpr scaled
    -- The digits behind the point are paid for by the power.
    refine ⟨⟨negative, digitsValue (whole ++ fraction), power - fraction.length⟩, ?_,
      Decimal.value_point negative whole fraction power⟩
    rw [Decimal.ofText?, signed.takeSign_append unsigned]
    simp only [front, behind]
    rw [if_neg present, read, Option.map_some]

/-- A text spells one number at most. -/
theorem IsNumeral.unique {text : Text} {value other : ℚ} (first : IsNumeral text value)
    (second : IsNumeral text other) : other = value := by
  -- The reader gives one decimal, whose value both of them are.
  obtain ⟨number, spelled, rfl⟩ := first.exists_ofText?
  obtain ⟨same, again, rfl⟩ := second.exists_ofText?
  rw [Option.some.inj (again.symm.trans spelled)]

/-- A text is read as a number exactly if it spells a finite one when it is trimmed. -/
theorem numeral?_iff_isNumeral {text digits : Text} :
    numeral? text = some digits ↔
      digits = trim text ∧ ∃ value, IsNumeral digits value ∧ RoundsToFinite value := by
  constructor
  · intro found
    -- Both sides ask for the same two things, once of the decimal and once of its value.
    obtain ⟨trimmed, number, spelled, finite⟩ := finite_of_numeral? found
    exact ⟨trimmed, number.value, isNumeral_of_ofText? spelled, number.isFinite_iff.mp finite⟩
  · rintro ⟨rfl, value, numeral, finite⟩
    obtain ⟨number, spelled, rfl⟩ := numeral.exists_ofText?
    simp only [numeral?, spelled]
    rw [if_pos (number.isFinite_iff.mpr finite)]

/-- A numeral between white space is what trimming leaves. -/
theorem IsNumeral.trim_between {front digits back : Text} {value : ℚ}
    (numeral : IsNumeral digits value) (before : ∀ c ∈ front, isWhite c = true)
    (behind : ∀ c ∈ back, isWhite c = true) : trim (front ++ digits ++ back) = digits := by
  -- No character of a numeral is white, so that only what stands around it is trimmed.
  obtain ⟨number, spelled, -⟩ := numeral.exists_ofText?
  rw [trim_append_white behind, trim_white_append before]
  exact trim_of_visible fun c there =>
    not_isWhite_of_isNumberChar (isNumberChar_of_ofText? spelled there)

/-- A text is read as a number exactly if that number is finite and stands between white space. -/
theorem numeral?_eq_some_iff {text digits : Text} :
    numeral? text = some digits ↔
      ∃ front back value, (∀ c ∈ front, isWhite c = true) ∧ (∀ c ∈ back, isWhite c = true) ∧
        text = front ++ digits ++ back ∧ IsNumeral digits value ∧ RoundsToFinite value := by
  -- White space around a text is another way to say what trimming takes away.
  rw [numeral?_iff_isNumeral]
  constructor
  · rintro ⟨rfl, value, numeral, finite⟩
    obtain ⟨front, back, before, behind, shape⟩ := exists_white_around text
    exact ⟨front, back, value, before, behind, shape, numeral, finite⟩
  · rintro ⟨front, back, value, before, behind, rfl, numeral, finite⟩
    exact ⟨(numeral.trim_between before behind).symm, value, numeral, finite⟩

end numeral

section written

/-- The characters of numerals are digits, signs, dots and marks of exponents. -/
theorem isNumberChar_iff {c : Char} :
    isNumberChar c = true ↔ c.isDigit = true ∨ c ∈ ['+', '-', '.', 'e', 'E'] := by
  -- The two sides list the same characters in another order.
  simp only [isNumberChar, Bool.or_eq_true, beq_iff_eq, List.mem_cons, List.not_mem_nil, or_false]
  tauto

/-- A natural number is written with digits. -/
theorem isNumberChar_natText {n : ℕ} {c : Char} (there : c ∈ natText n) : isNumberChar c = true :=
  -- All digits in base ten are digits as characters.
  isNumberChar_of_isDigit (Nat.isDigit_of_mem_toDigits (by decide) (by decide) there)

/-- A number in full is written with digits and a dot. -/
theorem isNumberChar_positional {digits : ℕ} {exponent : ℤ} {c : Char}
    (there : c ∈ positional digits exponent) : isNumberChar c = true := by
  have zero : ∀ count, ∀ c ∈ List.replicate count '0', isNumberChar c = true := by
    intro count c inside
    rw [List.eq_of_mem_replicate inside]
    rfl
  cases exponent with
  | ofNat zeros =>
    -- Zeros behind the digits are digits, too.
    exact (List.mem_append.mp there).elim isNumberChar_natText (zero zeros c)
  | negSucc places =>
    -- The dot stands among the digits and the zeros in front of them.
    have padded : ∀ count, ∀ c ∈ List.replicate count '0' ++ natText digits,
        isNumberChar c = true := fun count c inside =>
      (List.mem_append.mp inside).elim (zero count c) isNumberChar_natText
    rcases List.mem_append.mp there with front | behind
    · exact padded _ c (List.mem_of_mem_take front)
    · rcases List.mem_cons.mp behind with rfl | back
      · rfl
      · exact padded _ c (List.mem_of_mem_drop back)

/-- A sign is a character of numerals too. -/
theorem isNumberChar_signed {negative : Bool} {text : Text}
    (plain : ∀ c ∈ text, isNumberChar c = true) {c : Char} (there : c ∈ signed negative text) :
    isNumberChar c = true := by
  -- A minus is a character of numerals, and nothing else is put in front.
  cases negative with
  | false => exact plain c there
  | true =>
    rcases List.mem_cons.mp there with rfl | behind
    · rfl
    · exact plain c behind

/-- A finite double is written with the characters of numerals. -/
theorem isNumberChar_numberText {x : Float} (finite : isFiniteFloat x = true) {c : Char}
    (there : c ∈ numberText x) : isNumberChar c = true := by
  have zero : ∀ c ∈ ['0'], isNumberChar c = true := List.forall_mem_singleton.mpr rfl
  -- The names of the other doubles are left out, as those are not finite.
  unfold isFiniteFloat at finite
  unfold numberText at there
  split at there
  · exact zero c there
  · unfold floatText at there
    split at there
    · rename_i undefined
      simp [undefined] at finite
    · rename_i infinite
      simp [infinite] at finite
    · exact isNumberChar_signed zero there
    · exact isNumberChar_signed (fun _ => isNumberChar_positional) there

/-- Literals that are written as numbers. -/
def Literal.IsNumber : Literal → Prop
  | .integer _ | .number _ => True
  | _ => False

/-- A text is written as a number exactly if it is read as one. -/
theorem Literal.ofText_eq_number_iff {text digits : Text} :
    Literal.ofText text = .number digits ↔ numeral? text = some digits := by
  unfold Literal.ofText
  split
  · rename_i value word
    -- The words of booleans are no numerals.
    rw [(exclusion_of_boolOfWord? word).1]
    simp
  · split
    · rename_i found
      simp [found]
    · rename_i none
      split <;> simp [none]

/-- Whatever is written as a number has the characters of numerals. -/
theorem Literal.isNumberChar_of_isNumber {allowNull : Bool} {value : Scalar}
    (number : (Literal.ofScalar allowNull value).IsNumber) :
    ∀ c ∈ (Literal.ofScalar allowNull value).write, isNumberChar c = true := by
  intro c there
  cases value with
  | null => cases allowNull <;> exact number.elim
  | bool value => exact number.elim
  | raw sql => exact number.elim
  | int value => exact isNumberChar_of_ofText? (ofText?_intText value.toInt) there
  | float value =>
    simp only [Literal.ofScalar] at number there
    split at there
    · -- A double that is not finite has a name, and is no number.
      rename_i finite
      exact isNumberChar_numberText finite there
    · rename_i finite
      rw [if_neg finite] at number
      exact number.elim
  | text words =>
    cases found : numeral? words with
    | some digits =>
      obtain ⟨-, decimal, spelled, -⟩ := finite_of_numeral? found
      rw [Literal.ofScalar, Literal.ofText_eq_number_iff.mpr found] at there
      exact isNumberChar_of_ofText? spelled there
    | none =>
      -- What is left are the words of booleans, calls and texts in quotes.
      simp only [Literal.ofScalar, Literal.ofText, found] at number
      split at number
      · exact number.elim
      · split at number <;> exact number.elim

/-- A reference that may be a number is written as the number that it is read as. -/
theorem writeReference_of_numeral? {style : ReferenceStyle} {text digits : Text}
    (numbers : style.bareNumbers = true) (found : numeral? text = some digits) :
    writeReference style text = digits := by
  -- The number is one of the shapes, and a text is written by any shape that it has.
  have fits : ReferenceShape.numeral.write? style text = some digits := by
    rw [ReferenceShape.write?, ReferenceStyle.numeral?, if_pos numbers, found]
  exact ReferenceShape.writeReference_of_write? fits

/--
A text is read as a number exactly if a finite one stands in it between white space.

The number keeps its spelling, and digits, signs, dots and marks of exponents are all that is ever
written as a number.
-/
theorem finite_numerals_stand_bare :
    (∀ text digits, numeral? text = some digits ↔
      ∃ front back value, (∀ c ∈ front, isWhite c = true) ∧ (∀ c ∈ back, isWhite c = true) ∧
        text = front ++ digits ++ back ∧ IsNumeral digits value ∧ RoundsToFinite value) ∧
    (∀ text digits, numeral? text = some digits → digits = trim text) ∧
    (∀ text value other, IsNumeral text value → IsNumeral text other → other = value) ∧
    (∀ value, RoundsToFinite value ↔ |value| < 2 ^ 1024 - 2 ^ 970) ∧
    (∀ text digits, Literal.ofText text = .number digits ↔ numeral? text = some digits) ∧
    (∀ style text digits, style.bareNumbers = true → numeral? text = some digits →
      writeReference style text = digits ∧
        ∀ c ∈ digits, c.isDigit = true ∨ c ∈ ['+', '-', '.', 'e', 'E']) ∧
    ∀ allowNull value, (Literal.ofScalar allowNull value).IsNumber →
      ∀ c ∈ (Literal.ofScalar allowNull value).write,
        c.isDigit = true ∨ c ∈ ['+', '-', '.', 'e', 'E'] := by
  refine ⟨fun _ _ => numeral?_eq_some_iff, fun _ _ found => (finite_of_numeral? found).1,
    fun _ _ _ => IsNumeral.unique, roundsToFinite_iff,
    fun _ _ => Literal.ofText_eq_number_iff, ?reference, ?literal⟩
  -- The characters of a reference are those of the decimal that was read.
  case reference =>
    intro style text digits numbers found
    obtain ⟨-, number, spelled, -⟩ := finite_of_numeral? found
    exact ⟨writeReference_of_numeral? numbers found,
      fun c there => isNumberChar_iff.mp (isNumberChar_of_ofText? spelled there)⟩
  case literal =>
    intro allowNull value number c there
    exact isNumberChar_iff.mp (Literal.isNumberChar_of_isNumber number c there)

/-- Of two numbers around the limit only the lower one is finite, and no infinity is a number. -/
theorem numerals_around_the_limit :
    writeReference .numeric "\u3000+01.50E+2 ".toList = "+01.50E+2".toList ∧
      (∀ value, IsNumeral "+01.50E+2".toList value ↔ value = 150) ∧
      (∃ value, IsNumeral "1.797693134862315807e308".toList value ∧
        |value| < 2 ^ 1024 - 2 ^ 970) ∧
      (∃ value, IsNumeral "1.797693134862315808e308".toList value ∧ ¬RoundsToFinite value) ∧
      (∀ digits, Literal.ofText "Infinity".toList ≠ .number digits) ∧
      ∀ c ∈ (Literal.ofScalar true (.text " -1.5 ".toList)).write,
        c.isDigit = true ∨ c ∈ ['+', '-', '.', 'e', 'E'] := by
  -- The general theorem is taken apart once, and each case uses one part of it.
  obtain ⟨reads, -, unique, finite, literals, references, marks⟩ := finite_numerals_stand_bare
  have alone : ∀ text value, IsNumeral text value → RoundsToFinite value →
      numeral? text = some text := fun text value numeral small =>
    (reads text text).mpr ⟨[], [], value, List.forall_mem_nil _, List.forall_mem_nil _,
      (List.append_nil text).symm, numeral, small⟩
  refine ⟨(references .numeric _ _ rfl (by decide +kernel)).1, ?value, ?below, ?above,
    ?infinity, ?marks⟩
  -- The value is unique, so it is enough to read the decimal once.
  case value =>
    have spelled : Decimal.ofText? "+01.50E+2".toList = some ⟨false, 150, 0⟩ := by decide +kernel
    have counted : Decimal.value ⟨false, 150, 0⟩ = 150 := by norm_num [Decimal.value, signFactor]
    have numeral := isNumeral_of_ofText? spelled
    rw [counted] at numeral
    refine fun value => ⟨unique _ _ _ numeral, ?_⟩
    rintro rfl
    exact numeral
  case below =>
    have found : numeral? "1.797693134862315807e308".toList =
        some "1.797693134862315807e308".toList := by decide +kernel
    obtain ⟨-, -, value, -, -, -, numeral, small⟩ := (reads _ _).mp found
    exact ⟨value, numeral, (finite value).mp small⟩
  -- If the upper number were finite, it would be read as one, which it is not.
  case above =>
    have refused : numeral? "1.797693134862315808e308".toList = none := by decide +kernel
    obtain ⟨number, spelled⟩ : ∃ number,
        Decimal.ofText? "1.797693134862315808e308".toList = some number := ⟨_, rfl⟩
    refine ⟨number.value, isNumeral_of_ofText? spelled, fun small => ?_⟩
    have found := alone _ number.value (isNumeral_of_ofText? spelled) small
    rw [refused] at found
    cases found
  -- The words for infinity spell no decimal, so they are texts.
  case infinity =>
    intro digits number
    have refused : numeral? "Infinity".toList = none := by decide +kernel
    rw [literals, refused] at number
    cases number
  case marks =>
    refine marks true (.text " -1.5 ".toList) ?_
    rw [Literal.ofScalar, (literals _ "-1.5".toList).mpr (by decide +kernel)]
    trivial

end written

end SqlWriter
