import SqlWriter.Proofs.Dialect.Skeleton
import SqlWriter.Proofs.Reference.Quoted

/-! Values and names as lexemes: what each of them is cut into, and which texts stand in quotes. -/

namespace SqlWriter

/-- A value that is neither a floating point number, nor a call, nor a piece of a statement. -/
def Scalar.IsPlain : Scalar → Prop
  | .null | .bool _ | .int _ => True
  | .text words => functionCall? words = none
  | .float _ | .raw _ => False

/-- The text of a value if it stands in quotes, as neither a boolean nor a number does. -/
def Scalar.quotedText? : Scalar → Option Text
  | .text words => if boolOfWord? words = none ∧ numeral? words = none then some words else none
  | _ => none

/-- A value with another text in the place of one in quotes. -/
def Scalar.withQuoted (replace : Text → Text) (value : Scalar) : Scalar :=
  match value.quotedText? with
  | some words => .text (replace words)
  | none => value

/-- A name without any of the shapes that references have. -/
structure IsPlainName (name : Text) : Prop where
  shapeless : IsShapeless .numeric name
  noCall : functionCall? name = none

/-- A plain name is quoted part by part. -/
theorem IsPlainName.lexesLike {name : Text} (plain : IsPlainName name) :
    LexesLike (writeReference .numeric name) (writeReference .numeric name)
      (name.splitOn '.') [] := by
  -- A path has its names and no literals, so it is its own sample.
  have lexed : Lexes (writeReference .numeric name) (pathLexemes (name.splitOn '.')) := by
    rw [plain.shapeless.writeReference_eq plain.noCall rfl]
    exact (lexesBefore_quotePath name).mono fun _ delimited => delimited.2
  have itself := LexesLike.self lexed
  rwa [(pathLexemes_name? _).1, (pathLexemes_name? _).2] at itself

/-- A text that is no boolean, no number and no call stands in quotes. -/
theorem Literal.ofText_eq_text {text : Text} (noBool : boolOfWord? text = none)
    (noNumeral : numeral? text = none) (noCall : functionCall? text = none) :
    Literal.ofText text = .text text := by
  -- The shapes are tried in order, and each test fails.
  simp [Literal.ofText, noBool, noNumeral, noCall]

/-- The word of a boolean is one lexeme without a name or a text in quotes. -/
theorem lexesLike_bool (value : Bool) : LexesLike (boolWord value) (boolWord value) [] [] := by
  -- Both words are plain ones that spell no number.
  cases value <;> exact .self (lexes_word _ (by decide) (by decide) (by decide))

/-- Digits behind a sign, or without one, spell the number that they are the digits of. -/
theorem ofText?_of_takeSign {text body : Text} {negative : Bool}
    (sign : takeSign text = (negative, body)) (present : body ≠ [])
    (digits : ∀ c ∈ body, c.isDigit = true) :
    Decimal.ofText? text = some ⟨negative, digitsValue body, 0⟩ := by
  -- The whole body is taken for the digits, so that no fraction and no exponent is left to read.
  have whole : body.takeWhile Char.isDigit = body := List.takeWhile_eq_self_iff.mpr digits
  have behind : body.dropWhile Char.isDigit = [] := List.dropWhile_eq_nil_iff.mpr digits
  simp [Decimal.ofText?, sign, whole, behind, takeFraction, present, exponentOfText?]

/-- The digits of a number spell it again. -/
theorem digitsValue_natText (n : Nat) : digitsValue (natText n) = n :=
  -- Reading digits in their base is the inverse of writing them.
  Nat.ofDigitChars_toDigits (by decide) (by decide)

/-- The text of an integer spells that integer. -/
theorem ofText?_intText (value : Int) :
    Decimal.ofText? (intText value) = some (Decimal.ofInt value) := by
  have digits : ∀ n, ∀ c ∈ natText n, c.isDigit = true := fun n c there =>
    Nat.isDigit_of_mem_toDigits (by decide) (by decide) there
  have present : ∀ n, natText n ≠ [] := fun n => Nat.toDigits_ne_nil
  cases value with
  | ofNat n =>
    -- A digit in front is no sign.
    obtain ⟨c, rest, shape⟩ := List.exists_cons_of_ne_nil (present n)
    have digit : c.isDigit = true := digits n c (by simp [shape])
    have unsigned : takeSign (natText n) = (false, natText n) := by
      rw [shape, takeSign]
      · rintro _ ⟨⟩
        cases digit
      · rintro _ ⟨⟩
        cases digit
    rw [intText, ofText?_of_takeSign unsigned (present n) (digits n), digitsValue_natText]
    simp [Decimal.ofInt]
  -- A negative integer starts with its sign, and its digits are those of its size.
  | negSucc n =>
    have signed : takeSign ('-' :: natText (n + 1)) = (true, natText (n + 1)) := rfl
    rw [intText, ofText?_of_takeSign signed (present (n + 1)) (digits (n + 1)),
      digitsValue_natText]
    simp [Decimal.ofInt, Int.negSucc_lt_zero]

/-- A plain value is one lexeme, whose text can be any other one that stands in quotes. -/
theorem Scalar.IsPlain.lexesLike {value : Scalar} (plain : value.IsPlain) {replace : Text → Text}
    (quotes : ∀ text, Literal.ofText (replace text) = .text (replace text)) :
    LexesLike (writeValue value) (writeValue (value.withQuoted replace)) []
      value.quotedText?.toList := by
  cases value with
  | null => exact .self (lexes_word "NULL".toList (by decide) (by decide) (by decide))
  | bool value => exact lexesLike_bool value
  | int value =>
    exact .self (lexes_number (ofText?_intText value.toInt))
  | text words =>
    by_cases quoted : boolOfWord? words = none ∧ numeral? words = none
    · -- The text and the one in its place are both between quotes.
      have itself : (Scalar.text words).quotedText? = some words := if_pos quoted
      simp only [Scalar.withQuoted, itself, writeValue, Literal.ofScalar, quotes,
        Literal.ofText_eq_text quoted.1 quoted.2 plain]
      exact .quoteString words (replace words)
    · -- The words of booleans and numbers stand bare, so there is nothing to replace.
      have bare : (Scalar.text words).quotedText? = none := if_neg quoted
      simp only [Scalar.withQuoted, bare, writeValue, Literal.ofScalar, Literal.ofText]
      cases bool : boolOfWord? words with
      | some value => exact lexesLike_bool value
      | none =>
        cases number : numeral? words with
        | some digits =>
          obtain ⟨_, decimal, spelled, _⟩ := finite_of_numeral? number
          exact .self (lexes_number spelled)
        | none => exact absurd ⟨bool, number⟩ quoted
  -- Neither a float nor a raw text is plain.
  | float value => exact plain.elim
  | raw sql => exact plain.elim

end SqlWriter
