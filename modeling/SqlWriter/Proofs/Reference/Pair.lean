import SqlWriter.Proofs.Number.Numeral
import SqlWriter.Proofs.Reference.Quoted

/-! Two words with a dot between them: either they spell a decimal, or they are two names. -/

namespace SqlWriter

/-- No character of a path of words is white space, a parenthesis or a star. -/
theorem IsPath.marks {text : Text} (path : IsPath isWordChar text) :
    ∀ c ∈ text, isWhite c = false ∧ c ≠ '(' ∧ c ≠ '*' := by
  -- A path has characters of words and dots, and neither class has one of these.
  intro c there
  rcases path.inside c there with word | rfl
  · refine ⟨not_isWhite_of_isWordChar word, (ne_of_isWordChar word).2.2, ?_⟩
    rintro rfl
    exact absurd word (by decide)
  · decide

/-- Every character of a path of words can be seen. -/
theorem IsPath.visible {text : Text} (path : IsPath isWordChar text) :
    ∀ c ∈ text, isWhite c = false :=
  -- White space is the first of the characters that are not there.
  fun c there => (path.marks c there).1

/-- A path of words has none of four shapes. -/
theorem IsPath.exclusion {text : Text} (path : IsPath isWordChar text) :
    wildcard? text = none ∧ operatorChain? text = none ∧ functionCall? text = none ∧
      parenthesized? text = none := by
  -- Each of the four shapes needs a character that no path has.
  refine exclusion_of_marks (fun there => (path.marks _ there).2.2 rfl)
    (fun there => (path.marks _ there).2.1 rfl) fun c there => ?_
  rw [trim_of_visible path.visible] at there
  exact not_isGap_of_not_isWhite (path.visible c there)

section decimals

/-- The decimal that two words with a dot between them spell: digits, and an exponent if any. -/
inductive SpellsDecimal (table : Text) : Text → Decimal → Prop where
  | fraction {column : Text} (whole : ∀ c ∈ table, c.isDigit = true)
    (digits : ∀ c ∈ column, c.isDigit = true) :
    SpellsDecimal table column ⟨false, digitsValue (table ++ column), -column.length⟩
  | exponent {fraction exponent : Text} {mark : Char} (whole : ∀ c ∈ table, c.isDigit = true)
    (digits : ∀ c ∈ fraction, c.isDigit = true) (marked : mark = 'e' ∨ mark = 'E')
    (present : exponent ≠ []) (power : ∀ c ∈ exponent, c.isDigit = true) :
    SpellsDecimal table (fraction ++ mark :: exponent)
      ⟨false, digitsValue (table ++ fraction), digitsValue exponent - fraction.length⟩

/-- There is no dot in an exponent. -/
theorem IsExponent.not_mem_dot {text : Text} {power : ℤ} (scaled : IsExponent text power) :
    '.' ∉ text := by
  cases scaled with
  | none => exact List.not_mem_nil
  | @power mark sign digits _ marked signed run =>
    -- Behind the mark there are a sign and digits, and a dot is neither.
    have noDigit : '.' ∉ digits := fun there => absurd (run.inside _ there) (by decide)
    rcases marked with rfl | rfl <;> cases signed <;> simpa using noDigit

/-- In words, an exponent is nothing at all, or digits behind its mark. -/
theorem exponentOfText?_eq_some_iff {text : Text} (word : ∀ c ∈ text, isWordChar c = true)
    {power : Int} :
    exponentOfText? text = some power ↔
      text = [] ∧ power = 0 ∨
        ∃ mark exponent, text = mark :: exponent ∧ (mark = 'e' ∨ mark = 'E') ∧ exponent ≠ [] ∧
          (∀ c ∈ exponent, c.isDigit = true) ∧ power = digitsValue exponent := by
  have unsigned : ∀ digits, signFactor false * (wholeNumber digits : ℤ) = digitsValue digits := by
    intro digits
    rw [signFactor_mul, digitsValue_eq_wholeNumber, if_neg Bool.false_ne_true]
  rw [exponentOfText?_iff_isExponent]
  constructor
  · intro scaled
    cases scaled with
    | none => exact .inl ⟨rfl, rfl⟩
    | @power mark _ digits _ marked signed run =>
      -- No sign is a character of a word.
      cases signed with
      | none => exact .inr ⟨mark, digits, rfl, marked, run.present, run.inside, unsigned digits⟩
      | plus => exact absurd (word '+' (by simp)) (by decide)
      | minus => exact absurd (word '-' (by simp)) (by decide)
  · -- Digits behind the mark spell an exponent without a sign.
    rintro (⟨rfl, rfl⟩ | ⟨mark, digits, rfl, marked, present, inside, rfl⟩)
    · exact .none
    · rw [← unsigned]
      exact .power marked .none ⟨present, inside⟩

variable {table column : Text}

/-- A word in front of a dot has no sign. -/
theorem takeSign_pair (word : IsRun isWordChar table) :
    takeSign (table ++ '.' :: column) = (false, table ++ '.' :: column) := by
  have unsigned : ∀ c ∈ (table ++ '.' :: column).head?, c ≠ '-' ∧ c ≠ '+' := by
    -- The first character of the whole is that of the word.
    rw [List.head?_append_of_ne_nil _ word.present]
    intro c first
    have inside := word.inside c (List.mem_of_mem_head? first)
    constructor <;> rintro rfl <;> cases inside
  exact IsSign.none.takeSign_append unsigned

/-- Digits in front of the dot leave those behind it for the fraction, and then the exponent. -/
theorem ofText?_pair_of_digits (word : IsRun isWordChar table)
    (whole : ∀ c ∈ table, c.isDigit = true) :
    Decimal.ofText? (table ++ '.' :: column) =
      (exponentOfText? (column.dropWhile Char.isDigit)).map fun power =>
        ⟨false, digitsValue (table ++ column.takeWhile Char.isDigit),
          power - (column.takeWhile Char.isDigit).length⟩ := by
  have dot : ∀ c ∈ ('.' :: column).head?, c.isDigit = false := by
    rintro _ ⟨⟩
    decide
  obtain ⟨taken, dropped⟩ := takeWhile_dropWhile_run whole dot
  simp only [Decimal.ofText?, takeSign_pair word, taken, dropped, takeFraction]
  -- The word has a digit at least, so there are some to be read.
  rw [if_neg fun none => word.present (List.append_eq_nil_iff.mp none).1]

/-- A word in front of the dot that is not made of digits alone leaves no number to be read. -/
theorem ofText?_pair_of_other (word : IsRun isWordChar table)
    (other : ¬∀ c ∈ table, c.isDigit = true) :
    Decimal.ofText? (table ++ '.' :: column) = none := by
  -- The first character that is no digit is no dot either, so there is no fraction.
  have left : table.dropWhile Char.isDigit ≠ [] := by
    rwa [ne_eq, List.dropWhile_eq_nil_iff]
  obtain ⟨c, rest, shape⟩ := List.exists_cons_of_ne_nil left
  have dropped :
      (table ++ '.' :: column).dropWhile Char.isDigit = c :: (rest ++ '.' :: column) := by
    rw [List.dropWhile_append, shape]
    rfl
  have inside : c ∈ table := (List.dropWhile_sublist Char.isDigit).subset (by simp [shape])
  have noFraction : takeFraction (c :: (rest ++ '.' :: column)) =
      ([], c :: (rest ++ '.' :: column)) := by
    unfold takeFraction
    split
    · rename_i same
      obtain ⟨rfl, -⟩ := List.cons.inj same
      exact absurd (word.inside _ inside) (by decide)
    · rfl
  -- What is left would have to be an exponent, but it has the dot in it.
  have noExponent : exponentOfText? (c :: (rest ++ '.' :: column)) = none := by
    rw [Option.eq_none_iff_forall_ne_some]
    intro power spelled
    exact (exponentOfText?_iff_isExponent.mp spelled).not_mem_dot (by simp)
  simp [Decimal.ofText?, takeSign_pair word, dropped, noFraction, noExponent]

/-- Two words with a dot between them are read as the decimal that they spell. -/
theorem ofText?_pair_iff (tableWord : IsRun isWordChar table)
    (columnWord : IsRun isWordChar column) {number : Decimal} :
    Decimal.ofText? (table ++ '.' :: column) = some number ↔ SpellsDecimal table column number := by
  by_cases whole : ∀ c ∈ table, c.isDigit = true
  · have rest : ∀ c ∈ column.dropWhile Char.isDigit, isWordChar c = true := fun c there =>
      columnWord.inside c ((List.dropWhile_sublist Char.isDigit).subset there)
    rw [ofText?_pair_of_digits tableWord whole, Option.map_eq_some_iff]
    simp only [exponentOfText?_eq_some_iff rest]
    constructor
    · rintro ⟨power, (⟨nothing, rfl⟩ | ⟨mark, exponent, shape, marked, present, digits, rfl⟩), rfl⟩
      · -- The whole column is the fraction.
        have fraction : ∀ c ∈ column, c.isDigit = true := List.dropWhile_eq_nil_iff.mp nothing
        rw [List.takeWhile_eq_self_iff.mpr fraction, Int.zero_sub]
        exact .fraction whole fraction
      · -- The fraction ends at the mark, which is no digit.
        have split : column = column.takeWhile Char.isDigit ++ mark :: exponent := by
          rw [← shape, List.takeWhile_append_dropWhile]
        generalize fraction : column.takeWhile Char.isDigit = digitsBehind at split ⊢
        have inside : ∀ c ∈ digitsBehind, c.isDigit = true := by
          rw [← fraction]
          exact fun c there => List.mem_takeWhile_imp there
        rw [split]
        exact .exponent whole inside marked present digits
    · intro spelled
      cases spelled with
      | fraction _ digits =>
        refine ⟨0, .inl ⟨List.dropWhile_eq_nil_iff.mpr digits, rfl⟩, ?_⟩
        rw [List.takeWhile_eq_self_iff.mpr digits, Int.zero_sub]
      | @exponent fraction exponent mark _ digits marked present power =>
        -- The mark ends the digits of the fraction.
        have noDigit : ∀ c ∈ (mark :: exponent).head?, c.isDigit = false := by
          rintro _ ⟨⟩
          rcases marked with rfl | rfl <;> decide
        obtain ⟨taken, dropped⟩ := takeWhile_dropWhile_run digits noDigit
        refine ⟨_, .inr ⟨mark, exponent, dropped, marked, present, power, rfl⟩, ?_⟩
        rw [taken]
  · -- Both forms of a decimal start with digits.
    rw [ofText?_pair_of_other tableWord whole]
    refine iff_of_false (by simp) fun spelled => ?_
    cases spelled with
    | fraction digits _ => exact whole digits
    | exponent digits _ _ _ _ => exact whole digits

/-- Two words with a dot between them are a numeral exactly if they spell a finite decimal. -/
theorem numeral?_pair_iff (tableWord : IsRun isWordChar table)
    (columnWord : IsRun isWordChar column) :
    (numeral? (table ++ '.' :: column)).isSome = true ↔
      ∃ number, SpellsDecimal table column number ∧ number.isFinite = true := by
  -- There is nothing to trim around a path.
  have trimmed : trim (table ++ '.' :: column) = table ++ '.' :: column :=
    trim_of_visible (IsPath.cons tableWord (.part columnWord)).visible
  simp only [← ofText?_pair_iff tableWord columnWord, numeral?, trimmed]
  -- Both sides now ask whether one and the same decimal is finite.
  cases Decimal.ofText? (table ++ '.' :: column) with
  | none => simp
  | some number => cases finite : number.isFinite <;> simp [finite]

end decimals

section names

/-- Names without dots, joined by dots, are quoted one by one. -/
theorem quotePath_intercalate {names : List Text} (present : names ≠ [])
    (noDot : ∀ name ∈ names, '.' ∉ name) :
    quotePath (['.'].intercalate names) = ['.'].intercalate (names.map quoteName) := by
  -- Splitting at dots takes apart what was joined by dots.
  rw [quotePath, List.splitOn_intercalate '.' noDot present]

/-- There is no dot in a word. -/
theorem IsRun.noDot {word : Text} (run : IsRun isWordChar word) : '.' ∉ word :=
  -- A dot is no character of a word.
  fun there => absurd (run.inside _ there) (by decide)

variable {table column : Text}

/-- A star behind a word and a dot is read as all columns of the word. -/
theorem wildcard?_star (tableWord : IsRun isWordChar table) :
    wildcard? (table ++ ".*".toList) = some ⟨some table, false⟩ := by
  have part : ∀ c, isWordChar c = true → isQualifierChar c = true := by
    intro c word
    have other : ∀ mark, isWordChar mark = false → c ≠ mark := by
      rintro mark noWord rfl
      rw [noWord] at word
      cases word
    simp [isQualifierChar, not_isWhite_of_isWordChar word, other '(' (by decide),
      other ')' (by decide), other '.' (by decide), other '*' (by decide)]
  have qualifier : IsPath isQualifierChar table :=
    .part ⟨tableWord.present, fun c there => part c (tableWord.inside c there)⟩
  -- The word ends at the dot, and behind that there is no further part of a path.
  have taken : path? isQualifierChar (table ++ ".*".toList) = some (table, ".*".toList) :=
    path?_of_isPath qualifier (by decide) (stops_cons (by decide))
      (by rintro _ ⟨⟩; exact stops_cons (by decide))
  -- The word has a first character, which is neither a gap nor a parenthesis.
  obtain ⟨c, rest, rfl⟩ := List.exists_cons_of_ne_nil tableWord.present
  have word := tableWord.inside c List.mem_cons_self
  have start : skipGap (c :: rest ++ ".*".toList) = c :: rest ++ ".*".toList :=
    skipGap_append (List.forall_mem_nil _) (stops_cons (not_isGap_of_isWordChar word))
  have unopened : takeChar '(' (c :: rest ++ ".*".toList) = (false, c :: rest ++ ".*".toList) :=
    takeChar_of_ne (ne_of_isWordChar word).2.2
  have qualified : takeQualifier (c :: rest ++ ".*".toList) = (some (c :: rest), ['*']) := by
    rw [takeQualifier, taken]
    rfl
  simp only [wildcard?, start, unopened, qualified]
  rfl

/-- Two words with a dot between them are quoted one by one, unless they spell a number. -/
theorem writeReference_pair (tableWord : IsRun isWordChar table)
    (columnWord : IsRun isWordChar column) :
    writeReference .numeric (table ++ '.' :: column) =
      if (numeral? (table ++ '.' :: column)).isSome then table ++ '.' :: column
      else quoteName table ++ '.' :: quoteName column := by
  have path : IsPath isWordChar (table ++ '.' :: column) := .cons tableWord (.part columnWord)
  cases number : numeral? (table ++ '.' :: column) with
  | some digits =>
    -- A number is written without the white space around it, of which there is none.
    have trimmed := trim_of_visible path.visible
    obtain ⟨rfl, -⟩ := finite_of_numeral? number
    rw [trimmed] at number ⊢
    have fits : ReferenceShape.numeral.write? .numeric (table ++ '.' :: column) =
        some (table ++ '.' :: column) := number
    rw [ReferenceShape.writeReference_of_write? fits]
    rfl
  | none =>
    -- The dot is in neither of the two words of booleans.
    have noBool : boolOfWord? (table ++ '.' :: column) = none := by
      rw [Option.eq_none_iff_forall_ne_some]
      intro value word
      have dot : '.' ∈ boolWord value := by
        rw [← boolOfWord?_eq_some_iff.mp word]
        simp
      cases value <;> exact absurd dot (by decide)
    obtain ⟨noWildcard, noChain, noCall, noGroup⟩ := path.exclusion
    have shapeless : IsShapeless .numeric (table ++ '.' :: column) :=
      ⟨noBool, number, noWildcard, noChain, noGroup⟩
    have joined : table ++ '.' :: column = ['.'].intercalate [table, column] := by
      simp [List.intercalate_cons_cons]
    have noDot : ∀ name ∈ [table, column], '.' ∉ name :=
      List.forall_mem_cons.mpr
        ⟨tableWord.noDot, List.forall_mem_singleton.mpr columnWord.noDot⟩
    have quoted := quotePath_intercalate (by simp) noDot
    -- The two parts are quoted apart, with the dot between them.
    rw [shapeless.writeReference_eq noCall rfl, ReferenceStyle.quote, if_neg (by decide), joined,
      quoted]
    simp [List.intercalate_cons_cons]

/-- All columns of a word keep their star, behind the word as a name. -/
theorem writeReference_star (tableWord : IsRun isWordChar table) :
    writeReference .numeric (table ++ ".*".toList) = quoteName table ++ ".*".toList := by
  -- The only name is the word, and it is quoted as a whole.
  have noDot : ∀ name ∈ [table], '.' ∉ name := List.forall_mem_singleton.mpr tableWord.noDot
  have quoted := quotePath_intercalate (by simp) noDot
  simp only [List.intercalate_singleton, List.map_singleton] at quoted
  -- The wildcard is written as its qualifier with the star behind it.
  rw [ReferenceShape.writeReference_of_bare_wildcard (wildcard?_star tableWord)]
  simp [Wildcard.write, ReferenceStyle.quote, ReferenceStyle.numeric, quoted]

end names

end SqlWriter
