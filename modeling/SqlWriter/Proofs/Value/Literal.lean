import Mathlib.Data.List.TakeWhile
import SqlWriter.Json.Text
import SqlWriter.Proofs.Text.Quoted
import SqlWriter.Proofs.Text.Trimmed
import SqlWriter.Value.Literal

/-! Texts as values: which of them stand bare inside a statement, and how the others are quoted. -/

namespace SqlWriter

/-- A character of a numeral is its sign, or stands behind the sign. -/
theorem mem_takeSign {text : Text} {c : Char} (there : c ∈ text) :
    isNumberChar c = true ∨ c ∈ (takeSign text).2 := by
  -- Only a plus or a minus is ever taken off.
  unfold takeSign
  split
  · exact (List.mem_cons.mp there).imp_left (by rintro rfl; decide)
  · exact (List.mem_cons.mp there).imp_left (by rintro rfl; decide)
  · exact .inr there

/-- A digit is one of the characters of numerals. -/
theorem isNumberChar_of_isDigit {c : Char} (digit : c.isDigit = true) : isNumberChar c = true := by
  -- Digits are the first of the characters that are asked for.
  simp [isNumberChar, digit]

/-- A character of a numeral belongs to its fraction, or stands behind it. -/
theorem mem_takeFraction {text : Text} {c : Char} (there : c ∈ text) :
    isNumberChar c = true ∨ c ∈ (takeFraction text).2 := by
  -- Without a dot nothing is taken off; with one, what follows it is digits or left behind.
  unfold takeFraction
  split
  · rcases List.mem_cons.mp there with rfl | behind
    · exact .inl (by decide)
    · exact (mem_run_or_rest Char.isDigit behind).imp_left isNumberChar_of_isDigit
  · exact .inr there

/-- An exponent has no other characters than numerals have. -/
theorem isNumberChar_of_exponentOfText? {text : Text} {exponent : Int}
    (spelled : exponentOfText? text = some exponent) {c : Char} (there : c ∈ text) :
    isNumberChar c = true := by
  -- Behind its mark an exponent has a sign and digits.
  unfold exponentOfText? at spelled
  split at spelled
  · cases there
  · rename_i mark rest
    split at spelled
    · rename_i marked
      simp only at spelled
      split at spelled
      · rename_i digits
        simp only [Bool.and_eq_true, List.all_eq_true] at digits
        -- The character is the mark, or it stands behind the mark.
        rcases List.mem_cons.mp there with rfl | behind
        · simp only [Bool.or_eq_true, decide_eq_true_eq] at marked
          rcases marked with rfl | rfl <;> decide
        · rcases mem_takeSign behind with sign | digit
          · exact sign
          · exact isNumberChar_of_isDigit (digits.2 c digit)
      · cases spelled
    · cases spelled

/-- A numeral has signs, digits, dots and exponent marks only. -/
theorem isNumberChar_of_ofText? {text : Text} {number : Decimal}
    (spelled : Decimal.ofText? text = some number) {c : Char} (there : c ∈ text) :
    isNumberChar c = true := by
  -- The character is looked for in one part of the numeral after another.
  simp only [Decimal.ofText?] at spelled
  split at spelled
  · cases spelled
  · obtain ⟨exponent, read, _⟩ := Option.map_eq_some_iff.mp spelled
    rcases mem_takeSign there with sign | body
    · exact sign
    · rcases mem_run_or_rest Char.isDigit body with digit | behind
      · exact isNumberChar_of_isDigit digit
      · rcases mem_takeFraction behind with fraction | rest
        · exact fraction
        · exact isNumberChar_of_exponentOfText? read rest

/-- What stands behind a group says nothing about where the group ends. -/
theorem closeGroup_behind {nesting : Nesting} {inside behind : Text}
    (closed : closeGroup nesting (inside ++ ')' :: behind) = some (inside, behind)) (rest : Text) :
    closeGroup nesting (inside ++ ')' :: rest) = some (inside, rest) := by
  -- The scan stops at the same character, since it has read nothing behind it.
  induction inside generalizing nesting with
  -- Nothing is inside, so this very parenthesis closes the group.
  | nil =>
    simp only [List.nil_append, closeGroup] at closed ⊢
    split at closed
    · rename_i zero
      rw [if_pos zero]
    · simp at closed
  | cons c inside ih =>
    simp only [List.cons_append, closeGroup] at closed ⊢
    split at closed
    · cases closed
    · rename_i positive
      simp only [Option.map_eq_some_iff, Prod.mk.injEq, List.cons.injEq, true_and,
        Prod.exists] at closed
      obtain ⟨_, _, further, rfl, rfl⟩ := closed
      rw [if_neg positive, ih further]
      rfl

/-- A group that its last character closes ends there, whatever stands behind it. -/
theorem group?_behind {inside : Text} (closed : group? (inParens inside) = some (inside, []))
    (rest : Text) : group? (inParens inside ++ rest) = some (inside, rest) := by
  -- Both texts open with the same parenthesis, behind which the scan is the one that was given.
  simp only [inParens, List.cons_append, List.append_assoc, List.nil_append, group?] at closed ⊢
  exact closeGroup_behind closed rest

/-- What is read as a group is closed by its last character only. -/
theorem closed_of_group? {text inside behind : Text} (found : group? text = some (inside, behind)) :
    group? (inParens inside) = some (inside, []) := by
  -- A group that was found is the text in front of what is left, so it can be read on its own.
  rw [← group?_append found] at found
  simp only [inParens, List.cons_append, List.append_assoc, List.nil_append, group?] at found ⊢
  exact closeGroup_behind found []

/-- A call: a word, and right behind it a group that only the last character closes. -/
inductive IsCall : Text → Prop where
  | intro {name inside : Text} (named : name ≠ []) (word : ∀ c ∈ name, isWordChar c = true)
    (closed : group? (inParens inside) = some (inside, [])) : IsCall (name ++ inParens inside)

/-- Every call has a parenthesis in it. -/
theorem IsCall.mem_parenthesis {call : Text} (whole : IsCall call) : '(' ∈ call := by
  cases whole with
  -- The parenthesis is the first one behind the name.
  | intro named word closed => simp [inParens]

/-- What is read as a call is one. -/
theorem isCall_of_call? {text call rest : Text} (found : call? text = some (call, rest)) :
    IsCall call := by
  -- Each part that is read off gives the condition on it, and the group gives its closing.
  simp only [call?, Option.bind_eq_some_iff, Option.map_eq_some_iff, Prod.mk.injEq,
    Prod.exists] at found
  obtain ⟨name, arguments, word, inside, behind, group, rfl, rfl⟩ := found
  exact .intro (run?_ne_nil word) (run?_isPart word) (closed_of_group? group)

/-- The forms in which texts stand without quotes, each behind a text that has it. -/
inductive Bare : Text → Text → Prop where
  | word (value : Bool) : Bare (boolWord value) (boolWord value)
  | number {text : Text} {number : Decimal} (spelled : Decimal.ofText? (trim text) = some number)
    (finite : number.isFinite = true) (plain : ∀ c ∈ trim text, isNumberChar c = true) :
    Bare text (trim text)
  | call {front call back : Text} (before : ∀ c ∈ front, isGap c = true) (whole : IsCall call)
    (behind : ∀ c ∈ back, isGap c = true) : Bare (front ++ call ++ back) call

/-- What is read as a numeral is the trimmed text, which spells a finite number. -/
theorem finite_of_numeral? {text digits : Text} (found : numeral? text = some digits) :
    digits = trim text ∧
      ∃ number, Decimal.ofText? digits = some number ∧ number.isFinite = true := by
  -- Only one way through the reader gives a result, and both of its tests are kept as they are.
  unfold numeral? at found
  simp only at found
  split at found
  · rename_i number spelled
    split at found
    · rename_i finite
      cases found
      exact ⟨rfl, number, spelled, finite⟩
    · cases found
  · cases found

/-- What is read as a numeral stands bare. -/
theorem bare_of_numeral? {text digits : Text} (found : numeral? text = some digits) :
    Bare text digits := by
  -- Only finite numbers stand bare, so that no word for infinity does.
  obtain ⟨rfl, number, spelled, finite⟩ := finite_of_numeral? found
  exact .number spelled finite fun _ there => isNumberChar_of_ofText? spelled there

/-- What is read as a whole call starts with it behind a gap, and ends with another gap. -/
theorem functionCall?_eq_some {text call : Text} (found : functionCall? text = some call) :
    ∃ rest, call? (skipGap text) = some (call, rest) ∧ skipGap rest = [] := by
  -- The reader succeeds in one way, with a call in front and nothing but a gap behind it.
  unfold functionCall? at found
  split at found
  · rename_i start rest called
    split at found
    · rename_i gap
      cases found
      exact ⟨rest, called, gap⟩
    · cases found
  · cases found

/-- What is read as a whole call stands between two gaps, with nothing else around it. -/
theorem exists_gaps_of_functionCall? {text sql : Text} (found : functionCall? text = some sql) :
    ∃ front back, (∀ c ∈ front, isGap c = true) ∧ IsCall sql ∧ (∀ c ∈ back, isGap c = true) ∧
      text = front ++ sql ++ back := by
  -- The gap in front is what was skipped, and the one behind is what is left.
  obtain ⟨rest, called, gap⟩ := functionCall?_eq_some found
  refine ⟨text.takeWhile isGap, rest, fun _ there => List.mem_takeWhile_imp there,
    isCall_of_call? called, List.dropWhile_eq_nil_iff.mp gap, ?_⟩
  rw [List.append_assoc, call?_append called]
  exact List.takeWhile_append_dropWhile.symm

/-- A whole call with nothing to trim around it is the text itself. -/
theorem eq_of_functionCall? {text call : Text} (found : functionCall? text = some call)
    (trimmed : trim text = text) : call = text := by
  -- Gaps are white, so that trimming would have taken them away.
  obtain ⟨front, back, before, -, behind, rfl⟩ := exists_gaps_of_functionCall? found
  exact (eq_of_trim_eq_self (fun c there => isWhite_of_isGap (before c there))
    (fun c there => isWhite_of_isGap (behind c there)) trimmed).symm

/-- What is read as a whole call stands bare, without the gaps around it. -/
theorem bare_of_functionCall? {text sql : Text} (found : functionCall? text = some sql) :
    Bare text sql := by
  -- The gaps around the call are the only other thing in the text.
  obtain ⟨front, back, before, whole, behind, rfl⟩ := exists_gaps_of_functionCall? found
  exact .call before whole behind

/-- A text stands bare, or is quoted as it is. -/
theorem bare_or_quoted (text : Text) :
    Bare text (writeValue (.text text)) ∨ writeValue (.text text) = quoteString text := by
  -- The forms are tried one after another, and quotes are what is left.
  simp only [writeValue, Literal.ofScalar, Literal.ofText]
  split
  · rename_i value found
    rw [boolOfWord?_eq_some_iff.mp found]
    exact .inl (.word value)
  · split
    · rename_i digits found
      exact .inl (bare_of_numeral? found)
    · split
      · rename_i sql found
        -- A call is the last of the bare forms.
        exact .inl (bare_of_functionCall? found)
      · exact .inr rfl

/-- Nothing that stands bare starts with a quote. -/
theorem Bare.ne_quote {text sql rest : Text} (bare : Bare text sql) : sql ≠ '\'' :: rest := by
  -- Words, numerals and calls all start with a character that is no quote.
  intro quoted
  cases bare with
  | word value => cases value <;> cases quoted
  -- The text would have to start with the quote, which is no character of a numeral.
  | number spelled finite plain =>
    have mark := plain '\'' (by simp [quoted])
    revert mark
    decide
  | call before whole behind =>
    cases whole with
    | intro named word closed =>
      rename_i name inside
      cases name with
      | nil => exact named rfl
      | cons c name =>
        obtain ⟨rfl, _⟩ := List.cons.inj quoted
        have mark := word '\'' (by simp)
        revert mark
        decide

/-- How a literal stands for a text: with which body, and whatever comes behind it. -/
structure QuotedAs (text body literal : Text) : Prop where
  whole : literal = '\'' :: (body ++ ['\''])
  closed : ∀ rest, scanLiteral? (literal ++ rest) = some (body, rest)
  decoded : decodeBody? body = some text
  visible : ∀ c ∈ body, c ∉ rawControls

/--
A text as a value stands bare, or it is quoted.

A quoted text is read back from its literal, which is that of no other text.
-/
theorem writeValue_text (text : Text) :
    Bare text (writeValue (.text text)) ∨
      (∃ body, QuotedAs text body (writeValue (.text text))) ∧
        ∀ other, writeValue (.text other) = writeValue (.text text) → other = text := by
  -- The text has a bare form, or else it is quoted.
  rcases bare_or_quoted text with bare | quoted
  · exact .inl bare
  · refine .inr ⟨⟨escapeString text, ?_⟩, ?_⟩
    · rw [quoted]
      exact {
        whole := rfl
        closed := scanLiteral?_quoteString text
        decoded := decodeBody?_escapeString text
        visible := fun _ there => escapeString_not_control there }
    · -- No bare text looks like a literal, and no two literals are the same.
      intro other same
      rw [quoted] at same
      rcases bare_or_quoted other with bare | otherQuoted
      · exact absurd same bare.ne_quote
      · exact quoteString_injective (otherQuoted.symm.trans same)

end SqlWriter
