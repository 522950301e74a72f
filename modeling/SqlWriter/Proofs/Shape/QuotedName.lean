import SqlWriter.Proofs.Shape.Pieces
import SqlWriter.Text.Quoted

/-! Quoted names inside larger texts: which of them the scans for groups and commas pass over. -/

namespace SqlWriter

/--
Whether the backslashes of a name leave the backticks alone that are written for it.

A backslash takes the next character along, so neither a backtick nor the end of the name may follow
one that counts.
-/
def sparesBackticks : Text → Bool
  | [] => true
  | c :: rest =>
    -- The character that a backslash takes along is not looked at again.
    if c = '\\' then
      match rest with
      | [] => false
      | taken :: rest => taken != '`' && sparesBackticks rest
    else sparesBackticks rest

section body

variable {name : Text}

/-- A backtick is written twice. -/
theorem doubleBackticks_backtick (name : Text) :
    doubleBackticks ('`' :: name) = '`' :: '`' :: doubleBackticks name :=
  -- The backtick is the one character that is written twice.
  rfl

/-- Every other character is written once. -/
theorem doubleBackticks_other {c : Char} (noBacktick : c ≠ '`') (name : Text) :
    doubleBackticks (c :: name) = c :: doubleBackticks name := by
  -- The backtick is the one character that is written twice.
  simp [doubleBackticks, noBacktick]

/-- A name with its closing quote is one quotation behind the other, in front of a balanced text. -/
theorem exists_quotation (spares : sparesBackticks name = true) {rest : Text}
    (balanced : IsBalanced rest) :
    ∃ body more, doubleBackticks name ++ '`' :: rest = body ++ '`' :: more ∧
      IsQuotation '`' body ∧ IsBalanced more := by
  fun_induction sparesBackticks name with
  | case1 => exact ⟨[], rest, rfl, .nil, balanced⟩
  | case2 => cases spares
  -- The backslash takes along a character that is no backtick.
  | case3 taken name ih =>
    rw [Bool.and_eq_true, bne_iff_ne] at spares
    obtain ⟨body, more, same, quotation, further⟩ := ih spares.2
    refine ⟨'\\' :: taken :: body, more, ?_, .escaped quotation, further⟩
    rw [doubleBackticks_other (by decide), doubleBackticks_other spares.1]
    simp [same]
  | case4 c name noBackslash ih =>
    obtain ⟨body, more, same, quotation, further⟩ := ih spares
    by_cases backtick : c = '`'
    · -- The first of the two backticks ends a quotation, and the second one starts the next.
      subst backtick
      refine ⟨[], '`' :: (body ++ '`' :: more), ?_, .nil, .quoted rfl quotation further⟩
      rw [doubleBackticks_backtick]
      simp [same]
    · refine ⟨c :: body, more, ?_, .other noBackslash backtick quotation, further⟩
      rw [doubleBackticks_other backtick]
      simp [same]

/-- A quoted name that is spared is balanced. -/
theorem isBalanced_quoteName (spares : sparesBackticks name = true) :
    IsBalanced (quoteName name) := by
  -- From the opening quote on, the name is one quotation behind another.
  obtain ⟨body, more, same, quotation, further⟩ := exists_quotation spares .nil
  rw [quoteName, same]
  exact .quoted rfl quotation further

/-- A quoted name that is spared has no comma outside its quotes. -/
theorem not_hasTopComma_quoteName (spares : sparesBackticks name = true) :
    ¬HasTopComma .outside (quoteName name) := by
  have start : Nesting.outside.step '`' = ⟨0, .quoted '`'⟩ := rfl
  have inside : (⟨0, .quoted '`'⟩ : Nesting) ≠ .outside := by decide
  -- Only behind the first backtick of two the scan is outside, and the second one follows there.
  suffices body : ¬HasTopComma ⟨0, .quoted '`'⟩ (doubleBackticks name ++ ['`']) by
    rw [quoteName, hasTopComma_cons_iff, start]
    simpa using body
  fun_induction sparesBackticks name with
  | case1 =>
    have ends : (⟨0, .quoted '`'⟩ : Nesting).step '`' = .outside := rfl
    simp [doubleBackticks, hasTopComma_cons_iff, inside, ends, not_hasTopComma_nil]
  | case2 => cases spares
  | case3 taken name ih =>
    rw [Bool.and_eq_true, bne_iff_ne] at spares
    rw [doubleBackticks_other (by decide), doubleBackticks_other spares.1]
    simp [hasTopComma_cons_iff, Nesting.step_backslash, Nesting.step_escaped, ih spares.2,
      Nesting.outside]
  -- A doubled backtick leaves the quotes and enters them again, with no comma between.
  | case4 c name noBackslash ih =>
    by_cases backtick : c = '`'
    · subst backtick
      have ends : (⟨0, .quoted '`'⟩ : Nesting).step '`' = .outside := rfl
      simp [doubleBackticks_backtick, hasTopComma_cons_iff, inside, ends, start, ih spares]
    · rw [doubleBackticks_other backtick]
      simp [hasTopComma_cons_iff, inside, Nesting.step_quoted noBackslash backtick, ih spares]

end body

/-- Where a scan stands that has lost the quotation of a name: outside quotes, or in other ones. -/
def Nesting.IsAstray (nesting : Nesting) : Prop :=
  match nesting.region with
  | .plain => True
  | .quoted mark => mark ≠ '`'
  | .escaped mark => mark ≠ '`'

section astray

variable {nesting : Nesting}

/-- Only a backtick leads back into a quotation between backticks. -/
theorem Nesting.IsAstray.step (astray : nesting.IsAstray) {c : Char} (noBacktick : c ≠ '`') :
    (nesting.step c).IsAstray := by
  -- What the character does depends on the region that the scan is in.
  obtain ⟨depth, region⟩ := nesting
  cases region with
  -- A mark other than the backtick opens quotes that a backtick does not close.
  | plain =>
    by_cases quote : isQuoteMark c = true
    · rw [Nesting.step_quote quote]
      exact noBacktick
    · simp only [Nesting.step, if_neg quote]
      repeat' split
      all_goals exact trivial
  | quoted mark =>
    simp only [Nesting.step]
    repeat' split
    · exact astray
    · exact trivial
    · exact astray
  | escaped mark => exact astray

/-- Two backticks open quotes and close them again, or they belong to other quotes. -/
theorem Nesting.IsAstray.step_step (astray : nesting.IsAstray) :
    ((nesting.step '`').step '`').IsAstray := by
  -- In quotes of another kind both backticks are plain characters.
  obtain ⟨depth, region⟩ := nesting
  cases region with
  | plain => exact trivial
  | quoted mark =>
    have other : '`' ≠ mark := Ne.symm astray
    rw [Nesting.step_quoted (by decide) other, Nesting.step_quoted (by decide) other]
    exact astray
  | escaped mark =>
    have other : '`' ≠ mark := Ne.symm astray
    rw [Nesting.step_escaped, Nesting.step_quoted (by decide) other]
    exact astray

/-- A scan that is astray is inside quotes behind the closing quote of the name. -/
theorem Nesting.IsAstray.after_ne_plain (astray : nesting.IsAstray) (name : Text) :
    (nesting.after (doubleBackticks name ++ ['`'])).region ≠ .plain := by
  induction name generalizing nesting with
  | nil =>
    -- The closing quote opens new quotes, or it belongs to other ones.
    obtain ⟨depth, region⟩ := nesting
    cases region with
    | plain => exact nofun
    | quoted mark =>
      have stays : (⟨depth, .quoted mark⟩ : Nesting).after ['`'] = ⟨depth, .quoted mark⟩ :=
        Nesting.step_quoted (by decide) (Ne.symm astray)
      rw [doubleBackticks, List.flatMap_nil, List.nil_append, stays]
      exact nofun
    | escaped mark => exact nofun
  | cons c name ih =>
    -- A backtick is doubled, and two of them leave the scan astray.
    by_cases backtick : c = '`'
    · subst backtick
      exact ih astray.step_step
    · rw [doubleBackticks_other backtick]
      exact ih (astray.step backtick)

end astray

/-- Behind a quoted name that is not spared, a scan is still inside quotes. -/
theorem after_quoteName_ne_plain {name : Text} (spares : sparesBackticks name = false)
    (depth : Nat) : ((⟨depth, .plain⟩ : Nesting).after (quoteName name)).region ≠ .plain := by
  -- The first backslash that takes a backtick along leads the scan astray.
  suffices body : ((⟨depth, .quoted '`'⟩ : Nesting).after (doubleBackticks name ++ ['`'])).region ≠
      .plain from body
  fun_induction sparesBackticks name with
  | case1 => cases spares
  | case2 => exact nofun
  | case3 taken name ih =>
    -- A backslash before a backtick takes the first of the two along.
    by_cases backtick : taken = '`'
    · subst backtick
      have astray : (⟨depth, .plain⟩ : Nesting).IsAstray := trivial
      exact astray.after_ne_plain name
    · have further : sparesBackticks name = false := by simpa [backtick] using spares
      rw [doubleBackticks_other (by decide), doubleBackticks_other backtick]
      exact ih further
  | case4 c name noBackslash ih =>
    have further := ih spares
    by_cases backtick : c = '`'
    · subst backtick
      exact further
    · have stays : (⟨depth, .quoted '`'⟩ : Nesting).after [c] = ⟨depth, .quoted '`'⟩ :=
        Nesting.step_quoted noBackslash backtick
      rw [doubleBackticks_other backtick, List.cons_append, ← List.singleton_append,
        Nesting.after_append, stays]
      exact further

section columns

variable {name : Text}

/-- There is no white space around a quoted name. -/
theorem trim_quoteName (name : Text) : trim (quoteName name) = quoteName name :=
  -- A quoted name starts and ends with a backtick.
  trim_between (by decide) (by decide) (doubleBackticks name)

/-- A quoted name is a column of its own exactly if no comma in it is taken for a top-level one. -/
theorem splitColumns_quoteName_iff :
    splitColumns (quoteName name) = [quoteName name] ↔ ¬HasTopComma .outside (quoteName name) := by
  -- Trimming moves no comma, and a piece has none that cuts.
  constructor
  · intro alone
    obtain ⟨-, piece, whole, trimmed⟩ :=
      exists_of_mem_splitColumns (alone ▸ List.mem_singleton_self (quoteName name))
    rw [← trimmed]
    exact not_hasTopComma_trim whole
  · intro whole
    rw [splitColumns_of_whole whole, trim_quoteName, isBlank_quoteName]
    rfl

/-- A quoted name that is spared is a column of its own. -/
theorem splitColumns_quoteName (spares : sparesBackticks name = true) :
    splitColumns (quoteName name) = [quoteName name] :=
  -- No comma of the name is outside its quotes.
  splitColumns_quoteName_iff.mpr (not_hasTopComma_quoteName spares)

/-- A comma and what follows it are not trimmed off the end of a quoted name. -/
theorem trim_quoteName_append_ne (name behind : Text) :
    trim (quoteName name ++ ',' :: behind) ≠ quoteName name := by
  -- What is left reaches from the opening quote to the comma, which is more than the name.
  have whole : quoteName name ++ ',' :: behind =
      [] ++ '`' :: ((doubleBackticks name ++ ['`']) ++ ',' :: behind) := by simp [quoteName]
  obtain ⟨before, after, kept⟩ := exists_trim_between (by decide : isWhite '`' = false)
    (by decide : isWhite ',' = false) [] (doubleBackticks name ++ ['`']) behind
  rw [whole, kept]
  intro same
  have lengths := congrArg List.length same
  simp only [quoteName, List.length_append, List.length_cons, List.length_nil] at lengths
  omega

/-- A text that starts with a quoted name has its first piece as the first column. -/
theorem trim_eq_of_splitColumns_quoteName {rest piece column : Text} {others columns : List Text}
    (pieces : topPieces .outside (quoteName name ++ rest) = piece :: others)
    (same : splitColumns (quoteName name ++ rest) = column :: columns) : trim piece = column := by
  -- The piece starts with the opening quote, so it is not blank.
  obtain ⟨tail, rfl⟩ : ∃ tail, piece = '`' :: tail := by
    rw [quoteName, List.cons_append, topPieces_cons, if_neg (by simp)] at pieces
    exact ⟨_, (List.cons.inj pieces).1.symm⟩
  have seen : trim ('`' :: tail) ≠ [] := by
    rw [ne_eq, trim_eq_nil_iff]
    exact nofun
  rw [splitColumns_eq, pieces, List.map_cons, List.filter_cons_of_pos (by simpa using seen)] at same
  exact (List.cons.inj same).1

/-- No piece in front is a quoted name that is not spared, if a comma follows the name. -/
theorem trim_ne_of_topPieces_quoteName (spares : sparesBackticks name = false)
    {back piece : Text} {others : List Text}
    (pieces : topPieces .outside (quoteName name ++ ',' :: back) = piece :: others) :
    trim piece ≠ quoteName name := by
  have astray : ¬Nesting.outside.after (quoteName name) = .outside := fun outside =>
    after_quoteName_ne_plain spares 0 (congrArg Nesting.region outside)
  cases others with
  | nil =>
    -- The only piece is the whole text, which goes on behind the name.
    have whole := intercalate_topPieces .outside (quoteName name ++ ',' :: back)
    rw [pieces, List.intercalate_singleton] at whole
    rw [whole]
    exact trim_quoteName_append_ne name back
  | cons next more =>
    obtain ⟨outside, rest, split⟩ := exists_of_topPieces_cons pieces
    rcases List.append_eq_append_iff.mp split with ⟨extra, rfl, comma⟩ | ⟨extra, longer, -⟩
    · -- The piece goes on behind the name, at best with the comma there.
      cases extra with
      | nil =>
        rw [List.append_nil] at outside
        exact absurd outside astray
      | cons c extra =>
        obtain ⟨rfl, -⟩ := List.cons.inj comma
        exact trim_quoteName_append_ne name extra
    · -- The piece ends inside the name, so it is the whole name or too short.
      intro first
      have bound := trim_length piece
      have lengths := congrArg List.length longer
      rw [List.length_append, ← first] at lengths
      have none : extra = [] := List.length_eq_zero_iff.mp (by omega)
      rw [none, List.append_nil] at longer
      rw [longer] at astray
      exact astray outside

/-- A quoted name that is not spared is not parted from what follows behind a comma. -/
theorem splitColumns_quoteName_append_ne (spares : sparesBackticks name = false) (back : Text)
    (columns : List Text) :
    splitColumns (quoteName name ++ ',' :: back) ≠ quoteName name :: columns := by
  -- The first column would be the first piece, which cannot be the name alone.
  intro same
  obtain ⟨piece, others, pieces⟩ : ∃ piece others,
      topPieces .outside (quoteName name ++ ',' :: back) = piece :: others := ⟨_, _, rfl⟩
  exact trim_ne_of_topPieces_quoteName spares pieces
    (trim_eq_of_splitColumns_quoteName pieces same)

/--
Quoted names are parted at the commas between them exactly if all but the last one are spared, and
if no comma of the last one is taken for a top-level one.
-/
theorem splitColumns_quoteNames_iff {names : List Text} {last : Text} :
    splitColumns ([','].intercalate ((names ++ [last]).map quoteName)) =
        (names ++ [last]).map quoteName ↔
      (∀ name ∈ names, sparesBackticks name = true) ∧ ¬HasTopComma .outside (quoteName last) := by
  -- The induction takes the names off the front, where a name that is not spared spoils the list.
  induction names with
  | nil => simpa using splitColumns_quoteName_iff
  | cons name names ih =>
    have more : (names ++ [last]).map quoteName ≠ [] := by simp
    rw [List.cons_append, List.map_cons, List.intercalate_cons_of_ne_nil more, List.append_assoc,
      List.singleton_append, List.forall_mem_cons, and_assoc, ← ih]
    -- A name that is spared is cut off whole, and its comma with it.
    cases spares : sparesBackticks name with
    | true =>
      have closed : IsClosed (quoteName name) := ⟨0, .last (isBalanced_quoteName spares)⟩
      rw [splitColumns_append (closesAll_iff_isClosed.mpr closed), splitColumns_quoteName spares]
      simp
    | false => simp [splitColumns_quoteName_append_ne spares]

/-- A pair of parentheses around a quoted name is read back exactly if the name is spared. -/
theorem group?_quoteName_iff {rest : Text} :
    group? (inParens (quoteName name) ++ rest) = some (quoteName name, rest) ↔
      sparesBackticks name = true := by
  -- Parentheses are read back around exactly the balanced texts.
  rw [group?_inParens_append_iff]
  constructor
  · intro balanced
    rw [← Bool.not_eq_false]
    intro spares
    apply after_quoteName_ne_plain spares 0
    rw [balanced.after_eq]
  · exact isBalanced_quoteName

end columns

/--
A quoted name in parentheses is read back, with whatever stands behind, exactly if the backslashes
of the name spare its backticks.

Names of this kind that are quoted and joined by commas are parted again. Any names are parted
exactly if all but the last one are of this kind, and if no comma of the last one is taken for a
top-level one.
-/
theorem quoteName_in_scans (name rest : Text) (names : List Text) (last : Text) :
    (group? (inParens (quoteName name) ++ rest) = some (quoteName name, rest) ↔
      sparesBackticks name = true) ∧
    ((∀ one ∈ names, sparesBackticks one = true) →
      splitColumns ([','].intercalate (names.map quoteName)) = names.map quoteName) ∧
    (splitColumns ([','].intercalate ((names ++ [last]).map quoteName)) =
        (names ++ [last]).map quoteName ↔
      (∀ one ∈ names, sparesBackticks one = true) ∧ ¬HasTopComma .outside (quoteName last)) := by
  -- Whether one name or more stand in a row, the last one has no comma behind it.
  refine ⟨group?_quoteName_iff, ?spared, splitColumns_quoteNames_iff⟩
  case spared =>
    intro spares
    rcases List.eq_nil_or_concat names with rfl | ⟨front, final, rfl⟩
    · rfl
    · rw [List.concat_eq_append, List.forall_mem_append, List.forall_mem_singleton] at spares
      rw [List.concat_eq_append, splitColumns_quoteNames_iff]
      exact ⟨spares.1, not_hasTopComma_quoteName spares.2⟩

/-- Commas, parentheses, quotes and most backslashes of a name stay within its backticks. -/
theorem quoteName_in_scans_hostile :
    let names := ["a,b)".toList, "(`'".toList, "c\\\\".toList, "\\d`,".toList]
    (∀ name ∈ names, sparesBackticks name = true) ∧
      [','].intercalate (names.map quoteName) = "`a,b)`,`(``'`,`c\\\\`,`\\d``,`".toList ∧
      splitColumns ([','].intercalate (names.map quoteName)) = names.map quoteName := by
  intro names
  -- Each backslash takes along another one or a letter, and so it takes no backtick.
  have spares : ∀ name ∈ names, sparesBackticks name = true := by decide
  exact ⟨spares, by decide, (quoteName_in_scans [] [] names []).2.1 spares⟩

/-- A backslash at the end of a name takes the closing quote along. -/
theorem quoteName_ending_in_backslash :
    let names := ["a\\".toList, "b".toList]
    group? (inParens (quoteName "a\\".toList)) = none ∧
      [','].intercalate (names.map quoteName) = "`a\\`,`b`".toList ∧
      splitColumns ([','].intercalate (names.map quoteName)) = ["`a\\`,`b`".toList] ∧
      names.map quoteName = ["`a\\`".toList, "`b`".toList] := by
  -- All of this is one computation on two short names.
  decide

end SqlWriter
