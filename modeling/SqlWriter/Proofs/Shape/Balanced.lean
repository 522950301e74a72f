import SqlWriter.Shape.Nesting

/-! Balanced texts: what a pair of parentheses encloses, and where the scan for the pair ends. -/

namespace SqlWriter

/-- What can stand between two marks: no such mark, unless a backslash takes it along. -/
inductive IsQuotation (mark : Char) : Text → Prop where
  | nil : IsQuotation mark []
  -- The character behind the backslash can be any, and the mark is one of them.
  | escaped {c : Char} {rest : Text} (further : IsQuotation mark rest) :
    IsQuotation mark ('\\' :: c :: rest)
  | other {c : Char} {rest : Text} (noBackslash : c ≠ '\\') (noMark : c ≠ mark)
    (further : IsQuotation mark rest) : IsQuotation mark (c :: rest)

/-- A text with all quotes closed, and with a partner for each parenthesis outside of them. -/
inductive IsBalanced : Text → Prop where
  | nil : IsBalanced []
  | quoted {mark : Char} {body rest : Text} (quote : isQuoteMark mark = true)
    (inside : IsQuotation mark body) (further : IsBalanced rest) :
    IsBalanced (mark :: (body ++ mark :: rest))
  | group {inside rest : Text} (nested : IsBalanced inside) (further : IsBalanced rest) :
    IsBalanced (inParens inside ++ rest)
  -- A backslash means nothing outside quotations, so it is one of these.
  | other {c : Char} {rest : Text} (noQuote : isQuoteMark c = false) (noOpening : c ≠ '(')
    (noClosing : c ≠ ')') (further : IsBalanced rest) : IsBalanced (c :: rest)

/-- A text that closes a number of open parentheses, with balanced texts before and between them. -/
inductive Closes : Nat → Text → Prop where
  | last {text : Text} (balanced : IsBalanced text) : Closes 0 text
  | next {depth : Nat} {text rest : Text} (balanced : IsBalanced text)
    (further : Closes depth rest) : Closes (depth + 1) (text ++ ')' :: rest)

section Closes

variable {depth : Nat} {text : Text}

/-- What can stand in front of each balanced text can stand in front of the first of several. -/
theorem Closes.append_front {front : Text} (closes : Closes depth text)
    (joins : ∀ text, IsBalanced text → IsBalanced (front ++ text)) :
    Closes depth (front ++ text) := by
  -- What is put in front joins the first balanced part, whether that is the last one or not.
  cases closes with
  | last balanced => exact .last (joins _ balanced)
  | next balanced further =>
    rw [← List.append_assoc]
    exact .next (joins _ balanced) further

/-- A quotation joins the first balanced text. -/
theorem Closes.quoted {mark : Char} {body : Text} (closes : Closes depth text)
    (quote : isQuoteMark mark = true) (inside : IsQuotation mark body) :
    Closes depth (mark :: (body ++ mark :: text)) := by
  -- A quotation in front of a balanced text leaves it balanced.
  have joined : Closes depth ((mark :: (body ++ [mark])) ++ text) := by
    apply closes.append_front
    intro rest balanced
    simpa using IsBalanced.quoted quote inside balanced
  simpa using joined

/-- A parenthesis that opens encloses the first balanced text. -/
theorem Closes.opening (closes : Closes (depth + 1) text) : Closes depth ('(' :: text) := by
  -- The parenthesis pairs with the first one that was left open.
  cases closes with
  | @next _ nested rest balanced further =>
    have joined : Closes depth (inParens nested ++ rest) := by
      apply further.append_front
      intro text behind
      exact .group balanced behind
    simpa [inParens] using joined

/-- Any other character joins the first balanced text. -/
theorem Closes.other {c : Char} (closes : Closes depth text) (noQuote : isQuoteMark c = false)
    (noOpening : c ≠ '(') (noClosing : c ≠ ')') : Closes depth (c :: text) := by
  -- The character is a balanced text of its own.
  have joined : Closes depth ([c] ++ text) := by
    apply closes.append_front
    intro rest balanced
    exact .other noQuote noOpening noClosing balanced
  exact joined

end Closes

/-- A character behind which the group is still open belongs to the inside of the group. -/
theorem closeGroup_cons_iff {nesting : Nesting} {depth : Nat} {region : Region} {c : Char}
    {text inside behind : Text} (moves : nesting.step c = ⟨depth + 1, region⟩) :
    closeGroup nesting (c :: text) = some (inside, behind) ↔
      ∃ more, inside = c :: more ∧ closeGroup ⟨depth + 1, region⟩ text = some (more, behind) := by
  -- The depth is not zero, so that the scan goes on with the next character.
  rw [closeGroup, moves, if_neg (Nat.succ_ne_zero depth), Option.map_eq_some_iff]
  constructor
  · rintro ⟨⟨more, last⟩, found, same⟩
    cases same
    exact ⟨more, rfl, found⟩
  · rintro ⟨more, rfl, found⟩
    exact ⟨(more, behind), found, rfl⟩

section Steps

variable {depth : Nat} {mark c : Char}

/-- A quote opens a quotation. -/
theorem Nesting.step_quote (quote : isQuoteMark c = true) :
    (⟨depth, .plain⟩ : Nesting).step c = ⟨depth, .quoted c⟩ := by
  -- Outside quotes, a quote mark is the first character that is tested for.
  simp [Nesting.step, quote]

/-- A backslash in a quotation takes the next character along. -/
theorem Nesting.step_backslash :
    (⟨depth, .quoted mark⟩ : Nesting).step '\\' = ⟨depth, .escaped mark⟩ := by
  -- Inside quotes, a backslash is the first character that is tested for.
  simp [Nesting.step]

/-- The character that a backslash takes along has no meaning. -/
theorem Nesting.step_escaped :
    (⟨depth, .escaped mark⟩ : Nesting).step c = ⟨depth, .quoted mark⟩ :=
  -- Whatever character is escaped, the quotation goes on behind it.
  rfl

/-- A quotation is closed by its mark. -/
theorem Nesting.step_mark (noBackslash : mark ≠ '\\') :
    (⟨depth, .quoted mark⟩ : Nesting).step mark = ⟨depth, .plain⟩ := by
  -- The mark closes the quotation that it opened, since it is not taken for a backslash.
  simp [Nesting.step, noBackslash]

/-- A quotation stays open up to its mark. -/
theorem Nesting.step_quoted (noBackslash : c ≠ '\\') (noMark : c ≠ mark) :
    (⟨depth, .quoted mark⟩ : Nesting).step c = ⟨depth, .quoted mark⟩ := by
  -- Neither of the two characters with a meaning inside quotes is there.
  simp [Nesting.step, noBackslash, noMark]

/-- A parenthesis is opened. -/
theorem Nesting.step_opening : (⟨depth, .plain⟩ : Nesting).step '(' = ⟨depth + 1, .plain⟩ :=
  -- Parentheses are counted outside quotes.
  rfl

/-- A parenthesis is closed. -/
theorem Nesting.step_closing : (⟨depth + 1, .plain⟩ : Nesting).step ')' = ⟨depth, .plain⟩ :=
  -- Parentheses are counted outside quotes.
  rfl

/-- A character without a meaning of its own leaves the scan where it stands. -/
theorem Nesting.step_other (noQuote : isQuoteMark c = false) (noOpening : c ≠ '(')
    (noClosing : c ≠ ')') : (⟨depth, .plain⟩ : Nesting).step c = ⟨depth, .plain⟩ := by
  -- None of the three kinds of characters with a meaning outside quotes is there.
  simp [Nesting.step, noQuote, noOpening, noClosing]

end Steps

/-- No quote is a backslash. -/
theorem ne_backslash_of_isQuoteMark {mark : Char} (quote : isQuoteMark mark = true) :
    mark ≠ '\\' := by
  -- No quote mark is a backslash, as each of them shows.
  rintro rfl
  revert quote
  decide

/-- The scan for the end of a group passes over a quotation and its closing mark. -/
theorem IsQuotation.closeGroup_eq {mark : Char} {body : Text} (quotation : IsQuotation mark body)
    (quote : isQuoteMark mark = true) {depth : Nat} {rest inside behind : Text}
    (found : closeGroup ⟨depth + 1, .plain⟩ rest = some (inside, behind)) :
    closeGroup ⟨depth + 1, .quoted mark⟩ (body ++ mark :: rest) =
      some (body ++ mark :: inside, behind) := by
  -- No step inside the quotation touches the depth.
  induction quotation with
  | nil =>
    have noBackslash := ne_backslash_of_isQuoteMark quote
    exact (closeGroup_cons_iff (Nesting.step_mark noBackslash)).mpr ⟨inside, rfl, found⟩
  | escaped further ih =>
    refine (closeGroup_cons_iff Nesting.step_backslash).mpr ⟨_, rfl, ?_⟩
    exact (closeGroup_cons_iff Nesting.step_escaped).mpr ⟨_, rfl, ih⟩
  | other noBackslash noMark further ih =>
    exact (closeGroup_cons_iff (Nesting.step_quoted noBackslash noMark)).mpr ⟨_, rfl, ih⟩

/-- The scan for the end of a group passes over a balanced text. -/
theorem IsBalanced.closeGroup_eq {text : Text} (balanced : IsBalanced text) {depth : Nat}
    {rest inside behind : Text}
    (found : closeGroup ⟨depth + 1, .plain⟩ rest = some (inside, behind)) :
    closeGroup ⟨depth + 1, .plain⟩ (text ++ rest) = some (text ++ inside, behind) := by
  -- The induction follows the parts of the text, and the depth is the same behind each of them.
  induction balanced generalizing depth rest inside with
  | nil => exact found
  | quoted quote quotation further ih =>
    rw [List.cons_append, List.cons_append, List.append_assoc, List.append_assoc]
    refine (closeGroup_cons_iff (Nesting.step_quote quote)).mpr ⟨_, rfl, ?_⟩
    exact quotation.closeGroup_eq quote (ih found)
  | group nested further insideIh ih =>
    -- Inside the parentheses the scan is one deeper, and the closing one brings it back.
    have closing := (closeGroup_cons_iff (Nesting.step_closing)).mpr ⟨_, rfl, ih found⟩
    have whole := (closeGroup_cons_iff Nesting.step_opening).mpr ⟨_, rfl, insideIh closing⟩
    simpa [inParens] using whole
  | other noQuote noOpening noClosing further ih =>
    refine (closeGroup_cons_iff (Nesting.step_other noQuote noOpening noClosing)).mpr ?_
    exact ⟨_, rfl, ih found⟩

/-- What a scan has passed over at its end, according to the quotes that it started in. -/
def Region.Passed (depth : Nat) (inside : Text) : Region → Prop
  | .plain => Closes depth inside
  | .quoted mark =>
    ∃ body rest, inside = body ++ mark :: rest ∧ IsQuotation mark body ∧ Closes depth rest
  | .escaped mark =>
    ∃ c body rest, inside = c :: (body ++ mark :: rest) ∧ IsQuotation mark body ∧ Closes depth rest

/--
A character in front of what a scan has passed over is passed over too.

The depth before and behind the character says how many parentheses are closed with it in front. The
one exception is a parenthesis that closes nothing, which the depth does not show.
-/
theorem Region.Passed.cons {depth next closed more : Nat} {region other : Region} {c : Char}
    {text : Text} (passed : other.Passed more text)
    (moves : (⟨depth, region⟩ : Nesting).step c = ⟨next, other⟩)
    (opened : ¬(depth = 0 ∧ region = .plain ∧ c = ')')) (balance : closed + next = more + depth) :
    region.Passed closed (c :: text) := by
  -- Outside quotes each kind of character joins in its own way, and inside them few have a meaning.
  cases region with
  | escaped mark =>
    cases Nesting.step_escaped.symm.trans moves
    obtain rfl : closed = more := by omega
    obtain ⟨body, rest, rfl, quotation, closes⟩ := passed
    exact ⟨c, body, rest, rfl, quotation, closes⟩
  | quoted mark =>
    by_cases backslash : c = '\\'
    · subst backslash
      cases Nesting.step_backslash.symm.trans moves
      obtain rfl : closed = more := by omega
      obtain ⟨taken, body, rest, rfl, quotation, closes⟩ := passed
      exact ⟨_, rest, rfl, .escaped quotation, closes⟩
    by_cases ends : c = mark
    · -- The quotation ends here, and what is behind it closes the parentheses.
      subst ends
      cases (Nesting.step_mark backslash).symm.trans moves
      obtain rfl : closed = more := by omega
      exact ⟨[], text, rfl, .nil, passed⟩
    · cases (Nesting.step_quoted backslash ends).symm.trans moves
      obtain rfl : closed = more := by omega
      obtain ⟨body, rest, rfl, quotation, closes⟩ := passed
      exact ⟨_, rest, rfl, .other backslash ends quotation, closes⟩
  | plain =>
    -- A mark opens a quotation, and the rest begins inside of it.
    by_cases quote : isQuoteMark c = true
    · cases (Nesting.step_quote quote).symm.trans moves
      obtain rfl : closed = more := by omega
      obtain ⟨body, rest, rfl, quotation, closes⟩ := passed
      exact closes.quoted quote quotation
    by_cases opening : c = '('
    · -- One more parenthesis is open from here on, and its partner is behind it.
      subst opening
      cases Nesting.step_opening.symm.trans moves
      obtain rfl : more = closed + 1 := by omega
      exact Closes.opening passed
    by_cases closing : c = ')'
    · subst closing
      obtain ⟨depth, rfl⟩ := Nat.exists_eq_succ_of_ne_zero fun zero => opened ⟨zero, rfl, rfl⟩
      cases Nesting.step_closing.symm.trans moves
      obtain rfl : closed = more + 1 := by omega
      exact .next .nil passed
    · have noQuote : isQuoteMark c = false := by simpa using quote
      cases (Nesting.step_other noQuote opening closing).symm.trans moves
      obtain rfl : closed = more := by omega
      exact Closes.other passed noQuote opening closing

/-- A scan with open parentheses closes the last of them outside quotes only. -/
theorem Nesting.eq_of_step_depth {depth : Nat} {region : Region} {c : Char}
    (last : ((⟨depth + 1, region⟩ : Nesting).step c).depth = 0) : depth = 0 ∧ region = .plain := by
  -- In every other case the depth stays above zero.
  unfold Nesting.step at last
  repeat' split at last
  all_goals simp_all

/-- What a scan for the end of a group has passed over closes all parentheses but the last one. -/
theorem passed_of_closeGroup {depth : Nat} {region : Region} {text inside behind : Text}
    (found : closeGroup ⟨depth + 1, region⟩ text = some (inside, behind)) :
    region.Passed depth inside := by
  -- The induction follows the scan: each character joins what is passed over behind it.
  induction text generalizing depth region inside with
  | nil => cases found
  | cons c text ih =>
    match moves : (⟨depth + 1, region⟩ : Nesting).step c with
    | ⟨0, other⟩ =>
      -- This character ends the group.
      obtain ⟨rfl, rfl⟩ := Nesting.eq_of_step_depth (congrArg Nesting.depth moves)
      rw [closeGroup, moves, if_pos rfl] at found
      cases found
      exact .last .nil
    | ⟨next + 1, other⟩ =>
      obtain ⟨more, rfl, further⟩ := (closeGroup_cons_iff moves).mp found
      exact (ih further).cons moves (by simp) (by omega)

/-- What is read as the inside of a group is balanced. -/
theorem isBalanced_of_group? {text inside behind : Text}
    (found : group? text = some (inside, behind)) : IsBalanced inside := by
  -- Behind the opening parenthesis, a scan from depth zero on passes balanced texts only.
  unfold group? at found
  split at found
  · obtain ⟨balanced⟩ : Closes 0 inside := passed_of_closeGroup found
    exact balanced
  · cases found

/-- A pair of parentheses is read as a group exactly if its inside is balanced. -/
theorem group?_inParens_append_iff {inside rest : Text} :
    group? (inParens inside ++ rest) = some (inside, rest) ↔ IsBalanced inside := by
  constructor
  · intro found
    exact isBalanced_of_group? found
  · intro balanced
    -- Behind the inside, the next parenthesis is the one that ends the group.
    have ends : closeGroup ⟨1, .plain⟩ (')' :: rest) = some ([], rest) := rfl
    have start : inParens inside ++ rest = '(' :: (inside ++ ')' :: rest) := by simp [inParens]
    have whole := balanced.closeGroup_eq ends
    rw [List.append_nil] at whole
    rw [start]
    exact whole

/-- A pair of parentheses with nothing behind it is read as a group in the same case. -/
theorem group?_inParens_iff {inside : Text} :
    group? (inParens inside) = some (inside, []) ↔ IsBalanced inside := by
  -- Nothing behind the group is one of the texts that may stand there.
  rw [← @group?_inParens_append_iff inside [], List.append_nil]

end SqlWriter
