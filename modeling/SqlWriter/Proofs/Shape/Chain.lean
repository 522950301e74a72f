import SqlWriter.Proofs.Shape.Alias
import SqlWriter.Proofs.Shape.Balanced
import SqlWriter.Proofs.Value.Literal
import SqlWriter.Shape.Chain

/-! Arithmetic chains: a text is read as a chain exactly if it is one of the spellings of it. -/

namespace SqlWriter

/-- The four kinds of operands: a word in quotes, a call, a group, and a path of words. -/
inductive IsOperand : Text → Prop where
  | quotedWord {mark : Char} {word : Text} (quote : mark = '\'' ∨ mark = '"')
    (run : IsRun isWordChar word) : IsOperand (mark :: (word ++ [mark]))
  | call {name inside : Text} (named : IsRun isWordChar name) (balanced : IsBalanced inside) :
    IsOperand (name ++ inParens inside)
  | group {inside : Text} (balanced : IsBalanced inside) : IsOperand (inParens inside)
  | path {path : Text} (whole : IsPath isWordChar path) : IsOperand path

/-- Links in a row as they can be written: operators with a gap on each side, and operands. -/
inductive SpellsLinks : List (Operator × Text) → Text → Prop where
  | nil : SpellsLinks [] []
  -- Neither gap can be missing, because a mark next to a word is no operator.
  | cons {operator : Operator} {operand : Text} {links : List (Operator × Text)}
    {before behind rest : Text} (left : IsRun isGap before) (right : IsRun isGap behind)
    (whole : IsOperand operand) (further : SpellsLinks links rest) :
    SpellsLinks ((operator, operand) :: links)
      (before ++ operator.symbol :: (behind ++ (operand ++ rest)))

/-- A chain as it can be written: its first operand, its links, and gaps around the whole. -/
inductive Chain.Spells (chain : Chain) : Text → Prop where
  | intro {front linked back : Text} (before : ∀ c ∈ front, isGap c = true)
    (first : IsOperand chain.first) (several : chain.links ≠ [])
    (further : SpellsLinks chain.links linked) (behind : ∀ c ∈ back, isGap c = true) :
    chain.Spells (front ++ (chain.first ++ (linked ++ back)))

/-- Each link has an operand. -/
theorem SpellsLinks.isOperand {links : List (Operator × Text)} {linked : Text}
    (spelled : SpellsLinks links linked) : ∀ link ∈ links, IsOperand link.2 := by
  -- Each link has one operand, which is one by its shape.
  induction spelled with
  | nil => exact List.forall_mem_nil _
  | cons left right whole further ih => exact List.forall_mem_cons.mpr ⟨whole, ih⟩

/-- The operands of a chain that can be spelled are operands. -/
theorem Chain.Spells.isOperand {chain : Chain} {text : Text} (spelled : chain.Spells text) :
    ∀ operand ∈ chain.operands, IsOperand operand := by
  -- The first operand stands alone, and the others stand in the links.
  obtain ⟨before, first, several, further, behind⟩ := spelled
  refine List.forall_mem_cons.mpr ⟨first, ?_⟩
  intro operand linked
  obtain ⟨link, member, rfl⟩ := List.mem_map.mp linked
  exact further.isOperand link member

/-- Nothing stands behind an operand, or a gap. -/
def StartsWithGap (rest : Text) : Prop :=
  ∀ c ∈ rest.head?, isGap c = true

/-- The symbol of an operator stands for that operator. -/
theorem Operator.ofChar?_symbol (operator : Operator) :
    Operator.ofChar? operator.symbol = some operator := by
  -- There are four operators.
  cases operator <;> rfl

/-- Only its symbol stands for an operator. -/
theorem Operator.symbol_of_ofChar? {c : Char} {operator : Operator}
    (named : Operator.ofChar? c = some operator) : operator.symbol = c := by
  -- The four symbols are compared one by one, and each names its own operator.
  unfold Operator.ofChar? at named
  repeat' split at named
  all_goals cases named
  all_goals subst_vars; rfl

/-- The symbol of an operator can be seen, and is no character of a gap or a word. -/
theorem Operator.symbol_visible (operator : Operator) :
    isWhite operator.symbol = false ∧ isGap operator.symbol = false ∧
      isWordChar operator.symbol = false := by
  -- There are four symbols.
  cases operator <;> decide

/-- A word in quotes is taken off a text exactly if the text starts with one. -/
theorem quotedWord?_eq_some_iff {text quoted rest : Text} :
    quotedWord? text = some (quoted, rest) ↔
      ∃ mark word, (mark = '\'' ∨ mark = '"') ∧ IsRun isWordChar word ∧
        quoted = mark :: (word ++ [mark]) ∧ text = quoted ++ rest := by
  constructor
  · -- The reader succeeds in one way only, and each test on that way is one of the conditions.
    intro found
    have whole := quotedWord?_append found
    unfold quotedWord? at found
    split at found
    · rename_i mark body
      split at found
      · rename_i quote
        split at found
        · rename_i word close behind run
          split at found
          · obtain ⟨word, -, -⟩ := run?_eq_some_iff.mp run
            cases found
            exact ⟨mark, _, by simpa using quote, word, rfl, whole.symm⟩
          · cases found
        · cases found
      · cases found
    · cases found
  · -- The word ends at the closing mark, since a mark is no character of a word.
    rintro ⟨mark, word, quote, run, rfl, rfl⟩
    have noWord : isWordChar mark = false := by
      rcases quote with rfl | rfl <;> decide
    have taken : word? (word ++ mark :: rest) = some (word, mark :: rest) :=
      run?_eq_some_iff.mpr ⟨run, stops_cons noWord, rfl⟩
    have start : mark :: (word ++ [mark]) ++ rest = mark :: (word ++ mark :: rest) := by simp
    rw [start, quotedWord?, if_pos (by simpa using quote)]
    simp only [taken, if_pos]

/-- A text that starts with neither of the two quotes starts with no word in quotes. -/
theorem quotedWord?_eq_none {c : Char} (single : c ≠ '\'') (double : c ≠ '"') (rest : Text) :
    quotedWord? (c :: rest) = none := by
  -- A quoted word starts with one of the two marks.
  simp [quotedWord?, single, double]

/-- No character of a word is a quote or a parenthesis. -/
theorem ne_of_isWordChar {c : Char} (word : isWordChar c = true) :
    c ≠ '\'' ∧ c ≠ '"' ∧ c ≠ '(' := by
  -- Each of the three marks is tested as a character of a word, which fails.
  refine ⟨?_, ?_, ?_⟩ <;> rintro rfl <;> revert word <;> decide

/-- A text that starts with a call starts with the word in front of the group. -/
theorem exists_cons_of_call? {text call rest : Text} (found : call? text = some (call, rest)) :
    ∃ c behind, text = c :: behind ∧ isWordChar c = true := by
  -- A call starts with the first character of its name.
  simp only [call?, Option.bind_eq_some_iff, Prod.exists] at found
  obtain ⟨name, arguments, word, -⟩ := found
  obtain ⟨c, more, rfl⟩ := List.exists_cons_of_ne_nil (run?_ne_nil word)
  exact ⟨c, more ++ arguments, (run?_append word).symm, run?_isPart word c List.mem_cons_self⟩

/-- Only a parenthesis starts a group. -/
theorem group?_eq_none {text : Text} (other : ∀ c ∈ text.head?, c ≠ '(') : group? text = none := by
  -- A group starts with its parenthesis.
  unfold group?
  split
  · exact absurd rfl (other '(' rfl)
  · rfl

/-- An operand starts with a character that can be seen. -/
theorem IsOperand.exists_cons {operand : Text} (whole : IsOperand operand) :
    ∃ c tail, operand = c :: tail ∧ isWhite c = false := by
  -- Each form of an operand starts with a mark or with a character of a word.
  cases whole with
  | quotedWord quote run =>
    refine ⟨_, _, rfl, ?_⟩
    rcases quote with rfl | rfl <;> decide
  | call named balanced =>
    obtain ⟨c, tail, rfl⟩ := List.exists_cons_of_ne_nil named.present
    exact ⟨c, _, rfl, not_isWhite_of_isWordChar (named.inside c List.mem_cons_self)⟩
  | group balanced => exact ⟨'(', _, rfl, by decide⟩
  | path whole =>
    obtain ⟨c, tail, rfl, word⟩ := whole.exists_cons
    exact ⟨c, tail, rfl, not_isWhite_of_isWordChar word⟩

/-- What can be seen is no gap. -/
theorem not_isGap_of_not_isWhite {c : Char} (visible : isWhite c = false) : isGap c = false := by
  -- Every gap is white space, so a character that can be seen is none.
  rw [← Bool.not_eq_true]
  intro gap
  rw [isWhite_of_isGap gap] at visible
  cases visible

/-- An operand ends every gap in front of it. -/
theorem IsOperand.stops_gap {operand : Text} (whole : IsOperand operand) (rest : Text) :
    Stops isGap (operand ++ rest) := by
  -- An operand starts with a character that can be seen.
  obtain ⟨c, tail, rfl, visible⟩ := whole.exists_cons
  exact stops_cons (not_isGap_of_not_isWhite visible)

/-- A gap behind a text goes on with no word, no path and no group. -/
theorem StartsWithGap.stops {rest : Text} (gap : StartsWithGap rest) :
    Stops isWordChar rest ∧ (∀ behind, rest ≠ '.' :: behind) ∧ ∀ c ∈ rest.head?, c ≠ '(' := by
  -- The first character is a gap, and a gap is none of these.
  refine ⟨fun c first => not_isWordChar_of_isGap (gap c first), ?_, ?_⟩
  · rintro behind rfl
    exact absurd (gap '.' rfl) (by decide)
  · rintro c first rfl
    exact absurd (gap '(' first) (by decide)

/-- A text that starts with a word starts with a call only if a parenthesis follows the word. -/
theorem call?_eq_none {word rest : Text} (run : IsRun isWordChar word)
    (stops : Stops isWordChar rest) (other : ∀ c ∈ rest.head?, c ≠ '(') :
    call? (word ++ rest) = none := by
  -- The word ends where the rest starts, and no group stands there.
  have taken : word? (word ++ rest) = some (word, rest) := run?_eq_some_iff.mpr ⟨run, stops, rfl⟩
  simp [call?, taken, group?_eq_none other]

/-- A path is no call if a gap stands behind it. -/
theorem IsPath.call?_eq_none {path rest : Text} (whole : IsPath isWordChar path)
    (gap : StartsWithGap rest) : call? (path ++ rest) = none := by
  obtain ⟨stops, -, other⟩ := gap.stops
  cases whole with
  | part run => exact SqlWriter.call?_eq_none run stops other
  | @cons part more run _ =>
    -- The first word is followed by a dot.
    rw [List.append_assoc]
    exact SqlWriter.call?_eq_none run (stops_cons (by decide)) (by rintro _ ⟨⟩; decide)

/-- A text that starts with a word starts with neither a word in quotes nor a group. -/
theorem operand?_of_word {c : Char} {behind : Text} (word : isWordChar c = true) :
    operand? (c :: behind) = (call? (c :: behind)).or (path? isWordChar (c :: behind)) := by
  -- A character of a word starts neither a quoted word nor a group.
  obtain ⟨single, double, opening⟩ := ne_of_isWordChar word
  have noGroup : group? (c :: behind) = none := group?_eq_none (by rintro _ ⟨⟩; exact opening)
  rw [operand?, quotedWord?_eq_none single double, groupText?, noGroup]
  rfl

/-- A whole operand is taken off a text that goes on with a gap or with nothing. -/
theorem IsOperand.operand?_eq {operand rest : Text} (whole : IsOperand operand)
    (gap : StartsWithGap rest) : operand? (operand ++ rest) = some (operand, rest) := by
  cases whole with
  | @quotedWord mark word quote run =>
    -- A word in quotes is tried first.
    have quoted : quotedWord? (mark :: (word ++ [mark]) ++ rest) =
        some (mark :: (word ++ [mark]), rest) :=
      quotedWord?_eq_some_iff.mpr ⟨mark, word, quote, run, rfl, rfl⟩
    rw [operand?, quoted, Option.some_or]
  | @call name inside named balanced =>
    have closed := group?_inParens_iff.mpr balanced
    have taken : word? (name ++ (inParens inside ++ rest)) = some (name, inParens inside ++ rest) :=
      run?_eq_some_iff.mpr ⟨named, stops_cons (by decide), rfl⟩
    have found : call? (name ++ inParens inside ++ rest) =
        some (name ++ inParens inside, rest) := by
      simp only [List.append_assoc, call?, taken, Option.bind_some, group?_behind closed rest,
        Option.map_some]
    -- The call starts with a letter, so it is tried before all others but a path.
    obtain ⟨c, behind, start, letter⟩ := exists_cons_of_call? found
    rw [start] at found ⊢
    rw [operand?_of_word letter, found, Option.some_or]
  | @group inside balanced =>
    have closed := group?_inParens_iff.mpr balanced
    -- A parenthesis is neither a quote nor the start of a word.
    have noWord : word? (inParens inside ++ rest) = none := run?_eq_none (stops_cons (by decide))
    have noCall : call? (inParens inside ++ rest) = none := by rw [call?, noWord, Option.bind_none]
    have noQuote : quotedWord? (inParens inside ++ rest) = none :=
      quotedWord?_eq_none (by decide) (by decide) _
    rw [operand?, noQuote, noCall, groupText?, group?_behind closed rest]
    rfl
  | path whole =>
    -- Behind the path there is no parenthesis that would make a call of its first word.
    have noCall := whole.call?_eq_none gap
    obtain ⟨stops, noDot, -⟩ := gap.stops
    have taken : path? isWordChar (operand ++ rest) = some (operand, rest) :=
      path?_of_isPath whole (by decide) stops fun behind dotted => absurd dotted (noDot behind)
    obtain ⟨c, tail, rfl, letter⟩ := whole.exists_cons
    rw [List.cons_append] at noCall taken ⊢
    rw [operand?_of_word letter, noCall, taken]
    rfl

/-- A whole call is an operand. -/
theorem IsCall.isOperand {call : Text} (whole : IsCall call) : IsOperand call := by
  -- A call that is closed by its last parenthesis is balanced inside.
  obtain ⟨present, word, closed⟩ := whole
  exact .call ⟨present, word⟩ (group?_inParens_iff.mp closed)

/-- What is taken as an operand is one. -/
theorem isOperand_of_operand? {text operand rest : Text}
    (found : operand? text = some (operand, rest)) : IsOperand operand := by
  -- The four forms are tried one after another, and each of them is one form of an operand.
  simp only [operand?, Option.or_eq_some_iff] at found
  rcases found with quoted | ⟨-, call | ⟨-, group | ⟨-, path⟩⟩⟩
  · obtain ⟨mark, word, quote, run, rfl, -⟩ := quotedWord?_eq_some_iff.mp quoted
    exact .quotedWord quote run
  · exact (isCall_of_call? call).isOperand
  · simp only [groupText?, Option.map_eq_some_iff, Prod.mk.injEq, Prod.exists] at group
    obtain ⟨inside, behind, found, rfl, rfl⟩ := group
    exact .group (isBalanced_of_group? found)
  · exact .path (isPath_of_path? path)

/-- What is taken as a link is spelled as one in front of the rest. -/
theorem exists_of_link? {text operand rest : Text} {operator : Operator}
    (found : link? text = some ((operator, operand), rest)) :
    ∃ before behind, IsRun isGap before ∧ IsRun isGap behind ∧ IsOperand operand ∧
      text = before ++ operator.symbol :: (behind ++ (operand ++ rest)) := by
  -- A link is read as gap, operator, gap and operand, and these are put back one by one.
  unfold link? at found
  split at found
  · rename_i mark more gap
    simp only [Option.bind_eq_some_iff, Option.map_eq_some_iff, Prod.mk.injEq,
      Prod.exists] at found
    obtain ⟨known, named, start, space, taken, last, operandFound, ⟨rfl, rfl⟩, rfl⟩ := found
    obtain ⟨before, left, -, rfl⟩ := afterGap?_eq_some_iff.mp gap
    obtain ⟨behind, right, -, rfl⟩ := afterGap?_eq_some_iff.mp space
    refine ⟨before, behind, left, right, isOperand_of_operand? operandFound, ?_⟩
    rw [operand?_append operandFound, Operator.symbol_of_ofChar? named]
  · cases found

/-- A link is taken off a text that goes on with a gap or with nothing. -/
theorem link?_eq {operator : Operator} {operand before behind rest : Text}
    (left : IsRun isGap before) (right : IsRun isGap behind) (whole : IsOperand operand)
    (gap : StartsWithGap rest) :
    link? (before ++ operator.symbol :: (behind ++ (operand ++ rest))) =
      some ((operator, operand), rest) := by
  -- Behind each gap stands something that is no gap, so both are skipped to their ends.
  have mark : afterGap? (before ++ operator.symbol :: (behind ++ (operand ++ rest))) =
      some (operator.symbol :: (behind ++ (operand ++ rest))) :=
    afterGap?_eq_some_iff.mpr ⟨before, left, stops_cons operator.symbol_visible.2.1, rfl⟩
  have start : afterGap? (behind ++ (operand ++ rest)) = some (operand ++ rest) :=
    afterGap?_eq_some_iff.mpr ⟨behind, right, whole.stops_gap rest, rfl⟩
  simp only [link?, mark, Operator.ofChar?_symbol, Option.bind_some, start, whole.operand?_eq gap,
    Option.map_some]

/-- Links start with a gap, and so does whatever stands in place of them. -/
theorem SpellsLinks.startsWithGap {links : List (Operator × Text)} {linked back : Text}
    (spelled : SpellsLinks links linked) (gap : ∀ c ∈ back, isGap c = true) :
    StartsWithGap (linked ++ back) := by
  -- Either a link follows, which starts with its gap, or the gap at the end does.
  cases spelled with
  | nil => exact fun c first => gap c (List.mem_of_mem_head? first)
  | cons left right whole further =>
    obtain ⟨c, tail, rfl⟩ := List.exists_cons_of_ne_nil left.present
    rintro _ ⟨⟩
    exact left.inside c List.mem_cons_self

/-- Behind a link, the links of a text go on with those of the rest. -/
theorem takeLinks_of_link? {text operand rest : Text} {operator : Operator}
    (found : link? text = some ((operator, operand), rest)) :
    takeLinks text = ((operator, operand) :: (takeLinks rest).1, (takeLinks rest).2) := by
  -- A link was found, so the search goes on behind it.
  rw [takeLinks]
  split
  · rename_i taken
    cases found.symm.trans taken
    rfl
  · rename_i none
    cases found.symm.trans none

/-- A gap up to the end of a text holds no links. -/
theorem takeLinks_of_gap {back : Text} (gap : ∀ c ∈ back, isGap c = true) :
    takeLinks back = ([], back) := by
  rw [takeLinks]
  split
  · -- The symbol of an operator would be one of the characters of the gap.
    rename_i operator operand rest found
    obtain ⟨before, behind, -, -, -, rfl⟩ := exists_of_link? found
    have blank : isGap operator.symbol = true := gap _ (by simp)
    rw [operator.symbol_visible.2.1] at blank
    cases blank
  · rfl

/-- The links that are taken off a text are spelled in front of the rest. -/
theorem exists_of_takeLinks (text : Text) :
    ∃ linked, SpellsLinks (takeLinks text).1 linked ∧ text = linked ++ (takeLinks text).2 := by
  -- The induction follows the links that the text starts with.
  fun_induction takeLinks text with
  | case1 text operator operand rest found links last split ih =>
    obtain ⟨before, behind, left, right, whole, same⟩ := exists_of_link? found
    obtain ⟨linked, further, ending⟩ := ih
    rw [split] at further ending
    refine ⟨_, .cons left right whole further, ?_⟩
    rw [same, ending]
    simp
  | case2 => exact ⟨[], .nil, rfl⟩

/-- Links are taken off a text exactly as they are spelled if only a gap stands behind them. -/
theorem SpellsLinks.takeLinks_eq {links : List (Operator × Text)} {linked back : Text}
    (spelled : SpellsLinks links linked) (gap : ∀ c ∈ back, isGap c = true) :
    takeLinks (linked ++ back) = (links, back) := by
  -- Each operand ends where the gap of the next link starts.
  induction spelled with
  | nil => exact takeLinks_of_gap gap
  | @cons operator operand links before behind rest left right whole further ih =>
    have taken : link? (before ++ operator.symbol :: (behind ++ (operand ++ (rest ++ back)))) =
        some ((operator, operand), rest ++ back) :=
      link?_eq left right whole (further.startsWithGap gap)
    have moved : before ++ operator.symbol :: (behind ++ (operand ++ rest)) ++ back =
        before ++ operator.symbol :: (behind ++ (operand ++ (rest ++ back))) := by simp
    rw [moved, takeLinks_of_link? taken, ih]

/-- A text is read as a chain exactly if it is a spelling of it. -/
theorem operatorChain?_eq_some_iff {text : Text} {chain : Chain} :
    operatorChain? text = some chain ↔ chain.Spells text := by
  constructor
  · -- Nothing of the text is lost between the operands, the gaps and the operators.
    intro found
    unfold operatorChain? at found
    split at found
    · rename_i first behind start
      simp only [ne_eq] at found
      split at found
      · rename_i whole
        cases found
        obtain ⟨front, before, outer⟩ := exists_gap text
        -- The links are read from behind the first operand, and nothing is left but a gap.
        obtain ⟨linked, further, rest⟩ := exists_of_takeLinks behind
        have spelled : text = front ++ (first ++ (linked ++ (takeLinks behind).2)) := by
          rw [← rest, operand?_append start]
          exact outer
        rw [spelled]
        exact .intro before (isOperand_of_operand? start) whole.1 further
          (skipGap_eq_nil_iff.mp whole.2)
      · cases found
    · cases found
  · -- The gap behind each operand keeps the operand from going on.
    intro spelled
    obtain ⟨before, first, several, further, behind⟩ := spelled
    rename_i front linked back
    have start : operand? (skipGap (front ++ (chain.first ++ (linked ++ back)))) =
        some (chain.first, linked ++ back) := by
      rw [skipGap_append before (first.stops_gap _)]
      exact first.operand?_eq (further.startsWithGap behind)
    simp only [operatorChain?, start, further.takeLinks_eq behind]
    exact if_pos ⟨several, skipGap_eq_nil_iff.mpr behind⟩

end SqlWriter
