import SqlWriter.Proofs.Shape.Chain

/-! No text has two of the shapes of references, apart from a wildcard in parentheses. -/

namespace SqlWriter

/-- A star has no parentheses in it, and no white space. -/
theorem IsStar.plain {star : Text} (shape : IsStar star) :
    ∀ c ∈ star, isWhite c = false ∧ c ≠ '(' ∧ c ≠ ')' := by
  -- The parts of a qualifier have neither, and the dots and the star are none of these.
  have part : ∀ c, isQualifierChar c = true → isWhite c = false ∧ c ≠ '(' ∧ c ≠ ')' := by
    intro c inside
    refine ⟨?visible, ?opening, ?closing⟩
    case visible =>
      cases white : isWhite c with
      | false => rfl
      | true => simp [isQualifierChar, white] at inside
    case opening =>
      rintro rfl
      revert inside
      decide
    case closing =>
      rintro rfl
      revert inside
      decide
  cases shape with
  | all => exact List.forall_mem_singleton.mpr (by decide)
  | ofTable qualifier =>
    intro c there
    -- A character of the star is in the path, or it is the dot or the star.
    rcases List.mem_append.mp there with path | star
    · rcases qualifier.inside c path with inside | rfl
      · exact part c inside
      · decide
    · have marks : c ∈ ['.', '*'] := star
      rcases List.mem_pair.mp marks with rfl | rfl
      · decide
      · decide

/-- Gaps around a text add no character to it that is no gap. -/
theorem not_mem_between_gaps {front core back : Text} {c : Char}
    (before : ∀ c ∈ front, isGap c = true) (behind : ∀ c ∈ back, isGap c = true)
    (noGap : isGap c = false) (outside : c ∉ core) : c ∉ front ++ (core ++ back) := by
  -- The character would have to be in one of the three parts.
  intro there
  rcases List.mem_append.mp there with gap | inside
  · rw [before c gap] at noGap
    cases noGap
  · rcases List.mem_append.mp inside with inside | gap
    · exact outside inside
    · rw [behind c gap] at noGap
      cases noGap

/-- A star between gaps has no parentheses in it. -/
theorem IsStar.not_mem_parens {front star back : Text} (shape : IsStar star)
    (before : ∀ c ∈ front, isGap c = true) (behind : ∀ c ∈ back, isGap c = true) :
    '(' ∉ front ++ (star ++ back) ∧ ')' ∉ front ++ (star ++ back) := by
  -- A star has neither of the two parentheses, and gaps have no visible character.
  constructor
  · apply not_mem_between_gaps before behind (by decide)
    intro opening
    exact (shape.plain '(' opening).2.1 rfl
  · apply not_mem_between_gaps before behind (by decide)
    intro closing
    exact (shape.plain ')' closing).2.2 rfl

/-- A star is what a text with gaps around it is trimmed to. -/
theorem IsStar.trim_eq {front star back : Text} (shape : IsStar star)
    (before : ∀ c ∈ front, isGap c = true) (behind : ∀ c ∈ back, isGap c = true) :
    trim (front ++ (star ++ back)) = star := by
  -- Both gaps are white, and no character of the star is.
  rw [trim_white_append fun c there => isWhite_of_isGap (before c there),
    trim_append_white fun c there => isWhite_of_isGap (behind c there)]
  exact trim_of_visible fun c there => (shape.plain c there).1

/-- Every star has its mark in it. -/
theorem IsStar.mem_star {star : Text} (shape : IsStar star) : '*' ∈ star := by
  -- Both forms end with it.
  cases shape <;> simp

/-- Every wildcard has a star in it. -/
theorem IsWildcard.mem_star {text : Text} (wildcard : IsWildcard text) : '*' ∈ text := by
  -- The star is the core of the wildcard, with or without parentheses around it.
  cases wildcard with
  | bare star =>
    obtain ⟨front, star, back, -, shape, -, rfl⟩ := star
    simp [shape.mem_star]
  | grouped group =>
    obtain ⟨front, _, back, -, ⟨_, ⟨left, star, right, -, shape, -, rfl⟩, rfl⟩, -, rfl⟩ := group
    simp [inParens, shape.mem_star]

/-- What is read as a text in parentheses is a group between two gaps, with its inside trimmed. -/
theorem exists_gaps_of_parenthesized? {text inner : Text}
    (found : parenthesized? text = some inner) :
    ∃ front inside back, (∀ c ∈ front, isGap c = true) ∧
      group? (inParens inside) = some (inside, []) ∧ (∀ c ∈ back, isGap c = true) ∧
      inner = trim inside ∧ text = front ++ (inParens inside ++ back) := by
  -- The reader succeeds in one way, with a group in front and nothing but a gap behind it.
  unfold parenthesized? at found
  split at found
  · rename_i inside back group
    split at found
    · rename_i whole
      cases found
      obtain ⟨front, before, outer⟩ := exists_gap text
      refine ⟨front, inside, back, before, closed_of_group? group,
        -- The text is the gap in front, the group, and what is behind the group.
        skipGap_eq_nil_iff.mp whole.1, rfl, ?_⟩
      rw [group?_append group]
      exact outer
    · cases found
  · cases found

/-- A text that starts with a parenthesis behind a gap is no call. -/
theorem functionCall?_of_paren {front : Text} (before : ∀ c ∈ front, isGap c = true) (rest : Text) :
    functionCall? (front ++ '(' :: rest) = none := by
  -- What stands behind the gap is no character of a word, so that a call has no name.
  have start : skipGap (front ++ '(' :: rest) = '(' :: rest :=
    skipGap_append before (stops_cons (by decide))
  have noWord : word? ('(' :: rest) = none := run?_eq_none (stops_cons (by decide))
  rw [functionCall?, start, call?, noWord, Option.bind_none]

/-- A text that starts with a parenthesis can only start with a group as its operand. -/
theorem operand?_of_paren (rest : Text) : operand? ('(' :: rest) = groupText? ('(' :: rest) := by
  -- A parenthesis starts neither a quoted word nor a name, and so only a group is left.
  have noWord : run? isWordChar ('(' :: rest) = none := run?_eq_none (stops_cons (by decide))
  have noQuote : quotedWord? ('(' :: rest) = none :=
    quotedWord?_eq_none (by decide) (by decide) rest
  rw [operand?, noQuote, call?, word?, path?, noWord]
  simp

/-- One operand between gaps is no chain. -/
theorem IsOperand.operatorChain?_eq_none {front operand back : Text} (whole : IsOperand operand)
    (before : ∀ c ∈ front, isGap c = true) (behind : ∀ c ∈ back, isGap c = true) :
    operatorChain? (front ++ (operand ++ back)) = none := by
  -- The operand is read as a whole, and no link follows it.
  have gap : StartsWithGap back := fun c first => behind c (List.mem_of_mem_head? first)
  simp only [operatorChain?, skipGap_append before (whole.stops_gap back), whole.operand?_eq gap,
    takeLinks_of_gap behind]
  rfl

/-- A group without a closing parenthesis inside it ends at the only one that there is. -/
theorem eq_of_group? {inner back inside rest : Text} (single : ')' ∉ inner) (last : ')' ∉ back)
    (found : group? (inParens inner ++ back) = some (inside, rest)) :
    inside = inner ∧ rest = back := by
  -- Both readings are the whole text, and there is one closing parenthesis to split it at.
  have whole : inside ++ ')' :: rest = inner ++ ')' :: back := by
    simpa [inParens] using group?_append found
  obtain ⟨same, -, behind⟩ := (List.append_cons_inj_of_notMem single last).mp whole.symm
  exact ⟨same.symm, behind.symm⟩

/-- A text in parentheses with no further one that closes is no chain. -/
theorem operatorChain?_of_inParens {front inner back : Text} (single : ')' ∉ inner)
    (before : ∀ c ∈ front, isGap c = true) (behind : ∀ c ∈ back, isGap c = true) :
    operatorChain? (front ++ (inParens inner ++ back)) = none := by
  have last : ')' ∉ back := fun there => absurd (behind ')' there) (by decide)
  cases found : group? (inParens inner ++ back) with
  | none =>
    -- A quote can keep the parenthesis from closing, and then there is no operand at all.
    have start : skipGap (front ++ (inParens inner ++ back)) = inParens inner ++ back :=
      skipGap_append before (stops_cons (by decide))
    have noOperand : operand? (inParens inner ++ back) = none := by
      have paren := operand?_of_paren (inner ++ [')'] ++ back)
      rw [groupText?] at paren
      exact paren.trans (by rw [Option.map_eq_none_iff]; exact found)
    rw [operatorChain?, start, noOperand]
  | some taken =>
    obtain ⟨inside, rest⟩ := taken
    -- With one closing parenthesis, the group can only be the whole operand.
    obtain ⟨rfl, rfl⟩ := eq_of_group? single last found
    exact (IsOperand.group (isBalanced_of_group? found)).operatorChain?_eq_none before behind

/-- What is left of a chain once it is trimmed still has a gap in it. -/
theorem Chain.Spells.mem_trim {chain : Chain} {text : Text} (spelled : chain.Spells text) :
    ∃ c ∈ trim text, isGap c = true := by
  obtain ⟨before, first, several, further, behind⟩ := spelled
  rename_i front linked back
  generalize chain.links = links at several further
  cases further with
  | nil => exact absurd rfl several
  | @cons operator operand links left right rest apart _ _ _ =>
    -- The gap stands between the start of the first operand and the first operator.
    obtain ⟨c, tail, start, visible⟩ := first.exists_cons
    obtain ⟨gap, more, rfl⟩ := List.exists_cons_of_ne_nil apart.present
    refine ⟨gap, ?_, apart.inside gap List.mem_cons_self⟩
    have there : gap ∈ tail ++ gap :: more := by simp
    have between := mem_trim_between visible operator.symbol_visible.1 front
      (right ++ (operand ++ rest) ++ back) there
    rw [start]
    simpa using between

/-- A numeral has no character that can be seen and does not belong to numerals. -/
theorem not_mem_of_numeral? {text digits : Text} {c : Char} (found : numeral? text = some digits)
    (visible : isWhite c = false) (other : isNumberChar c = false) : c ∉ text := by
  -- The character would not be trimmed away, and so it would be one of the numeral.
  intro there
  obtain ⟨rfl, number, spelled, -⟩ := finite_of_numeral? found
  have inside := isNumberChar_of_ofText? spelled (mem_trim there visible)
  rw [other] at inside
  cases inside

/-- A boolean word has no other shape. -/
theorem exclusion_of_boolOfWord? {text : Text} {value : Bool}
    (found : boolOfWord? text = some value) :
    numeral? text = none ∧ wildcard? text = none ∧ operatorChain? text = none ∧
      functionCall? text = none ∧ parenthesized? text = none := by
  -- There are two words only, each of which is looked at on its own.
  rw [boolOfWord?_eq_some_iff.mp found]
  cases value <;> decide +kernel

/-- A text without a star, a parenthesis and a gap inside it has none of four shapes. -/
theorem exclusion_of_marks {text : Text} (noStar : '*' ∉ text) (noParen : '(' ∉ text)
    (noGap : ∀ c ∈ trim text, isGap c = false) :
    wildcard? text = none ∧ operatorChain? text = none ∧ functionCall? text = none ∧
      parenthesized? text = none := by
  -- Each of the four shapes needs one of the characters that are not there.
  simp only [Option.eq_none_iff_forall_ne_some]
  refine ⟨?wildcard, ?chain, ?call, ?group⟩
  -- A wildcard has a star in it.
  case wildcard =>
    intro wildcard starred
    have shape : IsWildcard text := wildcard?_isSome_iff.mp (by rw [starred]; rfl)
    exact noStar shape.mem_star
  -- A chain has gaps around its operators, which are inside the trimmed text.
  case chain =>
    intro chain chained
    obtain ⟨c, there, gap⟩ := (operatorChain?_eq_some_iff.mp chained).mem_trim
    rw [noGap c there] at gap
    cases gap
  -- A call has a parenthesis behind its name.
  case call =>
    intro call called
    obtain ⟨front, back, -, whole, -, rfl⟩ := exists_gaps_of_functionCall? called
    exact noParen (by simp [whole.mem_parenthesis])
  -- A group starts with a parenthesis.
  case group =>
    intro inner wrapped
    obtain ⟨front, inside, back, -, -, -, -, rfl⟩ := exists_gaps_of_parenthesized? wrapped
    exact noParen (by simp [inParens])

/-- A numeral is no wildcard, no chain, no call, and not in parentheses. -/
theorem exclusion_of_numeral? {text digits : Text} (found : numeral? text = some digits) :
    wildcard? text = none ∧ operatorChain? text = none ∧ functionCall? text = none ∧
      parenthesized? text = none := by
  refine exclusion_of_marks (not_mem_of_numeral? found (by decide) (by decide))
    (not_mem_of_numeral? found (by decide) (by decide)) fun c there => ?_
  -- None of the four gap characters is in a numeral.
  obtain ⟨rfl, number, spelled, -⟩ := finite_of_numeral? found
  have inside := isNumberChar_of_ofText? spelled there
  cases gap : isGap c with
  | false => rfl
  | true =>
    simp only [isGap, Bool.or_eq_true, beq_iff_eq] at gap
    rcases gap with ((rfl | rfl) | rfl) | rfl <;> revert inside <;> decide

/-- A wildcard is no chain and no call. -/
theorem exclusion_of_wildcard? {text : Text} {wildcard : Wildcard}
    (found : wildcard? text = some wildcard) :
    operatorChain? text = none ∧ functionCall? text = none := by
  have shape : IsWildcard text := wildcard?_isSome_iff.mp (by rw [found]; rfl)
  cases shape with
  | bare star =>
    obtain ⟨front, star, back, before, shape, behind, rfl⟩ := star
    simp only [Option.eq_none_iff_forall_ne_some]
    constructor
    · -- Nothing but the star is left of the text, and there is no gap in it.
      intro chain chained
      obtain ⟨c, there, gap⟩ := (operatorChain?_eq_some_iff.mp chained).mem_trim
      rw [shape.trim_eq before behind] at there
      rw [not_isGap_of_not_isWhite (shape.plain c there).1] at gap
      cases gap
    · -- A call would have a parenthesis in it.
      intro call called
      obtain ⟨left, right, -, whole, -, same⟩ := exists_gaps_of_functionCall? called
      have there : '(' ∈ front ++ (star ++ back) := by
        rw [same]
        simp [whole.mem_parenthesis]
      exact (shape.not_mem_parens before behind).1 there
  | grouped group =>
    obtain ⟨front, _, back, before, ⟨_, ⟨left, star, right, leftGap, shape, rightGap, rfl⟩, rfl⟩,
      behind, rfl⟩ := group
    -- The group of a wildcard is an operand by itself, and no name stands in front of it.
    have single := (shape.not_mem_parens leftGap rightGap).2
    exact ⟨operatorChain?_of_inParens single before behind, functionCall?_of_paren before _⟩

/-- A chain is no call and not in parentheses, because each of these is an operand alone. -/
theorem exclusion_of_operatorChain? {text : Text} {chain : Chain}
    (found : operatorChain? text = some chain) :
    functionCall? text = none ∧ parenthesized? text = none := by
  -- Calls and groups are single operands, which no operator follows.
  simp only [Option.eq_none_iff_forall_ne_some]
  constructor
  · intro call called
    obtain ⟨front, back, before, whole, behind, rfl⟩ := exists_gaps_of_functionCall? called
    rw [List.append_assoc, whole.isOperand.operatorChain?_eq_none before behind] at found
    cases found
  · -- The group is the whole text, but for the gaps around it.
    intro inner wrapped
    obtain ⟨front, inside, back, before, closed, behind, -, rfl⟩ :=
      exists_gaps_of_parenthesized? wrapped
    have operand : IsOperand (inParens inside) := .group (isBalanced_of_group? closed)
    rw [operand.operatorChain?_eq_none before behind] at found
    cases found

/-- A call is not in parentheses, because a word stands in front of them. -/
theorem exclusion_of_functionCall? {text call : Text} (found : functionCall? text = some call) :
    parenthesized? text = none := by
  -- A group starts with a parenthesis, in the place of which a call has its name.
  rw [Option.eq_none_iff_forall_ne_some]
  intro inner wrapped
  obtain ⟨front, inside, back, before, -, -, -, rfl⟩ := exists_gaps_of_parenthesized? wrapped
  rw [inParens, List.cons_append, functionCall?_of_paren before] at found
  cases found

/-- A wildcard that is also a text in parentheses is its inside, which is one without them. -/
theorem exists_qualifier_of_parenthesized? {text inner : Text} {wildcard : Wildcard}
    (found : wildcard? text = some wildcard) (wrapped : parenthesized? text = some inner) :
    ∃ qualifier, wildcard = ⟨qualifier, true⟩ ∧ wildcard? inner = some ⟨qualifier, false⟩ := by
  have shape : IsWildcard text := wildcard?_isSome_iff.mp (by rw [found]; rfl)
  obtain ⟨outer, inside, last, outerGap, closed, lastGap, rfl, same⟩ :=
    exists_gaps_of_parenthesized? wrapped
  cases shape with
  | bare star =>
    -- There is no parenthesis in a star or in a gap.
    obtain ⟨front, star, back, before, shape, behind, rfl⟩ := star
    have there : '(' ∈ front ++ (star ++ back) := by
      rw [same]
      simp [inParens]
    exact absurd there (shape.not_mem_parens before behind).1
  | grouped group =>
    obtain ⟨front, _, back, before, ⟨_, ⟨left, star, right, leftGap, shape, rightGap, rfl⟩, rfl⟩,
      behind, rfl⟩ := group
    -- The group of the text can only be the one around the star.
    have cores : inParens (left ++ (star ++ right)) ++ back = inParens inside ++ last := by
      have opening : ∀ inner rest : Text, Stops isGap (inParens inner ++ rest) :=
        fun _ _ => stops_cons (by decide)
      rw [← skipGap_append before (opening _ back), same, skipGap_append outerGap (opening _ last)]
    have group := group?_behind closed last
    rw [← cores] at group
    have noParen : ')' ∉ back := fun there => absurd (behind ')' there) (by decide)
    obtain ⟨rfl, -⟩ := eq_of_group? (shape.not_mem_parens leftGap rightGap).2 noParen group
    -- Inside the parentheses there is the star, read without them.
    obtain ⟨qualifier, bare, grouped⟩ := shape.exists_wildcard
    rw [grouped front left right back before leftGap rightGap behind] at found
    rw [shape.trim_eq leftGap rightGap]
    refine ⟨qualifier, (Option.some.inj found).symm, ?_⟩
    simpa using bare [] [] (List.forall_mem_nil _) (List.forall_mem_nil _)

end SqlWriter
