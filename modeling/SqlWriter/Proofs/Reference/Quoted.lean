import SqlWriter.Proofs.Reference.Token
import SqlWriter.Proofs.Shape.Chain

/-! Nothing of a reference is written outside its tokens, unless a part of it is a call. -/

namespace SqlWriter

/-- The texts by which a reference is written, each with the style that it is taken in. -/
def ReferenceStyle.parts (style : ReferenceStyle) (text : Text) : List (ReferenceStyle × Text) :=
  -- Only chains and groups are written part by part; every other shape ends the search.
  if (boolOfWord? text).isSome then []
  else match style.numeral? text with
  | some _ => []
  | none =>
  match wildcard? text with
  | some _ => []
  | none =>
  match operatorChain? text with
  | some chain => chain.operands.map fun operand => (style.forOperand operand, operand)
  | none =>
  match functionCall? text with
  | some _ => []
  | none => ((parenthesized? text).map fun inner => (style, inner)).toList

/-- The texts that the writing of a reference comes to: itself, its parts, and their parts. -/
inductive Reaches : ReferenceStyle → Text → Text → Prop where
  | whole {style : ReferenceStyle} {text : Text} : Reaches style text text
  | part {style inside : ReferenceStyle} {text inner reached : Text}
    (direct : (inside, inner) ∈ style.parts text) (further : Reaches inside inner reached) :
    Reaches style text reached

/-- A reference comes to no call if its text is none and its parts come to none. -/
theorem noCall_of_parts {style : ReferenceStyle} {text : Text} (whole : functionCall? text = none)
    (each : ∀ part ∈ style.parts text, ∀ reached, Reaches part.1 part.2 reached →
      functionCall? reached = none) :
    ∀ reached, Reaches style text reached → functionCall? reached = none := by
  -- Behind the text itself, whatever is reached is reached from one of its parts.
  intro reached reaches
  cases reaches with
  | whole => exact whole
  | part direct further => exact each _ direct reached further

/-- A text that has none of the shapes of references other than that of a call. -/
structure IsShapeless (style : ReferenceStyle) (text : Text) : Prop where
  noBool : boolOfWord? text = none
  noNumeral : style.numeral? text = none
  noWildcard : wildcard? text = none
  noChain : operatorChain? text = none
  noGroup : parenthesized? text = none

/-- A text without a shape is quoted as a name or a path. -/
theorem IsShapeless.writeReference_eq {style : ReferenceStyle} {text : Text}
    (shapeless : IsShapeless style text) (noCall : functionCall? text = none)
    (quoting : style.verbatim = false) : writeReference style text = style.quote text := by
  -- Every other branch has a shape that the text does not have.
  obtain ⟨noBool, noNumeral, noWildcard, noChain, noGroup⟩ := shapeless
  fun_cases writeReference style text
  all_goals simp_all

/-- The names that a text without a shape is quoted as. -/
def ReferenceStyle.names (style : ReferenceStyle) (text : Text) : List Text :=
  if style.wholeNames then [text] else text.splitOn '.'

/-- There is at least one name in a text. -/
theorem ReferenceStyle.names_ne_nil (style : ReferenceStyle) (text : Text) :
    style.names text ≠ [] := by
  -- Either the whole text is the name, or it is split, which never leaves nothing.
  unfold ReferenceStyle.names
  split
  · exact List.cons_ne_nil _ _
  · exact List.splitOn_ne_nil _ _

/-- The names of a text make it up again with the dots between them. -/
theorem ReferenceStyle.intercalate_names (style : ReferenceStyle) (text : Text) :
    ['.'].intercalate (style.names text) = text := by
  -- What was split at dots is joined by dots.
  unfold ReferenceStyle.names
  split
  · exact List.intercalate_singleton
  · exact List.intercalate_splitOn '.'

/-- The names of a text are written as the text is quoted. -/
theorem ReferenceStyle.writeNames_names (style : ReferenceStyle) (text : Text) :
    writeNames (style.names text) = style.quote text := by
  -- Quoting makes the same choice between a whole name and a path.
  unfold ReferenceStyle.names ReferenceStyle.quote
  split
  · exact List.intercalate_singleton
  · rfl

/-- A word between two quotes of one kind. -/
def IsQuotedWord (text : Text) : Prop :=
  ∃ mark word, (ReferenceToken.quotedWord mark word).IsWellFormed ∧
    text = (ReferenceToken.quotedWord mark word).write

/-- A quoted operand starts with a quote. -/
theorem head?_of_isQuotedOperand {operand : Text} (quoted : isQuotedOperand operand = true) :
    ∃ mark, (mark = '\'' ∨ mark = '"') ∧ operand.head? = some mark := by
  -- Only two marks are tested at the front.
  simp only [isQuotedOperand, Bool.and_eq_true, Bool.or_eq_true, beq_iff_eq] at quoted
  rcases quoted.2 with single | double
  · exact ⟨'\'', .inl rfl, single.1⟩
  · exact ⟨'"', .inr rfl, double.1⟩

/-- A quoted operand does not start with a word. -/
theorem not_isQuotedOperand_word {c : Char} {tail : Text} (word : isWordChar c = true) :
    isQuotedOperand (c :: tail) = false := by
  rw [← Bool.not_eq_true]
  intro quoted
  -- The quote in front would have to be a character of the word.
  obtain ⟨mark, quote, first⟩ := head?_of_isQuotedOperand quoted
  cases first
  rcases quote with rfl | rfl <;> revert word <;> decide

/-- An operand between two quotes is a quoted word. -/
theorem IsOperand.isQuotedWord {operand : Text} (whole : IsOperand operand)
    (quoted : isQuotedOperand operand = true) : IsQuotedWord operand := by
  -- No other kind of operand starts with a quote.
  cases whole with
  | @quotedWord mark word quote run => exact ⟨mark, word, ⟨quote, run.present, run.inside⟩, rfl⟩
  | call named balanced =>
    obtain ⟨c, tail, rfl⟩ := List.exists_cons_of_ne_nil named.present
    rw [List.cons_append, not_isQuotedOperand_word (named.inside c List.mem_cons_self)] at quoted
    cases quoted
  | group balanced =>
    obtain ⟨mark, quote, first⟩ := head?_of_isQuotedOperand quoted
    cases first
    exact absurd quote (by decide)
  | path whole =>
    obtain ⟨c, tail, rfl, word⟩ := whole.exists_cons
    rw [not_isQuotedOperand_word word] at quoted
    cases quoted

/-- A chain is spelled by tokens if all of its operands are. -/
theorem SpelledBy.chain {first : Text} {links : List (Operator × Text)}
    {operandOf : Operator × Text → Text} (start : ∃ tokens, SpelledBy first tokens)
    (each : ∀ link ∈ links, ∃ tokens, SpelledBy (operandOf link) tokens) :
    ∃ tokens, SpelledBy (first ++ links.flatMap fun link => link.1.write ++ operandOf link)
      tokens := by
  -- The induction takes one link after another over to the front of the chain.
  induction links generalizing first with
  | nil => simpa using start
  | cons link links ih =>
    obtain ⟨before, front⟩ := start
    obtain ⟨⟨after, back⟩, others⟩ := List.forall_mem_cons.mp each
    have longer := ih ⟨_, front.operation link.1 back⟩ others
    simpa using longer

/-- A path is spelled by a single token. -/
theorem spelledBy_path {names : List Text} (present : names ≠ []) :
    SpelledBy (writeNames names) [.path names] :=
  -- A path ends where no further character of a name follows.
  .single (.path names) ((lexesBefore_names names).mono fun _ delimited => delimited.2)
    present fun _ _ => rfl

/-- A star is spelled by a single token, with the names in front of it if it is qualified. -/
theorem spelledBy_star (qualifier : Option (List Text)) (present : qualifier ≠ some []) :
    SpelledBy (ReferenceToken.star qualifier).write [.star qualifier] := by
  have star : Separates ['*'] [.mark '*'] := separates_mark (by decide) (by decide)
  refine .single (.star qualifier) ?lexed present fun _ _ => rfl
  cases qualifier with
  | none => exact star.lexed.mono fun _ _ => trivial
  | some names =>
    -- The star ends the run of the dot, and the dot ends the name in front of it.
    have both := lexesBefore_dot.append star.lexed fun rest _ => endsRun_cons (by decide) rest
    have whole := (lexesBefore_names names).append both fun rest _ => endsName_cons (by decide) _
    exact whole.mono fun _ _ => trivial

/-- A wildcard is spelled by its star, in parentheses if they belong to it. -/
theorem Wildcard.spelledBy (style : ReferenceStyle) (wildcard : Wildcard) :
    ∃ tokens, SpelledBy (wildcard.write style) tokens := by
  -- The parentheses come last, so the star is looked at without them first.
  have star : ∃ tokens, SpelledBy
      (match wildcard.qualifier with
        | some path => style.quote path ++ ".*".toList
        | none => "*".toList) tokens := by
    cases wildcard.qualifier with
    | none => exact ⟨_, spelledBy_star none nofun⟩
    | some path =>
      -- The names of the qualifier are a path, and no path is without a name.
      have qualified := spelledBy_star (some (style.names path))
        fun same => style.names_ne_nil path (Option.some.inj same)
      rw [ReferenceToken.write, style.writeNames_names] at qualified
      exact ⟨_, qualified⟩
  obtain ⟨tokens, spelled⟩ := star
  unfold Wildcard.write
  cases wildcard.parenthesized with
  | true => exact ⟨_, spelled.inParens⟩
  | false => exact ⟨_, spelled⟩

/-- The word of a boolean is spelled by a single token. -/
theorem spelledBy_bool (value : Bool) : SpelledBy (boolWord value) [.bool value] := by
  -- The two words are plain and spell no number.
  have lexed : Lexes (boolWord value) [.word (boolWord value)] := by
    cases value <;> exact lexes_word _ (by decide) (by decide) (by decide)
  exact .single (.bool value) lexed trivial fun _ _ => rfl

/-- A numeral is spelled by a single token. -/
theorem spelledBy_numeral {style : ReferenceStyle} {text digits : Text}
    (found : style.numeral? text = some digits) : SpelledBy digits [.number digits] := by
  -- The style lets the text be a number, and then it was read as a finite one.
  unfold ReferenceStyle.numeral? at found
  split at found
  · obtain ⟨_, number, spelled, finite⟩ := finite_of_numeral? found
    exact .single (.number digits) (lexes_number spelled) ⟨number, spelled, finite⟩
      fun _ _ => rfl
  · cases found

/-- A quoted word is no group. -/
theorem IsQuotedWord.parenthesized?_eq_none {text : Text} (quoted : IsQuotedWord text) :
    parenthesized? text = none := by
  -- A group starts with a parenthesis, and no gap can be skipped in front of a quote.
  obtain ⟨mark, word, ⟨quote, _, _⟩, rfl⟩ := quoted
  rcases quote with rfl | rfl <;> rfl

/-- Whatever a reference comes to apart from calls is spelled by tokens. -/
theorem writeReference_spelled (style : ReferenceStyle) (text : Text)
    (noCall : ∀ reached, Reaches style text reached → functionCall? reached = none)
    (literal : style.verbatim = true → IsQuotedWord text) :
    ∃ tokens, SpelledBy (writeReference style text) tokens := by
  -- The induction follows the parts. Only a quoted operand is taken over as it is, so the style of
  -- each part has to say that such a part is a quoted word.
  fun_induction writeReference style text with
  | case1 style text bool =>
    obtain ⟨value, named⟩ := Option.isSome_iff_exists.mp bool
    rw [boolOfWord?_eq_some_iff.mp named]
    exact ⟨_, spelledBy_bool value⟩
  | case2 style text noBool digits found => exact ⟨_, spelledBy_numeral found⟩
  | case3 style text noBool noNumeral wildcard found => exact wildcard.spelledBy style
  | case4 style text noBool noNumeral noWildcard chain chained ihFirst ihLinks =>
    -- What holds of the text holds of each operand: no call is reached, and no quote stands open.
    have operand : ∀ operand ∈ chain.operands,
        (∀ reached, Reaches (style.forOperand operand) operand reached →
          functionCall? reached = none) ∧
        ((style.forOperand operand).verbatim = true → IsQuotedWord operand) := by
      intro operand member
      have direct : (style.forOperand operand, operand) ∈ style.parts text := by
        simpa [ReferenceStyle.parts, noBool, noNumeral, noWildcard, chained] using member
      have whole := (operatorChain?_eq_some_iff.mp chained).isOperand operand member
      exact ⟨fun reached further => noCall reached (.part direct further), whole.isQuotedWord⟩
    have each : ∀ link ∈ chain.links, ∃ tokens,
        SpelledBy (writeReference (style.forOperand link.2) link.2) tokens := by
      intro link linked
      obtain ⟨inside, quoted⟩ := operand link.2
        (List.mem_cons_of_mem _ (List.mem_map_of_mem linked))
      exact ihLinks link.1 link.2 linked inside quoted
    obtain ⟨inside, quoted⟩ := operand chain.first List.mem_cons_self
    -- The proof that a link belongs to the chain plays no part in how it is written.
    rw [List.flatMap_subtype fun _ _ => rfl, List.unattach_attach]
    exact SpelledBy.chain (ihFirst inside quoted) each
  | case5 style text noBool noNumeral noWildcard noChain call found verbatim =>
    -- The text itself is reached, and it is no call.
    cases (noCall text .whole).symm.trans found
  | case6 style text noBool noNumeral noWildcard noChain call found quoting =>
    cases (noCall text .whole).symm.trans found
  | case7 style text noBool noNumeral noWildcard noChain notCall inner wrapped ih =>
    -- The inside keeps the style, which quotes it, since no quoted word is a group.
    have direct : (style, inner) ∈ style.parts text := by
      simp [ReferenceStyle.parts, noBool, noNumeral, noWildcard, noChain, notCall, wrapped]
    obtain ⟨tokens, spelled⟩ := ih (fun reached further => noCall reached (.part direct further))
      fun verbatim => by
        cases (literal verbatim).parenthesized?_eq_none.symm.trans wrapped
    exact ⟨_, spelled.inParens⟩
  | case8 style text noBool noNumeral noWildcard noChain notCall noGroup verbatim =>
    obtain ⟨mark, word, ⟨quote, present, plain⟩, rfl⟩ := literal verbatim
    exact ⟨_, .single (.quotedWord mark word) (lexes_quotedWord quote present plain)
      ⟨quote, present, plain⟩ fun _ _ => rfl⟩
  | case9 style text noBool noNumeral noWildcard noChain notCall noGroup quoting =>
    rw [← style.writeNames_names]
    exact ⟨_, spelledBy_path (style.names_ne_nil text)⟩

/--
A reference without a call in it is written as tokens and nothing else, whatever text it has.

The tokens are well formed, their parentheses are balanced, and the written text is cut into their
lexemes. A text without any shape becomes one path, whose names make up the text.
-/
theorem writeReference_tokens {style : ReferenceStyle} {text : Text}
    (quoting : style.verbatim = false)
    (noCall : ∀ reached, Reaches style text reached → functionCall? reached = none) :
    ∃ tokens, tokens.flatMap ReferenceToken.write = writeReference style text ∧
      lex (writeReference style text) = some (tokens.flatMap ReferenceToken.lexemes) ∧
      (∀ token ∈ tokens, token.IsWellFormed) ∧ ReferenceToken.depthAfter? 0 tokens = some 0 ∧
      (IsShapeless style text → ∃ names, tokens = [.path names] ∧
        ['.'].intercalate names = text ∧ (style.wholeNames = true → names = [text])) := by
  -- Without a shape the tokens are known, and otherwise there are some.
  have general : ∃ tokens, SpelledBy (writeReference style text) tokens ∧
      (IsShapeless style text → tokens = [.path (style.names text)]) := by
    by_cases shapeless : IsShapeless style text
    · rw [shapeless.writeReference_eq (noCall text .whole) quoting, ← style.writeNames_names]
      exact ⟨_, spelledBy_path (style.names_ne_nil text), fun _ => rfl⟩
    · -- A text with a shape is taken apart, and its parts bring their tokens along.
      obtain ⟨tokens, spelled⟩ := writeReference_spelled style text noCall fun verbatim => by
        cases quoting.symm.trans verbatim
      exact ⟨tokens, spelled, fun shape => absurd shape shapeless⟩
  obtain ⟨tokens, spelled, path⟩ := general
  refine ⟨tokens, spelled.spelled, spelled.lexed.lex_eq, spelled.wellFormed, ?balanced, ?named⟩
  case balanced => simpa [ReferenceToken.depthAfter?] using spelled.balanced 0 []
  case named =>
    intro shapeless
    exact ⟨_, path shapeless, style.intercalate_names text, fun whole => if_pos whole⟩

/-- The product of a price and a number, in parentheses, comes to no call. -/
theorem writeReference_tokens_product :
    ∃ tokens, tokens.flatMap ReferenceToken.write = "(`t`.`price` * 2)".toList ∧
      lex "(`t`.`price` * 2)".toList = some (tokens.flatMap ReferenceToken.lexemes) ∧
      (∀ token ∈ tokens, token.IsWellFormed) ∧ ReferenceToken.depthAfter? 0 tokens = some 0 := by
  have written : writeReference {} "(t.price * 2)".toList = "(`t`.`price` * 2)".toList := by
    decide +kernel
  have inner : ReferenceStyle.parts {} "(t.price * 2)".toList = [({}, "t.price * 2".toList)] := by
    decide +kernel
  -- The text and its parts are fixed, so they are computed.
  have operands : ReferenceStyle.parts {} "t.price * 2".toList =
      [(.numeric, "t.price".toList), (.numeric, "2".toList)] := by decide +kernel
  have left : ReferenceStyle.parts .numeric "t.price".toList = [] := by decide +kernel
  have right : ReferenceStyle.parts .numeric "2".toList = [] := by decide +kernel
  have noCall : ∀ reached, Reaches {} "(t.price * 2)".toList reached →
      functionCall? reached = none := by
    -- The group comes to its inside, the inside to two operands, and these to nothing else.
    refine noCall_of_parts (by decide +kernel) ?_
    rw [inner, List.forall_mem_singleton]
    refine noCall_of_parts (by decide +kernel) ?_
    rw [operands, List.forall_mem_cons, List.forall_mem_singleton]
    refine ⟨noCall_of_parts (by decide +kernel) ?_, noCall_of_parts (by decide +kernel) ?_⟩
    · rw [left]
      exact List.forall_mem_nil _
    · rw [right]
      exact List.forall_mem_nil _
  obtain ⟨tokens, spelled, lexed, wellFormed, balanced, _⟩ := writeReference_tokens rfl noCall
  rw [written] at spelled lexed
  exact ⟨tokens, spelled, lexed, wellFormed, balanced⟩

end SqlWriter
