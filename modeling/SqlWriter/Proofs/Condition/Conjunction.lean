import SqlWriter.Proofs.Condition.Token

/-! Runs of tokens that read as operands of one alternative, and how connectives join such runs. -/

namespace SqlWriter

/--
A run of tokens that adds operands to the alternative that is being read, wherever it stands.

It neither ends that alternative nor closes a parenthesis that it has not opened itself.
-/
structure Conjunction where
  tokens : List Token
  operands : List Formula
  reads : ∀ outer level rest, readOperand outer level (tokens ++ rest) =
    readFurther outer (level.push operands) rest
  enclosed : ∀ depth rest, orsEnclosed depth (tokens ++ rest) = orsEnclosed depth rest

namespace Conjunction

variable {assignment : Assignment}

/-- The text that a conjunction spells. -/
def sql (part : Conjunction) : Text :=
  spell part.tokens

/-- The truth value of a conjunction. -/
def truth (assignment : Assignment) (part : Conjunction) : Bool :=
  part.operands.all fun operand => operand.truth assignment

/-- A conjunction is true if all of its operands are. -/
theorem truth_eq_all : truth assignment = fun part : Conjunction =>
    part.operands.all fun operand => operand.truth assignment :=
  -- Both sides ask for all operands.
  rfl

/-- A condition without a connective is an operand on its own. -/
def ofAtom (condition : Atom) : Conjunction where
  tokens := [.atom condition]
  operands := [.atom condition]
  reads _ _ _ := by simp [readOperand]
  enclosed _ _ := by simp [orsEnclosed]

/-- The text of a condition without a connective. -/
@[simp] theorem sql_ofAtom (condition : Atom) : (ofAtom condition).sql = condition.write := by
  -- An atom is one token.
  simp [sql, ofAtom, spell, Token.write]

/-- The truth value of a condition without a connective. -/
@[simp] theorem truth_ofAtom (condition : Atom) :
    (ofAtom condition).truth assignment = condition.truth assignment := by
  -- An atom is the only operand, and it is read as its own formula.
  simp [truth, ofAtom, Formula.truth]

/-- The tokens of several conjunctions with a connective between them. -/
def joinTokens (connective : Connective) (first : Conjunction) : List Conjunction → List Token
  | [] => first.tokens
  | next :: rest => first.tokens ++ .connective connective :: joinTokens connective next rest

/-- The level behind several conjunctions with a connective between them. -/
def joinLevel (connective : Connective) (level : Level) (first : Conjunction) :
    List Conjunction → Level
  | [] => level.push first.operands
  | next :: rest =>
    joinLevel connective ((level.push first.operands).behind connective) next rest

/-- Joined conjunctions are read one after another. -/
theorem readOperand_joinTokens (connective : Connective) (first : Conjunction)
    (more : List Conjunction) (outer : List Level) (level : Level) (rest : List Token) :
    readOperand outer level (joinTokens connective first more ++ rest) =
      readFurther outer (joinLevel connective level first more) rest := by
  -- Each connective hands the level that it leaves to the conjunction behind it.
  induction more generalizing first level with
  | nil => exact first.reads outer level rest
  | cons next more ih =>
    simp only [joinTokens, joinLevel, List.append_assoc, List.cons_append, first.reads,
      readFurther]
    exact ih next _

/-- Joined conjunctions have no `OR` outside parentheses, unless they stand inside some. -/
theorem orsEnclosed_joinTokens (connective : Connective) (first : Conjunction)
    (more : List Conjunction) {depth : Nat} (inside : connective = .and ∨ 0 < depth)
    (rest : List Token) :
    orsEnclosed depth (joinTokens connective first more ++ rest) = orsEnclosed depth rest := by
  -- Between two conjunctions there is nothing but the connective.
  induction more generalizing first with
  | nil => exact first.enclosed depth rest
  | cons next more ih =>
    simp only [joinTokens, List.append_assoc, List.cons_append, first.enclosed]
    rcases inside with rfl | deep
    · simpa [orsEnclosed] using ih next
    · cases connective <;> simpa [orsEnclosed, deep] using ih next

/-- Joined conjunctions spell their texts with the connective between them. -/
theorem spell_joinTokens (connective : Connective) (first : Conjunction)
    (more : List Conjunction) :
    spell (joinTokens connective first more) = connective.join ((first :: more).map sql) := by
  -- The induction is over the parts behind the first one, each with its separator in front.
  induction more generalizing first with
  | nil => simp [joinTokens, sql]
  | cons next more ih =>
    rw [List.map_cons, connective.join_cons first.sql (by simp)]
    simp [joinTokens, ih next, sql, Token.write]

/-- The operands of conjunctions that `AND` joins go to one alternative. -/
theorem joinLevel_and (level : Level) (first : Conjunction) (more : List Conjunction) :
    joinLevel .and level first more = level.push ((first :: more).flatMap operands) := by
  -- `AND` leaves the level as it is, so the operands gather in it.
  induction more generalizing level first with
  | nil => simp [joinLevel]
  | cons next more ih =>
    rw [joinLevel, ih]
    simp [Level.behind]

/-- Each of the conjunctions that `OR` joins is an alternative. -/
theorem joinLevel_or (alternatives : List Formula) (first : Conjunction)
    (more : List Conjunction) :
    (joinLevel .or { alternatives := alternatives } first more).formula =
      .joined .or (alternatives ++ (first :: more).map fun part => .joined .and part.operands) := by
  -- `OR` ends the alternative in front of it, so every conjunction starts an empty one.
  induction more generalizing alternatives first with
  | nil => simp [joinLevel, Level.push, Level.formula]
  | cons next more ih =>
    simp only [joinLevel, Level.push, Level.behind, List.nil_append, ih]
    simp

/-- A level of joined conjunctions is as true as the connective over them. -/
theorem truth_joinLevel (connective : Connective) (first : Conjunction)
    (more : List Conjunction) :
    (joinLevel connective {} first more).formula.truth assignment =
      connective.truth ((first :: more).map (truth assignment)) := by
  -- A level is read as alternatives, of which `AND` makes a single one.
  cases connective with
  | and =>
    rw [joinLevel_and]
    simp [Level.push, Level.formula, Formula.truth, Connective.truth, truth_eq_all,
      List.all_flatMap]
  | or =>
    rw [joinLevel_or]
    simp [Formula.truth, Connective.truth, truth_eq_all, Function.comp_def]

/-- Conjunctions that `AND` joins are one conjunction. -/
def joined (first : Conjunction) (more : List Conjunction) : Conjunction where
  tokens := joinTokens .and first more
  operands := (first :: more).flatMap operands
  reads outer level rest := by rw [readOperand_joinTokens, joinLevel_and]
  enclosed depth rest := orsEnclosed_joinTokens .and first more (.inl rfl) rest

/-- Conjunctions that any connective joins are one operand in parentheses. -/
def grouped (connective : Connective) (first : Conjunction) (more : List Conjunction) :
    Conjunction where
  tokens := .opening :: (joinTokens connective first more ++ [.closing])
  operands := [(joinLevel connective {} first more).formula]
  reads outer level rest := by
    -- Behind the opening parenthesis the reader takes the joined tokens, and then the closing one.
    simp only [List.cons_append, List.append_assoc, readOperand, readOperand_joinTokens]
    simp [readFurther]
  enclosed depth rest := by
    -- Inside the parentheses the depth is not zero, so that an OR may stand there too.
    simp only [List.cons_append, List.append_assoc, orsEnclosed]
    rw [orsEnclosed_joinTokens connective first more (.inr (Nat.succ_pos depth))]
    simp [orsEnclosed]

/-- The text of conjunctions that `AND` joins. -/
theorem sql_joined (first : Conjunction) (more : List Conjunction) :
    (joined first more).sql = Connective.and.join ((first :: more).map sql) :=
  -- The tokens of a conjunction are its parts with their separators.
  spell_joinTokens .and first more

/-- The truth value of conjunctions that `AND` joins. -/
theorem truth_joined (first : Conjunction) (more : List Conjunction) :
    (joined first more).truth assignment =
      Connective.and.truth ((first :: more).map (truth assignment)) := by
  -- The operands of all parts are asked for together, or part by part.
  simp [joined, truth_eq_all, Connective.truth, List.all_flatMap]

/-- The text of conjunctions in parentheses. -/
theorem sql_grouped (connective : Connective) (first : Conjunction) (more : List Conjunction) :
    (grouped connective first more).sql = inParens (connective.join ((first :: more).map sql)) := by
  -- The two parentheses stand around the joined tokens.
  simp only [sql, grouped, spell_cons, spell_append, spell_joinTokens]
  simp [spell, Token.write, inParens]

/-- The truth value of conjunctions in parentheses. -/
theorem truth_grouped (connective : Connective) (first : Conjunction)
    (more : List Conjunction) :
    (grouped connective first more).truth assignment =
      connective.truth ((first :: more).map (truth assignment)) := by
  -- In parentheses there is one formula, which has the truth of the connective.
  rw [← truth_joinLevel]
  simp [grouped, truth]

/-- A conjunction on its own reads as a formula of the same truth value. -/
theorem readTokens_tokens (part : Conjunction) :
    ∃ formula, readTokens part.tokens = some formula ∧
      ∀ assignment, formula.truth assignment = part.truth assignment := by
  have read := part.reads [] {} []
  simp only [List.append_nil, readFurther, List.isEmpty_nil, if_true] at read
  refine ⟨(Level.push {} part.operands).formula, ?_, fun assignment => ?_⟩
  · -- A conjunction has a token, since no operand is read from nothing.
    unfold readTokens
    split
    · rename_i empty
      simp [empty, readOperand] at read
    · exact read
  · simp [Level.push, Level.formula, Formula.truth, Connective.truth, truth_eq_all]

end Conjunction

end SqlWriter
