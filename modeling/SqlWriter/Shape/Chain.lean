import SqlWriter.Shape.Call

/-! Arithmetic chains: operands with an operator between gaps after each but the last. -/

namespace SqlWriter

/-- The operators of arithmetic. -/
inductive Operator where
  | plus
  | minus
  | times
  | over
deriving DecidableEq, Repr

/-- The character that an operator is written with. -/
def Operator.symbol : Operator → Char
  | .plus => '+'
  | .minus => '-'
  | .times => '*'
  | .over => '/'

/-- The operator that a character stands for. -/
def Operator.ofChar? (c : Char) : Option Operator :=
  if c = '+' then some .plus
  else if c = '-' then some .minus
  else if c = '*' then some .times
  else if c = '/' then some .over
  else none

/-- A first operand, and further operands each behind its operator. -/
structure Chain where
  first : Text
  links : List (Operator × Text)
deriving DecidableEq, Repr

/-- The word in single or double quotes that a text starts with, and the rest. -/
def quotedWord? : Text → Option (Text × Text)
  | mark :: body =>
    if mark = '\'' || mark = '"' then
      -- The word ends where the quotes close, so nothing else can stand between them.
      match word? body with
      | some (word, close :: rest) =>
        if close = mark then some (mark :: (word ++ [mark]), rest) else none
      | _ => none
    else none
  | [] => none

/-- The group that a text starts with, with its parentheses, and the rest. -/
def groupText? (text : Text) : Option (Text × Text) :=
  (group? text).map fun (inside, behind) => (inParens inside, behind)

/-- The operand that a text starts with: a quoted word, a call, a group or a path of words. -/
def operand? (text : Text) : Option (Text × Text) :=
  -- A call starts with a word as a path does, so it is tried before one.
  (quotedWord? text).or <| (call? text).or <| (groupText? text).or <| path? isWordChar text

/-- The operator between gaps and the operand behind it that a text starts with, and the rest. -/
def link? (text : Text) : Option ((Operator × Text) × Text) :=
  -- Without a gap on both sides the mark is no operator.
  match afterGap? text with
  | some (mark :: behind) =>
    (Operator.ofChar? mark).bind fun operator =>
      (afterGap? behind).bind fun start =>
        (operand? start).map fun (operand, rest) => ((operator, operand), rest)
  | _ => none

/-- A quoted word and the rest make up the text. -/
theorem quotedWord?_append {text word rest : Text}
    (found : quotedWord? text = some (word, rest)) : word ++ rest = text := by
  -- Only a run between two marks succeeds, so four of the branches are closed.
  unfold quotedWord? at found
  split at found
  · split at found
    · split at found
      · split at found
        · rename_i body mark inner close behind run same
          cases found
          simp [← same, run?_append run]
        · cases found
      · cases found
    · cases found
  · cases found

/-- An operand and the rest make up the text. -/
theorem operand?_append {text operand rest : Text}
    (found : operand? text = some (operand, rest)) : operand ++ rest = text := by
  -- Each kind of operand takes its own characters off the front of the text.
  simp only [operand?, Option.or_eq_some_iff] at found
  rcases found with quoted | ⟨-, call | ⟨-, group | ⟨-, path⟩⟩⟩
  · exact quotedWord?_append quoted
  · exact call?_append call
  · simp only [groupText?, Option.map_eq_some_iff, Prod.mk.injEq, Prod.exists] at group
    obtain ⟨inside, behind, closed, rfl, rfl⟩ := group
    exact group?_append closed
  · exact path?_append path

/-- A link takes its operand and more off the front of the text. -/
theorem link?_length {text operand rest : Text} {operator : Operator}
    (found : link? text = some ((operator, operand), rest)) :
    operand.length + rest.length < text.length := by
  -- The operator and its gaps are dropped before the operand is cut off.
  unfold link? at found
  split at found
  · rename_i mark behind gap
    simp only [Option.bind_eq_some_iff, Option.map_eq_some_iff, Prod.mk.injEq,
      Prod.exists] at found
    -- Each part of the link was cut off behind the one before it.
    obtain ⟨known, named, start, space, taken, last, operandFound, ⟨rfl, rfl⟩, rfl⟩ := found
    have before := afterGap?_length gap
    have between := afterGap?_length space
    have whole := congrArg List.length (operand?_append operandFound)
    simp only [List.length_append, List.length_cons] at before whole
    omega
  · cases found

/-- The links that a text starts with, and the rest. -/
def takeLinks (text : Text) : List (Operator × Text) × Text :=
  -- The links are taken while they can be, and what is left is no link.
  match _found : link? text with
  | some ((operator, operand), rest) =>
    let (links, last) := takeLinks rest
    ((operator, operand) :: links, last)
  | none => ([], text)
termination_by text.length
decreasing_by
  have := link?_length _found
  omega

/-- The chain that a whole text is, with at least one operator in it. -/
def operatorChain? (text : Text) : Option Chain :=
  -- One operand alone makes no chain, and neither do operands with something left over.
  match operand? (skipGap text) with
  | some (first, behind) =>
    let (links, rest) := takeLinks behind
    if links ≠ [] ∧ skipGap rest = [] then some ⟨first, links⟩ else none
  | none => none

/-- Every operand behind an operator is shorter than the text that the links were taken from. -/
theorem takeLinks_length (text : Text) :
    ∀ link ∈ (takeLinks text).1, link.2.length < text.length := by
  -- The induction follows the links that the text starts with.
  fun_induction takeLinks text with
  | case1 text operator operand rest found links last split ih =>
    have shorter := link?_length found
    rw [split] at ih
    intro link member
    rcases List.mem_cons.mp member with rfl | later
    · simp only; omega
    · have := ih link later
      omega
  | case2 => simp

/-- The operands of a chain in the order of the text. -/
def Chain.operands (chain : Chain) : List Text :=
  chain.first :: chain.links.map Prod.snd

/-- Every operand of a chain is shorter than the text of the chain. -/
theorem operatorChain?_length {text : Text} {chain : Chain}
    (found : operatorChain? text = some chain) :
    ∀ operand ∈ chain.operands, operand.length < text.length := by
  unfold operatorChain? at found
  split at found
  · rename_i first behind start
    simp only [ne_eq] at found
    split at found
    · rename_i whole
      cases found
      -- The first operand was cut off behind the gap in front.
      have front := congrArg List.length (operand?_append start)
      have skipped := skipGap_length text
      simp only [List.length_append] at front
      intro operand member
      simp only [Chain.operands, List.mem_cons, List.mem_map] at member
      rcases member with rfl | ⟨link, linked, rfl⟩
      · -- Behind the first operand there is at least one link.
        obtain ⟨link, rest, shape⟩ := List.exists_cons_of_ne_nil whole.1
        have inside := takeLinks_length behind link (by simp [shape])
        omega
      · have inside := takeLinks_length behind link linked
        omega
    · cases found
  · cases found

end SqlWriter
