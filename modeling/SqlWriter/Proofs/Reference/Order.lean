import Mathlib.Data.List.Pairwise
import SqlWriter.Proofs.Search
import SqlWriter.Proofs.Shape.Exclusion
import SqlWriter.Reference

/-! The shapes of a reference can be tried in any order, since all of them lead to one result. -/

namespace SqlWriter

/-- A chain is written operand by operand, each operand with the style that suits it. -/
def Chain.write (style : ReferenceStyle) (chain : Chain) : Text :=
  writeReference (style.forOperand chain.first) chain.first ++
    chain.links.flatMap fun (operator, operand) =>
      operator.write ++ writeReference (style.forOperand operand) operand

/-- A text without any shape is a name, or a literal that is taken over as it is. -/
def ReferenceStyle.writePlain (style : ReferenceStyle) (text : Text) : Text :=
  if style.verbatim then text else style.quote text

/-- The shapes that the text of a reference is tested for. -/
inductive ReferenceShape where
  | bool
  | numeral
  | wildcard
  | chain
  | call
  | group
deriving DecidableEq, Repr

namespace ReferenceShape

/-- All shapes in the order in which a reference is tested for them. -/
def inOrder : List ReferenceShape :=
  [.bool, .numeral, .wildcard, .chain, .call, .group]

/-- What a text is written as by its shape, if it has that shape. -/
def write? (style : ReferenceStyle) (text : Text) : ReferenceShape → Option Text
  | .bool => (boolOfWord? text).map fun _ => text
  | .numeral => style.numeral? text
  | .wildcard => (wildcard? text).map (Wildcard.write style)
  | .chain => (operatorChain? text).map (Chain.write style)
  | .call => (functionCall? text).map fun call => if style.verbatim then call else escapeString call
  | .group => (parenthesized? text).map fun inner => inParens (writeReference style inner)

/-- Two shapes of one text are that of a wildcard in parentheses and that of its parentheses. -/
def Overlap (text : Text) (first second : ReferenceShape) : Prop :=
  (first = .wildcard ∧ second = .group ∨ first = .group ∧ second = .wildcard) ∧
    ∃ qualifier, wildcard? text = some ⟨qualifier, true⟩

/-- A text that has both of two shapes has them only as a wildcard in parentheses does. -/
def Excludes (style : ReferenceStyle) (text : Text) (first second : ReferenceShape) : Prop :=
  (first.write? style text).isSome = true → (second.write? style text).isSome = true →
    Overlap text first second

end ReferenceShape

open ReferenceShape

/-- A reference is written by the first shape that it has, or else as a plain text. -/
theorem writeReference_eq (style : ReferenceStyle) (text : Text) :
    writeReference style text =
      (inOrder.findSome? fun shape => shape.write? style text).getD (style.writePlain text) := by
  -- The branches are taken one by one, with what the tests before each of them have found.
  fun_cases writeReference style text with
  | case1 bool =>
    obtain ⟨value, found⟩ := Option.isSome_iff_exists.mp bool
    simp [inOrder, write?, found]
  | case4 noBool noNumeral noWildcard chain found =>
    have first : (inOrder.findSome? fun shape => shape.write? style text) =
        some (chain.write style) := by
      simp_all [inOrder, write?]
    -- The proof that a link belongs to the chain plays no part in how it is written.
    rw [first, List.flatMap_subtype fun _ _ => rfl, List.unattach_attach]
    rfl
  | _ => simp_all [inOrder, write?, ReferenceStyle.writePlain]

namespace ReferenceShape

variable {style : ReferenceStyle} {text : Text}

/-- There are no other shapes. -/
theorem mem_inOrder (shape : ReferenceShape) : shape ∈ inOrder := by
  -- Each of them is found by looking.
  cases shape <;> decide

/-- It does not matter which of two shapes comes first. -/
instance : Std.Symm (Excludes style text) where
  symm first second excludes one two := by
    -- The two ways in which shapes overlap are each other, read from the other side.
    obtain ⟨(⟨rfl, rfl⟩ | ⟨rfl, rfl⟩), grouped⟩ := excludes two one
    · exact ⟨.inr ⟨rfl, rfl⟩, grouped⟩
    · exact ⟨.inl ⟨rfl, rfl⟩, grouped⟩

/-- A shape excludes another one that its texts never have. -/
theorem excludes_of_none {first second : ReferenceShape}
    (never : ∀ sql, first.write? style text = some sql → second.write? style text = none) :
    Excludes style text first second := by
  -- The second test would have to give a result as well.
  intro one two
  obtain ⟨sql, found⟩ := Option.isSome_iff_exists.mp one
  rw [never sql found] at two
  cases two

/-- Each shape excludes those behind it, apart from the parentheses around a wildcard. -/
theorem pairwise_excludes (style : ReferenceStyle) (text : Text) :
    inOrder.Pairwise (Excludes style text) := by
  -- What is left to say of a shape is what it excludes among the ones behind it.
  refine .cons ?bool (.cons ?numeral (.cons ?wildcard (.cons ?chain (.cons ?call
    (List.pairwise_singleton _ _)))))
  case bool =>
    intro second behind
    -- No shape behind this one fits, so there is nothing to agree on.
    apply excludes_of_none
    intro sql fits
    obtain ⟨value, found, -⟩ := Option.map_eq_some_iff.mp fits
    obtain ⟨numeral, wildcard, chain, call, group⟩ := exclusion_of_boolOfWord? found
    cases second <;> simp_all [write?, ReferenceStyle.numeral?]
  case numeral =>
    intro second behind
    apply excludes_of_none
    intro sql fits
    have found : SqlWriter.numeral? text = some sql := by
      simp only [write?, ReferenceStyle.numeral?] at fits
      split at fits
      · exact fits
      · cases fits
    obtain ⟨wildcard, chain, call, group⟩ := exclusion_of_numeral? found
    cases second <;> simp_all [write?]
  case wildcard =>
    intro second behind one two
    obtain ⟨wildcard, found⟩ := Option.isSome_iff_exists.mp (Option.isSome_map.symm.trans one)
    obtain ⟨chain, call⟩ := exclusion_of_wildcard? found
    -- Only parentheses can stand around a wildcard, and then they belong to it.
    obtain rfl : second = .group := by
      cases second <;> simp_all [write?]
    obtain ⟨inner, wrapped⟩ := Option.isSome_iff_exists.mp (Option.isSome_map.symm.trans two)
    obtain ⟨qualifier, rfl, -⟩ := exists_qualifier_of_parenthesized? found wrapped
    exact ⟨.inl ⟨rfl, rfl⟩, qualifier, found⟩
  case chain =>
    intro second behind
    apply excludes_of_none
    intro sql fits
    obtain ⟨chain, found, -⟩ := Option.map_eq_some_iff.mp fits
    obtain ⟨call, group⟩ := exclusion_of_operatorChain? found
    cases second <;> simp_all [write?]
  case call =>
    intro second behind
    apply excludes_of_none
    intro sql fits
    obtain ⟨call, found, -⟩ := Option.map_eq_some_iff.mp fits
    have group := exclusion_of_functionCall? found
    cases second <;> simp_all [write?]

/-- Two different shapes exclude each other. -/
theorem excludes_of_ne {first second : ReferenceShape} (different : first ≠ second) :
    Excludes style text first second :=
  -- Two shapes stand in one order or in the other, and excluding goes both ways.
  (pairwise_excludes style text).forall (mem_inOrder first) (mem_inOrder second) different

/-- A wildcard without parentheses is written as one. -/
theorem writeReference_of_bare_wildcard {qualifier : Option Text}
    (found : wildcard? text = some ⟨qualifier, false⟩) :
    writeReference style text = Wildcard.write style ⟨qualifier, false⟩ := by
  have here : write? style text .wildcard = some (Wildcard.write style ⟨qualifier, false⟩) := by
    rw [write?, found]
    rfl
  rw [writeReference_eq, findSome?_eq_some_of_agree (mem_inOrder .wildcard) here]
  · rfl
  · -- A text with another shape would have parentheses.
    intro other _ sql fits
    by_cases same : other = .wildcard
    · subst same
      exact Option.some.inj (fits.symm.trans here)
    · obtain ⟨-, _, grouped⟩ := excludes_of_ne same (by rw [fits]; rfl) (by rw [here]; rfl)
      cases found.symm.trans grouped

/-- A wildcard in parentheses is written as its inside in parentheses. -/
theorem write?_wildcard_eq_group {sql other : Text} (one : write? style text .wildcard = some sql)
    (two : write? style text .group = some other) : sql = other := by
  -- A wildcard in parentheses is written as the bare one in parentheses, and so is the group.
  obtain ⟨wildcard, found, rfl⟩ := Option.map_eq_some_iff.mp one
  obtain ⟨inner, wrapped, rfl⟩ := Option.map_eq_some_iff.mp two
  obtain ⟨qualifier, rfl, bare⟩ := exists_qualifier_of_parenthesized? found wrapped
  rw [writeReference_of_bare_wildcard bare]
  rfl

/-- All shapes of a text lead to the same result. -/
theorem write?_agree {first second : ReferenceShape} {sql other : Text}
    (one : first.write? style text = some sql) (two : second.write? style text = some other) :
    sql = other := by
  -- Apart from a shape with itself, only wildcards and groups can both be there.
  by_cases same : first = second
  · subst same
    exact Option.some.inj (one.symm.trans two)
  · have overlap : Overlap text first second :=
      excludes_of_ne same (by rw [one]; rfl) (by rw [two]; rfl)
    obtain ⟨(⟨rfl, rfl⟩ | ⟨rfl, rfl⟩), -⟩ := overlap
    · exact write?_wildcard_eq_group one two
    · exact (write?_wildcard_eq_group two one).symm

/-- A reference is written by any shape that it has. -/
theorem writeReference_of_write? {shape : ReferenceShape} {sql : Text}
    (fits : shape.write? style text = some sql) : writeReference style text = sql := by
  -- All shapes that are there agree, so it does not matter which of them is found first.
  have first : (inOrder.findSome? fun shape => shape.write? style text) = some sql :=
    findSome?_eq_some_of_agree (mem_inOrder shape) fits fun _ _ _ other => write?_agree other fits
  rw [writeReference_eq, first, Option.getD_some]

end ReferenceShape

/-- A whole call is written as a call, and only a literal is not escaped. -/
theorem writeReference_of_functionCall? (style : ReferenceStyle) {text call : Text}
    (found : functionCall? text = some call) :
    writeReference style text = if style.verbatim then call else escapeString call := by
  -- A call is one of the shapes, and it is written by what its style says of literals.
  have fits : ReferenceShape.call.write? style text =
      some (if style.verbatim then call else escapeString call) := by
    rw [write?, found]
    rfl
  exact writeReference_of_write? fits

/-- A whole chain is written as a chain, whichever of its spellings the text is. -/
theorem writeReference_of_spells {style : ReferenceStyle} {text : Text} {chain : Chain}
    (spelled : chain.Spells text) : writeReference style text = chain.write style := by
  -- A chain is one of the shapes, and it is written operand by operand.
  have fits : ReferenceShape.chain.write? style text = some (chain.write style) := by
    rw [write?, operatorChain?_eq_some_iff.mpr spelled]
    rfl
  exact writeReference_of_write? fits

/--
The shapes of a reference can be tried in any order.

No text has two of them, apart from a wildcard in parentheses, which is also a text in parentheses.
A text in parentheses is written as its inside in parentheses, even if it is a wildcard.
-/
theorem writeReference_any_order (style : ReferenceStyle) (text : Text) :
    (∀ first second : ReferenceShape, first ≠ second →
        (first.write? style text).isSome = true → (second.write? style text).isSome = true →
        Overlap text first second) ∧
      (∀ inner, parenthesized? text = some inner →
        writeReference style text = inParens (writeReference style inner)) ∧
      ∀ order : List ReferenceShape, order.Perm inOrder →
        (order.findSome? fun shape => shape.write? style text).getD (style.writePlain text) =
          writeReference style text := by
  refine ⟨?exclusive, ?grouped, ?reordered⟩
  case exclusive =>
    intro first second different
    exact excludes_of_ne different
  case grouped =>
    intro inner wrapped
    have fits : ReferenceShape.group.write? style text =
        some (inParens (writeReference style inner)) := by
      rw [write?, wrapped]
      rfl
    -- The group is one of the shapes, and a shape that fits gives the text.
    exact writeReference_of_write? fits
  case reordered =>
    -- The shapes of a text agree on its result, so it does not matter which one is found first.
    intro order perm
    rw [writeReference_eq, findSome?_perm perm]
    intro _ _ _ _ _ _ one two
    exact write?_agree two one

/-- All columns of a table in parentheses are such a wildcard, also if the tests run backwards. -/
theorem writeReference_any_order_wildcard :
    Overlap "( t.* )".toList .wildcard .group ∧
      writeReference {} "( t.* )".toList = inParens (writeReference {} "t.*".toList) ∧
      (inOrder.reverse.findSome? fun shape => shape.write? {} "( t.* )".toList).getD
          (ReferenceStyle.writePlain {} "( t.* )".toList) =
        writeReference {} "( t.* )".toList := by
  -- Both shapes are there at once, which is the only overlap.
  obtain ⟨exclusive, grouped, reordered⟩ := writeReference_any_order {} "( t.* )".toList
  have starred : wildcard? "( t.* )".toList = some ⟨some "t".toList, true⟩ := by decide +kernel
  have wrapped : parenthesized? "( t.* )".toList = some "t.*".toList := by decide +kernel
  refine ⟨exclusive .wildcard .group (by decide) ?_ ?_, grouped _ wrapped, ?_⟩
  · rw [write?, starred]
    rfl
  · rw [write?, wrapped]
    rfl
  · exact reordered inOrder.reverse inOrder.reverse_perm

end SqlWriter
