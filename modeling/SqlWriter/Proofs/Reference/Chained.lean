import SqlWriter.Proofs.Reference.Order

/-! Chains as references: they are read in each of their spellings, and written in one. -/

namespace SqlWriter

/--
Reading a chain and spelling it are inverse to each other.

A text is read as a chain exactly if it spells that chain, with any gaps around the operators and
around the whole. All spellings of a chain are written alike, so the gaps make no difference.
-/
theorem operatorChain_spellings (chain : Chain) (text : Text) :
    (operatorChain? text = some chain ↔ chain.Spells text) ∧
      ∀ (style : ReferenceStyle) (other : Text), chain.Spells text → chain.Spells other →
        writeReference style text = chain.write style ∧
          writeReference style other = writeReference style text := by
  -- The reader decides the shape, and what is written depends on the chain and not on its spelling.
  refine ⟨operatorChain?_eq_some_iff, ?alike⟩
  case alike =>
    intro style other spelled otherSpelled
    have written : writeReference style text = chain.write style :=
      writeReference_of_spells spelled
    refine ⟨written, ?_⟩
    rw [written]
    exact writeReference_of_spells otherSpelled

/-- A product divided by a sum is written alike, with spaces in it or with line breaks. -/
theorem operatorChain_spellings_breaks :
    let chain : Chain := ⟨"t.price".toList, [(.times, "2".toList), (.over, "(a + b)".toList)]⟩
    chain.Spells "t.price * 2 / (a + b)".toList ∧
      operatorChain? "\tt.price\n*  2\r\n/ (a + b) ".toList = some chain ∧
      writeReference {} "\tt.price\n*  2\r\n/ (a + b) ".toList =
        writeReference {} "t.price * 2 / (a + b)".toList := by
  -- The gaps of the second spelling hold a tab and line breaks, which the chain does not show.
  intro chain
  obtain ⟨spaced, alike⟩ := operatorChain_spellings chain "t.price * 2 / (a + b)".toList
  obtain ⟨broken, -⟩ := operatorChain_spellings chain "\tt.price\n*  2\r\n/ (a + b) ".toList
  have first : chain.Spells "t.price * 2 / (a + b)".toList := spaced.mp (by decide +kernel)
  have read : operatorChain? "\tt.price\n*  2\r\n/ (a + b) ".toList = some chain := by
    decide +kernel
  exact ⟨first, read, (alike {} _ first (broken.mp read)).2⟩

end SqlWriter
