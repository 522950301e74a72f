import SqlWriter.Proofs.Reference.Flattened
import SqlWriter.Proofs.Reference.Order
import SqlWriter.Proofs.Value.Visible

/-! References that can be seen: every name is written as something, and lists may be hollow. -/

namespace SqlWriter

/-- A quoted path can be seen. -/
theorem ReferenceStyle.isBlank_quote (style : ReferenceStyle) (text : Text) :
    isBlank (style.quote text) = false := by
  rw [← style.writeNames_names]
  -- There is at least one name, whose quotes are seen.
  obtain ⟨name, rest, names⟩ := List.exists_cons_of_ne_nil (style.names_ne_nil text)
  have there : quoteName name ∈ (style.names text).map quoteName := by
    rw [names]
    exact List.mem_cons_self
  exact isBlank_intercalate there (isBlank_quoteName name)

/-- A wildcard shows its star. -/
theorem Wildcard.isBlank_write (style : ReferenceStyle) (wildcard : Wildcard) :
    isBlank (wildcard.write style) = false := by
  -- The star can be seen whatever stands in front of it.
  have star : isBlank "*".toList = false := by decide
  obtain ⟨qualifier, parenthesized⟩ := wildcard
  cases parenthesized with
  | true => exact isBlank_inParens _
  | false =>
    cases qualifier with
    | none => exact star
    | some path =>
      have quoted := style.isBlank_quote path
      simp [Wildcard.write, quoted]

/-- An operator can be seen. -/
theorem Operator.isBlank_write (operator : Operator) : isBlank operator.write = false := by
  -- Between its two spaces an operator has a symbol.
  cases operator <;> decide

/-- A chain shows its operators. -/
theorem Chain.isBlank_write (style : ReferenceStyle) {chain : Chain} (several : chain.links ≠ []) :
    isBlank (chain.write style) = false := by
  -- The first link brings an operator, and that can be seen.
  obtain ⟨link, rest, links⟩ := List.exists_cons_of_ne_nil several
  simp [Chain.write, links, link.1.isBlank_write]

section name

variable {style : ReferenceStyle} {text : Text}

/-- Whatever shape a reference has, it is written as something that can be seen. -/
theorem ReferenceShape.isBlank_write? {shape : ReferenceShape} {sql : Text}
    (written : shape.write? style text = some sql) : isBlank sql = false := by
  -- What each shape writes has a character of its own that can be seen.
  cases shape with
  | bool =>
    obtain ⟨value, named, rfl⟩ := Option.map_eq_some_iff.mp written
    rw [boolOfWord?_eq_some_iff.mp named]
    exact isBlank_boolWord value
  | numeral =>
    -- A style that takes numbers for names writes nothing by this shape.
    have found : numeral? text = some sql := by
      simp only [write?, ReferenceStyle.numeral?] at written
      split at written
      · exact written
      · cases written
    obtain ⟨-, number, spelled, -⟩ := finite_of_numeral? found
    exact isBlank_of_ofText? spelled
  | wildcard =>
    obtain ⟨wildcard, -, rfl⟩ := Option.map_eq_some_iff.mp written
    exact wildcard.isBlank_write style
  | chain =>
    obtain ⟨chain, found, rfl⟩ := Option.map_eq_some_iff.mp written
    obtain ⟨-, -, several, -, -⟩ := operatorChain?_eq_some_iff.mp found
    exact Chain.isBlank_write style several
  | call =>
    obtain ⟨call, found, rfl⟩ := Option.map_eq_some_iff.mp written
    obtain ⟨_, _, -, whole, -⟩ := exists_gaps_of_functionCall? found
    split
    · exact whole.isBlank.1
    · exact whole.isBlank.2
  | group =>
    obtain ⟨inner, -, rfl⟩ := Option.map_eq_some_iff.mp written
    exact isBlank_inParens _

/-- A name is written as something that can be seen, even if the name itself is blank. -/
theorem isBlank_writeReference (quoting : style.verbatim = false) :
    isBlank (writeReference style text) = false := by
  -- A text without a shape is quoted, and the quotes can be seen.
  rw [writeReference_eq]
  cases found : ReferenceShape.inOrder.findSome? fun shape => shape.write? style text with
  | none => simp [ReferenceStyle.writePlain, quoting, style.isBlank_quote]
  | some sql =>
    obtain ⟨shape, -, written⟩ := List.exists_of_findSome?_eq_some found
    exact shape.isBlank_write? written

end name

namespace Reference

/-- References without anything in them that could be seen. -/
inductive IsHollow : Reference → Prop where
  | empty : IsHollow (.list [])
  /-- A list of one item has no comma that would be seen. -/
  | single {item : Reference} (inside : IsHollow item) : IsHollow (.list [item])
  | raw {sql : Text} (blank : SqlWriter.isBlank sql = true) : IsHollow (.raw sql)

/-- Of the references that are no lists, only raw ones are hollow. -/
theorem isHollow_leaf_iff {reference : Reference} (leaf : reference.isList = false) :
    reference.IsHollow ↔ ∃ sql, reference = .raw sql ∧ SqlWriter.isBlank sql = true := by
  -- Only raw pieces are written without any text of their own.
  constructor
  · intro hollow
    cases hollow with
    | empty => cases leaf
    | single inside => cases leaf
    | raw blank => exact ⟨_, rfl, blank⟩
  · rintro ⟨sql, rfl, blank⟩
    exact .raw blank

/-- A reference is written as nothing that can be seen exactly if it is hollow. -/
theorem isBlank_write_iff {style : ReferenceStyle} (quoting : style.verbatim = false)
    (reference : Reference) :
    SqlWriter.isBlank (reference.write style) = true ↔ reference.IsHollow := by
  induction reference using Reference.induction with
  | leaf reference leaf =>
    have quoted : ∀ text, SqlWriter.isBlank (writeReference style text) = false := fun _ =>
      isBlank_writeReference quoting
    rw [isHollow_leaf_iff leaf]
    cases reference with
    | list items => cases leaf
    | raw sql => simp [Reference.write]
    | name text => simp [Reference.write, quoted]
    | float value => simp [Reference.write, quoted]
    | bool value => simp [Reference.write, isBlank_boolWord]
    | int value =>
      -- An integer is written as a number or as a name.
      cases bare : style.bareNumbers <;> simp [Reference.write, bare, quoted, isBlank_intText]
  | list items each =>
    -- A comma can be seen, so a blank list has one item at most.
    rw [Reference.write, writeEach_eq, isBlank_commaJoined_iff, List.map_eq_nil_iff]
    constructor
    · rintro (rfl | ⟨sql, single, blank⟩)
      · exact .empty
      · obtain ⟨item, rfl, rfl⟩ := List.map_eq_singleton_iff.mp single
        exact .single ((each item List.mem_cons_self).mp blank)
    · rintro (_ | inside)
      · exact .inl rfl
      · exact .inr ⟨_, rfl, (each _ List.mem_cons_self).mpr inside⟩

end Reference

end SqlWriter
