import SqlWriter.Proofs.Condition.Mapped
import SqlWriter.Proofs.Condition.Token
import SqlWriter.Proofs.Value.Masked

/-! Written conditions in lexemes: the fields and the texts of their atoms, and nothing else. -/

namespace SqlWriter

/-- The field that an entry is about: a connective keeps the one around it. -/
def fieldInScope (path : Option Text) (key : Text) : Option Text :=
  match Connective.ofKey? key with
  | some _ => path
  | none => some (extendPath path key)

mutual

/-- The atoms that the entries of a group are written with, in order. -/
def Condition.entriesAtoms (path : Option Text) : List (Text × Condition) → List Atom
  | [] => []
  | (key, condition) :: rest =>
    condition.entryAtoms path key ++ Condition.entriesAtoms path rest

/-- The atoms that one entry is written with. -/
def Condition.entryAtoms (path : Option Text) (key : Text) : Condition → List Atom
  | .group entries => Condition.entriesAtoms (fieldInScope path key) entries
  | .list items =>
    match fieldInScope path key with
    | some field => [Atom.ofItems field items]
    -- Without a field, the groups in the list are alternatives, of which there has to be one.
    | none => if items.any Condition.isGroup then Condition.groupAtoms items else [.never]
  | .scalar value =>
    match fieldInScope path key with
    | some field => [.comparison field value]
    | none => [.never]

/-- The atoms that the groups in a list are written with. -/
def Condition.groupAtoms : List Condition → List Atom
  | [] => []
  | .group entries :: rest => Condition.entriesAtoms none entries ++ Condition.groupAtoms rest
  | _ :: rest => Condition.groupAtoms rest

end

/-- The atoms that a whole tree is written with. -/
def Condition.atoms : Condition → List Atom
  | .group entries => Condition.entriesAtoms none entries
  | _ => []

/-- An atom with a plain name for its field, and plain values. -/
def Atom.IsPlain : Atom → Prop
  | .comparison field value => IsPlainName field ∧ value.IsPlain
  | .membership field values => IsPlainName field ∧ ∀ value ∈ values, value.IsPlain
  | .never => True

/-- The names on the path to the field of an atom. -/
def Atom.names : Atom → List Text
  | .comparison field _ | .membership field _ => field.splitOn '.'
  | .never => []

/-- The texts that stand in quotes in an atom. -/
def Atom.quotedTexts : Atom → List Text
  | .comparison _ value => value.quotedText?.toList
  | .membership _ values => values.flatMap fun value => value.quotedText?.toList
  | .never => []

/-- One text for all texts that are patterns, and one for all others. -/
def patternSample (text : Text) : Text :=
  if isLikePattern text then ['%'] else []

mutual

/-- A tree with samples in the place of the texts in quotes. -/
def Condition.masked : Condition → Condition
  | .scalar value => .scalar (value.withQuoted patternSample)
  | .list items => .list (Condition.maskedItems items)
  | .group entries => .group (Condition.maskedEntries entries)

/-- The items of a list with samples in the place of the texts in quotes. -/
def Condition.maskedItems : List Condition → List Condition
  | [] => []
  | item :: rest => item.masked :: Condition.maskedItems rest

/-- The entries of a group with samples in the place of the texts in quotes. -/
def Condition.maskedEntries : List (Text × Condition) → List (Text × Condition)
  | [] => []
  | (key, condition) :: rest => (key, condition.masked) :: Condition.maskedEntries rest

end

mutual

/-- A masked tree has a sample in the place of each of its scalars that stands in quotes. -/
theorem Condition.masked_eq : ∀ tree : Condition,
    tree.masked = tree.mapScalars fun value => value.withQuoted patternSample
  -- Masking and mapping go down by the same constructors.
  | .scalar _ => by rw [masked, mapScalars]
  | .list items => by rw [masked, mapScalars, Condition.maskedItems_eq items]
  | .group entries => by rw [masked, mapScalars, Condition.maskedEntries_eq entries]

/-- A masked list has such samples in each of its items. -/
theorem Condition.maskedItems_eq : ∀ items : List Condition,
    Condition.maskedItems items =
      Condition.mapItems (fun value => value.withQuoted patternSample) items
  -- The items are taken one at a time by both.
  | [] => by rw [maskedItems, mapItems]
  | item :: rest => by
    rw [maskedItems, mapItems, Condition.masked_eq item, Condition.maskedItems_eq rest]

/-- A masked group has such samples in the tree of each of its entries. -/
theorem Condition.maskedEntries_eq : ∀ entries : List (Text × Condition),
    Condition.maskedEntries entries =
      Condition.mapEntries (fun value => value.withQuoted patternSample) entries
  -- Both copy the keys and change the trees alone.
  | [] => by rw [maskedEntries, mapEntries]
  | (key, condition) :: rest => by
    rw [maskedEntries, mapEntries, Condition.masked_eq condition, Condition.maskedEntries_eq rest]

end

/-- Samples stand in quotes. -/
theorem ofText_patternSample (text : Text) :
    Literal.ofText (patternSample text) = .text (patternSample text) := by
  -- A sample is one of two texts, and neither of them is a boolean, a number or a call.
  unfold patternSample
  split
  · decide +kernel
  · decide +kernel

/-- A sample is a pattern if the text is one. -/
theorem isLikePattern_patternSample (text : Text) :
    isLikePattern (patternSample text) = isLikePattern text := by
  -- The sample is chosen by whether the text has a pattern.
  unfold patternSample
  cases pattern : isLikePattern text <;> rfl

/-- A sample is compared by the same operator. -/
theorem comparisonOperator_withQuoted (value : Scalar) :
    comparisonOperator (value.withQuoted patternSample) = comparisonOperator value := by
  -- Only a text in quotes is replaced, by a sample that is a pattern exactly if the text is one.
  cases value with
  | text words =>
    by_cases quoted : boolOfWord? words = none ∧ numeral? words = none
    · simp [Scalar.withQuoted, Scalar.quotedText?, quoted, comparisonOperator,
        isLikePattern_patternSample]
    · simp [Scalar.withQuoted, Scalar.quotedText?, quoted]
  | _ => rfl

/-- What is written between two conditions separates them. -/
theorem Connective.separatesSilently (connective : Connective) :
    SeparatesSilently connective.separator := by
  -- Both words stand between spaces, and they spell no number.
  cases connective with
  | and => exact separatesSilently_word "AND".toList (by decide) (by decide) (by decide)
  | or => exact separatesSilently_word "OR".toList (by decide) (by decide) (by decide)

/-- The operator of a comparison separates its sides. -/
theorem separatesSilently_comparisonOperator (value : Scalar) :
    SeparatesSilently (' ' :: (comparisonOperator value ++ [' '])) := by
  -- The three operators are words or an equals sign, each between two spaces.
  unfold comparisonOperator
  split
  · exact separatesSilently_word "IS".toList (by decide) (by decide) (by decide)
  · split
    · exact separatesSilently_word "LIKE".toList (by decide) (by decide) (by decide)
    · exact separatesSilently_equals
  · exact separatesSilently_equals

/-- The condition that no row meets has no names and no texts in quotes. -/
theorem neverTrue_lexesLike : LexesLike neverTrue neverTrue [] [] := by
  -- The two digits are the only lexemes that are no marks.
  have number : ∀ digit : Char, Decimal.ofText? [digit] ≠ none →
      LexesLike [digit] [digit] [] [] := by
    intro digit spells
    obtain ⟨number, spelled⟩ := Option.ne_none_iff_exists'.mp spells
    exact .self (lexes_number spelled)
  exact (number '1' (by decide)).between separatesSilently_equals (number '0' (by decide))

/-- A comparison has the names of its field and the text of its value. -/
theorem writeComparison_lexesLike {field : Text} {value : Scalar}
    (plain : (Atom.comparison field value).IsPlain) :
    LexesLike (writeComparison field value)
      (writeComparison field (value.withQuoted patternSample))
      (Atom.comparison field value).names (Atom.comparison field value).quotedTexts := by
  -- The sample is compared by the same operator, since it is a pattern where the text is one.
  obtain ⟨named, plain⟩ := plain
  have sides := named.lexesLike.between (separatesSilently_comparisonOperator value)
    (plain.lexesLike ofText_patternSample)
  simpa [writeComparison, comparisonOperator_withQuoted, Atom.names, Atom.quotedTexts] using sides

/-- A membership has the names of its field and the texts of its values. -/
theorem membership_lexesLike {field : Text} {values : List Scalar}
    (plain : (Atom.membership field values).IsPlain) :
    LexesLike (Atom.membership field values).write
      (Atom.membership field (values.map fun value => value.withQuoted patternSample)).write
      (Atom.membership field values).names (Atom.membership field values).quotedTexts := by
  -- The field, the word between and each value are lexed on their own.
  obtain ⟨named, plain⟩ := plain
  have each := EachLexesLike.of_forall_nameless fun value member =>
    (plain value member).lexesLike ofText_patternSample
  have members := (each.intercalate separatesSilently_comma).inParens
  have sides := named.lexesLike.between
    (separatesSilently_word "IN".toList (by decide) (by decide) (by decide)) members
  rw [List.append_nil] at sides
  simpa [Atom.write, Atom.names, Atom.quotedTexts, commaJoined, Function.comp_def] using sides

/-- A membership over a list has the names of its field and the texts of the scalars in the list. -/
theorem writeMembership_lexesLike {field : Text} {items : List Condition}
    (plain : (Atom.ofItems field items).IsPlain) :
    LexesLike (writeMembership field items) (writeMembership field (Condition.maskedItems items))
      (Atom.ofItems field items).names (Atom.ofItems field items).quotedTexts := by
  have masked : Condition.scalarsOfEach (Condition.maskedItems items) =
      (Condition.scalarsOfEach items).map fun value => value.withQuoted patternSample := by
    rw [Condition.maskedItems_eq]
    exact Condition.scalarsOfEach_mapItems fun item _ => item.scalars_mapScalars
  -- The list and the masked one have equally many scalars, so both are memberships or neither is.
  rw [← Atom.write_ofItems, ← Atom.write_ofItems]
  unfold Atom.ofItems at plain ⊢
  rw [masked]
  cases values : Condition.scalarsOfEach items with
  | nil => exact neverTrue_lexesLike
  | cons value rest =>
    simp only [values] at plain
    exact membership_lexesLike plain

/-- A masked list has a group in it if the list has one. -/
theorem any_isGroup_maskedItems (items : List Condition) :
    (Condition.maskedItems items).any Condition.isGroup = items.any Condition.isGroup := by
  -- Samples are scalars in the place of others.
  rw [Condition.maskedItems_eq, Condition.any_isGroup_mapItems]

/-- A masked group has as many entries as the group. -/
theorem length_maskedEntries (entries : List (Text × Condition)) :
    (Condition.maskedEntries entries).length = entries.length := by
  -- Samples are scalars in the place of others.
  rw [Condition.maskedEntries_eq, Condition.length_mapEntries]

/-- An empty condition is left out along with its sample, and another one is shown as it may be. -/
theorem EachLexesLike.cons_unless_nil {sql sample shown shownSample : Text}
    {sqls samples names literals moreNames moreLiterals : List Text}
    (head : LexesLike sql sample names literals)
    (headShown : LexesLike shown shownSample names literals)
    (tail : EachLexesLike sqls samples moreNames moreLiterals) :
    EachLexesLike (if sql = [] then sqls else shown :: sqls)
      (if sample = [] then samples else shownSample :: samples)
      (names ++ moreNames) (literals ++ moreLiterals) := by
  by_cases empty : sql = []
  · -- Nothing is written, so there is no name and no text to account for.
    subst empty
    obtain ⟨rfl, rfl⟩ := head.of_nil
    simpa [head.eq_nil_iff.mp rfl] using tail
  · rw [if_neg empty, if_neg fun same => empty (head.eq_nil_iff.mpr same)]
    exact .cons headShown tail

/-- What an entry is written as, if its atoms are plain: it has their names and texts. -/
def EntryLexesLike (path : Option Text) (key : Text) (tree : Condition) : Prop :=
  (∀ atom ∈ tree.entryAtoms path key, atom.IsPlain) →
    LexesLike (Condition.writeEntry path key tree) (Condition.writeEntry path key tree.masked)
      ((tree.entryAtoms path key).flatMap Atom.names)
      ((tree.entryAtoms path key).flatMap Atom.quotedTexts)

/-- The entries of a group have the names and texts of their atoms, if each of them has. -/
theorem writeEntries_lexesLike {path : Option Text} {entries : List (Text × Condition)}
    (each : ∀ entry ∈ entries, EntryLexesLike path entry.1 entry.2)
    (plain : ∀ atom ∈ Condition.entriesAtoms path entries, atom.IsPlain) :
    EachLexesLike (Condition.writeEntries path entries)
      (Condition.writeEntries path (Condition.maskedEntries entries))
      ((Condition.entriesAtoms path entries).flatMap Atom.names)
      ((Condition.entriesAtoms path entries).flatMap Atom.quotedTexts) := by
  induction entries with
  | nil => exact .nil
  | cons entry rest ih =>
    rcases entry with ⟨key, condition⟩
    obtain ⟨head, tail⟩ := List.forall_mem_cons.mp each
    -- The atoms of the group are those of this entry with those of the others behind them.
    obtain ⟨plainHead, plainTail⟩ := List.forall_mem_append.mp plain
    have first := head plainHead
    simp only [Condition.entriesAtoms, List.flatMap_append]
    exact .cons_unless_nil first first (ih tail plainTail)

/-- The groups in a list have the names and texts of their atoms, if each entry of them has. -/
theorem writeAlternatives_lexesLike {items : List Condition}
    (each : ∀ entries, Condition.group entries ∈ items →
      ∀ entry ∈ entries, EntryLexesLike none entry.1 entry.2)
    (plain : ∀ atom ∈ Condition.groupAtoms items, atom.IsPlain) :
    EachLexesLike (Condition.writeAlternatives items)
      (Condition.writeAlternatives (Condition.maskedItems items))
      ((Condition.groupAtoms items).flatMap Atom.names)
      ((Condition.groupAtoms items).flatMap Atom.quotedTexts) := by
  induction items with
  | nil => exact .nil
  | cons item rest ih =>
    have tail := ih fun entries member => each entries (List.mem_cons_of_mem _ member)
    cases item with
    -- What is no group is no alternative, so nothing is written for it.
    | scalar value => exact tail plain
    | list items => exact tail plain
    | group entries =>
      obtain ⟨plainHead, plainTail⟩ := List.forall_mem_append.mp plain
      have written := writeEntries_lexesLike (each entries List.mem_cons_self) plainHead
      have joined := written.intercalate Connective.and.separatesSilently
      -- Only a group of several entries has parentheses of its own, and so does the masked one.
      simp only [Condition.groupAtoms, List.flatMap_append, Condition.maskedItems,
        Condition.masked, Condition.writeAlternatives, length_maskedEntries]
      exact .cons_unless_nil joined (joined.inParensIf _) (tail plainTail)

/-- Alternatives have the names and texts of all of them, with parentheses or without them. -/
theorem EachLexesLike.alternatives (connective : Connective)
    {sqls samples names literals : List Text}
    (each : EachLexesLike sqls samples names literals) :
    LexesLike (connective.joinAlternatives sqls) (connective.joinAlternatives samples) names
      literals := by
  cases each with
  | nil => exact .nil
  | cons head tail =>
    -- One alternative needs neither a connective nor parentheses.
    cases tail with
    | nil => simpa [Connective.joinAlternatives] using head
    | cons next later =>
      have joined := (EachLexesLike.cons head (.cons next later)).intercalate
        connective.separatesSilently
      exact joined.inParens

/-- A condition in parentheses, which an empty one does not get, has the names and texts in it. -/
theorem LexesLike.wrapped {sql sample : Text} {names literals : List Text}
    (inside : LexesLike sql sample names literals) :
    LexesLike (wrapped sql) (wrapped sample) names literals := by
  -- The sample is empty exactly where the text is, so both get parentheses or neither does.
  unfold SqlWriter.wrapped
  by_cases empty : sql = []
  · rw [if_pos empty, if_pos (inside.eq_nil_iff.mp empty)]
    subst empty
    obtain ⟨rfl, rfl⟩ := inside.of_nil
    exact .nil
  · rw [if_neg empty, if_neg fun same => empty (inside.eq_nil_iff.mpr same)]
    exact inside.inParens

/-- An entry has the names and texts of its atoms, under every path and key. -/
theorem writeEntry_lexesLike (tree : Condition) (path : Option Text) (key : Text) :
    EntryLexesLike path key tree := by
  -- The path grows on the way into a tree, so the induction is on the tree under every path.
  induction tree generalizing path key with
  | scalar value =>
    -- A key that is a connective keeps the field around it, and without one no row fits.
    intro plain
    simp only [Condition.writeEntry, Condition.masked, Condition.entryAtoms, fieldInScope]
      at plain ⊢
    cases named : Connective.ofKey? key with
    | none =>
      simp only [named, List.forall_mem_singleton] at plain
      simpa using writeComparison_lexesLike plain
    | some connective =>
      cases path with
      | none => exact neverTrue_lexesLike
      | some field =>
        simp only [named, List.forall_mem_singleton] at plain
        simpa using writeComparison_lexesLike plain
  | list items _ groups =>
    intro plain
    simp only [Condition.writeEntry, Condition.masked, Condition.entryAtoms, fieldInScope]
      at plain ⊢
    cases named : Connective.ofKey? key with
    | none =>
      simp only [named, List.forall_mem_singleton] at plain
      simpa using writeMembership_lexesLike plain
    | some connective =>
      cases path with
      | some field =>
        simp only [named, List.forall_mem_singleton] at plain
        simpa using writeMembership_lexesLike plain
      | none =>
        simp only [any_isGroup_maskedItems]
        -- A list without groups is malformed under a connective.
        cases present : items.any Condition.isGroup with
        | false => simpa [Atom.names, Atom.quotedTexts] using neverTrue_lexesLike
        | true =>
          have alternatives := writeAlternatives_lexesLike
            (fun entries member entry among => groups entries member entry among none _)
            (by simpa [named, present] using plain)
          simpa using alternatives.alternatives connective
  | group entries ih =>
    intro plain
    simp only [Condition.writeEntry, Condition.masked, Condition.entryAtoms, fieldInScope]
      at plain ⊢
    -- A field extends the path of its entries, and a connective leaves it.
    cases named : Connective.ofKey? key with
    | none =>
      have written := writeEntries_lexesLike (fun entry member => ih entry member _ entry.1)
        (by simpa [named] using plain)
      exact written.intercalate Connective.and.separatesSilently
    | some connective =>
      have written := writeEntries_lexesLike (fun entry member => ih entry member path entry.1)
        (by simpa [named] using plain)
      have joined := written.intercalate connective.separatesSilently
      exact joined.wrapped

end SqlWriter
