import SqlWriter.Proofs.Columns.Listed
import SqlWriter.Proofs.Reference.Pair
import SqlWriter.Proofs.Shape.Pieces

/-! Columns in a table: the name of the table in front of each of them, as they are written. -/

namespace SqlWriter

/-- A column in a table: two names, all columns of the table, or the number that the two spell. -/
def qualifiedName (table column : Text) : Text :=
  if column = ['*'] then quoteName table ++ ".*".toList
  -- The pair is a number before it is a path.
  else if (numeral? (table ++ '.' :: column)).isSome then table ++ '.' :: column
  else quoteName table ++ '.' :: quoteName column

/-- A column that is a word, or all columns. -/
def IsSimpleColumn (column : Text) : Prop :=
  column = ['*'] ∨ IsRun isWordChar column

/-- A text that can be seen in all of its characters is under no alias. -/
theorem alias_of_visible {text : Text} (visible : ∀ c ∈ text, isWhite c = false) :
    explicitAlias? text = none ∧ implicitAlias? text = none := by
  -- An alias is cut off in front of white space.
  have noCut : cuts text = [] := by
    rw [List.eq_nil_iff_forall_not_mem]
    rintro ⟨front, tail⟩ cut
    obtain ⟨rfl, ⟨c, first, white⟩, -⟩ := mem_cuts.mp cut
    rw [visible c (List.mem_append_right _ (List.mem_of_mem_head? first))] at white
    cases white
  simp [explicitAlias?, implicitAlias?, noCut]

section column

variable {table column : Text}

/-- A simple column in a table can be seen in all of its characters, and has no parenthesis. -/
theorem IsSimpleColumn.marks (simple : IsSimpleColumn column) (word : IsRun isWordChar table) :
    ∀ c ∈ table ++ '.' :: column, isWhite c = false ∧ c ≠ '(' := by
  -- A star and a word are the two kinds of columns, and each is read behind the word of the table.
  rcases simple with rfl | columnWord
  · intro c there
    rcases List.mem_append.mp there with inside | star
    · have run := word.inside c inside
      exact ⟨not_isWhite_of_isWordChar run, (ne_of_isWordChar run).2.2⟩
    · rcases List.mem_pair.mp star with rfl | rfl <;> decide
  · intro c there
    obtain ⟨visible, noParen, -⟩ := (IsPath.cons word (.part columnWord)).marks c there
    exact ⟨visible, noParen⟩

/-- A simple column in a table is a reference to its qualified name. -/
theorem IsSimpleColumn.writeReference_eq (simple : IsSimpleColumn column)
    (word : IsRun isWordChar table) :
    writeReference .numeric (table ++ '.' :: column) = qualifiedName table column := by
  rcases simple with rfl | columnWord
  · exact writeReference_star word
  · -- A star is no word.
    have noStar : column ≠ ['*'] := by
      rintro rfl
      exact absurd (columnWord.inside '*' (by simp)) (by decide)
    rw [writeReference_pair word columnWord, qualifiedName, if_neg noStar]

/-- A simple column in a table is written as its qualified name. -/
theorem IsSimpleColumn.writeColumn_eq (simple : IsSimpleColumn column)
    (word : IsRun isWordChar table) :
    writeColumn (table ++ '.' :: column) = .ok (qualifiedName table column) := by
  -- No character of the whole is white or a parenthesis, so there is no alias and no call.
  have marks := simple.marks word
  obtain ⟨noKeyword, noAlias⟩ := alias_of_visible fun c there => (marks c there).1
  have noCall : functionCall? (table ++ '.' :: column) = none := by
    rw [Option.eq_none_iff_forall_ne_some]
    intro call called
    obtain ⟨front, back, -, whole, -, same⟩ := exists_gaps_of_functionCall? called
    exact (marks '(' (by simp [same, whole.mem_parenthesis])).2 rfl
  rw [writeColumn, noKeyword, noAlias, noCall, simple.writeReference_eq word]

end column

section specifications

variable {table : Text} {columns : List Text}

/-- Simple columns in a table are written as their qualified names. -/
theorem writeColumns_qualified (word : IsRun isWordChar table)
    (simple : ∀ column ∈ columns, IsSimpleColumn column) :
    writeColumns (some table) columns =
      .ok (commaJoined (columns.map (qualifiedName table))) := by
  -- Each column is written on its own, and none of them fails.
  have each : (columns.mapM fun column => writeColumn (qualify (some table) column)) =
      .ok (columns.map (qualifiedName table)) :=
    mapM_eq_ok_map fun column there => (simple column there).writeColumn_eq word
  rw [writeColumns_eq, each]
  rfl

/-- The characters of words and the star are no commas, and lead a scan into no nesting. -/
theorem IsSimpleColumn.steps {column : Text} (simple : IsSimpleColumn column) :
    ∀ c ∈ column, c ≠ ',' ∧ Nesting.outside.step c = .outside := by
  -- A star is no quote and no parenthesis, and neither is a character of a word.
  rcases simple with rfl | run
  · exact List.forall_mem_singleton.mpr (by decide)
  · intro c there
    have other : ∀ mark, isWordChar mark = false → c ≠ mark := by
      rintro mark noWord rfl
      rw [run.inside c there] at noWord
      cases noWord
    have noQuote : isQuoteMark c = false := by
      simp [isQuoteMark, other '\'' (by decide), other '"' (by decide), other '`' (by decide)]
    refine ⟨other ',' (by decide), ?_⟩
    simp [Nesting.step, Nesting.outside, noQuote, other '(' (by decide), other ')' (by decide)]

/-- A simple column has nothing to trim. -/
theorem IsSimpleColumn.trim_eq {column : Text} (simple : IsSimpleColumn column) :
    trim column = column := by
  -- No character of a column is white.
  rcases simple with rfl | run
  · decide
  · exact trim_of_visible fun c there => not_isWhite_of_isWordChar (run.inside c there)

/-- A text that is trimmed to a simple column closes its nesting, and has that column alone. -/
theorem IsSimpleColumn.of_trim {piece : Text} (simple : IsSimpleColumn (trim piece)) :
    ClosesAll piece ∧ splitColumns piece = [trim piece] := by
  obtain ⟨front, back, before, behind, split⟩ := exists_white_around piece
  -- White space around the column is no comma either, and as little leads into any nesting.
  have white : ∀ c, isWhite c = true → c ≠ ',' ∧ Nesting.outside.step c = .outside := by
    intro c white
    refine ⟨?_, Nesting.step_white white⟩
    rintro rfl
    exact absurd white (by decide)
  have steps : ∀ c ∈ piece, c ≠ ',' ∧ Nesting.outside.step c = .outside := by
    intro c there
    rw [split] at there
    -- A character is in front of the column, in it, or behind it.
    rcases List.mem_append.mp there with there | last
    · rcases List.mem_append.mp there with first | inside
      · exact white c (before c first)
      · exact simple.steps c inside
    · exact white c (behind c last)
  have whole : ¬HasTopComma .outside piece := by
    rintro ⟨front, back, rfl, -⟩
    exact (steps ',' (by simp)).1 rfl
  have present : trim piece ≠ [] := by
    rcases simple with star | run
    · rw [star]
      exact List.cons_ne_nil _ _
    · exact run.present
  have visible : isBlank piece = false := by
    rwa [Bool.eq_false_iff, ne_eq, ← trim_eq_nil_iff]
  refine ⟨Nesting.after_of_steps fun c there => (steps c there).2, ?_⟩
  rw [splitColumns_of_whole whole, visible]
  rfl

/-- Pieces with commas between them are the columns that they are trimmed to. -/
theorem splitColumns_simple {pieces : List Text}
    (simple : ∀ piece ∈ pieces, IsSimpleColumn (trim piece)) :
    splitColumns ([','].intercalate pieces) = pieces.map trim := by
  -- Between the commas stand one piece each, and none of them is cut.
  rw [splitColumns_intercalate fun piece there => (simple piece there).of_trim.1]
  induction pieces with
  | nil => rfl
  | cons piece rest ih =>
    obtain ⟨own, others⟩ := List.forall_mem_cons.mp simple
    rw [List.flatMap_cons, own.of_trim.2, ih others]
    rfl

/-- Simple columns one after another in a list are written as their qualified names. -/
theorem Columns.write_list_simple (word : IsRun isWordChar table)
    (simple : ∀ column ∈ columns, IsSimpleColumn column) :
    (Columns.list (columns.map .text)).write (some table) =
      .ok (commaJoined (columns.map (qualifiedName table))) := by
  have each : columns.mapM (writtenColumns (some table)) =
      .ok (columns.map fun column => [qualifiedName table column]) := by
    refine mapM_eq_ok_map fun column there => ?_
    have own := simple column there
    -- The text of a column has that column alone.
    have alone := (own.trim_eq.symm ▸ own : IsSimpleColumn (trim column)).of_trim.2
    have written : writeColumn (qualify (some table) column) = .ok (qualifiedName table column) :=
      own.writeColumn_eq word
    rw [writtenColumns, alone, own.trim_eq, List.mapM_cons, written]
    rfl
  rw [Columns.write_list_texts, each]
  simp [Except.map, commaJoined, Function.comp_def]

end specifications

section trees

/-- Only the dollar sign reads as one in small letters. -/
theorem eq_dollar_of_toLower {c : Char} (small : c.toLower = '$') : c = '$' := by
  unfold Char.toLower at small
  split at small
  · -- A capital letter is too far behind the dollar sign to be moved onto it.
    rename_i capital
    obtain ⟨low, high⟩ := capital
    have code := congrArg (fun c : Char => c.val.toNat) small
    simp [UInt32.le_iff_toNat_le] at low high code
    omega
  · exact small

/-- A key without a dollar sign is no connective. -/
theorem Connective.ofKey?_of_noDollar {key : Text} (noDollar : '$' ∉ key) :
    Connective.ofKey? key = none := by
  -- Lower case leaves the dollar as it is, and no other character becomes one.
  have other : ∀ word : Text, '$' ∈ word → lowerCase key ≠ word := by
    rintro word there rfl
    obtain ⟨c, inside, small⟩ := List.mem_map.mp there
    rw [eq_dollar_of_toLower small] at inside
    exact noDollar inside
  rw [ofKey?, if_neg (other _ (by decide)), if_neg (other _ (by decide))]

/-- A field inside another one is compared under both of their keys. -/
theorem write?_nested_field {outer inner : Text} (outerField : Connective.ofKey? outer = none)
    (innerField : Connective.ofKey? inner = none) (value : Scalar) :
    (Condition.group [(outer, .group [(inner, .scalar value)])]).write? =
      some (writeComparison (outer ++ '.' :: inner) value) := by
  -- An empty condition would be left out, and then nothing would be written as well.
  have single (sql : Text) : Connective.and.join (if sql = [] then [] else [sql]) = sql := by
    by_cases empty : sql = []
    · rw [if_pos empty, empty]
      rfl
    · rw [if_neg empty, Connective.join_singleton]
  simp only [Condition.write?, Condition.writeEntries, Condition.writeEntry, outerField, innerField,
    extendPath, single]

end trees

/-- The forms of a column in a table, each with the condition under which it is written so. -/
inductive QualifiedAs (table : Text) : (column sql : Text) → Prop where
  | all : QualifiedAs table ['*'] (quoteName table ++ ".*".toList)
  | names {column : Text} (word : IsRun isWordChar column)
    (noNumber : ∀ number, SpellsDecimal table column number → number.isFinite = false) :
    QualifiedAs table column (quoteName table ++ '.' :: quoteName column)
  | number {column : Text} {number : Decimal} (word : IsRun isWordChar column)
    (spelled : SpellsDecimal table column number) (finite : number.isFinite = true) :
    QualifiedAs table column (table ++ '.' :: column)

/-- A simple column in a table has one of these forms. -/
theorem IsSimpleColumn.qualifiedAs {table column : Text} (simple : IsSimpleColumn column)
    (word : IsRun isWordChar table) : QualifiedAs table column (qualifiedName table column) := by
  -- A star is taken over, and a word is a name or part of a number.
  rcases simple with rfl | run
  · exact .all
  · rw [← IsSimpleColumn.writeReference_eq (.inr run) word, writeReference_pair word run]
    split
    · rename_i numeral
      obtain ⟨number, spelled, finite⟩ := (numeral?_pair_iff word run).mp numeral
      exact .number run spelled finite
    · rename_i other
      refine .names run fun number spelled => ?_
      rw [Bool.eq_false_iff]
      exact fun finite => other ((numeral?_pair_iff word run).mpr ⟨number, spelled, finite⟩)

/--
Columns in a table are written with the name of the table in front, in every kind of specification.

A word is quoted behind the quoted name of the table, and the star stands bare there. The exception
is a pair of words that spell a finite number with the dot between them, which is written as that
number. A field inside the table is compared under the same name.
-/
theorem write_qualified {table : Text} {columns : List Text} (word : IsRun isWordChar table)
    (simple : ∀ column ∈ columns, IsSimpleColumn column) :
    (Columns.list (columns.map .text)).write (some table) =
        .ok (commaJoined (columns.map (qualifiedName table))) ∧
      (∀ sample : Record, sample.definedKeys = columns →
        (Columns.record sample).write (some table) =
          .ok (commaJoined (columns.map (qualifiedName table)))) ∧
      (∀ pieces : List Text, pieces.map trim = columns →
        (Columns.text ([','].intercalate pieces)).write (some table) =
          .ok (commaJoined (columns.map (qualifiedName table)))) ∧
      (∀ column ∈ columns, ∀ value,
        (Condition.group [(table, .group [(column, .scalar value)])]).write? =
          some (qualifiedName table column ++
            ' ' :: comparisonOperator value ++ ' ' :: writeValue value)) ∧
      ∀ column ∈ columns, QualifiedAs table column (qualifiedName table column) := by
  refine ⟨Columns.write_list_simple word simple, ?record, ?text, ?tree, ?forms⟩
  case record =>
    rintro sample rfl
    rw [Columns.write, writeColumns_qualified word simple]
  case text =>
    rintro pieces rfl
    -- The columns are what is left of the pieces without the white space around them.
    rw [List.forall_mem_map] at simple
    rw [Columns.write, splitColumns_simple simple,
      writeColumns_qualified word (List.forall_mem_map.mpr simple)]
  case tree =>
    intro column there value
    have own := simple column there
    -- Neither of the keys is a connective, so both are fields.
    have outer : Connective.ofKey? table = none := Connective.ofKey?_of_noDollar fun dollar =>
      absurd (word.inside _ dollar) (by decide)
    have inner : Connective.ofKey? column = none := by
      rcases own with rfl | run
      · decide
      · exact Connective.ofKey?_of_noDollar fun dollar => absurd (run.inside _ dollar) (by decide)
    rw [write?_nested_field outer inner, writeComparison, own.writeReference_eq word]
  case forms => exact fun column there => (simple column there).qualifiedAs word

/-- A column and all columns of a table, in a list and in a text with a space behind the comma. -/
theorem write_qualified_star :
    (Columns.list [.text "id".toList, .text ['*']]).write (some "t".toList) =
        .ok "`t`.`id`, `t`.*".toList ∧
      (Columns.text "id, *".toList).write (some "t".toList) = .ok "`t`.`id`, `t`.*".toList := by
  -- Both spellings of the list name the same two columns.
  have word : IsRun isWordChar "t".toList := ⟨by decide, List.all_eq_true.mp (by decide)⟩
  have simple : ∀ column ∈ ["id".toList, ['*']], IsSimpleColumn column := by
    intro column there
    rcases List.mem_pair.mp there with rfl | rfl
    · exact .inr ⟨by decide, List.all_eq_true.mp (by decide)⟩
    · exact .inl rfl
  have names : commaJoined (["id".toList, ['*']].map (qualifiedName "t".toList)) =
      "`t`.`id`, `t`.*".toList := by decide +kernel
  obtain ⟨list, -, text, -, -⟩ := write_qualified word simple
  rw [names] at list text
  exact ⟨list, text ["id".toList, " *".toList] (by decide)⟩

/-- Digits on both sides of the dot are a number, which is not quoted as two names would be. -/
theorem qualified_digits :
    (Columns.list [.text ['2']]).write (some ['1']) = .ok "1.2".toList ∧
      (Columns.list [.text ['2']]).write (some ['1']) ≠
        .ok (quoteName ['1'] ++ '.' :: quoteName ['2']) ∧
      (Condition.group [(['1'], .group [(['2'], .scalar .null)])]).write? =
        some "1.2 IS NULL".toList := by
  -- Both texts are digits, so together they are a number and no pair of names.
  have list : (Columns.list [.text ['2']]).write (some ['1']) = .ok "1.2".toList := by
    decide +kernel
  refine ⟨list, ?_, by decide +kernel⟩
  rw [list]
  decide

end SqlWriter
