import SqlWriter.Columns
import SqlWriter.Proofs.Request.Decoding
import SqlWriter.Proofs.Shape.Alias

/-! The one fault of column specifications: a wildcard with an alias, in a column that is shown. -/

namespace SqlWriter

/-- An outcome that is one error exactly where something is wrong, and a result otherwise. -/
structure FailsExactly {α : Type} (error : Error) (wrong : Prop) (outcome : Except Error α) :
    Prop where
  fails : wrong → outcome = .error error
  succeeds : ¬wrong → ∃ result, outcome = .ok result

namespace FailsExactly

variable {α β : Type} {error : Error} {wrong more : Prop} {outcome : Except Error α}

/-- What is wrong may be said in another way. -/
theorem congr (exactly : FailsExactly error wrong outcome) (same : more ↔ wrong) :
    FailsExactly error more outcome where
  -- Both conditions fail the same outcomes.
  fails bad := exactly.fails (same.mp bad)
  succeeds fine := exactly.succeeds fun bad => fine (same.mpr bad)

/-- A result is right in any case. -/
theorem ok (result : α) : FailsExactly error False (.ok result) where
  -- Nothing is wrong with a result that is there.
  fails := nofun
  succeeds _ := ⟨result, rfl⟩

/-- One step after another fails if something is wrong with either of them. -/
theorem bind {next : α → Except Error β} (first : FailsExactly error wrong outcome)
    (second : ∀ result, FailsExactly error more (next result)) :
    FailsExactly error (wrong ∨ more) (outcome >>= next) := by
  -- Where the first step succeeds, the outcome is that of the second one.
  by_cases bad : wrong
  · rw [first.fails bad]
    exact ⟨fun _ => rfl, fun fine => absurd (.inl bad) fine⟩
  · obtain ⟨result, found⟩ := first.succeeds bad
    rw [found]
    exact (second result).congr (by simp [bad])

/-- Changing the result makes nothing wrong and nothing right. -/
theorem map (exactly : FailsExactly error wrong outcome) (change : α → β) :
    FailsExactly error wrong (outcome.map change) where
  -- A change of the result leaves the error as it is.
  fails bad := by rw [exactly.fails bad]; rfl
  succeeds fine := by
    obtain ⟨result, found⟩ := exactly.succeeds fine
    exact ⟨change result, by rw [found]; rfl⟩

/-- A walk along a list fails if something is wrong with one of its items. -/
theorem mapM {items : List α} {wrongAt : α → Prop} {step : α → Except Error β}
    (each : ∀ item ∈ items, FailsExactly error (wrongAt item) (step item)) :
    FailsExactly error (∃ item ∈ items, wrongAt item) (items.mapM step) := by
  -- The walk stops at the first fault, which is the same error at every item.
  induction items with
  | nil => exact (ok []).congr (by simp)
  | cons item rest ih =>
    obtain ⟨first, others⟩ := List.forall_mem_cons.mp each
    rw [List.mapM_cons]
    refine ((first.bind fun result => (ih others).bind fun results =>
      ok (result :: results))).congr ?_
    simp

/-- The error shows that something is wrong. -/
theorem eq_error_iff (exactly : FailsExactly error wrong outcome) :
    outcome = .error error ↔ wrong := by
  refine ⟨fun failed => ?_, exactly.fails⟩
  -- Without the fault there would be a result in the place of the error.
  by_contra fine
  obtain ⟨result, found⟩ := exactly.succeeds fine
  rw [found] at failed
  cases failed

/-- A result shows that nothing is wrong. -/
theorem ok_iff (exactly : FailsExactly error wrong outcome) :
    (∃ result, outcome = .ok result) ↔ ¬wrong := by
  refine ⟨?_, exactly.succeeds⟩
  -- With the fault there would be an error in the place of the result.
  rintro ⟨result, found⟩ bad
  rw [exactly.fails bad] at found
  cases found

/-- No other error occurs. -/
theorem ne_error (exactly : FailsExactly error wrong outcome) {other : Error}
    (different : other ≠ error) : outcome ≠ .error other := by
  -- Either there is a result, or the error is the one that was named.
  by_cases bad : wrong
  · rw [exactly.fails bad]
    rintro ⟨⟩
    exact different rfl
  · obtain ⟨result, found⟩ := exactly.succeeds bad
    rw [found]
    nofun

end FailsExactly

/--
A column that puts an alias behind a wildcard, with the keyword for it or without.

The gaps of the tail are those of the alias itself, and the expression is trimmed of all white space.
-/
def AliasesWildcard (column : Text) : Prop :=
  ∃ expression tail, column = expression ++ tail ∧ IsWildcard (trim expression) ∧
    ((∃ name, ImplicitTail name tail) ∨ ∃ keyword name, ExplicitTail keyword name tail)

/-- No word is a wildcard. -/
theorem wildcard?_word {name : Text} (word : IsRun isWordChar name) :
    (wildcard? name).isSome = false := by
  -- A wildcard has none of the characters of a word at its end.
  obtain ⟨c, last, inside⟩ := word.getLast []
  rw [Bool.eq_false_iff, ne_eq, wildcard?_isSome_iff]
  exact not_isWildcard_of_getLast last inside

/-- An alias that is a word fails behind a wildcard only. -/
theorem Alias.write_failsExactly {aliased : Alias} (word : IsRun isWordChar aliased.name) :
    FailsExactly .wildcardAlias (IsWildcard aliased.expression) aliased.write := by
  -- The check of the alias itself never fires, so that of the expression decides.
  rw [Alias.write, wildcard?_word word, Bool.or_false]
  constructor
  · intro wildcard
    rw [if_pos (wildcard?_isSome_iff.mpr wildcard)]
  · intro plain
    rw [if_neg (fun found => plain (wildcard?_isSome_iff.mp found))]
    exact ⟨_, rfl⟩

/-- A text that is trimmed to a wildcard is not blank. -/
theorem not_isBlank_of_isWildcard {text : Text} (wildcard : IsWildcard (trim text)) :
    isBlank text = false := by
  -- Nothing would be left of a blank text, and a wildcard has a last character.
  rw [Bool.eq_false_iff]
  intro blank
  have nothing : trim text = [] := trim_eq_nil_iff.mpr blank
  obtain ⟨c, last, -⟩ := wildcard.exists_getLast
  rw [nothing] at last
  cases last

/-- A wildcard is complete, although its star could be taken for an operator. -/
theorem IsWildcard.not_awaitsOperand {expression : Text} (wildcard : IsWildcard expression) :
    awaitsOperand expression = false := by
  -- The test for an operand at the end is not made for wildcards.
  obtain ⟨read, found⟩ := Option.isSome_iff_exists.mp (wildcard?_isSome_iff.mpr wildcard)
  simp [awaitsOperand, found]

/-- Where a text ends with a keyword and an alias, no wildcard stands in front of the alias alone. -/
theorem ExplicitTail.not_isWildcard {keyword name front tail otherName otherFront otherTail : Text}
    (aliased : ExplicitTail keyword name tail) (other : ImplicitTail otherName otherTail)
    (same : front ++ tail = otherFront ++ otherTail) : ¬IsWildcard (trim otherFront) := by
  -- In front of the alias stands the keyword, whose last letter no white space follows.
  obtain ⟨gap, rest, -, implicit, word, whole, -⟩ := aliased.beforeWord front
  obtain ⟨expressions, -⟩ := implicit.unique other (whole.symm.trans same)
  obtain ⟨c, last, inside⟩ := word.getLast (front ++ gap)
  rw [List.append_assoc] at last
  rw [← expressions]
  exact not_isWildcard_of_getLast (getLast?_trim last (not_isWhite_of_isWordChar inside)) inside

/-- A wildcard in front of a keyword and an alias is the expression that the alias is for. -/
theorem explicitAlias?_of_isWildcard {keyword name front tail : Text}
    (aliased : ExplicitTail keyword name tail) (wildcard : IsWildcard (trim front)) :
    explicitAlias? (front ++ tail) = some ⟨trim front, keyword, name⟩ :=
  -- The front is not blank, since a wildcard has its star there.
  explicitAlias?_eq_some_iff.mpr
    ⟨front, tail, rfl, not_isBlank_of_isWildcard wildcard, aliased, rfl⟩

/-- A wildcard in front of an alias alone is the expression that the alias is for. -/
theorem implicitAlias?_of_isWildcard {name front tail : Text} (aliased : ImplicitTail name tail)
    (wildcard : IsWildcard (trim front)) :
    implicitAlias? (front ++ tail) = some ⟨trim front, "AS".toList, name⟩ :=
  -- The front is not blank, and a wildcard does not wait for an operand.
  implicitAlias?_eq_some_iff.mpr ⟨front, tail, rfl, not_isBlank_of_isWildcard wildcard,
    wildcard.not_awaitsOperand, aliased, rfl, rfl⟩

/-- In a column with a keyword, the expression in front of it decides. -/
theorem aliasesWildcard_iff_of_explicit {column : Text} {aliased : Alias}
    (found : explicitAlias? column = some aliased) :
    AliasesWildcard column ↔ IsWildcard aliased.expression := by
  -- Every other way to cut the column leaves the same expression, or one that ends with a word.
  obtain ⟨front, tail, rfl, -, shape, trimmed⟩ := explicitAlias?_eq_some_iff.mp found
  constructor
  · rintro ⟨expression, otherTail, same, wildcard, ⟨name, implicit⟩ | ⟨keyword, name, explicit⟩⟩
    · exact absurd wildcard (shape.not_isWildcard implicit same)
    · rw [trimmed, (shape.unique explicit same).1]
      exact wildcard
  · intro wildcard
    exact ⟨front, tail, rfl, trimmed ▸ wildcard, .inr ⟨_, _, shape⟩⟩

/-- In a column with an alias and no keyword, the expression in front of the alias decides. -/
theorem aliasesWildcard_iff_of_implicit {column : Text} {aliased : Alias}
    (noKeyword : explicitAlias? column = none) (found : implicitAlias? column = some aliased) :
    AliasesWildcard column ↔ IsWildcard aliased.expression := by
  -- A tail with a keyword would have been found first, and the other tails agree.
  obtain ⟨front, tail, rfl, -, -, shape, trimmed, -⟩ := implicitAlias?_eq_some_iff.mp found
  constructor
  · rintro ⟨expression, otherTail, same, wildcard, ⟨name, implicit⟩ | ⟨keyword, name, explicit⟩⟩
    · rw [trimmed, (shape.unique implicit same).1]
      exact wildcard
    · rw [same, explicitAlias?_of_isWildcard explicit wildcard] at noKeyword
      cases noKeyword
  · intro wildcard
    exact ⟨front, tail, rfl, trimmed ▸ wildcard, .inl ⟨_, shape⟩⟩

/-- A column in which no alias is found has none behind a wildcard. -/
theorem not_aliasesWildcard {column : Text} (noKeyword : explicitAlias? column = none)
    (noAlias : implicitAlias? column = none) : ¬AliasesWildcard column := by
  -- An operator at the end of an expression hides an alias, but the star of a wildcard is none.
  rintro ⟨front, tail, same, wildcard, ⟨name, implicit⟩ | ⟨keyword, name, explicit⟩⟩
  · rw [same, implicitAlias?_of_isWildcard implicit wildcard] at noAlias
    cases noAlias
  · rw [same, explicitAlias?_of_isWildcard explicit wildcard] at noKeyword
    cases noKeyword

/-- A column fails exactly if it puts an alias behind a wildcard. -/
theorem writeColumn_failsExactly (column : Text) :
    FailsExactly .wildcardAlias (AliasesWildcard column) (writeColumn column) := by
  -- The two ways to find an alias are tried one after the other, and the last two never fail.
  unfold writeColumn
  split
  · rename_i aliased found
    have word : IsRun isWordChar aliased.name := by
      obtain ⟨_, _, -, -, ⟨-, -, -, word, -⟩, -⟩ := explicitAlias?_eq_some_iff.mp found
      exact word
    exact (Alias.write_failsExactly word).congr (aliasesWildcard_iff_of_explicit found)
  · rename_i noKeyword
    split
    · rename_i aliased found
      have word : IsRun isWordChar aliased.name := by
        obtain ⟨_, _, -, -, -, ⟨-, word, -⟩, -⟩ := implicitAlias?_eq_some_iff.mp found
        exact word
      exact (Alias.write_failsExactly word).congr (aliasesWildcard_iff_of_implicit noKeyword found)
    · rename_i noAlias
      -- Without an alias the column is written as a reference or as a call.
      have fine := iff_false_intro (not_aliasesWildcard noKeyword noAlias)
      split <;> exact (FailsExactly.ok _).congr fine

/-- A specification shows the columns that it is written from, which stand at any depth of it. -/
inductive Columns.Shows (column : Text) : Columns → Prop where
  | text {columns : Text} (piece : column ∈ splitColumns columns) : Shows column (.text columns)
  | record {sample : Record} (key : column ∈ sample.definedKeys) : Shows column (.record sample)
  /-- A sample record in front of a list is the only item that counts. -/
  | led {sample : Record} {rest : List Columns} (key : column ∈ sample.definedKeys) :
    Shows column (.list (.record sample :: rest))
  | item {items : List Columns} {item : Columns} (unled : ∀ sample rest, items ≠ .record sample :: rest)
    (there : item ∈ items) (shown : Shows column item) : Shows column (.list items)
  | first {sample : Record} {rest : List Record} (key : column ∈ sample.definedKeys) :
    Shows column (.records (sample :: rest))

namespace Columns

variable {column : Text}

/-- A text shows the pieces between its commas. -/
@[simp] theorem shows_text_iff {columns : Text} :
    (Columns.text columns).Shows column ↔ column ∈ splitColumns columns :=
  -- A text shows its pieces and nothing else.
  ⟨fun | .text piece => piece, .text⟩

/-- A sample record shows its defined keys. -/
@[simp] theorem shows_record_iff {sample : Record} :
    (Columns.record sample).Shows column ↔ column ∈ sample.definedKeys :=
  -- A record shows the keys that it has values for.
  ⟨fun | .record key => key, .record⟩

/-- A list with a sample record in front shows what that record does. -/
@[simp] theorem shows_led_iff {sample : Record} {rest : List Columns} :
    (Columns.list (.record sample :: rest)).Shows column ↔ column ∈ sample.definedKeys :=
  -- A list that starts with a record is that record, whatever follows it.
  ⟨fun | .led key => key | .item unled _ _ => absurd rfl (unled sample rest), .led⟩

/-- Any other list shows what its items do. -/
theorem shows_list_iff {items : List Columns}
    (unled : ∀ sample rest, items ≠ .record sample :: rest) :
    (Columns.list items).Shows column ↔ ∃ item ∈ items, item.Shows column := by
  -- In all other lists each item shows what it shows on its own.
  constructor
  · rintro (_ | _ | _ | ⟨-, there, shown⟩)
    · exact absurd rfl (unled _ _)
    · exact ⟨_, there, shown⟩
  · rintro ⟨item, there, shown⟩
    exact .item unled there shown

/-- Of several sample records, the first one shows its defined keys. -/
@[simp] theorem shows_records_iff {samples : List Record} :
    (Columns.records samples).Shows column ↔
      ∃ sample, samples.head? = some sample ∧ column ∈ sample.definedKeys := by
  -- The first record of the list is the one that counts.
  constructor
  · rintro ⟨⟩
    exact ⟨_, rfl, ‹_›⟩
  · rintro ⟨sample, first, key⟩
    obtain ⟨rest, rfl⟩ := List.head?_eq_some_iff.mp first
    exact .first key

/-- A literal shows no columns. -/
@[simp] theorem shows_literal_iff {value : Scalar} : (Columns.literal value).Shows column ↔ False :=
  -- A literal is no list of columns.
  ⟨nofun, nofun⟩

end Columns

/-- Columns one after another fail exactly if one of them does. -/
theorem writeColumns_failsExactly (table : Option Text) (columns : List Text) :
    FailsExactly .wildcardAlias (∃ column ∈ columns, AliasesWildcard (qualify table column))
      (writeColumns table columns) := by
  rw [writeColumns]
  -- The columns are written one by one, and joining them cannot fail.
  exact ((FailsExactly.mapM fun column _ => writeColumn_failsExactly (qualify table column)).bind
    fun results => FailsExactly.ok (commaJoined results)).congr (by simp)

mutual

/-- A specification fails exactly if one of the columns that it shows does. -/
theorem Columns.write_failsExactly (table : Option Text) : ∀ spec : Columns,
    FailsExactly .wildcardAlias
      (∃ column, spec.Shows column ∧ AliasesWildcard (qualify table column)) (spec.write table)
  | .text columns => by
    simpa only [Columns.write, Columns.shows_text_iff] using
      writeColumns_failsExactly table (splitColumns columns)
  | .list items => by
    -- Behind a sample record, no other item of the list is looked at.
    by_cases led : ∃ sample rest, items = .record sample :: rest
    · obtain ⟨sample, rest, rfl⟩ := led
      simpa only [Columns.write_list_record, Columns.shows_led_iff] using
        writeColumns_failsExactly table sample.definedKeys
    · have unled : ∀ sample rest, items ≠ .record sample :: rest := fun sample rest same =>
        led ⟨sample, rest, same⟩
      rw [Columns.write_list_each table unled]
      refine ((Columns.writeEach_failsExactly table items).map commaJoined).congr ?_
      simp only [Columns.shows_list_iff unled]
      constructor
      · rintro ⟨column, ⟨item, there, shown⟩, wrong⟩
        exact ⟨item, there, column, shown, wrong⟩
      · rintro ⟨item, there, column, shown, wrong⟩
        exact ⟨column, ⟨item, there, shown⟩, wrong⟩
  | .record sample => by
    simpa only [Columns.write, Columns.shows_record_iff] using
      writeColumns_failsExactly table sample.definedKeys
  | .records [] => (FailsExactly.ok []).congr (by simp)
  | .records (sample :: rest) => by
    simpa [Columns.write] using writeColumns_failsExactly table sample.definedKeys
  | .literal value => by
    -- A literal is written without regard to columns, whatever its text looks like.
    have fine : ∃ sql, (Columns.literal value).write table = .ok sql := by
      cases value <;> exact ⟨_, rfl⟩
    obtain ⟨sql, written⟩ := fine
    rw [written]
    exact (FailsExactly.ok sql).congr (by simp)

/-- The items of a list fail exactly if a column that one of them shows does. -/
theorem Columns.writeEach_failsExactly (table : Option Text) : ∀ items : List Columns,
    FailsExactly .wildcardAlias
      (∃ item ∈ items, ∃ column, item.Shows column ∧ AliasesWildcard (qualify table column))
      (Columns.writeEach table items)
  | [] => (FailsExactly.ok []).congr (by simp)
  | item :: rest => by
    rw [Columns.writeEach]
    -- The first item fails, or one of the others does, and joining them cannot fail.
    refine ((item.write_failsExactly table).bind fun sql =>
      (Columns.writeEach_failsExactly table rest).bind fun more =>
        FailsExactly.ok (sql :: more)).congr ?_
    simp

end

end SqlWriter
