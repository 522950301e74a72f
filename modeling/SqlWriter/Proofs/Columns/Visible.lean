import SqlWriter.Proofs.Columns.Listed
import SqlWriter.Proofs.Reference.Visible

/-! Columns that can be seen: each one is written as something, and specifications may be hollow. -/

namespace SqlWriter

/-- An expression under an alias shows its alias at the least. -/
theorem Alias.isBlank_write {aliased : Alias} {sql : Text} (written : aliased.write = .ok sql) :
    isBlank sql = false := by
  -- The name behind the keyword is quoted, and its quotes can be seen.
  have name : isBlank (writeReference {} aliased.name) = false := isBlank_writeReference rfl
  unfold Alias.write at written
  split at written
  · cases written
  · cases written
    simp [name]

/-- A column is written as something that can be seen. -/
theorem isBlank_writeColumn {column sql : Text} (written : writeColumn column = .ok sql) :
    isBlank sql = false := by
  -- Whichever way the column is read, what it is written as can be seen.
  unfold writeColumn at written
  split at written
  · exact Alias.isBlank_write written
  · split at written
    · exact Alias.isBlank_write written
    · split at written
      · rename_i call found
        cases written
        exact (bare_of_functionCall? found).isBlank
      · cases written
        exact isBlank_writeReference rfl

section columns

variable {table : Option Text}

/-- Columns that are listed can be seen unless there is none. -/
theorem isBlank_writeColumns_iff {columns : List Text} {sql : Text}
    (written : writeColumns table columns = .ok sql) : isBlank sql = true ↔ columns = [] := by
  rw [writeColumns_eq] at written
  obtain ⟨results, found, rfl⟩ := map_eq_ok_iff.mp written
  rw [isBlank_commaJoined_iff]
  -- There is one result for each column, which can be seen.
  cases forall₂_of_mapM_eq_ok found with
  | nil => simp
  | cons first further =>
    have visible := isBlank_writeColumn first
    simp [visible]

namespace Columns

/-- Specifications without anything in them that could be seen. -/
inductive IsHollow : Columns → Prop where
  | text {columns : Text} (vacant : isVacant columns = true) : IsHollow (.text columns)
  | record {sample : Record} (undefined : sample.definedKeys = []) : IsHollow (.record sample)
  /-- A sample record in front of a list is the only item that counts. -/
  | led {sample : Record} {rest : List Columns} (undefined : sample.definedKeys = []) :
    IsHollow (.list (.record sample :: rest))
  | noItem : IsHollow (.list [])
  /-- A list of one item has no comma that would be seen. -/
  | single {item : Columns} (inside : IsHollow item) : IsHollow (.list [item])
  | noSample : IsHollow (.records [])
  | first {sample : Record} {rest : List Record} (undefined : sample.definedKeys = []) :
    IsHollow (.records (sample :: rest))
  | words {words : Text} (blank : isBlank words = true) : IsHollow (.literal (.text words))
  | raw {sql : Text} (blank : isBlank sql = true) : IsHollow (.literal (.raw sql))

/-- The specifications of a list are written one by one. -/
theorem writeEach_eq_mapM (items : List Columns) :
    writeEach table items = items.mapM (Columns.write table) := by
  -- The items are written in order, until one of them fails.
  induction items with
  | nil => rfl
  | cons item rest ih => rw [writeEach, List.mapM_cons, ih]

/-- A list of one specification is written as that one is. -/
theorem write_list_single (item : Columns) :
    (Columns.list [item]).write table = item.write table := by
  -- Only a record at the front changes how a list is written.
  by_cases led : ∃ sample, item = .record sample
  · obtain ⟨sample, rfl⟩ := led
    rw [write_list_record, Columns.write]
  · have unled : ∀ sample rest, [item] ≠ .record sample :: rest := fun sample rest same =>
      led ⟨sample, (List.cons.inj same).1⟩
    rw [write_list_each table unled, writeEach, writeEach]
    cases item.write table with
    | error error => rfl
    | ok sql => exact congrArg Except.ok List.intercalate_singleton

/-- A list of one specification is hollow exactly if that one is. -/
theorem isHollow_single_iff {item : Columns} : (Columns.list [item]).IsHollow ↔ item.IsHollow := by
  -- A single item has nothing to be joined with.
  constructor
  · intro hollow
    cases hollow with
    | led undefined => exact .record undefined
    | single inside => exact inside
  · exact .single

/-- Two specifications without a sample record in front of them show the comma between them. -/
theorem isBlank_write_several {item next : Columns} {rest : List Columns} {sql : Text}
    (unled : ∀ sample, item ≠ .record sample)
    (written : (Columns.list (item :: next :: rest)).write table = .ok sql) :
    isBlank sql = false := by
  -- Two items leave at least a comma between them.
  have noRecord : ∀ sample others, item :: next :: rest ≠ .record sample :: others :=
    fun sample others same => unled sample (List.cons.inj same).1
  rw [write_list_each table noRecord, writeEach_eq_mapM] at written
  obtain ⟨results, found, rfl⟩ := map_eq_ok_iff.mp written
  cases forall₂_of_mapM_eq_ok found with
  | cons _ further =>
    cases further with
    | cons _ _ =>
      rw [← Bool.not_eq_true, isBlank_commaJoined_iff]
      simp

/-- A specification is written as nothing that can be seen exactly if it is hollow. -/
theorem isBlank_write_iff {sql : Text} : ∀ {spec : Columns}, spec.write table = .ok sql →
    (isBlank sql = true ↔ spec.IsHollow)
  | .text columns, written => by
    rw [Columns.write] at written
    rw [isBlank_writeColumns_iff written, splitColumns_eq_nil_iff]
    exact ⟨.text, fun | .text vacant => vacant⟩
  | .record sample, written => by
    rw [Columns.write] at written
    rw [isBlank_writeColumns_iff written]
    exact ⟨.record, fun | .record undefined => undefined⟩
  | .records [], written => by
    cases written
    exact iff_of_true rfl .noSample
  | .records (sample :: rest), written => by
    rw [isBlank_writeColumns_iff written]
    exact ⟨.first, fun | .first undefined => undefined⟩
  | .list [], written => by
    cases written
    exact iff_of_true rfl .noItem
  | .list [item], written => by
    rw [write_list_single] at written
    rw [isHollow_single_iff, isBlank_write_iff written]
  | .list (item :: next :: rest), written => by
    -- A sample record in front decides for the rest, as it does in the text.
    by_cases led : ∃ sample, item = .record sample
    · obtain ⟨sample, rfl⟩ := led
      rw [write_list_record] at written
      rw [isBlank_writeColumns_iff written]
      exact ⟨.led, fun | .led undefined => undefined⟩
    · have visible := isBlank_write_several (fun sample same => led ⟨sample, same⟩) written
      exact iff_of_false (by simp [visible]) fun | .led _ => led ⟨_, rfl⟩
  | .literal value, written => by
    -- A text that is a literal is written as it is, so it may be blank.
    by_cases text : ∃ words, value = .text words
    · obtain ⟨words, rfl⟩ := text
      cases written
      exact ⟨.words, fun | .words blank => blank⟩
    · have shown : sql = writeValue value := by
        cases value <;> first | exact absurd ⟨_, rfl⟩ text | exact (Except.ok.inj written).symm
      rw [shown, isBlank_writeValue_iff]
      constructor
      · rintro ⟨sql, rfl, blank⟩
        exact .raw blank
      · intro hollow
        cases hollow with
        | words blank => exact absurd ⟨_, rfl⟩ text
        | raw blank => exact ⟨_, rfl, blank⟩

end Columns

end columns

end SqlWriter
