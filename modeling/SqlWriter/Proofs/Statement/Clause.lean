import SqlWriter.Proofs.Condition.Held

/-! The clause of a statement for a tree of conditions: where it stands, and when it is left out. -/

namespace SqlWriter

/-- A visible condition stands behind the keyword, and an empty one has no clause at all. -/
theorem whereClause_of_writtenIf {filter : Filter} {held : Bool} {sql : Text}
    (written : filter.write? = some sql) (visible : WrittenIf held sql) :
    whereClause (some filter) = if held then " WHERE ".toList ++ sql else [] := by
  -- A fragment that is held is not blank, so the clause is put in exactly then.
  cases held <;> simp [whereClause, written, visible.blank_eq]

/-- A selection up to its table, without all that is written behind it. -/
def Select.upToTable (select : Select) : Select :=
  { select with filter := none, orderBy := none, limit := none }

/-- Without a filter there is no clause. -/
@[simp] theorem whereClause_none : whereClause none = [] :=
  -- There is no tree to write.
  rfl

/-- The clause of a deletion is the last part of it. -/
theorem Delete.write_eq (delete : Delete) :
    delete.write = Delete.write { delete with filter := none } ++ whereClause delete.filter := by
  -- The clause is the last part of the statement, behind everything else.
  unfold Delete.write
  rw [whereClause_none, List.append_nil]

/-- The clause of an update is the last part of it. -/
theorem Update.write_eq (update : Update) :
    update.write = Update.write { update with filter := none } ++ whereClause update.filter := by
  -- The clause is the last part of the statement, behind everything else.
  unfold Update.write
  rw [whereClause_none, List.append_nil]

/-- The clauses of a selection stand behind its table, the one for its filter first. -/
theorem Select.write_eq (select : Select) :
    select.write = select.upToTable.write.map
      (· ++ whereClause select.filter ++ select.orderClause ++ select.limitClause) := by
  -- The faults of a selection are those of its table and its columns, which both sides share.
  unfold Select.write
  have table : select.upToTable.table? = select.table? := rfl
  have projection : select.upToTable.projection = select.projection := rfl
  have noFilter : whereClause select.upToTable.filter = [] := rfl
  have noOrder : select.upToTable.orderClause = [] := rfl
  have noLimit : select.upToTable.limitClause = [] := rfl
  rw [table, projection, noFilter, noOrder, noLimit]
  -- A missing table or a fault of the columns is the same fault on both sides.
  cases select.table? with
  | none => rfl
  | some table =>
    cases select.projection.write with
    | error error => rfl
    | ok projection =>
      simp only [Bind.bind, Except.bind, Pure.pure, Except.pure, Except.map, List.append_nil]

/-- The clause of a count is the last part of it. -/
theorem Count.write_eq (count : Count) :
    count.write = (Count.write { count with filter := none }).map
      (· ++ whereClause count.filter) := by
  -- A count is a selection that is neither ordered nor limited.
  have bare : Count.write { count with filter := none } = count.toSelect.upToTable.write := rfl
  have filter : count.toSelect.filter = count.filter := rfl
  have noOrder : count.toSelect.orderClause = [] := rfl
  have noLimit : count.toSelect.limitClause = [] := rfl
  rw [bare, Count.write, Select.write_eq, filter, noOrder, noLimit]
  simp only [List.append_nil]

/--
A tree is written as nothing exactly if it holds no condition, and its text is seen if it holds one.

Every statement over it is the one without a filter, with the clause put in where a condition is
held.
-/
theorem clause_iff_held (entries : List (Text × Condition)) :
    ∃ sql, (Condition.group entries).write? = some sql ∧
      (sql = [] ↔ Condition.entriesHold false entries = false) ∧
      ((∃ c ∈ sql, isWhite c = false) ↔ Condition.entriesHold false entries = true) ∧
      let filter := some (Filter.tree (.group entries))
      let clause := if Condition.entriesHold false entries then " WHERE ".toList ++ sql else []
      (∀ delete : Delete, Delete.write { delete with filter := filter } =
        Delete.write { delete with filter := none } ++ clause) ∧
      (∀ update : Update, Update.write { update with filter := filter } =
        Update.write { update with filter := none } ++ clause) ∧
      (∀ select : Select,
        Select.write { select with filter := none } = select.upToTable.write.map
          (· ++ select.orderClause ++ select.limitClause) ∧
        Select.write { select with filter := filter } = select.upToTable.write.map
          (· ++ clause ++ select.orderClause ++ select.limitClause)) ∧
      (∀ count : Count, Count.write { count with filter := filter } =
        (Count.write { count with filter := none }).map (· ++ clause)) := by
  have written : WrittenIf (Condition.entriesHold false entries) _ :=
    (writeEntries_writtenIf none entries).join .and
  refine ⟨_, rfl, written.empty_iff, ?seen, ?clauses⟩
  case seen =>
    rw [← isBlank_eq_false_iff, written.blank_eq]
    simp
  case clauses =>
    -- The clause is the same in every kind of statement, and only its place differs.
    have text : (Filter.tree (.group entries)).write? = some _ := rfl
    have clause := whereClause_of_writtenIf text written
    refine ⟨?delete, ?update, ?select, ?count⟩
    case delete =>
      intro delete
      rw [Delete.write_eq, clause]
    case update =>
      intro update
      rw [Update.write_eq, clause]
    case select =>
      intro select
      constructor
      · -- Without a tree there is no clause between the table and the order.
        rw [Select.write_eq, whereClause_none]
        simp only [List.append_nil]
        rfl
      · rw [Select.write_eq, clause]
        rfl
    case count =>
      intro count
      rw [Count.write_eq, clause]

end SqlWriter
