import Mathlib.Data.List.Infix
import SqlWriter.CommandLine.Run
import SqlWriter.Proofs.Request.Settings
import SqlWriter.Proofs.Statement.Clause

/-! The `where` members of requests that change rows, and the statements that they narrow down. -/

namespace SqlWriter

/-- Whether the value of a `where` member narrows a statement down to some of the rows. -/
def Json.narrows : Json → Bool
  | .string sql => !isBlank sql
  | .object members => Condition.entriesHold false (Condition.membersOfJson members)
  -- A number, a boolean or an array is no tree, and nothing is asked for by a null.
  | _ => false

/-- How a statement with a value for its `where` member is written, beside the one without it. -/
structure Narrowed (value : Json) (bare sql : Text) : Prop where
  narrowed : value.narrows = true → ∃ condition, isBlank condition = false ∧
    (Filter.ofJson? value).bind Filter.write? = some condition ∧
    sql = bare ++ " WHERE ".toList ++ condition
  left : value.narrows = false → sql = bare

/-- A clause that is put behind a statement narrows it down as its value says. -/
theorem narrowed_whereClause (value : Json) (bare : Text) :
    Narrowed value bare (bare ++ whereClause (Filter.ofJson? value)) := by
  -- Only texts and objects have a condition that can be written.
  cases value with
  | null | bool _ | integer _ | float _ | array _ =>
    exact ⟨by simp [Json.narrows], fun _ => List.append_nil bare⟩
  -- A text is the condition itself, unless it is blank.
  | string sql =>
    have written : whereClause (Filter.ofJson? (.string sql)) =
        if isBlank sql then [] else " WHERE ".toList ++ sql := rfl
    constructor
    · intro seen
      have visible : isBlank sql = false := by simpa [Json.narrows] using seen
      exact ⟨sql, visible, rfl, by simp [written, visible]⟩
    · intro unseen
      have blank : isBlank sql = true := by simpa [Json.narrows] using unseen
      simp [written, blank]
  | object members =>
    have tree : WrittenIf (Condition.entriesHold false (Condition.membersOfJson members)) _ :=
      (writeEntries_writtenIf none (Condition.membersOfJson members)).join .and
    have filter : Filter.ofJson? (.object members) =
        some (.tree (.group (Condition.membersOfJson members))) := by
      simp only [Filter.ofJson?, Condition.ofJson]
    have text : (Filter.tree (.group (Condition.membersOfJson members))).write? = some _ := rfl
    -- The condition of the tree is written exactly if it is held.
    rw [filter, whereClause_of_writtenIf text tree]
    constructor
    · intro held
      rw [Json.narrows] at held
      exact ⟨_, by simpa [held] using tree.blank_eq, by rw [filter, Option.bind_some, text],
        by simp [held]⟩
    · intro lost
      rw [Json.narrows] at lost
      simp [lost]

/-- In requests that change rows, `where` is the only spelling of the filter. -/
theorem Field.ofKey?_eq_filter_iff {kind : StatementKind} (changing : kind ∈ [.delete, .update])
    {key : Text} : Field.ofKey? kind key = some .filter ↔ key = "where".toList := by
  have fields : kind.fields = [.table, .filter, .content, .ignoreUndefined] := by
    simp only [List.mem_cons, List.not_mem_nil, or_false] at changing
    rcases changing with rfl | rfl <;> rfl
  rw [Field.ofKey?, fields]
  constructor
  · -- The first field that a key spells is spelled by it.
    intro found
    simpa [Field.isSpelled, Field.key, Field.otherKeys] using List.find?_some found
  · rintro rfl
    decide

/-- The settings of a request that changes rows make a statement with a clause for their filter. -/
theorem write_ofSettings {config : Config} {kind : StatementKind}
    (changing : kind ∈ [.delete, .update]) {settings : List Setting} {statement : Statement}
    (accepted : Statement.ofSettings config kind settings = .ok statement) :
    ∃ bare sql, Statement.ofSettings config kind (settingsBut .filter settings) = .ok bare ∧
      bare.write = .ok sql ∧
      statement.write = .ok (sql ++ whereClause (requestFilter settings)) := by
  -- All that a statement is made of but its filter comes from the settings for other fields.
  have noFilter := requestFilter_settingsBut settings
  have sameTable := requestTable_settingsBut kind settings
    (show Field.table ≠ .filter by decide)
  have sameRow := readValue_settingsBut settings
    (show Field.content ≠ .filter by decide) Record.ofJson
  have sameChoice := requestIgnores_settingsBut config settings
    (show Field.ignoreUndefined ≠ .filter by decide)
  simp only [List.mem_cons, List.not_mem_nil, or_false] at changing
  rcases changing with rfl | rfl
  · -- A deletion is its table and its filter.
    simp only [Statement.ofSettings, bind_eq_ok_iff, Pure.pure, Except.pure, Except.ok.injEq]
      at accepted
    obtain ⟨table, read, rfl⟩ := accepted
    refine ⟨.delete { table := table }, _, ?_, rfl, ?_⟩
    · simp only [Statement.ofSettings, sameTable, read, noFilter]
      rfl
    · rw [Statement.write, Delete.write_eq]
  · -- An update has a row and a choice besides, and neither is the filter.
    simp only [Statement.ofSettings, bind_eq_ok_iff, Pure.pure, Except.pure, Except.ok.injEq]
      at accepted
    obtain ⟨table, read, row, further, rfl⟩ := accepted
    refine ⟨.update {
      table := table
      row := row.getD .empty
      ignoreUndefined := requestIgnores config settings }, _, ?_, rfl, ?_⟩
    · simp only [Statement.ofSettings, sameTable, sameRow, sameChoice, read, further, noFilter]
      rfl
    · rw [Statement.write, Update.write_eq]

/-- A request that changes rows is accepted without its `where` member, and its value narrows it. -/
theorem ofJson_narrowed {config : Config} {kind : StatementKind}
    (changing : kind ∈ [.delete, .update]) {members : List (Text × Json)} {value : Json}
    (there : ("where".toList, value) ∈ members) {statement : Statement}
    (accepted : Statement.ofJson config kind (.object members) = .ok statement) :
    ∃ bare bareSql sql,
      Statement.ofJson config kind
        (.object (members.filter fun member => member.1 ≠ "where".toList)) = .ok bare ∧
      bare.write = .ok bareSql ∧ statement.write = .ok sql ∧ Narrowed value bareSql sql := by
  have named : Field.ofKey? kind "where".toList = some .filter :=
    (Field.ofKey?_eq_filter_iff changing).mpr rfl
  have kept : membersBut kind .filter members =
      members.filter fun member => member.1 ≠ "where".toList := by
    simp only [membersBut, ne_eq, Field.ofKey?_eq_filter_iff changing]
  rw [Statement.ofJson] at accepted
  cases read : readSettings kind [] members with
  | error fault => simp [read] at accepted
  | ok settings =>
    simp only [read] at accepted
    -- The filter of the request is the one that the member spells.
    have taken := readSettings_eq_ok_iff.mp read
    obtain ⟨setting, own, found⟩ := taken.find?_eq there named
    cases own
    have filter : requestFilter settings = Filter.ofJson? value := by
      rw [requestFilter, valueOf?, found]
      cases value <;> rfl
    obtain ⟨bare, sql, without, written, whole⟩ := write_ofSettings changing accepted
    refine ⟨bare, sql, _, ?_, written, whole, ?_⟩
    · -- Without its member the request has all the settings but the filter.
      have others := readSettings_eq_ok_iff.mpr (taken.membersBut (List.Subset.refl []) .filter)
      rw [← kept, Statement.ofJson, others]
      exact without
    · rw [filter]
      exact narrowed_whereClause value sql

/-- A step of a run with another one behind it succeeds if both of them do. -/
theorem run_bind_eq_ok_iff {α β : Type} {first : Step α} {next : α → Step β} {input rest : Text}
    {result : β} : (first >>= next).run input = .ok (result, rest) ↔
      ∃ value left, first.run input = .ok (value, left) ∧
        (next value).run left = .ok (result, rest) := by
  -- Success of a sequence is success of both steps, with the input threaded between them.
  rw [StateT.run_bind, bind_eq_ok_iff, Prod.exists]

/-- A value of a run leaves the input as it is. -/
theorem run_pure_eq_ok_iff {α : Type} {value result : α} {input rest : Text} :
    (pure value : Step α).run input = .ok (result, rest) ↔ value = result ∧ input = rest := by
  -- A pure step leaves the input where it is.
  rw [StateT.run_pure]
  simp [Pure.pure, Except.pure]

/-- A request is written in a run as it is written otherwise. -/
theorem run_writeRequest_eq_ok_iff {config : Config} {kind : StatementKind} {request : Json}
    {input sql rest : Text} : (writeRequest config kind request).run input = .ok (sql, rest) ↔
      input = rest ∧ ∃ statement, Statement.ofJson config kind request = .ok statement ∧
        statement.write = .ok sql := by
  -- A request that is refused is no step of a run that succeeds.
  rw [writeRequest, ← bind_eq_ok_iff]
  cases Statement.ofJson config kind request >>= Statement.write with
  | error cause =>
    have failed : (orFail (.error cause) : Step Text).run input = .error (.statement cause) := rfl
    simp [failed]
  | ok text =>
    rw [orFail, run_pure_eq_ok_iff, Except.ok.injEq, and_comm]

/-- An argument other than a hyphen is read as JSON or as a text, and no input is taken for it. -/
theorem run_readLoose {argument : Text} (named : argument ≠ ['-']) (input : Text) :
    (readLoose argument).run input =
      .ok ((Json.ofText? argument).getD (.string argument), input) := by
  -- An argument that is no dash is not taken from the input.
  rw [readLoose, readArgument, if_neg named]
  rfl

/-- The command that changes rows of a table: it updates them if it is given a row. -/
def Command.change (table : Text) (row filter : Option Text) : Command :=
  match row with
  | some row => .update table row filter
  | none => .delete table filter

/-- The argument of a command that changes rows narrows it down as the value does that it is. -/
theorem run_change_narrowed {config : Config} {table argument input sql rest : Text}
    {row : Option Text}
    (ran : ((Command.change table row (some argument)).write config).run input =
      .ok (sql, rest)) :
    ∃ value bare left,
      ((Command.change table row none).write config).run input = .ok (bare, left) ∧
      (readLoose argument).run left = .ok (value, rest) ∧ Narrowed value bare sql := by
  -- The request of the command without the argument is the one without the member for it.
  cases row with
  | none =>
    simp only [Command.change, Command.write, readLooseMember, run_bind_eq_ok_iff,
      run_pure_eq_ok_iff, run_writeRequest_eq_ok_iff] at ran ⊢
    obtain ⟨_, _, ⟨value, _, read, rfl, rfl⟩, rfl, statement, accepted, written⟩ := ran
    obtain ⟨bare, bareSql, whole, without, bareWritten, wholeWritten, narrowed⟩ :=
      ofJson_narrowed (by simp) (List.mem_append_right _ (List.mem_singleton_self _)) accepted
    obtain rfl := Except.ok.inj (wholeWritten.symm.trans written)
    exact ⟨value, bareSql, input, ⟨[], input, ⟨rfl, rfl⟩, rfl, bare, without, bareWritten⟩,
      read, narrowed⟩
  | some row =>
    simp only [Command.change, Command.write, readLooseMember, run_bind_eq_ok_iff,
      run_pure_eq_ok_iff, run_writeRequest_eq_ok_iff] at ran ⊢
    -- The row is read before the argument, so its input is the same with and without it.
    obtain ⟨content, left, rowRead, _, _, ⟨value, _, read, rfl, rfl⟩, rfl, statement, accepted,
      written⟩ := ran
    obtain ⟨bare, bareSql, whole, without, bareWritten, wholeWritten, narrowed⟩ :=
      ofJson_narrowed (by simp) (List.mem_append_right _ (List.mem_singleton_self _)) accepted
    obtain rfl := Except.ok.inj (wholeWritten.symm.trans written)
    exact ⟨value, bareSql, left, ⟨content, left, rowRead, [], left, ⟨rfl, rfl⟩, rfl, bare,
      without, bareWritten⟩, read, narrowed⟩

/--
A deletion or an update is narrowed down by a visible text and by an object that holds a condition.

Every other value that is accepted leaves the statement as it is without a `where` member. So does
the argument of a command, as the value that it reads as.
-/
theorem change_narrowed_by_where (config : Config) :
    (∀ kind ∈ [StatementKind.delete, .update], ∀ members value statement,
      ("where".toList, value) ∈ members →
      Statement.ofJson config kind (.object members) = .ok statement →
      ∃ bare bareSql sql,
        Statement.ofJson config kind
          (.object (members.filter fun member => member.1 ≠ "where".toList)) = .ok bare ∧
        bare.write = .ok bareSql ∧ statement.write = .ok sql ∧ Narrowed value bareSql sql) ∧
    ∀ table row argument input sql rest,
      ((Command.change table row (some argument)).write config).run input = .ok (sql, rest) →
      ∃ value bare left,
        ((Command.change table row none).write config).run input = .ok (bare, left) ∧
        (readLoose argument).run left = .ok (value, rest) ∧ Narrowed value bare sql :=
  -- The two ways to ask for a change are settled apart, each by its own lemma.
  ⟨fun _ changing _ _ _ there accepted => ofJson_narrowed changing there accepted,
    fun _ _ _ _ _ _ ran => run_change_narrowed ran⟩

/-- A deletion with an object for its `where` member, and a command with a number in its place. -/
theorem change_narrowed_by_where_delete :
    (∃ bare bareSql sql,
      Statement.ofJson {} .delete (.object [("table".toList, .string "t".toList)]) = .ok bare ∧
      bare.write = .ok bareSql ∧
      Statement.write (.delete {
        table := .name "t".toList
        filter := some (.tree (.group [("id".toList, .scalar (.int 1))])) }) = .ok sql ∧
      Narrowed (.object [("id".toList, .integer 1)]) bareSql sql) ∧
    ∃ value bare left,
      ((Command.change "t".toList none none).write {}).run [] = .ok (bare, left) ∧
      (readLoose "0".toList).run left = .ok (value, []) ∧
      Narrowed value bare "DELETE FROM `t`".toList := by
  -- The first part is about a request, and the second about a command with a number.
  obtain ⟨requests, commands⟩ := change_narrowed_by_where {}
  refine ⟨requests .delete (by simp) [("table".toList, .string "t".toList),
    ("where".toList, .object [("id".toList, .integer 1)])] _ _ (by simp) rfl, ?command⟩
  case command =>
    -- The argument is a JSON text, so the command asks for no rows in particular.
    refine commands "t".toList none "0".toList [] _ [] ?_
    have zero : Json.ofText? "0".toList = some (.integer 0) := by
      rw [Json.ofText?, takeValue?]
      rfl
    have read : (readLoose "0".toList).run [] = .ok (.integer 0, []) := by
      rw [run_readLoose (by decide), zero]
      rfl
    simp only [Command.change, Command.write, readLooseMember, run_bind_eq_ok_iff,
      run_pure_eq_ok_iff, run_writeRequest_eq_ok_iff]
    refine ⟨_, _, ⟨_, _, read, rfl, rfl⟩, rfl, .delete {
      table := .name "t".toList
      filter := some (.tree (.scalar (.int 0))) }, rfl, ?_⟩
    decide +kernel

/-- A number in the place of a tree is accepted, and the deletion has no clause for it. -/
theorem delete_not_narrowed_by_number : ∃ statement,
    Statement.ofJson {} .delete (.object [("table".toList, .string "t".toList),
      ("where".toList, .integer 0)]) = .ok statement ∧
    statement.write = .ok "DELETE FROM `t`".toList ∧
    ¬ " WHERE ".toList <:+: "DELETE FROM `t`".toList := by
  -- The number becomes a tree that is no group, which writes no clause.
  refine ⟨.delete {
    table := .name "t".toList
    filter := some (.tree (.scalar (.int 0))) }, rfl, ?_, by decide⟩
  decide +kernel

end SqlWriter
