import SqlWriter.Proofs.Columns.Fault
import SqlWriter.Statement.Select

/-! The faults of statements that read: a missing table, and otherwise that of their columns. -/

namespace SqlWriter

/-- Where no table is named: none is given, or a name of white space only, or a list of nothing. -/
inductive NamesNoTable : Option Reference → Prop where
  | missing : NamesNoTable none
  | blank {text : Text} (white : ∀ c ∈ text, isWhite c = true) : NamesNoTable (some (.name text))
  | empty : NamesNoTable (some (.list []))

/-- A selection has a table unless none is named. -/
theorem Select.table?_eq_none_iff {select : Select} :
    select.table? = none ↔ NamesNoTable select.table := by
  -- Besides names and lists, every reference counts as a table.
  simp only [Select.table?, Option.filter_eq_none_iff]
  constructor
  · intro blank
    match given : select.table with
    | none => exact .missing
    | some table =>
      have noTable : table.isBlank = true := by simpa using blank table given
      match table with
      | .name text => exact .blank (List.all_eq_true.mp noTable)
      | .list items =>
        obtain rfl := List.isEmpty_iff.mp noTable
        exact .empty
      -- Numbers, words and raw texts always name a table.
      | .int _ | .float _ | .bool _ | .raw _ => cases noTable
  · intro unnamed
    generalize select.table = given at unnamed
    cases unnamed with
    | missing => nofun
    | blank white =>
      rintro _ ⟨⟩
      simpa [Reference.isBlank, isBlank] using white
    | empty =>
      rintro _ ⟨⟩
      simp [Reference.isBlank]

/-- A selection without a table fails, whatever else it asks for. -/
theorem Select.write_of_namesNoTable {select : Select} (unnamed : NamesNoTable select.table) :
    select.write = .error .missingTable := by
  -- The table is asked for first, so nothing else is looked at.
  rw [Select.write, Select.table?_eq_none_iff.mpr unnamed]

/-- With a table, a selection fails exactly if its columns do. -/
theorem Select.write_failsExactly {select : Select} {error : Error} {wrong : Prop}
    (named : ¬NamesNoTable select.table) (shown : FailsExactly error wrong select.projection.write) :
    FailsExactly error wrong select.write := by
  -- With a table there is only the selection left to fail.
  obtain ⟨table, found⟩ := Option.ne_none_iff_exists'.mp
    fun none => named (Select.table?_eq_none_iff.mp none)
  rw [Select.write, found]
  exact (shown.bind fun projection => FailsExactly.ok _).congr (by simp)

/--
Selections and counts fail for two causes only, and which one it is does not depend on the rest.

A selection fails for its table if none is named, and otherwise for its columns if one of those that
it shows puts an alias behind a wildcard. A count shows no columns, so only its table can be missing.
-/
theorem select_and_count_faults :
    (∀ (select : Select) (spec : Columns),
      let written := Select.write { select with projection := .columns spec }
      (written = .error .missingTable ↔ NamesNoTable select.table) ∧
        (written = .error .wildcardAlias ↔
          ¬NamesNoTable select.table ∧ ∃ column, spec.Shows column ∧ AliasesWildcard column) ∧
        ((∃ sql, written = .ok sql) ↔
          ¬NamesNoTable select.table ∧ ¬∃ column, spec.Shows column ∧ AliasesWildcard column)) ∧
    ∀ count : Count,
      (count.write = .error .missingTable ↔ NamesNoTable (some count.table)) ∧
        ((∃ sql, count.write = .ok sql) ↔ ¬NamesNoTable (some count.table)) := by
  constructor
  · intro select spec written
    -- A missing table hides every fault of the columns.
    by_cases unnamed : NamesNoTable select.table
    · have failed : written = .error .missingTable := Select.write_of_namesNoTable unnamed
      simp [failed, unnamed]
    · have exactly : FailsExactly .wildcardAlias
          (∃ column, spec.Shows column ∧ AliasesWildcard column) written :=
        Select.write_failsExactly unnamed (spec.write_failsExactly none)
      refine ⟨iff_of_false (exactly.ne_error (by decide)) unnamed, ?_, ?_⟩
      · rw [exactly.eq_error_iff, and_iff_right unnamed]
      · rw [exactly.ok_iff, and_iff_right unnamed]
  · intro count
    -- The column of a count is always written, so only the table can be missed.
    by_cases unnamed : NamesNoTable (some count.table)
    · have failed : count.write = .error .missingTable := Select.write_of_namesNoTable unnamed
      simp [failed, unnamed]
    · have fine : FailsExactly .wildcardAlias False count.write :=
        Select.write_failsExactly unnamed (FailsExactly.ok count.column)
      refine ⟨iff_of_false (fine.ne_error (by decide)) unnamed, ?_⟩
      rw [fine.ok_iff, not_false_eq_true, true_iff]
      exact unnamed

end SqlWriter
