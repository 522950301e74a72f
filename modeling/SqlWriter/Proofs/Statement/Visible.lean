import SqlWriter.Proofs.Columns.Visible
import SqlWriter.Proofs.Statement.Fault

/-! Selections whose columns or whose table are written as nothing that can be seen. -/

namespace SqlWriter

/-- A selection that is written has a table and a projection, with all other clauses behind. -/
theorem Select.exists_of_write {select : Select} {sql : Text} (written : select.write = .ok sql) :
    ∃ table shown, select.table = some table ∧ ¬NamesNoTable select.table ∧
      select.projection.write = .ok shown ∧
      sql = "SELECT ".toList ++ shown ++ " FROM ".toList ++ table.write {} ++
        whereClause select.filter ++ select.orderClause ++ select.limitClause := by
  -- Without a table the statement fails, so a table was found.
  cases found : select.table? with
  | none =>
    rw [Select.write, found] at written
    cases written
  | some table =>
    have named : ¬NamesNoTable select.table := by
      rw [← Select.table?_eq_none_iff, found]
      exact Option.some_ne_none table
    have given : select.table = some table := (Option.filter_eq_some_iff.mp found).1
    -- The columns were written as well, or else their fault would be the outcome.
    rw [Select.write, found] at written
    obtain ⟨shown, fragment, rest⟩ := bind_eq_ok_iff.mp written
    cases rest
    exact ⟨table, shown, given, named, fragment, rfl⟩

/--
The columns of a selection can be seen unless they are hollow, and its table unless it is hollow.

A missing table, a blank name and an empty list are refused before anything is written. Deeper in a
table nothing is checked, and nothing at all in the columns.
-/
theorem select_visible_iff {select : Select} {spec : Columns} {sql : Text}
    (projected : select.projection = .columns spec) (written : select.write = .ok sql) :
    ∃ table shown, select.table = some table ∧ ¬NamesNoTable select.table ∧
      spec.write none = .ok shown ∧
      sql = "SELECT ".toList ++ shown ++ " FROM ".toList ++ table.write {} ++
        whereClause select.filter ++ select.orderClause ++ select.limitClause ∧
      ((∃ c ∈ shown, isWhite c = false) ↔ ¬spec.IsHollow) ∧
      ((∃ c ∈ table.write {}, isWhite c = false) ↔ ¬table.IsHollow) := by
  -- The text is the one of every success, and the two hollows decide what is seen in it.
  obtain ⟨table, shown, given, named, fragment, text⟩ := Select.exists_of_write written
  rw [projected] at fragment
  refine ⟨table, shown, given, named, fragment, text, ?columns, ?table⟩
  case columns =>
    rw [← isBlank_eq_false_iff, ← Bool.not_eq_true, Columns.isBlank_write_iff fragment]
  case table =>
    rw [← isBlank_eq_false_iff, ← Bool.not_eq_true, Reference.isBlank_write_iff rfl]

/-- A column and a table are seen at any depth of the lists that they are in. -/
theorem select_visible_iff_nested :
    let spec := Columns.list [.list [.text ['a']]]
    let table := Reference.list [.list [.name ['t']]]
    let select : Select := { projection := .columns spec, table := some table }
    select.write = .ok "SELECT `a` FROM `t`".toList ∧ (∃ c ∈ table.write {}, isWhite c = false) ∧
      ∃ shown, spec.write none = .ok shown ∧ ∃ c ∈ shown, isWhite c = false := by
  intro spec table select
  -- The nested lists hold a name each, so neither of them is hollow.
  have written : select.write = .ok "SELECT `a` FROM `t`".toList := by decide +kernel
  have columns : ¬(Columns.list [.list [.text ['a']]]).IsHollow := by
    rw [Columns.isHollow_single_iff, Columns.isHollow_single_iff]
    exact fun | .text vacant => absurd vacant (by decide)
  have reference : ¬(Reference.list [.list [.name ['t']]]).IsHollow :=
    fun | .single (.single inside) => nomatch inside
  obtain ⟨_, shown, given, -, fragment, -, seen, named⟩ := select_visible_iff rfl written
  cases given
  exact ⟨written, named.mpr reference, shown, fragment, seen.mpr columns⟩

/-- Nothing stands behind a keyword for a table in which there is none, or for no columns. -/
theorem select_from_nothing :
    Select.write { table := some (.list [.list []]) } = .ok "SELECT * FROM ".toList ∧
      isBlank ((Reference.list [.list []]).write {}) = true ∧
      Select.write { projection := .columns (.list []), table := some (.name ['t']) } =
        .ok "SELECT  FROM `t`".toList ∧
      (Columns.list []).write none = .ok [] := by
  -- Both statements are fixed, so they are computed.
  decide +kernel

end SqlWriter
