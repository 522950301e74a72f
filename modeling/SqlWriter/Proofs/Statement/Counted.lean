import SqlWriter.Proofs.Columns.Aliased
import SqlWriter.Proofs.Shape.Pieces
import SqlWriter.Statement.Select

/-! Counts of all rows, and the selections of one column that they stand for. -/

namespace SqlWriter

/-- The call that counts all rows, under an alias. -/
def rowCount (label : Text) : Alias :=
  ⟨"COUNT(*)".toList, "AS".toList, label⟩

/-- A count of all rows under a label. -/
def Count.ofAll (table : Reference) (filter : Option Filter) (label : Text) : Count where
  table := table
  filter := filter
  expression := .name ['*']
  label := .name label

/-- The same count as a selection, with its column as a text that is still to be read. -/
def Select.countingAll (table : Reference) (filter : Option Filter) (label : Text) : Select where
  projection := .columns (.text ("COUNT(*) AS ".toList ++ label))
  table := table
  filter := filter

/-- The call that counts all rows is an expression on its own. -/
theorem isUnaliased_countAll : IsUnaliased "COUNT(*)".toList :=
  -- The five conditions are tests of one fixed text.
  ⟨by decide, by decide, by decide +kernel, by decide +kernel, by decide +kernel⟩

/-- The call that counts all rows has nothing in it to escape. -/
theorem writeReference_countAll :
    writeReference .numeric "COUNT(*)".toList = "COUNT(*)".toList := by
  -- A call has its text escaped, and this one holds nothing to escape.
  have call : functionCall? "COUNT(*)".toList = some "COUNT(*)".toList := by decide +kernel
  rw [(isUnaliased_countAll.writeColumn_of_call call).2]
  decide

section label

variable {label : Text}

/-- The column that counts all rows under a label, as a text. -/
theorem column_rowCount : (rowCount label).column = "COUNT(*) AS ".toList ++ label := by
  -- The keyword stands between two blanks, one from each side.
  have start : "COUNT(*)".toList ++ ' ' :: "AS".toList ++ [' '] = "COUNT(*) AS ".toList := by
    decide +kernel
  calc (rowCount label).column
      _ = "COUNT(*)".toList ++ ' ' :: "AS".toList ++ [' '] ++ label :=
        (List.append_assoc _ [' '] label).symm
      _ = "COUNT(*) AS ".toList ++ label := congrArg (· ++ label) start

/-- A count and its label are one column, with nothing around it. -/
theorem splitColumns_rowCount (word : IsRun isWordChar label) :
    splitColumns ("COUNT(*) AS ".toList ++ label) = ["COUNT(*) AS ".toList ++ label] := by
  -- The only comma could come from the label, which has word characters only.
  have noComma : ',' ∉ "COUNT(*) AS ".toList ++ label := by
    intro there
    rcases List.mem_append.mp there with inside | inside
    · exact absurd inside (by decide)
    · exact absurd (word.inside _ inside) (by decide)
  -- It starts with a letter, and the word ends with a character that can be seen as well.
  obtain ⟨init, last, rfl⟩ := (List.eq_nil_or_concat' label).resolve_left word.present
  have visible : isWhite last = false := not_isWhite_of_isWordChar (word.inside last (by simp))
  have shape : "COUNT(*) AS ".toList ++ (init ++ [last]) =
      'C' :: (("OUNT(*) AS ".toList ++ init) ++ [last]) := by
    rw [← List.append_assoc]
    rfl
  have seen : isBlank ("COUNT(*) AS ".toList ++ (init ++ [last])) = false := by
    rw [isBlank_append, Bool.and_eq_false_iff]
    exact .inl (by decide)
  have trimmed : trim ("COUNT(*) AS ".toList ++ (init ++ [last])) =
      "COUNT(*) AS ".toList ++ (init ++ [last]) := by
    rw [shape]
    exact trim_between (by decide) visible _
  rw [splitColumns_of_whole (not_hasTopComma_of_notMem noComma), seen, trimmed]
  rfl

/-- The call that counts all rows is kept in front of its alias, and the label is quoted. -/
theorem writeColumn_rowCount (word : IsRun isWordChar label) :
    writeColumn ("COUNT(*) AS ".toList ++ label) =
      .ok ("COUNT(*) AS ".toList ++ writeReference {} label) := by
  -- The column of a count is an aliased column, so the law of those applies.
  have alone : IsUnaliased (rowCount label).expression := isUnaliased_countAll
  have keyword : lowerCase (rowCount label).keyword = "as".toList :=
    show lowerCase "AS".toList = "as".toList by decide
  have kept : writeReference .numeric (rowCount label).expression = "COUNT(*)".toList :=
    writeReference_countAll
  have written : "COUNT(*)".toList ++ (rowCount label).writtenTail =
      (rowCount (writeReference {} label)).column := by
    rw [Alias.writtenTail, Alias.column, List.append_assoc]
    rfl
  rw [← column_rowCount, Alias.writeColumn_column alone keyword word, kept, written,
    column_rowCount]

/-- A count of all rows is written around the star that it counts. -/
theorem Count.column_ofAll (table : Reference) (filter : Option Filter) :
    (Count.ofAll table filter label).column = "COUNT(*) AS ".toList ++ writeReference {} label := by
  -- A star stands for all the columns, so it is not quoted.
  have star : writeReference .numeric ['*'] = ['*'] := by decide +kernel
  have start : "COUNT".toList ++ inParens ['*'] ++ " AS ".toList = "COUNT(*) AS ".toList := by
    decide +kernel
  calc (Count.ofAll table filter label).column
      _ = "COUNT".toList ++ inParens (writeReference .numeric ['*']) ++ " AS ".toList ++
          writeReference {} label := rfl
      _ = "COUNT".toList ++ inParens ['*'] ++ " AS ".toList ++ writeReference {} label := by rw [star]
      _ = "COUNT(*) AS ".toList ++ writeReference {} label :=
        congrArg (· ++ writeReference {} label) start

end label

/-- Selections with the same table, filter and clauses, and columns written alike, are alike. -/
theorem Select.write_congr {select other : Select} (table : select.table = other.table)
    (projection : select.projection.write = other.projection.write)
    (filter : select.filter = other.filter) (order : select.orderClause = other.orderClause)
    (limit : select.limitClause = other.limitClause) : select.write = other.write := by
  -- Every part of the text is one of the five parts that agree.
  have tables : select.table? = other.table? := by
    rw [table?, table?, table]
  rw [write, write, tables, projection, filter, order, limit]

/--
A count of all rows under a word is the selection with that call and alias as the text of a column.

Both are written alike or miss their table alike, for every table and filter. A direction without a
field to order by adds nothing to the selection, and neither do rows to skip without a limit.
-/
theorem count_all_as_selection (table : Reference) (filter : Option Filter) {label : Text}
    (word : IsRun isWordChar label) :
    let select := Select.countingAll table filter label
    (Count.ofAll table filter label).write = select.write ∧
      ∀ order skip, Select.write { select with order := order, skip := skip } = select.write := by
  intro select
  constructor
  · -- One column is given as it is written, and the other one is read from its text.
    have literal : (Count.ofAll table filter label).toSelect.projection.write =
        .ok (Count.ofAll table filter label).column := rfl
    have read : select.projection.write =
        writeColumns none (splitColumns ("COUNT(*) AS ".toList ++ label)) := rfl
    have same : (Count.ofAll table filter label).toSelect.projection.write =
        select.projection.write := by
      have single (column : Text) : commaJoined [column] = column := List.intercalate_singleton
      rw [literal, Count.column_ofAll, read, splitColumns_rowCount word, writeColumns,
        List.mapM_cons, qualify, writeColumn_rowCount word, List.mapM_nil]
      show _ = Except.ok (commaJoined [_])
      rw [single]
    exact Select.write_congr rfl same rfl rfl rfl
  · -- With nothing to order by and no limit, neither of the two is written.
    intro order skip
    exact Select.write_congr rfl rfl rfl rfl rfl

/-- A label that spells a number is quoted on both sides, and a boolean word on neither. -/
theorem count_all_as_selection_numeral :
    (Select.countingAll (.name ['t']) none ['1']).write =
        .ok "SELECT COUNT(*) AS `1` FROM `t`".toList ∧
      Select.write { Select.countingAll (.name ['t']) none "true".toList with
          order := .ascending, skip := some 5 } =
        .ok "SELECT COUNT(*) AS true FROM `t`".toList := by
  -- A word of digits and a word of truth are labels like any other.
  have number : IsRun isWordChar ['1'] := ⟨by decide, List.all_eq_true.mp (by decide)⟩
  have boolean : IsRun isWordChar "true".toList := ⟨by decide, List.all_eq_true.mp (by decide)⟩
  obtain ⟨same, -⟩ := count_all_as_selection (.name ['t']) none number
  obtain ⟨alike, indifferent⟩ := count_all_as_selection (.name ['t']) none boolean
  refine ⟨?_, ?_⟩
  · rw [← same]
    decide +kernel
  · rw [indifferent, ← alike]
    decide +kernel

end SqlWriter
