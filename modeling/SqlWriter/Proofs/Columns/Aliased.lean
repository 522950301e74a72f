import SqlWriter.Proofs.Columns.Fault
import SqlWriter.Proofs.Reference.Order

/-! What an alias does to the expression in front of it: nothing, unless that is a call. -/

namespace SqlWriter

/-- An expression on its own: with something to see and nothing around it, and under no alias. -/
structure IsUnaliased (expression : Text) : Prop where
  trimmed : trim expression = expression
  present : expression ≠ []
  noWildcard : wildcard? expression = none
  noKeyword : explicitAlias? expression = none
  noAlias : implicitAlias? expression = none

namespace Alias

/-- A column with an alias behind its keyword, and one space on both sides of that. -/
def column (aliased : Alias) : Text :=
  aliased.expression ++ ' ' :: aliased.keyword ++ ' ' :: aliased.name

/-- The keyword and the alias as they are written behind an expression. -/
def writtenTail (aliased : Alias) : Text :=
  ' ' :: aliased.keyword ++ ' ' :: writeReference {} aliased.name

/-- The parts of a column with an alias are found in it again. -/
theorem explicitAlias?_column {aliased : Alias} (alone : IsUnaliased aliased.expression)
    (as : lowerCase aliased.keyword = "as".toList) (word : IsRun isWordChar aliased.name) :
    explicitAlias? aliased.column = some aliased := by
  have space : IsRun isGap [' '] :=
    ⟨List.cons_ne_nil _ _, List.forall_mem_singleton.mpr (by decide)⟩
  have visible : isBlank aliased.expression = false := by
    rw [Bool.eq_false_iff, ne_eq, ← trim_eq_nil_iff, alone.trimmed]
    exact alone.present
  -- The name ends the column, so there is no gap behind it.
  have tail : ExplicitTail aliased.keyword aliased.name
      ([' '] ++ (aliased.keyword ++ ([' '] ++ (aliased.name ++ [])))) :=
    .intro space as (.intro space word (List.forall_mem_nil _))
  refine explicitAlias?_eq_some_iff.mpr ⟨_, _, ?_, visible, tail, alone.trimmed.symm⟩
  simp [column]

/-- A column with an alias is written as its expression as a reference, and the tail behind it. -/
theorem writeColumn_column {aliased : Alias} (alone : IsUnaliased aliased.expression)
    (as : lowerCase aliased.keyword = "as".toList) (word : IsRun isWordChar aliased.name) :
    writeColumn aliased.column =
      .ok (writeReference .numeric aliased.expression ++ aliased.writtenTail) := by
  -- Neither side of the keyword is a wildcard.
  have fine :
      ((wildcard? aliased.expression).isSome || (wildcard? aliased.name).isSome) = false := by
    rw [alone.noWildcard, wildcard?_word word]
    rfl
  rw [writeColumn, explicitAlias?_column alone as word]
  simp [Alias.write, fine, writtenTail]

end Alias

/-- An expression on its own that is no call is written as a reference. -/
theorem IsUnaliased.writeColumn_of_noCall {expression : Text} (alone : IsUnaliased expression)
    (noCall : functionCall? expression = none) :
    writeColumn expression = .ok (writeReference .numeric expression) := by
  -- Neither kind of alias is found, so the column is written as a reference.
  rw [writeColumn, alone.noKeyword, alone.noAlias, noCall]

/-- A call on its own is written as it is, although as a reference it is escaped. -/
theorem IsUnaliased.writeColumn_of_call {expression call : Text} (alone : IsUnaliased expression)
    (found : functionCall? expression = some call) :
    writeColumn expression = .ok expression ∧
      writeReference .numeric expression = escapeString expression := by
  -- There is nothing around the call, so the call is the whole expression.
  have whole : call = expression := eq_of_functionCall? found alone.trimmed
  subst whole
  constructor
  · rw [writeColumn, alone.noKeyword, alone.noAlias, found]
  · rw [writeReference_of_functionCall? .numeric found]
    rfl

/--
An alias leaves an expression as it is written on its own, unless the expression is a call.

A call on its own is written as it is, and under an alias its text is escaped. Therefore the two
agree exactly if the expression is no call, or a call without a character to escape.
-/
theorem writeColumn_aliased {aliased : Alias} (alone : IsUnaliased aliased.expression)
    (as : lowerCase aliased.keyword = "as".toList) (word : IsRun isWordChar aliased.name) :
    ∃ written, writeColumn aliased.expression = .ok written ∧
      (functionCall? aliased.expression = none →
        writeColumn aliased.column = .ok (written ++ aliased.writtenTail)) ∧
      ((functionCall? aliased.expression).isSome = true → written = aliased.expression ∧
        writeColumn aliased.column =
          .ok (escapeString aliased.expression ++ aliased.writtenTail)) ∧
      (writeColumn aliased.column = .ok (written ++ aliased.writtenTail) ↔
        ((functionCall? aliased.expression).isSome = true →
          ∀ c ∈ aliased.expression, escapeLetter? c = none)) := by
  rw [Alias.writeColumn_column alone as word]
  cases found : functionCall? aliased.expression with
  | none =>
    refine ⟨_, alone.writeColumn_of_noCall found, fun _ => rfl, nofun, ?_⟩
    exact iff_of_true rfl nofun
  | some call =>
    obtain ⟨verbatim, escaped⟩ := alone.writeColumn_of_call found
    refine ⟨_, verbatim, nofun, fun _ => ⟨rfl, by rw [escaped]⟩, ?_⟩
    -- What stands behind the expression is the same, so the escaped call has to be the call itself.
    rw [escaped, Except.ok.injEq, List.append_left_inj, escapeString_eq_self_iff]
    exact ⟨fun plain _ => plain, fun plain => plain rfl⟩

/-- A count of all rows has nothing to escape, so an alias leaves it as it is. -/
theorem writeColumn_aliased_count :
    let aliased : Alias := ⟨"COUNT(*)".toList, "AS".toList, "count".toList⟩
    ∃ written, writeColumn aliased.expression = .ok written ∧
      writeColumn aliased.column = .ok (written ++ aliased.writtenTail) ∧
      aliased.column = "COUNT(*) AS count".toList ∧ aliased.writtenTail = " AS `count`".toList := by
  intro aliased
  -- The call is no alias by itself, and its text has nothing to escape.
  have alone : IsUnaliased aliased.expression :=
    ⟨by decide, by decide, by decide +kernel, by decide +kernel, by decide +kernel⟩
  have word : IsRun isWordChar aliased.name := ⟨by decide, List.all_eq_true.mp (by decide)⟩
  obtain ⟨written, first, -, -, agree⟩ := writeColumn_aliased alone (by decide) word
  have plain : ∀ c ∈ aliased.expression, escapeLetter? c = none :=
    escapeString_eq_self_iff.mp (by decide)
  exact ⟨written, first, agree.mpr fun _ => plain, by decide, by decide +kernel⟩

/-- A call with a literal in it has its quotes escaped under an alias, and is kept on its own. -/
theorem call_escaped_under_alias :
    let aliased : Alias := ⟨"f('x')".toList, "AS".toList, "a".toList⟩
    IsUnaliased aliased.expression ∧ lowerCase aliased.keyword = "as".toList ∧
      IsRun isWordChar aliased.name ∧
      writeColumn aliased.expression = .ok "f('x')".toList ∧
      writeColumn aliased.column = .ok "f(\\'x\\') AS `a`".toList ∧
      ¬∃ written, writeColumn aliased.expression = .ok written ∧
        writeColumn aliased.column = .ok (written ++ aliased.writtenTail) := by
  intro aliased
  -- The two columns are written in full, and a single backslash tells them apart.
  have alone : writeColumn aliased.expression = .ok "f('x')".toList := by decide +kernel
  have beneath : writeColumn aliased.column = .ok "f(\\'x\\') AS `a`".toList := by decide +kernel
  refine ⟨⟨by decide, by decide, by decide +kernel, by decide +kernel, by decide +kernel⟩,
    by decide, ⟨by decide, List.all_eq_true.mp (by decide)⟩, alone, beneath, ?_⟩
  rintro ⟨written, first, second⟩
  cases alone.symm.trans first
  have tail : aliased.writtenTail = " AS `a`".toList := by decide +kernel
  rw [tail] at second
  exact absurd (Except.ok.inj (beneath.symm.trans second)) (by decide)

end SqlWriter
