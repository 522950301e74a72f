import SqlWriter.Statement

/-! The conditions that a tree holds: it is written as nothing only if it holds none. -/

namespace SqlWriter

mutual

/-- Whether one of the entries of a group holds a condition, with a field in scope or without. -/
def Condition.entriesHold (inField : Bool) : List (Text × Condition) → Bool
  | [] => false
  | (key, condition) :: rest =>
    Condition.entryHolds inField key condition || Condition.entriesHold inField rest

/-- Whether an entry holds a condition, which a scalar does, and a group or a list may do. -/
def Condition.entryHolds (inField : Bool) (key : Text) : Condition → Bool
  | .group entries => Condition.entriesHold (inField || (Connective.ofKey? key).isNone) entries
  | .list items =>
    -- A connective without a field in scope stands for the groups in its list, if there are any.
    if (Connective.ofKey? key).isSome && !inField && items.any Condition.isGroup then
      Condition.groupsHold items
    else true
  | .scalar _ => true

/-- Whether one of the groups in a list holds a condition; its other items do not count. -/
def Condition.groupsHold : List Condition → Bool
  | [] => false
  | .group entries :: rest => Condition.entriesHold false entries || Condition.groupsHold rest
  | _ :: rest => Condition.groupsHold rest

end

/-- A text that stands for a condition where there is one, and is empty where there is none. -/
structure WrittenIf (held : Bool) (sql : Text) : Prop where
  empty_iff : sql = [] ↔ held = false
  blank_eq : isBlank sql = !held

/-- A text with something visible in it is there for a condition. -/
theorem WrittenIf.ofVisible {sql : Text} (visible : isBlank sql = false) :
    WrittenIf true sql := by
  -- An empty text would be blank.
  refine ⟨⟨?_, by simp⟩, by simp [visible]⟩
  rintro rfl
  simp [isBlank] at visible

/-- Nothing is written without a condition. -/
theorem WrittenIf.nothing : WrittenIf false [] :=
  -- Nothing is written, and nothing holds.
  ⟨by simp, rfl⟩

/-- A comparison shows its operator at the least. -/
theorem isBlank_writeComparison (field : Text) (value : Scalar) :
    isBlank (writeComparison field value) = false := by
  -- The field and the value may well be blank.
  have operator : isBlank (comparisonOperator value) = false := by
    unfold comparisonOperator
    repeat' split
    all_goals decide
  simp [writeComparison, operator]

/-- The condition that no row meets is visible. -/
theorem isBlank_neverTrue : isBlank neverTrue = false := by
  -- The two digits can be seen.
  decide

/-- A membership shows its keyword, or the condition that no row meets. -/
theorem isBlank_writeMembership (field : Text) (items : List Condition) :
    isBlank (writeMembership field items) = false := by
  -- Either the membership is empty, or it is a list in parentheses.
  unfold writeMembership
  split
  · exact isBlank_neverTrue
  · simp

/-- Texts that are seen, of which there are some where a condition is held. -/
structure PartsWrittenIf (held : Bool) (parts : List Text) : Prop where
  visible : ∀ sql ∈ parts, isBlank sql = false
  present : (!parts.isEmpty) = held

/-- There are no texts without a condition. -/
theorem PartsWrittenIf.nothing : PartsWrittenIf false [] :=
  -- Nothing is written, and nothing holds.
  ⟨by simp, rfl⟩

/-- A text in front of others is dropped if it is empty, and else it may be shown differently. -/
theorem PartsWrittenIf.cons {held more : Bool} {sql shown : Text} {parts : List Text}
    (head : WrittenIf held sql) (kept : isBlank sql = false → isBlank shown = false)
    (tail : PartsWrittenIf more parts) :
    PartsWrittenIf (held || more) (if sql = [] then parts else shown :: parts) := by
  -- The text is empty exactly where it holds no condition.
  cases held with
  | false => simpa [head.empty_iff] using tail
  | true =>
    have seen : isBlank shown = false := kept (by simp [head.blank_eq])
    rw [if_neg (by simp [head.empty_iff])]
    exact ⟨List.forall_mem_cons.mpr ⟨seen, tail.visible⟩, by simp⟩

/-- No texts are there exactly if no condition is held. -/
theorem PartsWrittenIf.eq_nil_iff {held : Bool} {parts : List Text}
    (written : PartsWrittenIf held parts) : parts = [] ↔ held = false := by
  -- Parts are there exactly if something holds.
  simp [← written.present]

/-- Visible conditions stay visible when they are joined. -/
theorem PartsWrittenIf.join {held : Bool} {parts : List Text}
    (written : PartsWrittenIf held parts) (connective : Connective) :
    WrittenIf held (connective.join parts) := by
  obtain ⟨visible, rfl⟩ := written
  -- The first of several parts is seen in front of the connective.
  cases parts with
  | nil => exact .nothing
  | cons sql more =>
    have first := visible sql (by simp)
    refine .ofVisible ?_
    by_cases further : more = []
    · simpa [further] using first
    · simp [connective.join_cons sql further, first]

/-- Alternatives stay visible, whether they are put in parentheses or not. -/
theorem PartsWrittenIf.joinAlternatives {held : Bool} {parts : List Text}
    (written : PartsWrittenIf held parts) (connective : Connective) :
    WrittenIf held (connective.joinAlternatives parts) := by
  obtain ⟨visible, rfl⟩ := written
  -- A single alternative stands for itself, and several stand in parentheses.
  rcases parts with _ | ⟨only, _ | ⟨next, rest⟩⟩
  · exact .nothing
  · exact .ofVisible (visible only (by simp))
  · exact .ofVisible (by simp [Connective.joinAlternatives])

/-- Parentheses are written around a condition only if there is one. -/
theorem WrittenIf.wrapped {held : Bool} {sql : Text} (written : WrittenIf held sql) :
    WrittenIf held (wrapped sql) := by
  -- Parentheses are put around something that is there, and around nothing else.
  cases held with
  | false => simpa [SqlWriter.wrapped, written.empty_iff.mpr rfl] using WrittenIf.nothing
  | true =>
    have there : sql ≠ [] := fun empty => by simpa using written.empty_iff.mp empty
    simpa [SqlWriter.wrapped, there] using WrittenIf.ofVisible (isBlank_inParens sql)

/-- The entries of a group are written as far as they hold a condition. -/
theorem writeEntries_held (path : Option Text) {entries : List (Text × Condition)}
    (each : ∀ entry ∈ entries, WrittenIf (entry.2.entryHolds path.isSome entry.1)
      (Condition.writeEntry path entry.1 entry.2)) :
    PartsWrittenIf (Condition.entriesHold path.isSome entries)
      (Condition.writeEntries path entries) := by
  -- Each entry is dropped if it holds nothing, and else it is visible.
  induction entries with
  | nil => simpa [Condition.writeEntries, Condition.entriesHold] using PartsWrittenIf.nothing
  | cons entry rest ih =>
    rcases entry with ⟨key, condition⟩
    obtain ⟨head, tail⟩ := List.forall_mem_cons.mp each
    simp only [Condition.writeEntries, Condition.entriesHold]
    exact .cons head id (ih tail)

/-- The groups of a list are written as far as they hold a condition. -/
theorem writeAlternatives_held {items : List Condition}
    (each : ∀ entries, Condition.group entries ∈ items → WrittenIf
      (Condition.entriesHold false entries)
      (Connective.and.join (Condition.writeEntries none entries))) :
    PartsWrittenIf (Condition.groupsHold items) (Condition.writeAlternatives items) := by
  -- Items that are no groups are passed over on both sides.
  induction items with
  | nil => simpa [Condition.writeAlternatives, Condition.groupsHold] using PartsWrittenIf.nothing
  | cons item rest ih =>
    have tail := ih fun entries member => each entries (by simp [member])
    cases item with
    | scalar value => exact tail
    | list items => exact tail
    | group entries =>
      simp only [Condition.writeAlternatives, Condition.groupsHold]
      refine .cons (each entries (by simp)) (fun seen => ?_) tail
      -- Parentheses around a group of several entries are visible as well.
      split
      · simp
      · exact seen

/-- The groups of a list are written together if one of them holds a condition. -/
theorem joinAlternatives_held (connective : Connective) {items : List Condition}
    (each : ∀ entries, Condition.group entries ∈ items → ∀ entry ∈ entries,
      WrittenIf (entry.2.entryHolds false entry.1)
        (Condition.writeEntry none entry.1 entry.2)) :
    WrittenIf (Condition.groupsHold items)
      (connective.joinAlternatives (Condition.writeAlternatives items)) := by
  -- The groups of the list are trees of their own, without a field in scope.
  have groups := writeAlternatives_held fun entries member =>
    (writeEntries_held none (each entries member)).join .and
  exact groups.joinAlternatives connective

/-- An entry is written if it holds a condition, under every path and key. -/
theorem writeEntry_held (tree : Condition) (path : Option Text) (key : Text) :
    WrittenIf (tree.entryHolds path.isSome key) (Condition.writeEntry path key tree) := by
  -- The path grows on the way into a tree, so the induction is on the tree under every path.
  induction tree generalizing path key with
  | scalar value =>
    simp only [Condition.entryHolds, Condition.writeEntry]
    split
    · exact .ofVisible isBlank_neverTrue
    · exact .ofVisible (isBlank_writeComparison _ value)
    · exact .ofVisible (isBlank_writeComparison _ value)
  | list items _ groups =>
    have membership (field : Text) := WrittenIf.ofVisible (isBlank_writeMembership field items)
    simp only [Condition.entryHolds, Condition.writeEntry]
    cases named : Connective.ofKey? key with
    | none => simpa using membership (extendPath path key)
    | some connective =>
      cases path with
      | some field => simpa using membership field
      | none =>
        cases items.any Condition.isGroup with
        | false => simpa using WrittenIf.ofVisible isBlank_neverTrue
        | true =>
          simpa using joinAlternatives_held connective
            fun entries member entry among => groups entries member entry among none _
  | group entries ih =>
    simp only [Condition.entryHolds, Condition.writeEntry]
    cases named : Connective.ofKey? key with
    | some connective =>
      -- A connective leaves the scope as it is.
      have inside := writeEntries_held path fun entry member => ih entry member path entry.1
      simpa using (inside.join connective).wrapped
    | none =>
      -- A field is in scope for all that is inside it.
      have inside := writeEntries_held (some (extendPath path key)) fun entry member =>
        ih entry member _ entry.1
      simpa using inside.join .and

/-- The entries of a group are written as far as they hold a condition, under every path. -/
theorem writeEntries_writtenIf (path : Option Text) (entries : List (Text × Condition)) :
    PartsWrittenIf (Condition.entriesHold path.isSome entries)
      (Condition.writeEntries path entries) :=
  -- The law for one entry is applied to all of them.
  writeEntries_held path fun entry _ => writeEntry_held entry.2 path entry.1

/-- The groups of a list are written as far as they hold a condition, as trees of their own. -/
theorem writeAlternatives_writtenIf (items : List Condition) :
    PartsWrittenIf (Condition.groupsHold items) (Condition.writeAlternatives items) :=
  -- Each alternative is a group whose own parts are written by the law above.
  writeAlternatives_held fun entries _ => (writeEntries_writtenIf none entries).join .and

end SqlWriter
