import SqlWriter.Proofs.Condition.Dotted

/-! Connectives over a group and over a list of small groups: two spellings of one condition. -/

namespace SqlWriter

/-- The entries of a group as alternatives, each of them in a group of its own. -/
def asAlternatives (entries : List (Text × Condition)) : Condition :=
  .list (entries.map fun entry => .group [entry])

/-- Whether an entry comes to some text where no field is in scope. -/
def isWritten (entry : Text × Condition) : Bool :=
  Condition.writeEntry none entry.1 entry.2 != []

/--
How the group under a key is replaced by alternatives, somewhere in a tree without a field in scope.

Only connectives stand above such an entry, over groups or over lists with groups in them.
-/
inductive Respelled (key : Text) (entries : List (Text × Condition)) :
    Condition → Condition → Prop where
  | here {front back : List (Text × Condition)} :
    Respelled key entries (.group (front ++ (key, .group entries) :: back))
      (.group (front ++ (key, asAlternatives entries) :: back))
  | entry {outer : Text} {tree other : Condition} {front back : List (Text × Condition)}
    (connective : (Connective.ofKey? outer).isSome = true)
    (inside : Respelled key entries tree other) :
    Respelled key entries (.group (front ++ (outer, tree) :: back))
      (.group (front ++ (outer, other) :: back))
  | item {tree other : Condition} {front back : List Condition}
    (inside : Respelled key entries tree other) :
    Respelled key entries (.list (front ++ tree :: back)) (.list (front ++ other :: back))

/-- A group has as many parts as it has entries that come to some text. -/
theorem length_writeEntries (entries : List (Text × Condition)) :
    (Condition.writeEntries none entries).length = entries.countP isWritten := by
  -- Each entry is either dropped and not counted, or kept and counted.
  induction entries with
  | nil => rfl
  | cons entry rest ih =>
    rcases entry with ⟨key, condition⟩
    rw [List.countP_cons, ← ih, Condition.writeEntries]
    by_cases empty : Condition.writeEntry none key condition = []
    · simp [isWritten, empty]
    · simp [isWritten, empty]

/-- Groups of a single entry are written like the entries themselves. -/
theorem writeAlternatives_singletons (entries : List (Text × Condition)) :
    Condition.writeAlternatives (entries.map fun entry => .group [entry]) =
      Condition.writeEntries none entries := by
  induction entries with
  | nil => simp only [List.map_nil, Condition.writeAlternatives, Condition.writeEntries]
  | cons entry rest ih =>
    rcases entry with ⟨key, condition⟩
    simp only [List.map_cons, Condition.writeAlternatives, Condition.writeEntries, ih]
    -- A single entry gets no parentheses, and it is dropped where it comes to nothing.
    by_cases empty : Condition.writeEntry none key condition = []
    · simp [empty, Connective.join]
    · simp [empty]

/-- Joined entries are put in parentheses if one of them comes to some text. -/
theorem wrapped_join_writeEntries (connective : Connective) (entries : List (Text × Condition)) :
    wrapped (connective.join (Condition.writeEntries none entries)) =
      if Condition.writeEntries none entries = [] then []
      else inParens (connective.join (Condition.writeEntries none entries)) := by
  -- The joined text is empty only where there is nothing to join.
  have held := writeEntries_writtenIf none entries
  have empty_iff := (held.join connective).empty_iff.trans held.eq_nil_iff.symm
  simp only [wrapped, empty_iff]

/-- There is a group among the alternatives if there is an entry. -/
theorem any_isGroup_singletons (entries : List (Text × Condition)) :
    (entries.map fun entry => Condition.group [entry]).any Condition.isGroup =
      !entries.isEmpty := by
  -- Each of the items is a group, so the only question is whether there is one.
  cases entries <;> simp [Condition.isGroup]

/--
A connective is written alike over a group and over its entries as alternatives, but for two cases.

A single part is put in parentheses only in the group, and a list of no groups at all stands for the
condition that no row meets.
-/
theorem writeEntry_asAlternatives_iff {key : Text} {connective : Connective}
    (named : Connective.ofKey? key = some connective) (entries : List (Text × Condition)) :
    Condition.writeEntry none key (asAlternatives entries) =
        Condition.writeEntry none key (.group entries) ↔
      entries ≠ [] ∧ entries.countP isWritten ≠ 1 := by
  simp only [asAlternatives, Condition.writeEntry, named, any_isGroup_singletons,
    writeAlternatives_singletons, wrapped_join_writeEntries, ← length_writeEntries]
  by_cases missing : entries = []
  · -- Without an entry, the list is written as a condition and the group as nothing.
    subst missing
    simp [Condition.writeEntries, neverTrue]
  · rw [if_pos (by simp [missing])]
    -- The parts are the same on both sides, so their number decides.
    rcases Condition.writeEntries none entries with _ | ⟨first, _ | ⟨second, rest⟩⟩
    · simp [Connective.joinAlternatives, missing]
    · have longer : first ≠ inParens first := by
        intro same
        have lengths := congrArg List.length same
        simp only [inParens, List.length_cons, List.length_append, List.length_nil] at lengths
        omega
      simpa [Connective.joinAlternatives] using longer
    · simp [Connective.joinAlternatives, missing]

/-- Two trees of one shape that are written alike where no field is in scope. -/
inductive WrittenAlikeUnscoped : Condition → Condition → Prop where
  | group {entries others : List (Text × Condition)} (length : entries.length = others.length)
    (parts : Condition.writeEntries none entries = Condition.writeEntries none others) :
    WrittenAlikeUnscoped (.group entries) (.group others)
  | list {items others : List Condition}
    (groups : items.any Condition.isGroup = others.any Condition.isGroup)
    (alternatives : Condition.writeAlternatives items = Condition.writeAlternatives others) :
    WrittenAlikeUnscoped (.list items) (.list others)

/-- A connective is written alike over two trees that are. -/
theorem WrittenAlikeUnscoped.writeEntry_eq {key : Text} {tree other : Condition}
    (alike : WrittenAlikeUnscoped tree other) (connective : (Connective.ofKey? key).isSome = true) :
    Condition.writeEntry none key tree = Condition.writeEntry none key other := by
  -- A connective looks at the parts of a group, or at the alternatives of a list.
  obtain ⟨joined, named⟩ := Option.isSome_iff_exists.mp connective
  cases alike with
  | group _ parts => simp only [Condition.writeEntry, named, parts]
  | list groups alternatives => simp only [Condition.writeEntry, named, groups, alternatives]

/-- Groups that differ in one entry are written alike if that entry is. -/
theorem WrittenAlikeUnscoped.group_of_entry {key : Text} {tree other : Condition}
    (same : Condition.writeEntry none key tree = Condition.writeEntry none key other)
    (front back : List (Text × Condition)) :
    WrittenAlikeUnscoped (.group (front ++ (key, tree) :: back))
      (.group (front ++ (key, other) :: back)) := by
  refine .group (by simp) ?_
  -- What stands on the two sides of the entry is written as before.
  simp only [Condition.writeEntries_append, Condition.writeEntries, same]

/-- Lists that differ in one item are written alike if that item is. -/
theorem WrittenAlikeUnscoped.list_of_item {tree other : Condition}
    (alike : WrittenAlikeUnscoped tree other) (front back : List Condition) :
    WrittenAlikeUnscoped (.list (front ++ tree :: back)) (.list (front ++ other :: back)) := by
  -- A list inside a list is passed over, and a group is an alternative of the same size.
  have isGroup : tree.isGroup = other.isGroup := by
    cases alike <;> rfl
  have alternative : Condition.writeAlternatives (tree :: back) =
      Condition.writeAlternatives (other :: back) := by
    cases alike with
    | group length parts => simp only [Condition.writeAlternatives, length, parts]
    | list _ _ => simp only [Condition.writeAlternatives]
  refine .list ?_ ?_
  · simp only [List.any_append, List.any_cons, isGroup]
  · rw [Condition.writeAlternatives_append, alternative, Condition.writeAlternatives_append]

/-- A tree is written alike with the alternatives if the entry itself is. -/
theorem Respelled.writtenAlike {key : Text} {entries : List (Text × Condition)}
    {tree other : Condition} (step : Respelled key entries tree other)
    (same : Condition.writeEntry none key (.group entries) =
      Condition.writeEntry none key (asAlternatives entries)) :
    WrittenAlikeUnscoped tree other := by
  -- The induction follows the way from the tree down to the entry that is replaced.
  induction step with
  | here => exact .group_of_entry same _ _
  | entry connective _ ih => exact .group_of_entry (ih.writeEntry_eq connective) _ _
  | item _ ih => exact ih.list_of_item _ _

/--
The two spellings of alternatives agree: where no field is in scope, a connective over a group is
written like the connective over a list with a group for each of the entries.

It takes two entries that come to some text, and then whole trees with either spelling are written
alike, too.
-/
theorem alternatives_spelled_alike {key : Text} {connective : Connective}
    {entries : List (Text × Condition)} (named : Connective.ofKey? key = some connective)
    (several : 2 ≤ entries.countP isWritten) :
    Condition.writeEntry none key (asAlternatives entries) =
        Condition.writeEntry none key (.group entries) ∧
      ∀ tree other, Respelled key entries tree other → other.write? = tree.write? := by
  -- Two entries that are written are two entries that are there.
  have present : entries ≠ [] := by
    rintro rfl
    simp at several
  -- Both spellings are written alike, and the step to a whole tree keeps that.
  have same := (writeEntry_asAlternatives_iff named entries).mpr ⟨present, by omega⟩
  refine ⟨same, fun tree other step => ?_⟩
  cases step.writtenAlike same.symm with
  | group _ parts => exact congrArg (fun parts => some (Connective.and.join parts)) parts.symm
  | list _ _ => rfl

/-- Entries of three kinds, one of them without any text, below a connective in an alternative. -/
theorem alternatives_spelled_alike_nested :
    let entries : List (Text × Condition) := [
      ("a".toList, .scalar (.int 1)),
      ("$and".toList, .group []),
      ("$or".toList, .list [.group [("b".toList, .scalar .null), ("c".toList, .list [])]])]
    let around (inside : Condition) : Condition :=
      .group [("$and".toList, .list [.group [("d".toList, .scalar .null), ("$OR".toList, inside)]])]
    2 ≤ entries.countP isWritten ∧
      Condition.writeEntry none "$OR".toList (asAlternatives entries) =
        Condition.writeEntry none "$OR".toList (.group entries) ∧
      (around (asAlternatives entries)).write? = (around (.group entries)).write? := by
  intro entries around
  -- The second entry writes nothing, and the other two are the two that are needed.
  have several : 2 ≤ entries.countP isWritten := by decide +kernel
  have named : Connective.ofKey? "$OR".toList = some .or := by decide
  have both := alternatives_spelled_alike named several
  have inner : Respelled "$OR".toList entries
      (.group [("d".toList, .scalar .null), ("$OR".toList, .group entries)])
      -- The spelling is changed inside a group that is itself an alternative.
      (.group [("d".toList, .scalar .null), ("$OR".toList, asAlternatives entries)]) :=
    @Respelled.here "$OR".toList entries [("d".toList, .scalar .null)] []
  have step : Respelled "$OR".toList entries (around (.group entries))
      (around (asAlternatives entries)) :=
    @Respelled.entry _ _ "$and".toList _ _ [] [] (by decide) (@Respelled.item _ _ _ _ [] [] inner)
  exact ⟨several, both.1, both.2 _ _ step⟩

end SqlWriter
