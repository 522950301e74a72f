import SqlWriter.Proofs.Condition.Held
import SqlWriter.Proofs.Text.Joined

/-! Groups under fields and keys with dots in them: two spellings of the same conditions. -/

namespace SqlWriter

mutual

/-- The entries of a group under a field, with the field in front of their keys. -/
def Condition.dottedEntries (field : Text) : List (Text × Condition) → List (Text × Condition)
  | [] => []
  | (key, condition) :: rest =>
    Condition.dottedEntry field key condition :: Condition.dottedEntries field rest

/-- An entry of a group under a field, with the field in front of its key or in its place. -/
def Condition.dottedEntry (field key : Text) : Condition → Text × Condition
  | .group entries =>
    -- A connective stays where it is, and the field goes on to the entries that it joins.
    match Connective.ofKey? key with
    | some _ => (key, .group (Condition.dottedEntries field entries))
    | none => (field ++ '.' :: key, .group entries)
  | .list items =>
    match Connective.ofKey? key with
    | some _ => (field, .list items)
    | none => (field ++ '.' :: key, .list items)
  | .scalar value =>
    match Connective.ofKey? key with
    | some _ => (field, .scalar value)
    | none => (field ++ '.' :: key, .scalar value)

end

/-- Whether the group under a key is joined by `AND`, which is so for all keys but that of `OR`. -/
def joinsByAnd (key : Text) : Bool :=
  Connective.ofKey? key != some .or

/--
How one group under a field is replaced by its entries in dotted form, somewhere in a tree.

It has to be an entry of a group that is joined by `AND` and is no item of a list itself.
-/
inductive Dotted : (joined : Bool) → Condition → Condition → Prop where
  | here {field : Text} {entries front back : List (Text × Condition)}
    (plain : Connective.ofKey? field = none) :
    Dotted true (.group (front ++ (field, .group entries) :: back))
      (.group (front ++ Condition.dottedEntries field entries ++ back))
  | entry {joined : Bool} {key : Text} {tree other : Condition}
    {front back : List (Text × Condition)} (inside : Dotted (joinsByAnd key) tree other) :
    Dotted joined (.group (front ++ (key, tree) :: back)) (.group (front ++ (key, other) :: back))
  | item {joined : Bool} {tree other : Condition} {front back : List Condition}
    (inside : Dotted false tree other) :
    Dotted joined (.list (front ++ tree :: back)) (.list (front ++ other :: back))

/-- Conditions that are joined before stand among others as if they were joined with them. -/
theorem Connective.join_splice (connective : Connective) (front back : List Text)
    {parts : List Text} (present : parts ≠ []) :
    connective.join (front ++ connective.join parts :: back) =
      connective.join (front ++ parts ++ back) :=
  -- What was joined is joined again with what stands around it.
  intercalate_splice front back present

/-- The entries of a group are written one part after the other. -/
theorem Condition.writeEntries_append (path : Option Text)
    (front back : List (Text × Condition)) :
    Condition.writeEntries path (front ++ back) =
      Condition.writeEntries path front ++ Condition.writeEntries path back := by
  -- Each entry writes its own part, and some write none.
  induction front with
  | nil => simp [Condition.writeEntries]
  | cons entry rest ih =>
    rcases entry with ⟨key, condition⟩
    simp only [List.cons_append, Condition.writeEntries, ih]
    split <;> rfl

/-- A key with a dot in it is no connective. -/
theorem Connective.ofKey?_dotted (field key : Text) :
    Connective.ofKey? (field ++ '.' :: key) = none := by
  -- Neither of the words for connectives has a dot.
  have dot : '.' ∈ lowerCase (field ++ '.' :: key) := by
    simp only [lowerCase, List.map_append, List.map_cons, List.mem_append, List.mem_cons]
    exact .inr (.inl (by decide))
  have noWord (word : Text) (plain : '.' ∉ word) : lowerCase (field ++ '.' :: key) ≠ word :=
    fun same => plain (same ▸ dot)
  rw [Connective.ofKey?, if_neg (noWord _ (by decide)), if_neg (noWord _ (by decide))]

/-- A path grows by a field and a key behind it as it grows by both of them with a dot between. -/
theorem extendPath_dotted (path : Option Text) (field key : Text) :
    extendPath path (field ++ '.' :: key) = extendPath (some (extendPath path field)) key := by
  -- A path in front is put before both spellings.
  cases path <;> simp [extendPath]

/-- The entries in dotted form are written like the entries themselves if each of them is. -/
theorem writeEntries_dotted_of_each {path : Option Text} {field : Text}
    {entries : List (Text × Condition)}
    (each : ∀ entry ∈ entries,
      Condition.writeEntry path (Condition.dottedEntry field entry.1 entry.2).1
        (Condition.dottedEntry field entry.1 entry.2).2 =
      Condition.writeEntry (some (extendPath path field)) entry.1 entry.2) :
    Condition.writeEntries path (Condition.dottedEntries field entries) =
      Condition.writeEntries (some (extendPath path field)) entries := by
  -- Each entry is written alike, so the parts are the same one by one.
  induction entries with
  | nil => simp only [Condition.dottedEntries, Condition.writeEntries]
  | cons entry rest ih =>
    rcases entry with ⟨key, condition⟩
    obtain ⟨head, tail⟩ := List.forall_mem_cons.mp each
    simp only [Condition.dottedEntries, Condition.writeEntries, ih tail]
    rw [head]

/-- An entry in dotted form is written like the entry itself under the field. -/
theorem writeEntry_dotted (path : Option Text) {field : Text}
    (plain : Connective.ofKey? field = none) (key : Text) (tree : Condition) :
    Condition.writeEntry path (Condition.dottedEntry field key tree).1
        (Condition.dottedEntry field key tree).2 =
      Condition.writeEntry (some (extendPath path field)) key tree := by
  -- A connective hands the field on to its entries, so the induction is on the tree.
  induction tree generalizing key with
  | scalar value =>
    cases named : Connective.ofKey? key with
    | some _ => simp [Condition.dottedEntry, Condition.writeEntry, named, plain]
    -- Any other key becomes the end of a dotted one, which extends the path as both would.
    | none =>
      simp [Condition.dottedEntry, Condition.writeEntry, named, Connective.ofKey?_dotted,
        extendPath_dotted]
  | list items _ _ =>
    cases named : Connective.ofKey? key with
    | some _ => simp [Condition.dottedEntry, Condition.writeEntry, named, plain]
    | none =>
      simp [Condition.dottedEntry, Condition.writeEntry, named, Connective.ofKey?_dotted,
        extendPath_dotted]
  | group entries ih =>
    cases named : Connective.ofKey? key with
    | some connective =>
      have inside := writeEntries_dotted_of_each fun entry there => ih entry there entry.1
      simp only [Condition.dottedEntry, Condition.writeEntry, named, inside]
    | none =>
      simp [Condition.dottedEntry, Condition.writeEntry, named, Connective.ofKey?_dotted,
        extendPath_dotted]

/-- The entries of a group in dotted form are written like those of the group under the field. -/
theorem writeEntries_dotted (path : Option Text) {field : Text}
    (plain : Connective.ofKey? field = none) (entries : List (Text × Condition)) :
    Condition.writeEntries path (Condition.dottedEntries field entries) =
      Condition.writeEntries (some (extendPath path field)) entries :=
  -- The law for one entry is applied to all of them.
  writeEntries_dotted_of_each fun entry _ => writeEntry_dotted path plain entry.1 entry.2

/--
Two trees of one shape that are written alike under every key that is meant for them.

Groups that are joined by `AND` alone need not have the same parts, as long as these come to the
same text.
-/
inductive WrittenAlike (joined : Bool) : Condition → Condition → Prop where
  | group {entries others : List (Text × Condition)}
    (text : ∀ path, Connective.and.join (Condition.writeEntries path entries) =
      Connective.and.join (Condition.writeEntries path others))
    (parts : joined = false → entries.length = others.length ∧
      ∀ path, Condition.writeEntries path entries = Condition.writeEntries path others) :
    WrittenAlike joined (.group entries) (.group others)
  | list {items others : List Condition}
    (scalars : Condition.scalarsOfEach items = Condition.scalarsOfEach others)
    (groups : items.any Condition.isGroup = others.any Condition.isGroup)
    (alternatives : Condition.writeAlternatives items = Condition.writeAlternatives others) :
    WrittenAlike joined (.list items) (.list others)

/-- An entry is written alike with each of two trees if its key is meant for them. -/
theorem WrittenAlike.writeEntry_eq {key : Text} {tree other : Condition}
    (alike : WrittenAlike (joinsByAnd key) tree other) (path : Option Text) :
    Condition.writeEntry path key tree = Condition.writeEntry path key other := by
  -- A list under a connective is written by its alternatives, and a group by its parts.
  cases alike with
  | group text parts =>
    simp only [Condition.writeEntry]
    cases named : Connective.ofKey? key with
    | none => exact text _
    | some connective =>
      cases connective with
      | and => simp only [text]
      | or =>
        -- Under OR the parts are joined differently, and this is the one case that asks for them.
        obtain ⟨_, same⟩ := parts (by simp [joinsByAnd, named])
        simp only [same]
  | @list items others scalars groups alternatives =>
    have membership (field : Text) :
        writeMembership field items = writeMembership field others := by
      rw [writeMembership, scalars, writeMembership]
    simp only [Condition.writeEntry, groups, alternatives, membership]

/-- The scalars of lists in a row are those of one list after those of the other. -/
theorem Condition.scalarsOfEach_append (front back : List Condition) :
    Condition.scalarsOfEach (front ++ back) =
      Condition.scalarsOfEach front ++ Condition.scalarsOfEach back := by
  -- The scalars are collected item by item.
  induction front with
  | nil => simp [Condition.scalarsOfEach]
  | cons item rest ih =>
    simp only [List.cons_append, Condition.scalarsOfEach, ih, List.append_assoc]

/-- The alternatives of lists in a row are those of one list after those of the other. -/
theorem Condition.writeAlternatives_append (front back : List Condition) :
    Condition.writeAlternatives (front ++ back) =
      Condition.writeAlternatives front ++ Condition.writeAlternatives back := by
  -- The alternatives are collected item by item, and only groups are some.
  induction front with
  | nil => simp [Condition.writeAlternatives]
  | cons item rest ih =>
    cases item with
    | scalar _ | list _ => simpa [Condition.writeAlternatives] using ih
    | group entries =>
      simp only [List.cons_append, Condition.writeAlternatives, ih]
      split <;> rfl

/-- A list is written alike with each of two items that are not told apart by their parts. -/
theorem WrittenAlike.item {joined : Bool} {tree other : Condition}
    (alike : WrittenAlike false tree other) (front back : List Condition) :
    WrittenAlike joined (.list (front ++ tree :: back)) (.list (front ++ other :: back)) := by
  -- Neither the scalars of the item nor its alternative depend on which of the two it is.
  have scalars : tree.scalars = other.scalars := by
    cases alike with
    | group _ _ => simp only [Condition.scalars]
    | list scalars _ _ => simp only [Condition.scalars, scalars]
  have isGroup : tree.isGroup = other.isGroup := by
    cases alike <;> rfl
  have alternative : Condition.writeAlternatives (tree :: back) =
      Condition.writeAlternatives (other :: back) := by
    cases alike with
    | group _ parts =>
      obtain ⟨length, same⟩ := parts rfl
      simp only [Condition.writeAlternatives, length, same]
    | list _ _ _ => simp only [Condition.writeAlternatives]
  refine .list ?_ ?_ ?_
  · -- The three parts of the item are put between the same neighbours.
    simp only [Condition.scalarsOfEach_append, Condition.scalarsOfEach, scalars]
  · simp only [List.any_append, List.any_cons, isGroup]
  · rw [Condition.writeAlternatives_append, alternative, Condition.writeAlternatives_append]

/-- A tree in which a group is replaced by its entries in dotted form is written alike. -/
theorem Dotted.writtenAlike {joined : Bool} {tree other : Condition}
    (step : Dotted joined tree other) : WrittenAlike joined tree other := by
  -- The induction follows the way from the tree down to the group that is replaced.
  induction step with
  | @here field entries front back plain =>
    refine .group (fun path => ?_) nofun
    have whole : Condition.writeEntry path field (.group entries) = Connective.and.join
        (Condition.writeEntries (some (extendPath path field)) entries) := by
      simp only [Condition.writeEntry, plain]
    simp only [Condition.writeEntries_append, Condition.writeEntries, whole,
      writeEntries_dotted path plain entries]
    -- The group is no part of the text if its entries are none, and else one that they make up.
    have held := writeEntries_writtenIf (some (extendPath path field)) entries
    have empty_iff := (held.join .and).empty_iff.trans held.eq_nil_iff.symm
    by_cases missing : Condition.writeEntries (some (extendPath path field)) entries = []
    · rw [if_pos (empty_iff.mpr missing), missing, List.append_nil]
    · rw [if_neg (fun empty => missing (empty_iff.mp empty)),
        Connective.and.join_splice _ _ missing]
  | @entry joined key tree other front back inside ih =>
    have same (path : Option Text) :
        Condition.writeEntries path (front ++ (key, tree) :: back) =
          Condition.writeEntries path (front ++ (key, other) :: back) := by
      simp only [Condition.writeEntries_append, Condition.writeEntries, ih.writeEntry_eq path]
    exact .group (fun path => congrArg _ (same path)) fun _ => ⟨by simp, same⟩
  | @item joined tree other front back inside ih => exact ih.item front back

/--
Nested groups and dotted keys are the same thing: a tree is written like the one in which a group
under a field is replaced by its entries in dotted form.
-/
theorem write_dotted {tree other : Condition} (step : Dotted true tree other) :
    other.write? = tree.write? := by
  -- The whole tree is a group without a path, or it writes nothing.
  cases step.writtenAlike with
  | group text _ => exact congrArg some (text none).symm
  | list _ _ _ => rfl

/-- A group inside an alternative, with a connective over a group, a list and a scalar in it. -/
theorem write_dotted_alternative :
    let entries : List (Text × Condition) := [
      ("c".toList, .scalar .null),
      ("$OR".toList, .group [("d".toList, .scalar (.int 1)), ("$and".toList, .list [])]),
      ("$or".toList, .scalar (.int 2))]
    let under (inside : List (Text × Condition)) : Condition :=
      .group [("$or".toList, .list [.group [("a".toList, .group inside)]])]
    let nested := under [("b".toList, .group entries), ("e".toList, .group [])]
    let dotted := under [
      ("b.c".toList, .scalar .null),
      ("$OR".toList, .group [("b.d".toList, .scalar (.int 1)), ("b".toList, .list [])]),
      ("b".toList, .scalar (.int 2)), ("e".toList, .group [])]
    Dotted true nested dotted ∧ dotted.write? = nested.write? := by
  intro entries under nested dotted
  -- The replacement is inside the first alternative, and everything around it stays as it is.
  have field : joinsByAnd "a".toList = true := by decide
  have replaced : Dotted (joinsByAnd "a".toList)
      (.group [("b".toList, .group entries), ("e".toList, .group [])])
      (.group [("b.c".toList, .scalar .null),
        ("$OR".toList, .group [("b.d".toList, .scalar (.int 1)), ("b".toList, .list [])]),
        ("b".toList, .scalar (.int 2)), ("e".toList, .group [])]) := by
    rw [field]
    exact @Dotted.here "b".toList entries [] [("e".toList, .group [])] (by decide)
  -- From the innermost entry outwards, a field, an item and a connective are passed.
  have step : Dotted true nested dotted :=
    @Dotted.entry true "$or".toList _ _ [] [] (@Dotted.item _ _ _ [] []
      (@Dotted.entry false "a".toList _ _ [] [] replaced))
  exact ⟨step, write_dotted step⟩

end SqlWriter
