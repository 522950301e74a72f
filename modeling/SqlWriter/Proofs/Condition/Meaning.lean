import SqlWriter.Proofs.Condition.Conjunction
import SqlWriter.Proofs.Condition.Held

/-! The meaning of a tree of conditions, and that its text reads back with that meaning. -/

namespace SqlWriter

mutual

/-- The truth values of the entries of a group under a path, without those that hold nothing. -/
def Condition.entryTruths (assignment : Assignment) (path : Option Text) :
    List (Text × Condition) → List Bool
  | [] => []
  | (key, condition) :: rest =>
    let more := Condition.entryTruths assignment path rest
    -- What writes nothing has no truth to ask for.
    if condition.entryHolds path.isSome key then
      Condition.entryTruth assignment path key condition :: more
    else more

/-- The truth value of an entry, whose key is a connective or a field. -/
def Condition.entryTruth (assignment : Assignment) (path : Option Text) (key : Text) :
    Condition → Bool
  | .group entries =>
    -- All that stands inside a field has to hold, and a connective says itself what has to.
    match Connective.ofKey? key with
    | some connective => connective.truth (Condition.entryTruths assignment path entries)
    | none => Connective.and.truth
      (Condition.entryTruths assignment (some (extendPath path key)) entries)
  | .list items =>
    match Connective.ofKey? key, path with
    | some connective, none =>
      -- A list without groups is malformed, and no row meets it.
      items.any Condition.isGroup && connective.truth (Condition.groupTruths assignment items)
    | some _, some field => (Atom.ofItems field items).truth assignment
    | none, _ => (Atom.ofItems (extendPath path key) items).truth assignment
  | .scalar value =>
    match Connective.ofKey? key, path with
    | some _, none => false
    | some _, some field => assignment.comparison field value
    | none, _ => assignment.comparison (extendPath path key) value

/-- The truth values of the groups in a list, each of which asks for all of its entries. -/
def Condition.groupTruths (assignment : Assignment) : List Condition → List Bool
  | [] => []
  | .group entries :: rest =>
    let more := Condition.groupTruths assignment rest
    -- What writes nothing has no truth to ask for.
    if Condition.entriesHold false entries then
      Connective.and.truth (Condition.entryTruths assignment none entries) :: more
    else more
  | _ :: rest => Condition.groupTruths assignment rest

end

/-- A group that holds no condition has no truth values to combine. -/
theorem entryTruths_eq_nil {assignment : Assignment} (path : Option Text)
    {entries : List (Text × Condition)}
    (lost : Condition.entriesHold path.isSome entries = false) :
    Condition.entryTruths assignment path entries = [] := by
  -- Nothing holds in any entry, so that none of them has a truth to ask for.
  induction entries with
  | nil => simp [Condition.entryTruths]
  | cons entry rest ih =>
    rcases entry with ⟨key, condition⟩
    simp only [Condition.entriesHold, Bool.or_eq_false_iff] at lost
    simp [Condition.entryTruths, lost.1, ih lost.2]

/-- Whether some conjunction spells a text and has a truth value under every assignment. -/
def ReadsAs (sql : Text) (truth : Assignment → Bool) : Prop :=
  ∃ part : Conjunction, part.sql = sql ∧ ∀ assignment, part.truth assignment = truth assignment

/-- A condition without a connective reads as itself. -/
theorem Atom.readsAs (condition : Atom) : ReadsAs condition.write condition.truth :=
  -- A single atom is its own conjunction.
  ⟨.ofAtom condition, by simp, by simp⟩

/-- A comparison reads as the comparison that it is. -/
theorem writeComparison_readsAs (field : Text) (value : Scalar) :
    ReadsAs (writeComparison field value) fun assignment => assignment.comparison field value :=
  -- A comparison is one atom.
  (Atom.comparison field value).readsAs

/-- A membership reads as the membership that it is, or as false if there are no values. -/
theorem writeMembership_readsAs (field : Text) (items : List Condition) :
    ReadsAs (writeMembership field items)
      fun assignment => (Atom.ofItems field items).truth assignment := by
  -- A membership is written by its scalars, and the atom of the items has the same ones.
  rw [← Atom.write_ofItems]
  exact (Atom.ofItems field items).readsAs

/-- The condition that no row meets reads as false. -/
theorem neverTrue_readsAs : ReadsAs neverTrue fun _ => false :=
  -- The comparison that is never true is one atom.
  Atom.never.readsAs

/-- Whether conjunctions spell texts and have truth values, one by one. -/
def EachReadsAs (sqls : List Text) (truths : Assignment → List Bool) : Prop :=
  ∃ parts : List Conjunction, parts.map Conjunction.sql = sqls ∧
    ∀ assignment, parts.map (Conjunction.truth assignment) = truths assignment

/-- No texts have no truth values. -/
theorem EachReadsAs.nil : EachReadsAs [] fun _ => [] :=
  -- There is nothing to read and nothing to ask for.
  ⟨[], rfl, fun _ => rfl⟩

/-- A text in front of others has its truth value in front of theirs. -/
theorem EachReadsAs.cons {sql : Text} {truth : Assignment → Bool} {sqls : List Text}
    {truths : Assignment → List Bool} (head : ReadsAs sql truth) (tail : EachReadsAs sqls truths) :
    EachReadsAs (sql :: sqls) fun assignment => truth assignment :: truths assignment := by
  -- Each text is read by its own conjunction.
  obtain ⟨part, spelled, valued⟩ := head
  obtain ⟨parts, spelledTail, valuedTail⟩ := tail
  exact ⟨part :: parts, by simp [spelled, spelledTail], by simp [valued, valuedTail]⟩

/-- Where there is a text, there is a first conjunction. -/
theorem EachReadsAs.exists_cons {sqls : List Text} {truths : Assignment → List Bool}
    (each : EachReadsAs sqls truths) (present : sqls ≠ []) :
    ∃ first more, (first :: more).map Conjunction.sql = sqls ∧
      ∀ assignment, (first :: more).map (Conjunction.truth assignment) = truths assignment := by
  -- There is a first text, and so there is a first part to join with the others.
  obtain ⟨parts, spelled, valued⟩ := each
  cases parts with
  | nil => exact absurd spelled.symm present
  | cons first more => exact ⟨first, more, spelled, valued⟩

/-- Texts that `AND` joins read as that connective over their truth values. -/
theorem EachReadsAs.joined {sqls : List Text} {truths : Assignment → List Bool}
    (each : EachReadsAs sqls truths) (present : sqls ≠ []) :
    ReadsAs (Connective.and.join sqls)
      fun assignment => Connective.and.truth (truths assignment) := by
  -- Joining texts that are read alike gives a text that is read as their conjunction.
  obtain ⟨first, more, spelled, valued⟩ := each.exists_cons present
  refine ⟨.joined first more, ?_, fun assignment => ?_⟩
  · rw [Conjunction.sql_joined, spelled]
  · rw [Conjunction.truth_joined, valued]

/-- Texts in parentheses read as the connective between them over their truth values. -/
theorem EachReadsAs.grouped (connective : Connective) {sqls : List Text}
    {truths : Assignment → List Bool} (each : EachReadsAs sqls truths) (present : sqls ≠ []) :
    ReadsAs (inParens (connective.join sqls))
      fun assignment => connective.truth (truths assignment) := by
  -- The parentheses keep what is inside together, whatever stands around them.
  obtain ⟨first, more, spelled, valued⟩ := each.exists_cons present
  refine ⟨.grouped connective first more, ?_, fun assignment => ?_⟩
  · rw [Conjunction.sql_grouped, spelled]
  · rw [Conjunction.truth_grouped, valued]

/-- Parentheses around a condition leave its truth value as it is. -/
theorem ReadsAs.inParens {sql : Text} {truth : Assignment → Bool} (read : ReadsAs sql truth) :
    ReadsAs (inParens sql) truth := by
  -- Parentheses around one text are the group of that text.
  have single := (EachReadsAs.cons read .nil).grouped .and (by simp)
  simpa [Connective.truth] using single

/-- The written entries of a group read one by one, as far as they hold a condition. -/
theorem writeEntries_eachReadsAs {path : Option Text} {entries : List (Text × Condition)}
    (each : ∀ entry ∈ entries, entry.2.entryHolds path.isSome entry.1 = true →
      ReadsAs (Condition.writeEntry path entry.1 entry.2)
        fun assignment => entry.2.entryTruth assignment path entry.1) :
    EachReadsAs (Condition.writeEntries path entries)
      fun assignment => Condition.entryTruths assignment path entries := by
  -- An entry is left out of the text exactly where it is left out of the truth values.
  induction entries with
  | nil => exact .nil
  | cons entry rest ih =>
    rcases entry with ⟨key, condition⟩
    obtain ⟨head, tail⟩ := List.forall_mem_cons.mp each
    have written := writeEntry_held condition path key
    simp only [Condition.writeEntries, Condition.entryTruths]
    cases held : condition.entryHolds path.isSome key with
    | false => simpa [written.empty_iff, held] using ih tail
    | true => simpa [written.empty_iff, held] using EachReadsAs.cons (head held) (ih tail)

/-- The entries of a group that holds a condition read as all of them together. -/
theorem join_writeEntries_readsAs (path : Option Text) {entries : List (Text × Condition)}
    (each : ∀ entry ∈ entries, entry.2.entryHolds path.isSome entry.1 = true →
      ReadsAs (Condition.writeEntry path entry.1 entry.2)
        fun assignment => entry.2.entryTruth assignment path entry.1)
    (held : Condition.entriesHold path.isSome entries = true) :
    ReadsAs (Connective.and.join (Condition.writeEntries path entries))
      fun assignment => Connective.and.truth (Condition.entryTruths assignment path entries) := by
  -- A held entry writes something, so that there is a part to read.
  have present : Condition.writeEntries path entries ≠ [] := by
    simp [(writeEntries_writtenIf path entries).eq_nil_iff, held]
  exact (writeEntries_eachReadsAs each).joined present

/-- The written groups of a list read one by one, as far as they hold a condition. -/
theorem writeAlternatives_eachReadsAs {items : List Condition}
    (each : ∀ entries, Condition.group entries ∈ items →
      Condition.entriesHold false entries = true →
      ReadsAs (Connective.and.join (Condition.writeEntries none entries))
        fun assignment => Connective.and.truth (Condition.entryTruths assignment none entries)) :
    EachReadsAs (Condition.writeAlternatives items)
      fun assignment => Condition.groupTruths assignment items := by
  induction items with
  | nil => exact .nil
  | cons item rest ih =>
    have tail := ih fun entries member => each entries (by simp [member])
    cases item with
    | scalar value => exact tail
    | list items => exact tail
    | group entries =>
      have written := (writeEntries_writtenIf none entries).join .and
      simp only [Condition.writeAlternatives, Condition.groupTruths]
      cases held : Condition.entriesHold false entries with
      -- A group that asks for nothing leaves no alternative behind.
      | false => simpa [written.empty_iff, held] using tail
      | true =>
        have head := each entries (by simp) held
        -- Only a group of several entries has parentheses of its own.
        have alternative : ReadsAs (if 1 < entries.length
            then inParens (Connective.and.join (Condition.writeEntries none entries))
            else Connective.and.join (Condition.writeEntries none entries))
            fun assignment =>
              Connective.and.truth (Condition.entryTruths assignment none entries) := by
          split
          · exact head.inParens
          · exact head
        simpa [written.empty_iff, held] using EachReadsAs.cons alternative tail

/-- Alternatives read as the connective between them, of which a single one has no need. -/
theorem EachReadsAs.alternatives (connective : Connective) {sqls : List Text}
    {truths : Assignment → List Bool} (each : EachReadsAs sqls truths) (present : sqls ≠ []) :
    ReadsAs (connective.joinAlternatives sqls)
      fun assignment => connective.truth (truths assignment) := by
  rcases sqls with _ | ⟨only, _ | ⟨next, rest⟩⟩
  · exact absurd rfl present
  · -- Either connective over a single alternative is that alternative.
    obtain ⟨parts, spelled, valued⟩ := each
    obtain ⟨part, rfl, rfl⟩ := List.map_eq_singleton_iff.mp spelled
    refine ⟨part, rfl, fun assignment => ?_⟩
    simp only [← valued assignment]
    cases connective <;> simp [Connective.truth]
  · exact each.grouped connective present

/-- A list with a group that holds a condition reads as the connective over such groups. -/
theorem joinAlternatives_readsAs (connective : Connective) {items : List Condition}
    (each : ∀ entries, Condition.group entries ∈ items → ∀ entry ∈ entries,
      entry.2.entryHolds false entry.1 = true → ReadsAs (Condition.writeEntry none entry.1 entry.2)
        fun assignment => entry.2.entryTruth assignment none entry.1)
    (held : Condition.groupsHold items = true) :
    ReadsAs (connective.joinAlternatives (Condition.writeAlternatives items))
      fun assignment => connective.truth (Condition.groupTruths assignment items) := by
  -- The groups of the list are trees of their own, without a field in scope.
  have groups := writeAlternatives_eachReadsAs fun entries member =>
    join_writeEntries_readsAs none (each entries member)
  have present : Condition.writeAlternatives items ≠ [] := by
    simp [(writeAlternatives_writtenIf items).eq_nil_iff, held]
  exact groups.alternatives connective present

/-- An entry that holds a condition reads as its meaning, under every path and key. -/
theorem writeEntry_readsAs (tree : Condition) (path : Option Text) (key : Text)
    (held : tree.entryHolds path.isSome key = true) :
    ReadsAs (Condition.writeEntry path key tree)
      fun assignment => tree.entryTruth assignment path key := by
  -- The path grows on the way into a tree, so the induction is on the tree under every path.
  induction tree generalizing path key with
  | scalar value =>
    simp only [Condition.writeEntry, Condition.entryTruth]
    cases Connective.ofKey? key with
    | none => exact writeComparison_readsAs _ value
    | some connective =>
      cases path with
      | none => exact neverTrue_readsAs
      | some field => exact writeComparison_readsAs field value
  | list items _ groups =>
    simp only [Condition.writeEntry, Condition.entryTruth, Condition.entryHolds] at held ⊢
    cases named : Connective.ofKey? key with
    | none => exact writeMembership_readsAs (extendPath path key) items
    | some connective =>
      cases path with
      | some field => exact writeMembership_readsAs field items
      | none =>
        -- A list without groups is malformed under a connective.
        cases present : items.any Condition.isGroup with
        | false => simpa using neverTrue_readsAs
        | true =>
          have holds : Condition.groupsHold items = true := by
            simpa [named, present] using held
          simpa using joinAlternatives_readsAs connective
            (fun entries member entry among => groups entries member entry among none _) holds
  | group entries ih =>
    simp only [Condition.writeEntry, Condition.entryTruth, Condition.entryHolds] at held ⊢
    cases named : Connective.ofKey? key with
    -- A field extends the path of its entries, and a connective leaves it.
    | none =>
      have holds : Condition.entriesHold (some (extendPath path key)).isSome entries = true := by
        simpa [named] using held
      exact join_writeEntries_readsAs _ (fun entry member => ih entry member _ entry.1) holds
    | some connective =>
      have holds : Condition.entriesHold path.isSome entries = true := by
        simpa [named] using held
      have entriesWritten := writeEntries_writtenIf path entries
      -- Some entry is written, so the parentheses are put around the join.
      have visible : connective.join (Condition.writeEntries path entries) ≠ [] := by
        simp [(entriesWritten.join connective).empty_iff, holds]
      simp only [wrapped, if_neg visible]
      have present : Condition.writeEntries path entries ≠ [] := by
        simp [entriesWritten.eq_nil_iff, holds]
      exact (writeEntries_eachReadsAs fun entry member => ih entry member path entry.1).grouped
        connective present

/--
The text of a tree spells tokens that read back, with `AND` before `OR`, as what the tree means.

Under every assignment a whole tree means that all of its entries are true, as far as they hold a
condition. No `OR` of the tokens stands outside parentheses.
-/
theorem write_reads_as_meaning (entries : List (Text × Condition)) :
    ∃ tokens formula, (Condition.group entries).write? = some (spell tokens) ∧
      readTokens tokens = some formula ∧ orsEnclosed 0 tokens = true ∧
      ∀ assignment, formula.truth assignment =
        Connective.and.truth (Condition.entryTruths assignment none entries) := by
  cases held : Condition.entriesHold false entries with
  | false =>
    -- Nothing is written for a tree that asks for nothing.
    have empty : Condition.writeEntries none entries = [] :=
      (writeEntries_writtenIf none entries).eq_nil_iff.mpr held
    refine ⟨[], .joined .and [], ?_, rfl, rfl, fun assignment => ?_⟩
    · rw [Condition.write?, empty]
      rfl
    · rw [entryTruths_eq_nil none held]
      simp [Formula.truth]
  | true =>
    -- The part that is written brings its tokens and its formula along.
    obtain ⟨part, spelled, valued⟩ := join_writeEntries_readsAs none
      (fun entry _ => writeEntry_readsAs entry.2 none entry.1) held
    obtain ⟨formula, read, same⟩ := part.readTokens_tokens
    refine ⟨part.tokens, formula, ?_, read, ?_, fun assignment => ?_⟩
    · rw [Condition.write?, ← spelled]
      rfl
    · simpa [orsEnclosed] using part.enclosed 0 []
    · rw [same, valued]

end SqlWriter
