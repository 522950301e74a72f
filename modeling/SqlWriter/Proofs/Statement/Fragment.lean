import SqlWriter.Proofs.Condition.Masked
import SqlWriter.Statement.Change

/-! Fragments of statements that values are written into, which no text in quotes gets out of. -/

namespace SqlWriter

/-- A field whose value, if it has one, is plain. -/
def HasPlainValue (field : Text × Option Scalar) : Prop :=
  ∀ value ∈ field.2, value.IsPlain

/-- The text of the value of a field, if it stands in quotes. -/
def quotedField (field : Text × Option Scalar) : List Text :=
  (field.2.bind Scalar.quotedText?).toList

/-- A field with nothing in the place of a text in quotes. -/
def maskedField (field : Text × Option Scalar) : Text × Option Scalar :=
  (field.1, field.2.map (Scalar.withQuoted fun _ => []))

/-- A masked field keeps its key. -/
@[simp] theorem maskedField_fst (field : Text × Option Scalar) : (maskedField field).1 = field.1 :=
  -- Only the value beside the key is replaced.
  rfl

/-- A record with nothing in the place of the texts in quotes. -/
def Record.masked (row : Record) : Record where
  fields := row.fields.map maskedField
  distinct := by
    rw [List.map_map]
    exact row.distinct

/-- The fields of a masked record that are written are the masked fields. -/
theorem Record.written_masked (row : Record) (ignoreUndefined : Bool) :
    row.masked.written ignoreUndefined = (row.written ignoreUndefined).map maskedField := by
  -- Masking keeps what is defined, so both rows write the same fields.
  simp [Record.written, Record.masked, List.filter_map, Function.comp_def, maskedField]

/-- The value of a field has the text of that value. -/
theorem fieldValue_lexesLike {field : Text × Option Scalar} (plain : HasPlainValue field) :
    LexesLike (fieldValue field.2) (fieldValue (maskedField field).2) [] (quotedField field) := by
  -- A field is empty or holds a value, and only the value has something to mask.
  rcases field with ⟨key, _ | value⟩
  · exact .self (lexes_word "NULL".toList (by decide) (by decide) (by decide))
  · have empty : Literal.ofText [] = .text [] := by decide +kernel
    exact (plain value rfl).lexesLike fun _ => empty

/-- The parts of statements that the values of records and conditions are written into. -/
inductive Fragment where
  | assignments (row : Record) (ignoreUndefined : Bool)
  | tuples (rows : List Record) (ignoreUndefined : Bool)
  | condition (tree : Condition)

namespace Fragment

/-- A fragment as it is written, unless it is a condition that is no group. -/
def write? : Fragment → Option Text
  | assignments row ignoreUndefined => some (SqlWriter.assignments row ignoreUndefined)
  | tuples rows ignoreUndefined => some (valueTuples rows ignoreUndefined)
  | condition tree => tree.write?

/-- What is written in the fragment are plain names and plain values. -/
def IsPlain : Fragment → Prop
  | assignments row ignoreUndefined =>
    ∀ field ∈ row.written ignoreUndefined, IsPlainName field.1 ∧ HasPlainValue field
  | tuples rows ignoreUndefined =>
    ∀ row ∈ rows, ∀ field ∈ row.written ignoreUndefined, HasPlainValue field
  | condition tree => ∀ atom ∈ tree.atoms, atom.IsPlain

/-- The names on the paths of the keys and fields that are written. -/
def names : Fragment → List Text
  | assignments row ignoreUndefined =>
    (row.written ignoreUndefined).flatMap fun field => field.1.splitOn '.'
  | tuples _ _ => []
  | condition tree => tree.atoms.flatMap Atom.names

/-- The texts that are written in quotes. -/
def quotedTexts : Fragment → List Text
  | assignments row ignoreUndefined => (row.written ignoreUndefined).flatMap quotedField
  | tuples rows ignoreUndefined =>
    rows.flatMap fun row => (row.written ignoreUndefined).flatMap quotedField
  | condition tree => tree.atoms.flatMap Atom.quotedTexts

/-- The fragment with samples in the place of the texts in quotes. -/
def masked : Fragment → Fragment
  | assignments row ignoreUndefined => assignments row.masked ignoreUndefined
  | tuples rows ignoreUndefined => tuples (rows.map Record.masked) ignoreUndefined
  | condition tree => condition tree.masked

end Fragment

/-- The assignments of a record have the names of its keys and the texts of its values. -/
theorem assignments_lexesLike {row : Record} {ignoreUndefined : Bool}
    (plain : (Fragment.assignments row ignoreUndefined).IsPlain) :
    LexesLike (assignments row ignoreUndefined) (assignments row.masked ignoreUndefined)
      (Fragment.assignments row ignoreUndefined).names
      (Fragment.assignments row ignoreUndefined).quotedTexts := by
  -- Each assignment is a key with a value behind the sign.
  have each := EachLexesLike.of_forall fun field member => by
    obtain ⟨named, valued⟩ := plain field member
    exact named.lexesLike.between separatesSilently_equals (fieldValue_lexesLike valued)
  have joined := each.intercalate separatesSilently_comma
  simp only [List.append_nil, List.nil_append] at joined
  simpa [assignments_eq, fieldKey, commaJoined, Record.written_masked, Fragment.names,
    Fragment.quotedTexts, Function.comp_def] using joined

/-- The tuples of several records have no names, and the texts of all values. -/
theorem tuples_lexesLike {rows : List Record} {ignoreUndefined : Bool}
    (plain : (Fragment.tuples rows ignoreUndefined).IsPlain) :
    LexesLike (valueTuples rows ignoreUndefined)
      (valueTuples (rows.map Record.masked) ignoreUndefined)
      (Fragment.tuples rows ignoreUndefined).names
      (Fragment.tuples rows ignoreUndefined).quotedTexts := by
  -- The values of a row are joined first, and then the tuples, by the same separator.
  have tuples := EachLexesLike.of_forall_nameless fun row member => by
    have each := EachLexesLike.of_forall_nameless fun field among =>
      fieldValue_lexesLike (plain row member field among)
    exact (each.intercalate separatesSilently_comma).inParens
  have joined := tuples.intercalate separatesSilently_comma
  simpa [valueTuples, valueTuple_eq, commaJoined, Record.written_masked, Fragment.names,
    Fragment.quotedTexts, Function.comp_def] using joined

/-- The condition of a tree has the names and texts of its atoms. -/
theorem condition_lexesLike {tree : Condition} (plain : (Fragment.condition tree).IsPlain)
    {sql : Text} (written : tree.write? = some sql) :
    ∃ sample, tree.masked.write? = some sample ∧
      LexesLike sql sample (Fragment.condition tree).names
        (Fragment.condition tree).quotedTexts := by
  cases tree with
  | scalar value => cases written
  | list items => cases written
  | group entries =>
    cases written
    -- A whole tree is a group outside every field.
    have each := writeEntries_lexesLike (fun entry _ => writeEntry_lexesLike entry.2 none entry.1)
      plain
    exact ⟨_, rfl, each.intercalate Connective.and.separatesSilently⟩

/-- A plain fragment has the names and texts that are written in it, and a sample of its own. -/
theorem Fragment.IsPlain.lexesLike {fragment : Fragment} (plain : fragment.IsPlain) {sql : Text}
    (written : fragment.write? = some sql) :
    ∃ sample, fragment.masked.write? = some sample ∧
      LexesLike sql sample fragment.names fragment.quotedTexts := by
  -- Each kind of fragment has its own law, and the third may write nothing.
  cases fragment with
  | assignments row ignoreUndefined =>
    cases written
    exact ⟨_, rfl, assignments_lexesLike plain⟩
  | tuples rows ignoreUndefined =>
    cases written
    exact ⟨_, rfl, tuples_lexesLike plain⟩
  | condition tree => exact condition_lexesLike plain written

/-- A fragment is written if its masked one is. -/
theorem Fragment.isSome_write?_masked (fragment : Fragment) :
    fragment.masked.write?.isSome = fragment.write?.isSome := by
  -- Masking keeps the shape of a tree, and a row is always written.
  cases fragment with
  | assignments row ignoreUndefined => rfl
  | tuples rows ignoreUndefined => rfl
  | condition tree => cases tree <;> rfl

/--
The texts in a plain fragment stay inside their quotes, and the names inside their backticks.

The written fragment is cut into lexemes, whose names and literals are the ones written, in order.
Fragments that differ in the texts in quotes alone are cut into the same lexemes, apart from the
texts in their literals.
-/
theorem lex_plain_fragment {fragment : Fragment} (plain : fragment.IsPlain) {sql : Text}
    (written : fragment.write? = some sql) :
    ∃ lexemes, lex sql = some lexemes ∧ lexemes.filterMap Lexeme.name? = fragment.names ∧
      lexemes.filterMap Lexeme.literal? = fragment.quotedTexts ∧
      ∀ other : Fragment, other.IsPlain → other.masked = fragment.masked →
        ∃ otherSql others, other.write? = some otherSql ∧ lex otherSql = some others ∧
          others.map Lexeme.skeleton = lexemes.map Lexeme.skeleton := by
  obtain ⟨sample, sampleWritten, lexemes, sampled, lexed, sampleLexed, same, named, quoted⟩ :=
    plain.lexesLike written
  refine ⟨lexemes, lexed.lex_eq, named, quoted, fun other otherPlain masked => ?_⟩
  -- Both fragments have the skeleton of the one that both are masked to.
  have present : other.write?.isSome = true := by
    rw [← other.isSome_write?_masked, masked, sampleWritten]
    rfl
  -- The other fragment is written, and its lexemes are those of its own sample.
  obtain ⟨otherSql, otherWritten⟩ := Option.isSome_iff_exists.mp present
  obtain ⟨otherSample, otherSampleWritten, others, otherSampled, otherLexed, otherSampleLexed,
    otherSame, _, _⟩ := otherPlain.lexesLike otherWritten
  rw [masked, sampleWritten] at otherSampleWritten
  cases otherSampleWritten
  have shared : otherSampled = sampled :=
    Option.some.inj (otherSampleLexed.lex_eq.symm.trans sampleLexed.lex_eq)
  exact ⟨otherSql, others, otherWritten, otherLexed.lex_eq, by rw [otherSame, shared, same]⟩

/-- A text that tries to get out of its quotes stays in them as a harmless one does. -/
theorem lex_plain_fragment_hostile :
    ∃ lexemes others, lex "`t`.`name` = 'x\\' OR \\'1\\'=\\'1'".toList = some lexemes ∧
      lexemes.filterMap Lexeme.name? = ["t".toList, "name".toList] ∧
      lexemes.filterMap Lexeme.literal? = ["x' OR '1'='1".toList] ∧
      lex "`t`.`name` = 'n'".toList = some others ∧
      others.map Lexeme.skeleton = lexemes.map Lexeme.skeleton := by
  -- The name is plain and the two texts are no calls, so both trees are plain.
  have name : IsPlainName "t.name".toList :=
    ⟨⟨by decide +kernel, by decide +kernel, by decide +kernel, by decide +kernel,
      by decide +kernel⟩, by decide +kernel⟩
  have plain : ∀ text, functionCall? text = none →
      (Fragment.condition (.group [("t.name".toList, .scalar (.text text))])).IsPlain := by
    rintro text noCall atom member
    cases List.mem_singleton.mp member
    exact ⟨name, noCall⟩
  have written : (Fragment.condition
      (.group [("t.name".toList, .scalar (.text "x' OR '1'='1".toList))])).write? =
        some "`t`.`name` = 'x\\' OR \\'1\\'=\\'1'".toList := by decide +kernel
  obtain ⟨lexemes, lexed, named, quoted, alike⟩ :=
    lex_plain_fragment (plain _ (by decide +kernel)) written
  -- The two texts mask to the same empty text, since neither is a pattern.
  have hostile : (Scalar.text "x' OR '1'='1".toList).withQuoted patternSample = .text [] := by
    decide +kernel
  have harmless : (Scalar.text "n".toList).withQuoted patternSample = .text [] := by
    decide +kernel
  obtain ⟨otherSql, others, otherWritten, otherLexed, same⟩ :=
    alike _ (plain "n".toList (by decide +kernel)) (by
      simp only [Fragment.masked, Condition.masked, Condition.maskedEntries, hostile, harmless])
  -- The harmless text is written the same way, with its own literal.
  have shown : (Fragment.condition
      (.group [("t.name".toList, .scalar (.text "n".toList))])).write? =
        some "`t`.`name` = 'n'".toList := by decide +kernel
  cases otherWritten.symm.trans shown
  refine ⟨lexemes, others, lexed, ?_, ?_, otherLexed, same⟩
  · rw [named]
    decide +kernel
  · rw [quoted]
    decide +kernel

end SqlWriter
