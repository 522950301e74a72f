import Mathlib.Data.List.Forall2
import SqlWriter.Proofs.Columns.Fault
import SqlWriter.Proofs.Shape.Commas
import SqlWriter.Proofs.Text.Joined

/-! Texts of columns in a list, against one text of them all with commas between. -/

namespace SqlWriter

section walks

variable {ε α β γ : Type}

/-- A walk along a list that succeeds has the result of its step at each item. -/
theorem forall₂_of_mapM_eq_ok {step : α → Except ε β} {items : List α} {results : List β}
    (found : items.mapM step = .ok results) :
    List.Forall₂ (fun item result => step item = .ok result) items results := by
  -- A result of the whole list comes from one result for each item.
  induction items generalizing results with
  | nil =>
    cases found
    exact .nil
  | cons item rest ih =>
    rw [List.mapM_cons] at found
    obtain ⟨result, first, further⟩ := bind_eq_ok_iff.mp found
    obtain ⟨more, others, last⟩ := bind_eq_ok_iff.mp further
    cases last
    exact .cons first (ih others)

/-- A walk along a list whose step succeeds at each item succeeds with all of their results. -/
theorem mapM_eq_ok_map {step : α → Except ε β} {result : α → β} {items : List α}
    (each : ∀ item ∈ items, step item = .ok (result item)) :
    items.mapM step = .ok (items.map result) := by
  -- Each step succeeds, and the results are collected in order.
  induction items with
  | nil => rfl
  | cons item rest ih =>
    obtain ⟨own, others⟩ := List.forall_mem_cons.mp each
    rw [List.mapM_cons, own, ih others]
    rfl

/-- A walk along the parts of all items is a walk along the parts of one item after the other. -/
theorem mapM_flatMap (items : List α) (parts : α → List β) (step : β → Except ε γ) :
    (items.flatMap parts).mapM step =
      (items.mapM fun item => (parts item).mapM step).map List.flatten := by
  induction items with
  | nil => rfl
  | cons item rest ih =>
    rw [List.flatMap_cons, List.mapM_append, List.mapM_cons, ih]
    -- The first error on the way is that of the item, or else that of the rest.
    cases (parts item).mapM step with
    | error error => rfl
    | ok results => cases rest.mapM fun item => (parts item).mapM step <;> rfl

/-- The results of a walk may be changed one by one, or all at the end. -/
theorem mapM_map_result (items : List α) (step : α → Except ε β) (change : β → γ) :
    (items.mapM fun item => (step item).map change) = (items.mapM step).map (List.map change) := by
  -- The change is made to each result, and an error stays what it is.
  induction items with
  | nil => rfl
  | cons item rest ih =>
    rw [List.mapM_cons, List.mapM_cons, ih]
    cases step item with
    | error error => rfl
    | ok result => cases rest.mapM step <;> rfl

end walks

/-- The columns of a text as they are written, one by one. -/
def writtenColumns (table : Option Text) (text : Text) : Except Error (List Text) :=
  (splitColumns text).mapM fun column => writeColumn (qualify table column)

/-- Columns are written one by one, and then joined. -/
theorem writeColumns_eq (table : Option Text) (columns : List Text) :
    writeColumns table columns =
      (columns.mapM fun column => writeColumn (qualify table column)).map commaJoined := by
  -- Joining is the last step, which cannot fail.
  rw [writeColumns]
  cases columns.mapM fun column => writeColumn (qualify table column) <;> rfl

/-- The columns of several texts are written text by text, and joined as if they came from one. -/
theorem writeColumns_flatMap (table : Option Text) (texts : List Text) :
    writeColumns table (texts.flatMap splitColumns) =
      (texts.mapM (writtenColumns table)).map fun groups => commaJoined groups.flatten := by
  -- A group of pieces is joined in one step or in two, and an error is passed on.
  rw [writeColumns_eq, mapM_flatMap]
  unfold writtenColumns
  cases texts.mapM fun text => (splitColumns text).mapM fun column =>
    writeColumn (qualify table column) <;> rfl

/-- Texts as specifications one after another are written as their columns, joined text by text. -/
theorem Columns.writeEach_texts (table : Option Text) (texts : List Text) :
    Columns.writeEach table (texts.map .text) =
      texts.mapM fun text => (writtenColumns table text).map commaJoined := by
  -- Each text is written as the group of its own pieces.
  induction texts with
  | nil => rfl
  | cons text rest ih =>
    rw [List.map_cons, Columns.writeEach, List.mapM_cons, ih, Columns.write, writeColumns_eq]
    rfl

/-- The texts of a list are written text by text, and each of them is joined on its own. -/
theorem Columns.write_list_texts (table : Option Text) (texts : List Text) :
    (Columns.list (texts.map .text)).write table =
      (texts.mapM (writtenColumns table)).map fun groups =>
        commaJoined (groups.map commaJoined) := by
  -- No text is a sample record, so every item of the list counts.
  have unled : ∀ sample rest, texts.map Columns.text ≠ .record sample :: rest := by
    cases texts <;> simp
  rw [Columns.write_list_each table unled, Columns.writeEach_texts, mapM_map_result]
  cases texts.mapM (writtenColumns table) <;> rfl

/-- A text has no written columns exactly if it has no columns at all. -/
theorem writtenColumns_ne_nil_iff {table : Option Text} {text : Text} {group : List Text}
    (written : writtenColumns table text = .ok group) : group ≠ [] ↔ isVacant text = false := by
  -- There are as many written columns as there are columns in the text.
  have lengths := (forall₂_of_mapM_eq_ok written).length_eq
  rw [ne_eq, ← List.length_eq_zero_iff, ← lengths, List.length_eq_zero_iff, splitColumns_eq_nil_iff,
    Bool.not_eq_true]

/-- Of the groups that texts are written as, none is empty exactly if each text has columns. -/
theorem forall_ne_nil_iff {table : Option Text} {texts : List Text} {groups : List (List Text)}
    (written : List.Forall₂ (fun text group => writtenColumns table text = .ok group)
      texts groups) :
    (∀ group ∈ groups, group ≠ []) ↔ ∀ text ∈ texts, isVacant text = false := by
  -- Each group is empty exactly if its text is vacant, and so the two lists agree one by one.
  induction written with
  | nil => simp
  | cons first _ ih =>
    rw [List.forall_mem_cons, List.forall_mem_cons, writtenColumns_ne_nil_iff first, ih]

/-- A list of texts fails like all of their columns, and with no other error. -/
theorem Columns.write_list_texts_error (table : Option Text) (texts : List Text) (error : Error) :
    (Columns.list (texts.map .text)).write table = .error error ↔
      writeColumns table (texts.flatMap splitColumns) = .error error := by
  -- Both sides write the same columns in the same order, and only the last join differs.
  rw [Columns.write_list_texts, writeColumns_flatMap]
  cases texts.mapM (writtenColumns table) <;> simp [Except.map]

/-- A list of texts is written like all of their columns unless one of several texts has none. -/
theorem Columns.write_list_texts_iff (table : Option Text) (texts : List Text) :
    (Columns.list (texts.map .text)).write table = writeColumns table (texts.flatMap splitColumns) ↔
      writeColumns table (texts.flatMap splitColumns) = .error .wildcardAlias ∨
        texts.length ≤ 1 ∨ ∀ text ∈ texts, isVacant text = false := by
  have exactly := writeColumns_failsExactly table (texts.flatMap splitColumns)
  rw [Columns.write_list_texts]
  rw [writeColumns_flatMap] at exactly ⊢
  cases found : texts.mapM (writtenColumns table) with
  | error error =>
    -- Both fail with the error of the walk, and there is only one error that it can be.
    rw [found] at exactly
    have only : error = .wildcardAlias := by
      by_contra different
      exact exactly.ne_error different rfl
    rw [only]
    exact iff_of_true rfl (.inl rfl)
  | ok groups =>
    -- The texts are written as one group each, and only the separators can differ.
    have pairs := forall₂_of_mapM_eq_ok found
    have joins : commaJoined (groups.map commaJoined) = commaJoined groups.flatten ↔
        groups.length ≤ 1 ∨ ∀ group ∈ groups, group ≠ [] := intercalate_flatten_iff (by decide)
    simp only [Except.map, Except.ok.injEq, reduceCtorEq, false_or]
    rw [joins, pairs.length_eq, forall_ne_nil_iff pairs]

/-- Texts without columns add nothing to the columns of the other texts. -/
theorem flatMap_splitColumns_filter (texts : List Text) :
    (texts.filter fun text => !isVacant text).flatMap splitColumns =
      texts.flatMap splitColumns := by
  -- A vacant text has no pieces, so it makes no difference to drop it.
  induction texts with
  | nil => rfl
  | cons text rest ih =>
    cases vacant : isVacant text with
    | true => simp [vacant, ih, splitColumns_eq_nil_iff.mpr vacant]
    | false => simp [vacant, ih]

/--
Texts with commas between them are written like the list of those texts that have any columns.

The list of all the texts fails whenever they do. Otherwise it is written in the same way exactly if
each of its texts has columns, or if there is at most one: a text without columns among several ones
leaves its separator behind.
-/
theorem write_joined_texts (table : Option Text) {texts : List Text}
    (closed : ∀ text ∈ texts, ClosesAll text) :
    (Columns.text ([','].intercalate texts)).write table =
        (Columns.list ((texts.filter fun text => !isVacant text).map .text)).write table ∧
      (∀ error, (Columns.list (texts.map .text)).write table = .error error ↔
        (Columns.text ([','].intercalate texts)).write table = .error error) ∧
      ((Columns.list (texts.map .text)).write table =
          (Columns.text ([','].intercalate texts)).write table ↔
        (Columns.text ([','].intercalate texts)).write table = .error .wildcardAlias ∨
          texts.length ≤ 1 ∨ ∀ text ∈ texts, isVacant text = false) := by
  -- Cutting the joined text gives the pieces of all texts, one text after another.
  have joined : (Columns.text ([','].intercalate texts)).write table =
      writeColumns table (texts.flatMap splitColumns) := by
    rw [Columns.write, splitColumns_intercalate closed]
  rw [joined]
  refine ⟨?kept, Columns.write_list_texts_error table texts,
    Columns.write_list_texts_iff table texts⟩
  case kept =>
    rw [← flatMap_splitColumns_filter]
    refine ((Columns.write_list_texts_iff table _).mpr (.inr (.inr ?_))).symm
    intro text there
    simpa using (List.mem_filter.mp there).2

/-- A column and two more in one text are written alike with a comma between the two texts. -/
theorem write_joined_texts_coalesce :
    (Columns.text "id,name , COALESCE(a, b) c".toList).write none =
        .ok "`id`, `name`, COALESCE(a, b) AS `c`".toList ∧
      (Columns.list [.text "id".toList, .text "name , COALESCE(a, b) c".toList]).write none =
        (Columns.text "id,name , COALESCE(a, b) c".toList).write none := by
  have closed : ∀ text ∈ ["id".toList, "name , COALESCE(a, b) c".toList], ClosesAll text := by
    decide
  have joined : [','].intercalate ["id".toList, "name , COALESCE(a, b) c".toList] =
      "id,name , COALESCE(a, b) c".toList := by decide
  -- No text is vacant, so the two ways to list the columns agree.
  obtain ⟨-, -, agree⟩ := write_joined_texts none closed
  rw [joined] at agree
  refine ⟨?_, agree.mpr (.inr (.inr (by decide)))⟩
  rw [Columns.write]
  decide +kernel

/-- A blank text at the end of a list leaves a comma behind, which it does not in a joined text. -/
theorem write_list_blank :
    (∀ text ∈ ["a".toList, []], ClosesAll text) ∧
      (Columns.list (["a".toList, []].map .text)).write none = .ok "`a`, ".toList ∧
      (Columns.text ([','].intercalate ["a".toList, []])).write none = .ok "`a`".toList := by
  -- The second text is empty, which leaves a comma behind the first one.
  refine ⟨by decide, ?_, ?_⟩
  · rw [Columns.write_list_texts]
    decide +kernel
  · rw [Columns.write]
    decide +kernel

end SqlWriter
