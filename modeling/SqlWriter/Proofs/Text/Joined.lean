import Mathlib.Data.List.Flatten
import SqlWriter.Text.Blank

/-! Texts with a separator between them: what is joined in groups, and how long the whole is. -/

namespace SqlWriter

variable {separator : Text}

/-- Texts in a row are joined by the separator between their two parts. -/
theorem intercalate_append {front back : List Text} (first : front ≠ []) (second : back ≠ []) :
    separator.intercalate (front ++ back) =
      separator.intercalate front ++ separator ++ separator.intercalate back := by
  -- The separator stands behind each text of the first part, the last one included.
  induction front with
  | nil => exact absurd rfl first
  | cons text rest ih =>
    by_cases further : rest = []
    · subst further
      rw [List.singleton_append, List.intercalate_cons_of_ne_nil second, List.intercalate_singleton]
    · rw [List.cons_append,
        List.intercalate_cons_of_ne_nil (List.append_ne_nil_of_left_ne_nil further _),
        ih further, List.intercalate_cons_of_ne_nil further]
      simp only [List.append_assoc]

/-- Texts that are joined before stand among others as if they were joined with them. -/
theorem intercalate_splice (front back : List Text) {parts : List Text} (present : parts ≠ []) :
    separator.intercalate (front ++ separator.intercalate parts :: back) =
      separator.intercalate (front ++ parts ++ back) := by
  -- The joined texts come to one text, whichever texts stand around them.
  have behind : separator.intercalate (separator.intercalate parts :: back) =
      separator.intercalate (parts ++ back) := by
    by_cases further : back = []
    · rw [further, List.append_nil, List.intercalate_singleton]
    · rw [List.intercalate_cons_of_ne_nil further, intercalate_append present further]
  by_cases before : front = []
  · simpa [before] using behind
  · rw [intercalate_append before (List.cons_ne_nil _ _), behind,
      List.append_assoc front parts back,
      intercalate_append before (List.append_ne_nil_of_left_ne_nil present _)]

/-- Groups of texts that are joined one by one are joined as all of their texts are. -/
theorem intercalate_flatten {groups : List (List Text)} (present : ∀ group ∈ groups, group ≠ []) :
    separator.intercalate (groups.map separator.intercalate) =
      separator.intercalate groups.flatten := by
  induction groups with
  | nil => rfl
  | cons group rest ih =>
    obtain ⟨own, others⟩ := List.forall_mem_cons.mp present
    -- The last group has no separator behind it on either side.
    by_cases further : rest = []
    · simp [further]
    · -- The texts of the first group end where the first text of the others starts.
      have tail : rest.flatten ≠ [] := by
        obtain ⟨next, more, rfl⟩ := List.exists_cons_of_ne_nil further
        exact List.append_ne_nil_of_left_ne_nil (others next List.mem_cons_self) _
      have joined : rest.map separator.intercalate ≠ [] := by simpa using further
      rw [List.map_cons, List.intercalate_cons_of_ne_nil joined, ih others, List.flatten_cons,
        intercalate_append own tail]

/-- Joining adds one separator to the texts for each of them but the first. -/
theorem length_intercalate (texts : List Text) :
    (separator.intercalate texts).length =
      texts.flatten.length + separator.length * (texts.length - 1) := by
  induction texts with
  | nil => rfl
  | cons text rest ih =>
    -- The last text has no separator behind it.
    by_cases further : rest = []
    · simp [further]
    · -- There is another text, so its own separator stands in front of the rest.
      have more : rest.length = rest.length - 1 + 1 := by
        have := List.length_pos_iff.mpr further
        omega
      rw [List.intercalate_cons_of_ne_nil further]
      simp only [List.length_append, ih, List.flatten_cons, List.length_cons, Nat.add_sub_cancel]
      rw [more, Nat.mul_succ, Nat.add_sub_cancel]
      omega

/-- Items that are written as nothing add nothing to the text of the others. -/
theorem flatten_map_filter {α : Type} {write : α → Text} {keep : α → Bool} {items : List α}
    (silent : ∀ item ∈ items, keep item = false → write item = []) :
    ((items.filter keep).map write).flatten = (items.map write).flatten := by
  -- An item that is left out has written nothing anyhow.
  induction items with
  | nil => rfl
  | cons item rest ih =>
    obtain ⟨own, others⟩ := List.forall_mem_cons.mp silent
    cases kept : keep item with
    | true => simp [kept, ih others]
    | false => simp [kept, ih others, own kept]

/--
Joined items come to the join of those that are kept only if all of them are kept.

The items that are not kept are written as nothing. The exceptions are a single item, and no item at
all, where no separator shows that one is missing.
-/
theorem intercalate_filter_iff {α : Type} {write : α → Text} {keep : α → Bool} {items : List α}
    (visible : separator ≠ []) (silent : ∀ item ∈ items, keep item = false → write item = []) :
    separator.intercalate (items.map write) =
        separator.intercalate ((items.filter keep).map write) ↔
      items.length ≤ 1 ∨ ∀ item ∈ items, keep item = true := by
  -- The texts are the same on both sides, so that only the separators count.
  have texts := flatten_map_filter silent
  have positive : 0 < separator.length := List.length_pos_iff.mpr visible
  have fewer : (items.filter keep).length ≤ items.length := List.length_filter_le _ _
  rw [← List.length_filter_eq_length_iff]
  constructor
  · intro same
    -- If the texts are the same, they have the same length.
    have lengths := congrArg List.length same
    simp only [length_intercalate, texts, List.length_map, Nat.add_left_cancel_iff] at lengths
    have counts : items.length - 1 = (items.filter keep).length - 1 :=
      Nat.eq_of_mul_eq_mul_left positive lengths
    omega
  · rintro (few | all)
    · match items, few with
      | [], _ => rfl
      | [item], _ =>
        cases kept : keep item with
        | true => simp [kept]
        | false => simp [kept, silent item List.mem_cons_self kept]
    · rw [List.filter_eq_self.mpr (List.length_filter_eq_length_iff.mp all)]

/-- Groups that are joined one by one come to the join of all their texts only if none is empty. -/
theorem intercalate_flatten_iff {groups : List (List Text)} (visible : separator ≠ []) :
    separator.intercalate (groups.map separator.intercalate) =
        separator.intercalate groups.flatten ↔
      groups.length ≤ 1 ∨ ∀ group ∈ groups, group ≠ [] := by
  -- Without the empty groups the two joins are the same, and an empty group is written as nothing.
  have kept : ∀ group ∈ groups.filter (· ≠ []), group ≠ [] := by simp
  rw [← List.flatten_filter_ne_nil, ← intercalate_flatten kept,
    intercalate_filter_iff visible (by simp +contextual)]
  simp only [decide_eq_true_eq]

/-- Joined texts can be seen if one of them can. -/
theorem isBlank_intercalate {texts : List Text} {text : Text} (there : text ∈ texts)
    (visible : isBlank text = false) : isBlank (separator.intercalate texts) = false := by
  -- The text is seen where it stands, so everything else may be blank.
  obtain ⟨front, back, rfl⟩ := List.append_of_mem there
  have whole : isBlank (separator.intercalate (text :: back)) = false := by
    by_cases further : back = []
    · rwa [further, List.intercalate_singleton]
    · rw [List.intercalate_cons_of_ne_nil further, isBlank_append, isBlank_append, visible]
      rfl
  by_cases before : front = []
  · rwa [before]
  · rw [intercalate_append before (List.cons_ne_nil _ _), isBlank_append, whole, Bool.and_false]

/-- Items that are listed cannot be seen only if there is none, or a single one that cannot. -/
theorem isBlank_commaJoined_iff {items : List Text} :
    isBlank (commaJoined items) = true ↔
      items = [] ∨ ∃ item, items = [item] ∧ isBlank item = true := by
  -- Between two items there is a comma to be seen.
  match items with
  | [] => simp [commaJoined, isBlank]
  | [item] => simp [commaJoined]
  | item :: next :: rest =>
    have comma : isBlank ", ".toList = false := by decide
    rw [commaJoined, List.intercalate_cons_of_ne_nil (List.cons_ne_nil next rest), isBlank_append,
      isBlank_append, comma]
    simp

/-- Items with something in each of them are listed as nothing exactly if there is none. -/
theorem commaJoined_eq_nil_iff {items : List Text} (present : ∀ item ∈ items, item ≠ []) :
    commaJoined items = [] ↔ items = [] := by
  constructor
  · -- Something that is blank has one blank item at most, and that is not empty.
    intro nothing
    have blank : isBlank (commaJoined items) = true := by rw [nothing]; rfl
    rcases isBlank_commaJoined_iff.mp blank with none | ⟨item, rfl, -⟩
    · exact none
    · rw [commaJoined, List.intercalate_singleton] at nothing
      exact absurd nothing (present item (List.mem_singleton_self item))
  · rintro rfl
    rfl

end SqlWriter
