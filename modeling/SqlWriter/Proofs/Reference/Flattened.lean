import Mathlib.Data.List.Basic
import SqlWriter.Proofs.Text.Joined
import SqlWriter.Reference

/-! Nested lists of references: they are written like their leaves unless one of them is empty. -/

namespace SqlWriter

namespace Reference

/-- Whether a reference is a list. -/
def isList : Reference → Bool
  | .list _ => true
  | _ => false

/-- What holds of references that are no lists, and passes from items on to lists, always holds. -/
@[elab_as_elim]
theorem induction {motive : Reference → Prop}
    (leaf : ∀ reference, reference.isList = false → motive reference)
    (list : ∀ items, (∀ item ∈ items, motive item) → motive (.list items))
    (reference : Reference) : motive reference := by
  -- The second motive says of a list that the first one holds of each of its items.
  refine @Reference.rec motive (fun items => ∀ item ∈ items, motive item)
    ?name ?int ?float ?bool ?raw list ?noItem ?items reference
  case name => exact fun text => leaf (.name text) rfl
  case int => exact fun value => leaf (.int value) rfl
  case float => exact fun value => leaf (.float value) rfl
  case bool => exact fun value => leaf (.bool value) rfl
  case raw => exact fun sql => leaf (.raw sql) rfl
  case noItem => exact List.forall_mem_nil _
  case items => exact fun item rest head tail => List.forall_mem_cons.mpr ⟨head, tail⟩

mutual

/-- The references in a reference that are no lists, in order and from any depth. -/
def leaves : Reference → List Reference
  | .list items => leavesOfEach items
  | leaf => [leaf]

/-- The leaves of all references of a list, one reference after another. -/
def leavesOfEach : List Reference → List Reference
  | [] => []
  | item :: rest => item.leaves ++ leavesOfEach rest

end

mutual

/-- The leaves of a reference together with the empty lists in it, in order and from any depth. -/
def slots : Reference → List Reference
  -- An empty list has no leaf, but it takes the place of one where it is written.
  | .list [] => [.list []]
  | .list (item :: rest) => slotsOfEach (item :: rest)
  | leaf => [leaf]

/-- The slots of all references of a list, one reference after another. -/
def slotsOfEach : List Reference → List Reference
  | [] => []
  | item :: rest => item.slots ++ slotsOfEach rest

end

/-- The references of a list are written one by one. -/
theorem writeEach_eq (style : ReferenceStyle) (items : List Reference) :
    writeEach style items = items.map (Reference.write style) := by
  -- The items are written in the order in which they are listed.
  induction items with
  | nil => rfl
  | cons item rest ih => rw [writeEach, ih, List.map_cons]

/-- The leaves of the references of a list follow one another. -/
theorem leavesOfEach_eq (items : List Reference) : leavesOfEach items = items.flatMap leaves := by
  -- The items are searched in the order in which they are listed.
  induction items with
  | nil => rfl
  | cons item rest ih => rw [leavesOfEach, ih, List.flatMap_cons]

/-- The slots of the references of a list follow one another. -/
theorem slotsOfEach_eq (items : List Reference) : slotsOfEach items = items.flatMap slots := by
  -- The items are searched in the order in which they are listed.
  induction items with
  | nil => rfl
  | cons item rest ih => rw [slotsOfEach, ih, List.flatMap_cons]

/-- A reference that is no list is its only leaf and its only slot. -/
theorem leaf_eq {reference : Reference} (leaf : reference.isList = false) :
    reference.leaves = [reference] ∧ reference.slots = [reference] := by
  -- Only lists have items of their own to look into.
  cases reference with
  | list items => cases leaf
  | _ => exact ⟨rfl, rfl⟩

/-- A list has the slots of its items, and is its own slot if it has no item. -/
theorem slots_list (items : List Reference) :
    (Reference.list items).slots = if items = [] then [.list []] else items.flatMap slots := by
  -- An empty list is the one case in which the slots are not those of the items.
  cases items with
  | nil => rfl
  | cons item rest => rw [slots, slotsOfEach_eq, if_neg (List.cons_ne_nil _ _)]

/-- Every reference has a slot. -/
theorem slots_ne_nil (reference : Reference) : reference.slots ≠ [] := by
  induction reference using Reference.induction with
  | leaf reference leaf =>
    rw [(leaf_eq leaf).2]
    exact List.cons_ne_nil _ _
  | list items each =>
    rw [slots_list]
    split
    · exact List.cons_ne_nil _ _
    · -- The slots of the first item are among those of the list.
      rename_i present
      obtain ⟨item, rest, rfl⟩ := List.exists_cons_of_ne_nil present
      exact List.append_ne_nil_of_left_ne_nil (each item List.mem_cons_self) _

/-- A slot is a leaf or an empty list. -/
theorem eq_nil_of_mem_slots {reference slot : Reference} (there : slot ∈ reference.slots)
    (list : slot.isList = true) : slot = .list [] := by
  -- A slot is never opened, so the only lists among them are the empty ones.
  induction reference using Reference.induction with
  | leaf reference leaf =>
    rw [(leaf_eq leaf).2, List.mem_singleton] at there
    rw [there, leaf] at list
    cases list
  | list items each =>
    rw [slots_list] at there
    split at there
    · exact List.mem_singleton.mp there
    · obtain ⟨item, member, inside⟩ := List.mem_flatMap.mp there
      exact each item member inside

/-- The leaves are the slots that are no lists. -/
theorem leaves_eq_filter (reference : Reference) :
    reference.leaves = reference.slots.filter fun slot => !slot.isList := by
  -- Slots and leaves are collected in the same order, so both sides agree item by item.
  induction reference using Reference.induction with
  | leaf reference leaf =>
    obtain ⟨leaves, slots⟩ := leaf_eq leaf
    simp [leaves, slots, leaf]
  | list items each =>
    rw [leaves, leavesOfEach_eq, slots_list]
    -- An empty list is a slot by itself, though it is no leaf.
    split
    · rename_i empty
      subst empty
      rfl
    · rw [List.filter_flatMap]
      exact List.flatMap_congr each

/-- A reference is written as its slots with commas between them. -/
theorem write_eq_slots (style : ReferenceStyle) (reference : Reference) :
    reference.write style = commaJoined (reference.slots.map (Reference.write style)) := by
  -- The induction joins the slots of each item, and a list joins its items in turn.
  induction reference using Reference.induction with
  | leaf reference leaf =>
    rw [(leaf_eq leaf).2, List.map_singleton, commaJoined, List.intercalate_singleton]
  | list items each =>
    rw [slots_list]
    split
    · -- An empty list is its own slot.
      rename_i empty
      subst empty
      rw [List.map_singleton, commaJoined, List.intercalate_singleton]
    · have groups : items.map (Reference.write style) =
          (items.map fun item => item.slots.map (Reference.write style)).map commaJoined := by
        rw [List.map_map]
        exact List.map_congr_left each
      -- No item is without a slot, so the commas are as many on both sides.
      have present : ∀ group ∈ items.map (fun item => item.slots.map (Reference.write style)),
          group ≠ [] := by
        intro group there
        obtain ⟨item, -, rfl⟩ := List.mem_map.mp there
        exact mt List.map_eq_nil_iff.mp item.slots_ne_nil
      rw [write, writeEach_eq, groups, List.map_flatMap, List.flatMap_def]
      exact intercalate_flatten present

/-- Among several slots or none, all are leaves exactly if no empty list is among them. -/
theorem slots_leaves_iff (reference : Reference) :
    (reference.slots.length ≤ 1 ∨ ∀ slot ∈ reference.slots, (!slot.isList) = true) ↔
      .list [] ∉ reference.slots ∨ reference.slots = [.list []] := by
  -- Every slot that is a list is the empty one.
  have leaf : ∀ slot ∈ reference.slots, .list [] ∉ reference.slots → (!slot.isList) = true := by
    intro slot there noEmpty
    rw [Bool.not_eq_true', ← Bool.not_eq_true]
    intro list
    rw [eq_nil_of_mem_slots there list] at there
    exact noEmpty there
  constructor
  · rintro (few | all)
    · -- There is at least one slot, so it is the only one.
      obtain ⟨slot, same⟩ : ∃ slot, reference.slots = [slot] := by
        have present := List.length_pos_iff.mpr reference.slots_ne_nil
        exact List.length_eq_one_iff.mp (by omega)
      by_cases empty : slot = .list []
      · exact .inr (by rw [same, empty])
      · exact .inl (by rw [same, List.mem_singleton]; exact fun equal => empty equal.symm)
    · exact .inl fun there => Bool.noConfusion (all _ there)
  · rintro (noEmpty | only)
    · exact .inr fun slot there => leaf slot there noEmpty
    · exact .inl (by rw [only]; exact Nat.le_refl 1)

/--
A reference is written as its slots with commas between them, whatever lists stand in it.

It is written as its leaves with commas between them exactly if no empty list stands in it, or
nothing but one: an empty list is written as nothing, but with a comma like any other item.
-/
theorem write_nested_list (style : ReferenceStyle) (reference : Reference) :
    reference.write style = commaJoined (reference.slots.map (Reference.write style)) ∧
      (reference.write style = commaJoined (reference.leaves.map (Reference.write style)) ↔
        .list [] ∉ reference.slots ∨ reference.slots = [.list []]) := by
  -- An empty list writes nothing, so the two lists differ in their commas only.
  have silent : ∀ slot ∈ reference.slots, (!slot.isList) = false → slot.write style = [] := by
    intro slot there list
    rw [eq_nil_of_mem_slots there (by simpa using list)]
    rfl
  refine ⟨write_eq_slots style reference, ?flattened⟩
  case flattened =>
    rw [write_eq_slots, leaves_eq_filter, commaJoined, commaJoined,
      intercalate_filter_iff (by decide) silent]
    exact slots_leaves_iff reference

/-- An empty list behind a name leaves a comma behind, although the name is the only leaf. -/
theorem write_list_with_empty_list :
    let nested := Reference.list [.name "a".toList, .list []]
    nested.leaves = [.name "a".toList] ∧
      nested.write {} = "`a`, ".toList ∧
      commaJoined (nested.leaves.map (Reference.write {})) = "`a`".toList ∧
      nested.write {} ≠ commaJoined (nested.leaves.map (Reference.write {})) := by
  intro nested
  -- What is written has a comma that the leaves on their own do not have.
  have written : nested.write {} = "`a`, ".toList := by decide +kernel
  have joined : commaJoined (nested.leaves.map (Reference.write {})) = "`a`".toList := by
    decide +kernel
  refine ⟨rfl, written, joined, ?_⟩
  rw [written, joined]
  decide

end Reference

end SqlWriter
