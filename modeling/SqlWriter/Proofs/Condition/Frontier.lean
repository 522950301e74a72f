import Mathlib.Data.List.Nodup
import SqlWriter.Condition

/-! Lists under fields: the scalars that they come to, and the places where these stand. -/

namespace SqlWriter

/--
Where a scalar is reached in a condition through lists alone.

An address holds the index of an item for each list on the way, from the outermost list inwards.
-/
inductive ReachedAt (value : Scalar) : (address : List Nat) → Condition → Prop where
  | here : ReachedAt value [] (.scalar value)
  | item {index : Nat} {address : List Nat} {items : List Condition} {item : Condition}
    (there : items[index]? = some item) (inside : ReachedAt value address item) :
    ReachedAt value (index :: address) (.list items)

/--
The scalars that are reached in a condition through lists alone, each of them once and with its
address.

The addresses ascend in the order of dictionaries, which is the order of a walk that goes down
before it goes on to the right.
-/
structure IsFrontier (tree : Condition) (frontier : List (List Nat × Scalar)) : Prop where
  complete : ∀ located, located ∈ frontier ↔ ReachedAt located.2 located.1 tree
  ordered : frontier.Pairwise fun first second => first.1 < second.1

/-- The field that is in scope for a list under a key, which is the path itself for a connective. -/
def fieldInScope? (path : Option Text) (key : Text) : Option Text :=
  match Connective.ofKey? key with
  | some _ => path
  | none => some (extendPath path key)

/-- One more index in front of the address of a scalar. -/
def underIndex (index : Nat) (located : List Nat × Scalar) : List Nat × Scalar :=
  (index :: located.1, located.2)

mutual

/-- The scalars that are reached in a condition through lists alone, with their addresses. -/
def Condition.frontier : Condition → List (List Nat × Scalar)
  | .scalar value => [([], value)]
  | .list items => Condition.frontierFrom 0 items
  | .group _ => []

/-- The scalars that are reached in the items of a list, of which the first one has an index. -/
def Condition.frontierFrom (index : Nat) : List Condition → List (List Nat × Scalar)
  | [] => []
  | item :: rest =>
    item.frontier.map (underIndex index) ++ Condition.frontierFrom (index + 1) rest

end

/-- Without their addresses, the scalars of the items are those of the list. -/
theorem map_snd_frontierFrom {items : List Condition}
    (each : ∀ item ∈ items, item.frontier.map Prod.snd = item.scalars) (index : Nat) :
    (Condition.frontierFrom index items).map Prod.snd = Condition.scalarsOfEach items := by
  induction items generalizing index with
  | nil => simp [Condition.frontierFrom, Condition.scalarsOfEach]
  | cons item rest ih =>
    obtain ⟨head, tail⟩ := List.forall_mem_cons.mp each
    -- The index changes the address and not the scalar.
    simp only [Condition.frontierFrom, Condition.scalarsOfEach, List.map_append, List.map_map,
      ih tail, ← head]
    rfl

/-- Without their addresses, the scalars that are reached are those of the condition. -/
theorem map_snd_frontier (tree : Condition) : tree.frontier.map Prod.snd = tree.scalars := by
  -- A list passes its items on, and groups have no scalars to give.
  induction tree with
  | scalar value => simp [Condition.frontier, Condition.scalars]
  | list items ih _ =>
    simpa only [Condition.frontier, Condition.scalars] using map_snd_frontierFrom ih 0
  | group entries _ => simp [Condition.frontier, Condition.scalars]

/-- What is found from an index on stands under the index of an item, counted from there. -/
theorem mem_frontierFrom_iff {items : List Condition} {start : Nat} {located : List Nat × Scalar} :
    located ∈ Condition.frontierFrom start items ↔
      ∃ offset item inner, items[offset]? = some item ∧ inner ∈ item.frontier ∧
        located = underIndex (start + offset) inner := by
  induction items generalizing start with
  | nil => simp [Condition.frontierFrom]
  | cons item rest ih =>
    simp only [Condition.frontierFrom, List.mem_append, List.mem_map, ih]
    constructor
    · intro found
      rcases found with ⟨inner, member, rfl⟩ | ⟨offset, other, inner, there, member, rfl⟩
      · exact ⟨0, item, inner, rfl, member, rfl⟩
      · -- The rest is counted from the next index, so its offset is one more here.
        exact ⟨offset + 1, other, inner, there, member, by rw [Nat.add_right_comm, Nat.add_assoc]⟩
    · intro found
      obtain ⟨offset, other, inner, there, member, rfl⟩ := found
      -- The first item has the index itself, and the others are counted from the next one.
      cases offset with
      | zero =>
        cases there
        exact .inl ⟨inner, member, rfl⟩
      | succ offset =>
        exact .inr ⟨offset, other, inner, there, member, by rw [Nat.add_right_comm, Nat.add_assoc]⟩

/-- The frontier holds exactly the scalars that are reached, each at its address. -/
theorem mem_frontier_iff {tree : Condition} {located : List Nat × Scalar} :
    located ∈ tree.frontier ↔ ReachedAt located.2 located.1 tree := by
  obtain ⟨address, value⟩ := located
  -- An address is a way through lists only, so the cases follow it step by step.
  induction tree generalizing address with
  | scalar other =>
    simp only [Condition.frontier, List.mem_singleton, Prod.mk.injEq]
    constructor
    · rintro ⟨rfl, rfl⟩
      exact .here
    · rintro ⟨⟩
      exact ⟨rfl, rfl⟩
  | list items ih _ =>
    simp only [Condition.frontier, mem_frontierFrom_iff, Nat.zero_add, underIndex, Prod.mk.injEq]
    constructor
    · rintro ⟨index, item, inner, there, member, rfl, rfl⟩
      exact .item there ((ih item (List.mem_of_getElem? there) inner.1).mp member)
    · rintro ⟨⟩
      rename_i index address item inside there
      exact ⟨index, item, (address, value), there,
        (ih item (List.mem_of_getElem? there) address).mpr inside, rfl, rfl⟩
  | group entries _ =>
    -- No way leads into a group, which is no scalar either.
    simp only [Condition.frontier, List.not_mem_nil, false_iff]
    nofun

/-- Behind one index the addresses ascend as they do without it. -/
theorem pairwise_map_underIndex {frontier : List (List Nat × Scalar)} (index : Nat)
    (ordered : frontier.Pairwise fun first second => first.1 < second.1) :
    (frontier.map (underIndex index)).Pairwise fun first second => first.1 < second.1 := by
  -- An index in front of every address leaves their order as it was.
  rw [List.pairwise_map]
  exact ordered.imp fun less => List.cons_lt_cons_iff.mpr (.inr ⟨rfl, less⟩)

/-- The addresses in a row of items ascend if those in each of the items do. -/
theorem pairwise_frontierFrom {items : List Condition}
    (each : ∀ item ∈ items, item.frontier.Pairwise fun first second => first.1 < second.1)
    (start : Nat) :
    (Condition.frontierFrom start items).Pairwise fun first second => first.1 < second.1 := by
  induction items generalizing start with
  | nil => simp [Condition.frontierFrom]
  | cons item rest ih =>
    obtain ⟨head, tail⟩ := List.forall_mem_cons.mp each
    rw [Condition.frontierFrom, List.pairwise_append]
    refine ⟨pairwise_map_underIndex start head, ih tail (start + 1), ?_⟩
    -- Every address in a later item starts with a greater index.
    intro first inFirst second inRest
    obtain ⟨_, _, rfl⟩ := List.mem_map.mp inFirst
    obtain ⟨offset, _, _, _, _, rfl⟩ := mem_frontierFrom_iff.mp inRest
    exact List.cons_lt_cons_iff.mpr (.inl (by omega))

/-- The addresses of a frontier ascend. -/
theorem pairwise_frontier (tree : Condition) :
    tree.frontier.Pairwise fun first second => first.1 < second.1 := by
  -- The items come in the order of their indices, and inside an item by the hypothesis.
  induction tree with
  | scalar value => simp [Condition.frontier]
  | list items ih _ => simpa only [Condition.frontier] using pairwise_frontierFrom ih 0
  | group entries _ => simp [Condition.frontier]

/-- Every condition has a frontier. -/
theorem isFrontier_frontier (tree : Condition) : IsFrontier tree tree.frontier where
  -- The frontier has each scalar once, in the order of their addresses.
  complete _ := mem_frontier_iff
  ordered := pairwise_frontier tree

/-- No condition has a second frontier. -/
theorem IsFrontier.eq_frontier {tree : Condition} {other : List (List Nat × Scalar)}
    (found : IsFrontier tree other) : other = tree.frontier := by
  -- Both hold the same scalars, and in the order of their addresses there is one way to list them.
  have nodup {frontier : List (List Nat × Scalar)}
      (ordered : frontier.Pairwise fun first second => first.1 < second.1) : frontier.Nodup :=
    ordered.imp fun less same => absurd (same ▸ less) (List.lt_irrefl _)
  have perm : other.Perm tree.frontier :=
    (List.perm_ext_iff_of_nodup (nodup found.ordered) (nodup (pairwise_frontier tree))).mpr
      fun located => (found.complete located).trans mem_frontier_iff.symm
  exact perm.eq_of_pairwise (fun _ _ _ _ less greater => absurd less (List.lt_asymm greater))
    found.ordered (pairwise_frontier tree)

/-- A list under a key is written as a membership of the field that is in scope. -/
theorem writeEntry_list {path : Option Text} {key field : Text}
    (scope : fieldInScope? path key = some field) (items : List Condition) :
    Condition.writeEntry path key (.list items) = writeMembership field items := by
  -- Under a connective the path names the field, and elsewhere the key does.
  unfold fieldInScope? at scope
  cases named : Connective.ofKey? key with
  | none =>
    rw [named] at scope
    cases scope
    simp only [Condition.writeEntry, named]
  | some connective =>
    rw [named] at scope
    subst scope
    simp only [Condition.writeEntry, named]

/-- A membership is written with its values, unless there are none. -/
theorem writeMembership_eq (field : Text) (items : List Condition) :
    writeMembership field items =
      if Condition.scalarsOfEach items = [] then neverTrue
      else writeReference .numeric field ++ " IN ".toList ++
        inParens (commaJoined ((Condition.scalarsOfEach items).map writeValue)) := by
  -- An empty membership is the comparison that is never true.
  unfold writeMembership
  split
  · rename_i empty
    rw [if_pos empty]
  · rename_i present
    rw [if_neg present]

/-- No membership with values reads like the condition that no row meets. -/
theorem membership_ne_neverTrue (field values : Text) :
    writeReference .numeric field ++ " IN ".toList ++ values ≠ neverTrue := by
  -- Its keyword has a letter, and the other condition has none.
  intro same
  have letter : 'I' ∈ writeReference .numeric field ++ " IN ".toList ++ values := by simp
  rw [same] at letter
  revert letter
  decide

/--
A list under a field is written as the membership of the field in the values of its frontier: the
scalars that are reached through lists alone, each once, as a walk down and to the right meets them.

It is written as the condition that no row meets exactly if there is no such scalar. So lists whose
frontiers have the same scalars are written alike, whatever else stands in them.
-/
theorem writeEntry_list_frontier {path : Option Text} {key field : Text}
    (scope : fieldInScope? path key = some field) (items : List Condition) :
    ∃ frontier, IsFrontier (.list items) frontier ∧
      (frontier ≠ [] → Condition.writeEntry path key (.list items) =
        writeReference .numeric field ++ " IN ".toList ++
          inParens (commaJoined (frontier.map fun located => writeValue located.2))) ∧
      (Condition.writeEntry path key (.list items) = neverTrue ↔ frontier = []) ∧
      ∀ others otherFrontier, IsFrontier (.list others) otherFrontier →
        otherFrontier.map Prod.snd = frontier.map Prod.snd →
        Condition.writeEntry path key (.list others) =
          Condition.writeEntry path key (.list items) := by
  -- What is written depends on the scalars only, and the frontier has them in their order.
  have scalars (items : List Condition) : (Condition.list items).frontier.map Prod.snd =
      Condition.scalarsOfEach items := by
    rw [map_snd_frontier, Condition.scalars]
  have nothing_iff : Condition.scalarsOfEach items = [] ↔ (Condition.list items).frontier = [] := by
    rw [← scalars, List.map_eq_nil_iff]
  -- The frontier of the tree is the one that is meant, and the other statements are about it.
  refine ⟨_, isFrontier_frontier (.list items), ?values, ?empty, ?alike⟩
  case values =>
    intro present
    rw [writeEntry_list scope, writeMembership_eq, if_neg (mt nothing_iff.mp present), ← scalars,
      List.map_map]
    rfl
  case empty =>
    rw [writeEntry_list scope, writeMembership_eq, ← nothing_iff]
    split
    · rename_i empty
      exact iff_of_true rfl empty
    · rename_i present
      exact iff_of_false (membership_ne_neverTrue field _) present
  case alike =>
    intro others otherFrontier found same
    -- Both frontiers are those of their lists, so the scalars are the same on both sides.
    rw [found.eq_frontier, scalars, scalars] at same
    rw [writeEntry_list scope, writeEntry_list scope, writeMembership, same, writeMembership]

/-- Scalars at three depths of a list under a connective, with groups of scalars between them. -/
theorem writeEntry_list_frontier_nested :
    let items : List Condition := [
      .list [.scalar (.int 1), .group [("b".toList, .scalar (.int 2))],
        .list [.scalar (.text "x".toList)]],
      .group [("c".toList, .list [.scalar (.int 3)])],
      .scalar .null]
    fieldInScope? (some "a".toList) "$or".toList = some "a".toList ∧
      IsFrontier (.list items)
        [([0, 0], .int 1), ([0, 2, 0], .text "x".toList), ([2], .null)] ∧
      Condition.writeEntry (some "a".toList) "$or".toList (.list items) =
        "`a` IN (1, 'x', NULL)".toList := by
  intro items
  -- A connective as the key does not name a field, and so the path does.
  have scope : fieldInScope? (some "a".toList) "$or".toList = some "a".toList := by decide
  obtain ⟨frontier, found, written, -, -⟩ := writeEntry_list_frontier scope items
  have located : frontier = [([0, 0], .int 1), ([0, 2, 0], .text "x".toList), ([2], .null)] :=
    found.eq_frontier.trans
      (by simp [items, Condition.frontier, Condition.frontierFrom, underIndex])
  subst located
  refine ⟨scope, found, (written (List.cons_ne_nil _ _)).trans ?_⟩
  decide +kernel

end SqlWriter
