import Mathlib.Data.Finset.Card
import Mathlib.Data.List.Basic
import SqlWriter.Condition

/-! Entries in the order in which their keys were first written, each with its last value. -/

namespace SqlWriter

section entries

variable {α : Type} {writes entries : List (Text × α)} {key name : Text} {value found : α}

/-- A value that was the last one to be written under a key. -/
def IsLastWrite (writes : List (Text × α)) (key : Text) (value : α) : Prop :=
  -- Behind this write there is no other one under the key.
  ∃ before behind, writes = before ++ (key, value) :: behind ∧ key ∉ behind.map Prod.fst

/-- One more write is the last one under its key, and changes nothing for the other keys. -/
theorem isLastWrite_concat_iff :
    IsLastWrite (writes ++ [(key, value)]) name found ↔
      (name = key ∧ found = value) ∨ (name ≠ key ∧ IsLastWrite writes name found) := by
  constructor
  · rintro ⟨before, behind, whole, unwritten⟩
    rcases List.eq_nil_or_concat' behind with rfl | ⟨more, write, rfl⟩
    · -- There is nothing behind the write that was found, so it is the new one.
      obtain ⟨-, same⟩ := List.append_inj' whole rfl
      cases same
      exact .inl ⟨rfl, rfl⟩
    · -- Something is behind the write that was found, so the new one comes last.
      rw [← List.cons_append, ← List.append_assoc] at whole
      obtain ⟨rfl, same⟩ := List.append_inj' whole rfl
      cases same
      rw [List.map_append, List.mem_append, not_or] at unwritten
      exact .inr ⟨by simpa using unwritten.2, before, more, rfl, unwritten.1⟩
  · rintro (⟨rfl, rfl⟩ | ⟨other, before, behind, rfl, unwritten⟩)
    · exact ⟨writes, [], rfl, List.not_mem_nil⟩
    · refine ⟨before, behind ++ [(key, value)], by simp, ?_⟩
      simpa [other] using unwritten

/-- A key was written exactly if there is a last write under it. -/
theorem exists_isLastWrite_iff :
    (∃ value, IsLastWrite writes key value) ↔ key ∈ writes.map Prod.fst := by
  constructor
  · -- A key with a last write is among the keys.
    rintro ⟨value, before, behind, rfl, -⟩
    simp
  · intro there
    -- The induction takes the writes off the end, where the last one is found first.
    induction writes using List.reverseRecOn with
    | nil => cases there
    | append_singleton writes write ih =>
      rcases write with ⟨last, latest⟩
      by_cases same : key = last
      · exact ⟨latest, isLastWrite_concat_iff.mpr (.inl ⟨same, rfl⟩)⟩
      · obtain ⟨value, earlier⟩ := ih (by simpa [same] using there)
        exact ⟨value, isLastWrite_concat_iff.mpr (.inr ⟨same, earlier⟩)⟩

/-- A write under a key changes the entry with that key only. -/
theorem mem_upsert_iff (distinct : (entries.map Prod.fst).Nodup) :
    (name, found) ∈ upsert key value entries ↔
      (name = key ∧ found = value) ∨ (name ≠ key ∧ (name, found) ∈ entries) := by
  -- The write walks over the entries up to its key, behind which the key does not come again.
  induction entries with
  | nil => simp [upsert]
  | cons entry rest ih =>
    rcases entry with ⟨first, old⟩
    rw [List.map_cons, List.nodup_cons] at distinct
    by_cases same : first = key
    -- The write changes this entry, and the key is not among the others.
    · subst same
      have fresh : (first, found) ∉ rest := fun there =>
        distinct.1 (List.mem_map.mpr ⟨_, there, rfl⟩)
      rw [upsert, if_pos rfl, List.mem_cons, List.mem_cons, Prod.mk.injEq, Prod.mk.injEq]
      by_cases own : name = first
      · subst own
        simp [fresh]
      · simp [own]
    · rw [upsert, if_neg same, List.mem_cons, List.mem_cons, ih distinct.2, Prod.mk.injEq]
      by_cases own : name = first
      · subst own
        simp [same]
      · simp [own]

/-- The entry with a key is found under it if no other one has the key. -/
theorem lookup_eq_some_iff_mem (distinct : (entries.map Prod.fst).Nodup) :
    entries.lookup key = some value ↔ (key, value) ∈ entries := by
  rw [List.lookup_eq_some_iff]
  constructor
  · rintro ⟨front, back, rfl, -⟩
    simp
  · intro there
    obtain ⟨front, back, rfl⟩ := List.append_of_mem there
    rw [List.map_append, List.nodup_append] at distinct
    refine ⟨front, back, rfl, fun entry before => ?_⟩
    -- No entry in front of it has the same key.
    have other := distinct.2.2 entry.1 (List.mem_map_of_mem before) key (by simp)
    simpa using other.symm

/-- What writes one after another leave: each key once, where it was first, with its last value. -/
structure LeftBy (writes entries : List (Text × α)) : Prop where
  distinct : (entries.map Prod.fst).Nodup
  -- The index of a key is that of its first write.
  ordered : (entries.map Prod.fst).Pairwise fun earlier later =>
    (writes.map Prod.fst).idxOf earlier < (writes.map Prod.fst).idxOf later
  last : ∀ key value, (key, value) ∈ entries ↔ IsLastWrite writes key value

namespace LeftBy

/-- Nothing is left where nothing was written. -/
theorem nothing : LeftBy (α := α) [] [] where
  distinct := List.nodup_nil
  ordered := .nil
  -- No write is the last one among none.
  last key value := by simp [IsLastWrite]

/-- The keys that are left are those that were written. -/
theorem mem_keys_iff (left : LeftBy writes entries) :
    key ∈ entries.map Prod.fst ↔ key ∈ writes.map Prod.fst := by
  -- A key has an entry exactly if it has a last write, and it has that if it was ever written.
  constructor
  · intro there
    obtain ⟨⟨_, value⟩, entry, rfl⟩ := List.mem_map.mp there
    exact exists_isLastWrite_iff.mp ⟨value, (left.last _ _).mp entry⟩
  · intro there
    obtain ⟨value, latest⟩ := exists_isLastWrite_iff.mpr there
    exact List.mem_map.mpr ⟨(key, value), (left.last key value).mpr latest, rfl⟩

/-- The entries with one more write put into them are left by the writes with this one behind. -/
theorem write (left : LeftBy writes entries) (key : Text) (value : α) :
    LeftBy (writes ++ [(key, value)]) (upsert key value entries) := by
  have last : ∀ name found, (name, found) ∈ upsert key value entries ↔
      IsLastWrite (writes ++ [(key, value)]) name found := by
    intro name found
    rw [mem_upsert_iff left.distinct, isLastWrite_concat_iff, left.last]
  have index : ∀ name ∈ entries.map Prod.fst,
      ((writes ++ [(key, value)]).map Prod.fst).idxOf name = (writes.map Prod.fst).idxOf name := by
    intro name there
    rw [List.map_append]
    exact List.idxOf_append_of_mem (left.mem_keys_iff.mp there)
  -- The keys from before keep their places, also if a new one comes behind them.
  have before : (entries.map Prod.fst).Pairwise fun earlier later =>
      ((writes ++ [(key, value)]).map Prod.fst).idxOf earlier <
        ((writes ++ [(key, value)]).map Prod.fst).idxOf later := by
    apply left.ordered.imp_of_mem
    intro earlier later one other ordered
    rw [index _ one, index _ other]
    exact ordered
  -- The key is new or it has a place, and only a new key adds one.
  by_cases there : key ∈ entries.map Prod.fst
  · have keys : (upsert key value entries).map Prod.fst = entries.map Prod.fst := by
      rw [map_fst_upsert, if_pos there]
    exact ⟨keys ▸ left.distinct, keys ▸ before, last⟩
  · have keys : (upsert key value entries).map Prod.fst = entries.map Prod.fst ++ [key] := by
      rw [map_fst_upsert, if_neg there]
    have behind : ∀ name ∈ entries.map Prod.fst,
        ((writes ++ [(key, value)]).map Prod.fst).idxOf name <
          ((writes ++ [(key, value)]).map Prod.fst).idxOf key := by
      intro name earlier
      -- The first write under the new key is the one that was just made.
      have fresh : key ∉ writes.map Prod.fst := fun known => there (left.mem_keys_iff.mpr known)
      have bound := List.idxOf_lt_length_iff.mpr (left.mem_keys_iff.mp earlier)
      rw [index name earlier, List.map_append, List.idxOf_append_of_notMem fresh]
      omega
    refine ⟨?distinct, ?ordered, last⟩
    case distinct =>
      rw [keys, List.nodup_append]
      refine ⟨left.distinct, List.nodup_singleton key, ?_⟩
      intro name earlier other new same
      rw [List.mem_singleton.mp new] at same
      exact there (same ▸ earlier)
    case ordered =>
      rw [keys, List.pairwise_append]
      refine ⟨before, List.pairwise_singleton _ key, ?_⟩
      intro name earlier other new
      rw [List.mem_singleton.mp new]
      exact behind name earlier

/-- Whatever was left before, more writes leave what all of them together do. -/
theorem writeAll (left : LeftBy writes entries) (more : List (Text × α)) :
    LeftBy (writes ++ more)
      (more.foldl (fun entries write => upsert write.1 write.2 entries) entries) := by
  -- The entries keep the law at each step, so the induction is over the writes that are left.
  induction more generalizing writes entries with
  | nil =>
    rw [List.append_nil]
    exact left
  | cons write more ih =>
    -- The first of them joins the writes that were made before.
    rw [← List.singleton_append, ← List.append_assoc]
    exact ih (left.write write.1 write.2)

/-- The last value that was written under a key is found under it. -/
theorem lookup_eq_some_iff (left : LeftBy writes entries) :
    entries.lookup key = some value ↔ IsLastWrite writes key value := by
  -- With distinct keys, a lookup finds exactly the entries, which are the last writes.
  rw [lookup_eq_some_iff_mem left.distinct, left.last]

/-- Nothing is found under the keys that were never written. -/
theorem lookup_eq_none_iff (left : LeftBy writes entries) :
    entries.lookup key = none ↔ key ∉ writes.map Prod.fst := by
  -- Nothing is found if there is no last write, and so no write at all.
  rw [← exists_isLastWrite_iff, Option.eq_none_iff_forall_ne_some, not_exists]
  simp only [ne_eq, left.lookup_eq_some_iff]

/-- There are as many entries as different keys were written. -/
theorem length_eq (left : LeftBy writes entries) :
    entries.length = (writes.map Prod.fst).toFinset.card := by
  -- Distinct keys are counted by their set, which is the same for the entries and the writes.
  have same : (entries.map Prod.fst).toFinset = (writes.map Prod.fst).toFinset := by
    ext key
    rw [List.mem_toFinset, List.mem_toFinset, left.mem_keys_iff]
  rw [← same, List.toFinset_card_of_nodup left.distinct, List.length_map]

end LeftBy

end entries

namespace Record

/-- The steps in which a record is built. -/
inductive Step where
  | insert (key : Text) (value : Option Scalar)
  | define (key : Text) (value : Scalar)
  | undefine (key : Text)
  /-- A record that is collected from pairs takes the place of the one before. -/
  | collect (pairs : List (Text × Scalar))

/-- The record behind one more step. -/
def Step.apply (record : Record) : Step → Record
  | .insert key value => record.insert key value
  | .define key value => record.define key value
  | .undefine key => record.undefine key
  | .collect pairs => .ofList (pairs.map fun (key, value) => (key, some value))

/-- The writes that count behind one more step. -/
def Step.extend (writes : List (Text × Option Scalar)) : Step → List (Text × Option Scalar)
  | .insert key value => writes ++ [(key, value)]
  | .define key value => writes ++ [(key, some value)]
  | .undefine key => writes ++ [(key, none)]
  -- A collection starts anew, with the pairs as its only writes.
  | .collect pairs => pairs.map fun (key, value) => (key, some value)

/-- The record that steps build out of the empty one. -/
def build (steps : List Step) : Record :=
  steps.foldl Step.apply empty

/-- The writes that count behind steps, in the order in which they were made. -/
def history (steps : List Step) : List (Text × Option Scalar) :=
  steps.foldl Step.extend []

/-- What a record shows of the writes behind it. -/
structure Shows (record : Record) (writes : List (Text × Option Scalar)) : Prop where
  fields : LeftBy writes record.fields
  -- A key that was written as undefined is told from one that was never written.
  get : ∀ key value, record.get? key = some value ↔ IsLastWrite writes key value
  absent : ∀ key, record.get? key = none ↔ key ∉ writes.map Prod.fst
  size : record.size = (writes.map Prod.fst).toFinset.card
  inOrder : record.definedKeys.Sublist (record.fields.map Prod.fst)
  defined : ∀ key, key ∈ record.definedKeys ↔ ∃ value, IsLastWrite writes key (some value)

/-- A collected record has the fields that its pairs leave as writes. -/
theorem leftBy_ofList (writes : List (Text × Option Scalar)) :
    LeftBy writes (ofList writes).fields := by
  -- Building a record from a list writes its entries one after another.
  have fields : (ofList writes).fields =
      writes.foldl (fun entries write => upsert write.1 write.2 entries) [] :=
    (List.foldl_hom Record.fields fun _ _ => rfl).symm
  rw [fields]
  exact LeftBy.nothing.writeAll writes

/-- A step leaves what the writes behind it do, if the record before it was left by its writes. -/
theorem leftBy_apply {record : Record} {writes : List (Text × Option Scalar)}
    (left : LeftBy writes record.fields) (step : Step) :
    LeftBy (step.extend writes) (step.apply record).fields := by
  -- Every step is one write, apart from the one that starts again from a list.
  cases step with
  | insert key value => exact left.write key value
  | define key value => exact left.write key (some value)
  | undefine key => exact left.write key none
  | collect pairs => exact leftBy_ofList _

/-- All steps together leave the writes that count behind the last of them. -/
theorem leftBy_build (steps : List Step) : LeftBy (history steps) (build steps).fields := by
  -- The law holds of the empty record, and each step keeps it.
  suffices kept : ∀ (record : Record) (writes : List (Text × Option Scalar)),
      LeftBy writes record.fields →
        LeftBy (steps.foldl Step.extend writes) (steps.foldl Step.apply record).fields from
    kept empty [] LeftBy.nothing
  induction steps with
  | nil => exact fun record writes left => left
  | cons step rest ih => exact fun record writes left => ih _ _ (leftBy_apply left step)

/-- A record whose fields are left by writes shows their last values, and nothing else. -/
theorem shows_of_leftBy {record : Record} {writes : List (Text × Option Scalar)}
    (left : LeftBy writes record.fields) : record.Shows writes where
  fields := left
  get _ _ := left.lookup_eq_some_iff
  absent _ := left.lookup_eq_none_iff
  size := left.length_eq
  inOrder := List.filter_sublist.map Prod.fst
  -- A key is defined if its entry holds a value, and its entry is its last write.
  defined key := by
    simp only [definedKeys, List.mem_map, List.mem_filter]
    constructor
    · -- An entry with a value is the last write under its key.
      rintro ⟨⟨_, value⟩, ⟨there, present⟩, rfl⟩
      obtain ⟨value, rfl⟩ := Option.isSome_iff_exists.mp present
      exact ⟨value, (left.last _ _).mp there⟩
    · rintro ⟨value, latest⟩
      exact ⟨(key, some value), ⟨(left.last _ _).mpr latest, rfl⟩, rfl⟩

end Record

namespace Condition

/-- The tree that a sequence of calls makes of another one, each setting a condition under a key. -/
def build (start : Condition) (calls : List (Text × Condition)) : Condition :=
  calls.foldl (fun tree (key, condition) => tree.set key condition) start

/-- A group stays one, and the calls are written into its entries. -/
theorem build_group (entries calls : List (Text × Condition)) :
    build (.group entries) calls = .group
      (calls.foldl (fun entries call => upsert call.1 call.2 entries) entries) := by
  -- Each call writes one entry into the group that the calls before it have built.
  induction calls generalizing entries with
  | nil => rfl
  | cons call rest ih => exact ih (upsert call.1 call.2 entries)

/-- The first call drops a tree that is no group, as if it were the empty one. -/
theorem build_of_not_isGroup {start : Condition} (other : start.isGroup = false)
    {calls : List (Text × Condition)} (called : calls ≠ []) :
    build start calls = build .empty calls := by
  -- The first call starts a new tree in the place of anything that is no group.
  obtain ⟨⟨key, condition⟩, rest, rfl⟩ := List.exists_cons_of_ne_nil called
  -- What was there before is lost, whichever of the two forms it has.
  have first : start.set key condition = Condition.empty.set key condition := by
    cases start with
    | group entries => cases other
    | scalar value => rfl
    | list items => rfl
  show build (start.set key condition) rest = build (Condition.empty.set key condition) rest
  rw [first]

end Condition

/--
Records and groups of conditions keep their fields in the order of the first writes.

After every sequence of steps a record has each key once, with the value of its last write. Calls
that set conditions do the same to the empty tree, and to every tree that is no group.
-/
theorem built_by_last_writes :
    (∀ steps : List Record.Step, (Record.build steps).Shows (Record.history steps)) ∧
      ∀ calls : List (Text × Condition), ∃ entries,
        Condition.build .empty calls = .group entries ∧ LeftBy calls entries ∧
          ∀ start : Condition, start.isGroup = false → calls ≠ [] →
            Condition.build start calls = .group entries := by
  -- Records and trees are built by the same kind of writes, which were followed on their own.
  constructor
  · intro steps
    exact Record.shows_of_leftBy (Record.leftBy_build steps)
  · intro calls
    have tree := Condition.build_group [] calls
    refine ⟨_, tree, LeftBy.nothing.writeAll calls, ?_⟩
    intro start other called
    rw [Condition.build_of_not_isGroup other called]
    exact tree

/-- A key that is overwritten keeps its place, and being undefined is a value like any other. -/
theorem built_by_last_writes_overwritten :
    let steps : List Record.Step := [.define "old".toList .null,
      .collect [("id".toList, .int 1), ("by".toList, .null)], .define "name".toList (.text []),
      .undefine "by".toList, .insert "id".toList (some (.int 2))]
    let calls := [("a".toList, Condition.scalar .null), ("b".toList, .empty), ("a".toList, .empty)]
    (Record.build steps).get? "id".toList = some (some (.int 2)) ∧
      (Record.build steps).get? "by".toList = some none ∧
      (Record.build steps).get? "old".toList = none ∧ (Record.build steps).size = 3 ∧
      (Record.build steps).fields.map Prod.fst = ["id".toList, "by".toList, "name".toList] ∧
      Condition.build (.scalar .null) calls =
        .group [("a".toList, .empty), ("b".toList, .empty)] := by
  intro steps calls
  obtain ⟨records, trees⟩ := built_by_last_writes
  -- The laws hold of these steps, so that each value is read off its last write.
  have shows := records steps
  obtain ⟨entries, tree, -, dropped⟩ := trees calls
  -- Nothing is written under this key again behind the second record step.
  have last : IsLastWrite (Record.history steps) "id".toList (some (.int 2)) :=
    ⟨_, [], rfl, List.not_mem_nil⟩
  have undefined : IsLastWrite (Record.history steps) "by".toList none :=
    ⟨[_, _, _], [_], rfl, by decide⟩
  refine ⟨(shows.get _ _).mpr last, (shows.get _ _).mpr undefined, (shows.absent _).mpr (by decide),
    shows.size.trans (by decide), by decide, ?_⟩
  rw [dropped (.scalar .null) rfl (List.cons_ne_nil _ _), ← tree]
  rfl

end SqlWriter
