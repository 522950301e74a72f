import Mathlib.Data.List.Forall2
import SqlWriter.Proofs.Value.Ordered
import SqlWriter.Statement.Change

/-! Insertions of several rows: which key each value of a tuple stands under, and which column. -/

namespace SqlWriter

/-- The keys of a record in order, with a value or without. -/
def Record.keys (row : Record) : List Text :=
  row.fields.map Prod.fst

/-- Whether each field of a record has a value. -/
def Record.isDefined (row : Record) : Bool :=
  row.fields.all fun field => field.2.isSome

/-- Whether a text is the written form of the value that a record holds under a key. -/
def HoldsUnder (row : Record) (key cell : Text) : Prop :=
  ∃ value, row.get? key = some (some value) ∧ cell = writeValue value

/-- The text of an insertion with columns, and with a tuple of written values for each row. -/
def insertionText (table : Reference) (columns : List Text) (tuples : List (List Text)) : Text :=
  "INSERT INTO ".toList ++ table.write {} ++ ' ' :: inParens (commaJoined (columns.map fieldKey)) ++
    " VALUES ".toList ++ commaJoined (tuples.map fun cells => inParens (commaJoined cells))

/--
Whether an insertion is written with the given columns, and with the values of each row in order of
the keys that are given for that row.
-/
def InsertMany.PairsUnder (insert : InsertMany) (columns : List Text)
    (keys : Record → List Text) : Prop :=
  ∃ tuples, insert.write = .ok (insertionText insert.table columns tuples) ∧
    List.Forall₂ (fun row cells => List.Forall₂ (HoldsUnder row) (keys row) cells)
      insert.rows tuples

/-- Values that stand under keys are those that are found there. -/
theorem eq_map_of_holdsUnder {row : Record} {keys cells : List Text}
    (held : List.Forall₂ (HoldsUnder row) keys cells) :
    cells = keys.map fun key => fieldValue (row.get? key).join := by
  -- Each cell is the value under its own key, so the cells follow the keys.
  induction held with
  | nil => rfl
  | cons head _ ih =>
    obtain ⟨value, found, rfl⟩ := head
    rw [List.map_cons, ← ih, found]
    rfl

/-- An insertion that pairs values with keys has only one text. -/
theorem InsertMany.PairsUnder.write_eq {insert : InsertMany} {columns : List Text}
    {keys : Record → List Text} (paired : insert.PairsUnder columns keys) :
    insert.write = .ok (insertionText insert.table columns
      (insert.rows.map fun row => (keys row).map fun key => fieldValue (row.get? key).join)) := by
  obtain ⟨tuples, text, pairs⟩ := paired
  have each : tuples = insert.rows.map
      fun row => (keys row).map fun key => fieldValue (row.get? key).join := by
    -- Row by row, the values of a tuple are those that its row holds.
    clear text
    generalize insert.rows = rows at pairs ⊢
    induction pairs with
    | nil => rfl
    | cons head _ ih => rw [List.map_cons, ← ih, eq_map_of_holdsUnder head]
  rw [text, each]

/-- A record holds under a key what the field with that key has. -/
theorem Record.get?_of_mem {row : Record} {key : Text} {value : Option Scalar}
    (there : (key, value) ∈ row.fields) : row.get? key = some value :=
  -- Keys are distinct, so a field that is there is the one the lookup finds.
  (lookup_eq_some_iff_mem row.distinct).mpr there

/-- Every field of a record without undefined fields is written. -/
theorem Record.written_of_isDefined {row : Record} (defined : row.isDefined = true)
    (ignoreUndefined : Bool) : row.written ignoreUndefined = row.fields := by
  -- Every field has a value, so none of them is dropped.
  rw [Record.written, List.filter_eq_self]
  intro field member
  have present := List.all_eq_true.mp defined field member
  rw [present, Bool.true_or]

/-- The columns of a record without undefined fields are its keys. -/
theorem keyList_of_isDefined {row : Record} (defined : row.isDefined = true)
    (ignoreUndefined : Bool) :
    keyList row ignoreUndefined = commaJoined (row.keys.map fieldKey) := by
  -- With nothing dropped the names are those of all the fields.
  rw [keyList, Record.written_of_isDefined defined, Record.keys, List.map_map]
  rfl

/-- The written values of a record without undefined fields stand under its own keys. -/
theorem holdsUnder_keys {row : Record} (defined : row.isDefined = true) :
    List.Forall₂ (HoldsUnder row) row.keys (row.fields.map fun field => fieldValue field.2) := by
  rw [Record.keys, List.forall₂_map_left_iff, List.forall₂_map_right_iff, List.forall₂_same]
  intro field member
  -- A field that is defined has a value, which is the one that is found under its key.
  obtain ⟨value, present⟩ := Option.isSome_iff_exists.mp (List.all_eq_true.mp defined field member)
  refine ⟨value, ?found, ?written⟩
  case found =>
    rw [← present]
    exact Record.get?_of_mem member
  case written =>
    rw [present]
    rfl

/-- An insertion with a first row takes its columns from that row, and has a tuple for each. -/
theorem InsertMany.write_cons {insert : InsertMany} {first : Record} {others : List Record}
    (rows : insert.rows = first :: others) :
    insert.write = .ok ("INSERT INTO ".toList ++ insert.table.write {} ++ ' ' ::
      inParens (keyList first insert.ignoreUndefined) ++ " VALUES ".toList ++
      valueTuples insert.rows insert.ignoreUndefined) := by
  unfold InsertMany.write
  -- The first row is the one that gives the names, so the split is on the rows.
  split
  · rename_i none
    simp [none] at rows
  · rename_i found
    obtain ⟨rfl, rfl⟩ := List.cons.inj (found.symm.trans rows)
    rfl

/-- The tuple of a record without undefined fields holds the written values of its fields. -/
theorem valueTuple_of_isDefined {row : Record} (defined : row.isDefined = true)
    (ignoreUndefined : Bool) : valueTuple row ignoreUndefined =
      inParens (commaJoined (row.fields.map fun field => fieldValue field.2)) := by
  -- With nothing dropped the cells are those of all the fields.
  rw [valueTuple_eq, Record.written_of_isDefined defined]

/-- Rows without undefined fields are written with the values of each under its own keys. -/
theorem pairsUnder_own_keys {insert : InsertMany} {first : Record} {others : List Record}
    (rows : insert.rows = first :: others) (defined : ∀ row ∈ insert.rows, row.isDefined = true)
    {keys : Record → List Text} (own : ∀ row ∈ insert.rows, keys row = row.keys) :
    insert.PairsUnder first.keys keys := by
  -- The cells of a row are its own values, in the order of its own fields.
  refine ⟨insert.rows.map fun row => row.fields.map fun field => fieldValue field.2, ?text, ?pairs⟩
  case text =>
    have columns := keyList_of_isDefined (defined first (by simp [rows])) insert.ignoreUndefined
    have tuples : valueTuples insert.rows insert.ignoreUndefined =
        commaJoined ((insert.rows.map fun row => row.fields.map fun field => fieldValue field.2).map
          fun cells => inParens (commaJoined cells)) := by
      rw [valueTuples, List.map_map]
      refine congrArg commaJoined (List.map_congr_left fun row member => ?_)
      exact valueTuple_of_isDefined (defined row member) insert.ignoreUndefined
    rw [InsertMany.write_cons rows, columns, tuples]
    rfl
  -- Each row is paired with its own keys, one field at a time.
  case pairs =>
    rw [List.forall₂_map_right_iff, List.forall₂_same]
    intro row member
    rw [own row member]
    exact holdsUnder_keys (defined row member)

/--
The columns of an insertion are the keys of its first row, and the values of each row stand under
the keys of that row in its own order.

So they stand under the columns where every row has its keys in the order of the first one.
-/
theorem insertMany_pairs_in_order {insert : InsertMany} {first : Record} {others : List Record}
    (rows : insert.rows = first :: others) (defined : ∀ row ∈ insert.rows, row.isDefined = true) :
    insert.PairsUnder first.keys Record.keys ∧
      ((∀ row ∈ insert.rows, row.keys = first.keys) →
        insert.PairsUnder first.keys fun _ => first.keys) :=
  -- Both parts are the same pairing, under the row's own keys or under those of the first.
  ⟨pairsUnder_own_keys rows defined fun _ _ => rfl,
    fun sameOrder => pairsUnder_own_keys rows defined fun row member => (sameOrder row member).symm⟩

/-- Two rows with their keys in one order have their values under the columns. -/
theorem insertMany_pairs_in_order_two :
    let first := Record.ofList [("id".toList, some (.int 1)), ("n".toList, some (.text "a".toList))]
    let second := Record.ofList [("id".toList, some (.int 2)), ("n".toList, some .null)]
    let insert : InsertMany := { table := .name "t".toList, rows := [first, second] }
    insert.PairsUnder first.keys Record.keys ∧
      insert.PairsUnder first.keys fun _ => first.keys := by
  intro first second insert
  have rows : insert.rows = first :: [second] := rfl
  -- Both rows have the same keys in the same order, so both parts apply.
  have both := insertMany_pairs_in_order rows (by decide)
  exact ⟨both.1, both.2 (by decide)⟩

/-- Rows with the same keys in different orders have values under the columns of other keys. -/
theorem not_pairsUnder_of_reordered :
    let first := Record.ofList
      [("id".toList, some (.int 1)), ("n".toList, some (.text "a".toList))]
    let second := Record.ofList
      [("n".toList, some (.text "b".toList)), ("id".toList, some (.int 2))]
    let insert : InsertMany := { table := .name "t".toList, rows := [first, second] }
    (∀ row ∈ insert.rows, row.isDefined = true) ∧ (∀ row ∈ insert.rows, row.keys.Perm first.keys) ∧
      insert.write = .ok "INSERT INTO `t` (`id`, `n`) VALUES (1, 'a'), ('b', 2)".toList ∧
      ¬ insert.PairsUnder first.keys fun _ => first.keys := by
  intro first second insert
  -- The statement is written, and the row with its keys reordered is in it as it stands.
  have written :
      insert.write = .ok "INSERT INTO `t` (`id`, `n`) VALUES (1, 'a'), ('b', 2)".toList := by
    decide +kernel
  refine ⟨by decide, by decide, written, fun paired => ?_⟩
  -- With the values under the columns, the second tuple would start with the number.
  have swapped : insertionText insert.table first.keys
      (insert.rows.map fun row => first.keys.map fun key => fieldValue (row.get? key).join) =
      "INSERT INTO `t` (`id`, `n`) VALUES (1, 'a'), (2, 'b')".toList := by
    decide +kernel
  have same := paired.write_eq.symm.trans written
  rw [swapped] at same
  exact absurd (Except.ok.inj same) (by decide)

end SqlWriter
