import SqlWriter.Value.Scalar

/-! Records: fields in the order of their first writing, each with a value or undefined. -/

namespace SqlWriter

/-- Writes a value under a key: in its place if the key is there, else behind the other entries. -/
def upsert {α : Type} (key : Text) (value : α) : List (Text × α) → List (Text × α)
  | [] => [(key, value)]
  | (name, old) :: rest =>
    -- Only the first entry under the key is changed.
    if name = key then (name, value) :: rest else (name, old) :: upsert key value rest

/-- After a write, the keys are those from before, with a new one at the end. -/
theorem map_fst_upsert {α : Type} (key : Text) (value : α) (entries : List (Text × α)) :
    (upsert key value entries).map Prod.fst =
      if key ∈ entries.map Prod.fst then entries.map Prod.fst
      else entries.map Prod.fst ++ [key] := by
  -- The write walks over the entries up to its key.
  induction entries with
  | nil => simp [upsert]
  | cons entry rest ih =>
    rcases entry with ⟨name, old⟩
    by_cases same : name = key
    · simp [upsert, same]
    · have other : ¬key = name := fun equal => same equal.symm
      -- The key is added at the end if the rest has none, and the entry in front stays.
      by_cases member : key ∈ rest.map Prod.fst
      · rw [if_pos member] at ih
        simp only [upsert, if_neg same, List.map_cons, ih, List.mem_cons, other, false_or,
          if_pos member]
      · rw [if_neg member] at ih
        simp only [upsert, if_neg same, List.map_cons, ih, List.mem_cons, other, false_or,
          if_neg member, List.cons_append]

/-- Fields with pairwise distinct keys, in order; a field without a value is undefined. -/
structure Record where
  fields : List (Text × Option Scalar)
  distinct : (fields.map Prod.fst).Nodup
deriving DecidableEq

namespace Record

/-- The record without fields. -/
def empty : Record :=
  ⟨[], List.nodup_nil⟩

instance : Inhabited Record := ⟨empty⟩

/-- Writes a field, which keeps its place if its key is there already. -/
def insert (record : Record) (key : Text) (value : Option Scalar) : Record where
  fields := upsert key value record.fields
  distinct := by
    -- A new key joins the others only if it is not among them.
    rw [map_fst_upsert]
    split
    · exact record.distinct
    · rename_i fresh
      rw [List.nodup_append]
      refine ⟨record.distinct, by simp, ?_⟩
      intro name member other last
      rw [List.mem_singleton.mp last]
      rintro rfl
      exact fresh member

/-- Writes a field with a value. -/
def define (record : Record) (key : Text) (value : Scalar) : Record :=
  record.insert key (some value)

/-- Writes a field without a value. -/
def undefine (record : Record) (key : Text) : Record :=
  record.insert key none

/-- The record that a list of fields leaves when they are written one after another. -/
def ofList (fields : List (Text × Option Scalar)) : Record :=
  fields.foldl (fun record (key, value) => record.insert key value) empty

/-- The field under a key, and within it the value unless the field is undefined. -/
def get? (record : Record) (key : Text) : Option (Option Scalar) :=
  record.fields.lookup key

/-- The keys of the fields that have a value. -/
def definedKeys (record : Record) : List Text :=
  (record.fields.filter fun field => field.2.isSome).map Prod.fst

/-- The number of fields, with or without a value. -/
def size (record : Record) : Nat :=
  record.fields.length

/-- Whether a record has no fields at all. -/
def isEmpty (record : Record) : Bool :=
  record.fields.isEmpty

/-- The fields that are written, in order: undefined ones are left out or written as null. -/
def written (record : Record) (ignoreUndefined : Bool) : List (Text × Option Scalar) :=
  record.fields.filter fun field => field.2.isSome || !ignoreUndefined

end Record

end SqlWriter
