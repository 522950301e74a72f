import SqlWriter.Json.Text
import SqlWriter.Proofs.Request.Settings

/-! The parts of statements as JSON values, with values and records read back from them. -/

namespace SqlWriter

/-- An object of members, of which the last one under a key counts. -/
def objectOf (members : List (Text × Json)) : Json :=
  .object (collectMembers members)

/-- A value that may be left out, which is null then. -/
def orNull {α : Type} (toJson : α → Json) : Option α → Json
  | some value => toJson value
  | none => .null

/-- A single value as JSON, where a piece of a statement is no more than its text. -/
def Scalar.toJson : Scalar → Json
  | .null => .null
  | .bool value => .bool value
  | .int value => .integer value.toInt
  | .float value => .float value
  | .text value => .string value
  | .raw sql => .string sql

/-- Whether a value is a null, a boolean, an integer or a text. -/
def Scalar.hasJson : Scalar → Bool
  | .float _ | .raw _ => false
  | _ => true

/-- A record as a JSON object; a field without a value is null. -/
def Record.toJson (row : Record) : Json :=
  objectOf (row.fields.map fun (key, value) => (key, orNull Scalar.toJson value))

/-- Whether every field of a record has a value, and one that JSON has as well. -/
def Record.hasJson (row : Record) : Bool :=
  row.fields.all fun field => field.2.any Scalar.hasJson

mutual

/-- A reference as JSON, where a piece of a statement is no more than its text. -/
def Reference.toJson : Reference → Json
  | .name text => .string text
  | .int value => .integer value.toInt
  | .float value => .float value
  | .bool value => .bool value
  | .raw sql => .string sql
  | .list items => .array (Reference.eachToJson items)

/-- The references of a list, each as JSON. -/
def Reference.eachToJson : List Reference → List Json
  | [] => []
  | item :: rest => item.toJson :: Reference.eachToJson rest

end

mutual

/-- Whether a reference is made of names, booleans, integers and lists of such. -/
def Reference.hasJson : Reference → Bool
  | .name _ | .int _ | .bool _ => true
  | .float _ | .raw _ => false
  | .list items => Reference.allHaveJson items

/-- Whether all references of a list are made of names, booleans, integers and lists. -/
def Reference.allHaveJson : List Reference → Bool
  | [] => true
  | item :: rest => item.hasJson && Reference.allHaveJson rest

end

mutual

/-- A specification of columns as JSON. -/
def Columns.toJson : Columns → Json
  | .text columns => .string columns
  | .list items => .array (Columns.eachToJson items)
  | .record sample => sample.toJson
  | .records samples => .array (samples.map Record.toJson)
  | .literal value => value.toJson

/-- The specifications of a list, each as JSON. -/
def Columns.eachToJson : List Columns → List Json
  | [] => []
  | item :: rest => item.toJson :: Columns.eachToJson rest

end

mutual

/-- Whether a specification is made of texts, samples, lists, and literals that stand bare. -/
def Columns.hasJson : Columns → Bool
  | .text _ => true
  | .list items => Columns.allHaveJson items
  | .record sample => sample.hasJson
  | .records samples => samples.all Record.hasJson
  -- A text as a literal would be read as columns, and a null as all of them.
  | .literal (.bool _) | .literal (.int _) => true
  | .literal _ => false

/-- Whether all specifications of a list are made of texts, samples, lists and bare literals. -/
def Columns.allHaveJson : List Columns → Bool
  | [] => true
  | item :: rest => item.hasJson && Columns.allHaveJson rest

end

mutual

/-- A condition tree as JSON. -/
def Condition.toJson : Condition → Json
  | .scalar value => value.toJson
  | .list items => .array (Condition.eachToJson items)
  | .group entries => objectOf (Condition.entriesToJson entries)

/-- The trees of a list, each as JSON. -/
def Condition.eachToJson : List Condition → List Json
  | [] => []
  | item :: rest => item.toJson :: Condition.eachToJson rest

/-- The entries of a group as the members of an object. -/
def Condition.entriesToJson : List (Text × Condition) → List (Text × Json)
  | [] => []
  | (key, condition) :: rest => (key, condition.toJson) :: Condition.entriesToJson rest

end

mutual

/-- Whether the scalars of a tree are values of JSON, and no group has a key twice. -/
def Condition.hasJson : Condition → Bool
  | .scalar value => value.hasJson
  | .list items => Condition.allHaveJson items
  | .group entries => (entries.map Prod.fst).Nodup && Condition.entriesHaveJson entries

/-- Whether the trees of a list have scalars of JSON, and no keys twice. -/
def Condition.allHaveJson : List Condition → Bool
  | [] => true
  | item :: rest => item.hasJson && Condition.allHaveJson rest

/-- Whether the trees in the entries of a group have scalars of JSON, and no keys twice. -/
def Condition.entriesHaveJson : List (Text × Condition) → Bool
  | [] => true
  | (_, condition) :: rest => condition.hasJson && Condition.entriesHaveJson rest

end

/-- A filter as JSON. -/
def Filter.toJson : Filter → Json
  | .raw sql => .string sql
  | .tree condition => condition.toJson

/-- Whether a filter is a text, or a group of conditions that JSON has. -/
def Filter.hasJson : Filter → Bool
  | .raw _ => true
  | .tree condition => condition.isGroup && condition.hasJson

/-- A write under a new key goes behind the other entries. -/
theorem upsert_of_fresh {α : Type} {key : Text} {value : α} {entries : List (Text × α)}
    (fresh : key ∉ entries.map Prod.fst) :
    upsert key value entries = entries ++ [(key, value)] := by
  -- The search passes every entry, since none has the key, and adds at the end.
  induction entries with
  | nil => rfl
  | cons entry rest ih =>
    rcases entry with ⟨name, old⟩
    obtain ⟨other, behind⟩ := not_or.mp (fun either => fresh (List.mem_cons.mpr either))
    rw [upsert, if_neg (fun same => other same.symm), ih behind, List.cons_append]

/-- Members with distinct keys are collected behind those that have been collected before them. -/
theorem foldl_upsert_of_nodup {collected rest : List (Text × Json)}
    (apart : ((collected ++ rest).map Prod.fst).Nodup) :
    rest.foldl (fun collected (key, value) => upsert key value collected) collected =
      collected ++ rest := by
  -- Each member goes behind the others, so the induction is on the ones still to come.
  induction rest generalizing collected with
  | nil => simp
  | cons member rest ih =>
    rcases member with ⟨key, value⟩
    have fresh : key ∉ collected.map Prod.fst := by
      rw [List.map_append, List.nodup_append] at apart
      exact fun before => apart.2.2 key before key (by simp) rfl
    simp only [List.foldl_cons, upsert_of_fresh fresh]
    rw [ih (by simpa using apart)]
    simp

/-- Members with pairwise distinct keys are kept as they are. -/
theorem collectMembers_of_nodup {members : List (Text × Json)}
    (distinct : (members.map Prod.fst).Nodup) : collectMembers members = members :=
  -- Distinct keys leave nothing to merge.
  foldl_upsert_of_nodup distinct

/-- An integer of sixty-four bits with a sign fits those. -/
theorem fitsInt64_toInt (value : Int64) : fitsInt64 value.toInt = true := by
  -- The bounds of the machine integer are those the reader tests.
  simp only [fitsInt64, Bool.and_eq_true, decide_eq_true_eq]
  exact ⟨value.minValue_le_toInt, value.toInt_le⟩

/-- An integer of sixty-four bits is read back as a value. -/
theorem Scalar.ofInteger_toInt (value : Int64) : Scalar.ofInteger value.toInt = .int value := by
  -- The value is in range, so the reader takes its first branch.
  rw [Scalar.ofInteger, if_pos (fitsInt64_toInt value), Int64.ofInt_toInt]

/-- An integer of sixty-four bits is read back as a reference. -/
theorem Reference.ofInteger_toInt (value : Int64) :
    Reference.ofInteger value.toInt = .int value := by
  -- The value is in range, so the reader takes its first branch.
  rw [Reference.ofInteger, if_pos (fitsInt64_toInt value), Int64.ofInt_toInt]

/-- A value is read back from its JSON form. -/
theorem Scalar.ofJson_toJson {value : Scalar} (fits : value.hasJson = true) :
    Scalar.ofJson value.toJson = .ok value := by
  -- Floats and raw texts have no document, so four cases remain.
  cases value with
  | null | bool _ | text _ => rfl
  | int value => exact congrArg Except.ok (Scalar.ofInteger_toInt value)
  | float _ | raw _ => cases fits

/-- The members of an object for a record have the keys of the record. -/
theorem Record.toJson_eq (row : Record) : row.toJson =
    .object (row.fields.map fun (key, value) => (key, orNull Scalar.toJson value)) := by
  -- The keys of a row are distinct by construction, so no member is merged.
  have keys : (row.fields.map fun (key, value) => (key, orNull Scalar.toJson value)).map Prod.fst =
      row.fields.map Prod.fst := by
    rw [List.map_map]
    rfl
  rw [Record.toJson, objectOf, collectMembers_of_nodup (keys ▸ row.distinct)]

/-- A record is never null. -/
theorem Record.toJson_ne_null (row : Record) : row.toJson ≠ .null := by
  -- A row is spelled as an object.
  simp [Record.toJson, objectOf]

/-- Behind the fields that have been read, the members for the others give these back. -/
theorem Record.foldlM_define_toJson {row : Record} (fits : row.hasJson = true)
    {rest : List (Text × Option Scalar)} {read : Record}
    (whole : read.fields ++ rest = row.fields) :
    (rest.map fun (key, value) => (key, orNull Scalar.toJson value)).foldlM
      (fun record (key, value) => do return record.define key (← fieldOfJson key value)) read =
      Except.ok row := by
  induction rest generalizing read with
  | nil =>
    have same : read = row := by
      cases read
      cases row
      simpa using whole
    rw [same]
    rfl
  | cons field rest ih =>
    rcases field with ⟨key, value⟩
    have own := List.all_eq_true.mp fits (key, value) (by simp [← whole])
    obtain ⟨value, rfl, known⟩ := (Option.any_eq_true ..).mp own
    -- No field that has been read has the key of this one, since the record has it once.
    have fresh : key ∉ read.fields.map Prod.fst := by
      have distinct := row.distinct
      rw [← whole, List.map_append, List.nodup_append] at distinct
      exact fun before => distinct.2.2 key before key (by simp) rfl
    -- The field goes behind those that have been read, as it does in the row.
    have next : (read.define key value).fields = read.fields ++ [(key, some value)] :=
      upsert_of_fresh fresh
    have readField : fieldOfJson key (orNull Scalar.toJson (some value)) = .ok value := by
      rw [fieldOfJson, orNull, Scalar.ofJson_toJson known]
    simp only [List.map_cons, List.foldlM_cons, readField]
    exact ih (by rw [next, ← whole]; simp)

/-- A record is read back from the members for its fields. -/
theorem Record.ofMembers_toJson {row : Record} (fits : row.hasJson = true) :
    Record.ofMembers (row.fields.map fun (key, value) => (key, orNull Scalar.toJson value)) =
      .ok row :=
  -- The members are folded from the empty record, which holds no field yet.
  Record.foldlM_define_toJson fits rfl

/-- A record is read back from its JSON form. -/
theorem Record.ofJson_toJson {row : Record} (fits : row.hasJson = true) :
    Record.ofJson row.toJson = .ok row := by
  -- The written object is read member by member.
  rw [Record.toJson_eq, Record.ofJson, Record.ofMembers_toJson fits]

/-- The members for the entries of a group have the keys of the entries. -/
theorem Condition.map_fst_entriesToJson (entries : List (Text × Condition)) :
    (Condition.entriesToJson entries).map Prod.fst = entries.map Prod.fst := by
  -- Writing a tree copies the keys and touches only what is below them.
  induction entries with
  | nil => rfl
  | cons entry rest ih => simp only [Condition.entriesToJson, List.map_cons, ih]

end SqlWriter
