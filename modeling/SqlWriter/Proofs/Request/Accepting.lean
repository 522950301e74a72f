import SqlWriter.Proofs.Request.Decoding

/-! Which JSON values are read as the parts of statements, and what those are that are not. -/

namespace SqlWriter

section outcomes

variable {ε α β : Type}

/-- Whether an outcome is a result. -/
def Succeeds (outcome : Except ε α) : Prop :=
  ∃ result, outcome = .ok result

/-- A computation succeeds with any change of its result if it does. -/
theorem succeeds_map_iff {outcome : Except ε α} {change : α → β} :
    Succeeds (outcome.map change) ↔ Succeeds outcome := by
  -- Mapping leaves the constructor of an outcome alone.
  cases outcome <;> simp [Succeeds, Except.map]

/-- A walk along a list succeeds exactly if its step does at each item. -/
theorem succeeds_mapM_iff {step : α → Except ε β} {items : List α} :
    Succeeds (items.mapM step) ↔ ∀ item ∈ items, Succeeds (step item) := by
  induction items with
  | nil => simp [Succeeds, Pure.pure, Except.pure]
  | cons item rest ih =>
    rw [List.forall_mem_cons, ← ih, List.mapM_cons]
    -- The walk is over at once if the first step fails.
    cases step item with
    | error error => simp [Succeeds, Bind.bind, Except.bind]
    | ok result =>
      cases rest.mapM step <;> simp [Succeeds, Bind.bind, Except.bind, Pure.pure, Except.pure]

/-- Two lists are related item by item if the second one is what the first one is read as. -/
theorem forall₂_iff_eq_map {relation : α → β → Prop} {read : α → β} {items : List α}
    (each : ∀ item ∈ items, ∀ result, relation item result ↔ result = read item)
    {results : List β} : List.Forall₂ relation items results ↔ results = items.map read := by
  induction items generalizing results with
  -- The relation splits over cells of both lists, so the results are split beside the items.
  | nil => simp
  | cons item rest ih =>
    obtain ⟨own, others⟩ := List.forall_mem_cons.mp each
    cases results with
    | nil => simp
    | cons result more => simp [own, ih others]

end outcomes

namespace Json

/-- Whether a value is neither an array nor an object. -/
def isScalar : Json → Bool
  | .array _ | .object _ => false
  | _ => true

/-- Whether a value is an object whose members are all scalars. -/
def isRow : Json → Bool
  | .object members => members.all fun member => member.2.isScalar
  | _ => false

/--
What holds of scalars, and passes from the parts of an array or an object on to it, always holds.
-/
@[elab_as_elim]
theorem induction {motive : Json → Prop} (scalar : ∀ json, json.isScalar = true → motive json)
    (array : ∀ items, (∀ item ∈ items, motive item) → motive (.array items))
    (object : ∀ members, (∀ member ∈ members, motive member.2) → motive (.object members))
    (json : Json) : motive json := by
  -- The recursor of the nested type asks for motives over its lists and pairs as well.
  refine @Json.rec motive (fun items => ∀ item ∈ items, motive item)
    (fun members => ∀ member ∈ members, motive member.2) (fun member => motive member.2)
    (scalar _ rfl) (fun _ => scalar _ rfl) (fun _ => scalar _ rfl) (fun _ => scalar _ rfl)
    (fun _ => scalar _ rfl) array object ?noItem ?items ?noMember ?members ?member json
  case noItem => simp
  case items => exact fun item rest head tail => List.forall_mem_cons.mpr ⟨head, tail⟩
  case noMember => simp
  case members => exact fun member rest head tail => List.forall_mem_cons.mpr ⟨head, tail⟩
  case member => exact fun key value held => held

/-- The parts of a value that are reached from it through arrays alone, at any depth. -/
inductive Reaches : Json → Json → Prop where
  | itself (json : Json) : Reaches json json
  | item {items : List Json} {item part : Json} (there : item ∈ items) (inner : item.Reaches part) :
    Reaches (.array items) part

/-- Whether a value is an array. -/
def isArray : Json → Bool
  | .array _ => true
  | _ => false

/-- What is no array has no parts but itself. -/
theorem reaches_iff_of_not_array {json part : Json} (other : json.isArray = false) :
    json.Reaches part ↔ part = json := by
  -- Only an array has parts other than itself.
  constructor
  · intro reached
    cases reached with
    | itself => rfl
    | item there inner => cases other
  · rintro rfl
    exact .itself _

/-- An array reaches itself and what its items reach. -/
theorem reaches_array_iff {items : List Json} {part : Json} :
    (Json.array items).Reaches part ↔
      part = .array items ∨ ∃ item ∈ items, item.Reaches part := by
  -- The two constructors of reaching are the two disjuncts.
  constructor
  · intro reached
    cases reached with
    | itself => exact .inl rfl
    | item there inner => exact .inr ⟨_, there, inner⟩
  · rintro (rfl | ⟨item, there, inner⟩)
    · exact .itself _
    · exact .item there inner

/--
A conversion that accepts the arrays of what it accepts is decided by what is no array.

It accepts a value exactly if it accepts everything in it that is reached through arrays.
-/
theorem succeeds_iff_forall_reaches {ε α : Type} {read : Json → Except ε α}
    (arrays : ∀ items, Succeeds (read (.array items)) ↔ ∀ item ∈ items, Succeeds (read item))
    (json : Json) :
    Succeeds (read json) ↔ ∀ part, json.Reaches part → part.isArray = false →
      Succeeds (read part) := by
  -- The induction goes down through the arrays, and stops at the first part that is none.
  induction json using Json.induction with
  | array items ih =>
    rw [arrays]
    constructor
    · intro all part reached other
      rcases reaches_array_iff.mp reached with rfl | ⟨item, there, inner⟩
      · cases other
      · exact (ih item there).mp (all item there) part inner other
    · intro all item there
      exact (ih item there).mpr fun part inner => all part (.item there inner)
  -- What is no array is its only part.
  | scalar json scalar =>
    have other : json.isArray = false := by cases json <;> trivial
    simp [reaches_iff_of_not_array other, other]
  | object members _ =>
    have other : (object members).isArray = false := rfl
    simp [reaches_iff_of_not_array other, other]

end Json

section trees

/--
How a value spells a condition tree.

An object spells a group under the same keys in the same order, an array spells a list, and all else
is a scalar.
-/
inductive SpellsTree : Json → Condition → Prop where
  | scalar {json : Json} {value : Scalar} (read : Scalar.ofJson json = .ok value) :
    SpellsTree json (.scalar value)
  | list {items : List Json} {trees : List Condition}
    (each : List.Forall₂ SpellsTree items trees) : SpellsTree (.array items) (.list trees)
  | group {members : List (Text × Json)} {entries : List (Text × Condition)}
    (keys : entries.map Prod.fst = members.map Prod.fst)
    (each : List.Forall₂ SpellsTree (members.map Prod.snd) (entries.map Prod.snd)) :
    SpellsTree (.object members) (.group entries)

/-- The items of an array are read one by one. -/
theorem Condition.eachOfJson_eq_map (items : List Json) :
    Condition.eachOfJson items = items.map Condition.ofJson := by
  -- The mutual walk takes one item at a time, as the map does.
  induction items with
  | nil => simp only [Condition.eachOfJson, List.map_nil]
  | cons item rest ih => simp only [Condition.eachOfJson, List.map_cons, ih]

/-- The members of an object keep their keys, and their values are read one by one. -/
theorem Condition.membersOfJson_eq_map (members : List (Text × Json)) :
    Condition.membersOfJson members = members.map fun (key, value) => (key, .ofJson value) := by
  -- The keys are kept as they stand, and a twin key is not merged.
  induction members with
  | nil => simp only [Condition.membersOfJson, List.map_nil]
  | cons member rest ih => simp only [Condition.membersOfJson, List.map_cons, ih]

/-- A scalar is read as the value that it is. -/
theorem Condition.ofJson_of_scalar {json : Json} {value : Scalar}
    (read : Scalar.ofJson json = .ok value) : Condition.ofJson json = .scalar value := by
  -- Each scalar case of the reader has the same case among the trees.
  cases json <;> cases read <;> simp only [Condition.ofJson]

/-- Every scalar is read as a value. -/
theorem Scalar.succeeds_ofJson_iff {json : Json} :
    Succeeds (Scalar.ofJson json) ↔ json.isScalar = true := by
  -- An array and an object are the two cases that fault.
  cases json <;> simp [Succeeds, Scalar.ofJson, Json.isScalar]

/-- Every value spells one tree, which is the tree that it is read as. -/
theorem spellsTree_iff {json : Json} {tree : Condition} :
    SpellsTree json tree ↔ tree = Condition.ofJson json := by
  -- The parts of an array or an object spell one tree each, and so the whole does.
  induction json using Json.induction generalizing tree with
  | scalar json isScalar =>
    obtain ⟨value, read⟩ := Scalar.succeeds_ofJson_iff.mpr isScalar
    rw [Condition.ofJson_of_scalar read]
    constructor
    · intro spelled
      cases spelled with
      | scalar other => rw [Except.ok.inj (other.symm.trans read)]
      | list _ => cases isScalar
      | group _ _ => cases isScalar
    · rintro rfl
      exact .scalar read
  | array items ih =>
    have each : ∀ {trees}, List.Forall₂ SpellsTree items trees ↔
        trees = items.map Condition.ofJson :=
      forall₂_iff_eq_map fun item there result => ih item there
    rw [Condition.ofJson, Condition.eachOfJson_eq_map]
    constructor
    · intro spelled
      cases spelled with
      -- No array is read as a scalar.
      | scalar read => cases read
      | list spelled => rw [each.mp spelled]
    · rintro rfl
      exact .list (each.mpr rfl)
  | object members ih =>
    have each : ∀ {trees}, List.Forall₂ SpellsTree (members.map Prod.snd) trees ↔
        trees = (members.map Prod.snd).map Condition.ofJson :=
      forall₂_iff_eq_map (by simpa using fun value key there tree => ih (key, value) there)
    rw [Condition.ofJson, Condition.membersOfJson_eq_map]
    constructor
    · intro spelled
      cases spelled with
      | scalar read => cases read
      | @group _ entries keys spelled =>
        -- Entries are given by their keys and their trees.
        have values := each.mp spelled
        rw [List.zip_of_prod keys values, List.map_map, List.zip_map']
        rfl
    · rintro rfl
      refine .group ?_ (each.mpr ?_)
      · simp
      · simp

end trees

section records

/-- The first member of an object that is no scalar, by its key. -/
inductive FaultsAt (key : Text) : List (Text × Json) → Prop where
  | intro {front back : List (Text × Json)} {value : Json}
    (before : ∀ member ∈ front, member.2.isScalar = true) (fault : value.isScalar = false) :
    FaultsAt key (front ++ (key, value) :: back)

/-- A member that is a scalar is a field with a value. -/
theorem exists_fieldOfJson {value : Json} (scalar : value.isScalar = true) (key : Text) :
    ∃ field, fieldOfJson key value = .ok field := by
  -- The scalar that was read is wrapped, and nothing else can fail.
  obtain ⟨field, read⟩ := Scalar.succeeds_ofJson_iff.mpr scalar
  exact ⟨field, by rw [fieldOfJson, read]⟩

/-- A member that is no scalar is reported by its key. -/
theorem fieldOfJson_of_fault {value : Json} (fault : value.isScalar = false) (key : Text) :
    fieldOfJson key value = .error (.input (.fieldNotScalar key)) := by
  -- The reader succeeds on scalars only, so the first branch contradicts the fault.
  unfold fieldOfJson
  split
  · rename_i scalar read
    rw [Scalar.succeeds_ofJson_iff.mp ⟨scalar, read⟩] at fault
    cases fault
  · rfl

/-- One member of an object is taken into the record of those in front of it. -/
def readMember (record : Record) (member : Text × Json) : Except Error Record := do
  return record.define member.1 (← fieldOfJson member.1 member.2)

/-- An object is read member by member. -/
theorem Record.ofMembers_eq (members : List (Text × Json)) :
    Record.ofMembers members = members.foldlM readMember .empty :=
  -- The loop of the definition is the fold over the members.
  rfl

/-- Scalars in front are taken into the record before the other members are looked at. -/
theorem exists_foldlM_readMember {front : List (Text × Json)}
    (scalars : ∀ member ∈ front, member.2.isScalar = true) (record : Record)
    (back : List (Text × Json)) :
    ∃ read, (front ++ back).foldlM readMember record = back.foldlM readMember read := by
  -- The record grows with each member, so the induction is for all records.
  induction front generalizing record with
  | nil => exact ⟨record, rfl⟩
  | cons member front ih =>
    obtain ⟨own, others⟩ := List.forall_mem_cons.mp scalars
    obtain ⟨field, first⟩ := exists_fieldOfJson own member.1
    obtain ⟨read, further⟩ := ih others (record.define member.1 field)
    refine ⟨read, ?_⟩
    rw [← further, List.cons_append, List.foldlM_cons, readMember, first]
    rfl

/-- An object of scalars is read as a record. -/
theorem Record.succeeds_ofMembers {members : List (Text × Json)}
    (scalars : ∀ member ∈ members, member.2.isScalar = true) :
    Succeeds (Record.ofMembers members) := by
  -- From the empty record the fold meets no fault on the way.
  obtain ⟨read, whole⟩ := exists_foldlM_readMember scalars .empty []
  rw [List.append_nil] at whole
  exact ⟨read, whole⟩

/-- The first member that is no scalar is the one that the error names. -/
theorem Record.ofMembers_of_faultsAt {members : List (Text × Json)} {key : Text}
    (faults : FaultsAt key members) :
    Record.ofMembers members = .error (.input (.fieldNotScalar key)) := by
  -- Every member before the fault is read, and the fold stops at the fault itself.
  obtain ⟨before, fault⟩ := faults
  rename_i front back value
  obtain ⟨read, whole⟩ := exists_foldlM_readMember before .empty ((key, value) :: back)
  rw [Record.ofMembers_eq, whole, List.foldlM_cons, readMember, fieldOfJson_of_fault fault]
  rfl

/-- The members of an object are all scalars, or there is a first one that is none. -/
theorem scalars_or_faultsAt (members : List (Text × Json)) :
    (∀ member ∈ members, member.2.isScalar = true) ∨ ∃ key, FaultsAt key members := by
  -- The search stops at the first member that is no scalar, with scalars in front of it.
  cases found : members.find? fun member => !member.2.isScalar with
  | none =>
    left
    simpa using found
  | some member =>
    obtain ⟨fault, front, back, rfl, before⟩ := List.find?_eq_some_iff_append.mp found
    exact .inr ⟨member.1, .intro (by simpa using before) (by simpa using fault)⟩

/-- An object is read as a record exactly if its members are all scalars. -/
theorem Record.succeeds_ofMembers_iff {members : List (Text × Json)} :
    Succeeds (Record.ofMembers members) ↔ ∀ member ∈ members, member.2.isScalar = true := by
  -- Either all the members are scalars or one of them faults, and a fault is the error.
  refine ⟨fun ⟨record, read⟩ => ?_, Record.succeeds_ofMembers⟩
  rcases scalars_or_faultsAt members with scalars | ⟨key, faults⟩
  · exact scalars
  · rw [Record.ofMembers_of_faultsAt faults] at read
    cases read

/-- The error about the members of an object names the first one that is no scalar. -/
theorem Record.ofMembers_eq_error_iff {members : List (Text × Json)} {error : Error} :
    Record.ofMembers members = .error error ↔
      ∃ key, FaultsAt key members ∧ error = .input (.fieldNotScalar key) := by
  -- The error determines its key, since the first member that faults is the one reported.
  constructor
  · intro failed
    rcases scalars_or_faultsAt members with scalars | ⟨key, faults⟩
    · obtain ⟨record, read⟩ := Record.succeeds_ofMembers scalars
      rw [read] at failed
      cases failed
    · rw [Record.ofMembers_of_faultsAt faults] at failed
      exact ⟨key, faults, (Except.error.inj failed).symm⟩
  · rintro ⟨key, faults, rfl⟩
    exact Record.ofMembers_of_faultsAt faults

/-- A value is read as a record exactly if it is an object of scalars. -/
theorem Record.succeeds_ofJson_iff {json : Json} :
    Succeeds (Record.ofJson json) ↔ json.isRow = true := by
  -- Only an object reaches the reader of members.
  cases json with
  | object members =>
    rw [Record.ofJson, Record.succeeds_ofMembers_iff, Json.isRow, List.all_eq_true]
  | _ => simp [Succeeds, Record.ofJson, Json.isRow]

/-- Values are read as records exactly if they are an object of scalars, or an array of such. -/
theorem Record.succeeds_listOfJson_iff {json : Json} :
    Succeeds (Record.listOfJson json) ↔
      json.isRow = true ∨ ∃ items, json = .array items ∧ ∀ item ∈ items, item.isRow = true := by
  -- A lone object is read as a list of one row, so it needs a case of its own.
  cases json with
  | array items =>
    simp only [Record.listOfJson, succeeds_mapM_iff, Record.succeeds_ofJson_iff]
    simp [Json.isRow]
  | object members =>
    have single : Record.listOfJson (.object members) =
        (Record.ofJson (.object members)).map fun record => [record] := by
      rw [Record.listOfJson]
      · cases Record.ofJson (.object members) <;> rfl
      -- The clause for other values asks that the value is no array.
      · nofun
    rw [single, succeeds_map_iff, Record.succeeds_ofJson_iff]
    simp
  | _ => simp [Succeeds, Record.listOfJson, Record.ofJson, Json.isRow, Bind.bind, Except.bind]

end records

section references

/-- The items of an array are read one by one. -/
theorem Reference.eachOfJson_eq_mapM (items : List Json) :
    Reference.eachOfJson items = items.mapM Reference.ofJson := by
  -- The mutual walk reads one item at a time and stops at the first fault.
  induction items with
  | nil => rw [Reference.eachOfJson]; rfl
  | cons item rest ih => rw [Reference.eachOfJson, List.mapM_cons, ih]

/-- An array is read as a reference exactly if its items are. -/
theorem Reference.succeeds_ofJson_array_iff (items : List Json) :
    Succeeds (Reference.ofJson (.array items)) ↔
      ∀ item ∈ items, Succeeds (Reference.ofJson item) := by
  -- Around the list there is only a wrapper, which cannot fail.
  have whole : Reference.ofJson (.array items) = (items.mapM Reference.ofJson).map .list := by
    rw [Reference.ofJson, Reference.eachOfJson_eq_mapM]
    cases items.mapM Reference.ofJson <;> rfl
  rw [whole, succeeds_map_iff, succeeds_mapM_iff]

/-- A value is read as a reference exactly if there is no null and no object in its arrays. -/
theorem Reference.succeeds_ofJson_iff {json : Json} :
    Succeeds (Reference.ofJson json) ↔
      ∀ part, json.Reaches part → part ≠ .null ∧ part.isObject = false := by
  -- The array case is the one of the shared law, so the parts that are no array decide.
  rw [Json.succeeds_iff_forall_reaches Reference.succeeds_ofJson_array_iff]
  refine forall_congr' fun part => imp_congr_right fun _ => ?_
  cases part <;> simp [Succeeds, Reference.ofJson, Json.isArray, Json.isObject]

end references

section columns

/-- The items of an array are read one by one. -/
theorem Columns.eachOfJson_eq_mapM (items : List Json) :
    Columns.eachOfJson items = items.mapM Columns.ofJson := by
  -- The mutual walk reads one item at a time and stops at the first fault.
  induction items with
  | nil => rw [Columns.eachOfJson]; rfl
  | cons item rest ih => rw [Columns.eachOfJson, List.mapM_cons, ih]

/-- An object as a specification is a sample record. -/
theorem Columns.ofJson_object (members : List (Text × Json)) :
    Columns.ofJson (.object members) = (Record.ofMembers members).map .record := by
  -- The reader of an object is the reader of its members under a constructor.
  rw [Columns.ofJson]
  cases Record.ofMembers members <;> rfl

/-- An array of objects alone is read as sample records, if it has any items. -/
theorem Columns.ofJson_array_of_objects {items : List Json}
    (objects : (!items.isEmpty && items.all Json.isObject) = true) :
    Columns.ofJson (.array items) = (items.mapM Record.ofJson).map .records := by
  -- Rows throughout are read as rows, without the walk over the items.
  rw [Columns.ofJson, if_pos objects]
  cases items.mapM Record.ofJson <;> rfl

/-- Any other array is read item by item. -/
theorem Columns.ofJson_array_of_mixed {items : List Json}
    (mixed : ¬(!items.isEmpty && items.all Json.isObject) = true) :
    Columns.ofJson (.array items) = (items.mapM Columns.ofJson).map .list := by
  -- One item that is no object sends the whole array to the walk.
  rw [Columns.ofJson, if_neg mixed, Columns.eachOfJson_eq_mapM]
  cases items.mapM Columns.ofJson <;> rfl

/-- An array is read as a specification exactly if its items are, whichever form it takes. -/
theorem Columns.succeeds_ofJson_array_iff (items : List Json) :
    Succeeds (Columns.ofJson (.array items)) ↔ ∀ item ∈ items, Succeeds (Columns.ofJson item) := by
  by_cases objects : (!items.isEmpty && items.all Json.isObject) = true
  · rw [Columns.ofJson_array_of_objects objects, succeeds_map_iff, succeeds_mapM_iff]
    -- An object is read alike as a record and as a specification.
    refine forall_congr' fun item => imp_congr_right fun there => ?_
    have object : item.isObject = true :=
      List.all_eq_true.mp (Bool.and_eq_true_iff.mp objects).2 item there
    cases item with
    | object members => rw [Columns.ofJson_object, succeeds_map_iff, Record.ofJson]
    | _ => cases object
  · rw [Columns.ofJson_array_of_mixed objects, succeeds_map_iff, succeeds_mapM_iff]

/-- A value is read as a specification exactly if the objects in its arrays have scalars only. -/
theorem Columns.succeeds_ofJson_iff {json : Json} :
    Succeeds (Columns.ofJson json) ↔ ∀ members, json.Reaches (.object members) →
      ∀ member ∈ members, member.2.isScalar = true := by
  -- Scalars and texts are always read, so only the objects among the parts can fault.
  rw [Json.succeeds_iff_forall_reaches Columns.succeeds_ofJson_array_iff]
  constructor
  · intro all members reached
    -- An object that is reached is read by itself.
    have own := all _ reached rfl
    rwa [Columns.ofJson_object, succeeds_map_iff, Record.succeeds_ofMembers_iff] at own
  · intro all part reached other
    cases part with
    | object members =>
      rw [Columns.ofJson_object, succeeds_map_iff, Record.succeeds_ofMembers_iff]
      exact all members reached
    | array items => cases other
    | _ => simp [Succeeds, Columns.ofJson, Scalar.ofJson, Bind.bind, Except.bind, Pure.pure,
        Except.pure]

/-- An array with an object in front is written like that object alone. -/
theorem Columns.write_ofJson_led {members : List (Text × Json)} {rest : List Json} {spec : Columns}
    (read : Columns.ofJson (.array (.object members :: rest)) = .ok spec) :
    ∃ alone, Columns.ofJson (.object members) = .ok alone ∧
      ∀ table, spec.write table = alone.write table := by
  by_cases objects :
      (!(Json.object members :: rest).isEmpty && (Json.object members :: rest).all Json.isObject) =
        true
  · -- Of sample records the first one counts.
    rw [Columns.ofJson_array_of_objects objects, List.mapM_cons, map_eq_ok_iff] at read
    obtain ⟨samples, read, rfl⟩ := read
    obtain ⟨sample, first, read⟩ := bind_eq_ok_iff.mp read
    obtain ⟨more, -, last⟩ := bind_eq_ok_iff.mp read
    cases last
    refine ⟨.record sample, ?_, fun table => ?_⟩
    · rw [Columns.ofJson_object, map_eq_ok_iff]
      exact ⟨sample, first, rfl⟩
    · simp only [Columns.write]
  · -- Of a list that starts with a sample record, that record counts.
    rw [Columns.ofJson_array_of_mixed objects, List.mapM_cons, map_eq_ok_iff] at read
    obtain ⟨items, read, rfl⟩ := read
    obtain ⟨item, first, read⟩ := bind_eq_ok_iff.mp read
    obtain ⟨more, -, last⟩ := bind_eq_ok_iff.mp read
    cases last
    refine ⟨item, first, fun table => ?_⟩
    rw [Columns.ofJson_object, map_eq_ok_iff] at first
    obtain ⟨sample, -, rfl⟩ := first
    rw [Columns.write_list_record, Columns.write]

end columns

/--
JSON values are read exactly where they have the form of what they are read as.

Every value spells one condition tree, and is read as that. A record is an object of scalars, and
the error about any other object names its first member that is no scalar. Records are such an
object or an array of such. A reference has no null and no object in its arrays, and in the arrays
of a specification every object has scalars only. An array with an object in front is written like
that object alone.
-/
theorem ofJson_accepts_exactly (json : Json) :
    (∀ tree, SpellsTree json tree ↔ tree = Condition.ofJson json) ∧
      (Succeeds (Record.ofJson json) ↔ json.isRow = true) ∧
      (∀ members error, Record.ofJson (.object members) = .error error ↔
        ∃ key, FaultsAt key members ∧ error = .input (.fieldNotScalar key)) ∧
      (Succeeds (Record.listOfJson json) ↔
        json.isRow = true ∨ ∃ items, json = .array items ∧ ∀ item ∈ items, item.isRow = true) ∧
      (Succeeds (Reference.ofJson json) ↔
        ∀ part, json.Reaches part → part ≠ .null ∧ part.isObject = false) ∧
      (Succeeds (Columns.ofJson json) ↔ ∀ members, json.Reaches (.object members) →
        ∀ member ∈ members, member.2.isScalar = true) ∧
      ∀ members rest spec, Columns.ofJson (.array (.object members :: rest)) = .ok spec →
        ∃ alone, Columns.ofJson (.object members) = .ok alone ∧
          ∀ table, spec.write table = alone.write table := by
  -- The parts about trees, lists, references and columns are the laws above, as they stand.
  refine ⟨fun _ => spellsTree_iff, Record.succeeds_ofJson_iff, ?_, Record.succeeds_listOfJson_iff,
    Reference.succeeds_ofJson_iff, Columns.succeeds_ofJson_iff, ?_⟩
  · intro members error
    rw [Record.ofJson, Record.ofMembers_eq_error_iff]
  · intro members rest spec read
    exact Columns.write_ofJson_led read

/-- A sample in front of a text is written alone, and a member that is an array is reported. -/
theorem ofJson_accepts_exactly_led :
    Record.ofJson (.object [("id".toList, .null), ("tags".toList, .array [])]) =
        .error (.input (.fieldNotScalar "tags".toList)) ∧
      ∃ spec,
        Columns.ofJson (.array [.object [("id".toList, .null)], .string "name".toList]) = .ok spec ∧
          spec.write none = (Columns.record (.define .empty "id".toList .null)).write none := by
  -- The fault needs a tag list behind a scalar member, the led array a row in front of a name.
  obtain ⟨-, -, faults, -, -, -, led⟩ := ofJson_accepts_exactly .null
  have read : Columns.ofJson (.array [.object [("id".toList, .null)], .string "name".toList]) =
      .ok (.list [.record (.define .empty "id".toList .null), .text "name".toList]) := by
    rfl
  have before : ∀ member ∈ [("id".toList, Json.null)], member.2.isScalar = true := by decide
  have array : (Json.array []).isScalar = false := rfl
  obtain ⟨alone, single, same⟩ := led _ _ _ read
  cases single
  exact ⟨(faults _ _).mpr ⟨"tags".toList, .intro before array, rfl⟩, _, read, same none⟩

end SqlWriter
