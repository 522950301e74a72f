import Mathlib.Data.List.Forall2
import SqlWriter.Proofs.Request.Encoding

/-! References, condition trees, column specifications and filters, read back from JSON values. -/

namespace SqlWriter

mutual

/-- A reference is read back from its JSON form. -/
theorem Reference.ofJson_toJson : ∀ {reference : Reference}, reference.hasJson = true →
    Reference.ofJson reference.toJson = .ok reference
  | .name _, _ | .bool _, _ => by simp only [Reference.toJson, Reference.ofJson]
  | .int value, _ => by
    simp only [Reference.toJson, Reference.ofJson, Reference.ofInteger_toInt]
  | .float _, fits | .raw _, fits => by simp [Reference.hasJson] at fits
  -- A list is the one case that recurses, and the items are the sibling theorem.
  | .list items, fits => by
    rw [Reference.hasJson] at fits
    simp only [Reference.toJson, Reference.ofJson, Reference.eachOfJson_eachToJson fits]
    rfl

/-- References are read back one by one from their JSON forms. -/
theorem Reference.eachOfJson_eachToJson : ∀ {items : List Reference},
    Reference.allHaveJson items = true →
      Reference.eachOfJson (Reference.eachToJson items) = .ok items
  | [], _ => by simp only [Reference.eachToJson, Reference.eachOfJson]
  -- The head is the theorem about one reference, the rest the hypothesis.
  | item :: rest, fits => by
    simp only [Reference.allHaveJson, Bool.and_eq_true] at fits
    simp only [Reference.eachToJson, Reference.eachOfJson, Reference.ofJson_toJson fits.1,
      Reference.eachOfJson_eachToJson fits.2]
    rfl

end

mutual

/-- A tree is read back from its JSON form. -/
theorem Condition.ofJson_toJson : ∀ {tree : Condition}, tree.hasJson = true →
    Condition.ofJson tree.toJson = tree
  | .scalar value, fits => by
    rw [Condition.hasJson] at fits
    cases value with
    | null | bool _ | text _ => simp only [Condition.toJson, Scalar.toJson, Condition.ofJson]
    | int value =>
      simp only [Condition.toJson, Scalar.toJson, Condition.ofJson, Scalar.ofInteger_toInt]
    | float _ | raw _ => cases fits
  -- The items of a list are the first sibling theorem.
  | .list items, fits => by
    rw [Condition.hasJson] at fits
    simp only [Condition.toJson, Condition.ofJson, Condition.eachOfJson_eachToJson fits]
  -- Distinct keys are what keeps the written object from merging two entries.
  | .group entries, fits => by
    simp only [Condition.hasJson, Bool.and_eq_true, decide_eq_true_eq] at fits
    have distinct : ((Condition.entriesToJson entries).map Prod.fst).Nodup := by
      rw [Condition.map_fst_entriesToJson]
      exact fits.1
    simp only [Condition.toJson, objectOf, collectMembers_of_nodup distinct, Condition.ofJson,
      Condition.membersOfJson_entriesToJson fits.2]

/-- Trees are read back one by one from their JSON forms. -/
theorem Condition.eachOfJson_eachToJson : ∀ {items : List Condition},
    Condition.allHaveJson items = true →
      Condition.eachOfJson (Condition.eachToJson items) = items
  | [], _ => by simp only [Condition.eachToJson, Condition.eachOfJson]
  -- The head is the theorem about one tree, the rest the hypothesis.
  | item :: rest, fits => by
    simp only [Condition.allHaveJson, Bool.and_eq_true] at fits
    simp only [Condition.eachToJson, Condition.eachOfJson, Condition.ofJson_toJson fits.1,
      Condition.eachOfJson_eachToJson fits.2]

/-- The entries of a group are read back from the members for them. -/
theorem Condition.membersOfJson_entriesToJson : ∀ {entries : List (Text × Condition)},
    Condition.entriesHaveJson entries = true →
      Condition.membersOfJson (Condition.entriesToJson entries) = entries
  | [], _ => by simp only [Condition.entriesToJson, Condition.membersOfJson]
  -- Keys are copied, so only the trees below them are read back.
  | (key, condition) :: rest, fits => by
    simp only [Condition.entriesHaveJson, Bool.and_eq_true] at fits
    simp only [Condition.entriesToJson, Condition.membersOfJson, Condition.ofJson_toJson fits.1,
      Condition.membersOfJson_entriesToJson fits.2]

end

/-- Whether two specifications are written alike, and are a sample record both or neither. -/
structure Columns.SameText (spec read : Columns) : Prop where
  write_eq : ∀ table, read.write table = spec.write table
  record_iff : ∀ sample, read = .record sample ↔ spec = .record sample

/-- A specification is written like itself. -/
theorem Columns.SameText.refl (spec : Columns) : spec.SameText spec :=
  -- A spec has its own text, and the same rows among its columns.
  ⟨fun _ => rfl, fun _ => Iff.rfl⟩

/-- What is written like one specification is written like those that this one is written like. -/
theorem Columns.SameText.trans {spec middle read : Columns} (first : spec.SameText middle)
    (second : middle.SameText read) : spec.SameText read :=
  -- The two parts are chained each by its own transitivity.
  ⟨fun table => (second.write_eq table).trans (first.write_eq table),
    fun sample => (second.record_iff sample).trans (first.record_iff sample)⟩

/-- Specifications that are written alike one by one are written alike after one another. -/
theorem Columns.writeEach_eq {items reads : List Columns}
    (same : List.Forall₂ Columns.SameText items reads) (table : Option Text) :
    Columns.writeEach table reads = Columns.writeEach table items := by
  -- Items of the same text are written alike at each position.
  induction same with
  | nil => rfl
  | cons head _ ih => simp only [Columns.writeEach, head.write_eq, ih]

/-- A list is written by its first item alone if that is a sample record. -/
theorem Columns.write_list_record (table : Option Text) (sample : Record) (rest : List Columns) :
    (Columns.list (.record sample :: rest)).write table =
      writeColumns table sample.definedKeys := by
  -- A row in front decides the whole list, by its first equation.
  simp only [Columns.write]

/-- A list is written item by item if its first item is no sample record. -/
theorem Columns.write_list_each (table : Option Text) {items : List Columns}
    (unled : ∀ sample rest, items ≠ .record sample :: rest) :
    (Columns.list items).write table = (Columns.writeEach table items).map commaJoined := by
  -- The equation for the rest asks that no row leads.
  rw [Columns.write]
  exact fun sample rest led => unled sample rest led

/-- Lists of specifications that are written alike are written alike. -/
theorem Columns.sameText_list {items reads : List Columns}
    (same : List.Forall₂ Columns.SameText items reads) :
    (Columns.list items).SameText (.list reads) := by
  refine ⟨fun table => ?_, fun sample => by simp⟩
  -- A sample record in front counts alone, and it is in front of both lists or of neither.
  by_cases led : ∃ sample rest, items = .record sample :: rest
  · obtain ⟨sample, rest, rfl⟩ := led
    obtain ⟨read, tail, head, _, rfl⟩ := List.forall₂_cons_left_iff.mp same
    obtain rfl := (head.record_iff sample).mpr rfl
    rw [Columns.write_list_record, Columns.write_list_record]
  · -- No record can lead what was read, since it would lead the list as well.
    have unled : ∀ sample rest, reads ≠ .record sample :: rest := by
      rintro sample rest rfl
      obtain ⟨item, tail, head, _, rfl⟩ := List.forall₂_cons_right_iff.mp same
      exact led ⟨sample, tail, by rw [(head.record_iff sample).mp rfl]⟩
    rw [Columns.write_list_each table unled, Columns.writeEach_eq same,
      Columns.write_list_each table fun sample rest led' => led ⟨sample, rest, led'⟩]

/-- Sample records in a list count like those of a list of samples: only the first one does. -/
theorem Columns.sameText_records (samples : List Record) :
    (Columns.list (samples.map .record)).SameText (.records samples) := by
  -- The first row names the columns in both, and no row at all gives the empty join.
  refine ⟨fun table => ?_, fun sample => by simp⟩
  cases samples with
  | nil => simp [Columns.write, Columns.writeEach, Except.map, commaJoined]
  | cons first rest =>
    rw [List.map_cons, Columns.write_list_record]
    simp only [Columns.write]

/-- Only sample records are objects. -/
theorem Columns.eq_record_of_isObject {spec : Columns} (fits : spec.hasJson = true)
    (object : spec.toJson.isObject = true) :
    ∃ sample, spec = .record sample ∧ sample.hasJson = true := by
  -- Only a record is spelled as an object, a literal being a scalar.
  cases spec with
  | record sample => exact ⟨sample, rfl, by simpa [Columns.hasJson] using fits⟩
  | literal value =>
    cases value <;> simp [Columns.toJson, Scalar.toJson, Json.isObject] at object
  | text _ | list _ | records _ => simp [Columns.toJson, Json.isObject] at object

/-- A specification that JSON has is never null as JSON. -/
theorem Columns.toJson_ne_null {spec : Columns} (fits : spec.hasJson = true) :
    spec.toJson ≠ .null := by
  -- A null literal is the one spec that has no document of its own.
  cases spec with
  | text _ | list _ | records _ => simp [Columns.toJson]
  | record _ => simp [Columns.toJson, Record.toJson, objectOf]
  | literal value =>
    cases value with
    | null => simp [Columns.hasJson] at fits
    | _ => simp [Columns.toJson, Scalar.toJson]

/-- Records are read back one by one from their JSON forms. -/
theorem Record.mapM_ofJson_toJson {rows : List Record} (fits : ∀ row ∈ rows, row.hasJson = true) :
    (rows.map Record.toJson).mapM Record.ofJson = .ok rows := by
  -- Each row is read back on its own, in order.
  induction rows with
  | nil => rfl
  | cons row rest ih =>
    obtain ⟨own, others⟩ := List.forall_mem_cons.mp fits
    rw [List.map_cons, List.mapM_cons, Record.ofJson_toJson own, ih others]
    rfl

/-- A JSON array of records is read as sample records if there is one at all. -/
theorem Columns.ofJson_records {samples : List Record}
    (fits : ∀ sample ∈ samples, sample.hasJson = true) :
    ∃ read, Columns.ofJson (.array (samples.map Record.toJson)) = .ok read ∧
      (Columns.records samples).SameText read := by
  cases samples with
  | nil =>
    -- An empty array is a list of nothing, and nothing is written for either.
    have read : Columns.ofJson (.array ([].map Record.toJson)) = .ok (.list []) := by
      simp [Columns.ofJson, Columns.eachOfJson, Bind.bind, Except.bind, Pure.pure, Except.pure]
    refine ⟨.list [], read, fun table => ?_, by simp⟩
    simp [Columns.write, Columns.writeEach, Except.map, commaJoined]
  | cons first rest =>
    -- Each sample is an object, so the reader takes them for rows.
    have objects : ((first :: rest).map Record.toJson).all Json.isObject = true := by
      simp [Record.toJson, objectOf, Json.isObject]
    refine ⟨.records (first :: rest), ?_, .refl _⟩
    rw [Columns.ofJson, if_pos (by simp only [objects]; rfl), Record.mapM_ofJson_toJson fits]
    rfl

/-- Specifications whose JSON forms are all objects are sample records. -/
theorem Columns.exists_records_of_objects {items : List Columns}
    (fits : Columns.allHaveJson items = true)
    (objects : (Columns.eachToJson items).all Json.isObject = true) :
    ∃ samples : List Record, items = samples.map .record ∧
      Columns.eachToJson items = samples.map Record.toJson ∧
      ∀ sample ∈ samples, sample.hasJson = true := by
  -- Every item spelled as an object is a record, so the samples are collected item by item.
  induction items with
  | nil => exact ⟨[], rfl, by simp [Columns.eachToJson], by simp⟩
  | cons item rest ih =>
    simp only [Columns.allHaveJson, Bool.and_eq_true] at fits
    simp only [Columns.eachToJson, List.all_cons, Bool.and_eq_true] at objects
    obtain ⟨sample, rfl, known⟩ := Columns.eq_record_of_isObject fits.1 objects.1
    obtain ⟨samples, rfl, spelled, all⟩ := ih fits.2 objects.2
    refine ⟨sample :: samples, rfl, ?_, List.forall_mem_cons.mpr ⟨known, all⟩⟩
    simp only [Columns.eachToJson, Columns.toJson, spelled, List.map_cons]

mutual

/-- A specification is read back from its JSON form as one that is written alike. -/
theorem Columns.ofJson_toJson : ∀ {spec : Columns}, spec.hasJson = true →
    ∃ read, Columns.ofJson spec.toJson = .ok read ∧ spec.SameText read
  | .text columns, _ => ⟨.text columns, by simp only [Columns.toJson, Columns.ofJson], .refl _⟩
  | .record sample, fits => by
    rw [Columns.hasJson] at fits
    refine ⟨.record sample, ?_, .refl _⟩
    rw [Columns.toJson, Record.toJson_eq, Columns.ofJson, Record.ofMembers_toJson fits]
    rfl
  | .records samples, fits => by
    simp only [Columns.hasJson, List.all_eq_true] at fits
    rw [Columns.toJson]
    exact Columns.ofJson_records fits
  | .literal value, fits => by
    -- A boolean and an integer are read as themselves, and other literals are left out.
    cases value with
    | bool value =>
      refine ⟨.literal (.bool value), ?_, .refl _⟩
      simp only [Columns.toJson, Scalar.toJson, Columns.ofJson, Scalar.ofJson]
      rfl
    | int value =>
      refine ⟨.literal (.int value), ?_, .refl _⟩
      simp only [Columns.toJson, Scalar.toJson, Columns.ofJson, Scalar.ofJson,
        Scalar.ofInteger_toInt]
      rfl
    | null | float _ | text _ | raw _ => simp [Columns.hasJson] at fits
  | .list items, fits => by
    rw [Columns.hasJson] at fits
    obtain ⟨reads, each, same⟩ := Columns.eachOfJson_eachToJson fits
    rw [Columns.toJson]
    -- Objects alone are read as sample records, of which the first one counts either way.
    by_cases objects : (Columns.eachToJson items).all Json.isObject = true
    · obtain ⟨samples, rfl, spelled, known⟩ := Columns.exists_records_of_objects fits objects
      rw [spelled]
      obtain ⟨read, whole, alike⟩ := Columns.ofJson_records known
      exact ⟨read, whole, (Columns.sameText_records samples).trans alike⟩
    · refine ⟨.list reads, ?_, Columns.sameText_list same⟩
      rw [Columns.ofJson, if_neg (by simp [objects]), each]
      rfl

/-- Specifications are read back one by one as such that are written alike. -/
theorem Columns.eachOfJson_eachToJson : ∀ {items : List Columns},
    Columns.allHaveJson items = true →
      ∃ reads, Columns.eachOfJson (Columns.eachToJson items) = .ok reads ∧
        List.Forall₂ Columns.SameText items reads
  | [], _ => ⟨[], by simp only [Columns.eachToJson, Columns.eachOfJson], .nil⟩
  -- The item is read by the theorem about one spec, which need not give the very same spec.
  | item :: rest, fits => by
    simp only [Columns.allHaveJson, Bool.and_eq_true] at fits
    obtain ⟨read, own, alike⟩ := Columns.ofJson_toJson fits.1
    obtain ⟨reads, others, same⟩ := Columns.eachOfJson_eachToJson fits.2
    refine ⟨read :: reads, ?_, .cons alike same⟩
    simp only [Columns.eachToJson, Columns.eachOfJson, own, others]
    rfl

end

/-- A filter is read back from its JSON form. -/
theorem Filter.ofJson?_toJson {filter : Filter} (fits : filter.hasJson = true) :
    Filter.ofJson? filter.toJson = some filter := by
  cases filter with
  | raw sql => rfl
  | tree condition =>
    simp only [Filter.hasJson, Bool.and_eq_true] at fits
    have whole := Condition.ofJson_toJson fits.2
    -- A group is an object, which is read as a tree and not as a text.
    cases condition with
    | group entries =>
      simp only [Condition.toJson, objectOf, Filter.toJson, Filter.ofJson?] at whole ⊢
      rw [whole]
    | scalar _ | list _ => simp [Condition.isGroup] at fits

end SqlWriter
