import Mathlib.Data.List.Nodup
import SqlWriter.Proofs.Request.Decoding

/-! Statements as JSON requests, which are read as statements that are written alike. -/

namespace SqlWriter

/-- The value of a setting as the member of a request has it; an option that is open is null. -/
def Setting.toJson : Setting → Json
  | .columns value | .source value | .table value | .filter value => value
  | .orderBy value | .expression value | .label value | .content value => value
  | .order direction => orNull (fun direction => .string direction.keyword) direction
  | .limit count | .skip count => orNull (fun count => .integer count.toNat) count
  | .ignoreUndefined choice => orNull .bool choice

/-- The settings of a selection of columns, each of them spelled out. -/
def Select.settings (select : Select) (columns : Columns) : List Setting := [
  .columns columns.toJson,
  .source (orNull Reference.toJson select.table),
  .filter (orNull Filter.toJson select.filter),
  .orderBy (orNull Reference.toJson select.orderBy),
  .order (some select.order),
  .limit select.limit,
  .skip select.skip
]

/-- The settings of a count, each of them spelled out. -/
def Count.settings (count : Count) : List Setting := [
  .table count.table.toJson,
  .filter (orNull Filter.toJson count.filter),
  .expression count.expression.toJson,
  .label count.label.toJson
]

/-- The settings of a deletion, each of them spelled out. -/
def Delete.settings (delete : Delete) : List Setting := [
  .table delete.table.toJson,
  .filter (orNull Filter.toJson delete.filter)
]

/-- The settings of an update, each of them spelled out. -/
def Update.settings (update : Update) : List Setting := [
  .table update.table.toJson,
  .content update.row.toJson,
  .filter (orNull Filter.toJson update.filter),
  .ignoreUndefined (some update.ignoreUndefined)
]

/-- The settings of an insertion of one row, each of them spelled out. -/
def Insert.settings (insert : Insert) : List Setting := [
  .table insert.table.toJson,
  .content insert.row.toJson,
  .ignoreUndefined (some insert.ignoreUndefined)
]

/-- The settings of an insertion of several rows, each of them spelled out. -/
def InsertMany.settings (insert : InsertMany) : List Setting := [
  .table insert.table.toJson,
  .content (.array (insert.rows.map Record.toJson)),
  .ignoreUndefined (some insert.ignoreUndefined)
]

/-- The settings that ask for a statement; a projection that is computed cannot be asked for. -/
def Statement.settings : Statement → List Setting
  | .select statement =>
    match statement.projection with
    | .columns spec => statement.settings spec
    -- Any spec would do here, since such a statement is outside the domain.
    | .computed _ => statement.settings .all
  | .count statement => statement.settings
  | .delete statement => statement.settings
  | .update statement => statement.settings
  | .insert statement => statement.settings
  | .insertMany statement => statement.settings

/-- A statement as a JSON request, with a spelling of its key for each field. -/
def Statement.toJson (spelling : Field → Text) (statement : Statement) : Json :=
  objectOf (statement.settings.map fun setting => (spelling setting.field, setting.toJson))

/-- Whether a projection is a specification of columns that JSON has. -/
def Projection.hasJson : Projection → Bool
  | .columns spec => spec.hasJson
  | .computed _ => false

/-- Whether the parts of a statement are such that JSON has them. -/
def Statement.hasJson : Statement → Bool
  | .select statement =>
    statement.projection.hasJson && statement.table.all Reference.hasJson &&
      statement.filter.all Filter.hasJson && statement.orderBy.all Reference.hasJson
  | .count statement =>
    statement.table.hasJson && statement.filter.all Filter.hasJson &&
      statement.expression.hasJson && statement.label.hasJson
  -- An undefined value of the row has no document either, so it is refused with its row.
  | .delete statement => statement.table.hasJson && statement.filter.all Filter.hasJson
  | .update statement =>
    statement.table.hasJson && statement.row.hasJson && statement.filter.all Filter.hasJson
  | .insert statement => statement.table.hasJson && statement.row.hasJson
  | .insertMany statement => statement.table.hasJson && statement.rows.all Record.hasJson

/-- The keys that a spelling gives to fields are keys of those fields. -/
def IsSpelling (spelling : Field → Text) : Prop :=
  ∀ field : Field, field.isSpelled (spelling field) = true

/-- A number of rows is read back from its JSON form. -/
theorem rowNumberOfJson_toNat (count : UInt64) :
    rowNumberOfJson (.integer count.toNat) = .ok count := by
  -- A count of the machine type is in the range the reader tests.
  have small : (count.toNat : Int) < UInt64.size := by
    exact_mod_cast count.toNat_lt_size
  have inRange : (decide (0 ≤ (count.toNat : Int)) &&
      decide ((count.toNat : Int) < UInt64.size)) = true := by
    simp only [Bool.and_eq_true, decide_eq_true_eq]
    exact ⟨Int.natCast_nonneg _, small⟩
  rw [rowNumberOfJson, if_pos inRange, Int.toNat_natCast, UInt64.ofNat_toNat]

/-- An option that is null where it is open is read back. -/
theorem unlessNull_orNull {α : Type} {toJson : α → Json} {read : Json → Except RequestFault α}
    (seen : ∀ value, toJson value ≠ .null) (back : ∀ value, read (toJson value) = .ok value)
    (option : Option α) : unlessNull read (orNull toJson option) = .ok option := by
  -- A null is read as no value, so no value of the domain may be spelled as null.
  cases option with
  | none => rfl
  | some value =>
    rw [orNull, unlessNull, back]
    · rfl
    · exact seen value

/-- A direction is read back from its keyword. -/
theorem directionOfJson_keyword (direction : SortDirection) :
    directionOfJson (.string direction.keyword) = .ok direction := by
  -- The two keywords are read by their own cases.
  cases direction <;> rfl

/-- Every setting is read back from the member for it. -/
theorem Setting.ofJson_toJson (setting : Setting) :
    Setting.ofJson setting.toJson setting.field = .ok setting := by
  -- Options go through null, so each of them needs its own way back.
  cases setting with
  | columns _ | source _ | table _ | filter _ => rfl
  | orderBy _ | expression _ | label _ | content _ => rfl
  | order direction =>
    exact congrArg (Except.map _) (unlessNull_orNull nofun directionOfJson_keyword direction)
  | limit count | skip count =>
    exact congrArg (Except.map _) (unlessNull_orNull nofun rowNumberOfJson_toNat count)
  | ignoreUndefined choice =>
    have back (value : Bool) : choiceOfJson (.bool value) = .ok value := rfl
    exact congrArg (Except.map _) (unlessNull_orNull nofun back choice)

/-- Every spelling of a field of a kind stands for that field in the requests of that kind. -/
theorem Field.ofKey?_of_isSpelled {kind : StatementKind} {field : Field}
    (there : field ∈ kind.fields) {key : Text} (spelled : field.isSpelled key = true) :
    Field.ofKey? kind key = some field := by
  -- No two fields of one kind share a spelling, which is checked for each of their keys.
  have apart : ∀ kind : StatementKind, ∀ field ∈ kind.fields,
      ∀ key ∈ field.key :: field.otherKeys, Field.ofKey? kind key.toList = some field := by
    intro kind
    cases kind <;> decide
  simp only [Field.isSpelled, Bool.or_eq_true, beq_iff_eq, List.any_eq_true] at spelled
  rcases spelled with rfl | ⟨other, among, rfl⟩
  · exact apart kind field there _ (List.mem_cons_self ..)
  · exact apart kind field there _ (List.mem_cons_of_mem _ among)

/-- Settings for different fields of one kind are read back from the members for them. -/
theorem readSettings_toJson {kind : StatementKind} {spelling : Field → Text}
    (spelled : IsSpelling spelling) {settings : List Setting} {seen : List Field}
    (known : ∀ setting ∈ settings, setting.field ∈ kind.fields)
    (apart : (settings.map Setting.field).Nodup)
    (fresh : ∀ setting ∈ settings, setting.field ∉ seen) :
    readSettings kind seen
      (settings.map fun setting => (spelling setting.field, setting.toJson)) = .ok settings := by
  -- The fields seen so far grow with each setting that is read, so the induction is on all of them.
  rw [readSettings_eq_ok_iff]
  induction settings generalizing seen with
  | nil => exact .nil
  | cons setting rest ih =>
    obtain ⟨own, others⟩ := List.forall_mem_cons.mp known
    obtain ⟨first, later⟩ := List.forall_mem_cons.mp fresh
    obtain ⟨alone, apart⟩ := List.nodup_cons.mp apart
    refine .read (Field.ofKey?_of_isSpelled own (spelled setting.field)) first
      setting.ofJson_toJson (ih others apart fun other member => ?_)
    -- A later setting is for a field that was not seen before this one, and not for this one.
    intro before
    rcases List.mem_cons.mp before with same | earlier
    · exact alone (same ▸ List.mem_map_of_mem member)
    · exact later other member earlier

/-- The settings of a statement are for different fields of its kind. -/
theorem Statement.settings_fields (statement : Statement) :
    (∀ setting ∈ statement.settings, setting.field ∈ statement.kind.fields) ∧
      (statement.settings.map Setting.field).Nodup := by
  -- The settings of a kind are listed field by field, each field of the kind at most once.
  cases statement with
  | select statement =>
    simp only [Statement.settings]
    cases statement.projection <;> simp [Select.settings, Setting.field, Statement.kind,
      StatementKind.fields]
  | count _ | delete _ | update _ | insert _ | insertMany _ =>
    simp [Statement.settings, Count.settings, Delete.settings, Update.settings, Insert.settings,
      InsertMany.settings, Setting.field, Statement.kind, StatementKind.fields]

/-- The spellings of different fields of one kind are different. -/
theorem map_spelling_nodup {kind : StatementKind} {spelling : Field → Text}
    (spelled : IsSpelling spelling) {fields : List Field}
    (known : ∀ field ∈ fields, field ∈ kind.fields)
    (apart : fields.Nodup) : (fields.map spelling).Nodup := by
  -- A spelling that two fields share would stand for both of them.
  refine List.Nodup.map_on (fun first there second here same => ?_) apart
  have firstNamed := Field.ofKey?_of_isSpelled (known first there) (spelled first)
  have secondNamed := Field.ofKey?_of_isSpelled (known second here) (spelled second)
  rw [same, secondNamed] at firstNamed
  exact (Option.some.inj firstNamed).symm

/-- The request for a statement is read as the settings that ask for it. -/
theorem Statement.ofJson_toJson_eq {spelling : Field → Text} (spelled : IsSpelling spelling)
    (config : Config) (statement : Statement) :
    Statement.ofJson config statement.kind (statement.toJson spelling) =
      Statement.ofSettings config statement.kind statement.settings := by
  -- The members are kept as they are, since no two settings share a key.
  obtain ⟨known, apart⟩ := statement.settings_fields
  have keys : ((statement.settings.map fun setting =>
      (spelling setting.field, setting.toJson)).map Prod.fst).Nodup := by
    have names : ((statement.settings.map Setting.field).map spelling).Nodup :=
      map_spelling_nodup spelled (List.forall_mem_map.mpr known) apart
    simpa [Function.comp_def] using names
  rw [Statement.toJson, objectOf, collectMembers_of_nodup keys, Statement.ofJson,
    readSettings_toJson spelled known apart (by simp)]

/-- The value of a setting that is not null is read as it is read on its own. -/
theorem readValue_of_setting {α : Type} {settings : List Setting} {field : Field} {json : Json}
    {read : Json → Except Error α} {value : α}
    (own : (settings.find? fun setting => setting.field = field).bind Setting.value? = some json)
    (seen : json ≠ .null) (back : read json = .ok value) :
    readValue settings field read = .ok (some value) := by
  -- A member that is null counts as left out, and this one is not.
  have there : json.unlessNull? = some json := by
    cases json <;> first | rfl | exact absurd rfl seen
  rw [readValue, valueOf?, own, Option.bind_some, there]
  simp only [back]
  rfl

/-- The reference that a setting has is read back. -/
theorem readValue_reference {settings : List Setting} {field : Field} {reference : Reference}
    (fits : reference.hasJson = true)
    (own : (settings.find? fun setting => setting.field = field).bind Setting.value? =
      some reference.toJson) :
    readValue settings field Reference.ofJson = .ok (some reference) := by
  -- A reference is never spelled as null, so it is taken for a value.
  refine readValue_of_setting own ?_ (Reference.ofJson_toJson fits)
  cases reference <;> simp [Reference.toJson]

/-- The reference that a setting may have is read back. -/
theorem readValue_option {settings : List Setting} {field : Field} {reference : Option Reference}
    (fits : reference.all Reference.hasJson = true)
    (own : (settings.find? fun setting => setting.field = field).bind Setting.value? =
      some (orNull Reference.toJson reference)) :
    readValue settings field Reference.ofJson = .ok reference := by
  -- An absent reference is spelled as null, which reads as absent.
  cases reference with
  | none =>
    rw [readValue, valueOf?, own]
    rfl
  | some reference => exact readValue_reference (by simpa using fits) own

/-- The filter that a setting may have is read back. -/
theorem requestFilter_option {settings : List Setting} {filter : Option Filter}
    (fits : filter.all Filter.hasJson = true)
    (own : (settings.find? fun setting => setting.field = .filter).bind Setting.value? =
      some (orNull Filter.toJson filter)) :
    requestFilter settings = filter := by
  rw [requestFilter, valueOf?, own]
  cases filter with
  | none => rfl
  | some filter =>
    -- A filter that were null could not be read back, so it is not taken for one left out.
    have known : filter.hasJson = true := by simpa using fits
    have back := Filter.ofJson?_toJson known
    cases shape : filter.toJson with
    | null => simp [shape, Filter.ofJson?] at back
    | _ => simpa [orNull, shape, Json.unlessNull?] using back

/-- The table that a setting has is the table of the request. -/
theorem requestTable_reference (kind : StatementKind) {settings : List Setting}
    {table : Reference} (fits : table.hasJson = true)
    (own : (settings.find? fun setting => setting.field = .table).bind Setting.value? =
      some table.toJson) :
    requestTable kind settings = .ok table := by
  -- The table is mandatory, and reading it finds the reference.
  rw [requestTable, readValue_reference fits own]
  rfl

/-- The settings of a selection ask for one that is written alike. -/
theorem ofSettings_select (config : Config) {select : Select} {spec : Columns}
    (projected : select.projection = .columns spec)
    (fits : (Statement.select select).hasJson = true) :
    ∃ read, Statement.ofSettings config .select (select.settings spec) = .ok read ∧
      read.write = select.write := by
  simp only [Statement.hasJson, projected, Projection.hasJson, Bool.and_eq_true] at fits
  obtain ⟨⟨⟨columns, table⟩, filter⟩, orderBy⟩ := fits
  obtain ⟨read, back, same⟩ := Columns.ofJson_toJson columns
  -- All but the columns are the same, and the columns are written alike.
  have readColumns : readValue (select.settings spec) .columns Columns.ofJson =
      .ok (some read) :=
    readValue_of_setting rfl (Columns.toJson_ne_null columns) back
  have readTable : readValue (select.settings spec) .source Reference.ofJson = .ok select.table :=
    readValue_option table rfl
  have readOrder :
      readValue (select.settings spec) .orderBy Reference.ofJson = .ok select.orderBy :=
    readValue_option orderBy rfl
  have readFilter : requestFilter (select.settings spec) = select.filter :=
    requestFilter_option filter rfl
  refine ⟨.select { select with projection := .columns read }, ?_, ?_⟩
  · -- The options are found among the settings of the other fields.
    have limit : (select.settings spec).findSome? Setting.limit? = select.limit := by
      cases asked : select.limit <;>
        simp [Select.settings, List.findSome?_cons, Setting.limit?, asked]
    have skip : (select.settings spec).findSome? Setting.skip? = select.skip := by
      cases asked : select.skip <;>
        simp [Select.settings, List.findSome?_cons, Setting.skip?, asked]
    simp only [Statement.ofSettings, Select.ofSettings, readColumns, readTable, readOrder,
      readFilter, limit, skip]
    rfl
  · have sameText : (Projection.columns read).write = select.projection.write := by
      rw [projected]
      exact same.write_eq none
    simp only [Statement.write, Select.write, sameText]
    rfl

/-- The settings of a count ask for that count. -/
theorem ofSettings_count (config : Config) {count : Count}
    (fits : (Statement.count count).hasJson = true) :
    Statement.ofSettings config .count count.settings = .ok (.count count) := by
  -- Each setting is read back by itself, and the four results are put together.
  simp only [Statement.hasJson, Bool.and_eq_true] at fits
  obtain ⟨⟨⟨table, filter⟩, expression⟩, label⟩ := fits
  have readTable : requestTable .count count.settings = .ok count.table :=
    requestTable_reference .count table rfl
  have readExpression : readValue count.settings .expression Reference.ofJson =
      .ok (some count.expression) :=
    readValue_reference expression rfl
  have readLabel : readValue count.settings .label Reference.ofJson = .ok (some count.label) :=
    readValue_reference label rfl
  have readFilter : requestFilter count.settings = count.filter := requestFilter_option filter rfl
  -- Every reader finds the setting that was written for it.
  simp only [Statement.ofSettings, Count.ofSettings, readTable, readExpression, readLabel,
    readFilter]
  rfl

/-- The settings of a deletion ask for that deletion. -/
theorem ofSettings_delete (config : Config) {delete : Delete}
    (fits : (Statement.delete delete).hasJson = true) :
    Statement.ofSettings config .delete delete.settings = .ok (.delete delete) := by
  -- The table and the filter are read back, each from its own setting.
  simp only [Statement.hasJson, Bool.and_eq_true] at fits
  have readTable : requestTable .delete delete.settings = .ok delete.table :=
    requestTable_reference .delete fits.1 rfl
  have readFilter : requestFilter delete.settings = delete.filter :=
    requestFilter_option fits.2 rfl
  simp only [Statement.ofSettings, readTable, readFilter]
  rfl

/-- The settings of an update ask for that update. -/
theorem ofSettings_update (config : Config) {update : Update}
    (fits : (Statement.update update).hasJson = true) :
    Statement.ofSettings config .update update.settings = .ok (.update update) := by
  -- Each setting is read back by itself, and the three results are put together.
  simp only [Statement.hasJson, Bool.and_eq_true] at fits
  obtain ⟨⟨table, row⟩, filter⟩ := fits
  have readTable : requestTable .update update.settings = .ok update.table :=
    requestTable_reference .update table rfl
  have readRow : readValue update.settings .content Record.ofJson = .ok (some update.row) :=
    readValue_of_setting rfl update.row.toJson_ne_null (Record.ofJson_toJson row)
  have readFilter : requestFilter update.settings = update.filter :=
    requestFilter_option filter rfl
  simp only [Statement.ofSettings, readTable, readRow, readFilter]
  rfl

/-- The settings of an insertion of one row ask for that insertion. -/
theorem ofSettings_insert (config : Config) {insert : Insert}
    (fits : (Statement.insert insert).hasJson = true) :
    Statement.ofSettings config .insert insert.settings = .ok (.insert insert) := by
  -- The row is spelled as an object, so it is never taken for a missing one.
  simp only [Statement.hasJson, Bool.and_eq_true] at fits
  have readTable : requestTable .insert insert.settings = .ok insert.table :=
    requestTable_reference .insert fits.1 rfl
  have readRow : readValue insert.settings .content Record.ofJson = .ok (some insert.row) :=
    readValue_of_setting rfl insert.row.toJson_ne_null (Record.ofJson_toJson fits.2)
  simp only [Statement.ofSettings, readTable, readRow]
  rfl

/-- The settings of an insertion of several rows ask for that insertion. -/
theorem ofSettings_insertMany (config : Config) {insert : InsertMany}
    (fits : (Statement.insertMany insert).hasJson = true) :
    Statement.ofSettings config .insertMany insert.settings = .ok (.insertMany insert) := by
  -- The rows are spelled as an array, so a lone object is not met here.
  simp only [Statement.hasJson, Bool.and_eq_true, List.all_eq_true] at fits
  have readTable : requestTable .insertMany insert.settings = .ok insert.table :=
    requestTable_reference .insertMany fits.1 rfl
  have readRows : readValue insert.settings .content Record.listOfJson = .ok (some insert.rows) :=
    readValue_of_setting rfl (by simp) (Record.mapM_ofJson_toJson fits.2)
  simp only [Statement.ofSettings, readTable, readRows]
  rfl

/--
A statement that JSON has the parts of is read back from its request, under every configuration, as
one that is written alike, whatever spellings the keys of the request have.
-/
theorem write_ofJson_toJson {statement : Statement} (fits : statement.hasJson = true)
    (config : Config) {spelling : Field → Text} (spelled : IsSpelling spelling) :
    ∃ read, Statement.ofJson config statement.kind (statement.toJson spelling) = .ok read ∧
      read.write = statement.write := by
  -- The spellings are gone once the settings are read, and each kind asks for its own ones.
  rw [Statement.ofJson_toJson_eq spelled]
  cases statement with
  | select statement =>
    cases projected : statement.projection with
    | columns spec =>
      simp only [Statement.settings, Statement.kind, projected]
      exact ofSettings_select config projected fits
    -- A projection that is computed has no JSON form.
    | computed sql => simp [Statement.hasJson, projected, Projection.hasJson] at fits
  | count statement => exact ⟨_, ofSettings_count config fits, rfl⟩
  | delete statement => exact ⟨_, ofSettings_delete config fits, rfl⟩
  | update statement => exact ⟨_, ofSettings_update config fits, rfl⟩
  | insert statement => exact ⟨_, ofSettings_insert config fits, rfl⟩
  | insertMany statement => exact ⟨_, ofSettings_insertMany config fits, rfl⟩

/-- A selection with a sample record and a nested list for its columns, under a further spelling. -/
theorem write_ofJson_toJson_select :
    let statement := Statement.select {
      projection := .columns (.list [
        .record (.ofList [("id".toList, some (.int 1))]),
        .record (.ofList [("n".toList, some .null)])])
      table := some (.name "t".toList)
      filter := some (.tree (.group [("id".toList, .list [.scalar .null, .group []])]))
      orderBy := some (.list [.name "a".toList, .list [.int (-2), .bool true]])
      skip := some 5 }
    let spelling (field : Field) : Text :=
      if field = .orderBy then "order_by".toList else field.key.toList
    statement.hasJson = true ∧ IsSpelling spelling ∧
      ∃ read, Statement.ofJson {} .select (statement.toJson spelling) = .ok read ∧
        read.write = statement.write := by
  intro statement spelling
  -- The statement is within the domain by computation, and so is the spelling.
  have fits : statement.hasJson = true := by decide
  have spelled : IsSpelling spelling := fun field => by cases field <;> decide
  exact ⟨fits, spelled, write_ofJson_toJson fits {} spelled⟩

end SqlWriter
