import SqlWriter.Proofs.Request.Settings

/-! What settings ask for, field by field: a statement is made from that and from nothing else. -/

namespace SqlWriter

/-- What is asked for, where a field that is null or missing asks for nothing. -/
@[ext]
structure Asked where
  value : Field → Option Json
  order : Option SortDirection
  limit : Option UInt64
  skip : Option UInt64
  ignoreUndefined : Option Bool

/-- What settings ask for. -/
def asked (settings : List Setting) : Asked where
  value := valueOf? settings
  order := settings.findSome? Setting.order?
  limit := settings.findSome? Setting.limit?
  skip := settings.findSome? Setting.skip?
  ignoreUndefined := settings.findSome? Setting.ignoreUndefined?

namespace Asked

/-- Nothing is asked for. -/
def nothing : Asked :=
  ⟨fun _ => none, none, none, none, none⟩

/-- What is asked for first, and in the fields that this leaves open what is asked for second. -/
def orElse (first second : Asked) : Asked where
  value field := (first.value field).or (second.value field)
  order := first.order.or second.order
  limit := first.limit.or second.limit
  skip := first.skip.or second.skip
  ignoreUndefined := first.ignoreUndefined.or second.ignoreUndefined

/-- Where nothing is asked for second, the first one stands alone. -/
@[simp] theorem orElse_nothing (first : Asked) : first.orElse nothing = first := by
  -- Nothing has no value to fall back on, field by field.
  simp [orElse, nothing]

/-- Of three wishes, each one counts in the fields that those before it leave open. -/
theorem orElse_assoc (first second third : Asked) :
    (first.orElse second).orElse third = first.orElse (second.orElse third) := by
  -- Falling back is associative in each option, so it is in the whole.
  simp [orElse, Option.or_assoc]

end Asked

/-- Settings for no field ask for nothing. -/
@[simp] theorem asked_nil : asked [] = .nothing :=
  -- No setting is found in the empty list.
  rfl

/-- An option is taken from the only setting for its field, wherever that stands. -/
theorem findSome?_insert {α : Type} (field : Field) {option : Setting → Option α}
    (silent : ∀ setting : Setting, setting.field ≠ field → option setting = none)
    {before after : List Setting} {setting : Setting}
    (apart : ∀ other ∈ before ++ after, other.field ≠ setting.field) :
    (before ++ setting :: after).findSome? option =
      ((before ++ after).findSome? option).or ([setting].findSome? option) := by
  by_cases own : setting.field = field
  · -- All the other settings are for other fields, which say nothing about the option.
    have others : ∀ other ∈ before ++ after, option other = none :=
      fun other there => silent other (own ▸ apart other there)
    have front : before.findSome? option = none :=
      List.findSome?_eq_none_iff.mpr fun other there => others other (by simp [there])
    have back : after.findSome? option = none :=
      List.findSome?_eq_none_iff.mpr fun other there => others other (by simp [there])
    simp [List.findSome?_append, List.findSome?_cons, front, back]
  · simp [List.findSome?_append, silent setting own]

/-- A single setting has a value for its own field only. -/
theorem valueOf?_singleton (setting : Setting) (field : Field) :
    valueOf? [setting] field =
      if setting.field = field then setting.value?.bind Json.unlessNull? else none := by
  -- The search over one setting is a test of its field.
  rw [valueOf?, List.find?_singleton]
  by_cases own : setting.field = field <;> simp [own]

/-- A value is taken from the only setting for its field, wherever that stands. -/
theorem valueOf?_insert {before after : List Setting} {setting : Setting}
    (apart : ∀ other ∈ before ++ after, other.field ≠ setting.field) (field : Field) :
    valueOf? (before ++ setting :: after) field =
      (valueOf? (before ++ after) field).or (valueOf? [setting] field) := by
  by_cases own : setting.field = field
  · -- No other setting is found for the field, so the value is that of this one.
    have others : ∀ other ∈ before ++ after, ¬other.field = field :=
      fun other there => own ▸ apart other there
    have front : before.find? (fun other => other.field = field) = none :=
      List.find?_eq_none.mpr fun other there => by simpa using others other (by simp [there])
    have back : after.find? (fun other => other.field = field) = none :=
      List.find?_eq_none.mpr fun other there => by simpa using others other (by simp [there])
    simp [valueOf?, List.find?_append, front, back, own]
  · simp [valueOf?, List.find?_append, own]

/-- A setting for a field of its own asks for what the other settings leave open. -/
theorem asked_insert {before after : List Setting} {setting : Setting}
    (apart : ∀ other ∈ before ++ after, other.field ≠ setting.field) :
    asked (before ++ setting :: after) = (asked (before ++ after)).orElse (asked [setting]) := by
  -- Each option has one field, and the settings for all other fields are silent about it.
  ext1
  case value => exact funext (valueOf?_insert apart)
  -- Each of these options is read from the settings of one field alone.
  case order =>
    refine findSome?_insert .order (fun other own => ?_) apart
    cases other <;> simp_all [Setting.order?, Setting.field]
  case limit =>
    refine findSome?_insert .limit (fun other own => ?_) apart
    cases other <;> simp_all [Setting.limit?, Setting.field]
  case skip =>
    refine findSome?_insert .skip (fun other own => ?_) apart
    cases other <;> simp_all [Setting.skip?, Setting.field]
  case ignoreUndefined =>
    refine findSome?_insert .ignoreUndefined (fun other own => ?_) apart
    cases other <;> simp_all [Setting.ignoreUndefined?, Setting.field]

/-- A setting in front of others for other fields asks for what these leave open. -/
theorem asked_cons {setting : Setting} {rest : List Setting}
    (apart : ∀ other ∈ rest, other.field ≠ setting.field) :
    asked (setting :: rest) = (asked rest).orElse (asked [setting]) :=
  -- This is the insertion with nothing in front.
  @asked_insert [] rest setting apart

/-- Settings for different fields ask for the same in every order. -/
theorem asked_perm {settings moved : List Setting} (reordered : settings.Perm moved)
    (apart : (settings.map Setting.field).Nodup) : asked settings = asked moved := by
  induction reordered with
  | nil => rfl
  -- A setting in front stays there, and it is unlike the rest before and after.
  | @cons setting rest more reordered ih =>
    obtain ⟨alone, others⟩ := List.nodup_cons.mp apart
    have fresh : ∀ other ∈ rest, other.field ≠ setting.field :=
      fun other there same => alone (same ▸ List.mem_map_of_mem there)
    have freshMoved : ∀ other ∈ more, other.field ≠ setting.field :=
      fun other there => fresh other (reordered.mem_iff.mpr there)
    rw [asked_cons fresh, asked_cons freshMoved, ih others]
  | swap first second rest =>
    -- The second setting is put in front of the first one, or behind it.
    obtain ⟨alone, others⟩ := List.nodup_cons.mp apart
    have fresh : ∀ other ∈ first :: rest, other.field ≠ second.field :=
      fun other there same => alone (same ▸ List.mem_map_of_mem there)
    exact (asked_cons fresh).trans (@asked_insert [first] rest second fresh).symm
  | trans reordered _ ih further =>
    exact (ih apart).trans (further ((reordered.map Setting.field).nodup_iff.mp apart))

/-- The settings of the program as those of a request, for the options that a kind has. -/
def Config.defaults (config : Config) : StatementKind → List Setting
  | .select => [.order (some config.order)]
  | .count => [.expression (.string config.countExpression), .label (.string config.countAlias)]
  | .delete => []
  | .update | .insert | .insertMany => [.ignoreUndefined (some config.ignoreUndefined)]

/-- Defaults leave nothing open that other defaults could ask for. -/
theorem Config.orElse_defaults (config other : Config) (kind : StatementKind) :
    (asked (config.defaults kind)).orElse (asked (other.defaults kind)) =
      asked (config.defaults kind) := by
  -- Defaults answer the same fields for every configuration, so the first list hides the second.
  ext1
  case value =>
    funext field
    cases kind <;> cases field <;> rfl
  all_goals cases kind <;> rfl

/-- A count reads a default of the program as it would read that text in a request. -/
theorem Count.ofSettings_eq (config : Config) (settings : List Setting) :
    Count.ofSettings config settings = (do
      let table ← requestTable .count settings
      let expression ← Reference.ofJson
        ((valueOf? settings .expression).getD (.string config.countExpression))
      let label ← Reference.ofJson ((valueOf? settings .label).getD (.string config.countAlias))
      return {
        table := table
        filter := requestFilter settings
        expression := expression
        label := label }) := by
  -- The reader of references takes every text for a name.
  have name (words : Text) : Reference.ofJson (.string words) = .ok (.name words) := by
    rw [Reference.ofJson]
  -- An option that is missing is read from its default, which is a text.
  have read (field : Field) (words : Text) :
      Reference.ofJson ((valueOf? settings field).getD (.string words)) =
        (readValue settings field Reference.ofJson).map (·.getD (.name words)) := by
    rw [readValue]
    cases valueOf? settings field with
    | none => exact name words
    | some value => cases found : Reference.ofJson value <;> simp [found, Except.map]
  rw [read, read, Count.ofSettings]
  cases requestTable .count settings <;>
    cases readValue settings .expression Reference.ofJson <;>
    cases readValue settings .label Reference.ofJson <;> rfl

/-- Among the values that are read later than the options, only those of a count have defaults. -/
theorem Config.valueOf?_defaults (config : Config) (kind : StatementKind) {field : Field}
    (plain : field ∉ [Field.expression, .label]) :
    valueOf? (config.defaults kind) field = none := by
  -- A configuration holds defaults for the counted expression and its label alone.
  cases kind <;> cases field <;> first | rfl | simp at plain

/--
A statement depends on nothing but what its settings ask for, with the defaults of the program in
the fields that they leave open.
-/
theorem ofSettings_eq_of_asked {config other : Config} {kind : StatementKind}
    {settings others : List Setting}
    (same : (asked settings).orElse (asked (config.defaults kind)) =
      (asked others).orElse (asked (other.defaults kind))) :
    Statement.ofSettings config kind settings = Statement.ofSettings other kind others := by
  have value (field : Field) := congrFun (congrArg Asked.value same) field
  have order := congrArg Asked.order same
  have limit := congrArg Asked.limit same
  have skip := congrArg Asked.skip same
  have choice := congrArg Asked.ignoreUndefined same
  simp only [Asked.orElse, asked] at value order limit skip choice
  -- No default answers the plain fields, so there the requests agree.
  have sameValue (field : Field) (plain : field ∉ [Field.expression, .label]) :
      valueOf? settings field = valueOf? others field := by
    have both := value field
    rwa [config.valueOf?_defaults kind plain, other.valueOf?_defaults kind plain, Option.or_none,
      Option.or_none] at both
  have sameTable : requestTable kind settings = requestTable kind others := by
    simp (disch := decide) only [requestTable, readValue, sameValue]
  have sameFilter : requestFilter settings = requestFilter others := by
    simp (disch := decide) only [requestFilter, sameValue]
  have sameContent {α : Type} (read : Json → Except Error α) :
      readValue settings .content read = readValue others .content read := by
    simp (disch := decide) only [readValue, sameValue]
  have sameChoice (chosen : kind ∈ [StatementKind.update, .insert, .insertMany]) :
      requestIgnores config settings = requestIgnores other others := by
    -- These kinds have the same default, which decides where nothing is asked for.
    have defaults (config : Config) :
        config.defaults kind = [.ignoreUndefined (some config.ignoreUndefined)] := by
      simp only [List.mem_cons, List.not_mem_nil, or_false] at chosen
      rcases chosen with rfl | rfl | rfl <;> rfl
    simpa [requestIgnores, defaults, Setting.ignoreUndefined?] using choice
  cases kind with
  | select =>
    simp only [Config.defaults, List.findSome?_cons, List.findSome?_nil, Setting.order?,
      Setting.limit?, Setting.skip?, Option.or_some, Option.or_none, Option.some.injEq]
      at order limit skip
    simp (disch := decide) only [Statement.ofSettings, Select.ofSettings, readValue, sameFilter,
      sameValue, order, limit, skip]
  -- The defaults of a count are texts that are read like any other.
  | count =>
    have expression : (valueOf? settings .expression).or (some (.string config.countExpression)) =
        (valueOf? others .expression).or (some (.string other.countExpression)) :=
      value .expression
    have label : (valueOf? settings .label).or (some (.string config.countAlias)) =
        (valueOf? others .label).or (some (.string other.countAlias)) :=
      value .label
    simp only [Option.or_some, Option.some.injEq] at expression label
    simp only [Statement.ofSettings, Count.ofSettings_eq, sameTable, sameFilter, expression, label]
  | delete => simp only [Statement.ofSettings, sameTable, sameFilter]
  | update =>
    simp only [Statement.ofSettings, sameTable, sameFilter, sameContent, sameChoice (by simp)]
  | insert | insertMany =>
    simp only [Statement.ofSettings, sameTable, sameContent, sameChoice (by simp)]

end SqlWriter
