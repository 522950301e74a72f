import Mathlib.Data.List.Induction
import SqlWriter.Proofs.Request.Members

/-! The settings of the program are defaults: a request that spells them out is read the same. -/

namespace SqlWriter

variable {kind : StatementKind} {members : List (Text × Json)} {settings : List Setting}

/-- Whether a request has a value for a field: a member for it that is not null. -/
def answers (members : List (Text × Json)) (field : Field) : Bool :=
  members.any fun (key, value) => field.isSpelled key && value.unlessNull?.isSome

/-- A setting takes the place of the nulls for its field. -/
def fillNulls (setting : Setting) (members : List (Text × Json)) : List (Text × Json) :=
  members.map fun (key, value) =>
    (key, if setting.field.isSpelled key then setting.toJson else value)

/-- A setting is spelled out in a request that has no value for its field. -/
def spellOut (spelling : Field → Text) (members : List (Text × Json)) (setting : Setting) :
    List (Text × Json) :=
  if answers members setting.field then members
  -- Where the field has a null, that is where its value goes, and else it goes to the end.
  else if members.any fun member => setting.field.isSpelled member.1 then
    fillNulls setting members
  else members ++ [(spelling setting.field, setting.toJson)]

/-- The options that a request leaves open are spelled out as the program would settle them. -/
def Config.spellOut (config : Config) (spelling : Field → Text) (kind : StatementKind)
    (members : List (Text × Json)) : List (Text × Json) :=
  (config.defaults kind).foldl (SqlWriter.spellOut spelling) members

/-- The setting of a field stands among settings for other fields. -/
theorem Accepted.exists_split (accepted : Accepted kind [] members settings) {key : Text}
    {value : Json} (member : (key, value) ∈ members) {field : Field}
    (named : Field.ofKey? kind key = some field) :
    ∃ before setting after, settings = before ++ setting :: after ∧
      Setting.ofJson value field = .ok setting ∧
      ∀ other ∈ before ++ after, other.field ≠ field := by
  obtain ⟨setting, own, found⟩ := accepted.find?_eq member named
  obtain ⟨_, before, after, rfl, _⟩ := List.find?_eq_some_iff_append.mp found
  refine ⟨before, setting, after, rfl, own, fun other there same => ?_⟩
  -- No field has two settings, so the other ones are for other fields.
  have apart := accepted.nodup
  rw [List.map_append, List.map_cons, List.nodup_middle, ← List.map_append] at apart
  have twice : setting.field ∈ (before ++ after).map Setting.field := by
    rw [Setting.field_ofJson own, ← same]
    exact List.mem_map_of_mem there
  exact (List.nodup_cons.mp apart).1 twice

/-- An option that is not null is read as one that is not open. -/
theorem exists_of_unlessNull {α : Type} {read : Json → Except RequestFault α} {value : Json}
    {option : Option α} (seen : value.unlessNull?.isSome = true)
    (found : unlessNull read value = .ok option) : ∃ choice, option = some choice := by
  -- A value other than null goes to the reader, which was seen to succeed.
  cases value with
  | null => cases seen
  | _ =>
    obtain ⟨choice, _, rfl⟩ := map_eq_ok_iff.mp found
    exact ⟨choice, rfl⟩

/-- A value that is not null leaves nothing of its field open. -/
theorem asked_orElse_of_answer {setting answer : Setting} {value : Json}
    (seen : value.unlessNull?.isSome = true)
    (own : Setting.ofJson value setting.field = .ok answer) :
    (asked [answer]).orElse (asked [setting]) = asked [answer] := by
  obtain ⟨shown, found⟩ := Option.isSome_iff_exists.mp seen
  -- Either the field is one that has the value itself, or it is an option and has none.
  have shownOrSilent : answer.value?.bind Json.unlessNull? = some shown ∨
      setting.value?.bind Json.unlessNull? = none := by
    cases setting with
    | columns _ | source _ | table _ | filter _ | orderBy _ | expression _ | label _ | content _ =>
      cases own
      exact .inl found
    | order _ | limit _ | skip _ | ignoreUndefined _ => exact .inr rfl
  have value (field : Field) :
      (valueOf? [answer] field).or (valueOf? [setting] field) = valueOf? [answer] field := by
    rw [valueOf?_singleton, valueOf?_singleton, Setting.field_ofJson own]
    -- For any other field, neither of the two settings has a value.
    split
    · rcases shownOrSilent with answered | silent
      · rw [answered, Option.some_or]
      · rw [silent, Option.or_none]
    · rfl
  cases setting with
  | columns _ | source _ | table _ | filter _ | orderBy _ | expression _ | label _ | content _ =>
    cases own
    exact Asked.ext (funext value) rfl rfl rfl rfl
  | order _ | limit _ | skip _ | ignoreUndefined _ =>
    -- An option was seen to be no null, so its reader made a choice of it.
    obtain ⟨option, read, rfl⟩ := map_eq_ok_iff.mp own
    obtain ⟨choice, rfl⟩ := exists_of_unlessNull seen read
    exact Asked.ext (funext value) rfl rfl rfl rfl

/-- Only a null is no answer. -/
theorem Json.eq_null_of_unanswered (value : Json) (unanswered : value.unlessNull? = none) :
    value = .null := by
  -- Every other document is a value that was asked for.
  cases value <;> first | rfl | cases unanswered

/-- A setting in place of another one for the same field. -/
def Setting.inPlaceOf (setting other : Setting) : Setting :=
  if other.field = setting.field then setting else other

/-- The member that a null gives way to is read as the setting that it stands for. -/
theorem Setting.ofJson_filled {setting : Setting} (there : setting.field ∈ kind.fields)
    {key : Text} {field : Field} (named : Field.ofKey? kind key = some field) {value : Json}
    (unanswered : (setting.field.isSpelled key && value.unlessNull?.isSome) = false) :
    Setting.ofJson (if setting.field.isSpelled key then setting.toJson else value) field =
      (Setting.ofJson value field).map setting.inPlaceOf := by
  by_cases same : field = setting.field
  · -- The member is for the field, so it is a null, which is read whatever the field is.
    have spelled := (Field.ofKey?_eq_some_iff there).mp (same ▸ named)
    obtain rfl := value.eq_null_of_unanswered (by simpa [spelled] using unanswered)
    obtain ⟨blank, read, _⟩ := Setting.ofJson_null field
    have blankField := Setting.field_ofJson read
    rw [if_pos spelled, read, same, Setting.ofJson_toJson]
    simp [Except.map, Setting.inPlaceOf, blankField, same]
  · -- The member is for another field, and its setting stays in place.
    have unspelled : ¬setting.field.isSpelled key = true := fun spelled =>
      same (Option.some.inj (named.symm.trans ((Field.ofKey?_eq_some_iff there).mpr spelled)))
    rw [if_neg unspelled]
    cases read : Setting.ofJson value field with
    | error _ => rfl
    | ok other => simp [Except.map, Setting.inPlaceOf, Setting.field_ofJson read, same]

/-- Members with a setting in place of the nulls for its field are read with that setting. -/
theorem readSettings_fillNulls {setting : Setting} (there : setting.field ∈ kind.fields)
    (unanswered : answers members setting.field = false) (seen : List Field) :
    readSettings kind seen (fillNulls setting members) =
      (readSettings kind seen members).map (List.map setting.inPlaceOf) := by
  -- A null is filled in place, so the members are walked in step on both sides.
  induction members generalizing seen with
  | nil => rfl
  | cons member rest ih =>
    rcases member with ⟨key, value⟩
    obtain ⟨own, others⟩ := Bool.or_eq_false_iff.mp unanswered
    have tail := ih others
    simp only [fillNulls, List.map_cons] at tail ⊢
    cases named : Field.ofKey? kind key with
    | none =>
      rw [readSettings_passed named, readSettings_passed named]
      exact tail seen
    | some field =>
      rw [readSettings_named named, readSettings_named named, tail,
        Setting.ofJson_filled there named own]
      -- A field that comes twice is refused on both sides.
      split
      · rfl
      · cases Setting.ofJson value field <;>
          cases readSettings kind (field :: seen) rest <;> rfl

/-- A setting takes the place of the one for its field, and leaves all others as they are. -/
theorem map_inPlaceOf {setting own : Setting} (same : own.field = setting.field)
    {before after : List Setting}
    (apart : ∀ other ∈ before ++ after, other.field ≠ setting.field) :
    (before ++ own :: after).map setting.inPlaceOf = before ++ setting :: after := by
  -- The setting replaces the one of its field, and the others keep their places.
  have kept (others : List Setting) (among : ∀ other ∈ others, other ∈ before ++ after) :
      others.map setting.inPlaceOf = others := by
    refine (List.map_congr_left fun other there => ?_).trans (List.map_id others)
    exact if_neg (apart other (among other there))
  rw [List.map_append, List.map_cons, kept before fun _ => List.mem_append_left after,
    kept after fun _ => List.mem_append_right before, Setting.inPlaceOf, if_pos same]

/-- A setting that is spelled out asks for what the request leaves open. -/
theorem asked_readSettings_spellOut {spelling : Field → Text} (spelled : IsSpelling spelling)
    {setting : Setting} (there : setting.field ∈ kind.fields) :
    (readSettings kind [] (spellOut spelling members setting)).map asked =
      (readSettings kind [] members).map fun settings =>
        (asked settings).orElse (asked [setting]) := by
  unfold spellOut
  split
  · -- The field has a value, which leaves nothing open.
    rename_i answered
    obtain ⟨⟨key, value⟩, member, spells⟩ := List.any_eq_true.mp answered
    obtain ⟨own, seen⟩ := Bool.and_eq_true_iff.mp spells
    cases read : readSettings kind [] members with
    | error _ => rfl
    | ok settings =>
      obtain ⟨before, answer, after, rfl, answerRead, apart⟩ :=
        (readSettings_eq_ok_iff.mp read).exists_split member
          ((Field.ofKey?_eq_some_iff there).mpr own)
      rw [← Setting.field_ofJson answerRead] at apart
      simp only [Except.map, asked_insert apart, Asked.orElse_assoc,
        asked_orElse_of_answer seen answerRead]
  · rename_i unanswered
    rw [Bool.not_eq_true] at unanswered
    split
    · -- The field has a null, which asks for nothing before it gives way to the setting.
      rename_i blank
      obtain ⟨⟨key, value⟩, member, own⟩ := List.any_eq_true.mp blank
      rw [readSettings_fillNulls there unanswered]
      cases read : readSettings kind [] members with
      | error _ => rfl
      | ok settings =>
        obtain ⟨before, null, after, rfl, nullRead, apart⟩ :=
          (readSettings_eq_ok_iff.mp read).exists_split member
            ((Field.ofKey?_eq_some_iff there).mpr own)
        have unseen := List.any_eq_false.mp unanswered _ member
        obtain rfl := value.eq_null_of_unanswered (by simpa [own] using unseen)
        obtain ⟨_, again, silent⟩ := Setting.ofJson_null setting.field
        obtain rfl := Except.ok.inj (nullRead.symm.trans again)
        have nullField := Setting.field_ofJson nullRead
        have empty := asked_insert (nullField ▸ apart)
        simp only [Except.map, map_inPlaceOf nullField apart, asked_insert apart, empty, silent,
          Asked.orElse_nothing]
    · rename_i absent
      -- Without any member for the field, the one at the end is the only one.
      have alone : setting.field ∉ fieldsOf kind (members ++ []) := by
        rw [List.append_nil]
        intro again
        obtain ⟨member, among, named⟩ := List.mem_filterMap.mp again
        exact absent (List.any_eq_true.mpr
          ⟨member, among, (Field.ofKey?_eq_some_iff there).mp named⟩)
      have named := Field.ofKey?_of_isSpelled there (spelled setting.field)
      have inserted := asked_readSettings_insert named setting.ofJson_toJson alone
      rwa [List.append_nil] at inserted

/-- Settings for different fields that are spelled out ask for what the request leaves open. -/
theorem asked_readSettings_foldl {spelling : Field → Text} (spelled : IsSpelling spelling)
    {defaults : List Setting} (known : ∀ setting ∈ defaults, setting.field ∈ kind.fields)
    (apart : (defaults.map Setting.field).Nodup) :
    (readSettings kind [] (defaults.foldl (spellOut spelling) members)).map asked =
      (readSettings kind [] members).map fun settings =>
        (asked settings).orElse (asked defaults) := by
  -- The last setting is spelled out behind all the others, so the induction is from the end.
  induction defaults using List.reverseRecOn with
  | nil => simp
  -- The last setting is for a field that none of the others is for.
  | append_singleton rest last ih =>
    rw [List.map_append, List.nodup_append] at apart
    have fresh : ∀ other ∈ rest ++ [], other.field ≠ last.field := fun other there =>
      apart.2.2 _ (List.mem_map_of_mem (by simpa using there)) _ (List.mem_singleton_self _)
    have earlier := ih (fun setting there => known setting (List.mem_append_left _ there)) apart.1
    rw [List.foldl_append, List.foldl_cons, List.foldl_nil,
      asked_readSettings_spellOut spelled (known last (by simp)), asked_insert fresh,
      List.append_nil]
    generalize readSettings kind [] (rest.foldl (spellOut spelling) members) = read at earlier
    cases whole : readSettings kind [] members <;> cases read <;>
      simp_all [Except.map, Asked.orElse_assoc]

/-- The defaults of the program that are spelled out ask for what the request leaves open. -/
theorem asked_readSettings_defaults {spelling : Field → Text} (spelled : IsSpelling spelling)
    (config : Config) :
    (readSettings kind [] (config.spellOut spelling kind members)).map asked =
      (readSettings kind [] members).map fun settings =>
        (asked settings).orElse (asked (config.defaults kind)) := by
  -- No kind has a default for a field of another kind, or two defaults for one field.
  refine asked_readSettings_foldl spelled ?_ ?_
  · cases kind <;> simp [Config.defaults, Setting.field, StatementKind.fields]
  · cases kind <;> simp [Config.defaults, Setting.field]

/-- Settings for fields that have values are not spelled out again. -/
theorem foldl_spellOut_of_answers {spelling : Field → Text} {defaults : List Setting}
    (answered : ∀ setting ∈ defaults, answers members setting.field = true) :
    defaults.foldl (spellOut spelling) members = members := by
  -- A field that is answered adds no member, so the members pass through unchanged.
  induction defaults with
  | nil => rfl
  | cons setting rest ih =>
    obtain ⟨own, others⟩ := List.forall_mem_cons.mp answered
    rw [List.foldl_cons, spellOut, if_pos own, ih others]

/--
The settings of the program are no more than defaults.

A request is read as the one that spells out its options would be read by any other program, so a
request that has values for its options is read alike by all of them, and colors do not count.
-/
theorem ofJson_config_defaults (config other : Config) (kind : StatementKind)
    (members : List (Text × Json)) {spelling : Field → Text} (spelled : IsSpelling spelling) :
    Statement.ofJson other kind (.object (config.spellOut spelling kind members)) =
      Statement.ofJson config kind (.object members) ∧
    ((∀ setting ∈ config.defaults kind, answers members setting.field = true) →
      Statement.ofJson other kind (.object members) =
        Statement.ofJson config kind (.object members)) ∧
    ∀ color, Statement.ofJson { config with color := color } kind (.object members) =
      Statement.ofJson config kind (.object members) := by
  have filled : Statement.ofJson other kind (.object (config.spellOut spelling kind members)) =
      Statement.ofJson config kind (.object members) := by
    refine ofJson_eq_of_asked (·.orElse (asked (config.defaults kind)))
      (asked_readSettings_defaults spelled config) fun wish => ?_
    -- What the request leaves open is asked for by the defaults of either configuration.
    rw [Asked.orElse_assoc, config.orElse_defaults]
  refine ⟨filled, fun answered => ?answered, fun color => ?color⟩
  case answered =>
    have same : config.spellOut spelling kind members = members :=
      foldl_spellOut_of_answers answered
    rwa [same] at filled
  case color =>
    -- No default is made of the color, so the same is asked for with and without it.
    have same : Config.defaults { config with color := color } kind = config.defaults kind := by
      cases kind <;> rfl
    exact ofJson_eq_of_asked id rfl fun wish => by rw [same, id]

/-- A count with a null for its expression and without an alias, and the same count spelled out. -/
theorem ofJson_config_defaults_count :
    let config : Config := { countExpression := "id".toList, countAlias := "n".toList }
    let spelling (field : Field) : Text := field.key.toList
    let bare : List (Text × Json) :=
      [("expr".toList, .null), ("table".toList, .string "t".toList)]
    let full : List (Text × Json) := [("expr".toList, .string "id".toList),
      ("table".toList, .string "t".toList), ("alias".toList, .string "n".toList)]
    IsSpelling spelling ∧ config.spellOut spelling .count bare = full ∧
      Statement.ofJson {} .count (.object full) = Statement.ofJson config .count (.object bare) ∧
      (∀ setting ∈ config.defaults .count, answers full setting.field = true) ∧
      Statement.ofJson {} .count (.object full) = Statement.ofJson config .count (.object full) := by
  intro config spelling bare full
  -- Both members are supplied in the order the defaults have, first the expression.
  have spelled : IsSpelling spelling := fun field => by cases field <;> decide
  have whole : config.spellOut spelling .count bare = full := by
    have first : spellOut spelling bare (.expression (.string "id".toList)) =
        [("expr".toList, .string "id".toList), ("table".toList, .string "t".toList)] := by
      rw [spellOut, if_neg (by decide), if_pos (by decide)]
      rfl
    have second : spellOut spelling
        [("expr".toList, .string "id".toList), ("table".toList, .string "t".toList)]
        (.label (.string "n".toList)) = full := by
      rw [spellOut, if_neg (by decide), if_neg (by decide)]
      rfl
    exact (congrArg (spellOut spelling · _) first).trans second
  -- Each default finds its member in the request that is full.
  have answered : ∀ setting ∈ config.defaults .count, answers full setting.field = true := by
    simp only [Config.defaults, List.forall_mem_cons, List.not_mem_nil, false_imp_iff,
      implies_true, and_true]
    exact ⟨by decide, by decide⟩
  obtain ⟨filled, _⟩ := ofJson_config_defaults config {} .count bare spelled
  obtain ⟨_, same, _⟩ := ofJson_config_defaults config {} .count full spelled
  exact ⟨spelled, whole, whole ▸ filled, answered, same answered⟩

end SqlWriter
