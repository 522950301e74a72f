import SqlWriter.Request

/-! The settings of a request: which members they come from, and what is left without one field. -/

namespace SqlWriter

variable {ε α β : Type}

/-- A computation with a step behind it succeeds if both of them do. -/
theorem bind_eq_ok_iff {first : Except ε α} {next : α → Except ε β} {result : β} :
    (first >>= next) = .ok result ↔ ∃ value, first = .ok value ∧ next value = .ok result := by
  -- Only a success goes on to the next step.
  cases first <;> simp [Bind.bind, Except.bind]

/-- A computation with its result changed succeeds if it does. -/
theorem map_eq_ok_iff {first : Except ε α} {change : α → β} {result : β} :
    first.map change = .ok result ↔ ∃ value, first = .ok value ∧ change value = result := by
  -- Only a success is changed, and it stays a success.
  cases first <;> simp [Except.map]

/-- A setting is for the field that it is read for. -/
theorem Setting.field_ofJson {value : Json} {field : Field} {setting : Setting}
    (read : Setting.ofJson value field = .ok setting) : setting.field = field := by
  -- Options are read from their value first, and all other fields take it as it is.
  cases field <;>
    simp only [Setting.ofJson, Except.ok.injEq, map_eq_ok_iff] at read <;>
    first
    | (subst read; rfl)
    | (obtain ⟨option, _, rfl⟩ := read; rfl)

/-- How members are accepted as settings, where some fields were seen before. -/
inductive Accepted (kind : StatementKind) :
    List Field → List (Text × Json) → List Setting → Prop where
  | nil {seen : List Field} : Accepted kind seen [] []
  /-- A member that is for no field is passed over. -/
  | passed {seen : List Field} {key : Text} {value : Json} {rest : List (Text × Json)}
    {settings : List Setting} (unnamed : Field.ofKey? kind key = none)
    (tail : Accepted kind seen rest settings) : Accepted kind seen ((key, value) :: rest) settings
  /-- A member that is for a field is the only one for it, and has a setting of its own. -/
  | read {seen : List Field} {key : Text} {value : Json} {rest : List (Text × Json)}
    {field : Field} {setting : Setting} {more : List Setting}
    (named : Field.ofKey? kind key = some field) (fresh : field ∉ seen)
    (own : Setting.ofJson value field = .ok setting)
    (tail : Accepted kind (field :: seen) rest more) :
    Accepted kind seen ((key, value) :: rest) (setting :: more)

/-- The members that are accepted are those that settings are read from. -/
theorem readSettings_eq_ok_iff {kind : StatementKind} {seen : List Field}
    {members : List (Text × Json)} {settings : List Setting} :
    readSettings kind seen members = .ok settings ↔ Accepted kind seen members settings := by
  constructor
  · -- Each member is passed over, clashes with one before it, or becomes a setting.
    intro read
    induction members generalizing seen settings with
    | nil =>
      cases read
      exact .nil
    | cons member rest ih =>
      rcases member with ⟨key, value⟩
      simp only [readSettings] at read
      split at read
      · rename_i unnamed
        exact .passed unnamed (ih read)
      · rename_i field named
        split at read
        · cases read
        · rename_i fresh
          simp only [bind_eq_ok_iff] at read
          obtain ⟨setting, own, more, further, result⟩ := read
          cases result
          exact .read named fresh own (ih further)
  · -- What is accepted took one of these ways at every member.
    intro accepted
    induction accepted with
    | nil => rfl
    | passed unnamed tail ih => simpa [readSettings, unnamed] using ih
    | read named fresh own tail ih =>
      simp only [readSettings, named, if_neg fresh, own, ih]
      rfl

/-- No accepted member is for a field that was seen before. -/
theorem Accepted.not_seen {kind : StatementKind} {seen : List Field}
    {members : List (Text × Json)} {settings : List Setting}
    (accepted : Accepted kind seen members settings) {key : Text} {value : Json}
    (member : (key, value) ∈ members) {field : Field}
    (named : Field.ofKey? kind key = some field) : field ∉ seen := by
  -- Fields that are seen stay seen, up to the member in question.
  induction accepted with
  | nil => cases member
  | passed unnamed tail ih =>
    rcases List.mem_cons.mp member with same | later
    · cases same
      simp [named] at unnamed
    · exact ih later
  -- The member is the one in front, or it comes later and more is seen before it.
  | read front fresh own tail ih =>
    rcases List.mem_cons.mp member with same | later
    · cases same
      obtain rfl := Option.some.inj (named.symm.trans front)
      exact fresh
    · exact fun before => ih later (List.mem_cons_of_mem _ before)

/-- The setting of a field comes from the member that has a key of it. -/
theorem Accepted.find?_eq {kind : StatementKind} {seen : List Field}
    {members : List (Text × Json)} {settings : List Setting}
    (accepted : Accepted kind seen members settings) {key : Text} {value : Json}
    (member : (key, value) ∈ members) {field : Field}
    (named : Field.ofKey? kind key = some field) :
    ∃ setting, Setting.ofJson value field = .ok setting ∧
      (settings.find? fun setting => setting.field = field) = some setting := by
  induction accepted with
  | nil => cases member
  | passed unnamed tail ih =>
    rcases List.mem_cons.mp member with same | later
    · cases same
      simp [named] at unnamed
    · exact ih later
  | read front fresh own tail ih =>
    rename_i other setting more
    have found := Setting.field_ofJson own
    rcases List.mem_cons.mp member with same | later
    · cases same
      obtain rfl := Option.some.inj (named.symm.trans front)
      exact ⟨setting, own, by simp [found]⟩
    · -- The member in front is for another field, since a field is never seen twice.
      have apart : other ≠ field := by
        rintro rfl
        exact tail.not_seen later named (by simp)
      obtain ⟨setting, ownLater, foundLater⟩ := ih later
      exact ⟨setting, ownLater, by simpa [found, apart] using foundLater⟩

/-- The settings for other fields than one. -/
def settingsBut (field : Field) (settings : List Setting) : List Setting :=
  settings.filter fun setting => setting.field ≠ field

/-- Settings are left out one by one. -/
theorem settingsBut_cons (field : Field) (setting : Setting) (more : List Setting) :
    settingsBut field (setting :: more) =
      if setting.field = field then settingsBut field more
      else setting :: settingsBut field more := by
  -- The filter tests the head and leaves the rest to itself.
  by_cases same : setting.field = field <;> simp [settingsBut, same]

/-- The members of a request that are not for a field. -/
def membersBut (kind : StatementKind) (field : Field) (members : List (Text × Json)) :
    List (Text × Json) :=
  members.filter fun member => Field.ofKey? kind member.1 ≠ some field

/-- Members are left out one by one. -/
theorem membersBut_cons (kind : StatementKind) (field : Field) (member : Text × Json)
    (rest : List (Text × Json)) : membersBut kind field (member :: rest) =
      if Field.ofKey? kind member.1 = some field then membersBut kind field rest
      else member :: membersBut kind field rest := by
  -- The filter tests the head and leaves the rest to itself.
  by_cases same : Field.ofKey? kind member.1 = some field <;> simp [membersBut, same]

/-- Accepted members are accepted without one of the fields, with the other settings kept. -/
theorem Accepted.membersBut {kind : StatementKind} {seen fewer : List Field}
    {members : List (Text × Json)} {settings : List Setting}
    (accepted : Accepted kind seen members settings) (less : fewer ⊆ seen) (field : Field) :
    Accepted kind fewer (membersBut kind field members) (settingsBut field settings) := by
  -- Without the field fewer fields have been seen, so no clash can be new.
  induction accepted generalizing fewer with
  | nil => exact .nil
  | passed unnamed tail ih =>
    rw [membersBut_cons, if_neg (by simp [unnamed])]
    exact .passed unnamed (ih less)
  | read named fresh own tail ih =>
    rename_i other setting more
    rw [membersBut_cons, settingsBut_cons, Setting.field_ofJson own]
    by_cases same : other = field
    · -- The member goes, and the setting that came from it goes as well.
      rw [if_pos (named.trans (congrArg some same)), if_pos same]
      exact ih (List.subset_cons_of_subset other less)
    · rw [if_neg (by simpa [named] using same), if_neg same]
      exact .read named (fun before => fresh (less before)) own
        (ih (List.cons_subset_cons other less))

/-- The setting of another field stays the same without one of the fields. -/
theorem find?_settingsBut (settings : List Setting) {field other : Field} (apart : other ≠ field) :
    (settingsBut field settings).find? (fun setting => setting.field = other) =
      settings.find? fun setting => setting.field = other := by
  -- A setting that is left out would not have been found for the other field.
  induction settings with
  | nil => rfl
  | cons setting more ih =>
    rw [settingsBut_cons]
    split
    · rename_i same
      have passed : setting.field ≠ other := fun found => apart (found.symm.trans same)
      simpa [passed] using ih
    · simp only [List.find?_cons, ih]

/-- An option of another field stays the same without one of the fields. -/
theorem findSome?_settingsBut (settings : List Setting) {field : Field}
    {option : Setting → Option α}
    (silent : ∀ setting : Setting, setting.field = field → option setting = none) :
    (settingsBut field settings).findSome? option = settings.findSome? option := by
  -- A setting that is left out has nothing to say about the option.
  induction settings with
  | nil => rfl
  | cons setting more ih =>
    rw [settingsBut_cons]
    split
    · rename_i same
      rw [ih, List.findSome?_cons, silent setting same]
    · simp only [List.findSome?_cons, ih]

/-- What is read from the value of another field stays the same without one of the fields. -/
theorem readValue_settingsBut (settings : List Setting) {field other : Field}
    (apart : other ≠ field) (read : Json → Except Error α) :
    readValue (settingsBut field settings) other read = readValue settings other read := by
  -- The search for another field passes over what is left out.
  simp only [readValue, valueOf?, find?_settingsBut settings apart]

/-- Without a field there is no value for it. -/
theorem valueOf?_settingsBut_self (settings : List Setting) (field : Field) :
    valueOf? (settingsBut field settings) field = none := by
  -- The settings of the field are all gone, so the search finds none.
  have missing : ((settingsBut field settings).find? fun setting => setting.field = field) =
      none := by
    simp [settingsBut]
  rw [valueOf?, missing]
  rfl

/-- Without its filter a request has none. -/
theorem requestFilter_settingsBut (settings : List Setting) :
    requestFilter (settingsBut .filter settings) = none := by
  -- Without a setting of the filter there is no filter.
  rw [requestFilter, valueOf?_settingsBut_self]
  rfl

/-- The table of a request stays the same without another field. -/
theorem requestTable_settingsBut (kind : StatementKind) (settings : List Setting) {field : Field}
    (apart : .table ≠ field) :
    requestTable kind (settingsBut field settings) = requestTable kind settings := by
  -- The table is a field other than the one left out.
  rw [requestTable, readValue_settingsBut settings apart, requestTable]

/-- The choice about undefined fields stays the same without another field. -/
theorem requestIgnores_settingsBut (config : Config) (settings : List Setting) {field : Field}
    (apart : .ignoreUndefined ≠ field) :
    requestIgnores config (settingsBut field settings) = requestIgnores config settings := by
  rw [requestIgnores, findSome?_settingsBut settings, requestIgnores]
  -- Only settings for that choice make one.
  intro setting own
  cases setting <;> first | rfl | exact absurd own apart

end SqlWriter
