import SqlWriter.Proofs.Request.Asked
import SqlWriter.Proofs.Request.RoundTrip

/-! The members of requests: their order does not matter, and some of them make no difference. -/

namespace SqlWriter

variable {kind : StatementKind} {seen : List Field} {members : List (Text × Json)}
  {settings : List Setting}

/-- A key stands for a field of a kind exactly if it is one of the spellings of that field. -/
theorem Field.ofKey?_eq_some_iff {field : Field} (there : field ∈ kind.fields) {key : Text} :
    Field.ofKey? kind key = some field ↔ field.isSpelled key = true := by
  -- The search returns a field that passed the test, and no two fields share a spelling.
  refine ⟨fun found => ?_, Field.ofKey?_of_isSpelled there⟩
  rw [Field.ofKey?] at found
  simpa using List.find?_some found

/-- A key stands for no field of a kind exactly if it is a spelling of none. -/
theorem Field.ofKey?_eq_none_iff {key : Text} :
    Field.ofKey? kind key = none ↔ ∀ field ∈ kind.fields, field.isSpelled key = false := by
  -- The search fails exactly when each test fails.
  simp [Field.ofKey?]

/-- Accepted members are accepted where fewer fields were seen before. -/
theorem Accepted.mono (accepted : Accepted kind seen members settings) {fewer : List Field}
    (less : fewer ⊆ seen) : Accepted kind fewer members settings := by
  -- A key that is fresh among more fields is fresh among fewer.
  induction accepted generalizing fewer with
  | nil => exact .nil
  | passed unnamed _ ih => exact .passed unnamed (ih less)
  | read named fresh own _ ih =>
    exact .read named (fun before => fresh (less before)) own (ih (List.cons_subset_cons _ less))

/-- Members are accepted in every order, and their settings take the same order. -/
theorem Accepted.perm {reordered : List (Text × Json)} (moved : members.Perm reordered)
    (accepted : Accepted kind seen members settings) :
    ∃ others, settings.Perm others ∧ Accepted kind seen reordered others := by
  induction moved generalizing seen settings with
  | nil => exact ⟨settings, .refl _, accepted⟩
  -- The same member is in front of both lists, so both read it alike.
  | cons member _ ih =>
    cases accepted with
    | passed unnamed tail =>
      obtain ⟨others, same, rest⟩ := ih tail
      exact ⟨others, same, .passed unnamed rest⟩
    | read named fresh own tail =>
      obtain ⟨others, same, rest⟩ := ih tail
      exact ⟨_ :: others, same.cons _, .read named fresh own rest⟩
  | swap first second rest =>
    -- Two members for fields stay apart, since each of them is fresh behind the other one.
    cases accepted with
    | passed unnamed tail =>
      cases tail with
      | passed unnamedToo tail => exact ⟨_, .refl _, .passed unnamedToo (.passed unnamed tail)⟩
      | read named fresh own tail => exact ⟨_, .refl _, .read named fresh own (.passed unnamed tail)⟩
    | read named fresh own tail =>
      cases tail with
      | passed unnamed tail => exact ⟨_, .refl _, .passed unnamed (.read named fresh own tail)⟩
      | read namedToo freshToo ownToo tail =>
        have before : _ ∉ seen := List.not_mem_of_not_mem_cons freshToo
        have other := List.ne_of_not_mem_cons freshToo
        have freshStill := List.not_mem_cons_of_ne_of_not_mem other.symm fresh
        have swapped := tail.mono (List.Perm.swap _ _ seen).subset
        exact ⟨_, .swap _ _ _, .read namedToo before ownToo (.read named freshStill own swapped)⟩
  -- The settings are reordered twice, by way of the order in between.
  | trans _ _ ih further =>
    obtain ⟨others, same, middle⟩ := ih accepted
    obtain ⟨last, sameToo, whole⟩ := further middle
    exact ⟨last, same.trans sameToo, whole⟩

/-- Every setting comes from a member for its field. -/
theorem Accepted.exists_member (accepted : Accepted kind seen members settings) :
    ∀ setting ∈ settings, ∃ member ∈ members,
      Field.ofKey? kind member.1 = some setting.field := by
  -- Each setting comes from the member that was read for it.
  induction accepted with
  | nil => simp
  | passed _ _ ih =>
    intro setting there
    obtain ⟨member, among, named⟩ := ih setting there
    exact ⟨member, List.mem_cons_of_mem _ among, named⟩
  | @read _ key value rest field setting more named _ own _ ih =>
    refine List.forall_mem_cons.mpr ⟨?_, fun other there => ?_⟩
    · exact ⟨(key, value), List.mem_cons_self, by rw [named, Setting.field_ofJson own]⟩
    · obtain ⟨member, among, namedToo⟩ := ih other there
      exact ⟨member, List.mem_cons_of_mem _ among, namedToo⟩

/-- The settings of accepted members are for different fields. -/
theorem Accepted.nodup (accepted : Accepted kind seen members settings) :
    (settings.map Setting.field).Nodup := by
  induction accepted with
  | nil => exact List.nodup_nil
  | passed _ _ ih => exact ih
  | @read _ _ _ _ field setting more _ _ own tail ih =>
    refine List.nodup_cons.mpr ⟨fun again => ?_, ih⟩
    -- A second setting for the field would come from a member that is not fresh any more.
    obtain ⟨other, there, same⟩ := List.mem_map.mp again
    obtain ⟨⟨key, value⟩, among, named⟩ := tail.exists_member other there
    rw [same, Setting.field_ofJson own] at named
    exact tail.not_seen among named List.mem_cons_self

/-- The fields that members are for. -/
def fieldsOf (kind : StatementKind) (members : List (Text × Json)) : List Field :=
  members.filterMap fun member => Field.ofKey? kind member.1

/-- A member that is for no field is passed over. -/
theorem readSettings_passed {key : Text} (unnamed : Field.ofKey? kind key = none) (value : Json)
    (rest : List (Text × Json)) :
    readSettings kind seen ((key, value) :: rest) = readSettings kind seen rest := by
  -- The lookup of the key has no answer, so the member is skipped.
  rw [readSettings, unnamed]

/-- A member that is for a field clashes with one before it, or becomes the setting in front. -/
theorem readSettings_named {key : Text} {field : Field}
    (named : Field.ofKey? kind key = some field) (value : Json) (rest : List (Text × Json)) :
    readSettings kind seen ((key, value) :: rest) =
      if field ∈ seen then .error (.duplicateField field)
      else do
        let setting ← Setting.ofJson value field
        let more ← readSettings kind (field :: seen) rest
        return setting :: more := by
  -- The lookup of the key gives the field, and the rest of the clause is the definition.
  rw [readSettings, named]

/-- Members are read one part after the other, the second one with the fields of the first seen. -/
theorem readSettings_append (kind : StatementKind) (seen : List Field)
    (front back : List (Text × Json)) :
    readSettings kind seen (front ++ back) = (do
      let before ← readSettings kind seen front
      let after ← readSettings kind ((fieldsOf kind front).reverse ++ seen) back
      return before ++ after) := by
  -- The fields of the front are seen by the time the back is read.
  induction front generalizing seen with
  | nil =>
    have nothing : readSettings kind seen [] = pure [] := rfl
    simp [nothing, fieldsOf]
  | cons member rest ih =>
    rcases member with ⟨key, value⟩
    cases named : Field.ofKey? kind key with
    | none =>
      rw [List.cons_append, readSettings_passed named, readSettings_passed named, ih]
      simp [fieldsOf, named]
    | some field =>
      rw [List.cons_append, readSettings_named named, readSettings_named named]
      -- A field that was seen is refused, with the back or without it.
      split
      · rfl
      · simp [fieldsOf, named, ih]

/-- What was seen before matters only for the fields that the members are for. -/
theorem readSettings_congr {others : List Field}
    (same : ∀ field ∈ fieldsOf kind members, field ∈ seen ↔ field ∈ others) :
    readSettings kind seen members = readSettings kind others members := by
  -- What was seen matters only through the fields that are still to come.
  induction members generalizing seen others with
  | nil => rfl
  | cons member rest ih =>
    rcases member with ⟨key, value⟩
    cases named : Field.ofKey? kind key with
    | none =>
      rw [readSettings_passed named, readSettings_passed named]
      exact ih fun field there => same field (by simpa [fieldsOf, named] using there)
    | some field =>
      -- The field of the member is seen from here on, on both sides.
      have fields : fieldsOf kind ((key, value) :: rest) = field :: fieldsOf kind rest :=
        List.filterMap_cons_some named
      obtain ⟨own, later⟩ := List.forall_mem_cons.mp (fields ▸ same)
      have tail : readSettings kind (field :: seen) rest =
          readSettings kind (field :: others) rest := by
        refine ih fun other there => ?_
        simp only [List.mem_cons, later other there]
      rw [readSettings_named named, readSettings_named named, tail]
      simp [own]

/-- The only member for a field adds its setting to those of the other members, in its place. -/
theorem readSettings_insert {front back : List (Text × Json)} {key : Text} {value : Json}
    {field : Field} {setting : Setting} (named : Field.ofKey? kind key = some field)
    (own : Setting.ofJson value field = .ok setting)
    (alone : field ∉ fieldsOf kind (front ++ back)) :
    readSettings kind [] (front ++ (key, value) :: back) = (do
      let before ← readSettings kind [] front
      let after ← readSettings kind (fieldsOf kind front).reverse back
      return before ++ setting :: after) := by
  -- No other member is for the field, in front or behind.
  have apart : field ∉ fieldsOf kind front ∧ field ∉ fieldsOf kind back := by
    simpa [fieldsOf, List.filterMap_append] using alone
  have fresh : field ∉ (fieldsOf kind front).reverse := by simpa using apart.1
  -- Behind the member, its field counts as seen, but no other member is for it.
  have unseen : readSettings kind (field :: (fieldsOf kind front).reverse) back =
      readSettings kind (fieldsOf kind front).reverse back := by
    refine readSettings_congr fun other there => ?_
    have different : other ≠ field := fun same => apart.2 (same ▸ there)
    simp [different]
  rw [readSettings_append, List.append_nil]
  simp only [readSettings_named named, if_neg fresh, own, unseen]
  cases readSettings kind [] front <;>
    cases readSettings kind (fieldsOf kind front).reverse back <;> rfl

/-- The only member for a field asks for what the other members leave open. -/
theorem asked_readSettings_insert {front back : List (Text × Json)} {key : Text} {value : Json}
    {field : Field} {setting : Setting} (named : Field.ofKey? kind key = some field)
    (own : Setting.ofJson value field = .ok setting)
    (alone : field ∉ fieldsOf kind (front ++ back)) :
    (readSettings kind [] (front ++ (key, value) :: back)).map asked =
      (readSettings kind [] (front ++ back)).map fun settings =>
        (asked settings).orElse (asked [setting]) := by
  rw [readSettings_insert named own alone, readSettings_append, List.append_nil]
  cases frontRead : readSettings kind [] front with
  | error fault => rfl
  | ok before =>
    cases backRead : readSettings kind (fieldsOf kind front).reverse back with
    | error fault => rfl
    | ok after =>
      -- The settings on both sides come from members for other fields.
      refine congrArg Except.ok (asked_insert fun other there same => ?_)
      have whole : readSettings kind [] (front ++ back) = .ok (before ++ after) := by
        rw [readSettings_append, List.append_nil, frontRead, backRead]
        rfl
      obtain ⟨member, among, namedToo⟩ :=
        (readSettings_eq_ok_iff.mp whole).exists_member other there
      rw [same, Setting.field_ofJson own] at namedToo
      exact alone (List.mem_filterMap.mpr ⟨member, among, namedToo⟩)

/-- A null is read for every field, and asks for nothing. -/
theorem Setting.ofJson_null (field : Field) :
    ∃ setting, Setting.ofJson .null field = .ok setting ∧ asked [setting] = .nothing := by
  -- A null answers no field, whichever field it is read for.
  cases field
  all_goals
    refine ⟨_, rfl, ?_⟩
    ext1
    case value => exact funext fun other => by cases other <;> rfl
    all_goals rfl

/-- Requests come to the same statement if their members ask for the same, up to the defaults. -/
theorem ofJson_eq_of_asked {config other : Config} {others : List (Text × Json)}
    (change : Asked → Asked)
    (read : (readSettings kind [] others).map asked =
      (readSettings kind [] members).map fun settings => change (asked settings))
    (same : ∀ wish : Asked, wish.orElse (asked (config.defaults kind)) =
      (change wish).orElse (asked (other.defaults kind))) :
    Statement.ofJson other kind (.object others) =
      Statement.ofJson config kind (.object members) := by
  rw [Statement.ofJson, Statement.ofJson]
  -- A fault of the members is the same on both sides.
  cases found : readSettings kind [] members with
  | error fault =>
    rw [found] at read
    cases foundToo : readSettings kind [] others with
    | error _ => rw [foundToo] at read; cases read; rfl
    | ok _ => rw [foundToo] at read; cases read
  | ok settings =>
    rw [found] at read
    cases foundToo : readSettings kind [] others with
    | error _ => rw [foundToo] at read; cases read
    | ok moved =>
      rw [foundToo] at read
      -- Both requests were read, so what they ask for is known to agree.
      have wish : asked moved = change (asked settings) := Except.ok.inj read
      exact (ofSettings_eq_of_asked (by rw [wish, same])).symm

/--
How two readings of a request compare: they have one outcome, or its members are refused in both.

Which of several faults of the members is reported may depend on their order.
-/
inductive SameOutcome : Except Error Statement → Except Error Statement → Prop where
  | equal (outcome : Except Error Statement) : SameOutcome outcome outcome
  | refused (fault other : RequestFault) :
    SameOutcome (.error (.request fault)) (.error (.request other))

/-- The order of the members makes no difference to what a request comes to. -/
theorem ofJson_perm (config : Config) {reordered : List (Text × Json)}
    (moved : members.Perm reordered) :
    SameOutcome (Statement.ofJson config kind (.object members))
      (Statement.ofJson config kind (.object reordered)) := by
  -- Settings that were read in one order are read in the other as a permutation.
  rw [Statement.ofJson, Statement.ofJson]
  cases found : readSettings kind [] members with
  | ok settings =>
    obtain ⟨others, same, accepted⟩ := (readSettings_eq_ok_iff.mp found).perm moved
    have apart := (readSettings_eq_ok_iff.mp found).nodup
    rw [readSettings_eq_ok_iff.mpr accepted]
    simp only [ofSettings_eq_of_asked (congrArg (Asked.orElse · _) (asked_perm same apart))]
    exact .equal _
  | error fault =>
    cases foundToo : readSettings kind [] reordered with
    | error other => exact .refused fault other
    | ok settings =>
      -- Members that are accepted in one order are accepted in the other one as well.
      obtain ⟨others, _, accepted⟩ := (readSettings_eq_ok_iff.mp foundToo).perm moved.symm
      rw [readSettings_eq_ok_iff.mpr accepted] at found
      cases found

/--
A request is read by its fields: the order of its members does not matter, a member for no field
adds nothing, and neither does a null for a field that has no member.
-/
theorem ofJson_by_fields (config : Config) (kind : StatementKind) (members : List (Text × Json)) :
    (∀ reordered, members.Perm reordered →
      SameOutcome (Statement.ofJson config kind (.object members))
        (Statement.ofJson config kind (.object reordered))) ∧
    ∀ front back, members = front ++ back → ∀ key,
      (∀ value, (∀ field ∈ kind.fields, field.isSpelled key = false) →
        Statement.ofJson config kind (.object (front ++ (key, value) :: back)) =
          Statement.ofJson config kind (.object members)) ∧
      ∀ field ∈ kind.fields, field.isSpelled key = true →
        (∀ member ∈ members, field.isSpelled member.1 = false) →
        Statement.ofJson config kind (.object (front ++ (key, .null) :: back)) =
          Statement.ofJson config kind (.object members) := by
  refine ⟨fun reordered moved => ofJson_perm config moved, ?_⟩
  rintro front back rfl key
  refine ⟨fun value foreign => ?unnamed, fun field there spelled missing => ?null⟩
  case unnamed =>
    -- A key without a field is passed over, wherever it stands.
    have same : readSettings kind [] (front ++ (key, value) :: back) =
        readSettings kind [] (front ++ back) := by
      rw [readSettings_append, readSettings_append,
        readSettings_passed (Field.ofKey?_eq_none_iff.mpr foreign)]
    rw [Statement.ofJson, Statement.ofJson, same]
  case null =>
    have named := (Field.ofKey?_eq_some_iff there).mpr spelled
    have alone : field ∉ fieldsOf kind (front ++ back) := by
      intro again
      obtain ⟨member, among, namedToo⟩ := List.mem_filterMap.mp again
      have spelledToo := (Field.ofKey?_eq_some_iff there).mp namedToo
      simp [missing member among] at spelledToo
    -- A null is read as a setting that asks for nothing.
    obtain ⟨setting, own, silent⟩ := Setting.ofJson_null field
    refine ofJson_eq_of_asked id ?_ fun wish => rfl
    rw [asked_readSettings_insert named own alone, silent]
    simp only [Asked.orElse_nothing, id]

/-- An update with its members turned around, with a limit, and with a null for its option. -/
theorem ofJson_by_fields_update :
    let table : Text × Json := ("from".toList, .string "t".toList)
    let row : Text × Json := ("row".toList, .object [("a".toList, .integer 1)])
    let read (members : List (Text × Json)) := Statement.ofJson {} .update (.object members)
    List.Perm [table, row] [row, table] ∧ SameOutcome (read [table, row]) (read [row, table]) ∧
      (∀ field ∈ StatementKind.update.fields, field.isSpelled "limit".toList = false) ∧
      read [table, ("limit".toList, .bool true), row] = read [table, row] ∧
      Field.ignoreUndefined ∈ StatementKind.update.fields ∧
      Field.ignoreUndefined.isSpelled "ignore_undefined".toList = true ∧
      (∀ member ∈ [table, row], Field.ignoreUndefined.isSpelled member.1 = false) ∧
      read [table, ("ignore_undefined".toList, .null), row] = read [table, row] := by
  intro table row read
  -- The two orders are one swap, and the foreign member stands between the two.
  obtain ⟨order, extra⟩ := ofJson_by_fields {} .update [table, row]
  obtain ⟨foreign, _⟩ := extra [table] [row] rfl "limit".toList
  obtain ⟨_, null⟩ := extra [table] [row] rfl "ignore_undefined".toList
  have moved : List.Perm [table, row] [row, table] := .swap ..
  have unnamed : ∀ field ∈ StatementKind.update.fields,
      field.isSpelled "limit".toList = false := by decide
  -- Neither of the two members is for the option that the null stands for.
  have missing : ∀ member ∈ [table, row],
      Field.ignoreUndefined.isSpelled member.1 = false := by
    simp only [List.forall_mem_cons, List.not_mem_nil, false_imp_iff, implies_true, and_true]
    decide
  exact ⟨moved, order _ moved, unnamed, foreign _ unnamed, by decide, by decide, missing,
    null .ignoreUndefined (by decide) (by decide) missing⟩

end SqlWriter
