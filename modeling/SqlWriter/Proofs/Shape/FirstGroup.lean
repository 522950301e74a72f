import SqlWriter.Proofs.Shape.Alias
import SqlWriter.Proofs.Shape.Balanced
import SqlWriter.Proofs.Value.Literal

/-! The first group of a text: its shortest front that closes all the parentheses that it opens. -/

namespace SqlWriter

/--
The characters of a text that stand outside quotes, if it starts in the given region.

The marks of the quotes are left out along with what is between them.
-/
def unquoted : Region → Text → Text
  | _, [] => []
  | .plain, c :: rest =>
    if isQuoteMark c then unquoted (.quoted c) rest else c :: unquoted .plain rest
  | .quoted mark, c :: rest =>
    if c = '\\' then unquoted (.escaped mark) rest
    else if c = mark then unquoted .plain rest
    else unquoted (.quoted mark) rest
  -- The character behind a backslash can be any, and the mark is one of them.
  | .escaped mark, _ :: rest => unquoted (.quoted mark) rest

/-- A text that closes as many parentheses as it opens, both counted outside quotes. -/
def IsEven (text : Text) : Prop :=
  (unquoted .plain text).count ')' = (unquoted .plain text).count '('

instance (text : Text) : Decidable (IsEven text) :=
  -- It is an equation between two counts.
  inferInstanceAs (Decidable (_ = _))

/-- A group: what starts with a parenthesis and is even, although no shorter front of it is. -/
structure IsFirstGroup (group : Text) : Prop where
  opens : group.head? = some '('
  even : IsEven group
  shortest : ∀ front, front <+: group → front ≠ [] → IsEven front → front = group

/-- A front of a text that a scan for its group reaches, because no shorter one ends the group. -/
structure IsScanned (text front : Text) : Prop where
  within : front <+: text
  goesOn : ∀ shorter, shorter <+: front → shorter ≠ [] → IsEven shorter → shorter = front

/-- The parentheses that a text opens less those that it closes, which can be more. -/
def openBehind (region : Region) (text : Text) : Int :=
  (unquoted region text).count '(' - (unquoted region text).count ')'

/-- A text is even exactly if it leaves no parenthesis open and closes none of those before it. -/
theorem isEven_iff {text : Text} : IsEven text ↔ openBehind .plain text = 0 := by
  -- The difference of two counts is zero if they are equal.
  unfold IsEven openBehind
  omega

/-- A parenthesis in front of a text is one more that is open behind it. -/
theorem openBehind_opening (text : Text) :
    openBehind .plain ('(' :: text) = openBehind .plain text + 1 := by
  -- Outside quotes the parenthesis counts, and the scan stays outside.
  have counts : unquoted .plain ('(' :: text) = '(' :: unquoted .plain text := rfl
  rw [openBehind, openBehind, counts, List.count_cons_self, List.count_cons_of_ne (by decide)]
  omega

/-- A closing parenthesis in front of a text is one less that is open behind it. -/
theorem openBehind_closing (text : Text) :
    openBehind .plain (')' :: text) = openBehind .plain text - 1 := by
  -- Outside quotes the parenthesis counts, and the scan stays outside.
  have counts : unquoted .plain (')' :: text) = ')' :: unquoted .plain text := rfl
  rw [openBehind, openBehind, counts, List.count_cons_self, List.count_cons_of_ne (by decide)]
  omega

/-- Nothing is counted in front of a text. -/
@[simp] theorem openBehind_nil (region : Region) : openBehind region [] = 0 := by
  -- Nothing is counted in any region.
  cases region <;> rfl

/--
As long as a parenthesis is open, one step of the scan changes the depth by what the character
counts for.
-/
theorem openBehind_cons {depth next : Nat} {region other : Region} {c : Char}
    (moves : (⟨depth + 1, region⟩ : Nesting).step c = ⟨next, other⟩) (text : Text) :
    (depth + 1 : Int) + openBehind region (c :: text) = next + openBehind other text := by
  -- Each kind of character is counted in its own way, and inside quotes none of them is.
  cases region with
  | escaped mark =>
    cases Nesting.step_escaped.symm.trans moves
    rfl
  | quoted mark =>
    by_cases backslash : c = '\\'
    · subst backslash
      cases Nesting.step_backslash.symm.trans moves
      simp [openBehind, unquoted]
    by_cases ends : c = mark
    · subst ends
      cases (Nesting.step_mark backslash).symm.trans moves
      simp [openBehind, unquoted, backslash]
    · cases (Nesting.step_quoted backslash ends).symm.trans moves
      simp [openBehind, unquoted, backslash, ends]
  -- Outside quotes a parenthesis moves the count, and a mark makes it stop.
  | plain =>
    by_cases quote : isQuoteMark c = true
    · cases (Nesting.step_quote quote).symm.trans moves
      simp [openBehind, unquoted, quote]
    by_cases opening : c = '('
    · subst opening
      cases Nesting.step_opening.symm.trans moves
      rw [openBehind_opening]
      omega
    by_cases closing : c = ')'
    · -- The depth is positive, so that it can be lowered by one.
      subst closing
      cases Nesting.step_closing.symm.trans moves
      rw [openBehind_closing]
      omega
    · have noQuote : isQuoteMark c = false := by simpa using quote
      cases (Nesting.step_other noQuote opening closing).symm.trans moves
      simp [openBehind, unquoted, noQuote, opening, closing]

/-- A scan ends a group where no parenthesis is open for the first time. -/
theorem openBehind_of_closeGroup {depth : Nat} {region : Region} {text inside behind : Text}
    (found : closeGroup ⟨depth + 1, region⟩ text = some (inside, behind)) :
    (depth + 1 : Int) + openBehind region (inside ++ [')']) = 0 ∧
      ∀ front, front <+: inside → 0 < (depth + 1 : Int) + openBehind region front := by
  -- The induction follows the scan, and each step moves what its character counts for.
  induction text generalizing depth region inside with
  | nil => cases found
  | cons c text ih =>
    match moves : (⟨depth + 1, region⟩ : Nesting).step c with
    | ⟨0, other⟩ =>
      -- This character ends the group, so it is the parenthesis that closes the last one.
      have whole := closeGroup_append (Nat.succ_pos depth) found
      rw [closeGroup, moves, if_pos rfl] at found
      cases found
      obtain ⟨rfl, -⟩ := List.cons.inj whole
      have ended := openBehind_cons moves []
      constructor
      · simpa using ended
      · intro front within
        rw [List.prefix_nil.mp within, openBehind_nil]
        omega
    -- The scan goes on, and what holds behind this character holds of the whole.
    | ⟨next + 1, other⟩ =>
      obtain ⟨more, rfl, further⟩ := (closeGroup_cons_iff moves).mp found
      obtain ⟨ended, before⟩ := ih further
      constructor
      · rw [List.cons_append, openBehind_cons moves]
        exact_mod_cast ended
      · intro front within
        rcases List.prefix_cons_iff.mp within with rfl | ⟨shorter, rfl, inner⟩
        · rw [openBehind_nil]
          omega
        · rw [openBehind_cons moves]
          exact_mod_cast before shorter inner

/-- A scan that finds no end of the group has a parenthesis open behind every front of the text. -/
theorem openBehind_of_closeGroup_eq_none {depth : Nat} {region : Region} {text : Text}
    (missing : closeGroup ⟨depth + 1, region⟩ text = none) :
    ∀ front, front <+: text → 0 < (depth + 1 : Int) + openBehind region front := by
  -- The scan did not stop behind any front, so the depth was never back at zero.
  induction text generalizing depth region with
  | nil =>
    intro front within
    rw [List.prefix_nil.mp within, openBehind_nil]
    omega
  | cons c text ih =>
    match moves : (⟨depth + 1, region⟩ : Nesting).step c with
    -- A scan that comes back to zero would have found the end of the group.
    | ⟨0, other⟩ =>
      rw [closeGroup, moves, if_pos rfl] at missing
      cases missing
    | ⟨next + 1, other⟩ =>
      rw [closeGroup, moves, if_neg (Nat.succ_ne_zero next), Option.map_eq_none_iff] at missing
      intro front within
      rcases List.prefix_cons_iff.mp within with rfl | ⟨shorter, rfl, inner⟩
      · -- The empty front has counted nothing yet.
        rw [openBehind_nil]
        omega
      · -- A longer front has its first character counted, and the rest by the hypothesis.
        rw [openBehind_cons moves]
        exact_mod_cast ih missing shorter inner

/-- The depth of a scan is what is open behind its text, if that was never zero on the way. -/
theorem depth_after {depth : Nat} {region : Region} {text : Text}
    (goesOn : ∀ shorter, shorter <+: text → (depth + 1 : Int) + openBehind region shorter = 0 →
      shorter = text) :
    (((⟨depth + 1, region⟩ : Nesting).after text).depth : Int) =
      (depth + 1 : Int) + openBehind region text := by
  induction text generalizing depth region with
  | nil => simp [Nesting.after]
  | cons c text ih =>
    match moves : (⟨depth + 1, region⟩ : Nesting).step c with
    | ⟨0, other⟩ =>
      -- Nothing is open any more, so the scan ends here.
      have ended : (depth + 1 : Int) + openBehind region [c] = 0 := by
        simpa using openBehind_cons moves []
      have last := goesOn [c] (List.prefix_append [c] text) ended
      obtain rfl : text = [] := by simpa using last.symm
      simp only [Nesting.after, List.foldl_cons, List.foldl_nil, moves]
      omega
    | ⟨next + 1, other⟩ =>
      -- Something is still open, so the scan goes on behind the character.
      have start : (⟨depth + 1, region⟩ : Nesting).after (c :: text) =
          (⟨next + 1, other⟩ : Nesting).after text := by
        rw [← moves]
        rfl
      rw [start, openBehind_cons moves]
      push_cast
      apply ih
      intro shorter within none
      have ended : (depth + 1 : Int) + openBehind region (c :: shorter) = 0 := by
        rw [openBehind_cons moves]
        exact_mod_cast none
      exact (List.cons.inj (goesOn _ (List.cons_prefix_cons.mpr ⟨rfl, within⟩) ended)).2

/-- What is read as a group is one. -/
theorem isFirstGroup_of_group? {text inside behind : Text}
    (found : group? text = some (inside, behind)) : IsFirstGroup (inParens inside) := by
  unfold group? at found
  split at found
  · rename_i rest
    obtain ⟨ended, before⟩ := @openBehind_of_closeGroup 0 .plain rest inside behind found
    refine ⟨rfl, ?even, ?shortest⟩
    case even =>
      rw [isEven_iff, inParens, openBehind_opening]
      omega
    case shortest =>
      intro front within present even
      -- A front of the group is empty, the whole of it, or one inside the parentheses.
      rcases List.prefix_cons_iff.mp within with rfl | ⟨shorter, rfl, inner⟩
      · exact absurd rfl present
      · rcases List.prefix_concat_iff.mp inner with rfl | inner
        · rfl
        · -- A shorter front leaves the first parenthesis open.
          have positive := before shorter inner
          rw [isEven_iff, openBehind_opening] at even
          omega
  · cases found

/-- A text that starts with a parenthesis and has an even front starts with a group. -/
theorem exists_group?_of_isEven {text front : Text} (opens : text.head? = some '(')
    (within : front <+: text) (present : front ≠ []) (even : IsEven front) :
    ∃ inside behind, group? text = some (inside, behind) := by
  obtain ⟨rest, rfl⟩ := List.head?_eq_some_iff.mp opens
  cases closed : closeGroup ⟨1, .plain⟩ rest with
  | some found => exact ⟨found.1, found.2, closed⟩
  | none =>
    -- Without an end of the group, no front would be even.
    rcases List.prefix_cons_iff.mp within with rfl | ⟨shorter, rfl, inner⟩
    · exact absurd rfl present
    · have positive := @openBehind_of_closeGroup_eq_none 0 .plain rest closed shorter inner
      rw [isEven_iff, openBehind_opening] at even
      omega

/-- A group is read as a whole, and it ends with the parenthesis that closes it. -/
theorem IsFirstGroup.exists_inParens {group : Text} (whole : IsFirstGroup group) :
    ∃ inside, group = inParens inside ∧ group? (inParens inside) = some (inside, []) := by
  have present : group ≠ [] := by
    rintro rfl
    cases whole.opens
  obtain ⟨inside, behind, found⟩ :=
    exists_group?_of_isEven whole.opens List.prefix_rfl present whole.even
  -- What is read is an even front of the group, so it is all of it.
  have split := group?_append found
  have all : inParens inside = group :=
    whole.shortest _ ⟨behind, split⟩ (List.cons_ne_nil _ _) (isFirstGroup_of_group? found).even
  exact ⟨inside, all.symm, closed_of_group? found⟩

/-- A group is read off a text exactly if the text starts with it. -/
theorem group?_eq_some_iff {text inside behind : Text} :
    group? text = some (inside, behind) ↔
      IsFirstGroup (inParens inside) ∧ inParens inside ++ behind = text := by
  -- A first group has a text inside, and what stands behind it makes no difference.
  constructor
  · intro found
    exact ⟨isFirstGroup_of_group? found, group?_append found⟩
  · rintro ⟨whole, rfl⟩
    obtain ⟨other, same, closed⟩ := whole.exists_inParens
    obtain rfl : inside = other := by simpa [inParens] using same
    exact group?_behind closed behind

/-- A call is read exactly where a word and a group right behind it stand between two gaps. -/
theorem functionCall?_eq_some_iff {text call : Text} :
    functionCall? text = some call ↔
      ∃ front name group back, (∀ c ∈ front, isGap c = true) ∧ IsRun isWordChar name ∧
        IsFirstGroup group ∧ (∀ c ∈ back, isGap c = true) ∧ call = name ++ group ∧
        text = front ++ (call ++ back) := by
  constructor
  · intro found
    -- The call is the whole text, but for the gaps around it.
    obtain ⟨front, back, before, ⟨named, word, closed⟩, behind, rfl⟩ :=
      exists_gaps_of_functionCall? found
    exact ⟨front, _, _, back, before, ⟨named, word⟩, isFirstGroup_of_group? closed, behind, rfl,
      List.append_assoc _ _ _⟩
  · rintro ⟨front, name, group, back, before, word, whole, behind, rfl, rfl⟩
    obtain ⟨inside, rfl, closed⟩ := whole.exists_inParens
    have start : skipGap (front ++ (name ++ inParens inside ++ back)) =
        name ++ (inParens inside ++ back) := by
      rw [List.append_assoc]
      exact skipGap_append before word.stops_gap
    -- The word ends at the parenthesis, and the group at its own last character.
    have named : word? (name ++ (inParens inside ++ back)) = some (name, inParens inside ++ back) :=
      run?_eq_some_iff.mpr ⟨word, stops_cons (by decide), rfl⟩
    simp only [functionCall?, start, call?, named, Option.bind_some, group?_behind closed,
      Option.map_some, skipGap_eq_nil_iff.mpr behind, if_true]

/-- The depth of a scan is exact as far as it reaches: what is opened less what is closed. -/
theorem IsScanned.depth_eq {text front : Text} (reached : IsScanned text front)
    (opens : text.head? = some '(') :
    (Nesting.outside.after front).depth + (unquoted .plain front).count ')' =
      (unquoted .plain front).count '(' := by
  obtain ⟨rest, rfl⟩ := List.head?_eq_some_iff.mp opens
  rcases List.prefix_cons_iff.mp reached.within with rfl | ⟨inner, rfl, -⟩
  · -- Nothing has been read yet.
    rfl
  · have goesOn : ∀ shorter, shorter <+: inner →
        ((0 : Nat) + 1 : Int) + openBehind .plain shorter = 0 → shorter = inner := by
      intro shorter within none
      have even : IsEven ('(' :: shorter) := by
        rw [isEven_iff, openBehind_opening]
        omega
      have same := reached.goesOn ('(' :: shorter) (List.cons_prefix_cons.mpr ⟨rfl, within⟩)
        (List.cons_ne_nil _ _) even
      exact (List.cons.inj same).2
    -- Behind the first parenthesis the depth is one, and from there on every step is exact.
    have counted := depth_after goesOn
    have start : Nesting.outside.after ('(' :: inner) =
        (⟨0 + 1, .plain⟩ : Nesting).after inner := rfl
    have first := openBehind_opening inner
    rw [start]
    unfold openBehind at counted first
    omega

/--
A text starts with a group exactly if it starts with a parenthesis and has an even front.

What is read is the shortest of these fronts, so that nothing behind it matters. The depth never
falls below zero on the way: it is what is opened less what is closed. Therefore a call is a word
with a group right behind it that its last character closes, between two gaps.
-/
theorem group_is_shortest_even_front (text : Text) :
    ((group? text).isSome = true ↔
      text.head? = some '(' ∧ ∃ front, front <+: text ∧ front ≠ [] ∧ IsEven front) ∧
    (∀ inside behind, group? text = some (inside, behind) ↔
      IsFirstGroup (inParens inside) ∧ inParens inside ++ behind = text) ∧
    (text.head? = some '(' → ∀ front, IsScanned text front →
      (Nesting.outside.after front).depth + (unquoted .plain front).count ')' =
        (unquoted .plain front).count '(') ∧
    (∀ inside, group? text = some (inside, []) →
      ∀ more, group? (text ++ more) = some (inside, more)) ∧
    ∀ call, functionCall? text = some call ↔
      ∃ front name group back, (∀ c ∈ front, isGap c = true) ∧ IsRun isWordChar name ∧
        IsFirstGroup group ∧ (∀ c ∈ back, isGap c = true) ∧ call = name ++ group ∧
        text = front ++ (call ++ back) := by
  refine ⟨⟨?reads, ?succeeds⟩, fun _ _ => group?_eq_some_iff, ?depth, ?stable,
    fun _ => functionCall?_eq_some_iff⟩
  -- A group that is read is itself an even front.
  case reads =>
    intro found
    obtain ⟨⟨inside, behind⟩, taken⟩ := Option.isSome_iff_exists.mp found
    obtain ⟨whole, rfl⟩ := group?_eq_some_iff.mp taken
    exact ⟨rfl, inParens inside, List.prefix_append _ _, List.cons_ne_nil _ _, whole.even⟩
  -- An even front holds a group, which is then found.
  case succeeds =>
    rintro ⟨opens, front, within, present, even⟩
    obtain ⟨inside, behind, found⟩ := exists_group?_of_isEven opens within present even
    rw [found]
    rfl
  case depth => exact fun opens front reached => reached.depth_eq opens
  -- A group is found again with anything behind it, because nothing behind it was looked at.
  case stable =>
    intro inside found more
    obtain ⟨whole, rfl⟩ := group?_eq_some_iff.mp found
    rw [List.append_nil]
    exact group?_eq_some_iff.mpr ⟨whole, rfl⟩

/-- Quotes hide the parentheses in them, and a backslash hides the mark that would end them. -/
theorem group_is_shortest_even_front_quoted :
    let group := "(a, '\\')', `(`)".toList
    let inside := "a, '\\')', `(`".toList
    IsFirstGroup group ∧ (∀ more, group? (group ++ more) = some (inside, more)) ∧
      (Nesting.outside.after group).depth = 0 ∧
      functionCall? ("\n f".toList ++ group ++ "\t".toList) = some ('f' :: group) := by
  intro group inside
  -- The laws are used for the group by itself and for the call around it.
  obtain ⟨-, reads, depth, stable, -⟩ := group_is_shortest_even_front group
  obtain ⟨-, -, -, -, calls⟩ := group_is_shortest_even_front ("\n f".toList ++ group ++ "\t".toList)
  have found : group? group = some (inside, []) := by decide
  have whole : IsFirstGroup group := ((reads inside []).mp found).1
  refine ⟨whole, stable inside found, ?depth, ?call⟩
  case depth =>
    -- The group is even, so nothing is left of the depth behind it.
    have counted := depth rfl group ⟨List.prefix_rfl, whole.shortest⟩
    have even := whole.even
    unfold IsEven at even
    omega
  case call =>
    have word : IsRun isWordChar "f".toList := ⟨by decide, List.all_eq_true.mp (by decide)⟩
    exact (calls _).mpr ⟨"\n ".toList, "f".toList, group, "\t".toList,
      List.all_eq_true.mp (by decide), word, whole, List.all_eq_true.mp (by decide), rfl, rfl⟩

end SqlWriter
