import Mathlib.Data.List.TakeWhile
import SqlWriter.Proofs.Dialect.Lexeme
import SqlWriter.Shape.Wildcard

/-! Runs, paths and gaps as shapes of texts, and the wildcards that are put together from them. -/

namespace SqlWriter

/-- A run holds at least one character, and characters of one class only. -/
structure IsRun (isPart : Char → Bool) (run : Text) : Prop where
  present : run ≠ []
  inside : ∀ c ∈ run, isPart c = true

/-- A path is a run, or several runs with a dot between each two. -/
inductive IsPath (isPart : Char → Bool) : Text → Prop where
  | part {part : Text} (run : IsRun isPart part) : IsPath isPart part
  | cons {part rest : Text} (run : IsRun isPart part) (path : IsPath isPart rest) :
    IsPath isPart (part ++ '.' :: rest)

/-- A run ends with a character of its class. -/
theorem IsRun.getLast {isPart : Char → Bool} {run : Text} (whole : IsRun isPart run)
    (front : Text) : ∃ c, (front ++ run).getLast? = some c ∧ isPart c = true := by
  -- The last character of the run is the last one of the whole.
  obtain ⟨init, c, rfl⟩ := (List.eq_nil_or_concat run).resolve_left whole.present
  exact ⟨c, by simp, whole.inside c (by simp)⟩

/-- A path starts with a character of its first part. -/
theorem IsPath.exists_cons {isPart : Char → Bool} {path : Text} (whole : IsPath isPart path) :
    ∃ c tail, path = c :: tail ∧ isPart c = true := by
  -- The path starts as its first part does.
  cases whole with
  | part run =>
    obtain ⟨c, tail, rfl⟩ := List.exists_cons_of_ne_nil run.present
    exact ⟨c, tail, rfl, run.inside c List.mem_cons_self⟩
  | @cons part rest run _ =>
    obtain ⟨c, tail, rfl⟩ := List.exists_cons_of_ne_nil run.present
    exact ⟨c, tail ++ '.' :: rest, rfl, run.inside c List.mem_cons_self⟩

/-- A path has no other characters than its parts and the dots between them. -/
theorem IsPath.inside {isPart : Char → Bool} {path : Text} (whole : IsPath isPart path) :
    ∀ c ∈ path, isPart c = true ∨ c = '.' := by
  -- Each part is a run, and between two of them there is a dot.
  induction whole with
  | part run => exact fun c there => .inl (run.inside c there)
  | cons run _ ih =>
    intro c there
    rcases List.mem_append.mp there with first | further
    · exact .inl (run.inside c first)
    · exact (List.mem_cons.mp further).elim .inr (ih c)

/-- Whether a text does not go on with a class of characters. -/
def Stops (isPart : Char → Bool) (rest : Text) : Prop :=
  ∀ c ∈ rest.head?, isPart c = false

/-- A text that starts with a character outside a class does not go on with the class. -/
theorem stops_cons {isPart : Char → Bool} {c : Char} {rest : Text} (outside : isPart c = false) :
    Stops isPart (c :: rest) := by
  -- The first character is the only one to look at.
  rintro _ ⟨⟩
  exact outside

/-- What is left behind the characters of a class does not go on with it. -/
theorem stops_dropWhile (isPart : Char → Bool) (text : Text) :
    Stops isPart (text.dropWhile isPart) := by
  -- Characters are dropped up to the first one that is none of the class.
  intro c first
  have found := List.head?_dropWhile_not isPart text
  rw [Option.mem_def.mp first] at found
  simpa using found

/-- A run is taken off a text exactly if the text goes on with other characters behind it. -/
theorem run?_eq_some_iff {isPart : Char → Bool} {text run rest : Text} :
    run? isPart text = some (run, rest) ↔
      IsRun isPart run ∧ Stops isPart rest ∧ text = run ++ rest := by
  -- What is taken is the longest run, so it is followed by something else.
  constructor
  · intro found
    refine ⟨⟨run?_ne_nil found, run?_isPart found⟩, ?_, (run?_append found).symm⟩
    simp only [run?] at found
    split at found
    · cases found
    · cases found
      exact stops_dropWhile isPart text
  · rintro ⟨⟨present, inside⟩, stops, rfl⟩
    obtain ⟨taken, dropped⟩ := takeWhile_dropWhile_run inside stops
    rw [run?, taken, dropped, if_neg present]

/-- No run is taken off a text that starts with another character. -/
theorem run?_eq_none {isPart : Char → Bool} {text : Text} (stops : Stops isPart text) :
    run? isPart text = none := by
  -- A run would put one of its own characters in front.
  rw [Option.eq_none_iff_forall_ne_some]
  rintro ⟨run, rest⟩ found
  obtain ⟨⟨present, inside⟩, -, rfl⟩ := run?_eq_some_iff.mp found
  obtain ⟨c, tail, rfl⟩ := List.exists_cons_of_ne_nil present
  exact absurd (inside c List.mem_cons_self) (by simp [stops c rfl])

/-- Behind a dot, a path goes on with a whole path or not at all. -/
theorem pathTail_dot (isPart : Char → Bool) (behind : Text) :
    pathTail isPart ('.' :: behind) =
      match path? isPart behind with
      | some (path, rest) => ('.' :: path, rest)
      | none => ([], '.' :: behind) := by
  -- Behind a dot the same reader is used again, and both of its answers are passed on.
  rw [pathTail, path?]
  split
  · rename_i found
    rw [found]
    rfl
  · rename_i none
    rw [none]
    rfl

/-- What is taken as a path is one. -/
theorem isPath_of_path? {isPart : Char → Bool} {text path rest : Text}
    (found : path? isPart text = some (path, rest)) : IsPath isPart path := by
  -- Each further part stands behind a dot, and the induction follows them.
  have tail : ∀ text : Text, (pathTail isPart text).1 = [] ∨
      ∃ path, IsPath isPart path ∧ (pathTail isPart text).1 = '.' :: path := by
    intro text
    fun_induction pathTail isPart text with
    | case1 behind part rest run tail last split ih =>
      obtain ⟨whole, -, -⟩ := run?_eq_some_iff.mp run
      rw [split] at ih
      -- The rest of the tail is empty, or it is a dot with a path behind it.
      rcases ih with none | ⟨path, isPath, more⟩
      · exact .inr ⟨part, .part whole, by simp only at none; rw [none, List.append_nil]⟩
      · exact .inr ⟨part ++ '.' :: path, .cons whole isPath, by simp only at more; rw [more]⟩
    | case2 => exact .inl rfl
    | case3 => exact .inl rfl
  simp only [path?, Option.map_eq_some_iff, Prod.mk.injEq, Prod.exists] at found
  obtain ⟨part, behind, run, rfl, rfl⟩ := found
  obtain ⟨whole, -, -⟩ := run?_eq_some_iff.mp run
  -- The path is its first part alone, or it goes on behind a dot.
  rcases tail behind with none | ⟨path, isPath, more⟩
  · rw [none, List.append_nil]
    exact .part whole
  · rw [more]
    exact .cons whole isPath

/-- A path is taken as a whole if neither its last part nor the path goes on behind it. -/
theorem path?_of_isPath {isPart : Char → Bool} {path rest : Text} (whole : IsPath isPart path)
    (dot : isPart '.' = false) (stops : Stops isPart rest)
    (noPart : ∀ behind, rest = '.' :: behind → Stops isPart behind) :
    path? isPart (path ++ rest) = some (path, rest) := by
  -- The induction follows the parts, each of which ends at the dot behind it.
  induction whole with
  | part run =>
    -- The rest adds nothing to the path, also where it starts with a dot.
    have nothing : pathTail isPart rest = ([], rest) := by
      unfold pathTail
      split
      · rename_i behind
        split
        · rename_i found
          rw [run?_eq_none (noPart behind rfl)] at found
          cases found
        · rfl
      · rfl
    rw [path?, run?_eq_some_iff.mpr ⟨run, stops, rfl⟩]
    simp only [Option.map_some, nothing, List.append_nil]
  | @cons part more run _ ih =>
    have first : run? isPart (part ++ '.' :: more ++ rest) = some (part, '.' :: (more ++ rest)) :=
      run?_eq_some_iff.mpr ⟨run, stops_cons dot, by simp⟩
    rw [path?, first]
    simp only [Option.map_some, pathTail_dot, ih]

/-- A star stands alone or behind a path and a dot. -/
inductive IsStar : Text → Prop where
  | all : IsStar ['*']
  | ofTable {path : Text} (qualifier : IsPath isQualifierChar path) : IsStar (path ++ ".*".toList)

/-- A text of some shape, with gaps around it if any. -/
def Spaced (shape : Text → Prop) (text : Text) : Prop :=
  ∃ front core back, (∀ c ∈ front, isGap c = true) ∧ shape core ∧ (∀ c ∈ back, isGap c = true) ∧
    text = front ++ (core ++ back)

/-- A wildcard is a star with gaps around it, or such a star in parentheses with gaps around them. -/
inductive IsWildcard : Text → Prop where
  | bare {text : Text} (star : Spaced IsStar text) : IsWildcard text
  | grouped {text : Text} (group : Spaced (fun core => ∃ inner, Spaced IsStar inner ∧
    core = inParens inner) text) : IsWildcard text

/-- A text is a gap, which may be empty, and what is left behind it. -/
theorem exists_gap (text : Text) : ∃ gap, (∀ c ∈ gap, isGap c = true) ∧ text = gap ++ skipGap text :=
  -- The gap is what is dropped.
  ⟨text.takeWhile isGap, fun _ there => List.mem_takeWhile_imp there,
    List.takeWhile_append_dropWhile.symm⟩

/-- A gap is skipped up to the character behind it. -/
theorem skipGap_append {gap rest : Text} (blank : ∀ c ∈ gap, isGap c = true)
    (stops : Stops isGap rest) : skipGap (gap ++ rest) = rest :=
  -- The gap stops where the rest begins.
  (takeWhile_dropWhile_run blank stops).2

/-- Only a gap leaves nothing behind it. -/
theorem skipGap_eq_nil_iff {text : Text} : skipGap text = [] ↔ ∀ c ∈ text, isGap c = true :=
  -- Everything is dropped exactly if all of it belongs to the class.
  List.dropWhile_eq_nil_iff

/-- A character is taken where it stands in front, and else nothing is. -/
theorem takeChar_cases (mark : Char) (text : Text) :
    (∃ rest, text = mark :: rest ∧ takeChar mark text = (true, rest)) ∨
      takeChar mark text = (false, text) := by
  -- There is a first character or not, and it is the mark or not.
  unfold takeChar
  split
  · rename_i c rest
    split
    · rename_i same
      exact .inl ⟨rest, by rw [same], rfl⟩
    · exact .inr rfl
  · exact .inr rfl

/-- No other character is taken. -/
theorem takeChar_of_ne {mark c : Char} {rest : Text} (other : c ≠ mark) :
    takeChar mark (c :: rest) = (false, c :: rest) := by
  -- Another character is left where it is.
  rw [takeChar, if_neg other]

/-- A star is read with its own qualifier, whatever stands behind it. -/
theorem IsStar.exists_qualifier {star : Text} (shape : IsStar star) :
    ∃ qualifier, ∀ behind, takeQualifier (star ++ behind) = (qualifier, '*' :: behind) := by
  cases shape with
  | all =>
    -- A star is no part of a path, so there is no qualifier to take.
    refine ⟨none, fun behind => ?_⟩
    have noPath : run? isQualifierChar ('*' :: behind) = none :=
      run?_eq_none (stops_cons (by decide))
    simp [takeQualifier, path?, noPath]
  | @ofTable path qualifier =>
    refine ⟨some path, fun behind => ?_⟩
    -- The path ends at its last dot, because a star is no part of a path.
    have taken : path? isQualifierChar (path ++ '.' :: '*' :: behind) =
        some (path, '.' :: '*' :: behind) :=
      path?_of_isPath qualifier (by decide) (stops_cons (by decide))
        (by rintro _ ⟨⟩; exact stops_cons (by decide))
    simp [takeQualifier, taken]

/-- A star stands behind the qualifier exactly if the text starts with a star of some shape. -/
theorem takeQualifier_star_iff {text behind : Text} :
    (takeQualifier text).2 = '*' :: behind ↔ ∃ star, IsStar star ∧ text = star ++ behind := by
  -- The qualifier is a path with a dot behind it, or nothing at all.
  constructor
  · intro found
    unfold takeQualifier at found
    split at found
    · rename_i path rest taken
      simp only at found
      subst found
      refine ⟨_, .ofTable (isPath_of_path? taken), ?_⟩
      rw [← path?_append taken]
      simp
    · exact ⟨['*'], .all, found⟩
  · rintro ⟨star, shape, rfl⟩
    -- The star and its qualifier are read back from the front of the text.
    obtain ⟨qualifier, read⟩ := shape.exists_qualifier
    rw [read]

/-- What a text starts with if it starts with a star: no gap and no parenthesis. -/
theorem IsStar.exists_cons {star : Text} (shape : IsStar star) :
    ∃ c tail, star = c :: tail ∧ isGap c = false ∧ c ≠ '(' := by
  -- A qualifier starts with one of its own characters, which are neither.
  have first : ∀ c, isQualifierChar c = true → isGap c = false ∧ c ≠ '(' := by
    intro c part
    refine ⟨?_, by rintro rfl; revert part; decide⟩
    cases gap : isGap c with
    | false => rfl
    | true => simp [isQualifierChar, isWhite_of_isGap gap] at part
  cases shape with
  | all => exact ⟨'*', [], rfl, by decide⟩
  | ofTable qualifier =>
    obtain ⟨c, tail, rfl, part⟩ := qualifier.exists_cons
    exact ⟨c, tail ++ ".*".toList, rfl, first c part⟩

/-- A star is read as a wildcard with one qualifier, both in parentheses and without them. -/
theorem IsStar.exists_wildcard {star : Text} (shape : IsStar star) :
    ∃ qualifier,
      (∀ front back, (∀ c ∈ front, isGap c = true) → (∀ c ∈ back, isGap c = true) →
        wildcard? (front ++ (star ++ back)) = some ⟨qualifier, false⟩) ∧
      (∀ front left right back, (∀ c ∈ front, isGap c = true) → (∀ c ∈ left, isGap c = true) →
        (∀ c ∈ right, isGap c = true) → (∀ c ∈ back, isGap c = true) →
        wildcard? (front ++ (inParens (left ++ (star ++ right)) ++ back)) =
          some ⟨qualifier, true⟩) := by
  obtain ⟨qualifier, read⟩ := shape.exists_qualifier
  obtain ⟨c, tail, start, noGap, noParen⟩ := shape.exists_cons
  -- What follows a gap is no gap itself, so that each part is taken where it stands.
  have stops : ∀ rest, Stops isGap (star ++ rest) := by
    rw [start]
    exact fun rest => stops_cons noGap
  refine ⟨qualifier, ?bare, ?grouped⟩
  case bare =>
    intro front back before behind
    have unopened : takeChar '(' (star ++ back) = (false, star ++ back) := by
      rw [start]
      exact takeChar_of_ne noParen
    have inside : skipGap (star ++ back) = star ++ back :=
      skipGap_append (List.forall_mem_nil _) (stops back)
    have ended : skipGap back = [] := skipGap_eq_nil_iff.mpr behind
    have unclosed : takeChar ')' [] = (false, []) := rfl
    have nothing : skipGap [] = [] := rfl
    simp [wildcard?, skipGap_append before (stops back), unopened, inside, read, ended, unclosed,
      nothing]
  case grouped =>
    intro front left right back before leftGap rightGap behind
    -- The parentheses are taken along the way, each behind its gap.
    have opening : inParens (left ++ (star ++ right)) ++ back =
        '(' :: (left ++ (star ++ (right ++ ')' :: back))) := by simp [inParens]
    have outer : skipGap (front ++ '(' :: (left ++ (star ++ (right ++ ')' :: back)))) =
        '(' :: (left ++ (star ++ (right ++ ')' :: back))) :=
      skipGap_append before (stops_cons (by decide))
    have inside : skipGap (left ++ (star ++ (right ++ ')' :: back))) =
        star ++ (right ++ ')' :: back) := skipGap_append leftGap (stops _)
    have closing : skipGap (right ++ ')' :: back) = ')' :: back :=
      skipGap_append rightGap (stops_cons (by decide))
    rw [opening]
    simp [wildcard?, outer, takeChar, inside, read, closing, skipGap_eq_nil_iff.mpr behind]

/-- What a wildcard is read as: a star, with parentheses on both of its sides or on neither. -/
theorem wildcard?_isSome_iff_star {text : Text} :
    (wildcard? text).isSome = true ↔
      ∃ behind, (takeQualifier (skipGap (takeChar '(' (skipGap text)).2)).2 = '*' :: behind ∧
        skipGap (takeChar ')' (skipGap behind)).2 = [] ∧
        (takeChar '(' (skipGap text)).1 = (takeChar ')' (skipGap behind)).1 := by
  -- Both sides follow the same readers, and the wildcard is found where the star is.
  simp only [wildcard?]
  split
  · rename_i behind star
    simp [star]
  · rename_i other
    simp only [Option.isSome_none, Bool.false_eq_true, false_iff]
    rintro ⟨behind, star, -⟩
    exact other behind star

/-- A text is read as a wildcard exactly if it has the shape of one. -/
theorem wildcard?_isSome_iff {text : Text} : (wildcard? text).isSome = true ↔ IsWildcard text := by
  constructor
  · -- The text is put together again from the gaps that are skipped and the parts that are taken.
    intro found
    obtain ⟨behind, starred, ended, paired⟩ := wildcard?_isSome_iff_star.mp found
    obtain ⟨star, shape, inside⟩ := takeQualifier_star_iff.mp starred
    obtain ⟨front, before, outer⟩ := exists_gap text
    obtain ⟨left, leftGap, inner⟩ := exists_gap (takeChar '(' (skipGap text)).2
    obtain ⟨right, rightGap, after⟩ := exists_gap behind
    have back := skipGap_eq_nil_iff.mp ended
    rw [inside] at inner
    rcases takeChar_cases '(' (skipGap text) with ⟨rest, opening, opened⟩ | unopened
    · rcases takeChar_cases ')' (skipGap behind) with ⟨last, closing, closed⟩ | unclosed
      · -- Both parentheses are there, with gaps inside and outside.
        rw [opened] at inner
        rw [closed] at back
        simp only at inner back
        refine .grouped ⟨front, _, last, before, ⟨_, ⟨left, star, right, leftGap, shape, rightGap,
          rfl⟩, rfl⟩, back, ?_⟩
        rw [outer, opening, inner, after, closing]
        simp [inParens]
      · simp [opened, unclosed] at paired
    · rcases takeChar_cases ')' (skipGap behind) with ⟨last, closing, closed⟩ | unclosed
      · simp [unopened, closed] at paired
      · -- The gap in front is skipped in one go or in two, and so is the one behind.
        rw [unopened] at inner
        rw [unclosed] at back
        simp only at inner back
        refine .bare ⟨front ++ left, star, behind, ?_, shape, ?_, ?_⟩
        · simpa [or_imp, forall_and] using ⟨before, leftGap⟩
        · rw [after]
          simpa [or_imp, forall_and] using ⟨rightGap, back⟩
        · rw [outer, inner, List.append_assoc]
  · intro whole
    cases whole with
    -- Each shape of a wildcard is read back by the law of its star.
    | bare star =>
      obtain ⟨front, star, back, before, shape, behind, rfl⟩ := star
      obtain ⟨qualifier, bare, -⟩ := shape.exists_wildcard
      rw [bare front back before behind]
      rfl
    | grouped group =>
      obtain ⟨front, _, back, before, ⟨_, ⟨left, star, right, leftGap, shape, rightGap, rfl⟩, rfl⟩,
        behind, rfl⟩ := group
      obtain ⟨qualifier, -, grouped⟩ := shape.exists_wildcard
      rw [grouped front left right back before leftGap rightGap behind]
      rfl

/-- The last character of a shape stays the last one up to a gap behind it. -/
theorem Spaced.exists_getLast {shape : Text → Prop} {text : Text} (spaced : Spaced shape text)
    (mark : Char) (ends : ∀ core, shape core → core.getLast? = some mark) :
    ∃ c, text.getLast? = some c ∧ (isGap c = true ∨ c = mark) := by
  -- The last character belongs to the gap behind the core, or to the core if there is no gap.
  obtain ⟨front, core, back, -, shaped, gap, rfl⟩ := spaced
  rcases List.eq_nil_or_concat back with rfl | ⟨init, c, rfl⟩
  · exact ⟨mark, by simp [ends core shaped], .inr rfl⟩
  · exact ⟨c, by simp, .inl (gap c (by simp))⟩

/-- A wildcard ends with its star, with a parenthesis or with a gap, and so not with a word. -/
theorem IsWildcard.exists_getLast {text : Text} (wildcard : IsWildcard text) :
    ∃ c, text.getLast? = some c ∧ isWordChar c = false := by
  -- None of the four gap characters is in a word, and neither are the two marks.
  have outside : ∀ mark, isWordChar mark = false → ∀ c, isGap c = true ∨ c = mark →
      isWordChar c = false := by
    rintro mark noWord c (gap | rfl)
    · simp only [isGap, Bool.or_eq_true, beq_iff_eq] at gap
      rcases gap with ((rfl | rfl) | rfl) | rfl <;> decide
    · exact noWord
  cases wildcard with
  | bare star =>
    -- The last character is a gap, or the mark that ends the wildcard.
    obtain ⟨c, last, kind⟩ := star.exists_getLast '*' (by rintro _ (_ | _) <;> simp)
    exact ⟨c, last, outside '*' (by decide) c kind⟩
  | grouped group =>
    obtain ⟨c, last, kind⟩ := group.exists_getLast ')'
      (by rintro _ ⟨inner, -, rfl⟩; rw [inParens, ← List.cons_append, List.getLast?_concat])
    exact ⟨c, last, outside ')' (by decide) c kind⟩

/-- A text that ends with a character of a word is no wildcard. -/
theorem not_isWildcard_of_getLast {text : Text} {c : Char} (last : text.getLast? = some c)
    (word : isWordChar c = true) : ¬IsWildcard text := by
  -- A wildcard ends with a star, a parenthesis or a gap, and none is a character of a word.
  intro wildcard
  obtain ⟨d, found, noWord⟩ := wildcard.exists_getLast
  obtain rfl := Option.some.inj (last.symm.trans found)
  rw [noWord] at word
  cases word

end SqlWriter
