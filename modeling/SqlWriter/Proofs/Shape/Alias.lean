import Mathlib.Data.List.DropRight
import SqlWriter.Proofs.Search
import SqlWriter.Proofs.Shape.Wildcard
import SqlWriter.Proofs.Text.Trimmed
import SqlWriter.Shape.Alias

/-! Aliases behind expressions: which texts have one, and why no text can be cut in two ways. -/

namespace SqlWriter

/-- A tail with an alias and no keyword: a gap, a word, and a further gap if any. -/
inductive ImplicitTail (name : Text) : Text → Prop where
  | intro {gap behind : Text} (apart : IsRun isGap gap) (word : IsRun isWordChar name)
    (ends : ∀ c ∈ behind, isGap c = true) : ImplicitTail name (gap ++ (name ++ behind))

/-- A tail with an alias and its keyword: a gap, `as` in any case, and a tail without it. -/
inductive ExplicitTail (keyword name : Text) : Text → Prop where
  | intro {gap tail : Text} (apart : IsRun isGap gap) (as : lowerCase keyword = "as".toList)
    (aliased : ImplicitTail name tail) : ExplicitTail keyword name (gap ++ (keyword ++ tail))

/-- No character of a word is a gap. -/
theorem not_isGap_of_isWordChar {c : Char} (word : isWordChar c = true) : isGap c = false := by
  -- None of the four gap characters is in a word.
  cases gap : isGap c with
  | false => rfl
  | true =>
    simp only [isGap, Bool.or_eq_true, beq_iff_eq] at gap
    rcases gap with ((rfl | rfl) | rfl) | rfl <;> revert word <;> decide

/-- No gap is a character of a word. -/
theorem not_isWordChar_of_isGap {c : Char} (gap : isGap c = true) : isWordChar c = false := by
  -- A character of both classes would have to be a gap and none.
  cases word : isWordChar c with
  | false => rfl
  | true => rw [not_isGap_of_isWordChar word] at gap; cases gap

/-- The characters of words are seen. -/
theorem not_isWhite_of_isWordChar {c : Char} (word : isWordChar c = true) : isWhite c = false := by
  -- Words are ASCII, and the ASCII codes of white space are below those of letters and digits.
  have upper : c.isUpper = true → 65 ≤ c.toNat ∧ c.toNat ≤ 90 := of_decide_eq_true
  have lower : c.isLower = true → 97 ≤ c.toNat ∧ c.toNat ≤ 122 := fun inside =>
    (Bool.and_eq_true_iff.mp inside).imp of_decide_eq_true of_decide_eq_true
  have digit : c.isDigit = true → 48 ≤ c.toNat ∧ c.toNat ≤ 57 := fun inside =>
    (Bool.and_eq_true_iff.mp inside).imp of_decide_eq_true of_decide_eq_true
  have code : (65 ≤ c.toNat ∧ c.toNat ≤ 90) ∨ (97 ≤ c.toNat ∧ c.toNat ≤ 122) ∨
      (48 ≤ c.toNat ∧ c.toNat ≤ 57) ∨ c.toNat = 95 := by
    rcases Bool.or_eq_true_iff.mp word with alphanumeric | underscore
    · rcases Bool.or_eq_true_iff.mp alphanumeric with letter | inside
      · exact (Bool.or_eq_true_iff.mp letter).imp upper fun inside => .inl (lower inside)
      · exact .inr (.inr (.inl (digit inside)))
    · rw [beq_iff_eq.mp underscore]
      decide
  -- The codes of white space are none of these.
  simp only [isWhite, Bool.or_eq_false_iff, Bool.and_eq_false_iff, decide_eq_false_iff_not,
    beq_eq_false_iff_ne]
  omega

/-- A word stops every gap in front of it. -/
theorem IsRun.stops_gap {word rest : Text} (run : IsRun isWordChar word) :
    Stops isGap (word ++ rest) := by
  -- The first character of the run is one of a word, and so it is no gap.
  obtain ⟨c, tail, rfl⟩ := List.exists_cons_of_ne_nil run.present
  exact stops_cons (not_isGap_of_isWordChar (run.inside c List.mem_cons_self))

/-- A gap stops every word in front of it. -/
theorem stops_word_of_gap {gap : Text} (blank : ∀ c ∈ gap, isGap c = true) :
    Stops isWordChar gap :=
  -- The first character of a gap is none of a word.
  fun c first => not_isWordChar_of_isGap (blank c (List.mem_of_mem_head? first))

/-- What stands behind a gap of at least one character starts with no gap itself. -/
theorem afterGap?_eq_some_iff {text rest : Text} :
    afterGap? text = some rest ↔
      ∃ gap, IsRun isGap gap ∧ Stops isGap rest ∧ text = gap ++ rest := by
  constructor
  · -- The gap is the character that was asked for, with all others that are skipped behind it.
    intro found
    cases text with
    | nil => cases found
    | cons c tail =>
      simp only [afterGap?] at found
      split at found
      · rename_i gap
        cases found
        obtain ⟨more, blank, whole⟩ := exists_gap tail
        refine ⟨c :: more, ⟨List.cons_ne_nil c more, ?_⟩, stops_dropWhile isGap tail, ?_⟩
        · exact List.forall_mem_cons.mpr ⟨gap, blank⟩
        · rw [List.cons_append, ← whole]
      · cases found
  · -- The first character is the one asked for, and the others are skipped to the end of the gap.
    rintro ⟨gap, ⟨present, blank⟩, stops, rfl⟩
    obtain ⟨c, more, rfl⟩ := List.exists_cons_of_ne_nil present
    obtain ⟨first, others⟩ := List.forall_mem_cons.mp blank
    rw [List.cons_append, afterGap?, if_pos first, skipGap_append others stops]

/-- A whole word is a word with a gap behind it, if any. -/
theorem wholeWord?_eq_some_iff {text name : Text} :
    wholeWord? text = some name ↔
      IsRun isWordChar name ∧ ∃ behind, (∀ c ∈ behind, isGap c = true) ∧ text = name ++ behind := by
  constructor
  · -- Nothing but a gap is left behind the word that was taken.
    intro found
    unfold wholeWord? at found
    split at found
    · rename_i word rest taken
      obtain ⟨run, -, rfl⟩ := run?_eq_some_iff.mp taken
      split at found
      · rename_i ended
        cases found
        exact ⟨run, rest, skipGap_eq_nil_iff.mp ended, rfl⟩
      · cases found
    · cases found
  · -- The gap stops the word, and it is skipped to its end.
    rintro ⟨run, behind, blank, rfl⟩
    have taken : word? (name ++ behind) = some (name, behind) :=
      run?_eq_some_iff.mpr ⟨run, stops_word_of_gap blank, rfl⟩
    simp only [wholeWord?, taken, skipGap_eq_nil_iff.mpr blank, if_true]

/-- A tail is read as an alias without a keyword exactly if it has the shape of one. -/
theorem implicitTail?_eq_some_iff {tail name : Text} :
    implicitTail? tail = some name ↔ ImplicitTail name tail := by
  -- A gap and then a whole word are read one behind the other.
  rw [implicitTail?, Option.bind_eq_some_iff]
  constructor
  · rintro ⟨rest, gapped, named⟩
    obtain ⟨gap, apart, -, rfl⟩ := afterGap?_eq_some_iff.mp gapped
    obtain ⟨word, behind, ends, rfl⟩ := wholeWord?_eq_some_iff.mp named
    exact .intro apart word ends
  · rintro ⟨apart, word, ends⟩
    exact ⟨_, afterGap?_eq_some_iff.mpr ⟨_, apart, word.stops_gap, rfl⟩,
      wholeWord?_eq_some_iff.mpr ⟨word, _, ends, rfl⟩⟩

/-- A character of a word in small letters is one in any case. -/
theorem isWordChar_of_toLower {c : Char} (small : isWordChar c.toLower = true) :
    isWordChar c = true := by
  -- Only a capital letter changes its case, and it is a character of words, too.
  by_cases capital : c.isUpper = true
  · have letter : (c.isUpper || c.isLower) = true := by rw [capital, Bool.true_or]
    have alphanumeric : c.isAlphanum = true := Bool.or_eq_true_iff.mpr (.inl letter)
    rw [isWordChar, alphanumeric, Bool.true_or]
  · have same : c.toLower = c := dif_neg fun inside => capital (decide_eq_true inside)
    rwa [same] at small

/-- The keyword of an alias is a word. -/
theorem isRun_of_as {keyword : Text} (as : lowerCase keyword = "as".toList) :
    IsRun isWordChar keyword where
  present := by
    rintro rfl
    -- The empty text has not the two letters.
    cases as
  inside c there := by
    -- The letters are compared in lower case, and both of them are letters of words.
    have letters : lowerCase keyword = ['a', 's'] := as
    have small : c.toLower ∈ ['a', 's'] := letters ▸ List.mem_map_of_mem there
    refine isWordChar_of_toLower ?_
    rcases List.mem_pair.mp small with letter | letter <;> rw [letter] <;> decide

/-- A tail is read as an alias behind its keyword exactly if it has the shape of one. -/
theorem explicitTail?_eq_some_iff {tail keyword name : Text} :
    explicitTail? tail = some (keyword, name) ↔ ExplicitTail keyword name tail := by
  constructor
  · -- The gap is dropped, then the two letters, and what is left is an implicit tail.
    intro found
    unfold explicitTail? at found
    split at found
    · rename_i first second behind gapped
      obtain ⟨gap, apart, -, rfl⟩ := afterGap?_eq_some_iff.mp gapped
      split at found
      · rename_i as
        obtain ⟨word, named, same⟩ := Option.map_eq_some_iff.mp found
        cases same
        exact .intro apart as (implicitTail?_eq_some_iff.mp named)
      · cases found
    · cases found
  · rintro ⟨apart, as, aliased⟩
    rename_i gap tail
    -- The keyword has the two letters that are compared in any case.
    obtain ⟨first, second, rfl⟩ : ∃ first second, keyword = [first, second] := by
      have two : keyword.length = 2 := by simpa [lowerCase] using congrArg List.length as
      exact List.length_eq_two.mp two
    have gapped : afterGap? (gap ++ ([first, second] ++ tail)) = some (first :: second :: tail) :=
      afterGap?_eq_some_iff.mpr ⟨gap, apart, (isRun_of_as as).stops_gap, rfl⟩
    have named : (afterGap? tail).bind wholeWord? = some name :=
      implicitTail?_eq_some_iff.mpr aliased
    simp only [explicitTail?, gapped, if_pos as, named, Option.map_some]

/-- A text is the front and the tail of each of its cuts, with something to see in the front. -/
theorem mem_cuts {text front tail : Text} :
    (front, tail) ∈ cuts text ↔
      text = front ++ tail ∧ (∃ c ∈ tail.head?, isWhite c = true) ∧ isBlank front = false := by
  -- A cut is a size, and the text is put together again from the two parts at that size.
  simp only [cuts, List.mem_filterMap, List.mem_range]
  constructor
  · rintro ⟨size, -, found⟩
    split at found
    · rename_i cut
      cases found
      simpa [Option.any_eq_true] using cut
    · cases found
  · -- The size of the cut is the length of the front, and there is something behind it.
    rintro ⟨rfl, ⟨c, first, white⟩, visible⟩
    refine ⟨front.length, ?_, ?_⟩
    · obtain ⟨rest, rfl⟩ := List.head?_eq_some_iff.mp first
      simp
    · rw [List.take_left, List.drop_left, Option.mem_def.mp first]
      simp [white, visible]

/-- A run at the end of a text is dropped and taken as a whole if another character precedes it. -/
theorem rdropWhile_rtakeWhile_run {isPart : Char → Bool} {front run : Text}
    (inside : ∀ c ∈ run, isPart c = true) (ends : ∀ c ∈ front.getLast?, isPart c = false) :
    (front ++ run).rdropWhile isPart = front ∧ (front ++ run).rtakeWhile isPart = run := by
  -- Read backwards, the run stands in front.
  have backwards : (run.reverse ++ front.reverse).takeWhile isPart = run.reverse ∧
      (run.reverse ++ front.reverse).dropWhile isPart = front.reverse :=
    takeWhile_dropWhile_run (by simpa using inside) (by simpa using ends)
  simp [List.rdropWhile, List.rtakeWhile, backwards]

/-- Dropping a class at the end of a text takes a run of it away first. -/
theorem rdropWhile_append_run {isPart : Char → Bool} {front run : Text}
    (inside : ∀ c ∈ run, isPart c = true) :
    (front ++ run).rdropWhile isPart = front.rdropWhile isPart := by
  -- Read backwards, the run stands in front of what is dropped.
  rw [List.rdropWhile, List.reverse_append, List.dropWhile_append_of_pos (by simpa using inside),
    List.rdropWhile]

/-- What a text ends with up to a gap: its last word, which is empty where it ends otherwise. -/
def lastWord (text : Text) : Text :=
  (text.rdropWhile isGap).rtakeWhile isWordChar

/-- What stands in front of the last word and of the gap before that word. -/
def beforeWord (text : Text) : Text :=
  ((text.rdropWhile isGap).rdropWhile isWordChar).rdropWhile isGap

/-- A gap at the end does not show in what a text is trimmed to. -/
theorem trim_rdropWhile_isGap (text : Text) : trim (text.rdropWhile isGap) = trim text := by
  -- What is dropped at the end is a gap, and trimming drops it anyhow.
  have white : ∀ c ∈ text.rtakeWhile isGap, isWhite c = true := fun _ there =>
    isWhite_of_isGap (List.mem_rtakeWhile_imp there)
  rw [← trim_append_white white, List.rdropWhile_append_rtakeWhile]

/-- The alias of a tail is the last word of each text with that tail. -/
theorem ImplicitTail.lastWord {name tail : Text} (aliased : ImplicitTail name tail) (front : Text) :
    lastWord (front ++ tail) = name ∧ beforeWord (front ++ tail) = front.rdropWhile isGap := by
  obtain ⟨apart, word, ends⟩ := aliased
  rename_i gap behind
  -- The gap behind the word, the word, and the gap in front of it are taken off one after another.
  have noGap : ∀ c ∈ (front ++ gap ++ name).getLast?, isGap c = false := by
    obtain ⟨c, last, inside⟩ := word.getLast (front ++ gap)
    rw [last]
    rintro _ ⟨⟩
    exact not_isGap_of_isWordChar inside
  have noWord : ∀ c ∈ (front ++ gap).getLast?, isWordChar c = false := by
    obtain ⟨c, last, inside⟩ := apart.getLast front
    rw [last]
    rintro _ ⟨⟩
    exact not_isWordChar_of_isGap inside
  have whole : front ++ (gap ++ (name ++ behind)) = front ++ gap ++ name ++ behind := by simp
  -- From the end backwards, the reader drops what the tail puts there.
  obtain ⟨dropped, -⟩ := rdropWhile_rtakeWhile_run ends noGap
  obtain ⟨before, last⟩ := rdropWhile_rtakeWhile_run word.inside noWord
  rw [SqlWriter.lastWord, beforeWord, whole, dropped, before, last]
  exact ⟨rfl, rdropWhile_append_run apart.inside⟩

/-- Two tails without a keyword at the ends of one text have one alias, behind one expression. -/
theorem ImplicitTail.unique {front tail name otherFront otherTail otherName : Text}
    (aliased : ImplicitTail name tail) (other : ImplicitTail otherName otherTail)
    (same : front ++ tail = otherFront ++ otherTail) :
    trim front = trim otherFront ∧ name = otherName := by
  -- The name is the last word of the whole text, which both readings of it share.
  obtain ⟨last, before⟩ := aliased.lastWord front
  obtain ⟨otherLast, otherBefore⟩ := other.lastWord otherFront
  refine ⟨?_, by rw [← last, ← otherLast, same]⟩
  -- What stands before that word differs from the fronts in gaps only.
  calc trim front
      _ = trim (front.rdropWhile isGap) := (trim_rdropWhile_isGap front).symm
      _ = trim (otherFront.rdropWhile isGap) := by rw [← before, ← otherBefore, same]
      _ = trim otherFront := trim_rdropWhile_isGap otherFront

/-- In front of the alias, a tail with a keyword leaves a text that ends with the keyword. -/
theorem ExplicitTail.beforeWord {keyword name tail : Text}
    (aliased : ExplicitTail keyword name tail) (front : Text) :
    ∃ gap rest, IsRun isGap gap ∧ ImplicitTail name rest ∧ IsRun isWordChar keyword ∧
      front ++ tail = (front ++ (gap ++ keyword)) ++ rest ∧
      beforeWord (front ++ tail) = front ++ (gap ++ keyword) := by
  obtain ⟨apart, as, implicit⟩ := aliased
  rename_i gap rest
  have word := isRun_of_as as
  have whole : front ++ (gap ++ (keyword ++ rest)) = (front ++ (gap ++ keyword)) ++ rest := by simp
  refine ⟨gap, rest, apart, implicit, word, whole, ?_⟩
  -- The keyword ends with a letter, so no gap is left behind it.
  have noGap : ∀ c ∈ (front ++ (gap ++ keyword)).getLast?, isGap c = false := by
    obtain ⟨c, last, inside⟩ := word.getLast (front ++ gap)
    rw [← List.append_assoc, last]
    rintro _ ⟨⟩
    exact not_isGap_of_isWordChar inside
  rw [whole, (implicit.lastWord _).2]
  have kept := (rdropWhile_rtakeWhile_run (List.forall_mem_nil _) noGap).1
  rwa [List.append_nil] at kept

/-- Two tails with a keyword at the ends of one text have one keyword, alias and expression. -/
theorem ExplicitTail.unique
    {front tail keyword name otherFront otherTail otherKeyword otherName : Text}
    (aliased : ExplicitTail keyword name tail)
    (other : ExplicitTail otherKeyword otherName otherTail)
    (same : front ++ tail = otherFront ++ otherTail) :
    trim front = trim otherFront ∧ keyword = otherKeyword ∧ name = otherName := by
  -- Without the name, both texts end with their keywords.
  obtain ⟨gap, rest, apart, implicit, word, whole, before⟩ := aliased.beforeWord front
  obtain ⟨otherGap, otherRest, otherApart, otherImplicit, otherWord, otherWhole, otherBefore⟩ :=
    other.beforeWord otherFront
  obtain ⟨-, names⟩ := implicit.unique otherImplicit (whole.symm.trans (same.trans otherWhole))
  -- The keyword in turn is the last word of what stands in front of the alias.
  have keywordTail : ImplicitTail keyword (gap ++ (keyword ++ [])) :=
    .intro apart word (List.forall_mem_nil _)
  have otherKeywordTail : ImplicitTail otherKeyword (otherGap ++ (otherKeyword ++ [])) :=
    .intro otherApart otherWord (List.forall_mem_nil _)
  have fronts : front ++ (gap ++ (keyword ++ [])) =
      otherFront ++ (otherGap ++ (otherKeyword ++ [])) := by
    rw [List.append_nil, List.append_nil, ← before, ← otherBefore, same]
  obtain ⟨expressions, keywords⟩ := keywordTail.unique otherKeywordTail fronts
  exact ⟨expressions, keywords, names⟩

/-- A gap in front of a text is white there. -/
theorem IsRun.head_isWhite {gap : Text} (apart : IsRun isGap gap) (rest : Text) :
    ∃ c ∈ (gap ++ rest).head?, isWhite c = true := by
  -- The first character of the gap is the first one of the whole.
  obtain ⟨c, more, rfl⟩ := List.exists_cons_of_ne_nil apart.present
  exact ⟨c, rfl, isWhite_of_isGap (apart.inside c List.mem_cons_self)⟩

/-- Trying one cut after the other finds what can be read at any cut, if all cuts agree on it. -/
theorem findSome?_cuts_eq_some_iff {read : Text × Text → Option Alias} {text : Text}
    {aliased : Alias}
    (starts : ∀ front tail found, read (front, tail) = some found →
      ∃ c ∈ tail.head?, isWhite c = true)
    (agree : ∀ front tail found otherFront otherTail other, read (front, tail) = some found →
      read (otherFront, otherTail) = some other → front ++ tail = otherFront ++ otherTail →
      other = found) :
    (cuts text).findSome? read = some aliased ↔
      ∃ front tail, text = front ++ tail ∧ isBlank front = false ∧
        read (front, tail) = some aliased := by
  constructor
  · -- A cut that is found is one of the text, with its two parts.
    intro found
    obtain ⟨⟨front, tail⟩, cut, here⟩ := List.exists_of_findSome?_eq_some found
    obtain ⟨whole, -, visible⟩ := mem_cuts.mp cut
    exact ⟨front, tail, whole, visible, here⟩
  · -- Since all cuts agree, the one that is given is as good as the first one.
    rintro ⟨front, tail, rfl, visible, here⟩
    have cut := mem_cuts.mpr ⟨rfl, starts front tail aliased here, visible⟩
    apply findSome?_eq_some_of_agree cut here
    intro other otherCut value there
    obtain ⟨same, -, -⟩ := mem_cuts.mp otherCut
    exact agree front tail aliased other.1 other.2 value here there same

/-- What one cut of a text gives as an alias behind a keyword. -/
theorem explicitCut_eq_some_iff {front tail : Text} {aliased : Alias} :
    ((explicitTail? tail).map fun (keyword, name) =>
      { expression := trim front, keyword := keyword, name := name }) = some aliased ↔
      ExplicitTail aliased.keyword aliased.name tail ∧ aliased.expression = trim front := by
  -- The parts of the alias are those of the tail, and the front that was trimmed.
  rw [Option.map_eq_some_iff]
  constructor
  · rintro ⟨⟨keyword, name⟩, shape, rfl⟩
    exact ⟨explicitTail?_eq_some_iff.mp shape, rfl⟩
  · rintro ⟨shape, trimmed⟩
    exact ⟨(aliased.keyword, aliased.name), explicitTail?_eq_some_iff.mpr shape, by rw [← trimmed]⟩

/-- A text has an alias behind a keyword exactly if it ends with one behind something to see. -/
theorem explicitAlias?_eq_some_iff {text : Text} {aliased : Alias} :
    explicitAlias? text = some aliased ↔
      ∃ front tail, text = front ++ tail ∧ isBlank front = false ∧
        ExplicitTail aliased.keyword aliased.name tail ∧ aliased.expression = trim front := by
  -- Every cut stands for one reading, and the shape of the tail makes all of them agree.
  simp only [← explicitCut_eq_some_iff]
  refine findSome?_cuts_eq_some_iff (fun front tail found here => ?_)
    (fun front tail found otherFront otherTail other here there same => ?_)
  · obtain ⟨⟨apart, _, _⟩, -⟩ := explicitCut_eq_some_iff.mp here
    exact apart.head_isWhite _
  · obtain ⟨shape, trimmed⟩ := explicitCut_eq_some_iff.mp here
    obtain ⟨otherShape, otherTrimmed⟩ := explicitCut_eq_some_iff.mp there
    obtain ⟨expressions, keywords, names⟩ := shape.unique otherShape same
    -- Two aliases with the same three parts are the same.
    calc other
        _ = ⟨other.expression, other.keyword, other.name⟩ := rfl
        _ = ⟨found.expression, found.keyword, found.name⟩ := by
          rw [otherTrimmed, trimmed, expressions, keywords, names]

/-- What one cut of a text gives as an alias without a keyword. -/
theorem implicitCut_eq_some_iff {front tail : Text} {aliased : Alias} :
    (if awaitsOperand (trim front) then none
      else (implicitTail? tail).map fun name =>
        { expression := trim front, keyword := "AS".toList, name := name }) = some aliased ↔
      awaitsOperand (trim front) = false ∧ ImplicitTail aliased.name tail ∧
        aliased.expression = trim front ∧ aliased.keyword = "AS".toList := by
  -- The front is tested first, since a text that waits for an operand has no alias.
  split
  · rename_i waits
    simp [waits]
  · rename_i complete
    rw [Option.map_eq_some_iff]
    constructor
    · rintro ⟨name, shape, rfl⟩
      exact ⟨by simpa using complete, implicitTail?_eq_some_iff.mp shape, rfl, rfl⟩
    · rintro ⟨-, shape, trimmed, spelled⟩
      exact ⟨aliased.name, implicitTail?_eq_some_iff.mpr shape, by rw [← trimmed, ← spelled]⟩

/-- A text has an alias without a keyword exactly if it ends with one behind a whole expression. -/
theorem implicitAlias?_eq_some_iff {text : Text} {aliased : Alias} :
    implicitAlias? text = some aliased ↔
      ∃ front tail, text = front ++ tail ∧ isBlank front = false ∧
        awaitsOperand (trim front) = false ∧ ImplicitTail aliased.name tail ∧
        aliased.expression = trim front ∧ aliased.keyword = "AS".toList := by
  -- Every cut stands for one reading, and the last word of the text makes all of them agree.
  simp only [← implicitCut_eq_some_iff]
  refine findSome?_cuts_eq_some_iff (fun front tail found here => ?_)
    (fun front tail found otherFront otherTail other here there same => ?_)
  · obtain ⟨-, ⟨apart, _, _⟩, -⟩ := implicitCut_eq_some_iff.mp here
    exact apart.head_isWhite _
  · obtain ⟨-, shape, trimmed, spelled⟩ := implicitCut_eq_some_iff.mp here
    obtain ⟨-, otherShape, otherTrimmed, otherSpelled⟩ := implicitCut_eq_some_iff.mp there
    obtain ⟨expressions, names⟩ := shape.unique otherShape same
    -- The keyword is the same for all aliases without one, and the other two parts agree.
    calc other
        _ = ⟨other.expression, other.keyword, other.name⟩ := rfl
        _ = ⟨found.expression, found.keyword, found.name⟩ := by
          rw [otherTrimmed, otherSpelled, trimmed, spelled, expressions, names]

/-- Four characters stand for operators. -/
theorem Operator.ofChar?_eq_none_iff {c : Char} :
    Operator.ofChar? c = none ↔ c ∉ "+-*/".toList := by
  -- The four symbols are compared one by one.
  unfold Operator.ofChar?
  repeat' split
  all_goals simp_all

/-- A complete expression: one that ends with no operator, or a wildcard, which ends with a star. -/
def IsComplete (expression : Text) : Prop :=
  (∀ c ∈ expression.getLast?, c ∉ "+-*/".toList) ∨ IsWildcard expression

/-- An expression waits for an operand exactly if it is not complete. -/
theorem awaitsOperand_eq_false_iff {expression : Text} :
    awaitsOperand expression = false ↔ IsComplete expression := by
  -- The test is negative if the text is a wildcard, or if its last character is no operator.
  rw [awaitsOperand, Bool.and_eq_false_iff, Option.isNone_eq_false_iff, wildcard?_isSome_iff,
    IsComplete, Option.isSome_eq_false_iff, Option.isNone_iff_eq_none, Option.bind_eq_none_iff]
  simp only [Operator.ofChar?_eq_none_iff, Option.mem_def]

/-- A text with an alias behind the keyword: something to see, and a tail with both of them. -/
inductive ExplicitlyAliased : Text → Alias → Prop where
  | intro {expression keyword name tail : Text} (visible : isBlank expression = false)
    (aliased : ExplicitTail keyword name tail) :
    ExplicitlyAliased (expression ++ tail) ⟨trim expression, keyword, name⟩

/-- A text with an alias and no keyword: a complete expression that can be seen, and a tail. -/
inductive ImplicitlyAliased : Text → Alias → Prop where
  | intro {expression name tail : Text} (visible : isBlank expression = false)
    (complete : IsComplete (trim expression)) (aliased : ImplicitTail name tail) :
    ImplicitlyAliased (expression ++ tail) ⟨trim expression, "AS".toList, name⟩

/-- A text has an alias behind the keyword at one of its cuts. -/
theorem explicitlyAliased_iff {text : Text} {aliased : Alias} :
    ExplicitlyAliased text aliased ↔
      ∃ front tail, text = front ++ tail ∧ isBlank front = false ∧
        ExplicitTail aliased.keyword aliased.name tail ∧ aliased.expression = trim front := by
  -- The inductive form says the same with the parts of the alias as indices.
  constructor
  · intro shape
    obtain ⟨visible, tail⟩ := shape
    exact ⟨_, _, rfl, visible, tail, rfl⟩
  · obtain ⟨expression, keyword, name⟩ := aliased
    rintro ⟨front, tail, rfl, visible, shape, rfl⟩
    exact .intro visible shape

/-- A text has an alias and no keyword at one of its cuts. -/
theorem implicitlyAliased_iff {text : Text} {aliased : Alias} :
    ImplicitlyAliased text aliased ↔
      ∃ front tail, text = front ++ tail ∧ isBlank front = false ∧
        awaitsOperand (trim front) = false ∧ ImplicitTail aliased.name tail ∧
        aliased.expression = trim front ∧ aliased.keyword = "AS".toList := by
  -- The inductive form says the same with the parts of the alias as indices.
  constructor
  · intro shape
    obtain ⟨visible, complete, tail⟩ := shape
    exact ⟨_, _, rfl, visible, awaitsOperand_eq_false_iff.mpr complete, tail, rfl, rfl⟩
  · obtain ⟨expression, keyword, name⟩ := aliased
    rintro ⟨front, tail, rfl, visible, complete, shape, rfl, rfl⟩
    exact .intro visible (awaitsOperand_eq_false_iff.mp complete) shape

/--
An alias is read exactly where there is one, and no text has two of a kind.

A text can be cut at several places between its expression and its alias, but all of these cuts
lead to one result.
-/
theorem alias_grammar (text : Text) :
    (∀ aliased, explicitAlias? text = some aliased ↔ ExplicitlyAliased text aliased) ∧
      (∀ aliased, implicitAlias? text = some aliased ↔ ImplicitlyAliased text aliased) ∧
      (∀ first second, ExplicitlyAliased text first → ExplicitlyAliased text second →
        first = second) ∧
      ∀ first second, ImplicitlyAliased text first → ImplicitlyAliased text second →
        first = second := by
  -- Both readers are described by their grammars.
  have explicit (aliased : Alias) :
      explicitAlias? text = some aliased ↔ ExplicitlyAliased text aliased := by
    rw [explicitAlias?_eq_some_iff, explicitlyAliased_iff]
  have implicit (aliased : Alias) :
      implicitAlias? text = some aliased ↔ ImplicitlyAliased text aliased := by
    rw [implicitAlias?_eq_some_iff, implicitlyAliased_iff]
  refine ⟨explicit, implicit, ?keyword, ?noKeyword⟩
  -- What is read from a text is one thing, and each alias that it has is read from it.
  case keyword =>
    intro first second one two
    exact Option.some.inj (((explicit first).mpr one).symm.trans ((explicit second).mpr two))
  case noKeyword =>
    intro first second one two
    exact Option.some.inj (((implicit first).mpr one).symm.trans ((implicit second).mpr two))

/-- An expression, its keyword and its alias can all be spelled alike, and blanks can follow. -/
theorem alias_grammar_as :
    ExplicitlyAliased "as AS as \t".toList ⟨"as".toList, "AS".toList, "as".toList⟩ ∧
      ImplicitlyAliased "as AS as \t".toList ⟨"as AS".toList, "AS".toList, "as".toList⟩ ∧
      ∀ other, ExplicitlyAliased "as AS as \t".toList other → other.name = "as".toList := by
  -- The text can be read in both ways, and the general theorem decides each of them.
  obtain ⟨explicit, implicit, unique, -⟩ := alias_grammar "as AS as \t".toList
  have here : ExplicitlyAliased "as AS as \t".toList ⟨"as".toList, "AS".toList, "as".toList⟩ :=
    (explicit _).mp (by decide +kernel)
  refine ⟨here, (implicit _).mp (by decide +kernel), ?_⟩
  intro other also
  rw [unique other _ also here]

end SqlWriter
