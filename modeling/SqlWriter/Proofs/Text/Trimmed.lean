import Mathlib.Data.List.TakeWhile
import SqlWriter.Text.Blank

/-! Trimmed texts: what is left of a text without the white space around it. -/

namespace SqlWriter

/-- A character of a text is in a run in front of it, or in what is left behind that run. -/
theorem mem_run_or_rest (isPart : Char → Bool) {text : Text} {c : Char} (there : c ∈ text) :
    isPart c = true ∨ c ∈ text.dropWhile isPart := by
  -- A text is the run and what is left, so the character is in one of them.
  rw [← List.takeWhile_append_dropWhile (p := isPart) (l := text), List.mem_append] at there
  exact there.imp_left List.mem_takeWhile_imp

/-- Trimming takes away white space in front of a text, however much of it there is. -/
theorem trim_white_append {gap text : Text} (white : ∀ c ∈ gap, isWhite c = true) :
    trim (gap ++ text) = trim text := by
  -- The white space in front is dropped before anything else is looked at.
  rw [trim, trimStart, List.dropWhile_append_of_pos white]
  rfl

/-- Trimming takes away white space behind a text, however much of it there is. -/
theorem trim_append_white {text gap : Text} (white : ∀ c ∈ gap, isWhite c = true) :
    trim (text ++ gap) = trim text := by
  rw [trim, trim, trimStart, trimStart, List.dropWhile_append]
  split
  · -- Nothing is left of a text that is blank up to its end.
    rename_i blank
    rw [List.isEmpty_iff.mp blank, List.dropWhile_eq_nil_iff.mpr white]
  · -- Read backwards, the white space stands in front.
    rw [trimEnd, List.reverse_append, List.dropWhile_append_of_pos (by simpa using white), trimEnd]

/-- A text is its trimmed self with white space around it. -/
theorem exists_white_around (text : Text) :
    ∃ front back, (∀ c ∈ front, isWhite c = true) ∧ (∀ c ∈ back, isWhite c = true) ∧
      text = front ++ trim text ++ back := by
  -- Each end loses a run of white space, and the end is read backwards.
  refine ⟨text.takeWhile isWhite, ((trimStart text).reverse.takeWhile isWhite).reverse,
    fun c there => List.mem_takeWhile_imp there,
    fun c there => List.mem_takeWhile_imp (List.mem_reverse.mp there), ?_⟩
  rw [trim, trimEnd, List.append_assoc, ← List.reverse_append, List.takeWhile_append_dropWhile,
    List.reverse_reverse]
  exact List.takeWhile_append_dropWhile.symm

/-- Trimming a trimmed text takes nothing more away. -/
theorem trim_trim (text : Text) : trim (trim text) = trim text := by
  -- The white space around a text is named, so that it can be taken away from both sides.
  obtain ⟨front, back, before, behind, split⟩ := exists_white_around text
  have same := congrArg trim split
  rw [trim_append_white behind, trim_white_append before] at same
  exact same.symm

/-- Trimming leaves nothing of a text exactly if the text is blank. -/
theorem trim_eq_nil_iff {text : Text} : trim text = [] ↔ isBlank text = true := by
  constructor
  · -- A character that is dropped at the start is white, and so are the ones that are left.
    intro nothing
    simp only [trim, trimEnd, List.reverse_eq_nil_iff, List.dropWhile_eq_nil_iff,
      List.mem_reverse] at nothing
    exact List.all_eq_true.mpr fun c there => (mem_run_or_rest isWhite there).elim id (nothing c)
  · intro blank
    rw [trim, trimStart, List.dropWhile_eq_nil_iff.mpr (List.all_eq_true.mp blank)]
    rfl

/-- A character that is seen is not trimmed away. -/
theorem mem_trim {text : Text} {c : Char} (there : c ∈ text) (visible : isWhite c = false) :
    c ∈ trim text := by
  -- The character is in none of the two runs that are dropped.
  have noWhite : ¬isWhite c = true := by simp [visible]
  have start : c ∈ trimStart text := (mem_run_or_rest isWhite there).resolve_left noWhite
  rw [trim, trimEnd, List.mem_reverse]
  exact (mem_run_or_rest isWhite (List.mem_reverse.mpr start)).resolve_left noWhite

/-- A text that trimming leaves as it is has no white space around it. -/
theorem eq_of_trim_eq_self {front core back : Text} (before : ∀ c ∈ front, isWhite c = true)
    (behind : ∀ c ∈ back, isWhite c = true)
    (trimmed : trim (front ++ core ++ back) = front ++ core ++ back) :
    front ++ core ++ back = core := by
  -- What is left is no longer than the core, so nothing else was there.
  have kept := trim_length core
  rw [trim_append_white behind, trim_white_append before] at trimmed
  have lengths := congrArg List.length trimmed
  simp only [List.length_append] at lengths
  have noFront : front = [] := List.length_eq_zero_iff.mp (by omega)
  have noBack : back = [] := List.length_eq_zero_iff.mp (by omega)
  simp [noFront, noBack]

/-- Trimming the start of a text takes away nothing from a character on that can be seen. -/
theorem exists_trimStart {c : Char} (visible : isWhite c = false) (front rest : Text) :
    ∃ kept, trimStart (front ++ c :: rest) = kept ++ c :: rest := by
  rw [trimStart, List.dropWhile_append]
  split
  · -- Everything in front is white, and what can be seen stops the trimming.
    exact ⟨[], by simp [visible]⟩
  · exact ⟨_, rfl⟩

/-- Trimming the end of a text takes away nothing up to a character that can be seen. -/
theorem exists_trimEnd {c : Char} (visible : isWhite c = false) (front rest : Text) :
    ∃ kept, trimEnd (front ++ c :: rest) = front ++ c :: kept := by
  -- Read backwards, this is the start of the text.
  obtain ⟨kept, start⟩ := exists_trimStart visible rest.reverse front.reverse
  refine ⟨kept.reverse, ?_⟩
  have backwards : (front ++ c :: rest).reverse = rest.reverse ++ c :: front.reverse := by simp
  rw [trimEnd, backwards, ← trimStart, start]
  simp

/-- Two characters that can be seen stay where they are when the text around them is trimmed. -/
theorem exists_trim_between {first last : Char} (starts : isWhite first = false)
    (ends : isWhite last = false) (front middle back : Text) :
    ∃ before behind, trim (front ++ first :: (middle ++ last :: back)) =
      before ++ first :: middle ++ last :: behind := by
  -- The first character stops the trimming in front, and the last one does behind.
  obtain ⟨before, start⟩ := exists_trimStart starts front (middle ++ last :: back)
  have moved : before ++ first :: (middle ++ last :: back) =
      before ++ first :: middle ++ last :: back := by simp
  obtain ⟨behind, whole⟩ := exists_trimEnd ends (before ++ first :: middle) back
  refine ⟨before, behind, ?_⟩
  rw [trim, start, moved, whole]

/-- What stands between two characters that can be seen is not trimmed away. -/
theorem mem_trim_between {first last : Char} (starts : isWhite first = false)
    (ends : isWhite last = false) (front back : Text) {middle : Text} {c : Char}
    (there : c ∈ middle) : c ∈ trim (front ++ first :: (middle ++ last :: back)) := by
  -- Everything between the two characters is kept with them.
  obtain ⟨before, behind, whole⟩ := exists_trim_between starts ends front middle back
  rw [whole]
  simp [there]

/-- A text between two characters that can be seen has nothing to trim. -/
theorem trim_between {first last : Char} (starts : isWhite first = false)
    (ends : isWhite last = false) (middle : Text) :
    trim (first :: (middle ++ [last])) = first :: (middle ++ [last]) := by
  -- Neither end has anything to drop.
  simp [trim, trimStart, trimEnd, starts, ends]

/-- A text of which every character can be seen has nothing to trim. -/
theorem trim_of_visible {text : Text} (visible : ∀ c ∈ text, isWhite c = false) :
    trim text = text := by
  -- No character in front is dropped, from either side.
  have kept : ∀ text : Text, (∀ c ∈ text, isWhite c = false) → text.dropWhile isWhite = text := by
    intro text visible
    cases text with
    | nil => rfl
    | cons c rest => simp [visible c List.mem_cons_self]
  rw [trim, trimStart, kept text visible, trimEnd, kept _ (by simpa using visible),
    List.reverse_reverse]

/-- A character that is seen at the end of a text stays there when the text is trimmed. -/
theorem getLast?_trim {text : Text} {c : Char} (last : text.getLast? = some c)
    (visible : isWhite c = false) : (trim text).getLast? = some c := by
  -- Trimming the front leaves the end alone, and the end has nothing to drop.
  obtain ⟨init, rfl⟩ := List.getLast?_eq_some_iff.mp last
  obtain ⟨kept, start⟩ := exists_trimStart visible init []
  have whole : trimEnd (kept ++ [c]) = kept ++ [c] := by simp [trimEnd, visible]
  rw [trim, start, whole, List.getLast?_concat]

end SqlWriter
