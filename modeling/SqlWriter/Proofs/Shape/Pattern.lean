import SqlWriter.Proofs.Shape.Exclusion
import SqlWriter.Shape.Pattern

/-! Patterns: the texts that hold one of the wildcard characters or a class between brackets. -/

namespace SqlWriter

/-- What stands between the brackets of a class: something, and more than a caret in front. -/
structure IsClass (inside : Text) : Prop where
  unclosed : ']' ∉ inside
  present : inside ≠ []
  noCaret : inside ≠ ['^']

/-- A text holds a wildcard if it has one of the two characters in it, or a class in brackets. -/
inductive HoldsWildcard : Text → Prop where
  | mark {text : Text} {c : Char} (wild : c = '%' ∨ c = '_') (there : c ∈ text) : HoldsWildcard text
  | brackets {front inside back : Text} (shape : IsClass inside) :
    HoldsWildcard (front ++ '[' :: (inside ++ ']' :: back))

/-- Whether a bracket closes in a text, and there is something in front of the first one. -/
def closesBehind : Text → Bool
  | ']' :: _ => false
  | body => body.contains ']'

/-- A bracket closes behind something exactly if the text goes on with it behind something else. -/
theorem closesBehind_iff {body : Text} :
    closesBehind body = true ↔
      ∃ inside back, inside ≠ [] ∧ ']' ∉ inside ∧ body = inside ++ ']' :: back := by
  constructor
  · intro closed
    unfold closesBehind at closed
    split at closed
    · cases closed
    · rename_i other
      -- The first bracket of the text is the one that counts.
      obtain ⟨inside, back, whole, unclosed⟩ :=
        List.eq_append_cons_of_mem (List.contains_iff_mem.mp closed)
      refine ⟨inside, back, ?_, unclosed, whole⟩
      rintro rfl
      exact other back whole
  · rintro ⟨inside, back, present, unclosed, rfl⟩
    -- The bracket that closes is not the first character of the body.
    obtain ⟨c, more, rfl⟩ := List.exists_cons_of_ne_nil present
    have other : c ≠ ']' := fun same => unclosed (by simp [same])
    simp [closesBehind, other]

/-- A caret in front of a class is passed by, and what is behind it has to close. -/
@[simp] theorem opensClass_caret (rest : Text) : opensClass ('^' :: rest) = closesBehind rest := by
  -- Behind a caret only a closing bracket counts, which is what both tests ask for.
  simp only [opensClass, closesBehind]
  split <;> simp_all

/-- Without a caret in front, it is the text itself that has to close. -/
theorem opensClass_of_noCaret {text : Text} (noCaret : ∀ rest, text ≠ '^' :: rest) :
    opensClass text = closesBehind text := by
  -- The caret is the one character that is skipped.
  unfold opensClass
  split
  · exact absurd rfl (noCaret _)
  · unfold closesBehind
    -- Without it both tests look for the same bracket.
    split <;> simp_all

/-- A class opens in front of a text exactly if the text starts with one and its bracket. -/
theorem opensClass_iff {text : Text} :
    opensClass text = true ↔ ∃ inside back, IsClass inside ∧ text = inside ++ ']' :: back := by
  by_cases caret : ∃ rest, text = '^' :: rest
  · -- The caret belongs to the class, and there has to be more in it.
    obtain ⟨rest, rfl⟩ := caret
    rw [opensClass_caret, closesBehind_iff]
    constructor
    · rintro ⟨inside, back, present, unclosed, rfl⟩
      exact ⟨'^' :: inside, back, ⟨by simp [unclosed], by simp, by simpa using present⟩, rfl⟩
    · -- The body of the class starts behind its caret.
      rintro ⟨inside, back, ⟨unclosed, present, noCaret⟩, same⟩
      obtain ⟨c, more, rfl⟩ := List.exists_cons_of_ne_nil present
      obtain ⟨rfl, rfl⟩ := List.cons.inj same
      exact ⟨more, back, by simpa using noCaret, fun there => unclosed (by simp [there]), rfl⟩
  · rw [opensClass_of_noCaret fun rest same => caret ⟨rest, same⟩, closesBehind_iff]
    constructor
    · rintro ⟨inside, back, present, unclosed, rfl⟩
      refine ⟨inside, back, ⟨unclosed, present, ?_⟩, rfl⟩
      rintro rfl
      exact caret ⟨_, rfl⟩
    · rintro ⟨inside, back, ⟨unclosed, present, -⟩, same⟩
      exact ⟨inside, back, present, unclosed, same⟩

/-- A text is a pattern exactly if it holds a wildcard. -/
theorem isLikePattern_iff {text : Text} : isLikePattern text = true ↔ HoldsWildcard text := by
  constructor
  · intro pattern
    induction text with
    | nil => cases pattern
    | cons c rest ih =>
      simp only [isLikePattern, Bool.or_eq_true, Bool.and_eq_true, beq_iff_eq] at pattern
      rcases pattern with ((percent | underscore) | ⟨rfl, opened⟩) | further
      · exact .mark (.inl percent) List.mem_cons_self
      · exact .mark (.inr underscore) List.mem_cons_self
      · obtain ⟨inside, back, shape, rfl⟩ := opensClass_iff.mp opened
        exact @HoldsWildcard.brackets [] _ _ shape
      · -- Whatever the rest holds is held with one more character in front, too.
        cases ih further with
        | mark wild there => exact .mark wild (List.mem_cons_of_mem c there)
        | @brackets front inside back shape => exact @HoldsWildcard.brackets (c :: front) _ _ shape
  · intro held
    -- A character or a class with any front before it is found by going through that front.
    cases held with
    | @mark text c wild there =>
      obtain ⟨front, back, rfl⟩ := List.append_of_mem there
      induction front with
      | nil => rcases wild with rfl | rfl <;> simp [isLikePattern]
      | cons d front ih => simp [isLikePattern, ih (by simp)]
    | @brackets front inside back shape =>
      induction front with
      | nil =>
        have opened : opensClass (inside ++ ']' :: back) = true :=
          opensClass_iff.mpr ⟨inside, back, shape, rfl⟩
        simp [isLikePattern, opened]
      | cons d front ih => simp [isLikePattern, ih]

/-- What a text holds is held with other texts around it, too. -/
theorem HoldsWildcard.between {text : Text} (held : HoldsWildcard text) (front back : Text) :
    HoldsWildcard (front ++ text ++ back) := by
  cases held with
  | mark wild there => exact .mark wild (by simp [there])
  | @brackets before inside behind shape =>
    -- The bracket that closes the class is still the first one behind that which opens it.
    have whole : front ++ (before ++ '[' :: (inside ++ ']' :: behind)) ++ back =
        (front ++ before) ++ '[' :: (inside ++ ']' :: (behind ++ back)) := by simp
    rw [whole]
    exact .brackets shape

/--
A text is a pattern exactly if it has a wildcard character, or a class between two brackets.

The class ends at the first bracket that closes, and it is neither empty nor a caret alone. Both are
found wherever they stand, so a text with a pattern in it is a pattern as well.
-/
theorem isLikePattern_anywhere (text : Text) :
    (isLikePattern text = true ↔
      ('%' ∈ text ∨ '_' ∈ text) ∨
        ∃ front inside back, text = front ++ '[' :: (inside ++ ']' :: back) ∧
          ']' ∉ inside ∧ inside ≠ [] ∧ inside ≠ ['^']) ∧
      (isLikePattern text = true →
        ∀ front back, isLikePattern (front ++ text ++ back) = true) := by
  constructor
  · -- The inductive form lists the marks and the brackets in the same way.
    rw [isLikePattern_iff]
    constructor
    · intro held
      cases held with
      | mark wild there =>
        rcases wild with rfl | rfl
        · exact .inl (.inl there)
        · exact .inl (.inr there)
      | brackets shape =>
        exact .inr ⟨_, _, _, rfl, shape.unclosed, shape.present, shape.noCaret⟩
    · rintro ((percent | underscore) | ⟨front, inside, back, rfl, unclosed, present, noCaret⟩)
      · exact .mark (.inl rfl) percent
      · exact .mark (.inr rfl) underscore
      · exact .brackets ⟨unclosed, present, noCaret⟩
  · -- What stands around a pattern leaves its mark or its brackets as they are.
    intro pattern front back
    exact isLikePattern_iff.mpr ((isLikePattern_iff.mp pattern).between front back)

/-- A class counts behind an empty one and a lone caret, and no bracket in front of it matters. -/
theorem isLikePattern_anywhere_carets :
    isLikePattern "[][^]".toList = false ∧ isLikePattern "[][^][^^]".toList = true ∧
      isLikePattern ("[^".toList ++ "[][^][^^]".toList ++ "[".toList) = true := by
  -- The first two pairs of brackets are empty or hold a caret alone, and only the third one counts.
  obtain ⟨iff, extended⟩ := isLikePattern_anywhere "[][^][^^]".toList
  have pattern : isLikePattern "[][^][^^]".toList = true :=
    iff.mpr (.inr ⟨"[][^]".toList, "^^".toList, [], rfl, by decide, by decide, by decide⟩)
  exact ⟨by decide, pattern, extended pattern _ _⟩

/-- No gap character is a wildcard character or a bracket. -/
theorem ne_of_isGap {c : Char} (gap : isGap c = true) : c ≠ '%' ∧ c ≠ '_' ∧ c ≠ '[' ∧ c ≠ ']' := by
  -- The four gap characters are compared one by one.
  simp only [isGap, Bool.or_eq_true, beq_iff_eq] at gap
  rcases gap with ((rfl | rfl) | rfl) | rfl <;> decide

/-- A text behind another one does not help a class to close if it has no closing bracket. -/
theorem opensClass_append (text : Text) {back : Text} (unclosed : ']' ∉ back) :
    opensClass (text ++ back) = opensClass text := by
  rw [Bool.eq_iff_iff, opensClass_iff, opensClass_iff]
  constructor
  · rintro ⟨inside, rest, shape, whole⟩
    -- The closing bracket is not in the text behind, so the class ends before that starts.
    rcases List.append_eq_append_iff.mp whole with ⟨more, rfl, behind⟩ | ⟨more, rfl, behind⟩
    · exact absurd (by simp [behind]) unclosed
    · cases more with
      | nil =>
        rw [List.nil_append] at behind
        exact absurd (by simp [← behind]) unclosed
      | cons c more =>
        obtain ⟨rfl, -⟩ := List.cons.inj behind
        exact ⟨inside, more, shape, rfl⟩
  · -- What is behind a class does not matter to it.
    rintro ⟨inside, rest, shape, rfl⟩
    exact ⟨inside, rest ++ back, shape, by simp⟩

/-- Gaps around a text neither make a pattern of it nor keep it from being one. -/
theorem isLikePattern_between_gaps {front back : Text} (before : ∀ c ∈ front, isGap c = true)
    (behind : ∀ c ∈ back, isGap c = true) (text : Text) :
    isLikePattern (front ++ text ++ back) = isLikePattern text := by
  have gap : ∀ c rest, isGap c = true → isLikePattern (c :: rest) = isLikePattern rest := by
    -- A gap is no wildcard, and it opens no class.
    intro c rest gap
    obtain ⟨percent, underscore, opening, -⟩ := ne_of_isGap gap
    simp [isLikePattern, percent, underscore, opening]
  induction front with
  | cons c front ih =>
    obtain ⟨own, others⟩ := List.forall_mem_cons.mp before
    rw [List.cons_append, List.cons_append, gap c _ own, ih others]
  | nil =>
    have unclosed : ']' ∉ back := fun there => (ne_of_isGap (behind _ there)).2.2.2 rfl
    induction text with
    | cons c text ih =>
      -- A class that opens in the text closes in it, too.
      simp only [List.nil_append] at ih
      simp only [List.nil_append, List.cons_append, isLikePattern, opensClass_append text unclosed,
        ih]
    | nil =>
      induction back with
      | nil => rfl
      | cons c back ih =>
        obtain ⟨own, others⟩ := List.forall_mem_cons.mp behind
        exact (gap c back own).trans (ih others fun there => unclosed (.tail c there))

end SqlWriter
