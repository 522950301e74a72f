import SqlWriter.Proofs.Text.Trimmed
import SqlWriter.Shape.Nesting

/-! The top-level commas of joined texts: a text keeps its pieces if it closes its nesting. -/

namespace SqlWriter

/-- A text that closes all of its quotes and parentheses. -/
def ClosesAll (text : Text) : Prop :=
  Nesting.outside.after text = .outside

instance (text : Text) : Decidable (ClosesAll text) :=
  -- It is an equation between two places of a scan.
  inferInstanceAs (Decidable (_ = _))

/-- The pieces between the top-level commas of a text, with the white space around them. -/
def topPieces (nesting : Nesting) (text : Text) : List Text :=
  (cutAtCommas nesting text).1 :: (cutAtCommas nesting text).2

/-- A comma that cuts starts the pieces anew, and every other character joins the first of them. -/
theorem topPieces_cons (nesting : Nesting) (c : Char) (rest : Text) :
    topPieces nesting (c :: rest) =
      if c = ',' ∧ nesting = .outside then [] :: topPieces (nesting.step c) rest
      else (topPieces (nesting.step c) rest).modifyHead (c :: ·) := by
  -- A character either cuts or joins the piece that follows it.
  simp only [topPieces, cutAtCommas]
  split <;> rfl

/-- Behind a text that ends outside all nesting, a comma cuts. -/
theorem topPieces_append {nesting : Nesting} {front : Text}
    (closed : nesting.after front = .outside) (back : Text) :
    topPieces nesting (front ++ ',' :: back) =
      topPieces nesting front ++ topPieces .outside back := by
  -- The induction follows the scan, which both sides make in the same steps up to the comma.
  induction front generalizing nesting with
  | nil =>
    have start : nesting = .outside := closed
    subst start
    rfl
  | cons c front ih =>
    rw [List.cons_append, topPieces_cons, topPieces_cons, ih closed]
    split <;> rfl

/-- The columns of a text are its pieces, trimmed and without the ones that are blank. -/
theorem splitColumns_eq (text : Text) :
    splitColumns text = ((topPieces .outside text).map trim).filter (· ≠ []) :=
  -- Columns are the pieces, trimmed and without those that are blank.
  rfl

/-- Two texts with a comma between them have the columns of both. -/
theorem splitColumns_append {front : Text} (closed : ClosesAll front) (back : Text) :
    splitColumns (front ++ ',' :: back) = splitColumns front ++ splitColumns back := by
  -- A comma behind a closed text is a cut, so that the pieces are those of both sides.
  rw [splitColumns_eq, topPieces_append closed, List.map_append, List.filter_append,
    ← splitColumns_eq, ← splitColumns_eq]

/-- Texts that are joined by commas have the columns of each of them. -/
theorem splitColumns_intercalate {texts : List Text} (closed : ∀ text ∈ texts, ClosesAll text) :
    splitColumns ([','].intercalate texts) = texts.flatMap splitColumns := by
  -- The texts are joined one by one, and the comma behind each of them cuts.
  induction texts with
  | nil => rfl
  | cons text rest ih =>
    obtain ⟨own, others⟩ := List.forall_mem_cons.mp closed
    by_cases further : rest = []
    · -- The last text has no comma behind it.
      simp [further]
    · rw [List.intercalate_cons_of_ne_nil further, List.append_assoc, List.singleton_append,
        splitColumns_append own, ih others, List.flatMap_cons]

/-- Whether a text holds nothing but commas and white space. -/
def isVacant (text : Text) : Bool :=
  text.all fun c => c == ',' || isWhite c

/-- White space opens no quotes and no parentheses. -/
theorem Nesting.step_white {c : Char} (white : isWhite c = true) :
    Nesting.outside.step c = .outside := by
  -- Each character that would move the scan on can be seen.
  have other : ∀ mark, isWhite mark = false → c ≠ mark := by
    rintro mark visible rfl
    rw [white] at visible
    cases visible
  have noQuote : isQuoteMark c = false := by
    simp [isQuoteMark, other '\'' (by decide), other '"' (by decide), other '`' (by decide)]
  simp [Nesting.step, Nesting.outside, noQuote, other '(' (by decide), other ')' (by decide)]

/-- One more character in front leaves all pieces blank if it is white and they were blank. -/
theorem isBlank_modifyHead_iff {c : Char} {nesting : Nesting} {text : Text} :
    (∀ piece ∈ (topPieces nesting text).modifyHead (c :: ·), isBlank piece = true) ↔
      isWhite c = true ∧ ∀ piece ∈ topPieces nesting text, isBlank piece = true := by
  -- The character joins the first piece only.
  rw [topPieces, List.modifyHead_cons, List.forall_mem_cons, List.forall_mem_cons, isBlank_cons,
    Bool.and_eq_true, and_assoc]

/-- The pieces of a text are all blank exactly if it holds nothing but commas and white space. -/
theorem isBlank_topPieces_iff {text : Text} :
    (∀ piece ∈ topPieces .outside text, isBlank piece = true) ↔ isVacant text = true := by
  -- As long as the characters are of these kinds, the scan stays outside, where each comma cuts.
  induction text with
  | nil => simp [topPieces, cutAtCommas, isVacant, isBlank]
  | cons c rest ih =>
    have first : isVacant (c :: rest) = ((c == ',' || isWhite c) && isVacant rest) := List.all_cons
    rw [topPieces_cons, first]
    by_cases comma : c = ','
    · subst comma
      have stays : Nesting.outside.step ',' = .outside := by decide
      rw [if_pos ⟨rfl, rfl⟩, List.forall_mem_cons, stays, ih]
      simp [isBlank]
    · -- A character that is no comma goes to the piece in front.
      rw [if_neg fun cuts => comma cuts.1, isBlank_modifyHead_iff]
      cases white : isWhite c with
      | true => simp [Nesting.step_white white, ih]
      | false => simp [comma]

/-- A text has no columns exactly if it holds nothing but commas and white space. -/
theorem splitColumns_eq_nil_iff {text : Text} : splitColumns text = [] ↔ isVacant text = true := by
  -- Every piece is dropped exactly if every piece is blank, and then nothing is left to show.
  rw [← isBlank_topPieces_iff, splitColumns_eq, List.filter_eq_nil_iff, List.forall_mem_map]
  simp only [decide_eq_true_eq, ne_eq, not_not, trim_eq_nil_iff]

end SqlWriter
