import SqlWriter.Proofs.Shape.Balanced
import SqlWriter.Proofs.Shape.Commas

/-! The pieces of a text between its top-level commas: how texts compose, and that each is final. -/

namespace SqlWriter

section scans

variable {mark : Char} {text : Text}

/-- A scan goes through two texts in a row one after the other. -/
theorem Nesting.after_append (nesting : Nesting) (front back : Text) :
    nesting.after (front ++ back) = (nesting.after front).after back :=
  -- Scanning goes from character to character.
  List.foldl_append

/-- Behind the mark that ends a quotation, a scan is as deep as it was before. -/
theorem IsQuotation.after_eq {body : Text} (quotation : IsQuotation mark body)
    (noBackslash : mark ≠ '\\') (depth : Nat) :
    (⟨depth, .quoted mark⟩ : Nesting).after (body ++ [mark]) = ⟨depth, .plain⟩ := by
  -- No step in front of the mark leaves the quotes.
  induction quotation with
  | nil => exact Nesting.step_mark noBackslash
  | @escaped c rest further ih =>
    -- A backslash takes the next character along, and both are inside the quotes.
    have taken : (⟨depth, .quoted mark⟩ : Nesting).after ['\\', c] = ⟨depth, .quoted mark⟩ := by
      simp [Nesting.after, Nesting.step_backslash, Nesting.step_escaped]
    have split : '\\' :: c :: rest ++ [mark] = ['\\', c] ++ (rest ++ [mark]) := rfl
    rw [split, Nesting.after_append, taken, ih]
  | @other c rest plain noMark further ih =>
    have split : c :: rest ++ [mark] = [c] ++ (rest ++ [mark]) := rfl
    have stays : (⟨depth, .quoted mark⟩ : Nesting).after [c] = ⟨depth, .quoted mark⟩ :=
      Nesting.step_quoted plain noMark
    rw [split, Nesting.after_append, stays, ih]

/-- Behind a balanced text, a scan stands where it stood before. -/
theorem IsBalanced.after_eq (balanced : IsBalanced text) (depth : Nat) :
    (⟨depth, .plain⟩ : Nesting).after text = ⟨depth, .plain⟩ := by
  -- The induction follows the parts of the text, and the depth is the same behind each of them.
  induction balanced generalizing depth with
  | nil => rfl
  | @quoted mark body rest quote inside further ih =>
    have split : mark :: (body ++ mark :: rest) = [mark] ++ ((body ++ [mark]) ++ rest) := by simp
    have opens : (⟨depth, .plain⟩ : Nesting).after [mark] = ⟨depth, .quoted mark⟩ :=
      Nesting.step_quote quote
    rw [split, Nesting.after_append, opens, Nesting.after_append,
      inside.after_eq (ne_backslash_of_isQuoteMark quote), ih]
  | @group inside rest nested further insideIh ih =>
    -- One parenthesis opens a level and the other closes it, around a text that keeps it.
    have split : inParens inside ++ rest = ['('] ++ (inside ++ ([')'] ++ rest)) := by
      simp [inParens]
    have opens : (⟨depth, .plain⟩ : Nesting).after ['('] = ⟨depth + 1, .plain⟩ :=
      Nesting.step_opening
    have closes : (⟨depth + 1, .plain⟩ : Nesting).after [')'] = ⟨depth, .plain⟩ :=
      Nesting.step_closing
    rw [split, Nesting.after_append, opens, Nesting.after_append, insideIh, Nesting.after_append,
      closes, ih]
  | @other c rest noQuote noOpening noClosing further ih =>
    have stays : (⟨depth, .plain⟩ : Nesting).after [c] = ⟨depth, .plain⟩ :=
      Nesting.step_other noQuote noOpening noClosing
    rw [← List.singleton_append, Nesting.after_append, stays, ih]

end scans

/--
A text with all quotes closed, and all parentheses that it opens.

It may close more parentheses than it opens; what stands between the surplus ones is balanced.
-/
def IsClosed (text : Text) : Prop :=
  ∃ surplus, Closes surplus text

/-- A scan passes over a surplus parenthesis, so it stands outside behind a closed text. -/
theorem Closes.closesAll {surplus : Nat} {text : Text} (closes : Closes surplus text) :
    ClosesAll text := by
  -- Each surplus parenthesis leaves the scan outside, and so does the balanced text before it.
  unfold ClosesAll
  induction closes with
  | last balanced => exact balanced.after_eq 0
  | @next depth text rest balanced further ih =>
    have passed : Nesting.outside.after [')'] = .outside := rfl
    rw [← List.singleton_append, Nesting.after_append, Nesting.outside, balanced.after_eq 0,
      ← Nesting.outside, Nesting.after_append, passed, ih]

/-- What a scan has passed over when it is outside again closes all parentheses that were open. -/
theorem exists_passed_of_after {depth : Nat} {region : Region} {text : Text}
    (closed : (⟨depth, region⟩ : Nesting).after text = .outside) :
    ∃ closings, depth ≤ closings ∧ region.Passed closings text := by
  induction text generalizing depth region with
  | nil =>
    cases closed
    exact ⟨0, Nat.le_refl 0, .last .nil⟩
  | cons c text ih =>
    match moves : (⟨depth, region⟩ : Nesting).step c with
    | ⟨next, other⟩ =>
      -- The scan from the next place ends where this one does.
      have further : (⟨next, other⟩ : Nesting).after text = .outside := by
        rw [← moves]
        exact closed
      obtain ⟨more, deep, passed⟩ := ih further
      by_cases surplus : depth = 0 ∧ region = .plain ∧ c = ')'
      · -- A parenthesis that closes nothing counts, although the depth stays at zero.
        obtain ⟨rfl, rfl, rfl⟩ := surplus
        cases moves
        exact ⟨more + 1, Nat.zero_le _, .next .nil passed⟩
      · exact ⟨more - next + depth, Nat.le_add_left _ _, passed.cons moves surplus (by omega)⟩

/-- The scan for top-level commas is outside behind a text exactly if the text is closed. -/
theorem closesAll_iff_isClosed {text : Text} : ClosesAll text ↔ IsClosed text := by
  -- A closed text closes some number of surplus parentheses, and each number will do.
  constructor
  · intro closed
    obtain ⟨closings, -, passed⟩ := exists_passed_of_after closed
    exact ⟨closings, passed⟩
  · rintro ⟨surplus, closes⟩
    exact closes.closesAll

instance (text : Text) : Decidable (IsClosed text) :=
  -- The scan for top-level commas decides it.
  decidable_of_iff _ closesAll_iff_isClosed

/-- A comma of a text that the scan from a given place reaches outside of everything. -/
def HasTopComma (nesting : Nesting) (text : Text) : Prop :=
  ∃ front back, text = front ++ ',' :: back ∧ nesting.after front = .outside

/-- No text is empty and has a comma. -/
theorem not_hasTopComma_nil (nesting : Nesting) : ¬HasTopComma nesting [] := by
  -- There is no character that could be the comma.
  rintro ⟨front, back, none, -⟩
  simp at none

/-- A text without any comma has none outside of everything. -/
theorem not_hasTopComma_of_notMem {nesting : Nesting} {text : Text} (noComma : ',' ∉ text) :
    ¬HasTopComma nesting text := by
  -- The comma would be in the text.
  rintro ⟨front, back, rfl, -⟩
  exact noComma (List.mem_append_right front List.mem_cons_self)

/-- A text has a top-level comma if it starts with one, or if the rest of it has one. -/
theorem hasTopComma_cons_iff {nesting : Nesting} {c : Char} {rest : Text} :
    HasTopComma nesting (c :: rest) ↔
      (c = ',' ∧ nesting = .outside) ∨ HasTopComma (nesting.step c) rest := by
  -- The comma is the first character, or it stands behind that in the place the scan has moved to.
  constructor
  · rintro ⟨front, back, whole, outside⟩
    cases front with
    | nil => exact .inl ⟨(List.cons.inj whole).1, outside⟩
    | cons first front =>
      obtain ⟨rfl, rfl⟩ := List.cons.inj whole
      exact .inr ⟨front, back, rfl, outside⟩
  · rintro (⟨rfl, rfl⟩ | ⟨front, back, rfl, outside⟩)
    · exact ⟨[], rest, rfl, rfl⟩
    · exact ⟨c :: front, back, rfl, outside⟩

/-- A text without a top-level comma is a piece of its own. -/
theorem topPieces_eq_singleton {nesting : Nesting} {text : Text}
    (whole : ¬HasTopComma nesting text) : topPieces nesting text = [text] := by
  -- No comma cuts, so that the characters join one piece.
  induction text generalizing nesting with
  | nil => rfl
  | cons c rest ih =>
    rw [hasTopComma_cons_iff, not_or] at whole
    rw [topPieces_cons, if_neg whole.1, ih whole.2, List.modifyHead_cons]

/-- No piece has a top-level comma: the first one where the scan starts, and the others outside. -/
theorem not_hasTopComma_of_topPieces {nesting : Nesting} {text piece : Text} {pieces : List Text}
    (split : topPieces nesting text = piece :: pieces) :
    ¬HasTopComma nesting piece ∧ ∀ other ∈ pieces, ¬HasTopComma .outside other := by
  induction text generalizing nesting piece pieces with
  | nil =>
    cases split
    exact ⟨not_hasTopComma_nil nesting, List.forall_mem_nil _⟩
  | cons c rest ih =>
    rw [topPieces_cons] at split
    split at split
    · -- A comma that cuts leaves the scan outside, where the next piece starts.
      rename_i cuts
      obtain ⟨rfl, rfl⟩ := cuts
      cases split
      exact ⟨not_hasTopComma_nil _, List.forall_mem_cons.mpr (ih rfl)⟩
    · rename_i stays
      obtain ⟨first, others⟩ := @ih (nesting.step c) _ _ rfl
      cases split
      refine ⟨?_, others⟩
      rw [hasTopComma_cons_iff, not_or]
      exact ⟨stays, first⟩

/-- Where a text has several pieces, a comma outside of everything follows the first of them. -/
theorem exists_of_topPieces_cons {nesting : Nesting} {text piece next : Text} {more : List Text}
    (split : topPieces nesting text = piece :: next :: more) :
    nesting.after piece = .outside ∧ ∃ rest, text = piece ++ ',' :: rest := by
  -- The first piece ends at the first comma that cuts, and that stands outside.
  induction text generalizing nesting piece with
  | nil => cases split
  | cons c rest ih =>
    rw [topPieces_cons] at split
    split at split
    · rename_i cuts
      obtain ⟨rfl, rfl⟩ := cuts
      cases split
      exact ⟨rfl, rest, rfl⟩
    · -- Without a cut, the character goes to the first piece of the rest.
      match pieces : topPieces (nesting.step c) rest with
      | [] => cases pieces
      | first :: others =>
        rw [pieces, List.modifyHead_cons] at split
        cases split
        obtain ⟨outside, behind, rfl⟩ := ih pieces
        exact ⟨outside, behind, rfl⟩

/-- Behind characters none of which leads a scan inside, it is outside as it was before. -/
theorem Nesting.after_of_steps {text : Text}
    (steps : ∀ c ∈ text, Nesting.outside.step c = .outside) :
    Nesting.outside.after text = .outside := by
  -- Each character leaves the scan where it is, and so do all of them together.
  induction text with
  | nil => rfl
  | cons c text ih =>
    obtain ⟨first, others⟩ := List.forall_mem_cons.mp steps
    have stays : Nesting.outside.after [c] = .outside := first
    rw [← List.singleton_append, Nesting.after_append, stays, ih others]

/-- Behind white space a scan is outside as it was before. -/
theorem Nesting.after_white {gap : Text} (white : ∀ c ∈ gap, isWhite c = true) :
    Nesting.outside.after gap = .outside :=
  -- White space moves the scan nowhere.
  Nesting.after_of_steps fun c there => Nesting.step_white (white c there)

/-- Trimming a text brings no top-level comma into it. -/
theorem not_hasTopComma_trim {text : Text} (whole : ¬HasTopComma .outside text) :
    ¬HasTopComma .outside (trim text) := by
  -- The comma would be in the text itself too, with white space in front of it.
  obtain ⟨before, behind, white, -, split⟩ := exists_white_around text
  rintro ⟨front, back, kept, outside⟩
  refine whole ⟨before ++ front, back ++ behind, ?_, ?_⟩
  · rw [split, kept]
    simp
  · rw [Nesting.after_append, Nesting.after_white white, outside]

/-- A text without a top-level comma is trimmed to its only column, unless it is blank. -/
theorem splitColumns_of_whole {text : Text} (whole : ¬HasTopComma .outside text) :
    splitColumns text = if isBlank text then [] else [trim text] := by
  -- A text without a comma that cuts is one piece, which is dropped if it is blank.
  rw [splitColumns_eq, topPieces_eq_singleton whole, List.map_singleton]
  cases blank : isBlank text with
  | true => simp [trim_eq_nil_iff.mpr blank]
  | false =>
    have visible : trim text ≠ [] := fun none => by simp [trim_eq_nil_iff.mp none] at blank
    simp [visible]

/-- A column is a piece between top-level commas, without the white space around it. -/
theorem exists_of_mem_splitColumns {text column : Text} (there : column ∈ splitColumns text) :
    column ≠ [] ∧ ∃ piece, ¬HasTopComma .outside piece ∧ trim piece = column := by
  -- A column is a piece that was trimmed, and no piece has a comma that cuts.
  rw [splitColumns_eq, List.mem_filter, List.mem_map] at there
  obtain ⟨⟨piece, member, trimmed⟩, visible⟩ := there
  have whole : ∀ piece ∈ topPieces .outside text, ¬HasTopComma .outside piece :=
    List.forall_mem_cons.mpr (not_hasTopComma_of_topPieces rfl)
  exact ⟨by simpa using visible, piece, whole piece member, trimmed⟩

/-- Texts that stand in a text one after another, with only commas and white space around them. -/
inductive StandIn : List Text → Text → Prop where
  | nil {gap : Text} (vacant : isVacant gap = true) : StandIn [] gap
  | cons {gap column rest : Text} {columns : List Text} (vacant : isVacant gap = true)
    (further : StandIn columns rest) : StandIn (column :: columns) (gap ++ (column ++ rest))

/-- More commas and white space may stand in front. -/
theorem StandIn.widen {columns : List Text} {gap text : Text} (stand : StandIn columns text)
    (vacant : isVacant gap = true) : StandIn columns (gap ++ text) := by
  -- Vacant texts in a row are vacant.
  have both : ∀ {more}, isVacant more = true → isVacant (gap ++ more) = true := by
    intro more white
    rw [isVacant, List.all_append, Bool.and_eq_true]
    exact ⟨vacant, white⟩
  cases stand with
  | nil white => exact .nil (both white)
  | cons white further =>
    rw [← List.append_assoc]
    exact .cons (both white) further

/-- White space counts among the commas and white space around columns. -/
theorem isVacant_of_white {gap : Text} (white : ∀ c ∈ gap, isWhite c = true) :
    isVacant gap = true := by
  -- White space is one of the two kinds of characters that are allowed.
  rw [isVacant, List.all_eq_true]
  intro c there
  simp [white c there]

/-- In front of texts that stand in a text there may be one more, or nothing but white space. -/
theorem StandIn.trim_cons {columns : List Text} {text : Text} (stand : StandIn columns text)
    (piece : Text) :
    StandIn (([trim piece].filter (· ≠ [])) ++ columns) (piece ++ text) := by
  -- The white space around the piece joins the gaps on its two sides.
  obtain ⟨before, behind, front, back, split⟩ := exists_white_around piece
  -- A blank piece is no column, and all of it belongs to the gap.
  by_cases blank : trim piece = []
  · simp only [blank]
    refine stand.widen (isVacant_of_white ?_)
    rw [trim_eq_nil_iff] at blank
    exact List.all_eq_true.mp blank
  · have kept : [trim piece].filter (· ≠ []) = [trim piece] := by simp [blank]
    have whole : piece ++ text = before ++ (trim piece ++ (behind ++ text)) := by
      have joined := congrArg (· ++ text) split
      simpa only [List.append_assoc] using joined
    rw [kept, whole]
    exact .cons (isVacant_of_white front) (stand.widen (isVacant_of_white back))

/-- The pieces of a text make up the text, with commas between them. -/
theorem intercalate_topPieces (nesting : Nesting) (text : Text) :
    [','].intercalate (topPieces nesting text) = text := by
  -- A cut is undone by the comma that made it, and other characters join their piece again.
  induction text generalizing nesting with
  | nil => rfl
  | cons c rest ih =>
    rw [topPieces_cons]
    have further := ih (nesting.step c)
    split
    · rename_i cuts
      rw [List.intercalate_cons_of_ne_nil (by simp [topPieces]), further, cuts.1]
      rfl
    · -- Without a cut, the character stands in front of the first piece.
      unfold topPieces at further ⊢
      generalize (cutAtCommas (nesting.step c) rest).1 = piece at further ⊢
      generalize (cutAtCommas (nesting.step c) rest).2 = pieces at further ⊢
      cases pieces <;> simp_all

/-- The trimmed texts of a join by commas stand in it, without the blank ones. -/
theorem standIn_intercalate (pieces : List Text) :
    StandIn ((pieces.map trim).filter (· ≠ [])) ([','].intercalate pieces) := by
  -- The pieces are joined one by one, with a comma as part of the gap between them.
  induction pieces with
  | nil => exact .nil rfl
  | cons piece rest ih =>
    have parts : ((piece :: rest).map trim).filter (· ≠ []) =
        [trim piece].filter (· ≠ []) ++ (rest.map trim).filter (· ≠ []) := by
      rw [← List.filter_append, List.map_cons, List.singleton_append]
    rw [parts]
    -- Behind the last piece there is no comma.
    by_cases further : rest = []
    · subst further
      have nothing : StandIn [] [] := .nil rfl
      rw [List.intercalate_singleton]
      simpa only [List.append_nil, List.map_nil, List.filter_nil] using nothing.trim_cons piece
    · rw [List.intercalate_cons_of_ne_nil further, List.append_assoc]
      exact (ih.widen (rfl : isVacant [','] = true)).trim_cons piece

/--
The columns of a text are cut at its top-level commas and nowhere else.

A comma behind a closed text parts the columns of the two sides. A text in which no comma stands
behind a closed text is one column, without the white space around it. The columns of any text stand
in it in their order, and each of them is a text whose only column it is.
-/
theorem splitColumns_at_top_commas :
    (∀ front back : Text, IsClosed front →
      splitColumns (front ++ ',' :: back) = splitColumns front ++ splitColumns back) ∧
    (∀ text : Text, (∀ front back, IsClosed front → text ≠ front ++ ',' :: back) →
      splitColumns text = if isBlank text then [] else [trim text]) ∧
    ∀ text : Text, StandIn (splitColumns text) text ∧
      ∀ column ∈ splitColumns text,
        column ≠ [] ∧ trim column = column ∧ splitColumns column = [column] := by
  -- Cutting and trimming are known each on its own, and the parts below put them together.
  refine ⟨?parted, ?whole, fun text => ⟨?order, ?final⟩⟩
  case parted =>
    intro front back closed
    exact splitColumns_append (closesAll_iff_isClosed.mpr closed) back
  case whole =>
    rintro text uncut
    apply splitColumns_of_whole
    rintro ⟨front, back, split, outside⟩
    exact uncut front back (closesAll_iff_isClosed.mp outside) split
  case order =>
    have stand := standIn_intercalate (topPieces .outside text)
    rwa [intercalate_topPieces, ← splitColumns_eq] at stand
  -- A column is a trimmed piece, and what is trimmed away has no comma.
  case final =>
    intro column there
    obtain ⟨visible, piece, whole, rfl⟩ := exists_of_mem_splitColumns there
    refine ⟨visible, trim_trim piece, ?_⟩
    have seen : isBlank (trim piece) = false := by
      rw [← Bool.not_eq_true, ← trim_eq_nil_iff, trim_trim]
      exact visible
    rw [splitColumns_of_whole (not_hasTopComma_trim whole), seen, trim_trim]
    rfl

/-- Neither a surplus parenthesis nor one that stays open hides a comma in front of it. -/
theorem splitColumns_at_top_commas_unbalanced :
    let call := "f('a,b') )".toList
    let opened := "(c, d".toList
    IsClosed call ∧ splitColumns (call ++ ',' :: ' ' :: opened) = [call, opened] ∧
      splitColumns call = [call] ∧ splitColumns opened = [opened] := by
  intro call opened
  obtain ⟨parted, whole, final⟩ := splitColumns_at_top_commas
  have closed : IsClosed call := by decide
  -- The comma of the second text stands behind the parenthesis that is open.
  have alone : topPieces .outside (' ' :: opened) = [' ' :: opened] := by decide
  have uncut := (not_hasTopComma_of_topPieces alone).1
  have second : splitColumns (' ' :: opened) = [opened] :=
    whole _ fun front back closed split =>
      uncut ⟨front, back, split, closesAll_iff_isClosed.mpr closed⟩
  have first : splitColumns call = [call] := by decide
  have joined : splitColumns (call ++ ',' :: ' ' :: opened) = [call, opened] := by
    rw [parted call _ closed, first, second]
    rfl
  -- Only a piece of the whole can be asked about stability.
  have member : opened ∈ splitColumns (call ++ ',' :: ' ' :: opened) := by
    rw [joined]
    decide
  exact ⟨closed, joined, first, ((final _).2 opened member).2.2⟩

end SqlWriter
