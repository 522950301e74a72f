import SqlWriter.Text.Blank

/-! Nesting of parentheses outside quotes: the first group of a text, and its top-level commas. -/

namespace SqlWriter

/-- Where a scan stands with respect to quotes. -/
inductive Region where
  /-- Outside quotes, where parentheses and commas count. -/
  | plain
  /-- Inside quotes that the next unescaped `mark` closes. -/
  | quoted (mark : Char)
  /-- Inside quotes and after a backslash, which takes the next character along. -/
  | escaped (mark : Char)
deriving DecidableEq, Repr

/-- Quotes open with a single quote, a double quote or a backtick. -/
def isQuoteMark (c : Char) : Bool :=
  c == '\'' || c == '"' || c == '`'

/-- Where a scan stands: the number of open parentheses, and the quotes around it. -/
structure Nesting where
  depth : Nat
  region : Region
deriving DecidableEq, Repr

/-- A scan starts outside all parentheses and quotes. -/
def Nesting.outside : Nesting :=
  ⟨0, .plain⟩

/-- One character moves a scan on; a parenthesis that closes nothing is passed over. -/
def Nesting.step (nesting : Nesting) (c : Char) : Nesting :=
  -- Quotes are looked at first, because inside them nothing else counts.
  match nesting.region with
  | .escaped mark => { nesting with region := .quoted mark }
  | .quoted mark =>
    if c = '\\' then { nesting with region := .escaped mark }
    else if c = mark then { nesting with region := .plain }
    else nesting
  | .plain =>
    if isQuoteMark c then { nesting with region := .quoted c }
    else if c = '(' then { nesting with depth := nesting.depth + 1 }
    -- The depth stays at zero where nothing is open.
    else if c = ')' then { nesting with depth := nesting.depth - 1 }
    else nesting

/-- Where a scan stands after a whole text. -/
def Nesting.after (nesting : Nesting) (text : Text) : Nesting :=
  text.foldl Nesting.step nesting

/-- The text up to the parenthesis that brings the depth to zero, and the text behind it. -/
def closeGroup : Nesting → Text → Option (Text × Text)
  | _, [] => none
  | nesting, c :: rest =>
    -- The character that ends the group belongs neither to the inside nor to the rest.
    let next := nesting.step c
    if next.depth = 0 then some ([], rest)
    else (closeGroup next rest).map fun (inside, behind) => (c :: inside, behind)

/-- The inside of the group that a text starts with, and the text behind it. -/
def group? : Text → Option (Text × Text)
  | '(' :: rest => closeGroup ⟨1, .plain⟩ rest
  | _ => none

/-- The piece of a text before its first top-level comma, and the pieces behind it. -/
def cutAtCommas : Nesting → Text → Text × List Text
  | _, [] => ([], [])
  | nesting, c :: rest =>
    let (piece, pieces) := cutAtCommas (nesting.step c) rest
    -- A comma that cuts is dropped, and the piece in front of it ends there.
    if c = ',' ∧ nesting = .outside then ([], piece :: pieces) else (c :: piece, pieces)

/-- The trimmed pieces between the top-level commas of a text, without the blank ones. -/
def splitColumns (text : Text) : List Text :=
  -- Two commas in a row, or one at either end, leave a piece with nothing in it.
  let (piece, pieces) := cutAtCommas .outside text
  ((piece :: pieces).map trim).filter (· ≠ [])

/-- Only a closing parenthesis lowers the depth. -/
theorem Nesting.depth_le_step (nesting : Nesting) {c : Char} (other : c ≠ ')') :
    nesting.depth ≤ (nesting.step c).depth := by
  -- Every other step raises the depth or leaves it.
  unfold Nesting.step
  repeat' split
  all_goals simp_all

/-- Only a closing parenthesis ends a group, so the inside and the rest make up the scanned text. -/
theorem closeGroup_append {nesting : Nesting} {text inside behind : Text}
    (deep : 0 < nesting.depth) (closed : closeGroup nesting text = some (inside, behind)) :
    inside ++ ')' :: behind = text := by
  -- The induction follows the scan, which stops only where the depth falls to zero.
  induction text generalizing nesting inside with
  | nil => cases closed
  | cons c rest ih =>
    simp only [closeGroup] at closed
    split at closed
    · rename_i zero
      cases closed
      -- The depth was positive before this character, so the character closed the group.
      have closing : c = ')' := by
        false_or_by_contra
        rename_i other
        have := nesting.depth_le_step other
        omega
      simp [closing]
    · rename_i positive
      simp only [Option.map_eq_some_iff, Prod.mk.injEq, Prod.exists] at closed
      obtain ⟨more, last, found, rfl, rfl⟩ := closed
      simp [ih (Nat.pos_of_ne_zero positive) found]

/-- A group is its inside between parentheses, followed by the rest of the text. -/
theorem group?_append {text inside behind : Text} (found : group? text = some (inside, behind)) :
    inParens inside ++ behind = text := by
  -- Only a bracket in front opens a group.
  unfold group? at found
  split at found
  · simp [inParens, closeGroup_append (by decide) found]
  · cases found

end SqlWriter
