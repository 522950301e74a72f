import SqlWriter.Text.Basic

/-! The two classes of blank characters: the gaps inside a shape, and all white space. -/

namespace SqlWriter

/-- Gaps between the parts of a shape hold spaces, tabs, carriage returns and line feeds only. -/
def isGap (c : Char) : Bool :=
  c == ' ' || c == '\t' || c == '\r' || c == '\n'

/-- The characters with the White_Space property, which are trimmed off the ends of a text. -/
def isWhite (c : Char) : Bool :=
  let code := c.toNat
  (0x9 ≤ code && code ≤ 0xD) || code == 0x20 || code == 0x85 || code == 0xA0 || code == 0x1680 ||
    (0x2000 ≤ code && code ≤ 0x200A) || code == 0x2028 || code == 0x2029 || code == 0x202F ||
    code == 0x205F || code == 0x3000

/-- Every gap character is white space. -/
theorem isWhite_of_isGap {c : Char} (gap : isGap c = true) : isWhite c = true := by
  -- The four gap characters are tested one by one.
  simp only [isGap, Bool.or_eq_true, beq_iff_eq] at gap
  rcases gap with ((rfl | rfl) | rfl) | rfl <;> decide

/-- A blank text holds nothing but white space. -/
def isBlank (text : Text) : Bool :=
  text.all isWhite

/-- A text is blank if its first character is white and the others are. -/
@[simp] theorem isBlank_cons (c : Char) (text : Text) :
    isBlank (c :: text) = (isWhite c && isBlank text) :=
  -- Blankness is a test of every character.
  List.all_cons

/-- Two texts in a row are blank if both of them are. -/
@[simp] theorem isBlank_append (front back : Text) :
    isBlank (front ++ back) = (isBlank front && isBlank back) :=
  -- Blankness is a test of every character.
  List.all_append

/-- Parentheses are visible. -/
@[simp] theorem isBlank_inParens (text : Text) : isBlank (inParens text) = false := by
  -- The bracket in front is visible.
  have visible : isWhite '(' = false := by decide
  simp [inParens, visible]

/-- A text that is not blank holds a character that is seen. -/
theorem isBlank_eq_false_iff {text : Text} :
    isBlank text = false ↔ ∃ c ∈ text, isWhite c = false :=
  -- A text is not blank when some character fails the test.
  List.all_eq_false.trans (by simp only [Bool.not_eq_true])

/-- What is left of a text after the white space in front of it. -/
def trimStart (text : Text) : Text :=
  text.dropWhile isWhite

/-- What is left of a text before the white space behind it. -/
def trimEnd (text : Text) : Text :=
  -- The end of a text is the front of the text read backwards.
  (text.reverse.dropWhile isWhite).reverse

/-- A text without the white space around it. -/
def trim (text : Text) : Text :=
  trimEnd (trimStart text)

/-- What is left of a text after the gap in front of it, which may be empty. -/
def skipGap (text : Text) : Text :=
  text.dropWhile isGap

/-- What is left of a text after a gap of at least one character, if it starts with one. -/
def afterGap? : Text → Option Text
  | c :: rest => if isGap c then some (skipGap rest) else none
  | [] => none

/-- Skipping a gap never makes a text longer. -/
theorem skipGap_length (text : Text) : (skipGap text).length ≤ text.length :=
  -- Dropping a prefix cannot make a text longer.
  (List.dropWhile_sublist isGap).length_le

/-- Trimming never makes a text longer. -/
theorem trim_length (text : Text) : (trim text).length ≤ text.length := by
  -- Both ends lose a run of their characters, and turning a list around keeps its length.
  have atEnd : (trimEnd (trimStart text)).length ≤ (trimStart text).length := by
    simpa [trimEnd] using
      (List.dropWhile_sublist (l := (trimStart text).reverse) isWhite).length_le
  have atStart : (trimStart text).length ≤ text.length :=
    (List.dropWhile_sublist isWhite).length_le
  exact Nat.le_trans atEnd atStart

/-- A gap of at least one character leaves a shorter text behind it. -/
theorem afterGap?_length {text rest : Text} (found : afterGap? text = some rest) :
    rest.length < text.length := by
  -- A gap has at least one character, the first.
  cases text with
  | nil => cases found
  | cons c tail =>
    simp only [afterGap?] at found
    split at found
    · cases found
      exact Nat.lt_succ_of_le (skipGap_length tail)
    · cases found

end SqlWriter
