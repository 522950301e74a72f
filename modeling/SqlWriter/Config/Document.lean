import SqlWriter.Config
import SqlWriter.Shape.Word
import SqlWriter.Text.Code

/-! Settings documents: lines of TOML with a key and a text or a boolean, and comments. -/

namespace SqlWriter

/-- The value of a setting in a document. -/
inductive DocumentValue where
  | text (value : Text)
  | flag (value : Bool)
deriving DecidableEq, Repr

/-- Within a line, words stand apart by spaces and tabs. -/
def isLineBlank (c : Char) : Bool :=
  c == ' ' || c == '\t'

/-- What is left of a text after the spaces and tabs in front of it. -/
def skipLineBlanks (text : Text) : Text :=
  text.dropWhile isLineBlank

/-- The characters that texts and comments may hold: tabs, and all that are no ASCII controls. -/
def isDocumentChar (c : Char) : Bool :=
  c == '\t' || (0x20 ≤ c.toNat && c.toNat != 0x7F)

/-- What is left of a text after the line break that it starts with. -/
def afterNewline? : Text → Option Text
  | '\n' :: rest => some rest
  | '\r' :: '\n' :: rest => some rest
  | _ => none

/-- What is left of a text after the spaces, tabs and line breaks in front of it. -/
def skipLines : Text → Text
  | '\r' :: '\n' :: rest => skipLines rest
  | '\r' :: rest => '\r' :: rest
  | c :: rest => if isLineBlank c || c == '\n' then skipLines rest else c :: rest
  | [] => []

/-- The next line, if blanks and a comment are all that is left of this one. -/
def nextLine? (text : Text) : Option Text :=
  -- The end of the text ends its last line, too.
  let behind := match skipLineBlanks text with
    | '#' :: comment => comment.dropWhile isDocumentChar
    | other => other
  if behind = [] then some [] else afterNewline? behind

/-- A line break leaves a shorter text behind it. -/
theorem afterNewline?_length {text rest : Text} (found : afterNewline? text = some rest) :
    rest.length < text.length := by
  -- A newline of one character or of two was dropped, and any other text has none.
  unfold afterNewline? at found
  split at found
  · cases found; simp
  · cases found; simp only [List.length_cons]; omega
  · cases found

/-- Skipping lines never makes a text longer. -/
theorem skipLines_length (text : Text) : (skipLines text).length ≤ text.length := by
  -- The lines are skipped as the recursion skips them, and each step drops a character.
  fun_induction skipLines text with
  | case1 rest ih => simp only [List.length_cons]; omega
  | case2 => exact Nat.le_refl _
  | case3 c rest _ _ _ ih => simp only [List.length_cons]; omega
  | case4 => exact Nat.le_refl _
  | case5 => exact Nat.le_refl _

/-- A next line is no longer than the text, and shorter unless the text is empty. -/
theorem nextLine?_length {text rest : Text} (found : nextLine? text = some rest) :
    rest.length ≤ text.length ∧ (text ≠ [] → rest.length < text.length) := by
  have blanks : (skipLineBlanks text).length ≤ text.length :=
    (List.dropWhile_sublist isLineBlank).length_le
  -- Whatever the comment takes along, what is left is no longer than the text.
  have shorter : ∀ behind : Text, behind.length ≤ text.length →
      (if behind = [] then some [] else afterNewline? behind) = some rest →
      rest.length ≤ text.length ∧ (text ≠ [] → rest.length < text.length) := by
    intro behind fits next
    split at next
    · cases next
      exact ⟨Nat.zero_le _, fun full => List.length_pos_iff.mpr full⟩
    · have := afterNewline?_length next
      exact ⟨by omega, fun _ => by omega⟩
  simp only [nextLine?] at found
  split at found
  · -- A comment goes the same way as the blanks in front of it.
    rename_i comment hash
    have := (List.dropWhile_sublist (l := comment) isDocumentChar).length_le
    rw [hash, List.length_cons] at blanks
    exact shorter _ (by omega) found
  · exact shorter _ blanks found

/-- The character that stands behind a backslash for another one. -/
def documentEscape? (c : Char) : Option Char :=
  if c = '"' || c = '\\' then some c
  else if c = 'b' then some '\x08'
  else if c = 't' then some '\t'
  else if c = 'n' then some '\n'
  else if c = 'f' then some '\x0c'
  else if c = 'r' then some '\r'
  -- An escape by code point is longer than a character, so it is read elsewhere.
  else none

/-- The character whose code some hexadecimal digits in front of a text spell. -/
def takeCharOfCode? (count : Nat) (text : Text) : Option (Taken Char text) :=
  (takeHex? count text).bind fun code =>
    (charOfCode? code.value).map fun char => code.map fun _ => char

/-- One character of a text in double quotes, which may be written as an escape. -/
def takeEscapable? : (text : Text) → Option (Taken Char text)
  | '\\' :: 'u' :: rest => (takeCharOfCode? 4 rest).map fun char => char.past.past
  | '\\' :: 'U' :: rest => (takeCharOfCode? 8 rest).map fun char => char.past.past
  | '\\' :: mark :: _ => (documentEscape? mark).map fun char => (Taken.first char).past
  | c :: _ =>
    if isDocumentChar c && c != '\\' then some (Taken.first c) else none
  | [] => none

/-- The characters of a text in double quotes up to the closing one. -/
def takeQuoted? (text : Text) : Option (Taken Text text) :=
  match text with
  | '"' :: _ => some (Taken.first [])
  | c :: rest =>
    -- The closing quote was met above, so a character of the body comes next.
    match takeEscapable? (c :: rest) with
    | some char =>
      (takeQuoted? char.rest).map fun tail =>
        (char.followedBy tail).map fun (c, text) => c :: text
    | none => none
  | [] => none
termination_by text.length
decreasing_by exact char.shorter

/-- The characters of a text in single quotes up to the closing one, where nothing is escaped. -/
def takeLiteral? : (text : Text) → Option (Taken Text text)
  | '\'' :: _ => some (Taken.first [])
  | c :: rest =>
    if isDocumentChar c then
      (takeLiteral? rest).map fun tail => (tail.map (c :: ·)).past
    else none
  | [] => none

/-- The end of a text over several lines: three quotes, with up to two more in front of them. -/
def takeBlockEnd? (mark : Char) (text : Text) : Option (Taken Text text) :=
  -- Quotes in front of the closing three belong to the text, and two of them are the most.
  let quotes := min (text.takeWhile (· == mark)).length 5
  if enough : 3 ≤ quotes then
    some ⟨List.replicate (quotes - 3) mark, text.drop quotes, by
      have : (text.takeWhile (· == mark)).length ≤ text.length :=
        (List.takeWhile_sublist _).length_le
      simp only [List.length_drop]
      omega⟩
  else none

/-- What a backslash at the end of a line leaves: the text after all blank space behind it. -/
def continueLine? : (text : Text) → Option (Taken Text text)
  | '\\' :: behind =>
    -- A backslash at the end of a line takes the lines behind it that are blank.
    match found : afterNewline? (skipLineBlanks behind) with
    | some rest => some ⟨[], skipLines rest, by
        have := skipLines_length rest
        have := afterNewline?_length found
        have : (skipLineBlanks behind).length ≤ behind.length :=
          (List.dropWhile_sublist isLineBlank).length_le
        simp only [List.length_cons]
        omega⟩
    | none => none
  | _ => none

/-- The next piece of a text over several lines: a line break, a continuation or one character. -/
def takeBlockPiece? (mark : Char) (text : Text) : Option (Taken Text text) :=
  match newline : afterNewline? text with
  | some rest => some ⟨['\n'], rest, afterNewline?_length newline⟩
  | none =>
    -- Only double quotes know escapes and continued lines.
    if mark = '"' then
      (continueLine? text).or ((takeEscapable? text).map fun char => char.map ([·]))
    else
      match text with
      | c :: _ => if isDocumentChar c then some (Taken.first [c]) else none
      | [] => none

/-- The characters of a text over several lines up to its closing quotes. -/
def takeBlock? (mark : Char) (text : Text) : Option (Taken Text text) :=
  -- The end is tried first, for it takes along the quotes that belong to the text.
  match takeBlockEnd? mark text with
  | some taken => some taken
  | none =>
    match takeBlockPiece? mark text with
    | some piece =>
      (takeBlock? mark piece.rest).map fun tail =>
        (piece.followedBy tail).map fun (front, text) => front ++ text
    | none => none
termination_by text.length
decreasing_by exact piece.shorter

/-- A line break right behind the opening quotes is no part of a text over several lines. -/
def takeOpenedBlock? (mark : Char) (text : Text) : Option (Taken Text text) :=
  match newline : afterNewline? text with
  | some rest =>
    (takeBlock? mark rest).map fun taken =>
      taken.widen (Nat.le_of_lt (afterNewline?_length newline))
  | none => takeBlock? mark text

/-- The value of a setting: a text in any of the four quotings, or a boolean. -/
def takeDocumentValue? : (text : Text) → Option (Taken DocumentValue text)
  -- Three quotes open a block, so they are tried before the one quote of a short text.
  | '"' :: '"' :: '"' :: rest =>
    (takeOpenedBlock? '"' rest).map fun taken => (taken.map .text).past.past.past
  | '\'' :: '\'' :: '\'' :: rest =>
    (takeOpenedBlock? '\'' rest).map fun taken => (taken.map .text).past.past.past
  | '"' :: rest => (takeQuoted? rest).map fun taken => (taken.map .text).past
  | '\'' :: rest => (takeLiteral? rest).map fun taken => (taken.map .text).past
  | text => (takeBool? text).map fun taken => taken.map .flag

/-- Keys without quotes are made of ASCII letters, digits, underscores and hyphens. -/
def isKeyChar (c : Char) : Bool :=
  isWordChar c || c == '-'

/-- The key of a setting, bare or in quotes. -/
def takeKey? : (text : Text) → Option (Taken Text text)
  | '"' :: rest => (takeQuoted? rest).map Taken.past
  | '\'' :: rest => (takeLiteral? rest).map Taken.past
  | text => takeRun? isKeyChar text

/-- A setting: a key, an equals sign and a value. -/
def takeSetting? (text : Text) : Option (Taken (Text × DocumentValue) text) :=
  match takeKey? text with
  | some key =>
    -- Blanks may stand on both sides of the sign, but no line may end there.
    match equals : skipLineBlanks key.rest with
    | '=' :: behind =>
      (takeDocumentValue? (skipLineBlanks behind)).map fun value =>
        (value.map (key.value, ·)).widen (by
          have := key.shorter
          have : (skipLineBlanks key.rest).length ≤ key.rest.length :=
            (List.dropWhile_sublist isLineBlank).length_le
          have : (skipLineBlanks behind).length ≤ behind.length :=
            (List.dropWhile_sublist isLineBlank).length_le
          simp only [equals, List.length_cons] at *
          omega)
    | _ => none
  | none => none

/-- The settings of a document in order, one to a line. -/
def documentSettings? (text : Text) : Option (List (Text × DocumentValue)) :=
  match _empty : text with
  | [] => some []
  | _ :: _ =>
    -- A line is a setting or nothing, and what follows a setting is the end of its line.
    match _next : nextLine? text with
    | some rest => documentSettings? rest
    | none =>
      match takeSetting? (skipLineBlanks text) with
      | some setting =>
        match _behind : nextLine? setting.rest with
        | some rest => (documentSettings? rest).map (setting.value :: ·)
        | none => none
      | none => none
termination_by text.length
decreasing_by
  · have := (nextLine?_length _next).2 (by simp [_empty])
    simpa [_empty] using this
  · have := setting.shorter
    have := (nextLine?_length _behind).1
    have : (skipLineBlanks text).length ≤ text.length :=
      (List.dropWhile_sublist isLineBlank).length_le
    simp only [_empty, List.length_cons] at *
    omega

/-- A configuration with one setting changed, if there is one with such a key and value. -/
def Config.set? (config : Config) (key : Text) : DocumentValue → Option Config
  -- The kind of the value is part of the key, so a flag under a key of texts is refused.
  | .text value =>
    if key = "order".toList then
      (SortDirection.ofKeyword? value).map fun order => { config with order := order }
    else if key = "count_alias".toList then some { config with countAlias := value }
    else if key = "count_expr".toList then some { config with countExpression := value }
    else none
  | .flag value =>
    if key = "ignore_undefined".toList then some { config with ignoreUndefined := value }
    else if key = "color".toList then some { config with color := value }
    else none

/-- The settings that a document makes, each at most once; a byte order mark may stand in front. -/
def Config.ofDocument? (text : Text) : Option Config :=
  -- A key that stands twice is refused even with the same value.
  let body := match text with
    | '\uFEFF' :: rest => rest
    | _ => text
  (documentSettings? body).bind fun settings =>
    if (settings.map Prod.fst).Nodup then
      settings.foldlM (fun config (key, value) => config.set? key value) {}
    else none

end SqlWriter
