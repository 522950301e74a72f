import SqlWriter.Number.Decimal
import SqlWriter.Proofs.Text.Quoted
import SqlWriter.Shape.Word

/-! Lexemes: how a statement is cut into names, literals, numbers, words and single marks. -/

namespace SqlWriter

/-- The smallest pieces that a statement is read as. -/
inductive Lexeme where
  /-- The name that stands between two backticks. -/
  | name (text : Text)
  /-- The text that a literal between two quotes of one kind stands for. -/
  | literal (quote : Char) (text : Text)
  | number (digits : Text)
  | word (text : Text)
  /-- A character that stands for itself, such as a space. -/
  | mark (c : Char)
deriving DecidableEq

/-- The name up to its closing backtick, and the text behind that; a doubled one belongs to it. -/
def scanName? : Text → Option (Text × Text)
  | [] => none
  | '`' :: '`' :: rest => (scanName? rest).map fun (name, behind) => ('`' :: name, behind)
  | '`' :: rest => some ([], rest)
  | c :: rest => (scanName? rest).map fun (name, behind) => (c :: name, behind)

/-- Words and numbers stand bare, and some of their characters can be marks on their own. -/
def isBareChar (c : Char) : Bool :=
  isWordChar c || c == '+' || c == '-' || c == '.'

/-- The lexeme that a whole run of bare characters is. -/
def bareLexeme? (run : Text) : Option Lexeme :=
  if (Decimal.ofText? run).isSome then some (.number run)
  else if run.all isWordChar then some (.word run)
  else match run with
    | [c] => some (.mark c)
    -- Two hyphens would start a comment, and other runs mean nothing.
    | _ => none

/-- The marks that end every run of bare characters. -/
def isMark (c : Char) : Bool :=
  c == ' ' || c == '(' || c == ')' || c == ',' || c == '=' || c == '*' || c == '/'

/-- The lexeme that a text starts with, and the rest. -/
def lexeme? : Text → Option (Lexeme × Text)
  | [] => none
  | '`' :: rest => (scanName? rest).map fun (name, behind) => (.name name, behind)
  | '\'' :: rest =>
    (scanBody? rest).bind fun (body, behind) =>
      (decodeBody? body).map fun text => (.literal '\'' text, behind)
  -- Between double quotes only a word is read.
  | '"' :: rest =>
    match word? rest with
    | some (word, '"' :: behind) => some (.literal '"' word, behind)
    | _ => none
  -- A slash with a star behind it would start a comment.
  | '/' :: '*' :: _ => none
  | c :: rest =>
    if isBareChar c then
      (bareLexeme? ((c :: rest).takeWhile isBareChar)).map fun lexeme =>
        (lexeme, (c :: rest).dropWhile isBareChar)
    else if isMark c then some (.mark c, rest)
    else none

/-- What neither quotes nor a comment start with is a run of bare characters or a mark. -/
theorem lexeme?_cons {c : Char} {rest : Text} (noBacktick : c ≠ '`') (noSingle : c ≠ '\'')
    (noDouble : c ≠ '"') (noComment : c = '/' → rest.head? ≠ some '*') :
    lexeme? (c :: rest) =
      if isBareChar c then
        (bareLexeme? ((c :: rest).takeWhile isBareChar)).map fun lexeme =>
          (lexeme, (c :: rest).dropWhile isBareChar)
      else if isMark c then some (.mark c, rest)
      else none := by
  -- The last rule applies where none of the others does, each of which starts with its own mark.
  rw [lexeme?]
  · exact fun same => noBacktick same
  · exact fun same => noSingle same
  · exact fun same => noDouble same
  · rintro behind same rfl
    exact noComment same rfl

/-- Marks are not among the bare characters. -/
theorem isBareChar_of_isMark {c : Char} (mark : isMark c = true) : isBareChar c = false := by
  -- The seven marks are looked at one by one.
  simp only [isMark, Bool.or_eq_true, beq_iff_eq] at mark
  rcases mark with (((((rfl | rfl) | rfl) | rfl) | rfl) | rfl) | rfl <;> decide

/-- A mark is read on its own, unless it is a slash that starts a comment. -/
theorem lexeme?_mark {c : Char} {rest : Text} (mark : isMark c = true)
    (noComment : c = '/' → rest.head? ≠ some '*') :
    lexeme? (c :: rest) = some (.mark c, rest) := by
  -- No quote is a mark, and no mark is bare.
  have noQuote : c ≠ '`' ∧ c ≠ '\'' ∧ c ≠ '"' := by
    refine ⟨?_, ?_, ?_⟩ <;> rintro rfl <;> revert mark <;> decide
  rw [lexeme?_cons noQuote.1 noQuote.2.1 noQuote.2.2 noComment,
    if_neg (by simp [isBareChar_of_isMark mark]), if_pos mark]

/-- A run of one class ends where the first character of another class stands. -/
theorem takeWhile_dropWhile_run {isPart : Char → Bool} {run rest : Text}
    (inside : ∀ c ∈ run, isPart c = true) (ends : ∀ c ∈ rest.head?, isPart c = false) :
    (run ++ rest).takeWhile isPart = run ∧ (run ++ rest).dropWhile isPart = rest := by
  -- Behind the run nothing is taken, because the first character there stops it.
  have stop : rest.takeWhile isPart = [] ∧ rest.dropWhile isPart = rest := by
    cases rest with
    | nil => exact ⟨rfl, rfl⟩
    | cons c tail => simp [ends c rfl]
  rw [List.takeWhile_append_of_pos inside, List.dropWhile_append_of_pos inside, stop.1, stop.2,
    List.append_nil]
  exact ⟨rfl, rfl⟩

/-- A run of bare characters is read as a whole up to the first other character. -/
theorem lexeme?_run {run rest : Text} {lexeme : Lexeme} (present : run ≠ [])
    (bare : ∀ c ∈ run, isBareChar c = true) (ends : ∀ c ∈ rest.head?, isBareChar c = false)
    (read : bareLexeme? run = some lexeme) : lexeme? (run ++ rest) = some (lexeme, rest) := by
  obtain ⟨taken, dropped⟩ := takeWhile_dropWhile_run bare ends
  -- A run starts with a bare character, so no quote and no comment is read in its place.
  obtain ⟨c, tail, rfl⟩ := List.exists_cons_of_ne_nil present
  have first := bare c List.mem_cons_self
  have noQuote : c ≠ '`' ∧ c ≠ '\'' ∧ c ≠ '"' ∧ c ≠ '/' := by
    refine ⟨?_, ?_, ?_, ?_⟩ <;> rintro rfl <;> revert first <;> decide
  rw [List.cons_append, lexeme?_cons noQuote.1 noQuote.2.1 noQuote.2.2.1
    (fun same => absurd same noQuote.2.2.2), if_pos first, ← List.cons_append, taken, dropped, read]
  rfl

/-- The text behind a name is shorter than the text that the name was read from. -/
theorem scanName?_length {text name rest : Text} (found : scanName? text = some (name, rest)) :
    rest.length < text.length := by
  -- The induction follows the characters of the name up to the backtick that closes it.
  fun_induction scanName? text generalizing name with
  | case1 => cases found
  | case2 tail ih =>
    obtain ⟨⟨more, behind⟩, further, same⟩ := Option.map_eq_some_iff.mp found
    cases same
    have shorter := ih further
    simp only [List.length_cons]
    omega
  -- A backtick without another one behind it closes the name.
  | case3 tail single =>
    cases found
    exact Nat.lt_succ_self _
  | case4 c tail single other ih =>
    obtain ⟨⟨more, behind⟩, further, same⟩ := Option.map_eq_some_iff.mp found
    cases same
    have shorter := ih further
    simp only [List.length_cons]
    omega

/-- The text behind a literal is shorter than the text that its body was read from. -/
theorem scanBody?_length {text body rest : Text} (found : scanBody? text = some (body, rest)) :
    rest.length < text.length := by
  -- The induction follows the body, of which a backslash takes two characters at once.
  fun_induction scanBody? text generalizing body with
  | case1 => cases found
  -- A quote without a backslash in front of it closes the body.
  | case2 tail =>
    cases found
    exact Nat.lt_succ_self _
  | case3 taken tail ih =>
    obtain ⟨⟨more, behind⟩, further, same⟩ := Option.map_eq_some_iff.mp found
    cases same
    have shorter := ih further
    simp only [List.length_cons]
    omega
  | case4 c tail noQuote noBackslash ih =>
    obtain ⟨⟨more, behind⟩, further, same⟩ := Option.map_eq_some_iff.mp found
    cases same
    have shorter := ih further
    simp only [List.length_cons]
    omega

/-- A lexeme takes at least one character off the front of a text. -/
theorem lexeme?_length {text rest : Text} {lexeme : Lexeme}
    (found : lexeme? text = some (lexeme, rest)) : rest.length < text.length := by
  -- Behind its first character, each kind of lexeme has a scan that only goes forward.
  unfold lexeme? at found
  split at found
  · cases found
  · rename_i body
    obtain ⟨⟨name, behind⟩, scanned, same⟩ := Option.map_eq_some_iff.mp found
    cases same
    exact Nat.lt_succ_of_lt (scanName?_length scanned)
  · rename_i body
    obtain ⟨⟨inside, behind⟩, scanned, decoded⟩ := Option.bind_eq_some_iff.mp found
    obtain ⟨text, _, same⟩ := Option.map_eq_some_iff.mp decoded
    cases same
    exact Nat.lt_succ_of_lt (scanBody?_length scanned)
  · rename_i body
    split at found
    · rename_i word behind run
      cases found
      have shorter := run?_length run
      simp only [List.length_cons] at shorter ⊢
      omega
    · cases found
  · cases found
  · rename_i c body _ _ _ _
    -- What is left is a run of bare characters, or else a single mark.
    split at found
    · rename_i bare
      obtain ⟨read, _, same⟩ := Option.map_eq_some_iff.mp found
      cases same
      rw [List.dropWhile_cons_of_pos bare]
      exact Nat.lt_succ_of_le (List.dropWhile_suffix _).length_le
    · split at found
      · cases found
        exact Nat.lt_succ_self _
      · cases found

/-- The lexemes that a whole text is cut into. -/
def lex (text : Text) : Option (List Lexeme) :=
  match text with
  | [] => some []
  | c :: tail =>
    -- The rest is shorter by the lexeme that was taken off, which ends the recursion.
    match _found : lexeme? (c :: tail) with
    | some (lexeme, rest) => (lex rest).map (lexeme :: ·)
    | none => none
termination_by text.length
decreasing_by exact lexeme?_length _found

end SqlWriter
