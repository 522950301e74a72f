import SqlWriter.Proofs.Dialect.Lexeme
import SqlWriter.Proofs.Value.Literal

/-! Written texts are cut into lexemes piece by piece, whatever may follow them. -/

namespace SqlWriter

/-- The lexeme that a text starts with comes before those of the rest. -/
theorem lex_of_lexeme? {text rest : Text} {lexeme : Lexeme}
    (found : lexeme? text = some (lexeme, rest)) :
    lex text = (lex rest).map (lexeme :: ·) := by
  cases text with
  | nil => cases found
  | cons c tail =>
    -- The function asks for the first lexeme itself, which is the one that was found.
    rw [lex]
    split
    · rename_i first behind same
      cases found.symm.trans same
      rfl
    · rename_i none
      cases found.symm.trans none

/-- A text is cut into the same lexemes in front of every rest that is allowed behind it. -/
def LexesBefore (follows : Text → Prop) (sql : Text) (lexemes : List Lexeme) : Prop :=
  ∀ rest, follows rest → lex (sql ++ rest) = (lex rest).map (lexemes ++ ·)

/-- A rest that no run of bare characters goes on with. -/
def EndsRun (rest : Text) : Prop :=
  ∀ c ∈ rest.head?, isBareChar c = false

/-- A rest that no quoted name goes on with. -/
def EndsName (rest : Text) : Prop :=
  ∀ c ∈ rest.head?, c ≠ '`'

/-- A rest that nothing in front of it goes on with. -/
def Delimits (rest : Text) : Prop :=
  EndsRun rest ∧ EndsName rest

/-- A character that is not bare ends a run. -/
theorem endsRun_cons {c : Char} (other : isBareChar c = false) (rest : Text) :
    EndsRun (c :: rest) := by
  -- The only character to look at is the first one.
  rintro first ⟨⟩
  exact other

/-- A character that is no backtick ends a name. -/
theorem endsName_cons {c : Char} (other : c ≠ '`') (rest : Text) : EndsName (c :: rest) := by
  -- The only character to look at is the first one.
  rintro first ⟨⟩
  exact other

/-- A text is cut into the same lexemes wherever it ends at the end or at a delimiter. -/
abbrev Lexes (sql : Text) (lexemes : List Lexeme) : Prop :=
  LexesBefore Delimits sql lexemes

/-- The end of a text delimits what is in front of it. -/
theorem delimits_nil : Delimits [] :=
  -- There is no first character that could go on with anything.
  ⟨nofun, nofun⟩

/-- A mark delimits what is in front of it. -/
theorem delimits_cons {c : Char} (mark : isMark c = true) (rest : Text) : Delimits (c :: rest) := by
  -- A mark is neither a bare character nor a backtick.
  refine ⟨endsRun_cons (isBareChar_of_isMark mark) rest, endsName_cons ?_ rest⟩
  rintro rfl
  revert mark
  decide

namespace LexesBefore

variable {follows : Text → Prop} {sql more : Text} {lexemes further : List Lexeme}

/-- Nothing is cut into no lexemes. -/
theorem nil : LexesBefore follows [] [] := by
  -- Nothing stands in front of what follows.
  intro rest _
  simp

/-- A text may be followed by less than what is allowed. -/
theorem mono {narrower : Text → Prop} (lexed : LexesBefore follows sql lexemes)
    (fewer : ∀ rest, narrower rest → follows rest) : LexesBefore narrower sql lexemes :=
  -- Fewer texts behind are fewer cases to show.
  fun rest narrow => lexed rest (fewer rest narrow)

/-- A text of which the first lexeme is read in front of every allowed rest. -/
theorem of_lexeme? {lexeme : Lexeme}
    (read : ∀ rest, follows rest → lexeme? (sql ++ rest) = some (lexeme, rest)) :
    LexesBefore follows sql [lexeme] :=
  -- One lexeme was read, and what is left behind it is lexed on its own.
  fun rest allowed => lex_of_lexeme? (read rest allowed)

/-- Two texts in a row are cut one after the other if the second may follow the first. -/
theorem append {behind : Text → Prop} (front : LexesBefore follows sql lexemes)
    (back : LexesBefore behind more further)
    (meets : ∀ rest, behind rest → follows (more ++ rest)) :
    LexesBefore behind (sql ++ more) (lexemes ++ further) := by
  -- Seen from the first text, the second one is part of what follows.
  intro rest allowed
  rw [List.append_assoc, front _ (meets rest allowed), back rest allowed, Option.map_map]
  congr 1
  funext tail
  exact (List.append_assoc _ _ _).symm

end LexesBefore

/-- A text without anything behind it is cut into its lexemes. -/
theorem Lexes.lex_eq {sql : Text} {lexemes : List Lexeme} (lexed : Lexes sql lexemes) :
    lex sql = some lexemes := by
  -- The end is one of the places where the text is cut like this, and it has no lexemes.
  have whole := lexed [] delimits_nil
  rw [List.append_nil] at whole
  simpa [lex] using whole

/-- A text has no lexemes only if there is nothing in it. -/
theorem Lexes.eq_nil_iff {sql : Text} {lexemes : List Lexeme} (lexed : Lexes sql lexemes) :
    sql = [] ↔ lexemes = [] := by
  -- The first lexeme takes a character off the front, so without lexemes there is no character.
  have whole := lexed.lex_eq
  constructor
  · rintro rfl
    rw [lex] at whole
    exact (Option.some.inj whole).symm
  · rintro rfl
    cases sql with
    | nil => rfl
    | cons c tail =>
      -- A text with a first character has a first lexeme.
      rw [lex] at whole
      split at whole
      · simp at whole
      · cases whole

/-- A separator is read in front of every rest, and delimits what is in front of it. -/
structure Separates (separator : Text) (lexemes : List Lexeme) : Prop where
  lexed : LexesBefore (fun _ => True) separator lexemes
  delimits : ∀ rest, Delimits (separator ++ rest)

/-- Two separators in a row are one. -/
theorem Separates.append {front back : Text} {lexemes further : List Lexeme}
    (first : Separates front lexemes) (second : Separates back further) :
    Separates (front ++ back) (lexemes ++ further) where
  lexed := first.lexed.append second.lexed fun _ _ => trivial
  -- What stands in front ends the lexeme before it, whatever is appended behind.
  delimits rest := by
    rw [List.append_assoc]
    exact first.delimits _

/-- A mark separates, unless it is the slash that a star could follow. -/
theorem separates_mark {c : Char} (mark : isMark c = true) (noSlash : c ≠ '/') :
    Separates [c] [.mark c] where
  -- A slash is left out, because it could start a comment with what follows.
  lexed := .of_lexeme? fun _ _ => lexeme?_mark mark fun slash => absurd slash noSlash
  delimits rest := delimits_cons mark rest

/-- A space separates. -/
theorem separates_space : Separates [' '] [.mark ' '] :=
  -- A space is a mark that starts no comment.
  separates_mark (by decide) (by decide)

/-- A comma with a space behind it separates. -/
theorem separates_comma : Separates ", ".toList [.mark ',', .mark ' '] :=
  -- A comma and a space are two marks.
  (separates_mark (by decide) (by decide)).append separates_space

/-- A run of bare characters is one lexeme up to the next character that is not bare. -/
theorem lexesBefore_run {run : Text} {lexeme : Lexeme} (present : run ≠ [])
    (bare : run.all isBareChar = true) (read : bareLexeme? run = some lexeme) :
    LexesBefore EndsRun run [lexeme] :=
  -- The run ends where the next character is not bare.
  .of_lexeme? fun _ ends => lexeme?_run present (List.all_eq_true.mp bare) ends read

/-- Characters of words may stand bare. -/
theorem isBareChar_of_isWordChar {c : Char} (word : isWordChar c = true) : isBareChar c = true := by
  -- Characters of words are one kind of bare characters.
  simp [isBareChar, word]

/-- A word that spells no number is one lexeme. -/
theorem lexes_word (word : Text) (present : word ≠ []) (plain : word.all isWordChar = true)
    (noNumber : Decimal.ofText? word = none) : Lexes word [.word word] := by
  -- The word is one bare run, which is read as a word because it spells no number.
  have bare : word.all isBareChar = true := List.all_eq_true.mpr fun c there =>
    isBareChar_of_isWordChar (List.all_eq_true.mp plain c there)
  have read : bareLexeme? word = some (.word word) := by
    unfold bareLexeme?
    rw [noNumber, if_neg (by simp), if_pos plain]
  exact (lexesBefore_run present bare read).mono fun _ delimited => delimited.1

/-- A word between two spaces separates. -/
theorem separates_word (word : Text) (present : word ≠ [])
    (plain : word.all isWordChar = true) (noNumber : Decimal.ofText? word = none) :
    Separates (' ' :: (word ++ [' '])) [.mark ' ', .word word, .mark ' '] where
  lexed := by
    -- The second space ends the word, while the first one needs nothing behind it.
    have inside := (lexes_word word present plain noNumber).append separates_space.lexed
      fun rest _ => separates_space.delimits rest
    exact separates_space.lexed.append inside fun _ _ => trivial
  delimits rest := separates_space.delimits _

/-- The characters of a numeral may stand bare. -/
theorem isBareChar_of_isNumberChar {c : Char} (number : isNumberChar c = true) :
    isBareChar c = true := by
  -- Digits and the marks of exponents are characters of words.
  simp only [isNumberChar, Bool.or_eq_true, beq_iff_eq] at number
  rcases number with ((((digit | rfl) | rfl) | rfl) | rfl) | rfl
  · exact isBareChar_of_isWordChar (by simp [isWordChar, Char.isAlphanum, digit])
  all_goals decide

/-- A text that spells a number is one lexeme. -/
theorem lexes_number {digits : Text} {number : Decimal}
    (spelled : Decimal.ofText? digits = some number) : Lexes digits [.number digits] := by
  -- A numeral is told from a word first, so it may have the characters of one.
  have present : digits ≠ [] := by
    rintro rfl
    cases spelled
  have bare : digits.all isBareChar = true := List.all_eq_true.mpr fun c there =>
    isBareChar_of_isNumberChar (isNumberChar_of_ofText? spelled there)
  exact (lexesBefore_run present bare (by simp [bareLexeme?, spelled])).mono
    fun _ delimited => delimited.1

/-- A quoted name ends at its own closing backtick, unless another one follows that. -/
theorem scanName?_doubleBackticks (name : Text) {rest : Text} (ends : EndsName rest) :
    scanName? (doubleBackticks name ++ '`' :: rest) = some (name, rest) := by
  -- The induction follows the name, in which every backtick is written twice.
  induction name with
  | nil =>
    -- Only here a single backtick stands, and what follows does not make it a double one.
    rw [doubleBackticks, List.flatMap_nil, List.nil_append, scanName?]
    rintro tail rfl
    exact ends '`' rfl rfl
  | cons c name ih =>
    have written : doubleBackticks (c :: name) =
        (if c = '`' then ['`', '`'] else [c]) ++ doubleBackticks name := List.flatMap_cons
    rw [written, List.append_assoc]
    split
    · rename_i backtick
      simp only [backtick, List.cons_append, List.nil_append, scanName?, ih, Option.map_some]
    · rename_i other
      rw [List.singleton_append, scanName?, ih]
      · rfl
      · exact fun _ same => absurd same other
      · exact fun same => other same

/-- A quoted name is one lexeme, which stands for the name. -/
theorem lexesBefore_quoteName (name : Text) : LexesBefore EndsName (quoteName name) [.name name] :=
  .of_lexeme? fun rest ends => by
    -- Behind the opening backtick the scan undoes the doubling.
    have quoted : quoteName name ++ rest = '`' :: (doubleBackticks name ++ '`' :: rest) := by
      simp [quoteName]
    rw [quoted, lexeme?, scanName?_doubleBackticks name ends]
    rfl

/-- A string literal is one lexeme, which stands for its text. -/
theorem lexes_quoteString (text : Text) : Lexes (quoteString text) [.literal '\'' text] :=
  .of_lexeme? fun rest _ => by
    -- Behind the opening quote the scan and the decoding are known.
    have quoted : quoteString text ++ rest = '\'' :: (escapeString text ++ '\'' :: rest) := by
      simp [quoteString]
    rw [quoted, lexeme?, scanBody?_escapeString, Option.bind_some]
    simp only [decodeBody?_escapeString, Option.map_some]

/-- The lexemes of a path: its names with dots between them. -/
def pathLexemes (names : List Text) : List Lexeme :=
  [.mark '.'].intercalate (names.map fun name => [.name name])

/-- A dot that no bare character stands behind is a mark. -/
theorem lexesBefore_dot : LexesBefore EndsRun ['.'] [.mark '.'] :=
  -- A dot is a bare run that spells no number.
  lexesBefore_run (by decide) (by decide) (by decide)

/-- Names with dots between them are cut into the lexemes of a path. -/
theorem lexesBefore_names (names : List Text) :
    LexesBefore EndsName (['.'].intercalate (names.map quoteName)) (pathLexemes names) := by
  -- The backtick of the next name ends the run that a dot starts, and the dot ends a name.
  unfold pathLexemes
  induction names with
  | nil => exact .nil
  | cons name more ih =>
    cases more with
    | nil => simpa using lexesBefore_quoteName name
    | cons next later =>
      have backtick : ∀ rest,
          EndsRun (['.'].intercalate ((next :: later).map quoteName) ++ rest) := by
        intro rest
        -- Last or not, the next name starts with a backtick.
        cases later <;> exact endsRun_cons (by decide) _
      have behind := lexesBefore_dot.append ih fun rest _ => backtick rest
      simp only [List.map_cons, List.intercalate_cons_cons, List.append_assoc] at behind ⊢
      exact (lexesBefore_quoteName name).append behind fun rest _ => endsName_cons (by decide) _

/-- A quoted path is cut into the lexemes of its parts. -/
theorem lexesBefore_quotePath (path : Text) :
    LexesBefore EndsName (quotePath path) (pathLexemes (path.splitOn '.')) :=
  -- A path is the names between its dots.
  lexesBefore_names _

/-- A text in parentheses is cut into its lexemes between two marks. -/
theorem LexesBefore.inParens {sql : Text} {lexemes : List Lexeme} (inside : Lexes sql lexemes) :
    Lexes (inParens sql) (.mark '(' :: (lexemes ++ [.mark ')'])) := by
  -- The closing parenthesis delimits the text, and what follows it may be anything.
  have opening : Separates ['('] [.mark '('] := separates_mark (by decide) (by decide)
  have closing : Separates [')'] [.mark ')'] := separates_mark (by decide) (by decide)
  have closed := inside.append closing.lexed fun rest _ => closing.delimits rest
  exact (opening.lexed.append closed fun _ _ => trivial).mono fun _ _ => trivial

/-- A text with a separator between it and the text behind it is cut one after the other. -/
theorem LexesBefore.between {front back separator : Text} {lexemes further marks : List Lexeme}
    (first : Lexes front lexemes) (separates : Separates separator marks)
    (second : Lexes back further) :
    Lexes (front ++ (separator ++ back)) (lexemes ++ (marks ++ further)) := by
  -- The separator ends the first part, so that the rest can be appended to both.
  have behind := separates.lexed.append second fun _ _ => trivial
  refine first.append behind fun rest _ => ?_
  rw [List.append_assoc]
  exact separates.delimits _

/-- Nothing in a word is escaped in a literal. -/
theorem escapeString_word {word : Text} (plain : ∀ c ∈ word, isWordChar c = true) :
    escapeString word = word := by
  -- None of the characters in the table of escapes is one of a word.
  have special : ∀ escape ∈ escapes, isWordChar escape.1 = false := by decide
  induction word with
  | nil => rfl
  | cons c word ih =>
    obtain ⟨first, behind⟩ := List.forall_mem_cons.mp plain
    have written : escapeString (c :: word) = escapeChar c ++ escapeString word :=
      List.flatMap_cons
    rw [written, ih behind, escapeChar]
    cases letter : escapeLetter? c with
    | none => rfl
    | some letter =>
      -- An escape for the character would make it one of the table.
      rw [special _ (mem_escapes letter)] at first
      cases first

/-- A word between two quotes of one kind is one lexeme, which stands for the word. -/
theorem lexes_quotedWord {mark : Char} {word : Text} (quote : mark = '\'' ∨ mark = '"')
    (present : word ≠ []) (plain : ∀ c ∈ word, isWordChar c = true) :
    Lexes (mark :: (word ++ [mark])) [.literal mark word] := by
  rcases quote with rfl | rfl
  · -- Between single quotes a word is the literal for itself.
    have quoted := lexes_quoteString word
    rwa [quoteString, escapeString_word plain] at quoted
  · -- Between double quotes nothing but a word is read.
    refine .of_lexeme? fun rest _ => ?_
    have run : word? (word ++ '"' :: rest) = some (word, '"' :: rest) := by
      have stops : ∀ c ∈ ('"' :: rest).head?, isWordChar c = false := by
        rintro _ ⟨⟩
        decide
      obtain ⟨taken, dropped⟩ := takeWhile_dropWhile_run plain stops
      simp only [word?, run?, taken, dropped, if_neg present]
    have quoted : '"' :: (word ++ ['"']) ++ rest = '"' :: (word ++ '"' :: rest) := by simp
    rw [quoted, lexeme?, run]
    rfl

end SqlWriter
