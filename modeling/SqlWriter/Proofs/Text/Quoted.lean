import SqlWriter.Text.Quoted

/-! String literals are read back: where they end, what they stand for, and what is never in one. -/

namespace SqlWriter

/-- The body of a literal up to its closing quote, and the text behind that quote. -/
def scanBody? : Text → Option (Text × Text)
  | [] => none
  | '\'' :: rest => some ([], rest)
  -- A backslash takes the next character along, even if that is a quote.
  | '\\' :: taken :: rest =>
    (scanBody? rest).map fun (body, behind) => ('\\' :: taken :: body, behind)
  | c :: rest => (scanBody? rest).map fun (body, behind) => (c :: body, behind)

/-- The body of the literal that a text starts with, and the text behind its closing quote. -/
def scanLiteral? : Text → Option (Text × Text)
  | '\'' :: rest => scanBody? rest
  | _ => none

/-- The nine characters that are escaped in a literal, each with the letter behind its backslash. -/
def escapes : List (Char × Char) := [
  ('\x00', '0'), ('\x08', 'b'), ('\t', 't'), ('\n', 'n'), ('\r', 'r'), ('\x1a', 'Z'),
  ('\'', '\''), ('\\', '\\'), ('"', '"')
]

/-- The character that a backslash with a letter behind it stands for. -/
def escapedChar? (letter : Char) : Option Char :=
  (escapes.find? fun escape => escape.2 = letter).map Prod.fst

/-- The text that the body of a literal stands for, if all of its backslash sequences are known. -/
def decodeBody? : Text → Option Text
  | [] => some []
  | ['\\'] => none
  | '\\' :: letter :: rest =>
    (escapedChar? letter).bind fun c => (decodeBody? rest).map (c :: ·)
  | c :: rest => (decodeBody? rest).map (c :: ·)

/-- The controls that never stand in a literal as they are. -/
def rawControls : List Char :=
  ['\x00', '\x08', '\t', '\n', '\r', '\x1a']

/-- The letter of a character is the one in the table. -/
theorem mem_escapes {c letter : Char} (special : escapeLetter? c = some letter) :
    (c, letter) ∈ escapes := by
  -- Three characters share a branch, since each of them is its own letter.
  unfold escapeLetter? at special
  repeat' split at special
  all_goals cases special
  all_goals first
    | (subst_vars; decide)
    | (rename_i mark
       simp only [Bool.or_eq_true, decide_eq_true_eq] at mark
       rcases mark with (rfl | rfl) | rfl <;> decide)

/-- The letter that is written for a character stands for that character. -/
theorem escapedChar?_escapeLetter? {c letter : Char} (special : escapeLetter? c = some letter) :
    escapedChar? letter = some c := by
  -- No two characters of the table share a letter.
  have inverse : ∀ escape ∈ escapes, escapedChar? escape.2 = some escape.1 := by decide
  exact inverse _ (mem_escapes special)

/-- The letter that is written for a character is none of the controls. -/
theorem escapeLetter?_not_control {c letter : Char} (special : escapeLetter? c = some letter) :
    letter ∉ rawControls := by
  -- The letters of all escapes are looked at one by one.
  have visible : ∀ escape ∈ escapes, escape.2 ∉ rawControls := by decide
  exact visible _ (mem_escapes special)

/-- A character that stands for itself is no quote, no backslash and none of the controls. -/
theorem plain_of_escapeLetter?_eq_none {c : Char} (plain : escapeLetter? c = none) :
    c ≠ '\'' ∧ c ≠ '\\' ∧ c ∉ rawControls := by
  -- Each of those characters has a letter of its own.
  refine ⟨?quote, ?backslash, ?control⟩
  case quote =>
    rintro rfl
    cases plain
  case backslash =>
    rintro rfl
    cases plain
  case control =>
    intro control
    simp only [rawControls, List.mem_cons, List.not_mem_nil, or_false] at control
    rcases control with rfl | rfl | rfl | rfl | rfl | rfl <;> cases plain

/-- A scan passes over a character that is neither a quote nor a backslash. -/
theorem scanBody?_cons_plain {c : Char} (noQuote : c ≠ '\'') (noBackslash : c ≠ '\\')
    (rest : Text) : scanBody? (c :: rest) =
      (scanBody? rest).map fun (body, behind) => (c :: body, behind) := by
  -- The two characters with a meaning of their own are excluded.
  rw [scanBody?]
  · exact fun same => noQuote same
  · exact fun _ _ same => absurd same noBackslash

/-- A character that is no backslash is decoded as itself. -/
theorem decodeBody?_cons_plain {c : Char} (noBackslash : c ≠ '\\') (rest : Text) :
    decodeBody? (c :: rest) = (decodeBody? rest).map (c :: ·) := by
  rw [decodeBody?]
  -- The only character with a meaning of its own is excluded.
  · exact fun same => absurd same noBackslash
  · exact fun _ _ same => absurd same noBackslash

/-- A scan takes a written character along as a whole. -/
theorem scanBody?_escapeChar (c : Char) (rest : Text) :
    scanBody? (escapeChar c ++ rest) =
      (scanBody? rest).map fun (body, behind) => (escapeChar c ++ body, behind) := by
  -- Either a backslash comes with its letter, or nothing special is written at all.
  unfold escapeChar
  cases special : escapeLetter? c with
  | some letter => simp [scanBody?]
  | none =>
    obtain ⟨noQuote, noBackslash, _⟩ := plain_of_escapeLetter?_eq_none special
    exact scanBody?_cons_plain noQuote noBackslash rest

/-- A written character is decoded as the character that it was. -/
theorem decodeBody?_escapeChar (c : Char) (rest : Text) :
    decodeBody? (escapeChar c ++ rest) = (decodeBody? rest).map (c :: ·) := by
  -- The decoder undoes the table, and leaves alone what is not in it.
  unfold escapeChar
  cases special : escapeLetter? c with
  | some letter => simp [decodeBody?, escapedChar?_escapeLetter? special]
  | none =>
    obtain ⟨_, noBackslash, _⟩ := plain_of_escapeLetter?_eq_none special
    exact decodeBody?_cons_plain noBackslash rest

/-- The body of a literal ends at its own closing quote, whatever comes behind it. -/
theorem scanBody?_escapeString (text rest : Text) :
    scanBody? (escapeString text ++ '\'' :: rest) = some (escapeString text, rest) := by
  -- No written character leaves a quote or half of a backslash sequence behind.
  induction text with
  | nil => rfl
  | cons c text ih =>
    have written : escapeString (c :: text) = escapeChar c ++ escapeString text :=
      List.flatMap_cons
    rw [written, List.append_assoc, scanBody?_escapeChar, ih]
    rfl

/-- A literal ends where it was written to end, whatever comes behind it. -/
theorem scanLiteral?_quoteString (text rest : Text) :
    scanLiteral? (quoteString text ++ rest) = some (escapeString text, rest) := by
  -- Behind the opening quote there is an escaped body, and the scan of that is known.
  have quoted : quoteString text ++ rest = '\'' :: (escapeString text ++ '\'' :: rest) := by
    simp [quoteString]
  rw [quoted, scanLiteral?, scanBody?_escapeString]

/-- The body of a literal stands for the text that it was written for. -/
theorem decodeBody?_escapeString (text : Text) : decodeBody? (escapeString text) = some text := by
  -- Each written character gives one character back, in front of the ones behind it.
  induction text with
  | nil => rfl
  | cons c text ih =>
    have written : escapeString (c :: text) = escapeChar c ++ escapeString text :=
      List.flatMap_cons
    rw [written, decodeBody?_escapeChar, ih]
    rfl

/-- None of the controls stands in the body of a literal as it is. -/
theorem escapeString_not_control {text : Text} {c : Char} (there : c ∈ escapeString text) :
    c ∉ rawControls := by
  -- What is written is a backslash, a letter of the table, or a character not in the table.
  obtain ⟨source, _, written⟩ := List.mem_flatMap.mp there
  unfold escapeChar at written
  cases special : escapeLetter? source with
  -- A sequence has two characters, the backslash and its letter.
  | some letter =>
    simp only [special, List.mem_cons, List.not_mem_nil, or_false] at written
    rcases written with rfl | rfl
    · decide
    · exact escapeLetter?_not_control special
  | none =>
    simp only [special, List.mem_singleton] at written
    subst written
    exact (plain_of_escapeLetter?_eq_none special).2.2

/-- Escaping never makes a text shorter. -/
theorem length_le_escapeString (text : Text) : text.length ≤ (escapeString text).length := by
  -- Each character is written as itself, or as a backslash and a letter.
  induction text with
  | nil => exact Nat.le_refl 0
  | cons c text ih =>
    have one : 1 ≤ (escapeChar c).length := by
      unfold escapeChar
      split <;> simp
    have written : escapeString (c :: text) = escapeChar c ++ escapeString text :=
      List.flatMap_cons
    rw [written, List.length_append, List.length_cons]
    omega

/-- Escaping leaves a text as it is exactly if none of its characters has a letter. -/
theorem escapeString_eq_self_iff {text : Text} :
    escapeString text = text ↔ ∀ c ∈ text, escapeLetter? c = none := by
  induction text with
  | nil => simp [escapeString]
  | cons c text ih =>
    have written : escapeString (c :: text) = escapeChar c ++ escapeString text :=
      List.flatMap_cons
    rw [written, List.forall_mem_cons, ← ih, escapeChar]
    -- A character without a letter is written as it is.
    cases special : escapeLetter? c with
    | none => simp
    | some letter =>
      -- A backslash sequence makes the text longer, which nothing behind it makes up for.
      refine iff_of_false (fun same => ?_) (by simp)
      have lengths := congrArg List.length same
      have longer := length_le_escapeString text
      simp only [List.cons_append, List.nil_append, List.length_cons] at lengths
      omega

/-- Two texts with the same literal are the same. -/
theorem quoteString_injective {first second : Text}
    (same : quoteString first = quoteString second) : first = second := by
  -- Both bodies are the same, and a body stands for one text only.
  have bodies : escapeString first = escapeString second := by
    simpa [quoteString] using same
  have decoded := decodeBody?_escapeString first
  rw [bodies, decodeBody?_escapeString] at decoded
  exact (Option.some.inj decoded).symm

end SqlWriter
