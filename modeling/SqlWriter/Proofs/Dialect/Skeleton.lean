import SqlWriter.Proofs.Dialect.Lexing

/-! Names and literals among lexemes, and what is left of lexemes without the texts in literals. -/

namespace SqlWriter

/-- The name that a lexeme is. -/
def Lexeme.name? : Lexeme → Option Text
  | .name text => some text
  | _ => none

/-- The text of the literal that a lexeme is. -/
def Lexeme.literal? : Lexeme → Option Text
  | .literal _ text => some text
  | _ => none

/-- A lexeme without the text in it if it is a literal. -/
def Lexeme.skeleton : Lexeme → Lexeme
  | .literal quote _ => .literal quote []
  | lexeme => lexeme

/-- The lexemes of a path are its names and nothing else that could be told from it. -/
theorem pathLexemes_name? (names : List Text) :
    (pathLexemes names).filterMap Lexeme.name? = names ∧
      (pathLexemes names).filterMap Lexeme.literal? = [] := by
  -- Between two names there is only a dot.
  unfold pathLexemes
  induction names with
  | nil => exact ⟨rfl, rfl⟩
  | cons name rest ih =>
    cases rest with
    | nil => exact ⟨rfl, rfl⟩
    | cons next rest =>
      simp only [List.map_cons, List.intercalate_cons_cons, List.filterMap_append] at ih ⊢
      rw [ih.1, ih.2]
      exact ⟨rfl, rfl⟩

/-- A text with given names and literals in it, and with the skeleton of a sample. -/
def LexesLike (sql sample : Text) (names literals : List Text) : Prop :=
  ∃ lexemes sampled, Lexes sql lexemes ∧ Lexes sample sampled ∧
    lexemes.map Lexeme.skeleton = sampled.map Lexeme.skeleton ∧
    lexemes.filterMap Lexeme.name? = names ∧ lexemes.filterMap Lexeme.literal? = literals

/-- A separator without names and literals in it. -/
def SeparatesSilently (separator : Text) : Prop :=
  ∃ marks, Separates separator marks ∧ marks.filterMap Lexeme.name? = [] ∧
    marks.filterMap Lexeme.literal? = []

/-- A word between two spaces separates without adding a name or a text in quotes. -/
theorem separatesSilently_word (word : Text) (present : word ≠ [])
    (plain : word.all isWordChar = true) (noNumber : Decimal.ofText? word = none) :
    SeparatesSilently (' ' :: (word ++ [' '])) :=
  -- A word and two spaces name nothing and quote nothing.
  ⟨_, separates_word word present plain noNumber, rfl, rfl⟩

/-- A comma with a space behind it separates without adding a name or a text in quotes. -/
theorem separatesSilently_comma : SeparatesSilently ", ".toList :=
  -- A comma and a space are marks only.
  ⟨_, separates_comma, rfl, rfl⟩

/-- An equals sign between two spaces separates without adding a name or a text in quotes. -/
theorem separatesSilently_equals : SeparatesSilently " = ".toList := by
  -- The sign stands between two spaces, and all three are marks.
  have sign : Separates ['='] [.mark '='] := separates_mark (by decide) (by decide)
  exact ⟨_, (separates_space.append sign).append separates_space, rfl, rfl⟩

namespace LexesLike

variable {sql sample more moreSample separator : Text}
variable {names literals moreNames moreLiterals : List Text}

/-- Nothing has no names and no literals. -/
theorem nil : LexesLike [] [] [] [] :=
  -- Neither text has a lexeme.
  ⟨[], [], .nil, .nil, rfl, rfl, rfl⟩

/-- Every text that is cut into lexemes is a sample of itself. -/
theorem self {lexemes : List Lexeme} (lexed : Lexes sql lexemes) :
    LexesLike sql sql (lexemes.filterMap Lexeme.name?) (lexemes.filterMap Lexeme.literal?) :=
  -- The text is its own sample.
  ⟨lexemes, lexemes, lexed, lexed, rfl, rfl, rfl⟩

/-- Every literal is a sample of every other. -/
theorem quoteString (text other : Text) :
    LexesLike (quoteString text) (quoteString other) [] [text] :=
  -- Two literals differ in their text only, which the skeleton leaves out.
  ⟨_, _, lexes_quoteString text, lexes_quoteString other, rfl, rfl, rfl⟩

/-- Parentheses add nothing to the names and literals. -/
theorem inParens (inside : LexesLike sql sample names literals) :
    LexesLike (inParens sql) (SqlWriter.inParens sample) names literals := by
  -- The parentheses add the same two marks on both sides, and no name or literal.
  obtain ⟨lexemes, sampled, lexed, sampleLexed, same, rfl, rfl⟩ := inside
  refine ⟨_, _, lexed.inParens, sampleLexed.inParens, ?_, ?_, ?_⟩
  · simp [same]
  · simp [List.filterMap_cons, Lexeme.name?]
  · simp [List.filterMap_cons, Lexeme.literal?]

/-- Neither do parentheses that stand under a condition. -/
theorem inParensIf (inside : LexesLike sql sample names literals) (condition : Prop)
    [Decidable condition] :
    LexesLike (if condition then SqlWriter.inParens sql else sql)
      (if condition then SqlWriter.inParens sample else sample) names literals := by
  -- Both texts have the parentheses, or neither has.
  split
  · exact inside.inParens
  · exact inside

/-- The names and literals in front of a separator come before those behind it. -/
theorem between (first : LexesLike sql sample names literals)
    (separates : SeparatesSilently separator)
    (second : LexesLike more moreSample moreNames moreLiterals) :
    LexesLike (sql ++ (separator ++ more)) (sample ++ (separator ++ moreSample))
      (names ++ moreNames) (literals ++ moreLiterals) := by
  -- On both sides the lexemes are appended, with the marks of the separator between them.
  obtain ⟨lexemes, sampled, lexed, sampleLexed, same, rfl, rfl⟩ := first
  obtain ⟨marks, separated, noName, noLiteral⟩ := separates
  obtain ⟨further, moreSampled, moreLexed, moreSampleLexed, moreSame, rfl, rfl⟩ := second
  refine ⟨_, _, lexed.between separated moreLexed, sampleLexed.between separated moreSampleLexed,
    ?_, ?_, ?_⟩
  · simp [same, moreSame]
  · simp [noName]
  · simp [noLiteral]

/-- A text is empty if its sample is. -/
theorem eq_nil_iff (lexed : LexesLike sql sample names literals) : sql = [] ↔ sample = [] := by
  -- Equal skeletons have equally many lexemes, and no lexemes mean no text.
  obtain ⟨lexemes, sampled, lexed, sampleLexed, same, _, _⟩ := lexed
  rw [lexed.eq_nil_iff, sampleLexed.eq_nil_iff, ← List.map_eq_nil_iff, same, List.map_eq_nil_iff]

/-- Nothing has no names and no literals in it. -/
theorem of_nil (lexed : LexesLike [] sample names literals) : names = [] ∧ literals = [] := by
  -- Without characters there are no lexemes that could be names or literals.
  obtain ⟨lexemes, _, lexed, _, _, rfl, rfl⟩ := lexed
  rw [lexed.eq_nil_iff.mp rfl]
  exact ⟨rfl, rfl⟩

end LexesLike

/-- Texts that each have the skeleton of a sample, with the names and literals in all of them. -/
inductive EachLexesLike : List Text → List Text → List Text → List Text → Prop where
  | nil : EachLexesLike [] [] [] []
  | cons {sql sample : Text} {sqls samples names literals moreNames moreLiterals : List Text}
    (head : LexesLike sql sample names literals)
    (tail : EachLexesLike sqls samples moreNames moreLiterals) :
    EachLexesLike (sql :: sqls) (sample :: samples) (names ++ moreNames) (literals ++ moreLiterals)

/-- Texts with a separator between them have their names and literals one after another. -/
theorem EachLexesLike.intercalate {sqls samples names literals : List Text} {separator : Text}
    (separates : SeparatesSilently separator) (each : EachLexesLike sqls samples names literals) :
    LexesLike (separator.intercalate sqls) (separator.intercalate samples) names literals := by
  -- The separator stands in front of every text but the first.
  induction each with
  | nil => exact .nil
  | cons head tail ih =>
    cases tail with
    | nil => simpa using head
    | cons next later =>
      simp only [List.intercalate_cons_cons, List.append_assoc] at ih ⊢
      exact head.between separates ih

/-- Texts that are written for the items of a list, each with the skeleton of its sample. -/
theorem EachLexesLike.of_forall {Item : Type} {items : List Item} {sqlOf sampleOf : Item → Text}
    {namesOf literalsOf : Item → List Text}
    (each : ∀ item ∈ items,
      LexesLike (sqlOf item) (sampleOf item) (namesOf item) (literalsOf item)) :
    EachLexesLike (items.map sqlOf) (items.map sampleOf) (items.flatMap namesOf)
      (items.flatMap literalsOf) := by
  -- The names and literals are collected item by item.
  induction items with
  | nil => exact .nil
  | cons item rest ih =>
    obtain ⟨head, tail⟩ := List.forall_mem_cons.mp each
    simpa using EachLexesLike.cons head (ih tail)

/-- Texts for the items of a list in which no names stand have no names together. -/
theorem EachLexesLike.of_forall_nameless {Item : Type} {items : List Item}
    {sqlOf sampleOf : Item → Text} {literalsOf : Item → List Text}
    (each : ∀ item ∈ items, LexesLike (sqlOf item) (sampleOf item) [] (literalsOf item)) :
    EachLexesLike (items.map sqlOf) (items.map sampleOf) [] (items.flatMap literalsOf) := by
  -- Items without names give no names together.
  have named := EachLexesLike.of_forall each
  have noNames : (items.flatMap fun _ => ([] : List Text)) = [] := by simp
  rwa [noNames] at named

end SqlWriter
