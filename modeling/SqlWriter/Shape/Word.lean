import SqlWriter.Text.Taken

/-! Words of ASCII letters, digits and underscores, and paths of parts joined by dots. -/

namespace SqlWriter

/-- Words are made of ASCII letters, digits and underscores. -/
def isWordChar (c : Char) : Bool :=
  c.isAlphanum || c == '_'

/-- The longest non-empty run of one class of characters that a text starts with, and the rest. -/
def run? (isPart : Char → Bool) (text : Text) : Option (Text × Text) :=
  -- A text that starts with another character starts with no run.
  let run := text.takeWhile isPart
  if run = [] then none else some (run, text.dropWhile isPart)

/-- The word that a text starts with, and the rest. -/
def word? (text : Text) : Option (Text × Text) :=
  run? isWordChar text

/-- A run and the rest make up the text. -/
theorem run?_append {isPart : Char → Bool} {text run rest : Text}
    (found : run? isPart text = some (run, rest)) : run ++ rest = text := by
  -- A run that is empty is refused, and any other is a prefix taken while the test holds.
  simp only [run?] at found
  split at found
  · cases found
  · cases found
    exact List.takeWhile_append_dropWhile

/-- A run holds at least one character. -/
theorem run?_ne_nil {isPart : Char → Bool} {text run rest : Text}
    (found : run? isPart text = some (run, rest)) : run ≠ [] := by
  -- The empty run is the branch that fails.
  simp only [run?] at found
  split at found
  · cases found
  · cases found
    assumption

/-- A run holds characters of its class only. -/
theorem run?_isPart {isPart : Char → Bool} {text run rest : Text}
    (found : run? isPart text = some (run, rest)) : ∀ c ∈ run, isPart c = true := by
  -- The prefix is taken while the test holds, so each character passes it.
  simp only [run?] at found
  split at found
  · cases found
  · cases found
    exact List.all_eq_true.mp List.all_takeWhile

/-- The rest behind a run is shorter than the text. -/
theorem run?_length {isPart : Char → Bool} {text run rest : Text}
    (found : run? isPart text = some (run, rest)) : rest.length < text.length := by
  -- The run takes at least one character away from the text.
  rw [← run?_append found, List.length_append]
  exact Nat.lt_add_of_pos_left (List.length_pos_iff.mpr (run?_ne_nil found))

/-- The longest non-empty run of one class of characters, taken off the front of a text. -/
def takeRun? (isPart : Char → Bool) (text : Text) : Option (Taken Text text) :=
  match found : run? isPart text with
  | some (run, rest) => some ⟨run, rest, run?_length found⟩
  | none => none

/-- The further parts of a path that a text goes on with, each after a dot, and the rest. -/
def pathTail (isPart : Char → Bool) (text : Text) : Text × Text :=
  match text with
  | '.' :: behind =>
    -- A dot without a part behind it does not belong to the path.
    match _found : run? isPart behind with
    | some (part, rest) =>
      let (tail, last) := pathTail isPart rest
      ('.' :: (part ++ tail), last)
    | none => ([], text)
  | _ => ([], text)
termination_by text.length
decreasing_by
  have := run?_length _found
  simp only [List.length_cons]
  omega

/-- The path that a text starts with, and the rest. -/
def path? (isPart : Char → Bool) (text : Text) : Option (Text × Text) :=
  (run? isPart text).map fun (part, rest) =>
    let (tail, last) := pathTail isPart rest
    (part ++ tail, last)

/-- The further parts of a path and the rest make up the text. -/
theorem pathTail_append (isPart : Char → Bool) (text : Text) :
    (pathTail isPart text).1 ++ (pathTail isPart text).2 = text := by
  -- The induction follows the parts that the path takes one after another.
  fun_induction pathTail isPart text with
  | case1 behind part rest found tail last split ih =>
    rw [split] at ih
    simp only at ih
    simp [ih, run?_append found]
  | case2 => rfl
  | case3 => rfl

/-- A path and the rest make up the text. -/
theorem path?_append {isPart : Char → Bool} {text path rest : Text}
    (found : path? isPart text = some (path, rest)) : path ++ rest = text := by
  -- A path is a first run with a tail behind it.
  simp only [path?, Option.map_eq_some_iff, Prod.mk.injEq, Prod.exists] at found
  obtain ⟨part, behind, run, rfl, rfl⟩ := found
  rw [List.append_assoc, pathTail_append, run?_append run]

end SqlWriter
