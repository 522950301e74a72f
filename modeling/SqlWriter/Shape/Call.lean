import SqlWriter.Shape.Nesting
import SqlWriter.Shape.Word

/-! Function calls and parenthesized texts. -/

namespace SqlWriter

/-- The call that a text starts with, a word and the group right behind it, and the rest. -/
def call? (text : Text) : Option (Text × Text) :=
  -- No gap is allowed between the word and its group.
  (word? text).bind fun (name, arguments) =>
    (group? arguments).map fun (inside, behind) => (name ++ inParens inside, behind)

/-- The call that a whole text is, without the gaps around it. -/
def functionCall? (text : Text) : Option Text :=
  match call? (skipGap text) with
  | some (call, rest) => if skipGap rest = [] then some call else none
  | none => none

/-- The trimmed inside of a text that is one group with gaps around it, unless that is blank. -/
def parenthesized? (text : Text) : Option Text :=
  match group? (skipGap text) with
  | some (inside, rest) =>
    if skipGap rest = [] ∧ trim inside ≠ [] then some (trim inside) else none
  | none => none

/-- A call and the rest make up the text. -/
theorem call?_append {text call rest : Text} (found : call? text = some (call, rest)) :
    call ++ rest = text := by
  -- The name and the group are cut from the front, one behind the other.
  simp only [call?, Option.bind_eq_some_iff, Option.map_eq_some_iff, Prod.mk.injEq,
    Prod.exists] at found
  obtain ⟨name, arguments, word, inside, behind, group, rfl, rfl⟩ := found
  rw [List.append_assoc, group?_append group, run?_append word]

/-- The inside of a parenthesized text is shorter than the text. -/
theorem parenthesized?_length {text inner : Text} (found : parenthesized? text = some inner) :
    inner.length < text.length := by
  unfold parenthesized? at found
  split at found
  · rename_i inside rest group
    split at found
    · cases found
      -- The parentheses themselves stand outside the inner text.
      have whole := congrArg List.length (group?_append group)
      have shrunk := trim_length inside
      have skipped := skipGap_length text
      simp only [inParens, List.length_append, List.length_cons] at whole
      omega
    · cases found
  · cases found

end SqlWriter
