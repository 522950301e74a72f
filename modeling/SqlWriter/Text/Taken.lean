import SqlWriter.Text.Blank

/-! Readers that take a value off the front of a text and leave a strictly shorter rest. -/

namespace SqlWriter

/-- A value taken off the front of a text, and the rest, which is shorter than the text. -/
structure Taken (α : Type) (text : Text) where
  value : α
  rest : Text
  shorter : rest.length < text.length

namespace Taken

variable {α β : Type} {text : Text}

/-- Another value in place of the one that was taken. -/
def map (change : α → β) (taken : Taken α text) : Taken β text :=
  { taken with value := change taken.value }

/-- What is taken off a text is taken off every text that is at least as long, too. -/
def widen {longer : Text} (taken : Taken α text) (long : text.length ≤ longer.length) :
    Taken α longer :=
  { taken with shorter := Nat.lt_of_lt_of_le taken.shorter long }

/-- A value in place of the first character of a text. -/
def first (value : α) {c : Char} {rest : Text} : Taken α (c :: rest) where
  value := value
  rest := rest
  shorter := Nat.lt_succ_self rest.length

/-- What is taken off a text behind one more character. -/
def past {c : Char} {rest : Text} (taken : Taken α rest) : Taken α (c :: rest) :=
  taken.widen (Nat.le_succ rest.length)

/-- Two values that are taken one behind the other. -/
def followedBy (taken : Taken α text) (next : Taken β taken.rest) : Taken (α × β) text where
  value := (taken.value, next.value)
  rest := next.rest
  shorter := Nat.lt_trans next.shorter taken.shorter

end Taken

/-- The boolean whose word stands in front of a text. -/
def takeBool? : (text : Text) → Option (Taken Bool text)
  -- The last letter is the one taken, and each letter before it is one more to pass.
  | 't' :: 'r' :: 'u' :: 'e' :: _ => some (Taken.first true).past.past.past
  | 'f' :: 'a' :: 'l' :: 's' :: 'e' :: _ => some (Taken.first false).past.past.past.past
  | _ => none

end SqlWriter
