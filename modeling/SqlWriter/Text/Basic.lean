/-! Text as the list of its characters, with the joins that statements are put together from. -/

namespace SqlWriter

/-- Text is the list of its characters, so that every rule can read it from the front. -/
abbrev Text := List Char

/-- Items are listed with a comma and a space between them. -/
def commaJoined (items : List Text) : Text :=
  ", ".toList.intercalate items

/-- A text stands inside one pair of parentheses. -/
def inParens (text : Text) : Text :=
  '(' :: (text ++ [')'])

/-- A boolean is written as one of two words. -/
def boolWord (value : Bool) : Text :=
  if value then "true".toList else "false".toList

/-- A word that spells a boolean names its value. -/
def boolOfWord? (text : Text) : Option Bool :=
  if text = "true".toList then some true
  else if text = "false".toList then some false
  else none

/-- The word of a boolean names that boolean again. -/
theorem boolOfWord?_boolWord (value : Bool) : boolOfWord? (boolWord value) = some value := by
  -- The two words are read by their own cases.
  cases value <;> decide

/-- Only the word of a boolean names it. -/
theorem boolOfWord?_eq_some_iff {text : Text} {value : Bool} :
    boolOfWord? text = some value ↔ text = boolWord value := by
  constructor
  · -- Each branch of the reader compares with the word that it then stands for.
    intro found
    unfold boolOfWord? at found
    split at found
    · cases found; assumption
    · split at found
      · cases found; assumption
      · cases found
  · rintro rfl
    exact boolOfWord?_boolWord value

/-- A capital ASCII letter reads as its small one, and every other character as itself. -/
def lowerCase (text : Text) : Text :=
  -- Keywords are ASCII, so a letter from beyond it never makes a text equal to one.
  text.map Char.toLower

end SqlWriter
