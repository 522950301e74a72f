import SqlWriter.Text.Taken

/-! Characters that are written by the hexadecimal digits of their codes. -/

namespace SqlWriter

/-- The value of a hexadecimal digit. -/
def hexDigit? (c : Char) : Option Nat :=
  if c.isDigit then some (c.toNat - '0'.toNat)
  else if 'a' ≤ c && c ≤ 'f' then some (c.toNat - 'a'.toNat + 10)
  else if 'A' ≤ c && c ≤ 'F' then some (c.toNat - 'A'.toNat + 10)
  else none

/-- The number that a whole text of hexadecimal digits spells. -/
def hexValue? (digits : Text) : Option Nat :=
  -- Each digit moves the ones before it up by a place; a character that is none spoils the number.
  digits.foldlM (fun total digit => (hexDigit? digit).map fun value => 16 * total + value) 0

/-- The number that some hexadecimal digits in front of a text spell. -/
def takeHex? (count : Nat) (text : Text) : Option (Taken Nat text) :=
  -- A text that ends too early holds no such number.
  if enough : 0 < count ∧ count ≤ text.length then
    (hexValue? (text.take count)).map fun value =>
      ⟨value, text.drop count, by rw [List.length_drop]; omega⟩
  else none

/-- The character with a code, unless the code is out of range or half of a surrogate pair. -/
def charOfCode? (code : Nat) : Option Char :=
  -- A surrogate code stands for no character on its own.
  if code.isValidChar then some (Char.ofNat code) else none

end SqlWriter
