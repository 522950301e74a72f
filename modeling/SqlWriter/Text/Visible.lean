import SqlWriter.Text.Hidden

/-! Texts inside messages: characters that would not be seen there are shown as escapes. -/

namespace SqlWriter

/-- The hexadecimal digits of a character's code. -/
def hexText (c : Char) : Text :=
  Nat.toDigits 16 c.toNat

/-- A character as it is shown between double quotes. -/
def showChar (c : Char) : Text :=
  if c = '\x00' then "\\0".toList
  else if c = '\t' then "\\t".toList
  else if c = '\r' then "\\r".toList
  else if c = '\n' then "\\n".toList
  else if c = '"' || c = '\\' then ['\\', c]
  -- Any other character that is not seen is shown by its code.
  else if isHidden c then "\\u\x7b".toList ++ hexText c ++ "\x7d".toList
  else [c]

/-- A text as it is shown between double quotes. -/
def showText (text : Text) : Text :=
  '"' :: (text.flatMap showChar ++ ['"'])

end SqlWriter
