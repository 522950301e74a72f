import SqlWriter.Text.Blank

/-! Decimal numerals: how they are read, and which of them a double can hold. -/

namespace SqlWriter

/-- A decimal number is its sign with `digits · 10 ^ exponent`. -/
structure Decimal where
  negative : Bool
  digits : Nat
  exponent : Int
deriving DecidableEq, Repr

/-- The value of a digit character. -/
def digitValue (digit : Char) : Nat :=
  digit.toNat - '0'.toNat

/-- The number that a run of digits spells in base ten. -/
def digitsValue (digits : Text) : Nat :=
  -- Each digit moves the ones before it up by a place.
  digits.foldl (fun total digit => 10 * total + digitValue digit) 0

/-- An optional sign in front of a numeral: whether it is a minus, and the rest. -/
def takeSign : Text → Bool × Text
  | '-' :: rest => (true, rest)
  | '+' :: rest => (false, rest)
  | text => (false, text)

/-- The exponent that a whole text spells: nothing at all, or `e`, a sign if any, and digits. -/
def exponentOfText? : Text → Option Int
  | [] => some 0
  | mark :: rest =>
    if mark = 'e' || mark = 'E' then
      let (negative, digits) := takeSign rest
      -- The mark promises a number, so an exponent without digits is no exponent.
      if digits ≠ [] && digits.all Char.isDigit then
        some (if negative then -(digitsValue digits : Int) else digitsValue digits)
      else none
    else none

/-- The digits after a dot in front of a text, and the rest. -/
def takeFraction : Text → Text × Text
  | '.' :: rest => (rest.takeWhile Char.isDigit, rest.dropWhile Char.isDigit)
  | text => ([], text)

/-- The decimal that a whole text spells: a sign, digits with at most one dot, and an exponent. -/
def Decimal.ofText? (text : Text) : Option Decimal :=
  let (negative, body) := takeSign text
  let whole := body.takeWhile Char.isDigit
  let (fraction, rest) := takeFraction (body.dropWhile Char.isDigit)
  -- A dot alone spells no number.
  if whole ++ fraction = [] then none
  else (exponentOfText? rest).map fun exponent =>
    { negative := negative
      digits := digitsValue (whole ++ fraction)
      -- Every digit behind the dot makes the last place a tenth of what it was.
      exponent := exponent - fraction.length }

/-- From here on, a magnitude rounds past the largest finite double. -/
def overflowLimit : Nat :=
  -- Halfway between the largest double and the next power of two, ties go up.
  Nat.pow 2 1024 - Nat.pow 2 970

/-- Whether a decimal rounds to a finite double. -/
def Decimal.isFinite (number : Decimal) : Bool :=
  match number.exponent with
  | .ofNat exponent =>
    -- Past 308 zeros only zero itself is small enough, so no longer power is formed.
    number.digits = 0 || (exponent ≤ 308 && number.digits * Nat.pow 10 exponent < overflowLimit)
  | .negSucc places =>
    -- A divisor as long as the digits leaves less than one, so no longer power is formed.
    number.digits.log2 ≤ places || number.digits < overflowLimit * Nat.pow 10 (places + 1)

/-- The double nearest to a decimal, where the even neighbour wins a tie. -/
def Decimal.toFloat (number : Decimal) : Float :=
  -- The sign is put in front at the end, so that a zero keeps it too.
  let magnitude := match number.exponent with
    | .ofNat exponent => Float.ofScientific number.digits false exponent
    | .negSucc places => Float.ofScientific number.digits true (places + 1)
  if number.negative then -magnitude else magnitude

/-- The digits of a natural number. -/
def natText (n : Nat) : Text :=
  Nat.toDigits 10 n

/-- An integer is its digits, after a minus if it is negative. -/
def intText : Int → Text
  | .ofNat n => natText n
  | .negSucc n => '-' :: natText (n + 1)

/-- The text without its outer white space, where that spells a finite number. -/
def numeral? (text : Text) : Option Text :=
  let numeral := trim text
  -- The words for infinity and for no number spell no decimal, and so never stand bare.
  match Decimal.ofText? numeral with
  | some number => if number.isFinite then some numeral else none
  | none => none

end SqlWriter
