import SqlWriter.Number.Shortest

/-! How doubles are written: in full inside a statement, and with an exponent inside a message. -/

namespace SqlWriter

/-- A minus stands in front of a negative number. -/
def signed (negative : Bool) (text : Text) : Text :=
  if negative then '-' :: text else text

/-- `digits · 10 ^ exponent` in full, with a point only where a fraction follows it. -/
def positional (digits : Nat) (exponent : Int) : Text :=
  let text := natText digits
  match exponent with
  | .ofNat zeros => text ++ List.replicate zeros '0'
  | .negSucc places =>
    -- Zeros in front make sure that there is a digit before the point.
    let padded := List.replicate (places + 2 - text.length) '0' ++ text
    let point := padded.length - (places + 1)
    padded.take point ++ '.' :: padded.drop point

/-- The shortest text of a double without an exponent, which keeps the sign of zero. -/
def floatText (x : Float) : Text :=
  match FloatParts.ofFloat x with
  | .notANumber => "NaN".toList
  | .infinite negative => signed negative "inf".toList
  | .finite negative 0 _ => signed negative ['0']
  | .finite negative mantissa power =>
    -- The exponent is spent on zeros, in front of the digits or behind them.
    let (digits, exponent) := shortestDigits mantissa power
    signed negative (positional digits exponent)

/-- A double inside a statement is its shortest text, and both zeros are `0`. -/
def numberText (x : Float) : Text :=
  match FloatParts.ofFloat x with
  | .finite _ 0 _ => ['0']
  | _ => floatText x

/-- Whether a double is neither infinite nor undefined. -/
def isFiniteFloat (x : Float) : Bool :=
  match FloatParts.ofFloat x with
  | .finite .. => true
  | _ => false

/-- The first digit, a point before further digits, and a signed exponent of ten. -/
def scientific (digits : Nat) (exponent : Int) : Text :=
  let text := natText digits
  -- All digits but the first move behind the point, and the exponent makes up for it.
  let scale := exponent + (text.length - 1 : Nat)
  let fraction := text.drop 1
  let mark := if scale < 0 then ['e'] else ['e', '+']
  text.take 1 ++ (if fraction = [] then [] else '.' :: fraction) ++ mark ++ intText scale

/--
A double inside a message is written so that it cannot be taken for an integer.

Scales from five places after the point to sixteen before it are written in full.
-/
def messageFloatText (x : Float) : Text :=
  match FloatParts.ofFloat x with
  | .finite negative 0 _ => signed negative "0.0".toList
  | .finite negative mantissa power =>
    -- The scale is the exponent of the leading digit.
    let (digits, exponent) := shortestDigits mantissa power
    let scale := exponent + ((natText digits).length - 1 : Nat)
    signed negative <|
      if scale < -5 || 15 < scale then scientific digits exponent
      else if 0 ≤ exponent then positional digits exponent ++ ".0".toList
      else positional digits exponent
  | _ => floatText x

end SqlWriter
