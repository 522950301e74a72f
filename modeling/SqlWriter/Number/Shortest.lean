import SqlWriter.Number.Decimal

/-! The fewest decimal digits that read back as a double. -/

namespace SqlWriter

/-- What the bits of a double stand for: no number, an infinity, or `mantissa · 2 ^ power`. -/
inductive FloatParts where
  | notANumber
  | infinite (negative : Bool)
  | finite (negative : Bool) (mantissa : Nat) (power : Int)
deriving DecidableEq, Repr

/-- The bit in front of the fifty-two fraction bits, which is a one and not stored. -/
def leadingBit : Nat :=
  0x10000000000000

/-- The parts of a double, read off its sign, exponent and fraction bits. -/
def FloatParts.ofFloat (x : Float) : FloatParts :=
  -- From the top the bits are the sign, eleven bits of exponent and fifty-two of fraction.
  let bits := x.toBits.toNat
  let negative := bits / leadingBit / 2048 == 1
  let scale := bits / leadingBit % 2048
  let fraction := bits % leadingBit
  -- The largest exponent is kept for the values that are no finite numbers.
  if scale = 2047 then
    if fraction = 0 then .infinite negative else .notANumber
  else if scale = 0 then .finite negative fraction (-1074)
  else .finite negative (leadingBit + fraction) ((scale : Int) - 1075)

/--
The reals that round to one double, counted in quarters of its last binary place.

The double itself is `centre`, and the ends belong to the interval when its mantissa is even.
-/
structure RoundingInterval where
  low : Nat
  centre : Nat
  high : Nat
  closed : Bool
  power : Int

/-- The rounding interval of the double `mantissa · 2 ^ power`. -/
def RoundingInterval.around (mantissa : Nat) (power : Int) : RoundingInterval :=
  -- Below a power of two the doubles lie twice as close, except at the smallest exponent.
  let below := if mantissa = leadingBit && power ≠ -1074 then 1 else 2
  { low := 4 * mantissa - below
    centre := 4 * mantissa
    high := 4 * mantissa + 2
    closed := mantissa % 2 == 0
    power := power - 2 }

/-- The whole number `base ^ exponent`, and one where the exponent is negative. -/
def wholePower (base : Nat) (exponent : Int) : Nat :=
  Nat.pow base exponent.toNat

/-- The point of the grid `10 ^ exponent` in the interval that is nearest to its centre. -/
def RoundingInterval.gridPoint? (interval : RoundingInterval) (exponent : Int) : Option Nat :=
  -- Both sides are scaled to whole numbers: a point by `unit`, a bound by `quarter`.
  let unit := wholePower 10 exponent * wholePower 2 (-interval.power)
  let quarter := wholePower 2 interval.power * wholePower 10 (-exponent)
  let centre := interval.centre * quarter
  let inside (point : Nat) : Bool :=
    if interval.closed then
      interval.low * quarter ≤ point * unit && point * unit ≤ interval.high * quarter
    else interval.low * quarter < point * unit && point * unit < interval.high * quarter
  -- The two points around the centre are the nearest ones, so no other needs a look.
  let below := centre / unit
  let above := below + 1
  match inside below, inside above with
  | true, true =>
    -- Of two equally near points the upper one is taken.
    some (if 2 * centre < (below + above) * unit then below else above)
  | true, false => some below
  | false, true => some above
  | false, false => none

/-- The least exponent whose power of ten exceeds the centre of the interval. -/
def RoundingInterval.magnitude (interval : RoundingInterval) : Int :=
  -- Four hundred more places bring every double above one, where its digits can be counted.
  let enlarged := interval.centre * wholePower 2 interval.power * wholePower 10 400
    / wholePower 2 (-interval.power)
  (natText enlarged).length - 400

/-- Zeros at the end of the digits move into the exponent. -/
def stripZeros (digits : Nat) (exponent : Int) : Nat × Int :=
  if 0 < digits ∧ digits % 10 = 0 then stripZeros (digits / 10) (exponent + 1)
  else (digits, exponent)
termination_by digits
decreasing_by omega

/-- The fewest digits, and the exponent of the last, that read back as `mantissa · 2 ^ power`. -/
def shortestDigits (mantissa : Nat) (power : Int) : Nat × Int :=
  let interval := RoundingInterval.around mantissa power
  let magnitude := interval.magnitude
  -- Seventeen digits tell any two doubles apart.
  let found := (List.range 17).findSome? fun count =>
    let exponent := magnitude - (count + 1 : Nat)
    (interval.gridPoint? exponent).map fun digits => (digits, exponent)
  match found with
  | some (digits, exponent) => stripZeros digits exponent
  | none => (mantissa * wholePower 2 power * wholePower 5 (-power), min power 0)

end SqlWriter
