import Mathlib.Algebra.Order.Ring.Abs
import Mathlib.Algebra.Order.Field.Rat
import SqlWriter.Number.Shortest

/-! Doubles as numbers: a mantissa times a power of two, and which of them can be stored. -/

namespace SqlWriter

/-- The part of a stored double that holds the exponent is read off its bits. -/
theorem toNat_unpackExponent (bits : UInt64) :
    (@Float.Model.UnpackedFloat.unpackExponent .binary64 bits.toBitVec).toNat =
      bits.toNat / leadingBit % 2048 := by
  -- Shifting the fraction out divides by the leading bit, and eleven bits are a remainder by 2048.
  simp [Float.Model.UnpackedFloat.unpackExponent, leadingBit, Nat.shiftRight_eq_div_pow]

/-- All bits make a double, unless the exponent is the one of infinity. -/
theorem exists_float_toBits {bits : Nat} (fits : bits < 2 ^ 64)
    (finite : bits / leadingBit % 2048 ≠ 2047) : ∃ x : Float, x.toBits.toNat = bits := by
  -- Only the exponent of infinity puts a condition on the other bits.
  let stored := UInt64.ofNat bits
  have same : stored.toNat = bits := by
    simp [stored]
    omega
  have valid : Float.Model.Format.binary64.Valid stored.toBitVec := by
    constructor
    intro infinite
    have exponent := toNat_unpackExponent stored
    rw [infinite, same] at exponent
    exact absurd exponent.symm finite
  exact ⟨⟨stored, valid⟩, same⟩

/-- A sign, an exponent below that of infinity and a fraction are those of a stored double. -/
theorem exists_float_of_fields (negative : Bool) (scale fraction : Nat) (below : scale < 2047)
    (short : fraction < leadingBit) :
    ∃ x : Float, FloatParts.ofFloat x =
      if scale = 0 then .finite negative fraction (-1074)
      else .finite negative (leadingBit + fraction) ((scale : Int) - 1075) := by
  -- The three fields follow one another in the bits.
  let fields := negative.toNat * 2048 + scale
  have positive : 0 < leadingBit := by decide
  have sign := negative.toNat_le
  have front : (leadingBit * fields + fraction) / leadingBit = fields := by
    rw [Nat.mul_add_div positive, Nat.div_eq_of_lt short, Nat.add_zero]
  have back : (leadingBit * fields + fraction) % leadingBit = fraction := by
    rw [Nat.mul_add_mod, Nat.mod_eq_of_lt short]
  have fits : leadingBit * fields + fraction < 2 ^ 64 := by
    calc leadingBit * fields + fraction < leadingBit * (fields + 1) :=
          Nat.add_lt_add_left short _
      _ ≤ leadingBit * 4096 := Nat.mul_le_mul_left leadingBit (by omega)
      _ = 2 ^ 64 := by decide
  have exponent : fields % 2048 = scale := by omega
  have negates : fields / 2048 = negative.toNat := by omega
  -- The scale is below the last one, so some double has these bits.
  obtain ⟨x, stored⟩ := exists_float_toBits fits (by omega)
  refine ⟨x, ?_⟩
  simp only [FloatParts.ofFloat, stored, front, back, exponent, negates]
  rw [if_neg (by omega)]
  cases negative <;> rfl

/--
A mantissa and a power are those of a stored double exactly if they fit its bits.

The mantissa has fifty-three bits, and its leading bit is set unless the power is the least one.
-/
theorem exists_float_iff {negative : Bool} {mantissa : Nat} {power : Int} :
    (∃ x : Float, FloatParts.ofFloat x = .finite negative mantissa power) ↔
      (mantissa < 2 * leadingBit ∧ -1074 ≤ power ∧ (power = -1074 ∨ leadingBit ≤ mantissa)) ∧
        power ≤ 971 := by
  constructor
  · rintro ⟨x, read⟩
    have fraction : x.toBits.toNat % leadingBit < leadingBit := Nat.mod_lt _ (by decide)
    simp only [FloatParts.ofFloat] at read
    generalize x.toBits.toNat % leadingBit = low at read fraction
    generalize scaled : x.toBits.toNat / leadingBit % 2048 = scale at read
    split at read
    · -- The last scale is that of infinities and of what is undefined.
      split at read <;> cases read
    · split at read
      · cases read
        omega
      · cases read
        omega
  · rintro ⟨⟨short, least, normal⟩, stored⟩
    rcases lt_or_ge mantissa leadingBit with subnormal | leading
    · obtain rfl : power = -1074 := normal.resolve_right (by omega)
      exact exists_float_of_fields negative 0 mantissa (by decide) subnormal
    · -- The leading bit is not stored, and the power is stored from one on.
      obtain ⟨scale, rfl⟩ : ∃ scale : Nat, power = scale - 1074 := ⟨(power + 1074).toNat, by omega⟩
      obtain ⟨fraction, rfl⟩ := Nat.exists_eq_add_of_le leading
      obtain ⟨x, read⟩ := exists_float_of_fields negative (scale + 1) fraction (by omega)
        (by omega)
      refine ⟨x, ?_⟩
      rw [read, if_neg (by omega)]
      congr 1
      omega

/--
A double is `mantissa · 2 ^ power`, here without an upper bound on the power.

The mantissa has fifty-three bits, and its leading bit is set unless the power is the least one.
-/
structure Double where
  mantissa : Int
  power : Int
  short : |mantissa| < 2 ^ 53
  least : -1074 ≤ power
  normal : power = -1074 ∨ 2 ^ 52 ≤ |mantissa|

namespace Double

/-- The number that a double stands for. -/
def value (x : Double) : ℚ :=
  x.mantissa * 2 ^ x.power

/-- A double is finite if it can be stored. -/
def IsFinite (x : Double) : Prop :=
  ∃ stored : Float,
    FloatParts.ofFloat stored = .finite (decide (x.mantissa < 0)) x.mantissa.natAbs x.power

/-- Doubles can be stored exactly up to the largest power. -/
theorem isFinite_iff (x : Double) : x.IsFinite ↔ x.power ≤ 971 := by
  -- What a double knows of itself is all that the stored form asks for, apart from the upper bound.
  have short := x.short
  have least := x.least
  have normal := x.normal
  rw [Int.abs_eq_natAbs] at short normal
  rw [IsFinite, exists_float_iff, leadingBit]
  omega

/-- A double with the other sign. -/
def neg (x : Double) : Double where
  mantissa := -x.mantissa
  power := x.power
  short := by simpa using x.short
  least := x.least
  normal := by simpa using x.normal

/-- A double with the other sign stands for the opposite number. -/
@[simp] theorem value_neg (x : Double) : x.neg.value = -x.value := by
  -- The sign is part of the mantissa.
  simp [value, neg]

end Double

end SqlWriter
