import Mathlib.Data.Nat.Digits.Defs
import SqlWriter.Number.Decimal
import SqlWriter.Proofs.Number.Rounded

/-! Decimals as numbers: what their digits count, and which of them round to a finite double. -/

namespace SqlWriter

section digits

/-- Digits in front of a point count the powers of ten, from the last digit on. -/
def wholeNumber (digits : Text) : ℕ :=
  Nat.ofDigits 10 (digits.reverse.map digitValue)

/-- Digits behind a point count tenths, and what stands behind each digit counts tenths of those. -/
def fractionNumber : Text → ℚ
  | [] => 0
  | digit :: rest => (digitValue digit + fractionNumber rest) / 10

/-- A digit behind others moves them up by a place. -/
theorem digitsValue_concat (front : Text) (digit : Char) :
    digitsValue (front ++ [digit]) = 10 * digitsValue front + digitValue digit := by
  -- The fold reads the last digit at its end.
  simp [digitsValue]

/-- Digits are read as the powers of ten that they count. -/
theorem digitsValue_eq_wholeNumber (digits : Text) : digitsValue digits = wholeNumber digits := by
  -- The powers of ten are counted from the last digit on, and so the induction takes it off first.
  induction digits using List.reverseRecOn with
  | nil => rfl
  | append_singleton front digit ih =>
    rw [digitsValue_concat, ih]
    simp [wholeNumber, Nat.ofDigits_cons, add_comm]

/-- Digits behind others move them up by as many places as there are. -/
theorem digitsValue_append (front back : Text) :
    digitsValue (front ++ back) = digitsValue front * 10 ^ back.length + digitsValue back := by
  -- One more digit behind both moves all the others up by one place.
  induction back using List.reverseRecOn with
  | nil => simp [digitsValue]
  | append_singleton back digit ih =>
    rw [← List.append_assoc, digitsValue_concat, digitsValue_concat, ih, List.length_append,
      List.length_singleton, pow_succ]
    ring

/-- Digits behind a point are as many places lower as there are digits. -/
theorem digitsValue_eq_fractionNumber (digits : Text) :
    (digitsValue digits : ℚ) = fractionNumber digits * 10 ^ digits.length := by
  -- The first digit of a fraction counts as many places more than the rest has digits.
  induction digits with
  | nil => simp [digitsValue, fractionNumber]
  | cons digit rest ih =>
    have first : digitsValue [digit] = digitValue digit := by simp [digitsValue]
    rw [← List.singleton_append, digitsValue_append, first]
    push_cast
    rw [ih, List.singleton_append, fractionNumber, List.length_cons, pow_succ]
    ring

/-- Digits with a point among them are read without it, and it is put back by a power of ten. -/
theorem digitsValue_point (whole fraction : Text) :
    (digitsValue (whole ++ fraction) : ℚ) =
      (wholeNumber whole + fractionNumber fraction) * 10 ^ fraction.length := by
  -- The whole part is moved up by the places of the fraction, which then count from one on.
  rw [digitsValue_append, digitsValue_eq_wholeNumber whole]
  push_cast
  rw [digitsValue_eq_fractionNumber]
  ring

end digits

section value

/-- A minus negates what stands behind it. -/
def signFactor (negative : Bool) : ℤ :=
  if negative then -1 else 1

/-- A number that is negated or not is multiplied by the factor of its sign. -/
theorem signFactor_mul (negative : Bool) (number : ℤ) :
    signFactor negative * number = if negative then -number else number := by
  -- There are two signs only.
  cases negative <;> simp [signFactor]

/-- A sign does not change the magnitude. -/
theorem abs_signFactor (negative : Bool) : |(signFactor negative : ℚ)| = 1 := by
  -- There are two signs only.
  cases negative <;> simp [signFactor]

/-- The number that a decimal stands for. -/
def Decimal.value (number : Decimal) : ℚ :=
  signFactor number.negative * number.digits * 10 ^ number.exponent

/-- Digits around a point are a number by themselves, which a power of ten then scales. -/
theorem Decimal.value_point (negative : Bool) (whole fraction : Text) (power : ℤ) :
    Decimal.value ⟨negative, digitsValue (whole ++ fraction), power - fraction.length⟩ =
      signFactor negative * (wholeNumber whole + fractionNumber fraction) * 10 ^ power := by
  -- Each digit behind the point lowers the exponent by one, which takes back the place it moved up.
  have ten : (10 : ℚ) ^ fraction.length ≠ 0 := by positivity
  rw [Decimal.value, digitsValue_point, zpow_sub₀ (by norm_num), zpow_natCast]
  field_simp

/-- The limit for finite doubles as a number. -/
theorem cast_overflowLimit : (overflowLimit : ℚ) = 2 ^ 1024 - 2 ^ 970 := by
  -- Both powers are formed once here, and nowhere else from here on.
  have limit : overflowLimit = 2 ^ 1024 - 2 ^ 970 := by decide +kernel
  have ordered : 2 ^ 970 ≤ 2 ^ 1024 := by decide +kernel
  rw [limit, Nat.cast_sub ordered, Nat.cast_pow, Nat.cast_pow, Nat.cast_ofNat]

/-- A whole number with too many zeros is above the limit, so that they need not be counted. -/
theorem lt_overflowLimit_of_zeros {digits exponent : ℕ} :
    (digits = 0 ∨ exponent ≤ 308 ∧ digits * 10 ^ exponent < overflowLimit) ↔
      digits * 10 ^ exponent < overflowLimit := by
  have positive : 0 < overflowLimit := by decide +kernel
  -- The bound is kept as a variable, so that its power is not formed again.
  obtain ⟨most, limit, next⟩ : ∃ most, overflowLimit ≤ 10 ^ most ∧ most = 308 + 1 :=
    ⟨309, by decide +kernel, rfl⟩
  constructor
  · rintro (rfl | ⟨-, small⟩)
    · rw [Nat.zero_mul]
      exact positive
    · exact small
  · intro small
    rcases Nat.eq_zero_or_pos digits with zero | present
    · -- Zero is below the limit with any number of zeros.
      exact .inl zero
    · refine .inr ⟨?_, small⟩
      -- A number of at least one with that many zeros is at least the bound.
      by_contra long
      have zeros : 10 ^ most ≤ 10 ^ exponent := Nat.pow_le_pow_right (by decide) (by omega)
      have large : 10 ^ exponent ≤ digits * 10 ^ exponent := Nat.le_mul_of_pos_left _ present
      exact absurd small (not_lt.mpr (limit.trans (zeros.trans large)))

/-- A fraction with fewer bits than places is below one, so that it need not be formed. -/
theorem lt_overflowLimit_of_places {digits places : ℕ} :
    (digits.log2 ≤ places ∨ digits < overflowLimit * 10 ^ (places + 1)) ↔
      digits < overflowLimit * 10 ^ (places + 1) := by
  -- What has to be shown is that a fraction with few bits is below the limit in any case.
  refine or_iff_right_of_imp fun short => ?_
  have positive : 0 < overflowLimit := by decide +kernel
  calc digits < 2 ^ (digits.log2 + 1) := Nat.lt_log2_self
    _ ≤ 2 ^ (places + 1) := Nat.pow_le_pow_right two_pos (by omega)
    _ ≤ 10 ^ (places + 1) := Nat.pow_le_pow_left (by decide) _
    _ ≤ overflowLimit * 10 ^ (places + 1) := Nat.le_mul_of_pos_left _ positive

/-- Numbers are finite as doubles exactly as far as the limit. -/
theorem Decimal.isFinite_iff (number : Decimal) :
    number.isFinite = true ↔ RoundsToFinite number.value := by
  -- The sign has no part in either side.
  have magnitude : |number.value| = number.digits * 10 ^ number.exponent := by
    rw [Decimal.value, abs_mul, abs_mul, abs_signFactor, one_mul, Nat.abs_cast,
      abs_of_pos (by positivity)]
  rw [roundsToFinite_iff, magnitude, ← cast_overflowLimit]
  obtain ⟨negative, digits, exponent⟩ := number
  cases exponent with
  | ofNat exponent =>
    -- Zeros behind the digits multiply them.
    have whole : (digits * 10 ^ (Int.ofNat exponent) : ℚ) < overflowLimit ↔
        digits * 10 ^ exponent < overflowLimit := by
      rw [Int.ofNat_eq_natCast, zpow_natCast]
      exact_mod_cast Iff.rfl
    rw [whole, ← lt_overflowLimit_of_zeros]
    simp only [Decimal.isFinite, Bool.or_eq_true, Bool.and_eq_true, decide_eq_true_eq, Nat.pow_eq]
  | negSucc places =>
    -- Digits behind the point multiply the other side.
    have whole : (digits * 10 ^ (Int.negSucc places) : ℚ) < overflowLimit ↔
        digits < overflowLimit * 10 ^ (places + 1) := by
      rw [zpow_negSucc, ← div_eq_mul_inv, div_lt_iff₀ (by positivity)]
      exact_mod_cast Iff.rfl
    rw [whole, ← lt_overflowLimit_of_places]
    simp only [Decimal.isFinite, Bool.or_eq_true, decide_eq_true_eq, Nat.pow_eq]

end value

end SqlWriter
