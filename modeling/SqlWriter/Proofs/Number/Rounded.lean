import Mathlib.Algebra.Order.Field.Power
import Mathlib.Algebra.Order.Floor.Ring
import Mathlib.Data.Int.Log
import Mathlib.Data.Rat.Floor
import Mathlib.Tactic.Linarith
import Mathlib.Tactic.Positivity
import Mathlib.Tactic.Ring
import SqlWriter.Proofs.Number.Double

/-! Rounding to the nearest double, and how large a number may be for that one to be finite. -/

namespace SqlWriter

/-- A number rounds to the double nearest to it, and to an even one if two are equally near. -/
structure RoundsTo (number : ℚ) (x : Double) : Prop where
  nearest : ∀ y : Double, |number - x.value| ≤ |number - y.value|
  even : ∀ y : Double, y.value ≠ x.value → |number - y.value| = |number - x.value| →
    Even x.mantissa

/-- A number rounds to a finite double if the double nearest to it is finite. -/
def RoundsToFinite (number : ℚ) : Prop :=
  ∃ x : Double, RoundsTo number x ∧ x.IsFinite

/-- Opposite numbers round to doubles that differ in the sign only. -/
theorem RoundsTo.neg {number : ℚ} {x : Double} (rounds : RoundsTo number x) :
    RoundsTo (-number) x.neg := by
  -- Distances stay the same when both ends change their sign.
  have mirrored : ∀ y : Double, |-number - y.value| = |number - y.neg.value| := by
    intro y
    rw [Double.value_neg, ← abs_neg]
    congr 1
    ring
  have back : x.neg.neg.value = x.value := by simp
  constructor
  · intro y
    rw [mirrored, mirrored, back]
    exact rounds.nearest y.neg
  · intro y other tie
    rw [mirrored, mirrored, back] at tie
    -- The other double mirrored is still another one.
    have odd : y.neg.value ≠ x.value := by
      rw [Double.value_neg]
      rw [Double.value_neg] at other
      exact fun same => other (by rw [← same, neg_neg])
    exact (rounds.even y.neg odd tie).neg

section nearest

/-- Between two neighbours on the grid of its power, a number has no other double around it. -/
theorem Double.le_or_le {cell power : ℤ} (normal : power = -1074 ∨ 2 ^ 52 ≤ cell) (y : Double) :
    y.value ≤ cell * 2 ^ power ∨ (cell + 1) * 2 ^ power ≤ y.value := by
  have unit : (0 : ℚ) < 2 ^ power := by positivity
  rcases le_or_gt power y.power with coarse | fine
  · -- A double with the same power or a higher one is on the grid itself.
    obtain ⟨steps, shift⟩ := Int.le.dest coarse
    have onGrid : y.value = (y.mantissa * 2 ^ steps : ℤ) * 2 ^ power := by
      rw [Double.value, ← shift, zpow_add₀ two_ne_zero, zpow_natCast]
      push_cast
      ring
    rw [onGrid]
    rcases le_or_gt (y.mantissa * 2 ^ steps) cell with below | above
    · left
      gcongr
    · right
      gcongr
      exact_mod_cast above
  · -- A double with a lower power is below the least one that has all its bits at this power.
    left
    have leading : (2 : ℚ) ^ 52 ≤ cell := by
      have bits : (2 : ℤ) ^ 52 ≤ cell := normal.resolve_left (by have := y.least; omega)
      exact_mod_cast bits
    have short : (y.mantissa : ℚ) ≤ 2 ^ 53 := by
      have bits : y.mantissa ≤ 2 ^ 53 := (le_abs_self _).trans y.short.le
      exact_mod_cast bits
    have step : (2 : ℚ) ^ y.power * 2 ≤ 2 ^ power := by
      rw [← zpow_add_one₀ two_ne_zero]
      exact zpow_le_zpow_right₀ one_le_two fine
    have small : (0 : ℚ) < 2 ^ y.power := by positivity
    calc y.value = y.mantissa * 2 ^ y.power := rfl
      _ ≤ 2 ^ 53 * 2 ^ y.power := by gcongr
      _ = 2 ^ 52 * (2 ^ y.power * 2) := by ring
      _ ≤ 2 ^ 52 * 2 ^ power := by gcongr
      _ ≤ cell * 2 ^ power := by gcongr

/-- Each point of the grid up to the next power of two is a double, with even ones for even ones. -/
theorem Double.exists_of_cell (cell : ℤ) {power : ℤ} (positive : 0 ≤ cell) (short : cell ≤ 2 ^ 53)
    (least : -1074 ≤ power) (normal : power = -1074 ∨ 2 ^ 52 ≤ cell) :
    ∃ x : Double, x.value = cell * 2 ^ power ∧ (Even cell → Even x.mantissa) := by
  rcases short.lt_or_eq with inside | rfl
  · refine ⟨⟨cell, power, ?_, least, ?_⟩, rfl, id⟩ <;> rwa [abs_of_nonneg positive]
  · -- One bit too many makes the mantissa half as large, and the power one higher.
    refine ⟨⟨2 ^ 52, power + 1, by decide, by omega, .inr (by decide)⟩, ?_, fun _ => ⟨2 ^ 51, rfl⟩⟩
    rw [Double.value, zpow_add_one₀ two_ne_zero]
    push_cast
    ring

/-- A number rounds to the nearer one of the two doubles around it. -/
theorem RoundsTo.of_neighbours {number low high : ℚ} {x : Double}
    (apart : ∀ y : Double, y.value ≤ low ∨ high ≤ y.value) (above : low ≤ number)
    (below : number ≤ high)
    (nearer : x.value = low ∧ number - low ≤ high - number ∨
      x.value = high ∧ high - number ≤ number - low)
    (tie : number - low = high - number → Even x.mantissa) : RoundsTo number x := by
  -- Other doubles are as far away as the neighbour on their side, or farther.
  have far : ∀ y : Double, y.value ≤ low ∧ |number - y.value| = number - y.value ∨
      high ≤ y.value ∧ |number - y.value| = y.value - number := by
    intro y
    refine (apart y).imp (fun before => ⟨before, ?_⟩) fun behind => ⟨behind, ?_⟩
    · exact abs_of_nonneg (by linarith)
    · rw [abs_of_nonpos (by linarith), neg_sub]
  have close : |number - x.value| = min (number - low) (high - number) := by
    rcases nearer with ⟨atLow, less⟩ | ⟨atHigh, less⟩
    · rw [min_eq_left less, atLow, abs_of_nonneg (by linarith)]
    · rw [min_eq_right less, atHigh, abs_of_nonpos (by linarith), neg_sub]
  constructor
  · intro y
    rw [close, min_le_iff]
    rcases far y with ⟨before, distance⟩ | ⟨behind, distance⟩
    · exact .inl (by linarith)
    · exact .inr (by linarith)
  · -- A double that is as near, but another one, is the neighbour on the other side.
    intro y other same
    rw [close] at same
    apply tie
    -- Each side may be the nearer one, and the other double may be on each side.
    rcases nearer with ⟨atLow, less⟩ | ⟨atHigh, less⟩ <;>
      rcases far y with ⟨before, distance⟩ | ⟨behind, distance⟩
    · rw [min_eq_left less] at same
      exact absurd (by linarith) other
    · rw [min_eq_left less] at same
      linarith
    · rw [min_eq_right less] at same
      linarith
    · rw [min_eq_right less] at same
      exact absurd (by linarith) other

/-- Every positive number lies in a cell of the grid that has all its bits, or the finest one. -/
theorem exists_cell {number : ℚ} (positive : 0 ≤ number) :
    ∃ cell power : ℤ, 0 ≤ cell ∧ cell < 2 ^ 53 ∧ -1074 ≤ power ∧
      (power = -1074 ∨ 2 ^ 52 ≤ cell) ∧ cell * 2 ^ power ≤ number ∧
      number < (cell + 1) * 2 ^ power := by
  rcases positive.eq_or_lt with rfl | positive
  · exact ⟨0, -1074, le_rfl, by norm_num, le_rfl, .inl rfl, by simp, by simp⟩
  -- The power is chosen by the leading bit of the number, if that is not too small.
  let power := max (-1074) (Int.log 2 number - 52)
  have unit : (0 : ℚ) < 2 ^ power := by positivity
  have upper : number / 2 ^ power < 2 ^ 53 := by
    rw [div_lt_iff₀ unit]
    calc number < 2 ^ (Int.log 2 number + 1) := by
          exact_mod_cast Int.lt_zpow_succ_log_self (b := 2) (by norm_num) number
      _ ≤ 2 ^ ((53 : ℤ) + power) := zpow_le_zpow_right₀ one_le_two (by omega)
      _ = 2 ^ 53 * 2 ^ power := by
          rw [zpow_add₀ two_ne_zero]
          norm_cast
  refine ⟨⌊number / 2 ^ power⌋, power, ?_, ?_, le_max_left _ _, ?_, ?_, ?_⟩
  · exact Int.floor_nonneg.mpr (by positivity)
  · -- The cell has no more bits than a double has.
    exact Int.floor_lt.mpr (by exact_mod_cast upper)
  · rcases le_or_gt (Int.log 2 number - 52) (-1074) with small | large
    · exact .inl (max_eq_left small)
    · right
      have chosen : power = Int.log 2 number - 52 := max_eq_right large.le
      -- The power was chosen so that the leading bit is the highest one of the cell.
      rw [Int.le_floor, le_div_iff₀ unit, chosen]
      calc ((2 ^ 52 : ℤ) : ℚ) * 2 ^ (Int.log 2 number - 52)
          = 2 ^ ((52 : ℤ) + (Int.log 2 number - 52)) := by
            rw [zpow_add₀ two_ne_zero]
            norm_cast
        _ = 2 ^ Int.log 2 number := by rw [add_sub_cancel]
        _ ≤ number := by exact_mod_cast Int.zpow_log_le_self (b := 2) (by norm_num) positive
  · rw [← le_div_iff₀ unit]
    exact Int.floor_le _
  · rw [← div_lt_iff₀ unit]
    exact Int.lt_floor_add_one _

/-- Every number rounds to a double. -/
theorem exists_roundsTo (number : ℚ) : ∃ x : Double, RoundsTo number x := by
  -- A negative number is rounded like its opposite.
  wlog positive : 0 ≤ number generalizing number
  · obtain ⟨x, rounds⟩ := this (-number) (by linarith)
    exact ⟨x.neg, by simpa using rounds.neg⟩
  obtain ⟨cell, power, start, short, least, normal, above, below⟩ := exists_cell positive
  have apart := Double.le_or_le normal
  obtain ⟨low, lowValue, lowEven⟩ := Double.exists_of_cell cell start short.le least normal
  obtain ⟨high, highValue, highEven⟩ := Double.exists_of_cell (cell + 1) (by omega)
    (by omega) least (normal.imp_right (by omega))
  push_cast at highValue
  rcases lt_trichotomy (number - cell * 2 ^ power) ((cell + 1) * 2 ^ power - number)
    with nearLow | tie | nearHigh
  · exact ⟨low, .of_neighbours apart above below.le (.inl ⟨lowValue, nearLow.le⟩)
      fun tie => absurd tie nearLow.ne⟩
  · -- One of two neighbours is even.
    rcases Int.even_or_odd cell with even | odd
    · exact ⟨low, .of_neighbours apart above below.le (.inl ⟨lowValue, tie.le⟩)
        fun _ => lowEven even⟩
    · exact ⟨high, .of_neighbours apart above below.le (.inr ⟨highValue, tie.ge⟩)
        fun _ => highEven odd.add_one⟩
  · exact ⟨high, .of_neighbours apart above below.le (.inr ⟨highValue, nearHigh.le⟩)
      fun tie => absurd tie nearHigh.ne'⟩

end nearest

section finite

/-- Up to some power, doubles end one step of it below the next power of two. -/
theorem Double.abs_value_le {x : Double} {highest : ℤ} (low : x.power ≤ highest) :
    |x.value| ≤ (2 ^ 53 - 1) * 2 ^ highest := by
  -- Both factors are bounded on their own.
  have bits : (|x.mantissa| : ℚ) ≤ 2 ^ 53 - 1 := by
    have short : |x.mantissa| ≤ 2 ^ 53 - 1 := Int.le_sub_one_of_lt x.short
    exact_mod_cast short
  have power : (2 : ℚ) ^ x.power ≤ 2 ^ highest := zpow_le_zpow_right₀ one_le_two low
  rw [Double.value, abs_mul, abs_of_pos (by positivity : (0 : ℚ) < 2 ^ x.power)]
  exact mul_le_mul bits power (by positivity) (by norm_num)

/-- Behind some power, doubles start at the next power of two. -/
theorem Double.le_abs_value {x : Double} {highest : ℤ} (least : -1074 ≤ highest)
    (high : highest < x.power) : 2 ^ 53 * 2 ^ highest ≤ |x.value| := by
  -- Above the least power the leading bit is set.
  have bits : (2 : ℚ) ^ 52 ≤ |(x.mantissa : ℚ)| := by
    have leading : 2 ^ 52 ≤ |x.mantissa| := x.normal.resolve_left (by omega)
    exact_mod_cast leading
  have power : (2 : ℚ) ^ highest * 2 ≤ 2 ^ x.power := by
    rw [← zpow_add_one₀ two_ne_zero]
    exact zpow_le_zpow_right₀ one_le_two high
  rw [Double.value, abs_mul, abs_of_pos (by positivity : (0 : ℚ) < 2 ^ x.power)]
  calc (2 : ℚ) ^ 53 * 2 ^ highest = 2 ^ 52 * (2 ^ highest * 2) := by ring
    _ ≤ |(x.mantissa : ℚ)| * 2 ^ x.power := by gcongr

/-- The largest double up to some power has all its bits set, and so it is odd. -/
theorem Double.odd_of_value_eq {x : Double} {highest : ℤ} (low : x.power ≤ highest)
    (largest : x.value = (2 ^ 53 - 1) * 2 ^ highest) : ¬Even x.mantissa := by
  obtain ⟨steps, shift⟩ := Int.le.dest low
  have unit : (2 : ℚ) ^ x.power ≠ 0 := by positivity
  have scaled : (x.mantissa : ℚ) = (2 ^ 53 - 1) * 2 ^ steps := by
    apply mul_right_cancel₀ unit
    rw [← Double.value, largest, ← shift, zpow_add₀ two_ne_zero, zpow_natCast]
    ring
  have whole : x.mantissa = (2 ^ 53 - 1) * 2 ^ steps := by exact_mod_cast scaled
  -- A lower power would need more bits than there are.
  cases steps with
  | zero =>
    rw [whole]
    decide
  | succ steps =>
    have short := (le_abs_self _).trans_lt x.short
    have positive : (0 : ℤ) < 2 ^ steps := by positivity
    rw [whole, pow_succ] at short
    omega

section ends

variable {highest : ℤ} (least : -1074 ≤ highest)

/-- The last double up to some power. -/
def Double.last : Double :=
  ⟨2 ^ 53 - 1, highest, by decide, least, .inr (by decide)⟩

/-- The first double behind some power. -/
def Double.next : Double :=
  ⟨2 ^ 52, highest + 1, by decide, by omega, .inr (by decide)⟩

/-- The last double up to some power is one step before the next power of two. -/
theorem Double.value_last : (Double.last least).value = (2 ^ 53 - 1) * 2 ^ highest := by
  -- All fifty-three bits are set.
  rw [Double.value, Double.last]
  push_cast
  ring

/-- The first double behind some power is the next power of two. -/
theorem Double.value_next : (Double.next least).value = 2 ^ 53 * 2 ^ highest := by
  -- The leading bit alone is half of what fifty-three bits can hold, at twice the unit.
  rw [Double.value, Double.next, zpow_add_one₀ two_ne_zero]
  push_cast
  ring

variable {number : ℚ} {x : Double}

include least

/-- A number that rounds to a double up to some power is below half a step behind the last one. -/
theorem RoundsTo.lt_of_power_le (rounds : RoundsTo number x) (low : x.power ≤ highest) :
    number < (2 ^ 53 - 1 / 2) * 2 ^ highest := by
  by_contra large
  have unit : (0 : ℚ) < 2 ^ highest := by positivity
  -- The last double of the power bounds what the rounding found.
  have below := (le_abs_self _).trans (Double.abs_value_le low)
  have toNext := rounds.nearest (Double.next least)
  rw [abs_of_nonneg (by linarith : 0 ≤ number - x.value), Double.value_next] at toNext
  rcases le_or_gt number (2 ^ 53 * 2 ^ highest) with inside | outside
  · -- The number is in the middle between the last double, which is odd, and the next one.
    rw [abs_of_nonpos (by linarith)] at toNext
    have largest : x.value = (2 ^ 53 - 1) * 2 ^ highest := by linarith
    have tie : |number - (Double.next least).value| = |number - x.value| := by
      rw [Double.value_next, largest, abs_of_nonpos (by linarith), abs_of_nonneg (by linarith)]
      linarith
    refine Double.odd_of_value_eq low largest (rounds.even (Double.next least) ?_ tie)
    rw [Double.value_next, largest]
    exact ne_of_gt (by linarith)
  · -- Past the next double, that one is nearer than anything below it.
    rw [abs_of_nonneg (by linarith)] at toNext
    linarith

/-- A number below half a step behind the last double up to some power rounds to one of them. -/
theorem RoundsTo.power_le_of_lt (rounds : RoundsTo number x) (positive : 0 ≤ number)
    (small : number < (2 ^ 53 - 1 / 2) * 2 ^ highest) : x.power ≤ highest := by
  by_contra high
  have behind := Double.le_abs_value least (not_le.mp high)
  have toLast := rounds.nearest (Double.last least)
  rw [Double.value_last] at toLast
  -- The last double is nearer than anything from the next power of two on, on either side.
  have close : |number - (2 ^ 53 - 1) * 2 ^ highest| < 2 ^ 53 * 2 ^ highest - number := by
    have unit : (0 : ℚ) < 2 ^ highest := by positivity
    rw [abs_lt]
    constructor <;> linarith
  -- The double is that far out on the negative side or on the positive one.
  rcases le_abs'.mp behind with left | right
  · have far := (le_abs_self _).trans toLast
    linarith
  · have far := (neg_le_abs _).trans toLast
    linarith

/--
Up to some power, exactly the numbers less than half a step behind its last double round to one.

Half a step behind it the next power of two is as near, and that is the even one of the two.
-/
theorem RoundsTo.power_le_iff (rounds : RoundsTo number x) :
    x.power ≤ highest ↔ |number| < (2 ^ 53 - 1 / 2) * 2 ^ highest := by
  -- Opposite numbers are rounded alike.
  wlog positive : 0 ≤ number generalizing number x
  · have mirrored := this rounds.neg (by linarith)
    rwa [abs_neg] at mirrored
  rw [abs_of_nonneg positive]
  exact ⟨rounds.lt_of_power_le least, rounds.power_le_of_lt least positive⟩

end ends

/-- A number rounds to a finite double exactly if its magnitude is below the limit. -/
theorem roundsToFinite_iff (number : ℚ) :
    RoundsToFinite number ↔ |number| < 2 ^ 1024 - 2 ^ 970 := by
  -- The largest stored power is 971, and the limit lies half a step behind the last double of it.
  have limit : ((2 : ℚ) ^ 53 - 1 / 2) * 2 ^ (971 : ℤ) = 2 ^ 1024 - 2 ^ 970 := by
    have power : (2 : ℚ) ^ 1024 = 2 ^ 54 * 2 ^ 970 := pow_add 2 54 970
    have unit : (2 : ℚ) ^ (971 : ℤ) = 2 * 2 ^ 970 := (zpow_natCast 2 971).trans (pow_succ' 2 970)
    rw [power, unit]
    -- Without this, the large power would be formed as a number.
    generalize (2 : ℚ) ^ 970 = place
    ring
  rw [← limit]
  constructor
  · rintro ⟨x, rounds, finite⟩
    exact (rounds.power_le_iff (by decide)).mp (x.isFinite_iff.mp finite)
  · intro small
    obtain ⟨x, rounds⟩ := exists_roundsTo number
    exact ⟨x, rounds, x.isFinite_iff.mpr ((rounds.power_le_iff (by decide)).mpr small)⟩

end finite

end SqlWriter
