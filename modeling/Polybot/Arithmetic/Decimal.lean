import Mathlib.Algebra.Order.Round
import Mathlib.Data.Int.ConditionallyCompleteOrder
import Mathlib.Data.Int.Log
import Mathlib.Tactic.Linarith
import Mathlib.Tactic.Ring

/-!
Decimal rounding.

`roundDigits` rounds to a number of significant digits, halves to the even digit;
`roundPlaces` rounds to a number of places, halves away from zero. A decimal with fewer
digits is the rounding of exactly the numbers within half a unit of the last digit
(`roundDigits_eq_iff`): its own last digit is even there, so a tie falls on it.
-/

namespace Decimal

variable {K : Type} [Field K] [LinearOrder K] [IsStrictOrderedRing K] [FloorRing K]

/-- The nearest integer, the even one of two. -/
def halfEven (x : K) : ℤ :=
  if Even ⌊x⌋ then ⌈x - 1 / 2⌉ else ⌊x + 1 / 2⌋

/-- The nearest integer, the one away from zero of two. -/
def halfAway (x : K) : ℤ :=
  if 0 ≤ x then round x else -round (-x)

/-- The unit of the last of `digits` significant digits of `x`. -/
def ulp (digits : ℕ) (x : K) : K :=
  10 ^ (Int.log 10 |x| + 1 - digits)

def roundDigits (digits : ℕ) (x : K) : K :=
  ulp digits x * halfEven (x / ulp digits x)

def roundPlaces (places : ℕ) (x : K) : K :=
  halfAway (x * 10 ^ places) / 10 ^ places

variable {x : K} {m n k : ℤ} {digits places : ℕ}

theorem abs_sub_halfEven_le (x : K) : |x - halfEven x| ≤ 1 / 2 := by
  unfold halfEven
  rw [abs_le]
  split
  · have below := Int.le_ceil (x - 1 / 2)
    have above := Int.ceil_lt_add_one (x - 1 / 2)
    constructor <;> linarith
  · have below := Int.floor_le (x + 1 / 2)
    have above := Int.lt_floor_add_one (x + 1 / 2)
    constructor <;> linarith

/-- A tie falls on the even integer. -/
theorem halfEven_eq_iff (even : Even n) : halfEven x = n ↔ |x - n| ≤ 1 / 2 := by
  refine ⟨fun same => same ▸ abs_sub_halfEven_le x, fun near => ?_⟩
  obtain ⟨least, most⟩ := abs_le.mp near
  unfold halfEven
  split
  · rename_i floorEven
    rw [Int.ceil_eq_iff]
    refine ⟨?_, by linarith⟩
    by_contra tie
    -- Half a unit below `n`, where the floor would be odd.
    have floor : ⌊x⌋ = n - 1 := by
      rw [Int.floor_eq_iff]
      push_cast
      constructor <;> linarith
    rw [floor] at floorEven
    exact (Int.even_sub_one.mp floorEven) even
  · rename_i floorOdd
    rw [Int.floor_eq_iff]
    refine ⟨by linarith, ?_⟩
    by_contra tie
    have floor : ⌊x⌋ = n := by
      rw [Int.floor_eq_iff]
      constructor <;> linarith
    exact floorOdd (floor ▸ even)

theorem halfEven_intCast (n : ℤ) : halfEven (n : K) = n := by
  unfold halfEven
  split
  · rw [Int.ceil_eq_iff]
    constructor <;> linarith
  · rw [Int.floor_eq_iff]
    constructor <;> linarith

theorem ulp_pos (digits : ℕ) (x : K) : 0 < ulp digits x :=
  zpow_pos (by norm_num) _

theorem abs_sub_roundDigits_le (digits : ℕ) (x : K) :
    |x - roundDigits digits x| ≤ ulp digits x / 2 := by
  have unit := ulp_pos digits x
  have scaled : x - roundDigits digits x =
      ulp digits x * (x / ulp digits x - halfEven (x / ulp digits x)) := by
    rw [roundDigits, mul_sub, mul_div_cancel₀ _ unit.ne']
  rw [scaled, abs_mul, abs_of_pos unit]
  have near := abs_sub_halfEven_le (x / ulp digits x)
  calc ulp digits x * |x / ulp digits x - halfEven (x / ulp digits x)|
      ≤ ulp digits x * (1 / 2) := mul_le_mul_of_nonneg_left near unit.le
    _ = ulp digits x / 2 := by ring

@[simp] theorem roundDigits_zero (digits : ℕ) : roundDigits digits (0 : K) = 0 := by
  have zero : halfEven (0 : K) = 0 := by exact_mod_cast halfEven_intCast (K := K) 0
  rw [roundDigits, zero_div, zero, Int.cast_zero, mul_zero]

/-- A positive number is at least as large as its first digit. -/
theorem ulp_mul_le (positive : 0 < x) : 10 ^ digits * ulp (digits + 1) x ≤ x := by
  have whole : (10 : K) ^ digits * ulp (digits + 1) x = 10 ^ Int.log 10 x := by
    rw [ulp, abs_of_pos positive, ← zpow_natCast, ← zpow_add₀ (by norm_num)]
    congr 1
    push_cast
    ring
  rw [whole]
  exact_mod_cast Int.zpow_log_le_self (by norm_num : 1 < 10) positive

theorem roundDigits_pos (positive : 0 < x) : 0 < roundDigits (digits + 1) x := by
  have unit := ulp_pos (digits + 1) x
  have leading : ulp (digits + 1) x ≤ x :=
    (le_mul_of_one_le_left unit.le (one_le_pow₀ (by norm_num))).trans (ulp_mul_le positive)
  have near := (abs_le.mp (abs_sub_roundDigits_le (digits + 1) x)).2
  linarith

/-- Rounding to an even multiple of the unit. -/
theorem roundDigits_eq_even_iff (even : Even n) :
    roundDigits digits x = n * ulp digits x ↔ |x - n * ulp digits x| ≤ ulp digits x / 2 := by
  have unit := ulp_pos digits x
  have scaled : |x - n * ulp digits x| = ulp digits x * |x / ulp digits x - n| := by
    rw [← abs_of_pos unit, ← abs_mul, abs_of_pos unit, mul_sub, mul_div_cancel₀ _ unit.ne',
      mul_comm (n : K)]
  rw [roundDigits, mul_comm, mul_left_inj' unit.ne', Int.cast_inj, halfEven_eq_iff even, scaled,
    div_eq_mul_one_div (ulp digits x), mul_le_mul_iff_right₀ unit]

/-- The positive numbers that round to a decimal with fewer digits. -/
theorem roundDigits_eq_iff (positive : 0 < x) (fewer : |m| < 10 ^ digits) :
    roundDigits (digits + 1) x = m * 10 ^ k ↔
      |x - m * 10 ^ k| ≤ ulp (digits + 1) x / 2 := by
  refine ⟨fun same => same ▸ abs_sub_roundDigits_le (digits + 1) x, fun near => ?_⟩
  have unit := ulp_pos (digits + 1) x
  have exponent : ulp (digits + 1) x = 10 ^ (Int.log 10 x - digits) := by
    rw [ulp, abs_of_pos positive]
    congr 1
    push_cast
    ring
  have leading : 10 ^ digits * ulp (digits + 1) x ≤ x := ulp_mul_le positive
  have most : (m : K) ≤ 10 ^ digits - 1 := by
    have bound : m ≤ 10 ^ digits - 1 := Int.le_sub_one_of_lt ((le_abs_self m).trans_lt fewer)
    exact_mod_cast bound
  -- A decimal in finer units would stay a whole unit below `x`.
  have coarse : Int.log 10 x - digits + 1 ≤ k := by
    by_contra fine
    have small : (10 : K) ^ k ≤ ulp (digits + 1) x := by
      rw [exponent]
      exact zpow_le_zpow_right₀ (by norm_num) (by omega)
    have room : (0 : K) ≤ 10 ^ digits - 1 := sub_nonneg.mpr (one_le_pow₀ (by norm_num))
    have below : (m : K) * 10 ^ k ≤ 10 ^ digits * ulp (digits + 1) x - ulp (digits + 1) x :=
      calc (m : K) * 10 ^ k ≤ (10 ^ digits - 1) * 10 ^ k :=
            mul_le_mul_of_nonneg_right most (zpow_pos (by norm_num) k).le
        _ ≤ (10 ^ digits - 1) * ulp (digits + 1) x := mul_le_mul_of_nonneg_left small room
        _ = 10 ^ digits * ulp (digits + 1) x - ulp (digits + 1) x := by rw [sub_mul, one_mul]
    have := (abs_le.mp near).2
    linarith
  obtain ⟨j, rfl⟩ := Int.le.dest coarse
  have multiple : (m : K) * 10 ^ (Int.log 10 x - digits + 1 + j) =
      ((m * 10 ^ j * 10 : ℤ) : K) * ulp (digits + 1) x := by
    rw [exponent, zpow_add₀ (by norm_num), zpow_add₀ (by norm_num), zpow_natCast]
    push_cast
    ring
  rw [multiple] at near ⊢
  exact (roundDigits_eq_even_iff ((by decide : Even (10 : ℤ)).mul_left _)).mpr near

/-- A number with few enough digits is left as it is. -/
theorem roundDigits_of_fits (fits : |m| < 10 ^ digits) :
    roundDigits digits ((m : K) * 10 ^ k) = m * 10 ^ k := by
  have unit := ulp_pos digits ((m : K) * 10 ^ k)
  suffices multiple : ∃ n : ℤ, (m : K) * 10 ^ k = n * ulp digits ((m : K) * 10 ^ k) by
    obtain ⟨n, same⟩ := multiple
    have quotient : (m : K) * 10 ^ k / ulp digits ((m : K) * 10 ^ k) = n := by
      rw [div_eq_iff unit.ne']
      exact same
    rw [roundDigits, quotient, halfEven_intCast, mul_comm]
    exact same.symm
  by_cases zero : m = 0
  · exact ⟨0, by simp [zero]⟩
  have size : |(m : K) * 10 ^ k| < 10 ^ (digits + k : ℤ) := by
    rw [abs_mul, abs_of_pos (zpow_pos (by norm_num : (0 : K) < 10) k), zpow_add₀ (by norm_num),
      zpow_natCast]
    refine mul_lt_mul_of_pos_right ?_ (zpow_pos (by norm_num) k)
    exact_mod_cast fits
  have nonzero : 0 < |(m : K) * 10 ^ k| :=
    abs_pos.mpr (mul_ne_zero (Int.cast_ne_zero.mpr zero) (zpow_ne_zero k (by norm_num)))
  have exponent : Int.log 10 |(m : K) * 10 ^ k| < digits + k :=
    (Int.lt_zpow_iff_log_lt (by norm_num) nonzero).mp (by exact_mod_cast size)
  have coarse : Int.log 10 |(m : K) * 10 ^ k| + 1 - digits ≤ k := by omega
  obtain ⟨j, split⟩ := Int.le.dest coarse
  refine ⟨m * 10 ^ j, ?_⟩
  rw [ulp]
  generalize Int.log 10 |(m : K) * 10 ^ k| + 1 - (digits : ℤ) = e at split
  subst split
  rw [zpow_add₀ (by norm_num), zpow_natCast]
  push_cast
  ring

/-- No decimal with the same number of places is nearer. -/
theorem roundPlaces_nearest (nonneg : 0 ≤ x) (m : ℤ) :
    |x - roundPlaces places x| ≤ |x - m / 10 ^ places| := by
  have unit : (0 : K) < 10 ^ places := by positivity
  have scaled : ∀ n : ℤ, |x - n / 10 ^ places| = |x * 10 ^ places - n| / 10 ^ places := by
    intro n
    rw [← abs_of_pos unit, ← abs_div, abs_of_pos unit, sub_div, mul_div_cancel_right₀ _ unit.ne']
  rw [roundPlaces, scaled, scaled, halfAway, if_pos (mul_nonneg nonneg unit.le)]
  exact div_le_div_of_nonneg_right (round_le _ m) unit.le

theorem abs_sub_halfAway_le (x : K) : |x - halfAway x| ≤ 1 / 2 := by
  unfold halfAway
  split
  · exact abs_sub_round x
  · have near := abs_sub_round (-x)
    rw [← abs_neg] at near
    push_cast
    convert near using 2
    ring

theorem halfAway_intCast (n : ℤ) : halfAway (n : K) = n := by
  unfold halfAway
  split
  · exact round_intCast n
  · rw [← Int.cast_neg, round_intCast, neg_neg]

theorem halfAway_mono : Monotone (halfAway : K → ℤ) := by
  intro x y le
  have up : ∀ {a b : K}, a ≤ b → round a ≤ round b := by
    intro a b le
    rw [round_eq, round_eq]
    exact Int.floor_mono (by linarith)
  unfold halfAway
  by_cases left : 0 ≤ x
  · rw [if_pos left, if_pos (left.trans le)]
    exact up le
  rw [if_neg left]
  by_cases right : 0 ≤ y
  · rw [if_pos right]
    have below : (0 : ℤ) ≤ round (-x) := by
      simpa using up (show (0 : K) ≤ -x by linarith)
    have above : (0 : ℤ) ≤ round y := by simpa using up right
    omega
  · rw [if_neg right]
    exact Int.neg_le_neg (up (by linarith))

theorem abs_sub_roundPlaces_le (places : ℕ) (x : K) :
    |x - roundPlaces places x| ≤ 1 / 2 / 10 ^ places := by
  have unit : (0 : K) < 10 ^ places := by positivity
  have scaled : x - roundPlaces places x =
      (x * 10 ^ places - halfAway (x * 10 ^ places)) / 10 ^ places := by
    rw [roundPlaces, sub_div, mul_div_cancel_right₀ _ unit.ne']
  rw [scaled, abs_div, abs_of_pos unit]
  exact div_le_div_of_nonneg_right (abs_sub_halfAway_le _) unit.le

theorem roundPlaces_mono (places : ℕ) : Monotone (roundPlaces places : K → K) := by
  intro x y le
  have unit : (0 : K) < 10 ^ places := by positivity
  refine div_le_div_of_nonneg_right (Int.cast_le.mpr (halfAway_mono ?_)) unit.le
  exact mul_le_mul_of_nonneg_right le unit.le

theorem roundPlaces_intCast (places : ℕ) (n : ℤ) : roundPlaces places (n : K) = n := by
  have unit : (0 : K) < 10 ^ places := by positivity
  have whole : (n : K) * 10 ^ places = ((n * 10 ^ places : ℤ) : K) := by push_cast; rfl
  rw [roundPlaces, whole, halfAway_intCast, ← whole, mul_div_cancel_right₀ _ unit.ne']

end Decimal
