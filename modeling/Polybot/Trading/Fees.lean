import Mathlib.Algebra.Order.Floor.Ring
import Mathlib.Data.Rat.Floor
import Mathlib.Tactic.FieldSimp
import Mathlib.Tactic.GCongr
import Mathlib.Tactic.Positivity
import Polybot.Collections.Text
import Polybot.Trading.Models

/-!
The fee curve and the size grid (`polybot/fees.py`).

`Decimal.__pow__` is a parameter with the two laws that the bound of a signed BUY
rests on. `estimatedFeePerShare_le` is that bound for one fill: no fill at or below
the limit is charged more than `maximum_buy_cost` reserves.
-/

namespace Polybot

/-- A power of a non-negative base with a positive exponent is non-negative and
grows with its base. -/
structure DecimalPower where
  pow : ℚ → ℚ → ℚ
  nonneg : ∀ {base exponent : ℚ}, 0 ≤ base → 0 < exponent → 0 ≤ pow base exponent
  mono : ∀ {base larger exponent : ℚ}, 0 ≤ base → base ≤ larger → 0 < exponent →
    pow base exponent ≤ pow larger exponent

/-- The exact powers with whole exponents. -/
def DecimalPower.whole : DecimalPower where
  pow base exponent := base ^ exponent.floor.toNat
  nonneg nonneg _ := pow_nonneg nonneg _
  mono nonneg le _ := pow_le_pow_left₀ nonneg le _

/-! ### The size grid -/

/-- `Decimal.__floordiv__`, which rounds towards zero. -/
def floorDiv (a b : ℚ) : ℤ :=
  if 0 ≤ a / b then ⌊a / b⌋ else ⌈a / b⌉

/-- `quantize_down`, which refuses a step that is not positive. -/
def quantizeDown (value : ℚ) (step : {step : ℚ // 0 < step}) : ℚ :=
  floorDiv value step * step

/-- The grid of order sizes. -/
def sizeStep : {step : ℚ // 0 < step} := ⟨1 / 100, by norm_num⟩

section Grid

variable {value : ℚ} {step : {step : ℚ // 0 < step}}

/-- A whole number of steps stays. -/
theorem quantizeDown_whole (count : ℤ) : quantizeDown (count * step) step = count * step := by
  have quotient : (count * step : ℚ) / step = count := mul_div_cancel_right₀ _ step.2.ne'
  unfold quantizeDown floorDiv
  rw [quotient]
  split <;> simp

theorem quantizeDown_count (count : ℕ) : quantizeDown (count * step) step = count * step := by
  exact_mod_cast quantizeDown_whole (count : ℤ)

theorem quantizeDown_le (nonneg : 0 ≤ value) : quantizeDown value step ≤ value := by
  have quotient : 0 ≤ value / step := div_nonneg nonneg step.2.le
  unfold quantizeDown floorDiv
  rw [if_pos quotient]
  calc (⌊value / step⌋ : ℚ) * step ≤ value / step * step :=
        mul_le_mul_of_nonneg_right (Int.floor_le _) step.2.le
    _ = value := div_mul_cancel₀ _ step.2.ne'

theorem quantizeDown_nonneg (nonneg : 0 ≤ value) : 0 ≤ quantizeDown value step := by
  have quotient : 0 ≤ value / step := div_nonneg nonneg step.2.le
  unfold quantizeDown floorDiv
  rw [if_pos quotient]
  exact mul_nonneg (Int.cast_nonneg (Int.floor_nonneg.mpr quotient)) step.2.le

/-- Less than one step is cut off. -/
theorem sub_quantizeDown_lt (nonneg : 0 ≤ value) : value - quantizeDown value step < step := by
  have quotient : 0 ≤ value / step := div_nonneg nonneg step.2.le
  have next : value / step * step < (⌊value / step⌋ + 1) * step :=
    mul_lt_mul_of_pos_right (Int.lt_floor_add_one _) step.2
  rw [div_mul_cancel₀ _ step.2.ne'] at next
  unfold quantizeDown floorDiv
  rw [if_pos quotient]
  linarith

/-- Cutting does not raise a negative value above zero. -/
theorem quantizeDown_nonpos (nonpos : value ≤ 0) : quantizeDown value step ≤ 0 := by
  have quotient : value / step ≤ 0 := div_nonpos_of_nonpos_of_nonneg nonpos step.2.le
  have ceiling : ⌈value / step⌉ ≤ 0 := Int.ceil_le.mpr (by exact_mod_cast quotient)
  have floor : ⌊value / step⌋ ≤ 0 := (Int.floor_le_ceil _).trans ceiling
  unfold quantizeDown floorDiv
  split
  · exact mul_nonpos_of_nonpos_of_nonneg (by exact_mod_cast floor) step.2.le
  · exact mul_nonpos_of_nonpos_of_nonneg (by exact_mod_cast ceiling) step.2.le

theorem quantizeDown_mono {larger : ℚ} (le : value ≤ larger) :
    quantizeDown value step ≤ quantizeDown larger step := by
  have quotients : value / step ≤ larger / step := div_le_div_of_nonneg_right le step.2.le
  refine mul_le_mul_of_nonneg_right (Int.cast_le.mpr ?_) step.2.le
  unfold floorDiv
  split
  · rename_i nonneg
    rw [if_pos (nonneg.trans quotients)]
    exact Int.floor_mono quotients
  · rename_i negative
    split
    · rename_i nonneg
      have below : ⌈value / step⌉ ≤ 0 := Int.ceil_le.mpr (by exact_mod_cast (not_le.mp negative).le)
      exact below.trans (Int.floor_nonneg.mpr nonneg)
    · exact Int.ceil_mono quotients

end Grid

/-! ### Fees -/

/-- What the fee functions read of a market. -/
structure FeeSchedule where
  enabled : Bool
  rate : ℚ
  exponent : ℚ
  exponent_pos : 0 < exponent

def MarketSpec.feeSchedule (market : MarketSpec) : FeeSchedule :=
  ⟨market.feesEnabled, market.feeRate, market.feeExponent, market.feeExponent_pos⟩

variable (power : DecimalPower)

/-- `estimated_fee_per_share`. -/
def estimatedFeePerShare (price : ℚ) (fees : FeeSchedule) : ℚ :=
  if fees.enabled = false ∨ fees.rate ≤ 0 then 0
  else if price ≤ 0 ∨ 1 ≤ price then 0
  else fees.rate * power.pow (price * (1 - price)) fees.exponent

/-- `maximum_buy_cost`. -/
def maximumBuyCost (size limitPrice : ℚ) (fees : FeeSchedule) : ℚ :=
  size * (limitPrice + 2 * estimatedFeePerShare power (min limitPrice (1 / 2)) fees)

variable {power} {fees : FeeSchedule} {price limitPrice size : ℚ}

theorem estimatedFeePerShare_nonneg : 0 ≤ estimatedFeePerShare power price fees := by
  unfold estimatedFeePerShare
  split
  · exact le_rfl
  · rename_i charged
    split
    · exact le_rfl
    · rename_i inside
      rw [not_or, not_le] at charged
      rw [not_or, not_le, not_le] at inside
      have term : 0 ≤ price * (1 - price) := mul_nonneg inside.1.le (by linarith)
      exact mul_nonneg charged.2.le (power.nonneg term fees.exponent_pos)

/-- The curve rises up to one half and is symmetric. -/
theorem probabilityTerm_le (below : price ≤ limitPrice) :
    price * (1 - price) ≤ min limitPrice (1 / 2) * (1 - min limitPrice (1 / 2)) := by
  rcases le_total limitPrice (1 / 2) with low | high
  · rw [min_eq_left low]
    have rising : 0 ≤ (limitPrice - price) * (1 - price - limitPrice) :=
      mul_nonneg (by linarith) (by linarith)
    linarith
  · rw [min_eq_right high]
    have square : 0 ≤ (price - 1 / 2) ^ 2 := sq_nonneg _
    linarith

/-- A fill below the limit is charged at most the fee at the limit, or at one
half. -/
theorem estimatedFeePerShare_le (limit_lt_one : limitPrice < 1) (price_pos : 0 < price)
    (below : price ≤ limitPrice) :
    estimatedFeePerShare power price fees ≤
      estimatedFeePerShare power (min limitPrice (1 / 2)) fees := by
  unfold estimatedFeePerShare
  split
  · exact le_rfl
  · rename_i charged
    rw [not_or, not_le] at charged
    have capped : ¬ (min limitPrice (1 / 2) ≤ 0 ∨ 1 ≤ min limitPrice (1 / 2)) := by
      rw [not_or, not_le, not_le]
      exact ⟨lt_min (by linarith) (by norm_num), min_lt_of_left_lt limit_lt_one⟩
    rw [if_neg capped, if_neg (by rw [not_or, not_le, not_le]; exact ⟨price_pos, by linarith⟩)]
    have term : 0 ≤ price * (1 - price) := mul_nonneg price_pos.le (by linarith)
    exact mul_le_mul_of_nonneg_left
      (power.mono term (probabilityTerm_le below) fees.exponent_pos)
      charged.2.le

theorem maximumBuyCost_pos (size_pos : 0 < size) (limit_pos : 0 < limitPrice) :
    0 < maximumBuyCost power size limitPrice fees := by
  have fee : 0 ≤ estimatedFeePerShare power (min limitPrice (1 / 2)) fees :=
    estimatedFeePerShare_nonneg
  exact mul_pos size_pos (by linarith)

/-- More shares at a higher limit cost more. -/
theorem maximumBuyCost_mono {moreShares higherLimit : ℚ} (shares : size ≤ moreShares)
    (nonneg : 0 ≤ moreShares) (limit_pos : 0 < limitPrice) (limits : limitPrice ≤ higherLimit)
    (limit_lt_one : higherLimit < 1) :
    maximumBuyCost power size limitPrice fees ≤
      maximumBuyCost power moreShares higherLimit fees := by
  have rising : estimatedFeePerShare power (min limitPrice (1 / 2)) fees ≤
      estimatedFeePerShare power (min higherLimit (1 / 2)) fees :=
    estimatedFeePerShare_le limit_lt_one (lt_min limit_pos (by norm_num))
      ((min_le_left _ _).trans limits)
  have fee : 0 ≤ estimatedFeePerShare power (min limitPrice (1 / 2)) fees :=
    estimatedFeePerShare_nonneg
  exact mul_le_mul shares (by linarith) (by linarith) nonneg

/-! ### Matched fees -/

/-- `Decimal.quantize` with `ROUND_HALF_UP`, which rounds halves away from zero. -/
def quantizeHalfUp (value : ℚ) (step : {step : ℚ // 0 < step}) : ℚ :=
  if 0 ≤ value then ⌊value / step + 1 / 2⌋ * step else ⌈value / step - 1 / 2⌉ * step

theorem quantizeHalfUp_nonneg {value : ℚ} {step : {step : ℚ // 0 < step}} (nonneg : 0 ≤ value) :
    0 ≤ quantizeHalfUp value step := by
  unfold quantizeHalfUp
  rw [if_pos nonneg]
  have quotient : 0 ≤ value / step := div_nonneg nonneg step.2.le
  have floor : (0 : ℤ) ≤ ⌊value / step + 1 / 2⌋ := Int.floor_nonneg.mpr (by linarith)
  exact mul_nonneg (Int.cast_nonneg floor) step.2.le

/-- The grid of matched fees. -/
def feeStep : {step : ℚ // 0 < step} := ⟨1 / 100000, by norm_num⟩

/-- `matched_taker_fee_usd`. -/
def matchedTakerFeeUsd (size price feeRateBps : ℚ) (traderSide : Option String) : ℚ :=
  if size ≤ 0 ∨ price ≤ 0 ∨ 1 ≤ price ∨ feeRateBps ≤ 0 then 0
  else if Text.upper (traderSide.getD "") = "MAKER" then 0
  else quantizeHalfUp (size * (feeRateBps / 10000) * price * (1 - price)) feeStep

theorem matchedTakerFeeUsd_nonneg {size price feeRateBps : ℚ} {traderSide : Option String} :
    0 ≤ matchedTakerFeeUsd size price feeRateBps traderSide := by
  unfold matchedTakerFeeUsd
  split
  · exact le_rfl
  · rename_i charged
    split
    · exact le_rfl
    · rw [not_or, not_or, not_or, not_le, not_le, not_le, not_le] at charged
      obtain ⟨size_pos, price_pos, price_lt, rate_pos⟩ := charged
      have rest : 0 < 1 - price := by linarith
      exact quantizeHalfUp_nonneg (by positivity)

end Polybot
