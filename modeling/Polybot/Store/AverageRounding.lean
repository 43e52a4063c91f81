import Mathlib.Data.Rat.Floor
import Polybot.Arithmetic.Decimal
import Polybot.Store.PairRpc

/-!
The two average prices of a fill.

`record_fill` computes the new average with `Decimal`, which rounds every result to 28
significant digits, halves to even. `commit_pair_fill` computes it again with `numeric`,
whose sums and products are exact and whose quotient is rounded to a scale of the
server's choosing, and demands equality. An average that does not terminate early is two
different decimals (`average_accepted_iff`).
-/

namespace Polybot

open Decimal

/-- The result of a `Decimal` operation in the default context. -/
def inContext (x : ℚ) : ℚ :=
  roundDigits 28 x

/-- A `numeric` quotient with `scale` places. -/
def numericQuotient (scale : ℕ) (dividend divisor : ℚ) : ℚ :=
  roundPlaces scale (dividend / divisor)

/-- The rounded quotient has fewer than 28 significant digits. -/
def FewerDigits (scale : ℕ) (dividend divisor : ℚ) : Prop :=
  |halfAway (dividend / divisor * 10 ^ scale)| < 10 ^ 27

/-- A decimal with at most 28 significant digits. -/
def Representable (x : ℚ) : Prop :=
  ∃ m k : ℤ, |m| < 10 ^ 28 ∧ x = m * 10 ^ k

namespace OrderLeg

variable (leg : OrderLeg) (size price : ℚ)

/-- The price paid for all fills, as the database computes it. -/
def filledValue : ℚ :=
  leg.averageFillPrice.getD 0 * leg.filledSize + price * size

/-- The average price of all fills. -/
def exactAverage : ℚ :=
  leg.filledValue size price / (leg.filledSize + size)

/-- `previous_value + price * size` of `record_fill`. -/
def computedValue : ℚ :=
  inContext (inContext (leg.averageFillPrice.getD 0 * leg.filledSize) + inContext (price * size))

/-- `new_filled` of `record_fill`. -/
def computedFilled : ℚ :=
  inContext (leg.filledSize + size)

/-- `average` of `record_fill`. -/
def computedAverage : ℚ :=
  inContext (leg.computedValue size price / leg.computedFilled size)

/-- The sums and products of `record_fill` have at most 28 significant digits. -/
structure ExactOperands : Prop where
  previous : Representable (leg.averageFillPrice.getD 0 * leg.filledSize)
  added : Representable (price * size)
  value : Representable (leg.filledValue size price)
  filled : Representable (leg.filledSize + size)

end OrderLeg

/-- `commit_pair_fill` does not raise "pair fill average price is inconsistent". -/
def AverageAccepted (leg : OrderLeg) (size price : ℚ) (scale : ℕ) : Prop :=
  leg.computedAverage size price =
    numericQuotient scale (leg.filledValue size price) (leg.filledSize + size)

instance (leg : OrderLeg) (size price : ℚ) (scale : ℕ) :
    Decidable (AverageAccepted leg size price scale) :=
  inferInstanceAs (Decidable (_ = _))

instance (scale : ℕ) (dividend divisor : ℚ) : Decidable (FewerDigits scale dividend divisor) :=
  inferInstanceAs (Decidable (_ < _))

/-- The exact average is within half a unit of its 28th digit of a decimal with `scale`
places. -/
def TerminatesWithin (leg : OrderLeg) (size price : ℚ) (scale : ℕ) : Prop :=
  ∃ m : ℤ, |leg.exactAverage size price - m / 10 ^ scale| ≤ ulp 28 (leg.exactAverage size price) / 2

/-- The quotient of the operands that `Decimal` rounded is within half a unit of its 28th
digit of the exact average, rounded to `scale` places. -/
def QuotientsMeet (leg : OrderLeg) (size price : ℚ) (scale : ℕ) : Prop :=
  |leg.computedValue size price / leg.computedFilled size -
      roundPlaces scale (leg.exactAverage size price)| ≤
    ulp 28 (leg.computedValue size price / leg.computedFilled size) / 2

/-- The average terminates within the scale, but for half a unit of the 28th digit. Where
already an operand has more than 28 digits, its rounding counts too. -/
structure AverageTerminates (leg : OrderLeg) (size price : ℚ) (scale : ℕ) : Prop where
  exact : leg.ExactOperands size price → TerminatesWithin leg size price scale
  rounded : ¬ leg.ExactOperands size price → QuotientsMeet leg size price scale

variable {leg : OrderLeg} {size price feeUsd x dividend divisor : ℚ} {scale : ℕ}

/-- Without rounding the average is the one of `applyFill`. -/
theorem applyFill_exactAverage (timestamp : Instant) :
    (leg.applyFill size price feeUsd timestamp).averageFillPrice =
      some (leg.exactAverage size price) := rfl

/-- Without rounding `commit_pair_fill` asks for the same. -/
theorem averagePrice_iff_exact {before after : OrderLeg} {fill : FillPayload} :
    AveragePrice before after fill ↔ ∀ average ∈ after.averageFillPrice,
      average = before.exactAverage fill.size fill.price := Iff.rfl

theorem inContext_of_representable (fits : Representable x) : inContext x = x := by
  obtain ⟨m, k, digits, rfl⟩ := fits
  exact roundDigits_of_fits digits

theorem inContext_pos (positive : 0 < x) : 0 < inContext x :=
  show 0 < roundDigits (27 + 1) x from roundDigits_pos positive

theorem OrderLeg.ExactOperands.computedAverage (exact : leg.ExactOperands size price) :
    leg.computedValue size price / leg.computedFilled size = leg.exactAverage size price := by
  have value : leg.computedValue size price = leg.filledValue size price := by
    rw [OrderLeg.computedValue, inContext_of_representable exact.previous,
      inContext_of_representable exact.added]
    exact inContext_of_representable exact.value
  rw [value, OrderLeg.computedFilled, inContext_of_representable exact.filled,
    OrderLeg.exactAverage]

theorem OrderLeg.Valid.paid_nonneg (valid : leg.Valid) :
    0 ≤ leg.averageFillPrice.getD 0 * leg.filledSize := by
  refine mul_nonneg ?_ valid.fields.filled
  cases average : leg.averageFillPrice with
  | none => exact le_rfl
  | some known => exact (valid.fields.average known average).1.le

/-- `Decimal` divides positive numbers. -/
theorem OrderLeg.Valid.computed_pos (valid : leg.Valid) (economics : FillEconomics size price feeUsd) :
    0 < leg.computedValue size price / leg.computedFilled size := by
  have previous : 0 ≤ inContext (leg.averageFillPrice.getD 0 * leg.filledSize) := by
    rcases valid.paid_nonneg.eq_or_lt with zero | positive
    · rw [← zero, inContext, roundDigits_zero]
    · exact (inContext_pos positive).le
  have added := inContext_pos (mul_pos economics.price_bounds.1 economics.size_pos)
  exact div_pos (inContext_pos (add_pos_of_nonneg_of_pos previous added))
    (inContext_pos (add_pos_of_nonneg_of_pos valid.fields.filled economics.size_pos))

/-- `Decimal` and `numeric` agree on a quotient exactly where they meet. -/
theorem inContext_eq_numericQuotient_iff (positive : 0 < x)
    (fewer : FewerDigits scale dividend divisor) :
    inContext x = numericQuotient scale dividend divisor ↔
      |x - numericQuotient scale dividend divisor| ≤ ulp 28 x / 2 := by
  have decimal : numericQuotient scale dividend divisor =
      (halfAway (dividend / divisor * 10 ^ scale) : ℚ) * 10 ^ (-scale : ℤ) := by
    rw [numericQuotient, roundPlaces, zpow_neg, zpow_natCast, div_eq_mul_inv]
  rw [decimal]
  exact roundDigits_eq_iff positive fewer

/-- Where the operands are exact the quotients meet exactly if the average terminates. -/
theorem quotientsMeet_iff (valid : leg.Valid) (economics : FillEconomics size price feeUsd)
    (exact : leg.ExactOperands size price) :
    QuotientsMeet leg size price scale ↔ TerminatesWithin leg size price scale := by
  have positive := valid.computed_pos economics
  unfold QuotientsMeet
  rw [exact.computedAverage] at positive ⊢
  constructor
  · exact fun near => ⟨halfAway (leg.exactAverage size price * 10 ^ scale), near⟩
  · rintro ⟨m, near⟩
    exact (roundPlaces_nearest positive.le m).trans near

/-- For every leg, every fill and every scale that leaves fewer than 28 digits, the
average is accepted exactly where it terminates. -/
theorem average_accepted_iff (valid : leg.Valid) (economics : FillEconomics size price feeUsd)
    (fewer : FewerDigits scale (leg.filledValue size price) (leg.filledSize + size)) :
    AverageAccepted leg size price scale ↔ AverageTerminates leg size price scale := by
  have meets : AverageAccepted leg size price scale ↔ QuotientsMeet leg size price scale :=
    inContext_eq_numericQuotient_iff (valid.computed_pos economics) fewer
  rw [meets]
  constructor
  · exact fun near => ⟨fun exact => (quotientsMeet_iff valid economics exact).mp near, fun _ => near⟩
  · intro terminates
    by_cases exact : leg.ExactOperands size price
    · exact (quotientsMeet_iff valid economics exact).mpr (terminates.exact exact)
    · exact terminates.rounded exact

/-- One of three shares is filled at 0.50. -/
def halfFilledLeg : OrderLeg :=
  { researchLeg 11 .yes "yes" (1 / 2) with
    filledSize := 1
    averageFillPrice := some (1 / 2)
    status := .partiallyFilled
    clobOrderId := some "yes-order" }

/-- The leg, with a second share at 0.40. -/
theorem halfFilledLeg_checked : halfFilledLeg.modelValidate = .ok halfFilledLeg ∧
    FewerDigits 16 (halfFilledLeg.filledValue 1 (2 / 5)) (halfFilledLeg.filledSize + 1) ∧
    AverageAccepted halfFilledLeg 1 (2 / 5) 16 := by
  decide +kernel

/-- A second share at 0.40 makes an average of 0.45. -/
theorem average_accepted_half : AverageTerminates halfFilledLeg 1 (2 / 5) 16 := by
  obtain ⟨validated, fewer, accepted⟩ := halfFilledLeg_checked
  have valid := (OrderLeg.modelValidate_ok_iff.mp validated).1
  have economics : FillEconomics 1 (2 / 5) 0 := ⟨by norm_num, by norm_num, le_rfl⟩
  exact (average_accepted_iff valid economics fewer).mp accepted

/-- Two more shares at 0.40 make thirteen thirtieths, whatever the scale. -/
theorem average_rejected_thirds : halfFilledLeg.modelValidate = .ok halfFilledLeg ∧
    ∀ scale < 28, 16 ≤ scale →
      FewerDigits scale (halfFilledLeg.filledValue 2 (2 / 5)) (halfFilledLeg.filledSize + 2) ∧
      ¬ AverageAccepted halfFilledLeg 2 (2 / 5) scale := by
  decide +kernel

end Polybot
