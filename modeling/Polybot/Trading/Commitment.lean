import Mathlib.Algebra.Order.BigOperators.Group.List
import Mathlib.Algebra.BigOperators.Ring.List
import Mathlib.Tactic.Linarith
import Polybot.Trading.Fees

/-!
What a signed BUY may cost (`polybot/fees.py`).

A BUY of a given size executes anywhere at or below its limit, in fills of any size.
`outlay` adds up what the fills cost for a given fee per fill, and two fees are
compared with the commitment that the gates reserve:

* `outlay_charged_le`: the estimated fee, rounded half up for each fill, is always
  covered;
* `booksWithinReserve_iff`: the fee that the ledger reconstructs for a matched
  trade knows neither the exponent nor the switch of the schedule, and agrees with
  the estimate exactly where both are without effect.
-/

namespace Polybot

/-- One fill of a BUY. -/
structure TakerFill where
  size : ℚ
  price : ℚ
  size_pos : 0 < size
  price_pos : 0 < price

namespace TakerFill

/-- The estimated fee of a fill on the grid of matched fees. -/
def chargedFee (power : DecimalPower) (fees : FeeSchedule) (fill : TakerFill) : ℚ :=
  quantizeHalfUp (fill.size * estimatedFeePerShare power fill.price fees) feeStep

/-- The fee that the ledger books for a taker's trade with the reported rate. -/
def bookedFee (feeRateBps : ℚ) (fill : TakerFill) : ℚ :=
  matchedTakerFeeUsd fill.size fill.price feeRateBps (some "TAKER")

end TakerFill

/-- Price and fee of all fills. -/
def outlay (fee : TakerFill → ℚ) (fills : List TakerFill) : ℚ :=
  (fills.map fun fill => fill.size * fill.price + fee fill).sum

/-- The fills execute a BUY of this size at this limit. -/
structure Executes (size limitPrice : ℚ) (fills : List TakerFill) : Prop where
  within_limit : ∀ fill ∈ fills, fill.price ≤ limitPrice
  within_size : (fills.map TakerFill.size).sum ≤ size

/-! ### Rounding -/

section Rounding

variable {value : ℚ} {step : {step : ℚ // 0 < step}}

/-- Half up at most doubles: what is under half a step is dropped. -/
theorem quantizeHalfUp_le_double (nonneg : 0 ≤ value) :
    quantizeHalfUp value step ≤ 2 * value := by
  have quotient : 0 ≤ value / step := div_nonneg nonneg step.2.le
  have steps : (⌊value / step + 1 / 2⌋ : ℚ) ≤ 2 * (value / step) := by
    rcases lt_or_ge (value / step) (1 / 2) with small | large
    · have dropped : ⌊value / step + 1 / 2⌋ = 0 :=
        Int.floor_eq_iff.mpr ⟨by push_cast; linarith, by push_cast; linarith⟩
      rw [dropped, Int.cast_zero]
      linarith
    · have floor := Int.floor_le (value / step + 1 / 2)
      linarith
  unfold quantizeHalfUp
  rw [if_pos nonneg]
  calc (⌊value / step + 1 / 2⌋ : ℚ) * step ≤ 2 * (value / step) * step :=
        mul_le_mul_of_nonneg_right steps step.2.le
    _ = 2 * value := by rw [mul_assoc, div_mul_cancel₀ _ step.2.ne']

/-- A whole number of steps is not rounded. -/
theorem quantizeHalfUp_count (count : ℕ) : quantizeHalfUp (count * step) step = count * step := by
  have quotient : (count * step : ℚ) / step = count := mul_div_cancel_right₀ _ step.2.ne'
  have floor : ⌊(count : ℚ) + 1 / 2⌋ = count := by
    refine Int.floor_eq_iff.mpr ⟨?_, ?_⟩ <;> push_cast <;> linarith
  have nonneg : (0 : ℚ) ≤ count * step := mul_nonneg (Nat.cast_nonneg count) step.2.le
  unfold quantizeHalfUp
  rw [if_pos nonneg, quotient, floor]
  norm_cast

end Rounding

/-! ### The commitment covers the estimate -/

variable {power : DecimalPower} {fees : FeeSchedule} {size limitPrice : ℚ}
  {fills : List TakerFill}

/-- A fee within twice the reserved one for each share keeps the outlay within the
commitment. -/
theorem outlay_le {fee : TakerFill → ℚ} (limit_pos : 0 < limitPrice)
    (executes : Executes size limitPrice fills)
    (charged : ∀ fill ∈ fills, fee fill ≤
      fill.size * (2 * estimatedFeePerShare power (min limitPrice (1 / 2)) fees)) :
    outlay fee fills ≤ maximumBuyCost power size limitPrice fees := by
  have reserve : 0 ≤ estimatedFeePerShare power (min limitPrice (1 / 2)) fees :=
    estimatedFeePerShare_nonneg
  calc outlay fee fills
      ≤ (fills.map TakerFill.size).sum *
          (limitPrice + 2 * estimatedFeePerShare power (min limitPrice (1 / 2)) fees) := by
        unfold outlay
        rw [← List.sum_map_mul_right]
        refine List.sum_le_sum fun fill mem => ?_
        have price := mul_le_mul_of_nonneg_left (executes.within_limit fill mem) fill.size_pos.le
        have perShare := charged fill mem
        linarith
    _ ≤ size * (limitPrice + 2 * estimatedFeePerShare power (min limitPrice (1 / 2)) fees) :=
        mul_le_mul_of_nonneg_right executes.within_size (by linarith)

/-- Rounding at most doubles the estimate, which the limit bounds. -/
theorem chargedFee_le {fill : TakerFill} (limit_lt_one : limitPrice < 1)
    (below : fill.price ≤ limitPrice) : fill.chargedFee power fees ≤
      fill.size * (2 * estimatedFeePerShare power (min limitPrice (1 / 2)) fees) := by
  have estimate : estimatedFeePerShare power fill.price fees ≤
      estimatedFeePerShare power (min limitPrice (1 / 2)) fees :=
    estimatedFeePerShare_le limit_lt_one fill.price_pos below
  have raw : 0 ≤ fill.size * estimatedFeePerShare power fill.price fees :=
    mul_nonneg fill.size_pos.le estimatedFeePerShare_nonneg
  calc fill.chargedFee power fees
      ≤ 2 * (fill.size * estimatedFeePerShare power fill.price fees) :=
        quantizeHalfUp_le_double raw
    _ = fill.size * (2 * estimatedFeePerShare power fill.price fees) := by ring
    _ ≤ _ := mul_le_mul_of_nonneg_left (by linarith) fill.size_pos.le

/-- Every way a signed BUY can execute stays within its commitment. -/
theorem outlay_charged_le (limit_pos : 0 < limitPrice) (limit_lt_one : limitPrice < 1)
    (executes : Executes size limitPrice fills) :
    outlay (TakerFill.chargedFee power fees) fills ≤
      maximumBuyCost power size limitPrice fees :=
  outlay_le limit_pos executes fun fill mem =>
    chargedFee_le limit_lt_one (executes.within_limit fill mem)

/-- Two fills of one third of the order each, one of them well below the limit. -/
theorem outlay_charged_le_split :
    outlay (TakerFill.chargedFee .whole ⟨true, 1 / 50, 1, by norm_num⟩)
      [⟨1, 1 / 2, by norm_num, by norm_num⟩, ⟨1, 3 / 5, by norm_num, by norm_num⟩] ≤
    maximumBuyCost .whole 3 (3 / 5) ⟨true, 1 / 50, 1, by norm_num⟩ :=
  outlay_charged_le (by norm_num) (by norm_num)
    ⟨by simp; norm_num, by norm_num⟩

/-! ### The books and the estimate -/

/-- What the ledger books for a BUY stays within its commitment, and every booked fee
is the estimated one. -/
def BooksWithinReserve (power : DecimalPower) (market : MarketSpec) : Prop :=
  ∀ (size limitPrice : ℚ) (fills : List TakerFill), 0 < limitPrice → limitPrice < 1 →
    Executes size limitPrice fills →
    outlay (TakerFill.bookedFee (10000 * market.feeRate)) fills ≤
        maximumBuyCost power size limitPrice market.feeSchedule ∧
      ∀ fill ∈ fills, fill.bookedFee (10000 * market.feeRate) =
        fill.chargedFee power market.feeSchedule

section Booked

variable {fill : TakerFill} {rate : ℚ}

/-- The formula of the booked fee, at the rate of the market. -/
theorem bookedFee_eq (price_lt_one : fill.price < 1) (rate_pos : 0 < rate) :
    fill.bookedFee (10000 * rate) =
      quantizeHalfUp (fill.size * (rate * (fill.price * (1 - fill.price)))) feeStep := by
  have charged : ¬ (fill.size ≤ 0 ∨ fill.price ≤ 0 ∨ 1 ≤ fill.price ∨ 10000 * rate ≤ 0) := by
    rw [not_or, not_or, not_or, not_le, not_le, not_le, not_le]
    exact ⟨fill.size_pos, fill.price_pos, price_lt_one, by linarith⟩
  have taker : Text.upper ((some "TAKER").getD "") ≠ "MAKER" := by decide
  unfold TakerFill.bookedFee matchedTakerFeeUsd
  rw [if_neg charged, if_neg taker, mul_div_cancel_left₀ _ (by norm_num)]
  congr 1
  ring

/-- The formula of the estimated fee, where one is charged. -/
theorem chargedFee_eq (price_lt_one : fill.price < 1) (enabled : fees.enabled = true)
    (rate_pos : 0 < fees.rate) : fill.chargedFee power fees =
      quantizeHalfUp (fill.size * (fees.rate *
        power.pow (fill.price * (1 - fill.price)) fees.exponent)) feeStep := by
  have charged : ¬ (fees.enabled = false ∨ fees.rate ≤ 0) := by
    simp [enabled, rate_pos]
  have inside : ¬ (fill.price ≤ 0 ∨ 1 ≤ fill.price) := by
    simp [fill.price_pos, price_lt_one]
  unfold TakerFill.chargedFee estimatedFeePerShare
  rw [if_neg charged, if_neg inside]

/-- No fee is estimated without the switch or without a rate. -/
theorem chargedFee_free (free : fees.enabled = false ∨ fees.rate ≤ 0) :
    fill.chargedFee power fees = 0 := by
  have zero : quantizeHalfUp 0 feeStep = 0 := by simpa using quantizeHalfUp_count 0
  unfold TakerFill.chargedFee estimatedFeePerShare
  rw [if_pos free, mul_zero, zero]

/-- No fee is booked without a rate. -/
theorem bookedFee_free : fill.bookedFee 0 = 0 := by
  unfold TakerFill.bookedFee matchedTakerFeeUsd
  rw [if_pos (.inr (.inr (.inr le_rfl)))]

end Booked

variable {market : MarketSpec}

/-- Booked fees that are the estimated ones are covered like these. -/
theorem booksWithinReserve_of_eq
    (same : ∀ fill : TakerFill, fill.price < 1 →
      fill.bookedFee (10000 * market.feeRate) = fill.chargedFee power market.feeSchedule) :
    BooksWithinReserve power market := by
  intro size limitPrice fills limit_pos limit_lt_one executes
  have each : ∀ fill ∈ fills, fill.bookedFee (10000 * market.feeRate) =
      fill.chargedFee power market.feeSchedule :=
    fun fill mem => same fill ((executes.within_limit fill mem).trans_lt limit_lt_one)
  refine ⟨outlay_le limit_pos executes fun fill mem => ?_, each⟩
  rw [each fill mem]
  exact chargedFee_le limit_lt_one (executes.within_limit fill mem)

/-- The fill whose raw fee without an exponent is a quarter of a dollar. -/
def quarterFill (rate : ℚ) (rate_pos : 0 < rate) : TakerFill :=
  ⟨1 / rate, 1 / 2, by positivity, Literal.half_pos⟩

theorem quarterFill_booked {rate : ℚ} (rate_pos : 0 < rate) :
    (quarterFill rate rate_pos).bookedFee (10000 * rate) = 1 / 4 := by
  have raw : 1 / rate * (rate * (1 / 2 * (1 - 1 / 2))) = (25000 : ℕ) * (feeStep : ℚ) := by
    rw [one_div, inv_mul_cancel_left₀ rate_pos.ne']
    norm_num [feeStep]
  rw [bookedFee_eq (by norm_num [quarterFill]) rate_pos]
  change quantizeHalfUp (1 / rate * (rate * (1 / 2 * (1 - 1 / 2)))) feeStep = 1 / 4
  rw [raw, quantizeHalfUp_count]
  norm_num [feeStep]

/-- The reconstruction leaves out the exponent and the switch: it agrees with the
estimate, and stays within the reserve, exactly in markets without a rate and in
markets that charge with exponent one. -/
theorem booksWithinReserve_iff (market : MarketSpec) (exponent : ℕ)
    (whole : market.feeExponent = exponent) :
    BooksWithinReserve .whole market ↔
      market.feeRate = 0 ∨ (market.feesEnabled = true ∧ market.feeExponent = 1) := by
  constructor
  · intro within
    by_contra other
    rw [not_or, not_and] at other
    obtain ⟨rated, notLinear⟩ := other
    have rate_pos : 0 < market.feeRate := lt_of_le_of_ne market.feeRate_nonneg (Ne.symm rated)
    have booked := quarterFill_booked rate_pos
    have executes : Executes (1 / market.feeRate) (1 / 2)
        [quarterFill market.feeRate rate_pos] :=
      ⟨by simp [quarterFill], by simp [quarterFill]⟩
    have agreed := (within _ _ _ (by norm_num) (by norm_num) executes).2
      (quarterFill market.feeRate rate_pos) (List.mem_singleton_self _)
    rw [booked] at agreed
    cases enabled : market.feesEnabled with
    | false =>
        rw [chargedFee_free (.inl enabled)] at agreed
        norm_num at agreed
    | true =>
        -- An exponent of two or more makes the estimate at most half of the booked fee.
        have two_le : 2 ≤ exponent := by
          have positive := market.feeExponent_pos
          have notOne := notLinear enabled
          rw [whole] at positive notOne
          norm_cast at positive notOne
          omega
        have pow : DecimalPower.whole.pow (1 / 2 * (1 - 1 / 2)) market.feeExponent ≤ 1 / 16 := by
          have small : (1 / 4 : ℚ) ^ exponent ≤ (1 / 4) ^ 2 :=
            pow_le_pow_of_le_one (by norm_num) (by norm_num) two_le
          have floor : (market.feeExponent.floor).toNat = exponent := by
            rw [whole]
            exact congrArg Int.toNat (Rat.floor_intCast exponent)
          change (1 / 2 * (1 - 1 / 2) : ℚ) ^ market.feeExponent.floor.toNat ≤ 1 / 16
          rw [floor]
          norm_num at small ⊢
          exact small
        have nonneg : 0 ≤ DecimalPower.whole.pow (1 / 2 * (1 - 1 / 2)) market.feeExponent :=
          DecimalPower.whole.nonneg (by norm_num) market.feeExponent_pos
        rw [chargedFee_eq (by norm_num [quarterFill]) enabled rate_pos] at agreed
        change (1 / 4 : ℚ) = quantizeHalfUp (1 / market.feeRate * (market.feeRate *
          DecimalPower.whole.pow (1 / 2 * (1 - 1 / 2)) market.feeExponent)) feeStep at agreed
        rw [one_div market.feeRate, inv_mul_cancel_left₀ rate_pos.ne'] at agreed
        have double := agreed.trans_le (quantizeHalfUp_le_double nonneg)
        linarith
  · rintro (free | ⟨enabled, linear⟩)
    · refine booksWithinReserve_of_eq fun fill _ => ?_
      rw [free, mul_zero, bookedFee_free, chargedFee_free (.inr free.le)]
    · refine booksWithinReserve_of_eq fun fill price_lt_one => ?_
      have rate_pos := market.feeRate_pos enabled
      have pow : DecimalPower.whole.pow (fill.price * (1 - fill.price)) market.feeExponent =
          fill.price * (1 - fill.price) := by
        rw [linear]
        exact pow_one _
      rw [bookedFee_eq price_lt_one rate_pos, chargedFee_eq price_lt_one enabled rate_pos]
      congr 3
      exact pow.symm

/-- A fifteen-minute market, whose schedule has exponent two. -/
def cryptoMarket : MarketSpec where
  id := "btc-15m"
  conditionId := some "condition"
  eventId := none
  category := "crypto"
  yesTokenId := "up-token"
  noTokenId := "down-token"
  active := true
  closed := false
  acceptingOrders := true
  liquidityUsd := 50000
  minimumOrderSize := 1
  feesEnabled := true
  feeRate := 1 / 50
  feeExponent := 2
  endAt := none
  id_nonempty := by decide
  liquidityUsd_nonneg := by norm_num
  minimumOrderSize_pos := Literal.one_pos
  feeRate_nonneg := by norm_num
  feeExponent_pos := Literal.two_pos
  feeRate_pos _ := by norm_num
  tokens_differ := by decide

/-- Fifty shares at one half: the ledger books 25.25, the gates reserved 25.125. -/
def fiftyShares : TakerFill :=
  ⟨50, 1 / 2, by norm_num, Literal.half_pos⟩

theorem cryptoMarket_overbooked :
    Executes 50 (1 / 2) [fiftyShares] ∧
      maximumBuyCost .whole 50 (1 / 2) cryptoMarket.feeSchedule = 201 / 8 ∧
      outlay (TakerFill.bookedFee (10000 * cryptoMarket.feeRate)) [fiftyShares] = 101 / 4 ∧
      ¬ BooksWithinReserve .whole cryptoMarket := by
  have executes : Executes 50 (1 / 2) [fiftyShares] := ⟨by simp [fiftyShares], by simp [fiftyShares]⟩
  have reserved : maximumBuyCost .whole 50 (1 / 2) cryptoMarket.feeSchedule = 201 / 8 := by
    decide +kernel
  have booked : outlay (TakerFill.bookedFee (10000 * cryptoMarket.feeRate)) [fiftyShares] =
      101 / 4 := by
    decide +kernel
  refine ⟨executes, reserved, booked, fun within => ?_⟩
  have covered := (within _ _ _ (by norm_num) (by norm_num) executes).1
  rw [reserved, booked] at covered
  norm_num at covered

/-- The schedule of the fifteen-minute market fails the criterion. -/
theorem booksWithinReserve_crypto :
    ¬ BooksWithinReserve .whole cryptoMarket := by
  rw [booksWithinReserve_iff cryptoMarket 2 rfl]
  simp [cryptoMarket]

end Polybot
