import Mathlib.Algebra.Order.Archimedean.Basic
import Polybot.Trading.Risk

/-!
Sizing against the gate.

The strategy subtracts from a cap what the gate adds to the order. The two agree on
every term but one: the gate counts the unclassified bucket exposure, which the
sizing leaves out.

* `le_budget_iff` — the budget is the largest amount within all limits.
* `sized_buys_fit_iff` — for given settings and a given portfolio, every BUY that
  the strategy proposes in any market passes the size checks of the gate exactly
  when the largest budget of every event and bucket leaves room for the
  unclassified bucket exposure.
-/

namespace Polybot

open Checked

namespace ValueStrategy

variable {strategy : ValueStrategy} {eventKey bucket : String} {kellyShare value : ℚ}
  {portfolio : PortfolioState}

/-- The limits of a BUY, one by one. -/
structure WithinLimits (strategy : ValueStrategy) (eventKey bucket : String) (kellyShare : ℚ)
    (portfolio : PortfolioState) (value : ℚ) : Prop where
  order : value ≤ strategy.settings.maxOrderUsd
  tradeRisk : value ≤ portfolio.bankrollUsd * strategy.settings.maxTradeRiskPct
  cash : value ≤ portfolio.cashUsd
  kelly : value ≤ portfolio.bankrollUsd * strategy.settings.kellyFraction * max kellyShare 0
  event : value ≤ max 0 (portfolio.bankrollUsd * strategy.settings.maxEventExposurePct
    - amount portfolio.eventExposureUsd eventKey
    - amount portfolio.eventExposureUsd unclassifiedEventKey)
  bucket : value ≤ max 0 (portfolio.bankrollUsd * strategy.settings.maxBucketExposurePct
    - amount portfolio.bucketExposureUsd bucket)
  gross : value ≤ max 0 (portfolio.bankrollUsd * strategy.settings.maxGrossExposurePct
    - portfolio.grossExposureUsd)

theorem le_budget_iff :
    value ≤ strategy.budget eventKey bucket kellyShare portfolio ↔
      strategy.WithinLimits eventKey bucket kellyShare portfolio value := by
  unfold budget limits
  simp only [List.min?_cons', List.foldl_cons, List.foldl_nil, Option.getD_some, le_min_iff]
  constructor
  · rintro ⟨⟨⟨⟨⟨⟨order, tradeRisk⟩, cash⟩, kelly⟩, event⟩, bucket⟩, gross⟩
    exact ⟨order, tradeRisk, cash, kelly, event, bucket, gross⟩
  · rintro ⟨order, tradeRisk, cash, kelly, event, bucket, gross⟩
    exact ⟨⟨⟨⟨⟨⟨order, tradeRisk⟩, cash⟩, kelly⟩, event⟩, bucket⟩, gross⟩

theorem budget_within (strategy : ValueStrategy) (eventKey bucket : String) (kellyShare : ℚ)
    (portfolio : PortfolioState) : strategy.WithinLimits eventKey bucket kellyShare portfolio
      (strategy.budget eventKey bucket kellyShare portfolio) :=
  le_budget_iff.mp le_rfl

/-- Room that a positive amount fits into is not cut off at zero. -/
theorem le_of_le_max_zero {room : ℚ} (positive : 0 < value) (fits : value ≤ max 0 room) :
    value ≤ room :=
  (le_max_iff.mp fits).resolve_left (not_le.mpr positive)

/-- A larger share of the odds has a larger budget. -/
theorem budget_mono {larger : ℚ} (positive : 0 < strategy.budget eventKey bucket kellyShare portfolio)
    (share : kellyShare ≤ larger) : strategy.budget eventKey bucket kellyShare portfolio ≤
      strategy.budget eventKey bucket larger portfolio := by
  have within := strategy.budget_within eventKey bucket kellyShare portfolio
  have stake : 0 ≤ portfolio.bankrollUsd * strategy.settings.kellyFraction := by
    by_contra negative
    have nonpos := mul_nonpos_of_nonpos_of_nonneg (not_le.mp negative).le (le_max_right kellyShare 0)
    exact absurd within.kelly (not_le.mpr (nonpos.trans_lt positive))
  refine le_budget_iff.mpr { within with kelly := within.kelly.trans ?_ }
  exact mul_le_mul_of_nonneg_left (max_le_max_right 0 share) stake

/-- The largest budget of every event and bucket leaves room for the unclassified
bucket exposure. -/
def LeavesBucketRoom (strategy : ValueStrategy) (portfolio : PortfolioState) : Prop :=
  ∀ eventKey bucket : String, eventKey ≠ "" → bucket ≠ "" →
    strategy.settings.uncertaintyReserve < 1 → 0 < strategy.budget eventKey bucket 1 portfolio →
    amount portfolio.bucketExposureUsd bucket + amount portfolio.bucketExposureUsd unclassifiedBucketKey
      + strategy.budget eventKey bucket 1 portfolio ≤
        portfolio.bankrollUsd * strategy.settings.maxBucketExposurePct

/-- The gate with the same settings. -/
def gate (strategy : ValueStrategy) : RiskEngine :=
  ⟨strategy.settings, strategy.power⟩

/-- Every proposed BUY passes the size checks. -/
def BuysFit (strategy : ValueStrategy) (portfolio : PortfolioState) : Prop :=
  ∀ market forecast yesBook noBook candidate now,
    strategy.choose market forecast yesBook noBook portfolio = some candidate →
      candidate.side = .buy → ∀ code ∈ sizeCodes, code ∉
        (strategy.gate.evaluateCandidate candidate market
          (bookOf candidate.outcome yesBook noBook) portfolio now).codes

/-! ### The condition is enough -/

variable {market : MarketSpec} {forecast : Forecast} {book : TimedBook} {outcome : Outcome}
  {probability : ℚ} {candidate : TradeCandidate}

/-- The odds of an ask are at most one. -/
theorem kellyShare_le_one {bestAsk : ℚ} (below : bestAsk < probability) (certain : probability ≤ 1) :
    (probability - bestAsk) / (1 - bestAsk) ≤ 1 :=
  (div_le_one (by linarith)).mpr (by linarith)

theorem buyCandidate_sizeFits (room : strategy.LeavesBucketRoom portfolio) (certain : probability ≤ 1)
    (proposed : strategy.buyCandidate market forecast book outcome probability portfolio =
      some candidate) : strategy.gate.SizeFits candidate market book portfolio := by
  obtain ⟨bestAsk, -, below, positive, names, within, edge, reserve⟩ :=
    strategy.buyCandidate_within certain proposed
  have cost : strategy.gate.commitment candidate market =
      maximumBuyCost strategy.power candidate.size candidate.limitPrice market.feeSchedule := by
    unfold RiskEngine.commitment
    rw [within.side]
    rfl
  have eventKey : candidate.eventKey = market.eventKey := by
    unfold TradeCandidate.eventKey MarketSpec.eventKey
    rw [names.eventId, names.marketId]
  have limits := strategy.budget_within market.eventKey market.bucket
    ((probability - bestAsk) / (1 - bestAsk)) portfolio
  have committed := within.commitment_le
  unfold entryBudget at positive committed
  have event := le_of_le_max_zero positive limits.event
  have gross := le_of_le_max_zero positive limits.gross
  have certainty := budget_mono positive (kellyShare_le_one below certain)
  have bucket := room market.eventKey market.bucket (textOr_ne_empty market.id_nonempty)
    (textOr_ne_empty (by decide)) (by linarith) (positive.trans_le certainty)
  refine ⟨?_, ?_, ?_, ?_, ?_, ?_, within.minimum⟩
  · rw [cost]
    exact committed.trans limits.order
  · rw [cost]
    exact committed.trans limits.cash
  · rw [cost]
    exact committed.trans limits.tradeRisk
  · rw [cost, eventKey]
    change _ ≤ portfolio.bankrollUsd * strategy.settings.maxEventExposurePct
    linarith
  · rw [cost, names.bucket]
    change _ ≤ portfolio.bankrollUsd * strategy.settings.maxBucketExposurePct
    linarith
  · rw [cost]
    change _ ≤ portfolio.bankrollUsd * strategy.settings.maxGrossExposurePct
    linarith

theorem LeavesBucketRoom.buysFit (room : strategy.LeavesBucketRoom portfolio) :
    strategy.BuysFit portfolio := by
  intro market forecast yesBook noBook candidate now chosen buys
  obtain ⟨outcome, probability, nonneg, certain, sells | proposed⟩ := strategy.choose_cases chosen
  · obtain ⟨side, -, -⟩ := strategy.sellCandidate_valid nonneg certain sells
    rw [side] at buys
    cases buys
  · obtain ⟨-, -, -, -, names, -⟩ := strategy.buyCandidate_within certain proposed
    rw [names.outcome]
    exact (RiskEngine.sizeFits_iff buys now).mp (buyCandidate_sizeFits room certain proposed)

/-! ### The condition is necessary -/

/-- A book with at most one ask and no bids. -/
def askBook (asks : List BookLevel) (valid : ∀ level ∈ asks, level.Valid) : TimedBook where
  tokenId := "yes"
  marketId := "market"
  bids := []
  asks := asks
  tickSize := 1 / 100
  minimumOrderSize := 1 / 100
  capturedAt := 0
  valid := ⟨by simp, valid⟩
  tickSize_pos := Literal.hundredth_pos
  minimumOrderSize_pos := Literal.hundredth_pos

theorem freeMarket_named : "market" ≠ "" := by decide

/-- A market without fees. -/
def freeMarket (eventKey bucket : String) : MarketSpec where
  id := "market"
  conditionId := none
  eventId := some eventKey
  category := bucket
  yesTokenId := "yes"
  noTokenId := "no"
  active := true
  closed := false
  acceptingOrders := true
  liquidityUsd := 0
  minimumOrderSize := 1 / 100
  feesEnabled := false
  feeRate := 0
  feeExponent := 1
  endAt := none
  id_nonempty := freeMarket_named
  liquidityUsd_nonneg := Literal.zero_nonneg
  minimumOrderSize_pos := Literal.hundredth_pos
  feeRate_nonneg := Literal.zero_nonneg
  feeExponent_pos := Literal.one_pos
  feeRate_pos := nofun
  tokens_differ := by decide

/-- YES is certain. -/
def certainForecast : Forecast :=
  ⟨"forecast", 1, 1, 1, 1, by norm_num, le_rfl, le_rfl, le_rfl, by norm_num, le_rfl⟩

theorem maximumBuyCost_free (power : DecimalPower) (size limitPrice : ℚ) (eventKey bucket : String) :
    maximumBuyCost power size limitPrice (freeMarket eventKey bucket).feeSchedule =
      size * limitPrice := by
  simp [maximumBuyCost, estimatedFeePerShare, MarketSpec.feeSchedule, freeMarket]

theorem sellCandidate_without_bids {asks : List BookLevel} {valid : ∀ level ∈ asks, level.Valid} :
    strategy.sellCandidate market forecast (askBook asks valid) outcome probability portfolio =
      none := by
  refine Option.eq_none_iff_forall_ne_some.mpr fun candidate sells => ?_
  unfold sellCandidate at sells
  simp only [option_bind_eq_some_iff, exists_guard_eq_some_iff] at sells
  obtain ⟨-, bestBid, found, -⟩ := sells
  cases found

theorem buyCandidate_without_asks {valid : ∀ level ∈ [], BookLevel.Valid level} :
    strategy.buyCandidate market forecast (askBook [] valid) outcome probability portfolio =
      none := by
  refine Option.eq_none_iff_forall_ne_some.mpr fun candidate proposed => ?_
  unfold buyCandidate at proposed
  simp only [option_bind_eq_some_iff] at proposed
  obtain ⟨bestAsk, found, -⟩ := proposed
  cases found

/-- A level that sells the whole budget is swept whole. -/
theorem sweepBook_whole {count : ℕ} {price : ℚ} (some_shares : 0 < count) (price_pos : 0 < price)
    (valid : ∀ level ∈ [(⟨price, count * sizeStep⟩ : BookLevel)], level.Valid) :
    strategy.sweepBook (freeMarket eventKey bucket) (askBook _ valid) (count * sizeStep * price) =
      ⟨count * sizeStep, count * sizeStep * price, 0, some price⟩ := by
  have fee : estimatedFeePerShare strategy.power price (freeMarket eventKey bucket).feeSchedule = 0 := by
    simp [estimatedFeePerShare, MarketSpec.feeSchedule, freeMarket]
  have whole : quantizeDown (count * sizeStep) sizeStep = count * sizeStep := quantizeDown_count count
  have positive : (0 : ℚ) < count * sizeStep := mul_pos (by exact_mod_cast some_shares) sizeStep.2
  have most : (count * sizeStep * price : ℚ) / (1 * price) = count * sizeStep := by
    rw [one_mul, mul_div_cancel_right₀ _ price_pos.ne']
  unfold sweepBook askBook askOrder
  simp only [List.insertionSort_cons, List.insertionSort_nil, List.orderedInsert_nil, sweepAsks,
    maximumBuyCost_free, most, whole, sub_zero, min_self, zero_add, fee, mul_zero, add_zero,
    not_le.mpr positive, if_false, le_refl, if_true]

/-- With a cheap enough ask the whole of the largest budget is proposed. -/
theorem choose_whole_budget (named : eventKey ≠ "") (bucketed : bucket ≠ "")
    (reserve : strategy.settings.uncertaintyReserve < 1)
    (positive : 0 < strategy.budget eventKey bucket 1 portfolio) :
    ∃ yesBook noBook candidate,
      strategy.choose (freeMarket eventKey bucket) certainForecast yesBook noBook portfolio =
        some candidate ∧ candidate.side = .buy ∧ candidate.outcome = .yes ∧
      candidate.bucket = bucket ∧
      strategy.gate.commitment candidate (freeMarket eventKey bucket) =
        strategy.budget eventKey bucket 1 portfolio := by
  generalize isBudget : strategy.budget eventKey bucket 1 portfolio = budget at *
  obtain ⟨count, many⟩ := exists_nat_gt (100 * budget / (1 - strategy.settings.uncertaintyReserve))
  have margin : 0 < 1 - strategy.settings.uncertaintyReserve := by linarith
  have some_shares : 0 < count := by
    have nonneg : 0 ≤ 100 * budget / (1 - strategy.settings.uncertaintyReserve) := by positivity
    exact_mod_cast nonneg.trans_lt many
  have counted : (0 : ℚ) < count := by exact_mod_cast some_shares
  obtain ⟨price, isPrice⟩ : ∃ price, price = 100 * budget / count := ⟨_, rfl⟩
  have price_pos : 0 < price := isPrice ▸ div_pos (by linarith) counted
  have cheap : price < 1 - strategy.settings.uncertaintyReserve := by
    rw [isPrice, div_lt_iff₀ counted, mul_comm _ (count : ℚ)]
    exact (div_lt_iff₀ margin).mp many
  have price_lt_one : price < 1 := by linarith [strategy.settings.uncertaintyReserve_bounds.1]
  have step : (sizeStep : ℚ) = 1 / 100 := rfl
  have spent : (count * sizeStep * price : ℚ) = budget := by
    rw [isPrice, step]
    field_simp
  have positive_shares : (0 : ℚ) < count * sizeStep := mul_pos counted sizeStep.2
  have valid : ∀ level ∈ [(⟨price, count * sizeStep⟩ : BookLevel)], level.Valid := by
    intro level member
    rw [List.mem_singleton.mp member]
    exact ⟨price_pos, price_lt_one, positive_shares⟩
  have swept : strategy.sweepBook (freeMarket eventKey bucket) (askBook _ valid)
      (count * sizeStep * price) = _ := sweepBook_whole some_shares price_pos valid
  rw [spent] at swept
  have whole : quantizeDown (count * sizeStep) sizeStep = count * sizeStep := quantizeDown_count count
  have granted : strategy.entryBudget (freeMarket eventKey bucket) 1 price portfolio = budget := by
    have keys : (freeMarket eventKey bucket).eventKey = eventKey ∧
        (freeMarket eventKey bucket).bucket = bucket := by
      simp [MarketSpec.eventKey, MarketSpec.bucket, textOr, freeMarket, truthy, named, bucketed]
    unfold entryBudget
    rw [keys.1, keys.2, div_self (by linarith), isBudget]
  have minimum : (1 / 100 : ℚ) ≤ count * sizeStep := by
    rw [step, mul_one_div]
    gcongr
    exact_mod_cast some_shares
  have divisor : max (count * sizeStep : ℚ) (1 / 100000000) = count * sizeStep :=
    max_eq_left (le_trans (by norm_num) minimum)
  have vwap : budget / (count * sizeStep) = price := by
    rw [← spent, mul_div_cancel_left₀ _ positive_shares.ne']
  obtain ⟨candidate, isCandidate⟩ : ∃ candidate, candidate = strategy.entry
      (freeMarket eventKey bucket) certainForecast (askBook _ valid) .yes 1
      ⟨count * sizeStep, budget, 0, some price⟩ price := ⟨_, rfl⟩
  have size : candidate.size = count * sizeStep := by
    rw [isCandidate]
    exact whole
  have edge : candidate.edgeAfterCosts = 1 - price - strategy.settings.uncertaintyReserve := by
    rw [isCandidate]
    unfold entry
    dsimp only
    rw [whole, divisor, vwap]
    simp
  have cost : maximumBuyCost strategy.power candidate.size price
      (freeMarket eventKey bucket).feeSchedule = budget := by
    rw [maximumBuyCost_free, size, spent]
  have proposed : strategy.buyCandidate (freeMarket eventKey bucket) certainForecast
      (askBook _ valid) .yes 1 portfolio = some candidate := by
    unfold buyCandidate
    simp only [option_bind_eq_some_iff, exists_guard_eq_some_iff]
    refine ⟨price, rfl, price_lt_one, ?_⟩
    simp only [granted, swept, whole]
    refine ⟨positive, ⟨max_le minimum minimum, positive_shares, positive⟩, price, rfl, ?_⟩
    rw [← isCandidate]
    exact ⟨⟨by rw [edge]; linarith, cost.le⟩, rfl⟩
  refine ⟨askBook _ valid, askBook [] (by simp), candidate, ?_, ?_, ?_, ?_, ?_⟩
  · unfold choose
    rw [if_neg (show ¬ certainForecast.confidence < _ from
      not_lt.mpr strategy.settings.minForecastConfidence_bounds.2), sellCandidate_without_bids,
      sellCandidate_without_bids]
    dsimp only [best]
    rw [buyCandidate_without_asks, show certainForecast.probabilityLow = 1 from rfl, proposed]
  · rw [isCandidate]
    rfl
  · rw [isCandidate]
    rfl
  · rw [isCandidate]
    simp [entry, MarketSpec.bucket, textOr, freeMarket, truthy, bucketed]
  · have sides : candidate.side = .buy ∧ candidate.limitPrice = price := by
      rw [isCandidate]
      exact ⟨rfl, rfl⟩
    unfold RiskEngine.commitment
    rw [sides.1, sides.2]
    exact cost

/-- **Sizing and gate agree** for given settings and a given portfolio exactly when
the largest budgets leave room for the unclassified bucket exposure. -/
theorem sized_buys_fit_iff (strategy : ValueStrategy) (portfolio : PortfolioState) :
    strategy.BuysFit portfolio ↔ strategy.LeavesBucketRoom portfolio := by
  constructor
  · intro fits eventKey bucket named bucketed reserve positive
    obtain ⟨yesBook, noBook, candidate, chosen, buys, -, inBucket, cost⟩ :=
      choose_whole_budget named bucketed reserve positive
    have sized := (RiskEngine.sizeFits_iff buys 0).mpr
      (fits _ _ yesBook noBook candidate 0 chosen buys)
    rw [← cost, ← inBucket]
    exact sized.bucket
  · exact LeavesBucketRoom.buysFit

/-- A live portfolio with 48 dollars in unclassified buckets. -/
def livePortfolio : PortfolioState where
  bankrollUsd := 1000
  cashUsd := 500
  grossExposureUsd := 48
  eventExposureUsd := .empty
  bucketExposureUsd := Dict.empty.set unclassifiedBucketKey 48
  tokenPositions := .empty
  tokenConditionIds := .empty
  tokenMarketIds := .empty
  tokenEventIds := .empty
  realizedPnlTodayUsd := 0
  peakEquityUsd := none
  equityUsd := none
  dayStartEquityUsd := none

/-- A hundred shares at one half. -/
def evenBook : TimedBook :=
  askBook [⟨1 / 2, 100⟩] BookLevel.valid_hundredAtHalf

/-- The strategy proposes a BUY of five dollars, which the gate refuses for its
bucket. -/
theorem unclassified_bucket_is_refused :
    ∃ candidate, standard.choose (freeMarket "event" "politics") certainForecast evenBook
        (askBook [] (by simp)) livePortfolio = some candidate ∧ candidate.side = .buy ∧
      RiskCode.correlatedBucketCapExceeded ∈
        (standard.gate.evaluateCandidate candidate (freeMarket "event" "politics")
          (bookOf candidate.outcome evenBook (askBook [] (by simp))) livePortfolio 0).codes := by
  have refused : (standard.choose (freeMarket "event" "politics") certainForecast evenBook
      (askBook [] (by simp)) livePortfolio).any (fun candidate => candidate.side = .buy ∧
        RiskCode.correlatedBucketCapExceeded ∈
          (standard.gate.evaluateCandidate candidate (freeMarket "event" "politics")
            (bookOf candidate.outcome evenBook (askBook [] (by simp))) livePortfolio 0).codes) =
      true := by
    decide +kernel
  obtain ⟨candidate, chosen, found⟩ := (Option.any_eq_true _ _).mp refused
  exact ⟨candidate, chosen, of_decide_eq_true found⟩

end ValueStrategy

end Polybot
