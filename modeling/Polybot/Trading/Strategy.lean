import Polybot.Collections.Checked
import Polybot.Trading.Fees

/-!
The value strategy (`polybot/strategy.py`).

Both sides sweep a sorted book. `BuySweep.Bounded` is what the sweep of the asks
keeps: a whole number of size steps, at the limit price of the last level taken,
for no more than `maximum_buy_cost` of them. `choose_valid` says that every
candidate passes the constructor's own checks.
-/

namespace Polybot

open Checked

/-- `ValueStrategy`, with the arithmetic it uses. `decimalText` is `str` of a
`Decimal`. -/
structure ValueStrategy where
  settings : Settings
  power : DecimalPower
  decimalText : ℚ → String

/-- The strategy under the default settings. -/
def ValueStrategy.standard : ValueStrategy :=
  ⟨.standard, .whole, fun value => s!"{value.num}/{value.den}"⟩

/-! ### Sweeps -/

/-- The accumulators of `_sweep_book`. -/
structure BuySweep where
  shares : ℚ
  baseCost : ℚ
  feeCost : ℚ
  lastPrice : Option ℚ

/-- The loop of `_sweep_book`. -/
def sweepAsks (power : DecimalPower) (budget : ℚ) (fees : FeeSchedule) :
    List BookLevel → BuySweep → BuySweep
  | [], sweep => sweep
  | level :: rest, sweep =>
      let maximumShares := quantizeDown (budget / maximumBuyCost power 1 level.price fees) sizeStep
      let take := quantizeDown (min level.size (maximumShares - sweep.shares)) sizeStep
      if take ≤ 0 then sweep
      else
        let next : BuySweep :=
          { shares := sweep.shares + take
            baseCost := sweep.baseCost + take * level.price
            feeCost := sweep.feeCost + take * estimatedFeePerShare power level.price fees
            lastPrice := some level.price }
        if maximumShares ≤ next.shares then next else sweepAsks power budget fees rest next

/-- The accumulators of the sell loops. -/
structure SellSweep where
  filled : ℚ
  gross : ℚ
  fee : ℚ
  remaining : ℚ
  limitPrice : Option ℚ

/-- The sell loops. They differ in what a level without size does: `breaks` tells
whether it ends the loop. -/
def sweepBids (power : DecimalPower) (fees : FeeSchedule) (breaks : Bool) :
    List BookLevel → SellSweep → SellSweep
  | [], sweep => sweep
  | level :: rest, sweep =>
      let take := min level.size sweep.remaining
      if take ≤ 0 then if breaks then sweep else sweepBids power fees breaks rest sweep
      else
        let next : SellSweep :=
          { filled := sweep.filled + take
            gross := sweep.gross + take * level.price
            fee := sweep.fee + take * estimatedFeePerShare power level.price fees
            remaining := sweep.remaining - take
            limitPrice := some level.price }
        if next.remaining ≤ 0 then next else sweepBids power fees breaks rest next

/-- The sweep cut to the size grid, with proceeds and fee in proportion. -/
def SellSweep.quantized (sweep : SellSweep) : SellSweep :=
  let filled := quantizeDown sweep.filled sizeStep
  if 0 < sweep.filled ∧ filled < sweep.filled then
    let scale := filled / sweep.filled
    { sweep with
      filled := filled
      gross := sweep.gross * scale
      fee := sweep.fee * scale }
  else { sweep with filled := filled }

namespace ValueStrategy

variable (strategy : ValueStrategy)

/-! ### Entries -/

/-- The limits of a BUY. `kellyShare` is the Kelly fraction of the odds. -/
def limits (eventKey bucket : String) (kellyShare : ℚ) (portfolio : PortfolioState) : List ℚ :=
  [strategy.settings.maxOrderUsd,
    portfolio.bankrollUsd * strategy.settings.maxTradeRiskPct,
    portfolio.cashUsd,
    portfolio.bankrollUsd * strategy.settings.kellyFraction * max kellyShare 0,
    max 0 (portfolio.bankrollUsd * strategy.settings.maxEventExposurePct
      - amount portfolio.eventExposureUsd eventKey
      - amount portfolio.eventExposureUsd unclassifiedEventKey),
    max 0 (portfolio.bankrollUsd * strategy.settings.maxBucketExposurePct
      - amount portfolio.bucketExposureUsd bucket),
    max 0 (portfolio.bankrollUsd * strategy.settings.maxGrossExposurePct
      - portfolio.grossExposureUsd)]

/-- `min(limits)`. -/
def budget (eventKey bucket : String) (kellyShare : ℚ) (portfolio : PortfolioState) : ℚ :=
  ((strategy.limits eventKey bucket kellyShare portfolio).min?).getD 0

/-- `_sweep_book`. -/
def sweepBook (market : MarketSpec) (book : TimedBook) (budget : ℚ) : BuySweep :=
  sweepAsks strategy.power budget market.feeSchedule (askOrder book.asks) ⟨0, 0, 0, none⟩

/-- The candidate of a sweep. -/
def entry (market : MarketSpec) (forecast : Forecast) (book : TimedBook) (outcome : Outcome)
    (conservativeProbability : ℚ) (sweep : BuySweep) (limitPrice : ℚ) : TradeCandidate :=
  let shares := quantizeDown sweep.shares sizeStep
  let vwap := sweep.baseCost / max shares (1 / 100000000)
  let feePerShare := sweep.feeCost / max shares (1 / 100000000)
  { marketId := market.id
    conditionId := market.conditionId
    eventId := market.eventId
    bucket := market.bucket
    tokenId := book.tokenId
    outcome := outcome
    side := .buy
    conservativeProbability := conservativeProbability
    expectedPrice := vwap
    limitPrice := limitPrice
    size := shares
    notionalUsd := sweep.baseCost + sweep.feeCost
    maxCommitmentUsd := some (maximumBuyCost strategy.power shares limitPrice market.feeSchedule)
    feeEstimateUsd := sweep.feeCost
    edgeAfterCosts :=
      conservativeProbability - vwap - feePerShare - strategy.settings.uncertaintyReserve
    strategy := "ai_value_v1"
    forecastId := some forecast.id
    decisionKey := none
    bookCapturedAt := book.capturedAt }

/-- The budget at the best ask. -/
def entryBudget (market : MarketSpec) (conservativeProbability bestAsk : ℚ)
    (portfolio : PortfolioState) : ℚ :=
  strategy.budget market.eventKey market.bucket
    ((conservativeProbability - bestAsk) / (1 - bestAsk)) portfolio

/-- `_buy_candidate`. -/
def buyCandidate (market : MarketSpec) (forecast : Forecast) (book : TimedBook) (outcome : Outcome)
    (conservativeProbability : ℚ) (portfolio : PortfolioState) : Option TradeCandidate := do
  let bestAsk ← book.bestAsk
  guard (bestAsk < conservativeProbability)
  let budget := strategy.entryBudget market conservativeProbability bestAsk portfolio
  guard (0 < budget)
  let sweep := strategy.sweepBook market book budget
  guard (max market.minimumOrderSize book.minimumOrderSize ≤ quantizeDown sweep.shares sizeStep ∧
    0 < quantizeDown sweep.shares sizeStep ∧ 0 < sweep.baseCost)
  let limitPrice ← sweep.lastPrice
  let candidate := strategy.entry market forecast book outcome conservativeProbability sweep limitPrice
  guard (0 < candidate.edgeAfterCosts ∧
    maximumBuyCost strategy.power candidate.size limitPrice market.feeSchedule ≤ budget)
  pure candidate

/-! ### Exits -/

/-- The shares that an exit offers, if they reach the minimum size. -/
def exitShares (market : MarketSpec) (book : TimedBook) (positionSize bestBid : ℚ) : Option ℚ :=
  let shareCap := quantizeDown (min positionSize (strategy.settings.maxOrderUsd / bestBid)) sizeStep
  if shareCap < max market.minimumOrderSize book.minimumOrderSize then none else some shareCap

/-- The swept exit, on the size grid. -/
def exitSweep (market : MarketSpec) (book : TimedBook) (breaks : Bool) (shareCap : ℚ) : SellSweep :=
  (sweepBids strategy.power market.feeSchedule breaks (bidOrder book.bids)
    ⟨0, 0, 0, shareCap, none⟩).quantized

/-- `_sell_candidate`. -/
def sellCandidate (market : MarketSpec) (forecast : Forecast) (book : TimedBook) (outcome : Outcome)
    (conservativeUpper : ℚ) (portfolio : PortfolioState) : Option TradeCandidate := do
  let positionSize := amount portfolio.tokenPositions book.tokenId
  guard (0 < positionSize)
  let bestBid ← book.bestBid
  guard (conservativeUpper < bestBid)
  let shareCap ← strategy.exitShares market book positionSize bestBid
  let sweep := strategy.exitSweep market book true shareCap
  guard (max market.minimumOrderSize book.minimumOrderSize ≤ sweep.filled)
  let limitPrice ← sweep.limitPrice
  let vwap := sweep.gross / sweep.filled
  let feePerShare := sweep.fee / sweep.filled
  let edge := vwap - conservativeUpper - feePerShare - strategy.settings.uncertaintyReserve
  guard (0 < edge)
  pure
    { marketId := market.id
      conditionId := market.conditionId
      eventId := market.eventId
      bucket := market.bucket
      tokenId := book.tokenId
      outcome := outcome
      side := .sell
      conservativeProbability := conservativeUpper
      expectedPrice := vwap
      limitPrice := limitPrice
      size := sweep.filled
      notionalUsd := sweep.gross - sweep.fee
      maxCommitmentUsd := none
      feeEstimateUsd := sweep.fee
      edgeAfterCosts := edge
      strategy := "ai_value_v1"
      forecastId := some forecast.id
      decisionKey := none
      bookCapturedAt := book.capturedAt }

/-- `_risk_exit_candidate`. -/
def riskExitCandidate (market : MarketSpec) (book : TimedBook) (outcome : Outcome)
    (portfolio : PortfolioState) (now : Instant) : Option TradeCandidate := do
  let positionSize := amount portfolio.tokenPositions book.tokenId
  guard (0 < positionSize)
  let bestBid ← book.bestBid
  let shareCap ← strategy.exitShares market book positionSize bestBid
  let sweep := strategy.exitSweep market book false shareCap
  guard (max market.minimumOrderSize book.minimumOrderSize ≤ sweep.filled)
  let limitPrice ← sweep.limitPrice
  guard (sweep.fee < sweep.gross)
  pure
    { marketId := market.id
      conditionId := market.conditionId
      eventId := market.eventId
      bucket := market.bucket
      tokenId := book.tokenId
      outcome := outcome
      side := .sell
      conservativeProbability := 0
      expectedPrice := sweep.gross / sweep.filled
      limitPrice := limitPrice
      size := sweep.filled
      notionalUsd := sweep.gross - sweep.fee
      maxCommitmentUsd := none
      feeEstimateUsd := sweep.fee
      edgeAfterCosts := 0
      strategy := "risk_exit_v1"
      forecastId := none
      decisionKey := some s!"risk:{book.tokenId}:{strategy.decimalText positionSize}:{now / 60000000}"
      bookCapturedAt := book.capturedAt }

/-! ### Choices -/

/-- `max` of the candidates there are: the first of the best. -/
def best (key : TradeCandidate → ℚ) (first second : Option TradeCandidate) : Option TradeCandidate :=
  match first, second with
  | some a, some b => if key a < key b then some b else some a
  | some a, none => some a
  | none, other => other

/-- `choose`. -/
def choose (market : MarketSpec) (forecast : Forecast) (yesBook noBook : TimedBook)
    (portfolio : PortfolioState) : Option TradeCandidate :=
  if forecast.confidence < strategy.settings.minForecastConfidence then none
  else
    match best TradeCandidate.edgeAfterCosts
        (strategy.sellCandidate market forecast yesBook .yes forecast.probabilityHigh portfolio)
        (strategy.sellCandidate market forecast noBook .no (1 - forecast.probabilityLow) portfolio)
      with
    | some exit => some exit
    | none => best TradeCandidate.edgeAfterCosts
        (strategy.buyCandidate market forecast yesBook .yes forecast.probabilityLow portfolio)
        (strategy.buyCandidate market forecast noBook .no (1 - forecast.probabilityHigh) portfolio)

/-- `hard_risk_breached`. -/
def HardRiskBreached (portfolio : PortfolioState) : Prop :=
  portfolio.dailyRiskPnlUsd ≤ -(portfolio.dailyLossBasisUsd * strategy.settings.dailyLossLimitPct) ∨
    strategy.settings.maxDrawdownPct ≤ portfolio.drawdownPct

instance (portfolio : PortfolioState) : Decidable (strategy.HardRiskBreached portfolio) :=
  inferInstanceAs (Decidable (_ ∨ _))

/-- `choose_risk_exit`. -/
def chooseRiskExit (market : MarketSpec) (yesBook noBook : TimedBook) (portfolio : PortfolioState)
    (now : Instant) : Option TradeCandidate :=
  if strategy.HardRiskBreached portfolio then
    best TradeCandidate.notionalUsd
      (strategy.riskExitCandidate market yesBook .yes portfolio now)
      (strategy.riskExitCandidate market noBook .no portfolio now)
  else none

end ValueStrategy

/-! ### What the sweeps keep -/

/-- A whole number of shares that cost no more at the limit price. -/
structure BuySweep.Bounded (power : DecimalPower) (fees : FeeSchedule) (sweep : BuySweep) : Prop where
  whole : ∃ count : ℤ, sweep.shares = count * sizeStep
  feeCost_nonneg : 0 ≤ sweep.feeCost
  shares_nonneg : 0 ≤ sweep.shares
  limit : ∀ price, sweep.lastPrice = some price → 0 < price ∧ price < 1 ∧
    sweep.baseCost ≤ sweep.shares * price ∧
    sweep.feeCost ≤ sweep.shares * estimatedFeePerShare power (min price (1 / 2)) fees
  start : sweep.lastPrice = none → sweep = ⟨0, 0, 0, none⟩

section Sweep

variable {power : DecimalPower} {fees : FeeSchedule} {level : BookLevel}

theorem BuySweep.Bounded.initial : BuySweep.Bounded power fees ⟨0, 0, 0, none⟩ where
  whole := ⟨0, by simp⟩
  feeCost_nonneg := le_rfl
  shares_nonneg := le_rfl
  limit := by simp
  start _ := rfl

/-- Taking a whole number of shares of a level that is not cheaper. -/
theorem BuySweep.Bounded.take {sweep : BuySweep} (bounded : sweep.Bounded power fees)
    (valid : level.Valid) (dearer : ∀ price, sweep.lastPrice = some price → price ≤ level.price) {take : ℚ}
    (taken : 0 ≤ take) (whole : ∃ count : ℤ, take = count * sizeStep) :
    BuySweep.Bounded power fees
      { shares := sweep.shares + take
        baseCost := sweep.baseCost + take * level.price
        feeCost := sweep.feeCost + take * estimatedFeePerShare power level.price fees
        lastPrice := some level.price } := by
  have fee_nonneg : 0 ≤ estimatedFeePerShare power level.price fees := estimatedFeePerShare_nonneg
  have fee_le : estimatedFeePerShare power level.price fees ≤
      estimatedFeePerShare power (min level.price (1 / 2)) fees :=
    estimatedFeePerShare_le valid.price_lt_one valid.price_pos le_rfl
  refine ⟨?_, add_nonneg bounded.feeCost_nonneg (mul_nonneg taken fee_nonneg),
    add_nonneg bounded.shares_nonneg taken, ?_, nofun⟩
  · obtain ⟨before, shares⟩ := bounded.whole
    obtain ⟨count, rfl⟩ := whole
    exact ⟨before + count, by rw [shares]; push_cast; ring⟩
  · rintro _ ⟨⟩
    -- What was taken before costs no more at the new, dearer limit.
    have earlier : sweep.baseCost ≤ sweep.shares * level.price ∧ sweep.feeCost ≤
        sweep.shares * estimatedFeePerShare power (min level.price (1 / 2)) fees := by
      cases last : sweep.lastPrice with
      | none =>
          rw [bounded.start last]
          simp
      | some price =>
          obtain ⟨price_pos, -, base, fee⟩ := bounded.limit price last
          have le := dearer price last
          have rising : estimatedFeePerShare power (min price (1 / 2)) fees ≤
              estimatedFeePerShare power (min level.price (1 / 2)) fees :=
            estimatedFeePerShare_le valid.price_lt_one (lt_min price_pos (by norm_num))
              ((min_le_left _ _).trans le)
          exact ⟨base.trans (mul_le_mul_of_nonneg_left le bounded.shares_nonneg),
            fee.trans (mul_le_mul_of_nonneg_left rising bounded.shares_nonneg)⟩
    refine ⟨valid.price_pos, valid.price_lt_one, ?_, ?_⟩
    · rw [add_mul]
      exact add_le_add_left earlier.1 _
    · rw [add_mul]
      exact add_le_add earlier.2 (mul_le_mul_of_nonneg_left fee_le taken)

theorem sweepAsks_bounded {budget : ℚ} {levels : List BookLevel}
    (valid : ∀ level ∈ levels, level.Valid) (sorted : levels.Pairwise fun a b => a.price ≤ b.price)
    {sweep : BuySweep} (bounded : sweep.Bounded power fees)
    (dearer : ∀ price, sweep.lastPrice = some price → ∀ level ∈ levels, price ≤ level.price) :
    (sweepAsks power budget fees levels sweep).Bounded power fees := by
  induction levels generalizing sweep with
  | nil => exact bounded
  | cons level rest ih =>
      obtain ⟨first, later⟩ := List.pairwise_cons.mp sorted
      unfold sweepAsks
      dsimp only
      split
      · exact bounded
      · rename_i taken
        have next := bounded.take (valid level List.mem_cons_self)
          (fun price last => dearer price last level List.mem_cons_self) (not_le.mp taken).le ⟨_, rfl⟩
        split
        · exact next
        · refine ih (fun other member => valid other (List.mem_cons_of_mem _ member)) later next ?_
          rintro _ ⟨⟩ other member
          exact first other member

/-- The signed BUY covers what the sweep expects to pay. -/
theorem BuySweep.Bounded.cost_le {sweep : BuySweep} (bounded : sweep.Bounded power fees)
    {limitPrice : ℚ} (limited : sweep.lastPrice = some limitPrice) :
    sweep.baseCost + sweep.feeCost ≤ maximumBuyCost power sweep.shares limitPrice fees := by
  obtain ⟨-, -, base, fee⟩ := bounded.limit limitPrice limited
  have fee_nonneg : 0 ≤ sweep.shares * estimatedFeePerShare power (min limitPrice (1 / 2)) fees :=
    mul_nonneg bounded.shares_nonneg estimatedFeePerShare_nonneg
  unfold maximumBuyCost
  linarith

/-- Shares that were sold below one dollar each. -/
structure SellSweep.Bounded (sweep : SellSweep) : Prop where
  fee_nonneg : 0 ≤ sweep.fee
  limit : ∀ price, sweep.limitPrice = some price → 0 < price ∧ price < 1
  proceeds : 0 < sweep.filled → 0 < sweep.gross ∧ sweep.gross < sweep.filled
  start : sweep.filled ≤ 0 → sweep.filled = 0 ∧ sweep.gross = 0

theorem sweepBids_bounded {breaks : Bool} {levels : List BookLevel}
    (valid : ∀ level ∈ levels, level.Valid) {sweep : SellSweep} (bounded : sweep.Bounded) :
    (sweepBids power fees breaks levels sweep).Bounded := by
  induction levels generalizing sweep with
  | nil => exact bounded
  | cons level rest ih =>
      have others : ∀ other ∈ rest, other.Valid := fun other member =>
        valid other (List.mem_cons_of_mem _ member)
      have here := valid level List.mem_cons_self
      unfold sweepBids
      dsimp only
      split
      · split
        · exact bounded
        · exact ih others bounded
      · rename_i taken
        rw [not_le] at taken
        have earlier : 0 ≤ sweep.gross ∧ sweep.gross ≤ sweep.filled ∧ 0 ≤ sweep.filled := by
          rcases le_or_gt sweep.filled 0 with none | some
          · obtain ⟨filled, gross⟩ := bounded.start none
            simp [filled, gross]
          · obtain ⟨positive, below⟩ := bounded.proceeds some
            exact ⟨positive.le, below.le, some.le⟩
        have proceeds : 0 < min level.size sweep.remaining * level.price ∧
            min level.size sweep.remaining * level.price < min level.size sweep.remaining :=
          ⟨mul_pos taken here.price_pos, mul_lt_of_lt_one_right taken here.price_lt_one⟩
        have next : SellSweep.Bounded
            { filled := sweep.filled + min level.size sweep.remaining
              gross := sweep.gross + min level.size sweep.remaining * level.price
              fee := sweep.fee + min level.size sweep.remaining *
                estimatedFeePerShare power level.price fees
              remaining := sweep.remaining - min level.size sweep.remaining
              limitPrice := some level.price } := by
          refine ⟨add_nonneg bounded.fee_nonneg (mul_nonneg taken.le estimatedFeePerShare_nonneg),
            ?_, fun _ => ⟨?_, ?_⟩, fun none => ?_⟩
          · rintro _ ⟨⟩
            exact ⟨here.price_pos, here.price_lt_one⟩
          · exact add_pos_of_nonneg_of_pos earlier.1 proceeds.1
          · exact add_lt_add_of_le_of_lt earlier.2.1 proceeds.2
          · exact absurd none (not_le.mpr (add_pos_of_nonneg_of_pos earlier.2.2 taken))
        split
        · exact next
        · exact ih others next

theorem SellSweep.Bounded.quantized {sweep : SellSweep} (bounded : sweep.Bounded) :
    0 ≤ sweep.quantized.fee ∧ sweep.quantized.limitPrice = sweep.limitPrice ∧
      (0 < sweep.quantized.filled →
        0 < sweep.quantized.gross ∧ sweep.quantized.gross < sweep.quantized.filled) := by
  unfold SellSweep.quantized
  dsimp only
  split
  · rename_i cut
    obtain ⟨positive, below⟩ := bounded.proceeds cut.1
    have nonneg : 0 ≤ quantizeDown sweep.filled sizeStep := quantizeDown_nonneg cut.1.le
    refine ⟨mul_nonneg bounded.fee_nonneg (div_nonneg nonneg cut.1.le), rfl, fun filled => ?_⟩
    refine ⟨mul_pos positive (div_pos filled cut.1), ?_⟩
    calc sweep.gross * (quantizeDown sweep.filled sizeStep / sweep.filled)
        < sweep.filled * (quantizeDown sweep.filled sizeStep / sweep.filled) :=
          mul_lt_mul_of_pos_right below (div_pos filled cut.1)
      _ = quantizeDown sweep.filled sizeStep := mul_div_cancel₀ _ cut.1.ne'
  · rename_i whole
    refine ⟨bounded.fee_nonneg, rfl, fun filled => ?_⟩
    have known : 0 < sweep.filled := by
      rcases le_or_gt sweep.filled 0 with none | some
      · rw [(bounded.start none).1] at filled
        simp [quantizeDown, floorDiv] at filled
      · exact some
    have same : quantizeDown sweep.filled sizeStep = sweep.filled :=
      le_antisymm (quantizeDown_le known.le) (not_lt.mp fun cut => whole ⟨known, cut⟩)
    dsimp only
    rw [same]
    exact bounded.proceeds known

end Sweep

/-! ### Candidates -/

/-- The book of an outcome. -/
def bookOf (outcome : Outcome) (yesBook noBook : TimedBook) : TimedBook :=
  match outcome with
  | .yes => yesBook
  | .no => noBook

/-- The market's identity in a candidate. -/
structure TradeCandidate.Names (candidate : TradeCandidate) (market : MarketSpec) (book : TimedBook)
    (outcome : Outcome) : Prop where
  marketId : candidate.marketId = market.id
  eventId : candidate.eventId = market.eventId
  bucket : candidate.bucket = market.bucket
  tokenId : candidate.tokenId = book.tokenId
  outcome : candidate.outcome = outcome

/-- A BUY within a budget. -/
structure TradeCandidate.Within (candidate : TradeCandidate) (power : DecimalPower)
    (market : MarketSpec) (book : TimedBook) (budget : ℚ) : Prop where
  side : candidate.side = .buy
  valid : candidate.Valid
  minimum : max market.minimumOrderSize book.minimumOrderSize ≤ candidate.size
  notional_le : candidate.notionalUsd ≤
    maximumBuyCost power candidate.size candidate.limitPrice market.feeSchedule
  commitment_le :
    maximumBuyCost power candidate.size candidate.limitPrice market.feeSchedule ≤ budget

namespace ValueStrategy

variable (strategy : ValueStrategy) {market : MarketSpec} {forecast : Forecast} {book : TimedBook}
  {outcome : Outcome} {probability : ℚ} {portfolio : PortfolioState} {candidate : TradeCandidate}

theorem sweepBook_bounded (market : MarketSpec) (book : TimedBook) (budget : ℚ) :
    (strategy.sweepBook market book budget).Bounded strategy.power market.feeSchedule :=
  sweepAsks_bounded (fun level member => book.valid.asks level (mem_askOrder.mp member))
    (askOrder_sorted book.asks) .initial nofun

theorem exitSweep_bounded (market : MarketSpec) (book : TimedBook) (breaks : Bool) (shareCap : ℚ) :
    (sweepBids strategy.power market.feeSchedule breaks (bidOrder book.bids)
      ⟨0, 0, 0, shareCap, none⟩).Bounded := by
  refine sweepBids_bounded (fun level member => book.valid.bids level (mem_bidOrder.mp member))
    ⟨le_rfl, nofun, fun sold => absurd sold (lt_irrefl _), fun _ => ⟨rfl, rfl⟩⟩

theorem bestAsk_bounds {bestAsk : ℚ} (found : book.bestAsk = some bestAsk) :
    0 < bestAsk ∧ bestAsk < 1 := by
  obtain ⟨level, member, rfl⟩ := List.mem_map.mp (List.min?_mem found)
  exact ⟨(book.valid.asks level member).price_pos, (book.valid.asks level member).price_lt_one⟩

/-- What a proposed BUY is, and that its signed cost is within the budget. -/
theorem buyCandidate_within (certain : probability ≤ 1)
    (proposed : strategy.buyCandidate market forecast book outcome probability portfolio =
      some candidate) :
    ∃ bestAsk, book.bestAsk = some bestAsk ∧ bestAsk < probability ∧
      0 < strategy.entryBudget market probability bestAsk portfolio ∧
      candidate.Names market book outcome ∧
      candidate.Within strategy.power market book
        (strategy.entryBudget market probability bestAsk portfolio) ∧
      0 < candidate.edgeAfterCosts ∧
      candidate.edgeAfterCosts ≤ probability - strategy.settings.uncertaintyReserve := by
  unfold buyCandidate at proposed
  simp only [option_bind_eq_some_iff, exists_guard_eq_some_iff] at proposed
  obtain ⟨bestAsk, found, below, budget, ⟨minimum, shares, base⟩, limitPrice, limited,
    ⟨edge, commitment⟩, made⟩ := proposed
  have bounded := strategy.sweepBook_bounded market book
    (strategy.entryBudget market probability bestAsk portfolio)
  generalize strategy.sweepBook market book
    (strategy.entryBudget market probability bestAsk portfolio) = sweep at *
  cases made
  obtain ⟨limit_pos, limit_lt_one, -, -⟩ := bounded.limit limitPrice limited
  have whole : quantizeDown sweep.shares sizeStep = sweep.shares := by
    obtain ⟨count, same⟩ := bounded.whole
    rw [same, quantizeDown_whole]
  have divisor : 0 < max (quantizeDown sweep.shares sizeStep) (1 / 100000000) :=
    lt_max_of_lt_left shares
  have vwap : 0 < sweep.baseCost / max (quantizeDown sweep.shares sizeStep) (1 / 100000000) :=
    div_pos base divisor
  have fee : 0 ≤ sweep.feeCost / max (quantizeDown sweep.shares sizeStep) (1 / 100000000) :=
    div_nonneg bounded.feeCost_nonneg divisor.le
  have reserve := strategy.settings.uncertaintyReserve_bounds.1
  have priced : (strategy.entry market forecast book outcome probability sweep
      limitPrice).edgeAfterCosts = probability -
        sweep.baseCost / max (quantizeDown sweep.shares sizeStep) (1 / 100000000) -
        sweep.feeCost / max (quantizeDown sweep.shares sizeStep) (1 / 100000000) -
        strategy.settings.uncertaintyReserve := rfl
  refine ⟨bestAsk, found, below, budget, ⟨rfl, rfl, rfl, rfl, rfl⟩, ⟨rfl, ?_, minimum, ?_, commitment⟩,
    edge, by linarith⟩
  · refine ⟨⟨?_, certain⟩, ⟨vwap, ?_⟩, ⟨limit_pos, limit_lt_one⟩, shares, ?_, ?_,
      bounded.feeCost_nonneg⟩
    · exact ((bestAsk_bounds found).1.trans below).le
    · change sweep.baseCost / max (quantizeDown sweep.shares sizeStep) (1 / 100000000) < 1
      linarith
    · exact add_pos_of_pos_of_nonneg base bounded.feeCost_nonneg
    · rintro _ ⟨⟩
      exact maximumBuyCost_pos shares limit_pos
  · change sweep.baseCost + sweep.feeCost ≤
      maximumBuyCost strategy.power (quantizeDown sweep.shares sizeStep) limitPrice market.feeSchedule
    rw [whole]
    exact bounded.cost_le limited

/-- The swept exit reaches the minimum size, so it has proceeds. -/
theorem exitSweep_priced {breaks : Bool} {shareCap : ℚ}
    (minimum : max market.minimumOrderSize book.minimumOrderSize ≤
      (strategy.exitSweep market book breaks shareCap).filled) :
    0 < (strategy.exitSweep market book breaks shareCap).filled ∧
      0 ≤ (strategy.exitSweep market book breaks shareCap).fee ∧
      0 < (strategy.exitSweep market book breaks shareCap).gross /
        (strategy.exitSweep market book breaks shareCap).filled ∧
      (strategy.exitSweep market book breaks shareCap).gross /
        (strategy.exitSweep market book breaks shareCap).filled < 1 ∧
      ∀ price, (strategy.exitSweep market book breaks shareCap).limitPrice = some price →
        0 < price ∧ price < 1 := by
  have bounded := strategy.exitSweep_bounded market book breaks shareCap
  obtain ⟨fee, limit, proceeds⟩ := bounded.quantized
  have filled : 0 < (strategy.exitSweep market book breaks shareCap).filled :=
    (lt_max_of_lt_left market.minimumOrderSize_pos).trans_le minimum
  obtain ⟨gross, below⟩ := proceeds filled
  refine ⟨filled, fee, div_pos gross filled, (div_lt_one filled).mpr below, fun price limited => ?_⟩
  exact bounded.limit price (limit ▸ limited)

theorem sellCandidate_valid (nonneg : 0 ≤ probability) (certain : probability ≤ 1)
    (proposed : strategy.sellCandidate market forecast book outcome probability portfolio =
      some candidate) :
    candidate.side = .sell ∧ candidate.Names market book outcome ∧ candidate.Valid := by
  unfold sellCandidate at proposed
  simp only [option_bind_eq_some_iff, exists_guard_eq_some_iff] at proposed
  obtain ⟨-, bestBid, -, -, shareCap, -, minimum, limitPrice, limited, edge, made⟩ := proposed
  obtain ⟨filled, fee, vwap, vwap_lt_one, limit⟩ := strategy.exitSweep_priced minimum
  generalize strategy.exitSweep market book true shareCap = sweep at *
  cases made
  have reserve := strategy.settings.uncertaintyReserve_bounds.1
  have proceeds : 0 < (sweep.gross - sweep.fee) / sweep.filled := by
    rw [sub_div]
    linarith
  refine ⟨rfl, ⟨rfl, rfl, rfl, rfl, rfl⟩, ⟨nonneg, certain⟩, ⟨vwap, vwap_lt_one⟩, limit _ limited,
    filled, ?_, nofun, fee⟩
  exact (div_pos_iff_of_pos_right filled).mp proceeds

theorem riskExitCandidate_valid {now : Instant}
    (proposed : strategy.riskExitCandidate market book outcome portfolio now = some candidate) :
    candidate.side = .sell ∧ candidate.Names market book outcome ∧ candidate.Valid := by
  unfold riskExitCandidate at proposed
  simp only [option_bind_eq_some_iff, exists_guard_eq_some_iff] at proposed
  obtain ⟨-, bestBid, -, shareCap, -, minimum, limitPrice, limited, charged, made⟩ := proposed
  obtain ⟨filled, fee, vwap, vwap_lt_one, limit⟩ := strategy.exitSweep_priced minimum
  generalize strategy.exitSweep market book false shareCap = sweep at *
  cases made
  exact ⟨rfl, ⟨rfl, rfl, rfl, rfl, rfl⟩, ⟨le_rfl, zero_le_one⟩, ⟨vwap, vwap_lt_one⟩,
    limit _ limited, filled, sub_pos.mpr charged, nofun, fee⟩

theorem best_eq_some {key : TradeCandidate → ℚ} {first second : Option TradeCandidate}
    (chosen : best key first second = some candidate) :
    first = some candidate ∨ second = some candidate := by
  unfold best at chosen
  split at chosen
  · split at chosen
    · exact .inr chosen
    · exact .inl chosen
  · exact .inl chosen
  · exact .inr chosen

/-- Where a choice comes from. -/
theorem choose_cases {yesBook noBook : TimedBook}
    (chosen : strategy.choose market forecast yesBook noBook portfolio = some candidate) :
    ∃ outcome probability, 0 ≤ probability ∧ probability ≤ 1 ∧
      (strategy.sellCandidate market forecast (bookOf outcome yesBook noBook) outcome probability
          portfolio = some candidate ∨
        strategy.buyCandidate market forecast (bookOf outcome yesBook noBook) outcome probability
          portfolio = some candidate) := by
  have low_nonneg := forecast.low_nonneg
  have high_le_one := forecast.high_le_one
  have low_le := forecast.low_le
  have le_high := forecast.le_high
  unfold choose at chosen
  split at chosen
  · cases chosen
  · split at chosen
    · rename_i exit exits
      cases chosen
      rcases best_eq_some exits with yes | no
      · exact ⟨.yes, _, by linarith, high_le_one, .inl yes⟩
      · exact ⟨.no, 1 - forecast.probabilityLow, by linarith, by linarith, .inl no⟩
    · rcases best_eq_some chosen with yes | no
      · exact ⟨.yes, _, low_nonneg, by linarith, .inr yes⟩
      · exact ⟨.no, 1 - forecast.probabilityHigh, by linarith, by linarith, .inr no⟩

theorem chooseRiskExit_cases {yesBook noBook : TimedBook} {now : Instant}
    (chosen : strategy.chooseRiskExit market yesBook noBook portfolio now = some candidate) :
    ∃ outcome, strategy.riskExitCandidate market (bookOf outcome yesBook noBook) outcome portfolio now =
      some candidate := by
  unfold chooseRiskExit at chosen
  split at chosen
  · rcases best_eq_some chosen with yes | no
    · exact ⟨.yes, yes⟩
    · exact ⟨.no, no⟩
  · cases chosen

end ValueStrategy

end Polybot
