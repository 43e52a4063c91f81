import Polybot.Trading.Strategy

/-!
The risk engine (`polybot/risk.py`).

The gate collects a code for every check that fails and approves a candidate
without codes. `sizeFits_iff` says when a BUY gets none of the codes about its size.
-/

namespace Polybot

/-- The codes of `evaluate_candidate`, in camel case. -/
inductive RiskCode where
  | marketNotTradeable
  | invalidFeeSchedule
  | insufficientMarketLiquidity
  | staleOrderBook
  | tooCloseToResolution
  | edgeBelowThreshold
  | orderCapExceeded
  | invalidTickPrice
  | belowMinimumOrderSize
  | insufficientCash
  | tradeRiskCapExceeded
  | eventExposureCapExceeded
  | correlatedBucketCapExceeded
  | grossExposureCapExceeded
  | dailyLossKillSwitch
  | drawdownKillSwitch
  | emptyAskBook
  | limitNotMarketable
  | sellExceedsPosition
  | emptyBidBook
  | sellLimitNotMarketable
  deriving DecidableEq

/-- The codes that say that a candidate is too large or too small. -/
def sizeCodes : List RiskCode :=
  [.orderCapExceeded, .insufficientCash, .tradeRiskCapExceeded, .eventExposureCapExceeded,
    .correlatedBucketCapExceeded, .grossExposureCapExceeded, .belowMinimumOrderSize]

structure RiskDecision where
  approved : Bool
  codes : List RiskCode

/-- `RiskEngine`, with the power that its fee bound uses. -/
structure RiskEngine where
  settings : Settings
  power : DecimalPower

/-- The code, if the check fails. -/
def codeIf (fails : Prop) [Decidable fails] (code : RiskCode) : List RiskCode :=
  if fails then [code] else []

@[simp] theorem mem_codeIf {fails : Prop} [Decidable fails] {code other : RiskCode} :
    other ∈ codeIf fails code ↔ fails ∧ other = code := by
  unfold codeIf
  split
  · rename_i here
    simp [here]
  · rename_i here
    simp [here]

/-- `candidate.side is Side.SELL and candidate.strategy == "risk_exit_v1"`. -/
def TradeCandidate.RiskExit (candidate : TradeCandidate) : Prop :=
  candidate.side = .sell ∧ candidate.strategy = "risk_exit_v1"

instance (candidate : TradeCandidate) : Decidable candidate.RiskExit :=
  inferInstanceAs (Decidable (_ ∧ _))

/-- The key of the candidate's event. -/
def TradeCandidate.eventKey (candidate : TradeCandidate) : String :=
  textOr candidate.eventId candidate.marketId

namespace RiskEngine

variable (engine : RiskEngine)

/-- The cost that the gate counts: the bound of a signed BUY, the proceeds of a
SELL. -/
def commitment (candidate : TradeCandidate) (market : MarketSpec) : ℚ :=
  match candidate.side with
  | .buy =>
      maximumBuyCost engine.power candidate.size candidate.limitPrice market.feeSchedule
  | .sell => candidate.notionalUsd

/-- The checks of a BUY. -/
def buyCodes (candidate : TradeCandidate) (market : MarketSpec) (book : TimedBook)
    (portfolio : PortfolioState) : List RiskCode :=
  let commitment := engine.commitment candidate market
  let bankroll := portfolio.bankrollUsd
  let eventAfter := amount portfolio.eventExposureUsd candidate.eventKey
    + amount portfolio.eventExposureUsd unclassifiedEventKey + commitment
  let bucketAfter := amount portfolio.bucketExposureUsd candidate.bucket
    + amount portfolio.bucketExposureUsd unclassifiedBucketKey + commitment
  codeIf (portfolio.cashUsd < commitment) .insufficientCash
    ++ codeIf (bankroll * engine.settings.maxTradeRiskPct < commitment) .tradeRiskCapExceeded
    ++ codeIf (bankroll * engine.settings.maxEventExposurePct < eventAfter)
      .eventExposureCapExceeded
    ++ codeIf (bankroll * engine.settings.maxBucketExposurePct < bucketAfter)
      .correlatedBucketCapExceeded
    ++ codeIf (bankroll * engine.settings.maxGrossExposurePct <
      portfolio.grossExposureUsd + commitment) .grossExposureCapExceeded
    ++ codeIf (portfolio.dailyRiskPnlUsd ≤
      -(portfolio.dailyLossBasisUsd * engine.settings.dailyLossLimitPct)) .dailyLossKillSwitch
    ++ codeIf (engine.settings.maxDrawdownPct ≤ portfolio.drawdownPct) .drawdownKillSwitch
    ++ match book.bestAsk with
      | none => [.emptyAskBook]
      | some bestAsk => codeIf (candidate.limitPrice < bestAsk) .limitNotMarketable

/-- The checks of a SELL. -/
def sellCodes (candidate : TradeCandidate) (book : TimedBook) (portfolio : PortfolioState) :
    List RiskCode :=
  codeIf (amount portfolio.tokenPositions candidate.tokenId < candidate.size) .sellExceedsPosition
    ++ match book.bestBid with
      | none => [.emptyBidBook]
      | some bestBid => codeIf (bestBid < candidate.limitPrice) .sellLimitNotMarketable

/-- The checks of the market, the book and the order. -/
def orderCodes (candidate : TradeCandidate) (market : MarketSpec) (book : TimedBook)
    (now : Instant) : List RiskCode :=
  codeIf (market.active = false ∨ market.closed = true ∨ market.acceptingOrders = false)
      .marketNotTradeable
    ++ codeIf (market.feesEnabled = true ∧ market.feeRate ≤ 0) .invalidFeeSchedule
    ++ codeIf (¬ candidate.RiskExit ∧ market.liquidityUsd < engine.settings.minLiquidityUsd)
      .insufficientMarketLiquidity
    ++ codeIf ((engine.settings.maxBookAgeSeconds : ℤ) * 1000000 < now - book.capturedAt)
      .staleOrderBook
    ++ codeIf (candidate.side = .buy ∧ ∃ endAt ∈ market.endAt,
      endAt - now < (engine.settings.minHoursToResolution : ℤ) * 3600000000) .tooCloseToResolution
    ++ codeIf (¬ candidate.RiskExit ∧ candidate.edgeAfterCosts < engine.settings.minEdge)
      .edgeBelowThreshold
    ++ codeIf (engine.settings.maxOrderUsd < engine.commitment candidate market) .orderCapExceeded
    ++ codeIf (candidate.limitPrice - book.tickSize * floorDiv candidate.limitPrice book.tickSize ≠ 0)
      .invalidTickPrice
    ++ codeIf (candidate.size < max market.minimumOrderSize book.minimumOrderSize)
      .belowMinimumOrderSize

/-- `evaluate_candidate`. -/
def evaluateCandidate (candidate : TradeCandidate) (market : MarketSpec) (book : TimedBook)
    (portfolio : PortfolioState) (now : Instant) : RiskDecision :=
  let codes := engine.orderCodes candidate market book now ++
    match candidate.side with
    | .buy => engine.buyCodes candidate market book portfolio
    | .sell => sellCodes candidate book portfolio
  ⟨codes = [], codes⟩

/-! ### The size checks of a BUY -/

/-- Every size limit holds after the BUY. -/
structure SizeFits (candidate : TradeCandidate) (market : MarketSpec) (book : TimedBook)
    (portfolio : PortfolioState) : Prop where
  order : engine.commitment candidate market ≤ engine.settings.maxOrderUsd
  cash : engine.commitment candidate market ≤ portfolio.cashUsd
  tradeRisk : engine.commitment candidate market ≤
    portfolio.bankrollUsd * engine.settings.maxTradeRiskPct
  event : amount portfolio.eventExposureUsd candidate.eventKey +
    amount portfolio.eventExposureUsd unclassifiedEventKey + engine.commitment candidate market ≤
      portfolio.bankrollUsd * engine.settings.maxEventExposurePct
  bucket : amount portfolio.bucketExposureUsd candidate.bucket +
    amount portfolio.bucketExposureUsd unclassifiedBucketKey + engine.commitment candidate market ≤
      portfolio.bankrollUsd * engine.settings.maxBucketExposurePct
  gross : portfolio.grossExposureUsd + engine.commitment candidate market ≤
    portfolio.bankrollUsd * engine.settings.maxGrossExposurePct
  minimum : max market.minimumOrderSize book.minimumOrderSize ≤ candidate.size

variable {engine} {candidate : TradeCandidate} {market : MarketSpec} {book : TimedBook}
  {portfolio : PortfolioState}

/-- A BUY gets no size code exactly when every size limit holds. -/
theorem sizeFits_iff (buys : candidate.side = .buy) (now : Instant) :
    engine.SizeFits candidate market book portfolio ↔
      ∀ code ∈ sizeCodes, code ∉
        (engine.evaluateCandidate candidate market book portfolio now).codes := by
  have codes : (engine.evaluateCandidate candidate market book portfolio now).codes =
      engine.orderCodes candidate market book now ++
        engine.buyCodes candidate market book portfolio := by
    unfold evaluateCandidate
    rw [buys]
  unfold buyCodes at codes
  dsimp only at codes
  generalize isAsk : (match book.bestAsk with
    | none => [RiskCode.emptyAskBook]
    | some bestAsk => codeIf (candidate.limitPrice < bestAsk) .limitNotMarketable) = asks at codes
  -- The codes of the ask book are about the price.
  have priced : ∀ code ∈ sizeCodes, code ∉ asks := by
    subst isAsk
    cases book.bestAsk with
    | none => simp [sizeCodes]
    | some bestAsk =>
        intro code size member
        rw [(mem_codeIf.mp member).2] at size
        exact absurd size (by decide)
  simp only [sizeCodes, List.forall_mem_cons, List.not_mem_nil, false_implies, implies_true,
    and_true] at priced ⊢
  simp only [codes, orderCodes, List.mem_append, mem_codeIf, reduceCtorEq, and_false, and_true,
    false_or, or_false, priced, not_lt]
  constructor
  · rintro ⟨order, cash, tradeRisk, event, bucket, gross, minimum⟩
    exact ⟨order, cash, tradeRisk, event, bucket, gross, minimum⟩
  · rintro ⟨order, cash, tradeRisk, event, bucket, gross, minimum⟩
    exact ⟨order, cash, tradeRisk, event, bucket, gross, minimum⟩

/-- An approved candidate has no codes. -/
theorem codes_of_approved {now : Instant}
    (approved : (engine.evaluateCandidate candidate market book portfolio now).approved = true) :
    (engine.evaluateCandidate candidate market book portfolio now).codes = [] :=
  of_decide_eq_true approved

theorem sizeFits_of_approved {now : Instant} (buys : candidate.side = .buy)
    (approved : (engine.evaluateCandidate candidate market book portfolio now).approved = true) :
    engine.SizeFits candidate market book portfolio := by
  refine (sizeFits_iff buys now).mpr fun code _ => ?_
  rw [codes_of_approved approved]
  exact List.not_mem_nil

end RiskEngine

end Polybot
