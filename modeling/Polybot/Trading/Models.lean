import Mathlib.Data.List.Sort
import Mathlib.Tactic.NormNum
import Polybot.Models
import Polybot.Collections.Dict

/-!
Markets, forecasts, portfolios and candidates (`polybot/models.py`), and the
settings that bound a trade (`polybot/config.py`).

An instance that pydantic has validated carries its bounds as fields. Absent keys
of an exposure or a position count as zero, as in the source, which reads them
with `.get(key, Decimal("0"))`.
-/

namespace Polybot

/-- `text or other`. -/
def textOr (text : Option String) (other : String) : String :=
  if truthy text then text.getD other else other

theorem textOr_ne_empty {text : Option String} {other : String} (nonempty : other ≠ "") :
    textOr text other ≠ "" := by
  unfold textOr
  split
  · rename_i known
    obtain ⟨t, rfl, present⟩ := truthy_iff.mp known
    exact present
  · exact nonempty

/-- `UNCLASSIFIED_EVENT_KEY`. -/
def unclassifiedEventKey : String := "__unclassified_event__"

/-- The key under which live portfolios report their bucket exposure. -/
def unclassifiedBucketKey : String := "__unclassified__"

/-- The value of a key that may be absent. -/
def amount (dict : Dict String ℚ) (key : String) : ℚ :=
  (dict.get? key).getD 0

@[simp] theorem amount_empty (key : String) : amount Dict.empty key = 0 := rfl

theorem amount_set (dict : Dict String ℚ) (key other : String) (value : ℚ) :
    amount (dict.set key value) other = if other = key then value else amount dict other := by
  unfold amount
  rw [Dict.get?_set]
  split <;> rfl

/-! ### Books -/

/-- The bounds of a book level. -/
structure BookLevel.Valid (level : BookLevel) : Prop where
  price_pos : 0 < level.price
  price_lt_one : level.price < 1
  size_pos : 0 < level.size

theorem BookLevel.valid_nil : ∀ level ∈ ([] : List BookLevel), level.Valid :=
  List.forall_mem_nil _

theorem BookLevel.valid_tenAtHalf : ∀ level ∈ [BookLevel.mk (1 / 2) 10], level.Valid :=
  List.forall_mem_singleton.mpr ⟨Literal.half_pos, Literal.half_lt_one, Literal.ten_pos⟩

theorem BookLevel.valid_hundredAtHalf : ∀ level ∈ [BookLevel.mk (1 / 2) 100], level.Valid :=
  List.forall_mem_singleton.mpr ⟨Literal.half_pos, Literal.half_lt_one, by norm_num⟩

/-- The levels of a book are validated. -/
structure OrderBookSnapshot.Valid (book : OrderBookSnapshot) : Prop where
  bids : ∀ level ∈ book.bids, level.Valid
  asks : ∀ level ∈ book.asks, level.Valid

/-- Cheapest level first. -/
def askOrder (levels : List BookLevel) : List BookLevel :=
  levels.insertionSort fun a b => a.price ≤ b.price

/-- Dearest level first. -/
def bidOrder (levels : List BookLevel) : List BookLevel :=
  levels.insertionSort fun a b => b.price ≤ a.price

theorem askOrder_sorted (levels : List BookLevel) :
    (askOrder levels).Pairwise fun a b => a.price ≤ b.price :=
  List.pairwise_insertionSort _ levels

theorem bidOrder_sorted (levels : List BookLevel) :
    (bidOrder levels).Pairwise fun a b => b.price ≤ a.price :=
  List.pairwise_insertionSort _ levels

theorem mem_askOrder {levels : List BookLevel} {level : BookLevel} :
    level ∈ askOrder levels ↔ level ∈ levels :=
  List.mem_insertionSort _

theorem mem_bidOrder {levels : List BookLevel} {level : BookLevel} :
    level ∈ bidOrder levels ↔ level ∈ levels :=
  List.mem_insertionSort _

/-- A validated book with the grid and the time that the gates read. -/
structure TimedBook extends OrderBookSnapshot where
  tickSize : ℚ
  minimumOrderSize : ℚ
  capturedAt : Instant
  valid : toOrderBookSnapshot.Valid
  tickSize_pos : 0 < tickSize
  minimumOrderSize_pos : 0 < minimumOrderSize

/-! ### Markets and forecasts -/

/-- The fields of a market that pricing, sizing and the gates read. -/
structure MarketSpec where
  id : String
  conditionId : Option String
  eventId : Option String
  category : String
  yesTokenId : String
  noTokenId : String
  active : Bool
  closed : Bool
  acceptingOrders : Bool
  liquidityUsd : ℚ
  minimumOrderSize : ℚ
  feesEnabled : Bool
  feeRate : ℚ
  feeExponent : ℚ
  endAt : Option Instant
  id_nonempty : id ≠ ""
  liquidityUsd_nonneg : 0 ≤ liquidityUsd
  minimumOrderSize_pos : 0 < minimumOrderSize
  feeRate_nonneg : 0 ≤ feeRate
  feeExponent_pos : 0 < feeExponent
  feeRate_pos : feesEnabled = true → 0 < feeRate
  tokens_differ : yesTokenId ≠ noTokenId

/-- The key of the market's event. -/
def MarketSpec.eventKey (market : MarketSpec) : String :=
  textOr market.eventId market.id

/-- The market's risk bucket, `market.category or "other"`. -/
def MarketSpec.bucket (market : MarketSpec) : String :=
  textOr (some market.category) "other"

/-- A probability interval. -/
structure Forecast where
  id : String
  probabilityYes : ℚ
  probabilityLow : ℚ
  probabilityHigh : ℚ
  confidence : ℚ
  low_nonneg : 0 ≤ probabilityLow
  high_le_one : probabilityHigh ≤ 1
  low_le : probabilityLow ≤ probabilityYes
  le_high : probabilityYes ≤ probabilityHigh
  confidence_nonneg : 0 ≤ confidence
  confidence_le_one : confidence ≤ 1

/-! ### Portfolios -/

structure PortfolioState where
  bankrollUsd : ℚ
  cashUsd : ℚ
  grossExposureUsd : ℚ
  eventExposureUsd : Dict String ℚ
  bucketExposureUsd : Dict String ℚ
  tokenPositions : Dict String ℚ
  tokenConditionIds : Dict String String
  tokenMarketIds : Dict String String
  tokenEventIds : Dict String String
  realizedPnlTodayUsd : ℚ
  peakEquityUsd : Option ℚ
  equityUsd : Option ℚ
  dayStartEquityUsd : Option ℚ

namespace PortfolioState

def dailyEquityPnlUsd (portfolio : PortfolioState) : ℚ :=
  match portfolio.equityUsd, portfolio.dayStartEquityUsd with
  | some equity, some dayStart => equity - dayStart
  | _, _ => 0

/-- The more adverse of the realized and the equity result. -/
def dailyRiskPnlUsd (portfolio : PortfolioState) : ℚ :=
  if portfolio.equityUsd = none ∨ portfolio.dayStartEquityUsd = none then
    portfolio.realizedPnlTodayUsd
  else min portfolio.realizedPnlTodayUsd portfolio.dailyEquityPnlUsd

def dailyLossBasisUsd (portfolio : PortfolioState) : ℚ :=
  match portfolio.dayStartEquityUsd with
  | none => portfolio.bankrollUsd
  | some dayStart =>
      if dayStart ≤ 0 then portfolio.bankrollUsd else min portfolio.bankrollUsd dayStart

def drawdownPct (portfolio : PortfolioState) : ℚ :=
  match portfolio.peakEquityUsd, portfolio.equityUsd with
  | some peak, some equity => if peak ≤ 0 then 0 else max 0 ((peak - equity) / peak)
  | _, _ => 0

end PortfolioState

/-! ### Candidates -/

structure TradeCandidate where
  marketId : String
  conditionId : Option String
  eventId : Option String
  bucket : String
  tokenId : String
  outcome : Outcome
  side : Side
  conservativeProbability : ℚ
  expectedPrice : ℚ
  limitPrice : ℚ
  size : ℚ
  notionalUsd : ℚ
  maxCommitmentUsd : Option ℚ
  feeEstimateUsd : ℚ
  edgeAfterCosts : ℚ
  strategy : String
  forecastId : Option String
  decisionKey : Option String
  bookCapturedAt : Instant
  deriving DecidableEq

/-- The bounds that the constructor of a candidate checks. -/
structure TradeCandidate.Valid (candidate : TradeCandidate) : Prop where
  conservativeProbability : 0 ≤ candidate.conservativeProbability ∧
    candidate.conservativeProbability ≤ 1
  expectedPrice : 0 < candidate.expectedPrice ∧ candidate.expectedPrice < 1
  limitPrice : 0 < candidate.limitPrice ∧ candidate.limitPrice < 1
  size : 0 < candidate.size
  notionalUsd : 0 < candidate.notionalUsd
  maxCommitmentUsd : ∀ commitment ∈ candidate.maxCommitmentUsd, 0 < commitment
  feeEstimateUsd : 0 ≤ candidate.feeEstimateUsd

/-! ### Settings -/

/-- The settings of the strategy and of the risk engine. -/
structure Settings where
  accountId : String
  mode : TradingMode
  bankrollUsd : ℚ
  minLiquidityUsd : ℚ
  minEdge : ℚ
  uncertaintyReserve : ℚ
  maxOrderUsd : ℚ
  maxTradeRiskPct : ℚ
  maxEventExposurePct : ℚ
  maxBucketExposurePct : ℚ
  maxGrossExposurePct : ℚ
  dailyLossLimitPct : ℚ
  maxDrawdownPct : ℚ
  kellyFraction : ℚ
  maxBookAgeSeconds : Nat
  minHoursToResolution : Nat
  minForecastConfidence : ℚ
  bankrollUsd_pos : 0 < bankrollUsd
  uncertaintyReserve_bounds : 0 ≤ uncertaintyReserve ∧ uncertaintyReserve ≤ 1
  maxOrderUsd_pos : 0 < maxOrderUsd
  maxTradeRiskPct_bounds : 0 < maxTradeRiskPct ∧ maxTradeRiskPct ≤ 1
  maxEventExposurePct_bounds : 0 < maxEventExposurePct ∧ maxEventExposurePct ≤ 1
  maxBucketExposurePct_bounds : 0 < maxBucketExposurePct ∧ maxBucketExposurePct ≤ 1
  maxGrossExposurePct_bounds : 0 < maxGrossExposurePct ∧ maxGrossExposurePct ≤ 1
  kellyFraction_bounds : 0 < kellyFraction ∧ kellyFraction ≤ 1
  minForecastConfidence_bounds : 0 ≤ minForecastConfidence ∧ minForecastConfidence ≤ 1

/-- The defaults of the configuration. -/
def Settings.standard : Settings where
  accountId := "account"
  mode := .paper
  bankrollUsd := 1000
  minLiquidityUsd := 10000
  minEdge := 1 / 25
  uncertaintyReserve := 1 / 100
  maxOrderUsd := 5
  maxTradeRiskPct := 1 / 200
  maxEventExposurePct := 1 / 50
  maxBucketExposurePct := 1 / 20
  maxGrossExposurePct := 1 / 10
  dailyLossLimitPct := 1 / 50
  maxDrawdownPct := 2 / 25
  kellyFraction := 1 / 4
  maxBookAgeSeconds := 5
  minHoursToResolution := 6
  minForecastConfidence := 11 / 20
  bankrollUsd_pos := by norm_num
  uncertaintyReserve_bounds := by norm_num
  maxOrderUsd_pos := Literal.five_pos
  maxTradeRiskPct_bounds := by norm_num
  maxEventExposurePct_bounds := by norm_num
  maxBucketExposurePct_bounds := by norm_num
  maxGrossExposurePct_bounds := by norm_num
  kellyFraction_bounds := by norm_num
  minForecastConfidence_bounds := by norm_num

end Polybot
