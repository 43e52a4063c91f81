import Polybot.Paper.Conservation
import Polybot.Trading.Sizing

/-!
The risk caps of paper trading (`TradingEngine._execute_candidate`).

A `PaperCycle` reads the portfolio, lets the strategy propose a candidate, and
submits its intent when the risk engine approves. The gate checks an upper bound of
the cost, and a fill pays a part of the intent's notional, so an approved BUY keeps
the caps; a SELL only releases exposure. `risk_caps_hold` is the invariant over all
runs.
-/

namespace Polybot

open Interaction

/-! ### Intents of candidates -/

/-- The fields that an intent hash digests. -/
structure CanonicalIntent where
  accountId : String
  mode : TradingMode
  marketId : String
  tokenId : String
  outcome : String
  side : Side
  price : ℚ
  size : ℚ
  strategy : String
  forecastId : Option String
  decisionKey : Option String

def TradeCandidate.canonical (candidate : TradeCandidate) (settings : Settings) : CanonicalIntent where
  accountId := settings.accountId
  mode := settings.mode
  marketId := candidate.marketId
  tokenId := candidate.tokenId
  outcome := candidate.outcome.value
  side := candidate.side
  price := candidate.limitPrice
  size := candidate.size
  strategy := candidate.strategy
  forecastId := candidate.forecastId
  decisionKey := candidate.decisionKey

/-- `TradeIntent.from_candidate`. -/
def PaperIntent.fromCandidate (digest : CanonicalIntent → String) (settings : Settings)
    (candidate : TradeCandidate) : PaperIntent where
  intentHash := digest (candidate.canonical settings)
  accountId := settings.accountId
  mode := settings.mode
  marketId := candidate.marketId
  tokenId := candidate.tokenId
  outcome := candidate.outcome
  side := candidate.side
  price := candidate.limitPrice
  size := candidate.size
  strategy := candidate.strategy
  postOnly := false
  conditionId := candidate.conditionId
  eventId := candidate.eventId
  bucket := candidate.bucket
  notionalUsd := candidate.notionalUsd

/-! ### Cycles -/

/-- The engine's strategy, with the gate under its settings, and the hash of its
intents. -/
structure TradingEngine where
  strategy : ValueStrategy
  digest : CanonicalIntent → String

/-- `self.settings`. -/
def TradingEngine.settings (engine : TradingEngine) : Settings :=
  engine.strategy.settings

/-- What asks for a candidate: a forecast, or the check for hard risk. -/
inductive Proposal where
  | value (forecast : Forecast)
  | riskExit (now : Instant)

/-- One market in one cycle. -/
structure PaperCycle where
  today : Day
  market : MarketSpec
  yesBook : TimedBook
  noBook : TimedBook
  proposal : Proposal
  decidedAt : Instant

namespace PaperCycle

variable (engine : TradingEngine) (cycle : PaperCycle)

/-- `choose`, or `choose_risk_exit`. -/
def propose (portfolio : PortfolioState) : Option TradeCandidate :=
  match cycle.proposal with
  | .value forecast =>
      engine.strategy.choose cycle.market forecast cycle.yesBook cycle.noBook portfolio
  | .riskExit now =>
      engine.strategy.chooseRiskExit cycle.market cycle.yesBook cycle.noBook portfolio now

/-- `selected_book`. -/
def selectedBook (candidate : TradeCandidate) : TimedBook :=
  if candidate.tokenId = cycle.market.yesTokenId then cycle.yesBook else cycle.noBook

/-- `_execute_candidate`. -/
def executeCandidate (broker : PaperBroker) (candidate : TradeCandidate) (portfolio : PortfolioState) :
    PaperBroker :=
  let book := cycle.selectedBook candidate
  if (engine.strategy.gate.evaluateCandidate candidate cycle.market book portfolio
      cycle.decidedAt).approved then
    (broker.submit (.fromCandidate engine.digest engine.settings candidate)
      book.toOrderBookSnapshot).1
  else broker

/-- Read the portfolio, choose and execute. -/
def apply (broker : PaperBroker) : PaperBroker :=
  let settled := broker.portfolioState cycle.today
  match cycle.propose engine settled.2 with
  | none => settled.1
  | some candidate => cycle.executeCandidate engine settled.1 candidate settled.2

end PaperCycle

/-- The engine runs a cycle. -/
def CycleStep (engine : TradingEngine) (before : PaperBroker) (cycle : PaperCycle)
    (after : PaperBroker) : Prop :=
  cycle.apply engine before = after

/-! ### Caps -/

/-- The caps, for a bankroll. -/
structure PaperBroker.WithinCaps (settings : Settings) (bankroll : ℚ) (broker : PaperBroker) : Prop where
  cash : 0 ≤ broker.cash
  gross : broker.gross ≤ bankroll * settings.maxGrossExposurePct
  event : ∀ key, amount broker.eventExposure key ≤ bankroll * settings.maxEventExposurePct
  bucket : ∀ key, amount broker.bucketExposure key ≤ bankroll * settings.maxBucketExposurePct

/-- What a step debits is within the limits of one order. -/
def DebitWithin (settings : Settings) (bankroll : ℚ) (before after : PaperBroker) : Prop :=
  before.cash - after.cash ≤ settings.maxOrderUsd ∧
    before.cash - after.cash ≤ bankroll * settings.maxTradeRiskPct

/-- The caps and what carries them. -/
structure PaperBroker.Capped (settings : Settings) (bankroll : ℚ) (broker : PaperBroker) : Prop where
  caps : broker.WithinCaps settings bankroll
  sound : broker.Sound
  bankroll : broker.initialBankroll = bankroll
  event_nonneg : ∀ key, 0 ≤ amount broker.eventExposure key
  bucket_nonneg : ∀ key, 0 ≤ amount broker.bucketExposure key

namespace PaperBroker

variable {settings : Settings} {bankroll : ℚ} {broker after : PaperBroker} {intent : PaperIntent}
  {book : OrderBookSnapshot} {result : ExecutionResult}

theorem new_capped (settings : Settings) (solvent : 0 ≤ bankroll) (today : Day) :
    (new bankroll today).Capped settings bankroll where
  caps :=
    { cash := solvent
      gross := mul_nonneg solvent settings.maxGrossExposurePct_bounds.1.le
      event := fun _ => mul_nonneg solvent settings.maxEventExposurePct_bounds.1.le
      bucket := fun _ => mul_nonneg solvent settings.maxBucketExposurePct_bounds.1.le }
  sound := new_sound bankroll today
  bankroll := rfl
  event_nonneg _ := le_rfl
  bucket_nonneg _ := le_rfl

/-- The caps read the books only. -/
theorem Capped.of_books (capped : broker.Capped settings bankroll)
    (books : after = { broker with
      seenIntents := after.seenIntents
      intentHistory := after.intentHistory
      realizedPnl := after.realizedPnl
      peakEquity := after.peakEquity
      riskDay := after.riskDay
      dayStartEquity := after.dayStartEquity }) : after.Capped settings bankroll := by
  rw [books]
  exact ⟨⟨capped.caps.cash, capped.caps.gross, capped.caps.event, capped.caps.bucket⟩,
    ⟨capped.sound.positions, capped.sound.costs, capped.sound.flat⟩, capped.bankroll,
    capped.event_nonneg, capped.bucket_nonneg⟩

/-- The caps have room for a BUY. -/
structure Room (settings : Settings) (bankroll : ℚ) (broker : PaperBroker) (intent : PaperIntent) :
    Prop where
  order : intent.notionalUsd ≤ settings.maxOrderUsd
  tradeRisk : intent.notionalUsd ≤ bankroll * settings.maxTradeRiskPct
  gross : broker.gross + intent.notionalUsd ≤ bankroll * settings.maxGrossExposurePct
  event : amount broker.eventExposure intent.eventKey + intent.notionalUsd ≤
    bankroll * settings.maxEventExposurePct
  bucket : amount broker.bucketExposure intent.bucket + intent.notionalUsd ≤
    bankroll * settings.maxBucketExposurePct

/-- A counter after a debit of at most `notional`. -/
theorem counter_buy_le {exposure : Dict String ℚ} {key : String} {cost notional cap : ℚ}
    (within : ∀ other, amount exposure other ≤ cap) (room : amount exposure key + notional ≤ cap)
    (paid : cost ≤ notional) (other : String) :
    amount (exposure.set key (amount exposure key + cost)) other ≤ cap := by
  rw [amount_set]
  split
  · linarith
  · exact within other

/-- A counter after a release. -/
theorem counter_sell_le {exposure : Dict String ℚ} {released : ℚ}
    (nonneg : ∀ other, 0 ≤ amount exposure other) (positive : 0 ≤ released) (key other : String) :
    0 ≤ amount (exposure.set key (max 0 (amount exposure key - released))) other ∧
      amount (exposure.set key (max 0 (amount exposure key - released))) other ≤
        amount exposure other := by
  rw [amount_set]
  split
  · rename_i same
    refine ⟨le_max_left _ _, max_le (nonneg other) ?_⟩
    rw [same]
    linarith
  · exact ⟨nonneg other, le_rfl⟩

theorem Capped.buy (capped : broker.Capped settings bankroll) (room : Room settings bankroll broker intent)
    {filled cost : ℚ} (fills : 0 < filled) (paid : 0 ≤ cost) (part : cost ≤ intent.notionalUsd)
    (affordable : cost ≤ broker.cash) : (broker.buy intent filled cost).Capped settings bankroll := by
  have gross : (broker.buy intent filled cost).gross = broker.gross + cost := by
    unfold PaperBroker.gross PaperBroker.buy
    rw [gross_set]
    ring
  have nonneg {exposure : Dict String ℚ} (nonneg : ∀ other, 0 ≤ amount exposure other)
      (key other : String) : 0 ≤ amount (exposure.set key (amount exposure key + cost)) other := by
    rw [amount_set]
    split
    · exact add_nonneg (nonneg key) paid
    · exact nonneg other
  refine ⟨⟨sub_nonneg.mpr affordable, ?_, ?_, ?_⟩, capped.sound.buy fills paid, capped.bankroll, ?_, ?_⟩
  · rw [gross]
    linarith [room.gross]
  · exact counter_buy_le capped.caps.event room.event part
  · exact counter_buy_le capped.caps.bucket room.bucket part
  · exact nonneg capped.event_nonneg intent.eventKey
  · exact nonneg capped.bucket_nonneg intent.bucket

theorem Capped.sell (capped : broker.Capped settings bankroll) {filled proceeds : ℚ} (fills : 0 < filled)
    (covered : filled ≤ amount broker.positions intent.tokenId) (paid : 0 ≤ proceeds) :
    (broker.sell intent filled proceeds).Capped settings bankroll := by
  obtain ⟨positive, within, -⟩ := capped.sound.basisReleased fills covered
  have gross : (broker.sell intent filled proceeds).gross ≤ broker.gross := by
    unfold PaperBroker.gross PaperBroker.sell
    dsimp only
    rw [gross_set, max_eq_right (sub_nonneg.mpr within)]
    linarith
  have event := counter_sell_le capped.event_nonneg positive
    ((broker.tokenEvents.get? intent.tokenId).getD intent.eventKey)
  have bucket := counter_sell_le capped.bucket_nonneg positive
    ((broker.tokenBuckets.get? intent.tokenId).getD intent.bucket)
  exact ⟨⟨add_nonneg capped.caps.cash paid, gross.trans capped.caps.gross,
      fun key => (event key).2.trans (capped.caps.event key),
      fun key => (bucket key).2.trans (capped.caps.bucket key)⟩,
    capped.sound.sell fills covered, capped.bankroll, fun key => (event key).1,
    fun key => (bucket key).1⟩

/-- A submission keeps the caps if they have room for its intent. -/
theorem Capped.submit (capped : broker.Capped settings bankroll) (solvent : 0 ≤ bankroll)
    (funded : 0 ≤ intent.notionalUsd)
    (room : intent.side = .buy → Room settings bankroll broker intent)
    (submits : broker.Submitted intent book after result) :
    after.Capped settings bankroll ∧ DebitWithin settings bankroll broker after := by
  have limits : 0 ≤ settings.maxOrderUsd ∧ 0 ≤ bankroll * settings.maxTradeRiskPct :=
    ⟨settings.maxOrderUsd_pos.le, mul_nonneg solvent settings.maxTradeRiskPct_bounds.1.le⟩
  have noted : (broker.noteIntent intent.intentHash).Capped settings bankroll := capped.of_books rfl
  cases submits with
  | duplicate seen => exact ⟨capped, by simpa [DebitWithin] using limits⟩
  | refused fresh message => exact ⟨noted, by simpa [DebitWithin, noteIntent] using limits⟩
  | bought fresh buys fills partial_fill affordable =>
      have room := room buys
      have part : intent.notionalUsd * ((intent.fill book).filled / intent.size) ≤ intent.notionalUsd :=
        mul_le_of_le_one_right funded
          (div_le_one_of_le₀ partial_fill (fills.le.trans partial_fill))
      refine ⟨noted.buy ⟨room.order, room.tradeRisk, room.gross, room.event, room.bucket⟩ fills
        (allInCost_nonneg funded fills partial_fill) part affordable, ?_⟩
      unfold DebitWithin PaperBroker.buy noteIntent
      dsimp only
      rw [sub_sub_cancel]
      exact ⟨part.trans room.order, part.trans room.tradeRisk⟩
  | sold fresh sells fills partial_fill covered =>
      have proceeds := allInCost_nonneg funded fills partial_fill
      refine ⟨noted.sell fills (partial_fill.trans covered) proceeds, ?_⟩
      unfold DebitWithin PaperBroker.sell noteIntent
      dsimp only
      constructor
      · linarith
      · linarith

end PaperBroker

/-! ### Cycles keep the caps -/

section Step

variable {engine : TradingEngine} {bankroll : ℚ} {before after : PaperBroker} {cycle : PaperCycle}
  {portfolio : PortfolioState} {candidate : TradeCandidate}

/-- A proposal is valid, and a BUY's notional is within the cost that the gate
counts. -/
theorem PaperCycle.propose_priced (proposed : cycle.propose engine portfolio = some candidate) :
    candidate.Valid ∧ (candidate.side = .buy →
      candidate.notionalUsd ≤ engine.strategy.gate.commitment candidate cycle.market) := by
  unfold propose at proposed
  split at proposed
  · obtain ⟨outcome, probability, nonneg, certain, sells | buys⟩ :=
      engine.strategy.choose_cases proposed
    · obtain ⟨side, -, valid⟩ := engine.strategy.sellCandidate_valid nonneg certain sells
      refine ⟨valid, fun buys => ?_⟩
      rw [side] at buys
      cases buys
    · obtain ⟨bestAsk, -, -, -, -, within, -, -⟩ := engine.strategy.buyCandidate_within certain buys
      refine ⟨within.valid, fun _ => ?_⟩
      unfold RiskEngine.commitment
      rw [within.side]
      exact within.notional_le
  · obtain ⟨outcome, exits⟩ := engine.strategy.chooseRiskExit_cases proposed
    obtain ⟨side, -, valid⟩ := engine.strategy.riskExitCandidate_valid exits
    refine ⟨valid, fun buys => ?_⟩
    rw [side] at buys
    cases buys

/-- An approved BUY has room for its whole notional. -/
theorem room_of_sizeFits {book : TimedBook} (capped : before.Capped engine.settings bankroll)
    (fits : engine.strategy.gate.SizeFits candidate cycle.market book before.portfolio)
    (priced : candidate.notionalUsd ≤ engine.strategy.gate.commitment candidate cycle.market) :
    PaperBroker.Room engine.settings bankroll before
      (.fromCandidate engine.digest engine.settings candidate) := by
  obtain ⟨order, -, tradeRisk, event, bucket, gross, -⟩ := fits
  have bankrolls : before.portfolio.bankrollUsd = bankroll := capped.bankroll
  rw [bankrolls] at tradeRisk event bucket gross
  have unclassified := capped.event_nonneg unclassifiedEventKey
  have unbucketed := capped.bucket_nonneg unclassifiedBucketKey
  refine ⟨priced.trans order, priced.trans tradeRisk, (add_le_add_right priced _).trans gross, ?_, ?_⟩
  · change amount before.eventExposure candidate.eventKey + candidate.notionalUsd ≤ _
    change amount before.eventExposure candidate.eventKey
      + amount before.eventExposure unclassifiedEventKey + _ ≤ _ at event
    exact le_trans (by linarith) event
  · change amount before.bucketExposure candidate.bucket + candidate.notionalUsd ≤ _
    change amount before.bucketExposure candidate.bucket
      + amount before.bucketExposure unclassifiedBucketKey + _ ≤ _ at bucket
    exact le_trans (by linarith) bucket

theorem CycleStep.capped (solvent : 0 ≤ bankroll) (step : CycleStep engine before cycle after)
    (capped : before.Capped engine.settings bankroll) :
    after.Capped engine.settings bankroll ∧ DebitWithin engine.settings bankroll before after := by
  have limits : DebitWithin engine.settings bankroll before (before.settleDay cycle.today) := by
    unfold DebitWithin PaperBroker.settleDay
    rw [sub_self]
    exact ⟨engine.settings.maxOrderUsd_pos.le,
      mul_nonneg solvent engine.settings.maxTradeRiskPct_bounds.1.le⟩
  have settled : (before.settleDay cycle.today).Capped engine.settings bankroll := capped.of_books rfl
  subst step
  unfold PaperCycle.apply PaperBroker.portfolioState
  dsimp only
  split
  · exact ⟨settled, limits⟩
  · rename_i candidate proposed
    obtain ⟨valid, priced⟩ := PaperCycle.propose_priced proposed
    unfold PaperCycle.executeCandidate
    dsimp only
    split
    · rename_i approved
      refine settled.submit solvent valid.notionalUsd.le (fun buys => ?_)
        (PaperBroker.submit_cases _ _ _)
      exact room_of_sizeFits settled (RiskEngine.sizeFits_of_approved buys approved) (priced buys)
    · exact ⟨settled, limits⟩

end Step

/-- **The risk caps are invariants** of paper trading: they hold in every state that
cycles reach, and every step debits at most what one order may cost. -/
theorem risk_caps_hold {engine : TradingEngine} {bankroll : ℚ} (solvent : 0 ≤ bankroll) {started : Day}
    {cycles : List PaperCycle} {final : PaperBroker}
    (run : Run (CycleStep engine) (PaperBroker.new bankroll started) cycles final) :
    final.WithinCaps engine.settings bankroll ∧
      Run (fun before cycle after => CycleStep engine before cycle after ∧
          DebitWithin engine.settings bankroll before after)
        (PaperBroker.new bankroll started) cycles final := by
  obtain ⟨capped, debits⟩ := run.invariant_steps
    (fun _ _ _ capped step => step.capped solvent capped)
    (PaperBroker.new_capped engine.settings solvent started)
  exact ⟨capped.caps, debits⟩

/-- The default settings, with the token as the hash. -/
def standardEngine : TradingEngine :=
  ⟨.standard, CanonicalIntent.tokenId⟩

/-- A certain forecast for a liquid market with a hundred shares asked at one
half. -/
def buyCycle : PaperCycle where
  today := 0
  market := { ValueStrategy.freeMarket "event" "politics" with
    liquidityUsd := 10000
    liquidityUsd_nonneg := by norm_num }
  yesBook := ValueStrategy.evenBook
  noBook := ValueStrategy.askBook [] BookLevel.valid_nil
  proposal := .value ValueStrategy.certainForecast
  decidedAt := 0

/-- The cycle buys for five dollars, within the caps. -/
theorem buyCycle_within_caps :
    (buyCycle.apply standardEngine (PaperBroker.new 1000 0)).cash = 995 ∧
      (buyCycle.apply standardEngine (PaperBroker.new 1000 0)).WithinCaps standardEngine.settings
        1000 := by
  have run : Run (CycleStep standardEngine) (PaperBroker.new 1000 0) [buyCycle]
      (buyCycle.apply standardEngine (PaperBroker.new 1000 0)) := .single rfl
  exact ⟨by decide +kernel, (risk_caps_hold (by norm_num) run).1⟩

end Polybot
