import Polybot.Engine.SafetyStop
import Polybot.Interaction.Stage
import Polybot.Paper.Caps

/-!
The cycle of the trading engine (`run_cycle` of `engine.py`).

A cycle is a program over what it awaits: the store, the broker, the market data, the
evidence and the forecaster, and the callbacks that the engine was built with, each of
which may answer anything or fail. The work on one market ends with a `MarketEnd`, which
says what the report is and whether the method returned, raised or met a failed
checkpoint. Two fetches that are gathered are one request, and the clock comes with the
portfolio.
-/

namespace Polybot

open Interaction Program Stage

/-! ### Data -/

/-- A market as it was discovered. -/
structure ScannedMarket extends MarketSpec where
  volume24hUsd : ℚ

structure EvidenceItem where
  id : String
  sourceUrl : Option String

/-- A forecast with the evidence it cites. -/
structure SourcedForecast extends Forecast where
  sourceIds : List String

/-- The record of a call of a model. -/
structure AiUsageRecord where
  costUsd : Option ℚ

/-- The engine, with the settings of a cycle and the callbacks that are installed. -/
structure CycleEngine extends TradingEngine where
  marketLimit : Nat
  maxAiMarketsPerCycle : Nat
  minEvidenceItems : Nat
  forecastCooldownSeconds : Nat
  sourceIdentity : Option String → Option String
  guarded : Bool
  quarantines : Bool
  filters : Bool

/-- What a cycle awaits. The requests of the safety stop are `watch`. -/
inductive EngineRequest where
  | watch (request : WatchRequest)
  | health
  | portfolioState
  | recordEquityHistory (equityUsd : ℚ)
  | cancelAll (reason : String)
  | listMarkets (limit : Nat)
  | getMarketByCondition (conditionId : String)
  | getMarketById (marketId : String)
  | filterMarkets (markets : List ScannedMarket)
  | quarantinedTokens
  | saveMarket (market : ScannedMarket)
  | getOrderBooks (marketId yesTokenId noTokenId : String)
  | saveSnapshots (yesBook noBook : TimedBook)
  | forecastIsFresh (marketId : String) (cooldownSeconds : Nat)
  | consumeAiBudget (units : Nat)
  | collectEvidence (market : ScannedMarket)
  | saveEvidence (evidence : List EvidenceItem)
  | forecast (market : ScannedMarket) (evidence : List EvidenceItem)
  | drainUsage
  | recordAiUsage (usage : AiUsageRecord)
  | saveForecast (forecast : SourcedForecast)
  | saveRiskDecision (intent : PaperIntent) (decision : RiskDecision)
  | executionGuard
  | reserveIntent (intent : PaperIntent)
  | submit (intent : PaperIntent) (book : TimedBook)
  | saveExecution (execution : ExecutionResult)

/-- What an answer is. -/
abbrev EngineRequest.Response : EngineRequest → Type
  | watch request => request.Response
  | health => Bool
  | portfolioState => PortfolioState × Instant
  | cancelAll _ => Bool
  | listMarkets _ => List ScannedMarket
  | getMarketByCondition _ => ScannedMarket
  | getMarketById _ => ScannedMarket
  | filterMarkets _ => List ScannedMarket
  | quarantinedTokens => List String
  | getOrderBooks _ _ _ => TimedBook × TimedBook
  | forecastIsFresh _ _ => Bool
  | consumeAiBudget _ => Bool
  | collectEvidence _ => List EvidenceItem
  | forecast _ _ => SourcedForecast
  | drainUsage => List AiUsageRecord
  | executionGuard => Bool
  | reserveIntent _ => Bool
  | submit _ _ => ExecutionResult
  | _ => Unit

abbrev EngineProgram (α : Type) : Type :=
  Program EngineRequest EngineRequest.Response PyError α

abbrev EngineEvent : Type :=
  Event EngineRequest EngineRequest.Response PyError

/-- Await the answer of a request. -/
abbrev askEngine (request : EngineRequest) : EngineProgram request.Response :=
  Program.ask request

/-! ### Checkpoints -/

/-- `_LivePortfolioUnavailable`, `_LiveHardRiskBreach`. -/
inductive LiveStop where
  | unavailable (checkpoint causeName : String)
  | breached (checkpoint : String)

namespace LiveStop

/-- The code under which a stop is reported. -/
def code : LiveStop → String
  | unavailable _ causeName => s!"portfolio_unavailable:{causeName}"
  | breached checkpoint => s!"hard_risk_breach:{checkpoint}"

def reason : LiveStop → String
  | unavailable checkpoint _ => s!"portfolio unavailable at {checkpoint}"
  | breached checkpoint => s!"hard risk breach at {checkpoint}"

end LiveStop

/-- What a checkpoint raises. -/
inductive CheckpointFailure where
  | stopped (stop : LiveStop)
  | raised (problem : PyError)

namespace CycleEngine

variable (engine : CycleEngine)

/-- `_is_real_money`. -/
abbrev RealMoney : Prop :=
  engine.settings.mode.RealMoney

/-- The check of a checkpoint. -/
def checked (checkpoint : String) (answer : Except PyError (PortfolioState × Instant)) :
    Except CheckpointFailure (PortfolioState × Instant) :=
  match answer with
  | .error problem =>
      if engine.RealMoney then .error (.stopped (.unavailable checkpoint problem.typeName))
      else .error (.raised problem)
  | .ok (portfolio, now) =>
      if ¬ engine.RealMoney then .ok (portfolio, now)
      else if portfolio.equityUsd = none ∨ portfolio.dayStartEquityUsd = none ∨
          portfolio.peakEquityUsd = none then
        .error (.stopped (.unavailable checkpoint "RuntimeError"))
      else if engine.strategy.HardRiskBreached portfolio then
        .error (.stopped (.breached checkpoint))
      else .ok (portfolio, now)

end CycleEngine

/-- `portfolio_state`. -/
def portfolioState : EngineProgram (PortfolioState × Instant) :=
  askEngine .portfolioState

/-- `_portfolio_checkpoint`, with what it raises. -/
def CycleEngine.portfolioCheckpoint (engine : CycleEngine) (checkpoint : String) :
    EngineProgram (Except CheckpointFailure (PortfolioState × Instant)) := do
  let answer ← portfolioState.attempt
  pure (engine.checked checkpoint answer)

/-! ### The report -/

/-- What a cycle changes: its report, and the latch of the AI budget. -/
structure CycleState where
  report : EngineCycleResult
  aiBudgetBlocked : Bool

namespace CycleState

variable (state : CycleState)

def skip (code : String) : CycleState :=
  { state with report := state.report.skip code }

def candidateCreated : CycleState :=
  { state with report := { state.report with candidatesCreated := state.report.candidatesCreated + 1 } }

def forecastCreated : CycleState :=
  { state with report := { state.report with forecastsCreated := state.report.forecastsCreated + 1 } }

def intentApproved : CycleState :=
  { state with report := { state.report with intentsApproved := state.report.intentsApproved + 1 } }

def executed (execution : ExecutionResult) : CycleState :=
  { state with report := { state.report with executions := state.report.executions ++ [execution] } }

def aiUnitsReserved (units : Nat) : CycleState :=
  { state with report := { state.report with aiUnitsReserved := state.report.aiUnitsReserved + units } }

def aiCost (usage : AiUsageRecord) : CycleState :=
  match usage.costUsd with
  | none => state
  | some cost =>
      { state with report := { state.report with aiCostUsd := some (state.report.aiCostUsd.getD 0 + cost) } }

/-- The AI budget refused, or did not answer. -/
def aiBlocked (code : String) : CycleState :=
  { state.skip code with aiBudgetBlocked := true }

end CycleState

/-- How the work on a market ended. -/
inductive MarketExit where
  | returned (usedAi : Bool)
  | raised (problem : PyError)
  | stopped (stop : LiveStop)

/-- The end of the work on a market. -/
structure MarketEnd where
  state : CycleState
  exit : MarketExit

abbrev MarketStage (α : Type) : Type :=
  Stage EngineRequest EngineRequest.Response PyError MarketEnd α

namespace CycleState

variable (state : CycleState)

/-- Await a request whose failure the work on a market raises. -/
def await (request : EngineRequest) : MarketStage request.Response :=
  orEnd (askEngine request) fun problem => ⟨state, .raised problem⟩

/-- The method returns. -/
def returned (usedAi : Bool) : MarketEnd :=
  ⟨state, .returned usedAi⟩

end CycleState

/-! ### The ground of a decision -/

/-- The books of a market, and the portfolio that was read after them. -/
structure MarketGround where
  yesBook : TimedBook
  noBook : TimedBook
  portfolio : PortfolioState
  now : Instant

namespace CycleEngine

variable (engine : CycleEngine)

/-- A checkpoint in the work on a market. -/
def passCheckpoint (state : CycleState) (checkpoint : String) :
    MarketStage (PortfolioState × Instant) := do
  match ← within (engine.portfolioCheckpoint checkpoint) with
  | .ok found => pure found
  | .error (.stopped stop) => throw ⟨state, .stopped stop⟩
  | .error (.raised problem) => throw ⟨state, .raised problem⟩

/-- Fetch and save the books, and read the portfolio after them. -/
def readGround (state : CycleState) (market : ScannedMarket) (checkpoint : String) :
    MarketStage MarketGround := do
  let books ← state.await (.getOrderBooks market.id market.yesTokenId market.noTokenId)
  let _ ← state.await (.saveSnapshots books.1 books.2)
  let found ← engine.passCheckpoint state checkpoint
  pure ⟨books.1, books.2, found.1, found.2⟩

/-- The checks that a market starts with. -/
def startMarket (state : CycleState) (market : ScannedMarket) : MarketStage Unit := do
  endIf (market.active = false ∨ market.closed = true ∨ market.acceptingOrders = false)
    ((state.skip "market_not_tradeable").returned false)
  endIf (market.yesTokenId = "" ∨ market.noTokenId = "")
    ((state.skip "missing_outcome_tokens").returned false)
  if engine.quarantines = true then
    let blocked ← state.await .quarantinedTokens
    endIf (market.yesTokenId ∈ blocked ∨ market.noTokenId ∈ blocked)
      ((state.skip "quarantined_token").returned false)
  else pure ()

/-! ### Forecasts -/

/-- `_reserve_ai_budget`, for the requests of one forecast. -/
def reserveAiBudget (state : CycleState) : MarketStage CycleState := do
  endIf (state.aiBudgetBlocked = true) ((state.skip "ai_budget_exhausted").returned false)
  let allowed ← orEnd (askEngine (.consumeAiBudget 2)) fun problem =>
    (state.aiBlocked s!"ai_budget_unavailable:{problem.typeName}").returned false
  endIf (allowed = false) ((state.aiBlocked "ai_budget_exhausted").returned false)
  pure (state.aiUnitsReserved 2)

/-- `url_evidence`: the sources of the evidence, by the id of the item. -/
def sources (evidence : List EvidenceItem) : Dict String String :=
  evidence.foldl (fun sources item =>
    match engine.sourceIdentity item.sourceUrl with
    | some identity => sources.set item.id identity
    | none => sources) .empty

/-- Collect the evidence and save it. -/
def gatherEvidence (market : ScannedMarket) : EngineProgram (List EvidenceItem) := do
  let evidence ← askEngine (.collectEvidence market)
  let _ ← askEngine (.saveEvidence evidence)
  pure evidence

/-- Record what a forecast cost; a record that fails is logged only. -/
def recordUsages (state : CycleState) : List AiUsageRecord → EngineProgram CycleState
  | [] => pure state
  | usage :: rest => do
      let _ ← (askEngine (.recordAiUsage usage)).attempt
      recordUsages (state.aiCost usage) rest

/-- The evidence and the forecast for a market. -/
def consultAi (state : CycleState) (market : ScannedMarket) :
    MarketStage (CycleState × SourcedForecast) := do
  let evidence ← orEnd (gatherEvidence market) fun problem =>
    (state.skip s!"evidence_pipeline_error:{problem.typeName}").returned true
  endIf (engine.RealMoney ∧
      (engine.sources evidence).values.dedup.length < engine.minEvidenceItems)
    ((state.skip "insufficient_distinct_evidence").returned true)
  let forecast ← orEnd (askEngine (.forecast market evidence)) fun problem =>
    (state.skip s!"forecast_generation_error:{problem.typeName}").returned true
  let usages ← state.await .drainUsage
  let state ← within (recordUsages state usages)
  let _ ← orEnd (askEngine (.saveForecast forecast)) fun problem =>
    (state.skip s!"forecast_persistence_error:{problem.typeName}").returned true
  let state := state.forecastCreated
  endIf (engine.RealMoney ∧
      (forecast.sourceIds.filterMap (engine.sources evidence).get?).dedup.length <
        engine.minEvidenceItems)
    ((state.skip "forecast_insufficient_citations").returned true)
  pure (state, forecast)

/-! ### The work on a market -/

/-- A candidate with the ground it was chosen on. -/
structure SelectedCandidate where
  state : CycleState
  candidate : TradeCandidate
  ground : MarketGround
  usedAi : Bool

/-- The candidate of a forecast, on the ground that is read after it. -/
def valueCandidate (state : CycleState) (market : ScannedMarket) (ground : MarketGround)
    (allowAi reduceOnly : Bool) : MarketStage SelectedCandidate := do
  endIf (allowAi = false)
    ((state.skip (if reduceOnly then "market_filter_reduce_only" else "ai_cycle_budget")).returned false)
  endIf (market.liquidityUsd < engine.settings.minLiquidityUsd)
    ((state.skip "market_liquidity_screen").returned false)
  let fresh ← state.await (.forecastIsFresh market.id engine.forecastCooldownSeconds)
  endIf (fresh = true) ((state.skip "forecast_cooldown").returned false)
  endIf (ground.yesBook.bestAsk = none ∨ ground.noBook.bestAsk = none)
    ((state.skip "empty_order_book").returned false)
  let state ← reserveAiBudget state
  let (state, forecast) ← engine.consultAi state market
  let ground ← engine.readGround state market "market_post_ai"
  let candidate ← require
    (engine.strategy.choose market.toMarketSpec forecast.toForecast ground.yesBook ground.noBook
      ground.portfolio)
    ((state.skip "no_positive_value_candidate").returned true)
  pure ⟨state.candidateCreated, candidate, ground, true⟩

/-- `_process_market` up to the candidate. -/
def selectCandidate (state : CycleState) (market : ScannedMarket) (allowAi reduceOnly : Bool) :
    MarketStage SelectedCandidate := do
  engine.startMarket state market
  let _ ← state.await (.saveMarket market)
  let ground ← engine.readGround state market "market_pre_ai"
  match engine.strategy.chooseRiskExit market.toMarketSpec ground.yesBook ground.noBook
      ground.portfolio ground.now with
  | some candidate => pure ⟨state.candidateCreated, candidate, ground, false⟩
  | none => engine.valueCandidate state market ground allowAi reduceOnly

end CycleEngine

/-- The text of a code. -/
def RiskCode.text : RiskCode → String
  | marketNotTradeable => "market_not_tradeable"
  | invalidFeeSchedule => "invalid_fee_schedule"
  | insufficientMarketLiquidity => "insufficient_market_liquidity"
  | staleOrderBook => "stale_order_book"
  | tooCloseToResolution => "too_close_to_resolution"
  | edgeBelowThreshold => "edge_below_threshold"
  | orderCapExceeded => "order_cap_exceeded"
  | invalidTickPrice => "invalid_tick_price"
  | belowMinimumOrderSize => "below_minimum_order_size"
  | insufficientCash => "insufficient_cash"
  | tradeRiskCapExceeded => "trade_risk_cap_exceeded"
  | eventExposureCapExceeded => "event_exposure_cap_exceeded"
  | correlatedBucketCapExceeded => "correlated_bucket_cap_exceeded"
  | grossExposureCapExceeded => "gross_exposure_cap_exceeded"
  | dailyLossKillSwitch => "daily_loss_kill_switch"
  | drawdownKillSwitch => "drawdown_kill_switch"
  | emptyAskBook => "empty_ask_book"
  | limitNotMarketable => "limit_not_marketable"
  | sellExceedsPosition => "sell_exceeds_position"
  | emptyBidBook => "empty_bid_book"
  | sellLimitNotMarketable => "sell_limit_not_marketable"

namespace CycleEngine

variable (engine : CycleEngine)

/-- The intent of a candidate. -/
def intentOf (candidate : TradeCandidate) : PaperIntent :=
  .fromCandidate engine.digest engine.settings candidate

/-- `selected_book`. -/
def bookFor (market : ScannedMarket) (ground : MarketGround) (candidate : TradeCandidate) : TimedBook :=
  if candidate.tokenId = market.yesTokenId then ground.yesBook else ground.noBook

/-- The decision of the risk engine on a selected candidate. -/
def decisionOn (market : ScannedMarket) (ground : MarketGround) (candidate : TradeCandidate) :
    RiskDecision :=
  engine.strategy.gate.evaluateCandidate candidate market.toMarketSpec
    (bookFor market ground candidate) ground.portfolio ground.now

/-- The guard of the worker is open, if there is one. -/
def passGuard (state : CycleState) (usedAi : Bool) : MarketStage Unit :=
  if engine.guarded = true then do
    let isOpen ← state.await .executionGuard
    endIf (isOpen = false) ((state.skip "execution_guard_closed").returned usedAi)
  else pure ()

/-- `_execute_candidate` up to the reservation. -/
def approveCandidate (market : ScannedMarket) (selected : SelectedCandidate) : MarketStage Unit := do
  let decision := engine.decisionOn market selected.ground selected.candidate
  let _ ← selected.state.await
    (.saveRiskDecision (engine.intentOf selected.candidate) decision)
  endIf (decision.approved = false)
    ((decision.codes.foldl (fun state code => state.skip s!"risk:{code.text}") selected.state).returned
      selected.usedAi)
  engine.passGuard selected.state selected.usedAi

/-- Reserve the hash of the intent. -/
def reserveCandidate (selected : SelectedCandidate) : MarketStage CycleState := do
  let intent := engine.intentOf selected.candidate
  let reserved ← selected.state.await (.reserveIntent intent)
  endIf (reserved = false)
    (((selected.state.executed ⟨intent.intentHash, .duplicate, none, 0, none,
      "durable intent hash already exists"⟩).skip "duplicate_intent").returned selected.usedAi)
  pure selected.state.intentApproved

/-- `_execute_candidate` from the submission. -/
def submitCandidate (state : CycleState) (market : ScannedMarket) (selected : SelectedCandidate) :
    MarketStage CycleState := do
  let execution ← state.await (.submit (engine.intentOf selected.candidate)
    (bookFor market selected.ground selected.candidate))
  let _ ← state.await (.saveExecution execution)
  pure (state.executed execution)

/-- `_process_market`, as a stage. -/
def marketStage (state : CycleState) (market : ScannedMarket) (allowAi reduceOnly : Bool) :
    MarketStage MarketEnd := do
  let selected ← engine.selectCandidate state market allowAi reduceOnly
  engine.approveCandidate market selected
  let state ← engine.reserveCandidate selected
  let state ← engine.submitCandidate state market selected
  pure (state.returned selected.usedAi)

/-- `_process_market`. -/
def processMarket (state : CycleState) (market : ScannedMarket) (allowAi reduceOnly : Bool) :
    EngineProgram MarketEnd :=
  ended (engine.marketStage state market allowAi reduceOnly)

end CycleEngine

/-! ### Held markets -/

/-- What a held market is looked up by. -/
inductive HeldIdentifier where
  | condition (id : String)
  | market (id : String)
  deriving DecidableEq

namespace HeldIdentifier

/-- The condition if there is one, else the market. -/
def of (conditionId marketId : Option String) : Option HeldIdentifier :=
  if truthy conditionId then conditionId.map condition
  else if truthy marketId then marketId.map market
  else none

def find : HeldIdentifier → EngineProgram ScannedMarket
  | condition id => askEngine (.getMarketByCondition id)
  | market id => askEngine (.getMarketById id)

end HeldIdentifier

/-- The accumulators of `_include_held_markets`. -/
structure HeldSearch where
  state : CycleState
  markets : List ScannedMarket
  heldMarketIds : List String
  listedTokens : List String
  listedConditions : List String
  attempted : List HeldIdentifier

namespace HeldSearch

/-- The search over the markets that were discovered. -/
def start (state : CycleState) (portfolio : PortfolioState) (markets : List ScannedMarket) :
    HeldSearch :=
  let holds (token : String) : Bool := decide (0 < amount portfolio.tokenPositions token)
  { state := state
    markets := markets
    heldMarketIds := (markets.filter fun market =>
      holds market.yesTokenId || holds market.noTokenId).map (·.id)
    listedTokens := markets.flatMap fun market => [market.yesTokenId, market.noTokenId]
    listedConditions := markets.filterMap (·.conditionId)
    attempted := [] }

variable (search : HeldSearch)

def skip (code : String) : HeldSearch :=
  { search with state := search.state.skip code }

/-- A market that was found for a held token. -/
def found (market : ScannedMarket) : HeldSearch :=
  { search with
    markets := search.markets ++ [market]
    heldMarketIds := market.id :: search.heldMarketIds
    listedTokens := market.yesTokenId :: market.noTokenId :: search.listedTokens
    listedConditions := market.conditionId.toList ++ search.listedConditions }

/-- The loop body of `_include_held_markets`. -/
def includeToken (portfolio : PortfolioState) (tokenId : String) (size : ℚ) :
    Stage EngineRequest EngineRequest.Response PyError HeldSearch HeldSearch := do
  endIf (size ≤ 0 ∨ tokenId ∈ search.listedTokens) search
  let conditionId := portfolio.tokenConditionIds.get? tokenId
  let marketId := portfolio.tokenMarketIds.get? tokenId
  let identifier ← require (HeldIdentifier.of conditionId marketId)
    (search.skip "held_market_identifier_missing")
  endIf (∃ id ∈ conditionId, id ∈ search.listedConditions)
    (search.skip "held_market_token_mismatch")
  endIf (identifier ∈ search.attempted) search
  let search := { search with attempted := identifier :: search.attempted }
  let market ← orEnd identifier.find fun problem =>
    search.skip s!"held_market_lookup_error:{problem.typeName}"
  endIf (truthy conditionId ∧ market.conditionId ≠ conditionId)
    (search.skip "held_market_condition_mismatch")
  endIf (truthy marketId ∧ some market.id ≠ marketId) (search.skip "held_market_id_mismatch")
  let expectedEventId := portfolio.tokenEventIds.get? tokenId
  endIf (expectedEventId ≠ none ∧ market.eventId ≠ none ∧ market.eventId ≠ expectedEventId)
    (search.skip "held_market_event_mismatch")
  endIf (tokenId ≠ market.yesTokenId ∧ tokenId ≠ market.noTokenId)
    (search.skip "held_market_token_mismatch")
  pure (search.found market)

end HeldSearch

/-- The loop of `_include_held_markets`. -/
def includeHeldMarkets (portfolio : PortfolioState) :
    List (String × ℚ) → HeldSearch → EngineProgram HeldSearch
  | [], search => pure search
  | (tokenId, size) :: rest, search => do
      let search ← ended (search.includeToken portfolio tokenId size)
      includeHeldMarkets portfolio rest search

/-! ### The cycle -/

/-- The markets of a cycle, with the ones that may only be reduced. -/
structure MarketPlan where
  state : CycleState
  markets : List ScannedMarket
  reduceOnlyMarketIds : List String

/-- Keep a market that the filter allows, or that is held and then only reduced. -/
def MarketPlan.narrow (allowedMarketIds heldMarketIds : List String) (plan : MarketPlan)
    (market : ScannedMarket) : MarketPlan :=
  if market.id ∈ allowedMarketIds then { plan with markets := plan.markets ++ [market] }
  else if market.id ∈ heldMarketIds then
    { plan with
      markets := plan.markets ++ [market]
      reduceOnlyMarketIds := market.id :: plan.reduceOnlyMarketIds }
  else { plan with state := plan.state.skip "market_filter_excluded" }

/-- The order in which markets are worked on: held first, then by liquidity and volume. -/
def PrecedesOrTies (heldMarketIds : List String) (market other : ScannedMarket) : Prop :=
  (market.id ∈ heldMarketIds ∧ other.id ∉ heldMarketIds) ∨
    (market.id ∈ heldMarketIds ↔ other.id ∈ heldMarketIds) ∧
      (other.liquidityUsd < market.liquidityUsd ∨
        other.liquidityUsd = market.liquidityUsd ∧ other.volume24hUsd ≤ market.volume24hUsd)

instance (heldMarketIds : List String) : DecidableRel (PrecedesOrTies heldMarketIds) :=
  fun _ _ => inferInstanceAs (Decidable (_ ∨ _))

abbrev CycleStage (α : Type) : Type :=
  Stage EngineRequest EngineRequest.Response PyError EngineCycleResult α

namespace CycleEngine

variable (engine : CycleEngine)

/-- Report a stop, persist it and verify the cancellation. -/
def stopCycle (state : CycleState) (stop : LiveStop) : EngineProgram EngineCycleResult :=
  (persistStopAndVerifyCancellation engine.settings.mode stop.reason
    (state.skip stop.code).report).relay .watch fun _ answer => answer

/-- The checkpoint that a cycle starts with. -/
def startCycle (state : CycleState) : CycleStage PortfolioState := do
  match ← within (engine.portfolioCheckpoint "cycle_start") with
  | .ok (portfolio, _) => pure portfolio
  | .error (.stopped stop) =>
      let report ← within (engine.stopCycle state stop)
      throw report
  | .error (.raised problem) => throw (state.skip s!"portfolio_unavailable:{problem.typeName}").report

/-- Record the equity; a record that fails is logged only. -/
def recordEquity (portfolio : PortfolioState) : EngineProgram Unit :=
  match portfolio.equityUsd with
  | none => pure ()
  | some equityUsd => do
      let _ ← (askEngine (.recordEquityHistory equityUsd)).attempt
      pure ()

/-- In a hard breach cancel the open orders, and read what they release. -/
def releaseOrders (state : CycleState) (portfolio : PortfolioState) : CycleStage PortfolioState :=
  if engine.strategy.HardRiskBreached portfolio then do
    let cancellationVerified ← orEnd (askEngine (.cancelAll "hard daily-loss/drawdown breach"))
      fun problem => (state.skip s!"hard_risk_cancel_failed:{problem.typeName}").report
    endIf (cancellationVerified = false) (state.skip "hard_risk_cancel_unverified").report
    let found ← orEnd portfolioState fun problem =>
      (state.skip s!"post_cancel_portfolio_unavailable:{problem.typeName}").report
    pure found.1
  else pure portfolio

/-- The markets that are listed, and those that are held. -/
def discoverMarkets (state : CycleState) (portfolio : PortfolioState) : CycleStage HeldSearch := do
  let markets ← orEnd (askEngine (.listMarkets engine.marketLimit)) fun _ =>
    (state.skip "market_discovery_failed").report
  within (includeHeldMarkets portfolio portfolio.tokenPositions.entries
    (.start state portfolio markets))

/-- Narrow the markets by the filter, if there is one. -/
def narrowMarkets (search : HeldSearch) : CycleStage MarketPlan :=
  if engine.filters = true then do
    let allowed ← Stage.await (EngineRequest.filterMarkets search.markets)
    pure (search.markets.foldl (MarketPlan.narrow (allowed.map (·.id)) search.heldMarketIds)
      ⟨search.state, [], []⟩)
  else pure ⟨search.state, search.markets, []⟩

/-- The plan of a cycle: in a hard breach the held markets only, and the sorted markets. -/
def arrangeMarkets (breached : Bool) (heldMarketIds : List String) (plan : MarketPlan) : MarketPlan :=
  let markets :=
    if breached = true then plan.markets.filter fun market => market.id ∈ heldMarketIds
    else plan.markets
  { plan with
    state := { plan.state with
      report := { plan.state.report with marketsScanned := markets.length } }
    markets := markets.insertionSort (PrecedesOrTies heldMarketIds) }

/-- The loop over the markets. -/
def workMarkets (breached : Bool) (reduceOnlyMarketIds : List String) (state : CycleState)
    (aiMarkets : Nat) : List ScannedMarket → EngineProgram EngineCycleResult
  | [] => pure state.report
  | market :: rest => do
      let reduceOnly : Bool := decide (market.id ∈ reduceOnlyMarketIds)
      let allowAi : Bool :=
        !breached && !reduceOnly && decide (aiMarkets < engine.maxAiMarketsPerCycle)
      let ended ← engine.processMarket state market allowAi reduceOnly
      match ended.exit with
      | .returned usedAi =>
          workMarkets breached reduceOnlyMarketIds ended.state (aiMarkets + usedAi.toNat) rest
      | .stopped stop => engine.stopCycle ended.state stop
      | .raised problem =>
          workMarkets breached reduceOnlyMarketIds
            (ended.state.skip s!"market_error:{problem.typeName}") aiMarkets rest

/-- A cycle up to its markets: whether it is in a hard breach, and its plan. -/
def planCycle (runId : String) : CycleStage (Bool × MarketPlan) := do
  let state : CycleState := ⟨.fresh runId engine.settings.mode, false⟩
  let healthy ← Stage.await EngineRequest.health
  endIf (healthy = false) (state.skip "state_store_unhealthy").report
  let portfolio ← engine.startCycle state
  within (recordEquity portfolio)
  let breached : Bool := decide (engine.strategy.HardRiskBreached portfolio)
  let portfolio ← engine.releaseOrders state portfolio
  let search ← engine.discoverMarkets state portfolio
  let plan ← engine.narrowMarkets search
  pure (breached, arrangeMarkets breached search.heldMarketIds plan)

/-- `run_cycle`. -/
def runCycle (runId : String) : EngineProgram EngineCycleResult :=
  ended (do
    let (breached, plan) ← engine.planCycle runId
    within (engine.workMarkets breached plan.reduceOnlyMarketIds plan.state 0 plan.markets))

end CycleEngine

end Polybot
