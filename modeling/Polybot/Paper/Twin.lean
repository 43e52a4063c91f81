import Polybot.Collections.Grouped
import Polybot.Interaction.Machine
import Polybot.Paper.Broker

/-!
Brokers that no client tells apart.

Two brokers are `Twin` when their books hold the same, in whatever order, up to
costs of zero. Every call keeps them so and gets the same answer
(`Twin.answersAlike`).
-/

namespace Polybot

open Interaction

/-- `portfolio == other`. -/
structure PortfolioState.Same (portfolio other : PortfolioState) : Prop where
  bankrollUsd : portfolio.bankrollUsd = other.bankrollUsd
  cashUsd : portfolio.cashUsd = other.cashUsd
  grossExposureUsd : portfolio.grossExposureUsd = other.grossExposureUsd
  eventExposureUsd : portfolio.eventExposureUsd.Same other.eventExposureUsd
  bucketExposureUsd : portfolio.bucketExposureUsd.Same other.bucketExposureUsd
  tokenPositions : portfolio.tokenPositions.Same other.tokenPositions
  tokenConditionIds : portfolio.tokenConditionIds.Same other.tokenConditionIds
  tokenMarketIds : portfolio.tokenMarketIds.Same other.tokenMarketIds
  tokenEventIds : portfolio.tokenEventIds.Same other.tokenEventIds
  realizedPnlTodayUsd : portfolio.realizedPnlTodayUsd = other.realizedPnlTodayUsd
  peakEquityUsd : portfolio.peakEquityUsd = other.peakEquityUsd
  equityUsd : portfolio.equityUsd = other.equityUsd
  dayStartEquityUsd : portfolio.dayStartEquityUsd = other.dayStartEquityUsd

/-- The same result, or the same portfolio. -/
inductive PaperAnswer.Same : PaperAnswer → PaperAnswer → Prop where
  | executed (result : ExecutionResult) : Same (.executed result) (.executed result)
  | portfolio {state other : PortfolioState} (same : state.Same other) :
      Same (.portfolio state) (.portfolio other)

theorem amount_same {dict other : Dict String ℚ} (same : dict.Same other) (key : String) :
    amount dict key = amount other key := by
  unfold amount
  rw [same key]

namespace PaperBroker

/-- The same books. -/
structure Twin (broker other : PaperBroker) : Prop where
  initialBankroll : broker.initialBankroll = other.initialBankroll
  cash : broker.cash = other.cash
  realizedPnl : broker.realizedPnl = other.realizedPnl
  peakEquity : broker.peakEquity = other.peakEquity
  riskDay : broker.riskDay = other.riskDay
  dayStartEquity : broker.dayStartEquity = other.dayStartEquity
  seenIntents : broker.seenIntents = other.seenIntents
  intentHistory : broker.intentHistory = other.intentHistory
  positions : broker.positions.Same other.positions
  costs : ∀ tokenId, amount broker.positionCosts tokenId = amount other.positionCosts tokenId
  eventExposure : broker.eventExposure.Same other.eventExposure
  bucketExposure : broker.bucketExposure.Same other.bucketExposure
  tokenEvents : broker.tokenEvents.Same other.tokenEvents
  tokenBuckets : broker.tokenBuckets.Same other.tokenBuckets
  tokenConditionIds : broker.tokenConditionIds.Same other.tokenConditionIds
  tokenMarketIds : broker.tokenMarketIds.Same other.tokenMarketIds

variable {broker other : PaperBroker}

theorem gross_congr
    (costs : ∀ tokenId, amount broker.positionCosts tokenId = amount other.positionCosts tokenId) :
    broker.gross = other.gross := by
  refine Dict.sum_eq_of_weights fun tokenId => ?_
  rw [Option.map_id', Option.map_id']
  exact costs tokenId

theorem Twin.equity (twin : broker.Twin other) : broker.equity = other.equity := by
  unfold PaperBroker.equity
  rw [twin.cash, gross_congr twin.costs]

/-- The portfolios show the same books. -/
theorem Twin.portfolio (twin : broker.Twin other) : broker.portfolio.Same other.portfolio where
  bankrollUsd := twin.initialBankroll
  cashUsd := twin.cash
  grossExposureUsd := gross_congr twin.costs
  eventExposureUsd := twin.eventExposure
  bucketExposureUsd := twin.bucketExposure
  tokenPositions := twin.positions
  tokenConditionIds := twin.tokenConditionIds
  tokenMarketIds := twin.tokenMarketIds
  tokenEventIds := twin.tokenEvents
  realizedPnlTodayUsd := twin.realizedPnl
  peakEquityUsd := congrArg some twin.peakEquity
  equityUsd := congrArg some twin.equity
  dayStartEquityUsd := congrArg some twin.dayStartEquity

theorem Twin.settleDay (twin : broker.Twin other) (today : Day) :
    (broker.settleDay today).Twin (other.settleDay today) := by
  unfold PaperBroker.settleDay
  rw [twin.riskDay, twin.equity, twin.dayStartEquity, twin.realizedPnl, twin.peakEquity]
  exact { twin with
    realizedPnl := rfl
    peakEquity := rfl
    riskDay := rfl
    dayStartEquity := rfl }

theorem Twin.noteIntent (twin : broker.Twin other) (intentHash : String) :
    (broker.noteIntent intentHash).Twin (other.noteIntent intentHash) := by
  unfold PaperBroker.noteIntent
  rw [twin.seenIntents, twin.intentHistory]
  exact { twin with
    seenIntents := rfl
    intentHistory := rfl }

theorem Twin.buy (twin : broker.Twin other) (intent : PaperIntent) (filled allInCost : ℚ) :
    (broker.buy intent filled allInCost).Twin (other.buy intent filled allInCost) := by
  unfold PaperBroker.buy
  rw [twin.cash, amount_same twin.positions, twin.costs, amount_same twin.eventExposure,
    amount_same twin.bucketExposure]
  refine { twin with
    cash := rfl
    positions := twin.positions.set _ _
    costs := fun tokenId => ?_
    eventExposure := twin.eventExposure.set _ _
    bucketExposure := twin.bucketExposure.set _ _
    tokenEvents := twin.tokenEvents.set _ _
    tokenBuckets := twin.tokenBuckets.set _ _
    tokenConditionIds := ?_
    tokenMarketIds := twin.tokenMarketIds.set _ _ }
  · rw [amount_set, amount_set, twin.costs tokenId]
  · dsimp only
    split
    · exact twin.tokenConditionIds.set _ _
    · exact twin.tokenConditionIds

theorem dropLabel_same {labels others : Dict String String} (same : labels.Same others) (left : ℚ)
    (tokenId : String) : (dropLabel left labels tokenId).Same (dropLabel left others tokenId) := by
  unfold dropLabel
  split
  · exact same.erase tokenId
  · exact same

theorem Twin.sell (twin : broker.Twin other) (intent : PaperIntent) (filled allInCost : ℚ) :
    (broker.sell intent filled allInCost).Twin (other.sell intent filled allInCost) := by
  unfold PaperBroker.sell basisReleased
  dsimp only
  rw [twin.cash, twin.realizedPnl, amount_same twin.positions, twin.costs,
    twin.tokenEvents intent.tokenId, twin.tokenBuckets intent.tokenId,
    amount_same twin.eventExposure, amount_same twin.bucketExposure]
  refine { twin with
    cash := rfl
    realizedPnl := rfl
    positions := twin.positions.set _ _
    costs := fun tokenId => ?_
    eventExposure := twin.eventExposure.set _ _
    bucketExposure := twin.bucketExposure.set _ _
    tokenEvents := dropLabel_same twin.tokenEvents _ _
    tokenBuckets := dropLabel_same twin.tokenBuckets _ _
    tokenConditionIds := dropLabel_same twin.tokenConditionIds _ _
    tokenMarketIds := dropLabel_same twin.tokenMarketIds _ _ }
  rw [amount_set, amount_set, twin.costs tokenId]

theorem Twin.submit (twin : broker.Twin other) (intent : PaperIntent) (book : OrderBookSnapshot) :
    (broker.submit intent book).1.Twin (other.submit intent book).1 ∧
      (broker.submit intent book).2 = (other.submit intent book).2 := by
  have noted := twin.noteIntent intent.intentHash
  unfold PaperBroker.submit
  rw [twin.seenIntents, amount_same twin.positions, twin.cash]
  split
  · exact ⟨twin, rfl⟩
  · dsimp only
    split
    · exact ⟨noted, rfl⟩
    · split
      · exact ⟨noted, rfl⟩
      · split
        · split
          · exact ⟨noted, rfl⟩
          · exact ⟨noted.buy _ _ _, rfl⟩
        · exact ⟨noted.sell _ _ _, rfl⟩

/-- **Twins answer every list of calls alike.** -/
theorem Twin.answersAlike (twin : broker.Twin other) :
    AnswersAlike PaperCall.apply PaperAnswer.Same broker other := by
  refine AnswersAlike.of_simulation (fun broker other call twin => ?_) twin
  cases call with
  | submit intent book =>
      obtain ⟨later, same⟩ := twin.submit intent book
      refine ⟨?_, later⟩
      unfold PaperCall.apply
      rw [Prod.map_snd, Prod.map_snd, same]
      exact .executed _
  | portfolioState today =>
      exact ⟨.portfolio (twin.settleDay today).portfolio, twin.settleDay today⟩

end PaperBroker

end Polybot
