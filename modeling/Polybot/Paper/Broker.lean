import Mathlib.Data.Finset.Insert
import Mathlib.Data.Finset.Erase
import Polybot.Interaction.Transition
import Polybot.Trading.Models

/-!
The paper broker (`polybot/brokers/paper.py`).

`submit` and `portfolio_state` are functions from a broker to a broker and an
answer. `submit_cases` says what a submission can do: it is refused with a note in
the intent history, or it fills a part of the intent in `buy` or `sell`. The
`PaperStep`s are the calls with their answers.
-/

namespace Polybot

open Interaction

/-- Calendar days. -/
abbrev Day := Int

/-- `outcome.value`. -/
def Outcome.value : Outcome → String
  | yes => "YES"
  | no => "NO"

/-- An intent with the fields that the paper broker books. -/
structure PaperIntent extends TradeIntent where
  conditionId : Option String
  eventId : Option String
  bucket : String
  notionalUsd : ℚ

/-- `intent.event_id or intent.market_id`. -/
def PaperIntent.eventKey (intent : PaperIntent) : String :=
  textOr intent.eventId intent.marketId

/-! ### Fills -/

/-- The accumulators of a fill. -/
structure PaperFill where
  filled : ℚ
  cost : ℚ
  remaining : ℚ

/-- The loops over the sorted levels, which end at the first price `beyond` the
limit. -/
def fillLevels (beyond : ℚ → Bool) : List BookLevel → PaperFill → PaperFill
  | [], fill => fill
  | level :: rest, fill =>
      if beyond level.price ∨ fill.remaining ≤ 0 then fill
      else
        let take := min level.size fill.remaining
        fillLevels beyond rest
          { filled := fill.filled + take
            cost := fill.cost + take * level.price
            remaining := fill.remaining - take }

/-- The fill of an intent in a book. -/
def PaperIntent.fill (intent : PaperIntent) (book : OrderBookSnapshot) : PaperFill :=
  match intent.side with
  | .buy => fillLevels (fun price => intent.price < price) (askOrder book.asks) ⟨0, 0, intent.size⟩
  | .sell => fillLevels (fun price => price < intent.price) (bidOrder book.bids) ⟨0, 0, intent.size⟩

/-! ### Accounts -/

structure PaperBroker where
  initialBankroll : ℚ
  cash : ℚ
  positions : Dict String ℚ
  positionCosts : Dict String ℚ
  eventExposure : Dict String ℚ
  bucketExposure : Dict String ℚ
  tokenEvents : Dict String String
  tokenBuckets : Dict String String
  tokenConditionIds : Dict String String
  tokenMarketIds : Dict String String
  tokenOutcomes : Dict String String
  seenIntents : Finset String
  intentHistory : List String
  realizedPnl : ℚ
  peakEquity : ℚ
  riskDay : Day
  dayStartEquity : ℚ

namespace PaperBroker

/-- `PaperBroker(bankroll_usd)`. -/
def new (bankrollUsd : ℚ) (today : Day) : PaperBroker where
  initialBankroll := bankrollUsd
  cash := bankrollUsd
  positions := .empty
  positionCosts := .empty
  eventExposure := .empty
  bucketExposure := .empty
  tokenEvents := .empty
  tokenBuckets := .empty
  tokenConditionIds := .empty
  tokenMarketIds := .empty
  tokenOutcomes := .empty
  seenIntents := ∅
  intentHistory := []
  realizedPnl := 0
  peakEquity := bankrollUsd
  riskDay := today
  dayStartEquity := bankrollUsd

variable (broker : PaperBroker)

/-- The cost of all positions. -/
def gross : ℚ :=
  broker.positionCosts.sum fun _ cost => cost

def equity : ℚ :=
  broker.cash + broker.gross

/-! ### `submit` -/

/-- Remember the last 2000 intents. -/
def noteIntent (intentHash : String) : PaperBroker :=
  let seen := insert intentHash broker.seenIntents
  let history := broker.intentHistory ++ [intentHash]
  { broker with
    seenIntents := if 2000 < history.length then seen.erase (history.headD intentHash) else seen
    intentHistory := if 2000 < history.length then history.tail else history }

/-- Book a BUY. -/
def buy (intent : PaperIntent) (filled allInCost : ℚ) : PaperBroker :=
  { broker with
    cash := broker.cash - allInCost
    positions := broker.positions.set intent.tokenId
      (amount broker.positions intent.tokenId + filled)
    positionCosts := broker.positionCosts.set intent.tokenId
      (amount broker.positionCosts intent.tokenId + allInCost)
    tokenEvents := broker.tokenEvents.set intent.tokenId intent.eventKey
    tokenBuckets := broker.tokenBuckets.set intent.tokenId intent.bucket
    tokenConditionIds :=
      if truthy intent.conditionId then
        broker.tokenConditionIds.set intent.tokenId (intent.conditionId.getD "")
      else broker.tokenConditionIds
    tokenMarketIds := broker.tokenMarketIds.set intent.tokenId intent.marketId
    tokenOutcomes := broker.tokenOutcomes.set intent.tokenId intent.outcome.value
    eventExposure := broker.eventExposure.set intent.eventKey
      (amount broker.eventExposure intent.eventKey + allInCost)
    bucketExposure := broker.bucketExposure.set intent.bucket
      (amount broker.bucketExposure intent.bucket + allInCost) }

/-- The average cost of the shares that a SELL releases. -/
def basisReleased (intent : PaperIntent) (filled : ℚ) : ℚ :=
  amount broker.positionCosts intent.tokenId * filled / amount broker.positions intent.tokenId

/-- `labels.pop(token_id, None)` when the position is gone. -/
def dropLabel (left : ℚ) (labels : Dict String String) (tokenId : String) : Dict String String :=
  if left ≤ 0 then labels.erase tokenId else labels

/-- Book a SELL. -/
def sell (intent : PaperIntent) (filled allInCost : ℚ) : PaperBroker :=
  let released := broker.basisReleased intent filled
  let left := amount broker.positions intent.tokenId - filled
  let storedEvent := (broker.tokenEvents.get? intent.tokenId).getD intent.eventKey
  let storedBucket := (broker.tokenBuckets.get? intent.tokenId).getD intent.bucket
  { broker with
    cash := broker.cash + allInCost
    realizedPnl := broker.realizedPnl + (allInCost - released)
    positions := broker.positions.set intent.tokenId left
    positionCosts := broker.positionCosts.set intent.tokenId
      (max 0 (amount broker.positionCosts intent.tokenId - released))
    eventExposure := broker.eventExposure.set storedEvent
      (max 0 (amount broker.eventExposure storedEvent - released))
    bucketExposure := broker.bucketExposure.set storedBucket
      (max 0 (amount broker.bucketExposure storedBucket - released))
    tokenConditionIds := dropLabel left broker.tokenConditionIds intent.tokenId
    tokenEvents := dropLabel left broker.tokenEvents intent.tokenId
    tokenBuckets := dropLabel left broker.tokenBuckets intent.tokenId
    tokenMarketIds := dropLabel left broker.tokenMarketIds intent.tokenId
    tokenOutcomes := dropLabel left broker.tokenOutcomes intent.tokenId }

/-- A result without a fill. -/
def refusal (intent : PaperIntent) (status : ExecutionStatus) (message : String) : ExecutionResult :=
  ⟨intent.intentHash, status, none, 0, none, message⟩

/-- The result of a fill. -/
def filledResult (intent : PaperIntent) (fill : PaperFill) : ExecutionResult where
  intentHash := intent.intentHash
  status := .paperFilled
  orderId := some ("paper-" ++ String.ofList (intent.intentHash.toList.take 20))
  filledSize := fill.filled
  averagePrice := some (fill.cost / fill.filled)
  message := "paper fill; unresolved positions remain valued at cost"

/-- `submit`. -/
def submit (intent : PaperIntent) (book : OrderBookSnapshot) : PaperBroker × ExecutionResult :=
  if intent.intentHash ∈ broker.seenIntents then
    (broker, refusal intent .duplicate "paper broker rejected a duplicate intent")
  else
    let noted := broker.noteIntent intent.intentHash
    let fill := intent.fill book
    -- The intent's notional includes the fee estimate; a partial fill pays its share.
    let allInCost := intent.notionalUsd * (fill.filled / intent.size)
    if intent.side = .sell ∧ amount broker.positions intent.tokenId < intent.size then
      (noted, refusal intent .rejected "paper sell exceeds position")
    else if fill.filled ≤ 0 then
      (noted, refusal intent .rejected "limit did not cross available paper depth")
    else
      match intent.side with
      | .buy =>
          if broker.cash < allInCost then
            (noted, refusal intent .rejected "paper cash changed before fill")
          else (noted.buy intent fill.filled allInCost, filledResult intent fill)
      | .sell => (noted.sell intent fill.filled allInCost, filledResult intent fill)

/-! ### `portfolio_state` -/

/-- Start a new risk day, and raise the peak. -/
def settleDay (today : Day) : PaperBroker :=
  { broker with
    riskDay := if broker.riskDay < today then today else broker.riskDay
    dayStartEquity := if broker.riskDay < today then broker.equity else broker.dayStartEquity
    realizedPnl := if broker.riskDay < today then 0 else broker.realizedPnl
    peakEquity := max broker.peakEquity broker.equity }

/-- The portfolio of the books. -/
def portfolio : PortfolioState where
  bankrollUsd := broker.initialBankroll
  cashUsd := broker.cash
  grossExposureUsd := broker.gross
  eventExposureUsd := broker.eventExposure
  bucketExposureUsd := broker.bucketExposure
  tokenPositions := broker.positions
  tokenConditionIds := broker.tokenConditionIds
  tokenMarketIds := broker.tokenMarketIds
  tokenEventIds := broker.tokenEvents
  realizedPnlTodayUsd := broker.realizedPnl
  peakEquityUsd := some broker.peakEquity
  equityUsd := some broker.equity
  dayStartEquityUsd := some broker.dayStartEquity

/-- `portfolio_state`. -/
def portfolioState (today : Day) : PaperBroker × PortfolioState :=
  let settled := broker.settleDay today
  (settled, settled.portfolio)

/-! ### What a submission does -/

variable {broker} {intent : PaperIntent} {book : OrderBookSnapshot}

/-- What `submit` can do. -/
inductive Submitted (broker : PaperBroker) (intent : PaperIntent) (book : OrderBookSnapshot) :
    PaperBroker → ExecutionResult → Prop where
  | duplicate (seen : intent.intentHash ∈ broker.seenIntents) :
      Submitted broker intent book broker
        (refusal intent .duplicate "paper broker rejected a duplicate intent")
  | refused (fresh : intent.intentHash ∉ broker.seenIntents) (message : String) :
      Submitted broker intent book (broker.noteIntent intent.intentHash)
        (refusal intent .rejected message)
  | bought (fresh : intent.intentHash ∉ broker.seenIntents) (buys : intent.side = .buy)
      (fills : 0 < (intent.fill book).filled) (partial_fill : (intent.fill book).filled ≤ intent.size)
      (affordable : intent.notionalUsd * ((intent.fill book).filled / intent.size) ≤ broker.cash) :
      Submitted broker intent book
        ((broker.noteIntent intent.intentHash).buy intent (intent.fill book).filled
          (intent.notionalUsd * ((intent.fill book).filled / intent.size)))
        (filledResult intent (intent.fill book))
  | sold (fresh : intent.intentHash ∉ broker.seenIntents) (sells : intent.side = .sell)
      (fills : 0 < (intent.fill book).filled) (partial_fill : (intent.fill book).filled ≤ intent.size)
      (covered : intent.size ≤ amount broker.positions intent.tokenId) :
      Submitted broker intent book
        ((broker.noteIntent intent.intentHash).sell intent (intent.fill book).filled
          (intent.notionalUsd * ((intent.fill book).filled / intent.size)))
        (filledResult intent (intent.fill book))

/-- A sweep takes from the remaining size only. -/
theorem fillLevels_bounds (beyond : ℚ → Bool) (levels : List BookLevel) (fill : PaperFill) :
    (fillLevels beyond levels fill).filled + (fillLevels beyond levels fill).remaining =
        fill.filled + fill.remaining ∧
      min 0 fill.remaining ≤ (fillLevels beyond levels fill).remaining := by
  induction levels generalizing fill with
  | nil => exact ⟨rfl, min_le_right _ _⟩
  | cons level rest ih =>
      unfold fillLevels
      split
      · exact ⟨rfl, min_le_right _ _⟩
      · rename_i continues
        rw [not_or, not_le] at continues
        obtain ⟨total, left⟩ := ih
          { filled := fill.filled + min level.size fill.remaining
            cost := fill.cost + min level.size fill.remaining * level.price
            remaining := fill.remaining - min level.size fill.remaining }
        have unused : 0 ≤ fill.remaining - min level.size fill.remaining :=
          sub_nonneg.mpr (min_le_right _ _)
        dsimp only at total left ⊢
        rw [min_eq_left unused] at left
        rw [min_eq_left continues.2.le]
        exact ⟨by rw [total, add_add_sub_cancel], left⟩

theorem fill_le (fills : 0 < (intent.fill book).filled) :
    (intent.fill book).filled ≤ intent.size := by
  have bounds : (intent.fill book).filled + (intent.fill book).remaining = intent.size ∧
      min 0 intent.size ≤ (intent.fill book).remaining := by
    unfold PaperIntent.fill
    cases intent.side with
    | buy => simpa using fillLevels_bounds _ (askOrder book.asks) ⟨0, 0, intent.size⟩
    | sell => simpa using fillLevels_bounds _ (bidOrder book.bids) ⟨0, 0, intent.size⟩
  rcases le_total 0 intent.size with nonneg | nonpos
  · rw [min_eq_left nonneg] at bounds
    linarith
  · rw [min_eq_right nonpos] at bounds
    linarith

theorem submit_cases (broker : PaperBroker) (intent : PaperIntent) (book : OrderBookSnapshot) :
    Submitted broker intent book (broker.submit intent book).1 (broker.submit intent book).2 := by
  unfold submit
  split
  · rename_i seen
    exact .duplicate seen
  · rename_i fresh
    dsimp only
    split
    · exact .refused fresh _
    · rename_i covered
      split
      · exact .refused fresh _
      · rename_i fills
        rw [not_le] at fills
        have partial_fill := fill_le fills
        split
        · rename_i buys
          split
          · exact .refused fresh _
          · rename_i affordable
            exact .bought fresh buys fills partial_fill (not_lt.mp affordable)
        · rename_i sells
          exact .sold fresh sells fills partial_fill
            (not_lt.mp fun short => covered ⟨sells, short⟩)

/-- A fresh BUY with depth and cash is booked. -/
theorem submit_buy (fresh : intent.intentHash ∉ broker.seenIntents) (buys : intent.side = .buy)
    (fills : 0 < (intent.fill book).filled)
    (affordable : intent.notionalUsd * ((intent.fill book).filled / intent.size) ≤ broker.cash) :
    broker.submit intent book =
      ((broker.noteIntent intent.intentHash).buy intent (intent.fill book).filled
        (intent.notionalUsd * ((intent.fill book).filled / intent.size)),
      filledResult intent (intent.fill book)) := by
  have notSell : ¬ (intent.side = .sell ∧ amount broker.positions intent.tokenId < intent.size) := by
    simp [buys]
  unfold submit
  rw [if_neg fresh]
  dsimp only
  rw [if_neg notSell, if_neg (not_le.mpr fills)]
  split
  · rw [if_neg (not_lt.mpr affordable)]
  · rename_i sells
    rw [buys] at sells
    cases sells

/-- A fresh SELL of a held position with depth is booked. -/
theorem submit_sell (fresh : intent.intentHash ∉ broker.seenIntents) (sells : intent.side = .sell)
    (fills : 0 < (intent.fill book).filled)
    (held : intent.size ≤ amount broker.positions intent.tokenId) :
    broker.submit intent book =
      ((broker.noteIntent intent.intentHash).sell intent (intent.fill book).filled
        (intent.notionalUsd * ((intent.fill book).filled / intent.size)),
      filledResult intent (intent.fill book)) := by
  unfold submit
  rw [if_neg fresh]
  dsimp only
  rw [if_neg (fun short => absurd short.2 (not_lt.mpr held)), if_neg (not_le.mpr fills)]
  split
  · rename_i buys
    rw [sells] at buys
    cases buys
  · rfl

end PaperBroker

/-! ### Calls -/

/-- A call of the broker. -/
inductive PaperCall where
  | submit (intent : PaperIntent) (book : OrderBookSnapshot)
  | portfolioState (today : Day)

inductive PaperAnswer where
  | executed (result : ExecutionResult)
  | portfolio (state : PortfolioState)

/-- Make a call. -/
def PaperCall.apply (broker : PaperBroker) : PaperCall → PaperBroker × PaperAnswer
  | submit intent book => (broker.submit intent book).map id .executed
  | portfolioState today => (broker.portfolioState today).map id .portfolio

/-- What a call adds to the realized result. A new risk day only starts a new
count. -/
def PaperCall.booked (before after : PaperBroker) : PaperCall → ℚ
  | submit _ _ => after.realizedPnl - before.realizedPnl
  | portfolioState _ => 0

/-- A call, its answer and the realized result that it booked. -/
structure PaperEvent where
  call : PaperCall
  answer : PaperAnswer
  booked : ℚ

/-- The broker makes a call. -/
def PaperStep (before : PaperBroker) (event : PaperEvent) (after : PaperBroker) : Prop :=
  event.call.apply before = (after, event.answer) ∧ event.booked = event.call.booked before after

/-- What a step does. -/
inductive PaperStepped (before : PaperBroker) : PaperEvent → PaperBroker → Prop where
  | submitted {intent : PaperIntent} {book : OrderBookSnapshot} {after : PaperBroker}
      {result : ExecutionResult} (submits : before.Submitted intent book after result) :
      PaperStepped before
        ⟨.submit intent book, .executed result, after.realizedPnl - before.realizedPnl⟩ after
  | settled (today : Day) :
      PaperStepped before
        ⟨.portfolioState today, .portfolio (before.settleDay today).portfolio, 0⟩
        (before.settleDay today)

theorem PaperStep.stepped {before after : PaperBroker} {event : PaperEvent}
    (step : PaperStep before event after) : PaperStepped before event after := by
  obtain ⟨call, answer, booked⟩ := event
  obtain ⟨applied, counted⟩ := step
  cases call with
  | submit intent book =>
      obtain ⟨rfl, rfl⟩ := Prod.mk.inj applied
      cases counted
      exact .submitted (before.submit_cases intent book)
  | portfolioState today =>
      obtain ⟨rfl, rfl⟩ := Prod.mk.inj applied
      cases counted
      exact .settled today

/-! ### Replays -/

/-- The event of a call. -/
def PaperCall.event (broker : PaperBroker) (call : PaperCall) : PaperEvent :=
  ⟨call, (call.apply broker).2, call.booked broker (call.apply broker).1⟩

theorem PaperCall.step (broker : PaperBroker) (call : PaperCall) :
    PaperStep broker (call.event broker) (call.apply broker).1 :=
  ⟨rfl, rfl⟩

/-- Make the calls in turn. -/
def replayPaper (broker : PaperBroker) : List PaperCall → List PaperEvent × PaperBroker
  | [] => ([], broker)
  | call :: rest =>
      let later := replayPaper (call.apply broker).1 rest
      (call.event broker :: later.1, later.2)

theorem replayPaper_run (broker : PaperBroker) (calls : List PaperCall) :
    Run PaperStep broker (replayPaper broker calls).1 (replayPaper broker calls).2 := by
  induction calls generalizing broker with
  | nil => exact .refl _
  | cons call rest ih => exact .cons (call.step broker) (ih _)

theorem replayPaper_calls (broker : PaperBroker) (calls : List PaperCall) :
    (replayPaper broker calls).1.map PaperEvent.call = calls := by
  induction calls generalizing broker with
  | nil => rfl
  | cons call rest ih => exact congrArg (call :: ·) (ih _)

end Polybot
