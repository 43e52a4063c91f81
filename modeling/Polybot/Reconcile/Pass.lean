import Polybot.Reconcile.Account

/-!
The reconciler of an account (`reconcile.py`).

A REST pass repairs orders, trades, activities and positions and then advances its two
cursors; a user event settles an order or a trade. Both judge tokens by a footprint of the
store that the reconciler keeps in memory. As programs over that memory, the store and the
exchange they run next to the engine, which reserves intents and orders, and every request
outside the memory may fail. `set_baseline`, which sets the cursors back to the start, is
not among the calls.
-/

namespace Polybot

open Checked Interaction

/-! ### The footprint -/

/-- The tables that `durable_token_ids` reads. -/
inductive FootprintTable where
  | orderIntents
  | orders
  | fills
  deriving DecidableEq, Repr

/-- A row of one of them: its primary key and its token. -/
structure DurableRow where
  id : UUID
  tokenId : String
  deriving DecidableEq

/-- The rows of such a table, in the order of their keys. -/
structure DurableTable where
  rows : List DurableRow
  distinct : (rows.map DurableRow.id).Nodup

/-- A footprint as it was read: of each table, for each page, all rows in the order of
their keys as they were then. The code keeps the tokens of the pages. -/
structure Footprint where
  orderIntents : List (List DurableRow)
  orders : List (List DurableRow)
  fills : List (List DurableRow)
  deriving DecidableEq

/-- The reads of a table. -/
def Footprint.reads (footprint : Footprint) : FootprintTable → List (List DurableRow)
  | .orderIntents => footprint.orderIntents
  | .orders => footprint.orders
  | .fills => footprint.fills

/-- `_durable_account_values`: the tokens on the pages of the reads. -/
def durableValues (reads : List (List DurableRow)) : List String :=
  ((Paging.collect pageSize 0 reads).map DurableRow.tokenId).filter (· ≠ "")

/-- The tokens of a footprint. -/
def Footprint.tokens (footprint : Footprint) : List String :=
  durableValues footprint.orderIntents ++ durableValues footprint.orders ++
    durableValues footprint.fills

/-! ### Requests -/

structure Cursors where
  tradeAfter : Int
  activityStart : Int
  deriving DecidableEq

/-- The locks of a reconciler. -/
inductive ReconcilerLock where
  | reconcile
  | fillCallback
  deriving DecidableEq, Repr

/-- A use of the memory, which is done at once. -/
inductive MemoryRequest where
  | resetTokens
  | cachedTokens
  | cacheTokens (footprint : Footprint)
  | quarantineToken (tokenId conditionId : String)
  | isNotified (clobTradeId : String)
  | markNotified (clobTradeId : String)
  | knowCondition (conditionId : String)
  | tradeAfter
  | activityStart
  | advanceCursors (cursors : Cursors)

def MemoryRequest.Response : MemoryRequest → Type
  | cachedTokens => Option Footprint
  | isNotified _ => Bool
  | tradeAfter => Int
  | activityStart => Int
  | _ => Unit

/-- A call of the store. -/
inductive StoreRequest where
  | reconcileOrder (update : UserOrderUpdate)
  | reconcileOpenOrderSnapshot (openOrderIds : List String)
  | durableOrderIds (candidateOrderIds : List String)
  | reconcileTrade (update : UserTradeUpdate)
  | pendingTradeIds
  | confirmOrdersAbsent (clobOrderIds : List String)
  | reconcileAccountActivity (update : AccountActivityUpdate)
  | reconcileActivityScope (baseline : Option Instant) (quarantineEnabled : Bool)
  | recordQuarantine (record : QuarantineRecord)
  | positionOutcomes (positions : List (String × String))
  | saveMarket (market : MarketSpec)
  | fillLedgerSnapshot (since : Instant)
  | reconcilePositions (positions : List AccountPositionUpdate)

/-- What an answer is: `reconcileOpenOrderSnapshot` returns the orders that are missing. -/
def StoreRequest.Response : StoreRequest → Type
  | reconcileOpenOrderSnapshot _ => List String
  | durableOrderIds _ => List String
  | pendingTradeIds => List String
  | positionOutcomes _ => Dict (String × String) Outcome
  | fillLedgerSnapshot _ => FillLedgerSnapshot
  | _ => Unit

/-- A call of the exchange. A listing is asked for its next item, of which `none` is the
end; `nextTradeOf` skips what has another id. -/
inductive ExchangeRequest where
  | nextOpenOrder
  | getOrder (clobOrderId : String)
  | nextTrade (after : Int)
  | nextTradeOf (tradeId : String)
  | nextActivity (start : Int)
  | listPositions
  | getMarketByCondition (conditionId : String)

/-- What an answer is. An order, a trade or an activity comes as its update reads it, and
an order that is not found is `none`. -/
def ExchangeRequest.Response : ExchangeRequest → Type
  | nextOpenOrder => Option UserOrderUpdate
  | getOrder _ => Option UserOrderUpdate
  | nextTrade _ => Option AccountTrade
  | nextTradeOf tradeId => Option { trade : AccountTrade // trade.id = tradeId }
  | nextActivity _ => Option AccountActivityUpdate
  | listPositions => List ExchangePosition
  | getMarketByCondition _ => MarketSpec

/-- What the reconciler awaits, and what it does to its memory. `iterate` goes through the
values of a set in the order of the set; `reserve` is an insert of the engine. -/
inductive PassRequest where
  | memory (request : MemoryRequest)
  | acquire (lock : ReconcilerLock)
  | release (lock : ReconcilerLock)
  | now
  | iterate (values : List String)
  | durableRows (table : FootprintTable) (page : Nat)
  | store (request : StoreRequest)
  | exchange (request : ExchangeRequest)
  | fillCallback (update : UserTradeUpdate)
  | reserve (table : FootprintTable) (row : DurableRow)

/-- A range of ordered rows is answered with all of them; the code takes its page. -/
def PassRequest.Response : PassRequest → Type
  | memory request => request.Response
  | acquire _ => Unit
  | release _ => Unit
  | now => Instant
  | iterate _ => List String
  | durableRows _ _ => List DurableRow
  | store request => request.Response
  | exchange request => request.Response
  | fillCallback _ => Unit
  | reserve _ _ => Unit

abbrev PassProgram (α : Type) : Type :=
  Program PassRequest PassRequest.Response SettlementError α

abbrev PassEvent : Type :=
  Event PassRequest PassRequest.Response SettlementError

/-- Await the answer of a request. -/
abbrev askPass (request : PassRequest) : PassProgram request.Response :=
  Program.ask request

/-- Use the memory. -/
abbrev askMemory (request : MemoryRequest) : PassProgram request.Response :=
  Program.ask (PassRequest.memory request)

abbrev askStore (request : StoreRequest) : PassProgram request.Response :=
  Program.ask (PassRequest.store request)

abbrev askExchange (request : ExchangeRequest) : PassProgram request.Response :=
  Program.ask (PassRequest.exchange request)

/-- `RuntimeError`. -/
def runtimeError (message : String) : SettlementError :=
  .raised (.runtimeError message)

/-- What the reconciler is built with. -/
structure ReconcilerConfig where
  baselineUtc : Option Instant
  quarantineEnabled : Bool
  hasFillCallback : Bool
  hasMarketData : Bool

/-! ### Foreign tokens -/

/-- The pages of a table from `page` on, of which `remaining` may be full. -/
def readDurableRows (table : FootprintTable) : Nat → Nat → PassProgram (List (List DurableRow))
  | 0, _ => .raised (incompleteLedger "bot footprint exceeded the bounded replay limit")
  | remaining + 1, page => do
      let (rows : List DurableRow) ← askPass (.durableRows table page)
      if (Paging.page pageSize page rows).length < pageSize then pure [rows]
      else do
        let later ← readDurableRows table remaining (page + 1)
        pure (rows :: later)

/-- `durable_token_ids`. -/
def durableTokenIds : PassProgram Footprint := do
  let orderIntents ← readDurableRows .orderIntents maxPages 0
  let orders ← readDurableRows .orders maxPages 0
  let fills ← readDurableRows .fills maxPages 0
  pure ⟨orderIntents, orders, fills⟩

/-- `_bot_tokens`. -/
def botTokens : PassProgram Footprint := do
  let (cached : Option Footprint) ← askMemory .cachedTokens
  match cached with
  | some footprint => pure footprint
  | none => do
      let footprint ← durableTokenIds
      let _ ← askMemory (.cacheTokens footprint)
      pure footprint

/-- `_is_foreign_token`. -/
def isForeignToken (tokenId : String) : PassProgram Bool := do
  let footprint ← botTokens
  pure (decide (tokenId ∉ footprint.tokens))

/-- Whether all tokens are foreign, up to the first that is not. -/
def areForeignTokens : List String → PassProgram Bool
  | [] => pure true
  | tokenId :: rest => do
      let foreign ← isForeignToken tokenId
      if foreign = true then areForeignTokens rest else pure false

/-- `[await self._is_foreign_token(u.token_id) for u in updates]`. -/
def foreignTokens : List UserTradeUpdate → PassProgram (List Bool)
  | [] => pure []
  | update :: rest => do
      let foreign ← isForeignToken update.tokenId
      let later ← foreignTokens rest
      pure (foreign :: later)

/-! ### Trades -/

/-- The record of a quarantined update. -/
def quarantinedUpdate (trade : AccountTrade) (update : UserTradeUpdate) : QuarantineFields where
  kind := .trade
  externalKey := s!"{trade.id}:{update.tokenId}"
  reason := "unmapped_account_trade"
  conditionId := some update.conditionId
  tokenId := some update.tokenId
  side := some update.side
  size := some update.size
  price := some update.price
  notionalUsd := some (update.size * update.price)
  occurredAt := some update.matchedAt

/-- The loop that quarantines the updates of a trade. -/
def quarantineUpdates (trade : AccountTrade) : List UserTradeUpdate → PassProgram Unit
  | [] => pure ()
  | update :: rest => do
      let record ← Program.lift (quarantinedUpdate trade update).record
      let _ ← askStore (.recordQuarantine record)
      let _ ← askMemory (.quarantineToken update.tokenId update.conditionId)
      quarantineUpdates trade rest

/-- The tokens of updates, without the empty text. -/
def updateTokens (updates : List UserTradeUpdate) : List String :=
  ((updates.map UserTradeUpdate.tokenId).filter (· ≠ "")).dedup

/-- `_quarantine_unmapped_trade`. -/
def quarantineUnmappedTrade (trade : AccountTrade) (updates : List UserTradeUpdate) :
    PassProgram Bool :=
  if updateTokens updates = [] then pure false
  else do
    let (tokens : List String) ← askPass (.iterate (updateTokens updates))
    let foreign ← areForeignTokens tokens
    if foreign = true then do
      let _ ← quarantineUpdates trade updates
      pure true
    else pure false

/-- Whether a trade is older than the baseline and touches foreign tokens only. -/
def precedesBaseline (config : ReconcilerConfig) (trade : AccountTrade)
    (updates : List UserTradeUpdate) : PassProgram Bool :=
  if ∃ baseline ∈ config.baselineUtc, ∃ matchedAt ∈ trade.matchedAt, matchedAt < baseline then do
    let foreign ← foreignTokens updates
    pure (foreign.all id)
  else pure false

/-- `_account_trade_updates` for a trade without a durable order. -/
def unmappedTradeUpdates (config : ReconcilerConfig) (trade : AccountTrade)
    (updates : List UserTradeUpdate) : PassProgram (List UserTradeUpdate) := do
  let ignored ← precedesBaseline config trade updates
  if ignored = true then pure []
  else do
    let quarantined ←
      (if config.quarantineEnabled = true then quarantineUnmappedTrade trade updates else pure false)
    if quarantined = true then pure []
    else .raised (incompleteLedger
      ("account trade does not map to a durable bot order; dedicated-wallet " ++
        "ledger integrity cannot be proven"))

/-- `_account_trade_updates`. -/
def accountTradeUpdates (config : ReconcilerConfig) (trade : AccountTrade) :
    PassProgram (List UserTradeUpdate) := do
  let updates ← Program.lift trade.tradeUpdates
  let candidates := (updates.flatMap UserTradeUpdate.candidateOrderIds).filter (· ≠ "")
  let (durable : List String) ← askStore (.durableOrderIds candidates)
  let accountUpdates := updates.filter fun update =>
    update.candidateOrderIds.any fun orderId => decide (orderId ∈ durable)
  let _ ← Program.lift (trade.checkPerspective durable)
  if accountUpdates ≠ [] then pure accountUpdates
  else unmappedTradeUpdates config trade updates

/-- Whether an update is older than the baseline and has no durable order. -/
def ignoresUpdate (config : ReconcilerConfig) (update : UserTradeUpdate) : PassProgram Bool :=
  if ∃ baseline ∈ config.baselineUtc, update.matchedAt < baseline then do
    let (durable : List String) ← askStore (.durableOrderIds update.candidateOrderIds)
    pure durable.isEmpty
  else pure false

/-- The callback of an update whose trade was not delivered before. -/
def deliverFill (update : UserTradeUpdate) : PassProgram Unit := do
  let (notified : Bool) ← askMemory (.isNotified update.clobTradeId)
  if notified = true then pure ()
  else do
    let _ ← askPass (.fillCallback update)
    askMemory (.markNotified update.clobTradeId)

/-- `async with self._fill_callback_lock` around the callback. -/
def notifyFill (update : UserTradeUpdate) : PassProgram Unit := do
  let _ ← askPass (.acquire .fillCallback)
  let delivered ← (deliverFill update).attempt
  let _ ← askPass (.release .fillCallback)
  Program.lift delivered

/-- `_reconcile_trade_and_notify`. -/
def reconcileTradeAndNotify (config : ReconcilerConfig) (update : UserTradeUpdate) :
    PassProgram Unit := do
  let ignored ← ignoresUpdate config update
  if ignored = true then pure ()
  else do
    let _ ← askStore (.reconcileTrade update)
    if config.hasFillCallback = true then notifyFill update else pure ()

/-- The loop over the updates of a trade. -/
def settleUpdates (config : ReconcilerConfig) : List UserTradeUpdate → PassProgram Unit
  | [] => pure ()
  | update :: rest => do
      let _ ← reconcileTradeAndNotify config update
      settleUpdates config rest

/-- The body of a loop over trades. -/
def settleTrade (config : ReconcilerConfig) (trade : AccountTrade) : PassProgram Unit := do
  let updates ← accountTradeUpdates config trade
  settleUpdates config updates

/-! ### The REST pass -/

/-- The open orders, of which fewer than `remaining` may be listed. -/
def listOpenOrders : Nat → List String → PassProgram (List String)
  | 0, _ => .raised (runtimeError "open-order reconciliation safety limit exceeded")
  | remaining + 1, openOrderIds => do
      let (listed : Option UserOrderUpdate) ← askExchange .nextOpenOrder
      match listed with
      | none => pure openOrderIds
      | some order => do
          let _ ← askStore (.reconcileOrder order)
          listOpenOrders remaining (order.clobOrderId :: openOrderIds)

/-- The missing orders that the exchange does not find. -/
def confirmAbsent : List String → PassProgram (List String)
  | [] => pure []
  | target :: rest => do
      let (found : Option UserOrderUpdate) ← askExchange (.getOrder target)
      match found with
      | none => do
          let later ← confirmAbsent rest
          pure (target :: later)
      | some order => do
          let _ ← askStore (.reconcileOrder order)
          confirmAbsent rest

/-- The orders of a pass: `confirmed_absent_order_ids`. -/
def repairOrders : PassProgram (List String) := do
  let openOrderIds ← listOpenOrders 2000 []
  let (missing : List String) ← askStore (.reconcileOpenOrderSnapshot openOrderIds)
  confirmAbsent missing

/-- What the loop over trades has counted. -/
structure TradeProgress where
  remaining : Nat
  latestEpoch : Int
  seenTradeIds : List String

/-- `latest_trade_epoch` after a trade. -/
def AccountTrade.latestEpoch (trade : AccountTrade) (latestEpoch : Int) : Int :=
  trade.matchedAt.elim latestEpoch fun matchedAt => max latestEpoch (epochSeconds matchedAt)

/-- The trades after a cursor. -/
def listTrades (config : ReconcilerConfig) (after : Int) :
    Nat → Int → List String → PassProgram TradeProgress
  | 0, _, _ => .raised (runtimeError "trade reconciliation safety limit exceeded")
  | remaining + 1, latestEpoch, seenTradeIds => do
      let (listed : Option AccountTrade) ← askExchange (.nextTrade after)
      match listed with
      | none => pure ⟨remaining + 1, latestEpoch, seenTradeIds⟩
      | some trade => do
          let _ ← settleTrade config trade
          listTrades config after remaining (trade.latestEpoch latestEpoch)
            (trade.id :: seenTradeIds)

/-- The listing of a pending trade; the count goes on. -/
def pollTrade (config : ReconcilerConfig) (tradeId : String) : Nat → PassProgram Nat
  | 0 => .raised (runtimeError "trade reconciliation safety limit exceeded")
  | remaining + 1 => do
      let (listed : Option { trade : AccountTrade // trade.id = tradeId }) ←
        askExchange (.nextTradeOf tradeId)
      match listed with
      | none => pure (remaining + 1)
      | some trade => do
          let _ ← settleTrade config trade.val
          pollTrade config tradeId remaining

def pollTrades (config : ReconcilerConfig) : List String → Nat → PassProgram Unit
  | [], _ => pure ()
  | tradeId :: rest, remaining => do
      let remaining ← pollTrade config tradeId remaining
      pollTrades config rest remaining

/-- The pending trades that were not listed, polled one by one. -/
def pollPendingTrades (config : ReconcilerConfig) (listed : TradeProgress) : PassProgram Unit := do
  let (pending : List String) ← askStore .pendingTradeIds
  if pending.length > 10000 then
    .raised (runtimeError "pending-trade reconciliation safety limit exceeded")
  else
    pollTrades config
      ((pending.filter fun tradeId => tradeId ∉ listed.seenTradeIds).insertionSort (· ≤ ·))
      listed.remaining

/-- The absences count once no trade is pending. -/
def confirmAbsences (confirmedAbsent : List String) : PassProgram Unit := do
  let (pending : List String) ← askStore .pendingTradeIds
  if pending = [] then askStore (.confirmOrdersAbsent confirmedAbsent) else pure ()

/-- The trades of a pass: `next_trade_after`. -/
def repairTrades (config : ReconcilerConfig) (confirmedAbsent : List String) :
    PassProgram Int := do
  let (tradeAfter : Int) ← askMemory .tradeAfter
  let listed ← listTrades config (if confirmedAbsent ≠ [] then 0 else tradeAfter) 100000
    tradeAfter []
  let _ ← pollPendingTrades config listed
  let _ ← confirmAbsences confirmedAbsent
  pure (max 0 (listed.latestEpoch - 60))

/-- The activities from a start on. -/
def listActivities (start : Int) : Nat → Int → PassProgram Int
  | 0, _ => .raised (runtimeError "account activity reconciliation safety limit exceeded")
  | remaining + 1, latestEpoch => do
      let (listed : Option AccountActivityUpdate) ← askExchange (.nextActivity start)
      match listed with
      | none => pure latestEpoch
      | some update => do
          let _ ← askStore (.reconcileAccountActivity update)
          listActivities start remaining (max latestEpoch (epochSeconds update.occurredAt))

/-- The activities of a pass: `next_activity_start`. -/
def repairActivities (config : ReconcilerConfig) : PassProgram Int := do
  let (start : Int) ← askMemory .activityStart
  let latestEpoch ← listActivities start 4500 start
  let _ ← askStore (.reconcileActivityScope config.baselineUtc config.quarantineEnabled)
  pure (max 1 (latestEpoch - 60))

/-! ### Positions -/

/-- The keys without an outcome. -/
def missingKeys (positionKeys : List (String × String))
    (outcomeMap : Dict (String × String) Outcome) : List (String × String) :=
  (positionKeys.filter fun key => outcomeMap.get? key = none).insertionSort KeyNotAfter

/-- The markets of conditions, looked up one by one. -/
def lookupMarkets : List String → Dict (String × String) Outcome →
    PassProgram (Dict (String × String) Outcome)
  | [], outcomeMap => pure outcomeMap
  | conditionId :: rest, outcomeMap => do
      let (market : MarketSpec) ← askExchange (.getMarketByCondition conditionId)
      let resolvedCondition :=
        if truthy market.conditionId = true then market.conditionId.getD "" else market.id
      let _ ← Program.lift (if resolvedCondition = conditionId then .ok ()
        else .error (incompleteLedger "position market lookup returned a different condition"))
      let _ ← askStore (.saveMarket market)
      let _ ← askMemory (.knowCondition conditionId)
      lookupMarkets rest ((outcomeMap.set (conditionId, market.yesTokenId) .yes).set
        (conditionId, market.noTokenId) .no)

/-- `outcome_map`. -/
def positionOutcomes (config : ReconcilerConfig) (positionKeys : List (String × String)) :
    PassProgram (Dict (String × String) Outcome) := do
  let (stored : Dict (String × String) Outcome) ← askStore (.positionOutcomes positionKeys)
  let outcomeMap ←
    (if config.hasMarketData = true then
      lookupMarkets ((missingKeys positionKeys stored).map Prod.fst).eraseDups stored
    else pure stored)
  match missingKeys positionKeys outcomeMap with
  | [] => pure outcomeMap
  | (conditionId, tokenId) :: _ =>
      .raised (incompleteLedger
        s!"position token is not mapped by its durable market definition ({conditionId}:{tokenId})")

/-- The positions of a pass. -/
def readPositions (config : ReconcilerConfig) : PassProgram (List AccountPositionUpdate) := do
  let (listed : List ExchangePosition) ← askExchange .listPositions
  let rawPositions ← Program.lift (listed.mapM rawPosition)
  let outcomeMap ← positionOutcomes config (rawPositions.map RawPosition.key).dedup
  Program.lift (rawPositions.mapM (RawPosition.withOutcome outcomeMap))

/-- The record of a foreign position. -/
def foreignPosition (tokenId : String) (liveSize : ℚ) (positions : List AccountPositionUpdate) :
    QuarantineFields :=
  let listed := positions.find? fun position => position.tokenId = tokenId
  let markPrice := listed.bind AccountPositionUpdate.markPrice
  { kind := .position
    externalKey := tokenId
    reason := "foreign_position"
    conditionId := listed.map AccountPositionUpdate.conditionId
    tokenId := some tokenId
    side := none
    size := some liveSize
    price := markPrice
    notionalUsd := markPrice.map fun price => liveSize * price
    occurredAt := none }

/-- `_quarantine_foreign_position`. -/
def quarantineForeignPosition (tokenId : String) (liveSize : ℚ)
    (positions : List AccountPositionUpdate) : PassProgram Unit := do
  let record ← Program.lift (foreignPosition tokenId liveSize positions).record
  let _ ← askStore (.recordQuarantine record)
  askMemory (.quarantineToken tokenId "")

/-- `Decimal("0.000001")`. -/
def positionTolerance : ℚ :=
  1 / 1000000

/-- A value of a dictionary of quantities, `Decimal("0")` by default. -/
def quantityOf (quantities : Dict String ℚ) (tokenId : String) : ℚ :=
  (quantities.get? tokenId).getD 0

/-- The body of the loop that compares the sizes: whether the token was quarantined. -/
def balanceToken (config : ReconcilerConfig) (live ledger : Dict String ℚ)
    (positions : List AccountPositionUpdate) (tokenId : String) : PassProgram Bool :=
  if |quantityOf live tokenId - quantityOf ledger tokenId| ≤ positionTolerance then pure false
  else do
    let foreign ←
      (if config.quarantineEnabled = true then isForeignToken tokenId else pure false)
    if foreign = true then do
      let _ ← quarantineForeignPosition tokenId (quantityOf live tokenId) positions
      pure true
    else .raised (incompleteLedger
      s!"live position does not match the complete durable fill ledger for token {tokenId}")

/-- The loop that compares the sizes: `foreign_token_ids`. -/
def balanceTokens (config : ReconcilerConfig) (live ledger : Dict String ℚ)
    (positions : List AccountPositionUpdate) : List String → PassProgram (List String)
  | [] => pure []
  | tokenId :: rest => do
      let foreign ← balanceToken config live ledger positions tokenId
      let later ← balanceTokens config live ledger positions rest
      pure (if foreign = true then tokenId :: later else later)

/-- `utc_midnight`. -/
def utcMidnight (now : Instant) : Instant :=
  now - now.emod 86400000000

/-- The comparison of the positions with the ledger, and the positions that it leaves. -/
def balancePositions (config : ReconcilerConfig) (positions : List AccountPositionUpdate) :
    PassProgram Unit := do
  let (now : Instant) ← askPass .now
  let (ledger : FillLedgerSnapshot) ← askStore (.fillLedgerSnapshot (utcMidnight now))
  let live := liveQuantities positions ledger
  let (tokens : List String) ←
    askPass (.iterate (live.keys ++ ledger.tokenQuantities.keys).dedup)
  let foreign ← balanceTokens config live ledger.tokenQuantities positions tokens
  askStore (.reconcilePositions (positions.filter fun position => position.tokenId ∉ foreign))

/-- `_reconcile_rest_once` before it advances the cursors: what it advances them to. -/
def reconcileWindow (config : ReconcilerConfig) : PassProgram Cursors := do
  let _ ← askMemory .resetTokens
  let confirmedAbsent ← repairOrders
  let nextTradeAfter ← repairTrades config confirmedAbsent
  let nextActivityStart ← repairActivities config
  let positions ← readPositions config
  let _ ← balancePositions config positions
  pure ⟨nextTradeAfter, nextActivityStart⟩

/-- `_reconcile_rest_once`. -/
def reconcileRestOnce (config : ReconcilerConfig) : PassProgram Unit := do
  let cursors ← reconcileWindow config
  askMemory (.advanceCursors cursors)

/-- `reconcile_rest`. -/
def reconcileRest (config : ReconcilerConfig) : PassProgram Unit := do
  let _ ← askPass (.acquire .reconcile)
  let outcome ← (reconcileRestOnce config).attempt
  let _ ← askPass (.release .reconcile)
  Program.lift outcome

/-! ### Calls -/

/-- An event of the user stream. -/
inductive UserEvent where
  | order (update : UserOrderUpdate)
  | trade (trade : AccountTrade)

/-- `_apply_user_event`. -/
def applyUserEvent (config : ReconcilerConfig) : UserEvent → PassProgram Unit
  | .order update => askStore (.reconcileOrder update)
  | .trade trade => settleTrade config trade

/-- Reservations of the engine. -/
def reserveRows : List (FootprintTable × DurableRow) → PassProgram Unit
  | [] => pure ()
  | (table, row) :: rest => do
      let _ ← askPass (.reserve table row)
      reserveRows rest

inductive PassCall where
  | rest
  | event (userEvent : UserEvent)
  | reservations (rows : List (FootprintTable × DurableRow))

/-- A call as its task makes it, which catches what it raises. -/
def PassCall.program (config : ReconcilerConfig) :
    PassCall → PassProgram (Except SettlementError Unit)
  | rest => (reconcileRest config).attempt
  | event userEvent => (applyUserEvent config userEvent).attempt
  | reservations rows => (reserveRows rows).attempt

/-! ### The reconciler and its surroundings -/

/-- The memory of the reconciler, and the tables of the store that make its footprint. -/
structure Reconciler where
  tables : FootprintTable → DurableTable
  botTokensCache : Option Footprint
  quarantinedTokens : List String
  quarantinedConditions : List String
  quarantineCount : Nat
  notifiedTradeIds : List String
  knownConditions : List String
  cursors : Cursors
  held : List ReconcilerLock

/-- A trade is noted as delivered, and beyond 100 000 the oldest one is forgotten. -/
def noteNotified (notified : List String) (clobTradeId : String) : List String :=
  let noted := if clobTradeId ∈ notified then notified else notified ++ [clobTradeId]
  if noted.length > 100000 then noted.tail else noted

namespace Reconciler

/-- A new reconciler over the tables of an account. -/
def start (tables : FootprintTable → DurableTable) : Reconciler where
  tables := tables
  botTokensCache := none
  quarantinedTokens := []
  quarantinedConditions := []
  quarantineCount := 0
  notifiedTradeIds := []
  knownConditions := []
  cursors := ⟨0, 1⟩
  held := []

variable (reconciler : Reconciler)

/-- The rows of a table. -/
def rows (table : FootprintTable) : List DurableRow :=
  (reconciler.tables table).rows

/-- A use of the memory. -/
def remember : (request : MemoryRequest) → request.Response × Reconciler
  | .resetTokens => ((), { reconciler with botTokensCache := none })
  | .cachedTokens => (reconciler.botTokensCache, reconciler)
  | .cacheTokens footprint => ((), { reconciler with botTokensCache := some footprint })
  | .quarantineToken tokenId conditionId =>
      ((), { reconciler with
        quarantinedTokens := reconciler.quarantinedTokens.insert tokenId
        quarantinedConditions :=
          if conditionId = "" then reconciler.quarantinedConditions
          else reconciler.quarantinedConditions.insert conditionId
        quarantineCount := reconciler.quarantineCount + 1 })
  | .isNotified clobTradeId => (decide (clobTradeId ∈ reconciler.notifiedTradeIds), reconciler)
  | .markNotified clobTradeId =>
      ((), { reconciler with
        notifiedTradeIds := noteNotified reconciler.notifiedTradeIds clobTradeId })
  | .knowCondition conditionId =>
      ((), { reconciler with knownConditions := reconciler.knownConditions.insert conditionId })
  | .tradeAfter => (reconciler.cursors.tradeAfter, reconciler)
  | .activityStart => (reconciler.cursors.activityStart, reconciler)
  | .advanceCursors cursors => ((), { reconciler with cursors := cursors })

/-- A row is inserted where its key belongs. -/
def Inserts (table : FootprintTable) (row : DurableRow) (next : Reconciler) : Prop :=
  ∃ before after inserted, reconciler.rows table = before ++ after ∧
    inserted.rows = before ++ row :: after ∧
    next = { reconciler with tables := Function.update reconciler.tables table inserted }

/-- What a call of the store does to the footprint: a trade may insert its fill. -/
def AfterStore (request : StoreRequest) (next : Reconciler) : Prop :=
  next = reconciler ∨ ∃ update row, request = .reconcileTrade update ∧
    row.tokenId = update.tokenId ∧ reconciler.Inserts .fills row next

/-- `durable_token_ids`, if nothing is inserted while it reads. -/
def durableTokens : List String :=
  [FootprintTable.orderIntents, .orders, .fills].flatMap fun table =>
    ((reconciler.rows table).map DurableRow.tokenId).filter (· ≠ "")

end Reconciler

/-- How a request can be served. The memory never fails, and who waits for a lock may be
cancelled; the store and the exchange answer or fail as they like, except that a table
answers with its rows. -/
inductive PassServe (reconciler : Reconciler) : PassEvent → Reconciler → Prop where
  | recalled (request : MemoryRequest) :
      PassServe reconciler ⟨.memory request, .ok (reconciler.remember request).1⟩
        (reconciler.remember request).2
  | acquired (lock : ReconcilerLock) : lock ∉ reconciler.held →
      PassServe reconciler ⟨.acquire lock, .ok ()⟩ { reconciler with held := lock :: reconciler.held }
  | cancelled (lock : ReconcilerLock) (problem : SettlementError) :
      PassServe reconciler ⟨.acquire lock, .error problem⟩ reconciler
  | released (lock : ReconcilerLock) :
      PassServe reconciler ⟨.release lock, .ok ()⟩
        { reconciler with held := reconciler.held.erase lock }
  | clock (now : Instant) : PassServe reconciler ⟨.now, .ok now⟩ reconciler
  | iterated (values order : List String) : order.Perm values →
      PassServe reconciler ⟨.iterate values, .ok order⟩ reconciler
  | read (table : FootprintTable) (page : Nat) :
      PassServe reconciler ⟨.durableRows table page, .ok (reconciler.rows table)⟩ reconciler
  | unread (table : FootprintTable) (page : Nat) (problem : SettlementError) :
      PassServe reconciler ⟨.durableRows table page, .error problem⟩ reconciler
  | stored (request : StoreRequest) (answer : Except SettlementError request.Response)
      (next : Reconciler) : reconciler.AfterStore request next →
      PassServe reconciler ⟨.store request, answer⟩ next
  | exchanged (request : ExchangeRequest) (answer : Except SettlementError request.Response) :
      PassServe reconciler ⟨.exchange request, answer⟩ reconciler
  | called (update : UserTradeUpdate) (answer : Except SettlementError Unit) :
      PassServe reconciler ⟨.fillCallback update, answer⟩ reconciler
  | reserved (table : FootprintTable) (row : DurableRow) (answer : Except SettlementError Unit)
      (next : Reconciler) : reconciler.Inserts table row next →
      PassServe reconciler ⟨.reserve table row, answer⟩ next
  | refused (table : FootprintTable) (row : DurableRow) (problem : SettlementError) :
      PassServe reconciler ⟨.reserve table row, .error problem⟩ reconciler

abbrev PassPool (ι : Type) : Type :=
  Pool PassRequest PassRequest.Response SettlementError (Except SettlementError Unit) Reconciler ι

/-- Calls of a reconciler and of the engine, in any number. -/
def passPool {ι : Type} (config : ReconcilerConfig) (tables : FootprintTable → DurableTable)
    (calls : ι → PassCall) : PassPool ι :=
  Pool.start (.start tables) fun i => (calls i).program config

end Polybot
