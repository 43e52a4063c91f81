import Polybot.Interaction.Transition
import Polybot.Reconcile.Payloads
import Polybot.Store.PairStore

/-!
The durable row of one order (`stores/supabase_reconcile.py` and `save_execution` of
`stores/supabase_store.py`).

`reconcile_order` and `reconcile_trade` act on a durable order and its fills,
`save_execution` also inserts the order. A call that raises may leave a fill behind:
`reconcile_trade` stores the fill before it aggregates, so it returns the new state
next to its outcome.
-/

namespace Polybot

open Checked Interaction

/-! ### Updates -/

structure UserOrderUpdate where
  clobOrderId : String
  originalSize : ℚ
  sizeMatched : ℚ
  status : String
  occurredAt : Instant
  raw : String
  deriving DecidableEq

@[ext]
structure UserTradeUpdate where
  clobTradeId : String
  candidateOrderIds : List String
  conditionId : String
  tokenId : String
  side : Side
  traderSide : Option String
  price : ℚ
  size : ℚ
  status : String
  feeRateBps : ℚ
  transactionHash : Option String
  matchedAt : Instant
  updatedAt : Instant
  raw : String
  candidates_nonempty : candidateOrderIds ≠ []
  price_pos : 0 < price
  price_lt_one : price < 1
  size_pos : 0 < size
  rate_nonneg : 0 ≤ feeRateBps

instance : DecidableEq UserTradeUpdate := fun _ _ =>
  decidable_of_iff _ UserTradeUpdate.ext_iff.symm

/-- A durable order and its fills, by trade. -/
structure DurableOrder where
  row : StoredOrder
  fills : Dict String FillRow
  deriving DecidableEq

/-! ### `reconcile_order` -/

/-- `status_map.get(normalized_status, "unknown")`. -/
def UserOrderUpdate.incomingStatus (update : UserOrderUpdate) : OrderStatus :=
  let normalized := Text.removeprefix update.status "ORDER_STATUS_"
  if normalized = "LIVE" ∨ normalized = "UNMATCHED" then .live
  else if normalized = "DELAYED" then .submitted
  else if normalized = "MATCHED" then .matched
  else if normalized = "CANCELED" ∨ normalized = "CANCELLED" then .cancelled
  else .unknown

/-- The status that an order event reports. -/
def reportedStatus (current incoming : OrderStatus) (filledSize originalSize : ℚ) : OrderStatus :=
  if incoming = .unknown then current
  else if (0 < filledSize ∧ filledSize < originalSize) ∧ incoming ≠ .cancelled then .partiallyFilled
  else if originalSize ≤ filledSize ∧ (incoming = .live ∨ incoming = .submitted) then .matched
  else incoming

/-- The status that is stored when `reported` meets `current`. -/
def keptStatus (current reported : OrderStatus) (filledSize originalSize : ℚ) : OrderStatus :=
  if current = .confirmed then current
  else if current ∈ [OrderStatus.cancelled, .expired, .rejected, .failed] then
    if originalSize ≤ filledSize ∧ reported = .matched then reported else current
  else if reported.settlementRank < current.settlementRank then current
  else reported

namespace OrderRow

variable (row : OrderRow) (update : UserOrderUpdate)

/-- The filled size after an order event. -/
def eventFilled : ℚ :=
  min row.originalSize (max row.filledSize update.sizeMatched)

/-- The status after an order event. -/
def eventStatus : OrderStatus :=
  keptStatus row.status
    (reportedStatus row.status update.incomingStatus (row.eventFilled update) row.originalSize)
    (row.eventFilled update) row.originalSize

/-- The row that `reconcile_order` writes. -/
def afterEvent : OrderRow :=
  { row with
    filledSize := row.eventFilled update
    remainingSize := max 0 (row.originalSize - row.eventFilled update)
    status := row.eventStatus update
    responsePayload := row.responsePayload.set "last_order_event" update.raw
    openSnapshotMissCount := 0
    openSnapshotMissingSince := none
    matchedAt :=
      if row.eventStatus update = .matched then row.matchedAt <|> some update.occurredAt
      else row.matchedAt
    cancelledAt :=
      if row.eventStatus update = .cancelled then row.cancelledAt <|> some update.occurredAt
      else row.cancelledAt }

end OrderRow

/-- `reconcile_order`. An event of another order is an orphan, which is only audited. -/
def DurableOrder.reconcileOrder (durable : DurableOrder) (update : UserOrderUpdate) :
    Except ReconcileError DurableOrder :=
  if durable.row.val.clobOrderId ≠ some update.clobOrderId then .ok durable
  else do
    let _ ← require (|durable.row.val.originalSize - update.originalSize| ≤ 1 / 1000000)
      (.incompleteFillLedger "CLOB order size does not match its durable order record")
    let row ← (durable.row.val.afterEvent update).store
    pure { durable with row := row }

/-! ### `reconcile_trade` -/

/-- The settlement status of a trade. -/
def UserTradeUpdate.settlementStatus (update : UserTradeUpdate) : SettlementStatus :=
  let status := Text.removeprefix update.status "TRADE_STATUS_"
  if status = "MINED" then .mined
  else if status = "CONFIRMED" then .confirmed
  else if status = "RETRYING" then .retrying
  else if status = "FAILED" then .failed
  else .matched

/-- `trader_side.lower()`, as far as the `fills` table allows it. -/
def UserTradeUpdate.liquidityRole (update : UserTradeUpdate) :
    Except ReconcileError (Option LiquidityRole) :=
  if truthy update.traderSide then
    let role := Text.lower (update.traderSide.getD "")
    if role = "maker" then .ok (some .maker)
    else if role = "taker" then .ok (some .taker)
    else .error .checkViolation
  else .ok none

/-- `_db_market_id_by_condition`. -/
def dbMarketIdByCondition (markets : List MarketRow) (conditionId : String) :
    Except ReconcileError String :=
  match markets.find? fun row => row.conditionId = some conditionId with
  | none => .error (.runtimeError s!"condition {conditionId} has not been persisted")
  | some row => .ok row.id

theorem UserTradeUpdate.takerFee_nonneg (update : UserTradeUpdate) :
    0 ≤ matchedTakerFeeUsd update.size update.price update.feeRateBps update.traderSide :=
  matchedTakerFeeUsd_nonneg

/-- The payload of the fill of a trade. -/
def UserTradeUpdate.fillPayload (update : UserTradeUpdate) (marketId : String)
    (liquidityRole : Option LiquidityRole) : FillRow where
  marketId := marketId
  clobTradeId := update.clobTradeId
  outcomeTokenId := update.tokenId
  side := update.side
  liquidityRole := liquidityRole
  price := update.price
  size := update.size
  feePusd := matchedTakerFeeUsd update.size update.price update.feeRateBps update.traderSide
  settlementStatus := update.settlementStatus
  transactionHash := update.transactionHash
  matchedAt := update.matchedAt
  minedAt :=
    if update.settlementStatus = .mined ∨ update.settlementStatus = .confirmed then
      some update.updatedAt
    else none
  confirmedAt := if update.settlementStatus = .confirmed then some update.updatedAt else none
  rawPayload := update.raw
  price_pos := update.price_pos
  price_lt_one := update.price_lt_one
  size_pos := update.size_pos
  fee_nonneg := update.takerFee_nonneg

namespace DurableOrder

variable (markets : List MarketRow) (durable : DurableOrder) (update : UserTradeUpdate)

/-- `reconcile_trade` up to the fill that it stores. -/
def tradeFill : Except ReconcileError FillRow := do
  let row := durable.row.val
  let _ ← require (∃ orderId ∈ update.candidateOrderIds, row.clobOrderId = some orderId)
    (.incompleteFillLedger ("account trade does not map to a durable bot order; dedicated-wallet " ++
      "ledger integrity cannot be proven"))
  let _ ← require (row.outcomeTokenId = update.tokenId ∧ row.side = update.side)
    (.incompleteFillLedger "account trade economics do not match the durable bot order")
  let marketId ← dbMarketIdByCondition markets update.conditionId
  let liquidityRole ← update.liquidityRole
  pure (mergeFillPayload (durable.fills.get? update.clobTradeId)
    (update.fillPayload marketId liquidityRole))

/-- The row that `reconcile_trade` writes. -/
def afterTrade (row : OrderRow) (payload : OrderFillPayload) : OrderRow :=
  { row with
    filledSize := payload.filledSize
    remainingSize := payload.remainingSize
    feePaidPusd := payload.feePaidPusd
    averageFillPrice := payload.averageFillPrice <|> row.averageFillPrice
    status := payload.status
    matchedAt := row.matchedAt <|> some update.matchedAt
    minedAt :=
      if payload.status = .mined ∨ payload.status = .confirmed then
        row.minedAt <|> some update.updatedAt
      else row.minedAt
    confirmedAt :=
      if payload.status = .confirmed then row.confirmedAt <|> some update.updatedAt
      else row.confirmedAt
    openSnapshotMissCount := 0
    openSnapshotMissingSince := none }

/-- `reconcile_trade` from the fills of the order on. -/
def tradeRow (fills : List FillRow) : Except ReconcileError StoredOrder := do
  let payload ← aggregateOrderFillPayload durable.row.val fills
  (afterTrade update durable.row.val payload).store

/-- `reconcile_trade`: the state that it leaves and its outcome. -/
def reconcileTrade : DurableOrder × Except ReconcileError Unit :=
  match durable.tradeFill markets update with
  | .error problem => (durable, .error problem)
  | .ok fill =>
      let fills := durable.fills.set update.clobTradeId fill
      match durable.tradeRow update fills.values with
      | .error problem => ({ durable with fills := fills }, .error problem)
      | .ok row => (⟨row, fills⟩, .ok ())

end DurableOrder

/-! ### `save_execution` -/

inductive IntentStatus where
  | proposed
  | riskApproved
  | rejected
  | signed
  | submitted
  | live
  | partiallyFilled
  | matched
  | mined
  | confirmed
  | simulated
  | cancelled
  | expired
  | failed
  deriving DecidableEq, Repr

/-- The intent of an order. -/
structure IntentRow where
  mode : TradingMode
  tokenId : String
  side : Side
  price : ℚ
  size : ℚ
  status : IntentStatus
  deriving DecidableEq

/-- An execution with the cells of `raw` that the store reads. -/
structure ExecutionReport extends ExecutionResult where
  orderType : Option String
  expiresAt : Option Instant
  raw : JsonObject
  createdAt : Instant

/-- `status_map`. -/
def ExecutionStatus.orderStatus : ExecutionStatus → OrderStatus
  | paperFilled => .simulated
  | shadowed => .simulated
  | accepted => .submitted
  | rejected => .rejected
  | duplicate => .rejected
  | cancelled => .cancelled
  | error => .unknown

/-- `intent_status_map`. -/
def ExecutionStatus.intentStatus : ExecutionStatus → IntentStatus
  | paperFilled => .simulated
  | shadowed => .simulated
  | accepted => .submitted
  | rejected => .rejected
  | duplicate => .rejected
  | cancelled => .cancelled
  | error => .failed

/-- The columns that an execution reports. -/
def IntentRow.executionPayload (intent : IntentRow) (result : ExecutionReport) :
    ExecutionColumns where
  clobOrderId := if intent.mode = .canary ∨ intent.mode = .live then result.orderId else none
  environment := intent.mode
  outcomeTokenId := intent.tokenId
  side := intent.side
  orderType := Text.upper (textOr result.orderType "GTC")
  expiresAt := result.expiresAt
  limitPrice := intent.price
  originalSize := intent.size
  filledSize := min result.filledSize intent.size
  remainingSize := max 0 (intent.size - min result.filledSize intent.size)
  averageFillPrice := result.averagePrice
  status := result.status.orderStatus
  attemptCount := 1
  lastErrorDetail :=
    if result.status = .error ∨ result.status = .rejected then some result.message else none
  responsePayload := JsonObject.merge (Dict.empty.set "message" result.message) result.raw
  submittedAt :=
    if result.status = .accepted ∨ result.status = .paperFilled then some result.createdAt
    else none

/-- The order of an intent, if it is stored. -/
structure OrderLedger where
  intent : IntentRow
  order : Option DurableOrder
  deriving DecidableEq

/-- The intent after an execution whose status the order took. -/
def IntentRow.executed (intent : IntentRow) (status : ExecutionStatus) : IntentRow :=
  if intent.status ∈ [IntentStatus.proposed, .riskApproved, .signed, .submitted] then
    { intent with status := status.intentStatus }
  else intent

/-- `save_execution`. -/
def OrderLedger.saveExecution (ledger : OrderLedger) (result : ExecutionReport) :
    Except ReconcileError OrderLedger :=
  let payload := ledger.intent.executionPayload result
  match ledger.order with
  | some durable => do
      let merged := mergeExecutionOrderPayload durable.row.val.toExecutionColumns payload
      let row ← OrderRow.store { durable.row.val with toExecutionColumns := merged }
      let taken := merged.status = result.status.orderStatus
      pure
        { intent := if taken then ledger.intent.executed result.status else ledger.intent
          order := some { durable with row := row } }
  | none => do
      let row ← OrderRow.store
        { payload with
          feePaidPusd := 0
          matchedAt := none
          minedAt := none
          confirmedAt := none
          cancelledAt := none
          openSnapshotMissCount := 0
          openSnapshotMissingSince := none }
      pure ⟨ledger.intent.executed result.status, some ⟨row, .empty⟩⟩

/-! ### Calls -/

/-- An event of the account on an order. -/
inductive ReconcileCall where
  | order (update : UserOrderUpdate)
  | trade (update : UserTradeUpdate)

/-- The state after an event, which the reconciler may see fail. -/
def DurableOrder.reconcile (markets : List MarketRow) (durable : DurableOrder) :
    ReconcileCall → DurableOrder
  | .order update => (durable.reconcileOrder update).toOption.getD durable
  | .trade update => (durable.reconcileTrade markets update).1

/-- A call on the order of an intent. -/
inductive OrderCall where
  | execution (result : ExecutionReport)
  | reconcile (call : ReconcileCall)

/-- The state after a call. Without an order, an event stores nothing. -/
def OrderLedger.serve (markets : List MarketRow) (ledger : OrderLedger) : OrderCall → OrderLedger
  | .execution result => (ledger.saveExecution result).toOption.getD ledger
  | .reconcile call =>
      { ledger with order := ledger.order.map fun durable => durable.reconcile markets call }

/-! ### What an event writes -/

section Events

variable {markets : List MarketRow} {durable : DurableOrder} {update : UserTradeUpdate}
  {event : UserOrderUpdate} {fills : List FillRow} {row : StoredOrder} {fill : FillRow}

/-- The event is about the order, with its size. -/
def DurableOrder.Takes (durable : DurableOrder) (event : UserOrderUpdate) : Prop :=
  durable.row.val.clobOrderId = some event.clobOrderId ∧
    |durable.row.val.originalSize - event.originalSize| ≤ 1 / 1000000

theorem OrderRow.afterEvent_checks {row : OrderRow} (checks : row.Checks) :
    (row.afterEvent event).Checks := by
  have filled_nonneg : 0 ≤ row.eventFilled event :=
    le_min checks.original_pos.le (checks.filled_nonneg.trans (le_max_left _ _))
  have filled_le : row.eventFilled event ≤ row.originalSize := min_le_left _ _
  exact
    { original_pos := checks.original_pos
      filled_nonneg := filled_nonneg
      remaining_nonneg := le_max_left _ _
      filled_le := filled_le
      remaining_le := max_le checks.original_pos.le (sub_le_self _ filled_nonneg)
      average_range := checks.average_range
      fee_nonneg := checks.fee_nonneg
      price_range := checks.price_range
      type_allowed := checks.type_allowed
      gtd_has_expiry := checks.gtd_has_expiry }

/-- An event that is taken is written. -/
theorem DurableOrder.reconcile_order_of_takes (takes : durable.Takes event) :
    durable.reconcile markets (.order event) =
      { durable with row :=
          ⟨durable.row.val.afterEvent event, OrderRow.afterEvent_checks durable.row.property⟩ } := by
  have stored : (durable.row.val.afterEvent event).store =
      .ok ⟨_, OrderRow.afterEvent_checks durable.row.property⟩ := OrderRow.store_ok_iff.mpr rfl
  unfold reconcile reconcileOrder
  dsimp only
  rw [if_neg (not_not.mpr takes.1), require_bind_of takes.2, stored]
  rfl

/-- Every other event changes nothing. -/
theorem DurableOrder.reconcile_order_of_not_takes (refused : ¬ durable.Takes event) :
    durable.reconcile markets (.order event) = durable := by
  unfold reconcile reconcileOrder
  dsimp only
  split
  · rfl
  · rename_i known
    cases served : (require (|durable.row.val.originalSize - event.originalSize| ≤ 1 / 1000000)
      (ReconcileError.incompleteFillLedger
        "CLOB order size does not match its durable order record")) with
    | error problem => rfl
    | ok value => exact absurd ⟨not_not.mp known, require_ok_iff.mp served⟩ refused

/-- A row that was written has the filled size and the status of the fills. -/
theorem DurableOrder.tradeRow_spec (written : durable.tradeRow update fills = .ok row) :
    row.val.originalSize = durable.row.val.originalSize ∧
      row.val.filledSize = min durable.row.val.originalSize (reportedFilledSize fills) ∧
      row.val.status = aggregateStatus durable.row.val.status row.val.filledSize
        (max 0 (durable.row.val.originalSize - row.val.filledSize)) fills := by
  unfold tradeRow at written
  rw [bind_ok_iff] at written
  obtain ⟨payload, made, stored⟩ := written
  obtain ⟨-, rfl⟩ := aggregateOrderFillPayload_ok_iff.mp made
  rw [OrderRow.store_ok_iff] at stored
  rw [stored]
  exact ⟨rfl, rfl, rfl⟩

/-- Fills within the size of the order are always written. -/
theorem DurableOrder.tradeRow_ok (within : reportedFilledSize fills ≤ durable.row.val.originalSize) :
    ∃ row, durable.tradeRow update fills = .ok row := by
  have checks : durable.row.val.Checks := durable.row.property
  obtain ⟨payload, made⟩ : ∃ payload, aggregateOrderFillPayload durable.row.val fills = .ok payload :=
    ⟨_, aggregateOrderFillPayload_ok_iff.mpr ⟨by linarith, rfl⟩⟩
  have average := aggregate_average within made
  have fee := aggregate_fee made
  have filled : payload.filledSize = reportedFilledSize fills := by
    rw [(aggregateOrderFillPayload_ok_iff.mp made).2]
    exact min_eq_right within
  have remaining : payload.remainingSize =
      durable.row.val.originalSize - reportedFilledSize fills := by
    rw [(aggregateOrderFillPayload_ok_iff.mp made).2]
    dsimp only
    rw [min_eq_right within]
    exact max_eq_right (by linarith)
  have nonneg : 0 ≤ reportedFilledSize fills := reportedFilledSize_nonneg
  suffices kept : (afterTrade update durable.row.val payload).Checks from
    ⟨⟨_, kept⟩, bind_ok_iff.mpr ⟨payload, made, OrderRow.store_ok_iff.mpr rfl⟩⟩
  exact
    { original_pos := checks.original_pos
      filled_nonneg := nonneg.trans_eq filled.symm
      remaining_nonneg := (sub_nonneg.mpr within).trans_eq remaining.symm
      filled_le := filled.trans_le within
      remaining_le := remaining.trans_le (sub_le_self _ nonneg)
      average_range := by
        intro price member
        unfold afterTrade at member
        cases known : payload.averageFillPrice with
        | some reported =>
            rw [known] at member
            cases member
            exact average _ known
        | none =>
            rw [known] at member
            exact checks.average_range price member
      fee_nonneg := fee
      price_range := checks.price_range
      type_allowed := checks.type_allowed
      gtd_has_expiry := checks.gtd_has_expiry }

/-- An accepted trade stores its payload, merged into the fill it had. -/
theorem DurableOrder.tradeFill_ok (accepted : durable.tradeFill markets update = .ok fill) :
    ∃ marketId liquidityRole, fill = mergeFillPayload (durable.fills.get? update.clobTradeId)
      (update.fillPayload marketId liquidityRole) := by
  unfold tradeFill at accepted
  rw [require_bind_ok_iff, require_bind_ok_iff, bind_ok_iff] at accepted
  obtain ⟨-, -, marketId, -, accepted⟩ := accepted
  obtain ⟨liquidityRole, -, accepted⟩ := bind_ok_iff.mp accepted
  exact ⟨marketId, liquidityRole, (Except.ok.inj accepted).symm⟩

/-- The order whose fills were written: the row is as it was where they exceed the
order, and agrees with them otherwise. -/
def DurableOrder.Aggregates (durable after : DurableOrder) : Prop :=
  durable.row.val.originalSize < reportedFilledSize after.fills.values ∧ after.row = durable.row ∨
    after.row.val.originalSize = durable.row.val.originalSize ∧
      after.row.val.filledSize =
        min durable.row.val.originalSize (reportedFilledSize after.fills.values) ∧
      after.row.val.status = aggregateStatus durable.row.val.status after.row.val.filledSize
        (max 0 (durable.row.val.originalSize - after.row.val.filledSize)) after.fills.values

/-- What a trade does. -/
theorem DurableOrder.reconcile_trade_cases (markets : List MarketRow) (durable : DurableOrder)
    (update : UserTradeUpdate) :
    (∀ fill, durable.tradeFill markets update ≠ .ok fill) ∧
        durable.reconcile markets (.trade update) = durable ∨
      ∃ fill, durable.tradeFill markets update = .ok fill ∧
        (durable.reconcile markets (.trade update)).fills =
          durable.fills.set update.clobTradeId fill ∧
        durable.Aggregates (durable.reconcile markets (.trade update)) := by
  cases accepted : durable.tradeFill markets update with
  | error problem =>
      have served : durable.reconcile markets (.trade update) = durable := by
        unfold reconcile reconcileTrade
        simp only [accepted]
      refine .inl ⟨fun fill made => ?_, served⟩
      cases made
  | ok fill =>
      refine .inr ⟨fill, rfl, ?_⟩
      cases written : durable.tradeRow update
          (durable.fills.set update.clobTradeId fill).values with
      | error problem =>
          have served : durable.reconcile markets (.trade update) =
              ⟨durable.row, durable.fills.set update.clobTradeId fill⟩ := by
            unfold reconcile reconcileTrade
            simp only [accepted, written]
          rw [served]
          refine ⟨rfl, .inl ⟨not_le.mp fun within => ?_, rfl⟩⟩
          obtain ⟨row, made⟩ := tradeRow_ok within
          rw [made] at written
          cases written
      | ok row =>
          have served : durable.reconcile markets (.trade update) =
              ⟨row, durable.fills.set update.clobTradeId fill⟩ := by
            unfold reconcile reconcileTrade
            simp only [accepted, written]
          rw [served]
          exact ⟨rfl, .inr (tradeRow_spec written)⟩

end Events

section Execution

variable {ledger next : OrderLedger} {durable : DurableOrder} {result : ExecutionReport}

/-- An execution that is saved is merged into the row of its order. -/
theorem OrderLedger.saveExecution_some (known : ledger.order = some durable)
    (saved : ledger.saveExecution result = .ok next) :
    ∃ row : StoredOrder, next.order = some { durable with row := row } ∧
      row.val =
        { durable.row.val with
          toExecutionColumns := mergeExecutionOrderPayload durable.row.val.toExecutionColumns
            (ledger.intent.executionPayload result) } := by
  unfold saveExecution at saved
  rw [known] at saved
  obtain ⟨row, stored, made⟩ := bind_ok_iff.mp saved
  cases made
  exact ⟨row, rfl, OrderRow.store_ok_iff.mp stored⟩

/-- The first execution inserts an order without fills. -/
theorem OrderLedger.saveExecution_none (fresh : ledger.order = none)
    (saved : ledger.saveExecution result = .ok next) :
    ∃ row : StoredOrder, next.order = some ⟨row, .empty⟩ := by
  unfold saveExecution at saved
  rw [fresh] at saved
  obtain ⟨row, -, made⟩ := bind_ok_iff.mp saved
  cases made
  exact ⟨row, rfl⟩

end Execution

end Polybot
