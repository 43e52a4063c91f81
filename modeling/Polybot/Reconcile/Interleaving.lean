import Polybot.Interaction.Pool
import Polybot.Reconcile.Settlement

/-!
The settlement path between its database calls.

`reconcile_trade`, `reconcile_order` and `save_execution` each select a row, merge it in
Python, and write the result without a condition on the row. As programs over the
tables `orders`, `fills` and `order_intents` they run in any number at once, and every
request of theirs may fail or lose its answer. `settlements_kept` says which runs lose
no settlement: those in which each write had read what it overwrites, as far as that
matters for the status and the size that it stores.
-/

namespace Polybot

open Checked Interaction

/-! ### Requests -/

/-- The orders and fills of an account, by the client id of their order, and the intents
by their hash. The client id of an order is the hash of its intent. -/
structure SettlementTables where
  intents : Dict String IntentRow
  orders : Dict String DurableOrder
  deriving DecidableEq

/-- What a call raises: an error of its own, or of the client library. -/
inductive SettlementError where
  | raised (problem : ReconcileError)
  | foreign (typeName : String)
  deriving DecidableEq

/-- The columns of an order that a call updates, with the row they were merged into. -/
inductive OrderChange where
  | event (read : OrderRow) (update : UserOrderUpdate)
  | trade (read : OrderRow) (fills : List FillRow) (update : UserTradeUpdate)
  | execution (read : OrderRow) (payload : ExecutionColumns)

/-- A statement that writes. A fill is merged into the fill that was read. -/
inductive SettlementWrite where
  | upsertFill (orderId : String) (read : Option FillRow) (payload : FillRow)
  | updateOrder (orderId : String) (change : OrderChange)
  | insertOrder (orderId : String) (payload : ExecutionColumns)
  | updateIntent (intentHash : String) (status : ExecutionStatus)

inductive SettlementRequest where
  | selectOrder (clobOrderIds : List String)
  | selectOrderByClient (clientOrderId : String)
  | selectIntent (intentHash : String)
  | selectMarket (conditionId : String)
  | selectFill (orderId clobTradeId : String)
  | selectFills (orderId : String)
  | audit (action : String)
  | clearCache
  | write (statement : SettlementWrite)

/-- What an answer is. An order comes with its id; `clearCache` drops the replayed ledger
that the store keeps in memory. -/
def SettlementRequest.Response : SettlementRequest → Type
  | selectOrder _ => Option (String × OrderRow)
  | selectOrderByClient _ => Option OrderRow
  | selectIntent _ => Option IntentRow
  | selectMarket _ => Option String
  | selectFill _ _ => Option FillRow
  | selectFills _ => List FillRow
  | audit _ => Unit
  | clearCache => Unit
  | write _ => Unit

abbrev SettlementProgram (α : Type) : Type :=
  Program SettlementRequest SettlementRequest.Response SettlementError α

abbrev SettlementEvent : Type :=
  Event SettlementRequest SettlementRequest.Response SettlementError

/-- Await the answer of a request. -/
abbrev askSettlement (request : SettlementRequest) : SettlementProgram request.Response :=
  Program.ask request

/-- A computation of the call itself. -/
abbrev compute {α : Type} (computed : Except ReconcileError α) : SettlementProgram α :=
  Program.lift (computed.mapError .raised)

/-! ### The calls -/

/-- `reconcile_order`. -/
def reconcileOrder (update : UserOrderUpdate) : SettlementProgram Unit := do
  let (found : Option (String × OrderRow)) ← askSettlement (.selectOrder [update.clobOrderId])
  match found with
  | none => askSettlement (.audit "order_reconcile_orphan")
  | some (orderId, row) =>
      let _ ← compute (require (|row.originalSize - update.originalSize| ≤ 1 / 1000000)
        (.incompleteFillLedger "CLOB order size does not match its durable order record"))
      askSettlement (.write (.updateOrder orderId (.event row update)))

/-- `_db_market_id_by_condition`. -/
def awaitMarketId (conditionId : String) : SettlementProgram String := do
  let (found : Option String) ← askSettlement (.selectMarket conditionId)
  match found with
  | none => .raised (.raised (.runtimeError s!"condition {conditionId} has not been persisted"))
  | some marketId => pure marketId

/-- `reconcile_trade` for an order that was found. -/
def reconcileTradeOf (orderId : String) (row : OrderRow) (update : UserTradeUpdate) :
    SettlementProgram Unit := do
  let _ ← compute (require (row.outcomeTokenId = update.tokenId ∧ row.side = update.side)
    (.incompleteFillLedger "account trade economics do not match the durable bot order"))
  let marketId ← awaitMarketId update.conditionId
  let (existing : Option FillRow) ← askSettlement (.selectFill orderId update.clobTradeId)
  let liquidityRole ← compute update.liquidityRole
  let _ ← askSettlement
    (.write (.upsertFill orderId existing (update.fillPayload marketId liquidityRole)))
  let _ ← askSettlement .clearCache
  let (fills : List FillRow) ← askSettlement (.selectFills orderId)
  let _ ← compute (aggregateOrderFillPayload row fills)
  askSettlement (.write (.updateOrder orderId (.trade row fills update)))

/-- `reconcile_trade`. -/
def reconcileTrade (update : UserTradeUpdate) : SettlementProgram Unit := do
  let (found : Option (String × OrderRow)) ← askSettlement (.selectOrder update.candidateOrderIds)
  match found with
  | none => do
      let _ ← askSettlement (.audit "trade_reconcile_orphan")
      .raised (.raised (.incompleteFillLedger
        ("account trade does not map to a durable bot order; dedicated-wallet " ++
          "ledger integrity cannot be proven")))
  | some (orderId, row) => reconcileTradeOf orderId row update

/-- The intent of an execution, which the store may still hold in memory. -/
def awaitIntent (cached : Option IntentRow) (intentHash : String) :
    SettlementProgram IntentRow := do
  match cached with
  | some intent => pure intent
  | none =>
      let (found : Option IntentRow) ← askSettlement (.selectIntent intentHash)
      match found with
      | none => .raised (.raised (.runtimeError "execution has no durable order intent"))
      | some intent => pure intent

/-- `save_execution` up to the intent: whether the order took the status. -/
def saveExecutionOrder (intent : IntentRow) (result : ExecutionReport) :
    SettlementProgram Bool := do
  let payload := intent.executionPayload result
  let (existing : Option OrderRow) ← askSettlement (.selectOrderByClient result.intentHash)
  match existing with
  | some row => do
      let _ ← askSettlement (.write (.updateOrder result.intentHash (.execution row payload)))
      pure (decide ((mergeExecutionOrderPayload row.toExecutionColumns payload).status =
        result.status.orderStatus))
  | none => do
      let _ ← askSettlement (.write (.insertOrder result.intentHash payload))
      pure true

/-- `save_execution`. -/
def saveExecution (cached : Option IntentRow) (result : ExecutionReport) :
    SettlementProgram Unit := do
  let intent ← awaitIntent cached result.intentHash
  let updateIntentStatus ← saveExecutionOrder intent result
  if updateIntentStatus = true then
    askSettlement (.write (.updateIntent result.intentHash result.status))
  else pure ()

/-- A call of the settlement path. -/
inductive SettlementCall where
  | trade (update : UserTradeUpdate)
  | order (update : UserOrderUpdate)
  | execution (cached : Option IntentRow) (result : ExecutionReport)

def SettlementCall.program : SettlementCall → SettlementProgram Unit
  | trade update => reconcileTrade update
  | order update => reconcileOrder update
  | execution cached result => saveExecution cached result

/-! ### The database -/

/-- The row of an order that is inserted; the other columns have their defaults. -/
def ExecutionColumns.inserted (payload : ExecutionColumns) : OrderRow :=
  { payload with
    feePaidPusd := 0
    matchedAt := none
    minedAt := none
    confirmedAt := none
    cancelledAt := none
    openSnapshotMissCount := 0
    openSnapshotMissingSince := none }

namespace OrderChange

/-- The row after the columns were written over `current`. -/
def apply (change : OrderChange) (current : OrderRow) : OrderRow :=
  match change with
  | event read update =>
      { current with
        filledSize := read.eventFilled update
        remainingSize := max 0 (read.originalSize - read.eventFilled update)
        status := read.eventStatus update
        responsePayload := read.responsePayload.set "last_order_event" update.raw
        openSnapshotMissCount := 0
        openSnapshotMissingSince := none
        matchedAt :=
          if read.eventStatus update = .matched ∧ read.matchedAt = none then some update.occurredAt
          else current.matchedAt
        cancelledAt :=
          if read.eventStatus update = .cancelled ∧ read.cancelledAt = none then
            some update.occurredAt
          else current.cancelledAt }
  | trade read fills update =>
      match aggregateOrderFillPayload read fills with
      | .error _ => current
      | .ok payload =>
          { current with
            filledSize := payload.filledSize
            remainingSize := payload.remainingSize
            feePaidPusd := payload.feePaidPusd
            averageFillPrice := payload.averageFillPrice <|> current.averageFillPrice
            status := payload.status
            matchedAt := read.matchedAt <|> some update.matchedAt
            minedAt :=
              if payload.status = .mined ∨ payload.status = .confirmed then
                read.minedAt <|> some update.updatedAt
              else current.minedAt
            confirmedAt :=
              if payload.status = .confirmed then read.confirmedAt <|> some update.updatedAt
              else current.confirmedAt
            openSnapshotMissCount := 0
            openSnapshotMissingSince := none }
  | execution read payload =>
      { current with
        toExecutionColumns := mergeExecutionOrderPayload read.toExecutionColumns payload }

/-- The row that was read. -/
def read : OrderChange → OrderRow
  | event read _ => read
  | trade read _ _ => read
  | execution read _ => read

end OrderChange

namespace SettlementTables

variable (tables : SettlementTables)

/-- The fill of a trade of an order. -/
def fill? (orderId clobTradeId : String) : Option FillRow :=
  (tables.orders.get? orderId).bind fun durable => durable.fills.get? clobTradeId

/-- The stored order becomes `durable`. -/
def setOrder (orderId : String) (durable : DurableOrder) : SettlementTables :=
  { tables with orders := tables.orders.set orderId durable }

/-- The tables after a statement, unless a constraint refuses it. -/
def apply : SettlementWrite → Option SettlementTables
  | .upsertFill orderId read payload =>
      (tables.orders.get? orderId).map fun durable => tables.setOrder orderId
        { durable with fills := durable.fills.set payload.clobTradeId (mergeFillPayload read payload) }
  | .updateOrder orderId change =>
      match tables.orders.get? orderId with
      | none => some tables
      | some durable =>
          match (change.apply durable.row.val).store with
          | .error _ => none
          | .ok row => some (tables.setOrder orderId { durable with row := row })
  | .insertOrder orderId payload =>
      match tables.orders.get? orderId with
      | some _ => none
      | none =>
          match payload.inserted.store with
          | .error _ => none
          | .ok row => some (tables.setOrder orderId ⟨row, .empty⟩)
  | .updateIntent intentHash status =>
      match tables.intents.get? intentHash with
      | none => some tables
      | some intent => some
          { tables with intents := tables.intents.set intentHash (intent.executed status) }

end SettlementTables

/-- How a request can be served: it is answered, it fails, or the answer to a write is
lost. The rows of `fills` come in any order, an order that was asked for in any place. -/
inductive SettlementServe (tables : SettlementTables) : SettlementEvent → SettlementTables → Prop where
  | found (clobOrderIds : List String) (orderId : String) (durable : DurableOrder) :
      tables.orders.get? orderId = some durable →
      (∃ clobOrderId ∈ clobOrderIds, durable.row.val.clobOrderId = some clobOrderId) →
      SettlementServe tables ⟨.selectOrder clobOrderIds, .ok (some (orderId, durable.row.val))⟩ tables
  | missing (clobOrderIds : List String) :
      (∀ orderId durable, tables.orders.get? orderId = some durable →
        ∀ clobOrderId ∈ clobOrderIds, durable.row.val.clobOrderId ≠ some clobOrderId) →
      SettlementServe tables ⟨.selectOrder clobOrderIds, .ok none⟩ tables
  | client (clientOrderId : String) :
      SettlementServe tables ⟨.selectOrderByClient clientOrderId,
        .ok ((tables.orders.get? clientOrderId).map fun durable => durable.row.val)⟩ tables
  | intent (intentHash : String) :
      SettlementServe tables ⟨.selectIntent intentHash, .ok (tables.intents.get? intentHash)⟩ tables
  | market (conditionId : String) (marketId : Option String) :
      SettlementServe tables ⟨.selectMarket conditionId, .ok marketId⟩ tables
  | fill (orderId clobTradeId : String) :
      SettlementServe tables ⟨.selectFill orderId clobTradeId,
        .ok (tables.fill? orderId clobTradeId)⟩ tables
  | fills (orderId : String) (fills : List FillRow) :
      fills.Perm ((tables.orders.get? orderId).elim [] fun durable => durable.fills.values) →
      SettlementServe tables ⟨.selectFills orderId, .ok fills⟩ tables
  | audited (action : String) : SettlementServe tables ⟨.audit action, .ok ()⟩ tables
  | cleared : SettlementServe tables ⟨.clearCache, .ok ()⟩ tables
  | written (statement : SettlementWrite) (next : SettlementTables) :
      tables.apply statement = some next →
      SettlementServe tables ⟨.write statement, .ok ()⟩ next
  | failed (request : SettlementRequest) (problem : SettlementError) : request ≠ .clearCache →
      SettlementServe tables ⟨request, .error problem⟩ tables
  | unanswered (statement : SettlementWrite) (problem : SettlementError) (next : SettlementTables) :
      tables.apply statement = some next →
      SettlementServe tables ⟨.write statement, .error problem⟩ next

abbrev SettlementPool (ι : Type) : Type :=
  Pool SettlementRequest SettlementRequest.Response SettlementError Unit SettlementTables ι

/-- Calls that start on the tables, in any number. -/
def settlementPool {ι : Type} (tables : SettlementTables) (calls : ι → SettlementCall) :
    SettlementPool ι :=
  Pool.start tables fun i => (calls i).program

/-! ### What is kept -/

/-- A settled fill keeps its settlement. -/
def FillsKept (before after : SettlementTables) : Prop :=
  ∀ orderId clobTradeId fill, before.fill? orderId clobTradeId = some fill →
    fill.settlementStatus.Terminal → ∃ later, after.fill? orderId clobTradeId = some later ∧
      later.settlementStatus = fill.settlementStatus

/-- A row that was confirmed is confirmed, and no row lost filled size. -/
def RowKept (before after : OrderRow) : Prop :=
  before.filledSize ≤ after.filledSize ∧ (before.status = .confirmed → after.status = .confirmed)

/-- Every order is still stored, and kept. -/
def OrdersKept (before after : SettlementTables) : Prop :=
  ∀ orderId durable, before.orders.get? orderId = some durable →
    ∃ later, after.orders.get? orderId = some later ∧ RowKept durable.row.val later.row.val

/-- The merge of `payload` into the fill that was read cannot replace a settlement of
`stored` by another one. -/
def SettlementSeen (read : Option FillRow) (payload stored : FillRow) : Prop :=
  stored.settlementStatus.Terminal →
    (∃ fill ∈ read, fill.settlementStatus = stored.settlementStatus) ∨
      (∀ fill ∈ read, ¬ fill.settlementStatus.Terminal) ∧
        payload.settlementStatus = stored.settlementStatus

instance (read : Option FillRow) (payload stored : FillRow) :
    Decidable (SettlementSeen read payload stored) :=
  inferInstanceAs (Decidable (_ → _))

/-- Whoever writes a fill that is settled had read the settlement, or reports it. -/
def SeesFill (tables : SettlementTables) : SettlementRequest → Prop
  | .write (.upsertFill orderId read payload) =>
      ∀ stored ∈ tables.fill? orderId payload.clobTradeId, SettlementSeen read payload stored
  | _ => True

instance (tables : SettlementTables) (request : SettlementRequest) :
    Decidable (SeesFill tables request) := by
  unfold SeesFill
  split <;> infer_instance

/-- What was read, or is reported, shows the filled size of the stored row and that it
is confirmed. For a trade these are the fills of the order. -/
def OrderChange.Shows (change : OrderChange) (stored : OrderRow) : Prop :=
  match change with
  | event read update =>
      stored.filledSize ≤ max read.filledSize update.sizeMatched ∧
        (stored.status = .confirmed → read.status = .confirmed)
  | trade _ fills _ =>
      stored.filledSize ≤ reportedFilledSize fills ∧
        (stored.status = .confirmed → stored.originalSize ≤ reportedFilledSize fills ∧
          ∀ fill ∈ fills, fill.settlementStatus.Terminal)
  | execution read payload =>
      stored.filledSize ≤ max read.filledSize payload.filledSize ∧
        (stored.status = .confirmed → read.status = .confirmed)

instance (change : OrderChange) (stored : OrderRow) : Decidable (change.Shows stored) := by
  unfold OrderChange.Shows
  split <;> infer_instance

/-- Whoever writes an order has seen what the row shows. -/
def SeesOrder (tables : SettlementTables) : SettlementRequest → Prop
  | .write (.updateOrder orderId change) =>
      ∀ durable ∈ tables.orders.get? orderId, change.Shows durable.row.val
  | _ => True

instance (tables : SettlementTables) (request : SettlementRequest) :
    Decidable (SeesOrder tables request) := by
  unfold SeesOrder
  split <;> infer_instance

/-! ### One statement -/

section Statements

variable {tables next : SettlementTables} {orderId clobTradeId : String} {durable : DurableOrder}
  {read : Option FillRow} {payload stored : FillRow} {change : OrderChange} {row : OrderRow}
  {statement : SettlementWrite}

theorem FillsKept.refl (tables : SettlementTables) : FillsKept tables tables :=
  fun _ _ fill found _ => ⟨fill, found, rfl⟩

theorem FillsKept.trans {before mid after : SettlementTables} (first : FillsKept before mid)
    (second : FillsKept mid after) : FillsKept before after := by
  intro orderId clobTradeId fill found terminal
  obtain ⟨between, found', same⟩ := first orderId clobTradeId fill found terminal
  obtain ⟨later, found'', same'⟩ := second orderId clobTradeId between found' (by rwa [same])
  exact ⟨later, found'', same'.trans same⟩

theorem OrdersKept.refl (tables : SettlementTables) : OrdersKept tables tables :=
  fun _ durable found => ⟨durable, found, le_rfl, id⟩

theorem OrdersKept.trans {before mid after : SettlementTables} (first : OrdersKept before mid)
    (second : OrdersKept mid after) : OrdersKept before after := by
  intro orderId durable found
  obtain ⟨between, found', filled, confirmed⟩ := first orderId durable found
  obtain ⟨later, found'', filled', confirmed'⟩ := second orderId between found'
  exact ⟨later, found'', filled.trans filled', confirmed' ∘ confirmed⟩

@[simp] theorem SettlementTables.get?_setOrder (orderId other : String) (durable : DurableOrder) :
    (tables.setOrder orderId durable).orders.get? other =
      if other = orderId then some durable else tables.orders.get? other :=
  Dict.get?_set ..

/-- A merge keeps a settlement exactly when it has seen it. -/
theorem settlementSeen_iff (terminal : stored.settlementStatus.Terminal) :
    SettlementSeen read payload stored ↔
      (mergeFillPayload read payload).settlementStatus = stored.settlementStatus := by
  constructor
  · intro seen
    rcases seen terminal with ⟨fill, rfl, same⟩ | ⟨open', reports⟩
    · unfold mergeFillPayload SettlementStatus.merge
      dsimp only
      rw [same, if_pos terminal]
    · cases read with
      | none => exact reports
      | some fill =>
          unfold mergeFillPayload SettlementStatus.merge
          dsimp only
          rw [if_neg (open' fill rfl), reports, if_pos]
          rcases terminal with confirmed | failed
          · rw [confirmed]
            exact .inr (by cases fill.settlementStatus <;> decide)
          · exact .inl failed
  · intro merged _
    cases read with
    | none => exact .inr ⟨fun _ known => absurd known (Option.not_mem_none _), merged⟩
    | some fill =>
        unfold mergeFillPayload SettlementStatus.merge at merged
        dsimp only at merged
        split at merged
        · exact .inl ⟨fill, rfl, merged⟩
        · rename_i unsettled
          split at merged
          · refine .inr ⟨?_, merged⟩
            rintro other ⟨⟩
            exact unsettled
          · exact absurd (merged ▸ terminal) unsettled

theorem confirmed_eventStatus {update : UserOrderUpdate} (confirmed : row.status = .confirmed) :
    row.eventStatus update = .confirmed := by
  unfold OrderRow.eventStatus keptStatus
  rw [if_pos confirmed, confirmed]

/-! A change of the row that is still stored is what the calls write on their own. -/

theorem OrderChange.apply_event_read (read : OrderRow) (update : UserOrderUpdate) :
    (OrderChange.event read update).apply read = read.afterEvent update := by
  unfold apply OrderRow.afterEvent
  cases matched : read.matchedAt <;> cases cancelled : read.cancelledAt <;>
    simp [matched, cancelled]

theorem OrderChange.apply_trade_read (read : OrderRow) {fills : List FillRow}
    (update : UserTradeUpdate) {made : OrderFillPayload}
    (aggregates : aggregateOrderFillPayload read fills = .ok made) :
    (OrderChange.trade read fills update).apply read = DurableOrder.afterTrade update read made := by
  unfold apply
  simp only [aggregates]
  rfl

/-- What is written has the size of the row that was read. -/
theorem OrderChange.apply_originalSize (sized : change.read.originalSize = row.originalSize) :
    (change.apply row).originalSize = row.originalSize := by
  cases change with
  | event read update => rfl
  | trade read fills update =>
      unfold apply
      dsimp only
      split <;> rfl
  | execution read payload => exact sized

/-- A change that shows the stored row keeps it. -/
theorem OrderChange.apply_kept (checks : row.Checks)
    (sized : change.read.originalSize = row.originalSize) (shows : change.Shows row) :
    RowKept row (change.apply row) := by
  have within : row.filledSize ≤ change.read.originalSize := checks.filled_le.trans_eq sized.symm
  cases change with
  | event read update =>
      obtain ⟨filled, confirmed⟩ := shows
      exact ⟨le_min within filled, fun settled => confirmed_eventStatus (confirmed settled)⟩
  | trade read fills update =>
      obtain ⟨filled, confirmed⟩ := shows
      unfold apply
      dsimp only
      split
      · exact ⟨le_rfl, id⟩
      · rename_i payload made
        obtain ⟨-, rfl⟩ := aggregateOrderFillPayload_ok_iff.mp made
        refine ⟨le_min within filled, fun settled => ?_⟩
        obtain ⟨whole, final⟩ := confirmed settled
        have size : read.originalSize = row.originalSize := sized
        dsimp only
        rw [size, min_eq_left whole, sub_self, max_self]
        exact aggregateStatus_confirmed checks.original_pos le_rfl final
  | execution read payload =>
      obtain ⟨filled, confirmed⟩ := shows
      refine ⟨le_min within filled, fun settled => ?_⟩
      unfold apply mergeExecutionOrderPayload
      dsimp only
      rw [confirmed settled, transitionAllowed_confirmed]
      rfl

@[simp] theorem SettlementTables.fill?_setOrder (orderId other clobTradeId : String)
    (durable : DurableOrder) : (tables.setOrder orderId durable).fill? other clobTradeId =
      if other = orderId then durable.fills.get? clobTradeId else tables.fill? other clobTradeId := by
  unfold fill?
  rw [get?_setOrder]
  split <;> rfl

/-- The order that a statement leaves in the place of another. -/
def SettlementWrite.Replaces (statement : SettlementWrite) (durable later : DurableOrder) : Prop :=
  match statement with
  | upsertFill _ read payload =>
      later = { durable with
        fills := durable.fills.set payload.clobTradeId (mergeFillPayload read payload) }
  | updateOrder _ change => later.row.val = change.apply durable.row.val ∧ later.fills = durable.fills
  | _ => False

/-- The order that a statement writes to. -/
def SettlementWrite.target : SettlementWrite → Option String
  | upsertFill orderId _ _ => some orderId
  | updateOrder orderId _ => some orderId
  | _ => none

/-- What a statement does to an order that is stored. -/
theorem SettlementTables.apply_order (applied : tables.apply statement = some next)
    (found : tables.orders.get? orderId = some durable) :
    ∃ later, next.orders.get? orderId = some later ∧
      (later = durable ∨ statement.target = some orderId ∧ statement.Replaces durable later) := by
  cases statement with
  | upsertFill target read payload =>
      obtain ⟨written, here, rfl⟩ := Option.map_eq_some_iff.mp applied
      rw [get?_setOrder]
      split
      · rename_i same
        subst same
        obtain rfl : durable = written := Option.some.inj (found.symm.trans here)
        exact ⟨_, rfl, .inr ⟨rfl, rfl⟩⟩
      · exact ⟨durable, found, .inl rfl⟩
  | updateOrder target change =>
      unfold apply at applied
      dsimp only at applied
      split at applied
      · cases applied
        exact ⟨durable, found, .inl rfl⟩
      · rename_i written here
        split at applied
        · cases applied
        · rename_i row stored
          cases applied
          rw [get?_setOrder]
          split
          · rename_i same
            subst same
            obtain rfl : durable = written := Option.some.inj (found.symm.trans here)
            exact ⟨_, rfl, .inr ⟨rfl, OrderRow.store_ok_iff.mp stored, rfl⟩⟩
          · exact ⟨durable, found, .inl rfl⟩
  | insertOrder target payload =>
      unfold apply at applied
      dsimp only at applied
      split at applied
      · cases applied
      · rename_i fresh
        split at applied
        · cases applied
        · cases applied
          rw [get?_setOrder, if_neg]
          · exact ⟨durable, found, .inl rfl⟩
          · rintro rfl
            rw [found] at fresh
            cases fresh
  | updateIntent intentHash status =>
      unfold apply at applied
      dsimp only at applied
      split at applied
      · cases applied
        exact ⟨durable, found, .inl rfl⟩
      · cases applied
        exact ⟨durable, found, .inl rfl⟩

/-- A statement that has seen the fill keeps the settled fills. -/
theorem fillsKept_apply (applied : tables.apply statement = some next)
    (sees : SeesFill tables (.write statement)) : FillsKept tables next := by
  intro orderId clobTradeId fill found terminal
  obtain ⟨durable, here, stored⟩ := Option.bind_eq_some_iff.mp found
  obtain ⟨later, here', unchanged | ⟨target, replaces⟩⟩ := SettlementTables.apply_order applied here
  · refine ⟨fill, ?_, rfl⟩
    unfold SettlementTables.fill?
    rw [here', unchanged]
    exact stored
  · have lookup : next.fill? orderId clobTradeId = later.fills.get? clobTradeId := by
      unfold SettlementTables.fill?
      rw [here']
      rfl
    cases statement with
    | upsertFill _ read payload =>
        cases target
        rw [lookup, show later = _ from replaces, Dict.get?_set]
        split
        · rename_i same
          subst same
          exact ⟨_, rfl, (settlementSeen_iff terminal).mp (sees fill found)⟩
        · exact ⟨fill, stored, rfl⟩
    | updateOrder _ change =>
        rw [lookup, replaces.2]
        exact ⟨fill, stored, rfl⟩
    | insertOrder _ payload => cases target
    | updateIntent intentHash status => cases target

/-- The order is stored with the size of the row. -/
def Sized (tables : SettlementTables) (orderId : String) (row : OrderRow) : Prop :=
  ∃ durable, tables.orders.get? orderId = some durable ∧
    durable.row.val.originalSize = row.originalSize

/-- The row that an update was merged into has the size of the order. -/
def ReadSized (tables : SettlementTables) (statement : SettlementWrite) : Prop :=
  ∀ orderId change, statement = .updateOrder orderId change → Sized tables orderId change.read

/-- The row of an order after a statement has its size, and is kept if it was seen. -/
theorem SettlementTables.apply_row (applied : tables.apply statement = some next)
    (sized : ReadSized tables statement) (found : tables.orders.get? orderId = some durable) :
    ∃ later, next.orders.get? orderId = some later ∧
      later.row.val.originalSize = durable.row.val.originalSize ∧
      (SeesOrder tables (.write statement) → RowKept durable.row.val later.row.val) := by
  obtain ⟨later, here, rfl | ⟨target, replaces⟩⟩ := apply_order applied found
  · exact ⟨later, here, rfl, fun _ => ⟨le_rfl, id⟩⟩
  · refine ⟨later, here, ?_⟩
    cases statement with
    | upsertFill _ read payload =>
        rw [show later = _ from replaces]
        exact ⟨rfl, fun _ => ⟨le_rfl, id⟩⟩
    | updateOrder _ change =>
        cases target
        obtain ⟨stored, here', same⟩ := sized orderId change rfl
        obtain rfl : durable = stored := Option.some.inj (found.symm.trans here')
        rw [replaces.1]
        exact ⟨change.apply_originalSize same.symm, fun sees =>
          change.apply_kept durable.row.property same.symm (sees durable found)⟩
    | insertOrder _ payload => cases target
    | updateIntent intentHash status => cases target

end Statements

/-! ### What a call has read -/

/-- The event shows the row of an order. -/
def ReadsOrder (event : SettlementEvent) (orderId : String) (row : OrderRow) : Prop :=
  (∃ clobOrderIds, event = ⟨.selectOrder clobOrderIds, .ok (some (orderId, row))⟩) ∨
    event = ⟨.selectOrderByClient orderId, .ok (some row)⟩

/-- An order is updated after it was read. -/
def ReadFirst (log : List SettlementEvent) (event : SettlementEvent) : Prop :=
  ∀ orderId change, event.request = .write (.updateOrder orderId change) →
    ∃ earlier ∈ log, ReadsOrder earlier orderId change.read

section Calls

variable {log : List SettlementEvent} {orderId : String} {row : OrderRow}

/-- A request that updates no order. -/
theorem ReadFirst.of_other {event : SettlementEvent}
    (other : ∀ orderId change, event.request ≠ .write (.updateOrder orderId change)) :
    ReadFirst log event :=
  fun orderId change asked => absurd asked (other orderId change)

theorem compute_obeys {α : Type} (computed : Except ReconcileError α) :
    (compute computed).Obeys ReadFirst log fun _ later => later = log :=
  .lift fun _ _ => rfl

theorem ask_other {request : SettlementRequest}
    {Post : request.Response → List SettlementEvent → Prop}
    (other : ∀ orderId change, request ≠ .write (.updateOrder orderId change))
    (answered : ∀ response, Post response (log ++ [⟨request, .ok response⟩])) :
    (askSettlement request).Obeys ReadFirst log Post :=
  .ask (fun _ => .of_other other) answered

/-- A request that updates no order keeps what was read. -/
theorem ask_obeys {request : SettlementRequest} {earlier : SettlementEvent}
    (other : ∀ orderId change, request ≠ .write (.updateOrder orderId change))
    (read : earlier ∈ log) :
    (askSettlement request).Obeys ReadFirst log fun _ later => earlier ∈ later :=
  ask_other other fun _ => List.mem_append_left _ read

theorem reconcileOrder_obeys (update : UserOrderUpdate) :
    (reconcileOrder update).Obeys ReadFirst log fun _ _ => True := by
  refine .bind (M := fun found log => ∀ orderId row, found = some (orderId, row) →
      ∃ earlier ∈ log, ReadsOrder earlier orderId row) (ask_other (fun _ _ => nofun) ?_) ?_
  · rintro found orderId row rfl
    exact ⟨_, List.mem_append_right _ List.mem_cons_self, .inl ⟨_, rfl⟩⟩
  · intro found log read
    cases found with
    | none => exact ask_other (fun _ _ => nofun) fun _ => trivial
    | some found =>
        obtain ⟨orderId, row⟩ := found
        refine .bind (compute_obeys _) ?_
        rintro - later rfl
        refine .ask (fun _ => ?_) fun _ => trivial
        rintro _ _ asked
        cases asked
        exact read orderId row rfl

theorem awaitMarketId_obeys {earlier : SettlementEvent} (conditionId : String)
    (read : earlier ∈ log) :
    (awaitMarketId conditionId).Obeys ReadFirst log fun _ later => earlier ∈ later := by
  refine .bind (ask_obeys (fun _ _ => nofun) read) fun found later read => ?_
  cases found with
  | none => trivial
  | some marketId => exact read

theorem reconcileTradeOf_obeys {earlier : SettlementEvent} (update : UserTradeUpdate)
    (read : earlier ∈ log) (reads : ReadsOrder earlier orderId row) :
    (reconcileTradeOf orderId row update).Obeys ReadFirst log fun _ _ => True := by
  refine .bind (compute_obeys _) ?_
  rintro - log rfl
  refine .bind (awaitMarketId_obeys _ read) fun marketId log read => ?_
  refine .bind (ask_obeys (fun _ _ => nofun) read) fun existing log read => ?_
  refine .bind (compute_obeys _) ?_
  rintro liquidityRole log rfl
  refine .bind (ask_obeys (fun _ _ => nofun) read) fun _ log read => ?_
  refine .bind (ask_obeys (fun _ _ => nofun) read) fun _ log read => ?_
  refine .bind (ask_obeys (fun _ _ => nofun) read) fun fills log read => ?_
  refine .bind (compute_obeys _) ?_
  rintro - log rfl
  refine .ask (fun _ => ?_) fun _ => trivial
  rintro _ _ asked
  cases asked
  exact ⟨earlier, read, reads⟩

theorem reconcileTrade_obeys (update : UserTradeUpdate) :
    (reconcileTrade update).Obeys ReadFirst log fun _ _ => True := by
  refine .bind (M := fun found log => ∀ orderId row, found = some (orderId, row) →
      ∃ earlier ∈ log, ReadsOrder earlier orderId row) (ask_other (fun _ _ => nofun) ?_) ?_
  · rintro found orderId row rfl
    exact ⟨_, List.mem_append_right _ List.mem_cons_self, .inl ⟨_, rfl⟩⟩
  · intro found log read
    cases found with
    | none =>
        exact .bind (M := fun _ _ => True) (ask_other (fun _ _ => nofun) fun _ => trivial)
          fun _ _ _ => trivial
    | some found =>
        obtain ⟨earlier, logged, reads⟩ := read found.1 found.2 rfl
        exact reconcileTradeOf_obeys update logged reads

theorem awaitIntent_obeys (cached : Option IntentRow) (intentHash : String) :
    (awaitIntent cached intentHash).Obeys ReadFirst log fun _ _ => True := by
  cases cached with
  | some intent => trivial
  | none =>
      refine .bind (M := fun _ _ => True) (ask_other (fun _ _ => nofun) fun _ => trivial)
        fun found log _ => ?_
      cases found <;> trivial

theorem saveExecutionOrder_obeys (intent : IntentRow) (result : ExecutionReport) :
    (saveExecutionOrder intent result).Obeys ReadFirst log fun _ _ => True := by
  refine .bind (M := fun existing log => ∀ row, existing = some row →
      ∃ earlier ∈ log, ReadsOrder earlier result.intentHash row) (ask_other (fun _ _ => nofun) ?_) ?_
  · rintro existing row rfl
    exact ⟨_, List.mem_append_right _ List.mem_cons_self, .inr rfl⟩
  · intro existing log read
    cases existing with
    | none =>
        exact .bind (M := fun _ _ => True) (ask_other (fun _ _ => nofun) fun _ => trivial)
          fun _ _ _ => trivial
    | some row =>
        refine .bind (M := fun _ _ => True) (.ask (fun _ => ?_) fun _ => trivial) fun _ _ _ => trivial
        rintro _ _ asked
        cases asked
        exact read row rfl

theorem saveExecution_obeys (cached : Option IntentRow) (result : ExecutionReport) :
    (saveExecution cached result).Obeys ReadFirst log fun _ _ => True := by
  refine .bind (awaitIntent_obeys cached _) fun intent log _ => ?_
  refine .bind (saveExecutionOrder_obeys intent result) fun updateIntentStatus log _ => ?_
  cases updateIntentStatus with
  | true => exact ask_other (fun _ _ => nofun) fun _ => trivial
  | false => trivial

theorem SettlementCall.program_obeys (call : SettlementCall) :
    call.program.Obeys ReadFirst log fun _ _ => True := by
  cases call with
  | trade update => exact reconcileTrade_obeys update
  | order update => exact reconcileOrder_obeys update
  | execution cached result => exact saveExecution_obeys cached result

end Calls

/-! ### Runs -/

/-- A step of the calls. -/
abbrev SettlementStep {ι : Type} [DecidableEq ι] :
    SettlementPool ι → ι × SettlementEvent → SettlementPool ι → Prop :=
  Pool.Step SettlementServe

section Runs

variable {ι : Type} [DecidableEq ι] {start : SettlementTables} {calls : ι → SettlementCall}
  {pool p q : SettlementPool ι} {labels front back : List (ι × SettlementEvent)}

/-- An event leaves the tables as they are, or applies its statement. -/
theorem SettlementServe.applied {tables next : SettlementTables} {event : SettlementEvent}
    (served : SettlementServe tables event next) :
    next = tables ∨ ∃ statement, event.request = .write statement ∧
      tables.apply statement = some next := by
  cases served with
  | written statement next applied => exact .inr ⟨statement, rfl, applied⟩
  | unanswered statement problem next applied => exact .inr ⟨statement, rfl, applied⟩
  | _ => exact .inl rfl

/-- What an event shows is stored. -/
theorem SettlementServe.sized {tables next : SettlementTables} {event : SettlementEvent}
    {orderId : String} {row : OrderRow} (served : SettlementServe tables event next)
    (reads : ReadsOrder event orderId row) : Sized next orderId row := by
  rcases reads with ⟨clobOrderIds, rfl⟩ | rfl
  · cases served with
    | found _ _ durable here named => exact ⟨durable, here, rfl⟩
  · generalize shown : some row = answer at served
    cases served with
    | client =>
        obtain ⟨durable, here, rfl⟩ := Option.map_eq_some_iff.mp shown.symm
        exact ⟨durable, here, rfl⟩

/-- The calls read an order before they update it, and what they have read has the size
of its order. -/
structure Informed (pool : SettlementPool ι) : Prop where
  obeys : ∀ i, (pool.program i).Obeys ReadFirst (pool.log i) fun _ _ => True
  sized : ∀ i, ∀ event ∈ pool.log i, ∀ orderId row, ReadsOrder event orderId row →
    Sized pool.shared orderId row

omit [DecidableEq ι] in
theorem informed_start (start : SettlementTables) (calls : ι → SettlementCall) :
    Informed (settlementPool start calls) :=
  ⟨fun i => (calls i).program_obeys, fun _ _ logged => absurd logged List.not_mem_nil⟩

theorem Informed.step {label : ι × SettlementEvent} (informed : Informed p)
    (step : SettlementStep p label q) : Informed q ∧
      ∀ statement, label.2.request = .write statement → ReadSized p.shared statement := by
  obtain ⟨obeys, steps⟩ := Pool.run_obeys (G := fun _ => ReadFirst) informed.obeys (.single step)
  obtain ⟨-, ⟨-, first⟩, -⟩ := Run.cons_iff.mp steps
  have read : ∀ statement, label.2.request = .write statement → ReadSized p.shared statement := by
    rintro _ asked orderId change rfl
    obtain ⟨earlier, logged, reads⟩ := first orderId change asked
    exact informed.sized label.1 earlier logged orderId _ reads
  have kept : ∀ orderId row, Sized p.shared orderId row → Sized q.shared orderId row := by
    rintro orderId row ⟨durable, found, size⟩
    rcases step.serves.applied with same | ⟨statement, asked, applied⟩
    · rw [same]
      exact ⟨durable, found, size⟩
    · obtain ⟨later, here, same, -⟩ := SettlementTables.apply_row applied (read statement asked) found
      exact ⟨later, here, same.trans size⟩
  refine ⟨⟨obeys, fun i event logged orderId row reads => ?_⟩, read⟩
  have mine : event ∈ p.log i ∨ event = label.2 := by
    rw [Pool.log_of_run (.single step) i] at logged
    rcases List.mem_append.mp logged with earlier | now
    · exact .inl earlier
    · obtain ⟨-, rfl⟩ := Prod.mk.inj (List.mem_singleton.mp (Pool.mem_own.mp now)).symm
      exact .inr rfl
  rcases mine with earlier | rfl
  · exact kept orderId row (informed.sized i event earlier orderId row reads)
  · exact step.serves.sized reads

/-- Calls that see the settled fills keep them. -/
theorem fillsKept_of_run (run : Run (fun p label q => SettlementStep p label q ∧
    SeesFill p.shared label.2.request) p labels q) : FillsKept p.shared q.shared := by
  induction run with
  | refl => exact .refl _
  | cons first _ ih =>
      refine .trans ?_ ih
      rcases first.1.serves.applied with same | ⟨statement, asked, applied⟩
      · rw [same]
        exact .refl _
      · exact fillsKept_apply applied (asked ▸ first.2)

/-- Calls that see the orders keep them. -/
theorem ordersKept_of_run (informed : Informed p) (run : Run (fun p label q =>
    SettlementStep p label q ∧ SeesOrder p.shared label.2.request) p labels q) :
    OrdersKept p.shared q.shared := by
  induction run with
  | refl => exact .refl _
  | cons first _ ih =>
      obtain ⟨informed', read⟩ := informed.step first.1
      refine .trans ?_ (ih informed')
      rcases first.1.serves.applied with same | ⟨statement, asked, applied⟩
      · rw [same]
        exact .refl _
      · intro orderId durable found
        obtain ⟨later, here, -, kept⟩ := SettlementTables.apply_row applied (read statement asked) found
        exact ⟨later, here, kept (asked ▸ first.2)⟩

/-- From every state that calls reach: a run whose writes see the settled fills keeps
them, and a run whose writes see the orders keeps the orders. -/
theorem settlements_kept (reached : Run SettlementStep (settlementPool start calls) front p) :
    (Run (fun p label q => SettlementStep p label q ∧ SeesFill p.shared label.2.request) p back q →
      FillsKept p.shared q.shared) ∧
    (Run (fun p label q => SettlementStep p label q ∧ SeesOrder p.shared label.2.request) p back q →
      OrdersKept p.shared q.shared) := by
  have informed : Informed p := reached.invariant (fun _ _ _ informed step => (informed.step step).1)
    (informed_start start calls)
  exact ⟨fillsKept_of_run, ordersKept_of_run informed⟩

end Runs

/-! ### Two calls for one fill -/

/-- Tables that answer at once. -/
def answerSettlement (tables : SettlementTables) :
    (request : SettlementRequest) → Except SettlementError request.Response × SettlementTables
  | .selectOrder clobOrderIds =>
      (.ok ((tables.orders.entries.find? fun entry =>
        decide (∃ clobOrderId ∈ clobOrderIds, entry.2.row.val.clobOrderId = some clobOrderId)).map
          fun entry => (entry.1, entry.2.row.val)), tables)
  | .selectOrderByClient clientOrderId =>
      (.ok ((tables.orders.get? clientOrderId).map fun durable => durable.row.val), tables)
  | .selectIntent intentHash => (.ok (tables.intents.get? intentHash), tables)
  | .selectMarket _ => (.ok (some "market"), tables)
  | .selectFill orderId clobTradeId => (.ok (tables.fill? orderId clobTradeId), tables)
  | .selectFills orderId =>
      (.ok ((tables.orders.get? orderId).elim [] fun durable => durable.fills.values), tables)
  | .audit _ => (.ok (), tables)
  | .clearCache => (.ok (), tables)
  | .write statement =>
      match tables.apply statement with
      | some next => (.ok (), next)
      | none => (.error (.raised .checkViolation), tables)

theorem answerSettlement_serves (tables : SettlementTables) (request : SettlementRequest) :
    SettlementServe tables ⟨request, (answerSettlement tables request).1⟩
      (answerSettlement tables request).2 := by
  cases request with
  | selectOrder clobOrderIds =>
      unfold answerSettlement
      dsimp only
      cases known : tables.orders.entries.find? fun entry =>
          decide (∃ clobOrderId ∈ clobOrderIds, entry.2.row.val.clobOrderId = some clobOrderId) with
      | none =>
          refine .missing clobOrderIds fun orderId durable here clobOrderId named same => ?_
          have entry := Dict.get?_eq_some_iff.mp here
          refine absurd (decide_eq_true (⟨clobOrderId, named, same⟩ : ∃ clobOrderId ∈ clobOrderIds,
            durable.row.val.clobOrderId = some clobOrderId)) ?_
          exact List.find?_eq_none.mp known _ entry
      | some entry =>
          have named := List.find?_some known
          refine .found clobOrderIds entry.1 entry.2 ?_ (of_decide_eq_true named)
          exact Dict.get?_eq_some_iff.mpr (List.mem_of_find?_eq_some known)
  | selectOrderByClient clientOrderId => exact .client clientOrderId
  | selectIntent intentHash => exact .intent intentHash
  | selectMarket conditionId => exact .market conditionId _
  | selectFill orderId clobTradeId => exact .fill orderId clobTradeId
  | selectFills orderId => exact .fills orderId _ (.refl _)
  | audit action => exact .audited action
  | clearCache => exact .cleared
  | write statement =>
      unfold answerSettlement
      dsimp only
      cases applied : tables.apply statement with
      | none => exact .failed _ _ nofun
      | some next => exact .written statement next applied

/-- One order of ten shares, without fills. -/
def submittedTables : SettlementTables :=
  ⟨.empty, Dict.empty.set "intent" submittedOrder⟩

/-- The REST pass and the user stream each deliver the one trade of the order: as it was
matched, and as it was confirmed. -/
def deliveries : Bool → SettlementCall
  | false => .trade (orderTrade "first" 10 Literal.ten_pos "MATCHED")
  | true => .trade (orderTrade "first" 10 Literal.ten_pos "CONFIRMED")

/-- The settlement of the fill, and what the order shows. -/
def SettlementTables.shown (tables : SettlementTables) :
    Option SettlementStatus × Option (OrderStatus × ℚ) :=
  ((tables.fill? "intent" "first").map fun fill => fill.settlementStatus,
    (tables.orders.get? "intent").map fun durable =>
      (durable.row.val.status, durable.row.val.filledSize))

theorem replay_settlement {pool : SettlementPool Bool} {schedule : List Bool}
    {result : List (Bool × SettlementEvent) × SettlementPool Bool}
    (replayed : Pool.replay (fun _ => answerSettlement) schedule pool = some result) :
    Run SettlementStep pool result.1 result.2 :=
  Pool.replay_run (fun _ => answerSettlement_serves) replayed

/-- One delivery after the other keeps the confirmation. -/
theorem deliveries_in_turn_keep :
    ∃ front p back q, Run SettlementStep (settlementPool submittedTables deliveries) front p ∧
      Run SettlementStep p back q ∧ p.shared.shown = (some .confirmed, some (.confirmed, 10)) ∧
      FillsKept p.shared q.shared ∧ OrdersKept p.shared q.shared := by
  have replayed : ((Pool.replay (fun _ => answerSettlement) (List.replicate 7 true)
      (settlementPool submittedTables deliveries)).bind fun first =>
        (Pool.replayWhere (fun p label _ => decide (SeesFill p.shared label.2.request ∧
            SeesOrder p.shared label.2.request)) (fun _ => answerSettlement) (List.replicate 7 false)
          first.2).map fun _ => first.2.shared.shown) =
        some (some .confirmed, some (.confirmed, 10)) := by
    decide +kernel
  obtain ⟨first, front, second⟩ := Option.bind_eq_some_iff.mp replayed
  obtain ⟨last, back, shown⟩ := Option.map_eq_some_iff.mp second
  have seen := Pool.replayWhere_run (fun _ => answerSettlement_serves) back
  refine ⟨first.1, first.2, last.1, last.2, replay_settlement front, ?_, shown, ?_, ?_⟩
  · exact seen.mono fun _ _ _ step => step.1
  · exact (settlements_kept (replay_settlement front)).1 (seen.mono fun _ _ _ step => ⟨step.1, (of_decide_eq_true step.2).1⟩)
  · exact (settlements_kept (replay_settlement front)).2 (seen.mono fun _ _ _ step => ⟨step.1, (of_decide_eq_true step.2).2⟩)

/-- The matched delivery has read that no fill is stored, and writes after the confirmed
one has ended: the fill and the order go back from confirmed to matched. -/
theorem late_delivery_loses_settlement :
    ∃ front p back q, Run SettlementStep (settlementPool submittedTables deliveries) front p ∧
      Run SettlementStep p back q ∧ p.shared.shown = (some .confirmed, some (.confirmed, 10)) ∧
      q.shared.shown = (some .matched, some (.matched, 10)) ∧
      ¬ FillsKept p.shared q.shared ∧ ¬ OrdersKept p.shared q.shared := by
  have replayed : ((Pool.replay (fun _ => answerSettlement)
      (List.replicate 3 false ++ List.replicate 7 true)
      (settlementPool submittedTables deliveries)).bind fun first =>
        (Pool.replay (fun _ => answerSettlement) (List.replicate 4 false) first.2).map fun last =>
          (first.2.shared.shown, last.2.shared.shown)) =
        some ((some .confirmed, some (.confirmed, 10)), some .matched, some (.matched, 10)) := by
    decide +kernel
  obtain ⟨first, front, second⟩ := Option.bind_eq_some_iff.mp replayed
  obtain ⟨last, back, shown⟩ := Option.map_eq_some_iff.mp second
  obtain ⟨before, after⟩ := Prod.mk.inj shown
  refine ⟨first.1, first.2, last.1, last.2, replay_settlement front, replay_settlement back, before,
    after, fun kept => ?_, fun kept => ?_⟩
  · obtain ⟨fill, found, confirmed⟩ := Option.map_eq_some_iff.mp (Prod.mk.inj before).1
    obtain ⟨later, found', matched⟩ := Option.map_eq_some_iff.mp (Prod.mk.inj after).1
    obtain ⟨stored, here, same⟩ := kept "intent" "first" fill found (.inl confirmed)
    obtain rfl : later = stored := Option.some.inj (found'.symm.trans here)
    rw [matched, confirmed] at same
    cases same
  · obtain ⟨durable, found, confirmed⟩ := Option.map_eq_some_iff.mp (Prod.mk.inj before).2
    obtain ⟨later, found', matched⟩ := Option.map_eq_some_iff.mp (Prod.mk.inj after).2
    obtain ⟨stored, here, -, same⟩ := kept "intent" durable found
    obtain rfl : later = stored := Option.some.inj (found'.symm.trans here)
    have status := same (Prod.mk.inj confirmed).1
    rw [(Prod.mk.inj matched).1] at status
    cases status

end Polybot
