import Polybot.Collections.Checked
import Polybot.Trading.Fees

/-!
The order and fill write path (`stores/payloads.py`).

The columns of the `orders` and `fills` rows with their check constraints, and the
pure functions that merge an execution, a trade or the fills of an order into them.
A stored row is a row that passes the checks of its table, so no update can leave
sizes or prices out of range.
-/

namespace Polybot

open Checked

/-- What the stores raise. -/
inductive ReconcileError where
  | incompleteFillLedger (message : String)
  | runtimeError (message : String)
  | checkViolation
  deriving DecidableEq, Repr

/-- A JSON object; its values are texts. -/
abbrev JsonObject := Dict String String

/-- `{**front, **back}`. -/
def JsonObject.merge (front back : JsonObject) : JsonObject :=
  back.entries.foldl (fun merged entry => merged.set entry.1 entry.2) front

/-- `text or other`, where both may be absent. -/
def eitherText (text other : Option String) : Option String :=
  if truthy text then text else other

/-! ### Statuses -/

inductive OrderStatus where
  | created
  | signed
  | submitting
  | submitted
  | live
  | partiallyFilled
  | matched
  | mined
  | confirmed
  | simulated
  | cancelPending
  | cancelled
  | expired
  | rejected
  | failed
  | unknown
  deriving DecidableEq, Repr

inductive SettlementStatus where
  | matched
  | mined
  | confirmed
  | retrying
  | failed
  deriving DecidableEq, Repr

namespace OrderStatus

/-- `_ORDER_SETTLEMENT_RANK.get(status, 0)`. -/
def settlementRank : OrderStatus → Nat
  | matched => 1
  | mined => 2
  | confirmed => 3
  | _ => 0

/-- The keys of `_ORDER_SETTLEMENT_RANK`. -/
def settlementStatuses : List OrderStatus :=
  [matched, mined, confirmed]

/-- `_ORDER_TERMINAL_STATUSES`. -/
def terminalStatuses : List OrderStatus :=
  [confirmed, simulated, cancelled, expired, rejected, failed]

/-- `early`. -/
def earlyStatuses : List OrderStatus :=
  [created, signed, submitting, submitted, unknown]

/-- `transition_allowed`. -/
def transitionAllowed (current incoming : OrderStatus) : Bool :=
  match incoming with
  | unknown => current ∈ [created, signed, submitting, unknown]
  | cancelled => current ∉ terminalStatuses ++ settlementStatuses
  | simulated => current ∈ [created, submitted, simulated]
  | _ => current ∈ earlyStatuses

end OrderStatus

/-- `_FILL_STATUS_RANK`. -/
def SettlementStatus.rank : SettlementStatus → Nat
  | matched => 0
  | retrying => 1
  | mined => 2
  | confirmed => 3
  | failed => 3

/-- No later event changes the settlement. -/
def SettlementStatus.Terminal (status : SettlementStatus) : Prop :=
  status = confirmed ∨ status = failed

instance (status : SettlementStatus) : Decidable status.Terminal :=
  inferInstanceAs (Decidable (_ ∨ _))

/-! ### Rows -/

/-- The columns that an execution writes. -/
structure ExecutionColumns where
  clobOrderId : Option String
  environment : TradingMode
  outcomeTokenId : String
  side : Side
  orderType : String
  expiresAt : Option Instant
  limitPrice : ℚ
  originalSize : ℚ
  filledSize : ℚ
  remainingSize : ℚ
  averageFillPrice : Option ℚ
  status : OrderStatus
  attemptCount : Nat
  lastErrorDetail : Option String
  responsePayload : JsonObject
  submittedAt : Option Instant
  deriving DecidableEq

/-- A row of `orders`. -/
structure OrderRow extends ExecutionColumns where
  feePaidPusd : ℚ
  matchedAt : Option Instant
  minedAt : Option Instant
  confirmedAt : Option Instant
  cancelledAt : Option Instant
  openSnapshotMissCount : Nat
  openSnapshotMissingSince : Option Instant
  deriving DecidableEq

/-- The check constraints of `orders`. -/
structure OrderRow.Checks (row : OrderRow) : Prop where
  original_pos : 0 < row.originalSize
  filled_nonneg : 0 ≤ row.filledSize
  remaining_nonneg : 0 ≤ row.remainingSize
  filled_le : row.filledSize ≤ row.originalSize
  remaining_le : row.remainingSize ≤ row.originalSize
  average_range : ∀ average ∈ row.averageFillPrice, 0 ≤ average ∧ average ≤ 1
  fee_nonneg : 0 ≤ row.feePaidPusd
  price_range : 0 < row.limitPrice ∧ row.limitPrice < 1
  type_allowed : row.orderType ∈ ["GTC", "GTD", "FOK", "FAK"]
  gtd_has_expiry : row.orderType = "GTD" → row.expiresAt ≠ none

theorem OrderRow.checks_iff (row : OrderRow) : row.Checks ↔
    0 < row.originalSize ∧ 0 ≤ row.filledSize ∧ 0 ≤ row.remainingSize ∧
      row.filledSize ≤ row.originalSize ∧ row.remainingSize ≤ row.originalSize ∧
      (∀ average ∈ row.averageFillPrice, 0 ≤ average ∧ average ≤ 1) ∧ 0 ≤ row.feePaidPusd ∧
      (0 < row.limitPrice ∧ row.limitPrice < 1) ∧ row.orderType ∈ ["GTC", "GTD", "FOK", "FAK"] ∧
      (row.orderType = "GTD" → row.expiresAt ≠ none) :=
  ⟨fun ⟨a, b, c, d, e, f, g, h, i, j⟩ => ⟨a, b, c, d, e, f, g, h, i, j⟩,
    fun ⟨a, b, c, d, e, f, g, h, i, j⟩ => ⟨a, b, c, d, e, f, g, h, i, j⟩⟩

instance (row : OrderRow) : Decidable row.Checks :=
  decidable_of_iff' _ row.checks_iff

/-- A durable row of `orders`. -/
abbrev StoredOrder := {row : OrderRow // row.Checks}

/-- The database stores the row, or refuses it. -/
def OrderRow.store (row : OrderRow) : Except ReconcileError StoredOrder :=
  if checks : row.Checks then .ok ⟨row, checks⟩ else .error .checkViolation

theorem OrderRow.store_ok_iff {row : OrderRow} {stored : StoredOrder} :
    row.store = .ok stored ↔ stored.val = row := by
  unfold store
  split
  · rename_i checks
    simp [Subtype.ext_iff, eq_comm]
  · rename_i refused
    simp only [reduceCtorEq, false_iff]
    rintro rfl
    exact refused stored.property

/-- A row of `fills`. -/
@[ext]
structure FillRow where
  marketId : String
  clobTradeId : String
  outcomeTokenId : String
  side : Side
  liquidityRole : Option LiquidityRole
  price : ℚ
  size : ℚ
  feePusd : ℚ
  settlementStatus : SettlementStatus
  transactionHash : Option String
  matchedAt : Instant
  minedAt : Option Instant
  confirmedAt : Option Instant
  rawPayload : String
  price_pos : 0 < price
  price_lt_one : price < 1
  size_pos : 0 < size
  fee_nonneg : 0 ≤ feePusd

instance : DecidableEq FillRow := fun _ _ =>
  decidable_of_iff _ FillRow.ext_iff.symm

/-! ### Executions -/

/-- `_merge_execution_order_payload`. -/
def mergeExecutionOrderPayload (existing incoming : ExecutionColumns) : ExecutionColumns :=
  let allowed := existing.status.transitionAllowed incoming.status
  let filledSize := min existing.originalSize (max existing.filledSize incoming.filledSize)
  -- A signed GTD order keeps its type and expiry, whatever a later save says.
  let signedGtd := Text.upper existing.orderType = "GTD"
  let becomesGtd := Text.upper incoming.orderType = "GTD"
  { incoming with
    status := if allowed then incoming.status else existing.status
    originalSize := existing.originalSize
    filledSize := filledSize
    remainingSize := max 0 (existing.originalSize - filledSize)
    averageFillPrice :=
      if incoming.filledSize < existing.filledSize ∧ existing.averageFillPrice ≠ none then
        existing.averageFillPrice
      else incoming.averageFillPrice
    clobOrderId := eitherText existing.clobOrderId incoming.clobOrderId
    attemptCount := max existing.attemptCount incoming.attemptCount
    submittedAt := existing.submittedAt <|> incoming.submittedAt
    orderType :=
      if signedGtd ∨ becomesGtd then "GTD"
      else if existing.orderType ≠ "" then existing.orderType
      else incoming.orderType
    expiresAt :=
      if signedGtd ∨ ¬ becomesGtd then existing.expiresAt <|> incoming.expiresAt
      else incoming.expiresAt <|> existing.expiresAt
    responsePayload := existing.responsePayload.merge incoming.responsePayload
    lastErrorDetail := if allowed then incoming.lastErrorDetail else existing.lastErrorDetail }

/-! ### Fills -/

/-- The status of a fill after `incoming` was merged into `current`. -/
def SettlementStatus.merge (current incoming : SettlementStatus) : SettlementStatus :=
  if current.Terminal then current
  else if incoming = failed ∨ current.rank ≤ incoming.rank then incoming
  else current

/-- `_merge_fill_payload`. -/
def mergeFillPayload (existing : Option FillRow) (incoming : FillRow) : FillRow :=
  match existing with
  | none => incoming
  | some existing =>
      { incoming with
        settlementStatus := existing.settlementStatus.merge incoming.settlementStatus
        transactionHash := eitherText incoming.transactionHash existing.transactionHash
        minedAt := existing.minedAt <|> incoming.minedAt
        confirmedAt := existing.confirmedAt <|> incoming.confirmedAt }

/-- The fills that count. -/
def successful (fills : List FillRow) : List FillRow :=
  fills.filter fun fill => fill.settlementStatus ≠ .failed

/-- `reported_filled_size`. -/
def reportedFilledSize (fills : List FillRow) : ℚ :=
  ((successful fills).map FillRow.size).sum

/-- The columns that the fills of an order write. -/
structure OrderFillPayload where
  filledSize : ℚ
  remainingSize : ℚ
  feePaidPusd : ℚ
  averageFillPrice : Option ℚ
  status : OrderStatus
  deriving DecidableEq

/-- The status that the fills give an order. -/
def aggregateStatus (current : OrderStatus) (filledSize remainingSize : ℚ)
    (fills : List FillRow) : OrderStatus :=
  if filledSize ≤ 0 then
    if fills ≠ [] ∧ ∀ fill ∈ fills, fill.settlementStatus = .failed then .failed else current
  else if 0 < remainingSize then
    if current = .cancelled ∨ current = .expired then current else .partiallyFilled
  else if ∃ fill ∈ successful fills,
      fill.settlementStatus = .matched ∨ fill.settlementStatus = .retrying then .matched
  else if ∃ fill ∈ successful fills, fill.settlementStatus = .mined then .mined
  else .confirmed

/-- `_aggregate_order_fill_payload`. An average of `none` leaves the column as it is. -/
def aggregateOrderFillPayload (order : OrderRow) (fills : List FillRow) :
    Except ReconcileError OrderFillPayload := do
  let reported := reportedFilledSize fills
  let _ ← require (reported - order.originalSize ≤ 1 / 1000000)
    (.incompleteFillLedger "durable fills exceed the order's original size")
  let filledSize := min order.originalSize reported
  let remainingSize := max 0 (order.originalSize - filledSize)
  pure
    { filledSize := filledSize
      remainingSize := remainingSize
      feePaidPusd := ((successful fills).map FillRow.feePusd).sum
      averageFillPrice :=
        if 0 < filledSize then
          some (((successful fills).map fun fill => fill.price * fill.size).sum / filledSize)
        else none
      status := aggregateStatus order.status filledSize remainingSize fills }

section Aggregate

variable {order : OrderRow} {fills : List FillRow} {payload : OrderFillPayload}

theorem reportedFilledSize_nonneg : 0 ≤ reportedFilledSize fills := by
  refine List.sum_nonneg fun size member => ?_
  obtain ⟨fill, -, rfl⟩ := List.mem_map.mp member
  exact fill.size_pos.le

theorem reportedFilledSize_pos {fill : FillRow} (member : fill ∈ fills)
    (counts : fill.settlementStatus ≠ .failed) : 0 < reportedFilledSize fills := by
  have among : fill.size ∈ (successful fills).map FillRow.size :=
    List.mem_map_of_mem (List.mem_filter.mpr ⟨member, decide_eq_true counts⟩)
  refine fill.size_pos.trans_le (List.single_le_sum (fun size member => ?_) _ among)
  obtain ⟨other, -, rfl⟩ := List.mem_map.mp member
  exact other.size_pos.le

theorem reportedFilledSize_of_failed
    (failed : ∀ fill ∈ fills, fill.settlementStatus = .failed) : reportedFilledSize fills = 0 := by
  have none : successful fills = [] := by
    refine List.filter_eq_nil_iff.mpr fun fill member => ?_
    simp [failed fill member]
  simp [reportedFilledSize, none]

/-- What the fills of an order write, unless they exceed its size. -/
theorem aggregateOrderFillPayload_ok_iff :
    aggregateOrderFillPayload order fills = .ok payload ↔
      reportedFilledSize fills - order.originalSize ≤ 1 / 1000000 ∧
        payload =
          { filledSize := min order.originalSize (reportedFilledSize fills)
            remainingSize :=
              max 0 (order.originalSize - min order.originalSize (reportedFilledSize fills))
            feePaidPusd := ((successful fills).map FillRow.feePusd).sum
            averageFillPrice :=
              if 0 < min order.originalSize (reportedFilledSize fills) then
                some (((successful fills).map fun fill => fill.price * fill.size).sum /
                  min order.originalSize (reportedFilledSize fills))
              else none
            status := aggregateStatus order.status
              (min order.originalSize (reportedFilledSize fills))
              (max 0 (order.originalSize - min order.originalSize (reportedFilledSize fills)))
              fills } := by
  unfold aggregateOrderFillPayload
  rw [require_bind_ok_iff]
  exact and_congr_right fun _ => ⟨fun made => (Except.ok.inj made).symm, fun made => by rw [made]; rfl⟩

/-- The fills cost no more than their sizes. -/
theorem notional_range (fills : List FillRow) :
    0 ≤ ((successful fills).map fun fill => fill.price * fill.size).sum ∧
    ((successful fills).map fun fill => fill.price * fill.size).sum ≤ reportedFilledSize fills := by
  constructor
  · refine List.sum_nonneg fun cost member => ?_
    obtain ⟨fill, -, rfl⟩ := List.mem_map.mp member
    exact (mul_pos fill.price_pos fill.size_pos).le
  · refine List.sum_le_sum fun fill _ => ?_
    exact mul_le_of_le_one_left fill.size_pos.le fill.price_lt_one.le

/-- Fills within the size of an order give it an average price in range. -/
theorem aggregate_average (within : reportedFilledSize fills ≤ order.originalSize)
    (made : aggregateOrderFillPayload order fills = .ok payload) :
    ∀ average ∈ payload.averageFillPrice, 0 ≤ average ∧ average ≤ 1 := by
  obtain ⟨-, rfl⟩ := aggregateOrderFillPayload_ok_iff.mp made
  rw [min_eq_right within]
  intro average member
  obtain ⟨low, high⟩ := notional_range fills
  split at member
  · rename_i positive
    cases member
    exact ⟨div_nonneg low positive.le, (div_le_one positive).mpr high⟩
  · cases member

theorem aggregate_fee (made : aggregateOrderFillPayload order fills = .ok payload) :
    0 ≤ payload.feePaidPusd := by
  obtain ⟨-, rfl⟩ := aggregateOrderFillPayload_ok_iff.mp made
  refine List.sum_nonneg fun fee member => ?_
  obtain ⟨fill, -, rfl⟩ := List.mem_map.mp member
  exact fill.fee_nonneg

end Aggregate

end Polybot
