import Polybot.Collections.Checked
import Polybot.Collections.Dict
import Polybot.Collections.Text
import Polybot.Models
import Mathlib.Data.Finset.Insert
import Mathlib.Data.List.Sort

/-!
The fill ledger replay (`stores/ledger.py`).

Rows are the mappings that the stores return. A cell that `Decimal` or
`fromisoformat` may reject is a `RowDecimal` or a `RowTime`; every other cell is
the text that `str` makes of it. `replayFillLedger` normalises the rows, orders
the events and folds `ledgerStep` over them.
-/

namespace Polybot

/-- A datetime argument. -/
inductive Datetime where
  | naive
  | aware (instant : Instant)
  deriving DecidableEq

/-- A timestamp cell: absent or empty, not a timestamp, or a timestamp. -/
inductive RowTime where
  | missing
  | invalid
  | stamp (datetime : Datetime)
  deriving DecidableEq

/-- A numeric cell: absent, not a number, or a number. -/
inductive RowDecimal where
  | missing
  | invalid
  | value (number : ℚ)
  deriving DecidableEq

/-- What the replay raises: the `ValueError` about `since`, or
`IncompleteFillLedgerError`. -/
inductive LedgerError where
  | naiveSince
  | incomplete (message : String)
  deriving DecidableEq, Repr

/-- A durable fill row or an account activity row. -/
structure LedgerRow where
  settlementStatus : String
  matchedAt : RowTime
  createdAt : RowTime
  fillKey : String
  outcomeTokenId : String
  conditionId : String
  side : String
  price : RowDecimal
  size : RowDecimal
  feePusd : RowDecimal
  occurredAt : RowTime
  activityType : String
  activityKey : String
  amountUsd : RowDecimal
  deriving DecidableEq

/-- `_decimal`, for a cell that is looked up with `default`. -/
def decimal (cell : RowDecimal) (default : Option ℚ) (field : String) : Except LedgerError ℚ :=
  match cell, default with
  | .value number, _ => .ok number
  | .missing, some number => .ok number
  | _, _ => .error (.incomplete s!"fill ledger has invalid {field}")

/-- `_as_utc_datetime`. -/
def asUtcDatetime (cell : RowTime) (field : String) : Except LedgerError Instant :=
  match cell with
  | .stamp (.aware instant) => .ok instant
  | .stamp .naive => .error (.incomplete s!"fill ledger has naive {field}")
  | _ => .error (.incomplete s!"fill ledger has invalid {field}")

/-! ### Normalised events -/

structure LedgerEvent where
  matchedAt : Instant
  createdAt : Instant
  kind : Nat
  key : String
  eventType : String
  row : LedgerRow
  deriving DecidableEq

/-- `str(row.get("settlement_status", "")).upper() == "FAILED"`. -/
def settlementFailed (row : LedgerRow) : Bool :=
  Text.upper row.settlementStatus = "FAILED"

def fillEvent (row : LedgerRow) : Except LedgerError LedgerEvent := do
  let matchedAt ← asUtcDatetime row.matchedAt "matched_at"
  let createdAt ← asUtcDatetime
    (if row.createdAt = .missing then .stamp (.aware matchedAt) else row.createdAt) "created_at"
  pure ⟨matchedAt, createdAt, 0, row.fillKey, "FILL", row⟩

def activityEvent (row : LedgerRow) : Except LedgerError LedgerEvent := do
  let occurredAt ← asUtcDatetime row.occurredAt "occurred_at"
  pure ⟨occurredAt, occurredAt, 1, row.activityKey, Text.upper row.activityType, row⟩

/-- The order of the sort key `item[:4]`. -/
def LedgerEvent.NotAfter (a b : LedgerEvent) : Prop :=
  a.matchedAt < b.matchedAt ∨ a.matchedAt = b.matchedAt ∧
    (a.createdAt < b.createdAt ∨ a.createdAt = b.createdAt ∧
      (a.kind < b.kind ∨ a.kind = b.kind ∧ a.key ≤ b.key))

instance : DecidableRel LedgerEvent.NotAfter := fun _ _ =>
  inferInstanceAs (Decidable (_ ∨ _ ∧ (_ ∨ _ ∧ (_ ∨ _ ∧ _))))

/-- The events of the rows and activities, in the order in which they are
replayed. Fills with status `FAILED` are skipped. -/
def orderedEvents (rows activities : List LedgerRow) : Except LedgerError (List LedgerEvent) := do
  let fills ← (rows.filter fun row => !settlementFailed row).mapM fillEvent
  let lifecycle ← activities.mapM activityEvent
  pure ((fills ++ lifecycle).insertionSort LedgerEvent.NotAfter)

/-! ### Replay -/

/-- `positions` maps a token to its quantity and cost. -/
structure LedgerState where
  positions : Dict String (ℚ × ℚ)
  tokenConditions : Dict String String
  redeemedConditions : Finset String
  realized : ℚ
  deriving DecidableEq

def LedgerState.initial : LedgerState :=
  ⟨.empty, .empty, ∅, 0⟩

/-- `positions.get(token_id, (Decimal("0"), Decimal("0")))`. -/
def LedgerState.position (state : LedgerState) (tokenId : String) : ℚ × ℚ :=
  (state.positions.get? tokenId).getD (0, 0)

/-- `realized` after an event at `matchedAt` that gains `gain`. -/
def LedgerState.realize (state : LedgerState) (cutoff matchedAt : Instant) (gain : ℚ) : ℚ :=
  if matchedAt ≥ cutoff then state.realized + gain else state.realized

/-- The held tokens of a condition. -/
def LedgerState.heldTokens (state : LedgerState) (conditionId : String) : List String :=
  (state.positions.entries.filter fun entry =>
    entry.2.1 > 0 ∧ state.tokenConditions.get? entry.1 = some conditionId).map Prod.fst

/-- The state after `tokens` were redeemed for `amount`. -/
def redeemedState (cutoff matchedAt : Instant) (state : LedgerState) (tokens : List String)
    (amount : ℚ) : LedgerState :=
  let releasedCost := (tokens.map fun token => (state.position token).2).sum
  { state with
    realized := state.realize cutoff matchedAt (amount - releasedCost)
    positions := state.positions.setAll tokens (0, 0) }

/-- A `REDEEM` activity. -/
def redeemStep (cutoff : Instant) (state : LedgerState) (event : LedgerEvent) :
    Except LedgerError LedgerState := do
  let conditionId := Text.strip event.row.conditionId
  let amount ← decimal event.row.amountUsd (some 0) "amount_usd"
  if conditionId = "" ∨ amount < 0 then
    throw (.incomplete "redeem activity has invalid economics")
  let marked := { state with redeemedConditions := insert conditionId state.redeemedConditions }
  let tokens := state.heldTokens conditionId
  if tokens = [] then
    if amount > 1 / 1000000 then
      throw (.incomplete "redeem activity has no complete preceding token cost basis")
    else pure marked
  else pure (redeemedState cutoff event.matchedAt marked tokens amount)

/-- A fill row whose fields passed their checks, with the token conditions that
it leaves. -/
structure LedgerFill where
  tokenId : String
  side : Side
  conditions : Dict String String
  price : ℚ
  size : ℚ
  fee : ℚ
  price_bounds : 0 < price ∧ price < 1
  size_pos : 0 < size
  fee_nonneg : 0 ≤ fee

/-- The side of a fill row that names a token. -/
def fillSide (row : LedgerRow) : Except LedgerError Side :=
  let side := Text.upper row.side
  if Text.strip row.outcomeTokenId = "" ∨ ¬ (side = "BUY" ∨ side = "SELL") then
    .error (.incomplete "fill ledger contains an invalid token or side")
  else if side = "BUY" then .ok .buy
  else .ok .sell

/-- The token conditions after a fill row. -/
def fillConditions (state : LedgerState) (row : LedgerRow) :
    Except LedgerError (Dict String String) :=
  let tokenId := Text.strip row.outcomeTokenId
  let conditionId := Text.strip row.conditionId
  let known := (state.tokenConditions.get? tokenId).getD ""
  if conditionId = "" then .ok state.tokenConditions
  else if known ≠ "" ∧ known ≠ conditionId then
    .error (.incomplete s!"token {tokenId} maps to more than one condition")
  else .ok (state.tokenConditions.set tokenId conditionId)

/-- The checks that precede the update of the position. -/
def readFill (state : LedgerState) (row : LedgerRow) : Except LedgerError LedgerFill := do
  let side ← fillSide row
  let conditions ← fillConditions state row
  let price ← decimal row.price none "price"
  let size ← decimal row.size none "size"
  let fee ← decimal row.feePusd (some 0) "fee_pusd"
  if sound : (0 < price ∧ price < 1) ∧ 0 < size ∧ 0 ≤ fee then
    pure ⟨Text.strip row.outcomeTokenId, side, conditions, price, size, fee,
      sound.1, sound.2.1, sound.2.2⟩
  else throw (.incomplete "fill ledger contains invalid economics")

/-- `Decimal("0.000000000001")`. -/
def tolerance : ℚ :=
  1 / 1000000000000

def buyStep (state : LedgerState) (fill : LedgerFill) : LedgerState :=
  let held := state.position fill.tokenId
  { state with
    tokenConditions := fill.conditions
    positions := state.positions.set fill.tokenId
      (held.1 + fill.size, held.2 + fill.price * fill.size + fill.fee) }

/-- The state after a sale of at most what is held. -/
def soldState (cutoff matchedAt : Instant) (state : LedgerState) (fill : LedgerFill) :
    LedgerState :=
  let held := state.position fill.tokenId
  let sold := min fill.size held.1
  let averageCost := held.2 / held.1
  let basisReleased := averageCost * sold
  let remaining := max 0 (held.1 - sold)
  let remainingCost := max 0 (held.2 - basisReleased)
  { state with
    tokenConditions := fill.conditions
    realized := state.realize cutoff matchedAt (fill.price * sold - fill.fee - basisReleased)
    positions := state.positions.set fill.tokenId
      (if remaining ≤ tolerance then (0, 0) else (remaining, remainingCost)) }

def sellStep (cutoff matchedAt : Instant) (state : LedgerState) (fill : LedgerFill) :
    Except LedgerError LedgerState :=
  let tokenId := fill.tokenId
  let held := state.position tokenId
  if held.1 ≤ 0 ∨ fill.size - held.1 > tolerance then
    .error (.incomplete s!"sell fill for token {tokenId} has no complete preceding buy history")
  else .ok (soldState cutoff matchedAt state fill)

/-- The loop body of `replay_fill_ledger`. -/
def ledgerStep (cutoff : Instant) (state : LedgerState) (event : LedgerEvent) :
    Except LedgerError LedgerState :=
  if event.eventType ≠ "FILL" then
    if event.eventType ≠ "REDEEM" then
      let named := if event.eventType = "" then "UNKNOWN" else event.eventType
      .error (.incomplete s!"unsupported account token activity {named}")
    else redeemStep cutoff state event
  else do
    let fill ← readFill state event.row
    match fill.side with
    | .buy => pure (buyStep state fill)
    | .sell => sellStep cutoff event.matchedAt state fill

structure FillLedgerSnapshot where
  realizedPnlUsd : ℚ
  tokenQuantities : Dict String ℚ
  tokenCostsUsd : Dict String ℚ
  tokenConditionIds : Dict String String
  redeemedConditionIds : Finset String
  deriving DecidableEq

/-- The snapshot of the final state: the tokens still held. -/
def LedgerState.snapshot (state : LedgerState) : FillLedgerSnapshot where
  realizedPnlUsd := state.realized
  tokenQuantities := state.positions.filterMap fun _ held =>
    if held.1 > 0 then some held.1 else none
  tokenCostsUsd := state.positions.filterMap fun _ held =>
    if held.1 > 0 then some held.2 else none
  tokenConditionIds := state.positions.filterMap fun token held =>
    if held.1 > 0 then state.tokenConditions.get? token else none
  redeemedConditionIds := state.redeemedConditions

/-- `replay_fill_ledger`. -/
def replayFillLedger (rows : List LedgerRow) (since : Datetime) (activities : List LedgerRow) :
    Except LedgerError FillLedgerSnapshot :=
  match since with
  | .naive => .error .naiveSince
  | .aware cutoff => do
      let events ← orderedEvents rows activities
      let final ← events.foldlM (ledgerStep cutoff) .initial
      pure final.snapshot

end Polybot
