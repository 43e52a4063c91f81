import Polybot.Ledger.Snapshot
import Polybot.Trading.Models

/-!
What the exchange lists of an account (`reconcile.py`).

The updates that `_trade_updates` makes of a trade, the records of the quarantine, and the
checks that a listed position has to pass. A record is a value together with a proof that
its fields are in their bounds, and a position that passed its checks carries their proofs.
-/

namespace Polybot

open Checked Interaction

/-! ### Trades of the exchange -/

/-- The order of one party of a trade, and what it traded. -/
structure TradeParty where
  orderId : Option String
  tokenId : String
  side : Side
  price : ℚ
  size : ℚ
  feeRateBps : Option ℚ

/-- A trade of the exchange. The columns of the taker are its own; `otherwise` is
`timestamp or utc_now()`. -/
structure AccountTrade where
  id : String
  conditionId : String
  traderSide : Option String
  status : String
  transactionHash : Option String
  matchedAt : Option Instant
  otherwise : Instant
  updatedAt : Instant
  raw : String
  taker : TradeParty
  makerOrders : List TradeParty

/-- `rate or other`. -/
def eitherRate (rate : Option ℚ) (other : ℚ) : ℚ :=
  match rate with
  | none => other
  | some rate => if rate = 0 then other else rate

namespace AccountTrade

variable (trade : AccountTrade)

/-- The update of a party, which has an order. -/
def partyUpdate (party : TradeParty) (feeRateBps : ℚ) : Except SettlementError UserTradeUpdate :=
  if valid : (0 < party.price ∧ party.price < 1) ∧ 0 < party.size ∧ 0 ≤ feeRateBps then
    .ok
      { clobTradeId := trade.id
        candidateOrderIds := [party.orderId.getD ""]
        conditionId := trade.conditionId
        tokenId := party.tokenId
        side := party.side
        traderSide := trade.traderSide
        price := party.price
        size := party.size
        status := Text.upper trade.status
        feeRateBps := feeRateBps
        transactionHash := trade.transactionHash
        matchedAt := trade.matchedAt.getD trade.otherwise
        updatedAt := trade.updatedAt
        raw := trade.raw
        candidates_nonempty := List.cons_ne_nil _ _
        price_pos := valid.1.1
        price_lt_one := valid.1.2
        size_pos := valid.2.1
        rate_nonneg := valid.2.2 }
  else .error (.foreign "ValidationError")

/-- `maker_updates`. -/
def makerUpdates : Except SettlementError (List UserTradeUpdate) :=
  (trade.makerOrders.filter fun maker => truthy maker.orderId).mapM fun maker =>
    trade.partyUpdate maker (eitherRate maker.feeRateBps (eitherRate trade.taker.feeRateBps 0))

/-- `taker_updates`. -/
def takerUpdates : Except SettlementError (List UserTradeUpdate) :=
  if truthy trade.taker.orderId = true then
    (trade.partyUpdate trade.taker (eitherRate trade.taker.feeRateBps 0)).map fun update => [update]
  else .ok []

/-- `_trade_updates`. A trade without a side yields both perspectives. -/
def tradeUpdates : Except SettlementError (List UserTradeUpdate) := do
  let makerUpdates ← trade.makerUpdates
  let takerUpdates ← trade.takerUpdates
  let side := Text.upper (trade.traderSide.getD "")
  pure (if side = "MAKER" then makerUpdates
    else if side = "TAKER" then takerUpdates
    else takerUpdates ++ makerUpdates)

/-- A trade without a side must not map to durable orders of both parties. -/
def checkPerspective (durable : List String) : Except SettlementError Unit :=
  let takerOrderId := trade.taker.orderId.getD ""
  if Text.strip (trade.traderSide.getD "") = "" ∧ takerOrderId ∈ durable ∧
      (∃ orderId ∈ durable, orderId ≠ takerOrderId) then
    .error (.raised (.incompleteFillLedger
      "trade without trader_side maps to both taker and maker durable orders"))
  else .ok ()

end AccountTrade

/-- `int(instant.timestamp())`. -/
def epochSeconds (instant : Instant) : Int :=
  instant.tdiv 1000000

/-! ### Quarantine records -/

inductive QuarantineKind where
  | trade
  | position
  | activity
  deriving DecidableEq, Repr

/-- The fields of a quarantine record. -/
structure QuarantineFields where
  kind : QuarantineKind
  externalKey : String
  reason : String
  conditionId : Option String
  tokenId : Option String
  side : Option Side
  size : Option ℚ
  price : Option ℚ
  notionalUsd : Option ℚ
  occurredAt : Option Instant
  deriving DecidableEq

/-- The bounds of the fields. -/
def QuarantineFields.Valid (fields : QuarantineFields) : Prop :=
  (fields.externalKey ≠ "" ∧ fields.externalKey.length ≤ 256) ∧
    (fields.reason ≠ "" ∧ fields.reason.length ≤ 64) ∧
    (∀ conditionId ∈ fields.conditionId, conditionId.length ≤ 128) ∧
    (∀ tokenId ∈ fields.tokenId, tokenId.length ≤ 128) ∧
    (∀ size ∈ fields.size, 0 ≤ size) ∧
    (∀ price ∈ fields.price, 0 ≤ price ∧ price ≤ 1) ∧
    ∀ notionalUsd ∈ fields.notionalUsd, 0 ≤ notionalUsd

instance (fields : QuarantineFields) : Decidable fields.Valid :=
  inferInstanceAs (Decidable (_ ∧ _ ∧ _ ∧ _ ∧ _ ∧ _ ∧ _))

/-- `QuarantineRecord`. -/
abbrev QuarantineRecord : Type :=
  { fields : QuarantineFields // fields.Valid }

/-- Validation of the fields. -/
def QuarantineFields.record (fields : QuarantineFields) : Except SettlementError QuarantineRecord :=
  if valid : fields.Valid then .ok ⟨fields, valid⟩ else .error (.foreign "ValidationError")

/-! ### Positions -/

/-- A position that the exchange lists. -/
structure ExchangePosition where
  conditionId : Option String
  tokenId : Option String
  size : RowDecimal
  initialValue : RowDecimal
  currentValue : RowDecimal
  avgPrice : Option ℚ
  realizedPnl : Option ℚ
  curPrice : Option ℚ

structure AccountPositionUpdate where
  conditionId : String
  tokenId : String
  outcome : Outcome
  size : ℚ
  averageEntryPrice : Option ℚ
  costBasisUsd : ℚ
  realizedPnlUsd : ℚ
  markPrice : Option ℚ
  unrealizedPnlUsd : ℚ

/-- `IncompleteFillLedgerError`. -/
def incompleteLedger (message : String) : SettlementError :=
  .raised (.incompleteFillLedger message)

/-- `_required_position_identifier`. -/
def requiredPositionIdentifier (raw : Option String) (field : String) :
    Except SettlementError String :=
  match raw with
  | none => .error (incompleteLedger s!"position is missing required {field}")
  | some text =>
      if Text.strip text = "" then
        .error (incompleteLedger s!"position is missing required {field}")
      else .ok text

/-- `_required_position_decimal`. -/
def requiredPositionDecimal (raw : RowDecimal) (field : String) : Except SettlementError ℚ :=
  match raw with
  | .missing => .error (incompleteLedger s!"position is missing required {field}")
  | .invalid => .error (incompleteLedger s!"position contains invalid required {field}")
  | .value number => .ok number

/-- A listed position whose required fields passed their checks. -/
structure RawPosition where
  position : ExchangePosition
  conditionId : String
  tokenId : String
  size : ℚ
  initial : ℚ
  current : ℚ
  size_nonneg : 0 ≤ size
  initial_nonneg : 0 ≤ initial
  current_nonneg : 0 ≤ current

/-- The checks of a listed position. -/
def rawPosition (position : ExchangePosition) : Except SettlementError RawPosition := do
  let conditionId ← requiredPositionIdentifier position.conditionId "condition_id"
  let tokenId ← requiredPositionIdentifier position.tokenId "token_id"
  let size ← requiredPositionDecimal position.size "size"
  let initial ← requiredPositionDecimal position.initialValue "initial_value"
  let current ← requiredPositionDecimal position.currentValue "current_value"
  if sound : 0 ≤ size ∧ 0 ≤ initial ∧ 0 ≤ current then
    .ok ⟨position, conditionId, tokenId, size, initial, current, sound.1, sound.2.1, sound.2.2⟩
  else .error (incompleteLedger s!"position {tokenId} contains a negative required value")

/-- The key of a position in `outcome_map`. -/
def RawPosition.key (raw : RawPosition) : String × String :=
  (raw.conditionId, raw.tokenId)

/-- The update of a position whose outcome is known. -/
def RawPosition.update (raw : RawPosition) (outcome : Outcome) : AccountPositionUpdate where
  conditionId := raw.conditionId
  tokenId := raw.tokenId
  outcome := outcome
  size := raw.size
  averageEntryPrice := raw.position.avgPrice
  costBasisUsd := raw.initial
  realizedPnlUsd := raw.position.realizedPnl.getD 0
  markPrice := raw.position.curPrice
  unrealizedPnlUsd := raw.current - raw.initial

/-- `outcome_map[(condition_id, token_id)]` in the update of a position. -/
def RawPosition.withOutcome (outcomeMap : Dict (String × String) Outcome) (raw : RawPosition) :
    Except SettlementError AccountPositionUpdate :=
  match outcomeMap.get? raw.key with
  | none => .error (.foreign "KeyError")
  | some outcome => .ok (raw.update outcome)

/-- `live_quantities`. -/
def liveQuantities (positions : List AccountPositionUpdate) (ledger : FillLedgerSnapshot) :
    Dict String ℚ :=
  positions.foldl (fun live position =>
    if position.size > 0 ∧ position.conditionId ∉ ledger.redeemedConditionIds then
      live.set position.tokenId position.size
    else live) .empty

/-- The order of `sorted` on keys. -/
def KeyNotAfter (key other : String × String) : Prop :=
  key.1 < other.1 ∨ key.1 = other.1 ∧ key.2 ≤ other.2

instance : DecidableRel KeyNotAfter := fun _ _ =>
  inferInstanceAs (Decidable (_ ∨ _ ∧ _))

end Polybot
