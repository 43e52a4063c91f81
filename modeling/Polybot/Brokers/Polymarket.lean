import Polybot.Control.Watch
import Polybot.Interaction.Stage
import Polybot.Trading.Fees

/-!
The live broker (`polybot/brokers/polymarket.py`).

`submit` and `submitBatch` are programs over what they await: the store, the lease
guard, the geoblock check and the exchange client, each of which may answer anything or
fail. What a call reads without an await (the clock, and the settings that the worker may
change) is the `Moment` that comes with the last answer. A call that ends before it posts
ends with a `Refusal`, from which every intent gets its result.
-/

namespace Polybot

open Interaction Program

/-! ### Data -/

/-- An intent with the fields that the live broker checks. -/
structure LiveIntent extends TradeIntent where
  conditionId : Option String
  notionalUsd : ℚ
  maxCommitmentUsd : Option ℚ
  deriving DecidableEq

/-- The clock and the settings as they are when a call goes on after an await. -/
structure Moment where
  utcNow : Instant
  mode : TradingMode
  maxOrderUsd : ℚ
  maxBookAgeSeconds : Int

/-- `_order_cap_usd`. -/
def Moment.orderCapUsd (moment : Moment) : ℚ :=
  if moment.mode = .canary then min moment.maxOrderUsd 5 else moment.maxOrderUsd

/-- `GeoblockResult`. -/
structure GeoblockResult where
  allowed : Bool
  reason : String

/-- A market with the scope of its fees. -/
structure LiveMarket extends MarketSpec where
  feeTakerOnly : Bool

/-- The answer of `get_market`: whether it says that fees are enabled or not, and what
`_map_market` makes of it. -/
structure RawMarket where
  feesEnabledKnown : Bool
  mapped : Except PyError LiveMarket

inductive AssetType where
  | collateral
  | conditional
  deriving DecidableEq

/-- `asset_type.lower()`. -/
def AssetType.lower : AssetType → String
  | collateral => "collateral"
  | conditional => "conditional"

structure BalanceAllowance where
  balance : ℚ
  allowances : List ℚ

/-- The arguments of `create_limit_order`. -/
structure LimitOrder where
  tokenId : String
  price : ℚ
  size : ℚ
  side : Side
  postOnly : Bool
  expiration : Int
  deriving DecidableEq

/-- A signed order, as `_serialize_signed_order` writes it. -/
structure SignedOrder where
  serialized : String
  deriving DecidableEq

structure EncryptionContext where
  accountId : String
  purpose : String
  objectId : String
  keyVersion : Int
  deriving DecidableEq

/-- The arguments of `prepare_signed_order`. -/
structure PreparedOrder where
  intent : LiveIntent
  signedOrderHash : String
  payloadCiphertext : String
  keyVersion : Int
  fencingToken : Int
  orderType : String
  expiresAt : Instant
  deriving DecidableEq

/-- The attributes of a response of the exchange that are read. -/
structure PostResponse where
  ok : Bool
  orderId : String
  status : Option String
  tradeIds : List String
  transactionsHashes : List String
  transactionHashes : List String
  message : Option String
  code : Option String

/-- A value in the `raw` of a result. -/
inductive RawValue where
  | text (value : String)
  | texts (values : List String)
  | flag (value : Bool)
  | time (value : Instant)
  deriving DecidableEq

/-- A result with its `raw`. -/
structure LiveResult extends ExecutionResult where
  raw : Dict String RawValue
  deriving DecidableEq

/-- `str(getattr(response, "order_id", "")) or None`. -/
def PostResponse.resultId (response : PostResponse) : Option String :=
  if response.orderId = "" then none else some response.orderId

/-- `_response_trace`. -/
def PostResponse.trace (response : PostResponse) : Dict String RawValue :=
  ((Dict.empty.set "status" (.text (response.status.getD "accepted"))).set "trade_ids"
    (.texts response.tradeIds)).set "transaction_hashes"
      (.texts (if response.transactionsHashes = [] then response.transactionHashes
        else response.transactionsHashes))

/-- Why a call ends before it posts: `_rejected` and `_batch_rejected`, or
`_batch_errors`. -/
inductive Refusal where
  | rejected (message : String)
  | failed (message : String)

namespace Refusal

def status : Refusal → ExecutionStatus
  | rejected _ => .rejected
  | failed _ => .error

def message : Refusal → String
  | rejected message => message
  | failed message => message

/-- The result of an intent of a refused call. -/
def result (refusal : Refusal) (intent : LiveIntent) : LiveResult :=
  ⟨⟨intent.intentHash, refusal.status, none, 0, none, refusal.message⟩, .empty⟩

theorem result_not_accepted (refusal : Refusal) (intent : LiveIntent) :
    (refusal.result intent).status ≠ .accepted := by
  cases refusal <;> nofun

end Refusal

/-! ### Requests -/

/-- What a call awaits. -/
inductive BrokerRequest where
  | hasUnresolvedLiveOrders (accountId : String)
  | getRuntimeControl (accountId : String)
  | leaseGuard
  | geoblockCheck
  | getMarket (id : String)
  | getBalanceAllowance (assetType : AssetType) (tokenId : Option String)
  | createLimitOrder (order : LimitOrder)
  | prepareSignedOrder (prepared : PreparedOrder)
  | markOrderSubmitting (intentHash accountId : String) (fencingToken controlVersion : Int)
  | postOrder (signed : SignedOrder)
  | postOrders (signed : List SignedOrder)
  | clientCancelAll
  | clientCancelOrders (orderIds : List String)
  | listOpenOrders
  | saveExecution (result : LiveResult) (accountId : String)

/-- What an answer is. Open orders are listed by their ids. -/
abbrev BrokerRequest.Response : BrokerRequest → Type
  | hasUnresolvedLiveOrders _ => Bool
  | getRuntimeControl _ => RuntimeControl × Moment
  | leaseGuard => Option Int
  | geoblockCheck => GeoblockResult × Moment
  | getMarket _ => RawMarket × Moment
  | getBalanceAllowance _ _ => BalanceAllowance × Moment
  | createLimitOrder _ => SignedOrder
  | postOrder _ => PostResponse
  | postOrders _ => List PostResponse
  | listOpenOrders => List String
  | _ => Unit

abbrev BrokerProgram (α : Type) : Type :=
  Program BrokerRequest BrokerRequest.Response PyError α

abbrev BrokerStage (α : Type) : Type :=
  Stage BrokerRequest BrokerRequest.Response PyError Refusal α

abbrev BrokerEvent : Type :=
  Event BrokerRequest BrokerRequest.Response PyError

/-- Await the answer of a request. -/
abbrev askBroker (request : BrokerRequest) : BrokerProgram request.Response :=
  Program.ask request

/-- Await a request in a call that may end early. -/
abbrev awaitBroker (request : BrokerRequest) : BrokerStage request.Response :=
  Stage.await request

/-- The broker: its account, its cipher and whether its lease guard is installed.
`exceptionText` is `str` of an exception. -/
structure PolymarketBroker where
  accountId : String
  payloadKeyVersion : Int
  leased : Bool
  power : DecimalPower
  sha256 : String → String
  encrypt : String → EncryptionContext → String
  exceptionText : PyError → String

/-! ### Checks of a book -/

/-- `_book_is_stale`. -/
def Moment.BookIsStale (moment : Moment) (book : TimedBook) : Prop :=
  seconds moment.maxBookAgeSeconds < moment.utcNow - book.capturedAt ∨
    moment.utcNow - book.capturedAt < seconds (-5)

instance Moment.decidableBookIsStale (moment : Moment) (book : TimedBook) :
    Decidable (moment.BookIsStale book) :=
  inferInstanceAs (Decidable (_ ∨ _))

/-- The checks that every submission starts with. -/
def bookProblem (moment : Moment) (intent : LiveIntent) (book : TimedBook) : Option String :=
  if book.marketId ≠ intent.marketId ∨ book.tokenId ≠ intent.tokenId then
    some "intent/order-book identity mismatch"
  else if intent.price - book.tickSize * floorDiv intent.price book.tickSize ≠ 0 then
    some "intent price is off the current tick grid"
  else if intent.size < book.minimumOrderSize then
    some "intent is below the current minimum order size"
  else if moment.BookIsStale book then
    some "order book exceeded the live executor age limit"
  else none

/-- The best bid reaches the best ask. -/
def TimedBook.Crossed (book : TimedBook) : Prop :=
  ∃ bid ∈ book.bestBid, ∃ ask ∈ book.bestAsk, ask ≤ bid

instance TimedBook.decidableCrossed (book : TimedBook) : Decidable book.Crossed :=
  inferInstanceAs (Decidable (∃ bid ∈ book.bestBid, _))

/-- The checks of a maker order against the best price of the other side. -/
def makerProblem (intent : LiveIntent) (book : TimedBook) : Option String :=
  match intent.side, book.bestAsk, book.bestBid with
  | .buy, none, _ => some "post-only buy requires a visible best ask"
  | .buy, some ask, _ =>
      if ask ≤ intent.price then some "post-only buy would cross or lock the best ask" else none
  | .sell, _, none => some "post-only sell requires a visible best bid"
  | .sell, _, some bid =>
      if intent.price ≤ bid then some "post-only sell would cross or lock the best bid" else none

/-- `_validate_post_only_submission`. -/
def validatePostOnlySubmission (moment : Moment) (intent : LiveIntent) (book : TimedBook) :
    Option String :=
  match bookProblem moment intent book with
  | some message => some message
  | none =>
      if book.Crossed then some "post-only submission rejected a locked or crossed order book"
      else makerProblem intent book

/-- The checks of `submit` once the commitment is known. -/
def priceProblem (moment : Moment) (intent : LiveIntent) (book : TimedBook) : Option String :=
  if intent.postOnly = true then validatePostOnlySubmission moment intent book
  else
    match intent.side with
    | .buy =>
        if ∃ ask ∈ book.bestAsk, ask ≤ intent.price then none
        else some "book moved outside the signed buy price cap"
    | .sell =>
        if ∃ bid ∈ book.bestBid, intent.price ≤ bid then none
        else some "book moved outside the signed sell price floor"

/-! ### Authority -/

/-- What a call reads at its start: the fencing token of the lease, the version of the
control and the end of its arm. -/
structure SubmissionAuthority where
  fencingToken : Int
  controlVersion : Int
  expiresAt : Instant

/-- The control is armed in the mode of the settings. -/
def RuntimeControl.ArmedIn (control : RuntimeControl) (moment : Moment) : Prop :=
  control.IsLiveArmed moment.utcNow ∧ control.mode = moment.mode

instance RuntimeControl.decidableArmedIn (control : RuntimeControl) (moment : Moment) :
    Decidable (control.ArmedIn moment) :=
  inferInstanceAs (Decidable (_ ∧ _))

namespace SubmissionAuthority

variable (authority : SubmissionAuthority)

/-- The control is still armed, in its version. -/
def Controls (control : RuntimeControl) (moment : Moment) : Prop :=
  control.ArmedIn moment ∧ control.version = authority.controlVersion

instance decidableControls (control : RuntimeControl) (moment : Moment) :
    Decidable (authority.Controls control moment) :=
  inferInstanceAs (Decidable (_ ∧ _))

/-- `int(armed_until.timestamp())`. -/
def expiration : Int :=
  authority.expiresAt.tdiv 1000000

end SubmissionAuthority

open Stage

/-- The fees of a market for an order: none for a maker where only takers are charged. -/
def feesFor (intent : LiveIntent) (market : LiveMarket) : FeeSchedule :=
  { market.feeSchedule with
    enabled := market.feesEnabled && !(intent.postOnly && market.feeTakerOnly) }

namespace PolymarketBroker

variable (broker : PolymarketBroker)

/-- The first reads of a call, with the two texts that differ between one order and a
batch. -/
def readAuthority (accountId armTooShort unleased : String) :
    BrokerStage (SubmissionAuthority × Moment) := do
  let (unresolved : Bool) ← awaitBroker (.hasUnresolvedLiveOrders accountId)
  endIf (unresolved = true) (.rejected "another durable live order is unresolved")
  let ((control, moment) : RuntimeControl × Moment) ← awaitBroker (.getRuntimeControl accountId)
  endIf (¬ control.ArmedIn moment)
    (.rejected "short-lived runtime arm is absent or mismatched")
  let expiresAt ← within (lift (control.armedUntil.elim (.error .assertionError) .ok))
  endIf (expiresAt - moment.utcNow < seconds 210) (.rejected armTooShort)
  endIf (broker.leased = false) (.rejected unleased)
  let (held : Option Int) ← awaitBroker .leaseGuard
  let fencingToken ← require held
    (.rejected "durable worker lease or reconciliation is unhealthy")
  let ((eligibility, moment) : GeoblockResult × Moment) ← awaitBroker .geoblockCheck
  endIf (eligibility.allowed = false) (.rejected eligibility.reason)
  pure (⟨fencingToken, control.version, expiresAt⟩, moment)

/-! ### Commitments and funds -/

/-- The commitment of a BUY in the market that was read. -/
def buyCommitment (intent : LiveIntent) (raw : RawMarket) : Except PyError ℚ := do
  Checked.require (raw.feesEnabledKnown = true)
    (.valueError "current fee schedule is unavailable")
  let market ← raw.mapped
  Checked.require (market.id = intent.marketId ∧
      (intent.tokenId = market.yesTokenId ∨ intent.tokenId = market.noTokenId))
    (.valueError "current market identity mismatch")
  Checked.require (truthy intent.conditionId = true → market.conditionId = intent.conditionId)
    (.valueError "current condition identity mismatch")
  let commitment := maximumBuyCost broker.power intent.size intent.price (feesFor intent market)
  Checked.require (∀ approved ∈ intent.maxCommitmentUsd, commitment ≤ approved)
    (.valueError "current fees exceed the risk-approved commitment")
  pure commitment

/-- `_submission_commitment`. -/
def submissionCommitment (intent : LiveIntent) (moment : Moment) : BrokerProgram (ℚ × Moment) :=
  if ¬ (0 < intent.price ∧ intent.price < 1) ∨ intent.size ≤ 0 then
    .raised (.valueError "invalid price or size")
  else
    match intent.side with
    | .sell => pure (max intent.notionalUsd (intent.size * intent.price), moment)
    | .buy => do
        let ((raw, moment) : RawMarket × Moment) ← askBroker (.getMarket intent.marketId)
        let commitment ← lift (broker.buyCommitment intent raw)
        pure (commitment, moment)

/-- The commitments of the intents in turn. -/
def submissionCommitments : List LiveIntent → Moment → BrokerProgram (List ℚ × Moment)
  | [], moment => pure ([], moment)
  | intent :: rest, moment => do
      let (commitment, moment) ← broker.submissionCommitment intent moment
      let (commitments, moment) ← submissionCommitments rest moment
      pure (commitment :: commitments, moment)

end PolymarketBroker

/-- What pays for an intent. -/
def LiveIntent.asset (intent : LiveIntent) : AssetType × Option String :=
  match intent.side with
  | .buy => (.collateral, none)
  | .sell => (.conditional, some intent.tokenId)

/-- How much of it an intent needs. -/
def LiveIntent.required (intent : LiveIntent) (commitment : ℚ) : ℚ :=
  match intent.side with
  | .buy => commitment
  | .sell => intent.size

/-- `required_by_asset`. -/
def requiredByAsset (intents : List LiveIntent) (commitments : List ℚ) :
    Dict (AssetType × Option String) ℚ :=
  (intents.zip commitments).foldl (fun required entry =>
    required.set entry.1.asset
      ((required.get? entry.1.asset).getD 0 + entry.1.required entry.2)) .empty

/-- The wallet holds and allows an amount of an asset. -/
def checkFunds (asset : AssetType × Option String) (amount : ℚ)
    (poorBalance poorAllowance : String) : BrokerStage Moment := do
  let ((funds, moment) : BalanceAllowance × Moment) ←
    awaitBroker (.getBalanceAllowance asset.1 asset.2)
  endIf (funds.balance < amount * 1000000) (.rejected poorBalance)
  endIf (¬ ∃ least ∈ funds.allowances.min?, amount * 1000000 ≤ least) (.rejected poorAllowance)
  pure moment

/-- The funds of a batch, asset by asset. -/
def checkBatchFunds : List ((AssetType × Option String) × ℚ) → BrokerStage Unit
  | [] => pure ()
  | (asset, amount) :: rest => do
      let _ ← checkFunds asset amount
        s!"insufficient {asset.1.lower} balance before batch signing"
        s!"insufficient {asset.1.lower} allowance before batch signing"
      checkBatchFunds rest

/-! ### Signing and marking -/

/-- The arguments that sign an intent. -/
def LiveIntent.limitOrder (intent : LiveIntent) (postOnly : Bool) (expiration : Int) : LimitOrder :=
  ⟨intent.tokenId, intent.price, intent.size, intent.side, postOnly, expiration⟩

/-- The signed orders of a batch in turn. -/
def signOrders (authority : SubmissionAuthority) : List LiveIntent → BrokerProgram (List SignedOrder)
  | [] => pure []
  | intent :: rest => do
      let (signed : SignedOrder) ←
        askBroker (.createLimitOrder (intent.limitOrder true authority.expiration))
      let others ← signOrders authority rest
      pure (signed :: others)

namespace PolymarketBroker

variable (broker : PolymarketBroker)

/-- The arguments that persist a signed order. -/
def prepared (authority : SubmissionAuthority) (intent : LiveIntent) (signed : SignedOrder) :
    PreparedOrder where
  intent := intent
  signedOrderHash := broker.sha256 signed.serialized
  payloadCiphertext := broker.encrypt signed.serialized
    ⟨intent.accountId, "signed-order", intent.intentHash, broker.payloadKeyVersion⟩
  keyVersion := broker.payloadKeyVersion
  fencingToken := authority.fencingToken
  orderType := "GTD"
  expiresAt := authority.expiresAt

/-- Persist the signed orders in turn. -/
def prepareOrders (authority : SubmissionAuthority) :
    List (LiveIntent × SignedOrder) → BrokerProgram Unit
  | [] => pure ()
  | (intent, signed) :: rest => do
      let _ ← askBroker (.prepareSignedOrder (broker.prepared authority intent signed))
      prepareOrders authority rest

end PolymarketBroker

/-- The transition of an intent to `submitting`. -/
def SubmissionAuthority.mark (authority : SubmissionAuthority) (intent : LiveIntent) :
    BrokerRequest :=
  .markOrderSubmitting intent.intentHash intent.accountId authority.fencingToken
    authority.controlVersion

/-- Mark the intents in turn. -/
def markOrders (authority : SubmissionAuthority) : List LiveIntent → BrokerProgram Unit
  | [] => pure ()
  | intent :: rest => do
      let _ ← (Program.ask (authority.mark intent) : BrokerProgram _)
      markOrders authority rest

/-! ### Cancellation -/

/-- Read the open orders up to so many times, until none matters. -/
def verifyAbsent (absent : List String → Bool) (problem : String) : Nat → BrokerProgram Bool
  | 0 => .raised (.runtimeError problem)
  | reads + 1 => do
      let (openOrders : List String) ← askBroker .listOpenOrders
      if absent openOrders = true then pure true else verifyAbsent absent problem reads

/-- `cancel_all`. -/
def cancelAll (reason : String) : BrokerProgram Bool := do
  let _ ← askBroker .clientCancelAll
  verifyAbsent List.isEmpty
    s!"cancel-all verification failed ({reason}): open orders remain" 3

/-- `cancel_orders`, whose ids are read once each. -/
def cancelOrders (orderIds : List String) (reason : String) : BrokerProgram Bool :=
  let unique := (orderIds.filter fun id => id ≠ "").eraseDups
  if unique = [] then pure true
  else do
    let _ ← askBroker (.clientCancelOrders unique)
    verifyAbsent (fun openOrders => decide (∀ id ∈ unique, id ∉ openOrders))
      s!"targeted cancellation verification failed ({reason}): orders remain" 3

/-- Cancel, whatever the cancellation raises. -/
def cancellationVerified (cancellation : BrokerProgram Bool) : BrokerProgram Bool := do
  match ← cancellation.attempt with
  | .ok verified => pure verified
  | .error _ => pure false

/-- Cancel everything after an ambiguous post. -/
def cancelAmbiguous (reason : String) : BrokerProgram String := do
  match ← (cancelAll reason).attempt with
  | .ok _ => pure "verified"
  | .error _ => pure "FAILED"

/-- Save a result; one that was not saved is an error with the same order id. -/
def saveResult (replied : String) (result : LiveResult) (accountId : String) :
    BrokerProgram LiveResult := do
  match ← (askBroker (.saveExecution result accountId)).attempt with
  | .ok _ => pure result
  | .error problem =>
      pure ⟨⟨result.intentHash, .error, result.orderId, 0, none,
        s!"{replied} but durable response save failed: {problem.typeName}"⟩, result.raw⟩

end Polybot
