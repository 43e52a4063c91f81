import Polybot.Interaction.Program
import Polybot.Store.PairStore

/-!
The pair execution coordinator (`execution/coordinator.py`).

The operations are programs whose requests are what the source awaits: the reads
and functions of the store, the calls of the broker and the quotes of the hedge
provider. A load is its separate reads. `clock n` is the instant of the n-th
`utc_now()` of an operation, and the random id of a hedge leg is an argument.
-/

namespace Polybot

open Checked Interaction

/-- A bounded L2 quote and its book. -/
structure HedgePackage where
  quote : HedgeQuote
  book : OrderBookSnapshot

/-- What an operation awaits. -/
inductive CoordinatorRequest where
  | selectGroup (accountId : String) (groupId : UUID)
  | marketIdentity (dbMarketId : String)
  | selectLegs (accountId : String) (groupId : UUID)
  | selectTradeIds (accountId : String) (groupId : UUID)
  | resolveDbMarketId (group : OrderGroup)
  | persistPairOrderPlan (accountId : String) (group : GroupPayload) (scope : PlanScope)
      (legs : List OrderLeg)
  | commitPairGroupTransition (accountId : String) (expectedGroupVersion : Nat)
      (group : GroupPayload) (legs : List OrderLeg) (reason : String)
  | commitPairFill (accountId : String) (expectedGroupVersion : Nat) (fill : FillPayload)
      (group : GroupPayload) (legs : List OrderLeg)
  | cancelReconciliationBarrier (accountId : String) (orderIds : List String)
  | submitBatch (submissions : List (TradeIntent × OrderBookSnapshot))
  | submit (intent : TradeIntent) (book : OrderBookSnapshot)
  | cancelOrders (orderIds : List String) (reason : String)
  | cancelOrder (orderId reason : String)
  | cancelAll (reason : String)
  | quote (state : OrderGroupState)

/-- What an answer is. -/
def CoordinatorRequest.Response : CoordinatorRequest → Type
  | selectGroup _ _ => Option GroupRow
  | marketIdentity _ => String × Option String
  | selectLegs _ _ => List OrderLeg
  | selectTradeIds _ _ => List String
  | resolveDbMarketId _ => String
  | persistPairOrderPlan _ _ _ _ => Bool
  | commitPairGroupTransition _ _ _ _ _ => Bool
  | commitPairFill _ _ _ _ _ => AtomicFillCommit
  | cancelReconciliationBarrier _ _ => Unit
  | submitBatch _ => List ExecutionResult
  | submit _ _ => ExecutionResult
  | cancelOrders _ _ => Bool
  | cancelOrder _ _ => Bool
  | cancelAll _ => Bool
  | quote _ => Option HedgePackage

/-- An operation of the coordinator, or a part of one. -/
abbrev CoordinatorProgram (α : Type) : Type :=
  Program CoordinatorRequest CoordinatorRequest.Response PyError α

/-- A request with its answer. -/
abbrev CoordinatorEvent : Type :=
  Event CoordinatorRequest CoordinatorRequest.Response PyError

/-- Await the answer of a request. -/
abbrev await (request : CoordinatorRequest) : CoordinatorProgram request.Response :=
  Program.ask request

structure PairCoordinatorConfig where
  enabled : Bool
  researchOnly : Bool
  maximumCasRetries : Nat
  retries_bounds : 1 ≤ maximumCasRetries ∧ maximumCasRetries ≤ 10

inductive CoordinatorStatus where
  | disabled
  | duplicate
  | submitted
  | working
  | paired
  | frozen
  | failed
  | conflict
  | noop
  deriving DecidableEq, Repr

structure CoordinatorResult where
  status : CoordinatorStatus
  state : Option OrderGroupState
  executions : List ExecutionResult
  message : String
  deriving DecidableEq

/-- `PairIntentFactory.build_intent`. -/
abbrev IntentFactory : Type :=
  OrderGroup → OrderLeg → OrderBookSnapshot → String → Except PyError TradeIntent

/-- The coordinator, with the account its store is bound to. -/
structure PairExecutionCoordinator where
  accountId : String
  barrierConfigured : Bool
  buildIntent : IntentFactory
  orderManager : PairOrderManager
  config : PairCoordinatorConfig

/-- A successful exchange status. -/
def acceptedStatuses : List ExecutionStatus :=
  [.accepted, .paperFilled]

/-- The exchange accepted the order, and says under which id. -/
def ExecutionResult.accepted (execution : ExecutionResult) : Bool :=
  execution.status ∈ acceptedStatuses && truthy execution.orderId

/-- An error that may still have left an order. -/
def ExecutionResult.ambiguous (execution : ExecutionResult) : Bool :=
  truthy execution.orderId && execution.status = .error

/-- The paper broker filled the order at once. -/
def ExecutionResult.paperFilled (execution : ExecutionResult) : Bool :=
  execution.status = .paperFilled && execution.filledSize > 0 && execution.averagePrice.isSome

/-- `_status_for_state`. -/
def statusForState (state : OrderGroupState) : CoordinatorStatus :=
  match state.group.status with
  | .paired => .paired
  | .frozen => .frozen
  | .failed => .failed
  | .working => .working
  | .imbalanced => .working
  | .cancelling => .working
  | .hedging => .working
  | .planned => .submitted
  | .submitting => .submitted
  | .cancelled => .submitted

theorem paperFillId_nonempty (intentHash : String) : "paper:" ++ intentHash ≠ "" := by
  intro empty
  have length := congrArg String.length empty
  simp at length

/-- The `CoordinatorFill` of a paper execution. -/
def paperFill (accountId : String) (groupId legId : UUID) (execution : ExecutionResult)
    (occurredAt : Instant) : Except PyError CoordinatorFill :=
  let price := execution.averagePrice.getD 0
  if account : accountId = "" then .error (.validationError (.field "account_id"))
  else if size : 0 < execution.filledSize then
    if bounds : 0 < price ∧ price < 1 then
      .ok ⟨"paper:" ++ execution.intentHash, accountId, groupId, legId, execution.filledSize, price,
        0, occurredAt, paperFillId_nonempty _, account, size, bounds, Literal.zero_nonneg⟩
    else .error (.validationError (.field "price"))
  else .error (.validationError (.field "size"))

namespace PairExecutionCoordinator

variable (coordinator : PairExecutionCoordinator)

/-! ### The store -/

/-- `persist_plan_atomic`. -/
def persistPlan (plan : OrderPlan) : CoordinatorProgram Bool := do
  let walletId ← Program.lift (planWallet coordinator.accountId plan)
  let marketId ← await (.resolveDbMarketId plan.group)
  await (.persistPairOrderPlan coordinator.accountId (groupPayload plan.group)
    ⟨marketId, walletId, false⟩ plan.legs)

/-- The group of a row that was read. -/
def loadGroup (groupId : UUID) (found : Option GroupRow) : CoordinatorProgram OrderGroup :=
  match found with
  | none => .raised (.lookupError s!"order group {groupId} was not found")
  | some row => do
      let identity ← await (.marketIdentity row.marketId)
      Program.lift (loadedGroup row identity)

/-- `load_group_state`. -/
def loadGroupState (accountId : String) (groupId : UUID) : CoordinatorProgram OrderGroupState := do
  Program.lift (requireAccount coordinator.accountId accountId)
  let found ← await (.selectGroup coordinator.accountId groupId)
  let group ← loadGroup groupId found
  let rows ← await (.selectLegs coordinator.accountId groupId)
  let legs ← Program.lift (loadedLegs rows)
  let tradeIds ← await (.selectTradeIds coordinator.accountId groupId)
  Program.lift (assembledState group legs tradeIds)

/-- `commit_transition_atomic`: the committed state, whose version the source
normalises in place, or `none` if the version had moved. -/
def commitTransition (expectedGroupVersion : Nat) (state : OrderGroupState) (reason : String) :
    CoordinatorProgram (Option OrderGroupState) := do
  Program.lift (requireAccount coordinator.accountId state.group.accountId)
  let committed : Bool ← await (.commitPairGroupTransition coordinator.accountId expectedGroupVersion
    (transitionPayload expectedGroupVersion state) state.legs reason)
  pure (if committed then some (state.normalized (expectedGroupVersion + 1)) else none)

/-- `commit_fill_atomic`. -/
def commitFill (expectedGroupVersion : Nat) (fill : CoordinatorFill) (state : OrderGroupState) :
    CoordinatorProgram AtomicFillCommit := do
  let payload ← Program.lift (fillArguments coordinator.accountId fill state)
  await (.commitPairFill coordinator.accountId expectedGroupVersion payload
    (groupPayload state.group) state.legs)

/-- Every order id belongs to a leg of the state. -/
def knownOrders (orderIds : List String) (state : OrderGroupState) : Prop :=
  ∀ orderId ∈ orderIds, ∃ leg ∈ state.legs, leg.clobOrderId = some orderId

instance (orderIds : List String) (state : OrderGroupState) : Decidable (knownOrders orderIds state) :=
  inferInstanceAs (Decidable (∀ orderId ∈ orderIds, _))

/-- `load_after_cancel_reconciliation`. -/
def loadAfterCancelReconciliation (accountId : String) (groupId : UUID) (orderIds : List String) :
    CoordinatorProgram OrderGroupState := do
  Program.lift (requireAccount coordinator.accountId accountId)
  Program.lift (require (coordinator.barrierConfigured = true)
    (.runtimeError "cancel reconciliation barrier is not configured"))
  await (.cancelReconciliationBarrier accountId orderIds)
  let state ← coordinator.loadGroupState accountId groupId
  Program.lift (require (knownOrders orderIds state)
    (.runtimeError "cancel barrier returned state for unknown CLOB orders"))
  pure state

/-! ### Freezing and cancelling -/

/-- `_cancel_accepted_best_effort`. -/
def cancelAcceptedBestEffort (orderIds : List String) : CoordinatorProgram Unit :=
  match orderIds.filter fun orderId => orderId ≠ "" with
  | [] => .done ()
  | ids => do
      let _ ← (await (.cancelOrders ids "pair coordinator state conflict")).attempt
      pure ()

/-- `_freeze_state`. -/
def freezeState (state : OrderGroupState) (reason : String) (timestamp : Instant) :
    CoordinatorProgram CoordinatorResult := do
  let frozen := (freezeAfterHedgeFailure state reason timestamp).1
  let committed ← coordinator.commitTransition state.group.version frozen "freeze"
  pure ⟨if committed.isSome then .frozen else .conflict, committed, [], reason⟩

/-- `_freeze_after_ambiguous_batch`. -/
def freezeAfterAmbiguousBatch (state : OrderGroupState) (executions : List ExecutionResult)
    (reason : String) (timestamp : Instant) : CoordinatorProgram CoordinatorResult := do
  cancelAcceptedBestEffort
    ((executions.filter ExecutionResult.accepted).filterMap ExecutionResult.orderId)
  let frozen ← coordinator.freezeState state reason timestamp
  pure { frozen with executions := executions }

/-! ### Intents -/

/-- `_validate_intent`. -/
def validateIntent (group : OrderGroup) (leg : OrderLeg) (intent : TradeIntent)
    (book : OrderBookSnapshot) : Except PyError Unit := do
  require (intent.accountId = group.accountId)
    (.valueError "intent account differs from durable order group")
  require (intent.marketId = group.marketId ∧ intent.marketId = book.marketId ∧
      intent.tokenId = leg.tokenId ∧ intent.tokenId = book.tokenId ∧ intent.outcome = leg.outcome)
    (.valueError "intent, leg, and book identities differ")
  require (intent.price = leg.price ∧ intent.size = leg.size ∧ intent.side = leg.side)
    (.valueError "intent changed the durable leg economics")
  require (intent.postOnly = leg.postOnly)
    (.valueError "intent changed the durable maker/taker constraint")
  require (intent.strategy = group.strategy)
    (.valueError "intent changed the durable strategy identity")
  require (¬ (leg.postOnly = true ∧ leg.side = .buy ∧ ∀ ask ∈ book.bestAsk, ask ≤ leg.price))
    (.valueError "post-only BUY leg would cross or lock the best ask")
  require (¬ (leg.postOnly = true ∧ leg.side = .sell ∧ ∀ bid ∈ book.bestBid, leg.price ≤ bid))
    (.valueError "post-only SELL leg would cross or lock the best bid")
  require (¬ (coordinator.config.researchOnly = true ∧ intent.mode ∉ [TradingMode.paper, .shadow]))
    (.valueError "research-only coordinator cannot build canary/live intents")

/-- The validated intent of a leg, with its book. -/
def submission (group : OrderGroup) (leg : OrderLeg) (book : OrderBookSnapshot) (runId : String) :
    Except PyError (TradeIntent × OrderBookSnapshot) := do
  let intent ← coordinator.buildIntent group leg book runId
  coordinator.validateIntent group leg intent book
  pure (intent, book)

/-- The submissions of a plan. -/
def submissions (plan : OrderPlan) (books : String → Option OrderBookSnapshot) (runId : String) :
    Except PyError (List (TradeIntent × OrderBookSnapshot)) :=
  plan.legs.mapM fun leg =>
    match books leg.tokenId with
    | none => .error (.keyError leg.tokenId)
    | some book => coordinator.submission plan.group leg book runId

/-! ### `on_fill` -/

/-- The attempts of `on_fill`. -/
def onFillAttempts (fill : CoordinatorFill) : Nat → CoordinatorProgram CoordinatorResult
  | 0 => .done ⟨.conflict, none, [], "fill CAS retries were exhausted"⟩
  | retries + 1 => do
      let before ← coordinator.loadGroupState fill.accountId fill.groupId
      if fill.fillId ∈ before.seenFillIds then
        pure ⟨.duplicate, some before, [], "fill was already applied"⟩
      else
        match recordFill before fill.fillId fill.legId fill.size fill.price fill.feeUsd
            fill.occurredAt with
        | .error problem => pure ⟨.failed, some before, [], problem.text⟩
        | .ok after => do
            let committed ← coordinator.commitFill before.group.version fill after
            match committed with
            | .applied => pure ⟨statusForState after, some after, [], ""⟩
            | .duplicate => do
                let latest ← coordinator.loadGroupState fill.accountId fill.groupId
                pure ⟨.duplicate, some latest, [], "fill id uniqueness rejected a duplicate"⟩
            | .conflict => onFillAttempts fill retries

/-- The result of a disabled coordinator. -/
def disabledResult : CoordinatorResult :=
  ⟨.disabled, none, [], "pair execution coordinator is disabled"⟩

def onFill (fill : CoordinatorFill) : CoordinatorProgram CoordinatorResult :=
  if coordinator.config.enabled = false then .done disabledResult
  else coordinator.onFillAttempts fill coordinator.config.maximumCasRetries

/-! ### `submit_plan` -/

/-- `_disabled_result`. -/
def disabledPlanResult (plan : OrderPlan) : Option CoordinatorResult :=
  if coordinator.config.enabled = false then some disabledResult
  else if plan.enabled = false then some ⟨.disabled, none, [], "order plan is disabled"⟩
  else if coordinator.config.researchOnly = true ∧ plan.researchOnly = false then
    some ⟨.failed, none, [], "research-only coordinator rejected a live-eligible plan"⟩
  else none

/-- `accepted_order_ids`. -/
def acceptedOrderIds (results : List (OrderLeg × ExecutionResult)) : Dict UUID String :=
  results.foldl (fun ids result =>
    if result.2.accepted then ids.set result.1.id (result.2.orderId.getD "") else ids) Dict.empty

/-- `rejected_leg_ids`. -/
def rejectedLegIds (results : List (OrderLeg × ExecutionResult)) : Finset UUID :=
  ((results.filter fun result => ¬ result.2.accepted).map fun result => result.1.id).toFinset

/-- `ambiguous_ids`. -/
def ambiguousIds (executions : List ExecutionResult) : List String :=
  (executions.filter ExecutionResult.ambiguous).filterMap ExecutionResult.orderId

/-- The fills of the paper executions, up to the first conflict. -/
def applyPaperFills (plan : OrderPlan) (executions : List ExecutionResult) (clock : Nat → Instant) :
    List (OrderLeg × ExecutionResult) → CoordinatorProgram (Option CoordinatorResult)
  | [] => .done none
  | (leg, execution) :: results =>
      if execution.paperFilled then do
        let fill ← Program.lift (paperFill plan.group.accountId plan.group.id leg.id execution
          (clock (results.length + 2)))
        let result ← coordinator.onFill fill
        if result.status = .conflict then pure (some { result with executions := executions })
        else applyPaperFills plan executions clock results
      else applyPaperFills plan executions clock results

/-- The end of `submit_plan`: the paper fills and the final load. -/
def finishSubmission (plan : OrderPlan) (executions : List ExecutionResult)
    (clock : Nat → Instant) : CoordinatorProgram CoordinatorResult := do
  let stopped ← coordinator.applyPaperFills plan executions clock (plan.legs.zip executions)
  match stopped with
  | some result => pure result
  | none => do
      let latest ← coordinator.loadGroupState plan.group.accountId plan.group.id
      pure ⟨statusForState latest, some latest, executions, ""⟩

/-- Some but not all legs were accepted. -/
def partiallyAccepted (plan : OrderPlan) (executions : List ExecutionResult) : Bool :=
  let accepted := (acceptedOrderIds (plan.legs.zip executions)).length
  accepted ≠ 0 && accepted ≠ plan.legs.length

/-- The orders that are cancelled before the batch is recorded. -/
def ordersToCancel (plan : OrderPlan) (executions : List ExecutionResult) : List String :=
  if partiallyAccepted plan executions ∨ ambiguousIds executions ≠ [] then
    (acceptedOrderIds (plan.legs.zip executions)).values ++ ambiguousIds executions
  else []

/-- The state that records the batch. -/
def recordedBatch (plan : OrderPlan) (executions : List ExecutionResult) (clock : Nat → Instant) :
    OrderGroupState :=
  let results := plan.legs.zip executions
  let recorded := recordSubmission (fromPlan plan) (acceptedOrderIds results)
    (rejectedLegIds results) (clock 0)
  if partiallyAccepted plan executions ∨
      executions.any fun execution => execution.status = .error then
    (freezeAfterHedgeFailure recorded
      "non-atomic batch legs did not all reach an accepted state" (clock 1)).1
  else recorded

/-- `submit_plan` after a batch with one result for each leg. -/
def recordBatch (plan : OrderPlan) (executions : List ExecutionResult) (clock : Nat → Instant) :
    CoordinatorProgram CoordinatorResult := do
  cancelAcceptedBestEffort (ordersToCancel plan executions)
  let committed ← coordinator.commitTransition plan.group.version
    (recordedBatch plan executions clock) "batch_leg_results"
  match committed with
  | none => do
      cancelAcceptedBestEffort (acceptedOrderIds (plan.legs.zip executions)).values
      pure ⟨.conflict, none, executions,
        "state CAS failed after batch response; accepted legs were cancelled"⟩
  | some _ => coordinator.finishSubmission plan executions clock

/-- `submit_plan` with a persisted plan and its submissions. -/
def submitBatch (plan : OrderPlan) (batch : List (TradeIntent × OrderBookSnapshot))
    (clock : Nat → Instant) : CoordinatorProgram CoordinatorResult := do
  let answered ← (await (.submitBatch batch)).attempt
  match answered with
  | .error exc => do
      let _ ← (await (.cancelAll "pair batch raised without a complete result")).attempt
      coordinator.freezeState (fromPlan plan) s!"batch submission was ambiguous: {exc.typeName}"
        (clock 0)
  | .ok executions =>
      if executions.length ≠ plan.legs.length then
        coordinator.freezeAfterAmbiguousBatch (fromPlan plan) executions
          "broker returned a malformed batch result count" (clock 0)
      else coordinator.recordBatch plan executions clock

def submitPlan (plan : OrderPlan) (books : String → Option OrderBookSnapshot) (runId : String)
    (clock : Nat → Instant) : CoordinatorProgram CoordinatorResult :=
  match coordinator.disabledPlanResult plan with
  | some disabled => .done disabled
  | none => do
      let persisted ← coordinator.persistPlan plan
      if persisted = false then do
        let state ← coordinator.loadGroupState plan.group.accountId plan.group.id
        pure ⟨.duplicate, some state, [], "order plan already exists"⟩
      else
        match coordinator.submissions plan books runId with
        | .error exc =>
            coordinator.freezeState (fromPlan plan) s!"intent construction failed: {exc.typeName}"
              (clock 0)
        | .ok batch => coordinator.submitBatch plan batch clock

/-! ### `process_deadline` -/

/-- The committed hedge submission: a paper fill is applied at once. -/
def finishHedge (accountId : String) (groupId : UUID) (leg : OrderLeg)
    (execution : ExecutionResult) (hedged : OrderGroupState) (action : OrderManagerAction)
    (occurredAt : Instant) : CoordinatorProgram CoordinatorResult :=
  if execution.paperFilled then do
    let fill ← Program.lift (paperFill accountId groupId leg.id execution occurredAt)
    let filled ← coordinator.onFill fill
    pure { filled with executions := [execution] }
  else pure ⟨statusForState hedged, some hedged, [execution], action.reason⟩

/-- Best-effort cancellation of one hedge order. -/
def cancelHedge (orderId : Option String) (reason : String) : CoordinatorProgram Unit :=
  match orderId with
  | none => .done ()
  | some orderId =>
      if orderId = "" then .done ()
      else do
        let _ ← (await (.cancelOrder orderId reason)).attempt
        pure ()

/-- `process_deadline` after the hedge was submitted. -/
def recordHedge (accountId : String) (groupId : UUID) (afterCancel : OrderGroupState)
    (leg : OrderLeg) (execution : ExecutionResult) (now : Option Instant) (clock : Nat → Instant) :
    CoordinatorProgram CoordinatorResult := do
  cancelHedge (if execution.ambiguous then execution.orderId else none)
    "ambiguous deterministic hedge result"
  let accepted := if execution.accepted then execution.orderId else none
  let recorded ← Program.lift
    ((recordHedgeSubmission afterCancel leg.id accepted (now.getD (clock 3))).mapError
      ManagerError.raised)
  let committed ← coordinator.commitTransition afterCancel.group.version recorded.1
    "hedge_submission_result"
  match committed with
  | none => do
      cancelHedge accepted "hedge state CAS conflict"
      pure ⟨.conflict, none, [execution],
        "hedge result CAS failed; targeted cancellation attempted"⟩
  | some hedged =>
      coordinator.finishHedge accountId groupId leg execution hedged recorded.2 (clock 4)

/-- `process_deadline` when the hedge could not be submitted. -/
def failHedge (afterCancel : OrderGroupState) (leg : OrderLeg) (exc : PyError)
    (timestamp : Instant) : CoordinatorProgram CoordinatorResult := do
  let recorded ← Program.lift
    ((recordHedgeSubmission afterCancel leg.id none timestamp).mapError ManagerError.raised)
  let committed ← coordinator.commitTransition afterCancel.group.version recorded.1
    "hedge_submission_exception"
  match committed with
  | none => pure ⟨.conflict, none, [], "hedge failed and freeze CAS also conflicted"⟩
  | some failed => pure ⟨.frozen, some failed, [], s!"hedge submission failed: {exc.typeName}"⟩

/-- `process_deadline` with a committed hedge leg. -/
def submitHedge (accountId : String) (groupId : UUID) (runId : String)
    (afterCancel : OrderGroupState) (leg : OrderLeg) (package : HedgePackage)
    (now : Option Instant) (clock : Nat → Instant) : CoordinatorProgram CoordinatorResult :=
  match coordinator.submission afterCancel.group leg package.book runId with
  | .error exc => coordinator.failHedge afterCancel leg exc (now.getD (clock 3))
  | .ok (intent, book) => do
      let answered ← (await (.submit intent book)).attempt
      match answered with
      | .error exc => coordinator.failHedge afterCancel leg exc (now.getD (clock 3))
      | .ok execution =>
          coordinator.recordHedge accountId groupId afterCancel leg execution now clock

/-- A quote that raised is no quote. -/
def quotedPackage (quoted : Except PyError (Option HedgePackage)) : Option HedgePackage :=
  match quoted with
  | .ok package => package
  | .error _ => none

/-- `process_deadline` with the reconciled state. -/
def hedgeReconciled (accountId : String) (groupId : UUID) (runId : String) (orderIds : List String)
    (reconciled : OrderGroupState) (hedgeLegId : UUID) (now : Option Instant)
    (clock : Nat → Instant) : CoordinatorProgram CoordinatorResult := do
  let quoted ← (await (.quote reconciled)).attempt
  let package := quotedPackage quoted
  let confirmed := coordinator.orderManager.confirmCancellations reconciled orderIds.toFinset
    (package.map HedgePackage.quote) hedgeLegId (now.getD (clock 2))
  let committed ← coordinator.commitTransition reconciled.group.version confirmed.1
    "cancel_reconciled"
  match committed with
  | none =>
      pure ⟨.conflict, none, [], "cancel reconciliation transition lost a state CAS race"⟩
  | some afterCancel =>
      if confirmed.2.action ≠ .submitHedge then
        pure ⟨statusForState afterCancel, some afterCancel, [], confirmed.2.reason⟩
      else
        match confirmed.2.hedgeLeg, package with
        | some leg, some package =>
            coordinator.submitHedge accountId groupId runId afterCancel leg package now clock
        | _, _ => .raised .assertionError

/-- `process_deadline` with committed cancellation requests. -/
def cancelExpired (accountId : String) (groupId : UUID) (runId : String)
    (cancelling : OrderGroupState) (orderIds : List String) (hedgeLegId : UUID)
    (now : Option Instant) (clock : Nat → Instant) : CoordinatorProgram CoordinatorResult := do
  let verified ← (await (.cancelOrders orderIds "pair leg deadline")).attempt
  match verified with
  | .ok true => do
      let loaded ← (coordinator.loadAfterCancelReconciliation accountId groupId orderIds).attempt
      match loaded with
      | .error exc =>
          coordinator.freezeState cancelling
            s!"cancel reconciliation barrier failed: {exc.typeName}" (clock 1)
      | .ok reconciled =>
          coordinator.hedgeReconciled accountId groupId runId orderIds reconciled hedgeLegId now
            clock
  | _ => coordinator.freezeState cancelling "targeted cancellation was not verifiable" (clock 1)

/-- `process_deadline` with the action of `on_leg_deadline`. -/
def expire (accountId : String) (groupId : UUID) (runId : String) (before : OrderGroupState)
    (cancelling : OrderGroupState) (action : OrderManagerAction) (hedgeLegId : UUID)
    (now : Option Instant) (clock : Nat → Instant) : CoordinatorProgram CoordinatorResult :=
  match action.action with
  | .none => .done ⟨.noop, some before, [], "group has no expired working legs"⟩
  | .cancelOrders => do
      let committed ← coordinator.commitTransition before.group.version cancelling
        "leg_deadline_cancel_pending"
      match committed with
      | none => pure ⟨.conflict, none, [], "deadline transition lost a state CAS race"⟩
      | some cancelling =>
          coordinator.cancelExpired accountId groupId runId cancelling action.orderIds hedgeLegId
            now clock
  | _ => do
      let committed ← coordinator.commitTransition before.group.version cancelling
        "leg_deadline_terminal"
      match committed with
      | none => pure ⟨.conflict, none, [], "deadline terminal transition lost a state CAS race"⟩
      | some cancelling => pure ⟨statusForState cancelling, some cancelling, [], action.reason⟩

def processDeadline (accountId : String) (groupId : UUID) (runId : String) (now : Option Instant)
    (hedgeLegId : UUID) (clock : Nat → Instant) : CoordinatorProgram CoordinatorResult :=
  if coordinator.config.enabled = false then .done disabledResult
  else do
    let before ← coordinator.loadGroupState accountId groupId
    let expired := onLegDeadline before (now.getD (clock 0))
    coordinator.expire accountId groupId runId before expired.1 expired.2 hedgeLegId now clock

end PairExecutionCoordinator

end Polybot
