import Polybot.Execution.Serving
import Polybot.Interaction.Handler
import Polybot.Reconcile.Delivery

/-!
The fill callback of a pair account (`stores/pair_supabase.py`).

The callback resolves a trade to the leg whose order it filled and passes the fill on to
the coordinator. Here it answers the callback requests of `_reconcile_trade_and_notify`,
so that its reads, and those of `on_fill`, are requests of their own: what the
coordinator commits meanwhile can fall between them.
-/

namespace Polybot

open Checked Interaction

/-! ### Requests -/

/-- What the reconciler, the callback and the coordinator await. -/
inductive BridgeRequest where
  | reconciler (request : PassRequest)
  | pairs (request : CoordinatorRequest)
  | legsOfOrders (accountId : String) (clobOrderIds : List String)

def BridgeRequest.Response : BridgeRequest → Type
  | reconciler request => request.Response
  | pairs request => request.Response
  | legsOfOrders _ _ => List OrderLeg

/-- An exception, as the reconciler and its store raise it or as the pair lifecycle does. -/
inductive BridgeError where
  | settlement (problem : SettlementError)
  | pair (problem : PyError)
  deriving DecidableEq

abbrev BridgeProgram (α : Type) : Type :=
  Program BridgeRequest BridgeRequest.Response BridgeError α

abbrev BridgeEvent : Type :=
  Event BridgeRequest BridgeRequest.Response BridgeError

/-- `type(exc).__name__`. -/
def SettlementError.typeName : SettlementError → String
  | raised (.incompleteFillLedger _) => "IncompleteFillLedgerError"
  | raised (.runtimeError _) => "RuntimeError"
  | raised .checkViolation => "APIError"
  | foreign typeName => typeName

/-- The exception for the reconciler. -/
def BridgeError.asSettlement : BridgeError → SettlementError
  | settlement problem => problem
  | pair problem => .foreign problem.typeName

/-- The exception for the pair lifecycle. -/
def BridgeError.asPython : BridgeError → PyError
  | settlement problem => .foreign problem.typeName
  | pair problem => problem

/-- Raise an exception of the pair lifecycle. -/
def raisePair {α : Type} (problem : PyError) : BridgeProgram α :=
  .raised (.pair problem)

/-- An operation of the coordinator, next to a reconciler. -/
def besideReconciler {α : Type} (program : CoordinatorProgram α) : BridgeProgram α :=
  program.handle (fun request => Program.ask (BridgeRequest.pairs request)) BridgeError.asPython
    BridgeError.pair

/-! ### `coordinator_fill_for_trade` -/

/-- The trade failed, in any case of letters. -/
@[irreducible] def UserTradeUpdate.failed (update : UserTradeUpdate) : Bool :=
  Text.upper (Text.removeprefix update.status "TRADE_STATUS_") = "FAILED"

/-- The fill of a trade, for the leg. -/
def coordinatorFill (accountId : String) (leg : OrderLeg) (update : UserTradeUpdate) :
    Except PyError CoordinatorFill :=
  if named : update.clobTradeId = "" then .error (.validationError (.field "fill_id"))
  else if account : accountId = "" then .error (.validationError (.field "account_id"))
  else
    .ok ⟨update.clobTradeId, accountId, leg.groupId, leg.id, update.size, update.price,
      matchedTakerFeeUsd update.size update.price update.feeRateBps update.traderSide,
      update.matchedAt, named, account, update.size_pos, ⟨update.price_pos, update.price_lt_one⟩,
      update.takerFee_nonneg⟩

/-- The fill of a trade that resolved to one leg. -/
def fillOfLeg (accountId : String) (leg : OrderLeg) (update : UserTradeUpdate) :
    BridgeProgram (Option CoordinatorFill) := do
  let (found : Option GroupRow) ←
    Program.ask (BridgeRequest.pairs (.selectGroup accountId leg.groupId))
  match found with
  | none => raisePair (.valueError "pair order leg has no tenant-scoped durable group")
  | some row => do
      let (identity : String × Option String) ←
        Program.ask (BridgeRequest.pairs (.marketIdentity row.marketId))
      if identity.2 ≠ some update.conditionId then
        raisePair (.valueError "reconciled trade condition differs from its pair order group")
      else do
        let fill ← Program.lift ((coordinatorFill accountId leg update).mapError BridgeError.pair)
        pure (some fill)

/-- `coordinator_fill_for_trade`. -/
def coordinatorFillForTrade (accountId : String) (update : UserTradeUpdate) :
    BridgeProgram (Option CoordinatorFill) :=
  if update.failed = true then .done none
  else do
    let (rows : List OrderLeg) ←
      Program.ask (BridgeRequest.legsOfOrders accountId update.candidateOrderIds)
    if rows = [] then pure none
    else
      match rows.filter fun leg => leg.tokenId = update.tokenId ∧ leg.side = update.side with
      | [leg] => fillOfLeg accountId leg update
      | _ =>
          raisePair (.valueError "reconciled trade does not resolve to exactly one pair order leg")

/-! ### `PairReconciledFillCallback` -/

/-- `CoordinatorStatus.value`. -/
def CoordinatorStatus.value : CoordinatorStatus → String
  | disabled => "disabled"
  | duplicate => "duplicate"
  | submitted => "submitted"
  | working => "working"
  | paired => "paired"
  | frozen => "frozen"
  | failed => "failed"
  | conflict => "conflict"
  | noop => "noop"

/-- The fill was not applied, as far as the result tells. -/
def CoordinatorStatus.Refused (status : CoordinatorStatus) : Prop :=
  status ∈ [CoordinatorStatus.conflict, .failed, .disabled]

instance CoordinatorStatus.decidableRefused (status : CoordinatorStatus) :
    Decidable status.Refused :=
  inferInstanceAs (Decidable (_ ∈ _))

/-- The callback: the account of its store, and the coordinator. -/
structure PairReconciledFillCallback where
  accountId : String
  coordinator : PairExecutionCoordinator

/-- What the callback does with a fill. -/
def PairReconciledFillCallback.deliver (callback : PairReconciledFillCallback)
    (fill : CoordinatorFill) : BridgeProgram Unit := do
  let result ← besideReconciler (callback.coordinator.onFill fill)
  if result.status.Refused then
    raisePair (.runtimeError
      s!"pair fill callback did not durably apply {fill.fillId}: {result.status.value}")
  else pure ()

/-- `PairReconciledFillCallback.__call__`. -/
def PairReconciledFillCallback.call (callback : PairReconciledFillCallback)
    (update : UserTradeUpdate) : BridgeProgram Unit := do
  let resolved ← coordinatorFillForTrade callback.accountId update
  match resolved with
  | none => pure ()
  | some fill => callback.deliver fill

/-- How the requests of the reconciler are answered: the callback by its program. -/
def PairReconciledFillCallback.handler (callback : PairReconciledFillCallback) :
    (request : PassRequest) → BridgeProgram request.Response
  | .fillCallback update => callback.call update
  | request => Program.ask (BridgeRequest.reconciler request)

/-- `_reconcile_trade_and_notify`, with the callback. -/
def PairReconciledFillCallback.reconcileTradeAndNotify (callback : PairReconciledFillCallback)
    (config : ReconcilerConfig) (update : UserTradeUpdate) : BridgeProgram Unit :=
  (Polybot.reconcileTradeAndNotify config update).handle callback.handler BridgeError.asSettlement
    BridgeError.settlement

/-! ### The environment -/

/-- The memory of the reconciler, and the pair tables. -/
structure BridgeState where
  reconciler : Reconciler
  pairs : Database

/-- The leg rows of the account with one of the order ids. -/
def Database.legsOfOrders (db : Database) (accountId : String) (clobOrderIds : List String) :
    List OrderLeg :=
  (db.legs.filter fun row => row.accountId = accountId ∧
    clobOrderIds.any fun orderId => row.leg.clobOrderId = some orderId).map LegRow.leg

/-- How a request can be served. -/
inductive BridgeServe (markets : List MarketRow) (state : BridgeState) :
    BridgeEvent → BridgeState → Prop where
  | reconciled {request : PassRequest} {answer : Except SettlementError request.Response}
      {next : Reconciler} : PassServe state.reconciler ⟨request, answer⟩ next →
      BridgeServe markets state ⟨.reconciler request, answer.mapError BridgeError.settlement⟩
        { state with reconciler := next }
  | paired {request : CoordinatorRequest} {answer : Except PyError request.Response}
      {next : Database} : Served markets state.pairs ⟨request, answer⟩ next →
      BridgeServe markets state ⟨.pairs request, answer.mapError BridgeError.pair⟩
        { state with pairs := next }
  | selected (accountId : String) (clobOrderIds : List String) :
      BridgeServe markets state
        ⟨.legsOfOrders accountId clobOrderIds, .ok (state.pairs.legsOfOrders accountId clobOrderIds)⟩
        state
  | unselected (accountId : String) (clobOrderIds : List String) (problem : BridgeError) :
      BridgeServe markets state ⟨.legsOfOrders accountId clobOrderIds, .error problem⟩ state

/-- A call: the reconciler settles an update, or a coordinator operates. -/
inductive BridgeCall where
  | trade (update : UserTradeUpdate)
  | operation (worker : Worker)

/-- The program of a call. -/
def BridgeCall.program (callback : PairReconciledFillCallback) (config : ReconcilerConfig) :
    BridgeCall → BridgeProgram (Option CoordinatorResult)
  | trade update => do
      let _ ← callback.reconcileTradeAndNotify config update
      pure none
  | operation worker => do
      let result ← besideReconciler worker.program
      pure (some result)

abbrev BridgePool (ι : Type) : Type :=
  Pool BridgeRequest BridgeRequest.Response BridgeError (Option CoordinatorResult) BridgeState ι

/-- Calls of a new reconciler and of the coordinators, in any number. -/
def bridgePool {ι : Type} (callback : PairReconciledFillCallback) (config : ReconcilerConfig)
    (tables : FootprintTable → DurableTable) (db : Database) (calls : ι → BridgeCall) :
    BridgePool ι :=
  Pool.start ⟨.start tables, db⟩ fun i => (calls i).program callback config

end Polybot
