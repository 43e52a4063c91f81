import Polybot.Execution.Coordinator
import Polybot.Interaction.Pool
import Polybot.Store.Accounting

/-!
The environment of the coordinator, and its concurrent operations.

The database answers the requests of the store. The exchange, the hedge provider
and the cancellation barrier are outside: they answer anything and leave the
database alone. Any request may fail, before it reached the database or after.
-/

namespace Polybot

open Interaction

/-- What answers a request outside of the database. -/
abbrev Outside : Type :=
  (request : CoordinatorRequest) → Except PyError request.Response

/-- The answer of a transaction: what raises is rolled back. -/
def transact {α : Type} (db : Database) (result : Except SqlError (α × Database)) :
    Except PyError α × Database :=
  match result with
  | .ok (answer, next) => (.ok answer, next)
  | .error problem => (.error (.apiError problem), db)

/-- Serve one request at the instant `now`. -/
def execute (markets : List MarketRow) (outside : Outside) (now : Instant) (db : Database) :
    (request : CoordinatorRequest) → Except PyError request.Response × Database
  | .selectGroup accountId groupId => (.ok (db.group? accountId groupId), db)
  | .marketIdentity dbMarketId => (Polybot.marketIdentity markets dbMarketId, db)
  | .selectLegs accountId groupId => (.ok (db.groupLegs accountId groupId), db)
  | .selectTradeIds accountId groupId => (.ok (db.tradeIds accountId groupId), db)
  | .resolveDbMarketId group => (Polybot.resolveDbMarketId markets group, db)
  | .persistPairOrderPlan accountId group scope legs =>
      transact db (Polybot.persistPairOrderPlan db accountId group scope legs)
  | .commitPairGroupTransition accountId expected group legs reason =>
      transact db (Polybot.commitPairGroupTransition db accountId expected group legs reason now)
  | .commitPairFill accountId expected fill group legs =>
      transact db (Polybot.commitPairFill db accountId expected fill group legs now)
  | .cancelReconciliationBarrier accountId orderIds =>
      (outside (.cancelReconciliationBarrier accountId orderIds), db)
  | .submitBatch submissions => (outside (.submitBatch submissions), db)
  | .submit intent book => (outside (.submit intent book), db)
  | .cancelOrders orderIds reason => (outside (.cancelOrders orderIds reason), db)
  | .cancelOrder orderId reason => (outside (.cancelOrder orderId reason), db)
  | .cancelAll reason => (outside (.cancelAll reason), db)
  | .quote state => (outside (.quote state), db)

/-- `Served markets db event next`: the event can happen in `db` and leaves
`next`. A request that fails was lost on its way or on its way back. -/
inductive Served (markets : List MarketRow) (db : Database) : CoordinatorEvent → Database → Prop where
  | answered (outside : Outside) (now : Instant) (request : CoordinatorRequest) :
      Served markets db ⟨request, (execute markets outside now db request).1⟩
        (execute markets outside now db request).2
  | unsent (request : CoordinatorRequest) (failure : PyError) :
      Served markets db ⟨request, .error failure⟩ db
  | unanswered (outside : Outside) (now : Instant) (request : CoordinatorRequest)
      (failure : PyError) :
      Served markets db ⟨request, .error failure⟩ (execute markets outside now db request).2

/-- An answer that the environment can give in some database. -/
def PossibleEvent (markets : List MarketRow) (event : CoordinatorEvent) : Prop :=
  ∃ db next, Served markets db event next

/-- Nothing is said about the value. -/
def Anything {α : Type} (_ : α) : Prop :=
  True

/-- The transactional function of a request. -/
def CoordinatorRequest.rpc? (now : Instant) : CoordinatorRequest → Option RpcCall
  | persistPairOrderPlan accountId group scope legs =>
      some (.persistPairOrderPlan accountId group scope legs)
  | commitPairGroupTransition accountId expected group legs reason =>
      some (.commitPairGroupTransition accountId expected group legs reason now)
  | commitPairFill accountId expected fill group legs =>
      some (.commitPairFill accountId expected fill group legs now)
  | _ => none

variable {markets : List MarketRow} {db next : Database}

theorem transact_snd {α : Type} {result : Except SqlError (α × Database)} :
    (transact db result).2 = db ∨ result.map Prod.snd = .ok (transact db result).2 := by
  cases result with
  | error problem => exact .inl rfl
  | ok value => exact .inr rfl

theorem transact_eq_ok {α : Type} {result : Except SqlError (α × Database)} {answer : α}
    (done : transact db result = (.ok answer, next)) : result = .ok (answer, next) := by
  cases result with
  | error problem => cases done
  | ok value =>
      cases done
      rfl

/-- A request changes the database through its transactional function or not at
all. -/
theorem execute_snd (outside : Outside) (now : Instant) (request : CoordinatorRequest) :
    (execute markets outside now db request).2 = db ∨ ∃ call, request.rpc? now = some call ∧
      RpcStep db call (execute markets outside now db request).2 := by
  cases request with
  | persistPairOrderPlan accountId group scope legs =>
      exact transact_snd.imp_right fun stepped => ⟨_, rfl, stepped⟩
  | commitPairGroupTransition accountId expected group legs reason =>
      exact transact_snd.imp_right fun stepped => ⟨_, rfl, stepped⟩
  | commitPairFill accountId expected fill group legs =>
      exact transact_snd.imp_right fun stepped => ⟨_, rfl, stepped⟩
  | _ => exact .inl rfl

theorem Served.rpc {event : CoordinatorEvent} (served : Served markets db event next) :
    next = db ∨ ∃ now call, event.request.rpc? now = some call ∧ RpcStep db call next := by
  cases served with
  | answered outside now request => exact (execute_snd outside now request).imp_right fun step => ⟨now, step⟩
  | unsent request failure => exact .inl rfl
  | unanswered outside now request failure =>
      exact (execute_snd outside now request).imp_right fun step => ⟨now, step⟩

theorem Served.consistent {event : CoordinatorEvent} (consistent : db.Consistent)
    (served : Served markets db event next) : next.Consistent := by
  rcases served.rpc with rfl | ⟨now, call, -, step⟩
  · exact consistent
  · exact step.consistent consistent

/-- The outcome of an answered request. -/
theorem Served.answered_ok {request : CoordinatorRequest} {response : request.Response}
    (served : Served markets db ⟨request, .ok response⟩ next) :
    ∃ outside now, execute markets outside now db request = (.ok response, next) := by
  generalize same : (⟨request, .ok response⟩ : CoordinatorEvent) = event at served
  cases served with
  | answered outside now other =>
      injection same with requests answers
      subst requests
      exact ⟨outside, now, Prod.ext (eq_of_heq answers).symm rfl⟩
  | unsent other failure =>
      injection same with requests answers
      subst requests
      cases eq_of_heq answers
  | unanswered outside now other failure =>
      injection same with requests answers
      subst requests
      cases eq_of_heq answers

theorem Served.persist_ok {accountId : String} {group : GroupPayload} {scope : PlanScope}
    {legs : List OrderLeg} {persisted : Bool}
    (served : Served markets db ⟨.persistPairOrderPlan accountId group scope legs, .ok persisted⟩
      next) : Persisted db accountId group scope legs persisted next := by
  obtain ⟨_, _, answered⟩ := served.answered_ok
  exact persistPairOrderPlan_ok (transact_eq_ok answered)

theorem Served.transition_ok {accountId : String} {expected : Nat} {group : GroupPayload}
    {legs : List OrderLeg} {reason : String} {committed : Bool}
    (served : Served markets db
      ⟨.commitPairGroupTransition accountId expected group legs reason, .ok committed⟩ next) :
    ∃ now, Transitioned db accountId expected group legs now committed next := by
  obtain ⟨_, now, answered⟩ := served.answered_ok
  exact ⟨now, commitPairGroupTransition_ok (transact_eq_ok answered)⟩

theorem Served.fill_ok {accountId : String} {expected : Nat} {fill : FillPayload}
    {group : GroupPayload} {legs : List OrderLeg} {answer : AtomicFillCommit}
    (served : Served markets db ⟨.commitPairFill accountId expected fill group legs, .ok answer⟩
      next) : ∃ now, FillCommitted db accountId expected fill group legs now answer next := by
  obtain ⟨_, now, answered⟩ := served.answered_ok
  exact ⟨now, commitPairFill_ok (transact_eq_ok answered)⟩

/-! ### Operations -/

/-- A call of the coordinator. -/
inductive CoordinatorOperation where
  | submitPlan (plan : OrderPlan) (books : String → Option OrderBookSnapshot) (runId : String)
      (clock : Nat → Instant)
  | onFill (fill : CoordinatorFill)
  | processDeadline (accountId : String) (groupId : UUID) (runId : String) (now : Option Instant)
      (hedgeLegId : UUID) (clock : Nat → Instant)

/-- The program of a call. -/
def CoordinatorOperation.program (coordinator : PairExecutionCoordinator) :
    CoordinatorOperation → CoordinatorProgram CoordinatorResult
  | submitPlan plan books runId clock => coordinator.submitPlan plan books runId clock
  | onFill fill => coordinator.onFill fill
  | processDeadline accountId groupId runId now hedgeLegId clock =>
      coordinator.processDeadline accountId groupId runId now hedgeLegId clock

/-- The plan that is submitted, if there is one, starts unfilled. -/
def CoordinatorOperation.StartsUnfilled : CoordinatorOperation → Prop
  | submitPlan plan _ _ _ => plan.Unfilled
  | _ => True

/-- One process: a coordinator and the call it runs. -/
structure Worker where
  coordinator : PairExecutionCoordinator
  operation : CoordinatorOperation

def Worker.program (worker : Worker) : CoordinatorProgram CoordinatorResult :=
  worker.operation.program worker.coordinator

/-- The pool of the workers, over a database. -/
abbrev CoordinatorPool (ι : Type) : Type :=
  Pool CoordinatorRequest CoordinatorRequest.Response PyError CoordinatorResult Database ι

/-- The workers before their first request. -/
def poolOf {ι : Type} (db : Database) (workers : ι → Worker) : CoordinatorPool ι :=
  Pool.start db fun i => (workers i).program

/-! ### An exchange -/

/-- A factory that repeats the leg in the intent. -/
def repeatLeg (group : OrderGroup) (leg : OrderLeg) (_ : OrderBookSnapshot) (_ : String) :
    Except PyError TradeIntent :=
  .ok ⟨leg.tokenId, group.accountId, .paper, group.marketId, leg.tokenId, leg.outcome, leg.side,
    leg.price, leg.size, group.strategy, leg.postOnly⟩

/-- The coordinator of the account of `researchPlan`. -/
def researchCoordinator : PairExecutionCoordinator :=
  ⟨"account", true, repeatLeg, .standard, ⟨true, true, 3, by decide⟩⟩

/-- A wide book of a token. -/
def wideBook (tokenId : String) : OrderBookSnapshot :=
  ⟨tokenId, "market", [⟨1 / 100, 100⟩], [⟨99 / 100, 100⟩]⟩

/-- An order accepted under the token's name. -/
def acceptedResult (intent : TradeIntent) : ExecutionResult :=
  ⟨intent.intentHash, .accepted, some (intent.tokenId ++ "-order"), 0, none, ""⟩

/-- A quote of 100 NO at a half. -/
def researchQuote : HedgePackage where
  quote := ⟨.no, "no", 1 / 2, 100, 0, by decide, Literal.half_bounds, by decide +kernel, Literal.zero_nonneg⟩
  book := wideBook "no"

/-- An exchange that accepts every order and verifies every cancellation, and a
provider that quotes NO. -/
def researchExchange : Outside
  | .submitBatch submissions => .ok (submissions.map fun submission => acceptedResult submission.1)
  | .submit intent _ => .ok (acceptedResult intent)
  | .cancelOrders _ _ => .ok true
  | .cancelOrder _ _ => .ok true
  | .cancelAll _ => .ok true
  | .cancelReconciliationBarrier _ _ => .ok ()
  | .quote _ => .ok (some researchQuote)
  | _ => .error .assertionError

/-- Serve every request, at the instant 7. -/
def serveResearch (db : Database) (request : CoordinatorRequest) :
    Except PyError request.Response × Database :=
  execute researchMarkets researchExchange 7 db request

theorem serveResearch_served (db : Database) (request : CoordinatorRequest) :
    Served researchMarkets db ⟨request, (serveResearch db request).1⟩ (serveResearch db request).2 :=
  .answered _ _ _

/-- The filled sizes of the legs. -/
def Database.filledSizes (db : Database) : List ℚ :=
  db.legs.map fun row => row.leg.filledSize

/-- Submit `researchPlan`. -/
def submitResearchPlan : Worker :=
  ⟨researchCoordinator,
    .submitPlan researchPlan (fun tokenId => some (wideBook tokenId)) "run" fun _ => 1⟩

/-- Deliver a fill of one share. -/
def deliverResearchFill (fillId : String) (legId : UUID) (nonempty : fillId ≠ "") : Worker :=
  ⟨researchCoordinator, .onFill (researchFill fillId 1 legId nonempty)⟩

/-- Process the deadline of `researchPlan` after it has passed. -/
def processResearchDeadline (hedgeLegId : UUID) : Worker :=
  ⟨researchCoordinator, .processDeadline "account" 1 "run" (some 3000000) hedgeLegId fun _ => 3000000⟩

end Polybot
