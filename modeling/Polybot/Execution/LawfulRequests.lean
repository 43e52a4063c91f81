import Polybot.Execution.Serving

/-!
What the coordinator asks of the store.

A plan is persisted as it was built, a transition carries valid legs, and a fill
carries an average price for every filled leg, whatever the environment answers.
The legs of a transition are valid because a loaded state is validated and the
operations of the order manager other than `record_fill` keep legs valid.
-/

namespace Polybot

open Checked Interaction

/-! ### Legs -/

/-- Every leg of the state is one pydantic accepts. -/
def OrderGroupState.LegsValid (state : OrderGroupState) : Prop :=
  ∀ leg ∈ state.legs, leg.Valid

/-- A leg that only moves to a status without a condition of its own stays
valid. -/
theorem OrderLeg.Valid.inStatus {leg : OrderLeg} (valid : leg.Valid) {status : OrderLegStatus}
    (unconditional : status ∉ [OrderLegStatus.open, .partiallyFilled, .filled])
    (timestamp : Instant) : (leg.inStatus status timestamp).Valid := by
  obtain ⟨fields, shape⟩ := valid
  simp only [List.mem_cons, List.not_mem_nil, or_false, not_or] at unconditional
  refine ⟨⟨fields.token, fields.price, fields.size, fields.filled, fields.average, fields.fee,
    Nat.succ_pos _⟩, shape.within, shape.priced, shape.unpriced, shape.maker, shape.taker, ?_, ?_⟩
  · intro full
    exact absurd full unconditional.2.2
  · rintro (isOpen | partly)
    · exact absurd isOpen unconditional.1
    · exact absurd partly unconditional.2.1

theorem OrderLeg.Valid.acknowledged {leg : OrderLeg} (valid : leg.Valid) {orderId : String}
    (nonempty : orderId ≠ "") (timestamp : Instant) : (leg.acknowledged orderId timestamp).Valid := by
  obtain ⟨fields, shape⟩ := valid
  refine ⟨⟨fields.token, fields.price, fields.size, fields.filled, fields.average, fields.fee,
    Nat.succ_pos _⟩, shape.within, shape.priced, shape.unpriced, shape.maker, shape.taker, ?_, ?_⟩
  · intro full
    cases full
  · intro _
    exact truthy_iff.mpr ⟨orderId, rfl, nonempty⟩

/-- The accepted ids are not empty. -/
theorem acceptedOrderIds_nonempty {results : List (OrderLeg × ExecutionResult)} {legId : UUID}
    {orderId : String}
    (found : (PairExecutionCoordinator.acceptedOrderIds results).get? legId = some orderId) :
    orderId ≠ "" := by
  unfold PairExecutionCoordinator.acceptedOrderIds at found
  suffices step : ∀ ids : Dict UUID String, (∀ key text, ids.get? key = some text → text ≠ "") →
      ∀ key text, (results.foldl (fun ids result =>
        if result.2.accepted then ids.set result.1.id (result.2.orderId.getD "") else ids)
          ids).get? key = some text → text ≠ "" by
    exact step Dict.empty (fun _ _ none => by simp [Dict.get?, Dict.empty] at none) legId orderId found
  clear found
  induction results with
  | nil => exact fun ids nonempty => nonempty
  | cons result results ih =>
      intro ids nonempty
      refine ih _ fun key text here => ?_
      dsimp only at here
      split at here
      · rename_i accepted
        rw [Dict.get?_set] at here
        split at here
        · unfold ExecutionResult.accepted at accepted
          obtain ⟨_, named⟩ := Bool.and_eq_true_iff.mp accepted
          obtain ⟨name, known, filled⟩ := truthy_iff.mp named
          rw [known] at here
          cases here
          exact filled
        · exact nonempty key text here
      · exact nonempty key text here

namespace OrderGroupState.LegsValid

variable {state : OrderGroupState}

theorem fromPlan (plan : OrderPlan) : (Polybot.fromPlan plan).LegsValid :=
  fun _ member => plan.legs_valid member

theorem normalized (valid : state.LegsValid) (version : Nat) : (state.normalized version).LegsValid :=
  valid

theorem freeze (valid : state.LegsValid) (reason : String) (timestamp : Instant) :
    (freezeAfterHedgeFailure state reason timestamp).1.LegsValid :=
  valid

theorem recordSubmission (valid : state.LegsValid) {accepted : Dict UUID String}
    (nonempty : ∀ legId orderId, accepted.get? legId = some orderId → orderId ≠ "")
    (rejected : Finset UUID) (timestamp : Instant) :
    (Polybot.recordSubmission state accepted rejected timestamp).LegsValid := by
  intro leg member
  obtain ⟨source, inLegs, rfl⟩ := List.mem_map.mp member
  unfold submittedLeg
  split
  · rename_i orderId found
    exact (valid source inLegs).acknowledged (nonempty _ _ found) timestamp
  · split
    · exact (valid source inLegs).inStatus (by decide) timestamp
    · exact valid source inLegs

theorem terminalWithoutWorkingOrders (valid : state.LegsValid) (timestamp : Instant) :
    (Polybot.terminalWithoutWorkingOrders state timestamp).1.LegsValid := by
  unfold Polybot.terminalWithoutWorkingOrders
  dsimp only
  repeat' split
  all_goals exact valid

theorem onLegDeadline (valid : state.LegsValid) (timestamp : Instant) :
    (Polybot.onLegDeadline state timestamp).1.LegsValid := by
  have mapped : OrderGroupState.LegsValid
      { state with legs := state.legs.map (deadlineLeg timestamp) } := by
    intro leg member
    obtain ⟨source, inLegs, rfl⟩ := List.mem_map.mp member
    unfold deadlineLeg
    split
    · exact (valid source inLegs).inStatus (by decide) timestamp
    · exact valid source inLegs
  unfold Polybot.onLegDeadline
  repeat' split
  · exact valid
  · exact mapped
  · exact mapped.terminalWithoutWorkingOrders timestamp

theorem confirmCancellations (manager : PairOrderManager) (valid : state.LegsValid)
    (cancelled : Finset String) (quote : Option HedgeQuote) (hedgeLegId : UUID)
    (timestamp : Instant) :
    (manager.confirmCancellations state cancelled quote hedgeLegId timestamp).1.LegsValid := by
  have mapped : (refreshInventory
      { state with legs := state.legs.map (confirmedLeg cancelled timestamp) } timestamp
      true).LegsValid := by
    intro leg member
    obtain ⟨source, inLegs, rfl⟩ := List.mem_map.mp member
    unfold confirmedLeg
    split
    · exact (valid source inLegs).inStatus (by decide) timestamp
    · exact valid source inLegs
  unfold PairOrderManager.confirmCancellations PairOrderManager.hedgeOrSettle
  dsimp only
  split
  · exact mapped
  · split
    · exact mapped.terminalWithoutWorkingOrders timestamp
    · rename_i imbalanced
      split
      · exact mapped
      · split
        · intro leg member
          rcases List.mem_append.mp member with old | new
          · exact mapped leg old
          · rw [List.mem_singleton.mp new]
            exact manager.hedgeLeg_valid _ _ hedgeLegId timestamp imbalanced
        · exact mapped

theorem recordHedgeSubmission (valid : state.LegsValid) {hedgeLegId : UUID}
    {orderId : Option String} {timestamp : Instant} {result : OrderGroupState × OrderManagerAction}
    (accepted : Polybot.recordHedgeSubmission state hedgeLegId orderId timestamp = .ok result) :
    result.1.LegsValid := by
  have mapped : ∀ leg ∈ state.legs.map (hedgeSubmittedLeg hedgeLegId orderId timestamp),
      leg.Valid := by
    intro leg member
    obtain ⟨source, inLegs, rfl⟩ := List.mem_map.mp member
    unfold hedgeSubmittedLeg
    split
    · exact valid source inLegs
    · split
      · rename_i named
        obtain ⟨text, rfl, nonempty⟩ := truthy_iff.mp named
        exact (valid source inLegs).acknowledged nonempty timestamp
      · exact (valid source inLegs).inStatus (by decide) timestamp
  obtain ⟨-, -, rfl⟩ := recordHedgeSubmission_ok_iff.mp accepted
  dsimp only
  split
  · exact mapped
  · exact mapped

/-- After a fill every filled leg has an average price. -/
theorem recordFill_priced (valid : state.LegsValid) {fillId : String} {legId : UUID}
    {size price feeUsd : ℚ} {timestamp : Instant} {result : OrderGroupState}
    (fresh : fillId ∉ state.seenFillIds)
    (accepted : recordFill state fillId legId size price feeUsd timestamp = .ok result) :
    ∀ leg ∈ result.legs, 0 < leg.filledSize → leg.averageFillPrice ≠ none := by
  obtain ⟨-, -, -, rfl⟩ := (recordFill_ok_iff fresh).mp accepted
  intro leg member filled
  obtain ⟨source, inLegs, rfl⟩ := List.mem_map.mp member
  unfold filledLeg at filled ⊢
  split
  · exact Option.some_ne_none _
  · rename_i other
    rw [if_neg other] at filled
    exact (valid source inLegs).shape.priced filled

end OrderGroupState.LegsValid

/-! ### Requests -/

/-- What the coordinator sends to the transactional functions. -/
def Lawful (markets : List MarketRow) : CoordinatorRequest → Prop
  | .persistPairOrderPlan accountId group scope legs => ∃ plan : OrderPlan, plan.Unfilled ∧
      plan.group.accountId = accountId ∧ group = groupPayload plan.group ∧ legs = plan.legs ∧
      ∃ market ∈ markets, market.id = scope.marketId
  | .commitPairGroupTransition _ _ _ legs _ => ∀ leg ∈ legs, leg.Valid
  | .commitPairFill _ _ _ _ legs =>
      ∀ leg ∈ legs, 0 < leg.filledSize → leg.averageFillPrice ≠ none
  | _ => True

/-- The program sends lawful requests only, and returns a value that satisfies
`Post`. -/
abbrev LawfulProgram {α : Type} (markets : List MarketRow) (program : CoordinatorProgram α)
    (Post : α → Prop) : Prop :=
  program.Uses (PossibleEvent markets) (Lawful markets) Post

namespace PairExecutionCoordinator

variable (coordinator : PairExecutionCoordinator) {markets : List MarketRow}

/-- A request that is lawful by itself. -/
theorem await_lawful {request : CoordinatorRequest} (lawful : Lawful markets request) :
    LawfulProgram markets (await request) Anything :=
  .ask lawful fun _ _ => trivial

theorem attempt_lawful {request : CoordinatorRequest} (lawful : Lawful markets request) :
    LawfulProgram markets (await request).attempt Anything :=
  .attempt (await_lawful lawful) fun _ => trivial

theorem lift_lawful {α : Type} (computed : Except PyError α) :
    LawfulProgram markets (Program.lift computed) fun value => computed = .ok value :=
  .lift fun _ same => same

theorem persistPlan_lawful {plan : OrderPlan} (unfilled : plan.Unfilled) :
    LawfulProgram markets (coordinator.persistPlan plan) Anything := by
  unfold persistPlan
  refine .bind (lift_lawful _) fun walletId checked => ?_
  have account : plan.group.accountId = coordinator.accountId := by
    unfold planWallet requireAccount at checked
    exact (require_bind_ok_iff.mp checked).1
  have resolved : LawfulProgram markets (await (.resolveDbMarketId plan.group)) fun marketId : String =>
      ∃ market ∈ markets, market.id = marketId := by
    refine .ask trivial fun marketId possible => ?_
    obtain ⟨db, next, served⟩ := possible
    obtain ⟨outside, now, answered⟩ := served.answered_ok
    have found : resolveDbMarketId markets plan.group = .ok marketId := congrArg Prod.fst answered
    unfold resolveDbMarketId at found
    dsimp only at found
    split at found
    · cases found
    · rename_i row inMarkets
      cases found
      exact ⟨row, List.mem_of_find?_eq_some inMarkets, rfl⟩
  exact .bind resolved fun marketId known =>
    await_lawful ⟨plan, unfilled, account, rfl, rfl, known⟩

theorem loadGroup_lawful (groupId : UUID) (found : Option GroupRow) :
    LawfulProgram markets (loadGroup groupId found) Anything := by
  unfold loadGroup
  cases found with
  | none => trivial
  | some row => exact .bind (await_lawful trivial) fun _ _ => (lift_lawful _).mono fun _ _ => trivial

/-- A loaded state has valid legs. -/
theorem loadGroupState_lawful (accountId : String) (groupId : UUID) :
    LawfulProgram markets (coordinator.loadGroupState accountId groupId)
      OrderGroupState.LegsValid := by
  unfold loadGroupState
  refine .bind (lift_lawful _) fun _ _ => .bind (await_lawful trivial) fun found _ =>
    .bind (loadGroup_lawful groupId found) fun group _ => .bind (await_lawful trivial) fun rows _ =>
    .bind (lift_lawful _) fun legs loaded => .bind (await_lawful trivial) fun tradeIds _ =>
    (lift_lawful _).mono fun state assembled => ?_
  obtain ⟨valid, rfl⟩ := loadedLegs_ok_iff.mp loaded
  obtain ⟨-, -, rfl⟩ := assembledState_ok_iff.mp assembled
  intro leg member
  exact valid leg ((List.perm_insertionSort OrderLeg.CreatedBefore rows).mem_iff.mp member)

theorem commitTransition_lawful (expected : Nat) {state : OrderGroupState} (valid : state.LegsValid)
    (reason : String) :
    LawfulProgram markets (coordinator.commitTransition expected state reason) fun committed =>
      ∀ next ∈ committed, next.LegsValid := by
  unfold commitTransition
  refine .bind (lift_lawful _) fun _ _ => .bind (await_lawful valid) fun committed _ => ?_
  intro next here
  split at here
  · cases here
    exact valid
  · cases here

theorem commitFill_lawful (expected : Nat) (fill : CoordinatorFill) {state : OrderGroupState}
    (priced : ∀ leg ∈ state.legs, 0 < leg.filledSize → leg.averageFillPrice ≠ none) :
    LawfulProgram markets (coordinator.commitFill expected fill state) Anything :=
  .bind (lift_lawful _) fun _ _ => await_lawful priced

theorem loadAfterCancelReconciliation_lawful (accountId : String) (groupId : UUID)
    (orderIds : List String) :
    LawfulProgram markets (coordinator.loadAfterCancelReconciliation accountId groupId orderIds)
      OrderGroupState.LegsValid := by
  unfold loadAfterCancelReconciliation
  exact .bind (lift_lawful _) fun _ _ => .bind (lift_lawful _) fun _ _ =>
    .bind (await_lawful trivial) fun _ _ =>
    .bind (coordinator.loadGroupState_lawful accountId groupId) fun state valid =>
    .bind (lift_lawful _) fun _ _ => valid

theorem cancelAcceptedBestEffort_lawful (orderIds : List String) :
    LawfulProgram markets (cancelAcceptedBestEffort orderIds) Anything := by
  unfold cancelAcceptedBestEffort
  split
  · trivial
  · exact .bind (attempt_lawful trivial) fun _ _ => trivial

theorem freezeState_lawful {state : OrderGroupState} (valid : state.LegsValid) (reason : String)
    (timestamp : Instant) :
    LawfulProgram markets (coordinator.freezeState state reason timestamp) Anything :=
  .bind (coordinator.commitTransition_lawful _ (valid.freeze reason timestamp) _) fun _ _ => trivial

theorem freezeAfterAmbiguousBatch_lawful {state : OrderGroupState} (valid : state.LegsValid)
    (executions : List ExecutionResult) (reason : String) (timestamp : Instant) :
    LawfulProgram markets
      (coordinator.freezeAfterAmbiguousBatch state executions reason timestamp) Anything :=
  .bind (cancelAcceptedBestEffort_lawful _) fun _ _ =>
    .bind (coordinator.freezeState_lawful valid reason timestamp) fun _ _ => trivial

/-! ### Fills -/

theorem onFillAttempts_lawful (fill : CoordinatorFill) (retries : Nat) :
    LawfulProgram markets (coordinator.onFillAttempts fill retries) Anything := by
  induction retries with
  | zero => trivial
  | succ retries ih =>
      unfold onFillAttempts
      refine .bind (coordinator.loadGroupState_lawful _ _) fun before valid => ?_
      split
      · trivial
      · rename_i fresh
        split
        · trivial
        · rename_i after accepted
          refine .bind (coordinator.commitFill_lawful _ fill (valid.recordFill_priced fresh accepted))
            fun committed _ => ?_
          cases committed with
          | applied => trivial
          | duplicate => exact .bind (coordinator.loadGroupState_lawful _ _) fun _ _ => trivial
          | conflict => exact ih

theorem onFill_lawful (fill : CoordinatorFill) :
    LawfulProgram markets (coordinator.onFill fill) Anything := by
  unfold onFill
  split
  · trivial
  · exact coordinator.onFillAttempts_lawful fill _

/-! ### `submit_plan` -/

theorem applyPaperFills_lawful (plan : OrderPlan) (executions : List ExecutionResult)
    (clock : Nat → Instant) (results : List (OrderLeg × ExecutionResult)) :
    LawfulProgram markets (coordinator.applyPaperFills plan executions clock results) Anything := by
  induction results with
  | nil => trivial
  | cons result results ih =>
      unfold applyPaperFills
      split
      · refine .bind (lift_lawful _) fun fill _ => .bind (coordinator.onFill_lawful fill) fun _ _ => ?_
        split
        · trivial
        · exact ih
      · exact ih

theorem finishSubmission_lawful (plan : OrderPlan) (executions : List ExecutionResult)
    (clock : Nat → Instant) :
    LawfulProgram markets (coordinator.finishSubmission plan executions clock) Anything := by
  unfold finishSubmission
  refine .bind (coordinator.applyPaperFills_lawful plan executions clock _) fun stopped _ => ?_
  cases stopped with
  | some result => trivial
  | none => exact .bind (coordinator.loadGroupState_lawful _ _) fun _ _ => trivial

/-- The recorded batch has valid legs: an accepted leg gets an id. -/
theorem recordedBatch_valid (plan : OrderPlan) (executions : List ExecutionResult)
    (clock : Nat → Instant) : (recordedBatch plan executions clock).LegsValid := by
  have recorded : (recordSubmission (fromPlan plan) (acceptedOrderIds (plan.legs.zip executions))
      (rejectedLegIds (plan.legs.zip executions)) (clock 0)).LegsValid :=
    (OrderGroupState.LegsValid.fromPlan plan).recordSubmission
      (fun _ _ found => acceptedOrderIds_nonempty found) _ _
  unfold recordedBatch
  dsimp only
  split
  · exact recorded.freeze _ _
  · exact recorded

theorem recordBatch_lawful (plan : OrderPlan) (executions : List ExecutionResult)
    (clock : Nat → Instant) :
    LawfulProgram markets (coordinator.recordBatch plan executions clock) Anything := by
  unfold recordBatch
  refine .bind (cancelAcceptedBestEffort_lawful _) fun _ _ =>
    .bind (coordinator.commitTransition_lawful _ (recordedBatch_valid plan executions clock) _)
      fun committed _ => ?_
  cases committed with
  | none => exact .bind (cancelAcceptedBestEffort_lawful _) fun _ _ => trivial
  | some state => exact coordinator.finishSubmission_lawful plan executions clock

theorem submitBatch_lawful (plan : OrderPlan) (batch : List (TradeIntent × OrderBookSnapshot))
    (clock : Nat → Instant) :
    LawfulProgram markets (coordinator.submitBatch plan batch clock) Anything := by
  have planned := OrderGroupState.LegsValid.fromPlan plan
  unfold submitBatch
  refine .bind (attempt_lawful trivial) fun answered _ => ?_
  cases answered with
  | error exc =>
      exact .bind (attempt_lawful trivial) fun _ _ => coordinator.freezeState_lawful planned _ _
  | ok executions =>
      dsimp only
      split
      · exact coordinator.freezeAfterAmbiguousBatch_lawful planned _ _ _
      · exact coordinator.recordBatch_lawful plan executions clock

theorem submitPlan_lawful {plan : OrderPlan} (unfilled : plan.Unfilled)
    (books : String → Option OrderBookSnapshot) (runId : String) (clock : Nat → Instant) :
    LawfulProgram markets (coordinator.submitPlan plan books runId clock) Anything := by
  unfold submitPlan
  split
  · trivial
  · refine .bind (coordinator.persistPlan_lawful unfilled) fun persisted _ => ?_
    split
    · exact .bind (coordinator.loadGroupState_lawful _ _) fun _ _ => trivial
    · split
      · exact coordinator.freezeState_lawful (.fromPlan plan) _ _
      · exact coordinator.submitBatch_lawful plan _ clock

/-! ### `process_deadline` -/

theorem finishHedge_lawful (accountId : String) (groupId : UUID) (leg : OrderLeg)
    (execution : ExecutionResult) (hedged : OrderGroupState) (action : OrderManagerAction)
    (occurredAt : Instant) :
    LawfulProgram markets (coordinator.finishHedge accountId groupId leg execution hedged action
      occurredAt) Anything := by
  unfold finishHedge
  split
  · exact .bind (lift_lawful _) fun fill _ => .bind (coordinator.onFill_lawful fill) fun _ _ => trivial
  · trivial

theorem cancelHedge_lawful (orderId : Option String) (reason : String) :
    LawfulProgram markets (cancelHedge orderId reason) Anything := by
  unfold cancelHedge
  split
  · trivial
  · split
    · trivial
    · exact .bind (attempt_lawful trivial) fun _ _ => trivial

/-- A recorded hedge submission has valid legs. -/
theorem recordedHedge_lawful {state : OrderGroupState} (valid : state.LegsValid) (legId : UUID)
    (orderId : Option String) (timestamp : Instant) :
    LawfulProgram markets (Program.lift
      ((recordHedgeSubmission state legId orderId timestamp).mapError ManagerError.raised))
      fun recorded => recorded.1.LegsValid :=
  (lift_lawful _).mono fun _ recorded => valid.recordHedgeSubmission (mapError_ok_iff.mp recorded)

theorem recordHedge_lawful (accountId : String) (groupId : UUID) {afterCancel : OrderGroupState}
    (valid : afterCancel.LegsValid) (leg : OrderLeg) (execution : ExecutionResult)
    (now : Option Instant) (clock : Nat → Instant) :
    LawfulProgram markets
      (coordinator.recordHedge accountId groupId afterCancel leg execution now clock) Anything := by
  unfold recordHedge
  refine .bind (cancelHedge_lawful _ _) fun _ _ =>
    .bind (recordedHedge_lawful valid leg.id _ _) fun recorded hedged =>
    .bind (coordinator.commitTransition_lawful _ hedged _) fun committed _ => ?_
  cases committed with
  | none => exact .bind (cancelHedge_lawful _ _) fun _ _ => trivial
  | some state => exact coordinator.finishHedge_lawful accountId groupId leg execution state _ _

theorem failHedge_lawful {afterCancel : OrderGroupState} (valid : afterCancel.LegsValid)
    (leg : OrderLeg) (exc : PyError) (timestamp : Instant) :
    LawfulProgram markets (coordinator.failHedge afterCancel leg exc timestamp) Anything := by
  unfold failHedge
  refine .bind (recordedHedge_lawful valid leg.id none timestamp) fun recorded failed =>
    .bind (coordinator.commitTransition_lawful _ failed _) fun committed _ => ?_
  cases committed <;> trivial

theorem submitHedge_lawful (accountId : String) (groupId : UUID) (runId : String)
    {afterCancel : OrderGroupState} (valid : afterCancel.LegsValid) (leg : OrderLeg)
    (package : HedgePackage) (now : Option Instant) (clock : Nat → Instant) :
    LawfulProgram markets (coordinator.submitHedge accountId groupId runId afterCancel leg package now
      clock) Anything := by
  unfold submitHedge
  split
  · exact coordinator.failHedge_lawful valid leg _ _
  · refine .bind (attempt_lawful trivial) fun answered _ => ?_
    cases answered with
    | error exc => exact coordinator.failHedge_lawful valid leg exc _
    | ok execution =>
        exact coordinator.recordHedge_lawful accountId groupId valid leg execution now clock

theorem hedgeReconciled_lawful (accountId : String) (groupId : UUID) (runId : String)
    (orderIds : List String) {reconciled : OrderGroupState} (valid : reconciled.LegsValid)
    (hedgeLegId : UUID) (now : Option Instant) (clock : Nat → Instant) :
    LawfulProgram markets (coordinator.hedgeReconciled accountId groupId runId orderIds reconciled
      hedgeLegId now clock) Anything := by
  unfold hedgeReconciled
  refine .bind (attempt_lawful trivial) fun quoted _ =>
    .bind (coordinator.commitTransition_lawful _ (valid.confirmCancellations _ _ _ _ _) _)
      fun committed confirmed => ?_
  cases committed with
  | none => trivial
  | some afterCancel =>
      dsimp only
      split
      · trivial
      · split
        · exact coordinator.submitHedge_lawful accountId groupId runId (confirmed _ rfl) _ _ now clock
        · trivial

theorem cancelExpired_lawful (accountId : String) (groupId : UUID) (runId : String)
    {cancelling : OrderGroupState} (valid : cancelling.LegsValid) (orderIds : List String)
    (hedgeLegId : UUID) (now : Option Instant) (clock : Nat → Instant) :
    LawfulProgram markets (coordinator.cancelExpired accountId groupId runId cancelling orderIds
      hedgeLegId now clock) Anything := by
  unfold cancelExpired
  refine .bind (attempt_lawful trivial) fun verified _ => ?_
  split
  · have reload : LawfulProgram markets
        (coordinator.loadAfterCancelReconciliation accountId groupId orderIds).attempt
          fun loaded => ∀ state, loaded = .ok state → state.LegsValid := by
      refine .attempt ((coordinator.loadAfterCancelReconciliation_lawful accountId groupId
        orderIds).mono ?_) ?_
      · intro state valid other same
        cases same
        exact valid
      · intro failure state same
        cases same
    refine .bind reload fun loaded reconciled => ?_
    cases loaded with
    | error exc => exact coordinator.freezeState_lawful valid _ _
    | ok state =>
        exact coordinator.hedgeReconciled_lawful accountId groupId runId orderIds
          (reconciled state rfl) hedgeLegId now clock
  · exact coordinator.freezeState_lawful valid _ _

theorem expire_lawful (accountId : String) (groupId : UUID) (runId : String)
    (before : OrderGroupState) {cancelling : OrderGroupState} (valid : cancelling.LegsValid)
    (action : OrderManagerAction) (hedgeLegId : UUID) (now : Option Instant)
    (clock : Nat → Instant) :
    LawfulProgram markets (coordinator.expire accountId groupId runId before cancelling action
      hedgeLegId now clock) Anything := by
  unfold expire
  split
  · trivial
  · refine .bind (coordinator.commitTransition_lawful _ valid _) fun committed expired => ?_
    cases committed with
    | none => trivial
    | some state =>
        exact coordinator.cancelExpired_lawful accountId groupId runId (expired state rfl) _ hedgeLegId
          now clock
  · refine .bind (coordinator.commitTransition_lawful _ valid _) fun committed _ => ?_
    cases committed <;> trivial

theorem processDeadline_lawful (accountId : String) (groupId : UUID) (runId : String)
    (now : Option Instant) (hedgeLegId : UUID) (clock : Nat → Instant) :
    LawfulProgram markets
      (coordinator.processDeadline accountId groupId runId now hedgeLegId clock) Anything := by
  unfold processDeadline
  split
  · trivial
  · exact .bind (coordinator.loadGroupState_lawful accountId groupId) fun before valid =>
      coordinator.expire_lawful accountId groupId runId before (valid.onLegDeadline _) _ hedgeLegId
        now clock

end PairExecutionCoordinator

/-- Every operation sends lawful requests only. -/
theorem Worker.lawful {worker : Worker} (unfilled : worker.operation.StartsUnfilled)
    (markets : List MarketRow) : LawfulProgram markets worker.program Anything := by
  unfold Worker.program
  cases operation : worker.operation with
  | submitPlan plan books runId clock =>
      rw [operation] at unfilled
      exact worker.coordinator.submitPlan_lawful unfilled books runId clock
  | onFill fill => exact worker.coordinator.onFill_lawful fill
  | processDeadline accountId groupId runId now hedgeLegId clock =>
      exact worker.coordinator.processDeadline_lawful accountId groupId runId now hedgeLegId clock

end Polybot
