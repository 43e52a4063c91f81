import Polybot.Execution.Serving

/-!
Programs that only read, record fills, and clean up.

Loads, deliveries of fills and best-effort cancellations make up most of an
operation. They neither move a group nor submit an order, so a property that such
requests keep is stated for the remaining few requests only.
-/

namespace Polybot

open Checked Interaction

/-- The reason of the cancellation of expired legs. -/
def deadlineReason : String :=
  "pair leg deadline"

/-- The request neither moves a group nor submits an order, and is not the
cancellation of expired legs. -/
def CoordinatorRequest.Harmless : CoordinatorRequest → Prop
  | commitPairGroupTransition _ _ _ _ _ => False
  | submitBatch _ => False
  | submit _ _ => False
  | cancelOrders _ reason => reason ≠ deadlineReason
  | _ => True

/-- The program sends harmless requests only. -/
abbrev HarmlessProgram {α : Type} (program : CoordinatorProgram α) (Post : α → Prop) : Prop :=
  program.Uses (fun _ => True) CoordinatorRequest.Harmless Post

namespace PairExecutionCoordinator

variable (coordinator : PairExecutionCoordinator)

theorem await_harmless {request : CoordinatorRequest} (harmless : request.Harmless) :
    HarmlessProgram (await request) Anything :=
  .ask harmless fun _ _ => trivial

theorem attempt_harmless {request : CoordinatorRequest} (harmless : request.Harmless) :
    HarmlessProgram (await request).attempt Anything :=
  .attempt (await_harmless harmless) fun _ => trivial

theorem lift_harmless {α : Type} (computed : Except PyError α) :
    HarmlessProgram (Program.lift computed) fun value => computed = .ok value :=
  .lift fun _ same => same

/-- The reads after the group row keep its group. -/
theorem loadRest_harmless (groupId : UUID) (row : GroupRow) :
    HarmlessProgram (do
      let group ← loadGroup groupId (some row)
      let rows ← await (.selectLegs coordinator.accountId groupId)
      let legs ← Program.lift (loadedLegs rows)
      let tradeIds ← await (.selectTradeIds coordinator.accountId groupId)
      Program.lift (assembledState group legs tradeIds))
      fun state => ∃ identity, state.group = row.loaded identity := by
  have group : HarmlessProgram (loadGroup groupId (some row)) fun group =>
      ∃ identity, group = row.loaded identity := by
    refine .bind (await_harmless trivial) fun identity _ => (lift_harmless _).mono fun group grouped => ?_
    exact ⟨identity, (loadedGroup_ok_iff.mp grouped).1⟩
  refine .bind group fun group described => .bind (await_harmless trivial) fun rows _ =>
    .bind (lift_harmless _) fun legs _ => .bind (await_harmless trivial) fun tradeIds _ =>
    (lift_harmless _).mono fun state assembled => ?_
  obtain ⟨-, -, rfl⟩ := assembledState_ok_iff.mp assembled
  exact described

theorem loadGroupState_harmless (accountId : String) (groupId : UUID) :
    HarmlessProgram (coordinator.loadGroupState accountId groupId) Anything := by
  unfold loadGroupState
  refine .bind (lift_harmless _) fun _ _ => .bind (await_harmless trivial) fun found _ => ?_
  cases found with
  | none => trivial
  | some row => exact (coordinator.loadRest_harmless groupId row).mono fun _ _ => trivial

theorem commitFill_harmless (expected : Nat) (fill : CoordinatorFill) (state : OrderGroupState) :
    HarmlessProgram (coordinator.commitFill expected fill state) Anything :=
  .bind (lift_harmless _) fun _ _ => await_harmless trivial

theorem onFill_harmless (fill : CoordinatorFill) :
    HarmlessProgram (coordinator.onFill fill) Anything := by
  have attempts : ∀ retries, HarmlessProgram (coordinator.onFillAttempts fill retries) Anything := by
    intro retries
    induction retries with
    | zero => trivial
    | succ retries ih =>
        unfold onFillAttempts
        refine .bind (coordinator.loadGroupState_harmless _ _) fun before _ => ?_
        split
        · trivial
        · split
          · trivial
          · refine .bind (coordinator.commitFill_harmless _ fill _) fun committed _ => ?_
            cases committed with
            | applied => trivial
            | duplicate => exact .bind (coordinator.loadGroupState_harmless _ _) fun _ _ => trivial
            | conflict => exact ih
  unfold onFill
  split
  · trivial
  · exact attempts _

theorem cancelAcceptedBestEffort_harmless (orderIds : List String) :
    HarmlessProgram (cancelAcceptedBestEffort orderIds) Anything := by
  have another : ("pair coordinator state conflict" : String) ≠ deadlineReason := by decide
  unfold cancelAcceptedBestEffort
  split
  · trivial
  · exact .bind (attempt_harmless another) fun _ _ => trivial

theorem finishSubmission_harmless (plan : OrderPlan) (executions : List ExecutionResult)
    (clock : Nat → Instant) :
    HarmlessProgram (coordinator.finishSubmission plan executions clock) Anything := by
  have fills : ∀ results, HarmlessProgram
      (coordinator.applyPaperFills plan executions clock results) Anything := by
    intro results
    induction results with
    | nil => trivial
    | cons result results ih =>
        unfold applyPaperFills
        split
        · refine .bind (lift_harmless _) fun fill _ =>
            .bind (coordinator.onFill_harmless fill) fun _ _ => ?_
          split
          · trivial
          · exact ih
        · exact ih
  refine .bind (fills _) fun stopped _ => ?_
  cases stopped with
  | some result => trivial
  | none => exact .bind (coordinator.loadGroupState_harmless _ _) fun _ _ => trivial

theorem finishHedge_harmless (accountId : String) (groupId : UUID) (leg : OrderLeg)
    (execution : ExecutionResult) (hedged : OrderGroupState) (action : OrderManagerAction)
    (occurredAt : Instant) :
    HarmlessProgram (coordinator.finishHedge accountId groupId leg execution hedged action
      occurredAt) Anything := by
  unfold finishHedge
  split
  · exact .bind (lift_harmless _) fun fill _ =>
      .bind (coordinator.onFill_harmless fill) fun _ _ => trivial
  · trivial

theorem cancelHedge_harmless (orderId : Option String) (reason : String) :
    HarmlessProgram (cancelHedge orderId reason) Anything := by
  unfold cancelHedge
  split
  · trivial
  · split
    · trivial
    · exact .bind (attempt_harmless trivial) fun _ _ => trivial

end PairExecutionCoordinator

end Polybot
