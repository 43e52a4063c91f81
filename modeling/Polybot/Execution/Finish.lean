import Polybot.Execution.PairInventory

/-!
Finishing a group while an order may still be live.

`on_leg_deadline` and `confirm_cancellations` may move a group to `PAIRED` or
`CANCELLED`. Both verdicts are computed from fills. The first looks only at the
legs it can still cancel, the second only at pending cancellations, so a leg
that is neither escapes them: a leg whose cancellation an earlier deadline
requested, or a working leg without an order id. `ClosesAtFinish` is the exact
condition on the state before the call under which no leg escapes.
-/

namespace Polybot

open Interaction

/-- The order of the leg may still trade. -/
def OrderLeg.MayBeLive (leg : OrderLeg) : Prop :=
  leg.status ∈ [OrderLegStatus.open, .partiallyFilled, .submitting, .cancelPending] ∧
    0 < leg.remainingSize

instance (leg : OrderLeg) : Decidable leg.MayBeLive :=
  inferInstanceAs (Decidable (_ ∧ _))

/-- The call moved the group to `PAIRED` or `CANCELLED`. -/
def MovesToFinish (state next : OrderGroupState) : Prop :=
  (next.group.status = .paired ∨ next.group.status = .cancelled) ∧
    next.group.status ≠ state.group.status

/-- If the call moved the group to a finished status, no order may still be
live. -/
def FinishesClosed (state next : OrderGroupState) : Prop :=
  MovesToFinish state next → ∀ leg ∈ next.legs, ¬ leg.MayBeLive

instance (state next : OrderGroupState) : Decidable (MovesToFinish state next) :=
  inferInstanceAs (Decidable (_ ∧ _))

instance (state next : OrderGroupState) : Decidable (FinishesClosed state next) :=
  inferInstanceAs (Decidable (_ → _))

/-- `FinishesClosed`, asked of the two calls that finish a group. -/
def ManagerCall.FinishesClosed (state : OrderGroupState) (call : ManagerCall)
    (next : OrderGroupState) : Prop :=
  match call with
  | .onLegDeadline _ | .confirmCancellations .. => Polybot.FinishesClosed state next
  | _ => True

/-! ### The condition -/

/-- The status that a group with equal sides finishes in. -/
def finishStatus (state : OrderGroupState) : OrderGroupStatus :=
  if 0 < min (min (bought .yes state.legs) (bought .no state.legs)) state.group.targetPairSize then
    .paired
  else .cancelled

/-- The deadline has passed in an unfinished phase, nothing is left to cancel
and both sides are equal. -/
def FinishesAtDeadline (state : OrderGroupState) (timestamp : Instant) : Prop :=
  ¬ (timestamp < state.group.legDeadlineAt ∨ state.group.status ∈ settledStatuses) ∧
    cancelIds state.legs = [] ∧ bought .yes state.legs = bought .no state.legs

/-- Both sides are equal, and either every pending cancellation is confirmed and
the group is not yet in its finished status, or the group is hedging, a pair is
filled and every hedge leg is terminal once the confirmations are in. -/
def FinishesAtConfirmation (state : OrderGroupState) (cancelledOrderIds : Finset String)
    (timestamp : Instant) : Prop :=
  bought .yes state.legs = bought .no state.legs ∧
    ((∀ leg ∈ state.legs, leg.status = .cancelPending → leg.cancelConfirmed cancelledOrderIds) ∧
        state.group.status ≠ finishStatus state ∨
      state.group.status = .hedging ∧ 0 < bought .no state.legs ∧
        hedgesTerminal (state.legs.map (confirmedLeg cancelledOrderIds timestamp)) = true)

/-- The condition under which a call leaves no order behind: when it finishes the
group, a leg that may be live before the call is a cancellation it confirms. -/
def ManagerCall.ClosesAtFinish (state : OrderGroupState) : ManagerCall → Prop
  | .onLegDeadline timestamp =>
      FinishesAtDeadline state timestamp → ∀ leg ∈ state.legs, ¬ leg.MayBeLive
  | .confirmCancellations cancelledOrderIds _ _ timestamp =>
      FinishesAtConfirmation state cancelledOrderIds timestamp →
        ∀ leg ∈ state.legs, leg.MayBeLive → leg.cancelConfirmed cancelledOrderIds
  | _ => True

/-! ### The verdicts -/

variable {state : OrderGroupState} {timestamp : Instant}

theorem cancelIds_eq_nil_iff {legs : List OrderLeg} :
    cancelIds legs = [] ↔ ∀ leg ∈ legs, leg.cancellable = false := by
  unfold cancelIds
  rw [List.filterMap_eq_nil_iff]
  constructor
  · intro none leg member
    by_contra cancellable
    have working : leg.cancellable = true := by simpa using cancellable
    obtain ⟨text, named, -⟩ := truthy_iff.mp
      (Bool.and_eq_true_iff.mp (Bool.and_eq_true_iff.mp working).1).1
    have absent := none leg (List.mem_filter.mpr ⟨member, working⟩)
    rw [named] at absent
    cases absent
  · intro none leg member
    obtain ⟨inLegs, working⟩ := List.mem_filter.mp member
    rw [none leg inLegs] at working
    cases working

/-- With nothing to cancel a deadline leaves the legs alone. -/
theorem map_deadlineLeg_of_none {legs : List OrderLeg} (none : cancelIds legs = []) :
    legs.map (deadlineLeg timestamp) = legs := by
  calc legs.map (deadlineLeg timestamp) = legs.map id := List.map_congr_left fun leg member => by
        simp [deadlineLeg, cancelIds_eq_nil_iff.mp none leg member]
    _ = legs := List.map_id _

@[simp] theorem terminalWithoutWorkingOrders_legs (state : OrderGroupState) (timestamp : Instant) :
    (terminalWithoutWorkingOrders state timestamp).1.legs = state.legs := by
  unfold terminalWithoutWorkingOrders
  dsimp only
  repeat' split
  all_goals rfl

/-- The terminal verdict: `FROZEN` unless both sides are equal. -/
theorem terminalWithoutWorkingOrders_status (state : OrderGroupState) (timestamp : Instant) :
    (terminalWithoutWorkingOrders state timestamp).1.group.status =
      if bought .yes state.legs = bought .no state.legs then finishStatus state else .frozen := by
  have flat : ¬ ((refreshInventory state timestamp true).group.directionalYesSize ≠ 0 ∨
      (refreshInventory state timestamp true).group.directionalNoSize ≠ 0) ↔
        bought .yes state.legs = bought .no state.legs := by
    simp only [refreshInventory, boughtByOutcome, excess_left, excess_right, balanced_iff]
  unfold terminalWithoutWorkingOrders
  dsimp only
  by_cases equal : bought .yes state.legs = bought .no state.legs
  · rw [if_neg (flat.mpr equal), if_pos equal]
    unfold finishStatus
    split
    · rename_i some
      exact (if_pos some).symm
    · rename_i empty
      exact (if_neg empty).symm
  · rw [if_pos (not_not.mp (mt flat.mp equal)), if_neg equal]
    rfl

theorem terminalWithoutWorkingOrders_action (state : OrderGroupState) (timestamp : Instant) :
    (terminalWithoutWorkingOrders state timestamp).2.action =
      if bought .yes state.legs = bought .no state.legs then .none else .freeze := by
  have flat : ¬ ((refreshInventory state timestamp true).group.directionalYesSize ≠ 0 ∨
      (refreshInventory state timestamp true).group.directionalNoSize ≠ 0) ↔
        bought .yes state.legs = bought .no state.legs := by
    simp only [refreshInventory, boughtByOutcome, excess_left, excess_right, balanced_iff]
  unfold terminalWithoutWorkingOrders
  dsimp only
  by_cases equal : bought .yes state.legs = bought .no state.legs
  · rw [if_neg (flat.mpr equal), if_pos equal]
    split <;> rfl
  · rw [if_pos (not_not.mp (mt flat.mp equal)), if_neg equal]

theorem terminalWithoutWorkingOrders_hedgeLeg (state : OrderGroupState) (timestamp : Instant) :
    (terminalWithoutWorkingOrders state timestamp).2.hedgeLeg = none := by
  unfold terminalWithoutWorkingOrders
  dsimp only
  repeat' split
  all_goals rfl

theorem finishStatus_cases (state : OrderGroupState) :
    finishStatus state = .paired ∨ finishStatus state = .cancelled := by
  unfold finishStatus
  split
  · exact .inl rfl
  · exact .inr rfl

/-- When a deadline finishes a group, and that the legs are then untouched. -/
theorem onLegDeadline_finish_iff :
    MovesToFinish state (onLegDeadline state timestamp).1 ↔ FinishesAtDeadline state timestamp := by
  unfold MovesToFinish FinishesAtDeadline onLegDeadline
  by_cases early : timestamp < state.group.legDeadlineAt ∨ state.group.status ∈ settledStatuses
  · simp [early]
  · simp only [early, if_false, not_false_eq_true, true_and]
    by_cases pending : cancelIds state.legs = []
    · simp only [pending, ne_eq, not_true_eq_false, if_false, map_deadlineLeg_of_none pending,
        terminalWithoutWorkingOrders_status, true_and]
      by_cases equal : bought .yes state.legs = bought .no state.legs
      · have unsettled : state.group.status ∉ settledStatuses := fun settled => early (.inr settled)
        simp only [equal, if_true, iff_true]
        refine ⟨finishStatus_cases state, fun same => unsettled ?_⟩
        rw [← same]
        rcases finishStatus_cases state with h | h <;> simp [h, settledStatuses]
      · simp [equal]
    · simp [pending, OrderGroup.inPhase]

/-- A deadline that finishes the group leaves the legs as they are. -/
theorem onLegDeadline_legs (finishes : FinishesAtDeadline state timestamp) :
    (onLegDeadline state timestamp).1.legs = state.legs := by
  obtain ⟨due, none, -⟩ := finishes
  unfold onLegDeadline
  rw [if_neg due, if_neg (not_not.mpr none), terminalWithoutWorkingOrders_legs]
  exact map_deadlineLeg_of_none none

/-- The status of a refresh that preserves the phase. -/
theorem refreshedStatus_preserved (status : OrderGroupStatus) (target : ℚ) (legs : List OrderLeg)
    (paired yes no : ℚ) :
    refreshedStatus status target legs paired yes no true =
      if status = .hedging ∧ hedgesTerminal legs = true then
        if 0 < paired ∧ ¬ (yes ≠ 0 ∨ no ≠ 0) then .paired else .frozen
      else if (status = .cancelled ∨ status = .paired) ∧ (yes ≠ 0 ∨ no ≠ 0) then .frozen
      else status := by
  unfold refreshedStatus
  by_cases hedge : status = .hedging ∧ hedgesTerminal legs = true
  · by_cases settled : 0 < paired ∧ ¬ (yes ≠ 0 ∨ no ≠ 0)
    · simp [hedge, settled]
    · simp only [hedge, and_self, if_true, gt_iff_lt, settled, if_false]
      simp
  · simp [hedge]

variable {cancelledOrderIds : Finset String}

/-- The state that `confirm_cancellations` works on. -/
def confirmedState (state : OrderGroupState) (cancelledOrderIds : Finset String)
    (timestamp : Instant) : OrderGroupState :=
  refreshInventory
    { state with legs := state.legs.map (confirmedLeg cancelledOrderIds timestamp) } timestamp true

/-- The four outcomes of `confirm_cancellations`, from the refreshed state. -/
inductive ConfirmOutcome (manager : PairOrderManager) (updated : OrderGroupState)
    (quote : Option HedgeQuote) (hedgeLegId : UUID) (timestamp : Instant) :
    OrderGroupState × OrderManagerAction → Prop where
  | waiting (pending : ∃ leg ∈ updated.legs, leg.status = .cancelPending) :
      ConfirmOutcome manager updated quote hedgeLegId timestamp (updated, .idle)
  | level (settled : ∀ leg ∈ updated.legs, leg.status ≠ .cancelPending)
      (balanced : imbalance updated.legs = 0) :
      ConfirmOutcome manager updated quote hedgeLegId timestamp
        (terminalWithoutWorkingOrders updated timestamp)
  | frozen (settled : ∀ leg ∈ updated.legs, leg.status ≠ .cancelPending)
      (imbalanced : imbalance updated.legs ≠ 0)
      (refused : ∀ offered, quote = some offered → ¬ manager.hedgeable updated.legs offered) :
      ConfirmOutcome manager updated quote hedgeLegId timestamp
        ({ updated with group := updated.group.inPhase .frozen timestamp },
          ⟨.freeze, [], none, "no bounded deterministic hedge was available"⟩)
  | hedged (settled : ∀ leg ∈ updated.legs, leg.status ≠ .cancelPending)
      (imbalanced : imbalance updated.legs ≠ 0) (offered : HedgeQuote)
      (hedgeable : manager.hedgeable updated.legs offered) (quoted : quote = some offered) :
      ConfirmOutcome manager updated quote hedgeLegId timestamp
        ({ updated with
            group := updated.group.inPhase .hedging timestamp
            legs := updated.legs ++ [manager.hedgeLeg updated offered hedgeLegId timestamp] },
          ⟨.submitHedge, [], some (manager.hedgeLeg updated offered hedgeLegId timestamp),
            "neutralize filled single-leg inventory"⟩)

theorem confirmCancellations_outcome (manager : PairOrderManager) (state : OrderGroupState)
    (cancelled : Finset String) (quote : Option HedgeQuote) (hedgeLegId : UUID)
    (timestamp : Instant) :
    ConfirmOutcome manager (confirmedState state cancelled timestamp) quote hedgeLegId timestamp
      (manager.confirmCancellations state cancelled quote hedgeLegId timestamp) := by
  set updated := confirmedState state cancelled timestamp with isUpdated
  have result : manager.confirmCancellations state cancelled quote hedgeLegId timestamp =
      if updated.legs.any fun leg => leg.status = .cancelPending then (updated, .idle)
      else manager.hedgeOrSettle updated quote hedgeLegId timestamp := rfl
  rw [result]
  by_cases pending : (updated.legs.any fun leg => leg.status = .cancelPending) = true
  · rw [if_pos pending]
    obtain ⟨leg, member, waits⟩ := List.any_eq_true.mp pending
    exact .waiting ⟨leg, member, of_decide_eq_true waits⟩
  · rw [if_neg pending]
    have settled : ∀ leg ∈ updated.legs, leg.status ≠ .cancelPending := fun leg member waits =>
      pending (List.any_eq_true.mpr ⟨leg, member, decide_eq_true waits⟩)
    unfold PairOrderManager.hedgeOrSettle
    by_cases balanced : imbalance updated.legs = 0
    · rw [if_pos balanced]
      exact .level settled balanced
    · rw [if_neg balanced]
      cases quote with
      | none => exact .frozen settled balanced nofun
      | some offered =>
          dsimp only
          by_cases hedgeable : manager.hedgeable updated.legs offered
          · rw [if_pos hedgeable]
            exact .hedged settled balanced offered hedgeable rfl
          · rw [if_neg hedgeable]
            refine .frozen settled balanced fun other same => ?_
            cases same
            exact hedgeable

theorem confirmedState_status :
    (confirmedState state cancelledOrderIds timestamp).group.status =
      if state.group.status = .hedging ∧
          hedgesTerminal (state.legs.map (confirmedLeg cancelledOrderIds timestamp)) = true then
        if 0 < min (bought .yes state.legs) (bought .no state.legs) ∧
          bought .yes state.legs = bought .no state.legs then .paired else .frozen
      else if (state.group.status = .cancelled ∨ state.group.status = .paired) ∧
          ¬ bought .yes state.legs = bought .no state.legs then .frozen
      else state.group.status := by
  simp only [confirmedState, refreshInventory, boughtByOutcome, bought_confirmed, excess_left,
    excess_right, refreshedStatus_preserved, balanced_iff]
  simp only [← balanced_iff, not_not]

theorem finishStatus_confirmedState :
    finishStatus (confirmedState state cancelledOrderIds timestamp) = finishStatus state := by
  simp [finishStatus, confirmedState, refreshInventory, bought_confirmed]

/-- A quote or its absence leaves an unequal group `HEDGING` or `FROZEN`. -/
theorem hedgeOrSettle_status_of_imbalanced (manager : PairOrderManager) {updated : OrderGroupState}
    (quote : Option HedgeQuote) (hedgeLegId : UUID) (timestamp : Instant)
    (unequal : bought .yes updated.legs ≠ bought .no updated.legs) :
    (manager.hedgeOrSettle updated quote hedgeLegId timestamp).1.group.status = .hedging ∨
      (manager.hedgeOrSettle updated quote hedgeLegId timestamp).1.group.status = .frozen := by
  have imbalanced : imbalance updated.legs ≠ 0 := fun flat =>
    unequal (sub_eq_zero.mp (abs_eq_zero.mp flat))
  unfold PairOrderManager.hedgeOrSettle
  rw [if_neg imbalanced]
  cases quote with
  | none => exact .inr rfl
  | some quote =>
      dsimp only
      split
      · exact .inl rfl
      · exact .inr rfl

theorem hedgeOrSettle_of_balanced (manager : PairOrderManager) (updated : OrderGroupState)
    (quote : Option HedgeQuote) (hedgeLegId : UUID) (timestamp : Instant)
    (equal : bought .yes updated.legs = bought .no updated.legs) :
    manager.hedgeOrSettle updated quote hedgeLegId timestamp =
      terminalWithoutWorkingOrders updated timestamp := by
  unfold PairOrderManager.hedgeOrSettle
  rw [if_pos (by simp [imbalance, equal])]

/-- Some cancellation is still outstanding after the confirmations. -/
theorem pending_iff :
    ((confirmedState state cancelledOrderIds timestamp).legs.any fun leg =>
        leg.status = .cancelPending) = true ↔
      ¬ ∀ leg ∈ state.legs, leg.status = .cancelPending →
        leg.cancelConfirmed cancelledOrderIds = true := by
  simp only [confirmedState, refreshInventory_legs, List.any_map, List.any_eq_true, Function.comp,
    decide_eq_true_eq, confirmedLeg_pending_iff]
  push Not
  simp

/-- When a confirmation finishes a group. -/
theorem confirmCancellations_finish_iff (manager : PairOrderManager) (quote : Option HedgeQuote)
    (hedgeLegId : UUID) :
    MovesToFinish state
        (manager.confirmCancellations state cancelledOrderIds quote hedgeLegId timestamp).1 ↔
      FinishesAtConfirmation state cancelledOrderIds timestamp := by
  set updated := confirmedState state cancelledOrderIds timestamp with isUpdated
  have result : manager.confirmCancellations state cancelledOrderIds quote hedgeLegId timestamp =
      if updated.legs.any fun leg => leg.status = .cancelPending then (updated, .idle)
      else manager.hedgeOrSettle updated quote hedgeLegId timestamp := rfl
  have same : ∀ outcome, bought outcome updated.legs = bought outcome state.legs :=
    fun outcome => bought_confirmed outcome state.legs
  rw [result]
  unfold MovesToFinish FinishesAtConfirmation
  by_cases confirmed : ∀ leg ∈ state.legs, leg.status = .cancelPending →
      leg.cancelConfirmed cancelledOrderIds = true
  · rw [if_neg fun pending => pending_iff.mp pending confirmed]
    by_cases equal : bought .yes state.legs = bought .no state.legs
    · rw [hedgeOrSettle_of_balanced manager updated quote hedgeLegId timestamp
          (by rw [same, same, equal]),
        terminalWithoutWorkingOrders_status, if_pos (by rw [same, same, equal]), isUpdated,
        finishStatus_confirmedState]
      constructor
      · rintro ⟨-, moved⟩
        exact ⟨equal, .inl ⟨confirmed, moved.symm⟩⟩
      · rintro ⟨-, ⟨-, moved⟩ | ⟨hedging, -⟩⟩
        · exact ⟨finishStatus_cases state, moved.symm⟩
        · refine ⟨finishStatus_cases state, ?_⟩
          rw [hedging]
          rcases finishStatus_cases state with h | h <;> simp [h]
    · have unequal : bought .yes updated.legs ≠ bought .no updated.legs := by
        rwa [same, same]
      rcases hedgeOrSettle_status_of_imbalanced manager quote hedgeLegId timestamp
        unequal with h | h <;> simp [h, equal]
  · rw [if_pos (pending_iff.mpr confirmed)]
    simp only [confirmed, false_and, false_or]
    rw [isUpdated, confirmedState_status]
    by_cases hedge : state.group.status = .hedging ∧
        hedgesTerminal (state.legs.map (confirmedLeg cancelledOrderIds timestamp)) = true
    · rw [if_pos hedge]
      by_cases equal : bought .yes state.legs = bought .no state.legs
      · by_cases some : 0 < bought .no state.legs <;> simp [equal, some, hedge]
      · simp [equal]
    · rw [if_neg hedge]
      constructor
      · rintro ⟨finished, moved⟩
        split at finished
        · simp at finished
        · rename_i kept
          rw [if_neg kept] at moved
          exact absurd rfl moved
      · rintro ⟨-, hedging, -, terminal⟩
        exact absurd ⟨hedging, terminal⟩ hedge

/-- A confirmation that finishes the group has only marked the confirmed legs. -/
theorem confirmCancellations_legs (manager : PairOrderManager) (quote : Option HedgeQuote)
    (hedgeLegId : UUID) (finishes : FinishesAtConfirmation state cancelledOrderIds timestamp) :
    (manager.confirmCancellations state cancelledOrderIds quote hedgeLegId timestamp).1.legs =
      state.legs.map (confirmedLeg cancelledOrderIds timestamp) := by
  have same : ∀ outcome, bought outcome (confirmedState state cancelledOrderIds timestamp).legs =
      bought outcome state.legs := fun outcome => bought_confirmed outcome state.legs
  have settled := hedgeOrSettle_of_balanced manager
    (confirmedState state cancelledOrderIds timestamp) quote hedgeLegId timestamp
    (by rw [same, same, finishes.1])
  unfold PairOrderManager.confirmCancellations
  dsimp only
  split
  · rfl
  · rw [show refreshInventory _ timestamp true = confirmedState state cancelledOrderIds timestamp
      from rfl, settled, terminalWithoutWorkingOrders_legs]
    rfl

/-- After the confirmations an order may be live exactly if it was and its
cancellation is not among the confirmed ones. -/
theorem confirmedLeg_mayBeLive_iff (leg : OrderLeg) :
    (confirmedLeg cancelledOrderIds timestamp leg).MayBeLive ↔
      leg.MayBeLive ∧ leg.cancelConfirmed cancelledOrderIds = false := by
  unfold confirmedLeg
  split
  · rename_i confirmed
    simp [OrderLeg.MayBeLive, OrderLeg.inStatus, confirmed]
  · rename_i unconfirmed
    simp [unconfirmed]

/-! ### The exact condition -/

/-- A call leaves no order behind exactly under its condition. -/
theorem finishesClosed_iff (manager : PairOrderManager) {call : ManagerCall}
    {next : OrderGroupState} (step : manager.Step state call next) :
    call.FinishesClosed state next ↔ call.ClosesAtFinish state := by
  cases call with
  | onLegDeadline timestamp =>
      cases step
      show (MovesToFinish _ _ → _) ↔ (FinishesAtDeadline _ _ → _)
      rw [onLegDeadline_finish_iff]
      refine forall_congr' fun finishes => ?_
      rw [onLegDeadline_legs finishes]
  | confirmCancellations cancelled quote hedgeLegId timestamp =>
      cases step
      show (MovesToFinish _ _ → _) ↔ (FinishesAtConfirmation _ _ _ → _)
      rw [confirmCancellations_finish_iff]
      refine forall_congr' fun finishes => ?_
      rw [confirmCancellations_legs manager quote hedgeLegId finishes, List.forall_mem_map]
      simp only [confirmedLeg_mayBeLive_iff, not_and, Bool.not_eq_false]
  | recordSubmission => exact Iff.rfl
  | recordFill => exact Iff.rfl
  | recordHedgeSubmission => exact Iff.rfl
  | freezeAfterHedgeFailure => exact Iff.rfl

/-- The runs from a plan in which no finishing call leaves an order behind are
exactly the runs all of whose calls meet the condition. -/
theorem finishes_closed_runs_iff (manager : PairOrderManager) (plan : OrderPlan)
    (calls : List ManagerCall) (state : OrderGroupState) :
    Run (fun s call t => manager.Step s call t ∧ call.FinishesClosed s t)
        (fromPlan plan) calls state ↔
      Run (fun s call t => manager.Step s call t ∧ call.ClosesAtFinish s)
        (fromPlan plan) calls state :=
  Run.restrict_iff fun _ _ _ step => finishesClosed_iff manager step

/-- A second deadline before the cancellations are confirmed finishes a group
whose two orders may still be live. -/
theorem second_deadline_leaves_orders_live :
    ¬ ∀ (plan : OrderPlan) (calls : List ManagerCall) (state next : OrderGroupState)
        (call : ManagerCall), Run PairOrderManager.standard.Step (fromPlan plan) calls state →
      PairOrderManager.standard.Step state call next → call.FinishesClosed state next := by
  intro closed
  let accepted := (Dict.empty.set 11 "yes-order").set 12 "no-order"
  let calls : List ManagerCall := [.recordSubmission accepted ∅ 1, .onLegDeadline 2000000]
  obtain ⟨state, replayed, left⟩ := Checked.exists_of_okAnd (show Checked.okAnd
    (calls.foldlM PairOrderManager.standard.apply (fromPlan researchPlan))
    (fun state => ¬ FinishesClosed state (onLegDeadline state 2000001).1) = true by
      decide +kernel)
  exact left (closed researchPlan calls state _ (.onLegDeadline 2000001)
    (Run.foldlM_iff.mpr replayed) rfl)

end Polybot
