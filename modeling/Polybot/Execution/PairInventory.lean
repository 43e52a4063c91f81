import Polybot.Execution.OrderManager
import Polybot.Interaction.Transition

/-!
The inventory invariant of the pair order manager.

A run of the manager is a sequence of calls of its six operations, each with
arguments it accepts. `PairInventory` is what every state of such a run from an
unfilled plan satisfies: the group carries the inventory of its legs, and a
finished status agrees with it. An operation either refreshes the inventory
(`PairInventory.refresh`), leaves it in place while it changes legs that keep
their fills (`PairInventory.mapLegs`), or only moves the phase
(`PairInventory.inPhase`).
-/

namespace Polybot

open Interaction

/-- A call of an order manager operation. -/
inductive ManagerCall where
  | recordSubmission (acceptedOrderIds : Dict UUID String) (rejectedLegIds : Finset UUID)
      (timestamp : Instant)
  | recordFill (fillId : String) (legId : UUID) (size price feeUsd : ℚ) (timestamp : Instant)
  | onLegDeadline (timestamp : Instant)
  | confirmCancellations (cancelledOrderIds : Finset String) (hedgeQuote : Option HedgeQuote)
      (hedgeLegId : UUID) (timestamp : Instant)
  | recordHedgeSubmission (hedgeLegId : UUID) (orderId : Option String) (timestamp : Instant)
  | freezeAfterHedgeFailure (reason : String) (timestamp : Instant)

namespace PairOrderManager

variable (manager : PairOrderManager)

/-- The state a call returns. -/
def apply (state : OrderGroupState) : ManagerCall → Except ManagerError OrderGroupState
  | .recordSubmission accepted rejected timestamp =>
      .ok (Polybot.recordSubmission state accepted rejected timestamp)
  | .recordFill fillId legId size price feeUsd timestamp =>
      Polybot.recordFill state fillId legId size price feeUsd timestamp
  | .onLegDeadline timestamp => .ok (Polybot.onLegDeadline state timestamp).1
  | .confirmCancellations cancelled quote hedgeLegId timestamp =>
      .ok (manager.confirmCancellations state cancelled quote hedgeLegId timestamp).1
  | .recordHedgeSubmission hedgeLegId orderId timestamp =>
      (Polybot.recordHedgeSubmission state hedgeLegId orderId timestamp).map Prod.fst
  | .freezeAfterHedgeFailure reason timestamp =>
      .ok (Polybot.freezeAfterHedgeFailure state reason timestamp).1

/-- A call that the manager accepts. -/
def Step (state : OrderGroupState) (call : ManagerCall) (next : OrderGroupState) : Prop :=
  manager.apply state call = .ok next

end PairOrderManager

/-! ### The invariant -/

/-- Every leg is filled between nothing and its size. -/
def WithinSize (legs : List OrderLeg) : Prop :=
  ∀ leg ∈ legs, 0 ≤ leg.filledSize ∧ leg.filledSize ≤ leg.size

/-- A finished status agrees with what the legs bought. -/
structure FinishedStatus (status : OrderGroupStatus) (legs : List OrderLeg) : Prop where
  paired : status = .paired → bought .yes legs = bought .no legs ∧ 0 < bought .no legs
  cancelled : status = .cancelled → bought .yes legs = 0 ∧ bought .no legs = 0

/-- The group carries the inventory of its legs. -/
structure PairInventory (state : OrderGroupState) : Prop where
  paired : state.group.pairedSize =
    min (min (bought .yes state.legs) (bought .no state.legs)) state.group.targetPairSize
  directionalYes : state.group.directionalYesSize =
    max 0 (bought .yes state.legs - bought .no state.legs)
  directionalNo : state.group.directionalNoSize =
    max 0 (bought .no state.legs - bought .yes state.legs)
  within : WithinSize state.legs
  finished : FinishedStatus state.group.status state.legs
  target : 0 < state.group.targetPairSize

/-- What is bought beyond the pairs is the excess over the other outcome. -/
theorem excess_left (y n : ℚ) : max 0 (y - min y n) = max 0 (y - n) := by
  rcases le_total y n with h | h
  · rw [min_eq_left h, sub_self, max_self, max_eq_left (by linarith)]
  · rw [min_eq_right h]

theorem excess_right (y n : ℚ) : max 0 (n - min y n) = max 0 (n - y) := by
  rw [min_comm, excess_left]

/-- Nothing is directional exactly when the two sides are equal. -/
theorem balanced_iff (y n : ℚ) : ¬ (max 0 (y - n) ≠ 0 ∨ max 0 (n - y) ≠ 0) ↔ y = n := by
  constructor
  · intro flat
    push Not at flat
    obtain ⟨yes, no⟩ := flat
    have := max_eq_left_iff.mp yes
    have := max_eq_left_iff.mp no
    linarith
  · rintro rfl
    simp

theorem WithinSize.bought_nonneg {legs : List OrderLeg} (within : WithinSize legs)
    (outcome : Outcome) : 0 ≤ bought outcome legs :=
  Polybot.bought_nonneg fun leg member => (within leg member).1

theorem WithinSize.map {legs : List OrderLeg} {change : OrderLeg → OrderLeg}
    (within : WithinSize legs)
    (kept : ∀ leg, (change leg).filledSize = leg.filledSize ∧ (change leg).size = leg.size) :
    WithinSize (legs.map change) := by
  intro leg member
  obtain ⟨source, inLegs, rfl⟩ := List.mem_map.mp member
  rw [(kept source).1, (kept source).2]
  exact within source inLegs

/-! ### The refreshed status -/

/-- A refresh answers `PAIRED` only for a balanced inventory, which is not empty
unless the phase was `PAIRED` and is preserved. -/
theorem refreshedStatus_paired {status : OrderGroupStatus} {target : ℚ} {legs : List OrderLeg}
    {paired yes no : ℚ} {preservePhase : Bool} (positive : 0 < target)
    (answer : refreshedStatus status target legs paired yes no preservePhase = .paired) :
    ¬ (yes ≠ 0 ∨ no ≠ 0) ∧ (0 < paired ∨ preservePhase = true ∧ status = .paired) := by
  revert answer
  unfold refreshedStatus
  by_cases directional : yes ≠ 0 ∨ no ≠ 0
  · by_cases hedge : status = .hedging ∧ hedgesTerminal legs = true
    · simp [directional, hedge]
    · simp only [directional, hedge, not_true_eq_false, and_false, if_false, and_true]
      cases status <;> cases preservePhase <;> simp_all
  · by_cases hedge : status = .hedging ∧ hedgesTerminal legs = true
    · by_cases some : 0 < paired
      · simp [directional, some]
      · simp [directional, hedge, some]
    · by_cases reached : target ≤ paired
      · simp [directional, hedge, lt_of_lt_of_le positive reached]
      · simp only [directional, hedge, not_false_eq_true, and_false, if_false, and_true]
        cases status <;> cases preservePhase <;> simp_all

/-- A refresh answers `CANCELLED` only for a preserved `CANCELLED` phase. -/
theorem refreshedStatus_cancelled {status : OrderGroupStatus} {target : ℚ} {legs : List OrderLeg}
    {paired yes no : ℚ} {preservePhase : Bool}
    (answer : refreshedStatus status target legs paired yes no preservePhase = .cancelled) :
    preservePhase = true ∧ status = .cancelled := by
  revert answer
  unfold refreshedStatus
  by_cases directional : yes ≠ 0 ∨ no ≠ 0
  · by_cases hedge : status = .hedging ∧ hedgesTerminal legs = true
    · simp [directional, hedge]
    · simp only [directional, hedge, not_true_eq_false, and_false, if_false, and_true]
      cases status <;> cases preservePhase <;> simp_all
  · by_cases hedge : status = .hedging ∧ hedgesTerminal legs = true
    · by_cases some : 0 < paired <;> simp [directional, hedge, some]
    · simp only [directional, hedge, not_false_eq_true, and_false, if_false, and_true]
      by_cases reached : target ≤ paired
      · cases status <;> cases preservePhase <;> simp_all
      · simp only [ge_iff_le, reached, if_false]
        cases status <;> cases preservePhase <;> simp_all

namespace PairInventory

variable {state : OrderGroupState}

/-- A refresh establishes the invariant. Where it preserves the phase, a
finished phase must already agree with the legs. -/
theorem refresh {timestamp : Instant} {preservePhase : Bool}
    (target : 0 < state.group.targetPairSize) (within : WithinSize state.legs)
    (finished : preservePhase = true → FinishedStatus state.group.status state.legs) :
    PairInventory (refreshInventory state timestamp preservePhase) where
  paired := rfl
  directionalYes := excess_left _ _
  directionalNo := excess_right _ _
  within := within
  target := target
  finished := by
    constructor
    · intro answer
      obtain ⟨flat, source⟩ := refreshedStatus_paired target answer
      rw [boughtByOutcome, excess_left, excess_right, balanced_iff] at flat
      refine ⟨flat, ?_⟩
      rcases source with some | ⟨preserved, phase⟩
      · simpa [boughtByOutcome, flat] using some
      · exact ((finished preserved).paired phase).2
    · intro answer
      obtain ⟨preserved, phase⟩ := refreshedStatus_cancelled answer
      exact (finished preserved).cancelled phase

/-- Moving to an unfinished phase keeps the invariant. -/
theorem inPhase (inventory : PairInventory state) {status : OrderGroupStatus}
    {timestamp : Instant} (open' : status ≠ .paired ∧ status ≠ .cancelled) :
    PairInventory { state with group := state.group.inPhase status timestamp } where
  paired := inventory.paired
  directionalYes := inventory.directionalYes
  directionalNo := inventory.directionalNo
  within := inventory.within
  target := inventory.target
  finished := ⟨fun phase => absurd phase open'.1, fun phase => absurd phase open'.2⟩

/-- Changes of the legs that keep sides, outcomes, sizes and fills keep the
invariant. -/
theorem mapLegs (inventory : PairInventory state) {change : OrderLeg → OrderLeg}
    (kept : ∀ leg, (change leg).side = leg.side ∧ (change leg).outcome = leg.outcome ∧
      (change leg).filledSize = leg.filledSize ∧ (change leg).size = leg.size) :
    PairInventory { state with legs := state.legs.map change } := by
  have same : ∀ outcome, bought outcome (state.legs.map change) = bought outcome state.legs :=
    fun outcome => bought_map outcome _ fun leg =>
      ⟨(kept leg).1, (kept leg).2.1, (kept leg).2.2.1⟩
  constructor
  · simpa only [same] using inventory.paired
  · simpa only [same] using inventory.directionalYes
  · simpa only [same] using inventory.directionalNo
  · exact inventory.within.map fun leg => (kept leg).2.2
  · exact ⟨by simpa only [same] using inventory.finished.paired,
      by simpa only [same] using inventory.finished.cancelled⟩
  · exact inventory.target

/-- Appending an unfilled leg keeps the invariant. -/
theorem appendLeg (inventory : PairInventory state) {leg : OrderLeg} (unfilled : leg.filledSize = 0)
    (sized : 0 ≤ leg.size) : PairInventory { state with legs := state.legs ++ [leg] } := by
  have same : ∀ outcome, bought outcome (state.legs ++ [leg]) = bought outcome state.legs := by
    intro outcome
    rw [bought_append, bought_cons, bought_nil, unfilled]
    split <;> simp
  constructor
  · simpa only [same] using inventory.paired
  · simpa only [same] using inventory.directionalYes
  · simpa only [same] using inventory.directionalNo
  · intro other member
    rcases List.mem_append.mp member with old | new
    · exact inventory.within other old
    · rw [List.mem_singleton.mp new, unfilled]
      exact ⟨le_rfl, sized⟩
  · exact ⟨by simpa only [same] using inventory.finished.paired,
      by simpa only [same] using inventory.finished.cancelled⟩
  · exact inventory.target

/-- The terminal verdict of a group without working orders keeps the
invariant. -/
theorem terminal (inventory : PairInventory state) (timestamp : Instant) :
    PairInventory (terminalWithoutWorkingOrders state timestamp).1 := by
  have refreshed : PairInventory (refreshInventory state timestamp true) :=
    refresh inventory.target inventory.within fun _ => inventory.finished
  unfold terminalWithoutWorkingOrders
  dsimp only
  split
  · exact refreshed.inPhase (by decide)
  · rename_i flat
    rw [refreshed.directionalYes, refreshed.directionalNo, balanced_iff] at flat
    have level := refreshed.paired
    rw [flat, min_self] at level
    split
    · rename_i some
      refine ⟨refreshed.paired, refreshed.directionalYes, refreshed.directionalNo,
        refreshed.within, ⟨fun _ => ⟨flat, ?_⟩, fun phase => (by cases phase)⟩, refreshed.target⟩
      rw [level] at some
      exact lt_of_lt_of_le some (min_le_left _ _)
    · rename_i empty
      refine ⟨refreshed.paired, refreshed.directionalYes, refreshed.directionalNo,
        refreshed.within, ⟨fun phase => (by cases phase), fun _ => ?_⟩, refreshed.target⟩
      -- The target is positive, so no pair means nothing bought on either side.
      have none : bought .no (refreshInventory state timestamp true).legs = 0 := by
        refine le_antisymm ?_ (refreshed.within.bought_nonneg _)
        rw [level, gt_iff_lt, lt_min_iff, not_and_or, not_lt] at empty
        exact empty.resolve_right (not_not.mpr refreshed.target)
      exact ⟨flat.trans none, none⟩

end PairInventory

/-! ### The operations keep the invariant -/

section Operations

variable {state next : OrderGroupState} {timestamp : Instant}

theorem submittedLeg_kept (accepted : Dict UUID String) (rejected : Finset UUID)
    (timestamp : Instant) (leg : OrderLeg) :
    let changed := submittedLeg accepted rejected timestamp leg
    changed.side = leg.side ∧ changed.outcome = leg.outcome ∧
      changed.filledSize = leg.filledSize ∧ changed.size = leg.size := by
  unfold submittedLeg
  repeat' split
  all_goals exact ⟨rfl, rfl, rfl, rfl⟩

theorem deadlineLeg_kept (timestamp : Instant) (leg : OrderLeg) :
    let changed := deadlineLeg timestamp leg
    changed.side = leg.side ∧ changed.outcome = leg.outcome ∧
      changed.filledSize = leg.filledSize ∧ changed.size = leg.size := by
  unfold deadlineLeg
  split <;> exact ⟨rfl, rfl, rfl, rfl⟩

theorem confirmedLeg_kept (cancelled : Finset String) (timestamp : Instant) (leg : OrderLeg) :
    let changed := confirmedLeg cancelled timestamp leg
    changed.side = leg.side ∧ changed.outcome = leg.outcome ∧
      changed.filledSize = leg.filledSize ∧ changed.size = leg.size := by
  unfold confirmedLeg
  split <;> exact ⟨rfl, rfl, rfl, rfl⟩

theorem hedgeSubmittedLeg_kept (hedgeLegId : UUID) (orderId : Option String) (timestamp : Instant)
    (leg : OrderLeg) :
    let changed := hedgeSubmittedLeg hedgeLegId orderId timestamp leg
    changed.side = leg.side ∧ changed.outcome = leg.outcome ∧
      changed.filledSize = leg.filledSize ∧ changed.size = leg.size := by
  unfold hedgeSubmittedLeg
  repeat' split
  all_goals exact ⟨rfl, rfl, rfl, rfl⟩

theorem OrderLeg.remainingSize_eq {leg : OrderLeg} (within : leg.filledSize ≤ leg.size) :
    leg.remainingSize = leg.size - leg.filledSize :=
  max_eq_right (by linarith)

/-- A fill that fits keeps every leg within its size. -/
theorem WithinSize.fill {legs : List OrderLeg} {legId : UUID} {size price feeUsd : ℚ}
    (within : WithinSize legs) (positive : 0 < size)
    (fits : ∀ leg ∈ legs, leg.id = legId → size ≤ leg.remainingSize) :
    WithinSize (legs.map (filledLeg legId size price feeUsd timestamp)) := by
  intro leg member
  obtain ⟨source, inLegs, rfl⟩ := List.mem_map.mp member
  have bounds := within source inLegs
  unfold filledLeg
  split
  · rename_i target
    have room := fits source inLegs target
    rw [OrderLeg.remainingSize_eq bounds.2] at room
    show 0 ≤ source.filledSize + size ∧ source.filledSize + size ≤ source.size
    exact ⟨by linarith [bounds.1], by linarith⟩
  · exact bounds

theorem PairInventory.recordSubmission (inventory : PairInventory state)
    (accepted : Dict UUID String) (rejected : Finset UUID) (timestamp : Instant) :
    PairInventory (recordSubmission state accepted rejected timestamp) := by
  refine PairInventory.refresh inventory.target
    (inventory.within.map fun leg => (submittedLeg_kept accepted rejected timestamp leg).2.2)
    fun _ => ?_
  constructor <;> intro phase <;> revert phase <;> dsimp only [OrderGroup.inPhase] <;>
    repeat' split
  all_goals simp

theorem PairInventory.recordFill (inventory : PairInventory state) {fillId : String} {legId : UUID}
    {size price feeUsd : ℚ}
    (accepted : recordFill state fillId legId size price feeUsd timestamp = .ok next) :
    PairInventory next := by
  rcases recordFill_cases accepted with ⟨-, rfl⟩ | ⟨-, economics, fits, rfl⟩
  · exact inventory
  · exact PairInventory.refresh inventory.target (inventory.within.fill economics.size_pos fits)
      (by simp)

theorem PairInventory.freezeAfterHedgeFailure (inventory : PairInventory state) (reason : String)
    (timestamp : Instant) :
    PairInventory (freezeAfterHedgeFailure state reason timestamp).1 :=
  inventory.inPhase (by decide)

theorem PairInventory.recordHedgeSubmission (inventory : PairInventory state) {hedgeLegId : UUID}
    {orderId : Option String} {action : OrderManagerAction}
    (accepted : recordHedgeSubmission state hedgeLegId orderId timestamp = .ok (next, action)) :
    PairInventory next := by
  obtain ⟨-, -, result⟩ := recordHedgeSubmission_ok_iff.mp accepted
  have submitted := inventory.mapLegs (hedgeSubmittedLeg_kept hedgeLegId orderId timestamp)
  dsimp only at result
  split at result
  · cases result
    exact submitted
  · cases result
    exact submitted.inPhase (by decide)

theorem PairInventory.onLegDeadline (inventory : PairInventory state) (timestamp : Instant) :
    PairInventory (onLegDeadline state timestamp).1 := by
  have pending := inventory.mapLegs (deadlineLeg_kept timestamp)
  unfold Polybot.onLegDeadline
  split
  · exact inventory
  · split
    · exact pending.inPhase (by decide)
    · exact pending.terminal timestamp

theorem PairInventory.confirmCancellations (inventory : PairInventory state)
    (manager : PairOrderManager) (cancelled : Finset String) (quote : Option HedgeQuote)
    (hedgeLegId : UUID) (timestamp : Instant) :
    PairInventory (manager.confirmCancellations state cancelled quote hedgeLegId timestamp).1 := by
  have confirmed := inventory.mapLegs (confirmedLeg_kept cancelled timestamp)
  have updated : PairInventory (refreshInventory
      { state with legs := state.legs.map (confirmedLeg cancelled timestamp) } timestamp true) :=
    PairInventory.refresh confirmed.target confirmed.within fun _ => confirmed.finished
  unfold PairOrderManager.confirmCancellations
  dsimp only
  split
  · exact updated
  · unfold PairOrderManager.hedgeOrSettle
    split
    · exact updated.terminal timestamp
    · cases quote with
      | none => exact updated.inPhase (by decide)
      | some quote =>
          dsimp only
          split
          · exact (updated.appendLeg rfl (abs_nonneg _)).inPhase (by decide)
          · exact updated.inPhase (by decide)

end Operations

/-- Every call keeps the invariant. -/
theorem PairInventory.step (manager : PairOrderManager) {state next : OrderGroupState}
    {call : ManagerCall} (inventory : PairInventory state)
    (step : manager.Step state call next) : PairInventory next := by
  unfold PairOrderManager.Step at step
  cases call with
  | recordSubmission accepted rejected timestamp =>
      cases step
      exact inventory.recordSubmission accepted rejected timestamp
  | recordFill fillId legId size price feeUsd timestamp => exact inventory.recordFill step
  | onLegDeadline timestamp =>
      cases step
      exact inventory.onLegDeadline timestamp
  | confirmCancellations cancelled quote hedgeLegId timestamp =>
      cases step
      exact inventory.confirmCancellations manager cancelled quote hedgeLegId timestamp
  | recordHedgeSubmission hedgeLegId orderId timestamp =>
      simp only [PairOrderManager.apply] at step
      cases result : Polybot.recordHedgeSubmission state hedgeLegId orderId timestamp with
      | error problem => simp [result, Except.map] at step
      | ok outcome =>
          simp only [result, Except.map, Except.ok.injEq] at step
          subst step
          exact inventory.recordHedgeSubmission result
  | freezeAfterHedgeFailure reason timestamp =>
      cases step
      exact inventory.freezeAfterHedgeFailure reason timestamp

/-- An unfilled plan starts with an empty inventory. -/
theorem PairInventory.fromPlan {plan : OrderPlan} (unfilled : plan.Unfilled) :
    PairInventory (fromPlan plan) := by
  have target := plan.group_valid.fields.target
  have nothing : ∀ outcome, bought outcome plan.legs = 0 := by
    intro outcome
    have first := unfilled.filled plan.first (by simp [OrderPlan.legs])
    have second := unfilled.filled plan.second (by simp [OrderPlan.legs])
    simp [OrderPlan.legs, bought_cons, bought_nil, first, second]
  constructor
  · simp [Polybot.fromPlan, nothing, unfilled.paired, target.le]
  · simp [Polybot.fromPlan, nothing, unfilled.directionalYes]
  · simp [Polybot.fromPlan, nothing, unfilled.directionalNo]
  · intro leg member
    have valid := plan.legs_valid member
    exact ⟨valid.fields.filled, valid.shape.within⟩
  · constructor <;> intro phase <;> simp [Polybot.fromPlan, unfilled.status] at phase
  · exact target

/-- In every state that order manager calls reach from an unfilled plan, the
group carries the inventory of its legs, and `PAIRED` and `CANCELLED` mean an
equal and an empty inventory. -/
theorem pair_inventory_of_run (manager : PairOrderManager) {plan : OrderPlan}
    (unfilled : plan.Unfilled) {calls : List ManagerCall} {state : OrderGroupState}
    (run : Run manager.Step (fromPlan plan) calls state) : PairInventory state :=
  run.invariant (fun _ _ _ inventory step => inventory.step manager step)
    (PairInventory.fromPlan unfilled)

/-- Both legs of the research plan fill, the second one in two parts. -/
def pairedCalls : List ManagerCall :=
  [.recordSubmission ((Dict.empty.set 11 "yes-order").set 12 "no-order") ∅ 1,
    .recordFill "f1" 11 3 (9 / 20) 0 2, .recordFill "f2" 12 1 (49 / 100) 0 3,
    .recordFill "f3" 12 2 (12 / 25) (1 / 100) 4]

theorem pairedCalls_inventory :
    ∃ state, pairedCalls.foldlM PairOrderManager.standard.apply (fromPlan researchPlan) =
      .ok state ∧ state.group.status = .paired ∧ PairInventory state := by
  obtain ⟨state, replayed, paired⟩ := Checked.exists_of_okAnd (show Checked.okAnd
    (pairedCalls.foldlM PairOrderManager.standard.apply (fromPlan researchPlan))
    (fun state => state.group.status = .paired) = true by decide +kernel)
  exact ⟨state, replayed, paired,
    pair_inventory_of_run _ researchPlan_unfilled (Run.foldlM_iff.mpr replayed)⟩

end Polybot
