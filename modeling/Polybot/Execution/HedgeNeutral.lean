import Polybot.Execution.ArrivalOrder
import Polybot.Execution.HedgeBudget

/-!
What a hedge neutralises.

`confirm_cancellations` hedges when no cancellation is pending. It looks at
`CANCEL_PENDING` legs only, so a leg must not be working in any other way by then. The
deadline sees to that for legs with an order id, but `record_fill` also moves a
`PLANNED` or `REJECTED` leg to `PARTIALLY_FILLED`, and that leg has no order to cancel.
`hedges_neutralise` holds of the runs without such a fill. `Legs` are followed in two
phases: before the deadline every working leg can be cancelled (`CanBeStopped`), after it
none is working (`Stopped`).
-/

namespace Polybot

open Interaction

/-! ### What a hedge is for -/

/-- The order of the leg may trade until it is cancelled. -/
def OrderLeg.Working (leg : OrderLeg) : Prop :=
  leg.status ∈ [OrderLegStatus.open, .partiallyFilled, .cancelPending]

instance OrderLeg.decidableWorking (leg : OrderLeg) : Decidable leg.Working :=
  inferInstanceAs (Decidable (_ ∈ _))

/-- A fill of the hedge leg, or the acceptance of its order. -/
def ManagerCall.FillsHedge (hedgeLegId : UUID) : ManagerCall → Prop
  | .recordFill _ legId _ _ _ _ => legId = hedgeLegId
  | .recordHedgeSubmission legId orderId _ => legId = hedgeLegId ∧ truthy orderId = true
  | _ => False

/-- The hedge leg of `after` neutralises what the legs of `before` bought. -/
structure NeutralHedge (manager : PairOrderManager) (before : List OrderLeg) (quote : HedgeQuote)
    (after : OrderGroupState) (hedge : OrderLeg) : Prop where
  member : hedge ∈ after.legs
  buys : hedge.side = .buy
  smaller : ∀ outcome ≠ hedge.outcome, bought hedge.outcome before < bought outcome before
  size : hedge.size = |bought .yes before - bought .no before|
  available : hedge.size ≤ quote.availableSize
  bounded : hedge.size * (hedge.price + quote.feePerShare) ≤ manager.maximumHedgeNotionalUsd
  stopped : ∀ leg ∈ after.legs, ¬ leg.Working
  neutral : ∀ calls final, Run manager.Step after calls final →
    (∀ call ∈ calls, call.FillsHedge hedge.id) →
    (∀ leg ∈ final.legs, leg.id = hedge.id → leg.filledSize = leg.size) →
    final.group.status = .paired ∧ final.group.directionalYesSize = 0 ∧
      final.group.directionalNoSize = 0

/-- What `confirm_cancellations` promises of a hedge: it neutralises, an imbalance without
one freezes the group, and an outstanding cancellation leaves both for later. -/
structure HedgesSafely (manager : PairOrderManager) (state : OrderGroupState)
    (quote : Option HedgeQuote) (outcome : OrderGroupState × OrderManagerAction) : Prop where
  hedged : outcome.2.action = .submitHedge → ∃ offered hedge, quote = some offered ∧
    outcome.2.hedgeLeg = some hedge ∧ NeutralHedge manager state.legs offered outcome.1 hedge
  frozen : bought .yes state.legs ≠ bought .no state.legs →
    (∀ offered, quote = some offered → ¬ manager.hedgeable state.legs offered) →
    (∀ leg ∈ outcome.1.legs, leg.status ≠ .cancelPending) → outcome.1.group.status = .frozen
  waiting : (∃ leg ∈ outcome.1.legs, leg.status = .cancelPending) →
    outcome.2 = .idle ∧ outcome.1.group.status = .cancelling

/-- Every confirmation of `state` hedges safely. The id of a hedge leg is a new one. -/
def HedgesNeutralise (manager : PairOrderManager) (state : OrderGroupState) : Prop :=
  ∀ cancelled quote hedgeLegId timestamp, (∀ leg ∈ state.legs, leg.id ≠ hedgeLegId) →
    HedgesSafely manager state quote
      (manager.confirmCancellations state cancelled quote hedgeLegId timestamp)

/-! ### The two phases of the entry legs -/

/-- The exchange has acknowledged the order of the leg. -/
def OrderLeg.Acknowledged (leg : OrderLeg) : Prop :=
  leg.status ∈ [OrderLegStatus.open, .partiallyFilled, .cancelPending, .cancelled]

instance OrderLeg.decidableAcknowledged (leg : OrderLeg) : Decidable leg.Acknowledged :=
  inferInstanceAs (Decidable (_ ∈ _))

/-- A redelivery, or a fill of an acknowledged leg, or of a whole leg. -/
def FillsAcknowledged (state : OrderGroupState) (call : LegFill × Instant) : Prop :=
  call.1.fillId ∈ state.seenFillIds ∨ ∀ leg ∈ state.legs, leg.id = call.1.legId →
    leg.Acknowledged ∨ call.1.size = leg.remainingSize

instance (state : OrderGroupState) (call : LegFill × Instant) :
    Decidable (FillsAcknowledged state call) :=
  inferInstanceAs (Decidable (_ ∨ ∀ leg ∈ state.legs, _ → _))

/-- An accepted `record_fill`. -/
def FillStep (state : OrderGroupState) (call : LegFill × Instant) (next : OrderGroupState) : Prop :=
  recordFillAt state call = .ok next

/-- An accepted `record_fill` of an acknowledged leg. -/
def AcknowledgedFill (state : OrderGroupState) (call : LegFill × Instant)
    (next : OrderGroupState) : Prop :=
  FillStep state call next ∧ FillsAcknowledged state call

/-- The deadline can cancel the leg, if it is working. -/
def OrderLeg.CanBeStopped (leg : OrderLeg) : Prop :=
  leg.status = .open ∨ leg.status = .partiallyFilled → leg.cancellable = true

/-- The leg is not working, unless its cancellation is outstanding. -/
def OrderLeg.Stopped (leg : OrderLeg) : Prop :=
  leg.status ≠ .open ∧ leg.status ≠ .partiallyFilled

/-- What the entry legs of a run keep. -/
structure EntryLegs (good : OrderLeg → Prop) (state : OrderGroupState) : Prop where
  within : WithinSize state.legs
  entries : hedgeLegs state.legs = []
  good : ∀ leg ∈ state.legs, good leg

section Phases

variable {state next : OrderGroupState} {leg : OrderLeg} {timestamp : Instant}
  {call : LegFill × Instant}

theorem hedgeLegs_map {change : OrderLeg → OrderLeg} {legs : List OrderLeg}
    (same : ∀ leg : OrderLeg, leg.SameTerms (change leg)) :
    hedgeLegs (legs.map change) = (hedgeLegs legs).map change := by
  unfold hedgeLegs
  rw [List.filter_map]
  congr 1
  refine List.filter_congr fun leg _ => ?_
  simp [(same leg).purpose]

theorem OrderLeg.cancellable_iff : leg.cancellable = true ↔
    (truthy leg.clobOrderId = true ∧ 0 < leg.remainingSize) ∧
      leg.status ∈ [OrderLegStatus.open, .partiallyFilled, .submitting] := by
  simp [OrderLeg.cancellable]

/-- A fill keeps what every leg it fills keeps. -/
theorem EntryLegs.fill {good : OrderLeg → Prop} (entry : EntryLegs good state)
    (accepted : AcknowledgedFill state call next)
    (keeps : ∀ leg : OrderLeg, good leg → call.1.size ≤ leg.size - leg.filledSize →
      leg.Acknowledged ∨ call.1.size = leg.size - leg.filledSize →
      good (leg.applyFill call.1.size call.1.price call.1.feeUsd call.2)) :
    EntryLegs good next := by
  obtain ⟨step, acknowledged⟩ := accepted
  rcases recordFill_cases step with ⟨-, rfl⟩ | ⟨known, economics, fits, rfl⟩
  · exact entry
  · refine ⟨entry.within.fill economics.size_pos fits, ?_, fun leg member => ?_⟩
    · show hedgeLegs (state.legs.map _) = []
      rw [hedgeLegs_map (filledLeg_same _ _ _ _), entry.entries, List.map_nil]
    · obtain ⟨source, inLegs, rfl⟩ := List.mem_map.mp member
      have bounds := entry.within source inLegs
      have room := OrderLeg.remainingSize_eq bounds.2
      unfold filledLeg
      by_cases target : source.id = call.1.legId
      · rw [if_pos target]
        have fit := fits source inLegs target
        have named := (acknowledged.resolve_left known) source inLegs target
        rw [room] at fit named
        exact keeps source (entry.good source inLegs) fit named
      · rw [if_neg target]
        exact entry.good source inLegs

/-- When a filled leg is left working. -/
theorem filledStatus_working_iff {newFilled : ℚ} :
    (filledStatus leg newFilled = .open ∨ filledStatus leg newFilled = .partiallyFilled) ↔
      newFilled ≠ leg.size ∧ leg.status ≠ .cancelled ∧ leg.status ≠ .cancelPending := by
  unfold filledStatus
  by_cases full : newFilled = leg.size
  · simp [full]
  · by_cases cancelled : leg.status = .cancelled
    · simp [full, cancelled]
    · by_cases pending : leg.status = .cancelPending <;> simp [full, cancelled, pending]

theorem OrderLeg.CanBeStopped.applyFill {size price feeUsd : ℚ} (ready : leg.CanBeStopped)
    (fits : size ≤ leg.size - leg.filledSize)
    (acknowledged : leg.Acknowledged ∨ size = leg.size - leg.filledSize) :
    (leg.applyFill size price feeUsd timestamp).CanBeStopped := by
  intro working
  obtain ⟨partly, notCancelled, notPending⟩ := filledStatus_working_iff.mp working
  have room : size ≠ leg.size - leg.filledSize := fun whole => partly (by rw [whole]; ring)
  have resting : leg.status = .open ∨ leg.status = .partiallyFilled := by
    have status := acknowledged.resolve_right room
    simpa [OrderLeg.Acknowledged, notCancelled, notPending] using status
  obtain ⟨⟨named, -⟩, -⟩ := OrderLeg.cancellable_iff.mp (ready resting)
  refine OrderLeg.cancellable_iff.mpr ⟨⟨named, ?_⟩, ?_⟩
  · have left : leg.filledSize + size < leg.size := by
      have strict := lt_of_le_of_ne fits room
      linarith
    exact lt_max_of_lt_right (sub_pos.mpr left)
  · rcases working with h | h <;> simp [h]

theorem OrderLeg.Stopped.applyFill {size price feeUsd : ℚ} (stopped : leg.Stopped)
    (acknowledged : leg.Acknowledged ∨ size = leg.size - leg.filledSize) :
    (leg.applyFill size price feeUsd timestamp).Stopped := by
  by_contra working
  rw [OrderLeg.Stopped, not_and_or, not_not, not_not] at working
  obtain ⟨partly, notCancelled, notPending⟩ := filledStatus_working_iff.mp working
  have room : size ≠ leg.size - leg.filledSize := fun whole => partly (by rw [whole]; ring)
  have status := acknowledged.resolve_right room
  simp [OrderLeg.Acknowledged, notCancelled, notPending, stopped.1, stopped.2] at status

/-- The submission of a plan whose legs have size left, with order ids that are not
empty, leaves legs that the deadline can cancel. -/
theorem recordSubmission_entry (plan : OrderPlan) (room : ∀ leg ∈ plan.legs, leg.filledSize < leg.size)
    {accepted : Dict UUID String} (rejected : Finset UUID) (timestamp : Instant)
    (named : ∀ leg ∈ plan.legs, accepted.get? leg.id ≠ some "") :
    EntryLegs OrderLeg.CanBeStopped
      (recordSubmission (fromPlan plan) accepted rejected timestamp) := by
  refine ⟨?_, ?_, fun leg member => ?_⟩
  · refine WithinSize.map (fun leg member => ?_) fun leg =>
      (submittedLeg_kept accepted rejected timestamp leg).2.2
    have valid := plan.legs_valid member
    exact ⟨valid.fields.filled, valid.shape.within⟩
  · show hedgeLegs (plan.legs.map _) = []
    rw [hedgeLegs_map (submittedLeg_same _ _), List.map_eq_nil_iff]
    simp [hedgeLegs, OrderPlan.legs, plan.purposes.1, plan.purposes.2]
  · obtain ⟨source, inPlan, rfl⟩ := List.mem_map.mp member
    have left : 0 < source.remainingSize := lt_max_of_lt_right (sub_pos.mpr (room source inPlan))
    intro working
    unfold submittedLeg at working ⊢
    split at working
    · rename_i orderId answer
      have nonempty : orderId ≠ "" := fun blank => named source inPlan (blank ▸ answer)
      simp [OrderLeg.cancellable, OrderLeg.acknowledged, truthy, nonempty]
      exact left
    · split at working
      · simp [OrderLeg.inStatus] at working
      · rename_i unrejected
        have known := (plan.legs_valid inPlan).shape.working working
        rw [if_neg unrejected]
        exact OrderLeg.cancellable_iff.mpr ⟨⟨known, left⟩, by rcases working with h | h <;> simp [h]⟩

/-- A deadline that asks for cancellations leaves a cancelling group with stopped legs. -/
theorem onLegDeadline_stops (entry : EntryLegs OrderLeg.CanBeStopped state)
    (cancels : (onLegDeadline state timestamp).2.action = .cancelOrders) :
    EntryLegs OrderLeg.Stopped (onLegDeadline state timestamp).1 ∧
      (onLegDeadline state timestamp).1.group.status = .cancelling := by
  unfold onLegDeadline at cancels ⊢
  by_cases early : timestamp < state.group.legDeadlineAt ∨ state.group.status ∈ settledStatuses
  · rw [if_pos early] at cancels
    cases cancels
  rw [if_neg early] at cancels ⊢
  by_cases asked : cancelIds state.legs ≠ []
  · rw [if_pos asked]
    refine ⟨⟨?_, ?_, fun leg member => ?_⟩, rfl⟩
    · exact entry.within.map fun leg => (deadlineLeg_kept timestamp leg).2.2
    · show hedgeLegs (state.legs.map _) = []
      rw [hedgeLegs_map deadlineLeg_same, entry.entries, List.map_nil]
    · obtain ⟨source, inLegs, rfl⟩ := List.mem_map.mp member
      unfold deadlineLeg
      by_cases cancellable : source.cancellable = true
      · rw [if_pos cancellable]
        simp [OrderLeg.Stopped, OrderLeg.inStatus]
      · rw [if_neg cancellable]
        exact not_or.mp (mt (entry.good source inLegs) cancellable)
  · rw [if_neg asked, terminalWithoutWorkingOrders_action] at cancels
    split at cancels <;> cases cancels

/-- Fills leave a cancelling group cancelling. -/
theorem FillStep.cancelling (step : FillStep state call next)
    (cancelling : state.group.status = .cancelling) : next.group.status = .cancelling := by
  rcases recordFill_cases step with ⟨-, rfl⟩ | ⟨-, -, -, rfl⟩
  · exact cancelling
  · simp [refreshInventory, refreshedStatus, cancelling]

/-- The legs of a cancelling group after a confirmation. -/
theorem confirmedState_stopped {cancelled : Finset String} (entry : EntryLegs OrderLeg.Stopped state)
    (settled : ∀ leg ∈ (confirmedState state cancelled timestamp).legs, leg.status ≠ .cancelPending) :
    ∀ leg ∈ (confirmedState state cancelled timestamp).legs, ¬ leg.Working := by
  intro leg member
  have notPending := settled leg member
  obtain ⟨source, inLegs, rfl⟩ := List.mem_map.mp member
  have stopped : (confirmedLeg cancelled timestamp source).Stopped := by
    unfold confirmedLeg
    split
    · simp [OrderLeg.Stopped, OrderLeg.inStatus]
    · exact entry.good source inLegs
  simp [OrderLeg.Working, stopped.1, stopped.2, notPending]

end Phases

/-! ### After the hedge -/

/-- The hedge leg while it is filled: the group is `HEDGING` until the leg is full and
`PAIRED` from then on. -/
structure HedgeProgress (others : List OrderLeg) (hedge : OrderLeg) (state : OrderGroupState)
    (leg : OrderLeg) : Prop where
  legs : state.legs = others ++ [leg]
  id : leg.id = hedge.id
  side : leg.side = .buy
  outcome : leg.outcome = hedge.outcome
  purpose : leg.purpose = .imbalanceHedge
  size : leg.size = hedge.size
  nonneg : 0 ≤ leg.filledSize
  within : leg.filledSize ≤ leg.size
  unfinished : leg.filledSize < leg.size →
    state.group.status = .hedging ∧ leg.status ∈ [OrderLegStatus.planned, .open, .partiallyFilled]
  finished : leg.filledSize = leg.size → state.group.status = .paired ∧
    state.group.directionalYesSize = 0 ∧ state.group.directionalNoSize = 0

/-- A hedge leg that makes up for the difference of the other legs, under an id of its
own. -/
structure Hedges (others : List OrderLeg) (hedge : OrderLeg) : Prop where
  fresh : ∀ leg ∈ others, leg.id ≠ hedge.id
  entries : hedgeLegs others = []
  nonneg : ∀ outcome, 0 ≤ bought outcome others
  smaller : ∀ outcome ≠ hedge.outcome, bought hedge.outcome others < bought outcome others
  size : hedge.size = |bought .yes others - bought .no others|

section Hedging

variable {others : List OrderLeg} {hedge leg : OrderLeg} {state next : OrderGroupState}
  {timestamp : Instant}

theorem bought_snoc (outcome : Outcome) (others : List OrderLeg) (leg : OrderLeg)
    (buys : leg.side = .buy) :
    bought outcome (others ++ [leg]) =
      bought outcome others + if leg.outcome = outcome then leg.filledSize else 0 := by
  rw [bought_append, bought_cons, bought_nil, add_zero]
  simp [buys]

/-- A full hedge leg evens out the two outcomes. -/
theorem Hedges.even (hedges : Hedges others hedge) (buys : leg.side = .buy)
    (outcome : leg.outcome = hedge.outcome) (full : leg.filledSize = hedge.size) :
    bought .yes (others ++ [leg]) = bought .no (others ++ [leg]) ∧
      0 < bought .no (others ++ [leg]) := by
  rw [bought_snoc .yes others leg buys, bought_snoc .no others leg buys, full, hedges.size, outcome]
  have smaller := hedges.smaller
  cases named : hedge.outcome with
  | yes =>
      rw [named] at smaller
      have less := smaller .no (by decide)
      have least := hedges.nonneg .yes
      rw [abs_of_neg (by linarith)]
      refine ⟨by simp, by simp; linarith⟩
  | no =>
      rw [named] at smaller
      have less := smaller .yes (by decide)
      have least := hedges.nonneg .no
      rw [abs_of_pos (by linarith)]
      refine ⟨by simp, by simp; linarith⟩

/-- The hedge leg is the only one, so its status is the one that a refresh looks at. -/
theorem Hedges.terminal_iff (hedges : Hedges others hedge) (purpose : leg.purpose = .imbalanceHedge) :
    hedgesTerminal (others ++ [leg]) = true ↔ leg.isTerminal = true := by
  have only : hedgeLegs (others ++ [leg]) = [leg] := by
    unfold hedgeLegs
    rw [List.filter_append, show others.filter _ = [] from hedges.entries]
    simp [purpose]
  simp [hedgesTerminal, only]

/-- A change of the hedge leg leaves the others alone. -/
theorem Hedges.map_others (hedges : Hedges others hedge) {change : OrderLeg → OrderLeg}
    (elsewhere : ∀ other : OrderLeg, other.id ≠ hedge.id → change other = other) :
    (others ++ [leg]).map change = others ++ [change leg] := by
  rw [List.map_append, List.map_singleton]
  congr 1
  calc others.map change = others.map id := List.map_congr_left fun other member =>
        elsewhere other (hedges.fresh other member)
    _ = others := List.map_id _

theorem HedgeProgress.submitted (hedges : Hedges others hedge)
    (progress : HedgeProgress others hedge state leg) {orderId : Option String}
    {action : OrderManagerAction} (named : truthy orderId = true)
    (accepted : recordHedgeSubmission state hedge.id orderId timestamp = .ok (next, action)) :
    ∃ leg, HedgeProgress others hedge next leg := by
  obtain ⟨-, -, result⟩ := recordHedgeSubmission_ok_iff.mp accepted
  dsimp only at result
  rw [if_pos named, progress.legs, hedges.map_others fun other differs => by
    rw [hedgeSubmittedLeg, if_pos differs]] at result
  cases result
  have acknowledged : hedgeSubmittedLeg hedge.id orderId timestamp leg =
      leg.acknowledged (orderId.getD "") timestamp := by
    rw [hedgeSubmittedLeg, if_neg (not_not.mpr progress.id), if_pos named]
  refine ⟨leg.acknowledged (orderId.getD "") timestamp, by rw [acknowledged], progress.id,
    progress.side, progress.outcome, progress.purpose, progress.size, progress.nonneg,
    progress.within, fun open' => ⟨(progress.unfinished open').1, ?_⟩, progress.finished⟩
  simp [OrderLeg.acknowledged]

/-- A refresh of a hedging group waits for the hedge leg. -/
theorem refreshInventory_hedging (hedges : Hedges others hedge) (legs : state.legs = others ++ [leg])
    (purpose : leg.purpose = .imbalanceHedge) (hedging : state.group.status = .hedging)
    (partly : leg.status = .partiallyFilled) :
    (refreshInventory state timestamp false).group.status = .hedging := by
  have runs : hedgesTerminal state.legs = false := by
    rw [Bool.eq_false_iff, legs, Ne, hedges.terminal_iff purpose]
    simp [OrderLeg.isTerminal, terminalOrderLegStatuses, partly]
  simp [refreshInventory, refreshedStatus, hedging, runs]

/-- A refresh pairs an even group whose hedge leg is full. -/
theorem refreshInventory_hedged (hedges : Hedges others hedge) (legs : state.legs = others ++ [leg])
    (purpose : leg.purpose = .imbalanceHedge) (hedging : state.group.status = .hedging)
    (filled : leg.status = .filled)
    (even : bought .yes state.legs = bought .no state.legs) (some : 0 < bought .no state.legs) :
    (refreshInventory state timestamp false).group.status = .paired := by
  have ended : hedgesTerminal state.legs = true := by
    rw [legs, hedges.terminal_iff purpose]
    simp [OrderLeg.isTerminal, terminalOrderLegStatuses, filled]
  simp [refreshInventory, boughtByOutcome, refreshedStatus, hedging, ended, even, some]

theorem HedgeProgress.filled (hedges : Hedges others hedge)
    (progress : HedgeProgress others hedge state leg) {fillId : String} {size price feeUsd : ℚ}
    (accepted : recordFill state fillId hedge.id size price feeUsd timestamp = .ok next) :
    ∃ leg, HedgeProgress others hedge next leg := by
  rcases recordFill_cases accepted with ⟨-, rfl⟩ | ⟨-, economics, fits, rfl⟩
  · exact ⟨leg, progress⟩
  have room := fits leg (by simp [progress.legs]) progress.id
  rw [OrderLeg.remainingSize_eq progress.within] at room
  have positive := economics.size_pos
  have unfinished := progress.unfinished (by linarith)
  have grown : state.legs.map (filledLeg hedge.id size price feeUsd timestamp) =
      others ++ [leg.applyFill size price feeUsd timestamp] := by
    rw [progress.legs, hedges.map_others fun other differs => by rw [filledLeg, if_neg differs],
      filledLeg, if_pos progress.id]
  refine ⟨leg.applyFill size price feeUsd timestamp, grown, progress.id, progress.side,
    progress.outcome, progress.purpose, progress.size, ?_, ?_, fun open' => ?_, fun full => ?_⟩
  · exact add_nonneg progress.nonneg positive.le
  · show leg.filledSize + size ≤ leg.size
    linarith
  · have partly : (leg.applyFill size price feeUsd timestamp).status = .partiallyFilled := by
      have open'' : leg.filledSize + size < leg.size := open'
      have status := unfinished.2
      simp only [List.mem_cons, List.not_mem_nil, or_false] at status
      simp only [OrderLeg.applyFill, filledStatus, open''.ne, if_false]
      rcases status with h | h | h <;> simp [h]
    exact ⟨refreshInventory_hedging hedges grown progress.purpose unfinished.1 partly,
      by simp [partly]⟩
  · have filled : (leg.applyFill size price feeUsd timestamp).status = .filled := by
      have whole : leg.filledSize + size = leg.size := full
      simp [OrderLeg.applyFill, filledStatus, whole]
    have level : bought .yes (others ++ [leg.applyFill size price feeUsd timestamp]) =
        bought .no (others ++ [leg.applyFill size price feeUsd timestamp]) ∧
        0 < bought .no (others ++ [leg.applyFill size price feeUsd timestamp]) :=
      hedges.even progress.side progress.outcome (full.trans progress.size)
    rw [← grown] at level
    obtain ⟨even, some⟩ := level
    refine ⟨refreshInventory_hedged hedges grown progress.purpose unfinished.1 filled even some,
      ?_, ?_⟩
    · simp [refreshInventory, boughtByOutcome, even]
    · simp [refreshInventory, boughtByOutcome, even]

theorem HedgeProgress.run {manager : PairOrderManager} {calls : List ManagerCall}
    {final : OrderGroupState} (hedges : Hedges others hedge)
    (progress : HedgeProgress others hedge state leg) (run : Run manager.Step state calls final)
    (only : ∀ call ∈ calls, call.FillsHedge hedge.id) : ∃ leg, HedgeProgress others hedge final leg := by
  refine (run.of_labels only).invariant
    (P := fun state => ∃ leg, HedgeProgress others hedge state leg) ?_ ⟨leg, progress⟩
  rintro state call next ⟨leg, progress⟩ ⟨step, fills⟩
  cases call with
  | recordFill fillId legId size price feeUsd timestamp =>
      cases fills
      exact progress.filled hedges step
  | recordHedgeSubmission legId orderId timestamp =>
      obtain ⟨rfl, named⟩ := fills
      obtain ⟨⟨_, action⟩, accepted, rfl⟩ := Checked.map_ok_iff.mp step
      exact progress.submitted hedges named accepted
  | recordSubmission accepted rejected timestamp => exact fills.elim
  | onLegDeadline timestamp => exact fills.elim
  | confirmCancellations cancelled quote hedgeLegId timestamp => exact fills.elim
  | freezeAfterHedgeFailure reason timestamp => exact fills.elim

end Hedging

/-! ### Every confirmation -/

section Confirmation

variable {manager : PairOrderManager} {state : OrderGroupState} {timestamp : Instant}

theorem neededOutcome_smaller {legs : List OrderLeg} (imbalanced : imbalance legs ≠ 0) :
    ∀ outcome ≠ neededOutcome legs, bought (neededOutcome legs) legs < bought outcome legs := by
  have apart : bought .yes legs ≠ bought .no legs := fun even => imbalanced (by simp [imbalance, even])
  unfold neededOutcome
  by_cases more : bought .yes legs > bought .no legs
  · rw [if_pos more]
    intro outcome other
    cases outcome with
    | yes => exact more
    | no => exact absurd rfl other
  · rw [if_neg more]
    intro outcome other
    cases outcome with
    | yes => exact absurd rfl other
    | no => exact lt_of_le_of_ne (not_lt.mp more) apart

/-- The hedge leg makes up for the imbalance. -/
theorem hedgeLeg_hedges (within : WithinSize state.legs) (entries : hedgeLegs state.legs = [])
    (imbalanced : imbalance state.legs ≠ 0) {hedgeLegId : UUID}
    (fresh : ∀ leg ∈ state.legs, leg.id ≠ hedgeLegId) (quote : HedgeQuote) :
    Hedges state.legs (manager.hedgeLeg state quote hedgeLegId timestamp) where
  fresh := fresh
  entries := entries
  nonneg := within.bought_nonneg
  smaller := neededOutcome_smaller imbalanced
  size := rfl

theorem hedgeLeg_neutral {updated : OrderGroupState} (within : WithinSize updated.legs)
    (entries : hedgeLegs updated.legs = []) (imbalanced : imbalance updated.legs ≠ 0)
    {hedgeLegId : UUID} (fresh : ∀ leg ∈ updated.legs, leg.id ≠ hedgeLegId) {offered : HedgeQuote}
    (hedgeable : manager.hedgeable updated.legs offered)
    (stopped : ∀ leg ∈ updated.legs, ¬ leg.Working) (timestamp : Instant) :
    NeutralHedge manager updated.legs offered
      { updated with
        group := updated.group.inPhase .hedging timestamp
        legs := updated.legs ++ [manager.hedgeLeg updated offered hedgeLegId timestamp] }
      (manager.hedgeLeg updated offered hedgeLegId timestamp) := by
  have hedges : Hedges updated.legs (manager.hedgeLeg updated offered hedgeLegId timestamp) :=
    hedgeLeg_hedges within entries imbalanced fresh offered
  have valid := manager.hedgeLeg_valid updated offered hedgeLegId timestamp imbalanced
  refine ⟨by simp, rfl, hedges.smaller, rfl, hedgeable.2.1, hedgeable.2.2, fun leg member => ?_,
    fun calls final run only full => ?_⟩
  · rcases List.mem_append.mp member with old | new
    · exact stopped leg old
    · rw [List.mem_singleton.mp new]
      simp [OrderLeg.Working, PairOrderManager.hedgeLeg]
  · have start : HedgeProgress updated.legs (manager.hedgeLeg updated offered hedgeLegId timestamp)
        { updated with
          group := updated.group.inPhase .hedging timestamp
          legs := updated.legs ++ [manager.hedgeLeg updated offered hedgeLegId timestamp] }
        (manager.hedgeLeg updated offered hedgeLegId timestamp) := by
      refine ⟨rfl, rfl, rfl, rfl, rfl, rfl, le_rfl, valid.shape.within, fun _ => ⟨rfl, ?_⟩,
        fun none => ?_⟩
      · simp [PairOrderManager.hedgeLeg]
      · exact absurd none valid.fields.size.ne
    obtain ⟨leg, progress⟩ := start.run hedges run only
    exact progress.finished (full leg (by simp [progress.legs]) progress.id)

theorem confirmation_hedges_safely (entry : EntryLegs OrderLeg.Stopped state)
    (cancelling : state.group.status = .cancelling) : HedgesNeutralise manager state := by
  intro cancelled quote hedgeLegId timestamp fresh
  have same : ∀ outcome, bought outcome (confirmedState state cancelled timestamp).legs =
      bought outcome state.legs := fun outcome => bought_confirmed outcome state.legs
  have within : WithinSize (confirmedState state cancelled timestamp).legs :=
    entry.within.map fun leg => (confirmedLeg_kept cancelled timestamp leg).2.2
  have entries : hedgeLegs (confirmedState state cancelled timestamp).legs = [] := by
    show hedgeLegs (state.legs.map _) = []
    rw [hedgeLegs_map (confirmedLeg_same cancelled), entry.entries, List.map_nil]
  have ids : ∀ leg ∈ (confirmedState state cancelled timestamp).legs, leg.id ≠ hedgeLegId := by
    intro leg member
    obtain ⟨source, inLegs, rfl⟩ := List.mem_map.mp member
    rw [(confirmedLeg_same cancelled source).id]
    exact fresh source inLegs
  have phase : (confirmedState state cancelled timestamp).group.status = .cancelling := by
    rw [confirmedState_status, cancelling]
    simp
  have stopped : (∀ leg ∈ (confirmedState state cancelled timestamp).legs,
      leg.status ≠ .cancelPending) → ∀ leg ∈ (confirmedState state cancelled timestamp).legs,
      ¬ leg.Working := confirmedState_stopped entry
  have outcome := confirmCancellations_outcome manager state cancelled quote hedgeLegId timestamp
  generalize manager.confirmCancellations state cancelled quote hedgeLegId timestamp = result
    at outcome
  generalize confirmedState state cancelled timestamp = updated at *
  have sameImbalance : imbalance updated.legs = |bought .yes state.legs - bought .no state.legs| := by
    rw [imbalance, same, same]
  cases outcome with
  | waiting pending =>
      refine ⟨?_, fun _ _ settled => ?_, fun _ => ⟨rfl, phase⟩⟩
      · intro hedges
        cases hedges
      · obtain ⟨leg, member, waits⟩ := pending
        exact absurd waits (settled leg member)
  | level settled balanced =>
      rw [sameImbalance, abs_eq_zero, sub_eq_zero] at balanced
      refine ⟨fun hedges => ?_, fun apart => absurd balanced apart, ?_⟩
      · rw [terminalWithoutWorkingOrders_action] at hedges
        split at hedges <;> cases hedges
      · rintro ⟨leg, member, waits⟩
        rw [terminalWithoutWorkingOrders_legs] at member
        exact absurd waits (settled leg member)
  | frozen settled imbalanced refused =>
      refine ⟨?_, fun _ _ _ => rfl, ?_⟩
      · intro hedges
        cases hedges
      · rintro ⟨leg, member, waits⟩
        exact absurd waits (settled leg member)
  | hedged settled imbalanced offered hedgeable quoted =>
      refine ⟨fun _ => ⟨offered, _, quoted, rfl, ?_⟩, fun _ refused _ => ?_, ?_⟩
      · have neutral := hedgeLeg_neutral within entries imbalanced ids hedgeable (stopped settled)
          timestamp
        exact ⟨neutral.member, neutral.buys, by simpa only [same] using neutral.smaller,
          by simpa only [same] using neutral.size, neutral.available, neutral.bounded,
          neutral.stopped, neutral.neutral⟩
      · refine absurd hedgeable fun hedgeable => refused offered quoted ?_
        simpa only [PairOrderManager.hedgeable, neededOutcome, imbalance, same] using hedgeable
      · rintro ⟨leg, member, waits⟩
        rcases List.mem_append.mp member with old | new
        · exact absurd waits (settled leg old)
        · rw [List.mem_singleton.mp new] at waits
          cases waits

end Confirmation

/-- After every run from a plan in which no fill leaves a leg working whose order was
never acknowledged, every confirmation hedges safely. -/
theorem hedges_neutralise (manager : PairOrderManager) (plan : OrderPlan)
    (room : ∀ leg ∈ plan.legs, leg.filledSize < leg.size) {accepted : Dict UUID String}
    (named : ∀ leg ∈ plan.legs, accepted.get? leg.id ≠ some "") (rejected : Finset UUID)
    (submittedAt deadline : Instant) {fills later : List (LegFill × Instant)}
    {working state : OrderGroupState}
    (filled : Run AcknowledgedFill
      (recordSubmission (fromPlan plan) accepted rejected submittedAt) fills working)
    (cancels : (onLegDeadline working deadline).2.action = .cancelOrders)
    (filledLater : Run AcknowledgedFill (onLegDeadline working deadline).1 later state) :
    HedgesNeutralise manager state := by
  have ready : EntryLegs OrderLeg.CanBeStopped working := by
    refine filled.invariant (fun state call next entry step => entry.fill step ?_)
      (recordSubmission_entry plan room rejected submittedAt named)
    exact fun leg ready fits acknowledged => ready.applyFill fits acknowledged
  obtain ⟨stopped, cancelling⟩ := onLegDeadline_stops ready cancels
  obtain ⟨entry, phase⟩ := filledLater.invariant
    (P := fun state => EntryLegs OrderLeg.Stopped state ∧ state.group.status = .cancelling)
    (fun state call next now step => ⟨now.1.fill step
      fun leg stopped _ acknowledged => stopped.applyFill acknowledged,
      step.1.cancelling now.2⟩) ⟨stopped, cancelling⟩
  exact confirmation_hedges_safely entry phase

/-- One YES share before the deadline and one that races the cancellation. -/
def firstShare : LegFill × Instant := (⟨"first", 11, 1, 9 / 20, 0⟩, 2)
def racingShare : LegFill × Instant := (⟨"racing", 11, 1, 9 / 20, 0⟩, 2000001)

/-- Both shares are hedged. -/
theorem hedges_neutralise_race : ∃ working state,
    Run AcknowledgedFill (recordSubmission (fromPlan researchPlan)
      ((Dict.empty.set 11 "yes-order").set 12 "no-order") ∅ 1) [firstShare] working ∧
    Run AcknowledgedFill (onLegDeadline working 2000000).1 [racingShare] state ∧
    HedgesNeutralise .standard state ∧
    (PairOrderManager.standard.confirmCancellations state {"yes-order", "no-order"}
      (some missingSide) 13 2000002).2.hedgeLeg.map OrderLeg.size = some 2 := by
  have opened : FillsAcknowledged (recordSubmission (fromPlan researchPlan)
      ((Dict.empty.set 11 "yes-order").set 12 "no-order") ∅ 1) firstShare := by
    decide
  obtain ⟨working, first, cancels, resting, raced⟩ := Checked.exists_of_okAnd (show Checked.okAnd
    (recordFillAt (recordSubmission (fromPlan researchPlan)
      ((Dict.empty.set 11 "yes-order").set 12 "no-order") ∅ 1) firstShare)
    (fun working => (onLegDeadline working 2000000).2.action = .cancelOrders ∧
      FillsAcknowledged (onLegDeadline working 2000000).1 racingShare ∧
      Checked.okAnd (recordFillAt (onLegDeadline working 2000000).1 racingShare) (fun state =>
        (PairOrderManager.standard.confirmCancellations state {"yes-order", "no-order"}
          (some missingSide) 13 2000002).2.hedgeLeg.map OrderLeg.size = some 2)) = true by
      decide +kernel)
  obtain ⟨state, second, sized⟩ := Checked.exists_of_okAnd raced
  have filled : Run AcknowledgedFill _ [firstShare] working := .single ⟨first, opened⟩
  have later : Run AcknowledgedFill _ [racingShare] state := .single ⟨second, resting⟩
  refine ⟨working, state, filled, later, ?_, sized⟩
  exact hedges_neutralise .standard researchPlan (by decide) (by decide) ∅ 1 2000000
    filled cancels later

/-- A NO share on the leg that the exchange never answered for. -/
def unansweredShare : LegFill × Instant := (⟨"unanswered", 12, 1, 49 / 100, 0⟩, 2)

def yesSide : HedgeQuote :=
  ⟨.yes, "yes", 1 / 2, 3, 0, by decide, Literal.half_bounds, Literal.three_pos, Literal.zero_nonneg⟩

/-- The unanswered leg is partially filled while the hedge for its first share is
submitted. -/
theorem unanswered_leg_works_on : researchPlan.Unfilled ∧ ∃ working state,
    Run FillStep (recordSubmission (fromPlan researchPlan) (Dict.empty.set 11 "yes-order") ∅ 1)
      [unansweredShare] working ∧
    (onLegDeadline working 2000000).2.action = .cancelOrders ∧
    Run FillStep (onLegDeadline working 2000000).1 [] state ∧
    ¬ HedgesNeutralise .standard state := by
  obtain ⟨working, filled, cancels, fresh, hedges, leg, member, partly⟩ :=
    Checked.exists_of_okAnd (show Checked.okAnd
      (recordFillAt (recordSubmission (fromPlan researchPlan) (Dict.empty.set 11 "yes-order") ∅ 1)
        unansweredShare)
      (fun working => (onLegDeadline working 2000000).2.action = .cancelOrders ∧
        (∀ leg ∈ (onLegDeadline working 2000000).1.legs, leg.id ≠ 13) ∧
        (PairOrderManager.standard.confirmCancellations (onLegDeadline working 2000000).1
          {"yes-order"} (some yesSide) 13 2000001).2.action = .submitHedge ∧
        ∃ leg ∈ (PairOrderManager.standard.confirmCancellations (onLegDeadline working 2000000).1
          {"yes-order"} (some yesSide) 13 2000001).1.legs, leg.Working) = true by decide +kernel)
  refine ⟨researchPlan_unfilled, working, _, .single filled, cancels, .refl _, fun neutral => ?_⟩
  obtain ⟨_, _, -, -, hedge⟩ := (neutral {"yes-order"} (some yesSide) 13 2000001 fresh).hedged hedges
  exact hedge.stopped leg member partly

end Polybot
