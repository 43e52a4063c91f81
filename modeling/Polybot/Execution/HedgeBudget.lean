import Polybot.Execution.Finish

/-!
The time budget of a hedge.

`confirm_cancellations` gives a hedge leg a deadline of its own, `hedge_deadline`
after the leg is made. `on_leg_deadline` reads the deadline of the group only, so
a tick within the budget leaves the hedge alone exactly if it leaves the whole
group alone or if nothing it cancels carries the hedge's order id
(`hedge_budget_iff`). Legs keep their place in the group, and the place of a
hedge is how its leg is followed through a run.
-/

namespace Polybot

open Interaction

/-- What no operation of the order manager changes about a leg. -/
structure OrderLeg.SameTerms (leg next : OrderLeg) : Prop where
  id : next.id = leg.id
  purpose : next.purpose = leg.purpose
  deadlineAt : next.deadlineAt = leg.deadlineAt

theorem OrderLeg.SameTerms.rfl {leg : OrderLeg} : leg.SameTerms leg :=
  ⟨Eq.refl _, Eq.refl _, Eq.refl _⟩

/-- Legs keep their places and their terms, and new legs come last. -/
def LegsGrow (legs next : List OrderLeg) : Prop :=
  ∃ (change : OrderLeg → OrderLeg) (added : List OrderLeg),
    next = legs.map change ++ added ∧ ∀ leg : OrderLeg, leg.SameTerms (change leg)

theorem LegsGrow.rfl {legs : List OrderLeg} : LegsGrow legs legs :=
  ⟨id, [], by simp, fun _ => .rfl⟩

theorem LegsGrow.map {legs : List OrderLeg} {change : OrderLeg → OrderLeg}
    (same : ∀ leg : OrderLeg, leg.SameTerms (change leg)) : LegsGrow legs (legs.map change) :=
  ⟨change, [], by simp, same⟩

theorem LegsGrow.append {legs next : List OrderLeg} (grown : LegsGrow legs next)
    (more : List OrderLeg) : LegsGrow legs (next ++ more) := by
  obtain ⟨change, added, rfl, same⟩ := grown
  exact ⟨change, added ++ more, by simp, same⟩

section Operations

variable {state next : OrderGroupState} {timestamp : Instant}

theorem deadlineLeg_same (leg : OrderLeg) : leg.SameTerms (deadlineLeg timestamp leg) := by
  unfold deadlineLeg
  split
  · exact ⟨rfl, rfl, rfl⟩
  · exact .rfl

theorem confirmedLeg_same (cancelledOrderIds : Finset String) (leg : OrderLeg) :
    leg.SameTerms (confirmedLeg cancelledOrderIds timestamp leg) := by
  unfold confirmedLeg
  split
  · exact ⟨rfl, rfl, rfl⟩
  · exact .rfl

theorem submittedLeg_same (accepted : Dict UUID String) (rejected : Finset UUID) (leg : OrderLeg) :
    leg.SameTerms (submittedLeg accepted rejected timestamp leg) := by
  unfold submittedLeg
  split
  · exact ⟨rfl, rfl, rfl⟩
  · split
    · exact ⟨rfl, rfl, rfl⟩
    · exact .rfl

theorem filledLeg_same (legId : UUID) (size price feeUsd : ℚ) (leg : OrderLeg) :
    leg.SameTerms (filledLeg legId size price feeUsd timestamp leg) := by
  unfold filledLeg
  split
  · exact ⟨rfl, rfl, rfl⟩
  · exact .rfl

theorem hedgeSubmittedLeg_same (hedgeLegId : UUID) (orderId : Option String) (leg : OrderLeg) :
    leg.SameTerms (hedgeSubmittedLeg hedgeLegId orderId timestamp leg) := by
  unfold hedgeSubmittedLeg
  repeat' split
  · exact .rfl
  · exact ⟨rfl, rfl, rfl⟩
  · exact ⟨rfl, rfl, rfl⟩

theorem onLegDeadline_grows (state : OrderGroupState) (timestamp : Instant) :
    LegsGrow state.legs (onLegDeadline state timestamp).1.legs := by
  unfold onLegDeadline
  split
  · exact .rfl
  · split
    · exact .map deadlineLeg_same
    · rw [terminalWithoutWorkingOrders_legs]
      exact .map deadlineLeg_same

theorem confirmCancellations_grows (manager : PairOrderManager) (cancelled : Finset String)
    (quote : Option HedgeQuote) (hedgeLegId : UUID) :
    LegsGrow state.legs
      (manager.confirmCancellations state cancelled quote hedgeLegId timestamp).1.legs := by
  have confirmed : LegsGrow state.legs (confirmedState state cancelled timestamp).legs :=
    .map (confirmedLeg_same cancelled)
  have outcome := confirmCancellations_outcome manager state cancelled quote hedgeLegId timestamp
  generalize manager.confirmCancellations state cancelled quote hedgeLegId timestamp = result
    at outcome
  cases outcome with
  | waiting pending => exact confirmed
  | level settled balanced =>
      rw [terminalWithoutWorkingOrders_legs]
      exact confirmed
  | frozen settled imbalanced refused => exact confirmed
  | hedged settled imbalanced offered hedgeable quoted => exact confirmed.append _

/-- Every call keeps the legs in their places. -/
theorem PairOrderManager.Step.legs_grow {manager : PairOrderManager} {call : ManagerCall}
    (step : manager.Step state call next) : LegsGrow state.legs next.legs := by
  unfold PairOrderManager.Step at step
  cases call with
  | recordSubmission accepted rejected timestamp =>
      cases step
      exact .map (submittedLeg_same accepted rejected)
  | recordFill fillId legId size price feeUsd timestamp =>
      rcases recordFill_cases step with ⟨-, rfl⟩ | ⟨-, -, -, rfl⟩
      · exact .rfl
      · exact .map (filledLeg_same legId size price feeUsd)
  | onLegDeadline timestamp =>
      cases step
      exact onLegDeadline_grows state timestamp
  | confirmCancellations cancelled quote hedgeLegId timestamp =>
      cases step
      exact confirmCancellations_grows manager cancelled quote hedgeLegId
  | recordHedgeSubmission hedgeLegId orderId timestamp =>
      simp only [PairOrderManager.apply] at step
      cases result : Polybot.recordHedgeSubmission state hedgeLegId orderId timestamp with
      | error problem => simp [result, Except.map] at step
      | ok outcome =>
          simp only [result, Except.map, Except.ok.injEq] at step
          subst step
          obtain ⟨-, -, rfl⟩ := recordHedgeSubmission_ok_iff.mp result
          dsimp only
          split
          · exact .map (hedgeSubmittedLeg_same hedgeLegId orderId)
          · exact .map (hedgeSubmittedLeg_same hedgeLegId orderId)
  | freezeAfterHedgeFailure reason timestamp =>
      cases step
      exact .rfl

end Operations

/-- The leg at the place `index` has the terms of `leg`. -/
def HasTermsAt (index : Nat) (leg : OrderLeg) (state : OrderGroupState) : Prop :=
  ∃ now, state.legs[index]? = some now ∧ leg.SameTerms now

theorem HasTermsAt.step {manager : PairOrderManager} {index : Nat} {leg : OrderLeg}
    {state next : OrderGroupState} {call : ManagerCall} (terms : HasTermsAt index leg state)
    (step : manager.Step state call next) : HasTermsAt index leg next := by
  obtain ⟨now, placed, same⟩ := terms
  obtain ⟨change, added, grown, kept⟩ := step.legs_grow
  refine ⟨change now, ?_, (kept now).id.trans same.id, (kept now).purpose.trans same.purpose,
    (kept now).deadlineAt.trans same.deadlineAt⟩
  obtain ⟨bound, -⟩ := List.getElem?_eq_some_iff.mp placed
  rw [grown, List.getElem?_append_left (by simpa using bound), List.getElem?_map, placed]
  rfl

/-! ### The budget -/

/-- A tick at `timestamp` neither asks to cancel the order of the leg at `index`
nor changes the leg's status. -/
def SparesLeg (state : OrderGroupState) (index : Nat) (timestamp : Instant) : Prop :=
  ∀ leg, state.legs[index]? = some leg →
    (∀ orderId, leg.clobOrderId = some orderId →
      orderId ∉ (onLegDeadline state timestamp).2.orderIds) ∧
    (onLegDeadline state timestamp).1.legs[index]?.map OrderLeg.status = some leg.status

/-- The group is not due, or no leg that can be cancelled carries the order id of
the leg at `index`. -/
def OutOfReach (state : OrderGroupState) (index : Nat) (timestamp : Instant) : Prop :=
  (timestamp < state.group.legDeadlineAt ∨ state.group.status ∈ settledStatuses) ∨
    ∀ leg, state.legs[index]? = some leg →
      ∀ other ∈ state.legs, other.cancellable = true → other.clobOrderId ≠ leg.clobOrderId

/-- The order ids to cancel are those of the legs that can be cancelled. -/
theorem mem_cancelIds_iff {legs : List OrderLeg} {orderId : String} :
    orderId ∈ cancelIds legs ↔
      ∃ leg ∈ legs, leg.cancellable = true ∧ leg.clobOrderId = some orderId := by
  simp [cancelIds, List.mem_filterMap, and_assoc]

theorem cancellable_named {leg : OrderLeg} (cancellable : leg.cancellable = true) :
    ∃ orderId, leg.clobOrderId = some orderId := by
  obtain ⟨text, named, -⟩ := truthy_iff.mp
    (Bool.and_eq_true_iff.mp (Bool.and_eq_true_iff.mp cancellable).1).1
  exact ⟨text, named⟩

/-- A due tick asks to cancel every leg that can be cancelled, and marks no other. -/
theorem onLegDeadline_of_due {state : OrderGroupState} {timestamp : Instant}
    (due : ¬ (timestamp < state.group.legDeadlineAt ∨ state.group.status ∈ settledStatuses)) :
    (onLegDeadline state timestamp).2.orderIds = cancelIds state.legs ∧
      (onLegDeadline state timestamp).1.legs = state.legs.map (deadlineLeg timestamp) := by
  unfold onLegDeadline
  rw [if_neg due]
  by_cases pending : cancelIds state.legs = []
  · rw [if_neg (not_not.mpr pending), terminalWithoutWorkingOrders_legs, pending]
    refine ⟨?_, rfl⟩
    unfold terminalWithoutWorkingOrders
    dsimp only
    repeat' split
    all_goals rfl
  · rw [if_pos pending]
    exact ⟨rfl, rfl⟩

/-- A tick spares a leg exactly if the leg is out of its reach. -/
theorem sparesLeg_iff {state : OrderGroupState} {index : Nat} {timestamp : Instant} :
    SparesLeg state index timestamp ↔ OutOfReach state index timestamp := by
  unfold SparesLeg OutOfReach
  by_cases early : timestamp < state.group.legDeadlineAt ∨ state.group.status ∈ settledStatuses
  · have idle : onLegDeadline state timestamp = (state, .idle) := by
      unfold onLegDeadline
      rw [if_pos early]
    rw [idle]
    simp only [early, true_or, iff_true]
    intro leg placed
    exact ⟨fun _ _ => List.not_mem_nil, by rw [placed]; rfl⟩
  · obtain ⟨asked, marked⟩ := onLegDeadline_of_due early
    rw [asked, marked, or_iff_right early]
    refine forall_congr' fun leg => forall_congr' fun placed => ?_
    constructor
    · rintro ⟨spared, -⟩ other member cancellable same
      obtain ⟨orderId, named⟩ := cancellable_named cancellable
      exact spared orderId (same.symm.trans named)
        (mem_cancelIds_iff.mpr ⟨other, member, cancellable, named⟩)
    · intro apart
      refine ⟨fun orderId named asks => ?_, ?_⟩
      · obtain ⟨other, member, cancellable, same⟩ := mem_cancelIds_iff.mp asks
        exact apart other member cancellable (same.trans named.symm)
      · have kept : leg.cancellable = false := by
          by_contra cancellable
          exact apart leg (List.mem_of_getElem? placed) (by simpa using cancellable) rfl
        rw [List.getElem?_map, placed]
        simp [deadlineLeg, kept]

/-- The hedge leg that a confirmation asks to submit stands behind the legs before
it, and its deadline is its own. -/
theorem confirmCancellations_hedge {manager : PairOrderManager} {state : OrderGroupState}
    {cancelled : Finset String} {quote : Option HedgeQuote} {hedgeLegId : UUID}
    {timestamp : Instant} {hedge : OrderLeg}
    (added : (manager.confirmCancellations state cancelled quote hedgeLegId timestamp).2.hedgeLeg =
      some hedge) :
    (manager.confirmCancellations state cancelled quote hedgeLegId
        timestamp).1.legs[state.legs.length]? = some hedge ∧
      hedge.id = hedgeLegId ∧ hedge.purpose = .imbalanceHedge ∧
      hedge.deadlineAt = timestamp + manager.hedgeDeadline := by
  have outcome := confirmCancellations_outcome manager state cancelled quote hedgeLegId timestamp
  generalize manager.confirmCancellations state cancelled quote hedgeLegId timestamp = result
    at outcome added
  cases outcome with
  | waiting pending => cases added
  | level settled balanced =>
      rw [terminalWithoutWorkingOrders_hedgeLeg] at added
      cases added
  | frozen settled imbalanced refused => cases added
  | hedged settled imbalanced offered hedgeable quoted =>
      cases added
      refine ⟨?_, rfl, rfl, rfl⟩
      simp [confirmedState]

/-- In every run from a plan in which a confirmation adds a hedge leg, a tick within
the budget of the hedge spares its leg exactly if the leg is out of the tick's reach. -/
theorem hedge_budget_iff (manager : PairOrderManager) (plan : OrderPlan)
    {before after : List ManagerCall} {cancelled : Finset String} {quote : Option HedgeQuote}
    {hedgeLegId : UUID} {timestamp : Instant} {reached : OrderGroupState}
    (run : Run manager.Step (fromPlan plan)
      (before ++ .confirmCancellations cancelled quote hedgeLegId timestamp :: after) reached) :
    ∃ state, Run manager.Step (fromPlan plan) before state ∧
      ((manager.confirmCancellations state cancelled quote hedgeLegId
          timestamp).2.hedgeLeg.isSome →
        ∃ leg, reached.legs[state.legs.length]? = some leg ∧ leg.id = hedgeLegId ∧
          leg.purpose = .imbalanceHedge ∧ leg.deadlineAt = timestamp + manager.hedgeDeadline ∧
          ∀ now < leg.deadlineAt, SparesLeg reached state.legs.length now ↔
            OutOfReach reached state.legs.length now) := by
  obtain ⟨state, earlier, later⟩ := run.split
  refine ⟨state, earlier, fun made => ?_⟩
  obtain ⟨hedge, added⟩ := Option.isSome_iff_exists.mp made
  obtain ⟨next, confirmed, onwards⟩ := Run.cons_iff.mp later
  obtain rfl : (manager.confirmCancellations state cancelled quote hedgeLegId timestamp).1 = next :=
    Except.ok.inj confirmed
  obtain ⟨placed, named, purpose, deadline⟩ := confirmCancellations_hedge added
  obtain ⟨leg, stands, same⟩ := onwards.invariant (P := HasTermsAt state.legs.length hedge)
    (fun _ _ _ terms step => terms.step step) ⟨hedge, placed, .rfl⟩
  exact ⟨leg, stands, same.id.trans named, same.purpose.trans purpose,
    same.deadlineAt.trans deadline, fun _ _ => sparesLeg_iff⟩

/-- The YES leg of the research plan fills, and the deadline cancels the NO leg. -/
def imbalancedCalls : List ManagerCall :=
  [.recordSubmission ((Dict.empty.set 11 "yes-order").set 12 "no-order") ∅ 1,
    .recordFill "f1" 11 3 (9 / 20) 0 2, .onLegDeadline 2000000]

/-- The missing NO side at 0.50. -/
def missingSide : HedgeQuote :=
  ⟨.no, "no-token", 1 / 2, 3, 0, by decide, by norm_num, by norm_num, le_rfl⟩

/-- The confirmation adds the hedge, and the exchange accepts it. -/
def hedgedCalls : List ManagerCall :=
  imbalancedCalls ++ .confirmCancellations {"no-order"} (some missingSide) 13 2000001 ::
    [.recordHedgeSubmission 13 (some "hedge-order") 2000002]

/-- The order of the hedge leg, its deadline, and what a tick within the budget asks
to cancel. -/
theorem hedgedCalls_reach : ∃ reached,
    Run PairOrderManager.standard.Step (fromPlan researchPlan) hedgedCalls reached ∧
      ∃ leg, reached.legs[2]? = some leg ∧ leg.clobOrderId = some "hedge-order" ∧
        "hedge-order" ∈ (onLegDeadline reached 2000003).2.orderIds := by
  obtain ⟨reached, replayed, placed, asked⟩ := Checked.exists_of_okAnd (show Checked.okAnd
    (hedgedCalls.foldlM PairOrderManager.standard.apply (fromPlan researchPlan))
    (fun reached => reached.legs[2]?.bind OrderLeg.clobOrderId = some "hedge-order" ∧
      "hedge-order" ∈ (onLegDeadline reached 2000003).2.orderIds) = true by decide +kernel)
  obtain ⟨leg, stands, named⟩ := Option.bind_eq_some_iff.mp placed
  exact ⟨reached, Run.foldlM_iff.mpr replayed, leg, stands, named, asked⟩

theorem imbalancedCalls_reach : ∃ state,
    Run PairOrderManager.standard.Step (fromPlan researchPlan) imbalancedCalls state ∧
      state.legs.length = 2 ∧
      (PairOrderManager.standard.confirmCancellations state {"no-order"} (some missingSide) 13
        2000001).2.hedgeLeg.isSome := by
  obtain ⟨state, replayed, checks⟩ := Checked.exists_of_okAnd (show Checked.okAnd
    (imbalancedCalls.foldlM PairOrderManager.standard.apply (fromPlan researchPlan))
    (fun state => state.legs.length = 2 ∧
      (PairOrderManager.standard.confirmCancellations state {"no-order"} (some missingSide) 13
        2000001).2.hedgeLeg.isSome) = true by decide +kernel)
  exact ⟨state, Run.foldlM_iff.mpr replayed, checks⟩

/-- Two microseconds after a hedge of four seconds was made, the next tick of its
group cancels it. -/
theorem hedge_cancelled_within_budget :
    ¬ ∀ (manager : PairOrderManager) (plan : OrderPlan) (before after : List ManagerCall)
        (cancelled : Finset String) (quote : Option HedgeQuote) (hedgeLegId : UUID)
        (timestamp : Instant) (state reached : OrderGroupState),
      Run manager.Step (fromPlan plan) before state →
      (manager.confirmCancellations state cancelled quote hedgeLegId timestamp).2.hedgeLeg.isSome →
      Run manager.Step (fromPlan plan)
        (before ++ .confirmCancellations cancelled quote hedgeLegId timestamp :: after) reached →
      ∀ now < timestamp + manager.hedgeDeadline, SparesLeg reached state.legs.length now := by
  intro spares
  obtain ⟨state, earlier, two, made⟩ := imbalancedCalls_reach
  obtain ⟨reached, run, leg, stands, named, asked⟩ := hedgedCalls_reach
  have spared := spares .standard researchPlan imbalancedCalls _ {"no-order"} (some missingSide) 13
    2000001 state reached earlier made run 2000003 (by decide)
  rw [two] at spared
  exact (spared leg stands).1 _ named asked

theorem hedgedCalls_budget : ∃ reached : OrderGroupState, ∃ leg, reached.legs[2]? = some leg ∧
    leg.deadlineAt = 2000001 + PairOrderManager.standard.hedgeDeadline ∧
    ∀ now < leg.deadlineAt, SparesLeg reached 2 now ↔ OutOfReach reached 2 now := by
  obtain ⟨state, earlier, two, made⟩ := imbalancedCalls_reach
  obtain ⟨reached, run, -⟩ := hedgedCalls_reach
  obtain ⟨state', earlier', budget⟩ := hedge_budget_iff .standard researchPlan run
  obtain rfl : state' = state := Except.ok.inj
    ((Run.foldlM_iff.mp earlier').symm.trans (Run.foldlM_iff.mp earlier))
  rw [two] at budget
  obtain ⟨leg, stands, -, -, deadline, iff⟩ := budget made
  exact ⟨reached, leg, stands, deadline, iff⟩

end Polybot
