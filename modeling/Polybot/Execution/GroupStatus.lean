import Polybot.Execution.Finish
import Polybot.Execution.Serving

/-!
The durable status of a group.

A request leaves the row of a group alone or stores its next version, so what was
read of the status at a version stays true. The second half says which operations
of the order manager leave FROZEN: `on_leg_deadline` does not act on such a
state, and `confirm_cancellations` does whenever it finds nothing pending and
either no imbalance or a bounded hedge for it.
-/

namespace Polybot

open Checked Interaction

/-- The durable status of the group is FROZEN. -/
def Database.Frozen (db : Database) (accountId : String) (groupId : UUID) : Prop :=
  ∃ row, db.group? accountId groupId = some row ∧ row.status = .frozen

/-- The request submits a hedge. -/
def CoordinatorRequest.SubmitsHedge : CoordinatorRequest → Prop
  | submit _ _ => True
  | _ => False

/-- At `version` the group has, had or will have the status `status`. -/
def Database.Knows (db : Database) (accountId : String) (groupId : UUID) (version : Nat)
    (status : OrderGroupStatus) : Prop :=
  ∃ row, db.group? accountId groupId = some row ∧ version ≤ row.version ∧
    (row.version = version → row.status = status)

/-- The group is at `version` with the status `status`. -/
def Database.At (db : Database) (accountId : String) (groupId : UUID) (version : Nat)
    (status : OrderGroupStatus) : Prop :=
  ∃ row, db.group? accountId groupId = some row ∧ row.version = version ∧ row.status = status

/-- No row is lost, and a row only changes with its version. -/
def Database.Advances (db next : Database) : Prop :=
  ∀ accountId groupId row, db.group? accountId groupId = some row →
    ∃ later, next.group? accountId groupId = some later ∧
      (later = row ∨ row.version < later.version)

variable {markets : List MarketRow} {db next : Database} {accountId : String} {groupId : UUID}
  {version : Nat} {status : OrderGroupStatus}

theorem Database.At.knows (here : db.At accountId groupId version status) :
    db.Knows accountId groupId version status := by
  obtain ⟨row, found, rfl, stored⟩ := here
  exact ⟨row, found, le_rfl, fun _ => stored⟩

theorem Database.At.not_frozen (here : db.At accountId groupId version status)
    (moving : status ≠ .frozen) : ¬ db.Frozen accountId groupId := by
  rintro ⟨other, again, frozen⟩
  obtain ⟨row, found, -, stored⟩ := here
  rw [again] at found
  cases found
  exact moving (stored.symm.trans frozen)

theorem Database.Knows.advance (knows : db.Knows accountId groupId version status)
    (advances : db.Advances next) : next.Knows accountId groupId version status := by
  obtain ⟨row, found, before, same⟩ := knows
  obtain ⟨later, still, rfl | ahead⟩ := advances accountId groupId row found
  · exact ⟨later, still, before, same⟩
  · exact ⟨later, still, by omega, fun here => by omega⟩

/-! ### Steps of the database -/

/-- Another row, or the new one, after a group row was replaced. -/
theorem Database.Consistent.group?_replace {before row : GroupRow} (consistent : db.Consistent)
    (afterwards : next.Consistent) (after : GroupRow) (member : before ∈ db.groups)
    (same : after.id = before.id ∧ after.accountId = before.accountId)
    (groups : next.groups = Table.replace GroupRow.id db.groups before.id after)
    (found : db.group? accountId groupId = some row) :
    next.group? accountId groupId = some row ∨
      row = before ∧ next.group? accountId groupId = some after := by
  obtain ⟨inDb, rfl, rfl⟩ := Database.group?_some found
  by_cases here : row.id = before.id
  · have : row = before := Table.eq_of_key consistent.groupIds inDb member here
    subst this
    refine .inr ⟨rfl, ?_⟩
    rw [← same.1, ← same.2]
    exact afterwards.group?_eq (groups ▸ Table.new_mem_replace inDb rfl)
  · exact .inl (afterwards.group?_eq (groups ▸ Table.mem_replace_of_ne inDb here))

/-- What a request may do to the row of a group. -/
def CoordinatorRequest.Stores (accountId : String) (groupId : UUID) (row later : GroupRow) :
    CoordinatorRequest → Prop
  | commitPairGroupTransition account expected group _ _ =>
      account = accountId ∧ group.id = groupId ∧ row.version = expected ∧
        later.status = group.status
  | commitPairFill _ _ _ _ _ => row.status = .frozen → later.status = .frozen
  | _ => False

/-- A served request leaves the row of a group alone, or stores the next version
of it. -/
theorem Served.groupRow {event : CoordinatorEvent} {row : GroupRow} (consistent : db.Consistent)
    (served : Served markets db event next) (found : db.group? accountId groupId = some row) :
    ∃ later, next.group? accountId groupId = some later ∧
      (later = row ∨ later.version = row.version + 1 ∧
        event.request.Stores accountId groupId row later) := by
  have afterwards := served.consistent consistent
  rcases served.rpc with rfl | ⟨now, call, calls, step⟩
  · exact ⟨row, found, .inl rfl⟩
  · obtain ⟨request, answer⟩ := event
    unfold RpcStep Database.apply at step
    cases request with
    | persistPairOrderPlan account group scope legs =>
        cases calls
        obtain ⟨⟨persisted, _⟩, done, rfl⟩ := map_ok_iff.mp step
        obtain ⟨inDb, rfl, rfl⟩ := Database.group?_some found
        refine ⟨row, afterwards.group?_eq ?_, .inl rfl⟩
        cases persistPairOrderPlan_ok done with
        | refused => exact inDb
        | stored _ _ _ _ _ _ stored =>
            rw [stored]
            exact List.mem_append_left _ inDb
    | commitPairGroupTransition account expected group legs reason =>
        cases calls
        obtain ⟨⟨committed, _⟩, done, rfl⟩ := map_ok_iff.mp step
        cases commitPairGroupTransition_ok done with
        | stale => exact ⟨row, found, .inl rfl⟩
        | committed before _ locked _ raised _ _ _ _ run =>
            obtain ⟨member, owner, named, expects⟩ := Database.lockGroup_some locked
            have groups := run.invariant (P := fun later => later.groups = Table.replace GroupRow.id
              db.groups before.id (before.updated group group.status group.version now))
              (fun _ _ _ same step => step.groups.trans same) rfl
            rcases consistent.group?_replace afterwards
              (before.updated group group.status group.version now) member ⟨rfl, rfl⟩ groups found with
              kept | ⟨rfl, stored⟩
            · exact ⟨row, kept, .inl rfl⟩
            · obtain ⟨-, rfl, rfl⟩ := Database.group?_some found
              refine ⟨_, stored, .inr ⟨?_, owner.symm, named.symm, expects, rfl⟩⟩
              rw [expects]
              exact raised
    | commitPairFill account expected fill group legs =>
        cases calls
        obtain ⟨⟨committed, _⟩, done, rfl⟩ := map_ok_iff.mp step
        cases commitPairFill_ok done with
        | duplicate => exact ⟨row, found, .inl rfl⟩
        | conflict => exact ⟨row, found, .inl rfl⟩
        | applied before legBefore target inventory _ locked _ _ _ _ _ facts _ _ _ _ =>
            obtain ⟨member, -, -, expects⟩ := Database.lockGroup_some locked
            rcases consistent.group?_replace afterwards
              (before.updated group group.status (expected + 1) now) member ⟨rfl, rfl⟩ rfl found with
              kept | ⟨rfl, stored⟩
            · exact ⟨row, kept, .inl rfl⟩
            · refine ⟨_, stored, .inr ⟨?_, fun frozen => ?_⟩⟩
              · rw [expects]
                rfl
              · have demanded := facts.groupStatus
                unfold expectedGroupStatus at demanded
                rwa [if_pos (.inl frozen), frozen] at demanded
    | _ => cases calls

theorem Served.advances {event : CoordinatorEvent} (consistent : db.Consistent)
    (served : Served markets db event next) : db.Advances next := by
  intro accountId groupId row found
  obtain ⟨later, still, rfl | ⟨ahead, -⟩⟩ := served.groupRow consistent found
  · exact ⟨later, still, .inl rfl⟩
  · exact ⟨later, still, .inr (by omega)⟩

/-! ### Transitions of the order manager -/

/-- What keeps `confirm_cancellations` from leaving FROZEN: a cancellation that is
still pending, or an imbalance without a bounded hedge. -/
def PairOrderManager.Unresolved (manager : PairOrderManager) (cancelled : Finset String)
    (quote : Option HedgeQuote) (legs : List OrderLeg) : Prop :=
  (∃ leg ∈ legs, leg.status = .cancelPending ∧ leg.cancelConfirmed cancelled = false) ∨
    imbalance legs ≠ 0 ∧ ∀ offered ∈ quote, ¬ manager.hedgeable legs offered

/-- A reconciled FROZEN state stays FROZEN exactly if it is unresolved. -/
theorem confirmCancellations_frozen_iff (manager : PairOrderManager) {state : OrderGroupState}
    (frozen : state.group.status = .frozen) (cancelled : Finset String) (quote : Option HedgeQuote)
    (hedgeLegId : UUID) (timestamp : Instant) :
    (manager.confirmCancellations state cancelled quote hedgeLegId timestamp).1.group.status =
      .frozen ↔ manager.Unresolved cancelled quote state.legs := by
  have same : ∀ outcome, bought outcome (confirmedState state cancelled timestamp).legs =
      bought outcome state.legs := fun outcome => bought_confirmed outcome state.legs
  have sameImbalance : imbalance (confirmedState state cancelled timestamp).legs =
      imbalance state.legs := by
    simp only [imbalance, same]
  have hedges : ∀ offered, manager.hedgeable (confirmedState state cancelled timestamp).legs offered ↔
      manager.hedgeable state.legs offered := by
    simp only [PairOrderManager.hedgeable, neededOutcome, imbalance, same, implies_true]
  have pending : (∃ leg ∈ (confirmedState state cancelled timestamp).legs,
        leg.status = .cancelPending) ↔
      ∃ leg ∈ state.legs, leg.status = .cancelPending ∧ leg.cancelConfirmed cancelled = false := by
    simp [confirmedState, confirmedLeg_pending_iff]
  have phase : (confirmedState state cancelled timestamp).group.status = .frozen := by
    rw [confirmedState_status, frozen]
    simp
  have outcome := confirmCancellations_outcome manager state cancelled quote hedgeLegId timestamp
  generalize manager.confirmCancellations state cancelled quote hedgeLegId timestamp = result
    at outcome
  generalize confirmedState state cancelled timestamp = updated at *
  unfold PairOrderManager.Unresolved
  rw [← pending, ← sameImbalance]
  cases outcome with
  | waiting left => exact iff_of_true phase (.inl left)
  | level settled balanced =>
      refine iff_of_false ?_ ?_
      · have even : bought .yes updated.legs = bought .no updated.legs :=
          sub_eq_zero.mp (abs_eq_zero.mp balanced)
        rw [terminalWithoutWorkingOrders_status, if_pos even]
        rcases finishStatus_cases updated with h | h <;> simp [h]
      · rintro (⟨leg, member, waits⟩ | ⟨imbalanced, -⟩)
        · exact settled leg member waits
        · exact imbalanced balanced
  | frozen settled imbalanced refused =>
      exact iff_of_true rfl (.inr ⟨imbalanced, fun offered quoted hedgeable =>
        refused offered quoted ((hedges offered).mpr hedgeable)⟩)
  | hedged settled imbalanced offered hedgeable quoted =>
      refine iff_of_false (by simp [OrderGroup.inPhase]) ?_
      rintro (⟨leg, member, waits⟩ | ⟨-, refused⟩)
      · exact settled leg member waits
      · exact refused offered quoted ((hedges offered).mp hedgeable)

/-- A hedge is asked for in a HEDGING group only. -/
theorem confirmCancellations_hedging {manager : PairOrderManager} {state : OrderGroupState}
    {cancelled : Finset String} {quote : Option HedgeQuote} {hedgeLegId : UUID}
    {timestamp : Instant}
    (hedges : (manager.confirmCancellations state cancelled quote hedgeLegId timestamp).2.action =
      .submitHedge) :
    (manager.confirmCancellations state cancelled quote hedgeLegId timestamp).1.group.status =
      .hedging := by
  have outcome := confirmCancellations_outcome manager state cancelled quote hedgeLegId timestamp
  generalize manager.confirmCancellations state cancelled quote hedgeLegId timestamp = result
    at outcome hedges
  cases outcome with
  | waiting pending => cases hedges
  | level settled balanced =>
      rw [terminalWithoutWorkingOrders_action] at hedges
      split at hedges <;> cases hedges
  | frozen settled imbalanced refused => cases hedges
  | hedged settled imbalanced offered hedgeable quoted => rfl

/-- `on_leg_deadline` acts on a group that is not FROZEN. -/
theorem onLegDeadline_not_frozen {state : OrderGroupState} {timestamp : Instant}
    (acts : (onLegDeadline state timestamp).2.action ≠ .none) : state.group.status ≠ .frozen := by
  intro frozen
  unfold onLegDeadline at acts
  rw [if_pos (.inr (by simp [frozen, settledStatuses]))] at acts
  exact acts rfl

end Polybot
