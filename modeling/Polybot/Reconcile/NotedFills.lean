import Polybot.Interaction.Log
import Polybot.Reconcile.FillCallback

/-!
A fill that is noted as delivered was delivered.

The reconciler notes a trade once the callback has returned for an update of it, and drops
what it is told of the trade from then on. The callback also returns when the update is
FAILED and when no leg has its order yet, and an update is about one order of its trade
only. `noted_fills_are_delivered`: a fill of a pair leg is dropped in these three ways or
not at all.
-/

namespace Polybot

open Checked Interaction

/-! ### What the callback does -/

section Callback

variable {callback : PairReconciledFillCallback} {coordinator : PairExecutionCoordinator}
  {fill : CoordinatorFill} {update : UserTradeUpdate}

/-- The payload is the one of the fill. -/
structure FillPayload.Of (payload : FillPayload) (fill : CoordinatorFill) : Prop where
  trade : payload.clobTradeId = fill.fillId
  group : payload.groupId = fill.groupId
  leg : payload.legId = fill.legId
  size : payload.size = fill.size

/-- The database applied the fill. -/
def AppliedIn (accountId : String) (fill : CoordinatorFill) (log : List BridgeEvent) : Prop :=
  ∃ expected payload group legs, payload.Of fill ∧
    (⟨.pairs (.commitPairFill accountId expected payload group legs), .ok AtomicFillCommit.applied⟩ :
      BridgeEvent) ∈ log

theorem fillArguments_of {bound : String} {state : OrderGroupState} {payload : FillPayload}
    (made : fillArguments bound fill state = .ok payload) : payload.Of fill := by
  unfold fillArguments at made
  obtain ⟨_, -, made⟩ := bind_ok_iff.mp made
  obtain ⟨_, -, made⟩ := bind_ok_iff.mp made
  obtain ⟨_, -, made⟩ := bind_ok_iff.mp made
  split at made
  · cases made
    exact ⟨rfl, rfl, rfl, rfl⟩
  · cases made

/-- A fill that the coordinator does not refuse is applied, or is a duplicate. -/
theorem onFill_takes {log : List CoordinatorEvent} {result : CoordinatorResult}
    (executes : Program.Execution (fun _ => True) (coordinator.onFill fill) log (.ok result))
    (taken : ¬ result.status.Refused) :
    result.status = .duplicate ∨ ∃ expected payload group legs, payload.Of fill ∧
      (⟨.commitPairFill coordinator.accountId expected payload group legs,
        .ok AtomicFillCommit.applied⟩ : CoordinatorEvent) ∈ log := by
  unfold PairExecutionCoordinator.onFill at executes
  split at executes
  · obtain ⟨-, rfl⟩ := Program.Execution.done_ok_iff.mp executes
    exact absurd (by decide) taken
  generalize coordinator.config.maximumCasRetries = retries at executes
  induction retries generalizing log with
  | zero =>
      obtain ⟨-, rfl⟩ := Program.Execution.done_ok_iff.mp executes
      exact absurd (by decide) taken
  | succ retries ih =>
      obtain ⟨loads, rest, before, rfl, -, onwards⟩ := Program.Execution.bind_ok_iff.mp executes
      split at onwards
      · obtain ⟨-, rfl⟩ := Program.Execution.done_ok_iff.mp onwards
        exact .inl rfl
      split at onwards
      · obtain ⟨-, rfl⟩ := Program.Execution.done_ok_iff.mp onwards
        exact absurd (by simp [CoordinatorStatus.Refused]) taken
      obtain ⟨commits, last, committed, rfl, commit, decided⟩ :=
        Program.Execution.bind_ok_iff.mp onwards
      obtain ⟨checks, asks, payload, rfl, made, asked⟩ := Program.Execution.bind_ok_iff.mp commit
      obtain ⟨rfl, computed⟩ := Program.Execution.lift_ok_iff.mp made
      obtain ⟨rfl, -⟩ := Program.Execution.ask_ok_iff.mp asked
      cases committed with
      | applied =>
          exact .inr ⟨_, payload, _, _, fillArguments_of computed,
            List.mem_append_right _ (List.mem_append_left _ List.mem_cons_self)⟩
      | duplicate =>
          obtain ⟨reloads, rest, latest, rfl, -, returned⟩ :=
            Program.Execution.bind_ok_iff.mp decided
          obtain ⟨-, rfl⟩ := Program.Execution.done_ok_iff.mp returned
          exact .inl rfl
      | conflict =>
          refine (ih decided).imp_right ?_
          rintro ⟨expected, other, group, legs, of, member⟩
          exact ⟨expected, other, group, legs, of, by simp [member]⟩

/-- The responses to a coordinator next to a reconciler. -/
theorem mem_beside {log : List CoordinatorEvent} {wide : List BridgeEvent}
    {request : CoordinatorRequest} {response : request.Response}
    (handled : Program.Handled (fun request => Program.ask (BridgeRequest.pairs request))
      BridgeError.asPython log wide) (member : (⟨request, .ok response⟩ : CoordinatorEvent) ∈ log) :
    (⟨.pairs request, .ok response⟩ : BridgeEvent) ∈ wide := by
  obtain ⟨front, part, back, rfl, asked⟩ := handled.part_of_ok member
  obtain ⟨rfl, -⟩ := Program.Execution.ask_ok_iff.mp asked
  simp

/-- The callback returned for the update after the coordinator applied its fill, or
recognised it as a duplicate. -/
def DeliveredIn (callback : PairReconciledFillCallback) (update : UserTradeUpdate)
    (log : List BridgeEvent) : Prop :=
  ∃ front resolved applied back fill result, log = front ++ (resolved ++ applied) ++ back ∧
    Program.Execution (fun _ => True) (callback.call update) (resolved ++ applied) (.ok ()) ∧
    Program.Execution (fun _ => True) (coordinatorFillForTrade callback.accountId update) resolved
      (.ok (some fill)) ∧
    Program.Execution (fun _ => True) (besideReconciler (callback.coordinator.onFill fill)) applied
      (.ok result) ∧
    (result.status = .duplicate ∨ AppliedIn callback.coordinator.accountId fill applied)

/-- The lookup found no leg with an order of the update. -/
def unmatchedEvent (accountId : String) (update : UserTradeUpdate) : BridgeEvent :=
  ⟨.legsOfOrders accountId update.candidateOrderIds, .ok ([] : List OrderLeg)⟩

/-- A leg that is found resolves to the fill of the update. -/
theorem fillOfLeg_ok {accountId : String} {leg : OrderLeg} {part : List BridgeEvent}
    {resolved : Option CoordinatorFill}
    (executes : Program.Execution (fun _ => True) (fillOfLeg accountId leg update) part
      (.ok resolved)) :
    ∃ fill, resolved = some fill ∧ coordinatorFill accountId leg update = .ok fill := by
  obtain ⟨_, _, (found : Option GroupRow), rfl, -, onwards⟩ :=
    Program.Execution.bind_ok_iff.mp executes
  cases found with
  | none => cases onwards
  | some row =>
      obtain ⟨_, _, (identity : String × Option String), rfl, -, onwards⟩ :=
        Program.Execution.bind_ok_iff.mp onwards
      dsimp only at onwards
      split at onwards
      · cases onwards
      obtain ⟨_, _, fill, rfl, made, returned⟩ := Program.Execution.bind_ok_iff.mp onwards
      obtain ⟨-, rfl⟩ := Program.Execution.done_ok_iff.mp returned
      exact ⟨fill, rfl, mapError_ok_iff.mp (Program.Execution.lift_ok_iff.mp made).2⟩

/-- How a trade is resolved: it failed, no leg has its order, or one leg does. -/
theorem coordinatorFillForTrade_ok {accountId : String} {part : List BridgeEvent}
    {resolved : Option CoordinatorFill}
    (executes : Program.Execution (fun _ => True) (coordinatorFillForTrade accountId update) part
      (.ok resolved)) :
    update.failed = true ∧ resolved = none ∨
      part = [unmatchedEvent accountId update] ∧ resolved = none ∨
      ∃ rows leg fill back,
        part = ⟨.legsOfOrders accountId update.candidateOrderIds, .ok (rows : List OrderLeg)⟩ ::
          back ∧ update.failed = false ∧ leg ∈ rows ∧ resolved = some fill ∧
        coordinatorFill accountId leg update = .ok fill := by
  unfold coordinatorFillForTrade at executes
  split at executes
  · rename_i failed
    exact .inl ⟨failed, (Program.Execution.done_ok_iff.mp executes).2.symm⟩
  rename_i live
  obtain ⟨looks, rest, (rows : List OrderLeg), rfl, looked, onwards⟩ :=
    Program.Execution.bind_ok_iff.mp executes
  obtain ⟨rfl, -⟩ := Program.Execution.ask_ok_iff.mp looked
  refine .inr ?_
  dsimp only at onwards
  split at onwards
  · rename_i none
    obtain ⟨rfl, rfl⟩ := Program.Execution.done_ok_iff.mp onwards
    subst none
    exact .inl ⟨rfl, rfl⟩
  split at onwards
  · rename_i leg matched
    obtain ⟨fill, rfl, made⟩ := fillOfLeg_ok onwards
    have member : leg ∈ rows := List.mem_of_mem_filter (matched ▸ List.mem_cons_self)
    exact .inr ⟨rows, leg, fill, rest, rfl, Bool.eq_false_iff.mpr live, member, rfl, made⟩
  · cases onwards

/-- What a callback that returned did. -/
theorem callback_returned {part : List BridgeEvent}
    (executes : Program.Execution (fun _ => True) (callback.call update) part (.ok ())) :
    update.failed = true ∨ part = [unmatchedEvent callback.accountId update] ∨
      DeliveredIn callback update part := by
  obtain ⟨resolved, applied, found, rfl, resolves, onwards⟩ :=
    Program.Execution.bind_ok_iff.mp executes
  cases found with
  | none =>
      obtain ⟨rfl, -⟩ := Program.Execution.done_ok_iff.mp onwards
      rw [List.append_nil]
      rcases coordinatorFillForTrade_ok resolves with ⟨failed, -⟩ | ⟨unmatched, -⟩ | found
      · exact .inl failed
      · exact .inr (.inl unmatched)
      · obtain ⟨_, _, _, _, -, -, -, same, -⟩ := found
        cases same
  | some fill =>
      obtain ⟨takes, rest, result, rfl, taking, decided⟩ :=
        Program.Execution.bind_ok_iff.mp onwards
      split at decided
      · cases decided
      rename_i taken
      obtain ⟨rfl, -⟩ := Program.Execution.done_ok_iff.mp decided
      rw [List.append_nil] at executes ⊢
      obtain ⟨log, handled, inside⟩ := Program.Execution.of_handle taking
      refine .inr (.inr ⟨[], resolved, takes, [], fill, result, by simp, executes, resolves, taking,
        (onFill_takes inside taken).imp_right ?_⟩)
      rintro ⟨expected, payload, group, legs, of, member⟩
      exact ⟨expected, payload, group, legs, of, mem_beside handled member⟩

end Callback

/-! ### When a trade is noted -/

/-- A trade is noted after the callback has returned for the persisted update, whose check
did not find the trade noted. -/
structure Notes (update : UserTradeUpdate) (log : List PassEvent) (event : PassEvent) : Prop where
  marks : ∀ clobTradeId, event.request = .memory (.markNotified clobTradeId) →
    clobTradeId = update.clobTradeId ∧ ∃ reads, log = reads ++ checkEvents update false ++
      [⟨.fillCallback update, .ok ()⟩]
  callbacks : ∀ other, event.request = .fillCallback other → other = update

theorem deliverFill_notes (update : UserTradeUpdate) (reads : List PassEvent) :
    (deliverFill update).Obeys (Notes update)
      (reads ++ [⟨.store (.reconcileTrade update), .ok ()⟩, ⟨.acquire .fillCallback, .ok ()⟩])
      fun _ _ => True := by
  refine fun checked => ⟨⟨fun _ => nofun, fun _ => nofun⟩, ?_⟩
  rcases checked with problem | (notified : Bool)
  · trivial
  cases notified with
  | true => trivial
  | false =>
      refine fun called => ⟨⟨fun _ => nofun, ?_⟩, ?_⟩
      · rintro other ⟨⟩
        rfl
      rcases called with problem | ⟨⟨⟩⟩
      · trivial
      refine Program.Obeys.ask (fun marked => ⟨?_, fun _ => nofun⟩) fun _ => trivial
      rintro clobTradeId ⟨⟩
      exact ⟨rfl, reads, by simp [checkEvents]⟩

theorem reconcileTradeAndNotify_notes (config : ReconcilerConfig) (update : UserTradeUpdate)
    (log : List PassEvent) :
    (reconcileTradeAndNotify config update).Obeys (Notes update) log fun _ _ => True := by
  refine Program.Obeys.bind (M := fun _ _ => True) ?_ fun ignored reads _ => ?_
  · unfold ignoresUpdate
    split
    · refine Program.Obeys.bind (M := fun _ _ => True) ?_ fun _ _ _ => trivial
      exact Program.Obeys.ask (fun _ => ⟨fun _ => nofun, fun _ => nofun⟩) fun _ => trivial
    · trivial
  split
  · trivial
  refine fun stored => ⟨⟨fun _ => nofun, fun _ => nofun⟩, ?_⟩
  rcases stored with problem | done
  · trivial
  show (if _ then _ else _ : PassProgram Unit).Obeys _ _ _
  split
  · refine fun acquired => ⟨⟨fun _ => nofun, fun _ => nofun⟩, ?_⟩
    rcases acquired with problem | held
    · trivial
    rw [List.append_assoc]
    refine ((deliverFill_notes update reads).attempt (F := fun _ => True) fun _ _ _ => trivial).bind
      fun delivered after _ => ?_
    refine Program.Obeys.bind (M := fun _ _ => True) ?_ fun _ _ _ =>
      Program.Obeys.lift fun _ _ => trivial
    exact Program.Obeys.ask (fun _ => ⟨fun _ => nofun, fun _ => nofun⟩) fun _ => trivial
  · trivial

/-- The update was persisted. -/
def persistedEvent (update : UserTradeUpdate) : BridgeEvent :=
  ⟨.reconciler (.store (.reconcileTrade update)), .ok ()⟩

/-- The check for the trade of the update did not find it noted, so that the callback is
called. -/
def calledEvent (update : UserTradeUpdate) : BridgeEvent :=
  ⟨.reconciler (.memory (.isNotified update.clobTradeId)), .ok false⟩

/-- The events up to the call of the callback. -/
def callingEvents (update : UserTradeUpdate) : List BridgeEvent :=
  [persistedEvent update, ⟨.reconciler (.acquire .fillCallback), .ok ()⟩, calledEvent update]

/-- A trade is noted after the callback has returned for the update of the call. -/
def NotesDelivery (callback : PairReconciledFillCallback) (call : BridgeCall)
    (log : List BridgeEvent) (event : BridgeEvent) : Prop :=
  ∀ clobTradeId, event.request = .reconciler (.memory (.markNotified clobTradeId)) →
    ∃ update front part, call = .trade update ∧ clobTradeId = update.clobTradeId ∧
      log = front ++ callingEvents update ++ part ∧
      Program.Execution (fun _ => True) (callback.call update) part (.ok ())

/-- The request is not one of the reconciler. -/
def BridgeRequest.Foreign (request : BridgeRequest) : Prop :=
  ∀ own, request ≠ .reconciler own

section Wide

variable {callback : PairReconciledFillCallback}

theorem besideReconciler_foreign {α : Type} (program : CoordinatorProgram α) :
    (besideReconciler program).Uses (fun _ => True) BridgeRequest.Foreign fun _ => True := by
  unfold besideReconciler
  refine Program.Uses.handle (fun request => ?_) program
  exact Program.Uses.ask (fun _ => nofun) fun _ _ => trivial

theorem fillOfLeg_foreign (accountId : String) (leg : OrderLeg) (update : UserTradeUpdate) :
    (fillOfLeg accountId leg update).Uses (fun _ => True) BridgeRequest.Foreign fun _ => True := by
  refine ⟨fun _ => nofun, fun found _ => ?_⟩
  rcases found with problem | (found : Option GroupRow)
  · trivial
  cases found with
  | none => trivial
  | some row =>
      refine ⟨fun _ => nofun, fun identity _ => ?_⟩
      rcases identity with problem | (identity : String × Option String)
      · trivial
      show (if _ then _ else _ : BridgeProgram (Option CoordinatorFill)).Uses _ _ _
      split
      · trivial
      · exact Program.Uses.bind (F := fun _ => True) (Program.Uses.lift fun _ _ => trivial)
          fun _ _ => trivial

theorem coordinatorFillForTrade_foreign (accountId : String) (update : UserTradeUpdate) :
    (coordinatorFillForTrade accountId update).Uses (fun _ => True) BridgeRequest.Foreign
      fun _ => True := by
  unfold coordinatorFillForTrade
  split
  · trivial
  refine ⟨fun _ => nofun, fun rows _ => ?_⟩
  rcases rows with problem | (rows : List OrderLeg)
  · trivial
  show (if _ then _ else _ : BridgeProgram (Option CoordinatorFill)).Uses _ _ _
  split
  · trivial
  split
  · exact fillOfLeg_foreign _ _ update
  · trivial

theorem deliver_foreign (fill : CoordinatorFill) :
    (callback.deliver fill).Uses (fun _ => True) BridgeRequest.Foreign fun _ => True := by
  unfold PairReconciledFillCallback.deliver
  refine (besideReconciler_foreign _).bind fun result _ => ?_
  split <;> trivial

theorem callback_foreign (update : UserTradeUpdate) :
    (callback.call update).Uses (fun _ => True) BridgeRequest.Foreign fun _ => True := by
  unfold PairReconciledFillCallback.call
  refine (coordinatorFillForTrade_foreign _ update).bind fun resolved _ => ?_
  cases resolved with
  | none => trivial
  | some fill => exact deliver_foreign fill

/-- A request of the reconciler is asked as it is, unless it is a callback. -/
theorem handler_cases (callback : PairReconciledFillCallback) (request : PassRequest) :
    (∃ update, request = .fillCallback update) ∨
      callback.handler request = Program.ask (BridgeRequest.reconciler request) := by
  cases request with
  | fillCallback update => exact .inl ⟨update, rfl⟩
  | _ => exact .inr rfl

/-- The last response, where it is none of a callback. -/
theorem handled_response {log : List PassEvent} {wide : List BridgeEvent} {request : PassRequest}
    {response : request.Response}
    (asked : callback.handler request = Program.ask (BridgeRequest.reconciler request))
    (handled : Program.Handled callback.handler BridgeError.asSettlement
      (log ++ [⟨request, .ok response⟩]) wide) :
    ∃ front, wide = front ++ [⟨.reconciler request, .ok response⟩] ∧
      Program.Handled callback.handler BridgeError.asSettlement log front := by
  obtain ⟨front, part, answer, rfl, before, executes, same⟩ := handled.snoc_inv
  cases answer with
  | error problem => cases same
  | ok response' =>
      cases same
      replace executes : Program.Execution (fun _ => True) (callback.handler request) part
        (.ok response) := executes
      rw [asked] at executes
      obtain ⟨rfl, -⟩ := Program.Execution.ask_ok_iff.mp executes
      exact ⟨front, rfl, before⟩

theorem notesDelivery_of_answering {update : UserTradeUpdate} {wide : List BridgeEvent}
    {event : BridgeEvent} (answering : Program.Answering callback.handler BridgeError.asSettlement
      (Notes update) wide event) : NotesDelivery callback (.trade update) wide event := by
  obtain ⟨log, front, part, request, rfl, handled, notes, asks⟩ := answering
  intro clobTradeId marked
  rw [marked] at asks
  rcases handler_cases callback request with ⟨other, rfl⟩ | asked
  · exact absurd rfl (asks.lawful (callback_foreign other) _)
  rw [asked] at asks
  obtain ⟨rfl, same⟩ := Program.asks_ask_iff.mp asks
  obtain rfl := BridgeRequest.reconciler.inj same
  obtain ⟨rfl, reads, rfl⟩ := (notes (.ok ())).marks clobTradeId rfl
  obtain ⟨before, part, answer, rfl, handled, executes, returned⟩ := handled.snoc_inv
  have split : reads ++ checkEvents update false =
      reads ++ [⟨.store (.reconcileTrade update), .ok ()⟩] ++ [⟨.acquire .fillCallback, .ok ()⟩] ++
        [⟨.memory (.isNotified update.clobTradeId), .ok false⟩] := by
    simp [checkEvents]
  rw [split] at handled
  obtain ⟨checked, rfl, upToLock⟩ := handled_response rfl handled
  obtain ⟨acquired, rfl, upToUpdate⟩ := handled_response rfl upToLock
  obtain ⟨front, rfl, -⟩ := handled_response rfl upToUpdate
  refine ⟨update, front, part, rfl, rfl, by simp [callingEvents, persistedEvent, calledEvent], ?_⟩
  cases answer with
  | error problem => cases returned
  | ok done => exact executes

/-- What the calls do. -/
theorem BridgeCall.notes (config : ReconcilerConfig) (call : BridgeCall) :
    (call.program callback config).Obeys (NotesDelivery callback call) [] fun _ _ => True := by
  cases call with
  | trade update =>
      refine Program.Obeys.bind (M := fun _ _ => True) ?_ fun _ _ _ => trivial
      refine (((reconcileTradeAndNotify_notes config update []).handle .nil).weaken ?_).mono
        fun _ _ _ => trivial
      exact fun _ _ => notesDelivery_of_answering
  | operation worker =>
      refine Program.Obeys.bind (M := fun _ _ => True) ?_ fun _ _ _ => trivial
      refine (besideReconciler_foreign _).obeys_of fun log event foreign => ?_
      exact fun clobTradeId marked => absurd marked (foreign _)

end Wide

/-! ### Fills that are passed over -/

/-- The callback was called for the update. -/
def CalledFor (log : List BridgeEvent) (update : UserTradeUpdate) : Prop :=
  ∃ front back, log = front ++ calledEvent update :: back ∧ persistedEvent update ∈ front

/-- The callback was called for the update, which has no fill for it: it is FAILED, or the
lookup found no leg. -/
def Overlooked (accountId : String) (log : List BridgeEvent) (update : UserTradeUpdate) : Prop :=
  ∃ front back, log = front ++ calledEvent update :: back ∧ persistedEvent update ∈ front ∧
    (update.failed = true ∨ unmatchedEvent accountId update ∈ back)

/-- An order of the update is the order of a leg. -/
def Database.HasLegOf (db : Database) (accountId : String) (update : UserTradeUpdate) : Prop :=
  ∃ row ∈ db.legs, row.accountId = accountId ∧
    ∃ orderId ∈ update.candidateOrderIds, row.leg.clobOrderId = some orderId

section Pool

variable {ι : Type}

/-- The reconciler has persisted the update. -/
def UpdatePersisted (pool : BridgePool ι) (update : UserTradeUpdate) : Prop :=
  ∃ i, persistedEvent update ∈ pool.log i

/-- The callback was called for another order of the trade. -/
def Displaced (pool : BridgePool ι) (update : UserTradeUpdate) : Prop :=
  UpdatePersisted pool update ∧ ∃ i other, CalledFor (pool.log i) other ∧
    other.clobTradeId = update.clobTradeId ∧ other.fill ≠ update.fill

/-- The trade of the update may be noted without the fill of the update. -/
def PassedOver (accountId : String) (pool : BridgePool ι) (update : UserTradeUpdate) : Prop :=
  (∃ i, Overlooked accountId (pool.log i) update) ∨ Displaced pool update

/-- A step in time. The callback is not called for a FAILED update of a leg's order, nor for
one order of a trade when another one is a leg's; an update of a leg's order is not
persisted after the callback was called for another order of the trade; and the order of an
update that was passed over is not stored on a leg. -/
structure InTime (accountId : String) (pool : BridgePool ι) (label : ι × BridgeEvent)
    (next : BridgePool ι) : Prop where
  called : ∀ update, label.2 = calledEvent update → persistedEvent update ∈ pool.log label.1 →
    (update.failed = true → ¬ pool.shared.pairs.HasLegOf accountId update) ∧
      ∀ other, UpdatePersisted pool other → other.clobTradeId = update.clobTradeId →
        other.fill ≠ update.fill → ¬ pool.shared.pairs.HasLegOf accountId other
  persisted : ∀ update, label.2 = persistedEvent update → ∀ i other,
    CalledFor (pool.log i) other → other.clobTradeId = update.clobTradeId →
      other.fill ≠ update.fill → ¬ pool.shared.pairs.HasLegOf accountId update
  stored : ∀ update, PassedOver accountId pool update →
    ¬ pool.shared.pairs.HasLegOf accountId update → ¬ next.shared.pairs.HasLegOf accountId update

end Pool

section Logs

variable {accountId : String} {log : List BridgeEvent} {event : BridgeEvent}
  {update : UserTradeUpdate}

theorem CalledFor.snoc (called : CalledFor log update) : CalledFor (log ++ [event]) update := by
  obtain ⟨front, back, rfl, persisted⟩ := called
  exact ⟨front, back ++ [event], by simp, persisted⟩

theorem Overlooked.snoc (overlooked : Overlooked accountId log update) :
    Overlooked accountId (log ++ [event]) update := by
  obtain ⟨front, back, rfl, persisted, why⟩ := overlooked
  exact ⟨front, back ++ [event], by simp, persisted, why.imp_right (List.mem_append_left _)⟩

theorem DeliveredIn.snoc {callback : PairReconciledFillCallback}
    (delivered : DeliveredIn callback update log) :
    DeliveredIn callback update (log ++ [event]) := by
  obtain ⟨front, resolved, applied, back, fill, result, rfl, rest⟩ := delivered
  exact ⟨front, resolved, applied, back ++ [event], fill, result, by simp, rest⟩

theorem calledFor_snoc_iff : CalledFor (log ++ [event]) update ↔
    CalledFor log update ∨ event = calledEvent update ∧ persistedEvent update ∈ log := by
  constructor
  · rintro ⟨front, back, same, persisted⟩
    rcases Log.snoc_eq_append_cons same with ⟨rfl, rfl, -⟩ | ⟨inside, -, rfl⟩
    · exact .inr ⟨rfl, persisted⟩
    · exact .inl ⟨front, inside, rfl, persisted⟩
  · rintro (called | ⟨rfl, persisted⟩)
    · exact called.snoc
    · exact ⟨log, [], rfl, persisted⟩

/-- How an update comes to be overlooked. -/
theorem overlooked_snoc (overlooked : Overlooked accountId (log ++ [event]) update) :
    Overlooked accountId log update ∨
      event = calledEvent update ∧ persistedEvent update ∈ log ∧ update.failed = true ∨
      event = unmatchedEvent accountId update := by
  obtain ⟨front, back, same, persisted, why⟩ := overlooked
  rcases Log.snoc_eq_append_cons same with ⟨rfl, rfl, rfl⟩ | ⟨inside, rfl, rfl⟩
  · exact .inr (.inl ⟨rfl, persisted, why.resolve_right List.not_mem_nil⟩)
  rcases why with failed | unmatched
  · exact .inl ⟨front, inside, rfl, persisted, .inl failed⟩
  rcases List.mem_append.mp unmatched with earlier | now
  · exact .inl ⟨front, inside, rfl, persisted, .inr earlier⟩
  · exact .inr (.inr (List.mem_singleton.mp now).symm)

end Logs

section Serve

variable {markets : List MarketRow} {state next : BridgeState} {event : BridgeEvent}

theorem mem_noteNotified {notified : List String} {noted clobTradeId : String}
    (member : clobTradeId ∈ noteNotified notified noted) :
    clobTradeId ∈ notified ∨ clobTradeId = noted := by
  have inside : clobTradeId ∈ if noted ∈ notified then notified else notified ++ [noted] := by
    unfold noteNotified at member
    generalize (if noted ∈ notified then notified else notified ++ [noted]) = grown at member ⊢
    dsimp only at member
    split at member
    · exact List.mem_of_mem_tail member
    · exact member
  split at inside
  · exact .inl inside
  · exact (List.mem_append.mp inside).imp_right List.mem_singleton.mp

theorem PassServe.notified {reconciler after : Reconciler} {event : PassEvent}
    (served : PassServe reconciler event after) {clobTradeId : String}
    (noted : clobTradeId ∈ after.notifiedTradeIds) :
    clobTradeId ∈ reconciler.notifiedTradeIds ∨
      event.request = .memory (.markNotified clobTradeId) := by
  cases served with
  | recalled request =>
      cases request with
      | markNotified other =>
          refine (mem_noteNotified noted).imp_right fun same => ?_
          rw [same]
      | _ => exact .inl noted
  | stored request answer next inserted =>
      rcases inserted with rfl | ⟨update, row, -, -, before, after, rows, -, -, rfl⟩
      · exact .inl noted
      · exact .inl noted
  | reserved table row answer next inserted =>
      obtain ⟨before, after, rows, -, -, rfl⟩ := inserted
      exact .inl noted
  | _ => exact .inl noted

/-- A request of the reconciler leaves the pair tables alone. -/
theorem BridgeServe.pairs_eq (served : BridgeServe markets state event next)
    (own : ¬ event.request.Foreign) : next.pairs = state.pairs := by
  cases served with
  | reconciled _ => rfl
  | paired _ => exact absurd (fun _ => nofun) own
  | selected _ _ => rfl
  | unselected _ _ _ => rfl

/-- A lookup without a row: no leg has an order of the update. -/
theorem BridgeServe.unmatched {accountId : String} {update : UserTradeUpdate}
    (served : BridgeServe markets state (unmatchedEvent accountId update) next) :
    next = state ∧ ¬ state.pairs.HasLegOf accountId update := by
  generalize same : unmatchedEvent accountId update = event at served
  cases served with
  | reconciled _ => cases same
  | paired _ => cases same
  | unselected _ _ _ => cases same
  | selected account orderIds =>
      injection same with requests answers
      cases requests
      refine ⟨rfl, ?_⟩
      rintro ⟨row, member, account, orderId, candidate, stored⟩
      have rows : state.pairs.legsOfOrders accountId update.candidateOrderIds = [] :=
        (Except.ok.inj answers).symm
      have found : row.leg ∈ state.pairs.legsOfOrders accountId update.candidateOrderIds := by
        refine List.mem_map_of_mem (List.mem_filter.mpr ⟨member, ?_⟩)
        simpa [account] using ⟨orderId, candidate, stored⟩
      rw [rows] at found
      cases found

/-- A trade becomes noted when it is marked. -/
theorem BridgeServe.notified (served : BridgeServe markets state event next) {clobTradeId : String}
    (noted : clobTradeId ∈ next.reconciler.notifiedTradeIds) :
    clobTradeId ∈ state.reconciler.notifiedTradeIds ∨
      event.request = .reconciler (.memory (.markNotified clobTradeId)) := by
  cases served with
  | paired _ => exact .inl noted
  | selected _ _ => exact .inl noted
  | unselected _ _ _ => exact .inl noted
  | reconciled served =>
      exact (served.notified noted).imp_right fun same => congrArg BridgeRequest.reconciler same

end Serve

/-! ### Runs -/

/-- The trade was noted for an update that the callback was called for. -/
def NotedFor {ι : Type} (callback : PairReconciledFillCallback) (pool : BridgePool ι)
    (clobTradeId : String) : Prop :=
  ∃ i update, update.clobTradeId = clobTradeId ∧ CalledFor (pool.log i) update ∧
    (Overlooked callback.accountId (pool.log i) update ∨ DeliveredIn callback update (pool.log i))

section Runs

variable {ι : Type} [DecidableEq ι] {callback : PairReconciledFillCallback}
  {config : ReconcilerConfig} {markets : List MarketRow} {pool next final : BridgePool ι}
  {label : ι × BridgeEvent} {labels : List (ι × BridgeEvent)} {calls : ι → BridgeCall}

/-- After a step in time, as before it, no update that was passed over is of a leg. -/
theorem passedOver_step {accountId : String} (step : Pool.Step (BridgeServe markets) pool label next)
    (inTime : InTime accountId pool label next)
    (kept : ∀ update, PassedOver accountId pool update →
      ¬ pool.shared.pairs.HasLegOf accountId update) :
    ∀ update, PassedOver accountId next update → ¬ next.shared.pairs.HasLegOf accountId update := by
  intro update passed
  by_cases earlier : PassedOver accountId pool update
  · exact inTime.stored update earlier (kept update earlier)
  have served : BridgeServe markets pool.shared label.2 next.shared := step.serves
  rcases passed with ⟨i, overlooked⟩ | ⟨⟨i, persisted⟩, j, other, called, trade, fill⟩
  · rcases step.log i with same | ⟨rfl, grown⟩
    · exact absurd (.inl ⟨i, same ▸ overlooked⟩) earlier
    rw [grown] at overlooked
    rcases overlooked_snoc overlooked with before | ⟨event, persisted, failed⟩ | event
    · exact absurd (.inl ⟨_, before⟩) earlier
    · rw [served.pairs_eq (by rw [event]; exact fun foreign => foreign _ rfl)]
      exact (inTime.called update event persisted).1 failed
    · rw [event] at served
      obtain ⟨same, unmatched⟩ := served.unmatched
      rwa [same]
  · have before : persistedEvent update ∈ pool.log i ∨ label.2 = persistedEvent update := by
      rcases step.log i with same | ⟨rfl, grown⟩
      · exact .inl (same ▸ persisted)
      · rw [grown] at persisted
        exact (List.mem_append.mp persisted).imp_right fun now => (List.mem_singleton.mp now).symm
    have calledBefore : CalledFor (pool.log j) other ∨
        label.2 = calledEvent other ∧ persistedEvent other ∈ pool.log label.1 := by
      rcases step.log j with same | ⟨rfl, grown⟩
      · exact .inl (same ▸ called)
      · rw [grown] at called
        exact calledFor_snoc_iff.mp called
    rcases calledBefore with calledBefore | ⟨event, known⟩
    · rcases before with before | event
      · exact absurd (.inr ⟨⟨i, before⟩, j, other, calledBefore, trade, fill⟩) earlier
      · rw [served.pairs_eq (by rw [event]; exact fun foreign => foreign _ rfl)]
        exact inTime.persisted update event j other calledBefore trade fill
    · rw [served.pairs_eq (by rw [event]; exact fun foreign => foreign _ rfl)]
      rcases before with before | now
      · exact (inTime.called other event known).2 update ⟨i, before⟩ trade.symm fill.symm
      · cases event.symm.trans now

/-- A trade that is noted was called for, and what was called for stays. -/
theorem notedFor_step (step : Pool.Step (BridgeServe markets) pool label next)
    (notes : NotesDelivery callback (calls label.1) (pool.log label.1) label.2)
    (kept : ∀ clobTradeId ∈ pool.shared.reconciler.notifiedTradeIds,
      NotedFor callback pool clobTradeId) :
    ∀ clobTradeId ∈ next.shared.reconciler.notifiedTradeIds, NotedFor callback next clobTradeId := by
  intro clobTradeId noted
  have served : BridgeServe markets pool.shared label.2 next.shared := step.serves
  rcases served.notified noted with before | marked
  · obtain ⟨i, update, trade, called, why⟩ := kept clobTradeId before
    refine ⟨i, update, trade, ?_⟩
    refine step.log_kept (P := fun log => CalledFor log update ∧
      (Overlooked callback.accountId log update ∨ DeliveredIn callback update log)) ?_ ⟨called, why⟩
    exact fun _ _ before => ⟨before.1.snoc, before.2.imp Overlooked.snoc DeliveredIn.snoc⟩
  · obtain ⟨update, front, part, -, rfl, log, executes⟩ := notes clobTradeId marked
    have split : pool.log label.1 = (front ++ [persistedEvent update,
        ⟨.reconciler (.acquire .fillCallback), .ok ()⟩]) ++ calledEvent update :: part := by
      rw [log]
      simp [callingEvents]
    have persisted : persistedEvent update ∈ front ++ [persistedEvent update,
        ⟨.reconciler (.acquire .fillCallback), .ok ()⟩] := by
      simp
    have grown : next.log label.1 = pool.log label.1 ++ [label.2] := by
      rcases step.log label.1 with same | ⟨-, grown⟩
      · obtain ⟨resume, shared, -, -, rfl⟩ := step
        simp [Pool.after]
      · exact grown
    refine ⟨label.1, update, rfl, ?_⟩
    rw [grown]
    have called : CalledFor (pool.log label.1) update := ⟨_, part, split, persisted⟩
    refine ⟨called.snoc, ?_⟩
    rcases callback_returned executes with failed | unmatched | delivered
    · exact .inl (Overlooked.snoc ⟨_, part, split, persisted, .inl failed⟩)
    · refine .inl (Overlooked.snoc ⟨_, part, split, persisted, .inr ?_⟩)
      rw [unmatched]
      exact List.mem_singleton_self _
    · obtain ⟨before, resolved, applied, back, fill, result, rfl, rest⟩ := delivered
      refine .inr (DeliveredIn.snoc ⟨front ++ callingEvents update ++ before, resolved, applied,
        back, fill, result, ?_, rest⟩)
      rw [log]
      simp

/-- What was passed over stays passed over. -/
theorem PassedOver.step {accountId : String} {update : UserTradeUpdate}
    (passed : PassedOver accountId pool update)
    (step : Pool.Step (BridgeServe markets) pool label next) : PassedOver accountId next update := by
  rcases passed with ⟨i, overlooked⟩ | ⟨⟨i, persisted⟩, j, other, called, trade, fill⟩
  · exact .inl ⟨i, step.log_kept (P := fun log => Overlooked accountId log update)
      (fun _ _ => Overlooked.snoc) overlooked⟩
  · exact .inr ⟨⟨i, step.log_kept (P := fun log => persistedEvent update ∈ log)
      (fun _ _ => List.mem_append_left _) persisted⟩, j, other,
      step.log_kept (P := fun log => CalledFor log other) (fun _ _ => CalledFor.snoc) called,
      trade, fill⟩

/-- What the steps in time of a run keep. -/
structure Attended (callback : PairReconciledFillCallback) (calls : ι → BridgeCall)
    (pool : BridgePool ι) : Prop where
  obeys : ∀ i, (pool.program i).Obeys (NotesDelivery callback (calls i)) (pool.log i)
    fun _ _ => True
  unstored : ∀ update, PassedOver callback.accountId pool update →
    ¬ pool.shared.pairs.HasLegOf callback.accountId update
  noted : ∀ clobTradeId ∈ pool.shared.reconciler.notifiedTradeIds,
    NotedFor callback pool clobTradeId

omit [DecidableEq ι] in
theorem attended_start {tables : FootprintTable → DurableTable} {db : Database} :
    Attended callback calls (bridgePool callback config tables db calls) where
  obeys i := (calls i).notes config
  unstored := by
    rintro update (⟨i, front, back, empty, -⟩ | ⟨⟨i, none⟩, -⟩)
    · exact absurd empty (by simp [bridgePool, Pool.start])
    · cases none
  noted _ := nofun

theorem Attended.step (attended : Attended callback calls pool)
    (step : Pool.Step (BridgeServe markets) pool label next)
    (inTime : InTime callback.accountId pool label next) : Attended callback calls next := by
  obtain ⟨later, notes⟩ := step.obeys attended.obeys
  exact ⟨later, passedOver_step step inTime attended.unstored,
    notedFor_step step notes attended.noted⟩

/-- In every run whose steps are in time: where a trade is noted, the callback has returned
for each update of the trade that was persisted and whose order is the order of a leg, now
or later, after the coordinator applied its fill or recognised it as a duplicate. -/
theorem noted_fills_are_delivered {tables : FootprintTable → DurableTable} {db : Database}
    {later : BridgePool ι} {more : List (ι × BridgeEvent)}
    (run : Run (fun pool label next => Pool.Step (BridgeServe markets) pool label next ∧
      InTime callback.accountId pool label next) (bridgePool callback config tables db calls) labels
      final)
    {update : UserTradeUpdate} (persisted : UpdatePersisted final update)
    (noted : update.clobTradeId ∈ final.shared.reconciler.notifiedTradeIds)
    (onwards : Run (fun pool label next => Pool.Step (BridgeServe markets) pool label next ∧
      InTime callback.accountId pool label next) final more later)
    (ofLeg : later.shared.pairs.HasLegOf callback.accountId update) :
    ∃ i delivered, delivered.fill = update.fill ∧ DeliveredIn callback delivered (final.log i) := by
  have attended : Attended callback calls final :=
    run.invariant (fun _ _ _ before now => before.step now.1 now.2) attended_start
  have attentive : ∀ update, PassedOver callback.accountId final update →
      ¬ later.shared.pairs.HasLegOf callback.accountId update := by
    intro update passed
    obtain ⟨still, after⟩ := onwards.invariant
      (P := fun pool => PassedOver callback.accountId pool update ∧ Attended callback calls pool)
      (fun _ _ _ before now => ⟨before.1.step now.1, before.2.step now.1 now.2⟩)
      ⟨passed, attended⟩
    exact after.unstored update still
  obtain ⟨i, other, trade, here, why⟩ := attended.noted _ noted
  by_cases fill : other.fill = update.fill
  · rcases why with overlooked | delivered
    · refine absurd ?_ (attentive other (.inl ⟨i, overlooked⟩))
      obtain ⟨row, member, account, orderId, candidate, stored⟩ := ofLeg
      refine ⟨row, member, account, orderId, ?_, stored⟩
      rwa [show other.candidateOrderIds = update.candidateOrderIds from congrArg Prod.snd fill]
    · exact ⟨i, other, fill, delivered⟩
  · exact absurd ofLeg (attentive update (.inr ⟨persisted, i, other, here, trade, fill⟩))

end Runs

/-! ### A commit that comes too late -/

theorem shareCents_bounds : (0 : ℚ) < 9 / 20 ∧ (9 : ℚ) / 20 < 1 := by
  norm_num

/-- A trade of the YES order of `researchPlan`. -/
def pairTrade : UserTradeUpdate where
  clobTradeId := "trade"
  candidateOrderIds := ["yes-order"]
  conditionId := "condition"
  tokenId := "yes"
  side := .buy
  traderSide := some "MAKER"
  price := 9 / 20
  size := 1
  status := "MATCHED"
  feeRateBps := 0
  transactionHash := none
  matchedAt := 5
  updatedAt := 5
  raw := "trade"
  candidates_nonempty := List.cons_ne_nil _ _
  price_pos := shareCents_bounds.1
  price_lt_one := shareCents_bounds.2
  size_pos := Literal.one_pos
  rate_nonneg := Literal.zero_nonneg

/-- The callback of the account of `researchPlan`. -/
def pairCallback : PairReconciledFillCallback :=
  ⟨"account", researchCoordinator⟩

/-- Serve every request. -/
def answerBridge (state : BridgeState) :
    (request : BridgeRequest) → Except BridgeError request.Response × BridgeState
  | .reconciler request =>
      ((answerDurable state.reconciler request).1.mapError BridgeError.settlement,
        { state with reconciler := (answerDurable state.reconciler request).2 })
  | .pairs request =>
      ((serveResearch state.pairs request).1.mapError BridgeError.pair,
        { state with pairs := (serveResearch state.pairs request).2 })
  | .legsOfOrders accountId clobOrderIds =>
      (.ok (state.pairs.legsOfOrders accountId clobOrderIds), state)

theorem answerBridge_serves (state : BridgeState) (request : BridgeRequest) :
    BridgeServe researchMarkets state ⟨request, (answerBridge state request).1⟩
      (answerBridge state request).2 := by
  cases request with
  | reconciler request => exact .reconciled (answerDurable_serves state.reconciler request)
  | pairs request => exact .paired (serveResearch_served state.pairs request)
  | legsOfOrders accountId clobOrderIds => exact .selected accountId clobOrderIds

/-- The plan is submitted next to deliveries of the trade. -/
def racingCalls (deliveries : Nat) : Fin (deliveries + 1) → BridgeCall
  | 0 => .operation submitResearchPlan
  | _ => .trade pairTrade

def racingPool (deliveries : Nat) : BridgePool (Fin (deliveries + 1)) :=
  bridgePool pairCallback callbackConfig (fun _ => ⟨[], List.nodup_nil⟩) Database.empty
    (racingCalls deliveries)

/-- The update that the event persisted. -/
def updatePersisted : BridgeEvent → Option UserTradeUpdate
  | ⟨.reconciler (.store (.reconcileTrade update)), .ok ()⟩ => some update
  | _ => none

/-- The lookup of an update found this many legs. -/
def legsFound : BridgeEvent → Option Nat
  | ⟨.legsOfOrders _ _, .ok (rows : List OrderLeg)⟩ => some rows.length
  | _ => none

theorem eq_persistedEvent {event : BridgeEvent} {update : UserTradeUpdate}
    (persists : updatePersisted event = some update) : event = persistedEvent update := by
  unfold updatePersisted at persists
  split at persists
  · cases persists
    rfl
  · cases persists

/-- Nothing but the trade is persisted, and its lookup finds a leg. -/
def Timely (event : BridgeEvent) : Prop :=
  (updatePersisted event = none ∨ updatePersisted event = some pairTrade) ∧
    legsFound event ≠ some 0

instance Timely.decidable (event : BridgeEvent) : Decidable (Timely event) :=
  inferInstanceAs (Decidable (_ ∧ _))

theorem Timely.update_eq {update : UserTradeUpdate} (timely : Timely (persistedEvent update)) :
    update = pairTrade := by
  rcases timely.1 with none | same
  · cases none
  · exact Option.some.inj same

theorem pairTrade_live : pairTrade.failed = false := by
  unfold UserTradeUpdate.failed
  decide

/-- Timely events leave no fill of the trade behind. -/
theorem inTime_of_timely {ι : Type} [DecidableEq ι] {accountId : String}
    {markets : List MarketRow} {pool next : BridgePool ι} {label : ι × BridgeEvent}
    (step : Pool.Step (BridgeServe markets) pool label next)
    (timely : ∀ i, ∀ event ∈ next.log i, Timely event) : InTime accountId pool label next := by
  have before : ∀ i, ∀ event ∈ pool.log i, Timely event := fun i event member =>
    timely i event (step.log_kept (P := fun log => event ∈ log)
      (fun _ _ => List.mem_append_left _) member)
  have now : Timely label.2 := by
    refine timely label.1 _ ?_
    obtain ⟨resume, shared, -, -, rfl⟩ := step
    simp [Pool.after]
  have called : ∀ i update, CalledFor (pool.log i) update → update = pairTrade := by
    rintro i update ⟨front, back, same, persisted⟩
    exact (before i _ (same ▸ List.mem_append_left _ persisted)).update_eq
  have persisted : ∀ update, UpdatePersisted pool update → update = pairTrade := by
    rintro update ⟨i, member⟩
    exact (before i _ member).update_eq
  have nothing : ∀ update, ¬ PassedOver accountId pool update := by
    rintro update (⟨i, front, back, same, member, failed | unmatched⟩ | ⟨own, i, other, here, -, fill⟩)
    · rw [called i update ⟨front, back, same, member⟩, pairTrade_live] at failed
      cases failed
    · exact (before i (unmatchedEvent accountId update) (by simp [same, unmatched])).2 rfl
    · exact fill (by rw [called i other here, persisted update own])
  refine ⟨fun update event member => ⟨fun failed => ?_, fun other own _ fill => ?_⟩,
    fun update event i other here _ fill => ?_, fun update passed => absurd passed (nothing update)⟩
  · rw [(before label.1 _ member).update_eq, pairTrade_live] at failed
    cases failed
  · exact absurd (by rw [persisted other own, (before label.1 _ member).update_eq]) fill
  · rw [event] at now
    exact absurd (by rw [called i other here, now.update_eq]) fill

/-- A fill that was delivered was found on a leg. -/
theorem DeliveredIn.found {callback : PairReconciledFillCallback} {update : UserTradeUpdate}
    {log : List BridgeEvent} (delivered : DeliveredIn callback update log) :
    ∃ event ∈ log, ∃ legs, legsFound event = some (legs + 1) := by
  obtain ⟨front, resolved, applied, back, fill, result, rfl, -, resolves, -⟩ := delivered
  rcases coordinatorFillForTrade_ok resolves with ⟨-, none⟩ | ⟨-, none⟩ | found
  · cases none
  · cases none
  obtain ⟨rows, leg, _, back, rfl, -, member, -⟩ := found
  obtain ⟨legs, length⟩ := Nat.exists_eq_succ_of_ne_zero (List.length_pos_of_mem member).ne'
  refine ⟨⟨.legsOfOrders callback.accountId update.candidateOrderIds, .ok rows⟩, by simp, legs, ?_⟩
  exact congrArg some length

/-- What the pool shows: a delivery was persisted, its trade is noted, and its order is the
order of a leg. -/
def showsNoted {deliveries : Nat} (pool : BridgePool (Fin (deliveries + 1))) : Bool :=
  decide ((∃ i, ∃ event ∈ pool.log i, updatePersisted event = some pairTrade) ∧
    pairTrade.clobTradeId ∈ pool.shared.reconciler.notifiedTradeIds ∧
    ∃ row ∈ pool.shared.pairs.legs, row.accountId = "account" ∧
      ∃ orderId ∈ pairTrade.candidateOrderIds, row.leg.clobOrderId = some orderId)

theorem noted_of_shows {deliveries : Nat} {pool : BridgePool (Fin (deliveries + 1))}
    (shown : showsNoted pool = true) : UpdatePersisted pool pairTrade ∧
      pairTrade.clobTradeId ∈ pool.shared.reconciler.notifiedTradeIds ∧
      pool.shared.pairs.HasLegOf pairCallback.accountId pairTrade := by
  obtain ⟨⟨i, event, member, persists⟩, noted, ofLeg⟩ := of_decide_eq_true shown
  exact ⟨⟨i, eq_persistedEvent persists ▸ member⟩, noted, ofLeg⟩

/-- The trade arrives between the submission of the plan and the commit of its order ids.
Its callback finds no leg, and the redelivery after the commit is dropped. -/
theorem early_fill_is_dropped :
    ∃ labels final, Run (Pool.Step (BridgeServe researchMarkets)) (racingPool 2) labels final ∧
      (UpdatePersisted final pairTrade ∧
        pairTrade.clobTradeId ∈ final.shared.reconciler.notifiedTradeIds ∧
        final.shared.pairs.HasLegOf pairCallback.accountId pairTrade) ∧
      ∀ i delivered, ¬ DeliveredIn pairCallback delivered (final.log i) := by
  have replayed : (Pool.replay (fun _ => answerBridge) [0, 0, 0, 1, 1, 1, 1, 1, 1, 0, 2, 2, 2, 2]
      (racingPool 2)).map (fun (result : List (Fin 3 × BridgeEvent) × BridgePool (Fin 3)) =>
        showsNoted result.2 && decide (∀ i, ∀ event ∈ result.2.log i,
          legsFound event = none ∨ legsFound event = some 0)) = some true := by
    decide +kernel
  obtain ⟨⟨labels, final⟩, replay, shown⟩ := Option.map_eq_some_iff.mp replayed
  obtain ⟨noted, silent⟩ := Bool.and_eq_true_iff.mp shown
  refine ⟨labels, final, Pool.replay_run (fun _ => answerBridge_serves) replay,
    noted_of_shows noted, fun i delivered found => ?_⟩
  obtain ⟨event, member, legs, finds⟩ := found.found
  rcases of_decide_eq_true silent i event member with none | zero
  · cases none.symm.trans finds
  · cases zero.symm.trans finds

/-- A fill of an order whose id is committed first is delivered. -/
theorem timely_fill_is_delivered :
    ∃ labels final, Run (fun pool label next =>
        Pool.Step (BridgeServe researchMarkets) pool label next ∧
          InTime pairCallback.accountId pool label next) (racingPool 1) labels final ∧
      pairTrade.clobTradeId ∈ final.shared.reconciler.notifiedTradeIds ∧
      ∃ i delivered, delivered.fill = pairTrade.fill ∧
        DeliveredIn pairCallback delivered (final.log i) := by
  have replayed : (Pool.replayWhere (fun _ _ next => decide (∀ i, ∀ event ∈ next.log i, Timely event))
      (fun _ => answerBridge) [0, 0, 0, 0, 1, 1, 1, 1, 1, 1, 1, 1, 1, 1, 1, 1, 1]
      (racingPool 1)).map (fun (result : List (Fin 2 × BridgeEvent) × BridgePool (Fin 2)) =>
        showsNoted result.2) = some true := by
    decide +kernel
  obtain ⟨⟨labels, final⟩, replay, shown⟩ := Option.map_eq_some_iff.mp replayed
  obtain ⟨persisted, noted, ofLeg⟩ := noted_of_shows shown
  have run : Run (fun pool label next => Pool.Step (BridgeServe researchMarkets) pool label next ∧
      InTime pairCallback.accountId pool label next) (racingPool 1) labels final :=
    (Pool.replayWhere_run (fun _ => answerBridge_serves) replay).mono
      fun _ _ _ step => ⟨step.1, inTime_of_timely step.1 (of_decide_eq_true step.2)⟩
  exact ⟨labels, final, run, noted,
    noted_fills_are_delivered run persisted noted (.refl _) ofLeg⟩

end Polybot
