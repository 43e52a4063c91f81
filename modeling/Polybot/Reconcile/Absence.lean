import Polybot.Reconcile.Executions
import Polybot.Reconcile.Progress

/-!
Orders that the venue does not list (`confirm_orders_absent` of
`stores/supabase_reconcile.py`).

A row counts the confirmed absences since an event or a trade last updated it, and is
written off at the second, or at the first if a cancellation was pending.
`written_off_on_evidence` says that the counter is no more than the evidence
(`absencesSince`), in every run, and that fills of the whole order bring it back.
-/

namespace Polybot

open Checked Interaction

/-- The statuses that an absence can change. -/
def OrderStatus.Unresolved (status : OrderStatus) : Prop :=
  status ∈ [submitted, live, partiallyFilled, unknown, cancelPending]

instance OrderStatus.decidableUnresolved (status : OrderStatus) : Decidable status.Unresolved :=
  inferInstanceAs (Decidable (_ ∈ _))

/-- No settled or terminal status is among them. -/
theorem OrderStatus.Unresolved.not_final {status : OrderStatus} (unresolved : status.Unresolved) :
    status ∉ settlementStatuses ++ terminalStatuses := by
  revert unresolved
  cases status <;> decide

/-! ### `confirm_orders_absent` -/

section Absence

-- The JSON values that Python takes as true.
variable (holds : String → Bool)

/-- `response_payload.get("reconciliation_required")`. -/
def OrderRow.Required (row : OrderRow) : Prop :=
  ∃ value ∈ row.responsePayload.get? "reconciliation_required", holds value = true

instance (row : OrderRow) : Decidable (row.Required holds) := by
  unfold OrderRow.Required
  infer_instance

/-- `terminal`. -/
def OrderRow.WritesOff (row : OrderRow) : Prop :=
  row.status = .cancelPending ∨ 2 ≤ row.openSnapshotMissCount + 1

instance (row : OrderRow) : Decidable row.WritesOff :=
  inferInstanceAs (Decidable (_ ∨ _))

/-- The row that a confirmed absence writes. -/
def OrderRow.afterAbsence (row : OrderRow) (now : Instant) : OrderRow :=
  { row with
    status := if row.WritesOff then .cancelled else .unknown
    openSnapshotMissCount := row.openSnapshotMissCount + 1
    openSnapshotMissingSince := row.openSnapshotMissingSince <|> some now
    cancelledAt := if row.WritesOff then some now else row.cancelledAt }

/-- The call names the order. -/
def DurableOrder.Named (durable : DurableOrder) (clobOrderIds : List String) : Prop :=
  ∃ orderId ∈ clobOrderIds, durable.row.val.clobOrderId = some orderId

instance (durable : DurableOrder) (clobOrderIds : List String) :
    Decidable (durable.Named clobOrderIds) :=
  inferInstanceAs (Decidable (∃ orderId ∈ clobOrderIds, _))

/-- `confirm_orders_absent`, on the order. -/
def DurableOrder.confirmAbsent (durable : DurableOrder) (clobOrderIds : List String)
    (now : Instant) : Except ReconcileError DurableOrder :=
  if durable.Named clobOrderIds ∧ durable.row.val.status.Unresolved then
    if durable.row.val.Required holds then .ok durable
    else do
      let row ← (durable.row.val.afterAbsence now).store
      pure { durable with row := row }
  else .ok durable

/-- A call on an order. -/
inductive LifeCall where
  | order (call : OrderCall)
  | absent (clobOrderIds : List String) (now : Instant)

/-- The state after a call. -/
def OrderLedger.handle (markets : List MarketRow) (ledger : OrderLedger) : LifeCall → OrderLedger
  | .order call => ledger.serve markets call
  | .absent clobOrderIds now =>
      { ledger with order := ledger.order.map fun durable =>
          (durable.confirmAbsent holds clobOrderIds now).toOption.getD durable }

/-- The state after the calls. -/
def OrderLedger.handleAll (markets : List MarketRow) (ledger : OrderLedger)
    (calls : List LifeCall) : OrderLedger :=
  calls.foldl (OrderLedger.handle holds markets) ledger

/-! ### Evidence -/

/-- An event or a trade updates the row. -/
def OrderLedger.Updates (markets : List MarketRow) (ledger : OrderLedger) : LifeCall → Prop
  | .order (.reconcile (.order update)) => ∃ durable ∈ ledger.order, durable.Takes update
  | .order (.reconcile (.trade update)) =>
      ∃ durable ∈ ledger.order, (durable.reconcileTrade markets update).2 = .ok ()
  | _ => False

instance (markets : List MarketRow) (ledger : OrderLedger) (call : LifeCall) :
    Decidable (ledger.Updates markets call) := by
  unfold OrderLedger.Updates DurableOrder.Takes
  split <;> infer_instance

/-- The call confirms that the order is absent. -/
def OrderLedger.Names (ledger : OrderLedger) : LifeCall → Prop
  | .absent clobOrderIds _ => ∃ durable ∈ ledger.order, durable.Named clobOrderIds
  | _ => False

instance (ledger : OrderLedger) (call : LifeCall) : Decidable (ledger.Names call) := by
  unfold OrderLedger.Names
  split <;> infer_instance

/-- The absences after a call, since the last update of the row. -/
def OrderLedger.evidence (markets : List MarketRow) (ledger : OrderLedger) (call : LifeCall)
    (seen : Nat) : Nat :=
  if ledger.Updates markets call then 0 else if ledger.Names call then seen + 1 else seen

/-- How many calls have named the order since a call last updated it, after `seen` of
them. -/
def absencesSince (markets : List MarketRow) : OrderLedger → Nat → List LifeCall → Nat
  | _, seen, [] => seen
  | ledger, seen, call :: rest =>
      absencesSince markets (ledger.handle holds markets call) (ledger.evidence markets call seen) rest

/-! ### What a call does -/

variable {holds} {markets : List MarketRow} {ledger : OrderLedger} {durable after : DurableOrder}
  {clobOrderIds : List String} {now : Instant}

theorem OrderRow.afterAbsence_checks {row : OrderRow} (checks : row.Checks) (now : Instant) :
    (row.afterAbsence now).Checks :=
  { original_pos := checks.original_pos
    filled_nonneg := checks.filled_nonneg
    remaining_nonneg := checks.remaining_nonneg
    filled_le := checks.filled_le
    remaining_le := checks.remaining_le
    average_range := checks.average_range
    fee_nonneg := checks.fee_nonneg
    price_range := checks.price_range
    type_allowed := checks.type_allowed
    gtd_has_expiry := checks.gtd_has_expiry }

/-- An absence writes an unresolved row that it names, and nothing else. -/
theorem DurableOrder.confirmAbsent_cases (holds : String → Bool) (durable : DurableOrder) (clobOrderIds : List String)
    (now : Instant) : durable.confirmAbsent holds clobOrderIds now = .ok durable ∨
      durable.Named clobOrderIds ∧ durable.row.val.status.Unresolved ∧
        ¬ durable.row.val.Required holds ∧
        durable.confirmAbsent holds clobOrderIds now = .ok { durable with row :=
          ⟨durable.row.val.afterAbsence now, OrderRow.afterAbsence_checks durable.row.property now⟩ } := by
  unfold confirmAbsent
  split
  · rename_i applies
    split
    · exact .inl rfl
    · rename_i free
      refine .inr ⟨applies.1, applies.2, free, ?_⟩
      have stored : (durable.row.val.afterAbsence now).store =
          .ok ⟨_, OrderRow.afterAbsence_checks durable.row.property now⟩ :=
        OrderRow.store_ok_iff.mpr rfl
      rw [stored]
      rfl
  · exact .inl rfl

/-- A trade returns if and only if it writes the row. -/
theorem DurableOrder.reconcileTrade_cases (markets : List MarketRow) (durable : DurableOrder)
    (update : UserTradeUpdate) :
    (durable.reconcileTrade markets update).2 ≠ .ok () ∧
        (durable.reconcileTrade markets update).1.row = durable.row ∨
      ∃ fill row, durable.tradeFill markets update = .ok fill ∧
        durable.tradeRow update (durable.fills.set update.clobTradeId fill).values = .ok row ∧
        durable.reconcileTrade markets update =
          (⟨row, durable.fills.set update.clobTradeId fill⟩, .ok ()) := by
  cases accepted : durable.tradeFill markets update with
  | error problem =>
      have served : durable.reconcileTrade markets update = (durable, .error problem) := by
        unfold reconcileTrade
        simp only [accepted]
      rw [served]
      exact .inl ⟨nofun, rfl⟩
  | ok fill =>
      cases written : durable.tradeRow update (durable.fills.set update.clobTradeId fill).values with
      | error problem =>
          have served : durable.reconcileTrade markets update =
              (⟨durable.row, durable.fills.set update.clobTradeId fill⟩, .error problem) := by
            unfold reconcileTrade
            simp only [accepted, written]
          rw [served]
          exact .inl ⟨nofun, rfl⟩
      | ok row =>
          refine .inr ⟨fill, row, rfl, written, ?_⟩
          unfold reconcileTrade
          simp only [accepted, written]

/-- A trade that updates the row starts its counter again. -/
theorem tradeRow_misses {update : UserTradeUpdate} {fills : List FillRow} {row : StoredOrder}
    (written : durable.tradeRow update fills = .ok row) : row.val.openSnapshotMissCount = 0 := by
  unfold DurableOrder.tradeRow at written
  rw [bind_ok_iff] at written
  obtain ⟨payload, -, stored⟩ := written
  rw [OrderRow.store_ok_iff] at stored
  rw [stored]
  rfl

/-- An execution inserts a row whose counter has not started. -/
theorem inserted_misses (unknown : ledger.order = none) (result : ExecutionReport)
    (member : after ∈ (ledger.serve markets (.execution result)).order) :
    after.row.val.openSnapshotMissCount = 0 := by
  unfold OrderLedger.serve at member
  dsimp only at member
  cases saved : ledger.saveExecution result with
  | error problem =>
      rw [saved] at member
      change after ∈ ledger.order at member
      rw [unknown] at member
      cases member
  | ok next =>
      rw [saved] at member
      unfold OrderLedger.saveExecution at saved
      rw [unknown] at saved
      obtain ⟨row, stored, made⟩ := bind_ok_iff.mp saved
      cases made
      cases member
      rw [OrderRow.store_ok_iff] at stored
      dsimp only
      rw [stored]

/-- A call on the order counts no absence, and starts again where it updates the row. -/
theorem serve_misses (ledger : OrderLedger) (call : OrderCall)
    (member : after ∈ (ledger.serve markets call).order) :
    after.row.val.openSnapshotMissCount = 0 ∨
      ¬ ledger.Updates markets (.order call) ∧ ∃ durable ∈ ledger.order,
        after.row.val.openSnapshotMissCount = durable.row.val.openSnapshotMissCount := by
  cases call with
  | execution result =>
      cases known : ledger.order with
      | some durable =>
          rw [(serve_execution markets known result).1] at member
          cases member
          refine .inr ⟨id, durable, rfl, ?_⟩
          dsimp only
          rcases saveRow_cases durable.row (ledger.intent.executionPayload result) with same | merged
          · rw [same]
          · rw [merged]
      | none => exact .inl (inserted_misses known result member)
  | reconcile call =>
      obtain ⟨durable, known, rfl⟩ := Option.map_eq_some_iff.mp member
      cases call with
      | order update =>
          by_cases takes : durable.Takes update
          · rw [DurableOrder.reconcile_order_of_takes takes]
            exact .inl rfl
          · rw [DurableOrder.reconcile_order_of_not_takes takes]
            refine .inr ⟨?_, durable, known, rfl⟩
            rintro ⟨other, here, taken⟩
            cases Option.some.inj (known.symm.trans here)
            exact takes taken
      | trade update =>
          change (durable.reconcileTrade markets update).1.row.val.openSnapshotMissCount = 0 ∨ _ ∧
            ∃ durable' ∈ ledger.order,
              (durable.reconcileTrade markets update).1.row.val.openSnapshotMissCount = _
          rcases durable.reconcileTrade_cases markets update with
            ⟨raised, same⟩ | ⟨fill, row, -, written, served⟩
          · refine .inr ⟨?_, durable, known, by rw [same]⟩
            rintro ⟨other, here, returned⟩
            cases Option.some.inj (known.symm.trans here)
            exact raised returned
          · rw [served]
            exact .inl (tradeRow_misses written)

/-- The counter of an order is no more than the absences since its last update. -/
def OrderLedger.Counts (ledger : OrderLedger) (seen : Nat) : Prop :=
  ∀ durable ∈ ledger.order, durable.row.val.openSnapshotMissCount ≤ seen

theorem OrderLedger.evidence_absent (ledger : OrderLedger) (seen : Nat) :
    ledger.evidence markets (.absent clobOrderIds now) seen =
      if ledger.Names (.absent clobOrderIds now) then seen + 1 else seen := by
  have plain : ¬ ledger.Updates markets (.absent clobOrderIds now) := id
  exact if_neg plain

/-- A call counts no absence that is not evidence. -/
theorem OrderLedger.Counts.handle {seen : Nat} (counts : ledger.Counts seen) (call : LifeCall) :
    (ledger.handle holds markets call).Counts (ledger.evidence markets call seen) := by
  intro after member
  cases call with
  | order call =>
      rcases serve_misses ledger call member with zero | ⟨plain, durable, known, same⟩
      · rw [zero]
        exact Nat.zero_le _
      · have seen_still : ledger.evidence markets (.order call) seen = seen := by
          unfold evidence
          rw [if_neg plain]
          exact if_neg id
        rw [seen_still, same]
        exact counts durable known
  | absent clobOrderIds now =>
      obtain ⟨durable, known, rfl⟩ := Option.map_eq_some_iff.mp member
      have before := counts durable known
      have more : seen ≤ ledger.evidence markets (.absent clobOrderIds now) seen := by
        rw [evidence_absent]
        split
        · exact Nat.le_succ seen
        · exact le_rfl
      rcases durable.confirmAbsent_cases holds clobOrderIds now with
        same | ⟨named, -, -, written⟩
      · rw [same]
        exact before.trans more
      · have one_more : ledger.evidence markets (.absent clobOrderIds now) seen = seen + 1 := by
          have names : ledger.Names (.absent clobOrderIds now) := ⟨durable, known, named⟩
          rw [evidence_absent, if_pos names]
        rw [written, one_more]
        exact Nat.succ_le_succ before

theorem OrderLedger.Counts.handleAll {seen : Nat} (counts : ledger.Counts seen)
    (calls : List LifeCall) : (ledger.handleAll holds markets calls).Counts
      (absencesSince holds markets ledger seen calls) := by
  induction calls generalizing ledger seen with
  | nil => exact counts
  | cons call rest ih => exact ih (counts.handle call)

theorem absencesSince_snoc (ledger : OrderLedger) (seen : Nat) (front : List LifeCall)
    (call : LifeCall) : absencesSince holds markets ledger seen (front ++ [call]) =
      (ledger.handleAll holds markets front).evidence markets call
        (absencesSince holds markets ledger seen front) := by
  induction front generalizing ledger seen with
  | nil => rfl
  | cons first rest ih => exact ih _ _

/-! ### Runs -/

/-- What an absence stores has its reason. -/
structure AbsenceJustified (holds : String → Bool) (markets : List MarketRow) (start : OrderLedger)
    (front : List LifeCall) (clobOrderIds : List String) (now : Instant)
    (durable after : DurableOrder) : Prop where
  evidence : after.row.val.status = .cancelled → durable.row.val.status ≠ .cancelled →
    durable.row.val.status = .cancelPending ∨
      2 ≤ absencesSince holds markets start 0 (front ++ [.absent clobOrderIds now])
  required : durable.row.val.Required holds → after = durable
  final : durable.row.val.status ∈ OrderStatus.settlementStatuses ++ OrderStatus.terminalStatuses →
    after = durable

/-- Fills of the whole order settle it, whatever its status was. -/
structure SettledByTrade (markets : List MarketRow) (durable : DurableOrder)
    (update : UserTradeUpdate) : Prop where
  covered : (durable.reconcileTrade markets update).2 = .ok () →
    durable.row.val.originalSize ≤
      reportedFilledSize (durable.reconcileTrade markets update).1.fills.values →
    (durable.reconcileTrade markets update).1.row.val.status.Settled
  returns : ∀ fill, durable.tradeFill markets update = .ok fill →
    reportedFilledSize (durable.fills.set update.clobTradeId fill).values =
      durable.row.val.originalSize →
    (durable.reconcileTrade markets update).2 = .ok ()

/-- Orders are written off on evidence, and brought back by their fills. -/
structure WrittenOffOnEvidence (holds : String → Bool) (markets : List MarketRow)
    (start : OrderLedger) (calls : List LifeCall) : Prop where
  absences : ∀ front clobOrderIds now back, calls = front ++ .absent clobOrderIds now :: back →
    ∀ durable ∈ (start.handleAll holds markets front).order,
      ∀ after ∈ (start.handleAll holds markets (front ++ [.absent clobOrderIds now])).order,
        AbsenceJustified holds markets start front clobOrderIds now durable after
  trades : ∀ front update back, calls = front ++ .order (.reconcile (.trade update)) :: back →
    ∀ durable ∈ (start.handleAll holds markets front).order,
      SettledByTrade markets durable update

theorem settled_by_trade (markets : List MarketRow) (durable : DurableOrder)
    (update : UserTradeUpdate) : SettledByTrade markets durable update where
  covered returned covers := by
    rcases durable.reconcileTrade_cases markets update with
      ⟨raised, -⟩ | ⟨fill, row, -, written, served⟩
    · exact absurd returned raised
    · rw [served] at covers ⊢
      obtain ⟨-, filled, status⟩ := DurableOrder.tradeRow_spec written
      have positive := durable.row.property.original_pos
      dsimp only at covers ⊢
      rw [min_eq_left covers] at filled
      rw [status, filled, sub_self, max_self]
      exact aggregateStatus_settled positive le_rfl
  returns fill accepted covers := by
    obtain ⟨row, written⟩ : ∃ row, durable.tradeRow update
        (durable.fills.set update.clobTradeId fill).values = .ok row :=
      DurableOrder.tradeRow_ok covers.le
    unfold DurableOrder.reconcileTrade
    simp only [accepted, written]

/-- Every run of an order whose counter starts at zero writes it off on evidence only. -/
theorem written_off_on_evidence (holds : String → Bool) (markets : List MarketRow)
    (start : OrderLedger) (counts : start.Counts 0) (calls : List LifeCall) :
    WrittenOffOnEvidence holds markets start calls where
  absences front clobOrderIds now back _ durable known after member := by
    have handled : start.handleAll holds markets (front ++ [.absent clobOrderIds now]) =
        (start.handleAll holds markets front).handle holds markets (.absent clobOrderIds now) :=
      List.foldl_append
    rw [handled] at member
    obtain ⟨before, here, rfl⟩ := Option.map_eq_some_iff.mp member
    cases Option.some.inj (known.symm.trans here)
    have counted : (start.handleAll holds markets front).Counts
        (absencesSince holds markets start 0 front) := counts.handleAll front
    rcases durable.confirmAbsent_cases holds clobOrderIds now with
      same | ⟨named, unresolved, free, written⟩
    · rw [same]
      exact ⟨fun cancelled fresh => absurd cancelled fresh, fun _ => rfl, fun _ => rfl⟩
    · rw [written]
      refine ⟨fun cancelled _ => ?_, fun required => absurd required free,
        fun final => absurd final unresolved.not_final⟩
      have writesOff : durable.row.val.WritesOff := by
        by_contra open_still
        change (if durable.row.val.WritesOff then OrderStatus.cancelled else .unknown) = .cancelled
          at cancelled
        rw [if_neg open_still] at cancelled
        cases cancelled
      refine writesOff.imp_right fun twice => ?_
      have names : (start.handleAll holds markets front).Names (.absent clobOrderIds now) :=
        ⟨durable, known, named⟩
      rw [absencesSince_snoc, OrderLedger.evidence_absent, if_pos names]
      exact twice.trans (Nat.succ_le_succ (counted durable known))
  trades _ update _ _ durable _ := settled_by_trade markets durable update

end Absence

/-- Two absences and a trade of the whole order. -/
def absentThenFilled : List LifeCall :=
  [.absent ["order"] 1, .absent ["order"] 2,
    .order (.reconcile (.trade (orderTrade "first" 10 Literal.ten_pos "MATCHED")))]

theorem absentThenFilled_written_off : WrittenOffOnEvidence (fun value => value == "true")
    researchMarkets ⟨⟨.live, "yes", .buy, 1 / 2, 10, .submitted⟩, some submittedOrder⟩
      absentThenFilled := by
  refine written_off_on_evidence _ _ _ (fun durable known => ?_) absentThenFilled
  cases known
  decide

/-- The order is written off, and matched by its fill. -/
example : ((OrderLedger.handleAll (fun value => value == "true") researchMarkets
    ⟨⟨.live, "yes", .buy, 1 / 2, 10, .submitted⟩, some submittedOrder⟩ (absentThenFilled.take 2)).order.map
      fun durable => durable.row.val.status) = some .cancelled ∧
    ((OrderLedger.handleAll (fun value => value == "true") researchMarkets
      ⟨⟨.live, "yes", .buy, 1 / 2, 10, .submitted⟩, some submittedOrder⟩ absentThenFilled).order.map
        fun durable => durable.row.val.status) = some .matched := by
  decide +kernel

end Polybot
