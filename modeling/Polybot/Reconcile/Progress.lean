import Polybot.Reconcile.OrderLedger

/-!
Progress of an order row.

Order events take the maximum of the stored and the reported size, trades replace
it by the sum of the fills seen so far. `never_backwards_iff` says that the row moves
forwards in every run without failed trades exactly when, at each trade, those fills
cover what the row already shows (`CoversRow`).
-/

namespace Polybot

open Checked Interaction

namespace OrderStatus

/-- Matched, mined or confirmed. -/
def Settled (status : OrderStatus) : Prop :=
  status ∈ settlementStatuses

instance (status : OrderStatus) : Decidable status.Settled :=
  inferInstanceAs (Decidable (_ ∈ _))

/-- Partially filled, live, submitted or unknown. -/
def Open (status : OrderStatus) : Prop :=
  status ∈ [partiallyFilled, live, submitted, unknown]

instance (status : OrderStatus) : Decidable status.Open :=
  inferInstanceAs (Decidable (_ ∈ _))

theorem settled_iff {status : OrderStatus} : status.Settled ↔ 0 < status.settlementRank := by
  cases status <;> decide

theorem Settled.not_open {status : OrderStatus} (settled : status.Settled) : ¬ status.Open := by
  revert settled
  cases status <;> decide

end OrderStatus

/-! ### Progress -/

/-- The row moves forwards from `before` to `after`. -/
def KeepsProgress (before after : DurableOrder) : Prop :=
  before.row.val.filledSize ≤ after.row.val.filledSize ∧
    (before.row.val.status.Settled → ¬ after.row.val.status.Open)

/-- A stronger form, which chains. -/
def Advances (before after : DurableOrder) : Prop :=
  before.row.val.filledSize ≤ after.row.val.filledSize ∧
    (before.row.val.status.Settled → after.row.val.status.Settled)

theorem Advances.keepsProgress {before after : DurableOrder} (advances : Advances before after) :
    KeepsProgress before after :=
  ⟨advances.1, fun settled => (advances.2 settled).not_open⟩

theorem Advances.refl (durable : DurableOrder) : Advances durable durable :=
  ⟨le_rfl, id⟩

theorem Advances.trans {before mid after : DurableOrder} (first : Advances before mid)
    (second : Advances mid after) : Advances before after :=
  ⟨first.1.trans second.1, second.2 ∘ first.2⟩

/-- A state with an unchanged row. -/
theorem Advances.of_row {before after : DurableOrder} (same : after.row = before.row) :
    Advances before after := by
  unfold Advances
  rw [same]
  exact ⟨le_rfl, id⟩

/-! ### Order events -/

theorem keptStatus_settled {current reported : OrderStatus} {filledSize originalSize : ℚ}
    (settled : current.Settled) : (keptStatus current reported filledSize originalSize).Settled := by
  unfold keptStatus
  split
  · exact settled
  · split
    · rename_i terminal
      exact absurd settled (by revert terminal; cases current <;> decide)
    · split
      · exact settled
      · rename_i notLower
        rw [OrderStatus.settled_iff] at settled ⊢
        omega

theorem reconcile_order_advances (markets : List MarketRow) (durable : DurableOrder)
    (update : UserOrderUpdate) :
    Advances durable (durable.reconcile markets (.order update)) := by
  by_cases takes : durable.Takes update
  · rw [DurableOrder.reconcile_order_of_takes takes]
    refine ⟨?_, fun settled => keptStatus_settled settled⟩
    exact le_min durable.row.property.filled_le (le_max_left _ _)
  · rw [DurableOrder.reconcile_order_of_not_takes takes]
    exact .refl _

/-! ### Trades -/

section Aggregate

variable {current : OrderStatus} {filledSize remainingSize : ℚ} {fills : List FillRow}

theorem aggregateStatus_settled (filled : 0 < filledSize) (whole : remainingSize ≤ 0) :
    (aggregateStatus current filledSize remainingSize fills).Settled := by
  unfold aggregateStatus
  rw [if_neg filled.not_ge, if_neg whole.not_gt]
  split
  · decide
  · split <;> decide

theorem aggregateStatus_partial (filled : 0 < filledSize) (rest : 0 < remainingSize)
    (settled : current.Settled) :
    aggregateStatus current filledSize remainingSize fills = .partiallyFilled := by
  unfold aggregateStatus
  rw [if_neg filled.not_ge, if_pos rest, if_neg]
  revert settled
  cases current <;> decide

end Aggregate

/-- The fills that a trade leaves cover what the row shows. -/
def CoversRow (markets : List MarketRow) (durable : DurableOrder) : ReconcileCall → Prop
  | .order _ => True
  | .trade update =>
      match durable.tradeFill markets update with
      | .error _ => True
      | .ok fill =>
          let reported := reportedFilledSize (durable.fills.set update.clobTradeId fill).values
          durable.row.val.filledSize ≤ reported ∧
            (durable.row.val.status.Settled → durable.row.val.originalSize ≤ reported)

instance (markets : List MarketRow) (durable : DurableOrder) (call : ReconcileCall) :
    Decidable (CoversRow markets durable call) := by
  unfold CoversRow
  split
  · infer_instance
  · split <;> infer_instance

/-- No fill failed. -/
def DurableOrder.Unfailed (durable : DurableOrder) : Prop :=
  ∀ fill ∈ durable.fills.values, fill.settlementStatus ≠ .failed

/-- The call does not report a failed trade. -/
def ReconcileCall.Succeeds : ReconcileCall → Prop
  | .order _ => True
  | .trade update => update.settlementStatus ≠ .failed

instance (call : ReconcileCall) : Decidable call.Succeeds := by
  unfold ReconcileCall.Succeeds
  split <;> infer_instance

theorem mergeFillPayload_unfailed {existing : Option FillRow} {incoming : FillRow}
    (unfailed : ∀ fill ∈ existing, fill.settlementStatus ≠ .failed)
    (succeeds : incoming.settlementStatus ≠ .failed) :
    (mergeFillPayload existing incoming).settlementStatus ≠ .failed := by
  cases existing with
  | none => exact succeeds
  | some fill =>
      have before : fill.settlementStatus ≠ .failed := unfailed fill rfl
      unfold mergeFillPayload SettlementStatus.merge
      dsimp only
      split
      · exact before
      · split
        · exact succeeds
        · exact before

section Trade

variable {markets : List MarketRow} {durable : DurableOrder} {update : UserTradeUpdate}
  {fill : FillRow}

theorem DurableOrder.Unfailed.tradeFill (unfailed : durable.Unfailed)
    (succeeds : update.settlementStatus ≠ .failed)
    (accepted : durable.tradeFill markets update = .ok fill) :
    fill.settlementStatus ≠ .failed ∧
      ∀ other ∈ (durable.fills.set update.clobTradeId fill).values,
        other.settlementStatus ≠ .failed := by
  obtain ⟨marketId, liquidityRole, rfl⟩ := tradeFill_ok accepted
  have stored : (mergeFillPayload (durable.fills.get? update.clobTradeId)
      (update.fillPayload marketId liquidityRole)).settlementStatus ≠ .failed :=
    mergeFillPayload_unfailed
      (fun fill known => unfailed fill (Dict.mem_values_iff.mpr ⟨_, known⟩)) succeeds
  refine ⟨stored, fun other member => ?_⟩
  obtain ⟨key, found⟩ := Dict.mem_values_iff.mp member
  rcases Dict.get?_set_eq_some_iff.mp found with ⟨-, rfl⟩ | ⟨-, found⟩
  · exact stored
  · exact unfailed other (Dict.mem_values_iff.mpr ⟨key, found⟩)

theorem coversRow_trade_iff (accepted : durable.tradeFill markets update = .ok fill) :
    CoversRow markets durable (.trade update) ↔
      durable.row.val.filledSize ≤
          reportedFilledSize (durable.fills.set update.clobTradeId fill).values ∧
        (durable.row.val.status.Settled → durable.row.val.originalSize ≤
          reportedFilledSize (durable.fills.set update.clobTradeId fill).values) := by
  unfold CoversRow
  simp only [accepted]

/-- Fills that cover the row move it forwards. -/
theorem reconcile_trade_advances (covers : CoversRow markets durable (.trade update)) :
    Advances durable (durable.reconcile markets (.trade update)) := by
  rcases durable.reconcile_trade_cases markets update with
    ⟨-, same⟩ | ⟨fill, accepted, stored, aggregates⟩
  · rw [same]
    exact .refl _
  · rcases aggregates with ⟨-, same⟩ | ⟨-, size, status⟩
    · exact .of_row same
    · obtain ⟨filled, whole⟩ := (coversRow_trade_iff accepted).mp covers
      rw [← stored] at filled whole
      unfold Advances
      rw [status, size]
      refine ⟨le_min durable.row.property.filled_le filled, fun settled => ?_⟩
      rw [min_eq_left (whole settled), sub_self, max_self]
      exact aggregateStatus_settled durable.row.property.original_pos le_rfl

/-- A trade that keeps progress covers the row. -/
theorem covers_of_keepsProgress (unfailed : durable.Unfailed)
    (succeeds : update.settlementStatus ≠ .failed)
    (keeps : KeepsProgress durable (durable.reconcile markets (.trade update))) :
    CoversRow markets durable (.trade update) := by
  rcases durable.reconcile_trade_cases markets update with
    ⟨refused, -⟩ | ⟨fill, accepted, stored, aggregates⟩
  · unfold CoversRow
    dsimp only
    split
    · trivial
    · rename_i fill accepted
      exact absurd accepted (refused fill)
  · rw [coversRow_trade_iff accepted]
    have listed : fill ∈ (durable.reconcile markets (.trade update)).fills.values := by
      rw [stored]
      exact Dict.mem_values_iff.mpr ⟨_, Dict.get?_set_self _ _ _⟩
    have positive := reportedFilledSize_pos listed (unfailed.tradeFill succeeds accepted).1
    rw [← stored]
    rcases aggregates with ⟨beyond, -⟩ | ⟨-, size, status⟩
    · exact ⟨durable.row.property.filled_le.trans beyond.le, fun _ => beyond.le⟩
    · obtain ⟨filled, kept⟩ := keeps
      refine ⟨filled.trans (size.trans_le (min_le_right _ _)), fun settled => ?_⟩
      refine not_lt.mp fun short => kept settled ?_
      rw [status, size, min_eq_right short.le, max_eq_right (sub_nonneg.mpr short.le),
        aggregateStatus_partial positive (sub_pos.mpr short) settled]
      decide

theorem reconcile_advances {call : ReconcileCall} (covers : CoversRow markets durable call) :
    Advances durable (durable.reconcile markets call) := by
  cases call with
  | order update => exact reconcile_order_advances markets durable update
  | trade update => exact reconcile_trade_advances covers

theorem reconcile_unfailed {call : ReconcileCall} (unfailed : durable.Unfailed)
    (succeeds : call.Succeeds) : (durable.reconcile markets call).Unfailed := by
  cases call with
  | order update =>
      by_cases takes : durable.Takes update
      · rw [DurableOrder.reconcile_order_of_takes takes]
        exact unfailed
      · rw [DurableOrder.reconcile_order_of_not_takes takes]
        exact unfailed
  | trade update =>
      rcases durable.reconcile_trade_cases markets update with
        ⟨-, same⟩ | ⟨fill, accepted, stored, -⟩
      · rw [same]
        exact unfailed
      · unfold DurableOrder.Unfailed
        rw [stored]
        exact (unfailed.tradeFill succeeds accepted).2

end Trade

/-! ### Runs -/

/-- The reconciler handles an event. -/
def ReconcileStep (markets : List MarketRow) (before : DurableOrder) (call : ReconcileCall)
    (after : DurableOrder) : Prop :=
  before.reconcile markets call = after

/-- Of any two states of the run, the later one keeps the progress of the earlier
one. -/
def NeverBackwards (markets : List MarketRow) (start : DurableOrder) (calls : List ReconcileCall) :
    Prop :=
  ∀ front back rest mid later, calls = front ++ back ++ rest →
    Run (ReconcileStep markets) start front mid → Run (ReconcileStep markets) mid back later →
    KeepsProgress mid later

section Runs

variable {markets : List MarketRow} {start final : DurableOrder} {calls : List ReconcileCall}

theorem unfailed_of_run (run : Run (ReconcileStep markets) start calls final)
    (unfailed : start.Unfailed) (succeed : ∀ call ∈ calls, call.Succeeds) : final.Unfailed := by
  refine (run.of_labels succeed).invariant (fun before call after kept step => ?_) unfailed
  obtain ⟨rfl, succeeds⟩ := step
  exact reconcile_unfailed kept succeeds

/-- The states of a run are determined by its calls. -/
theorem reconcileStep_deterministic {other : DurableOrder}
    (run : Run (ReconcileStep markets) start calls final)
    (run' : Run (ReconcileStep markets) start calls other) : other = final :=
  (Run.foldl_iff.mp run').symm.trans (Run.foldl_iff.mp run)

/-- Steps that cover the row chain. -/
theorem advances_of_run (run : Run (fun before call after =>
      ReconcileStep markets before call after ∧ CoversRow markets before call) start calls final) :
    Advances start final := by
  induction run with
  | refl => exact .refl _
  | cons first rest ih =>
      have step := reconcile_advances first.2
      rw [show _ = _ from first.1] at step
      exact step.trans ih

/-- In a run without failed trades, the row never moves backwards if and only if the
fills that each trade leaves cover what the row shows. -/
theorem never_backwards_iff (run : Run (ReconcileStep markets) start calls final)
    (unfailed : start.Unfailed) (succeed : ∀ call ∈ calls, call.Succeeds) :
    NeverBackwards markets start calls ↔
      Run (fun before call after =>
        ReconcileStep markets before call after ∧ CoversRow markets before call)
        start calls final := by
  constructor
  · intro forwards
    refine run.of_prefixes fun front call back mid split before => ?_
    cases call with
    | order update => trivial
    | trade update =>
        have call_in : ReconcileCall.trade update ∈ calls := by simp [split]
        have succeed_front : ∀ call ∈ front, call.Succeeds := fun call member =>
          succeed call (by simp [split, member])
        refine covers_of_keepsProgress (unfailed_of_run before unfailed succeed_front)
          (succeed _ call_in) ?_
        exact forwards front [.trade update] back mid _ (by simp [split]) before (.single rfl)
  · rintro covered front back rest mid later rfl before between
    obtain ⟨state, first, -⟩ := covered.split
    obtain ⟨mid', first, second⟩ := first.split
    have here : mid' = mid := reconcileStep_deterministic before
      (first.mono fun _ _ _ step => step.1)
    rw [here] at second
    have there : state = later := reconcileStep_deterministic between
      (second.mono fun _ _ _ step => step.1)
    rw [there] at second
    exact (advances_of_run second).keepsProgress

end Runs

/-! ### An event ahead of its trades -/

/-- A BUY of ten shares at one half. -/
def submittedRow : OrderRow where
  clobOrderId := some "order"
  environment := .live
  outcomeTokenId := "yes"
  side := .buy
  orderType := "GTC"
  expiresAt := none
  limitPrice := 1 / 2
  originalSize := 10
  filledSize := 0
  remainingSize := 10
  averageFillPrice := none
  status := .submitted
  attemptCount := 1
  lastErrorDetail := none
  responsePayload := .empty
  submittedAt := some 0
  feePaidPusd := 0
  matchedAt := none
  minedAt := none
  confirmedAt := none
  cancelledAt := none
  openSnapshotMissCount := 0
  openSnapshotMissingSince := none

def submittedOrder : DurableOrder :=
  ⟨⟨submittedRow, by decide +kernel⟩, .empty⟩

/-- An event of the order. -/
def orderEvent (sizeMatched : ℚ) (status : String) : UserOrderUpdate :=
  ⟨"order", 10, sizeMatched, status, 1, "event"⟩

/-- A trade of the order at one half. -/
def orderTrade (clobTradeId : String) (size : ℚ) (positive : 0 < size) (status : String) :
    UserTradeUpdate :=
  ⟨clobTradeId, ["order"], "condition", "yes", .buy, some "MAKER", 1 / 2, size, status, 0, none, 2, 3,
    "trade", by decide, Literal.half_pos, Literal.half_lt_one, positive, Literal.zero_nonneg⟩

/-- Four and six shares, each trade ahead of the event that reports it. -/
def orderedCalls : List ReconcileCall :=
  [.trade (orderTrade "first" 4 Literal.four_pos "MATCHED"), .order (orderEvent 4 "LIVE"),
    .trade (orderTrade "second" 6 Literal.six_pos "MATCHED"), .order (orderEvent 10 "MATCHED"),
    .trade (orderTrade "first" 4 Literal.four_pos "CONFIRMED")]

theorem orderedCalls_keep_progress :
    NeverBackwards researchMarkets submittedOrder orderedCalls := by
  refine (never_backwards_iff (Run.foldl_iff.mpr rfl) (by unfold DurableOrder.Unfailed; decide)
    (by decide)).mpr ?_
  refine .cons ⟨rfl, ?_⟩ (.cons ⟨rfl, ?_⟩ (.cons ⟨rfl, ?_⟩ (.cons ⟨rfl, ?_⟩ (.cons ⟨rfl, ?_⟩ (.refl _)))))
  all_goals decide +kernel

/-- All ten shares, ahead of the trades. -/
def wholeEvent : ReconcileCall :=
  .order (orderEvent 10 "MATCHED")

/-- The first trade, of four shares. -/
def lateTrade : ReconcileCall :=
  .trade (orderTrade "first" 4 (by norm_num) "MATCHED")

/-- The event leaves a matched order of ten shares, the trade after it a partially
filled one of four. -/
theorem late_trade_moves_backwards :
    let matched := submittedOrder.reconcile researchMarkets wholeEvent
    let after := matched.reconcile researchMarkets lateTrade
    (matched.row.val.filledSize = 10 ∧ matched.row.val.status = .matched) ∧
      (after.row.val.filledSize = 4 ∧ after.row.val.status = .partiallyFilled) ∧
      ¬ NeverBackwards researchMarkets submittedOrder [wholeEvent, lateTrade] := by
  intro matched after
  have states : (matched.row.val.filledSize = 10 ∧ matched.row.val.status = .matched) ∧
      after.row.val.filledSize = 4 ∧ after.row.val.status = .partiallyFilled := by
    decide +kernel
  refine ⟨states.1, states.2, fun forwards => ?_⟩
  have keeps : KeepsProgress matched after :=
    forwards [wholeEvent] [lateTrade] [] matched after rfl (.single rfl) (.single rfl)
  unfold KeepsProgress at keeps
  rw [states.1.1, states.2.1] at keeps
  exact absurd keeps.1 (by norm_num)

end Polybot
