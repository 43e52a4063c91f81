import Polybot.Reconcile.Progress

/-!
The settled order row.

Once all fills are CONFIRMED or FAILED, the row should follow from them. A trade
always leaves such a row, and a confirmed row stays as it is. A failed one takes the
size of a later order event or execution: `settles_by_fills_iff` says that this is
the only way in which delivery order shows (`QuietWhenFailed`).
-/

namespace Polybot

open Checked Interaction

/-! ### What the fills say -/

/-- The confirmed size of the fills. -/
def confirmedSize (fills : List FillRow) : ℚ :=
  ((fills.filter fun fill => fill.settlementStatus = .confirmed).map FillRow.size).sum

namespace DurableOrder

variable (durable : DurableOrder)

/-- Every fill is CONFIRMED or FAILED. -/
def FillsFinal : Prop :=
  ∀ fill ∈ durable.fills.values, fill.settlementStatus.Terminal

/-- There is a fill, and all fills FAILED. -/
def AllFailed : Prop :=
  durable.fills.values ≠ [] ∧ ∀ fill ∈ durable.fills.values, fill.settlementStatus = .failed

instance : Decidable durable.AllFailed :=
  inferInstanceAs (Decidable (_ ∧ _))

/-- The row is the one that final fills determine. -/
def SettledByFills : Prop :=
  durable.FillsFinal →
    (confirmedSize durable.fills.values = durable.row.val.originalSize →
      durable.row.val.status = .confirmed ∧
        durable.row.val.filledSize = durable.row.val.originalSize) ∧
    (durable.AllFailed → durable.row.val.status = .failed ∧ durable.row.val.filledSize = 0)

end DurableOrder

theorem DurableOrder.AllFailed.final {durable : DurableOrder} (failed : durable.AllFailed) :
    durable.FillsFinal :=
  fun fill member => .inr (failed.2 fill member)

/-- Of final fills, the confirmed ones count. -/
theorem reportedFilledSize_of_final {fills : List FillRow}
    (final : ∀ fill ∈ fills, fill.settlementStatus.Terminal) :
    reportedFilledSize fills = confirmedSize fills := by
  unfold reportedFilledSize successful confirmedSize
  rw [List.filter_congr fun fill member => ?_]
  rcases final fill member with confirmed | failed
  · simp [confirmed]
  · simp [failed]

/-! ### Trades -/

section Aggregate

variable {current : OrderStatus} {filledSize remainingSize : ℚ} {fills : List FillRow}

/-- Final fills of the whole order confirm it. -/
theorem aggregateStatus_confirmed (filled : 0 < filledSize) (whole : remainingSize ≤ 0)
    (final : ∀ fill ∈ fills, fill.settlementStatus.Terminal) :
    aggregateStatus current filledSize remainingSize fills = .confirmed := by
  have terminal : ∀ fill ∈ successful fills, fill.settlementStatus.Terminal := fun fill member =>
    final fill (List.mem_of_mem_filter member)
  unfold aggregateStatus
  rw [if_neg filled.not_ge, if_neg whole.not_gt, if_neg, if_neg]
  · rintro ⟨fill, member, mined⟩
    have final := terminal fill member
    rw [mined] at final
    exact absurd final (by decide)
  · rintro ⟨fill, member, pending⟩
    have final := terminal fill member
    rcases pending with matched | retrying
    · rw [matched] at final
      exact absurd final (by decide)
    · rw [retrying] at final
      exact absurd final (by decide)

theorem aggregateStatus_failed (filled : filledSize ≤ 0) (some_fill : fills ≠ [])
    (failed : ∀ fill ∈ fills, fill.settlementStatus = .failed) :
    aggregateStatus current filledSize remainingSize fills = .failed := by
  unfold aggregateStatus
  rw [if_pos filled]
  exact if_pos ⟨some_fill, failed⟩

end Aggregate

section Trade

variable {durable after : DurableOrder}

/-- Without fills there is nothing to settle. -/
theorem DurableOrder.settledByFills_of_empty {row : StoredOrder} :
    DurableOrder.SettledByFills ⟨row, .empty⟩ := by
  intro _
  refine ⟨fun whole => ?_, fun failed => absurd rfl failed.1⟩
  have positive : 0 < row.val.originalSize := row.property.original_pos
  exact absurd whole positive.ne

/-- An order whose fills were just written is settled by them. -/
theorem DurableOrder.Aggregates.settledByFills (aggregates : durable.Aggregates after) :
    after.SettledByFills := by
  intro final
  have positive : 0 < durable.row.val.originalSize := durable.row.property.original_pos
  have counted := reportedFilledSize_of_final final
  rcases aggregates with ⟨beyond, same⟩ | ⟨original, size, status⟩
  · refine ⟨fun whole => ?_, fun failed => ?_⟩
    · rw [counted, whole, same] at beyond
      exact absurd beyond (lt_irrefl _)
    · rw [reportedFilledSize_of_failed failed.2] at beyond
      exact absurd beyond positive.not_gt
  · refine ⟨fun whole => ?_, fun failed => ?_⟩
    · rw [counted, whole, original, min_self] at size
      rw [original]
      refine ⟨?_, size⟩
      rw [status, size, sub_self, max_self]
      exact aggregateStatus_confirmed positive le_rfl final
    · rw [reportedFilledSize_of_failed failed.2, min_eq_right positive.le] at size
      refine ⟨?_, size⟩
      rw [status, size]
      exact aggregateStatus_failed le_rfl failed.1 failed.2

end Trade

/-! ### Order events and executions -/

/-- A terminal row keeps its status at every execution. -/
theorem transitionAllowed_confirmed (incoming : OrderStatus) :
    OrderStatus.transitionAllowed .confirmed incoming = false := by
  cases incoming <;> decide

theorem transitionAllowed_failed (incoming : OrderStatus) :
    OrderStatus.transitionAllowed .failed incoming = false := by
  cases incoming <;> decide

/-- Updates of a row with the size of what they report, as far as settled rows can
tell. -/
structure Revises (row : OrderRow) (size : ℚ) (revised : OrderRow) : Prop where
  original : revised.originalSize = row.originalSize
  filled : revised.filledSize = min row.originalSize (max row.filledSize size)
  confirmed : row.status = .confirmed → revised.status = .confirmed
  failed : row.status = .failed → revised.filledSize < row.originalSize →
    revised.status = .failed

theorem afterEvent_revises (row : OrderRow) (update : UserOrderUpdate) :
    Revises row update.sizeMatched (row.afterEvent update) where
  original := rfl
  filled := rfl
  confirmed confirmed := by
    unfold OrderRow.afterEvent OrderRow.eventStatus keptStatus
    rw [confirmed]
    rfl
  failed failed short := by
    have short : ¬ row.originalSize ≤ row.eventFilled update := not_le.mpr short
    unfold OrderRow.afterEvent OrderRow.eventStatus keptStatus
    dsimp only
    rw [failed, if_neg (by decide), if_pos (by decide), if_neg fun both => short both.1]

theorem execution_revises (row : OrderRow) (incoming : ExecutionColumns) :
    Revises row incoming.filledSize
      { row with
        toExecutionColumns := mergeExecutionOrderPayload row.toExecutionColumns incoming } where
  original := rfl
  filled := rfl
  confirmed confirmed := by
    unfold mergeExecutionOrderPayload
    dsimp only
    rw [confirmed, transitionAllowed_confirmed]
    rfl
  failed failed _ := by
    unfold mergeExecutionOrderPayload
    dsimp only
    rw [failed, transitionAllowed_failed]
    rfl

section Revision

variable {durable : DurableOrder} {row : StoredOrder} {size : ℚ}

/-- A settled order stays settled, unless all its fills failed and the update
reports a size. -/
theorem Revises.settledByFills (revises : Revises durable.row.val size row.val)
    (settled : durable.SettledByFills) (quiet : durable.AllFailed → size ≤ 0) :
    DurableOrder.SettledByFills { durable with row := row } := by
  intro final
  obtain ⟨whole, none⟩ := settled final
  have positive : 0 < durable.row.val.originalSize := durable.row.property.original_pos
  refine ⟨fun counted => ?_, fun failed => ?_⟩
  · obtain ⟨status, filled⟩ := whole (counted.trans revises.original)
    refine ⟨revises.confirmed status, ?_⟩
    dsimp only
    rw [revises.filled, revises.original, filled]
    exact min_eq_left (le_max_left _ _)
  · obtain ⟨status, filled⟩ := none failed
    have zero : row.val.filledSize = 0 := by
      rw [revises.filled, filled, max_eq_left (quiet failed), min_eq_right positive.le]
    exact ⟨revises.failed status (zero.trans_lt positive), zero⟩

/-- An update that keeps a failed order settled reports no size. -/
theorem Revises.quiet (revises : Revises durable.row.val size row.val)
    (failed : durable.AllFailed)
    (settled : DurableOrder.SettledByFills { durable with row := row }) : size ≤ 0 := by
  obtain ⟨-, none⟩ := settled failed.final
  have zero : row.val.filledSize = 0 := (none failed).2
  rw [revises.filled] at zero
  have positive : 0 < durable.row.val.originalSize := durable.row.property.original_pos
  refine not_lt.mp fun reported => ?_
  have filled : 0 < min durable.row.val.originalSize (max durable.row.val.filledSize size) :=
    lt_min positive (reported.trans_le (le_max_right _ _))
  exact filled.ne' zero

end Revision

/-! ### Runs -/

/-- The order, if it is stored, is settled by its fills. -/
def OrderLedger.SettledByFills (ledger : OrderLedger) : Prop :=
  ∀ durable ∈ ledger.order, durable.SettledByFills

/-- A call on an order all of whose fills failed reports no filled size, unless the
store refuses the call. -/
def QuietWhenFailed (ledger : OrderLedger) (call : OrderCall) : Prop :=
  ∀ durable ∈ ledger.order, durable.AllFailed →
    match call with
    | .execution result => (∃ next, ledger.saveExecution result = .ok next) →
        min result.filledSize ledger.intent.size ≤ 0
    | .reconcile (.order update) => durable.Takes update → update.sizeMatched ≤ 0
    | .reconcile (.trade _) => True

/-- The store serves a call. -/
def OrderStep (markets : List MarketRow) (before : OrderLedger) (call : OrderCall)
    (after : OrderLedger) : Prop :=
  before.serve markets call = after

section Step

variable {markets : List MarketRow} {ledger : OrderLedger}

/-- A trade leaves a settled order. -/
theorem reconcile_trade_settled {durable : DurableOrder} (settled : durable.SettledByFills)
    (update : UserTradeUpdate) :
    (durable.reconcile markets (.trade update)).SettledByFills := by
  rcases durable.reconcile_trade_cases markets update with ⟨-, same⟩ | ⟨fill, -, -, aggregates⟩
  · rw [same]
    exact settled
  · exact aggregates.settledByFills

/-- Quiet calls keep the order settled. -/
theorem serve_settled {call : OrderCall} (settled : ledger.SettledByFills)
    (quiet : QuietWhenFailed ledger call) : (ledger.serve markets call).SettledByFills := by
  cases call with
  | execution result =>
      unfold OrderLedger.serve
      dsimp only
      cases saved : ledger.saveExecution result with
      | error problem => exact settled
      | ok next =>
          intro durable stored
          rw [Option.mem_def] at stored
          cases known : ledger.order with
          | none =>
              obtain ⟨row, made⟩ := ledger.saveExecution_none known saved
              cases made.symm.trans stored
              exact DurableOrder.settledByFills_of_empty
          | some before =>
              obtain ⟨row, made, merged⟩ := ledger.saveExecution_some known saved
              cases made.symm.trans stored
              have revises := execution_revises before.row.val
                (ledger.intent.executionPayload result)
              rw [← merged] at revises
              exact revises.settledByFills (settled before known) fun failed =>
                quiet before known failed ⟨next, saved⟩
  | reconcile event =>
      intro after stored
      obtain ⟨durable, known, rfl⟩ := Option.map_eq_some_iff.mp (Option.mem_def.mp stored)
      cases event with
      | trade update => exact reconcile_trade_settled (settled durable known) update
      | order update =>
          by_cases takes : durable.Takes update
          · rw [DurableOrder.reconcile_order_of_takes takes]
            exact (afterEvent_revises durable.row.val update).settledByFills
              (settled durable known) fun failed => quiet durable known failed takes
          · rw [DurableOrder.reconcile_order_of_not_takes takes]
            exact settled durable known

/-- A call that keeps the order settled is quiet. -/
theorem quiet_of_serve {call : OrderCall} (settled : (ledger.serve markets call).SettledByFills) :
    QuietWhenFailed ledger call := by
  intro durable known failed
  rw [Option.mem_def] at known
  cases call with
  | execution result =>
      rintro ⟨next, saved⟩
      unfold OrderLedger.serve at settled
      dsimp only at settled
      rw [saved] at settled
      obtain ⟨row, made, merged⟩ := ledger.saveExecution_some known saved
      have revises := execution_revises durable.row.val (ledger.intent.executionPayload result)
      rw [← merged] at revises
      exact revises.quiet failed (settled _ made)
  | reconcile event =>
      have after := settled (durable.reconcile markets event)
        (Option.map_eq_some_iff.mpr ⟨durable, known, rfl⟩)
      cases event with
      | trade update => trivial
      | order update =>
          intro takes
          rw [DurableOrder.reconcile_order_of_takes takes] at after
          exact (afterEvent_revises durable.row.val update).quiet failed after

end Step

/-- From an order without fills, every state of a run is settled by its fills if and
only if every call is quiet on a failed order. -/
theorem settles_by_fills_iff {markets : List MarketRow} {start final : OrderLedger}
    {calls : List OrderCall} (run : Run (OrderStep markets) start calls final)
    (unfilled : ∀ durable ∈ start.order, durable.fills = .empty) :
    (∀ front rest mid, calls = front ++ rest → Run (OrderStep markets) start front mid →
        mid.SettledByFills) ↔
      Run (fun before call after => OrderStep markets before call after ∧
        QuietWhenFailed before call) start calls final := by
  have settled : start.SettledByFills := by
    rintro ⟨row, fills⟩ known
    cases unfilled _ known
    exact DurableOrder.settledByFills_of_empty
  constructor
  · intro always
    refine run.of_prefixes fun front call back mid split before => ?_
    refine quiet_of_serve (always (front ++ [call]) back _ (by simp [split]) (before.snoc rfl))
  · rintro quiet front rest mid rfl before
    obtain ⟨state, first, -⟩ := quiet.split
    have here : state = mid := (Run.foldl_iff.mp (first.mono fun _ _ _ step => step.1)).symm.trans
      (Run.foldl_iff.mp before)
    rw [here] at first
    refine first.invariant (fun before call after settled step => ?_) settled
    obtain ⟨rfl, quiet⟩ := step
    exact serve_settled settled quiet

/-! ### An event after the failure -/

/-- The order of ten shares, with its intent. -/
def submittedLedger : OrderLedger :=
  ⟨⟨.live, "yes", .buy, 1 / 2, 10, .submitted⟩, some submittedOrder⟩

theorem submittedLedger_unfilled : ∀ durable ∈ submittedLedger.order, durable.fills = .empty := by
  intro durable known
  cases known
  rfl

/-- Two trades that are confirmed after the event that reports them. -/
def confirmedCalls : List OrderCall :=
  [.reconcile wholeEvent, .reconcile (.trade (orderTrade "first" 4 Literal.four_pos "CONFIRMED")),
    .reconcile (.trade (orderTrade "second" 6 Literal.six_pos "CONFIRMED")),
    .reconcile (.order (orderEvent 10 "CANCELED"))]

theorem confirmedCalls_settle :
    (confirmedCalls.foldl (OrderLedger.serve researchMarkets) submittedLedger).SettledByFills := by
  refine (settles_by_fills_iff (Run.foldl_iff.mpr rfl) submittedLedger_unfilled).mpr ?_
    confirmedCalls [] _ (List.append_nil _).symm (Run.foldl_iff.mpr rfl)
  refine .cons ⟨rfl, ?_⟩ (.cons ⟨rfl, ?_⟩ (.cons ⟨rfl, ?_⟩ (.cons ⟨rfl, ?_⟩ (.refl _))))
  all_goals
    intro durable known failed
    cases known
    exact absurd failed (by decide +kernel)

/-- The only trade, FAILED. -/
def failedTrade : OrderCall :=
  .reconcile (.trade (orderTrade "first" 10 Literal.ten_pos "FAILED"))

/-- The status and the filled size of the order. -/
def OrderLedger.shows (ledger : OrderLedger) : Option (OrderStatus × ℚ) :=
  ledger.order.map fun durable => (durable.row.val.status, durable.row.val.filledSize)

/-- With the same fills, the order is failed when the trade comes last, and matched
when the event does. -/
theorem settlement_depends_on_delivery :
    let before := [.reconcile wholeEvent, failedTrade].foldl (OrderLedger.serve researchMarkets)
      submittedLedger
    let after := [failedTrade, .reconcile wholeEvent].foldl (OrderLedger.serve researchMarkets)
      submittedLedger
    before.order.map DurableOrder.fills = after.order.map DurableOrder.fills ∧
      after.order.map (fun durable => decide durable.AllFailed) = some true ∧
      before.shows = some (.failed, 0) ∧ after.shows = some (.matched, 10) := by
  decide +kernel

end Polybot
