import Mathlib.Data.List.Pairwise
import Polybot.Collections.Fifo
import Polybot.Simulation.L2Replay

/-!
Queue positions in the level-two replay.

An own order is a first-in-first-out claim on the trades of its level. The orders
of a level are `Queued` under a relation of claims that flows keep. Trades, refreshed
books and cancellations keep them so; an activation does when the place that it
samples is related to the earlier claims (`Samples`). With places apart from each
other follows conservation (`fills_within_trades`), with places behind the earlier
ones price-time priority (`earlier_orders_fill_first`).
-/

namespace Polybot

open Interaction Fifo

/-! ### Orders as claims -/

/-- The order's place in the queue of its level. -/
def ReplayOrder.claim (order : ReplayOrder) : Claim ℚ :=
  ⟨order.queueAhead, order.remaining⟩

namespace ReplayOrder

variable {order : ReplayOrder} {event : L2TradeEvent}

theorem fillSize_eq : order.fillSize event = order.claim.served event.size :=
  rfl

@[simp] theorem hit_request : (order.hit event).request = order.request := by
  unfold hit
  dsimp only
  split <;> rfl

@[simp] theorem hit_queueAhead :
    (order.hit event).queueAhead = max 0 (order.queueAhead - event.size) := by
  unfold hit
  dsimp only
  split <;> rfl

theorem hit_remaining (wants : 0 ≤ order.remaining) :
    (order.hit event).remaining = order.remaining - order.fillSize event := by
  have nonneg : 0 ≤ order.fillSize event := by
    rw [fillSize_eq]
    exact Claim.served_nonneg wants
  unfold hit
  dsimp only
  split
  · rename_i none
    rw [le_antisymm none nonneg, sub_zero]
    rfl
  · exact sub_add_eq_sub_sub _ _ _

/-- A trade moves the claim along. -/
theorem hit_claim (wants : 0 ≤ order.remaining) :
    (order.hit event).claim = order.claim.after event.size :=
  congrArg₂ Claim.mk hit_queueAhead (hit_remaining wants)

/-- An order that still works has something left. -/
theorem hit_remaining_pos (wants : 0 < order.remaining) (working : (order.hit event).Working) :
    0 < (order.hit event).remaining := by
  have left : 0 ≤ order.remaining - order.fillSize event := sub_nonneg.mpr (min_le_left _ _)
  rw [hit_remaining wants.le]
  refine lt_of_le_of_ne left fun whole => ?_
  unfold hit at working
  dsimp only at working
  split at working
  · rename_i none
    linarith
  · unfold Working at working
    rw [if_pos whole.symm] at working
    rcases working with opens | partly
    · cases opens
    · cases partly

theorem hit_pending (eligible : order.Eligible event) : (order.hit event).status ≠ .pending := by
  unfold hit
  dsimp only
  split
  · rcases eligible.1 with opens | partly
    · rw [opens]
      decide
    · rw [partly]
      decide
  · dsimp only
    split <;> decide

end ReplayOrder

/-! ### Openings -/

namespace L2State

/-- The order that an item opens. -/
def opening (state : L2State) (item : TimelineItem) : Option String :=
  match item.kind with
  | .activate orderId =>
      match state.byId.get? orderId with
      | none => none
      | some order =>
          if order.status = .pending ∧ ¬ state.WouldCross order.request then some orderId else none
  | _ => none

end L2State

/-- The orders that became open, in that order. -/
def openings : L2State → List TimelineItem → List String
  | _, [] => []
  | state, item :: rest => (state.opening item).toList ++ openings (state.apply item) rest

theorem openings_append (state : L2State) (front : List TimelineItem) (item : TimelineItem) :
    openings state (front ++ [item]) =
      openings state front ++ ((front.foldl L2State.apply state).opening item).toList := by
  induction front generalizing state with
  | nil => simp [openings]
  | cons first rest ih =>
      simp only [List.cons_append, openings, ih, List.append_assoc, List.foldl_cons]

/-! ### Queues -/

namespace L2State

/-- The claims of two working orders of a level are related. -/
def Related (R : Claim ℚ → Claim ℚ → Prop) (state : L2State) (first second : String) : Prop :=
  ∀ earlier later, state.byId.get? first = some earlier → state.byId.get? second = some later →
    earlier.Working → later.Working → earlier.Level later → R earlier.claim later.claim

/-- The queues of the orders that were opened. -/
structure Queued (R : Claim ℚ → Claim ℚ → Prop) (opened : List String) (state : L2State) :
    Prop where
  keyed : ∀ orderId order, state.byId.get? orderId = some order → order.request.orderId = orderId
  bids_nonneg : ∀ price, 0 ≤ (state.bids.get? price).getD 0
  asks_nonneg : ∀ price, 0 ≤ (state.asks.get? price).getD 0
  unfilled : ∀ orderId order, state.byId.get? orderId = some order →
    order.status = .pending ∨ order.Working → 0 < order.remaining
  placed : ∀ orderId order, state.byId.get? orderId = some order → order.Working →
    0 ≤ order.queueAhead
  listed : ∀ orderId order, state.byId.get? orderId = some order → order.Working → orderId ∈ opened
  begun : ∀ orderId ∈ opened, ∀ order, state.byId.get? orderId = some order →
    order.status ≠ .pending
  ordered : opened.Pairwise (state.Related R)

variable {R : Claim ℚ → Claim ℚ → Prop} {opened : List String} {state : L2State} {orderId : String} {order : ReplayOrder}

/-- Orders that end leave the queues as they are. -/
theorem Queued.retire (queued : state.Queued R opened) (found : state.byId.get? orderId = some order)
    {status : ReplayOrderStatus} (ends : status ≠ .pending)
    (rests : ¬ ReplayOrder.Working { order with status := status }) :
    Queued R opened { state with byId := state.byId.set orderId { order with status := status } } := by
  -- An order that still works, or waits, is one from before.
  have before {other : String} {there : ReplayOrder}
      (at_other : (state.byId.set orderId { order with status := status }).get? other = some there)
      (goes_on : there.status = .pending ∨ there.Working) : state.byId.get? other = some there := by
    rcases Dict.get?_set_eq_some_iff.mp at_other with ⟨-, rfl⟩ | ⟨-, here⟩
    · rcases goes_on with waits | works
      · exact absurd waits ends
      · exact absurd works rests
    · exact here
  refine ⟨fun other there at_other => ?_, queued.bids_nonneg, queued.asks_nonneg,
    fun other there at_other goes_on => queued.unfilled other there (before at_other goes_on) goes_on,
    fun other there at_other works => queued.placed other there (before at_other (.inr works)) works,
    fun other there at_other works => queued.listed other there (before at_other (.inr works)) works,
    fun other member there at_other waits => ?_, queued.ordered.imp fun {first second} ahead => ?_⟩
  · rcases Dict.get?_set_eq_some_iff.mp at_other with ⟨same, rfl⟩ | ⟨-, here⟩
    · exact (queued.keyed orderId order found).trans same.symm
    · exact queued.keyed other there here
  · exact queued.begun other member there (before at_other (.inl waits)) waits
  · intro earlier later at_first at_second works works'
    exact ahead earlier later (before at_first (.inr works)) (before at_second (.inr works')) works
      works'

theorem bookSide_nonneg {levels : List BookLevel} (valid : ∀ level ∈ levels, level.Valid) (price : ℚ) :
    0 ≤ ((bookSide levels).get? price).getD 0 := by
  suffices from_any : ∀ side : Dict ℚ ℚ, (∀ price, 0 ≤ (side.get? price).getD 0) →
      0 ≤ ((levels.foldl (fun side level => side.set level.price level.size) side).get? price).getD 0
    from from_any .empty fun _ => le_rfl
  induction levels with
  | nil => exact fun side nonneg => nonneg price
  | cons level rest ih =>
      rw [List.forall_mem_cons] at valid
      refine fun side nonneg => ih valid.2 _ fun other => ?_
      rw [Dict.get?_set]
      split
      · exact valid.1.size_pos.le
      · exact nonneg other

theorem Queued.externalAhead_nonneg (queued : state.Queued R opened) (request : ReplayOrderRequest) :
    0 ≤ state.externalAhead request := by
  unfold externalAhead
  cases request.side with
  | buy => exact queued.bids_nonneg request.price
  | sell => exact queued.asks_nonneg request.price

theorem Queued.ownAhead_nonneg (queued : state.Queued R opened) (order : ReplayOrder) :
    0 ≤ state.ownAhead order := by
  refine List.sum_nonneg fun amount member => ?_
  obtain ⟨⟨otherId, existing⟩, there, rfl⟩ := List.mem_map.mp member
  dsimp only
  split
  · rename_i counted
    exact (queued.unfilled otherId existing (Dict.get?_eq_some_iff.mpr there) (.inr counted.1)).le
  · exact le_rfl

/-- The claim that an order makes when it opens. -/
def sampled (state : L2State) (order : ReplayOrder) : Claim ℚ :=
  ⟨state.externalAhead order.request + state.ownAhead order, order.remaining⟩

/-- An order that opens samples a place in relation to every order of its level. -/
def Samples (R : Claim ℚ → Claim ℚ → Prop) (before : L2State) (item : TimelineItem) : Prop :=
  ∀ orderId ∈ before.opening item, ∀ order ∈ before.byId.get? orderId,
    ∀ existing ∈ before.byId.values, existing.Working → existing.Level order →
      R existing.claim (before.sampled order)

instance (R : Claim ℚ → Claim ℚ → Prop) [DecidableRel R] (before : L2State) (item : TimelineItem) :
    Decidable (before.Samples R item) :=
  inferInstanceAs (Decidable (∀ orderId ∈ before.opening item,
    ∀ order ∈ before.byId.get? orderId, _))

/-- An order that opens in relation to the others joins the queues. -/
theorem Queued.open (queued : state.Queued R opened) (found : state.byId.get? orderId = some order)
    (waits : order.status = .pending)
    (related : ∀ existing ∈ state.byId.values, existing.Working → existing.Level order →
      R existing.claim (state.sampled order)) :
    Queued R (opened ++ [orderId]) { state with
      byId := state.byId.set orderId
        { order with
          queueAhead := state.externalAhead order.request + state.ownAhead order
          status := .open } } := by
  have fresh : orderId ∉ opened := fun member => queued.begun orderId member order found waits
  have place : 0 ≤ state.externalAhead order.request + state.ownAhead order :=
    add_nonneg (queued.externalAhead_nonneg order.request) (queued.ownAhead_nonneg order)
  have differs : ∀ other ∈ opened, other ≠ orderId := fun other member same =>
    fresh (same ▸ member)
  refine ⟨fun other there at_other => ?_, queued.bids_nonneg, queued.asks_nonneg,
    fun other there at_other goes_on => ?_, fun other there at_other works => ?_,
    fun other there at_other works => ?_, fun other member there at_other => ?_, ?_⟩
  · rcases Dict.get?_set_eq_some_iff.mp at_other with ⟨same, rfl⟩ | ⟨-, here⟩
    · exact (queued.keyed orderId order found).trans same.symm
    · exact queued.keyed other there here
  · rcases Dict.get?_set_eq_some_iff.mp at_other with ⟨-, rfl⟩ | ⟨-, here⟩
    · exact queued.unfilled orderId order found (.inl waits)
    · exact queued.unfilled other there here goes_on
  · rcases Dict.get?_set_eq_some_iff.mp at_other with ⟨-, rfl⟩ | ⟨-, here⟩
    · exact place
    · exact queued.placed other there here works
  · rcases Dict.get?_set_eq_some_iff.mp at_other with ⟨same, -⟩ | ⟨-, here⟩
    · exact List.mem_append_right _ (List.mem_singleton.mpr same)
    · exact List.mem_append_left _ (queued.listed other there here works)
  · rcases Dict.get?_set_eq_some_iff.mp at_other with ⟨-, rfl⟩ | ⟨other_key, here⟩
    · exact nofun
    · rcases List.mem_append.mp member with earlier | last
      · exact queued.begun other earlier there here
      · exact absurd (List.mem_singleton.mp last) other_key
  · rw [List.pairwise_append]
    refine ⟨queued.ordered.imp_of_mem fun {first second} first_in second_in ahead => ?_,
      List.pairwise_singleton _ _, fun first first_in second second_in => ?_⟩
    · intro earlier later at_first at_second
      rcases Dict.get?_set_eq_some_iff.mp at_first with ⟨same, -⟩ | ⟨-, here⟩
      · exact absurd same (differs first first_in)
      · rcases Dict.get?_set_eq_some_iff.mp at_second with ⟨same, -⟩ | ⟨-, there⟩
        · exact absurd same (differs second second_in)
        · exact ahead earlier later here there
    · intro earlier later at_first at_second works _ level
      rcases Dict.get?_set_eq_some_iff.mp at_first with ⟨same, -⟩ | ⟨-, here⟩
      · exact absurd same (differs first first_in)
      · rcases Dict.get?_set_eq_some_iff.mp at_second with ⟨-, rfl⟩ | ⟨other_key, -⟩
        · exact related earlier (Dict.mem_values_iff.mpr ⟨first, here⟩) works level
        · exact absurd (List.mem_singleton.mp second_in) other_key

theorem applyTrade_get? (state : L2State) (event : L2TradeEvent) (orderId : String) :
    (state.applyTrade event).byId.get? orderId =
      (state.byId.get? orderId).map fun order =>
        if order.Eligible event then order.hit event else order := by
  unfold applyTrade
  rw [Dict.get?_filterMap]
  cases state.byId.get? orderId <;> rfl

theorem reduce_nonneg {book : Dict ℚ ℚ} (nonneg : ∀ price, 0 ≤ (book.get? price).getD 0)
    (event : L2TradeEvent) (price : ℚ) : 0 ≤ ((event.reduce book).get? price).getD 0 := by
  unfold L2TradeEvent.reduce
  split
  · exact nonneg price
  · rw [Dict.get?_set]
    split
    · exact le_max_left _ _
    · exact nonneg price

/-- Working orders of one level are eligible together. -/
theorem eligible_of_level {event : L2TradeEvent} {other : ReplayOrder}
    (eligible : order.Eligible event) (works : other.Working) (level : order.Level other) :
    other.Eligible event :=
  ⟨works, level.1 ▸ eligible.2.1, level.2 ▸ eligible.2.2⟩

/-- An order after a trade. -/
theorem applyTrade_cases {event : L2TradeEvent} {after : ReplayOrder}
    (found : (state.applyTrade event).byId.get? orderId = some after) :
    ∃ order, state.byId.get? orderId = some order ∧
      (order.Eligible event ∧ after = order.hit event ∨ ¬ order.Eligible event ∧ after = order) := by
  rw [applyTrade_get?, Option.map_eq_some_iff] at found
  obtain ⟨order, here, rfl⟩ := found
  refine ⟨order, here, ?_⟩
  by_cases eligible : order.Eligible event
  · exact .inl ⟨eligible, if_pos eligible⟩
  · exact .inr ⟨eligible, if_neg eligible⟩

/-- A trade takes from the queues in order. -/
theorem Queued.after_trade (kept : Claim.Kept R) (queued : state.Queued R opened) (event : L2TradeEvent) :
    (state.applyTrade event).Queued R opened := by
  have wants {orderId : String} {order : ReplayOrder} (found : state.byId.get? orderId = some order)
      (works : order.Working) : 0 < order.remaining := queued.unfilled orderId order found (.inr works)
  refine ⟨fun other after found => ?_, fun price => ?_, fun price => ?_,
    fun other after found goes_on => ?_, fun other after found works => ?_,
    fun other after found works => ?_, fun other member after found => ?_,
    queued.ordered.imp fun {first second} ahead => ?_⟩
  · rcases applyTrade_cases found with ⟨order, here, ⟨-, rfl⟩ | ⟨-, rfl⟩⟩
    · rw [ReplayOrder.hit_request]
      exact queued.keyed other order here
    · exact queued.keyed other after here
  · unfold applyTrade
    dsimp only
    split
    · exact queued.bids_nonneg price
    · exact reduce_nonneg queued.bids_nonneg event price
  · unfold applyTrade
    dsimp only
    split
    · exact reduce_nonneg queued.asks_nonneg event price
    · exact queued.asks_nonneg price
  · rcases applyTrade_cases found with ⟨order, here, ⟨eligible, rfl⟩ | ⟨-, rfl⟩⟩
    · rcases goes_on with waits | works
      · exact absurd waits (ReplayOrder.hit_pending eligible)
      · exact ReplayOrder.hit_remaining_pos (wants here eligible.1) works
    · exact queued.unfilled other after here goes_on
  · rcases applyTrade_cases found with ⟨order, here, ⟨eligible, rfl⟩ | ⟨-, rfl⟩⟩
    · rw [ReplayOrder.hit_queueAhead]
      exact le_max_left _ _
    · exact queued.placed other after here works
  · rcases applyTrade_cases found with ⟨order, here, ⟨eligible, rfl⟩ | ⟨-, rfl⟩⟩
    · exact queued.listed other order here eligible.1
    · exact queued.listed other after here works
  · rcases applyTrade_cases found with ⟨order, here, ⟨eligible, rfl⟩ | ⟨-, rfl⟩⟩
    · exact ReplayOrder.hit_pending eligible
    · exact queued.begun other member after here
  · intro earlier' later' at_first at_second works works' level
    rcases applyTrade_cases at_first with ⟨earlier, here, ⟨eligible, rfl⟩ | ⟨missed, rfl⟩⟩
    · rcases applyTrade_cases at_second with ⟨later, there, ⟨eligible', rfl⟩ | ⟨missed', rfl⟩⟩
      · have wanted : 0 ≤ earlier.claim.wanted := (wants here eligible.1).le
        have wanted' : 0 ≤ later.claim.wanted := (wants there eligible'.1).le
        rw [ReplayOrder.hit_claim wanted, ReplayOrder.hit_claim wanted']
        unfold ReplayOrder.Level at level
        rw [ReplayOrder.hit_request, ReplayOrder.hit_request] at level
        exact kept wanted wanted' (ahead earlier later here there eligible.1 eligible'.1 level)
          event.size
      · unfold ReplayOrder.Level at level
        rw [ReplayOrder.hit_request] at level
        exact absurd (eligible_of_level eligible works' level) missed'
    · rcases applyTrade_cases at_second with ⟨later, there, ⟨eligible', rfl⟩ | ⟨-, rfl⟩⟩
      · unfold ReplayOrder.Level at level
        rw [ReplayOrder.hit_request] at level
        exact absurd (eligible_of_level eligible' works ⟨level.1.symm, level.2.symm⟩) missed
      · exact ahead earlier' later' here there works works' level

theorem Queued.activate (queued : state.Queued R opened) {item : TimelineItem}
    (kind : item.kind = .activate orderId) (samples : state.Samples R item) :
    (state.activate orderId).Queued R (opened ++ (state.opening item).toList) := by
  have opens : state.opening item = match state.byId.get? orderId with
      | none => none
      | some order =>
          if order.status = .pending ∧ ¬ state.WouldCross order.request then some orderId
          else none := by
    unfold opening
    rw [kind]
  unfold L2State.activate
  cases found : state.byId.get? orderId with
  | none =>
      rw [opens, found]
      simpa using queued
  | some order =>
      rw [found] at opens
      dsimp only at opens ⊢
      split
      · rename_i begun
        rw [opens, if_neg fun both => begun both.1]
        simpa using queued
      · rename_i waits
        rw [not_not] at waits
        split
        · rename_i crosses
          rw [opens, if_neg fun both => both.2 crosses]
          simpa using queued.retire found (by decide) (by simp [ReplayOrder.Working])
        · rename_i rests
          rw [if_pos ⟨waits, rests⟩] at opens
          rw [opens]
          exact queued.open found waits (samples orderId opens order found)

theorem Queued.cancel (queued : state.Queued R opened) (orderId : String) :
    (state.cancel orderId).Queued R opened := by
  unfold L2State.cancel
  cases found : state.byId.get? orderId with
  | none => exact queued
  | some order =>
      dsimp only
      split
      · exact queued.retire found (by decide) (by simp [ReplayOrder.Working])
      · exact queued

/-- One item keeps the queues, if an order that it opens samples a related place. -/
theorem Queued.apply (kept : Claim.Kept R) (queued : state.Queued R opened) {item : TimelineItem}
    (samples : state.Samples R item) :
    (state.apply item).Queued R (opened ++ (state.opening item).toList) := by
  unfold L2State.apply
  cases kind : item.kind with
  | activate orderId => exact queued.activate kind samples
  | cancel orderId =>
      have none : state.opening item = none := by
        unfold opening
        rw [kind]
      rw [none]
      simpa using queued.cancel orderId
  | market event =>
      have none : state.opening item = none := by
        unfold opening
        rw [kind]
      rw [none]
      cases event with
      | book event =>
          simpa using
            { queued with
              bids_nonneg := bookSide_nonneg event.bids_valid
              asks_nonneg := bookSide_nonneg event.asks_valid }
      | trade event => simpa using queued.after_trade kept event

/-! ### What a trade fills -/

/-- The fills of a trade add up to at most its size. -/
def FillsWithin (before : L2State) (item : TimelineItem) (after : L2State) : Prop :=
  ∀ trade, item.kind = .market (.trade trade) → ∀ fills, after.fills = before.fills ++ fills →
    (fills.map ReplayFill.size).sum ≤ trade.size

/-- A trade fills a later order of a level only if it completes the earlier one. -/
def FillsEarlierFirst (opened : List String) (before : L2State) (item : TimelineItem)
    (after : L2State) : Prop :=
  ∀ trade, item.kind = .market (.trade trade) → ∀ fills, after.fills = before.fills ++ fills →
    ∀ first second, [first, second].Sublist opened → ∀ earlier later,
      before.byId.get? first = some earlier → before.byId.get? second = some later →
        earlier.Level later → (∃ fill ∈ fills, fill.orderId = second) →
          ∀ order, after.byId.get? first = some order → ¬ (order.Working ∧ 0 < order.remaining)

theorem fills_sum {orders : List ReplayOrder} {event : L2TradeEvent}
    (wants : ∀ order ∈ orders, 0 ≤ order.remaining) :
    ((orders.filterMap fun order => order.fill event).map ReplayFill.size).sum =
      ((orders.map ReplayOrder.claim).map fun claim => claim.served event.size).sum := by
  induction orders with
  | nil => rfl
  | cons order rest ih =>
      rw [List.forall_mem_cons] at wants
      have nonneg : 0 ≤ order.claim.served event.size := Claim.served_nonneg wants.1
      rw [List.map_cons, List.map_cons, List.sum_cons, ← ih wants.2, ← ReplayOrder.fillSize_eq]
      rw [← ReplayOrder.fillSize_eq] at nonneg
      by_cases none : order.fillSize event ≤ 0
      · simp [ReplayOrder.fill, le_antisymm none nonneg]
      · simp [ReplayOrder.fill, none]

/-- Two working orders of a level are apart, whichever opened first. -/
theorem Queued.apart (queued : state.Queued Claim.Apart opened) {first second : String}
    {order other : ReplayOrder} (differ : first ≠ second)
    (here : state.byId.get? first = some order) (there : state.byId.get? second = some other)
    (works : order.Working) (works' : other.Working) (level : order.Level other) :
    order.claim.Apart other.claim := by
  have symmetric : Std.Symm (state.Related Claim.Apart) := ⟨fun first second related order other
    here there works works' level =>
      (related other order there here works' works ⟨level.1.symm, level.2.symm⟩).symm⟩
  exact queued.ordered.forall (queued.listed first order here works)
    (queued.listed second other there works') differ order other here there works works' level

/-- The orders that a trade takes from. -/
theorem fills_of_apply {item : TimelineItem} {trade : L2TradeEvent}
    (kind : item.kind = .market (.trade trade)) {fills : List ReplayFill}
    (appended : (state.apply item).fills = state.fills ++ fills) :
    fills = (((state.byId.values.filter fun order => order.Eligible trade).insertionSort
      fun a b => a.tradeKey trade ≤ b.tradeKey trade).filterMap fun order => order.fill trade) := by
  unfold L2State.apply at appended
  rw [kind] at appended
  exact (List.append_cancel_left appended).symm

theorem Queued.fillsWithin (queued : state.Queued Claim.Apart opened) (item : TimelineItem) :
    FillsWithin state item (state.apply item) := by
  intro trade kind fills appended
  have wants : ∀ order ∈ state.byId.values.filter fun order => order.Eligible trade,
      0 < order.remaining ∧ 0 ≤ order.queueAhead := by
    intro order member
    obtain ⟨there, eligible⟩ := List.mem_filter.mp member
    obtain ⟨orderId, found⟩ := Dict.mem_values_iff.mp there
    have works := (of_decide_eq_true eligible).1
    exact ⟨queued.unfilled orderId order found (.inr works), queued.placed orderId order found works⟩
  have apart : (state.byId.values.filter fun order => order.Eligible trade).Pairwise
      fun a b => a.claim.Apart b.claim := by
    have distinct : state.byId.entries.Pairwise fun a b => a.1 ≠ b.1 :=
      List.pairwise_map.mp state.byId.nodup
    unfold Dict.values
    rw [List.filter_map, List.pairwise_map]
    refine (distinct.filter _).imp_of_mem fun {a b} a_in b_in differ => ?_
    obtain ⟨here, eligible⟩ := List.mem_filter.mp a_in
    obtain ⟨there, eligible'⟩ := List.mem_filter.mp b_in
    have earlier := of_decide_eq_true eligible
    have later := of_decide_eq_true eligible'
    exact queued.apart differ (Dict.get?_eq_some_iff.mpr here) (Dict.get?_eq_some_iff.mpr there)
      earlier.1 later.1 ⟨earlier.2.1.trans later.2.1.symm, earlier.2.2.trans later.2.2.symm⟩
  have sorted := List.perm_insertionSort (fun a b => a.tradeKey trade ≤ b.tradeKey trade)
    (state.byId.values.filter fun order => order.Eligible trade)
  rw [fills_of_apply kind appended,
    fills_sum fun order member => (wants order (sorted.mem_iff.mp member)).1.le]
  refine Claim.sum_served_le ?_ (fun claim member => ?_) (fun claim member => ?_) trade.size_pos.le
  · rw [List.pairwise_map]
    exact (sorted.pairwise_iff fun either => either.symm).mpr apart
  · obtain ⟨order, there, rfl⟩ := List.mem_map.mp member
    exact (wants order (sorted.mem_iff.mp there)).1
  · obtain ⟨order, there, rfl⟩ := List.mem_map.mp member
    exact (wants order (sorted.mem_iff.mp there)).2

theorem Queued.fillsEarlierFirst (queued : state.Queued Claim.Before opened) (item : TimelineItem) :
    FillsEarlierFirst opened state item (state.apply item) := by
  intro trade kind fills appended first second ordered earlier later here there level filled order after
  rintro ⟨works, left⟩
  rw [fills_of_apply kind appended] at filled
  obtain ⟨fill, member, identity⟩ := filled
  obtain ⟨hit, eligible_in, filling⟩ := List.mem_filterMap.mp member
  obtain ⟨in_values, eligible'⟩ := List.mem_filter.mp ((List.mem_insertionSort _).mp eligible_in)
  obtain ⟨orderId, found⟩ := Dict.mem_values_iff.mp in_values
  have served : 0 < hit.claim.served trade.size ∧ fill.orderId = hit.request.orderId := by
    unfold ReplayOrder.fill at filling
    split at filling
    · cases filling
    · rename_i some_size
      cases filling
      exact ⟨not_le.mp some_size, rfl⟩
  -- The filled order is the later one.
  have same : orderId = second :=
    (queued.keyed orderId hit found).symm.trans (served.2.symm.trans identity)
  rw [same, there] at found
  cases found
  have eligible := of_decide_eq_true eligible'
  have applied : (state.applyTrade trade).byId.get? first = some order := by
    unfold L2State.apply at after
    rwa [kind] at after
  rcases applyTrade_cases applied with ⟨before, found, ⟨taken, rfl⟩ | ⟨missed, rfl⟩⟩
  · rw [here] at found
    cases found
    have ahead := queued.ordered.forall_sublist ordered earlier later here there taken.1 eligible.1
      level
    have wants := queued.unfilled first earlier here (.inr taken.1)
    rw [ReplayOrder.hit_remaining wants.le, ReplayOrder.fillSize_eq,
      ahead.served_first served.1] at left
    exact absurd left (by simp [ReplayOrder.claim])
  · rw [here] at found
    cases found
    exact missed (eligible_of_level eligible works ⟨level.1.symm, level.2.symm⟩)

end L2State

/-! ### Replays -/

open L2ReplayEngine in
theorem start_queued {R : Claim ℚ → Claim ℚ → Prop} {byId : Dict String ReplayOrder} (registered : Registered byId) :
    (start byId).Queued R [] := by
  have idle {orderId : String} {order : ReplayOrder} (found : byId.get? orderId = some order)
      (works : order.Working) : False := by
    obtain ⟨-, waits, -⟩ := registered orderId order found
    unfold ReplayOrder.Working at works
    rw [waits] at works
    rcases works with opens | partly
    · cases opens
    · cases partly
  refine ⟨fun orderId order found => (registered orderId order found).1, fun _ => le_rfl,
    fun _ => le_rfl, fun orderId order found _ => ?_, fun orderId order found works => ?_,
    fun orderId order found works => ?_, nofun, .nil⟩
  · obtain ⟨-, -, unfilled⟩ := registered orderId order found
    unfold ReplayOrder.remaining
    rw [unfilled, sub_zero]
    exact order.request.size_pos
  · exact (idle found works).elim
  · exact (idle found works).elim

section Replay

open L2ReplayEngine

variable {engine : L2ReplayEngine} {events : List L2Event} {orders : List ReplayOrderRequest}
  {cancellations : List ReplayCancelRequest} {byId : Dict String ReplayOrder} {final : L2State}
  {items : List TimelineItem}

/-- Orders that sample related places are queued throughout a replay. -/
theorem queued_run {R : Claim ℚ → Claim ℚ → Prop} (kept : Claim.Kept R) (registered : Registered byId)
    (samples : Run (fun before item after => L2Step before item after ∧ before.Samples R item)
      (start byId) items final) :
    items.foldl L2State.apply (start byId) = final ∧
      final.Queued R (openings (start byId) items) := by
  refine samples.invariant_history
    (P := fun items state => items.foldl L2State.apply (start byId) = state ∧
      state.Queued R (openings (start byId) items)) ?_ ⟨rfl, start_queued registered⟩
  rintro done state item after ⟨replayed, queued⟩ ⟨rfl, samples⟩
  refine ⟨by rw [List.foldl_append, replayed]; rfl, ?_⟩
  rw [openings_append, replayed]
  exact queued.apply kept samples

/-- **Conservation.** In a replay in which every order that opens samples a place
apart from those of its level, no trade fills more than its size. -/
theorem fills_within_trades (prepared : engine.prepare events orders cancellations = .ok byId)
    (apart : Run (fun before item after => L2Step before item after ∧ before.Samples Claim.Apart item)
      (start byId) (timeline byId events) final) :
    Run (fun before item after => L2Step before item after ∧ before.FillsWithin item after)
      (start byId) (timeline byId events) final := by
  have within := apart.of_prefixes (Q := fun before item => before.FillsWithin item (before.apply item))
    fun front item back mid _ before =>
      (queued_run Claim.apart_kept (prepare_registered prepared) before).2.fillsWithin item
  refine within.mono fun before item after step => ⟨step.1.1, ?_⟩
  have applied : before.apply item = after := step.1.1
  rw [← applied]
  exact step.2

/-- **Price-time priority.** In a replay in which every order that opens samples a
place behind those of its level, no trade fills an order while an order of its level
that opened earlier still works. -/
theorem earlier_orders_fill_first (prepared : engine.prepare events orders cancellations = .ok byId)
    (behind : Run (fun before item after => L2Step before item after ∧ before.Samples Claim.Before item)
      (start byId) (timeline byId events) final)
    {front back : List TimelineItem} {item : TimelineItem} {before after : L2State}
    (split : timeline byId events = front ++ item :: back)
    (replayed : Run L2Step (start byId) front before) (step : L2Step before item after) :
    L2State.FillsEarlierFirst (openings (start byId) front) before item after := by
  rw [split] at behind
  obtain ⟨mid, reached, -⟩ := behind.split
  obtain ⟨replays, queued⟩ := queued_run Claim.before_kept (prepare_registered prepared) reached
  have same : mid = before := replays.symm.trans (replay_run.mp replayed)
  subst same
  have applied : mid.apply item = after := step
  rw [← applied]
  exact queued.fillsEarlierFirst item

end Replay

/-! ### A refreshed book -/

/-- A BUY at one half. -/
def restingOrder (orderId : String) (nonempty : orderId ≠ "") (size : ℚ) (positive : 0 < size)
    (submittedAt : Instant) : ReplayOrderRequest where
  orderId := orderId
  side := .buy
  price := 1 / 2
  size := size
  submittedAt := submittedAt
  submitLatency := 0
  cancelLatency := 0
  orderId_nonempty := nonempty
  price_pos := by norm_num
  price_lt_one := by norm_num
  size_pos := positive
  submitLatency_nonneg := le_rfl
  cancelLatency_nonneg := le_rfl

/-- A SELL that takes from the bids at one half. -/
def takerSale (size : ℚ) (positive : 0 < size) (occurredAt : Instant) (sequence : Nat) :
    L2TradeEvent where
  occurredAt := occurredAt
  aggressorSide := .sell
  price := 1 / 2
  size := size
  sequence := sequence
  price_pos := by norm_num
  price_lt_one := by norm_num
  size_pos := positive

/-- A hundred shares are bid at one half. -/
def deepBook : L2BookEvent where
  occurredAt := 0
  bids := [⟨1 / 2, 100⟩]
  asks := []
  sequence := 0
  bids_valid := by
    intro level member
    rw [List.mem_singleton.mp member]
    exact ⟨by norm_num, by norm_num, by norm_num⟩
  asks_valid := nofun

/-- The bids are gone. -/
def emptyBook : L2BookEvent where
  occurredAt := 1
  bids := []
  asks := []
  sequence := 1
  bids_valid := nofun
  asks_valid := nofun

/-- Ten shares behind the deep book, and a hundred that open later. -/
def twoOrders : List ReplayOrderRequest :=
  [restingOrder "a" (by decide) 10 (by norm_num) 0, restingOrder "b" (by decide) 100 (by norm_num) 2]

/-- Two trades after the book was refreshed. -/
def refreshedEvents (last : L2TradeEvent) : List L2Event :=
  [.book deepBook, .book emptyBook, .trade (takerSale 10 (by norm_num) 3 2), .trade last]

/-- The same trades without the refresh. -/
def steadyEvents (last : L2TradeEvent) : List L2Event :=
  [.book deepBook, .trade (takerSale 10 (by norm_num) 3 2), .trade last]

/-- The registered orders. -/
def twoRegistered : Dict String ReplayOrder :=
  (Dict.empty.set "a" ⟨restingOrder "a" (by decide) 10 (by norm_num) 0, .pending, 0, 0, 0, none, none⟩).set
    "b" ⟨restingOrder "b" (by decide) 100 (by norm_num) 2, .pending, 2, 0, 0, none, none⟩

/-- The trades. -/
def smallSale : L2TradeEvent := takerSale 10 (by norm_num) 3 2

def largeSale : L2TradeEvent := takerSale 100 (by norm_num) 4 3

/-- The orders that are registered, and the timeline without the refresh. -/
theorem steady_prepared :
    L2ReplayEngine.prepare ⟨false, false⟩ (steadyEvents largeSale) twoOrders [] = .ok twoRegistered ∧
      timeline twoRegistered (steadyEvents largeSale) =
        [⟨0, 0, 0, .market (.book deepBook)⟩, ⟨0, 1, 0, .activate "a"⟩, ⟨2, 1, 1, .activate "b"⟩,
          ⟨3, 3, 1, .market (.trade smallSale)⟩, ⟨4, 3, 2, .market (.trade largeSale)⟩] := by
  decide +kernel

/-- Without the refresh, the later order opens behind the earlier one. -/
theorem steady_behind :
    Run (fun before item after => L2Step before item after ∧ before.Samples Claim.Before item)
      (L2ReplayEngine.start twoRegistered) (timeline twoRegistered (steadyEvents largeSale))
      ((timeline twoRegistered (steadyEvents largeSale)).foldl L2State.apply
        (L2ReplayEngine.start twoRegistered)) := by
  rw [steady_prepared.2]
  refine .cons ⟨rfl, ?_⟩ (.cons ⟨rfl, ?_⟩ (.cons ⟨rfl, ?_⟩ (.cons ⟨rfl, ?_⟩ (.cons ⟨rfl, ?_⟩ (.refl _)))))
  all_goals decide +kernel

/-- The trades fill no more than their sizes. -/
theorem steady_fills_within_trades :
    Run (fun before item after => L2Step before item after ∧ before.FillsWithin item after)
      (L2ReplayEngine.start twoRegistered) (timeline twoRegistered (steadyEvents largeSale))
      ((timeline twoRegistered (steadyEvents largeSale)).foldl L2State.apply
        (L2ReplayEngine.start twoRegistered)) :=
  fills_within_trades steady_prepared.1 (steady_behind.mono fun _ _ _ step =>
    ⟨step.1, fun orderId opens order found existing member works level =>
      .inl (step.2 orderId opens order found existing member works level)⟩)

/-- The last of the trades keeps the priority of "a" over "b". -/
theorem steady_fills_earlier_first :
    let front : List TimelineItem := [⟨0, 0, 0, .market (.book deepBook)⟩, ⟨0, 1, 0, .activate "a"⟩,
      ⟨2, 1, 1, .activate "b"⟩, ⟨3, 3, 1, .market (.trade smallSale)⟩]
    let last : TimelineItem := ⟨4, 3, 2, .market (.trade largeSale)⟩
    let before := front.foldl L2State.apply (L2ReplayEngine.start twoRegistered)
    openings (L2ReplayEngine.start twoRegistered) front = ["a", "b"] ∧
      L2State.FillsEarlierFirst (openings (L2ReplayEngine.start twoRegistered) front) before last
        (before.apply last) := by
  intro front last before
  have split : timeline twoRegistered (steadyEvents largeSale) = front ++ last :: [] :=
    steady_prepared.2
  exact ⟨by decide,
    earlier_orders_fill_first steady_prepared.1 steady_behind split (replay_run.mpr rfl) rfl⟩

/-- The runs with the refresh. -/
theorem refreshed_runs :
    Checked.okAnd (L2ReplayEngine.run ⟨false, false⟩
        (refreshedEvents (takerSale 100 (by norm_num) 4 3)) twoOrders []) (fun result =>
      ((result.fills.filter fun fill => fill.occurredAt = 4).map ReplayFill.size).sum = 110) = true ∧
    Checked.okAnd (L2ReplayEngine.run ⟨false, false⟩
        (refreshedEvents (takerSale 50 (by norm_num) 4 3)) twoOrders []) (fun result =>
      result.fills.map (fun fill => (fill.orderId, fill.occurredAt, fill.size)) = [("b", 4, 50)] ∧
        result.orders.map (fun order => (order.orderId, order.status, order.remainingSize)) =
          [("a", .open, 10), ("b", .partiallyFilled, 50)]) = true := by
  decide +kernel

/-- A trade of a hundred shares fills a hundred and ten. -/
theorem refreshed_book_overfills : ∃ result,
    L2ReplayEngine.run ⟨false, false⟩ (refreshedEvents (takerSale 100 (by norm_num) 4 3)) twoOrders
        [] = .ok result ∧
      ((result.fills.filter fun fill => fill.occurredAt = 4).map ReplayFill.size).sum = 110 :=
  Checked.exists_of_okAnd refreshed_runs.1

/-- The later order is filled by fifty shares, the earlier one waits with its ten. -/
theorem refreshed_book_breaks_priority : ∃ result,
    L2ReplayEngine.run ⟨false, false⟩ (refreshedEvents (takerSale 50 (by norm_num) 4 3)) twoOrders
        [] = .ok result ∧
      result.fills.map (fun fill => (fill.orderId, fill.occurredAt, fill.size)) = [("b", 4, 50)] ∧
      result.orders.map (fun order => (order.orderId, order.status, order.remainingSize)) =
        [("a", .open, 10), ("b", .partiallyFilled, 50)] :=
  Checked.exists_of_okAnd refreshed_runs.2

end Polybot
