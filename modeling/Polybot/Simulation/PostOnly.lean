import Polybot.Simulation.Cancellation

/-!
Post-only rejections in the level-two replay.

The book that stands at an activation is the last snapshot less the trades since
(`StandingBook`). The engine keeps these sizes (`Stands`), but a level that trades have
emptied stays a key of its dictionaries, and `_would_cross` looks at the keys:
`rejected_iff` says what it rejects, `rejects_on_standing_book_iff` when that is right.
-/

namespace Polybot

open Checked Interaction L2ReplayEngine

/-! ### The standing book -/

/-- A snapshot and the trades since. -/
structure StandingBook where
  book : L2BookEvent
  trades : List L2TradeEvent

namespace StandingBook

/-- An event refreshes the book or takes from it. -/
def next (standing : Option StandingBook) : L2Event → Option StandingBook
  | .book book => some ⟨book, []⟩
  | .trade trade => standing.map fun standing => { standing with trades := standing.trades ++ [trade] }

/-- The book after the events, if there was a snapshot. -/
def after (events : List L2Event) : Option StandingBook :=
  events.foldl next none

variable (standing : StandingBook)

/-- The snapshot of the levels that an order of the side would take. -/
def opposite (side : Side) : List BookLevel :=
  match side with
  | .buy => standing.book.asks
  | .sell => standing.book.bids

/-- What takers of the side have traded at the price. -/
def taken (side : Side) (price : ℚ) : ℚ :=
  ((standing.trades.filter fun trade =>
    trade.aggressorSide = side ∧ trade.price = price).map L2TradeEvent.size).sum

/-- What takers of the side have left of a level. -/
def left (side : Side) (level : BookLevel) : ℚ :=
  level.size - standing.taken side level.price

end StandingBook

/-- The price is at or through the order's. -/
def ReplayOrderRequest.Reaches (request : ReplayOrderRequest) (price : ℚ) : Prop :=
  match request.side with
  | .buy => price ≤ request.price
  | .sell => request.price ≤ price

theorem ReplayOrderRequest.reaches_iff (request : ReplayOrderRequest) (price : ℚ) :
    request.Reaches price ↔ request.side = .buy ∧ price ≤ request.price ∨
      request.side = .sell ∧ request.price ≤ price := by
  unfold Reaches
  cases request.side <;> simp

instance (request : ReplayOrderRequest) (price : ℚ) : Decidable (request.Reaches price) :=
  decidable_of_iff _ (request.reaches_iff price).symm

/-- Some level of the last snapshot is at or through the order's price. -/
def SnapshotCrosses (events : List L2Event) (request : ReplayOrderRequest) : Prop :=
  ∃ standing ∈ StandingBook.after events, ∃ level ∈ standing.opposite request.side,
    request.Reaches level.price

/-- Some of these levels has size left. -/
def StandingCrosses (events : List L2Event) (request : ReplayOrderRequest) : Prop :=
  ∃ standing ∈ StandingBook.after events, ∃ level ∈ standing.opposite request.side,
    0 < standing.left request.side level ∧ request.Reaches level.price

/-- The items that are applied before an order is activated. -/
def beforeActivation (byId : Dict String ReplayOrder) (events : List L2Event) (orderId : String) :
    List TimelineItem :=
  (timeline byId events).takeWhile fun item => item.kind ≠ .activate orderId

/-- The market events among them. -/
def appliedBefore (byId : Dict String ReplayOrder) (events : List L2Event) (orderId : String) :
    List L2Event :=
  (beforeActivation byId events orderId).filterMap TimelineItem.event?

instance (events : List L2Event) (request : ReplayOrderRequest) :
    Decidable (SnapshotCrosses events request) := by
  unfold SnapshotCrosses
  infer_instance

instance (events : List L2Event) (request : ReplayOrderRequest) :
    Decidable (StandingCrosses events request) := by
  unfold StandingCrosses
  infer_instance

/-- The prices of each side differ. -/
def L2BookEvent.DistinctPrices (event : L2BookEvent) : Prop :=
  (event.bids.map BookLevel.price).Nodup ∧ (event.asks.map BookLevel.price).Nodup

instance (event : L2BookEvent) : Decidable event.DistinctPrices :=
  inferInstanceAs (Decidable (_ ∧ _))

/-- The order ends up rejected if and only if the standing book crosses it. -/
def RejectedOnStandingBook (before : List L2Event) (request : ReplayOrderRequest)
    (result : L2ReplayResult) : Prop :=
  (∃ order ∈ result.orders, order.orderId = request.orderId ∧ order.status = .postOnlyRejected) ↔
    StandingCrosses before request

/-- The order is cancelled before it is activated. -/
def CancelledBefore (cancellations : List ReplayCancelRequest) (request : ReplayOrderRequest) :
    Prop :=
  ∃ kept ∈ keptCancel cancellations request.orderId, kept.effectiveAt request < request.activeAt

instance (cancellations : List ReplayCancelRequest) (request : ReplayOrderRequest) :
    Decidable (CancelledBefore cancellations request) := by
  unfold CancelledBefore
  infer_instance

/-! ### The books of a replay -/

/-- The side of the book that an order of the side would take. -/
def L2State.opposite (state : L2State) (side : Side) : Dict ℚ ℚ :=
  match side with
  | .buy => state.asks
  | .sell => state.bids

/-- The dictionaries of a state hold what is left of the standing book. -/
def Stands (standing : Option StandingBook) (state : L2State) : Prop :=
  ∀ side price, (state.opposite side).get? price =
    standing.bind fun standing => ((bookSide (standing.opposite side)).get? price).map fun size =>
      max 0 (size - standing.taken side price)

section Books

variable {state : L2State} {standing : Option StandingBook} {request : ReplayOrderRequest}
  {levels : List BookLevel}

theorem bookSide_snoc (levels : List BookLevel) (level : BookLevel) :
    bookSide (levels ++ [level]) = (bookSide levels).set level.price level.size := by
  unfold bookSide
  rw [List.foldl_append]
  rfl

/-- A side of a book has the prices of its levels. -/
theorem bookSide_isSome_iff {price : ℚ} :
    ((bookSide levels).get? price).isSome ↔ ∃ level ∈ levels, level.price = price := by
  induction levels using List.reverseRecOn with
  | nil => simp [bookSide]
  | append_singleton front level ih =>
      rw [bookSide_snoc, Dict.get?_set]
      split
      · rename_i same
        simp [same]
      · rename_i differs
        rw [ih]
        simp [Ne.symm differs]

/-- With one level for each price, it has their sizes. -/
theorem bookSide_get? (distinct : (levels.map BookLevel.price).Nodup) {level : BookLevel}
    (member : level ∈ levels) : (bookSide levels).get? level.price = some level.size := by
  induction levels using List.reverseRecOn with
  | nil => cases member
  | append_singleton front last ih =>
      rw [bookSide_snoc, Dict.get?_set]
      rw [List.map_append, List.nodup_append'] at distinct
      obtain ⟨apart, -, disjoint⟩ := distinct
      rcases List.mem_append.mp member with earlier | now
      · rw [if_neg fun same => disjoint (List.mem_map_of_mem earlier) (by simp [same])]
        exact ih apart earlier
      · rw [List.mem_singleton.mp now, if_pos rfl]

theorem stands_start (byId : Dict String ReplayOrder) : Stands none (start byId) := by
  intro side price
  cases side <;> rfl

/-- A book event starts a new standing book. -/
theorem stands_book (event : L2BookEvent) : Stands (some ⟨event, []⟩)
    { state with bids := bookSide event.bids, asks := bookSide event.asks } := by
  intro side price
  have sizes {levels : List BookLevel} (valid : ∀ level ∈ levels, level.Valid) :
      (bookSide levels).get? price = ((bookSide levels).get? price).map fun size => max 0 (size - 0) := by
    have sizes := L2State.bookSide_nonneg valid price
    cases found : (bookSide levels).get? price with
    | none => rfl
    | some size =>
        have nonneg : 0 ≤ size := by
          rw [found] at sizes
          exact sizes
        rw [Option.map_some, sub_zero, max_eq_right nonneg]
  cases side with
  | buy => exact sizes event.asks_valid
  | sell => exact sizes event.bids_valid

theorem taken_snoc (standing : StandingBook) (trade : L2TradeEvent) (side : Side) (price : ℚ) :
    StandingBook.taken { standing with trades := standing.trades ++ [trade] } side price =
      standing.taken side price +
        if trade.aggressorSide = side ∧ trade.price = price then trade.size else 0 := by
  unfold StandingBook.taken
  rw [List.filter_append, List.map_append, List.sum_append]
  congr 1
  by_cases takes : trade.aggressorSide = side ∧ trade.price = price
  · simp [takes]
  · rw [if_neg takes, List.filter_cons_of_neg (by simpa using takes)]
    rfl

/-- What a trade does to the side of the book that it takes from. -/
theorem reduce_get? (trade : L2TradeEvent) (book : Dict ℚ ℚ) (price : ℚ) :
    (trade.reduce book).get? price =
      (book.get? price).map fun size =>
        if trade.price = price then max 0 (size - trade.size) else size := by
  unfold L2TradeEvent.reduce
  split
  · rename_i none
    by_cases same : trade.price = price
    · rw [← same, none]
      rfl
    · simp [same]
  · rename_i size found
    rw [Dict.get?_set]
    by_cases same : trade.price = price
    · rw [if_pos same.symm, ← same, found]
      simp
    · rw [if_neg (Ne.symm same)]
      simp [same]

/-- A trade takes from the standing book. -/
theorem Stands.after_trade (stands : Stands standing state) (trade : L2TradeEvent) :
    Stands (StandingBook.next standing (.trade trade)) (state.applyTrade trade) := by
  intro side price
  have takes : ((state.applyTrade trade).opposite side).get? price =
      ((state.opposite side).get? price).map fun size =>
        if trade.aggressorSide = side ∧ trade.price = price then max 0 (size - trade.size) else size := by
    unfold L2State.applyTrade L2State.opposite
    cases side with
    | buy =>
        dsimp only
        split
        · rename_i buys
          simp only [reduce_get?, buys, true_and]
        · rename_i sells
          simp [sells]
    | sell =>
        dsimp only
        split
        · rename_i buys
          simp [buys]
        · rename_i sells
          have sells : trade.aggressorSide = .sell := by
            cases aggressor : trade.aggressorSide with
            | buy => exact absurd aggressor sells
            | sell => rfl
          simp only [reduce_get?, sells, true_and]
  rw [takes, stands side price]
  cases standing with
  | none => rfl
  | some standing =>
      have same : StandingBook.opposite { standing with trades := standing.trades ++ [trade] } side =
          standing.opposite side := rfl
      simp only [StandingBook.next, Option.map_some, Option.bind_some]
      rw [same, Option.map_map, taken_snoc]
      refine congrArg (fun left => Option.map left _) (funext fun size => ?_)
      rw [Function.comp_apply]
      split
      · rw [← sub_sub]
        rcases le_total (size - standing.taken side price) 0 with gone | some_left
        · rw [max_eq_left gone, max_eq_left (sub_nonpos.mpr trade.size_pos.le),
            max_eq_left (sub_nonpos.mpr (gone.trans trade.size_pos.le))]
        · rw [max_eq_right some_left]
      · rw [add_zero]

/-- Every state of a replay has the standing book. -/
theorem replayed_stands (byId : Dict String ReplayOrder) (items : List TimelineItem) :
    Stands (StandingBook.after (items.filterMap TimelineItem.event?)) (replayed byId items) := by
  induction items using List.reverseRecOn with
  | nil => exact stands_start byId
  | append_singleton front item ih =>
      rw [List.filterMap_append, replayed_snoc]
      unfold StandingBook.after at ih ⊢
      cases kind : item.kind with
      | market event =>
          have reads : [item].filterMap TimelineItem.event? = [event] := by
            simp [TimelineItem.event?, kind]
          rw [reads, List.foldl_append]
          unfold L2State.apply
          rw [kind]
          cases event with
          | book event => exact stands_book event
          | trade trade => exact ih.after_trade trade
      | activate orderId =>
          have reads : [item].filterMap TimelineItem.event? = [] := by
            simp [TimelineItem.event?, kind]
          have quiet : ∀ event, item.kind ≠ .market event := by simp [kind]
          obtain ⟨bids, asks⟩ := apply_books (replayed byId front) quiet
          rw [reads, List.append_nil]
          intro side price
          rw [← ih side price]
          unfold L2State.opposite
          rw [bids, asks]
      | cancel orderId =>
          have reads : [item].filterMap TimelineItem.event? = [] := by
            simp [TimelineItem.event?, kind]
          have quiet : ∀ event, item.kind ≠ .market event := by simp [kind]
          obtain ⟨bids, asks⟩ := apply_books (replayed byId front) quiet
          rw [reads, List.append_nil]
          intro side price
          rw [← ih side price]
          unfold L2State.opposite
          rw [bids, asks]

/-- With one level for each price, the engine keeps what is left of each level. -/
theorem Stands.left {standing : StandingBook} (stands : Stands (some standing) state)
    (distinct : standing.book.DistinctPrices) (side : Side) {level : BookLevel}
    (member : level ∈ standing.opposite side) :
    (state.opposite side).get? level.price = some (max 0 (standing.left side level)) := by
  have apart : ((standing.opposite side).map BookLevel.price).Nodup := by
    cases side with
    | buy => exact distinct.2
    | sell => exact distinct.1
  rw [stands side level.price, Option.bind_some, bookSide_get? apart member]
  rfl

/-- The smallest of the rationals is below a bound if and only if some are. -/
theorem exists_min?_le {list : List ℚ} {bound : ℚ} :
    (∃ least ∈ list.min?, least ≤ bound) ↔ ∃ value ∈ list, value ≤ bound := by
  constructor
  · rintro ⟨least, found, below⟩
    exact ⟨least, List.min?_mem found, below⟩
  · rintro ⟨value, member, below⟩
    cases found : list.min? with
    | none =>
        rw [List.min?_eq_none_iff.mp found] at member
        cases member
    | some least => exact ⟨least, rfl, ((List.min?_eq_some_iff.mp found).2 value member).trans below⟩

theorem exists_le_max? {list : List ℚ} {bound : ℚ} :
    (∃ greatest ∈ list.max?, bound ≤ greatest) ↔ ∃ value ∈ list, bound ≤ value := by
  constructor
  · rintro ⟨greatest, found, above⟩
    exact ⟨greatest, List.max?_mem found, above⟩
  · rintro ⟨value, member, above⟩
    cases found : list.max? with
    | none =>
        rw [List.max?_eq_none_iff.mp found] at member
        cases member
    | some greatest =>
        exact ⟨greatest, rfl, above.trans ((List.max?_eq_some_iff.mp found).2 value member)⟩

/-- `_would_cross` looks at the prices of the opposite side, whatever their sizes. -/
theorem wouldCross_iff : state.WouldCross request ↔
    ∃ price, ((state.opposite request.side).get? price).isSome ∧ request.Reaches price := by
  have listed (book : Dict ℚ ℚ) (price : ℚ) : (book.get? price).isSome ↔ price ∈ book.keys := by
    rw [← not_iff_not, ← Dict.get?_eq_none_iff, Bool.not_eq_true, Option.isSome_eq_false_iff,
      Option.isNone_iff_eq_none]
  simp only [listed]
  unfold L2State.WouldCross L2State.opposite ReplayOrderRequest.Reaches
  cases request.side with
  | buy => exact exists_min?_le
  | sell => exact exists_le_max?

/-- It rejects what the last snapshot crosses. -/
theorem Stands.wouldCross_iff {events : List L2Event}
    (stands : Stands (StandingBook.after events) state) :
    state.WouldCross request ↔ SnapshotCrosses events request := by
  unfold SnapshotCrosses
  rw [Polybot.wouldCross_iff]
  simp only [stands request.side]
  cases StandingBook.after events with
  | none => simp
  | some standing =>
      simp only [Option.bind_some, Option.isSome_map, bookSide_isSome_iff, Option.mem_def,
        Option.some.injEq, exists_eq_left']
      constructor
      · rintro ⟨_, ⟨level, member, rfl⟩, reaches⟩
        exact ⟨level, member, reaches⟩
      · rintro ⟨level, member, reaches⟩
        exact ⟨level.price, ⟨level, member, rfl⟩, reaches⟩

end Books

/-! ### Activations -/

section Activations

variable {engine : L2ReplayEngine} {events : List L2Event} {orders : List ReplayOrderRequest}
  {cancellations : List ReplayCancelRequest} {byId : Dict String ReplayOrder}
  {front more : List TimelineItem} {orderId : String} {order : ReplayOrder} {state : L2State}
  {item : TimelineItem} {request : ReplayOrderRequest}

/-- Before its activation an order waits, or is cancelled. -/
theorem waiting_front (registered : Registered byId) (there : byId.get? orderId = some order)
    (inactive : ∀ item ∈ front, item.kind ≠ .activate orderId) :
    ∃ later, (replayed byId front).byId.get? orderId = some later ∧
      later.request = order.request ∧
      later.status = if ∃ item ∈ front, item.kind = .cancel orderId then .cancelled else .pending := by
  induction front using List.reverseRecOn with
  | nil =>
      refine ⟨order, there, rfl, ?_⟩
      rw [if_neg fun ⟨item, member, _⟩ => nomatch member]
      exact (registered orderId order there).2.1
  | append_singleton before item ih =>
      obtain ⟨later, here, asked, status⟩ :=
        ih fun other member => inactive other (List.mem_append_left _ member)
      have starts := inactive item (List.mem_append_right _ (List.mem_singleton.mpr rfl))
      have queued := replayed_queued registered before
      have key : later.request.orderId = orderId := queued.keyed orderId later here
      have idle : ¬ later.Working := by
        unfold ReplayOrder.Working
        rw [status]
        split <;> decide
      refine ⟨_, replayed_moved registered item here, (L2State.moved_request _ item later).1.trans asked, ?_⟩
      have grown : (∃ other ∈ before ++ [item], other.kind = .cancel orderId) ↔
          (∃ other ∈ before, other.kind = .cancel orderId) ∨ item.kind = .cancel orderId := by
        simp [or_and_right, exists_or]
      simp only [grown]
      unfold L2State.moved
      cases kind : item.kind with
      | activate activated =>
          have other : later.request.orderId ≠ activated := fun same =>
            starts (kind.trans (congrArg _ (same.symm.trans key)))
          dsimp only
          rw [if_neg fun both => other both.1, status]
          simp
      | cancel cancelled =>
          dsimp only
          by_cases same : cancelled = orderId
          · subst same
            rw [if_pos (Or.inr rfl)]
            split
            · rfl
            · rename_i decided
              by_contra goes_on
              rw [status] at decided goes_on
              split at decided
              · rename_i before_cancelled
                rw [if_pos before_cancelled] at goes_on
                exact goes_on rfl
              · exact decided ⟨key, .inl rfl⟩
          · rw [if_neg fun both => same (both.1.symm.trans key), status]
            simp [same]
      | market event =>
          cases event with
          | book event =>
              dsimp only
              rw [status]
              simp
          | trade trade =>
              dsimp only
              rw [if_neg fun eligible => idle eligible.1, status]
              simp

theorem ReplayOrder.Working.not_rejected (works : order.Working) :
    order.status ≠ .postOnlyRejected := by
  rcases works with opens | partly
  · rw [opens]
    decide
  · rw [partly]
    decide

/-- Only an order that waits is rejected. -/
theorem moved_started (state : L2State) (item : TimelineItem) (started : order.status ≠ .pending) :
    (state.moved item order).status ≠ .pending ∧
      ((state.moved item order).status = .postOnlyRejected ↔ order.status = .postOnlyRejected) := by
  unfold L2State.moved
  split
  · rw [if_neg fun both => started both.2]
    exact ⟨started, .rfl⟩
  · split
    · rename_i both
      refine ⟨nofun, nofun, fun rejected => ?_⟩
      exact absurd rejected (both.2.resolve_left started).not_rejected
    · exact ⟨started, .rfl⟩
  · exact ⟨started, .rfl⟩
  · split
    · rename_i eligible
      refine ⟨ReplayOrder.hit_pending eligible, ?_⟩
      have working := eligible.1.not_rejected
      refine ⟨fun rejected => ?_, fun rejected => absurd rejected working⟩
      unfold ReplayOrder.hit at rejected
      dsimp only at rejected
      split at rejected
      · exact absurd rejected working
      · dsimp only at rejected
        split at rejected <;> cases rejected
    · exact ⟨started, .rfl⟩

/-- What is rejected once was rejected at its activation. -/
theorem rejected_later (registered : Registered byId)
    (found : (replayed byId front).byId.get? orderId = some order)
    (started : order.status ≠ .pending) (more : List TimelineItem) :
    ∃ later, (replayed byId (front ++ more)).byId.get? orderId = some later ∧
      later.status ≠ .pending ∧
        (later.status = .postOnlyRejected ↔ order.status = .postOnlyRejected) := by
  induction more using List.reverseRecOn with
  | nil =>
      rw [List.append_nil]
      exact ⟨order, found, started, .rfl⟩
  | append_singleton before item ih =>
      obtain ⟨later, here, goes_on, same⟩ := ih
      rw [← List.append_assoc]
      obtain ⟨goes_on, kept⟩ := moved_started (replayed byId (front ++ before)) item goes_on
      exact ⟨_, replayed_moved registered item here, goes_on, kept.trans same⟩

theorem inactive_before (member : item ∈ beforeActivation byId events orderId) :
    item.kind ≠ .activate orderId := by
  have waits := List.mem_takeWhile_imp (p := fun item : TimelineItem =>
    decide (item.kind ≠ .activate orderId)) member
  exact of_decide_eq_true waits

/-- The timeline activates an order after these items. -/
theorem exists_activation (registered : Registered byId) (there : byId.get? orderId = some order)
    (events : List L2Event) :
    ∃ item back, timeline byId events = beforeActivation byId events orderId ++ item :: back ∧
      item.kind = .activate orderId ∧ item.occurredAt = order.activeAt ∧ item.priority = 1 := by
  obtain ⟨index, activates⟩ := activation_listed events registered there
  have split := List.takeWhile_append_dropWhile (l := timeline byId events)
    (p := fun item => decide (item.kind ≠ .activate orderId))
  cases rest : (timeline byId events).dropWhile fun item => decide (item.kind ≠ .activate orderId) with
  | nil =>
      rw [rest, List.append_nil] at split
      rw [← split] at activates
      have waits : TimelineKind.activate orderId ≠ .activate orderId := inactive_before activates
      exact absurd rfl waits
  | cons item back =>
      have starts : item.kind = .activate orderId := by
        have first := List.head?_dropWhile_not (fun item : TimelineItem =>
          decide (item.kind ≠ .activate orderId)) (timeline byId events)
        rw [rest] at first
        exact not_not.mp (of_decide_eq_false first)
      rw [rest] at split
      have listed : item ∈ timeline byId events := by
        rw [← split]
        exact List.mem_append_right _ List.mem_cons_self
      refine ⟨item, back, split.symm, starts, ?_⟩
      obtain ⟨other, here, time⟩ := activation_time registered listed starts
      cases there.symm.trans here
      refine ⟨time, ?_⟩
      cases mem_timeline_iff.mp listed with
      | activate there => rfl
      | cancel there requested => cases starts
      | market there => cases starts

/-- It is cancelled before if its cancellation takes effect before its activation. -/
theorem cancelled_before_iff (prepared : engine.prepare events orders cancellations = .ok byId)
    (there : byId.get? request.orderId = some order) (asked : order.request = request)
    {back : List TimelineItem} (split : timeline byId events = front ++ item :: back)
    (time : item.occurredAt = order.activeAt) (priority : item.priority = 1) :
    (∃ item ∈ front, item.kind = .cancel request.orderId) ↔ CancelledBefore cancellations request := by
  have registered := prepare_registered prepared
  have how := (prepare_registers prepared).registered _ order there
  have activeAt : order.activeAt = request.activeAt := by
    rw [how.activeAt, asked]
    rfl
  have effectiveAt : order.cancelEffectiveAt = (keptCancel cancellations request.orderId).map
      fun kept => kept.effectiveAt request := by
    rw [how.cancelEffectiveAt, asked]
    rfl
  constructor
  · rintro ⟨cancels, member, kind⟩
    have listed : cancels ∈ timeline byId events := by
      rw [split]
      exact List.mem_append_left _ member
    obtain ⟨other, here, requested⟩ := cancellation_time registered listed kind
    cases there.symm.trans here
    rw [effectiveAt, Option.map_eq_some_iff] at requested
    obtain ⟨kept, keeps, at_time⟩ := requested
    refine ⟨kept, keeps, ?_⟩
    have second : cancels.priority = 2 := by
      cases mem_timeline_iff.mp listed with
      | activate there => cases kind
      | cancel there requested => rfl
      | market there => cases kind
    have sorted := timeline_sorted byId events
    rw [split, List.pairwise_append] at sorted
    rcases TimelineItem.key_le_iff.mp (sorted.2.2 cancels member item List.mem_cons_self) with
      before | ⟨-, below | ⟨same, -⟩⟩
    · rw [at_time, ← activeAt, ← time]
      exact before
    · rw [second, priority] at below
      exact absurd below (by decide)
    · rw [second, priority] at same
      cases same
  · rintro ⟨kept, keeps, before⟩
    have requested : order.cancelEffectiveAt = some (kept.effectiveAt request) := by
      rw [effectiveAt, keeps]
      rfl
    obtain ⟨index, cancels⟩ := cancel_listed events registered there requested
    refine ⟨_, mem_front split cancels (Prod.Lex.toLex_lt_toLex.mpr (.inl ?_)), rfl⟩
    rw [time, activeAt]
    exact before

/-- The activation of an order that waits decides. -/
theorem activation_decides {Stopped Crosses : Prop} {cancelled : Prop} [Decidable cancelled]
    (stopped : cancelled ↔ Stopped) (crosses : state.WouldCross order.request ↔ Crosses)
    (kind : item.kind = .activate orderId) (key : order.request.orderId = orderId)
    (status : order.status = if cancelled then .cancelled else .pending) :
    (state.moved item order).status ≠ .pending ∧
      ((state.moved item order).status = .postOnlyRejected ↔ ¬ Stopped ∧ Crosses) := by
  unfold L2State.moved
  rw [kind]
  dsimp only
  by_cases before : cancelled
  · rw [if_pos before] at status
    have decided : order.status ≠ .pending := by
      rw [status]
      decide
    rw [if_neg fun both => decided both.2, status]
    exact ⟨by decide, nofun, fun both => absurd (stopped.mp before) both.1⟩
  · rw [if_neg before] at status
    rw [if_pos ⟨key, status⟩]
    by_cases meets : state.WouldCross order.request
    · rw [if_pos meets]
      exact ⟨nofun, fun _ => ⟨fun stops => before (stopped.mpr stops), crosses.mp meets⟩,
        fun _ => rfl⟩
    · rw [if_neg meets]
      exact ⟨nofun, nofun, fun both => absurd (crosses.mpr both.2) meets⟩

/-- An order is rejected if it reaches its activation and the last snapshot crosses it. -/
theorem rejected_iff (prepared : engine.prepare events orders cancellations = .ok byId)
    (requested : request ∈ orders) :
    (∃ order ∈ (engine.result (replayed byId (timeline byId events))).orders,
        order.orderId = request.orderId ∧ order.status = .postOnlyRejected) ↔
      ¬ CancelledBefore cancellations request ∧
        SnapshotCrosses (appliedBefore byId events request.orderId) request := by
  have registered := prepare_registered prepared
  obtain ⟨order, there, asked⟩ := (prepare_registers prepared).every request requested
  obtain ⟨item, back, split, kind, time, priority⟩ := exists_activation registered there events
  have before := cancelled_before_iff prepared there asked split time priority
  have crosses : (replayed byId (beforeActivation byId events request.orderId)).WouldCross request ↔
      SnapshotCrosses (appliedBefore byId events request.orderId) request :=
    (replayed_stands byId (beforeActivation byId events request.orderId)).wouldCross_iff
  have inactive : ∀ item ∈ beforeActivation byId events request.orderId,
      item.kind ≠ .activate request.orderId := fun item member => inactive_before member
  obtain ⟨later, here, same, status⟩ := waiting_front registered there inactive
  generalize beforeActivation byId events request.orderId = front at *
  have crosses : (replayed byId front).WouldCross later.request ↔
      SnapshotCrosses (appliedBefore byId events request.orderId) request := by
    rw [same, asked]
    exact crosses
  have queued := replayed_queued registered front
  have key : later.request.orderId = request.orderId := queued.keyed _ later here
  have found := replayed_moved registered item here
  have decides := activation_decides before crosses kind key status
  obtain ⟨final, ends, -, kept⟩ := rejected_later registered found decides.1 back
  rw [List.append_assoc, List.singleton_append, ← split] at ends
  have keyed := (replayed_queued registered (timeline byId events)).keyed
  rw [← decides.2, ← kept]
  constructor
  · rintro ⟨_, member, own, rejected⟩
    obtain ⟨other, listed, rfl⟩ := List.mem_map.mp member
    obtain ⟨otherId, at_other⟩ := Dict.mem_values_iff.mp listed
    have own : other.request.orderId = request.orderId := own
    rw [← keyed otherId other at_other, own, ends] at at_other
    cases at_other
    exact rejected
  · intro rejected
    exact ⟨final.result, List.mem_map_of_mem (Dict.mem_values_iff.mpr ⟨_, ends⟩),
      keyed _ final ends, rejected⟩

/-- What stands was in the snapshot. -/
theorem snapshotCrosses_of_standing (crosses : StandingCrosses events request) :
    SnapshotCrosses events request := by
  obtain ⟨standing, stands, level, member, -, reaches⟩ := crosses
  exact ⟨standing, stands, level, member, reaches⟩

/-- The order is rejected on the standing book if and only if some crossing level of the
snapshot has size left, or none has and the order is cancelled first. -/
theorem rejects_on_standing_book_iff
    (prepared : engine.prepare events orders cancellations = .ok byId) {result : L2ReplayResult}
    (accepted : engine.run events orders cancellations = .ok result) (requested : request ∈ orders) :
    RejectedOnStandingBook (appliedBefore byId events request.orderId) request result ↔
      if CancelledBefore cancellations request then
        ¬ StandingCrosses (appliedBefore byId events request.orderId) request
      else
        SnapshotCrosses (appliedBefore byId events request.orderId) request →
          StandingCrosses (appliedBefore byId events request.orderId) request := by
  obtain ⟨_, final, same, run, rfl⟩ := run_ok_iff.mp accepted
  cases prepared.symm.trans same
  unfold RejectedOnStandingBook
  rw [← replay_run.mp run]
  have rejected := rejected_iff prepared requested
  unfold replayed at rejected
  rw [rejected]
  split
  · rename_i stopped
    exact ⟨fun same crosses => (same.mpr crosses).1 stopped,
      fun rests => ⟨fun both => absurd stopped both.1, fun crosses => absurd crosses rests⟩⟩
  · rename_i reached
    exact ⟨fun same crosses => same.mp ⟨reached, crosses⟩,
      fun left => ⟨fun both => left both.2, fun crosses =>
        ⟨reached, snapshotCrosses_of_standing crosses⟩⟩⟩

end Activations

/-! ### A level that trades empty -/

/-- Ten shares are offered at one half. -/
def offeredBook : L2BookEvent where
  occurredAt := 0
  bids := []
  asks := [⟨1 / 2, 10⟩]
  sequence := 0
  bids_valid := BookLevel.valid_nil
  asks_valid := BookLevel.valid_tenAtHalf

/-- A BUY that takes from the offer. -/
def offerTaker (size : ℚ) (positive : 0 < size) : L2TradeEvent where
  occurredAt := 1
  aggressorSide := .buy
  price := 1 / 2
  size := size
  sequence := 1
  price_pos := Literal.half_pos
  price_lt_one := Literal.half_lt_one
  size_pos := positive

/-- A BUY at one half that is activated after the trade. -/
def laterOrder : ReplayOrderRequest :=
  restingOrder "a" firstOrder_named 10 Literal.ten_pos 2

def laterRegistered : Dict String ReplayOrder :=
  Dict.empty.set "a" ⟨laterOrder, .pending, 2, 0, 0, none, none⟩

/-- A trade leaves four of the ten shares: the order crosses them and is rejected. -/
theorem part_of_level_rejects : ∃ result,
    L2ReplayEngine.run ⟨false, false⟩ [.book offeredBook, .trade (offerTaker 6 (by norm_num))]
        [laterOrder] [] = .ok result ∧
      RejectedOnStandingBook (appliedBefore laterRegistered
        [.book offeredBook, .trade (offerTaker 6 (by norm_num))] "a") laterOrder result := by
  have prepared : L2ReplayEngine.prepare ⟨false, false⟩
      [.book offeredBook, .trade (offerTaker 6 (by norm_num))] [laterOrder] [] =
        .ok laterRegistered := by
    decide +kernel
  have run := run_ok_iff.mpr ⟨laterRegistered, _, prepared, replay_run.mpr rfl, rfl⟩
  exact ⟨_, run, (rejects_on_standing_book_iff prepared run List.mem_cons_self).mpr (by decide +kernel)⟩

/-- A trade takes all ten shares, and the order is rejected all the same. -/
theorem empty_level_rejects : ¬ ∀ engine events orders cancellations byId result request,
    (∀ book, L2Event.book book ∈ events → book.DistinctPrices) →
    L2ReplayEngine.prepare engine events orders cancellations = .ok byId →
    L2ReplayEngine.run engine events orders cancellations = .ok result → request ∈ orders →
      RejectedOnStandingBook (appliedBefore byId events request.orderId) request result := by
  intro rejected
  let events : List L2Event := [.book offeredBook, .trade (offerTaker 10 (by norm_num))]
  have distinct : ∀ book, L2Event.book book ∈ events → book.DistinctPrices := by
    intro book member
    rcases List.mem_cons.mp member with same | later
    · cases same
      decide
    · cases List.mem_singleton.mp later
  have prepared : L2ReplayEngine.prepare ⟨false, false⟩ events [laterOrder] [] =
      .ok laterRegistered := by
    decide +kernel
  obtain ⟨result, run, order, member, own, status⟩ : ∃ result,
      L2ReplayEngine.run ⟨false, false⟩ events [laterOrder] [] = .ok result ∧
        ∃ order ∈ result.orders, order.orderId = "a" ∧ order.status = .postOnlyRejected := by
    refine Checked.exists_of_okAnd ?_
    decide +kernel
  have stands := (rejected _ _ _ _ _ _ laterOrder distinct prepared run List.mem_cons_self).mp
    ⟨order, member, own, status⟩
  exact absurd stands (by decide +kernel)

end Polybot
