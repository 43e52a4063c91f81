import Polybot.Simulation.OrderLife

/-!
Cancellations in the level-two replay.

`run` stores one effective time for an order, that of its last listed request
(`keptCancel`), whatever the others ask for. `cancels_honoured_iff` says that this
honours every request, for all events, if and only if the stored one comes no later
than any of them, or stops the order before its activation (`KeepsEarliest`).
-/

namespace Polybot

open Checked Interaction L2ReplayEngine

/-- `submitted_at + submit_latency`. -/
def ReplayOrderRequest.activeAt (request : ReplayOrderRequest) : Instant :=
  request.submittedAt + request.submitLatency

/-- `requested_at + cancel_latency`. -/
def ReplayCancelRequest.effectiveAt (cancellation : ReplayCancelRequest)
    (request : ReplayOrderRequest) : Instant :=
  cancellation.requestedAt + request.cancelLatency

/-- A cancellation stops its order when it takes effect. -/
structure Stopped (request : ReplayOrderRequest) (effectiveAt : Instant) (result : L2ReplayResult) :
    Prop where
  fills : ∀ fill ∈ result.fills, fill.orderId = request.orderId → fill.occurredAt < effectiveAt
  listed : ∃ order ∈ result.orders, order.orderId = request.orderId
  ended : ∀ order ∈ result.orders, order.orderId = request.orderId → order.status.Ended

/-- Every cancellation is honoured. -/
def CancelsHonoured (orders : List ReplayOrderRequest) (cancellations : List ReplayCancelRequest)
    (result : L2ReplayResult) : Prop :=
  ∀ cancellation ∈ cancellations, ∀ request ∈ orders, request.orderId = cancellation.orderId →
    Stopped request (cancellation.effectiveAt request) result

/-- The last listed request of an order is no later than any of its requests, or stops
the order by the time of its activation. -/
def KeepsEarliest (orders : List ReplayOrderRequest) (cancellations : List ReplayCancelRequest) :
    Prop :=
  ∀ cancellation ∈ cancellations, ∀ request ∈ orders, request.orderId = cancellation.orderId →
    ∀ kept ∈ keptCancel cancellations request.orderId,
      kept.requestedAt ≤ cancellation.requestedAt ∨ kept.effectiveAt request ≤ request.activeAt

instance (orders : List ReplayOrderRequest) (cancellations : List ReplayCancelRequest) :
    Decidable (KeepsEarliest orders cancellations) := by
  unfold KeepsEarliest
  infer_instance

/-! ### The cancellation of a timeline -/

theorem ReplayOrderStatus.cancelled_ended : ReplayOrderStatus.cancelled.Ended := by
  decide

/-- Of two items, the one that is no later and of lower priority comes first. -/
theorem TimelineItem.key_lt_of_priority {item other : TimelineItem}
    (time : item.occurredAt ≤ other.occurredAt) (priority : item.priority < other.priority) :
    item.key < other.key := by
  refine lt_of_le_not_ge (key_le_iff.mpr ?_) fun ge => ?_
  · rcases time.lt_or_eq with before | same
    · exact .inl before
    · exact .inr ⟨same, .inl priority⟩
  · rcases key_le_iff.mp ge with before | ⟨-, below | ⟨same, -⟩⟩
    · exact absurd before time.not_gt
    · exact absurd below priority.not_gt
    · exact absurd same priority.ne'

section Timelines

variable {byId : Dict String ReplayOrder} {events : List L2Event} {items front : List TimelineItem}
  {item : TimelineItem} {orderId : String} {order : ReplayOrder} {effectiveAt : Instant}

/-- The timeline cancels an order at its stored time. -/
theorem cancel_listed (events : List L2Event) (registered : Registered byId)
    (there : byId.get? orderId = some order)
    (requested : order.cancelEffectiveAt = some effectiveAt) :
    ∃ index, ⟨effectiveAt, 2, index, .cancel orderId⟩ ∈ timeline byId events := by
  obtain ⟨index, at_index⟩ := List.mem_iff_getElem?.mp (Dict.mem_values_iff.mpr ⟨orderId, there⟩)
  have key := (registered orderId order there).1
  subst key
  exact ⟨index, mem_timeline_iff.mpr (.cancel at_index requested)⟩

/-- The timeline cancels an order at no other time. -/
theorem cancellation_time (registered : Registered byId) (member : item ∈ timeline byId events)
    (kind : item.kind = .cancel orderId) :
    ∃ order, byId.get? orderId = some order ∧ order.cancelEffectiveAt = some item.occurredAt := by
  cases mem_timeline_iff.mp member with
  | activate there => cases kind
  | @cancel order index effectiveAt there requested =>
      obtain ⟨key, found⟩ := Dict.mem_values_iff.mp (List.mem_of_getElem? there)
      have same := (registered key order found).1
      cases kind
      exact ⟨order, same ▸ found, requested⟩
  | @market event index there => cases event <;> cases kind

theorem activation_listed (events : List L2Event) (registered : Registered byId)
    (there : byId.get? orderId = some order) :
    ∃ index, ⟨order.activeAt, 1, index, .activate orderId⟩ ∈ timeline byId events := by
  obtain ⟨index, at_index⟩ := List.mem_iff_getElem?.mp (Dict.mem_values_iff.mpr ⟨orderId, there⟩)
  have key := (registered orderId order there).1
  subst key
  exact ⟨index, mem_timeline_iff.mpr (.activate at_index)⟩

/-- What comes before an item of a timeline has been applied before it. -/
theorem mem_front {back : List TimelineItem} {other : TimelineItem}
    (split : timeline byId events = front ++ item :: back) (member : other ∈ timeline byId events)
    (earlier : other.key < item.key) : other ∈ front := by
  have sorted := timeline_sorted byId events
  rw [split] at member sorted
  rcases List.mem_append.mp member with before | after
  · exact before
  · have le : item.key ≤ other.key := by
      rcases List.mem_cons.mp after with rfl | later
      · exact le_rfl
      · exact List.rel_of_pairwise_cons (List.pairwise_append.mp sorted).2.1 later
    exact absurd earlier le.not_gt

/-- A cancelled order is done. -/
theorem ended_of_cancelled (registered : Registered byId) (there : byId.get? orderId = some order)
    (member : item ∈ items) (kind : item.kind = .cancel orderId) :
    ∃ later, (replayed byId items).byId.get? orderId = some later ∧ later.status.Ended := by
  obtain ⟨before, after, rfl⟩ := List.append_of_mem member
  obtain ⟨waiting, here⟩ := replayed_there registered before there
  have queued := replayed_queued registered before
  have key : waiting.request.orderId = orderId := queued.keyed orderId waiting here
  have ended : ((replayed byId before).moved item waiting).status.Ended := by
    unfold L2State.moved
    rw [kind]
    dsimp only
    by_cases goes_on : waiting.status = .pending ∨ waiting.Working
    · rw [if_pos ⟨key, goes_on⟩]
      exact ReplayOrderStatus.cancelled_ended
    · rw [if_neg fun both => goes_on both.2]
      exact ReplayOrder.ended_iff.mpr goes_on
  have stays := replayed_of_ended registered (replayed_moved registered item here) ended after
  rw [List.append_assoc, List.singleton_append] at stays
  exact ⟨_, stays, ended⟩

/-- A fill comes after the activation of its order and before its cancellation. -/
theorem fill_between (registered : Registered byId) {fill : ReplayFill}
    (member : fill ∈ (replayed byId (timeline byId events)).fills)
    (there : byId.get? fill.orderId = some order) :
    order.activeAt ≤ fill.occurredAt ∧
      ∀ effectiveAt ∈ order.cancelEffectiveAt, fill.occurredAt < effectiveAt := by
  obtain ⟨front, item, back, trade, working, split, kind, here, eligible, filled⟩ :=
    fill_origin registered _ member
  have listed : item ∈ timeline byId events := by
    rw [split]
    exact List.mem_append_right _ List.mem_cons_self
  obtain ⟨-, occurred, priority⟩ := trade_time listed kind
  obtain ⟨-, -, time⟩ := fill_eq filled
  obtain ⟨first, at_first, -, activeAt, -⟩ := replayed_order registered front here
  cases there.symm.trans at_first
  have same : fill.occurredAt = item.occurredAt := time.trans occurred.symm
  rw [same, ← activeAt]
  refine ⟨activeAt_le registered split here eligible.1, fun effectiveAt requested => ?_⟩
  by_contra late
  obtain ⟨index, cancels⟩ := cancel_listed events registered there requested
  have earlier : (TimelineItem.mk effectiveAt 2 index (.cancel fill.orderId)).key < item.key := by
    refine TimelineItem.key_lt_of_priority (not_lt.mp late) ?_
    rw [priority]
    exact Nat.lt_succ_self 2
  obtain ⟨later, found, ended⟩ := ended_of_cancelled registered there
    (mem_front split cancels earlier) rfl
  cases here.symm.trans found
  exact ReplayOrder.ended_iff.mp ended (.inr eligible.1)

end Timelines

/-! ### Requests -/

section Requests

variable {engine : L2ReplayEngine} {events : List L2Event} {orders : List ReplayOrderRequest}
  {cancellations : List ReplayCancelRequest} {byId : Dict String ReplayOrder}
  {request : ReplayOrderRequest} {cancellation kept : ReplayCancelRequest}

theorem prepare_ok_iff : engine.prepare events orders cancellations = .ok byId ↔
    engine.validateSequences events = .ok () ∧
      (orders.foldlM register .empty >>= cancellations.foldlM requestCancel) = .ok byId := by
  unfold L2ReplayEngine.prepare
  rw [bind_ok_iff]
  constructor
  · rintro ⟨⟨⟩, valid, registers⟩
    exact ⟨valid, registers⟩
  · rintro ⟨valid, registers⟩
    exact ⟨(), valid, registers⟩

/-- Some request of a cancelled order is kept. -/
theorem exists_kept (member : cancellation ∈ cancellations)
    (same : request.orderId = cancellation.orderId) :
    ∃ kept, keptCancel cancellations request.orderId = some kept := by
  unfold keptCancel
  have there : cancellation ∈ cancellations.filter fun other => other.orderId = request.orderId :=
    List.mem_filter.mpr ⟨member, by simp [same]⟩
  exact ⟨_, List.getLast?_eq_some_getLast (List.ne_nil_of_mem there)⟩

/-- The kept request stops its order. -/
theorem kept_stops (prepared : engine.prepare events orders cancellations = .ok byId)
    (requested : request ∈ orders)
    (keeps : keptCancel cancellations request.orderId = some kept) :
    Stopped request (kept.effectiveAt request)
      (engine.result (replayed byId (timeline byId events))) := by
  have registered := prepare_registered prepared
  have registers := prepare_registers prepared
  obtain ⟨order, there, same⟩ := registers.every request requested
  have effectiveAt : order.cancelEffectiveAt = some (kept.effectiveAt request) := by
    rw [(registers.registered _ order there).cancelEffectiveAt, keeps, same]
    rfl
  obtain ⟨index, cancels⟩ := cancel_listed events registered there effectiveAt
  obtain ⟨final, found, ended⟩ := ended_of_cancelled registered there cancels rfl
  have keyed := (replayed_queued registered (timeline byId events)).keyed
  refine ⟨fun fill member own => ?_, ⟨final.result, ?_, keyed _ final found⟩, fun order member own => ?_⟩
  · rw [← own] at there
    exact (fill_between registered member there).2 _ effectiveAt
  · exact List.mem_map_of_mem (Dict.mem_values_iff.mpr ⟨_, found⟩)
  · obtain ⟨other, listed, rfl⟩ := List.mem_map.mp member
    obtain ⟨key, here⟩ := Dict.mem_values_iff.mp listed
    have own : other.request.orderId = request.orderId := own
    rw [← keyed key other here, own, found] at here
    cases here
    exact ended

/-- An order has no fill before its activation. -/
theorem activeAt_le_fill (prepared : engine.prepare events orders cancellations = .ok byId)
    (requested : request ∈ orders) {fill : ReplayFill}
    (member : fill ∈ (replayed byId (timeline byId events)).fills)
    (own : fill.orderId = request.orderId) : request.activeAt ≤ fill.occurredAt := by
  have registers := prepare_registers prepared
  obtain ⟨order, there, same⟩ := registers.every request requested
  have activeAt : order.activeAt = request.activeAt := by
    rw [(registers.registered _ order there).activeAt, same]
    rfl
  rw [← own] at there
  exact activeAt ▸ (fill_between (prepare_registered prepared) member there).1

/-- Where the earliest requests are kept, every request is honoured. -/
theorem cancels_honoured {result : L2ReplayResult} (earliest : KeepsEarliest orders cancellations)
    (accepted : engine.run events orders cancellations = .ok result) :
    CancelsHonoured orders cancellations result := by
  obtain ⟨byId, final, prepared, run, rfl⟩ := run_ok_iff.mp accepted
  intro cancellation member request requested same
  obtain ⟨kept, keeps⟩ := exists_kept member same
  have stops := kept_stops prepared requested keeps
  rw [← replay_run.mp run]
  refine ⟨fun fill filled own => ?_, stops.listed, stops.ended⟩
  have before := stops.fills fill filled own
  rcases earliest cancellation member request requested same kept keeps with sooner | inactive
  · exact before.trans_le (Int.add_le_add_right sooner _)
  · have active := activeAt_le_fill prepared requested filled own
    exact absurd (before.trans_le inactive) active.not_gt

end Requests

/-! ### Replays of one trade -/

/-- A trade that takes from the level of a request. -/
def ReplayOrderRequest.takenBy (request : ReplayOrderRequest) (occurredAt : Instant) (size : ℚ)
    (positive : 0 < size) : L2TradeEvent where
  occurredAt := occurredAt
  aggressorSide := if request.side = .buy then .sell else .buy
  price := request.price
  size := size
  sequence := 0
  price_pos := request.price_pos
  price_lt_one := request.price_lt_one
  size_pos := positive

/-- The item with another market event. -/
def TimelineItem.withEvent (event : L2Event) (item : TimelineItem) : TimelineItem :=
  match item.kind with
  | .market _ => { item with kind := .market event }
  | _ => item

section LoneTrades

variable {byId : Dict String ReplayOrder} {events : List L2Event} {front : List TimelineItem}
  {item : TimelineItem} {orderId : String} {order : ReplayOrder} {request : ReplayOrderRequest}

theorem withEvent_key (event : L2Event) (item : TimelineItem) : (item.withEvent event).key = item.key := by
  unfold TimelineItem.withEvent
  split <;> rfl

theorem withEvent_of_quiet {event : L2Event} (quiet : ∀ other, item.kind ≠ .market other) :
    item.withEvent event = item := by
  unfold TimelineItem.withEvent
  split
  · rename_i other kind
    exact absurd kind (quiet other)
  · rfl

/-- Two events of one time and kind take one place in the timeline. -/
theorem timeline_withEvent (byId : Dict String ReplayOrder) {event other : L2Event}
    (time : event.occurredAt = other.occurredAt)
    (priority : event.priority = other.priority) :
    (timeline byId [event]).map (TimelineItem.withEvent other) = timeline byId [other] := by
  unfold timeline
  rw [List.map_insertionSort (s := fun a b => a.key ≤ b.key) _ _ _ fun a _ b _ => by
    rw [withEvent_key, withEvent_key]]
  congr 1
  rw [List.map_append]
  congr 1
  · refine (List.map_congr_left fun item member => ?_).trans (List.map_id _)
    obtain ⟨entry, -, listed⟩ := List.mem_flatMap.mp member
    refine withEvent_of_quiet fun event kind => ?_
    rcases List.mem_cons.mp listed with rfl | cancelled
    · cases kind
    · obtain ⟨effectiveAt, -, rfl⟩ := Option.map_eq_some_iff.mp (Option.mem_toList.mp cancelled)
      cases kind
  · change [(event.item 0).withEvent other] = [other.item 0]
    unfold TimelineItem.withEvent L2Event.item
    dsimp only
    rw [time, priority]

/-- What is applied before a lone trade does not depend on its size. -/
theorem lone_front (byId : Dict String ReplayOrder) (request : ReplayOrderRequest)
    (occurredAt : Instant) :
    ∃ front, (∀ item ∈ front, ∀ event, item.kind ≠ .market event) ∧
      ∀ size (positive : 0 < size), ∃ back,
        timeline byId [.trade (request.takenBy occurredAt size positive)] =
          front ++ (L2Event.trade (request.takenBy occurredAt size positive)).item 0 :: back := by
  let unit : L2Event := .trade (request.takenBy occurredAt 1 one_pos)
  have member : unit.item 0 ∈ timeline byId [unit] := mem_timeline_iff.mpr (.market rfl)
  obtain ⟨front, back, split, fresh⟩ := List.eq_append_cons_of_mem member
  have quiet : ∀ item ∈ front, ∀ event, item.kind ≠ .market event := by
    intro item before event kind
    have listed : item ∈ timeline byId [unit] := by
      rw [split]
      exact List.mem_append_left _ before
    cases mem_timeline_iff.mp listed with
    | activate there => cases kind
    | cancel there requested => cases kind
    | @market other index there =>
        cases index with
        | zero =>
            cases there
            exact fresh before
        | succ later => cases there
  refine ⟨front, quiet, fun size positive => ⟨back.map (TimelineItem.withEvent
    (.trade (request.takenBy occurredAt size positive))), ?_⟩⟩
  let sized : L2Event := .trade (request.takenBy occurredAt size positive)
  have resized : (timeline byId [unit]).map (TimelineItem.withEvent sized) = timeline byId [sized] :=
    timeline_withEvent byId rfl rfl
  rw [← resized, split, List.map_append, List.map_cons]
  congr 1
  exact (List.map_congr_left fun item before => withEvent_of_quiet (quiet item before)).trans
    (List.map_id _)

/-- Only market events change the books. -/
theorem apply_books (state : L2State) (quiet : ∀ event, item.kind ≠ .market event) :
    (state.apply item).bids = state.bids ∧ (state.apply item).asks = state.asks := by
  unfold L2State.apply
  split
  · unfold L2State.activate
    split
    · exact ⟨rfl, rfl⟩
    · split
      · exact ⟨rfl, rfl⟩
      · split <;> exact ⟨rfl, rfl⟩
  · unfold L2State.cancel
    split
    · exact ⟨rfl, rfl⟩
    · split <;> exact ⟨rfl, rfl⟩
  · rename_i event kind
    exact absurd kind (quiet _)
  · rename_i event kind
    exact absurd kind (quiet _)

/-- Without market events and its cancellation, an order opens when it is activated. -/
theorem quiet_front (registered : Registered byId) (there : byId.get? orderId = some order)
    (quiet : ∀ item ∈ front, item.kind ≠ .cancel orderId ∧ ∀ event, item.kind ≠ .market event) :
    (replayed byId front).bids = .empty ∧ (replayed byId front).asks = .empty ∧
      ∃ later, (replayed byId front).byId.get? orderId = some later ∧ ¬ later.status.Ended ∧
        ((∃ item ∈ front, item.kind = .activate orderId) → later.status ≠ .pending) := by
  induction front using List.reverseRecOn with
  | nil =>
      refine ⟨rfl, rfl, order, there, ?_, fun ⟨item, member, _⟩ => nomatch member⟩
      rw [(registered orderId order there).2.1]
      decide
  | append_singleton before item ih =>
      obtain ⟨bids, asks, later, here, goes_on, opened⟩ :=
        ih fun other member => quiet other (List.mem_append_left _ member)
      obtain ⟨stays, no_event⟩ := quiet item (List.mem_append_right _ (List.mem_singleton.mpr rfl))
      have queued := replayed_queued registered before
      have key : later.request.orderId = orderId := queued.keyed orderId later here
      have books := apply_books (replayed byId before) no_event
      have found := replayed_moved registered item here
      rw [replayed_snoc] at found ⊢
      cases kind : item.kind with
      | market event => exact absurd kind (no_event event)
      | cancel cancelled =>
          have other : later.request.orderId ≠ cancelled := fun same => by
            rw [key] at same
            exact stays (same ▸ kind)
          have same : (replayed byId before).moved item later = later := by
            unfold L2State.moved
            rw [kind]
            exact if_neg fun both => other both.1
          rw [same] at found
          refine ⟨books.1.trans bids, books.2.trans asks, later, found, goes_on, ?_⟩
          rintro ⟨activation, member, activates⟩
          rcases List.mem_append.mp member with earlier | now
          · exact opened ⟨activation, earlier, activates⟩
          · rw [List.mem_singleton.mp now, kind] at activates
            cases activates
      | activate activated =>
          have rests : ¬ (replayed byId before).WouldCross later.request := by
            unfold L2State.WouldCross
            rw [bids, asks]
            split <;> rintro ⟨best, member, -⟩ <;> cases member
          refine ⟨books.1.trans bids, books.2.trans asks, _, found, ?_⟩
          unfold L2State.moved
          rw [kind]
          dsimp only
          by_cases opens : later.request.orderId = activated ∧ later.status = .pending
          · rw [if_pos opens, if_neg rests]
            have works : ¬ ReplayOrderStatus.open.Ended ∧ ReplayOrderStatus.open ≠ .pending := by
              decide
            exact ⟨works.1, fun _ => works.2⟩
          · rw [if_neg opens]
            refine ⟨goes_on, ?_⟩
            rintro ⟨activation, member, activates⟩ waits
            rcases List.mem_append.mp member with earlier | now
            · exact opened ⟨activation, earlier, activates⟩ waits
            · rw [List.mem_singleton.mp now, kind] at activates
              cases activates
              exact opens ⟨key, waits⟩

/-- Fills stay. -/
theorem fills_persist (registered : Registered byId) {fill : ReplayFill}
    (member : fill ∈ (replayed byId front).fills) (more : List TimelineItem) :
    fill ∈ (replayed byId (front ++ more)).fills := by
  induction more using List.reverseRecOn with
  | nil => rwa [List.append_nil]
  | append_singleton before item ih =>
      rw [← List.append_assoc, replayed_snoc]
      have own : fill ∈ (replayed byId (front ++ before)).fills.filter fun other =>
          other.orderId = fill.orderId := List.mem_filter.mpr ⟨ih, by simp⟩
      have grown := L2State.apply_fills (replayed_queued registered (front ++ before)).keyed item
        fill.orderId
      refine List.mem_of_mem_filter (p := fun other => other.orderId = fill.orderId) ?_
      rw [grown]
      exact List.mem_append_left _ own

theorem eligible_of_takenBy {later : ReplayOrder} (works : later.Working)
    (asked : later.request = request) {occurredAt : Instant} {size : ℚ} (positive : 0 < size) :
    later.Eligible (request.takenBy occurredAt size positive) := by
  refine ⟨works, ?_, congrArg _ asked⟩
  rw [asked]
  change request.side = if (if request.side = .buy then Side.sell else .buy) = .buy then .sell else .buy
  cases request.side <;> rfl

/-- A trade that exceeds the queue ahead of an order fills it. -/
theorem fill_of_exceeds {later : ReplayOrder} {trade : L2TradeEvent}
    (wants : 0 < later.remaining) (exceeds : later.queueAhead < trade.size) :
    ∃ fill, later.fill trade = some fill := by
  have fills : ¬ later.fillSize trade ≤ 0 := by
    unfold ReplayOrder.fillSize
    rw [not_le, lt_min_iff, lt_max_iff]
    exact ⟨wants, .inr (sub_pos.mpr exceeds)⟩
  unfold ReplayOrder.fill
  rw [if_neg fills]
  exact ⟨_, rfl⟩

/-- An order that waits in an otherwise empty market is filled by a trade that is large
enough. -/
theorem filled_by_lone_trade (registered : Registered byId)
    (there : byId.get? request.orderId = some order) (same : order.request = request)
    {occurredAt : Instant} (active : order.activeAt ≤ occurredAt)
    (rests : ∀ effectiveAt ∈ order.cancelEffectiveAt, occurredAt < effectiveAt) :
    ∃ trade : L2TradeEvent, trade.sequence = 0 ∧
      ∃ fill ∈ (replayed byId (timeline byId [.trade trade])).fills,
        fill.orderId = request.orderId ∧ fill.occurredAt = occurredAt := by
  obtain ⟨front, quiet, splits⟩ := lone_front byId request occurredAt
  have timed : ∀ item ∈ front,
      item ∈ timeline byId [.trade (request.takenBy occurredAt 1 one_pos)] ∧
        item.occurredAt ≤ occurredAt := by
    obtain ⟨back, split⟩ := splits 1 one_pos
    intro item member
    refine ⟨?_, occurredAt_le split item member⟩
    rw [split]
    exact List.mem_append_left _ member
  have no_cancel : ∀ item ∈ front, item.kind ≠ .cancel request.orderId := by
    intro item member kind
    obtain ⟨listed, time⟩ := timed item member
    obtain ⟨other, here, requested⟩ := cancellation_time registered listed kind
    cases there.symm.trans here
    exact (rests _ requested).not_ge time
  obtain ⟨-, -, later, found, goes_on, opened⟩ := quiet_front registered there
    fun item member => ⟨no_cancel item member, quiet item member⟩
  -- The queue that the order sees does not depend on the trade.
  have positive : 0 < max 0 later.queueAhead + 1 := by positivity
  obtain ⟨back, split⟩ := splits _ positive
  let trade := request.takenBy occurredAt (max 0 later.queueAhead + 1) positive
  have works : later.Working := by
    obtain ⟨index, activates⟩ := activation_listed [.trade trade] registered there
    have before := mem_front split activates
      (TimelineItem.key_lt_of_priority active (show 1 < 3 by decide))
    have started := opened ⟨_, before, rfl⟩
    by_contra idle
    exact goes_on (ReplayOrder.ended_iff.mpr fun either => either.elim started idle)
  have queued := replayed_queued registered front
  have asked : later.request = request := by
    obtain ⟨first, at_first, request_eq, -⟩ := replayed_order registered front found
    cases there.symm.trans at_first
    exact request_eq.trans same
  have eligible : later.Eligible trade := eligible_of_takenBy works asked positive
  have wants := queued.unfilled _ later found (.inr works)
  have exceeds : later.queueAhead < max 0 later.queueAhead + 1 :=
    (le_max_right _ _).trans_lt (lt_add_one _)
  obtain ⟨fill, filled⟩ : ∃ fill, later.fill trade = some fill := fill_of_exceeds wants exceeds
  have own : fill.orderId = request.orderId :=
    (L2State.fill_orderId filled).trans (congrArg _ asked)
  have now : fill ∈ (replayed byId (front ++ [(L2Event.trade trade).item 0])).fills := by
    refine List.mem_of_mem_filter (p := fun other => other.orderId = request.orderId) ?_
    rw [replayed_snoc, L2State.apply_fills queued.keyed]
    refine List.mem_append_right _ ?_
    unfold L2State.fillsOf
    have meets : (replayed byId front).met ((L2Event.trade trade).item 0) request.orderId =
        if later.Eligible trade then some trade else none := met_of_trade rfl found
    rw [found, meets, if_pos eligible]
    exact Option.mem_toList.mpr filled
  refine ⟨trade, rfl, fill, ?_, own, (fill_eq filled).2.2⟩
  have stays := fills_persist registered now back
  rw [List.append_assoc, List.singleton_append] at stays
  rwa [split]

end LoneTrades

/-- Requests that the engine accepts are honoured in all replays if and only if the
earliest one of each order is kept. -/
theorem cancels_honoured_iff {engine : L2ReplayEngine} {orders : List ReplayOrderRequest}
    {cancellations : List ReplayCancelRequest}
    (accepted : ∃ events result, engine.run events orders cancellations = .ok result) :
    (∀ events result, engine.run events orders cancellations = .ok result →
      CancelsHonoured orders cancellations result) ↔ KeepsEarliest orders cancellations := by
  refine ⟨fun honoured => ?_, fun earliest events result run => cancels_honoured earliest run⟩
  obtain ⟨events, result, run⟩ := accepted
  obtain ⟨byId, -, prepared, -, -⟩ := run_ok_iff.mp run
  intro cancellation member request requested same kept keeps
  by_contra overwritten
  rw [not_or, not_le, not_le] at overwritten
  obtain ⟨later, inactive⟩ := overwritten
  obtain ⟨order, there, asked⟩ := (prepare_registers prepared).every request requested
  have how := (prepare_registers prepared).registered _ order there
  have activeAt : order.activeAt = request.activeAt := by
    rw [how.activeAt, asked]
    rfl
  have effectiveAt : order.cancelEffectiveAt = some (kept.effectiveAt request) := by
    rw [how.cancelEffectiveAt, keeps, asked]
    rfl
  -- A trade between the two effective times fills the order.
  let occurredAt := max request.activeAt (cancellation.effectiveAt request)
  have rests : ∀ effectiveAt ∈ order.cancelEffectiveAt, occurredAt < effectiveAt := by
    rw [effectiveAt]
    rintro _ ⟨⟩
    exact max_lt inactive (Int.add_lt_add_right later _)
  obtain ⟨trade, sequence, fill, filled, own, time⟩ := filled_by_lone_trade
    (prepare_registered prepared) there asked (activeAt.trans_le (le_max_left _ _)) rests
  have valid : engine.validateSequences [.trade trade] = .ok () := by
    unfold validateSequences
    simp [orderedSequences, require, Bind.bind, Except.bind]
  have replays : engine.run [.trade trade] orders cancellations =
      .ok (engine.result (replayed byId (timeline byId [.trade trade]))) :=
    run_ok_iff.mpr ⟨byId, _, prepare_ok_iff.mpr ⟨valid, (prepare_ok_iff.mp prepared).2⟩,
      replay_run.mpr rfl, rfl⟩
  have before := (honoured _ _ replays cancellation member request requested same).fills fill filled own
  rw [time] at before
  exact (le_max_right _ _).not_gt before

/-! ### Requests that repeat -/

/-- A BUY of ten shares at one half. -/
def repeatedOrder : List ReplayOrderRequest :=
  [restingOrder "a" firstOrder_named 10 Literal.ten_pos 0]

/-- The earlier of two requests is listed last: both are honoured. -/
theorem first_request_honoured : ∃ result,
    L2ReplayEngine.run ⟨false, false⟩ [.trade smallSale] repeatedOrder [⟨"a", 2⟩, ⟨"a", 1⟩] =
      .ok result ∧ CancelsHonoured repeatedOrder [⟨"a", 2⟩, ⟨"a", 1⟩] result := by
  have accepts : (L2ReplayEngine.run ⟨false, false⟩ [.trade smallSale] repeatedOrder
      [⟨"a", 2⟩, ⟨"a", 1⟩]).toOption.isSome = true := by
    decide
  cases run : L2ReplayEngine.run ⟨false, false⟩ [.trade smallSale] repeatedOrder
      [⟨"a", 2⟩, ⟨"a", 1⟩] with
  | error problem =>
      rw [run] at accepts
      cases accepts
  | ok result =>
      have keeps : KeepsEarliest repeatedOrder [⟨"a", 2⟩, ⟨"a", 1⟩] := by decide
      exact ⟨result, rfl, (cancels_honoured_iff ⟨_, result, run⟩).mpr keeps _ result run⟩

/-- The second of two requests takes the place of the first: the order is filled after
the first one was effective. -/
theorem second_request_delays : ¬ ∀ engine events orders cancellations result,
    L2ReplayEngine.run engine events orders cancellations = .ok result →
      CancelsHonoured orders cancellations result := by
  intro honoured
  obtain ⟨result, run, fill, member, own, late⟩ : ∃ result,
      L2ReplayEngine.run ⟨false, false⟩ [.trade smallSale] repeatedOrder [⟨"a", 1⟩, ⟨"a", 5⟩] =
        .ok result ∧ ∃ fill ∈ result.fills, fill.orderId = "a" ∧ fill.occurredAt = 3 := by
    refine Checked.exists_of_okAnd ?_
    decide +kernel
  have stopped := honoured _ _ _ _ _ run ⟨"a", 1⟩ List.mem_cons_self _ List.mem_cons_self rfl
  have before := stopped.fills fill member own
  rw [late] at before
  exact absurd before (by decide)

end Polybot
