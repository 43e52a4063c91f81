import Polybot.Simulation.Queues
import Polybot.Simulation.Sequence

/-!
The life of an order in the level-two replay.

`moved` is what one item of the timeline does to an order, whatever the other orders do
(`apply_get?`), and `fillsOf` are the fills that it gives the order (`apply_fills`).

* `FillOrigin`: every fill comes from a trade that met its order at work.
* `Accounted`: the filled size is what the trades met serve to the place at which the
  order was activated, so queue and fills are functions of that place and of the volume.
* `orders_accounted`: both, in every state of every replay.
-/

namespace Polybot

open Checked Interaction Fifo

/-! ### One item -/

/-- The order is done. -/
def ReplayOrderStatus.Ended (status : ReplayOrderStatus) : Prop :=
  status ∈ [filled, cancelled, postOnlyRejected]

instance (status : ReplayOrderStatus) : Decidable status.Ended :=
  inferInstanceAs (Decidable (_ ∈ _))

theorem ReplayOrder.ended_iff {order : ReplayOrder} :
    order.status.Ended ↔ ¬ (order.status = .pending ∨ order.Working) := by
  unfold ReplayOrderStatus.Ended ReplayOrder.Working
  cases order.status <;> decide

/-- The orders are listed under their ids. -/
def L2State.Keyed (state : L2State) : Prop :=
  ∀ orderId order, state.byId.get? orderId = some order → order.request.orderId = orderId

namespace L2State

variable (state : L2State) (item : TimelineItem)

/-- What an item does to an order. -/
def moved (order : ReplayOrder) : ReplayOrder :=
  match item.kind with
  | .activate orderId =>
      if order.request.orderId = orderId ∧ order.status = .pending then
        if state.WouldCross order.request then { order with status := .postOnlyRejected }
        else
          { order with
            queueAhead := state.externalAhead order.request + state.ownAhead order
            status := .open }
      else order
  | .cancel orderId =>
      if order.request.orderId = orderId ∧ (order.status = .pending ∨ order.Working) then
        { order with status := .cancelled }
      else order
  | .market (.book _) => order
  | .market (.trade trade) => if order.Eligible trade then order.hit trade else order

/-- The trade of an item that takes from the level of the order while it works. -/
def met (orderId : String) : Option L2TradeEvent :=
  match item.kind with
  | .market (.trade trade) =>
      if ∃ order ∈ state.byId.get? orderId, order.Eligible trade then some trade else none
  | _ => none

/-- The fills that an item gives an order. -/
def fillsOf (orderId : String) : List ReplayFill :=
  match state.byId.get? orderId, state.met item orderId with
  | some order, some trade => (order.fill trade).toList
  | _, _ => []

variable {state item} {orderId : String} {order : ReplayOrder}

/-- An activation concerns its order only. -/
theorem activate_get?_ne (state : L2State) {activated : String} (differs : orderId ≠ activated) :
    (state.activate activated).byId.get? orderId = state.byId.get? orderId := by
  unfold activate
  split
  · rfl
  · split
    · rfl
    · split <;> exact Dict.get?_set_ne _ differs _

theorem cancel_get?_ne (state : L2State) {cancelled : String} (differs : orderId ≠ cancelled) :
    (state.cancel cancelled).byId.get? orderId = state.byId.get? orderId := by
  unfold cancel
  split
  · rfl
  · split
    · exact Dict.get?_set_ne _ differs _
    · rfl

/-- An item does to an order what `moved` says. -/
theorem apply_get? (keyed : state.Keyed) (item : TimelineItem) (orderId : String) :
    (state.apply item).byId.get? orderId = (state.byId.get? orderId).map (state.moved item) := by
  cases there : state.byId.get? orderId with
  | none =>
      unfold apply
      cases item.kind with
      | activate activated =>
          by_cases same : orderId = activated
          · subst same
            simp [activate, there]
          · simp [activate_get?_ne state same, there]
      | cancel cancelled =>
          by_cases same : orderId = cancelled
          · subst same
            simp [cancel, there]
          · simp [cancel_get?_ne state same, there]
      | market event =>
          cases event with
          | book event => exact there
          | trade trade =>
              dsimp only
              rw [applyTrade_get?, there]
              rfl
  | some order =>
      have key := keyed orderId order there
      rw [Option.map_some]
      unfold apply moved
      cases item.kind with
      | activate activated =>
          dsimp only
          by_cases same : orderId = activated
          · subst same
            unfold activate
            rw [there]
            dsimp only
            by_cases waits : order.status = .pending
            · have both : order.request.orderId = orderId ∧ order.status = .pending := ⟨key, waits⟩
              rw [if_neg (not_not.mpr waits), if_pos both]
              split <;> exact Dict.get?_set_self _ _ _
            · rw [if_pos waits, if_neg fun both => waits both.2]
              exact there
          · rw [if_neg fun both => same (key.symm.trans both.1), activate_get?_ne state same, there]
      | cancel cancelled =>
          dsimp only
          by_cases same : orderId = cancelled
          · subst same
            unfold cancel
            rw [there]
            dsimp only
            by_cases goes_on : order.status = .pending ∨ order.Working
            · rw [if_pos goes_on, if_pos ⟨key, goes_on⟩]
              exact Dict.get?_set_self _ _ _
            · rw [if_neg goes_on, if_neg fun both => goes_on both.2]
              exact there
          · rw [if_neg fun both => same (key.symm.trans both.1), cancel_get?_ne state same, there]
      | market event =>
          cases event with
          | book event => exact there
          | trade trade =>
              dsimp only
              rw [applyTrade_get?, there]
              rfl

/-- An item leaves alone what the order was asked to do. -/
theorem moved_request (state : L2State) (item : TimelineItem) (order : ReplayOrder) :
    (state.moved item order).request = order.request ∧
    (state.moved item order).activeAt = order.activeAt ∧
      (state.moved item order).cancelEffectiveAt = order.cancelEffectiveAt := by
  unfold moved
  split
  · split
    · split <;> exact ⟨rfl, rfl, rfl⟩
    · exact ⟨rfl, rfl, rfl⟩
  · split <;> exact ⟨rfl, rfl, rfl⟩
  · exact ⟨rfl, rfl, rfl⟩
  · split
    · unfold ReplayOrder.hit
      dsimp only
      split <;> exact ⟨rfl, rfl, rfl⟩
    · exact ⟨rfl, rfl, rfl⟩

/-- Nothing happens to an order that is done. -/
theorem moved_of_ended (ended : order.status.Ended) : state.moved item order = order := by
  have finished := ReplayOrder.ended_iff.mp ended
  unfold moved
  split
  · exact if_neg fun both => finished (.inl both.2)
  · exact if_neg fun both => finished both.2
  · rfl
  · exact if_neg fun eligible => finished (.inr eligible.1)

/-! ### Fills -/

/-- Among items of different keys one has the key of an item. -/
theorem filter_key {α κ : Type} [DecidableEq κ] {key : α → κ} {list : List α}
    (distinct : (list.map key).Nodup) {item : α} (member : item ∈ list) :
    list.filter (fun other => key other = key item) = [item] := by
  induction list with
  | nil => cases member
  | cons first rest ih =>
      rw [List.map_cons, List.nodup_cons] at distinct
      rcases List.mem_cons.mp member with rfl | later
      · have none : ∀ other ∈ rest, key other ≠ key item := fun other there same =>
          distinct.1 (same ▸ List.mem_map_of_mem there)
        rw [List.filter_cons_of_pos (by simp), List.filter_eq_nil_iff.mpr (by simpa using none)]
      · have differs : key first ≠ key item := fun same =>
          distinct.1 (same ▸ List.mem_map_of_mem later)
        rw [List.filter_cons_of_neg (by simpa using differs), ih distinct.2 later]

/-- The orders that a trade takes from. -/
def eligible (state : L2State) (trade : L2TradeEvent) : List ReplayOrder :=
  (state.byId.values.filter fun order => order.Eligible trade).insertionSort
    fun a b => a.tradeKey trade ≤ b.tradeKey trade

theorem mem_eligible {trade : L2TradeEvent} : order ∈ state.eligible trade ↔
    (∃ orderId, state.byId.get? orderId = some order) ∧ order.Eligible trade := by
  unfold eligible
  rw [List.mem_insertionSort, List.mem_filter, Dict.mem_values_iff, decide_eq_true_iff]

theorem eligible_distinct (keyed : state.Keyed) (trade : L2TradeEvent) :
    ((state.eligible trade).map fun order => order.request.orderId).Nodup := by
  have keys : state.byId.values.map (fun order => order.request.orderId) = state.byId.keys := by
    unfold Dict.values Dict.keys
    rw [List.map_map]
    exact List.map_congr_left fun entry member =>
      keyed entry.1 entry.2 (Dict.get?_eq_some_iff.mpr member)
  have sorted := List.perm_insertionSort (fun a b => a.tradeKey trade ≤ b.tradeKey trade)
    (state.byId.values.filter fun order => order.Eligible trade)
  refine ((sorted.map _).nodup_iff).mpr ?_
  refine List.Nodup.sublist (List.filter_sublist.map _) ?_
  rw [keys]
  exact state.byId.nodup

theorem fill_orderId {trade : L2TradeEvent} {fill : ReplayFill}
    (filled : order.fill trade = some fill) : fill.orderId = order.request.orderId := by
  unfold ReplayOrder.fill at filled
  split at filled
  · cases filled
  · cases filled
    rfl

/-- The fills of an order among those of a trade. -/
theorem filter_fills (state : L2State) (trade : L2TradeEvent) (orderId : String) :
    ((state.eligible trade).filterMap fun order => order.fill trade).filter
        (fun fill => fill.orderId = orderId) =
      ((state.eligible trade).filter fun order => order.request.orderId = orderId).filterMap
        fun order => order.fill trade := by
  rw [List.filter_filterMap, List.filterMap_filter]
  refine List.filterMap_congr fun order _ => ?_
  cases filled : order.fill trade with
  | none => simp
  | some fill =>
      rw [Option.filter_some, fill_orderId filled]

/-- An item adds to the fills of an order what `fillsOf` says. -/
theorem apply_fills (keyed : state.Keyed) (item : TimelineItem) (orderId : String) :
    (state.apply item).fills.filter (fun fill => fill.orderId = orderId) =
      state.fills.filter (fun fill => fill.orderId = orderId) ++ state.fillsOf item orderId := by
  unfold apply fillsOf met
  cases item.kind with
  | activate activated =>
      have same : (state.activate activated).fills = state.fills := by
        unfold activate
        split
        · rfl
        · split
          · rfl
          · split <;> rfl
      dsimp only
      rw [same]
      cases state.byId.get? orderId <;> simp
  | cancel cancelled =>
      have same : (state.cancel cancelled).fills = state.fills := by
        unfold cancel
        split
        · rfl
        · split <;> rfl
      dsimp only
      rw [same]
      cases state.byId.get? orderId <;> simp
  | market event =>
      cases event with
      | book event => cases state.byId.get? orderId <;> simp
      | trade trade =>
          have fills : (state.applyTrade trade).fills = state.fills ++
              (state.eligible trade).filterMap fun order => order.fill trade := rfl
          dsimp only
          rw [fills, List.filter_append, filter_fills]
          congr 1
          by_cases takes : ∃ order ∈ state.byId.get? orderId, order.Eligible trade
          · obtain ⟨order, there, eligible⟩ := takes
            have key := keyed orderId order there
            subst key
            rw [filter_key (eligible_distinct keyed trade) (mem_eligible.mpr ⟨⟨_, there⟩, eligible⟩)]
            have met : ∃ found ∈ state.byId.get? order.request.orderId, found.Eligible trade :=
              ⟨order, there, eligible⟩
            rw [Option.mem_def.mp there, if_pos (Option.mem_def.mp there ▸ met)]
            cases order.fill trade <;> rfl
          · have none : (state.eligible trade).filter (fun order => order.request.orderId = orderId) =
                [] := by
              refine List.filter_eq_nil_iff.mpr fun order member => ?_
              obtain ⟨⟨other, there⟩, eligible⟩ := mem_eligible.mp member
              rw [decide_eq_true_iff]
              intro same
              rw [keyed other order there] at same
              exact takes ⟨order, same ▸ there, eligible⟩
            rw [none, if_neg takes]
            cases state.byId.get? orderId <;> rfl

end L2State

/-! ### Histories -/

/-- The state after the items. -/
def replayed (byId : Dict String ReplayOrder) (items : List TimelineItem) : L2State :=
  items.foldl L2State.apply (L2ReplayEngine.start byId)

/-- The trades at the price of the order, against its side, applied while it worked. -/
def tradesMet (orderId : String) : L2State → List TimelineItem → List L2TradeEvent
  | _, [] => []
  | state, item :: rest =>
      (state.met item orderId).toList ++ tradesMet orderId (state.apply item) rest

/-- Their volume. -/
def volumeMet (orderId : String) (state : L2State) (items : List TimelineItem) : ℚ :=
  ((tradesMet orderId state items).map L2TradeEvent.size).sum

/-- The queue ahead of the order when it was activated, none before. -/
def queueAtActivation (orderId : String) : L2State → List TimelineItem → ℚ
  | _, [] => 0
  | state, item :: rest =>
      if state.opening item = some orderId then
        ((state.byId.get? orderId).map fun order => (state.sampled order).ahead).getD 0
      else queueAtActivation orderId (state.apply item) rest

section Histories

variable {byId : Dict String ReplayOrder} {items front : List TimelineItem} {item : TimelineItem}
  {orderId : String} {order : ReplayOrder} {state : L2State}

theorem replayed_snoc : replayed byId (items ++ [item]) = (replayed byId items).apply item := by
  unfold replayed
  rw [List.foldl_append]
  rfl

theorem tradesMet_snoc (state : L2State) (front : List TimelineItem) (item : TimelineItem) :
    tradesMet orderId state (front ++ [item]) =
      tradesMet orderId state front ++ ((front.foldl L2State.apply state).met item orderId).toList := by
  induction front generalizing state with
  | nil => simp [tradesMet]
  | cons first rest ih =>
      simp only [List.cons_append, tradesMet, ih, List.append_assoc, List.foldl_cons]

theorem volumeMet_snoc (state : L2State) (front : List TimelineItem) (item : TimelineItem) :
    volumeMet orderId state (front ++ [item]) = volumeMet orderId state front +
      (((front.foldl L2State.apply state).met item orderId).map L2TradeEvent.size).getD 0 := by
  unfold volumeMet
  rw [tradesMet_snoc, List.map_append, List.sum_append]
  cases (front.foldl L2State.apply state).met item orderId <;> simp

theorem queueAtActivation_snoc_of_ne
    (other : (front.foldl L2State.apply state).opening item ≠ some orderId) :
    queueAtActivation orderId state (front ++ [item]) = queueAtActivation orderId state front := by
  induction front generalizing state with
  | nil => exact if_neg other
  | cons first rest ih =>
      rw [List.cons_append, queueAtActivation, queueAtActivation, ih other]

theorem queueAtActivation_snoc_of_opening (fresh : orderId ∉ openings state front)
    (opens : (front.foldl L2State.apply state).opening item = some orderId)
    (found : (front.foldl L2State.apply state).byId.get? orderId = some order) :
    queueAtActivation orderId state (front ++ [item]) =
      ((front.foldl L2State.apply state).sampled order).ahead := by
  induction front generalizing state with
  | nil =>
      rw [List.foldl_nil] at opens found ⊢
      rw [List.nil_append, queueAtActivation, if_pos opens, found]
      rfl
  | cons first rest ih =>
      unfold openings at fresh
      rw [List.mem_append, not_or, Option.mem_toList] at fresh
      rw [List.cons_append, queueAtActivation, if_neg fresh.1]
      exact ih fresh.2 opens found

/-- Every replay keeps queues, whatever places the orders sample. -/
theorem replayed_queued (registered : L2ReplayEngine.Registered byId) (items : List TimelineItem) :
    (replayed byId items).Queued (fun _ _ => True)
      (openings (L2ReplayEngine.start byId) items) := by
  have run : Run L2Step (L2ReplayEngine.start byId) items (replayed byId items) :=
    replay_run.mpr rfl
  exact (queued_run (R := fun _ _ => True) (fun _ _ _ _ => trivial) registered
    (run.mono fun _ _ _ step => ⟨step, fun _ _ _ _ _ _ _ _ => trivial⟩)).2

/-- Where an order is after one more item. -/
theorem replayed_snoc_get? (registered : L2ReplayEngine.Registered byId) (front : List TimelineItem)
    (item : TimelineItem) (orderId : String) :
    (replayed byId (front ++ [item])).byId.get? orderId =
      ((replayed byId front).byId.get? orderId).map ((replayed byId front).moved item) := by
  rw [replayed_snoc, L2State.apply_get? (replayed_queued registered front).keyed]

theorem replayed_moved (registered : L2ReplayEngine.Registered byId) (item : TimelineItem)
    (here : (replayed byId front).byId.get? orderId = some order) :
    (replayed byId (front ++ [item])).byId.get? orderId =
      some ((replayed byId front).moved item order) := by
  rw [replayed_snoc_get? registered, here]
  rfl

/-- The orders of a replay are those that were registered. -/
theorem replayed_order (registered : L2ReplayEngine.Registered byId) (items : List TimelineItem)
    (found : (replayed byId items).byId.get? orderId = some order) :
    ∃ first, byId.get? orderId = some first ∧ order.request = first.request ∧
      order.activeAt = first.activeAt ∧ order.cancelEffectiveAt = first.cancelEffectiveAt := by
  induction items using List.reverseRecOn generalizing order with
  | nil => exact ⟨order, found, rfl, rfl, rfl⟩
  | append_singleton front item ih =>
      rw [replayed_snoc_get? registered, Option.map_eq_some_iff] at found
      obtain ⟨before, there, rfl⟩ := found
      obtain ⟨request, activeAt, cancelEffectiveAt⟩ :=
        L2State.moved_request (replayed byId front) item before
      obtain ⟨first, here, same⟩ := ih there
      rw [request, activeAt, cancelEffectiveAt]
      exact ⟨first, here, same⟩

/-- A registered order is there in every state. -/
theorem replayed_there (registered : L2ReplayEngine.Registered byId) (items : List TimelineItem)
    (there : byId.get? orderId = some order) :
    ∃ later, (replayed byId items).byId.get? orderId = some later := by
  induction items using List.reverseRecOn with
  | nil => exact ⟨order, there⟩
  | append_singleton front item ih =>
      obtain ⟨before, here⟩ := ih
      exact ⟨_, replayed_moved registered item here⟩

end Histories

/-! ### Queues and fills -/

/-- What an order has got out of its place in the queue. -/
structure Accounted (order : ReplayOrder) (queueAhead volume : ℚ) : Prop where
  queueAhead_nonneg : 0 ≤ queueAhead
  filledSize : order.filledSize = Claim.served ⟨queueAhead, order.request.size⟩ volume
  claim : order.Working → order.claim = Claim.after ⟨queueAhead, order.request.size⟩ volume
  filled : order.status = .filled ↔ order.remaining = 0
  idle : order.status = .pending → queueAhead = 0 ∧ volume = 0

section Accounts

variable {order : ReplayOrder} {queueAhead volume : ℚ} {trade : L2TradeEvent}

/-- A registered order has got nothing. -/
theorem accounted_start (waits : order.status = .pending) (unfilled : order.filledSize = 0) :
    Accounted order 0 0 where
  queueAhead_nonneg := le_rfl
  filledSize := by
    rw [unfilled, Claim.served_of_le order.request.size_pos.le le_rfl]
  claim works := by
    unfold ReplayOrder.Working at works
    rw [waits] at works
    rcases works with opens | partly
    · cases opens
    · cases partly
  filled := by
    unfold ReplayOrder.remaining
    rw [waits, unfilled, sub_zero]
    exact ⟨nofun, fun none => absurd none order.request.size_pos.ne'⟩
  idle _ := ⟨rfl, rfl⟩

/-- An order that opens takes the place that it samples. -/
theorem Accounted.open (accounted : Accounted order queueAhead volume)
    (waits : order.status = .pending) {place : ℚ} (nonneg : 0 ≤ place) :
    Accounted { order with queueAhead := place, status := .open } place volume := by
  obtain ⟨rfl, rfl⟩ := accounted.idle waits
  have unfilled : order.filledSize = 0 :=
    accounted.filledSize.trans (Claim.served_of_le order.request.size_pos.le le_rfl)
  have served : Claim.served ⟨place, order.request.size⟩ 0 = 0 :=
    Claim.served_of_le order.request.size_pos.le nonneg
  refine ⟨nonneg, unfilled.trans served.symm, fun _ => ?_, ?_, nofun⟩
  · unfold ReplayOrder.claim ReplayOrder.remaining Claim.after
    dsimp only
    rw [unfilled, served, sub_zero, sub_zero, max_eq_right nonneg]
  · unfold ReplayOrder.remaining
    dsimp only
    rw [unfilled, sub_zero]
    exact ⟨nofun, fun none => absurd none order.request.size_pos.ne'⟩

/-- An order that ends without being filled keeps what it has got. -/
theorem Accounted.end (accounted : Accounted order queueAhead volume)
    (goes_on : order.status = .pending ∨ order.Working) {status : ReplayOrderStatus}
    (ends : status = .cancelled ∨ status = .postOnlyRejected) :
    Accounted { order with status := status } queueAhead volume := by
  have unfilled : order.status ≠ .filled := by
    rcases goes_on with waits | opens | partly
    · rw [waits]; decide
    · rw [opens]; decide
    · rw [partly]; decide
  refine ⟨accounted.queueAhead_nonneg, accounted.filledSize, fun works => ?_, ?_, fun waits => ?_⟩
  · rcases ends with rfl | rfl <;> rcases works with opens | partly <;> contradiction
  · refine ⟨fun filled => ?_, fun none => absurd (accounted.filled.mpr none) unfilled⟩
    rcases ends with rfl | rfl <;> cases filled
  · rcases ends with rfl | rfl <;> cases waits

/-- A trade serves the order what it serves its place. -/
theorem Accounted.hit (accounted : Accounted order queueAhead volume)
    (wants : 0 < order.remaining) (eligible : order.Eligible trade) :
    Accounted (order.hit trade) queueAhead (volume + trade.size) := by
  have size : (0 : ℚ) ≤ (Claim.mk queueAhead order.request.size).wanted := order.request.size_pos.le
  have claim := accounted.claim eligible.1
  have filled : (order.hit trade).filledSize = order.filledSize + order.fillSize trade := by
    have left : (order.hit trade).remaining = order.remaining - order.fillSize trade :=
      ReplayOrder.hit_remaining wants.le
    unfold ReplayOrder.remaining at left
    rw [ReplayOrder.hit_request] at left
    linarith
  refine ⟨accounted.queueAhead_nonneg, ?_, fun _ => ?_, ?_, fun waits => ?_⟩
  · rw [filled, ReplayOrder.hit_request, Claim.served_add size trade.size_pos.le,
      accounted.filledSize, ReplayOrder.fillSize_eq, claim]
  · rw [ReplayOrder.hit_claim wants.le, ReplayOrder.hit_request, claim,
      Claim.after_add size trade.size_pos.le]
  · have working : (order.hit trade).status ≠ .filled → 0 < (order.hit trade).remaining := by
      intro unfilled
      refine ReplayOrder.hit_remaining_pos wants ?_
      unfold ReplayOrder.hit at unfilled ⊢
      dsimp only at unfilled ⊢
      split
      · exact eligible.1
      · rename_i some_size
        rw [if_neg some_size] at unfilled
        dsimp only at unfilled
        have part : ¬ order.remaining - order.fillSize trade = 0 := fun whole =>
          unfilled (if_pos whole)
        exact .inr (if_neg part)
    refine ⟨fun done => ?_, fun none => ?_⟩
    · rw [ReplayOrder.hit_remaining wants.le]
      unfold ReplayOrder.hit at done
      dsimp only at done
      split at done
      · rcases eligible.1 with opens | partly
        · rw [opens] at done
          cases done
        · rw [partly] at done
          cases done
      · dsimp only at done
        by_contra part
        rw [if_neg part] at done
        cases done
    · by_contra unfilled
      exact (working unfilled).ne' none
  · exact absurd waits (ReplayOrder.hit_pending eligible)

end Accounts

/-! ### Accounts of a replay -/

section Replays

variable {byId : Dict String ReplayOrder} {items front back : List TimelineItem}
  {item : TimelineItem} {orderId : String} {order : ReplayOrder} {state : L2State}
  {trade : L2TradeEvent}

/-- An item opens an order that it activates, if that one waits and does not cross. -/
theorem opening_eq_some_iff : state.opening item = some orderId ↔
    item.kind = .activate orderId ∧ ∃ order, state.byId.get? orderId = some order ∧
      order.status = .pending ∧ ¬ state.WouldCross order.request := by
  unfold L2State.opening
  cases item.kind with
  | cancel cancelled => simp
  | market event => simp
  | activate activated =>
      dsimp only
      constructor
      · intro opens
        split at opens
        · cases opens
        · rename_i order there
          split at opens
          · rename_i rests
            cases opens
            exact ⟨rfl, order, there, rests⟩
          · cases opens
      · rintro ⟨same, order, there, rests⟩
        cases same
        rw [there]
        exact if_pos rests

theorem met_of_trade (kind : item.kind = .market (.trade trade))
    (there : state.byId.get? orderId = some order) :
    state.met item orderId = if order.Eligible trade then some trade else none := by
  unfold L2State.met
  rw [kind, there]
  simp

/-- A trade that is met takes from the order at work. -/
theorem met_eq_some_iff : state.met item orderId = some trade ↔
    item.kind = .market (.trade trade) ∧
      ∃ order, state.byId.get? orderId = some order ∧ order.Eligible trade := by
  unfold L2State.met
  split
  · rename_i other kind
    rw [kind]
    constructor
    · intro met
      split at met
      · rename_i takes
        cases met
        exact ⟨rfl, takes⟩
      · cases met
    · rintro ⟨same, takes⟩
      cases same
      exact if_pos takes
  · rename_i others
    constructor
    · intro met
      cases met
    · intro both
      exact absurd both.1 (others trade)

theorem met_eq_none (others : ∀ trade, item.kind ≠ .market (.trade trade)) :
    state.met item orderId = none :=
  Option.eq_none_iff_forall_ne_some.mpr fun trade met => others trade (met_eq_some_iff.mp met).1

/-- Only its activation samples the queue of an order. -/
theorem queueAtActivation_snoc_of_other (other : item.kind ≠ .activate orderId) :
    queueAtActivation orderId state (front ++ [item]) = queueAtActivation orderId state front :=
  queueAtActivation_snoc_of_ne fun opens => other (opening_eq_some_iff.mp opens).1

/-- An activation opens a waiting order with the queue that it samples, or rejects it, and
leaves every other order. -/
theorem activation_accounted (registered : L2ReplayEngine.Registered byId) {volume : ℚ}
    {activated : String} (kind : item.kind = .activate activated)
    (there : (replayed byId front).byId.get? orderId = some order)
    (accounted : Accounted order (queueAtActivation orderId (L2ReplayEngine.start byId) front) volume) :
    Accounted ((replayed byId front).moved item order)
      (queueAtActivation orderId (L2ReplayEngine.start byId) (front ++ [item])) volume := by
  have queued := replayed_queued registered front
  have key : order.request.orderId = orderId := queued.keyed orderId order there
  unfold L2State.moved
  rw [kind]
  dsimp only
  split
  · rename_i both
    obtain ⟨rfl, waits⟩ := both
    cases key
    split
    · rename_i crosses
      rw [queueAtActivation_snoc_of_ne fun opens => ?_]
      · exact accounted.end (.inl waits) (.inr rfl)
      · obtain ⟨-, other, here, -, rests⟩ := opening_eq_some_iff.mp opens
        cases there.symm.trans here
        exact rests crosses
    · rename_i rests
      rw [queueAtActivation_snoc_of_opening
        (fun member => queued.begun _ member order there waits)
        (opening_eq_some_iff.mpr ⟨kind, order, there, waits, rests⟩) there]
      exact accounted.open waits (add_nonneg (queued.externalAhead_nonneg order.request)
        (queued.ownAhead_nonneg order))
  · rename_i others
    rw [queueAtActivation_snoc_of_ne fun opens => ?_]
    · exact accounted
    · obtain ⟨same, other, here, waits, -⟩ := opening_eq_some_iff.mp opens
      cases there.symm.trans here
      cases kind.symm.trans same
      exact others ⟨key, waits⟩

/-- Every order of a replay stands where its queue and the trades that it met put it. -/
theorem replayed_accounted (registered : L2ReplayEngine.Registered byId) (items : List TimelineItem)
    (found : (replayed byId items).byId.get? orderId = some order) :
    Accounted order (queueAtActivation orderId (L2ReplayEngine.start byId) items)
      (volumeMet orderId (L2ReplayEngine.start byId) items) := by
  induction items using List.reverseRecOn generalizing order with
  | nil =>
      obtain ⟨-, waits, unfilled⟩ := registered orderId order found
      exact accounted_start waits unfilled
  | append_singleton front item ih =>
      have queued := replayed_queued registered front
      rw [replayed_snoc_get? registered, Option.map_eq_some_iff] at found
      obtain ⟨before, there, rfl⟩ := found
      have accounted := ih there
      have volume : volumeMet orderId (L2ReplayEngine.start byId) (front ++ [item]) =
          volumeMet orderId (L2ReplayEngine.start byId) front +
            (((replayed byId front).met item orderId).map L2TradeEvent.size).getD 0 :=
        volumeMet_snoc _ front item
      have unmet (none : (replayed byId front).met item orderId = none) :
          volumeMet orderId (L2ReplayEngine.start byId) (front ++ [item]) =
            volumeMet orderId (L2ReplayEngine.start byId) front := by
        rw [volume, none, Option.map_none, Option.getD_none, add_zero]
      cases kind : item.kind with
      | activate activated =>
          rw [unmet (met_eq_none fun trade same => nomatch kind.symm.trans same)]
          exact activation_accounted registered kind there accounted
      | cancel cancelled =>
          rw [unmet (met_eq_none fun trade same => nomatch kind.symm.trans same),
            queueAtActivation_snoc_of_other fun same => nomatch kind.symm.trans same]
          unfold L2State.moved
          rw [kind]
          dsimp only
          split
          · rename_i both
            exact accounted.end both.2 (.inl rfl)
          · exact accounted
      | market event =>
          rw [queueAtActivation_snoc_of_other fun same => nomatch kind.symm.trans same]
          cases event with
          | book event =>
              rw [unmet (met_eq_none fun trade same => nomatch kind.symm.trans same)]
              unfold L2State.moved
              rw [kind]
              exact accounted
          | trade trade =>
              rw [volume, met_of_trade kind there]
              unfold L2State.moved
              rw [kind]
              dsimp only
              split
              · rename_i eligible
                exact accounted.hit (queued.unfilled orderId before there (.inr eligible.1)) eligible
              · rw [Option.map_none, Option.getD_none, add_zero]
                exact accounted

/-! ### Fills of a replay -/

/-- An item adds its fills to the filled size. -/
theorem moved_filledSize (there : state.byId.get? orderId = some order)
    (wants : order.Working → 0 < order.remaining) :
    (state.moved item order).filledSize =
      order.filledSize + ((state.fillsOf item orderId).map ReplayFill.size).sum := by
  by_cases met : ∃ trade, state.met item orderId = some trade
  · obtain ⟨trade, met⟩ := met
    obtain ⟨kind, other, here, eligible⟩ := met_eq_some_iff.mp met
    cases there.symm.trans here
    unfold L2State.moved L2State.fillsOf
    rw [kind, there, met]
    dsimp only
    rw [if_pos eligible]
    have nonneg : 0 ≤ order.fillSize trade := by
      rw [ReplayOrder.fillSize_eq]
      exact Claim.served_nonneg (wants eligible.1).le
    unfold ReplayOrder.hit ReplayOrder.fill
    dsimp only
    split
    · rename_i none
      simp
    · simp
  · have none : state.met item orderId = none :=
      Option.eq_none_iff_forall_ne_some.mpr fun trade same => met ⟨trade, same⟩
    have fills : state.fillsOf item orderId = [] := by
      unfold L2State.fillsOf
      rw [none, there]
    rw [fills, List.map_nil, List.sum_nil, add_zero]
    unfold L2State.moved
    split
    · split
      · split <;> rfl
      · rfl
    · split <;> rfl
    · rfl
    · rename_i trade kind
      rw [met_of_trade kind there] at none
      split at none
      · cases none
      · rename_i missed
        rw [if_neg missed]

/-- The filled size of an order is the sum of its fills. -/
theorem replayed_fills (registered : L2ReplayEngine.Registered byId) (items : List TimelineItem)
    (found : (replayed byId items).byId.get? orderId = some order) :
    order.filledSize = (((replayed byId items).fills.filter fun fill =>
      fill.orderId = orderId).map ReplayFill.size).sum := by
  induction items using List.reverseRecOn generalizing order with
  | nil => exact (registered orderId order found).2.2
  | append_singleton front item ih =>
      have queued := replayed_queued registered front
      rw [replayed_snoc_get? registered, Option.map_eq_some_iff] at found
      obtain ⟨before, there, rfl⟩ := found
      rw [replayed_snoc, L2State.apply_fills queued.keyed, List.map_append, List.sum_append,
        ← ih there]
      exact moved_filledSize there fun works => queued.unfilled orderId before there (.inr works)

/-- The fill comes from a trade that met its order at work. -/
def FillOrigin (byId : Dict String ReplayOrder) (items : List TimelineItem) (fill : ReplayFill) :
    Prop :=
  ∃ front item back trade order, items = front ++ item :: back ∧
    item.kind = .market (.trade trade) ∧
    (replayed byId front).byId.get? fill.orderId = some order ∧ order.Eligible trade ∧
    order.fill trade = some fill

theorem FillOrigin.snoc {fill : ReplayFill} (origin : FillOrigin byId front fill) :
    FillOrigin byId (front ++ [item]) fill := by
  obtain ⟨before, from_item, after, trade, order, rfl, rest⟩ := origin
  exact ⟨before, from_item, after ++ [item], trade, order, by simp, rest⟩

theorem fill_origin (registered : L2ReplayEngine.Registered byId) (items : List TimelineItem)
    {fill : ReplayFill} (member : fill ∈ (replayed byId items).fills) :
    FillOrigin byId items fill := by
  induction items using List.reverseRecOn with
  | nil => cases member
  | append_singleton front item ih =>
      have queued := replayed_queued registered front
      have own : fill ∈ (replayed byId (front ++ [item])).fills.filter fun other =>
          other.orderId = fill.orderId := List.mem_filter.mpr ⟨member, by simp⟩
      rw [replayed_snoc, L2State.apply_fills queued.keyed] at own
      rcases List.mem_append.mp own with earlier | now
      · exact (ih (List.mem_filter.mp earlier).1).snoc
      · unfold L2State.fillsOf at now
        split at now
        · rename_i order trade there met
          obtain ⟨kind, other, here, eligible⟩ := met_eq_some_iff.mp met
          cases there.symm.trans here
          exact ⟨front, item, [], trade, order, rfl, kind, there, eligible, Option.mem_toList.mp now⟩
        · cases now

end Replays

/-! ### Registration -/

/-- The request that a cancellation leaves, the last one of the list. -/
def keptCancel (cancellations : List ReplayCancelRequest) (orderId : String) :
    Option ReplayCancelRequest :=
  (cancellations.filter fun cancellation => cancellation.orderId = orderId).getLast?

theorem keptCancel_snoc (cancellations : List ReplayCancelRequest)
    (cancellation : ReplayCancelRequest) (orderId : String) :
    keptCancel (cancellations ++ [cancellation]) orderId =
      if cancellation.orderId = orderId then some cancellation
      else keptCancel cancellations orderId := by
  unfold keptCancel
  rw [List.filter_append]
  split
  · rename_i same
    simp [same]
  · rename_i differs
    simp [differs]

/-- How an order is registered. -/
structure RegisteredAs (orders : List ReplayOrderRequest) (cancellations : List ReplayCancelRequest)
    (orderId : String) (order : ReplayOrder) : Prop where
  requested : order.request ∈ orders
  key : order.request.orderId = orderId
  activeAt : order.activeAt = order.request.submittedAt + order.request.submitLatency
  cancelEffectiveAt : order.cancelEffectiveAt = (keptCancel cancellations orderId).map
    fun cancellation => cancellation.requestedAt + order.request.cancelLatency

/-- The orders of the requests, and what they are asked to cancel. -/
structure Registers (orders : List ReplayOrderRequest) (cancellations : List ReplayCancelRequest)
    (byId : Dict String ReplayOrder) : Prop where
  registered : ∀ orderId order, byId.get? orderId = some order →
    RegisteredAs orders cancellations orderId order
  every : ∀ request ∈ orders, ∃ order, byId.get? request.orderId = some order ∧
    order.request = request
  known : ∀ cancellation ∈ cancellations, ∃ order, byId.get? cancellation.orderId = some order

section Registration

variable {engine : L2ReplayEngine} {events : List L2Event} {orders : List ReplayOrderRequest}
  {cancellations : List ReplayCancelRequest} {byId after : Dict String ReplayOrder}
  {request : ReplayOrderRequest} {cancellation : ReplayCancelRequest}

theorem Registers.register (registers : Registers orders [] byId)
    (done : register byId request = .ok after) : Registers (orders ++ [request]) [] after := by
  unfold Polybot.register at done
  rw [require_bind_ok_iff] at done
  obtain ⟨fresh, made⟩ := done
  cases made
  refine ⟨fun orderId order found => ?_, fun other member => ?_, fun _ => nofun⟩
  · rcases Dict.get?_set_eq_some_iff.mp found with ⟨same, rfl⟩ | ⟨-, here⟩
    · exact ⟨by simp, same.symm, rfl, rfl⟩
    · obtain ⟨requested, key, activeAt, cancelEffectiveAt⟩ := registers.registered orderId order here
      exact ⟨List.mem_append_left _ requested, key, activeAt, cancelEffectiveAt⟩
  · rcases List.mem_append.mp member with earlier | now
    · obtain ⟨order, there, same⟩ := registers.every other earlier
      refine ⟨order, ?_, same⟩
      rw [Dict.get?_set_ne _ fun clash => ?_]
      · exact there
      · rw [clash, fresh] at there
        cases there
    · obtain rfl := List.mem_singleton.mp now
      exact ⟨_, Dict.get?_set_self _ _ _, rfl⟩

theorem Registers.requestCancel (registers : Registers orders cancellations byId)
    (done : requestCancel byId cancellation = .ok after) :
    Registers orders (cancellations ++ [cancellation]) after := by
  unfold Polybot.requestCancel at done
  split at done
  · cases done
  rename_i order there
  rw [require_bind_ok_iff] at done
  obtain ⟨-, made⟩ := done
  cases made
  refine ⟨fun orderId other found => ?_, fun request member => ?_, fun other member => ?_⟩
  · rcases Dict.get?_set_eq_some_iff.mp found with ⟨same, rfl⟩ | ⟨differs, here⟩
    · obtain ⟨requested, key, activeAt, -⟩ := registers.registered _ order there
      refine ⟨requested, key.trans same.symm, activeAt, ?_⟩
      rw [keptCancel_snoc, if_pos same.symm]
      rfl
    · obtain ⟨requested, key, activeAt, cancelEffectiveAt⟩ := registers.registered orderId other here
      refine ⟨requested, key, activeAt, ?_⟩
      rw [keptCancel_snoc, if_neg fun same => differs same.symm]
      exact cancelEffectiveAt
  · obtain ⟨found, here, same⟩ := registers.every request member
    by_cases cancelled : request.orderId = cancellation.orderId
    · rw [cancelled] at here ⊢
      cases there.symm.trans here
      exact ⟨_, Dict.get?_set_self _ _ _, same⟩
    · exact ⟨found, (Dict.get?_set_ne _ cancelled _).trans here, same⟩
  · by_cases cancelled : other.orderId = cancellation.orderId
    · exact ⟨_, by rw [cancelled]; exact Dict.get?_set_self _ _ _⟩
    · rcases List.mem_append.mp member with earlier | now
      · obtain ⟨found, here⟩ := registers.known other earlier
        exact ⟨found, (Dict.get?_set_ne _ cancelled _).trans here⟩
      · obtain rfl := List.mem_singleton.mp now
        exact absurd rfl cancelled

theorem prepare_registers (prepared : engine.prepare events orders cancellations = .ok byId) :
    Registers orders cancellations byId := by
  unfold L2ReplayEngine.prepare at prepared
  simp only [bind_ok_iff] at prepared
  obtain ⟨-, -, known, registers, requests⟩ := prepared
  have start : Registers [] [] (.empty : Dict String ReplayOrder) :=
    ⟨fun _ _ => nofun, fun _ => nofun, fun _ => nofun⟩
  have ordered : Registers orders [] known :=
    (Run.foldlM_iff.mpr registers).invariant_history (P := fun done byId => Registers done [] byId)
      (fun _ _ _ _ before step => before.register step) start
  exact (Run.foldlM_iff.mpr requests).invariant_history
    (P := fun done byId => Registers orders done byId)
    (fun _ _ _ _ before step => before.requestCancel step) ordered

end Registration

/-! ### Items of a timeline -/

section Timelines

open L2ReplayEngine

variable {events : List L2Event} {byId : Dict String ReplayOrder} {item : TimelineItem}
  {orderId : String} {state : L2State} {items : List TimelineItem}

/-- An activation comes at the time of its order. -/
theorem activation_time (registered : Registered byId) (member : item ∈ timeline byId events)
    (kind : item.kind = .activate orderId) :
    ∃ order, byId.get? orderId = some order ∧ item.occurredAt = order.activeAt := by
  cases mem_timeline_iff.mp member with
  | @activate order index there =>
      obtain ⟨key, found⟩ := Dict.mem_values_iff.mp (List.mem_of_getElem? there)
      have same := (registered key order found).1
      cases kind
      exact ⟨order, same ▸ found, rfl⟩
  | cancel there requested => cases kind
  | @market event index there => cases event <;> cases kind

/-- A trade comes at its own time, after everything else of that time. -/
theorem trade_time {trade : L2TradeEvent} (member : item ∈ timeline byId events)
    (kind : item.kind = .market (.trade trade)) :
    L2Event.trade trade ∈ events ∧ item.occurredAt = trade.occurredAt ∧ item.priority = 3 := by
  cases mem_timeline_iff.mp member with
  | activate there => cases kind
  | cancel there requested => cases kind
  | @market event index there =>
      cases kind
      exact ⟨List.mem_of_getElem? there, rfl, rfl⟩

/-- An order that was opened was activated. -/
theorem mem_openings (opened : orderId ∈ openings state items) :
    ∃ item ∈ items, item.kind = .activate orderId := by
  induction items generalizing state with
  | nil => cases opened
  | cons first rest ih =>
      unfold openings at opened
      rcases List.mem_append.mp opened with now | later
      · exact ⟨first, List.mem_cons_self,
          (opening_eq_some_iff.mp (Option.mem_toList.mp now)).1⟩
      · obtain ⟨item, member, kind⟩ := ih later
        exact ⟨item, List.mem_cons_of_mem _ member, kind⟩

/-- Items are applied in the order of their times. -/
theorem occurredAt_le {front back : List TimelineItem}
    (split : timeline byId events = front ++ item :: back) :
    ∀ other ∈ front, other.occurredAt ≤ item.occurredAt := by
  intro other member
  have sorted := timeline_sorted byId events
  rw [split, List.pairwise_append] at sorted
  rcases TimelineItem.key_le_iff.mp (sorted.2.2 other member item List.mem_cons_self) with
    earlier | ⟨same, -⟩
  · exact earlier.le
  · exact same.le

end Timelines

/-! ### Order accounting -/

/-- What a state of a replay owes to an order. -/
structure OrderAccounts (events : List L2Event) (byId : Dict String ReplayOrder)
    (front : List TimelineItem) (order : ReplayOrder) : Prop where
  filledSize : order.result.filledSize = (((replayed byId front).fills.filter fun fill =>
    fill.orderId = order.request.orderId).map ReplayFill.size).sum
  filled_nonneg : 0 ≤ order.result.filledSize
  filled_le : order.result.filledSize ≤ order.request.size
  remainingSize : order.result.remainingSize = order.request.size - order.result.filledSize
  filled : order.result.status = .filled ↔ order.result.remainingSize = 0
  fills : ∀ fill ∈ (replayed byId front).fills, fill.orderId = order.request.orderId →
    0 < fill.size ∧ fill.price = order.request.price ∧
      order.request.submittedAt + order.request.submitLatency ≤ fill.occurredAt ∧
      ∃ trade, L2Event.trade trade ∈ events ∧ trade.price = order.request.price ∧
        trade.aggressorSide ≠ order.request.side ∧ trade.occurredAt = fill.occurredAt
  volume : order.result.filledSize = min order.request.size
    (max 0 (volumeMet order.request.orderId (L2ReplayEngine.start byId) front -
      queueAtActivation order.request.orderId (L2ReplayEngine.start byId) front))

/-- The accounts of all orders in all states of a replay, and the end of each order. -/
def OrdersAccounted (engine : L2ReplayEngine) (events : List L2Event)
    (orders : List ReplayOrderRequest) (cancellations : List ReplayCancelRequest)
    (result : L2ReplayResult) : Prop :=
  ∃ byId, engine.prepare events orders cancellations = .ok byId ∧
    result = engine.result (replayed byId (timeline byId events)) ∧
    ∀ front back, timeline byId events = front ++ back →
      ∀ orderId order, (replayed byId front).byId.get? orderId = some order →
        OrderAccounts events byId front order ∧
          (order.status.Ended → ∀ more rest, back = more ++ rest →
            (replayed byId (front ++ more)).byId.get? orderId = some order)

section Accounting

open L2ReplayEngine

variable {engine : L2ReplayEngine} {events : List L2Event} {orders : List ReplayOrderRequest}
  {cancellations : List ReplayCancelRequest} {byId : Dict String ReplayOrder}
  {front back : List TimelineItem} {orderId : String} {order : ReplayOrder}

/-- An order that is done stays as it is. -/
theorem replayed_of_ended (registered : Registered byId)
    (found : (replayed byId front).byId.get? orderId = some order) (ended : order.status.Ended)
    (more : List TimelineItem) : (replayed byId (front ++ more)).byId.get? orderId = some order := by
  induction more using List.reverseRecOn with
  | nil => rwa [List.append_nil]
  | append_singleton before item ih =>
      rw [← List.append_assoc, replayed_moved registered item ih, L2State.moved_of_ended ended]

/-- An order at work was activated before. -/
theorem activeAt_le (registered : Registered byId) {item : TimelineItem}
    (split : timeline byId events = front ++ item :: back)
    (found : (replayed byId front).byId.get? orderId = some order) (works : order.Working) :
    order.activeAt ≤ item.occurredAt := by
  obtain ⟨activation, member, kind⟩ :=
    mem_openings ((replayed_queued registered front).listed orderId order found works)
  have listed : activation ∈ timeline byId events := by
    rw [split]
    exact List.mem_append_left _ member
  obtain ⟨first, there, time⟩ := activation_time registered listed kind
  obtain ⟨other, here, -, activeAt, -⟩ := replayed_order registered front found
  cases there.symm.trans here
  rw [activeAt, ← time]
  exact occurredAt_le split activation member

/-- A fill that comes from a trade has its price and time, and a size. -/
theorem fill_eq {trade : L2TradeEvent} {fill : ReplayFill}
    (filled : order.fill trade = some fill) : 0 < fill.size ∧ fill.price = order.request.price ∧
      fill.occurredAt = trade.occurredAt := by
  unfold ReplayOrder.fill at filled
  split at filled
  · cases filled
  · rename_i some_size
    cases filled
    exact ⟨not_le.mp some_size, rfl, rfl⟩

theorem order_accounts (prepared : engine.prepare events orders cancellations = .ok byId)
    (split : timeline byId events = front ++ back)
    (found : (replayed byId front).byId.get? orderId = some order) :
    OrderAccounts events byId front order := by
  have registered := prepare_registered prepared
  have key : order.request.orderId = orderId :=
    (replayed_queued registered front).keyed orderId order found
  have accounted := replayed_accounted registered front found
  have size : (0 : ℚ) ≤ order.request.size := order.request.size_pos.le
  subst key
  refine
    { filledSize := replayed_fills registered front found
      filled_nonneg := ?_
      filled_le := ?_
      remainingSize := rfl
      filled := accounted.filled
      fills := fun fill member own => ?_
      volume := accounted.filledSize }
  · exact (Claim.served_nonneg size).trans_eq accounted.filledSize.symm
  · exact accounted.filledSize.trans_le (min_le_left _ _)
  · obtain ⟨before, item, after, trade, there, rfl, kind, here, eligible, filled⟩ :=
      fill_origin registered front member
    obtain ⟨positive, price, time⟩ := fill_eq filled
    rw [own] at here
    have whole : timeline byId events = before ++ item :: (after ++ back) := by
      rw [split, List.append_assoc, List.cons_append]
    have listed : item ∈ timeline byId events := by
      rw [whole]
      exact List.mem_append_right _ List.mem_cons_self
    obtain ⟨happened, occurred, -⟩ := trade_time listed kind
    obtain ⟨first, at_first, request, -, -⟩ := replayed_order registered _ found
    obtain ⟨first', at_first', request', activeAt', -⟩ := replayed_order registered _ here
    cases at_first.symm.trans at_first'
    have same : there.request = order.request := request'.trans request.symm
    have active := ((prepare_registers prepared).registered _ first at_first).activeAt
    refine ⟨positive, price.trans (congrArg _ same), ?_, trade, happened, ?_, ?_, time.symm⟩
    · calc order.request.submittedAt + order.request.submitLatency = there.activeAt := by
            rw [activeAt', active, request]
        _ ≤ item.occurredAt := activeAt_le registered whole here eligible.1
        _ = fill.occurredAt := occurred.trans time.symm
    · rw [← same]
      exact eligible.2.2.symm
    · rw [← same, eligible.2.1]
      unfold L2TradeEvent.makerSide
      split
      · rename_i buys
        rw [buys]
        decide
      · assumption

/-- Every accepted replay accounts for its orders. -/
theorem orders_accounted {result : L2ReplayResult}
    (accepted : engine.run events orders cancellations = .ok result) :
    OrdersAccounted engine events orders cancellations result := by
  obtain ⟨byId, final, prepared, run, rfl⟩ := run_ok_iff.mp accepted
  refine ⟨byId, prepared, congrArg _ (replay_run.mp run).symm,
    fun front back split orderId order found => ⟨order_accounts prepared split found, ?_⟩⟩
  rintro ended more rest -
  exact replayed_of_ended (prepare_registered prepared) found ended more

end Accounting

/-- Two orders behind a deep book, and two trades of their level. -/
theorem steady_accounted : ∃ result,
    L2ReplayEngine.run ⟨false, false⟩ (steadyEvents largeSale) twoOrders [] = .ok result ∧
      OrdersAccounted ⟨false, false⟩ (steadyEvents largeSale) twoOrders [] result := by
  have accepts : (L2ReplayEngine.run ⟨false, false⟩ (steadyEvents largeSale) twoOrders []).toOption.isSome =
      true := by
    decide
  obtain ⟨result, accepted⟩ := Option.isSome_iff_exists.mp accepts
  cases replays : L2ReplayEngine.run ⟨false, false⟩ (steadyEvents largeSale) twoOrders [] with
  | error problem =>
      rw [replays] at accepted
      cases accepted
  | ok result => exact ⟨result, rfl, orders_accounted replays⟩

end Polybot
