import Polybot.Reconcile.Progress

/-!
The settlement of one fill in the two stores.

`_merge_fill_payload` and `MemoryStore.reconcile_trade` keep a status of the same fill,
one through ranks and a terminal rule, the other by copying the status of the update it
holds. Both are the join of the statuses seen (`Greatest`), where CONFIRMED and FAILED
are two greatest statuses: `settles_as_join`.
-/

namespace Polybot

open Checked

/-! ### The order of settlements -/

/-- MATCHED is below RETRYING, that below MINED, and that below CONFIRMED and FAILED. -/
def SettlementStatus.Below (status other : SettlementStatus) : Prop :=
  status = other ∨ status.rank < other.rank

instance (status other : SettlementStatus) : Decidable (status.Below other) :=
  inferInstanceAs (Decidable (_ ∨ _))

/-- At most one of CONFIRMED and FAILED is seen. -/
def OneOutcome (seen : List SettlementStatus) : Prop :=
  ¬ (.confirmed ∈ seen ∧ .failed ∈ seen)

instance (seen : List SettlementStatus) : Decidable (OneOutcome seen) :=
  inferInstanceAs (Decidable (¬ _))

/-- The greatest of the statuses seen. -/
structure Greatest (seen : List SettlementStatus) (status : SettlementStatus) : Prop where
  member : status ∈ seen
  above : ∀ other ∈ seen, other.Below status

namespace SettlementStatus

variable {status other more current incoming : SettlementStatus}

theorem Below.trans (first : status.Below other) (second : other.Below more) : status.Below more := by
  rcases first with rfl | lower
  · exact second
  · rcases second with rfl | higher
    · exact .inr lower
    · exact .inr (lower.trans higher)

theorem merge_cases (current incoming : SettlementStatus) :
    current.merge incoming = current ∨ current.merge incoming = incoming := by
  unfold merge
  split
  · exact .inl rfl
  · split
    · exact .inr rfl
    · exact .inl rfl

theorem below_merge (current incoming : SettlementStatus) : current.Below (current.merge incoming) := by
  cases current <;> cases incoming <;> decide

/-- A merge takes in its status, unless it has the other outcome. -/
theorem incoming_below_merge (one : OneOutcome [current, incoming]) :
    incoming.Below (current.merge incoming) := by
  revert one
  cases current <;> cases incoming <;> decide

theorem merge_of_terminal (terminal : current.Terminal) : current.merge incoming = current :=
  if_pos terminal

end SettlementStatus

/-- Merging one more status keeps the greatest. -/
theorem Greatest.merge {seen : List SettlementStatus} {status incoming : SettlementStatus}
    (greatest : Greatest seen status) (one : OneOutcome (seen ++ [incoming])) :
    Greatest (seen ++ [incoming]) (status.merge incoming) where
  member := by
    rcases SettlementStatus.merge_cases status incoming with kept | taken
    · rw [kept]
      exact List.mem_append_left _ greatest.member
    · rw [taken]
      exact List.mem_append_right _ (List.mem_singleton.mpr rfl)
  above other member := by
    rcases List.mem_append.mp member with earlier | now
    · exact (greatest.above other earlier).trans (SettlementStatus.below_merge status incoming)
    · rw [List.mem_singleton.mp now]
      refine SettlementStatus.incoming_below_merge fun both => one ?_
      have among : ∀ outcome, outcome ∈ [status, incoming] → outcome ∈ seen ++ [incoming] := by
        intro outcome member
        rcases List.mem_cons.mp member with rfl | last
        · exact List.mem_append_left _ greatest.member
        · exact List.mem_append_right _ last
      exact ⟨among _ both.1, among _ both.2⟩

theorem greatest_singleton (status : SettlementStatus) : Greatest [status] status where
  member := List.mem_singleton.mpr rfl
  above _ member := .inl (List.mem_singleton.mp member)

/-! ### `MemoryStore.reconcile_trade` -/

/-- What `MemoryStore` keeps of trades. -/
structure MemoryTrades where
  tradeUpdates : List UserTradeUpdate
  durableOrders : Dict String OrderStatus
  orderMissingConfirmations : Dict String Nat

namespace UserTradeUpdate

variable (current update : UserTradeUpdate)

/-- `key`. -/
def key : String × String × String :=
  (update.clobTradeId, update.candidateOrderIds.headD "", update.tokenId)

/-- `status.removeprefix("TRADE_STATUS_")`. -/
def bareStatus : String :=
  Text.removeprefix update.status "TRADE_STATUS_"

/-- `ranks.get(status, 0)`. -/
def memoryRank : Nat :=
  if update.bareStatus = "RETRYING" then 1
  else if update.bareStatus = "MINED" then 2
  else if update.bareStatus = "CONFIRMED" ∨ update.bareStatus = "FAILED" then 3
  else 0

/-- The update that takes the place of `current`. -/
def keptOver : UserTradeUpdate :=
  if (current.bareStatus = "CONFIRMED" ∨ current.bareStatus = "FAILED") ∨
      update.memoryRank < current.memoryRank then
    { update with
      status := current.status
      transactionHash := eitherText current.transactionHash update.transactionHash
      updatedAt := max current.updatedAt update.updatedAt }
  else update

/-- `mapped`. -/
def memoryOrderStatus : OrderStatus :=
  if update.bareStatus = "MINED" then .mined
  else if update.bareStatus = "CONFIRMED" then .confirmed
  else if update.bareStatus = "FAILED" then .failed
  else .matched

end UserTradeUpdate

/-- The updates after one more, and what is kept of it. -/
def keepTrade (update : UserTradeUpdate) : List UserTradeUpdate →
    List UserTradeUpdate × UserTradeUpdate
  | [] => ([update], update)
  | current :: rest =>
      if current.key = update.key then
        (current.keptOver update :: rest, current.keptOver update)
      else ((current :: (keepTrade update rest).1), (keepTrade update rest).2)

namespace MemoryTrades

variable (trades : MemoryTrades) (update : UserTradeUpdate)

/-- The loop body over the candidates of an update. -/
def settleOrder (orderId : String) : MemoryTrades :=
  match trades.durableOrders.get? orderId with
  | none => trades
  | some _ =>
      { trades with
        durableOrders := trades.durableOrders.set orderId update.memoryOrderStatus
        orderMissingConfirmations :=
          if update.memoryOrderStatus = .confirmed ∨ update.memoryOrderStatus = .failed then
            trades.orderMissingConfirmations.erase orderId
          else trades.orderMissingConfirmations }

/-- `reconcile_trade`. -/
def reconcileTrade : MemoryTrades :=
  let kept := keepTrade update trades.tradeUpdates
  kept.2.candidateOrderIds.foldl (fun trades orderId => trades.settleOrder kept.2 orderId)
    { trades with tradeUpdates := kept.1 }

/-- The update that is kept of a fill. -/
def kept (key : String × String × String) : Option UserTradeUpdate :=
  trades.tradeUpdates.find? fun update => update.key = key

end MemoryTrades

section Memory

variable {trades : MemoryTrades} {current update : UserTradeUpdate}
  {key : String × String × String}

theorem UserTradeUpdate.memoryRank_eq (update : UserTradeUpdate) :
    update.memoryRank = update.settlementStatus.rank := by
  unfold memoryRank settlementStatus bareStatus
  dsimp only
  generalize Text.removeprefix update.status "TRADE_STATUS_" = status
  by_cases mined : status = "MINED"
  · subst mined
    decide
  by_cases confirmed : status = "CONFIRMED"
  · subst confirmed
    decide
  by_cases retrying : status = "RETRYING"
  · subst retrying
    decide
  by_cases failed : status = "FAILED"
  · subst failed
    decide
  simp only [mined, confirmed, retrying, failed, if_false, or_self]
  rfl

theorem UserTradeUpdate.terminal_iff (update : UserTradeUpdate) :
    update.settlementStatus.Terminal ↔
      update.bareStatus = "CONFIRMED" ∨ update.bareStatus = "FAILED" := by
  unfold settlementStatus bareStatus
  dsimp only
  generalize Text.removeprefix update.status "TRADE_STATUS_" = status
  by_cases mined : status = "MINED"
  · subst mined
    decide
  by_cases confirmed : status = "CONFIRMED"
  · subst confirmed
    decide
  by_cases retrying : status = "RETRYING"
  · subst retrying
    decide
  by_cases failed : status = "FAILED"
  · subst failed
    decide
  simp only [mined, confirmed, retrying, failed, if_false, or_self, iff_false]
  decide

/-- The memory store merges statuses as the database does. -/
theorem UserTradeUpdate.keptOver_status (current update : UserTradeUpdate) :
    (current.keptOver update).settlementStatus =
      current.settlementStatus.merge update.settlementStatus := by
  have stale_iff : ((current.bareStatus = "CONFIRMED" ∨ current.bareStatus = "FAILED") ∨
      update.memoryRank < current.memoryRank) ↔ current.settlementStatus.Terminal ∨
        update.settlementStatus.rank < current.settlementStatus.rank := by
    rw [terminal_iff, memoryRank_eq, memoryRank_eq]
  unfold keptOver SettlementStatus.merge
  by_cases terminal : current.settlementStatus.Terminal
  · rw [if_pos (stale_iff.mpr (.inl terminal)), if_pos terminal]
    rfl
  · rw [if_neg terminal]
    by_cases lower : update.settlementStatus.rank < current.settlementStatus.rank
    · have stale : ¬ (update.settlementStatus = .failed ∨
          current.settlementStatus.rank ≤ update.settlementStatus.rank) := by
        rintro (failed | higher)
        · rw [failed] at lower
          have top : current.settlementStatus.rank ≤ 3 := by
            cases current.settlementStatus <;> decide
          exact absurd lower top.not_gt
        · exact absurd lower higher.not_gt
      rw [if_pos (stale_iff.mpr (.inr lower)), if_neg stale]
      rfl
    · rw [if_neg fun either => (stale_iff.mp either).elim terminal lower,
        if_pos (.inr (not_lt.mp lower))]

theorem UserTradeUpdate.keptOver_key (current update : UserTradeUpdate) :
    (current.keptOver update).key = update.key := by
  unfold keptOver
  split <;> rfl

/-- What is kept of a fill after an update of it. -/
theorem keepTrade_find? (own : update.key = key) (updates : List UserTradeUpdate) :
    (keepTrade update updates).1.find? (fun other => other.key = key) =
      some ((updates.find? fun other => other.key = key).elim update
        fun current => current.keptOver update) := by
  induction updates with
  | nil => simp [keepTrade, own]
  | cons current rest ih =>
      unfold keepTrade
      by_cases same : current.key = update.key
      · rw [if_pos same]
        have keeps : (current.keptOver update).key = key :=
          (current.keptOver_key update).trans own
        simp [keeps, same, own]
      · rw [if_neg same]
        have differs : current.key ≠ key := fun equal => same (equal.trans own.symm)
        simp [differs, ih]

theorem settleOrder_tradeUpdates (trades : MemoryTrades) (update : UserTradeUpdate)
    (orderId : String) : (trades.settleOrder update orderId).tradeUpdates = trades.tradeUpdates := by
  unfold MemoryTrades.settleOrder
  split <;> rfl

theorem reconcileTrade_kept (own : update.key = key) (trades : MemoryTrades) :
    (trades.reconcileTrade update).kept key =
      some ((trades.kept key).elim update fun current => current.keptOver update) := by
  have settled (orderIds : List String) (stored : UserTradeUpdate) (trades : MemoryTrades) :
      (orderIds.foldl (fun trades orderId => trades.settleOrder stored orderId) trades).tradeUpdates =
        trades.tradeUpdates := by
    induction orderIds generalizing trades with
    | nil => rfl
    | cons orderId rest ih =>
        rw [List.foldl_cons, ih, settleOrder_tradeUpdates]
  unfold MemoryTrades.reconcileTrade MemoryTrades.kept
  rw [settled]
  exact keepTrade_find? own trades.tradeUpdates

end Memory

/-! ### Events of one fill -/

/-- The update is an event of the fill that the order has of a trade. -/
structure EventOf (markets : List MarketRow) (durable : DurableOrder)
    (key : String × String × String) (update : UserTradeUpdate) : Prop where
  key : update.key = key
  accepted : ∃ fill, durable.tradeFill markets update = .ok fill

/-- What is settled of a fill is not taken back. -/
structure FillRow.Keeps (earlier later : FillRow) : Prop where
  terminal : earlier.settlementStatus.Terminal → later.settlementStatus = earlier.settlementStatus
  minedAt : earlier.minedAt ≠ none → later.minedAt = earlier.minedAt
  confirmedAt : earlier.confirmedAt ≠ none → later.confirmedAt = earlier.confirmedAt
  transactionHash : truthy earlier.transactionHash → truthy later.transactionHash

theorem FillRow.Keeps.refl (fill : FillRow) : fill.Keeps fill :=
  ⟨fun _ => rfl, fun _ => rfl, fun _ => rfl, id⟩

theorem FillRow.Keeps.trans {first earlier later : FillRow} (keeps : first.Keeps earlier)
    (more : earlier.Keeps later) : first.Keeps later where
  terminal settled := by
    have same := keeps.terminal settled
    exact (more.terminal (same ▸ settled)).trans same
  minedAt mined := by
    have same := keeps.minedAt mined
    exact (more.minedAt (same ▸ mined)).trans same
  confirmedAt confirmed := by
    have same := keeps.confirmedAt confirmed
    exact (more.confirmedAt (same ▸ confirmed)).trans same
  transactionHash hashed := more.transactionHash (keeps.transactionHash hashed)

/-- A merge keeps what is settled. -/
theorem mergeFillPayload_keeps (existing incoming : FillRow) :
    existing.Keeps (mergeFillPayload (some existing) incoming) where
  terminal settled := SettlementStatus.merge_of_terminal settled
  minedAt mined := by
    change (existing.minedAt <|> incoming.minedAt) = _
    cases known : existing.minedAt with
    | none => exact absurd known mined
    | some time => rfl
  confirmedAt confirmed := by
    change (existing.confirmedAt <|> incoming.confirmedAt) = _
    cases known : existing.confirmedAt with
    | none => exact absurd known confirmed
    | some time => rfl
  transactionHash hashed := by
    change truthy (eitherText incoming.transactionHash existing.transactionHash) = true
    unfold eitherText
    split
    · assumption
    · exact hashed

/-- The state after the trades. -/
def reconcileTrades (markets : List MarketRow) (durable : DurableOrder)
    (updates : List UserTradeUpdate) : DurableOrder :=
  updates.foldl (fun durable update => durable.reconcile markets (.trade update)) durable

/-- The fill and the update that the two stores keep of the events are their join. -/
structure SettlesAsJoin (markets : List MarketRow) (durable : DurableOrder) (trades : MemoryTrades)
    (key : String × String × String) (updates : List UserTradeUpdate) : Prop where
  status : updates ≠ [] →
    ∃ fill update, (reconcileTrades markets durable updates).fills.get? key.1 = some fill ∧
      (updates.foldl MemoryTrades.reconcileTrade trades).kept key = some update ∧
      Greatest (updates.map UserTradeUpdate.settlementStatus) fill.settlementStatus ∧
      update.settlementStatus = fill.settlementStatus
  keeps : ∀ front back, updates = front ++ back →
    ∀ earlier, (reconcileTrades markets durable front).fills.get? key.1 = some earlier →
      ∃ later, (reconcileTrades markets durable updates).fills.get? key.1 = some later ∧
        earlier.Keeps later

section Trades

variable {markets : List MarketRow} {durable : DurableOrder} {trades : MemoryTrades}
  {key : String × String × String} {update : UserTradeUpdate} {updates : List UserTradeUpdate}

/-- An order accepts a trade by what identifies it. -/
theorem tradeFill_accepted_iff : (∃ fill, durable.tradeFill markets update = .ok fill) ↔
    (∃ orderId ∈ update.candidateOrderIds, durable.row.val.clobOrderId = some orderId) ∧
      (durable.row.val.outcomeTokenId = update.tokenId ∧ durable.row.val.side = update.side) ∧
      (∃ marketId, dbMarketIdByCondition markets update.conditionId = .ok marketId) ∧
      ∃ role, update.liquidityRole = .ok role := by
  unfold DurableOrder.tradeFill
  simp only [require_bind_ok_iff]
  simp only [bind_ok_iff]
  constructor
  · rintro ⟨fill, known, fits, marketId, found, role, reads, -⟩
    exact ⟨known, fits, ⟨marketId, found⟩, role, reads⟩
  · rintro ⟨known, fits, ⟨marketId, found⟩, role, reads⟩
    exact ⟨_, known, fits, marketId, found, role, reads, rfl⟩

/-- A trade leaves what identifies the order. -/
theorem reconcile_trade_identity (markets : List MarketRow) (durable : DurableOrder)
    (update : UserTradeUpdate) :
    (durable.reconcile markets (.trade update)).row.val.toExecutionColumns.clobOrderId =
        durable.row.val.clobOrderId ∧
      (durable.reconcile markets (.trade update)).row.val.outcomeTokenId =
        durable.row.val.outcomeTokenId ∧
      (durable.reconcile markets (.trade update)).row.val.side = durable.row.val.side := by
  unfold DurableOrder.reconcile DurableOrder.reconcileTrade
  dsimp only
  split
  · exact ⟨rfl, rfl, rfl⟩
  · split
    · exact ⟨rfl, rfl, rfl⟩
    · rename_i row written
      unfold DurableOrder.tradeRow at written
      rw [bind_ok_iff] at written
      obtain ⟨payload, -, stored⟩ := written
      rw [OrderRow.store_ok_iff] at stored
      dsimp only
      rw [stored]
      exact ⟨rfl, rfl, rfl⟩

theorem reconcileTrades_snoc (markets : List MarketRow) (durable : DurableOrder)
    (front : List UserTradeUpdate) (update : UserTradeUpdate) :
    reconcileTrades markets durable (front ++ [update]) =
      (reconcileTrades markets durable front).reconcile markets (.trade update) :=
  List.foldl_append

/-- An event of a fill is one in every later state. -/
theorem EventOf.later (event : EventOf markets durable key update) (updates : List UserTradeUpdate) :
    EventOf markets (reconcileTrades markets durable updates) key update := by
  refine ⟨event.key, ?_⟩
  induction updates using List.reverseRecOn with
  | nil => exact event.accepted
  | append_singleton front last ih =>
      obtain ⟨clobOrderId, token, side⟩ :=
        reconcile_trade_identity markets (reconcileTrades markets durable front) last
      rw [tradeFill_accepted_iff] at ih ⊢
      rw [reconcileTrades_snoc, clobOrderId, token, side]
      exact ih

/-- What an event of a fill stores. -/
theorem EventOf.stored (event : EventOf markets durable key update) : ∃ marketId role,
    (durable.reconcile markets (.trade update)).fills.get? key.1 =
      some (mergeFillPayload (durable.fills.get? key.1) (update.fillPayload marketId role)) := by
  have own : update.clobTradeId = key.1 := congrArg Prod.fst event.key
  rcases durable.reconcile_trade_cases markets update with ⟨refused, -⟩ | ⟨fill, accepted, fills, -⟩
  · obtain ⟨fill, accepted⟩ := event.accepted
    exact absurd accepted (refused fill)
  · obtain ⟨marketId, role, made⟩ := DurableOrder.tradeFill_ok accepted
    refine ⟨marketId, role, ?_⟩
    rw [fills, own, Dict.get?_set_self, made, own]

theorem fill_kept (events : ∀ update ∈ updates, EventOf markets durable key update) :
    ∀ front back, updates = front ++ back →
      ∀ earlier, (reconcileTrades markets durable front).fills.get? key.1 = some earlier →
        ∃ later, (reconcileTrades markets durable updates).fills.get? key.1 = some later ∧
          earlier.Keeps later := by
  rintro front back rfl earlier found
  induction back using List.reverseRecOn with
  | nil =>
      rw [List.append_nil]
      exact ⟨earlier, found, .refl earlier⟩
  | append_singleton before update ih =>
      rw [← List.append_assoc] at events ⊢
      obtain ⟨later, here, keeps⟩ := ih fun other member => events other (List.mem_append_left _ member)
      have event := (events update (List.mem_append_right _ (List.mem_singleton.mpr rfl))).later
        (front ++ before)
      obtain ⟨marketId, role, stored⟩ := event.stored
      rw [reconcileTrades_snoc]
      rw [here] at stored
      exact ⟨_, stored, keeps.trans (mergeFillPayload_keeps later _)⟩

/-- Both stores keep the greatest status of a fill that they had no event of, and take
back nothing that is settled. -/
theorem settles_as_join (events : ∀ update ∈ updates, EventOf markets durable key update)
    (one : OneOutcome (updates.map UserTradeUpdate.settlementStatus))
    (fresh : durable.fills.get? key.1 = none) (unseen : trades.kept key = none) :
    SettlesAsJoin markets durable trades key updates := by
  refine ⟨?_, fill_kept events⟩
  induction updates using List.reverseRecOn with
  | nil => exact fun some_event => absurd rfl some_event
  | append_singleton front update ih =>
      intro _
      have event := (events update (List.mem_append_right _ (List.mem_singleton.mpr rfl))).later front
      obtain ⟨marketId, role, stored⟩ := event.stored
      have kept := reconcileTrade_kept event.key (front.foldl MemoryTrades.reconcileTrade trades)
      rw [reconcileTrades_snoc, List.foldl_append, List.foldl_cons, List.foldl_nil]
      refine ⟨_, _, stored, kept, ?_⟩
      by_cases first : front = []
      · subst first
        change (reconcileTrades markets durable []).fills.get? key.1 = none at fresh
        change ([].foldl MemoryTrades.reconcileTrade trades).kept key = none at unseen
        rw [fresh, unseen]
        exact ⟨greatest_singleton _, rfl⟩
      · have sub : OneOutcome (front.map UserTradeUpdate.settlementStatus) := by
          rw [List.map_append] at one
          exact fun both => one ⟨List.mem_append_left _ both.1, List.mem_append_left _ both.2⟩
        obtain ⟨fill, held, found, here, greatest, same⟩ :=
          ih (fun other member => events other (List.mem_append_left _ member)) sub first
        rw [found, here]
        rw [List.map_append] at one ⊢
        refine ⟨greatest.merge one, ?_⟩
        rw [Option.elim_some, UserTradeUpdate.keptOver_status, same]
        rfl

end Trades

/-- Four shares whose events arrive out of order. -/
def shuffledTrades : List UserTradeUpdate :=
  [orderTrade "first" 4 Literal.four_pos "MATCHED_NOT_BROADCASTED",
    orderTrade "first" 4 Literal.four_pos "TRADE_STATUS_CONFIRMED",
    orderTrade "first" 4 Literal.four_pos "RETRYING", orderTrade "first" 4 Literal.four_pos "MINED"]

theorem shuffledTrades_settle :
    SettlesAsJoin researchMarkets submittedOrder ⟨[], .empty, .empty⟩ ("first", "order", "yes")
      shuffledTrades := by
  have accepted : ∀ update ∈ shuffledTrades, update.key = ("first", "order", "yes") ∧
      (submittedOrder.tradeFill researchMarkets update).toOption.isSome = true := by
    decide
  refine settles_as_join (fun update member => ?_) (by decide) (by decide) rfl
  obtain ⟨own, accepts⟩ := accepted update member
  refine ⟨own, ?_⟩
  cases made : submittedOrder.tradeFill researchMarkets update with
  | error problem =>
      rw [made] at accepts
      cases accepts
  | ok fill => exact ⟨fill, rfl⟩

end Polybot
