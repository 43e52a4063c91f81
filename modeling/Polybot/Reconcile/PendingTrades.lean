import Polybot.Reconcile.FillJoin

/-!
The trades that the reconciler polls (`pending_trade_ids` of both stores).

A fill is settled for a trade and an order, but the stores subtract the settled fills by
trade. `unsettled_polled_iff` says when every unsettled fill is polled all the same: no
trade has a settled fill next to an unsettled one, within the limits of the queries.
-/

namespace Polybot

/-- MATCHED, MINED or RETRYING. -/
def SettlementStatus.Unsettled (status : SettlementStatus) : Prop :=
  status ∈ [matched, mined, retrying]

instance SettlementStatus.decidableUnsettled (status : SettlementStatus) :
    Decidable status.Unsettled :=
  inferInstanceAs (Decidable (_ ∈ _))

/-- The statuses of orders whose payloads are read. -/
def OrderStatus.polledStatuses : List OrderStatus :=
  [submitted, live, partiallyFilled, matched, mined, unknown]

/-! ### `SupabaseStore.pending_trade_ids` -/

/-- The rows of an account, as the database lists them. -/
structure AccountRows where
  orders : List OrderRow
  fills : List FillRow

section Database

-- The JSON values that Python takes as true, and the members of a JSON array.
variable (holds : String → Bool) (members : String → List String)

/-- The trades of a response payload. -/
def OrderRow.payloadTradeIds (row : OrderRow) : List String :=
  let values := (row.responsePayload.get? "trade_ids").filter holds <|>
    (row.responsePayload.get? "tradeIDs").filter holds
  (values.elim [] members).filter fun value => value ≠ ""

namespace AccountRows

variable (rows : AccountRows)

/-- The orders that are read. -/
def polledOrders : List OrderRow :=
  (rows.orders.filter fun row => row.status ∈ OrderStatus.polledStatuses).take 10000

/-- The unsettled fills that are read. -/
def polledFills : List FillRow :=
  (rows.fills.filter fun fill => fill.settlementStatus.Unsettled).take 10000

/-- `pending`, before the settled trades are subtracted. -/
def candidates : List String :=
  rows.polledOrders.flatMap (OrderRow.payloadTradeIds holds members) ++
    (rows.polledFills.map FillRow.clobTradeId).filter fun tradeId => tradeId ≠ ""

/-- `terminal`. The queries by a hundred ids read the rows of all candidates. -/
def terminalTradeIds (candidates : List String) : List String :=
  ((rows.fills.filter fun fill =>
    fill.clobTradeId ∈ candidates ∧ fill.settlementStatus.Terminal).map FillRow.clobTradeId).filter
      fun tradeId => tradeId ≠ ""

/-- `pending_trade_ids`. -/
def pendingTradeIds : List String :=
  (rows.candidates holds members).filter fun tradeId =>
    tradeId ∉ rows.terminalTradeIds (rows.candidates holds members)

/-- Every unsettled fill is polled. -/
def Polled : Prop :=
  ∀ fill ∈ rows.fills, fill.settlementStatus.Unsettled →
    fill.clobTradeId ∈ rows.pendingTradeIds holds members

/-- The fill has a trade, and a fill or a payload with it is among the rows read. -/
def Read (fill : FillRow) : Prop :=
  fill.clobTradeId ≠ "" ∧
    ((∃ other ∈ rows.polledFills, other.clobTradeId = fill.clobTradeId) ∨
      ∃ row ∈ rows.polledOrders, fill.clobTradeId ∈ row.payloadTradeIds holds members)

/-- No fill of the same trade is settled. -/
def SettledTogether (fill : FillRow) : Prop :=
  ∀ other ∈ rows.fills, other.clobTradeId = fill.clobTradeId → ¬ other.settlementStatus.Terminal

instance (fill : FillRow) : Decidable (rows.SettledTogether fill) :=
  inferInstanceAs (Decidable (∀ other ∈ rows.fills, _))

end AccountRows

variable {holds members} {rows : AccountRows} {tradeId : String}

theorem mem_terminalTradeIds_iff {candidates : List String} :
    tradeId ∈ rows.terminalTradeIds candidates ↔ tradeId ≠ "" ∧ tradeId ∈ candidates ∧
      ∃ fill ∈ rows.fills, fill.clobTradeId = tradeId ∧ fill.settlementStatus.Terminal := by
  unfold AccountRows.terminalTradeIds
  simp only [List.mem_filter, List.mem_map, decide_eq_true_eq]
  constructor
  · rintro ⟨⟨fill, ⟨member, among, terminal⟩, rfl⟩, named⟩
    exact ⟨named, among, fill, member, rfl, terminal⟩
  · rintro ⟨named, among, fill, member, rfl, terminal⟩
    exact ⟨⟨fill, ⟨member, among, terminal⟩, rfl⟩, named⟩

theorem candidates_nonempty (among : tradeId ∈ rows.candidates holds members) : tradeId ≠ "" := by
  rcases List.mem_append.mp among with listed | polled
  · obtain ⟨row, -, member⟩ := List.mem_flatMap.mp listed
    exact of_decide_eq_true (List.mem_filter.mp member).2
  · exact of_decide_eq_true (List.mem_filter.mp polled).2

/-- A trade is pending if it was read and none of its fills is settled. -/
theorem mem_pendingTradeIds_iff : tradeId ∈ rows.pendingTradeIds holds members ↔
    tradeId ∈ rows.candidates holds members ∧
      ∀ fill ∈ rows.fills, fill.clobTradeId = tradeId → ¬ fill.settlementStatus.Terminal := by
  unfold AccountRows.pendingTradeIds
  rw [List.mem_filter, decide_eq_true_iff, mem_terminalTradeIds_iff]
  refine and_congr_right fun among => ⟨fun rest fill member same terminal => ?_, fun none both => ?_⟩
  · exact rest ⟨candidates_nonempty among, among, fill, member, same, terminal⟩
  · obtain ⟨-, -, fill, member, same, terminal⟩ := both
    exact none fill member same terminal

theorem read_iff {fill : FillRow} :
    fill.clobTradeId ∈ rows.candidates holds members ↔ rows.Read holds members fill := by
  unfold AccountRows.candidates AccountRows.Read
  rw [List.mem_append, List.mem_flatMap, List.mem_filter, List.mem_map, decide_eq_true_iff]
  constructor
  · rintro (⟨row, polled, listed⟩ | ⟨⟨other, polled, same⟩, named⟩)
    · exact ⟨of_decide_eq_true (List.mem_filter.mp listed).2, .inr ⟨row, polled, listed⟩⟩
    · exact ⟨named, .inl ⟨other, polled, same⟩⟩
  · rintro ⟨named, ⟨other, polled, same⟩ | ⟨row, polled, listed⟩⟩
    · exact .inr ⟨⟨other, polled, same⟩, named⟩
    · exact .inl ⟨row, polled, listed⟩

/-- Every unsettled fill is polled if and only if it is read and no fill of its trade is
settled before it. -/
theorem unsettled_polled_iff (holds : String → Bool) (members : String → List String)
    (rows : AccountRows) : rows.Polled holds members ↔
      ∀ fill ∈ rows.fills, fill.settlementStatus.Unsettled →
        rows.Read holds members fill ∧ rows.SettledTogether fill := by
  unfold AccountRows.Polled
  simp only [mem_pendingTradeIds_iff, read_iff]
  rfl

end Database

/-! ### Two orders of one trade -/

/-- The first order of a trade is confirmed, the update of the second was not stored. -/
def halfSettled : AccountRows :=
  let first := reconcileTrades researchMarkets submittedOrder
    [orderTrade "trade" 4 Literal.four_pos "MATCHED",
      orderTrade "trade" 4 Literal.four_pos "CONFIRMED"]
  let second := reconcileTrades researchMarkets submittedOrder
    [orderTrade "trade" 6 Literal.six_pos "MATCHED"]
  ⟨[first.row.val, second.row.val], first.fills.values ++ second.fills.values⟩

/-- The second order's fill is MATCHED and not polled. -/
theorem halfSettled_not_polled : ¬ ∀ holds members rows, AccountRows.Polled holds members rows := by
  intro polled
  have pending := polled (fun _ => false) (fun _ => []) halfSettled
  revert pending
  unfold AccountRows.Polled
  decide +kernel

/-! ### `MemoryStore.pending_trade_ids` -/

section Memory

-- The trades of the saved executions.
variable (responseIds : List String)

namespace MemoryTrades

variable (trades : MemoryTrades)

/-- `pending_trade_ids`. -/
def pendingTradeIds : List String :=
  let nonterminal := (trades.tradeUpdates.filter fun update => update.bareStatus ∈
    ["MATCHED", "MATCHED_NOT_BROADCASTED", "MINED", "RETRYING"]).map UserTradeUpdate.clobTradeId
  let terminal := (trades.tradeUpdates.filter fun update => update.bareStatus ∈
    ["CONFIRMED", "FAILED"]).map UserTradeUpdate.clobTradeId
  (responseIds ++ nonterminal).filter fun tradeId => tradeId ∉ terminal

end MemoryTrades

/-- The memory store subtracts by trade as well. -/
theorem memory_polled_iff (trades : MemoryTrades) :
    (∀ update ∈ trades.tradeUpdates, update.bareStatus ∈
        ["MATCHED", "MATCHED_NOT_BROADCASTED", "MINED", "RETRYING"] →
      update.clobTradeId ∈ trades.pendingTradeIds responseIds) ↔
      ∀ update ∈ trades.tradeUpdates, update.bareStatus ∈
          ["MATCHED", "MATCHED_NOT_BROADCASTED", "MINED", "RETRYING"] →
        ∀ other ∈ trades.tradeUpdates, other.clobTradeId = update.clobTradeId →
          other.bareStatus ∉ ["CONFIRMED", "FAILED"] := by
  refine forall₃_congr fun update member unsettled => ?_
  unfold MemoryTrades.pendingTradeIds
  rw [List.mem_filter, decide_eq_true_iff]
  constructor
  · rintro ⟨-, rest⟩ other among same settled
    refine rest (List.mem_map.mpr ⟨other, List.mem_filter.mpr ⟨among, ?_⟩, same⟩)
    exact decide_eq_true settled
  · intro together
    refine ⟨List.mem_append_right _ (List.mem_map_of_mem (List.mem_filter.mpr
      ⟨member, decide_eq_true unsettled⟩)), fun settled => ?_⟩
    obtain ⟨other, listed, same⟩ := List.mem_map.mp settled
    obtain ⟨among, terminal⟩ := List.mem_filter.mp listed
    exact together other among same (of_decide_eq_true terminal)

end Memory

end Polybot
