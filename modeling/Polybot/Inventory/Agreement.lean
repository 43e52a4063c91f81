import Polybot.Interaction.Machine
import Polybot.Inventory.PairBook
import Polybot.Store.Agreement

/-!
Two inventories of one wallet and market.

`PairInventoryBook` keeps the inventory in Python, the last part of `commit_pair_fill`
keeps it in a row of `pair_inventory`. The two mirror each other fill by fill
(`Mirrors.commit`), so they answer every sequence of fills alike and hold the same
after each of them (`inventories_agree`).
-/

namespace Polybot

open Interaction Checked

/-! ### The durable inventory -/

/-- A fill as both sides see it: the row of its leg and the payload of the commit. -/
structure CommittedFill where
  fill : PairFill
  leg : OrderLeg
  payload : FillPayload
  outcome : leg.outcome = fill.outcome
  side : leg.side = fill.side
  tradeId : Text.btrim payload.clobTradeId = fill.fillId
  size : payload.size = fill.size
  price : payload.price = fill.price
  fee : payload.feePaidPusd = fill.feeUsd

/-- The row of `pair_inventory`, and the trade ids of its `pair_inventory_events`. -/
structure DurableInventory where
  row : InventoryRow
  tradeIds : Finset String

/-- The row as `commit_pair_fill` inserts it. -/
def DurableInventory.inserted (accountId walletId marketId : String) : DurableInventory :=
  ⟨Database.empty.inventoryRow accountId walletId marketId, ∅⟩

/-- The update of the inventory for a trade id that is not bound. A raised exception
rolls the row back. -/
def DurableInventory.commit (durable : DurableInventory) (fill : CommittedFill) :
    DurableInventory × Except SqlError Bool :=
  if Text.btrim fill.payload.clobTradeId ∈ durable.tradeIds then (durable, .ok false)
  else
    match inventoryAfterFill durable.row fill.leg fill.payload with
    | .ok row =>
        (⟨row, insert (Text.btrim fill.payload.clobTradeId) durable.tradeIds⟩, .ok true)
    | .error problem => (durable, .error problem)

/-- Both accept the fill, both know it, or both reject it. -/
inductive SameAnswer : Except String Bool → Except SqlError Bool → Prop where
  | answered (changed : Bool) : SameAnswer (.ok changed) (.ok changed)
  | rejected (message : String) (problem : SqlError) : SameAnswer (.error message) (.error problem)

/-- The snapshot of the book and the columns of the row. -/
structure InventoriesAgree (snapshot : PairInventorySnapshot) (row : InventoryRow) : Prop where
  yesSize : snapshot.yesSize = row.yesSize
  noSize : snapshot.noSize = row.noSize
  yesCost : snapshot.yesCostUsd = row.yesCostPusd
  noCost : snapshot.noCostUsd = row.noCostPusd
  pairedSize : snapshot.pairedSize = row.pairedSize
  pairedCost : snapshot.pairedCostUsd = row.pairedCostPusd
  directionalYesSize : snapshot.directionalYesSize = row.directionalYesSize
  directionalNoSize : snapshot.directionalNoSize = row.directionalNoSize
  directionalCost : snapshot.directionalCostUsd = row.directionalCostPusd
  realizedPnl : snapshot.realizedPnlUsd = row.realizedPnlPusd

/-! ### The update within `commit_pair_fill` -/

/-- The key of an inventory row. -/
structure InventoryRow.Of (row : InventoryRow) (accountId walletId marketId : String) : Prop where
  accountId : row.accountId = accountId
  tradingWalletId : row.tradingWalletId = walletId
  marketId : row.marketId = marketId

section Within

variable {db next : Database} {accountId walletId marketId : String} {row updated : InventoryRow}

theorem inventoryRow_of (db : Database) (accountId walletId marketId : String) :
    (db.inventoryRow accountId walletId marketId).Of accountId walletId marketId := by
  unfold Database.inventoryRow
  cases found : db.inventory.find? fun row => row.accountId = accountId ∧
      row.tradingWalletId = walletId ∧ row.marketId = marketId with
  | none => exact ⟨rfl, rfl, rfl⟩
  | some row =>
      have key := List.find?_some found
      rw [decide_eq_true_iff] at key
      exact ⟨key.1, key.2.1, key.2.2⟩

theorem InventoryRow.Of.afterFill {leg : OrderLeg} {fill : FillPayload}
    (key : row.Of accountId walletId marketId) (done : inventoryAfterFill row leg fill = .ok updated) :
    updated.Of accountId walletId marketId := by
  unfold inventoryAfterFill at done
  cases outcome : leg.outcome with
  | yes =>
      rw [outcome] at done
      obtain ⟨_, -, computed⟩ := bind_ok_iff.mp done
      cases computed
      exact ⟨key.accountId, key.tradingWalletId, key.marketId⟩
  | no =>
      rw [outcome] at done
      obtain ⟨_, -, computed⟩ := bind_ok_iff.mp done
      cases computed
      exact ⟨key.accountId, key.tradingWalletId, key.marketId⟩

/-- A stored row is read back. -/
theorem inventoryRow_putInventory (key : row.Of accountId walletId marketId)
    (done : db.putInventory row = .ok next) : next.inventoryRow accountId walletId marketId = row := by
  obtain ⟨rfl, rfl, rfl⟩ := key
  unfold Database.putInventory at done
  rw [require_bind_ok_iff] at done
  obtain ⟨-, stored⟩ := done
  cases stored
  have others : (db.inventory.filter fun other => ¬ (other.accountId = row.accountId ∧
      other.tradingWalletId = row.tradingWalletId ∧ other.marketId = row.marketId)).find?
        (fun other => other.accountId = row.accountId ∧
          other.tradingWalletId = row.tradingWalletId ∧ other.marketId = row.marketId) = none := by
    rw [List.find?_eq_none]
    intro other member
    have apart := (List.mem_filter.mp member).2
    rw [decide_eq_true_iff] at apart
    simpa only [decide_eq_true_iff] using apart
  unfold Database.inventoryRow
  rw [List.find?_append, others]
  simp

/-- An applied commit updates the row of its wallet and market by the fill. -/
theorem commitPairFill_inventory {expected : Nat} {fill : FillPayload} {group : GroupPayload}
    {legs : List OrderLeg} {now : Instant}
    (applied : commitPairFill db accountId expected fill group legs now = .ok (.applied, next)) :
    ∃ (before : GroupRow) (leg : OrderLeg), leg ∈ db.groupLegs accountId before.id ∧ leg.id = fill.legId ∧
      inventoryAfterFill (db.inventoryRow accountId before.tradingWalletId before.marketId) leg fill =
        .ok (next.inventoryRow accountId before.tradingWalletId before.marketId) := by
  unfold commitPairFill at applied
  rw [require_bind_ok_iff, require_bind_ok_iff] at applied
  obtain ⟨-, -, rest⟩ := applied
  cases bound : db.event? accountId (Text.btrim fill.clobTradeId) with
  | some event =>
      rw [bound] at rest
      simp only [boundAnswer, require_bind_ok_iff] at rest
      cases rest.2
  | none =>
      rw [bound] at rest
      cases locked : db.lockGroup accountId fill.groupId expected with
      | none =>
          rw [locked] at rest
          cases rest
      | some before =>
          rw [locked] at rest
          simp only at rest
          cases found : (db.groupLegs accountId before.id).find? fun leg => leg.id = fill.legId with
          | none =>
              rw [found] at rest
              cases rest
          | some leg =>
              rw [found] at rest
              simp only [bind_ok_iff] at rest
              obtain ⟨_, -, _, -, _, -, _, -, row, computed, _, stored, rest⟩ := rest
              cases rest
              have key := (inventoryRow_of db accountId before.tradingWalletId
                before.marketId).afterFill computed
              refine ⟨before, leg, List.mem_of_find?_eq_some found, ?_, ?_⟩
              · simpa using List.find?_some found
              · rw [computed, inventoryRow_putInventory key stored]

end Within

/-! ### The simulation -/

/-- What the row holds of an outcome. -/
def InventoryRow.holding (row : InventoryRow) : Outcome → OutcomeInventory
  | .yes => ⟨row.yesSize, row.yesCostPusd⟩
  | .no => ⟨row.noSize, row.noCostPusd⟩

/-- The row with other holdings of one outcome, before its columns are derived. -/
def InventoryRow.withHolding (row : InventoryRow) (outcome : Outcome) (held : OutcomeInventory)
    (gained : ℚ) : InventoryRow :=
  match outcome with
  | .yes =>
      { row with
        yesSize := held.size, yesCostPusd := held.costUsd,
        realizedPnlPusd := row.realizedPnlPusd + gained }
  | .no =>
      { row with
        noSize := held.size, noCostPusd := held.costUsd,
        realizedPnlPusd := row.realizedPnlPusd + gained }

/-- The book and the row hold the same, and know the same fills. -/
structure Mirrors (book : PairInventoryBook) (durable : DurableInventory) : Prop where
  holdings : ∀ outcome, book.inventory outcome = durable.row.holding outcome
  realized : book.realizedPnl = durable.row.realizedPnlPusd
  seen : book.seenFills = durable.tradeIds
  agree : InventoriesAgree book.snapshot durable.row

/-- The averages are the same quotient, guarded from the two sides. -/
theorem averageCost_eq (held : OutcomeInventory) :
    held.averageCost = averageCost held.size held.costUsd := by
  unfold OutcomeInventory.averageCost averageCost
  rcases le_or_gt held.size 0 with nothing | some_held
  · rw [if_pos nothing, if_neg (not_lt.mpr nothing)]
  · rw [if_neg (not_le.mpr some_held), if_pos some_held]

/-- What is left beside the pairs. -/
theorem left_over (a b : ℚ) : max 0 (a - min a b) = max (a - b) 0 := by
  rcases le_total a b with small | large
  · rw [min_eq_left small, sub_self, max_self, max_eq_right (sub_nonpos.mpr small)]
  · rw [min_eq_right large, max_comm]

/-- The derived columns are the snapshot of the base columns. -/
theorem derived_agrees {book : PairInventoryBook} {row : InventoryRow}
    (holdings : ∀ outcome, book.inventory outcome = row.holding outcome)
    (realized : book.realizedPnl = row.realizedPnlPusd) :
    InventoriesAgree book.snapshot row.derived := by
  have yes : book.yes = ⟨row.yesSize, row.yesCostPusd⟩ := holdings .yes
  have no : book.no = ⟨row.noSize, row.noCostPusd⟩ := holdings .no
  have noLeft : max 0 (row.noSize - min row.yesSize row.noSize) = max (row.noSize - row.yesSize) 0 := by
    rw [min_comm]
    exact left_over _ _
  unfold PairInventoryBook.snapshot InventoryRow.derived
  dsimp only
  rw [yes, no, averageCost_eq, averageCost_eq, realized]
  dsimp only
  rw [left_over, noLeft]
  exact ⟨rfl, rfl, rfl, rfl, rfl, by dsimp only; ring, rfl, rfl, rfl, rfl⟩

theorem Mirrors.inserted (accountId walletId marketId : String) :
    Mirrors .new (.inserted accountId walletId marketId) := by
  refine ⟨?_, rfl, rfl, ?_⟩
  · intro outcome
    cases outcome <;> rfl
  · refine ⟨rfl, rfl, rfl, rfl, ?_, ?_, ?_, ?_, ?_, rfl⟩ <;>
      simp [PairInventoryBook.snapshot, PairInventoryBook.new, OutcomeInventory.flat,
        DurableInventory.inserted, Database.inventoryRow, Database.empty]

section Fill

variable {row : InventoryRow} {fill : CommittedFill} {book : PairInventoryBook}
  {durable : DurableInventory}

/-- The new holdings, on both sides. -/
theorem holding_withHolding {held : OutcomeInventory} {gained : ℚ} {outcome : Outcome}
    (holdings : ∀ other, book.inventory other = row.holding other) (other : Outcome) :
    (book.withInventory outcome held).inventory other =
      (row.withHolding outcome held gained).holding other := by
  have before := holdings other
  cases outcome <;> cases other <;> first | rfl | exact before

/-- A fill that one side of the row takes. -/
theorem inventoryAfterFill_of_side {held : OutcomeInventory} {gained : ℚ}
    (taken : ∀ name, sideAfterFill fill.fill.side name (row.holding fill.fill.outcome).size
      (row.holding fill.fill.outcome).costUsd fill.payload = .ok (held.size, held.costUsd, gained)) :
    inventoryAfterFill row fill.leg fill.payload =
      .ok (row.withHolding fill.fill.outcome held gained).derived := by
  unfold inventoryAfterFill
  rw [fill.outcome, fill.side]
  cases outcome : fill.fill.outcome with
  | yes =>
      rw [outcome] at taken
      exact bind_ok_iff.mpr ⟨_, taken "YES", rfl⟩
  | no =>
      rw [outcome] at taken
      exact bind_ok_iff.mpr ⟨_, taken "NO", rfl⟩

theorem inventoryAfterFill_buy (buys : fill.fill.side = .buy) :
    inventoryAfterFill row fill.leg fill.payload = .ok (row.withHolding fill.fill.outcome
      ((row.holding fill.fill.outcome).buy fill.fill) 0).derived := by
  refine inventoryAfterFill_of_side fun name => ?_
  rw [buys]
  unfold sideAfterFill OutcomeInventory.buy
  rw [fill.size, fill.price, fill.fee, add_assoc]

theorem inventoryAfterFill_sell (sells : fill.fill.side = .sell)
    (covered : fill.fill.size ≤ (row.holding fill.fill.outcome).size) :
    inventoryAfterFill row fill.leg fill.payload = .ok (row.withHolding fill.fill.outcome
      ((row.holding fill.fill.outcome).sell fill.fill)
      (fill.fill.size * fill.fill.price - fill.fill.feeUsd -
        (row.holding fill.fill.outcome).releasedBasis fill.fill)).derived := by
  refine inventoryAfterFill_of_side fun name => ?_
  rw [sells]
  unfold sideAfterFill
  rw [fill.size, require_bind_of covered, fill.price, fill.fee, ← averageCost_eq]
  rfl

theorem inventoryAfterFill_exceeds (sells : fill.fill.side = .sell)
    (exceeds : (row.holding fill.fill.outcome).size < fill.fill.size) :
    ∃ problem, inventoryAfterFill row fill.leg fill.payload = .error problem := by
  cases done : inventoryAfterFill row fill.leg fill.payload with
  | error problem => exact ⟨problem, rfl⟩
  | ok next =>
      have held := inventoryAfterFill_held done (fill.side.trans sells)
      rw [fill.outcome, fill.size] at held
      have same : row.held fill.fill.outcome = (row.holding fill.fill.outcome).size := by
        cases fill.fill.outcome <;> rfl
      exact absurd (same ▸ held) (not_le.mpr exceeds)

/-- A fill that both take. -/
theorem Mirrors.taken {held : OutcomeInventory} {gained : ℚ} (mirrors : Mirrors book durable)
    (computed : inventoryAfterFill durable.row fill.leg fill.payload =
      .ok (durable.row.withHolding fill.fill.outcome held gained).derived)
    (fresh : fill.fill.fillId ∉ book.seenFills) :
    SameAnswer (.ok true) (durable.commit fill).2 ∧
      Mirrors (((book.withInventory fill.fill.outcome held).realized gained).seen fill.fill)
        (durable.commit fill).1 := by
  rw [mirrors.seen, ← fill.tradeId] at fresh
  unfold DurableInventory.commit
  rw [if_neg fresh, computed]
  have holdings : ∀ other, (((book.withInventory fill.fill.outcome held).realized gained).seen
      fill.fill).inventory other =
        (durable.row.withHolding fill.fill.outcome held gained).holding other := by
    intro other
    rw [PairInventoryBook.inventory_seen, PairInventoryBook.inventory_realized]
    exact holding_withHolding mirrors.holdings other
  have realized : (((book.withInventory fill.fill.outcome held).realized gained).seen
      fill.fill).realizedPnl =
        (durable.row.withHolding fill.fill.outcome held gained).realizedPnlPusd := by
    rw [PairInventoryBook.realizedPnl_seen, PairInventoryBook.realizedPnl_realized,
      PairInventoryBook.realizedPnl_withInventory, mirrors.realized]
    cases fill.fill.outcome <;> rfl
  refine ⟨.answered true, ?_, ?_, ?_, derived_agrees holdings realized⟩
  · intro other
    rw [holdings other]
    cases other <;> rfl
  · exact realized
  · rw [PairInventoryBook.seenFills_seen, PairInventoryBook.seenFills_realized,
      PairInventoryBook.seenFills_withInventory, mirrors.seen, ← fill.tradeId]

/-- The two answer a fill alike and mirror each other afterwards. -/
theorem Mirrors.commit (mirrors : Mirrors book durable) (fill : CommittedFill) :
    SameAnswer (book.applyFill fill.fill).2 (durable.commit fill).2 ∧
      Mirrors (book.applyFill fill.fill).1 (durable.commit fill).1 := by
  have applied := book.applyFill_cases fill.fill
  generalize (book.applyFill fill.fill).1 = after at applied ⊢
  generalize (book.applyFill fill.fill).2 = answer at applied ⊢
  have same := mirrors.holdings fill.fill.outcome
  cases applied with
  | duplicate known =>
      rw [mirrors.seen, ← fill.tradeId] at known
      unfold DurableInventory.commit
      rw [if_pos known]
      exact ⟨.answered false, mirrors⟩
  | bought fresh buys =>
      have taken := mirrors.taken (inventoryAfterFill_buy buys) fresh
      have nothing_realized : ∀ other : PairInventoryBook, other.realized 0 = other := fun other => by
        unfold PairInventoryBook.realized
        rw [add_zero]
      rw [nothing_realized] at taken
      rw [same]
      exact taken
  | rejected fresh sells exceeds =>
      rw [same] at exceeds
      obtain ⟨problem, raised⟩ := inventoryAfterFill_exceeds sells exceeds
      rw [mirrors.seen, ← fill.tradeId] at fresh
      unfold DurableInventory.commit
      rw [if_neg fresh, raised]
      exact ⟨.rejected _ problem, mirrors⟩
  | sold fresh sells covered =>
      rw [same] at covered ⊢
      exact mirrors.taken (inventoryAfterFill_sell sells covered) fresh

end Fill

/-! ### Sequences of fills -/

/-- The book answers a committed fill. -/
def bookNext (book : PairInventoryBook) (fill : CommittedFill) : PairInventoryBook × Except String Bool :=
  book.applyFill fill.fill

/-- The book after the fills. -/
def bookAfter (fills : List CommittedFill) : PairInventoryBook :=
  fills.foldl (fun book fill => (bookNext book fill).1) .new

/-- The durable inventory after the fills. -/
def durableAfter (start : DurableInventory) (fills : List CommittedFill) : DurableInventory :=
  fills.foldl (fun durable fill => (durable.commit fill).1) start

theorem Mirrors.run {book : PairInventoryBook} {durable : DurableInventory}
    (mirrors : Mirrors book durable) (fills : List CommittedFill) :
    List.Forall₂ SameAnswer (answers bookNext book fills)
        (answers DurableInventory.commit durable fills) ∧
      Mirrors (fills.foldl (fun book fill => (bookNext book fill).1) book)
        (durableAfter durable fills) := by
  induction fills generalizing book durable with
  | nil => exact ⟨.nil, mirrors⟩
  | cons fill rest ih =>
      obtain ⟨answered, next⟩ := mirrors.commit fill
      obtain ⟨later, last⟩ := ih next
      exact ⟨.cons answered later, last⟩

end Polybot
