import Mathlib.Data.Finset.Insert
import Mathlib.Tactic.FieldSimp
import Mathlib.Tactic.Linarith
import Mathlib.Tactic.Ring
import Polybot.Interaction.Transition
import Polybot.Models

/-!
The average-cost inventory of a binary pair (`polybot/inventory/pair_book.py`).

A SELL releases its share of the cost, so an outcome's cost follows its size
(`OutcomeInventory.Sound`), and what the books hold is what was paid and not yet
released (`Conserved`). A complete pair is the smaller holding; the snapshot splits
size and cost along it.
-/

namespace Polybot

open Interaction

/-! ### Fills -/

/-- `PairFill`, with the bounds of its fields. -/
structure PairFill where
  fillId : String
  outcome : Outcome
  side : Side
  size : ℚ
  price : ℚ
  feeUsd : ℚ
  liquidityRole : LiquidityRole
  fillId_nonempty : fillId ≠ ""
  size_pos : 0 < size
  price_pos : 0 < price
  price_lt_one : price < 1
  feeUsd_nonneg : 0 ≤ feeUsd

/-! ### The holdings of one outcome -/

/-- `_OutcomeInventory`. -/
structure OutcomeInventory where
  size : ℚ
  costUsd : ℚ
  deriving DecidableEq

namespace OutcomeInventory

/-- Nothing held. -/
def flat : OutcomeInventory :=
  ⟨0, 0⟩

def averageCost (inventory : OutcomeInventory) : ℚ :=
  if inventory.size ≤ 0 then 0 else inventory.costUsd / inventory.size

/-- The cost of a BUY enters with its fee. -/
def buy (inventory : OutcomeInventory) (fill : PairFill) : OutcomeInventory where
  size := inventory.size + fill.size
  costUsd := inventory.costUsd + (fill.size * fill.price + fill.feeUsd)

/-- The cost that the shares of a SELL carry. -/
def releasedBasis (inventory : OutcomeInventory) (fill : PairFill) : ℚ :=
  inventory.averageCost * fill.size

def sell (inventory : OutcomeInventory) (fill : PairFill) : OutcomeInventory where
  size := inventory.size - fill.size
  costUsd := max 0 (inventory.costUsd - inventory.releasedBasis fill)

/-- Neither size nor cost is negative, and there is no cost without shares. -/
structure Sound (inventory : OutcomeInventory) : Prop where
  size_nonneg : 0 ≤ inventory.size
  costUsd_nonneg : 0 ≤ inventory.costUsd
  flat : inventory.size = 0 → inventory.costUsd = 0

variable {inventory : OutcomeInventory} {fill : PairFill}

theorem flat_sound : flat.Sound :=
  ⟨le_rfl, le_rfl, fun _ => rfl⟩

/-- The average spreads the whole cost over the shares. -/
theorem Sound.averageCost_mul_size (sound : inventory.Sound) :
    inventory.averageCost * inventory.size = inventory.costUsd := by
  unfold averageCost
  split
  · rename_i nothing
    have none_held := le_antisymm nothing sound.size_nonneg
    rw [zero_mul, sound.flat none_held]
  · rename_i some_held
    exact div_mul_cancel₀ _ (not_le.mp some_held).ne'

theorem Sound.averageCost_nonneg (sound : inventory.Sound) : 0 ≤ inventory.averageCost := by
  unfold averageCost
  split
  · exact le_rfl
  · exact div_nonneg sound.costUsd_nonneg sound.size_nonneg

theorem Sound.buy (sound : inventory.Sound) (fill : PairFill) : (inventory.buy fill).Sound := by
  have paid : 0 < fill.size * fill.price := mul_pos fill.size_pos fill.price_pos
  have size_pos : 0 < inventory.size + fill.size :=
    add_pos_of_nonneg_of_pos sound.size_nonneg fill.size_pos
  refine ⟨size_pos.le, ?_, fun none_held => absurd none_held size_pos.ne'⟩
  exact add_nonneg sound.costUsd_nonneg (add_nonneg paid.le fill.feeUsd_nonneg)

/-- A covered SELL releases no more than the cost, so nothing is cut off at zero. -/
theorem Sound.sell_costUsd (sound : inventory.Sound) (covered : fill.size ≤ inventory.size) :
    (inventory.sell fill).costUsd = inventory.averageCost * (inventory.size - fill.size) := by
  have rest : inventory.costUsd - inventory.releasedBasis fill =
      inventory.averageCost * (inventory.size - fill.size) := by
    rw [← sound.averageCost_mul_size]
    unfold releasedBasis
    ring
  unfold sell
  dsimp only
  rw [rest]
  exact max_eq_right (mul_nonneg sound.averageCost_nonneg (sub_nonneg.mpr covered))

theorem Sound.sell (sound : inventory.Sound) (covered : fill.size ≤ inventory.size) :
    (inventory.sell fill).Sound := by
  refine ⟨sub_nonneg.mpr covered, le_max_left _ _, fun none_left => ?_⟩
  have left : inventory.size - fill.size = 0 := none_left
  rw [sound.sell_costUsd covered, left, mul_zero]

/-- What a covered SELL leaves and what it releases is the whole cost. -/
theorem Sound.sell_released (sound : inventory.Sound) (covered : fill.size ≤ inventory.size) :
    (inventory.sell fill).costUsd + inventory.releasedBasis fill = inventory.costUsd := by
  rw [sound.sell_costUsd covered, ← sound.averageCost_mul_size]
  unfold releasedBasis
  ring

end OutcomeInventory

/-! ### The book -/

structure PairInventoryBook where
  yes : OutcomeInventory
  no : OutcomeInventory
  seenFills : Finset String
  realizedPnl : ℚ
  deriving DecidableEq

/-- `PairInventorySnapshot`. -/
structure PairInventorySnapshot where
  yesSize : ℚ
  noSize : ℚ
  yesCostUsd : ℚ
  noCostUsd : ℚ
  pairedSize : ℚ
  pairedCostUsd : ℚ
  pairedLockedEdgeUsd : ℚ
  directionalYesSize : ℚ
  directionalNoSize : ℚ
  directionalCostUsd : ℚ
  realizedPnlUsd : ℚ
  deriving DecidableEq

/-- The bounds of the snapshot's fields. -/
structure PairInventorySnapshot.Valid (snapshot : PairInventorySnapshot) : Prop where
  yesSize : 0 ≤ snapshot.yesSize
  noSize : 0 ≤ snapshot.noSize
  yesCostUsd : 0 ≤ snapshot.yesCostUsd
  noCostUsd : 0 ≤ snapshot.noCostUsd
  pairedSize : 0 ≤ snapshot.pairedSize
  pairedCostUsd : 0 ≤ snapshot.pairedCostUsd
  directionalYesSize : 0 ≤ snapshot.directionalYesSize
  directionalNoSize : 0 ≤ snapshot.directionalNoSize
  directionalCostUsd : 0 ≤ snapshot.directionalCostUsd

namespace PairInventoryBook

/-- `PairInventoryBook()`. -/
def new : PairInventoryBook :=
  ⟨.flat, .flat, ∅, 0⟩

/-- `_inventory`. -/
def inventory (book : PairInventoryBook) : Outcome → OutcomeInventory
  | .yes => book.yes
  | .no => book.no

/-- The book with other holdings of one outcome. -/
def withInventory (book : PairInventoryBook) (outcome : Outcome) (inventory : OutcomeInventory) :
    PairInventoryBook :=
  match outcome with
  | .yes => { book with yes := inventory }
  | .no => { book with no := inventory }

/-- `self._seen_fills.add(fill.fill_id)`. -/
def seen (book : PairInventoryBook) (fill : PairFill) : PairInventoryBook :=
  { book with seenFills := insert fill.fillId book.seenFills }

/-- Count what a SELL realises. -/
def realized (book : PairInventoryBook) (gained : ℚ) : PairInventoryBook :=
  { book with realizedPnl := book.realizedPnl + gained }

/-- `apply_fill`. The error is raised before anything is changed. -/
def applyFill (book : PairInventoryBook) (fill : PairFill) : PairInventoryBook × Except String Bool :=
  if fill.fillId ∈ book.seenFills then (book, .ok false)
  else
    let inventory := book.inventory fill.outcome
    match fill.side with
    | .buy => ((book.withInventory fill.outcome (inventory.buy fill)).seen fill, .ok true)
    | .sell =>
        if inventory.size < fill.size then
          (book, .error "sell fill exceeds tracked outcome inventory")
        else
          let netProceeds := fill.size * fill.price - fill.feeUsd
          (((book.withInventory fill.outcome (inventory.sell fill)).realized
            (netProceeds - inventory.releasedBasis fill)).seen fill, .ok true)

/-- `snapshot`. -/
def snapshot (book : PairInventoryBook) : PairInventorySnapshot :=
  let paired := min book.yes.size book.no.size
  let pairedCost := book.yes.averageCost * paired + book.no.averageCost * paired
  let directionalYes := max 0 (book.yes.size - paired)
  let directionalNo := max 0 (book.no.size - paired)
  { yesSize := book.yes.size
    noSize := book.no.size
    yesCostUsd := book.yes.costUsd
    noCostUsd := book.no.costUsd
    pairedSize := paired
    pairedCostUsd := pairedCost
    pairedLockedEdgeUsd := paired - pairedCost
    directionalYesSize := directionalYes
    directionalNoSize := directionalNo
    directionalCostUsd :=
      directionalYes * book.yes.averageCost + directionalNo * book.no.averageCost
    realizedPnlUsd := book.realizedPnl }

section Updates

variable {book : PairInventoryBook} {outcome other : Outcome} {inventory : OutcomeInventory}
  {fill : PairFill} {gained : ℚ}

@[simp] theorem inventory_withInventory : (book.withInventory outcome inventory).inventory other =
    if other = outcome then inventory else book.inventory other := by
  cases outcome <;> cases other <;> rfl

@[simp] theorem seenFills_withInventory :
    (book.withInventory outcome inventory).seenFills = book.seenFills := by
  cases outcome <;> rfl

@[simp] theorem realizedPnl_withInventory :
    (book.withInventory outcome inventory).realizedPnl = book.realizedPnl := by
  cases outcome <;> rfl

@[simp] theorem inventory_seen : (book.seen fill).inventory other = book.inventory other := by
  cases other <;> rfl

@[simp] theorem seenFills_seen : (book.seen fill).seenFills = insert fill.fillId book.seenFills := rfl

@[simp] theorem realizedPnl_seen : (book.seen fill).realizedPnl = book.realizedPnl := rfl

@[simp] theorem inventory_realized : (book.realized gained).inventory other = book.inventory other := by
  cases other <;> rfl

@[simp] theorem seenFills_realized : (book.realized gained).seenFills = book.seenFills := rfl

@[simp] theorem realizedPnl_realized : (book.realized gained).realizedPnl = book.realizedPnl + gained :=
  rfl

/-- The cost of both outcomes after a change of one. -/
theorem cost_withInventory :
    ((book.withInventory outcome inventory).inventory .yes).costUsd +
        ((book.withInventory outcome inventory).inventory .no).costUsd =
      (book.inventory .yes).costUsd + (book.inventory .no).costUsd +
        (inventory.costUsd - (book.inventory outcome).costUsd) := by
  cases outcome
  · simp
    ring
  · simp

end Updates

/-! ### What a call does -/

/-- What `apply_fill` can do. -/
inductive Applied (book : PairInventoryBook) (fill : PairFill) :
    PairInventoryBook → Except String Bool → Prop where
  | duplicate (known : fill.fillId ∈ book.seenFills) : Applied book fill book (.ok false)
  | bought (fresh : fill.fillId ∉ book.seenFills) (buys : fill.side = .buy) :
      Applied book fill
        ((book.withInventory fill.outcome ((book.inventory fill.outcome).buy fill)).seen fill)
        (.ok true)
  | rejected (fresh : fill.fillId ∉ book.seenFills) (sells : fill.side = .sell)
      (exceeds : (book.inventory fill.outcome).size < fill.size) :
      Applied book fill book (.error "sell fill exceeds tracked outcome inventory")
  | sold (fresh : fill.fillId ∉ book.seenFills) (sells : fill.side = .sell)
      (covered : fill.size ≤ (book.inventory fill.outcome).size) :
      Applied book fill
        (((book.withInventory fill.outcome ((book.inventory fill.outcome).sell fill)).realized
          (fill.size * fill.price - fill.feeUsd -
            (book.inventory fill.outcome).releasedBasis fill)).seen fill)
        (.ok true)

theorem applyFill_cases (book : PairInventoryBook) (fill : PairFill) :
    Applied book fill (book.applyFill fill).1 (book.applyFill fill).2 := by
  unfold applyFill
  split
  · rename_i known
    exact .duplicate known
  · rename_i fresh
    dsimp only
    split
    · rename_i buys
      exact .bought fresh buys
    · rename_i sells
      split
      · rename_i exceeds
        exact .rejected fresh sells exceeds
      · rename_i covered
        exact .sold fresh sells (not_lt.mp covered)

end PairInventoryBook

/-! ### Sequences of calls -/

/-- A call of `apply_fill` with its answer. -/
structure BookCall where
  fill : PairFill
  answer : Except String Bool

/-- The fill of a call that was accepted. -/
def BookCall.accepted? (call : BookCall) : Option PairFill :=
  match call.answer with
  | .ok true => some call.fill
  | _ => none

/-- The accepted fills, in order. -/
def acceptedFills (calls : List BookCall) : List PairFill :=
  calls.filterMap BookCall.accepted?

/-- The book takes a call. -/
def BookStep (before : PairInventoryBook) (call : BookCall) (after : PairInventoryBook) : Prop :=
  before.applyFill call.fill = (after, call.answer)

/-- Hand the fills to the book in turn. -/
def PairInventoryBook.feed (book : PairInventoryBook) : List PairFill → List BookCall × PairInventoryBook
  | [] => ([], book)
  | fill :: rest =>
      let later := (book.applyFill fill).1.feed rest
      (⟨fill, (book.applyFill fill).2⟩ :: later.1, later.2)

theorem PairInventoryBook.feed_run (book : PairInventoryBook) (fills : List PairFill) :
    Run BookStep book (book.feed fills).1 (book.feed fills).2 := by
  induction fills generalizing book with
  | nil => exact .refl book
  | cons fill rest ih => exact .cons rfl (ih _)

/-- The shares that fills of one side move in one outcome. -/
def movedShares (side : Side) (outcome : Outcome) (fills : List PairFill) : ℚ :=
  ((fills.filter fun fill => fill.side = side ∧ fill.outcome = outcome).map PairFill.size).sum

/-- What the BUYs paid, with fees. -/
def outlayUsd (fills : List PairFill) : ℚ :=
  ((fills.filter fun fill => fill.side = .buy).map fun fill =>
    fill.size * fill.price + fill.feeUsd).sum

/-- What the SELLs brought, net of fees. -/
def proceedsUsd (fills : List PairFill) : ℚ :=
  ((fills.filter fun fill => fill.side = .sell).map fun fill =>
    fill.size * fill.price - fill.feeUsd).sum

section Sums

variable {fills : List PairFill} {fill : PairFill} {side : Side} {outcome : Outcome}

theorem movedShares_append : movedShares side outcome (fills ++ [fill]) =
    movedShares side outcome fills +
      if fill.side = side ∧ fill.outcome = outcome then fill.size else 0 := by
  unfold movedShares
  rw [List.filter_append, List.map_append, List.sum_append]
  split <;> simp [*]

theorem outlayUsd_append : outlayUsd (fills ++ [fill]) = outlayUsd fills +
    if fill.side = .buy then fill.size * fill.price + fill.feeUsd else 0 := by
  unfold outlayUsd
  rw [List.filter_append, List.map_append, List.sum_append]
  split <;> simp [*]

theorem proceedsUsd_append : proceedsUsd (fills ++ [fill]) = proceedsUsd fills +
    if fill.side = .sell then fill.size * fill.price - fill.feeUsd else 0 := by
  unfold proceedsUsd
  rw [List.filter_append, List.map_append, List.sum_append]
  split <;> simp [*]

end Sums

/-- The books after these accepted fills. -/
structure Conserved (accepted : List PairFill) (book : PairInventoryBook) : Prop where
  distinct : (accepted.map PairFill.fillId).Nodup
  seen : ∀ fillId, fillId ∈ book.seenFills ↔ fillId ∈ accepted.map PairFill.fillId
  sound : ∀ outcome, (book.inventory outcome).Sound
  size : ∀ outcome, (book.inventory outcome).size =
    movedShares .buy outcome accepted - movedShares .sell outcome accepted
  money : (book.inventory .yes).costUsd + (book.inventory .no).costUsd - book.realizedPnl =
    outlayUsd accepted - proceedsUsd accepted

namespace Conserved

variable {accepted : List PairFill} {book : PairInventoryBook} {fill : PairFill}

theorem new : Conserved [] .new where
  distinct := List.nodup_nil
  seen := by simp [PairInventoryBook.new]
  sound := by
    intro outcome
    cases outcome <;> exact OutcomeInventory.flat_sound
  size := by
    intro outcome
    cases outcome <;> simp [PairInventoryBook.new, PairInventoryBook.inventory,
      OutcomeInventory.flat, movedShares]
  money := by
    simp [PairInventoryBook.new, PairInventoryBook.inventory, OutcomeInventory.flat, outlayUsd,
      proceedsUsd]

/-- A fill that was not seen is not among the accepted ones. -/
theorem fresh_distinct (conserved : Conserved accepted book) (fresh : fill.fillId ∉ book.seenFills) :
    ((accepted ++ [fill]).map PairFill.fillId).Nodup := by
  rw [List.map_append, List.nodup_append]
  refine ⟨conserved.distinct, List.nodup_singleton _, fun fillId known other same => ?_⟩
  rw [List.map_singleton, List.mem_singleton] at same
  rintro rfl
  exact fresh ((conserved.seen _).mpr (same ▸ known))

theorem bought (conserved : Conserved accepted book) (fresh : fill.fillId ∉ book.seenFills)
    (buys : fill.side = .buy) : Conserved (accepted ++ [fill])
      ((book.withInventory fill.outcome ((book.inventory fill.outcome).buy fill)).seen fill) := by
  refine ⟨conserved.fresh_distinct fresh, ?_, ?_, ?_, ?_⟩
  · intro fillId
    simp [conserved.seen, or_comm]
  · intro outcome
    simp only [PairInventoryBook.inventory_seen, PairInventoryBook.inventory_withInventory]
    split
    · exact (conserved.sound _).buy fill
    · exact conserved.sound outcome
  · intro outcome
    have before := conserved.size outcome
    simp only [PairInventoryBook.inventory_seen, PairInventoryBook.inventory_withInventory,
      movedShares_append, buys]
    by_cases here : outcome = fill.outcome
    · subst here
      simp [OutcomeInventory.buy, before]
      ring
    · simp [here, Ne.symm here, before]
  · have before := conserved.money
    simp only [PairInventoryBook.inventory_seen, PairInventoryBook.realizedPnl_seen,
      PairInventoryBook.cost_withInventory, PairInventoryBook.realizedPnl_withInventory,
      outlayUsd_append, proceedsUsd_append, buys]
    simp [OutcomeInventory.buy]
    linarith

theorem sold (conserved : Conserved accepted book) (fresh : fill.fillId ∉ book.seenFills)
    (sells : fill.side = .sell) (covered : fill.size ≤ (book.inventory fill.outcome).size) :
    Conserved (accepted ++ [fill])
      (((book.withInventory fill.outcome ((book.inventory fill.outcome).sell fill)).realized
        (fill.size * fill.price - fill.feeUsd -
          (book.inventory fill.outcome).releasedBasis fill)).seen fill) := by
  refine ⟨conserved.fresh_distinct fresh, ?_, ?_, ?_, ?_⟩
  · intro fillId
    simp [conserved.seen, or_comm]
  · intro outcome
    simp only [PairInventoryBook.inventory_seen, PairInventoryBook.inventory_realized,
      PairInventoryBook.inventory_withInventory]
    split
    · exact (conserved.sound _).sell covered
    · exact conserved.sound outcome
  · intro outcome
    have before := conserved.size outcome
    simp only [PairInventoryBook.inventory_seen, PairInventoryBook.inventory_realized,
      PairInventoryBook.inventory_withInventory, movedShares_append, sells]
    by_cases here : outcome = fill.outcome
    · subst here
      simp [OutcomeInventory.sell, before]
      ring
    · simp [here, Ne.symm here, before]
  · have before := conserved.money
    have released := (conserved.sound fill.outcome).sell_released covered
    simp only [PairInventoryBook.inventory_seen, PairInventoryBook.inventory_realized,
      PairInventoryBook.realizedPnl_seen, PairInventoryBook.realizedPnl_realized,
      PairInventoryBook.cost_withInventory, PairInventoryBook.realizedPnl_withInventory,
      outlayUsd_append, proceedsUsd_append, sells]
    simp
    linarith

end Conserved

theorem BookStep.applied {before after : PairInventoryBook} {call : BookCall}
    (step : BookStep before call after) : before.Applied call.fill after call.answer := by
  have cases := before.applyFill_cases call.fill
  unfold BookStep at step
  rw [step] at cases
  exact cases

theorem acceptedFills_append (done : List BookCall) (fill : PairFill) (answer : Except String Bool) :
    acceptedFills (done ++ [⟨fill, answer⟩]) =
      acceptedFills done ++ (BookCall.accepted? ⟨fill, answer⟩).toList := by
  unfold acceptedFills
  rw [List.filterMap_append, List.filterMap_cons]
  cases BookCall.accepted? ⟨fill, answer⟩ <;> rfl

/-- Each call keeps the account of the fills accepted so far. -/
theorem Conserved.step {done : List BookCall} {before after : PairInventoryBook} {call : BookCall}
    (conserved : Conserved (acceptedFills done) before) (step : BookStep before call after) :
    Conserved (acceptedFills (done ++ [call])) after := by
  have applied := step.applied
  obtain ⟨fill, answer⟩ := call
  dsimp only at applied
  rw [acceptedFills_append]
  cases applied with
  | duplicate _ => simpa [BookCall.accepted?] using conserved
  | bought fresh buys => exact conserved.bought fresh buys
  | rejected _ _ _ => simpa [BookCall.accepted?] using conserved
  | sold fresh sells covered => exact conserved.sold fresh sells covered

/-! ### Snapshots -/

/-- The split of the holdings into pairs and what is left over. -/
structure PairInventorySnapshot.Splits (snapshot : PairInventorySnapshot)
    (book : PairInventoryBook) : Prop where
  yes : snapshot.pairedSize + snapshot.directionalYesSize = (book.inventory .yes).size
  no : snapshot.pairedSize + snapshot.directionalNoSize = (book.inventory .no).size
  cost : snapshot.pairedCostUsd + snapshot.directionalCostUsd =
    (book.inventory .yes).costUsd + (book.inventory .no).costUsd

theorem PairInventoryBook.snapshot_valid {book : PairInventoryBook}
    (sound : ∀ outcome, (book.inventory outcome).Sound) : book.snapshot.Valid := by
  have yes := sound .yes
  have no := sound .no
  have paired : 0 ≤ min book.yes.size book.no.size := le_min yes.size_nonneg no.size_nonneg
  refine ⟨yes.size_nonneg, no.size_nonneg, yes.costUsd_nonneg, no.costUsd_nonneg, paired, ?_,
    le_max_left _ _, le_max_left _ _, ?_⟩
  · exact add_nonneg (mul_nonneg yes.averageCost_nonneg paired)
      (mul_nonneg no.averageCost_nonneg paired)
  · exact add_nonneg (mul_nonneg (le_max_left _ _) yes.averageCost_nonneg)
      (mul_nonneg (le_max_left _ _) no.averageCost_nonneg)

theorem PairInventoryBook.snapshot_splits {book : PairInventoryBook}
    (sound : ∀ outcome, (book.inventory outcome).Sound) : book.snapshot.Splits book := by
  have yes_left : max 0 (book.yes.size - min book.yes.size book.no.size) =
      book.yes.size - min book.yes.size book.no.size :=
    max_eq_right (sub_nonneg.mpr (min_le_left _ _))
  have no_left : max 0 (book.no.size - min book.yes.size book.no.size) =
      book.no.size - min book.yes.size book.no.size :=
    max_eq_right (sub_nonneg.mpr (min_le_right _ _))
  have yes_cost : book.yes.averageCost * book.yes.size = book.yes.costUsd :=
    (sound .yes).averageCost_mul_size
  have no_cost : book.no.averageCost * book.no.size = book.no.costUsd :=
    (sound .no).averageCost_mul_size
  refine ⟨?_, ?_, ?_⟩
  · change min _ _ + max 0 _ = book.yes.size
    rw [yes_left]
    ring
  · change min _ _ + max 0 _ = book.no.size
    rw [no_left]
    ring
  · change book.yes.averageCost * min book.yes.size book.no.size +
        book.no.averageCost * min book.yes.size book.no.size +
        (max 0 _ * _ + max 0 _ * _) = book.yes.costUsd + book.no.costUsd
    rw [yes_left, no_left]
    linarith

/-! ### Conservation -/

/-- The laws of the book after a sequence of calls. -/
structure PairBookLaws (calls : List BookCall) (book : PairInventoryBook) : Prop where
  distinct : ((acceptedFills calls).map PairFill.fillId).Nodup
  size : ∀ outcome, (book.inventory outcome).size =
    movedShares .buy outcome (acceptedFills calls) - movedShares .sell outcome (acceptedFills calls)
  size_nonneg : ∀ outcome, 0 ≤ (book.inventory outcome).size
  flat : ∀ outcome, (book.inventory outcome).size = 0 → (book.inventory outcome).costUsd = 0
  money : (book.inventory .yes).costUsd + (book.inventory .no).costUsd - book.realizedPnl =
    outlayUsd (acceptedFills calls) - proceedsUsd (acceptedFills calls)
  splits : book.snapshot.Splits book
  valid : book.snapshot.Valid
  rejected : ∀ fill message after, BookStep book ⟨fill, .error message⟩ after → after = book

/-- Money and shares are conserved over every sequence of calls. -/
theorem pairBook_conserves {calls : List BookCall} {book : PairInventoryBook}
    (run : Run BookStep .new calls book) : PairBookLaws calls book := by
  have kept : ∀ done before call after, Conserved (acceptedFills done) before →
      BookStep before call after → Conserved (acceptedFills (done ++ [call])) after :=
    fun _ _ _ _ conserved step => conserved.step step
  have conserved : Conserved (acceptedFills calls) book :=
    run.invariant_history (P := fun done book => Conserved (acceptedFills done) book) kept .new
  refine
    { distinct := conserved.distinct
      size := conserved.size
      size_nonneg := fun outcome => (conserved.sound outcome).size_nonneg
      flat := fun outcome => (conserved.sound outcome).flat
      money := conserved.money
      splits := PairInventoryBook.snapshot_splits conserved.sound
      valid := PairInventoryBook.snapshot_valid conserved.sound
      rejected := fun fill message after step => ?_ }
  have applied : book.Applied fill after (.error message) := step.applied
  cases applied
  rfl

/-- Shares of YES at 45 cents. -/
def yesFill (fillId : String) (named : fillId ≠ "") (side : Side) (size : ℚ) (size_pos : 0 < size) :
    PairFill :=
  ⟨fillId, .yes, side, size, 9 / 20, 1 / 100, .taker, named, size_pos, by norm_num, by norm_num,
    by norm_num⟩

/-- A BUY, the same fill again, a SELL of too much, and a SELL of a part. -/
def mixedFills : List PairFill :=
  [yesFill "bought" (by decide) .buy (3 / 2) (by norm_num),
    yesFill "bought" (by decide) .buy (3 / 2) (by norm_num),
    yesFill "sold" (by decide) .sell 2 (by norm_num),
    yesFill "sold" (by decide) .sell 1 (by norm_num)]

theorem pairBook_conserves_mixed :
    PairBookLaws (PairInventoryBook.new.feed mixedFills).1 (PairInventoryBook.new.feed mixedFills).2 :=
  pairBook_conserves (PairInventoryBook.new.feed_run mixedFills)

/-- The second and the third of these calls change nothing. -/
example : (acceptedFills (PairInventoryBook.new.feed mixedFills).1).map PairFill.size = [3 / 2, 1] := by
  decide +kernel

end Polybot
