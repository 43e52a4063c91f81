import Polybot.Paper.Conservation
import Polybot.Trading.Sweep

/-!
Paper fills against the depth that they consume.

A fill walks the book it is given, and its cash is the notional of the intent, which was
estimated on the book that the intent was sized on. `paper_fills_at_estimate` compares the
two: a fill is no better than its depth where the estimate for each share is no better than
the average price of the levels consumed, as it is on every book when the notional is no
better than the limit.
-/

namespace Polybot

/-! ### The levels of a walk -/

/-- What the walk takes of each level. -/
def consumedLevels (beyond : ℚ → Bool) : List BookLevel → ℚ → List Taking
  | [], _ => []
  | level :: rest, wanted =>
      if beyond level.price ∨ wanted ≤ 0 then []
      else
        ⟨level, min level.size wanted⟩ ::
          consumedLevels beyond rest (wanted - min level.size wanted)

/-- The levels that the fill of an intent consumes. -/
def PaperIntent.consumed (intent : PaperIntent) (book : OrderBookSnapshot) : List Taking :=
  match intent.side with
  | .buy => consumedLevels (fun price => intent.price < price) (askOrder book.asks) intent.size
  | .sell => consumedLevels (fun price => price < intent.price) (bidOrder book.bids) intent.size

section Walk

variable {beyond : ℚ → Bool} {levels : List BookLevel} {wanted : ℚ}

/-- The accumulators are the sums over the levels. -/
theorem fillLevels_consumed (beyond : ℚ → Bool) (levels : List BookLevel) (fill : PaperFill) :
    fillLevels beyond levels fill =
      { filled := fill.filled + totalShares (consumedLevels beyond levels fill.remaining)
        cost := fill.cost + totalWorth id (consumedLevels beyond levels fill.remaining)
        remaining := fill.remaining -
          totalShares (consumedLevels beyond levels fill.remaining) } := by
  induction levels generalizing fill with
  | nil => simp [fillLevels, consumedLevels]
  | cons level rest ih =>
      unfold fillLevels consumedLevels
      split
      · simp
      · dsimp only
        rw [ih]
        dsimp only
        rw [totalShares_cons, totalWorth_cons, id_eq, add_assoc, add_assoc, sub_sub]

/-- The walk takes of the front of the levels. -/
theorem consumedLevels_taken (valid : ∀ level ∈ levels, level.Valid) :
    TakenFrom levels (consumedLevels beyond levels wanted) := by
  induction levels generalizing wanted with
  | nil => exact ⟨List.nil_prefix, fun _ => nofun⟩
  | cons level rest ih =>
      obtain ⟨here, later⟩ := List.forall_mem_cons.mp valid
      unfold consumedLevels
      split
      · exact ⟨List.nil_prefix, fun _ => nofun⟩
      · rename_i continues
        rw [not_or, not_le] at continues
        obtain ⟨front, each⟩ : TakenFrom rest
            (consumedLevels beyond rest (wanted - min level.size wanted)) := ih later
        exact ⟨List.cons_prefix_cons.mpr ⟨rfl, front⟩, List.forall_mem_cons.mpr
          ⟨⟨lt_min here.size_pos continues.2, min_le_left _ _⟩, each⟩⟩

/-- The walk stays within the limit. -/
theorem consumedLevels_within :
    ∀ taking ∈ consumedLevels beyond levels wanted, beyond taking.level.price = false := by
  induction levels generalizing wanted with
  | nil => exact fun _ => nofun
  | cons level rest ih =>
      unfold consumedLevels
      split
      · exact fun _ => nofun
      · rename_i continues
        exact List.forall_mem_cons.mpr ⟨Bool.eq_false_iff.mpr fun far => continues (.inl far), ih⟩

end Walk

/-! ### The levels of a fill -/

section Fill

variable {intent : PaperIntent} {book : OrderBookSnapshot}

theorem PaperIntent.fill_consumed (intent : PaperIntent) (book : OrderBookSnapshot) :
    (intent.fill book).filled = totalShares (intent.consumed book) ∧
      (intent.fill book).cost = totalWorth id (intent.consumed book) := by
  unfold PaperIntent.fill PaperIntent.consumed
  cases intent.side with
  | buy => simp [fillLevels_consumed]
  | sell => simp [fillLevels_consumed]

/-- A BUY consumes asks up to its limit. -/
theorem PaperIntent.consumed_buy (valid : book.Valid) (buys : intent.side = .buy) :
    TakenFrom (askOrder book.asks) (intent.consumed book) ∧
      ∀ taking ∈ intent.consumed book, taking.level.price ≤ intent.price := by
  unfold PaperIntent.consumed
  rw [buys]
  refine ⟨consumedLevels_taken fun level member => valid.asks level (mem_askOrder.mp member),
    fun taking member => ?_⟩
  simpa using consumedLevels_within taking member

/-- A SELL consumes bids down to its limit. -/
theorem PaperIntent.consumed_sell (valid : book.Valid) (sells : intent.side = .sell) :
    TakenFrom (bidOrder book.bids) (intent.consumed book) ∧
      ∀ taking ∈ intent.consumed book, intent.price ≤ taking.level.price := by
  unfold PaperIntent.consumed
  rw [sells]
  refine ⟨consumedLevels_taken fun level member => valid.bids level (mem_bidOrder.mp member),
    fun taking member => ?_⟩
  simpa using consumedLevels_within taking member

/-- Takings within a limit cost no more than the limit. -/
theorem totalWorth_le {taken : List Taking} {limit : ℚ}
    (each : ∀ taking ∈ taken, 0 < taking.amount ∧ taking.amount ≤ taking.level.size)
    (within : ∀ taking ∈ taken, taking.level.price ≤ limit) :
    totalWorth id taken ≤ totalShares taken * limit := by
  induction taken with
  | nil => simp
  | cons taking rest ih =>
      obtain ⟨here, later⟩ := List.forall_mem_cons.mp each
      obtain ⟨first, others⟩ := List.forall_mem_cons.mp within
      rw [totalWorth_cons, totalShares_cons, add_mul]
      exact add_le_add (mul_le_mul_of_nonneg_left first here.1.le) (ih later others)

/-- Takings beyond a limit yield no less than the limit. -/
theorem le_totalWorth {taken : List Taking} {limit : ℚ}
    (each : ∀ taking ∈ taken, 0 < taking.amount ∧ taking.amount ≤ taking.level.size)
    (within : ∀ taking ∈ taken, limit ≤ taking.level.price) :
    totalShares taken * limit ≤ totalWorth id taken := by
  induction taken with
  | nil => simp
  | cons taking rest ih =>
      obtain ⟨here, later⟩ := List.forall_mem_cons.mp each
      obtain ⟨first, others⟩ := List.forall_mem_cons.mp within
      rw [totalWorth_cons, totalShares_cons, add_mul]
      exact add_le_add (mul_le_mul_of_nonneg_left first here.1.le) (ih later others)

end Fill

/-! ### Cash against depth -/

/-- A fill is booked at the estimate of its intent, whose part of the notional is compared
with the worth of the levels consumed. -/
structure BookedAtEstimate (before : PaperBroker) (intent : PaperIntent) (book : OrderBookSnapshot)
    (answer : PaperBroker × ExecutionResult) : Prop where
  filledSize : answer.2.filledSize = totalShares (intent.consumed book)
  bought : intent.side = .buy →
    before.cash - answer.1.cash =
        intent.notionalUsd * (totalShares (intent.consumed book) / intent.size) ∧
      (totalWorth id (intent.consumed book) ≤ before.cash - answer.1.cash ↔
        totalWorth id (intent.consumed book) / totalShares (intent.consumed book) ≤
          intent.notionalUsd / intent.size) ∧
      (intent.size * intent.price ≤ intent.notionalUsd →
        totalWorth id (intent.consumed book) ≤ before.cash - answer.1.cash)
  sold : intent.side = .sell →
    answer.1.cash - before.cash =
        intent.notionalUsd * (totalShares (intent.consumed book) / intent.size) ∧
      (answer.1.cash - before.cash ≤ totalWorth id (intent.consumed book) ↔
        intent.notionalUsd / intent.size ≤
          totalWorth id (intent.consumed book) / totalShares (intent.consumed book)) ∧
      (intent.notionalUsd ≤ intent.size * intent.price →
        answer.1.cash - before.cash ≤ totalWorth id (intent.consumed book))

section Booked

variable {broker : PaperBroker} {intent : PaperIntent} {book : OrderBookSnapshot}

/-- A part of an estimate, for each share. -/
theorem le_part_iff {estimate size filled depth : ℚ} (positive : 0 < filled) :
    depth ≤ estimate * (filled / size) ↔ depth / filled ≤ estimate / size := by
  rw [div_le_iff₀ positive, mul_div_assoc', div_mul_eq_mul_div]

theorem part_le_iff {estimate size filled depth : ℚ} (positive : 0 < filled) :
    estimate * (filled / size) ≤ depth ↔ estimate / size ≤ depth / filled := by
  rw [le_div_iff₀ positive, mul_div_assoc', div_mul_eq_mul_div]

/-- Every paper fill is booked at the estimate of its intent. -/
theorem paper_fills_at_estimate (valid : book.Valid)
    (filled : (broker.submit intent book).2.status = .paperFilled) :
    BookedAtEstimate broker intent book (broker.submit intent book) := by
  have submitted := broker.submit_cases intent book
  obtain ⟨shares, -⟩ := intent.fill_consumed book
  generalize broker.submit intent book = answer at filled submitted ⊢
  obtain ⟨after, result⟩ := answer
  cases submitted with
  | duplicate seen => cases filled
  | refused fresh message => cases filled
  | bought fresh buys fills partial_fill affordable =>
      obtain ⟨taken, within⟩ := intent.consumed_buy valid buys
      rw [shares] at fills partial_fill ⊢
      refine ⟨rfl, fun _ => ?_, fun sells => absurd (buys.symm.trans sells) (by decide)⟩
      unfold PaperBroker.noteIntent
      dsimp only
      rw [sub_sub_cancel]
      refine ⟨rfl, le_part_iff fills, fun covers => ?_⟩
      have size_pos : 0 < intent.size := fills.trans_le partial_fill
      rw [le_part_iff fills]
      calc totalWorth id (intent.consumed book) / totalShares (intent.consumed book)
          ≤ intent.price := (div_le_iff₀' fills).mpr (totalWorth_le taken.each within)
        _ ≤ intent.notionalUsd / intent.size := (le_div_iff₀' size_pos).mpr covers
  | sold fresh sells fills partial_fill covered =>
      obtain ⟨taken, within⟩ := intent.consumed_sell valid sells
      rw [shares] at fills partial_fill ⊢
      refine ⟨rfl, fun buys => absurd (sells.symm.trans buys) (by decide), fun _ => ?_⟩
      unfold PaperBroker.noteIntent
      dsimp only
      rw [add_sub_cancel_left]
      refine ⟨rfl, part_le_iff fills, fun covers => ?_⟩
      have size_pos : 0 < intent.size := fills.trans_le partial_fill
      rw [part_le_iff fills]
      calc intent.notionalUsd / intent.size ≤ intent.price := (div_le_iff₀' size_pos).mpr covers
        _ ≤ totalWorth id (intent.consumed book) / totalShares (intent.consumed book) :=
          (le_div_iff₀' fills).mpr (le_totalWorth taken.each within)

end Booked

theorem paperBook_valid : paperBook.Valid := by
  constructor
  · intro level member
    obtain rfl := List.mem_singleton.mp member
    constructor <;> norm_num
  · intro level member
    obtain rfl := List.mem_singleton.mp member
    constructor <;> norm_num

/-- A partial BUY at its limit, whose notional covers the limit. -/
theorem paperBuy_booked :
    (PaperBroker.submit (.new 100 0) paperBuy paperBook).2.status = .paperFilled ∧
      BookedAtEstimate (.new 100 0) paperBuy paperBook
        (PaperBroker.submit (.new 100 0) paperBuy paperBook) :=
  ⟨by decide +kernel, paper_fills_at_estimate paperBook_valid (by decide +kernel)⟩

/-- A BUY that was sized at 2/5 a share and finds the asks at its limit. -/
def staleBuy : PaperIntent :=
  { paperBuy with size := 4, notionalUsd := 8 / 5 }

/-- A SELL that was sized at 4/5 a share and finds the bids at 7/10. -/
def staleSell : PaperIntent :=
  { paperSell with notionalUsd := 8 / 5 }

/-- The BUY is charged less than the depth that it consumes, and the SELL is paid more. -/
theorem stale_estimates_beat_depth :
    let bought := PaperBroker.submit (.new 100 0) staleBuy paperBook
    let sold := bought.1.submit staleSell paperBook
    (bought.2.status = .paperFilled ∧ 0 ≤ staleBuy.notionalUsd ∧
        100 - bought.1.cash < totalWorth id (staleBuy.consumed paperBook)) ∧
      sold.2.status = .paperFilled ∧
        totalWorth id (staleSell.consumed paperBook) < sold.1.cash - bought.1.cash := by
  decide +kernel

end Polybot
