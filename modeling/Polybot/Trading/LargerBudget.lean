import Polybot.Trading.Sizing
import Polybot.Trading.Sweep

/-!
Two runs of the entry sizing.

A larger budget buys at least as many shares of a book, up to at least the same limit
(`sweepAsks_mono`): the two sweeps take the same of every level until the smaller one ends.
So a BUY that is valued higher is no smaller (`buyCandidate_mono`).
-/

namespace Polybot

open Checked

/-! ### The sweep -/

section Sweep

variable {power : DecimalPower} {budget larger : ℚ} {fees : FeeSchedule} {levels : List BookLevel}
  {level : BookLevel} {sweep next : BuySweep}

/-- As many shares, up to a limit that is no lower. -/
structure BuySweep.NoMore (sweep next : BuySweep) : Prop where
  shares : sweep.shares ≤ next.shares
  limit : ∀ price ∈ sweep.lastPrice, ∃ higher ∈ next.lastPrice, price ≤ higher

theorem BuySweep.NoMore.refl (sweep : BuySweep) : sweep.NoMore sweep :=
  ⟨le_rfl, fun price last => ⟨price, last, le_rfl⟩⟩

theorem BuySweep.NoMore.trans {last : BuySweep} (first : sweep.NoMore next)
    (second : next.NoMore last) : sweep.NoMore last where
  shares := first.shares.trans second.shares
  limit := by
    intro price here
    obtain ⟨higher, there, le⟩ := first.limit price here
    obtain ⟨highest, found, further⟩ := second.limit higher there
    exact ⟨highest, found, le.trans further⟩

/-- What the loop takes of a level. -/
def amountAt (power : DecimalPower) (budget : ℚ) (fees : FeeSchedule) (level : BookLevel)
    (sweep : BuySweep) : ℚ :=
  quantizeDown (min level.size (affordableShares power budget fees level.price - sweep.shares))
    sizeStep

/-- The sums after `amount` shares of a level. -/
def BuySweep.taking (sweep : BuySweep) (power : DecimalPower) (fees : FeeSchedule)
    (level : BookLevel) (amount : ℚ) : BuySweep where
  shares := sweep.shares + amount
  baseCost := sweep.baseCost + amount * level.price
  feeCost := sweep.feeCost + amount * estimatedFeePerShare power level.price fees
  lastPrice := some level.price

theorem sweepAsks_cons : sweepAsks power budget fees (level :: levels) sweep =
    if amountAt power budget fees level sweep ≤ 0 then sweep
    else if affordableShares power budget fees level.price ≤
        sweep.shares + amountAt power budget fees level sweep then
      sweep.taking power fees level (amountAt power budget fees level sweep)
    else sweepAsks power budget fees levels
      (sweep.taking power fees level (amountAt power budget fees level sweep)) :=
  rfl

theorem BuySweep.NoMore.taking {amount more : ℚ} (le : amount ≤ more) :
    (sweep.taking power fees level amount).NoMore (sweep.taking power fees level more) :=
  ⟨add_le_add_right le _, fun price last => ⟨price, last, le_rfl⟩⟩

/-- The loop only adds to what it has. -/
theorem sweepAsks_grows (sorted : levels.Pairwise fun a b => a.price ≤ b.price)
    (dearer : ∀ price ∈ sweep.lastPrice, ∀ level ∈ levels, price ≤ level.price) :
    sweep.NoMore (sweepAsks power budget fees levels sweep) := by
  induction levels generalizing sweep with
  | nil => exact .refl _
  | cons level rest ih =>
      obtain ⟨first, later⟩ := List.pairwise_cons.mp sorted
      rw [sweepAsks_cons]
      split
      · exact .refl _
      rename_i takes
      have grown : sweep.NoMore
          (sweep.taking power fees level (amountAt power budget fees level sweep)) :=
        ⟨le_add_of_nonneg_right (not_le.mp takes).le, fun price last =>
          ⟨level.price, rfl, dearer price last level List.mem_cons_self⟩⟩
      split
      · exact grown
      · refine grown.trans (ih later ?_)
        rintro _ ⟨⟩ other member
        exact first other member

theorem affordableShares_mono (le : budget ≤ larger) (price_pos : 0 < level.price) :
    affordableShares power budget fees level.price ≤
      affordableShares power larger fees level.price :=
  quantizeDown_mono (div_le_div_of_nonneg_right le (maximumBuyCost_pos one_pos price_pos).le)

/-- Where the smaller budget goes past a level, it has taken all whole steps of it. -/
theorem amountAt_passed (whole : ∃ count : ℤ, sweep.shares = count * sizeStep)
    (passed : sweep.shares + amountAt power budget fees level sweep <
      affordableShares power budget fees level.price) :
    level.size < affordableShares power budget fees level.price - sweep.shares := by
  by_contra capped
  obtain ⟨count, held⟩ := whole
  have left : ∃ count : ℤ,
      affordableShares power budget fees level.price - sweep.shares = count * sizeStep :=
    ⟨_, by rw [held, affordableShares, quantizeDown, ← sub_mul, ← Int.cast_sub]⟩
  obtain ⟨steps, room⟩ := left
  rw [amountAt, min_eq_right (not_lt.mp capped), room, quantizeDown_whole, ← room] at passed
  linarith

/-- **A larger budget buys no less**, and up to no lower a limit. -/
theorem sweepAsks_mono (le : budget ≤ larger) (valid : ∀ level ∈ levels, level.Valid)
    (sorted : levels.Pairwise fun a b => a.price ≤ b.price)
    (whole : ∃ count : ℤ, sweep.shares = count * sizeStep)
    (dearer : ∀ price ∈ sweep.lastPrice, ∀ level ∈ levels, price ≤ level.price) :
    (sweepAsks power budget fees levels sweep).NoMore
      (sweepAsks power larger fees levels sweep) := by
  induction levels generalizing sweep with
  | nil => exact .refl _
  | cons level rest ih =>
      obtain ⟨first, later⟩ := List.pairwise_cons.mp sorted
      have afford : affordableShares power budget fees level.price ≤
          affordableShares power larger fees level.price :=
        affordableShares_mono le (valid level List.mem_cons_self).price_pos
      have amounts : amountAt power budget fees level sweep ≤ amountAt power larger fees level sweep :=
        quantizeDown_mono (min_le_min_left _ (sub_le_sub_right afford _))
      have dearer' (amount : ℚ) : ∀ price ∈ (sweep.taking power fees level amount).lastPrice,
          ∀ other ∈ rest, price ≤ other.price := by
        rintro _ ⟨⟩ other member
        exact first other member
      by_cases takes : amountAt power budget fees level sweep ≤ 0
      · rw [sweepAsks_cons, if_pos takes]
        exact sweepAsks_grows sorted dearer
      have takes' := fun none => takes (amounts.trans none)
      rw [sweepAsks_cons, if_neg takes, sweepAsks_cons, if_neg takes']
      by_cases ends : affordableShares power budget fees level.price ≤
          sweep.shares + amountAt power budget fees level sweep
      · rw [if_pos ends]
        refine (BuySweep.NoMore.taking amounts).trans ?_
        split
        · exact .refl _
        · exact sweepAsks_grows later (dearer' _)
      · -- Both take the whole level, and go on from the same sums.
        have passed := amountAt_passed whole (not_le.mp ends)
        have same : amountAt power larger fees level sweep =
            amountAt power budget fees level sweep := by
          rw [amountAt, amountAt, min_eq_left passed.le,
            min_eq_left (passed.le.trans (sub_le_sub_right afford _))]
        rw [if_neg ends, same, if_neg fun other => ends (afford.trans other)]
        exact ih (fun other member => valid other (List.mem_cons_of_mem _ member)) later
          (whole_add_quantizeDown whole) (dearer' _)

end Sweep

/-! ### The candidates -/

namespace ValueStrategy

variable {strategy : ValueStrategy} {market : MarketSpec} {forecast valued : Forecast}
  {book : TimedBook} {outcome : Outcome} {probability higher bestAsk : ℚ}
  {portfolio : PortfolioState} {candidate larger : TradeCandidate}

theorem entryBudget_mono (known : book.bestAsk = some bestAsk) (le : probability ≤ higher)
    (positive : 0 < strategy.entryBudget market probability bestAsk portfolio) :
    strategy.entryBudget market probability bestAsk portfolio ≤
      strategy.entryBudget market higher bestAsk portfolio := by
  refine budget_mono positive ?_
  exact div_le_div_of_nonneg_right (by linarith) (by linarith [(bestAsk_bounds known).2])

/-- The size, the limit and the commitment of a BUY are no larger. -/
structure SmallerEntry (candidate larger : TradeCandidate) : Prop where
  size : candidate.size ≤ larger.size
  limitPrice : candidate.limitPrice ≤ larger.limitPrice
  maxCommitmentUsd : ∃ commitment ∈ candidate.maxCommitmentUsd,
    ∃ more ∈ larger.maxCommitmentUsd, commitment ≤ more

theorem sweepBook_mono {budget more : ℚ} (le : budget ≤ more) :
    (strategy.sweepBook market book budget).NoMore (strategy.sweepBook market book more) := by
  refine sweepAsks_mono le ?_ (askOrder_sorted book.asks) ⟨0, by simp⟩ nofun
  exact fun level member => book.valid.asks level (mem_askOrder.mp member)

/-- A BUY of the same book that is valued higher is no smaller. -/
theorem buyCandidate_mono (le : probability ≤ higher)
    (proposed : strategy.buyCandidate market forecast book outcome probability portfolio =
      some candidate)
    (other : strategy.buyCandidate market valued book outcome higher portfolio = some larger) :
    SmallerEntry candidate larger := by
  obtain ⟨bestAsk, taken, found, safe, entered, allowed⟩ := buyCandidate_entered proposed
  obtain ⟨_, taken', found', safe', entered', -⟩ := buyCandidate_entered other
  obtain rfl := Option.some.inj (found.symm.trans found')
  have limited := safe.lastPrice.trans entered.limitPrice
  have limited' := safe'.lastPrice.trans entered'.limitPrice
  have limit_pos := ((strategy.sweepBook_bounded market book _).limit _ limited).1
  have limit_lt_one := ((strategy.sweepBook_bounded market book _).limit _ limited').2.1
  have positive : 0 < strategy.entryBudget market probability bestAsk portfolio :=
    (maximumBuyCost_pos entered.size_pos limit_pos).trans_le allowed
  have noMore : (strategy.sweepBook market book
      (strategy.entryBudget market probability bestAsk portfolio)).NoMore
        (strategy.sweepBook market book (strategy.entryBudget market higher bestAsk portfolio)) :=
    sweepBook_mono (entryBudget_mono found le positive)
  have size : candidate.size ≤ larger.size := by
    rw [entered.size, entered'.size, ← safe.shares, ← safe'.shares]
    exact noMore.shares
  have limit : candidate.limitPrice ≤ larger.limitPrice := by
    obtain ⟨price, last, below⟩ := noMore.limit _ limited
    cases limited'.symm.trans last
    exact below
  refine ⟨size, limit, _, entered.maxCommitmentUsd, _, entered'.maxCommitmentUsd, ?_⟩
  exact maximumBuyCost_mono size entered'.size_pos.le limit_pos limit limit_lt_one

end ValueStrategy

end Polybot
