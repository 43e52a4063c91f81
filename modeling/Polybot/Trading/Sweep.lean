import Mathlib.Algebra.BigOperators.Ring.List
import Mathlib.Algebra.Order.BigOperators.Group.List
import Polybot.Trading.Strategy

/-!
What a sweep takes of a book (`_sweep_book` and the sell loops of
`polybot/strategy.py`).

The loops keep sums. A list of `Taking`s says of which levels these are the sums: the
front of the sorted book, with no more of a level than it offers.

* `SweptAsks`: the invariant of the BUY loop. Crossing into a level reprices all
  shares, so what is affordable at the last level bounds the total.
* `sweepBook_safe`: the sweep of every book is covered by the budget, and so is
  every candidate that comes out of it.
-/

namespace Polybot

open Checked

/-! ### Takings -/

/-- Shares taken of a level. -/
structure Taking where
  level : BookLevel
  amount : ℚ

def totalShares (taken : List Taking) : ℚ :=
  (taken.map Taking.amount).sum

/-- The sum of what the shares cost, or yield, at their own levels. -/
def totalWorth (perShare : ℚ → ℚ) (taken : List Taking) : ℚ :=
  (taken.map fun taking => taking.amount * perShare taking.level.price).sum

/-- The price of the last level taken. -/
def lastTaken (taken : List Taking) : Option ℚ :=
  taken.getLast?.map fun taking => taking.level.price

/-- The takings are from the front of the levels, no more of each than it offers. -/
structure TakenFrom (levels : List BookLevel) (taken : List Taking) : Prop where
  front : taken.map Taking.level <+: levels
  each : ∀ taking ∈ taken, 0 < taking.amount ∧ taking.amount ≤ taking.level.size

section Takings

variable {perShare : ℚ → ℚ} {taking : Taking} {taken : List Taking} {levels : List BookLevel}
  {level : BookLevel}

@[simp] theorem totalShares_nil : totalShares [] = 0 := rfl

@[simp] theorem totalShares_cons : totalShares (taking :: taken) = taking.amount + totalShares taken :=
  List.sum_cons

@[simp] theorem totalWorth_nil : totalWorth perShare [] = 0 := rfl

@[simp] theorem totalWorth_cons : totalWorth perShare (taking :: taken) =
    taking.amount * perShare taking.level.price + totalWorth perShare taken :=
  List.sum_cons

@[simp] theorem lastTaken_nil : lastTaken [] = none := rfl

theorem lastTaken_cons : lastTaken (taking :: taken) =
    some ((lastTaken taken).getD taking.level.price) := by
  unfold lastTaken
  rw [List.getLast?_cons]
  cases taken.getLast? <;> rfl

theorem TakenFrom.nil : TakenFrom levels [] where
  front := List.nil_prefix
  each := by simp

theorem TakenFrom.cons (taken_from : TakenFrom levels taken) {amount : ℚ} (positive : 0 < amount)
    (offered : amount ≤ level.size) : TakenFrom (level :: levels) (⟨level, amount⟩ :: taken) where
  front := (List.prefix_cons_inj level).mpr taken_from.front
  each := by
    simp only [List.mem_cons, forall_eq_or_imp]
    exact ⟨⟨positive, offered⟩, taken_from.each⟩

theorem exists_last {last : ℚ} (limited : last ∈ lastTaken taken) :
    ∃ taking, taking.level.price = last ∧ taken = taken.dropLast ++ [taking] := by
  obtain ⟨taking, final, price⟩ := Option.map_eq_some_iff.mp limited
  exact ⟨taking, price, (List.dropLast_append_getLast? taking final).symm⟩

/-- In a sorted book, no level taken lies beyond the last one, and no level left lies
before it. -/
theorem TakenFrom.around_last {r : ℚ → ℚ → Prop} (refl : ∀ price, r price price)
    (sorted : levels.Pairwise fun a b => r a.price b.price) (taken_from : TakenFrom levels taken)
    {last : ℚ} (limited : last ∈ lastTaken taken) :
    ∃ rest, levels = taken.map Taking.level ++ rest ∧
      (∀ taking ∈ taken, r taking.level.price last) ∧ ∀ level ∈ rest, r last level.price := by
  obtain ⟨rest, rfl⟩ := taken_from.front
  obtain ⟨final, rfl, split⟩ := exists_last limited
  rw [List.pairwise_append] at sorted
  obtain ⟨within, -, across⟩ := sorted
  refine ⟨rest, rfl, fun taking member => ?_, fun level member => ?_⟩
  · rw [split, List.map_append, List.pairwise_append] at within
    rw [split, List.mem_append] at member
    rcases member with before | final
    · exact within.2.2 _ (List.mem_map_of_mem before) _ (by simp)
    · rw [List.mem_singleton.mp final]
      exact refl _
  · refine across _ (List.mem_map_of_mem ?_) level member
    rw [split]
    simp

/-- No more than the levels offer. -/
theorem TakenFrom.totalShares_le (taken_from : TakenFrom levels taken) :
    totalShares taken ≤ ((taken.map Taking.level).map BookLevel.size).sum := by
  unfold totalShares
  rw [List.map_map]
  exact List.sum_le_sum fun taking member => (taken_from.each taking member).2

end Takings

/-! ### The loop over the asks -/

section Asks

variable {power : DecimalPower} {budget : ℚ} {fees : FeeSchedule} {levels : List BookLevel}
  {level : BookLevel} {taken : List Taking}

/-- The sums after further takings. -/
def BuySweep.add (sweep : BuySweep) (power : DecimalPower) (fees : FeeSchedule)
    (taken : List Taking) : BuySweep where
  shares := sweep.shares + totalShares taken
  baseCost := sweep.baseCost + totalWorth id taken
  feeCost := sweep.feeCost + totalWorth (estimatedFeePerShare power · fees) taken
  lastPrice := (lastTaken taken).or sweep.lastPrice

@[simp] theorem BuySweep.add_nil (sweep : BuySweep) : sweep.add power fees [] = sweep := by
  simp [BuySweep.add]

theorem BuySweep.add_cons (sweep : BuySweep) (taking : Taking) :
    sweep.add power fees (taking :: taken) =
      BuySweep.add
        { shares := sweep.shares + taking.amount
          baseCost := sweep.baseCost + taking.amount * taking.level.price
          feeCost := sweep.feeCost +
            taking.amount * estimatedFeePerShare power taking.level.price fees
          lastPrice := some taking.level.price } power fees taken := by
  unfold BuySweep.add
  rw [lastTaken_cons]
  cases lastTaken taken <;> simp [add_assoc]

/-- The shares that the budget buys at a limit. -/
def affordableShares (power : DecimalPower) (budget : ℚ) (fees : FeeSchedule) (limitPrice : ℚ) : ℚ :=
  quantizeDown (budget / maximumBuyCost power 1 limitPrice fees) sizeStep

/-- What the loop takes, after the shares it has: whole steps, of all levels but the
last as many as they offer, and in total what the budget buys at the last level. -/
structure SweptAsks (power : DecimalPower) (budget : ℚ) (fees : FeeSchedule)
    (levels : List BookLevel) (before : ℚ) (taken : List Taking) : Prop extends
    TakenFrom levels taken where
  whole : ∀ taking ∈ taken, ∃ count : ℤ, taking.amount = count * sizeStep
  used_up : ∀ taking ∈ taken.dropLast, taking.level.size - taking.amount < sizeStep
  affordable : ∀ last ∈ lastTaken taken,
    before + totalShares taken ≤ affordableShares power budget fees last

theorem SweptAsks.nil {before : ℚ} : SweptAsks power budget fees levels before [] where
  toTakenFrom := .nil
  whole := by simp
  used_up := by simp
  affordable := by simp

/-- The last level of the loop. -/
theorem SweptAsks.single {before amount : ℚ} (positive : 0 < amount) (offered : amount ≤ level.size)
    (whole : ∃ count : ℤ, amount = count * sizeStep)
    (affordable : before + amount ≤ affordableShares power budget fees level.price) :
    SweptAsks power budget fees (level :: levels) before [⟨level, amount⟩] where
  toTakenFrom := TakenFrom.nil.cons positive offered
  whole := by simpa using whole
  used_up := by simp
  affordable := by simpa [lastTaken] using affordable

/-- A level that the loop goes past. -/
theorem SweptAsks.cons {before amount : ℚ}
    (swept : SweptAsks power budget fees levels (before + amount) taken)
    (positive : 0 < amount) (offered : amount ≤ level.size)
    (whole : ∃ count : ℤ, amount = count * sizeStep) (used_up : level.size - amount < sizeStep)
    (affordable : before + amount ≤ affordableShares power budget fees level.price) :
    SweptAsks power budget fees (level :: levels) before (⟨level, amount⟩ :: taken) := by
  refine ⟨swept.toTakenFrom.cons positive offered, ?_, ?_, ?_⟩
  · simp only [List.mem_cons, forall_eq_or_imp]
    exact ⟨whole, swept.whole⟩
  · cases taken with
    | nil => simp
    | cons next rest =>
        rw [List.dropLast_cons_of_ne_nil (List.cons_ne_nil next rest)]
        simp only [List.mem_cons, forall_eq_or_imp]
        exact ⟨used_up, swept.used_up⟩
  · have further := swept.affordable
    rw [lastTaken_cons, totalShares_cons, ← add_assoc]
    rintro _ ⟨⟩
    cases last : lastTaken taken with
    | some price => exact further price last
    | none =>
        have nothing : taken = [] := by
          simpa [lastTaken] using last
        subst nothing
        simpa using affordable

theorem whole_add_quantizeDown {shares value : ℚ} (whole : ∃ count : ℤ, shares = count * sizeStep) :
    ∃ count : ℤ, shares + quantizeDown value sizeStep = count * sizeStep := by
  obtain ⟨count, rfl⟩ := whole
  exact ⟨count + floorDiv value sizeStep, by unfold quantizeDown; push_cast; ring⟩

/-- The loop goes past a level only after it has taken all whole steps of it. -/
theorem level_used_up {shares maximumShares : ℚ} (valid : level.Valid)
    (whole : ∃ count : ℤ, shares = count * sizeStep)
    (maximum : ∃ count : ℤ, maximumShares = count * sizeStep)
    (more : shares + quantizeDown (min level.size (maximumShares - shares)) sizeStep <
      maximumShares) :
    level.size - quantizeDown (min level.size (maximumShares - shares)) sizeStep < sizeStep := by
  rcases le_or_gt level.size (maximumShares - shares) with offered | room
  · rw [min_eq_left offered]
    exact sub_quantizeDown_lt valid.size_pos.le
  · obtain ⟨count, rfl⟩ := whole
    obtain ⟨limit, rfl⟩ := maximum
    rw [min_eq_right room.le, ← sub_mul, ← Int.cast_sub, quantizeDown_whole] at more
    push_cast at more
    linarith

theorem sweepAsks_swept (valid : ∀ level ∈ levels, level.Valid) {sweep : BuySweep}
    (whole : ∃ count : ℤ, sweep.shares = count * sizeStep) :
    ∃ taken, SweptAsks power budget fees levels sweep.shares taken ∧
      sweepAsks power budget fees levels sweep = sweep.add power fees taken := by
  induction levels generalizing sweep with
  | nil => exact ⟨[], .nil, by rw [BuySweep.add_nil]; rfl⟩
  | cons level rest ih =>
      have here := valid level List.mem_cons_self
      have others : ∀ other ∈ rest, other.Valid := fun other member =>
        valid other (List.mem_cons_of_mem _ member)
      unfold sweepAsks
      dsimp only
      set maximumShares := quantizeDown (budget / maximumBuyCost power 1 level.price fees) sizeStep
      set amount := quantizeDown (min level.size (maximumShares - sweep.shares)) sizeStep
      split
      · exact ⟨[], .nil, by rw [BuySweep.add_nil]⟩
      · rename_i takes
        rw [not_le] at takes
        have room : 0 ≤ min level.size (maximumShares - sweep.shares) :=
          not_lt.mp fun negative => absurd takes (not_lt.mpr (quantizeDown_nonpos negative.le))
        have cut : amount ≤ min level.size (maximumShares - sweep.shares) := quantizeDown_le room
        have offered := cut.trans (min_le_left _ _)
        have affordable : sweep.shares + amount ≤ maximumShares := by
          have left := cut.trans (min_le_right _ _)
          linarith
        split
        · refine ⟨[⟨level, amount⟩], .single takes offered ⟨_, rfl⟩ affordable, ?_⟩
          rw [BuySweep.add_cons, BuySweep.add_nil]
        · rename_i continues
          rw [not_le] at continues
          obtain ⟨taken, swept, sums⟩ := @ih others
            ⟨sweep.shares + amount, sweep.baseCost + amount * level.price,
              sweep.feeCost + amount * estimatedFeePerShare power level.price fees,
              some level.price⟩ (whole_add_quantizeDown whole)
          refine ⟨⟨level, amount⟩ :: taken, swept.cons takes offered ⟨_, rfl⟩
            (level_used_up here whole ⟨_, rfl⟩ continues) affordable, ?_⟩
          rw [BuySweep.add_cons, sums]

end Asks

/-! ### The budget covers the sweep -/

/-- The depth of a book at or below a price. -/
def depthWithin (asks : List BookLevel) (price : ℚ) : ℚ :=
  ((asks.filter (·.price ≤ price)).map BookLevel.size).sum

/-- A sweep of these asks, with the takings that it sums up, and what holds at its last
price. -/
structure SweepSafe (power : DecimalPower) (fees : FeeSchedule) (asks : List BookLevel)
    (budget : ℚ) (sweep : BuySweep) (taken : List Taking) : Prop where
  taken_from : TakenFrom (askOrder asks) taken
  shares : sweep.shares = totalShares taken
  baseCost : sweep.baseCost = totalWorth id taken
  feeCost : sweep.feeCost = totalWorth (estimatedFeePerShare power · fees) taken
  lastPrice : sweep.lastPrice = lastTaken taken
  whole : ∃ count : ℤ, sweep.shares = count * sizeStep
  covered : ∀ last ∈ sweep.lastPrice, sweep.shares * maximumBuyCost power 1 last fees ≤ budget
  depth : ∀ last ∈ sweep.lastPrice, sweep.shares ≤ depthWithin asks last
  within : ∀ last ∈ sweep.lastPrice, ∀ taking ∈ taken, taking.level.price ≤ last
  cheaper : ∀ last ∈ sweep.lastPrice,
    (taken.filter (·.level.price < last)).map Taking.level = (askOrder asks).filter (·.price < last)
  used_up : ∀ last ∈ sweep.lastPrice, ∀ taking ∈ taken, taking.level.price < last →
    taking.level.size - taking.amount < sizeStep

section Safe

variable {power : DecimalPower} {fees : FeeSchedule} {asks : List BookLevel} {budget : ℚ}
  {taken : List Taking}

theorem depthWithin_askOrder (price : ℚ) : depthWithin (askOrder asks) price = depthWithin asks price :=
  (((List.perm_insertionSort (fun a b : BookLevel => a.price ≤ b.price) asks).filter _).map _).sum_eq

/-- The levels below the last price come first, and all of them are taken. -/
theorem cheaper_taken {levels rest : List BookLevel} {last : ℚ}
    (split : levels = taken.map Taking.level ++ rest) (beyond : ∀ level ∈ rest, last ≤ level.price) :
    (taken.filter (·.level.price < last)).map Taking.level = levels.filter (·.price < last) := by
  have none_left : rest.filter (·.price < last) = [] := by
    rw [List.filter_eq_nil_iff]
    intro level member
    simpa using beyond level member
  rw [split, List.filter_append, none_left, List.append_nil, List.filter_map]
  rfl

/-- The takings within the last price are part of the depth there. -/
theorem TakenFrom.le_depth {levels : List BookLevel} (valid : ∀ level ∈ levels, level.Valid)
    (taken_from : TakenFrom levels taken) {last : ℚ}
    (within : ∀ taking ∈ taken, taking.level.price ≤ last) :
    totalShares taken ≤ depthWithin levels last := by
  refine taken_from.totalShares_le.trans ?_
  have all_within : (taken.map Taking.level).filter (·.price ≤ last) = taken.map Taking.level := by
    rw [List.filter_eq_self]
    intro level member
    obtain ⟨taking, taken_there, rfl⟩ := List.mem_map.mp member
    simpa using within taking taken_there
  have sub : (taken.map Taking.level).Sublist (levels.filter (·.price ≤ last)) := by
    rw [← all_within]
    exact taken_from.front.sublist.filter _
  refine (sub.map BookLevel.size).sum_le_sum fun size member => ?_
  obtain ⟨level, offered, rfl⟩ := List.mem_map.mp member
  exact (valid level (List.mem_of_mem_filter offered)).size_pos.le

theorem whole_totalShares (whole : ∀ taking ∈ taken, ∃ count : ℤ, taking.amount = count * sizeStep) :
    ∃ count : ℤ, totalShares taken = count * sizeStep := by
  induction taken with
  | nil => exact ⟨0, by simp⟩
  | cons taking rest ih =>
      obtain ⟨here, later⟩ := List.forall_mem_cons.mp whole
      obtain ⟨count, amount⟩ := here
      obtain ⟨others, total⟩ := ih later
      exact ⟨count + others, by rw [totalShares_cons, amount, total]; push_cast; ring⟩

/-- The budget pays for what it affords. -/
theorem affordableShares_covered {shares limitPrice : ℚ} (nonneg : 0 ≤ budget)
    (limit_pos : 0 < limitPrice) (affordable : shares ≤ affordableShares power budget fees limitPrice) :
    shares * maximumBuyCost power 1 limitPrice fees ≤ budget := by
  have cost : 0 < maximumBuyCost power 1 limitPrice fees := maximumBuyCost_pos one_pos limit_pos
  rw [← le_div_iff₀ cost]
  exact affordable.trans (quantizeDown_le (div_nonneg nonneg cost.le))

theorem SweptAsks.safe (valid : ∀ level ∈ asks, level.Valid) (nonneg : 0 ≤ budget)
    (swept : SweptAsks power budget fees (askOrder asks) 0 taken) :
    SweepSafe power fees asks budget (BuySweep.add ⟨0, 0, 0, none⟩ power fees taken) taken := by
  have lastPrice : (BuySweep.add ⟨0, 0, 0, none⟩ power fees taken).lastPrice = lastTaken taken :=
    Option.or_none
  have shares : (BuySweep.add ⟨0, 0, 0, none⟩ power fees taken).shares = totalShares taken :=
    zero_add _
  have sorted_valid : ∀ level ∈ askOrder asks, level.Valid :=
    fun level member => valid level (mem_askOrder.mp member)
  have around := fun last limited => swept.toTakenFrom.around_last le_refl
    (askOrder_sorted asks) (show last ∈ lastTaken taken from limited)
  have within : ∀ last ∈ lastTaken taken, ∀ taking ∈ taken, taking.level.price ≤ last := by
    intro last limited
    obtain ⟨-, -, before, -⟩ := around last limited
    exact before
  refine
    { taken_from := swept.toTakenFrom
      shares := shares
      baseCost := zero_add _
      feeCost := zero_add _
      lastPrice := lastPrice
      whole := ?_
      covered := ?_
      depth := ?_
      within := ?_
      cheaper := ?_
      used_up := ?_ }
  · rw [shares]
    exact whole_totalShares swept.whole
  · intro last limited
    rw [lastPrice] at limited
    have affordable := swept.affordable last limited
    obtain ⟨taking, rfl, split⟩ := exists_last limited
    have offered : taking.level ∈ askOrder asks := swept.front.subset (by rw [split]; simp)
    rw [shares]
    rw [zero_add] at affordable
    exact affordableShares_covered nonneg (sorted_valid _ offered).price_pos affordable
  · intro last limited
    rw [lastPrice] at limited
    rw [shares, ← depthWithin_askOrder]
    exact swept.toTakenFrom.le_depth sorted_valid (within last limited)
  · rw [lastPrice]
    exact within
  · intro last limited
    rw [lastPrice] at limited
    obtain ⟨rest, split, -, beyond⟩ := around last limited
    exact cheaper_taken split beyond
  · intro last limited taking member below
    rw [lastPrice] at limited
    obtain ⟨final, rfl, split⟩ := exists_last limited
    rw [split, List.mem_append, List.mem_singleton] at member
    rcases member with before | rfl
    · exact swept.used_up taking before
    · exact absurd below (lt_irrefl _)

end Safe

/-! ### The loops over the bids -/

section Bids

variable {power : DecimalPower} {fees : FeeSchedule} {levels : List BookLevel} {breaks : Bool}
  {sweep : SellSweep}

/-- The sums after further takings. -/
def SellSweep.add (sweep : SellSweep) (power : DecimalPower) (fees : FeeSchedule)
    (taken : List Taking) : SellSweep where
  filled := sweep.filled + totalShares taken
  gross := sweep.gross + totalWorth id taken
  fee := sweep.fee + totalWorth (estimatedFeePerShare power · fees) taken
  remaining := sweep.remaining - totalShares taken
  limitPrice := (lastTaken taken).or sweep.limitPrice

@[simp] theorem SellSweep.add_nil : sweep.add power fees [] = sweep := by
  simp [SellSweep.add]

theorem SellSweep.add_cons (taking : Taking) (taken : List Taking) :
    sweep.add power fees (taking :: taken) =
      SellSweep.add
        { filled := sweep.filled + taking.amount
          gross := sweep.gross + taking.amount * taking.level.price
          fee := sweep.fee + taking.amount * estimatedFeePerShare power taking.level.price fees
          remaining := sweep.remaining - taking.amount
          limitPrice := some taking.level.price } power fees taken := by
  unfold SellSweep.add
  rw [lastTaken_cons]
  cases lastTaken taken <;> simp [add_assoc, sub_sub]

/-- Both loops do nothing more when nothing remains. -/
theorem sweepBids_done (done : sweep.remaining ≤ 0) :
    sweepBids power fees breaks levels sweep = sweep := by
  induction levels with
  | nil => rfl
  | cons level rest ih =>
      unfold sweepBids
      rw [if_pos ((min_le_right _ _).trans done), ih]
      split <;> rfl

theorem sweepBids_taken (valid : ∀ level ∈ levels, level.Valid) (left : 0 ≤ sweep.remaining) :
    ∃ taken, TakenFrom levels taken ∧ totalShares taken ≤ sweep.remaining ∧
      sweepBids power fees breaks levels sweep = sweep.add power fees taken := by
  induction levels generalizing sweep with
  | nil => exact ⟨[], .nil, by simpa using left, by rw [SellSweep.add_nil]; rfl⟩
  | cons level rest ih =>
      rcases le_or_gt sweep.remaining 0 with done | more
      · exact ⟨[], .nil, by simpa using left, by rw [SellSweep.add_nil, sweepBids_done done]⟩
      · have here := valid level List.mem_cons_self
        have others : ∀ other ∈ rest, other.Valid := fun other member =>
          valid other (List.mem_cons_of_mem _ member)
        have takes : 0 < min level.size sweep.remaining := lt_min here.size_pos more
        have rest_left : 0 ≤ sweep.remaining - min level.size sweep.remaining :=
          sub_nonneg.mpr (min_le_right _ _)
        unfold sweepBids
        rw [if_neg (not_le.mpr takes)]
        dsimp only
        split
        · refine ⟨[⟨level, min level.size sweep.remaining⟩],
            TakenFrom.nil.cons takes (min_le_left _ _), ?_, ?_⟩
          · simp
          · rw [SellSweep.add_cons, SellSweep.add_nil]
        · obtain ⟨taken, taken_from, within, sums⟩ := @ih
            ⟨sweep.filled + min level.size sweep.remaining,
              sweep.gross + min level.size sweep.remaining * level.price,
              sweep.fee + min level.size sweep.remaining *
                estimatedFeePerShare power level.price fees,
              sweep.remaining - min level.size sweep.remaining, some level.price⟩ others rest_left
          refine ⟨⟨level, min level.size sweep.remaining⟩ :: taken,
            taken_from.cons takes (min_le_left _ _), ?_, ?_⟩
          · rw [totalShares_cons]
            exact le_sub_iff_add_le'.mp within
          · rw [SellSweep.add_cons, sums]

/-- The cut to the size grid keeps the price of a share. -/
theorem SellSweep.quantized_price (positive : 0 < sweep.quantized.filled) :
    sweep.quantized.filled ≤ sweep.filled ∧
      sweep.quantized.gross / sweep.quantized.filled = sweep.gross / sweep.filled := by
  have grid : sweep.quantized.filled = quantizeDown sweep.filled sizeStep := by
    unfold SellSweep.quantized
    dsimp only
    split <;> rfl
  rw [grid] at positive ⊢
  have sold : 0 < sweep.filled :=
    not_le.mp fun nonpos => absurd positive (not_lt.mpr (quantizeDown_nonpos nonpos))
  refine ⟨quantizeDown_le sold.le, ?_⟩
  unfold SellSweep.quantized
  dsimp only
  split
  · change sweep.gross * (quantizeDown sweep.filled sizeStep / sweep.filled) / _ = _
    field_simp
  · rename_i whole
    have same : quantizeDown sweep.filled sizeStep = sweep.filled :=
      le_antisymm (quantizeDown_le sold.le) (not_lt.mp fun cut => whole ⟨sold, cut⟩)
    rw [same]

end Bids

/-! ### Sweeps and candidates -/

/-- A candidate of either side with its price from these takings. -/
structure Swept (levels : List BookLevel) (candidate : TradeCandidate) (taken : List Taking) :
    Prop where
  taken_from : TakenFrom levels taken
  limitPrice : lastTaken taken = some candidate.limitPrice
  size_pos : 0 < candidate.size
  size_le : candidate.size ≤ totalShares taken
  expectedPrice : candidate.expectedPrice = totalWorth id taken / totalShares taken

namespace ValueStrategy

variable {strategy : ValueStrategy} {market : MarketSpec} {forecast : Forecast} {book : TimedBook}
  {outcome : Outcome} {probability budget : ℚ} {portfolio : PortfolioState}
  {candidate : TradeCandidate}

theorem sweepBook_swept (nonneg : 0 ≤ budget) : ∃ taken, SweepSafe strategy.power
    market.feeSchedule book.asks budget (strategy.sweepBook market book budget) taken := by
  have valid : ∀ level ∈ askOrder book.asks, level.Valid :=
    fun level member => book.valid.asks level (mem_askOrder.mp member)
  have whole : ∃ count : ℤ, (BuySweep.mk 0 0 0 none).shares = count * sizeStep := ⟨0, by simp⟩
  have run : ∃ taken, SweptAsks strategy.power budget market.feeSchedule (askOrder book.asks) 0 taken ∧
      strategy.sweepBook market book budget =
        BuySweep.add ⟨0, 0, 0, none⟩ strategy.power market.feeSchedule taken :=
    sweepAsks_swept valid whole
  obtain ⟨taken, swept, sums⟩ := run
  rw [sums]
  exact ⟨taken, swept.safe book.valid.asks nonneg⟩

/-- The budget is one of the limits, and the least of them. -/
theorem budget_le_limit {eventKey bucket : String} {kellyShare limit : ℚ}
    (member : limit ∈ strategy.limits eventKey bucket kellyShare portfolio) :
    strategy.budget eventKey bucket kellyShare portfolio ≤ limit := by
  unfold budget
  cases least : (strategy.limits eventKey bucket kellyShare portfolio).min? with
  | none =>
      rw [List.min?_eq_none_iff.mp least] at member
      cases member
  | some value => exact (List.min?_eq_some_iff.mp least).2 limit member

/-- A positive whole number of steps is far above the smallest divisor. -/
theorem step_le_of_whole {shares : ℚ} (whole : ∃ count : ℤ, shares = count * sizeStep)
    (positive : 0 < shares) : 1 / 100000000 ≤ shares := by
  obtain ⟨count, rfl⟩ := whole
  have counted : 0 < count := by
    exact_mod_cast (mul_pos_iff_of_pos_right sizeStep.2).mp positive
  have one_le : (1 : ℚ) ≤ count := by exact_mod_cast counted
  have step : (sizeStep : ℚ) = 1 / 100 := rfl
  rw [step]
  linarith

/-- A candidate with the sums of these takings. -/
structure Entered (strategy : ValueStrategy) (market : MarketSpec) (candidate : TradeCandidate)
    (taken : List Taking) : Prop where
  side : candidate.side = .buy
  limitPrice : lastTaken taken = some candidate.limitPrice
  size : candidate.size = totalShares taken
  size_pos : 0 < candidate.size
  expectedPrice : candidate.expectedPrice = totalWorth id taken / candidate.size
  notionalUsd : candidate.notionalUsd = totalWorth id taken +
    totalWorth (estimatedFeePerShare strategy.power · market.feeSchedule) taken
  maxCommitmentUsd : candidate.maxCommitmentUsd = some
    (maximumBuyCost strategy.power candidate.size candidate.limitPrice market.feeSchedule)

/-- The sweep behind a BUY. -/
theorem buyCandidate_entered
    (proposed : strategy.buyCandidate market forecast book outcome probability portfolio =
      some candidate) :
    ∃ bestAsk taken, book.bestAsk = some bestAsk ∧
      SweepSafe strategy.power market.feeSchedule book.asks
        (strategy.entryBudget market probability bestAsk portfolio)
        (strategy.sweepBook market book (strategy.entryBudget market probability bestAsk portfolio))
        taken ∧
      strategy.Entered market candidate taken ∧
      maximumBuyCost strategy.power candidate.size candidate.limitPrice market.feeSchedule ≤
        strategy.entryBudget market probability bestAsk portfolio := by
  unfold buyCandidate at proposed
  simp only [option_bind_eq_some_iff, exists_guard_eq_some_iff] at proposed
  obtain ⟨bestAsk, found, -, positive, ⟨-, some_shares, -⟩, limitPrice, limited,
    ⟨-, commitment⟩, made⟩ := proposed
  obtain ⟨taken, safe⟩ : ∃ taken, SweepSafe strategy.power market.feeSchedule book.asks
      (strategy.entryBudget market probability bestAsk portfolio) (strategy.sweepBook market book
        (strategy.entryBudget market probability bestAsk portfolio)) taken :=
    sweepBook_swept positive.le
  refine ⟨bestAsk, taken, found, safe, ?_, ?_⟩
  · cases made
    obtain ⟨count, whole⟩ := safe.whole
    have same : quantizeDown (strategy.sweepBook market book (strategy.entryBudget market
        probability bestAsk portfolio)).shares sizeStep = totalShares taken := by
      rw [whole, quantizeDown_whole, ← whole, safe.shares]
    rw [same] at some_shares
    have divisor : max (totalShares taken) (1 / 100000000) = totalShares taken :=
      max_eq_left (step_le_of_whole (safe.shares ▸ safe.whole) some_shares)
    refine ⟨rfl, safe.lastPrice ▸ limited, same, ?_, ?_, ?_, rfl⟩
    · change 0 < quantizeDown _ sizeStep
      rw [same]
      exact some_shares
    · change _ / max (quantizeDown _ sizeStep) (1 / 100000000) = _ / quantizeDown _ sizeStep
      rw [same, divisor, safe.baseCost]
    · change _ + _ = _
      rw [safe.baseCost, safe.feeCost]
  · cases made
    exact commitment

/-- A BUY between what its sweep pays and what the limits allow. -/
structure EntryCovered (strategy : ValueStrategy) (market : MarketSpec) (portfolio : PortfolioState)
    (probability bestAsk : ℚ) (candidate : TradeCandidate) (taken : List Taking) : Prop where
  limitPrice : lastTaken taken = some candidate.limitPrice
  highest : ∀ taking ∈ taken, taking.level.price ≤ candidate.limitPrice
  expectedPrice : candidate.expectedPrice ≤ candidate.limitPrice
  commitment : ∃ commitment, candidate.maxCommitmentUsd = some commitment ∧
    candidate.notionalUsd ≤ commitment ∧
    ∀ limit ∈ strategy.limits market.eventKey market.bucket
      ((probability - bestAsk) / (1 - bestAsk)) portfolio, commitment ≤ limit

theorem Entered.covered {bestAsk : ℚ} {taken : List Taking}
    (entered : strategy.Entered market candidate taken)
    (safe : SweepSafe strategy.power market.feeSchedule book.asks budget
      (strategy.sweepBook market book budget) taken)
    (allowed : maximumBuyCost strategy.power candidate.size candidate.limitPrice market.feeSchedule ≤
      strategy.entryBudget market probability bestAsk portfolio) :
    EntryCovered strategy market portfolio probability bestAsk candidate taken := by
  have bounded := strategy.sweepBook_bounded market book budget
  have limited : (strategy.sweepBook market book budget).lastPrice = some candidate.limitPrice :=
    safe.lastPrice.trans entered.limitPrice
  obtain ⟨-, -, base, -⟩ := bounded.limit _ limited
  have cost := bounded.cost_le limited
  rw [safe.shares, ← entered.size] at base cost
  rw [safe.baseCost] at base cost
  rw [safe.feeCost, ← entered.notionalUsd] at cost
  refine ⟨entered.limitPrice, safe.within _ limited, ?_, _, entered.maxCommitmentUsd, cost,
    fun limit member => allowed.trans (budget_le_limit member)⟩
  rw [entered.expectedPrice, div_le_iff₀ entered.size_pos, mul_comm]
  exact base

/-- The sweep of every book is covered by its budget, and every BUY by its limits. -/
theorem sweepBook_safe (strategy : ValueStrategy) (market : MarketSpec) (book : TimedBook) :
    (∀ budget, 0 < budget → ∃ taken, SweepSafe strategy.power market.feeSchedule book.asks budget
      (strategy.sweepBook market book budget) taken) ∧
    ∀ forecast outcome probability portfolio candidate,
      strategy.buyCandidate market forecast book outcome probability portfolio = some candidate →
        ∃ bestAsk taken, book.bestAsk = some bestAsk ∧
          SweepSafe strategy.power market.feeSchedule book.asks
            (strategy.entryBudget market probability bestAsk portfolio)
            (strategy.sweepBook market book
              (strategy.entryBudget market probability bestAsk portfolio)) taken ∧
          EntryCovered strategy market portfolio probability bestAsk candidate taken := by
  refine ⟨fun budget positive => sweepBook_swept positive.le, ?_⟩
  intro forecast outcome probability portfolio candidate proposed
  obtain ⟨bestAsk, taken, found, safe, entered, allowed⟩ := buyCandidate_entered proposed
  exact ⟨bestAsk, taken, found, safe, entered.covered safe allowed⟩

/-! ### Exits -/

theorem Entered.swept {taken : List Taking} (entered : strategy.Entered market candidate taken)
    (taken_from : TakenFrom (askOrder book.asks) taken) :
    Swept (askOrder book.asks) candidate taken :=
  ⟨taken_from, entered.limitPrice, entered.size_pos, entered.size.le,
    entered.size ▸ entered.expectedPrice⟩

theorem bestBid_pos {bestBid : ℚ} (found : book.bestBid = some bestBid) : 0 < bestBid := by
  obtain ⟨level, member, rfl⟩ := List.mem_map.mp (List.max?_mem found)
  exact (book.valid.bids level member).price_pos

/-- An exit offers no more than the position. -/
theorem exitShares_bounds {positionSize bestBid shareCap : ℚ} (positive : 0 < positionSize)
    (found : book.bestBid = some bestBid)
    (offered : strategy.exitShares market book positionSize bestBid = some shareCap) :
    0 ≤ shareCap ∧ shareCap ≤ positionSize := by
  have nonneg : 0 ≤ min positionSize (strategy.settings.maxOrderUsd / bestBid) :=
    le_min positive.le (div_nonneg strategy.settings.maxOrderUsd_pos.le (bestBid_pos found).le)
  unfold exitShares at offered
  dsimp only at offered
  split at offered
  · cases offered
  · cases offered
    exact ⟨quantizeDown_nonneg nonneg, (quantizeDown_le nonneg).trans (min_le_left _ _)⟩

/-- What an exit sells: no more than the position, at the average of its takings. -/
structure Exited (book : TimedBook) (positions : Dict String ℚ) (candidate : TradeCandidate)
    (taken : List Taking) : Prop where
  swept : Swept (bidOrder book.bids) candidate taken
  side : candidate.side = .sell
  held : candidate.size ≤ amount positions book.tokenId

theorem exitSweep_taken {breaks : Bool} {shareCap limitPrice : ℚ} (nonneg : 0 ≤ shareCap)
    (some_shares : 0 < (strategy.exitSweep market book breaks shareCap).filled)
    (limited : (strategy.exitSweep market book breaks shareCap).limitPrice = some limitPrice) :
    ∃ taken, TakenFrom (bidOrder book.bids) taken ∧ lastTaken taken = some limitPrice ∧
      totalShares taken ≤ shareCap ∧
      (strategy.exitSweep market book breaks shareCap).filled ≤ totalShares taken ∧
      (strategy.exitSweep market book breaks shareCap).gross /
        (strategy.exitSweep market book breaks shareCap).filled =
          totalWorth id taken / totalShares taken := by
  have valid : ∀ level ∈ bidOrder book.bids, level.Valid :=
    fun level member => book.valid.bids level (mem_bidOrder.mp member)
  have left : 0 ≤ (SellSweep.mk 0 0 0 shareCap none).remaining := nonneg
  have run : ∃ taken, TakenFrom (bidOrder book.bids) taken ∧ totalShares taken ≤ shareCap ∧
      sweepBids strategy.power market.feeSchedule breaks (bidOrder book.bids)
        ⟨0, 0, 0, shareCap, none⟩ =
          SellSweep.add ⟨0, 0, 0, shareCap, none⟩ strategy.power market.feeSchedule taken :=
    sweepBids_taken valid left
  obtain ⟨taken, taken_from, within, sums⟩ := run
  have swept : strategy.exitSweep market book breaks shareCap = (SellSweep.add
      ⟨0, 0, 0, shareCap, none⟩ strategy.power market.feeSchedule taken).quantized := by
    unfold exitSweep
    rw [sums]
  rw [swept] at some_shares limited ⊢
  obtain ⟨cut, price⟩ := SellSweep.quantized_price some_shares
  have filled : (SellSweep.add ⟨0, 0, 0, shareCap, none⟩ strategy.power market.feeSchedule
      taken).filled = totalShares taken := zero_add _
  have gross : (SellSweep.add ⟨0, 0, 0, shareCap, none⟩ strategy.power market.feeSchedule
      taken).gross = totalWorth id taken := zero_add _
  have last : (SellSweep.add ⟨0, 0, 0, shareCap, none⟩ strategy.power market.feeSchedule
      taken).quantized.limitPrice = lastTaken taken := by
    unfold SellSweep.quantized
    dsimp only
    split <;> exact Option.or_none
  rw [filled] at cut price
  rw [gross] at price
  exact ⟨taken, taken_from, last ▸ limited, within, cut, price⟩

theorem sellCandidate_exited
    (proposed : strategy.sellCandidate market forecast book outcome probability portfolio =
      some candidate) : ∃ taken, Exited book portfolio.tokenPositions candidate taken := by
  unfold sellCandidate at proposed
  simp only [option_bind_eq_some_iff, exists_guard_eq_some_iff] at proposed
  obtain ⟨held, bestBid, found, -, shareCap, offered, minimum, limitPrice, limited, -, made⟩ :=
    proposed
  obtain ⟨nonneg, cap⟩ := exitShares_bounds held found offered
  have some_shares := (lt_max_of_lt_left market.minimumOrderSize_pos).trans_le minimum
  obtain ⟨taken, taken_from, last, within, cut, price⟩ :=
    exitSweep_taken nonneg some_shares limited
  cases made
  exact ⟨taken, ⟨taken_from, last, some_shares, cut, price⟩, rfl, (cut.trans within).trans cap⟩

theorem riskExitCandidate_exited {now : Instant}
    (proposed : strategy.riskExitCandidate market book outcome portfolio now = some candidate) :
    ∃ taken, Exited book portfolio.tokenPositions candidate taken := by
  unfold riskExitCandidate at proposed
  simp only [option_bind_eq_some_iff, exists_guard_eq_some_iff] at proposed
  obtain ⟨held, bestBid, found, shareCap, offered, minimum, limitPrice, limited, -, made⟩ :=
    proposed
  obtain ⟨nonneg, cap⟩ := exitShares_bounds held found offered
  have some_shares := (lt_max_of_lt_left market.minimumOrderSize_pos).trans_le minimum
  obtain ⟨taken, taken_from, last, within, cut, price⟩ :=
    exitSweep_taken nonneg some_shares limited
  cases made
  exact ⟨taken, ⟨taken_from, last, some_shares, cut, price⟩, rfl, (cut.trans within).trans cap⟩

end ValueStrategy

end Polybot
