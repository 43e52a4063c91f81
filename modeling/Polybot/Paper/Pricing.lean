import Polybot.Collections.Greedy
import Polybot.Paper.Caps
import Polybot.Trading.Sweep

/-!
The strategy and the paper broker price one book.

The strategy walks the book three ways: a sweep under a budget, and two exits that
are cut to the size grid afterwards. The broker walks it a fourth way, greedily up to
the limit. `fillLevels_greedy` is that walk as a greedy choice from the front of the
book, which no takings of the strategy beat; `paper_fills_candidate` is the agreement.
-/

namespace Polybot

open Greedy

/-! ### The broker's walk -/

section Walk

variable {beyond : ℚ → Bool} {levels front rest : List BookLevel} {fill : PaperFill}

theorem fillLevels_done (done : fill.remaining ≤ 0) : fillLevels beyond levels fill = fill := by
  cases levels with
  | nil => rfl
  | cons level rest => rw [fillLevels, if_pos (.inr done)]

/-- A walk that the front of the book can serve takes greedily from the front. -/
theorem fillLevels_greedy (valid : ∀ level ∈ front, level.Valid)
    (reached : ∀ level ∈ front, beyond level.price = false) (nonneg : 0 ≤ fill.remaining)
    (enough : fill.remaining ≤ capacity BookLevel.size front) :
    fillLevels beyond (front ++ rest) fill =
      { filled := fill.filled + fill.remaining
        cost := fill.cost +
          worth BookLevel.price front (greedy BookLevel.size front fill.remaining)
        remaining := 0 } := by
  induction front generalizing fill with
  | nil =>
      have done : fill.remaining = 0 := le_antisymm enough nonneg
      rw [fillLevels_done done.le, worth_nil, done, add_zero, add_zero, ← done]
  | cons level levels ih =>
      obtain ⟨here, others⟩ := List.forall_mem_cons.mp valid
      obtain ⟨within, later⟩ := List.forall_mem_cons.mp reached
      have sizes : ∀ other ∈ level :: levels, 0 ≤ other.size :=
        fun other member => (valid other member).size_pos.le
      rcases nonneg.eq_or_lt with done | more
      · rw [fillLevels_done done.symm.le, ← done, worth_greedy_zero sizes, add_zero, add_zero, done]
      · have total : 0 ≤ capacity BookLevel.size levels :=
          List.sum_nonneg (by simpa using fun other member => (others other member).size_pos.le)
        have left : 0 ≤ fill.remaining - min level.size fill.remaining :=
          sub_nonneg.mpr (min_le_right _ _)
        have continues : ¬ (beyond level.price = true ∨ fill.remaining ≤ 0) := by
          simp [within, more]
        rw [List.cons_append, fillLevels, if_neg continues]
        dsimp only
        rw [ih others later left (left_le le_rfl total (by simpa [capacity] using enough)),
          greedy, worth]
        congr 1 <;> ring

end Walk

/-! ### The walk against the takings -/

section Takings

variable {levels : List BookLevel} {taken : List Taking} {size : ℚ}

theorem TakenFrom.offered (taken_from : TakenFrom levels taken) :
    Offered BookLevel.size (taken.map Taking.level) (taken.map Taking.amount) := by
  have each := taken_from.each
  clear taken_from
  induction taken with
  | nil => exact .nil
  | cons taking others ih =>
      obtain ⟨here, later⟩ := List.forall_mem_cons.mp each
      exact .cons ⟨here.1.le, here.2⟩ (ih later)

theorem totalWorth_eq (perShare : ℚ → ℚ) : totalWorth perShare taken =
    worth (fun level => perShare level.price) (taken.map Taking.level) (taken.map Taking.amount) := by
  induction taken with
  | nil => rfl
  | cons taking others ih => rw [totalWorth_cons, ih, List.map_cons, List.map_cons, worth]

/-- A part of the takings, in proportion, is worth no less than what a greedy walk
takes of the same levels. -/
theorem TakenFrom.worth_le {perShare : ℚ → ℚ}
    (sorted : levels.Pairwise fun a b => perShare a.price ≤ perShare b.price)
    (taken_from : TakenFrom levels taken) (size_pos : 0 < size) (size_le : size ≤ totalShares taken) :
    worth (fun level => perShare level.price) (taken.map Taking.level)
        (greedy BookLevel.size (taken.map Taking.level) size) ≤
      size * (totalWorth perShare taken / totalShares taken) := by
  have some_shares : 0 < totalShares taken := size_pos.trans_le size_le
  have total : ((taken.map Taking.amount).map (size / totalShares taken * ·)).sum = size := by
    rw [List.sum_map_mul_left, List.map_id']
    exact div_mul_cancel₀ size some_shares.ne'
  have least : worth (fun level => perShare level.price) (taken.map Taking.level)
        (greedy BookLevel.size (taken.map Taking.level)
          ((taken.map Taking.amount).map (size / totalShares taken * ·)).sum) ≤
      worth (fun level => perShare level.price) (taken.map Taking.level)
        ((taken.map Taking.amount).map (size / totalShares taken * ·)) :=
    worth_greedy_le (sorted.sublist taken_from.front.sublist)
      (taken_from.offered.scale (div_nonneg size_pos.le some_shares.le)
        ((div_le_one some_shares).mpr size_le))
  rw [total, worth_scale, ← totalWorth_eq] at least
  calc _ ≤ size / totalShares taken * totalWorth perShare taken := least
    _ = _ := by ring

end Takings

/-! ### Fills of candidates -/

section Candidates

variable {candidate : TradeCandidate} {book : TimedBook} {taken : List Taking} {beyond : ℚ → Bool}
  {levels : List BookLevel}

/-- What the broker's walk of a candidate's size costs. -/
def walkCost (candidate : TradeCandidate) (taken : List Taking) : ℚ :=
  worth BookLevel.price (taken.map Taking.level)
    (greedy BookLevel.size (taken.map Taking.level) candidate.size)

/-- The broker fills a candidate from the levels of its takings. -/
theorem Swept.walk (valid : ∀ level ∈ levels, level.Valid) (swept : Swept levels candidate taken)
    (reached : ∀ taking ∈ taken, beyond taking.level.price = false) :
    fillLevels beyond levels ⟨0, 0, candidate.size⟩ =
      ⟨candidate.size, walkCost candidate taken, 0⟩ := by
  obtain ⟨rest, split⟩ := swept.taken_from.front
  have front_valid : ∀ level ∈ taken.map Taking.level, level.Valid :=
    fun level member => valid level (swept.taken_from.front.subset member)
  have front_reached : ∀ level ∈ taken.map Taking.level, beyond level.price = false := by
    simpa using reached
  have enough : (PaperFill.mk 0 0 candidate.size).remaining ≤
      capacity BookLevel.size (taken.map Taking.level) :=
    swept.size_le.trans swept.taken_from.totalShares_le
  rw [← split, fillLevels_greedy front_valid front_reached swept.size_pos.le enough]
  dsimp only
  rw [zero_add, zero_add]
  rfl

/-- A BUY pays at most the expected price, which is within its limit. -/
theorem Swept.buys (swept : Swept (askOrder book.asks) candidate taken) :
    fillLevels (fun price => candidate.limitPrice < price) (askOrder book.asks)
        ⟨0, 0, candidate.size⟩ = ⟨candidate.size, walkCost candidate taken, 0⟩ ∧
      walkCost candidate taken / candidate.size ≤ candidate.expectedPrice ∧
      candidate.expectedPrice ≤ candidate.limitPrice := by
  have sorted := askOrder_sorted book.asks
  obtain ⟨-, -, within, -⟩ := swept.taken_from.around_last le_refl sorted swept.limitPrice
  have some_shares := swept.size_pos.trans_le swept.size_le
  refine ⟨swept.walk (fun level member => book.valid.asks level (mem_askOrder.mp member)) ?_, ?_, ?_⟩
  · simpa using within
  · rw [div_le_iff₀ swept.size_pos, mul_comm, swept.expectedPrice]
    exact TakenFrom.worth_le sorted swept.taken_from swept.size_pos swept.size_le
  · have above : ∀ level ∈ taken.map Taking.level, -candidate.limitPrice ≤ -level.price := by
      simpa using within
    have least := swept.taken_from.offered.le_worth above
    rw [worth_neg, mul_neg, neg_le_neg_iff] at least
    rw [swept.expectedPrice, div_le_iff₀ some_shares, totalWorth_eq, mul_comm]
    exact least

/-- A SELL yields at least the expected price, which is within its limit. -/
theorem Swept.sells (swept : Swept (bidOrder book.bids) candidate taken) :
    fillLevels (fun price => price < candidate.limitPrice) (bidOrder book.bids)
        ⟨0, 0, candidate.size⟩ = ⟨candidate.size, walkCost candidate taken, 0⟩ ∧
      candidate.expectedPrice ≤ walkCost candidate taken / candidate.size ∧
      candidate.limitPrice ≤ candidate.expectedPrice := by
  have sorted := bidOrder_sorted book.bids
  have refl : ∀ price : ℚ, price ≥ price := le_refl
  obtain ⟨-, -, within, -⟩ := swept.taken_from.around_last refl sorted swept.limitPrice
  have some_shares := swept.size_pos.trans_le swept.size_le
  refine ⟨swept.walk (fun level member => book.valid.bids level (mem_bidOrder.mp member)) ?_, ?_, ?_⟩
  · simpa using within
  · rw [le_div_iff₀ swept.size_pos, mul_comm, swept.expectedPrice]
    have rising : (bidOrder book.bids).Pairwise fun a b => -a.price ≤ -b.price := by
      simpa using sorted
    have least := TakenFrom.worth_le rising swept.taken_from swept.size_pos swept.size_le
    rw [totalWorth_eq, worth_neg, worth_neg, neg_div, mul_neg, neg_le_neg_iff] at least
    rw [totalWorth_eq]
    exact least
  · have above : ∀ level ∈ taken.map Taking.level, candidate.limitPrice ≤ level.price := by
      simpa using within
    have least := swept.taken_from.offered.le_worth above
    rw [swept.expectedPrice, le_div_iff₀ some_shares, totalWorth_eq, mul_comm]
    exact least

/-- The candidate is filled in full at a price no worse than its own, and the cash
moves by its notional. -/
structure FilledAsPriced (before : PaperBroker) (candidate : TradeCandidate)
    (answer : PaperBroker × ExecutionResult) : Prop where
  status : answer.2.status = .paperFilled
  filledSize : answer.2.filledSize = candidate.size
  bought : candidate.side = .buy → ∃ average, answer.2.averagePrice = some average ∧
    average ≤ candidate.expectedPrice ∧ candidate.expectedPrice ≤ candidate.limitPrice ∧
    answer.1.cash = before.cash - candidate.notionalUsd
  sold : candidate.side = .sell → ∃ average, answer.2.averagePrice = some average ∧
    candidate.expectedPrice ≤ average ∧ candidate.limitPrice ≤ candidate.expectedPrice ∧
    answer.1.cash = before.cash + candidate.notionalUsd

variable {broker : PaperBroker} {settings : Settings} {digest : CanonicalIntent → String}

theorem Swept.submit_buy (swept : Swept (askOrder book.asks) candidate taken)
    (buys : candidate.side = .buy) (affordable : candidate.notionalUsd ≤ broker.cash)
    (fresh : digest (candidate.canonical settings) ∉ broker.seenIntents) :
    FilledAsPriced broker candidate
      (broker.submit (.fromCandidate digest settings candidate) book.toOrderBookSnapshot) := by
  obtain ⟨walk, average, expected⟩ := swept.buys
  have fill : (PaperIntent.fromCandidate digest settings candidate).fill book.toOrderBookSnapshot =
      ⟨candidate.size, walkCost candidate taken, 0⟩ := by
    unfold PaperIntent.fill PaperIntent.fromCandidate
    rw [buys]
    exact walk
  have size : (PaperIntent.fromCandidate digest settings candidate).size = candidate.size := rfl
  have notional : (PaperIntent.fromCandidate digest settings candidate).notionalUsd =
    candidate.notionalUsd := rfl
  have side : (PaperIntent.fromCandidate digest settings candidate).side = .buy := buys
  have unseen : (PaperIntent.fromCandidate digest settings candidate).intentHash ∉
    broker.seenIntents := fresh
  generalize PaperIntent.fromCandidate digest settings candidate = intent at *
  have fills : 0 < (intent.fill book.toOrderBookSnapshot).filled := by
    rw [fill]
    exact swept.size_pos
  have share : intent.notionalUsd * ((intent.fill book.toOrderBookSnapshot).filled / intent.size) =
      candidate.notionalUsd := by
    rw [fill, size, notional, div_self swept.size_pos.ne', mul_one]
  rw [PaperBroker.submit_buy unseen side fills (share.trans_le affordable), share, fill]
  refine ⟨rfl, rfl, fun _ => ⟨_, rfl, average, expected, rfl⟩, fun sells => ?_⟩
  rw [buys] at sells
  cases sells

theorem Swept.submit_sell (swept : Swept (bidOrder book.bids) candidate taken)
    (sells : candidate.side = .sell)
    (held : candidate.size ≤ amount broker.positions candidate.tokenId)
    (fresh : digest (candidate.canonical settings) ∉ broker.seenIntents) :
    FilledAsPriced broker candidate
      (broker.submit (.fromCandidate digest settings candidate) book.toOrderBookSnapshot) := by
  obtain ⟨walk, average, expected⟩ := swept.sells
  have fill : (PaperIntent.fromCandidate digest settings candidate).fill book.toOrderBookSnapshot =
      ⟨candidate.size, walkCost candidate taken, 0⟩ := by
    unfold PaperIntent.fill PaperIntent.fromCandidate
    rw [sells]
    exact walk
  have size : (PaperIntent.fromCandidate digest settings candidate).size = candidate.size := rfl
  have notional : (PaperIntent.fromCandidate digest settings candidate).notionalUsd =
    candidate.notionalUsd := rfl
  have covered : (PaperIntent.fromCandidate digest settings candidate).size ≤
    amount broker.positions (PaperIntent.fromCandidate digest settings candidate).tokenId := held
  have side : (PaperIntent.fromCandidate digest settings candidate).side = .sell := sells
  have unseen : (PaperIntent.fromCandidate digest settings candidate).intentHash ∉
    broker.seenIntents := fresh
  generalize PaperIntent.fromCandidate digest settings candidate = intent at *
  have fills : 0 < (intent.fill book.toOrderBookSnapshot).filled := by
    rw [fill]
    exact swept.size_pos
  have share : intent.notionalUsd * ((intent.fill book.toOrderBookSnapshot).filled / intent.size) =
      candidate.notionalUsd := by
    rw [fill, size, notional, div_self swept.size_pos.ne', mul_one]
  rw [PaperBroker.submit_sell unseen side fills covered, share, fill]
  refine ⟨rfl, rfl, fun buys => ?_, fun _ => ⟨_, rfl, average, expected, rfl⟩⟩
  rw [sells] at buys
  cases buys

end Candidates

/-! ### What the strategy proposes -/

namespace ValueStrategy

variable {strategy : ValueStrategy} {market : MarketSpec} {forecast : Forecast} {book : TimedBook}
  {outcome : Outcome} {probability : ℚ} {portfolio : PortfolioState} {candidate : TradeCandidate}
  {yesBook noBook : TimedBook} {broker : PaperBroker} {settings : Settings}
  {digest : CanonicalIntent → String}

/-- The strategy proposes a candidate, for value or to end a risk. -/
def Proposes (strategy : ValueStrategy) (market : MarketSpec) (yesBook noBook : TimedBook)
    (portfolio : PortfolioState) (candidate : TradeCandidate) : Prop :=
  (∃ forecast, strategy.choose market forecast yesBook noBook portfolio = some candidate) ∨
    ∃ now, strategy.chooseRiskExit market yesBook noBook portfolio now = some candidate

/-- A proposed BUY is affordable with the cash of its portfolio. -/
theorem EntryCovered.affordable {taken : List Taking} {bestAsk : ℚ}
    (covered : EntryCovered strategy market portfolio probability bestAsk candidate taken) :
    candidate.notionalUsd ≤ portfolio.cashUsd := by
  obtain ⟨commitment, -, notional, limits⟩ := covered.commitment
  exact notional.trans (limits _ (by simp [ValueStrategy.limits]))

/-- Every candidate is filled in full by a paper broker with the cash and the positions
of its portfolio, at a price no worse than the strategy expected. -/
theorem paper_fills_candidate (strategy : ValueStrategy) (digest : CanonicalIntent → String)
    (settings : Settings)
    (proposed : strategy.Proposes market yesBook noBook portfolio candidate)
    (cash : broker.cash = portfolio.cashUsd) (positions : broker.positions = portfolio.tokenPositions)
    (fresh : digest (candidate.canonical settings) ∉ broker.seenIntents) :
    FilledAsPriced broker candidate
      (broker.submit (.fromCandidate digest settings candidate)
        (bookOf candidate.outcome yesBook noBook).toOrderBookSnapshot) := by
  rcases proposed with ⟨forecast, chosen⟩ | ⟨now, chosen⟩
  · obtain ⟨outcome, probability, nonneg, certain, exit | entry⟩ := strategy.choose_cases chosen
    · obtain ⟨taken, exited⟩ := sellCandidate_exited exit
      obtain ⟨-, names, -⟩ := strategy.sellCandidate_valid nonneg certain exit
      rw [names.outcome]
      refine exited.swept.submit_sell exited.side ?_ fresh
      rw [positions, names.tokenId]
      exact exited.held
    · obtain ⟨bestAsk, taken, -, safe, entered, allowed⟩ := buyCandidate_entered entry
      obtain ⟨-, -, -, -, names, -⟩ := strategy.buyCandidate_within certain entry
      have affordable := (entered.covered safe allowed).affordable
      rw [names.outcome]
      exact (entered.swept safe.taken_from).submit_buy entered.side (cash ▸ affordable) fresh
  · obtain ⟨outcome, exit⟩ := strategy.chooseRiskExit_cases chosen
    obtain ⟨taken, exited⟩ := riskExitCandidate_exited exit
    obtain ⟨-, names, -⟩ := strategy.riskExitCandidate_valid exit
    rw [names.outcome]
    refine exited.swept.submit_sell exited.side ?_ fresh
    rw [positions, names.tokenId]
    exact exited.held

/-- A BUY of ten shares at one half, with five hundred dollars of cash. -/
theorem paper_fills_even_book :
    ∃ candidate, standard.choose (freeMarket "event" "politics") certainForecast evenBook
        (askBook [] (by simp)) livePortfolio = some candidate ∧
      FilledAsPriced (.new 500 0) candidate
        (PaperBroker.submit (.new 500 0) (.fromCandidate (fun _ => "hash") .standard candidate)
          (bookOf candidate.outcome evenBook (askBook [] (by simp))).toOrderBookSnapshot) := by
  have proposes : (standard.choose (freeMarket "event" "politics") certainForecast evenBook
      (askBook [] (by simp)) livePortfolio).isSome = true := by
    decide +kernel
  obtain ⟨candidate, chosen⟩ := Option.isSome_iff_exists.mp proposes
  exact ⟨candidate, chosen, paper_fills_candidate standard (fun _ => "hash") .standard
    (.inl ⟨certainForecast, chosen⟩) rfl rfl (by simp [PaperBroker.new])⟩

end ValueStrategy

end Polybot
