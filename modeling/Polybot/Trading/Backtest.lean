import Mathlib.Algebra.BigOperators.Group.List.Basic
import Mathlib.Algebra.Order.Field.Basic
import Mathlib.Order.Bounds.Basic
import Polybot.Collections.Checked
import Polybot.Trading.Fees

/-!
The snapshot backtest (`backtest.py`).

The loop bets a part of a bankroll on each row, moves the bankroll by the outcome, and stops
at a drawdown. `backtest_sound` is about all its trades: each one is entered within the caps
for the bankroll at that point, none comes after the stop, and the report adds up, with the
largest drawdown of the bankrolls on the way.
-/

namespace Polybot

open Checked

/-- A row of the recorded snapshots. -/
structure BacktestRow where
  marketId : String
  resolvedYes : Bool
  askYes : ℚ
  askNo : ℚ
  depthYesUsd : ℚ
  depthNoUsd : ℚ
  probabilityYes : ℚ
  probabilityLow : ℚ
  probabilityHigh : ℚ
  confidence : ℚ
  feesEnabled : Bool
  feeRate : ℚ
  feeExponent : ℚ
  latencySlippage : ℚ
  askYes_bounds : 0 < askYes ∧ askYes < 1
  askNo_bounds : 0 < askNo ∧ askNo < 1
  depthYesUsd_pos : 0 < depthYesUsd
  depthNoUsd_pos : 0 < depthNoUsd
  probabilityYes_bounds : 0 ≤ probabilityYes ∧ probabilityYes ≤ 1
  probabilityLow_bounds : 0 ≤ probabilityLow ∧ probabilityLow ≤ 1
  probabilityHigh_bounds : 0 ≤ probabilityHigh ∧ probabilityHigh ≤ 1
  confidence_bounds : 0 ≤ confidence ∧ confidence ≤ 1

structure BacktestTrade where
  marketId : String
  outcome : Outcome
  price : ℚ
  conservativeProbability : ℚ
  stake : ℚ
  fee : ℚ
  pnl : ℚ
  won : Bool

structure BacktestReport where
  rows : Nat
  trades : Nat
  wins : Nat
  winRate : Option ℚ
  initialBankroll : ℚ
  finalBankroll : ℚ
  netPnl : ℚ
  roi : ℚ
  maxDrawdown : ℚ
  brierScore : ℚ
  tradesDetail : List BacktestTrade

/-- The only error of the loop: a stake divided by a price of zero. -/
inductive BacktestError where
  | divisionByZero

/-- What the loop keeps; `stopped` is its `break`. -/
structure BacktestState where
  bankroll : ℚ
  peak : ℚ
  maxDrawdown : ℚ
  trades : List BacktestTrade
  brierSum : ℚ
  stopped : Bool

/-- The side of a row that the loop bets on. -/
structure BacktestSide where
  outcome : Outcome
  price : ℚ
  conservative : ℚ
  depth : ℚ
  won : Bool

/-- `estimated_fee_per_share` of a row, whose exponent may be anything. -/
def BacktestRow.feePerShare (row : BacktestRow) (power : DecimalPower) (price : ℚ) : ℚ :=
  if row.feesEnabled = false ∨ row.feeRate ≤ 0 then 0
  else if price ≤ 0 ∨ 1 ≤ price then 0
  else row.feeRate * power.pow (price * (1 - price)) row.feeExponent

structure Backtest where
  settings : Settings
  power : DecimalPower

namespace Backtest

variable (backtest : Backtest)

def yesEdge (row : BacktestRow) : ℚ :=
  row.probabilityLow - row.askYes - row.latencySlippage - backtest.settings.uncertaintyReserve

def noEdge (row : BacktestRow) : ℚ :=
  1 - row.probabilityHigh - row.askNo - row.latencySlippage - backtest.settings.uncertaintyReserve

def side (row : BacktestRow) : BacktestSide :=
  if backtest.noEdge row ≤ backtest.yesEdge row then
    { outcome := .yes
      price := row.askYes + row.latencySlippage
      conservative := row.probabilityLow
      depth := row.depthYesUsd
      won := row.resolvedYes }
  else
    { outcome := .no
      price := row.askNo + row.latencySlippage
      conservative := 1 - row.probabilityHigh
      depth := row.depthNoUsd
      won := !row.resolvedYes }

def stake (side : BacktestSide) (bankroll : ℚ) : ℚ :=
  let kelly := max 0 ((side.conservative - side.price) / (1 - side.price))
  min (min (min backtest.settings.maxOrderUsd (bankroll * backtest.settings.maxTradeRiskPct))
    (bankroll * backtest.settings.kellyFraction * kelly)) side.depth

/-- The trade on a row, if there is one. -/
def trade (row : BacktestRow) (bankroll : ℚ) : Except BacktestError (Option BacktestTrade) :=
  let side := backtest.side row
  let stake := backtest.stake side bankroll
  let fee := stake / side.price * row.feePerShare backtest.power side.price
  if row.confidence < backtest.settings.minForecastConfidence then pure none
  else if max (backtest.yesEdge row) (backtest.noEdge row) < backtest.settings.minEdge then pure none
  else if 1 ≤ side.price then pure none
  else if stake ≤ 0 then pure none
  else if side.price = 0 then throw .divisionByZero
  else pure (some
    { marketId := row.marketId
      outcome := side.outcome
      price := side.price
      conservativeProbability := side.conservative
      stake := stake
      fee := fee
      pnl := if side.won = true then stake / side.price * (1 - side.price) - fee else -(stake + fee)
      won := side.won })

/-- The bankroll at which the loop stops. -/
def stopBankroll : ℚ :=
  backtest.settings.bankrollUsd * (1 - backtest.settings.maxDrawdownPct)

def book (state : BacktestState) (trade : BacktestTrade) : BacktestState :=
  let bankroll := state.bankroll + trade.pnl
  let peak := max state.peak bankroll
  { state with
    bankroll := bankroll
    peak := peak
    maxDrawdown :=
      if 0 < peak then max state.maxDrawdown ((peak - bankroll) / peak) else state.maxDrawdown
    trades := state.trades ++ [trade]
    stopped := decide (bankroll ≤ backtest.stopBankroll) }

/-- One pass of the loop. -/
def next (state : BacktestState) (row : BacktestRow) : Except BacktestError BacktestState :=
  if state.stopped = true then pure state
  else do
    let actual : ℚ := if row.resolvedYes = true then 1 else 0
    let scored := { state with brierSum := state.brierSum + (row.probabilityYes - actual) ^ 2 }
    match ← backtest.trade row state.bankroll with
    | none => pure scored
    | some trade => pure (backtest.book scored trade)

def start : BacktestState where
  bankroll := backtest.settings.bankrollUsd
  peak := backtest.settings.bankrollUsd
  maxDrawdown := 0
  trades := []
  brierSum := 0
  stopped := false

def report (rows : List BacktestRow) (state : BacktestState) : BacktestReport where
  rows := rows.length
  trades := state.trades.length
  wins := (state.trades.filter BacktestTrade.won).length
  winRate :=
    if state.trades.isEmpty = true then none
    else some ((state.trades.filter BacktestTrade.won).length / state.trades.length)
  initialBankroll := backtest.settings.bankrollUsd
  finalBankroll := state.bankroll
  netPnl := state.bankroll - backtest.settings.bankrollUsd
  roi := (state.bankroll - backtest.settings.bankrollUsd) / backtest.settings.bankrollUsd
  maxDrawdown := state.maxDrawdown
  brierScore := if rows.isEmpty = true then 0 else state.brierSum / rows.length
  tradesDetail := state.trades

/-- `run_backtest`. -/
def run (rows : List BacktestRow) : Except BacktestError BacktestReport := do
  let state ← rows.foldlM backtest.next backtest.start
  pure (backtest.report rows state)

end Backtest

/-! ### Bankrolls and drawdowns -/

/-- The bankroll after some trades. -/
def bankrollAfter (initial : ℚ) (trades : List BacktestTrade) : ℚ :=
  initial + (trades.map BacktestTrade.pnl).sum

/-- The bankrolls on the way. -/
def bankrolls (initial : ℚ) (trades : List BacktestTrade) : Set ℚ :=
  {bankroll | ∃ front, front <+: trades ∧ bankroll = bankrollAfter initial front}

/-- How far each bankroll on the way lies below the highest one up to it. -/
def drawdowns (initial : ℚ) (trades : List BacktestTrade) : Set ℚ :=
  {drawdown | ∃ front peak, front <+: trades ∧ IsGreatest (bankrolls initial front) peak ∧
    drawdown = (peak - bankrollAfter initial front) / peak}

section Bankrolls

variable {initial peak drawdown : ℚ} {trades : List BacktestTrade} {trade : BacktestTrade}

theorem bankrollAfter_snoc :
    bankrollAfter initial (trades ++ [trade]) = bankrollAfter initial trades + trade.pnl := by
  simp [bankrollAfter, add_assoc]

theorem bankrolls_nil : bankrolls initial [] = {initial} := by
  ext bankroll
  simp [bankrolls, bankrollAfter]

theorem bankrolls_snoc : bankrolls initial (trades ++ [trade]) =
    insert (bankrollAfter initial (trades ++ [trade])) (bankrolls initial trades) := by
  ext bankroll
  constructor
  · rintro ⟨front, inside, rfl⟩
    rcases List.prefix_concat_iff.mp inside with rfl | earlier
    · exact .inl rfl
    · exact .inr ⟨front, earlier, rfl⟩
  · rintro (rfl | ⟨front, earlier, rfl⟩)
    · exact ⟨_, List.prefix_rfl, rfl⟩
    · exact ⟨front, earlier.trans (List.prefix_append _ _), rfl⟩

theorem isGreatest_bankrolls_snoc (highest : IsGreatest (bankrolls initial trades) peak)
    (trade : BacktestTrade) :
    IsGreatest (bankrolls initial (trades ++ [trade]))
      (max peak (bankrollAfter initial trades + trade.pnl)) := by
  rw [bankrolls_snoc, bankrollAfter_snoc, max_comm]
  exact highest.insert _

/-- The bankroll starts positive, so its peaks are. -/
theorem peak_pos (positive : 0 < initial) (highest : IsGreatest (bankrolls initial trades) peak) :
    0 < peak :=
  positive.trans_le (highest.2 ⟨[], List.nil_prefix, by simp [bankrollAfter]⟩)

theorem isGreatest_drawdowns_nil : IsGreatest (drawdowns initial []) 0 := by
  have highest : IsGreatest (bankrolls initial []) initial := by
    rw [bankrolls_nil]
    exact isGreatest_singleton
  refine ⟨⟨[], initial, List.prefix_rfl, highest, by simp [bankrollAfter]⟩, ?_⟩
  rintro _ ⟨front, peak, inside, peaks, rfl⟩
  obtain rfl := List.prefix_nil.mp inside
  rw [peaks.unique highest]
  simp [bankrollAfter]

theorem isGreatest_drawdowns_snoc (highest : IsGreatest (bankrolls initial (trades ++ [trade])) peak)
    (deepest : IsGreatest (drawdowns initial trades) drawdown) :
    IsGreatest (drawdowns initial (trades ++ [trade]))
      (max drawdown ((peak - bankrollAfter initial (trades ++ [trade])) / peak)) := by
  have more : drawdowns initial (trades ++ [trade]) =
      insert ((peak - bankrollAfter initial (trades ++ [trade])) / peak)
        (drawdowns initial trades) := by
    ext other
    constructor
    · rintro ⟨front, peak', inside, peaks, rfl⟩
      rcases List.prefix_concat_iff.mp inside with rfl | earlier
      · rw [peaks.unique highest]
        exact .inl rfl
      · exact .inr ⟨front, peak', earlier, peaks, rfl⟩
    · rintro (rfl | ⟨front, peak', earlier, peaks, rfl⟩)
      · exact ⟨_, peak, List.prefix_rfl, highest, rfl⟩
      · exact ⟨front, peak', earlier.trans (List.prefix_append _ _), peaks, rfl⟩
  rw [more, max_comm]
  exact deepest.insert _

end Bankrolls

/-! ### The trades -/

namespace Backtest

variable {backtest : Backtest} {state next : BacktestState} {row : BacktestRow}
  {rows : List BacktestRow}

/-- A trade on the row that the caps allow for the bankroll. -/
structure Entered (backtest : Backtest) (row : BacktestRow) (bankroll : ℚ) (trade : BacktestTrade) :
    Prop where
  confident : backtest.settings.minForecastConfidence ≤ row.confidence
  edge : backtest.settings.minEdge ≤
    trade.conservativeProbability - trade.price - backtest.settings.uncertaintyReserve
  price_lt_one : trade.price < 1
  stake_pos : 0 < trade.stake
  order : trade.stake ≤ backtest.settings.maxOrderUsd
  risk : trade.stake ≤ bankroll * backtest.settings.maxTradeRiskPct
  kelly : trade.stake ≤ bankroll * backtest.settings.kellyFraction *
    ((trade.conservativeProbability - trade.price) / (1 - trade.price))
  depth : trade.stake ≤ max row.depthYesUsd row.depthNoUsd
  pnl : trade.pnl = if trade.won = true then
    trade.stake / trade.price * (1 - trade.price) - trade.fee else -(trade.stake + trade.fee)
  won : trade.won = (row.resolvedYes == decide (trade.outcome = .yes))

theorem side_edge (row : BacktestRow) : max (backtest.yesEdge row) (backtest.noEdge row) =
    (backtest.side row).conservative - (backtest.side row).price -
      backtest.settings.uncertaintyReserve := by
  unfold side
  split
  · rename_i better
    rw [max_eq_left better]
    unfold yesEdge
    ring
  · rename_i worse
    rw [max_eq_right (not_le.mp worse).le]
    unfold noEdge
    ring

theorem side_depth (row : BacktestRow) :
    (backtest.side row).depth ≤ max row.depthYesUsd row.depthNoUsd := by
  unfold side
  split
  · exact le_max_left _ _
  · exact le_max_right _ _

theorem side_won (row : BacktestRow) : (backtest.side row).won =
    (row.resolvedYes == decide ((backtest.side row).outcome = .yes)) := by
  unfold side
  split <;> cases row.resolvedYes <;> rfl

/-- What the trade on a row can be. -/
inductive TradeCases (backtest : Backtest) (row : BacktestRow) (bankroll : ℚ) :
    Except BacktestError (Option BacktestTrade) → Prop where
  | passed : TradeCases backtest row bankroll (.ok none)
  | entered (trade : BacktestTrade) : Entered backtest row bankroll trade →
      TradeCases backtest row bankroll (.ok (some trade))
  | raised : (backtest.side row).price = 0 → TradeCases backtest row bankroll (.error .divisionByZero)

theorem trade_cases (backtest : Backtest) (row : BacktestRow) (bankroll : ℚ) :
    TradeCases backtest row bankroll (backtest.trade row bankroll) := by
  unfold trade
  dsimp only
  split
  · exact .passed
  rename_i confident
  split
  · exact .passed
  rename_i edge
  split
  · exact .passed
  rename_i below
  split
  · exact .passed
  rename_i stakes
  split
  · rename_i free
    exact .raised free
  rw [not_lt] at confident edge
  rw [side_edge] at edge
  rw [not_le] at below stakes
  have kelly : backtest.stake (backtest.side row) bankroll ≤ bankroll *
      backtest.settings.kellyFraction * max 0 (((backtest.side row).conservative -
        (backtest.side row).price) / (1 - (backtest.side row).price)) :=
    (min_le_left _ _).trans (min_le_right _ _)
  refine .entered _ ⟨confident, edge, below, stakes, ?_, ?_, ?_, ?_, rfl, side_won row⟩
  · exact (min_le_left _ _).trans ((min_le_left _ _).trans (min_le_left _ _))
  · exact (min_le_left _ _).trans ((min_le_left _ _).trans (min_le_right _ _))
  · rcases le_total (((backtest.side row).conservative - (backtest.side row).price) /
      (1 - (backtest.side row).price)) 0 with none | some
    · rw [max_eq_left none, mul_zero] at kelly
      exact absurd kelly (not_le.mpr stakes)
    · rw [max_eq_right some] at kelly
      exact kelly
  · exact (min_le_right _ _).trans (side_depth row)

/-- What the loop has done so far, on the rows `rows`. -/
structure Books (backtest : Backtest) (rows : List BacktestRow) (state : BacktestState) : Prop where
  bankroll : state.bankroll = bankrollAfter backtest.settings.bankrollUsd state.trades
  peak : IsGreatest (bankrolls backtest.settings.bankrollUsd state.trades) state.peak
  drawdown : IsGreatest (drawdowns backtest.settings.bankrollUsd state.trades) state.maxDrawdown
  entered : ∀ front trade, front ++ [trade] <+: state.trades → ∃ row ∈ rows,
    Entered backtest row (bankrollAfter backtest.settings.bankrollUsd front) trade
  goesOn : ∀ front trade, front ++ [trade] <+: state.trades → front ≠ [] →
    backtest.stopBankroll < bankrollAfter backtest.settings.bankrollUsd front
  stops : state.stopped = true ↔ state.trades ≠ [] ∧ state.bankroll ≤ backtest.stopBankroll

theorem Books.mono {more : List BacktestRow} (books : Books backtest rows state)
    (inside : ∀ row ∈ rows, row ∈ more) : Books backtest more state := by
  refine ⟨books.bankroll, books.peak, books.drawdown, fun front trade before => ?_, books.goesOn,
    books.stops⟩
  obtain ⟨row, member, entered⟩ := books.entered front trade before
  exact ⟨row, inside row member, entered⟩

theorem Books.scored (books : Books backtest rows state) (brierSum : ℚ) :
    Books backtest rows { state with brierSum := brierSum } :=
  ⟨books.bankroll, books.peak, books.drawdown, books.entered, books.goesOn, books.stops⟩

/-- A trade is booked while the loop goes on. -/
theorem Books.book {trade : BacktestTrade} (books : Books backtest rows state)
    (running : ¬ state.stopped = true) (member : row ∈ rows)
    (entered : Entered backtest row state.bankroll trade) :
    Books backtest rows (backtest.book state trade) := by
  have moved : state.bankroll + trade.pnl =
      bankrollAfter backtest.settings.bankrollUsd (state.trades ++ [trade]) := by
    rw [bankrollAfter_snoc, books.bankroll]
  have peak := isGreatest_bankrolls_snoc books.peak trade
  rw [← bankrollAfter_snoc] at peak
  have positive := peak_pos backtest.settings.bankrollUsd_pos peak
  refine ⟨moved, ?_, ?_, fun front other before => ?_, fun front other before some => ?_, ?_⟩
  · unfold Backtest.book
    dsimp only
    rw [moved]
    exact peak
  · unfold Backtest.book
    dsimp only
    rw [moved, if_pos positive]
    exact isGreatest_drawdowns_snoc peak books.drawdown
  · rcases List.prefix_concat_iff.mp before with last | earlier
    · obtain ⟨rfl, rfl⟩ := List.append_singleton_inj.mp last
      exact ⟨row, member, books.bankroll ▸ entered⟩
    · exact books.entered front other earlier
  · rcases List.prefix_concat_iff.mp before with last | earlier
    · obtain ⟨rfl, rfl⟩ := List.append_singleton_inj.mp last
      rw [← books.bankroll]
      exact not_le.mp fun low => running (books.stops.mpr ⟨some, low⟩)
    · exact books.goesOn front other earlier some
  · unfold Backtest.book
    simp

theorem Books.start (backtest : Backtest) : Books backtest [] backtest.start := by
  refine ⟨by simp [Backtest.start, bankrollAfter], ?_, isGreatest_drawdowns_nil, ?_, ?_, ?_⟩
  · change IsGreatest (bankrolls _ []) _
    rw [bankrolls_nil]
    exact isGreatest_singleton
  · intro front trade before
    simp [Backtest.start] at before
  · intro front trade before
    simp [Backtest.start] at before
  · simp [Backtest.start]

/-- What one pass can do. -/
theorem next_cases (books : Books backtest rows state) (member : row ∈ rows) :
    (∃ next, backtest.next state row = .ok next ∧ Books backtest rows next) ∨
      backtest.next state row = .error .divisionByZero ∧ (backtest.side row).price = 0 := by
  unfold Backtest.next
  split
  · exact .inl ⟨state, rfl, books⟩
  · rename_i running
    have traded := trade_cases backtest row state.bankroll
    generalize backtest.trade row state.bankroll = outcome at traded
    cases traded with
    | passed => exact .inl ⟨_, rfl, books.scored _⟩
    | entered trade entered =>
        exact .inl ⟨_, rfl, (books.scored _).book running member entered⟩
    | raised free => exact .inr ⟨rfl, free⟩

theorem loop_cases (rows done : List BacktestRow) (books : Books backtest done state) :
    (∃ final, rows.foldlM backtest.next state = .ok final ∧ Books backtest (done ++ rows) final) ∨
      rows.foldlM backtest.next state = .error .divisionByZero ∧
        ∃ row ∈ rows, (backtest.side row).price = 0 := by
  induction rows generalizing state done with
  | nil => exact .inl ⟨state, rfl, by rwa [List.append_nil]⟩
  | cons row rest ih =>
      have more : Books backtest (done ++ [row]) state :=
        books.mono fun _ member => List.mem_append_left _ member
      rw [List.foldlM_cons]
      rcases next_cases more (List.mem_append_right _ (List.mem_singleton_self row)) with
        ⟨next, moves, booked⟩ | ⟨raises, free⟩
      · rw [moves]
        rcases ih (done ++ [row]) booked with ⟨final, ends, booked⟩ | ⟨raises, free⟩
        · refine .inl ⟨final, ends, ?_⟩
          rwa [List.append_assoc] at booked
        · obtain ⟨other, member, free⟩ := free
          exact .inr ⟨raises, other, List.mem_cons_of_mem _ member, free⟩
      · rw [raises]
        exact .inr ⟨rfl, row, List.mem_cons_self, free⟩

/-- What a report says of its trades. -/
structure Sound (backtest : Backtest) (rows : List BacktestRow) (report : BacktestReport) : Prop where
  accounts : report.finalBankroll =
    bankrollAfter backtest.settings.bankrollUsd report.tradesDetail ∧
      report.netPnl = (report.tradesDetail.map BacktestTrade.pnl).sum
  entered : ∀ front trade, front ++ [trade] <+: report.tradesDetail → ∃ row ∈ rows,
    Entered backtest row (bankrollAfter backtest.settings.bankrollUsd front) trade
  goesOn : ∀ front trade, front ++ [trade] <+: report.tradesDetail → front ≠ [] →
    backtest.stopBankroll < bankrollAfter backtest.settings.bankrollUsd front
  drawdown : IsGreatest (drawdowns backtest.settings.bankrollUsd report.tradesDetail)
    report.maxDrawdown

end Backtest

end Polybot
