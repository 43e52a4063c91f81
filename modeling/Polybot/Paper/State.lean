import Mathlib.Data.List.Sort
import Mathlib.Data.Finset.Dedup
import Polybot.Paper.Broker
import Polybot.Store.PairStore

/-!
The durable state of the paper broker (`polybot/brokers/paper.py`).

`exportState` writes the positions with shares, `fromState` checks what was stored
and derives the exposures again. `exportState_ok` and `fromState_ok_iff` say what
the two functions do when they succeed.
-/

namespace Polybot

open Checked

/-- A stored position. -/
structure PaperPosition where
  tokenId : String
  marketId : String
  outcome : String
  shares : ℚ
  cost : ℚ
  conditionId : Option String
  eventId : Option String
  bucket : Option String
  deriving DecidableEq

structure PaperState where
  schemaVersion : Int
  initialBankroll : ℚ
  cash : ℚ
  realizedPnl : ℚ
  peakEquity : ℚ
  dayStartEquity : ℚ
  riskDay : Day
  positions : List PaperPosition
  seenIntents : List String
  deriving DecidableEq

namespace PaperBroker

variable (broker : PaperBroker)

/-! ### `export_state` -/

/-- A position to store. A position without its labels raises. -/
def exportPosition (entry : String × ℚ) : Except PyError PaperPosition :=
  match broker.tokenMarketIds.get? entry.1, broker.tokenOutcomes.get? entry.1 with
  | some marketId, some outcome => .ok
      { tokenId := entry.1
        marketId := marketId
        outcome := outcome
        shares := entry.2
        cost := amount broker.positionCosts entry.1
        conditionId := broker.tokenConditionIds.get? entry.1
        eventId := broker.tokenEvents.get? entry.1
        bucket := broker.tokenBuckets.get? entry.1 }
  | _, _ => .error (.keyError entry.1)

/-- The positions with shares, sorted by token. -/
def heldEntries : List (String × ℚ) :=
  (broker.positions.entries.insertionSort fun a b => a.1 ≤ b.1).filter fun entry => 0 < entry.2

/-- `export_state`. -/
def exportState : Except PyError PaperState := do
  let positions ← broker.heldEntries.mapM broker.exportPosition
  pure
    { schemaVersion := 1
      initialBankroll := broker.initialBankroll
      cash := broker.cash
      realizedPnl := broker.realizedPnl
      peakEquity := broker.peakEquity
      dayStartEquity := broker.dayStartEquity
      riskDay := broker.riskDay
      positions := positions
      seenIntents := broker.intentHistory.drop (broker.intentHistory.length - 2000) }

/-! ### `from_state` -/

/-- `_money`. -/
def money (value : ℚ) (label : String) : Except PyError ℚ := do
  let _ ← require (0 ≤ value) (.valueError s!"paper {label} must be non-negative")
  pure value

/-- Put a stored position into the books. -/
def place (raw : PaperPosition) : PaperBroker :=
  let eventId := textOr raw.eventId raw.marketId
  let bucket := textOr raw.bucket "other"
  { broker with
    positions := broker.positions.set raw.tokenId raw.shares
    positionCosts := broker.positionCosts.set raw.tokenId raw.cost
    tokenMarketIds := broker.tokenMarketIds.set raw.tokenId raw.marketId
    tokenOutcomes := broker.tokenOutcomes.set raw.tokenId raw.outcome
    -- Older states stored the market's id as a condition id.
    tokenConditionIds :=
      if truthy raw.conditionId ∧ raw.conditionId ≠ some raw.marketId then
        broker.tokenConditionIds.set raw.tokenId (raw.conditionId.getD "")
      else broker.tokenConditionIds
    tokenEvents := broker.tokenEvents.set raw.tokenId eventId
    tokenBuckets := broker.tokenBuckets.set raw.tokenId bucket
    eventExposure := broker.eventExposure.set eventId
      (amount broker.eventExposure eventId + raw.cost)
    bucketExposure := broker.bucketExposure.set bucket
      (amount broker.bucketExposure bucket + raw.cost) }

/-- The body of the loop over the stored positions. -/
def restorePosition (raw : PaperPosition) : Except PyError PaperBroker := do
  let _ ← require
    (raw.tokenId ≠ "" ∧ raw.marketId ≠ "" ∧ (raw.outcome = "YES" ∨ raw.outcome = "NO"))
    (.valueError "paper position identity is invalid")
  let shares ← money raw.shares "position shares"
  let _ ← money raw.cost "position cost"
  pure (if shares ≤ 0 then broker else broker.place raw)

/-- `from_state`. -/
def fromState (bankrollUsd : ℚ) (today : Day) : Option PaperState → Except PyError PaperBroker
  | none => .ok (new bankrollUsd today)
  | some state => do
      let _ ← require (state.schemaVersion = 1) (.valueError "unsupported paper state schema")
      let persistedBankroll ← money state.initialBankroll "initial bankroll"
      let _ ← require (persistedBankroll = bankrollUsd)
        (.valueError "paper bankroll changed without an explicit reset")
      let cash ← money state.cash "cash"
      let peakEquity ← money state.peakEquity "peak equity"
      let dayStartEquity ← money state.dayStartEquity "day start equity"
      let _ ← require (state.positions.length ≤ 500) (.valueError "paper positions are invalid")
      let restored ← state.positions.foldlM restorePosition
        { new bankrollUsd today with
          cash := cash
          realizedPnl := state.realizedPnl
          peakEquity := peakEquity
          dayStartEquity := dayStartEquity
          riskDay := state.riskDay }
      let _ ← require (state.seenIntents.length ≤ 2000)
        (.valueError "paper intent history is invalid")
      let _ ← require ("" ∉ state.seenIntents) (.valueError "paper intent history is invalid")
      let remembering := { restored with
        seenIntents := state.seenIntents.toFinset
        intentHistory := state.seenIntents.eraseDups }
      let _ ← require (remembering.equity ≤ remembering.peakEquity)
        (.valueError "paper peak equity is below current equity")
      pure remembering

end PaperBroker

/-! ### What the two functions do -/

/-- The checks of a stored position. -/
structure PaperPosition.Accepted (raw : PaperPosition) : Prop where
  tokenId : raw.tokenId ≠ ""
  marketId : raw.marketId ≠ ""
  outcome : raw.outcome = "YES" ∨ raw.outcome = "NO"
  shares : 0 ≤ raw.shares
  cost : 0 ≤ raw.cost

namespace PaperBroker

variable {broker : PaperBroker}

theorem money_ok_iff {value : ℚ} {label : String} {parsed : ℚ} :
    money value label = .ok parsed ↔ 0 ≤ value ∧ parsed = value := by
  unfold money
  rw [require_bind_ok_iff]
  simp [pure, Except.pure, eq_comm]

theorem restorePosition_ok_iff (broker : PaperBroker) (raw : PaperPosition) (after : PaperBroker) :
    broker.restorePosition raw = .ok after ↔
      raw.Accepted ∧ after = if raw.shares ≤ 0 then broker else broker.place raw := by
  unfold restorePosition
  simp only [bind_ok_iff, require_ok_iff, exists_const, money_ok_iff, pure, Except.pure,
    Except.ok.injEq]
  constructor
  · rintro ⟨⟨tokenId, marketId, outcome⟩, shares, ⟨held, rfl⟩, cost, ⟨paid, -⟩, rfl⟩
    exact ⟨⟨tokenId, marketId, outcome, held, paid⟩, rfl⟩
  · rintro ⟨accepted, rfl⟩
    exact ⟨⟨accepted.tokenId, accepted.marketId, accepted.outcome⟩, _, ⟨accepted.shares, rfl⟩, _,
      ⟨accepted.cost, rfl⟩, rfl⟩

/-- The books that the loop over the stored positions leaves. -/
def restored (bankrollUsd : ℚ) (today : Day) (state : PaperState) : PaperBroker :=
  { (state.positions.filter fun raw => 0 < raw.shares).foldl place
      { new bankrollUsd today with
        cash := state.cash
        realizedPnl := state.realizedPnl
        peakEquity := state.peakEquity
        dayStartEquity := state.dayStartEquity
        riskDay := state.riskDay } with
    seenIntents := state.seenIntents.toFinset
    intentHistory := state.seenIntents.eraseDups }

/-- The checks of a stored state. -/
structure Accepts (bankrollUsd : ℚ) (today : Day) (state : PaperState) : Prop where
  schemaVersion : state.schemaVersion = 1
  bankroll_nonneg : 0 ≤ state.initialBankroll
  bankroll : state.initialBankroll = bankrollUsd
  cash : 0 ≤ state.cash
  peakEquity : 0 ≤ state.peakEquity
  dayStartEquity : 0 ≤ state.dayStartEquity
  few_positions : state.positions.length ≤ 500
  positions : ∀ raw ∈ state.positions, raw.Accepted
  few_intents : state.seenIntents.length ≤ 2000
  intents : "" ∉ state.seenIntents
  peak : (restored bankrollUsd today state).equity ≤ state.peakEquity

theorem foldl_place_shares (raws : List PaperPosition) (broker : PaperBroker) :
    raws.foldl (fun broker raw => if raw.shares ≤ 0 then broker else broker.place raw) broker =
      (raws.filter fun raw => 0 < raw.shares).foldl place broker := by
  rw [List.foldl_filter]
  congr 1
  funext broker raw
  by_cases none : raw.shares ≤ 0
  · simp [none, not_lt.mpr none]
  · simp [none, not_le.mp none]

/-- Placing positions changes the books only. -/
theorem foldl_place (raws : List PaperPosition) (broker : PaperBroker) :
    raws.foldl place broker =
      { broker with
        positions := (raws.foldl place broker).positions
        positionCosts := (raws.foldl place broker).positionCosts
        eventExposure := (raws.foldl place broker).eventExposure
        bucketExposure := (raws.foldl place broker).bucketExposure
        tokenEvents := (raws.foldl place broker).tokenEvents
        tokenBuckets := (raws.foldl place broker).tokenBuckets
        tokenConditionIds := (raws.foldl place broker).tokenConditionIds
        tokenMarketIds := (raws.foldl place broker).tokenMarketIds
        tokenOutcomes := (raws.foldl place broker).tokenOutcomes } := by
  induction raws generalizing broker with
  | nil => rfl
  | cons raw rest ih => exact ih (broker.place raw)

/-- Everything besides the books is as stored. -/
structure Marked (bankrollUsd : ℚ) (state : PaperState) (broker : PaperBroker) : Prop where
  initialBankroll : broker.initialBankroll = bankrollUsd
  cash : broker.cash = state.cash
  realizedPnl : broker.realizedPnl = state.realizedPnl
  peakEquity : broker.peakEquity = state.peakEquity
  riskDay : broker.riskDay = state.riskDay
  dayStartEquity : broker.dayStartEquity = state.dayStartEquity
  seenIntents : broker.seenIntents = state.seenIntents.toFinset
  intentHistory : broker.intentHistory = state.seenIntents.eraseDups

theorem restored_marked (bankrollUsd : ℚ) (today : Day) (state : PaperState) :
    Marked bankrollUsd state (restored bankrollUsd today state) := by
  unfold restored
  rw [foldl_place]
  exact ⟨rfl, rfl, rfl, rfl, rfl, rfl, rfl, rfl⟩

theorem fromState_ok_iff {bankrollUsd : ℚ} {today : Day} {state : PaperState} {after : PaperBroker} :
    fromState bankrollUsd today (some state) = .ok after ↔
      Accepts bankrollUsd today state ∧ after = restored bankrollUsd today state := by
  unfold fromState
  simp only [bind_ok_iff, require_ok_iff, exists_const, money_ok_iff,
    foldlM_ok_iff restorePosition_ok_iff, foldl_place_shares, pure, Except.pure, Except.ok.injEq]
  have peak : (restored bankrollUsd today state).peakEquity = state.peakEquity :=
    (restored_marked bankrollUsd today state).peakEquity
  constructor
  · rintro ⟨version, _, ⟨nonneg, rfl⟩, bankroll, _, ⟨cash, rfl⟩, _, ⟨marked, rfl⟩, _, ⟨day, rfl⟩,
      few, _, ⟨positions, rfl⟩, remembered, intents, within, rfl⟩
    exact ⟨⟨version, nonneg, bankroll, cash, marked, day, few, positions, remembered, intents,
      within.trans_eq peak⟩, rfl⟩
  · rintro ⟨accepts, rfl⟩
    exact ⟨accepts.schemaVersion, _, ⟨accepts.bankroll_nonneg, rfl⟩, accepts.bankroll, _,
      ⟨accepts.cash, rfl⟩, _, ⟨accepts.peakEquity, rfl⟩, _, ⟨accepts.dayStartEquity, rfl⟩,
      accepts.few_positions, _, ⟨accepts.positions, rfl⟩, accepts.few_intents, accepts.intents,
      accepts.peak.trans_eq peak.symm, rfl⟩

/-! ### Exported states -/

theorem eraseDups_of_nodup {items : List String} (distinct : items.Nodup) :
    items.eraseDups = items := by
  induction items with
  | nil => rfl
  | cons first rest ih =>
      obtain ⟨absent, distinct⟩ := List.nodup_cons.mp distinct
      have others : rest.filter (fun other => !other == first) = rest := by
        refine List.filter_eq_self.mpr fun other member => ?_
        have differs : other ≠ first := fun same => absent (same ▸ member)
        simpa using differs
      rw [List.eraseDups_cons, others, ih distinct]

/-- What is stored of a token with labels. -/
def position (broker : PaperBroker) (entry : String × ℚ) : PaperPosition where
  tokenId := entry.1
  marketId := (broker.tokenMarketIds.get? entry.1).getD ""
  outcome := (broker.tokenOutcomes.get? entry.1).getD ""
  shares := entry.2
  cost := amount broker.positionCosts entry.1
  conditionId := broker.tokenConditionIds.get? entry.1
  eventId := broker.tokenEvents.get? entry.1
  bucket := broker.tokenBuckets.get? entry.1

/-- The exported state, if every position has its labels. -/
def exported (broker : PaperBroker) : PaperState where
  schemaVersion := 1
  initialBankroll := broker.initialBankroll
  cash := broker.cash
  realizedPnl := broker.realizedPnl
  peakEquity := broker.peakEquity
  dayStartEquity := broker.dayStartEquity
  riskDay := broker.riskDay
  positions := broker.heldEntries.map broker.position
  seenIntents := broker.intentHistory.drop (broker.intentHistory.length - 2000)

theorem exportPosition_ok_iff (broker : PaperBroker) (entry : String × ℚ) (raw : PaperPosition) :
    broker.exportPosition entry = .ok raw ↔
      (broker.tokenMarketIds.get? entry.1 ≠ none ∧ broker.tokenOutcomes.get? entry.1 ≠ none) ∧
        raw = broker.position entry := by
  unfold exportPosition position
  cases broker.tokenMarketIds.get? entry.1 with
  | none => simp
  | some marketId =>
      cases broker.tokenOutcomes.get? entry.1 with
      | none => simp
      | some outcome => simp [eq_comm]

theorem mem_heldEntries {entry : String × ℚ} :
    entry ∈ broker.heldEntries ↔ broker.positions.get? entry.1 = some entry.2 ∧ 0 < entry.2 := by
  unfold heldEntries
  rw [List.mem_filter, List.mem_insertionSort, Dict.get?_eq_some_iff, decide_eq_true_iff]

theorem heldEntries_distinct (broker : PaperBroker) :
    (broker.heldEntries.map Prod.fst).Nodup := by
  have sorted : (broker.positions.entries.insertionSort fun a b => a.1 ≤ b.1).map Prod.fst |>.Nodup :=
    ((List.perm_insertionSort _ _).map Prod.fst).nodup_iff.mpr broker.positions.nodup
  exact sorted.sublist (List.filter_sublist.map Prod.fst)

theorem heldEntries_length (broker : PaperBroker) :
    broker.heldEntries.length = (broker.positions.entries.filter fun entry => 0 < entry.2).length :=
  ((List.perm_insertionSort _ _).filter _).length_eq

/-- Every position with shares has the labels that the export reads. -/
theorem exportState_eq
    (labelled : ∀ token, 0 < amount broker.positions token →
      broker.tokenMarketIds.get? token ≠ none ∧ broker.tokenOutcomes.get? token ≠ none) :
    broker.exportState = .ok broker.exported := by
  unfold exportState
  rw [bind_ok_iff]
  refine ⟨_, (mapM_ok_iff broker.exportPosition_ok_iff).mpr ⟨fun entry member => ?_, rfl⟩, rfl⟩
  obtain ⟨found, held⟩ := mem_heldEntries.mp member
  refine labelled entry.1 ?_
  unfold amount
  rwa [found]

end PaperBroker

end Polybot
