import Polybot.Engine.Cycle
import Polybot.Trading.Sizing

/-!
The markets of the holdings (`_include_held_markets` of `engine.py`).

The loop looks up each holding that discovery did not list, but no identifier twice and no
condition that is already listed. So a holding that is refused under an identifier keeps
the others with that identifier from being looked up, and they cannot be sold in a risk
exit. `stays_reachable_iff` says which holdings can be in the way of one another.
-/

namespace Polybot

open Interaction Program Stage

/-! ### The source and the portfolio -/

/-- What the market data has for an identifier. -/
abbrev MarketSource : Type :=
  HeldIdentifier → Except PyError ScannedMarket

/-- The source answers the lookups. -/
def AnswersFrom (source : MarketSource) : EngineEvent → Prop
  | ⟨.getMarketByCondition id, answer⟩ => answer = source (.condition id)
  | ⟨.getMarketById id, answer⟩ => answer = source (.market id)
  | _ => True

/-- The token is one of the two of the market. -/
def ScannedMarket.Has (market : ScannedMarket) (token : String) : Prop :=
  market.yesTokenId = token ∨ market.noTokenId = token

instance (market : ScannedMarket) (token : String) : Decidable (market.Has token) :=
  inferInstanceAs (Decidable (_ ∨ _))

namespace PortfolioState

variable (portfolio : PortfolioState)

/-- The portfolio with other positions. -/
def withPositions (positions : Dict String ℚ) : PortfolioState :=
  { portfolio with tokenPositions := positions }

/-- The token is held. -/
def Holds (token : String) : Prop :=
  ∃ size, (token, size) ∈ portfolio.tokenPositions.entries ∧ 0 < size

/-- What a holding is looked up by. -/
def heldIdentifier (token : String) : Option HeldIdentifier :=
  HeldIdentifier.of (portfolio.tokenConditionIds.get? token) (portfolio.tokenMarketIds.get? token)

/-- The market is the one that the portfolio has on record for the token. -/
def Matches (token : String) (market : ScannedMarket) : Prop :=
  ¬ (truthy (portfolio.tokenConditionIds.get? token) ∧
      market.conditionId ≠ portfolio.tokenConditionIds.get? token) ∧
    ¬ (truthy (portfolio.tokenMarketIds.get? token) ∧
      some market.id ≠ portfolio.tokenMarketIds.get? token) ∧
    ¬ (portfolio.tokenEventIds.get? token ≠ none ∧ market.eventId ≠ none ∧
      market.eventId ≠ portfolio.tokenEventIds.get? token) ∧
    market.Has token

end PortfolioState

/-! ### The property -/

/-- A market of the search has the token, and its id is among the held ones. -/
def HeldSearch.Covers (search : HeldSearch) (token : String) : Prop :=
  ∃ market ∈ search.markets, market.Has token ∧ market.id ∈ search.heldMarketIds

section Property

variable (source : MarketSource) (state : CycleState) (markets : List ScannedMarket)
  (portfolio : PortfolioState)

/-- The loop returns this search. -/
def Includes (search : HeldSearch) : Prop :=
  ∃ log, Execution (AnswersFrom source) (includeHeldMarkets portfolio
    portfolio.tokenPositions.entries (.start state portfolio markets)) log (.ok search)

/-- Every holding that is covered alone is covered, and neither the covered holdings nor the
held markets depend on the order of the positions. -/
structure StaysReachable : Prop where
  covered : ∀ token size, (token, size) ∈ portfolio.tokenPositions.entries → 0 < size →
    ∀ alone whole, Includes source state markets
        (portfolio.withPositions (Dict.empty.set token size)) alone →
      alone.Covers token → Includes source state markets portfolio whole → whole.Covers token
  unordered : ∀ positions : Dict String ℚ,
    positions.entries.Perm portfolio.tokenPositions.entries → ∀ first second,
      Includes source state markets portfolio first →
      Includes source state markets (portfolio.withPositions positions) second →
        (∀ token, portfolio.Holds token → (first.Covers token ↔ second.Covers token)) ∧
          ∀ id, id ∈ first.heldMarketIds ↔ id ∈ second.heldMarketIds

/-- A discovered market has the token. -/
def Listed (markets : List ScannedMarket) (token : String) : Prop :=
  ∃ market ∈ markets, market.Has token

/-- A holding that discovery did not list is looked up by the identifier. -/
structure LookedUp (token : String) (identifier : HeldIdentifier) : Prop where
  unlisted : ¬ Listed markets token
  identified : portfolio.heldIdentifier token = some identifier
  fresh : ∀ id, portfolio.tokenConditionIds.get? token = some id →
    ∀ market ∈ markets, market.conditionId ≠ some id

/-- The source has this market for the holding, and it is the one on record. -/
def FoundFor (token : String) (market : ScannedMarket) : Prop :=
  ∃ identifier, LookedUp markets portfolio token identifier ∧ source identifier = .ok market ∧
    portfolio.Matches token market

/-- No holding is in the way of another one. -/
structure Compatible : Prop where
  /-- A holding that is looked up by the identifier of one that is found is found too. -/
  identifiers : ∀ first second identifier market, portfolio.Holds first → portfolio.Holds second →
    FoundFor source markets portfolio first market →
      LookedUp markets portfolio first identifier → LookedUp markets portfolio second identifier →
        ∃ other, FoundFor source markets portfolio second other
  /-- A market that is found does not have the condition of a holding that is found
  elsewhere. -/
  conditions : ∀ first second market other id, portfolio.Holds first → portfolio.Holds second →
    FoundFor source markets portfolio first market →
      FoundFor source markets portfolio second other → ¬ market.Has second →
        portfolio.tokenConditionIds.get? second = some id → market.conditionId ≠ some id
  /-- A market that is found for one holding and has another is the one that is found for
  the other, as far as its id and the holdings are concerned. -/
  agreement : ∀ first second market other, portfolio.Holds first → portfolio.Holds second →
    FoundFor source markets portfolio first market →
      FoundFor source markets portfolio second other → market.Has second →
        market.id = other.id ∧ ∀ third, portfolio.Holds third → other.Has third →
          market.Has third ∨ Listed markets third ∨
            ∃ own, FoundFor source markets portfolio third own

end Property

/-! ### One holding -/

namespace HeldSearch

/-- The turn of a holding looks nothing up. -/
def Passes (search : HeldSearch) (portfolio : PortfolioState) (token : String) (size : ℚ) : Prop :=
  size ≤ 0 ∨ token ∈ search.listedTokens ∨ portfolio.heldIdentifier token = none ∨
    (∃ id, portfolio.tokenConditionIds.get? token = some id ∧ id ∈ search.listedConditions) ∨
    ∃ identifier, portfolio.heldIdentifier token = some identifier ∧ identifier ∈ search.attempted

/-- The accumulators, without the report and the attempts. -/
structure SameLists (search next : HeldSearch) : Prop where
  markets : next.markets = search.markets
  heldMarketIds : next.heldMarketIds = search.heldMarketIds
  listedTokens : next.listedTokens = search.listedTokens
  listedConditions : next.listedConditions = search.listedConditions

theorem SameLists.refl (search : HeldSearch) : search.SameLists search :=
  ⟨rfl, rfl, rfl, rfl⟩

/-- What the turn of a holding can do. -/
inductive Turn (source : MarketSource) (portfolio : PortfolioState) (token : String) (size : ℚ)
    (search : HeldSearch) : HeldSearch → Prop where
  | passed {next : HeldSearch} : search.Passes portfolio token size → search.SameLists next →
      next.attempted = search.attempted → Turn source portfolio token size search next
  | refused {next : HeldSearch} {identifier : HeldIdentifier} :
      ¬ search.Passes portfolio token size → portfolio.heldIdentifier token = some identifier →
      (∀ market, source identifier = .ok market → ¬ portfolio.Matches token market) →
      search.SameLists next → next.attempted = identifier :: search.attempted →
      Turn source portfolio token size search next
  | found {identifier : HeldIdentifier} {market : ScannedMarket} :
      ¬ search.Passes portfolio token size → portfolio.heldIdentifier token = some identifier →
      source identifier = .ok market → portfolio.Matches token market →
      Turn source portfolio token size search
        ({ search with attempted := identifier :: search.attempted }.found market)

variable {source : MarketSource} {portfolio : PortfolioState} {token : String} {size : ℚ}
  {search next : HeldSearch} {log : List EngineEvent}

/-- A lookup returns what the source has. -/
theorem find_answers {identifier : HeldIdentifier} {outcome : Except PyError ScannedMarket}
    (executes : Execution (AnswersFrom source) identifier.find log outcome) :
    outcome = source identifier := by
  cases identifier with
  | condition id => exact (Execution.ask_cases executes).2
  | market id => exact (Execution.ask_cases executes).2

/-- The turn of a holding, in an environment that answers from the source. -/
theorem includeToken_cases {outcome : Except PyError HeldSearch}
    (executes : Execution (AnswersFrom source)
      (ended (search.includeToken portfolio token size)) log outcome) :
    ∃ next, outcome = .ok next ∧ Turn source portfolio token size search next := by
  obtain ⟨reached, runs, reaches⟩ := ended_cases executes
  -- Every end of the stage is the search that the call returns.
  have returns : ∀ {next : HeldSearch}, reached = .ok (.error next) → outcome = .ok next := by
    rintro next rfl
    rcases reaches with ⟨_, same, -⟩ | ⟨_, same, rfl⟩ | ⟨_, same, -⟩
    · cases same
    · cases same
      rfl
    · cases same
  unfold includeToken at runs
  rcases endIf_bind_cases runs with ⟨idle, same⟩ | ⟨awaited, runs⟩
  · exact ⟨_, returns same, .passed (idle.imp_right .inl) (.refl _) rfl⟩
  rw [not_or, not_le] at awaited
  rcases require_bind_cases runs with ⟨missing, same⟩ | ⟨identifier, identified, runs⟩
  · exact ⟨_, returns same, .passed (.inr (.inr (.inl missing))) ⟨rfl, rfl, rfl, rfl⟩ rfl⟩
  rcases endIf_bind_cases runs with ⟨⟨id, known, listed⟩, same⟩ | ⟨unlisted, runs⟩
  · exact ⟨_, returns same, .passed (.inr (.inr (.inr (.inl ⟨id, known, listed⟩))))
      ⟨rfl, rfl, rfl, rfl⟩ rfl⟩
  rcases endIf_bind_cases runs with ⟨attempted, same⟩ | ⟨fresh, runs⟩
  · exact ⟨_, returns same, .passed (.inr (.inr (.inr (.inr ⟨identifier, identified, attempted⟩))))
      (.refl _) rfl⟩
  have goes : ¬ search.Passes portfolio token size := by
    rintro (idle | listed | missing | ⟨id, known, listed⟩ | ⟨other, identified', attempted⟩)
    · exact absurd awaited.1 (not_lt.mpr idle)
    · exact awaited.2 listed
    · exact nomatch missing.symm.trans identified
    · exact unlisted ⟨id, known, listed⟩
    · cases Option.some.inj (identified.symm.trans identified')
      exact fresh attempted
  have refused : ∀ {next : HeldSearch}, reached = .ok (.error next) → search.SameLists next →
      next.attempted = identifier :: search.attempted →
      (∀ market, source identifier = .ok market → ¬ portfolio.Matches token market) →
      ∃ next, outcome = .ok next ∧ Turn source portfolio token size search next :=
    fun same lists attempted unmatched =>
      ⟨_, returns same, .refused goes identified unmatched lists attempted⟩
  rcases orEnd_bind_cases runs with ⟨problem, fails, same⟩ | ⟨_, _, market, rfl, finds, runs⟩
  · refine refused same ⟨rfl, rfl, rfl, rfl⟩ rfl fun market has => ?_
    cases (find_answers fails).trans has
  have has : source identifier = .ok market := (find_answers finds).symm
  have only : ∀ {Check : Prop}, (portfolio.Matches token market → ¬ Check) → Check →
      ∀ other, source identifier = .ok other → ¬ portfolio.Matches token other := by
    intro Check excludes check other same
    cases has.symm.trans same
    exact fun matched => excludes matched check
  rcases endIf_bind_cases runs with ⟨other, same⟩ | ⟨condition, runs⟩
  · exact refused same ⟨rfl, rfl, rfl, rfl⟩ rfl (only (fun matched => matched.1) other)
  rcases endIf_bind_cases runs with ⟨other, same⟩ | ⟨id, runs⟩
  · exact refused same ⟨rfl, rfl, rfl, rfl⟩ rfl (only (fun matched => matched.2.1) other)
  rcases endIf_bind_cases runs with ⟨other, same⟩ | ⟨event, runs⟩
  · exact refused same ⟨rfl, rfl, rfl, rfl⟩ rfl (only (fun matched => matched.2.2.1) other)
  rcases endIf_bind_cases runs with ⟨other, same⟩ | ⟨present, runs⟩
  · refine refused same ⟨rfl, rfl, rfl, rfl⟩ rfl (only (fun matched apart => ?_) other)
    exact matched.2.2.2.elim (fun yes => apart.1 yes.symm) fun no => apart.2 no.symm
  · cases runs
    refine ⟨_, ?_, .found goes identified has ⟨condition, id, event, ?_⟩⟩
    · rcases reaches with ⟨_, same, -⟩ | ⟨_, same, -⟩ | ⟨_, same, rfl⟩
      · cases same
      · cases same
      · cases same
        rfl
    · by_contra neither
      rw [ScannedMarket.Has, not_or] at neither
      exact present ⟨fun yes => neither.1 yes.symm, fun no => neither.2 no.symm⟩

/-- The turns of the holdings in order. -/
inductive Turns (source : MarketSource) (portfolio : PortfolioState) :
    List (String × ℚ) → HeldSearch → HeldSearch → Prop where
  | nil (search : HeldSearch) : Turns source portfolio [] search search
  | cons {token : String} {size : ℚ} {rest : List (String × ℚ)} {search next last : HeldSearch} :
      Turn source portfolio token size search next → Turns source portfolio rest next last →
      Turns source portfolio ((token, size) :: rest) search last

theorem includeHeldMarkets_cases {entries : List (String × ℚ)} {outcome : Except PyError HeldSearch}
    (executes : Execution (AnswersFrom source) (includeHeldMarkets portfolio entries search) log
      outcome) :
    ∃ last, outcome = .ok last ∧ Turns source portfolio entries search last := by
  induction entries generalizing search log with
  | nil =>
      cases executes
      exact ⟨search, rfl, .nil search⟩
  | cons entry rest ih =>
      rcases Execution.bind_cases executes with ⟨_, raises, -⟩ | ⟨_, _, next, rfl, turns, onward⟩
      · obtain ⟨_, same, -⟩ := includeToken_cases raises
        cases same
      · obtain ⟨_, ⟨⟩, turn⟩ := includeToken_cases turns
        obtain ⟨last, same, others⟩ := ih onward
        exact ⟨last, same, .cons turn others⟩

end HeldSearch

/-- Market data that answers from the source. -/
def answerFrom (source : MarketSource) (idle : Unit) :
    (request : EngineRequest) → Except PyError request.Response × Unit
  | .getMarketByCondition id => (source (.condition id), idle)
  | .getMarketById id => (source (.market id), idle)
  | _ => (.error (.foreign "TimeoutError"), idle)

theorem answerFrom_answers (source : MarketSource) (idle : Unit) (request : EngineRequest) :
    AnswersFrom source ⟨request, (answerFrom source idle request).1⟩ := by
  cases request <;> first | rfl | trivial

section Searches

variable {source : MarketSource} {state : CycleState} {markets : List ScannedMarket}
  {portfolio : PortfolioState} {token : String} {size : ℚ} {identifier : HeldIdentifier}
  {market other : ScannedMarket} {search next last : HeldSearch} {entries : List (String × ℚ)}

theorem Includes.turns (includes : Includes source state markets portfolio search) :
    HeldSearch.Turns source portfolio portfolio.tokenPositions.entries
      (.start state portfolio markets) search := by
  obtain ⟨log, executes⟩ := includes
  obtain ⟨_, ⟨⟩, turns⟩ := HeldSearch.includeHeldMarkets_cases executes
  exact turns

/-- The loop always returns a search. -/
theorem includes_exists (source : MarketSource) (state : CycleState) (markets : List ScannedMarket)
    (portfolio : PortfolioState) : ∃ search, Includes source state markets portfolio search := by
  have executes := run_execution (answerFrom_answers source) (includeHeldMarkets portfolio
    portfolio.tokenPositions.entries (.start state portfolio markets)) ()
  obtain ⟨search, same, -⟩ := HeldSearch.includeHeldMarkets_cases executes
  rw [same] at executes
  exact ⟨search, _, executes⟩

/-! ### Lookups -/

/-- The turn of a holding that is not passed looks it up. -/
theorem LookedUp.of_goes (tokens : ∀ token, Listed markets token → token ∈ search.listedTokens)
    (conditions : ∀ id, (∃ market ∈ markets, market.conditionId = some id) →
      id ∈ search.listedConditions)
    (goes : ¬ search.Passes portfolio token size)
    (identified : portfolio.heldIdentifier token = some identifier) :
    LookedUp markets portfolio token identifier where
  unlisted listed := goes (.inr (.inl (tokens token listed)))
  identified := identified
  fresh id known market member same :=
    goes (.inr (.inr (.inr (.inl ⟨id, known, conditions id ⟨market, member, same⟩⟩))))

theorem LookedUp.unique {identifier' : HeldIdentifier}
    (looked : LookedUp markets portfolio token identifier)
    (looked' : LookedUp markets portfolio token identifier') : identifier = identifier' :=
  Option.some.inj (looked.identified.symm.trans looked'.identified)

/-- A holding that is found under an identifier is found in what the source has for it. -/
theorem FoundFor.source_eq (found : FoundFor source markets portfolio token market)
    (looked : LookedUp markets portfolio token identifier) : source identifier = .ok market := by
  obtain ⟨identifier', looked', has, -⟩ := found
  rwa [looked.unique looked']

theorem FoundFor.unique (found : FoundFor source markets portfolio token market)
    (found' : FoundFor source markets portfolio token other) : market = other := by
  obtain ⟨identifier, looked, has, -⟩ := found
  exact Except.ok.inj (has.symm.trans (found'.source_eq looked))

theorem FoundFor.has (found : FoundFor source markets portfolio token market) :
    market.Has token := by
  obtain ⟨_, -, -, matched⟩ := found
  exact matched.2.2.2

theorem FoundFor.unlisted (found : FoundFor source markets portfolio token market) :
    ¬ Listed markets token := by
  obtain ⟨_, looked, -⟩ := found
  exact looked.unlisted

theorem PortfolioState.holds_iff :
    portfolio.Holds token ↔ 0 < amount portfolio.tokenPositions token := by
  constructor
  · rintro ⟨size, member, positive⟩
    unfold amount
    rwa [Dict.get?_eq_some_iff.mpr member]
  · intro positive
    unfold amount at positive
    cases found : portfolio.tokenPositions.get? token with
    | none =>
        rw [found] at positive
        exact absurd positive (lt_irrefl 0)
    | some size =>
        rw [found] at positive
        exact ⟨size, Dict.get?_eq_some_iff.mp found, positive⟩

/-! ### What a search has found -/

/-- A search after the turns of the entries, which has found these markets. -/
structure Searched (source : MarketSource) (markets : List ScannedMarket)
    (portfolio : PortfolioState) (heldMarketIds : List String) (entries : List (String × ℚ))
    (search : HeldSearch) (added : List ScannedMarket) : Prop where
  appended : search.markets = markets ++ added
  ids : ∀ id, id ∈ search.heldMarketIds ↔ id ∈ heldMarketIds ∨ ∃ market ∈ added, market.id = id
  tokens : ∀ token, token ∈ search.listedTokens ↔
    Listed markets token ∨ ∃ market ∈ added, market.Has token
  conditions : ∀ id, id ∈ search.listedConditions ↔
    (∃ market ∈ markets, market.conditionId = some id) ∨
      ∃ market ∈ added, market.conditionId = some id
  found : ∀ market ∈ added, ∃ token size, (token, size) ∈ entries ∧ 0 < size ∧
    FoundFor source markets portfolio token market
  attempted : ∀ identifier ∈ search.attempted, ∃ token size, (token, size) ∈ entries ∧ 0 < size ∧
    LookedUp markets portfolio token identifier ∧
      ∀ market, FoundFor source markets portfolio token market → market ∈ added
  settled : ∀ token size market, (token, size) ∈ entries → 0 < size →
    FoundFor source markets portfolio token market →
      market ∈ added ∨ (∃ other ∈ added, other.Has token) ∨
        (∃ id, portfolio.tokenConditionIds.get? token = some id ∧
          ∃ other ∈ added, other.conditionId = some id) ∨
        ∃ identifier, LookedUp markets portfolio token identifier ∧ identifier ∈ search.attempted

theorem mem_start_listedTokens :
    token ∈ (HeldSearch.start state portfolio markets).listedTokens ↔ Listed markets token := by
  simp only [HeldSearch.start, List.mem_flatMap, List.mem_cons, List.not_mem_nil, or_false, Listed,
    ScannedMarket.Has, @eq_comm _ token]

theorem mem_start_listedConditions {id : String} :
    id ∈ (HeldSearch.start state portfolio markets).listedConditions ↔
      ∃ market ∈ markets, market.conditionId = some id :=
  List.mem_filterMap

theorem searched_start (state : CycleState) : Searched source markets portfolio
    (HeldSearch.start state portfolio markets).heldMarketIds []
      (.start state portfolio markets) [] where
  appended := (List.append_nil markets).symm
  ids id := by simp
  tokens token := by simp [mem_start_listedTokens]
  conditions id := by simp [mem_start_listedConditions]
  found _ := nofun
  attempted _ := nofun
  settled _ _ _ := nofun

section Turns

variable {heldMarketIds : List String} {added : List ScannedMarket}

theorem Searched.looks_up
    (searched : Searched source markets portfolio heldMarketIds entries search added)
    (goes : ¬ search.Passes portfolio token size)
    (identified : portfolio.heldIdentifier token = some identifier) :
    LookedUp markets portfolio token identifier :=
  .of_goes (fun token listed => (searched.tokens token).mpr (.inl listed))
    (fun id known => (searched.conditions id).mpr (.inl known)) goes identified

/-- Why a holding that the source would have found was passed. -/
theorem Searched.passed_found
    (searched : Searched source markets portfolio heldMarketIds entries search added)
    (passes : search.Passes portfolio token size) (positive : 0 < size)
    (found : FoundFor source markets portfolio token market) :
    (∃ other ∈ added, other.Has token) ∨
      (∃ id, portfolio.tokenConditionIds.get? token = some id ∧
        ∃ other ∈ added, other.conditionId = some id) ∨
      ∃ identifier, LookedUp markets portfolio token identifier ∧
        identifier ∈ search.attempted := by
  obtain ⟨identifier, looked, -, -⟩ := found
  rcases passes with idle | listed | missing | ⟨id, known, listed⟩ | ⟨other, identified, attempted⟩
  · exact absurd positive (not_lt.mpr idle)
  · exact .inl (((searched.tokens token).mp listed).resolve_left looked.unlisted)
  · exact nomatch missing.symm.trans looked.identified
  · refine .inr (.inl ⟨id, known, ((searched.conditions id).mp listed).resolve_left ?_⟩)
    rintro ⟨market, member, same⟩
    exact looked.fresh id known market member same
  · cases Option.some.inj (looked.identified.symm.trans identified)
    exact .inr (.inr ⟨identifier, looked, attempted⟩)

/-- The turn of another holding finds no more than its own market. -/
theorem Searched.turn
    (searched : Searched source markets portfolio heldMarketIds entries search added)
    (turn : HeldSearch.Turn source portfolio token size search next) :
    ∃ added', Searched source markets portfolio heldMarketIds (entries ++ [(token, size)]) next
      added' := by
  have earlier : ∀ {entry : String × ℚ}, entry ∈ entries → entry ∈ entries ++ [(token, size)] :=
    List.mem_append_left _
  have foundEarlier : ∀ market ∈ added, ∃ token' size',
      (token', size') ∈ entries ++ [(token, size)] ∧ 0 < size' ∧
        FoundFor source markets portfolio token' market := by
    intro market member
    obtain ⟨token', size', inside, rest⟩ := searched.found market member
    exact ⟨token', size', earlier inside, rest⟩
  cases turn with
  | passed passes lists attempts =>
      refine ⟨added, ?_, ?_, ?_, ?_, foundEarlier, ?_, ?_⟩
      · rw [lists.markets, searched.appended]
      · rw [lists.heldMarketIds]
        exact searched.ids
      · rw [lists.listedTokens]
        exact searched.tokens
      · rw [lists.listedConditions]
        exact searched.conditions
      · rw [attempts]
        intro identifier member
        obtain ⟨token', size', inside, rest⟩ := searched.attempted identifier member
        exact ⟨token', size', earlier inside, rest⟩
      · rw [attempts]
        intro token' size' market member positive found
        rcases List.mem_append.mp member with before | now
        · exact searched.settled token' size' market before positive found
        · cases List.mem_singleton.mp now
          exact .inr (searched.passed_found passes positive found)
  | refused goes identified unmatched lists attempts =>
      have looked := searched.looks_up goes identified
      have unfound : ∀ market, ¬ FoundFor source markets portfolio token market := by
        intro market found
        have has := found.source_eq looked
        obtain ⟨_, -, -, matched⟩ := found
        exact unmatched market has matched
      refine ⟨added, ?_, ?_, ?_, ?_, foundEarlier, ?_, ?_⟩
      · rw [lists.markets, searched.appended]
      · rw [lists.heldMarketIds]
        exact searched.ids
      · rw [lists.listedTokens]
        exact searched.tokens
      · rw [lists.listedConditions]
        exact searched.conditions
      · rw [attempts, List.forall_mem_cons]
        refine ⟨⟨token, size, List.mem_append_right _ (List.mem_singleton_self _), ?_, looked,
          fun market found => absurd found (unfound market)⟩, fun identifier member => ?_⟩
        · exact not_le.mp fun idle => goes (.inl idle)
        · obtain ⟨token', size', inside, rest⟩ := searched.attempted identifier member
          exact ⟨token', size', earlier inside, rest⟩
      · rw [attempts]
        intro token' size' market member positive found
        rcases List.mem_append.mp member with before | now
        · exact (searched.settled token' size' market before positive found).imp_right
            (.imp_right (.imp_right fun ⟨identifier, looked, attempted⟩ =>
              ⟨identifier, looked, List.mem_cons_of_mem _ attempted⟩))
        · cases List.mem_singleton.mp now
          exact absurd found (unfound market)
  | @found identifier market goes identified has matched =>
      have looked := searched.looks_up goes identified
      have found : FoundFor source markets portfolio token market :=
        ⟨identifier, looked, has, matched⟩
      have positive : 0 < size := not_le.mp fun idle => goes (.inl idle)
      have here : (token, size) ∈ entries ++ [(token, size)] :=
        List.mem_append_right _ (List.mem_singleton_self _)
      have old : ∀ {other}, other ∈ added → other ∈ added ++ [market] := List.mem_append_left _
      have new : market ∈ added ++ [market] := List.mem_append_right _ (List.mem_singleton_self _)
      refine ⟨added ++ [market], ?_, ?_, ?_, ?_, ?_, ?_, ?_⟩
      · change search.markets ++ [market] = _
        rw [searched.appended, List.append_assoc]
      · intro id
        change id ∈ market.id :: search.heldMarketIds ↔ _
        rw [List.mem_cons, searched.ids]
        simp only [List.mem_append, List.mem_singleton, or_and_right, exists_or, exists_eq_left,
          @eq_comm _ id]
        exact or_comm.trans or_assoc
      · intro token'
        change token' ∈ market.yesTokenId :: market.noTokenId :: search.listedTokens ↔ _
        rw [List.mem_cons, List.mem_cons, searched.tokens]
        simp only [List.mem_append, List.mem_singleton, or_and_right, exists_or, exists_eq_left,
          ScannedMarket.Has, @eq_comm _ token']
        exact (or_assoc.symm.trans or_comm).trans or_assoc
      · intro id
        change id ∈ market.conditionId.toList ++ search.listedConditions ↔ _
        rw [List.mem_append, Option.mem_toList, searched.conditions]
        simp only [List.mem_append, List.mem_singleton, or_and_right, exists_or, exists_eq_left]
        exact or_comm.trans or_assoc
      · intro other member
        rcases List.mem_append.mp member with before | now
        · exact foundEarlier other before
        · cases List.mem_singleton.mp now
          exact ⟨token, size, here, positive, found⟩
      · change ∀ identifier' ∈ identifier :: search.attempted, _
        rw [List.forall_mem_cons]
        refine ⟨⟨token, size, here, positive, looked, fun other found' => ?_⟩,
          fun other member => ?_⟩
        · rw [← found.unique found']
          exact new
        · obtain ⟨token', size', inside, positive', looked', finds⟩ :=
            searched.attempted other member
          exact ⟨token', size', earlier inside, positive', looked',
            fun own found' => old (finds own found')⟩
      · intro token' size' own member positive' found'
        rcases List.mem_append.mp member with before | now
        · rcases searched.settled token' size' own before positive' found' with
            inside | ⟨other, inside, has'⟩ | ⟨id, known, other, inside, same⟩ |
              ⟨other, looked', attempted⟩
          · exact .inl (old inside)
          · exact .inr (.inl ⟨other, old inside, has'⟩)
          · exact .inr (.inr (.inl ⟨id, known, other, old inside, same⟩))
          · exact .inr (.inr (.inr ⟨other, looked', List.mem_cons_of_mem _ attempted⟩))
        · cases List.mem_singleton.mp now
          rw [← found.unique found']
          exact .inl new

end Turns

theorem Searched.turns {heldMarketIds : List String} {added : List ScannedMarket}
    {rest : List (String × ℚ)}
    (searched : Searched source markets portfolio heldMarketIds entries search added)
    (turns : HeldSearch.Turns source portfolio rest search last) :
    ∃ added', Searched source markets portfolio heldMarketIds (entries ++ rest) last added' := by
  induction turns generalizing entries added with
  | nil search => exact ⟨added, by rwa [List.append_nil]⟩
  | cons turn _ ih =>
      obtain ⟨_, further⟩ := searched.turn turn
      obtain ⟨added', whole⟩ := ih further
      exact ⟨added', by rwa [List.append_assoc] at whole⟩

/-- The search that the loop returns. -/
theorem Includes.searched (includes : Includes source state markets portfolio search) :
    ∃ added, Searched source markets portfolio
      (HeldSearch.start state portfolio markets).heldMarketIds portfolio.tokenPositions.entries
        search added :=
  (searched_start state).turns includes.turns

/-! ### What is covered -/

theorem mem_start_heldMarketIds {id : String} :
    id ∈ (HeldSearch.start state portfolio markets).heldMarketIds ↔
      ∃ market ∈ markets, (∃ token, portfolio.Holds token ∧ market.Has token) ∧ market.id = id := by
  simp only [HeldSearch.start, List.mem_map, List.mem_filter, Bool.or_eq_true, decide_eq_true_eq,
    and_assoc, PortfolioState.holds_iff, ScannedMarket.Has]
  refine exists_congr fun market => and_congr_right fun _ => and_congr_left fun _ => ?_
  constructor
  · rintro (yes | no)
    · exact ⟨_, yes, .inl rfl⟩
    · exact ⟨_, no, .inr rfl⟩
  · rintro ⟨token, held, rfl | rfl⟩
    · exact .inl held
    · exact .inr held

/-- A holding is covered if a market of the search has it. -/
theorem Includes.covers_iff (includes : Includes source state markets portfolio search)
    (held : portfolio.Holds token) : search.Covers token ↔ token ∈ search.listedTokens := by
  obtain ⟨added, searched⟩ := includes.searched
  rw [searched.tokens]
  unfold HeldSearch.Covers
  simp only [searched.appended, List.mem_append, or_and_right, exists_or]
  refine or_congr (exists_congr fun market => and_congr_right fun member => ?_)
    (exists_congr fun market => and_congr_right fun member => ?_)
  · refine and_iff_left_of_imp fun has => (searched.ids _).mpr (.inl ?_)
    exact mem_start_heldMarketIds.mpr ⟨market, member, ⟨token, held, has⟩, rfl⟩
  · exact and_iff_left_of_imp fun _ => (searched.ids _).mpr (.inr ⟨market, member, rfl⟩)

section Together

variable (compatible : Compatible source markets portfolio)
include compatible

/-- Among compatible holdings, what is found for one of them is in every search, up to its
id and the holdings. -/
theorem Compatible.reaches (includes : Includes source state markets portfolio search)
    (held : portfolio.Holds token) (found : FoundFor source markets portfolio token market) :
    market.id ∈ search.heldMarketIds ∧
      ∀ third, portfolio.Holds third → market.Has third → third ∈ search.listedTokens := by
  obtain ⟨added, searched⟩ := includes.searched
  -- A holding that is found itself is listed, whatever found it first.
  suffices reached : ∀ token market, portfolio.Holds token →
      FoundFor source markets portfolio token market → ∃ other ∈ added, other.Has token ∧
        (other = market ∨ ∃ first, portfolio.Holds first ∧
          FoundFor source markets portfolio first other) by
    obtain ⟨other, member, has, same⟩ := reached token market held found
    rcases same with rfl | ⟨first, holds, finds⟩
    · exact ⟨(searched.ids _).mpr (.inr ⟨other, member, rfl⟩), fun third _ inside =>
        (searched.tokens third).mpr (.inr ⟨other, member, inside⟩)⟩
    · obtain ⟨id, others⟩ :=
        compatible.agreement first token other market holds held finds found has
      refine ⟨(searched.ids _).mpr (.inr ⟨other, member, id⟩), fun third third_held inside => ?_⟩
      rcases others third third_held inside with inside | listed | ⟨own, finds'⟩
      · exact (searched.tokens third).mpr (.inr ⟨other, member, inside⟩)
      · exact (searched.tokens third).mpr (.inl listed)
      · obtain ⟨other', member', has', -⟩ := reached third own third_held finds'
        exact (searched.tokens third).mpr (.inr ⟨other', member', has'⟩)
  intro token market held found
  obtain ⟨size, inside, positive⟩ := held
  have holder : ∀ other ∈ added, ∃ first, portfolio.Holds first ∧
      FoundFor source markets portfolio first other := by
    intro other member
    obtain ⟨first, size, inside, positive, finds⟩ := searched.found other member
    exact ⟨first, ⟨size, inside, positive⟩, finds⟩
  rcases searched.settled token size market inside positive found with
    member | ⟨other, member, has⟩ | ⟨id, known, other, member, same⟩ |
      ⟨identifier, looked, attempted⟩
  · exact ⟨market, member, found.has, .inl rfl⟩
  · exact ⟨other, member, has, .inr (holder other member)⟩
  · obtain ⟨first, first_held, finds⟩ := holder other member
    by_contra absent
    have apart : ¬ other.Has token :=
      fun has => absent ⟨other, member, has, .inr ⟨first, first_held, finds⟩⟩
    exact compatible.conditions first token other market id first_held ⟨size, inside, positive⟩
      finds found apart known same
  · obtain ⟨second, size', inside', positive', looked', finds⟩ :=
      searched.attempted identifier attempted
    obtain ⟨own, found'⟩ := compatible.identifiers token second identifier market
      ⟨size, inside, positive⟩ ⟨size', inside', positive'⟩ found looked looked'
    have same : market = own :=
      Except.ok.inj ((found.source_eq looked).symm.trans (found'.source_eq looked'))
    subst same
    exact ⟨market, finds market found', found.has, .inl rfl⟩

theorem Compatible.covers_iff (includes : Includes source state markets portfolio search)
    (held : portfolio.Holds token) : search.Covers token ↔ Listed markets token ∨
      ∃ first market, portfolio.Holds first ∧ FoundFor source markets portfolio first market ∧
        market.Has token := by
  rw [includes.covers_iff held]
  obtain ⟨added, searched⟩ := includes.searched
  constructor
  · intro listed
    refine ((searched.tokens token).mp listed).imp_right ?_
    rintro ⟨market, member, has⟩
    obtain ⟨first, size, inside, positive, found⟩ := searched.found market member
    exact ⟨first, market, ⟨size, inside, positive⟩, found, has⟩
  · rintro (listed | ⟨first, market, holds, found, has⟩)
    · exact (searched.tokens token).mpr (.inl listed)
    · exact (compatible.reaches includes holds found).2 token held has

theorem Compatible.mem_heldMarketIds (includes : Includes source state markets portfolio search)
    {id : String} : id ∈ search.heldMarketIds ↔
      (∃ market ∈ markets, (∃ token, portfolio.Holds token ∧ market.Has token) ∧ market.id = id) ∨
        ∃ first market, portfolio.Holds first ∧ FoundFor source markets portfolio first market ∧
          market.id = id := by
  obtain ⟨added, searched⟩ := includes.searched
  constructor
  · intro member
    refine ((searched.ids id).mp member).imp mem_start_heldMarketIds.mp ?_
    rintro ⟨market, member, same⟩
    obtain ⟨first, size, inside, positive, found⟩ := searched.found market member
    exact ⟨first, market, ⟨size, inside, positive⟩, found, same⟩
  · rintro (listed | ⟨first, market, holds, found, rfl⟩)
    · exact (searched.ids id).mpr (.inl (mem_start_heldMarketIds.mpr listed))
    · exact (compatible.reaches includes holds found).1

end Together

/-! ### Fewer holdings -/

section Fewer

variable {positions : Dict String ℚ}

theorem lookedUp_withPositions :
    LookedUp markets (portfolio.withPositions positions) token identifier ↔
      LookedUp markets portfolio token identifier :=
  ⟨fun looked => ⟨looked.unlisted, looked.identified, looked.fresh⟩,
    fun looked => ⟨looked.unlisted, looked.identified, looked.fresh⟩⟩

theorem foundFor_withPositions :
    FoundFor source markets (portfolio.withPositions positions) token market ↔
      FoundFor source markets portfolio token market :=
  exists_congr fun _ => and_congr_left fun _ => lookedUp_withPositions

theorem Compatible.withPositions (compatible : Compatible source markets portfolio)
    (part : positions.entries ⊆ portfolio.tokenPositions.entries) :
    Compatible source markets (portfolio.withPositions positions) := by
  have held : ∀ {token}, (portfolio.withPositions positions).Holds token →
      portfolio.Holds token := by
    rintro token ⟨size, inside, positive⟩
    exact ⟨size, part inside, positive⟩
  refine ⟨?_, ?_, ?_⟩
  · intro first second identifier market first_held second_held found looked looked'
    simp only [foundFor_withPositions, lookedUp_withPositions] at found looked looked' ⊢
    exact compatible.identifiers first second identifier market (held first_held) (held second_held)
      found looked looked'
  · intro first second market other id first_held second_held found found'
    simp only [foundFor_withPositions] at found found'
    exact compatible.conditions first second market other id (held first_held) (held second_held)
      found found'
  · intro first second market other first_held second_held found found' has
    simp only [foundFor_withPositions] at found found' ⊢
    obtain ⟨same, others⟩ := compatible.agreement first second market other (held first_held)
      (held second_held) found found' has
    exact ⟨same, fun third third_held => others third (held third_held)⟩

end Fewer

/-- Compatible holdings stay reachable. -/
theorem Compatible.stays_reachable (compatible : Compatible source markets portfolio) :
    StaysReachable source state markets portfolio where
  covered token size inside positive alone whole includes_alone covers includes := by
    have part : (Dict.empty.set token size : Dict String ℚ).entries ⊆
        portfolio.tokenPositions.entries := by
      intro entry member
      cases List.mem_singleton.mp member
      exact inside
    have held_alone : (portfolio.withPositions (Dict.empty.set token size)).Holds token :=
      ⟨size, List.mem_singleton_self _, positive⟩
    have found_alone :=
      ((compatible.withPositions part).covers_iff includes_alone held_alone).mp covers
    refine (compatible.covers_iff includes ⟨size, inside, positive⟩).mpr (found_alone.imp_right ?_)
    rintro ⟨first, market, ⟨size', inside', positive'⟩, found, has⟩
    exact ⟨first, market, ⟨size', part inside', positive'⟩, foundFor_withPositions.mp found, has⟩
  unordered positions same first second includes_first includes_second := by
    have holds : ∀ token, (portfolio.withPositions positions).Holds token ↔ portfolio.Holds token :=
      fun token => exists_congr fun size => and_congr_left fun _ => same.mem_iff
    have permuted := compatible.withPositions same.subset
    refine ⟨fun token held => ?_, fun id => ?_⟩
    · rw [compatible.covers_iff includes_first held,
        permuted.covers_iff includes_second ((holds token).mpr held)]
      simp only [holds, foundFor_withPositions]
    · rw [compatible.mem_heldMarketIds includes_first, permuted.mem_heldMarketIds includes_second]
      simp only [holds, foundFor_withPositions]

/-! ### Holdings in the way -/

theorem LookedUp.goes (looked : LookedUp markets portfolio token identifier) (positive : 0 < size) :
    ¬ (HeldSearch.start state portfolio markets).Passes portfolio token size := by
  rintro (idle | listed | missing | ⟨id, known, listed⟩ | ⟨_, -, attempted⟩)
  · exact absurd positive (not_lt.mpr idle)
  · exact looked.unlisted (mem_start_listedTokens.mp listed)
  · exact nomatch missing.symm.trans looked.identified
  · obtain ⟨market, member, same⟩ := mem_start_listedConditions.mp listed
    exact looked.fresh id known market member same
  · cases attempted

theorem HeldSearch.Turn.of_passes (turn : HeldSearch.Turn source portfolio token size search next)
    (passes : search.Passes portfolio token size) :
    search.SameLists next ∧ next.attempted = search.attempted := by
  cases turn with
  | passed _ lists attempts => exact ⟨lists, attempts⟩
  | refused goes => exact absurd passes goes
  | found goes => exact absurd passes goes

theorem HeldSearch.Turn.of_found (turn : HeldSearch.Turn source portfolio token size search next)
    (goes : ¬ search.Passes portfolio token size)
    (found : FoundFor source markets portfolio token market) :
    ∃ identifier, next =
      { search with attempted := identifier :: search.attempted }.found market := by
  obtain ⟨identifier, looked, has, matched⟩ := found
  cases turn with
  | passed passes => exact absurd passes goes
  | refused _ identified unmatched =>
      cases Option.some.inj (looked.identified.symm.trans identified)
      exact absurd matched (unmatched market has)
  | found _ identified has' =>
      cases Option.some.inj (looked.identified.symm.trans identified)
      cases has.symm.trans has'
      exact ⟨_, rfl⟩

/-- A holding that is looked up in vain only adds its identifier to the attempts. -/
theorem HeldSearch.Turn.of_unfound (turn : HeldSearch.Turn source portfolio token size search next)
    (goes : ¬ search.Passes portfolio token size)
    (looked : LookedUp markets portfolio token identifier)
    (unfound : ∀ own, ¬ FoundFor source markets portfolio token own) :
    search.SameLists next ∧ next.attempted = identifier :: search.attempted := by
  cases turn with
  | passed passes => exact absurd passes goes
  | refused _ identified _ lists attempts =>
      cases Option.some.inj (looked.identified.symm.trans identified)
      exact ⟨lists, attempts⟩
  | found _ identified has matched =>
      cases Option.some.inj (looked.identified.symm.trans identified)
      exact absurd ⟨_, looked, has, matched⟩ (unfound _)

/-- Nothing that is listed or held is dropped. -/
structure HeldSearch.Within (search next : HeldSearch) : Prop where
  listedTokens : search.listedTokens ⊆ next.listedTokens
  heldMarketIds : search.heldMarketIds ⊆ next.heldMarketIds

theorem HeldSearch.SameLists.within (lists : search.SameLists next) : search.Within next :=
  ⟨lists.listedTokens ▸ List.Subset.refl _, lists.heldMarketIds ▸ List.Subset.refl _⟩

theorem HeldSearch.Turn.within (turn : HeldSearch.Turn source portfolio token size search next) :
    search.Within next := by
  cases turn with
  | passed _ lists => exact lists.within
  | refused _ _ _ lists => exact lists.within
  | found =>
      exact ⟨fun token member => List.mem_cons_of_mem _ (List.mem_cons_of_mem _ member),
        fun id member => List.mem_cons_of_mem _ member⟩

theorem HeldSearch.Turns.within (turns : HeldSearch.Turns source portfolio entries search last) :
    search.Within last := by
  induction turns with
  | nil search => exact (HeldSearch.SameLists.refl search).within
  | cons turn _ ih =>
      exact ⟨List.Subset.trans turn.within.listedTokens ih.listedTokens,
        List.Subset.trans turn.within.heldMarketIds ih.heldMarketIds⟩

/-- The first holding, if it is found. -/
theorem HeldSearch.Turn.of_first
    (turn : HeldSearch.Turn source portfolio token size (.start state portfolio markets) next)
    (positive : 0 < size) (found : FoundFor source markets portfolio token market) :
    ∃ identifier, next =
      { HeldSearch.start state portfolio markets with attempted := [identifier] }.found market := by
  obtain ⟨identifier, looked, rest⟩ := found
  exact turn.of_found (looked.goes positive) ⟨identifier, looked, rest⟩

theorem HeldSearch.Turn.lists_found
    (turn : HeldSearch.Turn source portfolio token size (.start state portfolio markets) next)
    (positive : 0 < size) (found : FoundFor source markets portfolio token market) :
    token ∈ next.listedTokens := by
  obtain ⟨_, rfl⟩ := turn.of_first positive found
  rcases found.has with rfl | rfl
  · exact List.mem_cons_self
  · exact List.mem_cons_of_mem _ List.mem_cons_self

/-- A holding that is found alone is listed in the end. -/
theorem StaysReachable.lists (stays : StaysReachable source state markets portfolio)
    (includes : Includes source state markets portfolio search)
    (inside : (token, size) ∈ portfolio.tokenPositions.entries) (positive : 0 < size)
    (found : FoundFor source markets portfolio token market) : token ∈ search.listedTokens := by
  obtain ⟨alone, includes_alone⟩ := includes_exists source state markets
    (portfolio.withPositions (Dict.empty.set token size))
  have held_alone : (portfolio.withPositions (Dict.empty.set token size)).Holds token :=
    ⟨size, List.mem_singleton_self _, positive⟩
  have found_alone : FoundFor source markets
      (portfolio.withPositions (Dict.empty.set token size)) token market :=
    foundFor_withPositions.mpr found
  refine (includes.covers_iff ⟨size, inside, positive⟩).mp
    (stays.covered token size inside positive alone search includes_alone ?_ includes)
  refine (includes_alone.covers_iff held_alone).mpr ?_
  cases includes_alone.turns with
  | cons turn last =>
      cases last
      exact turn.lists_found positive found_alone

section Pairs

variable {first second third : String} {size' size'' : ℚ}

/-- A refused holding with the identifier of the one after it is in its way. -/
theorem StaysReachable.identifiers (stays : StaysReachable source state markets portfolio)
    (entries : portfolio.tokenPositions.entries = [(second, size'), (first, size)])
    (positive : 0 < size) (positive' : 0 < size')
    (found : FoundFor source markets portfolio first market)
    (looked : LookedUp markets portfolio first identifier)
    (looked' : LookedUp markets portfolio second identifier) :
    ∃ own, FoundFor source markets portfolio second own := by
  by_contra unfound
  rw [not_exists] at unfound
  obtain ⟨search, includes⟩ := includes_exists source state markets portfolio
  have listed : first ∈ search.listedTokens :=
    stays.lists includes (entries ▸ List.mem_cons_of_mem _ List.mem_cons_self) positive found
  have turns := includes.turns
  rw [entries] at turns
  cases turns with
  | cons turn rest =>
      obtain ⟨lists, attempts⟩ := turn.of_unfound (looked'.goes positive') looked' unfound
      cases rest with
      | cons turn' last =>
          cases last
          obtain ⟨lists', -⟩ := turn'.of_passes (.inr (.inr (.inr (.inr
            ⟨identifier, looked.identified, attempts ▸ List.mem_cons_self⟩))))
          rw [lists'.listedTokens, lists.listedTokens, mem_start_listedTokens] at listed
          exact looked.unlisted listed

/-- A market that was found before with the condition of a holding is in its way. -/
theorem StaysReachable.conditions (stays : StaysReachable source state markets portfolio)
    {id : String} (entries : portfolio.tokenPositions.entries = [(first, size), (second, size')])
    (positive : 0 < size) (positive' : 0 < size')
    (found : FoundFor source markets portfolio first market)
    (found' : FoundFor source markets portfolio second other) (apart : ¬ market.Has second)
    (known : portfolio.tokenConditionIds.get? second = some id) : market.conditionId ≠ some id := by
  intro same
  obtain ⟨search, includes⟩ := includes_exists source state markets portfolio
  have listed : second ∈ search.listedTokens :=
    stays.lists includes (entries ▸ List.mem_cons_of_mem _ List.mem_cons_self) positive' found'
  have turns := includes.turns
  rw [entries] at turns
  cases turns with
  | cons turn rest =>
      obtain ⟨_, rfl⟩ := turn.of_first positive found
      cases rest with
      | cons turn' last =>
          cases last
          obtain ⟨lists', -⟩ := turn'.of_passes (.inr (.inr (.inr (.inl ⟨id, known,
            List.mem_append_left _ (Option.mem_toList.mpr same)⟩))))
          rw [lists'.listedTokens] at listed
          change second ∈ market.yesTokenId :: market.noTokenId :: _ at listed
          rw [List.mem_cons, List.mem_cons, mem_start_listedTokens] at listed
          rcases listed with rfl | rfl | listed
          · exact apart (.inl rfl)
          · exact apart (.inr rfl)
          · exact found'.unlisted listed

/-- The first holding, if it is found, is in the search with its market. -/
theorem HeldSearch.Turns.of_first (turns : HeldSearch.Turns source portfolio
      ((first, size) :: entries) (.start state portfolio markets) last)
    (positive : 0 < size) (found : FoundFor source markets portfolio first market) :
    market.id ∈ last.heldMarketIds ∧ ∀ token, market.Has token → token ∈ last.listedTokens := by
  cases turns with
  | cons turn rest =>
      obtain ⟨_, rfl⟩ := turn.of_first positive found
      refine ⟨rest.within.heldMarketIds List.mem_cons_self, fun token has =>
        rest.within.listedTokens ?_⟩
      rcases has with rfl | rfl
      · exact List.mem_cons_self
      · exact List.mem_cons_of_mem _ List.mem_cons_self

/-- A holding that the market of the one before it has is passed. -/
theorem HeldSearch.Turns.of_shared (turns : HeldSearch.Turns source portfolio
      ((first, size) :: (second, size') :: entries) (.start state portfolio markets) last)
    (positive : 0 < size) (found : FoundFor source markets portfolio first market)
    (has : market.Has second) :
    ∃ identifier next, HeldSearch.Turns source portfolio entries next last ∧
      ({ HeldSearch.start state portfolio markets with
        attempted := [identifier] }.found market).SameLists next := by
  cases turns with
  | cons turn rest =>
      obtain ⟨identifier, rfl⟩ := turn.of_first positive found
      cases rest with
      | cons turn' last =>
          refine ⟨identifier, _, last, (turn'.of_passes (.inr (.inl ?_))).1⟩
          rcases has with rfl | rfl
          · exact List.mem_cons_self
          · exact List.mem_cons_of_mem _ List.mem_cons_self

/-- No discovered market is held, if every holding is found. -/
theorem not_mem_start_heldMarketIds (state : CycleState) {id : String}
    (unlisted : ∀ token, portfolio.Holds token → ¬ Listed markets token) :
    id ∉ (HeldSearch.start state portfolio markets).heldMarketIds := by
  rw [mem_start_heldMarketIds]
  rintro ⟨market, member, ⟨token, held, has⟩, -⟩
  exact unlisted token held ⟨market, member, has⟩

/-- A market that is found for one holding and has another has the id of the one that is found
for the other. -/
theorem StaysReachable.same_id (stays : StaysReachable source state markets portfolio)
    (positions : Dict String ℚ)
    (entries : portfolio.tokenPositions.entries = [(first, size), (second, size')])
    (swapped : positions.entries = [(second, size'), (first, size)])
    (positive : 0 < size) (positive' : 0 < size')
    (found : FoundFor source markets portfolio first market)
    (found' : FoundFor source markets portfolio second other) (has : market.Has second) :
    market.id = other.id := by
  obtain ⟨search, includes⟩ := includes_exists source state markets portfolio
  obtain ⟨search', includes'⟩ := includes_exists source state markets
    (portfolio.withPositions positions)
  have same : positions.entries.Perm portfolio.tokenPositions.entries := by
    rw [entries, swapped]
    exact List.Perm.swap ..
  have turns := includes.turns
  rw [entries] at turns
  have turns' := includes'.turns
  change HeldSearch.Turns source _ positions.entries _ _ at turns'
  rw [swapped] at turns'
  obtain ⟨inside, -⟩ := turns'.of_first positive' (foundFor_withPositions.mpr found')
  have member := ((stays.unordered positions same search search' includes includes').2 other.id).mpr
    inside
  obtain ⟨_, next, last, lists⟩ := turns.of_shared positive found has
  cases last
  rw [lists.heldMarketIds] at member
  refine ((List.mem_cons.mp member).resolve_right (not_mem_start_heldMarketIds state ?_)).symm
  rintro token ⟨_, inside, -⟩
  rw [entries] at inside
  rcases List.mem_cons.mp inside with same | inside
  · cases same
    exact found.unlisted
  · cases List.mem_singleton.mp inside
    exact found'.unlisted

/-- And a third holding of the other market is not lost to it. -/
theorem StaysReachable.third_kept (stays : StaysReachable source state markets portfolio)
    (positions : Dict String ℚ)
    (entries : portfolio.tokenPositions.entries =
      [(first, size), (second, size'), (third, size'')])
    (swapped : positions.entries = [(second, size'), (first, size), (third, size'')])
    (positive : 0 < size) (positive' : 0 < size') (positive'' : 0 < size'')
    (found : FoundFor source markets portfolio first market)
    (found' : FoundFor source markets portfolio second other) (has : market.Has second)
    (has' : other.Has third) :
    market.Has third ∨ Listed markets third ∨
      ∃ own, FoundFor source markets portfolio third own := by
  obtain ⟨search, includes⟩ := includes_exists source state markets portfolio
  obtain ⟨search', includes'⟩ := includes_exists source state markets
    (portfolio.withPositions positions)
  have same : positions.entries.Perm portfolio.tokenPositions.entries := by
    rw [entries, swapped]
    exact List.Perm.swap ..
  have last_held : (third, size'') ∈ portfolio.tokenPositions.entries :=
    entries ▸ List.mem_cons_of_mem _ (List.mem_cons_of_mem _ List.mem_cons_self)
  have held : portfolio.Holds third := ⟨size'', last_held, positive''⟩
  have held' : (portfolio.withPositions positions).Holds third :=
    ⟨size'', same.mem_iff.mpr last_held, positive''⟩
  have turns := includes.turns
  rw [entries] at turns
  have turns' := includes'.turns
  change HeldSearch.Turns source _ positions.entries _ _ at turns'
  rw [swapped] at turns'
  obtain ⟨-, inside⟩ := turns'.of_first positive' (foundFor_withPositions.mpr found')
  obtain ⟨kept, -⟩ := stays.unordered positions same search search' includes includes'
  have covers := (kept third held).mpr ((includes'.covers_iff held').mpr (inside third has'))
  obtain ⟨_, next, last, lists⟩ := turns.of_shared positive found has
  have tokens : ∀ token, token ∈ next.listedTokens ↔ market.Has token ∨ Listed markets token := by
    intro token
    rw [lists.listedTokens]
    change token ∈ market.yesTokenId :: market.noTokenId :: _ ↔ _
    rw [List.mem_cons, List.mem_cons, mem_start_listedTokens, ← or_assoc, @eq_comm _ token,
      @eq_comm _ token]
    rfl
  have listed : third ∈ next.listedTokens → market.Has third ∨ Listed markets third ∨
      ∃ own, FoundFor source markets portfolio third own :=
    fun inside => ((tokens third).mp inside).imp_right .inl
  rw [includes.covers_iff held] at covers
  cases last with
  | cons turn last =>
      cases last
      cases turn with
      | passed _ lists' => exact listed (lists'.listedTokens ▸ covers)
      | refused _ _ _ lists' => exact listed (lists'.listedTokens ▸ covers)
      | found goes identified has matched =>
          refine .inr (.inr ⟨_, _, .of_goes (fun token inside => (tokens token).mpr (.inr inside))
            (fun id known => ?_) goes identified, has, matched⟩)
          rw [lists.listedConditions]
          change id ∈ market.conditionId.toList ++
            (HeldSearch.start state portfolio markets).listedConditions
          exact List.mem_append_right _ (mem_start_listedConditions.mpr known)

end Pairs

end Searches

/-- The holdings of every part of the portfolio stay reachable exactly if no holding is in the way
of another one. -/
theorem stays_reachable_iff (source : MarketSource) (state : CycleState)
    (markets : List ScannedMarket) (portfolio : PortfolioState) :
    (∀ positions : Dict String ℚ, positions.entries ⊆ portfolio.tokenPositions.entries →
      StaysReachable source state markets (portfolio.withPositions positions)) ↔
        Compatible source markets portfolio := by
  constructor
  · intro stays
    refine ⟨?_, ?_, ?_⟩
    · rintro first second identifier market ⟨size, inside, positive⟩ ⟨size', inside', positive'⟩
        found looked looked'
      by_cases same : second = first
      · exact ⟨market, same ▸ found⟩
      · have part := stays ⟨[(second, size'), (first, size)], by simpa using same⟩
          (List.cons_subset.mpr ⟨inside', List.cons_subset.mpr ⟨inside, List.nil_subset _⟩⟩)
        obtain ⟨own, found'⟩ := part.identifiers rfl positive positive'
          (foundFor_withPositions.mpr found) (lookedUp_withPositions.mpr looked)
          (lookedUp_withPositions.mpr looked')
        exact ⟨own, foundFor_withPositions.mp found'⟩
    · rintro first second market other id ⟨size, inside, positive⟩ ⟨size', inside', positive'⟩
        found found' apart known
      have different : first ≠ second := fun same => apart (same ▸ found.has)
      have part := stays ⟨[(first, size), (second, size')], by simpa using different⟩
        (List.cons_subset.mpr ⟨inside, List.cons_subset.mpr ⟨inside', List.nil_subset _⟩⟩)
      exact part.conditions rfl positive positive' (foundFor_withPositions.mpr found)
        (foundFor_withPositions.mpr found') apart known
    · rintro first second market other ⟨size, inside, positive⟩ ⟨size', inside', positive'⟩
        found found' has
      by_cases same : first = second
      · subst same
        cases found.unique found'
        exact ⟨rfl, fun third _ => .inl⟩
      refine ⟨?_, ?_⟩
      · have part := stays ⟨[(first, size), (second, size')], by simpa using same⟩
          (List.cons_subset.mpr ⟨inside, List.cons_subset.mpr ⟨inside', List.nil_subset _⟩⟩)
        exact part.same_id ⟨[(second, size'), (first, size)], by
            simpa using fun swapped => same swapped.symm⟩ rfl rfl positive positive'
          (foundFor_withPositions.mpr found) (foundFor_withPositions.mpr found') has
      · rintro third ⟨size'', inside'', positive''⟩ has'
        by_cases own : third = first
        · exact .inl (own ▸ found.has)
        by_cases own' : third = second
        · exact .inl (own' ▸ has)
        have part := stays ⟨[(first, size), (second, size'), (third, size'')], by
            simp [same, Ne.symm own, Ne.symm own']⟩
          (List.cons_subset.mpr ⟨inside, List.cons_subset.mpr ⟨inside',
            List.cons_subset.mpr ⟨inside'', List.nil_subset _⟩⟩⟩)
        have kept := part.third_kept ⟨[(second, size'), (first, size),
            (third, size'')], by simp [Ne.symm same, Ne.symm own, Ne.symm own']⟩ rfl rfl
          positive positive' positive'' (foundFor_withPositions.mpr found)
          (foundFor_withPositions.mpr found') has has'
        exact kept.imp_right (.imp_right fun ⟨own, finds⟩ => ⟨own, foundFor_withPositions.mp finds⟩)
  · intro compatible positions part
    exact (compatible.withPositions part).stays_reachable

/-! ### An event that was renamed -/

def renamedMarket : ScannedMarket :=
  { ValueStrategy.freeMarket "event" "bucket" with
    conditionId := some "condition"
    volume24hUsd := 0 }

/-- The market data has the one market. -/
def renamedSource : MarketSource
  | .condition id => if id = "condition" then .ok renamedMarket else .error (.foreign "LookupError")
  | .market _ => .error (.foreign "LookupError")

/-- NO shares from before the event was renamed, and YES shares from after it. -/
def renamedPortfolio : PortfolioState where
  bankrollUsd := 100
  cashUsd := 90
  grossExposureUsd := 10
  eventExposureUsd := Dict.empty.set "event" 10
  bucketExposureUsd := Dict.empty.set "bucket" 10
  tokenPositions := ⟨[("no", 10), ("yes", 10)], by decide⟩
  tokenConditionIds := ⟨[("no", "condition"), ("yes", "condition")], by decide⟩
  tokenMarketIds := ⟨[("no", "market"), ("yes", "market")], by decide⟩
  tokenEventIds := ⟨[("no", "earlier"), ("yes", "event")], by decide⟩
  realizedPnlTodayUsd := 0
  peakEquityUsd := none
  equityUsd := none
  dayStartEquityUsd := none

/-- The refused NO shares keep the YES shares from being looked up. -/
theorem renamed_unreachable :
    ¬ StaysReachable renamedSource ⟨.fresh "run" .paper, false⟩ [] renamedPortfolio := by
  intro stays
  have looked : ∀ token, token = "no" ∨ token = "yes" →
      LookedUp [] renamedPortfolio token (.condition "condition") := by
    rintro token (rfl | rfl) 
    · exact ⟨by simp [Listed], by decide, by simp⟩
    · exact ⟨by simp [Listed], by decide, by simp⟩
  have answers : renamedSource (.condition "condition") = .ok renamedMarket := rfl
  have matched : renamedPortfolio.Matches "yes" renamedMarket :=
    ⟨by decide, by decide, by decide, by decide⟩
  have found : FoundFor renamedSource [] renamedPortfolio "yes" renamedMarket :=
    ⟨_, looked "yes" (.inr rfl), answers, matched⟩
  have entries : renamedPortfolio.tokenPositions.entries = [("no", 10), ("yes", 10)] := rfl
  have positive : (0 : ℚ) < 10 := by norm_num
  obtain ⟨own, identifier, looked', has, -, -, event, -⟩ :=
    stays.identifiers entries positive positive found (looked "yes" (.inr rfl))
      (looked "no" (.inl rfl))
  cases (looked "no" (.inl rfl)).unique looked'
  cases Except.ok.inj (answers.symm.trans has)
  exact event (by decide)

end Polybot
