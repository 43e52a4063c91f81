import Polybot.Engine.CheckedGround

/-!
Whole cycles trade on checked ground.

The loop over the markets keeps what each market keeps, and a market that was stopped is
followed by the safety stop only. The plan of a cycle submits nothing, and its markets
that the filter excluded are marked, so that the loop does not ask a forecast for them.
-/

namespace Polybot

open Interaction Program Stage

/-- The run reports a latched stop, or raises that the stop failed. -/
def ReportsStop (outcome : Except PyError EngineCycleResult) : Prop :=
  outcome = .error (.foreign "LiveSafetyLatchError") ∨
    ∃ (report : EngineCycleResult) (reason : String), outcome = .ok report ∧
      report.skipped.get? s!"live_stop_latched:{reason}" ≠ none

/-! ### The safety stop -/

section Stop

variable {Possible : EngineEvent → Prop} {engine : CycleEngine} {state : CycleState} {stop : LiveStop}
  {log : List EngineEvent} {outcome : Except PyError EngineCycleResult}

theorem acknowledgeStop_returns {Possible : WatchEvent → Prop} {log : List WatchEvent} {version : Int}
    {report : EngineCycleResult} {outcome : Except PyError EngineCycleResult}
    (executes : Execution Possible (acknowledgeStop version report) log outcome) :
    ∃ result, outcome = .ok result := by
  obtain ⟨_, _, acknowledged, rfl, -, returns⟩ := executes.attempt_bind_cases
  cases acknowledged with
  | ok report' =>
      cases returns
      exact ⟨_, rfl⟩
  | error problem =>
      cases returns
      exact ⟨_, rfl⟩

theorem persistStop_reports {Possible : WatchEvent → Prop} {log : List WatchEvent}
    {mode : TradingMode} {reason : String} {report : EngineCycleResult}
    (executes : Execution Possible (persistStopAndVerifyCancellation mode reason report) log outcome) :
    ReportsStop outcome := by
  obtain ⟨_, _, current, rfl, -, persists⟩ := executes.attempt_bind_cases
  obtain ⟨_, _, persisted, rfl, -, cancels⟩ := persists.attempt_bind_cases
  obtain ⟨_, _, cancelled, rfl, -, settles⟩ := cancels.attempt_bind_cases
  cases persisted with
  | error problem =>
      cases settles
      exact .inl rfl
  | ok control =>
      cases cancelled with
      | error problem =>
          cases settles
          exact .inl rfl
      | ok verified =>
          rcases settles.bind_cases with ⟨failure, raises, -⟩ | ⟨_, _, report', -, -, returns⟩
          · split at raises
            · obtain ⟨result, same⟩ := acknowledgeStop_returns raises
              cases same
            · cases raises
          · cases returns
            refine .inr ⟨_, reason, rfl, ?_⟩
            simp [EngineCycleResult.skip, Dict.get?_set]

theorem auxiliary_stopCycle : (engine.stopCycle state stop).Uses (fun _ => True)
    EngineRequest.Auxiliary fun _ => True := by
  refine Uses.relay ?_ _
  exact fun _ => rfl

theorem stopCycle_reports
    (executes : Execution Possible (engine.stopCycle state stop) log outcome) :
    ReportsStop outcome := by
  obtain ⟨alone, runs⟩ := executes.of_relay
  exact persistStop_reports runs

/-- The stop trades on nothing. -/
theorem stopCycle_trades {Excluded : String → Prop}
    (executes : Execution Possible (engine.stopCycle state stop) log outcome) :
    TradesOnCheckedGround engine Excluded log (ReportsStop outcome) :=
  tradesOnCheckedGround_of_nothing (fun event member => EngineRequest.Selects.placesNothing
    (.inl (.inl (auxiliary_stopCycle.requests executes event member))))
    fun _ _ _ _ _ => stopCycle_reports executes

/-- The loop over the markets trades on checked ground, and only reduces excluded markets. -/
theorem workMarkets_trades {Excluded : String → Prop} {breached : Bool}
    {reduceOnlyMarketIds : List String} {aiMarkets : Nat} {markets : List ScannedMarket}
    (executes : Execution Possible
      (engine.workMarkets breached reduceOnlyMarketIds state aiMarkets markets) log outcome)
    (excluded : ∀ market ∈ markets, Excluded market.id → market.id ∈ reduceOnlyMarketIds) :
    TradesOnCheckedGround engine Excluded log (ReportsStop outcome) := by
  induction markets generalizing state aiMarkets log with
  | nil =>
      cases executes
      refine tradesOnCheckedGround_of_nothing (fun _ => nofun) fun before event after split _ => ?_
      exact absurd split.symm (List.append_ne_nil_of_right_ne_nil _ (List.cons_ne_nil _ _))
  | cons market rest ih =>
      have reduced : Excluded market.id → (!breached && !decide (market.id ∈ reduceOnlyMarketIds) &&
          decide (aiMarkets < engine.maxAiMarketsPerCycle)) = false := by
        intro out
        rw [decide_eq_true (excluded market List.mem_cons_self out)]
        simp
      have later : ∀ other ∈ rest, Excluded other.id → other.id ∈ reduceOnlyMarketIds :=
        fun other member => excluded other (List.mem_cons_of_mem _ member)
      rcases executes.bind_cases with ⟨failure, raises, rfl⟩ | ⟨front, back, ended, rfl, first, onwards⟩
      · refine (CycleEngine.processMarket_trades raises reduced).mono ?_
        rintro ⟨result, impossible, -⟩
        cases impossible
      · have worked := CycleEngine.processMarket_trades first reduced
        have going : (∀ stop, ended.exit ≠ .stopped stop) →
            ¬ ∃ result, (.ok ended : Except PyError MarketEnd) = .ok result ∧
              ∃ stop, result.exit = .stopped stop := by
          rintro goes ⟨result, same, stop, stopped⟩
          cases same
          exact goes stop stopped
        split at onwards
        · rename_i usedAi returned
          have goes := going fun stop stopped => nomatch returned.symm.trans stopped
          exact worked.append (ih onwards later) (fun halted => absurd halted goes) id
        · refine worked.append (stopCycle_trades onwards) (fun _ => ⟨fun event member => ?_, stopCycle_reports onwards⟩) id
          have auxiliary := auxiliary_stopCycle.requests onwards event member
          exact (EngineRequest.Selects.step_ne (.inl (.inl auxiliary))).2
        · rename_i problem raised
          have goes := going fun stop stopped => nomatch raised.symm.trans stopped
          exact worked.append (ih onwards later) (fun halted => absurd halted goes) id

/-! ### The plan of a cycle -/

/-- A stage of the cycle trades on checked ground, and reports the stop if it ends with one. -/
def CycleTrades {α : Type} (Possible : EngineEvent → Prop) (engine : CycleEngine)
    (Excluded : String → Prop) (stage : CycleStage α) : Prop :=
  ∀ log outcome, Execution Possible stage.run log outcome →
    TradesOnCheckedGround engine Excluded log
      (∃ reached, ReportsStop reached ∧ outcome = reached.map .error)

theorem CycleTrades.bind {α β : Type} {Excluded : String → Prop} {stage : CycleStage α}
    {next : α → CycleStage β} (first : CycleTrades Possible engine Excluded stage)
    (rest : ∀ front value, GoesOn Possible stage front value →
      CycleTrades Possible engine Excluded (next value)) :
    CycleTrades Possible engine Excluded (stage >>= next) := by
  intro log outcome executes
  rcases stage_bind_cases executes with
    ⟨failure, raises, rfl⟩ | ⟨result, ends, rfl⟩ | ⟨front, back, value, rfl, goesOn, second⟩
  · refine (first _ _ raises).mono ?_
    rintro ⟨reached, reports, same⟩
    cases reached with
    | error problem =>
        cases same
        exact ⟨_, reports, rfl⟩
    | ok report => cases same
  · refine (first _ _ ends).mono ?_
    rintro ⟨reached, reports, same⟩
    cases reached with
    | error problem => cases same
    | ok report =>
        cases same
        exact ⟨_, reports, rfl⟩
  · refine (first _ _ goesOn).append (rest front value goesOn _ _ second) ?_ id
    rintro ⟨reached, -, same⟩
    cases reached with
    | error problem => cases same
    | ok report => cases same

/-- A stage without a reservation or a submission that reads no failed checkpoint. -/
theorem CycleTrades.of_only {α : Type} {Excluded : String → Prop} {stage : CycleStage α}
    {Lawful : EngineRequest → Prop} (only : Only Lawful stage)
    (nothing : ∀ request, Lawful request → request.step ≠ .reserve ∧ request.step ≠ .submit)
    (unread : engine.RealMoney → ¬ Lawful .portfolioState) :
    CycleTrades Possible engine Excluded stage := by
  intro log outcome executes
  have lawful := only.requests executes
  refine tradesOnCheckedGround_of_nothing (fun event member => ?_) ?_
  · have steps := nothing _ (lawful event member)
    exact placesNothing_of_step steps.1 steps.2
  · rintro before event after rfl ⟨real, answer, rfl, -⟩
    exact absurd (lawful _ (List.mem_append_right _ List.mem_cons_self)) (unread real)

theorem prepares_startCycle :
    Only EngineRequest.Prepares (engine.startCycle state) := by
  refine only_bind (only_within ?_) fun found => ?_
  · exact .bind (F := fun _ => True) (.attempt (.ask (.inr rfl) fun _ _ => trivial) fun _ => trivial)
      fun _ _ => trivial
  · split
    · trivial
    · exact only_bind (only_within (auxiliary_stopCycle.weaken (fun _ => id)
        fun _ => EngineRequest.Auxiliary.prepares)) fun _ => trivial
    · trivial

theorem startCycle_log {portfolio : PortfolioState}
    (executes : GoesOn Possible (engine.startCycle state) log portfolio) (real : engine.RealMoney) :
    ¬ engine.strategy.HardRiskBreached portfolio := by
  obtain ⟨answer, back, rfl, rest⟩ := CycleEngine.checkpoint_bind_cases executes
  split at rest
  · rename_i portfolio' now passes
    obtain ⟨rfl, rfl⟩ := goesOn_pure_iff.mp rest
    obtain ⟨rfl, sound⟩ := CycleEngine.checked_ok passes
    exact fun breached => sound real (.inr (.inr (.inr breached)))
  · obtain ⟨_, _, report, -, -, last⟩ := goesOn_bind_iff.mp rest
    cases last
  · cases rest

/-- A start that does not pass ends with the safety stop, or without it in paper mode. -/
theorem startCycle_trades {Excluded : String → Prop} :
    CycleTrades Possible engine Excluded (engine.startCycle state) := by
  intro log outcome executes
  refine tradesOnCheckedGround_of_nothing (fun event member => ?_) ?_
  · exact EngineRequest.Selects.placesNothing (.inl (prepares_startCycle.requests executes event member))
  · rintro before event after split ⟨real, answer, rfl, fails⟩
    obtain ⟨answer', back, rfl, rest⟩ := CycleEngine.checkpoint_bind_cases executes
    have unstopped : back = [] → ∃ stop,
        engine.checked "cycle_start" answer' = .error (.stopped stop) := by
      rintro rfl
      have member : ⟨.portfolioState, answer⟩ ∈ [(⟨.portfolioState, answer'⟩ : EngineEvent)] := by
        rw [split]
        exact List.mem_append_right _ List.mem_cons_self
      cases List.mem_singleton.mp member
      exact CycleEngine.checked_fails real fails
    split at rest
    · rename_i found passes
      cases rest
      obtain ⟨stop, stopped⟩ := unstopped rfl
      cases passes.symm.trans stopped
    · rcases stage_bind_cases rest with
        ⟨failure, raises, rfl⟩ | ⟨result, ends, -⟩ | ⟨_, _, report, -, stops, last⟩
      · obtain ⟨reached, runs, same⟩ := within_cases raises
        cases reached with
        | ok report => cases same
        | error problem =>
            cases same
            exact ⟨_, stopCycle_reports runs, rfl⟩
      · obtain ⟨reached, -, same⟩ := within_cases ends
        cases reached with
        | ok report => cases same
        | error problem => cases same
      · cases last
        exact ⟨_, stopCycle_reports (goesOn_within_iff.mp stops), rfl⟩
    · rename_i problem raised
      cases rest
      obtain ⟨stop, stopped⟩ := unstopped rfl
      cases raised.symm.trans stopped

theorem auxiliary_recordEquity (portfolio : PortfolioState) :
    (CycleEngine.recordEquity portfolio).Uses (fun _ => True) EngineRequest.Auxiliary fun _ => True := by
  unfold CycleEngine.recordEquity
  split
  · trivial
  · exact .bind (F := fun _ => True) (.attempt (.ask rfl fun _ _ => trivial) fun _ => trivial)
      fun _ _ => trivial

theorem prepares_releaseOrders (portfolio : PortfolioState) :
    Only EngineRequest.Prepares (engine.releaseOrders state portfolio) := by
  unfold CycleEngine.releaseOrders
  split
  · exact only_bind (only_orEnd (.ask (.inl rfl) fun _ _ => trivial)) fun _ =>
      only_bind only_endIf fun _ => only_bind (only_orEnd (.ask (.inr rfl) fun _ _ => trivial))
        fun _ => only_pure _
  · trivial

theorem auxiliary_find (identifier : HeldIdentifier) :
    identifier.find.Uses (fun _ => True) EngineRequest.Auxiliary fun _ => True := by
  cases identifier with
  | condition id => exact .ask rfl fun _ _ => trivial
  | market id => exact .ask rfl fun _ _ => trivial

theorem uses_ended {α : Type} {Lawful : EngineRequest → Prop}
    {stage : Stage EngineRequest EngineRequest.Response PyError α α} (only : Only Lawful stage) :
    (ended stage).Uses (fun _ => True) Lawful fun _ => True := by
  refine only.bind fun found _ => ?_
  cases found with
  | ok value => trivial
  | error value => trivial

theorem auxiliary_includeHeldMarkets (portfolio : PortfolioState) (entries : List (String × ℚ))
    (search : HeldSearch) : (includeHeldMarkets portfolio entries search).Uses (fun _ => True)
      EngineRequest.Auxiliary fun _ => True := by
  induction entries generalizing search with
  | nil => trivial
  | cons entry rest ih =>
      refine .bind (F := fun _ => True) (uses_ended ?_) fun search _ => ih search
      exact only_bind only_endIf fun _ => only_bind only_require fun identifier =>
        only_bind only_endIf fun _ => only_bind only_endIf fun _ =>
          only_bind (only_orEnd (auxiliary_find identifier)) fun _ => only_bind only_endIf fun _ =>
            only_bind only_endIf fun _ => only_bind only_endIf fun _ =>
              only_bind only_endIf fun _ => only_pure _

theorem auxiliary_discoverMarkets (portfolio : PortfolioState) :
    Only EngineRequest.Auxiliary (engine.discoverMarkets state portfolio) :=
  only_bind (only_orEnd (.ask rfl fun _ _ => trivial)) fun _ =>
    only_within (auxiliary_includeHeldMarkets _ _ _)

theorem only_narrowMarkets (search : HeldSearch) :
    Only (fun request => request.step = .filter) (engine.narrowMarkets search) := by
  unfold CycleEngine.narrowMarkets
  split
  · exact only_bind (only_await rfl) fun _ => only_pure _
  · trivial

theorem planCycle_trades {Excluded : String → Prop} (runId : String) :
    CycleTrades Possible engine Excluded (engine.planCycle runId) := by
  have auxiliary : ∀ {α : Type} {stage : CycleStage α}, Only EngineRequest.Auxiliary stage →
      CycleTrades Possible engine Excluded stage := fun only =>
    .of_only only (fun _ here => EngineRequest.Selects.step_ne (.inl (.inl here))) fun _ => nofun
  refine .bind (auxiliary (only_await rfl)) fun _ healthy _ => .bind (auxiliary only_endIf) fun _ _ _ =>
    .bind startCycle_trades fun _ portfolio starts =>
      .bind (auxiliary (only_within (auxiliary_recordEquity portfolio))) fun _ _ _ =>
        .bind ?_ fun _ portfolio _ => .bind (auxiliary (auxiliary_discoverMarkets portfolio))
          fun _ search _ => .bind ?_ fun _ _ _ => auxiliary (only_pure _)
  · -- In canary or live mode the portfolio has passed its checkpoint, and nothing is read again.
    by_cases real : engine.RealMoney
    · rw [CycleEngine.releaseOrders, if_neg (startCycle_log starts real)]
      exact auxiliary (only_pure _)
    · exact .of_only (prepares_releaseOrders portfolio)
        (fun _ here => EngineRequest.Selects.step_ne (.inl here)) fun here => absurd here real
  · refine .of_only (only_narrowMarkets search) ?_ fun _ => nofun
    intro request filters
    rw [filters]
    decide

/-! ### Whole cycles -/

/-- The market is not among those that the filter has kept. -/
def ExcludedBy (log : List EngineEvent) (marketId : String) : Prop :=
  ∃ markets allowed, ⟨.filterMarkets markets, .ok allowed⟩ ∈ log ∧ marketId ∉ allowed.map (·.id)

/-- A market that is kept by the filter or only reduced. -/
theorem narrow_reduces {allowedMarketIds heldMarketIds : List String} {markets : List ScannedMarket}
    {plan : MarketPlan}
    (known : ∀ market ∈ plan.markets, market.id ∉ allowedMarketIds →
      market.id ∈ plan.reduceOnlyMarketIds) :
    ∀ market ∈ (markets.foldl (MarketPlan.narrow allowedMarketIds heldMarketIds) plan).markets,
      market.id ∉ allowedMarketIds → market.id ∈
        (markets.foldl (MarketPlan.narrow allowedMarketIds heldMarketIds) plan).reduceOnlyMarketIds := by
  induction markets generalizing plan with
  | nil => exact known
  | cons head rest ih =>
      refine ih ?_
      unfold MarketPlan.narrow
      split
      · rename_i allowed
        intro market member out
        rcases List.mem_append.mp member with old | new
        · exact known market old out
        · exact absurd (List.mem_singleton.mp new ▸ allowed) out
      · split
        · intro market member out
          rcases List.mem_append.mp member with old | new
          · exact List.mem_cons_of_mem _ (known market old out)
          · rw [List.mem_singleton.mp new]
            exact List.mem_cons_self
        · exact known

theorem mem_arrangeMarkets {breached : Bool} {heldMarketIds : List String} {plan : MarketPlan}
    {market : ScannedMarket}
    (member : market ∈ (CycleEngine.arrangeMarkets breached heldMarketIds plan).markets) :
    market ∈ plan.markets := by
  have sorted := (List.mem_insertionSort _).mp member
  split at sorted
  · exact List.mem_of_mem_filter sorted
  · exact sorted

/-- No event of the log asks the filter. -/
abbrev Unfiltered (log : List EngineEvent) : Prop :=
  ∀ event ∈ log, event.request.step ≠ .filter

theorem Unfiltered.append {front back : List EngineEvent} (first : Unfiltered front)
    (rest : Unfiltered back) : Unfiltered (front ++ back) := fun event member =>
  (List.mem_append.mp member).elim (first event) (rest event)

theorem unfiltered_of_prepares (prepares : ∀ event ∈ log, event.request.Prepares) :
    Unfiltered log := by
  intro event member
  rcases prepares event member with same | same
  · rw [same]
    decide
  · rw [same]
    decide

theorem narrowMarkets_reduces {search : HeldSearch} {plan : MarketPlan}
    (executes : GoesOn Possible (engine.narrowMarkets search) log plan) :
    ∀ market ∈ plan.markets, ExcludedBy log market.id → market.id ∈ plan.reduceOnlyMarketIds := by
  rintro market member ⟨markets, allowed, filtered, out⟩
  unfold CycleEngine.narrowMarkets at executes
  split at executes
  · obtain ⟨allowed', back, rfl, -, last⟩ := goesOn_await_bind_iff.mp executes
    obtain ⟨rfl, rfl⟩ := goesOn_pure_iff.mp last
    cases List.mem_singleton.mp filtered
    exact narrow_reduces (fun _ kept => absurd kept List.not_mem_nil) market member out
  · obtain ⟨rfl, -⟩ := goesOn_pure_iff.mp executes
    exact absurd filtered List.not_mem_nil

/-- The markets that the filter excluded are only reduced. -/
theorem planCycle_reduces {runId : String} {breached : Bool} {plan : MarketPlan}
    (executes : GoesOn Possible (engine.planCycle runId) log (breached, plan)) :
    ∀ market ∈ plan.markets, ExcludedBy log market.id → market.id ∈ plan.reduceOnlyMarketIds := by
  rw [CycleEngine.planCycle] at executes
  obtain ⟨healthy, _, rfl, -, starting⟩ := goesOn_await_bind_iff.mp executes
  obtain ⟨-, starting⟩ := goesOn_endIf_bind_iff.mp starting
  obtain ⟨started, _, portfolio, rfl, starts, recording⟩ := goesOn_bind_iff.mp starting
  obtain ⟨recorded, _, _, rfl, records, releasing⟩ := goesOn_bind_iff.mp recording
  obtain ⟨released, _, portfolio', rfl, releases, discovering⟩ := goesOn_bind_iff.mp releasing
  obtain ⟨discovered, _, search, rfl, discovers, narrowing⟩ := goesOn_bind_iff.mp discovering
  obtain ⟨narrowed, _, narrow, rfl, narrows, last⟩ := goesOn_bind_iff.mp narrowing
  obtain ⟨rfl, same⟩ := goesOn_pure_iff.mp last
  cases same
  rintro market member ⟨markets, allowed, filtered, out⟩
  simp only [List.mem_cons, List.mem_append, List.append_nil] at filtered
  rcases filtered with same | here | here | here | here | late
  · cases same
  · exact absurd rfl (unfiltered_of_prepares (prepares_startCycle.requests starts) _ here)
  · exact absurd rfl (unfiltered_of_prepares (fun event member => .inl
      ((only_within (auxiliary_recordEquity portfolio)).requests records event member)) _ here)
  · exact absurd rfl (unfiltered_of_prepares ((prepares_releaseOrders portfolio).requests releases)
      _ here)
  · exact absurd rfl (unfiltered_of_prepares (fun event member => .inl
      ((auxiliary_discoverMarkets portfolio').requests discovers event member)) _ here)
  · exact narrowMarkets_reduces narrows market (mem_arrangeMarkets member)
      ⟨markets, allowed, late, out⟩

theorem unfiltered_marketStage {market : ScannedMarket} {allowAi reduceOnly : Bool} :
    Only (fun request => request.step ≠ .filter)
      (engine.marketStage state market allowAi reduceOnly) := by
  have auxiliary : ∀ request, EngineRequest.Auxiliary request → request.step ≠ .filter := by
    intro request same
    rw [same]
    decide
  refine only_bind (CycleEngine.selects_selectCandidate.weaken (fun _ => id) ?_) fun selected =>
    only_bind ((CycleEngine.auxiliary_approveCandidate selected).weaken (fun _ => id) auxiliary)
      fun _ => only_bind ?_ fun _ => only_bind ?_ fun _ => only_pure _
  · rintro request ((same | same) | same)
    · rw [same]
      decide
    · rw [same]
      decide
    · rw [same]
      decide
  · exact only_bind (CycleEngine.only_marketAwait nofun) fun _ => only_bind only_endIf fun _ =>
      only_pure _
  · exact only_bind (CycleEngine.only_marketAwait nofun) fun _ =>
      only_bind (CycleEngine.only_marketAwait nofun) fun _ => only_pure _

theorem unfiltered_workMarkets {breached : Bool} {reduceOnlyMarketIds : List String} {aiMarkets : Nat}
    {markets : List ScannedMarket} :
    (engine.workMarkets breached reduceOnlyMarketIds state aiMarkets markets).Uses (fun _ => True)
      (fun request => request.step ≠ .filter) fun _ => True := by
  induction markets generalizing state aiMarkets with
  | nil => trivial
  | cons market rest ih =>
      refine .bind (F := fun _ => True) (uses_ended unfiltered_marketStage) fun ended _ => ?_
      split
      · exact ih
      · exact auxiliary_stopCycle.weaken (fun _ => id) fun request same => by rw [same]; decide
      · exact ih

/-- Every cycle trades on checked ground, reduces the markets that its filter excluded, and
reports the stop after a failed checkpoint. -/
theorem trades_on_checked_ground {runId : String}
    (executes : Execution (fun _ => True) (engine.runCycle runId) log outcome) :
    TradesOnCheckedGround engine (ExcludedBy log) log (ReportsStop outcome) := by
  obtain ⟨reached, runs, same⟩ := ended_cases executes
  rcases stage_bind_cases runs with
    ⟨failure, raises, rfl⟩ | ⟨result, ends, rfl⟩ | ⟨front, back, ⟨breached, plan⟩, rfl, plans, works⟩
  · refine (planCycle_trades runId _ _ raises).mono ?_
    rintro ⟨ended, reports, found⟩
    cases ended with
    | ok report => cases found
    | error problem =>
        cases found
        rcases same with ⟨_, found, rfl⟩ | ⟨_, impossible, -⟩ | ⟨_, impossible, -⟩
        · cases found
          exact reports
        · cases impossible
        · cases impossible
  · refine (planCycle_trades runId _ _ ends).mono ?_
    rintro ⟨ended, reports, found⟩
    cases ended with
    | error problem => cases found
    | ok report =>
        cases found
        rcases same with ⟨_, impossible, -⟩ | ⟨_, found, rfl⟩ | ⟨_, impossible, -⟩
        · cases impossible
        · cases found
          exact reports
        · cases impossible
  · obtain ⟨worked, loops, rfl⟩ := within_cases works
    have outcome_eq : outcome = worked := by
      cases worked with
      | error problem =>
          rcases same with ⟨_, found, rfl⟩ | ⟨_, impossible, -⟩ | ⟨_, impossible, -⟩
          · cases found
            rfl
          · cases impossible
          · cases impossible
      | ok report =>
          rcases same with ⟨_, impossible, -⟩ | ⟨_, impossible, -⟩ | ⟨_, found, rfl⟩
          · cases impossible
          · cases impossible
          · cases found
            rfl
    subst outcome_eq
    have planned : ∀ marketId, ExcludedBy (front ++ back) marketId → ExcludedBy front marketId := by
      rintro marketId ⟨markets, allowed, filtered, out⟩
      refine ⟨markets, allowed, ?_, out⟩
      rcases List.mem_append.mp filtered with here | late
      · exact here
      · exact absurd rfl (unfiltered_workMarkets.requests loops _ late)
    refine (planCycle_trades runId _ _ plans).append (workMarkets_trades loops fun market member out =>
      planCycle_reduces plans market member (planned _ out)) ?_ id
    rintro ⟨ended, -, found⟩
    cases ended with
    | error problem => cases found
    | ok report => cases found

end Stop

/-- An engine with every callback. -/
def screenedEngine : CycleEngine where
  toTradingEngine := standardEngine
  marketLimit := 100
  maxAiMarketsPerCycle := 5
  minEvidenceItems := 2
  forecastCooldownSeconds := 3600
  sourceIdentity := id
  guarded := true
  quarantines := true
  filters := true

/-- Two shares are held after a drawdown. -/
def drawnDownPortfolio : PortfolioState where
  bankrollUsd := 1000
  cashUsd := 100
  grossExposureUsd := 1
  eventExposureUsd := .empty
  bucketExposureUsd := .empty
  tokenPositions := Dict.empty.set "yes" 2
  tokenConditionIds := .empty
  tokenMarketIds := .empty
  tokenEventIds := .empty
  realizedPnlTodayUsd := 0
  peakEquityUsd := some 1000
  equityUsd := some 101
  dayStartEquityUsd := some 101

def bidBook (tokenId : String) : TimedBook where
  marketId := "market"
  tokenId := tokenId
  bids := [⟨1 / 2, 10⟩]
  asks := []
  tickSize := 1 / 100
  minimumOrderSize := 1 / 100
  capturedAt := 0
  valid := ⟨List.forall_mem_singleton.mpr ⟨by norm_num, by norm_num, by norm_num⟩, fun _ => nofun⟩
  tickSize_pos := Literal.hundredth_pos
  minimumOrderSize_pos := Literal.hundredth_pos

/-- Everything answers, and the filter keeps no market. -/
def filteringWorld : Unit → (request : EngineRequest) → Except PyError request.Response × Unit
  | _, .health => (.ok true, ())
  | _, .portfolioState => (.ok (drawnDownPortfolio, 0), ())
  | _, .cancelAll _ => (.ok true, ())
  | _, .listMarkets _ => (.ok [⟨ValueStrategy.freeMarket "event" "other", 0⟩], ())
  | _, .filterMarkets _ => (.ok [], ())
  | _, .quarantinedTokens => (.ok [], ())
  | _, .saveMarket _ => (.ok (), ())
  | _, .getOrderBooks _ yesTokenId noTokenId => (.ok (bidBook yesTokenId, bidBook noTokenId), ())
  | _, .saveSnapshots _ _ => (.ok (), ())
  | _, .saveRiskDecision _ _ => (.ok (), ())
  | _, .executionGuard => (.ok true, ())
  | _, .reserveIntent _ => (.ok true, ())
  | _, .submit intent _ => (.ok ⟨intent.intentHash, .paperFilled, none, 2, some (1 / 2), ""⟩, ())
  | _, _ => (.error (.runtimeError "not answered"), ())

/-- A paper cycle in a hard breach. -/
def drawnDownCycle : List EngineEvent × Except PyError EngineCycleResult × Unit :=
  (screenedEngine.runCycle "run").run filteringWorld ()

/-- The held shares of an excluded market are sold. -/
theorem drawnDownCycle_trades :
    (drawnDownCycle.1.filterMap submittedIntent).map (fun intent => (intent.side, intent.size)) =
      [(.sell, 2)] ∧
    TradesOnCheckedGround screenedEngine (ExcludedBy drawnDownCycle.1) drawnDownCycle.1
      (ReportsStop drawnDownCycle.2.1) :=
  ⟨by decide +kernel, trades_on_checked_ground (run_execution (fun _ _ => trivial) _ _)⟩

end Polybot
