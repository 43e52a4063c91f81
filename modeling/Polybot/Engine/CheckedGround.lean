import Polybot.Engine.Cycle

/-!
What the work on a market trades on.

A submission rests on a start of its market, on books, on a portfolio that was read after
them and passed its checkpoint, on an approval, and on one reservation: this is a
`CheckedSubmission`, whose events are the end of the log when the order is submitted. A
failed checkpoint is the last event of the work on a market (`Stage.Halts`).
-/

namespace Polybot

open Interaction Program Stage

/-! ### Events -/

/-- What a request is for. -/
inductive EngineStep where
  | auxiliary
  | checkpoint
  | start
  | filter
  | reserve
  | submit
  deriving DecidableEq

namespace EngineRequest

def step : EngineRequest → EngineStep
  | portfolioState => .checkpoint
  | saveMarket _ => .start
  | filterMarkets _ => .filter
  | reserveIntent _ => .reserve
  | submit _ _ => .submit
  | _ => .auxiliary

variable (request : EngineRequest)

def Auxiliary : Prop :=
  request.step = .auxiliary

/-- The requests between the start of a market and the decision on it. -/
def Prepares : Prop :=
  request.step = .auxiliary ∨ request.step = .checkpoint

/-- The requests of a market up to its reservation. -/
def Selects : Prop :=
  request.Prepares ∨ request.step = .start

variable {request}

theorem Auxiliary.prepares (auxiliary : request.Auxiliary) : request.Prepares :=
  .inl auxiliary

theorem Selects.step_ne (selects : request.Selects) :
    request.step ≠ .reserve ∧ request.step ≠ .submit := by
  rcases selects with (same | same) | same
  · rw [same]
    decide
  · rw [same]
    decide
  · rw [same]
    decide

end EngineRequest

/-- The intent of a reservation that was granted. -/
def reservedIntent (event : EngineEvent) : Option PaperIntent :=
  match event with
  | ⟨.reserveIntent intent, .ok true⟩ => some intent
  | _ => none

def submittedIntent (event : EngineEvent) : Option PaperIntent :=
  match event with
  | ⟨.submit intent _, _⟩ => some intent
  | _ => none

/-- The event submits no order, and grants no reservation. -/
def PlacesNothing (event : EngineEvent) : Prop :=
  reservedIntent event = none ∧ event.request.step ≠ .submit

namespace CycleEngine

variable (engine : CycleEngine)

/-- A checkpoint finds no portfolio, a portfolio without its equities, or a hard breach. -/
def CheckpointFails : Except PyError (PortfolioState × Instant) → Prop
  | .error _ => True
  | .ok (portfolio, _) =>
      portfolio.equityUsd = none ∨ portfolio.dayStartEquityUsd = none ∨
        portfolio.peakEquityUsd = none ∨ engine.strategy.HardRiskBreached portfolio

def FailedCheckpoint (event : EngineEvent) : Prop :=
  ∃ answer, event = ⟨.portfolioState, answer⟩ ∧ engine.CheckpointFails answer

/-- A checkpoint in canary or live mode. -/
def FailedLiveCheckpoint (event : EngineEvent) : Prop :=
  engine.RealMoney ∧ engine.FailedCheckpoint event

/-- The events before a market is saved: it has no quarantined token, if the engine
quarantines. -/
inductive Starts (market : ScannedMarket) : List EngineEvent → Prop where
  | unchecked : engine.quarantines = false → Starts market []
  | checked (blocked : List String) : engine.quarantines = true →
      market.yesTokenId ∉ blocked → market.noTokenId ∉ blocked →
      Starts market [⟨.quarantinedTokens, .ok blocked⟩]

/-- The guard of the worker was open, if there is one. -/
inductive Opens : List EngineEvent → Prop where
  | unguarded : engine.guarded = false → Opens []
  | opened : engine.guarded = true → Opens [⟨.executionGuard, .ok true⟩]

variable {engine} {log : List EngineEvent}

theorem Starts.auxiliary {market : ScannedMarket} (starts : engine.Starts market log) :
    ∀ event ∈ log, event.request.Auxiliary := by
  cases starts with
  | unchecked => exact fun _ => nofun
  | checked blocked => exact List.forall_mem_singleton.mpr rfl

theorem Opens.auxiliary (opens : engine.Opens log) : ∀ event ∈ log, event.request.Auxiliary := by
  cases opens with
  | unguarded => exact fun _ => nofun
  | opened => exact List.forall_mem_singleton.mpr rfl

end CycleEngine

/-- The reads of a ground, in their order. -/
def MarketGround.events (ground : MarketGround) (market : ScannedMarket) : List EngineEvent :=
  [⟨.getOrderBooks market.id market.yesTokenId market.noTokenId, .ok (ground.yesBook, ground.noBook)⟩,
    ⟨.saveSnapshots ground.yesBook ground.noBook, .ok ()⟩,
    ⟨.portfolioState, .ok (ground.portfolio, ground.now)⟩]

/-- A candidate that may be submitted, with the events that it rests on. -/
structure CheckedSubmission (engine : CycleEngine) where
  market : ScannedMarket
  ground : MarketGround
  candidate : TradeCandidate
  started : List EngineEvent
  prepared : List EngineEvent
  guarded : List EngineEvent
  starts : engine.Starts market started
  prepares : ∀ event ∈ prepared, event.request.Prepares
  passes : engine.RealMoney → ¬ engine.CheckpointFails (.ok (ground.portfolio, ground.now))
  names : candidate.marketId = market.id
  approved : (engine.decisionOn market ground candidate).approved = true
  solvent : candidate.side = .buy → ¬ engine.strategy.HardRiskBreached ground.portfolio
  opens : engine.Opens guarded

namespace CheckedSubmission

variable {engine : CycleEngine} (submission : CheckedSubmission engine)

def intent : PaperIntent :=
  engine.intentOf submission.candidate

def book : TimedBook :=
  CycleEngine.bookFor submission.market submission.ground submission.candidate

/-- The events of the market, from its start to the guard. -/
def checks : List EngineEvent :=
  submission.started ++ ⟨.saveMarket submission.market, .ok ()⟩ ::
    (submission.prepared ++ submission.ground.events submission.market ++
      ⟨.saveRiskDecision submission.intent
        (engine.decisionOn submission.market submission.ground submission.candidate), .ok ()⟩ ::
        submission.guarded)

/-- The events of the market, from its start to the reservation. -/
def events : List EngineEvent :=
  submission.checks ++ [⟨.reserveIntent submission.intent, .ok true⟩]

end CheckedSubmission

/-- A log trades on checked ground. After a failed checkpoint of canary or live mode it
submits nothing and its run is `Stopped`, every submission rests on checked events, each
reservation that was granted is submitted and nothing else, and the intents of excluded
markets are sold only. -/
structure TradesOnCheckedGround (engine : CycleEngine) (Excluded : String → Prop)
    (log : List EngineEvent) (Stopped : Prop) : Prop where
  stops : ∀ before event after, log = before ++ event :: after →
    engine.FailedLiveCheckpoint event →
      (∀ later ∈ after, later.request.step ≠ .submit) ∧ Stopped
  grounded : ∀ before intent book answer after,
    log = before ++ ⟨.submit intent book, answer⟩ :: after →
      ∃ earlier, ∃ submission : CheckedSubmission engine,
        before = earlier ++ submission.events ∧ submission.intent = intent ∧ submission.book = book
  reserved : log.filterMap reservedIntent = log.filterMap submittedIntent
  reduces : ∀ intent ∈ log.filterMap submittedIntent, Excluded intent.marketId → intent.side = .sell

/-! ### Logs -/

namespace TradesOnCheckedGround

variable {engine : CycleEngine} {Excluded : String → Prop} {front back log : List EngineEvent}
  {Halted Latched Stopped : Prop}

theorem append (first : TradesOnCheckedGround engine Excluded front Halted)
    (rest : TradesOnCheckedGround engine Excluded back Latched)
    (halted : Halted → (∀ later ∈ back, later.request.step ≠ .submit) ∧ Stopped)
    (latched : Latched → Stopped) :
    TradesOnCheckedGround engine Excluded (front ++ back) Stopped where
  stops := by
    intro before event after split failed
    rcases append_eq_append_cons split with ⟨between, rfl, rfl⟩ | ⟨between, rfl, rfl⟩
    · obtain ⟨quiet, known⟩ := first.stops _ _ _ rfl failed
      obtain ⟨silent, stopped⟩ := halted known
      exact ⟨fun later member => (List.mem_append.mp member).elim (quiet later) (silent later), stopped⟩
    · obtain ⟨quiet, known⟩ := rest.stops _ _ _ rfl failed
      exact ⟨quiet, latched known⟩
  grounded := by
    intro before intent book answer after split
    rcases append_eq_append_cons split with ⟨between, rfl, rfl⟩ | ⟨between, rfl, rfl⟩
    · exact first.grounded _ _ _ _ _ rfl
    · obtain ⟨earlier, submission, rfl, same⟩ := rest.grounded _ _ _ _ _ rfl
      exact ⟨front ++ earlier, submission, (List.append_assoc ..).symm, same⟩
  reserved := by rw [List.filterMap_append, List.filterMap_append, first.reserved, rest.reserved]
  reduces := by
    intro intent member
    rw [List.filterMap_append] at member
    exact (List.mem_append.mp member).elim (first.reduces intent) (rest.reduces intent)

theorem mono (trades : TradesOnCheckedGround engine Excluded log Halted) (stopped : Halted → Stopped) :
    TradesOnCheckedGround engine Excluded log Stopped :=
  ⟨fun before event after split failed =>
    (trades.stops before event after split failed).imp_right stopped,
    trades.grounded, trades.reserved, trades.reduces⟩

end TradesOnCheckedGround

theorem placesNothing_of_step {event : EngineEvent} (unreserved : event.request.step ≠ .reserve)
    (unsubmitted : event.request.step ≠ .submit) : PlacesNothing event := by
  refine ⟨?_, unsubmitted⟩
  unfold reservedIntent
  split
  · exact absurd rfl unreserved
  · rfl

theorem EngineRequest.Selects.placesNothing {event : EngineEvent} (selects : event.request.Selects) :
    PlacesNothing event :=
  placesNothing_of_step selects.step_ne.1 selects.step_ne.2

theorem PlacesNothing.submittedIntent {event : EngineEvent} (nothing : PlacesNothing event) :
    submittedIntent event = none := by
  unfold Polybot.submittedIntent
  split
  · exact absurd rfl nothing.2
  · rfl

theorem reserved_of_placesNothing {log : List EngineEvent}
    (nothing : ∀ event ∈ log, PlacesNothing event) : log.filterMap reservedIntent = [] :=
  List.filterMap_eq_nil_iff.mpr fun event member => (nothing event member).1

theorem submitted_of_placesNothing {log : List EngineEvent}
    (nothing : ∀ event ∈ log, PlacesNothing event) : log.filterMap submittedIntent = [] :=
  List.filterMap_eq_nil_iff.mpr fun event member => (nothing event member).submittedIntent

/-- A log that places nothing. -/
theorem tradesOnCheckedGround_of_nothing {engine : CycleEngine} {Excluded : String → Prop}
    {log : List EngineEvent} {Stopped : Prop} (nothing : ∀ event ∈ log, PlacesNothing event)
    (stops : ∀ before event after, log = before ++ event :: after →
      engine.FailedLiveCheckpoint event → Stopped) :
    TradesOnCheckedGround engine Excluded log Stopped where
  stops := by
    rintro before event after rfl failed
    refine ⟨fun later member => (nothing later ?_).2, stops _ _ _ rfl failed⟩
    exact List.mem_append_right _ (List.mem_cons_of_mem _ member)
  grounded := by
    rintro before intent book answer after rfl
    exact absurd rfl (nothing _ (List.mem_append_right _ List.mem_cons_self)).2
  reserved := by rw [reserved_of_placesNothing nothing, submitted_of_placesNothing nothing]
  reduces := by
    intro intent member
    rw [submitted_of_placesNothing nothing] at member
    cases member

namespace CheckedSubmission

variable {engine : CycleEngine} (submission : CheckedSubmission engine)

theorem checks_placeNothing : ∀ event ∈ submission.checks, PlacesNothing event := by
  intro event member
  refine EngineRequest.Selects.placesNothing ?_
  simp only [checks, MarketGround.events, List.mem_append, List.mem_cons, List.not_mem_nil,
    or_false] at member
  rcases member with started | rfl | (prepared | rfl | rfl | rfl) | rfl | guarded
  · exact .inl (.inl (submission.starts.auxiliary event started))
  · exact .inr rfl
  · exact .inl (submission.prepares event prepared)
  · exact .inl (.inl rfl)
  · exact .inl (.inl rfl)
  · exact .inl (.inr rfl)
  · exact .inl (.inl rfl)
  · exact .inl (.inl (submission.opens.auxiliary event guarded))

theorem events_unsubmitted : ∀ event ∈ submission.events, event.request.step ≠ .submit := by
  intro event member
  rcases List.mem_append.mp member with checks | last
  · exact (submission.checks_placeNothing event checks).2
  · rw [List.mem_singleton.mp last]
    nofun

/-- A submission after its checks, and nothing that is placed after it. -/
theorem tradesOnCheckedGround {Excluded : String → Prop} {rest : List EngineEvent} {Stopped : Prop}
    {answer : Except PyError ExecutionResult} (nothing : ∀ event ∈ rest, PlacesNothing event)
    (stops : ∀ before event after,
      submission.events ++ ⟨.submit submission.intent submission.book, answer⟩ :: rest =
        before ++ event :: after → engine.FailedLiveCheckpoint event → after = [] ∧ Stopped)
    (reduces : Excluded submission.intent.marketId → submission.intent.side = .sell) :
    TradesOnCheckedGround engine Excluded
      (submission.events ++ ⟨.submit submission.intent submission.book, answer⟩ :: rest) Stopped where
  stops := by
    intro before event after split failed
    obtain ⟨rfl, stopped⟩ := stops _ _ _ split failed
    exact ⟨fun _ => nofun, stopped⟩
  grounded := by
    intro before intent book answer' after split
    obtain ⟨rfl, same, -⟩ := append_cons_unique
      submission.events_unsubmitted (fun event member => (nothing event member).2)
      (not_not_intro rfl) split
    cases same
    exact ⟨[], submission, rfl, rfl, rfl⟩
  reserved := by
    rw [events, List.filterMap_append, List.filterMap_append, List.filterMap_append,
      List.filterMap_append, reserved_of_placesNothing submission.checks_placeNothing,
      submitted_of_placesNothing submission.checks_placeNothing]
    change _ :: rest.filterMap reservedIntent = _ :: rest.filterMap submittedIntent
    rw [reserved_of_placesNothing nothing, submitted_of_placesNothing nothing]
  reduces := by
    intro intent member
    rw [events, List.filterMap_append, List.filterMap_append,
      submitted_of_placesNothing submission.checks_placeNothing] at member
    change intent ∈ submission.intent :: rest.filterMap submittedIntent at member
    rw [submitted_of_placesNothing nothing] at member
    rw [List.mem_singleton.mp member]
    exact reduces

end CheckedSubmission

/-! ### Candidates -/

theorem RiskEngine.solvent_of_approved {engine : RiskEngine} {candidate : TradeCandidate}
    {market : MarketSpec} {book : TimedBook} {portfolio : PortfolioState} {now : Instant}
    (approved : (engine.evaluateCandidate candidate market book portfolio now).approved = true)
    (buys : candidate.side = .buy) :
    ¬ (portfolio.dailyRiskPnlUsd ≤
        -(portfolio.dailyLossBasisUsd * engine.settings.dailyLossLimitPct) ∨
      engine.settings.maxDrawdownPct ≤ portfolio.drawdownPct) := by
  have codes := codes_of_approved approved
  unfold evaluateCandidate at codes
  rw [buys] at codes
  have none := (List.append_eq_nil_iff.mp codes).2
  simp only [buyCodes, List.append_eq_nil_iff] at none
  obtain ⟨⟨⟨-, daily⟩, drawdown⟩, -⟩ := none
  rintro (loss | deep)
  · exact absurd (mem_codeIf.mpr ⟨loss, rfl⟩) (daily ▸ List.not_mem_nil)
  · exact absurd (mem_codeIf.mpr ⟨deep, rfl⟩) (drawdown ▸ List.not_mem_nil)

namespace ValueStrategy

variable {strategy : ValueStrategy} {market : MarketSpec} {yesBook noBook : TimedBook}
  {portfolio : PortfolioState} {candidate : TradeCandidate}

theorem choose_marketId {forecast : Forecast}
    (chosen : strategy.choose market forecast yesBook noBook portfolio = some candidate) :
    candidate.marketId = market.id := by
  obtain ⟨outcome, probability, nonneg, certain, sells | buys⟩ := strategy.choose_cases chosen
  · exact (strategy.sellCandidate_valid nonneg certain sells).2.1.marketId
  · obtain ⟨_, -, -, -, names, -⟩ := strategy.buyCandidate_within certain buys
    exact names.marketId

theorem chooseRiskExit_sells {now : Instant}
    (chosen : strategy.chooseRiskExit market yesBook noBook portfolio now = some candidate) :
    candidate.side = .sell ∧ candidate.marketId = market.id := by
  obtain ⟨outcome, exits⟩ := strategy.chooseRiskExit_cases chosen
  obtain ⟨sells, names, -⟩ := strategy.riskExitCandidate_valid exits
  exact ⟨sells, names.marketId⟩

end ValueStrategy

/-! ### Checkpoints -/

section Market

variable {engine : CycleEngine} {Possible : EngineEvent → Prop} {log : List EngineEvent}
  {state : CycleState} {market : ScannedMarket} {allowAi reduceOnly : Bool} {checkpoint : String}

namespace CycleEngine

theorem checked_ok {answer : Except PyError (PortfolioState × Instant)}
    {found : PortfolioState × Instant} (passes : engine.checked checkpoint answer = .ok found) :
    answer = .ok found ∧ (engine.RealMoney → ¬ engine.CheckpointFails answer) := by
  cases answer with
  | error problem =>
      unfold checked at passes
      dsimp only at passes
      split at passes
      · cases passes
      · cases passes
  | ok answer =>
      obtain ⟨portfolio, now⟩ := answer
      unfold checked at passes
      dsimp only at passes
      split at passes
      · rename_i paper
        cases passes
        exact ⟨rfl, fun real => absurd real paper⟩
      · split at passes
        · cases passes
        · rename_i known
          split at passes
          · cases passes
          · rename_i solvent
            cases passes
            refine ⟨rfl, fun _ fails => ?_⟩
            rcases fails with missing | missing | missing | breached
            · exact known (.inl missing)
            · exact known (.inr (.inl missing))
            · exact known (.inr (.inr missing))
            · exact solvent breached

theorem checked_fails {answer : Except PyError (PortfolioState × Instant)} (real : engine.RealMoney)
    (fails : engine.CheckpointFails answer) :
    ∃ stop, engine.checked checkpoint answer = .error (.stopped stop) := by
  cases found : engine.checked checkpoint answer with
  | ok found' => exact absurd fails ((checked_ok found).2 real)
  | error failure =>
      cases failure with
      | stopped stop => exact ⟨stop, rfl⟩
      | raised problem =>
          unfold checked at found
          split at found
          · rw [if_pos real] at found
            cases found
          · rw [if_neg (not_not_intro real)] at found
            split at found
            · cases found
            · split at found
              · cases found
              · cases found

/-- The one event of a checkpoint. -/
theorem portfolioCheckpoint_log
    {outcome : Except PyError (Except CheckpointFailure (PortfolioState × Instant))}
    (executes : Execution Possible (engine.portfolioCheckpoint checkpoint) log outcome) :
    ∃ answer, log = [⟨.portfolioState, answer⟩] ∧
      outcome = .ok (engine.checked checkpoint answer) := by
  obtain ⟨front, back, answer, rfl, asked, rest⟩ := executes.attempt_bind_cases
  cases rest
  obtain ⟨rfl, -⟩ := asked.ask_cases
  exact ⟨answer, rfl, rfl⟩

/-- A stage that starts with a checkpoint. -/
theorem checkpoint_bind_cases {ρ α : Type}
    {next : Except CheckpointFailure (PortfolioState × Instant) →
      Stage EngineRequest EngineRequest.Response PyError ρ α}
    {outcome : Except PyError (Except ρ α)}
    (executes : Execution Possible (within (engine.portfolioCheckpoint checkpoint) >>= next).run log
      outcome) :
    ∃ answer back, log = ⟨.portfolioState, answer⟩ :: back ∧
      Execution Possible (next (engine.checked checkpoint answer)).run back outcome := by
  rcases stage_bind_cases executes with
    ⟨failure, raises, -⟩ | ⟨result, ends, -⟩ | ⟨front, back, checked, rfl, first, rest⟩
  · obtain ⟨reached, checks, same⟩ := within_cases raises
    obtain ⟨_, -, rfl⟩ := portfolioCheckpoint_log checks
    cases same
  · obtain ⟨reached, checks, same⟩ := within_cases ends
    obtain ⟨_, -, rfl⟩ := portfolioCheckpoint_log checks
    cases same
  · obtain ⟨answer, rfl, same⟩ := portfolioCheckpoint_log (goesOn_within_iff.mp first)
    cases same
    exact ⟨answer, back, rfl, rest⟩

theorem passCheckpoint_log {found : PortfolioState × Instant}
    (executes : GoesOn Possible (engine.passCheckpoint state checkpoint) log found) :
    log = [⟨.portfolioState, .ok found⟩] ∧
      (engine.RealMoney → ¬ engine.CheckpointFails (.ok found)) := by
  obtain ⟨answer, back, rfl, rest⟩ := checkpoint_bind_cases executes
  split at rest
  · rename_i found' passes
    obtain ⟨rfl, rfl⟩ := goesOn_pure_iff.mp rest
    obtain ⟨rfl, sound⟩ := checked_ok passes
    exact ⟨rfl, sound⟩
  · cases rest
  · cases rest

/-- A failed checkpoint stops the work on the market. -/
abbrev HaltsAtCheckpoint {α : Type} (Possible : EngineEvent → Prop) (engine : CycleEngine)
    (stage : MarketStage α) : Prop :=
  Halts Possible engine.FailedLiveCheckpoint (fun ended => ∃ stop, ended.exit = .stopped stop) stage

theorem only_marketAwait {Lawful : EngineRequest → Prop} {request : EngineRequest}
    (lawful : Lawful request) : Only Lawful (state.await request) :=
  only_orEnd (.ask lawful fun _ _ => trivial)

theorem halts_of_only {α : Type} {stage : MarketStage α} {Lawful : EngineRequest → Prop}
    (only : Only Lawful stage) (unread : ¬ Lawful .portfolioState) :
    HaltsAtCheckpoint Possible engine stage := by
  refine .of_only only fun event failed lawful => ?_
  obtain ⟨-, answer, rfl, -⟩ := failed
  exact unread lawful

theorem halts_passCheckpoint :
    HaltsAtCheckpoint Possible engine (engine.passCheckpoint state checkpoint) := by
  rintro log outcome executes before event after split ⟨real, answer, rfl, fails⟩
  obtain ⟨answer', back, rfl, rest⟩ := checkpoint_bind_cases executes
  have ended : back = [] ∧ ((∃ stop, engine.checked checkpoint answer' = .error (.stopped stop)) →
      ∃ result, outcome = .ok (.error result) ∧ ∃ stop, result.exit = .stopped stop) := by
    split at rest
    · rename_i found passes
      cases rest
      exact ⟨rfl, fun ⟨stop, stopped⟩ => nomatch passes.symm.trans stopped⟩
    · rename_i stop stopped
      cases rest
      exact ⟨rfl, fun _ => ⟨_, rfl, stop, rfl⟩⟩
    · rename_i problem raised
      cases rest
      exact ⟨rfl, fun ⟨stop, stopped⟩ => nomatch raised.symm.trans stopped⟩
  obtain ⟨rfl, stops⟩ := ended
  cases before with
  | nil =>
      cases split
      exact ⟨rfl, stops (checked_fails real fails)⟩
  | cons head before =>
      injection split with _ nothing
      exact absurd nothing.symm (List.append_ne_nil_of_right_ne_nil _ (List.cons_ne_nil _ _))

/-! ### The requests of a market -/

theorem auxiliary_startMarket :
    Only EngineRequest.Auxiliary (engine.startMarket state market) := by
  refine only_bind only_endIf fun _ => only_bind only_endIf fun _ => ?_
  split
  · exact only_bind (only_marketAwait rfl) fun _ => only_endIf
  · trivial

theorem auxiliary_reserveAiBudget : Only EngineRequest.Auxiliary (reserveAiBudget state) :=
  only_bind only_endIf fun _ => only_bind (only_orEnd (.ask rfl fun _ _ => trivial)) fun _ =>
    only_bind only_endIf fun _ => only_pure _

theorem auxiliary_recordUsages (usages : List AiUsageRecord) :
    (recordUsages state usages).Uses (fun _ => True) EngineRequest.Auxiliary fun _ => True := by
  induction usages generalizing state with
  | nil => trivial
  | cons usage rest ih =>
      exact .bind (F := fun _ => True) (.attempt (.ask rfl fun _ _ => trivial) fun _ => trivial)
        fun _ _ => ih

theorem auxiliary_consultAi : Only EngineRequest.Auxiliary (engine.consultAi state market) := by
  refine only_bind (only_orEnd ?_) fun _ => only_bind only_endIf fun _ =>
    only_bind (only_orEnd (.ask rfl fun _ _ => trivial)) fun _ =>
      only_bind (only_marketAwait rfl) fun _ => only_bind (only_within (auxiliary_recordUsages _)) fun _ =>
        only_bind (only_orEnd (.ask rfl fun _ _ => trivial)) fun _ =>
          only_bind only_endIf fun _ => only_pure _
  exact .bind (F := fun _ => True) (.ask rfl fun _ _ => trivial) fun _ _ =>
    .bind (F := fun _ => True) (.ask rfl fun _ _ => trivial) fun _ _ => trivial

theorem prepares_readGround :
    Only EngineRequest.Prepares (engine.readGround state market checkpoint) := by
  refine only_bind (only_marketAwait (.inl rfl)) fun _ => only_bind (only_marketAwait (.inl rfl))
    fun _ => only_bind ?_ fun _ => only_pure _
  refine only_bind (only_within ?_) fun found => ?_
  · exact .bind (F := fun _ => True) (.attempt (.ask (.inr rfl) fun _ _ => trivial) fun _ => trivial)
      fun _ _ => trivial
  · split
    · trivial
    · trivial
    · trivial

theorem prepares_of_auxiliary {α : Type} {stage : MarketStage α}
    (only : Only EngineRequest.Auxiliary stage) : Only EngineRequest.Prepares stage :=
  only.weaken (fun _ => id) fun _ => EngineRequest.Auxiliary.prepares

theorem prepares_valueCandidate (ground : MarketGround) :
    Only EngineRequest.Prepares (engine.valueCandidate state market ground allowAi reduceOnly) :=
  only_bind only_endIf fun _ => only_bind only_endIf fun _ =>
    only_bind (only_marketAwait (.inl rfl)) fun _ => only_bind only_endIf fun _ =>
      only_bind only_endIf fun _ => only_bind (prepares_of_auxiliary auxiliary_reserveAiBudget) fun _ =>
        only_bind (prepares_of_auxiliary auxiliary_consultAi) fun _ =>
          only_bind prepares_readGround fun _ => only_bind only_require fun _ => only_pure _

theorem selects_selectCandidate :
    Only EngineRequest.Selects (engine.selectCandidate state market allowAi reduceOnly) := by
  refine only_bind (auxiliary_startMarket.weaken (fun _ => id) fun _ auxiliary => .inl (.inl auxiliary))
    fun _ => only_bind (only_marketAwait (.inr rfl)) fun _ =>
      only_bind (prepares_readGround.weaken (fun _ => id) fun _ => .inl) fun ground => ?_
  split
  · trivial
  · exact (prepares_valueCandidate ground).weaken (fun _ => id) fun _ => .inl

theorem auxiliary_approveCandidate (selected : SelectedCandidate) :
    Only EngineRequest.Auxiliary (engine.approveCandidate market selected) := by
  refine only_bind (only_marketAwait rfl) fun _ => only_bind only_endIf fun _ => ?_
  unfold passGuard
  split
  · exact only_bind (only_marketAwait rfl) fun _ => only_endIf
  · trivial

/-! ### The end of the work on a market -/

theorem halts_marketAwait {request : EngineRequest} (unread : request.step ≠ .checkpoint) :
    HaltsAtCheckpoint Possible engine (state.await request) := by
  have only : Only (fun request => request.step ≠ .checkpoint) (state.await request) :=
    only_marketAwait unread
  exact halts_of_only only (not_not_intro rfl)

theorem halts_readGround :
    HaltsAtCheckpoint Possible engine (engine.readGround state market checkpoint) :=
  .bind (halts_marketAwait nofun) fun _ => .bind (halts_marketAwait nofun) fun _ =>
    .bind halts_passCheckpoint fun _ => .silent (only_pure _)

theorem halts_valueCandidate (ground : MarketGround) :
    HaltsAtCheckpoint Possible engine
      (engine.valueCandidate state market ground allowAi reduceOnly) :=
  .bind (.silent only_endIf) fun _ => .bind (.silent only_endIf) fun _ =>
    .bind (halts_marketAwait nofun) fun _ => .bind (.silent only_endIf) fun _ =>
      .bind (.silent only_endIf) fun _ => .bind (halts_of_only auxiliary_reserveAiBudget nofun) fun _ =>
        .bind (halts_of_only auxiliary_consultAi nofun) fun _ => .bind halts_readGround fun _ =>
          .bind (.silent only_require) fun _ => .silent (only_pure _)

theorem halts_selectCandidate :
    HaltsAtCheckpoint Possible engine
      (engine.selectCandidate state market allowAi reduceOnly) := by
  refine .bind (halts_of_only auxiliary_startMarket nofun) fun _ =>
    .bind (halts_marketAwait nofun) fun _ => .bind halts_readGround fun ground => ?_
  split
  · exact .silent (only_pure _)
  · exact halts_valueCandidate ground

theorem halts_marketStage :
    HaltsAtCheckpoint Possible engine (engine.marketStage state market allowAi reduceOnly) := by
  refine .bind halts_selectCandidate fun selected =>
    .bind (halts_of_only (auxiliary_approveCandidate selected) nofun) fun _ =>
      .bind ?_ fun _ => .bind ?_ fun _ => .silent (only_pure _)
  · exact .bind (halts_marketAwait nofun) fun _ => .bind (.silent only_endIf) fun _ =>
      .silent (only_pure _)
  · exact .bind (halts_marketAwait nofun) fun _ => .bind (halts_marketAwait nofun) fun _ =>
      .silent (only_pure _)

/-! ### What a candidate was chosen on -/

theorem goesOn_marketAwait {α : Type} {request : EngineRequest} {result : α}
    {next : request.Response → MarketStage α}
    (executes : GoesOn Possible (state.await request >>= next) log result) :
    ∃ response back, log = ⟨request, .ok response⟩ :: back ∧
      GoesOn Possible (next response) back result := by
  rw [CycleState.await, goesOn_orEnd_bind_iff] at executes
  obtain ⟨front, back, response, rfl, asked, rest⟩ := executes
  obtain ⟨rfl, -⟩ := Execution.ask_ok_iff.mp asked
  exact ⟨response, back, rfl, rest⟩

theorem startMarket_log {result : Unit}
    (executes : GoesOn Possible (engine.startMarket state market) log result) :
    engine.Starts market log := by
  rw [startMarket, goesOn_endIf_bind_iff, goesOn_endIf_bind_iff] at executes
  obtain ⟨-, -, executes⟩ := executes
  split at executes
  · rename_i quarantines
    obtain ⟨blocked, back, rfl, checks⟩ := goesOn_marketAwait executes
    obtain ⟨rfl, clear⟩ := goesOn_endIf_iff.mp checks
    rw [not_or] at clear
    exact .checked blocked quarantines clear.1 clear.2
  · rename_i unquarantined
    obtain ⟨rfl, -⟩ := goesOn_pure_iff.mp executes
    exact .unchecked (Bool.eq_false_of_not_eq_true unquarantined)

theorem readGround_log {ground : MarketGround}
    (executes : GoesOn Possible (engine.readGround state market checkpoint) log ground) :
    log = ground.events market ∧
      (engine.RealMoney → ¬ engine.CheckpointFails (.ok (ground.portfolio, ground.now))) := by
  obtain ⟨books, _, rfl, saves⟩ := goesOn_marketAwait executes
  obtain ⟨⟨⟩, _, rfl, reads⟩ := goesOn_marketAwait saves
  rw [goesOn_bind_iff] at reads
  obtain ⟨front, back, found, rfl, passes, last⟩ := reads
  obtain ⟨rfl, rfl⟩ := goesOn_pure_iff.mp last
  obtain ⟨rfl, sound⟩ := passCheckpoint_log passes
  exact ⟨rfl, sound⟩

/-- A candidate of the market on the ground, chosen after the events. -/
structure Chosen (engine : CycleEngine) (market : ScannedMarket) (selected : SelectedCandidate)
    (prepared : List EngineEvent) : Prop where
  prepares : ∀ event ∈ prepared, event.request.Prepares
  passes : engine.RealMoney →
    ¬ engine.CheckpointFails (.ok (selected.ground.portfolio, selected.ground.now))
  names : selected.candidate.marketId = market.id

theorem valueCandidate_log {ground : MarketGround} {selected : SelectedCandidate}
    (executes : GoesOn Possible (engine.valueCandidate state market ground allowAi reduceOnly) log
      selected) :
    allowAi = true ∧ ∃ prepared, log = prepared ++ selected.ground.events market ∧
      Chosen engine market selected prepared := by
  rw [valueCandidate, goesOn_endIf_bind_iff, goesOn_endIf_bind_iff] at executes
  obtain ⟨allowed, -, executes⟩ := executes
  obtain ⟨fresh, _, rfl, budgets⟩ := goesOn_marketAwait executes
  rw [goesOn_endIf_bind_iff, goesOn_endIf_bind_iff, goesOn_bind_iff] at budgets
  obtain ⟨-, -, reserved, _, state, rfl, reserves, asks⟩ := budgets
  rw [goesOn_bind_iff] at asks
  obtain ⟨consulted, _, ⟨state, forecast⟩, rfl, consults, reprices⟩ := asks
  rw [goesOn_bind_iff] at reprices
  obtain ⟨read, _, ground, rfl, reads, values⟩ := reprices
  rw [goesOn_require_bind_iff] at values
  obtain ⟨candidate, chosen, last⟩ := values
  obtain ⟨rfl, rfl⟩ := goesOn_pure_iff.mp last
  obtain ⟨rfl, passes⟩ := readGround_log reads
  refine ⟨Bool.eq_true_of_not_eq_false allowed,
    ⟨.forecastIsFresh market.id engine.forecastCooldownSeconds, .ok fresh⟩ :: (reserved ++ consulted),
    ?_, ?_, passes, ValueStrategy.choose_marketId chosen⟩
  · simp
  · intro event member
    rcases List.mem_cons.mp member with rfl | later
    · exact .inl rfl
    · rcases List.mem_append.mp later with early | late
      · exact .inl (auxiliary_reserveAiBudget.requests reserves event early)
      · exact .inl (auxiliary_consultAi.requests consults event late)

theorem selectCandidate_log {selected : SelectedCandidate}
    (executes : GoesOn Possible (engine.selectCandidate state market allowAi reduceOnly) log selected) :
    ∃ started prepared, log = started ++ ⟨.saveMarket market, .ok ()⟩ ::
        (prepared ++ selected.ground.events market) ∧ engine.Starts market started ∧
      Chosen engine market selected prepared ∧
      (allowAi = false → selected.candidate.side = .sell) := by
  rw [selectCandidate, goesOn_bind_iff] at executes
  obtain ⟨started, _, _, rfl, starts, saves⟩ := executes
  obtain ⟨⟨⟩, _, rfl, grounds⟩ := goesOn_marketAwait saves
  rw [goesOn_bind_iff] at grounds
  obtain ⟨read, back, ground, rfl, reads, chooses⟩ := grounds
  obtain ⟨rfl, passes⟩ := readGround_log reads
  split at chooses
  · rename_i candidate exits
    obtain ⟨rfl, rfl⟩ := goesOn_pure_iff.mp chooses
    obtain ⟨sells, names⟩ := ValueStrategy.chooseRiskExit_sells exits
    exact ⟨started, [], by simp, startMarket_log starts, ⟨fun _ => nofun, passes, names⟩,
      fun _ => sells⟩
  · obtain ⟨allowed, prepared, rfl, chosen⟩ := valueCandidate_log chooses
    refine ⟨started, ground.events market ++ prepared, by simp, startMarket_log starts,
      ⟨?_, chosen.passes, chosen.names⟩, fun refused => nomatch allowed.symm.trans refused⟩
    intro event member
    rcases List.mem_append.mp member with early | late
    · exact prepares_readGround.requests reads event early
    · exact chosen.prepares event late

theorem approveCandidate_log {selected : SelectedCandidate} {result : Unit}
    (executes : GoesOn Possible (engine.approveCandidate market selected) log result) :
    (engine.decisionOn market selected.ground selected.candidate).approved = true ∧
      ∃ guarded, engine.Opens guarded ∧
        log = ⟨.saveRiskDecision (engine.intentOf selected.candidate)
          (engine.decisionOn market selected.ground selected.candidate), .ok ()⟩ :: guarded := by
  obtain ⟨⟨⟩, _, rfl, decides⟩ := goesOn_marketAwait executes
  rw [goesOn_endIf_bind_iff] at decides
  obtain ⟨approved, guards⟩ := decides
  refine ⟨Bool.eq_true_of_not_eq_false approved, _, ?_, rfl⟩
  unfold passGuard at guards
  split at guards
  · rename_i guarded
    obtain ⟨isOpen, _, rfl, asks⟩ := goesOn_marketAwait guards
    obtain ⟨rfl, opened⟩ := goesOn_endIf_iff.mp asks
    cases Bool.eq_true_of_not_eq_false opened
    exact .opened guarded
  · rename_i unguarded
    obtain ⟨rfl, -⟩ := goesOn_pure_iff.mp guards
    exact .unguarded (Bool.eq_false_of_not_eq_true unguarded)

/-! ### A market -/

theorem marketAwait_cases {α : Type} {request : EngineRequest} {next : request.Response → MarketStage α}
    {outcome : Except PyError (Except MarketEnd α)}
    (executes : Execution Possible (state.await request >>= next).run log outcome) :
    ∃ answer back, log = ⟨request, answer⟩ :: back ∧
      ((∃ response, answer = .ok response ∧ Execution Possible (next response).run back outcome) ∨
        ∃ problem, answer = .error problem ∧ back = [] ∧
          outcome = .ok (.error ⟨state, .raised problem⟩)) := by
  rcases stage_bind_cases executes with
    ⟨failure, raises, rfl⟩ | ⟨result, ends, rfl⟩ | ⟨front, back, response, rfl, goesOn, rest⟩
  · obtain ⟨caught, -, same⟩ := orEnd_cases raises
    cases same
  · obtain ⟨caught, asked, same⟩ := orEnd_cases ends
    obtain ⟨rfl, -⟩ := asked.ask_cases
    cases caught with
    | ok response => cases same
    | error problem =>
        cases same
        exact ⟨_, [], rfl, .inr ⟨problem, rfl, rfl, rfl⟩⟩
  · obtain ⟨rfl, -⟩ := Execution.ask_ok_iff.mp (goesOn_orEnd_iff.mp goesOn)
    exact ⟨_, back, rfl, .inl ⟨response, rfl, rest⟩⟩

/-- The one event of a reservation, which goes on if it was granted. -/
theorem reserveCandidate_cases {selected : SelectedCandidate}
    {outcome : Except PyError (Except MarketEnd CycleState)}
    (executes : Execution Possible (engine.reserveCandidate selected).run log outcome) :
    ∃ answer, log = [⟨.reserveIntent (engine.intentOf selected.candidate), answer⟩] ∧
      (answer = .ok true ∧ (∃ state, outcome = .ok (.ok state)) ∨
        PlacesNothing ⟨.reserveIntent (engine.intentOf selected.candidate), answer⟩ ∧
          ∀ state, outcome ≠ .ok (.ok state)) := by
  obtain ⟨answer, back, rfl, answered⟩ := marketAwait_cases executes
  rcases answered with ⟨reserved, rfl, rest⟩ | ⟨problem, rfl, rfl, rfl⟩
  · cases reserved with
    | true =>
        cases rest
        exact ⟨_, rfl, .inl ⟨rfl, _, rfl⟩⟩
    | false =>
        cases rest
        exact ⟨_, rfl, .inr ⟨⟨rfl, nofun⟩, fun _ => nofun⟩⟩
  · exact ⟨_, rfl, .inr ⟨⟨rfl, nofun⟩, fun _ => nofun⟩⟩

theorem submitCandidate_log {selected : SelectedCandidate}
    {outcome : Except PyError (Except MarketEnd CycleState)}
    (executes : Execution Possible (engine.submitCandidate state market selected).run log outcome) :
    ∃ answer rest, log = ⟨.submit (engine.intentOf selected.candidate)
        (bookFor market selected.ground selected.candidate), answer⟩ :: rest ∧
      ∀ event ∈ rest, PlacesNothing event := by
  obtain ⟨answer, back, rfl, answered⟩ := marketAwait_cases executes
  refine ⟨answer, back, rfl, ?_⟩
  rcases answered with ⟨execution, rfl, saves⟩ | ⟨problem, rfl, rfl, rfl⟩
  · have only : Only EngineRequest.Auxiliary (state.await (.saveExecution execution) >>= fun _ =>
        (pure (state.executed execution) : MarketStage CycleState)) :=
      only_bind (only_marketAwait rfl) fun _ => only_pure _
    intro event member
    exact EngineRequest.Selects.placesNothing (.inl (.inl (only.requests saves event member)))
  · exact fun _ => nofun

theorem decisionOn_solvent {ground : MarketGround} {candidate : TradeCandidate}
    (approved : (engine.decisionOn market ground candidate).approved = true)
    (buys : candidate.side = .buy) : ¬ engine.strategy.HardRiskBreached ground.portfolio := by
  have solvent := RiskEngine.solvent_of_approved approved buys
  exact solvent

/-- The submission ends the work on the market. -/
theorem submissionStage_log {selected : SelectedCandidate} {usedAi : Bool}
    {outcome : Except PyError (Except MarketEnd MarketEnd)}
    (executes : Execution Possible (engine.submitCandidate state market selected >>= fun state =>
      (pure (state.returned usedAi) : MarketStage MarketEnd)).run log outcome) :
    ∃ answer rest, log = ⟨.submit (engine.intentOf selected.candidate)
        (bookFor market selected.ground selected.candidate), answer⟩ :: rest ∧
      ∀ event ∈ rest, PlacesNothing event := by
  rcases stage_bind_cases executes with
    ⟨_, raises, -⟩ | ⟨_, ends, -⟩ | ⟨front, back, state', rfl, submits, last⟩
  · exact submitCandidate_log raises
  · exact submitCandidate_log ends
  · cases last
    rw [List.append_nil]
    exact submitCandidate_log submits

/-- The events of a market that was submitted. -/
theorem submission_of_logs {selected : SelectedCandidate} {selecting approving : List EngineEvent}
    {result : Unit}
    (selects : GoesOn Possible (engine.selectCandidate state market allowAi reduceOnly) selecting
      selected)
    (approves : GoesOn Possible (engine.approveCandidate market selected) approving result) :
    ∃ submission : CheckedSubmission engine, submission.market = market ∧
      submission.intent = engine.intentOf selected.candidate ∧
      submission.book = bookFor market selected.ground selected.candidate ∧
      submission.checks = selecting ++ approving ∧
      (allowAi = false → submission.intent.side = .sell) := by
  obtain ⟨started, prepared, rfl, starts, chosen, sells⟩ := selectCandidate_log selects
  obtain ⟨approved, guarded, opens, rfl⟩ := approveCandidate_log approves
  have solvent := decisionOn_solvent approved
  refine ⟨⟨market, selected.ground, selected.candidate, started, prepared, guarded, starts,
    chosen.prepares, chosen.passes, chosen.names, approved, solvent, opens⟩, rfl, rfl, rfl, ?_, sells⟩
  simp only [CheckedSubmission.checks, CheckedSubmission.intent, List.append_assoc, List.cons_append]

/-- The work on a market trades on checked ground, and an excluded market is only reduced. -/
theorem marketStage_trades {Excluded : String → Prop} {outcome : Except PyError (Except MarketEnd MarketEnd)}
    (executes : Execution Possible (engine.marketStage state market allowAi reduceOnly).run log outcome)
    (excluded : Excluded market.id → allowAi = false) :
    TradesOnCheckedGround engine Excluded log
      (∃ result, outcome = .ok (.error result) ∧ ∃ stop, result.exit = .stopped stop) := by
  have halts := halts_marketStage log outcome executes
  have stops := fun before event after split failed => (halts before event after split failed).2
  rcases stage_bind_cases executes with
    ⟨_, raises, -⟩ | ⟨_, ends, -⟩ | ⟨selecting, _, selected, rfl, selects, approval⟩
  · exact tradesOnCheckedGround_of_nothing
      (fun event member => (selects_selectCandidate.requests raises event member).placesNothing) stops
  · exact tradesOnCheckedGround_of_nothing
      (fun event member => (selects_selectCandidate.requests ends event member).placesNothing) stops
  have selecting_nothing : ∀ event ∈ selecting, PlacesNothing event := fun event member =>
    (selects_selectCandidate.requests selects event member).placesNothing
  have approving_nothing : ∀ {approving reached},
      Execution Possible (engine.approveCandidate market selected).run approving reached →
        ∀ event ∈ selecting ++ approving, PlacesNothing event := by
    intro approving reached approves event member
    rcases List.mem_append.mp member with early | late
    · exact selecting_nothing event early
    · exact EngineRequest.Selects.placesNothing
        (.inl (.inl ((auxiliary_approveCandidate selected).requests approves event late)))
  rcases stage_bind_cases approval with
    ⟨_, raises, -⟩ | ⟨_, ends, -⟩ | ⟨approving, _, ⟨⟩, rfl, approves, reservation⟩
  · exact tradesOnCheckedGround_of_nothing (approving_nothing raises) stops
  · exact tradesOnCheckedGround_of_nothing (approving_nothing ends) stops
  have refused : ∀ {reached reserving}, Execution Possible (engine.reserveCandidate selected).run
      reserving reached → (∀ state, reached ≠ .ok (.ok state)) →
        ∀ event ∈ selecting ++ (approving ++ reserving), PlacesNothing event := by
    intro reached reserving reserves ended event member
    rw [← List.append_assoc] at member
    rcases List.mem_append.mp member with early | late
    · exact approving_nothing approves event early
    · obtain ⟨answer, rfl, ⟨-, state, goesOn⟩ | ⟨nothing, -⟩⟩ := reserveCandidate_cases reserves
      · exact absurd goesOn (ended state)
      · rw [List.mem_singleton.mp late]
        exact nothing
  rcases stage_bind_cases reservation with
    ⟨_, raises, -⟩ | ⟨_, ends, -⟩ | ⟨reserving, submitting, state', rfl, reserves, submits⟩
  · exact tradesOnCheckedGround_of_nothing (refused raises fun _ => nofun) stops
  · exact tradesOnCheckedGround_of_nothing (refused ends fun _ => nofun) stops
  obtain ⟨submission, rfl, intent, book, checks, sells⟩ := submission_of_logs selects approves
  obtain ⟨answer, rfl, ⟨rfl, -⟩ | ⟨-, refused'⟩⟩ := reserveCandidate_cases reserves
  · obtain ⟨execution, rest, rfl, nothing⟩ := submissionStage_log submits
    rw [← intent, ← book] at stops halts ⊢
    have logged : selecting ++ (approving ++ ([⟨.reserveIntent submission.intent, .ok true⟩] ++
          ⟨.submit submission.intent submission.book, execution⟩ :: rest)) =
        submission.events ++ ⟨.submit submission.intent submission.book, execution⟩ :: rest := by
      rw [CheckedSubmission.events, checks]
      simp only [List.append_assoc]
    rw [logged] at halts ⊢
    refine submission.tradesOnCheckedGround nothing halts fun out => sells (excluded ?_)
    rw [← submission.names]
    exact out
  · exact absurd rfl (refused' state')

theorem processMarket_trades {Excluded : String → Prop} {outcome : Except PyError MarketEnd}
    (executes : Execution Possible (engine.processMarket state market allowAi reduceOnly) log outcome)
    (excluded : Excluded market.id → allowAi = false) :
    TradesOnCheckedGround engine Excluded log
      (∃ result, outcome = .ok result ∧ ∃ stop, result.exit = .stopped stop) := by
  obtain ⟨reached, runs, same⟩ := ended_cases executes
  refine (marketStage_trades runs excluded).mono ?_
  rintro ⟨result, rfl, stop, stopped⟩
  rcases same with ⟨failure, impossible, -⟩ | ⟨result', found, rfl⟩ | ⟨result', impossible, -⟩
  · cases impossible
  · cases found
    exact ⟨result, rfl, stop, stopped⟩
  · cases impossible

end CycleEngine

end Market

end Polybot
