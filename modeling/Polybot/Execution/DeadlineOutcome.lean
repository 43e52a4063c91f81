import Polybot.Execution.Finish
import Polybot.Execution.Serving

/-!
What `process_deadline` makes durable.

The operation decides by the action of `on_leg_deadline`, not by the state it
returns. A group that the deadline moves to `PAIRED` or `CANCELLED` comes without
an action, so the operation answers `NOOP` and commits nothing; every other move
is committed, or lost to a `CONFLICT` (`deadline_persisted_iff`). The condition is
`FinishesAtDeadline`, and it stays true as time passes: later deadlines leave the
same group behind again.
-/

namespace Polybot

open Checked Interaction

/-- The deadline moves the group to another status. -/
def MovesAtDeadline (state : OrderGroupState) (timestamp : Instant) : Prop :=
  (onLegDeadline state timestamp).1.group.status ≠ state.group.status

/-- The result carries the state in which the operation left the group, or a
conflict. -/
def CoordinatorResult.Reports (result : CoordinatorResult) : Prop :=
  result.status ≠ .noop ∧ (result.status = .conflict ∨ result.state.isSome)

/-- The first request after the load commits the state of the deadline, and either
the commit lost its race and the result is `CONFLICT`, or it was committed and the
result reports it: as the final state if no order was to be cancelled, as the
outcome of the cancellation otherwise. -/
def PersistsDeadline (coordinator : PairExecutionCoordinator) (before : OrderGroupState)
    (timestamp : Instant) (events : List CoordinatorEvent) (result : CoordinatorResult) : Prop :=
  let expired := onLegDeadline before timestamp
  ∃ (reason : String) (committed : Bool) (rest : List CoordinatorEvent),
    events = ⟨.commitPairGroupTransition coordinator.accountId before.group.version
      (transitionPayload before.group.version expired.1) expired.1.legs reason,
      .ok committed⟩ :: rest ∧
    if committed = true then
      result.Reports ∧ (expired.2.action ≠ .cancelOrders → rest = [] ∧
        result.state = some (expired.1.normalized (before.group.version + 1)))
    else rest = [] ∧ result.status = .conflict

/-! ### The action of a deadline -/

variable {state : OrderGroupState} {timestamp : Instant}

/-- A deadline comes without an action exactly if it is early or finishes the group. -/
theorem onLegDeadline_idle_iff :
    (onLegDeadline state timestamp).2.action = .none ↔
      (timestamp < state.group.legDeadlineAt ∨ state.group.status ∈ settledStatuses) ∨
        FinishesAtDeadline state timestamp := by
  unfold FinishesAtDeadline onLegDeadline
  by_cases early : timestamp < state.group.legDeadlineAt ∨ state.group.status ∈ settledStatuses
  · simp [early, OrderManagerAction.idle]
  · simp only [early, if_false, not_false_eq_true, true_and, false_or]
    by_cases pending : cancelIds state.legs = []
    · simp only [pending, ne_eq, not_true_eq_false, if_false, map_deadlineLeg_of_none pending,
        terminalWithoutWorkingOrders_action, true_and]
      split <;> simp_all
    · simp [pending]

/-- An early deadline moves nothing. -/
theorem not_movesAtDeadline_of_early
    (early : timestamp < state.group.legDeadlineAt ∨ state.group.status ∈ settledStatuses) :
    ¬ MovesAtDeadline state timestamp := by
  unfold MovesAtDeadline onLegDeadline
  rw [if_pos early]
  exact not_not.mpr rfl

/-- A group that a deadline would finish is one that every later deadline would
finish. -/
theorem FinishesAtDeadline.later (finishes : FinishesAtDeadline state timestamp) {now : Instant}
    (later : timestamp ≤ now) : FinishesAtDeadline state now := by
  obtain ⟨due, rest⟩ := finishes
  refine ⟨fun early => due (early.imp_left fun before => ?_), rest⟩
  exact lt_of_le_of_lt later before

namespace PairExecutionCoordinator

variable (coordinator : PairExecutionCoordinator) {Possible : CoordinatorEvent → Prop}

/-! ### What the operation answers -/

/-- The program returns results that report their state. -/
abbrev ReportingProgram (program : CoordinatorProgram CoordinatorResult) : Prop :=
  program.Uses (fun _ => True) (fun _ => True) CoordinatorResult.Reports

theorem uses_anything {α : Type} (program : CoordinatorProgram α) :
    program.Uses (fun _ => True) (fun _ => True) fun _ => True := by
  induction program with
  | done value => trivial
  | raised failure => trivial
  | call request resume ih => exact ⟨trivial, fun answer _ => ih answer⟩

/-- Whatever the first part returns, the rest reports. -/
theorem ReportingProgram.after {α : Type} {program : CoordinatorProgram α}
    {next : α → CoordinatorProgram CoordinatorResult}
    (rest : ∀ value, ReportingProgram (next value)) : ReportingProgram (program >>= next) :=
  (uses_anything program).bind fun value _ => rest value

/-- What a reporting program returns reports. -/
theorem ReportingProgram.returned {program : CoordinatorProgram CoordinatorResult}
    {events : List CoordinatorEvent} {result : CoordinatorResult}
    (reporting : ReportingProgram program)
    (executes : Program.Execution Possible program events (.ok result)) : result.Reports :=
  (reporting.weaken (fun _ _ => trivial) fun _ lawful => lawful).returned executes

theorem statusForState_ne_noop (state : OrderGroupState) : statusForState state ≠ .noop := by
  unfold statusForState
  cases state.group.status <;> decide

theorem CoordinatorResult.reports_of_some {status : CoordinatorStatus} {state : OrderGroupState}
    {executions : List ExecutionResult} {message : String} (answered : status ≠ .noop) :
    (⟨status, some state, executions, message⟩ : CoordinatorResult).Reports :=
  ⟨answered, .inr rfl⟩

theorem CoordinatorResult.reports_of_conflict {executions : List ExecutionResult}
    {message : String} : (⟨.conflict, none, executions, message⟩ : CoordinatorResult).Reports :=
  ⟨nofun, .inl rfl⟩

theorem freezeState_reports (state : OrderGroupState) (reason : String) (timestamp : Instant) :
    ReportingProgram (coordinator.freezeState state reason timestamp) := by
  refine .after fun committed => ?_
  cases committed with
  | none => exact CoordinatorResult.reports_of_conflict
  | some frozen => exact CoordinatorResult.reports_of_some nofun

theorem onFill_reports (enabled : coordinator.config.enabled = true) (fill : CoordinatorFill) :
    ReportingProgram (coordinator.onFill fill) := by
  have attempts : ∀ retries, ReportingProgram (coordinator.onFillAttempts fill retries) := by
    intro retries
    induction retries with
    | zero => exact CoordinatorResult.reports_of_conflict
    | succ retries ih =>
        unfold onFillAttempts
        refine .after fun before => ?_
        split
        · exact CoordinatorResult.reports_of_some nofun
        · split
          · exact CoordinatorResult.reports_of_some nofun
          · refine .after fun committed => ?_
            cases committed with
            | applied => exact CoordinatorResult.reports_of_some (statusForState_ne_noop _)
            | duplicate => exact .after fun _ => CoordinatorResult.reports_of_some nofun
            | conflict => exact ih
  unfold onFill
  rw [if_neg (by simp [enabled])]
  exact attempts _

theorem recordHedge_reports (enabled : coordinator.config.enabled = true) (accountId : String)
    (groupId : UUID) (afterCancel : OrderGroupState) (leg : OrderLeg) (execution : ExecutionResult)
    (now : Option Instant) (clock : Nat → Instant) :
    ReportingProgram
      (coordinator.recordHedge accountId groupId afterCancel leg execution now clock) := by
  refine .after fun _ => .after fun recorded => .after fun committed => ?_
  cases committed with
  | none => exact .after fun _ => CoordinatorResult.reports_of_conflict
  | some hedged =>
      dsimp only
      unfold finishHedge
      split
      · refine .after fun fill => ?_
        exact (coordinator.onFill_reports enabled fill).bind fun filled reports => reports
      · exact CoordinatorResult.reports_of_some (statusForState_ne_noop _)

theorem failHedge_reports (afterCancel : OrderGroupState) (leg : OrderLeg) (exc : PyError)
    (timestamp : Instant) :
    ReportingProgram (coordinator.failHedge afterCancel leg exc timestamp) := by
  refine .after fun recorded => .after fun committed => ?_
  cases committed with
  | none => exact CoordinatorResult.reports_of_conflict
  | some failed => exact CoordinatorResult.reports_of_some nofun

theorem submitHedge_reports (enabled : coordinator.config.enabled = true) (accountId : String)
    (groupId : UUID) (runId : String) (afterCancel : OrderGroupState) (leg : OrderLeg)
    (package : HedgePackage) (now : Option Instant) (clock : Nat → Instant) :
    ReportingProgram
      (coordinator.submitHedge accountId groupId runId afterCancel leg package now clock) := by
  unfold submitHedge
  split
  · exact coordinator.failHedge_reports afterCancel leg _ _
  · refine .after fun answered => ?_
    cases answered with
    | error exc => exact coordinator.failHedge_reports afterCancel leg exc _
    | ok execution =>
        exact coordinator.recordHedge_reports enabled accountId groupId afterCancel leg execution
          now clock

theorem hedgeReconciled_reports (enabled : coordinator.config.enabled = true) (accountId : String)
    (groupId : UUID) (runId : String) (orderIds : List String) (reconciled : OrderGroupState)
    (hedgeLegId : UUID) (now : Option Instant) (clock : Nat → Instant) :
    ReportingProgram (coordinator.hedgeReconciled accountId groupId runId orderIds reconciled
      hedgeLegId now clock) := by
  refine .after fun quoted => .after fun committed => ?_
  cases committed with
  | none => exact CoordinatorResult.reports_of_conflict
  | some afterCancel =>
      dsimp only
      split
      · exact CoordinatorResult.reports_of_some (statusForState_ne_noop _)
      · split
        · exact coordinator.submitHedge_reports enabled accountId groupId runId afterCancel _ _ now
            clock
        · trivial

/-- The outcome of the cancellation is reported. -/
theorem cancelExpired_reports (enabled : coordinator.config.enabled = true) (accountId : String)
    (groupId : UUID) (runId : String) (cancelling : OrderGroupState) (orderIds : List String)
    (hedgeLegId : UUID) (now : Option Instant) (clock : Nat → Instant) :
    ReportingProgram (coordinator.cancelExpired accountId groupId runId cancelling orderIds
      hedgeLegId now clock) := by
  refine .after fun verified => ?_
  split
  · refine .after fun loaded => ?_
    cases loaded with
    | error exc => exact coordinator.freezeState_reports cancelling _ _
    | ok reconciled =>
        exact coordinator.hedgeReconciled_reports enabled accountId groupId runId orderIds
          reconciled hedgeLegId now clock
  · exact coordinator.freezeState_reports cancelling _ _

/-- A commit that lets the operation return was answered. -/
theorem commitTransition_answered {expectedGroupVersion : Nat} {state : OrderGroupState}
    {reason : String} {next : Option OrderGroupState → CoordinatorProgram CoordinatorResult}
    {events : List CoordinatorEvent} {result : CoordinatorResult}
    (executes : Program.Execution Possible
      (coordinator.commitTransition expectedGroupVersion state reason >>= next) events
      (.ok result)) :
    ∃ (committed : Bool) (rest : List CoordinatorEvent),
      events = ⟨.commitPairGroupTransition coordinator.accountId expectedGroupVersion
        (transitionPayload expectedGroupVersion state) state.legs reason, .ok committed⟩ :: rest ∧
      Program.Execution Possible
        (next (if committed = true then some (state.normalized (expectedGroupVersion + 1))
          else none)) rest (.ok result) := by
  unfold commitTransition at executes
  cases account : requireAccount coordinator.accountId state.group.accountId with
  | error problem =>
      rw [account] at executes
      cases executes
  | ok value =>
      rw [account] at executes
      cases executes with
      | call answer possible rest =>
          cases answer with
          | error failure => cases rest
          | ok committed => exact ⟨committed, _, rfl, rest⟩

/-- A deadline with an action is persisted. -/
theorem expire_persists (enabled : coordinator.config.enabled = true) {accountId : String}
    {groupId : UUID} {runId : String} {before : OrderGroupState} {timestamp : Instant}
    {hedgeLegId : UUID} {now : Option Instant} {clock : Nat → Instant}
    {events : List CoordinatorEvent} {result : CoordinatorResult}
    (acts : (onLegDeadline before timestamp).2.action ≠ .none)
    (executes : Program.Execution Possible (coordinator.expire accountId groupId runId before
      (onLegDeadline before timestamp).1 (onLegDeadline before timestamp).2 hedgeLegId now clock)
      events (.ok result)) :
    PersistsDeadline coordinator before timestamp events result := by
  unfold expire at executes
  split at executes
  · rename_i idle
    exact absurd idle acts
  · rename_i cancels
    obtain ⟨committed, rest, rfl, onwards⟩ := coordinator.commitTransition_answered executes
    refine ⟨_, committed, rest, rfl, ?_⟩
    cases committed with
    | false =>
        cases onwards
        exact ⟨rfl, rfl⟩
    | true =>
        have reports := ReportingProgram.returned (coordinator.cancelExpired_reports enabled
          accountId groupId runId _ _ hedgeLegId now clock) onwards
        exact ⟨reports, fun other => absurd cancels other⟩
  · obtain ⟨committed, rest, rfl, onwards⟩ := coordinator.commitTransition_answered executes
    refine ⟨_, committed, rest, rfl, ?_⟩
    cases committed with
    | false =>
        cases onwards
        exact ⟨rfl, rfl⟩
    | true =>
        cases onwards
        exact ⟨CoordinatorResult.reports_of_some (statusForState_ne_noop _), fun _ => ⟨rfl, rfl⟩⟩

/-- A deadline that finishes the group returns at once. -/
theorem expire_of_finishes {accountId : String} {groupId : UUID} {runId : String}
    {before : OrderGroupState} {timestamp : Instant} {hedgeLegId : UUID} {now : Option Instant}
    {clock : Nat → Instant} (finishes : FinishesAtDeadline before timestamp) :
    coordinator.expire accountId groupId runId before (onLegDeadline before timestamp).1
        (onLegDeadline before timestamp).2 hedgeLegId now clock =
      .done ⟨.noop, some before, [], "group has no expired working legs"⟩ := by
  unfold expire
  rw [onLegDeadline_idle_iff.mpr (.inr finishes)]

/-- The operation of an enabled coordinator on a loaded group. -/
theorem processDeadline_enabled (enabled : coordinator.config.enabled = true) (accountId : String)
    (groupId : UUID) (runId : String) (now : Option Instant) (hedgeLegId : UUID)
    (clock : Nat → Instant) :
    coordinator.processDeadline accountId groupId runId now hedgeLegId clock =
      (coordinator.loadGroupState accountId groupId >>= fun before =>
        coordinator.expire accountId groupId runId before
          (onLegDeadline before (now.getD (clock 0))).1
          (onLegDeadline before (now.getD (clock 0))).2 hedgeLegId now clock) := by
  unfold processDeadline
  rw [if_neg (by simp [enabled])]

/-- `process_deadline` answers `NOOP` for a group that its deadline would finish. -/
theorem processDeadline_of_finishes (enabled : coordinator.config.enabled = true)
    {accountId : String} {groupId : UUID} {reads : List CoordinatorEvent}
    {before : OrderGroupState}
    (loaded : Program.Execution Possible (coordinator.loadGroupState accountId groupId) reads
      (.ok before)) (runId : String) (now : Option Instant) (hedgeLegId : UUID)
    (clock : Nat → Instant) (finishes : FinishesAtDeadline before (now.getD (clock 0))) :
    Program.Execution Possible
      (coordinator.processDeadline accountId groupId runId now hedgeLegId clock) (reads ++ [])
      (.ok ⟨.noop, some before, [], "group has no expired working legs"⟩) := by
  rw [coordinator.processDeadline_enabled enabled]
  refine loaded.bind ?_
  rw [coordinator.expire_of_finishes finishes]
  exact .done _

end PairExecutionCoordinator

/-- For every loaded group, the outcome of a deadline that moves it is committed and
reported, or lost to a conflict, if and only if the deadline does not finish it. -/
theorem deadline_persisted_iff (coordinator : PairExecutionCoordinator)
    (enabled : coordinator.config.enabled = true) {Possible : CoordinatorEvent → Prop}
    {accountId : String} {groupId : UUID} {reads : List CoordinatorEvent}
    {before : OrderGroupState}
    (loaded : Program.Execution Possible (coordinator.loadGroupState accountId groupId) reads
      (.ok before)) (runId : String) (now : Option Instant) (hedgeLegId : UUID)
    (clock : Nat → Instant) :
    (MovesAtDeadline before (now.getD (clock 0)) → ∀ events result, Program.Execution Possible
        (coordinator.processDeadline accountId groupId runId now hedgeLegId clock)
        (reads ++ events) (.ok result) →
      PersistsDeadline coordinator before (now.getD (clock 0)) events result) ↔
      ¬ FinishesAtDeadline before (now.getD (clock 0)) := by
  constructor
  · intro persists finishes
    obtain ⟨_, _, _, committed, -⟩ := persists (onLegDeadline_finish_iff.mpr finishes).2 _ _
      (coordinator.processDeadline_of_finishes enabled loaded runId now hedgeLegId clock finishes)
    cases committed
  · intro unfinished moves events result executes
    rw [coordinator.processDeadline_enabled enabled] at executes
    refine coordinator.expire_persists enabled (fun idle => ?_) (loaded.resume executes)
    rcases onLegDeadline_idle_iff.mp idle with early | finishes
    · exact not_movesAtDeadline_of_early early moves
    · exact unfinished finishes

/-! ### A plan that was persisted and never submitted -/

instance (state : OrderGroupState) (timestamp : Instant) :
    Decidable (FinishesAtDeadline state timestamp) :=
  inferInstanceAs (Decidable (¬ _ ∧ _ ∧ _))

/-- The database of a process that stopped between `persist_plan_atomic` and the
submission of the batch. -/
def plannedDatabase : Database :=
  ((researchCoordinator.persistPlan researchPlan).run serveResearch Database.empty).2.2

/-- The group loads as `PLANNED`, and its deadline would finish it. -/
theorem plannedDatabase_loads : ∃ reads before,
    Program.Execution (PossibleEvent researchMarkets)
        (researchCoordinator.loadGroupState "account" 1) reads (.ok before) ∧
      before.group.status = .planned ∧ FinishesAtDeadline before 3000000 := by
  let loaded := (researchCoordinator.loadGroupState "account" 1).run serveResearch plannedDatabase
  have executes : Program.Execution (PossibleEvent researchMarkets)
      (researchCoordinator.loadGroupState "account" 1) loaded.1 loaded.2.1 :=
    Program.run_execution (fun db _ => ⟨db, _, serveResearch_served db _⟩) _ _
  obtain ⟨before, returned, planned, finishes⟩ := Checked.exists_of_okAnd (show Checked.okAnd
    loaded.2.1 (fun before => before.group.status = .planned ∧
      FinishesAtDeadline before 3000000) = true by decide +kernel)
  exact ⟨loaded.1, before, returned ▸ executes, planned, finishes⟩

/-- The deadline of the persisted plan moves it to `CANCELLED`, and `process_deadline`
answers `NOOP`: it stays `PLANNED`, also at every later deadline. -/
theorem expired_plan_is_left_behind :
    ¬ ∀ (markets : List MarketRow) (coordinator : PairExecutionCoordinator),
      coordinator.config.enabled = true →
      ∀ (accountId : String) (groupId : UUID) (reads : List CoordinatorEvent)
        (before : OrderGroupState),
      Program.Execution (PossibleEvent markets) (coordinator.loadGroupState accountId groupId) reads
        (.ok before) →
      ∃ timestamp, ∀ (now : Instant), timestamp ≤ now → MovesAtDeadline before now →
        ∀ runId hedgeLegId clock events result,
        Program.Execution (PossibleEvent markets)
          (coordinator.processDeadline accountId groupId runId (some now) hedgeLegId clock)
          (reads ++ events) (.ok result) →
        PersistsDeadline coordinator before now events result := by
  intro persists
  obtain ⟨reads, before, loaded, -, finishes⟩ := plannedDatabase_loads
  obtain ⟨timestamp, eventually⟩ := persists researchMarkets researchCoordinator rfl "account" 1
    reads before loaded
  have finishes := finishes.later (le_max_left 3000000 timestamp)
  obtain ⟨_, _, _, committed, -⟩ := eventually _ (le_max_right 3000000 timestamp)
    (onLegDeadline_finish_iff.mpr finishes).2 "run" 20 (fun _ => 0) _ _
    (researchCoordinator.processDeadline_of_finishes rfl loaded "run" _ 20 _ finishes)
  cases committed

theorem plannedDatabase_outcome : ∃ reads before,
    (MovesAtDeadline before 3000000 → ∀ events result,
        Program.Execution (PossibleEvent researchMarkets)
          (researchCoordinator.processDeadline "account" 1 "run" (some 3000000) 20 fun _ => 3000000)
          (reads ++ events) (.ok result) →
        PersistsDeadline researchCoordinator before 3000000 events result) ↔
      ¬ FinishesAtDeadline before 3000000 := by
  obtain ⟨reads, before, loaded, -⟩ := plannedDatabase_loads
  exact ⟨reads, before, deadline_persisted_iff researchCoordinator rfl loaded "run" (some 3000000) 20 _⟩

end Polybot
