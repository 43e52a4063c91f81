import Polybot.Interaction.Contract
import Polybot.Execution.Harmless

/-!
No orphan exchange order.

What the broker reported and what was done about it are read off the log of one
operation. The proof follows the operation: nothing is reported before the
submission, and every way on from it commits or cancels the reported ids, except
that a batch of the wrong length has only its accepted ids cancelled.
-/

namespace Polybot

open Checked Interaction Contract

/-- The execution may have left the order on the exchange. -/
def ExecutionResult.Reports (execution : ExecutionResult) (orderId : String) : Prop :=
  execution.status ∈ [ExecutionStatus.accepted, .paperFilled, .error] ∧
    execution.orderId = some orderId ∧ orderId ≠ ""

theorem ExecutionResult.accepted_of_reports {execution : ExecutionResult} {orderId : String}
    (reports : execution.Reports orderId) (certain : execution.status ≠ .error) :
    execution.accepted = true := by
  obtain ⟨status, named, nonempty⟩ := reports
  have known : truthy execution.orderId = true := truthy_iff.mpr ⟨orderId, named, nonempty⟩
  simp only [List.mem_cons, List.not_mem_nil, or_false] at status
  have accepted : execution.status ∈ acceptedStatuses := by
    rcases status with here | here | here
    · simp [here, acceptedStatuses]
    · simp [here, acceptedStatuses]
    · exact absurd here certain
  simp [ExecutionResult.accepted, known, accepted]

/-- The executions that the broker returned. -/
def executionsOf (event : CoordinatorEvent) : List ExecutionResult :=
  match event with
  | ⟨.submitBatch _, .ok executions⟩ => executions
  | ⟨.submit _ _, .ok execution⟩ => [execution]
  | _ => []

/-- The broker reported the order. -/
def Reported (log : List CoordinatorEvent) (orderId : String) : Prop :=
  ∃ event ∈ log, ∃ execution ∈ executionsOf event, execution.Reports orderId

/-- A leg has the order id. -/
def NamesOrder (legs : List OrderLeg) (orderId : String) : Prop :=
  ∃ leg ∈ legs, leg.clobOrderId = some orderId

/-- The event committed a state with the order. -/
def CommitsOrder (event : CoordinatorEvent) (orderId : String) : Prop :=
  match event with
  | ⟨.persistPairOrderPlan _ _ _ legs, .ok committed⟩ => committed = true ∧ NamesOrder legs orderId
  | ⟨.commitPairGroupTransition _ _ _ legs _, .ok committed⟩ =>
      committed = true ∧ NamesOrder legs orderId
  | _ => False

/-- The event asked to cancel the order. -/
def CancelsOrder (event : CoordinatorEvent) (orderId : String) : Prop :=
  match event.request with
  | .cancelOrders orderIds _ => orderId ∈ orderIds
  | .cancelOrder cancelled _ => cancelled = orderId
  | .cancelAll _ => True
  | _ => False

/-- The order was committed or cancelled. -/
def Managed (log : List CoordinatorEvent) (orderId : String) : Prop :=
  ∃ event ∈ log, CommitsOrder event orderId ∨ CancelsOrder event orderId

/-- Every reported order is managed. -/
def NoOrphan (log : List CoordinatorEvent) : Prop :=
  ∀ orderId, Reported log orderId → Managed log orderId

/-- The answer of a batch. -/
def batchAnswer (batch : List (TradeIntent × OrderBookSnapshot))
    (executions : List ExecutionResult) : CoordinatorEvent :=
  ⟨.submitBatch batch, .ok executions⟩

/-- In a batch of the wrong length every ambiguous order is also an accepted one,
or the plan had it already. -/
def BatchCovered (plan : OrderPlan) (log : List CoordinatorEvent) : Prop :=
  ∀ batch executions, batchAnswer batch executions ∈ log →
    executions.length ≠ plan.legs.length →
    ∀ execution ∈ executions, execution.status = .error →
      ∀ orderId, execution.orderId = some orderId → orderId ≠ "" →
        (∃ other ∈ executions, other.accepted = true ∧ other.orderId = some orderId) ∨
          NamesOrder plan.legs orderId

/-! ### Logs -/

section Logs

variable {log more : List CoordinatorEvent} {event : CoordinatorEvent} {orderId : String}

/-- Nothing was reported. -/
def Unreported (log : List CoordinatorEvent) : Prop :=
  ∀ event ∈ log, executionsOf event = []

theorem Unreported.append (before : Unreported log) (after : Unreported more) :
    Unreported (log ++ more) := by
  intro event member
  rcases List.mem_append.mp member with old | new
  · exact before event old
  · exact after event new

theorem Unreported.noOrphan (unreported : Unreported log) : NoOrphan log := by
  rintro orderId ⟨event, member, execution, returned, -⟩
  rw [unreported event member] at returned
  cases returned

/-- Only the submission reports. -/
theorem reported_iff (before : Unreported log) (after : Unreported more) :
    Reported (log ++ event :: more) orderId ↔
      ∃ execution ∈ executionsOf event, execution.Reports orderId := by
  constructor
  · rintro ⟨other, member, execution, returned, reports⟩
    rcases List.mem_append.mp member with old | new
    · rw [before other old] at returned
      cases returned
    · rcases List.mem_cons.mp new with rfl | later
      · exact ⟨execution, returned, reports⟩
      · rw [after other later] at returned
        cases returned
  · rintro ⟨execution, returned, reports⟩
    exact ⟨event, by simp, execution, returned, reports⟩

theorem Unreported.covered {plan : OrderPlan} (unreported : Unreported log) :
    BatchCovered plan log := by
  intro batch executions member _ execution returned
  rw [show executions = [] from unreported _ member] at returned
  cases returned

/-- Only the batch has to be covered. -/
theorem batchCovered_iff {plan : OrderPlan} {batch : List (TradeIntent × OrderBookSnapshot)}
    {executions : List ExecutionResult} (before : Unreported log) (after : Unreported more) :
    BatchCovered plan (log ++ batchAnswer batch executions :: more) ↔
      (executions.length ≠ plan.legs.length →
        ∀ execution ∈ executions, execution.status = .error →
          ∀ orderId, execution.orderId = some orderId → orderId ≠ "" →
            (∃ other ∈ executions, other.accepted = true ∧ other.orderId = some orderId) ∨
              NamesOrder plan.legs orderId) := by
  constructor
  · exact fun covered => covered batch executions (by simp)
  · intro covered batch' executions' member
    rcases List.mem_append.mp member with old | new
    · intro _ execution returned
      rw [show executions' = [] from before _ old] at returned
      cases returned
    · rcases List.mem_cons.mp new with same | later
      · cases same
        exact covered
      · intro _ execution returned
        rw [show executions' = [] from after _ later] at returned
        cases returned

/-- The request submits no order. -/
def CoordinatorRequest.Reportless : CoordinatorRequest → Prop
  | submitBatch _ => False
  | submit _ _ => False
  | _ => True

theorem CoordinatorRequest.Reportless.unreported (reportless : event.request.Reportless) :
    executionsOf event = [] := by
  obtain ⟨request, answer⟩ := event
  cases request <;> first | rfl | exact reportless.elim

theorem Unreported.single (reportless : event.request.Reportless) : Unreported [event] := by
  intro other member
  rw [List.mem_singleton.mp member]
  exact reportless.unreported

theorem Unreported.around (before : Unreported log) (reportless : event.request.Reportless)
    (after : Unreported more) : Unreported (log ++ event :: more) :=
  before.append ((Unreported.single reportless).append after)

theorem append_around {α : Type} (log before : List α) (event : α) (after : List α) :
    log ++ before ++ [event] ++ after = log ++ (before ++ event :: after) := by
  simp

theorem CoordinatorRequest.Harmless.reportless {request : CoordinatorRequest}
    (harmless : request.Harmless) : request.Reportless := by
  cases request <;> trivial

end Logs

/-! ### What a program ends with -/

/-- One operation by itself, with any possible answers. -/
def logContract (markets : List MarketRow) :
    Contract CoordinatorRequest CoordinatorRequest.Response PyError Unit where
  Serve _ event _ := PossibleEvent markets event
  Guarantee _ _ _ := True
  Allow _ _ _ := True

/-- What holds of the value that the program returns and of the log by then. -/
def Ends {α : Type} (markets : List MarketRow) (program : CoordinatorProgram α)
    (log : List CoordinatorEvent) (Post : α → List CoordinatorEvent → Prop) : Prop :=
  (logContract markets).Wp (fun _ _ _ => True) program log () fun outcome log _ =>
    ∀ value, outcome = .ok value → Post value log

namespace Ends

variable {markets : List MarketRow} {α β : Type} {program : CoordinatorProgram α}
  {next : α → CoordinatorProgram β} {log : List CoordinatorEvent}

theorem mono {Post Post' : α → List CoordinatorEvent → Prop} (ends : Ends markets program log Post)
    (weaken : ∀ value log, Post value log → Post' value log) : Ends markets program log Post' :=
  Wp.mono ends fun _ _ _ post value done => weaken value _ (post value done)

theorem bind {M : α → List CoordinatorEvent → Prop} {Post : β → List CoordinatorEvent → Prop}
    (first : Ends markets program log M)
    (rest : ∀ value log, M value log → Ends markets (next value) log Post) :
    Ends markets (program >>= next) log Post :=
  Wp.bind first (fun _ _ _ _ _ raised => by cases raised)
    fun value log _ mid => rest value log (mid value rfl)

theorem done {value : α} {Post : α → List CoordinatorEvent → Prop} (post : Post value log) :
    Ends markets (.done value) log Post := by
  intro other same
  cases same
  exact post

theorem lift {computed : Except PyError α} {Post : α → List CoordinatorEvent → Prop}
    (post : ∀ value, computed = .ok value → Post value log) :
    Ends markets (Program.lift computed) log Post :=
  Wp.lift post

theorem ask {request : CoordinatorRequest} {Post : request.Response → List CoordinatorEvent → Prop}
    (post : ∀ response, PossibleEvent markets ⟨request, .ok response⟩ →
      Post response (log ++ [⟨request, .ok response⟩])) : Ends markets (await request) log Post := by
  refine Wp.ask fun _ _ answer _ possible _ => ⟨trivial, fun response same => ?_⟩
  cases same
  exact post response possible

theorem attempt {request : CoordinatorRequest}
    {Post : Except PyError request.Response → List CoordinatorEvent → Prop}
    (post : ∀ answer, PossibleEvent markets ⟨request, answer⟩ →
      Post answer (log ++ [⟨request, answer⟩])) : Ends markets (await request).attempt log Post := by
  refine Wp.attempt (Wp.ask fun _ _ answer _ possible _ => ⟨trivial, fun caught same => ?_⟩)
  cases same
  exact post answer possible

/-- A program that submits no order reports nothing. -/
theorem reportless {F : α → Prop}
    (uses : program.Uses (PossibleEvent markets) CoordinatorRequest.Reportless F) :
    Ends markets program log fun value log' =>
      F value ∧ ∃ more, log' = log ++ more ∧ Unreported more := by
  refine (Wp.of_uses (K := fun log' _ => ∃ more, log' = log ++ more ∧ Unreported more)
    (fun _ _ _ possible => possible) (fun _ _ _ _ _ => trivial) (fun _ _ _ _ _ kept => kept) ?_
    uses ⟨[], by simp, by simp [Unreported]⟩).mono ?_
  · rintro log' _ event _ reportless _ ⟨more, rfl, unreported⟩
    exact ⟨more ++ [event], List.append_assoc _ _ _, unreported.append (.single reportless)⟩
  · exact fun _ _ _ post value done => ⟨post.2 value done, post.1⟩

/-- A complete execution ends as the program does. -/
theorem execution {Post : α → List CoordinatorEvent → Prop} {value : α}
    (ends : Ends markets program [] Post)
    (executes : Program.Execution (PossibleEvent markets) program log (.ok value)) :
    Post value log := by
  have ended := Wp.execution ends (fun _ _ possible => ⟨possible, trivial⟩) executes
  exact ended value rfl

end Ends

/-! ### Programs that submit no order -/

namespace PairExecutionCoordinator

variable (coordinator : PairExecutionCoordinator) {markets : List MarketRow}

/-- The program submits no order. -/
abbrev ReportlessProgram {α : Type} (markets : List MarketRow) (program : CoordinatorProgram α)
    (F : α → Prop) : Prop :=
  program.Uses (PossibleEvent markets) CoordinatorRequest.Reportless F

theorem reportless_of_harmless {α : Type} {program : CoordinatorProgram α} {F : α → Prop}
    (harmless : HarmlessProgram program F) : ReportlessProgram markets program F :=
  harmless.weaken (fun _ _ => trivial) fun _ here => here.reportless

theorem commitTransition_reportless (expected : Nat) (state : OrderGroupState) (reason : String) :
    ReportlessProgram markets (coordinator.commitTransition expected state reason) Anything := by
  have commit : ReportlessProgram markets (await (.commitPairGroupTransition coordinator.accountId
      expected (transitionPayload expected state) state.legs reason)) Anything :=
    .ask trivial fun _ _ => trivial
  exact .bind (reportless_of_harmless (lift_harmless _)) fun _ _ => .bind commit fun _ _ => trivial

theorem freezeState_reportless (state : OrderGroupState) (reason : String) (timestamp : Instant) :
    ReportlessProgram markets (coordinator.freezeState state reason timestamp) Anything :=
  .bind (coordinator.commitTransition_reportless _ _ _) fun _ _ => trivial

theorem loadAfterCancelReconciliation_reportless (accountId : String) (groupId : UUID)
    (orderIds : List String) :
    ReportlessProgram markets
      (coordinator.loadAfterCancelReconciliation accountId groupId orderIds) Anything :=
  reportless_of_harmless (.bind (lift_harmless _) fun _ _ => .bind (lift_harmless _) fun _ _ =>
    .bind (await_harmless trivial) fun _ _ =>
    .bind (coordinator.loadGroupState_harmless accountId groupId) fun _ _ =>
    .bind (lift_harmless _) fun _ _ => trivial)

theorem failHedge_reportless (afterCancel : OrderGroupState) (leg : OrderLeg) (exc : PyError)
    (timestamp : Instant) :
    ReportlessProgram markets (coordinator.failHedge afterCancel leg exc timestamp) Anything := by
  refine .bind (reportless_of_harmless (lift_harmless _)) fun recorded _ =>
    .bind (coordinator.commitTransition_reportless _ _ _) fun committed _ => ?_
  cases committed <;> trivial

/-! ### `process_deadline` -/

variable {log : List CoordinatorEvent}

/-- The committed states and the answers of the store. -/
theorem commitTransition_ends (expected : Nat) (state : OrderGroupState) (reason : String) :
    Ends markets (coordinator.commitTransition expected state reason) log fun committed log' =>
      log' = log ++ [⟨.commitPairGroupTransition coordinator.accountId expected
        (transitionPayload expected state) state.legs reason, .ok committed.isSome⟩] := by
  refine .bind (M := fun _ log' => log' = log) (.lift fun _ _ => rfl) ?_
  rintro _ _ rfl
  refine .bind (M := fun committed log' => log' = _) (.ask fun _ _ => rfl) ?_
  rintro committed _ rfl
  refine .done ?_
  cases committed <;> rfl

theorem cancelHedge_ends (orderId : Option String) (reason : String) :
    Ends markets (cancelHedge orderId reason) log fun _ log' =>
      ∃ more, log' = log ++ more ∧ Unreported more ∧
        ∀ id, orderId = some id → id ≠ "" → Managed more id := by
  unfold cancelHedge
  split
  · exact .done ⟨[], by simp, by simp [Unreported], fun _ none => by cases none⟩
  · rename_i id
    split
    · rename_i empty
      exact .done ⟨[], by simp, by simp [Unreported], fun _ same nonempty => by
        cases same
        exact absurd empty nonempty⟩
    · refine .bind (M := fun answer log' => log' = log ++ [⟨.cancelOrder id reason, answer⟩])
        (.attempt fun _ _ => rfl) ?_
      rintro answer _ rfl
      refine .done ⟨[_], rfl, .single trivial, ?_⟩
      rintro other same -
      cases same
      exact ⟨_, List.mem_singleton.mpr rfl, .inr rfl⟩

/-- The recorded hedge leg has the accepted id. -/
theorem recordedHedge_named {state : OrderGroupState} {legId : UUID} {orderId : String}
    {timestamp : Instant} {result : OrderGroupState × OrderManagerAction} (nonempty : orderId ≠ "")
    (recorded : (recordHedgeSubmission state legId (some orderId) timestamp).mapError
      ManagerError.raised = .ok result) :
    ∃ leg ∈ result.1.legs, leg.clobOrderId = some orderId := by
  obtain ⟨⟨leg, member, named⟩, -, rfl⟩ := recordHedgeSubmission_ok_iff.mp (mapError_ok_iff.mp recorded)
  have known : truthy (some orderId) = true := truthy_iff.mpr ⟨orderId, rfl, nonempty⟩
  dsimp only
  rw [if_pos known]
  refine ⟨_, List.mem_map.mpr ⟨leg, member, rfl⟩, ?_⟩
  unfold hedgeSubmittedLeg
  rw [if_neg (not_not.mpr named), if_pos known]
  rfl

/-- A reported hedge is cancelled as ambiguous, or committed, or cancelled after
the conflict. -/
theorem recordHedge_ends (accountId : String) (groupId : UUID) (afterCancel : OrderGroupState)
    (leg : OrderLeg) (execution : ExecutionResult) (now : Option Instant) (clock : Nat → Instant) :
    Ends markets (coordinator.recordHedge accountId groupId afterCancel leg execution now clock) log
      fun _ log' => ∃ more, log' = log ++ more ∧ Unreported more ∧
        ∀ orderId, execution.Reports orderId → Managed more orderId := by
  unfold recordHedge
  refine .bind (cancelHedge_ends _ _) ?_
  rintro _ _ ⟨cancels, rfl, silent, ambiguous⟩
  refine .bind (M := fun recorded log' => log' = log ++ cancels ∧
      (recordHedgeSubmission afterCancel leg.id (if execution.accepted then execution.orderId else
        none) (now.getD (clock 3))).mapError ManagerError.raised = .ok recorded)
    (.lift fun _ done => ⟨rfl, done⟩) ?_
  rintro recorded _ ⟨rfl, done⟩
  refine .bind (coordinator.commitTransition_ends _ _ _) ?_
  rintro committed _ rfl
  have settled : ∀ orderId, execution.Reports orderId → Managed cancels orderId ∨
      execution.accepted = true ∧ execution.orderId = some orderId ∧ orderId ≠ "" := by
    rintro orderId ⟨status, named, nonempty⟩
    have known : truthy execution.orderId = true := truthy_iff.mpr ⟨orderId, named, nonempty⟩
    by_cases error : execution.status = .error
    · refine .inl (ambiguous orderId ?_ nonempty)
      rw [if_pos (by simp [ExecutionResult.ambiguous, known, error]), named]
    · exact .inr ⟨ExecutionResult.accepted_of_reports ⟨status, named, nonempty⟩ error, named, nonempty⟩
  cases committed with
  | none =>
      refine .bind (cancelHedge_ends _ _) ?_
      rintro _ _ ⟨more, rfl, silent', cancelled⟩
      refine .done ⟨cancels ++ (_ :: more), append_around _ _ _ _,
        silent.around trivial silent', ?_⟩
      intro orderId reports
      rcases settled orderId reports with ⟨event, member, done⟩ | ⟨accepted, named, nonempty⟩
      · exact ⟨event, by simp [member], done⟩
      · obtain ⟨event, member, done⟩ := cancelled orderId (by rw [if_pos accepted, named]) nonempty
        exact ⟨event, by simp [member], done⟩
  | some hedged =>
      refine (Ends.reportless (reportless_of_harmless (coordinator.finishHedge_harmless accountId
        groupId leg execution hedged recorded.2 (clock 4)))).mono ?_
      rintro _ _ ⟨-, more, rfl, silent'⟩
      refine ⟨cancels ++ (_ :: more), append_around _ _ _ _, silent.around trivial silent', ?_⟩
      intro orderId reports
      rcases settled orderId reports with ⟨event, member, done⟩ | ⟨accepted, named, nonempty⟩
      · exact ⟨event, by simp [member], done⟩
      · rw [if_pos accepted, named] at done
        refine ⟨_, List.mem_append_right _ List.mem_cons_self, ?_⟩
        exact .inl ⟨rfl, recordedHedge_named nonempty done⟩

theorem submitHedge_ends (accountId : String) (groupId : UUID) (runId : String)
    (afterCancel : OrderGroupState) (leg : OrderLeg) (package : HedgePackage)
    (now : Option Instant) (clock : Nat → Instant) (silent : Unreported log) :
    Ends markets (coordinator.submitHedge accountId groupId runId afterCancel leg package now clock)
      log fun _ log' => NoOrphan log' := by
  have failed {exc : PyError} {timestamp : Instant} {log : List CoordinatorEvent}
      (silent : Unreported log) : Ends markets (coordinator.failHedge afterCancel leg exc timestamp)
        log fun _ log' => NoOrphan log' := by
    refine (Ends.reportless (coordinator.failHedge_reportless afterCancel leg exc timestamp)).mono ?_
    rintro _ _ ⟨-, more, rfl, silent'⟩
    exact (silent.append silent').noOrphan
  unfold submitHedge
  split
  · exact failed silent
  · rename_i intent book _
    refine .bind (M := fun answer log' => log' = log ++ [⟨.submit intent book, answer⟩])
      (.attempt fun _ _ => rfl) ?_
    rintro answered _ rfl
    cases answered with
    | error exc =>
        refine failed (silent.append fun event member => ?_)
        rw [List.mem_singleton.mp member]
        rfl
    | ok execution =>
        refine (coordinator.recordHedge_ends accountId groupId afterCancel leg execution now
          clock).mono ?_
        rintro _ _ ⟨more, rfl, silent', managed⟩ orderId reported
        rw [List.append_assoc, List.singleton_append, reported_iff silent silent'] at reported
        obtain ⟨other, returned, reports⟩ := reported
        have same : other = execution := List.mem_singleton.mp returned
        obtain ⟨event, member, done⟩ := managed orderId (same ▸ reports)
        exact ⟨event, by simp [member], done⟩

theorem hedgeReconciled_ends (accountId : String) (groupId : UUID) (runId : String)
    (orderIds : List String) (reconciled : OrderGroupState) (hedgeLegId : UUID)
    (now : Option Instant) (clock : Nat → Instant) (silent : Unreported log) :
    Ends markets (coordinator.hedgeReconciled accountId groupId runId orderIds reconciled hedgeLegId
      now clock) log fun _ log' => NoOrphan log' := by
  unfold hedgeReconciled
  have quote : ReportlessProgram markets (await (.quote reconciled)).attempt Anything :=
    reportless_of_harmless (attempt_harmless trivial)
  refine .bind (Ends.reportless quote) ?_
  rintro quoted _ ⟨-, more, rfl, silent'⟩
  refine .bind (Ends.reportless (coordinator.commitTransition_reportless _ _ _)) ?_
  rintro committed _ ⟨-, more', rfl, silent''⟩
  have quiet := (silent.append silent').append silent''
  cases committed with
  | none => exact .done quiet.noOrphan
  | some afterCancel =>
      dsimp only
      split
      · exact .done quiet.noOrphan
      · split
        · exact coordinator.submitHedge_ends accountId groupId runId afterCancel _ _ now clock quiet
        · exact fun _ raised => by cases raised

theorem cancelExpired_ends (accountId : String) (groupId : UUID) (runId : String)
    (cancelling : OrderGroupState) (orderIds : List String) (hedgeLegId : UUID)
    (now : Option Instant) (clock : Nat → Instant) (silent : Unreported log) :
    Ends markets (coordinator.cancelExpired accountId groupId runId cancelling orderIds hedgeLegId now
      clock) log fun _ log' => NoOrphan log' := by
  have frozen {reason : String} {log : List CoordinatorEvent} (silent : Unreported log) :
      Ends markets (coordinator.freezeState cancelling reason (clock 1)) log
        fun _ log' => NoOrphan log' := by
    refine (Ends.reportless (coordinator.freezeState_reportless cancelling reason (clock 1))).mono ?_
    rintro _ _ ⟨-, more, rfl, silent'⟩
    exact (silent.append silent').noOrphan
  unfold cancelExpired
  have cancels : ReportlessProgram markets
      (await (.cancelOrders orderIds "pair leg deadline")).attempt Anything :=
    .attempt (.ask trivial fun _ _ => trivial) fun _ => trivial
  refine .bind (Ends.reportless cancels) ?_
  rintro verified _ ⟨-, more, rfl, silent'⟩
  have quiet := silent.append silent'
  split
  · have reload : ReportlessProgram markets
        (coordinator.loadAfterCancelReconciliation accountId groupId orderIds).attempt Anything :=
      .attempt ((coordinator.loadAfterCancelReconciliation_reportless accountId groupId orderIds).mono
        fun _ _ => trivial) fun _ => trivial
    refine .bind (Ends.reportless reload) ?_
    rintro loaded _ ⟨-, more', rfl, silent''⟩
    cases loaded with
    | error exc => exact frozen (quiet.append silent'')
    | ok reconciled =>
        exact coordinator.hedgeReconciled_ends accountId groupId runId orderIds reconciled hedgeLegId
          now clock (quiet.append silent'')
  · exact frozen quiet

theorem processDeadline_ends (accountId : String) (groupId : UUID) (runId : String)
    (now : Option Instant) (hedgeLegId : UUID) (clock : Nat → Instant) :
    Ends markets (coordinator.processDeadline accountId groupId runId now hedgeLegId clock) []
      fun _ log => NoOrphan log := by
  have none : Unreported [] := by simp [Unreported]
  unfold processDeadline
  split
  · exact .done none.noOrphan
  refine .bind (Ends.reportless
    (reportless_of_harmless (coordinator.loadGroupState_harmless accountId groupId))) ?_
  rintro before _ ⟨-, more, rfl, silent⟩
  have quiet := none.append silent
  unfold expire
  dsimp only
  split
  · exact .done quiet.noOrphan
  · refine .bind (Ends.reportless (coordinator.commitTransition_reportless _ _ _)) ?_
    rintro committed _ ⟨-, more', rfl, silent'⟩
    cases committed with
    | none => exact .done (quiet.append silent').noOrphan
    | some cancelling =>
        exact coordinator.cancelExpired_ends accountId groupId runId cancelling _ hedgeLegId now clock
          (quiet.append silent')
  · refine .bind (Ends.reportless (coordinator.commitTransition_reportless _ _ _)) ?_
    rintro committed _ ⟨-, more', rfl, silent'⟩
    cases committed with
    | none => exact .done (quiet.append silent').noOrphan
    | some state => exact .done (quiet.append silent').noOrphan

/-! ### `submit_plan` -/

/-- A plan that was persisted manages the orders of its legs. -/
theorem persistPlan_ends (plan : OrderPlan) :
    Ends markets (coordinator.persistPlan plan) [] fun persisted log =>
      Unreported log ∧ (persisted = true → (plan.legs.map OrderLeg.id).Nodup ∧
        ∀ orderId, Managed log orderId ↔ NamesOrder plan.legs orderId) := by
  unfold persistPlan
  refine .bind (M := fun _ log => log = []) (.lift fun _ _ => rfl) ?_
  rintro walletId _ rfl
  refine .bind (M := fun marketId log => log = [⟨.resolveDbMarketId plan.group, .ok marketId⟩])
    (.ask fun _ _ => rfl) ?_
  rintro marketId _ rfl
  refine .ask fun persisted possible => ⟨?_, fun stored => ⟨?_, fun orderId => ⟨?_, ?_⟩⟩⟩
  · have resolved : Unreported [⟨.resolveDbMarketId plan.group, .ok marketId⟩] := .single trivial
    exact resolved.append (.single trivial)
  · obtain ⟨db, next, served⟩ := possible
    cases stored
    cases served.persist_ok with
    | stored _ distinct => exact distinct
  · rintro ⟨event, member, done⟩
    rcases List.mem_pair.mp member with rfl | rfl
    · exact (done.elim id id).elim
    · exact done.elim And.right False.elim
  · exact fun named => ⟨_, List.mem_append_right _ (List.mem_singleton.mpr rfl), .inl ⟨stored, named⟩⟩

/-- The ids are cancelled, and nothing else is. -/
theorem cancelAcceptedBestEffort_ends (orderIds : List String) :
    Ends markets (cancelAcceptedBestEffort orderIds) log fun _ log' =>
      ∃ more, log' = log ++ more ∧ Unreported more ∧
        (∀ orderId ∈ orderIds, orderId ≠ "" → ∃ event ∈ more, CancelsOrder event orderId) ∧
        ∀ orderId, Managed more orderId → orderId ∈ orderIds := by
  unfold cancelAcceptedBestEffort
  split
  · rename_i none
    refine .done ⟨[], by simp, by simp [Unreported], fun orderId member nonempty => ?_,
      by simp [Managed]⟩
    have kept : orderId ∈ orderIds.filter fun orderId => orderId ≠ "" :=
      List.mem_filter.mpr ⟨member, decide_eq_true nonempty⟩
    rw [none] at kept
    cases kept
  · refine .bind (M := fun answer log' => log' = log ++ [⟨.cancelOrders
        (orderIds.filter fun orderId => orderId ≠ "") "pair coordinator state conflict", answer⟩])
      (.attempt fun _ _ => rfl) ?_
    rintro answer _ rfl
    refine .done ⟨[_], rfl, ?_, fun orderId member nonempty => ?_, ?_⟩
    · exact .single trivial
    · exact ⟨_, List.mem_singleton.mpr rfl, List.mem_filter.mpr ⟨member, decide_eq_true nonempty⟩⟩
    · rintro orderId ⟨event, member, done⟩
      rw [List.mem_singleton.mp member] at done
      exact (List.mem_filter.mp (done.resolve_left id)).1

/-- A freeze commits the orders that the legs have. -/
theorem freezeState_ends (state : OrderGroupState) (reason : String) (timestamp : Instant) :
    Ends markets (coordinator.freezeState state reason timestamp) log fun _ log' =>
      ∃ commit, log' = log ++ [commit] ∧ Unreported [commit] ∧
        ∀ orderId, CommitsOrder commit orderId ∨ CancelsOrder commit orderId →
          NamesOrder state.legs orderId := by
  refine .bind (coordinator.commitTransition_ends _ _ _) ?_
  rintro committed _ rfl
  refine .done ⟨_, rfl, .single trivial, ?_⟩
  rintro orderId (⟨-, named⟩ | cancels)
  · exact named
  · exact cancels.elim

/-- In a batch of the wrong length the accepted orders are cancelled, and the plan
is frozen with the orders it had. -/
theorem freezeAfterAmbiguousBatch_ends (plan : OrderPlan)
    (batch : List (TradeIntent × OrderBookSnapshot)) (executions : List ExecutionResult)
    (reason : String) (timestamp : Instant) (unreported : Unreported log)
    (persisted : ∀ orderId, Managed log orderId ↔ NamesOrder plan.legs orderId)
    (malformed : executions.length ≠ plan.legs.length) :
    Ends markets (coordinator.freezeAfterAmbiguousBatch (fromPlan plan) executions reason timestamp)
      (log ++ [batchAnswer batch executions]) fun _ log' =>
        NoOrphan log' ↔ BatchCovered plan log' := by
  unfold freezeAfterAmbiguousBatch
  refine .bind (cancelAcceptedBestEffort_ends _) ?_
  rintro _ _ ⟨cancels, rfl, silent, cancelled, only⟩
  refine .bind (coordinator.freezeState_ends _ _ _) ?_
  rintro frozen _ ⟨commit, rfl, silentCommit, commits⟩
  refine .done ?_
  have after : Unreported (cancels ++ [commit]) := silent.append silentCommit
  have whole : log ++ [batchAnswer batch executions] ++ cancels ++ [commit] =
      log ++ batchAnswer batch executions :: (cancels ++ [commit]) := by simp
  have acceptedIds : ∀ orderId, orderId ∈ (executions.filter ExecutionResult.accepted).filterMap
      ExecutionResult.orderId ↔
        ∃ other ∈ executions, other.accepted = true ∧ other.orderId = some orderId := by
    intro orderId
    simp only [List.mem_filterMap, List.mem_filter, and_assoc]
  have parts : ∀ event, event ∈ log ++ batchAnswer batch executions :: (cancels ++ [commit]) ↔
      event ∈ log ∨ event = batchAnswer batch executions ∨ event ∈ cancels ∨ event = commit := by
    simp
  rw [whole, batchCovered_iff unreported after]
  constructor
  · intro managed _ execution returned error orderId named nonempty
    have reports : execution.Reports orderId := ⟨by simp [error], named, nonempty⟩
    have answered : execution ∈ executionsOf (batchAnswer batch executions) := returned
    obtain ⟨event, member, done⟩ := managed orderId
      ((reported_iff unreported after).mpr ⟨execution, answered, reports⟩)
    rcases (parts event).mp member with old | rfl | here | rfl
    · exact .inr ((persisted orderId).mp ⟨event, old, done⟩)
    · exact (done.elim id id).elim
    · exact .inl ((acceptedIds orderId).mp (only orderId ⟨event, here, done⟩))
    · exact .inr (commits orderId done)
  · intro covered orderId reported
    obtain ⟨execution, returned, status, named, nonempty⟩ :=
      (reported_iff unreported after).mp reported
    have byCancel : (∃ other ∈ executions, other.accepted = true ∧ other.orderId = some orderId) →
        Managed (log ++ batchAnswer batch executions :: (cancels ++ [commit])) orderId := by
      intro accepted
      obtain ⟨event, member, done⟩ := cancelled orderId ((acceptedIds orderId).mpr accepted) nonempty
      exact ⟨event, (parts event).mpr (by simp [member]), .inr done⟩
    by_cases error : execution.status = .error
    · rcases covered malformed execution returned error orderId named nonempty with accepted | planned
      · exact byCancel accepted
      · obtain ⟨event, member, done⟩ := (persisted orderId).mpr planned
        exact ⟨event, List.mem_append_left _ member, done⟩
    · refine byCancel ⟨execution, returned, ?_, named⟩
      exact ExecutionResult.accepted_of_reports ⟨status, named, nonempty⟩ error

/-- The accepted id of a leg, if the legs are distinct. -/
theorem acceptedOrderIds_get {results : List (OrderLeg × ExecutionResult)}
    (distinct : (results.map fun result => result.1.id).Nodup) {leg : OrderLeg}
    {execution : ExecutionResult} (member : (leg, execution) ∈ results)
    (accepted : execution.accepted = true) {orderId : String}
    (named : execution.orderId = some orderId) :
    (acceptedOrderIds results).get? leg.id = some orderId := by
  unfold acceptedOrderIds
  -- Later results are about other legs, so they keep the id.
  have keeps : ∀ (results : List (OrderLeg × ExecutionResult)) (ids : Dict UUID String),
      leg.id ∉ results.map (fun result => result.1.id) →
      (results.foldl (fun ids result => if result.2.accepted then
        ids.set result.1.id (result.2.orderId.getD "") else ids) ids).get? leg.id =
          ids.get? leg.id := by
    intro results
    induction results with
    | nil => exact fun _ _ => rfl
    | cons result results ih =>
        intro ids absent
        rw [List.map_cons, List.mem_cons, not_or] at absent
        rw [List.foldl_cons, ih _ absent.2]
        split
        · exact Dict.get?_set_ne _ absent.1 _
        · rfl
  generalize Dict.empty = ids
  induction results generalizing ids with
  | nil => cases member
  | cons result results ih =>
      rw [List.map_cons, List.nodup_cons] at distinct
      rw [List.foldl_cons]
      rcases List.mem_cons.mp member with rfl | later
      · rw [keeps results _ distinct.1, if_pos accepted, named]
        exact Dict.get?_set_self _ _ _
      · exact ih distinct.2 later _

/-- An accepted leg has its order id in the recorded batch. -/
theorem recordedBatch_named {plan : OrderPlan} {executions : List ExecutionResult}
    {clock : Nat → Instant} {leg : OrderLeg} {orderId : String} (member : leg ∈ plan.legs)
    (found : (acceptedOrderIds (plan.legs.zip executions)).get? leg.id = some orderId) :
    ∃ stored ∈ (recordedBatch plan executions clock).legs, stored.clobOrderId = some orderId := by
  have legs : (recordedBatch plan executions clock).legs = plan.legs.map (submittedLeg
      (acceptedOrderIds (plan.legs.zip executions)) (rejectedLegIds (plan.legs.zip executions))
      (clock 0)) := by
    unfold recordedBatch
    dsimp only
    split <;> rfl
  refine ⟨_, legs ▸ List.mem_map_of_mem member, ?_⟩
  unfold submittedLeg
  rw [found]
  rfl

/-- In a batch of the right length every ambiguous order is cancelled, and every
accepted one is committed, or cancelled after the conflict. -/
theorem recordBatch_ends (plan : OrderPlan) (executions : List ExecutionResult)
    (clock : Nat → Instant) (complete : executions.length = plan.legs.length)
    (distinct : (plan.legs.map OrderLeg.id).Nodup) :
    Ends markets (coordinator.recordBatch plan executions clock) log fun _ log' =>
      ∃ more, log' = log ++ more ∧ Unreported more ∧
        ∀ execution ∈ executions, ∀ orderId, execution.Reports orderId → Managed more orderId := by
  have settled : ∀ execution ∈ executions, ∀ orderId, execution.Reports orderId →
      orderId ∈ ordersToCancel plan executions ∨ ∃ leg ∈ plan.legs,
        (acceptedOrderIds (plan.legs.zip executions)).get? leg.id = some orderId := by
    intro execution returned orderId reports
    by_cases error : execution.status = .error
    · have known : truthy execution.orderId = true :=
        truthy_iff.mpr ⟨orderId, reports.2.1, reports.2.2⟩
      have ambiguous : orderId ∈ ambiguousIds executions := by
        unfold ambiguousIds
        rw [List.mem_filterMap]
        exact ⟨execution, List.mem_filter.mpr ⟨returned,
          by simp [ExecutionResult.ambiguous, known, error]⟩, reports.2.1⟩
      refine .inl ?_
      unfold ordersToCancel
      rw [if_pos (.inr (List.ne_nil_of_mem ambiguous))]
      exact List.mem_append_right _ ambiguous
    · have paired : execution ∈ (plan.legs.zip executions).map Prod.snd := by
        rw [List.map_snd_zip complete.le]
        exact returned
      obtain ⟨⟨leg, same⟩, zipped, rfl⟩ := List.mem_map.mp paired
      have ids : (plan.legs.zip executions).map (fun result => result.1.id) =
          plan.legs.map OrderLeg.id := by
        have legs : ((plan.legs.zip executions).map Prod.fst).map OrderLeg.id =
            plan.legs.map OrderLeg.id := by rw [List.map_fst_zip complete.ge]
        rwa [List.map_map] at legs
      exact .inr ⟨leg, (List.of_mem_zip zipped).1, acceptedOrderIds_get (ids ▸ distinct) zipped
        (ExecutionResult.accepted_of_reports reports error) reports.2.1⟩
  unfold recordBatch
  refine .bind (cancelAcceptedBestEffort_ends _) ?_
  rintro _ _ ⟨cancels, rfl, silent, cancelled, -⟩
  refine .bind (coordinator.commitTransition_ends _ _ _) ?_
  rintro committed _ rfl
  have early : ∀ orderId ∈ ordersToCancel plan executions, orderId ≠ "" → Managed cancels orderId := by
    intro orderId member nonempty
    obtain ⟨event, here, done⟩ := cancelled orderId member nonempty
    exact ⟨event, here, .inr done⟩
  cases committed with
  | none =>
      refine .bind (cancelAcceptedBestEffort_ends _) ?_
      rintro _ _ ⟨more, rfl, silent', cancelled', -⟩
      refine .done ⟨cancels ++ (_ :: more), append_around _ _ _ _,
        silent.around trivial silent', ?_⟩
      intro execution returned orderId reports
      rcases settled execution returned orderId reports with pending | ⟨leg, -, found⟩
      · obtain ⟨event, here, done⟩ := early orderId pending reports.2.2
        exact ⟨event, List.mem_append_left _ here, done⟩
      · have value : orderId ∈ (acceptedOrderIds (plan.legs.zip executions)).values :=
          List.mem_map.mpr ⟨_, Dict.get?_eq_some_iff.mp found, rfl⟩
        obtain ⟨event, here, done⟩ := cancelled' orderId value reports.2.2
        exact ⟨event, List.mem_append_right _ (List.mem_cons_of_mem _ here), .inr done⟩
  | some state =>
      refine (Ends.reportless (reportless_of_harmless
        (coordinator.finishSubmission_harmless plan executions clock))).mono ?_
      rintro _ _ ⟨-, more, rfl, silent'⟩
      refine ⟨cancels ++ (_ :: more), append_around _ _ _ _, silent.around trivial silent', ?_⟩
      intro execution returned orderId reports
      rcases settled execution returned orderId reports with pending | ⟨leg, member, found⟩
      · obtain ⟨event, here, done⟩ := early orderId pending reports.2.2
        exact ⟨event, List.mem_append_left _ here, done⟩
      · refine ⟨_, List.mem_append_right _ List.mem_cons_self, ?_⟩
        exact .inl ⟨rfl, recordedBatch_named member found⟩

theorem submitPlan_ends (plan : OrderPlan) (books : String → Option OrderBookSnapshot)
    (runId : String) (clock : Nat → Instant) :
    Ends markets (coordinator.submitPlan plan books runId clock) [] fun _ log =>
      NoOrphan log ↔ BatchCovered plan log := by
  have quiet {log : List CoordinatorEvent} (silent : Unreported log) :
      NoOrphan log ↔ BatchCovered plan log := iff_of_true silent.noOrphan silent.covered
  have frozen {reason : String} {log : List CoordinatorEvent} (silent : Unreported log) :
      Ends markets (coordinator.freezeState (fromPlan plan) reason (clock 0)) log
        fun _ log' => NoOrphan log' ↔ BatchCovered plan log' := by
    refine (Ends.reportless (coordinator.freezeState_reportless _ reason (clock 0))).mono ?_
    rintro _ _ ⟨-, more, rfl, silent'⟩
    exact quiet (silent.append silent')
  unfold submitPlan
  split
  · exact .done (quiet (by simp [Unreported]))
  refine .bind (coordinator.persistPlan_ends plan) ?_
  rintro persisted log ⟨unreported, stored⟩
  split
  · refine .bind (Ends.reportless (reportless_of_harmless
      (coordinator.loadGroupState_harmless plan.group.accountId plan.group.id))) ?_
    rintro state _ ⟨-, more, rfl, silent⟩
    exact .done (quiet (unreported.append silent))
  · rename_i fresh
    obtain ⟨distinct, named⟩ := stored (by rw [Bool.not_eq_false] at fresh; exact fresh)
    split
    · exact frozen unreported
    · rename_i batch _
      unfold submitBatch
      refine .bind (M := fun answer log' => log' = log ++ [⟨.submitBatch batch, answer⟩])
        (.attempt fun _ _ => rfl) ?_
      rintro answered _ rfl
      cases answered with
      | error exc =>
          have raised : Unreported [(⟨.submitBatch batch, .error exc⟩ : CoordinatorEvent)] := by
            intro event member
            rw [List.mem_singleton.mp member]
            rfl
          refine .bind (Ends.reportless (reportless_of_harmless (attempt_harmless trivial))) ?_
          rintro _ _ ⟨-, more, rfl, silent⟩
          exact frozen ((unreported.append raised).append silent)
      | ok executions =>
          dsimp only
          split
          · rename_i malformed
            exact coordinator.freezeAfterAmbiguousBatch_ends plan batch executions _ _ unreported
              named malformed
          · rename_i complete
            rw [not_not] at complete
            refine (coordinator.recordBatch_ends plan executions clock complete distinct).mono ?_
            rintro _ _ ⟨more, rfl, silent, managed⟩
            have whole : log ++ [batchAnswer batch executions] ++ more =
                log ++ batchAnswer batch executions :: more := by simp
            change NoOrphan (log ++ [batchAnswer batch executions] ++ more) ↔
              BatchCovered plan (log ++ [batchAnswer batch executions] ++ more)
            rw [whole]
            refine iff_of_true ?_ ((batchCovered_iff unreported silent).mpr
              fun differs => absurd complete differs)
            intro orderId reported
            obtain ⟨execution, returned, reports⟩ := (reported_iff unreported silent).mp reported
            obtain ⟨event, member, done⟩ := managed execution returned orderId reports
            exact ⟨event, List.mem_append_right _ (List.mem_cons_of_mem _ member), done⟩

end PairExecutionCoordinator

/-- When an operation returns, every order the broker reported to `process_deadline`
was committed or cancelled, and those it reported to `submit_plan` were if and only
if a batch of the wrong length left no ambiguous order uncovered. -/
theorem no_orphan_order_iff (markets : List MarketRow) (coordinator : PairExecutionCoordinator)
    {operation : CoordinatorOperation} {log : List CoordinatorEvent} {result : CoordinatorResult}
    (executes : Program.Execution (PossibleEvent markets) (operation.program coordinator) log
      (.ok result)) :
    NoOrphan log ↔ ∀ plan books runId clock,
      operation = .submitPlan plan books runId clock → BatchCovered plan log := by
  cases operation with
  | submitPlan plan books runId clock =>
      have ended := (coordinator.submitPlan_ends plan books runId clock).execution executes
      refine ended.trans ⟨fun covered _ _ _ _ same => ?_, fun covered => covered _ _ _ _ rfl⟩
      cases same
      exact covered
  | onFill fill =>
      have quiet : PairExecutionCoordinator.ReportlessProgram markets (coordinator.onFill fill) Anything :=
        PairExecutionCoordinator.reportless_of_harmless (coordinator.onFill_harmless fill)
      have ended := (Ends.reportless quiet).execution executes
      obtain ⟨-, more, rfl, silent⟩ := ended
      exact iff_of_true (by simpa using silent.noOrphan) fun _ _ _ _ same => by cases same
  | processDeadline accountId groupId runId now hedgeLegId clock =>
      have ended := (coordinator.processDeadline_ends accountId groupId runId now hedgeLegId
        clock).execution executes
      exact iff_of_true ended fun _ _ _ _ same => by cases same

/-- Serve a batch with the given results, and the rest as `serveResearch`. -/
def serveBatch (executions : List ExecutionResult) (db : Database) (request : CoordinatorRequest) :
    Except PyError request.Response × Database :=
  execute researchMarkets (fun
    | .submitBatch _ => .ok executions
    | other => researchExchange other) 7 db request

/-- The submission of `researchPlan` when the broker returns these results. -/
def submittedResearch (executions : List ExecutionResult) :
    List CoordinatorEvent × Except PyError CoordinatorResult × Database :=
  submitResearchPlan.program.run (serveBatch executions) Database.empty

theorem submittedResearch_execution (executions : List ExecutionResult) :
    Program.Execution (PossibleEvent researchMarkets) submitResearchPlan.program
      (submittedResearch executions).1 (submittedResearch executions).2.1 :=
  Program.run_execution (fun db _ => ⟨db, _, .answered _ _ _⟩) _ _

/-- An order that the broker reported without knowing its fate. -/
def ambiguousResult (orderId : String) : ExecutionResult :=
  ⟨"intent", .error, some orderId, 0, none, "timeout"⟩

/-- An order that the broker accepted. -/
def openedResult (orderId : String) : ExecutionResult :=
  ⟨"intent", .accepted, some orderId, 0, none, ""⟩

/-- The event committed or cancelled the order, as a computation. -/
def manages (event : CoordinatorEvent) (orderId : String) : Bool :=
  match event with
  | ⟨.persistPairOrderPlan _ _ _ legs, .ok committed⟩ =>
      committed && legs.any fun leg => leg.clobOrderId = some orderId
  | ⟨.commitPairGroupTransition _ _ _ legs _, .ok committed⟩ =>
      committed && legs.any fun leg => leg.clobOrderId = some orderId
  | ⟨.cancelOrders orderIds _, _⟩ => orderIds.contains orderId
  | ⟨.cancelOrder cancelled _, _⟩ => cancelled == orderId
  | ⟨.cancelAll _, _⟩ => true
  | _ => false

theorem manages_of_done {event : CoordinatorEvent} {orderId : String}
    (done : CommitsOrder event orderId ∨ CancelsOrder event orderId) :
    manages event orderId = true := by
  obtain ⟨request, answer⟩ := event
  cases request with
  | persistPairOrderPlan _ _ _ legs | commitPairGroupTransition _ _ _ legs _ =>
      cases answer with
      | ok committed =>
          obtain ⟨stored, leg, member, named⟩ := done.resolve_right id
          exact Bool.and_eq_true_iff.mpr
            ⟨stored, List.any_eq_true.mpr ⟨leg, member, decide_eq_true named⟩⟩
      | error failure => exact (done.elim id id).elim
  | cancelOrders orderIds reason => exact List.contains_iff_mem.mpr (done.resolve_left id)
  | cancelOrder cancelled reason => exact beq_iff_eq.mpr (done.resolve_left id)
  | cancelAll reason => rfl
  | _ => exact (done.elim id id).elim

instance (execution : ExecutionResult) (orderId : String) : Decidable (execution.Reports orderId) :=
  inferInstanceAs (Decidable (_ ∧ _ ∧ _))

instance (log : List CoordinatorEvent) (orderId : String) : Decidable (Reported log orderId) :=
  inferInstanceAs (Decidable (∃ event ∈ log, ∃ execution ∈ executionsOf event, _))

/-- A submission that returned, and what was checked of its log. -/
theorem submittedResearch_returned (executions : List ExecutionResult)
    (check : List CoordinatorEvent → Bool)
    (checked : ((submittedResearch executions).2.1.isOk &&
      check (submittedResearch executions).1) = true) :
    ∃ log result, Program.Execution (PossibleEvent researchMarkets) submitResearchPlan.program log
      (.ok result) ∧ check log = true := by
  obtain ⟨returned, holds⟩ := Bool.and_eq_true_iff.mp checked
  have executes := submittedResearch_execution executions
  cases outcome : (submittedResearch executions).2.1 with
  | ok result => exact ⟨_, result, outcome ▸ executes, holds⟩
  | error failure =>
      rw [outcome] at returned
      cases returned

/-- A short batch whose only order was accepted. -/
theorem short_batch_leaves_no_orphan : ∃ log result,
    Program.Execution (PossibleEvent researchMarkets) submitResearchPlan.program log (.ok result) ∧
      Reported log "a" ∧ NoOrphan log := by
  obtain ⟨log, result, executes, checked⟩ := submittedResearch_returned [openedResult "a"]
    (fun log => decide (Reported log "a") &&
      log.all fun event => (executionsOf event).all fun execution => execution.status ≠ .error)
    (by decide +kernel)
  obtain ⟨reported, certain⟩ := Bool.and_eq_true_iff.mp checked
  refine ⟨log, result, executes, of_decide_eq_true reported,
    (no_orphan_order_iff researchMarkets researchCoordinator executes).mpr ?_⟩
  intro plan books runId clock _ batch executions member _ execution returned error
  have other := List.all_eq_true.mp (List.all_eq_true.mp certain _ member) execution returned
  exact absurd error (of_decide_eq_true other)

/-- A short batch whose only order is ambiguous. -/
theorem short_batch_leaves_an_orphan : ∃ log result,
    Program.Execution (PossibleEvent researchMarkets) submitResearchPlan.program log (.ok result) ∧
      Reported log "b" ∧ ¬ Managed log "b" := by
  obtain ⟨log, result, executes, checked⟩ := submittedResearch_returned [ambiguousResult "b"]
    (fun log => decide (Reported log "b") &&
      log.all fun event => !manages event "b")
    (by decide +kernel)
  obtain ⟨reported, unmanaged⟩ := Bool.and_eq_true_iff.mp checked
  refine ⟨log, result, executes, of_decide_eq_true reported, ?_⟩
  rintro ⟨event, member, done⟩
  have other := List.all_eq_true.mp unmanaged event member
  rw [manages_of_done done] at other
  cases other

end Polybot
