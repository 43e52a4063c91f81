import Polybot.Collections.Dict
import Polybot.Control.Watch

/-!
The safety stop of the trading engine (`_persist_stop_and_verify_cancellation` of
`engine.py`).

The method reads the control, writes a stop unless the control is already stopped, and
then cancels on the exchange, while other processes may arm the control. A written stop
is latched, so nothing arms it before the cancellation returns. A stop that is only read
is latched if a cancellation was still pending, and `stop_wins_iff` says that this is the
exact condition.
-/

namespace Polybot

open Checked Interaction Program

/-! ### The method -/

/-- The report of a cycle. -/
structure EngineCycleResult where
  runId : String
  mode : TradingMode
  marketsScanned : Nat
  forecastsCreated : Nat
  candidatesCreated : Nat
  intentsApproved : Nat
  aiUnitsReserved : Nat
  aiCostUsd : Option ℚ
  executions : List ExecutionResult
  skipped : Dict String Nat

namespace EngineCycleResult

/-- The report of a cycle that starts. -/
def fresh (runId : String) (mode : TradingMode) : EngineCycleResult :=
  ⟨runId, mode, 0, 0, 0, 0, 0, none, [], .empty⟩

variable (report : EngineCycleResult)

def skip (code : String) : EngineCycleResult :=
  { report with skipped := report.skipped.set code ((report.skipped.get? code).getD 0 + 1) }

/-- The report of what was caught. -/
def skipFailure {α : Type} (code : String) : Except PyError α → EngineCycleResult
  | .ok _ => report
  | .error problem => report.skip s!"{code}:{problem.typeName}"

end EngineCycleResult

/-- The control is stopped in the mode of the engine. -/
def RuntimeControl.AlreadyStopped (control : RuntimeControl) (mode : TradingMode) : Prop :=
  control.mode = mode ∧ control.armed = false ∧ control.acceptNewIntents = false ∧
    control.armedUntil = none ∧ control.killSwitch = true

instance (control : RuntimeControl) (mode : TradingMode) : Decidable (control.AlreadyStopped mode) :=
  inferInstanceAs (Decidable (_ ∧ _ ∧ _ ∧ _ ∧ _))

/-- Read the control; a failed read must not prevent the stop. -/
def readControl : WatchProgram (Except PyError RuntimeControl) :=
  (do
    let ((control, _) : RuntimeControl × Instant) ← askWatch .getRuntimeControl
    pure control).attempt

def disarmControl (mode : TradingMode) : WatchProgram RuntimeControl :=
  askWatch (.disarmRuntimeControl mode)

/-- The control if it is already stopped, else the one that a disarm writes. -/
def persistStop (mode : TradingMode) (current : Except PyError RuntimeControl) :
    WatchProgram RuntimeControl := do
  let (control : RuntimeControl) ←
    (match current with
    | .ok current =>
        if current.AlreadyStopped mode then pure current else disarmControl mode
    | .error _ => disarmControl mode)
  if control.armed = true ∨ control.acceptNewIntents = true ∨ control.killSwitch = false then
    .raised (.runtimeError "durable runtime control did not enter the stopped state")
  else pure control

/-- Cancel on the exchange, and verify that no order is open. -/
def verifyCancellation (reason : String) : WatchProgram Unit := do
  let _ ← askWatch (.beginCancelAll reason)
  let (cancellationVerified : Bool) ← askWatch .endCancelAll
  if cancellationVerified = true then pure ()
  else .raised (.runtimeError "cancel-all returned without zero-open-order verification")

/-- Acknowledge the latch; if this fails the watch of the control retries it. -/
def acknowledgeStop (version : Int) (report : EngineCycleResult) :
    WatchProgram EngineCycleResult := do
  let acknowledged ←
    (do
      if ← hasUnresolvedLiveOrders then pure (report.skip "live_stop_unresolved_order")
      else
        let (answer : Option RuntimeControl) ← askWatch (.acknowledgeRuntimeCancellation version)
        match answer with
        | none => pure (report.skip "live_stop_acknowledgement_deferred")
        | some _ => pure report : WatchProgram EngineCycleResult).attempt
  match acknowledged with
  | .ok report => pure report
  | .error problem => pure (report.skip s!"live_stop_acknowledgement_failed:{problem.typeName}")

/-- `_persist_stop_and_verify_cancellation`. -/
def persistStopAndVerifyCancellation (mode : TradingMode) (reason : String)
    (report : EngineCycleResult) : WatchProgram EngineCycleResult := do
  let current ← readControl
  let report := report.skipFailure "live_stop_control_read_failed" current
  let persisted ← (persistStop mode current).attempt
  let report := report.skipFailure "live_stop_persistence_failed" persisted
  let cancelled ← (verifyCancellation reason).attempt
  let report := report.skipFailure "live_stop_cancel_failed" cancelled
  match persisted, cancelled with
  | .ok control, .ok _ =>
      let report ←
        (if control.cancellationPending = true then acknowledgeStop control.version report
        else pure report)
      pure (report.skip s!"live_stop_latched:{reason}")
  | _, _ => .raised (.foreign "LiveSafetyLatchError")

/-! ### The property -/

/-- One engine and other processes over one account. -/
abbrev StopPool (κ : Type) : Type :=
  Pool WatchRequest WatchRequest.Response PyError EngineCycleResult RuntimeState (Option κ)

/-- The engine stops, and other processes make their calls. -/
def stopPool {κ : Type} (start : RuntimeState) (mode : TradingMode) (reason : String)
    (report : EngineCycleResult) (others : κ → List RuntimeCall) : StopPool κ :=
  .start start fun
    | none => persistStopAndVerifyCancellation mode reason report
    | some j => do
        let _ ← otherCalls ⟨none, false, false⟩ (others j)
        pure report

/-- The control that a stop shows stays as it is until the cancellation has returned. -/
structure StopHolds {κ : Type} [DecidableEq κ] (s : StopPool κ) (labels : List (Option κ × WatchEvent))
    (t : StopPool κ) (control : RuntimeControl) : Prop where
  stopped : control.Stopped
  stays : ∀ front back mid, labels = front ++ back → Run (Pool.Step WatchServe) s front mid →
    Run (Pool.Step WatchServe) mid back t → mid.shared.controlRow = control

/-- When the method returns, the control it read or wrote last before its cancellation has
been the control, and stopped, until the cancellation returned. -/
def StopWins {κ : Type} [DecidableEq κ] (pool : StopPool κ) : Prop :=
  ∀ labels p report, Run (Pool.Step WatchServe) pool labels p → p.program none = .done report →
    ∃ before stop window reason after q s t control,
      labels = before ++ (none, stop) :: (window ++ [(none, ⟨.endCancelAll, .ok true⟩)]) ++ after ∧
      Run (Pool.Step WatchServe) pool before q ∧ Pool.Step WatchServe q (none, stop) s ∧
      Run (Pool.Step WatchServe) s (window ++ [(none, ⟨.endCancelAll, .ok true⟩)]) t ∧
      Run (Pool.Step WatchServe) t after p ∧
      Pool.own none window = [⟨.beginCancelAll reason, .ok ()⟩] ∧ Shows stop control ∧
      StopHolds s (window ++ [(none, ⟨.endCancelAll, .ok true⟩)]) t control

/-- The control is stopped in the mode of the engine, and no cancellation is pending. -/
def RuntimeState.UnlatchedStop (state : RuntimeState) (mode : TradingMode) : Prop :=
  state.controlRow.AlreadyStopped mode ∧ state.controlRow.cancellationPending = false

instance (state : RuntimeState) (mode : TradingMode) : Decidable (state.UnlatchedStop mode) :=
  inferInstanceAs (Decidable (_ ∧ _))

/-! ### The method alone -/

section Method

variable {Possible : WatchEvent → Prop} {mode : TradingMode} {reason : String}
  {control : RuntimeControl} {report result : EngineCycleResult} {log : List WatchEvent}

/-- The event is the stop of the method: the disarm, or a first read of a stopped control. -/
inductive StopEvent (mode : TradingMode) (control : RuntimeControl) :
    List WatchEvent → WatchEvent → Prop where
  | wrote (front : List WatchEvent) :
      StopEvent mode control front ⟨.disarmRuntimeControl mode, .ok control⟩
  | read (utcNow : Instant) : control.AlreadyStopped mode →
      StopEvent mode control [] ⟨.getRuntimeControl, .ok (control, utcNow)⟩

theorem StopEvent.shows {front : List WatchEvent} {stop : WatchEvent}
    (event : StopEvent mode control front stop) : Shows stop control := by
  cases event with
  | wrote => exact .inr (.inr ⟨mode, rfl⟩)
  | read utcNow => exact .inl ⟨utcNow, rfl⟩

/-- A verified cancellation begins and ends. -/
theorem verifyCancellation_log (executes : Execution Possible (verifyCancellation reason) log (.ok ())) :
    log = [⟨.beginCancelAll reason, .ok ()⟩, ⟨.endCancelAll, .ok true⟩] := by
  obtain ⟨_, _, ⟨⟩, rfl, begun, rest⟩ := Execution.bind_ok_iff.mp executes
  obtain ⟨_, _, verified, rfl, ended, last⟩ := Execution.bind_ok_iff.mp rest
  obtain ⟨rfl, -⟩ := Execution.ask_ok_iff.mp begun
  obtain ⟨rfl, -⟩ := Execution.ask_ok_iff.mp ended
  cases verified with
  | false => cases last
  | true =>
      obtain ⟨rfl, -⟩ := Execution.done_ok_iff.mp last
      rfl

/-- A control that was not raised about is the one that was read or written last. -/
theorem persistStop_cases {current : Except PyError RuntimeControl}
    (executes : Execution Possible (persistStop mode current) log (.ok control)) :
    log = [⟨.disarmRuntimeControl mode, .ok control⟩] ∨
      log = [] ∧ current = .ok control ∧ control.AlreadyStopped mode := by
  obtain ⟨front, back, found, rfl, first, rest⟩ := Execution.bind_ok_iff.mp executes
  have same : back = [] ∧ found = control := by
    dsimp only at rest
    split at rest
    · cases rest
    · exact Execution.done_ok_iff.mp rest
  obtain ⟨rfl, rfl⟩ := same
  rw [List.append_nil]
  cases current with
  | ok current =>
      dsimp only at first
      split at first
      · rename_i stopped
        obtain ⟨rfl, rfl⟩ := Execution.done_ok_iff.mp first
        exact .inr ⟨rfl, rfl, stopped⟩
      · exact .inl (Execution.ask_ok_iff.mp first).1
  | error problem => exact .inl (Execution.ask_ok_iff.mp first).1

/-- A successful read is one event. -/
theorem readControl_log {current : Except PyError RuntimeControl}
    (executes : Execution Possible readControl log (.ok current)) (read : current = .ok control) :
    ∃ utcNow, log = [⟨.getRuntimeControl, .ok (control, utcNow)⟩] := by
  rw [readControl, Execution.attempt_ok_iff, read] at executes
  obtain ⟨_, _, ⟨found, utcNow⟩, rfl, asked, rest⟩ := Execution.bind_ok_iff.mp executes
  obtain ⟨rfl, -⟩ := Execution.ask_ok_iff.mp asked
  obtain ⟨rfl, rfl⟩ := Execution.done_ok_iff.mp rest
  exact ⟨utcNow, rfl⟩

/-- A method that returns has stopped, cancelled and seen the cancellation verified, in this
order. -/
theorem persistStop_log
    (executes : Execution Possible (persistStopAndVerifyCancellation mode reason report) log
      (.ok result)) :
    ∃ front stop back control,
      log = front ++ stop :: ⟨.beginCancelAll reason, .ok ()⟩ :: ⟨.endCancelAll, .ok true⟩ :: back ∧
        StopEvent mode control front stop := by
  obtain ⟨front, _, current, rfl, read, rest⟩ := Execution.bind_ok_iff.mp executes
  obtain ⟨middle, _, persisted, rfl, stop, rest⟩ := Execution.bind_ok_iff.mp rest
  obtain ⟨after, back, cancelled, rfl, cancel, rest⟩ := Execution.bind_ok_iff.mp rest
  rw [Execution.attempt_ok_iff] at stop cancel
  cases persisted with
  | error problem => cases rest
  | ok control =>
      cases cancelled with
      | error problem => cases rest
      | ok done =>
          cases done
          obtain rfl := verifyCancellation_log cancel
          rcases persistStop_cases stop with rfl | ⟨rfl, here, stopped⟩
          · exact ⟨front, _, back, control, rfl, .wrote front⟩
          · obtain ⟨utcNow, rfl⟩ := readControl_log read here
            exact ⟨[], _, back, control, rfl, .read utcNow stopped⟩

end Method

/-! ### The calls of others -/

section Calls

variable {state after : RuntimeState} {event : WatchEvent} {label : RuntimeLabel}

/-- The request is a call that arms. -/
def ArmRequest (event : WatchEvent) : Prop :=
  ∃ call, event.request = .rpc call ∧ call.Arms

/-- A call that arms keeps the control, or arms one that is not latched. -/
theorem RuntimeStep.of_arms (step : RuntimeStep state label after) (arms : label.call.Arms) :
    after.controlRow = state.controlRow ∨
      state.controlRow.cancellationPending = false ∧ after.controlRow.armed = true := by
  have change := step.control
  generalize after.controlRow = control at change
  have other : ∀ {call}, label.call = call → ¬ call.Arms → False :=
    fun called never => never (called ▸ arms)
  cases change with
  | kept => exact .inl rfl
  | armed _ _ _ latched => exact .inr ⟨latched, rfl⟩
  | expired _ _ _ called => exact (other called id).elim
  | disarmed _ _ called => exact (other called id).elim
  | paused _ called => exact (other called id).elim
  | acknowledged _ acknowledged =>
      obtain ⟨-, _, called⟩ := acknowledged
      exact (other called id).elim

/-- The same for the request, whether it is answered or not. -/
theorem WatchServe.of_arms (served : WatchServe state event after) (arms : ArmRequest event) :
    after.controlRow = state.controlRow ∨
      state.controlRow.cancellationPending = false ∧ after.controlRow.armed = true := by
  obtain ⟨call, called, arms⟩ := arms
  cases served with
  | other found now granted next later done =>
      cases called
      have step : RuntimeStep state ⟨call, now, granted⟩ (next.at now) := .served next later done
      exact step.of_arms arms
  | failed => exact .inl rfl
  | unanswered request problem label after named step =>
      obtain rfl : request = .rpc call := called
      exact step.of_arms (Option.some.inj named ▸ arms)
  | _ => cases called

/-- A cancellation leaves the control as it is. -/
theorem WatchServe.of_cancel (served : WatchServe state event after)
    (cancels : BeginsCancel event ∨ event.request = .endCancelAll) :
    after.controlRow = state.controlRow := by
  have unnamed : event.request.called = none := by
    rcases cancels with ⟨reason, begins⟩ | ends
    · rw [begins]
      rfl
    · rw [ends]
      rfl
  cases served with
  | begun => rfl
  | ended => rfl
  | failed => rfl
  | unanswered request problem label after named => cases unnamed.symm.trans named
  | observed => rfl
  | selected => rfl
  | _ => cases unnamed

end Calls

/-! ### Whole runs -/

section Runs

variable {κ : Type} [DecidableEq κ] {start : RuntimeState} {mode : TradingMode} {reason : String}
  {report result : EngineCycleResult} {others : κ → List RuntimeCall} {s t : StopPool κ}
  {labels : List (Option κ × WatchEvent)} {control : RuntimeControl}

theorem otherCalls_arms {calls : List RuntimeCall} {watch : RuntimeControlWatchState}
    (arms : ∀ call ∈ calls, call.Arms) :
    (otherCalls watch calls).Uses (fun _ => True) (fun request => ∃ call, request = .rpc call ∧
      call.Arms) fun _ => True := by
  induction calls with
  | nil => trivial
  | cons call rest ih =>
      refine .bind (F := fun _ => True) (.attempt (.ask ⟨call, rfl, arms call ?_⟩ ?_) ?_) fun _ _ => ?_
      · exact List.mem_cons_self
      · exact fun _ _ => trivial
      · exact fun _ => trivial
      · exact ih fun call later => arms call (List.mem_cons_of_mem _ later)

/-- The others only arm. -/
theorem others_arm (arms : ∀ j, ∀ call ∈ others j, call.Arms)
    (run : Run (Pool.Step WatchServe) (stopPool start mode reason report others) labels t) :
    ∀ label ∈ labels, label.1 ≠ none → ArmRequest label.2 := by
  let Good : Option κ → List WatchEvent → WatchEvent → Prop
    | none => fun _ _ => True
    | some _ => fun _ event => ArmRequest event
  have calls : ∀ j, ((stopPool start mode reason report others).program (some j)).Uses
      (fun _ => True) (fun request => ∃ call, request = .rpc call ∧ call.Arms) fun _ => True :=
    fun j => (otherCalls_arms (arms j)).bind fun _ _ => trivial
  have obeys := (Pool.run_obeys (G := Good) (Q := fun _ _ _ => True) (fun
    | none => Program.obeys_true _
    | some j => (calls j).obeys) run).2
  refine (obeys.invariant_along (P := fun _ => True) ?_ trivial).2
  rintro p ⟨i, event⟩ q - ⟨-, good⟩
  cases i with
  | none => exact ⟨trivial, fun other => absurd rfl other⟩
  | some j => exact ⟨trivial, fun _ => good⟩

/-- A latched control stays while there are only arms and a cancellation. -/
theorem latched_stays (run : Run (Pool.Step WatchServe) s labels t)
    (quiet : ∀ label ∈ labels, ArmRequest label.2 ∨ BeginsCancel label.2 ∨
      label.2.request = .endCancelAll)
    (here : s.shared.controlRow = control) (latched : control.cancellationPending = true) :
    t.shared.controlRow = control := by
  refine (run.of_labels quiet).invariant (P := fun pool => pool.shared.controlRow = control) ?_ here
  rintro p label q here ⟨step, arms | cancels⟩
  · rcases step.serves.of_arms arms with same | ⟨unlatched, -⟩
    · rw [same, here]
    · rw [here, latched] at unlatched
      cases unlatched
  · rw [step.serves.of_cancel cancels, here]

/-- A control that only arms have touched is the old one, or armed. -/
theorem kept_or_armed (run : Run (Pool.Step WatchServe) s labels t)
    (arms : ∀ label ∈ labels, ArmRequest label.2) :
    t.shared.controlRow = s.shared.controlRow ∨ t.shared.controlRow.armed = true := by
  refine (run.of_labels arms).invariant (P := fun pool =>
    pool.shared.controlRow = s.shared.controlRow ∨ pool.shared.controlRow.armed = true) ?_ (.inl rfl)
  rintro p label q known ⟨step, arms⟩
  rcases step.serves.of_arms arms with same | ⟨-, armed⟩
  · rwa [same]
  · exact .inr armed

theorem WatchServe.read_control {state after : RuntimeState} {utcNow : Instant}
    (served : WatchServe state ⟨.getRuntimeControl, .ok (control, utcNow)⟩ after) :
    state.controlRow = control := by
  cases served
  rfl

/-- A disarm writes a stopped control, latched in canary or live mode. -/
theorem WatchServe.disarm_writes {state after : RuntimeState}
    (served : WatchServe state ⟨.disarmRuntimeControl mode, .ok control⟩ after) :
    control.Stopped ∧ control.cancellationPending = decide mode.RealMoney := by
  cases served with
  | disarmed _ now granted next later done =>
      cases done
      exact ⟨⟨rfl, rfl, rfl, rfl⟩, rfl⟩

/-- In a run of arms the stop of the method is stopped and latched, unless the account was
stopped without a latch from the start. -/
theorem stop_latched (real : mode.RealMoney) (arms : ∀ j, ∀ call ∈ others j, call.Arms)
    (run : Run (Pool.Step WatchServe) (stopPool start mode reason report others) labels s)
    {event : WatchEvent} (step : Pool.Step WatchServe s (none, event) t)
    (stop : StopEvent mode control (s.log none) event) (latched : ¬ start.UnlatchedStop mode) :
    control.Stopped ∧ control.cancellationPending = true := by
  generalize logged : s.log none = front at stop
  cases stop with
  | wrote => rw [← decide_eq_true real]; exact step.serves.disarm_writes
  | read utcNow stopped =>
      refine ⟨⟨stopped.2.1, stopped.2.2.2.2, stopped.2.2.1, stopped.2.2.2.1⟩, ?_⟩
      have alone : ∀ label ∈ labels, ArmRequest label.2 := by
        rintro ⟨i, event⟩ member
        refine others_arm arms run _ member ?_
        rintro rfl
        have none' : Pool.own none labels = [] := (Pool.log_of_run run none).symm.trans logged
        exact List.not_mem_nil (none' ▸ Pool.mem_own.mpr member)
      have shown : s.shared.controlRow = control := step.serves.read_control
      rcases kept_or_armed run alone with same | armed
      · rw [← Bool.not_eq_false]
        intro unlatched
        rw [shown] at same
        subst same
        exact latched ⟨stopped, unlatched⟩
      · rw [shown, stopped.2.1] at armed
        cases armed

/-- The stop wins against every arm, if the account is not stopped without a latch. -/
theorem stop_wins (real : mode.RealMoney) (arms : ∀ j, ∀ call ∈ others j, call.Arms)
    (latched : ¬ start.UnlatchedStop mode) :
    StopWins (stopPool start mode reason report others) := by
  intro labels p result run done
  obtain ⟨front, stop, back, control, log, event⟩ :=
    persistStop_log (Pool.execution_of_run run done)
  have logged : p.log none = (front ++ [stop, ⟨.beginCancelAll reason, .ok ()⟩]) ++
      ⟨.endCancelAll, .ok true⟩ :: back := by
    rw [Pool.log_of_run run none, log]
    simp [stopPool, Pool.start]
  obtain ⟨upTo, after, r, t, rfl, first, ends, last, seen, -⟩ := Pool.split_log run rfl logged
  obtain ⟨before, window, q, s, rfl, reached, stops, between, known, own⟩ :=
    Pool.split_log first rfl seen
  subst known
  have held := stop_latched real arms reached stops event latched
  have whole : Run (Pool.Step WatchServe) s (window ++ [(none, ⟨.endCancelAll, .ok true⟩)]) t :=
    between.snoc ends
  refine ⟨before, stop, window, reason, after, q, s, t, control, by simp, reached, stops, whole, last,
    own, event.shows, held.1, ?_⟩
  intro front' back' mid split onwards _
  refine latched_stays onwards ?_ (stops.serves.shown event.shows) held.2
  rintro ⟨i, event⟩ member
  have inside : (i, event) ∈ window ++ [(none, ⟨.endCancelAll, .ok true⟩)] := by
    rw [split]
    exact List.mem_append_left _ member
  rcases List.mem_append.mp inside with early | final
  · cases i with
    | none =>
        have mine := Pool.mem_own.mpr early
        rw [own] at mine
        exact .inr (.inl ⟨reason, by rw [List.mem_singleton.mp mine]⟩)
    | some j =>
        refine .inl (others_arm arms run (some j, event) ?_ nofun)
        simp [early]
  · cases List.mem_singleton.mp final
    exact .inr (.inr rfl)

/-- An account that is stopped without a latch can be armed at once. -/
theorem RuntimeState.UnlatchedStop.armable (real : mode.RealMoney)
    (unlatched : start.UnlatchedStop mode) :
    ∃ next, RuntimeCall.serve start start.clock
        (.arm mode (start.clock + 1) start.controlRow.version) = .ok (true, next) ∧
      next.controlRow.armed = true := by
  obtain ⟨⟨-, off, closed, until', kill⟩, clear⟩ := unlatched
  have armable : start.controlRow.Armable mode start.controlRow.version start.clock :=
    ⟨rfl, clear, .inl ⟨off, kill, closed, until'⟩⟩
  have soon : start.clock < start.clock + 1 ∧
      start.clock + 1 ≤ start.clock + RuntimeState.fifteenMinutes := by
    refine ⟨Int.lt_succ _, add_le_add le_rfl ?_⟩
    decide
  refine ⟨start.withControl (start.controlRow.armedAs mode (start.clock + 1) real clear), ?_, rfl⟩
  change start.armRuntimeControl _ _ _ _ = _
  rw [RuntimeState.armRuntimeControl, dif_pos real, require_bind_ok_iff, require_bind_ok_iff]
  refine ⟨Int.add_one_le_of_lt start.controlRow.version_pos, soon, ?_⟩
  rw [RuntimeState.updateArm, dif_pos armable]
  rfl

/-- A method that reads a stop without a latch cancels at once, and returns. -/
theorem persistStop_unlatched (reason : String) (report : EngineCycleResult)
    (stopped : control.AlreadyStopped mode)
    (clear : control.cancellationPending = false) (utcNow : Instant) :
    ∃ resume, persistStopAndVerifyCancellation mode reason report = .call .getRuntimeControl resume ∧
      ∃ cancel, resume (.ok (control, utcNow)) = .call (.beginCancelAll reason) cancel ∧
        ∃ verify, cancel (.ok ()) = .call .endCancelAll verify ∧
          verify (.ok true) = .done (report.skip s!"live_stop_latched:{reason}") := by
  have idle : persistStop mode (.ok control) = .done control := by
    change (if control.AlreadyStopped mode then pure control else disarmControl mode) >>= _ = _
    rw [if_pos stopped]
    change (if _ then _ else _) = _
    rw [if_neg]
    · rfl
    · simp [stopped.2.1, stopped.2.2.1, stopped.2.2.2.2]
  refine ⟨_, rfl, ?_⟩
  change ∃ cancel, (persistStop mode (.ok control)).attempt >>= _ = _ ∧ _
  rw [idle]
  refine ⟨_, rfl, _, rfl, ?_⟩
  change (if control.cancellationPending = true then _ else _) >>= _ = _
  rw [clear]
  rfl

/-- The account is armed between the read of the method and the end of its cancellation. -/
theorem armed_while_cancelling (reason : String) (report : EngineCycleResult)
    (real : mode.RealMoney) (unlatched : start.UnlatchedStop mode) :
    ∃ front p result, Run (Pool.Step WatchServe) (stopPool start mode reason report
        fun _ : Unit => [.arm mode (start.clock + 1) start.controlRow.version])
        (front ++ [(none, ⟨.endCancelAll, .ok true⟩)]) p ∧
      p.program none = .done result ∧ p.shared.controlRow.armed = true ∧
      (none, ⟨.endCancelAll, .ok true⟩) ∉ front := by
  obtain ⟨next, served, armed⟩ := unlatched.armable real
  obtain ⟨resume, asks, cancel, cancels, verify, ends, returns⟩ :=
    persistStop_unlatched reason report unlatched.1 unlatched.2 start.clock
  have run : Run (Pool.Step WatchServe) (stopPool start mode reason report
        fun _ : Unit => [.arm mode (start.clock + 1) start.controlRow.version])
      ([(none, ⟨.getRuntimeControl, .ok (start.controlRow, start.clock)⟩),
        (some (), ⟨.rpc (.arm mode (start.clock + 1) start.controlRow.version), .ok true⟩),
        (none, ⟨.beginCancelAll reason, .ok ()⟩)] ++ [(none, ⟨.endCancelAll, .ok true⟩)]) _ :=
    .cons ⟨resume, _, asks, .observed start.clock, rfl⟩
      (.cons ⟨_, _, rfl, .other _ start.clock true next le_rfl served, rfl⟩
        (.cons ⟨cancel, _, cancels, .begun reason, rfl⟩
          (.single ⟨verify, _, ends, .ended true, rfl⟩)))
  exact ⟨_, _, _, run, returns, armed, by simp⟩

/-- An account that is stopped without a latch can be armed while the method cancels. -/
theorem not_stop_wins (real : mode.RealMoney) (unlatched : start.UnlatchedStop mode) :
    ¬ StopWins (stopPool start mode reason report fun _ : Unit =>
      [.arm mode (start.clock + 1) start.controlRow.version]) := by
  obtain ⟨front, p, result, run, done, armed, once⟩ :=
    armed_while_cancelling reason report real unlatched
  intro wins
  obtain ⟨before, stop, window, reason, after, q, s, t, control, labelled, -, -, whole, last, -, -,
    holds⟩ := wins _ p result run done
  have final : after = [] := by
    cases after using List.reverseRecOn with
    | nil => rfl
    | append_singleton rest label =>
        rw [← List.append_assoc] at labelled
        obtain ⟨same, -⟩ := List.append_inj' labelled rfl
        exact absurd (by simp [same]) once
  subst final
  obtain rfl := Run.nil_iff.mp last
  have stopped := holds.stays _ [] t (List.append_nil _).symm whole (.refl t)
  rw [stopped, holds.stopped.1] at armed
  cases armed

/-- The stop wins against arms exactly if the account was not stopped in the engine's mode
without a pending cancellation. -/
theorem stop_wins_iff (real : mode.RealMoney) :
    (∀ (κ : Type) [DecidableEq κ] (others : κ → List RuntimeCall),
      (∀ j, ∀ call ∈ others j, call.Arms) → StopWins (stopPool start mode reason report others)) ↔
      ¬ start.UnlatchedStop mode := by
  constructor
  · intro wins unlatched
    refine not_stop_wins real unlatched (wins Unit _ ?_)
    rintro - call member
    rw [List.mem_singleton.mp member]
    trivial
  · intro latched κ _ others arms
    exact stop_wins real arms latched

end Runs

/-- An account that was never armed is stopped in paper mode, so a disarm is written. -/
theorem freshAccount_stop_wins : ¬ freshAccount.UnlatchedStop .live ∧
    ∀ (κ : Type) [DecidableEq κ] (others : κ → List RuntimeCall),
      (∀ j, ∀ call ∈ others j, call.Arms) → StopWins (stopPool freshAccount .live
        "hard risk breach at cycle_start" (.fresh "run" .live) others) :=
  ⟨by decide, (stop_wins_iff (.inr rfl)).mpr (by decide)⟩

/-- An account whose stop was cancelled and acknowledged before the cycle. -/
def acknowledgedAccount : RuntimeState :=
  ⟨0, none, some ((RuntimeControl.fresh.stopped .live true).acknowledged rfl), none, []⟩

theorem acknowledged_stop_is_armed : ¬ StopWins (stopPool acknowledgedAccount .live
    "hard risk breach at cycle_start" (.fresh "run" .live) fun _ : Unit => [.arm .live 1 3]) :=
  not_stop_wins (.inr rfl) (by decide : acknowledgedAccount.UnlatchedStop .live)

end Polybot
