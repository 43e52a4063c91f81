import Polybot.Control.Latch
import Polybot.Interaction.Pool
import Polybot.Store.PairStore

/-!
The watch of the runtime control (`_enforce_runtime_control_once` of `worker.py`).

A call reads the control, makes sure that a control which must not trade is latched,
and only then cancels on the exchange and acknowledges the latch. Its requests are the
calls of the store and of the broker, any of which may fail or lose its answer, and
other processes call the functions of the store in between. `cancels_first` says that a
call cancels under a latch, and that the latch it acknowledges has stood since before
that cancellation.
-/

namespace Polybot

open Interaction

/-- `RuntimeControl.is_live_armed`, by the clock of the worker. -/
def RuntimeControl.IsLiveArmed (control : RuntimeControl) (utcNow : Instant) : Prop :=
  control.armed = true ∧ control.acceptNewIntents = true ∧ control.killSwitch = false ∧
    control.cancellationPending = false ∧ control.Unexpired utcNow ∧ control.mode.RealMoney

instance (control : RuntimeControl) (utcNow : Instant) : Decidable (control.IsLiveArmed utcNow) :=
  inferInstanceAs (Decidable (_ ∧ _ ∧ _ ∧ _ ∧ _ ∧ _))

/-- What a worker remembers of the control from one call to the next. -/
structure RuntimeControlWatchState where
  lastVersion : Option Int
  wasLiveArmed : Bool
  cancellationPending : Bool
  deriving DecidableEq

/-! ### Requests -/

/-- What a call awaits: the store and the broker, whose cancellation begins and ends.
`rpc` is a call by another process. -/
inductive WatchRequest where
  | getRuntimeControl
  | expireRuntimeControl (mode : TradingMode) (expectedVersion : Int)
  | disarmRuntimeControl (mode : TradingMode)
  | acknowledgeRuntimeCancellation (expectedVersion : Int)
  | selectOrders (statuses : List OrderStatus)
  | beginCancelAll (reason : String)
  | endCancelAll
  | rpc (call : RuntimeCall)
  deriving DecidableEq

/-- What an answer is. The control comes with the clock of the worker. -/
def WatchRequest.Response : WatchRequest → Type
  | getRuntimeControl => RuntimeControl × Instant
  | expireRuntimeControl _ _ => Option RuntimeControl
  | disarmRuntimeControl _ => RuntimeControl
  | acknowledgeRuntimeCancellation _ => Option RuntimeControl
  | selectOrders _ => Bool
  | beginCancelAll _ => Unit
  | endCancelAll => Bool
  | rpc _ => Bool

abbrev WatchProgram (α : Type) : Type :=
  Program WatchRequest WatchRequest.Response PyError α

/-- Await the answer of a request. -/
abbrev askWatch (request : WatchRequest) : WatchProgram request.Response :=
  Program.ask request

abbrev WatchEvent : Type :=
  Event WatchRequest WatchRequest.Response PyError

/-! ### The call -/

/-- The control a call goes on with, after an expiry or a mismatch of the mode. -/
structure ObservedControl where
  control : RuntimeControl
  armedForWorker : Bool
  unsafeStoredArm : Bool
  reason : String

/-- The first part: read the control, and end an arm that has expired or is of another
mode. -/
def observeRuntimeControl (mode : TradingMode) : WatchProgram ObservedControl := do
  let ((control, utcNow) : RuntimeControl × Instant) ← askWatch .getRuntimeControl
  let armedForWorker := decide (control.IsLiveArmed utcNow ∧ control.mode = mode)
  if mode.RealMoney ∧ control.armed = true ∧ control.mode = mode then
    match ← askWatch (.expireRuntimeControl mode control.version) with
    | some expired => pure ⟨expired, false, true, "runtime control arm expired"⟩
    | none => pure ⟨control, armedForWorker, false, "runtime control disarmed"⟩
  else if mode.RealMoney ∧ control.armed = true then
    let disarmed ← askWatch (.disarmRuntimeControl mode)
    pure ⟨disarmed, false, true, "runtime control mode mismatched"⟩
  else pure ⟨control, armedForWorker, false, "runtime control disarmed"⟩

/-- The local retry flag: a newer control without a latch supersedes it. -/
def RuntimeControlWatchState.stillPending (state : RuntimeControlWatchState)
    (control : RuntimeControl) : Bool :=
  state.cancellationPending && !(decide (∃ previous ∈ state.lastVersion, control.version ≠ previous) &&
    !control.cancellationPending)

/-- The control was left without a cancellation. -/
def RuntimeControlWatchState.transitionRequiresCancel (state : RuntimeControlWatchState)
    (mode : TradingMode) (observed : ObservedControl) : Bool :=
  decide mode.RealMoney && (!observed.armedForWorker &&
    (state.lastVersion.isNone || (state.wasLiveArmed && !observed.armedForWorker) ||
      observed.unsafeStoredArm))

/-- Latch the control before the exchange is touched. -/
def establishLatch (mode : TradingMode) : WatchProgram (RuntimeControl × Bool) := do
  let (disarmed : RuntimeControl) ← askWatch (.disarmRuntimeControl mode)
  if disarmed.cancellationPending = true then pure (disarmed, false)
  else .raised (.runtimeError "real-money disarm did not establish cancellation_pending")

/-- The second part: a cancellation that is required is latched in the store. It returns
the control and what the worker remembers. -/
def latchRuntimeControl (mode : TradingMode) (state : RuntimeControlWatchState)
    (observed : ObservedControl) : WatchProgram (RuntimeControl × RuntimeControlWatchState) := do
  let transition := state.transitionRequiresCancel mode observed
  let pending := state.stillPending observed.control
  let required := pending || observed.control.cancellationPending || transition
  let (control, armedForWorker) ←
    (if mode.RealMoney ∧ required = true ∧ observed.control.cancellationPending = false then
      establishLatch mode
    else pure (observed.control, observed.armedForWorker))
  let pending := pending || decide mode.RealMoney &&
    (control.cancellationPending || transition || pending)
  pure (control, ⟨some control.version, armedForWorker, pending⟩)

/-- `has_unresolved_live_orders`. -/
def hasUnresolvedLiveOrders : WatchProgram Bool := do
  let (unknown : Bool) ← askWatch (.selectOrders [.unknown])
  if unknown = true then pure true
  else askWatch (.selectOrders [.signed, .submitting])

/-- The last part: cancel on the exchange, and acknowledge the latch. -/
def cancelAndAcknowledge (control : RuntimeControl) (state : RuntimeControlWatchState)
    (reason : String) : WatchProgram RuntimeControlWatchState := do
  let _ ← askWatch (.beginCancelAll reason)
  let (cancellationVerified : Bool) ← askWatch .endCancelAll
  if cancellationVerified = false then pure state
  else if control.cancellationPending = false then
    pure { state with cancellationPending := false }
  else if ← hasUnresolvedLiveOrders then pure state
  else
    let (answer : Option RuntimeControl) ←
      askWatch (.acknowledgeRuntimeCancellation control.version)
    match answer with
    | none => pure state
    | some acknowledged =>
        pure
          { state with
            lastVersion := some acknowledged.version
            cancellationPending := false }

/-- `_enforce_runtime_control_once`, with what the worker remembers before and after it.
A call that raises may leave anything behind. -/
def enforceRuntimeControlOnce (mode : TradingMode) (state : RuntimeControlWatchState) :
    WatchProgram RuntimeControlWatchState := do
  let observed ← observeRuntimeControl mode
  let (control, state) ← latchRuntimeControl mode state observed
  if state.cancellationPending = false then pure state
  else cancelAndAcknowledge control state observed.reason

/-- Another process: its calls in turn, whatever they answer. -/
def otherCalls (state : RuntimeControlWatchState) :
    List RuntimeCall → WatchProgram RuntimeControlWatchState
  | [] => pure state
  | call :: rest => do
      let _ ← (askWatch (.rpc call)).attempt
      otherCalls state rest

/-! ### The store and the broker -/

/-- The function of the store that a request calls. -/
def WatchRequest.called : WatchRequest → Option RuntimeCall
  | expireRuntimeControl mode expectedVersion => some (.expire mode expectedVersion)
  | disarmRuntimeControl mode => some (.disarm mode)
  | acknowledgeRuntimeCancellation expectedVersion => some (.acknowledge expectedVersion)
  | rpc call => some call
  | _ => none

/-- The row that a function of the store returns, if it reports one. -/
def RuntimeState.reported (state : RuntimeState) (granted : Bool) : Option RuntimeControl :=
  if granted then some state.controlRow else none

/-- How a request can be served: with an answer, or it fails before or after the store
has done its part. The broker may report anything. -/
inductive WatchServe (state : RuntimeState) : WatchEvent → RuntimeState → Prop where
  | observed (utcNow : Instant) :
      WatchServe state ⟨.getRuntimeControl, .ok (state.controlRow, utcNow)⟩ state
  | expired (mode : TradingMode) (expectedVersion : Int) (now : Instant) (granted : Bool)
      (next : RuntimeState) (rows : Option RuntimeControl) : state.clock ≤ now →
      state.expireRuntimeControl mode expectedVersion now = .ok (granted, next) →
      rows = next.reported granted →
      WatchServe state ⟨.expireRuntimeControl mode expectedVersion, .ok rows⟩ (next.at now)
  | disarmed (mode : TradingMode) (now : Instant) (granted : Bool) (next : RuntimeState) :
      state.clock ≤ now → state.disarmRuntimeControl mode = .ok (granted, next) →
      WatchServe state ⟨.disarmRuntimeControl mode, .ok next.controlRow⟩ (next.at now)
  | acknowledged (expectedVersion : Int) (now : Instant) (granted : Bool) (next : RuntimeState)
      (rows : Option RuntimeControl) : state.clock ≤ now →
      state.acknowledgeRuntimeCancellation expectedVersion = .ok (granted, next) →
      rows = next.reported granted →
      WatchServe state ⟨.acknowledgeRuntimeCancellation expectedVersion, .ok rows⟩ (next.at now)
  | selected (statuses : List OrderStatus) :
      WatchServe state ⟨.selectOrders statuses,
        .ok (state.orders.any fun order => decide (order.status ∈ statuses))⟩ state
  | begun (reason : String) : WatchServe state ⟨.beginCancelAll reason, .ok ()⟩ state
  | ended (verified : Bool) : WatchServe state ⟨.endCancelAll, .ok verified⟩ state
  | other (call : RuntimeCall) (now : Instant) (granted : Bool) (next : RuntimeState) :
      state.clock ≤ now → call.serve state now = .ok (granted, next) →
      WatchServe state ⟨.rpc call, .ok granted⟩ (next.at now)
  | failed (request : WatchRequest) (problem : PyError) :
      WatchServe state ⟨request, .error problem⟩ state
  | unanswered (request : WatchRequest) (problem : PyError) (label : RuntimeLabel)
      (after : RuntimeState) : request.called = some label.call → RuntimeStep state label after →
      WatchServe state ⟨request, .error problem⟩ after

/-- Workers and other processes over one account. -/
abbrev WatchPool (ι κ : Type) : Type :=
  Pool WatchRequest WatchRequest.Response PyError RuntimeControlWatchState RuntimeState (ι ⊕ κ)

section Pools

variable {ι κ : Type}

/-- Each worker makes one call; the calls of one worker one after another are among the
interleavings. -/
def watchPool (start : RuntimeState) (mode : ι → TradingMode)
    (watch : ι → RuntimeControlWatchState) (others : κ → List RuntimeCall) : WatchPool ι κ :=
  .start start fun
    | .inl i => enforceRuntimeControlOnce (mode i) (watch i)
    | .inr j => otherCalls ⟨none, false, false⟩ (others j)

/-! ### What a call cancels and acknowledges -/

/-- The event shows the control as it was read or written. -/
def Shows (event : WatchEvent) (control : RuntimeControl) : Prop :=
  (∃ utcNow, event = ⟨.getRuntimeControl, .ok (control, utcNow)⟩) ∨
    (∃ mode expectedVersion,
      event = ⟨.expireRuntimeControl mode expectedVersion, .ok (some control)⟩) ∨
    ∃ mode, event = ⟨.disarmRuntimeControl mode, .ok control⟩

/-- The last event of the log shows the control, with a pending cancellation. -/
def Latched (log : List WatchEvent) (control : RuntimeControl) : Prop :=
  ∃ front latch, log = front ++ [latch] ∧ Shows latch control ∧ control.cancellationPending = true

/-- The event begins a cancellation. -/
def BeginsCancel (event : WatchEvent) : Prop :=
  ∃ reason, event.request = .beginCancelAll reason

/-- The event acknowledges the latch of a version, which changes the control. -/
def AcknowledgesLatch (before after : RuntimeState) (event : WatchEvent) (version : Int) : Prop :=
  event.request = .acknowledgeRuntimeCancellation version ∧ before.controlRow ≠ after.controlRow

/-- What the calls guarantee in every run of the pool. -/
structure CancelsFirst [DecidableEq ι] [DecidableEq κ] (pool : WatchPool ι κ) : Prop where
  /-- A call that begins a cancellation has just read or written a pending one. -/
  latched : ∀ labels p i event q, Run (Pool.Step WatchServe) pool labels p →
    Pool.Step WatchServe p (.inl i, event) q → BeginsCancel event →
    ∃ control, Latched (p.log (.inl i)) control
  /-- A call that acknowledges a version began, when that version was committed, a
  cancellation that was verified, and the control has not changed since. -/
  acknowledged : ∀ labels p i event q version, Run (Pool.Step WatchServe) pool labels p →
    Pool.Step WatchServe p (.inl i, event) q → AcknowledgesLatch p.shared q.shared event version →
    ∃ before between s reason, labels = before ++ (.inl i, ⟨.beginCancelAll reason, .ok ()⟩) :: between ∧
      (.inl i, ⟨.endCancelAll, .ok true⟩) ∈ between ∧ Run (Pool.Step WatchServe) pool before s ∧
      Run (Pool.Step WatchServe) s ((.inl i, ⟨.beginCancelAll reason, .ok ()⟩) :: between) p ∧
      s.shared.controlRow.version = version ∧ s.shared.controlRow.cancellationPending = true ∧
      ∀ front back mid, (.inl i, ⟨.beginCancelAll reason, .ok ()⟩) :: between = front ++ back →
        Run (Pool.Step WatchServe) s front mid → Run (Pool.Step WatchServe) mid back p →
        mid.shared.controlRow = p.shared.controlRow ∧ mid.shared.controlRow.armed = false

end Pools

/-! ### One call -/

/-- What a call asks after the events before it. -/
def Prudent (log : List WatchEvent) (event : WatchEvent) : Prop :=
  (BeginsCancel event → ∃ control, Latched log control) ∧
    ∀ version, event.request = .acknowledgeRuntimeCancellation version →
      ∃ front reason back control,
        log = front ++ ⟨.beginCancelAll reason, .ok ()⟩ :: ⟨.endCancelAll, .ok true⟩ :: back ∧
          Latched front control ∧ control.version = version

section Calls

variable {mode : TradingMode} {state : RuntimeControlWatchState} {control : RuntimeControl}
  {observed : ObservedControl} {log : List WatchEvent}

/-- A request that neither cancels nor acknowledges is prudent. -/
theorem Prudent.of_other {event : WatchEvent} (cancels : ∀ reason, event.request ≠ .beginCancelAll reason)
    (acknowledges : ∀ version, event.request ≠ .acknowledgeRuntimeCancellation version) :
    Prudent log event :=
  ⟨fun ⟨reason, begins⟩ => absurd begins (cancels reason),
    fun version called => absurd called (acknowledges version)⟩

theorem observeRuntimeControl_obeys : (observeRuntimeControl mode).Obeys Prudent log
    fun observed log => observed.control.cancellationPending = true → Latched log observed.control := by
  refine .bind (M := fun read log => Shows ⟨.getRuntimeControl, .ok read⟩ read.1 ∧
    ∃ front, log = front ++ [⟨.getRuntimeControl, .ok read⟩]) (.ask (fun _ => .of_other nofun nofun)
      fun read => ⟨.inl ⟨read.2, rfl⟩, log, rfl⟩) ?_
  rintro ⟨control, utcNow⟩ log ⟨shows, front, rfl⟩
  dsimp only
  split
  · rename_i armed
    refine .bind (M := fun expired log => ∀ control, expired = some control →
      ∃ front latch, log = front ++ [latch] ∧ Shows latch control)
      (.ask (fun _ => .of_other nofun nofun) ?_) ?_
    · rintro expired control rfl
      exact ⟨_, _, rfl, .inr (.inl ⟨mode, _, rfl⟩)⟩
    · intro expired log shown
      cases expired with
      | some expired =>
          intro pending
          obtain ⟨front, latch, rfl, shows⟩ := shown expired rfl
          exact ⟨front, latch, rfl, shows, pending⟩
      | none =>
          exact fun pending => absurd (pending.symm.trans (control.unlatched_of_armed armed.2.1)) nofun
  · split
    · refine .bind (M := fun disarmed log => ∃ front latch, log = front ++ [latch] ∧
        Shows latch disarmed) (.ask (fun _ => .of_other nofun nofun) fun disarmed =>
          ⟨_, _, rfl, .inr (.inr ⟨mode, rfl⟩)⟩) ?_
      rintro disarmed log ⟨front, latch, rfl, shows⟩ pending
      exact ⟨front, latch, rfl, shows, pending⟩
    · exact fun pending => ⟨front, _, rfl, shows, pending⟩

/-- The latch that is established is shown by the last event. -/
theorem establishLatch_obeys : (establishLatch mode).Obeys Prudent log
    fun latched log => Latched log latched.1 := by
  refine .bind (M := fun disarmed log => ∃ front latch, log = front ++ [latch] ∧ Shows latch disarmed)
    (.ask (fun _ => .of_other nofun nofun) fun disarmed => ⟨_, _, rfl, .inr (.inr ⟨mode, rfl⟩)⟩) ?_
  rintro (disarmed : RuntimeControl) log ⟨front, latch, rfl, shows⟩
  dsimp only
  split
  · rename_i pending
    exact ⟨front, latch, rfl, shows, pending⟩
  · trivial

/-- A call in canary or live mode that goes on to cancel has just seen the latch. -/
theorem latchRuntimeControl_obeys (real : mode.RealMoney)
    (seen : observed.control.cancellationPending = true → Latched log observed.control) :
    (latchRuntimeControl mode state observed).Obeys Prudent log
      fun latched log => latched.2.cancellationPending = true → Latched log latched.1 := by
  refine .bind (M := fun (latched : RuntimeControl × Bool) log =>
    Latched log latched.1 ∨ latched.1 = observed.control ∧ ¬ (state.stillPending observed.control || observed.control.cancellationPending ||
      state.transitionRequiresCancel mode observed) = true) ?_ ?_
  · split
    · exact establishLatch_obeys.mono fun latched log shown => .inl shown
    · rename_i idle
      by_cases pending : observed.control.cancellationPending = true
      · exact .inl (seen pending)
      · refine .inr ⟨rfl, fun required => idle ⟨real, required, ?_⟩⟩
        exact Bool.eq_false_iff.mpr pending
  · rintro ⟨control, armed⟩ log latched required
    rcases latched with shown | ⟨rfl, idle⟩
    · exact shown
    · refine absurd ?_ idle
      revert required
      simp only [Bool.or_eq_true, Bool.and_eq_true]
      tauto

theorem hasUnresolvedLiveOrders_obeys :
    hasUnresolvedLiveOrders.Obeys Prudent log fun _ later => ∃ back, later = log ++ back := by
  refine .bind (M := fun _ later => ∃ back, later = log ++ back)
    (.ask (fun _ => .of_other nofun nofun) fun _ => ⟨_, rfl⟩) ?_
  rintro (unknown : Bool) log' ⟨back, rfl⟩
  cases unknown with
  | true => exact ⟨back, rfl⟩
  | false => exact .ask (fun _ => .of_other nofun nofun) fun _ => ⟨_, List.append_assoc _ _ _⟩

/-- A cancellation under a latch acknowledges no other version. -/
theorem cancelAndAcknowledge_obeys {reason : String} (latched : Latched log control) :
    (cancelAndAcknowledge control state reason).Obeys Prudent log fun _ _ => True := by
  refine .bind (M := fun _ later => later = log ++ [⟨.beginCancelAll reason, .ok ()⟩])
    (.ask (fun _ => ⟨fun _ => ⟨control, latched⟩, nofun⟩) fun _ => rfl) ?_
  rintro - log' rfl
  refine .bind (M := fun verified later => later = log ++ [⟨.beginCancelAll reason, .ok ()⟩] ++
    [⟨.endCancelAll, .ok verified⟩]) (.ask (fun _ => .of_other nofun nofun) fun _ => rfl) ?_
  rintro (verified : Bool) log' rfl
  dsimp only
  split
  · trivial
  · rename_i cancelled
    have verified : verified = true := by simpa using cancelled
    subst verified
    split
    · trivial
    · refine .bind hasUnresolvedLiveOrders_obeys ?_
      rintro unresolved log' ⟨back, rfl⟩
      split
      · trivial
      · refine .bind (M := fun _ _ => True) (.ask (fun _ => ⟨nofun, ?_⟩) fun _ => trivial) ?_
        · rintro version called
          cases called
          exact ⟨log, reason, back, control, by simp, latched, rfl⟩
        · intro answer log' _
          split <;> trivial

/-- A call in canary or live mode is prudent at each of its requests. -/
theorem enforceRuntimeControlOnce_obeys (real : mode.RealMoney) :
    (enforceRuntimeControlOnce mode state).Obeys Prudent log fun _ _ => True := by
  refine .bind observeRuntimeControl_obeys fun observed log seen => ?_
  refine .bind (latchRuntimeControl_obeys real seen) ?_
  rintro ⟨control, state⟩ log latched
  dsimp only
  split
  · trivial
  · rename_i pending
    exact cancelAndAcknowledge_obeys (latched (by simpa using pending))

end Calls

/-! ### The control between two requests -/

section Serves

variable {state after : RuntimeState} {event : WatchEvent} {control : RuntimeControl} {version : Int}

/-- Serving a request keeps the state, or is a step of the account. -/
theorem WatchServe.step (served : WatchServe state event after) :
    after = state ∨ ∃ label, RuntimeStep state label after := by
  cases served with
  | observed => exact .inl rfl
  | expired mode expectedVersion now granted next rows later done =>
      exact .inr ⟨⟨.expire mode expectedVersion, now, granted⟩, .served next later done⟩
  | disarmed mode now granted next later done =>
      exact .inr ⟨⟨.disarm mode, now, granted⟩, .served next later done⟩
  | acknowledged expectedVersion now granted next rows later done =>
      exact .inr ⟨⟨.acknowledge expectedVersion, now, granted⟩, .served next later done⟩
  | selected => exact .inl rfl
  | begun => exact .inl rfl
  | ended => exact .inl rfl
  | other call now granted next later done =>
      exact .inr ⟨⟨call, now, granted⟩, .served next later done⟩
  | failed => exact .inl rfl
  | unanswered request problem label after called step => exact .inr ⟨label, step⟩

theorem WatchServe.fenced (served : WatchServe state event after) :
    Fenced (fun state => state.controlRow.version) RuntimeState.controlRow state after := by
  rcases served.step with rfl | ⟨label, step⟩
  · exact .refl _
  · exact step.control_fenced

/-- What an event shows is the control after it. -/
theorem WatchServe.shown (served : WatchServe state event after) (shows : Shows event control) :
    after.controlRow = control := by
  rcases shows with ⟨utcNow, rfl⟩ | ⟨mode, expectedVersion, rfl⟩ | ⟨mode, rfl⟩
  · cases served
    rfl
  · cases served with
    | expired _ _ now granted next rows later done reported =>
        cases granted with
        | true => exact (Option.some.inj reported).symm
        | false => cases reported
  · cases served
    rfl

/-- An acknowledgement that changes the control found the version that it names. -/
theorem WatchServe.acknowledged_version (served : WatchServe state event after)
    (acknowledges : AcknowledgesLatch state after event version) :
    state.controlRow.version = version := by
  obtain ⟨called, changed⟩ := acknowledges
  have found : ∀ granted next,
      state.acknowledgeRuntimeCancellation version = .ok (granted, next) →
      state.controlRow ≠ next.controlRow → state.controlRow.version = version := by
    intro granted next done changed
    unfold RuntimeState.acknowledgeRuntimeCancellation at done
    split at done
    · cases done
      exact absurd rfl changed
    · rename_i control here
      split at done
      · rename_i ready
        simp only [RuntimeState.controlRow, here, Option.getD_some]
        exact ready.1.1
      · cases done
        exact absurd rfl changed
  cases served with
  | acknowledged expectedVersion now granted next rows later done =>
      cases called
      exact found granted next done changed
  | failed => exact absurd rfl changed
  | unanswered request problem label after named step =>
      obtain rfl : request = .acknowledgeRuntimeCancellation version := called
      obtain ⟨call, now, granted⟩ := label
      cases named
      cases step with
      | served next later done => exact found granted next done changed
      | rolledBack => exact absurd rfl changed
  | _ => cases called

end Serves

/-! ### Whole runs -/

section Runs

variable {ι κ : Type} [DecidableEq ι] [DecidableEq κ] {start : RuntimeState}
  {mode : ι → TradingMode} {watch : ι → RuntimeControlWatchState} {others : κ → List RuntimeCall}
  {pool p q : WatchPool ι κ} {labels : List ((ι ⊕ κ) × WatchEvent)}

theorem controlFenced_of_run (run : Run (Pool.Step WatchServe) p labels q) :
    Fenced (fun pool : WatchPool ι κ => pool.shared.controlRow.version)
      (fun pool => pool.shared.controlRow) p q := by
  exact .of_run (fun p label q step => step.serves.fenced) run

/-- Every request of a worker is prudent. -/
theorem prudent_of_run (real : ∀ i, (mode i).RealMoney) {i : ι} {event : WatchEvent}
    (run : Run (Pool.Step WatchServe) (watchPool start mode watch others) labels p)
    (step : Pool.Step WatchServe p (.inl i, event) q) : Prudent (p.log (.inl i)) event := by
  let Good : ι ⊕ κ → List WatchEvent → WatchEvent → Prop
    | .inl _ => Prudent
    | .inr _ => fun _ _ => True
  have obeys := (Pool.run_obeys (G := Good) (Q := fun _ _ _ => True) (fun
    | .inl i => enforceRuntimeControlOnce_obeys (real i)
    | .inr j => Program.obeys_true _) run).1 (.inl i)
  obtain ⟨resume, shared, here, -, -⟩ := step
  rw [here] at obeys
  exact (obeys event.answer).1

/-- A worker cancels under a latch, and acknowledges only a latch that has stood since
before a verified cancellation of its own, in every run of any number of workers and
other processes. -/
theorem cancels_first (real : ∀ i, (mode i).RealMoney) :
    CancelsFirst (watchPool start mode watch others) where
  latched := by
    intro labels p i event q run step begins
    exact (prudent_of_run real run step).1 begins
  acknowledged := by
    intro labels p i event q version run step acknowledges
    obtain ⟨front, reason, back, control, logged, ⟨front', latch, rfl, shows, pending⟩, current⟩ :=
      (prudent_of_run real run step).2 version acknowledges.1
    obtain ⟨before, between, s, s', rfl, reached, begins, onwards, seen, rest⟩ :=
      Pool.split_log run rfl logged
    obtain ⟨-, later, r, latched, -, -, shown, meanwhile, -, -⟩ := Pool.split_log reached rfl seen
    have row : latched.shared.controlRow = control := shown.serves.shown shows
    have named : p.shared.controlRow.version = version :=
      step.serves.acknowledged_version acknowledges
    -- the version has not moved from the latch to the acknowledgement, so nothing has
    have stands : ∀ {mid : WatchPool ι κ} {first second : List ((ι ⊕ κ) × WatchEvent)},
        Run (Pool.Step WatchServe) latched first mid → Run (Pool.Step WatchServe) mid second p →
        mid.shared.controlRow = control := by
      intro mid first second before after
      have upTo := controlFenced_of_run before
      have onwards := (controlFenced_of_run after).stamp_le
      have same : latched.shared.controlRow.version = p.shared.controlRow.version := by
        rw [row, named, current]
      have still : latched.shared.controlRow.version = mid.shared.controlRow.version :=
        le_antisymm upTo.stamp_le (onwards.trans same.ge)
      exact (upTo.value_eq still).symm.trans row
    have whole : Run (Pool.Step WatchServe) s ((.inl i, ⟨.beginCancelAll reason, .ok ()⟩) :: between)
        p := .cons begins onwards
    have here : s.shared.controlRow = control := stands meanwhile whole
    have finally' : p.shared.controlRow = control := stands (meanwhile.trans whole) (.refl p)
    refine ⟨before, between, s, reason, rfl, ?_, reached, whole, by rw [here, current],
      by rw [here, pending], ?_⟩
    · have member : (⟨.endCancelAll, .ok true⟩ : WatchEvent) ∈ Pool.own (.inl i) between := by
        rw [rest]
        exact List.mem_cons_self
      exact Pool.mem_own.mp member
    · intro first second mid split upTo after
      have middle := stands (meanwhile.trans upTo) after
      refine ⟨middle.trans finally'.symm, ?_⟩
      rw [middle, Bool.eq_false_iff]
      exact fun armed => absurd (pending.symm.trans (control.unlatched_of_armed armed)) nofun

end Runs

/-- An account whose store answers at once and whose cancellations verify. -/
def answerWatch (state : RuntimeState) :
    (request : WatchRequest) → Except PyError request.Response × RuntimeState
  | .getRuntimeControl => (.ok (state.controlRow, state.clock), state)
  | .expireRuntimeControl mode expectedVersion =>
      match state.expireRuntimeControl mode expectedVersion state.clock with
      | .ok (granted, next) => (.ok (next.reported granted), next)
      | .error problem => (.error (.apiError problem), state)
  | .disarmRuntimeControl mode =>
      match state.disarmRuntimeControl mode with
      | .ok (_, next) => (.ok next.controlRow, next)
      | .error problem => (.error (.apiError problem), state)
  | .acknowledgeRuntimeCancellation expectedVersion =>
      match state.acknowledgeRuntimeCancellation expectedVersion with
      | .ok (granted, next) => (.ok (next.reported granted), next)
      | .error problem => (.error (.apiError problem), state)
  | .selectOrders statuses =>
      (.ok (state.orders.any fun order => decide (order.status ∈ statuses)), state)
  | .beginCancelAll _ => (.ok (), state)
  | .endCancelAll => (.ok true, state)
  | .rpc call =>
      match call.serve state state.clock with
      | .ok (granted, next) => (.ok granted, next)
      | .error problem => (.error (.apiError problem), state)

/-- A worker and a process that arms. The first call of the worker latches, cancels and
acknowledges. -/
theorem first_call_cancels :
    CancelsFirst (watchPool freshAccount (fun _ : Unit => .live) (fun _ => ⟨none, false, false⟩)
      (fun _ : Unit => [.arm .live 60000000 1])) ∧
    ((enforceRuntimeControlOnce .live ⟨none, false, false⟩).run answerWatch freshAccount).2.1 =
      .ok ⟨some 3, false, false⟩ :=
  ⟨cancels_first fun _ => .inr rfl, by decide⟩

end Polybot
