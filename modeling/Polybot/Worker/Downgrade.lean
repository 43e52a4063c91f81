import Polybot.Worker.Shutdown

/-!
The cleanup before a former live deployment runs on paper (`_clear_personal_live_downgrade`
of `personal_cycle.py`).

The call reads the control, disarms it, cancels on the exchange until no order is listed,
acknowledges the latch of its disarm and aligns the mode, and any of these may fail or answer
anything. `downgrade_cleared_safely` lists the runs in which the cleanup is confirmed.
-/

namespace Polybot

open Interaction Program

/-! ### Requests -/

/-- What a cleanup awaits. -/
inductive DowngradeRequest where
  | getRuntimeControl (accountId : String)
  | hasUnresolvedLiveOrders (accountId : String)
  | validateWorkerLease (accountId ownerId : String) (fencingToken : Int)
  | disarmRuntimeControl (accountId : String) (mode : TradingMode)
  | acknowledgeRuntimeCancellation (accountId : String) (expectedVersion : Int)
  | openClient (privateKey : String) (depositWallet : Option String)
  | cancelAll
  | sleep (seconds : ℚ)
  | listOpenOrders
  | closeClient

/-- What an answer is. -/
abbrev DowngradeRequest.Response : DowngradeRequest → Type
  | getRuntimeControl _ => RuntimeControl
  | hasUnresolvedLiveOrders _ => Bool
  | validateWorkerLease _ _ _ => Bool
  | disarmRuntimeControl _ _ => RuntimeControl
  | acknowledgeRuntimeCancellation _ _ => Option RuntimeControl
  | openClient _ _ => Unit
  | cancelAll => Unit
  | sleep _ => Unit
  | listOpenOrders => List String
  | closeClient => Unit

abbrev DowngradeProgram (α : Type) : Type :=
  Program DowngradeRequest DowngradeRequest.Response PyError α

abbrev DowngradeEvent : Type :=
  Event DowngradeRequest DowngradeRequest.Response PyError

/-- Await the answer of a request. -/
abbrev askDowngrade (request : DowngradeRequest) : DowngradeProgram request.Response :=
  Program.ask request

/-! ### The call -/

namespace RuntimeControl

variable (control : RuntimeControl)

/-- `historical_live`: the account may have traded, or may still trade. -/
def HistoricalLive (unresolved : Bool) : Prop :=
  control.mode.RealMoney ∨ control.armed = true ∨ control.acceptNewIntents = true ∨
    control.killSwitch = false ∨ control.cancellationPending = true ∨ unresolved = true

instance (unresolved : Bool) : Decidable (control.HistoricalLive unresolved) :=
  inferInstanceAs (Decidable (_ ∨ _ ∨ _ ∨ _ ∨ _ ∨ _))

def historicalMode : TradingMode :=
  if control.mode.RealMoney then control.mode else .live

/-- The control was disarmed in its mode, and the cancellation is still to come. -/
def AwaitsCancellation : Prop :=
  control.cancellationPending = true ∧ control.armed = false ∧ control.acceptNewIntents = false ∧
    control.killSwitch = true ∧ control.mode = control.historicalMode

instance : Decidable control.AwaitsCancellation :=
  inferInstanceAs (Decidable (_ ∧ _ ∧ _ ∧ _ ∧ _))

/-- What the control is to be after a cleanup for a mode. -/
def AlignedTo (mode : TradingMode) : Prop :=
  control.mode = mode ∧ control.armed = false ∧ control.acceptNewIntents = false ∧
    control.killSwitch = true ∧ control.cancellationPending = false

instance (mode : TradingMode) : Decidable (control.AlignedTo mode) :=
  inferInstanceAs (Decidable (_ ∧ _ ∧ _ ∧ _ ∧ _))

end RuntimeControl

/-- The arguments of a cleanup, of the settings those that it reads. -/
structure Downgrade where
  accountId : String
  mode : TradingMode
  privateKey : Option String
  depositWallet : Option String
  ownerId : String
  fencingToken : Int

namespace Downgrade

variable (downgrade : Downgrade)

abbrev validateRequest : DowngradeRequest :=
  .validateWorkerLease downgrade.accountId downgrade.ownerId downgrade.fencingToken

/-- The listings of the open orders, until one is empty. -/
def listOpenOrders (openOrders : List String) : List ℚ → DowngradeProgram (List String)
  | [] => pure openOrders
  | delay :: delays => do
      let _ ← (if delay = 0 then pure () else askDowngrade (.sleep delay))
      let (openOrders : List String) ← askDowngrade .listOpenOrders
      if openOrders = [] then pure [] else listOpenOrders openOrders delays

/-- The orders that are left once everything was cancelled. -/
def cancelAll : DowngradeProgram (List String) := do
  let _ ← askDowngrade .cancelAll
  listOpenOrders [] [0, 1 / 5, 1 / 2]

/-- Cancel with a client of the former wallet, which is closed in every case. -/
def withClient (privateKey : String) : DowngradeProgram (List String) := do
  let _ ← askDowngrade (.openClient privateKey downgrade.depositWallet)
  let outcome ← cancelAll.attempt
  let _ ← (askDowngrade .closeClient).attempt
  Program.lift outcome

/-- Acknowledge the latch of the disarm, and align the mode. -/
def acknowledge (disarmed : RuntimeControl) : DowngradeProgram Bool := do
  let (valid : Bool) ← askDowngrade downgrade.validateRequest
  if valid = false then pure false
  else do
    let (unresolved : Bool) ← askDowngrade (.hasUnresolvedLiveOrders downgrade.accountId)
    if unresolved = true then pure false
    else do
      let (acknowledged : Option RuntimeControl) ←
        askDowngrade (.acknowledgeRuntimeCancellation downgrade.accountId disarmed.version)
      if acknowledged = none then pure false
      else do
        let (held : Bool) ← askDowngrade downgrade.validateRequest
        if held = false then pure false
        else do
          let (aligned : RuntimeControl) ←
            askDowngrade (.disarmRuntimeControl downgrade.accountId downgrade.mode)
          let (kept : Bool) ← askDowngrade downgrade.validateRequest
          pure (kept && decide (aligned.AlignedTo downgrade.mode))

/-- The cleanup of a former live account. -/
def cleanUp (control : RuntimeControl) : DowngradeProgram Bool := do
  let disarmed ←
    (if control.AwaitsCancellation then pure control
    else askDowngrade (.disarmRuntimeControl downgrade.accountId control.historicalMode))
  match downgrade.privateKey with
  | none => pure false
  | some privateKey => do
      let openOrders ← downgrade.withClient privateKey
      if openOrders ≠ [] then pure false else downgrade.acknowledge disarmed

/-- An account that never was live takes the mode over. -/
def align (control : RuntimeControl) : DowngradeProgram Bool :=
  if control.mode = downgrade.mode then pure true
  else do
    let (aligned : RuntimeControl) ←
      askDowngrade (.disarmRuntimeControl downgrade.accountId downgrade.mode)
    if aligned.mode = downgrade.mode ∧ aligned.armed = false ∧ aligned.killSwitch = true then
      askDowngrade downgrade.validateRequest
    else pure false

/-- The body of the `try`. -/
def attemptClear : DowngradeProgram Bool := do
  let (control : RuntimeControl) ← askDowngrade (.getRuntimeControl downgrade.accountId)
  let (unresolved : Bool) ← askDowngrade (.hasUnresolvedLiveOrders downgrade.accountId)
  let (valid : Bool) ← askDowngrade downgrade.validateRequest
  if valid = false then pure false
  else if control.HistoricalLive unresolved then downgrade.cleanUp control
  else downgrade.align control

/-- `_clear_personal_live_downgrade`. -/
def clearPersonalLiveDowngrade : DowngradeProgram Bool :=
  if downgrade.mode.RealMoney then pure true
  else do
    match ← downgrade.attemptClear.attempt with
    | .ok cleared => pure cleared
    | .error _ => pure false

end Downgrade

/-! ### Confirmed cleanups -/

section Confirmed

variable (downgrade : Downgrade)

/-- The events between the cancellation and its last listing. -/
def Listings (log : List DowngradeEvent) : Prop :=
  ∀ event ∈ log, (∃ seconds, event.request = .sleep seconds) ∨ event.request = .listOpenOrders

/-- How the latch of a control comes to be held. -/
inductive Disarms (control : RuntimeControl) : List DowngradeEvent → RuntimeControl → Prop where
  | already : control.AwaitsCancellation → Disarms control [] control
  | now (disarmed : RuntimeControl) : Disarms control
      [⟨.disarmRuntimeControl downgrade.accountId control.historicalMode, .ok disarmed⟩] disarmed

/-- The events after the control, the unresolved orders and the lease were read. -/
inductive ConfirmedSafely (control : RuntimeControl) (unresolved : Bool) :
    List DowngradeEvent → Prop where
  /-- no sign of a live past, and the mode of the control is the one asked for -/
  | aligned : ¬ control.HistoricalLive unresolved → control.mode = downgrade.mode →
      ConfirmedSafely control unresolved []
  /-- no sign of a live past, and the control takes the mode over under the lease -/
  | realigned {aligned : RuntimeControl} : ¬ control.HistoricalLive unresolved →
      aligned.mode = downgrade.mode ∧ aligned.armed = false ∧ aligned.killSwitch = true →
      ConfirmedSafely control unresolved
        [⟨.disarmRuntimeControl downgrade.accountId downgrade.mode, .ok aligned⟩,
          ⟨downgrade.validateRequest, .ok true⟩]
  /-- a live past: the latch is held, everything is cancelled until no order is listed, and
  the latch that is acknowledged is the one of the disarm -/
  | cleaned {privateKey : String} {disarmed acknowledged aligned : RuntimeControl}
      {disarms listings : List DowngradeEvent} {closed : Except PyError Unit} :
      control.HistoricalLive unresolved → downgrade.privateKey = some privateKey →
      Disarms downgrade control disarms disarmed → Listings listings →
      aligned.AlignedTo downgrade.mode →
      ConfirmedSafely control unresolved
        (disarms ++
          ([⟨.openClient privateKey downgrade.depositWallet, .ok ()⟩, ⟨.cancelAll, .ok ()⟩] ++
            listings ++ [⟨.listOpenOrders, .ok []⟩, ⟨.closeClient, closed⟩]) ++
          [⟨downgrade.validateRequest, .ok true⟩,
            ⟨.hasUnresolvedLiveOrders downgrade.accountId, .ok false⟩,
            ⟨.acknowledgeRuntimeCancellation downgrade.accountId disarmed.version,
              .ok (some acknowledged)⟩,
            ⟨downgrade.validateRequest, .ok true⟩,
            ⟨.disarmRuntimeControl downgrade.accountId downgrade.mode, .ok aligned⟩,
            ⟨downgrade.validateRequest, .ok true⟩])

/-- What a cleanup did before it was confirmed. -/
def DowngradeConfirmed (log : List DowngradeEvent) : Prop :=
  ∃ control unresolved rest,
    log = ⟨.getRuntimeControl downgrade.accountId, .ok control⟩ ::
      ⟨.hasUnresolvedLiveOrders downgrade.accountId, .ok unresolved⟩ ::
        ⟨downgrade.validateRequest, .ok true⟩ :: rest ∧
      ConfirmedSafely downgrade control unresolved rest

end Confirmed

/-! ### The parts of a confirmed cleanup -/

section Parts

variable {downgrade : Downgrade} {log : List DowngradeEvent}

/-- Every answer and every failure is possible. -/
abbrev Confirms {α : Type} (program : DowngradeProgram α) (log : List DowngradeEvent)
    (value : α) : Prop :=
  Execution (fun _ => True) program log (.ok value)

theorem Confirms.ask {request : DowngradeRequest} {α : Type} {value : α}
    {next : request.Response → DowngradeProgram α}
    (confirms : Confirms (askDowngrade request >>= next) log value) :
    ∃ response back,
      log = ⟨request, .ok response⟩ :: back ∧ Confirms (next response) back value :=
  Execution.ask_bind_ok confirms

theorem Confirms.last {request : DowngradeRequest} {response : request.Response}
    (confirms : Confirms (askDowngrade request) log response) :
    log = [⟨request, .ok response⟩] :=
  (Execution.ask_ok_iff.mp confirms).1

theorem Confirms.done {α : Type} {value result : α}
    (confirms : Confirms (pure value : DowngradeProgram α) log result) :
    log = [] ∧ value = result :=
  Execution.done_ok_iff.mp confirms

/-- A step that has to hold. -/
theorem Confirms.unless {condition : Prop} [Decidable condition] {next : DowngradeProgram Bool}
    (confirms : Confirms (if condition then pure false else next) log true) :
    ¬ condition ∧ Confirms next log true := by
  split at confirms
  · cases (Confirms.done confirms).2
  · exact ⟨‹_›, confirms⟩

/-- A listing ends with an empty one. -/
theorem listOpenOrders_confirms {openOrders : List String} {delays : List ℚ}
    (listed : delays ≠ [] ∨ openOrders ≠ [])
    (confirms : Confirms (Downgrade.listOpenOrders openOrders delays) log []) :
    ∃ listings, Listings listings ∧ log = listings ++ [⟨.listOpenOrders, .ok []⟩] := by
  induction delays generalizing openOrders log with
  | nil =>
      obtain ⟨-, same⟩ := Confirms.done confirms
      exact (listed.resolve_left (fun other => other rfl) same).elim
  | cons delay delays ih =>
      unfold Downgrade.listOpenOrders at confirms
      obtain ⟨waits, back, _, rfl, waiting, rest⟩ := Execution.bind_ok_iff.mp confirms
      have waited : Listings waits := by
        split at waiting
        · obtain ⟨rfl, -⟩ := Confirms.done waiting
          intro event member
          cases member
        · obtain rfl := Confirms.last waiting
          intro event member
          obtain rfl := List.mem_singleton.mp member
          exact .inl ⟨delay, rfl⟩
      obtain ⟨found, back, rfl, onward⟩ := Confirms.ask rest
      dsimp only at onward
      by_cases empty : found = []
      · rw [if_pos empty] at onward
        obtain ⟨rfl, -⟩ := Confirms.done onward
        rw [empty]
        exact ⟨waits, waited, rfl⟩
      · rw [if_neg empty] at onward
        obtain ⟨listings, more, rfl⟩ := ih (.inr empty) onward
        refine ⟨waits ++ ⟨.listOpenOrders, .ok found⟩ :: listings, ?_, ?_⟩
        · intro event member
          obtain early | late := List.mem_append.mp member
          · exact waited event early
          · obtain rfl | later := List.mem_cons.mp late
            · exact .inr rfl
            · exact more event later
        · rw [List.append_assoc, List.cons_append]

theorem withClient_confirms {privateKey : String}
    (confirms : Confirms (downgrade.withClient privateKey) log []) :
    ∃ listings closed, Listings listings ∧
      log = [⟨.openClient privateKey downgrade.depositWallet, .ok ()⟩, ⟨.cancelAll, .ok ()⟩] ++
        listings ++ [⟨.listOpenOrders, .ok []⟩, ⟨.closeClient, closed⟩] := by
  unfold Downgrade.withClient at confirms
  obtain ⟨_, back, rfl, opened⟩ := confirms.ask
  obtain ⟨front, back, outcome, rfl, body, leaving⟩ := Execution.attempt_bind_cases opened
  obtain ⟨close, back, closed, rfl, closing, raising⟩ := Execution.attempt_bind_cases leaving
  obtain ⟨rfl, -⟩ := Execution.ask_cases closing
  obtain ⟨rfl, rfl⟩ := Execution.lift_ok_iff.mp raising
  obtain ⟨_, back, rfl, listing⟩ := Confirms.ask body
  obtain ⟨listings, only, rfl⟩ := listOpenOrders_confirms (.inl (List.cons_ne_nil _ _)) listing
  exact ⟨listings, closed, only, by simp⟩

theorem acknowledge_confirms {disarmed : RuntimeControl}
    (confirms : Confirms (downgrade.acknowledge disarmed) log true) :
    ∃ acknowledged aligned, aligned.AlignedTo downgrade.mode ∧
      log = [⟨downgrade.validateRequest, .ok true⟩,
        ⟨.hasUnresolvedLiveOrders downgrade.accountId, .ok false⟩,
        ⟨.acknowledgeRuntimeCancellation downgrade.accountId disarmed.version,
          .ok (some acknowledged)⟩,
        ⟨downgrade.validateRequest, .ok true⟩,
        ⟨.disarmRuntimeControl downgrade.accountId downgrade.mode, .ok aligned⟩,
        ⟨downgrade.validateRequest, .ok true⟩] := by
  unfold Downgrade.acknowledge at confirms
  obtain ⟨valid, back, rfl, afterLease⟩ := Confirms.ask confirms
  dsimp only at afterLease
  obtain ⟨validated, toOrders⟩ := Confirms.unless afterLease
  obtain rfl := Bool.eq_true_of_not_eq_false validated
  obtain ⟨unresolved, back, rfl, afterOrders⟩ := Confirms.ask toOrders
  obtain ⟨resolved, toLatch⟩ := Confirms.unless afterOrders
  obtain rfl := Bool.eq_false_of_not_eq_true resolved
  obtain ⟨answer, back, rfl, afterLatch⟩ := Confirms.ask toLatch
  obtain ⟨answered, toFence⟩ := Confirms.unless afterLatch
  obtain ⟨acknowledged, rfl⟩ := Option.ne_none_iff_exists'.mp answered
  obtain ⟨held, back, rfl, afterFence⟩ := Confirms.ask toFence
  obtain ⟨holds, toAlign⟩ := Confirms.unless afterFence
  obtain rfl := Bool.eq_true_of_not_eq_false holds
  obtain ⟨aligned, back, rfl, afterAlign⟩ := Confirms.ask toAlign
  obtain ⟨kept, back, rfl, last⟩ := Confirms.ask afterAlign
  obtain ⟨rfl, both⟩ := Confirms.done last
  obtain ⟨rfl, fits⟩ := Bool.and_eq_true_iff.mp both
  exact ⟨acknowledged, aligned, of_decide_eq_true fits, rfl⟩

theorem cleanUp_confirms {control : RuntimeControl} {unresolved : Bool}
    (historical : control.HistoricalLive unresolved)
    (confirms : Confirms (downgrade.cleanUp control) log true) :
    ConfirmedSafely downgrade control unresolved log := by
  unfold Downgrade.cleanUp at confirms
  obtain ⟨disarms, back, disarmed, rfl, first, afterDisarm⟩ := Execution.bind_ok_iff.mp confirms
  have disarming : Disarms downgrade control disarms disarmed := by
    split at first
    · rename_i awaits
      obtain ⟨rfl, rfl⟩ := Confirms.done first
      exact .already awaits
    · obtain rfl := Confirms.last first
      exact .now disarmed
  cases key : downgrade.privateKey with
  | none =>
      rw [key] at afterDisarm
      cases (Confirms.done afterDisarm).2
  | some privateKey =>
      rw [key] at afterDisarm
      obtain ⟨cancelling, back, openOrders, rfl, cancels, afterCancel⟩ :=
        Execution.bind_ok_iff.mp afterDisarm
      obtain ⟨cleared, toLease⟩ := Confirms.unless afterCancel
      obtain rfl := not_not.mp cleared
      obtain ⟨listings, closed, only, rfl⟩ := withClient_confirms cancels
      obtain ⟨acknowledged, aligned, fits, rfl⟩ := acknowledge_confirms toLease
      rw [← List.append_assoc]
      exact .cleaned historical key disarming only fits

theorem align_confirms {control : RuntimeControl} {unresolved : Bool}
    (idle : ¬ control.HistoricalLive unresolved)
    (confirms : Confirms (downgrade.align control) log true) :
    ConfirmedSafely downgrade control unresolved log := by
  unfold Downgrade.align at confirms
  split at confirms
  · rename_i same
    obtain ⟨rfl, -⟩ := Confirms.done confirms
    exact .aligned idle same
  · obtain ⟨aligned, back, rfl, onward⟩ := Confirms.ask confirms
    dsimp only at onward
    split at onward
    · rename_i fits
      obtain rfl := Confirms.last onward
      exact .realigned idle fits
    · cases (Confirms.done onward).2

end Parts

/-- A cleanup for a simulated mode is only confirmed in these runs, whatever it is answered and
whatever fails. -/
theorem downgrade_cleared_safely {downgrade : Downgrade} {log : List DowngradeEvent}
    (simulated : ¬ downgrade.mode.RealMoney)
    (cleared : Execution (fun _ => True) downgrade.clearPersonalLiveDowngrade log (.ok true)) :
    DowngradeConfirmed downgrade log := by
  unfold Downgrade.clearPersonalLiveDowngrade at cleared
  rw [if_neg simulated] at cleared
  obtain ⟨front, back, outcome, rfl, body, rest⟩ := Execution.attempt_bind_cases cleared
  cases outcome with
  | error failure => cases (Confirms.done rest).2
  | ok answer =>
      obtain ⟨rfl, rfl⟩ := Confirms.done rest
      rw [List.append_nil]
      obtain ⟨control, back, rfl, afterControl⟩ := Confirms.ask body
      obtain ⟨unresolved, back, rfl, afterOrders⟩ := Confirms.ask afterControl
      obtain ⟨valid, back, rfl, afterLease⟩ := Confirms.ask afterOrders
      dsimp only at afterLease
      obtain ⟨validated, onward⟩ := Confirms.unless afterLease
      obtain rfl := Bool.eq_true_of_not_eq_false validated
      refine ⟨control, unresolved, back, rfl, ?_⟩
      split at onward
      · rename_i historical
        exact cleanUp_confirms historical onward
      · rename_i idle
        exact align_confirms idle onward

/-- The store of an account and the orders on its exchange, where the client does not close. -/
def answerDowngrade (store : RuntimeState × List String) :
    (request : DowngradeRequest) → Except PyError request.Response × RuntimeState × List String
  | .getRuntimeControl _ => (.ok store.1.controlRow, store)
  | .hasUnresolvedLiveOrders _ => (.ok (store.1.orders.any RuntimeState.unresolved), store)
  | .validateWorkerLease _ ownerId fencingToken =>
      (.ok (validateWorkerLease store.1.lease ownerId fencingToken store.1.clock), store)
  | .disarmRuntimeControl _ mode =>
      match store.1.disarmRuntimeControl mode with
      | .ok (_, next) => (.ok next.controlRow, next, store.2)
      | .error problem => (.error (.apiError problem), store)
  | .acknowledgeRuntimeCancellation _ expectedVersion =>
      match store.1.acknowledgeRuntimeCancellation expectedVersion with
      | .ok (granted, next) => (.ok (next.reported granted), next, store.2)
      | .error problem => (.error (.apiError problem), store)
  | .openClient _ _ => (.ok (), store)
  | .cancelAll => (.ok (), store)
  | .sleep _ => (.ok (), store)
  -- An order leaves the book after the first listing.
  | .listOpenOrders => (.ok store.2, store.1, store.2.drop 1)
  | .closeClient => (.error (.foreign "OSError"), store)

/-- A worker that is back on paper. -/
def formerLive : Downgrade :=
  ⟨"account", .paper, some "0x01", none, "worker-1", 1⟩

/-- Its account, still in live mode and with an order on the exchange. -/
def formerAccount : RuntimeState × List String :=
  ({ leasedAccount.1 with control := some (RuntimeControl.fresh.stopped .live false) }, ["order"])

theorem formerLive_returns :
    (formerLive.clearPersonalLiveDowngrade.run answerDowngrade formerAccount).2.1 = .ok true := by
  decide +kernel

theorem formerLive_confirmed : DowngradeConfirmed formerLive
    (formerLive.clearPersonalLiveDowngrade.run answerDowngrade formerAccount).1 :=
  downgrade_cleared_safely (by decide)
    (formerLive_returns ▸ run_execution (fun _ _ => trivial) _ _)

end Polybot
