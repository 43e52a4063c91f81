import Polybot.Control.Watch
import Polybot.Interaction.Stage

/-!
The shutdown of a real-money worker (`_shutdown_live_safely` of `worker.py`).

The call persists a disarm, cancels on the exchange, acknowledges the latch of its disarm
and releases its lease, with any of the calls of the store and the broker failing at any
attempt. `shutdown_hands_over_safely` says that the release is the last call of the one
sequence in which every step before it succeeded, and that a cancellation is attempted in
every case.
-/

namespace Polybot

open Interaction Program

/-! ### Requests -/

/-- What a shutdown awaits. -/
inductive ShutdownRequest where
  | disarmRuntimeControl (accountId : String) (mode : TradingMode)
  | validateWorkerLease (accountId ownerId : String) (fencingToken : Int)
  | cancelAll (reason : String)
  | hasUnresolvedLiveOrders (accountId : String)
  | acknowledgeRuntimeCancellation (accountId : String) (expectedVersion : Int)
  | releaseWorkerLease (accountId ownerId : String) (fencingToken : Int)
  | sleep (seconds : ℚ)

/-- What an answer is. -/
abbrev ShutdownRequest.Response : ShutdownRequest → Type
  | disarmRuntimeControl _ _ => RuntimeControl
  | validateWorkerLease _ _ _ => Bool
  | cancelAll _ => Bool
  | hasUnresolvedLiveOrders _ => Bool
  | acknowledgeRuntimeCancellation _ _ => Option RuntimeControl
  | releaseWorkerLease _ _ _ => Bool
  | sleep _ => Unit

abbrev ShutdownProgram (α : Type) : Type :=
  Program ShutdownRequest ShutdownRequest.Response PyError α

abbrev ShutdownEvent : Type :=
  Event ShutdownRequest ShutdownRequest.Response PyError

/-- Await the answer of a request. -/
abbrev askShutdown (request : ShutdownRequest) : ShutdownProgram request.Response :=
  Program.ask request

/-! ### The call -/

/-- The arguments of a shutdown. -/
structure Shutdown where
  accountId : String
  mode : TradingMode
  ownerId : String
  leaseToken : Option Int
  attempts : Int
  retryDelaySeconds : ℚ

structure ShutdownSafetyResult where
  controlPersisted : Bool
  cancellationVerified : Bool
  cancellationAcknowledged : Bool
  leaseReleased : Bool
  deriving DecidableEq

namespace Shutdown

variable (shutdown : Shutdown)

/-- The answer of a call, or `otherwise` if it raises. -/
def caught {α : Type} (otherwise : α) (call : ShutdownProgram α) : ShutdownProgram α := do
  match ← call.attempt with
  | .ok answer => pure answer
  | .error _ => pure otherwise

/-- Wait before the next attempt, if there is one. -/
def waitToRetry (attemptsLeft : Nat) : ShutdownProgram Unit :=
  if 0 < shutdown.retryDelaySeconds ∧ 0 < attemptsLeft then
    askShutdown (.sleep shutdown.retryDelaySeconds)
  else pure ()

/-- Persist the disarm, in up to so many attempts. -/
def persistDisarm : Nat → ShutdownProgram (Option RuntimeControl)
  | 0 => pure none
  | attemptsLeft + 1 => do
      match ← (askShutdown (.disarmRuntimeControl shutdown.accountId shutdown.mode)).attempt with
      | .ok control => pure (some control)
      | .error _ => do
          let _ ← shutdown.waitToRetry attemptsLeft
          persistDisarm attemptsLeft

/-- Whether the lease is still confirmed after it was validated once more. A validation
that raises does not confirm it. -/
def confirmLease (leaseConfirmed : Bool) : ShutdownProgram Bool :=
  match shutdown.leaseToken with
  | none => pure leaseConfirmed
  | some fencingToken => do
      let valid ← caught false
        (askShutdown (.validateWorkerLease shutdown.accountId shutdown.ownerId fencingToken))
      pure (leaseConfirmed && valid)

/-- Validate and cancel, in up to so many attempts: whether the lease is confirmed, and
whether a cancellation was verified. -/
def verifyCancellation (leaseConfirmed : Bool) : Nat → ShutdownProgram (Bool × Bool)
  | 0 => pure (leaseConfirmed, false)
  | attemptsLeft + 1 => do
      let confirmed ← shutdown.confirmLease leaseConfirmed
      -- The flag is still false where `cancel_all` raises.
      let verified ← caught false (askShutdown (.cancelAll "worker shutdown"))
      if verified = true then pure (confirmed, true)
      else
        let _ ← shutdown.waitToRetry attemptsLeft
        verifyCancellation confirmed attemptsLeft

/-- Acknowledge the latch of the disarm, unless an order is unresolved. -/
def acknowledge (disarmVersion : Int) : ShutdownProgram Bool := do
  let (unresolved : Bool) ← askShutdown (.hasUnresolvedLiveOrders shutdown.accountId)
  if unresolved = true then pure false
  else
    let (acknowledged : Option RuntimeControl) ←
      askShutdown (.acknowledgeRuntimeCancellation shutdown.accountId disarmVersion)
    pure acknowledged.isSome

/-- The last part, for a lease of this token that was confirmed: whether the latch was
acknowledged, and whether the lease was released. -/
def handOver (control : RuntimeControl) (fencingToken : Int) : ShutdownProgram (Bool × Bool) := do
  let ackRequired := control.cancellationPending
  let safe ← caught false
    (askShutdown (.validateWorkerLease shutdown.accountId shutdown.ownerId fencingToken))
  let acknowledged ←
    (if safe = true ∧ ackRequired = true then caught false (shutdown.acknowledge control.version)
    else pure (!ackRequired))
  let released ←
    (if safe = true ∧ acknowledged = true then
      caught false (askShutdown (.releaseWorkerLease shutdown.accountId shutdown.ownerId fencingToken))
    else pure false)
  pure (acknowledged, released)

/-- `cancellation_acknowledged` where nothing is handed over. -/
def unacknowledged : Option RuntimeControl → Bool
  | some control => !control.cancellationPending
  | none => false

/-- `_shutdown_live_safely`. -/
def shutdownLiveSafely : ShutdownProgram ShutdownSafetyResult := do
  if shutdown.attempts < 1 then
    .raised (.valueError "shutdown safety requires at least one attempt")
  else
    let persisted ← shutdown.persistDisarm shutdown.attempts.toNat
    let (confirmed, verified) ←
      shutdown.verifyCancellation shutdown.leaseToken.isSome shutdown.attempts.toNat
    let (acknowledged, released) ←
      (match shutdown.leaseToken, persisted with
      | some fencingToken, some control =>
          if confirmed = true ∧ verified = true then shutdown.handOver control fencingToken
          else pure (unacknowledged persisted, false)
      | _, _ => pure (unacknowledged persisted, false))
    pure ⟨persisted.isSome, verified, acknowledged, released⟩

end Shutdown

/-! ### The property -/

/-- What the environment may answer. A disarm that returns has run
`disarm_runtime_control`, and a sleep returns; any other call may answer anything, and any
call of the store or the broker may fail. -/
def ShutdownAnswers : ShutdownEvent → Prop
  | ⟨.disarmRuntimeControl _ mode, .ok control⟩ =>
      ∃ (state next : RuntimeState) (granted : Bool),
        state.disarmRuntimeControl mode = .ok (granted, next) ∧ control = next.controlRow
  | ⟨.sleep _, answer⟩ => answer = .ok ()
  | _ => True

namespace ShutdownEvent

/-- The lease is released. -/
def Releases (event : ShutdownEvent) : Prop :=
  ∃ accountId ownerId fencingToken,
    event.request = .releaseWorkerLease accountId ownerId fencingToken

/-- A validation of the lease that did not succeed. -/
def Refutes (event : ShutdownEvent) : Prop :=
  ∃ accountId ownerId fencingToken answer,
    event = ⟨.validateWorkerLease accountId ownerId fencingToken, answer⟩ ∧ answer ≠ .ok true

end ShutdownEvent

/-- The release is the last event of a log in which the disarm of the call succeeded, a
later cancellation was verified, every validation of the lease succeeded, also the one after
that cancellation, no order was unresolved, and the latch of the disarm was acknowledged. -/
inductive ReleasedSafely (shutdown : Shutdown) : List ShutdownEvent → ShutdownEvent → Prop where
  | intro {persist cancel : List ShutdownEvent} {control acknowledged : RuntimeControl}
      {fencingToken : Int} {answer : Except PyError Bool} :
      shutdown.leaseToken = some fencingToken →
      (∀ event ∈ persist ++ cancel, ¬ ShutdownEvent.Refutes event) →
      ReleasedSafely shutdown
        (persist ++ ⟨.disarmRuntimeControl shutdown.accountId shutdown.mode, .ok control⟩ :: (cancel ++
          [⟨.cancelAll "worker shutdown", .ok true⟩,
            ⟨.validateWorkerLease shutdown.accountId shutdown.ownerId fencingToken, .ok true⟩,
            ⟨.hasUnresolvedLiveOrders shutdown.accountId, .ok false⟩,
            ⟨.acknowledgeRuntimeCancellation shutdown.accountId control.version,
              .ok (some acknowledged)⟩,
            ⟨.releaseWorkerLease shutdown.accountId shutdown.ownerId fencingToken, answer⟩]))
        ⟨.releaseWorkerLease shutdown.accountId shutdown.ownerId fencingToken, answer⟩

/-- What a shutdown guarantees. -/
structure HandsOverSafely (shutdown : Shutdown) (log : List ShutdownEvent)
    (outcome : Except PyError ShutdownSafetyResult) : Prop where
  cancels : ∃ event ∈ log, event.request = .cancelAll "worker shutdown"
  releases : ∀ event ∈ log, ShutdownEvent.Releases event → ReleasedSafely shutdown log event
  reports : ∃ result, outcome = .ok result ∧ (result.leaseReleased = true →
    ∃ fencingToken, ⟨.releaseWorkerLease shutdown.accountId shutdown.ownerId fencingToken, .ok true⟩ ∈ log)

/-! ### The parts of a call -/

section Parts

variable {shutdown : Shutdown} {log : List ShutdownEvent} {control : RuntimeControl}

theorem Shutdown.caught_cases {α : Type} {otherwise : α} {call : ShutdownProgram α}
    {outcome : Except PyError α}
    (executes : Execution ShutdownAnswers (Shutdown.caught otherwise call) log outcome) :
    ∃ reached, Execution ShutdownAnswers call log reached ∧
      outcome = .ok (reached.toOption.getD otherwise) := by
  obtain ⟨front, back, reached, rfl, first, rest⟩ := Execution.attempt_bind_cases executes
  cases reached with
  | ok answer =>
      cases rest
      exact ⟨_, (List.append_nil front).symm ▸ first, rfl⟩
  | error problem =>
      cases rest
      exact ⟨_, (List.append_nil front).symm ▸ first, rfl⟩

/-- A call that may raise gave `true`. -/
theorem Shutdown.caught_true {reached : Except PyError Bool} {answer : Bool} (given : answer = true)
    (same : (Except.ok answer : Except PyError Bool) = .ok (reached.toOption.getD false)) :
    reached = .ok true := by
  subst given
  cases reached with
  | ok value => exact congrArg Except.ok (Except.ok.inj same).symm
  | error problem => exact nomatch Except.ok.inj same

/-- An event of the first part. -/
def ShutdownEvent.Persists (event : ShutdownEvent) : Prop :=
  (∃ accountId mode, event.request = .disarmRuntimeControl accountId mode) ∨
    ∃ seconds, event.request = .sleep seconds

theorem ShutdownEvent.Persists.not_releases {event : ShutdownEvent}
    (persists : ShutdownEvent.Persists event) : ¬ ShutdownEvent.Releases event := by
  rintro ⟨_, _, _, releases⟩
  rcases persists with ⟨_, _, asked⟩ | ⟨_, asked⟩ <;> exact nomatch asked.symm.trans releases

theorem ShutdownEvent.Persists.not_refutes {event : ShutdownEvent}
    (persists : ShutdownEvent.Persists event) : ¬ ShutdownEvent.Refutes event := by
  rintro ⟨_, _, _, _, rfl, -⟩
  rcases persists with ⟨_, _, asked⟩ | ⟨_, asked⟩ <;> exact nomatch asked

theorem Shutdown.waitToRetry_cases {attemptsLeft : Nat} {outcome : Except PyError Unit}
    (executes : Execution ShutdownAnswers (shutdown.waitToRetry attemptsLeft) log outcome) :
    outcome = .ok () ∧ ∀ event ∈ log, ShutdownEvent.Persists event := by
  unfold Shutdown.waitToRetry at executes
  split at executes
  · obtain ⟨rfl, slept⟩ := Execution.ask_cases executes
    refine ⟨slept, fun event member => ?_⟩
    rw [List.mem_singleton.mp member]
    exact .inr ⟨_, rfl⟩
  · cases executes
    exact ⟨rfl, fun _ => nofun⟩

/-- A disarm in canary or live mode is latched. -/
theorem ShutdownAnswers.pending {accountId : String} {mode : TradingMode}
    (answers : ShutdownAnswers ⟨.disarmRuntimeControl accountId mode, .ok control⟩)
    (real : mode.RealMoney) : control.cancellationPending = true := by
  obtain ⟨state, next, granted, served, rfl⟩ := answers
  cases served
  exact decide_eq_true real

/-- The first part ends with the disarm that it persists. -/
theorem Shutdown.persistDisarm_cases (real : shutdown.mode.RealMoney) {attempts : Nat}
    {outcome : Except PyError (Option RuntimeControl)}
    (executes : Execution ShutdownAnswers (shutdown.persistDisarm attempts) log outcome) :
    ∃ persisted, outcome = .ok persisted ∧ (∀ event ∈ log, ShutdownEvent.Persists event) ∧
      ∀ control, persisted = some control → control.cancellationPending = true ∧ ∃ front,
        log = front ++ [⟨.disarmRuntimeControl shutdown.accountId shutdown.mode, .ok control⟩] := by
  induction attempts generalizing log with
  | zero =>
      cases executes
      exact ⟨none, rfl, fun _ => nofun, nofun⟩
  | succ attemptsLeft ih =>
      obtain ⟨_, rest, answer, rfl, asked, goesOn⟩ := Execution.attempt_bind_cases executes
      obtain ⟨rfl, answers⟩ := Execution.ask_cases asked
      have first : ∀ event ∈ ([⟨.disarmRuntimeControl shutdown.accountId shutdown.mode, answer⟩] :
          List ShutdownEvent), ShutdownEvent.Persists event := by
        intro event member
        rw [List.mem_singleton.mp member]
        exact .inl ⟨_, _, rfl⟩
      cases answer with
      | ok control =>
          cases goesOn
          rw [List.append_nil]
          refine ⟨some control, rfl, first, ?_⟩
          rintro _ ⟨⟩
          exact ⟨answers.pending real, [], rfl⟩
      | error problem =>
          rcases Execution.bind_cases goesOn with ⟨_, raises, -⟩ | ⟨_, _, _, rfl, waits, again⟩
          · cases (waitToRetry_cases raises).1
          · obtain ⟨persisted, same, others, ends⟩ := ih again
            refine ⟨persisted, same, ?_, fun control found => ?_⟩
            · rw [List.forall_mem_append, List.forall_mem_append]
              exact ⟨first, (waitToRetry_cases waits).2, others⟩
            · obtain ⟨pending, front, rfl⟩ := ends control found
              exact ⟨pending, _, by rw [← List.append_assoc, ← List.append_assoc]⟩

/-- A validation keeps the lease confirmed only where it succeeded. -/
theorem Shutdown.confirmLease_cases {leaseConfirmed : Bool} {outcome : Except PyError Bool}
    (executes : Execution ShutdownAnswers (shutdown.confirmLease leaseConfirmed) log outcome) :
    ∃ confirmed, outcome = .ok confirmed ∧ (∀ event ∈ log, ¬ ShutdownEvent.Releases event) ∧
      (confirmed = true → leaseConfirmed = true ∧ ∀ event ∈ log, ¬ ShutdownEvent.Refutes event) := by
  unfold Shutdown.confirmLease at executes
  split at executes
  · cases executes
    exact ⟨leaseConfirmed, rfl, fun _ => nofun, fun confirmed => ⟨confirmed, fun _ => nofun⟩⟩
  rcases Execution.bind_cases executes with ⟨_, raises, -⟩ | ⟨_, _, valid, rfl, asked, done⟩
  · obtain ⟨_, -, same⟩ := caught_cases raises
    cases same
  cases done
  obtain ⟨answer, call, same⟩ := caught_cases asked
  obtain ⟨rfl, -⟩ := Execution.ask_cases call
  rw [List.append_nil]
  refine ⟨_, rfl, ?_, fun confirmed => ?_⟩
  · intro event member
    rw [List.mem_singleton.mp member]
    exact fun ⟨_, _, _, releases⟩ => nomatch releases
  · rw [Bool.and_eq_true] at confirmed
    refine ⟨confirmed.1, fun event member => ?_⟩
    rw [List.mem_singleton.mp member]
    rintro ⟨_, _, _, _, ⟨⟩, failed⟩
    exact failed (caught_true confirmed.2 same)

/-- What the second part can do. -/
structure Cancelled (leaseConfirmed : Bool) (attempts : Nat) (log : List ShutdownEvent)
    (confirmed verified : Bool) : Prop where
  attempted : 0 < attempts → ∃ event ∈ log, event.request = .cancelAll "worker shutdown"
  keeps : ∀ event ∈ log, ¬ ShutdownEvent.Releases event
  confirms : confirmed = true →
    leaseConfirmed = true ∧ ∀ event ∈ log, ¬ ShutdownEvent.Refutes event
  verifies : verified = true → ∃ front, log = front ++ [⟨.cancelAll "worker shutdown", .ok true⟩]

theorem Shutdown.verifyCancellation_cases {leaseConfirmed : Bool} {attempts : Nat}
    {outcome : Except PyError (Bool × Bool)}
    (executes : Execution ShutdownAnswers (shutdown.verifyCancellation leaseConfirmed attempts) log
      outcome) :
    ∃ confirmed verified, outcome = .ok (confirmed, verified) ∧
      Cancelled leaseConfirmed attempts log confirmed verified := by
  induction attempts generalizing leaseConfirmed log with
  | zero =>
      cases executes
      refine ⟨_, _, rfl, ?_, ?_, fun confirmed => ⟨confirmed, ?_⟩, ?_⟩
      · intro none
        cases none
      · intro event member
        cases member
      · intro event member
        cases member
      · intro verified
        cases verified
  | succ attemptsLeft ih =>
      rcases Execution.bind_cases executes with ⟨_, raises, -⟩ | ⟨validation, _, confirmed, rfl, confirms, rest⟩
      · obtain ⟨_, same, -⟩ := confirmLease_cases raises
        cases same
      obtain ⟨_, ⟨⟩, keeps, confirmed_iff⟩ := confirmLease_cases confirms
      rcases Execution.bind_cases rest with ⟨_, raises, -⟩ | ⟨_, _, verified, rfl, cancels, onward⟩
      · obtain ⟨_, -, same⟩ := caught_cases raises
        cases same
      obtain ⟨answer, call, same⟩ := caught_cases cancels
      obtain ⟨rfl, -⟩ := Execution.ask_cases call
      have cancel : ∀ event ∈ ([⟨.cancelAll "worker shutdown", answer⟩] : List ShutdownEvent),
          ¬ ShutdownEvent.Releases event ∧ ¬ ShutdownEvent.Refutes event := by
        intro event member
        rw [List.mem_singleton.mp member]
        constructor
        · rintro ⟨_, _, _, releases⟩
          cases releases
        · rintro ⟨_, _, _, _, refutes, -⟩
          cases refutes
      have attempted : ∀ front back : List ShutdownEvent,
          ∃ event ∈ front ++ (⟨.cancelAll "worker shutdown", answer⟩ :: back),
            event.request = .cancelAll "worker shutdown" := fun _ _ =>
        ⟨_, List.mem_append_right _ List.mem_cons_self, rfl⟩
      split at onward
      · rename_i succeeded
        cases onward
        have answered : answer = .ok true := caught_true succeeded same
        refine ⟨confirmed, true, rfl, fun _ => attempted _ _, ?_, fun kept => ?_, fun _ => ?_⟩
        · rw [List.forall_mem_append, List.append_nil]
          exact ⟨keeps, fun event member => (cancel event member).1⟩
        · refine ⟨(confirmed_iff kept).1, ?_⟩
          rw [List.forall_mem_append, List.append_nil]
          exact ⟨(confirmed_iff kept).2, fun event member => (cancel event member).2⟩
        · rw [answered, List.append_nil]
          exact ⟨_, rfl⟩
      · rcases Execution.bind_cases onward with ⟨_, raises, -⟩ | ⟨pause, _, _, rfl, waits, again⟩
        · cases (waitToRetry_cases raises).1
        have slept := (waitToRetry_cases waits).2
        obtain ⟨confirmed', verified', same, later⟩ := ih again
        refine ⟨confirmed', verified', same, fun _ => attempted _ _, ?_, fun kept => ?_, fun ends => ?_⟩
        · rw [List.forall_mem_append, List.forall_mem_append, List.forall_mem_append]
          exact ⟨keeps, fun event member => (cancel event member).1,
            fun event member => (slept event member).not_releases, later.keeps⟩
        · obtain ⟨before, others⟩ := later.confirms kept
          refine ⟨(confirmed_iff before).1, ?_⟩
          rw [List.forall_mem_append, List.forall_mem_append, List.forall_mem_append]
          exact ⟨(confirmed_iff before).2, fun event member => (cancel event member).2,
            fun event member => (slept event member).not_refutes, others⟩
        · obtain ⟨front, rfl⟩ := later.verifies ends
          exact ⟨validation ++ (⟨.cancelAll "worker shutdown", answer⟩ :: (pause ++ front)), by simp⟩

/-- What the last part can do for a latched disarm. -/
structure HandedOver (shutdown : Shutdown) (control : RuntimeControl) (fencingToken : Int)
    (log : List ShutdownEvent) (released : Bool) : Prop where
  releases : ∀ event ∈ log, ShutdownEvent.Releases event → ∃ acknowledged answer,
    log =
      [⟨.validateWorkerLease shutdown.accountId shutdown.ownerId fencingToken, .ok true⟩,
        ⟨.hasUnresolvedLiveOrders shutdown.accountId, .ok false⟩,
        ⟨.acknowledgeRuntimeCancellation shutdown.accountId control.version,
          .ok (some acknowledged)⟩,
        ⟨.releaseWorkerLease shutdown.accountId shutdown.ownerId fencingToken, answer⟩] ∧
      event = ⟨.releaseWorkerLease shutdown.accountId shutdown.ownerId fencingToken, answer⟩
  reports : released = true →
    ⟨.releaseWorkerLease shutdown.accountId shutdown.ownerId fencingToken, .ok true⟩ ∈ log

/-- An acknowledgement releases nothing, and where it returns true it found no unresolved
order and acknowledged the version. -/
theorem Shutdown.acknowledge_cases {disarmVersion : Int} {outcome : Except PyError Bool}
    (executes : Execution ShutdownAnswers (shutdown.acknowledge disarmVersion) log outcome) :
    (∀ event ∈ log, ¬ ShutdownEvent.Releases event) ∧ (outcome = .ok true → ∃ acknowledged,
      log = [⟨.hasUnresolvedLiveOrders shutdown.accountId, .ok false⟩,
        ⟨.acknowledgeRuntimeCancellation shutdown.accountId disarmVersion,
          .ok (some acknowledged)⟩]) := by
  rcases Execution.bind_cases executes with ⟨_, raises, rfl⟩ | ⟨_, _, unresolved, rfl, asked, rest⟩
  · obtain ⟨rfl, -⟩ := Execution.ask_cases raises
    refine ⟨fun event member => ?_, nofun⟩
    rw [List.mem_singleton.mp member]
    exact fun ⟨_, _, _, releases⟩ => nomatch releases
  obtain ⟨rfl, -⟩ := Execution.ask_cases asked
  cases unresolved with
  | true =>
      cases rest
      refine ⟨fun event member => ?_, nofun⟩
      rw [List.mem_singleton.mp member]
      exact fun ⟨_, _, _, releases⟩ => nomatch releases
  | false =>
      have two : ∀ answer : Except PyError (Option RuntimeControl),
          ∀ event ∈ ([⟨.hasUnresolvedLiveOrders shutdown.accountId, .ok false⟩,
            ⟨.acknowledgeRuntimeCancellation shutdown.accountId disarmVersion, answer⟩] :
              List ShutdownEvent), ¬ ShutdownEvent.Releases event := by
        intro answer event member
        rcases List.mem_cons.mp member with rfl | member
        · exact fun ⟨_, _, _, releases⟩ => nomatch releases
        · rw [List.mem_singleton.mp member]
          exact fun ⟨_, _, _, releases⟩ => nomatch releases
      rcases Execution.bind_cases rest with ⟨_, raises, rfl⟩ | ⟨_, _, acknowledged, rfl, asked, done⟩
      · obtain ⟨rfl, -⟩ := Execution.ask_cases raises
        exact ⟨two _, nofun⟩
      · obtain ⟨rfl, -⟩ := Execution.ask_cases asked
        cases done
        refine ⟨two _, fun same => ?_⟩
        obtain ⟨control, rfl⟩ := Option.isSome_iff_exists.mp (Except.ok.inj same)
        exact ⟨control, rfl⟩

theorem Shutdown.handOver_cases {fencingToken : Int} {outcome : Except PyError (Bool × Bool)}
    (pending : control.cancellationPending = true)
    (executes : Execution ShutdownAnswers (shutdown.handOver control fencingToken) log outcome) :
    ∃ acknowledged released, outcome = .ok (acknowledged, released) ∧
      HandedOver shutdown control fencingToken log released := by
  unfold Shutdown.handOver at executes
  rw [pending] at executes
  rcases Execution.bind_cases executes with ⟨_, raises, -⟩ | ⟨_, _, safe, rfl, validates, rest⟩
  · obtain ⟨_, -, same⟩ := caught_cases raises
    cases same
  obtain ⟨valid, call, safely⟩ := caught_cases validates
  obtain ⟨rfl, -⟩ := Execution.ask_cases call
  have validation : ¬ ShutdownEvent.Releases
      ⟨.validateWorkerLease shutdown.accountId shutdown.ownerId fencingToken, valid⟩ :=
    by
      rintro ⟨_, _, _, releases⟩
      cases releases
  cases safe with
  | false =>
      cases rest
      refine ⟨_, _, rfl, fun event member releases => ?_, by rintro ⟨⟩⟩
      rw [List.mem_singleton.mp member] at releases
      exact absurd releases validation
  | true =>
      have answered : valid = .ok true := caught_true rfl safely
      rcases Execution.bind_cases rest with ⟨_, raises, -⟩ | ⟨_, _, acknowledged, rfl, acks, onward⟩
      · obtain ⟨_, -, same⟩ := caught_cases raises
        cases same
      obtain ⟨reached, call, same⟩ := caught_cases acks
      obtain ⟨keeps, acknowledges⟩ := acknowledge_cases call
      cases acknowledged with
      | false =>
          cases onward
          refine ⟨_, _, rfl, fun event member releases => ?_, by rintro ⟨⟩⟩
          rw [List.append_nil] at member
          rcases List.mem_cons.mp member with rfl | member
          · exact absurd releases validation
          · exact absurd releases (keeps event member)
      | true =>
          obtain ⟨control', rfl⟩ := acknowledges (caught_true rfl same)
          rcases Execution.bind_cases onward with ⟨_, raises, -⟩ | ⟨_, _, released, rfl, asks, done⟩
          · obtain ⟨_, -, same⟩ := caught_cases raises
            cases same
          cases done
          obtain ⟨answer, call, same⟩ := caught_cases asks
          obtain ⟨rfl, -⟩ := Execution.ask_cases call
          refine ⟨_, _, rfl, fun event member releases => ?_, fun released => ?_⟩
          · refine ⟨control', answer, by rw [answered]; rfl, ?_⟩
            simp only [List.cons_append, List.nil_append, List.mem_cons, List.not_mem_nil,
              or_false] at member
            rcases member with rfl | rfl | rfl | rfl
            · exact absurd releases validation
            · obtain ⟨_, _, _, same⟩ := releases
              cases same
            · obtain ⟨_, _, _, same⟩ := releases
              cases same
            · rfl
          · rw [caught_true released same]
            simp

end Parts

/-- The store of an account whose first disarm fails. It remembers whether that happened. -/
def answerShutdown (store : RuntimeState × Bool) :
    (request : ShutdownRequest) → Except PyError request.Response × RuntimeState × Bool
  | .disarmRuntimeControl _ mode =>
      if store.2 = true then
        match store.1.disarmRuntimeControl mode with
        | .ok (_, next) => (.ok next.controlRow, next, true)
        | .error problem => (.error (.apiError problem), store)
      else (.error (.foreign "OSError"), store.1, true)
  | .validateWorkerLease _ ownerId fencingToken =>
      (.ok (validateWorkerLease store.1.lease ownerId fencingToken store.1.clock), store)
  | .cancelAll _ => (.ok true, store)
  | .hasUnresolvedLiveOrders _ => (.ok (store.1.orders.any RuntimeState.unresolved), store)
  | .acknowledgeRuntimeCancellation _ expectedVersion =>
      match store.1.acknowledgeRuntimeCancellation expectedVersion with
      | .ok (granted, next) => (.ok (next.reported granted), next, store.2)
      | .error problem => (.error (.apiError problem), store)
  | .releaseWorkerLease _ ownerId fencingToken =>
      let released := releaseWorkerLease store.1.lease ownerId fencingToken store.1.clock
      (.ok released.1, { store.1 with lease := released.2 }, store.2)
  | .sleep _ => (.ok (), store)

theorem answerShutdown_answers (store : RuntimeState × Bool) (request : ShutdownRequest) :
    ShutdownAnswers ⟨request, (answerShutdown store request).1⟩ := by
  cases request with
  | disarmRuntimeControl accountId mode =>
      unfold answerShutdown
      dsimp only
      split
      · exact ⟨store.1, _, true, rfl, rfl⟩
      · trivial
  | sleep seconds => rfl
  | _ => trivial

/-- A canary worker with the lease of its account. -/
def leasedShutdown : Shutdown :=
  ⟨"account", .canary, "worker-1", some 1, 3, 1⟩

/-- Its account, and the first disarm still to fail. -/
def leasedAccount : RuntimeState × Bool :=
  ({ freshAccount with
    lease := some ⟨"worker-1", 1, 0, 60000000, 0, by decide, Int.one_pos, by decide⟩ }, false)

end Polybot
