import Polybot.Control.Runtime
import Polybot.Interaction.Fencing

/-!
Calls on the personal runtime, in any order.

A label is a call with its instant and its answer; a call may also be rolled back. The
orders of the account are written by other code at any time. What a call does to each
row is said once here: `ControlChange`, `BindingChange` and the lease.
-/

namespace Polybot

open Checked Interaction

/-- A call of one of the functions, or a write of the order table by other code. -/
inductive RuntimeCall where
  | claimLease (ownerId : String) (ttlSeconds : Int)
  | releaseLease (ownerId : String) (fencingToken : Int)
  | arm (mode : TradingMode) (armedUntil : Instant) (expectedVersion : Int)
  | armPersonal (ownerId : String) (fencingToken : Int) (mode : TradingMode)
      (armedUntil : Instant) (expectedVersion : Int)
  | expire (mode : TradingMode) (expectedVersion : Int)
  | disarm (mode : TradingMode)
  | setPaused (paused : Bool)
  | resume (expectedVersion : Int)
  | acknowledge (expectedVersion : Int)
  | bindWallet (ownerId : String) (fencingToken : Int) (wallet : WalletIdentity)
  | recordReadiness (ownerId : String) (fencingToken bindingVersion : Int) (balancePusd : ℚ)
      (allowancesReady : Bool)
  | markSubmitting (submission : RuntimeState.Submission)
  | storeOrders (orders : List GatedOrder)
  deriving DecidableEq

/-- Whether the call reported a row (or `true`), and the state after it. -/
def RuntimeCall.serve (state : RuntimeState) (now : Instant) :
    RuntimeCall → Except SqlError (Bool × RuntimeState)
  | claimLease ownerId ttlSeconds =>
      (claimWorkerLease state.lease ownerId ttlSeconds now).map fun claim =>
        (claim.1.claimed, { state with lease := some claim.2 })
  | releaseLease ownerId fencingToken =>
      let released := releaseWorkerLease state.lease ownerId fencingToken now
      .ok (released.1, { state with lease := released.2 })
  | arm mode armedUntil expectedVersion =>
      state.armRuntimeControl mode armedUntil expectedVersion now
  | armPersonal ownerId fencingToken mode armedUntil expectedVersion =>
      state.armPersonalRuntimeControl ownerId fencingToken mode armedUntil expectedVersion now
  | expire mode expectedVersion => state.expireRuntimeControl mode expectedVersion now
  | disarm mode => state.disarmRuntimeControl mode
  | setPaused paused => state.setPersonalRuntimePaused paused
  | resume expectedVersion => state.resumePersonalRuntime expectedVersion
  | acknowledge expectedVersion => state.acknowledgeRuntimeCancellation expectedVersion
  | bindWallet ownerId fencingToken wallet =>
      state.bindPersonalRuntimeWallet ownerId fencingToken wallet now
  | recordReadiness ownerId fencingToken bindingVersion balancePusd allowancesReady =>
      state.recordPersonalWalletReadiness ownerId fencingToken bindingVersion balancePusd
        allowancesReady now
  | markSubmitting submission => .ok (state.markPersonalOrderSubmitting submission now)
  | storeOrders orders => .ok (true, { state with orders := orders })

/-- The call is one of the two that arm. -/
def RuntimeCall.Arms : RuntimeCall → Prop
  | arm _ _ _ => True
  | armPersonal _ _ _ _ _ => True
  | _ => False

/-- A call at an instant, and whether it reported a row. -/
structure RuntimeLabel where
  call : RuntimeCall
  now : Instant
  granted : Bool
  deriving DecidableEq

/-- The account at a later instant. -/
def RuntimeState.at (state : RuntimeState) (now : Instant) : RuntimeState :=
  { state with clock := now }

/-- A call that is served, or rolled back, at an instant that is not before the last. -/
inductive RuntimeStep (state : RuntimeState) (label : RuntimeLabel) : RuntimeState → Prop where
  | served (next : RuntimeState) : state.clock ≤ label.now →
      label.call.serve state label.now = .ok (label.granted, next) →
      RuntimeStep state label (next.at label.now)
  | rolledBack : state.clock ≤ label.now → label.granted = false →
      RuntimeStep state label (state.at label.now)

namespace RuntimeLabel

variable (label : RuntimeLabel)

/-- The control was armed. -/
def Armed : Prop :=
  label.granted = true ∧ label.call.Arms

/-- A cancellation was acknowledged. -/
def Acknowledged : Prop :=
  label.granted = true ∧ ∃ expectedVersion, label.call = .acknowledge expectedVersion

/-- The runtime was paused. -/
def Paused : Prop :=
  label.granted = true ∧ label.call = .setPaused true

/-- The runtime was resumed. -/
def Resumed : Prop :=
  label.granted = true ∧ ∃ expectedVersion, label.call = .resume expectedVersion

/-- The lease was claimed by the owner. -/
def Claimed (ownerId : String) : Prop :=
  label.granted = true ∧ ∃ ttlSeconds, label.call = .claimLease ownerId ttlSeconds

/-- The control was stopped: disarmed, expired or paused. -/
def Stops : Prop :=
  label.granted = true ∧ (label.call = .setPaused true ∨ (∃ mode, label.call = .disarm mode) ∨
    ∃ mode expectedVersion, label.call = .expire mode expectedVersion)

/-- The wallet's readiness was recorded by the owner under the token. -/
def Recorded (ownerId : String) (fencingToken : Int) : Prop :=
  label.granted = true ∧ ∃ bindingVersion balancePusd allowancesReady,
    label.call = .recordReadiness ownerId fencingToken bindingVersion balancePusd allowancesReady

end RuntimeLabel

/-! ### What a call does -/

/-- What a step does to the control. -/
inductive ControlChange (state : RuntimeState) (label : RuntimeLabel) : RuntimeControl → Prop where
  | kept : ¬ label.Armed → ¬ label.Acknowledged → ControlChange state label state.controlRow
  | armed (mode : TradingMode) (armedUntil : Instant) (real : mode.RealMoney)
      (latched : state.controlRow.cancellationPending = false) : label.Armed →
      ControlChange state label (state.controlRow.armedAs mode armedUntil real latched)
  | expired (mode : TradingMode) (expectedVersion : Int) : label.granted = true →
      label.call = .expire mode expectedVersion → state.controlRow.armed = true →
      ControlChange state label (state.controlRow.stopped state.controlRow.mode true)
  | disarmed (mode : TradingMode) : label.granted = true → label.call = .disarm mode →
      ControlChange state label (state.controlRow.stopped mode (decide mode.RealMoney))
  | paused : label.granted = true → label.call = .setPaused true →
      ControlChange state label
        (state.controlRow.stopped state.controlRow.mode (decide state.controlRow.mode.RealMoney))
  | acknowledged (stopped : state.controlRow.armed = false) : label.Acknowledged →
      state.controlRow.cancellationPending = true →
      (∀ order ∈ state.orders, RuntimeState.unresolved order = false) →
      ControlChange state label (state.controlRow.acknowledged stopped)

section Changes

variable {state next after : RuntimeState} {label : RuntimeLabel} {granted : Bool}
  {mode : TradingMode} {armedUntil now : Instant} {expectedVersion : Int}

theorem RuntimeState.updateArm_cases {real : mode.RealMoney}
    (done : state.updateArm mode armedUntil expectedVersion now real = (granted, next)) :
    (granted = false ∧ next.controlRow = state.controlRow ∨
      granted = true ∧ ∃ armable : state.controlRow.Armable mode expectedVersion now,
        next.controlRow = state.controlRow.armedAs mode armedUntil real armable.2.1) ∧
    next.lease = state.lease ∧ next.binding = state.binding ∧ next.orders = state.orders := by
  unfold updateArm at done
  split at done
  · rename_i armable
    cases done
    exact ⟨.inr ⟨rfl, armable, rfl⟩, rfl, rfl, rfl⟩
  · cases done
    exact ⟨.inl ⟨rfl, rfl⟩, rfl, rfl, rfl⟩

theorem RuntimeState.arm_cases
    (done : state.armRuntimeControl mode armedUntil expectedVersion now = .ok (granted, next)) :
    ∃ real : mode.RealMoney,
      state.updateArm mode armedUntil expectedVersion now real = (granted, next) := by
  unfold armRuntimeControl at done
  split at done
  · rename_i real
    rw [require_bind_ok_iff, require_bind_ok_iff] at done
    exact ⟨real, Except.ok.inj done.2.2⟩
  · cases done

/-- A personal arm needs a binding that is not paused and a valid lease. -/
theorem RuntimeState.armPersonal_cases {ownerId : String} {fencingToken : Int}
    (done : state.armPersonalRuntimeControl ownerId fencingToken mode armedUntil expectedVersion now
      = .ok (granted, next)) :
    granted = false ∧ next = state ∨
      ((∃ binding ∈ state.binding, binding.paused = false) ∧
        validateWorkerLease state.lease ownerId fencingToken now = true) ∧
      ∃ real : mode.RealMoney,
        state.updateArm mode armedUntil expectedVersion now real = (granted, next) := by
  unfold armPersonalRuntimeControl at done
  split at done
  · rename_i real
    rw [require_bind_ok_iff, require_bind_ok_iff] at done
    obtain ⟨-, -, done⟩ := done
    split at done
    · rename_i authority
      exact .inr ⟨authority, real.2.2, Except.ok.inj done⟩
    · cases done
      exact .inl ⟨rfl, rfl⟩
  · cases done

/-- A call that neither arms nor acknowledges leaves such labels out. -/
theorem ControlChange.kept_of {call : RuntimeCall} (row : next.controlRow = state.controlRow)
    (arms : ¬ RuntimeLabel.Armed ⟨call, now, granted⟩)
    (acknowledges : ¬ RuntimeLabel.Acknowledged ⟨call, now, granted⟩) :
    ControlChange state ⟨call, now, granted⟩ next.controlRow := by
  rw [row]
  exact .kept arms acknowledges

theorem RuntimeLabel.not_acknowledged {call : RuntimeCall}
    (other : ∀ expectedVersion, call ≠ .acknowledge expectedVersion) :
    ¬ RuntimeLabel.Acknowledged ⟨call, now, granted⟩ :=
  fun acknowledged => other _ acknowledged.2.choose_spec

/-- What a call that updates an arm does to the control. -/
theorem ControlChange.of_updateArm {call : RuntimeCall} {real : mode.RealMoney}
    (arms : granted = true → RuntimeLabel.Armed ⟨call, now, granted⟩)
    (other : ∀ expectedVersion, call ≠ .acknowledge expectedVersion)
    (done : state.updateArm mode armedUntil expectedVersion now real = (granted, next)) :
    ControlChange state ⟨call, now, granted⟩ next.controlRow := by
  rcases (RuntimeState.updateArm_cases done).1 with ⟨refused, row⟩ | ⟨given, armable, row⟩
  · refine .kept_of row (fun armed => ?_) (RuntimeLabel.not_acknowledged other)
    exact Bool.false_ne_true (refused.symm.trans armed.1)
  · rw [row]
    exact .armed mode armedUntil real armable.2.1 (arms given)

theorem ControlChange.of_expire
    (done : state.expireRuntimeControl mode expectedVersion now = .ok (granted, next)) :
    ControlChange state ⟨.expire mode expectedVersion, now, granted⟩ next.controlRow := by
  unfold RuntimeState.expireRuntimeControl at done
  rw [require_bind_ok_iff] at done
  obtain ⟨-, done⟩ := done
  split at done
  · cases done
    exact .kept (fun armed => armed.2) (RuntimeLabel.not_acknowledged nofun)
  · rename_i control here
    have row : state.controlRow = control := by simp [RuntimeState.controlRow, here]
    split at done
    · rename_i due
      cases done
      rw [← row]
      exact .expired mode expectedVersion rfl rfl (row.symm ▸ due.2.2.1)
    · cases done
      exact .kept (fun armed => armed.2) (RuntimeLabel.not_acknowledged nofun)

theorem ControlChange.of_pause {paused : Bool}
    (done : state.setPersonalRuntimePaused paused = .ok (granted, next)) :
    ControlChange state ⟨.setPaused paused, now, granted⟩ next.controlRow := by
  unfold RuntimeState.setPersonalRuntimePaused at done
  rw [require_bind_ok_iff] at done
  obtain ⟨rfl, done⟩ := done
  split at done
  · cases done
    exact .kept (fun armed => armed.2) (RuntimeLabel.not_acknowledged nofun)
  · dsimp only at done
    split at done
    · cases done
      exact .kept (fun armed => armed.2) (RuntimeLabel.not_acknowledged nofun)
    · cases done
      exact .paused rfl rfl

theorem ControlChange.of_resume
    (done : state.resumePersonalRuntime expectedVersion = .ok (granted, next)) :
    next.controlRow = state.controlRow := by
  unfold RuntimeState.resumePersonalRuntime at done
  rw [require_bind_ok_iff] at done
  obtain ⟨-, done⟩ := done
  split at done
  · cases done
    rfl
  · split at done
    · cases done
      rfl
    · cases done
      rfl

theorem ControlChange.of_acknowledge
    (done : state.acknowledgeRuntimeCancellation expectedVersion = .ok (granted, next)) :
    ControlChange state ⟨.acknowledge expectedVersion, now, granted⟩ next.controlRow := by
  have refused : ¬ RuntimeLabel.Acknowledged ⟨.acknowledge expectedVersion, now, false⟩ :=
    fun acknowledged => Bool.false_ne_true acknowledged.1
  unfold RuntimeState.acknowledgeRuntimeCancellation at done
  split at done
  · cases done
    exact .kept (fun armed => armed.2) refused
  · rename_i control here
    have row : state.controlRow = control := by simp [RuntimeState.controlRow, here]
    split at done
    · rename_i ready
      cases done
      subst row
      exact .acknowledged ready.1.2.2.2 ⟨rfl, expectedVersion, rfl⟩ ready.1.2.1
        fun order member => by
          rw [Bool.eq_false_iff]
          exact fun open' => ready.2 ⟨order, member, open'⟩
    · cases done
      exact .kept (fun armed => armed.2) refused

/-- The wallet functions leave the control alone. -/
theorem RuntimeState.bind_control {ownerId : String} {fencingToken : Int} {wallet : WalletIdentity}
    (done : state.bindPersonalRuntimeWallet ownerId fencingToken wallet now = .ok (granted, next)) :
    next.control = state.control ∧ next.lease = state.lease ∧ next.orders = state.orders := by
  unfold bindPersonalRuntimeWallet at done
  split at done
  · split at done
    · split at done
      · split at done <;> cases done <;> exact ⟨rfl, rfl, rfl⟩
      · split at done
        · cases done
          exact ⟨rfl, rfl, rfl⟩
        · split at done <;> cases done <;> exact ⟨rfl, rfl, rfl⟩
    · cases done
      exact ⟨rfl, rfl, rfl⟩
  · cases done

theorem RuntimeState.record_control {ownerId : String} {fencingToken bindingVersion : Int}
    {balancePusd : ℚ} {allowancesReady : Bool}
    (done : state.recordPersonalWalletReadiness ownerId fencingToken bindingVersion balancePusd
      allowancesReady now = .ok (granted, next)) :
    next.control = state.control ∧ next.lease = state.lease ∧ next.orders = state.orders := by
  unfold recordPersonalWalletReadiness at done
  split at done
  · split at done
    · cases done
      exact ⟨rfl, rfl, rfl⟩
    · split at done <;> cases done <;> exact ⟨rfl, rfl, rfl⟩
  · cases done

/-- The state that `mark_personal_order_submitting` leaves differs in its orders only. -/
theorem RuntimeState.mark_orders (state : RuntimeState) (submission : RuntimeState.Submission)
    (now : Instant) : ∃ orders,
      (state.markPersonalOrderSubmitting submission now).2 = { state with orders := orders } := by
  unfold markPersonalOrderSubmitting
  split
  · exact ⟨_, rfl⟩
  · exact ⟨state.orders, rfl⟩

/-- A claim that is served writes the row that it makes. -/
theorem RuntimeCall.serve_claimLease {state next : RuntimeState} {now : Instant} {granted : Bool}
    {ownerId : String} {ttlSeconds : Int}
    (done : (RuntimeCall.claimLease ownerId ttlSeconds).serve state now = .ok (granted, next)) :
    ∃ claim, claimWorkerLease state.lease ownerId ttlSeconds now = .ok claim ∧
      granted = claim.1.claimed ∧ next = { state with lease := some claim.2 } := by
  rw [RuntimeCall.serve, map_ok_iff] at done
  obtain ⟨claim, claimed, made⟩ := done
  cases made
  exact ⟨claim, claimed, rfl, rfl⟩

/-- What a step does to the control. -/
theorem RuntimeStep.control (step : RuntimeStep state label after) :
    ControlChange state label after.controlRow := by
  obtain ⟨call, now, granted⟩ := label
  cases step with
  | rolledBack later refused =>
      cases refused
      exact .kept (fun armed => Bool.false_ne_true armed.1)
        (fun acknowledged => Bool.false_ne_true acknowledged.1)
  | served next later done =>
      change ControlChange state ⟨call, now, granted⟩ next.controlRow
      cases call with
      | claimLease ownerId ttlSeconds =>
          obtain ⟨claim, -, rfl, rfl⟩ := RuntimeCall.serve_claimLease done
          exact .kept (fun armed => armed.2) (RuntimeLabel.not_acknowledged nofun)
      | releaseLease ownerId fencingToken =>
          have same : next =
              { state with lease := (releaseWorkerLease state.lease ownerId fencingToken now).2 } :=
            (congrArg Prod.snd (Except.ok.inj done)).symm
          exact .kept_of (by rw [same]; rfl) (fun armed => armed.2)
            (RuntimeLabel.not_acknowledged nofun)
      | arm mode armedUntil expectedVersion =>
          obtain ⟨real, updated⟩ := RuntimeState.arm_cases done
          exact .of_updateArm (fun given => ⟨given, trivial⟩) nofun updated
      | armPersonal ownerId fencingToken mode armedUntil expectedVersion =>
          rcases RuntimeState.armPersonal_cases done with ⟨refused, same⟩ | ⟨-, real, updated⟩
          · refine .kept_of (congrArg RuntimeState.controlRow same) (fun armed => ?_)
              (RuntimeLabel.not_acknowledged nofun)
            exact Bool.false_ne_true (refused.symm.trans armed.1)
          · exact .of_updateArm (fun given => ⟨given, trivial⟩) nofun updated
      | expire mode expectedVersion => exact .of_expire done
      | disarm mode =>
          cases done
          exact .disarmed mode rfl rfl
      | setPaused paused => exact .of_pause done
      | resume expectedVersion =>
          exact .kept_of (ControlChange.of_resume done) (fun armed => armed.2)
            (RuntimeLabel.not_acknowledged nofun)
      | acknowledge expectedVersion => exact .of_acknowledge done
      | bindWallet ownerId fencingToken wallet =>
          have kept := (RuntimeState.bind_control done).1
          exact .kept_of (by simp only [RuntimeState.controlRow, kept]) (fun armed => armed.2)
            (RuntimeLabel.not_acknowledged nofun)
      | recordReadiness ownerId fencingToken bindingVersion balancePusd allowancesReady =>
          have kept := (RuntimeState.record_control done).1
          exact .kept_of (by simp only [RuntimeState.controlRow, kept]) (fun armed => armed.2)
            (RuntimeLabel.not_acknowledged nofun)
      | markSubmitting submission =>
          obtain ⟨orders, marked⟩ := state.mark_orders submission now
          have same : next = { state with orders := orders } := by
            rw [← marked]
            exact (congrArg Prod.snd (Except.ok.inj done)).symm
          exact .kept_of (by rw [same]; rfl) (fun armed => armed.2)
            (RuntimeLabel.not_acknowledged nofun)
      | storeOrders orders =>
          cases done
          exact .kept (fun armed => armed.2) (RuntimeLabel.not_acknowledged nofun)

/-- A change of the control raises its version by one. -/
theorem RuntimeStep.version (step : RuntimeStep state label after) :
    after.controlRow = state.controlRow ∨
      after.controlRow.version = state.controlRow.version + 1 := by
  have change := step.control
  generalize after.controlRow = control at change
  cases change with
  | kept => exact .inl rfl
  | armed => exact .inr rfl
  | expired => exact .inr rfl
  | disarmed => exact .inr rfl
  | paused => exact .inr rfl
  | acknowledged => exact .inr rfl

/-- The control changes with its version. -/
theorem RuntimeStep.control_fenced (step : RuntimeStep state label after) :
    Fenced (fun state => state.controlRow.version) RuntimeState.controlRow state after := by
  rcases step.version with same | raised
  · exact .inr ⟨congrArg RuntimeControl.version same.symm, same.symm⟩
  · exact .inl ((Int.lt_add_one_of_le le_rfl).trans_eq raised.symm)

end Changes

end Polybot
