import Polybot.Control.Latch

/-!
The gate of a personal order.

What the other functions do to the lease and to the binding, and from it what a
submission that passes the gate proves about the calls before it: `gate_keeps`.
-/

namespace Polybot

open Checked Interaction

/-! ### What the gate keeps -/

/-- A readiness of a binding was recorded, while the same wallet was bound. -/
def Observed (start : RuntimeState) (history : List RuntimeLabel) (binding : PersonalBinding)
    (readiness : WalletReadiness) : Prop :=
  ∃ front back mid bound,
    history = front ++ ⟨.recordReadiness readiness.ownerId readiness.fencingToken
      binding.bindingVersion readiness.balancePusd readiness.allowancesReady, readiness.checkedAt,
      true⟩ :: back ∧
    Run RuntimeStep start front mid ∧ mid.binding = some bound ∧
    bound.identity = binding.identity ∧ bound.bindingVersion = binding.bindingVersion

/-- The authority behind a submission that passes the gate. -/
structure Passes (start : RuntimeState) (history : List RuntimeLabel) (state : RuntimeState)
    (submission : RuntimeState.Submission) (now : Instant) : Prop where
  signed : ∃ order ∈ state.orders, submission.Matches order
  leased : validateWorkerLease state.lease submission.ownerId submission.workerFencingToken now = true
  armed : ∃ control ∈ state.control, submission.Authorises control now
  funded : ∃ binding ∈ state.binding, binding.paused = false ∧ ∃ readiness,
    RuntimeState.WalletReady readiness submission.ownerId submission.workerFencingToken now ∧
      Observed start history binding readiness

/-- After a step that `Ends` an authority, a submission only passes once a label that
it `Needs` has come. -/
def Forces (start : RuntimeState)
    (Ends : RuntimeState → RuntimeLabel → RuntimeState → RuntimeState.Submission → Prop)
    (Needs : RuntimeState.Submission → RuntimeLabel → Prop) : Prop :=
  ∀ front ending between s t u v submission now,
    Run RuntimeStep start front s → RuntimeStep s ending t → Ends s ending t submission →
    Run RuntimeStep t between u → RuntimeStep u ⟨.markSubmitting submission, now, true⟩ v →
    ∃ label ∈ between, Needs submission label

/-- Another owner holds the lease after the step. -/
def TakenOver (before after : RuntimeState) : Prop :=
  ∃ held row, before.lease = some held ∧ after.lease = some row ∧ held.ownerId ≠ row.ownerId

/-- Another wallet is bound after the step. -/
def Rotated (before after : RuntimeState) : Prop :=
  ∃ old new, before.binding = some old ∧ after.binding = some new ∧ old.identity ≠ new.identity

/-- What the gate guarantees in every run from `start`. -/
structure GateKeeps (start : RuntimeState) : Prop where
  /-- Only an authorised worker passes. -/
  passes : ∀ history state submission now after, Run RuntimeStep start history state →
    RuntimeStep state ⟨.markSubmitting submission, now, true⟩ after →
    Passes start history state submission now
  /-- After a disarm, an expiry or a pause, and after an arm has lapsed, the control is
  armed again. -/
  rearmed : Forces start
    (fun _ ending t _ => ending.Stops ∨ ¬ t.controlRow.Unexpired t.clock)
    (fun _ label => label.Armed)
  /-- After a pause the runtime is resumed. -/
  resumed : Forces start (fun _ ending _ _ => ending.Paused) (fun _ label => label.Resumed)
  /-- A worker that does not hold an unexpired lease claims it. -/
  claimed : Forces start
    (fun _ _ t submission => ∀ token,
      validateWorkerLease t.lease submission.ownerId token t.clock = false)
    (fun submission label => label.Claimed submission.ownerId)
  /-- After a take-over the wallet is observed again, under a new token. -/
  taken_over : Forces start (fun s _ t _ => TakenOver s t)
    (fun submission label =>
      label.Recorded submission.ownerId submission.workerFencingToken)
  /-- After a rotation the new wallet is observed. -/
  rotated : Forces start (fun s _ t _ => Rotated s t)
    (fun submission label =>
      label.Recorded submission.ownerId submission.workerFencingToken)
  /-- A change of the control raises its version by one. -/
  versions : ∀ history state label after, Run RuntimeStep start history state →
    RuntimeStep state label after →
    after.controlRow = state.controlRow ∨
      after.controlRow.version = state.controlRow.version + 1

/-! ### The lease -/

/-- The lease part of an account. -/
def RuntimeState.leaseState (state : RuntimeState) : LeaseState :=
  ⟨state.clock, state.lease⟩

/-- What a step does to the lease: it is claimed or released, and the binding stays, or
it is kept. -/
inductive LeaseChange (state : RuntimeState) (label : RuntimeLabel) (after : RuntimeState) : Prop where
  | kept : after.lease = state.lease → LeaseChange state label after
  | claimed (ownerId : String) (ttlSeconds : Int) (claim : LeaseClaim × WorkerLease) :
      label.call = .claimLease ownerId ttlSeconds → label.granted = claim.1.claimed →
      claimWorkerLease state.lease ownerId ttlSeconds label.now = .ok claim →
      after.lease = some claim.2 → after.binding = state.binding → LeaseChange state label after
  | released (ownerId : String) (fencingToken : Int) :
      after.lease = (releaseWorkerLease state.lease ownerId fencingToken label.now).2 →
      after.binding = state.binding → LeaseChange state label after

section Lease

variable {state next after : RuntimeState} {label : RuntimeLabel} {granted : Bool}
  {mode : TradingMode} {now : Instant} {expectedVersion : Int}

theorem RuntimeState.expire_rows
    (done : state.expireRuntimeControl mode expectedVersion now = .ok (granted, next)) :
    next.lease = state.lease ∧ next.binding = state.binding := by
  unfold expireRuntimeControl at done
  rw [require_bind_ok_iff] at done
  obtain ⟨-, done⟩ := done
  split at done
  · cases done
    exact ⟨rfl, rfl⟩
  · split at done <;> cases done <;> exact ⟨rfl, rfl⟩

theorem RuntimeState.acknowledge_rows
    (done : state.acknowledgeRuntimeCancellation expectedVersion = .ok (granted, next)) :
    next.lease = state.lease ∧ next.binding = state.binding := by
  unfold acknowledgeRuntimeCancellation at done
  split at done
  · cases done
    exact ⟨rfl, rfl⟩
  · split at done <;> cases done <;> exact ⟨rfl, rfl⟩

/-- A granted pause pauses the binding, and a refused one leaves it alone. -/
theorem RuntimeState.pause_rows {paused : Bool}
    (done : state.setPersonalRuntimePaused paused = .ok (granted, next)) :
    next.lease = state.lease ∧ paused = true ∧
      (granted = false ∧ next.binding = state.binding ∨
        ∃ binding, state.binding = some binding ∧
          next.binding = some { binding with paused := true }) := by
  unfold setPersonalRuntimePaused at done
  rw [require_bind_ok_iff] at done
  obtain ⟨rfl, done⟩ := done
  split at done
  · cases done
    exact ⟨rfl, rfl, .inl ⟨rfl, rfl⟩⟩
  · rename_i binding here
    cases done
    exact ⟨rfl, rfl, .inr ⟨binding, here, rfl⟩⟩

theorem RuntimeState.resume_rows
    (done : state.resumePersonalRuntime expectedVersion = .ok (granted, next)) :
    next.lease = state.lease ∧
      (next.binding = state.binding ∨ granted = true ∧
        ∃ binding, state.binding = some binding ∧
          next.binding = some { binding with paused := false }) := by
  unfold resumePersonalRuntime at done
  rw [require_bind_ok_iff] at done
  obtain ⟨-, done⟩ := done
  split at done
  · cases done
    exact ⟨rfl, .inl rfl⟩
  · rename_i binding here
    split at done
    · cases done
      exact ⟨rfl, .inr ⟨rfl, binding, here, rfl⟩⟩
    · cases done
      exact ⟨rfl, .inl rfl⟩

theorem RuntimeStep.leaseChange (step : RuntimeStep state label after) :
    LeaseChange state label after := by
  obtain ⟨call, now, granted⟩ := label
  cases step with
  | rolledBack later refused => exact .kept rfl
  | served next later done =>
      cases call with
      | claimLease ownerId ttlSeconds =>
          obtain ⟨claim, claimed, rfl, rfl⟩ := RuntimeCall.serve_claimLease done
          exact .claimed ownerId ttlSeconds claim rfl rfl claimed rfl rfl
      | releaseLease ownerId fencingToken =>
          have same : next =
              { state with lease := (releaseWorkerLease state.lease ownerId fencingToken now).2 } :=
            (congrArg Prod.snd (Except.ok.inj done)).symm
          subst same
          exact .released ownerId fencingToken rfl rfl
      | arm mode armedUntil expectedVersion =>
          obtain ⟨real, updated⟩ := RuntimeState.arm_cases done
          exact .kept (RuntimeState.updateArm_cases updated).2.1
      | armPersonal ownerId fencingToken mode armedUntil expectedVersion =>
          rcases RuntimeState.armPersonal_cases done with ⟨-, rfl⟩ | ⟨-, real, updated⟩
          · exact .kept rfl
          · exact .kept (RuntimeState.updateArm_cases updated).2.1
      | expire mode expectedVersion => exact .kept (RuntimeState.expire_rows done).1
      | disarm mode =>
          cases done
          exact .kept rfl
      | setPaused paused => exact .kept (RuntimeState.pause_rows done).1
      | resume expectedVersion => exact .kept (RuntimeState.resume_rows done).1
      | acknowledge expectedVersion => exact .kept (RuntimeState.acknowledge_rows done).1
      | bindWallet ownerId fencingToken wallet =>
          exact .kept (RuntimeState.bind_control done).2.1
      | recordReadiness ownerId fencingToken bindingVersion balancePusd allowancesReady =>
          exact .kept (RuntimeState.record_control done).2.1
      | markSubmitting submission =>
          obtain ⟨orders, marked⟩ := state.mark_orders submission now
          have same : next = { state with orders := orders } := by
            rw [← marked]
            exact (congrArg Prod.snd (Except.ok.inj done)).symm
          subst same
          exact .kept rfl
      | storeOrders orders =>
          cases done
          exact .kept rfl

/-- Every step keeps the owner of the lease and its token, or raises the token. -/
theorem RuntimeStep.fenced (step : RuntimeStep state label after) :
    Fenced (leaseStamp ∘ RuntimeState.leaseState) (leaseOwner ∘ RuntimeState.leaseState) state
      after := by
  have call : ∀ call, after.lease = serveLease state.lease label.now call →
      Fenced leaseStamp leaseOwner state.leaseState after.leaseState := by
    intro call served
    have same : LeaseStep ⟨label.now, state.lease⟩ (call, label.now) ⟨label.now, after.lease⟩ :=
      ⟨le_rfl, by rw [served]⟩
    exact same.fenced
  cases step.leaseChange with
  | kept same => exact .inr ⟨by simp [leaseStamp, RuntimeState.leaseState, same],
      by simp [leaseOwner, RuntimeState.leaseState, same]⟩
  | claimed ownerId ttlSeconds claim _ _ claimed row =>
      refine call (.claim ownerId ttlSeconds) ?_
      rw [row, serveLease, claimed]
  | released ownerId fencingToken row _ => exact call (.release ownerId fencingToken) row

end Lease

/-! ### The binding -/

/-- What a step does to the binding. -/
inductive BindingChange (state : RuntimeState) (label : RuntimeLabel) :
    Option PersonalBinding → Prop where
  | kept : ¬ label.Paused → BindingChange state label state.binding
  | bound (binding : PersonalBinding) : state.binding = none → binding.readiness = none →
      ¬ label.Paused → BindingChange state label (some binding)
  | rotated (old binding : PersonalBinding) : state.binding = some old →
      binding.bindingVersion = old.bindingVersion + 1 → binding.readiness = none →
      binding.paused = old.paused → ¬ label.Paused → BindingChange state label (some binding)
  | recorded (old binding : PersonalBinding) (readiness : WalletReadiness) :
      state.binding = some old → binding = { old with readiness := some readiness } →
      label = ⟨.recordReadiness readiness.ownerId readiness.fencingToken old.bindingVersion
        readiness.balancePusd readiness.allowancesReady, readiness.checkedAt, true⟩ →
      validateWorkerLease state.lease readiness.ownerId readiness.fencingToken label.now = true →
      BindingChange state label (some binding)
  | paused (old : PersonalBinding) : state.binding = some old →
      BindingChange state label (some { old with paused := true })
  | resumed (old : PersonalBinding) : state.binding = some old → label.Resumed →
      BindingChange state label (some { old with paused := false })

section Binding

variable {state next after : RuntimeState} {call : RuntimeCall} {label : RuntimeLabel}
  {granted : Bool} {now : Instant} {ownerId : String} {fencingToken : Int}

/-- Only a pause pauses. -/
theorem RuntimeLabel.not_paused (other : call ≠ .setPaused true) :
    ¬ RuntimeLabel.Paused ⟨call, now, granted⟩ :=
  fun paused => other paused.2

theorem BindingChange.kept_of (row : next.binding = state.binding)
    (unpaused : ¬ RuntimeLabel.Paused ⟨call, now, granted⟩) :
    BindingChange state ⟨call, now, granted⟩ next.binding := by
  rw [row]
  exact .kept unpaused

theorem BindingChange.of_pause {paused : Bool}
    (done : state.setPersonalRuntimePaused paused = .ok (granted, next)) :
    BindingChange state ⟨.setPaused paused, now, granted⟩ next.binding := by
  obtain ⟨-, rfl, ⟨rfl, same⟩ | ⟨binding, here, there⟩⟩ := RuntimeState.pause_rows done
  · exact .kept_of same fun paused => Bool.false_ne_true paused.1
  · rw [there]
    exact .paused binding here

theorem BindingChange.of_resume {expectedVersion : Int}
    (done : state.resumePersonalRuntime expectedVersion = .ok (granted, next)) :
    BindingChange state ⟨.resume expectedVersion, now, granted⟩ next.binding := by
  obtain ⟨-, same | ⟨rfl, binding, here, there⟩⟩ := RuntimeState.resume_rows done
  · exact .kept_of same (RuntimeLabel.not_paused nofun)
  · rw [there]
    exact .resumed binding here ⟨rfl, expectedVersion, rfl⟩

theorem BindingChange.of_bind {wallet : WalletIdentity}
    (done : state.bindPersonalRuntimeWallet ownerId fencingToken wallet now = .ok (granted, next)) :
    BindingChange state ⟨.bindWallet ownerId fencingToken wallet, now, granted⟩ next.binding := by
  have unpaused : ¬ RuntimeLabel.Paused ⟨.bindWallet ownerId fencingToken wallet, now, granted⟩ :=
    RuntimeLabel.not_paused nofun
  unfold RuntimeState.bindPersonalRuntimeWallet at done
  split at done
  · split at done
    · split at done
      · rename_i unbound
        split at done
        · cases done
          exact .kept unpaused
        · cases done
          exact .bound _ unbound rfl unpaused
      · rename_i binding here
        split at done
        · cases done
          exact .kept unpaused
        · split at done
          · cases done
            exact .kept unpaused
          · cases done
            exact .rotated binding _ here rfl rfl rfl unpaused
    · cases done
      exact .kept unpaused
  · cases done

theorem BindingChange.of_record {bindingVersion : Int} {balancePusd : ℚ} {allowancesReady : Bool}
    (done : state.recordPersonalWalletReadiness ownerId fencingToken bindingVersion balancePusd
      allowancesReady now = .ok (granted, next)) :
    BindingChange state ⟨.recordReadiness ownerId fencingToken bindingVersion balancePusd
      allowancesReady, now, granted⟩ next.binding := by
  have unpaused : ¬ RuntimeLabel.Paused ⟨.recordReadiness ownerId fencingToken bindingVersion
      balancePusd allowancesReady, now, granted⟩ := RuntimeLabel.not_paused nofun
  unfold RuntimeState.recordPersonalWalletReadiness at done
  split at done
  · rename_i valid
    split at done
    · cases done
      exact .kept unpaused
    · rename_i binding here
      split at done
      · rename_i current
        cases done
        obtain ⟨rfl, leased⟩ := current
        exact .recorded binding _ ⟨ownerId, fencingToken, balancePusd, allowancesReady, now,
          valid.1, valid.2.1, valid.2.2.2⟩ here rfl rfl leased
      · cases done
        exact .kept unpaused
  · cases done

/-- What a step does to the binding. -/
theorem RuntimeStep.binding (step : RuntimeStep state label after) :
    BindingChange state label after.binding := by
  obtain ⟨call, now, granted⟩ := label
  cases step with
  | rolledBack later refused =>
      cases refused
      exact .kept fun paused => Bool.false_ne_true paused.1
  | served next later done =>
      change BindingChange state ⟨call, now, granted⟩ next.binding
      cases call with
      | claimLease ownerId ttlSeconds =>
          obtain ⟨claim, -, rfl, rfl⟩ := RuntimeCall.serve_claimLease done
          exact .kept (RuntimeLabel.not_paused nofun)
      | releaseLease ownerId fencingToken =>
          have same : next =
              { state with lease := (releaseWorkerLease state.lease ownerId fencingToken now).2 } :=
            (congrArg Prod.snd (Except.ok.inj done)).symm
          exact .kept_of (by rw [same]) (RuntimeLabel.not_paused nofun)
      | arm mode armedUntil expectedVersion =>
          obtain ⟨real, updated⟩ := RuntimeState.arm_cases done
          exact .kept_of (RuntimeState.updateArm_cases updated).2.2.1 (RuntimeLabel.not_paused nofun)
      | armPersonal ownerId fencingToken mode armedUntil expectedVersion =>
          rcases RuntimeState.armPersonal_cases done with ⟨-, same⟩ | ⟨-, real, updated⟩
          · exact .kept_of (congrArg RuntimeState.binding same) (RuntimeLabel.not_paused nofun)
          · exact .kept_of (RuntimeState.updateArm_cases updated).2.2.1
              (RuntimeLabel.not_paused nofun)
      | expire mode expectedVersion =>
          exact .kept_of (RuntimeState.expire_rows done).2 (RuntimeLabel.not_paused nofun)
      | disarm mode =>
          cases done
          exact .kept (RuntimeLabel.not_paused nofun)
      | setPaused paused => exact .of_pause done
      | resume expectedVersion => exact .of_resume done
      | acknowledge expectedVersion =>
          exact .kept_of (RuntimeState.acknowledge_rows done).2 (RuntimeLabel.not_paused nofun)
      | bindWallet ownerId fencingToken wallet => exact .of_bind done
      | recordReadiness ownerId fencingToken bindingVersion balancePusd allowancesReady =>
          exact .of_record done
      | markSubmitting submission =>
          obtain ⟨orders, marked⟩ := state.mark_orders submission now
          have same : next = { state with orders := orders } := by
            rw [← marked]
            exact (congrArg Prod.snd (Except.ok.inj done)).symm
          exact .kept_of (by rw [same]) (RuntimeLabel.not_paused nofun)
      | storeOrders orders =>
          cases done
          exact .kept (RuntimeLabel.not_paused nofun)

end Binding

/-! ### The authorities along a run -/

section Authorities

variable {start state after : RuntimeState} {history : List RuntimeLabel} {label : RuntimeLabel}
  {submission : RuntimeState.Submission} {now : Instant}

/-- A readiness was recorded by the owner under the token, and still counts. -/
def RuntimeState.Vouched (state : RuntimeState) (ownerId : String) (fencingToken : Int) : Prop :=
  ∃ binding ∈ state.binding, ∃ readiness ∈ binding.readiness,
    readiness.ownerId = ownerId ∧ readiness.fencingToken = fencingToken

/-- The lease has reached every token that a readiness was recorded under. -/
def RuntimeState.Stamped (state : RuntimeState) : Prop :=
  ∀ ownerId fencingToken, state.Vouched ownerId fencingToken →
    fencingToken ≤ leaseStamp state.leaseState

/-- What a submission that passes finds. -/
theorem RuntimeStep.passed
    (step : RuntimeStep state ⟨.markSubmitting submission, now, true⟩ after) :
    state.clock ≤ now ∧ (∃ order ∈ state.orders, submission.Matches order) ∧
      state.Authorised submission now := by
  cases step with
  | rolledBack _ refused => cases refused
  | served next later done =>
      have marked : (state.markPersonalOrderSubmitting submission now).1 = true :=
        congrArg Prod.fst (Except.ok.inj done)
      unfold RuntimeState.markPersonalOrderSubmitting at marked
      split at marked
      · rename_i usable
        have one := of_decide_eq_true marked
        obtain ⟨order, only⟩ := List.length_eq_one_iff.mp one
        have found : order ∈ state.orders.filter fun order => submission.Matches order := by
          rw [only]
          exact List.mem_singleton_self order
        obtain ⟨member, good⟩ := List.mem_filter.mp found
        exact ⟨later, ⟨order, member, of_decide_eq_true good⟩, usable.2⟩
      · cases marked

theorem RuntimeStep.clock_eq (step : RuntimeStep state label after) : after.clock = label.now := by
  cases step with
  | served next later done => rfl
  | rolledBack later refused => rfl

theorem RuntimeStep.clock_le (step : RuntimeStep state label after) : state.clock ≤ after.clock := by
  cases step with
  | served next later done => exact later
  | rolledBack later refused => exact later

/-! The control. -/

theorem RuntimeControl.Unexpired.earlier {control : RuntimeControl} {later : Instant}
    (unexpired : control.Unexpired later) (le : now ≤ later) : control.Unexpired now := by
  obtain ⟨armedUntil, here, due⟩ := unexpired
  exact ⟨armedUntil, here, le.trans_lt due⟩

/-- A disarm, an expiry or a pause leaves no arm. -/
theorem RuntimeStep.unarmed (step : RuntimeStep state label after) (stops : label.Stops) :
    after.controlRow.armedUntil = none := by
  obtain ⟨call, at', granted⟩ := label
  obtain ⟨rfl, called⟩ := stops
  cases step with
  | rolledBack _ refused => cases refused
  | served next later done =>
      rcases called with rfl | ⟨mode, rfl⟩ | ⟨mode, expectedVersion, rfl⟩
      · change state.setPersonalRuntimePaused true = .ok (true, next) at done
        unfold RuntimeState.setPersonalRuntimePaused at done
        rw [require_bind_ok_iff] at done
        obtain ⟨-, done⟩ := done
        split at done
        · cases done
        · dsimp only at done
          split at done
          · rename_i stopped
            cases done
            exact stopped.1.2.2.2
          · cases done
            rfl
      · cases done
        rfl
      · change state.expireRuntimeControl mode expectedVersion at' = .ok (true, next) at done
        unfold RuntimeState.expireRuntimeControl at done
        rw [require_bind_ok_iff] at done
        obtain ⟨-, done⟩ := done
        split at done
        · cases done
        · split at done
          · cases done
            rfl
          · cases done

/-- An arm that has lapsed stays so until the control is armed again. -/
theorem RuntimeStep.stays_lapsed (step : RuntimeStep state label after)
    (lapsed : ¬ state.controlRow.Unexpired state.clock) (unarmed : ¬ label.Armed) :
    ¬ after.controlRow.Unexpired after.clock := by
  have later := step.clock_le
  have change := step.control
  generalize after.controlRow = control at change
  cases change with
  | kept => exact fun unexpired => lapsed (unexpired.earlier later)
  | armed _ _ _ _ armed => exact absurd armed unarmed
  | expired => exact nofun
  | disarmed => exact nofun
  | paused => exact nofun
  | acknowledged => exact fun unexpired => lapsed (RuntimeControl.Unexpired.earlier unexpired later)

theorem RuntimeState.Authorised.unexpired (authorised : state.Authorised submission now) :
    state.controlRow.Unexpired now := by
  obtain ⟨-, ⟨control, here, -, -, -, -, -, -, unexpired⟩, -⟩ := authorised
  have row : state.controlRow = control := by
    simp [RuntimeState.controlRow, Option.mem_def.mp here]
  rw [row]
  exact unexpired

/-! The lease. -/

theorem validateWorkerLease_earlier {lease : Option WorkerLease} {ownerId : String}
    {fencingToken : Int} {later : Instant}
    (valid : validateWorkerLease lease ownerId fencingToken later = true) (le : now ≤ later) :
    validateWorkerLease lease ownerId fencingToken now = true := by
  obtain ⟨held, here, holder, unexpired⟩ := validateWorkerLease_iff.mp valid
  exact validateWorkerLease_iff.mpr ⟨held, here, holder, le.trans_lt unexpired⟩

/-- A worker without an unexpired lease has none until it claims it. -/
theorem RuntimeStep.stays_unleased {ownerId : String} (step : RuntimeStep state label after)
    (unleased : ∀ token, validateWorkerLease state.lease ownerId token state.clock = false)
    (unclaimed : ¬ label.Claimed ownerId) :
    ∀ token, validateWorkerLease after.lease ownerId token after.clock = false := by
  intro token
  rw [Bool.eq_false_iff]
  intro valid
  have before : ∀ lease : Option WorkerLease, lease = state.lease →
      validateWorkerLease lease ownerId token after.clock = true → False := by
    rintro lease rfl valid
    have held := validateWorkerLease_earlier valid step.clock_le
    rw [unleased token] at held
    cases held
  cases step.leaseChange with
  | kept same => exact before _ same valid
  | claimed claimant ttlSeconds claim called given claimed row _ =>
      obtain ⟨held, there, ⟨owner, -⟩, -⟩ := validateWorkerLease_iff.mp valid
      obtain rfl : claim.2 = held := Option.some.inj (row.symm.trans there)
      have mine : claim.1.claimed = true → claim.2.ownerId ≠ claimant := by
        rintro granted rfl
        exact unclaimed ⟨given.trans granted, ttlSeconds, by rw [called, owner]⟩
      cases lease : state.lease with
      | none =>
          rw [lease] at claimed
          obtain ⟨granted, own⟩ := claimWorkerLease_none claimed
          exact mine granted own
      | some old =>
          rw [lease] at claimed
          rcases claimWorkerLease_cases claimed with
            ⟨granted, own, same, -⟩ | ⟨granted, own, -⟩ | ⟨-, same, -, -⟩
          · exact mine granted (own.trans same)
          · exact mine granted own
          · exact before _ (by rw [row, same, lease]) valid
  | released releaser fencingToken row _ =>
      rw [row, step.clock_eq] at valid
      exact before _ rfl (step.clock_eq ▸ validate_of_release valid)

/-! The binding. -/

/-- A paused runtime stays paused until it is resumed. -/
theorem RuntimeStep.stays_paused (step : RuntimeStep state label after)
    (paused : ∃ binding, state.binding = some binding ∧ binding.paused = true)
    (unresumed : ¬ label.Resumed) :
    ∃ binding, after.binding = some binding ∧ binding.paused = true := by
  obtain ⟨old, here, paused⟩ := paused
  have known : ∀ other, state.binding = some other → other.paused = true := by
    intro other there
    obtain rfl : old = other := Option.some.inj (here.symm.trans there)
    exact paused
  have change := step.binding
  generalize after.binding = next at change
  cases change with
  | kept => exact ⟨old, here, paused⟩
  | bound _ unbound => exact absurd (here.symm.trans unbound) nofun
  | rotated other binding there _ _ same => exact ⟨binding, rfl, same.trans (known other there)⟩
  | recorded other binding readiness there same =>
      refine ⟨binding, rfl, ?_⟩
      rw [same]
      exact known other there
  | paused other => exact ⟨_, rfl, rfl⟩
  | resumed _ _ resumed => exact absurd resumed unresumed

/-- A pause pauses the binding. -/
theorem RuntimeStep.is_paused (step : RuntimeStep state label after) (paused : label.Paused) :
    ∃ binding, after.binding = some binding ∧ binding.paused = true := by
  have change := step.binding
  generalize after.binding = next at change
  cases change with
  | kept unpaused => exact absurd paused unpaused
  | bound _ _ _ unpaused => exact absurd paused unpaused
  | rotated _ _ _ _ _ _ unpaused => exact absurd paused unpaused
  | recorded _ _ _ _ _ called =>
      rw [called] at paused
      exact absurd paused.2 nofun
  | paused other => exact ⟨_, rfl, rfl⟩
  | resumed _ _ resumed =>
      obtain ⟨-, expectedVersion, called⟩ := resumed
      exact absurd (called.symm.trans paused.2) nofun

/-- A rotation leaves no readiness. -/
theorem RuntimeStep.unvouched_of_rotated (step : RuntimeStep state label after)
    (rotated : Rotated state after) (ownerId : String) (fencingToken : Int) :
    ¬ after.Vouched ownerId fencingToken := by
  obtain ⟨old, new, here, there, differ⟩ := rotated
  rintro ⟨binding, now', readiness, known, -⟩
  obtain rfl : new = binding := Option.some.inj (there.symm.trans now')
  have same : ∀ other, state.binding = some other → other.identity = new.identity → False := by
    intro other here' same
    obtain rfl : old = other := Option.some.inj (here.symm.trans here')
    exact differ same
  have change := step.binding
  rw [there] at change
  generalize next : some new = row at change
  cases change with
  | kept => exact same new next.symm rfl
  | bound binding unbound => exact absurd (here.symm.trans unbound) nofun
  | rotated other binding _ _ none =>
      cases next
      rw [none] at known
      cases known
  | recorded other binding readiness there' made =>
      cases next
      exact same other there' (by rw [made])
  | paused other there' =>
      cases next
      exact same other there' rfl
  | resumed other there' =>
      cases next
      exact same other there' rfl

/-- Only the record of a readiness vouches for its owner and token. -/
theorem RuntimeStep.vouched (step : RuntimeStep state label after) {ownerId : String}
    {fencingToken : Int} (vouched : after.Vouched ownerId fencingToken) :
    state.Vouched ownerId fencingToken ∨
      label.Recorded ownerId fencingToken ∧
        validateWorkerLease state.lease ownerId fencingToken label.now = true := by
  obtain ⟨binding, there, readiness, known, holder⟩ := vouched
  have change := step.binding
  rw [Option.mem_def.mp there] at change
  generalize next : some binding = row at change
  cases change with
  | kept => exact .inl ⟨binding, next.symm, readiness, known, holder⟩
  | bound fresh _ none =>
      cases next
      rw [none] at known
      cases known
  | rotated old fresh _ _ none =>
      cases next
      rw [none] at known
      cases known
  | recorded old fresh recorded here made called leased =>
      cases next
      rw [made] at known
      obtain rfl : recorded = readiness := Option.some.inj known
      obtain ⟨rfl, rfl⟩ := holder
      rw [called] at leased ⊢
      exact .inr ⟨⟨rfl, _, _, _, rfl⟩, leased⟩
  | paused old here =>
      cases next
      exact .inl ⟨old, here, readiness, known, holder⟩
  | resumed old here =>
      cases next
      exact .inl ⟨old, here, readiness, known, holder⟩

/-- The token that validates is the stamp of the lease. -/
theorem RuntimeState.stamp_of_valid {ownerId : String} {fencingToken : Int}
    (valid : validateWorkerLease state.lease ownerId fencingToken now = true) :
    leaseStamp state.leaseState = fencingToken := by
  obtain ⟨held, here, ⟨-, token⟩, -⟩ := validateWorkerLease_iff.mp valid
  simp [leaseStamp, leaseState, here, token]

theorem RuntimeStep.stamped (stamped : state.Stamped) (step : RuntimeStep state label after) :
    after.Stamped := by
  intro ownerId fencingToken vouched
  have grown : leaseStamp state.leaseState ≤ leaseStamp after.leaseState := step.fenced.stamp_le
  rcases step.vouched vouched with before | ⟨-, valid⟩
  · exact (stamped ownerId fencingToken before).trans grown
  · exact (RuntimeState.stamp_of_valid valid).symm.le.trans grown

/-- After a take-over no readiness vouches for a token that the lease will ever hold. -/
theorem RuntimeStep.vouched_of_takenOver (stamped : state.Stamped)
    (step : RuntimeStep state label after) (taken : TakenOver state after) {ownerId : String}
    {fencingToken : Int} (vouched : after.Vouched ownerId fencingToken) :
    fencingToken < leaseStamp after.leaseState := by
  obtain ⟨held, row, here, there, differ⟩ := taken
  have raised : leaseStamp state.leaseState < leaseStamp after.leaseState := by
    refine step.fenced.stamp_lt fun same => differ ?_
    simpa [leaseOwner, RuntimeState.leaseState, here, there] using same
  have bound : after.binding = state.binding := by
    cases step.leaseChange with
    | kept same =>
        rw [here] at same
        rw [same] at there
        cases there
        exact absurd rfl differ
    | claimed _ _ _ _ _ _ _ same => exact same
    | released _ _ _ same => exact same
  refine lt_of_le_of_lt (stamped ownerId fencingToken ?_) raised
  obtain ⟨binding, member, readiness, known, holder⟩ := vouched
  exact ⟨binding, bound ▸ member, readiness, known, holder⟩

theorem RuntimeState.Authorised.vouched (authorised : state.Authorised submission now) :
    state.Vouched submission.ownerId submission.workerFencingToken := by
  obtain ⟨-, -, binding, here, -, readiness, known, -, -, -, owner, token⟩ := authorised
  exact ⟨binding, here, readiness, known, owner, token⟩

end Authorities

/-! ### Whole runs -/

section Whole

variable {start state : RuntimeState} {history : List RuntimeLabel}

theorem stamped_of_run (unbound : start.binding = none) (run : Run RuntimeStep start history state) :
    state.Stamped := by
  refine run.invariant (fun _ _ _ stamped step => step.stamped stamped) ?_
  rintro ownerId fencingToken ⟨binding, here, -⟩
  rw [unbound] at here
  cases here

/-- Every readiness of the binding was observed in the run. -/
theorem observed_of_run (unbound : start.binding = none) (run : Run RuntimeStep start history state) :
    ∀ binding ∈ state.binding, ∀ readiness ∈ binding.readiness,
      Observed start history binding readiness := by
  refine (run.invariant_history
    (P := fun done state => Run RuntimeStep start done state ∧
      ∀ binding ∈ state.binding, ∀ readiness ∈ binding.readiness,
        Observed start done binding readiness) ?_ ⟨.refl start, ?_⟩).2
  · intro done state label after known step
    refine ⟨known.1.snoc step, ?_⟩
    have longer : ∀ {old binding : PersonalBinding} {readiness : WalletReadiness},
        Observed start done old readiness → old.identity = binding.identity →
        old.bindingVersion = binding.bindingVersion →
        Observed start (done ++ [label]) binding readiness := by
      rintro old binding readiness ⟨front, back, mid, bound, rfl, run, here, same, version⟩ same' version'
      refine ⟨front, back ++ [label], mid, bound, ?_, run, here, same.trans same',
        version.trans version'⟩
      rw [version', List.append_assoc, List.cons_append]
    intro binding there readiness mine
    have change := step.binding
    rw [Option.mem_def.mp there] at change
    generalize next : some binding = row at change
    cases change with
    | kept => exact longer (known.2 binding next.symm readiness mine) rfl rfl
    | bound fresh _ none =>
        cases next
        rw [none] at mine
        cases mine
    | rotated old fresh _ _ none =>
        cases next
        rw [none] at mine
        cases mine
    | recorded old fresh recorded here made called =>
        cases next
        rw [made] at mine
        obtain rfl : recorded = readiness := Option.some.inj mine
        refine ⟨done, [], state, old, ?_, known.1, here, by rw [made], by rw [made]⟩
        rw [called, made]
    | paused old here =>
        cases next
        exact longer (known.2 old here readiness mine) rfl rfl
    | resumed old here =>
        cases next
        exact longer (known.2 old here readiness mine) rfl rfl
  · intro binding here
    rw [unbound] at here
    cases here

/-- The gate of a personal order keeps its authorities, in every run of an account whose
wallet is bound by the run. -/
theorem gate_keeps (unbound : start.binding = none) : GateKeeps start where
  passes := by
    intro history state submission now after run step
    obtain ⟨-, signed, leased, armed, binding, here, unpaused, readiness, known, ready⟩ := step.passed
    exact ⟨signed, leased, armed, binding, here, unpaused, readiness, ready,
      observed_of_run unbound run binding here readiness known⟩
  rearmed := by
    intro front ending between s t u v submission now before ends ended meanwhile pass
    have lapsed : ¬ t.controlRow.Unexpired t.clock := by
      rcases ended with stops | lapsed
      · rintro ⟨armedUntil, here, -⟩
        rw [ends.unarmed stops] at here
        cases here
      · exact lapsed
    refine meanwhile.exists_label (P := fun state => ¬ state.controlRow.Unexpired state.clock)
      (fun _ _ _ lapsed step => step.stays_lapsed lapsed) lapsed (fun still => still ?_)
    obtain ⟨later, -, authorised⟩ := pass.passed
    exact authorised.unexpired.earlier later
  resumed := by
    intro front ending between s t u v submission now before ends paused meanwhile pass
    refine meanwhile.exists_label
      (P := fun state => ∃ binding, state.binding = some binding ∧ binding.paused = true)
      (fun _ _ _ paused step => step.stays_paused paused) (ends.is_paused paused) ?_
    rintro ⟨binding, here, still⟩
    obtain ⟨-, -, -, -, bound, there, unpaused, -⟩ := pass.passed
    obtain rfl : binding = bound := Option.some.inj (here.symm.trans there)
    exact absurd (still.symm.trans unpaused) nofun
  claimed := by
    intro front ending between s t u v submission now before ends unleased meanwhile pass
    refine meanwhile.exists_label
      (P := fun state => ∀ token,
        validateWorkerLease state.lease submission.ownerId token state.clock = false)
      (fun _ _ _ unleased step => step.stays_unleased unleased) unleased (fun still => ?_)
    obtain ⟨later, -, leased, -⟩ := pass.passed
    have held := validateWorkerLease_earlier leased later
    rw [still] at held
    cases held
  taken_over := by
    intro front ending between s t u v submission now before ends taken meanwhile pass
    obtain ⟨-, -, authorised⟩ := pass.passed
    have grown : leaseStamp t.leaseState ≤ leaseStamp u.leaseState :=
      (Fenced.of_run (fun _ _ _ => RuntimeStep.fenced) meanwhile).stamp_le
    have stamp := RuntimeState.stamp_of_valid authorised.1
    refine meanwhile.exists_label
      (P := fun state => ¬ state.Vouched submission.ownerId submission.workerFencingToken)
      (fun _ _ _ unvouched step unrecorded vouched => ?_) (fun vouched => ?_)
      (fun still => still authorised.vouched)
    · rcases step.vouched vouched with earlier | ⟨recorded, -⟩
      · exact unvouched earlier
      · exact unrecorded recorded
    · have low := ends.vouched_of_takenOver (stamped_of_run unbound before) taken vouched
      omega
  rotated := by
    intro front ending between s t u v submission now before ends rotated meanwhile pass
    obtain ⟨-, -, authorised⟩ := pass.passed
    refine meanwhile.exists_label
      (P := fun state => ¬ state.Vouched submission.ownerId submission.workerFencingToken)
      (fun _ _ _ unvouched step unrecorded vouched => ?_) (ends.unvouched_of_rotated rotated _ _)
      (fun still => still authorised.vouched)
    rcases step.vouched vouched with earlier | ⟨recorded, -⟩
    · exact unvouched earlier
    · exact unrecorded recorded
  versions := by
    intro history state label after _ step
    exact step.version

end Whole

def exampleWallet : WalletIdentity :=
  ⟨"0x1111111111111111111111111111111111111111", "0x2222222222222222222222222222222222222222", 137,
    "0x3333333333333333333333333333333333333333"⟩

/-- A worker claims the lease, binds and observes the wallet, arms the control and signs
an order. -/
def readyAccount : RuntimeState :=
  [.claimLease "worker-a" 60, .bindWallet "worker-a" 1 exampleWallet,
    .recordReadiness "worker-a" 1 1 5 true, .armPersonal "worker-a" 1 .live 60000000 1,
    .storeOrders [⟨"intent", .live, .signed, some 1, 0, none⟩]].foldl
      (fun state call => state.after call 1) freshAccount

/-- The signed order passes the gate, and after a pause it does not. -/
theorem readyAccount_passes : GateKeeps freshAccount ∧
    (readyAccount.markPersonalOrderSubmitting ⟨"intent", "worker-a", 1, 2, .live⟩ 2).1 = true ∧
    ((readyAccount.after (.setPaused true) 2).markPersonalOrderSubmitting
      ⟨"intent", "worker-a", 1, 2, .live⟩ 3).1 = false :=
  ⟨gate_keeps rfl, by decide, by decide⟩

end Polybot
