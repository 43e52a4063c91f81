import Polybot.Control.Tenants

/-!
The cycle jobs and the gate of a tenant's order (`0007_secure_multitenant.sql`,
`0010_atomic_tenant_submission_gate.sql`, `0013_cycle_result_summary.sql`).

A job is enqueued with the wallet it trades with, claimed under a fencing token, run and
ended. `mark_tenant_order_submitting` moves a signed order to `submitting` for a running
job, and the trigger on the update looks at the wallet of the profile once more.
-/

namespace Polybot

open Checked

/-! ### Profiles -/

namespace TenantState

variable (state : TenantState)

/-- The active risk policy of an account. -/
def activeRisk (accountId : String) : Option (String × RiskPolicy) :=
  state.risks.entries.find? fun entry => entry.2.accountId = accountId ∧ entry.2.active = true

/-- The active risk policy with the id, of the account. -/
def activeRiskOf (accountId riskId : String) : Option RiskPolicy :=
  (state.risks.get? riskId).filter fun risk => risk.accountId = accountId ∧ risk.active = true

/-- The active risk policy of an account, inserted where there is none. -/
def ensureRiskPolicy (accountId newRiskId : String) : Except SqlError (String × TenantState) :=
  match state.activeRisk accountId with
  | some (riskId, _) => .ok (riskId, state)
  | none => do
      require (¬ ∃ entry ∈ state.risks.entries,
          entry.1 = newRiskId ∨ entry.2.accountId = accountId ∧ entry.2.version = 1)
        (.uniqueViolation "risk_policies_account_version_uidx")
      pure (newRiskId, { state with risks := state.risks.set newRiskId ⟨accountId, 1, true⟩ })

/-- `ensure_account_runtime_profile`: the profile, with the rows of the account that it
inserts. -/
def ensureAccountRuntimeProfile (accountId newRiskId : String) :
    Except SqlError (RuntimeProfile × TenantState) := do
  let (riskId, state) ← state.ensureRiskPolicy accountId newRiskId
  let control := (state.controls.get? accountId).getD .fresh
  let profile := (state.profiles.get? accountId).getD
    ⟨none, none, some riskId, .paper, false, none, false, 1⟩
  pure (profile,
    { state with
      controls := state.controls.set accountId control
      profiles := state.profiles.set accountId profile })

end TenantState

/-! ### Jobs -/

/-- The arguments of `enqueue_cycle_job`. -/
structure JobRequest where
  accountId : String
  idempotencyKey : String
  mode : TradingMode
  tradingWalletId : Option String
  aiCredentialId : Option String
  riskPolicyId : Option String
  runAfter : Option Instant
  deriving DecidableEq

/-- `status in ('queued', 'claimed', 'running')`. -/
def JobStatus.Open (status : JobStatus) : Prop :=
  status = queued ∨ status = claimed ∨ status = running

instance (status : JobStatus) : Decidable status.Open :=
  inferInstanceAs (Decidable (_ ∨ _ ∨ _))

/-- `status in ('claimed', 'running')`. -/
def JobStatus.Working (status : JobStatus) : Prop :=
  status = claimed ∨ status = running

instance (status : JobStatus) : Decidable status.Working :=
  inferInstanceAs (Decidable (_ ∨ _))

/-- The control is armed for a job in the mode. -/
def RuntimeControl.ArmedFor (control : RuntimeControl) (mode : TradingMode) (now : Instant) : Prop :=
  control.armed = true ∧ control.killSwitch = false ∧ control.acceptNewIntents = true ∧
    control.cancellationPending = false ∧ control.mode = mode ∧ control.Unexpired now

instance (control : RuntimeControl) (mode : TradingMode) (now : Instant) :
    Decidable (control.ArmedFor mode now) :=
  inferInstanceAs (Decidable (_ ∧ _ ∧ _ ∧ _ ∧ _ ∧ _))

/-- The holder has an unexpired claim of the job under the token. -/
def CycleJob.HeldBy (job : CycleJob) (claimedBy : String) (fencingToken : Int) (now : Instant) :
    Prop :=
  job.claimedBy = some claimedBy ∧ job.fencingToken = fencingToken ∧ job.status.Working ∧
    ∃ expiresAt ∈ job.leaseExpiresAt, now < expiresAt

instance (job : CycleJob) (claimedBy : String) (fencingToken : Int) (now : Instant) :
    Decidable (job.HeldBy claimedBy fencingToken now) :=
  inferInstanceAs (Decidable (_ ∧ _ ∧ _ ∧ ∃ expiresAt ∈ job.leaseExpiresAt, _))

/-- The lease of the job has lapsed. -/
def CycleJob.Lapsed (job : CycleJob) (now : Instant) : Prop :=
  job.status.Working ∧ ∃ expiresAt ∈ job.leaseExpiresAt, expiresAt ≤ now

instance (job : CycleJob) (now : Instant) : Decidable (job.Lapsed now) :=
  inferInstanceAs (Decidable (_ ∧ ∃ expiresAt ∈ job.leaseExpiresAt, _))

namespace TenantState

variable (state : TenantState)

/-- The active wallet of an account. -/
def ActiveWallet (accountId : String) (walletId : Option String) : Prop :=
  ∃ id ∈ walletId, ∃ wallet ∈ state.walletOf accountId id, wallet.status = .active

instance (accountId : String) (walletId : Option String) :
    Decidable (state.ActiveWallet accountId walletId) :=
  inferInstanceAs (Decidable (∃ id ∈ walletId, ∃ wallet ∈ state.walletOf accountId id, _))

/-- An active credential of the kind, of the account. -/
def ActiveCredential (accountId : String) (kind : CredentialKind) (credentialId : String) : Prop :=
  ∃ credential ∈ state.credentialOf accountId credentialId,
    credential.kind = kind ∧ credential.status = .active

instance (accountId : String) (kind : CredentialKind) (credentialId : String) :
    Decidable (state.ActiveCredential accountId kind credentialId) :=
  inferInstanceAs (Decidable (∃ credential ∈ state.credentialOf accountId credentialId, _))

/-- `enqueue_cycle_job`. The trigger on the insertion repeats the check of the wallet. -/
def enqueueCycleJob (request : JobRequest) (jobId newRiskId : String) (now : Instant) : Served := do
  require (isIdempotencyKey request.idempotencyKey = true ∧
      ∀ runAfter ∈ request.runAfter, runAfter ≤ now + seconds 86400)
    (.raised "invalid cycle job request")
  let (profile, state) ← state.ensureAccountRuntimeProfile request.accountId newRiskId
  let walletId := request.tradingWalletId.or profile.tradingWalletId
  let aiId := request.aiCredentialId.or profile.aiCredentialId
  let riskId := request.riskPolicyId.or profile.riskPolicyId
  match state.jobs.values.find? fun job => job.accountId = request.accountId ∧
      job.idempotencyKey = request.idempotencyKey with
  | some existing => do
      require (existing.mode = request.mode ∧ existing.tradingWalletId = walletId ∧
          existing.aiCredentialId = aiId ∧ existing.riskPolicy.map Prod.fst = riskId ∧
          existing.requestedRunAfter = request.runAfter)
        (.raised "cycle job idempotency conflict")
      pure (true, state)
  | none => do
      require (∀ id ∈ aiId, state.ActiveCredential request.accountId .aiApiKey id)
        (.raised "AI credential is inactive or cross-tenant")
      require (∀ id ∈ riskId, (state.activeRiskOf request.accountId id).isSome = true)
        (.raised "risk policy is inactive or cross-tenant")
      require (request.mode.RealMoney → state.ActiveWallet request.accountId walletId ∧
          aiId ≠ none ∧ riskId ≠ none)
        (.raised "real-money job prerequisites are incomplete")
      require (request.mode.RealMoney → ∃ control ∈ state.controls.get? request.accountId,
          control.ArmedFor request.mode now)
        (.raised "real-money runtime is not armed")
      require (∀ id ∈ walletId, (state.walletOf request.accountId id).isSome = true)
        (.raised "cycle_jobs violates a foreign key constraint")
      require (state.jobs.get? jobId = none) (.uniqueViolation "cycle_jobs_pkey")
      require (¬ ∃ job ∈ state.jobs.values, job.accountId = request.accountId ∧ job.status.Open)
        (.uniqueViolation "cycle_jobs_one_active_per_account_uidx")
      pure (true,
        { state with
          jobs := state.jobs.set jobId
            { accountId := request.accountId
              tradingWalletId := walletId
              aiCredentialId := aiId
              riskPolicy := riskId.bind fun id =>
                (state.activeRiskOf request.accountId id).map fun risk => (id, risk.version)
              mode := request.mode
              idempotencyKey := request.idempotencyKey
              status := .queued
              runAfter := request.runAfter.getD now
              requestedRunAfter := request.runAfter
              claimedBy := none
              fencingToken := 0
              heartbeatAt := none
              leaseExpiresAt := none
              attemptCount := 0
              maxAttempts := 3
              errorCode := none
              startedAt := none
              completedAt := none
              resultSummary := none
              createdAt := now } })

/-- Fail the jobs whose lease has lapsed after their last attempt. -/
def failLapsed (accountId : Option String) (now : Instant) : TenantState :=
  { state with
    jobs := state.jobs.map fun _ job =>
      if job.Lapsed now ∧ job.maxAttempts ≤ job.attemptCount ∧
          ∀ account ∈ accountId, job.accountId = account then
        { job with
          status := .failed
          errorCode := some "lease_exhausted"
          completedAt := some now
          leaseExpiresAt := none }
      else job }

/-- The jobs that a worker may claim. -/
def dueJobs (accountId : Option String) (now : Instant) : List (String × CycleJob) :=
  state.jobs.entries.filter fun entry => decide ((∀ account ∈ accountId, entry.2.accountId = account) ∧
    entry.2.runAfter ≤ now ∧ (entry.2.status = .queued ∨
      entry.2.Lapsed now ∧ entry.2.attemptCount < entry.2.maxAttempts))

/-- The jobs that `order by run_after, created_at` lists first. -/
def firstDue (accountId : Option String) (now : Instant) : List (String × CycleJob) :=
  (state.dueJobs accountId now).filter fun entry =>
    decide (∀ other ∈ state.dueJobs accountId now,
      entry.2.runAfter < other.2.runAfter ∨
        entry.2.runAfter = other.2.runAfter ∧ entry.2.createdAt ≤ other.2.createdAt)

/-- Write the job. -/
def withJob (jobId : String) (job : CycleJob) : TenantState :=
  { state with jobs := state.jobs.set jobId job }

/-- `claim_next_cycle_job`. -/
def claimNextCycleJob (claimedBy : String) (leaseSeconds : Int) (accountId : Option String)
    (tie : Nat) (now : Instant) : Served := do
  require ((1 ≤ claimedBy.length ∧ claimedBy.length ≤ 120) ∧ 10 ≤ leaseSeconds ∧ leaseSeconds ≤ 300)
    (.raised "invalid cycle job lease")
  let swept := state.failLapsed accountId now
  match pick tie (swept.firstDue accountId now) with
  | none => pure (false, swept)
  | some (jobId, job) =>
      pure (true, swept.withJob jobId
        { job with
          status := .claimed
          claimedBy := some claimedBy
          fencingToken := job.fencingToken + 1
          heartbeatAt := some now
          leaseExpiresAt := some (now + seconds leaseSeconds)
          attemptCount := job.attemptCount + 1
          errorCode := none })

/-- The job of an account that the holder has. -/
def heldJob (accountId jobId claimedBy : String) (fencingToken : Int) (now : Instant) :
    Option CycleJob :=
  (state.jobs.get? jobId).filter fun job =>
    decide (job.accountId = accountId ∧ job.HeldBy claimedBy fencingToken now)

/-- Update the job that the holder has. -/
def updateHeldJob (accountId jobId claimedBy : String) (fencingToken : Int) (now : Instant)
    (update : CycleJob → Option CycleJob) : Bool × TenantState :=
  match (state.heldJob accountId jobId claimedBy fencingToken now).bind update with
  | none => (false, state)
  | some job => (true, state.withJob jobId job)

/-- `heartbeat_cycle_job`. -/
def heartbeatCycleJob (accountId jobId claimedBy : String) (fencingToken leaseSeconds : Int)
    (now : Instant) : Served :=
  if 10 ≤ leaseSeconds ∧ leaseSeconds ≤ 300 then
    .ok (state.updateHeldJob accountId jobId claimedBy fencingToken now fun job =>
      some
        { job with
          heartbeatAt := some now
          leaseExpiresAt := some (now + seconds leaseSeconds) })
  else .ok (false, state)

/-- `mark_cycle_job_running`. -/
def markCycleJobRunning (accountId jobId claimedBy : String) (fencingToken : Int) (now : Instant) :
    Served :=
  .ok (state.updateHeldJob accountId jobId claimedBy fencingToken now fun job =>
    if job.status = .claimed then
      some
        { job with
          status := .running
          startedAt := job.startedAt.or (some now) }
    else none)

/-- `complete_cycle_job`, and `complete_cycle_job_with_result` where there is a summary. -/
def completeCycleJob (accountId jobId claimedBy : String) (fencingToken : Int)
    (resultSummary : Option String) (now : Instant) : Served :=
  .ok (state.updateHeldJob accountId jobId claimedBy fencingToken now fun job =>
    some
      { job with
        status := .succeeded
        completedAt := some now
        leaseExpiresAt := none
        resultSummary := resultSummary.or job.resultSummary })

/-- `fail_cycle_job`. -/
def failCycleJob (accountId jobId claimedBy : String) (fencingToken : Int) (errorCode : String)
    (retryable : Bool) (now : Instant) : Served := do
  require (isErrorCode errorCode = true) (.raised "invalid worker error code")
  pure (state.updateHeldJob accountId jobId claimedBy fencingToken now fun job =>
    if retryable = true ∧ job.attemptCount < job.maxAttempts then
      some
        { job with
          status := .queued
          claimedBy := none
          leaseExpiresAt := none
          runAfter := now + seconds 30
          errorCode := some errorCode
          completedAt := none }
    else
      some
        { job with
          status := .failed
          leaseExpiresAt := none
          errorCode := some errorCode
          completedAt := some now })

/-! ### The gate -/

/-- The arguments of `mark_tenant_order_submitting`. -/
structure Submission where
  accountId : String
  intentHash : String
  workerFencingToken : Int
  controlVersion : Int
  jobId : String
  claimedBy : String
  jobFencingToken : Int
  profileVersion : Int
  riskPolicyId : String
  riskPolicyVersion : Int
  mode : TradingMode
  deriving DecidableEq

/-- The job authorises the submission. -/
def Submission.Runs (submission : Submission) (job : CycleJob) (now : Instant) : Prop :=
  job.accountId = submission.accountId ∧
    job.HeldBy submission.claimedBy submission.jobFencingToken now ∧ job.status = .running ∧
    job.mode = submission.mode ∧
    job.riskPolicy = some (submission.riskPolicyId, submission.riskPolicyVersion)

instance (submission : Submission) (job : CycleJob) (now : Instant) :
    Decidable (submission.Runs job now) :=
  inferInstanceAs (Decidable (_ ∧ _ ∧ _ ∧ _ ∧ _))

/-- The profile is the one that the job was made for. -/
def Submission.Profiled (submission : Submission) (profile : RuntimeProfile) (job : CycleJob) : Prop :=
  profile.version = submission.profileVersion ∧ profile.suspended = false ∧
    profile.desiredMode = submission.mode ∧ profile.aiCredentialId = job.aiCredentialId ∧
    profile.tradingWalletId = job.tradingWalletId ∧
    profile.riskPolicyId = some submission.riskPolicyId

instance (submission : Submission) (profile : RuntimeProfile) (job : CycleJob) :
    Decidable (submission.Profiled profile job) :=
  inferInstanceAs (Decidable (_ ∧ _ ∧ _ ∧ _ ∧ _ ∧ _))

/-- All mutable authority of the submission. -/
def Authorised (submission : Submission) (now : Instant) : Prop :=
  (∃ lease ∈ state.leases.get? submission.accountId,
      lease.fencingToken = submission.workerFencingToken ∧ now < lease.expiresAt) ∧
    (∃ control ∈ state.controls.get? submission.accountId,
      control.version = submission.controlVersion ∧ control.ArmedFor submission.mode now) ∧
    (∃ risk ∈ state.activeRiskOf submission.accountId submission.riskPolicyId,
      risk.version = submission.riskPolicyVersion) ∧
    ∃ job ∈ state.jobs.get? submission.jobId, submission.Runs job now ∧
      (∃ profile ∈ state.profiles.get? submission.accountId, submission.Profiled profile job) ∧
      (∃ aiId ∈ job.aiCredentialId, state.ActiveCredential submission.accountId .aiApiKey aiId) ∧
      ∃ walletId ∈ job.tradingWalletId, ∃ wallet ∈ state.walletOf submission.accountId walletId,
        wallet.status = .active ∧
          state.ActiveCredential submission.accountId .evmSignerKey wallet.signerCredentialId

instance (submission : Submission) (now : Instant) : Decidable (state.Authorised submission now) :=
  inferInstanceAs (Decidable ((∃ lease ∈ state.leases.get? submission.accountId, _) ∧
    (∃ control ∈ state.controls.get? submission.accountId, _) ∧
    (∃ risk ∈ state.activeRiskOf submission.accountId submission.riskPolicyId, _) ∧
    ∃ job ∈ state.jobs.get? submission.jobId, _ ∧
      (∃ profile ∈ state.profiles.get? submission.accountId, _) ∧
      (∃ aiId ∈ job.aiCredentialId, _) ∧
      ∃ walletId ∈ job.tradingWalletId,
        ∃ wallet ∈ state.walletOf submission.accountId walletId, _))

/-- The order that the submission is about is signed for it. -/
def Submission.Matches (submission : Submission) (order : GatedOrder) : Prop :=
  order.clientOrderId = submission.intentHash ∧ order.status = .signed ∧
    order.environment = submission.mode ∧
    order.workerFencingToken = some submission.workerFencingToken

instance (submission : Submission) (order : GatedOrder) : Decidable (submission.Matches order) :=
  inferInstanceAs (Decidable (_ ∧ _ ∧ _ ∧ _))

/-- `enforce_submitting_wallet_readiness`: what the trigger asks of an order of the account. -/
def SubmittingReady (accountId : String) (order : GatedOrder) (now : Instant) : Prop :=
  if order.submissionScope = some "personal" then
    ∃ binding ∈ state.bindings.get? accountId, ∃ lease ∈ state.leases.get? accountId,
      binding.paused = false ∧ (∃ readiness ∈ binding.readiness,
        RuntimeState.WalletReady readiness lease.ownerId lease.fencingToken now) ∧
      order.workerFencingToken = some lease.fencingToken ∧ now < lease.expiresAt
  else
    ∃ profile ∈ state.profiles.get? accountId, profile.suspended = false ∧
      ∃ walletId ∈ profile.tradingWalletId, ∃ wallet ∈ state.walletOf accountId walletId,
        wallet.status = .active ∧ wallet.identity ≠ none ∧ ∃ readiness ∈ wallet.readiness,
          0 < readiness.collateralBalancePusd ∧ readiness.allowancesReady = true ∧
            now - RuntimeState.fifteenMinutes < readiness.readinessCheckedAt

instance (accountId : String) (order : GatedOrder) (now : Instant) :
    Decidable (state.SubmittingReady accountId order now) := by
  unfold SubmittingReady
  infer_instance

/-- `mark_tenant_order_submitting`. -/
def markTenantOrderSubmitting (submission : Submission) (now : Instant) : Served :=
  if submission.mode.RealMoney ∧ state.Authorised submission now then do
    let orders := state.ordersOf submission.accountId
    let matching := orders.filter fun order => submission.Matches order
    require (∀ order ∈ matching, state.SubmittingReady submission.accountId order now)
      (.raised "live wallet readiness gate rejected submission")
    let marked := orders.map fun order =>
      if submission.Matches order then
        { order with
          status := .submitting
          attemptCount := order.attemptCount + 1 }
      else order
    pure (decide (matching.length = 1),
      { state with orders := state.orders.set submission.accountId marked })
  else .ok (false, state)

end TenantState

end Polybot
