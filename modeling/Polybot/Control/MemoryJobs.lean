import Polybot.Collections.Table
import Polybot.Control.JobFencing
import Polybot.Interaction.Machine

/-!
The job queue of `InMemoryJobRepository`, next to the one of the database.

The repository is the queue of the paper mode and of the tests. Its guards are written
again for each operation: `complete` and `mark_running` do not look at the lease, `fail`
not at the status either, a claim does not fail the exhausted jobs, and `enqueue` makes
few of the checks of the database. `queue_stands_in_iff` says for which sequences of
calls both queues accept the same calls and have the same jobs.
-/

namespace Polybot

open Checked Interaction

/-- A call of the queue. `jobId` and `newRiskId` are the ids that are drawn for new rows, and
`tie` is the row that the database lists first of those that come first. -/
inductive QueueCall where
  | enqueue (request : JobRequest) (jobId newRiskId : String)
  | claim (claimedBy : String) (leaseSeconds : Int) (accountId : Option String) (tie : Nat)
  | heartbeat (accountId jobId claimedBy : String) (fencingToken leaseSeconds : Int)
  | validate (accountId jobId claimedBy : String) (fencingToken : Int)
  | markRunning (accountId jobId claimedBy : String) (fencingToken : Int)
  | complete (accountId jobId claimedBy : String) (fencingToken : Int)
      (resultSummary : Option String)
  | fail (accountId jobId claimedBy : String) (fencingToken : Int) (errorCode : String)
      (retryable : Bool)

/-- The error code of the call, if it has one, is valid. -/
def QueueCall.Valid : QueueCall → Prop
  | fail _ _ _ _ errorCode _ => isErrorCode errorCode = true
  | _ => True

instance QueueCall.Valid.decidable : (call : QueueCall) → Decidable call.Valid
  | .enqueue .. | .claim .. | .heartbeat .. | .validate .. | .markRunning .. | .complete .. =>
      inferInstanceAs (Decidable True)
  | .fail .. => inferInstanceAs (Decidable (_ = _))

/-- What is compared of a job. -/
structure JobView where
  status : JobStatus
  claimedBy : Option String
  fencingToken : Int
  attemptCount : Nat
  leaseExpiresAt : Option Instant
  deriving DecidableEq

/-- Whether the call was accepted, and the jobs after it. -/
structure QueueAnswer where
  accepted : Bool
  jobs : String → Option JobView

/-! ### The database -/

def CycleJob.view (job : CycleJob) : JobView :=
  ⟨job.status, job.claimedBy, job.fencingToken, job.attemptCount, job.leaseExpiresAt⟩

namespace TenantState

variable (state : TenantState)

def jobViews (jobId : String) : Option JobView :=
  (state.jobs.get? jobId).map CycleJob.view

/-- The function of the database. -/
def queueRpc (now : Instant) : QueueCall → Served
  | .enqueue request jobId newRiskId => state.enqueueCycleJob request jobId newRiskId now
  | .claim claimedBy leaseSeconds accountId tie =>
      state.claimNextCycleJob claimedBy leaseSeconds accountId tie now
  | .heartbeat accountId jobId claimedBy fencingToken leaseSeconds =>
      state.heartbeatCycleJob accountId jobId claimedBy fencingToken leaseSeconds now
  | .validate accountId jobId claimedBy fencingToken =>
      .ok (state.validateCycleJobLease accountId jobId claimedBy fencingToken now, state)
  | .markRunning accountId jobId claimedBy fencingToken =>
      state.markCycleJobRunning accountId jobId claimedBy fencingToken now
  | .complete accountId jobId claimedBy fencingToken resultSummary =>
      state.completeCycleJob accountId jobId claimedBy fencingToken resultSummary now
  | .fail accountId jobId claimedBy fencingToken errorCode retryable =>
      state.failCycleJob accountId jobId claimedBy fencingToken errorCode retryable now

/-- A function that raises is rolled back. -/
def serveQueue (call : QueueCall × Instant) : TenantState × QueueAnswer :=
  match state.queueRpc call.2 call.1 with
  | .ok (accepted, next) => (next, ⟨accepted, next.jobViews⟩)
  | .error _ => (state, ⟨false, state.jobViews⟩)

end TenantState

/-! ### `InMemoryJobRepository` -/

/-- `CycleJob`, as an entry of `_jobs`. -/
structure MemoryJob where
  accountId : String
  tradingWalletId : Option String
  aiCredentialId : Option String
  riskPolicyId : Option String
  riskPolicyVersion : Option Int
  mode : TradingMode
  idempotencyKey : String
  status : JobStatus
  attemptCount : Nat
  maxAttempts : Nat
  claimedBy : Option String
  fencingToken : Int
  heartbeatAt : Option Instant
  leaseExpiresAt : Option Instant
  runAfter : Instant
  requestedRunAfter : Option Instant
  errorCode : Option String
  createdAt : Instant
  updatedAt : Instant
  startedAt : Option Instant
  completedAt : Option Instant
  resultSummary : Option String
  deriving DecidableEq

/-- What `enqueue` reads of a profile. -/
structure MemoryProfile where
  tradingWalletId : Option String
  aiCredentialId : Option String
  riskPolicyId : Option String
  deriving DecidableEq

/-- What the queue reads of the repository. A risk policy is its id and its version. -/
structure InMemoryJobRepository where
  profiles : Dict String MemoryProfile
  risks : Dict String (String × Int)
  jobs : Dict String MemoryJob
  liveReadyAccounts : List String
  deriving DecidableEq

def MemoryJob.view (job : MemoryJob) : JobView :=
  ⟨job.status, job.claimedBy, job.fencingToken, job.attemptCount, job.leaseExpiresAt⟩

/-- What the repository raises. -/
inductive RepositoryError where
  | jobConflict (message : String)
  | accountNotReady (message : String)
  | valueError (message : String)
  deriving DecidableEq

/-- `job.status in {CLAIMED, RUNNING}` and the lease lasts beyond the instant. -/
def MemoryJob.Leased (job : MemoryJob) (now : Instant) : Prop :=
  job.status.Working ∧ ∃ expiresAt ∈ job.leaseExpiresAt, now < expiresAt

instance (job : MemoryJob) (now : Instant) : Decidable (job.Leased now) :=
  inferInstanceAs (Decidable (_ ∧ ∃ expiresAt ∈ job.leaseExpiresAt, _))

/-- The lease of the job has lapsed. -/
def MemoryJob.Lapsed (job : MemoryJob) (now : Instant) : Prop :=
  job.status.Working ∧ ∃ expiresAt ∈ job.leaseExpiresAt, expiresAt ≤ now

instance (job : MemoryJob) (now : Instant) : Decidable (job.Lapsed now) :=
  inferInstanceAs (Decidable (_ ∧ ∃ expiresAt ∈ job.leaseExpiresAt, _))

/-- `key=lambda item: (item.run_after, item.created_at)`. -/
def MemoryJob.DueBefore (entry other : String × MemoryJob) : Prop :=
  entry.2.runAfter < other.2.runAfter ∨
    entry.2.runAfter = other.2.runAfter ∧ entry.2.createdAt ≤ other.2.createdAt

instance : DecidableRel MemoryJob.DueBefore :=
  fun _ _ => inferInstanceAs (Decidable (_ ∨ _ ∧ _))

namespace InMemoryJobRepository

variable (repository : InMemoryJobRepository)

/-- `get_or_create_profile`. -/
def getOrCreateProfile (accountId newRiskId : String) : MemoryProfile × InMemoryJobRepository :=
  match repository.profiles.get? accountId with
  | some profile => (profile, repository)
  | none =>
      let profile : MemoryProfile := ⟨none, none, some newRiskId⟩
      (profile,
        { repository with
          risks := repository.risks.set accountId (newRiskId, 1)
          profiles := repository.profiles.set accountId profile })

/-- The existing job is the one that the request asks for. -/
def Repeats (request : JobRequest) (profile : MemoryProfile) (existing : MemoryJob) : Prop :=
  existing.mode = request.mode ∧
    existing.tradingWalletId = request.tradingWalletId.or profile.tradingWalletId ∧
    existing.aiCredentialId = request.aiCredentialId.or profile.aiCredentialId ∧
    existing.riskPolicyId = request.riskPolicyId.or profile.riskPolicyId ∧
    existing.requestedRunAfter = request.runAfter

instance (request : JobRequest) (profile : MemoryProfile) (existing : MemoryJob) :
    Decidable (Repeats request profile existing) :=
  inferInstanceAs (Decidable (_ ∧ _ ∧ _ ∧ _ ∧ _))

/-- The job of the account with the idempotency key. -/
def existingJob (request : JobRequest) : Option MemoryJob :=
  repository.jobs.values.find? fun job => decide (job.accountId = request.accountId ∧
    job.idempotencyKey = request.idempotencyKey)

/-- `assert_live_ready` of a job with real money. -/
def Ready (request : JobRequest) : Prop :=
  request.mode.RealMoney → request.accountId ∈ repository.liveReadyAccounts

instance (request : JobRequest) : Decidable (repository.Ready request) :=
  inferInstanceAs (Decidable (_ → _))

/-- `enqueue`. -/
def enqueue (request : JobRequest) (jobId newRiskId : String) (now : Instant) :
    Except RepositoryError Unit × InMemoryJobRepository :=
  match repository.existingJob request with
  | some existing =>
      let (profile, repository) := repository.getOrCreateProfile request.accountId newRiskId
      if Repeats request profile existing then (.ok (), repository)
      else (.error (.jobConflict "cycle idempotency key was reused with different input"), repository)
  | none =>
      if repository.Ready request then
        let (profile, repository) := repository.getOrCreateProfile request.accountId newRiskId
        let selectedRiskId := request.riskPolicyId.or profile.riskPolicyId
        let job : MemoryJob :=
          { accountId := request.accountId
            tradingWalletId := request.tradingWalletId.or profile.tradingWalletId
            aiCredentialId := request.aiCredentialId.or profile.aiCredentialId
            riskPolicyId := selectedRiskId
            riskPolicyVersion :=
              ((repository.risks.get? request.accountId).filter fun risk =>
                decide (some risk.1 = selectedRiskId)).map Prod.snd
            mode := request.mode
            idempotencyKey := request.idempotencyKey
            status := .queued
            attemptCount := 0
            maxAttempts := 3
            claimedBy := none
            fencingToken := 0
            heartbeatAt := none
            leaseExpiresAt := none
            runAfter := request.runAfter.getD now
            requestedRunAfter := request.runAfter
            errorCode := none
            createdAt := now
            updatedAt := now
            startedAt := none
            completedAt := none
            resultSummary := none }
        (.ok (), { repository with jobs := repository.jobs.set jobId job })
      else (.error (.accountNotReady
        "active tenant AI credential, verified wallet, and risk policy are required"), repository)

/-- The jobs that a worker may claim. -/
def eligible (accountId : Option String) (now : Instant) : List (String × MemoryJob) :=
  repository.jobs.entries.filter fun entry =>
    decide ((∀ account ∈ accountId, entry.2.accountId = account) ∧ entry.2.runAfter ≤ now ∧
      (entry.2.status = .queued ∨
        entry.2.Lapsed now ∧ entry.2.attemptCount < entry.2.maxAttempts))

/-- Write the job. -/
def withJob (jobId : String) (job : MemoryJob) : InMemoryJobRepository :=
  { repository with jobs := repository.jobs.set jobId job }

/-- `claim_next_job`. -/
def claimNextJob (claimedBy : String) (leaseSeconds : Int) (accountId : Option String)
    (now : Instant) : Except RepositoryError Bool × InMemoryJobRepository :=
  if claimedBy = "" ∨ ¬ (10 ≤ leaseSeconds ∧ leaseSeconds ≤ 300) then
    (.error (.valueError "invalid worker lease"), repository)
  else
    match ((repository.eligible accountId now).insertionSort MemoryJob.DueBefore).head? with
    | none => (.ok false, repository)
    | some (jobId, job) =>
        (.ok true, repository.withJob jobId
          { job with
            status := .claimed
            claimedBy := some claimedBy
            fencingToken := job.fencingToken + 1
            attemptCount := job.attemptCount + 1
            heartbeatAt := some now
            leaseExpiresAt := some (now + seconds leaseSeconds)
            updatedAt := now })

/-- `_worker_job`. -/
def workerJob (accountId jobId claimedBy : String) (fencingToken : Int) : Option MemoryJob :=
  (repository.jobs.get? jobId).filter fun job =>
    decide (job.accountId = accountId ∧ job.claimedBy = some claimedBy ∧
      job.fencingToken = fencingToken)

/-- Update the job of the worker. -/
def updateWorkerJob (accountId jobId claimedBy : String) (fencingToken : Int)
    (update : MemoryJob → Option MemoryJob) : Bool × InMemoryJobRepository :=
  match (repository.workerJob accountId jobId claimedBy fencingToken).bind update with
  | none => (false, repository)
  | some job => (true, repository.withJob jobId job)

/-- `heartbeat`. -/
def heartbeat (accountId jobId claimedBy : String) (fencingToken leaseSeconds : Int)
    (now : Instant) : Bool × InMemoryJobRepository :=
  repository.updateWorkerJob accountId jobId claimedBy fencingToken fun job =>
    if (10 ≤ leaseSeconds ∧ leaseSeconds ≤ 300) ∧ ∃ expiresAt ∈ job.leaseExpiresAt, now < expiresAt
    then
      some
        { job with
          heartbeatAt := some now
          leaseExpiresAt := some (now + seconds leaseSeconds)
          updatedAt := now }
    else none

/-- `validate_lease`. -/
def validateLease (accountId jobId claimedBy : String) (fencingToken : Int) (now : Instant) : Bool :=
  decide (∃ job ∈ repository.workerJob accountId jobId claimedBy fencingToken, job.Leased now)

/-- `mark_running`. -/
def markRunning (accountId jobId claimedBy : String) (fencingToken : Int) (now : Instant) :
    Bool × InMemoryJobRepository :=
  repository.updateWorkerJob accountId jobId claimedBy fencingToken fun job =>
    if job.status = .claimed then
      some
        { job with
          status := .running
          startedAt := job.startedAt.or (some now)
          updatedAt := now }
    else none

/-- `complete`. -/
def complete (accountId jobId claimedBy : String) (fencingToken : Int)
    (resultSummary : Option String) (now : Instant) : Bool × InMemoryJobRepository :=
  repository.updateWorkerJob accountId jobId claimedBy fencingToken fun job =>
    if job.status.Working then
      some
        { job with
          status := .succeeded
          completedAt := some now
          leaseExpiresAt := none
          updatedAt := now
          resultSummary := resultSummary.or (some "{}") }
    else none

/-- `fail`. -/
def fail (accountId jobId claimedBy : String) (fencingToken : Int) (errorCode : String)
    (retryable : Bool) (now : Instant) : Bool × InMemoryJobRepository :=
  repository.updateWorkerJob accountId jobId claimedBy fencingToken fun job =>
    if errorCode = "" ∨ 64 < errorCode.length then none
    else if retryable = true ∧ job.attemptCount < job.maxAttempts then
      some
        { job with
          status := .queued
          claimedBy := none
          leaseExpiresAt := none
          runAfter := now + seconds 30
          errorCode := some errorCode
          completedAt := none
          updatedAt := now }
    else
      some
        { job with
          status := .failed
          leaseExpiresAt := none
          errorCode := some errorCode
          completedAt := some now
          updatedAt := now }

def jobViews (jobId : String) : Option JobView :=
  (repository.jobs.get? jobId).map MemoryJob.view

/-- The method of the repository. -/
def queueMethod (now : Instant) : QueueCall → Bool × InMemoryJobRepository
  | .enqueue request jobId newRiskId =>
      match repository.enqueue request jobId newRiskId now with
      | (.ok _, next) => (true, next)
      | (.error _, next) => (false, next)
  | .claim claimedBy leaseSeconds accountId _ =>
      match repository.claimNextJob claimedBy leaseSeconds accountId now with
      | (.ok claimed, next) => (claimed, next)
      | (.error _, next) => (false, next)
  | .heartbeat accountId jobId claimedBy fencingToken leaseSeconds =>
      repository.heartbeat accountId jobId claimedBy fencingToken leaseSeconds now
  | .validate accountId jobId claimedBy fencingToken =>
      (repository.validateLease accountId jobId claimedBy fencingToken now, repository)
  | .markRunning accountId jobId claimedBy fencingToken =>
      repository.markRunning accountId jobId claimedBy fencingToken now
  | .complete accountId jobId claimedBy fencingToken resultSummary =>
      repository.complete accountId jobId claimedBy fencingToken resultSummary now
  | .fail accountId jobId claimedBy fencingToken errorCode retryable =>
      repository.fail accountId jobId claimedBy fencingToken errorCode retryable now

def serveQueue (call : QueueCall × Instant) : InMemoryJobRepository × QueueAnswer :=
  let (accepted, next) := repository.queueMethod call.2 call.1
  (next, ⟨accepted, next.jobViews⟩)

end InMemoryJobRepository

/-! ### The law -/

/-- The call comes too late: the worker has no unexpired claim of the job any more. -/
def InMemoryJobRepository.Late (repository : InMemoryJobRepository) :
    QueueCall × Instant → Prop
  | (.markRunning accountId jobId claimedBy fencingToken, now)
  | (.complete accountId jobId claimedBy fencingToken _, now)
  | (.fail accountId jobId claimedBy fencingToken _ _, now) =>
      ∀ job ∈ repository.workerJob accountId jobId claimedBy fencingToken, ¬ job.Leased now
  | _ => False

section Law

variable (state : TenantState) (repository : InMemoryJobRepository)
  (calls : List (QueueCall × Instant))

/-- Both queues accept the same calls and have the same jobs after each of them, and a call that
comes too late changes nothing. -/
structure QueueStandsIn : Prop where
  same : answers TenantState.serveQueue state calls =
    answers InMemoryJobRepository.serveQueue repository calls
  late : BeforeEach TenantState.serveQueue InMemoryJobRepository.serveQueue
    (fun _ repository call => repository.Late call → (repository.serveQueue call).1 = repository)
    state repository calls

end Law

namespace TenantState

variable (state : TenantState)

/-- The checks of `enqueue_cycle_job` on a new job, in the tables with the rows that
`ensure_account_runtime_profile` has inserted. -/
def AdmitsFor (request : JobRequest) (profile : RuntimeProfile) (jobId : String) (now : Instant) :
    Prop :=
  let walletId := request.tradingWalletId.or profile.tradingWalletId
  let aiId := request.aiCredentialId.or profile.aiCredentialId
  let riskId := request.riskPolicyId.or profile.riskPolicyId
  (∀ id ∈ aiId, state.ActiveCredential request.accountId .aiApiKey id) ∧
    (∀ id ∈ riskId, (state.activeRiskOf request.accountId id).isSome = true) ∧
    (request.mode.RealMoney → state.ActiveWallet request.accountId walletId ∧
      aiId ≠ none ∧ riskId ≠ none) ∧
    (request.mode.RealMoney → ∃ control ∈ state.controls.get? request.accountId,
      control.ArmedFor request.mode now) ∧
    (∀ id ∈ walletId, (state.walletOf request.accountId id).isSome = true) ∧
    state.jobs.get? jobId = none ∧
    ¬ ∃ job ∈ state.jobs.values, job.accountId = request.accountId ∧ job.status.Open

instance (request : JobRequest) (profile : RuntimeProfile) (jobId : String) (now : Instant) :
    Decidable (state.AdmitsFor request profile jobId now) :=
  inferInstanceAs (Decidable (_ ∧ _ ∧ _ ∧ _ ∧ _ ∧ _ ∧ _))

/-- The database admits a new job. -/
def Admits (request : JobRequest) (jobId newRiskId : String) (now : Instant) : Prop :=
  (isIdempotencyKey request.idempotencyKey = true ∧
    ∀ runAfter ∈ request.runAfter, runAfter ≤ now + seconds 86400) ∧
    match state.ensureAccountRuntimeProfile request.accountId newRiskId with
    | .ok (profile, ensured) => ensured.AdmitsFor request profile jobId now
    | .error _ => False

instance (request : JobRequest) (jobId newRiskId : String) (now : Instant) :
    Decidable (state.Admits request jobId newRiskId now) := by
  unfold Admits
  exact @instDecidableAnd _ _ _ (by split <;> infer_instance)

/-- A job that lapsed in its last attempt, of the accounts that a claim looks at. -/
def Exhausted (accountId : Option String) (now : Instant) : Prop :=
  ∃ entry ∈ state.jobs.entries, entry.2.Lapsed now ∧ entry.2.maxAttempts ≤ entry.2.attemptCount ∧
    ∀ account ∈ accountId, entry.2.accountId = account

instance (accountId : Option String) (now : Instant) : Decidable (state.Exhausted accountId now) :=
  inferInstanceAs (Decidable (∃ entry ∈ state.jobs.entries, _))

end TenantState

/-- The calls on which the queues do not part. A new job is admitted by both sides or by
neither; a claim finds no exhausted job, the name of its worker is short enough or nothing is
due, and of the jobs that come first the database lists the oldest one; and whoever names a
job by its worker and its token, to start it, complete it or fail it, still has its lease. -/
def QueuesUnparted (state : TenantState) (repository : InMemoryJobRepository) :
    QueueCall × Instant → Prop
  | (.enqueue request jobId newRiskId, now) => repository.existingJob request = none →
      (state.Admits request jobId newRiskId now ↔ repository.Ready request)
  | (.claim claimedBy leaseSeconds accountId tie, now) =>
      (claimedBy ≠ "" ∧ 10 ≤ leaseSeconds ∧ leaseSeconds ≤ 300) →
        if claimedBy.length ≤ 120 then ¬ state.Exhausted accountId now ∧
          pick tie (state.firstDue accountId now) = (state.firstDue accountId now).head?
        else state.dueJobs accountId now = []
  | (.markRunning accountId jobId claimedBy fencingToken, now) =>
      ∀ job ∈ repository.workerJob accountId jobId claimedBy fencingToken,
        job.status = .claimed → job.Leased now
  | (.complete accountId jobId claimedBy fencingToken _, now) =>
      ∀ job ∈ repository.workerJob accountId jobId claimedBy fencingToken,
        job.status.Working → job.Leased now
  | (.fail accountId jobId claimedBy fencingToken _ _, now) =>
      ∀ job ∈ repository.workerJob accountId jobId claimedBy fencingToken, job.Leased now
  | _ => True

instance QueuesUnparted.decidable (state : TenantState) (repository : InMemoryJobRepository) :
    (call : QueueCall × Instant) → Decidable (QueuesUnparted state repository call)
  | (.enqueue .., _) => inferInstanceAs (Decidable (_ → (_ ↔ _)))
  | (.claim claimedBy _ accountId tie, now) =>
      inferInstanceAs (Decidable (_ → if claimedBy.length ≤ 120 then ¬ state.Exhausted accountId now ∧
        pick tie (state.firstDue accountId now) = (state.firstDue accountId now).head?
          else state.dueJobs accountId now = []))
  | (.markRunning accountId jobId claimedBy fencingToken, now) =>
      inferInstanceAs (Decidable (∀ job ∈ repository.workerJob accountId jobId claimedBy fencingToken,
        job.status = .claimed → job.Leased now))
  | (.complete accountId jobId claimedBy fencingToken _, now) =>
      inferInstanceAs (Decidable (∀ job ∈ repository.workerJob accountId jobId claimedBy fencingToken,
        job.status.Working → job.Leased now))
  | (.fail accountId jobId claimedBy fencingToken _ _, now) =>
      inferInstanceAs (Decidable (∀ job ∈ repository.workerJob accountId jobId claimedBy fencingToken,
        job.Leased now))
  | (.heartbeat .., _) | (.validate .., _) => inferInstanceAs (Decidable True)

/-! ### Jobs that are alike -/

/-- What both sides have of a job. -/
structure JobCore extends JobView where
  accountId : String
  tradingWalletId : Option String
  aiCredentialId : Option String
  riskPolicyId : Option String
  mode : TradingMode
  idempotencyKey : String
  runAfter : Instant
  requestedRunAfter : Option Instant
  maxAttempts : Nat
  createdAt : Instant

def CycleJob.core (job : CycleJob) : JobCore :=
  { job.view with
    accountId := job.accountId
    tradingWalletId := job.tradingWalletId
    aiCredentialId := job.aiCredentialId
    riskPolicyId := job.riskPolicy.map Prod.fst
    mode := job.mode
    idempotencyKey := job.idempotencyKey
    runAfter := job.runAfter
    requestedRunAfter := job.requestedRunAfter
    maxAttempts := job.maxAttempts
    createdAt := job.createdAt }

def MemoryJob.core (job : MemoryJob) : JobCore :=
  { job.view with
    accountId := job.accountId
    tradingWalletId := job.tradingWalletId
    aiCredentialId := job.aiCredentialId
    riskPolicyId := job.riskPolicyId
    mode := job.mode
    idempotencyKey := job.idempotencyKey
    runAfter := job.runAfter
    requestedRunAfter := job.requestedRunAfter
    maxAttempts := job.maxAttempts
    createdAt := job.createdAt }

/-- A worker may claim the job. -/
def JobCore.Due (core : JobCore) (accountId : Option String) (now : Instant) : Prop :=
  (∀ account ∈ accountId, core.accountId = account) ∧ core.runAfter ≤ now ∧
    (core.status = .queued ∨ (core.status.Working ∧ ∃ expiresAt ∈ core.leaseExpiresAt,
      expiresAt ≤ now) ∧ core.attemptCount < core.maxAttempts)

instance (core : JobCore) (accountId : Option String) (now : Instant) :
    Decidable (core.Due accountId now) :=
  inferInstanceAs (Decidable (_ ∧ _ ∧ (_ ∨ (_ ∧ ∃ expiresAt ∈ core.leaseExpiresAt, _) ∧ _)))

/-- It comes before the other one. -/
def JobCore.DueBefore (core other : JobCore) : Prop :=
  core.runAfter < other.runAfter ∨ core.runAfter = other.runAfter ∧ core.createdAt ≤ other.createdAt

instance : DecidableRel JobCore.DueBefore :=
  fun _ _ => inferInstanceAs (Decidable (_ ∨ _ ∧ _))

def CycleJob.row (listed : String × CycleJob) : String × JobCore :=
  (listed.1, listed.2.core)

def MemoryJob.row (listed : String × MemoryJob) : String × JobCore :=
  (listed.1, listed.2.core)

def RuntimeProfile.refs (profile : RuntimeProfile) : MemoryProfile :=
  ⟨profile.tradingWalletId, profile.aiCredentialId, profile.riskPolicyId⟩

def TenantState.cores (state : TenantState) : Dict String JobCore :=
  state.jobs.map fun _ job => job.core

def InMemoryJobRepository.cores (repository : InMemoryJobRepository) : Dict String JobCore :=
  repository.jobs.map fun _ job => job.core

/-- What is kept of a job of the repository. -/
structure JobCore.Kept (core : JobCore) (state : TenantState) (repository : InMemoryJobRepository)
    (calls : List (QueueCall × Instant)) : Prop where
  profiled : (repository.profiles.get? core.accountId).isSome = true
  covered : (state.activeRisk core.accountId).isSome = true
  keyed : isIdempotencyKey core.idempotencyKey = true
  requested : ∀ runAfter ∈ core.requestedRunAfter, ∀ call ∈ calls,
    runAfter ≤ call.2 + seconds 86400
  leased : core.leaseExpiresAt ≠ none → core.status.Working

/-- The states of the queues, for calls that are still to come. -/
structure QueuesAlike (state : TenantState) (repository : InMemoryJobRepository)
    (calls : List (QueueCall × Instant)) : Prop where
  ordered : calls.Pairwise fun earlier later => earlier.2 ≤ later.2
  valid : ∀ call ∈ calls, call.1.Valid
  cores : state.cores = repository.cores
  profiles : ∀ accountId, (state.profiles.get? accountId).map RuntimeProfile.refs =
    repository.profiles.get? accountId
  unprofiled : ∀ accountId, repository.profiles.get? accountId = none →
    state.activeRisk accountId = none
  kept : ∀ jobId core, repository.cores.get? jobId = some core → core.Kept state repository calls

section Alike

variable {state next : TenantState} {repository next' : InMemoryJobRepository}
  {calls : List (QueueCall × Instant)} {call : QueueCall × Instant} {now : Instant}
  {accountId jobId claimedBy : String} {fencingToken : Int} {job : CycleJob} {entry : MemoryJob}

theorem TenantState.jobViews_eq (state : TenantState) (jobId : String) :
    state.jobViews jobId = (state.cores.get? jobId).map JobCore.toJobView := by
  rw [cores, Dict.get?_map, Option.map_map]
  rfl

theorem InMemoryJobRepository.jobViews_eq (repository : InMemoryJobRepository) (jobId : String) :
    repository.jobViews jobId = (repository.cores.get? jobId).map JobCore.toJobView := by
  rw [cores, Dict.get?_map, Option.map_map]
  rfl

theorem jobViews_same (same : state.cores = repository.cores) :
    state.jobViews = repository.jobViews := by
  funext jobId
  rw [TenantState.jobViews_eq, InMemoryJobRepository.jobViews_eq, same]

/-- A job is on both sides, or on neither. -/
theorem lookup_cases (same : state.cores = repository.cores) (jobId : String) :
    (state.jobs.get? jobId = none ∧ repository.jobs.get? jobId = none) ∨
      ∃ job entry, state.jobs.get? jobId = some job ∧ repository.jobs.get? jobId = some entry ∧
        job.core = entry.core := by
  have found := congrArg (fun cores : Dict String JobCore => cores.get? jobId) same
  simp only [TenantState.cores, InMemoryJobRepository.cores, Dict.get?_map] at found
  cases here : state.jobs.get? jobId with
  | none =>
      rw [here, Option.map_none, eq_comm, Option.map_eq_none_iff] at found
      exact .inl ⟨rfl, found⟩
  | some job =>
      rw [here, Option.map_some, eq_comm, Option.map_eq_some_iff] at found
      obtain ⟨entry, there, same⟩ := found
      exact .inr ⟨job, entry, rfl, there, same.symm⟩

theorem TenantState.cores_withJob (state : TenantState) (jobId : String) (job : CycleJob) :
    (state.withJob jobId job).cores = state.cores.set jobId job.core :=
  Dict.map_set _ _ _ _

theorem InMemoryJobRepository.cores_withJob (repository : InMemoryJobRepository) (jobId : String)
    (entry : MemoryJob) :
    (repository.withJob jobId entry).cores = repository.cores.set jobId entry.core :=
  Dict.map_set _ _ _ _

/-- What no call but the one that made the job changes of it. -/
structure JobCore.Continues (old core : JobCore) : Prop where
  accountId : core.accountId = old.accountId
  idempotencyKey : core.idempotencyKey = old.idempotencyKey
  requestedRunAfter : core.requestedRunAfter = old.requestedRunAfter
  leased : core.leaseExpiresAt ≠ none → core.status.Working

/-- A call that changes jobs only. -/
theorem QueuesAlike.change (alike : QueuesAlike state repository (call :: calls))
    (cores : next.cores = next'.cores) (profiles : next.profiles = state.profiles)
    (risks : next.risks = state.risks) (profiles' : next'.profiles = repository.profiles)
    (continues : ∀ jobId core, next'.cores.get? jobId = some core →
      ∃ old, repository.cores.get? jobId = some old ∧ old.Continues core) :
    QueuesAlike next next' calls where
  ordered := (List.pairwise_cons.mp alike.ordered).2
  valid call member := alike.valid call (List.mem_cons_of_mem _ member)
  cores := cores
  profiles accountId := by rw [profiles, profiles', alike.profiles]
  unprofiled accountId absent := by
    unfold TenantState.activeRisk
    rw [risks]
    exact alike.unprofiled accountId (profiles' ▸ absent)
  kept jobId core found := by
    obtain ⟨old, there, continued⟩ := continues jobId core found
    have kept := alike.kept jobId old there
    refine ⟨?_, ?_, ?_, ?_, continued.leased⟩
    · rw [profiles', continued.accountId]
      exact kept.profiled
    · unfold TenantState.activeRisk
      rw [risks, continued.accountId]
      exact kept.covered
    · rw [continued.idempotencyKey]
      exact kept.keyed
    · rw [continued.requestedRunAfter]
      exact fun runAfter asked call member =>
        kept.requested runAfter asked call (List.mem_cons_of_mem _ member)

/-- A call that changes nothing. -/
theorem QueuesAlike.later (alike : QueuesAlike state repository (call :: calls)) :
    QueuesAlike state repository calls :=
  alike.change alike.cores rfl rfl rfl fun jobId core found =>
    ⟨core, found, rfl, rfl, rfl, (alike.kept jobId core found).leased⟩

/-- A call that writes one job. -/
theorem QueuesAlike.written (alike : QueuesAlike state repository (call :: calls))
    (here : repository.jobs.get? jobId = some entry) {job' : CycleJob} {entry' : MemoryJob}
    (same : job'.core = entry'.core) (continues : entry.core.Continues entry'.core) :
    QueuesAlike (state.withJob jobId job') (repository.withJob jobId entry') calls := by
  refine alike.change ?_ rfl rfl rfl fun other core found => ?_
  · rw [TenantState.cores_withJob, InMemoryJobRepository.cores_withJob, alike.cores, same]
  · rw [InMemoryJobRepository.cores_withJob, Dict.get?_set_eq_some_iff] at found
    rcases found with ⟨rfl, rfl⟩ | ⟨-, found⟩
    · exact ⟨entry.core, by rw [InMemoryJobRepository.cores, Dict.get?_map, here, Option.map_some],
        continues⟩
    · exact ⟨core, found, rfl, rfl, rfl, (alike.kept other core found).leased⟩

/-- The holder of a job is its worker, with an unexpired lease. -/
theorem heldBy_iff (same : job.core = entry.core) :
    (job.accountId = accountId ∧ job.HeldBy claimedBy fencingToken now) ↔
      (entry.accountId = accountId ∧ entry.claimedBy = some claimedBy ∧
        entry.fencingToken = fencingToken) ∧ entry.Leased now := by
  have account : job.accountId = entry.accountId := congrArg JobCore.accountId same
  have view : job.view = entry.view := congrArg JobCore.toJobView same
  have worker : job.claimedBy = entry.claimedBy := congrArg JobView.claimedBy view
  have token : job.fencingToken = entry.fencingToken := congrArg JobView.fencingToken view
  have status : job.status = entry.status := congrArg JobView.status view
  have lease : job.leaseExpiresAt = entry.leaseExpiresAt := congrArg JobView.leaseExpiresAt view
  unfold CycleJob.HeldBy MemoryJob.Leased
  rw [account, worker, token, status, lease, and_assoc, and_assoc]

/-- Nobody's job, the job of its holder, or a job whose worker has no lease. -/
theorem holder_cases (same : state.cores = repository.cores)
    (accountId jobId claimedBy : String) (fencingToken : Int) (now : Instant) :
    (state.heldJob accountId jobId claimedBy fencingToken now = none ∧
        repository.workerJob accountId jobId claimedBy fencingToken = none) ∨
      (∃ job entry, state.heldJob accountId jobId claimedBy fencingToken now = some job ∧
        repository.workerJob accountId jobId claimedBy fencingToken = some entry ∧
        repository.jobs.get? jobId = some entry ∧ job.core = entry.core ∧ entry.Leased now) ∨
      ∃ entry, state.heldJob accountId jobId claimedBy fencingToken now = none ∧
        repository.workerJob accountId jobId claimedBy fencingToken = some entry ∧
        repository.jobs.get? jobId = some entry ∧ ¬ entry.Leased now := by
  unfold TenantState.heldJob InMemoryJobRepository.workerJob
  rcases lookup_cases same jobId with ⟨absent, absent'⟩ | ⟨job, entry, here, there, core⟩
  · rw [absent, absent']
    exact .inl ⟨rfl, rfl⟩
  rw [here, there, Option.filter_some, Option.filter_some]
  have held : (job.accountId = accountId ∧ job.HeldBy claimedBy fencingToken now) ↔
      (entry.accountId = accountId ∧ entry.claimedBy = some claimedBy ∧
        entry.fencingToken = fencingToken) ∧ entry.Leased now := heldBy_iff core
  by_cases named : entry.accountId = accountId ∧ entry.claimedBy = some claimedBy ∧
      entry.fencingToken = fencingToken
  case neg =>
    rw [if_neg fun holds => named (held.mp (of_decide_eq_true holds)).1,
      if_neg fun holds => named (of_decide_eq_true holds)]
    exact .inl ⟨rfl, rfl⟩
  rw [if_pos (decide_eq_true named)]
  by_cases leased : entry.Leased now
  · rw [if_pos (decide_eq_true (held.mpr ⟨named, leased⟩))]
    exact .inr (.inl ⟨job, entry, rfl, rfl, rfl, core, leased⟩)
  · rw [if_neg fun holds => leased (held.mp (of_decide_eq_true holds)).2]
    exact .inr (.inr ⟨entry, rfl, rfl, rfl, leased⟩)

/-- An update of the holder's job and one of the worker's job: the same happens on both sides,
or the repository updates the job without a lease. -/
theorem update_cases {update : CycleJob → Option CycleJob} {update' : MemoryJob → Option MemoryJob}
    (accountId jobId claimedBy : String) (fencingToken : Int)
    (alike : QueuesAlike state repository (call :: calls))
    (same : ∀ job entry, job.core = entry.core → entry.Leased now →
      (update job).map CycleJob.core = (update' entry).map MemoryJob.core)
    (continues : ∀ entry entry', entry.Leased now → update' entry = some entry' →
      entry.core.Continues entry'.core) :
    (∃ accepted next next',
      state.updateHeldJob accountId jobId claimedBy fencingToken now update = (accepted, next) ∧
        repository.updateWorkerJob accountId jobId claimedBy fencingToken update' =
          (accepted, next') ∧ QueuesAlike next next' calls ∧
        ∀ entry ∈ repository.workerJob accountId jobId claimedBy fencingToken,
          update' entry ≠ none → entry.Leased now) ∨
      (state.updateHeldJob accountId jobId claimedBy fencingToken now update = (false, state) ∧
        (∃ next', repository.updateWorkerJob accountId jobId claimedBy fencingToken update' =
          (true, next')) ∧
        ¬ ∀ entry ∈ repository.workerJob accountId jobId claimedBy fencingToken,
          update' entry ≠ none → entry.Leased now) := by
  unfold TenantState.updateHeldJob InMemoryJobRepository.updateWorkerJob
  rcases holder_cases alike.cores accountId jobId claimedBy fencingToken now with
    ⟨absent, absent'⟩ | ⟨job, entry, held, works, there, core, leased⟩ |
      ⟨entry, absent, works, there, unleased⟩
  · rw [absent, absent']
    refine .inl ⟨false, state, repository, rfl, rfl, alike.later, ?_⟩
    rintro entry ⟨⟩
  · rw [held, works, Option.bind_some, Option.bind_some]
    have meets : ∀ other ∈ some entry, update' other ≠ none → other.Leased now := by
      rintro other ⟨⟩ -
      exact leased
    have updated := same job entry core leased
    cases after : update' entry with
    | none =>
        rw [after, Option.map_none, Option.map_eq_none_iff] at updated
        rw [updated]
        exact .inl ⟨false, state, repository, rfl, rfl, alike.later, meets⟩
    | some entry' =>
        rw [after, Option.map_some, Option.map_eq_some_iff] at updated
        obtain ⟨job', updated, core'⟩ := updated
        rw [updated]
        exact .inl ⟨true, _, _, rfl, rfl,
          alike.written there core' (continues entry entry' leased after), meets⟩
  · rw [absent, works, Option.bind_none, Option.bind_some]
    cases after : update' entry with
    | none =>
        refine .inl ⟨false, state, repository, rfl, rfl, alike.later, ?_⟩
        rintro other ⟨⟩ updates
        exact absurd after updates
    | some entry' =>
        refine .inr ⟨rfl, ⟨_, rfl⟩, fun meets => unleased (meets entry rfl ?_)⟩
        rw [after]
        exact Option.some_ne_none entry'

theorem QueuesAlike.working (alike : QueuesAlike state repository (call :: calls))
    (works : repository.workerJob accountId jobId claimedBy fencingToken = some entry)
    (leased : entry.leaseExpiresAt ≠ none) : entry.status.Working := by
  have there := (Option.filter_eq_some_iff.mp works).1
  refine (alike.kept jobId entry.core ?_).leased leased
  rw [InMemoryJobRepository.cores, Dict.get?_map, there, Option.map_some]

/-! ### One call -/

/-- The answers to a call are the same exactly where the call does not part the queues, which
then stay alike. -/
def CallAlike (state : TenantState) (repository : InMemoryJobRepository)
    (call : QueueCall × Instant) (calls : List (QueueCall × Instant)) : Prop :=
  ((state.serveQueue call).2 = (repository.serveQueue call).2 ↔ QueuesUnparted state repository call) ∧
    (QueuesUnparted state repository call →
      QueuesAlike (state.serveQueue call).1 (repository.serveQueue call).1 calls)

variable {request : QueueCall} {accepted : Bool}

/-- The same is reported, and the queues stay alike. -/
theorem CallAlike.of_same (rpc : state.queueRpc now request = .ok (accepted, next))
    (method : repository.queueMethod now request = (accepted, next'))
    (alike : QueuesAlike next next' calls) (unparted : QueuesUnparted state repository (request, now)) :
    CallAlike state repository (request, now) calls := by
  have views := jobViews_same alike.cores
  unfold CallAlike TenantState.serveQueue InMemoryJobRepository.serveQueue
  rw [rpc, method]
  dsimp only
  exact ⟨iff_of_true (by rw [views]) unparted, fun _ => alike⟩

/-- The function raises, and the repository refuses the call too. -/
theorem CallAlike.of_refused {problem : SqlError}
    (rpc : state.queueRpc now request = .error problem)
    (method : repository.queueMethod now request = (false, next'))
    (alike : QueuesAlike state next' calls) (unparted : QueuesUnparted state repository (request, now)) :
    CallAlike state repository (request, now) calls := by
  have views := jobViews_same alike.cores
  unfold CallAlike TenantState.serveQueue InMemoryJobRepository.serveQueue
  rw [rpc, method]
  dsimp only
  exact ⟨iff_of_true (by rw [views]) unparted, fun _ => alike⟩

theorem CallAlike.of_parted
    (differ : (state.serveQueue call).2 ≠ (repository.serveQueue call).2)
    (parted : ¬ QueuesUnparted state repository call) : CallAlike state repository call calls :=
  ⟨iff_of_false differ parted, fun unparted => absurd unparted parted⟩

/-- One side accepts the call, and the other one refuses it. -/
theorem CallAlike.of_verdicts
    (differ : (state.serveQueue call).2.accepted ≠ (repository.serveQueue call).2.accepted)
    (parted : ¬ QueuesUnparted state repository call) : CallAlike state repository call calls :=
  .of_parted (fun same => differ (congrArg QueueAnswer.accepted same)) parted

theorem TenantState.accepted_of_ok (rpc : state.queueRpc now request = .ok (accepted, next)) :
    (state.serveQueue (request, now)).2.accepted = accepted := by
  unfold serveQueue
  rw [rpc]

theorem TenantState.refused_of_error {problem : SqlError}
    (rpc : state.queueRpc now request = .error problem) :
    (state.serveQueue (request, now)).2.accepted = false := by
  unfold serveQueue
  rw [rpc]

theorem InMemoryJobRepository.accepted_of
    (method : repository.queueMethod now request = (accepted, next')) :
    (repository.serveQueue (request, now)).2.accepted = accepted := by
  unfold serveQueue
  rw [method]

/-- An update of the holder's job, which the repository makes for the worker's job. -/
theorem CallAlike.of_update {update : CycleJob → Option CycleJob}
    {update' : MemoryJob → Option MemoryJob}
    (rpc : state.queueRpc now request =
      .ok (state.updateHeldJob accountId jobId claimedBy fencingToken now update))
    (method : repository.queueMethod now request =
      repository.updateWorkerJob accountId jobId claimedBy fencingToken update')
    (alike : QueuesAlike state repository ((request, now) :: calls))
    (same : ∀ job entry, job.core = entry.core → entry.Leased now →
      (update job).map CycleJob.core = (update' entry).map MemoryJob.core)
    (continues : ∀ entry entry', entry.Leased now → update' entry = some entry' →
      entry.core.Continues entry'.core)
    (unparted : QueuesUnparted state repository (request, now) ↔
      ∀ entry ∈ repository.workerJob accountId jobId claimedBy fencingToken,
        update' entry ≠ none → entry.Leased now) :
    CallAlike state repository (request, now) calls := by
  rcases update_cases accountId jobId claimedBy fencingToken alike same continues with
    ⟨accepted, next, next', updated, updated', later, meets⟩ | ⟨unheld, ⟨next', updated⟩, parted⟩
  · exact .of_same (rpc.trans (congrArg Except.ok updated)) (method.trans updated') later
      (unparted.mpr meets)
  · refine .of_verdicts ?_ fun meets => parted (unparted.mp meets)
    rw [TenantState.accepted_of_ok (rpc.trans (congrArg Except.ok unheld)),
      InMemoryJobRepository.accepted_of (method.trans updated)]
    exact Bool.false_ne_true

/-- A job under another status and another lease. -/
def JobCore.moved (core : JobCore) (status : JobStatus) (leaseExpiresAt : Option Instant) :
    JobCore :=
  { core with
    status := status
    leaseExpiresAt := leaseExpiresAt }

theorem status_same (same : job.core = entry.core) : job.status = entry.status :=
  congrArg (fun core : JobCore => core.status) same

theorem QueuesAlike.heartbeat {leaseSeconds : Int} (alike : QueuesAlike state repository
      ((.heartbeat accountId jobId claimedBy fencingToken leaseSeconds, now) :: calls)) :
    CallAlike state repository
      (.heartbeat accountId jobId claimedBy fencingToken leaseSeconds, now) calls := by
  by_cases bounds : 10 ≤ leaseSeconds ∧ leaseSeconds ≤ 300
  case neg =>
    have refused : repository.queueMethod now
        (.heartbeat accountId jobId claimedBy fencingToken leaseSeconds) = (false, repository) := by
      unfold InMemoryJobRepository.queueMethod InMemoryJobRepository.heartbeat
        InMemoryJobRepository.updateWorkerJob
      simp [bounds]
    exact .of_same (if_neg bounds) refused alike.later trivial
  refine .of_update (if_pos bounds) rfl alike ?_ ?_ (iff_of_true trivial ?_)
  · intro job entry core leased
    rw [if_pos ⟨bounds, leased.2⟩]
    exact congrArg (fun core : JobCore =>
      some (core.moved core.status (some (now + seconds leaseSeconds)))) core
  · intro entry entry' leased updated
    rw [if_pos ⟨bounds, leased.2⟩] at updated
    cases updated
    exact ⟨rfl, rfl, rfl, fun _ => leased.1⟩
  · -- The repository does not look at the status, but only working jobs have a lease.
    intro entry works updates
    have lasts : ∃ expiresAt ∈ entry.leaseExpiresAt, now < expiresAt := by
      by_contra expired
      exact updates (if_neg fun holds => expired holds.2)
    refine ⟨alike.working works ?_, lasts⟩
    obtain ⟨expiresAt, lease, -⟩ := lasts
    exact Option.ne_none_iff_exists'.mpr ⟨expiresAt, lease⟩

theorem QueuesAlike.validate (alike : QueuesAlike state repository
      ((.validate accountId jobId claimedBy fencingToken, now) :: calls)) :
    CallAlike state repository (.validate accountId jobId claimedBy fencingToken, now) calls := by
  refine .of_same rfl (Prod.ext ?_ rfl) alike.later trivial
  change repository.validateLease accountId jobId claimedBy fencingToken now =
    state.validateCycleJobLease accountId jobId claimedBy fencingToken now
  unfold InMemoryJobRepository.validateLease TenantState.validateCycleJobLease
  rcases holder_cases alike.cores accountId jobId claimedBy fencingToken now with
    ⟨absent, absent'⟩ | ⟨job, entry, held, works, -, -, leased⟩ | ⟨entry, absent, works, -, unleased⟩
  · simp [absent, absent']
  · simp [held, works, leased]
  · simp [absent, works, unleased]

theorem QueuesAlike.markRunning (alike : QueuesAlike state repository
      ((.markRunning accountId jobId claimedBy fencingToken, now) :: calls)) :
    CallAlike state repository (.markRunning accountId jobId claimedBy fencingToken, now) calls := by
  refine .of_update rfl rfl alike ?_ ?_ ?_
  · intro job entry core leased
    rw [status_same core]
    by_cases claimed : entry.status = .claimed
    · rw [if_pos claimed, if_pos claimed]
      exact congrArg (fun core : JobCore => some (core.moved .running core.leaseExpiresAt)) core
    · rw [if_neg claimed, if_neg claimed]
      rfl
  · intro entry entry' leased updated
    split at updated
    · cases updated
      exact ⟨rfl, rfl, rfl, fun _ => .inr rfl⟩
    · cases updated
  · refine forall₂_congr fun entry works => ?_
    rw [ne_eq, ite_eq_right_iff, Classical.not_imp]
    simp

theorem QueuesAlike.complete {resultSummary : Option String} (alike : QueuesAlike state repository
      ((.complete accountId jobId claimedBy fencingToken resultSummary, now) :: calls)) :
    CallAlike state repository
      (.complete accountId jobId claimedBy fencingToken resultSummary, now) calls := by
  refine .of_update rfl rfl alike ?_ ?_ ?_
  · intro job entry core leased
    rw [if_pos leased.1]
    exact congrArg (fun core : JobCore => some (core.moved .succeeded none)) core
  · intro entry entry' leased updated
    rw [if_pos leased.1] at updated
    cases updated
    exact ⟨rfl, rfl, rfl, fun lease => absurd rfl lease⟩
  · refine forall₂_congr fun entry works => ?_
    rw [ne_eq, ite_eq_right_iff, Classical.not_imp]
    simp

theorem isErrorCode_length {text : String} (code : isErrorCode text = true) :
    ¬ (text = "" ∨ 64 < text.length) := by
  unfold isErrorCode at code
  simp only [Bool.and_eq_true, decide_eq_true_eq] at code
  obtain ⟨⟨nonempty, short⟩, -⟩ := code
  rintro (rfl | long)
  · exact absurd nonempty (by decide)
  · exact absurd short long.not_ge

theorem QueuesAlike.fail {errorCode : String} {retryable : Bool} (alike : QueuesAlike state repository
      ((.fail accountId jobId claimedBy fencingToken errorCode retryable, now) :: calls)) :
    CallAlike state repository
      (.fail accountId jobId claimedBy fencingToken errorCode retryable, now) calls := by
  have code : isErrorCode errorCode = true := alike.valid _ List.mem_cons_self
  have rpc : state.queueRpc now (.fail accountId jobId claimedBy fencingToken errorCode retryable) =
      .ok _ := require_bind_ok_iff.mpr ⟨code, rfl⟩
  refine .of_update rpc rfl alike ?_ ?_ ?_
  · intro job entry core leased
    have attempts : job.attemptCount = entry.attemptCount :=
      congrArg (fun core : JobCore => core.attemptCount) core
    have most : job.maxAttempts = entry.maxAttempts := congrArg JobCore.maxAttempts core
    have retries : (retryable = true ∧ job.attemptCount < job.maxAttempts) ↔
        retryable = true ∧ entry.attemptCount < entry.maxAttempts := by
      rw [attempts, most]
    rw [if_neg (isErrorCode_length code)]
    by_cases again : retryable = true ∧ entry.attemptCount < entry.maxAttempts
    · rw [if_pos (retries.mpr again), if_pos again]
      exact congrArg (fun core : JobCore => some
        { core.moved .queued none with
          claimedBy := none
          runAfter := now + seconds 30 }) core
    · rw [if_neg (fun holds => again (retries.mp holds)), if_neg again]
      exact congrArg (fun core : JobCore => some (core.moved .failed none)) core
  · intro entry entry' leased updated
    rw [if_neg (isErrorCode_length code)] at updated
    split at updated
    · cases updated
      exact ⟨rfl, rfl, rfl, fun lease => absurd rfl lease⟩
    · cases updated
      exact ⟨rfl, rfl, rfl, fun lease => absurd rfl lease⟩
  · refine forall₂_congr fun entry works => ?_
    rw [if_neg (isErrorCode_length code)]
    refine ⟨fun leased _ => leased, fun meets => meets ?_⟩
    split <;> exact Option.some_ne_none _

/-! ### A claim -/

variable {account : Option String}

theorem due_same (same : state.cores = repository.cores) :
    (state.dueJobs account now).map CycleJob.row =
      (repository.eligible account now).map MemoryJob.row := by
  have entries := congrArg Dict.entries same
  unfold TenantState.cores InMemoryJobRepository.cores at entries
  rw [Dict.entries_map, Dict.entries_map] at entries
  exact Table.map_filter_same entries fun entry => decide (entry.2.Due account now)

/-- The jobs that the database lists first are those that a stable sort puts in front. -/
theorem firstDue_same (same : state.cores = repository.cores) :
    (state.firstDue account now).map CycleJob.row =
      ((repository.eligible account now).filter fun entry => decide
        (∀ other ∈ repository.eligible account now, MemoryJob.DueBefore entry other)).map
          MemoryJob.row := by
  have due : (state.dueJobs account now).map CycleJob.row =
      (repository.eligible account now).map MemoryJob.row := due_same same
  have ahead : ∀ core : JobCore,
      (∀ other ∈ state.dueJobs account now, core.DueBefore (CycleJob.row other).2) ↔
        ∀ other ∈ repository.eligible account now, core.DueBefore (MemoryJob.row other).2 := by
    intro core
    have images : (∀ other ∈ (state.dueJobs account now).map CycleJob.row, core.DueBefore other.2) ↔
        ∀ other ∈ (repository.eligible account now).map MemoryJob.row, core.DueBefore other.2 := by
      rw [due]
    rwa [List.forall_mem_map, List.forall_mem_map] at images
  have least := Table.map_filter_same due fun entry => decide
    (∀ other ∈ state.dueJobs account now, entry.2.DueBefore (CycleJob.row other).2)
  refine least.trans (congrArg (List.map MemoryJob.row) (List.filter_congr fun entry _ => ?_))
  exact decide_eq_decide.mpr (ahead entry.2.core)

theorem MemoryJob.dueBefore_total (entry other : String × MemoryJob) :
    DueBefore entry other ∨ DueBefore other entry := by
  rcases lt_trichotomy entry.2.runAfter other.2.runAfter with less | same | more
  · exact .inl (.inl less)
  · exact (le_total entry.2.createdAt other.2.createdAt).imp (fun older => .inr ⟨same, older⟩)
      fun older => .inr ⟨same.symm, older⟩
  · exact .inr (.inl more)

theorem MemoryJob.dueBefore_trans (first second third : String × MemoryJob)
    (before : DueBefore first second) (before' : DueBefore second third) :
    DueBefore first third := by
  rcases before with less | ⟨same, older⟩
  · rcases before' with less' | ⟨same', -⟩
    · exact .inl (less.trans less')
    · exact .inl (same' ▸ less)
  · rcases before' with less' | ⟨same', older'⟩
    · exact .inl (same ▸ less')
    · exact .inr ⟨same.trans same', older.trans older'⟩

/-- The repository claims what the database lists first. -/
theorem claimed_same (same : state.cores = repository.cores) :
    (state.firstDue account now).head?.map CycleJob.row =
      ((repository.eligible account now).insertionSort MemoryJob.DueBefore).head?.map
        MemoryJob.row := by
  rw [Table.head?_insertionSort MemoryJob.dueBefore_total MemoryJob.dueBefore_trans,
    ← List.head?_map, ← List.head?_map, firstDue_same same]

theorem mem_of_firstDue {listed : String × CycleJob} (member : listed ∈ state.firstDue account now) :
    state.jobs.get? listed.1 = some listed.2 :=
  Dict.get?_eq_some_iff.mpr (List.mem_filter.mp (List.mem_filter.mp member).1).1

/-- A sweep without exhausted jobs. -/
theorem TenantState.failLapsed_eq (fresh : ¬ state.Exhausted account now) :
    state.failLapsed account now = state := by
  have jobs : (state.failLapsed account now).jobs = state.jobs := by
    apply Dict.ext_entries
    unfold failLapsed
    rw [Dict.entries_map]
    refine (List.map_congr_left fun entry member => ?_).trans (List.map_id _)
    rw [if_neg fun gone => fresh ⟨entry, member, gone⟩]
    rfl
  exact congrArg (fun jobs => { state with jobs := jobs }) jobs


section Claims

variable {leaseSeconds : Int} {tie : Nat}

/-- The job as the database claims it. -/
def CycleJob.claimedUnder (job : CycleJob) (claimedBy : String) (leaseSeconds : Int)
    (now : Instant) : CycleJob :=
  { job with
    status := .claimed
    claimedBy := some claimedBy
    fencingToken := job.fencingToken + 1
    heartbeatAt := some now
    leaseExpiresAt := some (now + seconds leaseSeconds)
    attemptCount := job.attemptCount + 1
    errorCode := none }

/-- The job as the repository claims it. -/
def MemoryJob.claimedUnder (job : MemoryJob) (claimedBy : String) (leaseSeconds : Int)
    (now : Instant) : MemoryJob :=
  { job with
    status := .claimed
    claimedBy := some claimedBy
    fencingToken := job.fencingToken + 1
    attemptCount := job.attemptCount + 1
    heartbeatAt := some now
    leaseExpiresAt := some (now + seconds leaseSeconds)
    updatedAt := now }

theorem claimedUnder_core (same : job.core = entry.core) (claimedBy : String) (leaseSeconds : Int)
    (now : Instant) : (job.claimedUnder claimedBy leaseSeconds now).core =
      (entry.claimedUnder claimedBy leaseSeconds now).core :=
  congrArg (fun core : JobCore =>
    { core.moved .claimed (some (now + seconds leaseSeconds)) with
      claimedBy := some claimedBy
      fencingToken := core.fencingToken + 1
      attemptCount := core.attemptCount + 1 }) same

theorem claim_rpc (named : claimedBy ≠ "") (short : claimedBy.length ≤ 120)
    (bounds : 10 ≤ leaseSeconds ∧ leaseSeconds ≤ 300) :
    state.queueRpc now (.claim claimedBy leaseSeconds account tie) =
      match state.claimableJob account tie now with
      | none => .ok (false, state.failLapsed account now)
      | some (jobId, job) => .ok (true, (state.failLapsed account now).withJob jobId
          (job.claimedUnder claimedBy leaseSeconds now)) := by
  have nonempty : 1 ≤ claimedBy.length := by
    rw [Nat.one_le_iff_ne_zero]
    exact fun empty => named (String.length_eq_zero_iff.mp empty)
  change state.claimNextCycleJob claimedBy leaseSeconds account tie now = _
  unfold TenantState.claimNextCycleJob TenantState.claimableJob
  rw [require_of ⟨⟨nonempty, short⟩, bounds⟩]
  dsimp only [bind, Except.bind]
  cases pick tie ((state.failLapsed account now).firstDue account now) <;> rfl

theorem claim_method (named : claimedBy ≠ "") (bounds : 10 ≤ leaseSeconds ∧ leaseSeconds ≤ 300) :
    repository.queueMethod now (.claim claimedBy leaseSeconds account tie) =
      match ((repository.eligible account now).insertionSort MemoryJob.DueBefore).head? with
      | none => (false, repository)
      | some (jobId, job) => (true, repository.withJob jobId
          (job.claimedUnder claimedBy leaseSeconds now)) := by
  have valid : ¬ (claimedBy = "" ∨ ¬ (10 ≤ leaseSeconds ∧ leaseSeconds ≤ 300)) :=
    not_or.mpr ⟨named, not_not.mpr bounds⟩
  simp only [InMemoryJobRepository.queueMethod, InMemoryJobRepository.claimNextJob, if_neg valid]
  cases ((repository.eligible account now).insertionSort MemoryJob.DueBefore).head? <;> rfl

theorem claim_rpc_invalid (invalid : ¬ ((claimedBy ≠ "" ∧ 10 ≤ leaseSeconds ∧ leaseSeconds ≤ 300) ∧
      claimedBy.length ≤ 120)) :
    state.queueRpc now (.claim claimedBy leaseSeconds account tie) =
      .error (.raised "invalid cycle job lease") := by
  have bounds : ¬ ((1 ≤ claimedBy.length ∧ claimedBy.length ≤ 120) ∧ 10 ≤ leaseSeconds ∧
      leaseSeconds ≤ 300) := by
    rintro ⟨⟨nonempty, short⟩, bounds⟩
    refine invalid ⟨⟨?_, bounds⟩, short⟩
    rintro rfl
    exact absurd nonempty (by decide)
  change state.claimNextCycleJob claimedBy leaseSeconds account tie now = _
  unfold TenantState.claimNextCycleJob require
  rw [if_neg bounds]
  rfl

theorem claim_method_invalid
    (invalid : ¬ (claimedBy ≠ "" ∧ 10 ≤ leaseSeconds ∧ leaseSeconds ≤ 300)) :
    repository.queueMethod now (.claim claimedBy leaseSeconds account tie) =
      (false, repository) := by
  have raises : claimedBy = "" ∨ ¬ (10 ≤ leaseSeconds ∧ leaseSeconds ≤ 300) := by
    rw [or_iff_not_and_not, not_not]
    exact invalid
  simp only [InMemoryJobRepository.queueMethod, InMemoryJobRepository.claimNextJob, if_pos raises]

/-- Queues that have a different job after a call do not answer it alike. -/
theorem CallAlike.of_views (jobId : String)
    (differ : (state.serveQueue call).1.jobViews jobId ≠ (repository.serveQueue call).1.jobViews jobId)
    (parted : ¬ QueuesUnparted state repository call) : CallAlike state repository call calls := by
  refine .of_parted (fun same => differ ?_) parted
  have served : (state.serveQueue call).2.jobs = (state.serveQueue call).1.jobViews := by
    unfold TenantState.serveQueue
    split <;> rfl
  have served' : (repository.serveQueue call).2.jobs = (repository.serveQueue call).1.jobViews := rfl
  rw [← served, ← served', same]

/-- What a claim of the repository does. -/
theorem claim_method_cases (repository : InMemoryJobRepository) (account : Option String) (tie : Nat)
    (now : Instant) (named : claimedBy ≠ "") (bounds : 10 ≤ leaseSeconds ∧ leaseSeconds ≤ 300) :
    (((repository.eligible account now).insertionSort MemoryJob.DueBefore).head? = none ∧
      repository.queueMethod now (.claim claimedBy leaseSeconds account tie) = (false, repository)) ∨
    ∃ jobId entry,
      ((repository.eligible account now).insertionSort MemoryJob.DueBefore).head? =
        some (jobId, entry) ∧
      repository.jobs.get? jobId = some entry ∧ entry.core.Due account now ∧
      repository.queueMethod now (.claim claimedBy leaseSeconds account tie) =
        (true, repository.withJob jobId (entry.claimedUnder claimedBy leaseSeconds now)) := by
  have method : repository.queueMethod now (.claim claimedBy leaseSeconds account tie) = _ :=
    claim_method named bounds
  cases first : ((repository.eligible account now).insertionSort MemoryJob.DueBefore).head? with
  | none =>
      rw [first] at method
      exact .inl ⟨rfl, method⟩
  | some row =>
      rw [first] at method
      have member := (List.mem_insertionSort _).mp (List.mem_of_mem_head? first)
      obtain ⟨inside, due⟩ := List.mem_filter.mp member
      exact .inr ⟨row.1, row.2, rfl, Dict.get?_eq_some_iff.mpr inside, of_decide_eq_true due, method⟩

/-- The database fails an exhausted job, and the repository leaves it as it is. -/
theorem exhausted_parts (alike : QueuesAlike state repository (call :: calls))
    (named : claimedBy ≠ "") (short : claimedBy.length ≤ 120)
    (bounds : 10 ≤ leaseSeconds ∧ leaseSeconds ≤ 300) (exhausted : state.Exhausted account now) :
    CallAlike state repository (.claim claimedBy leaseSeconds account tie, now) calls := by
  obtain ⟨⟨jobId, job⟩, member, lapsed, most, scope⟩ := exhausted
  have here : state.jobs.get? jobId = some job := Dict.get?_eq_some_iff.mpr member
  have failed : ∃ job', (state.failLapsed account now).jobs.get? jobId = some job' ∧
      job'.status = .failed := by
    refine ⟨_, by rw [TenantState.failLapsed, Dict.get?_map, here, Option.map_some], ?_⟩
    rw [if_pos ⟨lapsed, most, scope⟩]
  obtain ⟨job', swept, status⟩ := failed
  -- The database: the swept job is not claimed.
  have sql : ((state.serveQueue (.claim claimedBy leaseSeconds account tie, now)).1.jobViews
      jobId).map JobView.status = some .failed := by
    unfold TenantState.serveQueue
    rw [claim_rpc named short bounds]
    cases found : state.claimableJob account tie now with
    | none => simp [TenantState.jobViews, swept, CycleJob.view, status]
    | some row =>
        obtain ⟨other, claimed⟩ := row
        obtain ⟨there, due⟩ := claimableJob_due found
        have apart : jobId ≠ other := by
          rintro rfl
          rw [there] at swept
          cases swept
          rcases due with queued | ⟨⟨working, -⟩, -⟩
          · cases queued.symm.trans status
          · rcases working with claims | runs
            · cases claims.symm.trans status
            · cases runs.symm.trans status
        simp [TenantState.jobViews, TenantState.withJob, Dict.get?_set_ne _ apart, swept,
          CycleJob.view, status]
  -- The repository: the job is not eligible.
  rcases lookup_cases alike.cores jobId with ⟨absent, -⟩ | ⟨_, entry, here', there, core⟩
  · cases absent.symm.trans here
  cases here.symm.trans here'
  have working : entry.status.Working := status_same core ▸ lapsed.1
  have ineligible : ¬ entry.core.Due account now := by
    rintro ⟨-, -, queued | ⟨-, less⟩⟩
    · rcases working with claims | runs
      · cases claims.symm.trans queued
      · cases runs.symm.trans queued
    · have attempts : job.attemptCount = entry.attemptCount :=
        congrArg (fun core : JobCore => core.attemptCount) core
      have limit : job.maxAttempts = entry.maxAttempts := congrArg JobCore.maxAttempts core
      have reached : entry.maxAttempts ≤ entry.attemptCount := by
        rw [← limit, ← attempts]
        exact most
      exact less.not_ge reached
  have memory : ((repository.serveQueue (.claim claimedBy leaseSeconds account tie, now)).1.jobViews
      jobId).map JobView.status = some entry.status := by
    unfold InMemoryJobRepository.serveQueue
    rcases claim_method_cases repository account tie now named bounds with
      ⟨-, method⟩ | ⟨other, entry', -, found, due, method⟩
    · simp [method, InMemoryJobRepository.jobViews, there, MemoryJob.view]
    · have apart : jobId ≠ other := by
        rintro rfl
        cases there.symm.trans found
        exact ineligible due
      simp [method, InMemoryJobRepository.jobViews, InMemoryJobRepository.withJob,
        Dict.get?_set_ne _ apart, there, MemoryJob.view]
  refine .of_views jobId (fun same => ?_) fun unparted => ?_
  · rw [same, memory] at sql
    rcases working with claims | runs
    · cases claims.symm.trans (Option.some.inj sql)
    · cases runs.symm.trans (Option.some.inj sql)
  · have met := unparted ⟨named, bounds⟩
    rw [if_pos short] at met
    exact met.1 ⟨(jobId, job), member, lapsed, most, scope⟩

/-- The database claims another job of those that come first. -/
theorem tie_parts (alike : QueuesAlike state repository (call :: calls))
    (named : claimedBy ≠ "") (short : claimedBy.length ≤ 120)
    (bounds : 10 ≤ leaseSeconds ∧ leaseSeconds ≤ 300) (fresh : ¬ state.Exhausted account now)
    (other : pick tie (state.firstDue account now) ≠ (state.firstDue account now).head?) :
    CallAlike state repository (.claim claimedBy leaseSeconds account tie, now) calls := by
  have parted : ¬ QueuesUnparted state repository (.claim claimedBy leaseSeconds account tie, now) := by
    intro unparted
    have met := unparted ⟨named, bounds⟩
    rw [if_pos short] at met
    exact other met.2
  cases listed : state.firstDue account now with
  | nil =>
      rw [listed] at other
      exact absurd rfl other
  | cons front rest =>
      have same : (state.firstDue account now).head?.map CycleJob.row = _ :=
        claimed_same alike.cores
      rw [listed, List.head?_cons, Option.map_some] at same
      rcases claim_method_cases repository account tie now named bounds with
        ⟨nothing, -⟩ | ⟨jobId, entry, first, there, -, method⟩
      · rw [nothing] at same
        cases same
      rw [first, Option.map_some] at same
      cases congrArg Prod.fst (Option.some.inj same)
      have core : front.2.core = entry.core := congrArg Prod.snd (Option.some.inj same)
      have here : state.jobs.get? front.1 = some front.2 :=
        mem_of_firstDue (listed ▸ List.mem_cons_self)
      have token : front.2.fencingToken = entry.fencingToken :=
        congrArg (fun core : JobCore => core.fencingToken) core
      -- The job in front gets a token in the repository only.
      have memory : ((repository.serveQueue (.claim claimedBy leaseSeconds account tie,
          now)).1.jobViews front.1).map JobView.fencingToken = some (entry.fencingToken + 1) := by
        unfold InMemoryJobRepository.serveQueue
        rw [method]
        simp [InMemoryJobRepository.jobViews, InMemoryJobRepository.withJob, Dict.get?_set_self,
          MemoryJob.view, MemoryJob.claimedUnder]
      have sql : ((state.serveQueue (.claim claimedBy leaseSeconds account tie, now)).1.jobViews
          front.1).map JobView.fencingToken = some entry.fencingToken := by
        unfold TenantState.serveQueue
        rw [claim_rpc named short bounds]
        unfold TenantState.claimableJob
        rw [TenantState.failLapsed_eq fresh]
        cases found : pick tie (state.firstDue account now) with
        | none => simp [TenantState.jobViews, here, CycleJob.view, token]
        | some row =>
            have there' := mem_of_firstDue (List.mem_of_getElem? found)
            have apart : front.1 ≠ row.1 := by
              intro key
              rw [← key, here] at there'
              refine other ?_
              rw [found, listed, List.head?_cons]
              exact congrArg some (Prod.ext key.symm (Option.some.inj there').symm)
            simp [TenantState.jobViews, TenantState.withJob, Dict.get?_set_ne _ apart, here,
              CycleJob.view, token]
      refine .of_views front.1 (fun same => ?_) parted
      rw [same, memory] at sql
      exact absurd (Option.some.inj sql) (by omega)

theorem QueuesAlike.claim (alike : QueuesAlike state repository
      ((.claim claimedBy leaseSeconds account tie, now) :: calls)) :
    CallAlike state repository (.claim claimedBy leaseSeconds account tie, now) calls := by
  by_cases valid : claimedBy ≠ "" ∧ 10 ≤ leaseSeconds ∧ leaseSeconds ≤ 300
  case neg =>
    exact .of_refused (claim_rpc_invalid fun holds => valid holds.1) (claim_method_invalid valid)
      alike.later fun holds => absurd holds valid
  obtain ⟨named, bounds⟩ := valid
  have method := claim_method_cases repository account tie now named bounds
  by_cases short : claimedBy.length ≤ 120
  case neg =>
    have refused : state.queueRpc now (.claim claimedBy leaseSeconds account tie) = _ :=
      claim_rpc_invalid fun holds => short holds.2
    have same : (state.dueJobs account now).map CycleJob.row = _ := due_same alike.cores
    rcases method with ⟨nothing, method⟩ | ⟨jobId, entry, first, -, -, method⟩
    · refine .of_refused refused method alike.later fun _ => ?_
      rw [if_neg short]
      have none_due : repository.eligible account now = [] := by
        simpa [List.head?_eq_none_iff.mp nothing] using
          (List.perm_insertionSort MemoryJob.DueBefore (repository.eligible account now)).symm
      rw [none_due, List.map_nil, List.map_eq_nil_iff] at same
      exact same
    · refine .of_verdicts ?_ fun unparted => ?_
      · rw [TenantState.refused_of_error refused, InMemoryJobRepository.accepted_of method]
        exact Bool.false_ne_true
      · have met := unparted ⟨named, bounds⟩
        rw [if_neg short] at met
        rw [met, List.map_nil, eq_comm, List.map_eq_nil_iff] at same
        rw [same] at first
        cases first
  by_cases exhausted : state.Exhausted account now
  · exact exhausted_parts alike named short bounds exhausted
  by_cases front : pick tie (state.firstDue account now) = (state.firstDue account now).head?
  case neg => exact tie_parts alike named short bounds exhausted front
  have rpc : state.queueRpc now (.claim claimedBy leaseSeconds account tie) = _ :=
    claim_rpc named short bounds
  unfold TenantState.claimableJob at rpc
  rw [TenantState.failLapsed_eq exhausted, front] at rpc
  have unparted : QueuesUnparted state repository (.claim claimedBy leaseSeconds account tie, now) := by
    intro _
    rw [if_pos short]
    exact ⟨exhausted, front⟩
  have same : (state.firstDue account now).head?.map CycleJob.row = _ := claimed_same alike.cores
  rcases method with ⟨nothing, method⟩ | ⟨jobId, entry, first, there, due, method⟩
  · rw [nothing, Option.map_none, Option.map_eq_none_iff] at same
    rw [same] at rpc
    exact .of_same rpc method alike.later unparted
  · rw [first, Option.map_some, Option.map_eq_some_iff] at same
    obtain ⟨⟨jobId', job⟩, first', row⟩ := same
    rw [first'] at rpc
    cases congrArg Prod.fst row
    have core : job.core = entry.core := congrArg Prod.snd row
    exact .of_same rpc method (alike.written there (claimedUnder_core core _ _ _)
      ⟨rfl, rfl, rfl, fun _ => .inl rfl⟩) unparted

end Claims

/-! ### A new job -/

section Requests

variable {newRiskId : String} {profile : RuntimeProfile} {jobRequest : JobRequest}

theorem activeRisk_isSome_iff : (state.activeRisk accountId).isSome = true ↔
    ∃ riskId risk, state.risks.get? riskId = some risk ∧ risk.accountId = accountId ∧
      risk.active = true := by
  unfold TenantState.activeRisk
  rw [List.find?_isSome]
  simp only [decide_eq_true_eq, Prod.exists, Dict.get?_eq_some_iff]

theorem ensureRiskPolicy_cases {riskId : String}
    (done : state.ensureRiskPolicy accountId newRiskId = .ok (riskId, next)) :
    next.jobs = state.jobs ∧ next.profiles = state.profiles ∧
      (state.activeRisk accountId = none → riskId = newRiskId) ∧
      ∀ other, (next.activeRisk other).isSome = true ↔
        (state.activeRisk other).isSome = true ∨ other = accountId := by
  unfold TenantState.ensureRiskPolicy at done
  cases active : state.activeRisk accountId with
  | some risk =>
      rw [active] at done
      cases done
      refine ⟨rfl, rfl, nofun, fun other => ⟨.inl, ?_⟩⟩
      rintro (covered | rfl)
      · exact covered
      · rw [active]
        rfl
  | none =>
      rw [active] at done
      obtain ⟨absent, done⟩ := require_bind_ok_iff.mp done
      cases done
      refine ⟨rfl, rfl, fun _ => rfl, fun other => ?_⟩
      rw [activeRisk_isSome_iff, activeRisk_isSome_iff]
      constructor
      · rintro ⟨id, risk, found, account, holds⟩
        rcases Dict.get?_set_eq_some_iff.mp found with ⟨rfl, rfl⟩ | ⟨-, found⟩
        · exact .inr account.symm
        · exact .inl ⟨id, risk, found, account, holds⟩
      · rintro (⟨id, risk, found, account, holds⟩ | rfl)
        · refine ⟨id, risk, ?_, account, holds⟩
          refine Dict.get?_set_eq_some_iff.mpr (.inr ⟨?_, found⟩)
          rintro rfl
          exact absent ⟨_, Dict.get?_eq_some_iff.mp found, .inl rfl⟩
        · exact ⟨newRiskId, _, Dict.get?_set_self _ _ _, rfl, rfl⟩

/-- What `ensure_account_runtime_profile` leaves. -/
structure Ensured (state : TenantState) (accountId newRiskId : String) (profile : RuntimeProfile)
    (next : TenantState) : Prop where
  jobs : next.jobs = state.jobs
  profiles : next.profiles = state.profiles.set accountId profile
  known : ∀ known, state.profiles.get? accountId = some known → profile = known
  fresh : state.profiles.get? accountId = none → state.activeRisk accountId = none →
    profile.refs = ⟨none, none, some newRiskId⟩
  covered : ∀ other, (next.activeRisk other).isSome = true ↔
    (state.activeRisk other).isSome = true ∨ other = accountId

theorem ensured_of_ok
    (done : state.ensureAccountRuntimeProfile accountId newRiskId = .ok (profile, next)) :
    Ensured state accountId newRiskId profile next := by
  unfold TenantState.ensureAccountRuntimeProfile at done
  obtain ⟨⟨riskId, mid⟩, first, done⟩ := bind_ok_iff.mp done
  obtain ⟨jobs, profiles, drawn, covered⟩ := ensureRiskPolicy_cases first
  cases done
  refine ⟨jobs, ?_, ?_, ?_, covered⟩
  · rw [profiles]
  · intro known found
    rw [profiles, found]
    rfl
  · intro absent unprofiled
    rw [profiles, absent, drawn unprofiled]
    rfl

/-- A profile with its risk policy is there already. -/
theorem ensure_known (newRiskId : String) {known : RuntimeProfile} 
    (found : state.profiles.get? accountId = some known)
    (covered : (state.activeRisk accountId).isSome = true) :
    ∃ next, state.ensureAccountRuntimeProfile accountId newRiskId = .ok (known, next) ∧
      next.jobs = state.jobs ∧ next.profiles = state.profiles ∧ next.risks = state.risks := by
  obtain ⟨⟨riskId, risk⟩, active⟩ := Option.isSome_iff_exists.mp covered
  unfold TenantState.ensureAccountRuntimeProfile TenantState.ensureRiskPolicy
  rw [active]
  refine ⟨{ state with
    controls := state.controls.set accountId ((state.controls.get? accountId).getD .fresh)
    profiles := state.profiles.set accountId known }, ?_, rfl, Dict.set_of_get? found, rfl⟩
  dsimp only [bind, Except.bind]
  rw [found]
  rfl

theorem existing_same (jobRequest : JobRequest) (same : state.cores = repository.cores) :
    (state.jobs.values.find? fun job => job.accountId = jobRequest.accountId ∧
        job.idempotencyKey = jobRequest.idempotencyKey).map CycleJob.core =
      (repository.existingJob jobRequest).map MemoryJob.core := by
  have entries := congrArg (fun cores : Dict String JobCore => cores.entries.map Prod.snd) same
  simp only [TenantState.cores, InMemoryJobRepository.cores, Dict.entries_map, List.map_map]
    at entries
  have found := congrArg (List.find? fun core : JobCore => decide
    (core.accountId = jobRequest.accountId ∧ core.idempotencyKey = jobRequest.idempotencyKey)) entries
  unfold InMemoryJobRepository.existingJob Dict.values
  rw [List.find?_map, List.find?_map] at found ⊢
  rw [Option.map_map, Option.map_map]
  exact found

/-- The database compares the same fields of an existing job. -/
theorem repeats_same {known : RuntimeProfile} (jobRequest : JobRequest)
    (core : job.core = entry.core) :
    (job.mode = jobRequest.mode ∧
      job.tradingWalletId = jobRequest.tradingWalletId.or known.tradingWalletId ∧
      job.aiCredentialId = jobRequest.aiCredentialId.or known.aiCredentialId ∧
      job.riskPolicy.map Prod.fst = jobRequest.riskPolicyId.or known.riskPolicyId ∧
      job.requestedRunAfter = jobRequest.runAfter) ↔
        InMemoryJobRepository.Repeats jobRequest known.refs entry := by
  rw [show job.mode = entry.mode from congrArg JobCore.mode core,
    show job.tradingWalletId = entry.tradingWalletId from congrArg JobCore.tradingWalletId core,
    show job.aiCredentialId = entry.aiCredentialId from congrArg JobCore.aiCredentialId core,
    show job.riskPolicy.map Prod.fst = entry.riskPolicyId from congrArg JobCore.riskPolicyId core,
    show job.requestedRunAfter = entry.requestedRunAfter from
      congrArg JobCore.requestedRunAfter core]
  rfl

/-- The request of a job that is there already. -/
theorem QueuesAlike.repeated {existing : MemoryJob} (alike : QueuesAlike state repository
      ((.enqueue jobRequest jobId newRiskId, now) :: calls))
    (found : repository.existingJob jobRequest = some existing) :
    CallAlike state repository (.enqueue jobRequest jobId newRiskId, now) calls := by
  have unparted : QueuesUnparted state repository (.enqueue jobRequest jobId newRiskId, now) := by
    intro absent
    cases absent.symm.trans found
  have sql := existing_same jobRequest alike.cores
  rw [found, Option.map_some, Option.map_eq_some_iff] at sql
  obtain ⟨job, listed, core⟩ := sql
  -- The job is kept with its profile, its risk policy and a valid request.
  have passes := List.find?_some found
  obtain ⟨account, key⟩ := of_decide_eq_true passes
  obtain ⟨other, there⟩ := Dict.mem_values_iff.mp (List.mem_of_find?_eq_some found)
  have kept : existing.core.Kept state repository _ := alike.kept other existing.core (by
    rw [InMemoryJobRepository.cores, Dict.get?_map, there, Option.map_some])
  obtain ⟨profiled, covered, keyed, requested, -⟩ := kept
  change isIdempotencyKey existing.idempotencyKey = true at keyed
  change (state.activeRisk existing.accountId).isSome = true at covered
  change (repository.profiles.get? existing.accountId).isSome = true at profiled
  rw [account] at covered profiled
  rw [key] at keyed
  obtain ⟨profile, here⟩ := Option.isSome_iff_exists.mp profiled
  have refs := alike.profiles jobRequest.accountId
  rw [here, Option.map_eq_some_iff] at refs
  obtain ⟨known, row, refs⟩ := refs
  obtain ⟨ensured, done, jobs, profiles, risks⟩ := ensure_known newRiskId row covered
  subst refs
  have repeats_iff : _ ↔ InMemoryJobRepository.Repeats jobRequest known.refs existing :=
    repeats_same jobRequest core
  have listed' : ensured.jobs.values.find? (fun job => job.accountId = jobRequest.accountId ∧
      job.idempotencyKey = jobRequest.idempotencyKey) = some job := by
    rw [jobs]
    exact listed
  by_cases repeats : InMemoryJobRepository.Repeats jobRequest known.refs existing
  · have timely : ∀ runAfter ∈ jobRequest.runAfter, runAfter ≤ now + seconds 86400 := by
      intro runAfter asked
      refine requested runAfter ?_ _ List.mem_cons_self
      change runAfter ∈ existing.requestedRunAfter
      rw [repeats.2.2.2.2]
      exact asked
    have rpc : state.queueRpc now (.enqueue jobRequest jobId newRiskId) = .ok (true, ensured) := by
      refine require_bind_ok_iff.mpr ⟨⟨keyed, timely⟩, bind_ok_iff.mpr ⟨_, done, ?_⟩⟩
      dsimp only
      rw [listed']
      exact require_bind_ok_iff.mpr ⟨repeats_iff.mpr repeats, rfl⟩
    have method : repository.queueMethod now (.enqueue jobRequest jobId newRiskId) =
        (true, repository) := by
      simp only [InMemoryJobRepository.queueMethod, InMemoryJobRepository.enqueue, found,
        InMemoryJobRepository.getOrCreateProfile, here, if_pos repeats]
    refine .of_same rpc method (alike.change ?_ profiles risks rfl fun other core there => ?_) unparted
    · rw [← alike.cores, TenantState.cores, jobs]
      rfl
    · exact ⟨core, there, rfl, rfl, rfl, (alike.kept other core there).leased⟩
  · have method : repository.queueMethod now (.enqueue jobRequest jobId newRiskId) =
        (false, repository) := by
      simp only [InMemoryJobRepository.queueMethod, InMemoryJobRepository.enqueue, found,
        InMemoryJobRepository.getOrCreateProfile, here, if_neg repeats]
    cases rpc : state.queueRpc now (.enqueue jobRequest jobId newRiskId) with
    | error problem => exact .of_refused rpc method alike.later unparted
    | ok served =>
        obtain ⟨-, rest⟩ := require_bind_ok_iff.mp rpc
        obtain ⟨_, done', rest⟩ := bind_ok_iff.mp rest
        cases done.symm.trans done'
        dsimp only at rest
        rw [listed'] at rest
        exact absurd (repeats_iff.mp (require_bind_ok_iff.mp rest).1) repeats

/-- The row that `enqueue_cycle_job` inserts. -/
def JobRequest.row (jobRequest : JobRequest) (state : TenantState) (profile : RuntimeProfile)
    (now : Instant) : CycleJob :=
  { accountId := jobRequest.accountId
    tradingWalletId := jobRequest.tradingWalletId.or profile.tradingWalletId
    aiCredentialId := jobRequest.aiCredentialId.or profile.aiCredentialId
    riskPolicy := (jobRequest.riskPolicyId.or profile.riskPolicyId).bind fun id =>
      (state.activeRiskOf jobRequest.accountId id).map fun risk => (id, risk.version)
    mode := jobRequest.mode
    idempotencyKey := jobRequest.idempotencyKey
    status := .queued
    runAfter := jobRequest.runAfter.getD now
    requestedRunAfter := jobRequest.runAfter
    claimedBy := none
    fencingToken := 0
    heartbeatAt := none
    leaseExpiresAt := none
    attemptCount := 0
    maxAttempts := 3
    errorCode := none
    startedAt := none
    completedAt := none
    resultSummary := none
    createdAt := now }

theorem enqueue_new (jobId newRiskId : String) (now : Instant)
    (absent : state.jobs.values.find? (fun job => job.accountId = jobRequest.accountId ∧
      job.idempotencyKey = jobRequest.idempotencyKey) = none) :
    (∃ profile ensured, state.Admits jobRequest jobId newRiskId now ∧
      state.ensureAccountRuntimeProfile jobRequest.accountId newRiskId = .ok (profile, ensured) ∧
      ensured.AdmitsFor jobRequest profile jobId now ∧
      state.queueRpc now (.enqueue jobRequest jobId newRiskId) =
        .ok (true, ensured.withJob jobId (jobRequest.row ensured profile now))) ∨
    (¬ state.Admits jobRequest jobId newRiskId now ∧
      ∃ problem, state.queueRpc now (.enqueue jobRequest jobId newRiskId) = .error problem) := by
  by_cases admits : state.Admits jobRequest jobId newRiskId now
  · have checks := admits
    unfold TenantState.Admits at checks
    obtain ⟨valid, checks⟩ := checks
    cases done : state.ensureAccountRuntimeProfile jobRequest.accountId newRiskId with
    | error problem =>
        rw [done] at checks
        exact checks.elim
    | ok row =>
        obtain ⟨profile, ensured⟩ := row
        rw [done] at checks
        refine .inl ⟨profile, ensured, admits, rfl, checks, ?_⟩
        refine require_bind_ok_iff.mpr ⟨valid, bind_ok_iff.mpr ⟨_, done, ?_⟩⟩
        dsimp only
        rw [← TenantState.ensure_jobs done] at absent
        rw [absent]
        simp only [require_bind_ok_iff]
        obtain ⟨credential, risk, wallet, armed, owned, fresh, single⟩ := checks
        exact ⟨credential, risk, wallet, armed, owned, fresh, single, rfl⟩
  · refine .inr ⟨admits, ?_⟩
    cases rpc : state.queueRpc now (.enqueue jobRequest jobId newRiskId) with
    | error problem => exact ⟨problem, rfl⟩
    | ok served =>
        obtain ⟨valid, rest⟩ := require_bind_ok_iff.mp rpc
        obtain ⟨⟨profile, ensured⟩, done, rest⟩ := bind_ok_iff.mp rest
        dsimp only at rest
        rw [← TenantState.ensure_jobs done] at absent
        rw [absent] at rest
        simp only [require_bind_ok_iff] at rest
        obtain ⟨credential, risk, wallet, armed, owned, fresh, single, -⟩ := rest
        refine absurd ⟨valid, ?_⟩ admits
        rw [done]
        exact ⟨credential, risk, wallet, armed, owned, fresh, single⟩

/-- The profile of a request, in the database and in the repository. -/
theorem profile_same (alike : QueuesAlike state repository (call :: calls))
    (ensured : Ensured state accountId newRiskId profile next) :
    (repository.getOrCreateProfile accountId newRiskId).1 = profile.refs ∧
      (repository.getOrCreateProfile accountId newRiskId).2.jobs = repository.jobs ∧
      (repository.getOrCreateProfile accountId newRiskId).2.liveReadyAccounts =
        repository.liveReadyAccounts ∧
      ∀ other, (repository.getOrCreateProfile accountId newRiskId).2.profiles.get? other =
        (next.profiles.get? other).map RuntimeProfile.refs := by
  have refs := alike.profiles accountId
  unfold InMemoryJobRepository.getOrCreateProfile
  cases found : repository.profiles.get? accountId with
  | some known =>
      rw [found, Option.map_eq_some_iff] at refs
      obtain ⟨row, here, rfl⟩ := refs
      have same := ensured.known row here
      refine ⟨same ▸ rfl, rfl, rfl, fun other => ?_⟩
      rw [ensured.profiles, same, Dict.set_of_get? here]
      exact (alike.profiles other).symm
  | none =>
      rw [found, Option.map_eq_none_iff] at refs
      have drawn := ensured.fresh refs (alike.unprofiled accountId found)
      refine ⟨drawn.symm, rfl, rfl, fun other => ?_⟩
      dsimp only
      rw [ensured.profiles, Dict.get?_set, Dict.get?_set]
      split
      · exact congrArg some drawn.symm
      · exact (alike.profiles other).symm

/-- Both sides add the job. -/
theorem QueuesAlike.added (alike : QueuesAlike state repository
      ((.enqueue jobRequest jobId newRiskId, now) :: calls))
    (ensured : Ensured state jobRequest.accountId newRiskId profile next)
    (valid : isIdempotencyKey jobRequest.idempotencyKey = true ∧
      ∀ runAfter ∈ jobRequest.runAfter, runAfter ≤ now + seconds 86400)
    (profiled : ∀ other, next'.profiles.get? other =
      (next.profiles.get? other).map RuntimeProfile.refs)
    (core : entry.core = (jobRequest.row next profile now).core)
    (jobs : next'.jobs = repository.jobs.set jobId entry) :
    QueuesAlike (next.withJob jobId (jobRequest.row next profile now)) next' calls := by
  obtain ⟨earlier, ordered⟩ := List.pairwise_cons.mp alike.ordered
  have cores : next'.cores = repository.cores.set jobId (jobRequest.row next profile now).core := by
    rw [← core]
    unfold InMemoryJobRepository.cores
    rw [jobs]
    exact Dict.map_set _ _ _ _
  have here : next'.profiles.get? jobRequest.accountId = some profile.refs := by
    rw [profiled, ensured.profiles, Dict.get?_set_self, Option.map_some]
  refine ⟨ordered, fun call member => alike.valid call (List.mem_cons_of_mem _ member), ?_,
    fun accountId => (profiled accountId).symm, ?_, ?_⟩
  · rw [TenantState.cores_withJob, cores, ← alike.cores]
    unfold TenantState.cores
    rw [ensured.jobs]
  · intro accountId absent
    have other : accountId ≠ jobRequest.accountId := by
      rintro rfl
      cases absent.symm.trans here
    rw [profiled, ensured.profiles, Dict.get?_set_ne _ other, alike.profiles] at absent
    have uncovered : ¬ (next.activeRisk accountId).isSome = true := by
      rw [ensured.covered, alike.unprofiled accountId absent]
      rintro (⟨⟨⟩⟩ | same)
      exact other same
    exact Option.not_isSome_iff_eq_none.mp uncovered
  · intro other kept found
    rw [cores, Dict.get?_set_eq_some_iff] at found
    rcases found with ⟨-, rfl⟩ | ⟨-, found⟩
    · refine ⟨Option.isSome_iff_exists.mpr ⟨_, here⟩, (ensured.covered _).mpr (.inr rfl), valid.1,
        fun runAfter asked call member => ?_, fun lease => absurd rfl lease⟩
      exact (valid.2 runAfter asked).trans (Int.add_le_add_right (earlier call member) _)
    · obtain ⟨profiled', covered, keyed, requested, leased⟩ := alike.kept other kept found
      refine ⟨?_, (ensured.covered _).mpr (.inl covered), keyed, fun runAfter asked call member =>
        requested runAfter asked call (List.mem_cons_of_mem _ member), leased⟩
      rw [profiled, ensured.profiles, Dict.get?_set]
      split
      · rfl
      · rw [alike.profiles]
        exact profiled'

/-- The row and the entry of a new job are alike. -/
theorem row_core {riskPolicyVersion : Option Int}
    (admits : next.AdmitsFor jobRequest profile jobId now) :
    (jobRequest.row next profile now).core = MemoryJob.core
      { accountId := jobRequest.accountId
        tradingWalletId := jobRequest.tradingWalletId.or profile.refs.tradingWalletId
        aiCredentialId := jobRequest.aiCredentialId.or profile.refs.aiCredentialId
        riskPolicyId := jobRequest.riskPolicyId.or profile.refs.riskPolicyId
        riskPolicyVersion := riskPolicyVersion
        mode := jobRequest.mode
        idempotencyKey := jobRequest.idempotencyKey
        status := .queued
        attemptCount := 0
        maxAttempts := 3
        claimedBy := none
        fencingToken := 0
        heartbeatAt := none
        leaseExpiresAt := none
        runAfter := jobRequest.runAfter.getD now
        requestedRunAfter := jobRequest.runAfter
        errorCode := none
        createdAt := now
        updatedAt := now
        startedAt := none
        completedAt := none
        resultSummary := none } := by
  have risk : (jobRequest.row next profile now).riskPolicy.map Prod.fst =
      jobRequest.riskPolicyId.or profile.riskPolicyId := by
    obtain ⟨-, active, -⟩ := admits
    unfold JobRequest.row
    dsimp only
    cases chosen : jobRequest.riskPolicyId.or profile.riskPolicyId with
    | none => rfl
    | some id =>
        obtain ⟨policy, found⟩ := Option.isSome_iff_exists.mp (active id chosen)
        rw [Option.bind_some, found]
        rfl
  unfold CycleJob.core
  rw [risk]
  rfl

/-- The repository adds a job, with the profile that the database has for the account. -/
theorem enqueue_method (alike : QueuesAlike state repository (call :: calls))
    (ensured : Ensured state jobRequest.accountId newRiskId profile next)
    (admits : next.AdmitsFor jobRequest profile jobId now)
    (existing : repository.existingJob jobRequest = none) (ready : repository.Ready jobRequest) :
    ∃ next' entry,
      repository.queueMethod now (.enqueue jobRequest jobId newRiskId) = (true, next') ∧
        next'.jobs = repository.jobs.set jobId entry ∧
        entry.core = (jobRequest.row next profile now).core ∧
        ∀ other, next'.profiles.get? other = (next.profiles.get? other).map RuntimeProfile.refs := by
  obtain ⟨refs, jobs, -, profiled⟩ := profile_same alike ensured
  simp only [InMemoryJobRepository.queueMethod, InMemoryJobRepository.enqueue, existing,
    if_pos ready]
  generalize repository.getOrCreateProfile jobRequest.accountId newRiskId = created at *
  obtain ⟨profile', created⟩ := created
  cases refs
  dsimp only at jobs profiled ⊢
  rw [jobs]
  exact ⟨_, _, rfl, rfl, (row_core admits).symm, profiled⟩

theorem QueuesAlike.enqueue (alike : QueuesAlike state repository
      ((.enqueue jobRequest jobId newRiskId, now) :: calls)) :
    CallAlike state repository (.enqueue jobRequest jobId newRiskId, now) calls := by
  cases existing : repository.existingJob jobRequest with
  | some entry => exact alike.repeated existing
  | none =>
      have absent := existing_same jobRequest alike.cores
      rw [existing, Option.map_none, Option.map_eq_none_iff] at absent
      have sql := enqueue_new jobId newRiskId now absent
      by_cases ready : repository.Ready jobRequest
      · rcases sql with ⟨profile, ensured, admits, done, checks, rpc⟩ | ⟨refused, problem, rpc⟩
        · have known := ensured_of_ok done
          obtain ⟨next', entry, method, jobs, core, profiled⟩ :=
            enqueue_method alike known checks existing ready
          exact .of_same rpc method (alike.added known admits.1 profiled core jobs)
            fun _ => iff_of_true admits ready
        · have method : ∃ next', repository.queueMethod now (.enqueue jobRequest jobId newRiskId) =
              (true, next') := by
            simp only [InMemoryJobRepository.queueMethod, InMemoryJobRepository.enqueue, existing,
              if_pos ready]
            exact ⟨_, rfl⟩
          obtain ⟨next', method⟩ := method
          refine .of_verdicts ?_ fun unparted => refused ((unparted existing).mpr ready)
          rw [TenantState.refused_of_error rpc, InMemoryJobRepository.accepted_of method]
          exact Bool.false_ne_true
      · have method : repository.queueMethod now (.enqueue jobRequest jobId newRiskId) =
            (false, repository) := by
          simp only [InMemoryJobRepository.queueMethod, InMemoryJobRepository.enqueue, existing,
            if_neg ready]
        rcases sql with ⟨profile, ensured, admits, -, -, rpc⟩ | ⟨refused, problem, rpc⟩
        · refine .of_verdicts ?_ fun unparted => ready ((unparted existing).mp admits)
          rw [TenantState.accepted_of_ok rpc, InMemoryJobRepository.accepted_of method]
          exact Bool.false_ne_true.symm
        · exact .of_refused rpc method alike.later fun _ => iff_of_false refused ready

end Requests

/-- One call. -/
theorem QueuesAlike.callAlike (alike : QueuesAlike state repository (call :: calls)) :
    CallAlike state repository call calls := by
  obtain ⟨request, now⟩ := call
  cases request with
  | enqueue => exact alike.enqueue
  | claim => exact alike.claim
  | heartbeat => exact alike.heartbeat
  | validate => exact alike.validate
  | markRunning => exact alike.markRunning
  | complete => exact alike.complete
  | fail => exact alike.fail

/-- A late call changes nothing where the queues do not part. -/
theorem QueuesUnparted.late (unparted : QueuesUnparted state repository call)
    (late : repository.Late call) : (repository.serveQueue call).1 = repository := by
  obtain ⟨request, now⟩ := call
  cases request with
  | enqueue | claim | heartbeat | validate => exact late.elim
  | markRunning accountId jobId claimedBy fencingToken =>
      change (repository.updateWorkerJob _ _ _ _ _).2 = repository
      unfold InMemoryJobRepository.updateWorkerJob
      cases works : repository.workerJob accountId jobId claimedBy fencingToken with
      | none => rfl
      | some entry =>
          have idle : ¬ entry.status = .claimed := fun claimed =>
            late entry works (unparted entry works claimed)
          rw [Option.bind_some, if_neg idle]
  | complete accountId jobId claimedBy fencingToken resultSummary =>
      change (repository.updateWorkerJob _ _ _ _ _).2 = repository
      unfold InMemoryJobRepository.updateWorkerJob
      cases works : repository.workerJob accountId jobId claimedBy fencingToken with
      | none => rfl
      | some entry =>
          have idle : ¬ entry.status.Working := fun working =>
            late entry works (unparted entry works working)
          rw [Option.bind_some, if_neg idle]
  | fail accountId jobId claimedBy fencingToken errorCode retryable =>
      change (repository.updateWorkerJob _ _ _ _ _).2 = repository
      unfold InMemoryJobRepository.updateWorkerJob
      cases works : repository.workerJob accountId jobId claimedBy fencingToken with
      | none => rfl
      | some entry => exact absurd (unparted entry works) (late entry works)

end Alike

/-! ### Whole runs -/

/-- Queues without jobs, for the same profiles. -/
structure FreshQueues (state : TenantState) (repository : InMemoryJobRepository) : Prop where
  jobs : state.jobs = .empty
  jobs' : repository.jobs = .empty
  profiles : ∀ accountId, (state.profiles.get? accountId).map RuntimeProfile.refs =
    repository.profiles.get? accountId
  unprofiled : ∀ accountId, repository.profiles.get? accountId = none →
    state.activeRisk accountId = none

section Runs

variable {state : TenantState} {repository : InMemoryJobRepository}
  {calls : List (QueueCall × Instant)}

theorem FreshQueues.alike (fresh : FreshQueues state repository)
    (ordered : calls.Pairwise fun earlier later => earlier.2 ≤ later.2)
    (valid : ∀ call ∈ calls, call.1.Valid) : QueuesAlike state repository calls where
  ordered := ordered
  valid := valid
  cores := by
    unfold TenantState.cores InMemoryJobRepository.cores
    rw [fresh.jobs, fresh.jobs']
    rfl
  profiles := fresh.profiles
  unprofiled := fresh.unprofiled
  kept jobId core found := by
    rw [InMemoryJobRepository.cores, fresh.jobs', Dict.get?_map, Dict.get?_empty] at found
    cases found

/-- The repository stands in for the queue of the database if and only if no call parts them. -/
theorem queue_stands_in_iff (fresh : FreshQueues state repository)
    (ordered : calls.Pairwise fun earlier later => earlier.2 ≤ later.2)
    (valid : ∀ call ∈ calls, call.1.Valid) :
    QueueStandsIn state repository calls ↔
      BeforeEach TenantState.serveQueue InMemoryJobRepository.serveQueue QueuesUnparted state repository
        calls := by
  have same : answers TenantState.serveQueue state calls =
      answers InMemoryJobRepository.serveQueue repository calls ↔ _ :=
    answers_eq_iff (R := QueuesAlike) (fun _ _ _ _ alike => alike.callAlike.1)
      (fun _ _ _ _ alike => alike.callAlike.2) (fresh.alike ordered valid)
  refine ⟨fun stands => same.mp stands.same, fun unparted => ⟨same.mpr unparted, ?_⟩⟩
  exact unparted.imp fun _ _ _ unparted late => unparted.late late

end Runs

def emptyRepository : InMemoryJobRepository :=
  ⟨.empty, .empty, .empty, []⟩

def paperRequest : JobRequest :=
  ⟨"account", "idempotency-key-0001", .paper, none, none, none, none⟩

/-- A job that fails and is tried again, each time within its lease. -/
def retriedJob : List (QueueCall × Instant) :=
  [(.enqueue paperRequest "job" "risk", 0), (.claim "worker" 60 none 0, seconds 1),
    (.markRunning "account" "job" "worker" 1, seconds 2),
    (.fail "account" "job" "worker" 1 "timeout" true, seconds 3),
    (.claim "worker" 60 none 0, seconds 40), (.heartbeat "account" "job" "worker" 2 60, seconds 90),
    (.complete "account" "job" "worker" 2 none, seconds 120),
    (.enqueue paperRequest "other" "risk", seconds 130)]

theorem retriedJob_stands_in : QueueStandsIn emptyTenants emptyRepository retriedJob :=
  (queue_stands_in_iff ⟨rfl, rfl, fun _ => rfl, fun _ _ => rfl⟩ (by decide) (by decide)).mpr
    (by decide)

/-- The worker that has completed a job reports a failure of it. -/
def completedJob : List (QueueCall × Instant) :=
  [(.enqueue paperRequest "job" "risk", 0), (.claim "worker" 60 none 0, seconds 1),
    (.complete "account" "job" "worker" 1 none, seconds 2),
    (.fail "account" "job" "worker" 1 "timeout" true, seconds 3)]

/-- The database keeps the completed job, and the repository queues it again. -/
theorem completedJob_requeued :
    ¬ ∀ calls : List (QueueCall × Instant),
      calls.Pairwise (fun earlier later => earlier.2 ≤ later.2) →
        (∀ call ∈ calls, call.1.Valid) → QueueStandsIn emptyTenants emptyRepository calls := by
  intro stands
  have same := (stands completedJob (by decide) (by decide)).same
  have statuses := congrArg (List.map fun answer =>
    (answer.jobs "job").map fun job => (answer.accepted, job.status)) same
  have sql : (answers TenantState.serveQueue emptyTenants completedJob).map (fun answer =>
      (answer.jobs "job").map fun job => (answer.accepted, job.status)) =
        [some (true, .queued), some (true, .claimed), some (true, .succeeded),
          some (false, .succeeded)] := by decide
  have memory : (answers InMemoryJobRepository.serveQueue emptyRepository completedJob).map
      (fun answer => (answer.jobs "job").map fun job => (answer.accepted, job.status)) =
        [some (true, .queued), some (true, .claimed), some (true, .succeeded),
          some (true, .queued)] := by decide
  rw [sql, memory] at statuses
  exact absurd statuses (by decide)

end Polybot
