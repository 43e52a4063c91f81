import Polybot.Control.Revocation

/-!
The fencing of the cycle jobs, over any calls by any workers.

`JobMove` lists what one call can do to one job: a claim takes a queued or a lapsed job
under the next token, whoever holds a job extends, starts, ends or requeues it, and the
others may only fail an exhausted job or cancel a queued one. From it, `jobs_fenced`: a
token counts the claims of its job, one worker validates at a time, a call without the
job changes nothing, attempts are bounded, an ended job stays as it ended, and an account
has at most one open job.
-/

namespace Polybot

open Checked Interaction

/-! ### Calls -/

namespace TenantState

variable (state : TenantState)

/-- Take the AI credential out of the profile of its account. -/
def withoutCredential (accountId credentialId : String) : TenantState :=
  { state with
    profiles := state.profiles.map fun owner profile =>
      if owner = accountId ∧ profile.aiCredentialId = some credentialId then
        { profile with
          aiCredentialId := none
          desiredMode := .paper
          autoRunEnabled := false
          nextRunAt := none
          version := profile.version + 1 }
      else profile }

/-- Cancel the queued jobs of an account that use an AI credential. -/
def cancelCredentialJobs (accountId credentialId : String) (now : Instant) : TenantState :=
  { state with
    jobs := state.jobs.map fun _ job =>
      if job.accountId = accountId ∧ job.aiCredentialId = some credentialId ∧
          job.status = .queued then
        { job with
          status := .cancelled
          completedAt := some now }
      else job }

/-- `revoke_ai_credential`: an account has at most one active credential of a provider. -/
def revokeAiCredential (accountId provider : String) (now : Instant) : Served :=
  match state.credentials.entries.find? fun entry => decide (entry.2.accountId = accountId ∧
      entry.2.kind = .aiApiKey ∧ entry.2.provider = provider ∧ entry.2.status = .active) with
  | none => .ok (false, state)
  | some (credentialId, credential) =>
      .ok (true,
        ((({ state with
              credentials := state.credentials.set credentialId (credential.revokedAs now)
            }).withoutCredential accountId credentialId).cancelCredentialJobs accountId credentialId
              now).disarmed accountId)

/-- The job that `claim_next_cycle_job` claims. -/
def claimableJob (accountId : Option String) (tie : Nat) (now : Instant) :
    Option (String × CycleJob) :=
  pick tie ((state.failLapsed accountId now).firstDue accountId now)

/-- `validate_cycle_job_lease`. -/
def validateCycleJobLease (accountId jobId claimedBy : String) (fencingToken : Int)
    (now : Instant) : Bool :=
  (state.heldJob accountId jobId claimedBy fencingToken now).isSome

end TenantState

/-- A call that can write a job. The two revocations cancel queued jobs; `storeTables` is
what other functions write to the tables beside the jobs. -/
inductive JobCall where
  | enqueue (request : JobRequest) (jobId newRiskId : String)
  | claim (claimedBy : String) (leaseSeconds : Int) (accountId : Option String) (tie : Nat)
  | heartbeat (accountId jobId claimedBy : String) (fencingToken leaseSeconds : Int)
  | markRunning (accountId jobId claimedBy : String) (fencingToken : Int)
  | complete (accountId jobId claimedBy : String) (fencingToken : Int)
      (resultSummary : Option String)
  | fail (accountId jobId claimedBy : String) (fencingToken : Int) (errorCode : String)
      (retryable : Bool)
  | revokeWallet (accountId walletId : String)
  | revokeCredential (accountId provider : String)
  | storeTables (tables : TenantState)

/-- Whether the call reported a row (or `true`), and the tables after it. -/
def JobCall.serve (state : TenantState) (now : Instant) : JobCall → TenantState.Served
  | enqueue request jobId newRiskId => state.enqueueCycleJob request jobId newRiskId now
  | claim claimedBy leaseSeconds accountId tie =>
      state.claimNextCycleJob claimedBy leaseSeconds accountId tie now
  | heartbeat accountId jobId claimedBy fencingToken leaseSeconds =>
      state.heartbeatCycleJob accountId jobId claimedBy fencingToken leaseSeconds now
  | markRunning accountId jobId claimedBy fencingToken =>
      state.markCycleJobRunning accountId jobId claimedBy fencingToken now
  | complete accountId jobId claimedBy fencingToken resultSummary =>
      state.completeCycleJob accountId jobId claimedBy fencingToken resultSummary now
  | fail accountId jobId claimedBy fencingToken errorCode retryable =>
      state.failCycleJob accountId jobId claimedBy fencingToken errorCode retryable now
  | revokeWallet accountId walletId => state.requestTradingWalletRevocation accountId walletId now
  | revokeCredential accountId provider => state.revokeAiCredential accountId provider now
  | storeTables tables => .ok (true, { tables with jobs := state.jobs })

/-- The job whose row a claim returns. -/
def JobCall.claimed (state : TenantState) (now : Instant) : JobCall → Option String
  | claim _ _ accountId tie => (state.claimableJob accountId tie now).map Prod.fst
  | _ => none

/-- A call at an instant, whether it reported a row, and the job that it claimed. -/
structure JobLabel where
  call : JobCall
  now : Instant
  granted : Bool
  claimed : Option String

/-- A call that is served, or rolled back, at an instant that is not before the last. -/
inductive JobStep (state : TenantState) (label : JobLabel) : TenantState → Prop where
  | served (next : TenantState) : state.clock ≤ label.now →
      label.call.serve state label.now = .ok (label.granted, next) →
      label.claimed = label.call.claimed state label.now →
      JobStep state label (next.at label.now)
  | rolledBack : state.clock ≤ label.now → label.granted = false → label.claimed = none →
      JobStep state label (state.at label.now)

/-- A call that names a job, by somebody who does not hold it: a superseded token, another
worker or a lapsed lease. -/
def JobCall.Stale (state : TenantState) (now : Instant) : JobCall → Prop
  | heartbeat accountId jobId claimedBy fencingToken _ =>
      state.UnheldJob accountId jobId claimedBy fencingToken now
  | markRunning accountId jobId claimedBy fencingToken =>
      state.UnheldJob accountId jobId claimedBy fencingToken now
  | complete accountId jobId claimedBy fencingToken _ =>
      state.UnheldJob accountId jobId claimedBy fencingToken now
  | fail accountId jobId claimedBy fencingToken _ _ =>
      state.UnheldJob accountId jobId claimedBy fencingToken now
  | _ => False

/-! ### What is kept -/

/-- `status in ('succeeded', 'failed', 'cancelled')`. -/
def JobStatus.Ended (status : JobStatus) : Prop :=
  status = succeeded ∨ status = failed ∨ status = cancelled

/-- How often a job was claimed. -/
def claimsOf (history : List JobLabel) (jobId : String) : Nat :=
  history.countP fun label => decide (label.claimed = some jobId)

/-- What every run from `start` keeps. -/
structure JobsFenced (start : TenantState) : Prop where
  /-- The token of a job counts its claims. -/
  counted : ∀ history state jobId job, Run JobStep start history state →
    state.jobs.get? jobId = some job → job.fencingToken = claimsOf history jobId
  /-- At most one job of an account validates, for one worker and one token. -/
  one_holder : ∀ history state now accountId jobId jobId' claimedBy claimedBy' fencingToken
    fencingToken', Run JobStep start history state →
    state.validateCycleJobLease accountId jobId claimedBy fencingToken now = true →
    state.validateCycleJobLease accountId jobId' claimedBy' fencingToken' now = true →
    jobId = jobId' ∧ claimedBy = claimedBy' ∧ fencingToken = fencingToken'
  /-- A stale call changes nothing. -/
  stale : ∀ history state label after, Run JobStep start history state →
    JobStep state label after → label.call.Stale state label.now → after = state.at label.now
  /-- Attempts are bounded. -/
  bounded : ∀ history state jobId job, Run JobStep start history state →
    state.jobs.get? jobId = some job → job.attemptCount ≤ job.maxAttempts
  /-- An ended job stays as it ended. -/
  ended : ∀ history more state later jobId job, Run JobStep start history state →
    state.jobs.get? jobId = some job → job.status.Ended → Run JobStep state more later →
    later.jobs.get? jobId = some job
  /-- An account has at most one open job. -/
  one_open : ∀ history state jobId jobId' job job', Run JobStep start history state →
    state.jobs.get? jobId = some job → state.jobs.get? jobId' = some job' →
    job.accountId = job'.accountId → job.status.Open → job'.status.Open → jobId = jobId'

/-! ### How a job moves -/

/-- What a call can do to a job, where the flag says whether it claims the job. -/
inductive JobMove (now : Instant) (job : CycleJob) : Bool → CycleJob → Prop where
  | stayed : JobMove now job false job
  | exhausted : job.Lapsed now → job.maxAttempts ≤ job.attemptCount →
      JobMove now job false
        { job with
          status := .failed
          errorCode := some "lease_exhausted"
          completedAt := some now
          leaseExpiresAt := none }
  | claimed (claimedBy : String) (leaseSeconds : Int) :
      job.status = .queued ∨ job.Lapsed now ∧ job.attemptCount < job.maxAttempts →
      JobMove now job true
        { job with
          status := .claimed
          claimedBy := some claimedBy
          fencingToken := job.fencingToken + 1
          heartbeatAt := some now
          leaseExpiresAt := some (now + seconds leaseSeconds)
          attemptCount := job.attemptCount + 1
          errorCode := none }
  | extended (leaseSeconds : Int) : job.status.Working →
      JobMove now job false
        { job with
          heartbeatAt := some now
          leaseExpiresAt := some (now + seconds leaseSeconds) }
  | started : job.status.Working →
      JobMove now job false
        { job with
          status := .running
          startedAt := job.startedAt.or (some now) }
  | succeeded (resultSummary : Option String) : job.status.Working →
      JobMove now job false
        { job with
          status := .succeeded
          completedAt := some now
          leaseExpiresAt := none
          resultSummary := resultSummary.or job.resultSummary }
  | requeued (errorCode : String) : job.status.Working → job.attemptCount < job.maxAttempts →
      JobMove now job false
        { job with
          status := .queued
          claimedBy := none
          leaseExpiresAt := none
          runAfter := now + seconds 30
          errorCode := some errorCode
          completedAt := none }
  | failed (errorCode : String) : job.status.Working →
      JobMove now job false
        { job with
          status := .failed
          leaseExpiresAt := none
          errorCode := some errorCode
          completedAt := some now }
  | cancelled : job.status = .queued →
      JobMove now job false
        { job with
          status := .cancelled
          completedAt := some now }

/-- Attempts are bounded, with one left while the job is queued. -/
def CycleJob.Bounded (job : CycleJob) : Prop :=
  job.attemptCount ≤ job.maxAttempts ∧ (job.status = .queued → job.attemptCount < job.maxAttempts)

section Moves

variable {now : Instant} {job job' : CycleJob} {claims : Bool}

theorem JobMove.account (move : JobMove now job claims job') : job'.accountId = job.accountId := by
  cases move <;> rfl

theorem JobMove.token (move : JobMove now job claims job') :
    job'.fencingToken = job.fencingToken + if claims = true then 1 else 0 := by
  cases move with
  | claimed => rfl
  | _ => exact (add_zero _).symm

theorem JobMove.bounded (move : JobMove now job claims job') (bounded : job.Bounded) :
    job'.Bounded := by
  obtain ⟨below, queued⟩ := bounded
  cases move with
  | stayed => exact ⟨below, queued⟩
  | claimed _ _ due =>
      refine ⟨?_, nofun⟩
      rcases due with waiting | ⟨-, left⟩
      · exact queued waiting
      · exact left
  | extended => exact ⟨below, queued⟩
  | requeued _ _ left => exact ⟨below, fun _ => left⟩
  | _ => exact ⟨below, nofun⟩

/-- An ended job is neither queued nor held. -/
theorem JobStatus.Ended.not_open {status : JobStatus} (ended : status.Ended) : ¬ status.Open := by
  rcases ended with rfl | rfl | rfl <;> simp [JobStatus.Open]

theorem JobStatus.Working.opened {status : JobStatus} (working : status.Working) : status.Open :=
  .inr working

/-- Only an open job moves. -/
theorem JobMove.eq_or_open (move : JobMove now job claims job') :
    job' = job ∧ claims = false ∨ job.status.Open := by
  cases move with
  | stayed => exact .inl ⟨rfl, rfl⟩
  | exhausted lapsed => exact .inr lapsed.1.opened
  | claimed _ _ due =>
      rcases due with waiting | ⟨lapsed, -⟩
      · exact .inr (.inl waiting)
      · exact .inr lapsed.1.opened
  | extended _ working => exact .inr working.opened
  | started working => exact .inr working.opened
  | succeeded _ working => exact .inr working.opened
  | requeued _ working => exact .inr working.opened
  | failed _ working => exact .inr working.opened
  | cancelled waiting => exact .inr (.inl waiting)

/-- A job that is open was open. -/
theorem JobMove.open_of_open (move : JobMove now job claims job') (opened : job'.status.Open) :
    job.status.Open := by
  rcases move.eq_or_open with ⟨rfl, -⟩ | before
  · exact opened
  · exact before

theorem JobMove.eq_of_ended (move : JobMove now job claims job') (ended : job.status.Ended) :
    job' = job := by
  rcases move.eq_or_open with ⟨same, -⟩ | opened
  · exact same
  · exact absurd opened ended.not_open

end Moves

/-! ### How the jobs change -/

/-- What a call does to the jobs, where `claimed` is the job that it claims: it moves
them, or adds a new one of an account without an open job. -/
inductive JobsChange (state : TenantState) (now : Instant) (claimed : Option String)
    (next : TenantState) : Prop where
  | moved : (∀ jobId job, state.jobs.get? jobId = some job → ∃ job',
        next.jobs.get? jobId = some job' ∧ JobMove now job (decide (claimed = some jobId)) job') →
      (∀ jobId, state.jobs.get? jobId = none → next.jobs.get? jobId = none ∧ claimed ≠ some jobId) →
      JobsChange state now claimed next
  | added (jobId : String) (job : CycleJob) : claimed = none → state.jobs.get? jobId = none →
      job.fencingToken = 0 → job.attemptCount < job.maxAttempts →
      (∀ other ∈ state.jobs.values, other.accountId = job.accountId → ¬ other.status.Open) →
      next.jobs = state.jobs.set jobId job → JobsChange state now claimed next

section Functions

variable {state next : TenantState} {accountId jobId claimedBy : String}
  {fencingToken leaseSeconds : Int} {now : Instant} {granted : Bool}

theorem TenantState.ensure_jobs {newRiskId : String} {profile : RuntimeProfile}
    (done : state.ensureAccountRuntimeProfile accountId newRiskId = .ok (profile, next)) :
    next.jobs = state.jobs := by
  unfold ensureAccountRuntimeProfile at done
  obtain ⟨⟨riskId, mid⟩, first, done⟩ := bind_ok_iff.mp done
  cases done
  unfold ensureRiskPolicy at first
  split at first
  · cases first
    rfl
  · rw [require_bind_ok_iff] at first
    obtain ⟨-, first⟩ := first
    cases first
    rfl

/-- No job changes. -/
theorem JobsChange.kept (same : next.jobs = state.jobs) : JobsChange state now none next :=
  .moved (fun jobId job here => ⟨job, by rw [same, here], .stayed⟩)
    fun jobId absent => ⟨by rw [same, absent], nofun⟩

/-- Every job is mapped. -/
theorem JobsChange.mapped (change : CycleJob → CycleJob)
    (moves : ∀ job, JobMove now job false (change job))
    (same : next.jobs = state.jobs.map fun _ job => change job) :
    JobsChange state now none next := by
  refine .moved (fun jobId job here => ⟨change job, ?_, moves job⟩) fun jobId absent => ⟨?_, nofun⟩
  · rw [same, Dict.get?_map, here, Option.map_some]
  · rw [same, Dict.get?_map, absent, Option.map_none]

/-- One job is written. -/
theorem JobsChange.written {job job' : CycleJob} (here : state.jobs.get? jobId = some job)
    (move : JobMove now job false job') (same : next.jobs = state.jobs.set jobId job') :
    JobsChange state now none next := by
  refine .moved (fun other found there => ?_) fun other absent => ⟨?_, nofun⟩
  · rw [same]
    by_cases mine : other = jobId
    · subst mine
      obtain rfl := Option.some.inj (here.symm.trans there)
      exact ⟨job', Dict.get?_set_self _ _ _, move⟩
    · exact ⟨found, by rw [Dict.get?_set_ne _ mine, there], .stayed⟩
  · have mine : other ≠ jobId := by
      rintro rfl
      rw [absent] at here
      cases here
    rw [same, Dict.get?_set_ne _ mine, absent]

/-- What the holder of a job does to it. -/
theorem TenantState.updateHeldJob_change {update : CycleJob → Option CycleJob}
    (moves : ∀ job job', job.HeldBy claimedBy fencingToken now → update job = some job' →
      JobMove now job false job')
    (done : state.updateHeldJob accountId jobId claimedBy fencingToken now update = (granted, next)) :
    JobsChange state now none next := by
  unfold updateHeldJob at done
  split at done
  · cases done
    exact .kept rfl
  · rename_i job' found
    cases done
    obtain ⟨job, here, updated⟩ := Option.bind_eq_some_iff.mp found
    obtain ⟨there, mine⟩ := Option.filter_eq_some_iff.mp here
    exact .written there (moves job job' (of_decide_eq_true mine).2 updated) rfl

theorem TenantState.heartbeat_jobs
    (done : state.heartbeatCycleJob accountId jobId claimedBy fencingToken leaseSeconds now =
      .ok (granted, next)) : JobsChange state now none next := by
  unfold heartbeatCycleJob at done
  split at done
  · refine updateHeldJob_change (fun job job' held updated => ?_) (Except.ok.inj done)
    cases updated
    exact .extended leaseSeconds held.2.2.1
  · cases done
    exact .kept rfl

theorem TenantState.markRunning_jobs
    (done : state.markCycleJobRunning accountId jobId claimedBy fencingToken now =
      .ok (granted, next)) : JobsChange state now none next := by
  refine updateHeldJob_change (fun job job' held updated => ?_) (Except.ok.inj done)
  split at updated
  · cases updated
    exact .started held.2.2.1
  · cases updated

theorem TenantState.complete_jobs {resultSummary : Option String}
    (done : state.completeCycleJob accountId jobId claimedBy fencingToken resultSummary now =
      .ok (granted, next)) : JobsChange state now none next := by
  refine updateHeldJob_change (fun job job' held updated => ?_) (Except.ok.inj done)
  cases updated
  exact .succeeded resultSummary held.2.2.1

theorem TenantState.fail_jobs {errorCode : String} {retryable : Bool}
    (done : state.failCycleJob accountId jobId claimedBy fencingToken errorCode retryable now =
      .ok (granted, next)) : JobsChange state now none next := by
  unfold failCycleJob at done
  rw [require_bind_ok_iff] at done
  refine updateHeldJob_change (fun job job' held updated => ?_) (Except.ok.inj done.2)
  split at updated
  · rename_i again
    cases updated
    exact .requeued errorCode held.2.2.1 again.2
  · cases updated
    exact .failed errorCode held.2.2.1

theorem TenantState.enqueue_jobs {request : JobRequest} {newRiskId : String}
    (done : state.enqueueCycleJob request jobId newRiskId now = .ok (granted, next)) :
    JobsChange state now none next := by
  unfold enqueueCycleJob at done
  rw [require_bind_ok_iff] at done
  obtain ⟨-, done⟩ := done
  obtain ⟨⟨profile, mid⟩, ensured, done⟩ := bind_ok_iff.mp done
  have jobs : mid.jobs = state.jobs := ensure_jobs ensured
  dsimp only at done
  split at done
  · rw [require_bind_ok_iff] at done
    obtain ⟨-, done⟩ := done
    cases done
    exact .kept jobs
  · simp only [require_bind_ok_iff] at done
    obtain ⟨-, -, -, -, -, fresh, single, done⟩ := done
    cases done
    refine .added jobId _ rfl (by rw [← jobs, fresh]) rfl ?_ ?_ (by rw [← jobs])
    · show 0 < 3
      decide
    · intro other member account opened
      exact single ⟨other, by rwa [jobs], account, opened⟩

/-- A sweep fails the exhausted jobs. -/
theorem failLapsed_moves (account : Option String) (now : Instant) {jobId : String} {job : CycleJob}
    (here : state.jobs.get? jobId = some job) :
    ∃ job', (state.failLapsed account now).jobs.get? jobId = some job' ∧
      JobMove now job false job' ∧ (job'.status.Open → job' = job) := by
  refine ⟨_, by rw [TenantState.failLapsed, Dict.get?_map, here, Option.map_some], ?_, ?_⟩
  · split
    · rename_i gone
      exact .exhausted gone.1 gone.2.1
    · exact .stayed
  · split
    · intro opened
      exact absurd opened (by simp [JobStatus.Open])
    · exact fun _ => rfl

/-- The job that is claimed was due before the sweep. -/
theorem claimableJob_due {account : Option String} {tie : Nat} {job : CycleJob}
    (found : state.claimableJob account tie now = some (jobId, job)) :
    (state.failLapsed account now).jobs.get? jobId = some job ∧
      (job.status = .queued ∨ job.Lapsed now ∧ job.attemptCount < job.maxAttempts) := by
  have listed : (jobId, job) ∈ (state.failLapsed account now).firstDue account now :=
    List.mem_of_getElem? found
  have due := (List.mem_filter.mp listed).1
  obtain ⟨member, due⟩ := List.mem_filter.mp due
  exact ⟨Dict.get?_eq_some_iff.mpr member, (of_decide_eq_true due).2.2⟩

theorem TenantState.claim_jobs {account : Option String} {tie : Nat}
    (done : state.claimNextCycleJob claimedBy leaseSeconds account tie now = .ok (granted, next)) :
    JobsChange state now ((state.claimableJob account tie now).map Prod.fst) next := by
  unfold claimNextCycleJob at done
  rw [require_bind_ok_iff] at done
  obtain ⟨-, done⟩ := done
  dsimp only at done
  have swept : ∀ jobId, state.jobs.get? jobId = none →
      (state.failLapsed account now).jobs.get? jobId = none := by
    intro jobId absent
    rw [failLapsed, Dict.get?_map, absent, Option.map_none]
  split at done
  · rename_i unclaimed
    have found : state.claimableJob account tie now = none := unclaimed
    cases done
    rw [found]
    refine .moved (fun jobId job here => ?_) fun jobId absent => ⟨swept jobId absent, ?_⟩
    · obtain ⟨job', there, move, -⟩ := failLapsed_moves account now here
      exact ⟨job', there, move⟩
    · intro same
      cases same
  · rename_i mine target claimed
    have found : state.claimableJob account tie now = some (mine, target) := claimed
    cases done
    rw [found]
    obtain ⟨there, due⟩ := claimableJob_due found
    have opened : target.status.Open := due.elim .inl fun lapsed => lapsed.1.1.opened
    refine .moved (fun jobId job here => ?_) fun jobId absent => ?_
    · obtain ⟨job', after, move, kept⟩ := failLapsed_moves account now here
      by_cases same : jobId = mine
      · subst same
        obtain rfl := Option.some.inj (there.symm.trans after)
        obtain rfl := kept opened
        refine ⟨_, Dict.get?_set_self _ _ _, ?_⟩
        rw [Option.map_some, decide_eq_true rfl]
        exact .claimed claimedBy leaseSeconds due
      · refine ⟨job', by rw [withJob, Dict.get?_set_ne _ same, after], ?_⟩
        rw [Option.map_some, decide_eq_false (fun eq => same (Option.some.inj eq).symm)]
        exact move
    · have other : jobId ≠ mine := by
        rintro rfl
        rw [swept jobId absent] at there
        cases there
      refine ⟨by rw [withJob, Dict.get?_set_ne _ other, swept jobId absent], fun eq => ?_⟩
      exact other (Option.some.inj eq).symm

theorem TenantState.updateCredential_jobs (accountId credentialId : String)
    (update : CredentialRef → CredentialRef) :
    (state.updateCredential accountId credentialId update).jobs = state.jobs := by
  unfold updateCredential
  split <;> rfl

/-- The revocation of an active wallet cancels the queued jobs of its account. -/
theorem TenantState.revokeWallet_jobs {walletId : String}
    (done : state.requestTradingWalletRevocation accountId walletId now = .ok (granted, next)) :
    JobsChange state now none next := by
  unfold requestTradingWalletRevocation at done
  split at done
  · cases done
    exact .kept rfl
  · split at done
    · cases done
      exact .kept rfl
    · split at done
      · cases done
        exact .kept (updateCredential_jobs accountId _ _)
      · cases done
        refine .mapped (fun job =>
          if job.accountId = accountId ∧ job.status = .queued then
            { job with
              status := .cancelled
              completedAt := some now }
          else job) (fun job => ?_) ?_
        · split
          · rename_i queued
            exact .cancelled queued.2
          · exact .stayed
        · simp only [withWallet, disarmed, withoutWallet, cancelQueuedJobs, updateCredential_jobs]

/-- The revocation of an AI credential cancels the queued jobs that use it. -/
theorem TenantState.revokeCredential_jobs {provider : String}
    (done : state.revokeAiCredential accountId provider now = .ok (granted, next)) :
    JobsChange state now none next := by
  unfold revokeAiCredential at done
  split at done
  · cases done
    exact .kept rfl
  · rename_i credentialId credential found
    cases done
    refine .mapped (fun job =>
      if job.accountId = accountId ∧ job.aiCredentialId = some credentialId ∧
          job.status = .queued then
        { job with
          status := .cancelled
          completedAt := some now }
      else job) (fun job => ?_) rfl
    split
    · rename_i queued
      exact .cancelled queued.2.2
    · exact .stayed

/-- How a call that is served changes the jobs. -/
theorem JobCall.changes {call : JobCall}
    (done : call.serve state now = .ok (granted, next)) :
    JobsChange state now (call.claimed state now) next := by
  cases call with
  | enqueue request jobId newRiskId => exact TenantState.enqueue_jobs done
  | claim claimedBy leaseSeconds account tie => exact TenantState.claim_jobs done
  | heartbeat accountId jobId claimedBy fencingToken leaseSeconds =>
      exact TenantState.heartbeat_jobs done
  | markRunning accountId jobId claimedBy fencingToken => exact TenantState.markRunning_jobs done
  | complete accountId jobId claimedBy fencingToken resultSummary =>
      exact TenantState.complete_jobs done
  | fail accountId jobId claimedBy fencingToken errorCode retryable =>
      exact TenantState.fail_jobs done
  | revokeWallet accountId walletId => exact TenantState.revokeWallet_jobs done
  | revokeCredential accountId provider => exact TenantState.revokeCredential_jobs done
  | storeTables tables =>
      cases done
      exact .kept rfl

/-- A stale call that is served changes nothing. -/
theorem JobCall.stale_kept {call : JobCall} (stale : call.Stale state now)
    (done : call.serve state now = .ok (granted, next)) : next = state := by
  cases call with
  | heartbeat accountId jobId claimedBy fencingToken leaseSeconds =>
      change state.heartbeatCycleJob accountId jobId claimedBy fencingToken leaseSeconds now = _ at done
      unfold TenantState.heartbeatCycleJob at done
      split at done
      · exact (TenantState.updateHeldJob_cases (Except.ok.inj done)).2 stale
      · cases done
        rfl
  | markRunning accountId jobId claimedBy fencingToken =>
      exact (TenantState.updateHeldJob_cases (Except.ok.inj done)).2 stale
  | complete accountId jobId claimedBy fencingToken resultSummary =>
      exact (TenantState.updateHeldJob_cases (Except.ok.inj done)).2 stale
  | fail accountId jobId claimedBy fencingToken errorCode retryable =>
      change state.failCycleJob accountId jobId claimedBy fencingToken errorCode retryable now = _
        at done
      unfold TenantState.failCycleJob at done
      rw [require_bind_ok_iff] at done
      exact (TenantState.updateHeldJob_cases (Except.ok.inj done.2)).2 stale
  | _ => exact absurd stale id

end Functions

/-! ### Runs -/

/-- What the jobs are after a history of calls. -/
structure JobsSound (history : List JobLabel) (state : TenantState) : Prop where
  bounded : ∀ jobId job, state.jobs.get? jobId = some job → job.Bounded
  single : ∀ jobId jobId' job job', state.jobs.get? jobId = some job →
    state.jobs.get? jobId' = some job' → job.accountId = job'.accountId → job.status.Open →
    job'.status.Open → jobId = jobId'
  counted : ∀ jobId job, state.jobs.get? jobId = some job →
    job.fencingToken = claimsOf history jobId
  unclaimed : ∀ jobId, state.jobs.get? jobId = none → claimsOf history jobId = 0

section Runs

variable {state next : TenantState} {history : List JobLabel} {label : JobLabel}

theorem claimsOf_append (jobId : String) :
    claimsOf (history ++ [label]) jobId =
      claimsOf history jobId + if label.claimed = some jobId then 1 else 0 := by
  simp [claimsOf, List.countP_append, List.countP_singleton]

/-- A moved job has moved from a job. -/
theorem JobsChange.source {now : Instant} {claimed : Option String}
    (moved : ∀ jobId job, state.jobs.get? jobId = some job → ∃ job',
      next.jobs.get? jobId = some job' ∧ JobMove now job (decide (claimed = some jobId)) job')
    (absent : ∀ jobId, state.jobs.get? jobId = none →
      next.jobs.get? jobId = none ∧ claimed ≠ some jobId) (jobId : String) (job' : CycleJob)
    (there : next.jobs.get? jobId = some job') :
    ∃ job, state.jobs.get? jobId = some job ∧
      JobMove now job (decide (claimed = some jobId)) job' := by
  cases here : state.jobs.get? jobId with
  | none =>
      rw [(absent jobId here).1] at there
      cases there
  | some job =>
      obtain ⟨found, there', move⟩ := moved jobId job here
      obtain rfl := Option.some.inj (there.symm.trans there')
      exact ⟨job, rfl, move⟩

theorem JobsSound.change (sound : JobsSound history state)
    (change : JobsChange state label.now label.claimed next) :
    JobsSound (history ++ [label]) next := by
  cases change with
  | moved moved absent =>
      have source := JobsChange.source moved absent
      refine ⟨fun jobId job' there => ?_, fun jobId other job' found there there' same opened
        opened' => ?_, fun jobId job' there => ?_, fun jobId none => ?_⟩
      · obtain ⟨job, here, move⟩ := source jobId job' there
        exact move.bounded (sound.bounded jobId job here)
      · obtain ⟨job, here, move⟩ := source jobId job' there
        obtain ⟨old, here', move'⟩ := source other found there'
        exact sound.single jobId other job old here here'
          (by rw [← move.account, ← move'.account, same]) (move.open_of_open opened)
          (move'.open_of_open opened')
      · obtain ⟨job, here, move⟩ := source jobId job' there
        rw [move.token, sound.counted jobId job here, claimsOf_append]
        push_cast
        simp
      · cases here : state.jobs.get? jobId with
        | none => rw [claimsOf_append, sound.unclaimed jobId here, if_neg (absent jobId here).2]
        | some job =>
            obtain ⟨job', there, -⟩ := moved jobId job here
            rw [none] at there
            cases there
  | added jobId job none' fresh token attempts alone written =>
      have known : ∀ {id found}, next.jobs.get? id = some found →
          id = jobId ∧ found = job ∨ id ≠ jobId ∧ state.jobs.get? id = some found := by
        intro id found there
        rw [written, Dict.get?_set_eq_some_iff] at there
        rcases there with ⟨rfl, rfl⟩ | ⟨other, there⟩
        · exact .inl ⟨rfl, rfl⟩
        · exact .inr ⟨other, there⟩
      have same : ∀ id, claimsOf (history ++ [label]) id = claimsOf history id := by
        intro id
        rw [claimsOf_append, none', if_neg nofun, add_zero]
      refine ⟨fun id found there => ?_, fun id id' found found' there there' account opened
        opened' => ?_, fun id found there => ?_, fun id absent => ?_⟩
      · rcases known there with ⟨-, rfl⟩ | ⟨-, here⟩
        · exact ⟨attempts.le, fun _ => attempts⟩
        · exact sound.bounded id found here
      · rcases known there with ⟨rfl, rfl⟩ | ⟨-, here⟩
        · rcases known there' with ⟨rfl, -⟩ | ⟨-, here'⟩
          · rfl
          · exact absurd opened' (alone found' (Dict.mem_values_iff.mpr ⟨id', here'⟩) account.symm)
        · rcases known there' with ⟨rfl, rfl⟩ | ⟨-, here'⟩
          · exact absurd opened (alone found (Dict.mem_values_iff.mpr ⟨id, here⟩) account)
          · exact sound.single id id' found found' here here' account opened opened'
      · rw [same]
        rcases known there with ⟨rfl, rfl⟩ | ⟨-, here⟩
        · rw [token, sound.unclaimed id fresh]
          rfl
        · exact sound.counted id found here
      · rw [same]
        refine sound.unclaimed id ?_
        have other : id ≠ jobId := by
          rintro rfl
          rw [written, Dict.get?_set_self] at absent
          cases absent
        rwa [written, Dict.get?_set_ne _ other] at absent

/-- A step changes the jobs by what its call does. -/
theorem JobStep.changes (step : JobStep state label next) :
    JobsChange state label.now label.claimed next := by
  cases step with
  | served after later done claimed =>
      have change := JobCall.changes done
      rw [← claimed] at change
      cases change with
      | moved moved absent => exact .moved moved absent
      | added jobId job none' fresh token attempts alone written =>
          exact .added jobId job none' fresh token attempts alone written
  | rolledBack later refused none' =>
      rw [none']
      exact .kept rfl

theorem JobsSound.step (sound : JobsSound history state) (step : JobStep state label next) :
    JobsSound (history ++ [label]) next :=
  sound.change step.changes

theorem jobsSound_of_run {start : TenantState} (empty : start.jobs = .empty)
    (run : Run JobStep start history state) : JobsSound history state := by
  refine run.invariant_history (P := JobsSound) (fun _ _ _ _ sound step => sound.step step) ?_
  have none : ∀ jobId, start.jobs.get? jobId = none := by
    intro jobId
    rw [empty, Dict.get?_empty]
  have never : ∀ {jobId job}, start.jobs.get? jobId ≠ some job := by
    intro jobId job there
    rw [none] at there
    cases there
  exact ⟨fun _ _ there => absurd there never, fun _ _ _ _ there => absurd there never,
    fun _ _ there => absurd there never, fun _ _ => rfl⟩

/-- An ended job stays through a step. -/
theorem JobStep.ended (step : JobStep state label next) {jobId : String} {job : CycleJob}
    (here : state.jobs.get? jobId = some job) (ended : job.status.Ended) :
    next.jobs.get? jobId = some job := by
  cases step.changes with
  | moved moved absent =>
      obtain ⟨job', there, move⟩ := moved jobId job here
      rw [there, move.eq_of_ended ended]
  | added other fresh none' new token attempts alone written =>
      have differs : jobId ≠ other := by
        rintro rfl
        rw [new] at here
        cases here
      rw [written, Dict.get?_set_ne _ differs, here]

/-- Whoever validates holds the job. -/
theorem validateCycleJobLease_iff {accountId jobId claimedBy : String} {fencingToken : Int}
    {now : Instant} :
    state.validateCycleJobLease accountId jobId claimedBy fencingToken now = true ↔
      ∃ job, state.jobs.get? jobId = some job ∧ job.accountId = accountId ∧
        job.HeldBy claimedBy fencingToken now := by
  unfold TenantState.validateCycleJobLease TenantState.heldJob
  rw [Option.isSome_iff_exists]
  refine exists_congr fun job => ?_
  rw [Option.filter_eq_some_iff, decide_eq_true_iff]

/-- The cycle jobs are fenced, in every run from tables without jobs. -/
theorem jobs_fenced {start : TenantState} (empty : start.jobs = .empty) : JobsFenced start where
  counted history state jobId job run here := (jobsSound_of_run empty run).counted jobId job here
  one_holder := by
    intro history state now accountId jobId jobId' claimedBy claimedBy' fencingToken fencingToken'
      run validates validates'
    obtain ⟨job, here, account, held⟩ := validateCycleJobLease_iff.mp validates
    obtain ⟨job', here', account', held'⟩ := validateCycleJobLease_iff.mp validates'
    obtain rfl := (jobsSound_of_run empty run).single jobId jobId' job job' here here'
      (account.trans account'.symm) held.2.2.1.opened held'.2.2.1.opened
    obtain rfl := Option.some.inj (here.symm.trans here')
    exact ⟨rfl, Option.some.inj (held.1.symm.trans held'.1), held.2.1.symm.trans held'.2.1⟩
  stale := by
    intro history state label after run step stale
    cases step with
    | rolledBack => rfl
    | served next later done claimed => rw [JobCall.stale_kept stale done]
  bounded history state jobId job run here :=
    ((jobsSound_of_run empty run).bounded jobId job here).1
  ended := by
    intro history more state later jobId job run here ended onwards
    exact onwards.invariant (P := fun state => state.jobs.get? jobId = some job)
      (fun _ _ _ here step => step.ended here ended) here
  one_open history state jobId jobId' job job' run here here' account opened opened' :=
    (jobsSound_of_run empty run).single jobId jobId' job job' here here' account opened opened'

end Runs

/-- The tables after a call that is served. -/
def TenantState.afterJob (state : TenantState) (call : JobCall) (now : Instant) : TenantState :=
  match call.serve state now with
  | .ok (_, next) => next.at now
  | .error _ => state.at now

/-- A job is enqueued, claimed, started and requeued, claimed again after its delay, and a
late call of the first claim comes before the one that completes it. -/
def exampleJobCalls : List (JobCall × Instant) :=
  [(.enqueue ⟨"account", "idempotency-key-0001", .paper, none, none, none, none⟩ "job" "risk", 1),
    (.claim "worker" 60 none 0, 2), (.markRunning "account" "job" "worker" 1, 3),
    (.fail "account" "job" "worker" 1 "timeout" true, 4), (.claim "worker" 60 none 0, 40000000),
    (.complete "account" "job" "worker" 1 none, 40000001),
    (.complete "account" "job" "worker" 2 none, 40000002)]

theorem exampleJob_fenced : JobsFenced emptyTenants ∧
    (List.range 8).map (fun calls => (((exampleJobCalls.take calls).foldl
      (fun state call => state.afterJob call.1 call.2) emptyTenants).jobs.get? "job").map
        fun job => (job.status, job.fencingToken, job.attemptCount)) =
      [none, some (.queued, 0, 0), some (.claimed, 1, 1), some (.running, 1, 1),
        some (.queued, 1, 1), some (.claimed, 2, 2), some (.claimed, 2, 2),
        some (.succeeded, 2, 2)] :=
  ⟨jobs_fenced rfl, by decide⟩

end Polybot
