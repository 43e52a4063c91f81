import Mathlib.Data.Finset.Card
import Polybot.Collections.Dict
import Polybot.Collections.Text
import Polybot.Interaction.Transition

/-!
The dispatcher of the multi-tenant worker (`TenantJobRunner` of `tenant_worker.py`).

`serve` claims jobs and starts a task for each, a task runs its job under a lease guard
with a heartbeat task beside it, and they share the set of the tasks and the set of the
active accounts. Coroutines switch only where they await, so each label resumes one of
them with the answer it waited for, up to its next await; an answer may be an exception
or a cancellation, also of `serve`, which then gathers its tasks to the end. Where `serve`
goes around its loop it is resumed separately, which only adds interleavings.
-/

namespace Polybot

/-! ### Jobs and answers -/

/-- The fields of a claimed job that the dispatcher reads. -/
structure DispatchedJob where
  id : String
  accountId : String
  fencingToken : Int
  deriving DecidableEq

/-- What an await may raise. -/
inductive Raised where
  | cancelled
  | jobExecutionError (errorCode : String) (retryable : Bool)
  | other (typeName : String)
  deriving DecidableEq

abbrev Answer (α : Type) : Type :=
  Except Raised α

/-- Each run of other characters than `a-z`, `0-9` and `_` becomes one `_`. -/
def collapseErrorCode : Bool → List Char → List Char
  | _, [] => []
  | inRun, c :: rest =>
      if ('a' ≤ c ∧ c ≤ 'z') ∨ ('0' ≤ c ∧ c ≤ '9') ∨ c = '_' then c :: collapseErrorCode false rest
      else if inRun then collapseErrorCode true rest
      else '_' :: collapseErrorCode true rest

/-- `_safe_error_code`. -/
def safeErrorCode (value : String) : String :=
  let collapsed := String.ofList (collapseErrorCode false (Text.lower value).toList)
  let normalized := Text.trim (fun c => c = '_') collapsed
  if normalized = "" then "unknown_error" else String.ofList (normalized.toList.take 64)

/-! ### Tasks -/

/-- The heartbeat task: not created, or what it does next. -/
inductive HeartbeatPoint where
  | absent
  | created
  | sleeping
  | calling
  | ended
  deriving DecidableEq

inductive TaskOutcome where
  | returned
  | raised (problem : Raised)
  deriving DecidableEq

/-- What `_execute_claimed` awaits. -/
inductive TaskPoint where
  | created
  | markRunning
  | executor
  | complete
  | fail (errorCode : String) (retryable : Bool)
  | heartbeat (outcome : TaskOutcome)
  | ended (outcome : TaskOutcome)
  deriving DecidableEq

def TaskPoint.isEnded : TaskPoint → Bool
  | ended _ => true
  | _ => false

/-- A task of `serve`, with its lease guard and its heartbeat task. -/
structure CycleTask where
  job : DispatchedJob
  point : TaskPoint
  /-- The guard is valid. -/
  valid : Bool
  /-- `lease.job`. -/
  leaseJob : DispatchedJob
  heartbeat : HeartbeatPoint
  cancelRequested : Bool
  heartbeatCancelRequested : Bool
  deriving DecidableEq

namespace CycleTask

/-- The task that `serve` creates for a job. -/
def fresh (job : DispatchedJob) : CycleTask :=
  ⟨job, .created, true, job, .absent, false, false⟩

variable (task : CycleTask)

def Ended : Prop :=
  task.point.isEnded = true

instance : Decidable task.Ended :=
  inferInstanceAs (Decidable (_ = _))

/-- The heartbeat task runs. -/
def Beats : Prop :=
  task.heartbeat ≠ .absent ∧ task.heartbeat ≠ .ended

instance : Decidable task.Beats :=
  inferInstanceAs (Decidable (_ ∧ _))

def invalidate : CycleTask :=
  { task with valid := false }

/-- The `finally` of a task: the guard is invalidated, and a heartbeat task is cancelled and
awaited. -/
def cleanUp (outcome : TaskOutcome) : CycleTask :=
  if task.Beats then
    { task.invalidate with
      heartbeatCancelRequested := true
      point := .heartbeat outcome }
  else { task.invalidate with point := .ended outcome }

/-- `_record_failure`. -/
def recordFailure (errorCode : String) (retryable : Bool) : CycleTask :=
  if task.valid = true then { task with point := .fail (safeErrorCode errorCode) retryable }
  else task.cleanUp .returned

/-- The handlers of `_execute_claimed`. -/
def handle : Raised → CycleTask
  | .cancelled => task.invalidate.cleanUp (.raised .cancelled)
  | .jobExecutionError errorCode retryable => task.recordFailure (safeErrorCode errorCode) retryable
  | .other typeName => task.recordFailure (safeErrorCode s!"execution_{typeName}") true

/-- The first step. A task that is cancelled before it does not run at all. -/
def started : CycleTask :=
  if task.cancelRequested = true then { task with point := .ended (.raised .cancelled) }
  else { task with point := .markRunning }

def marked : Answer (Option DispatchedJob) → CycleTask
  | .ok none => task.invalidate.cleanUp .returned
  | .ok (some running) =>
      { task with
        leaseJob := running
        heartbeat := .created
        point := .executor }
  | .error problem => task.handle problem

/-- The executor is done; its result is only summarised for the repository. -/
def executed : Answer Unit → CycleTask
  | .ok _ => if task.valid = true then { task with point := .complete } else task.cleanUp .returned
  | .error problem => task.handle problem

def completed : Answer (Option DispatchedJob) → CycleTask
  | .ok none => task.invalidate.cleanUp .returned
  | .ok (some _) => task.cleanUp .returned
  | .error problem => task.handle problem

def failed : Answer (Option DispatchedJob) → CycleTask
  | .ok none => task.invalidate.cleanUp .returned
  | .ok (some _) => task.cleanUp .returned
  | .error problem => task.cleanUp (.raised problem)

/-- The `while` of the heartbeat task. -/
def beatAgain : CycleTask :=
  if task.valid = true then { task with heartbeat := .sleeping }
  else { task with heartbeat := .ended }

def heartbeatStarted : CycleTask :=
  if task.heartbeatCancelRequested = true then { task with heartbeat := .ended } else task.beatAgain

/-- The sleep is over, or it was cancelled. -/
def heartbeatWoke (interrupted : Bool) : CycleTask :=
  if interrupted = true ∨ task.valid = false then { task with heartbeat := .ended }
  else { task with heartbeat := .calling }

def heartbeatAnswered : Answer Bool → CycleTask
  | .ok true => task.beatAgain
  | .error .cancelled => { task with heartbeat := .ended }
  | _ => { task.invalidate with heartbeat := .ended }

end CycleTask

/-! ### The dispatcher -/

/-- The settings of the dispatcher, as its constructor checks them. -/
structure TenantJobRunner where
  ownerId : String
  maxConcurrency : Nat
  leaseSeconds : Nat
  /-- `schedule_due_jobs is not None`. -/
  schedulesDueJobs : Bool
  owner_present : Text.strip ownerId ≠ ""
  concurrency_bounds : 1 ≤ maxConcurrency ∧ maxConcurrency ≤ 32
  lease_bounds : 10 ≤ leaseSeconds ∧ leaseSeconds ≤ 300

/-- What `serve` awaits; at `loop` it is about to test `stop`. -/
inductive ServePoint where
  | loop
  | scheduling
  | claiming (claimedAny : Bool)
  | failingDuplicate (job : DispatchedJob)
  | waiting
  | gathering (outcome : TaskOutcome)
  | ended (outcome : TaskOutcome)
  deriving DecidableEq

structure RunnerState where
  point : ServePoint
  stop : Bool
  /-- Every task that was created. -/
  created : Dict Nat CycleTask
  /-- `_tasks`. -/
  tasks : Finset Nat
  /-- `_active_accounts`. -/
  activeAccounts : Finset String
  deriving DecidableEq

namespace RunnerState

/-- A dispatcher that has not served yet. -/
def fresh : RunnerState :=
  ⟨.loop, false, .empty, ∅, ∅⟩

variable (runner : TenantJobRunner) (state : RunnerState)

/-- The task with the name is done. -/
def TaskEnded (taskId : Nat) : Prop :=
  ∀ task ∈ state.created.get? taskId, task.Ended

instance (taskId : Nat) : Decidable (state.TaskEnded taskId) :=
  inferInstanceAs (Decidable (∀ task ∈ state.created.get? taskId, _))

/-- `_discard_finished`. -/
def discardFinished : RunnerState :=
  { state with tasks := state.tasks.filter fun taskId => ¬ state.TaskEnded taskId }

/-- The `finally` of `serve`: the tasks are cancelled and awaited. -/
def finish (outcome : TaskOutcome) : RunnerState :=
  if state.tasks = ∅ then
    { state with
      point := .ended outcome
      activeAccounts := ∅ }
  else
    { state with
      point := .gathering outcome
      created := state.created.map fun taskId task =>
        if taskId ∈ state.tasks then { task with cancelRequested := true } else task }

/-- The tasks have been gathered. -/
def gathered (outcome : TaskOutcome) : RunnerState :=
  { state with
    point := .ended outcome
    tasks := ∅
    activeAccounts := ∅ }

/-- After the inner loop: wait for progress, or go around. -/
def afterClaims (claimedAny : Bool) : RunnerState :=
  if claimedAny = false ∨ runner.maxConcurrency ≤ state.tasks.card then
    { state with point := .waiting }
  else { state with point := .loop }

/-- The test of the inner loop: claim a job, or leave the loop. -/
def claimLoop (claimedAny : Bool) : RunnerState :=
  if state.tasks.card < runner.maxConcurrency ∧ state.stop = false then
    { state with point := .claiming claimedAny }
  else state.afterClaims runner claimedAny

/-- The test of the outer loop. -/
def loop : RunnerState :=
  if state.stop = true then state.finish .returned
  else if runner.schedulesDueJobs = true then
    { state.discardFinished with point := .scheduling }
  else state.discardFinished.claimLoop runner false

/-- The due jobs were scheduled; a failure is only logged. -/
def scheduled : Answer Unit → RunnerState
  | .error .cancelled => state.finish (.raised .cancelled)
  | _ => state.claimLoop runner false

/-- A task for a claimed job, unless its account is active. -/
def claimed (taskId : Nat) (claimedAny : Bool) : Answer (Option DispatchedJob) → RunnerState
  | .ok none => state.afterClaims runner claimedAny
  | .ok (some job) =>
      if job.accountId ∈ state.activeAccounts then { state with point := .failingDuplicate job }
      else
        { state with
          created := state.created.set taskId (.fresh job)
          tasks := insert taskId state.tasks
          activeAccounts := insert job.accountId state.activeAccounts }.claimLoop runner true
  | .error problem => state.finish (.raised problem)

def duplicateFailed : Answer (Option DispatchedJob) → RunnerState
  | .ok _ => state.claimLoop runner true
  | .error problem => state.finish (.raised problem)

/-- `_wait_for_progress` is over, or `serve` was cancelled in it. -/
def progressed : Answer Unit → RunnerState
  | .ok _ => { state.discardFinished with point := .loop }
  | .error problem => state.finish (.raised problem)

/-- A task continues; one that has run its `finally` leaves the active accounts. -/
def resumed (taskId : Nat) (task : CycleTask) : RunnerState :=
  { state with
    created := state.created.set taskId task
    activeAccounts :=
      if task.Ended then state.activeAccounts.erase task.job.accountId else state.activeAccounts }

/-- A task goes on without leaving the active accounts. -/
def updated (taskId : Nat) (task : CycleTask) : RunnerState :=
  { state with created := state.created.set taskId task }

end RunnerState

/-! ### Interleavings -/

/-- What happens: `stop` is set, or a coroutine is resumed with the answer it awaited. -/
inductive RunnerLabel where
  | stop
  | loop
  | scheduled (answer : Answer Unit)
  | claimed (taskId : Nat) (answer : Answer (Option DispatchedJob))
  | duplicateFailed (answer : Answer (Option DispatchedJob))
  | progressed (answer : Answer Unit)
  | gathered
  | started (taskId : Nat)
  | marked (taskId : Nat) (answer : Answer (Option DispatchedJob))
  | executed (taskId : Nat) (answer : Answer Unit)
  | completed (taskId : Nat) (answer : Answer (Option DispatchedJob))
  | failed (taskId : Nat) (answer : Answer (Option DispatchedJob))
  | heartbeatAwaited (taskId : Nat)
  | heartbeatStarted (taskId : Nat)
  | heartbeatWoke (taskId : Nat) (interrupted : Bool)
  | heartbeatAnswered (taskId : Nat) (answer : Answer Bool)
  deriving DecidableEq

/-- A resumed coroutine runs to its next await. -/
inductive RunnerStep (runner : TenantJobRunner) (state : RunnerState) :
    RunnerLabel → RunnerState → Prop where
  | stop : RunnerStep runner state .stop { state with stop := true }
  | loop : state.point = .loop → RunnerStep runner state .loop (state.loop runner)
  | scheduled (answer : Answer Unit) : state.point = .scheduling →
      RunnerStep runner state (.scheduled answer) (state.scheduled runner answer)
  | claimed (taskId : Nat) (claimedAny : Bool) (answer : Answer (Option DispatchedJob)) :
      state.point = .claiming claimedAny → state.created.get? taskId = none →
      RunnerStep runner state (.claimed taskId answer)
        (state.claimed runner taskId claimedAny answer)
  | duplicateFailed (job : DispatchedJob) (answer : Answer (Option DispatchedJob)) :
      state.point = .failingDuplicate job →
      RunnerStep runner state (.duplicateFailed answer) (state.duplicateFailed runner answer)
  | progressed (answer : Answer Unit) : state.point = .waiting →
      RunnerStep runner state (.progressed answer) (state.progressed answer)
  | gathered (outcome : TaskOutcome) : state.point = .gathering outcome →
      (∀ taskId ∈ state.tasks, state.TaskEnded taskId) →
      RunnerStep runner state .gathered (state.gathered outcome)
  | started (taskId : Nat) (task : CycleTask) : state.created.get? taskId = some task →
      task.point = .created →
      RunnerStep runner state (.started taskId) (state.updated taskId task.started)
  | marked (taskId : Nat) (task : CycleTask) (answer : Answer (Option DispatchedJob)) :
      state.created.get? taskId = some task → task.point = .markRunning →
      RunnerStep runner state (.marked taskId answer) (state.resumed taskId (task.marked answer))
  | executed (taskId : Nat) (task : CycleTask) (answer : Answer Unit) :
      state.created.get? taskId = some task → task.point = .executor →
      RunnerStep runner state (.executed taskId answer)
        (state.resumed taskId (task.executed answer))
  | completed (taskId : Nat) (task : CycleTask) (answer : Answer (Option DispatchedJob)) :
      state.created.get? taskId = some task → task.point = .complete →
      RunnerStep runner state (.completed taskId answer)
        (state.resumed taskId (task.completed answer))
  | failed (taskId : Nat) (task : CycleTask) (errorCode : String) (retryable : Bool)
      (answer : Answer (Option DispatchedJob)) :
      state.created.get? taskId = some task → task.point = .fail errorCode retryable →
      RunnerStep runner state (.failed taskId answer) (state.resumed taskId (task.failed answer))
  | heartbeatAwaited (taskId : Nat) (task : CycleTask) (outcome : TaskOutcome) :
      state.created.get? taskId = some task → task.point = .heartbeat outcome →
      task.heartbeat = .ended →
      RunnerStep runner state (.heartbeatAwaited taskId)
        (state.resumed taskId { task with point := .ended outcome })
  | heartbeatStarted (taskId : Nat) (task : CycleTask) :
      state.created.get? taskId = some task → task.heartbeat = .created →
      RunnerStep runner state (.heartbeatStarted taskId)
        (state.updated taskId task.heartbeatStarted)
  | heartbeatWoke (taskId : Nat) (task : CycleTask) (interrupted : Bool) :
      state.created.get? taskId = some task → task.heartbeat = .sleeping →
      RunnerStep runner state (.heartbeatWoke taskId interrupted)
        (state.updated taskId (task.heartbeatWoke interrupted))
  | heartbeatAnswered (taskId : Nat) (task : CycleTask) (answer : Answer Bool) :
      state.created.get? taskId = some task → task.heartbeat = .calling →
      RunnerStep runner state (.heartbeatAnswered taskId answer)
        (state.updated taskId (task.heartbeatAnswered answer))

/-! ### Calls of the repository -/

/-- A call about a job, under a fencing token. -/
inductive RepositoryCall where
  | markRunning (accountId jobId claimedBy : String) (fencingToken : Int)
  | complete (accountId jobId claimedBy : String) (fencingToken : Int)
  | fail (accountId jobId claimedBy : String) (fencingToken : Int) (errorCode : String)
      (retryable : Bool)
  | heartbeat (accountId jobId claimedBy : String) (fencingToken : Int) (leaseSeconds : Nat)
  deriving DecidableEq

section Calls

variable (runner : TenantJobRunner)

/-- The call that a task awaits. -/
def CycleTask.call (task : CycleTask) : Option RepositoryCall :=
  let job := task.job
  match task.point with
  | .markRunning => some (.markRunning job.accountId job.id runner.ownerId job.fencingToken)
  | .complete => some (.complete job.accountId job.id runner.ownerId job.fencingToken)
  | .fail errorCode retryable =>
      some (.fail job.accountId job.id runner.ownerId job.fencingToken errorCode retryable)
  | _ => none

/-- The call that the heartbeat task awaits. -/
def CycleTask.heartbeatCall (task : CycleTask) : Option RepositoryCall :=
  let job := task.leaseJob
  if task.heartbeat = .calling then
    some (.heartbeat job.accountId job.id runner.ownerId job.fencingToken runner.leaseSeconds)
  else none

/-- The call with which `serve` gives a duplicate back. -/
def RunnerState.call (state : RunnerState) : Option RepositoryCall :=
  match state.point with
  | .failingDuplicate job =>
      some (.fail job.accountId job.id runner.ownerId job.fencingToken "duplicate_account_claim" true)
  | _ => none

end Calls

end Polybot
