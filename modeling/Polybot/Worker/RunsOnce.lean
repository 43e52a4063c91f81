import Polybot.Worker.TenantRunner

/-!
No account runs twice.

`Tables` says how the tasks, the set of the tasks and the set of the active accounts belong
together, whatever `serve` awaits; each coroutine keeps it, and `runs_once` reads the
guarantees of the dispatcher off it.
-/

namespace Polybot

open Interaction

/-! ### The property -/

/-- The task with the name awaits its executor. -/
def RunnerState.Executes (state : RunnerState) (taskId : Nat) (task : CycleTask) : Prop :=
  state.created.get? taskId = some task ∧ task.point = .executor

/-- The task awaits a `complete` or a `fail` call. -/
def TaskPoint.Reports : TaskPoint → Prop
  | complete => True
  | fail _ _ => True
  | _ => False

/-- A step starts a `complete` or `fail` call of the task. -/
def StartsReport (state next : RunnerState) (taskId : Nat) : Prop :=
  ∃ task task', state.created.get? taskId = some task ∧ next.created.get? taskId = some task' ∧
    task'.point ≠ task.point ∧ task'.point.Reports

/-- What the dispatcher guarantees in every run. The account of a task is the one its job was
claimed for. -/
structure RunsOnce (runner : TenantJobRunner) : Prop where
  /-- At most one executor for each account. -/
  one_for_account : ∀ labels s i j task task', Run (RunnerStep runner) .fresh labels s →
    s.Executes i task → s.Executes j task' → task.job.accountId = task'.job.accountId → i = j
  /-- At most `max_concurrency` executors. -/
  bounded : ∀ labels s (running : Finset Nat), Run (RunnerStep runner) .fresh labels s →
    (∀ i ∈ running, ∃ task, s.Executes i task) → running.card ≤ runner.maxConcurrency
  /-- After its guard was invalidated a task starts no `complete` or `fail` call. -/
  silent : ∀ labels more s t u i task label, Run (RunnerStep runner) .fresh labels s →
    s.created.get? i = some task → task.valid = false → Run (RunnerStep runner) s more t →
    RunnerStep runner t label u → ¬ StartsReport t u i
  /-- An executor runs a job that was claimed, after a `mark_running` under the token of the
  claim. -/
  marked : ∀ labels s i task, Run (RunnerStep runner) .fresh labels s → s.Executes i task →
    ∃ front running back t marking, labels = front ++ .marked i (.ok (some running)) :: back ∧
      Run (RunnerStep runner) .fresh front t ∧ .claimed i (.ok (some task.job)) ∈ front ∧
      t.created.get? i = some marking ∧ marking.call runner =
        some (.markRunning task.job.accountId task.job.id runner.ownerId task.job.fencingToken)
  /-- When `serve` has ended, no task and no heartbeat runs and no account is registered. -/
  ended : ∀ labels s outcome, Run (RunnerStep runner) .fresh labels s → s.point = .ended outcome →
    (∀ i task, s.created.get? i = some task → task.Ended ∧ ¬ task.Beats) ∧ s.tasks = ∅ ∧
      s.activeAccounts = ∅

/-! ### What a task does -/

/-- No heartbeat runs before the first step of a task, and none after its last. -/
def CycleTask.Quiet (task : CycleTask) : Prop :=
  task.point = .created ∨ task.Ended → ¬ task.Beats

/-- What a coroutine does to a task. -/
structure TaskMove (task next : CycleTask) : Prop where
  job : next.job = task.job
  valid : next.valid = true → task.valid = true
  reports : next.point ≠ task.point → next.point.Reports → task.valid = true
  quiet : task.Quiet → next.Quiet

section Moves

variable {task middle next : CycleTask}

theorem CycleTask.Quiet.of_point (begun : task.point ≠ .created)
    (going : task.point.isEnded = false) : task.Quiet := by
  rintro (fresh | ended)
  · exact absurd fresh begun
  · exact absurd (going.symm.trans ended) Bool.false_ne_true

theorem TaskMove.trans (first : TaskMove task middle) (second : TaskMove middle next) :
    TaskMove task next where
  job := second.job.trans first.job
  valid valid := first.valid (second.valid valid)
  reports changed reports := by
    by_cases same : next.point = middle.point
    · exact first.reports (same ▸ changed) (same ▸ reports)
    · exact first.valid (second.reports same reports)
  quiet quiet := second.quiet (first.quiet quiet)

/-- A move that keeps the point. -/
theorem TaskMove.of_point (job : next.job = task.job) (valid : next.valid = true → task.valid = true)
    (point : next.point = task.point) (beats : next.Beats → task.Beats) : TaskMove task next where
  job := job
  valid := valid
  reports changed := absurd point changed
  quiet quiet idle nextBeats := by
    rw [CycleTask.Ended, point] at idle
    exact quiet idle (beats nextBeats)

theorem TaskMove.invalidate : TaskMove task task.invalidate :=
  .of_point rfl nofun rfl id

theorem TaskMove.cleanUp (outcome : TaskOutcome) : TaskMove task (task.cleanUp outcome) := by
  unfold CycleTask.cleanUp
  split
  · exact ⟨rfl, nofun, fun _ => False.elim, fun _ => .of_point nofun rfl⟩
  · rename_i silent
    exact ⟨rfl, nofun, fun _ => False.elim, fun _ _ => silent⟩

/-- The clean-up of a task that never failed to be quiet. -/
theorem TaskMove.recordFailure (errorCode : String) (retryable : Bool) :
    TaskMove task (task.recordFailure errorCode retryable) := by
  unfold CycleTask.recordFailure
  split
  · rename_i valid
    exact ⟨rfl, id, fun _ _ => valid, fun _ => .of_point nofun rfl⟩
  · exact .cleanUp .returned

theorem TaskMove.handle (problem : Raised) : TaskMove task (task.handle problem) := by
  cases problem with
  | cancelled => exact TaskMove.invalidate.trans (.cleanUp _)
  | jobExecutionError errorCode retryable => exact .recordFailure _ _
  | other typeName => exact .recordFailure _ _

theorem TaskMove.started (fresh : task.point = .created) : TaskMove task task.started := by
  unfold CycleTask.started
  split
  · exact ⟨rfl, id, fun _ => False.elim, fun quiet _ => quiet (.inl fresh)⟩
  · exact ⟨rfl, id, fun _ => False.elim, fun _ => .of_point nofun rfl⟩

theorem TaskMove.marked (answer : Answer (Option DispatchedJob)) :
    TaskMove task (task.marked answer) := by
  cases answer with
  | error problem => exact .handle problem
  | ok running =>
      cases running with
      | none => exact TaskMove.invalidate.trans (.cleanUp _)
      | some running => exact ⟨rfl, id, fun _ => False.elim, fun _ => .of_point nofun rfl⟩

theorem TaskMove.executed (answer : Answer Unit) : TaskMove task (task.executed answer) := by
  cases answer with
  | error problem => exact .handle problem
  | ok result =>
      change TaskMove task (if _ then _ else _)
      split
      · rename_i valid
        exact ⟨rfl, id, fun _ _ => valid, fun _ => .of_point nofun rfl⟩
      · exact .cleanUp _

theorem TaskMove.completed (answer : Answer (Option DispatchedJob)) :
    TaskMove task (task.completed answer) := by
  cases answer with
  | error problem => exact .handle problem
  | ok saved =>
      cases saved with
      | none => exact TaskMove.invalidate.trans (.cleanUp _)
      | some saved => exact .cleanUp _

theorem TaskMove.failed (answer : Answer (Option DispatchedJob)) :
    TaskMove task (task.failed answer) := by
  cases answer with
  | error problem => exact .cleanUp _
  | ok saved =>
      cases saved with
      | none => exact TaskMove.invalidate.trans (.cleanUp _)
      | some saved => exact .cleanUp _

/-- What the heartbeat task does to the task: it only acts while it runs. -/
structure HeartbeatMove (task next : CycleTask) : Prop where
  job : next.job = task.job
  valid : next.valid = true → task.valid = true
  point : next.point = task.point

theorem HeartbeatMove.still (moves : HeartbeatMove task next) (going : ¬ next.Ended) :
    ¬ task.Ended := by
  rwa [CycleTask.Ended, moves.point] at going

theorem HeartbeatMove.move (moves : HeartbeatMove task next) (beats : task.Beats) :
    TaskMove task next :=
  .of_point moves.job moves.valid moves.point fun _ => beats

theorem HeartbeatMove.beatAgain : HeartbeatMove task task.beatAgain := by
  unfold CycleTask.beatAgain
  split <;> exact ⟨rfl, id, rfl⟩

theorem HeartbeatMove.started : HeartbeatMove task task.heartbeatStarted := by
  unfold CycleTask.heartbeatStarted
  split
  · exact ⟨rfl, id, rfl⟩
  · exact .beatAgain

theorem HeartbeatMove.woke (interrupted : Bool) :
    HeartbeatMove task (task.heartbeatWoke interrupted) := by
  unfold CycleTask.heartbeatWoke
  split <;> exact ⟨rfl, id, rfl⟩

theorem HeartbeatMove.answered (answer : Answer Bool) :
    HeartbeatMove task (task.heartbeatAnswered answer) := by
  unfold CycleTask.heartbeatAnswered
  split
  · exact .beatAgain
  · exact ⟨rfl, id, rfl⟩
  · exact ⟨rfl, nofun, rfl⟩

end Moves

/-! ### The tables -/

/-- How the tasks, their set and the active accounts belong together. -/
structure Tables (runner : TenantJobRunner) (state : RunnerState) : Prop where
  registered : ∀ i task, state.created.get? i = some task → ¬ task.Ended → i ∈ state.tasks
  active : ∀ i task, state.created.get? i = some task → ¬ task.Ended →
    task.job.accountId ∈ state.activeAccounts
  alone : ∀ i j task task', state.created.get? i = some task → state.created.get? j = some task' →
    ¬ task.Ended → ¬ task'.Ended → task.job.accountId = task'.job.accountId → i = j
  bounded : state.tasks.card ≤ runner.maxConcurrency
  quiet : ∀ i task, state.created.get? i = some task → task.Quiet

/-- Nothing runs any more. -/
structure RunnerState.Done (state : RunnerState) : Prop where
  ended : ∀ i task, state.created.get? i = some task → task.Ended
  tasks : state.tasks = ∅
  accounts : state.activeAccounts = ∅

/-- The tables, and what the point of `serve` says about them. -/
structure RunnerSound (runner : TenantJobRunner) (state : RunnerState) : Prop where
  tables : Tables runner state
  room : ∀ claimedAny, state.point = .claiming claimedAny → state.tasks.card < runner.maxConcurrency
  done : ∀ outcome, state.point = .ended outcome → state.Done

section Serve

variable {runner : TenantJobRunner} {state : RunnerState}

/-- Where `serve` is does not matter to the tables. -/
theorem Tables.at (tables : Tables runner state) (point : ServePoint) :
    Tables runner { state with point := point } :=
  ⟨tables.registered, tables.active, tables.alone, tables.bounded, tables.quiet⟩

theorem Tables.sound_at (tables : Tables runner state) {point : ServePoint}
    (claims : ∀ claimedAny, point ≠ .claiming claimedAny) (ends : ∀ outcome, point ≠ .ended outcome) :
    RunnerSound runner { state with point := point } :=
  ⟨tables.at point, fun any here => absurd here (claims any), fun outcome here =>
    absurd here (ends outcome)⟩

/-- Tables whose tasks only differ in what does not matter. -/
theorem Tables.of_same {next : RunnerState} (tables : Tables runner state)
    (tasks : next.tasks = state.tasks) (accounts : next.activeAccounts = state.activeAccounts)
    (known : ∀ {i task'}, next.created.get? i = some task' → ∃ task,
      state.created.get? i = some task ∧ task'.job = task.job ∧ task'.point = task.point ∧
        task'.heartbeat = task.heartbeat) : Tables runner next where
  registered i task' here going := by
    obtain ⟨task, found, -, point, -⟩ := known here
    rw [CycleTask.Ended, point] at going
    exact tasks ▸ tables.registered i task found going
  active i task' here going := by
    obtain ⟨task, found, job, point, -⟩ := known here
    rw [CycleTask.Ended, point] at going
    rw [job, accounts]
    exact tables.active i task found going
  alone i j task' task'' here here' going going' same := by
    obtain ⟨task, found, job, point, -⟩ := known here
    obtain ⟨other, found', job', point', -⟩ := known here'
    rw [CycleTask.Ended, point] at going
    rw [CycleTask.Ended, point'] at going'
    rw [job, job'] at same
    exact tables.alone i j task other found found' going going' same
  bounded := tasks ▸ tables.bounded
  quiet i task' here := by
    obtain ⟨task, found, -, point, heartbeat⟩ := known here
    rw [CycleTask.Quiet, CycleTask.Ended, CycleTask.Beats, point, heartbeat]
    exact tables.quiet i task found

theorem Tables.ended_of_none (tables : Tables runner state) (none' : state.tasks = ∅) (i : Nat)
    (task : CycleTask) (here : state.created.get? i = some task) : task.Ended := by
  by_contra going
  have member := tables.registered i task here going
  rw [none'] at member
  exact absurd member (Finset.notMem_empty i)

/-- The empty tables of a dispatcher that is done. -/
theorem RunnerState.Done.tables (done : state.Done)
    (quiet : ∀ i task, state.created.get? i = some task → task.Quiet) : Tables runner state where
  registered i task here going := absurd (done.ended i task here) going
  active i task here going := absurd (done.ended i task here) going
  alone i _ task _ here _ going := absurd (done.ended i task here) going
  bounded := by
    rw [done.tasks]
    exact Nat.zero_le _
  quiet := quiet

theorem Tables.afterClaims (tables : Tables runner state) (claimedAny : Bool) :
    RunnerSound runner (state.afterClaims runner claimedAny) := by
  unfold RunnerState.afterClaims
  split <;> exact tables.sound_at nofun nofun

theorem Tables.claimLoop (tables : Tables runner state) (claimedAny : Bool) :
    RunnerSound runner (state.claimLoop runner claimedAny) := by
  unfold RunnerState.claimLoop
  split
  · rename_i room
    exact ⟨tables.at _, fun _ _ => room.1, nofun⟩
  · exact tables.afterClaims claimedAny

theorem Tables.discardFinished (tables : Tables runner state) :
    Tables runner state.discardFinished where
  registered i task here going := by
    refine Finset.mem_filter.mpr ⟨tables.registered i task here going, fun ended => ?_⟩
    exact going (ended task here)
  active := tables.active
  alone := tables.alone
  bounded := (Finset.card_filter_le _ _).trans tables.bounded
  quiet := tables.quiet

theorem Tables.finish (tables : Tables runner state) (outcome : TaskOutcome) :
    RunnerSound runner (state.finish outcome) := by
  unfold RunnerState.finish
  split
  · rename_i none'
    have done : RunnerState.Done { state with point := .ended outcome, activeAccounts := ∅ } :=
      ⟨tables.ended_of_none none', none', rfl⟩
    exact ⟨done.tables tables.quiet, nofun, fun _ _ => done⟩
  · have known : ∀ {i task'}, (state.created.map fun taskId task =>
        if taskId ∈ state.tasks then { task with cancelRequested := true } else task).get? i =
          some task' → ∃ task, state.created.get? i = some task ∧ task'.job = task.job ∧
            task'.point = task.point ∧ task'.heartbeat = task.heartbeat := by
      intro i task' here
      rw [Dict.get?_map] at here
      obtain ⟨task, found, rfl⟩ := Option.map_eq_some_iff.mp here
      refine ⟨task, found, ?_⟩
      split <;> exact ⟨rfl, rfl, rfl⟩
    exact ⟨tables.of_same rfl rfl known, nofun, nofun⟩

theorem Tables.loop (tables : Tables runner state) : RunnerSound runner (state.loop runner) := by
  unfold RunnerState.loop
  split
  · exact tables.finish .returned
  · split
    · exact tables.discardFinished.sound_at nofun nofun
    · exact tables.discardFinished.claimLoop false

theorem Tables.scheduled (tables : Tables runner state) (answer : Answer Unit) :
    RunnerSound runner (state.scheduled runner answer) := by
  unfold RunnerState.scheduled
  split
  · exact tables.finish _
  · exact tables.claimLoop false

/-- A new task of an account that is not active. -/
theorem Tables.insert (tables : Tables runner state) {taskId : Nat} {job : DispatchedJob}
    (fresh : state.created.get? taskId = none) (inactive : job.accountId ∉ state.activeAccounts)
    (room : state.tasks.card < runner.maxConcurrency) :
    Tables runner
      { state with
        created := state.created.set taskId (.fresh job)
        tasks := insert taskId state.tasks
        activeAccounts := insert job.accountId state.activeAccounts } := by
  have known : ∀ {i task}, (state.created.set taskId (.fresh job)).get? i = some task →
      i = taskId ∧ task = .fresh job ∨ state.created.get? i = some task := by
    intro i task here
    rw [Dict.get?_set_eq_some_iff] at here
    rcases here with ⟨rfl, rfl⟩ | ⟨-, here⟩
    · exact .inl ⟨rfl, rfl⟩
    · exact .inr here
  have other : ∀ {i task}, state.created.get? i = some task → ¬ task.Ended →
      task.job.accountId ≠ job.accountId := by
    intro i task here going same
    exact inactive (same ▸ tables.active i task here going)
  refine ⟨fun i task here going => ?_, fun i task here going => ?_,
    fun i j task task' here here' going going' same => ?_, ?_, fun i task here => ?_⟩
  · rcases known here with ⟨rfl, -⟩ | here
    · exact Finset.mem_insert_self i state.tasks
    · exact Finset.mem_insert_of_mem (tables.registered i task here going)
  · rcases known here with ⟨-, rfl⟩ | here
    · exact Finset.mem_insert_self _ _
    · exact Finset.mem_insert_of_mem (tables.active i task here going)
  · rcases known here with ⟨rfl, rfl⟩ | found
    · rcases known here' with ⟨rfl, -⟩ | found'
      · rfl
      · exact absurd same.symm (other found' going')
    · rcases known here' with ⟨rfl, rfl⟩ | found'
      · exact absurd same (other found going)
      · exact tables.alone i j task task' found found' going going' same
  · exact (Finset.card_insert_le taskId state.tasks).trans room
  · rcases known here with ⟨-, rfl⟩ | here
    · exact fun _ beats => beats.1 rfl
    · exact tables.quiet i task here

theorem Tables.claimed (tables : Tables runner state) {taskId : Nat} {claimedAny : Bool}
    (fresh : state.created.get? taskId = none)
    (room : state.tasks.card < runner.maxConcurrency) (answer : Answer (Option DispatchedJob)) :
    RunnerSound runner (state.claimed runner taskId claimedAny answer) := by
  cases answer with
  | error problem => exact tables.finish _
  | ok answer =>
      cases answer with
      | none => exact tables.afterClaims claimedAny
      | some job =>
          change RunnerSound runner (if _ then _ else _)
          split
          · exact tables.sound_at nofun nofun
          · rename_i inactive
            exact (tables.insert fresh inactive room).claimLoop true

theorem Tables.duplicateFailed (tables : Tables runner state)
    (answer : Answer (Option DispatchedJob)) :
    RunnerSound runner (state.duplicateFailed runner answer) := by
  cases answer with
  | error problem => exact tables.finish _
  | ok saved => exact tables.claimLoop true

theorem Tables.progressed (tables : Tables runner state) (answer : Answer Unit) :
    RunnerSound runner (state.progressed answer) := by
  cases answer with
  | error problem => exact tables.finish _
  | ok done => exact tables.discardFinished.sound_at nofun nofun

/-- Gathered tasks are all tasks that ran. -/
theorem Tables.gathered (tables : Tables runner state) (outcome : TaskOutcome)
    (gathered : ∀ i ∈ state.tasks, state.TaskEnded i) : RunnerSound runner (state.gathered outcome) := by
  have done : (state.gathered outcome).Done := by
    refine ⟨fun i task here => ?_, rfl, rfl⟩
    by_contra going
    exact going (gathered i (tables.registered i task here going) task here)
  exact ⟨done.tables tables.quiet, nofun, fun _ _ => done⟩

end Serve

section Tasks

variable {runner : TenantJobRunner} {state : RunnerState} {taskId : Nat} {task next : CycleTask}

/-- What is found after a task was set. -/
theorem found_set {i : Nat} {found : CycleTask}
    (here : (state.created.set taskId next).get? i = some found) :
    i = taskId ∧ found = next ∨ i ≠ taskId ∧ state.created.get? i = some found := by
  rw [Dict.get?_set_eq_some_iff] at here
  rcases here with ⟨rfl, rfl⟩ | ⟨differs, here⟩
  · exact .inl ⟨rfl, rfl⟩
  · exact .inr ⟨differs, here⟩

/-- A task that moves, and leaves the active accounts only when it has ended. -/
theorem Tables.move (tables : Tables runner state) (here : state.created.get? taskId = some task)
    (moves : TaskMove task next) (still : ¬ next.Ended → ¬ task.Ended) {accounts : Finset String}
    (kept : ∀ account, account ∈ state.activeAccounts →
      (account = task.job.accountId → ¬ task.Ended → ¬ next.Ended) → account ∈ accounts) :
    Tables runner
      { state with
        created := state.created.set taskId next
        activeAccounts := accounts } where
  registered i found there going := by
    rcases found_set there with ⟨rfl, rfl⟩ | ⟨-, known⟩
    · exact tables.registered i task here (still going)
    · exact tables.registered i found known going
  active i found there going := by
    rcases found_set there with ⟨rfl, rfl⟩ | ⟨differs, known⟩
    · rw [moves.job]
      exact kept _ (tables.active i task here (still going)) fun _ _ => going
    · refine kept _ (tables.active i found known going) fun same alive => ?_
      exact absurd (tables.alone i taskId found task known here going alive same) differs
  alone i j found found' there there' going going' same := by
    rcases found_set there with ⟨rfl, rfl⟩ | ⟨-, known⟩
    · rcases found_set there' with ⟨rfl, -⟩ | ⟨-, known'⟩
      · rfl
      · exact tables.alone i j task found' here known' (still going) going' (moves.job ▸ same)
    · rcases found_set there' with ⟨rfl, rfl⟩ | ⟨-, known'⟩
      · exact tables.alone i j found task known here going (still going') (moves.job ▸ same)
      · exact tables.alone i j found found' known known' going going' same
  bounded := tables.bounded
  quiet i found there := by
    rcases found_set there with ⟨-, rfl⟩ | ⟨-, known⟩
    · exact moves.quiet (tables.quiet taskId task here)
    · exact tables.quiet i found known

/-- A task that goes on without leaving the active accounts. -/
theorem RunnerSound.updated (sound : RunnerSound runner state) (here : state.created.get? taskId = some task)
    (moves : TaskMove task next) (still : ¬ next.Ended → ¬ task.Ended) :
    RunnerSound runner (state.updated taskId next) where
  tables := sound.tables.move here moves still fun _ member _ => member
  room := sound.room
  done outcome ends := by
    have done := sound.done outcome ends
    refine ⟨fun i found there => ?_, done.tasks, done.accounts⟩
    rcases found_set there with ⟨rfl, rfl⟩ | ⟨-, known⟩
    · by_contra going
      exact still going (done.ended i task here)
    · exact done.ended i found known

/-- A task that was running is resumed. -/
theorem RunnerSound.resumed (sound : RunnerSound runner state) (here : state.created.get? taskId = some task)
    (moves : TaskMove task next) (going : ¬ task.Ended) :
    RunnerSound runner (state.resumed taskId next) where
  tables := by
    refine sound.tables.move here moves (fun _ => going) fun account member last => ?_
    split
    · rename_i ended
      refine Finset.mem_erase.mpr ⟨fun same => ?_, member⟩
      exact last (same.trans (congrArg DispatchedJob.accountId moves.job)) going ended
    · exact member
  room := sound.room
  done outcome ends := absurd ((sound.done outcome ends).ended taskId task here) going

end Tasks

/-! ### Steps -/

/-- The tasks stay where they are. -/
structure KeepsTasks (state next : RunnerState) : Prop where
  moved : ∀ i task, state.created.get? i = some task → ∃ task',
    next.created.get? i = some task' ∧ TaskMove task task' ∧ task'.point = task.point
  absent : ∀ i, state.created.get? i = none → next.created.get? i = none

/-- What a step does to the tasks. -/
structure StepTasks (state : RunnerState) (label : RunnerLabel) (next : RunnerState) : Prop where
  moved : ∀ i task, state.created.get? i = some task → ∃ task',
    next.created.get? i = some task' ∧ TaskMove task task' ∧
      (task'.point = .executor → task.point = .executor ∨
        ∃ running, label = .marked i (.ok (some running)) ∧ task.point = .markRunning)
  added : ∀ i task, state.created.get? i = none → next.created.get? i = some task →
    ∃ job, label = .claimed i (.ok (some job)) ∧ task = .fresh job

section Steps

variable {runner : TenantJobRunner} {state next : RunnerState} {label : RunnerLabel}

theorem KeepsTasks.of_same (same : next.created = state.created) : KeepsTasks state next where
  moved _ task here := ⟨task, same ▸ here, .of_point rfl id rfl id, rfl⟩
  absent _ none' := same ▸ none'

theorem KeepsTasks.step (keeps : KeepsTasks state next) : StepTasks state label next where
  moved i task here := by
    obtain ⟨task', here', moves, point⟩ := keeps.moved i task here
    exact ⟨task', here', moves, fun executes => .inl (point ▸ executes)⟩
  added i task none' here := absurd ((keeps.absent i none').symm.trans here) nofun

theorem KeepsTasks.finish (outcome : TaskOutcome) : KeepsTasks state (state.finish outcome) := by
  unfold RunnerState.finish
  split
  · exact .of_same rfl
  · refine ⟨fun i task here => ⟨if i ∈ state.tasks then { task with cancelRequested := true } else task,
      ?_, ?_, ?_⟩, fun i none' => ?_⟩
    · rw [Dict.get?_map, here, Option.map_some]
    · split <;> exact .of_point rfl id rfl id
    · split <;> rfl
    · rw [Dict.get?_map, none', Option.map_none]

theorem afterClaims_created (claimedAny : Bool) :
    (state.afterClaims runner claimedAny).created = state.created := by
  unfold RunnerState.afterClaims
  split <;> rfl

theorem claimLoop_created (claimedAny : Bool) :
    (state.claimLoop runner claimedAny).created = state.created := by
  unfold RunnerState.claimLoop
  split
  · rfl
  · exact afterClaims_created claimedAny

theorem KeepsTasks.loop : KeepsTasks state (state.loop runner) := by
  unfold RunnerState.loop
  split
  · exact .finish .returned
  · split
    · exact .of_same rfl
    · exact .of_same (claimLoop_created false)

theorem KeepsTasks.scheduled (answer : Answer Unit) :
    KeepsTasks state (state.scheduled runner answer) := by
  unfold RunnerState.scheduled
  split
  · exact .finish _
  · exact .of_same (claimLoop_created false)

theorem KeepsTasks.duplicateFailed (answer : Answer (Option DispatchedJob)) :
    KeepsTasks state (state.duplicateFailed runner answer) := by
  cases answer with
  | error problem => exact .finish _
  | ok saved => exact .of_same (claimLoop_created true)

theorem KeepsTasks.progressed (answer : Answer Unit) :
    KeepsTasks state (state.progressed answer) := by
  cases answer with
  | error problem => exact .finish _
  | ok done => exact .of_same rfl

theorem StepTasks.claimed {taskId : Nat} {claimedAny : Bool}
    (fresh : state.created.get? taskId = none) (answer : Answer (Option DispatchedJob)) :
    StepTasks state (.claimed taskId answer) (state.claimed runner taskId claimedAny answer) := by
  cases answer with
  | error problem => exact (KeepsTasks.finish _).step
  | ok answer =>
      cases answer with
      | none => exact (KeepsTasks.of_same (afterClaims_created claimedAny)).step
      | some job =>
          change StepTasks state _ (if _ then _ else _)
          split
          · refine KeepsTasks.step (.of_same ?_)
            rfl
          · refine ⟨fun i task here => ?_, fun i task none' here => ?_⟩
            · have differs : i ≠ taskId := by
                rintro rfl
                rw [fresh] at here
                cases here
              refine ⟨task, ?_, .of_point rfl id rfl id, .inl⟩
              rw [claimLoop_created, Dict.get?_set_ne _ differs, here]
            · rw [claimLoop_created] at here
              rcases found_set here with ⟨rfl, rfl⟩ | ⟨-, known⟩
              · exact ⟨job, rfl, rfl⟩
              · rw [none'] at known
                cases known

/-- A step of one task. -/
theorem StepTasks.task {taskId : Nat} {task task' : CycleTask}
    (here : state.created.get? taskId = some task)
    (written : next.created = state.created.set taskId task') (moves : TaskMove task task')
    (executes : task'.point = .executor → task.point = .executor ∨
      ∃ running, label = .marked taskId (.ok (some running)) ∧ task.point = .markRunning) :
    StepTasks state label next where
  moved i found there := by
    by_cases same : i = taskId
    · subst same
      obtain rfl := Option.some.inj (here.symm.trans there)
      exact ⟨task', by rw [written, Dict.get?_set_self], moves, executes⟩
    · exact ⟨found, by rw [written, Dict.get?_set_ne _ same, there], .of_point rfl id rfl id, .inl⟩
  added i found none' there := by
    rw [written] at there
    rcases found_set there with ⟨rfl, -⟩ | ⟨-, known⟩
    · rw [none'] at here
      cases here
    · rw [none'] at known
      cases known

/-- Where a task is after its clean-up. -/
theorem cleanUp_point (task : CycleTask) (outcome : TaskOutcome) :
    (task.cleanUp outcome).point ≠ .executor := by
  unfold CycleTask.cleanUp
  split <;> nofun

theorem recordFailure_point (task : CycleTask) (errorCode : String) (retryable : Bool) :
    (task.recordFailure errorCode retryable).point ≠ .executor := by
  unfold CycleTask.recordFailure
  split
  · nofun
  · exact cleanUp_point task _

theorem handle_point (task : CycleTask) (problem : Raised) :
    (task.handle problem).point ≠ .executor := by
  cases problem with
  | cancelled => exact cleanUp_point _ _
  | jobExecutionError errorCode retryable => exact recordFailure_point _ _ _
  | other typeName => exact recordFailure_point _ _ _

/-- What a step does to the tasks. -/
theorem RunnerStep.tasks (step : RunnerStep runner state label next) :
    StepTasks state label next := by
  cases step with
  | stop =>
      refine KeepsTasks.step (.of_same ?_)
      rfl
  | loop => exact KeepsTasks.loop.step
  | scheduled answer => exact (KeepsTasks.scheduled answer).step
  | claimed taskId claimedAny answer _ fresh => exact .claimed fresh answer
  | duplicateFailed job answer => exact (KeepsTasks.duplicateFailed answer).step
  | progressed answer => exact (KeepsTasks.progressed answer).step
  | gathered outcome =>
      refine KeepsTasks.step (.of_same ?_)
      rfl
  | started taskId task here point =>
      refine .task here rfl (.started point) fun executes => ?_
      unfold CycleTask.started at executes
      split at executes <;> cases executes
  | marked taskId task answer here point =>
      refine .task here rfl (.marked answer) fun executes => ?_
      cases answer with
      | error problem => exact absurd executes (handle_point task problem)
      | ok running =>
          cases running with
          | none => exact absurd executes (cleanUp_point _ _)
          | some running => exact .inr ⟨running, rfl, point⟩
  | executed taskId task answer here point => exact .task here rfl (.executed answer) fun _ => .inl point
  | completed taskId task answer here =>
      refine .task here rfl (.completed answer) fun executes => ?_
      cases answer with
      | error problem => exact absurd executes (handle_point task problem)
      | ok saved => cases saved <;> exact absurd executes (cleanUp_point _ _)
  | failed taskId task errorCode retryable answer here =>
      refine .task here rfl (.failed answer) fun executes => ?_
      cases answer with
      | error problem => exact absurd executes (cleanUp_point _ _)
      | ok saved => cases saved <;> exact absurd executes (cleanUp_point _ _)
  | heartbeatAwaited taskId task outcome here point ended =>
      refine .task here rfl ?_ nofun
      exact ⟨rfl, id, fun _ => False.elim, fun _ _ beats => beats.2 ended⟩
  | heartbeatStarted taskId task here point =>
      refine .task here rfl (HeartbeatMove.started.move ⟨?_, ?_⟩) fun executes =>
        .inl (HeartbeatMove.started.point ▸ executes)
      all_goals rw [point]; nofun
  | heartbeatWoke taskId task interrupted here point =>
      refine .task here rfl ((HeartbeatMove.woke interrupted).move ⟨?_, ?_⟩) fun executes =>
        .inl ((HeartbeatMove.woke interrupted).point ▸ executes)
      all_goals rw [point]; nofun
  | heartbeatAnswered taskId task answer here point =>
      refine .task here rfl ((HeartbeatMove.answered answer).move ⟨?_, ?_⟩) fun executes =>
        .inl ((HeartbeatMove.answered answer).point ▸ executes)
      all_goals rw [point]; nofun

theorem not_ended {task : CycleTask} {point : TaskPoint} (here : task.point = point)
    (going : point.isEnded = false) : ¬ task.Ended := by
  rw [CycleTask.Ended, here, going]
  exact Bool.false_ne_true

/-- A step keeps the tables. -/
theorem RunnerStep.sound (step : RunnerStep runner state label next) (sound : RunnerSound runner state) :
    RunnerSound runner next := by
  cases step with
  | stop => exact ⟨⟨sound.tables.registered, sound.tables.active, sound.tables.alone,
      sound.tables.bounded, sound.tables.quiet⟩, sound.room, fun outcome ends =>
        ⟨(sound.done outcome ends).ended, (sound.done outcome ends).tasks,
          (sound.done outcome ends).accounts⟩⟩
  | loop => exact sound.tables.loop
  | scheduled answer => exact sound.tables.scheduled answer
  | claimed taskId claimedAny answer point fresh =>
      exact sound.tables.claimed fresh (sound.room claimedAny point) answer
  | duplicateFailed job answer => exact sound.tables.duplicateFailed answer
  | progressed answer => exact sound.tables.progressed answer
  | gathered outcome _ gathered => exact sound.tables.gathered outcome gathered
  | started taskId task here point =>
      exact sound.updated here (.started point) fun _ => not_ended point rfl
  | marked taskId task answer here point =>
      exact sound.resumed here (.marked answer) (not_ended point rfl)
  | executed taskId task answer here point =>
      exact sound.resumed here (.executed answer) (not_ended point rfl)
  | completed taskId task answer here point =>
      exact sound.resumed here (.completed answer) (not_ended point rfl)
  | failed taskId task errorCode retryable answer here point =>
      exact sound.resumed here (.failed answer) (not_ended point rfl)
  | heartbeatAwaited taskId task outcome here point ended =>
      refine sound.resumed here ?_ (not_ended point rfl)
      exact ⟨rfl, id, fun _ => False.elim, fun _ _ beats => beats.2 ended⟩
  | heartbeatStarted taskId task here point =>
      have moves : HeartbeatMove task task.heartbeatStarted := .started
      refine sound.updated here (moves.move ⟨?_, ?_⟩) fun going => moves.still going
      all_goals rw [point]; nofun
  | heartbeatWoke taskId task interrupted here point =>
      have moves : HeartbeatMove task (task.heartbeatWoke interrupted) := .woke interrupted
      refine sound.updated here (moves.move ⟨?_, ?_⟩) fun going => moves.still going
      all_goals rw [point]; nofun
  | heartbeatAnswered taskId task answer here point =>
      have moves : HeartbeatMove task (task.heartbeatAnswered answer) := .answered answer
      refine sound.updated here (moves.move ⟨?_, ?_⟩) fun going => moves.still going
      all_goals rw [point]; nofun

end Steps

/-! ### Runs -/

section Runs

variable {runner : TenantJobRunner} {labels more : List RunnerLabel} {s t : RunnerState}
  {i : Nat} {task : CycleTask}

theorem runnerSound_of_run (run : Run (RunnerStep runner) .fresh labels s) : RunnerSound runner s := by
  refine run.invariant (fun _ _ _ sound step => step.sound sound) ?_
  have none' : ∀ {i task}, RunnerState.fresh.created.get? i ≠ some task := by
    intro i task here
    cases (Dict.get?_empty i).symm.trans here
  have done : RunnerState.fresh.Done := ⟨fun _ _ here => absurd here none', rfl, rfl⟩
  exact ⟨done.tables fun _ _ here => absurd here none', nofun, nofun⟩

/-- An invalidated guard stays invalidated. -/
theorem invalid_of_run (run : Run (RunnerStep runner) s more t)
    (here : s.created.get? i = some task) (invalid : task.valid = false) :
    ∃ task', t.created.get? i = some task' ∧ task'.valid = false := by
  refine run.invariant (P := fun state => ∃ task, state.created.get? i = some task ∧
    task.valid = false) ?_ ⟨task, here, invalid⟩
  rintro state label next ⟨task, here, invalid⟩ step
  obtain ⟨task', here', moves, -⟩ := step.tasks.moved i task here
  refine ⟨task', here', ?_⟩
  rw [← Bool.not_eq_true] at invalid ⊢
  exact fun valid => invalid (moves.valid valid)

/-- The task was created for a job that was claimed. -/
theorem claimed_of_run (run : Run (RunnerStep runner) .fresh labels s)
    (here : s.created.get? i = some task) : .claimed i (.ok (some task.job)) ∈ labels := by
  refine run.invariant_history (P := fun done state => ∀ task, state.created.get? i = some task →
    .claimed i (.ok (some task.job)) ∈ done) ?_ (fun _ here => nomatch (Dict.get?_empty i).symm.trans here) task here
  intro done state label next known step task' there
  cases here : state.created.get? i with
  | none =>
      obtain ⟨job, rfl, rfl⟩ := step.tasks.added i task' here there
      exact List.mem_concat_self
  | some task =>
      obtain ⟨found, here', moves, -⟩ := step.tasks.moved i task here
      obtain rfl := Option.some.inj (here'.symm.trans there)
      rw [moves.job]
      exact List.mem_append_left _ (known task here)

/-- An executor runs after a `mark_running` that was answered with the job. -/
theorem marked_of_run (run : Run (RunnerStep runner) .fresh labels s) (executes : s.Executes i task) :
    ∃ front running back t marking, labels = front ++ .marked i (.ok (some running)) :: back ∧
      Run (RunnerStep runner) .fresh front t ∧ t.created.get? i = some marking ∧
      marking.job = task.job ∧ marking.point = .markRunning := by
  have general : Run (RunnerStep runner) .fresh labels s ∧ ∀ task, s.Executes i task →
      ∃ front running back t marking, labels = front ++ .marked i (.ok (some running)) :: back ∧
        Run (RunnerStep runner) .fresh front t ∧ t.created.get? i = some marking ∧
        marking.job = task.job ∧ marking.point = .markRunning := by
    refine run.invariant_history (P := fun done state => Run (RunnerStep runner) .fresh done state ∧
      ∀ task, state.Executes i task → ∃ front running back t marking,
        done = front ++ .marked i (.ok (some running)) :: back ∧
          Run (RunnerStep runner) .fresh front t ∧ t.created.get? i = some marking ∧
          marking.job = task.job ∧ marking.point = .markRunning) ?_
      ⟨.refl _, fun _ executes => nomatch (Dict.get?_empty i).symm.trans executes.1⟩
    rintro done state label next ⟨reached, known⟩ step
    refine ⟨reached.snoc step, fun task' ⟨there, executes⟩ => ?_⟩
    cases here : state.created.get? i with
    | none =>
        obtain ⟨job, -, rfl⟩ := step.tasks.added i task' here there
        cases executes
    | some task =>
        obtain ⟨found, here', moves, executing⟩ := step.tasks.moved i task here
        obtain rfl := Option.some.inj (here'.symm.trans there)
        rcases executing executes with already | ⟨running, rfl, marking⟩
        · obtain ⟨front, running, back, t, marking, rfl, upTo, found, job, point⟩ :=
            known task ⟨here, already⟩
          exact ⟨front, running, back ++ [label], t, marking, by simp, upTo, found,
            job.trans moves.job.symm, point⟩
        · exact ⟨done, running, [], state, task, rfl, reached, here, moves.job.symm, marking⟩
  exact general.2 task executes

end Runs

end Polybot
