import Polybot.Ledger.Snapshot

/-!
The cache of the replayed ledger.

A snapshot that starts after an update has returned should not be served from rows that
are older than the update. `never_hides` gives the runs in which it is not: those in
which no snapshot call stores what it had read before an update once the updating call
has cleared the cache for the last time.
-/

namespace Polybot

open Checked Interaction

/-! ### What a snapshot call has read -/

/-- The ordered fills of the reads, one list for each. -/
def fillReads (log : List LedgerCallEvent) : List (List FillEntry) :=
  log.filterMap fun
    | ⟨.orderedFills _, .ok ordered⟩ => some ordered
    | _ => none

def activityReads (log : List LedgerCallEvent) : List (List ActivityRow) :=
  log.filterMap fun
    | ⟨.orderedActivities _, .ok ordered⟩ => some ordered
    | _ => none

def conditionReads (log : List LedgerCallEvent) : List (List (String × String)) :=
  log.filterMap fun
    | ⟨.marketConditions _, .ok rows⟩ => some rows
    | _ => none

/-- The fills that are replayed. -/
def replayedFills (log : List LedgerCallEvent) : List FillEntry :=
  Paging.collect pageSize 0 (fillReads log)

/-- The value is the replay of what the log has read. -/
def ReplayOf (digest : String × String → String) (since : Datetime) (log : List LedgerCallEvent)
    (value : FillLedgerSnapshot) : Prop :=
  replayFillLedger
    ((replayedFills log).map
      (FillEntry.ledgerRow digest (marketConditionsOf (conditionReads log).flatten))) since
    ((Paging.collect pageSize 0 (activityReads log)).map ActivityRow.ledgerRow) = .ok value

/-- A snapshot call looks the cache up first, and stores what it replays. -/
def SnapshotObeys (digest : String × String → String) (sinceKey : String) (since : Datetime)
    (log : List LedgerCallEvent) (event : LedgerCallEvent) : Prop :=
  (∀ key, event.request = .lookup key → log = [] ∧ key = sinceKey) ∧
    ∀ key now value, event.request = .install key now value →
      key = sinceKey ∧ ReplayOf digest since log value

/-- The value was cached, or has just been stored. -/
def SnapshotReturns (sinceKey : String) (value : FillLedgerSnapshot)
    (log : List LedgerCallEvent) : Prop :=
  (∃ now, log = [⟨.lookup sinceKey, .ok (now, some value)⟩]) ∨
    ∃ front now, log = front ++ [⟨.install sinceKey now value, .ok ()⟩]

section Calls

variable {digest : String × String → String} {sinceKey : String} {since : Datetime}
  {log : List LedgerCallEvent}

/-- A request that concerns the cache in no way. -/
theorem SnapshotObeys.of_other {event : LedgerCallEvent}
    (looks : ∀ key, event.request ≠ .lookup key)
    (installs : ∀ key now value, event.request ≠ .install key now value) :
    SnapshotObeys digest sinceKey since log event :=
  ⟨fun key asked => absurd asked (looks key),
    fun key now value asked => absurd asked (installs key now value)⟩

theorem readFillPages_obeys (remaining page : Nat) :
    (readFillPages remaining page).Obeys (SnapshotObeys digest sinceKey since) log
      fun rows later => ∃ reads, fillReads later = fillReads log ++ reads ∧
        rows = Paging.collect pageSize page reads ∧ Paging.EndsShort pageSize page reads ∧
        activityReads later = activityReads log ∧ conditionReads later = conditionReads log := by
  induction remaining generalizing page log with
  | zero => trivial
  | succ remaining ih =>
      refine .bind (M := fun ordered later =>
        later = log ++ [⟨.orderedFills page, .ok ordered⟩])
        (.ask (fun _ => .of_other (fun _ => nofun) fun _ _ _ => nofun) fun _ => rfl) ?_
      rintro (ordered : List FillEntry) later rfl
      dsimp only
      split
      · rename_i short
        refine ⟨[ordered], ?_, ?_, ⟨[], ordered, rfl, short⟩, ?_, ?_⟩
        · simp [fillReads]
        · simp
        · simp [activityReads]
        · simp [conditionReads]
      · refine .bind (ih (page + 1)) ?_
        rintro rows later ⟨reads, read, rfl, ends, activities, conditions⟩
        refine ⟨ordered :: reads, ?_, rfl, ?_, ?_, ?_⟩
        · rw [read]
          simp [fillReads]
        · obtain ⟨before, last, rfl, short⟩ := ends
          refine ⟨ordered :: before, last, rfl, ?_⟩
          rwa [List.length_cons, Nat.add_comm before.length, ← Nat.add_assoc]
        · rw [activities]
          simp [activityReads]
        · rw [conditions]
          simp [conditionReads]

theorem readActivityPages_obeys (remaining page : Nat) :
    (readActivityPages remaining page).Obeys (SnapshotObeys digest sinceKey since) log
      fun rows later => ∃ reads, activityReads later = activityReads log ++ reads ∧
        rows = Paging.collect pageSize page reads ∧
        fillReads later = fillReads log ∧ conditionReads later = conditionReads log := by
  induction remaining generalizing page log with
  | zero => trivial
  | succ remaining ih =>
      refine .bind (M := fun ordered later =>
        later = log ++ [⟨.orderedActivities page, .ok ordered⟩])
        (.ask (fun _ => .of_other (fun _ => nofun) fun _ _ _ => nofun) fun _ => rfl) ?_
      rintro (ordered : List ActivityRow) later rfl
      dsimp only
      split
      · refine ⟨[ordered], ?_, ?_, ?_, ?_⟩
        · simp [activityReads]
        · simp
        · simp [fillReads]
        · simp [conditionReads]
      · refine .bind (ih (page + 1)) ?_
        rintro rows later ⟨reads, read, rfl, fills, conditions⟩
        refine ⟨ordered :: reads, ?_, rfl, ?_, ?_⟩
        · rw [read]
          simp [activityReads]
        · rw [fills]
          simp [fillReads]
        · rw [conditions]
          simp [conditionReads]

theorem readMarketConditions_obeys (chunks : List (List String)) :
    (readMarketConditions chunks).Obeys (SnapshotObeys digest sinceKey since) log
      fun rows later => ∃ reads, conditionReads later = conditionReads log ++ reads ∧
        rows = reads.flatten ∧ fillReads later = fillReads log ∧
        activityReads later = activityReads log := by
  induction chunks generalizing log with
  | nil => exact ⟨[], by simp, rfl, rfl, rfl⟩
  | cons chunk chunks ih =>
      refine .bind (M := fun rows later => later = log ++ [⟨.marketConditions chunk, .ok rows⟩])
        (.ask (fun _ => .of_other (fun _ => nofun) fun _ _ _ => nofun) fun _ => rfl) ?_
      rintro (rows : List (String × String)) later rfl
      refine .bind ih ?_
      rintro others later ⟨reads, read, rfl, fills, activities⟩
      refine ⟨rows :: reads, ?_, rfl, ?_, ?_⟩
      · rw [read]
        simp [conditionReads]
      · rw [fills]
        simp [fillReads]
      · rw [activities]
        simp [activityReads]

/-- A replay stores what it returns, which it replayed from what it has read. -/
theorem replaySnapshot_obeys (now : Instant) (fresh : fillReads log = [] ∧ activityReads log = [] ∧
    conditionReads log = []) :
    (replaySnapshot digest sinceKey since now).Obeys (SnapshotObeys digest sinceKey since) log
      (SnapshotReturns sinceKey) := by
  obtain ⟨noFills, noActivities, noConditions⟩ := fresh
  refine .bind (readFillPages_obeys maxPages 0) ?_
  rintro _ log₁ ⟨fills, read₁, rfl, -, activities₁, conditions₁⟩
  refine .bind (readMarketConditions_obeys _) ?_
  rintro _ log₂ ⟨conditions, read₂, rfl, fills₂, activities₂⟩
  refine .bind (readActivityPages_obeys maxPages 0) ?_
  rintro _ log₃ ⟨activities, read₃, rfl, fills₃, conditions₃⟩
  rw [noFills, List.nil_append] at read₁
  rw [conditions₁, noConditions, List.nil_append] at read₂
  rw [activities₂, activities₁, noActivities, List.nil_append] at read₃
  refine .bind (M := fun value later => later = log₃ ∧ ReplayOf digest since log₃ value) (.lift ?_) ?_
  · intro value computed
    refine ⟨rfl, ?_⟩
    unfold ReplayOf replayedFills
    rw [fills₃, fills₂, read₁, conditions₃, read₂, read₃]
    cases replayed : replayFillLedger ((Paging.collect pageSize 0 fills).map
        (FillEntry.ledgerRow digest (marketConditionsOf conditions.flatten))) since
        ((Paging.collect pageSize 0 activities).map ActivityRow.ledgerRow) with
    | error problem =>
        rw [replayed] at computed
        cases computed
    | ok found =>
        rw [replayed] at computed
        cases computed
        rfl
  · rintro value log ⟨rfl, replay⟩
    refine .bind (M := fun _ later => later = log ++ [⟨.install sinceKey now value, .ok ()⟩])
      (.ask (fun _ => ⟨fun _ => nofun, ?_⟩) fun _ => rfl) ?_
    · rintro _ _ _ asked
      cases asked
      exact ⟨rfl, replay⟩
    · rintro _ _ rfl
      exact .inr ⟨log, now, rfl⟩

theorem fillLedgerSnapshot_obeys :
    (fillLedgerSnapshot digest sinceKey since).Obeys (SnapshotObeys digest sinceKey since) []
      (SnapshotReturns sinceKey) := by
  refine .bind (M := fun looked later => later = [⟨.lookup sinceKey, .ok looked⟩])
    (.ask (fun _ => ⟨?_, fun _ _ _ => nofun⟩) fun _ => rfl) ?_
  · rintro _ asked
    cases asked
    exact ⟨rfl, rfl⟩
  · rintro ⟨now, cached⟩ _ rfl
    cases cached with
    | some value => exact .inl ⟨now, rfl⟩
    | none => exact replaySnapshot_obeys now ⟨rfl, rfl, rfl⟩

/-- A request that neither looks the cache up nor stores in it. -/
def LedgerRequest.Leaves : LedgerRequest → Prop
  | lookup _ => False
  | install _ _ _ => False
  | _ => True

theorem scopeRows_leaves (baseline : Option Instant) (quarantineEnabled : Bool)
    (conditions : List String) (rows : List ActivityRow) :
    (scopeRows baseline quarantineEnabled conditions rows).Uses (fun _ => True) LedgerRequest.Leaves
      fun _ => True := by
  induction rows with
  | nil => trivial
  | cons row rows ih =>
      unfold scopeRows
      dsimp only
      split
      · exact ih
      · refine .bind (F := fun _ => True) ?_ fun _ _ =>
          .bind (F := fun _ => True) (.ask trivial fun _ _ => trivial) fun _ _ => ih
        split
        · exact .ask trivial fun _ _ => trivial
        · trivial

theorem scopePages_leaves (baseline : Option Instant) (quarantineEnabled : Bool)
    (conditions : List String) (remaining page : Nat) :
    (scopePages baseline quarantineEnabled conditions remaining page).Uses (fun _ => True)
      LedgerRequest.Leaves fun _ => True := by
  induction remaining generalizing page with
  | zero => trivial
  | succ remaining ih =>
      refine .bind (F := fun _ => True) (.ask trivial fun _ _ => trivial) fun ordered _ => ?_
      refine .bind (scopeRows_leaves baseline quarantineEnabled conditions _) fun _ _ => ?_
      split
      · trivial
      · exact ih (page + 1)

theorem commitAll_leaves (changes : List (SettlementTables × Dict String ActivityRow)) :
    (commitAll changes).Uses (fun _ => True) LedgerRequest.Leaves fun _ => True := by
  induction changes with
  | nil => trivial
  | cons change changes ih =>
      exact .bind (F := fun _ => True)
        (.attempt (.ask trivial fun _ _ => trivial) fun _ => trivial) fun _ _ => ih

/-- What the events of a call are. -/
def LedgerCall.Obeys (digest : String × String → String) :
    LedgerCall → List LedgerCallEvent → LedgerCallEvent → Prop
  | snapshot sinceKey since => SnapshotObeys digest sinceKey since
  | _ => fun _ event => event.request.Leaves

/-- What a call returns. -/
def LedgerCall.Returns (call : LedgerCall) (answer : Option FillLedgerSnapshot)
    (log : List LedgerCallEvent) : Prop :=
  ∀ value, answer = some value →
    ∃ sinceKey since, call = .snapshot sinceKey since ∧ SnapshotReturns sinceKey value log

theorem LedgerCall.program_obeys (call : LedgerCall) :
    (call.program digest).Obeys (call.Obeys digest) [] call.Returns := by
  have nothing {program : LedgerProgram Unit}
      (leaves : program.Uses (fun _ => True) LedgerRequest.Leaves fun _ => True) :
      (do let _ ← program; pure none : LedgerProgram (Option FillLedgerSnapshot)).Obeys
        (fun _ event => event.request.Leaves) [] call.Returns :=
    .bind (leaves.obeys) fun _ _ _ => nofun
  cases call with
  | snapshot sinceKey since =>
      refine .bind fillLedgerSnapshot_obeys fun value log returns => ?_
      rintro _ ⟨⟩
      exact ⟨sinceKey, since, rfl, returns⟩
  | trade update =>
      refine nothing (.relay (fun request => ?_) _)
      cases request <;> trivial
  | activity update =>
      exact nothing (.bind (F := fun _ => True) (.ask trivial fun _ _ => trivial) fun _ _ =>
        .ask trivial fun _ _ => trivial)
  | scope baseline quarantineEnabled =>
      exact nothing (.bind (F := fun _ => True) (.ask trivial fun _ _ => trivial) fun _ _ =>
        .bind (F := fun _ => True) (.ask trivial fun _ _ => trivial) fun _ _ =>
          scopePages_leaves baseline quarantineEnabled _ maxPages 0)
  | other changes => exact nothing (commitAll_leaves changes)

end Calls

/-! ### Whole runs -/

inductive LedgerTable where
  | fills
  | activities
  deriving DecidableEq

namespace LedgerRequest

/-- The table that an update of the reconciler writes. -/
def updates : LedgerRequest → Option LedgerTable
  | settle (.write (.upsertFill _ _ _)) => some .fills
  | upsertActivity _ => some .activities
  | updateScope _ _ _ => some .activities
  | _ => none

/-- The table that a snapshot reads. -/
def reads : LedgerRequest → Option LedgerTable
  | orderedFills _ => some .fills
  | orderedActivities _ => some .activities
  | _ => none

/-- The request stores a value in the cache. -/
def stores : LedgerRequest → Bool
  | install _ _ _ => true
  | _ => false

end LedgerRequest

/-- The request drops the cached value. -/
def ClearsCache (event : LedgerCallEvent) : Prop :=
  event.request = .settle .clearCache

section Runs

variable {ι : Type} [DecidableEq ι] {createdAt : String × String → Instant}
  {digest : String × String → String} {store : LedgerStore} {calls : ι → LedgerCall}
  {labels : List (ι × LedgerCallEvent)} {pool p q final : LedgerPool ι}

/-- Whoever starts a snapshot after an update of a table has returned gets a value that
a call replayed from what it read of the table after the update. -/
def NeverHides (createdAt : String × String → Instant) (digest : String × String → String)
    (store : LedgerStore) (calls : ι → LedgerCall) (labels : List (ι × LedgerCallEvent))
    (final : LedgerPool ι) : Prop :=
  ∀ front u update middle i started back p q table value,
    labels = front ++ (u, update) :: middle ++ (i, started) :: back →
    Run (Pool.Step (LedgerServe createdAt)) (ledgerPool digest store calls)
      (front ++ (u, update) :: middle) p →
    Pool.Step (LedgerServe createdAt) p (i, started) q →
    Run (Pool.Step (LedgerServe createdAt)) q back final →
    update.request.updates = some table → p.program u = .done none → p.log i = [] →
    final.program i = .done (some value) →
    ∃ j sinceKey since since' earlier later now, calls i = .snapshot sinceKey since ∧
      calls j = .snapshot sinceKey since' ∧
      final.log j = earlier ++ ⟨.install sinceKey now value, .ok ()⟩ :: later ∧
      ReplayOf digest since' earlier value ∧
      ∀ event ∈ Pool.own j front, event.request.reads ≠ some table

/-- No call stores what it has read of a table before an update, once the updating call
has cleared the cache for the last time. -/
def ClearedLast (labels : List (ι × LedgerCallEvent)) (final : LedgerPool ι) : Prop :=
  ∀ front u update back table j read before stored after,
    labels = front ++ (u, update) :: back → update.request.updates = some table →
    final.program u = .done none → (j, read) ∈ front → read.request.reads = some table →
    labels = before ++ (j, stored) :: after → stored.request.stores = true →
    ∃ clear, (u, clear) ∈ after ∧ ClearsCache clear

/-- A stored value is a replay of what its call has read. -/
theorem stored_replays {before after : List (ι × LedgerCallEvent)} {j : ι} {sinceKey : String}
    {now : Instant} {value : FillLedgerSnapshot}
    (run : Run (Pool.Step (LedgerServe createdAt)) (ledgerPool digest store calls)
      (before ++ (j, ⟨.install sinceKey now value, .ok ()⟩) :: after) final) :
    ∃ since later, calls j = .snapshot sinceKey since ∧
      final.log j = Pool.own j before ++ ⟨.install sinceKey now value, .ok ()⟩ :: later ∧
      ReplayOf digest since (Pool.own j before) value := by
  obtain ⟨p, first, rest⟩ := run.split
  obtain ⟨q, step, last⟩ := Run.cons_iff.mp rest
  have obeys := (Pool.run_obeys (fun i => ((calls i).program_obeys : ((calls i).program digest).Obeys _ [] _)) first).1 j
  have log : p.log j = Pool.own j before := by
    rw [Pool.log_of_run first]
    rfl
  obtain ⟨resume, shared, here, -, -⟩ := step
  rw [here, log] at obeys
  have good := (obeys (.ok ())).1
  cases called : calls j with
  | snapshot key since =>
      rw [called] at good
      obtain ⟨rfl, replay⟩ := good.2 sinceKey now value rfl
      refine ⟨since, Pool.own j after, rfl, ?_, replay⟩
      rw [Pool.log_of_run run]
      simp [Pool.own, ledgerPool, Pool.start]
  | _ =>
      rw [called] at good
      exact good.elim

/-- What is cached was stored, and nobody has cleared the cache since. -/
def CachedSince (labels : List (ι × LedgerCallEvent)) (pool : LedgerPool ι) : Prop :=
  ∀ sinceKey now value, pool.shared.cache = some (sinceKey, now, value) →
    ∃ before j after, labels = before ++ (j, ⟨.install sinceKey now value, .ok ()⟩) :: after ∧
      ∀ label ∈ after, ¬ ClearsCache label.2

theorem LedgerServe.cache {store next : LedgerStore} {event : LedgerCallEvent}
    (served : LedgerServe createdAt store event next) :
    next.cache = store.cache ∧ ¬ ClearsCache event ∨ next.cache = none ∨
      ∃ sinceKey now value, event = ⟨.install sinceKey now value, .ok ()⟩ ∧
        next.cache = some (sinceKey, now, value) := by
  have kept {request : LedgerRequest} (applied : store.applyActivity request = some next) :
      next.cache = store.cache ∧ request ≠ .settle .clearCache :=
    ⟨(LedgerStore.applyActivity_cases applied).1, (LedgerStore.applyActivity_cases applied).2.1 _⟩
  cases served with
  | settled request answer tables served other =>
      refine .inl ⟨rfl, fun clears => other ?_⟩
      cases clears
      rfl
  | cleared => exact .inr (.inl rfl)
  | installed sinceKey now value => exact .inr (.inr ⟨sinceKey, now, value, rfl, rfl⟩)
  | upserted update next applied => exact .inl (kept applied)
  | moved activityKey scope reason next applied => exact .inl (kept applied)
  | committed tables activities next applied => exact .inl (kept applied)
  | unanswered request problem next applied => exact .inl (kept applied)
  | failed request problem awaited =>
      refine .inl ⟨rfl, ?_⟩
      rintro rfl
      exact awaited trivial
  | _ => exact .inl ⟨rfl, nofun⟩

/-- A value that is looked up is cached. -/
theorem LedgerServe.hit {store next : LedgerStore} {sinceKey : String} {now : Instant}
    {value : FillLedgerSnapshot}
    (served : LedgerServe createdAt store ⟨.lookup sinceKey, .ok (now, some value)⟩ next) :
    ∃ cachedAt, store.cache = some (sinceKey, cachedAt, value) := by
  generalize shown : some value = answer at served
  cases served with
  | looked sinceKey now later =>
      unfold LedgerStore.hit at shown
      split at shown
      · cases shown
      · rename_i cachedKey cachedAt cached known
        split at shown
        · rename_i recent
          cases shown
          exact ⟨cachedAt, by rw [known, recent.1]⟩
        · cases shown

theorem cachedSince_of_run (fresh : store.cache = none)
    (run : Run (Pool.Step (LedgerServe createdAt)) (ledgerPool digest store calls) labels p) :
    CachedSince labels p := by
  refine run.invariant_history (P := CachedSince) ?_ ?_
  · intro labels p label q cached step sinceKey now value known
    rcases step.serves.cache with ⟨same, keeps⟩ | none | ⟨key, at', stored, asked, known'⟩
    · rw [same] at known
      obtain ⟨before, j, after, rfl, uncleared⟩ := cached sinceKey now value known
      refine ⟨before, j, after ++ [label], by simp, fun other member => ?_⟩
      rcases List.mem_append.mp member with earlier | last
      · exact uncleared other earlier
      · rw [List.mem_singleton.mp last]
        exact keeps
    · rw [none] at known
      cases known
    · rw [known'] at known
      cases known
      refine ⟨labels, label.1, [], ?_, by simp⟩
      rw [← asked]
  · intro sinceKey now value known
    rw [show (ledgerPool digest store calls).shared.cache = none from fresh] at known
    cases known

/-- In a run in which the updating calls clear the cache last, a snapshot never hides an
update that has returned. -/
theorem never_hides (empty : store.cache = none)
    (run : Run (Pool.Step (LedgerServe createdAt)) (ledgerPool digest store calls) labels final)
    (cleared : ClearedLast labels final) :
    NeverHides createdAt digest store calls labels final := by
  rintro front u update middle i started back p q table value rfl reach step rest updates returned
    fresh done
  have returns := (Pool.run_obeys (fun i => ((calls i).program_obeys : ((calls i).program digest).Obeys _ [] _)) run).1 i
  rw [done] at returns
  obtain ⟨sinceKey, since, called, returned'⟩ := returns value rfl
  have silent : Pool.own i (front ++ (u, update) :: middle) = [] := by
    have log := Pool.log_of_run reach i
    rw [fresh] at log
    simpa [ledgerPool, Pool.start] using log.symm
  obtain ⟨ended, quiet⟩ := Pool.done_of_run (.cons step rest) returned
  rcases returned' with ⟨now, logged⟩ | ⟨earlier, now, logged⟩
  · -- the value was cached: whoever stored it read the table after the update
    have looked : started = ⟨.lookup sinceKey, .ok (now, some value)⟩ := by
      have log := Pool.log_of_run (.cons step rest) i
      rw [fresh, List.nil_append, logged, Pool.own_cons_self] at log
      exact (List.cons.inj log).1.symm
    subst looked
    obtain ⟨at', known⟩ := step.serves.hit
    obtain ⟨before, j, after, split, uncleared⟩ := cachedSince_of_run empty reach _ _ _ known
    have whole : front ++ (u, update) :: middle ++
          (i, ⟨.lookup sinceKey, .ok (now, some value)⟩) :: back =
        before ++ (j, ⟨.install sinceKey at' value, .ok ()⟩) ::
          (after ++ (i, ⟨.lookup sinceKey, .ok (now, some value)⟩) :: back) := by
      rw [split, List.append_assoc, List.cons_append]
    rw [whole] at run
    obtain ⟨since', later, other, log, replay⟩ := stored_replays run
    refine ⟨j, sinceKey, since, since', _, later, at', called, other, log, replay, ?_⟩
    intro event member reads
    obtain ⟨clear, member', clears⟩ := cleared front u update
      (middle ++ (i, ⟨.lookup sinceKey, .ok (now, some value)⟩) :: back) table j event before
      ⟨.install sinceKey at' value, .ok ()⟩ _ (by simp) updates ended (Pool.mem_own.mp member) reads
      whole rfl
    rcases List.mem_append.mp member' with earlier | last
    · exact uncleared _ earlier clears
    · exact quiet clear last
  · obtain ⟨before, after, p', q', split, -, -, -, -, -⟩ := Pool.split_log run rfl logged
    rw [split] at run
    obtain ⟨since', later, other, log, replay⟩ := stored_replays run
    refine ⟨i, sinceKey, since, since', _, later, now, called, other, log, replay, ?_⟩
    intro event member
    have none : Pool.own i front = [] := by
      rw [Pool.own_append] at silent
      exact (List.append_eq_nil_iff.mp silent).1
    rw [none] at member
    cases member

omit [DecidableEq ι] in
/-- Calls that update before any call reads clear the cache last. -/
theorem clearedLast_of_turns {first second : List (ι × LedgerCallEvent)}
    (unread : ∀ label ∈ first, label.2.request.reads = none)
    (unchanged : ∀ label ∈ second, label.2.request.updates = none) :
    ClearedLast (first ++ second) final := by
  intro front u update back table j read before stored after split updates _ member reads
  rcases List.append_eq_append_iff.mp split with ⟨more, rfl, later⟩ | ⟨more, rfl, -⟩
  · have here := unchanged (u, update) (by rw [later]; simp)
    rw [updates] at here
    cases here
  · have here := unread (j, read) (List.mem_append_left _ member)
    rw [reads] at here
    cases here

end Runs

/-! ### A snapshot in flight -/

instance : Std.Total FillEntry.NotAfter :=
  ⟨fun a b => by
    unfold FillEntry.NotAfter
    rcases lt_trichotomy a.fill.matchedAt b.fill.matchedAt with lower | same | higher
    · exact .inl (.inl lower)
    · rcases le_total a.createdAt b.createdAt with earlier | later
      · exact .inl (.inr ⟨same, earlier⟩)
      · exact .inr (.inr ⟨same.symm, later⟩)
    · exact .inr (.inl higher)⟩

instance : IsTrans FillEntry FillEntry.NotAfter :=
  ⟨fun a b c => by
    unfold FillEntry.NotAfter
    rintro (lower | ⟨same, earlier⟩) (lower' | ⟨same', earlier'⟩)
    · exact .inl (lower.trans lower')
    · exact .inl (lower.trans_eq same')
    · exact .inl (same.trans_lt lower')
    · exact .inr ⟨same.trans same', earlier.trans earlier'⟩⟩

/-- A store whose database answers at once, with one market. -/
def answerLedger (store : LedgerStore) :
    (request : LedgerRequest) → Except SettlementError request.Response × LedgerStore
  | .settle .clearCache => (.ok (), { store with cache := none })
  | .settle request =>
      let served := answerSettlement store.tables request
      (served.1, { store with tables := served.2 })
  | .lookup sinceKey => (.ok (store.clock, store.hit sinceKey store.clock), store)
  | .install sinceKey now value => (.ok (), { store with cache := some (sinceKey, now, value) })
  | .orderedFills _ =>
      (.ok (((store.fillEntries fun _ => 0).filter fun entry =>
        entry.fill.settlementStatus ≠ .failed).insertionSort FillEntry.NotAfter), store)
  | .marketConditions _ => (.ok [("market", "condition")], store)
  | .orderedActivities _ =>
      (.ok ((store.activities.values.filter fun row => row.ledgerScope = .bot).insertionSort
        fun a b => a.occurredAt ≤ b.occurredAt), store)
  | .selectActivities _ => (.ok store.activities.values, store)
  | .selectConditionIds => (.ok ["condition"], store)
  | .recordQuarantine _ _ => (.ok (), store)
  | .upsertActivity update =>
      match store.applyActivity (.upsertActivity update) with
      | some next => (.ok (), next)
      | none => (.error (.raised .checkViolation), store)
  | .updateScope activityKey scope reason =>
      match store.applyActivity (.updateScope activityKey scope reason) with
      | some next => (.ok (), next)
      | none => (.error (.raised .checkViolation), store)
  | .commit tables activities =>
      match store.applyActivity (.commit tables activities) with
      | some next => (.ok (), next)
      | none => (.error (.raised .checkViolation), store)

theorem answerLedger_serves (store : LedgerStore) (request : LedgerRequest) :
    LedgerServe (fun _ => 0) store ⟨request, (answerLedger store request).1⟩
      (answerLedger store request).2 := by
  cases request with
  | settle request =>
      cases request with
      | clearCache => exact .cleared
      | _ => exact .settled _ _ _ (answerSettlement_serves store.tables _) nofun
  | lookup sinceKey => exact .looked sinceKey store.clock le_rfl
  | install sinceKey now value => exact .installed sinceKey now value
  | orderedFills page =>
      exact .fills page _ ⟨List.perm_insertionSort _ _, List.pairwise_insertionSort _ _⟩
  | marketConditions marketIds => exact .markets marketIds _
  | orderedActivities page =>
      exact .activities page _ ⟨List.perm_insertionSort _ _, List.pairwise_insertionSort _ _⟩
  | selectActivities page => exact .scoped page _ (.refl _)
  | selectConditionIds => exact .conditions _
  | recordQuarantine externalKey reason => exact .quarantined externalKey reason
  | upsertActivity update =>
      unfold answerLedger
      dsimp only
      split
      · rename_i next applied
        exact .upserted update next applied
      · exact .failed _ _ id
  | updateScope activityKey scope reason =>
      unfold answerLedger
      dsimp only
      split
      · rename_i next applied
        exact .moved activityKey scope reason next applied
      · exact .failed _ _ id
  | commit tables activities =>
      unfold answerLedger
      dsimp only
      split
      · rename_i next applied
        exact .committed tables activities next applied
      · exact .failed _ _ id

/-- Two snapshots and the delivery of a confirmed trade. -/
def inFlight : Fin 3 → LedgerCall
  | 0 => .snapshot "midnight" (.aware 0)
  | 1 => .trade (orderTrade "first" 10 Literal.ten_pos "CONFIRMED")
  | 2 => .snapshot "midnight" (.aware 0)

def submittedStore : LedgerStore :=
  ⟨submittedTables, .empty, none, 0⟩

/-- The calls on a store that has just started. -/
def inFlightPool : LedgerPool (Fin 3) :=
  ledgerPool (fun key => key.1 ++ key.2) submittedStore inFlight

/-- What a call has returned, if it has. -/
def returnedValue {ι : Type} (pool : LedgerPool ι) (i : ι) : Option (Option FillLedgerSnapshot) :=
  match pool.program i with
  | .done value => some value
  | _ => none

theorem done_of_returnedValue {ι : Type} {pool : LedgerPool ι} {i : ι}
    {value : Option FillLedgerSnapshot} (returned : returnedValue pool i = some value) :
    pool.program i = .done value := by
  unfold returnedValue at returned
  split at returned
  · rename_i found here
    cases returned
    exact here
  · cases returned

theorem replay_ledger {pool : LedgerPool (Fin 3)} {schedule : List (Fin 3)}
    {result : List (Fin 3 × LedgerCallEvent) × LedgerPool (Fin 3)}
    (replayed : Pool.replay (fun _ => answerLedger) schedule pool = some result) :
    Run (Pool.Step (LedgerServe fun _ => 0)) pool result.1 result.2 :=
  Pool.replay_run (fun _ => answerLedger_serves) replayed

/-- The trade first: the snapshot that replays it shows it, and so does the one that is
served from the cache. -/
theorem delivery_is_shown :
    ∃ labels final value, Run (Pool.Step (LedgerServe fun _ => 0)) inFlightPool labels final ∧
      final.program 2 = .done (some value) ∧ value.tokenQuantities.get? "yes" = some 10 ∧
      NeverHides (fun _ => 0) (fun key => key.1 ++ key.2) submittedStore inFlight labels final := by
  have replayed : ((Pool.replay (fun _ => answerLedger) [1, 1, 1, 1, 1, 1, 1] inFlightPool).bind
      fun first => (Pool.replay (fun _ => answerLedger) [0, 0, 0, 0, 0, 2] first.2).map fun last =>
        (first.1.all fun label => label.2.request.reads.isNone,
          last.1.all fun label => label.2.request.updates.isNone,
          (returnedValue last.2 2).map fun value =>
            value.map fun value => value.tokenQuantities.get? "yes")) =
      some (true, true, some (some (some 10))) := by
    decide +kernel
  obtain ⟨first, front, second⟩ := Option.bind_eq_some_iff.mp replayed
  obtain ⟨last, back, shown⟩ := Option.map_eq_some_iff.mp second
  simp only [Prod.mk.injEq, List.all_eq_true, Option.isNone_iff_eq_none] at shown
  obtain ⟨unread, unchanged, returned⟩ := shown
  obtain ⟨answer, ended, known⟩ := Option.map_eq_some_iff.mp returned
  obtain ⟨value, rfl, quantity⟩ := Option.map_eq_some_iff.mp known
  have run := (replay_ledger front).trans (replay_ledger back)
  exact ⟨_, last.2, value, run, done_of_returnedValue ended, quantity,
    never_hides rfl run (clearedLast_of_turns unread unchanged)⟩

/-- The first snapshot has read no fill when the trade is stored and clears the cache.
It stores its value afterwards, and the second snapshot is served without the fill. -/
theorem snapshot_in_flight_hides_fill :
    ∃ labels final, Run (Pool.Step (LedgerServe fun _ => 0)) inFlightPool labels final ∧
      (∃ value, final.program 2 = .done (some value) ∧ value.tokenQuantities.get? "yes" = none) ∧
      ¬ NeverHides (fun _ => 0) (fun key => key.1 ++ key.2) submittedStore inFlight labels final := by
  have replayed : ((Pool.replay (fun _ => answerLedger) [0, 0, 0, 1, 1, 1] inFlightPool).bind
      fun a => (Pool.replay (fun _ => answerLedger) [1] a.2).bind
      fun b => (Pool.replay (fun _ => answerLedger) [1, 1, 1, 0] b.2).bind
      fun c => (Pool.replay (fun _ => answerLedger) [2] c.2).map fun d =>
        decide ((b.1.map fun label => (label.1, label.2.request.updates)) = [(1, some .fills)] ∧
          returnedValue c.2 1 = some none ∧ c.2.log 2 = [] ∧
          ((returnedValue d.2 2).map fun value =>
            value.map fun value => value.tokenQuantities.get? "yes") = some (some none) ∧
          ∀ j, (∃ event ∈ d.2.log j, event.request.stores = true) →
            ∃ event ∈ Pool.own j a.1, event.request.reads = some .fills)) =
      some true := by
    decide +kernel
  obtain ⟨a, first, replayed⟩ := Option.bind_eq_some_iff.mp replayed
  obtain ⟨b, second, replayed⟩ := Option.bind_eq_some_iff.mp replayed
  obtain ⟨c, third, replayed⟩ := Option.bind_eq_some_iff.mp replayed
  obtain ⟨d, fourth, shown⟩ := Option.map_eq_some_iff.mp replayed
  obtain ⟨updated, ended, fresh, served, stale⟩ := of_decide_eq_true shown
  obtain ⟨⟨u, update⟩, single, named⟩ := List.map_eq_singleton_iff.mp updated
  obtain ⟨rfl, updates⟩ := Prod.mk.inj named
  obtain ⟨⟨i, started⟩, last, named⟩ :=
    List.map_eq_singleton_iff.mp (Pool.replayWhere_schedule fourth)
  obtain rfl : i = 2 := named
  obtain ⟨answer, returned, known⟩ := Option.map_eq_some_iff.mp served
  obtain ⟨value, rfl, quantity⟩ := Option.map_eq_some_iff.mp known
  have reach := (replay_ledger first).trans ((replay_ledger second).trans (replay_ledger third))
  have step := replay_ledger fourth
  rw [last] at step
  obtain ⟨q, step, stop⟩ := Run.cons_iff.mp step
  rw [single, List.singleton_append] at reach
  have done := done_of_returnedValue returned
  have run := reach.trans (.cons step stop)
  refine ⟨_, d.2, run, ⟨value, done, quantity⟩, fun hides => ?_⟩
  obtain ⟨j, sinceKey, since, since', earlier, later, now, -, -, logged, -, unread⟩ :=
    hides a.1 1 update c.1 2 started [] c.2 q .fills value rfl reach step stop updates
      (done_of_returnedValue ended) fresh done
  obtain ⟨event, member, reads⟩ := stale j ⟨⟨.install sinceKey now value, .ok ()⟩, by
    rw [logged]; simp, rfl⟩
  exact unread event member reads

end Polybot
