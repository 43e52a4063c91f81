import Mathlib.Data.Int.ConditionallyCompleteOrder
import Polybot.Interaction.Fencing
import Polybot.Store.PairTables

/-!
The worker lease (`worker_leases` of `0001_initial.sql`).

One row for each account, with a fencing token that grows with every change of the
owner. The functions take the row of the account, `now` is the instant of the
transaction. `leases_exclude` collects what whole runs of claims, validations and
releases guarantee.
-/

namespace Polybot

open Interaction

/-- A number of seconds, as `make_interval(secs => ...)`. -/
def seconds (count : Int) : Duration :=
  count * 1000000

/-- A row of `worker_leases`. -/
structure WorkerLease where
  ownerId : String
  fencingToken : Int
  acquiredAt : Instant
  expiresAt : Instant
  updatedAt : Instant
  owner_nonempty : 8 ≤ (Text.btrim ownerId).length
  token_pos : 0 < fencingToken
  time_order : updatedAt ≤ expiresAt
  deriving DecidableEq

/-- The row that `claim_worker_lease` returns. -/
structure LeaseClaim where
  claimed : Bool
  fencingToken : Int
  expiresAt : Instant
  deriving DecidableEq

theorem ttl_nonneg {ttlSeconds : Int} (bounds : ¬ (ttlSeconds < 5 ∨ 600 < ttlSeconds))
    (now : Instant) : now ≤ now + seconds ttlSeconds := by
  have nonneg : 0 ≤ ttlSeconds * 1000000 := by omega
  exact le_add_of_nonneg_right nonneg

/-- `claim_worker_lease`: its answer and the row after it. -/
def claimWorkerLease (lease : Option WorkerLease) (ownerId : String) (ttlSeconds : Int)
    (now : Instant) : Except SqlError (LeaseClaim × WorkerLease) :=
  if short : (Text.btrim ownerId).length < 8 then
    .error (.raised "owner_id must contain at least 8 characters")
  else if bounds : ttlSeconds < 5 ∨ 600 < ttlSeconds then
    .error (.raised "lease TTL must be between 5 and 600 seconds")
  else
    let expiresAt := now + seconds ttlSeconds
    match lease with
    | none =>
        .ok (⟨true, 1, expiresAt⟩,
          ⟨ownerId, 1, now, expiresAt, now, not_lt.mp short, Int.one_pos, ttl_nonneg bounds now⟩)
    | some held =>
        if held.ownerId = ownerId ∨ held.expiresAt ≤ now then
          let token := if held.ownerId = ownerId then held.fencingToken else held.fencingToken + 1
          .ok (⟨true, token, expiresAt⟩,
            { ownerId := ownerId
              fencingToken := token
              acquiredAt := if held.ownerId = ownerId then held.acquiredAt else now
              expiresAt := expiresAt
              updatedAt := now
              owner_nonempty := not_lt.mp short
              token_pos := by
                have positive := held.token_pos
                dsimp only [token]
                split <;> omega
              time_order := ttl_nonneg bounds now })
        else .ok (⟨false, held.fencingToken, held.expiresAt⟩, held)

/-- The owner holds the token. -/
def WorkerLease.HeldBy (lease : WorkerLease) (ownerId : String) (fencingToken : Int) : Prop :=
  lease.ownerId = ownerId ∧ lease.fencingToken = fencingToken

instance (lease : WorkerLease) (ownerId : String) (fencingToken : Int) :
    Decidable (lease.HeldBy ownerId fencingToken) :=
  inferInstanceAs (Decidable (_ ∧ _))

/-- `release_worker_lease`: whether a row was released, and the row after it. -/
def releaseWorkerLease (lease : Option WorkerLease) (ownerId : String) (fencingToken : Int)
    (now : Instant) : Bool × Option WorkerLease :=
  match lease with
  | none => (false, none)
  | some held =>
      if held.HeldBy ownerId fencingToken then
        (true, some { held with expiresAt := now, updatedAt := now, time_order := le_rfl })
      else (false, some held)

/-- `validate_worker_lease`. -/
def validateWorkerLease (lease : Option WorkerLease) (ownerId : String) (fencingToken : Int)
    (now : Instant) : Bool :=
  match lease with
  | none => false
  | some held => held.HeldBy ownerId fencingToken ∧ now < held.expiresAt

/-! ### Runs -/

inductive LeaseCall where
  | claim (ownerId : String) (ttlSeconds : Int)
  | validate (ownerId : String) (fencingToken : Int)
  | release (ownerId : String) (fencingToken : Int)

/-- The row after a call at `now`. A call that raises is rolled back. -/
def serveLease (lease : Option WorkerLease) (now : Instant) : LeaseCall → Option WorkerLease
  | .claim ownerId ttlSeconds =>
      match claimWorkerLease lease ownerId ttlSeconds now with
      | .ok (_, row) => some row
      | .error _ => lease
  | .validate _ _ => lease
  | .release ownerId fencingToken => (releaseWorkerLease lease ownerId fencingToken now).2

/-- The row of an account and the clock of the database. -/
structure LeaseState where
  clock : Instant
  lease : Option WorkerLease
  deriving DecidableEq

/-- A call at an instant that is not before the last one. -/
def LeaseStep (before : LeaseState) (call : LeaseCall × Instant) (after : LeaseState) : Prop :=
  before.clock ≤ call.2 ∧ after = ⟨call.2, serveLease before.lease call.2 call.1⟩

/-! ### One call -/

section Calls

variable {lease : Option WorkerLease} {held row : WorkerLease} {ownerId : String}
  {fencingToken : Int} {ttlSeconds : Int} {now : Instant} {answer : LeaseClaim}

/-- A claim of a held lease: the owner renews it, another owner takes it over once it
has expired, and otherwise it stays. -/
theorem claimWorkerLease_cases
    (done : claimWorkerLease (some held) ownerId ttlSeconds now = .ok (answer, row)) :
    answer.claimed = true ∧ row.ownerId = held.ownerId ∧ held.ownerId = ownerId ∧
        row.fencingToken = held.fencingToken ∨
      answer.claimed = true ∧ row.ownerId = ownerId ∧ held.ownerId ≠ ownerId ∧
        held.expiresAt ≤ now ∧ row.fencingToken = held.fencingToken + 1 ∨
      answer.claimed = false ∧ row = held ∧ held.ownerId ≠ ownerId ∧ now < held.expiresAt := by
  unfold claimWorkerLease at done
  split at done
  · cases done
  · split at done
    · cases done
    · dsimp only at done
      split at done
      · rename_i free
        cases done
        by_cases same : held.ownerId = ownerId
        · exact .inl ⟨rfl, same.symm, same, if_pos same⟩
        · exact .inr (.inl ⟨rfl, rfl, same, free.resolve_left same, if_neg same⟩)
      · rename_i taken
        cases done
        obtain ⟨other, unexpired⟩ := not_or.mp taken
        exact .inr (.inr ⟨rfl, rfl, other, not_le.mp unexpired⟩)

/-- The first claim of an account is granted. -/
theorem claimWorkerLease_none (done : claimWorkerLease none ownerId ttlSeconds now = .ok (answer, row)) :
    answer.claimed = true ∧ row.ownerId = ownerId := by
  unfold claimWorkerLease at done
  split at done
  · cases done
  · split at done
    · cases done
    · cases done
      exact ⟨rfl, rfl⟩

theorem validateWorkerLease_iff :
    validateWorkerLease lease ownerId fencingToken now = true ↔
      ∃ held, lease = some held ∧ held.HeldBy ownerId fencingToken ∧ now < held.expiresAt := by
  cases lease with
  | none => simp [validateWorkerLease]
  | some held => simp [validateWorkerLease]

/-- A release gives nobody the lease. -/
theorem validate_of_release {releaser : String} {released : Int}
    (valid : validateWorkerLease (releaseWorkerLease lease releaser released now).2 ownerId
      fencingToken now = true) : validateWorkerLease lease ownerId fencingToken now = true := by
  cases lease with
  | none => exact valid
  | some held =>
      unfold releaseWorkerLease at valid
      dsimp only at valid
      split at valid
      · obtain ⟨row, here, -, unexpired⟩ := validateWorkerLease_iff.mp valid
        cases here
        exact absurd unexpired (lt_irrefl now)
      · exact valid

/-- The stamp of the lease: its token, below every token where there is no row. -/
def leaseStamp (state : LeaseState) : Int :=
  (state.lease.map WorkerLease.fencingToken).getD 0

/-- The owner of the lease. -/
def leaseOwner (state : LeaseState) : Option String :=
  state.lease.map WorkerLease.ownerId

/-- Every call keeps the owner and its token, or raises the token. -/
theorem LeaseStep.fenced {before after : LeaseState} {call : LeaseCall × Instant}
    (step : LeaseStep before call after) : Fenced leaseStamp leaseOwner before after := by
  obtain ⟨-, rfl⟩ := step
  obtain ⟨clock, lease⟩ := before
  obtain ⟨call, now⟩ := call
  cases call with
  | validate ownerId fencingToken => exact .refl _
  | release ownerId fencingToken =>
      cases lease with
      | none => exact .refl _
      | some held =>
          refine .inr ?_
          simp only [leaseStamp, leaseOwner, serveLease, releaseWorkerLease]
          split <;> exact ⟨rfl, rfl⟩
  | claim ownerId ttlSeconds =>
      cases claimed : claimWorkerLease lease ownerId ttlSeconds now with
      | error problem =>
          refine .inr ?_
          simp only [leaseStamp, leaseOwner, serveLease, claimed, and_self]
      | ok result =>
          obtain ⟨answer, row⟩ := result
          have served : serveLease lease now (.claim ownerId ttlSeconds) = some row := by
            simp only [serveLease, claimed]
          simp only [served]
          cases lease with
          | none => exact .inl row.token_pos
          | some held =>
              rcases claimWorkerLease_cases claimed with
                ⟨-, owner, -, token⟩ | ⟨-, -, -, -, token⟩ | ⟨-, rfl, -, -⟩
              · exact .inr ⟨token.symm, congrArg some owner.symm⟩
              · refine .inl ?_
                change held.fencingToken < row.fencingToken
                omega
              · exact .inr ⟨rfl, rfl⟩

end Calls

/-! ### Whole runs -/

/-- What a state of a run owes to the ones after it. -/
structure LeasesExclude (earlier later last : LeaseState) : Prop where
  /-- At each instant at most one pair validates. -/
  exclusive : ∀ ownerId token ownerId' token' now,
    validateWorkerLease later.lease ownerId token now = true →
    validateWorkerLease later.lease ownerId' token' now = true → ownerId = ownerId' ∧ token = token'
  /-- The token never decreases, and increases with every change of the owner. -/
  monotone : ∀ held, earlier.lease = some held → ∃ row, later.lease = some row ∧
    held.fencingToken ≤ row.fencingToken ∧
    (held.ownerId ≠ row.ownerId → held.fencingToken < row.fencingToken)
  /-- One token, one owner. -/
  token_owner : ∀ held row, earlier.lease = some held → later.lease = some row →
    held.fencingToken = row.fencingToken → held.ownerId = row.ownerId
  /-- An unexpired lease refuses every other owner. -/
  refuses : ∀ ownerId token other ttlSeconds now answer row,
    validateWorkerLease later.lease ownerId token now = true → other ≠ ownerId →
    claimWorkerLease later.lease other ttlSeconds now = .ok (answer, row) →
    answer.claimed = false ∧ later.lease = some row
  /-- A pair that was taken over never validates again. -/
  never_again : ∀ held row now, earlier.lease = some held → later.lease = some row →
    held.ownerId ≠ row.ownerId →
    validateWorkerLease last.lease held.ownerId held.fencingToken now = false

section Whole

variable {earlier later last : LeaseState} {calls : List (LeaseCall × Instant)}
  {held row : WorkerLease}

theorem fenced_of_run (run : Run LeaseStep earlier calls later) :
    Fenced leaseStamp leaseOwner earlier later :=
  .of_run (fun _ _ _ => LeaseStep.fenced) run

/-- The row of the account stays. -/
theorem lease_of_run (run : Run LeaseStep earlier calls later) (here : earlier.lease = some held) :
    ∃ row, later.lease = some row := by
  have fenced := (fenced_of_run run).stamp_le
  have positive := held.token_pos
  cases there : later.lease with
  | some row => exact ⟨row, rfl⟩
  | none =>
      simp only [leaseStamp, here, there, Option.map_some, Option.map_none, Option.getD_some,
        Option.getD_none] at fenced
      omega

/-- The tokens of two states, by their owners. -/
theorem tokens_of_run (run : Run LeaseStep earlier calls later) (here : earlier.lease = some held)
    (there : later.lease = some row) : held.fencingToken ≤ row.fencingToken ∧
      (held.ownerId ≠ row.ownerId → held.fencingToken < row.fencingToken) := by
  have fenced := fenced_of_run run
  have stamp : leaseStamp earlier = held.fencingToken := by simp [leaseStamp, here]
  have stamp' : leaseStamp later = row.fencingToken := by simp [leaseStamp, there]
  rw [← stamp, ← stamp']
  refine ⟨fenced.stamp_le, fun changed => fenced.stamp_lt fun kept => changed ?_⟩
  simpa [leaseOwner, here, there] using kept

/-- Worker leases exclude each other, over every run of claims, validations and releases. -/
theorem leases_exclude {more : List (LeaseCall × Instant)}
    (run : Run LeaseStep earlier calls later) (after : Run LeaseStep later more last) :
    LeasesExclude earlier later last where
  exclusive := by
    intro ownerId token ownerId' token' now first second
    obtain ⟨held, here, ⟨owner, fence⟩, -⟩ := validateWorkerLease_iff.mp first
    obtain ⟨row, there, ⟨owner', fence'⟩, -⟩ := validateWorkerLease_iff.mp second
    obtain rfl : held = row := Option.some.inj (here.symm.trans there)
    exact ⟨owner.symm.trans owner', fence.symm.trans fence'⟩
  monotone := by
    intro held here
    obtain ⟨row, there⟩ := lease_of_run run here
    exact ⟨row, there, tokens_of_run run here there⟩
  token_owner := by
    intro held row here there same
    by_contra changed
    have raised := (tokens_of_run run here there).2 changed
    omega
  refuses := by
    intro ownerId token other ttlSeconds now answer row valid differs claimed
    obtain ⟨held, here, ⟨owner, -⟩, unexpired⟩ := validateWorkerLease_iff.mp valid
    rw [here] at claimed ⊢
    rcases claimWorkerLease_cases claimed with ⟨-, -, same, -⟩ | ⟨-, -, -, expired, -⟩ | ⟨no, rfl, -⟩
    · exact absurd (same.symm.trans owner) differs
    · exact absurd unexpired expired.not_gt
    · exact ⟨no, rfl⟩
  never_again := by
    intro held row now here there changed
    have raised := (tokens_of_run run here there).2 changed
    obtain ⟨final, finally'⟩ := lease_of_run after there
    have kept := (tokens_of_run after there finally').1
    rw [Bool.eq_false_iff]
    intro valid
    obtain ⟨lease, same, ⟨-, token⟩, -⟩ := validateWorkerLease_iff.mp valid
    obtain rfl : lease = final := Option.some.inj (same.symm.trans finally')
    omega

end Whole

/-- The state after a claim of five seconds. -/
def claimedBy (before : LeaseState) (ownerId : String) (now : Instant) : LeaseState :=
  ⟨now, serveLease before.lease now (.claim ownerId 5)⟩

/-- A lease that another owner takes over when it has expired, and the first one claims
back. -/
theorem takeover_excludes :
    let first := claimedBy ⟨0, none⟩ "worker-a" 0
    let second := claimedBy first "worker-b" 5000000
    (first.lease.map WorkerLease.fencingToken = some 1 ∧
        second.lease.map WorkerLease.fencingToken = some 2) ∧
      LeasesExclude first second (claimedBy second "worker-a" 10000000) := by
  intro first second
  have taken : Run LeaseStep first [(.claim "worker-b" 5, 5000000)] second :=
    .single ⟨by decide, rfl⟩
  have back : Run LeaseStep second [(.claim "worker-a" 5, 10000000)]
      (claimedBy second "worker-a" 10000000) := .single ⟨by decide, rfl⟩
  exact ⟨by decide, leases_exclude taken back⟩

end Polybot
