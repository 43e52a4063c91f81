import Polybot.Control.Lease
import Polybot.Interaction.Machine

/-!
The worker lease of `MemoryStore`, next to the one of the database.

`MemoryStore.release_worker_lease` deletes the entry of the account, where the database
keeps the row with its token, and `claim_worker_lease` checks neither the owner nor the
TTL. `stands_in_iff` says for which sequences of calls both give the same answers, so that
no token is issued to two owners.
-/

namespace Polybot

open Interaction

/-- A call of the store, with the TTL as a `timedelta`. -/
inductive LeaseRequest where
  | claim (ownerId : String) (ttl : Duration)
  | validate (ownerId : String) (fencingToken : Int)
  | release (ownerId : String) (fencingToken : Int)
  deriving DecidableEq

/-- The call of the database, with `int(ttl.total_seconds())`. -/
def LeaseRequest.rpc : LeaseRequest → LeaseCall
  | .claim ownerId ttl => .claim ownerId (ttl.tdiv 1000000)
  | .validate ownerId fencingToken => .validate ownerId fencingToken
  | .release ownerId fencingToken => .release ownerId fencingToken

/-- What the caller gets. -/
inductive LeaseAnswer where
  | raised
  | refused
  | granted (fencingToken : Int)
  | done (success : Bool)
  deriving DecidableEq

/-! ### The database -/

/-- The answer of a function of the database. -/
def answerLease (lease : Option WorkerLease) (now : Instant) : LeaseCall → LeaseAnswer
  | .claim ownerId ttlSeconds =>
      match claimWorkerLease lease ownerId ttlSeconds now with
      | .ok (answer, _) => if answer.claimed then .granted answer.fencingToken else .refused
      | .error _ => .raised
  | .validate ownerId fencingToken => .done (validateWorkerLease lease ownerId fencingToken now)
  | .release ownerId fencingToken => .done (releaseWorkerLease lease ownerId fencingToken now).1

def serveSql (lease : Option WorkerLease) (call : LeaseRequest × Instant) :
    Option WorkerLease × LeaseAnswer :=
  (serveLease lease call.2 call.1.rpc, answerLease lease call.2 call.1.rpc)

/-! ### `MemoryStore` -/

/-- `WorkerLease`, as an entry of `leases`. -/
@[ext]
structure MemoryLease where
  ownerId : String
  fencingToken : Int
  expiresAt : Instant
  token_pos : 0 < fencingToken

instance : DecidableEq MemoryLease := fun _ _ =>
  decidable_of_iff _ MemoryLease.ext_iff.symm

namespace MemoryStore

/-- `claim_worker_lease`. -/
def claimWorkerLease (current : Option MemoryLease) (ownerId : String) (ttl : Duration)
    (now : Instant) : Option MemoryLease :=
  match current with
  | none => some ⟨ownerId, 1, now + ttl, Int.one_pos⟩
  | some held =>
      if now < held.expiresAt ∧ held.ownerId ≠ ownerId then none
      else some
        { ownerId := ownerId
          fencingToken := if held.ownerId = ownerId then held.fencingToken else held.fencingToken + 1
          expiresAt := now + ttl
          token_pos := by
            have positive := held.token_pos
            split <;> omega }

/-- `validate_worker_lease`. -/
def validateWorkerLease (lease : Option MemoryLease) (ownerId : String) (fencingToken : Int)
    (now : Instant) : Bool :=
  match lease with
  | none => false
  | some held =>
      held.ownerId = ownerId ∧ held.fencingToken = fencingToken ∧ now < held.expiresAt

/-- `release_worker_lease`: the answer, and the entry after it. -/
def releaseWorkerLease (lease : Option MemoryLease) (ownerId : String) (fencingToken : Int)
    (now : Instant) : Bool × Option MemoryLease :=
  if validateWorkerLease lease ownerId fencingToken now then (true, none) else (false, lease)

def serve (current : Option MemoryLease) (call : LeaseRequest × Instant) :
    Option MemoryLease × LeaseAnswer :=
  match call with
  | (.claim ownerId ttl, now) =>
      match claimWorkerLease current ownerId ttl now with
      | none => (current, .refused)
      | some lease => (some lease, .granted lease.fencingToken)
  | (.validate ownerId fencingToken, now) =>
      (current, .done (validateWorkerLease current ownerId fencingToken now))
  | (.release ownerId fencingToken, now) =>
      let (success, left) := releaseWorkerLease current ownerId fencingToken now
      (left, .done success)

end MemoryStore

/-! ### The law -/

/-- The token that an answer issues, with its owner. -/
def issuedToken : (LeaseRequest × Instant) × LeaseAnswer → Option (String × Int)
  | ((.claim ownerId _, _), .granted fencingToken) => some (ownerId, fencingToken)
  | _ => none

def issuedTokens (calls : List (LeaseRequest × Instant)) (given : List LeaseAnswer) :
    List (String × Int) :=
  (calls.zip given).filterMap issuedToken

/-- No token is issued to two owners. -/
def OneOwner (issued : List (String × Int)) : Prop :=
  ∀ first ∈ issued, ∀ second ∈ issued, first.2 = second.2 → first.1 = second.1

instance OneOwner.decidable (issued : List (String × Int)) : Decidable (OneOwner issued) :=
  inferInstanceAs (Decidable (∀ first ∈ issued, ∀ second ∈ issued, _))

/-- Both stores give the same answers, and no token is issued to two owners. -/
def StandsIn (calls : List (LeaseRequest × Instant)) : Prop :=
  answers serveSql none calls = answers MemoryStore.serve none calls ∧
    OneOwner (issuedTokens calls (answers MemoryStore.serve none calls))

instance StandsIn.decidable (calls : List (LeaseRequest × Instant)) : Decidable (StandsIn calls) :=
  inferInstanceAs (Decidable (_ ∧ _))

/-- What `claim_worker_lease` of the database accepts. -/
def LeaseAccepted (ownerId : String) (ttlSeconds : Int) : Prop :=
  8 ≤ (Text.btrim ownerId).length ∧ 5 ≤ ttlSeconds ∧ ttlSeconds ≤ 600

instance (ownerId : String) (ttlSeconds : Int) : Decidable (LeaseAccepted ownerId ttlSeconds) :=
  inferInstanceAs (Decidable (_ ∧ _))

/-- Both leases have expired, or neither has. -/
def ExpireAlike (held : WorkerLease) (entry : MemoryLease) (now : Instant) : Prop :=
  now < held.expiresAt ↔ now < entry.expiresAt

instance (held : WorkerLease) (entry : MemoryLease) (now : Instant) :
    Decidable (ExpireAlike held entry now) :=
  inferInstanceAs (Decidable (_ ↔ _))

/-- The calls on which the stores do not part: a claim is one that the database accepts,
after a release it is the first owner who claims again, a release comes before the lease
has expired, and no call falls between the two instants of expiry, which differ where the
TTL is no whole number of seconds. -/
def Unparted (lease : Option WorkerLease) (current : Option MemoryLease) :
    LeaseRequest × Instant → Prop
  | (.claim ownerId ttl, now) => LeaseAccepted ownerId (ttl.tdiv 1000000) ∧
      match lease, current with
      | none, _ => True
      | some held, none => held.HeldBy ownerId 1
      | some held, some entry => held.ownerId = ownerId ∨ ExpireAlike held entry now
  | (.validate ownerId fencingToken, now) =>
      match lease, current with
      | some held, some entry => held.HeldBy ownerId fencingToken → ExpireAlike held entry now
      | _, _ => True
  | (.release ownerId fencingToken, now) =>
      match lease, current with
      | none, _ => True
      | some held, none => ¬ held.HeldBy ownerId fencingToken
      | some held, some entry => held.HeldBy ownerId fencingToken → now < entry.expiresAt

instance Unparted.decidable :
    ∀ lease current call, Decidable (Unparted lease current call)
  | none, _, (.claim _ _, _) => inferInstanceAs (Decidable (LeaseAccepted _ _ ∧ True))
  | some _, none, (.claim _ _, _) =>
      inferInstanceAs (Decidable (LeaseAccepted _ _ ∧ WorkerLease.HeldBy _ _ _))
  | some _, some _, (.claim _ _, _) =>
      inferInstanceAs (Decidable (LeaseAccepted _ _ ∧ (_ ∨ ExpireAlike _ _ _)))
  | none, _, (.validate _ _, _) => inferInstanceAs (Decidable True)
  | some _, none, (.validate _ _, _) => inferInstanceAs (Decidable True)
  | some _, some _, (.validate _ _, _) =>
      inferInstanceAs (Decidable (WorkerLease.HeldBy _ _ _ → ExpireAlike _ _ _))
  | none, _, (.release _ _, _) => inferInstanceAs (Decidable True)
  | some _, none, (.release _ _, _) => inferInstanceAs (Decidable (¬ WorkerLease.HeldBy _ _ _))
  | some _, some _, (.release _ _, _) =>
      inferInstanceAs (Decidable (WorkerLease.HeldBy _ _ _ → _ < _))

/-! ### A claim -/

section Claims

variable {lease : Option WorkerLease} {held : WorkerLease} {current : Option MemoryLease}
  {entry : MemoryLease} {ownerId : String} {ttlSeconds : Int} {ttl : Duration} {now : Instant}
  {fencingToken : Int}

/-- The claim is granted, and the row has its owner and its token. -/
def SqlGrants (lease : Option WorkerLease) (ownerId : String) (ttlSeconds : Int) (now : Instant)
    (fencingToken : Int) : Prop :=
  answerLease lease now (.claim ownerId ttlSeconds) = .granted fencingToken ∧
    ∃ row, serveLease lease now (.claim ownerId ttlSeconds) = some row ∧
      row.HeldBy ownerId fencingToken

theorem claim_raises (unaccepted : ¬ LeaseAccepted ownerId ttlSeconds) :
    answerLease lease now (.claim ownerId ttlSeconds) = .raised := by
  have raised : ∃ problem, claimWorkerLease lease ownerId ttlSeconds now = .error problem := by
    unfold claimWorkerLease
    split
    · exact ⟨_, rfl⟩
    · rename_i long
      split
      · exact ⟨_, rfl⟩
      · rename_i bounds
        refine absurd ⟨not_lt.mp long, ?_⟩ unaccepted
        omega
  obtain ⟨problem, raised⟩ := raised
  simp only [answerLease, raised]

/-- The first claim has the token 1. -/
theorem claim_first (now : Instant) (accepted : LeaseAccepted ownerId ttlSeconds) :
    SqlGrants none ownerId ttlSeconds now 1 := by
  obtain ⟨long, least, most⟩ := accepted
  have bounds : ¬ (ttlSeconds < 5 ∨ 600 < ttlSeconds) := by omega
  simp only [SqlGrants, answerLease, serveLease, claimWorkerLease, dif_neg long.not_gt,
    dif_neg bounds, if_true, true_and]
  exact ⟨_, rfl, rfl, rfl⟩

/-- A claim of a held lease that is granted. -/
theorem claim_granted (accepted : LeaseAccepted ownerId ttlSeconds)
    (free : held.ownerId = ownerId ∨ held.expiresAt ≤ now) :
    SqlGrants (some held) ownerId ttlSeconds now
      (if held.ownerId = ownerId then held.fencingToken else held.fencingToken + 1) := by
  obtain ⟨long, least, most⟩ := accepted
  have bounds : ¬ (ttlSeconds < 5 ∨ 600 < ttlSeconds) := by omega
  simp only [SqlGrants, answerLease, serveLease, claimWorkerLease, dif_neg long.not_gt,
    dif_neg bounds, if_pos free, if_true, true_and]
  exact ⟨_, rfl, rfl, rfl⟩

/-- A claim of a lease that another owner holds. -/
theorem claim_refused (accepted : LeaseAccepted ownerId ttlSeconds)
    (taken : ¬ (held.ownerId = ownerId ∨ held.expiresAt ≤ now)) :
    answerLease (some held) now (.claim ownerId ttlSeconds) = .refused ∧
      serveLease (some held) now (.claim ownerId ttlSeconds) = some held := by
  obtain ⟨long, least, most⟩ := accepted
  have bounds : ¬ (ttlSeconds < 5 ∨ 600 < ttlSeconds) := by omega
  simp [answerLease, serveLease, claimWorkerLease, long.not_gt, bounds, taken]

theorem memory_never_raises (call : LeaseRequest × Instant) :
    (MemoryStore.serve current call).2 ≠ .raised := by
  obtain ⟨request, now⟩ := call
  cases request with
  | claim ownerId ttl =>
      unfold MemoryStore.serve
      dsimp only
      split <;> nofun
  | validate ownerId fencingToken => nofun
  | release ownerId fencingToken => nofun

/-- A claim of an entry that is granted. -/
theorem memory_granted (ttl : Duration) (free : entry.ownerId = ownerId ∨ entry.expiresAt ≤ now) :
    ∃ after, MemoryStore.serve (some entry) (.claim ownerId ttl, now) =
        (some after, .granted
          (if entry.ownerId = ownerId then entry.fencingToken else entry.fencingToken + 1)) ∧
      after.ownerId = ownerId ∧ after.fencingToken =
        if entry.ownerId = ownerId then entry.fencingToken else entry.fencingToken + 1 := by
  have granted : ¬ (now < entry.expiresAt ∧ entry.ownerId ≠ ownerId) := by
    rintro ⟨unexpired, other⟩
    exact free.elim other unexpired.not_ge
  simp only [MemoryStore.serve, MemoryStore.claimWorkerLease, if_neg granted]
  exact ⟨_, rfl, rfl, rfl⟩

/-- A claim of an entry that another owner holds. -/
theorem memory_refused (taken : ¬ (entry.ownerId = ownerId ∨ entry.expiresAt ≤ now)) :
    MemoryStore.serve (some entry) (.claim ownerId ttl, now) = (some entry, .refused) := by
  obtain ⟨other, unexpired⟩ := not_or.mp taken
  simp only [MemoryStore.serve, MemoryStore.claimWorkerLease,
    if_pos (And.intro (not_le.mp unexpired) other)]

end Claims

/-! ### Both stores -/

/-- The states of the stores, for calls that are still to come. -/
inductive HeldAlike (calls : List (LeaseRequest × Instant)) :
    Option WorkerLease → Option MemoryLease → Prop where
  | unclaimed : HeldAlike calls none none
  /-- The database keeps the expired row of a lease that was released. -/
  | released {held : WorkerLease} (expired : ∀ call ∈ calls, held.expiresAt ≤ call.2) :
      HeldAlike calls (some held) none
  | held {held : WorkerLease} {entry : MemoryLease}
      (alike : held.HeldBy entry.ownerId entry.fencingToken) :
      HeldAlike calls (some held) (some entry)

/-- The same, with the order of the calls. -/
def Related (lease : Option WorkerLease) (current : Option MemoryLease)
    (calls : List (LeaseRequest × Instant)) : Prop :=
  calls.Pairwise (fun earlier later => earlier.2 ≤ later.2) ∧ HeldAlike calls lease current

section Steps

variable {lease : Option WorkerLease} {current : Option MemoryLease} {ownerId : String}
  {ttl : Duration} {fencingToken : Int} {now : Instant} {calls : List (LeaseRequest × Instant)}

theorem serveSql_claim : serveSql lease (.claim ownerId ttl, now) =
    (serveLease lease now (.claim ownerId (ttl.tdiv 1000000)),
      answerLease lease now (.claim ownerId (ttl.tdiv 1000000))) :=
  rfl

/-- The next token of the database is 1 only for the first owner, who renews it. -/
theorem next_token_eq_one_iff (held : WorkerLease) (ownerId : String) :
    (if held.ownerId = ownerId then held.fencingToken else held.fencingToken + 1) = 1 ↔
      held.HeldBy ownerId 1 := by
  have positive := held.token_pos
  unfold WorkerLease.HeldBy
  split
  · rename_i same
    exact (and_iff_right same).symm
  · rename_i other
    refine ⟨fun one => ?_, fun holds => absurd holds.1 other⟩
    omega

theorem memory_first : MemoryStore.serve none (.claim ownerId ttl, now) =
    (some ⟨ownerId, 1, now + ttl, Int.one_pos⟩, .granted 1) :=
  rfl

/-- A claim where both stores hold the lease. -/
theorem held_claim_alike {held : WorkerLease} {entry : MemoryLease}
    (accepted : LeaseAccepted ownerId (ttl.tdiv 1000000))
    (alike : held.HeldBy entry.ownerId entry.fencingToken) :
    (answerLease (some held) now (.claim ownerId (ttl.tdiv 1000000)) =
        (MemoryStore.serve (some entry) (.claim ownerId ttl, now)).2 ↔
      Unparted (some held) (some entry) (.claim ownerId ttl, now)) ∧
    (Unparted (some held) (some entry) (.claim ownerId ttl, now) →
      HeldAlike calls (serveLease (some held) now (.claim ownerId (ttl.tdiv 1000000)))
        (MemoryStore.serve (some entry) (.claim ownerId ttl, now)).1) := by
  obtain ⟨owner, token⟩ := alike
  by_cases free : held.ownerId = ownerId ∨ held.expiresAt ≤ now <;>
    by_cases free' : entry.ownerId = ownerId ∨ entry.expiresAt ≤ now
  · obtain ⟨answered, row, served, holds⟩ := claim_granted accepted free
    obtain ⟨after, served', owner', token'⟩ := memory_granted ttl free'
    rw [owner, token] at answered holds
    rw [answered, served, served']
    refine ⟨⟨fun _ => ⟨accepted, ?_⟩, fun _ => rfl⟩, fun _ => ?_⟩
    · by_cases renews : held.ownerId = ownerId
      · exact .inl renews
      · have expired := free.resolve_left renews
        have expired' := free'.resolve_left (owner ▸ renews)
        exact .inr (iff_of_false expired.not_gt expired'.not_gt)
    · exact .held ⟨holds.1.trans owner'.symm, holds.2.trans token'.symm⟩
  · obtain ⟨answered, row, served, -⟩ := claim_granted accepted free
    obtain ⟨other, unexpired⟩ := not_or.mp free'
    have expired := free.resolve_left (owner ▸ other)
    rw [answered, served, memory_refused free']
    have parted : ¬ Unparted (some held) (some entry) (.claim ownerId ttl, now) := by
      rintro ⟨-, renews | alike⟩
      · exact other (owner ▸ renews)
      · exact expired.not_gt (alike.mpr (not_le.mp unexpired))
    exact ⟨⟨nofun, fun unparted => absurd unparted parted⟩, fun unparted => absurd unparted parted⟩
  · obtain ⟨answered, served⟩ := claim_refused accepted free
    obtain ⟨after, served', -, -⟩ := memory_granted ttl free'
    obtain ⟨other, unexpired⟩ := not_or.mp free
    have expired := free'.resolve_left (owner ▸ other)
    rw [answered, served, served']
    have parted : ¬ Unparted (some held) (some entry) (.claim ownerId ttl, now) := by
      rintro ⟨-, renews | alike⟩
      · exact other renews
      · exact expired.not_gt (alike.mp (not_le.mp unexpired))
    exact ⟨⟨nofun, fun unparted => absurd unparted parted⟩, fun unparted => absurd unparted parted⟩
  · obtain ⟨answered, served⟩ := claim_refused accepted free
    obtain ⟨-, unexpired⟩ := not_or.mp free
    obtain ⟨-, unexpired'⟩ := not_or.mp free'
    rw [answered, served, memory_refused free']
    have alike : ExpireAlike held entry now := iff_of_true (not_le.mp unexpired) (not_le.mp unexpired')
    exact ⟨⟨fun _ => ⟨accepted, .inr alike⟩, fun _ => rfl⟩, fun _ => .held ⟨owner, token⟩⟩

theorem claim_alike (related : Related lease current ((.claim ownerId ttl, now) :: calls)) :
    ((serveSql lease (.claim ownerId ttl, now)).2 =
        (MemoryStore.serve current (.claim ownerId ttl, now)).2 ↔
      Unparted lease current (.claim ownerId ttl, now)) ∧
    (Unparted lease current (.claim ownerId ttl, now) →
      Related (serveSql lease (.claim ownerId ttl, now)).1
        (MemoryStore.serve current (.claim ownerId ttl, now)).1 calls) := by
  obtain ⟨ordered, related⟩ := related
  have later := (List.pairwise_cons.mp ordered).2
  rw [serveSql_claim]
  dsimp only
  by_cases accepted : LeaseAccepted ownerId (ttl.tdiv 1000000)
  case neg =>
    rw [claim_raises accepted]
    exact ⟨⟨fun same => absurd same.symm (memory_never_raises _),
      fun unparted => absurd unparted.1 accepted⟩, fun unparted => absurd unparted.1 accepted⟩
  cases related with
  | unclaimed =>
      obtain ⟨answered, row, served, holds⟩ := claim_first now accepted
      rw [answered, served, memory_first]
      exact ⟨⟨fun _ => ⟨accepted, trivial⟩, fun _ => rfl⟩, fun _ => ⟨later, .held holds⟩⟩
  | @released held expired =>
      have free := expired _ List.mem_cons_self
      obtain ⟨answered, row, served, holds⟩ := claim_granted accepted (.inr free)
      have first := next_token_eq_one_iff held ownerId
      rw [answered, served, memory_first]
      refine ⟨⟨fun same => ?_, fun unparted => ?_⟩, fun unparted => ⟨later, .held ?_⟩⟩
      · exact ⟨accepted, first.mp (LeaseAnswer.granted.inj same)⟩
      · exact congrArg LeaseAnswer.granted (first.mpr unparted.2)
      · rw [first.mpr unparted.2] at holds
        exact holds
  | held alike =>
      obtain ⟨same, after⟩ := held_claim_alike accepted alike
      exact ⟨same, fun unparted => ⟨later, after unparted⟩⟩

theorem validate_held_iff {held : WorkerLease} :
    validateWorkerLease (some held) ownerId fencingToken now = true ↔
      held.HeldBy ownerId fencingToken ∧ now < held.expiresAt :=
  decide_eq_true_iff

/-- The entry validates for the pair of the row. -/
theorem validate_entry_iff {held : WorkerLease} {entry : MemoryLease}
    (alike : held.HeldBy entry.ownerId entry.fencingToken) :
    MemoryStore.validateWorkerLease (some entry) ownerId fencingToken now = true ↔
      held.HeldBy ownerId fencingToken ∧ now < entry.expiresAt := by
  obtain ⟨owner, token⟩ := alike
  simp only [MemoryStore.validateWorkerLease, decide_eq_true_eq, WorkerLease.HeldBy, owner, token,
    and_assoc]

theorem validate_alike
    (related : Related lease current ((.validate ownerId fencingToken, now) :: calls)) :
    ((serveSql lease (.validate ownerId fencingToken, now)).2 =
        (MemoryStore.serve current (.validate ownerId fencingToken, now)).2 ↔
      Unparted lease current (.validate ownerId fencingToken, now)) ∧
    Related (serveSql lease (.validate ownerId fencingToken, now)).1
      (MemoryStore.serve current (.validate ownerId fencingToken, now)).1 calls := by
  obtain ⟨ordered, related⟩ := related
  have later := (List.pairwise_cons.mp ordered).2
  cases related with
  | unclaimed => exact ⟨⟨fun _ => trivial, fun _ => rfl⟩, later, .unclaimed⟩
  | @released held expired =>
      have free := expired _ List.mem_cons_self
      have invalid : validateWorkerLease (some held) ownerId fencingToken now = false :=
        decide_eq_false fun valid => free.not_gt valid.2
      refine ⟨⟨fun _ => trivial, fun _ => ?_⟩, later, .released fun call member => ?_⟩
      · exact congrArg LeaseAnswer.done invalid
      · exact expired call (List.mem_cons_of_mem _ member)
  | @held held entry alike =>
      refine ⟨?_, later, .held alike⟩
      have answered : (serveSql (some held) (.validate ownerId fencingToken, now)).2 =
          .done (validateWorkerLease (some held) ownerId fencingToken now) := rfl
      have answered' : (MemoryStore.serve (some entry) (.validate ownerId fencingToken, now)).2 =
          .done (MemoryStore.validateWorkerLease (some entry) ownerId fencingToken now) := rfl
      rw [answered, answered', LeaseAnswer.done.injEq, Bool.eq_iff_iff, validate_held_iff,
        validate_entry_iff alike, and_congr_right_iff]
      rfl

/-- The holder of the pair releases the row, also when it has expired. -/
theorem sql_released {held : WorkerLease} (holds : held.HeldBy ownerId fencingToken) :
    serveSql (some held) (.release ownerId fencingToken, now) =
      (some { held with expiresAt := now, updatedAt := now, time_order := le_rfl }, .done true) := by
  simp only [serveSql, LeaseRequest.rpc, serveLease, answerLease, releaseWorkerLease, if_pos holds]

theorem sql_unreleased {held : WorkerLease} (stale : ¬ held.HeldBy ownerId fencingToken) :
    serveSql (some held) (.release ownerId fencingToken, now) = (some held, .done false) := by
  simp only [serveSql, LeaseRequest.rpc, serveLease, answerLease, releaseWorkerLease, if_neg stale]

/-- An entry that validates is deleted. -/
theorem memory_released
    (valid : MemoryStore.validateWorkerLease current ownerId fencingToken now = true) :
    MemoryStore.serve current (.release ownerId fencingToken, now) = (none, .done true) := by
  simp only [MemoryStore.serve, MemoryStore.releaseWorkerLease, if_pos valid]

theorem memory_unreleased
    (invalid : ¬ MemoryStore.validateWorkerLease current ownerId fencingToken now = true) :
    MemoryStore.serve current (.release ownerId fencingToken, now) = (current, .done false) := by
  simp only [MemoryStore.serve, MemoryStore.releaseWorkerLease, if_neg invalid]

theorem release_alike
    (related : Related lease current ((.release ownerId fencingToken, now) :: calls)) :
    ((serveSql lease (.release ownerId fencingToken, now)).2 =
        (MemoryStore.serve current (.release ownerId fencingToken, now)).2 ↔
      Unparted lease current (.release ownerId fencingToken, now)) ∧
    (Unparted lease current (.release ownerId fencingToken, now) →
      Related (serveSql lease (.release ownerId fencingToken, now)).1
        (MemoryStore.serve current (.release ownerId fencingToken, now)).1 calls) := by
  obtain ⟨ordered, related⟩ := related
  obtain ⟨next, later⟩ := List.pairwise_cons.mp ordered
  cases related with
  | unclaimed => exact ⟨⟨fun _ => trivial, fun _ => rfl⟩, fun _ => ⟨later, .unclaimed⟩⟩
  | @released held expired =>
      have kept : HeldAlike calls (some held) none :=
        .released fun call member => expired call (List.mem_cons_of_mem _ member)
      have invalid : ¬ MemoryStore.validateWorkerLease none ownerId fencingToken now = true :=
        Bool.false_ne_true
      rw [memory_unreleased invalid]
      by_cases holds : held.HeldBy ownerId fencingToken
      · rw [sql_released holds]
        exact ⟨⟨nofun, fun unparted => absurd holds unparted⟩,
          fun unparted => absurd holds unparted⟩
      · rw [sql_unreleased holds]
        exact ⟨⟨fun _ => holds, fun _ => rfl⟩, fun _ => ⟨later, kept⟩⟩
  | @held held entry alike =>
      have valid : MemoryStore.validateWorkerLease (some entry) ownerId fencingToken now = true ↔
          held.HeldBy ownerId fencingToken ∧ now < entry.expiresAt := validate_entry_iff alike
      by_cases holds : held.HeldBy ownerId fencingToken
      · rw [sql_released holds]
        by_cases unexpired : now < entry.expiresAt
        · rw [memory_released (valid.mpr ⟨holds, unexpired⟩)]
          exact ⟨⟨fun _ _ => unexpired, fun _ => rfl⟩, fun _ => ⟨later, .released next⟩⟩
        · rw [memory_unreleased fun valid' => unexpired (valid.mp valid').2]
          exact ⟨⟨nofun, fun unparted => absurd (unparted holds) unexpired⟩,
            fun unparted => absurd (unparted holds) unexpired⟩
      · rw [sql_unreleased holds, memory_unreleased fun valid' => holds (valid.mp valid').1]
        exact ⟨⟨fun _ now => absurd now holds, fun _ => rfl⟩, fun _ => ⟨later, .held alike⟩⟩

/-- One call: the answers are the same exactly where the call does not part the stores,
which then stay alike. -/
theorem call_alike (call : LeaseRequest × Instant) (related : Related lease current (call :: calls)) :
    ((serveSql lease call).2 = (MemoryStore.serve current call).2 ↔ Unparted lease current call) ∧
      (Unparted lease current call →
        Related (serveSql lease call).1 (MemoryStore.serve current call).1 calls) := by
  obtain ⟨request, now⟩ := call
  cases request with
  | claim ownerId ttl => exact claim_alike related
  | validate ownerId fencingToken =>
      obtain ⟨same, after⟩ := validate_alike related
      exact ⟨same, fun _ => after⟩
  | release ownerId fencingToken => exact release_alike related

/-- Whole sequences of calls. -/
theorem answers_same_iff
    (ordered : calls.Pairwise fun earlier later => earlier.2 ≤ later.2) :
    answers serveSql none calls = answers MemoryStore.serve none calls ↔
      BeforeEach serveSql MemoryStore.serve Unparted none none calls :=
  answers_eq_iff (R := Related) (fun _ _ call _ related => (call_alike call related).1)
    (fun _ _ call _ related => (call_alike call related).2) ⟨ordered, .unclaimed⟩

end Steps

/-! ### The tokens of the database -/

section Tokens

variable {lease : Option WorkerLease} {held : WorkerLease} {call : LeaseRequest × Instant}
  {calls : List (LeaseRequest × Instant)} {issued : String × Int}

theorem mem_issued_cons {answer : LeaseAnswer} {given : List LeaseAnswer} :
    issued ∈ issuedTokens (call :: calls) (answer :: given) ↔
      issuedToken (call, answer) = some issued ∨ issued ∈ issuedTokens calls given := by
  simp [issuedTokens, List.zip_cons_cons, List.mem_filterMap]

/-- The row holds the token that was issued last. -/
theorem held_of_issued (granted : issuedToken (call, (serveSql lease call).2) = some issued) :
    ∃ row, (serveSql lease call).1 = some row ∧ row.HeldBy issued.1 issued.2 := by
  obtain ⟨request, now⟩ := call
  cases request with
  | validate ownerId fencingToken => cases granted
  | release ownerId fencingToken => cases granted
  | claim ownerId ttl =>
      rw [serveSql_claim] at granted ⊢
      dsimp only at granted ⊢
      by_cases accepted : LeaseAccepted ownerId (ttl.tdiv 1000000)
      case neg =>
        rw [claim_raises accepted] at granted
        cases granted
      cases lease with
      | none =>
          obtain ⟨answered, row, served, holds⟩ := claim_first now accepted
          rw [answered] at granted
          cases granted
          exact ⟨row, served, holds⟩
      | some held =>
          by_cases free : held.ownerId = ownerId ∨ held.expiresAt ≤ now
          · obtain ⟨answered, row, served, holds⟩ := claim_granted accepted free
            rw [answered] at granted
            cases granted
            exact ⟨row, served, holds⟩
          · rw [(claim_refused accepted free).1] at granted
            cases granted

/-- The pair follows the one of the row: its token is greater, or both are the same. -/
def WorkerLease.Before (held : WorkerLease) (issued : String × Int) : Prop :=
  held.fencingToken ≤ issued.2 ∧ (held.fencingToken = issued.2 → held.ownerId = issued.1)

/-- A call keeps the row, and what follows the new row follows the old one. -/
theorem row_after (held : WorkerLease) (call : LeaseRequest × Instant) :
    ∃ row, (serveSql (some held) call).1 = some row ∧
      ∀ issued, row.Before issued → held.Before issued := by
  have run : Run LeaseStep ⟨call.2, some held⟩ [(call.1.rpc, call.2)]
      ⟨call.2, serveLease (some held) call.2 call.1.rpc⟩ := .single ⟨le_rfl, rfl⟩
  obtain ⟨row, served⟩ := lease_of_run run rfl
  obtain ⟨kept, raised⟩ := tokens_of_run run rfl served
  refine ⟨row, served, fun issued before => ⟨kept.trans before.1, fun same => ?_⟩⟩
  have token : row.fencingToken = issued.2 := le_antisymm before.1 (same ▸ kept)
  by_contra other
  have changed : held.ownerId ≠ row.ownerId := fun owner => other (owner.trans (before.2 token))
  have less := raised changed
  omega

/-- Every token that is issued later follows the row. -/
theorem before_issued (held : WorkerLease) :
    ∀ issued ∈ issuedTokens calls (answers serveSql (some held) calls), held.Before issued := by
  induction calls generalizing held with
  | nil => nofun
  | cons call calls ih =>
      intro issued member
      obtain ⟨row, served, follows⟩ := row_after held call
      rw [answers, served] at member
      rcases mem_issued_cons.mp member with here | later
      · obtain ⟨row', served', owner, token⟩ := held_of_issued here
        obtain rfl := Option.some.inj (served.symm.trans served')
        exact follows issued ⟨token.le, fun _ => owner⟩
      · exact follows issued (ih row issued later)

/-- The database never issues a token to two owners. -/
theorem sql_one_owner (lease : Option WorkerLease) (calls : List (LeaseRequest × Instant)) :
    OneOwner (issuedTokens calls (answers serveSql lease calls)) := by
  induction calls generalizing lease with
  | nil => nofun
  | cons call calls ih =>
      have follows : ∀ issued, issuedToken (call, (serveSql lease call).2) = some issued →
          ∀ later ∈ issuedTokens calls (answers serveSql (serveSql lease call).1 calls),
            issued.2 = later.2 → issued.1 = later.1 := by
        intro issued here later member same
        obtain ⟨row, served, owner, token⟩ := held_of_issued here
        rw [served] at member
        exact owner.symm.trans ((before_issued row later member).2 (token.trans same))
      intro first firstMember second secondMember same
      rcases mem_issued_cons.mp firstMember with here | later <;>
        rcases mem_issued_cons.mp secondMember with here' | later'
      · exact congrArg Prod.fst (Option.some.inj (here.symm.trans here'))
      · exact follows first here second later' same
      · exact (follows second here' first later same.symm).symm
      · exact ih _ first later second later' same

end Tokens

/-- `MemoryStore` stands in for the database, with the same answers to every call and no
token for two owners, if and only if no call parts the stores. -/
theorem stands_in_iff (calls : List (LeaseRequest × Instant))
    (ordered : calls.Pairwise fun earlier later => earlier.2 ≤ later.2) :
    StandsIn calls ↔ BeforeEach serveSql MemoryStore.serve Unparted none none calls := by
  refine ⟨fun stands => (answers_same_iff ordered).mp stands.1, fun unparted => ?_⟩
  have same := (answers_same_iff ordered).mpr unparted
  refine ⟨same, ?_⟩
  rw [← same]
  exact sql_one_owner none calls

/-- A lease that its owner renews, releases and claims again. -/
def renewedLease : List (LeaseRequest × Instant) :=
  [(.claim "worker-a" (seconds 30), 0), (.claim "worker-b" (seconds 30), seconds 10),
    (.claim "worker-a" (seconds 30), seconds 20), (.release "worker-a" 1, seconds 40),
    (.validate "worker-a" 1, seconds 41), (.claim "worker-a" (seconds 30), seconds 42)]

theorem renewedLease_stands_in : StandsIn renewedLease :=
  (stands_in_iff renewedLease (by decide)).mpr (by decide)

/-- A release, after which another owner claims the lease. -/
def handedOver : List (LeaseRequest × Instant) :=
  [(.claim "worker-a" (seconds 30), 0), (.release "worker-a" 1, seconds 10),
    (.claim "worker-b" (seconds 30), seconds 20)]

/-- The database issues the token 2, and `MemoryStore` issues the token 1 again. -/
theorem handedOver_reissues :
    answers serveSql none handedOver = [.granted 1, .done true, .granted 2] ∧
      answers MemoryStore.serve none handedOver = [.granted 1, .done true, .granted 1] ∧
      ¬ OneOwner (issuedTokens handedOver (answers MemoryStore.serve none handedOver)) ∧
      ¬ ∀ calls : List (LeaseRequest × Instant),
        calls.Pairwise (fun earlier later => earlier.2 ≤ later.2) → StandsIn calls := by
  have parted : ¬ StandsIn handedOver := by decide
  exact ⟨by decide, by decide, by decide,
    fun always => parted (always handedOver (by decide))⟩

end Polybot
