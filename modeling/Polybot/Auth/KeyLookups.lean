import Mathlib.Data.List.Chain
import Mathlib.Tactic.Linarith
import Polybot.Auth.Jwks
import Polybot.Interaction.Transition

/-!
Concurrent key lookups (`_matching_jwk` of `auth.py`).

A lookup runs from one await to the next: it begins, enters the refresh lock (in `_jwks`
and again in `_matching_jwk`), and leaves it at once or with the answer to its fetch. Any
lookup may be next, the clock never goes back, and each fetch may be answered with
anything.

`_last_refresh_at` is only written by a fetch that succeeds, so a failed one leaves the
cooldown open (`failed_fetch_reopens`). Where no fetch fails that began under an unexpired
key set, fetches are spaced (`key_lookups_safe`); the negative cache is sound in every run.
-/

namespace Polybot

open Checked Interaction

/-! ### One lookup -/

/-- How far a call of `_matching_jwk` has come. -/
inductive KeyLookup where
  | called
  | awaitingKeys
  | fetchingKeys (started : ℚ)
  | awaitingMatch
  | fetchingMatch (started : ℚ)
  | answered (answer : Except String Jwk)

/-- The start of the fetch that a lookup awaits. -/
def KeyLookup.started : KeyLookup → Option ℚ
  | .fetchingKeys started | .fetchingMatch started => some started
  | .called | .awaitingKeys | .awaitingMatch | .answered _ => none

/-- The lookup once `_jwks` has returned. -/
def KeyLookup.ofKeys (keys : List Jwk) (key : CacheKey) : KeyLookup :=
  match findMatchingJwk keys key with
  | some jwk => .answered (.ok jwk)
  | none => .awaitingMatch

def KeyLookup.unknown : KeyLookup :=
  .answered (.error unknownSigningKey)

namespace JwksCaches

variable (config : JwksConfig) (caches : JwksCaches) (key : CacheKey)

/-- From the start of `_matching_jwk` to the first wait for the lock. -/
def beginLookup (now later : ℚ) : JwksCaches × KeyLookup :=
  match caches.isNegativeKey key now with
  | (caches, true) => (caches, .unknown)
  | (caches, false) =>
      match caches.unexpiredKeys later with
      | some keys => (caches, .ofKeys keys key)
      | none => (caches, .awaitingKeys)

/-- `_jwks` under the lock, to the request or the return. -/
def enterJwks (now : ℚ) : JwksCaches × KeyLookup :=
  match caches.unexpiredKeys now with
  | some keys => (caches, .ofKeys keys key)
  | none => (caches, .fetchingKeys now)

/-- `_jwks` with the answer to its request. -/
def leaveJwks (started : ℚ) (answer : JwksAnswer) : JwksCaches × KeyLookup :=
  match caches.fetchJwks config started answer with
  | (caches, .ok keys) => (caches, .ofKeys keys key)
  | (caches, .error message) => (caches, .answered (.error message))

/-- `_matching_jwk` under the lock, to the request or the end. -/
def enterMatch (now : ℚ) : JwksCaches × KeyLookup :=
  match caches.isNegativeKey key now with
  | (caches, true) => (caches, .unknown)
  | (caches, false) =>
      match caches.cachedKeys.bind fun cached => findMatchingJwk cached.keys key with
      | some jwk => (caches, .answered (.ok jwk))
      | none =>
          if caches.CooledDown config now then (caches, .fetchingMatch now)
          else (caches.rememberNegativeKey config key now, .unknown)

/-- `_matching_jwk` with the answer to its request. -/
def leaveMatch (started : ℚ) (answer : JwksAnswer) : JwksCaches × KeyLookup :=
  match caches.fetchJwks config started answer with
  | (caches, .ok keys) =>
      match findMatchingJwk keys key with
      | some jwk => (caches, .answered (.ok jwk))
      | none => (caches.rememberNegativeKey config key started, .unknown)
  | (caches, .error message) => (caches, .answered (.error message))

/-- What a lookup that waits for the lock does with it. -/
def enter (now : ℚ) : KeyLookup → Option (JwksCaches × KeyLookup)
  | .awaitingKeys => some (caches.enterJwks key now)
  | .awaitingMatch => some (caches.enterMatch config key now)
  | .called | .fetchingKeys _ | .fetchingMatch _ | .answered _ => none

/-- What a lookup that awaits a fetch does with the answer. -/
def leave (answer : JwksAnswer) : KeyLookup → Option (JwksCaches × KeyLookup)
  | .fetchingKeys started => some (caches.leaveJwks config key started answer)
  | .fetchingMatch started => some (caches.leaveMatch config key started answer)
  | .called | .awaitingKeys | .awaitingMatch | .answered _ => none

end JwksCaches

/-! ### The verifier -/

/-- A fetch attempt, and whether the cached set was unexpired at its start. -/
structure FetchAttempt where
  start : ℚ
  unexpired : Bool
  deriving DecidableEq

/-- The caches of a verifier with its lock, the clock, the lookups and the fetch attempts so
far, the newest first. -/
structure KeyVerifier (ι : Type) where
  caches : JwksCaches
  lock : Option ι
  clock : ℚ
  lookups : ι → KeyLookup
  attempts : List FetchAttempt

/-- What happens to a lookup. -/
inductive KeyEvent (ι : Type) where
  | begins (i : ι) (now later : ℚ)
  | enters (i : ι) (now : ℚ)
  | leaves (i : ι) (now : ℚ) (answer : JwksAnswer)

/-- Why an event is not possible. -/
inductive KeyWait where
  | past
  | locked
  | elsewhere
  deriving DecidableEq

variable {ι : Type} [DecidableEq ι]

namespace KeyVerifier

/-- A new verifier, before any lookup. -/
def start (clock : ℚ) : KeyVerifier ι :=
  ⟨.init, none, clock, fun _ => .called, []⟩

/-- The verifier after lookup `i` has come to `segment` at `now`. A lookup that awaits a fetch
holds the lock. -/
def moved (verifier : KeyVerifier ι) (i : ι) (now : ℚ) (segment : JwksCaches × KeyLookup) :
    KeyVerifier ι where
  caches := segment.1
  lock := segment.2.started.map fun _ => i
  clock := now
  lookups := Function.update verifier.lookups i segment.2
  attempts := (segment.2.started.map fun started =>
    FetchAttempt.mk started (verifier.caches.unexpiredKeys started).isSome).toList ++ verifier.attempts

/-- The next event of the verifier, where lookup `i` is for `keyOf i`. -/
def serve (config : JwksConfig) (keyOf : ι → CacheKey) (verifier : KeyVerifier ι) :
    KeyEvent ι → Except KeyWait (KeyVerifier ι)
  | .begins i now later => do
      require (verifier.clock ≤ now ∧ now ≤ later) .past
      match verifier.lookups i with
      | .called =>
          let segment := verifier.caches.beginLookup (keyOf i) now later
          pure { verifier.moved i later segment with lock := verifier.lock }
      | _ => .error .elsewhere
  | .enters i now => do
      require (verifier.clock ≤ now) .past
      require (verifier.lock = none) .locked
      match verifier.caches.enter config (keyOf i) now (verifier.lookups i) with
      | some segment => pure (verifier.moved i now segment)
      | none => .error .elsewhere
  | .leaves i now answer => do
      require (verifier.clock ≤ now) .past
      match verifier.caches.leave config (keyOf i) answer (verifier.lookups i) with
      | some segment => pure (verifier.moved i now segment)
      | none => .error .elsewhere

end KeyVerifier

/-! ### What a lookup does to the caches -/

/-- The caches keep their key set, its refresh and the soundness of the negative entries. -/
structure JwksCaches.Keeps (caches after : JwksCaches) : Prop where
  cachedKeys : after.cachedKeys = caches.cachedKeys
  lastRefreshAt : after.lastRefreshAt = caches.lastRefreshAt
  negatives : caches.Negatives → after.Negatives

namespace JwksCaches

variable {config : JwksConfig} {caches : JwksCaches} {key : CacheKey} {now later started : ℚ}
  {lookup : KeyLookup} {segment : JwksCaches × KeyLookup} {answer : JwksAnswer}

theorem Keeps.refl : caches.Keeps caches :=
  ⟨rfl, rfl, id⟩

theorem Keeps.unexpiredKeys {after : JwksCaches} (keeps : caches.Keeps after) (now : ℚ) :
    after.unexpiredKeys now = caches.unexpiredKeys now := by
  unfold JwksCaches.unexpiredKeys
  rw [keeps.cachedKeys]

theorem keeps_isNegativeKey : caches.Keeps (caches.isNegativeKey key now).1 :=
  ⟨isNegativeKey_cachedKeys, isNegativeKey_lastRefreshAt, .isNegativeKey⟩

@[simp] theorem started_ofKeys {keys : List Jwk} : (KeyLookup.ofKeys keys key).started = none := by
  unfold KeyLookup.ofKeys
  split <;> rfl

@[simp] theorem started_unknown : KeyLookup.unknown.started = none :=
  rfl

theorem beginLookup_keeps : caches.Keeps (caches.beginLookup key now later).1 := by
  have checked := @keeps_isNegativeKey caches key now
  unfold beginLookup
  split
  · rename_i same
    rw [same] at checked
    exact checked
  · rename_i same
    rw [same] at checked
    split <;> exact checked

theorem beginLookup_started : (caches.beginLookup key now later).2.started = none := by
  unfold beginLookup
  split
  · rfl
  · split
    · exact started_ofKeys
    · rfl

theorem enterMatch_keeps : caches.Keeps (caches.enterMatch config key now).1 := by
  have checked := @keeps_isNegativeKey caches key now
  unfold enterMatch
  split
  · rename_i same
    rw [same] at checked
    exact checked
  · rename_i same
    rw [same] at checked
    split
    · exact checked
    · rename_i missed
      split
      · exact checked
      · exact ⟨checked.cachedKeys, checked.lastRefreshAt, fun negatives =>
          (checked.negatives negatives).rememberNegativeKey (Option.bind_eq_none_iff.mp missed)⟩

/-- A fetch starts at the reading of the clock, once the key set has expired or the cooldown
is over. -/
theorem enterMatch_started (starts : (caches.enterMatch config key now).2.started = some started) :
    started = now ∧ caches.CooledDown config now := by
  have checked := @isNegativeKey_lastRefreshAt caches key now
  unfold enterMatch at starts
  split at starts
  · cases starts
  · rename_i same
    rw [same] at checked
    split at starts
    · cases starts
    · split at starts
      · rename_i cooled
        refine ⟨(Option.some.inj starts).symm, ?_⟩
        unfold CooledDown at cooled ⊢
        rwa [checked] at cooled
      · cases starts

theorem enterJwks_keeps : caches.Keeps (caches.enterJwks key now).1 := by
  unfold enterJwks
  split <;> exact .refl

theorem enterJwks_started (starts : (caches.enterJwks key now).2.started = some started) :
    started = now ∧ caches.unexpiredKeys now = none := by
  unfold enterJwks at starts
  split at starts
  · rw [started_ofKeys] at starts
    cases starts
  · rename_i expired
    exact ⟨(Option.some.inj starts).symm, expired⟩

theorem enter_keeps (enters : caches.enter config key now lookup = some segment) :
    caches.Keeps segment.1 := by
  cases lookup with
  | awaitingKeys =>
      cases enters
      exact enterJwks_keeps
  | awaitingMatch =>
      cases enters
      exact enterMatch_keeps
  | called | fetchingKeys | fetchingMatch | answered => cases enters

theorem enter_started (enters : caches.enter config key now lookup = some segment)
    (starts : segment.2.started = some started) :
    started = now ∧ (caches.unexpiredKeys now = none ∨ caches.CooledDown config now) := by
  cases lookup with
  | awaitingKeys =>
      cases enters
      exact (enterJwks_started starts).imp_right .inl
  | awaitingMatch =>
      cases enters
      exact (enterMatch_started starts).imp_right .inr
  | called | fetchingKeys | fetchingMatch | answered => cases enters

/-- A fetch of `_matching_jwk` has waited for the cooldown. -/
theorem enter_waited (enters : caches.enter config key now lookup = some segment)
    (awaits : segment.2 = .fetchingMatch started) : segment.1.CooledDown config started := by
  have keeps := enter_keeps enters
  cases lookup with
  | awaitingKeys =>
      cases enters
      unfold enterJwks at awaits
      split at awaits
      · have quiet := congrArg KeyLookup.started awaits
        rw [started_ofKeys] at quiet
        cases quiet
      · cases awaits
  | awaitingMatch =>
      cases enters
      obtain ⟨rfl, cooled⟩ := enterMatch_started (congrArg KeyLookup.started awaits)
      unfold CooledDown at cooled ⊢
      rwa [keeps.lastRefreshAt]
  | called | fetchingKeys | fetchingMatch | answered => cases enters

/-- An answer is taken as a whole, or changes nothing. -/
theorem fetchJwks_cases (config : JwksConfig) (caches : JwksCaches) (started : ℚ)
    (answer : JwksAnswer) :
    (∃ keys, config.acceptedKeys answer = .ok keys ∧ caches.fetchJwks config started answer =
      (⟨some ⟨started + config.cacheSeconds, keys⟩, some started, .empty⟩, .ok keys)) ∨
    ∃ message, config.acceptedKeys answer = .error message ∧
      caches.fetchJwks config started answer = (caches, .error message) := by
  unfold fetchJwks
  cases taken : config.acceptedKeys answer with
  | ok keys => exact .inl ⟨keys, rfl, rfl⟩
  | error message => exact .inr ⟨message, rfl, rfl⟩

/-- What a lookup leaves after its fetch. -/
structure Fetched (config : JwksConfig) (caches : JwksCaches) (started : ℚ) (answer : JwksAnswer)
    (segment : JwksCaches × KeyLookup) : Prop where
  ended : segment.2.started = none
  negatives : caches.Negatives → segment.1.Negatives
  refreshed : (∃ keys, config.acceptedKeys answer = .ok keys ∧
      segment.1.lastRefreshAt = some started) ∨
    ∃ message, config.acceptedKeys answer = .error message ∧
      segment = (caches, .answered (.error message))

theorem leaveJwks_fetched :
    Fetched config caches started answer (caches.leaveJwks config key started answer) := by
  have kept := @Negatives.fetchJwks config caches started answer
  unfold leaveJwks
  rcases fetchJwks_cases config caches started answer with
    ⟨keys, taken, same⟩ | ⟨message, refused, same⟩
  · rw [same] at kept ⊢
    exact ⟨started_ofKeys, kept, .inl ⟨keys, taken, rfl⟩⟩
  · rw [same]
    exact ⟨rfl, id, .inr ⟨message, refused, rfl⟩⟩

theorem leaveMatch_fetched :
    Fetched config caches started answer (caches.leaveMatch config key started answer) := by
  have kept := @Negatives.fetchJwks config caches started answer
  unfold leaveMatch
  rcases fetchJwks_cases config caches started answer with
    ⟨keys, taken, same⟩ | ⟨message, refused, same⟩
  · rw [same] at kept ⊢
    dsimp only at kept ⊢
    split
    · exact ⟨rfl, kept, .inl ⟨keys, taken, rfl⟩⟩
    · rename_i missed
      refine ⟨rfl, fun negatives => (kept negatives).rememberNegativeKey ?_,
        .inl ⟨keys, taken, rfl⟩⟩
      rintro _ ⟨⟩
      exact missed
  · rw [same]
    exact ⟨rfl, id, .inr ⟨message, refused, rfl⟩⟩

theorem leave_fetched (leaves : caches.leave config key answer lookup = some segment) :
    ∃ started, lookup.started = some started ∧ Fetched config caches started answer segment := by
  cases lookup with
  | fetchingKeys started =>
      cases leaves
      exact ⟨started, rfl, leaveJwks_fetched⟩
  | fetchingMatch started =>
      cases leaves
      exact ⟨started, rfl, leaveMatch_fetched⟩
  | called | awaitingKeys | awaitingMatch | answered => cases leaves

end JwksCaches

/-! ### Runs -/

namespace KeyVerifier

variable {config : JwksConfig} {keyOf : ι → CacheKey} {verifier next : KeyVerifier ι}
  {event : KeyEvent ι}

/-- The ways an event is served. -/
inductive Served (config : JwksConfig) (keyOf : ι → CacheKey) (verifier : KeyVerifier ι) :
    KeyEvent ι → KeyVerifier ι → Prop where
  | begins {i : ι} {now later : ℚ} (order : verifier.clock ≤ now) (later_order : now ≤ later)
      (called : verifier.lookups i = .called) :
      Served config keyOf verifier (.begins i now later)
        { verifier.moved i later (verifier.caches.beginLookup (keyOf i) now later) with
          lock := verifier.lock }
  | enters {i : ι} {now : ℚ} {segment : JwksCaches × KeyLookup} (order : verifier.clock ≤ now)
      (free : verifier.lock = none)
      (entered : verifier.caches.enter config (keyOf i) now (verifier.lookups i) = some segment) :
      Served config keyOf verifier (.enters i now) (verifier.moved i now segment)
  | leaves {i : ι} {now : ℚ} {answer : JwksAnswer} {segment : JwksCaches × KeyLookup}
      (order : verifier.clock ≤ now)
      (left : verifier.caches.leave config (keyOf i) answer (verifier.lookups i) = some segment) :
      Served config keyOf verifier (.leaves i now answer) (verifier.moved i now segment)

theorem served_of_serve (serves : verifier.serve config keyOf event = .ok next) :
    Served config keyOf verifier event next := by
  cases event with
  | begins i now later =>
      rw [serve, require_bind_ok_iff] at serves
      obtain ⟨⟨order, later_order⟩, serves⟩ := serves
      split at serves
      · rename_i called
        cases serves
        exact .begins order later_order called
      · cases serves
  | enters i now =>
      rw [serve, require_bind_ok_iff, require_bind_ok_iff] at serves
      obtain ⟨order, free, serves⟩ := serves
      split at serves
      · rename_i segment entered
        cases serves
        exact .enters order free entered
      · cases serves
  | leaves i now answer =>
      rw [serve, require_bind_ok_iff] at serves
      obtain ⟨order, serves⟩ := serves
      split at serves
      · rename_i segment left
        cases serves
        exact .leaves order left
      · cases serves

theorem serve_enters {i : ι} {now : ℚ} {segment : JwksCaches × KeyLookup}
    (order : verifier.clock ≤ now) (free : verifier.lock = none)
    (entered : verifier.caches.enter config (keyOf i) now (verifier.lookups i) = some segment) :
    verifier.serve config keyOf (.enters i now) = .ok (verifier.moved i now segment) := by
  rw [serve, require_bind_of order, require_bind_of free, entered]
  rfl

/-- What the caches of every verifier satisfy. -/
theorem Served.negatives (served : Served config keyOf verifier event next)
    (negatives : verifier.caches.Negatives) : next.caches.Negatives := by
  cases served with
  | begins => exact JwksCaches.beginLookup_keeps.negatives negatives
  | enters _ _ entered => exact (JwksCaches.enter_keeps entered).negatives negatives
  | leaves _ left =>
      obtain ⟨_, _, fetched⟩ := JwksCaches.leave_fetched left
      exact fetched.negatives negatives

/-- A fetch that starts under an unexpired key set starts a cooldown after the one before. -/
def Spaced (config : JwksConfig) (verifier : KeyVerifier ι) : Prop :=
  verifier.attempts.IsChain fun newer older =>
    newer.unexpired = true → older.start + config.refreshCooldownSeconds ≤ newer.start

/-- A lookup that awaits a fetch holds the lock, the fetch is the newest, and one of
`_matching_jwk` waited for the cooldown. -/
structure Locked (config : JwksConfig) (verifier : KeyVerifier ι) : Prop where
  past : ∀ attempt ∈ verifier.attempts.head?, attempt.start ≤ verifier.clock
  inFlight : ∀ i started, (verifier.lookups i).started = some started →
    verifier.lock = some i ∧ ∃ attempt ∈ verifier.attempts.head?, attempt.start = started
  waited : ∀ i started, verifier.lookups i = .fetchingMatch started →
    verifier.caches.CooledDown config started

/-- The newest attempt is in flight, or was answered with keys, or failed when the key set had
expired. -/
structure Paced (config : JwksConfig) (verifier : KeyVerifier ι) : Prop where
  spaced : verifier.Spaced config
  settled : verifier.lock = none → ∀ attempt ∈ verifier.attempts.head?,
    verifier.caches.lastRefreshAt = some attempt.start ∨
      verifier.caches.unexpiredKeys attempt.start = none

/-- No fetch fails that started under an unexpired key set. -/
def Answered (config : JwksConfig) (verifier : KeyVerifier ι) : KeyEvent ι → Prop
  | .leaves i _ answer => ∀ started ∈ (verifier.lookups i).started,
      (∃ keys, config.acceptedKeys answer = .ok keys) ∨
        verifier.caches.unexpiredKeys started = none
  | .begins _ _ _ | .enters _ _ => True

omit [DecidableEq ι] in
theorem Locked.start {clock : ℚ} : Locked config (start clock : KeyVerifier ι) :=
  ⟨nofun, nofun, nofun⟩

omit [DecidableEq ι] in
theorem Paced.start {clock : ℚ} : Paced config (start clock : KeyVerifier ι) :=
  ⟨.nil, fun _ => nofun⟩

section Steps

variable {i j : ι} {now started : ℚ} {segment : JwksCaches × KeyLookup} {answer : JwksAnswer}

/-- After a step of lookup `i`, either it or one that was before awaits a fetch. -/
theorem started_update {lookups : ι → KeyLookup} {lookup : KeyLookup}
    (awaits : (Function.update lookups i lookup j).started = some started) :
    j = i ∧ lookup.started = some started ∨ j ≠ i ∧ (lookups j).started = some started := by
  by_cases same : j = i
  · subst same
    exact .inl ⟨rfl, by simpa using awaits⟩
  · exact .inr ⟨same, by simpa [same] using awaits⟩

theorem started_update_of_none {lookups : ι → KeyLookup} {lookup : KeyLookup}
    (quiet : lookup.started = none)
    (awaits : (Function.update lookups i lookup j).started = some started) :
    j ≠ i ∧ (lookups j).started = some started := by
  rcases started_update awaits with ⟨-, here⟩ | other
  · rw [quiet] at here
    cases here
  · exact other

theorem moved_of_none (quiet : segment.2.started = none) : verifier.moved i now segment =
    ⟨segment.1, none, now, Function.update verifier.lookups i segment.2, verifier.attempts⟩ := by
  simp [moved, quiet]

theorem moved_of_some (starts : segment.2.started = some started) :
    verifier.moved i now segment =
      ⟨segment.1, some i, now, Function.update verifier.lookups i segment.2,
        ⟨started, (verifier.caches.unexpiredKeys started).isSome⟩ :: verifier.attempts⟩ := by
  simp [moved, starts]

omit [DecidableEq ι] in
/-- A step that neither starts nor ends a fetch. -/
theorem Locked.keep (locked : verifier.Locked config) (keeps : verifier.caches.Keeps next.caches)
    (lock : next.lock = verifier.lock) (clock : verifier.clock ≤ next.clock)
    (attempts : next.attempts = verifier.attempts)
    (inFlight : ∀ i started, (next.lookups i).started = some started →
      next.lookups i = verifier.lookups i) : next.Locked config where
  past := by
    rw [attempts]
    exact fun attempt newest => (locked.past attempt newest).trans clock
  inFlight := by
    rw [attempts, lock]
    intro i started awaits
    rw [inFlight i started awaits] at awaits
    exact locked.inFlight i started awaits
  waited := by
    intro i started awaits
    have same := inFlight i started (by rw [awaits]; rfl)
    have waited := locked.waited i started (same.symm.trans awaits)
    unfold JwksCaches.CooledDown at waited ⊢
    rwa [keeps.lastRefreshAt]

omit [DecidableEq ι] in
theorem Paced.keep (paced : verifier.Paced config) (keeps : verifier.caches.Keeps next.caches)
    (lock : next.lock = verifier.lock) (attempts : next.attempts = verifier.attempts) :
    next.Paced config where
  spaced := by
    unfold Spaced
    rw [attempts]
    exact paced.spaced
  settled := by
    rw [attempts, lock, keeps.lastRefreshAt]
    simp only [keeps.unexpiredKeys]
    exact paced.settled

/-! #### Steps of the lock -/

theorem Locked.begins {later : ℚ} (locked : verifier.Locked config)
    (order : verifier.clock ≤ now) (later_order : now ≤ later) :
    Locked config { verifier.moved i later (verifier.caches.beginLookup (keyOf i) now later) with
      lock := verifier.lock } := by
  rw [moved_of_none JwksCaches.beginLookup_started]
  refine locked.keep JwksCaches.beginLookup_keeps rfl (order.trans later_order) rfl ?_
  intro j started awaits
  have other := (started_update_of_none JwksCaches.beginLookup_started awaits).1
  exact Function.update_of_ne other _ _

theorem Locked.enters (locked : verifier.Locked config) (order : verifier.clock ≤ now)
    (free : verifier.lock = none)
    (entered : verifier.caches.enter config (keyOf i) now (verifier.lookups i) = some segment) :
    (verifier.moved i now segment).Locked config := by
  cases starts : segment.2.started with
  | none =>
      rw [moved_of_none starts]
      refine locked.keep (JwksCaches.enter_keeps entered) free.symm order rfl ?_
      intro j started awaits
      have other := (started_update_of_none starts awaits).1
      exact Function.update_of_ne other _ _
  | some started =>
      obtain ⟨rfl, -⟩ := JwksCaches.enter_started entered starts
      rw [moved_of_some starts]
      have only : ∀ j later, (Function.update verifier.lookups i segment.2 j).started = some later →
          j = i ∧ segment.2.started = some later := by
        intro j later awaits
        rcases started_update awaits with here | ⟨-, before⟩
        · exact here
        · rw [(locked.inFlight j later before).1] at free
          cases free
      refine ⟨?_, ?_, ?_⟩
      · rintro _ ⟨⟩
        exact le_rfl
      · intro j later awaits
        obtain ⟨rfl, here⟩ := only j later awaits
        exact ⟨rfl, _, rfl, Option.some.inj (starts.symm.trans here)⟩
      · intro j later awaits
        obtain ⟨rfl, -⟩ := only j later (congrArg KeyLookup.started awaits)
        exact JwksCaches.enter_waited entered (by simpa using awaits)

theorem Locked.leaves (locked : verifier.Locked config) (order : verifier.clock ≤ now)
    (left : verifier.caches.leave config (keyOf i) answer (verifier.lookups i) = some segment) :
    (verifier.moved i now segment).Locked config := by
  obtain ⟨started, awaits, fetched⟩ := JwksCaches.leave_fetched left
  have holds := (locked.inFlight i started awaits).1
  rw [moved_of_none fetched.ended]
  have nobody : ∀ j later,
      (Function.update verifier.lookups i segment.2 j).started ≠ some later := by
    intro j later awaiting
    obtain ⟨other, before⟩ := started_update_of_none fetched.ended awaiting
    have same := (locked.inFlight j later before).1
    rw [holds] at same
    exact other (Option.some.inj same).symm
  refine ⟨fun attempt newest => (locked.past attempt newest).trans order, ?_, ?_⟩
  · exact fun j later awaiting => absurd awaiting (nobody j later)
  · exact fun j later awaiting => absurd (congrArg KeyLookup.started awaiting) (nobody j later)

theorem Locked.served (locked : verifier.Locked config)
    (served : Served config keyOf verifier event next) : next.Locked config := by
  cases served with
  | begins order later_order _ => exact locked.begins order later_order
  | enters order free entered => exact locked.enters order free entered
  | leaves order left => exact locked.leaves order left

/-! #### Steps of the pace -/

omit [DecidableEq ι] in
/-- What may start a fetch under an unexpired key set waited for the cooldown. -/
theorem Paced.spacing (paced : verifier.Paced config) (locked : verifier.Locked config)
    (free : verifier.lock = none) (order : verifier.clock ≤ now)
    (allowed : verifier.caches.unexpiredKeys now = none ∨ verifier.caches.CooledDown config now)
    {older : FetchAttempt} (newest : older ∈ verifier.attempts.head?)
    (unexpired : (verifier.caches.unexpiredKeys now).isSome = true) :
    older.start + config.refreshCooldownSeconds ≤ now := by
  rcases paced.settled free older newest with refreshed | expired
  · rcases allowed with expired | cooled
    · rw [expired] at unexpired
      cases unexpired
    · have waited := cooled older.start refreshed
      linarith
  · have still :=
      JwksCaches.unexpiredKeys_eq_none_mono expired ((locked.past older newest).trans order)
    rw [still] at unexpired
    cases unexpired

theorem Paced.enters (paced : verifier.Paced config) (locked : verifier.Locked config)
    (order : verifier.clock ≤ now) (free : verifier.lock = none)
    (entered : verifier.caches.enter config (keyOf i) now (verifier.lookups i) = some segment) :
    (verifier.moved i now segment).Paced config := by
  cases starts : segment.2.started with
  | none =>
      rw [moved_of_none starts]
      exact paced.keep (JwksCaches.enter_keeps entered) free.symm rfl
  | some started =>
      obtain ⟨rfl, allowed⟩ := JwksCaches.enter_started entered starts
      rw [moved_of_some starts]
      refine ⟨List.isChain_cons.mpr ⟨fun _ newest unexpired => ?_, paced.spaced⟩, nofun⟩
      exact paced.spacing locked free order allowed newest unexpired

theorem Paced.leaves (paced : verifier.Paced config) (locked : verifier.Locked config)
    (left : verifier.caches.leave config (keyOf i) answer (verifier.lookups i) = some segment)
    (answered : verifier.Answered config (.leaves i now answer)) :
    (verifier.moved i now segment).Paced config := by
  obtain ⟨started, awaits, fetched⟩ := JwksCaches.leave_fetched left
  obtain ⟨-, newest, head, rfl⟩ := locked.inFlight i started awaits
  rw [moved_of_none fetched.ended]
  refine ⟨paced.spaced, fun _ attempt here => ?_⟩
  obtain rfl := Option.some.inj ((Option.mem_def.mp here).symm.trans head)
  rcases fetched.refreshed with ⟨_, _, refreshed⟩ | ⟨message, refused, rfl⟩
  · exact .inl refreshed
  · rcases answered _ awaits with ⟨_, taken⟩ | expired
    · rw [taken] at refused
      cases refused
    · exact .inr expired

end Steps

theorem Paced.served (paced : verifier.Paced config) (locked : verifier.Locked config)
    (served : Served config keyOf verifier event next) (answered : verifier.Answered config event) :
    next.Paced config := by
  cases served with
  | begins order later_order _ =>
      rw [moved_of_none JwksCaches.beginLookup_started]
      exact paced.keep JwksCaches.beginLookup_keeps rfl rfl
  | enters order free entered => exact paced.enters locked order free entered
  | leaves _ left => exact paced.leaves locked left answered

/-! ### The property -/

/-- The negative cache is bounded, and refuses no pair that the unexpired key set matches. -/
structure HidesNothing (verifier : KeyVerifier ι) : Prop where
  visible : ∀ key now, (verifier.caches.isNegativeKey key now).2 = true →
    ∀ keys ∈ verifier.caches.unexpiredKeys now, findMatchingJwk keys key = none
  bounded : verifier.caches.negativeKeys.length ≤ 128

/-- What protects the known keys and the endpoint. -/
structure Safe (config : JwksConfig) (verifier : KeyVerifier ι) : Prop where
  hidesNothing : verifier.HidesNothing
  spaced : verifier.Spaced config

omit [DecidableEq ι] in
theorem HidesNothing.of_negatives (negatives : verifier.caches.Negatives) :
    verifier.HidesNothing := by
  refine ⟨fun key now refused keys held => ?_, negatives.bounded⟩
  obtain ⟨cached, here, -, rfl⟩ := JwksCaches.mem_unexpiredKeys.mp held
  exact negatives.of_isNegativeKey refused cached here

section Runs

variable {clock : ℚ} {events : List (KeyEvent ι)}

theorem negatives_of_run
    (run : Run (fun s event t => serve config keyOf s event = .ok t) (start clock) events verifier) :
    verifier.caches.Negatives :=
  run.invariant (P := fun s => s.caches.Negatives)
    (fun _ _ _ negatives serves => (served_of_serve serves).negatives negatives) .init

theorem locked_of_run
    (run : Run (fun s event t => serve config keyOf s event = .ok t) (start clock) events verifier) :
    verifier.Locked config :=
  run.invariant (fun _ _ _ locked serves => locked.served (served_of_serve serves)) .start

/-- In every run the negative cache is bounded and hides no known key. Where no fetch fails
that started under an unexpired key set, the cooldown also spaces the fetches under such a
set. -/
theorem key_lookups_safe
    (run : Run (fun s event t => serve config keyOf s event = .ok t) (start clock) events verifier) :
    verifier.HidesNothing ∧
      (Run (fun s event t => serve config keyOf s event = .ok t ∧ s.Answered config event)
        (start clock) events verifier → verifier.Safe config) := by
  have hidesNothing := HidesNothing.of_negatives (negatives_of_run run)
  refine ⟨hidesNothing, fun answered => ⟨hidesNothing, ?_⟩⟩
  have both : verifier.Locked config ∧ verifier.Paced config := by
    refine answered.invariant (P := fun s => s.Locked config ∧ s.Paced config) ?_ ⟨.start, .start⟩
    rintro _ _ _ ⟨locked, paced⟩ ⟨serves, met⟩
    exact ⟨locked.served (served_of_serve serves), paced.served locked (served_of_serve serves) met⟩
  exact both.2.spaced

/-- A lookup of a pair that is neither known nor negative fetches once the cooldown is over. -/
theorem enterMatch_fetches {caches : JwksCaches} {key : CacheKey} {now : ℚ}
    (fresh : (caches.isNegativeKey key now).2 = false)
    (unmatched : ∀ cached ∈ caches.cachedKeys, findMatchingJwk cached.keys key = none)
    (cooled : caches.CooledDown config now) :
    (caches.enterMatch config key now).2 = .fetchingMatch now := by
  have keys := @JwksCaches.isNegativeKey_cachedKeys caches key now
  have last := @JwksCaches.isNegativeKey_lastRefreshAt caches key now
  unfold JwksCaches.enterMatch
  split
  · rename_i same
    rw [same] at fresh
    cases fresh
  · rename_i same
    rw [same] at keys last
    dsimp only at keys last ⊢
    rw [keys, Option.bind_eq_none_iff.mpr unmatched]
    dsimp only
    rw [if_pos]
    unfold JwksCaches.CooledDown at cooled ⊢
    rwa [last]

/-- A failed fetch of `_matching_jwk` leaves the cooldown open: the next lookup of a pair that
is neither known nor negative fetches at once. Where that is within the cooldown and under
an unexpired key set, the fetches are not spaced. -/
theorem failed_fetch_reopens {i j : ι} {started now later : ℚ} {answer : JwksAnswer}
    {message : String} {next : KeyVerifier ι}
    (run : Run (fun s event t => serve config keyOf s event = .ok t) (start clock) events verifier)
    (fetching : verifier.lookups i = .fetchingMatch started)
    (refused : config.acceptedKeys answer = .error message)
    (left : verifier.serve config keyOf (.leaves i now answer) = .ok next)
    (waiting : next.lookups j = .awaitingMatch)
    (unmatched : ∀ cached ∈ next.caches.cachedKeys, findMatchingJwk cached.keys (keyOf j) = none)
    (fresh : (next.caches.isNegativeKey (keyOf j) later).2 = false) (order : now ≤ later) :
    ∃ after, next.serve config keyOf (.enters j later) = .ok after ∧
      after.lookups j = .fetchingMatch later ∧
      ((next.caches.unexpiredKeys later).isSome = true →
        later < started + config.refreshCooldownSeconds → ¬ after.Spaced config) := by
  have locked := locked_of_run run
  have waited := locked.waited i started fetching
  obtain ⟨-, newest, head, since⟩ := locked.inFlight i started (by rw [fetching]; rfl)
  cases served_of_serve left with
  | @leaves _ _ _ segment clock_order taken =>
      have same : segment = (verifier.caches, .answered (.error message)) := by
        rw [fetching] at taken
        cases taken
        unfold JwksCaches.leaveMatch JwksCaches.fetchJwks
        rw [refused]
      subst same
      rw [moved_of_none rfl] at waiting unmatched fresh ⊢
      dsimp only at waiting unmatched fresh ⊢
      have cooled : verifier.caches.CooledDown config later := by
        intro last refreshed
        have before := waited last refreshed
        have past := locked.past newest head
        linarith
      have fetches := enterMatch_fetches fresh unmatched cooled
      have starts := congrArg KeyLookup.started fetches
      have entered : verifier.caches.enter config (keyOf j) later .awaitingMatch =
          some (verifier.caches.enterMatch config (keyOf j) later) := rfl
      rw [← waiting] at entered
      refine ⟨_, serve_enters order rfl entered, ?_, fun unexpired soon spaced => ?_⟩
      · rw [moved_of_some starts]
        exact (Function.update_self _ _ _).trans fetches
      · rw [moved_of_some starts] at spaced
        have pair := (List.isChain_cons.mp spaced).1 newest head unexpired
        dsimp only at pair
        linarith

end Runs

/-! ### Runs with two fetches -/

/-- Every lookup is for a key id that the published set does not have. -/
def unknownKey (_ : Nat) : CacheKey :=
  ⟨"unknown", "ES256"⟩

/-- A set with one key. -/
def publishedKeys : JwksAnswer :=
  .response none [100] (some (.object [("keys", .array [.object [("kid", .text "published")]])]))

/-- The first lookup fetches the keys, and again after the cooldown. -/
def refreshing (answer : JwksAnswer) : List (KeyEvent Nat) :=
  [.begins 0 0 0, .enters 0 0, .leaves 0 1 publishedKeys, .enters 0 10, .leaves 0 11 answer]

theorem publishedKeys_accepted : ∃ keys, JwksConfig.standard.acceptedKeys publishedKeys = .ok keys :=
  ⟨_, rfl⟩

/-- A fetch that is answered, and one after the cooldown. -/
theorem refreshing_safe : ∃ final,
    Run (fun s event t => serve .standard unknownKey s event = .ok t) (start 0)
      (refreshing publishedKeys) final ∧ final.attempts = [⟨10, true⟩, ⟨0, false⟩] ∧
      final.Safe .standard := by
  have ends : okAnd ((refreshing publishedKeys).foldlM (serve .standard unknownKey) (start 0))
      fun final => final.attempts = [⟨10, true⟩, ⟨0, false⟩] := by
    decide +kernel
  obtain ⟨final, replayed, attempts⟩ := exists_of_okAnd ends
  have run := Run.foldlM_iff.mpr replayed
  refine ⟨final, run, attempts, (key_lookups_safe run).2 (run.of_prefixes ?_)⟩
  intro front event back s split _
  have member : event ∈ refreshing publishedKeys := by
    rw [split]
    simp
  cases event with
  | begins | enters => trivial
  | leaves i now answer =>
      have same : answer = publishedKeys := by
        simp [refreshing] at member
        tauto
      subst same
      exact fun _ _ => .inl publishedKeys_accepted

/-- The second fetch fails under the cached keys, and the next lookup fetches one second
later. -/
theorem failed_fetch_repeated : ∃ final,
    Run (fun s event t => serve .standard unknownKey s event = .ok t) (start 0)
      (refreshing .failed ++ [.begins 1 11 11, .enters 1 11]) final ∧
      final.attempts = [⟨11, true⟩, ⟨10, true⟩, ⟨0, false⟩] ∧ ¬ final.Safe .standard := by
  have ends : okAnd ((refreshing .failed ++ [KeyEvent.begins 1 11 11, .enters 1 11]).foldlM
      (serve .standard unknownKey) (start 0))
      fun final => final.attempts = [⟨11, true⟩, ⟨10, true⟩, ⟨0, false⟩] := by
    decide +kernel
  obtain ⟨final, replayed, attempts⟩ := exists_of_okAnd ends
  refine ⟨final, Run.foldlM_iff.mpr replayed, attempts, fun safe => ?_⟩
  have spaced := safe.spaced
  unfold Spaced at spaced
  rw [attempts] at spaced
  have soon := (List.isChain_cons_cons.mp spaced).1 rfl
  exact absurd soon (by decide +kernel)

end KeyVerifier

end Polybot
