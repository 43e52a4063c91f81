import Mathlib.Algebra.Order.Field.Rat
import Polybot.Collections.Checked
import Polybot.Collections.Dict

/-!
The key caches of the JWT verifier (`auth.py`).

The verifier holds the last key set it fetched, the instant at which that fetch started,
and the pairs of a key id and an algorithm that it could not match. `Negatives` is what
holds of these pairs: at most 128 of them, and none has a unique match in the cached set.
The section at the end proves it of each operation.
-/

namespace Polybot

open Checked

/-! ### Key sets -/

/-- A value of `json.loads`. Numbers, booleans and null are not told apart. -/
inductive JsonValue where
  | text (value : String)
  | array (items : List JsonValue)
  | object (members : List (String × JsonValue))
  | scalar

/-- A key of a key set: a dictionary. -/
abbrev Jwk := List (String × JsonValue)

/-- `value == wanted`. -/
def JsonValue.Is : JsonValue → String → Prop
  | .text value, wanted => value = wanted
  | .array _, _ | .object _, _ | .scalar, _ => False

instance (value : JsonValue) (wanted : String) : Decidable (value.Is wanted) := by
  cases value <;> unfold JsonValue.Is <;> infer_instance

/-- `members.get(name)`. -/
def Jwk.get? (members : Jwk) (name : String) : Option JsonValue :=
  (members.find? fun entry => entry.1 = name).map Prod.snd

/-- `isinstance(value, dict)`. -/
def JsonValue.dict? : JsonValue → Option Jwk
  | .object members => some members
  | .text _ | .array _ | .scalar => none

/-- `isinstance(value, list)`. -/
def JsonValue.list? : JsonValue → Option (List JsonValue)
  | .array items => some items
  | .text _ | .object _ | .scalar => none

/-- A key id and an algorithm. -/
structure CacheKey where
  kid : String
  algorithm : String
  deriving DecidableEq, Repr

/-- The tests of `_find_matching_jwk`. -/
def Jwk.Matches (jwk : Jwk) (key : CacheKey) : Prop :=
  (∃ kid ∈ jwk.get? "kid", kid.Is key.kid) ∧
    ((jwk.get? "alg").getD (.text key.algorithm)).Is key.algorithm ∧
    ((jwk.get? "use").getD (.text "sig")).Is "sig"

instance (jwk : Jwk) (key : CacheKey) : Decidable (jwk.Matches key) :=
  inferInstanceAs (Decidable ((∃ kid ∈ jwk.get? "kid", _) ∧ _))

/-- `_find_matching_jwk`: the key that matches, where only one does. -/
def findMatchingJwk (keys : List Jwk) (key : CacheKey) : Option Jwk :=
  match keys.filter fun jwk => jwk.Matches key with
  | [jwk] => some jwk
  | _ => none

/-! ### The endpoint -/

/-- The numbers of `__init__`, within the bounds that it enforces. -/
structure JwksConfig where
  cacheSeconds : ℚ
  refreshCooldownSeconds : ℚ
  negativeCacheSeconds : ℚ
  maxJwksBytes : Nat
  maxJwksKeys : Nat
  cacheSeconds_bound : 30 ≤ cacheSeconds
  refreshCooldownSeconds_bound : 1 ≤ refreshCooldownSeconds
  negativeCacheSeconds_bound : 1 ≤ negativeCacheSeconds
  maxJwksBytes_bounds : 1024 ≤ maxJwksBytes ∧ maxJwksBytes ≤ 1048576
  maxJwksKeys_bounds : 1 ≤ maxJwksKeys ∧ maxJwksKeys ≤ 128

/-- `__init__`. -/
def JwksConfig.init (cacheSeconds : Int) (refreshCooldownSeconds negativeCacheSeconds : ℚ)
    (maxJwksBytes maxJwksKeys : Int) : JwksConfig where
  cacheSeconds := max 30 cacheSeconds
  refreshCooldownSeconds := max 1 refreshCooldownSeconds
  negativeCacheSeconds := max 1 negativeCacheSeconds
  maxJwksBytes := (max 1024 (min maxJwksBytes 1048576)).toNat
  maxJwksKeys := (max 1 (min maxJwksKeys 128)).toNat
  cacheSeconds_bound := le_max_left _ _
  refreshCooldownSeconds_bound := le_max_left _ _
  negativeCacheSeconds_bound := le_max_left _ _
  maxJwksBytes_bounds := by omega
  maxJwksKeys_bounds := by omega

/-- The defaults of `__init__`. -/
def JwksConfig.standard : JwksConfig :=
  .init 300 5 30 262144 32

/-- What a request to the endpoint ends with. A `content-length` that is not an integer and
a body that is not JSON are `none`. -/
inductive JwksAnswer where
  | failed
  | response (contentLength : Option (Option Int)) (chunks : List Nat) (payload : Option JsonValue)

/-- The text of every failed fetch. -/
def serviceUnavailable : String :=
  "authentication service unavailable"

/-- The loop that reads the body, with the bytes read so far. -/
def readChunk (config : JwksConfig) (length chunk : Nat) : Except String Nat := do
  require (length + chunk ≤ config.maxJwksBytes) serviceUnavailable
  pure (length + chunk)

/-- The value of an optional step, or a failed fetch. -/
def available {α : Type} : Option α → Except String α
  | some value => .ok value
  | none => .error serviceUnavailable

/-- The keys that `_fetch_jwks` takes from an answer. -/
def JwksConfig.acceptedKeys (config : JwksConfig) : JwksAnswer → Except String (List Jwk)
  | .failed => .error serviceUnavailable
  | .response contentLength chunks payload => do
      match contentLength with
      | some header => do
          let length ← available header
          require (length ≤ config.maxJwksBytes) serviceUnavailable
      | none => pure ()
      let _ ← chunks.foldlM (readChunk config) 0
      let payload ← available payload
      let members ← available payload.dict?
      let rawKeys ← available ((members.get? "keys").bind JsonValue.list?)
      require (1 ≤ rawKeys.length ∧ rawKeys.length ≤ config.maxJwksKeys) serviceUnavailable
      rawKeys.mapM fun key => available key.dict?

/-! ### Caches -/

/-- `_cached_keys`. -/
structure CachedKeys where
  expiresAt : ℚ
  keys : List Jwk

/-- The caches of a verifier. No refresh yet is `none`. -/
structure JwksCaches where
  cachedKeys : Option CachedKeys
  lastRefreshAt : Option ℚ
  negativeKeys : Dict CacheKey ℚ

/-- The caches of a new verifier. -/
def JwksCaches.init : JwksCaches :=
  ⟨none, none, .empty⟩

/-- The text of every key that is not found. -/
def unknownSigningKey : String :=
  "unknown signing key"

namespace JwksCaches

variable (config : JwksConfig) (caches : JwksCaches)

/-- `_fetch_jwks` with an answer to a request that started at `now`. -/
def fetchJwks (now : ℚ) (answer : JwksAnswer) : JwksCaches × Except String (List Jwk) :=
  match config.acceptedKeys answer with
  | .ok keys => (⟨some ⟨now + config.cacheSeconds, keys⟩, some now, .empty⟩, .ok keys)
  | .error message => (caches, .error message)

/-- The cached keys that have not expired. -/
def unexpiredKeys (now : ℚ) : Option (List Jwk) :=
  (caches.cachedKeys.filter fun cached => now < cached.expiresAt).map CachedKeys.keys

/-- `_is_negative_key`, which forgets an expired entry. -/
def isNegativeKey (key : CacheKey) (now : ℚ) : JwksCaches × Bool :=
  match caches.negativeKeys.get? key with
  | none => (caches, false)
  | some expiry =>
      if expiry ≤ now then
        ({ caches with negativeKeys := caches.negativeKeys.erase key }, false)
      else (caches, true)

/-- `_remember_negative_key`. -/
def rememberNegativeKey (key : CacheKey) (now : ℚ) : JwksCaches :=
  let negativeKeys :=
    if 128 ≤ caches.negativeKeys.length then caches.negativeKeys.popFirst else caches.negativeKeys
  { caches with negativeKeys := negativeKeys.set key (now + config.negativeCacheSeconds) }

/-- `now - _last_refresh_at >= _refresh_cooldown_seconds`. -/
def CooledDown (now : ℚ) : Prop :=
  ∀ last ∈ caches.lastRefreshAt, config.refreshCooldownSeconds ≤ now - last

instance (now : ℚ) : Decidable (caches.CooledDown config now) :=
  inferInstanceAs (Decidable (∀ last ∈ caches.lastRefreshAt, _))

end JwksCaches

/-! ### Negative entries -/

/-- The negative cache is bounded, and holds no pair that the cached set matches. -/
structure JwksCaches.Negatives (caches : JwksCaches) : Prop where
  bounded : caches.negativeKeys.length ≤ 128
  unmatched : ∀ key expiry, caches.negativeKeys.get? key = some expiry →
    ∀ cached ∈ caches.cachedKeys, findMatchingJwk cached.keys key = none

namespace JwksCaches

variable {config : JwksConfig} {caches : JwksCaches} {key : CacheKey} {now : ℚ}

theorem Negatives.init : Negatives .init :=
  ⟨Nat.zero_le _, nofun⟩

theorem mem_unexpiredKeys {keys : List Jwk} : keys ∈ caches.unexpiredKeys now ↔
    ∃ cached ∈ caches.cachedKeys, now < cached.expiresAt ∧ cached.keys = keys := by
  simp only [unexpiredKeys, Option.mem_def, Option.map_eq_some_iff, Option.filter_eq_some_iff,
    decide_eq_true_eq, and_assoc]

theorem unexpiredKeys_eq_none : caches.unexpiredKeys now = none ↔
    ∀ cached ∈ caches.cachedKeys, cached.expiresAt ≤ now := by
  simp only [unexpiredKeys, Option.map_eq_none_iff, Option.filter_eq_none_iff, Option.mem_def,
    decide_eq_true_eq, not_lt]

/-- What has expired stays expired. -/
theorem unexpiredKeys_eq_none_mono {later : ℚ} (expired : caches.unexpiredKeys now = none)
    (order : now ≤ later) : caches.unexpiredKeys later = none :=
  unexpiredKeys_eq_none.mpr fun cached held =>
    (unexpiredKeys_eq_none.mp expired cached held).trans order

@[simp] theorem isNegativeKey_cachedKeys :
    (caches.isNegativeKey key now).1.cachedKeys = caches.cachedKeys := by
  unfold isNegativeKey
  split
  · rfl
  · split <;> rfl

@[simp] theorem isNegativeKey_lastRefreshAt :
    (caches.isNegativeKey key now).1.lastRefreshAt = caches.lastRefreshAt := by
  unfold isNegativeKey
  split
  · rfl
  · split <;> rfl

@[simp] theorem rememberNegativeKey_cachedKeys :
    (caches.rememberNegativeKey config key now).cachedKeys = caches.cachedKeys :=
  rfl

@[simp] theorem rememberNegativeKey_lastRefreshAt :
    (caches.rememberNegativeKey config key now).lastRefreshAt = caches.lastRefreshAt :=
  rfl

theorem Negatives.isNegativeKey (negatives : caches.Negatives) :
    (caches.isNegativeKey key now).1.Negatives := by
  unfold JwksCaches.isNegativeKey
  split
  · exact negatives
  · split
    · refine ⟨(Dict.length_erase_le _ _).trans negatives.bounded, fun other expiry found => ?_⟩
      rw [Dict.get?_erase] at found
      split at found
      · cases found
      · exact negatives.unmatched other expiry found
    · exact negatives

/-- A pair that the negative cache refuses has no unique match in the cached set. -/
theorem Negatives.of_isNegativeKey (negatives : caches.Negatives)
    (refused : (caches.isNegativeKey key now).2 = true) :
    ∀ cached ∈ caches.cachedKeys, findMatchingJwk cached.keys key = none := by
  unfold JwksCaches.isNegativeKey at refused
  split at refused
  · cases refused
  · rename_i expiry found
    exact negatives.unmatched key expiry found

/-- A pair may be remembered where the cached set does not match it. -/
theorem Negatives.rememberNegativeKey (negatives : caches.Negatives)
    (missed : ∀ cached ∈ caches.cachedKeys, findMatchingJwk cached.keys key = none) :
    (caches.rememberNegativeKey config key now).Negatives := by
  refine ⟨(Dict.length_set_le _ _ _).trans ?_, fun other expiry found => ?_⟩
  · split
    · rw [Dict.length_popFirst]
      have bounded := negatives.bounded
      omega
    · omega
  · rcases Dict.get?_set_eq_some_iff.mp found with ⟨rfl, -⟩ | ⟨-, earlier⟩
    · exact missed
    · split at earlier
      · exact negatives.unmatched other expiry (Dict.get?_of_popFirst earlier)
      · exact negatives.unmatched other expiry earlier

/-- A fetch empties the negative cache, or changes nothing. -/
theorem Negatives.fetchJwks {answer : JwksAnswer} (negatives : caches.Negatives) :
    (caches.fetchJwks config now answer).1.Negatives := by
  unfold JwksCaches.fetchJwks
  split
  · exact ⟨Nat.zero_le _, nofun⟩
  · exact negatives

end JwksCaches

end Polybot
