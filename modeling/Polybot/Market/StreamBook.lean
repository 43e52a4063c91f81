import Polybot.Collections.Dict
import Polybot.Control.Lease
import Polybot.Interaction.Transition
import Polybot.Store.PairStore
import Polybot.Trading.Models

/-!
The streamed order books (`StreamingPolymarketMarketData` of `market.py`).

Stream events update a cache of books, and `get_order_book` serves from it, or asks for
a snapshot over REST and installs the answer whenever it arrives. Nothing compares the
times, so a cached book is the newest snapshot with the later changes only as long as
the updates reach the cache in the order of their times: `stream_never_goes_back`.
-/

namespace Polybot

open Interaction

/-! ### Books and events -/

/-- A book as the cache keeps it. Copies are not validated. -/
structure CachedBook extends OrderBookSnapshot where
  tickSize : ℚ
  minimumOrderSize : ℚ
  capturedAt : Instant
  deriving DecidableEq

instance BookLevel.decidableValid (level : BookLevel) : Decidable level.Valid :=
  decidable_of_iff (0 < level.price ∧ level.price < 1 ∧ 0 < level.size)
    ⟨fun ⟨pos, lt, size⟩ => ⟨pos, lt, size⟩, fun valid => ⟨valid.1, valid.2, valid.3⟩⟩

/-- What is checked when a book is built. -/
def CachedBook.Accepted (book : CachedBook) : Prop :=
  book.tokenId ≠ "" ∧ book.marketId ≠ "" ∧ (∀ level ∈ book.bids, level.Valid) ∧
    (∀ level ∈ book.asks, level.Valid) ∧ 0 < book.tickSize ∧ 0 < book.minimumOrderSize

instance (book : CachedBook) : Decidable book.Accepted :=
  inferInstanceAs (Decidable (_ ∧ _ ∧ _ ∧ _ ∧ _ ∧ _))

/-- The REST answer of the exchange. -/
structure RestBook where
  bids : List BookLevel
  asks : List BookLevel
  tickSize : Option ℚ
  minOrderSize : Option ℚ
  timestamp : Option Instant
  deriving DecidableEq

/-- `_map_book`. A book that is not accepted raises. -/
def RestBook.mapBook (raw : RestBook) (marketId tokenId : String) (utcNow : Instant) :
    Option CachedBook :=
  let book : CachedBook :=
    ⟨⟨tokenId, marketId, raw.bids, raw.asks⟩, raw.tickSize.getD (1 / 100),
      raw.minOrderSize.getD 1, raw.timestamp.getD utcNow⟩
  if book.Accepted then some book else none

/-- The payload of a `book` event. -/
structure BookPayload where
  tokenId : String
  market : String
  bids : List BookLevel
  asks : List BookLevel
  tickSize : Option ℚ
  minOrderSize : Option ℚ
  timestamp : Option Instant
  deriving DecidableEq

/-- One change of a `price_change` event. -/
structure PriceChange where
  tokenId : String
  side : Side
  price : ℚ
  size : ℚ
  deriving DecidableEq

/-- The level that the change adds, if it adds one, can be built. -/
def PriceChange.Accepted (change : PriceChange) : Prop :=
  0 < change.size → BookLevel.Valid ⟨change.price, change.size⟩

instance (change : PriceChange) : Decidable change.Accepted :=
  inferInstanceAs (Decidable (_ → _))

inductive StreamEvent where
  | book (payload : BookPayload)
  | tickSizeChange (tokenId : String) (newTickSize : ℚ) (timestamp : Option Instant)
  | marketResolved (tokenIds : List String)
  | priceChange (changes : List PriceChange) (timestamp : Option Instant)
  deriving DecidableEq

namespace CachedBook

variable (book : CachedBook)

/-- The levels of a side after a change. -/
def changedLevels (levels : List BookLevel) (change : PriceChange) : List BookLevel :=
  levels.filter (fun level => level.price ≠ change.price) ++
    if 0 < change.size then [⟨change.price, change.size⟩] else []

/-- The book after a change at a time. -/
def changed (change : PriceChange) (time : Instant) : CachedBook :=
  match change.side with
  | .buy => { book with bids := changedLevels book.bids change, capturedAt := time }
  | .sell => { book with asks := changedLevels book.asks change, capturedAt := time }

def withTickSize (tickSize : ℚ) (time : Instant) : CachedBook :=
  { book with tickSize := tickSize, capturedAt := time }

def withMarket (marketId : String) : CachedBook :=
  { book with marketId := marketId }

@[simp] theorem changed_capturedAt (change : PriceChange) (time : Instant) :
    (book.changed change time).capturedAt = time := by
  unfold changed
  cases change.side <;> rfl

theorem changed_withMarket (change : PriceChange) (time : Instant) (marketId : String) :
    (book.changed change time).withMarket marketId =
      (book.withMarket marketId).changed change time := by
  unfold changed
  cases change.side <;> rfl

end CachedBook

/-! ### The cache -/

structure StreamCache where
  cache : Dict String CachedBook
  restValidatedAt : Dict String Instant
  tokenMarkets : Dict String String
  /-- The calls that wait for their REST answer: the market and the token. -/
  waiting : List (String × String)

/-- `value or other`. -/
def positiveOr (value : Option ℚ) (other : ℚ) : ℚ :=
  match value with
  | none => other
  | some value => if value = 0 then other else value

namespace StreamCache

def empty : StreamCache :=
  ⟨.empty, .empty, .empty, []⟩

variable (state : StreamCache)

def store (tokenId : String) (book : CachedBook) : StreamCache :=
  { state with cache := state.cache.set tokenId book }

/-- The next read of the token goes through REST. -/
def invalidate (tokenId : String) : StreamCache :=
  { state with restValidatedAt := state.restValidatedAt.erase tokenId }

/-- The book of a `book` event. -/
def bookOf (payload : BookPayload) (utcNow : Instant) : CachedBook :=
  let current := state.cache.get? payload.tokenId
  ⟨⟨payload.tokenId, (state.tokenMarkets.get? payload.tokenId).getD payload.market, payload.bids,
      payload.asks⟩,
    positiveOr payload.tickSize ((current.map CachedBook.tickSize).getD (1 / 100)),
    positiveOr payload.minOrderSize ((current.map CachedBook.minimumOrderSize).getD 1),
    payload.timestamp.getD utcNow⟩

/-- A `book` event. A book that is not accepted raises. -/
def applyBook (payload : BookPayload) (utcNow : Instant) : StreamCache :=
  if (state.bookOf payload utcNow).Accepted then
    let stored := state.store payload.tokenId (state.bookOf payload utcNow)
    if payload.tickSize = none ∨ payload.minOrderSize = none then stored.invalidate payload.tokenId
    else stored
  else state

def applyTickSize (tokenId : String) (newTickSize : ℚ) (time : Instant) : StreamCache :=
  match state.cache.get? tokenId with
  | none => state
  | some current => (state.store tokenId (current.withTickSize newTickSize time)).invalidate tokenId

/-- A resolved market leaves the cache. -/
def forget : List String → StreamCache → StreamCache
  | [], state => state
  | tokenId :: rest, state =>
      forget rest ({ state with cache := state.cache.erase tokenId }.invalidate tokenId)

/-- The changes of an event in turn. One that is not accepted raises. -/
def applyChanges (time : Instant) : List PriceChange → StreamCache → StreamCache
  | [], state => state
  | change :: rest, state =>
      match state.cache.get? change.tokenId with
      | none => applyChanges time rest state
      | some current =>
          if change.Accepted then
            applyChanges time rest (state.store change.tokenId (current.changed change time))
          else state

/-- `_apply_event`. -/
def applyEvent (event : StreamEvent) (utcNow : Instant) : StreamCache :=
  match event with
  | .book payload => state.applyBook payload utcNow
  | .tickSizeChange tokenId newTickSize timestamp =>
      state.applyTickSize tokenId newTickSize (timestamp.getD utcNow)
  | .marketResolved tokenIds => forget tokenIds state
  | .priceChange changes timestamp => applyChanges (timestamp.getD utcNow) changes state

/-- The event does not raise, and a book leaves its constraints out rather than zero. -/
def Accepts (event : StreamEvent) (utcNow : Instant) : Prop :=
  match event with
  | .book payload =>
      (state.bookOf payload utcNow).Accepted ∧ payload.tickSize ≠ some 0 ∧
        payload.minOrderSize ≠ some 0
  | .priceChange changes _ =>
      ∀ change ∈ changes, state.cache.get? change.tokenId ≠ none → change.Accepted
  | _ => True

instance (event : StreamEvent) (utcNow : Instant) : Decidable (state.Accepts event utcNow) :=
  match event with
  | .book _ => inferInstanceAs (Decidable (_ ∧ _ ∧ _))
  | .priceChange changes _ => inferInstanceAs (Decidable (∀ change ∈ changes, _ → _))
  | .tickSizeChange _ _ _ => isTrue trivial
  | .marketResolved _ => isTrue trivial

/-- `rest_validation_seconds`. -/
def restValidationSeconds : Int := 30

/-- The cached book, if it is fresh and was validated. The clock is read twice. -/
def cachedBook (maxCacheAgeSeconds : Int) (tokenId : String) (utcNow later : Instant) :
    Option CachedBook := do
  let cached ← state.cache.get? tokenId
  let validatedAt ← state.restValidatedAt.get? tokenId
  if utcNow - cached.capturedAt ≤ seconds maxCacheAgeSeconds ∧
      later - validatedAt ≤ seconds restValidationSeconds then some cached
  else none

/-- The answer of REST is installed. -/
def install (tokenId : String) (snapshot : CachedBook) (validatedAt : Instant) : StreamCache :=
  { state.store tokenId snapshot with
    restValidatedAt := state.restValidatedAt.set tokenId validatedAt }

end StreamCache

/-! ### Interleavings -/

/-- What happens to the cache: a call of `get_order_book` runs until it waits for REST
(`read`), and again when it has the answer (`receive`). -/
inductive StreamLabel where
  | learn (tokenId marketId : String)
  | deliver (event : StreamEvent) (utcNow : Instant)
  | read (marketId tokenId : String) (utcNow later : Instant)
  | receive (marketId tokenId : String) (answer : Except PyError RestBook)
      (utcNow validatedAt : Instant)

section Steps

variable (maxCacheAgeSeconds : Int)

/-- The cache after a label. -/
def StreamCache.next (state : StreamCache) : StreamLabel → StreamCache
  | .learn tokenId marketId =>
      { state with tokenMarkets := state.tokenMarkets.set tokenId marketId }
  | .deliver event utcNow => state.applyEvent event utcNow
  | .read marketId tokenId utcNow later =>
      match state.cachedBook maxCacheAgeSeconds tokenId utcNow later with
      | some _ => state
      | none => { state with waiting := (marketId, tokenId) :: state.waiting }
  | .receive marketId tokenId answer utcNow validatedAt =>
      let resumed := { state with waiting := state.waiting.erase (marketId, tokenId) }
      match answer with
      | .error _ => resumed
      | .ok raw =>
          match raw.mapBook marketId tokenId utcNow with
          | none => resumed
          | some snapshot => resumed.install tokenId snapshot validatedAt

/-- An answer is for a call that waits. -/
def StreamLabel.Enabled (label : StreamLabel) (state : StreamCache) : Prop :=
  match label with
  | .receive marketId tokenId _ _ _ => (marketId, tokenId) ∈ state.waiting
  | _ => True

instance (label : StreamLabel) (state : StreamCache) : Decidable (label.Enabled state) :=
  match label with
  | .receive _ _ _ _ _ => inferInstanceAs (Decidable (_ ∈ _))
  | .learn _ _ | .deliver _ _ | .read _ _ _ _ => isTrue trivial

def StreamStep (state : StreamCache) (label : StreamLabel) (next : StreamCache) : Prop :=
  label.Enabled state ∧ next = state.next maxCacheAgeSeconds label

/-- The book of the token that a call returns, from the cache or from REST. -/
def StreamLabel.served (tokenId : String) (label : StreamLabel) (state : StreamCache) :
    Option CachedBook :=
  match label with
  | .read marketId token utcNow later =>
      if token = tokenId then
        (state.cachedBook maxCacheAgeSeconds token utcNow later).map fun book =>
          book.withMarket marketId
      else none
  | .receive marketId token (.ok raw) utcNow _ =>
      if token = tokenId then raw.mapBook marketId token utcNow else none
  | _ => none

end Steps

/-! ### The newest book -/

/-- A full snapshot of a token, from REST or the stream. -/
structure FullBook where
  bids : List BookLevel
  asks : List BookLevel
  tickSize : Option ℚ
  minimumOrderSize : Option ℚ
  time : Instant
  deriving DecidableEq

/-- What a label says about a token. -/
inductive BookUpdate where
  | full (book : FullBook)
  | change (change : PriceChange) (time : Instant)
  | tickSize (newTickSize : ℚ) (time : Instant)
  deriving DecidableEq

namespace BookUpdate

def time : BookUpdate → Instant
  | full book => book.time
  | change _ time => time
  | tickSize _ time => time

/-- The book after an update; a full snapshot is not applied to a book. -/
def apply (book : CachedBook) : BookUpdate → CachedBook
  | full _ => book
  | change made time => book.changed made time
  | tickSize newTickSize time => book.withTickSize newTickSize time

def IsChange : BookUpdate → Prop
  | change _ _ => True
  | _ => False

instance : DecidablePred IsChange
  | full _ => isFalse id
  | change _ _ => isTrue trivial
  | tickSize _ _ => isFalse id

end BookUpdate

/-- The updates of a token that an event carries. -/
def StreamEvent.updates (tokenId : String) (utcNow : Instant) : StreamEvent → List BookUpdate
  | book payload =>
      if payload.tokenId = tokenId then
        [.full ⟨payload.bids, payload.asks, payload.tickSize, payload.minOrderSize,
          payload.timestamp.getD utcNow⟩]
      else []
  | tickSizeChange token newTickSize timestamp =>
      if token = tokenId then [.tickSize newTickSize (timestamp.getD utcNow)] else []
  | marketResolved _ => []
  | priceChange changes timestamp =>
      (changes.filter fun change => change.tokenId = tokenId).map fun change =>
        .change change (timestamp.getD utcNow)

/-- The updates of a token that reach the cache with a label. -/
def StreamLabel.updates (tokenId : String) : StreamLabel → List BookUpdate
  | deliver event utcNow => event.updates tokenId utcNow
  | receive marketId token (.ok raw) utcNow _ =>
      if token = tokenId then
        match raw.mapBook marketId token utcNow with
        | none => []
        | some book => [.full ⟨book.bids, book.asks, some book.tickSize, some book.minimumOrderSize,
            book.capturedAt⟩]
      else []
  | _ => []

/-- The updates of a token, in the order in which they reached the cache. -/
def updatesOf (tokenId : String) (labels : List StreamLabel) : List BookUpdate :=
  labels.flatMap (StreamLabel.updates tokenId)

/-- The book is the newest full snapshot by its time, with all later price changes applied
in order. Of two updates with one time, the one that came later is the newer one. -/
def IsNewestBook (tokenId marketId : String) (updates : List BookUpdate) (book : CachedBook) :
    Prop :=
  ∃ before full after tickSize minimumOrderSize, updates = before ++ .full full :: after ∧
    (∀ other, .full other ∈ before → other.time ≤ full.time) ∧
    (∀ other, .full other ∈ after → other.time < full.time) ∧
    full.tickSize = some tickSize ∧ full.minimumOrderSize = some minimumOrderSize ∧
    book = ((before.filter fun update => update.IsChange ∧ full.time < update.time) ++
      after.filter fun update => update.IsChange ∧ full.time ≤ update.time).foldl BookUpdate.apply
        ⟨⟨tokenId, marketId, full.bids, full.asks⟩, tickSize, minimumOrderSize, full.time⟩

/-- A book served from the cache is the newest one, and no served book is older than one
that was served before. -/
structure NeverGoesBack (maxCacheAgeSeconds : Int) (tokenId : String)
    (labels : List StreamLabel) : Prop where
  newest : ∀ front marketId utcNow later back s book,
    labels = front ++ .read marketId tokenId utcNow later :: back →
    Run (StreamStep maxCacheAgeSeconds) .empty front s →
    (StreamLabel.read marketId tokenId utcNow later).served maxCacheAgeSeconds tokenId s =
      some book →
    IsNewestBook tokenId marketId (updatesOf tokenId front) book
  forward : ∀ front first between second back s t book book',
    labels = front ++ first :: (between ++ second :: back) →
    Run (StreamStep maxCacheAgeSeconds) .empty front s →
    Run (StreamStep maxCacheAgeSeconds) .empty (front ++ first :: between) t →
    first.served maxCacheAgeSeconds tokenId s = some book →
    second.served maxCacheAgeSeconds tokenId t = some book' → book.capturedAt ≤ book'.capturedAt

/-- The updates of the token reach the cache in the order of their times. -/
def UpdatesInOrder (tokenId : String) (labels : List StreamLabel) : Prop :=
  ((updatesOf tokenId labels).map BookUpdate.time).Pairwise (· ≤ ·)

instance (tokenId : String) (labels : List StreamLabel) : Decidable (UpdatesInOrder tokenId labels) :=
  inferInstanceAs (Decidable (List.Pairwise _ _))

/-- An event with updates of the token is accepted. -/
def StreamLabel.Accepted (tokenId : String) (state : StreamCache) (label : StreamLabel) : Prop :=
  ∀ event utcNow, label = .deliver event utcNow → event.updates tokenId utcNow ≠ [] →
    state.Accepts event utcNow

instance (tokenId : String) (state : StreamCache) (label : StreamLabel) :
    Decidable (label.Accepted tokenId state) :=
  match label with
  | .deliver event utcNow =>
      decidable_of_iff (event.updates tokenId utcNow ≠ [] → state.Accepts event utcNow)
        ⟨by rintro accepted _ _ ⟨⟩; exact accepted, fun accepted => accepted event utcNow rfl⟩
  | .learn _ _ | .read _ _ _ _ | .receive _ _ _ _ _ => isTrue nofun

/-- A step whose event, if it has updates of the token, is accepted. -/
def AcceptedStep (maxCacheAgeSeconds : Int) (tokenId : String) (state : StreamCache)
    (label : StreamLabel) (next : StreamCache) : Prop :=
  StreamStep maxCacheAgeSeconds state label next ∧ label.Accepted tokenId state

/-! ### What the cache follows -/

/-- The cached book follows the last full snapshot. If REST has validated it, the snapshot
was complete and only price changes came after it. -/
def FollowsUpdates (tokenId : String) (updates : List BookUpdate) (book : CachedBook)
    (validated : Prop) : Prop :=
  ∃ before full after start, updates = before ++ .full full :: after ∧
    (∀ other, .full other ∉ after) ∧ start.tokenId = tokenId ∧ start.bids = full.bids ∧
    start.asks = full.asks ∧ start.capturedAt = full.time ∧
    book = after.foldl BookUpdate.apply start ∧
    (validated → full.tickSize = some start.tickSize ∧
      full.minimumOrderSize = some start.minimumOrderSize ∧ ∀ update ∈ after, update.IsChange)

/-- What is cached for the token follows its updates. -/
def StreamCache.Follows (state : StreamCache) (tokenId : String) (updates : List BookUpdate) :
    Prop :=
  ∀ book, state.cache.get? tokenId = some book →
    FollowsUpdates tokenId updates book ((state.restValidatedAt.get? tokenId).isSome = true)

section Follows

variable {state : StreamCache} {tokenId : String} {updates : List BookUpdate} {book : CachedBook}
  {validated validated' : Prop}

theorem FollowsUpdates.append (update : BookUpdate)
    (follows : FollowsUpdates tokenId updates book validated)
    (partial' : ∀ full, update ≠ .full full)
    (still : validated' → validated ∧ update.IsChange) :
    FollowsUpdates tokenId (updates ++ [update]) (update.apply book) validated' := by
  obtain ⟨before, full, after, start, rfl, last, token, bids, asks, time, rfl, complete⟩ := follows
  refine ⟨before, full, after ++ [update], start, by simp, fun other member => ?_, token, bids,
    asks, time, by simp, fun valid => ?_⟩
  · rcases List.mem_append.mp member with earlier | now
    · exact last other earlier
    · exact partial' other (List.mem_singleton.mp now).symm
  · obtain ⟨valid, change⟩ := still valid
    obtain ⟨tick, minimum, changes⟩ := complete valid
    refine ⟨tick, minimum, fun other member => ?_⟩
    rcases List.mem_append.mp member with earlier | now
    · exact changes other earlier
    · rwa [List.mem_singleton.mp now]

theorem FollowsUpdates.full {full : FullBook} (token : book.tokenId = tokenId)
    (bids : book.bids = full.bids) (asks : book.asks = full.asks)
    (time : book.capturedAt = full.time)
    (complete : validated → full.tickSize = some book.tickSize ∧
      full.minimumOrderSize = some book.minimumOrderSize) :
    FollowsUpdates tokenId (updates ++ [.full full]) book validated :=
  ⟨updates, full, [], book, rfl, fun _ => List.not_mem_nil, token, bids, asks, time, rfl,
    fun valid => ⟨(complete valid).1, (complete valid).2, fun _ => nofun⟩⟩

/-- Nothing of the token changes. -/
theorem StreamCache.Follows.congr {next : StreamCache} (follows : state.Follows tokenId updates)
    (cached : next.cache.get? tokenId = state.cache.get? tokenId)
    (validated : next.restValidatedAt.get? tokenId = state.restValidatedAt.get? tokenId) :
    next.Follows tokenId updates := by
  intro book here
  rw [validated]
  exact follows book (cached ▸ here)

/-- The token is not cached. -/
theorem StreamCache.Follows.of_none (none' : state.cache.get? tokenId = none) :
    state.Follows tokenId updates := by
  intro book here
  rw [none'] at here
  cases here

end Follows

/-! ### Steps -/

section Steps

variable {maxCacheAgeSeconds : Int} {state next : StreamCache} {tokenId : String}
  {updates : List BookUpdate} {utcNow : Instant} {label : StreamLabel}

theorem eq_some_positiveOr {value : Option ℚ} {other : ℚ} (given : value ≠ none)
    (nonzero : value ≠ some 0) : value = some (positiveOr value other) := by
  cases value with
  | none => exact absurd rfl given
  | some value =>
      have differs : value ≠ 0 := fun zero => nonzero (congrArg some zero)
      rw [positiveOr, if_neg differs]

theorem RestBook.mapBook_tokenId {raw : RestBook} {marketId : String} {book : CachedBook}
    (mapped : raw.mapBook marketId tokenId utcNow = some book) : book.tokenId = tokenId := by
  unfold mapBook at mapped
  dsimp only at mapped
  split at mapped
  · cases mapped
    rfl
  · cases mapped

theorem StreamCache.follows_book {payload : BookPayload} (follows : state.Follows tokenId updates)
    (accepted : payload.tokenId = tokenId → state.Accepts (.book payload) utcNow) :
    (state.applyBook payload utcNow).Follows tokenId
      (updates ++ StreamEvent.updates tokenId utcNow (.book payload)) := by
  by_cases mine : payload.tokenId = tokenId
  · subst mine
    obtain ⟨built, tick, minimum⟩ := accepted rfl
    rw [StreamEvent.updates, if_pos rfl, applyBook, if_pos built]
    dsimp only
    split
    · intro book here
      have cached : some (state.bookOf payload utcNow) = some book := by
        rwa [invalidate, store, Dict.get?_set_self] at here
      obtain rfl := Option.some.inj cached
      refine .full rfl rfl rfl rfl fun validated => ?_
      rw [invalidate, Dict.get?_erase, if_pos rfl] at validated
      cases validated
    · rename_i given
      push Not at given
      intro book here
      have cached : some (state.bookOf payload utcNow) = some book := by
        rwa [store, Dict.get?_set_self] at here
      obtain rfl := Option.some.inj cached
      exact .full rfl rfl rfl rfl fun _ =>
        ⟨eq_some_positiveOr given.1 tick, eq_some_positiveOr given.2 minimum⟩
  · rw [StreamEvent.updates, if_neg mine, List.append_nil]
    have other : tokenId ≠ payload.tokenId := fun eq => mine eq.symm
    unfold applyBook
    split
    · dsimp only
      split
      · refine follows.congr ?_ ?_
        · rw [invalidate, store, Dict.get?_set_ne _ other]
        · rw [invalidate, store, Dict.get?_erase, if_neg other]
      · exact follows.congr (by rw [store, Dict.get?_set_ne _ other]) rfl
    · exact follows

theorem StreamCache.follows_tickSize {token : String} {newTickSize : ℚ} {timestamp : Option Instant}
    (follows : state.Follows tokenId updates) :
    (state.applyTickSize token newTickSize (timestamp.getD utcNow)).Follows tokenId
      (updates ++ StreamEvent.updates tokenId utcNow
        (.tickSizeChange token newTickSize timestamp)) := by
  unfold applyTickSize
  by_cases mine : token = tokenId
  · subst mine
    rw [StreamEvent.updates, if_pos rfl]
    split
    · rename_i none'
      exact .of_none none'
    · rename_i current cached
      intro book here
      have stored : some (current.withTickSize newTickSize (timestamp.getD utcNow)) = some book := by
        rwa [invalidate, store, Dict.get?_set_self] at here
      obtain rfl := Option.some.inj stored
      refine (follows current cached).append (.tickSize newTickSize (timestamp.getD utcNow)) nofun fun validated => ?_
      rw [invalidate, Dict.get?_erase, if_pos rfl] at validated
      cases validated
  · rw [StreamEvent.updates, if_neg mine, List.append_nil]
    have other : tokenId ≠ token := fun eq => mine eq.symm
    split
    · exact follows
    · refine follows.congr ?_ ?_
      · rw [invalidate, store, Dict.get?_set_ne _ other]
      · rw [invalidate, store, Dict.get?_erase, if_neg other]

theorem StreamCache.follows_forget {tokens : List String} (follows : state.Follows tokenId updates) :
    (forget tokens state).Follows tokenId updates := by
  induction tokens generalizing state with
  | nil => exact follows
  | cons token rest ih =>
      rw [forget]
      refine ih ?_
      by_cases mine : tokenId = token
      · exact .of_none (by rw [invalidate, Dict.get?_erase, if_pos mine])
      · refine follows.congr ?_ ?_
        · rw [invalidate, Dict.get?_erase, if_neg mine]
        · rw [invalidate, Dict.get?_erase, if_neg mine]

/-- The changes of an event that does not raise, one after another. -/
theorem StreamCache.follows_changes {time : Instant} {changes : List PriceChange}
    (follows : state.Follows tokenId updates)
    (accepted : ∀ change ∈ changes, state.cache.get? change.tokenId ≠ none → change.Accepted) :
    (applyChanges time changes state).Follows tokenId
      (updates ++ (changes.filter fun change => change.tokenId = tokenId).map fun change =>
        .change change time) := by
  induction changes generalizing state updates with
  | nil =>
      rw [List.filter_nil, List.map_nil, List.append_nil]
      exact follows
  | cons change rest ih =>
      unfold applyChanges
      split
      · rename_i none'
        have later := fun other member => accepted other (List.mem_cons_of_mem _ member)
        by_cases mine : change.tokenId = tokenId
        · rw [List.filter_cons_of_pos (by simp [mine]), List.map_cons, List.append_cons]
          refine ih (.of_none (mine ▸ none')) later
        · rw [List.filter_cons_of_neg (by simp [mine])]
          exact ih follows later
      · rename_i current cached
        have known : state.cache.get? change.tokenId ≠ none := by
          rw [cached]
          nofun
        rw [if_pos (accepted change List.mem_cons_self known)]
        have later : ∀ other ∈ rest, (state.store change.tokenId (current.changed change time)).cache.get?
            other.tokenId ≠ none → other.Accepted := by
          intro other member here
          refine accepted other (List.mem_cons_of_mem _ member) ?_
          rw [store, Dict.get?_set] at here
          split at here
          · rename_i same
            rwa [same]
          · exact here
        by_cases mine : change.tokenId = tokenId
        · rw [List.filter_cons_of_pos (by simp [mine]), List.map_cons, List.append_cons]
          refine ih (fun book here => ?_) later
          have stored : some (current.changed change time) = some book := by
            rwa [store, ← mine, Dict.get?_set_self] at here
          obtain rfl := Option.some.inj stored
          exact (follows current (mine ▸ cached)).append (.change change time) nofun
            fun validated => ⟨validated, trivial⟩
        · have other : tokenId ≠ change.tokenId := fun eq => mine eq.symm
          rw [List.filter_cons_of_neg (by simp [mine])]
          exact ih (follows.congr (by rw [store, Dict.get?_set_ne _ other]) rfl) later

/-- The changes of other tokens. -/
theorem StreamCache.applyChanges_other {time : Instant} {changes : List PriceChange}
    (follows : state.Follows tokenId updates) (others : ∀ change ∈ changes, change.tokenId ≠ tokenId) :
    (applyChanges time changes state).Follows tokenId updates := by
  induction changes generalizing state with
  | nil => exact follows
  | cons change rest ih =>
      have later := fun other member => others other (List.mem_cons_of_mem _ member)
      have differs : tokenId ≠ change.tokenId := (others change List.mem_cons_self).symm
      unfold applyChanges
      split
      · exact ih follows later
      · split
        · exact ih (follows.congr (by rw [store, Dict.get?_set_ne _ differs]) rfl) later
        · exact follows

/-- An accepted step keeps the cache with the updates. -/
theorem AcceptedStep.follows (step : AcceptedStep maxCacheAgeSeconds tokenId state label next)
    (follows : state.Follows tokenId updates) :
    next.Follows tokenId (updates ++ label.updates tokenId) := by
  obtain ⟨⟨-, rfl⟩, accepted⟩ := step
  cases label with
  | learn token marketId =>
      rw [StreamLabel.updates, List.append_nil]
      · exact follows
      all_goals nofun
  | read marketId token utcNow later =>
      rw [StreamLabel.updates, List.append_nil]
      · unfold StreamCache.next
        dsimp only
        split <;> exact follows
      all_goals nofun
  | deliver event utcNow =>
      have raisesNot := accepted event utcNow rfl
      cases event with
      | book payload =>
          refine StreamCache.follows_book follows fun mine => raisesNot ?_
          rw [StreamEvent.updates, if_pos mine]
          nofun
      | tickSizeChange token newTickSize timestamp => exact StreamCache.follows_tickSize follows
      | marketResolved tokens =>
          change (StreamCache.forget tokens state).Follows tokenId (updates ++ [])
          rw [List.append_nil]
          exact StreamCache.follows_forget follows
      | priceChange changes timestamp =>
          by_cases none' : StreamEvent.updates tokenId utcNow (.priceChange changes timestamp) = []
          · rw [StreamLabel.updates, none', List.append_nil]
            refine StreamCache.applyChanges_other follows fun change member mine => ?_
            rw [StreamEvent.updates, List.map_eq_nil_iff, List.filter_eq_nil_iff] at none'
            exact none' change member (decide_eq_true mine)
          · exact StreamCache.follows_changes follows (raisesNot none')
  | receive marketId token answer utcNow validatedAt =>
      cases answer with
      | error problem =>
          change StreamCache.Follows _ tokenId (updates ++ [])
          rw [List.append_nil]
          exact follows.congr rfl rfl
      | ok raw =>
          unfold StreamCache.next StreamLabel.updates
          dsimp only
          cases mapped : raw.mapBook marketId token utcNow with
          | none =>
              dsimp only
              rw [ite_self, List.append_nil]
              exact follows.congr rfl rfl
          | some snapshot =>
              dsimp only
              by_cases mine : token = tokenId
              · subst mine
                rw [if_pos rfl]
                intro book here
                have stored : some snapshot = some book := by
                  rwa [StreamCache.install, StreamCache.store, Dict.get?_set_self] at here
                obtain rfl := Option.some.inj stored
                exact .full (RestBook.mapBook_tokenId mapped) rfl rfl rfl fun _ => ⟨rfl, rfl⟩
              · have other : tokenId ≠ token := fun eq => mine eq.symm
                rw [if_neg mine, List.append_nil]
                refine follows.congr ?_ ?_
                · rw [StreamCache.install, StreamCache.store, Dict.get?_set_ne _ other]
                · rw [StreamCache.install, StreamCache.store, Dict.get?_set_ne _ other]

end Steps

/-! ### Served books -/

section Served

variable {maxCacheAgeSeconds : Int} {s : StreamCache} {tokenId marketId : String}
  {updates : List BookUpdate} {labels : List StreamLabel} {label : StreamLabel} {book : CachedBook}
  {validated : Prop}

theorem BookUpdate.apply_withMarket (update : BookUpdate) :
    (update.apply book).withMarket marketId = update.apply (book.withMarket marketId) := by
  cases update with
  | full other => rfl
  | tickSize newTickSize time => rfl
  | change made time => exact book.changed_withMarket made time marketId

theorem foldl_apply_withMarket : (updates.foldl BookUpdate.apply book).withMarket marketId =
    updates.foldl BookUpdate.apply (book.withMarket marketId) := by
  induction updates generalizing book with
  | nil => rfl
  | cons update rest ih => rw [List.foldl_cons, List.foldl_cons, ih, BookUpdate.apply_withMarket]

/-- The time of a book is the one of the last update. -/
theorem FollowsUpdates.last (follows : FollowsUpdates tokenId updates book validated) :
    ∃ front last, updates = front ++ [last] ∧ last.time = book.capturedAt := by
  obtain ⟨before, full, after, start, rfl, partial', -, -, -, time, rfl, -⟩ := follows
  cases after using List.reverseRecOn with
  | nil => exact ⟨before, .full full, rfl, time.symm⟩
  | append_singleton after update =>
      refine ⟨before ++ .full full :: after, update, by simp, ?_⟩
      rw [List.foldl_append, List.foldl_cons, List.foldl_nil]
      cases update with
      | full other => exact absurd (List.mem_append_right _ List.mem_cons_self) (partial' other)
      | tickSize newTickSize time => rfl
      | change made time => exact (CachedBook.changed_capturedAt _ made time).symm

/-- No update in order is later than the book that follows them. -/
theorem FollowsUpdates.time_le (follows : FollowsUpdates tokenId updates book validated)
    (inOrder : (updates.map BookUpdate.time).Pairwise (· ≤ ·)) :
    ∀ update ∈ updates, update.time ≤ book.capturedAt := by
  obtain ⟨front, last, rfl, time⟩ := follows.last
  rw [List.map_append, List.pairwise_append] at inOrder
  intro update member
  rw [← time]
  rcases List.mem_append.mp member with earlier | now
  · exact inOrder.2.2 _ (List.mem_map_of_mem earlier) _ List.mem_cons_self
  · rw [List.mem_singleton.mp now]

/-- A validated book that follows updates in order is the newest one. -/
theorem FollowsUpdates.newest (follows : FollowsUpdates tokenId updates book validated)
    (holds : validated) (inOrder : (updates.map BookUpdate.time).Pairwise (· ≤ ·)) :
    IsNewestBook tokenId marketId updates (book.withMarket marketId) := by
  obtain ⟨before, full, after, start, rfl, partial', token, bids, asks, time, rfl, complete⟩ :=
    follows
  obtain ⟨tick, minimum, changes⟩ := complete holds
  rw [List.map_append, List.map_cons, List.pairwise_append, List.pairwise_cons] at inOrder
  obtain ⟨-, ⟨later, -⟩, earlier⟩ := inOrder
  have earlier : ∀ update ∈ before, update.time ≤ full.time := fun update member =>
    earlier _ (List.mem_map_of_mem member) _ List.mem_cons_self
  have later : ∀ update ∈ after, full.time ≤ update.time := fun update member =>
    later _ (List.mem_map_of_mem member)
  have none' : (before.filter fun update => update.IsChange ∧ full.time < update.time) = [] := by
    rw [List.filter_eq_nil_iff]
    intro update member newer
    exact absurd (of_decide_eq_true newer).2 (earlier update member).not_gt
  have all : (after.filter fun update => update.IsChange ∧ full.time ≤ update.time) = after := by
    rw [List.filter_eq_self]
    intro update member
    exact decide_eq_true ⟨changes update member, later update member⟩
  refine ⟨before, full, after, start.tickSize, start.minimumOrderSize, rfl, fun other member =>
    earlier _ member, fun other member => absurd member (partial' other), tick, minimum, ?_⟩
  have begins : start.withMarket marketId = ⟨⟨tokenId, marketId, full.bids, full.asks⟩,
      start.tickSize, start.minimumOrderSize, full.time⟩ := by
    rw [← token, ← bids, ← asks, ← time]
    rfl
  rw [none', all, List.nil_append, foldl_apply_withMarket, begins]

/-- What is cached follows the updates, in every accepted run. -/
theorem follows_of_run (run : Run (AcceptedStep maxCacheAgeSeconds tokenId) .empty labels s) :
    s.Follows tokenId (updatesOf tokenId labels) := by
  refine run.invariant_history (P := fun labels state =>
    state.Follows tokenId (updatesOf tokenId labels)) ?_ (.of_none rfl)
  intro done state label next follows step
  rw [updatesOf, List.flatMap_append, List.flatMap_singleton]
  exact step.follows follows

/-- A book that is served from the cache is cached and validated. -/
theorem StreamCache.mem_of_cachedBook {utcNow later : Instant}
    (cached : s.cachedBook maxCacheAgeSeconds tokenId utcNow later = some book) :
    s.cache.get? tokenId = some book ∧ (s.restValidatedAt.get? tokenId).isSome = true := by
  unfold cachedBook at cached
  obtain ⟨found, here, cached⟩ := Option.bind_eq_some_iff.mp cached
  obtain ⟨validatedAt, valid, cached⟩ := Option.bind_eq_some_iff.mp cached
  split at cached
  · cases cached
    exact ⟨here, by rw [valid]; rfl⟩
  · cases cached

/-- A served book has the time of the latest update, with its own answer among them. -/
theorem served_latest (follows : s.Follows tokenId (updatesOf tokenId labels))
    (inOrder : UpdatesInOrder tokenId (labels ++ [label]))
    (served : label.served maxCacheAgeSeconds tokenId s = some book) :
    (∃ update ∈ updatesOf tokenId (labels ++ [label]), update.time = book.capturedAt) ∧
      ∀ update ∈ updatesOf tokenId (labels ++ [label]), update.time ≤ book.capturedAt := by
  have split : updatesOf tokenId (labels ++ [label]) =
      updatesOf tokenId labels ++ label.updates tokenId := by
    rw [updatesOf, List.flatMap_append, List.flatMap_singleton, updatesOf]
  rw [UpdatesInOrder, split] at inOrder
  rw [split]
  cases label with
  | learn token marketId => cases served
  | deliver event utcNow => cases served
  | read marketId token utcNow later =>
      have nothing : (StreamLabel.read marketId token utcNow later).updates tokenId = [] := by
        rw [StreamLabel.updates] <;> nofun
      rw [nothing, List.append_nil] at inOrder ⊢
      unfold StreamLabel.served at served
      dsimp only at served
      split at served
      · rename_i mine
        subst mine
        obtain ⟨cached, here, rfl⟩ := Option.map_eq_some_iff.mp served
        have known := follows cached (StreamCache.mem_of_cachedBook here).1
        obtain ⟨front, last, whole, time⟩ := known.last
        exact ⟨⟨last, by rw [whole]; exact List.mem_concat_self, time⟩, known.time_le inOrder⟩
      · cases served
  | receive marketId token answer utcNow validatedAt =>
      cases answer with
      | error problem => cases served
      | ok raw =>
          unfold StreamLabel.served at served
          dsimp only at served
          split at served
          · rename_i mine
            rw [StreamLabel.updates, if_pos mine, served] at inOrder ⊢
            dsimp only at inOrder ⊢
            refine ⟨⟨_, List.mem_concat_self, rfl⟩, fun update member => ?_⟩
            rw [List.map_append, List.pairwise_append] at inOrder
            rcases List.mem_append.mp member with earlier | now
            · exact inOrder.2.2 _ (List.mem_map_of_mem earlier) _ List.mem_cons_self
            · rw [List.mem_singleton.mp now]
              exact le_rfl
          · cases served

theorem UpdatesInOrder.front {front back : List StreamLabel}
    (inOrder : UpdatesInOrder tokenId (front ++ back)) : UpdatesInOrder tokenId front := by
  rw [UpdatesInOrder, updatesOf, List.flatMap_append, List.map_append, List.pairwise_append]
    at inOrder
  exact inOrder.1

/-- What is cached at a moment of an accepted run follows the updates before it. -/
theorem follows_at {front back : List StreamLabel} {t : StreamCache}
    (run : Run (AcceptedStep maxCacheAgeSeconds tokenId) .empty (front ++ back) t)
    (reached : Run (StreamStep maxCacheAgeSeconds) .empty front s) :
    s.Follows tokenId (updatesOf tokenId front) := by
  obtain ⟨s', first, -⟩ := run.split
  have same : s' = s := by
    refine Run.unique ?_ (first.mono fun _ _ _ step => step.1) reached
    rintro p label q q' ⟨-, rfl⟩ ⟨-, rfl⟩
    rfl
  exact same ▸ follows_of_run first

/-- The streaming books never go back in time, in every run in which the events are accepted
and the updates of the token reach the cache in the order of their times. -/
theorem stream_never_goes_back
    (run : Run (AcceptedStep maxCacheAgeSeconds tokenId) .empty labels s)
    (inOrder : UpdatesInOrder tokenId labels) :
    NeverGoesBack maxCacheAgeSeconds tokenId labels where
  newest := by
    rintro front marketId utcNow later back t book rfl reached served
    unfold StreamLabel.served at served
    dsimp only at served
    rw [if_pos rfl] at served
    obtain ⟨cached, here, rfl⟩ := Option.map_eq_some_iff.mp served
    obtain ⟨stored, validated⟩ := StreamCache.mem_of_cachedBook here
    exact (follows_at run reached cached stored).newest validated inOrder.front
  forward := by
    rintro front first between second back t u book book' rfl reached later served served'
    have known := follows_at run reached
    rw [← List.cons_append, ← List.append_assoc] at run inOrder
    have known' := follows_at run later
    have upTo : UpdatesInOrder tokenId ((front ++ first :: between) ++ [second]) := by
      rw [List.append_cons] at inOrder
      exact inOrder.front
    have start : UpdatesInOrder tokenId (front ++ [first]) := by
      rw [List.append_cons front first between, List.append_assoc] at upTo
      exact upTo.front
    obtain ⟨⟨update, member, time⟩, -⟩ := served_latest known start served
    rw [← time]
    refine (served_latest known' upTo served').2 update ?_
    rw [List.append_cons front first between, List.append_assoc, updatesOf, List.flatMap_append]
    exact List.mem_append_left _ member

end Served

/-! ### A late answer -/

/-- The labels can follow one another. -/
def AcceptedLabels (maxCacheAgeSeconds : Int) (tokenId : String) :
    StreamCache → List StreamLabel → Prop
  | _, [] => True
  | state, label :: rest =>
      (label.Enabled state ∧ label.Accepted tokenId state) ∧
        AcceptedLabels maxCacheAgeSeconds tokenId (state.next maxCacheAgeSeconds label) rest

instance AcceptedLabels.decidable (maxCacheAgeSeconds : Int) (tokenId : String) :
    (state : StreamCache) → (labels : List StreamLabel) →
      Decidable (AcceptedLabels maxCacheAgeSeconds tokenId state labels)
  | _, [] => isTrue trivial
  | state, label :: rest =>
      have := AcceptedLabels.decidable maxCacheAgeSeconds tokenId
        (state.next maxCacheAgeSeconds label) rest
      inferInstanceAs (Decidable (_ ∧ _))

theorem AcceptedLabels.run {maxCacheAgeSeconds : Int} {tokenId : String} {state : StreamCache}
    {labels : List StreamLabel} (accepted : AcceptedLabels maxCacheAgeSeconds tokenId state labels) :
    Run (AcceptedStep maxCacheAgeSeconds tokenId) state labels
      (labels.foldl (StreamCache.next maxCacheAgeSeconds) state) := by
  induction labels generalizing state with
  | nil => exact .refl state
  | cons label rest ih => exact .cons ⟨⟨accepted.1.1, rfl⟩, accepted.1.2⟩ (ih accepted.2)

/-- The events of the token are delivered in the order of their times. -/
def EventsInOrder (tokenId : String) (labels : List StreamLabel) : Prop :=
  UpdatesInOrder tokenId (labels.filter fun
    | .deliver _ _ => true
    | _ => false)

instance (tokenId : String) (labels : List StreamLabel) : Decidable (EventsInOrder tokenId labels) :=
  inferInstanceAs (Decidable (UpdatesInOrder _ _))

/-- An answer of REST with one ask. -/
def oneAsk (timestamp : Instant) : RestBook :=
  ⟨[], [⟨1 / 2, 3⟩], some (1 / 100), some 5, some timestamp⟩

/-- A call that finds an old book asks REST. -/
def askAgain : List StreamLabel :=
  [.read "market" "yes" 0 0, .receive "market" "yes" (.ok (oneAsk 0)) 0 0,
    .read "market" "yes" 6000000 6000000]

/-- The ask is taken off the book. -/
def askRemoved : StreamLabel :=
  .deliver (.priceChange [⟨"yes", .sell, 1 / 2, 0⟩] (some 6500000)) 6500000

/-- The answer arrives before the change, and the book is read. -/
def promptAnswer : List StreamLabel :=
  askAgain ++ [.receive "market" "yes" (.ok (oneAsk 6000000)) 6400000 6400000, askRemoved,
    .read "market" "yes" 7500000 7500000]

theorem promptAnswer_never_goes_back : NeverGoesBack 5 "yes" promptAnswer ∧
    (StreamLabel.read "market" "yes" 7500000 7500000).served 5 "yes"
        (promptAnswer.foldl (StreamCache.next 5) .empty) =
      some ⟨⟨"yes", "market", [], []⟩, 1 / 100, 5, 6500000⟩ :=
  ⟨stream_never_goes_back (AcceptedLabels.run (by decide +kernel)) (by decide +kernel),
    by decide +kernel⟩

/-- The same answer arrives after the change, which a call has seen. -/
def lateAnswer : List StreamLabel :=
  askAgain ++ [askRemoved, .read "market" "yes" 6600000 6600000,
    .receive "market" "yes" (.ok (oneAsk 6000000)) 7000000 7000000,
    .read "market" "yes" 7500000 7500000]

/-- The late answer overwrites the change, and the next call serves the old ask again. -/
theorem lateAnswer_goes_back : EventsInOrder "yes" lateAnswer ∧
    (∃ s, Run (AcceptedStep 5 "yes") .empty lateAnswer s) ∧ ¬ NeverGoesBack 5 "yes" lateAnswer := by
  have accepted : AcceptedLabels 5 "yes" .empty lateAnswer := by decide +kernel
  refine ⟨by decide, ⟨_, accepted.run⟩, fun never => ?_⟩
  have reached : ∀ labels, AcceptedLabels 5 "yes" .empty labels →
      Run (StreamStep 5) .empty labels (labels.foldl (StreamCache.next 5) .empty) :=
    fun labels accepted => accepted.run.mono fun _ _ _ step => step.1
  have later := never.forward (askAgain ++ [askRemoved]) (.read "market" "yes" 6600000 6600000)
    [.receive "market" "yes" (.ok (oneAsk 6000000)) 7000000 7000000]
    (.read "market" "yes" 7500000 7500000) [] _ _
    ⟨⟨"yes", "market", [], []⟩, 1 / 100, 5, 6500000⟩
    ⟨⟨"yes", "market", [], [⟨1 / 2, 3⟩]⟩, 1 / 100, 5, 6000000⟩ rfl
    (reached _ (by decide +kernel)) (reached _ (by decide +kernel)) (by decide +kernel)
    (by decide +kernel)
  exact absurd later (by decide)

end Polybot
