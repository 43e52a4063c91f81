import Polybot.Collections.Paging
import Polybot.Ledger.Replay
import Polybot.Reconcile.Interleaving

/-!
The replayed ledger of a store (`fill_ledger_snapshot` of `stores/supabase_store.py`) and
the calls that update what it replays (`stores/supabase_reconcile.py`).

A snapshot is served from a cache of two seconds, or replayed from pages of `fills` and
`account_activities` that are read one after the other, and cached. `reconcile_trade` and
`reconcile_account_activity` clear the cache after they wrote, `reconcile_activity_scope`
before. The database and the clock answer as they like within `LedgerServe`, and other
processes commit between any two requests.
-/

namespace Polybot

open Checked Interaction

/-! ### Rows -/

/-- A row of `fills` that a snapshot selects. The key is the trade and the order that
`fill_key` digests. -/
structure FillEntry where
  fillKey : String × String
  createdAt : Instant
  fill : FillRow
  deriving DecidableEq

inductive LedgerScope where
  | bot
  | quarantine
  deriving DecidableEq, Repr

/-- A row of `account_activities`. -/
structure ActivityRow where
  activityKey : String
  activityType : String
  conditionId : Option String
  amountPusd : ℚ
  transactionHash : Option String
  occurredAt : Instant
  rawPayload : String
  ledgerScope : LedgerScope
  scopeReason : Option String
  deriving DecidableEq

@[ext]
structure AccountActivityUpdate where
  activityKey : String
  activityType : String
  conditionId : Option String
  amountUsd : ℚ
  transactionHash : Option String
  occurredAt : Instant
  raw : String
  amount_nonneg : 0 ≤ amountUsd

instance : DecidableEq AccountActivityUpdate := fun _ _ =>
  decidable_of_iff _ AccountActivityUpdate.ext_iff.symm

/-- The row after an activity was upserted; the scope stays. -/
def AccountActivityUpdate.row (update : AccountActivityUpdate) (existing : Option ActivityRow) :
    ActivityRow where
  activityKey := update.activityKey
  activityType := update.activityType
  conditionId := update.conditionId
  amountPusd := update.amountUsd
  transactionHash := update.transactionHash
  occurredAt := update.occurredAt
  rawPayload := update.raw
  ledgerScope := existing.elim .bot ActivityRow.ledgerScope
  scopeReason := existing.bind ActivityRow.scopeReason

/-- `activity_quarantine_reason`. -/
def activityQuarantineReason (row : ActivityRow) (botConditionIds : List String)
    (baseline : Option Instant) (quarantineEnabled : Bool) : Option String :=
  let conditionId := Text.strip (row.conditionId.getD "")
  if conditionId = "" ∨ conditionId ∈ botConditionIds then none
  else if ∃ start ∈ baseline, row.occurredAt < start then some "prebaseline_external_activity"
  else if quarantineEnabled = true then some "foreign_account_activity"
  else none

/-- `"quarantine" if reason else "bot"`. -/
def LedgerScope.ofReason (reason : Option String) : LedgerScope :=
  if reason.isSome = true then quarantine else bot

def SettlementStatus.text : SettlementStatus → String
  | matched => "MATCHED"
  | mined => "MINED"
  | confirmed => "CONFIRMED"
  | retrying => "RETRYING"
  | failed => "FAILED"

/-- The row of a fill that is replayed. -/
def FillEntry.ledgerRow (digest : String × String → String) (conditions : Dict String String)
    (entry : FillEntry) : LedgerRow where
  settlementStatus := entry.fill.settlementStatus.text
  matchedAt := .stamp (.aware entry.fill.matchedAt)
  createdAt := .stamp (.aware entry.createdAt)
  fillKey := digest entry.fillKey
  outcomeTokenId := entry.fill.outcomeTokenId
  conditionId := (conditions.get? entry.fill.marketId).getD ""
  side := if entry.fill.side = .buy then "BUY" else "SELL"
  price := .value entry.fill.price
  size := .value entry.fill.size
  feePusd := .value entry.fill.feePusd
  occurredAt := .missing
  activityType := ""
  activityKey := ""
  amountUsd := .missing

/-- The row of an activity that is replayed. -/
def ActivityRow.ledgerRow (row : ActivityRow) : LedgerRow where
  settlementStatus := ""
  matchedAt := .missing
  createdAt := .missing
  fillKey := ""
  outcomeTokenId := ""
  conditionId := row.conditionId.getD ""
  side := ""
  price := .missing
  size := .missing
  feePusd := .missing
  occurredAt := .stamp (.aware row.occurredAt)
  activityType := row.activityType
  activityKey := row.activityKey
  amountUsd := .value row.amountPusd

/-! ### Requests -/

/-- What a call awaits of the database, and what it does to the cache. `commit` is what
another process commits. -/
inductive LedgerRequest where
  | settle (request : SettlementRequest)
  | upsertActivity (update : AccountActivityUpdate)
  | selectConditionIds
  | selectActivities (page : Nat)
  | recordQuarantine (externalKey reason : String)
  | updateScope (activityKey : String) (scope : LedgerScope) (reason : Option String)
  | lookup (sinceKey : String)
  | orderedFills (page : Nat)
  | marketConditions (marketIds : List String)
  | orderedActivities (page : Nat)
  | install (sinceKey : String) (now : Instant) (value : FillLedgerSnapshot)
  | commit (tables : SettlementTables) (activities : Dict String ActivityRow)

/-- What an answer is. A range of ordered rows is answered with all of them as they are
at that moment; the code takes its page. -/
def LedgerRequest.Response : LedgerRequest → Type
  | settle request => request.Response
  | upsertActivity _ => Unit
  | selectConditionIds => List String
  | selectActivities _ => List ActivityRow
  | recordQuarantine _ _ => Unit
  | updateScope _ _ _ => Unit
  | lookup _ => Instant × Option FillLedgerSnapshot
  | orderedFills _ => List FillEntry
  | marketConditions _ => List (String × String)
  | orderedActivities _ => List ActivityRow
  | install _ _ _ => Unit
  | commit _ _ => Unit

abbrev LedgerProgram (α : Type) : Type :=
  Program LedgerRequest LedgerRequest.Response SettlementError α

abbrev LedgerCallEvent : Type :=
  Event LedgerRequest LedgerRequest.Response SettlementError

/-- Await the answer of a request. -/
abbrev askLedger (request : LedgerRequest) : LedgerProgram request.Response :=
  Program.ask request

/-! ### `fill_ledger_snapshot` -/

/-- `page_size`. -/
def pageSize : Nat :=
  1000

/-- `max_rows`, in pages. -/
def maxPages : Nat :=
  100

/-- What is raised by a replay. -/
def LedgerError.asRaised : LedgerError → SettlementError
  | naiveSince => .foreign "ValueError"
  | incomplete message => .raised (.incompleteFillLedger message)

/-- The pages of fills from `page` on, of which `remaining` may be full. -/
def readFillPages : Nat → Nat → LedgerProgram (List FillEntry)
  | 0, _ => .raised (.raised (.incompleteFillLedger
      "fill ledger exceeded the bounded replay limit; compact it before trading"))
  | remaining + 1, page => do
      let (ordered : List FillEntry) ← askLedger (.orderedFills page)
      let rows := Paging.page pageSize page ordered
      if rows.length < pageSize then pure rows
      else do
        let later ← readFillPages remaining (page + 1)
        pure (rows ++ later)

/-- The pages of activities from `page` on. -/
def readActivityPages : Nat → Nat → LedgerProgram (List ActivityRow)
  | 0, _ => .raised (.raised (.incompleteFillLedger
      "account activity ledger exceeded the bounded replay limit"))
  | remaining + 1, page => do
      let (ordered : List ActivityRow) ← askLedger (.orderedActivities page)
      let rows := Paging.page pageSize page ordered
      if rows.length < pageSize then pure rows
      else do
        let later ← readActivityPages remaining (page + 1)
        pure (rows ++ later)

/-- The market ids of the fills, sorted and without repetition. -/
def ledgerMarketIds (rows : List FillEntry) : List String :=
  ((rows.map fun entry => entry.fill.marketId).filter fun id => id ≠ "").dedup.insertionSort (· ≤ ·)

/-- The condition ids of markets, asked for in chunks. -/
def readMarketConditions : List (List String) → LedgerProgram (List (String × String))
  | [] => pure []
  | chunk :: chunks => do
      let (rows : List (String × String)) ← askLedger (.marketConditions chunk)
      let later ← readMarketConditions chunks
      pure (rows ++ later)

/-- `market_conditions`. -/
def marketConditionsOf (rows : List (String × String)) : Dict String String :=
  rows.foldl (fun conditions row => conditions.set row.1 row.2) .empty

/-- `fill_ledger_snapshot` once the fills are read. -/
def replayRows (digest : String × String → String) (sinceKey : String) (since : Datetime)
    (now : Instant) (rows : List FillEntry) : LedgerProgram FillLedgerSnapshot := do
  let conditions ← readMarketConditions ((ledgerMarketIds rows).toChunks 100)
  let activities ← readActivityPages maxPages 0
  let value ← Program.lift ((replayFillLedger
    (rows.map (FillEntry.ledgerRow digest (marketConditionsOf conditions))) since
    (activities.map ActivityRow.ledgerRow)).mapError LedgerError.asRaised)
  let _ ← askLedger (.install sinceKey now value)
  pure value

/-- `fill_ledger_snapshot` after a miss of the cache at `now`. -/
def replaySnapshot (digest : String × String → String) (sinceKey : String) (since : Datetime)
    (now : Instant) : LedgerProgram FillLedgerSnapshot := do
  let rows ← readFillPages maxPages 0
  replayRows digest sinceKey since now rows

/-- `fill_ledger_snapshot`; `sinceKey` is `since.isoformat()`. -/
def fillLedgerSnapshot (digest : String × String → String) (sinceKey : String) (since : Datetime) :
    LedgerProgram FillLedgerSnapshot := do
  let (looked : Instant × Option FillLedgerSnapshot) ← askLedger (.lookup sinceKey)
  match looked.2 with
  | some value => pure value
  | none => replaySnapshot digest sinceKey since looked.1

/-! ### The updates -/

/-- Ask the requests of the settlement path. -/
abbrev settled {α : Type} (program : SettlementProgram α) : LedgerProgram α :=
  program.relay .settle fun _ response => response

/-- `reconcile_account_activity`. -/
def reconcileAccountActivity (update : AccountActivityUpdate) : LedgerProgram Unit := do
  let _ ← askLedger (.upsertActivity update)
  askLedger (.settle .clearCache)

section Scope

variable (baseline : Option Instant) (quarantineEnabled : Bool) (conditions : List String)

/-- The activities of a page, each moved to its scope. -/
def scopeRows : List ActivityRow → LedgerProgram Unit
  | [] => pure ()
  | row :: rows => do
      let reason := activityQuarantineReason row conditions baseline quarantineEnabled
      let scope := LedgerScope.ofReason reason
      if row.ledgerScope = scope ∧ row.scopeReason = reason then scopeRows rows
      else do
        -- audit first: a failure leaves the row in the strict ledger
        let _ ← (match reason with
          | some reason => askLedger (.recordQuarantine row.activityKey reason)
          | none => pure ())
        let _ ← askLedger (.updateScope row.activityKey scope reason)
        scopeRows rows

/-- The pages of activities from `page` on, of which `remaining` may be full. -/
def scopePages : Nat → Nat → LedgerProgram Unit
  | 0, _ => .raised (.raised (.incompleteFillLedger
      "account activity ledger exceeded the bounded replay limit"))
  | remaining + 1, page => do
      let (ordered : List ActivityRow) ← askLedger (.selectActivities page)
      let rows := Paging.page pageSize page ordered
      let _ ← scopeRows baseline quarantineEnabled conditions rows
      if rows.length < pageSize then pure () else scopePages remaining (page + 1)

/-- `reconcile_activity_scope`. -/
def reconcileActivityScope : LedgerProgram Unit := do
  let (conditions : List String) ← askLedger .selectConditionIds
  let _ ← askLedger (.settle .clearCache)
  scopePages baseline quarantineEnabled conditions maxPages 0

end Scope

/-- What another process commits, in turn. -/
def commitAll : List (SettlementTables × Dict String ActivityRow) → LedgerProgram Unit
  | [] => pure ()
  | change :: changes => do
      let _ ← (askLedger (.commit change.1 change.2)).attempt
      commitAll changes

/-- A call on the store, or another process. -/
inductive LedgerCall where
  | snapshot (sinceKey : String) (since : Datetime)
  | trade (update : UserTradeUpdate)
  | activity (update : AccountActivityUpdate)
  | scope (baseline : Option Instant) (quarantineEnabled : Bool)
  | other (changes : List (SettlementTables × Dict String ActivityRow))

/-- The program of a call; a snapshot returns its value. -/
def LedgerCall.program (digest : String × String → String) :
    LedgerCall → LedgerProgram (Option FillLedgerSnapshot)
  | snapshot sinceKey since => do
      let value ← fillLedgerSnapshot digest sinceKey since
      pure (some value)
  | trade update => do
      let _ ← settled (reconcileTrade update)
      pure none
  | activity update => do
      let _ ← reconcileAccountActivity update
      pure none
  | scope baseline quarantineEnabled => do
      let _ ← reconcileActivityScope baseline quarantineEnabled
      pure none
  | other changes => do
      let _ ← commitAll changes
      pure none

/-! ### The store -/

/-- The database and the memory of one store. -/
structure LedgerStore where
  tables : SettlementTables
  activities : Dict String ActivityRow
  cache : Option (String × Instant × FillLedgerSnapshot)
  clock : Instant

/-- The order of `matched_at` and `created_at`. -/
def FillEntry.NotAfter (a b : FillEntry) : Prop :=
  a.fill.matchedAt < b.fill.matchedAt ∨
    a.fill.matchedAt = b.fill.matchedAt ∧ a.createdAt ≤ b.createdAt

instance : DecidableRel FillEntry.NotAfter := fun _ _ =>
  inferInstanceAs (Decidable (_ ∨ _ ∧ _))

namespace LedgerStore

variable (store : LedgerStore)

/-- The cached value, for at most two seconds. -/
def hit (sinceKey : String) (now : Instant) : Option FillLedgerSnapshot :=
  match store.cache with
  | none => none
  | some (cachedKey, cachedAt, value) =>
      if cachedKey = sinceKey ∧ now - cachedAt ≤ 2000000 then some value else none

/-- The keys of the fills with their rows. -/
def fillEntries (createdAt : String × String → Instant) : List FillEntry :=
  store.tables.orders.entries.flatMap fun order =>
    order.2.fills.entries.map fun fill =>
      ⟨(fill.1, order.1), createdAt (fill.1, order.1), fill.2⟩

/-- An order of the fills that did not fail by the time they were matched and stored. -/
structure OrdersFills (createdAt : String × String → Instant) (ordered : List FillEntry) : Prop where
  perm : ordered.Perm ((store.fillEntries createdAt).filter fun entry =>
    entry.fill.settlementStatus ≠ .failed)
  sorted : ordered.Pairwise FillEntry.NotAfter

/-- An order of the activities of the bot by their time. -/
structure OrdersActivities (ordered : List ActivityRow) : Prop where
  perm : ordered.Perm (store.activities.values.filter fun row => row.ledgerScope = .bot)
  sorted : ordered.Pairwise fun a b => a.occurredAt ≤ b.occurredAt

/-- The store after a statement on `account_activities`, unless a constraint refuses it. -/
def applyActivity : LedgerRequest → Option LedgerStore
  | .upsertActivity update =>
      if update.activityType ∈ ["REDEEM", "SPLIT", "MERGE", "CONVERSION"] then
        some
          { store with
            activities := store.activities.set update.activityKey
              (update.row (store.activities.get? update.activityKey)) }
      else none
  | .updateScope activityKey scope reason =>
      match store.activities.get? activityKey with
      | none => some store
      | some row => some
          { store with
            activities := store.activities.set activityKey
              { row with ledgerScope := scope, scopeReason := reason } }
  | .commit tables activities => some { store with tables := tables, activities := activities }
  | _ => none

end LedgerStore

/-- Statements of Python, which await nothing. -/
def LedgerRequest.Local : LedgerRequest → Prop
  | settle .clearCache => True
  | lookup _ => True
  | install _ _ _ => True
  | _ => False

/-- How a request can be served: it is answered, it fails, or the answer to a write is
lost. The conditions of markets and of the bot are what other tables say. -/
inductive LedgerServe (createdAt : String × String → Instant) (store : LedgerStore) :
    LedgerCallEvent → LedgerStore → Prop where
  | settled (request : SettlementRequest) (answer : Except SettlementError request.Response)
      (tables : SettlementTables) : SettlementServe store.tables ⟨request, answer⟩ tables →
      request ≠ .clearCache →
      LedgerServe createdAt store ⟨.settle request, answer⟩ { store with tables := tables }
  | cleared : LedgerServe createdAt store ⟨.settle .clearCache, .ok ()⟩ { store with cache := none }
  | looked (sinceKey : String) (now : Instant) : store.clock ≤ now →
      LedgerServe createdAt store ⟨.lookup sinceKey, .ok (now, store.hit sinceKey now)⟩
        { store with clock := now }
  | installed (sinceKey : String) (now : Instant) (value : FillLedgerSnapshot) :
      LedgerServe createdAt store ⟨.install sinceKey now value, .ok ()⟩
        { store with cache := some (sinceKey, now, value) }
  | fills (page : Nat) (ordered : List FillEntry) : store.OrdersFills createdAt ordered →
      LedgerServe createdAt store ⟨.orderedFills page, .ok ordered⟩ store
  | markets (marketIds : List String) (rows : List (String × String)) :
      LedgerServe createdAt store ⟨.marketConditions marketIds, .ok rows⟩ store
  | activities (page : Nat) (ordered : List ActivityRow) : store.OrdersActivities ordered →
      LedgerServe createdAt store ⟨.orderedActivities page, .ok ordered⟩ store
  | scoped (page : Nat) (ordered : List ActivityRow) : ordered.Perm store.activities.values →
      LedgerServe createdAt store ⟨.selectActivities page, .ok ordered⟩ store
  | conditions (conditionIds : List String) :
      LedgerServe createdAt store ⟨.selectConditionIds, .ok conditionIds⟩ store
  | quarantined (externalKey reason : String) :
      LedgerServe createdAt store ⟨.recordQuarantine externalKey reason, .ok ()⟩ store
  | upserted (update : AccountActivityUpdate) (next : LedgerStore) :
      store.applyActivity (.upsertActivity update) = some next →
      LedgerServe createdAt store ⟨.upsertActivity update, .ok ()⟩ next
  | moved (activityKey : String) (scope : LedgerScope) (reason : Option String)
      (next : LedgerStore) : store.applyActivity (.updateScope activityKey scope reason) = some next →
      LedgerServe createdAt store ⟨.updateScope activityKey scope reason, .ok ()⟩ next
  | committed (tables : SettlementTables) (activities : Dict String ActivityRow)
      (next : LedgerStore) : store.applyActivity (.commit tables activities) = some next →
      LedgerServe createdAt store ⟨.commit tables activities, .ok ()⟩ next
  | failed (request : LedgerRequest) (problem : SettlementError) : ¬ request.Local →
      LedgerServe createdAt store ⟨request, .error problem⟩ store
  | unanswered (request : LedgerRequest) (problem : SettlementError) (next : LedgerStore) :
      store.applyActivity request = some next →
      LedgerServe createdAt store ⟨request, .error problem⟩ next

/-- Writes to the activities leave the cache, and the fills unless another process commits. -/
theorem LedgerStore.applyActivity_cases {store next : LedgerStore} {request : LedgerRequest}
    (applied : store.applyActivity request = some next) : next.cache = store.cache ∧
      (∀ other, request ≠ .settle other) ∧
      (next.tables = store.tables ∨ ∃ activities, request = .commit next.tables activities) := by
  cases request with
  | upsertActivity update =>
      unfold applyActivity at applied
      dsimp only at applied
      split at applied
      · cases applied
        refine ⟨rfl, fun other same => ?_, .inl rfl⟩
        cases same
      · cases applied
  | updateScope activityKey scope reason =>
      unfold applyActivity at applied
      dsimp only at applied
      split at applied
      · cases applied
        refine ⟨rfl, fun other same => ?_, .inl rfl⟩
        cases same
      · cases applied
        refine ⟨rfl, fun other same => ?_, .inl rfl⟩
        cases same
  | commit tables activities =>
      cases applied
      refine ⟨rfl, fun other same => ?_, .inr ⟨activities, rfl⟩⟩
      cases same
  | _ => cases applied

abbrev LedgerPool (ι : Type) : Type :=
  Pool LedgerRequest LedgerRequest.Response SettlementError (Option FillLedgerSnapshot) LedgerStore ι

/-- Calls on one store, in any number. -/
def ledgerPool {ι : Type} (digest : String × String → String) (store : LedgerStore)
    (calls : ι → LedgerCall) : LedgerPool ι :=
  Pool.start store fun i => (calls i).program digest

end Polybot
