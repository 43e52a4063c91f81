import Mathlib.Data.List.Sort
import Mathlib.Data.Finset.Dedup
import Polybot.Store.RpcLaws

/-!
The persistence adapter of the pair state machine (`stores/pair_supabase.py`).

Everything the adapter computes between two requests to the database is a
function here: the scope checks, the payloads, and the state that three reads are
assembled into, with the re-validation that pydantic makes on the way.
-/

namespace Polybot

open Checked

/-- A raised Python exception. `foreign` is one of code outside the pair
lifecycle, of which only the type's name is used. -/
inductive PyError where
  | keyError (message : String)
  | valueError (message : String)
  | lookupError (message : String)
  | runtimeError (message : String)
  | assertionError
  | tenantScopeError (message : String)
  | validationError (problem : ValidationError)
  | apiError (problem : SqlError)
  | foreign (typeName : String)
  deriving DecidableEq, Repr

/-- `type(exc).__name__`. -/
def PyError.typeName : PyError → String
  | keyError _ => "KeyError"
  | valueError _ => "ValueError"
  | lookupError _ => "LookupError"
  | runtimeError _ => "RuntimeError"
  | assertionError => "AssertionError"
  | tenantScopeError _ => "TenantScopeError"
  | validationError _ => "ValidationError"
  | apiError _ => "APIError"
  | foreign typeName => typeName

/-- What the order manager raises, as an exception. -/
def ManagerError.raised : ManagerError → PyError
  | valueError message => .valueError message
  | unknownLeg id => .keyError s!"unknown order leg {id}"
  | unknownHedgeLeg id => .keyError s!"unknown hedge leg {id}"

/-- `str(exc)` of what the order manager raises: a `KeyError` quotes its argument. -/
def ManagerError.text : ManagerError → String
  | valueError message => message
  | unknownLeg id => s!"'unknown order leg {id}'"
  | unknownHedgeLeg id => s!"'unknown hedge leg {id}'"

/-- A pydantic constructor or `model_validate`. -/
def validated {α : Type} (result : Except ValidationError α) : Except PyError α :=
  result.mapError .validationError

theorem validated_ok_iff {α : Type} {result : Except ValidationError α} {value : α} :
    validated result = .ok value ↔ result = .ok value :=
  mapError_ok_iff

/-- `CoordinatorFill`, with the bounds of its fields. -/
@[ext]
structure CoordinatorFill where
  fillId : String
  accountId : String
  groupId : UUID
  legId : UUID
  size : ℚ
  price : ℚ
  feeUsd : ℚ
  occurredAt : Instant
  fillId_nonempty : fillId ≠ ""
  accountId_nonempty : accountId ≠ ""
  size_pos : 0 < size
  price_bounds : 0 < price ∧ price < 1
  fee_nonneg : 0 ≤ feeUsd

instance : DecidableEq CoordinatorFill := fun _ _ =>
  decidable_of_iff _ CoordinatorFill.ext_iff.symm

/-- A fill of one share at a half. -/
def researchFill (fillId : String) (groupId legId : UUID) (nonempty : fillId ≠ "") :
    CoordinatorFill :=
  ⟨fillId, "account", groupId, legId, 1, 1 / 2, 0, 5, nonempty, by decide, Literal.one_pos,
    Literal.half_bounds, Literal.zero_nonneg⟩

theorem tradeName_nonempty : "t" ≠ "" := by
  decide

/-! ### Markets -/

/-- A row of `markets`. -/
structure MarketRow where
  id : String
  gammaMarketId : Option String
  conditionId : Option String
  id_nonempty : id ≠ ""
  deriving DecidableEq

/-- `_resolve_db_market_id`. -/
def resolveDbMarketId (markets : List MarketRow) (group : OrderGroup) : Except PyError String :=
  let matched := fun row : MarketRow =>
    if truthy group.conditionId then row.conditionId = group.conditionId
    else row.gammaMarketId = some group.marketId
  match markets.find? fun row => matched row with
  | none => .error (.runtimeError s!"market {group.marketId} has not been persisted")
  | some row => .ok row.id

/-- `_market_identity`: the external id and the condition id. -/
def marketIdentity (markets : List MarketRow) (dbMarketId : String) :
    Except PyError (String × Option String) :=
  match markets.find? fun row => row.id = dbMarketId with
  | none => .error (.runtimeError s!"database market {dbMarketId} was not found")
  | some row =>
      let conditionId := nullif row.conditionId
      .ok (((nullif row.gammaMarketId).or conditionId).getD dbMarketId, conditionId)

/-- The market of `researchPlan`. -/
def researchMarkets : List MarketRow :=
  [⟨"market", some "market", some "condition", by decide⟩]

/-! ### Payloads -/

/-- `_require_account`. -/
def requireAccount (bound accountId : String) : Except PyError Unit :=
  require (accountId = bound) (.tenantScopeError
    s!"pair store is bound to account {bound}; cross-account access denied")

/-- What `persist_plan_atomic` checks before it resolves the market: the wallet of
the plan. -/
def planWallet (bound : String) (plan : OrderPlan) : Except PyError String := do
  requireAccount bound plan.group.accountId
  require (plan.researchOnly = true ∧ plan.group.researchOnly = true)
    (.valueError "P2 persistence accepts research-only plans")
  match plan.group.tradingWalletId with
  | none => throw (.valueError "pair plans require a tenant trading_wallet_id")
  | some walletId => pure walletId

/-- The group that `commit_transition_atomic` sends: the version is the next one,
whatever the state's counter says. -/
def transitionPayload (expectedGroupVersion : Nat) (state : OrderGroupState) : GroupPayload :=
  { groupPayload state.group with version := expectedGroupVersion + 1 }

/-- The caller's state after a committed transition. -/
def OrderGroupState.normalized (state : OrderGroupState) (version : Nat) : OrderGroupState :=
  { state with group := { state.group with version := version } }

/-- The fill as it is sent, with the identity of its leg. -/
def CoordinatorFill.payload (fill : CoordinatorFill) (leg : OrderLeg) : FillPayload :=
  ⟨fill.fillId, fill.groupId, fill.legId, fill.size, fill.price, fill.feeUsd, fill.occurredAt,
    leg.outcome, leg.side, leg.liquidityRole⟩

/-- The fill that `commit_fill_atomic` sends. -/
def fillArguments (bound : String) (fill : CoordinatorFill) (state : OrderGroupState) :
    Except PyError FillPayload := do
  requireAccount bound fill.accountId
  requireAccount bound state.group.accountId
  require (fill.groupId = state.group.id)
    (.valueError "fill and state refer to different order groups")
  match state.legs.filter fun leg => leg.id = fill.legId with
  | [leg] => pure (fill.payload leg)
  | _ => throw (.valueError "fill must resolve to exactly one state leg")

/-- `commit_fill_atomic`, run in the transaction of the database. -/
def Database.commitFillAtomic (db : Database) (bound : String) (expectedGroupVersion : Nat)
    (fill : CoordinatorFill) (state : OrderGroupState) (now : Instant) :
    Except PyError (AtomicFillCommit × Database) := do
  let payload ← fillArguments bound fill state
  (commitPairFill db bound expectedGroupVersion payload (groupPayload state.group) state.legs
    now).mapError .apiError

/-! ### Loading -/

/-- The group that a row and its market's identity are read as. -/
def GroupRow.loaded (row : GroupRow) (identity : String × Option String) : OrderGroup :=
  ⟨row.id, row.accountId, some row.tradingWalletId, identity.1, identity.2, row.strategy,
    row.targetPairSize, row.pairedSize, row.directionalYesSize, row.directionalNoSize,
    row.expectedNetEdgePusd, row.legDeadlineAt, row.status, row.researchOnly, row.version,
    row.createdAt, row.updatedAt⟩

/-- The order of the loaded legs: by creation, then by id. -/
def OrderLeg.CreatedBefore (a b : OrderLeg) : Prop :=
  a.createdAt < b.createdAt ∨ a.createdAt = b.createdAt ∧ a.id ≤ b.id

instance : DecidableRel OrderLeg.CreatedBefore := fun _ _ => inferInstanceAs (Decidable (_ ∨ _ ∧ _))

/-- The validated group of a row. -/
def loadedGroup (row : GroupRow) (identity : String × Option String) : Except PyError OrderGroup :=
  validated (row.loaded identity).modelValidate

/-- The sorted and validated legs of the rows. -/
def loadedLegs (rows : List OrderLeg) : Except PyError (List OrderLeg) :=
  (rows.insertionSort OrderLeg.CreatedBefore).mapM fun leg => validated leg.modelValidate

/-- `OrderGroupState(...)` from the three reads. -/
def assembledState (group : OrderGroup) (legs : List OrderLeg) (tradeIds : List String) :
    Except PyError OrderGroupState :=
  validated (OrderGroupState.modelValidate ⟨group, legs, tradeIds.toFinset⟩)

/-- The trade ids of the account's group. -/
def Database.tradeIds (db : Database) (accountId : String) (groupId : UUID) : List String :=
  (db.groupEvents accountId groupId).map EventRow.clobTradeId

/-- `load_group_state` with no commit between its reads. -/
def Database.loadGroupState (db : Database) (markets : List MarketRow) (accountId : String)
    (groupId : UUID) : Except PyError OrderGroupState :=
  match db.group? accountId groupId with
  | none => .error (.lookupError s!"order group {groupId} was not found")
  | some row => do
      let identity ← marketIdentity markets row.marketId
      let group ← loadedGroup row identity
      let legs ← loadedLegs (db.groupLegs accountId groupId)
      assembledState group legs (db.tradeIds accountId groupId)

/-! ### What is loaded -/

theorem loadedGroup_ok_iff {row : GroupRow} {identity : String × Option String} {group : OrderGroup} :
    loadedGroup row identity = .ok group ↔ group = row.loaded identity ∧ group.Valid := by
  unfold loadedGroup
  rw [validated_ok_iff, OrderGroup.modelValidate_ok_iff]
  constructor
  · rintro ⟨valid, rfl⟩
    exact ⟨rfl, valid⟩
  · rintro ⟨rfl, valid⟩
    exact ⟨valid, rfl⟩

theorem loadedLegs_ok_iff {rows legs : List OrderLeg} :
    loadedLegs rows = .ok legs ↔
      (∀ leg ∈ rows, leg.Valid) ∧ legs = rows.insertionSort OrderLeg.CreatedBefore := by
  unfold loadedLegs
  have spec : ∀ leg result : OrderLeg,
      validated leg.modelValidate = .ok result ↔ leg.Valid ∧ result = id leg := by
    intro leg result
    rw [validated_ok_iff, OrderLeg.modelValidate_ok_iff]
    rfl
  rw [mapM_ok_iff spec, List.map_id]
  have same := List.perm_insertionSort OrderLeg.CreatedBefore rows
  constructor
  · rintro ⟨valid, rfl⟩
    exact ⟨fun leg member => valid leg (same.mem_iff.mpr member), rfl⟩
  · rintro ⟨valid, rfl⟩
    exact ⟨fun leg member => valid leg (same.mem_iff.mp member), rfl⟩

theorem assembledState_ok_iff {group : OrderGroup} {legs : List OrderLeg} {tradeIds : List String}
    {state : OrderGroupState} :
    assembledState group legs tradeIds = .ok state ↔
      2 ≤ legs.length ∧ (∀ leg ∈ legs, leg.groupId = group.id) ∧
        state = ⟨group, legs, tradeIds.toFinset⟩ := by
  unfold assembledState
  rw [validated_ok_iff, OrderGroupState.modelValidate_ok_iff]

/-- A loaded state: a permutation of the durable legs under the durable group,
all of them valid. -/
structure Loaded (db : Database) (accountId : String) (row : GroupRow) (state : OrderGroupState) :
    Prop where
  found : db.group? accountId state.group.id = some row
  group : ∃ identity, state.group = row.loaded identity
  group_valid : state.group.Valid
  legs : state.legs.Perm (db.groupLegs accountId state.group.id)
  legs_valid : ∀ leg ∈ state.legs, leg.Valid
  enough : 2 ≤ state.legs.length
  member : ∀ leg ∈ state.legs, leg.groupId = state.group.id
  seen : ∀ tradeId, tradeId ∈ state.seenFillIds ↔ tradeId ∈ db.tradeIds accountId state.group.id

theorem loadGroupState_ok {db : Database} {markets : List MarketRow} {accountId : String}
    {groupId : UUID} {state : OrderGroupState}
    (done : db.loadGroupState markets accountId groupId = .ok state) :
    state.group.id = groupId ∧ ∃ row, Loaded db accountId row state := by
  unfold Database.loadGroupState at done
  cases found : db.group? accountId groupId with
  | none =>
      rw [found] at done
      cases done
  | some row =>
      rw [found] at done
      simp only [bind_ok_iff] at done
      obtain ⟨identity, -, group, grouped, legs, legged, assembled⟩ := done
      obtain ⟨rfl, groupValid⟩ := loadedGroup_ok_iff.mp grouped
      obtain ⟨legsValid, rfl⟩ := loadedLegs_ok_iff.mp legged
      obtain ⟨enough, member, rfl⟩ := assembledState_ok_iff.mp assembled
      have named := (Database.group?_some found).2.2
      have same := List.perm_insertionSort OrderLeg.CreatedBefore (db.groupLegs accountId groupId)
      subst named
      refine ⟨rfl, row, found, ⟨identity, rfl⟩, groupValid, same, ?_, enough, member, ?_⟩
      · exact fun leg inLegs => legsValid leg (same.mem_iff.mp inLegs)
      · exact fun tradeId => List.mem_toFinset

end Polybot
