import Polybot.Execution.OrderManager
import Polybot.Store.PairTables

/-!
The transactional functions (`0009_pair_execution_rpcs.sql`).

Each function is one transaction: it returns its result and the database after
it, or raises and leaves the database alone. `now` is the instant of the
transaction. The JSON payloads are the records that the adapter serialises; the
audit rows are left out, nothing reads them.
-/

namespace Polybot

open Checked

/-- `p_group`. -/
structure GroupPayload where
  id : UUID
  accountId : String
  strategy : String
  targetPairSize : ℚ
  pairedSize : ℚ
  directionalYesSize : ℚ
  directionalNoSize : ℚ
  expectedNetEdgePusd : ℚ
  legDeadlineAt : Instant
  status : OrderGroupStatus
  researchOnly : Bool
  version : Nat
  createdAt : Instant
  updatedAt : Instant
  deriving DecidableEq

/-- `_group_payload`. -/
def groupPayload (group : OrderGroup) : GroupPayload :=
  ⟨group.id, group.accountId, group.strategy, group.targetPairSize, group.pairedSize,
    group.directionalYesSize, group.directionalNoSize, group.expectedNetEdgeUsd,
    group.legDeadlineAt, group.status, group.researchOnly, group.version, group.createdAt,
    group.updatedAt⟩

/-- What `persist_plan_atomic` adds to the payload of the group. -/
structure PlanScope where
  marketId : String
  tradingWalletId : String
  executionEnabled : Bool
  deriving DecidableEq

/-- `p_fill`. -/
structure FillPayload where
  clobTradeId : String
  groupId : UUID
  legId : UUID
  size : ℚ
  price : ℚ
  feePaidPusd : ℚ
  matchedAt : Instant
  outcome : Outcome
  side : Side
  liquidityRole : LiquidityRole
  deriving DecidableEq

/-- `nullif(clob_order_id, '')`. -/
def nullif (text : Option String) : Option String :=
  if text = some "" then none else text

/-- The columns of `order_legs` that a leg payload is stored as. -/
def OrderLeg.stored (leg : OrderLeg) : OrderLeg :=
  { leg with clobOrderId := nullif leg.clobOrderId }

/-! ### `persist_pair_order_plan` -/

/-- The `unique_violation` handler, which rolls back the attempted plan. -/
def onUniqueViolation (db : Database) (attempt : Except SqlError (Bool × Database)) :
    Except SqlError (Bool × Database) :=
  match attempt with
  | .error (.uniqueViolation _) => .ok (false, db)
  | other => other

/-- The row that a plan's group is inserted as. -/
def planRow (accountId : String) (group : GroupPayload) (scope : PlanScope) : GroupRow :=
  ⟨group.id, accountId, scope.tradingWalletId, scope.marketId, group.strategy,
    group.targetPairSize, group.pairedSize, group.directionalYesSize, group.directionalNoSize,
    group.expectedNetEdgePusd, group.legDeadlineAt, group.status, true, false, group.version,
    group.createdAt, group.updatedAt⟩

/-- One leg of the plan. -/
def persistLeg (accountId : String) (groupId : UUID) (db : Database) (leg : OrderLeg) :
    Except SqlError Database := do
  require (leg.groupId = groupId) (.raised "pair leg belongs to a different group")
  db.insertLeg ⟨accountId, leg.stored⟩

def persistPairOrderPlan (db : Database) (accountId : String) (group : GroupPayload)
    (scope : PlanScope) (legs : List OrderLeg) : Except SqlError (Bool × Database) :=
  onUniqueViolation db do
    require (group.accountId = accountId) (.raised "pair plan account scope mismatch")
    require (group.researchOnly = true ∧ scope.executionEnabled = false)
      (.raised "P2 persistence is restricted to disabled research execution")
    require (legs.length = 2) (.raised "an initial pair plan requires exactly two legs")
    require ((legs.map OrderLeg.id).Nodup) (.raised "pair plan contains duplicate leg ids")
    let (inserted, withGroup) ← db.insertGroup (planRow accountId group scope)
    if inserted then do
      let withLegs ← legs.foldlM (persistLeg accountId group.id) withGroup
      pure (true, withLegs)
    else pure (false, db)

/-! ### `commit_pair_group_transition` -/

/-- The paired and directional sizes that the legs of a payload imply. -/
def InventoryMatches (group : GroupPayload) (legs : List OrderLeg) (target : ℚ) : Prop :=
  group.pairedSize = min (min (bought .yes legs) (bought .no legs)) target ∧
    group.directionalYesSize = max (bought .yes legs - bought .no legs) 0 ∧
    group.directionalNoSize = max (bought .no legs - bought .yes legs) 0

instance (group : GroupPayload) (legs : List OrderLeg) (target : ℚ) :
    Decidable (InventoryMatches group legs target) :=
  inferInstanceAs (Decidable (_ ∧ _ ∧ _))

/-- The group row with the inventory, status and version of a payload. The
trigger sets `updated_at`. -/
def GroupRow.updated (row : GroupRow) (group : GroupPayload) (status : OrderGroupStatus)
    (version : Nat) (now : Instant) : GroupRow :=
  { row with
    pairedSize := group.pairedSize
    directionalYesSize := group.directionalYesSize
    directionalNoSize := group.directionalNoSize
    status := status
    version := version
    updatedAt := now }

/-- An unfilled planned hedge leg. -/
def OrderLeg.Appendable (leg : OrderLeg) : Prop :=
  leg.purpose = .imbalanceHedge ∧ leg.filledSize = 0 ∧ leg.averageFillPrice = none ∧
    leg.feePaidUsd = 0 ∧ leg.status = .planned ∧ leg.version = 1

instance (leg : OrderLeg) : Decidable leg.Appendable :=
  inferInstanceAs (Decidable (_ ∧ _ ∧ _ ∧ _ ∧ _ ∧ _))

/-- The columns that a transition may not change. -/
def OrderLeg.SameEconomics (leg durable : OrderLeg) : Prop :=
  leg.outcome = durable.outcome ∧ leg.tokenId = durable.tokenId ∧ leg.side = durable.side ∧
    leg.purpose = durable.purpose ∧ leg.liquidityRole = durable.liquidityRole ∧
    leg.postOnly = durable.postOnly ∧ leg.price = durable.price ∧ leg.size = durable.size ∧
    leg.filledSize = durable.filledSize ∧ leg.averageFillPrice = durable.averageFillPrice ∧
    leg.feePaidUsd = durable.feePaidUsd ∧ leg.createdAt = durable.createdAt

instance (leg durable : OrderLeg) : Decidable (leg.SameEconomics durable) :=
  inferInstanceAs (Decidable (_ ∧ _ ∧ _ ∧ _ ∧ _ ∧ _ ∧ _ ∧ _ ∧ _ ∧ _ ∧ _ ∧ _))

/-- The leg is one version ahead, or it is unchanged. -/
def OrderLeg.Follows (leg durable : OrderLeg) : Prop :=
  leg.version = durable.version + 1 ∨
    leg.version = durable.version ∧ leg.status = durable.status ∧
      leg.clobOrderId = durable.clobOrderId ∧ leg.deadlineAt = durable.deadlineAt

instance (leg durable : OrderLeg) : Decidable (leg.Follows durable) :=
  inferInstanceAs (Decidable (_ ∨ _ ∧ _ ∧ _ ∧ _))

/-- The durable leg after `on conflict (id) do update`. -/
def OrderLeg.transitioned (durable excluded : OrderLeg) (now : Instant) : OrderLeg :=
  { durable with
    status := excluded.status
    clobOrderId := excluded.clobOrderId
    deadlineAt := excluded.deadlineAt
    version := excluded.version
    updatedAt := now }

/-- One leg of a transition. -/
def transitionLeg (accountId : String) (groupId : UUID) (now : Instant) (db : Database)
    (leg : OrderLeg) : Except SqlError Database := do
  require (leg.groupId = groupId) (.raised "pair transition contains a foreign leg")
  let exists' := db.legs.any fun row =>
    row.leg.id = leg.id ∧ row.accountId = accountId ∧ row.leg.groupId = groupId
  require (exists' = true ∨ leg.Appendable)
    (.raised "only an unfilled planned hedge leg may be appended")
  let excluded : LegRow := ⟨accountId, leg.stored⟩
  require excluded.leg.RowCheck (.checkViolation "order_legs")
  match db.legs.find? fun row => row.leg.id = leg.id with
  | none => db.insertLeg excluded
  | some durable => do
      require (durable.accountId = accountId ∧ durable.leg.groupId = groupId ∧
          excluded.leg.SameEconomics durable.leg ∧ excluded.leg.Follows durable.leg)
        (.raised "pair leg scope or version conflict")
      db.updateLeg ⟨durable.accountId, durable.leg.transitioned excluded.leg now⟩

def commitPairGroupTransition (db : Database) (accountId : String) (expectedGroupVersion : Nat)
    (group : GroupPayload) (legs : List OrderLeg) (reason : String) (now : Instant) :
    Except SqlError (Bool × Database) := do
  require (1 ≤ expectedGroupVersion ∧ Text.btrim reason ≠ "")
    (.raised "invalid pair transition payload")
  require (group.accountId = accountId ∧ group.version = expectedGroupVersion + 1)
    (.raised "pair transition scope or version is invalid")
  match db.lockGroup accountId group.id expectedGroupVersion with
  | none => pure (false, db)
  | some before => do
      require (2 ≤ legs.length ∧ (legs.map OrderLeg.id).Nodup)
        (.raised "pair transition has missing or duplicate legs")
      let durable := db.groupLegs accountId before.id
      require (∀ row ∈ durable, row.id ∈ legs.map OrderLeg.id)
        (.raised "pair transition omitted a durable leg")
      let added := legs.filter fun leg => leg.id ∉ durable.map OrderLeg.id
      require (durable.length ≤ legs.length ∧ legs.length ≤ durable.length + 1 ∧ added.length ≤ 1)
        (.raised "pair transition may append at most one hedge and remove no legs")
      require (InventoryMatches group legs before.targetPairSize)
        (.raised "pair transition group inventory does not match its legs")
      let withGroup ← db.updateGroup before.id (before.updated group group.status group.version now)
      let withLegs ← legs.foldlM (transitionLeg accountId before.id now) withGroup
      require ((withLegs.groupLegs accountId before.id).length = legs.length)
        (.raised "pair transition did not preserve the complete leg set")
      pure (true, withLegs)

/-! ### `commit_pair_fill` -/

/-- `AtomicFillCommit`. -/
inductive AtomicFillCommit where
  | applied
  | duplicate
  | conflict
  deriving DecidableEq, Repr

/-- The event and the fill are the same in every column. -/
def EventRow.SameFill (event : EventRow) (fill : FillPayload) : Prop :=
  event.orderGroupId = fill.groupId ∧ event.orderLegId = fill.legId ∧ event.price = fill.price ∧
    event.size = fill.size ∧ event.feePaidPusd = fill.feePaidPusd ∧
    event.matchedAt = fill.matchedAt ∧ event.outcome = fill.outcome ∧ event.side = fill.side ∧
    event.liquidityRole = fill.liquidityRole

instance (event : EventRow) (fill : FillPayload) : Decidable (event.SameFill fill) :=
  inferInstanceAs (Decidable (_ ∧ _ ∧ _ ∧ _ ∧ _ ∧ _ ∧ _ ∧ _ ∧ _))

/-- `v_expected_leg_status`. -/
def expectedLegStatus (before : OrderLeg) (size : ℚ) : OrderLegStatus :=
  if before.filledSize + size = before.size then .filled
  else if before.status = .cancelled then .cancelled
  else if before.status = .cancelPending then .cancelPending
  else .partiallyFilled

/-- `v_nonterminal_hedges`. -/
def nonterminalHedges (legs : List OrderLeg) : Nat :=
  (legs.filter fun leg => leg.purpose = .imbalanceHedge ∧
    leg.status ∉ [OrderLegStatus.filled, .cancelled, .rejected, .failed]).length

/-- `v_expected_group_status`. -/
def expectedGroupStatus (before : OrderGroupStatus) (target : ℚ) (legs : List OrderLeg) :
    OrderGroupStatus :=
  let yes := bought .yes legs
  let no := bought .no legs
  if before = .frozen ∨ before = .failed then before
  else if before = .cancelling then .cancelling
  else if before = .hedging ∧ nonterminalHedges legs > 0 then .hedging
  else if before = .hedging then if min yes no > 0 ∧ yes = no then .paired else .frozen
  else if (before = .cancelled ∨ before = .paired) ∧ yes ≠ no then .frozen
  else if min yes no ≥ target ∧ yes = no then .paired
  else if yes ≠ no then .imbalanced
  else .working

/-- What a fill adds to a leg. -/
structure LegDelta (before after : OrderLeg) (fill : FillPayload) : Prop where
  group : after.groupId = before.groupId
  filled : after.filledSize = before.filledSize + fill.size
  fee : after.feePaidUsd = before.feePaidUsd + fill.feePaidPusd

/-- The average price of the leg after the fill. A missing average compares as
`null` and is not refused. -/
def AveragePrice (before after : OrderLeg) (fill : FillPayload) : Prop :=
  ∀ average ∈ after.averageFillPrice, average =
    (before.averageFillPrice.getD 0 * before.filledSize + fill.price * fill.size) /
      (before.filledSize + fill.size)

/-- The columns of the target leg that a fill may not change. -/
structure SameIdentity (before after : OrderLeg) : Prop where
  version : after.version = before.version + 1
  outcome : after.outcome = before.outcome
  tokenId : after.tokenId = before.tokenId
  side : after.side = before.side
  purpose : after.purpose = before.purpose
  liquidityRole : after.liquidityRole = before.liquidityRole
  postOnly : after.postOnly = before.postOnly
  price : after.price = before.price
  size : after.size = before.size
  clobOrderId : nullif after.clobOrderId = before.clobOrderId
  deadlineAt : after.deadlineAt = before.deadlineAt
  createdAt : after.createdAt = before.createdAt

instance (before after : OrderLeg) (fill : FillPayload) : Decidable (LegDelta before after fill) :=
  decidable_of_iff (after.groupId = before.groupId ∧
    after.filledSize = before.filledSize + fill.size ∧
    after.feePaidUsd = before.feePaidUsd + fill.feePaidPusd)
    ⟨fun ⟨a, b, c⟩ => ⟨a, b, c⟩, fun ⟨a, b, c⟩ => ⟨a, b, c⟩⟩

instance (before after : OrderLeg) (fill : FillPayload) :
    Decidable (AveragePrice before after fill) :=
  inferInstanceAs (Decidable (∀ average ∈ after.averageFillPrice, _))

instance (before after : OrderLeg) : Decidable (SameIdentity before after) :=
  decidable_of_iff (after.version = before.version + 1 ∧ after.outcome = before.outcome ∧
    after.tokenId = before.tokenId ∧ after.side = before.side ∧ after.purpose = before.purpose ∧
    after.liquidityRole = before.liquidityRole ∧ after.postOnly = before.postOnly ∧
    after.price = before.price ∧ after.size = before.size ∧
    nullif after.clobOrderId = before.clobOrderId ∧ after.deadlineAt = before.deadlineAt ∧
    after.createdAt = before.createdAt)
    ⟨fun ⟨a, b, c, d, e, f, g, h, i, j, k, l⟩ => ⟨a, b, c, d, e, f, g, h, i, j, k, l⟩,
      fun ⟨a, b, c, d, e, f, g, h, i, j, k, l⟩ => ⟨a, b, c, d, e, f, g, h, i, j, k, l⟩⟩

/-- The cost per share of a side. -/
def averageCost (size cost : ℚ) : ℚ :=
  if size > 0 then cost / size else 0

/-- The row with the derived columns of its sizes and costs. -/
def InventoryRow.derived (row : InventoryRow) : InventoryRow :=
  let paired := min row.yesSize row.noSize
  let directionalYes := max (row.yesSize - row.noSize) 0
  let directionalNo := max (row.noSize - row.yesSize) 0
  let yesAverage := averageCost row.yesSize row.yesCostPusd
  let noAverage := averageCost row.noSize row.noCostPusd
  { row with
    pairedSize := paired
    pairedCostPusd := paired * (yesAverage + noAverage)
    directionalYesSize := directionalYes
    directionalNoSize := directionalNo
    directionalCostPusd := directionalYes * yesAverage + directionalNo * noAverage
    version := row.version + 1 }

/-- The size and cost of one side after a fill, and what it realises. -/
def sideAfterFill (side : Side) (outcome : String) (size cost : ℚ) (fill : FillPayload) :
    Except SqlError (ℚ × ℚ × ℚ) :=
  match side with
  | .buy => .ok (size + fill.size, cost + fill.size * fill.price + fill.feePaidPusd, 0)
  | .sell => do
      require (fill.size ≤ size) (.raised s!"{outcome} sell fill exceeds pair inventory")
      let released := averageCost size cost * fill.size
      pure (size - fill.size, max 0 (cost - released),
        fill.size * fill.price - fill.feePaidPusd - released)

/-- The inventory row after a fill of the leg. -/
def inventoryAfterFill (row : InventoryRow) (leg : OrderLeg) (fill : FillPayload) :
    Except SqlError InventoryRow :=
  match leg.outcome with
  | .yes => do
      let (size, cost, gained) ← sideAfterFill leg.side "YES" row.yesSize row.yesCostPusd fill
      pure { row with
        yesSize := size, yesCostPusd := cost,
        realizedPnlPusd := row.realizedPnlPusd + gained }.derived
  | .no => do
      let (size, cost, gained) ← sideAfterFill leg.side "NO" row.noSize row.noCostPusd fill
      pure { row with
        noSize := size, noCostPusd := cost,
        realizedPnlPusd := row.realizedPnlPusd + gained }.derived

/-- The event row of a fill. -/
def fillEventRow (accountId tradeId : String) (group : GroupRow) (leg : OrderLeg)
    (fill : FillPayload) : EventRow :=
  ⟨accountId, group.tradingWalletId, group.marketId, group.id, leg.id, tradeId, leg.outcome,
    leg.side, leg.liquidityRole, fill.price, fill.size, fill.feePaidPusd, fill.matchedAt⟩

/-- A trade id that is bound already is a duplicate of the same fill, or raises. -/
def boundAnswer (db : Database) (event : EventRow) (fill : FillPayload) (message : String) :
    Except SqlError (AtomicFillCommit × Database) := do
  require (event.SameFill fill) (.raised message)
  pure (.duplicate, db)

/-- The checks of the payload against the locked group and the durable leg. -/
def checkFillPayload (db : Database) (accountId : String) (before : GroupRow)
    (legBefore : OrderLeg) (fill : FillPayload) (group : GroupPayload) (legs : List OrderLeg) :
    Except SqlError OrderLeg := do
  require (fill.outcome = legBefore.outcome ∧ fill.side = legBefore.side ∧
      fill.liquidityRole = legBefore.liquidityRole)
    (.raised "pair fill identity differs from its durable leg")
  require (legBefore.filledSize + fill.size ≤ legBefore.size)
    (.raised "pair fill exceeds remaining leg size")
  match legs.find? fun leg => leg.id = legBefore.id with
  | none => throw (.raised "pair fill state does not match the durable leg delta")
  | some target => do
      require (LegDelta legBefore target fill)
        (.raised "pair fill state does not match the durable leg delta")
      require (AveragePrice legBefore target fill)
        (.raised "pair fill average price is inconsistent")
      require (SameIdentity legBefore target)
        (.raised "pair fill attempted to mutate immutable leg identity")
      require (target.status = expectedLegStatus legBefore fill.size)
        (.raised "pair fill leg status is inconsistent with its durable state")
      let durable := db.groupLegs accountId before.id
      require (legs.length = durable.length ∧ (legs.map OrderLeg.id).Nodup)
        (.raised "pair fill must carry the complete unique leg set")
      require ((∀ row ∈ durable, row.id ∈ legs.map OrderLeg.id) ∧
          ∀ leg ∈ legs, leg.id ∈ durable.map OrderLeg.id)
        (.raised "pair fill leg UUID set differs from durable state")
      require (∀ leg ∈ legs, leg.id ≠ legBefore.id → leg.stored ∈ durable)
        (.raised "pair fill attempted to mutate a non-target leg")
      require (InventoryMatches group legs before.targetPairSize)
        (.raised "pair fill group inventory does not match its legs")
      require (group.status = expectedGroupStatus before.status before.targetPairSize legs)
        (.raised "pair fill group status is inconsistent with its durable phase")
      pure target

/-- The durable target leg after the fill. -/
def OrderLeg.filledRow (before target : OrderLeg) (fill : FillPayload) (now : Instant) : OrderLeg :=
  { before with
    filledSize := target.filledSize
    averageFillPrice := target.averageFillPrice
    feePaidUsd := target.feePaidUsd
    status := expectedLegStatus before fill.size
    version := before.version + 1
    updatedAt := now }

def commitPairFill (db : Database) (accountId : String) (expectedGroupVersion : Nat)
    (fill : FillPayload) (group : GroupPayload) (legs : List OrderLeg) (now : Instant) :
    Except SqlError (AtomicFillCommit × Database) := do
  require (1 ≤ expectedGroupVersion ∧ group.accountId = accountId ∧ fill.groupId = group.id)
    (.raised "invalid pair fill payload")
  let tradeId := Text.btrim fill.clobTradeId
  require (tradeId ≠ "" ∧ 0 < fill.size ∧ (0 < fill.price ∧ fill.price < 1) ∧
      0 ≤ fill.feePaidPusd ∧ group.version = expectedGroupVersion + 1)
    (.raised "pair fill economics or version are invalid")
  match db.event? accountId tradeId with
  | some event =>
      boundAnswer db event fill "clob trade id is bound to different fill economics"
  | none =>
      match db.lockGroup accountId fill.groupId expectedGroupVersion with
      -- The second lookup of the source sees the same events in one transaction.
      | none => pure (.conflict, db)
      | some before =>
          match (db.groupLegs accountId before.id).find? fun leg => leg.id = fill.legId with
          | none => throw (.raised "pair fill refers to an unknown tenant leg")
          | some legBefore => do
              let target ← checkFillPayload db accountId before legBefore fill group legs
              let withEvent ← db.insertEvent (fillEventRow accountId tradeId before legBefore fill)
              let withGroup ← withEvent.updateGroup before.id (before.updated group
                (expectedGroupStatus before.status before.targetPairSize legs)
                (expectedGroupVersion + 1) now)
              let withLeg ← withGroup.updateLeg
                ⟨accountId, legBefore.filledRow target fill now⟩
              let inventory ← inventoryAfterFill
                (db.inventoryRow accountId before.tradingWalletId before.marketId) legBefore fill
              let withInventory ← withLeg.putInventory inventory
              pure (.applied, withInventory)

end Polybot
