import Polybot.Collections.Table
import Polybot.Collections.Text
import Polybot.Models
import Polybot.Collections.Checked

/-!
The pair tables (`0008_order_groups_pair_inventory.sql`).

A database is the rows of the four tables. Column types and the `in (...)`
constraints on statuses and sides are the types of the fields; the other CHECK
constraints are the `Check` of a row. `Database` operations are the single SQL
statements that the transactional functions execute: they check the constraints
and the unique indexes, and the `updated_at` triggers set the instant of the
transaction.
-/

namespace Polybot

/-- What a statement or a `raise exception` reports. -/
inductive SqlError where
  | raised (message : String)
  | checkViolation (table : String)
  | uniqueViolation (index : String)
  deriving DecidableEq, Repr

/-- A row of `order_groups`. -/
structure GroupRow where
  id : UUID
  accountId : String
  tradingWalletId : String
  marketId : String
  strategy : String
  targetPairSize : ℚ
  pairedSize : ℚ
  directionalYesSize : ℚ
  directionalNoSize : ℚ
  expectedNetEdgePusd : ℚ
  legDeadlineAt : Instant
  status : OrderGroupStatus
  researchOnly : Bool
  executionEnabled : Bool
  version : Nat
  createdAt : Instant
  updatedAt : Instant
  deriving DecidableEq

/-- The CHECK constraints of `order_groups`. -/
structure GroupRow.Check (row : GroupRow) : Prop where
  strategy : Text.btrim row.strategy ≠ ""
  target : 0 < row.targetPairSize
  paired : 0 ≤ row.pairedSize ∧ row.pairedSize ≤ row.targetPairSize
  directional : 0 ≤ row.directionalYesSize ∧ 0 ≤ row.directionalNoSize
  oneSided : ¬ (0 < row.directionalYesSize ∧ 0 < row.directionalNoSize)
  version : 0 < row.version
  research : ¬ (row.executionEnabled = true ∧ row.researchOnly = true)

instance (row : GroupRow) : Decidable row.Check :=
  decidable_of_iff (Text.btrim row.strategy ≠ "" ∧ 0 < row.targetPairSize ∧
    (0 ≤ row.pairedSize ∧ row.pairedSize ≤ row.targetPairSize) ∧
    (0 ≤ row.directionalYesSize ∧ 0 ≤ row.directionalNoSize) ∧
    ¬ (0 < row.directionalYesSize ∧ 0 < row.directionalNoSize) ∧ 0 < row.version ∧
    ¬ (row.executionEnabled = true ∧ row.researchOnly = true))
    ⟨fun ⟨a, b, c, d, e, f, g⟩ => ⟨a, b, c, d, e, f, g⟩,
      fun ⟨a, b, c, d, e, f, g⟩ => ⟨a, b, c, d, e, f, g⟩⟩

/-- A row of `order_legs`: an account and the columns of an `OrderLeg`. -/
structure LegRow where
  accountId : String
  leg : OrderLeg
  deriving DecidableEq

/-- The primary key of a leg row. -/
def LegRow.id (row : LegRow) : UUID :=
  row.leg.id

/-- The CHECK constraints of `order_legs`. -/
structure OrderLeg.RowCheck (leg : OrderLeg) : Prop where
  role : leg.liquidityRole = .maker ∧ leg.postOnly = true ∨
    leg.liquidityRole = .taker ∧ leg.postOnly = false
  price : 0 < leg.price ∧ leg.price < 1
  size : 0 < leg.size
  filled : 0 ≤ leg.filledSize ∧ leg.filledSize ≤ leg.size
  fee : 0 ≤ leg.feePaidUsd
  average : leg.filledSize = 0 ∧ leg.averageFillPrice = none ∨
    0 < leg.filledSize ∧ ∀ average ∈ leg.averageFillPrice, 0 < average ∧ average < 1
  version : 0 < leg.version

instance (leg : OrderLeg) : Decidable leg.RowCheck :=
  decidable_of_iff ((leg.liquidityRole = .maker ∧ leg.postOnly = true ∨
      leg.liquidityRole = .taker ∧ leg.postOnly = false) ∧
    (0 < leg.price ∧ leg.price < 1) ∧ 0 < leg.size ∧
    (0 ≤ leg.filledSize ∧ leg.filledSize ≤ leg.size) ∧ 0 ≤ leg.feePaidUsd ∧
    (leg.filledSize = 0 ∧ leg.averageFillPrice = none ∨
      0 < leg.filledSize ∧ ∀ average ∈ leg.averageFillPrice, 0 < average ∧ average < 1) ∧
    0 < leg.version)
    ⟨fun ⟨a, b, c, d, e, f, g⟩ => ⟨a, b, c, d, e, f, g⟩,
      fun ⟨a, b, c, d, e, f, g⟩ => ⟨a, b, c, d, e, f, g⟩⟩

/-- A row of `pair_inventory_events`. -/
structure EventRow where
  accountId : String
  tradingWalletId : String
  marketId : String
  orderGroupId : UUID
  orderLegId : UUID
  clobTradeId : String
  outcome : Outcome
  side : Side
  liquidityRole : LiquidityRole
  price : ℚ
  size : ℚ
  feePaidPusd : ℚ
  matchedAt : Instant
  deriving DecidableEq

/-- The CHECK constraints of `pair_inventory_events`. -/
def EventRow.Check (row : EventRow) : Prop :=
  Text.btrim row.clobTradeId ≠ "" ∧ (0 < row.price ∧ row.price < 1) ∧ 0 < row.size ∧
    0 ≤ row.feePaidPusd

instance (row : EventRow) : Decidable row.Check :=
  inferInstanceAs (Decidable (_ ∧ _ ∧ _ ∧ _))

/-- A row of `pair_inventory`. -/
structure InventoryRow where
  accountId : String
  tradingWalletId : String
  marketId : String
  yesSize : ℚ
  noSize : ℚ
  yesCostPusd : ℚ
  noCostPusd : ℚ
  pairedSize : ℚ
  pairedCostPusd : ℚ
  directionalYesSize : ℚ
  directionalNoSize : ℚ
  directionalCostPusd : ℚ
  realizedPnlPusd : ℚ
  version : Nat
  deriving DecidableEq

/-- The CHECK constraint of `pair_inventory`. -/
structure InventoryRow.Check (row : InventoryRow) : Prop where
  sizes : 0 ≤ row.yesSize ∧ 0 ≤ row.noSize
  costs : 0 ≤ row.yesCostPusd ∧ 0 ≤ row.noCostPusd
  paired : 0 ≤ row.pairedSize ∧ row.pairedSize = min row.yesSize row.noSize
  pairedCost : 0 ≤ row.pairedCostPusd
  directionalYes : row.directionalYesSize = max (row.yesSize - row.noSize) 0
  directionalNo : row.directionalNoSize = max (row.noSize - row.yesSize) 0
  directionalCost : 0 ≤ row.directionalCostPusd
  version : 0 < row.version

instance (row : InventoryRow) : Decidable row.Check :=
  decidable_of_iff ((0 ≤ row.yesSize ∧ 0 ≤ row.noSize) ∧
    (0 ≤ row.yesCostPusd ∧ 0 ≤ row.noCostPusd) ∧
    (0 ≤ row.pairedSize ∧ row.pairedSize = min row.yesSize row.noSize) ∧
    0 ≤ row.pairedCostPusd ∧ row.directionalYesSize = max (row.yesSize - row.noSize) 0 ∧
    row.directionalNoSize = max (row.noSize - row.yesSize) 0 ∧ 0 ≤ row.directionalCostPusd ∧
    0 < row.version)
    ⟨fun ⟨a, b, c, d, e, f, g, h⟩ => ⟨a, b, c, d, e, f, g, h⟩,
      fun ⟨a, b, c, d, e, f, g, h⟩ => ⟨a, b, c, d, e, f, g, h⟩⟩

/-- The four pair tables. -/
structure Database where
  groups : List GroupRow
  legs : List LegRow
  events : List EventRow
  inventory : List InventoryRow
  deriving DecidableEq

namespace Database

def empty : Database :=
  ⟨[], [], [], []⟩

/-! ### Queries -/

/-- The group row of the account. -/
def group? (db : Database) (accountId : String) (groupId : UUID) : Option GroupRow :=
  db.groups.find? fun row => row.accountId = accountId ∧ row.id = groupId

/-- The leg rows of the account's group. -/
def groupLegs (db : Database) (accountId : String) (groupId : UUID) : List OrderLeg :=
  (db.legs.filter fun row => row.accountId = accountId ∧ row.leg.groupId = groupId).map LegRow.leg

/-- The fill events of the account's group. -/
def groupEvents (db : Database) (accountId : String) (groupId : UUID) : List EventRow :=
  db.events.filter fun row => row.accountId = accountId ∧ row.orderGroupId = groupId

/-- The event that the account's trade id is bound to. -/
def event? (db : Database) (accountId tradeId : String) : Option EventRow :=
  db.events.find? fun row => row.accountId = accountId ∧ row.clobTradeId = tradeId

/-- The research-only group row at the expected version, `for update`. -/
def lockGroup (db : Database) (accountId : String) (groupId : UUID) (version : Nat) :
    Option GroupRow :=
  db.groups.find? fun row => row.accountId = accountId ∧ row.id = groupId ∧
    row.version = version ∧ row.researchOnly = true ∧ row.executionEnabled = false

/-! ### Statements -/

/-- `insert into order_groups ... on conflict (id) do nothing`, with the number
of rows inserted. -/
def insertGroup (db : Database) (row : GroupRow) : Except SqlError (Bool × Database) := do
  Checked.require row.Check (.checkViolation "order_groups")
  if db.groups.any fun other => other.id = row.id then pure (false, db)
  else pure (true, { db with groups := db.groups ++ [row] })

/-- `update order_groups ... where id = ...`. -/
def updateGroup (db : Database) (groupId : UUID) (row : GroupRow) : Except SqlError Database := do
  Checked.require row.Check (.checkViolation "order_groups")
  pure { db with groups := Table.replace GroupRow.id db.groups groupId row }

/-- No other leg of the account has the order id. -/
def ClobOrderFree (db : Database) (row : LegRow) : Prop :=
  row.leg.clobOrderId = none ∨ ∀ other ∈ db.legs, other.leg.id ≠ row.leg.id →
    other.accountId = row.accountId → other.leg.clobOrderId ≠ row.leg.clobOrderId

instance (db : Database) (row : LegRow) : Decidable (db.ClobOrderFree row) :=
  inferInstanceAs (Decidable (_ ∨ _))

/-- `insert into order_legs`. -/
def insertLeg (db : Database) (row : LegRow) : Except SqlError Database := do
  Checked.require row.leg.RowCheck (.checkViolation "order_legs")
  Checked.require (∀ other ∈ db.legs, other.leg.id ≠ row.leg.id)
    (.uniqueViolation "order_legs_pkey")
  Checked.require (db.ClobOrderFree row) (.uniqueViolation "order_legs_clob_order_uidx")
  pure { db with legs := db.legs ++ [row] }

/-- `update order_legs ... where id = ...`. -/
def updateLeg (db : Database) (row : LegRow) : Except SqlError Database := do
  Checked.require row.leg.RowCheck (.checkViolation "order_legs")
  Checked.require (db.ClobOrderFree row) (.uniqueViolation "order_legs_clob_order_uidx")
  pure { db with legs := Table.replace LegRow.id db.legs row.id row }

/-- `insert into pair_inventory_events`. -/
def insertEvent (db : Database) (row : EventRow) : Except SqlError Database := do
  Checked.require row.Check (.checkViolation "pair_inventory_events")
  pure { db with events := db.events ++ [row] }

/-- The inventory row of a wallet and market, inserted with its defaults where it
is missing. -/
def inventoryRow (db : Database) (accountId walletId marketId : String) : InventoryRow :=
  (db.inventory.find? fun row => row.accountId = accountId ∧ row.tradingWalletId = walletId ∧
    row.marketId = marketId).getD
    ⟨accountId, walletId, marketId, 0, 0, 0, 0, 0, 0, 0, 0, 0, 0, 1⟩

/-- Store the inventory row of its wallet and market. -/
def putInventory (db : Database) (row : InventoryRow) : Except SqlError Database := do
  Checked.require row.Check (.checkViolation "pair_inventory")
  let others := db.inventory.filter fun other => ¬ (other.accountId = row.accountId ∧
    other.tradingWalletId = row.tradingWalletId ∧ other.marketId = row.marketId)
  pure { db with inventory := others ++ [row] }

end Database

end Polybot
