import Mathlib.Algebra.Order.Field.Rat
import Mathlib.Algebra.Order.Ring.Star
import Mathlib.Data.Rat.Star
import Mathlib.Tactic.Linarith

/-!
The data model of the pair lifecycle (`polybot/models.py`).

Sizes, prices and fees are `Decimal` in the source and rationals here. An
instance that pydantic has validated is a value together with a proof of
`Valid`; `model_copy` bypasses the validators, so the records themselves carry
no such proof, and `OrderPlan`, which is only ever built by its constructor,
does.
-/

namespace Polybot

/-- Primary keys. -/
abbrev UUID := Nat

/-- Instants, in microseconds. -/
abbrev Instant := Int

/-- Durations, in microseconds. -/
abbrev Duration := Int

/-- Python's truth value of an optional text: neither `None` nor empty. -/
def truthy : Option String → Bool
  | none => false
  | some text => text ≠ ""

theorem truthy_iff {text : Option String} : truthy text = true ↔ ∃ t, text = some t ∧ t ≠ "" := by
  cases text <;> simp [truthy]

inductive Side where
  | buy
  | sell
  deriving DecidableEq, Repr

inductive Outcome where
  | yes
  | no
  deriving DecidableEq, Repr

inductive LiquidityRole where
  | maker
  | taker
  deriving DecidableEq, Repr

inductive OrderLegPurpose where
  | pairEntry
  | imbalanceHedge
  | directionalOverlay
  deriving DecidableEq, Repr

inductive OrderLegStatus where
  | planned
  | submitting
  | «open»
  | partiallyFilled
  | filled
  | cancelPending
  | cancelled
  | rejected
  | failed
  deriving DecidableEq, Repr

inductive OrderGroupStatus where
  | planned
  | submitting
  | working
  | imbalanced
  | cancelling
  | hedging
  | paired
  | cancelled
  | frozen
  | failed
  deriving DecidableEq, Repr

inductive TradingMode where
  | paper
  | shadow
  | canary
  | live
  deriving DecidableEq, Repr

inductive ExecutionStatus where
  | paperFilled
  | shadowed
  | accepted
  | rejected
  | duplicate
  | cancelled
  | error
  deriving DecidableEq, Repr

/-- A pydantic validation failure: a field outside its bounds, or the message of
a model validator. -/
inductive ValidationError where
  | field (name : String)
  | value (message : String)
  deriving DecidableEq, Repr

/-! ### Legs -/

/-- Durable leg state for a non-atomic pair order group. -/
structure OrderLeg where
  id : UUID
  groupId : UUID
  outcome : Outcome
  tokenId : String
  side : Side
  purpose : OrderLegPurpose
  liquidityRole : LiquidityRole
  postOnly : Bool
  price : ℚ
  size : ℚ
  filledSize : ℚ
  averageFillPrice : Option ℚ
  feePaidUsd : ℚ
  status : OrderLegStatus
  clobOrderId : Option String
  deadlineAt : Instant
  version : Nat
  createdAt : Instant
  updatedAt : Instant
  deriving DecidableEq

/-- `TERMINAL_ORDER_LEG_STATUSES`. -/
def terminalOrderLegStatuses : List OrderLegStatus :=
  [.filled, .cancelled, .rejected, .failed]

namespace OrderLeg

def remainingSize (leg : OrderLeg) : ℚ :=
  max 0 (leg.size - leg.filledSize)

def isTerminal (leg : OrderLeg) : Bool :=
  leg.status ∈ terminalOrderLegStatuses

/-- The first declared field bound that `leg` breaks. -/
def fieldError (leg : OrderLeg) : Option String :=
  if leg.tokenId = "" then some "token_id"
  else if ¬ (0 < leg.price ∧ leg.price < 1) then some "price"
  else if ¬ 0 < leg.size then some "size"
  else if ¬ 0 ≤ leg.filledSize then some "filled_size"
  else if ¬ (∀ average ∈ leg.averageFillPrice, 0 < average ∧ average < 1) then
    some "average_fill_price"
  else if ¬ 0 ≤ leg.feePaidUsd then some "fee_paid_usd"
  else if ¬ 1 ≤ leg.version then some "version"
  else none

/-- `OrderLeg.validate_execution_shape`. -/
def validateExecutionShape (leg : OrderLeg) : Except ValidationError OrderLeg :=
  if leg.filledSize > leg.size then
    .error (.value "filled_size cannot exceed order leg size")
  else if leg.filledSize > 0 ∧ leg.averageFillPrice = none then
    .error (.value "filled legs require an average fill price")
  else if leg.filledSize = 0 ∧ leg.averageFillPrice ≠ none then
    .error (.value "unfilled legs cannot have an average fill price")
  else if leg.liquidityRole = .maker ∧ leg.postOnly = false then
    .error (.value "maker legs must be post-only")
  else if leg.liquidityRole = .taker ∧ leg.postOnly = true then
    .error (.value "taker legs cannot be post-only")
  else if leg.status = .filled ∧ leg.filledSize ≠ leg.size then
    .error (.value "filled status requires the full leg size")
  else if (leg.status = .open ∨ leg.status = .partiallyFilled) ∧ truthy leg.clobOrderId = false then
    .error (.value "working order legs require a CLOB order id")
  else .ok leg

/-- `OrderLeg.model_validate`: field bounds, then the model validator. -/
def modelValidate (leg : OrderLeg) : Except ValidationError OrderLeg :=
  match leg.fieldError with
  | some name => .error (.field name)
  | none => leg.validateExecutionShape

/-- The field bounds of a leg. -/
structure FieldsValid (leg : OrderLeg) : Prop where
  token : leg.tokenId ≠ ""
  price : 0 < leg.price ∧ leg.price < 1
  size : 0 < leg.size
  filled : 0 ≤ leg.filledSize
  average : ∀ average ∈ leg.averageFillPrice, 0 < average ∧ average < 1
  fee : 0 ≤ leg.feePaidUsd
  version : 1 ≤ leg.version

/-- What `validate_execution_shape` accepts. -/
structure ExecutionShape (leg : OrderLeg) : Prop where
  within : leg.filledSize ≤ leg.size
  priced : 0 < leg.filledSize → leg.averageFillPrice ≠ none
  unpriced : leg.filledSize = 0 → leg.averageFillPrice = none
  maker : leg.liquidityRole = .maker → leg.postOnly = true
  taker : leg.liquidityRole = .taker → leg.postOnly = false
  full : leg.status = .filled → leg.filledSize = leg.size
  working : leg.status = .open ∨ leg.status = .partiallyFilled → truthy leg.clobOrderId = true

/-- A leg pydantic accepts. -/
structure Valid (leg : OrderLeg) : Prop where
  fields : leg.FieldsValid
  shape : leg.ExecutionShape

theorem validateExecutionShape_ok_iff {leg result : OrderLeg} :
    leg.validateExecutionShape = .ok result ↔ leg.ExecutionShape ∧ result = leg := by
  constructor
  · intro accepted
    unfold validateExecutionShape at accepted
    repeat' split at accepted
    all_goals first | (cases accepted; done) | skip
    cases accepted
    refine ⟨⟨?_, ?_, ?_, ?_, ?_, ?_, ?_⟩, rfl⟩ <;> simp_all
  · rintro ⟨shape, rfl⟩
    have within := not_lt.mpr shape.within
    unfold validateExecutionShape
    rw [if_neg within, if_neg (fun h => shape.priced h.1 h.2), if_neg (fun h => h.2 (shape.unpriced h.1)),
      if_neg (fun h => by simp [shape.maker h.1] at h), if_neg (fun h => by simp [shape.taker h.1] at h),
      if_neg (fun h => h.2 (shape.full h.1)), if_neg (fun h => by simp [shape.working h.1] at h)]

theorem fieldError_none_iff {leg : OrderLeg} : leg.fieldError = none ↔ leg.FieldsValid := by
  constructor
  · intro clean
    unfold fieldError at clean
    repeat' split at clean
    all_goals first | (cases clean; done) | skip
    constructor <;> simp_all
    omega
  · intro fields
    unfold fieldError
    rw [if_neg fields.token, if_neg (not_not.mpr fields.price), if_neg (not_not.mpr fields.size),
      if_neg (not_not.mpr fields.filled), if_neg (not_not.mpr fields.average),
      if_neg (not_not.mpr fields.fee), if_neg (not_not.mpr fields.version)]

/-- `model_validate` returns exactly the valid legs, unchanged. -/
theorem modelValidate_ok_iff {leg result : OrderLeg} :
    leg.modelValidate = .ok result ↔ leg.Valid ∧ result = leg := by
  unfold modelValidate
  cases broken : leg.fieldError with
  | some name =>
      constructor
      · intro accepted
        cases accepted
      · rintro ⟨valid, -⟩
        rw [fieldError_none_iff.mpr valid.fields] at broken
        cases broken
  | none =>
      rw [validateExecutionShape_ok_iff]
      exact ⟨fun h => ⟨⟨fieldError_none_iff.mp broken, h.1⟩, h.2⟩, fun h => ⟨h.1.shape, h.2⟩⟩

end OrderLeg

/-! ### Groups -/

/-- Durable group state; two CLOB orders are never assumed to be atomic. -/
structure OrderGroup where
  id : UUID
  accountId : String
  tradingWalletId : Option String
  marketId : String
  conditionId : Option String
  strategy : String
  targetPairSize : ℚ
  pairedSize : ℚ
  directionalYesSize : ℚ
  directionalNoSize : ℚ
  expectedNetEdgeUsd : ℚ
  legDeadlineAt : Instant
  status : OrderGroupStatus
  researchOnly : Bool
  version : Nat
  createdAt : Instant
  updatedAt : Instant
  deriving DecidableEq

namespace OrderGroup

/-- The first declared field bound that `group` breaks. -/
def fieldError (group : OrderGroup) : Option String :=
  if group.accountId = "" then some "account_id"
  else if group.marketId = "" then some "market_id"
  else if ¬ 0 < group.targetPairSize then some "target_pair_size"
  else if ¬ 0 ≤ group.pairedSize then some "paired_size"
  else if ¬ 0 ≤ group.directionalYesSize then some "directional_yes_size"
  else if ¬ 0 ≤ group.directionalNoSize then some "directional_no_size"
  else if ¬ 1 ≤ group.version then some "version"
  else none

/-- `OrderGroup.validate_inventory_shape`. -/
def validateInventoryShape (group : OrderGroup) : Except ValidationError OrderGroup :=
  if group.directionalYesSize > 0 ∧ group.directionalNoSize > 0 then
    .error (.value "directional inventory cannot point both YES and NO")
  else if group.pairedSize > group.targetPairSize then
    .error (.value "paired_size cannot exceed target_pair_size")
  else .ok group

/-- `OrderGroup.model_validate`: field bounds, then the model validator. -/
def modelValidate (group : OrderGroup) : Except ValidationError OrderGroup :=
  match group.fieldError with
  | some name => .error (.field name)
  | none => group.validateInventoryShape

/-- The field bounds of a group. -/
structure FieldsValid (group : OrderGroup) : Prop where
  account : group.accountId ≠ ""
  market : group.marketId ≠ ""
  target : 0 < group.targetPairSize
  paired : 0 ≤ group.pairedSize
  directionalYes : 0 ≤ group.directionalYesSize
  directionalNo : 0 ≤ group.directionalNoSize
  version : 1 ≤ group.version

/-- What `validate_inventory_shape` accepts. -/
structure InventoryShape (group : OrderGroup) : Prop where
  oneSided : ¬ (0 < group.directionalYesSize ∧ 0 < group.directionalNoSize)
  capped : group.pairedSize ≤ group.targetPairSize

/-- A group pydantic accepts. -/
structure Valid (group : OrderGroup) : Prop where
  fields : group.FieldsValid
  shape : group.InventoryShape

theorem validateInventoryShape_ok_iff {group result : OrderGroup} :
    group.validateInventoryShape = .ok result ↔ group.InventoryShape ∧ result = group := by
  constructor
  · intro accepted
    unfold validateInventoryShape at accepted
    repeat' split at accepted
    all_goals first | (cases accepted; done) | skip
    rename_i oneSided capped
    cases accepted
    exact ⟨⟨oneSided, not_lt.mp capped⟩, rfl⟩
  · rintro ⟨shape, rfl⟩
    unfold validateInventoryShape
    rw [if_neg shape.oneSided, if_neg (not_lt.mpr shape.capped)]

theorem fieldError_none_iff {group : OrderGroup} :
    group.fieldError = none ↔ group.FieldsValid := by
  constructor
  · intro clean
    unfold fieldError at clean
    repeat' split at clean
    all_goals first | (cases clean; done) | skip
    constructor <;> simp_all
    omega
  · intro fields
    unfold fieldError
    rw [if_neg fields.account, if_neg fields.market, if_neg (not_not.mpr fields.target),
      if_neg (not_not.mpr fields.paired), if_neg (not_not.mpr fields.directionalYes),
      if_neg (not_not.mpr fields.directionalNo), if_neg (not_not.mpr fields.version)]

/-- `model_validate` returns exactly the valid groups, unchanged. -/
theorem modelValidate_ok_iff {group result : OrderGroup} :
    group.modelValidate = .ok result ↔ group.Valid ∧ result = group := by
  unfold modelValidate
  cases broken : group.fieldError with
  | some name =>
      constructor
      · intro accepted
        cases accepted
      · rintro ⟨valid, -⟩
        rw [fieldError_none_iff.mpr valid.fields] at broken
        cases broken
  | none =>
      rw [validateInventoryShape_ok_iff]
      exact ⟨fun h => ⟨⟨fieldError_none_iff.mp broken, h.1⟩, h.2⟩, fun h => ⟨h.1.shape, h.2⟩⟩

end OrderGroup

/-! ### Plans -/

/-- A research plan, produced before any durable or exchange-side mutation. The
proof fields are the validators of the group, of the legs and of the plan. -/
structure OrderPlan where
  group : OrderGroup
  first : OrderLeg
  second : OrderLeg
  enabled : Bool
  researchOnly : Bool
  group_valid : group.Valid
  first_valid : first.Valid
  second_valid : second.Valid
  first_member : first.groupId = group.id
  second_member : second.groupId = group.id
  outcomes : first.outcome ≠ second.outcome
  sizes : first.size = second.size ∧ first.size = group.targetPairSize
  purposes : first.purpose = .pairEntry ∧ second.purpose = .pairEntry
  research : group.researchOnly = researchOnly

namespace OrderPlan

def legs (plan : OrderPlan) : List OrderLeg :=
  [plan.first, plan.second]

theorem mem_legs (plan : OrderPlan) {leg : OrderLeg} :
    leg ∈ plan.legs ↔ leg = plan.first ∨ leg = plan.second := by
  simp [legs]

theorem legs_valid (plan : OrderPlan) {leg : OrderLeg} (member : leg ∈ plan.legs) : leg.Valid := by
  rcases plan.mem_legs.mp member with rfl | rfl
  · exact plan.first_valid
  · exact plan.second_valid

theorem legs_member (plan : OrderPlan) {leg : OrderLeg} (member : leg ∈ plan.legs) :
    leg.groupId = plan.group.id := by
  rcases plan.mem_legs.mp member with rfl | rfl
  · exact plan.first_member
  · exact plan.second_member

/-- A plan as `PairPricer.build_plan` returns it: the group and the legs keep
the field defaults, so nothing is filled, paid, paired or under way. -/
structure Unfilled (plan : OrderPlan) : Prop where
  status : plan.group.status = .planned
  paired : plan.group.pairedSize = 0
  directionalYes : plan.group.directionalYesSize = 0
  directionalNo : plan.group.directionalNoSize = 0
  filled : ∀ leg ∈ plan.legs, leg.filledSize = 0
  fee : ∀ leg ∈ plan.legs, leg.feePaidUsd = 0

/-- Both legs of the plan buy. -/
def BuyOnly (plan : OrderPlan) : Prop :=
  ∀ leg ∈ plan.legs, leg.side = .buy

end OrderPlan

/-- A maker leg of `researchPlan`. -/
def researchLeg (id : UUID) (outcome : Outcome) (tokenId : String) (price : ℚ) : OrderLeg where
  id := id
  groupId := 1
  outcome := outcome
  tokenId := tokenId
  side := .buy
  purpose := .pairEntry
  liquidityRole := .maker
  postOnly := true
  price := price
  size := 3
  filledSize := 0
  averageFillPrice := none
  feePaidUsd := 0
  status := .planned
  clobOrderId := none
  deadlineAt := 2000000
  version := 1
  createdAt := 0
  updatedAt := 0

theorem researchLeg_valid (id : UUID) (outcome : Outcome) {tokenId : String} {price : ℚ}
    (token : tokenId ≠ "") (bounds : 0 < price ∧ price < 1) :
    (researchLeg id outcome tokenId price).Valid :=
  ⟨⟨token, bounds, by norm_num [researchLeg], le_rfl, by simp [researchLeg], le_rfl, le_rfl⟩,
    ⟨by norm_num [researchLeg], by simp [researchLeg], by simp [researchLeg], by simp [researchLeg],
      by simp [researchLeg], by simp [researchLeg], by simp [researchLeg]⟩⟩

/-- The plan of the coordinator's tests: three YES at 0.45 and three NO at 0.49,
with a deadline two seconds after the plan is made. -/
def researchPlan : OrderPlan where
  group :=
    { id := 1, accountId := "account", tradingWalletId := some "wallet", marketId := "market",
      conditionId := none, strategy := "pair_accumulator_v1", targetPairSize := 3, pairedSize := 0,
      directionalYesSize := 0, directionalNoSize := 0, expectedNetEdgeUsd := 3 / 20,
      legDeadlineAt := 2000000, status := .planned, researchOnly := true, version := 1,
      createdAt := 0, updatedAt := 0 }
  first := researchLeg 11 .yes "yes" (9 / 20)
  second := researchLeg 12 .no "no" (49 / 100)
  enabled := true
  researchOnly := true
  group_valid := ⟨⟨by simp, by simp, by norm_num, le_rfl, le_rfl, le_rfl, le_rfl⟩,
    ⟨by norm_num, by norm_num⟩⟩
  first_valid := researchLeg_valid _ _ (by simp) (by norm_num)
  second_valid := researchLeg_valid _ _ (by simp) (by norm_num)
  first_member := rfl
  second_member := rfl
  outcomes := by simp [researchLeg]
  sizes := ⟨rfl, rfl⟩
  purposes := ⟨rfl, rfl⟩
  research := rfl

theorem researchPlan_unfilled : researchPlan.Unfilled where
  status := rfl
  paired := rfl
  directionalYes := rfl
  directionalNo := rfl
  filled leg member := by
    rcases researchPlan.mem_legs.mp member with rfl | rfl <;> rfl
  fee leg member := by
    rcases researchPlan.mem_legs.mp member with rfl | rfl <;> rfl

/-! ### Books, intents and execution results -/

structure BookLevel where
  price : ℚ
  size : ℚ
  deriving DecidableEq

structure OrderBookSnapshot where
  tokenId : String
  marketId : String
  bids : List BookLevel
  asks : List BookLevel
  deriving DecidableEq

/-- `max((level.price for level in self.bids), default=None)`. -/
def OrderBookSnapshot.bestBid (book : OrderBookSnapshot) : Option ℚ :=
  (book.bids.map BookLevel.price).max?

/-- `min((level.price for level in self.asks), default=None)`. -/
def OrderBookSnapshot.bestAsk (book : OrderBookSnapshot) : Option ℚ :=
  (book.asks.map BookLevel.price).min?

/-- The fields of a trade intent that the pair coordinator reads. -/
structure TradeIntent where
  intentHash : String
  accountId : String
  mode : TradingMode
  marketId : String
  tokenId : String
  outcome : Outcome
  side : Side
  price : ℚ
  size : ℚ
  strategy : String
  postOnly : Bool
  deriving DecidableEq

structure ExecutionResult where
  intentHash : String
  status : ExecutionStatus
  orderId : Option String
  filledSize : ℚ
  averagePrice : Option ℚ
  message : String
  deriving DecidableEq

/-! ### Numbers of concrete orders -/

namespace Literal

theorem zero_nonneg : (0 : ℚ) ≤ 0 :=
  le_rfl

theorem one_pos : (0 : ℚ) < 1 := by
  norm_num

theorem two_pos : (0 : ℚ) < 2 := by
  norm_num

theorem three_pos : (0 : ℚ) < 3 := by
  norm_num

theorem four_pos : (0 : ℚ) < 4 := by
  norm_num

theorem five_pos : (0 : ℚ) < 5 := by
  norm_num

theorem six_pos : (0 : ℚ) < 6 := by
  norm_num

theorem ten_pos : (0 : ℚ) < 10 := by
  norm_num

theorem half_pos : (0 : ℚ) < 1 / 2 := by
  norm_num

theorem half_lt_one : (1 : ℚ) / 2 < 1 := by
  norm_num

theorem half_bounds : (0 : ℚ) < 1 / 2 ∧ (1 : ℚ) / 2 < 1 :=
  ⟨half_pos, half_lt_one⟩

theorem hundredth_pos : (0 : ℚ) < 1 / 100 := by
  norm_num

end Literal

end Polybot
