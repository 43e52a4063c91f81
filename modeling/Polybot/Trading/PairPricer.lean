import Polybot.Execution.Coordinator
import Polybot.Trading.Sizing

/-!
Quoting pairs (`experimental/pair_accumulator.py`).

`quote` prices two maker legs of one size, and `buildPlan` makes the plan of the quote.
A maker price is a positive multiple of the tick below the best ask
(`makerBuyPrice_spec`), so the coordinator accepts the legs against the books they were
quoted from, and the plan is worth what the quote says (`quoted_plan_executable`).
-/

namespace Polybot

open Checked

/-! ### Settings, markets and quotes -/

/-- The settings, each in the range that its field admits; `research_only` can only be
true. -/
structure PairAccumulatorConfig where
  enabled : Bool := false
  targetPairSize : ℚ := 5
  sizeStep : {step : ℚ // 0 < step} := ⟨1 / 100, by norm_num⟩
  minimumNetEdgePerShare : ℚ := 1 / 100
  legRiskBufferPerShare : ℚ := 5 / 1000
  capitalCostPerShare : ℚ := 1 / 1000
  legDeadline : Duration := 8000000
  improveQueueByOneTick : Bool := true
  target_pos : 0 < targetPairSize := by norm_num
  minimum_range : 0 ≤ minimumNetEdgePerShare ∧ minimumNetEdgePerShare < 1 := by norm_num
  buffer_range : 0 ≤ legRiskBufferPerShare ∧ legRiskBufferPerShare < 1 := by norm_num
  capital_range : 0 ≤ capitalCostPerShare ∧ capitalCostPerShare < 1 := by norm_num
  deadline_pos : 0 < legDeadline := by decide

/-- A market with what the pricer reads of it. -/
structure PairMarket extends MarketSpec where
  negRisk : Bool
  feeTakerOnly : Bool
  yesTokenId_nonempty : yesTokenId ≠ ""
  noTokenId_nonempty : noTokenId ≠ ""

/-- The tick of a book. -/
def TimedBook.tick (book : TimedBook) : {step : ℚ // 0 < step} :=
  ⟨book.tickSize, book.tickSize_pos⟩

structure PairQuote where
  yesPrice : ℚ
  noPrice : ℚ
  shares : ℚ
  baseCostUsd : ℚ
  makerFeeUsd : ℚ
  takerHedgeFeeBufferUsd : ℚ
  legRiskBufferUsd : ℚ
  capitalCostUsd : ℚ
  expectedPayoutUsd : ℚ
  netEdgeUsd : ℚ

namespace PairQuote

/-- The first declared field bound that a quote breaks. -/
def fieldError (quote : PairQuote) : Option String :=
  if ¬ (0 < quote.yesPrice ∧ quote.yesPrice < 1) then some "yes_price"
  else if ¬ (0 < quote.noPrice ∧ quote.noPrice < 1) then some "no_price"
  else if ¬ 0 < quote.shares then some "shares"
  else if ¬ 0 ≤ quote.baseCostUsd then some "base_cost_usd"
  else if ¬ 0 ≤ quote.makerFeeUsd then some "maker_fee_usd"
  else if ¬ 0 ≤ quote.takerHedgeFeeBufferUsd then some "taker_hedge_fee_buffer_usd"
  else if ¬ 0 ≤ quote.legRiskBufferUsd then some "leg_risk_buffer_usd"
  else if ¬ 0 ≤ quote.capitalCostUsd then some "capital_cost_usd"
  else if ¬ 0 < quote.expectedPayoutUsd then some "expected_payout_usd"
  else none

/-- The field bounds of a quote. -/
structure FieldsValid (quote : PairQuote) : Prop where
  yesPrice : 0 < quote.yesPrice ∧ quote.yesPrice < 1
  noPrice : 0 < quote.noPrice ∧ quote.noPrice < 1
  shares : 0 < quote.shares
  baseCost : 0 ≤ quote.baseCostUsd
  makerFee : 0 ≤ quote.makerFeeUsd
  hedgeFee : 0 ≤ quote.takerHedgeFeeBufferUsd
  legRisk : 0 ≤ quote.legRiskBufferUsd
  capital : 0 ≤ quote.capitalCostUsd
  payout : 0 < quote.expectedPayoutUsd

def modelValidate (quote : PairQuote) : Except ValidationError PairQuote :=
  match quote.fieldError with
  | some name => .error (.field name)
  | none => .ok quote

theorem modelValidate_of_valid {quote : PairQuote} (fields : quote.FieldsValid) :
    quote.modelValidate = .ok quote := by
  have clean : quote.fieldError = none := by
    unfold fieldError
    rw [if_neg (not_not.mpr fields.yesPrice), if_neg (not_not.mpr fields.noPrice),
      if_neg (not_not.mpr fields.shares), if_neg (not_not.mpr fields.baseCost),
      if_neg (not_not.mpr fields.makerFee), if_neg (not_not.mpr fields.hedgeFee),
      if_neg (not_not.mpr fields.legRisk), if_neg (not_not.mpr fields.capital),
      if_neg (not_not.mpr fields.payout)]
  unfold modelValidate
  rw [clean]

def netEdgePerShare (quote : PairQuote) : ℚ :=
  quote.netEdgeUsd / quote.shares

end PairQuote

/-! ### The pricer -/

/-- The pricer, with the power of the fee curve. -/
structure PairPricer where
  config : PairAccumulatorConfig
  power : DecimalPower

namespace PairPricer

variable (pricer : PairPricer)

/-- `_maker_buy_price`. -/
def makerBuyPrice (book : TimedBook) : Option ℚ := do
  let bestAsk ← book.bestAsk
  guard (∀ bid ∈ book.bestBid, bid < bestAsk)
  let maximumPostOnly := quantizeDown (bestAsk - book.tickSize) book.tick
  guard (0 < maximumPostOnly)
  match book.bestBid with
  | none => pure (min book.tickSize maximumPostOnly)
  | some bestBid =>
      let candidate :=
        if pricer.config.improveQueueByOneTick then bestBid + book.tickSize else bestBid
      let price := min (quantizeDown candidate book.tick) maximumPostOnly
      -- A remainder is what the whole ticks leave.
      guard (0 < price ∧ price < bestAsk ∧ price - quantizeDown price book.tick = 0)
      pure price

/-- `_maker_fee_per_share`. -/
def makerFeePerShare (market : PairMarket) (price : ℚ) : ℚ :=
  estimatedFeePerShare pricer.power price
    { market.feeSchedule with enabled := market.feesEnabled && !market.feeTakerOnly }

/-- `_taker_fee_at_best_ask`. -/
def takerFeeAtBestAsk (market : PairMarket) (book : TimedBook) : ℚ :=
  match book.bestAsk with
  | none => 1
  | some bestAsk => estimatedFeePerShare pricer.power bestAsk market.feeSchedule

/-- `requested_shares or target_pair_size`, cut to the size grid. -/
def quotedShares (requestedShares : Option ℚ) : ℚ :=
  let wanted :=
    match requestedShares with
    | none => pricer.config.targetPairSize
    | some shares => if shares = 0 then pricer.config.targetPairSize else shares
  quantizeDown wanted pricer.config.sizeStep

def minimumSize (market : PairMarket) (yesBook noBook : TimedBook) : ℚ :=
  max (max market.minimumOrderSize yesBook.minimumOrderSize) noBook.minimumOrderSize

/-- The market trades, and the books are those of its tokens. -/
def Quotable (market : PairMarket) (yesBook noBook : TimedBook) : Prop :=
  ¬ (market.negRisk = true ∨ market.closed = true ∨ market.active = false ∨
      market.acceptingOrders = false) ∧
    (yesBook.tokenId = market.yesTokenId ∧ noBook.tokenId = market.noTokenId) ∧
    yesBook.marketId = market.id ∧ noBook.marketId = market.id

instance (market : PairMarket) (yesBook noBook : TimedBook) :
    Decidable (Quotable market yesBook noBook) :=
  inferInstanceAs (Decidable (_ ∧ _))

/-- The economics of two prices. -/
def priced (market : PairMarket) (yesBook noBook : TimedBook) (shares yesPrice noPrice : ℚ) :
    PairQuote :=
  let baseCost := shares * (yesPrice + noPrice)
  let makerFee :=
    shares * (pricer.makerFeePerShare market yesPrice + pricer.makerFeePerShare market noPrice)
  let hedgeFeeBuffer :=
    shares * max (pricer.takerFeeAtBestAsk market yesBook) (pricer.takerFeeAtBestAsk market noBook)
  let legRiskBuffer := shares * pricer.config.legRiskBufferPerShare
  let capitalCost := shares * pricer.config.capitalCostPerShare
  { yesPrice := yesPrice
    noPrice := noPrice
    shares := shares
    baseCostUsd := baseCost
    makerFeeUsd := makerFee
    takerHedgeFeeBufferUsd := hedgeFeeBuffer
    legRiskBufferUsd := legRiskBuffer
    capitalCostUsd := capitalCost
    expectedPayoutUsd := shares
    netEdgeUsd := shares - baseCost - makerFee - hedgeFeeBuffer - legRiskBuffer - capitalCost }

/-- `quote`. -/
def quote (market : PairMarket) (yesBook noBook : TimedBook) (requestedShares : Option ℚ) :
    Except ValidationError (Option PairQuote) :=
  if ¬ Quotable market yesBook noBook then .ok none
  else
    let shares := pricer.quotedShares requestedShares
    if shares < minimumSize market yesBook noBook then .ok none
    else
      match pricer.makerBuyPrice yesBook, pricer.makerBuyPrice noBook with
      | some yesPrice, some noPrice => do
          let quote ← (pricer.priced market yesBook noBook shares yesPrice noPrice).modelValidate
          if quote.netEdgePerShare < pricer.config.minimumNetEdgePerShare then .ok none
          else .ok (some quote)
      | _, _ => .ok none

end PairPricer

/-! ### Plans -/

/-- An `OrderPlan` with its amounts, before it is validated. -/
structure QuotedPlan where
  group : OrderGroup
  first : OrderLeg
  second : OrderLeg
  baseCostUsd : ℚ
  makerFeeUsd : ℚ
  takerHedgeFeeBufferUsd : ℚ
  legRiskBufferUsd : ℚ
  capitalCostUsd : ℚ
  expectedPayoutUsd : ℚ
  enabled : Bool
  researchOnly : Bool

namespace QuotedPlan

/-- The first declared field bound that a plan breaks. -/
def fieldError (plan : QuotedPlan) : Option String :=
  if ¬ 0 ≤ plan.baseCostUsd then some "base_cost_usd"
  else if ¬ 0 ≤ plan.makerFeeUsd then some "maker_fee_usd"
  else if ¬ 0 ≤ plan.takerHedgeFeeBufferUsd then some "taker_hedge_fee_buffer_usd"
  else if ¬ 0 ≤ plan.legRiskBufferUsd then some "leg_risk_buffer_usd"
  else if ¬ 0 ≤ plan.capitalCostUsd then some "capital_cost_usd"
  else if ¬ 0 < plan.expectedPayoutUsd then some "expected_payout_usd"
  else none

/-- `OrderPlan.validate_pair_plan`. -/
def validatePairPlan (plan : QuotedPlan) : Except ValidationError QuotedPlan :=
  if plan.first.groupId ≠ plan.group.id ∨ plan.second.groupId ≠ plan.group.id then
    .error (.value "all order legs must belong to the plan's group")
  else if plan.first.outcome = plan.second.outcome then
    .error (.value "a pair entry plan requires one YES and one NO leg")
  else if plan.first.size ≠ plan.second.size ∨ plan.first.size ≠ plan.group.targetPairSize then
    .error (.value "pair entry legs must use identical share sizes")
  else if plan.first.purpose ≠ .pairEntry then
    .error (.value "initial pair legs must use pair_entry purpose")
  else if plan.second.purpose ≠ .pairEntry then
    .error (.value "initial pair legs must use pair_entry purpose")
  else if plan.group.researchOnly ≠ plan.researchOnly then
    .error (.value "plan and group research_only flags must agree")
  else .ok plan

def modelValidate (plan : QuotedPlan) : Except ValidationError QuotedPlan :=
  match plan.fieldError with
  | some name => .error (.field name)
  | none => plan.validatePairPlan

/-- The field bounds of a plan. -/
structure FieldsValid (plan : QuotedPlan) : Prop where
  baseCost : 0 ≤ plan.baseCostUsd
  makerFee : 0 ≤ plan.makerFeeUsd
  hedgeFee : 0 ≤ plan.takerHedgeFeeBufferUsd
  legRisk : 0 ≤ plan.legRiskBufferUsd
  capital : 0 ≤ plan.capitalCostUsd
  payout : 0 < plan.expectedPayoutUsd

/-- What `validate_pair_plan` accepts. -/
structure PairShape (plan : QuotedPlan) : Prop where
  members : plan.first.groupId = plan.group.id ∧ plan.second.groupId = plan.group.id
  outcomes : plan.first.outcome ≠ plan.second.outcome
  sizes : plan.first.size = plan.second.size ∧ plan.first.size = plan.group.targetPairSize
  purposes : plan.first.purpose = .pairEntry ∧ plan.second.purpose = .pairEntry
  research : plan.group.researchOnly = plan.researchOnly

/-- The validators of the group, of the legs and of the plan. -/
structure Valid (plan : QuotedPlan) : Prop where
  group : plan.group.Valid
  first : plan.first.Valid
  second : plan.second.Valid
  fields : plan.FieldsValid
  shape : plan.PairShape

theorem fieldError_of_valid {plan : QuotedPlan} (fields : plan.FieldsValid) :
    plan.fieldError = none := by
  unfold fieldError
  rw [if_neg (not_not.mpr fields.baseCost), if_neg (not_not.mpr fields.makerFee),
    if_neg (not_not.mpr fields.hedgeFee), if_neg (not_not.mpr fields.legRisk),
    if_neg (not_not.mpr fields.capital), if_neg (not_not.mpr fields.payout)]

theorem modelValidate_of_valid {plan : QuotedPlan} (fields : plan.FieldsValid)
    (shape : plan.PairShape) : plan.modelValidate = .ok plan := by
  unfold modelValidate validatePairPlan
  rw [fieldError_of_valid fields]
  dsimp only
  rw [if_neg (not_or.mpr ⟨not_not.mpr shape.members.1, not_not.mpr shape.members.2⟩),
    if_neg shape.outcomes,
    if_neg (not_or.mpr ⟨not_not.mpr shape.sizes.1, not_not.mpr shape.sizes.2⟩),
    if_neg (not_not.mpr shape.purposes.1), if_neg (not_not.mpr shape.purposes.2),
    if_neg (not_not.mpr shape.research)]

def netEdgeUsd (plan : QuotedPlan) : ℚ :=
  plan.expectedPayoutUsd - plan.baseCostUsd - plan.makerFeeUsd - plan.takerHedgeFeeBufferUsd -
    plan.legRiskBufferUsd - plan.capitalCostUsd

/-- The plan that the coordinator takes. -/
def toOrderPlan (plan : QuotedPlan) (valid : plan.Valid) : OrderPlan where
  group := plan.group
  first := plan.first
  second := plan.second
  enabled := plan.enabled
  researchOnly := plan.researchOnly
  group_valid := valid.group
  first_valid := valid.first
  second_valid := valid.second
  first_member := valid.shape.members.1
  second_member := valid.shape.members.2
  outcomes := valid.shape.outcomes
  sizes := valid.shape.sizes
  purposes := valid.shape.purposes
  research := valid.shape.research

end QuotedPlan

/-- The random ids of a plan, and the clock. -/
structure PlanDraws where
  groupId : UUID
  firstId : UUID
  secondId : UUID
  now : Instant

namespace PairPricer

variable (pricer : PairPricer)

def plannedGroup (draws : PlanDraws) (accountId : String) (tradingWalletId : Option String)
    (market : PairMarket) (quote : PairQuote) : OrderGroup where
  id := draws.groupId
  accountId := accountId
  tradingWalletId := tradingWalletId
  marketId := market.id
  conditionId := market.conditionId
  strategy := "pair_accumulator_v1"
  targetPairSize := quote.shares
  pairedSize := 0
  directionalYesSize := 0
  directionalNoSize := 0
  expectedNetEdgeUsd := quote.netEdgeUsd
  legDeadlineAt := draws.now + pricer.config.legDeadline
  status := .planned
  researchOnly := true
  version := 1
  createdAt := draws.now
  updatedAt := draws.now

def plannedLeg (draws : PlanDraws) (id : UUID) (quote : PairQuote) (outcome : Outcome)
    (tokenId : String) (price : ℚ) : OrderLeg where
  id := id
  groupId := draws.groupId
  outcome := outcome
  tokenId := tokenId
  side := .buy
  purpose := .pairEntry
  liquidityRole := .maker
  postOnly := true
  price := price
  size := quote.shares
  filledSize := 0
  averageFillPrice := none
  feePaidUsd := 0
  status := .planned
  clobOrderId := none
  deadlineAt := draws.now + pricer.config.legDeadline
  version := 1
  createdAt := draws.now
  updatedAt := draws.now

/-- `build_plan`. -/
def buildPlan (draws : PlanDraws) (accountId : String) (market : PairMarket)
    (yesBook noBook : TimedBook) (tradingWalletId : Option String) (requestedShares : Option ℚ) :
    Except ValidationError (Option QuotedPlan) :=
  if pricer.config.enabled = false then .ok none
  else do
    match ← pricer.quote market yesBook noBook requestedShares with
    | none => .ok none
    | some quote =>
        let group ←
          (pricer.plannedGroup draws accountId tradingWalletId market quote).modelValidate
        let first ← (pricer.plannedLeg draws draws.firstId quote .yes market.yesTokenId
          quote.yesPrice).modelValidate
        let second ← (pricer.plannedLeg draws draws.secondId quote .no market.noTokenId
          quote.noPrice).modelValidate
        let plan ← QuotedPlan.modelValidate
          { group := group
            first := first
            second := second
            baseCostUsd := quote.baseCostUsd
            makerFeeUsd := quote.makerFeeUsd
            takerHedgeFeeBufferUsd := quote.takerHedgeFeeBufferUsd
            legRiskBufferUsd := quote.legRiskBufferUsd
            capitalCostUsd := quote.capitalCostUsd
            expectedPayoutUsd := quote.expectedPayoutUsd
            enabled := pricer.config.enabled
            researchOnly := true }
        .ok (some plan)

/-! ### Maker prices -/

variable {pricer} {market : PairMarket} {yesBook noBook book : TimedBook} {price shares : ℚ}
  {requestedShares : Option ℚ} {quote : PairQuote} {draws : PlanDraws} {accountId : String}
  {tradingWalletId : Option String} {plan : QuotedPlan}

/-- A positive multiple of the tick, strictly below the best ask. -/
structure PostOnlyPrice (book : TimedBook) (price : ℚ) : Prop where
  ticks : ∃ count : ℕ, 0 < count ∧ price = count * book.tickSize
  below : ∃ bestAsk ∈ book.bestAsk, price < bestAsk

theorem PostOnlyPrice.bounds (postOnly : PostOnlyPrice book price) : 0 < price ∧ price < 1 := by
  obtain ⟨count, positive, rfl⟩ := postOnly.ticks
  obtain ⟨bestAsk, found, below⟩ := postOnly.below
  obtain ⟨level, member, rfl⟩ := List.mem_map.mp (List.min?_mem found)
  refine ⟨mul_pos (Nat.cast_pos.mpr positive) book.tickSize_pos, below.trans ?_⟩
  exact (book.valid.asks level member).price_lt_one

theorem count_of_pos {step : {step : ℚ // 0 < step}} {count : ℤ}
    (positive : 0 < (count * step : ℚ)) : ∃ whole : ℕ, 0 < whole ∧ (count * step : ℚ) = whole * step := by
  have counted : 0 < count := by exact_mod_cast (mul_pos_iff_of_pos_right step.2).mp positive
  refine ⟨count.toNat, by omega, ?_⟩
  rw [← Int.cast_natCast, Int.toNat_of_nonneg counted.le]

theorem makerBuyPrice_spec (quoted : pricer.makerBuyPrice book = some price) :
    PostOnlyPrice book price := by
  simp only [makerBuyPrice, option_bind_eq_some_iff, exists_guard_eq_some_iff] at quoted
  obtain ⟨bestAsk, found, -, positive, priced⟩ := quoted
  have room : 0 < bestAsk - book.tickSize := by
    by_contra none
    exact absurd positive (not_lt.mpr (quantizeDown_nonpos (not_lt.mp none)))
  have capped : quantizeDown (bestAsk - book.tickSize) book.tick < bestAsk :=
    (quantizeDown_le room.le).trans_lt (sub_lt_self _ book.tickSize_pos)
  obtain ⟨count, counted, maximum⟩ := count_of_pos positive
  split at priced
  · cases priced
    refine ⟨?_, bestAsk, found, (min_le_right _ _).trans_lt capped⟩
    rcases min_choice book.tickSize (quantizeDown (bestAsk - book.tickSize) book.tick)
      with tick | most
    · exact ⟨1, one_pos, by rw [tick, Nat.cast_one, one_mul]⟩
    · exact ⟨count, counted, most.trans maximum⟩
  · rename_i bestBid _
    simp only [option_bind_eq_some_iff, exists_guard_eq_some_iff] at priced
    obtain ⟨⟨above, below, -⟩, ⟨⟩⟩ := priced
    refine ⟨?_, bestAsk, found, below⟩
    rcases min_choice (quantizeDown (if pricer.config.improveQueueByOneTick = true then
      bestBid + book.tickSize else bestBid) book.tick)
      (quantizeDown (bestAsk - book.tickSize) book.tick) with bid | most
    · rw [bid] at above ⊢
      exact count_of_pos above
    · exact ⟨count, counted, most.trans maximum⟩

/-! ### What a quote says -/

/-- The quote of these books: both legs have a maker price, and the shares reach the
minimum sizes. -/
structure Quoted (pricer : PairPricer) (market : PairMarket) (yesBook noBook : TimedBook)
    (quote : PairQuote) : Prop where
  quotable : Quotable market yesBook noBook
  grid : ∃ count : ℤ, quote.shares = count * pricer.config.sizeStep
  minimum : minimumSize market yesBook noBook ≤ quote.shares
  yesPrice : PostOnlyPrice yesBook quote.yesPrice
  noPrice : PostOnlyPrice noBook quote.noPrice
  priced : quote =
    pricer.priced market yesBook noBook quote.shares quote.yesPrice quote.noPrice
  netEdge : pricer.config.minimumNetEdgePerShare ≤ quote.netEdgePerShare

theorem makerFeePerShare_nonneg : 0 ≤ pricer.makerFeePerShare market price :=
  estimatedFeePerShare_nonneg

theorem takerFeeAtBestAsk_nonneg : 0 ≤ pricer.takerFeeAtBestAsk market book := by
  unfold takerFeeAtBestAsk
  split
  · exact zero_le_one
  · exact estimatedFeePerShare_nonneg

/-- The constructor of a quote never refuses it. -/
theorem priced_valid {yesPrice noPrice : ℚ} (positive : 0 < shares)
    (yes : PostOnlyPrice yesBook yesPrice) (no : PostOnlyPrice noBook noPrice) :
    (pricer.priced market yesBook noBook shares yesPrice noPrice).FieldsValid where
  yesPrice := yes.bounds
  noPrice := no.bounds
  shares := positive
  baseCost := mul_nonneg positive.le (add_nonneg yes.bounds.1.le no.bounds.1.le)
  makerFee :=
    mul_nonneg positive.le (add_nonneg makerFeePerShare_nonneg makerFeePerShare_nonneg)
  hedgeFee := mul_nonneg positive.le (le_max_of_le_left takerFeeAtBestAsk_nonneg)
  legRisk := mul_nonneg positive.le pricer.config.buffer_range.1
  capital := mul_nonneg positive.le pricer.config.capital_range.1
  payout := positive

theorem minimumSize_pos : 0 < minimumSize market yesBook noBook :=
  lt_max_of_lt_left (lt_max_of_lt_left market.minimumOrderSize_pos)

theorem Quoted.shares_pos (quoted : Quoted pricer market yesBook noBook quote) : 0 < quote.shares :=
  minimumSize_pos.trans_le quoted.minimum

theorem Quoted.valid (quoted : Quoted pricer market yesBook noBook quote) : quote.FieldsValid := by
  rw [quoted.priced]
  exact priced_valid quoted.shares_pos quoted.yesPrice quoted.noPrice

theorem quotedShares_grid (pricer : PairPricer) (requestedShares : Option ℚ) :
    ∃ count : ℤ, pricer.quotedShares requestedShares = count * pricer.config.sizeStep := by
  unfold quotedShares quantizeDown
  exact ⟨_, rfl⟩

/-- A quote is never refused, and says what it should. -/
theorem quote_spec (pricer : PairPricer) (market : PairMarket) (yesBook noBook : TimedBook)
    (requestedShares : Option ℚ) :
    ∃ result, pricer.quote market yesBook noBook requestedShares = .ok result ∧
      ∀ quote ∈ result, Quoted pricer market yesBook noBook quote := by
  have nothing : ∀ quote ∈ (none : Option PairQuote), Quoted pricer market yesBook noBook quote := by
    rintro _ ⟨⟩
  unfold PairPricer.quote
  split
  · exact ⟨none, rfl, nothing⟩
  rename_i quotable
  dsimp only
  split
  · exact ⟨none, rfl, nothing⟩
  rename_i enough
  split
  · rename_i yesPrice noPrice yes no
    have positive := minimumSize_pos.trans_le (not_lt.mp enough)
    rw [PairQuote.modelValidate_of_valid
      (priced_valid positive (makerBuyPrice_spec yes) (makerBuyPrice_spec no))]
    set quote := pricer.priced market yesBook noBook (pricer.quotedShares requestedShares)
      yesPrice noPrice with priced
    change ∃ result, (if quote.netEdgePerShare < pricer.config.minimumNetEdgePerShare then .ok none
      else .ok (some quote)) = Except.ok result ∧ _
    by_cases thin : quote.netEdgePerShare < pricer.config.minimumNetEdgePerShare
    · exact ⟨none, if_pos thin, nothing⟩
    · refine ⟨some quote, if_neg thin, ?_⟩
      rintro _ ⟨⟩
      exact ⟨not_not.mp quotable, pricer.quotedShares_grid requestedShares, not_lt.mp enough,
        makerBuyPrice_spec yes, makerBuyPrice_spec no, priced, not_lt.mp thin⟩
  · exact ⟨none, rfl, nothing⟩

/-! ### The plan of a quote -/

/-- The plan, as `build_plan` passes it to its constructor. -/
def planOf (pricer : PairPricer) (draws : PlanDraws) (accountId : String)
    (tradingWalletId : Option String) (market : PairMarket) (quote : PairQuote) : QuotedPlan where
  group := pricer.plannedGroup draws accountId tradingWalletId market quote
  first := pricer.plannedLeg draws draws.firstId quote .yes market.yesTokenId quote.yesPrice
  second := pricer.plannedLeg draws draws.secondId quote .no market.noTokenId quote.noPrice
  baseCostUsd := quote.baseCostUsd
  makerFeeUsd := quote.makerFeeUsd
  takerHedgeFeeBufferUsd := quote.takerHedgeFeeBufferUsd
  legRiskBufferUsd := quote.legRiskBufferUsd
  capitalCostUsd := quote.capitalCostUsd
  expectedPayoutUsd := quote.expectedPayoutUsd
  enabled := pricer.config.enabled
  researchOnly := true

theorem plannedGroup_valid (named : accountId ≠ "") (valid : quote.FieldsValid) :
    (pricer.plannedGroup draws accountId tradingWalletId market quote).Valid :=
  ⟨⟨named, market.id_nonempty, valid.shares, le_rfl, le_rfl, le_rfl, le_rfl⟩,
    ⟨fun both => lt_irrefl _ both.1, valid.shares.le⟩⟩

theorem plannedLeg_valid {id : UUID} {outcome : Outcome} {tokenId : String}
    (token : tokenId ≠ "") (bounds : 0 < price ∧ price < 1) (shares : 0 < quote.shares) :
    (pricer.plannedLeg draws id quote outcome tokenId price).Valid :=
  ⟨⟨token, bounds, shares, le_rfl, nofun, le_rfl, le_rfl⟩,
    ⟨shares.le, fun filled => absurd filled (lt_irrefl _), fun _ => rfl, fun _ => rfl, nofun, nofun,
      fun working => by rcases working with ⟨⟨⟩⟩ | ⟨⟨⟩⟩⟩⟩

/-- The validators accept the plan of every quote. -/
theorem planOf_valid (named : accountId ≠ "") (valid : quote.FieldsValid) :
    (pricer.planOf draws accountId tradingWalletId market quote).Valid where
  group := plannedGroup_valid named valid
  first := plannedLeg_valid market.yesTokenId_nonempty valid.yesPrice valid.shares
  second := plannedLeg_valid market.noTokenId_nonempty valid.noPrice valid.shares
  fields :=
    ⟨valid.baseCost, valid.makerFee, valid.hedgeFee, valid.legRisk, valid.capital, valid.payout⟩
  shape := ⟨⟨rfl, rfl⟩, nofun, ⟨rfl, rfl⟩, ⟨rfl, rfl⟩, rfl⟩

/-- The coordinator gets a plan of which nothing is filled. -/
theorem planOf_unfilled
    (valid : (pricer.planOf draws accountId tradingWalletId market quote).Valid) :
    ((pricer.planOf draws accountId tradingWalletId market quote).toOrderPlan valid).Unfilled where
  status := rfl
  paired := rfl
  directionalYes := rfl
  directionalNo := rfl
  filled leg member := by
    rcases OrderPlan.mem_legs _ |>.mp member with rfl | rfl <;> rfl
  fee leg member := by
    rcases OrderPlan.mem_legs _ |>.mp member with rfl | rfl <;> rfl

/-- `build_plan` raises for an empty account only, and its plan is that of a quote. -/
theorem buildPlan_spec (pricer : PairPricer) (draws : PlanDraws) (market : PairMarket)
    (yesBook noBook : TimedBook) (tradingWalletId : Option String) (requestedShares : Option ℚ)
    (named : accountId ≠ "") :
    ∃ result, pricer.buildPlan draws accountId market yesBook noBook tradingWalletId
        requestedShares = .ok result ∧
      ∀ plan ∈ result, ∃ quote, Quoted pricer market yesBook noBook quote ∧
        plan = pricer.planOf draws accountId tradingWalletId market quote := by
  obtain ⟨result, quotes, spec⟩ := pricer.quote_spec market yesBook noBook requestedShares
  unfold buildPlan
  split
  · exact ⟨none, rfl, by rintro _ ⟨⟩⟩
  rw [quotes]
  cases result with
  | none => exact ⟨none, rfl, by rintro _ ⟨⟩⟩
  | some quote =>
      have quoted := spec quote rfl
      have valid : (pricer.planOf draws accountId tradingWalletId market quote).Valid :=
        planOf_valid named quoted.valid
      have group := OrderGroup.modelValidate_ok_iff.mpr ⟨valid.group, rfl⟩
      have first := OrderLeg.modelValidate_ok_iff.mpr ⟨valid.first, rfl⟩
      have second := OrderLeg.modelValidate_ok_iff.mpr ⟨valid.second, rfl⟩
      have plan := QuotedPlan.modelValidate_of_valid valid.fields valid.shape
      dsimp only [planOf] at group first second plan
      dsimp only [Bind.bind, Except.bind]
      rw [group, first, second]
      dsimp only
      rw [plan]
      refine ⟨_, rfl, ?_⟩
      rintro _ ⟨⟩
      exact ⟨quote, quoted, rfl⟩

theorem account_named (built : pricer.buildPlan draws accountId market yesBook noBook
    tradingWalletId requestedShares = .ok (some plan)) : accountId ≠ "" := by
  unfold buildPlan at built
  split at built
  · cases built
  obtain ⟨quoted, -, rest⟩ := bind_ok_iff.mp built
  split at rest
  · cases rest
  · obtain ⟨group, validated, -⟩ := bind_ok_iff.mp rest
    exact (OrderGroup.modelValidate_ok_iff.mp validated).1.fields.account

/-! ### Every quoted plan can be executed -/

/-- An intent with the economics of a leg. -/
structure CarriesLeg (group : OrderGroup) (leg : OrderLeg) (intent : TradeIntent) : Prop where
  account : intent.accountId = group.accountId
  market : intent.marketId = group.marketId
  token : intent.tokenId = leg.tokenId
  outcome : intent.outcome = leg.outcome
  economics : intent.price = leg.price ∧ intent.size = leg.size ∧ intent.side = leg.side
  postOnly : intent.postOnly = leg.postOnly
  strategy : intent.strategy = group.strategy

/-- The coordinator accepts every intent of the leg in a mode that it may build. -/
def Accepted (group : OrderGroup) (leg : OrderLeg) (book : TimedBook) : Prop :=
  ∀ (coordinator : PairExecutionCoordinator) (intent : TradeIntent), CarriesLeg group leg intent →
    (coordinator.config.researchOnly = true → intent.mode ∈ [TradingMode.paper, .shadow]) →
      coordinator.validateIntent group leg intent book.toOrderBookSnapshot = .ok ()

structure Executable (pricer : PairPricer) (market : PairMarket) (yesBook noBook : TimedBook)
    (plan : QuotedPlan) : Prop where
  valid : plan.Valid
  grid : ∃ count : ℤ, plan.first.size = count * pricer.config.sizeStep
  minimum : market.minimumOrderSize ≤ plan.first.size ∧
    yesBook.minimumOrderSize ≤ plan.first.size ∧ noBook.minimumOrderSize ≤ plan.first.size
  prices : PostOnlyPrice yesBook plan.first.price ∧ PostOnlyPrice noBook plan.second.price
  accepted : Accepted plan.group plan.first yesBook ∧ Accepted plan.group plan.second noBook
  netEdge : plan.netEdgeUsd = plan.group.expectedNetEdgeUsd
  least : pricer.config.minimumNetEdgePerShare * plan.first.size ≤ plan.netEdgeUsd
  /-- The payout of the pairs less their cost and the maker fees, when both legs fill. -/
  filled : plan.netEdgeUsd ≤ plan.first.size
    - (plan.first.size * plan.first.price + plan.second.size * plan.second.price)
    - (plan.first.size * pricer.makerFeePerShare market plan.first.price
      + plan.second.size * pricer.makerFeePerShare market plan.second.price)

theorem accepted_of_postOnly {group : OrderGroup} {leg : OrderLeg}
    (sameMarket : book.marketId = group.marketId) (sameToken : book.tokenId = leg.tokenId)
    (buys : leg.side = .buy) (priced : PostOnlyPrice book leg.price) : Accepted group leg book := by
  intro coordinator intent carries mode
  obtain ⟨bestAsk, found, below⟩ := priced.below
  unfold PairExecutionCoordinator.validateIntent
  rw [require_bind_of carries.account, require_bind_of
      ⟨carries.market, carries.market.trans sameMarket.symm, carries.token,
        carries.token.trans sameToken.symm, carries.outcome⟩,
    require_bind_of carries.economics, require_bind_of carries.postOnly,
    require_bind_of carries.strategy, require_bind_of ?_, require_bind_of ?_, require_of ?_]
  · rintro ⟨research, other⟩
    exact other (mode research)
  · rintro ⟨-, sells, -⟩
    cases sells.symm.trans buys
  · rintro ⟨-, -, crosses⟩
    exact absurd below (not_lt.mpr (crosses bestAsk found))

theorem Quoted.executable (quoted : Quoted pricer market yesBook noBook quote)
    (named : accountId ≠ "") : Executable pricer market yesBook noBook
      (pricer.planOf draws accountId tradingWalletId market quote) := by
  have valid := quoted.valid
  obtain ⟨-, ⟨yesToken, noToken⟩, yesMarket, noMarket⟩ := quoted.quotable
  obtain ⟨marketAndYes, no⟩ := max_le_iff.mp quoted.minimum
  have netEdge : quote.netEdgeUsd = quote.expectedPayoutUsd - quote.baseCostUsd -
      quote.makerFeeUsd - quote.takerHedgeFeeBufferUsd - quote.legRiskBufferUsd -
        quote.capitalCostUsd := by
    rw [quoted.priced]
    rfl
  refine ⟨planOf_valid named valid, quoted.grid, ?_, ⟨quoted.yesPrice, quoted.noPrice⟩, ⟨?_, ?_⟩,
    netEdge.symm, ?_, ?_⟩
  · exact ⟨(max_le_iff.mp marketAndYes).1, (max_le_iff.mp marketAndYes).2, no⟩
  · exact accepted_of_postOnly yesMarket yesToken rfl quoted.yesPrice
  · exact accepted_of_postOnly noMarket noToken rfl quoted.noPrice
  · exact (le_div_iff₀ quoted.shares_pos).mp quoted.netEdge |>.trans netEdge.le
  · have payout : quote.expectedPayoutUsd = quote.shares := by
      rw [quoted.priced]
      rfl
    have cost : quote.baseCostUsd = quote.shares * (quote.yesPrice + quote.noPrice) := by
      rw [quoted.priced]
      rfl
    have fees : quote.makerFeeUsd = quote.shares * (pricer.makerFeePerShare market quote.yesPrice +
        pricer.makerFeePerShare market quote.noPrice) := by
      rw [quoted.priced]
      rfl
    have hedge := valid.hedgeFee
    have legRisk := valid.legRisk
    have capital := valid.capital
    change quote.expectedPayoutUsd - quote.baseCostUsd - quote.makerFeeUsd -
      quote.takerHedgeFeeBufferUsd - quote.legRiskBufferUsd - quote.capitalCostUsd ≤
        quote.shares - (quote.shares * quote.yesPrice + quote.shares * quote.noPrice) -
          (quote.shares * pricer.makerFeePerShare market quote.yesPrice +
            quote.shares * pricer.makerFeePerShare market quote.noPrice)
    rw [mul_add] at cost fees
    linarith

/-- **Every quoted pair plan can be executed as planned.** -/
theorem quoted_plan_executable (pricer : PairPricer) (draws : PlanDraws) (accountId : String)
    (market : PairMarket) (yesBook noBook : TimedBook) (tradingWalletId : Option String)
    (requestedShares : Option ℚ) (plan : QuotedPlan)
    (built : pricer.buildPlan draws accountId market yesBook noBook tradingWalletId
      requestedShares = .ok (some plan)) : Executable pricer market yesBook noBook plan := by
  have named := account_named built
  obtain ⟨_, same, spec⟩ := buildPlan_spec pricer draws market yesBook noBook tradingWalletId
    requestedShares named
  cases built.symm.trans same
  obtain ⟨quote, quoted, rfl⟩ := spec plan rfl
  exact quoted.executable named

/-- A market without fees that trades. -/
def openMarket : PairMarket where
  toMarketSpec := ValueStrategy.freeMarket "event" "bucket"
  negRisk := false
  feeTakerOnly := true
  yesTokenId_nonempty := by decide
  noTokenId_nonempty := by decide

/-- A book of one ask at one half. -/
def halfAskBook (tokenId : String) : TimedBook where
  tokenId := tokenId
  marketId := "market"
  bids := []
  asks := [⟨1 / 2, 10⟩]
  tickSize := 1 / 100
  minimumOrderSize := 1
  capturedAt := 0
  valid := ⟨nofun, by simp only [List.mem_singleton, forall_eq]; constructor <;> norm_num⟩
  tickSize_pos := Literal.hundredth_pos
  minimumOrderSize_pos := Literal.one_pos

/-- Five pairs at a tick each. -/
theorem tickPlan_executable : ∃ plan,
    buildPlan ⟨{ enabled := true }, .whole⟩ ⟨1, 2, 3, 0⟩ "account" openMarket (halfAskBook "yes")
      (halfAskBook "no") none none = .ok (some plan) ∧
    Executable ⟨{ enabled := true }, .whole⟩ openMarket (halfAskBook "yes") (halfAskBook "no")
      plan := by
  have built : okAnd (buildPlan ⟨{ enabled := true }, .whole⟩ ⟨1, 2, 3, 0⟩ "account" openMarket
      (halfAskBook "yes") (halfAskBook "no") none none) fun plan => plan.isSome = true := by
    decide +kernel
  obtain ⟨_, made, some⟩ := exists_of_okAnd built
  obtain ⟨plan, rfl⟩ := Option.isSome_iff_exists.mp some
  exact ⟨plan, made, quoted_plan_executable _ _ _ _ _ _ _ _ plan made⟩

end PairPricer

end Polybot
