import Polybot.Models
import Polybot.Collections.Checked
import Polybot.Collections.Dict
import Mathlib.Data.Finset.Insert
import Mathlib.Algebra.Order.BigOperators.Group.List
import Mathlib.Algebra.Order.Field.Basic

/-!
The pair order manager (`execution/order_manager.py`).

Every operation is a pure function of the group state and its arguments. Where
the source evaluates `now or utc_now()` the instant is the argument `timestamp`,
and the random id of a new hedge leg is the argument `hedgeLegId`. A raised
exception is an `Except` error with the source's text.
-/

namespace Polybot

inductive OrderActionType where
  | none
  | cancelOrders
  | submitHedge
  | freeze
  deriving DecidableEq, Repr

/-- A bounded L2 quote for the missing side. -/
structure HedgeQuote where
  outcome : Outcome
  tokenId : String
  price : ℚ
  availableSize : ℚ
  feePerShare : ℚ
  token_nonempty : tokenId ≠ ""
  price_bounds : 0 < price ∧ price < 1
  available_pos : 0 < availableSize
  fee_nonneg : 0 ≤ feePerShare

structure OrderManagerAction where
  action : OrderActionType
  orderIds : List String
  hedgeLeg : Option OrderLeg
  reason : String
  deriving DecidableEq

/-- `OrderManagerAction()`. -/
def OrderManagerAction.idle : OrderManagerAction :=
  ⟨.none, [], none, ""⟩

/-- The group, its legs and the fill ids already accounted for. -/
structure OrderGroupState where
  group : OrderGroup
  legs : List OrderLeg
  seenFillIds : Finset String
  deriving DecidableEq

/-- What the order manager raises. `unknownLeg` and `unknownHedgeLeg` are the two
`KeyError`s, which print the id of the missing leg. -/
inductive ManagerError where
  | valueError (message : String)
  | unknownLeg (id : UUID)
  | unknownHedgeLeg (id : UUID)
  deriving DecidableEq, Repr

namespace OrderGroupState

/-- `OrderGroupState(...)`: at least two legs, all of them of the group. -/
def modelValidate (state : OrderGroupState) : Except ValidationError OrderGroupState :=
  if state.legs.length < 2 then .error (.field "legs")
  else if state.legs.any fun leg => leg.groupId ≠ state.group.id then
    .error (.value "state contains a leg from another order group")
  else .ok state

theorem modelValidate_ok_iff {state result : OrderGroupState} :
    state.modelValidate = .ok result ↔
      2 ≤ state.legs.length ∧ (∀ leg ∈ state.legs, leg.groupId = state.group.id) ∧
        result = state := by
  unfold modelValidate
  split
  · constructor
    · intro accepted
      cases accepted
    · omega
  · split
    · rename_i foreign
      constructor
      · intro accepted
        cases accepted
      · rintro ⟨-, member, -⟩
        obtain ⟨leg, inLegs, differs⟩ := List.any_eq_true.mp foreign
        exact absurd (member leg inLegs) (by simpa using differs)
    · rename_i enough member
      simp only [Except.ok.injEq]
      constructor
      · rintro rfl
        refine ⟨by omega, ?_, rfl⟩
        simpa using member
      · rintro ⟨-, -, rfl⟩
        rfl

end OrderGroupState

/-! ### Inventory -/

/-- The filled size of the BUY legs of one outcome. -/
def bought (outcome : Outcome) (legs : List OrderLeg) : ℚ :=
  ((legs.filter fun leg => leg.side = .buy ∧ leg.outcome = outcome).map OrderLeg.filledSize).sum

/-- `_bought_by_outcome`. -/
def boughtByOutcome (legs : List OrderLeg) : ℚ × ℚ :=
  (bought .yes legs, bought .no legs)

theorem bought_nil (outcome : Outcome) : bought outcome [] = 0 := rfl

theorem bought_cons (outcome : Outcome) (leg : OrderLeg) (legs : List OrderLeg) :
    bought outcome (leg :: legs) =
      (if leg.side = .buy ∧ leg.outcome = outcome then leg.filledSize else 0) +
        bought outcome legs := by
  unfold bought
  by_cases counted : leg.side = .buy ∧ leg.outcome = outcome <;> simp [counted]

theorem bought_append (outcome : Outcome) (front back : List OrderLeg) :
    bought outcome (front ++ back) = bought outcome front + bought outcome back := by
  simp [bought]

/-- A change of the legs that keeps sides, outcomes and filled sizes keeps what
was bought. -/
theorem bought_map {change : OrderLeg → OrderLeg} (outcome : Outcome) (legs : List OrderLeg)
    (kept : ∀ leg, (change leg).side = leg.side ∧ (change leg).outcome = leg.outcome ∧
      (change leg).filledSize = leg.filledSize) :
    bought outcome (legs.map change) = bought outcome legs := by
  induction legs with
  | nil => rfl
  | cons leg legs ih =>
      obtain ⟨side, outcomes, filled⟩ := kept leg
      rw [List.map_cons, bought_cons, bought_cons, ih, side, outcomes, filled]

theorem bought_nonneg {outcome : Outcome} {legs : List OrderLeg}
    (nonneg : ∀ leg ∈ legs, 0 ≤ leg.filledSize) : 0 ≤ bought outcome legs := by
  unfold bought
  apply List.sum_nonneg
  intro filled member
  obtain ⟨leg, inLegs, rfl⟩ := List.mem_map.mp member
  exact nonneg leg (List.mem_filter.mp inLegs).1

/-- `OrderLegPurpose.IMBALANCE_HEDGE` legs. -/
def hedgeLegs (legs : List OrderLeg) : List OrderLeg :=
  legs.filter fun leg => leg.purpose = .imbalanceHedge

/-- `bool(hedge_legs) and all(leg.is_terminal for leg in hedge_legs)`. -/
def hedgesTerminal (legs : List OrderLeg) : Bool :=
  hedgeLegs legs ≠ [] && (hedgeLegs legs).all OrderLeg.isTerminal

/-- The status that `_refresh_inventory` gives a group in phase `status`, from
the paired size and the two directional sizes. -/
def refreshedStatus (status : OrderGroupStatus) (target : ℚ) (legs : List OrderLeg)
    (paired directionalYes directionalNo : ℚ) (preservePhase : Bool) : OrderGroupStatus :=
  let directional := directionalYes ≠ 0 ∨ directionalNo ≠ 0
  let terminalHedge := status = .hedging ∧ hedgesTerminal legs = true
  let hedged :=
    if terminalHedge then
      if paired > 0 ∧ ¬ directional then OrderGroupStatus.paired else .frozen
    else status
  let terminalCancelRace := (hedged = .cancelled ∨ hedged = .paired) ∧ directional
  let settled := if terminalCancelRace then .frozen else hedged
  if preservePhase = false ∧ ¬ terminalHedge ∧ ¬ terminalCancelRace ∧
      settled ∉ [OrderGroupStatus.cancelling, .hedging, .frozen, .failed] then
    if paired ≥ target ∧ ¬ directional then .paired
    else if directional then .imbalanced
    else .working
  else settled

/-- `_refresh_inventory`. -/
def refreshInventory (state : OrderGroupState) (timestamp : Instant) (preservePhase : Bool) :
    OrderGroupState :=
  let filled := boughtByOutcome state.legs
  let paired := min filled.1 filled.2
  let directionalYes := max 0 (filled.1 - paired)
  let directionalNo := max 0 (filled.2 - paired)
  { state with
    group := { state.group with
      pairedSize := min paired state.group.targetPairSize
      directionalYesSize := directionalYes
      directionalNoSize := directionalNo
      status := refreshedStatus state.group.status state.group.targetPairSize state.legs
        paired directionalYes directionalNo preservePhase
      version := state.group.version + 1
      updatedAt := timestamp } }

@[simp] theorem refreshInventory_legs (state : OrderGroupState) (timestamp : Instant)
    (preservePhase : Bool) : (refreshInventory state timestamp preservePhase).legs = state.legs :=
  rfl

@[simp] theorem refreshInventory_seen (state : OrderGroupState) (timestamp : Instant)
    (preservePhase : Bool) :
    (refreshInventory state timestamp preservePhase).seenFillIds = state.seenFillIds := rfl

/-- A group in the phase `status` at the next version. -/
def OrderGroup.inPhase (group : OrderGroup) (status : OrderGroupStatus) (timestamp : Instant) :
    OrderGroup :=
  { group with status := status, version := group.version + 1, updatedAt := timestamp }

/-! ### Operations -/

/-- `PairOrderManager`, with the two bounds its constructor checks. -/
structure PairOrderManager where
  maximumHedgeNotionalUsd : ℚ
  hedgeDeadline : Duration
  notional_pos : 0 < maximumHedgeNotionalUsd
  deadline_pos : 0 < hedgeDeadline

/-- The order manager with the default bounds: 5 USD and 4 seconds. -/
def PairOrderManager.standard : PairOrderManager :=
  ⟨5, 4000000, by norm_num, by norm_num⟩

/-- `from_plan`. -/
def fromPlan (plan : OrderPlan) : OrderGroupState :=
  ⟨plan.group, plan.legs, ∅⟩

/-- A leg with its exchange order id, `OPEN`. -/
def OrderLeg.acknowledged (leg : OrderLeg) (orderId : String) (timestamp : Instant) : OrderLeg :=
  { leg with
    clobOrderId := some orderId, status := .open, version := leg.version + 1,
    updatedAt := timestamp }

/-- A leg moved to `status`. -/
def OrderLeg.inStatus (leg : OrderLeg) (status : OrderLegStatus) (timestamp : Instant) : OrderLeg :=
  { leg with status := status, version := leg.version + 1, updatedAt := timestamp }

/-- One leg of `record_submission`. -/
def submittedLeg (acceptedOrderIds : Dict UUID String) (rejectedLegIds : Finset UUID)
    (timestamp : Instant) (leg : OrderLeg) : OrderLeg :=
  match acceptedOrderIds.get? leg.id with
  | some orderId => leg.acknowledged orderId timestamp
  | none => if leg.id ∈ rejectedLegIds then leg.inStatus .rejected timestamp else leg

/-- `record_submission`. -/
def recordSubmission (state : OrderGroupState) (acceptedOrderIds : Dict UUID String)
    (rejectedLegIds : Finset UUID) (timestamp : Instant) : OrderGroupState :=
  let legs := state.legs.map (submittedLeg acceptedOrderIds rejectedLegIds timestamp)
  let status : OrderGroupStatus :=
    if acceptedOrderIds.length = state.legs.length then .working
    else if acceptedOrderIds.length ≠ 0 then .imbalanced
    else .failed
  refreshInventory { state with group := state.group.inPhase status timestamp, legs := legs }
    timestamp true

/-- The status of a leg that has just been filled up to `newFilled`. -/
def filledStatus (leg : OrderLeg) (newFilled : ℚ) : OrderLegStatus :=
  if newFilled = leg.size then .filled
  -- A trade can win the race with a cancel acknowledgement.
  else if leg.status = .cancelled then .cancelled
  -- The outstanding cancellation is preserved.
  else if leg.status = .cancelPending then .cancelPending
  else .partiallyFilled

/-- The leg after a fill of `size` at `price`. -/
def OrderLeg.applyFill (leg : OrderLeg) (size price feeUsd : ℚ) (timestamp : Instant) : OrderLeg :=
  let newFilled := leg.filledSize + size
  let previousValue := (leg.averageFillPrice.getD 0) * leg.filledSize
  { leg with
    filledSize := newFilled
    averageFillPrice := some ((previousValue + price * size) / newFilled)
    feePaidUsd := leg.feePaidUsd + feeUsd
    status := filledStatus leg newFilled
    version := leg.version + 1
    updatedAt := timestamp }

/-- One leg of `record_fill`: a leg with the id takes the fill, if it fits. -/
def fillLeg (legId : UUID) (size price feeUsd : ℚ) (timestamp : Instant) (leg : OrderLeg) :
    Except ManagerError OrderLeg :=
  if leg.id ≠ legId then .ok leg
  else if size > leg.remainingSize then .error (.valueError "fill exceeds remaining leg size")
  else .ok (leg.applyFill size price feeUsd timestamp)

/-- `record_fill`. -/
def recordFill (state : OrderGroupState) (fillId : String) (legId : UUID)
    (size price feeUsd : ℚ) (timestamp : Instant) : Except ManagerError OrderGroupState :=
  if fillId ∈ state.seenFillIds then .ok state
  else if size ≤ 0 ∨ price ≤ 0 ∨ price ≥ 1 ∨ feeUsd < 0 then .error (.valueError "invalid fill")
  else do
    let legs ← state.legs.mapM (fillLeg legId size price feeUsd timestamp)
    if legs.all fun leg => leg.id ≠ legId then throw (.unknownLeg legId)
    pure (refreshInventory
      { state with legs := legs, seenFillIds := insert fillId state.seenFillIds } timestamp false)

/-- A leg after `record_fill`'s loop. -/
def filledLeg (legId : UUID) (size price feeUsd : ℚ) (timestamp : Instant) (leg : OrderLeg) :
    OrderLeg :=
  if leg.id = legId then leg.applyFill size price feeUsd timestamp else leg

theorem fillLeg_ok_iff {legId : UUID} {size price feeUsd : ℚ} {timestamp : Instant}
    {leg result : OrderLeg} :
    fillLeg legId size price feeUsd timestamp leg = .ok result ↔
      (leg.id = legId → size ≤ leg.remainingSize) ∧
        result = filledLeg legId size price feeUsd timestamp leg := by
  unfold fillLeg filledLeg
  by_cases target : leg.id = legId
  · by_cases fits : size ≤ leg.remainingSize
    · simp [target, fits, not_lt.mpr fits, eq_comm]
    · simp [target, fits, lt_of_not_ge fits]
  · simp [target, eq_comm]

theorem recordFill_of_seen {state : OrderGroupState} {fillId : String} (legId : UUID)
    (size price feeUsd : ℚ) (timestamp : Instant) (seen : fillId ∈ state.seenFillIds) :
    recordFill state fillId legId size price feeUsd timestamp = .ok state := by
  simp [recordFill, seen]

/-- The bounds on the numbers of a fill. -/
structure FillEconomics (size price feeUsd : ℚ) : Prop where
  size_pos : 0 < size
  price_bounds : 0 < price ∧ price < 1
  fee_nonneg : 0 ≤ feeUsd

/-- The average price of a valid leg after a fill is a price. -/
theorem OrderLeg.Valid.applyFill_average {leg : OrderLeg} {size price feeUsd : ℚ} (valid : leg.Valid)
    (economics : FillEconomics size price feeUsd) (timestamp : Instant) :
    ∃ average, (leg.applyFill size price feeUsd timestamp).averageFillPrice = some average ∧
      0 < average ∧ average < 1 := by
  obtain ⟨sized, ⟨positive, below⟩, -⟩ := economics
  refine ⟨_, rfl, ?_⟩
  rcases lt_or_eq_of_le valid.fields.filled with filled | unfilled
  · obtain ⟨average, known⟩ := Option.ne_none_iff_exists'.mp (valid.shape.priced filled)
    obtain ⟨low, high⟩ := valid.fields.average average known
    rw [known, Option.getD_some]
    have total : 0 < leg.filledSize + size := by linarith
    have paid := mul_pos low filled
    have paying := mul_pos positive sized
    have saved := mul_pos (sub_pos.mpr high) filled
    have saving := mul_pos (sub_pos.mpr below) sized
    refine ⟨div_pos (by linarith) total, (div_lt_one total).mpr ?_⟩
    linarith
  · rw [valid.shape.unpriced unfilled.symm, ← unfilled]
    have same : ((none : Option ℚ).getD 0 * 0 + price * size) / (0 + size) = price := by
      rw [mul_zero, zero_add, zero_add, mul_div_assoc, div_self sized.ne', mul_one]
    rw [same]
    exact ⟨positive, below⟩

/-- When `record_fill` accepts a new fill, and the state it then returns. -/
theorem recordFill_ok_iff {state result : OrderGroupState} {fillId : String} {legId : UUID}
    {size price feeUsd : ℚ} {timestamp : Instant} (fresh : fillId ∉ state.seenFillIds) :
    recordFill state fillId legId size price feeUsd timestamp = .ok result ↔
      FillEconomics size price feeUsd ∧ (∃ leg ∈ state.legs, leg.id = legId) ∧
        (∀ leg ∈ state.legs, leg.id = legId → size ≤ leg.remainingSize) ∧
        result = refreshInventory
          { state with
            legs := state.legs.map (filledLeg legId size price feeUsd timestamp)
            seenFillIds := insert fillId state.seenFillIds } timestamp false := by
  unfold recordFill
  rw [if_neg fresh]
  by_cases invalid : size ≤ 0 ∨ price ≤ 0 ∨ price ≥ 1 ∨ feeUsd < 0
  · rw [if_pos invalid]
    constructor
    · intro accepted
      cases accepted
    · rintro ⟨economics, -⟩
      have sized := economics.size_pos
      have priced := economics.price_bounds
      have fee := economics.fee_nonneg
      rcases invalid with h | h | h | h <;> linarith [priced.1, priced.2]
  rw [if_neg invalid]
  push Not at invalid
  obtain ⟨sized, positive, below, fee⟩ := invalid
  have economics : FillEconomics size price feeUsd := ⟨sized, ⟨positive, below⟩, fee⟩
  have ids : ∀ leg, (filledLeg legId size price feeUsd timestamp leg).id = leg.id := by
    intro leg
    unfold filledLeg
    split <;> rfl
  cases looped : state.legs.mapM (fillLeg legId size price feeUsd timestamp) with
  | error problem =>
      simp only [Bind.bind, Except.bind, reduceCtorEq, false_iff]
      rintro ⟨-, -, fits, -⟩
      rw [(Checked.mapM_ok_iff fun _ _ => fillLeg_ok_iff).mpr ⟨fits, rfl⟩] at looped
      cases looped
  | ok legs =>
      obtain ⟨fits, rfl⟩ := (Checked.mapM_ok_iff fun _ _ => fillLeg_ok_iff).mp looped
      by_cases found : ∃ leg ∈ state.legs, leg.id = legId
      · have notAll : ((state.legs.map (filledLeg legId size price feeUsd timestamp)).all
            fun leg => leg.id ≠ legId) = false := by
          obtain ⟨leg, member, named⟩ := found
          simp only [List.all_map, List.all_eq_false, Function.comp, ids]
          exact ⟨leg, member, by simp [named]⟩
        simp only [Bind.bind, Except.bind, notAll, pure, Except.pure]
        simp only [Bool.false_eq_true, if_false, Except.ok.injEq]
        exact ⟨fun h => ⟨economics, found, fits, h.symm⟩, fun h => h.2.2.2.symm⟩
      · have all : ((state.legs.map (filledLeg legId size price feeUsd timestamp)).all
            fun leg => leg.id ≠ legId) = true := by
          simp only [List.all_map, List.all_eq_true, Function.comp, ids]
          intro leg member
          simpa using fun named => found ⟨leg, member, named⟩
        simp only [Bind.bind, Except.bind, all, if_true, throw, throwThe, MonadExceptOf.throw,
          reduceCtorEq, false_iff]
        exact fun h => found h.2.1

/-- What an accepted `record_fill` did: nothing for a fill id it has seen, else it filled
the leg and refreshed the inventory. -/
theorem recordFill_cases {state next : OrderGroupState} {fillId : String} {legId : UUID}
    {size price feeUsd : ℚ} {timestamp : Instant}
    (accepted : recordFill state fillId legId size price feeUsd timestamp = .ok next) :
    fillId ∈ state.seenFillIds ∧ next = state ∨
      fillId ∉ state.seenFillIds ∧ FillEconomics size price feeUsd ∧
        (∀ leg ∈ state.legs, leg.id = legId → size ≤ leg.remainingSize) ∧
        next = refreshInventory
          { state with
            legs := state.legs.map (filledLeg legId size price feeUsd timestamp)
            seenFillIds := insert fillId state.seenFillIds } timestamp false := by
  by_cases seen : fillId ∈ state.seenFillIds
  · rw [recordFill_of_seen _ _ _ _ _ seen] at accepted
    exact .inl ⟨seen, (Except.ok.inj accepted).symm⟩
  · obtain ⟨economics, -, fits, result⟩ := (recordFill_ok_iff seen).mp accepted
    exact .inr ⟨seen, economics, fits, result⟩

/-- `freeze_after_hedge_failure`. -/
def freezeAfterHedgeFailure (state : OrderGroupState) (reason : String) (timestamp : Instant) :
    OrderGroupState × OrderManagerAction :=
  ({ state with group := state.group.inPhase .frozen timestamp }, ⟨.freeze, [], none, reason⟩)

/-- One leg of `record_hedge_submission`. -/
def hedgeSubmissionLeg (hedgeLegId : UUID) (orderId : Option String) (timestamp : Instant)
    (leg : OrderLeg) : Except ManagerError OrderLeg :=
  if leg.id ≠ hedgeLegId then .ok leg
  else if leg.purpose ≠ .imbalanceHedge then
    .error (.valueError "record_hedge_submission requires a hedge leg")
  else
    match orderId with
    | some text =>
        if text ≠ "" then .ok (leg.acknowledged text timestamp)
        else .ok (leg.inStatus .rejected timestamp)
    | none => .ok (leg.inStatus .rejected timestamp)

/-- `record_hedge_submission`. -/
def recordHedgeSubmission (state : OrderGroupState) (hedgeLegId : UUID) (orderId : Option String)
    (timestamp : Instant) : Except ManagerError (OrderGroupState × OrderManagerAction) := do
  let legs ← state.legs.mapM (hedgeSubmissionLeg hedgeLegId orderId timestamp)
  if legs.all fun leg => leg.id ≠ hedgeLegId then throw (.unknownHedgeLeg hedgeLegId)
  if truthy orderId then pure ({ state with legs := legs }, .idle)
  else
    pure (freezeAfterHedgeFailure { state with legs := legs }
      "deterministic imbalance hedge was rejected" timestamp)

/-- A leg after `record_hedge_submission`'s loop. -/
def hedgeSubmittedLeg (hedgeLegId : UUID) (orderId : Option String) (timestamp : Instant)
    (leg : OrderLeg) : OrderLeg :=
  if leg.id ≠ hedgeLegId then leg
  else if truthy orderId then leg.acknowledged (orderId.getD "") timestamp
  else leg.inStatus .rejected timestamp

theorem hedgeSubmissionLeg_ok_iff {hedgeLegId : UUID} {orderId : Option String}
    {timestamp : Instant} {leg result : OrderLeg} :
    hedgeSubmissionLeg hedgeLegId orderId timestamp leg = .ok result ↔
      (leg.id = hedgeLegId → leg.purpose = .imbalanceHedge) ∧
        result = hedgeSubmittedLeg hedgeLegId orderId timestamp leg := by
  unfold hedgeSubmissionLeg hedgeSubmittedLeg
  by_cases target : leg.id = hedgeLegId
  · by_cases hedge : leg.purpose = .imbalanceHedge
    · cases orderId with
      | none => simp [target, hedge, truthy, eq_comm]
      | some text => by_cases blank : text = "" <;> simp [target, hedge, truthy, blank, eq_comm]
    · simp [target, hedge]
  · simp [target, eq_comm]

/-- When `record_hedge_submission` accepts, and what it then returns. -/
theorem recordHedgeSubmission_ok_iff {state : OrderGroupState} {hedgeLegId : UUID}
    {orderId : Option String} {timestamp : Instant}
    {result : OrderGroupState × OrderManagerAction} :
    recordHedgeSubmission state hedgeLegId orderId timestamp = .ok result ↔
      (∃ leg ∈ state.legs, leg.id = hedgeLegId) ∧
        (∀ leg ∈ state.legs, leg.id = hedgeLegId → leg.purpose = .imbalanceHedge) ∧
        result =
          (let legs := state.legs.map (hedgeSubmittedLeg hedgeLegId orderId timestamp)
           if truthy orderId then ({ state with legs := legs }, .idle)
           else freezeAfterHedgeFailure { state with legs := legs }
             "deterministic imbalance hedge was rejected" timestamp) := by
  unfold recordHedgeSubmission
  have ids : ∀ leg, (hedgeSubmittedLeg hedgeLegId orderId timestamp leg).id = leg.id := by
    intro leg
    unfold hedgeSubmittedLeg
    repeat' split
    all_goals rfl
  cases looped : state.legs.mapM (hedgeSubmissionLeg hedgeLegId orderId timestamp) with
  | error problem =>
      simp only [Bind.bind, Except.bind, reduceCtorEq, false_iff]
      rintro ⟨-, hedges, -⟩
      rw [(Checked.mapM_ok_iff fun _ _ => hedgeSubmissionLeg_ok_iff).mpr ⟨hedges, rfl⟩] at looped
      cases looped
  | ok legs =>
      obtain ⟨hedges, rfl⟩ := (Checked.mapM_ok_iff fun _ _ => hedgeSubmissionLeg_ok_iff).mp looped
      have allIff : ((state.legs.map (hedgeSubmittedLeg hedgeLegId orderId timestamp)).all
          fun leg => leg.id ≠ hedgeLegId) = true ↔ ¬ ∃ leg ∈ state.legs, leg.id = hedgeLegId := by
        simp only [List.all_map, List.all_eq_true, Function.comp, ids, decide_eq_true_eq]
        push Not
        rfl
      by_cases found : ∃ leg ∈ state.legs, leg.id = hedgeLegId
      · simp only [Bind.bind, Except.bind, pure, Except.pure]
        rw [if_neg (fun all => allIff.mp all found)]
        by_cases named : truthy orderId = true
        · simp only [named, if_true, Except.ok.injEq]
          exact ⟨fun h => ⟨found, hedges, h.symm⟩, fun h => h.2.2.symm⟩
        · simp only [named, if_false, Bool.false_eq_true, Except.ok.injEq]
          exact ⟨fun h => ⟨found, hedges, h.symm⟩, fun h => h.2.2.symm⟩
      · simp only [Bind.bind, Except.bind]
        rw [if_pos (allIff.mpr found)]
        simp [throw, throwThe, MonadExceptOf.throw, found]

/-- `_terminal_without_working_orders`. -/
def terminalWithoutWorkingOrders (state : OrderGroupState) (timestamp : Instant) :
    OrderGroupState × OrderManagerAction :=
  let refreshed := refreshInventory state timestamp true
  if refreshed.group.directionalYesSize ≠ 0 ∨ refreshed.group.directionalNoSize ≠ 0 then
    ({ refreshed with group := refreshed.group.inPhase .frozen timestamp },
      ⟨.freeze, [], none, "terminal group retains unhedged directional inventory"⟩)
  else if refreshed.group.pairedSize > 0 then
    ({ refreshed with group := refreshed.group.inPhase .paired timestamp }, .idle)
  else
    ({ refreshed with group := refreshed.group.inPhase .cancelled timestamp }, .idle)

/-- The leg rests on the exchange under a known id with size left, so its
deadline asks for a cancellation. -/
def OrderLeg.cancellable (leg : OrderLeg) : Bool :=
  truthy leg.clobOrderId && leg.remainingSize > 0 &&
    leg.status ∈ [OrderLegStatus.open, .partiallyFilled, .submitting]

/-- One leg of `on_leg_deadline`. -/
def deadlineLeg (timestamp : Instant) (leg : OrderLeg) : OrderLeg :=
  if leg.cancellable then leg.inStatus .cancelPending timestamp else leg

/-- The order ids that `on_leg_deadline` asks to cancel. -/
def cancelIds (legs : List OrderLeg) : List String :=
  (legs.filter OrderLeg.cancellable).filterMap OrderLeg.clobOrderId

/-- The group statuses that `on_leg_deadline` leaves alone. -/
def settledStatuses : List OrderGroupStatus :=
  [.paired, .cancelled, .frozen, .failed]

/-- `on_leg_deadline`. -/
def onLegDeadline (state : OrderGroupState) (timestamp : Instant) :
    OrderGroupState × OrderManagerAction :=
  if timestamp < state.group.legDeadlineAt ∨ state.group.status ∈ settledStatuses then
    (state, .idle)
  else if cancelIds state.legs ≠ [] then
    ({ state with
        group := state.group.inPhase .cancelling timestamp
        legs := state.legs.map (deadlineLeg timestamp) },
      ⟨.cancelOrders, cancelIds state.legs, none, "pair leg deadline expired"⟩)
  else terminalWithoutWorkingOrders { state with legs := state.legs.map (deadlineLeg timestamp) }
    timestamp

/-- The exchange confirmed the cancellation of this pending leg. -/
def OrderLeg.cancelConfirmed (cancelledOrderIds : Finset String) (leg : OrderLeg) : Bool :=
  (match leg.clobOrderId with
    | some orderId => orderId ∈ cancelledOrderIds
    | none => false) && leg.status = .cancelPending

/-- One leg of `confirm_cancellations`. -/
def confirmedLeg (cancelledOrderIds : Finset String) (timestamp : Instant) (leg : OrderLeg) :
    OrderLeg :=
  if leg.cancelConfirmed cancelledOrderIds then leg.inStatus .cancelled timestamp else leg

theorem bought_confirmed {cancelledOrderIds : Finset String} {timestamp : Instant}
    (outcome : Outcome) (legs : List OrderLeg) :
    bought outcome (legs.map (confirmedLeg cancelledOrderIds timestamp)) = bought outcome legs := by
  refine bought_map outcome legs fun leg => ?_
  unfold confirmedLeg
  split <;> exact ⟨rfl, rfl, rfl⟩

/-- A confirmed leg is no longer pending. -/
theorem confirmedLeg_pending_iff {cancelledOrderIds : Finset String} {timestamp : Instant}
    (leg : OrderLeg) :
    (confirmedLeg cancelledOrderIds timestamp leg).status = .cancelPending ↔
      leg.status = .cancelPending ∧ leg.cancelConfirmed cancelledOrderIds = false := by
  unfold confirmedLeg
  split
  · rename_i confirmed
    simp [OrderLeg.inStatus, confirmed]
  · rename_i unconfirmed
    simpa using fun _ => unconfirmed

/-- `abs(yes_filled - no_filled)`. -/
def imbalance (legs : List OrderLeg) : ℚ :=
  |bought .yes legs - bought .no legs|

/-- The outcome that is short. -/
def neededOutcome (legs : List OrderLeg) : Outcome :=
  if bought .yes legs > bought .no legs then .no else .yes

namespace PairOrderManager

variable (manager : PairOrderManager)

/-- The quote hedges `legs` within the notional bound. -/
def hedgeable (legs : List OrderLeg) (quote : HedgeQuote) : Prop :=
  quote.outcome = neededOutcome legs ∧ imbalance legs ≤ quote.availableSize ∧
    imbalance legs * (quote.price + quote.feePerShare) ≤ manager.maximumHedgeNotionalUsd

instance (legs : List OrderLeg) (quote : HedgeQuote) : Decidable (manager.hedgeable legs quote) :=
  inferInstanceAs (Decidable (_ ∧ _ ∧ _))

/-- The hedge leg of `confirm_cancellations`. -/
def hedgeLeg (state : OrderGroupState) (quote : HedgeQuote) (hedgeLegId : UUID)
    (timestamp : Instant) : OrderLeg where
  id := hedgeLegId
  groupId := state.group.id
  outcome := neededOutcome state.legs
  tokenId := quote.tokenId
  side := .buy
  purpose := .imbalanceHedge
  liquidityRole := .taker
  postOnly := false
  price := quote.price
  size := imbalance state.legs
  filledSize := 0
  averageFillPrice := none
  feePaidUsd := 0
  status := .planned
  clobOrderId := none
  deadlineAt := timestamp + manager.hedgeDeadline
  version := 1
  createdAt := timestamp
  updatedAt := timestamp

/-- The part of `confirm_cancellations` after the refresh, when nothing is left
pending. -/
def hedgeOrSettle (updated : OrderGroupState) (hedgeQuote : Option HedgeQuote) (hedgeLegId : UUID)
    (timestamp : Instant) : OrderGroupState × OrderManagerAction :=
  if imbalance updated.legs = 0 then terminalWithoutWorkingOrders updated timestamp
  else
    let frozen : OrderGroupState × OrderManagerAction :=
      ({ updated with group := updated.group.inPhase .frozen timestamp },
        ⟨.freeze, [], none, "no bounded deterministic hedge was available"⟩)
    match hedgeQuote with
    | none => frozen
    | some quote =>
        if manager.hedgeable updated.legs quote then
          let leg := manager.hedgeLeg updated quote hedgeLegId timestamp
          ({ updated with
              group := updated.group.inPhase .hedging timestamp
              legs := updated.legs ++ [leg] },
            ⟨.submitHedge, [], some leg, "neutralize filled single-leg inventory"⟩)
        else frozen

/-- `confirm_cancellations`. -/
def confirmCancellations (state : OrderGroupState) (cancelledOrderIds : Finset String)
    (hedgeQuote : Option HedgeQuote) (hedgeLegId : UUID) (timestamp : Instant) :
    OrderGroupState × OrderManagerAction :=
  let updated := refreshInventory
    { state with legs := state.legs.map (confirmedLeg cancelledOrderIds timestamp) } timestamp true
  if updated.legs.any fun leg => leg.status = .cancelPending then (updated, .idle)
  else manager.hedgeOrSettle updated hedgeQuote hedgeLegId timestamp

/-- The `OrderLeg(...)` call never raises: the imbalance is positive and the
quote is within its own bounds. -/
theorem hedgeLeg_valid (state : OrderGroupState) (quote : HedgeQuote) (hedgeLegId : UUID)
    (timestamp : Instant) (imbalanced : imbalance state.legs ≠ 0) :
    (manager.hedgeLeg state quote hedgeLegId timestamp).Valid := by
  have sized : 0 < imbalance state.legs := lt_of_le_of_ne (abs_nonneg _) (Ne.symm imbalanced)
  refine ⟨⟨quote.token_nonempty, quote.price_bounds, sized, le_rfl, by simp [hedgeLeg], le_rfl,
    le_rfl⟩, ⟨sized.le, by simp [hedgeLeg], by simp [hedgeLeg], by simp [hedgeLeg],
    by simp [hedgeLeg], by simp [hedgeLeg], by simp [hedgeLeg]⟩⟩

end PairOrderManager

end Polybot
