import Polybot.Execution.PairInventory
import Polybot.Store.Accounting
import Polybot.Store.PairStore

/-!
The order manager and `commit_pair_fill` agree.

`record_fill` computes a state from the loaded one; the transactional function
recomputes the leg and the group from its rows and refuses a payload that
differs. The two computations are compared on every durable group
(`recordFill_recomputed`), and the function answers `applied` exactly for the
fills that are `FillAdmissible`: the four conditions are the function's own,
`record_fill` does not know them.
-/

namespace Polybot

open Checked Interaction

/-! ### The two status machines -/

/-- No hedge leg is open for the function exactly when all are terminal for the
manager. -/
theorem nonterminalHedges_eq_zero_iff (legs : List OrderLeg) :
    nonterminalHedges legs = 0 ↔ (hedgeLegs legs).all OrderLeg.isTerminal = true := by
  unfold nonterminalHedges hedgeLegs OrderLeg.isTerminal terminalOrderLegStatuses
  rw [List.length_eq_zero_iff, List.filter_eq_nil_iff, List.all_eq_true]
  constructor
  · intro none leg member
    obtain ⟨inLegs, hedge⟩ := List.mem_filter.mp member
    have closed := none leg inLegs
    simp only [decide_eq_true_eq] at hedge closed ⊢
    by_contra working
    exact closed ⟨hedge, working⟩
  · intro all leg inLegs
    simp only [decide_eq_true_eq, not_and, not_not]
    intro hedge
    exact of_decide_eq_true (all leg (List.mem_filter.mpr ⟨inLegs, decide_eq_true hedge⟩))

theorem hedgesTerminal_iff (legs : List OrderLeg) :
    hedgesTerminal legs = true ↔ hedgeLegs legs ≠ [] ∧ nonterminalHedges legs = 0 := by
  unfold hedgesTerminal
  rw [nonterminalHedges_eq_zero_iff, Bool.and_eq_true, decide_eq_true_eq]

/-- The refreshed status of the legs is the one the function demands, if a
hedging group has a hedge leg. -/
theorem refreshedStatus_eq_expected {status : OrderGroupStatus} (target : ℚ) (legs : List OrderLeg)
    (hedged : status = .hedging → hedgeLegs legs ≠ []) :
    refreshedStatus status target legs (min (bought .yes legs) (bought .no legs))
      (max 0 (bought .yes legs - bought .no legs)) (max 0 (bought .no legs - bought .yes legs))
      false = expectedGroupStatus status target legs := by
  have flat := balanced_iff (bought .yes legs) (bought .no legs)
  have terminal := hedgesTerminal_iff legs
  unfold refreshedStatus expectedGroupStatus
  by_cases same : bought .yes legs = bought .no legs
  · simp only [same, and_true, and_false, if_false, not_true_eq_false,
      ne_eq]
    cases status with
    | hedging =>
        rcases Nat.eq_zero_or_pos (nonterminalHedges legs) with closed | working
        · simp [terminal.mpr ⟨hedged rfl, closed⟩, closed]
        · have running : hedgesTerminal legs = false := by
            rw [← Bool.not_eq_true, terminal]
            omega
          simp [running, working]
    | _ => simp
  · have excess := not_not.mp (mt flat.mp same)
    simp only [excess, same, not_true_eq_false, and_true, and_false, if_false, not_false_eq_true,
      ne_eq, if_true]
    cases status with
    | hedging =>
        rcases Nat.eq_zero_or_pos (nonterminalHedges legs) with closed | working
        · simp [terminal.mpr ⟨hedged rfl, closed⟩, closed]
        · have running : hedgesTerminal legs = false := by
            rw [← Bool.not_eq_true, terminal]
            omega
          simp [running, working]
    | _ => simp

/-- Without a hedge leg a hedging group stays `HEDGING` for the manager, and the
function demands a finished status. -/
theorem refreshedStatus_ne_expected {target paired yes no : ℚ} {legs : List OrderLeg}
    (unhedged : hedgeLegs legs = []) :
    refreshedStatus .hedging target legs paired yes no false ≠
      expectedGroupStatus .hedging target legs := by
  have closed : nonterminalHedges legs = 0 := by
    rw [nonterminalHedges_eq_zero_iff, unhedged]
    rfl
  have running : hedgesTerminal legs = false := by simp [hedgesTerminal, unhedged]
  have manager : refreshedStatus .hedging target legs paired yes no false = .hedging := by
    simp [refreshedStatus, running]
  rw [manager]
  unfold expectedGroupStatus
  simp only [closed, lt_irrefl, and_false, if_false, reduceCtorEq, or_self, if_true, gt_iff_lt]
  split <;> simp

/-! ### The recomputed values -/

/-- The values that `record_fill` gives the leg and the group are those that the
function recomputes from the durable leg and group row. -/
structure Recomputed (row : GroupRow) (before target : OrderLeg) (fill : FillPayload)
    (after : OrderGroupState) : Prop where
  delta : LegDelta before target fill
  average : AveragePrice before target fill
  identity : SameIdentity before target
  legStatus : target.status = expectedLegStatus before fill.size
  inventory : InventoryMatches (groupPayload after.group) after.legs row.targetPairSize
  groupStatus : after.group.status = expectedGroupStatus row.status row.targetPairSize after.legs

/-- A refresh gives the group the inventory that the functions demand. -/
theorem refreshInventory_matches (state : OrderGroupState) (timestamp : Instant)
    (preservePhase : Bool) :
    InventoryMatches (groupPayload (refreshInventory state timestamp preservePhase).group)
      state.legs state.group.targetPairSize := by
  refine ⟨rfl, ?_, ?_⟩
  · exact (excess_left _ _).trans (max_comm _ _)
  · exact (excess_right _ _).trans (max_comm _ _)

/-! ### The pair inventory -/

/-- What the inventory row holds of an outcome. -/
def InventoryRow.held (row : InventoryRow) : Outcome → ℚ
  | .yes => row.yesSize
  | .no => row.noSize

theorem averageCost_nonneg (size : ℚ) {cost : ℚ} (cost_nonneg : 0 ≤ cost) : 0 ≤ averageCost size cost := by
  unfold averageCost
  split
  · rename_i positive
    exact div_nonneg cost_nonneg (le_of_lt positive)
  · exact le_rfl

/-- The derived columns satisfy the row's constraint. -/
theorem derived_check {row : InventoryRow} (sizes : 0 ≤ row.yesSize ∧ 0 ≤ row.noSize)
    (costs : 0 ≤ row.yesCostPusd ∧ 0 ≤ row.noCostPusd) : row.derived.Check := by
  have yes := averageCost_nonneg row.yesSize costs.1
  have no := averageCost_nonneg row.noSize costs.2
  have paired : 0 ≤ min row.yesSize row.noSize := le_min sizes.1 sizes.2
  refine ⟨sizes, costs, ⟨paired, rfl⟩, mul_nonneg paired (add_nonneg yes no), rfl, rfl, ?_,
    Nat.succ_pos _⟩
  exact add_nonneg (mul_nonneg (le_max_right _ _) yes) (mul_nonneg (le_max_right _ _) no)

/-- One side takes the fill: a BUY always, a SELL of what is held. -/
theorem sideAfterFill_ok {side : Side} (outcome : String) {size cost : ℚ} {fill : FillPayload}
    (size_nonneg : 0 ≤ size) (cost_nonneg : 0 ≤ cost)
    (economics : 0 < fill.size ∧ 0 < fill.price ∧ 0 ≤ fill.feePaidPusd)
    (held : side = .sell → fill.size ≤ size) :
    ∃ next, sideAfterFill side outcome size cost fill = .ok next ∧ 0 ≤ next.1 ∧ 0 ≤ next.2.1 := by
  obtain ⟨sized, priced, fee⟩ := economics
  cases side with
  | buy =>
      refine ⟨_, rfl, by positivity, ?_⟩
      have paid := mul_nonneg sized.le priced.le
      linarith
  | sell =>
      refine ⟨_, require_bind_of (held rfl), ?_, le_max_left _ _⟩
      exact sub_nonneg.mpr (held rfl)

theorem sideAfterFill_held {outcome : String} {size cost : ℚ} {fill : FillPayload} {next : ℚ × ℚ × ℚ}
    (done : sideAfterFill .sell outcome size cost fill = .ok next) : fill.size ≤ size :=
  (require_bind_ok_iff.mp done).1

theorem inventoryAfterFill_ok {row : InventoryRow} (leg : OrderLeg) (fill : FillPayload)
    (check : row.Check) (economics : 0 < fill.size ∧ 0 < fill.price ∧ 0 ≤ fill.feePaidPusd)
    (held : leg.side = .sell → fill.size ≤ row.held leg.outcome) :
    ∃ next, inventoryAfterFill row leg fill = .ok next ∧ next.Check := by
  unfold inventoryAfterFill
  cases outcome : leg.outcome with
  | yes =>
      rw [outcome] at held
      obtain ⟨side, done, sized, paid⟩ := sideAfterFill_ok "YES" check.sizes.1
        check.costs.1 economics held
      refine ⟨_, bind_ok_iff.mpr ⟨side, done, rfl⟩, ?_⟩
      exact derived_check ⟨sized, check.sizes.2⟩ ⟨paid, check.costs.2⟩
  | no =>
      rw [outcome] at held
      obtain ⟨side, done, sized, paid⟩ := sideAfterFill_ok "NO" check.sizes.2
        check.costs.2 economics held
      refine ⟨_, bind_ok_iff.mpr ⟨side, done, rfl⟩, ?_⟩
      exact derived_check ⟨check.sizes.1, sized⟩ ⟨check.costs.1, paid⟩

theorem inventoryAfterFill_held {row next : InventoryRow} {leg : OrderLeg} {fill : FillPayload}
    (done : inventoryAfterFill row leg fill = .ok next) (sells : leg.side = .sell) :
    fill.size ≤ row.held leg.outcome := by
  unfold inventoryAfterFill at done
  rw [sells] at done
  cases outcome : leg.outcome with
  | yes =>
      rw [outcome] at done
      obtain ⟨_, side, -⟩ := bind_ok_iff.mp done
      exact sideAfterFill_held side
  | no =>
      rw [outcome] at done
      obtain ⟨_, side, -⟩ := bind_ok_iff.mp done
      exact sideAfterFill_held side

/-- The inventory row of a durable database, or the inserted default. -/
theorem Database.Consistent.inventoryRow_check {db : Database} (consistent : db.Consistent)
    (accountId walletId marketId : String) :
    (db.inventoryRow accountId walletId marketId).Check := by
  unfold Database.inventoryRow
  cases found : db.inventory.find? fun row => row.accountId = accountId ∧
      row.tradingWalletId = walletId ∧ row.marketId = marketId with
  | none => exact ⟨by simp, by simp, by simp, by simp, by simp, by simp, by simp, by simp⟩
  | some row => exact consistent.inventoryCheck row (List.mem_of_find?_eq_some found)

section Fill

variable {db : Database} {accountId : String} {row : GroupRow} {state after : OrderGroupState}
  {fill : CoordinatorFill} {now : Instant}

/-- The states of a fill that `record_fill` accepted on a loaded state. -/
structure RecordedFill (db : Database) (accountId : String) (row : GroupRow)
    (state : OrderGroupState) (fill : CoordinatorFill) (after : OrderGroupState) : Prop where
  durable : db.Durable
  loaded : Loaded db accountId row state
  account : fill.accountId = accountId
  group : fill.groupId = state.group.id
  unseen : fill.fillId ∉ state.seenFillIds
  accepted : recordFill state fill.fillId fill.legId fill.size fill.price fill.feeUsd
    fill.occurredAt = .ok after

/-- The leg that takes the fill. -/
structure Target (state : OrderGroupState) (fill : CoordinatorFill) (leg : OrderLeg) : Prop where
  member : leg ∈ state.legs
  named : leg.id = fill.legId
  fits : fill.size ≤ leg.remainingSize

/-- The target leg after the fill. -/
def CoordinatorFill.applied (fill : CoordinatorFill) (leg : OrderLeg) : OrderLeg :=
  leg.applyFill fill.size fill.price fill.feeUsd fill.occurredAt

namespace RecordedFill

variable (recorded : RecordedFill db accountId row state fill after)

include recorded

theorem target : ∃ leg, Target state fill leg := by
  obtain ⟨-, ⟨leg, member, named⟩, fits, -⟩ := (recordFill_ok_iff recorded.unseen).mp recorded.accepted
  exact ⟨leg, member, named, fits leg member named⟩

theorem after_eq : after = refreshInventory
    { state with
      legs := state.legs.map (filledLeg fill.legId fill.size fill.price fill.feeUsd fill.occurredAt)
      seenFillIds := insert fill.fillId state.seenFillIds } fill.occurredAt false :=
  ((recordFill_ok_iff recorded.unseen).mp recorded.accepted).2.2.2

theorem after_legs : after.legs =
    state.legs.map (filledLeg fill.legId fill.size fill.price fill.feeUsd fill.occurredAt) := by
  rw [recorded.after_eq]
  rfl

theorem ids : after.legs.map OrderLeg.id = state.legs.map OrderLeg.id := by
  rw [recorded.after_legs, List.map_map]
  refine List.map_congr_left fun leg _ => ?_
  simp only [Function.comp, filledLeg]
  split <;> rfl

theorem hedgeLegs_eq_nil_iff : hedgeLegs after.legs = [] ↔ hedgeLegs state.legs = [] := by
  rw [recorded.after_legs]
  unfold hedgeLegs
  rw [List.filter_map, List.map_eq_nil_iff]
  refine Eq.congr_left (List.filter_congr fun leg _ => ?_)
  simp only [Function.comp, filledLeg]
  split <;> rfl

theorem distinct : (state.legs.map OrderLeg.id).Nodup := by
  refine (recorded.loaded.legs.map OrderLeg.id).nodup_iff.mpr ?_
  unfold Database.groupLegs
  rw [List.map_map]
  exact recorded.durable.consistent.legIds.sublist (List.filter_sublist.map _)

theorem distinct_after : (after.legs.map OrderLeg.id).Nodup := by
  rw [recorded.ids]
  exact recorded.distinct

theorem applied_mem {leg : OrderLeg} (target : Target state fill leg) :
    fill.applied leg ∈ after.legs := by
  rw [recorded.after_legs]
  exact List.mem_map.mpr ⟨leg, target.member, if_pos target.named⟩

/-- Every other leg of the state is unchanged. -/
theorem other_mem {leg : OrderLeg} (member : leg ∈ after.legs) (other : leg.id ≠ fill.legId) :
    leg ∈ state.legs := by
  rw [recorded.after_legs] at member
  obtain ⟨source, inLegs, rfl⟩ := List.mem_map.mp member
  unfold filledLeg at other ⊢
  split at other
  · rename_i named
    exact absurd named other
  · rename_i named
    rwa [if_neg named]

theorem status_eq : state.group.status = row.status ∧
    state.group.targetPairSize = row.targetPairSize ∧ state.group.version = row.version ∧
    state.group.accountId = accountId := by
  obtain ⟨identity, loaded⟩ := recorded.loaded.group
  rw [loaded]
  exact ⟨rfl, rfl, rfl, (Database.group?_some recorded.loaded.found).2.1⟩

/-- The adapter finds the leg and sends its identity. -/
theorem arguments {leg : OrderLeg} (target : Target state fill leg) :
    fillArguments accountId fill after = .ok (fill.payload leg) := by
  have found := Table.filter_key recorded.distinct_after (recorded.applied_mem target)
  have named : (fill.applied leg).id = fill.legId := target.named
  rw [named] at found
  have group : after.group.id = state.group.id ∧ after.group.accountId = state.group.accountId := by
    rw [recorded.after_eq]
    exact ⟨rfl, rfl⟩
  unfold fillArguments requireAccount
  rw [require_bind_of recorded.account, require_bind_of (group.2.trans recorded.status_eq.2.2.2),
    require_bind_of (recorded.group.trans group.1.symm), found]
  rfl

/-- Python and SQL compute the same values, unless a hedging group has no hedge
leg. -/
theorem recomputed {leg : OrderLeg} (target : Target state fill leg)
    (hedged : state.group.status = .hedging → hedgeLegs state.legs ≠ []) :
    Recomputed row leg (fill.applied leg) (fill.payload leg) after := by
  obtain ⟨status, targetSize, -, -⟩ := recorded.status_eq
  have orderId : nullif leg.clobOrderId = leg.clobOrderId := by
    have inDb := (recorded.loaded.legs.mem_iff.mp target.member)
    exact if_neg (recorded.durable.consistent.orderIds _ (Database.mem_groupLegs_iff.mp inDb).1)
  refine ⟨⟨rfl, rfl, rfl⟩, ?_, ⟨rfl, rfl, rfl, rfl, rfl, rfl, rfl, rfl, rfl, orderId, rfl, rfl⟩, ?_,
    ?_, ?_⟩
  · intro average here
    exact (Option.some.inj here).symm
  · rfl
  · rw [recorded.after_eq, ← targetSize]
    exact refreshInventory_matches _ fill.occurredAt false
  · rw [← status, ← targetSize]
    have agrees := refreshedStatus_eq_expected state.group.targetPairSize after.legs
      (fun hedging none => hedged hedging (recorded.hedgeLegs_eq_nil_iff.mp none))
    rw [← agrees, recorded.after_eq]
    unfold refreshInventory boughtByOutcome
    simp only [excess_left, excess_right]

end RecordedFill

/-! ### What the function accepts -/

theorem checkFillPayload_of {before : GroupRow} {legBefore target : OrderLeg} {fill : FillPayload}
    {group : GroupPayload} {legs : List OrderLeg}
    (found : (legs.find? fun leg => leg.id = legBefore.id) = some target)
    (onlyDurable : ∀ leg ∈ legs, leg.id ∈ (db.groupLegs accountId before.id).map OrderLeg.id)
    (facts : FillChecked db accountId before legBefore fill group legs target) :
    checkFillPayload db accountId before legBefore fill group legs = .ok target := by
  unfold checkFillPayload
  rw [require_bind_of facts.role, require_bind_of facts.fits, found]
  dsimp only
  rw [require_bind_of facts.delta, require_bind_of facts.average, require_bind_of facts.identity,
    require_bind_of facts.legStatus, require_bind_of ⟨facts.complete.1, facts.distinct⟩,
    require_bind_of ⟨facts.complete.2, onlyDurable⟩, require_bind_of facts.others,
    require_bind_of facts.inventory, require_bind_of facts.groupStatus]
  rfl

/-- The updated group row keeps its constraints. -/
theorem GroupRow.Check.updated {before : GroupRow} {group : GroupPayload} {legs : List OrderLeg}
    (check : before.Check) (nonneg : ∀ leg ∈ legs, 0 ≤ leg.filledSize)
    (inventory : InventoryMatches group legs before.targetPairSize) (status : OrderGroupStatus)
    {version : Nat} (positive : 0 < version) (now : Instant) : (before.updated group status version now).Check := by
  obtain ⟨paired, yes, no⟩ := inventory
  refine ⟨check.strategy, check.target, ?_, ?_, ?_, positive, check.research⟩
  · change 0 ≤ group.pairedSize ∧ group.pairedSize ≤ before.targetPairSize
    rw [paired]
    exact ⟨le_min (le_min (bought_nonneg nonneg) (bought_nonneg nonneg)) check.target.le,
      min_le_right _ _⟩
  · change 0 ≤ group.directionalYesSize ∧ 0 ≤ group.directionalNoSize
    rw [yes, no]
    exact ⟨le_max_right _ _, le_max_right _ _⟩
  · change ¬ (0 < group.directionalYesSize ∧ 0 < group.directionalNoSize)
    rw [yes, no]
    rintro ⟨moreYes, moreNo⟩
    rcases lt_max_iff.mp moreYes with yes | absurdity
    · rcases lt_max_iff.mp moreNo with no | absurdity
      · linarith
      · exact lt_irrefl _ absurdity
    · exact lt_irrefl _ absurdity

/-- The fills accepted by `record_fill` that the function applies. -/
structure FillAdmissible (db : Database) (accountId : String) (row : GroupRow)
    (state : OrderGroupState) (fill : CoordinatorFill) : Prop where
  named : Text.btrim fill.fillId ≠ ""
  unbound : db.event? accountId (Text.btrim fill.fillId) = none
  hedged : state.group.status = .hedging → hedgeLegs state.legs ≠ []
  held : ∀ leg ∈ state.legs, leg.id = fill.legId → leg.side = .sell →
    fill.size ≤ (db.inventoryRow accountId row.tradingWalletId row.marketId).held leg.outcome

namespace RecordedFill

variable (recorded : RecordedFill db accountId row state fill after)

include recorded

/-- The row of the group is locked at the loaded version. -/
theorem locked : db.lockGroup accountId fill.groupId state.group.version = some row := by
  obtain ⟨member, -, named⟩ := Database.group?_some recorded.loaded.found
  obtain ⟨-, -, version, -⟩ := recorded.status_eq
  obtain ⟨research, disabled⟩ := recorded.durable.consistent.research row member
  rw [recorded.group]
  refine Table.find?_strengthen recorded.loaded.found ?_ ?_
  · have owner := (Database.group?_some recorded.loaded.found).2.1
    simp [owner, named, version, research, disabled]
  · intro other matched
    simp only [decide_eq_true_eq] at matched ⊢
    exact ⟨matched.1, matched.2.1⟩

theorem after_group : after.group.id = state.group.id ∧
    after.group.accountId = state.group.accountId ∧
    after.group.version = state.group.version + 1 := by
  rw [recorded.after_eq]
  exact ⟨rfl, rfl, rfl⟩

/-- The payload of an accepted fill passes the function's checks. -/
theorem checked {leg : OrderLeg} (target : Target state fill leg)
    (values : Recomputed row leg (fill.applied leg) (fill.payload leg) after) :
    FillChecked db accountId row leg (fill.payload leg) (groupPayload after.group) after.legs
      (fill.applied leg) := by
  have inGroup : row.id = state.group.id := (Database.group?_some recorded.loaded.found).2.2
  have room : fill.size ≤ leg.size - leg.filledSize := by
    have fits := target.fits
    unfold OrderLeg.remainingSize at fits
    rcases le_max_iff.mp fits with none | some
    · exact absurd fill.size_pos (not_lt.mpr none)
    · exact some
  have same := recorded.loaded.legs
  refine ⟨⟨rfl, rfl, rfl⟩, ?_, ⟨recorded.applied_mem target, rfl⟩, values.delta, values.average,
    values.identity, values.legStatus, ?_, ⟨?_, ?_⟩, ?_, values.inventory, values.groupStatus⟩
  · change leg.filledSize + fill.size ≤ leg.size
    linarith
  · exact recorded.distinct_after
  · rw [inGroup, ← same.length_eq, recorded.after_legs, List.length_map]
  · intro durable inDb
    rw [recorded.ids]
    rw [inGroup] at inDb
    exact List.mem_map.mpr ⟨durable, same.mem_iff.mpr inDb, rfl⟩
  · intro other member differs
    have unchanged := same.mem_iff.mp (recorded.other_mem member (target.named ▸ differs))
    have orderId : other.stored = other := by
      have named := recorded.durable.consistent.orderIds _
        (Database.mem_groupLegs_iff.mp unchanged).1
      unfold OrderLeg.stored nullif
      rw [if_neg named]
    rw [orderId, inGroup]
    exact unchanged

theorem filledRow_check (now : Instant) {leg : OrderLeg} (target : Target state fill leg)
    (checked : FillChecked db accountId row leg (fill.payload leg) (groupPayload after.group)
      after.legs (fill.applied leg)) :
    (leg.filledRow (fill.applied leg) (fill.payload leg) now).RowCheck := by
  have valid := recorded.loaded.legs_valid leg target.member
  have economics : FillEconomics fill.size fill.price fill.feeUsd :=
    ⟨fill.size_pos, fill.price_bounds, fill.fee_nonneg⟩
  obtain ⟨average, known, bounds⟩ := valid.applyFill_average economics fill.occurredAt
  have inDb := Database.mem_groupLegs_iff.mp (recorded.loaded.legs.mem_iff.mp target.member)
  have durable := recorded.durable.consistent.legCheck _ inDb.1
  have filled : 0 < leg.filledSize + fill.size :=
    add_pos_of_nonneg_of_pos valid.fields.filled fill.size_pos
  refine ⟨durable.role, durable.price, durable.size, ⟨filled.le, checked.fits⟩,
    add_nonneg durable.fee fill.fee_nonneg, .inr ⟨filled, ?_⟩, Nat.succ_pos _⟩
  intro other here
  have same : other = average := Option.some.inj (here.symm.trans known)
  rwa [same]

/-- The function applies an admissible fill. -/
theorem applies (admissible : FillAdmissible db accountId row state fill) {leg : OrderLeg}
    (target : Target state fill leg) :
    ∃ next, commitPairFill db accountId state.group.version (fill.payload leg)
      (groupPayload after.group) after.legs now = .ok (.applied, next) := by
  obtain ⟨groupId, accountOf, version⟩ := recorded.after_group
  have checked := recorded.checked target (recorded.recomputed target admissible.hedged)
  obtain ⟨-, -, rowVersion, owner⟩ := recorded.status_eq
  obtain ⟨rowMember, -, inGroup⟩ := Database.group?_some recorded.loaded.found
  have inDb := recorded.loaded.legs.mem_iff.mp target.member
  have consistent := recorded.durable.consistent
  have distinct : ((db.groupLegs accountId row.id).map OrderLeg.id).Nodup := by
    rw [inGroup]
    exact (recorded.loaded.legs.map OrderLeg.id).nodup_iff.mp recorded.distinct
  have unbound : db.event? accountId (Text.btrim (fill.payload leg).clobTradeId) = none :=
    admissible.unbound
  have locked : db.lockGroup accountId (fill.payload leg).groupId state.group.version = some row :=
    recorded.locked
  have found : ((db.groupLegs accountId row.id).find? fun other =>
      other.id = (fill.payload leg).legId) = some leg := by
    have named : (fill.payload leg).legId = leg.id := target.named.symm
    rw [named]
    exact Table.find?_key distinct (inGroup ▸ inDb)
  have foundTarget : (after.legs.find? fun other => other.id = leg.id) = some (fill.applied leg) :=
    Table.find?_key recorded.distinct_after (recorded.applied_mem target)
  have onlyDurable : ∀ other ∈ after.legs,
      other.id ∈ (db.groupLegs accountId row.id).map OrderLeg.id := by
    intro other member
    have listed : other.id ∈ state.legs.map OrderLeg.id :=
      recorded.ids ▸ List.mem_map.mpr ⟨other, member, rfl⟩
    rw [inGroup]
    exact (recorded.loaded.legs.map OrderLeg.id).mem_iff.mp listed
  have positive : 0 < row.version := (consistent.groupCheck row rowMember).version
  have eventCheck : (fillEventRow accountId (Text.btrim fill.fillId) row leg
      (fill.payload leg)).Check := by
    refine ⟨?_, fill.price_bounds, fill.size_pos, fill.fee_nonneg⟩
    change Text.btrim (Text.btrim fill.fillId) ≠ ""
    unfold Text.btrim
    rw [Text.trim_trim]
    exact admissible.named
  have nonneg : ∀ other ∈ after.legs, 0 ≤ other.filledSize := by
    intro other member
    by_cases here : other.id = fill.legId
    · have same := Table.eq_of_key recorded.distinct_after member
        (recorded.applied_mem target) (here.trans target.named.symm)
      rw [same]
      exact (recorded.filledRow_check now target checked).filled.1
    · exact (recorded.loaded.legs_valid other (recorded.other_mem member here)).fields.filled
  have groupCheck := (consistent.groupCheck row rowMember).updated nonneg
    checked.inventory (expectedGroupStatus row.status row.targetPairSize after.legs)
    (Nat.succ_pos state.group.version) now
  have free : ({ db with
      groups := Table.replace GroupRow.id db.groups row.id (row.updated (groupPayload after.group)
        (expectedGroupStatus row.status row.targetPairSize after.legs) (state.group.version + 1) now)
      events := db.events ++
        [fillEventRow accountId (Text.btrim fill.fillId) row leg (fill.payload leg)] } :
      Database).ClobOrderFree
      ⟨accountId, leg.filledRow (fill.applied leg) (fill.payload leg) now⟩ := by
    by_cases unnamed : leg.clobOrderId = none
    · exact .inl unnamed
    · refine .inr fun other member differs sameAccount same => ?_
      exact recorded.durable.orderIds ⟨accountId, leg⟩ (Database.mem_groupLegs_iff.mp inDb).1 other
        member (Ne.symm differs) sameAccount.symm unnamed same.symm
  obtain ⟨inventory, computed, inventoryCheck⟩ := inventoryAfterFill_ok leg
    (fill.payload leg)
    (consistent.inventoryRow_check accountId row.tradingWalletId row.marketId)
    ⟨fill.size_pos, fill.price_bounds.1, fill.fee_nonneg⟩
    (admissible.held leg target.member target.named)
  unfold commitPairFill
  rw [require_bind_of ⟨rowVersion ▸ positive, accountOf.trans owner, recorded.group.trans groupId.symm⟩,
    require_bind_of ⟨admissible.named, fill.size_pos, fill.price_bounds, fill.fee_nonneg, version⟩]
  rw [unbound]
  dsimp only
  rw [locked]
  dsimp only
  rw [found]
  simp only [bind_ok_iff]
  refine ⟨_, _, checkFillPayload_of foundTarget onlyDurable checked, _, require_bind_of eventCheck, _,
    require_bind_of groupCheck, _,
    Database.updateLeg_of (recorded.filledRow_check now target checked) free, _, computed, _,
    require_bind_of inventoryCheck, rfl⟩

/-- An applied fill was admissible. -/
theorem admissible_of_applied {leg : OrderLeg} (target : Target state fill leg) {next : Database}
    (done : commitPairFill db accountId state.group.version (fill.payload leg)
      (groupPayload after.group) after.legs now = .ok (.applied, next)) :
    FillAdmissible db accountId row state fill := by
  cases commitPairFill_ok done with
  | applied before legBefore changed inventory unbound locked member named _ usable _ facts _ _
      computed _ =>
      have isRow : before = row := Option.some.inj (locked.symm.trans recorded.locked)
      subst isRow
      have inGroup := (Database.group?_some recorded.loaded.found).2.2
      rw [inGroup] at member
      have isLeg : legBefore = leg :=
        Table.eq_of_key recorded.distinct (recorded.loaded.legs.mem_iff.mpr member) target.member
          (named.trans target.named.symm)
      subst isLeg
      refine ⟨usable, unbound, ?_, ?_⟩
      · intro hedging unhedged
        obtain ⟨status, targetSize, -, -⟩ := recorded.status_eq
        have none := recorded.hedgeLegs_eq_nil_iff.mpr unhedged
        obtain ⟨paired, yes, no, manager⟩ : ∃ paired yes no, after.group.status = refreshedStatus
            state.group.status state.group.targetPairSize after.legs paired yes no false := by
          rw [recorded.after_eq]
          exact ⟨_, _, _, rfl⟩
        have demanded : after.group.status = _ := facts.groupStatus
        rw [manager, ← status, ← targetSize, hedging] at demanded
        exact refreshedStatus_ne_expected none demanded
      · intro other inLegs isTarget sells
        have same := Table.eq_of_key recorded.distinct inLegs target.member
          (isTarget.trans target.named.symm)
        rw [same] at sells ⊢
        obtain ⟨result, answered⟩ := computed
        exact inventoryAfterFill_held answered sells

/-- A version that moved on is a conflict, whatever the payload is. -/
theorem conflicts {leg : OrderLeg} {later : Database} {moved : GroupRow} (consistent : later.Consistent)
    (found : later.group? accountId state.group.id = some moved)
    (newer : moved.version ≠ state.group.version) (named : Text.btrim fill.fillId ≠ "")
    (unbound : later.event? accountId (Text.btrim fill.fillId) = none) :
    commitPairFill later accountId state.group.version (fill.payload leg) (groupPayload after.group)
      after.legs now = .ok (.conflict, later) := by
  obtain ⟨groupId, accountOf, version⟩ := recorded.after_group
  obtain ⟨-, -, rowVersion, owner⟩ := recorded.status_eq
  have positive : 0 < row.version := (recorded.durable.consistent.groupCheck row
    (Database.group?_some recorded.loaded.found).1).version
  have stale : later.lockGroup accountId (fill.payload leg).groupId state.group.version = none := by
    refine List.find?_eq_none.mpr fun other member matched => ?_
    simp only [decide_eq_true_eq] at matched
    obtain ⟨inGroups, _, movedId⟩ := Database.group?_some found
    have same := Table.eq_of_key consistent.groupIds member inGroups
      ((matched.2.1.trans recorded.group).trans movedId.symm)
    exact newer (same ▸ matched.2.2.1)
  have free : later.event? accountId (Text.btrim (fill.payload leg).clobTradeId) = none := unbound
  unfold commitPairFill
  rw [require_bind_of ⟨rowVersion ▸ positive, accountOf.trans owner, recorded.group.trans groupId.symm⟩,
    require_bind_of ⟨named, fill.size_pos, fill.price_bounds, fill.fee_nonneg, version⟩, free]
  dsimp only
  rw [stale]
  rfl

end RecordedFill

end Fill

/-! ### Agreement -/

/-- The database holds the values of a state: the group's status, sizes and
version, and each leg's status, fills, fee and average. -/
structure Database.Holds (db : Database) (accountId : String) (state : OrderGroupState) : Prop where
  group : ∃ row, db.group? accountId state.group.id = some row ∧ row.status = state.group.status ∧
    row.pairedSize = state.group.pairedSize ∧
    row.directionalYesSize = state.group.directionalYesSize ∧
    row.directionalNoSize = state.group.directionalNoSize ∧ row.version = state.group.version
  legs : ∀ leg ∈ state.legs, ∃ row ∈ db.groupLegs accountId state.group.id, row.id = leg.id ∧
    row.status = leg.status ∧ row.filledSize = leg.filledSize ∧ row.feePaidUsd = leg.feePaidUsd ∧
    row.averageFillPrice = leg.averageFillPrice

/-- An applied fill is stored with the payload's values. -/
theorem holds_of_applied {db next : Database} {accountId : String} {expected : Nat}
    {fill : FillPayload} {after : OrderGroupState} {now : Instant} (consistent : db.Consistent)
    (group : fill.groupId = after.group.id)
    (done : FillCommitted db accountId expected fill (groupPayload after.group) after.legs now .applied
      next) : next.Holds accountId after := by
  have afterwards := done.consistent consistent
  cases done with
  | applied before legBefore target inventory unbound locked member named version usable positive
      facts groupCheck legCheck computed inventoryCheck =>
      obtain ⟨inGroups, owner, inGroup, -⟩ := Database.lockGroup_some locked
      have groupId : before.id = after.group.id := inGroup.trans group
      constructor
      · have stored := afterwards.group?_eq (Table.new_mem_replace inGroups rfl)
        rw [← groupId, ← owner]
        exact ⟨_, stored, rfl, rfl, rfl, rfl, version.symm⟩
      · intro leg inLegs
        rw [← groupId]
        by_cases here : leg.id = legBefore.id
        · have same := Table.eq_of_key facts.distinct inLegs facts.member.1
            (here.trans facts.member.2.symm)
          subst same
          obtain ⟨inDb, inRow⟩ := Database.mem_groupLegs_iff.mp member
          refine ⟨legBefore.filledRow leg fill now, ?_, here.symm, facts.legStatus.symm, rfl, rfl, rfl⟩
          exact Database.mem_groupLegs_iff.mpr ⟨Table.new_mem_replace inDb rfl, inRow⟩
        · obtain ⟨inDb, inRow⟩ := Database.mem_groupLegs_iff.mp (facts.others leg inLegs here)
          refine ⟨leg.stored, ?_, rfl, rfl, rfl, rfl, rfl⟩
          exact Database.mem_groupLegs_iff.mpr ⟨Table.mem_replace_of_ne inDb here, inRow⟩

/-- The scope that `researchPlan` is persisted under. -/
def researchScope : PlanScope :=
  ⟨"market", "wallet", false⟩

/-- The call that persists a plan's group and legs. -/
def persistCall (group : GroupPayload) (legs : List OrderLeg) : RpcCall :=
  .persistPairOrderPlan "account" group researchScope legs

/-- The database after the calls, or the empty one. -/
def databaseAfter (calls : List RpcCall) : Database :=
  match calls.foldlM Database.apply Database.empty with
  | .ok db => db
  | .error _ => .empty

/-- `researchPlan` persisted. -/
def plannedCalls : List RpcCall :=
  [persistCall (groupPayload researchPlan.group) researchPlan.legs]

/-- `researchPlan` persisted in the phase `HEDGING`, without a hedge leg. -/
def hedgingCalls : List RpcCall :=
  [persistCall { groupPayload researchPlan.group with status := .hedging } researchPlan.legs]

/-- `researchPlan` persisted with SELL legs. -/
def sellingCalls : List RpcCall :=
  [persistCall (groupPayload researchPlan.group)
    (researchPlan.legs.map fun leg => { leg with side := .sell })]

/-- Two plans of one account, the first filled with the trade `"t"`. -/
def boundCalls : List RpcCall :=
  let fill := researchFill "t" 1 11 tradeName_nonempty
  let filled := (fromPlan researchPlan).legs.map (filledLeg 11 1 (1 / 2) 0 5)
  let after := refreshInventory ⟨researchPlan.group, filled, ∅⟩ 5 false
  [persistCall (groupPayload researchPlan.group) researchPlan.legs,
    persistCall { groupPayload researchPlan.group with id := 2 }
      (researchPlan.legs.map fun leg => { leg with id := leg.id + 10, groupId := 2 }),
    .commitPairFill "account" 1 (fill.payload researchPlan.first) (groupPayload after.group)
      after.legs 6]

/-- `record_fill` accepts the fill on the state that the calls lead to, and the
function raises `problem`. -/
def OnlyManagerAccepts (calls : List RpcCall) (fill : CoordinatorFill) (problem : SqlError) : Prop :=
  ∃ db state after, Reachable RpcStep Database.empty db ∧
    calls.foldlM Database.apply Database.empty = .ok db ∧
    db.loadGroupState researchMarkets "account" fill.groupId = .ok state ∧
    fill.fillId ∉ state.seenFillIds ∧
    recordFill state fill.fillId fill.legId fill.size fill.price fill.feeUsd fill.occurredAt =
      .ok after ∧
    db.commitFillAtomic "account" state.group.version fill after 7 = .error (.apiError problem)

/-- The same as a computation. -/
def onlyManagerAccepts (calls : List RpcCall) (fill : CoordinatorFill) (problem : SqlError) : Bool :=
  okAnd (calls.foldlM Database.apply Database.empty) fun db =>
    okAnd (db.loadGroupState researchMarkets "account" fill.groupId) (fun state =>
      fill.fillId ∉ state.seenFillIds ∧
        okAnd (recordFill state fill.fillId fill.legId fill.size fill.price fill.feeUsd
          fill.occurredAt) (fun after =>
            db.commitFillAtomic "account" state.group.version fill after 7 =
              .error (.apiError problem)) = true) = true

theorem OnlyManagerAccepts.of_run {calls : List RpcCall} {fill : CoordinatorFill} {problem : SqlError}
    (run : onlyManagerAccepts calls fill problem = true) : OnlyManagerAccepts calls fill problem := by
  obtain ⟨db, called, rest⟩ := exists_of_okAnd run
  obtain ⟨state, loads, unseen, rest⟩ := exists_of_okAnd rest
  obtain ⟨after, accepted, refused⟩ := exists_of_okAnd rest
  exact ⟨db, state, after, ⟨calls, Run.foldlM_iff.mpr called⟩, called, loads, unseen, accepted, refused⟩

/-- The trade `"t"` on the YES leg of the persisted plan. -/
def plannedFill : CoordinatorFill :=
  researchFill "t" 1 11 tradeName_nonempty

end Polybot
