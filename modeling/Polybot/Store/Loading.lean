import Polybot.Store.Accounting
import Polybot.Store.PairStore

/-!
Which databases can be loaded.

A load validates the group and its legs again. `Database.reloads_iff` reduces the
loads of all groups to the validity of the leg rows, and the rest of the module
says which calls keep it: a plan and a transition of valid legs do, and a fill
does if and only if its leg takes it.
-/

namespace Polybot

open Checked Interaction

/-- Every group of the database can be loaded. -/
def Database.Reloads (markets : List MarketRow) (db : Database) : Prop :=
  ∀ row ∈ db.groups, ∃ state, db.loadGroupState markets row.accountId row.id = .ok state

/-- What a load needs besides valid legs. -/
structure Database.Described (markets : List MarketRow) (db : Database) : Prop where
  account : ∀ row ∈ db.groups, row.accountId ≠ ""
  market : ∀ row ∈ db.groups, ∃ market ∈ markets, market.id = row.marketId
  pair : ∀ row ∈ db.groups, 2 ≤ (db.groupLegs row.accountId row.id).length

/-- Every leg row is one pydantic accepts. -/
def Database.LegsValid (db : Database) : Prop :=
  ∀ row ∈ db.legs, row.leg.Valid

/-- The leg takes a fill of the size: its order is known, or the fill completes
it, or it is being cancelled. -/
def OrderLeg.TakesFill (leg : OrderLeg) (size : ℚ) : Prop :=
  leg.clobOrderId ≠ none ∨ leg.filledSize + size = leg.size ∨ leg.status = .cancelled ∨
    leg.status = .cancelPending

instance (leg : OrderLeg) (size : ℚ) : Decidable (leg.TakesFill size) :=
  inferInstanceAs (Decidable (_ ∨ _ ∨ _ ∨ _))

variable {markets : List MarketRow} {db next : Database} {accountId : String}
  {group : GroupPayload} {legs : List OrderLeg} {now : Instant}

/-! ### Loads -/

theorem nullif_some {text : Option String} {value : String} (kept : nullif text = some value) :
    value ≠ "" := by
  rintro rfl
  exact nullif_ne text kept

/-- The identity of a persisted market has a name. -/
theorem marketIdentity_of {dbMarketId : String}
    (known : ∃ market ∈ markets, market.id = dbMarketId) :
    ∃ identity, marketIdentity markets dbMarketId = .ok identity ∧ identity.1 ≠ "" := by
  unfold marketIdentity
  cases found : markets.find? fun row => row.id = dbMarketId with
  | none =>
      obtain ⟨market, member, named⟩ := known
      exact absurd (decide_eq_true named) (List.find?_eq_none.mp found market member)
  | some row =>
      have named : row.id = dbMarketId := by simpa using List.find?_some found
      refine ⟨_, rfl, ?_⟩
      dsimp only
      cases gamma : nullif row.gammaMarketId with
      | some name => exact nullif_some gamma
      | none =>
          cases condition : nullif row.conditionId with
          | some name => exact nullif_some condition
          | none => exact named ▸ row.id_nonempty

/-- The CHECK constraints imply what pydantic asks of a group. -/
theorem GroupRow.Check.loaded_valid {row : GroupRow} (check : row.Check)
    (account : row.accountId ≠ "") {identity : String × Option String} (market : identity.1 ≠ "") :
    (row.loaded identity).Valid :=
  ⟨⟨account, market, check.target, check.paired.1, check.directional.1, check.directional.2,
    check.version⟩, ⟨check.oneSided, check.paired.2⟩⟩

/-- All groups load if and only if all legs are valid. -/
theorem Database.reloads_iff (consistent : db.Consistent) (described : db.Described markets) :
    db.Reloads markets ↔ db.LegsValid := by
  constructor
  · intro reloads row member
    obtain ⟨owner, inGroups, named, account⟩ := consistent.owned row member
    obtain ⟨state, loads⟩ := reloads owner inGroups
    obtain ⟨same, _, loaded⟩ := loadGroupState_ok loads
    have inGroup : row.leg ∈ db.groupLegs owner.accountId state.group.id := by
      rw [same, Database.mem_groupLegs_iff, account]
      exact ⟨member, named.symm⟩
    exact loaded.legs_valid _ (loaded.legs.mem_iff.mpr inGroup)
  · intro valid row member
    obtain ⟨identity, identified, market⟩ := marketIdentity_of (described.market row member)
    have groupValid := (consistent.groupCheck row member).loaded_valid
      (described.account row member) market
    have inGroup : ∀ leg ∈ db.groupLegs row.accountId row.id, leg.Valid ∧ leg.groupId = row.id := by
      intro leg inLegs
      obtain ⟨inDb, named⟩ := Database.mem_groupLegs_iff.mp inLegs
      exact ⟨valid _ inDb, named⟩
    have sorted := List.perm_insertionSort OrderLeg.CreatedBefore
      (db.groupLegs row.accountId row.id)
    unfold Database.loadGroupState
    rw [consistent.group?_eq member]
    dsimp only
    refine ⟨_, bind_ok_iff.mpr ⟨identity, identified, bind_ok_iff.mpr ⟨_,
      loadedGroup_ok_iff.mpr ⟨rfl, groupValid⟩, bind_ok_iff.mpr ⟨_,
        loadedLegs_ok_iff.mpr ⟨fun leg inLegs => (inGroup leg inLegs).1, rfl⟩,
        assembledState_ok_iff.mpr ⟨?_, ?_, rfl⟩⟩⟩⟩⟩
    · rw [sorted.length_eq]
      exact described.pair row member
    · exact fun leg inLegs => (inGroup leg (sorted.mem_iff.mp inLegs)).2

/-! ### Legs -/

namespace OrderLeg.Valid

variable {leg durable target : OrderLeg} {fill : FillPayload}

theorem stored (valid : leg.Valid) : leg.stored.Valid := by
  obtain ⟨fields, shape⟩ := valid
  refine ⟨⟨fields.token, fields.price, fields.size, fields.filled, fields.average, fields.fee,
    fields.version⟩, shape.within, shape.priced, shape.unpriced, shape.maker, shape.taker,
    shape.full, fun working => ?_⟩
  obtain ⟨text, named, nonempty⟩ := truthy_iff.mp (shape.working working)
  have kept : leg.stored.clobOrderId = some text := by
    simp [OrderLeg.stored, nullif, named, nonempty]
  exact truthy_iff.mpr ⟨text, kept, nonempty⟩

/-- A transition keeps the economics of the durable leg and takes the status and
the order id of a valid one. -/
theorem transitioned (valid : durable.Valid) (moved : leg.Valid)
    (economics : leg.SameEconomics durable) : (durable.transitioned leg now).Valid := by
  obtain ⟨fields, shape⟩ := valid
  obtain ⟨-, -, -, -, -, -, -, size, filled, -, -, -⟩ := economics
  refine ⟨⟨fields.token, fields.price, fields.size, fields.filled, fields.average, fields.fee,
    moved.fields.version⟩, shape.within, shape.priced, shape.unpriced, shape.maker, shape.taker,
    fun full => ?_, moved.shape.working⟩
  have whole := moved.shape.full full
  rwa [filled, size] at whole

/-- A filled leg is valid if and only if it took the fill. -/
theorem filledRow_iff (valid : durable.Valid) (delta : LegDelta durable target fill)
    (priced : 0 < target.filledSize → target.averageFillPrice ≠ none) (positive : 0 < fill.size)
    (named : durable.clobOrderId ≠ some "") (check : (durable.filledRow target fill now).RowCheck) :
    (durable.filledRow target fill now).Valid ↔ durable.TakesFill fill.size := by
  obtain ⟨fields, shape⟩ := valid
  have filled : 0 < target.filledSize := by
    rw [delta.filled]
    exact add_pos_of_nonneg_of_pos fields.filled positive
  have status : (durable.filledRow target fill now).status = expectedLegStatus durable fill.size := rfl
  have working : ((durable.filledRow target fill now).status = .open ∨
      (durable.filledRow target fill now).status = .partiallyFilled →
        truthy durable.clobOrderId = true) ↔ durable.TakesFill fill.size := by
    have known : truthy durable.clobOrderId = true ↔ durable.clobOrderId ≠ none := by
      cases order : durable.clobOrderId with
      | none => simp [truthy]
      | some text => simpa [truthy, order] using named
    rw [status, known]
    unfold expectedLegStatus OrderLeg.TakesFill
    split
    · rename_i whole
      exact ⟨fun _ => .inr (.inl whole), fun _ => by simp⟩
    · rename_i part
      split
      · rename_i cancelled
        exact ⟨fun _ => .inr (.inr (.inl cancelled)), fun _ => by simp⟩
      · rename_i live
        split
        · rename_i pending
          exact ⟨fun _ => .inr (.inr (.inr pending)), fun _ => by simp⟩
        · rename_i settled
          simp [part, live, settled]
  constructor
  · exact fun after => working.mp after.shape.working
  · intro takes
    refine ⟨⟨fields.token, fields.price, fields.size, check.filled.1, ?_, check.fee,
      Nat.succ_pos _⟩, check.filled.2, fun _ => priced filled, fun none => absurd none filled.ne',
      shape.maker, shape.taker, fun full => ?_, working.mpr takes⟩
    · rcases check.average with ⟨none, -⟩ | ⟨-, bounds⟩
      · exact absurd none filled.ne'
      · exact bounds
    · rw [status] at full
      have whole : durable.filledSize + fill.size = durable.size := by
        by_contra part
        unfold expectedLegStatus at full
        rw [if_neg part] at full
        split at full
        · cases full
        · split at full <;> cases full
      exact delta.filled.trans whole

end OrderLeg.Valid

/-! ### Groups -/

/-- The legs of a group after a leg row was replaced by one of the same group. -/
theorem Database.groupLegs_replace (consistent : db.Consistent) {before : LegRow} (after : LegRow)
    (member : before ∈ db.legs)
    (same : after.accountId = before.accountId ∧ after.leg.groupId = before.leg.groupId)
    (legs : next.legs = Table.replace LegRow.id db.legs before.id after) (groupId : UUID) :
    (next.groupLegs accountId groupId).length = (db.groupLegs accountId groupId).length := by
  have kept : ∀ row ∈ db.legs, ∀ owner target,
      decide ((if row.id = before.id then after else row).accountId = owner ∧
        (if row.id = before.id then after else row).leg.groupId = target) =
      decide (row.accountId = owner ∧ row.leg.groupId = target) := by
    intro row inLegs owner target
    by_cases here : row.id = before.id
    · rw [if_pos here, Table.eq_of_key consistent.legIds inLegs member here, same.1, same.2]
    · rw [if_neg here]
  unfold Database.groupLegs
  rw [legs]
  unfold Table.replace
  rw [List.length_map, List.length_map, List.filter_map, List.length_map]
  exact congrArg List.length (List.filter_congr fun row inLegs => kept row inLegs _ _)

theorem Database.groupLegs_append {rows : List LegRow} (legs : next.legs = db.legs ++ rows)
    (groupId : UUID) :
    next.groupLegs accountId groupId = db.groupLegs accountId groupId ++
      (rows.filter fun row => row.accountId = accountId ∧ row.leg.groupId = groupId).map
        LegRow.leg := by
  simp [Database.groupLegs, legs]

/-- No group loses a leg. -/
def Database.LegsKept (db next : Database) : Prop :=
  ∀ accountId groupId,
    (db.groupLegs accountId groupId).length ≤ (next.groupLegs accountId groupId).length

/-- Replacing a group row by one of the same key, account and market keeps what
loads need. -/
theorem Database.Described.replaceGroup (described : db.Described markets) {before : GroupRow}
    (after : GroupRow) (member : before ∈ db.groups)
    (same : after.id = before.id ∧ after.accountId = before.accountId ∧
      after.marketId = before.marketId)
    (groups : next.groups = Table.replace GroupRow.id db.groups before.id after)
    (kept : db.LegsKept next) : next.Described markets := by
  have source : ∀ row ∈ next.groups, ∃ old ∈ db.groups, row.id = old.id ∧
      row.accountId = old.accountId ∧ row.marketId = old.marketId := by
    intro row inGroups
    rw [groups] at inGroups
    rcases Table.mem_replace inGroups with rfl | ⟨old, -⟩
    · exact ⟨before, member, same⟩
    · exact ⟨row, old, rfl, rfl, rfl⟩
  constructor
  · intro row inGroups
    obtain ⟨old, inDb, -, account, -⟩ := source row inGroups
    exact account ▸ described.account old inDb
  · intro row inGroups
    obtain ⟨old, inDb, -, -, market⟩ := source row inGroups
    exact market ▸ described.market old inDb
  · intro row inGroups
    obtain ⟨old, inDb, named, account, -⟩ := source row inGroups
    rw [named, account]
    exact (described.pair old inDb).trans (kept _ _)

theorem Database.LegsKept.refl (db : Database) : db.LegsKept db :=
  fun _ _ => le_rfl

theorem Database.LegsKept.append {rows : List LegRow} (legs : next.legs = db.legs ++ rows) :
    db.LegsKept next := by
  intro accountId groupId
  rw [Database.groupLegs_append legs, List.length_append]
  exact Nat.le_add_right _ _

/-! ### Calls -/

theorem Persisted.described {plan : OrderPlan} {scope : PlanScope} {answer : Bool}
    (described : db.Described markets) (owner : plan.group.accountId = accountId)
    (known : ∃ market ∈ markets, market.id = scope.marketId)
    (done : Persisted db accountId (groupPayload plan.group) scope plan.legs answer next) :
    next.Described markets := by
  cases done with
  | refused => exact described
  | stored _ _ _ _ _ _ stored =>
      subst stored
      constructor
      · intro row member
        rcases List.mem_append.mp member with old | new
        · exact described.account row old
        · rw [List.mem_singleton.mp new]
          exact owner ▸ plan.group_valid.fields.account
      · intro row member
        rcases List.mem_append.mp member with old | new
        · exact described.market row old
        · rw [List.mem_singleton.mp new]
          exact known
      · intro row member
        rcases List.mem_append.mp member with old | new
        · exact (described.pair row old).trans (Database.LegsKept.append rfl _ _)
        · rw [List.mem_singleton.mp new, Database.groupLegs_append rfl, List.length_append]
          have both : ((plan.legs.map fun leg => (⟨accountId, leg.stored⟩ : LegRow)).filter
              fun row => row.accountId = accountId ∧ row.leg.groupId = plan.group.id) =
                plan.legs.map fun leg => ⟨accountId, leg.stored⟩ := by
            refine List.filter_eq_self.mpr fun row inLegs => ?_
            obtain ⟨leg, inPlan, rfl⟩ := List.mem_map.mp inLegs
            have inGroup : leg.groupId = plan.group.id := plan.legs_member inPlan
            exact decide_eq_true ⟨rfl, inGroup⟩
          have two := congrArg List.length both
          rw [List.length_map] at two
          exact Nat.le_add_left_of_le (by
            rw [List.length_map]
            exact two.ge)

theorem Persisted.legsValid {scope : PlanScope} {answer : Bool} (valid : db.LegsValid)
    (planned : ∀ leg ∈ legs, leg.Valid)
    (done : Persisted db accountId group scope legs answer next) : next.LegsValid := by
  cases done with
  | refused => exact valid
  | stored _ _ _ _ _ _ stored =>
      subst stored
      intro row member
      rcases List.mem_append.mp member with old | new
      · exact valid row old
      · obtain ⟨leg, inLegs, rfl⟩ := List.mem_map.mp new
        exact (planned leg inLegs).stored

theorem LegTransition.legsValid {groupId : UUID} {leg : OrderLeg} (valid : db.LegsValid)
    (moved : leg.Valid) (step : LegTransition accountId groupId now db leg next) :
    next.LegsValid := by
  intro row member
  cases step with
  | append _ _ _ _ _ =>
      rcases List.mem_append.mp member with old | new
      · exact valid row old
      · rw [List.mem_singleton.mp new]
        exact moved.stored
  | update durable inDb _ _ _ economics _ _ _ =>
      rcases Table.mem_replace member with rfl | ⟨old, -⟩
      · exact OrderLeg.Valid.transitioned (valid _ inDb) moved.stored economics
      · exact valid row old

theorem LegTransition.legsKept {groupId : UUID} {leg : OrderLeg} (consistent : db.Consistent)
    (step : LegTransition accountId groupId now db leg next) : db.LegsKept next := by
  cases step with
  | append _ _ _ _ _ => exact .append rfl
  | update durable inDb named _ _ _ _ _ _ =>
      intro owner target
      rw [← named]
      exact (Database.groupLegs_replace consistent ⟨accountId, durable.transitioned leg.stored now⟩
        inDb ⟨rfl, rfl⟩ rfl target).ge

theorem Transitioned.described {expected : Nat} {answer : Bool} (consistent : db.Consistent)
    (described : db.Described markets)
    (done : Transitioned db accountId expected group legs now answer next) :
    next.Described markets := by
  cases done with
  | stale => exact described
  | committed before _ locked _ _ _ _ _ check run =>
      obtain ⟨member, owner, -, -⟩ := Database.lockGroup_some locked
      have started : LegsConsistent accountId before.id _ :=
        ⟨consistent.updateGroup locked check, Database.HasGroup.replaceGroup consistent member
          ⟨rfl, rfl⟩ ⟨before, member, rfl, owner⟩⟩
      have moved := run.invariant
        (P := fun later => LegsConsistent accountId before.id later ∧ db.LegsKept later ∧
          later.groups = Table.replace GroupRow.id db.groups before.id
            (before.updated group group.status group.version now))
        (fun _ _ _ invariant step => ⟨LegTransition.consistent invariant.1 step,
          fun owner target => (invariant.2.1 owner target).trans
            (step.legsKept invariant.1.consistent owner target),
          step.groups.trans invariant.2.2⟩)
        ⟨started, .refl db, rfl⟩
      exact described.replaceGroup (before.updated group group.status group.version now) member
        ⟨rfl, rfl, rfl⟩ moved.2.2 moved.2.1

theorem Transitioned.legsValid {expected : Nat} {answer : Bool} (valid : db.LegsValid)
    (moved : ∀ leg ∈ legs, leg.Valid)
    (done : Transitioned db accountId expected group legs now answer next) : next.LegsValid := by
  cases done with
  | stale => exact valid
  | committed before _ _ _ _ _ _ _ _ run =>
      have checked := run.of_prefixes (Q := fun _ leg => leg.Valid)
        fun _ leg _ _ split _ => moved leg (split ▸ by simp)
      exact checked.invariant (P := Database.LegsValid)
        (fun _ _ _ valid step => step.1.legsValid valid step.2) valid

theorem FillCommitted.described {expected : Nat} {fill : FillPayload} {answer : AtomicFillCommit}
    (consistent : db.Consistent) (described : db.Described markets)
    (done : FillCommitted db accountId expected fill group legs now answer next) :
    next.Described markets := by
  cases done with
  | duplicate => exact described
  | conflict => exact described
  | applied before legBefore target inventory _ locked member _ _ _ _ _ _ _ _ _ =>
      obtain ⟨inDb, -⟩ := Database.mem_groupLegs_iff.mp member
      exact described.replaceGroup (before.updated group group.status (expected + 1) now)
        (Database.lockGroup_some locked).1 ⟨rfl, rfl, rfl⟩ rfl fun owner groupId =>
          (Database.groupLegs_replace consistent ⟨accountId, legBefore.filledRow target fill now⟩
            inDb ⟨rfl, rfl⟩ rfl groupId).ge

/-- An applied fill keeps the legs valid if and only if its leg takes it. -/
theorem FillCommitted.legsValid_iff {expected : Nat} {fill : FillPayload}
    {answer : AtomicFillCommit} (consistent : db.Consistent) (valid : db.LegsValid)
    (priced : ∀ leg ∈ legs, 0 < leg.filledSize → leg.averageFillPrice ≠ none)
    (done : FillCommitted db accountId expected fill group legs now answer next) :
    next.LegsValid ↔ (answer = .applied → ∀ leg ∈ db.groupLegs accountId fill.groupId,
      leg.id = fill.legId → leg.TakesFill fill.size) := by
  cases done with
  | duplicate => exact ⟨fun _ => (nomatch ·), fun _ => valid⟩
  | conflict => exact ⟨fun _ => (nomatch ·), fun _ => valid⟩
  | applied before legBefore target inventory _ locked member named _ _ positive facts _ check _ _ =>
      obtain ⟨-, -, groupId, -⟩ := Database.lockGroup_some locked
      obtain ⟨inDb, inGroup⟩ := Database.mem_groupLegs_iff.mp member
      have only : (legBefore.filledRow target fill now).Valid ↔ legBefore.TakesFill fill.size :=
        (valid _ inDb).filledRow_iff facts.delta (priced target facts.member.1) positive
          (consistent.orderIds _ inDb) check
      constructor
      · intro after _ leg inLegs same
        obtain ⟨inDb', -⟩ := Database.mem_groupLegs_iff.mp inLegs
        have legs : (⟨accountId, leg⟩ : LegRow) = ⟨accountId, legBefore⟩ :=
          Table.eq_of_key consistent.legIds inDb' inDb (same.trans named.symm)
        cases legs
        exact only.mp (after ⟨accountId, _⟩ (Table.new_mem_replace inDb rfl))
      · intro takes row inLegs
        rcases Table.mem_replace inLegs with rfl | ⟨old, -⟩
        · exact only.mpr (takes rfl legBefore (groupId ▸ member) named)
        · exact valid row old

end Polybot
