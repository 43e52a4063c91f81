import Polybot.Store.RpcLaws

/-!
No fill is lost or counted twice in the durable state.

`Database.Consistent` collects what keys and constraints give, `Accounted` says
that every leg's filled size and fee are the totals of its events. Both are kept
by every call of the three functions, whatever its payload is, as long as a plan
starts unfilled.
-/

namespace Polybot

open Interaction

/-! ### Consistency -/

/-- The key of the trade index. -/
def EventRow.key (event : EventRow) : String × String :=
  (event.accountId, event.clobTradeId)

/-- What keys, foreign keys and constraints keep. -/
structure Database.Consistent (db : Database) : Prop where
  legIds : (db.legs.map LegRow.id).Nodup
  groupIds : (db.groups.map GroupRow.id).Nodup
  tradeIds : (db.events.map EventRow.key).Nodup
  owned : ∀ row ∈ db.legs, ∃ group ∈ db.groups,
    group.id = row.leg.groupId ∧ group.accountId = row.accountId
  eventLegs : ∀ event ∈ db.events, ∃ row ∈ db.legs, row.accountId = event.accountId ∧
    row.leg.id = event.orderLegId ∧ row.leg.groupId = event.orderGroupId
  legCheck : ∀ row ∈ db.legs, row.leg.RowCheck
  groupCheck : ∀ row ∈ db.groups, row.Check
  inventoryCheck : ∀ row ∈ db.inventory, row.Check
  orderIds : ∀ row ∈ db.legs, row.leg.clobOrderId ≠ some ""
  research : ∀ row ∈ db.groups, row.researchOnly = true ∧ row.executionEnabled = false

/-- The total over the events of a leg. -/
def eventTotal (weight : EventRow → ℚ) (events : List EventRow) (legId : UUID) : ℚ :=
  ((events.filter fun event => event.orderLegId = legId).map weight).sum

/-- Every leg's filled size and fee are the totals of its events. -/
def Database.Accounted (db : Database) : Prop :=
  ∀ row ∈ db.legs, row.leg.filledSize = eventTotal EventRow.size db.events row.leg.id ∧
    row.leg.feePaidUsd = eventTotal EventRow.feePaidPusd db.events row.leg.id

theorem Database.Consistent.empty : Database.empty.Consistent where
  legIds := List.nodup_nil
  groupIds := List.nodup_nil
  tradeIds := List.nodup_nil
  owned := by simp [Database.empty]
  eventLegs := by simp [Database.empty]
  legCheck := by simp [Database.empty]
  groupCheck := by simp [Database.empty]
  inventoryCheck := by simp [Database.empty]
  orderIds := by simp [Database.empty]
  research := by simp [Database.empty]

theorem nullif_ne (text : Option String) : nullif text ≠ some "" := by
  unfold nullif
  split
  · simp
  · assumption

theorem eventTotal_snoc (weight : EventRow → ℚ) (events : List EventRow) (event : EventRow)
    (legId : UUID) :
    eventTotal weight (events ++ [event]) legId =
      eventTotal weight events legId + if event.orderLegId = legId then weight event else 0 := by
  unfold eventTotal
  by_cases here : event.orderLegId = legId <;> simp [here]

/-- No event is bound to a leg that does not exist. -/
theorem Database.Consistent.eventTotal_of_fresh {db : Database} (consistent : db.Consistent)
    (weight : EventRow → ℚ) {legId : UUID} (fresh : ∀ row ∈ db.legs, row.leg.id ≠ legId) :
    eventTotal weight db.events legId = 0 := by
  unfold eventTotal
  rw [List.filter_eq_nil_iff.mpr]
  · rfl
  · intro event member bound
    obtain ⟨row, inLegs, -, same, -⟩ := consistent.eventLegs event member
    exact fresh row inLegs (same.trans (of_decide_eq_true bound))

theorem Database.Consistent.group?_eq {db : Database} (consistent : db.Consistent) {row : GroupRow}
    (member : row ∈ db.groups) : db.group? row.accountId row.id = some row :=
  Table.find?_strengthen (Table.find?_key consistent.groupIds member) (by simp) (by simp)

variable {db next : Database} {accountId : String} {group : GroupPayload} {legs : List OrderLeg}
  {now : Instant}

/-! ### Plans -/

theorem Persisted.consistent {scope : PlanScope} {answer : Bool} (consistent : db.Consistent)
    (done : Persisted db accountId group scope legs answer next) : next.Consistent := by
  cases done with
  | refused => exact consistent
  | stored _ distinct check fresh members _ stored =>
      subst stored
      constructor
      · rw [List.map_append, List.nodup_append]
        refine ⟨consistent.legIds, ?_, ?_⟩
        · rw [List.map_map]
          exact distinct
        · intro old oldMember new newMember same
          obtain ⟨row, inDb, rfl⟩ := List.mem_map.mp oldMember
          obtain ⟨_, inNew, rfl⟩ := List.mem_map.mp newMember
          obtain ⟨leg, inLegs, rfl⟩ := List.mem_map.mp inNew
          exact (members leg inLegs).2.2 row inDb same
      · rw [List.map_append, List.nodup_append]
        refine ⟨consistent.groupIds, List.nodup_singleton _, ?_⟩
        intro old oldMember new newMember same
        obtain ⟨row, inDb, rfl⟩ := List.mem_map.mp oldMember
        rw [List.mem_singleton.mp newMember] at same
        exact fresh row inDb same
      · exact consistent.tradeIds
      · intro row member
        rcases List.mem_append.mp member with old | new
        · obtain ⟨group, inGroups, facts⟩ := consistent.owned row old
          exact ⟨group, List.mem_append_left _ inGroups, facts⟩
        · obtain ⟨leg, inLegs, rfl⟩ := List.mem_map.mp new
          exact ⟨_, List.mem_append_right _ (List.mem_singleton_self _),
            (members leg inLegs).1.symm, rfl⟩
      · intro event member
        obtain ⟨row, inLegs, facts⟩ := consistent.eventLegs event member
        exact ⟨row, List.mem_append_left _ inLegs, facts⟩
      · intro row member
        rcases List.mem_append.mp member with old | new
        · exact consistent.legCheck row old
        · obtain ⟨leg, inLegs, rfl⟩ := List.mem_map.mp new
          exact (members leg inLegs).2.1
      · intro row member
        rcases List.mem_append.mp member with old | new
        · exact consistent.groupCheck row old
        · rw [List.mem_singleton.mp new]
          exact check
      · exact consistent.inventoryCheck
      · intro row member
        rcases List.mem_append.mp member with old | new
        · exact consistent.orderIds row old
        · obtain ⟨leg, inLegs, rfl⟩ := List.mem_map.mp new
          exact nullif_ne _
      · intro row member
        rcases List.mem_append.mp member with old | new
        · exact consistent.research row old
        · rw [List.mem_singleton.mp new]
          exact ⟨rfl, rfl⟩

theorem Persisted.accounted {scope : PlanScope} {answer : Bool} (consistent : db.Consistent)
    (accounted : db.Accounted)
    (unfilled : ∀ leg ∈ legs, leg.filledSize = 0 ∧ leg.feePaidUsd = 0)
    (done : Persisted db accountId group scope legs answer next) : next.Accounted := by
  cases done with
  | refused => exact accounted
  | stored _ _ _ _ members _ stored =>
      subst stored
      intro row member
      rcases List.mem_append.mp member with old | new
      · exact accounted row old
      · obtain ⟨leg, inLegs, rfl⟩ := List.mem_map.mp new
        have none := fun weight => consistent.eventTotal_of_fresh weight (members leg inLegs).2.2
        exact ⟨(unfilled leg inLegs).1.trans (none _).symm,
          (unfilled leg inLegs).2.trans (none _).symm⟩

/-! ### Transitions -/

/-- The account has the group. -/
def Database.HasGroup (db : Database) (accountId : String) (groupId : UUID) : Prop :=
  ∃ group ∈ db.groups, group.id = groupId ∧ group.accountId = accountId

/-- Replacing a group row by one of the same key and account keeps consistency. -/
theorem Database.Consistent.replaceGroup (consistent : db.Consistent) {before after : GroupRow}
    (member : before ∈ db.groups) (same : after.id = before.id ∧ after.accountId = before.accountId)
    (check : after.Check) (research : after.researchOnly = true ∧ after.executionEnabled = false) :
    ({ db with groups := Table.replace GroupRow.id db.groups before.id after } : Database).Consistent := by
  refine { consistent with groupIds := ?_, owned := ?_, groupCheck := ?_, research := ?_ }
  · rw [Table.map_key_replace same.1]
    exact consistent.groupIds
  · intro row inLegs
    obtain ⟨group, inGroups, named, owner⟩ := consistent.owned row inLegs
    obtain ⟨kept, inKept, key, source⟩ := Table.exists_mem_replace same.1 inGroups
    refine ⟨kept, inKept, key.trans named, ?_⟩
    rcases source with rfl | rfl
    · exact owner
    · have : group = before := Table.eq_of_key consistent.groupIds inGroups member (key.symm.trans same.1)
      rw [same.2, ← this, owner]
  · intro row inGroups
    rcases Table.mem_replace inGroups with rfl | ⟨old, -⟩
    · exact check
    · exact consistent.groupCheck row old
  · intro row inGroups
    rcases Table.mem_replace inGroups with rfl | ⟨old, -⟩
    · exact research
    · exact consistent.research row old

theorem Database.HasGroup.replaceGroup {groupId : UUID} {before after : GroupRow}
    (consistent : db.Consistent) (member : before ∈ db.groups)
    (same : after.id = before.id ∧ after.accountId = before.accountId)
    (has : db.HasGroup accountId groupId) :
    ({ db with groups := Table.replace GroupRow.id db.groups before.id after } : Database).HasGroup
      accountId groupId := by
  obtain ⟨group, inGroups, named, owner⟩ := has
  obtain ⟨kept, inKept, key, source⟩ := Table.exists_mem_replace same.1 inGroups
  refine ⟨kept, inKept, key.trans named, ?_⟩
  rcases source with rfl | rfl
  · exact owner
  · have : group = before := Table.eq_of_key consistent.groupIds inGroups member (key.symm.trans same.1)
    rw [same.2, ← this, owner]

/-- Replacing a leg row by one of the same key, account and group keeps
consistency. -/
theorem Database.Consistent.replaceLeg (consistent : db.Consistent) {before : LegRow}
    (after : LegRow) (member : before ∈ db.legs)
    (same : after.leg.id = before.leg.id ∧ after.accountId = before.accountId ∧
      after.leg.groupId = before.leg.groupId)
    (check : after.leg.RowCheck) (named : after.leg.clobOrderId ≠ some "") :
    ({ db with legs := Table.replace LegRow.id db.legs before.id after } : Database).Consistent := by
  have key : after.id = before.id := same.1
  have counterpart : ∀ row ∈ db.legs, ∃ kept ∈ Table.replace LegRow.id db.legs before.id after,
      kept.accountId = row.accountId ∧ kept.leg.id = row.leg.id ∧
        kept.leg.groupId = row.leg.groupId := by
    intro row inLegs
    obtain ⟨kept, inKept, keyed, source⟩ := Table.exists_mem_replace key inLegs
    rcases source with rfl | rfl
    · exact ⟨kept, inKept, rfl, keyed, rfl⟩
    · have : row = before :=
        Table.eq_of_key consistent.legIds inLegs member (keyed.symm.trans key)
      subst this
      exact ⟨kept, inKept, same.2.1, keyed, same.2.2⟩
  refine { consistent with legIds := ?_, owned := ?_, eventLegs := ?_, legCheck := ?_, orderIds := ?_ }
  · rw [Table.map_key_replace key]
    exact consistent.legIds
  · intro row inLegs
    rcases Table.mem_replace inLegs with rfl | ⟨old, -⟩
    · rw [same.2.1, same.2.2]
      exact consistent.owned before member
    · exact consistent.owned row old
  · intro event inEvents
    obtain ⟨row, inLegs, owner, key, inGroup⟩ := consistent.eventLegs event inEvents
    obtain ⟨kept, inKept, facts⟩ := counterpart row inLegs
    exact ⟨kept, inKept, facts.1.trans owner, facts.2.1.trans key, facts.2.2.trans inGroup⟩
  · intro row inLegs
    rcases Table.mem_replace inLegs with rfl | ⟨old, -⟩
    · exact check
    · exact consistent.legCheck row old
  · intro row inLegs
    rcases Table.mem_replace inLegs with rfl | ⟨old, -⟩
    · exact named
    · exact consistent.orderIds row old

/-- The invariant of the loop over a transition's legs. -/
structure LegsConsistent (accountId : String) (groupId : UUID) (db : Database) : Prop where
  consistent : db.Consistent
  group : db.HasGroup accountId groupId

theorem LegTransition.consistent {groupId : UUID} {leg : OrderLeg}
    (invariant : LegsConsistent accountId groupId db)
    (step : LegTransition accountId groupId now db leg next) :
    LegsConsistent accountId groupId next := by
  obtain ⟨consistent, group⟩ := invariant
  cases step with
  | append inGroup appendable check fresh _ =>
      refine ⟨?_, group⟩
      refine { consistent with
        legIds := ?_, owned := ?_, eventLegs := ?_, legCheck := ?_, orderIds := ?_ }
      · rw [List.map_append, List.nodup_append]
        refine ⟨consistent.legIds, List.nodup_singleton _, ?_⟩
        intro old oldMember new newMember same
        obtain ⟨row, inDb, rfl⟩ := List.mem_map.mp oldMember
        rw [List.mem_singleton.mp newMember] at same
        exact fresh row inDb same
      · intro row member
        rcases List.mem_append.mp member with old | new
        · exact consistent.owned row old
        · rw [List.mem_singleton.mp new]
          obtain ⟨row, inGroups, named, owner⟩ := group
          exact ⟨row, inGroups, named.trans inGroup.symm, owner⟩
      · intro event inEvents
        obtain ⟨row, inLegs, facts⟩ := consistent.eventLegs event inEvents
        exact ⟨row, List.mem_append_left _ inLegs, facts⟩
      · intro row member
        rcases List.mem_append.mp member with old | new
        · exact consistent.legCheck row old
        · rw [List.mem_singleton.mp new]
          exact check
      · intro row member
        rcases List.mem_append.mp member with old | new
        · exact consistent.orderIds row old
        · rw [List.mem_singleton.mp new]
          exact nullif_ne _
  | update durable member named inGroup _ _ _ check _ =>
      refine ⟨?_, group⟩
      rw [← named]
      exact consistent.replaceLeg _ member ⟨rfl, rfl, rfl⟩ check (nullif_ne _)

theorem LegTransition.accounted {groupId : UUID} {leg : OrderLeg}
    (consistent : db.Consistent) (accounted : db.Accounted)
    (step : LegTransition accountId groupId now db leg next) : next.Accounted := by
  cases step with
  | append _ appendable _ fresh _ =>
      intro row member
      rcases List.mem_append.mp member with old | new
      · exact accounted row old
      · rw [List.mem_singleton.mp new]
        have none := fun weight => consistent.eventTotal_of_fresh weight fresh
        exact ⟨appendable.2.1.trans (none _).symm, appendable.2.2.2.1.trans (none _).symm⟩
  | update durable member named _ _ _ _ _ _ =>
      intro row inLegs
      rcases Table.mem_replace inLegs with rfl | ⟨old, -⟩
      · have kept := accounted ⟨accountId, durable⟩ member
        exact kept
      · exact accounted row old

/-- The update of the group row in a transition or a fill. -/
theorem Database.Consistent.updateGroup {expected version : Nat} {groupId : UUID}
    {before : GroupRow} {status : OrderGroupStatus} (consistent : db.Consistent)
    (locked : db.lockGroup accountId groupId expected = some before)
    (check : (before.updated group status version now).Check) :
    ({ db with
      groups := Table.replace GroupRow.id db.groups before.id
        (before.updated group status version now) } : Database).Consistent :=
  consistent.replaceGroup (Database.lockGroup_some locked).1 ⟨rfl, rfl⟩ check
    (consistent.research before (Database.lockGroup_some locked).1)

theorem Transitioned.consistent {expected : Nat} {answer : Bool} (consistent : db.Consistent)
    (done : Transitioned db accountId expected group legs now answer next) : next.Consistent := by
  cases done with
  | stale => exact consistent
  | committed before _ locked _ _ _ _ _ check run =>
      obtain ⟨member, owner, named, -⟩ := Database.lockGroup_some locked
      have started : LegsConsistent accountId before.id _ :=
        ⟨consistent.updateGroup locked check, Database.HasGroup.replaceGroup consistent member
          ⟨rfl, rfl⟩ ⟨before, member, rfl, owner⟩⟩
      exact (run.invariant (P := LegsConsistent accountId before.id)
        (fun _ _ _ invariant step => LegTransition.consistent invariant step) started).consistent

theorem Transitioned.accounted {expected : Nat} {answer : Bool} (consistent : db.Consistent)
    (accounted : db.Accounted)
    (done : Transitioned db accountId expected group legs now answer next) : next.Accounted := by
  cases done with
  | stale => exact accounted
  | committed before _ locked _ _ _ _ _ check run =>
      obtain ⟨member, owner, -, -⟩ := Database.lockGroup_some locked
      have started : LegsConsistent accountId before.id _ :=
        ⟨consistent.updateGroup locked check, Database.HasGroup.replaceGroup consistent member
          ⟨rfl, rfl⟩ ⟨before, member, rfl, owner⟩⟩
      exact (run.invariant (P := fun db => LegsConsistent accountId before.id db ∧ db.Accounted)
        (fun _ _ _ invariant step => ⟨LegTransition.consistent invariant.1 step,
          LegTransition.accounted invariant.1.consistent invariant.2 step⟩)
        ⟨started, accounted⟩).2

/-! ### Fills -/

theorem FillCommitted.consistent {expected : Nat} {fill : FillPayload} {answer : AtomicFillCommit}
    (consistent : db.Consistent)
    (done : FillCommitted db accountId expected fill group legs now answer next) :
    next.Consistent := by
  cases done with
  | duplicate => exact consistent
  | conflict => exact consistent
  | applied before legBefore target inventory unbound locked member _ _ _ _ facts groupCheck
      legCheck _ inventoryCheck =>
      obtain ⟨inDb, inGroup⟩ := Database.mem_groupLegs_iff.mp member
      have moved := consistent.updateGroup locked groupCheck
      have orderId := consistent.orderIds ⟨accountId, legBefore⟩ inDb
      let after : LegRow := ⟨accountId, legBefore.filledRow target fill now⟩
      have filled := moved.replaceLeg after inDb
        ⟨rfl, rfl, rfl⟩ legCheck orderId
      refine { filled with tradeIds := ?_, eventLegs := ?_, inventoryCheck := ?_ }
      · rw [List.map_append, List.nodup_append]
        refine ⟨consistent.tradeIds, List.nodup_singleton _, ?_⟩
        intro old oldMember new newMember same
        obtain ⟨event, inEvents, rfl⟩ := List.mem_map.mp oldMember
        rw [List.mem_singleton.mp newMember] at same
        have absent := List.find?_eq_none.mp unbound event inEvents
        exact absent (decide_eq_true (Prod.mk.inj same))
      · intro event inEvents
        rcases List.mem_append.mp inEvents with old | new
        · exact filled.eventLegs event old
        · rw [List.mem_singleton.mp new]
          exact ⟨_, Table.new_mem_replace inDb rfl, rfl, rfl, inGroup⟩
      · intro row inInventory
        rcases inventoryCheck row inInventory with old | check
        · exact consistent.inventoryCheck row old
        · exact check

theorem FillCommitted.accounted {expected : Nat} {fill : FillPayload} {answer : AtomicFillCommit}
    (accounted : db.Accounted)
    (done : FillCommitted db accountId expected fill group legs now answer next) :
    next.Accounted := by
  cases done with
  | duplicate => exact accounted
  | conflict => exact accounted
  | applied before legBefore target inventory _ _ member named _ _ _ facts _ _ _ _ =>
      obtain ⟨inDb, -⟩ := Database.mem_groupLegs_iff.mp member
      intro row inLegs
      rw [eventTotal_snoc, eventTotal_snoc]
      rcases Table.mem_replace inLegs with rfl | ⟨old, other⟩
      · have here : (fillEventRow accountId (Text.btrim fill.clobTradeId) before legBefore
            fill).orderLegId = (legBefore.filledRow target fill now).id := rfl
        rw [if_pos here, if_pos here]
        exact ⟨facts.delta.filled.trans (congrArg (· + fill.size) (accounted _ inDb).1),
          facts.delta.fee.trans (congrArg (· + fill.feePaidPusd) (accounted _ inDb).2)⟩
      · have elsewhere : (fillEventRow accountId (Text.btrim fill.clobTradeId) before legBefore
            fill).orderLegId ≠ row.leg.id := fun same => other same.symm
        rw [if_neg elsewhere, if_neg elsewhere, add_zero, add_zero]
        exact accounted row old

/-! ### Order ids -/

/-- Replacing a leg row by one with its order id keeps the order ids unique. -/
theorem Database.OrderIdsUnique.keep {before after : LegRow} (unique : db.OrderIdsUnique)
    (member : before ∈ db.legs)
    (same : after.leg.id = before.leg.id ∧ after.accountId = before.accountId ∧
      after.leg.clobOrderId = before.leg.clobOrderId) :
    ({ db with
      legs := Table.replace LegRow.id db.legs before.leg.id after } : Database).OrderIdsUnique := by
  have source : ∀ row ∈ Table.replace LegRow.id db.legs before.leg.id after, ∃ old ∈ db.legs,
      old.leg.id = row.leg.id ∧ old.accountId = row.accountId ∧
        old.leg.clobOrderId = row.leg.clobOrderId := by
    intro row inLegs
    rcases Table.mem_replace inLegs with rfl | ⟨old, -⟩
    · exact ⟨before, member, same.1.symm, same.2.1.symm, same.2.2.symm⟩
    · exact ⟨row, old, rfl, rfl, rfl⟩
  intro a memberA b memberB differs owner named
  obtain ⟨oldA, inA, idA, ownerA, orderA⟩ := source a memberA
  obtain ⟨oldB, inB, idB, ownerB, orderB⟩ := source b memberB
  rw [← orderA, ← orderB]
  refine unique oldA inA oldB inB ?_ (ownerA.trans (owner.trans ownerB.symm)) (orderA ▸ named)
  rwa [idA, idB]

theorem Persisted.orderIds {scope : PlanScope} {answer : Bool} (unique : db.OrderIdsUnique)
    (done : Persisted db accountId group scope legs answer next) : next.OrderIdsUnique := by
  cases done with
  | refused => exact unique
  | stored _ _ _ _ _ keeps _ => exact keeps unique

theorem LegTransition.orderIds {groupId : UUID} {leg : OrderLeg} (unique : db.OrderIdsUnique)
    (step : LegTransition accountId groupId now db leg next) : next.OrderIdsUnique := by
  cases step with
  | append _ _ _ fresh free => exact unique.append free fresh
  | update durable _ named _ _ _ _ _ free =>
      rw [← named]
      exact unique.replace free

theorem Transitioned.orderIds {expected : Nat} {answer : Bool} (unique : db.OrderIdsUnique)
    (done : Transitioned db accountId expected group legs now answer next) :
    next.OrderIdsUnique := by
  cases done with
  | stale => exact unique
  | committed _ _ _ _ _ _ _ _ _ run =>
      exact run.invariant (P := Database.OrderIdsUnique)
        (fun _ _ _ unique step => LegTransition.orderIds unique step) unique

theorem FillCommitted.orderIds {expected : Nat} {fill : FillPayload} {answer : AtomicFillCommit}
    (unique : db.OrderIdsUnique)
    (done : FillCommitted db accountId expected fill group legs now answer next) :
    next.OrderIdsUnique := by
  cases done with
  | duplicate => exact unique
  | conflict => exact unique
  | applied _ legBefore _ _ _ _ member _ _ _ _ _ _ _ _ _ =>
      exact unique.keep (Database.mem_groupLegs_iff.mp member).1 ⟨rfl, rfl, rfl⟩

/-! ### Runs of the functions -/

/-- A call of one of the three transactional functions. -/
inductive RpcCall where
  | persistPairOrderPlan (accountId : String) (group : GroupPayload) (scope : PlanScope)
      (legs : List OrderLeg)
  | commitPairGroupTransition (accountId : String) (expectedGroupVersion : Nat)
      (group : GroupPayload) (legs : List OrderLeg) (reason : String) (now : Instant)
  | commitPairFill (accountId : String) (expectedGroupVersion : Nat) (fill : FillPayload)
      (group : GroupPayload) (legs : List OrderLeg) (now : Instant)

/-- The database after a call. -/
def Database.apply (db : Database) : RpcCall → Except SqlError Database
  | .persistPairOrderPlan accountId group scope legs =>
      (Polybot.persistPairOrderPlan db accountId group scope legs).map Prod.snd
  | .commitPairGroupTransition accountId expected group legs reason now =>
      (Polybot.commitPairGroupTransition db accountId expected group legs reason now).map Prod.snd
  | .commitPairFill accountId expected fill group legs now =>
      (Polybot.commitPairFill db accountId expected fill group legs now).map Prod.snd

/-- A call that did not raise. -/
def RpcStep (db : Database) (call : RpcCall) (next : Database) : Prop :=
  db.apply call = .ok next

/-- What holds of every database that calls reach. -/
structure Database.Durable (db : Database) : Prop where
  consistent : db.Consistent
  orderIds : db.OrderIdsUnique

theorem RpcStep.durable {call : RpcCall} (durable : db.Durable) (step : RpcStep db call next) :
    next.Durable := by
  obtain ⟨consistent, unique⟩ := durable
  unfold RpcStep Database.apply at step
  cases call with
  | persistPairOrderPlan accountId group scope legs =>
      obtain ⟨⟨answer, after⟩, done, rfl⟩ := Checked.map_ok_iff.mp step
      have stored := persistPairOrderPlan_ok done
      exact ⟨stored.consistent consistent, stored.orderIds unique⟩
  | commitPairGroupTransition accountId expected group legs reason now =>
      obtain ⟨⟨answer, after⟩, done, rfl⟩ := Checked.map_ok_iff.mp step
      have moved := commitPairGroupTransition_ok done
      exact ⟨moved.consistent consistent, moved.orderIds unique⟩
  | commitPairFill accountId expected fill group legs now =>
      obtain ⟨⟨answer, after⟩, done, rfl⟩ := Checked.map_ok_iff.mp step
      have filled := commitPairFill_ok done
      exact ⟨filled.consistent consistent, filled.orderIds unique⟩

theorem RpcStep.consistent {call : RpcCall} (consistent : db.Consistent)
    (step : RpcStep db call next) : next.Consistent := by
  unfold RpcStep Database.apply at step
  cases call with
  | persistPairOrderPlan accountId group scope legs =>
      obtain ⟨⟨answer, after⟩, done, rfl⟩ := Checked.map_ok_iff.mp step
      exact (persistPairOrderPlan_ok done).consistent consistent
  | commitPairGroupTransition accountId expected group legs reason now =>
      obtain ⟨⟨answer, after⟩, done, rfl⟩ := Checked.map_ok_iff.mp step
      exact (commitPairGroupTransition_ok done).consistent consistent
  | commitPairFill accountId expected fill group legs now =>
      obtain ⟨⟨answer, after⟩, done, rfl⟩ := Checked.map_ok_iff.mp step
      exact (commitPairFill_ok done).consistent consistent

/-- A persisted plan starts unfilled. -/
def RpcCall.StartsUnfilled : RpcCall → Prop
  | persistPairOrderPlan _ _ _ legs => ∀ leg ∈ legs, leg.filledSize = 0 ∧ leg.feePaidUsd = 0
  | _ => True

theorem RpcStep.accounted {call : RpcCall} (consistent : db.Consistent) (accounted : db.Accounted)
    (unfilled : call.StartsUnfilled) (step : RpcStep db call next) : next.Accounted := by
  unfold RpcStep Database.apply at step
  cases call with
  | persistPairOrderPlan accountId group scope legs =>
      obtain ⟨⟨answer, after⟩, done, rfl⟩ := Checked.map_ok_iff.mp step
      exact (persistPairOrderPlan_ok done).accounted consistent accounted unfilled
  | commitPairGroupTransition accountId expected group legs reason now =>
      obtain ⟨⟨answer, after⟩, done, rfl⟩ := Checked.map_ok_iff.mp step
      exact (commitPairGroupTransition_ok done).accounted consistent accounted
  | commitPairFill accountId expected fill group legs now =>
      obtain ⟨⟨answer, after⟩, done, rfl⟩ := Checked.map_ok_iff.mp step
      exact (commitPairFill_ok done).accounted accounted

/-! ### Versions -/

/-- The group's version is one higher. -/
def VersionRaised (db next : Database) (accountId : String) (groupId : UUID) : Prop :=
  ∃ before after, db.group? accountId groupId = some before ∧
    next.group? accountId groupId = some after ∧ after.version = before.version + 1

theorem LegTransition.groups {groupId : UUID} {leg : OrderLeg}
    (step : LegTransition accountId groupId now db leg next) : next.groups = db.groups := by
  cases step <;> rfl

/-- A committed transition stores the payload's status at the next version. -/
theorem Transitioned.groupRow {expected : Nat} (consistent : db.Consistent)
    (done : Transitioned db accountId expected group legs now true next) :
    ∃ before, db.group? accountId group.id = some before ∧ before.version = expected ∧
      next.group? accountId group.id =
        some (before.updated group group.status (expected + 1) now) := by
  have afterwards := done.consistent consistent
  cases done with
  | committed before _ locked owner version _ _ _ _ run =>
      obtain ⟨member, account, named, expects⟩ := Database.lockGroup_some locked
      have groups := run.invariant (P := fun db' => db'.groups = Table.replace GroupRow.id db.groups
        before.id (before.updated group group.status group.version now))
        (fun _ _ _ same step => step.groups.trans same) rfl
      have stored := afterwards.group?_eq (groups ▸ Table.new_mem_replace member rfl)
      have found := consistent.group?_eq member
      rw [account, named] at found
      refine ⟨before, found, expects, ?_⟩
      rw [← named, ← account, ← version]
      exact stored

/-- An applied fill stores the demanded status at the next version. -/
theorem FillCommitted.groupRow {expected : Nat} {fill : FillPayload} (consistent : db.Consistent)
    (done : FillCommitted db accountId expected fill group legs now .applied next) :
    ∃ before, db.group? accountId fill.groupId = some before ∧ before.version = expected ∧
      next.group? accountId fill.groupId = some (before.updated group
        (expectedGroupStatus before.status before.targetPairSize legs) (expected + 1) now) := by
  have afterwards := done.consistent consistent
  cases done with
  | applied before legBefore target inventory _ locked _ _ _ _ _ facts _ _ _ _ =>
      obtain ⟨member, account, named, expects⟩ := Database.lockGroup_some locked
      have stored := afterwards.group?_eq (Table.new_mem_replace member rfl)
      have found := consistent.group?_eq member
      rw [account, named] at found
      refine ⟨before, found, expects, ?_⟩
      rw [← named, ← account, ← facts.groupStatus]
      exact stored

/-- Every database reached from the empty one is durable. -/
theorem durable_of_reachable (reached : Reachable RpcStep Database.empty db) : db.Durable :=
  reached.invariant (P := Database.Durable) (fun _ _ _ durable step => RpcStep.durable durable step)
    ⟨.empty, by simp [Database.OrderIdsUnique, Database.empty]⟩

end Polybot
