import Polybot.Interaction.Transition
import Polybot.Store.PairRpc

/-!
What a transaction can do.

One lemma for each transactional function says what it changed when it
succeeded. `Database.Consistent` is what the constraints and the functions
together keep: keys are unique, every leg belongs to a group of its account, and
every event is bound to a leg. It holds in every database that calls reach,
whatever their payloads are.
-/

namespace Polybot

open Checked Interaction

namespace Database

variable {db next : Database}

/-! ### Statements -/

theorem insertGroup_ok {row : GroupRow} {inserted : Bool}
    (done : db.insertGroup row = .ok (inserted, next)) :
    row.Check ∧ (inserted = false ∧ next = db ∨
      inserted = true ∧ (∀ other ∈ db.groups, other.id ≠ row.id) ∧
        next = { db with groups := db.groups ++ [row] }) := by
  unfold insertGroup at done
  rw [require_bind_ok_iff] at done
  refine ⟨done.1, ?_⟩
  have rest := done.2
  split at rest
  · cases rest
    exact .inl ⟨rfl, rfl⟩
  · rename_i absent
    cases rest
    refine .inr ⟨rfl, ?_, rfl⟩
    simpa using absent

theorem updateGroup_ok {groupId : UUID} {row : GroupRow}
    (done : db.updateGroup groupId row = .ok next) :
    row.Check ∧ next = { db with
      groups := Table.replace GroupRow.id db.groups groupId row } := by
  unfold updateGroup at done
  rw [require_bind_ok_iff] at done
  obtain ⟨check, rest⟩ := done
  cases rest
  exact ⟨check, rfl⟩

theorem insertLeg_ok {row : LegRow} (done : db.insertLeg row = .ok next) :
    row.leg.RowCheck ∧ (∀ other ∈ db.legs, other.leg.id ≠ row.leg.id) ∧ db.ClobOrderFree row ∧
      next = { db with legs := db.legs ++ [row] } := by
  unfold insertLeg at done
  rw [require_bind_ok_iff, require_bind_ok_iff, require_bind_ok_iff] at done
  obtain ⟨check, fresh, free, rest⟩ := done
  cases rest
  exact ⟨check, fresh, free, rfl⟩

theorem updateLeg_ok {row : LegRow} (done : db.updateLeg row = .ok next) :
    row.leg.RowCheck ∧ db.ClobOrderFree row ∧ next = { db with
      legs := Table.replace LegRow.id db.legs row.id row } := by
  unfold updateLeg at done
  rw [require_bind_ok_iff, require_bind_ok_iff] at done
  obtain ⟨check, free, rest⟩ := done
  cases rest
  exact ⟨check, free, rfl⟩

theorem updateLeg_of {row : LegRow} (check : row.leg.RowCheck) (free : db.ClobOrderFree row) :
    db.updateLeg row = .ok { db with
      legs := Table.replace LegRow.id db.legs row.id row } := by
  unfold updateLeg
  rw [require_bind_of check, require_bind_of free]
  rfl

theorem insertEvent_ok {row : EventRow} (done : db.insertEvent row = .ok next) :
    row.Check ∧ next = { db with events := db.events ++ [row] } := by
  unfold insertEvent at done
  rw [require_bind_ok_iff] at done
  obtain ⟨check, rest⟩ := done
  cases rest
  exact ⟨check, rfl⟩

/-- Only `pair_inventory` changes, and only in the row's key. -/
theorem putInventory_ok {row : InventoryRow} (done : db.putInventory row = .ok next) :
    row.Check ∧ ∃ others, (∀ other ∈ others, other ∈ db.inventory) ∧
      next = { db with inventory := others ++ [row] } := by
  unfold putInventory at done
  rw [require_bind_ok_iff] at done
  obtain ⟨check, rest⟩ := done
  cases rest
  exact ⟨check, _, fun other member => (List.mem_filter.mp member).1, rfl⟩

/-- The unique index on order ids: two legs of an account never share one. -/
def OrderIdsUnique (db : Database) : Prop :=
  ∀ a ∈ db.legs, ∀ b ∈ db.legs, a.leg.id ≠ b.leg.id → a.accountId = b.accountId →
    a.leg.clobOrderId ≠ none → a.leg.clobOrderId ≠ b.leg.clobOrderId

theorem OrderIdsUnique.append {row : LegRow} (unique : db.OrderIdsUnique)
    (free : db.ClobOrderFree row) (fresh : ∀ other ∈ db.legs, other.leg.id ≠ row.leg.id) :
    ({ db with legs := db.legs ++ [row] } : Database).OrderIdsUnique := by
  intro a memberA b memberB differs owner named
  rcases List.mem_append.mp memberA with oldA | newA
  · rcases List.mem_append.mp memberB with oldB | newB
    · exact unique a oldA b oldB differs owner named
    · have isRow := List.mem_singleton.mp newB
      subst isRow
      rcases free with none | free
      · rwa [none]
      · exact free a oldA (fresh a oldA) owner
  · have isRow := List.mem_singleton.mp newA
    subst isRow
    rcases List.mem_append.mp memberB with oldB | newB
    · rcases free with none | free
      · exact absurd none named
      · exact (free b oldB (fresh b oldB) owner.symm).symm
    · exact absurd (by rw [List.mem_singleton.mp newB]) differs

theorem OrderIdsUnique.replace {row : LegRow} (unique : db.OrderIdsUnique)
    (free : db.ClobOrderFree row) :
    ({ db with legs := Table.replace LegRow.id db.legs row.id row } : Database).OrderIdsUnique := by
  intro a memberA b memberB differs owner named
  rcases Table.mem_replace memberA with rfl | ⟨oldA, otherA⟩
  · rcases Table.mem_replace memberB with rfl | ⟨oldB, otherB⟩
    · exact absurd rfl differs
    · rcases free with none | free
      · exact absurd none named
      · exact (free b oldB otherB owner.symm).symm
  · rcases Table.mem_replace memberB with rfl | ⟨oldB, _⟩
    · rcases free with none | free
      · rwa [none]
      · exact free a oldA otherA owner
    · exact unique a oldA b oldB differs owner named

theorem group?_some {accountId : String} {groupId : UUID} {row : GroupRow}
    (found : db.group? accountId groupId = some row) :
    row ∈ db.groups ∧ row.accountId = accountId ∧ row.id = groupId := by
  refine ⟨List.mem_of_find?_eq_some found, ?_⟩
  simpa using List.find?_some found

theorem lockGroup_some {accountId : String} {groupId : UUID} {version : Nat} {row : GroupRow}
    (found : db.lockGroup accountId groupId version = some row) :
    row ∈ db.groups ∧ row.accountId = accountId ∧ row.id = groupId ∧ row.version = version := by
  have matched := List.find?_some found
  simp only [decide_eq_true_eq] at matched
  exact ⟨List.mem_of_find?_eq_some found, matched.1, matched.2.1, matched.2.2.1⟩

theorem mem_groupLegs_iff {accountId : String} {groupId : UUID} {leg : OrderLeg} :
    leg ∈ db.groupLegs accountId groupId ↔
      (⟨accountId, leg⟩ : LegRow) ∈ db.legs ∧ leg.groupId = groupId := by
  unfold groupLegs
  simp only [List.mem_map, List.mem_filter, decide_eq_true_eq]
  constructor
  · rintro ⟨row, ⟨member, rfl, inGroup⟩, rfl⟩
    exact ⟨member, inGroup⟩
  · rintro ⟨member, inGroup⟩
    exact ⟨_, ⟨member, rfl, inGroup⟩, rfl⟩

end Database

/-! ### The functions -/

variable {db next : Database} {accountId : String} {group : GroupPayload}
  {legs : List OrderLeg} {now : Instant}

/-- The legs of a plan are appended as they are stored. -/
theorem persistLegs_ok {groupId : UUID}
    (done : legs.foldlM (persistLeg accountId groupId) db = .ok next) :
    next = { db with legs := db.legs ++ legs.map fun leg => ⟨accountId, leg.stored⟩ } ∧
      (∀ leg ∈ legs, leg.groupId = groupId ∧ leg.stored.RowCheck ∧
        ∀ other ∈ db.legs, other.leg.id ≠ leg.id) ∧
      (db.OrderIdsUnique → next.OrderIdsUnique) := by
  induction legs generalizing db with
  | nil =>
      cases done
      simp
  | cons leg legs ih =>
      rw [List.foldlM_cons, bind_ok_iff] at done
      obtain ⟨mid, first, rest⟩ := done
      unfold persistLeg at first
      rw [require_bind_ok_iff] at first
      obtain ⟨member, inserted⟩ := first
      obtain ⟨check, fresh, free, rfl⟩ := Database.insertLeg_ok inserted
      obtain ⟨rfl, others, unique⟩ := ih rest
      refine ⟨by simp, ?_, fun start => unique (start.append free fresh)⟩
      intro other inLegs
      rcases List.mem_cons.mp inLegs with rfl | later
      · exact ⟨member, check, fresh⟩
      · obtain ⟨inGroup, check', fresh'⟩ := others other later
        exact ⟨inGroup, check', fun row inDb => fresh' row (List.mem_append_left _ inDb)⟩

/-- What `persist_pair_order_plan` did. -/
inductive Persisted (db : Database) (accountId : String) (group : GroupPayload)
    (scope : PlanScope) (legs : List OrderLeg) : Bool → Database → Prop where
  | refused : Persisted db accountId group scope legs false db
  | stored (next : Database) : (legs.map OrderLeg.id).Nodup →
      (planRow accountId group scope).Check →
      (∀ other ∈ db.groups, other.id ≠ group.id) →
      (∀ leg ∈ legs, leg.groupId = group.id ∧ leg.stored.RowCheck ∧
        ∀ other ∈ db.legs, other.leg.id ≠ leg.id) →
      (db.OrderIdsUnique → next.OrderIdsUnique) →
      next = { db with
          groups := db.groups ++ [planRow accountId group scope]
          legs := db.legs ++ legs.map fun leg => ⟨accountId, leg.stored⟩ } →
      Persisted db accountId group scope legs true next

theorem persistPairOrderPlan_ok {scope : PlanScope} {answer : Bool}
    (done : persistPairOrderPlan db accountId group scope legs = .ok (answer, next)) :
    Persisted db accountId group scope legs answer next := by
  unfold persistPairOrderPlan onUniqueViolation at done
  split at done
  · cases done
    exact .refused
  · rename_i attempt _
    rw [require_bind_ok_iff, require_bind_ok_iff, require_bind_ok_iff, require_bind_ok_iff,
      bind_ok_iff] at done
    obtain ⟨-, -, -, distinct, ⟨inserted, withGroup⟩, stored, rest⟩ := done
    obtain ⟨check, ⟨rfl, rfl⟩ | ⟨rfl, fresh, rfl⟩⟩ := Database.insertGroup_ok stored
    · cases rest
      exact .refused
    · simp only [if_true] at rest
      rw [bind_ok_iff] at rest
      obtain ⟨withLegs, looped, rest⟩ := rest
      cases rest
      obtain ⟨rfl, members, unique⟩ := persistLegs_ok looped
      exact .stored _ distinct check fresh members unique rfl

/-- What one leg of a transition does: append an unfilled hedge, or update a
durable leg of the group without touching its economics. -/
inductive LegTransition (accountId : String) (groupId : UUID) (now : Instant) (db : Database)
    (leg : OrderLeg) : Database → Prop where
  | append : leg.groupId = groupId → leg.Appendable → leg.stored.RowCheck →
      (∀ other ∈ db.legs, other.leg.id ≠ leg.id) → db.ClobOrderFree ⟨accountId, leg.stored⟩ →
      LegTransition accountId groupId now db leg
        { db with legs := db.legs ++ [⟨accountId, leg.stored⟩] }
  | update (durable : OrderLeg) : (⟨accountId, durable⟩ : LegRow) ∈ db.legs →
      durable.id = leg.id → durable.groupId = groupId → leg.groupId = groupId →
      leg.stored.SameEconomics durable → leg.stored.Follows durable →
      (durable.transitioned leg.stored now).RowCheck →
      db.ClobOrderFree ⟨accountId, durable.transitioned leg.stored now⟩ →
      LegTransition accountId groupId now db leg
        { db with
          legs := Table.replace LegRow.id db.legs leg.id
            ⟨accountId, durable.transitioned leg.stored now⟩ }

theorem transitionLeg_ok {groupId : UUID} {leg : OrderLeg}
    (done : transitionLeg accountId groupId now db leg = .ok next) :
    LegTransition accountId groupId now db leg next := by
  unfold transitionLeg at done
  rw [require_bind_ok_iff, require_bind_ok_iff, require_bind_ok_iff] at done
  obtain ⟨inGroup, allowed, check, rest⟩ := done
  cases found : db.legs.find? fun row => row.leg.id = leg.id with
  | none =>
      rw [found] at rest
      have absent : ∀ other ∈ db.legs, other.leg.id ≠ leg.id := by
        simpa using List.find?_eq_none.mp found
      obtain ⟨-, -, free, rfl⟩ := Database.insertLeg_ok rest
      refine .append inGroup (allowed.resolve_left ?_) check absent free
      intro present
      obtain ⟨row, member, matched⟩ := List.any_eq_true.mp present
      simp only [decide_eq_true_eq] at matched
      exact absent row member matched.1
  | some durable =>
      rw [found] at rest
      simp only [require_bind_ok_iff] at rest
      obtain ⟨⟨account, group, economics, follows⟩, updated⟩ := rest
      obtain ⟨check', free, rfl⟩ := Database.updateLeg_ok updated
      have same : durable.leg.id = leg.id := by simpa using List.find?_some found
      have member := List.mem_of_find?_eq_some found
      obtain ⟨rowAccount, row⟩ := durable
      cases account
      have key : LegRow.id ⟨rowAccount, row.transitioned leg.stored now⟩ = leg.id := same
      rw [key]
      exact .update row member same group inGroup economics follows check' free

/-- What `commit_pair_group_transition` did. -/
inductive Transitioned (db : Database) (accountId : String) (expected : Nat)
    (group : GroupPayload) (legs : List OrderLeg) (now : Instant) : Bool → Database → Prop where
  | stale : db.lockGroup accountId group.id expected = none →
      Transitioned db accountId expected group legs now false db
  | committed (before : GroupRow) (withLegs : Database) :
      db.lockGroup accountId group.id expected = some before →
      group.accountId = accountId → group.version = expected + 1 →
      (legs.map OrderLeg.id).Nodup →
      (∀ row ∈ db.groupLegs accountId before.id, row.id ∈ legs.map OrderLeg.id) →
      InventoryMatches group legs before.targetPairSize →
      (before.updated group group.status group.version now).Check →
      Run (fun db leg next => LegTransition accountId before.id now db leg next)
        { db with
          groups := Table.replace GroupRow.id db.groups before.id
            (before.updated group group.status group.version now) } legs withLegs →
      Transitioned db accountId expected group legs now true withLegs

theorem commitPairGroupTransition_ok {expected : Nat} {reason : String} {answer : Bool}
    (done : commitPairGroupTransition db accountId expected group legs reason now =
      .ok (answer, next)) :
    Transitioned db accountId expected group legs now answer next := by
  unfold commitPairGroupTransition at done
  rw [require_bind_ok_iff, require_bind_ok_iff] at done
  obtain ⟨-, ⟨account, version⟩, rest⟩ := done
  cases locked : db.lockGroup accountId group.id expected with
  | none =>
      rw [locked] at rest
      cases rest
      exact .stale locked
  | some before =>
      rw [locked] at rest
      dsimp only at rest
      rw [require_bind_ok_iff, require_bind_ok_iff, require_bind_ok_iff, require_bind_ok_iff,
        bind_ok_iff] at rest
      obtain ⟨⟨-, distinct⟩, complete, -, inventory, withGroup, updated, rest⟩ := rest
      rw [bind_ok_iff] at rest
      obtain ⟨withLegs, looped, rest⟩ := rest
      rw [require_bind_ok_iff] at rest
      obtain ⟨-, rest⟩ := rest
      cases rest
      obtain ⟨check, rfl⟩ := Database.updateGroup_ok updated
      refine .committed before next locked account version distinct complete inventory check ?_
      exact (Run.foldlM_iff.mpr looped).mono fun _ _ _ step => transitionLeg_ok step

/-- What the checks of a fill payload established. -/
structure FillChecked (db : Database) (accountId : String) (before : GroupRow)
    (legBefore : OrderLeg) (fill : FillPayload) (group : GroupPayload) (legs : List OrderLeg)
    (target : OrderLeg) : Prop where
  role : fill.outcome = legBefore.outcome ∧ fill.side = legBefore.side ∧
    fill.liquidityRole = legBefore.liquidityRole
  fits : legBefore.filledSize + fill.size ≤ legBefore.size
  member : target ∈ legs ∧ target.id = legBefore.id
  delta : LegDelta legBefore target fill
  average : AveragePrice legBefore target fill
  identity : SameIdentity legBefore target
  legStatus : target.status = expectedLegStatus legBefore fill.size
  distinct : (legs.map OrderLeg.id).Nodup
  complete : legs.length = (db.groupLegs accountId before.id).length ∧
    ∀ row ∈ db.groupLegs accountId before.id, row.id ∈ legs.map OrderLeg.id
  others : ∀ leg ∈ legs, leg.id ≠ legBefore.id → leg.stored ∈ db.groupLegs accountId before.id
  inventory : InventoryMatches group legs before.targetPairSize
  groupStatus : group.status = expectedGroupStatus before.status before.targetPairSize legs

theorem checkFillPayload_ok {before : GroupRow} {legBefore target : OrderLeg} {fill : FillPayload}
    (done : checkFillPayload db accountId before legBefore fill group legs = .ok target) :
    FillChecked db accountId before legBefore fill group legs target := by
  unfold checkFillPayload at done
  rw [require_bind_ok_iff, require_bind_ok_iff] at done
  obtain ⟨role, fits, rest⟩ := done
  cases found : legs.find? fun leg => leg.id = legBefore.id with
  | none =>
      rw [found] at rest
      cases rest
  | some leg =>
      rw [found] at rest
      simp only [require_bind_ok_iff] at rest
      obtain ⟨delta, average, identity, status, ⟨count, distinct⟩, ⟨complete, -⟩, others, inventory,
        groupStatus, rest⟩ := rest
      cases rest
      have named : target.id = legBefore.id := by simpa using List.find?_some found
      exact ⟨role, fits, ⟨List.mem_of_find?_eq_some found, named⟩, delta, average, identity, status,
        distinct, ⟨count, complete⟩, others, inventory, groupStatus⟩

/-- What `commit_pair_fill` did. -/
inductive FillCommitted (db : Database) (accountId : String) (expected : Nat) (fill : FillPayload)
    (group : GroupPayload) (legs : List OrderLeg) (now : Instant) :
    AtomicFillCommit → Database → Prop where
  | duplicate (event : EventRow) :
      db.event? accountId (Text.btrim fill.clobTradeId) = some event → event.SameFill fill →
      FillCommitted db accountId expected fill group legs now .duplicate db
  | conflict : db.event? accountId (Text.btrim fill.clobTradeId) = none →
      db.lockGroup accountId fill.groupId expected = none →
      FillCommitted db accountId expected fill group legs now .conflict db
  | applied (before : GroupRow) (legBefore target : OrderLeg) (inventory : List InventoryRow) :
      db.event? accountId (Text.btrim fill.clobTradeId) = none →
      db.lockGroup accountId fill.groupId expected = some before →
      legBefore ∈ db.groupLegs accountId before.id → legBefore.id = fill.legId →
      group.version = expected + 1 → Text.btrim fill.clobTradeId ≠ "" → 0 < fill.size →
      FillChecked db accountId before legBefore fill group legs target →
      (before.updated group group.status (expected + 1) now).Check →
      (legBefore.filledRow target fill now).RowCheck →
      (∃ row, inventoryAfterFill
        (db.inventoryRow accountId before.tradingWalletId before.marketId) legBefore fill =
          .ok row) →
      (∀ row ∈ inventory, row ∈ db.inventory ∨ row.Check) →
      FillCommitted db accountId expected fill group legs now .applied
        { groups := Table.replace GroupRow.id db.groups before.id
            (before.updated group group.status (expected + 1) now)
          legs := Table.replace LegRow.id db.legs legBefore.id
            ⟨accountId, legBefore.filledRow target fill now⟩
          events := db.events ++
            [fillEventRow accountId (Text.btrim fill.clobTradeId) before legBefore fill]
          inventory := inventory }

theorem commitPairFill_ok {expected : Nat} {fill : FillPayload} {answer : AtomicFillCommit}
    (done : commitPairFill db accountId expected fill group legs now = .ok (answer, next)) :
    FillCommitted db accountId expected fill group legs now answer next := by
  unfold commitPairFill at done
  rw [require_bind_ok_iff, require_bind_ok_iff] at done
  obtain ⟨-, ⟨usable, positive, -, -, version⟩, rest⟩ := done
  cases bound : db.event? accountId (Text.btrim fill.clobTradeId) with
  | some event =>
      rw [bound] at rest
      simp only [boundAnswer, require_bind_ok_iff] at rest
      obtain ⟨same, rest⟩ := rest
      cases rest
      exact .duplicate event bound same
  | none =>
      rw [bound] at rest
      cases locked : db.lockGroup accountId fill.groupId expected with
      | none =>
          rw [locked] at rest
          cases rest
          exact .conflict bound locked
      | some before =>
          rw [locked] at rest
          simp only at rest
          cases found : (db.groupLegs accountId before.id).find? fun leg => leg.id = fill.legId with
          | none =>
              rw [found] at rest
              cases rest
          | some legBefore =>
              rw [found] at rest
              simp only [bind_ok_iff] at rest
              obtain ⟨target, checked, withEvent, evented, withGroup, grouped, withLeg, legged, row,
                computed, withInventory, stored, rest⟩ := rest
              cases rest
              have facts := checkFillPayload_ok checked
              obtain ⟨-, rfl⟩ := Database.insertEvent_ok evented
              obtain ⟨groupCheck, rfl⟩ := Database.updateGroup_ok grouped
              obtain ⟨legCheck, -, rfl⟩ := Database.updateLeg_ok legged
              obtain ⟨inventoryCheck, others, kept, rfl⟩ := Database.putInventory_ok stored
              rw [← facts.groupStatus] at groupCheck ⊢
              have named : legBefore.id = fill.legId := by simpa using List.find?_some found
              refine .applied before legBefore target _ bound locked (List.mem_of_find?_eq_some found)
                named version usable positive facts groupCheck legCheck ⟨row, computed⟩ ?_
              intro stored member
              rcases List.mem_append.mp member with old | new
              · exact .inl (kept stored old)
              · exact .inr (List.mem_singleton.mp new ▸ inventoryCheck)

end Polybot
