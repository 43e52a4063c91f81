import Polybot.Execution.LawfulRequests
import Polybot.Store.Loading

/-!
Every persisted state can be loaded again, as long as fills have orders.

`model_copy` bypasses the validators, and the constraints of the tables are
weaker than they are. What the coordinator sends is valid all the same, except
for one thing: `record_fill` makes a leg PARTIALLY_FILLED whether its order id has
been stored or not, and `commit_pair_fill` demands just that.
-/

namespace Polybot

open Interaction

/-- A fill that the step stores is one that its leg takes. -/
def FillsOrders (db : Database) (event : CoordinatorEvent) (next : Database) : Prop :=
  match event.request with
  | .commitPairFill accountId _ fill _ _ => next ≠ db →
      ∀ leg ∈ db.groupLegs accountId fill.groupId, leg.id = fill.legId → leg.TakesFill fill.size
  | _ => True

variable {markets : List MarketRow} {db next : Database}

theorem FillCommitted.changes {accountId : String} {expected : Nat} {fill : FillPayload}
    {group : GroupPayload} {legs : List OrderLeg} {now : Instant} {answer : AtomicFillCommit}
    (done : FillCommitted db accountId expected fill group legs now answer next) :
    next ≠ db ↔ answer = .applied := by
  cases done with
  | duplicate => simp
  | conflict => simp
  | applied =>
      refine ⟨fun _ => rfl, fun _ same => ?_⟩
      have longer := congrArg (fun db => db.events.length) same
      simp at longer

/-- What a served request keeps of loadability. -/
theorem Served.loadable {event : CoordinatorEvent} (consistent : db.Consistent)
    (described : db.Described markets) (valid : db.LegsValid) (lawful : Lawful markets event.request)
    (served : Served markets db event next) :
    next.Described markets ∧ (next.LegsValid ↔ FillsOrders db event next) := by
  rcases served.rpc with rfl | ⟨now, call, calls, step⟩
  · refine ⟨described, iff_of_true valid ?_⟩
    unfold FillsOrders
    split
    · exact fun changed => absurd rfl changed
    · trivial
  · obtain ⟨request, answer⟩ := event
    unfold RpcStep Database.apply at step
    cases request with
    | persistPairOrderPlan accountId group scope legs =>
        cases calls
        obtain ⟨⟨stored, _⟩, done, rfl⟩ := Checked.map_ok_iff.mp step
        obtain ⟨plan, -, account, rfl, rfl, known⟩ := lawful
        have persisted := persistPairOrderPlan_ok done
        exact ⟨persisted.described described account known,
          iff_of_true (persisted.legsValid valid fun _ member => plan.legs_valid member) trivial⟩
    | commitPairGroupTransition accountId expected group legs reason =>
        cases calls
        obtain ⟨⟨committed, _⟩, done, rfl⟩ := Checked.map_ok_iff.mp step
        have moved := commitPairGroupTransition_ok done
        exact ⟨moved.described consistent described,
          iff_of_true (moved.legsValid valid lawful) trivial⟩
    | commitPairFill accountId expected fill group legs =>
        cases calls
        obtain ⟨⟨committed, _⟩, done, rfl⟩ := Checked.map_ok_iff.mp step
        have filled := commitPairFill_ok done
        refine ⟨filled.described consistent described,
          (filled.legsValid_iff consistent valid lawful).trans ?_⟩
        unfold FillsOrders
        rw [filled.changes]
    | _ => cases calls

/-- The invariant of a run whose fills have orders. -/
structure Database.Loadable (markets : List MarketRow) (db : Database) : Prop where
  consistent : db.Consistent
  described : db.Described markets
  valid : db.LegsValid

theorem Database.Loadable.empty (markets : List MarketRow) : Database.empty.Loadable markets where
  consistent := .empty
  described := ⟨by simp [Database.empty], by simp [Database.empty], by simp [Database.empty]⟩
  valid := by simp [Database.LegsValid, Database.empty]

/-- An environment in which fills are stored only if their legs take them. -/
def ServedWithOrders (markets : List MarketRow) (db : Database) (event : CoordinatorEvent)
    (next : Database) : Prop :=
  Served markets db event next ∧ FillsOrders db event next

/-- For any number of concurrent operations and any interleaving of their
requests: as long as every stored fill hits a leg that takes it, every group can
be loaded, and the first stored fill that hits another leg leaves a group that
cannot be. -/
theorem groups_reload_iff {ι : Type} [DecidableEq ι] (markets : List MarketRow)
    {workers : ι → Worker} (unfilled : ∀ i, (workers i).operation.StartsUnfilled)
    {labels : List (ι × CoordinatorEvent)} {pool : CoordinatorPool ι}
    (run : Run (Pool.Step (ServedWithOrders markets)) (poolOf Database.empty workers) labels pool) :
    pool.shared.Reloads markets ∧ ∀ label next, Pool.Step (Served markets) pool label next →
      (next.shared.Reloads markets ↔ FillsOrders pool.shared label.2 next.shared) := by
  have plain : Run (Pool.Step (Served markets)) (poolOf Database.empty workers) labels pool :=
    run.mono fun _ _ _ step => step.mono fun _ _ _ served => served.1
  have lawful {labels : List (ι × CoordinatorEvent)} {pool : CoordinatorPool ι}
      (run : Run (Pool.Step (Served markets)) (poolOf Database.empty workers) labels pool) :
      ∀ label ∈ labels, Lawful markets label.2.request :=
    Pool.run_lawful_labels (fun db event next served => ⟨db, next, served⟩)
      (fun i => Worker.lawful (unfilled i) markets) run
  have checked := run.of_prefixes (Q := fun _ label => Lawful markets label.2.request)
    fun _ label _ _ split _ => lawful plain label (split ▸ by simp)
  have loadable : pool.shared.Loadable markets := checked.invariant
    (P := fun pool => pool.shared.Loadable markets) (by
      rintro before label after ⟨consistent, described, valid⟩
        ⟨⟨resume, shared, -, ⟨served, orders⟩, rfl⟩, lawful⟩
      obtain ⟨described', valid'⟩ := served.loadable consistent described valid lawful
      exact ⟨served.consistent consistent, described', valid'.mpr orders⟩) (.empty markets)
  obtain ⟨consistent, described, valid⟩ := loadable
  refine ⟨(Database.reloads_iff consistent described).mpr valid, fun label next step => ?_⟩
  have lawfulLabel := lawful (plain.snoc step) label (by simp)
  obtain ⟨resume, shared, -, served, rfl⟩ := step
  obtain ⟨described', valid'⟩ := served.loadable consistent described valid lawfulLabel
  exact (Database.reloads_iff (served.consistent consistent) described').trans valid'

/-- An exchange that loses the fills whose legs do not take them. -/
def serveOrders (db : Database) : (request : CoordinatorRequest) →
    Except PyError request.Response × Database
  | .commitPairFill accountId expected fill group legs =>
      if ∀ leg ∈ db.groupLegs accountId fill.groupId, leg.id = fill.legId → leg.TakesFill fill.size
      then serveResearch db (.commitPairFill accountId expected fill group legs)
      else (.error (.foreign "ConnectionError"), db)
  | request => serveResearch db request

theorem serveOrders_served (db : Database) (request : CoordinatorRequest) :
    ServedWithOrders researchMarkets db ⟨request, (serveOrders db request).1⟩
      (serveOrders db request).2 := by
  cases request with
  | commitPairFill accountId expected fill group legs =>
      dsimp only [serveOrders]
      split
      · rename_i takes
        exact ⟨serveResearch_served _ _, fun _ => takes⟩
      · exact ⟨.unsent _ _, fun changed => absurd rfl changed⟩
  | _ => exact ⟨serveResearch_served _ _, trivial⟩

/-- A submission and one fill of a share. -/
def filledWorkers : Bool → Worker
  | false => submitResearchPlan
  | true => deliverResearchFill "t" 11 tradeName_nonempty

theorem filledWorkers_unfilled : ∀ i, (filledWorkers i).operation.StartsUnfilled
  | false => researchPlan_unfilled
  | true => trivial

/-- The fill arrives after the submission was recorded. -/
theorem late_fill_reloads :
    ∃ labels pool, Run (Pool.Step (ServedWithOrders researchMarkets))
        (poolOf Database.empty filledWorkers) labels pool ∧
      pool.shared.Reloads researchMarkets ∧ pool.shared.filledSizes = [1, 0] := by
  have replayed : (Pool.replay (fun _ => serveOrders)
      (List.replicate 8 false ++ List.replicate 5 true)
      (poolOf Database.empty filledWorkers)).map (fun result => result.2.shared.filledSizes) =
        some [1, 0] := by
    decide +kernel
  obtain ⟨⟨labels, pool⟩, replay, filled⟩ := Option.map_eq_some_iff.mp replayed
  have run := Pool.replay_run (fun _ => serveOrders_served) replay
  have reloads := groups_reload_iff researchMarkets filledWorkers_unfilled run
  exact ⟨labels, pool, run, reloads.1, filled⟩

/-- Some group of the database cannot be loaded. -/
def Database.unloadable (markets : List MarketRow) (db : Database) : Bool :=
  db.groups.any fun row =>
    match db.loadGroupState markets row.accountId row.id with
    | .ok _ => false
    | .error _ => true

theorem Database.unloadable_iff : db.unloadable markets = true ↔ ¬ db.Reloads markets := by
  unfold Database.unloadable Database.Reloads
  simp only [List.any_eq_true, not_forall, not_exists]
  refine exists_congr fun row => ⟨?_, ?_⟩
  · rintro ⟨member, broken⟩
    refine ⟨member, fun state loads => ?_⟩
    rw [loads] at broken
    cases broken
  · rintro ⟨member, fails⟩
    refine ⟨member, ?_⟩
    cases loads : db.loadGroupState markets row.accountId row.id with
    | ok state => exact absurd loads (fails state)
    | error problem => rfl

/-- The fill arrives after the plan was persisted, before the submission was
recorded: it is stored, and its group cannot be loaded any more. -/
theorem early_fill_does_not_reload :
    ∃ labels pool, Run (Pool.Step (Served researchMarkets))
        (poolOf Database.empty filledWorkers) labels pool ∧
      pool.shared.filledSizes = [1, 0] ∧ ¬ pool.shared.Reloads researchMarkets := by
  have replayed : (Pool.replay (fun _ => serveResearch)
      (List.replicate 2 false ++ List.replicate 5 true)
      (poolOf Database.empty filledWorkers)).map (fun result =>
        (result.2.shared.filledSizes, result.2.shared.unloadable researchMarkets)) =
          some ([1, 0], true) := by
    decide +kernel
  obtain ⟨⟨labels, pool⟩, replay, shown⟩ := Option.map_eq_some_iff.mp replayed
  obtain ⟨filled, broken⟩ := Prod.mk.inj shown
  exact ⟨labels, pool, Pool.replay_run (fun _ => serveResearch_served) replay, filled,
    Database.unloadable_iff.mp broken⟩

end Polybot
