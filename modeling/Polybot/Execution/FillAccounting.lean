import Polybot.Execution.LawfulRequests

/-!
No fill is lost or counted twice.

The workers of a pool interleave at every request, so a commit can fall between
the reads of a load. `Database.FillsCounted` holds in every state of every run: a
step changes the database through one transactional function, these keep the
accounts of an unfilled plan whatever payload a stale state leads to, and the
version of a group moves by one with each commit.
-/

namespace Polybot

open Interaction

/-- Every leg is the sum of its events, which have distinct fill ids, and no leg
is filled beyond its size. -/
structure Database.FillsCounted (db : Database) : Prop where
  counted : db.Accounted
  distinct : ∀ row ∈ db.legs,
    ((db.events.filter fun event => event.orderLegId = row.leg.id).map EventRow.clobTradeId).Nodup
  within : ∀ row ∈ db.legs, row.leg.filledSize ≤ row.leg.size

/-- The event is a successful commit to the group. -/
def CommitsTo (accountId : String) (groupId : UUID) (event : CoordinatorEvent) : Prop :=
  match event with
  | ⟨.commitPairGroupTransition account _ group _ _, .ok committed⟩ =>
      account = accountId ∧ group.id = groupId ∧ committed = true
  | ⟨.commitPairFill account _ fill _ _, .ok answer⟩ =>
      account = accountId ∧ fill.groupId = groupId ∧ answer = AtomicFillCommit.applied
  | _ => False

/-- A successful commit raises the version of its group by one. -/
def CommitRaisesVersion (db : Database) (event : CoordinatorEvent) (next : Database) : Prop :=
  ∀ accountId groupId, CommitsTo accountId groupId event → VersionRaised db next accountId groupId

variable {markets : List MarketRow} {db next : Database}

/-- The events of one leg belong to one account, so their trade ids are
distinct. -/
theorem Database.Consistent.fillIds_nodup (consistent : db.Consistent) {row : LegRow}
    (member : row ∈ db.legs) :
    ((db.events.filter fun event => event.orderLegId = row.leg.id).map
      EventRow.clobTradeId).Nodup := by
  have keys : ((db.events.filter fun event => event.orderLegId = row.leg.id).map
      EventRow.key).Nodup := consistent.tradeIds.sublist (List.filter_sublist.map _)
  refine (List.nodup_map_iff_inj_on (List.Nodup.of_map _ keys)).mpr ?_
  have account : ∀ event ∈ db.events.filter fun event => event.orderLegId = row.leg.id,
      event.accountId = row.accountId := by
    intro event inFilter
    obtain ⟨inEvents, named⟩ := List.mem_filter.mp inFilter
    obtain ⟨owner, inLegs, ownerAccount, ownerId, -⟩ := consistent.eventLegs event inEvents
    have same : owner = row := Table.eq_of_key consistent.legIds inLegs member
      (ownerId.trans (of_decide_eq_true named))
    rw [← ownerAccount, same]
  intro a inA b inB same
  have sameKey : a.key = b.key := Prod.ext ((account a inA).trans (account b inB).symm) same
  exact List.inj_on_of_nodup_map keys inA inB sameKey

theorem Served.commitRaisesVersion {event : CoordinatorEvent} (consistent : db.Consistent)
    (served : Served markets db event next) : CommitRaisesVersion db event next := by
  intro accountId groupId commits
  obtain ⟨request, answer⟩ := event
  cases answer with
  | error failure => cases request <;> exact commits.elim
  | ok response =>
      cases request with
      | commitPairGroupTransition account expected group legs reason =>
          obtain ⟨rfl, rfl, accepted⟩ := commits
          obtain ⟨now, done⟩ := served.transition_ok
          rw [accepted] at done
          obtain ⟨before, found, version, stored⟩ := done.groupRow consistent
          exact ⟨before, _, found, stored, congrArg (· + 1) version.symm⟩
      | commitPairFill account expected fill group legs =>
          obtain ⟨rfl, rfl, applied⟩ := commits
          obtain ⟨now, done⟩ := served.fill_ok
          rw [applied] at done
          obtain ⟨before, found, version, stored⟩ := done.groupRow consistent
          exact ⟨before, _, found, stored, congrArg (· + 1) version.symm⟩
      | _ => exact commits.elim

/-- A lawful request persists unfilled plans only. -/
theorem Lawful.startsUnfilled {request : CoordinatorRequest} {now : Instant} {call : RpcCall}
    (lawful : Lawful markets request) (calls : request.rpc? now = some call) :
    call.StartsUnfilled := by
  cases request with
  | persistPairOrderPlan accountId group scope legs =>
      cases calls
      obtain ⟨plan, unfilled, -, -, rfl, -⟩ := lawful
      exact fun leg member => ⟨unfilled.filled leg member, unfilled.fee leg member⟩
  | commitPairGroupTransition accountId expected group legs reason =>
      cases calls
      trivial
  | commitPairFill accountId expected fill group legs =>
      cases calls
      trivial
  | _ => cases calls

/-- What a served request keeps. -/
theorem Served.accounted {event : CoordinatorEvent} (invariant : db.Consistent ∧ db.Accounted)
    (lawful : Lawful markets event.request) (served : Served markets db event next) :
    next.Consistent ∧ next.Accounted := by
  rcases served.rpc with rfl | ⟨now, call, calls, step⟩
  · exact invariant
  · obtain ⟨consistent, accounted⟩ := invariant
    exact ⟨step.consistent consistent,
      step.accounted consistent accounted (lawful.startsUnfilled calls)⟩

/-- For any number of concurrent operations and any interleaving of their
requests: every leg's fills are counted exactly once, and every successful commit
raises the stored version by exactly one. -/
theorem fills_counted_once {ι : Type} [DecidableEq ι] (markets : List MarketRow)
    {workers : ι → Worker} (unfilled : ∀ i, (workers i).operation.StartsUnfilled)
    {labels : List (ι × CoordinatorEvent)} {final : CoordinatorPool ι}
    (run : Run (Pool.Step (Served markets)) (poolOf Database.empty workers) labels final) :
    final.shared.FillsCounted ∧
      Run (fun before label after => Pool.Step (Served markets) before label after ∧
          CommitRaisesVersion before.shared label.2 after.shared)
        (poolOf Database.empty workers) labels final := by
  have lawful := Pool.run_lawful (fun db event next served => ⟨db, next, served⟩)
    (fun i => Worker.lawful (unfilled i) markets) run
  obtain ⟨⟨consistent, accounted⟩, steps⟩ := lawful.invariant_steps
    (P := fun pool => pool.shared.Consistent ∧ pool.shared.Accounted)
    (Q := fun before label after => CommitRaisesVersion before.shared label.2 after.shared) (by
      rintro before label after invariant ⟨⟨resume, shared, -, served, rfl⟩, lawful⟩
      exact ⟨served.accounted invariant lawful, served.commitRaisesVersion invariant.1⟩)
    ⟨.empty, by simp [Database.Accounted, poolOf, Pool.start, Database.empty]⟩
  refine ⟨⟨accounted, fun row member => consistent.fillIds_nodup member,
    fun row member => (consistent.legCheck row member).filled.2⟩, ?_⟩
  exact steps.mono fun _ _ _ step => ⟨step.1.1, step.2⟩

/-- One submission and two deliveries of the same fill. -/
def redeliveringWorkers : Fin 3 → Worker
  | 0 => submitResearchPlan
  | _ => deliverResearchFill "t" 11 tradeName_nonempty

theorem redeliveringWorkers_unfilled :
    ∀ i, (redeliveringWorkers i).operation.StartsUnfilled
  | 0 => researchPlan_unfilled
  | 1 => trivial
  | 2 => trivial

/-- The submission runs first; the deliveries load in turn and both commit. -/
def redeliverySchedule : List (Fin 3) :=
  List.replicate 8 0 ++ [1, 2, 1, 2, 1, 2, 1, 2, 1, 2]

theorem redelivery_counted_once :
    ∃ labels final, Run (Pool.Step (Served researchMarkets))
        (poolOf Database.empty redeliveringWorkers) labels final ∧
      final.shared.FillsCounted ∧ final.shared.events.map EventRow.clobTradeId = ["t"] ∧
      final.shared.filledSizes = [1, 0] := by
  have replayed : (Pool.replay (fun _ => serveResearch) redeliverySchedule
      (poolOf Database.empty redeliveringWorkers)).map (fun result =>
        (result.2.shared.events.map EventRow.clobTradeId, result.2.shared.filledSizes)) =
          some (["t"], [1, 0]) := by
    decide +kernel
  obtain ⟨⟨labels, final⟩, replay, shown⟩ := Option.map_eq_some_iff.mp replayed
  have run := Pool.replay_run (fun _ => serveResearch_served) replay
  have counted := fills_counted_once researchMarkets redeliveringWorkers_unfilled run
  exact ⟨labels, final, run, counted.1, congrArg Prod.fst shown, congrArg Prod.snd shown⟩

end Polybot
