import Polybot.Interaction.Contract
import Polybot.Execution.GroupStatus
import Polybot.Execution.Harmless

/-!
A frozen group stays frozen.

The operations act on a group that they loaded some requests ago, and every
commit compares versions. The contract says what this leaves: versions only grow,
what a worker knows about the status at a version stays true, and a transition
stored over a FROZEN status stores FROZEN. The operations keep it under two
conditions, both on the concurrent steps: `confirm_cancellations` finds a FROZEN
state unresolved, and nobody freezes a group whose hedge is about to be
submitted.
-/

namespace Polybot

open Checked Interaction Contract

/-- The orders whose cancellation an operation asked for at their deadline. -/
def cancelledAtDeadline (log : List CoordinatorEvent) : List String :=
  log.flatMap fun event =>
    match event.request with
    | .cancelOrders orderIds reason => if reason = deadlineReason then orderIds else []
    | _ => []

/-- The quote of a FROZEN state resolves nothing. -/
def QuoteUnresolved (manager : PairOrderManager) (log : List CoordinatorEvent)
    (event : CoordinatorEvent) : Prop :=
  match event with
  | ⟨.quote state, answer⟩ => state.group.status = .frozen →
      manager.Unresolved (cancelledAtDeadline log).toFinset
        ((PairExecutionCoordinator.quotedPackage answer).map HedgePackage.quote) state.legs
  | _ => True

/-- What every step keeps. -/
structure FrozenKept (accountId : String) (groupId : UUID) (db : Database) (event : CoordinatorEvent)
    (next : Database) : Prop where
  advances : db.Advances next
  absorbing : ∀ account group, db.Frozen account group → next.Frozen account group
  unhedged : event.request.SubmitsHedge → ¬ db.Frozen accountId groupId

/-- Nobody freezes the group while its hedge is about to be submitted. -/
def frozenContract (markets : List MarketRow) (accountId : String) (groupId : UUID) :
    Contract CoordinatorRequest CoordinatorRequest.Response PyError Database where
  Serve db event next := db.Consistent ∧ Served markets db event next
  Guarantee := FrozenKept accountId groupId
  Allow request db next :=
    request.SubmitsHedge → next.Frozen accountId groupId → db.Frozen accountId groupId

/-- What a worker assumes of its quotes. -/
def quoteAssumption (manager : PairOrderManager) :
    Assumption CoordinatorRequest CoordinatorRequest.Response PyError Database :=
  fun log _ event => QuoteUnresolved manager log event

/-- The request neither moves a group nor submits a hedge. -/
def CoordinatorRequest.Quiet : CoordinatorRequest → Prop
  | commitPairGroupTransition _ _ _ _ _ => False
  | submit _ _ => False
  | _ => True

theorem CoordinatorRequest.Harmless.quiet {request : CoordinatorRequest}
    (harmless : request.Harmless) : request.Quiet := by
  cases request <;> trivial

variable {markets : List MarketRow} {accountId : String} {groupId : UUID} {db next : Database}

theorem cancelledAtDeadline_append (log : List CoordinatorEvent) {event : CoordinatorEvent}
    (harmless : event.request.Harmless) :
    cancelledAtDeadline (log ++ [event]) = cancelledAtDeadline log := by
  unfold cancelledAtDeadline
  rw [List.flatMap_append, List.flatMap_singleton]
  suffices none : (match event.request with
      | .cancelOrders orderIds reason => if reason = deadlineReason then orderIds else []
      | _ => []) = [] by rw [none, List.append_nil]
  split
  · rename_i named
    rw [named] at harmless
    exact if_neg harmless
  · rfl

/-- A quiet request keeps the contract. -/
theorem Served.quiet {event : CoordinatorEvent} (consistent : db.Consistent)
    (served : Served markets db event next) (quiet : event.request.Quiet) :
    FrozenKept accountId groupId db event next := by
  refine ⟨served.advances consistent, ?_, ?_⟩
  · rintro account group ⟨row, found, frozen⟩
    obtain ⟨later, still, rfl | ⟨-, stores⟩⟩ := served.groupRow consistent found
    · exact ⟨later, still, frozen⟩
    · cases named : event.request with
      | commitPairGroupTransition =>
          rw [named] at quiet
          exact quiet.elim
      | commitPairFill =>
          rw [named] at stores
          exact ⟨later, still, stores frozen⟩
      | _ =>
          rw [named] at stores
          exact stores.elim
  · intro hedges
    cases named : event.request with
    | submit =>
        rw [named] at quiet
        exact quiet.elim
    | _ =>
        rw [named] at hedges
        exact hedges.elim

/-- So does a hedge submission while the group is not FROZEN. -/
theorem Served.submit_kept {intent : TradeIntent} {book : OrderBookSnapshot}
    {answer : Except PyError ExecutionResult} (consistent : db.Consistent)
    (served : Served markets db ⟨.submit intent book, answer⟩ next)
    (moving : ¬ db.Frozen accountId groupId) :
    FrozenKept accountId groupId db ⟨.submit intent book, answer⟩ next := by
  refine ⟨served.advances consistent, ?_, fun _ => moving⟩
  rintro account group ⟨row, found, frozen⟩
  obtain ⟨later, still, rfl | ⟨-, stores⟩⟩ := served.groupRow consistent found
  · exact ⟨later, still, frozen⟩
  · exact stores.elim

/-- The status may be stored over `version`: it is FROZEN, or that version is not. -/
def Database.MayStore (db : Database) (accountId : String) (groupId : UUID) (version : Nat)
    (status : OrderGroupStatus) : Prop :=
  status = .frozen ∨ ∃ known, known ≠ .frozen ∧ db.Knows accountId groupId version known

theorem Database.MayStore.advance {account : String} {group : UUID} {version : Nat}
    {status : OrderGroupStatus} (may : db.MayStore account group version status)
    (advances : db.Advances next) : next.MayStore account group version status := by
  obtain frozen | ⟨known, moving, knows⟩ := may
  · exact .inl frozen
  · exact .inr ⟨known, moving, knows.advance advances⟩

/-- A transition keeps the contract if its status may be stored. -/
theorem Served.transition_kept {account reason : String} {expected : Nat} {group : GroupPayload}
    {legs : List OrderLeg} {answer : Except PyError Bool} (consistent : db.Consistent)
    (served : Served markets db
      ⟨.commitPairGroupTransition account expected group legs reason, answer⟩ next)
    (may : db.MayStore account group.id expected group.status) :
    FrozenKept accountId groupId db
      ⟨.commitPairGroupTransition account expected group legs reason, answer⟩ next := by
  refine ⟨served.advances consistent, ?_, fun hedges => hedges.elim⟩
  rintro owner target ⟨row, found, frozen⟩
  obtain ⟨later, still, rfl | ⟨-, rfl, rfl, here, stores⟩⟩ := served.groupRow consistent found
  · exact ⟨later, still, frozen⟩
  · obtain same | ⟨known, moving, other, again, -, status⟩ := may
    · exact ⟨later, still, stores.trans same⟩
    · rw [found] at again
      cases again
      exact absurd ((status here).symm.trans frozen) moving

theorem FrozenKept.rely {request : CoordinatorRequest}
    (relied : (frozenContract markets accountId groupId).Rely request db next) : db.Advances next :=
  relied.stable (K := db.Advances)
    (fun _ _ _ before kept _ account group row found => by
      obtain ⟨later, still, grown⟩ := before account group row found
      obtain ⟨last, final, more⟩ := kept.advances account group later still
      refine ⟨last, final, ?_⟩
      rcases more with rfl | more
      · exact grown
      · rcases grown with rfl | grown
        · exact .inr more
        · exact .inr (grown.trans more))
    fun account group row found => ⟨row, found, .inl rfl⟩

namespace PairExecutionCoordinator

variable (coordinator : PairExecutionCoordinator)

/-! ### Operations -/

variable {coordinator} {Assume : Assumption CoordinatorRequest CoordinatorRequest.Response PyError
  Database} {log : List CoordinatorEvent}

/-- A harmless program keeps what a growing database keeps. -/
theorem harmless_wp {α : Type} {program : CoordinatorProgram α} {Fact : α → Prop}
    {K : Database → Prop} (uses : HarmlessProgram program Fact)
    (stable : ∀ db next : Database, db.Advances next → K db → K next) (start : K db) :
    (frozenContract markets accountId groupId).Wp Assume program log db fun outcome log' db' =>
      cancelledAtDeadline log' = cancelledAtDeadline log ∧ K db' ∧
        ∀ value, outcome = .ok value → Fact value := by
  refine (Wp.of_uses (K := fun log' db' => cancelledAtDeadline log' = cancelledAtDeadline log ∧ K db')
    (fun _ _ _ _ => trivial)
    (fun _ _ _ harmless (served : _ ∧ Served markets _ _ _) => served.2.quiet served.1 harmless.quiet)
    (fun _ _ _ _ relied kept => ⟨kept.1, stable _ _ (FrozenKept.rely relied) kept.2⟩)
    (fun log' _ _ _ harmless (served : _ ∧ Served markets _ _ _) kept => ⟨(cancelledAtDeadline_append log' harmless).trans kept.1,
      stable _ _ (served.2.advances served.1) kept.2⟩) uses ⟨rfl, start⟩).mono ?_
  exact fun _ _ _ post => ⟨post.1.1, post.1.2, post.2⟩

/-- Nothing has to be known for harmless requests. -/
theorem harmless_tail {α : Type} {program : CoordinatorProgram α} {F : α → Prop}
    (uses : HarmlessProgram program F) :
    (frozenContract markets accountId groupId).Wp Assume program log db fun _ _ _ => True :=
  (harmless_wp (K := fun _ => True) uses (fun _ _ _ _ => trivial) trivial).mono
    fun _ _ _ _ => trivial

/-- A committed transition is the durable state of its group. -/
theorem commitTransition_wp {expected : Nat} {state : OrderGroupState} {reason : String}
    (may : db.MayStore coordinator.accountId state.group.id expected state.group.status) :
    (frozenContract markets accountId groupId).Wp Assume
      (coordinator.commitTransition expected state reason) log db fun outcome log' db' =>
        cancelledAtDeadline log' = cancelledAtDeadline log ∧
          ∀ next, outcome = .ok (some next) → next = state.normalized (expected + 1) ∧
            db'.At coordinator.accountId state.group.id (expected + 1) state.group.status := by
  unfold commitTransition
  refine Wp.bind (M := fun _ log' db' => log' = log ∧ db' = db) (Wp.lift ⟨rfl, rfl⟩)
    (fun _ _ _ post => ⟨congrArg _ post.1, fun _ raised => by cases raised⟩) ?_
  rintro _ log _ ⟨rfl, rfl⟩
  refine Wp.bind (M := fun answer log' db' =>
      cancelledAtDeadline log' = cancelledAtDeadline log ∧ (answer = .ok true →
        db'.At coordinator.accountId state.group.id (expected + 1) state.group.status))
    (Wp.ask fun before relied answer next served _ => ?_)
    (fun _ _ _ post => ⟨post.1, fun _ raised => by cases raised⟩) ?_
  · obtain ⟨consistent, served⟩ := served
    refine ⟨served.transition_kept consistent (may.advance (FrozenKept.rely relied)),
      by simp [cancelledAtDeadline], ?_⟩
    rintro rfl
    obtain ⟨now, done⟩ := served.transition_ok
    obtain ⟨row, -, -, stored⟩ := done.groupRow consistent
    exact ⟨_, stored, rfl, rfl⟩
  · rintro committed log' db' ⟨same, stored⟩
    refine ⟨same, fun next done => ?_⟩
    cases committed with
    | false => cases done
    | true =>
        cases done
        exact ⟨rfl, stored rfl⟩

theorem freezeState_wp {state : OrderGroupState} {reason : String} {timestamp : Instant} :
    (frozenContract markets accountId groupId).Wp Assume
      (coordinator.freezeState state reason timestamp) log db fun _ _ _ => True :=
  Wp.bind (commitTransition_wp (.inl rfl)) (fun _ _ _ _ => trivial) fun _ _ _ _ => trivial

/-- What is known of a state that was loaded. -/
structure LoadedFrom (coordinator : PairExecutionCoordinator) (accountId : String) (groupId : UUID)
    (state : OrderGroupState) (db : Database) : Prop where
  account : accountId = coordinator.accountId
  named : state.group.id = groupId
  knows : db.Knows accountId groupId state.group.version state.group.status

theorem loadGroupState_wp (account : String) (group : UUID) :
    (frozenContract markets accountId groupId).Wp Assume
      (coordinator.loadGroupState account group) log db fun outcome log' db' =>
        cancelledAtDeadline log' = cancelledAtDeadline log ∧
          ∀ state, outcome = .ok state → LoadedFrom coordinator account group state db' := by
  unfold loadGroupState
  refine Wp.bind (M := fun outcome log' _ =>
      cancelledAtDeadline log' = cancelledAtDeadline log ∧
        (outcome = .ok () → account = coordinator.accountId))
    (Wp.lift ⟨rfl, fun checked => ?_⟩)
    (fun _ _ _ mid => ⟨mid.1, fun _ raised => by cases raised⟩) ?_
  · unfold requireAccount at checked
    exact require_ok_iff.mp checked
  rintro _ log' _ ⟨started, same⟩
  cases same rfl
  refine Wp.bind (M := fun outcome log' db' =>
      cancelledAtDeadline log' = cancelledAtDeadline log ∧ ∀ row, outcome = .ok (some row) →
        row.id = group ∧ db'.Knows coordinator.accountId group row.version row.status)
    (Wp.ask fun before _ answer next served _ => ?_)
    (fun _ _ _ mid => ⟨mid.1, fun _ raised => by cases raised⟩) ?_
  · obtain ⟨consistent, served⟩ := served
    have harmless : CoordinatorRequest.Harmless (.selectGroup coordinator.accountId group) := trivial
    refine ⟨served.quiet consistent harmless.quiet,
      (cancelledAtDeadline_append _ harmless).trans started, ?_⟩
    rintro row rfl
    obtain ⟨outside, now, answered⟩ := served.answered_ok
    have found : before.group? coordinator.accountId group = some row :=
      Except.ok.inj (congrArg Prod.fst answered)
    have unchanged : before = next := congrArg Prod.snd answered
    rw [← unchanged]
    exact ⟨(Database.group?_some found).2.2, row, found, le_rfl, fun _ => rfl⟩
  · rintro found log' db' ⟨same, knows⟩
    cases found with
    | none => exact ⟨same, fun _ raised => by cases raised⟩
    | some row =>
        obtain ⟨named, known⟩ := knows row rfl
        refine (harmless_wp (K := fun db => db.Knows coordinator.accountId group row.version row.status)
          (coordinator.loadRest_harmless group row)
          (fun _ _ advances knows => knows.advance advances) known).mono ?_
        rintro outcome log'' db'' ⟨kept, still, described⟩
        refine ⟨kept.trans same, fun state done => ?_⟩
        obtain ⟨identity, grouped⟩ := described state done
        exact ⟨rfl, grouped ▸ named, grouped ▸ still⟩

theorem recordedHedge_id {state : OrderGroupState} {legId : UUID} {orderId : Option String}
    {timestamp : Instant} {result : OrderGroupState × OrderManagerAction}
    (recorded : (recordHedgeSubmission state legId orderId timestamp).mapError ManagerError.raised =
      .ok result) : result.1.group.id = state.group.id := by
  obtain ⟨-, -, rfl⟩ := recordHedgeSubmission_ok_iff.mp (mapError_ok_iff.mp recorded)
  dsimp only
  split <;> rfl

/-- The group was HEDGING at the version of the state. -/
def KnownHedging (coordinator : PairExecutionCoordinator) (state : OrderGroupState)
    (db : Database) : Prop :=
  db.Knows coordinator.accountId state.group.id state.group.version .hedging

theorem failHedge_wp {afterCancel : OrderGroupState} (leg : OrderLeg) (exc : PyError)
    (timestamp : Instant) (knows : KnownHedging coordinator afterCancel db) :
    (frozenContract markets accountId groupId).Wp Assume
      (coordinator.failHedge afterCancel leg exc timestamp) log db fun _ _ _ => True := by
  unfold failHedge
  refine Wp.bind (M := fun outcome _ db' => db' = db ∧
      ∀ recorded, outcome = .ok recorded → recorded.1.group.id = afterCancel.group.id)
    (Wp.lift ⟨rfl, fun _ => recordedHedge_id⟩) (fun _ _ _ _ => trivial) ?_
  rintro recorded log _ ⟨rfl, named⟩
  refine Wp.bind (commitTransition_wp (.inr ⟨.hedging, by decide, named recorded rfl ▸ knows⟩))
    (fun _ _ _ _ => trivial) fun committed _ _ _ => ?_
  cases committed <;> trivial

theorem recordHedge_wp (account : String) (group : UUID) {afterCancel : OrderGroupState}
    (leg : OrderLeg) (execution : ExecutionResult) (now : Option Instant) (clock : Nat → Instant)
    (knows : KnownHedging coordinator afterCancel db) :
    (frozenContract markets accountId groupId).Wp Assume
      (coordinator.recordHedge account group afterCancel leg execution now clock) log db
      fun _ _ _ => True := by
  unfold recordHedge
  refine Wp.bind (harmless_wp (K := KnownHedging coordinator afterCancel)
    (cancelHedge_harmless _ _) (fun _ _ advances knows => knows.advance advances) knows)
    (fun _ _ _ _ => trivial) ?_
  rintro _ log db ⟨-, knows, -⟩
  refine Wp.bind (M := fun outcome _ db' => db' = db ∧
      ∀ recorded, outcome = .ok recorded → recorded.1.group.id = afterCancel.group.id)
    (Wp.lift ⟨rfl, fun _ => recordedHedge_id⟩) (fun _ _ _ _ => trivial) ?_
  rintro recorded log _ ⟨rfl, named⟩
  refine Wp.bind (commitTransition_wp (.inr ⟨.hedging, by decide, named recorded rfl ▸ knows⟩))
    (fun _ _ _ _ => trivial) fun committed _ _ _ => ?_
  cases committed with
  | none => exact harmless_tail (F := Anything) (.bind (cancelHedge_harmless _ _) fun _ _ => trivial)
  | some hedged => exact harmless_tail (coordinator.finishHedge_harmless account group leg execution _ _ _)

/-- The hedge of a group that was not FROZEN when the transition to HEDGING was
committed: nobody freezes it while the submission is pending. -/
theorem submitHedge_wp (runId : String) {afterCancel : OrderGroupState} (leg : OrderLeg)
    (package : HedgePackage) (now : Option Instant) (clock : Nat → Instant)
    (account : accountId = coordinator.accountId) (named : afterCancel.group.id = groupId)
    (here : db.At accountId groupId afterCancel.group.version .hedging) :
    (frozenContract markets accountId groupId).Wp Assume
      (coordinator.submitHedge accountId groupId runId afterCancel leg package now clock) log db
      fun _ _ _ => True := by
  subst account named
  unfold submitHedge
  split
  · exact failHedge_wp leg _ _ here.knows
  · rename_i intent book _
    refine Wp.bind (M := fun _ _ db' => KnownHedging coordinator afterCancel db')
      (Wp.attempt (Wp.ask fun before relied answer next served _ => ?_)) (fun _ _ _ _ => trivial) ?_
    · obtain ⟨consistent, served⟩ := served
      have moving : ¬ before.Frozen coordinator.accountId afterCancel.group.id :=
        relied.stable (K := fun db => ¬ db.Frozen coordinator.accountId afterCancel.group.id)
          (fun _ _ _ moving _ allowed frozen => moving (allowed trivial frozen))
          (here.not_frozen (by decide))
      exact ⟨served.submit_kept consistent moving,
        (here.knows.advance (FrozenKept.rely relied)).advance (served.advances consistent)⟩
    · intro answered log db knows
      cases answered with
      | error exc => exact failHedge_wp leg exc _ knows
      | ok execution => exact recordHedge_wp _ _ leg execution now clock knows

theorem confirmCancellations_id (manager : PairOrderManager) (state : OrderGroupState)
    (cancelled : Finset String) (quote : Option HedgeQuote) (hedgeLegId : UUID)
    (timestamp : Instant) :
    (manager.confirmCancellations state cancelled quote hedgeLegId timestamp).1.group.id =
      state.group.id := by
  unfold PairOrderManager.confirmCancellations PairOrderManager.hedgeOrSettle
    terminalWithoutWorkingOrders
  dsimp only
  repeat' split
  all_goals rfl

theorem onLegDeadline_id (state : OrderGroupState) (timestamp : Instant) :
    (onLegDeadline state timestamp).1.group.id = state.group.id := by
  unfold onLegDeadline terminalWithoutWorkingOrders
  dsimp only
  repeat' split
  all_goals rfl

/-- A reconciled FROZEN state stays FROZEN as long as its quote resolves nothing. -/
theorem hedgeReconciled_wp (runId : String) (orderIds : List String)
    {reconciled : OrderGroupState} (hedgeLegId : UUID) (now : Option Instant)
    (clock : Nat → Instant) (cancelled : cancelledAtDeadline log = orderIds)
    (loaded : LoadedFrom coordinator accountId groupId reconciled db) :
    (frozenContract markets accountId groupId).Wp (quoteAssumption coordinator.orderManager)
      (coordinator.hedgeReconciled accountId groupId runId orderIds reconciled hedgeLegId now clock)
      log db fun _ _ _ => True := by
  obtain ⟨rfl, rfl, knows⟩ := loaded
  unfold hedgeReconciled
  refine Wp.bind (M := fun outcome _ db' => ∀ quoted, outcome = .ok quoted →
      db'.Knows coordinator.accountId reconciled.group.id reconciled.group.version
        reconciled.group.status ∧ (reconciled.group.status = .frozen →
          coordinator.orderManager.Unresolved orderIds.toFinset
            ((quotedPackage quoted).map HedgePackage.quote) reconciled.legs))
    (Wp.attempt (Wp.ask fun before relied answer next served assumed => ?_))
    (fun _ _ _ _ => trivial) ?_
  · obtain ⟨consistent, served⟩ := served
    refine ⟨served.quiet consistent trivial, fun quoted same => ?_⟩
    cases same
    refine ⟨(knows.advance (FrozenKept.rely relied)).advance (served.advances consistent), ?_⟩
    intro frozen
    have unresolved := assumed frozen
    rwa [cancelled] at unresolved
  intro quoted log db quote
  obtain ⟨knows, unresolved⟩ := quote quoted rfl
  refine Wp.bind (commitTransition_wp ?_) (fun _ _ _ _ => trivial) ?_
  · by_cases frozen : reconciled.group.status = .frozen
    · exact .inl ((confirmCancellations_frozen_iff _ frozen _ _ _ _).mpr (unresolved frozen))
    · rw [confirmCancellations_id]
      exact .inr ⟨_, frozen, knows⟩
  · intro committed log db stored
    cases committed with
    | none => trivial
    | some afterCancel =>
        obtain ⟨rfl, here⟩ := stored.2 afterCancel rfl
        dsimp only
        split
        · trivial
        · rename_i hedges
          split
          · rename_i leg package _ _
            rw [confirmCancellations_hedging (not_not.mp hedges), confirmCancellations_id] at here
            exact submitHedge_wp runId leg package now clock rfl
              (confirmCancellations_id _ _ _ _ _ _) here
          · trivial

theorem loadAfterCancelReconciliation_wp (account : String) (group : UUID)
    (orderIds : List String) :
    (frozenContract markets accountId groupId).Wp Assume
      (coordinator.loadAfterCancelReconciliation account group orderIds) log db
      fun outcome log' db' => cancelledAtDeadline log' = cancelledAtDeadline log ∧
        ∀ state, outcome = .ok state → LoadedFrom coordinator account group state db' := by
  have quiet {α β : Type} {program : CoordinatorProgram α} {next : α → CoordinatorProgram β}
      {F : α → Prop} {Loaded : β → Database → Prop} {log : List CoordinatorEvent} {db : Database}
      (uses : HarmlessProgram program F)
      (rest : ∀ value log db, (frozenContract markets accountId groupId).Wp Assume (next value) log db
        fun outcome log' db' => cancelledAtDeadline log' = cancelledAtDeadline log ∧
          ∀ value, outcome = .ok value → Loaded value db') :
      (frozenContract markets accountId groupId).Wp Assume (program >>= next) log db
        fun outcome log' db' => cancelledAtDeadline log' = cancelledAtDeadline log ∧
          ∀ value, outcome = .ok value → Loaded value db' := by
    refine Wp.bind (harmless_wp (K := fun _ => True) uses (fun _ _ _ _ => trivial) trivial)
      (fun _ _ _ post => ⟨post.1, fun _ raised => by cases raised⟩) fun value log' db' post => ?_
    exact (rest value log' db').mono fun _ _ _ later => ⟨later.1.trans post.1, later.2⟩
  unfold loadAfterCancelReconciliation
  refine quiet (lift_harmless _) fun _ _ _ => quiet (lift_harmless _) fun _ _ _ =>
    quiet (await_harmless trivial) fun _ log db => ?_
  refine Wp.bind (loadGroupState_wp account group)
    (fun _ _ _ post => ⟨post.1, fun _ raised => by cases raised⟩) ?_
  rintro state log' db' ⟨same, loaded⟩
  refine Wp.bind (M := fun _ log'' db'' => log'' = log' ∧ db'' = db') (Wp.lift ⟨rfl, rfl⟩) ?_ ?_
  · rintro _ _ _ ⟨rfl, -⟩
    exact ⟨same, fun _ raised => by cases raised⟩
  · rintro _ _ _ ⟨rfl, rfl⟩
    exact ⟨same, fun other done => by cases done; exact loaded state rfl⟩

theorem cancelExpired_wp (runId : String) {cancelling : OrderGroupState} (orderIds : List String)
    (hedgeLegId : UUID) (now : Option Instant) (clock : Nat → Instant)
    (start : cancelledAtDeadline log = []) :
    (frozenContract markets accountId groupId).Wp (quoteAssumption coordinator.orderManager)
      (coordinator.cancelExpired accountId groupId runId cancelling orderIds hedgeLegId now clock)
      log db fun _ _ _ => True := by
  unfold cancelExpired
  refine Wp.bind (M := fun _ log' _ => cancelledAtDeadline log' = orderIds)
    (Wp.attempt (Wp.ask fun before relied answer next served _ => ?_)) (fun _ _ _ _ => trivial) ?_
  · refine ⟨served.2.quiet served.1 trivial, ?_⟩
    unfold cancelledAtDeadline at start ⊢
    rw [List.flatMap_append, start]
    simp [deadlineReason]
  · intro verified log db cancelled
    split
    · refine Wp.bind (M := fun outcome log' db' => cancelledAtDeadline log' = orderIds ∧
          ∀ state, outcome = .ok (.ok state) → LoadedFrom coordinator accountId groupId state db')
        (Wp.attempt ((loadAfterCancelReconciliation_wp accountId groupId orderIds).mono ?_))
        (fun _ _ _ _ => trivial) ?_
      · intro outcome log' db' post
        exact ⟨post.1.trans cancelled, fun state done => post.2 state (Except.ok.inj done)⟩
      · rintro loaded log' db' ⟨cancelled, facts⟩
        cases loaded with
        | error exc => exact freezeState_wp
        | ok state =>
            exact hedgeReconciled_wp runId orderIds hedgeLegId now clock cancelled (facts state rfl)
    · exact freezeState_wp

theorem processDeadline_wp (runId : String) (now : Option Instant) (hedgeLegId : UUID)
    (clock : Nat → Instant) :
    (frozenContract markets accountId groupId).Wp (quoteAssumption coordinator.orderManager)
      (coordinator.processDeadline accountId groupId runId now hedgeLegId clock) [] db
      fun _ _ _ => True := by
  unfold processDeadline
  split
  · trivial
  refine Wp.bind (loadGroupState_wp accountId groupId) (fun _ _ _ _ => trivial) ?_
  rintro before log db ⟨start, facts⟩
  obtain ⟨rfl, rfl, knows⟩ := facts before rfl
  have may : ∀ timestamp, (onLegDeadline before timestamp).2.action ≠ .none →
      db.MayStore coordinator.accountId (onLegDeadline before timestamp).1.group.id
        before.group.version (onLegDeadline before timestamp).1.group.status := by
    intro timestamp acts
    rw [onLegDeadline_id]
    exact .inr ⟨_, onLegDeadline_not_frozen acts, knows⟩
  unfold expire
  dsimp only
  split
  · trivial
  · rename_i acts
    refine Wp.bind (commitTransition_wp (may _ (by rw [acts]; decide))) (fun _ _ _ _ => trivial) ?_
    rintro committed log db ⟨same, -⟩
    cases committed with
    | none => trivial
    | some cancelling =>
        exact cancelExpired_wp runId _ hedgeLegId now clock (same.trans start)
  · rename_i acts _
    refine Wp.bind (commitTransition_wp (may _ acts)) (fun _ _ _ _ => trivial) fun committed _ _ _ => ?_
    cases committed <;> trivial

/-- A persisted plan is PLANNED at its version. -/
theorem persistPlan_wp {plan : OrderPlan} (unfilled : plan.Unfilled) :
    (frozenContract markets accountId groupId).Wp Assume (coordinator.persistPlan plan) log db
      fun outcome _ db' => outcome = .ok true →
        db'.Knows coordinator.accountId plan.group.id plan.group.version .planned := by
  unfold persistPlan
  refine Wp.bind (harmless_tail (lift_harmless _)) (fun _ _ _ _ raised => by cases raised)
    fun walletId _ _ _ => Wp.bind (harmless_tail (await_harmless trivial))
      (fun _ _ _ _ raised => by cases raised) fun marketId _ _ _ =>
        Wp.ask fun before _ answer next served _ => ?_
  obtain ⟨consistent, served⟩ := served
  refine ⟨served.quiet consistent trivial, ?_⟩
  rintro rfl
  have afterwards := served.consistent consistent
  cases served.persist_ok with
  | stored _ _ _ _ _ _ stored =>
      have member : planRow coordinator.accountId (groupPayload plan.group)
          ⟨marketId, walletId, false⟩ ∈ next.groups := by
        rw [stored]
        exact List.mem_append_right _ (List.mem_singleton.mpr rfl)
      exact ⟨_, afterwards.group?_eq member, le_rfl, fun _ => unfilled.status⟩

theorem recordedBatch_id (plan : OrderPlan) (executions : List ExecutionResult)
    (clock : Nat → Instant) : (recordedBatch plan executions clock).group.id = plan.group.id := by
  unfold recordedBatch
  dsimp only
  split <;> rfl

theorem recordBatch_wp (plan : OrderPlan) (executions : List ExecutionResult)
    (clock : Nat → Instant)
    (knows : db.Knows coordinator.accountId plan.group.id plan.group.version .planned) :
    (frozenContract markets accountId groupId).Wp Assume
      (coordinator.recordBatch plan executions clock) log db fun _ _ _ => True := by
  unfold recordBatch
  refine Wp.bind (harmless_wp
    (K := fun db => db.Knows coordinator.accountId plan.group.id plan.group.version .planned)
    (cancelAcceptedBestEffort_harmless _) (fun _ _ advances knows => knows.advance advances) knows)
    (fun _ _ _ _ => trivial) ?_
  rintro _ log db ⟨-, knows, -⟩
  refine Wp.bind (commitTransition_wp ?_) (fun _ _ _ _ => trivial) fun committed _ _ _ => ?_
  · rw [recordedBatch_id]
    exact .inr ⟨.planned, by decide, knows⟩
  · cases committed with
    | none =>
        exact harmless_tail (F := Anything)
          (.bind (cancelAcceptedBestEffort_harmless _) fun _ _ => trivial)
    | some state => exact harmless_tail (coordinator.finishSubmission_harmless plan executions clock)

theorem submitPlan_wp {plan : OrderPlan} (unfilled : plan.Unfilled)
    (books : String → Option OrderBookSnapshot) (runId : String) (clock : Nat → Instant) :
    (frozenContract markets accountId groupId).Wp Assume
      (coordinator.submitPlan plan books runId clock) log db fun _ _ _ => True := by
  unfold submitPlan
  split
  · trivial
  refine Wp.bind (persistPlan_wp unfilled) (fun _ _ _ _ => trivial) fun persisted log db planned => ?_
  split
  · exact harmless_tail (F := Anything)
      (.bind (coordinator.loadGroupState_harmless _ _) fun _ _ => trivial)
  · rename_i fresh
    have knows := planned (by rw [Bool.not_eq_false] at fresh; rw [fresh])
    split
    · exact freezeState_wp
    · rename_i batch _
      unfold submitBatch
      refine Wp.bind (M := fun _ _ db' =>
          db'.Knows coordinator.accountId plan.group.id plan.group.version .planned)
        (Wp.attempt (Wp.ask fun before relied answer next served _ => ?_)) (fun _ _ _ _ => trivial) ?_
      · exact ⟨served.2.quiet served.1 trivial,
          (knows.advance (FrozenKept.rely relied)).advance (served.2.advances served.1)⟩
      intro answered log db knows
      cases answered with
      | error exc =>
          exact Wp.bind (harmless_tail (attempt_harmless trivial)) (fun _ _ _ _ => trivial)
            fun _ _ _ _ => freezeState_wp
      | ok executions =>
          dsimp only
          split
          · exact Wp.bind (harmless_tail (cancelAcceptedBestEffort_harmless _))
              (fun _ _ _ _ => trivial) fun _ _ _ _ =>
                Wp.bind freezeState_wp (fun _ _ _ _ => trivial) fun _ _ _ _ => trivial
          · exact recordBatch_wp plan executions clock knows

end PairExecutionCoordinator

/-! ### Runs -/

/-- The operation is about the group. -/
def CoordinatorOperation.Concerns (accountId : String) (groupId : UUID) : CoordinatorOperation → Prop
  | submitPlan plan _ _ _ => plan.group.accountId = accountId ∧ plan.group.id = groupId
  | onFill fill => fill.accountId = accountId ∧ fill.groupId = groupId
  | processDeadline account group _ _ _ _ => account = accountId ∧ group = groupId

theorem Worker.frozen_wp {worker : Worker} (unfilled : worker.operation.StartsUnfilled)
    (concerns : worker.operation.Concerns accountId groupId) :
    (frozenContract markets accountId groupId).Wp (quoteAssumption worker.coordinator.orderManager)
      worker.program [] db fun _ _ _ => True := by
  unfold Worker.program
  cases operation : worker.operation with
  | submitPlan plan books runId clock =>
      rw [operation] at unfilled
      exact PairExecutionCoordinator.submitPlan_wp unfilled books runId clock
  | onFill fill =>
      exact PairExecutionCoordinator.harmless_tail (worker.coordinator.onFill_harmless fill)
  | processDeadline account group runId now hedgeLegId clock =>
      rw [operation] at concerns
      obtain ⟨rfl, rfl⟩ := concerns
      exact PairExecutionCoordinator.processDeadline_wp runId now hedgeLegId clock

/-- The worker is about to submit a hedge. -/
def PendingHedge {α : Type} (program : CoordinatorProgram α) : Prop :=
  ∃ request resume, program = .call request resume ∧ request.SubmitsHedge

/-- A step that respects a freeze: a quote of a FROZEN state resolves nothing, and
no other worker is about to submit a hedge when the group becomes FROZEN. -/
structure FreezeRespected {ι : Type} [DecidableEq ι] (markets : List MarketRow)
    (workers : ι → Worker) (accountId : String) (groupId : UUID) (pool : CoordinatorPool ι)
    (label : ι × CoordinatorEvent) (next : CoordinatorPool ι) : Prop where
  step : Pool.Step (Served markets) pool label next
  unresolved : QuoteUnresolved (workers label.1).coordinator.orderManager (pool.log label.1) label.2
  alone : ∀ j, j ≠ label.1 → PendingHedge (pool.program j) → next.shared.Frozen accountId groupId →
    pool.shared.Frozen accountId groupId

/-- For any number of concurrent operations over one group and any interleaving of
their requests that respects freezes: once the group is FROZEN it stays FROZEN,
and no hedge is submitted any more. -/
theorem frozen_is_absorbing {ι : Type} [DecidableEq ι] (markets : List MarketRow)
    {workers : ι → Worker} (unfilled : ∀ i, (workers i).operation.StartsUnfilled)
    {accountId : String} {groupId : UUID}
    (concern : ∀ i, (workers i).operation.Concerns accountId groupId)
    {before after : List (ι × CoordinatorEvent)} {pool final : CoordinatorPool ι}
    (reached : Run (FreezeRespected markets workers accountId groupId)
      (poolOf Database.empty workers) before pool)
    (frozen : pool.shared.Frozen accountId groupId)
    (later : Run (FreezeRespected markets workers accountId groupId) pool after final) :
    final.shared.Frozen accountId groupId ∧
      ∀ label ∈ after, ¬ label.2.request.SubmitsHedge := by
  let contract := frozenContract markets accountId groupId
  let assume := fun i => quoteAssumption (workers i).coordinator.orderManager
  have kept : ∀ (p : CoordinatorPool ι) label q,
      p.shared.Consistent ∧ contract.Correct assume p →
      FreezeRespected markets workers accountId groupId p label q →
      FrozenKept accountId groupId p.shared label.2 q.shared ∧
        q.shared.Consistent ∧ contract.Correct assume q := by
    rintro p label q ⟨consistent, correct⟩ ⟨step, unresolved, alone⟩
    have permitted : contract.Permitted assume p label q := by
      obtain ⟨resume, shared, here, served, rfl⟩ := step
      exact ⟨⟨resume, shared, here, ⟨consistent, served⟩, rfl⟩, unresolved,
        fun j other request resume pending hedges => alone j other ⟨request, resume, pending, hedges⟩⟩
    obtain ⟨guaranteed, correct'⟩ := correct.step permitted
    obtain ⟨resume, shared, -, served, rfl⟩ := step
    exact ⟨guaranteed, served.consistent consistent, correct'⟩
  have start : (poolOf Database.empty workers).shared.Consistent ∧
      contract.Correct assume (poolOf Database.empty workers) :=
    ⟨.empty, fun i => Worker.frozen_wp (unfilled i) (concern i)⟩
  have correct := reached.invariant (P := fun p => p.shared.Consistent ∧ contract.Correct assume p)
    (fun p label q correct step => (kept p label q correct step).2) start
  obtain ⟨⟨-, still⟩, unhedged⟩ := later.invariant_along
    (P := fun p => (p.shared.Consistent ∧ contract.Correct assume p) ∧
      p.shared.Frozen accountId groupId)
    (Q := fun label => ¬ label.2.request.SubmitsHedge)
    (fun p label q now step => by
      obtain ⟨guaranteed, correct'⟩ := kept p label q now.1 step
      exact ⟨⟨correct', guaranteed.absorbing _ _ now.2⟩,
        fun hedges => guaranteed.unhedged hedges now.2⟩)
    ⟨correct, frozen⟩
  exact ⟨still, unhedged⟩

/-! ### A freeze between two deadlines -/

instance (db : Database) (accountId : String) (groupId : UUID) :
    Decidable (db.Frozen accountId groupId) :=
  match found : db.group? accountId groupId with
  | none => .isFalse fun ⟨_, other, _⟩ => by
      rw [found] at other
      cases other
  | some row => decidable_of_iff (row.status = .frozen)
      ⟨fun frozen => ⟨row, found, frozen⟩, fun ⟨_, other, frozen⟩ => by
        rw [found] at other
        cases other
        exact frozen⟩

instance (manager : PairOrderManager) (cancelled : Finset String) (quote : Option HedgeQuote)
    (legs : List OrderLeg) : Decidable (manager.Unresolved cancelled quote legs) :=
  inferInstanceAs (Decidable (_ ∨ _ ∧ ∀ offered ∈ quote, _))

/-- `QuoteUnresolved` as a computation. -/
def quoteUnresolved (manager : PairOrderManager) (log : List CoordinatorEvent)
    (event : CoordinatorEvent) : Bool :=
  match event with
  | ⟨.quote state, answer⟩ => state.group.status = .frozen →
      manager.Unresolved (cancelledAtDeadline log).toFinset
        ((PairExecutionCoordinator.quotedPackage answer).map HedgePackage.quote) state.legs
  | _ => true

/-- `SubmitsHedge` as a computation. -/
def CoordinatorRequest.submitsHedge : CoordinatorRequest → Bool
  | submit _ _ => true
  | _ => false

theorem CoordinatorRequest.submitsHedge_iff {request : CoordinatorRequest} :
    request.submitsHedge = true ↔ request.SubmitsHedge := by
  cases request <;> simp [submitsHedge, SubmitsHedge]

/-- `PendingHedge` as a computation. -/
def pendingHedge {α : Type} : CoordinatorProgram α → Bool
  | .call request _ => request.submitsHedge
  | _ => false

/-- `FreezeRespected` without the step, as a computation. -/
def respectsFreeze {n : Nat} (workers : Fin n → Worker) (accountId : String) (groupId : UUID)
    (pool : CoordinatorPool (Fin n)) (label : Fin n × CoordinatorEvent)
    (next : CoordinatorPool (Fin n)) : Bool :=
  quoteUnresolved (workers label.1).coordinator.orderManager (pool.log label.1) label.2 &&
    decide (∀ j, j ≠ label.1 → pendingHedge (pool.program j) = true →
      next.shared.Frozen accountId groupId → pool.shared.Frozen accountId groupId)

theorem FreezeRespected.of_check {n : Nat} {workers : Fin n → Worker}
    {pool next : CoordinatorPool (Fin n)} {label : Fin n × CoordinatorEvent}
    (step : Pool.Step (Served markets) pool label next)
    (check : respectsFreeze workers accountId groupId pool label next = true) :
    FreezeRespected markets workers accountId groupId pool label next := by
  obtain ⟨unresolved, alone⟩ := Bool.and_eq_true_iff.mp check
  refine ⟨step, ?_, fun j other pending => of_decide_eq_true alone j other ?_⟩
  · obtain ⟨i, request, answer⟩ := label
    cases request with
    | quote state =>
        intro frozen
        unfold quoteUnresolved at unresolved
        exact of_decide_eq_true unresolved frozen
    | _ => trivial
  · obtain ⟨request, resume, here, hedges⟩ := pending
    rw [here]
    exact CoordinatorRequest.submitsHedge_iff.mpr hedges

/-- A submission, a fill of one leg, and two deadlines. -/
def expiringWorkers : Fin 4 → Worker
  | 0 => submitResearchPlan
  | 1 => deliverResearchFill "t" 11 tradeName_nonempty
  | 2 => processResearchDeadline 20
  | 3 => processResearchDeadline 21

theorem expiringWorkers_unfilled : ∀ i, (expiringWorkers i).operation.StartsUnfilled
  | 0 => researchPlan_unfilled
  | 1 => trivial
  | 2 => trivial
  | 3 => trivial

theorem expiringWorkers_concern : ∀ i, (expiringWorkers i).operation.Concerns "account" 1
  | 0 => ⟨rfl, rfl⟩
  | 1 => ⟨rfl, rfl⟩
  | 2 => ⟨rfl, rfl⟩
  | 3 => ⟨rfl, rfl⟩

/-- The first deadline asks for cancellations, the second one freezes the group. -/
def freezingSchedule : List (Fin 4) :=
  List.replicate 8 0 ++ List.replicate 5 1 ++ List.replicate 6 2 ++ List.replicate 5 3

/-- A provider that has no quote. -/
def serveUnquoted (db : Database) (request : CoordinatorRequest) :
    Except PyError request.Response × Database :=
  execute researchMarkets (fun
    | .quote _ => .ok none
    | other => researchExchange other) 7 db request

theorem serveUnquoted_served (db : Database) (request : CoordinatorRequest) :
    Served researchMarkets db ⟨request, (serveUnquoted db request).1⟩ (serveUnquoted db request).2 :=
  .answered _ _ _

/-- The second deadline freezes the group while the first one waits for its
cancellations. Without a quote it stays FROZEN. -/
theorem unquoted_freeze_is_absorbing :
    ∃ before after pool final,
      Run (FreezeRespected researchMarkets expiringWorkers "account" 1)
        (poolOf Database.empty expiringWorkers) before pool ∧
      pool.shared.Frozen "account" 1 ∧
      Run (FreezeRespected researchMarkets expiringWorkers "account" 1) pool after final ∧
      after.length = 7 ∧ final.shared.Frozen "account" 1 ∧
      ∀ label ∈ after, ¬ label.2.request.SubmitsHedge := by
  let checked := Pool.replayWhere (respectsFreeze expiringWorkers "account" 1) fun _ => serveUnquoted
  have replayed : ((checked freezingSchedule (poolOf Database.empty expiringWorkers)).bind
      fun first => (checked (List.replicate 7 2) first.2).map fun second =>
        (decide (first.2.shared.Frozen "account" 1), second.1.length)) = some (true, 7) := by
    decide +kernel
  obtain ⟨⟨before, pool⟩, first, rest⟩ := Option.bind_eq_some_iff.mp replayed
  obtain ⟨⟨after, final⟩, second, shown⟩ := Option.map_eq_some_iff.mp rest
  obtain ⟨frozen, length⟩ := Prod.mk.inj shown
  have reached := (Pool.replayWhere_run (fun _ => serveUnquoted_served) first).mono
    fun _ _ _ step => FreezeRespected.of_check step.1 step.2
  have later := (Pool.replayWhere_run (fun _ => serveUnquoted_served) second).mono
    fun _ _ _ step => FreezeRespected.of_check step.1 step.2
  have absorbed := frozen_is_absorbing researchMarkets expiringWorkers_unfilled
    expiringWorkers_concern reached (of_decide_eq_true frozen) later
  exact ⟨before, after, pool, final, reached, of_decide_eq_true frozen, later, length, absorbed⟩

/-- With a quote the first deadline moves the FROZEN group to HEDGING and submits
its hedge. -/
theorem quoted_freeze_is_hedged :
    ∃ before after pool final,
      Run (Pool.Step (Served researchMarkets)) (poolOf Database.empty expiringWorkers) before pool ∧
      pool.shared.Frozen "account" 1 ∧ Run (Pool.Step (Served researchMarkets)) pool after final ∧
      ¬ final.shared.Frozen "account" 1 ∧ ∃ label ∈ after, label.2.request.SubmitsHedge := by
  let served (schedule : List (Fin 4)) (pool : CoordinatorPool (Fin 4)) :=
    Pool.replay (fun _ => serveResearch) schedule pool
  have replayed : ((served freezingSchedule (poolOf Database.empty expiringWorkers)).bind
      fun first => (served (List.replicate 8 2) first.2).map fun second =>
        (decide (first.2.shared.Frozen "account" 1), decide (second.2.shared.Frozen "account" 1),
          second.1.any fun label => label.2.request.submitsHedge)) = some (true, false, true) := by
    decide +kernel
  obtain ⟨⟨before, pool⟩, first, rest⟩ := Option.bind_eq_some_iff.mp replayed
  obtain ⟨⟨after, final⟩, second, shown⟩ := Option.map_eq_some_iff.mp rest
  obtain ⟨frozen, moved, hedged⟩ := Prod.mk.inj shown |>.imp_right Prod.mk.inj
  obtain ⟨label, member, hedges⟩ := List.any_eq_true.mp hedged
  exact ⟨before, after, pool, final, Pool.replay_run (fun _ => serveResearch_served) first,
    of_decide_eq_true frozen, Pool.replay_run (fun _ => serveResearch_served) second,
    of_decide_eq_false moved, label, member, CoordinatorRequest.submitsHedge_iff.mp hedges⟩

end Polybot
