import Polybot.Brokers.AcceptedOrders
import Polybot.Reconcile.Absence

/-!
The durable warning about an order that was accepted while its authority changed.

`submit` marks the execution of such an order with `reconciliation_required`, which later
merges keep and `confirm_orders_absent` obeys (`LiveResult.Marked.protects`).
`submit_batch` saves its legs without the mark, and two absences write them off
(`JsonCodec.written_off_unmarked`). `change_is_warned_iff` says that these legs are the only
orders without the warning.
-/

namespace Polybot

open Checked Interaction Program Stage

/-! ### The mark in the row of an order -/

/-- What is looked up in a merged object. -/
theorem JsonObject.get?_merge_eq (front back : JsonObject) (key : String) :
    (merge front back).get? key = (back.get? key <|> front.get? key) := by
  cases found : back.get? key with
  | some value => exact get?_merge (Dict.get?_eq_some_iff.mp found)
  | none =>
      have absent : ∀ entry ∈ back.entries, entry.1 ≠ key := fun entry member same =>
        Dict.get?_eq_none_iff.mp found (List.mem_map.mpr ⟨entry, member, same⟩)
      have kept : ∀ entries : List (String × String), (∀ entry ∈ entries, entry.1 ≠ key) →
          ∀ merged : JsonObject,
            (entries.foldl (fun merged entry => merged.set entry.1 entry.2) merged).get? key =
              merged.get? key := by
        intro entries others
        induction entries with
        | nil => exact fun _ => rfl
        | cons entry rest ih =>
            rw [List.forall_mem_cons] at others
            intro merged
            rw [List.foldl_cons, ih others.2, Dict.get?_set_ne merged (Ne.symm others.1)]
      exact kept back.entries absent front

section Mark

variable (holds : String → Bool)

/-- The stored order has the mark. -/
def OrderLedger.Required (ledger : OrderLedger) : Prop :=
  ∃ durable ∈ ledger.order, durable.row.val.Required holds

/-- The call does not take a mark back: an execution that has the key has it set. -/
def LifeCall.KeepsMark : LifeCall → Prop
  | .order (.execution result) =>
      ∀ value ∈ result.raw.get? "reconciliation_required", holds value = true
  | _ => True

/-- No absence changes the order, whatever calls come before it. -/
def OrderLedger.Withstands (markets : List MarketRow) (ledger : OrderLedger) : Prop :=
  ∀ front clobOrderIds now, (∀ call ∈ front, call.KeepsMark holds) →
    ledger.handleAll holds markets (front ++ [.absent clobOrderIds now]) =
      ledger.handleAll holds markets front

variable {holds} {markets : List MarketRow} {ledger next : OrderLedger} {result : ExecutionReport}

/-- What `save_execution` leaves under the mark's key. -/
theorem OrderLedger.saveExecution_mark (saved : ledger.saveExecution result = .ok next) :
    ∃ durable ∈ next.order, durable.row.val.responsePayload.get? "reconciliation_required" =
      (result.raw.get? "reconciliation_required" <|>
        (ledger.order.bind fun before =>
          before.row.val.responsePayload.get? "reconciliation_required")) := by
  have reported : (ledger.intent.executionPayload result).responsePayload.get?
      "reconciliation_required" = result.raw.get? "reconciliation_required" := by
    refine (JsonObject.get?_merge_eq _ _ _).trans ?_
    rw [Dict.get?_set_ne Dict.empty (by decide), Dict.get?_empty]
    cases result.raw.get? "reconciliation_required" <;> rfl
  cases known : ledger.order with
  | some durable =>
      obtain ⟨row, order, merged⟩ := OrderLedger.saveExecution_some known saved
      refine ⟨_, order, ?_⟩
      dsimp only [Option.bind]
      rw [merged, merge_eq, ← reported]
      exact JsonObject.get?_merge_eq _ _ _
  | none =>
      unfold saveExecution at saved
      rw [known] at saved
      obtain ⟨row, stored, made⟩ := bind_ok_iff.mp saved
      cases made
      refine ⟨_, rfl, ?_⟩
      dsimp only
      rw [OrderRow.store_ok_iff.mp stored]
      refine reported.trans ?_
      cases result.raw.get? "reconciliation_required" <;> rfl

/-- A marked row is not changed by an absence. -/
theorem OrderLedger.Required.absent (required : ledger.Required holds) (clobOrderIds : List String)
    (now : Instant) : ledger.handle holds markets (.absent clobOrderIds now) = ledger := by
  obtain ⟨durable, known, marked⟩ := required
  have same : durable.confirmAbsent holds clobOrderIds now = .ok durable := by
    unfold DurableOrder.confirmAbsent
    rw [if_pos marked]
    exact ite_self _
  obtain ⟨intent, order⟩ := ledger
  cases known
  unfold handle
  dsimp only [Option.map]
  rw [same]
  rfl

/-- An event or a trade keeps the mark. -/
theorem DurableOrder.reconcile_required {durable : DurableOrder}
    (required : durable.row.val.Required holds) (call : ReconcileCall) :
    (durable.reconcile markets call).row.val.Required holds := by
  cases call with
  | order update =>
      by_cases takes : durable.Takes update
      · rw [reconcile_order_of_takes takes]
        obtain ⟨value, found, held⟩ := required
        exact ⟨value, (Dict.get?_set_ne _ (by decide) _).trans found, held⟩
      · rwa [reconcile_order_of_not_takes takes]
  | trade update =>
      change (durable.reconcileTrade markets update).1.row.val.Required holds
      rcases durable.reconcileTrade_cases markets update with ⟨-, same⟩ | ⟨_, row, -, written, served⟩
      · rwa [same]
      · rw [served]
        unfold tradeRow at written
        obtain ⟨payload, -, stored⟩ := bind_ok_iff.mp written
        rw [OrderRow.store_ok_iff] at stored
        dsimp only
        rwa [stored]

/-- A call keeps the mark. -/
theorem OrderLedger.Required.handle (required : ledger.Required holds) {call : LifeCall}
    (keeps : call.KeepsMark holds) : (ledger.handle holds markets call).Required holds := by
  cases call with
  | absent clobOrderIds now => rwa [required.absent]
  | order call =>
      obtain ⟨durable, known, marked⟩ := required
      cases call with
      | reconcile call =>
          refine ⟨durable.reconcile markets call, ?_, DurableOrder.reconcile_required marked call⟩
          change ledger.order.map _ = _
          rw [known]
          rfl
      | execution result =>
          change ((ledger.saveExecution result).toOption.getD ledger).Required holds
          cases saved : ledger.saveExecution result with
          | error problem => exact ⟨durable, known, marked⟩
          | ok next =>
              obtain ⟨after, member, payload⟩ := saveExecution_mark saved
              refine ⟨after, member, ?_⟩
              rw [known] at payload
              unfold OrderRow.Required
              rw [payload]
              cases reported : result.raw.get? "reconciliation_required" with
              | none => exact marked
              | some value => exact ⟨value, rfl, keeps value reported⟩

theorem OrderLedger.Required.handleAll (required : ledger.Required holds) {calls : List LifeCall}
    (keep : ∀ call ∈ calls, call.KeepsMark holds) :
    (ledger.handleAll holds markets calls).Required holds := by
  induction calls generalizing ledger with
  | nil => exact required
  | cons call rest ih =>
      rw [List.forall_mem_cons] at keep
      exact ih (required.handle keep.1) keep.2

/-- A marked order withstands every absence. -/
theorem OrderLedger.Required.withstands (required : ledger.Required holds) :
    ledger.Withstands holds markets := by
  intro front clobOrderIds now keep
  have split : ledger.handleAll holds markets (front ++ [.absent clobOrderIds now]) =
      (ledger.handleAll holds markets front).handle holds markets (.absent clobOrderIds now) :=
    List.foldl_append
  rw [split]
  exact (required.handleAll keep).absent clobOrderIds now

/-- An absence writes an unresolved row without the mark. -/
theorem DurableOrder.confirmAbsent_unmarked {durable : DurableOrder} {clobOrderIds : List String}
    (named : durable.Named clobOrderIds) (unresolved : durable.row.val.status.Unresolved)
    (unmarked : ¬ durable.row.val.Required holds) (now : Instant) :
    durable.confirmAbsent holds clobOrderIds now = .ok { durable with row :=
      ⟨durable.row.val.afterAbsence now, OrderRow.afterAbsence_checks durable.row.property now⟩ } := by
  have stored : (durable.row.val.afterAbsence now).store =
      .ok ⟨_, OrderRow.afterAbsence_checks durable.row.property now⟩ :=
    OrderRow.store_ok_iff.mpr rfl
  unfold confirmAbsent
  rw [if_pos ⟨named, unresolved⟩, if_neg unmarked, stored]
  rfl

/-- An unresolved order without the mark is written off by two absences. -/
theorem OrderLedger.written_off_twice {durable : DurableOrder} {clobOrderIds : List String}
    (known : durable ∈ ledger.order) (named : durable.Named clobOrderIds)
    (unresolved : durable.row.val.status.Unresolved) (unmarked : ¬ durable.row.val.Required holds)
    (first second : Instant) : ∃ after ∈ (ledger.handleAll holds markets
      [.absent clobOrderIds first, .absent clobOrderIds second]).order,
        after.row.val.status = .cancelled := by
  obtain ⟨intent, order⟩ := ledger
  cases known
  refine ⟨_, rfl, ?_⟩
  dsimp only
  rw [DurableOrder.confirmAbsent_unmarked named unresolved unmarked]
  dsimp only [Except.toOption, Option.getD]
  generalize written : DurableOrder.mk
    ⟨durable.row.val.afterAbsence first, OrderRow.afterAbsence_checks durable.row.property first⟩
      durable.fills = after
  have status : after.row.val.status = if durable.row.val.WritesOff then .cancelled else .unknown := by
    rw [← written]
    rfl
  by_cases writesOff : durable.row.val.WritesOff
  · -- The first absence already wrote it off, and the second passes it by.
    rw [if_pos writesOff] at status
    have final : ¬ after.row.val.status.Unresolved := by
      rw [status]
      decide
    unfold DurableOrder.confirmAbsent
    rw [if_neg fun both => final both.2]
    exact status
  · rw [if_neg writesOff] at status
    have named' : after.Named clobOrderIds := by
      rw [← written]
      exact named
    have unmarked' : ¬ after.row.val.Required holds := by
      rw [← written]
      exact unmarked
    rw [DurableOrder.confirmAbsent_unmarked named' (by rw [status]; decide) unmarked']
    rw [← written]
    exact if_pos (.inr (Nat.succ_le_succ (Nat.succ_le_succ (Nat.zero_le _))))

end Mark

/-! ### Saved executions -/

/-- The text of a JSON value, and the texts that Python takes as true when it reads them
back. -/
structure JsonCodec where
  text : RawValue → String
  holds : String → Bool
  holds_flag : ∀ value, holds (text (.flag value)) = value

/-- What `save_execution` reads of a result. -/
def JsonCodec.report (codec : JsonCodec) (result : LiveResult) (createdAt : Instant) :
    ExecutionReport where
  toExecutionResult := result.toExecutionResult
  orderType :=
    match result.raw.get? "order_type" with
    | some (.text value) => some value
    | _ => none
  expiresAt :=
    match result.raw.get? "expires_at" with
    | some (.time value) => some value
    | _ => none
  raw := result.raw.map fun _ value => codec.text value
  createdAt := createdAt

/-- The result carries `reconciliation_required`. -/
def LiveResult.Marked (result : LiveResult) : Prop :=
  result.raw.get? "reconciliation_required" = some (.flag true)

instance LiveResult.decidableMarked (result : LiveResult) : Decidable result.Marked :=
  inferInstanceAs (Decidable (_ = _))

/-- The order of a saved result withstands every absence. -/
def JsonCodec.Protects (codec : JsonCodec) (result : LiveResult) : Prop :=
  ∀ (markets : List MarketRow) (ledger next : OrderLedger) (createdAt : Instant),
    ledger.saveExecution (codec.report result createdAt) = .ok next →
      next.Withstands codec.holds markets

theorem LiveResult.Marked.protects {result : LiveResult} (marked : result.Marked)
    (codec : JsonCodec) : codec.Protects result := by
  intro markets ledger next createdAt saved
  obtain ⟨durable, known, payload⟩ := OrderLedger.saveExecution_mark saved
  have reported : (codec.report result createdAt).raw.get? "reconciliation_required" =
      some (codec.text (.flag true)) := by
    refine (Dict.get?_map _ _ _).trans ?_
    rw [marked]
    rfl
  rw [reported] at payload
  exact OrderLedger.Required.withstands ⟨durable, known, _, payload, codec.holds_flag true⟩

/-- A result without the mark protects no order: once the row of the order has its id and
an unresolved status, two absences write it off. -/
theorem JsonCodec.written_off_unmarked (codec : JsonCodec) {result : LiveResult}
    (unmarked : result.raw.get? "reconciliation_required" = none) {markets : List MarketRow}
    {ledger next : OrderLedger} {createdAt : Instant} {durable : DurableOrder}
    (plain : ∀ before ∈ ledger.order, ¬ before.row.val.Required codec.holds)
    (saved : ledger.saveExecution (codec.report result createdAt) = .ok next)
    (known : durable ∈ next.order) {clobOrderIds : List String} (named : durable.Named clobOrderIds)
    (unresolved : durable.row.val.status.Unresolved) (first second : Instant) :
    ∃ after ∈ (next.handleAll codec.holds markets
      [.absent clobOrderIds first, .absent clobOrderIds second]).order,
        after.row.val.status = .cancelled := by
  refine OrderLedger.written_off_twice known named unresolved ?_ first second
  rintro ⟨value, found, held⟩
  obtain ⟨after, member, payload⟩ := OrderLedger.saveExecution_mark saved
  cases Option.some.inj (member.symm.trans known)
  have silent : (codec.report result createdAt).raw.get? "reconciliation_required" = none := by
    refine (Dict.get?_map _ _ _).trans ?_
    rw [unmarked]
    rfl
  rw [silent] at payload
  cases before : ledger.order with
  | none =>
      rw [before] at payload
      exact nomatch payload.symm.trans found
  | some durable =>
      rw [before] at payload
      exact plain durable before ⟨value, payload.symm.trans found, held⟩

/-! ### The property -/

/-- The reads after a post find that the lease or the control changed. -/
inductive SubmissionAuthority.FoundChanged (authority : SubmissionAuthority) (accountId : String) :
    List BrokerEvent → Prop where
  | lease {token : Option Int} {rest : List BrokerEvent} : token ≠ some authority.fencingToken →
      FoundChanged authority accountId (⟨.leaseGuard, .ok token⟩ :: rest)
  | control {token : Option Int} {control : RuntimeControl} {moment : Moment}
      {rest : List BrokerEvent} : ¬ authority.Controls control moment →
      FoundChanged authority accountId (⟨.leaseGuard, .ok token⟩ ::
        ⟨.getRuntimeControl accountId, .ok (control, moment)⟩ :: rest)

/-- The exchange accepted an order with this response, and the authority of the call was
found changed after the post. -/
structure AcceptsDuringChange (before : List BrokerEvent) (post : BrokerEvent)
    (after : List BrokerEvent) (response : PostResponse) : Prop where
  accepts : AcceptsOrder post response
  changed : ∃ authority : SubmissionAuthority, ∃ accountId,
    authority.ReadAtStart accountId before ∧ authority.FoundChanged accountId after

/-- Every order that was accepted during a change is saved with a warning that withstands
every absence. -/
def WarnsOfChange (codec : JsonCodec) (log : List BrokerEvent) : Prop :=
  ∀ before post after response, log = before ++ post :: after →
    AcceptsDuringChange before post after response →
      ∃ result accountId answer, ⟨.saveExecution result accountId, answer⟩ ∈ after ∧
        result.orderId = response.resultId ∧ result.Marked ∧ codec.Protects result

/-- A leg of a batch was accepted during a change. -/
def LegAcceptedDuringChange (log : List BrokerEvent) : Prop :=
  ∃ before signed responses after response,
    log = before ++ ⟨.postOrders signed, .ok responses⟩ :: after ∧
      AcceptsDuringChange before ⟨.postOrders signed, .ok responses⟩ after response

section Changes

variable {Possible : BrokerEvent → Prop} {broker : PolymarketBroker} {moment : Moment}
  {intent : LiveIntent} {book : TimedBook} {items : List (LiveIntent × TimedBook)}
  {log before after : List BrokerEvent} {post : BrokerEvent} {authority : SubmissionAuthority}
  {accountId : String} {response : PostResponse} {codec : JsonCodec}

theorem SubmissionAuthority.FoundChanged.not_startsConfirmed
    (changed : authority.FoundChanged accountId log) : ¬ authority.StartsConfirmed accountId log := by
  rintro ⟨_, rest, rfl, ⟨controls⟩⟩
  cases changed with
  | lease differs => exact differs rfl
  | control lost => exact lost controls

/-- The authority of the call itself is not confirmed after a change. -/
theorem AcceptsDuringChange.unconfirmed (during : AcceptsDuringChange before post after response)
    (read : authority.ReadAtStart accountId before) : ¬ authority.StartsConfirmed accountId after := by
  obtain ⟨authority', accountId', read', changed⟩ := during.changed
  exact fun confirmed => changed.not_startsConfirmed (confirmed.of_read read read')

/-! ### Single orders -/

theorem changedResult_marked (verified : Bool) :
    (authority.changedResult intent response verified).Marked := by
  change (((authority.trace response).set _ _).set _ _).get? _ = _
  rw [Dict.get?_set_ne _ (by decide), Dict.get?_set_self]

/-- An accepted order whose authority is not confirmed is saved with the mark. -/
theorem settleReply_marked {outcome : Except PyError LiveResult}
    (executes : Execution Possible (authority.settleReply intent response) log outcome)
    (ok : response.ok = true) (unconfirmed : ¬ authority.StartsConfirmed intent.accountId log) :
    ∃ verified answer, ⟨.saveExecution (authority.changedResult intent response verified)
      intent.accountId, answer⟩ ∈ log := by
  unfold SubmissionAuthority.settleReply at executes
  rw [if_pos ok] at executes
  rcases Execution.bind_cases executes with
    ⟨_, raises, -⟩ | ⟨front, back, changed, rfl, checks, rest⟩
  · rcases changed_cases raises with ⟨same, -⟩ | ⟨same, -⟩ <;> cases same
  have found : changed = true := by
    rcases changed_cases checks with ⟨-, confirmed⟩ | ⟨same, -⟩
    · exact absurd ⟨front, back, rfl, confirmed⟩ unconfirmed
    · exact Except.ok.inj same
  rw [if_pos found] at rest
  rcases Execution.bind_cases rest with ⟨_, raises, -⟩ | ⟨cancel, save, result, rfl, decides, saves⟩
  · rcases Execution.bind_cases raises with ⟨_, raises, -⟩ | ⟨_, _, _, -, -, done⟩
    · obtain ⟨_, _, same, -⟩ := cancellationVerified_cases raises
      cases same
    · cases done
  obtain ⟨_, _, verified, -, -, done⟩ := Execution.bind_ok_iff.mp decides
  obtain ⟨rfl, rfl⟩ := Execution.done_ok_iff.mp done
  obtain ⟨answer, _, rfl, -⟩ := saveResult_cases saves
  exact ⟨verified, answer, by simp⟩

/-- After the post of one order. -/
theorem warns_afterPost {signed : SignedOrder} {answer : Except PyError PostResponse}
    {outcome : Except PyError LiveResult} (front : Unposted before)
    (read : authority.ReadAtStart intent.accountId before)
    (executes : Execution Possible (authority.afterPost intent answer) after outcome) :
    WarnsOfChange codec (before ++ ⟨.postOrder signed, answer⟩ :: after) := by
  have back : Unposted after := (quiet_afterPost _ _ _).requests executes
  intro before' post' after' response split during
  obtain ⟨rfl, rfl, rfl⟩ := split_posts front back during.accepts.not_silent split
  cases during.accepts with
  | one ok =>
      obtain ⟨verified, answer, member⟩ := settleReply_marked executes ok (during.unconfirmed read)
      have marked : (authority.changedResult intent response verified).Marked :=
        changedResult_marked verified
      exact ⟨_, _, answer, member, rfl, marked, marked.protects codec⟩

/-! ### Legs of a batch -/

/-- The request saves no result under the mark's key. -/
def BrokerRequest.SavesUnmarked : BrokerRequest → Prop
  | saveExecution result _ => result.raw.get? "reconciliation_required" = none
  | _ => True

theorem BrokerRequest.Withdraws.savesUnmarked {request : BrokerRequest}
    (withdraws : request.Withdraws) : request.SavesUnmarked := by
  cases request <;> trivial

abbrev SavesUnmarked {α : Type} (program : BrokerProgram α) : Prop :=
  Program.Uses (fun _ => True) BrokerRequest.SavesUnmarked program fun _ => True

theorem WithdrawsOnly.savesUnmarked {α : Type} {program : BrokerProgram α}
    (withdrawing : WithdrawsOnly program) : SavesUnmarked program :=
  Uses.weaken withdrawing (fun _ here => here) fun _ withdraws => withdraws.savesUnmarked

/-- A leg is saved without the mark. -/
theorem legResult_unmarked (kept verified : Bool) (intent : LiveIntent) (response : PostResponse) :
    (authority.legResult kept verified intent response).raw.get? "reconciliation_required" = none := by
  have raw : ((authority.trace response).set "batch_non_atomic" (.flag true)).get?
      "reconciliation_required" = none := by
    unfold SubmissionAuthority.trace PostResponse.trace
    repeat rw [Dict.get?_set_ne _ (by decide)]
    rfl
  unfold SubmissionAuthority.legResult
  dsimp only
  split
  · exact raw
  · split
    · exact raw
    · exact (Dict.get?_set_ne _ (by decide) _).trans raw

theorem unmarked_saveLegs (kept verified : Bool) (legs : List (LiveIntent × PostResponse)) :
    SavesUnmarked (authority.saveLegs kept verified legs) := by
  induction legs with
  | nil => trivial
  | cons leg legs ih =>
      refine Uses.bind (F := fun _ => True) ?_ fun _ _ =>
        Uses.bind (F := fun _ => True) ih fun _ _ => trivial
      refine Uses.bind (F := fun _ => True) (Uses.attempt (.ask ?_ fun _ _ => trivial)
        fun _ => trivial) fun caught _ => ?_
      · exact legResult_unmarked kept verified leg.1 leg.2
      · cases caught <;> trivial

theorem unmarked_batchGateIsCurrent : SavesUnmarked (broker.batchGateIsCurrent authority items) := by
  unfold PolymarketBroker.batchGateIsCurrent
  split
  · trivial
  · refine Uses.bind (F := fun _ => True) (.ask trivial fun _ _ => trivial) fun token _ => ?_
    dsimp only
    split
    · trivial
    · exact Uses.bind (F := fun _ => True) (.ask trivial fun _ _ => trivial) fun _ _ => trivial

theorem unmarked_cancelUnreadable (intents : List LiveIntent) (reason problem : String) :
    SavesUnmarked (cancelUnreadable intents reason problem) :=
  Uses.bind (F := fun _ => True)
    (withdrawing_cancellationVerified (withdrawing_cancelAll _)).savesUnmarked fun _ _ => trivial

/-- No leg of a batch is saved with the mark. -/
theorem unmarked_afterBatchPost (answer : Except PyError (List PostResponse)) :
    SavesUnmarked (broker.afterBatchPost authority items answer) := by
  cases answer with
  | error problem =>
      exact Uses.bind (F := fun _ => True) (withdrawing_cancelAmbiguous _).savesUnmarked
        fun _ _ => trivial
  | ok responses =>
      change SavesUnmarked (broker.settleBatch authority items responses)
      unfold PolymarketBroker.settleBatch
      dsimp only
      split
      · exact unmarked_cancelUnreadable _ _ _
      · split
        · exact unmarked_cancelUnreadable _ _ _
        · refine Uses.bind (F := fun _ => True) unmarked_batchGateIsCurrent fun current _ => ?_
          refine Uses.bind (F := fun _ => True) ?_ fun _ _ => unmarked_saveLegs _ _ _
          split
          · exact (withdrawing_cancellationVerified (withdrawing_cancelOrders _ _)).savesUnmarked
          · trivial

/-- After the post of a batch. -/
theorem warns_afterBatchPost_iff {signed : List SignedOrder}
    {answer : Except PyError (List PostResponse)} {outcome : Except PyError (List LiveResult)}
    (front : Unposted before)
    (executes : Execution Possible (broker.afterBatchPost authority items answer) after outcome) :
    WarnsOfChange codec (before ++ ⟨.postOrders signed, answer⟩ :: after) ↔
      ¬ LegAcceptedDuringChange (before ++ ⟨.postOrders signed, answer⟩ :: after) := by
  have back : Unposted after := (quiet_afterBatchPost _ _ _ _).requests executes
  constructor
  · rintro warns ⟨_, _, _, _, response, split, during⟩
    have same := split_posts front back during.accepts.not_silent split
    obtain ⟨result, accountId, answer, member, -, marked, -⟩ := warns _ _ _ response split during
    rw [same.2.2] at member
    have unmarked : result.raw.get? "reconciliation_required" = none :=
      (unmarked_afterBatchPost _).requests executes _ member
    exact nomatch marked.symm.trans unmarked
  · intro none before' post' after' response split during
    obtain ⟨rfl, rfl, rfl⟩ := split_posts front back during.accepts.not_silent split
    generalize posted : (⟨.postOrders signed, answer⟩ : BrokerEvent) = post at none during
    cases during.accepts with
    | one ok => cases posted
    | several member ok => exact absurd ⟨_, _, _, _, response, rfl, during⟩ none

/-! ### Calls -/

theorem warns_iff_of_unposted (unposted : Unposted log) :
    WarnsOfChange codec log ↔ ¬ LegAcceptedDuringChange log := by
  refine iff_of_true ?_ ?_
  · rintro front post back response rfl during
    exact absurd (unposted post (List.mem_append_right _ List.mem_cons_self))
      during.accepts.not_silent
  · rintro ⟨front, signed, responses, back, response, rfl, -⟩
    exact unposted _ (List.mem_append_right _ List.mem_cons_self)

theorem submit_warns_iff {outcome : Except PyError (List LiveResult)}
    (executes : Execution Possible
      (do
        let result ← broker.submit moment intent book
        pure [result]) log outcome) :
    WarnsOfChange codec log ↔ ¬ LegAcceptedDuringChange log := by
  have posted : ∀ {before after : List BrokerEvent} {authority : SubmissionAuthority}
      {signed : SignedOrder} {answer : Except PyError PostResponse}
      {outcome : Except PyError LiveResult}, Unposted before →
      ThroughGate broker authority intent.accountId [intent] [signed] before →
      Execution Possible (authority.afterPost intent answer) after outcome →
      (WarnsOfChange codec (before ++ ⟨.postOrder signed, answer⟩ :: after) ↔
        ¬ LegAcceptedDuringChange (before ++ ⟨.postOrder signed, answer⟩ :: after)) := by
    intro before after authority signed answer outcome unposted gate settles
    have back : Unposted after := (quiet_afterPost _ _ _).requests settles
    refine iff_of_true (warns_afterPost unposted gate.readAtStart settles) ?_
    rintro ⟨_, _, _, _, response, split, during⟩
    obtain ⟨-, same, -⟩ := split_posts unposted back during.accepts.not_silent split
    cases same
  rcases Execution.bind_cases executes with
    ⟨problem, raises, rfl⟩ | ⟨front, back, result, rfl, submits, done⟩
  · cases submit_cases raises with
    | raised _ unposted => exact warns_iff_of_unposted unposted
    | posted answer unposted gate settles => exact posted unposted gate settles
  · cases done
    rw [List.append_nil]
    generalize (Except.ok result : Except PyError LiveResult) = outcome at submits
    cases submit_cases submits with
    | raised problem unposted => exact warns_iff_of_unposted unposted
    | refused refusal unposted => exact warns_iff_of_unposted unposted
    | posted answer unposted gate settles => exact posted unposted gate settles

theorem submitSeveral_warns_iff {outcome : Except PyError (List LiveResult)}
    (executes : Execution Possible (broker.submitSeveral moment items) log outcome) :
    WarnsOfChange codec log ↔ ¬ LegAcceptedDuringChange log := by
  cases submitSeveral_cases executes with
  | raised problem unposted => exact warns_iff_of_unposted unposted
  | refused refusal unposted => exact warns_iff_of_unposted unposted
  | posted answer unposted gate settles => exact warns_afterBatchPost_iff unposted settles

/-- A call warns of every change during its broadcast, exactly if no leg of a batch of
several orders was accepted during one. -/
theorem change_is_warned_iff (codec : JsonCodec) {call : BrokerCall}
    {outcome : Except PyError (List LiveResult)}
    (executes : Execution (fun _ => True) (broker.serve call) log outcome) :
    WarnsOfChange codec log ↔ ¬ LegAcceptedDuringChange log := by
  cases call with
  | submit moment intent book => exact submit_warns_iff executes
  | submitBatch moment submissions =>
      match submissions with
      | [] =>
          cases executes
          exact warns_iff_of_unposted fun _ => nofun
      | [(intent, book)] => exact submit_warns_iff executes
      | _ :: _ :: _ => exact submitSeveral_warns_iff executes

end Changes

/-! ### A single order and a pair -/

/-- The codec of values without characters to escape. Times are numbers in the model. -/
def plainCodec : JsonCodec where
  text
    | .text value => "\"" ++ value ++ "\""
    | .texts values => "[" ++ ", ".intercalate (values.map fun value => "\"" ++ value ++ "\"") ++ "]"
    | .flag value => if value then "true" else "false"
    | .time value => "\"" ++ toString value ++ "\""
  holds value := decide (value ∉ ["null", "false", "0", "\"\"", "[]", "\x7b\x7d"])
  holds_flag value := by cases value <;> decide

/-- The lease passes on while a single order is posted. -/
def racedSingle : List BrokerEvent × Except PyError (List LiveResult) × Bool :=
  (leasedBroker.serve (.submit canaryMoment (makerIntent "first" "yes" .yes) (makerBook "yes"))).run
    (acceptingExchange (.ok (some 8))).serve false

theorem racedSingle_warns_iff :
    WarnsOfChange plainCodec racedSingle.1 ↔ ¬ LegAcceptedDuringChange racedSingle.1 :=
  change_is_warned_iff plainCodec (run_execution (fun _ _ => trivial) _ _)

namespace SubmissionAuthority

variable (authority : SubmissionAuthority) (accountId : String)

/-- The log starts with the authority's token and control. -/
def readsAtStart : List BrokerEvent → Bool
  | ⟨.hasUnresolvedLiveOrders first, .ok false⟩ :: ⟨.getRuntimeControl second, .ok (control, moment)⟩ ::
      ⟨.leaseGuard, .ok token⟩ :: _ =>
        decide (first = accountId ∧ second = accountId ∧ token = some authority.fencingToken ∧
          authority.Controls control moment)
  | _ => false

/-- The log starts with an accepted batch, and with a read of another token. -/
def losesTokenAfterBatch : List BrokerEvent → Bool
  | ⟨.postOrders _, .ok responses⟩ :: ⟨.leaseGuard, .ok token⟩ :: _ =>
      responses.any PostResponse.ok && decide (token ≠ some authority.fencingToken)
  | _ => false

variable {authority} {accountId} {log : List BrokerEvent}

theorem readAtStart_of_readsAtStart (reads : authority.readsAtStart accountId log = true) :
    authority.ReadAtStart accountId log := by
  unfold readsAtStart at reads
  split at reads
  · obtain ⟨rfl, rfl, rfl, controls⟩ := of_decide_eq_true reads
    exact .intro _ controls
  · cases reads

theorem legAccepted_of_losesToken (events : Nat)
    (reads : authority.readsAtStart accountId (log.take events) = true)
    (loses : authority.losesTokenAfterBatch (log.drop events) = true) :
    LegAcceptedDuringChange log := by
  have split := List.take_append_drop events log
  generalize log.drop events = rest at split loses
  unfold losesTokenAfterBatch at loses
  split at loses
  · rw [Bool.and_eq_true] at loses
    obtain ⟨response, member, ok⟩ := List.any_eq_true.mp loses.1
    exact ⟨_, _, _, _, response, split.symm, .several member ok, authority, accountId,
      readAtStart_of_readsAtStart reads, .lease (of_decide_eq_true loses.2)⟩
  · cases loses

end SubmissionAuthority

/-- The lease passes on while the pair is posted. -/
def racedPair : List BrokerEvent × Except PyError (List LiveResult) × Bool :=
  pairRun (.ok (some 8))

/-- The ledger of the first leg, before it is saved. -/
def firstLegLedger : OrderLedger :=
  ⟨⟨.canary, "yes", .buy, 9 / 20, 5, .submitted⟩, none⟩

/-- The request saves the first leg, and two absences write its order off. -/
def BrokerRequest.savesWrittenOff : BrokerRequest → Bool
  | saveExecution result _ =>
      match firstLegLedger.saveExecution (plainCodec.report result 0) with
      | .ok next => decide (((next.handleAll plainCodec.holds []
          [.absent ["order-1"] 1, .absent ["order-1"] 2]).order.map fun after =>
            after.row.val.status) = some .cancelled)
      | .error _ => false
  | _ => false

theorem racedPair_facts :
    (SubmissionAuthority.mk 7 2 (seconds 300)).readsAtStart "account" (racedPair.1.take 17) = true ∧
      (SubmissionAuthority.mk 7 2 (seconds 300)).losesTokenAfterBatch (racedPair.1.drop 17) = true ∧
      (racedPair.1.any fun event => event.request.savesWrittenOff) = true := by
  decide +kernel

/-- Both legs are accepted while the lease passes on. No warning is saved, and two absences
write the first one off. -/
theorem racedPair_unwarned :
    (Execution (fun _ => True) (leasedBroker.serve pairCall) racedPair.1 racedPair.2.1 ∧
      ¬ WarnsOfChange plainCodec racedPair.1) ∧
    ∃ event ∈ racedPair.1, event.request.savesWrittenOff = true := by
  obtain ⟨reads, loses, writtenOff⟩ := racedPair_facts
  have executes : Execution (fun _ => True) (leasedBroker.serve pairCall) racedPair.1 racedPair.2.1 :=
    run_execution (fun _ _ => trivial) _ _
  refine ⟨⟨executes, fun warns => ?_⟩, List.any_eq_true.mp writtenOff⟩
  exact (change_is_warned_iff plainCodec executes).mp warns 
    (SubmissionAuthority.legAccepted_of_losesToken 17 reads loses)

end Polybot
