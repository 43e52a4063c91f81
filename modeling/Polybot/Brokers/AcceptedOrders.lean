import Polybot.Brokers.Broadcast

/-!
The orders that the exchange accepted.

An accepted order is kept if it is returned with its id, or if a cancellation that covers
it was attempted after the post. Two answers of the environment lose one: a read of the
lease or of the control fails right after a batch was accepted, and a single order is
accepted without an id while the authority stays. `accepted_is_kept_iff` says that these
are the only ones.
-/

namespace Polybot

open Interaction Program Stage

/-! ### The property -/

/-- The exchange accepted an order with this response to the post. -/
inductive AcceptsOrder : BrokerEvent → PostResponse → Prop where
  | one {signed : SignedOrder} {response : PostResponse} : response.ok = true →
      AcceptsOrder ⟨.postOrder signed, .ok response⟩ response
  | several {signed : List SignedOrder} {responses : List PostResponse} {response : PostResponse} :
      response ∈ responses → response.ok = true →
      AcceptsOrder ⟨.postOrders signed, .ok responses⟩ response

/-- Every accepted order is returned with its id, or a cancellation of it was attempted. -/
def KeepsAccepted (log : List BrokerEvent) (outcome : Except PyError (List LiveResult)) : Prop :=
  ∀ before post after response, log = before ++ post :: after → AcceptsOrder post response →
    (∃ results, outcome = .ok results ∧ ∃ result ∈ results, result.orderId = some response.orderId) ∨
      ∃ event ∈ after, event.request.Cancels response.orderId

/-- The answers that lose an accepted order. -/
inductive LosesAccepted : List BrokerEvent → Prop where
  /-- A read fails right after a readable batch was accepted. -/
  | batch {before after : List BrokerEvent} {signed : List SignedOrder}
      {responses : List PostResponse} {response : PostResponse} :
      responses.length = signed.length → (∀ response ∈ responses, ¬ response.Unnamed) →
      response ∈ responses → response.ok = true → ReadFails after →
      LosesAccepted (before ++ ⟨.postOrders signed, .ok responses⟩ :: after)
  /-- An order is accepted without an id, and the authority of the call stays. -/
  | single {before after : List BrokerEvent} {signed : SignedOrder} {response : PostResponse}
      {authority : SubmissionAuthority} {accountId : String} :
      response.Unnamed → authority.ReadAtStart accountId before →
      authority.StartsConfirmed accountId after →
      LosesAccepted (before ++ ⟨.postOrder signed, .ok response⟩ :: after)

section Keeping

variable {Possible : BrokerEvent → Prop} {broker : PolymarketBroker} {moment : Moment}
  {intent : LiveIntent} {book : TimedBook} {items : List (LiveIntent × TimedBook)}
  {log before after : List BrokerEvent} {authority : SubmissionAuthority} {accountId : String}
  {post : BrokerEvent}

/-! ### Logs with one post -/

theorem AcceptsOrder.not_silent {response : PostResponse} (accepts : AcceptsOrder post response) :
    ¬ post.request.Silent := by
  cases accepts <;> exact id

theorem LosesAccepted.not_unposted (loses : LosesAccepted log) : ¬ Unposted log := by
  intro unposted
  cases loses <;> exact unposted _ (List.mem_append_right _ List.mem_cons_self)

/-- A call that posts nothing accepts nothing. -/
theorem keeps_iff_of_unposted {outcome : Except PyError (List LiveResult)} (unposted : Unposted log) :
    KeepsAccepted log outcome ↔ ¬ LosesAccepted log := by
  refine iff_of_true ?_ fun loses => loses.not_unposted unposted
  rintro front post back response rfl accepts
  exact absurd (unposted post (List.mem_append_right _ List.mem_cons_self)) accepts.not_silent

/-- What is kept after the only post of a log. -/
theorem keeps_posted_iff {outcome : Except PyError (List LiveResult)} (front : Unposted before)
    (back : Unposted after) :
    KeepsAccepted (before ++ post :: after) outcome ↔ ∀ response, AcceptsOrder post response →
      (∃ results, outcome = .ok results ∧
          ∃ result ∈ results, result.orderId = some response.orderId) ∨
        ∃ event ∈ after, event.request.Cancels response.orderId := by
  constructor
  · exact fun keeps response => keeps before post after response rfl
  · intro keeps before' post' after' response split accepts
    obtain ⟨rfl, rfl, rfl⟩ := split_posts front back accepts.not_silent split
    exact keeps response accepts

theorem loses_batch_iff {signed : List SignedOrder} {answer : Except PyError (List PostResponse)}
    (front : Unposted before) (back : Unposted after) :
    LosesAccepted (before ++ ⟨.postOrders signed, answer⟩ :: after) ↔ ∃ responses,
      answer = .ok responses ∧ responses.length = signed.length ∧
        (∀ response ∈ responses, ¬ response.Unnamed) ∧
        (∃ response ∈ responses, response.ok = true) ∧ ReadFails after := by
  constructor
  · intro loses
    generalize split : before ++ ⟨.postOrders signed, answer⟩ :: after = log at loses
    cases loses with
    | batch count named member ok fails =>
        obtain ⟨rfl, same, rfl⟩ := split_posts front back id split
        cases same
        exact ⟨_, rfl, count, named, ⟨_, member, ok⟩, fails⟩
    | single unnamed read confirmed =>
        obtain ⟨rfl, same, rfl⟩ := split_posts front back id split
        cases same
  · rintro ⟨responses, rfl, count, named, ⟨response, member, ok⟩, fails⟩
    exact .batch count named member ok fails

/-- A log starts with one authority only. -/
theorem SubmissionAuthority.StartsConfirmed.of_read {authority' : SubmissionAuthority}
    {accountId' : String} (confirmed : authority'.StartsConfirmed accountId' after)
    (read' : authority'.ReadAtStart accountId' before)
    (read : authority.ReadAtStart accountId before) :
    authority.StartsConfirmed accountId after := by
  obtain ⟨reads, rest, rfl, confirmed⟩ := confirmed
  cases confirmed with
  | intro controls'' =>
      generalize same : before = log at read'
      cases read with
      | intro _ controls =>
          cases read' with
          | intro _ controls' =>
              injection same with _ same
              injection same with control same
              injection same with lease _
              cases control
              have token : authority.fencingToken = authority'.fencingToken := by simpa using lease
              rw [← token]
              exact ⟨_, rest, rfl, .intro ⟨controls''.1,
                controls''.2.trans (controls'.2.symm.trans controls.2)⟩⟩

theorem loses_single_iff {signed : SignedOrder} {answer : Except PyError PostResponse}
    (front : Unposted before) (back : Unposted after)
    (read : authority.ReadAtStart accountId before) :
    LosesAccepted (before ++ ⟨.postOrder signed, answer⟩ :: after) ↔ ∃ response,
      answer = .ok response ∧ response.Unnamed ∧ authority.StartsConfirmed accountId after := by
  constructor
  · intro loses
    generalize split : before ++ ⟨.postOrder signed, answer⟩ :: after = log at loses
    cases loses with
    | batch count named member ok fails =>
        obtain ⟨rfl, same, rfl⟩ := split_posts front back id split
        cases same
    | single unnamed read' confirmed =>
        obtain ⟨rfl, same, rfl⟩ := split_posts front back id split
        cases same
        exact ⟨_, rfl, unnamed, confirmed.of_read read' read⟩
  · rintro ⟨response, rfl, unnamed, confirmed⟩
    exact .single unnamed read confirmed

/-! ### Calls -/

theorem CancelsAll.covers {orderId : String} (cancels : CancelsAll log) :
    ∃ event ∈ log, event.request.Cancels orderId := by
  obtain ⟨event, member, asked⟩ := cancels
  exact ⟨event, member, by rw [asked]; trivial⟩

theorem ThroughGate.readAtStart {intents : List LiveIntent} {signed : List SignedOrder}
    (gate : ThroughGate broker authority accountId intents signed log) :
    authority.ReadAtStart accountId log := by
  cases gate with
  | intro _ read => exact read.append _

theorem ThroughGate.length_eq {intents : List LiveIntent} {signed : List SignedOrder}
    (gate : ThroughGate broker authority accountId intents signed log) :
    signed.length = intents.length := by
  cases gate with
  | intro _ _ _ durably => exact durably.length_eq.symm

/-- `submit` does not raise after its post. -/
theorem afterPost_returns {answer : Except PyError PostResponse} {outcome : Except PyError LiveResult}
    (executes : Execution Possible (authority.afterPost intent answer) log outcome) :
    ∃ result, outcome = .ok result := by
  cases answer with
  | ok response =>
      obtain ⟨result, same, -⟩ := settleReply_cases executes
      exact ⟨result, same⟩
  | error problem =>
      rcases Execution.bind_cases executes with ⟨_, raises, -⟩ | ⟨_, _, _, -, -, done⟩
      · obtain ⟨-, _, same⟩ := cancelAmbiguous_cases raises
        cases same
      · cases done
        exact ⟨_, rfl⟩

theorem resultId_eq_some_iff {response : PostResponse} (ok : response.ok = true) :
    response.resultId = some response.orderId ↔ ¬ response.Unnamed := by
  unfold PostResponse.resultId PostResponse.Unnamed
  split
  · rename_i empty
    exact iff_of_false nofun (not_not.mpr ⟨ok, empty⟩)
  · rename_i named
    exact iff_of_true rfl fun unnamed => named unnamed.2

/-- After the post of one order. -/
theorem keeps_afterPost_iff {signed : SignedOrder} {answer : Except PyError PostResponse}
    {result : LiveResult} (front : Unposted before)
    (gate : ThroughGate broker authority intent.accountId [intent] [signed] before)
    (executes : Execution Possible (authority.afterPost intent answer) after (.ok result)) :
    KeepsAccepted (before ++ ⟨.postOrder signed, answer⟩ :: after) (.ok [result]) ↔
      ¬ LosesAccepted (before ++ ⟨.postOrder signed, answer⟩ :: after) := by
  have back : Unposted after := (quiet_afterPost _ _ _).requests executes
  rw [keeps_posted_iff front back, loses_single_iff front back gate.readAtStart]
  cases answer with
  | error problem =>
      refine iff_of_true (fun response accepts => ?_) ?_
      · cases accepts
      · rintro ⟨_, same, _⟩
        cases same
  | ok response =>
      obtain ⟨_, same, settled⟩ := settleReply_cases executes
      cases same
      cases settled with
      | rejected refused _ =>
          refine iff_of_true (fun response' accepts => ?_) ?_
          · cases accepts with
            | one ok => cases refused.symm.trans ok
          · rintro ⟨response', same, unnamed, _⟩
            cases same
            cases refused.symm.trans unnamed.1
      | kept ok confirmed split cancelsNothing sameId =>
          by_cases unnamed : response.Unnamed
          · refine iff_of_false (fun keeps => ?_) (not_not.mpr ⟨response, rfl, unnamed, _, _, split,
              confirmed⟩)
            rcases keeps response (.one ok) with ⟨_, same, result', member, named⟩ |
              ⟨event, member, cancels⟩
            · cases same
              rw [List.mem_singleton.mp member, sameId] at named
              exact (resultId_eq_some_iff ok).mp named unnamed
            · exact cancelsNothing event member _ cancels
          · refine iff_of_true (fun response' accepts => ?_) ?_
            · cases accepts with
              | one _ =>
                  exact .inl ⟨_, rfl, result, List.mem_singleton_self _,
                    sameId.trans ((resultId_eq_some_iff ok).mpr unnamed)⟩
            · rintro ⟨response', same, unnamed', _⟩
              cases same
              exact unnamed unnamed'
      | cancelled ok unconfirmed cancels _ =>
          refine iff_of_true (fun _ _ => .inr cancels.covers) ?_
          rintro ⟨_, _, _, confirmed⟩
          exact unconfirmed confirmed

/-- After the post of a batch. -/
theorem keeps_afterBatchPost_iff {signed : List SignedOrder}
    {answer : Except PyError (List PostResponse)} {outcome : Except PyError (List LiveResult)}
    (front : Unposted before)
    (gate : ThroughGate broker authority broker.accountId (items.map Prod.fst) signed before)
    (executes : Execution Possible (broker.afterBatchPost authority items answer) after outcome) :
    KeepsAccepted (before ++ ⟨.postOrders signed, answer⟩ :: after) outcome ↔
      ¬ LosesAccepted (before ++ ⟨.postOrders signed, answer⟩ :: after) := by
  have back : Unposted after := (quiet_afterBatchPost _ _ _ _).requests executes
  have orders : signed.length = items.length := gate.length_eq.trans (List.length_map _)
  rw [keeps_posted_iff front back, loses_batch_iff front back, orders]
  cases answer with
  | error problem => exact iff_of_true (fun _ => nofun) (fun ⟨_, same, _⟩ => nomatch same)
  | ok responses =>
      cases settleBatch_cases executes with
      | unreadable broken cancels _ =>
          refine iff_of_true (fun _ _ => .inr cancels.covers) ?_
          rintro ⟨_, ⟨⟩, count, named, -, -⟩
          rcases broken with miscounted | ⟨response, member, unnamed⟩
          · exact miscounted count
          · exact named response member unnamed
      | raised count named fails reads =>
          by_cases accepted : ∃ response ∈ responses, response.ok = true
          · refine iff_of_false (fun keeps => ?_)
              (not_not.mpr ⟨responses, rfl, count, named, accepted, fails⟩)
            obtain ⟨response, member, ok⟩ := accepted
            rcases keeps response (.several member ok) with ⟨_, same, -⟩ | ⟨event, member', cancels⟩
            · cases same
            · exact reads.cancelsNothing event member' _ cancels
          · refine iff_of_true (fun response accepts => ?_) ?_
            · cases accepts with
              | several member ok => exact absurd ⟨response, member, ok⟩ accepted
            · rintro ⟨_, ⟨⟩, -, -, some', -⟩
              exact accepted some'
      | returned count named answered returned _ =>
          refine iff_of_true (fun response accepts => ?_) fun ⟨_, _, _, _, _, fails⟩ => answered fails
          cases accepts with
          | several member ok =>
              obtain ⟨result, inside, sameId⟩ := returned response member ok
              exact .inl ⟨_, rfl, result, inside,
                sameId.trans ((resultId_eq_some_iff ok).mpr (named response member))⟩

theorem submit_keeps_iff {outcome : Except PyError (List LiveResult)}
    (executes : Execution Possible
      (do
        let result ← broker.submit moment intent book
        pure [result]) log outcome) :
    KeepsAccepted log outcome ↔ ¬ LosesAccepted log := by
  rcases Execution.bind_cases executes with
    ⟨problem, raises, rfl⟩ | ⟨front, back, result, rfl, submits, done⟩
  · cases submit_cases raises with
    | raised _ unposted => exact keeps_iff_of_unposted unposted
    | posted answer unposted gate settles =>
        obtain ⟨_, same⟩ := afterPost_returns settles
        cases same
  · cases done
    rw [List.append_nil]
    generalize returned : (Except.ok result : Except PyError LiveResult) = outcome at submits
    cases submit_cases submits with
    | raised problem unposted => exact keeps_iff_of_unposted unposted
    | refused refusal unposted => exact keeps_iff_of_unposted unposted
    | posted answer unposted gate settles =>
        cases returned
        exact keeps_afterPost_iff unposted gate settles

theorem submitSeveral_keeps_iff {outcome : Except PyError (List LiveResult)}
    (executes : Execution Possible (broker.submitSeveral moment items) log outcome) :
    KeepsAccepted log outcome ↔ ¬ LosesAccepted log := by
  cases submitSeveral_cases executes with
  | raised problem unposted => exact keeps_iff_of_unposted unposted
  | refused refusal unposted => exact keeps_iff_of_unposted unposted
  | posted answer unposted gate settles => exact keeps_afterBatchPost_iff unposted gate settles

/-- A call keeps every order that the exchange accepted, exactly if its environment does
not give one of the two answers that lose one. -/
theorem accepted_is_kept_iff {call : BrokerCall} {outcome : Except PyError (List LiveResult)}
    (executes : Execution (fun _ => True) (broker.serve call) log outcome) :
    KeepsAccepted log outcome ↔ ¬ LosesAccepted log := by
  cases call with
  | submit moment intent book => exact submit_keeps_iff executes
  | submitBatch moment submissions =>
      match submissions with
      | [] =>
          cases executes
          exact keeps_iff_of_unposted fun _ => nofun
      | [(intent, book)] => exact submit_keeps_iff executes
      | _ :: _ :: _ => exact submitSeveral_keeps_iff executes

end Keeping

/-- The pair is kept in an environment in which the lease stays. -/
theorem pairRun_kept_iff :
    KeepsAccepted (pairRun (.ok (some 7))).1 (pairRun (.ok (some 7))).2.1 ↔
      ¬ LosesAccepted (pairRun (.ok (some 7))).1 :=
  accepted_is_kept_iff (run_execution (fun _ _ => trivial) (leasedBroker.serve pairCall) false)

/-! ### A pair that is lost -/

/-- The event has the response of an accepted order. -/
def acceptsSome : BrokerEvent → Bool
  | ⟨.postOrder _, .ok response⟩ => response.ok
  | ⟨.postOrders _, .ok responses⟩ => responses.any PostResponse.ok
  | _ => false

theorem acceptsOrder_of_acceptsSome {event : BrokerEvent} (accepts : acceptsSome event = true) :
    ∃ response, AcceptsOrder event response := by
  unfold acceptsSome at accepts
  split at accepts
  · exact ⟨_, .one accepts⟩
  · obtain ⟨response, member, ok⟩ := List.any_eq_true.mp accepts
    exact ⟨response, .several member ok⟩
  · cases accepts

/-- The request is a cancellation. -/
def BrokerRequest.isCancel : BrokerRequest → Bool
  | clientCancelAll => true
  | clientCancelOrders _ => true
  | _ => false

theorem BrokerRequest.Cancels.isCancel {request : BrokerRequest} {orderId : String}
    (cancels : request.Cancels orderId) : request.isCancel = true := by
  cases request <;> first | rfl | cases cancels

/-- A call that raises and cancels nothing loses what was accepted. -/
theorem not_keepsAccepted {log : List BrokerEvent} {outcome : Except PyError (List LiveResult)}
    (accepts : log.any acceptsSome = true) (raises : outcome.toOption = none)
    (uncancelled : (log.any fun event => event.request.isCancel) = false) :
    ¬ KeepsAccepted log outcome := by
  intro keeps
  obtain ⟨post, member, accepts⟩ := List.any_eq_true.mp accepts
  obtain ⟨response, order⟩ := acceptsOrder_of_acceptsSome accepts
  obtain ⟨before, after, rfl⟩ := List.append_of_mem member
  rcases keeps before post after response rfl order with ⟨_, rfl, -⟩ | ⟨event, later, cancels⟩
  · cases raises
  · have found := List.any_eq_false.mp uncancelled event
      (List.mem_append_right _ (List.mem_cons_of_mem _ later))
    exact found cancels.isCancel

/-- The lease guard fails right after both legs were accepted. -/
theorem pairRun_loses_accepted :
    Execution (fun _ => True) (leasedBroker.serve pairCall)
      (pairRun (.error (.foreign "ConnectionError"))).1
      (pairRun (.error (.foreign "ConnectionError"))).2.1 ∧
    ¬ KeepsAccepted (pairRun (.error (.foreign "ConnectionError"))).1
      (pairRun (.error (.foreign "ConnectionError"))).2.1 :=
  ⟨run_execution (fun _ _ => trivial) _ _, not_keepsAccepted (by decide +kernel)
    (by decide +kernel) (by decide +kernel)⟩

end Polybot
