import Polybot.Brokers.Gate
import Polybot.Trading.Sizing

/-!
The broadcast of the live broker.

`submit_cases` and `submitSeveral_cases` say what a call can do: it posts nothing and
refuses, or it posts once, behind its gate, and settles the answer. What settling can do
is said by `settleReply_cases` and `settleBatch_cases`. With them every post goes through
the whole gate, and an order is reported as accepted only if the authority was read once
more after the reply (`posts_through_gate`).
-/

namespace Polybot

open Interaction Program Stage

/-! ### The property -/

/-- The event is a post of these orders. -/
inductive Posts : BrokerEvent → List SignedOrder → Prop where
  | one (signed : SignedOrder) (answer : Except PyError PostResponse) :
      Posts ⟨.postOrder signed, answer⟩ [signed]
  | several (signed : List SignedOrder) (answer : Except PyError (List PostResponse)) :
      Posts ⟨.postOrders signed, answer⟩ signed

/-- What a call guarantees about its posts and its accepted results. -/
structure PostsThroughGate (broker : PolymarketBroker) (intents : List LiveIntent)
    (log : List BrokerEvent) (outcome : Except PyError (List LiveResult)) : Prop where
  gated : ∀ before post after signed, log = before ++ post :: after → Posts post signed →
    ∃ authority accountId, ThroughGate broker authority accountId intents signed before
  accepted : ∀ results, outcome = .ok results → ∀ result ∈ results, result.status = .accepted →
    ∃ before post reads after signed authority accountId,
      log = before ++ post :: (reads ++ after) ∧ Posts post signed ∧
      ThroughGate broker authority accountId intents signed before ∧
      authority.Confirmed accountId reads

/-! ### Settling requests -/

/-- The requests after a post that read nothing of the authority. -/
def BrokerRequest.Settles : BrokerRequest → Prop
  | clientCancelAll => True
  | clientCancelOrders _ => True
  | listOpenOrders => True
  | saveExecution _ _ => True
  | _ => False

theorem BrokerRequest.Settles.silent {request : BrokerRequest} (settles : request.Settles) :
    request.Silent := by
  cases request <;> trivial

/-- A program of settling requests. -/
abbrev SettlesOnly {α : Type} (program : BrokerProgram α) : Prop :=
  Program.Uses (fun _ => True) BrokerRequest.Settles program fun _ => True

theorem SettlesOnly.quiet {α : Type} {program : BrokerProgram α} (settling : SettlesOnly program) :
    Quiet program :=
  Uses.weaken settling (fun _ here => here) fun _ settles => settles.silent

/-- The requests that a cancellation makes. -/
def BrokerRequest.Withdraws : BrokerRequest → Prop
  | clientCancelAll => True
  | clientCancelOrders _ => True
  | listOpenOrders => True
  | _ => False

theorem BrokerRequest.Withdraws.settles {request : BrokerRequest} (withdraws : request.Withdraws) :
    request.Settles := by
  cases request <;> trivial

/-- A program of cancellation requests. -/
abbrev WithdrawsOnly {α : Type} (program : BrokerProgram α) : Prop :=
  Program.Uses (fun _ => True) BrokerRequest.Withdraws program fun _ => True

theorem WithdrawsOnly.settles {α : Type} {program : BrokerProgram α}
    (withdrawing : WithdrawsOnly program) : SettlesOnly program :=
  Uses.weaken withdrawing (fun _ here => here) fun _ withdraws => withdraws.settles

section Settling

variable (authority : SubmissionAuthority)

theorem withdrawing_verifyAbsent (absent : List String → Bool) (problem : String) (reads : Nat) :
    WithdrawsOnly (verifyAbsent absent problem reads) := by
  induction reads with
  | zero => trivial
  | succ reads ih =>
      refine Uses.bind (F := fun _ => True) (.ask trivial fun _ _ => trivial) fun openOrders _ => ?_
      dsimp only
      split
      · trivial
      · exact ih

theorem withdrawing_cancelAll (reason : String) : WithdrawsOnly (cancelAll reason) :=
  Uses.bind (F := fun _ => True) (.ask trivial fun _ _ => trivial) fun _ _ =>
    withdrawing_verifyAbsent _ _ _

theorem withdrawing_cancelOrders (orderIds : List String) (reason : String) :
    WithdrawsOnly (cancelOrders orderIds reason) := by
  unfold cancelOrders
  dsimp only
  split
  · trivial
  · exact Uses.bind (F := fun _ => True) (.ask trivial fun _ _ => trivial) fun _ _ =>
      withdrawing_verifyAbsent _ _ _

theorem withdrawing_cancellationVerified {cancellation : BrokerProgram Bool}
    (withdrawing : WithdrawsOnly cancellation) :
    WithdrawsOnly (cancellationVerified cancellation) := by
  refine Uses.bind (F := fun _ => True) (withdrawing.attempt fun _ => trivial) fun caught _ => ?_
  cases caught <;> trivial

theorem withdrawing_cancelAmbiguous (reason : String) :
    WithdrawsOnly (cancelAmbiguous reason) := by
  refine Uses.bind (F := fun _ => True) ((withdrawing_cancelAll reason).attempt fun _ => trivial)
    fun caught _ => ?_
  cases caught <;> trivial

theorem settling_saveResult (replied : String) (result : LiveResult) (accountId : String) :
    SettlesOnly (saveResult replied result accountId) := by
  refine Uses.bind (F := fun _ => True)
    (Uses.attempt (.ask trivial fun _ _ => trivial) fun _ => trivial) fun caught _ => ?_
  cases caught <;> trivial

theorem settling_saveLegs (kept verified : Bool) (legs : List (LiveIntent × PostResponse)) :
    SettlesOnly (authority.saveLegs kept verified legs) := by
  induction legs with
  | nil => trivial
  | cons leg legs ih =>
      exact Uses.bind (F := fun _ => True) (settling_saveResult _ _ _) fun _ _ =>
        Uses.bind (F := fun _ => True) ih fun _ _ => trivial

end Settling

/-! ### After the post of one order -/

section AfterPost

variable {Possible : BrokerEvent → Prop} {authority : SubmissionAuthority} {intent : LiveIntent}
  {accountId : String} {response : PostResponse} {log : List BrokerEvent}

/-- The log starts with two reads that find the authority unchanged. -/
def SubmissionAuthority.StartsConfirmed (authority : SubmissionAuthority) (accountId : String)
    (log : List BrokerEvent) : Prop :=
  ∃ reads rest, log = reads ++ rest ∧ authority.Confirmed accountId reads

/-- The request is a cancellation that covers an order. -/
def BrokerRequest.Cancels (orderId : String) : BrokerRequest → Prop
  | clientCancelAll => True
  | clientCancelOrders orderIds => orderId ∈ orderIds
  | _ => False

/-- The log has a cancellation of all orders. -/
def CancelsAll (log : List BrokerEvent) : Prop :=
  ∃ event ∈ log, event.request = .clientCancelAll

theorem CancelsAll.append_left {front : List BrokerEvent} (cancels : CancelsAll log) :
    CancelsAll (front ++ log) := by
  obtain ⟨event, member, asked⟩ := cancels
  exact ⟨event, List.mem_append_right _ member, asked⟩

theorem CancelsAll.append_right {back : List BrokerEvent} (cancels : CancelsAll log) :
    CancelsAll (log ++ back) := by
  obtain ⟨event, member, asked⟩ := cancels
  exact ⟨event, List.mem_append_left _ member, asked⟩

/-- The log has no cancellation. -/
def CancelsNothing (log : List BrokerEvent) : Prop :=
  ∀ event ∈ log, ∀ orderId, ¬ event.request.Cancels orderId

/-- The log reads the authority only. -/
def ReadsOnly (accountId : String) (log : List BrokerEvent) : Prop :=
  ∀ event ∈ log, event.request = .leaseGuard ∨ event.request = .getRuntimeControl accountId

theorem ReadsOnly.cancelsNothing (reads : ReadsOnly accountId log) : CancelsNothing log := by
  intro event member orderId
  rcases reads event member with asked | asked <;> rw [asked] <;> exact id

theorem SubmissionAuthority.Confirmed.readsOnly (confirmed : authority.Confirmed accountId log) :
    ReadsOnly accountId log := by
  cases confirmed with
  | intro controls =>
      intro event member
      rcases List.mem_cons.mp member with rfl | member
      · exact .inl rfl
      · rw [List.mem_singleton.mp member]
        exact .inr rfl

/-- A failed cancellation was attempted too. -/
theorem cancelAll_attempted {reason : String} {outcome : Except PyError Bool}
    (executes : Execution Possible (cancelAll reason) log outcome) : CancelsAll log := by
  cases executes with
  | call answer _ _ => exact ⟨_, List.mem_cons_self, rfl⟩

theorem cancelAmbiguous_cases {reason : String} {outcome : Except PyError String}
    (executes : Execution Possible (cancelAmbiguous reason) log outcome) :
    CancelsAll log ∧ ∃ text, outcome = .ok text := by
  obtain ⟨front, back, caught, rfl, cancels, rest⟩ := Execution.attempt_bind_cases executes
  refine ⟨(cancelAll_attempted cancels).append_right, ?_⟩
  cases caught with
  | ok verified =>
      cases rest
      exact ⟨_, rfl⟩
  | error problem =>
      cases rest
      exact ⟨_, rfl⟩

theorem cancellationVerified_cases {cancellation : BrokerProgram Bool}
    {outcome : Except PyError Bool}
    (executes : Execution Possible (cancellationVerified cancellation) log outcome) :
    ∃ verified caught, outcome = .ok verified ∧ Execution Possible cancellation log caught := by
  obtain ⟨front, back, caught, rfl, cancels, rest⟩ := Execution.attempt_bind_cases executes
  cases caught with
  | ok verified =>
      cases rest
      exact ⟨_, _, rfl, by rwa [List.append_nil]⟩
  | error problem =>
      cases rest
      exact ⟨_, _, rfl, by rwa [List.append_nil]⟩

/-- A saved result, or the error that it was not saved, has the order id, and is reported
as accepted only if the result is. -/
theorem saveResult_cases {replied : String} {result : LiveResult}
    {outcome : Except PyError LiveResult}
    (executes : Execution Possible (saveResult replied result accountId) log outcome) :
    ∃ answer saved, log = [⟨.saveExecution result accountId, answer⟩] ∧ outcome = .ok saved ∧
      saved.orderId = result.orderId ∧ (saved.status = .accepted → result.status = .accepted) := by
  obtain ⟨front, back, answer, rfl, asked, rest⟩ := Execution.attempt_bind_cases executes
  obtain ⟨rfl, -⟩ := Execution.ask_cases asked
  cases answer with
  | ok saved =>
      cases rest
      exact ⟨_, result, rfl, rfl, rfl, id⟩
  | error problem =>
      cases rest
      exact ⟨_, _, rfl, rfl, rfl, nofun⟩

/-- The authority is found unchanged by two reads that confirm it, and by nothing else. -/
theorem changed_cases {outcome : Except PyError Bool}
    (executes : Execution Possible (authority.changed accountId) log outcome) :
    outcome = .ok false ∧ authority.Confirmed accountId log ∨
      outcome = .ok true ∧ ∀ back, ¬ authority.StartsConfirmed accountId (log ++ back) := by
  obtain ⟨front, back, caught, rfl, reads, rest⟩ := Execution.attempt_bind_cases executes
  rcases Execution.bind_cases reads with
    ⟨failure, raises, rfl⟩ | ⟨first, _, token, rfl, asked, onward⟩
  · obtain ⟨rfl, -⟩ := Execution.ask_cases raises
    cases rest
    refine .inr ⟨rfl, ?_⟩
    rintro back ⟨_, _, split, ⟨_⟩⟩
    cases split
  · obtain ⟨rfl, -⟩ := Execution.ask_cases asked
    rcases Execution.bind_cases onward with
      ⟨failure, raises, rfl⟩ | ⟨_, _, ⟨control, moment⟩, rfl, read, last⟩
    · obtain ⟨rfl, -⟩ := Execution.ask_cases raises
      cases rest
      refine .inr ⟨rfl, ?_⟩
      rintro back ⟨_, _, split, ⟨_⟩⟩
      cases split
    · obtain ⟨rfl, -⟩ := Execution.ask_cases read
      cases last
      cases rest
      by_cases same : token = some authority.fencingToken ∧ authority.Controls control moment
      · refine .inl ⟨congrArg Except.ok (decide_eq_false (not_not.mpr same)), ?_⟩
        obtain ⟨rfl, controls⟩ := same
        exact .intro controls
      · refine .inr ⟨congrArg Except.ok (decide_eq_true same), ?_⟩
        rintro back ⟨_, _, split, ⟨controls⟩⟩
        cases split
        exact same ⟨rfl, controls⟩

/-- What `settleReply` can do. -/
inductive SettledReply (authority : SubmissionAuthority) (accountId : String)
    (response : PostResponse) (log : List BrokerEvent) (result : LiveResult) : Prop where
  | rejected : response.ok = false → result.status ≠ .accepted →
      SettledReply authority accountId response log result
  | kept {reads : List BrokerEvent} {save : BrokerEvent} : response.ok = true →
      authority.Confirmed accountId reads → log = reads ++ [save] → CancelsNothing log →
      result.orderId = response.resultId → SettledReply authority accountId response log result
  | cancelled : response.ok = true → ¬ authority.StartsConfirmed accountId log → CancelsAll log →
      result.status ≠ .accepted → SettledReply authority accountId response log result

theorem settleReply_cases {outcome : Except PyError LiveResult}
    (executes : Execution Possible (authority.settleReply intent response) log outcome) :
    ∃ result, outcome = .ok result ∧
      SettledReply authority intent.accountId response log result := by
  rcases Execution.bind_cases executes with
    ⟨failure, raises, -⟩ | ⟨front, _, changed, rfl, checks, rest⟩
  · split at raises
    · rcases changed_cases raises with ⟨same, -⟩ | ⟨same, -⟩ <;> cases same
    · cases raises
  rcases Execution.bind_cases rest with
    ⟨failure, raises, -⟩ | ⟨middle, save, result, rfl, decides, last⟩
  · split at raises
    · rcases Execution.bind_cases raises with ⟨_, raises, -⟩ | ⟨_, _, _, -, -, done⟩
      · obtain ⟨_, _, same, -⟩ := cancellationVerified_cases raises
        cases same
      · cases done
    · cases raises
  obtain ⟨answer, saved, rfl, rfl, sameId, accepted⟩ := saveResult_cases last
  refine ⟨saved, rfl, ?_⟩
  by_cases ok : response.ok = true
  · rw [if_pos ok] at checks
    rcases changed_cases checks with ⟨same, confirmed⟩ | ⟨same, unconfirmed⟩
    · cases same
      obtain ⟨rfl, rfl⟩ := Execution.done_ok_iff.mp decides
      refine .kept ok confirmed (by rw [List.nil_append]) ?_ ?_
      · intro event member
        rcases List.mem_append.mp member with read | saves
        · exact confirmed.readsOnly.cancelsNothing event read
        · rw [List.mem_singleton.mp saves]
          exact fun _ => id
      · rw [sameId, SubmissionAuthority.replyResult, if_pos ok]
    · cases same
      obtain ⟨cancel, _, verified, rfl, cancels, done⟩ := Execution.bind_ok_iff.mp decides
      obtain ⟨rfl, rfl⟩ := Execution.done_ok_iff.mp done
      obtain ⟨_, _, -, attempted⟩ := cancellationVerified_cases cancels
      exact .cancelled ok (unconfirmed _)
        (cancelAll_attempted attempted).append_right.append_right.append_left
        fun status => nomatch accepted status
  · rw [if_neg ok] at checks
    obtain ⟨rfl, rfl⟩ := Execution.done_ok_iff.mp checks
    obtain ⟨rfl, rfl⟩ := Execution.done_ok_iff.mp decides
    refine .rejected (Bool.eq_false_iff.mpr ok) fun status => ?_
    have status' := accepted status
    rw [SubmissionAuthority.replyResult, if_neg ok] at status'
    cases status'

/-! ### After the post of a batch -/

variable {broker : PolymarketBroker} {items : List (LiveIntent × TimedBook)}
  {responses : List PostResponse}

/-- A read of the lease or of the control failed. -/
def ReadFails (log : List BrokerEvent) : Prop :=
  ∃ problem, ⟨.leaseGuard, .error problem⟩ ∈ log ∨
    ∃ accountId, ⟨.getRuntimeControl accountId, .error problem⟩ ∈ log

theorem not_readFails_of_settles (settles : ∀ event ∈ log, event.request.Settles) :
    ¬ ReadFails log := by
  rintro ⟨problem, member | ⟨accountId, member⟩⟩
  · exact settles _ member
  · exact settles _ member

theorem readFails_append {front back : List BrokerEvent} :
    ReadFails (front ++ back) ↔ ReadFails front ∨ ReadFails back := by
  constructor
  · rintro ⟨problem, member | ⟨accountId, member⟩⟩
    · exact (List.mem_append.mp member).imp (fun here => ⟨problem, .inl here⟩)
        fun here => ⟨problem, .inl here⟩
    · exact (List.mem_append.mp member).imp (fun here => ⟨problem, .inr ⟨accountId, here⟩⟩)
        fun here => ⟨problem, .inr ⟨accountId, here⟩⟩
  · rintro (⟨problem, member | ⟨accountId, member⟩⟩ | ⟨problem, member | ⟨accountId, member⟩⟩)
    · exact ⟨problem, .inl (List.mem_append_left _ member)⟩
    · exact ⟨problem, .inr ⟨accountId, List.mem_append_left _ member⟩⟩
    · exact ⟨problem, .inl (List.mem_append_right _ member)⟩
    · exact ⟨problem, .inr ⟨accountId, List.mem_append_right _ member⟩⟩

/-- What the gate of a batch can do: it raises when a read fails, and it is current only
after two reads that confirm the authority. -/
inductive GateOutcome (authority : SubmissionAuthority) (accountId : String)
    (log : List BrokerEvent) : Except PyError Bool → Prop where
  | raised (problem : PyError) : ReadFails log → ReadsOnly accountId log →
      GateOutcome authority accountId log (.error problem)
  | answered (current : Bool) : ¬ ReadFails log →
      (current = true → authority.Confirmed accountId log) →
      GateOutcome authority accountId log (.ok current)

theorem batchGateIsCurrent_cases {outcome : Except PyError Bool}
    (executes : Execution Possible (broker.batchGateIsCurrent authority items) log outcome) :
    GateOutcome authority broker.accountId log outcome := by
  unfold PolymarketBroker.batchGateIsCurrent at executes
  split at executes
  · cases executes
    refine .answered false ?_ ?_
    · rintro ⟨_, member | ⟨_, member⟩⟩ <;> cases member
    · intro current
      cases current
  rcases Execution.bind_cases executes with ⟨problem, raises, rfl⟩ | ⟨_, _, token, rfl, asked, rest⟩
  · obtain ⟨rfl, -⟩ := Execution.ask_cases raises
    refine .raised problem ⟨problem, .inl List.mem_cons_self⟩ fun event member => ?_
    rw [List.mem_singleton.mp member]
    exact .inl rfl
  obtain ⟨rfl, -⟩ := Execution.ask_cases asked
  dsimp only at rest
  by_cases same : token = some authority.fencingToken
  · rw [if_neg (not_not.mpr same)] at rest
    rcases Execution.bind_cases rest with
      ⟨problem, raises, rfl⟩ | ⟨_, _, ⟨control, moment⟩, rfl, read, done⟩
    · obtain ⟨rfl, -⟩ := Execution.ask_cases raises
      refine .raised problem ⟨problem, .inr ⟨_, List.mem_cons_of_mem _ List.mem_cons_self⟩⟩ ?_
      intro event member
      rcases List.mem_cons.mp member with rfl | member
      · exact .inl rfl
      · rw [List.mem_singleton.mp member]
        exact .inr rfl
    · obtain ⟨rfl, -⟩ := Execution.ask_cases read
      cases done
      refine .answered _ ?_ fun current => ?_
      · rintro ⟨_, member | ⟨_, member⟩⟩ <;> simp at member
      · subst same
        exact .intro (of_decide_eq_true current).1
  · rw [if_pos same] at rest
    cases rest
    refine .answered false ?_ ?_
    · rintro ⟨_, member | ⟨_, member⟩⟩ <;> simp at member
    · intro current
      cases current

/-- What `settleBatch` can do. -/
inductive SettledBatch (authority : SubmissionAuthority) (accountId : String) (orders : Nat)
    (responses : List PostResponse) (log : List BrokerEvent) :
    Except PyError (List LiveResult) → Prop where
  | unreadable {results : List LiveResult} :
      responses.length ≠ orders ∨ (∃ response ∈ responses, response.Unnamed) → CancelsAll log →
      (∀ result ∈ results, result.status ≠ .accepted) →
      SettledBatch authority accountId orders responses log (.ok results)
  | raised {problem : PyError} : responses.length = orders →
      (∀ response ∈ responses, ¬ response.Unnamed) → ReadFails log → ReadsOnly accountId log →
      SettledBatch authority accountId orders responses log (.error problem)
  | returned {results : List LiveResult} : responses.length = orders →
      (∀ response ∈ responses, ¬ response.Unnamed) → ¬ ReadFails log →
      (∀ response ∈ responses, response.ok = true →
        ∃ result ∈ results, result.orderId = response.resultId) →
      (∀ result ∈ results, result.status = .accepted → authority.StartsConfirmed accountId log) →
      SettledBatch authority accountId orders responses log (.ok results)

theorem legResult_orderId {kept verified : Bool} (ok : response.ok = true) :
    (authority.legResult kept verified intent response).orderId = response.resultId := by
  unfold SubmissionAuthority.legResult
  dsimp only
  split
  · rfl
  · rfl

theorem legResult_accepted {kept verified : Bool}
    (status : (authority.legResult kept verified intent response).status = .accepted) :
    kept = true := by
  unfold SubmissionAuthority.legResult at status
  dsimp only at status
  split at status
  · cases status
  · rename_i unkept
    split at status
    · rename_i ok
      exact Bool.not_eq_false _ |>.mp fun lost => unkept ⟨ok, lost⟩
    · cases status

theorem saveLegs_cases {kept verified : Bool} {legs : List (LiveIntent × PostResponse)}
    {outcome : Except PyError (List LiveResult)}
    (executes : Execution Possible (authority.saveLegs kept verified legs) log outcome) :
    ∃ results, outcome = .ok results ∧
      (∀ leg ∈ legs, leg.2.ok = true → ∃ result ∈ results, result.orderId = leg.2.resultId) ∧
      ∀ result ∈ results, result.status = .accepted → kept = true := by
  induction legs generalizing log outcome with
  | nil =>
      cases executes
      exact ⟨[], rfl, fun _ => nofun, fun _ => nofun⟩
  | cons leg legs ih =>
      rcases Execution.bind_cases executes with ⟨_, raises, -⟩ | ⟨_, _, saved, rfl, saves, rest⟩
      · obtain ⟨_, _, -, same, -⟩ := saveResult_cases raises
        cases same
      obtain ⟨_, result, -, same, sameId, accepted⟩ := saveResult_cases saves
      cases same
      rcases Execution.bind_cases rest with ⟨_, raises, -⟩ | ⟨_, _, others, rfl, several, done⟩
      · obtain ⟨_, same, -⟩ := ih raises
        cases same
      obtain ⟨results, same, named, keeps⟩ := ih several
      cases same
      cases done
      refine ⟨_, rfl, ?_, ?_⟩
      · intro leg' member ok
        rcases List.mem_cons.mp member with rfl | later
        · exact ⟨saved, List.mem_cons_self, sameId.trans (legResult_orderId ok)⟩
        · obtain ⟨result, member, same⟩ := named leg' later ok
          exact ⟨result, List.mem_cons_of_mem _ member, same⟩
      · intro result member status
        rcases List.mem_cons.mp member with rfl | later
        · exact legResult_accepted (accepted status)
        · exact keeps result later status

theorem cancelUnreadable_cases {intents : List LiveIntent} {reason problem : String}
    {outcome : Except PyError (List LiveResult)}
    (executes : Execution Possible (cancelUnreadable intents reason problem) log outcome) :
    ∃ results, outcome = .ok results ∧ CancelsAll log ∧
      ∀ result ∈ results, result.status ≠ .accepted := by
  rcases Execution.bind_cases executes with ⟨_, raises, -⟩ | ⟨_, _, verified, rfl, cancels, done⟩
  · obtain ⟨_, _, same, -⟩ := cancellationVerified_cases raises
    cases same
  · obtain ⟨_, _, -, attempted⟩ := cancellationVerified_cases cancels
    cases done
    refine ⟨_, rfl, (cancelAll_attempted attempted).append_right, fun result member => ?_⟩
    obtain ⟨intent, -, rfl⟩ := List.mem_map.mp member
    exact Refusal.result_not_accepted _ _

theorem settleBatch_cases {outcome : Except PyError (List LiveResult)}
    (executes : Execution Possible (broker.settleBatch authority items responses) log outcome) :
    SettledBatch authority broker.accountId items.length responses log outcome := by
  unfold PolymarketBroker.settleBatch at executes
  dsimp only at executes
  split at executes
  · rename_i count
    obtain ⟨results, rfl, cancels, unaccepted⟩ := cancelUnreadable_cases executes
    exact .unreadable (.inl count) cancels unaccepted
  rename_i count
  have count := not_not.mp count
  split at executes
  · rename_i unnamed
    obtain ⟨results, rfl, cancels, unaccepted⟩ := cancelUnreadable_cases executes
    exact .unreadable (.inr unnamed) cancels unaccepted
  rename_i unnamed
  have named : ∀ response ∈ responses, ¬ response.Unnamed := fun response member here =>
    unnamed ⟨response, member, here⟩
  rcases Execution.bind_cases executes with ⟨problem, raises, rfl⟩ | ⟨reads, _, current, rfl, gate, rest⟩
  · cases batchGateIsCurrent_cases raises with
    | raised _ fails reads => exact .raised count named fails reads
  rcases Execution.bind_cases rest with ⟨problem, raises, -⟩ | ⟨cancel, _, verified, rfl, cancels, last⟩
  · split at raises
    · obtain ⟨_, _, same, -⟩ := cancellationVerified_cases raises
      cases same
    · cases raises
  obtain ⟨results, rfl, returned, keeps⟩ := saveLegs_cases last
  cases batchGateIsCurrent_cases gate with
  | answered _ answered confirms =>
      refine .returned count named ?_ ?_ ?_
      · rw [readFails_append, readFails_append, not_or, not_or]
        refine ⟨answered, not_readFails_of_settles ?_, not_readFails_of_settles ?_⟩
        · refine Uses.requests (?_ : SettlesOnly _) cancels
          split
          · exact (withdrawing_cancellationVerified (withdrawing_cancelOrders _ _)).settles
          · trivial
        · exact Uses.requests (settling_saveLegs _ _ _ _) last
      · intro response member ok
        have whole : ((items.map Prod.fst).zip responses).map Prod.snd = responses :=
          List.map_snd_zip (by rw [List.length_map, count])
        rw [← whole] at member
        obtain ⟨leg, inside, rfl⟩ := List.mem_map.mp member
        exact returned leg inside ok
      · intro result member status
        have kept := keeps result member status
        rw [Bool.and_eq_true] at kept
        exact ⟨reads, _, rfl, confirms kept.1⟩

end AfterPost

/-! ### Calls -/

section Calls

variable {Possible : BrokerEvent → Prop} {broker : PolymarketBroker} {moment : Moment}
  {intent : LiveIntent} {book : TimedBook} {items : List (LiveIntent × TimedBook)}
  {log : List BrokerEvent}

/-- The log posts nothing. -/
abbrev Unposted (log : List BrokerEvent) : Prop :=
  ∀ event ∈ log, event.request.Silent

theorem Posts.not_silent {post : BrokerEvent} {signed : List SignedOrder}
    (posts : Posts post signed) : ¬ post.request.Silent := by
  cases posts <;> exact id

/-- The only post of a log. -/
theorem split_posts {before before' after after' : List BrokerEvent} {post post' : BrokerEvent}
    (front : Unposted before) (back : Unposted after) (posts : ¬ post'.request.Silent)
    (split : before ++ post :: after = before' ++ post' :: after') :
    before' = before ∧ post' = post ∧ after' = after :=
  append_cons_unique front back posts split

/-- What `submit` can do: refuse or raise without a post, or post once behind its gate. -/
inductive Submitted (Possible : BrokerEvent → Prop) (broker : PolymarketBroker)
    (intent : LiveIntent) : List BrokerEvent → Except PyError LiveResult → Prop where
  | raised {log : List BrokerEvent} (problem : PyError) : Unposted log →
      Submitted Possible broker intent log (.error problem)
  | refused {log : List BrokerEvent} (refusal : Refusal) : Unposted log →
      Submitted Possible broker intent log (.ok (refusal.result intent))
  | posted {before after : List BrokerEvent} {authority : SubmissionAuthority}
      {signed : SignedOrder} {outcome : Except PyError LiveResult}
      (answer : Except PyError PostResponse) : Unposted before →
      ThroughGate broker authority intent.accountId [intent] [signed] before →
      Execution Possible (authority.afterPost intent answer) after outcome →
      Submitted Possible broker intent (before ++ ⟨.postOrder signed, answer⟩ :: after) outcome

theorem submit_cases {outcome : Except PyError LiveResult}
    (executes : Execution Possible (broker.submit moment intent book) log outcome) :
    Submitted Possible broker intent log outcome := by
  have quiet := quiet_prepareSubmission broker moment intent book
  rcases Execution.bind_cases executes with
    ⟨problem, raises, rfl⟩ | ⟨front, back, prepared, rfl, prepares, rest⟩
  · exact .raised problem (quiet.requests raises)
  cases prepared with
  | error refusal =>
      cases rest
      rw [List.append_nil]
      exact .refused refusal (quiet.requests prepares)
  | ok entry =>
      obtain ⟨authority, signed⟩ := entry
      obtain ⟨post, after, answer, rfl, asked, settles⟩ := Execution.attempt_bind_cases rest
      obtain ⟨rfl, -⟩ := Execution.ask_cases asked
      exact .posted answer (quiet.requests prepares) (prepareSubmission_log prepares) settles

/-- What `submit_batch` of several orders can do. -/
inductive BatchSubmitted (Possible : BrokerEvent → Prop) (broker : PolymarketBroker)
    (items : List (LiveIntent × TimedBook)) :
    List BrokerEvent → Except PyError (List LiveResult) → Prop where
  | raised {log : List BrokerEvent} (problem : PyError) : Unposted log →
      BatchSubmitted Possible broker items log (.error problem)
  | refused {log : List BrokerEvent} (refusal : Refusal) : Unposted log →
      BatchSubmitted Possible broker items log (.ok (items.map fun item => refusal.result item.1))
  | posted {before after : List BrokerEvent} {authority : SubmissionAuthority}
      {signed : List SignedOrder} {outcome : Except PyError (List LiveResult)}
      (answer : Except PyError (List PostResponse)) : Unposted before →
      ThroughGate broker authority broker.accountId (items.map Prod.fst) signed before →
      Execution Possible (broker.afterBatchPost authority items answer) after outcome →
      BatchSubmitted Possible broker items (before ++ ⟨.postOrders signed, answer⟩ :: after) outcome

theorem submitSeveral_cases {outcome : Except PyError (List LiveResult)}
    (executes : Execution Possible (broker.submitSeveral moment items) log outcome) :
    BatchSubmitted Possible broker items log outcome := by
  have quiet := quiet_prepareBatch broker moment items
  rcases Execution.bind_cases executes with
    ⟨problem, raises, rfl⟩ | ⟨front, back, prepared, rfl, prepares, rest⟩
  · exact .raised problem (quiet.requests raises)
  cases prepared with
  | error refusal =>
      cases rest
      rw [List.append_nil]
      exact .refused refusal (quiet.requests prepares)
  | ok entry =>
      obtain ⟨authority, signed⟩ := entry
      obtain ⟨post, after, answer, rfl, asked, settles⟩ := Execution.attempt_bind_cases rest
      obtain ⟨rfl, -⟩ := Execution.ask_cases asked
      exact .posted answer (quiet.requests prepares) (prepareBatch_log prepares) settles

theorem quiet_afterPost (authority : SubmissionAuthority) (intent : LiveIntent)
    (answer : Except PyError PostResponse) : Quiet (authority.afterPost intent answer) := by
  cases answer with
  | error problem => exact quiet_bind (withdrawing_cancelAmbiguous _).settles.quiet fun _ => trivial
  | ok response =>
      refine quiet_bind ?_ fun changed => quiet_bind ?_ fun _ => (settling_saveResult _ _ _).quiet
      · split
        · refine quiet_bind (Uses.attempt (quiet_bind (quiet_ask trivial) fun _ =>
            quiet_bind (quiet_ask trivial) fun _ => trivial) fun _ => trivial) fun caught => ?_
          cases caught <;> trivial
        · trivial
      · split
        · exact quiet_bind (withdrawing_cancellationVerified (withdrawing_cancelAll _)).settles.quiet
            fun _ => trivial
        · trivial

theorem quiet_cancelUnreadable (intents : List LiveIntent) (reason problem : String) :
    Quiet (cancelUnreadable intents reason problem) :=
  quiet_bind (withdrawing_cancellationVerified (withdrawing_cancelAll _)).settles.quiet
    fun _ => trivial

theorem quiet_afterBatchPost (broker : PolymarketBroker) (authority : SubmissionAuthority)
    (items : List (LiveIntent × TimedBook)) (answer : Except PyError (List PostResponse)) :
    Quiet (broker.afterBatchPost authority items answer) := by
  cases answer with
  | error problem => exact quiet_bind (withdrawing_cancelAmbiguous _).settles.quiet fun _ => trivial
  | ok responses =>
      change Quiet (broker.settleBatch authority items responses)
      unfold PolymarketBroker.settleBatch
      dsimp only
      split
      · exact quiet_cancelUnreadable _ _ _
      · split
        · exact quiet_cancelUnreadable _ _ _
        · refine quiet_bind (quiet_batchGateIsCurrent _ _ _) fun current => quiet_bind ?_ fun _ =>
            (settling_saveLegs _ _ _ _).quiet
          split
          · exact (withdrawing_cancellationVerified (withdrawing_cancelOrders _ _)).settles.quiet
          · trivial

/-- An accepted order was confirmed after its reply. -/
theorem afterPost_accepted {authority : SubmissionAuthority} {answer : Except PyError PostResponse}
    {result : LiveResult}
    (executes : Execution Possible (authority.afterPost intent answer) log (.ok result))
    (status : result.status = .accepted) : authority.StartsConfirmed intent.accountId log := by
  cases answer with
  | error problem =>
      obtain ⟨_, _, _, -, -, done⟩ := Execution.bind_ok_iff.mp executes
      cases done
      exact absurd status (Refusal.result_not_accepted _ _)
  | ok response =>
      obtain ⟨result', same, settled⟩ := settleReply_cases executes
      cases same
      cases settled with
      | rejected _ unaccepted => exact absurd status unaccepted
      | kept _ confirmed split _ _ => exact ⟨_, _, split, confirmed⟩
      | cancelled _ _ _ unaccepted => exact absurd status unaccepted

theorem afterBatchPost_accepted {authority : SubmissionAuthority}
    {answer : Except PyError (List PostResponse)} {results : List LiveResult} {result : LiveResult}
    (executes : Execution Possible (broker.afterBatchPost authority items answer) log (.ok results))
    (member : result ∈ results) (status : result.status = .accepted) :
    authority.StartsConfirmed broker.accountId log := by
  cases answer with
  | error problem =>
      obtain ⟨_, _, _, -, -, done⟩ := Execution.bind_ok_iff.mp executes
      cases done
      obtain ⟨item, -, rfl⟩ := List.mem_map.mp member
      exact absurd status (Refusal.result_not_accepted _ _)
  | ok responses =>
      cases settleBatch_cases executes with
      | unreadable _ _ unaccepted => exact absurd status (unaccepted result member)
      | returned _ _ _ _ confirmed => exact confirmed result member status

/-! ### The gate -/

theorem postsThroughGate_of_unposted {outcome : Except PyError (List LiveResult)}
    {intents : List LiveIntent} (unposted : Unposted log)
    (unaccepted : ∀ results, outcome = .ok results → ∀ result ∈ results, result.status ≠ .accepted) :
    PostsThroughGate broker intents log outcome where
  gated before post after signed split posts := by
    subst split
    exact absurd (unposted post (List.mem_append_right _ List.mem_cons_self)) posts.not_silent
  accepted results same result member status :=
    absurd status (unaccepted results same result member)

theorem postsThroughGate_of_posted {before after : List BrokerEvent} {post : BrokerEvent}
    {authority : SubmissionAuthority} {accountId : String} {intents : List LiveIntent}
    {signed : List SignedOrder} {outcome : Except PyError (List LiveResult)}
    (front : Unposted before) (back : Unposted after) (posts : Posts post signed)
    (gate : ThroughGate broker authority accountId intents signed before)
    (accepted : ∀ results, outcome = .ok results → ∀ result ∈ results, result.status = .accepted →
      authority.StartsConfirmed accountId after) :
    PostsThroughGate broker intents (before ++ post :: after) outcome where
  gated before' post' after' signed' split posts' := by
    obtain ⟨rfl, rfl, rfl⟩ := split_posts front back posts'.not_silent split
    cases posts <;> cases posts' <;> exact ⟨authority, accountId, gate⟩
  accepted results same result member status := by
    obtain ⟨reads, rest, rfl, confirmed⟩ := accepted results same result member status
    exact ⟨before, post, reads, rest, signed, authority, accountId, rfl, posts, gate, confirmed⟩

theorem submit_postsThroughGate {outcome : Except PyError (List LiveResult)}
    (executes : Execution Possible
      (do
        let result ← broker.submit moment intent book
        pure [result]) log outcome) :
    PostsThroughGate broker [intent] log outcome := by
  rcases Execution.bind_cases executes with
    ⟨problem, raises, rfl⟩ | ⟨front, back, result, rfl, submits, done⟩
  · cases submit_cases raises with
    | raised _ unposted => exact postsThroughGate_of_unposted unposted nofun
    | posted answer unposted gate settles =>
        exact postsThroughGate_of_posted unposted ((quiet_afterPost _ _ _).requests settles)
          (.one _ _) gate nofun
  · cases done
    rw [List.append_nil]
    generalize returned : (Except.ok result : Except PyError LiveResult) = outcome at submits
    cases submit_cases submits with
    | raised problem unposted => cases returned
    | refused refusal unposted =>
        cases returned
        refine postsThroughGate_of_unposted unposted ?_
        rintro _ ⟨⟩ _ member
        rw [List.mem_singleton.mp member]
        exact Refusal.result_not_accepted _ _
    | posted answer unposted gate settles =>
        cases returned
        refine postsThroughGate_of_posted unposted ((quiet_afterPost _ _ _).requests settles)
          (.one _ _) gate ?_
        rintro _ ⟨⟩ result' member status
        rw [List.mem_singleton.mp member] at status
        exact afterPost_accepted settles status

theorem submitSeveral_postsThroughGate {outcome : Except PyError (List LiveResult)}
    (executes : Execution Possible (broker.submitSeveral moment items) log outcome) :
    PostsThroughGate broker (items.map Prod.fst) log outcome := by
  cases submitSeveral_cases executes with
  | raised problem unposted => exact postsThroughGate_of_unposted unposted nofun
  | refused refusal unposted =>
      refine postsThroughGate_of_unposted unposted ?_
      rintro _ ⟨⟩ result member
      obtain ⟨item, -, rfl⟩ := List.mem_map.mp member
      exact Refusal.result_not_accepted _ _
  | posted answer unposted gate settles =>
      refine postsThroughGate_of_posted unposted ((quiet_afterBatchPost _ _ _ _).requests settles)
        (.several _ _) gate ?_
      rintro _ rfl result member status
      exact afterBatchPost_accepted settles member status

/-- Whatever the store, the lease guard, the geoblock check and the exchange answer, every
post of a call goes through the whole gate, and an order is reported as accepted only if
the authority was read unchanged after the reply. -/
theorem posts_through_gate {call : BrokerCall} {outcome : Except PyError (List LiveResult)}
    (executes : Execution (fun _ => True) (broker.serve call) log outcome) :
    PostsThroughGate broker call.intents log outcome := by
  cases call with
  | submit moment intent book => exact submit_postsThroughGate executes
  | submitBatch moment submissions =>
      match submissions with
      | [] =>
          cases executes
          exact postsThroughGate_of_unposted (fun _ => nofun)
            fun _ same _ member => by cases same; cases member
      | [(intent, book)] => exact submit_postsThroughGate executes
      | _ :: _ :: _ => exact submitSeveral_postsThroughGate executes

end Calls

/-! ### A batch that is accepted -/

/-- A maker order at 0.45 for five shares. -/
def makerIntent (intentHash tokenId : String) (outcome : Outcome) : LiveIntent where
  intentHash := intentHash
  accountId := "account"
  mode := .canary
  marketId := "market"
  tokenId := tokenId
  outcome := outcome
  side := .buy
  price := 9 / 20
  size := 5
  strategy := "pair_accumulator_v1"
  postOnly := true
  conditionId := none
  notionalUsd := 9 / 4
  maxCommitmentUsd := none

/-- A book from 0.40 to 0.60. -/
def makerBook (tokenId : String) : TimedBook where
  tokenId := tokenId
  marketId := "market"
  bids := [⟨2 / 5, 10⟩]
  asks := [⟨3 / 5, 10⟩]
  tickSize := 1 / 100
  minimumOrderSize := 1
  capturedAt := 0
  valid := by
    refine ⟨fun level member => ?_, fun level member => ?_⟩ <;>
      rw [List.mem_singleton.mp member] <;> constructor <;> norm_num
  tickSize_pos := Literal.hundredth_pos
  minimumOrderSize_pos := Literal.one_pos

/-- The broker of an account whose lease guard is installed. -/
def leasedBroker : PolymarketBroker where
  accountId := "account"
  payloadKeyVersion := 1
  leased := true
  power := .whole
  sha256 := id
  encrypt serialized _ := serialized
  exceptionText := PyError.typeName

/-- A clock and settings of a canary account. -/
def canaryMoment : Moment :=
  ⟨0, .canary, 5, 5⟩

/-- Both legs of a pair. -/
def pairCall : BrokerCall :=
  .submitBatch canaryMoment [(makerIntent "first" "yes" .yes, makerBook "yes"),
    (makerIntent "second" "no" .no, makerBook "no")]

/-- The response of an accepted order. -/
def acceptedResponse (orderId : String) : PostResponse :=
  ⟨true, orderId, none, [], [], [], none, none⟩

/-- An environment in which everything is in order. What it answers after the post is
given. -/
structure Exchange where
  reply : PostResponse
  replies : List PostResponse
  leaseAfterPost : Except PyError (Option Int)

/-- It remembers whether something was posted. -/
def Exchange.serve (exchange : Exchange) (posted : Bool) :
    (request : BrokerRequest) → Except PyError request.Response × Bool
  | .hasUnresolvedLiveOrders _ => (.ok false, posted)
  | .getRuntimeControl _ =>
      (.ok (RuntimeControl.fresh.armedAs .canary (seconds 300) (by decide) rfl, canaryMoment), posted)
  | .leaseGuard => (if posted then exchange.leaseAfterPost else .ok (some 7), posted)
  | .geoblockCheck => (.ok (⟨true, "eligible"⟩, canaryMoment), posted)
  | .getMarket _ =>
      (.ok (⟨true, .ok ⟨ValueStrategy.freeMarket "event" "other", true⟩⟩, canaryMoment), posted)
  | .getBalanceAllowance _ _ => (.ok (⟨10000000, [10000000]⟩, canaryMoment), posted)
  | .createLimitOrder order => (.ok ⟨order.tokenId⟩, posted)
  | .prepareSignedOrder _ => (.ok (), posted)
  | .markOrderSubmitting _ _ _ _ => (.ok (), posted)
  | .postOrder _ => (.ok exchange.reply, true)
  | .postOrders _ => (.ok exchange.replies, true)
  | .clientCancelAll => (.ok (), posted)
  | .clientCancelOrders _ => (.ok (), posted)
  | .listOpenOrders => (.ok [], posted)
  | .saveExecution _ _ => (.ok (), posted)

/-- The exchange accepts both legs. -/
def acceptingExchange (leaseAfterPost : Except PyError (Option Int)) : Exchange :=
  ⟨acceptedResponse "order", [acceptedResponse "order-1", acceptedResponse "order-2"], leaseAfterPost⟩

/-- The call for the pair, when the lease guard gives this answer after the post. -/
def pairRun (leaseAfterPost : Except PyError (Option Int)) :
    List BrokerEvent × Except PyError (List LiveResult) × Bool :=
  (leasedBroker.serve pairCall).run (acceptingExchange leaseAfterPost).serve false

/-- A pair is accepted in an environment in which the lease stays. -/
theorem pairRun_posts_through_gate :
    (pairRun (.ok (some 7))).2.1.toOption.map
        (fun results => results.map fun result => (result.status, result.orderId)) =
      some [(.accepted, some "order-1"), (.accepted, some "order-2")] ∧
    PostsThroughGate leasedBroker pairCall.intents (pairRun (.ok (some 7))).1
      (pairRun (.ok (some 7))).2.1 :=
  ⟨by decide +kernel, posts_through_gate (run_execution (fun _ _ => trivial) _ _)⟩

end Polybot
