import Polybot.Brokers.Polymarket

/-!
The submissions of the live broker (`submit` and `submit_batch` of `polymarket.py`).

Each call first goes through its gate: `prepareSubmission` and `prepareBatch` check,
sign, persist, check again, mark and check once more. Then the call posts, and `afterPost`
and `afterBatchPost` settle what the exchange replied.
-/

namespace Polybot

open Interaction Program Stage

/-! ### The gate of one order -/

namespace PolymarketBroker

variable (broker : PolymarketBroker)

/-- What `submit` checks before it signs. -/
def openSubmission (moment : Moment) (intent : LiveIntent) (book : TimedBook) :
    BrokerStage SubmissionAuthority := do
  endWith ((bookProblem moment intent book).map Refusal.rejected)
  let (authority, moment) ← broker.readAuthority intent.accountId
    "runtime arm has less than 3.5 minutes remaining for a safe GTD order"
    "live submission is restricted to the leased worker"
  let (commitment, moment) ← orEnd (broker.submissionCommitment intent moment) fun problem =>
    .rejected s!"cannot verify signed commitment: {broker.exceptionText problem}"
  endIf (moment.orderCapUsd < commitment) (.rejected "executor order cap exceeded")
  endWith ((priceProblem moment intent book).map Refusal.rejected)
  let moment ← checkFunds intent.asset (intent.required commitment)
    "insufficient exchange balance before signing"
    "insufficient exchange allowance before signing"
  endIf (moment.BookIsStale book) (.rejected "order book became stale before signing")
  pure authority

/-- `submit` signs the order and persists it. -/
def signSubmission (authority : SubmissionAuthority) (intent : LiveIntent) :
    BrokerStage SignedOrder := do
  let (signed : SignedOrder) ←
    orEnd (askBroker (.createLimitOrder (intent.limitOrder intent.postOnly authority.expiration)))
      fun problem => .failed s!"order preparation/signing failed: {problem.typeName}"
  let _ ← orEnd (askBroker (.prepareSignedOrder (broker.prepared authority intent signed)))
    fun problem => .failed s!"signed order was not durably persisted: {problem.typeName}"
  pure signed

/-- `submit` reads the token and the control after signing. -/
def checkAfterSigning (authority : SubmissionAuthority) (accountId : String) :
    BrokerStage Unit := do
  let (token : Option Int) ← awaitBroker .leaseGuard
  endIf (token ≠ some authority.fencingToken)
    (.rejected "worker fencing token changed after signing; order was not posted")
  let ((control, moment) : RuntimeControl × Moment) ← awaitBroker (.getRuntimeControl accountId)
  endIf (¬ authority.Controls control moment)
    (.rejected "runtime control changed after signing; order was not posted")

/-- `submit` reads the token and the control before it posts. -/
def checkBeforePost (authority : SubmissionAuthority) (accountId : String) (book : TimedBook) :
    BrokerStage Unit := do
  let (token : Option Int) ← awaitBroker .leaseGuard
  let ((control, moment) : RuntimeControl × Moment) ← awaitBroker (.getRuntimeControl accountId)
  endIf (token ≠ some authority.fencingToken)
    (.rejected "worker fencing token changed before post; order was not posted")
  endIf (¬ authority.Controls control moment)
    (.rejected "runtime control changed before post; order was not posted")
  endIf (moment.BookIsStale book)
    (.rejected "order book became stale before post; order was not posted")

/-- `submit` up to its post. -/
def prepareSubmission (moment : Moment) (intent : LiveIntent) (book : TimedBook) :
    BrokerStage (SubmissionAuthority × SignedOrder) := do
  let authority ← broker.openSubmission moment intent book
  let signed ← broker.signSubmission authority intent
  checkAfterSigning authority intent.accountId
  let _ ← orEnd (markOrders authority [intent]) fun problem =>
    .rejected s!"durable submitting transition failed: {problem.typeName}"
  checkBeforePost authority intent.accountId book
  pure (authority, signed)

end PolymarketBroker

/-! ### The broadcast of one order -/

/-- `post_order`. -/
def postOrder (signed : SignedOrder) : BrokerProgram PostResponse :=
  askBroker (.postOrder signed)

/-- Read the lease and the control. -/
def readGate (accountId : String) : BrokerProgram (Option Int × RuntimeControl × Moment) := do
  let (token : Option Int) ← askBroker .leaseGuard
  let ((control, moment) : RuntimeControl × Moment) ← askBroker (.getRuntimeControl accountId)
  pure (token, control, moment)

namespace SubmissionAuthority

variable (authority : SubmissionAuthority)

/-- The authority is not, or may not be, what it was. -/
def changed (accountId : String) : BrokerProgram Bool := do
  match ← (readGate accountId).attempt with
  | .ok (token, control, moment) =>
      pure (decide (¬ (token = some authority.fencingToken ∧ authority.Controls control moment)))
  | .error _ => pure true

/-- The trace of a response with the kind of its order. -/
def trace (response : PostResponse) : Dict String RawValue :=
  (response.trace.set "order_type" (.text "GTD")).set "expires_at" (.time authority.expiresAt)

/-- The result of an order that was cancelled because the authority changed. -/
def changedResult (intent : LiveIntent) (response : PostResponse) (verified : Bool) :
    LiveResult where
  intentHash := intent.intentHash
  status := .error
  orderId := response.resultId
  filledSize := 0
  averagePrice := none
  message := "runtime control changed during broadcast; " ++
    if verified then "zero open orders verified but fill outcome remains unknown; reconcile"
    else "cancellation unverified; reconciliation required"
  raw := ((authority.trace response).set "reconciliation_required" (.flag true)).set
    "cancellation_open_orders_verified" (.flag verified)

/-- The result of a response that decides. -/
def replyResult (intent : LiveIntent) (response : PostResponse) : LiveResult :=
  if response.ok = true then
    ⟨⟨intent.intentHash, .accepted, response.resultId, 0, none,
      "accepted by CLOB; not treated as filled until user-stream/REST " ++
        "reconciliation reaches a terminal state"⟩, authority.trace response⟩
  else
    ⟨⟨intent.intentHash, .rejected, none, 0, none, response.message.getD "order rejected"⟩,
      (authority.trace response).set "code" (.text (response.code.getD "unknown"))⟩

/-- `submit` after the exchange replied. -/
def settleReply (intent : LiveIntent) (response : PostResponse) : BrokerProgram LiveResult := do
  let changed ←
    (if response.ok = true then authority.changed intent.accountId else pure false)
  let result ←
    (if changed = true then do
      let verified ← cancellationVerified
        (cancelAll "runtime control or worker lease changed during order broadcast")
      pure (authority.changedResult intent response verified)
    else pure (authority.replyResult intent response))
  saveResult "CLOB replied" result intent.accountId

/-- `submit` after its post was answered, or failed. -/
def afterPost (intent : LiveIntent) : Except PyError PostResponse → BrokerProgram LiveResult
  | .ok response => authority.settleReply intent response
  | .error problem => do
      let cancellation ← cancelAmbiguous "ambiguous live submission"
      pure ((Refusal.failed (s!"ambiguous post ({problem.typeName}); signed payload is durable; " ++
        s!"no re-sign; cancel-all {cancellation}")).result intent)

end SubmissionAuthority

/-- `submit`. -/
def PolymarketBroker.submit (broker : PolymarketBroker) (moment : Moment) (intent : LiveIntent)
    (book : TimedBook) : BrokerProgram LiveResult := do
  match ← (broker.prepareSubmission moment intent book).run with
  | .ok (authority, signed) =>
      let answer ← (postOrder signed).attempt
      authority.afterPost intent answer
  | .error refusal => pure (refusal.result intent)

/-! ### The gate of a batch -/

namespace PolymarketBroker

variable (broker : PolymarketBroker)

/-- `_batch_gate_is_current`. -/
def batchGateIsCurrent (authority : SubmissionAuthority) (items : List (LiveIntent × TimedBook)) :
    BrokerProgram Bool :=
  if broker.leased = false then pure false
  else do
    let (token : Option Int) ← askBroker .leaseGuard
    if token ≠ some authority.fencingToken then pure false
    else
      let ((control, moment) : RuntimeControl × Moment) ←
        askBroker (.getRuntimeControl broker.accountId)
      pure (decide (authority.Controls control moment ∧
        ∀ item ∈ items, validatePostOnlySubmission moment item.1 item.2 = none))

/-- The checks that a batch starts with. -/
def batchProblem (moment : Moment) (items : List (LiveIntent × TimedBook)) : Option String :=
  let intents := items.map Prod.fst
  if 15 < items.length then some "batch exceeds the conservative 15-order cap"
  else if ¬ ∀ intent ∈ intents, intent.accountId = broker.accountId then
    some "batch account identity mismatch"
  else if ¬ (intents.map (·.intentHash)).Nodup then some "batch contains duplicate intent hashes"
  else if ¬ ∀ intent ∈ intents, intent.postOnly = true then
    some "multi-order submission is restricted to post-only maker legs"
  else items.findSome? fun item => validatePostOnlySubmission moment item.1 item.2

/-- What `submit_batch` checks before it signs. -/
def openBatch (moment : Moment) (items : List (LiveIntent × TimedBook)) :
    BrokerStage SubmissionAuthority := do
  let intents := items.map Prod.fst
  endWith ((broker.batchProblem moment items).map Refusal.rejected)
  let (authority, moment) ← broker.readAuthority broker.accountId
    "runtime arm has less than 3.5 minutes remaining for safe GTD orders"
    "live batch submission is restricted to the leased worker"
  let (commitments, moment) ← orEnd (broker.submissionCommitments intents moment) fun problem =>
    .rejected s!"cannot verify signed commitment: {broker.exceptionText problem}"
  endIf (∃ commitment ∈ commitments, moment.orderCapUsd < commitment)
    (.rejected "executor order cap exceeded")
  endIf (moment.orderCapUsd < commitments.sum) (.rejected "aggregate batch order cap exceeded")
  checkBatchFunds (requiredByAsset intents commitments).entries
  pure authority

/-- `submit_batch` signs the orders, and then persists them. -/
def signBatch (authority : SubmissionAuthority) (intents : List LiveIntent) :
    BrokerStage (List SignedOrder) := do
  let signed ← orEnd (signOrders authority intents) fun problem =>
    .failed s!"batch preparation/signing failed: {problem.typeName}"
  let _ ← orEnd (broker.prepareOrders authority (intents.zip signed)) fun problem =>
    .failed s!"signed batch was not fully persisted: {problem.typeName}"
  pure signed

/-- The gate of a batch is current, or the call ends. -/
def checkBatch (authority : SubmissionAuthority) (items : List (LiveIntent × TimedBook))
    (outdated : String) : BrokerStage Unit := do
  let current ← within (broker.batchGateIsCurrent authority items)
  endIf (current = false) (.rejected outdated)

/-- `submit_batch` up to its post. -/
def prepareBatch (moment : Moment) (items : List (LiveIntent × TimedBook)) :
    BrokerStage (SubmissionAuthority × List SignedOrder) := do
  let authority ← broker.openBatch moment items
  let signed ← broker.signBatch authority (items.map Prod.fst)
  broker.checkBatch authority items
    "worker lease, runtime control, or book changed after batch signing"
  let _ ← orEnd (markOrders authority (items.map Prod.fst)) fun problem =>
    .failed s!"durable batch submitting transition failed: {problem.typeName}"
  broker.checkBatch authority items
    "worker lease, runtime control, or book changed before batch post"
  pure (authority, signed)

end PolymarketBroker

/-! ### The broadcast of a batch -/

/-- `list(post_orders(...))`. -/
def postOrders (signed : List SignedOrder) : BrokerProgram (List PostResponse) :=
  askBroker (.postOrders signed)

/-- The ids of the orders that the exchange accepted. -/
def acceptedIds (responses : List PostResponse) : List String :=
  (responses.filter fun response => response.ok && decide (response.orderId ≠ "")).map
    PostResponse.orderId

/-- The exchange accepted some of the orders, and not all. -/
def Mixed (responses : List PostResponse) : Prop :=
  acceptedIds responses ≠ [] ∧ (acceptedIds responses).length ≠ responses.length

instance decidableMixed (responses : List PostResponse) : Decidable (Mixed responses) :=
  inferInstanceAs (Decidable (_ ∧ _))

/-- The response of an accepted order has no id. -/
def PostResponse.Unnamed (response : PostResponse) : Prop :=
  response.ok = true ∧ response.orderId = ""

instance PostResponse.decidableUnnamed (response : PostResponse) : Decidable response.Unnamed :=
  inferInstanceAs (Decidable (_ ∧ _))

namespace SubmissionAuthority

variable (authority : SubmissionAuthority)

/-- The result of one leg, which is `kept` or was cancelled. -/
def legResult (kept verified : Bool) (intent : LiveIntent) (response : PostResponse) : LiveResult :=
  let raw := (authority.trace response).set "batch_non_atomic" (.flag true)
  if response.ok = true ∧ kept = false then
    ⟨⟨intent.intentHash, .error, response.resultId, 0, none,
      "batch leg accepted independently; targeted cancellation " ++
        if verified then
          "left no open order, but fill race remains ambiguous; freeze and reconcile"
        else "unverified; freeze group and reconcile immediately"⟩, raw⟩
  else if response.ok = true then
    ⟨⟨intent.intentHash, .accepted, response.resultId, 0, none,
      "batch leg accepted independently; no atomic pair-fill guarantee"⟩, raw⟩
  else
    ⟨⟨intent.intentHash, .rejected, none, 0, none, response.message.getD "batch leg rejected"⟩,
      raw.set "code" (.text (response.code.getD "unknown"))⟩

/-- Save the results of the legs in turn. -/
def saveLegs (kept verified : Bool) :
    List (LiveIntent × PostResponse) → BrokerProgram (List LiveResult)
  | [] => pure []
  | (intent, response) :: rest => do
      let result ← saveResult "CLOB batch replied"
        (authority.legResult kept verified intent response) intent.accountId
      let results ← saveLegs kept verified rest
      pure (result :: results)

end SubmissionAuthority

/-- Cancel everything after a reply that cannot be read. -/
def cancelUnreadable (intents : List LiveIntent) (reason problem : String) :
    BrokerProgram (List LiveResult) := do
  let verified ← cancellationVerified (cancelAll reason)
  pure (intents.map (Refusal.failed (problem ++ if verified then "verified" else "unverified")).result)

namespace PolymarketBroker

variable (broker : PolymarketBroker)

/-- `submit_batch` after the exchange replied. -/
def settleBatch (authority : SubmissionAuthority) (items : List (LiveIntent × TimedBook))
    (responses : List PostResponse) : BrokerProgram (List LiveResult) := do
  let intents := items.map Prod.fst
  if responses.length ≠ items.length then
    cancelUnreadable intents "malformed batch response"
      "batch response count mismatch; cancellation "
  else if ∃ response ∈ responses, response.Unnamed then
    cancelUnreadable intents "accepted batch response missing order id"
      "accepted batch response omitted order id; cancellation "
  else
    let current ← broker.batchGateIsCurrent authority items
    let kept := current && !decide (Mixed responses)
    let verified ←
      (if kept = false then
        cancellationVerified (cancelOrders (acceptedIds responses)
          "runtime changed or batch legs were only partially accepted")
      else pure false)
    authority.saveLegs kept verified (intents.zip responses)

/-- `submit_batch` after its post was answered, or failed. -/
def afterBatchPost (authority : SubmissionAuthority) (items : List (LiveIntent × TimedBook)) :
    Except PyError (List PostResponse) → BrokerProgram (List LiveResult)
  | .ok responses => broker.settleBatch authority items responses
  | .error problem => do
      let cancellation ← cancelAmbiguous "ambiguous live batch submission"
      pure (items.map fun item => (Refusal.failed (s!"ambiguous batch post ({problem.typeName}); " ++
        s!"no blind retry; cancel-all {cancellation}")).result item.1)

/-- `submit_batch` of several orders. -/
def submitSeveral (moment : Moment) (items : List (LiveIntent × TimedBook)) :
    BrokerProgram (List LiveResult) := do
  match ← (broker.prepareBatch moment items).run with
  | .ok (authority, signed) =>
      let answer ← (postOrders signed).attempt
      broker.afterBatchPost authority items answer
  | .error refusal => pure (items.map fun item => refusal.result item.1)

/-- `submit_batch`. -/
def submitBatch (moment : Moment) :
    List (LiveIntent × TimedBook) → BrokerProgram (List LiveResult)
  | [] => pure []
  | [(intent, book)] => do
      let result ← broker.submit moment intent book
      pure [result]
  | items => broker.submitSeveral moment items

end PolymarketBroker

/-! ### Calls -/

/-- A call of the broker, with what it reads when it starts. -/
inductive BrokerCall where
  | submit (moment : Moment) (intent : LiveIntent) (book : TimedBook)
  | submitBatch (moment : Moment) (submissions : List (LiveIntent × TimedBook))

/-- The intents of a call. -/
def BrokerCall.intents : BrokerCall → List LiveIntent
  | submit _ intent _ => [intent]
  | submitBatch _ submissions => submissions.map Prod.fst

/-- What a call does, with its results as a list. -/
def PolymarketBroker.serve (broker : PolymarketBroker) : BrokerCall → BrokerProgram (List LiveResult)
  | .submit moment intent book => do
      let result ← broker.submit moment intent book
      pure [result]
  | .submitBatch moment submissions => broker.submitBatch moment submissions

end Polybot
