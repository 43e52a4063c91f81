import Polybot.Brokers.Submission

/-!
The gate of the live broker.

`ThroughGate` says what the log of a call is when it comes to its post: each of its orders
was signed, persisted and marked under the authority that the call read at its start, and
this authority was read again once after signing and once after marking. Whatever the
environment answers, `prepareSubmission` and `prepareBatch` go on with such a log only,
and they post nothing.
-/

namespace Polybot

open Interaction Program Stage

/-! ### The log of a gate -/

namespace SubmissionAuthority

/-- The authority is the one that a call with this log read at its start. -/
inductive ReadAtStart (authority : SubmissionAuthority) (accountId : String) :
    List BrokerEvent → Prop where
  | intro {control : RuntimeControl} {moment : Moment} (rest : List BrokerEvent) :
      authority.Controls control moment →
      ReadAtStart authority accountId
        (⟨.hasUnresolvedLiveOrders accountId, .ok false⟩ ::
          ⟨.getRuntimeControl accountId, .ok (control, moment)⟩ ::
          ⟨.leaseGuard, .ok (some authority.fencingToken)⟩ :: rest)

/-- Two reads that find the authority unchanged. -/
inductive Confirmed (authority : SubmissionAuthority) (accountId : String) :
    List BrokerEvent → Prop where
  | intro {control : RuntimeControl} {moment : Moment} : authority.Controls control moment →
      Confirmed authority accountId
        [⟨.leaseGuard, .ok (some authority.fencingToken)⟩,
          ⟨.getRuntimeControl accountId, .ok (control, moment)⟩]

end SubmissionAuthority

/-- The moment came with the answer of the event. -/
inductive Carries : BrokerEvent → Moment → Prop where
  | geoblock (eligibility : GeoblockResult) (moment : Moment) :
      Carries ⟨.geoblockCheck, .ok (eligibility, moment)⟩ moment
  | market (id : String) (raw : RawMarket) (moment : Moment) :
      Carries ⟨.getMarket id, .ok (raw, moment)⟩ moment

/-- The maximum commitment of a BUY, recomputed in a market that was read. -/
def RecomputedCost (broker : PolymarketBroker) (log : List BrokerEvent) (intent : LiveIntent)
    (commitment : ℚ) : Prop :=
  intent.side = .buy → ∃ raw moment market,
    ⟨.getMarket intent.marketId, .ok (raw, moment)⟩ ∈ log ∧ raw.mapped = .ok market ∧
      commitment = maximumBuyCost broker.power intent.size intent.price (feesFor intent market)

/-- The commitments of the BUY intents together. -/
def buyTotal (intents : List LiveIntent) (commitments : List ℚ) : ℚ :=
  ((intents.zip commitments).map fun entry => if entry.1.side = .buy then entry.2 else 0).sum

/-- The recomputed commitments of the BUY intents are together at most the order cap. -/
def WithinCap (broker : PolymarketBroker) (intents : List LiveIntent) (log : List BrokerEvent) :
    Prop :=
  ∃ commitments event moment, List.Forall₂ (RecomputedCost broker log) intents commitments ∧
    event ∈ log ∧ Carries event moment ∧ buyTotal intents commitments ≤ moment.orderCapUsd

/-- The orders are the signed intents, and were persisted under the authority. -/
def DurablySigned (broker : PolymarketBroker) (authority : SubmissionAuthority)
    (intents : List LiveIntent) (signed : List SignedOrder) (log : List BrokerEvent) : Prop :=
  List.Forall₂ (fun intent order =>
    ⟨.createLimitOrder (intent.limitOrder intent.postOnly authority.expiration), .ok order⟩ ∈ log ∧
      ⟨.prepareSignedOrder (broker.prepared authority intent order), .ok ()⟩ ∈ log) intents signed

/-- The intents were marked under the authority. -/
def MarkedSubmitting (authority : SubmissionAuthority) (intents : List LiveIntent)
    (log : List BrokerEvent) : Prop :=
  ∀ intent ∈ intents, ⟨.markOrderSubmitting intent.intentHash intent.accountId
    authority.fencingToken authority.controlVersion, .ok ()⟩ ∈ log

/-- The log of a call that has gone through its whole gate. -/
inductive ThroughGate (broker : PolymarketBroker) (authority : SubmissionAuthority)
    (accountId : String) (intents : List LiveIntent) (signed : List SignedOrder) :
    List BrokerEvent → Prop where
  | intro {start signing first marks second : List BrokerEvent} :
      (∀ intent ∈ intents, intent.accountId = accountId) →
      authority.ReadAtStart accountId start → WithinCap broker intents start →
      DurablySigned broker authority intents signed signing →
      authority.Confirmed accountId first → MarkedSubmitting authority intents marks →
      authority.Confirmed accountId second →
      ThroughGate broker authority accountId intents signed
        (start ++ (signing ++ (first ++ (marks ++ second))))

/-! ### The first reads -/

section Reads

variable {Possible : BrokerEvent → Prop} {broker : PolymarketBroker}
  {authority : SubmissionAuthority} {moment later : Moment} {intent : LiveIntent}
  {accountId armTooShort unleased : String} {log : List BrokerEvent} {book : TimedBook}

theorem readAuthority_log
    (executes : GoesOn Possible (broker.readAuthority accountId armTooShort unleased) log
      (authority, later)) :
    authority.ReadAtStart accountId log ∧ ∃ event ∈ log, Carries event later := by
  simp only [PolymarketBroker.readAuthority, goesOn_await_bind_iff, goesOn_endIf_bind_iff,
    goesOn_lift_bind_iff, goesOn_require_bind_iff, goesOn_pure_iff] at executes
  obtain ⟨unresolved, _, rfl, -, clear, ⟨control, moment⟩, _, rfl, -, armed, expiresAt, -, -, -, _, _,
    rfl, -, token, rfl, ⟨eligibility, read⟩, _, rfl, -, -, rfl, same⟩ := executes
  cases same
  obtain rfl : unresolved = false := Bool.eq_false_iff.mpr clear
  exact ⟨.intro _ ⟨not_not.mp armed, rfl⟩, ⟨.geoblockCheck, .ok (eligibility, read)⟩, by simp,
    .geoblock eligibility read⟩

/-! ### Commitments -/

theorem buyCommitment_ok {raw : RawMarket} {commitment : ℚ}
    (computed : broker.buyCommitment intent raw = .ok commitment) :
    ∃ market, raw.mapped = .ok market ∧
      commitment = maximumBuyCost broker.power intent.size intent.price (feesFor intent market) := by
  obtain ⟨-, rest⟩ := Checked.require_bind_ok_iff.mp computed
  obtain ⟨market, mapped, rest⟩ := Checked.bind_ok_iff.mp rest
  obtain ⟨-, rest⟩ := Checked.require_bind_ok_iff.mp rest
  obtain ⟨-, rest⟩ := Checked.require_bind_ok_iff.mp rest
  obtain ⟨-, rest⟩ := Checked.require_bind_ok_iff.mp rest
  cases rest
  exact ⟨market, mapped, rfl⟩

/-- What a commitment was recomputed from. The commitment of a SELL is positive. -/
structure CommitmentLog (broker : PolymarketBroker) (intent : LiveIntent) (moment later : Moment)
    (commitment : ℚ) (log : List BrokerEvent) : Prop where
  recomputed : RecomputedCost broker log intent commitment
  sell : intent.side = .sell → 0 < commitment
  carried : later = moment ∨ ∃ event ∈ log, Carries event later

theorem submissionCommitment_log {commitment : ℚ}
    (executes : Execution Possible (broker.submissionCommitment intent moment) log
      (.ok (commitment, later))) :
    CommitmentLog broker intent moment later commitment log := by
  unfold PolymarketBroker.submissionCommitment at executes
  split at executes
  · cases executes
  · rename_i bounds
    rw [not_or, not_not, not_le] at bounds
    obtain ⟨⟨price_pos, -⟩, size_pos⟩ := bounds
    cases side : intent.side with
    | sell =>
        rw [side] at executes
        obtain ⟨rfl, same⟩ := Execution.done_ok_iff.mp executes
        cases same
        exact ⟨fun buys => (nomatch side.symm.trans buys),
          fun _ => lt_max_of_lt_right (mul_pos size_pos price_pos), .inl rfl⟩
    | buy =>
        rw [side] at executes
        obtain ⟨_, _, ⟨raw, read⟩, rfl, asked, rest⟩ := Execution.bind_ok_iff.mp executes
        obtain ⟨rfl, -⟩ := Execution.ask_ok_iff.mp asked
        obtain ⟨_, _, _, rfl, lifted, last⟩ := Execution.bind_ok_iff.mp rest
        obtain ⟨rfl, computed⟩ := Execution.lift_ok_iff.mp lifted
        obtain ⟨rfl, same⟩ := Execution.done_ok_iff.mp last
        cases same
        obtain ⟨market, mapped, cost⟩ := buyCommitment_ok computed
        exact ⟨fun _ => ⟨raw, later, market, List.mem_cons_self, mapped, cost⟩,
          fun sells => (nomatch side.symm.trans sells), .inr ⟨_, List.mem_cons_self, .market _ raw later⟩⟩

/-- The commitments of several intents. -/
structure CommitmentsLog (broker : PolymarketBroker) (intents : List LiveIntent)
    (moment later : Moment) (commitments : List ℚ) (log : List BrokerEvent) : Prop where
  recomputed : List.Forall₂ (RecomputedCost broker log) intents commitments
  buys : buyTotal intents commitments ≤ commitments.sum
  carried : later = moment ∨ ∃ event ∈ log, Carries event later

theorem RecomputedCost.mono {commitment : ℚ} {more : List BrokerEvent}
    (recomputed : RecomputedCost broker log intent commitment) (extends' : log ⊆ more) :
    RecomputedCost broker more intent commitment := by
  intro buys
  obtain ⟨raw, moment, market, read, mapped, cost⟩ := recomputed buys
  exact ⟨raw, moment, market, extends' read, mapped, cost⟩

/-- The commitments of SELL intents are positive, so those of the BUY intents are together
at most all of them. -/
theorem submissionCommitments_log {intents : List LiveIntent} {commitments : List ℚ}
    (executes : Execution Possible (broker.submissionCommitments intents moment) log
      (.ok (commitments, later))) :
    CommitmentsLog broker intents moment later commitments log := by
  induction intents generalizing moment log commitments with
  | nil =>
      obtain ⟨rfl, same⟩ := Execution.done_ok_iff.mp executes
      cases same
      exact ⟨.nil, le_rfl, .inl rfl⟩
  | cons intent intents ih =>
      obtain ⟨front, _, ⟨commitment, middle⟩, rfl, one, rest⟩ := Execution.bind_ok_iff.mp executes
      obtain ⟨back, _, ⟨others, last⟩, rfl, several, done⟩ := Execution.bind_ok_iff.mp rest
      obtain ⟨rfl, same⟩ := Execution.done_ok_iff.mp done
      cases same
      have first := submissionCommitment_log one
      have second := ih several
      rw [List.append_nil]
      refine ⟨.cons (first.recomputed.mono (List.subset_append_left _ _))
        (second.recomputed.imp fun _ _ recomputed =>
          recomputed.mono (List.subset_append_right _ _)), ?_, ?_⟩
      · have counted : (if intent.side = .buy then commitment else 0) ≤ commitment := by
          split
          · exact le_rfl
          · rename_i other
            cases side : intent.side with
            | buy => exact absurd side other
            | sell => exact (first.sell side).le
        exact add_le_add counted second.buys
      · rcases second.carried with rfl | ⟨event, member, carries⟩
        · exact first.carried.imp_right fun ⟨event, member, carries⟩ =>
            ⟨event, List.mem_append_left _ member, carries⟩
        · exact .inr ⟨event, List.mem_append_right _ member, carries⟩

/-! ### Opening -/

theorem SubmissionAuthority.ReadAtStart.append (read : authority.ReadAtStart accountId log)
    (more : List BrokerEvent) : authority.ReadAtStart accountId (log ++ more) := by
  cases read with
  | intro rest controls => exact .intro (rest ++ more) controls

/-- The commitments fit the cap that was read last. -/
theorem withinCap_of_commitments {intents : List LiveIntent} {commitments : List ℚ}
    {front back : List BrokerEvent} {event : BrokerEvent} (member : event ∈ front)
    (carries : Carries event moment)
    (committed : CommitmentsLog broker intents moment later commitments log)
    (cap : commitments.sum ≤ later.orderCapUsd) :
    WithinCap broker intents (front ++ (log ++ back)) := by
  have inside : log ⊆ front ++ (log ++ back) := fun _ here =>
    List.mem_append_right _ (List.mem_append_left _ here)
  have recomputed : List.Forall₂ (RecomputedCost broker (front ++ (log ++ back))) intents commitments :=
    committed.recomputed.imp fun _ _ recomputed => recomputed.mono inside
  rcases committed.carried with rfl | ⟨event', member', carries'⟩
  · exact ⟨commitments, event, later, recomputed, List.mem_append_left _ member, carries,
      committed.buys.trans cap⟩
  · exact ⟨commitments, event', later, recomputed, inside member', carries',
      committed.buys.trans cap⟩

theorem openSubmission_log
    (executes : GoesOn Possible (broker.openSubmission moment intent book) log authority) :
    authority.ReadAtStart intent.accountId log ∧ WithinCap broker [intent] log := by
  rw [PolymarketBroker.openSubmission, goesOn_endWith_bind_iff] at executes
  obtain ⟨-, executes⟩ := executes
  rw [goesOn_bind_iff] at executes
  obtain ⟨start, _, ⟨read, first⟩, rfl, reads, executes⟩ := executes
  simp only [goesOn_orEnd_bind_iff, goesOn_endIf_bind_iff, goesOn_endWith_bind_iff] at executes
  obtain ⟨commits, _, ⟨commitment, second⟩, rfl, committed, cap, -, executes⟩ := executes
  rw [goesOn_bind_iff] at executes
  obtain ⟨funds, _, third, rfl, -, executes⟩ := executes
  rw [goesOn_endIf_bind_iff, goesOn_pure_iff] at executes
  obtain ⟨-, rfl, rfl⟩ := executes
  obtain ⟨opened, event, member, carries⟩ := readAuthority_log reads
  refine ⟨opened.append _, ?_⟩
  have several : CommitmentsLog broker [intent] first second [commitment] commits := by
    have whole : Execution Possible (broker.submissionCommitments [intent] first) (commits ++ [])
        (.ok ([commitment], second)) := committed.bind (.done ([commitment], second))
    rw [List.append_nil] at whole
    exact submissionCommitments_log whole
  exact withinCap_of_commitments member carries several (by simpa using cap)

theorem openBatch_log {items : List (LiveIntent × TimedBook)}
    (executes : GoesOn Possible (broker.openBatch moment items) log authority) :
    authority.ReadAtStart broker.accountId log ∧ WithinCap broker (items.map Prod.fst) log ∧
      broker.batchProblem moment items = none := by
  rw [PolymarketBroker.openBatch, goesOn_endWith_bind_iff] at executes
  obtain ⟨sound, executes⟩ := executes
  rw [goesOn_bind_iff] at executes
  obtain ⟨start, _, ⟨read, first⟩, rfl, reads, executes⟩ := executes
  simp only [goesOn_orEnd_bind_iff, goesOn_endIf_bind_iff] at executes
  obtain ⟨commits, _, ⟨commitments, second⟩, rfl, committed, -, cap, executes⟩ := executes
  rw [goesOn_bind_iff] at executes
  obtain ⟨funds, _, _, rfl, -, executes⟩ := executes
  rw [goesOn_pure_iff] at executes
  obtain ⟨rfl, rfl⟩ := executes
  obtain ⟨opened, event, member, carries⟩ := readAuthority_log reads
  exact ⟨opened.append _, withinCap_of_commitments member carries
    (submissionCommitments_log committed) (not_lt.mp cap), Option.map_eq_none_iff.mp sound⟩

/-! ### Signing, marking and checking -/

theorem signSubmission_log {signed : SignedOrder}
    (executes : GoesOn Possible (broker.signSubmission authority intent) log signed) :
    DurablySigned broker authority [intent] [signed] log := by
  simp only [PolymarketBroker.signSubmission, goesOn_orEnd_bind_iff, goesOn_pure_iff] at executes
  obtain ⟨_, _, order, rfl, created, _, _, _, rfl, persisted, rfl, rfl⟩ := executes
  obtain ⟨rfl, -⟩ := Execution.ask_ok_iff.mp created
  obtain ⟨rfl, -⟩ := Execution.ask_ok_iff.mp persisted
  exact .cons ⟨List.mem_cons_self, List.mem_cons_of_mem _ List.mem_cons_self⟩ .nil

theorem signOrders_log {intents : List LiveIntent} {signed : List SignedOrder}
    (executes : Execution Possible (signOrders authority intents) log (.ok signed)) :
    List.Forall₂ (fun intent order =>
      ⟨.createLimitOrder (intent.limitOrder true authority.expiration), .ok order⟩ ∈ log)
      intents signed := by
  induction intents generalizing log signed with
  | nil =>
      obtain ⟨rfl, rfl⟩ := Execution.done_ok_iff.mp executes
      exact .nil
  | cons intent intents ih =>
      obtain ⟨front, _, order, rfl, one, rest⟩ := Execution.bind_ok_iff.mp executes
      obtain ⟨back, _, orders, rfl, several, done⟩ := Execution.bind_ok_iff.mp rest
      obtain ⟨rfl, rfl⟩ := Execution.done_ok_iff.mp done
      obtain ⟨rfl, -⟩ := Execution.ask_ok_iff.mp one
      refine .cons List.mem_cons_self ((ih several).imp fun _ _ created => ?_)
      exact List.mem_append_right _ (List.mem_append_left _ created)

theorem prepareOrders_log {entries : List (LiveIntent × SignedOrder)}
    (executes : Execution Possible (broker.prepareOrders authority entries) log (.ok ())) :
    ∀ entry ∈ entries,
      ⟨.prepareSignedOrder (broker.prepared authority entry.1 entry.2), .ok ()⟩ ∈ log := by
  induction entries generalizing log with
  | nil => exact fun _ => nofun
  | cons entry entries ih =>
      obtain ⟨front, back, _, rfl, one, rest⟩ := Execution.bind_ok_iff.mp executes
      obtain ⟨rfl, -⟩ := Execution.ask_ok_iff.mp one
      intro entry' member
      rcases List.mem_cons.mp member with rfl | later
      · exact List.mem_cons_self
      · exact List.mem_append_right _ (ih rest entry' later)

theorem signBatch_log {intents : List LiveIntent} {signed : List SignedOrder}
    (maker : ∀ intent ∈ intents, intent.postOnly = true)
    (executes : GoesOn Possible (broker.signBatch authority intents) log signed) :
    DurablySigned broker authority intents signed log := by
  simp only [PolymarketBroker.signBatch, goesOn_orEnd_bind_iff, goesOn_pure_iff] at executes
  obtain ⟨front, _, orders, rfl, created, back, _, _, rfl, persisted, rfl, rfl⟩ := executes
  have signs := signOrders_log created
  have persists := prepareOrders_log persisted
  refine List.forall₂_iff_zip.mpr ⟨signs.length_eq, fun {intent order} member => ⟨?_, ?_⟩⟩
  · rw [maker intent (List.of_mem_zip member).1]
    exact List.mem_append_left _ ((List.forall₂_iff_zip.mp signs).2 member)
  · exact List.mem_append_right _ (List.mem_append_left _ (persists _ member))

theorem markOrders_log {intents : List LiveIntent}
    (executes : Execution Possible (markOrders authority intents) log (.ok ())) :
    MarkedSubmitting authority intents log := by
  induction intents generalizing log with
  | nil => exact fun _ => nofun
  | cons intent intents ih =>
      obtain ⟨front, back, _, rfl, one, rest⟩ := Execution.bind_ok_iff.mp executes
      obtain ⟨rfl, -⟩ := Execution.ask_ok_iff.mp one
      intro intent' member
      rcases List.mem_cons.mp member with rfl | later
      · exact List.mem_cons_self
      · exact List.mem_append_right _ (ih rest intent' later)

theorem checkAfterSigning_log {result : Unit}
    (executes : GoesOn Possible (PolymarketBroker.checkAfterSigning authority accountId) log result) :
    authority.Confirmed accountId log := by
  simp only [PolymarketBroker.checkAfterSigning, goesOn_await_bind_iff, goesOn_endIf_bind_iff,
    goesOn_endIf_iff] at executes
  obtain ⟨token, _, rfl, -, same, ⟨control, moment⟩, _, rfl, -, rfl, controls⟩ := executes
  obtain rfl := not_not.mp same
  exact .intro (not_not.mp controls)

theorem checkBeforePost_log {result : Unit}
    (executes : GoesOn Possible (PolymarketBroker.checkBeforePost authority accountId book) log result) :
    authority.Confirmed accountId log := by
  simp only [PolymarketBroker.checkBeforePost, goesOn_await_bind_iff, goesOn_endIf_bind_iff,
    goesOn_endIf_iff] at executes
  obtain ⟨token, _, rfl, -, ⟨control, moment⟩, _, rfl, -, same, controls, rfl, -⟩ := executes
  obtain rfl := not_not.mp same
  exact .intro (not_not.mp controls)

theorem batchGateIsCurrent_log {items : List (LiveIntent × TimedBook)}
    (executes : Execution Possible (broker.batchGateIsCurrent authority items) log (.ok true)) :
    authority.Confirmed broker.accountId log := by
  unfold PolymarketBroker.batchGateIsCurrent at executes
  split at executes
  · obtain ⟨-, same⟩ := Execution.done_ok_iff.mp executes
    cases same
  · obtain ⟨_, back, token, rfl, asked, rest⟩ := Execution.bind_ok_iff.mp executes
    obtain ⟨rfl, -⟩ := Execution.ask_ok_iff.mp asked
    dsimp only at rest
    by_cases same : token = some authority.fencingToken
    · rw [if_neg (not_not.mpr same)] at rest
      obtain ⟨_, _, ⟨control, moment⟩, rfl, read, done⟩ := Execution.bind_ok_iff.mp rest
      obtain ⟨rfl, -⟩ := Execution.ask_ok_iff.mp read
      obtain ⟨rfl, current⟩ := Execution.done_ok_iff.mp done
      subst same
      exact .intro (of_decide_eq_true current).1
    · rw [if_pos same] at rest
      obtain ⟨-, stopped⟩ := Execution.done_ok_iff.mp rest
      cases stopped

theorem checkBatch_log {items : List (LiveIntent × TimedBook)} {outdated : String} {result : Unit}
    (executes : GoesOn Possible (broker.checkBatch authority items outdated) log result) :
    authority.Confirmed broker.accountId log := by
  rw [PolymarketBroker.checkBatch, goesOn_bind_iff] at executes
  obtain ⟨_, _, current, rfl, checked, executes⟩ := executes
  rw [goesOn_endIf_iff] at executes
  obtain ⟨rfl, current'⟩ := executes
  obtain rfl : current = true := Bool.not_eq_false _ |>.mp current'
  rw [List.append_nil]
  exact batchGateIsCurrent_log (goesOn_within_iff.mp checked)

/-! ### Through the gate -/

theorem prepareSubmission_log {signed : SignedOrder}
    (executes : GoesOn Possible (broker.prepareSubmission moment intent book) log
      (authority, signed)) :
    ThroughGate broker authority intent.accountId [intent] [signed] log := by
  rw [PolymarketBroker.prepareSubmission, goesOn_bind_iff] at executes
  obtain ⟨start, _, authority', rfl, opened, executes⟩ := executes
  rw [goesOn_bind_iff] at executes
  obtain ⟨signing, _, signed', rfl, signs, executes⟩ := executes
  rw [goesOn_bind_iff] at executes
  obtain ⟨first, _, _, rfl, checked, executes⟩ := executes
  rw [goesOn_orEnd_bind_iff] at executes
  obtain ⟨marks, _, _, rfl, marked, executes⟩ := executes
  rw [goesOn_bind_iff] at executes
  obtain ⟨second, _, _, rfl, rechecked, executes⟩ := executes
  rw [goesOn_pure_iff] at executes
  obtain ⟨rfl, same⟩ := executes
  cases same
  rw [List.append_nil]
  obtain ⟨read, cap⟩ := openSubmission_log opened
  exact .intro (fun _ member => by rw [List.mem_singleton.mp member]) read cap
    (signSubmission_log signs) (checkAfterSigning_log checked) (markOrders_log marked)
    (checkBeforePost_log rechecked)

/-- The intents of a batch without a problem. -/
theorem batchProblem_none {items : List (LiveIntent × TimedBook)}
    (sound : broker.batchProblem moment items = none) :
    (∀ intent ∈ items.map Prod.fst, intent.accountId = broker.accountId) ∧
      ∀ intent ∈ items.map Prod.fst, intent.postOnly = true := by
  unfold PolymarketBroker.batchProblem at sound
  dsimp only at sound
  split at sound
  · cases sound
  · split at sound
    · cases sound
    · rename_i accounts
      split at sound
      · cases sound
      · split at sound
        · cases sound
        · rename_i maker
          exact ⟨not_not.mp accounts, not_not.mp maker⟩

theorem prepareBatch_log {items : List (LiveIntent × TimedBook)} {signed : List SignedOrder}
    (executes : GoesOn Possible (broker.prepareBatch moment items) log (authority, signed)) :
    ThroughGate broker authority broker.accountId (items.map Prod.fst) signed log := by
  rw [PolymarketBroker.prepareBatch, goesOn_bind_iff] at executes
  obtain ⟨start, _, authority', rfl, opened, executes⟩ := executes
  rw [goesOn_bind_iff] at executes
  obtain ⟨signing, _, signed', rfl, signs, executes⟩ := executes
  rw [goesOn_bind_iff] at executes
  obtain ⟨first, _, _, rfl, checked, executes⟩ := executes
  rw [goesOn_orEnd_bind_iff] at executes
  obtain ⟨marks, _, _, rfl, marked, executes⟩ := executes
  rw [goesOn_bind_iff] at executes
  obtain ⟨second, _, _, rfl, rechecked, executes⟩ := executes
  rw [goesOn_pure_iff] at executes
  obtain ⟨rfl, same⟩ := executes
  cases same
  rw [List.append_nil]
  obtain ⟨read, cap, sound⟩ := openBatch_log opened
  obtain ⟨accounts, maker⟩ := batchProblem_none sound
  exact .intro accounts read cap (signBatch_log maker signs) (checkBatch_log checked)
    (markOrders_log marked) (checkBatch_log rechecked)

end Reads

/-! ### Requests without a post -/

/-- The request posts nothing. -/
def BrokerRequest.Silent : BrokerRequest → Prop
  | postOrder _ => False
  | postOrders _ => False
  | _ => True

/-- A program that posts nothing. -/
abbrev Quiet {α : Type} (program : BrokerProgram α) : Prop :=
  Program.Uses (fun _ => True) BrokerRequest.Silent program fun _ => True

theorem quiet_ask {request : BrokerRequest} (silent : request.Silent) :
    Quiet (askBroker request) :=
  .ask silent fun _ _ => trivial

theorem quiet_bind {α β : Type} {program : BrokerProgram α} {next : α → BrokerProgram β}
    (first : Quiet program) (rest : ∀ value, Quiet (next value)) : Quiet (program >>= next) :=
  first.bind fun value _ => rest value

section Quiet

variable (broker : PolymarketBroker) (authority : SubmissionAuthority) (moment : Moment)
  (intent : LiveIntent) (book : TimedBook) (items : List (LiveIntent × TimedBook))

theorem quiet_readAuthority (accountId armTooShort unleased : String) :
    Only BrokerRequest.Silent (broker.readAuthority accountId armTooShort unleased) :=
  only_bind (only_await trivial) fun _ => only_bind only_endIf fun _ =>
    only_bind (only_await trivial) fun _ => only_bind only_endIf fun _ =>
      only_bind (only_within (.lift fun _ _ => trivial)) fun _ => only_bind only_endIf fun _ =>
        only_bind only_endIf fun _ => only_bind (only_await trivial) fun _ =>
          only_bind only_require fun _ => only_bind (only_await trivial) fun _ =>
            only_bind only_endIf fun _ => only_pure _

theorem quiet_submissionCommitment : Quiet (broker.submissionCommitment intent moment) := by
  unfold PolymarketBroker.submissionCommitment
  split
  · trivial
  · cases intent.side with
    | sell => trivial
    | buy =>
        exact quiet_bind (quiet_ask trivial) fun _ =>
          quiet_bind (.lift fun _ _ => trivial) fun _ => trivial

theorem quiet_submissionCommitments (intents : List LiveIntent) :
    Quiet (broker.submissionCommitments intents moment) := by
  induction intents generalizing moment with
  | nil => trivial
  | cons intent intents ih =>
      exact quiet_bind (quiet_submissionCommitment broker moment intent) fun _ =>
        quiet_bind (ih _) fun _ => trivial

theorem quiet_checkFunds (asset : AssetType × Option String) (amount : ℚ)
    (poorBalance poorAllowance : String) :
    Only BrokerRequest.Silent (checkFunds asset amount poorBalance poorAllowance) :=
  only_bind (only_await trivial) fun _ => only_bind only_endIf fun _ =>
    only_bind only_endIf fun _ => only_pure _

theorem quiet_checkBatchFunds (required : List ((AssetType × Option String) × ℚ)) :
    Only BrokerRequest.Silent (checkBatchFunds required) := by
  induction required with
  | nil => trivial
  | cons entry required ih => exact only_bind (quiet_checkFunds _ _ _ _) fun _ => ih

theorem quiet_signOrders (intents : List LiveIntent) : Quiet (signOrders authority intents) := by
  induction intents with
  | nil => trivial
  | cons intent intents ih =>
      exact quiet_bind (quiet_ask trivial) fun _ => quiet_bind ih fun _ => trivial

theorem quiet_prepareOrders (entries : List (LiveIntent × SignedOrder)) :
    Quiet (broker.prepareOrders authority entries) := by
  induction entries with
  | nil => trivial
  | cons entry entries ih => exact quiet_bind (quiet_ask trivial) fun _ => ih

theorem quiet_markOrders (intents : List LiveIntent) : Quiet (markOrders authority intents) := by
  induction intents with
  | nil => trivial
  | cons intent intents ih => exact quiet_bind (quiet_ask trivial) fun _ => ih

theorem quiet_batchGateIsCurrent : Quiet (broker.batchGateIsCurrent authority items) := by
  unfold PolymarketBroker.batchGateIsCurrent
  split
  · trivial
  · refine quiet_bind (quiet_ask trivial) fun token => ?_
    dsimp only
    split
    · trivial
    · exact quiet_bind (quiet_ask trivial) fun _ => trivial

theorem quiet_prepareSubmission :
    Only BrokerRequest.Silent (broker.prepareSubmission moment intent book) := by
  refine only_bind ?_ fun authority => only_bind ?_ fun signed => only_bind ?_ fun _ =>
    only_bind (only_orEnd (quiet_markOrders authority _)) fun _ => only_bind ?_ fun _ => only_pure _
  · exact only_bind only_endWith fun _ => only_bind (quiet_readAuthority _ _ _ _) fun _ =>
      only_bind (only_orEnd (quiet_submissionCommitment _ _ _)) fun _ => only_bind only_endIf fun _ =>
        only_bind only_endWith fun _ => only_bind (quiet_checkFunds _ _ _ _) fun _ =>
          only_bind only_endIf fun _ => only_pure _
  · exact only_bind (only_orEnd (quiet_ask trivial)) fun _ =>
      only_bind (only_orEnd (quiet_ask trivial)) fun _ => only_pure _
  · exact only_bind (only_await trivial) fun _ => only_bind only_endIf fun _ =>
      only_bind (only_await trivial) fun _ => only_endIf
  · exact only_bind (only_await trivial) fun _ => only_bind (only_await trivial) fun _ =>
      only_bind only_endIf fun _ => only_bind only_endIf fun _ => only_endIf

theorem quiet_checkBatch (outdated : String) :
    Only BrokerRequest.Silent (broker.checkBatch authority items outdated) :=
  only_bind (only_within (quiet_batchGateIsCurrent broker authority items)) fun _ => only_endIf

theorem quiet_prepareBatch : Only BrokerRequest.Silent (broker.prepareBatch moment items) := by
  refine only_bind ?_ fun authority => only_bind ?_ fun signed =>
    only_bind (quiet_checkBatch _ _ _ _) fun _ =>
      only_bind (only_orEnd (quiet_markOrders authority _)) fun _ =>
        only_bind (quiet_checkBatch _ _ _ _) fun _ => only_pure _
  · exact only_bind only_endWith fun _ => only_bind (quiet_readAuthority _ _ _ _) fun _ =>
      only_bind (only_orEnd (quiet_submissionCommitments _ _ _)) fun _ => only_bind only_endIf fun _ =>
        only_bind only_endIf fun _ => only_bind (quiet_checkBatchFunds _) fun _ => only_pure _
  · exact only_bind (only_orEnd (quiet_signOrders _ _)) fun _ =>
      only_bind (only_orEnd (quiet_prepareOrders _ _ _)) fun _ => only_pure _

end Quiet

end Polybot
