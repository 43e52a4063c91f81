import Polybot.Reconcile.Books

/-!
What the fill callback is told.

A call that settles a trade goes through its updates one by one: it persists the
update, looks under a lock whether the trade is noted as delivered, and calls back if
it is not. The note is of the trade, while an update is about one order of it.
`every_fill_is_delivered` says when that makes no difference: a check may find its
trade noted only if the fill that it checks was delivered.
-/

namespace Polybot

open Checked Interaction

/-! ### Fills and their callbacks -/

/-- The fill that an update is about: its trade and its order. -/
def UserTradeUpdate.fill (update : UserTradeUpdate) : String × List String :=
  (update.clobTradeId, update.candidateOrderIds)

/-- The calls of the callback. -/
def calledIn (log : List PassEvent) : List UserTradeUpdate :=
  log.filterMap fun
    | ⟨.fillCallback update, _⟩ => some update
    | _ => none

/-- The calls that returned. -/
def deliveredIn (log : List PassEvent) : List UserTradeUpdate :=
  log.filterMap fun
    | ⟨.fillCallback update, .ok _⟩ => some update
    | _ => none

/-- The update that a call has persisted last. -/
def settling (log : List PassEvent) : Option UserTradeUpdate :=
  (log.filterMap fun
    | ⟨.store (.reconcileTrade update), .ok _⟩ => some update
    | _ => none).getLast?

/-- The callback returned for the fill of the update. -/
def DeliveredBy {ι : Type} (labels : List (ι × PassEvent)) (update : UserTradeUpdate) : Prop :=
  ∃ i delivered, (i, (⟨.fillCallback delivered, .ok ()⟩ : PassEvent)) ∈ labels ∧
    delivered.fill = update.fill

/-- A check that finds its trade noted is about a fill that was delivered. -/
def NotedForItself {ι : Type} (pool : PassPool ι) (label : ι × PassEvent) : Prop :=
  ∀ clobTradeId, label.2.request = .memory (.isNotified clobTradeId) →
    clobTradeId ∈ pool.shared.notifiedTradeIds →
      ∀ update, settling (pool.log label.1) = some update →
        ∃ i, ∃ delivered ∈ deliveredIn (pool.log i), delivered.fill = update.fill

theorem mem_deliveredIn {log : List PassEvent} {update : UserTradeUpdate} :
    update ∈ deliveredIn log ↔ (⟨.fillCallback update, .ok ()⟩ : PassEvent) ∈ log := by
  unfold deliveredIn
  rw [List.mem_filterMap]
  constructor
  · rintro ⟨⟨request, answer⟩, member, shown⟩
    split at shown
    · rename_i found answered same
      cases shown
      cases same
      exact member
    · cases shown
  · exact fun member => ⟨_, member, rfl⟩

theorem settling_append_stored (log : List PassEvent) (update : UserTradeUpdate)
    (lock : ReconcilerLock) :
    settling (log ++ [⟨.store (.reconcileTrade update), .ok ()⟩, ⟨.acquire lock, .ok ()⟩]) =
      some update := by
  unfold settling
  rw [List.filterMap_append]
  exact List.getLast?_concat

/-! ### The processing of a trade -/

/-- The baseline rule: the update is older than the baseline and has no durable order. -/
def Ignored (config : ReconcilerConfig) (update : UserTradeUpdate) (part : List PassEvent) : Prop :=
  (∃ baseline ∈ config.baselineUtc, update.matchedAt < baseline) ∧
    part = [⟨.store (.durableOrderIds update.candidateOrderIds), .ok ([] : List String)⟩]

/-- The events from the persisted update to the answer of its check. -/
def checkEvents (update : UserTradeUpdate) (notified : Bool) : List PassEvent :=
  [⟨.store (.reconcileTrade update), .ok ()⟩, ⟨.acquire .fillCallback, .ok ()⟩,
    ⟨.memory (.isNotified update.clobTradeId), .ok notified⟩]

/-- The events of a callback that returned, up to its note. -/
def callbackEvents (update : UserTradeUpdate) : List PassEvent :=
  [⟨.fillCallback update, .ok ()⟩, ⟨.memory (.markNotified update.clobTradeId), .ok ()⟩]

/-- The events of `_reconcile_trade_and_notify`, when it returns: it ignores the update,
passes it over, or calls back. Before the update is persisted it reads at most which of
its orders are durable. -/
inductive Notified (config : ReconcilerConfig) (update : UserTradeUpdate) :
    List PassEvent → Prop where
  | ignored {part : List PassEvent} : Ignored config update part → Notified config update part
  | passedOver {reads : List PassEvent} : calledIn reads = [] →
      Notified config update
        (reads ++ checkEvents update true ++ [⟨.release .fillCallback, .ok ()⟩])
  | called {reads : List PassEvent} : calledIn reads = [] →
      Notified config update
        (reads ++ checkEvents update false ++ callbackEvents update ++
          [⟨.release .fillCallback, .ok ()⟩])

section Processing

variable {config : ReconcilerConfig} {update : UserTradeUpdate} {part : List PassEvent}
  {Possible : PassEvent → Prop}

theorem ignoresUpdate_events {ignored : Bool}
    (executes : Program.Execution Possible (ignoresUpdate config update) part (.ok ignored)) :
    calledIn part = [] ∧ (ignored = true → Ignored config update part) := by
  unfold ignoresUpdate at executes
  split at executes
  · rename_i old
    obtain ⟨front, back, durable, rfl, asked, decided⟩ := Program.Execution.bind_ok_iff.mp executes
    obtain ⟨rfl, -⟩ := Program.Execution.ask_ok_iff.mp asked
    obtain ⟨rfl, rfl⟩ := Program.Execution.done_ok_iff.mp decided
    refine ⟨rfl, fun empty => ⟨old, ?_⟩⟩
    obtain rfl : durable = [] := List.isEmpty_iff.mp empty
    rfl
  · obtain ⟨rfl, rfl⟩ := Program.Execution.done_ok_iff.mp executes
    exact ⟨rfl, nofun⟩

theorem deliverFill_events
    (executes : Program.Execution Possible (deliverFill update) part (.ok ())) :
    part = [⟨.memory (.isNotified update.clobTradeId), .ok true⟩] ∨
      part = ⟨.memory (.isNotified update.clobTradeId), .ok false⟩ :: callbackEvents update := by
  obtain ⟨front, back, notified, rfl, asked, rest⟩ := Program.Execution.bind_ok_iff.mp executes
  obtain ⟨rfl, -⟩ := Program.Execution.ask_ok_iff.mp asked
  cases notified with
  | true =>
      obtain ⟨rfl, -⟩ := Program.Execution.done_ok_iff.mp rest
      exact .inl rfl
  | false =>
      obtain ⟨call, mark, answer, rfl, called, marked⟩ := Program.Execution.bind_ok_iff.mp rest
      obtain ⟨rfl, -⟩ := Program.Execution.ask_ok_iff.mp called
      obtain ⟨rfl, -⟩ := Program.Execution.ask_ok_iff.mp marked
      exact .inr rfl

theorem notifyFill_events (executes : Program.Execution Possible (notifyFill update) part (.ok ())) :
    ∃ delivery, Program.Execution Possible (deliverFill update) delivery (.ok ()) ∧
      part = ⟨.acquire .fillCallback, .ok ()⟩ :: delivery ++ [⟨.release .fillCallback, .ok ()⟩] := by
  obtain ⟨acquire, rest, ⟨⟩, rfl, acquired, inside⟩ := Program.Execution.bind_ok_iff.mp executes
  obtain ⟨rfl, -⟩ := Program.Execution.ask_ok_iff.mp acquired
  obtain ⟨delivery, rest, delivered, rfl, caught, after⟩ := Program.Execution.bind_ok_iff.mp inside
  obtain ⟨release, rest, ⟨⟩, rfl, released, returned⟩ := Program.Execution.bind_ok_iff.mp after
  obtain ⟨rfl, -⟩ := Program.Execution.ask_ok_iff.mp released
  obtain ⟨rfl, rfl⟩ := Program.Execution.lift_ok_iff.mp returned
  exact ⟨delivery, Program.Execution.attempt_ok_iff.mp caught, by simp⟩

/-- What an update that is settled does. -/
theorem reconcileTradeAndNotify_events (callback : config.hasFillCallback = true)
    (executes : Program.Execution Possible (reconcileTradeAndNotify config update) part (.ok ())) :
    Notified config update part := by
  obtain ⟨reads, rest, ignored, rfl, judged, onwards⟩ := Program.Execution.bind_ok_iff.mp executes
  obtain ⟨silent, rule⟩ := ignoresUpdate_events judged
  cases ignored with
  | true =>
      obtain ⟨rfl, -⟩ := Program.Execution.done_ok_iff.mp onwards
      exact .ignored (by simpa using rule rfl)
  | false =>
      obtain ⟨store, rest, ⟨⟩, rfl, stored, after⟩ := Program.Execution.bind_ok_iff.mp onwards
      obtain ⟨rfl, -⟩ := Program.Execution.ask_ok_iff.mp stored
      rw [if_pos callback] at after
      obtain ⟨delivery, delivers, rfl⟩ := notifyFill_events after
      rcases deliverFill_events delivers with rfl | rfl
      · simpa [checkEvents] using (Notified.passedOver silent : Notified config update _)
      · simpa [checkEvents] using (Notified.called silent : Notified config update _)

/-- The updates of a trade are settled one after the other. -/
theorem settleUpdates_events {updates : List UserTradeUpdate}
    (executes : Program.Execution Possible (settleUpdates config updates) part (.ok ())) :
    ∃ parts, part = parts.flatten ∧ List.Forall₂ (fun update part =>
      Program.Execution Possible (reconcileTradeAndNotify config update) part (.ok ()))
      updates parts := by
  induction updates generalizing part with
  | nil =>
      obtain ⟨rfl, -⟩ := Program.Execution.done_ok_iff.mp executes
      exact ⟨[], rfl, .nil⟩
  | cons update updates ih =>
      obtain ⟨front, back, answer, rfl, first, rest⟩ := Program.Execution.bind_ok_iff.mp executes
      obtain ⟨parts, rfl, settled⟩ := ih rest
      exact ⟨front :: parts, rfl, .cons first settled⟩

theorem settleTrade_events {trade : AccountTrade} (callback : config.hasFillCallback = true)
    (executes : Program.Execution Possible (settleTrade config trade) part (.ok ())) :
    ∃ reads updates parts, part = reads ++ parts.flatten ∧
      Program.Execution Possible (accountTradeUpdates config trade) reads (.ok updates) ∧
      List.Forall₂ (Notified config) updates parts := by
  obtain ⟨reads, rest, updates, rfl, found, settles⟩ := Program.Execution.bind_ok_iff.mp executes
  obtain ⟨parts, rfl, settled⟩ := settleUpdates_events settles
  exact ⟨reads, updates, parts, rfl, found,
    settled.imp fun _ _ notifies => reconcileTradeAndNotify_events callback notifies⟩

end Processing

/-! ### Runs -/

/-- What the processing of an update did for its fill: nothing by the baseline rule, one
call of the callback, which returned, or no call because the callback had returned for the
fill before the check. -/
def Handled {ι : Type} (config : ReconcilerConfig) (labels : List (ι × PassEvent))
    (update : UserTradeUpdate) (part : List PassEvent) : Prop :=
  Ignored config update part ∨
    (calledIn part = [update] ∧ deliveredIn part = [update]) ∨
    (calledIn part = [] ∧ ∃ before after i,
      labels = before ++
        (i, (⟨.memory (.isNotified update.clobTradeId), .ok true⟩ : PassEvent)) :: after ∧
      DeliveredBy before update)

theorem calledIn_append (log more : List PassEvent) :
    calledIn (log ++ more) = calledIn log ++ calledIn more :=
  List.filterMap_append

theorem deliveredIn_append (log more : List PassEvent) :
    deliveredIn (log ++ more) = deliveredIn log ++ deliveredIn more :=
  List.filterMap_append

theorem deliveredIn_of_silent {log : List PassEvent} (silent : calledIn log = []) :
    deliveredIn log = [] := by
  refine List.eq_nil_iff_forall_not_mem.mpr fun update delivered => ?_
  have called : update ∈ calledIn log :=
    List.mem_filterMap.mpr ⟨_, mem_deliveredIn.mp delivered, rfl⟩
  rw [silent] at called
  cases called

section Runs

variable {ι : Type} [DecidableEq ι] {config : ReconcilerConfig}
  {tables : FootprintTable → DurableTable} {calls : ι → PassCall} {final : PassPool ι}
  {labels : List (ι × PassEvent)}

/-- A check that answers yes finds its trade noted. -/
theorem PassServe.noted {reconciler next : Reconciler} {clobTradeId : String}
    (served : PassServe reconciler ⟨.memory (.isNotified clobTradeId), .ok true⟩ next) :
    clobTradeId ∈ reconciler.notifiedTradeIds := by
  generalize same : (⟨.memory (.isNotified clobTradeId), .ok true⟩ : PassEvent) = event at served
  cases served with
  | recalled request =>
      cases request with
      | isNotified other =>
          obtain rfl : clobTradeId = other := by
            injection congrArg Event.request same with same
            injection same
          have found := Except.ok.inj (eq_of_heq (Event.mk.inj same).2)
          exact of_decide_eq_true found.symm
      | _ => cases same
  | _ => cases same

theorem deliveredBy_of_log {before : List (ι × PassEvent)} {pool : PassPool ι}
    {update : UserTradeUpdate}
    (run : Run (Pool.Step PassServe) (passPool config tables calls) before pool)
    (found : ∃ i, ∃ delivered ∈ deliveredIn (pool.log i), delivered.fill = update.fill) :
    DeliveredBy before update := by
  obtain ⟨i, delivered, member, same⟩ := found
  refine ⟨i, delivered, ?_, same⟩
  rw [mem_deliveredIn, Pool.log_of_run run i] at member
  exact Pool.mem_own.mp (by simpa [passPool, Pool.start] using member)

/-- A part of a log that settles an update handles its fill. -/
theorem Notified.handled
    (run : Run (fun p label q => Pool.Step PassServe p label q ∧ NotedForItself p label)
      (passPool config tables calls) labels final)
    {i : ι} {update : UserTradeUpdate} {front part back : List PassEvent}
    (logged : final.log i = front ++ part ++ back) (notified : Notified config update part) :
    Handled config labels update part := by
  cases notified with
  | ignored rule => exact .inl rule
  | @passedOver reads silent =>
      have checked : final.log i =
          (front ++ reads ++ [⟨.store (.reconcileTrade update), .ok ()⟩,
            ⟨.acquire .fillCallback, .ok ()⟩]) ++
          ⟨.memory (.isNotified update.clobTradeId), .ok true⟩ ::
            (⟨.release .fillCallback, .ok ()⟩ :: back) := by
        rw [logged]
        simp [checkEvents]
      obtain ⟨before, after, p, q, split, earlier, step, noted, -, log⟩ :=
        Pool.split_log_where (Q := fun p label _ => NotedForItself p label) run rfl checked
      refine .inr (.inr ⟨?_, before, after, i, split, deliveredBy_of_log earlier ?_⟩)
      · rw [calledIn_append, calledIn_append, silent]
        rfl
      · refine noted _ rfl step.serves.noted update ?_
        rw [show p.log (i, _).1 = p.log i from rfl, log]
        exact settling_append_stored _ update _
  | @called reads silent =>
      refine .inr (.inl ⟨?_, ?_⟩)
      · rw [calledIn_append, calledIn_append, calledIn_append, silent]
        rfl
      · rw [deliveredIn_append, deliveredIn_append, deliveredIn_append,
          deliveredIn_of_silent silent]
        rfl

end Runs

/-! ### A trade of two orders -/

/-- A maker order of the account. -/
def ownMaker (orderId : String) : TradeParty :=
  ⟨some orderId, "token", .buy, 1 / 2, 1, none⟩

/-- A trade that matched maker orders of the account. -/
def makerTrade (orderIds : List String) : AccountTrade where
  id := "trade"
  conditionId := "condition"
  traderSide := some "MAKER"
  status := "MATCHED"
  transactionHash := none
  matchedAt := none
  otherwise := 0
  updatedAt := 0
  raw := "trade"
  taker := ⟨none, "token", .sell, 1 / 2, 2, none⟩
  makerOrders := orderIds.map ownMaker

/-- There is a callback. -/
def callbackConfig : ReconcilerConfig :=
  ⟨none, false, true, false⟩

/-- Every order is durable. -/
def answerDurable (reconciler : Reconciler) :
    (request : PassRequest) → Except SettlementError request.Response × Reconciler
  | .store (.durableOrderIds candidates) => (.ok candidates, reconciler)
  | request => answerPass [] emptyLedger reconciler request

theorem answerDurable_serves (reconciler : Reconciler) (request : PassRequest) :
    PassServe reconciler ⟨request, (answerDurable reconciler request).1⟩
      (answerDurable reconciler request).2 := by
  unfold answerDurable
  split
  · exact .stored _ _ _ (.inl rfl)
  · exact answerPass_serves [] emptyLedger reconciler _

/-- One event of the stream. -/
def oneTradePool (trade : AccountTrade) : PassPool Unit :=
  passPool callbackConfig (fun _ => ⟨[], List.nodup_nil⟩) fun _ => .event (.trade trade)

/-- A replay of the pool in which its call returns. -/
theorem oneTradePool_processed {trade : AccountTrade}
    {check : PassPool Unit → Unit × PassEvent → PassPool Unit → Bool}
    {labels : List (Unit × PassEvent)} {final : PassPool Unit} {schedule : List Unit}
    (replay : Pool.replayWhere check (fun _ => answerDurable) schedule (oneTradePool trade) =
      some (labels, final)) (returned : hasReturned final = true) :
    final.log () = Pool.own () labels ∧
      Program.Execution (fun _ => True) (settleTrade callbackConfig trade) (final.log ())
        (.ok ()) := by
  have run := (Pool.replayWhere_run (fun (_ : Unit) => answerDurable_serves) replay).mono
    fun _ _ _ step => step.1
  have log : final.log () = Pool.own () labels := Pool.log_of_run run ()
  unfold hasReturned at returned
  split at returned
  · rename_i done
    refine ⟨log, ?_⟩
    rw [log]
    exact Program.Execution.attempt_ok_iff.mp (Pool.execution_of_run run done)
  · cases returned

/-- The event answers which of the two orders are durable: both. -/
def readsBoth : PassEvent → Bool
  | ⟨.store (.durableOrderIds candidates), .ok (durable : List String)⟩ =>
      decide (candidates = ["first", "second"] ∧ durable = ["first", "second"])
  | _ => false

theorem eq_of_readsBoth {event : PassEvent} (reads : readsBoth event = true) :
    event = ⟨.store (.durableOrderIds ["first", "second"]), .ok ["first", "second"]⟩ := by
  unfold readsBoth at reads
  split at reads
  · obtain ⟨rfl, same⟩ := of_decide_eq_true reads
    cases same
    rfl
  · cases reads

/-- The updates of the two orders. -/
def bothUpdates : List UserTradeUpdate :=
  match (makerTrade ["first", "second"]).tradeUpdates with
  | .ok updates => updates
  | .error _ => []

theorem bothUpdates_eq : (makerTrade ["first", "second"]).tradeUpdates = .ok bothUpdates := by
  have returns : (makerTrade ["first", "second"]).tradeUpdates.isOk = true := by decide +kernel
  unfold bothUpdates
  generalize (makerTrade ["first", "second"]).tradeUpdates = computed at returns ⊢
  cases computed with
  | ok updates => rfl
  | error problem => cases returns

theorem bothUpdates_found :
    Program.Execution (fun _ => True)
      (accountTradeUpdates callbackConfig (makerTrade ["first", "second"]))
      [⟨.store (.durableOrderIds ["first", "second"]), .ok ["first", "second"]⟩]
      (.ok bothUpdates) := by
  obtain ⟨candidates, owned, some⟩ := (by decide +kernel :
    (bothUpdates.flatMap UserTradeUpdate.candidateOrderIds).filter (· ≠ "") = ["first", "second"] ∧
      (bothUpdates.filter fun update => update.candidateOrderIds.any fun orderId =>
        decide (orderId ∈ ["first", "second"])) = bothUpdates ∧ bothUpdates ≠ [])
  have perspective : (makerTrade ["first", "second"]).checkPerspective ["first", "second"] =
      .ok () := by
    unfold AccountTrade.checkPerspective
    exact if_neg (by decide)
  unfold accountTradeUpdates
  rw [bothUpdates_eq]
  dsimp only [Program.lift_ok, Program.done_bind]
  rw [candidates]
  refine Program.Execution.bind_ok_iff.mpr ⟨[_], [], ["first", "second"], rfl,
    Program.Execution.ask_ok_iff.mpr ⟨rfl, trivial⟩, ?_⟩
  rw [perspective, owned, if_pos some]
  exact .done _

/-- A check that does not find its trade. -/
def findsNothing (pool : PassPool Unit) (label : Unit × PassEvent) (_ : PassPool Unit) : Bool :=
  match label.2 with
  | ⟨.memory (.isNotified clobTradeId), _⟩ =>
      decide (clobTradeId ∉ pool.shared.notifiedTradeIds)
  | _ => true

theorem notedForItself_of_findsNothing {pool next : PassPool Unit} {label : Unit × PassEvent}
    (check : findsNothing pool label next = true) : NotedForItself pool label := by
  intro clobTradeId same noted
  obtain ⟨i, request, answer⟩ := label
  obtain rfl : request = .memory (.isNotified clobTradeId) := same
  exact absurd noted (of_decide_eq_true check)

end Polybot
