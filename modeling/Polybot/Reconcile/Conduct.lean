import Polybot.Reconcile.Pass

/-!
What the calls of the reconciler do between their requests.

A call caches the footprint that it has read, quarantines the tokens that it has judged
foreign by one, and lists trades and activities from the cursors. `Settles` collects this
for the parts of a call that leave the books and the cursors alone, and `Plain` are the
parts of which there is nothing to say.
-/

namespace Polybot

open Checked Interaction

/-! ### Footprints -/

/-- The footprints by which a call can judge: what the memory answered and what it read. -/
def footprintsOf (log : List PassEvent) : List Footprint :=
  log.filterMap fun
    | ⟨.memory .cachedTokens, .ok (some footprint)⟩ => some footprint
    | ⟨.memory (.cacheTokens footprint), _⟩ => some footprint
    | _ => none

/-- The token is in no row of some footprint of the call. -/
def JudgedForeign (log : List PassEvent) (tokenId : String) : Prop :=
  ∃ footprint ∈ footprintsOf log, tokenId ∉ footprint.tokens

/-- What a table answered to a call. -/
def tableReads (table : FootprintTable) (log : List PassEvent) : List (List DurableRow) :=
  log.filterMap fun
    | ⟨.durableRows other _, .ok rows⟩ => if other = table then some rows else none
    | _ => none

/-- The footprint was read by the call, each table to its end. -/
def Footprint.ReadBy (footprint : Footprint) (log : List PassEvent) : Prop :=
  ∀ table, (footprint.reads table).Sublist (tableReads table log) ∧
    Paging.EndsShort pageSize 0 (footprint.reads table)

@[simp] theorem footprintsOf_append (log more : List PassEvent) :
    footprintsOf (log ++ more) = footprintsOf log ++ footprintsOf more :=
  List.filterMap_append

@[simp] theorem tableReads_append (table : FootprintTable) (log more : List PassEvent) :
    tableReads table (log ++ more) = tableReads table log ++ tableReads table more :=
  List.filterMap_append

theorem JudgedForeign.mono {log later : List PassEvent} {tokenId : String}
    (judged : JudgedForeign log tokenId) (longer : log <+: later) : JudgedForeign later tokenId := by
  obtain ⟨footprint, member, foreign⟩ := judged
  obtain ⟨more, rfl⟩ := longer
  exact ⟨footprint, by simp [member], foreign⟩

theorem tableReads_sublist {log later : List PassEvent} (table : FootprintTable)
    (longer : log <+: later) : (tableReads table log).Sublist (tableReads table later) := by
  obtain ⟨more, rfl⟩ := longer
  rw [tableReads_append]
  exact List.sublist_append_left _ _

/-! ### What a call does -/

/-- Sets were gone through completely. -/
def Iterates (log : List PassEvent) : Prop :=
  ∀ values order, (⟨.iterate values, .ok order⟩ : PassEvent) ∈ log → order.Perm values

theorem Iterates.earlier {log later : List PassEvent} (iterates : Iterates later)
    (longer : log <+: later) : Iterates log :=
  fun values order member => iterates values order (longer.subset member)

/-- The cursor of the trades, or of the activities, was read. -/
def ReadsTradeAfter (log : List PassEvent) (tradeAfter : Int) : Prop :=
  (⟨.memory .tradeAfter, .ok tradeAfter⟩ : PassEvent) ∈ log

def ReadsActivityStart (log : List PassEvent) (activityStart : Int) : Prop :=
  (⟨.memory .activityStart, .ok activityStart⟩ : PassEvent) ∈ log

/-- A call caches what it has read, quarantines what it has judged foreign, and lists from
the cursors that it has read, trades also from the start. -/
structure PassObeys (log : List PassEvent) (event : PassEvent) : Prop where
  quarantines : ∀ tokenId conditionId,
    event.request = .memory (.quarantineToken tokenId conditionId) →
      Iterates log → tokenId = "" ∨ JudgedForeign log tokenId
  caches : ∀ footprint, event.request = .memory (.cacheTokens footprint) → footprint.ReadBy log
  trades : ∀ after, event.request = .exchange (.nextTrade after) →
    after = 0 ∨ ReadsTradeAfter log after
  activities : ∀ start, event.request = .exchange (.nextActivity start) →
    ReadsActivityStart log start

/-- What a request is about. -/
inductive PassDuty where
  | plain
  | tokens
  | listing
  | books
  | cursors
  deriving DecidableEq

def PassRequest.duty : PassRequest → PassDuty
  | .memory (.cacheTokens _) => .tokens
  | .memory (.quarantineToken _ _) => .tokens
  | .memory (.advanceCursors _) => .cursors
  | .exchange (.nextTrade _) => .listing
  | .exchange (.nextActivity _) => .listing
  | .exchange .listPositions => .books
  | .store (.fillLedgerSnapshot _) => .books
  | .store (.reconcilePositions _) => .books
  | _ => .plain

/-- An event of a part of a call that leaves the books and the cursors alone. -/
structure Settles (log : List PassEvent) (event : PassEvent) : Prop where
  obeys : PassObeys log event
  leaves : event.request.duty ≠ .books
  keeps : event.request.duty ≠ .cursors

/-- A request that is neither about tokens nor a listing. -/
theorem passObeys_of_duty {log : List PassEvent} {event : PassEvent}
    (tokens : event.request.duty ≠ .tokens) (listing : event.request.duty ≠ .listing) :
    PassObeys log event where
  quarantines tokenId conditionId same := absurd (by rw [same]; rfl) tokens
  caches footprint same := absurd (by rw [same]; rfl) tokens
  trades after same := absurd (by rw [same]; rfl) listing
  activities start same := absurd (by rw [same]; rfl) listing

theorem settles_of_plain {log : List PassEvent} {event : PassEvent}
    (plain : event.request.duty = .plain) : Settles log event where
  obeys := passObeys_of_duty (by rw [plain]; nofun) (by rw [plain]; nofun)
  leaves := by rw [plain]; nofun
  keeps := by rw [plain]; nofun

/-- All requests are plain. -/
abbrev Plain {α : Type} (program : PassProgram α) : Prop :=
  program.Uses (fun _ => True) (fun request => request.duty = .plain) fun _ => True

theorem plain_ask {request : PassRequest} (plain : request.duty = .plain) : Plain (askPass request) :=
  Program.Uses.ask plain fun _ _ => trivial

theorem plain_lift {α : Type} (computed : Except SettlementError α) :
    Plain (Program.lift computed : PassProgram α) :=
  Program.Uses.lift fun _ _ => trivial

theorem Plain.bind {α β : Type} {program : PassProgram α} {next : α → PassProgram β}
    (first : Plain program) (rest : ∀ value, Plain (next value)) : Plain (program >>= next) :=
  Program.Uses.bind first fun value _ => rest value

theorem Plain.settles {α : Type} {program : PassProgram α} {log : List PassEvent}
    (plain : Plain program) : program.Obeys Settles log fun _ after => log <+: after :=
  (plain.obeys_of fun _ _ => settles_of_plain).extends.mono fun _ _ both => both.1

/-! ### Footprints that are read -/

section Footprints

variable {log : List PassEvent}

theorem readDurableRows_obeys (table : FootprintTable) (remaining page : Nat) :
    (readDurableRows table remaining page).Obeys Settles log fun reads after =>
      Paging.EndsShort pageSize page reads ∧
        ∃ more, after = log ++ more ∧ reads.Sublist (tableReads table more) := by
  induction remaining generalizing page log with
  | zero => trivial
  | succ remaining ih =>
      refine fun answer => ⟨settles_of_plain rfl, ?_⟩
      rcases answer with problem | (rows : List DurableRow)
      · trivial
      have answered : tableReads table [⟨.durableRows table page, .ok rows⟩] = [rows] :=
        List.filterMap_cons_some (if_pos rfl)
      show (if _ then _ else _ : PassProgram _).Obeys _ _ _
      split
      · rename_i short
        exact ⟨⟨[], rows, rfl, short⟩, _, rfl, answered ▸ List.Sublist.refl _⟩
      · refine (ih (page + 1)).bind fun later after read => ?_
        obtain ⟨⟨before, last, split, short⟩, more, rfl, among⟩ := read
        refine ⟨⟨rows :: before, last, by rw [split]; rfl, ?_⟩, _, List.append_assoc _ _ _, ?_⟩
        · rwa [List.length_cons, Nat.add_comm before.length, ← Nat.add_assoc]
        · rw [tableReads_append, answered]
          exact among.cons_cons rows

/-- The reads of one table stay in the log. -/
theorem readDurableRows_reads (table : FootprintTable) :
    (readDurableRows table maxPages 0).Obeys Settles log fun reads after =>
      log <+: after ∧ reads.Sublist (tableReads table after) ∧ Paging.EndsShort pageSize 0 reads := by
  refine (readDurableRows_obeys table maxPages 0).mono fun reads after read => ?_
  obtain ⟨whole, more, rfl, among⟩ := read
  refine ⟨List.prefix_append _ _, ?_, whole⟩
  rw [tableReads_append]
  exact among.trans (List.sublist_append_right _ _)

theorem durableTokenIds_obeys :
    durableTokenIds.Obeys Settles log fun footprint after => footprint.ReadBy after := by
  refine (readDurableRows_reads .orderIntents).bind fun orderIntents log₁ first => ?_
  refine (readDurableRows_reads .orders).bind fun orders log₂ second => ?_
  refine (readDurableRows_reads .fills).bind fun fills log₃ third => ?_
  intro table
  cases table with
  | orderIntents =>
      exact ⟨first.2.1.trans (tableReads_sublist _ (second.1.trans third.1)), first.2.2⟩
  | orders => exact ⟨second.2.1.trans (tableReads_sublist _ third.1), second.2.2⟩
  | fills => exact third.2

theorem botTokens_obeys :
    botTokens.Obeys Settles log fun footprint after => footprint ∈ footprintsOf after := by
  refine fun answer => ⟨settles_of_plain rfl, ?_⟩
  cases answer with
  | error problem => trivial
  | ok cached =>
      cases cached with
      | some footprint =>
          show footprint ∈ footprintsOf _
          simp [footprintsOf]
      | none =>
          refine durableTokenIds_obeys.bind fun footprint after read answer => ?_
          refine ⟨⟨⟨fun _ _ => nofun, fun other same => ?_, fun _ => nofun, fun _ => nofun⟩, nofun,
            nofun⟩, ?_⟩
          · cases same
            exact read
          · cases answer with
            | error problem => trivial
            | ok done =>
                show footprint ∈ footprintsOf _
                simp [footprintsOf]

theorem isForeignToken_obeys (tokenId : String) :
    (isForeignToken tokenId).Obeys Settles log fun foreign after =>
      log <+: after ∧ (foreign = true → JudgedForeign after tokenId) := by
  refine botTokens_obeys.extends.bind fun footprint after both => ⟨both.1, fun foreign => ?_⟩
  exact ⟨footprint, both.2, of_decide_eq_true foreign⟩

theorem areForeignTokens_obeys (tokens : List String) :
    (areForeignTokens tokens).Obeys Settles log fun foreign after =>
      log <+: after ∧ (foreign = true → ∀ tokenId ∈ tokens, JudgedForeign after tokenId) := by
  induction tokens generalizing log with
  | nil => exact ⟨List.prefix_rfl, fun _ _ => nofun⟩
  | cons tokenId rest ih =>
      refine (isForeignToken_obeys tokenId).bind fun foreign after first => ?_
      obtain ⟨longer, judged⟩ := first
      split
      · rename_i is_foreign
        refine ih.mono fun later final rest => ⟨longer.trans rest.1, fun all => ?_⟩
        exact List.forall_mem_cons.mpr ⟨(judged is_foreign).mono rest.1, rest.2 all⟩
      · exact ⟨longer, nofun⟩

theorem foreignTokens_obeys (updates : List UserTradeUpdate) :
    (foreignTokens updates).Obeys Settles log fun _ after => log <+: after := by
  induction updates generalizing log with
  | nil => exact List.prefix_rfl
  | cons update rest ih =>
      refine (isForeignToken_obeys update.tokenId).bind fun foreign after first => ?_
      exact ih.bind fun later final longer => first.1.trans longer

end Footprints

/-! ### Plain parts -/

theorem deliverFill_plain (update : UserTradeUpdate) : Plain (deliverFill update) := by
  refine (plain_ask rfl).bind fun (notified : Bool) => ?_
  cases notified with
  | true => trivial
  | false => exact (plain_ask rfl).bind fun _ => plain_ask rfl

theorem notifyFill_plain (update : UserTradeUpdate) : Plain (notifyFill update) := by
  refine (plain_ask rfl).bind fun _ => Plain.bind ?_ fun delivered => ?_
  · exact Program.Uses.attempt (deliverFill_plain update) fun _ => trivial
  · exact (plain_ask rfl).bind fun _ => plain_lift delivered

section Plain

variable (config : ReconcilerConfig)

theorem ignoresUpdate_plain (update : UserTradeUpdate) : Plain (ignoresUpdate config update) := by
  unfold ignoresUpdate
  split
  · exact (plain_ask rfl).bind fun _ => trivial
  · trivial

theorem reconcileTradeAndNotify_plain (update : UserTradeUpdate) :
    Plain (reconcileTradeAndNotify config update) := by
  refine (ignoresUpdate_plain config update).bind fun ignored => ?_
  split
  · trivial
  · refine (plain_ask rfl).bind fun _ => ?_
    split
    · exact notifyFill_plain update
    · trivial

theorem settleUpdates_plain (updates : List UserTradeUpdate) :
    Plain (settleUpdates config updates) := by
  induction updates with
  | nil => trivial
  | cons update rest ih => exact (reconcileTradeAndNotify_plain config update).bind fun _ => ih

theorem lookupMarkets_plain (conditionIds : List String)
    (outcomeMap : Dict (String × String) Outcome) : Plain (lookupMarkets conditionIds outcomeMap) := by
  induction conditionIds generalizing outcomeMap with
  | nil => trivial
  | cons conditionId rest ih =>
      refine (plain_ask rfl).bind fun market => (plain_lift _).bind fun _ => ?_
      exact (plain_ask rfl).bind fun _ => (plain_ask rfl).bind fun _ => ih _

theorem positionOutcomes_plain (positionKeys : List (String × String)) :
    Plain (positionOutcomes config positionKeys) := by
  refine (plain_ask rfl).bind fun stored => Plain.bind ?_ fun outcomeMap => ?_
  · split
    · exact lookupMarkets_plain _ _
    · trivial
  · split <;> trivial

end Plain

theorem listOpenOrders_plain (remaining : Nat) (openOrderIds : List String) :
    Plain (listOpenOrders remaining openOrderIds) := by
  induction remaining generalizing openOrderIds with
  | zero => trivial
  | succ remaining ih =>
      refine (plain_ask rfl).bind fun listed => ?_
      cases listed with
      | none => trivial
      | some order => exact (plain_ask rfl).bind fun _ => ih _

theorem confirmAbsent_plain (targets : List String) : Plain (confirmAbsent targets) := by
  induction targets with
  | nil => trivial
  | cons target rest ih =>
      refine (plain_ask rfl).bind fun found => ?_
      cases found with
      | none => exact Plain.bind ih fun _ => trivial
      | some order => exact (plain_ask rfl).bind fun _ => ih

theorem repairOrders_plain : Plain repairOrders :=
  (listOpenOrders_plain 2000 []).bind fun _ => (plain_ask rfl).bind fun missing =>
    confirmAbsent_plain missing

theorem confirmAbsences_plain (confirmedAbsent : List String) :
    Plain (confirmAbsences confirmedAbsent) := by
  refine (plain_ask rfl).bind fun (pending : List String) => ?_
  cases pending with
  | nil => exact plain_ask rfl
  | cons first rest => trivial

theorem reserveRows_plain (rows : List (FootprintTable × DurableRow)) : Plain (reserveRows rows) := by
  induction rows with
  | nil => trivial
  | cons row rest ih => exact (plain_ask rfl).bind fun _ => ih

/-! ### Parts that quarantine -/

/-- A part of a call that leaves the books alone. -/
abbrev Settling {α : Type} (program : PassProgram α) : Prop :=
  program.Always Settles

theorem Plain.settling {α : Type} {program : PassProgram α} (plain : Plain program) :
    Settling program :=
  fun _ => plain.settles.mono fun _ _ _ => trivial

/-- The updates of a trade are quarantined when all their tokens were judged foreign. -/
theorem quarantineUpdates_obeys {log : List PassEvent} (trade : AccountTrade)
    (updates : List UserTradeUpdate)
    (judged : Iterates log → ∀ update ∈ updates, update.tokenId = "" ∨ JudgedForeign log update.tokenId) :
    (quarantineUpdates trade updates).Obeys Settles log fun _ _ => True := by
  induction updates generalizing log with
  | nil => trivial
  | cons update rest ih =>
      have later : ∀ {after}, log <+: after → Iterates after →
          ∀ other ∈ update :: rest, other.tokenId = "" ∨ JudgedForeign after other.tokenId :=
        fun longer iterates other member =>
          (judged (iterates.earlier longer) other member).imp_right fun foreign =>
            foreign.mono longer
      refine (plain_lift _).settles.bind fun record log₁ first => ?_
      refine Program.Obeys.bind (plain_ask rfl).settles fun _ log₂ second => ?_
      have longer := first.trans second
      intro answer
      refine ⟨⟨⟨fun tokenId conditionId same iterates => ?_, fun _ => nofun, fun _ => nofun,
        fun _ => nofun⟩, nofun, nofun⟩, ?_⟩
      · cases same
        exact later longer iterates update List.mem_cons_self
      · cases answer with
        | error problem => trivial
        | ok done =>
            exact ih fun iterates other member => later (longer.trans (List.prefix_append _ _))
              iterates other (List.mem_cons_of_mem _ member)

theorem mem_updateTokens {updates : List UserTradeUpdate} {update : UserTradeUpdate}
    (member : update ∈ updates) (named : update.tokenId ≠ "") :
    update.tokenId ∈ updateTokens updates := by
  refine List.mem_dedup.mpr (List.mem_filter.mpr ⟨?_, decide_eq_true named⟩)
  exact List.mem_map_of_mem member

theorem quarantineUnmappedTrade_settling (trade : AccountTrade) (updates : List UserTradeUpdate) :
    Settling (quarantineUnmappedTrade trade updates) := by
  intro log
  unfold quarantineUnmappedTrade
  split
  · trivial
  intro answer
  refine ⟨settles_of_plain rfl, ?_⟩
  rcases answer with problem | (tokens : List String)
  · trivial
  refine (areForeignTokens_obeys tokens).bind fun foreign after judged => ?_
  obtain ⟨longer, judged⟩ := judged
  split
  · rename_i all_foreign
    refine (quarantineUpdates_obeys trade updates ?_).bind fun _ _ _ => trivial
    intro iterates update member
    by_cases named : update.tokenId = ""
    · exact .inl named
    · have ordered : tokens.Perm (updateTokens updates) :=
        iterates _ _ (longer.subset (List.mem_append_right _ List.mem_cons_self))
      exact .inr (judged all_foreign _ (ordered.mem_iff.mpr (mem_updateTokens member named)))
  · trivial

section Parts

variable (config : ReconcilerConfig)

theorem accountTradeUpdates_settling (trade : AccountTrade) :
    Settling (accountTradeUpdates config trade) := by
  refine (plain_lift _).settling.bind fun updates => (plain_ask rfl).settling.bind fun durable => ?_
  refine (plain_lift _).settling.bind fun _ => ?_
  split
  · exact fun _ => trivial
  refine Program.Always.bind ?_ fun ignored => ?_
  · unfold precedesBaseline
    split
    · exact fun log => (foreignTokens_obeys updates).bind fun _ _ _ => trivial
    · exact fun _ => trivial
  split
  · exact fun _ => trivial
  refine Program.Always.bind ?_ fun quarantined => ?_
  · split
    · exact quarantineUnmappedTrade_settling trade updates
    · exact fun _ => trivial
  split
  · exact fun _ => trivial
  · exact fun _ => trivial

theorem settleTrade_settling (trade : AccountTrade) : Settling (settleTrade config trade) :=
  (accountTradeUpdates_settling config trade).bind fun updates =>
    (settleUpdates_plain config updates).settling

/-- A listing from a cursor that was read. -/
theorem listTrades_obeys {log : List PassEvent} {after : Int}
    (window : after = 0 ∨ ReadsTradeAfter log after) (remaining : Nat) (latestEpoch : Int)
    (seenTradeIds : List String) :
    (listTrades config after remaining latestEpoch seenTradeIds).Obeys Settles log
      fun _ _ => True := by
  induction remaining generalizing latestEpoch seenTradeIds log with
  | zero => trivial
  | succ remaining ih =>
      refine fun answer => ⟨⟨⟨fun _ _ => nofun, fun _ => nofun, fun other same => ?_, fun _ => nofun⟩,
        nofun, nofun⟩, ?_⟩
      · cases same
        exact window
      rcases answer with problem | (listed : Option AccountTrade)
      · trivial
      cases listed with
      | none => trivial
      | some trade =>
          refine (settleTrade_settling config trade _).extends.bind fun _ later both => ih ?_ _ _
          exact window.imp_right fun read => both.1.subset (List.mem_append_left _ read)

theorem pollTrade_settling (tradeId : String) (remaining : Nat) :
    Settling (pollTrade config tradeId remaining) := by
  induction remaining with
  | zero => exact fun _ => trivial
  | succ remaining ih =>
      refine (plain_ask rfl).settling.bind fun listed => ?_
      cases listed with
      | none => exact fun _ => trivial
      | some trade => exact (settleTrade_settling config trade.val).bind fun _ => ih

theorem pollTrades_settling (tradeIds : List String) (remaining : Nat) :
    Settling (pollTrades config tradeIds remaining) := by
  induction tradeIds generalizing remaining with
  | nil => exact fun _ => trivial
  | cons tradeId rest ih => exact (pollTrade_settling config tradeId remaining).bind fun _ => ih _

theorem pollPendingTrades_settling (listed : TradeProgress) :
    Settling (pollPendingTrades config listed) := by
  refine (plain_ask rfl).settling.bind fun (pending : List String) => ?_
  show Settling (if _ then _ else _)
  split
  · exact fun _ => trivial
  · exact pollTrades_settling config _ _

theorem repairTrades_settling (confirmedAbsent : List String) :
    Settling (repairTrades config confirmedAbsent) := by
  refine fun log answer => ⟨settles_of_plain rfl, ?_⟩
  rcases answer with problem | (tradeAfter : Int)
  · trivial
  refine (listTrades_obeys config ?_ _ _ _).bind fun listed later _ => (?_ : Settling _) later
  · split
    · exact .inl rfl
    · exact .inr (List.mem_append_right _ List.mem_cons_self)
  · exact (pollPendingTrades_settling config listed).bind fun _ =>
      (confirmAbsences_plain confirmedAbsent).settling.bind fun _ _ => trivial

theorem listActivities_obeys {log : List PassEvent} {start : Int}
    (window : ReadsActivityStart log start) (remaining : Nat) (latestEpoch : Int) :
    (listActivities start remaining latestEpoch).Obeys Settles log fun _ _ => True := by
  induction remaining generalizing latestEpoch log with
  | zero => trivial
  | succ remaining ih =>
      refine fun answer => ⟨⟨⟨fun _ _ => nofun, fun _ => nofun, fun _ => nofun, fun other same => ?_⟩,
        nofun, nofun⟩, ?_⟩
      · cases same
        exact window
      rcases answer with problem | (listed : Option AccountActivityUpdate)
      · trivial
      cases listed with
      | none => trivial
      | some update =>
          refine ((plain_ask rfl).settling _).extends.bind fun _ later both => ih ?_ _
          exact both.1.subset (List.mem_append_left _ window)

theorem repairActivities_settling : Settling (repairActivities config) := by
  refine fun log answer => ⟨settles_of_plain rfl, ?_⟩
  rcases answer with problem | (start : Int)
  · trivial
  refine (listActivities_obeys (List.mem_append_right _ List.mem_cons_self) _ _).bind
    fun latestEpoch later _ => (?_ : Settling _) later
  exact (plain_ask rfl).settling.bind fun _ _ => trivial

/-! ### Positions -/

/-- The token was judged foreign, and its position was recorded. -/
structure Quarantined (log : List PassEvent) (tokenId : String) : Prop where
  enabled : config.quarantineEnabled = true
  foreign : JudgedForeign log tokenId
  recorded : ∃ record : QuarantineRecord,
    (⟨.store (.recordQuarantine record), .ok ()⟩ : PassEvent) ∈ log ∧
      record.val.kind = .position ∧ record.val.externalKey = tokenId

theorem Quarantined.mono {config : ReconcilerConfig} {log later : List PassEvent} {tokenId : String}
    (quarantined : Quarantined config log tokenId) (longer : log <+: later) :
    Quarantined config later tokenId := by
  obtain ⟨record, stored, fields⟩ := quarantined.recorded
  exact ⟨quarantined.enabled, quarantined.foreign.mono longer, record, longer.subset stored, fields⟩

/-- A validated record has the fields that were validated. -/
theorem QuarantineFields.record_ok {fields : QuarantineFields} {record : QuarantineRecord}
    (valid : fields.record = .ok record) : record.val = fields := by
  unfold QuarantineFields.record at valid
  split at valid
  · cases valid
    rfl
  · cases valid

theorem quarantineForeignPosition_obeys {log : List PassEvent} {tokenId : String}
    (enabled : config.quarantineEnabled = true) (foreign : JudgedForeign log tokenId) (liveSize : ℚ)
    (positions : List AccountPositionUpdate) :
    (quarantineForeignPosition tokenId liveSize positions).Obeys Settles log
      fun _ after => log <+: after ∧ Quarantined config after tokenId := by
  refine Program.Obeys.bind (M := fun record after =>
    log = after ∧ record.val = foreignPosition tokenId liveSize positions) ?_ ?_
  · exact Program.Obeys.lift fun record valid => ⟨rfl, QuarantineFields.record_ok valid⟩
  rintro record _ ⟨rfl, fields⟩ stored
  refine ⟨settles_of_plain rfl, ?_⟩
  rcases stored with problem | done
  · trivial
  intro answer
  refine ⟨⟨⟨fun other conditionId same _ => ?_, fun _ => nofun, fun _ => nofun, fun _ => nofun⟩,
    nofun, nofun⟩, ?_⟩
  · cases same
    exact .inr (foreign.mono (List.prefix_append _ _))
  rcases answer with problem | marked
  · trivial
  have longer : log <+: (log ++ [⟨.store (.recordQuarantine record), .ok done⟩]) ++
      [⟨.memory (.quarantineToken tokenId ""), .ok marked⟩] :=
    (List.prefix_append _ _).trans (List.prefix_append _ _)
  refine ⟨longer, enabled, foreign.mono longer, record, ?_, by rw [fields]; rfl, by rw [fields]; rfl⟩
  exact List.mem_append_left _ (List.mem_append_right _ List.mem_cons_self)

/-- A compared token is near the ledger or quarantined. -/
theorem balanceToken_obeys {log : List PassEvent} (live ledger : Dict String ℚ)
    (positions : List AccountPositionUpdate) (tokenId : String) :
    (balanceToken config live ledger positions tokenId).Obeys Settles log fun foreign after =>
      log <+: after ∧ (foreign = false →
        |quantityOf live tokenId - quantityOf ledger tokenId| ≤ positionTolerance) ∧
        (foreign = true → Quarantined config after tokenId) := by
  unfold balanceToken
  split
  · rename_i near
    exact ⟨List.prefix_rfl, fun _ => near, nofun⟩
  refine Program.Obeys.bind (M := fun foreign after => log <+: after ∧
    (foreign = true → config.quarantineEnabled = true ∧ JudgedForeign after tokenId)) ?_
    fun foreign after judged => ?_
  · split
    · rename_i enabled
      exact (isForeignToken_obeys tokenId).mono fun _ _ both =>
        ⟨both.1, fun foreign => ⟨enabled, both.2 foreign⟩⟩
    · exact ⟨List.prefix_rfl, nofun⟩
  obtain ⟨longer, judged⟩ := judged
  split
  · rename_i is_foreign
    obtain ⟨enabled, foreign⟩ := judged is_foreign
    refine (quarantineForeignPosition_obeys config enabled foreign _ positions).bind
      fun _ later both => ⟨longer.trans both.1, nofun, fun _ => both.2⟩
  · trivial

/-- The compared tokens are near the ledger, except those that are quarantined. -/
theorem balanceTokens_obeys {log : List PassEvent} (live ledger : Dict String ℚ)
    (positions : List AccountPositionUpdate) (tokens : List String) :
    (balanceTokens config live ledger positions tokens).Obeys Settles log fun foreign after =>
      (∀ tokenId ∈ tokens, tokenId ∉ foreign →
        |quantityOf live tokenId - quantityOf ledger tokenId| ≤ positionTolerance) ∧
        ∀ tokenId ∈ foreign, Quarantined config after tokenId := by
  induction tokens generalizing log with
  | nil => exact ⟨fun _ => nofun, fun _ => nofun⟩
  | cons tokenId rest ih =>
      refine (balanceToken_obeys config live ledger positions tokenId).bind
        fun foreign after first => ?_
      refine ih.extends.bind fun later final both => ?_
      obtain ⟨longer, near, quarantined⟩ := both
      cases foreign with
      | false =>
          refine ⟨List.forall_mem_cons.mpr ⟨fun _ => first.2.1 rfl, near⟩, quarantined⟩
      | true =>
          refine ⟨fun other member outside => ?_, List.forall_mem_cons.mpr
            ⟨(first.2.2 rfl).mono longer, quarantined⟩⟩
          have differs : other ≠ tokenId := fun same => outside (same ▸ List.mem_cons_self)
          exact near other ((List.mem_cons.mp member).resolve_left differs) fun listed =>
            outside (List.mem_cons_of_mem _ listed)

end Parts

end Polybot
