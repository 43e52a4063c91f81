import Mathlib.Data.List.Forall2
import Polybot.Reconcile.Conduct

/-!
The books that a REST pass proves.

Before a pass advances its cursors it has compared the positions that the exchange lists
with the replayed ledger, token by token. `pass_proves_books` says what the cursors then
stand for: in every run they change only at the end of a pass in which each token was near
the ledger or quarantined, and a pass that fails leaves them to the next one.
-/

namespace Polybot

open Checked Interaction

/-! ### What a pass compares -/

/-- The lists of positions that the exchange answered. -/
def listedPositions (log : List PassEvent) : List (List ExchangePosition) :=
  log.filterMap fun
    | ⟨.exchange .listPositions, .ok listed⟩ => some listed
    | _ => none

/-- The replayed ledgers that the store answered. -/
def ledgersRead (log : List PassEvent) : List FillLedgerSnapshot :=
  log.filterMap fun
    | ⟨.store (.fillLedgerSnapshot _), .ok ledger⟩ => some ledger
    | _ => none

/-- The lists of positions that were written. -/
def positionsWritten (log : List PassEvent) : List (List AccountPositionUpdate) :=
  log.filterMap fun
    | ⟨.store (.reconcilePositions positions), .ok _⟩ => some positions
    | _ => none

/-- What a log has about the books. -/
structure BookLog (log : List PassEvent) (listed : List (List ExchangePosition))
    (ledgers : List FillLedgerSnapshot) (written : List (List AccountPositionUpdate)) : Prop where
  listed : listedPositions log = listed
  ledgers : ledgersRead log = ledgers
  written : positionsWritten log = written

/-- The size of a token on the exchange: zero without a position, or when its condition was
redeemed. -/
def exchangeSize (listed : List ExchangePosition) (ledger : FillLedgerSnapshot)
    (tokenId : String) : ℚ :=
  match listed.find? fun position => position.tokenId = some tokenId with
  | none => 0
  | some position =>
      if position.conditionId.getD "" ∈ ledger.redeemedConditionIds then 0
      else match position.size with
        | .value size => size
        | _ => 0

/-- The token was quarantined and not written. -/
def Excused (config : ReconcilerConfig) (log : List PassEvent)
    (written : List AccountPositionUpdate) (tokenId : String) : Prop :=
  Quarantined config log tokenId ∧ ∀ position ∈ written, position.tokenId ≠ tokenId

/-- One list of positions was compared with one ledger, and every token is near it or
excused. -/
def ProvesBooks (config : ReconcilerConfig) (log : List PassEvent) : Prop :=
  ∃ listed ledger written, BookLog log [listed] [ledger] [written] ∧ ∀ tokenId,
    |exchangeSize listed ledger tokenId - quantityOf ledger.tokenQuantities tokenId| ≤
        positionTolerance ∨ Excused config log written tokenId

/-- Each token is listed in at most one position. -/
def DistinctTokens (log : List PassEvent) : Prop :=
  ∀ listed ∈ listedPositions log, (listed.map ExchangePosition.tokenId).Nodup

/-- The memory does not fail, and sets were gone through completely. -/
structure Sound (log : List PassEvent) : Prop where
  iterates : Iterates log
  recalls : ∀ request problem, (⟨.memory request, .error problem⟩ : PassEvent) ∉ log
  releases : ∀ lock problem, (⟨.release lock, .error problem⟩ : PassEvent) ∉ log

section Logs

variable {log more : List PassEvent} {config : ReconcilerConfig}
  {listed : List (List ExchangePosition)} {ledgers : List FillLedgerSnapshot}
  {written : List (List AccountPositionUpdate)}

theorem Sound.earlier {later : List PassEvent} (sound : Sound later) (longer : log <+: later) :
    Sound log where
  iterates := sound.iterates.earlier longer
  recalls request problem member := sound.recalls request problem (longer.subset member)
  releases lock problem member := sound.releases lock problem (longer.subset member)

theorem DistinctTokens.earlier {later : List PassEvent} (distinct : DistinctTokens later)
    (longer : log <+: later) : DistinctTokens log := by
  obtain ⟨more, rfl⟩ := longer
  intro listed member
  refine distinct listed ?_
  unfold listedPositions
  rw [List.filterMap_append]
  exact List.mem_append_left _ member

theorem filterMap_append_none {α : Type} {select : PassEvent → Option α}
    (none : ∀ event ∈ more, select event = none) :
    (log ++ more).filterMap select = log.filterMap select := by
  rw [List.filterMap_append, List.filterMap_eq_nil_iff.mpr none, List.append_nil]

/-- Other requests add nothing to the books. -/
theorem BookLog.append (books : BookLog log listed ledgers written)
    (others : ∀ event ∈ more, event.request.duty ≠ .books) :
    BookLog (log ++ more) listed ledgers written := by
  obtain ⟨rfl, rfl, rfl⟩ := books
  refine ⟨filterMap_append_none fun event member => ?_, filterMap_append_none fun event member => ?_,
    filterMap_append_none fun event member => ?_⟩
  all_goals
    split
    · exact absurd rfl (others _ member)
    · rfl

/-- Proved books stay proved. -/
theorem ProvesBooks.append (proves : ProvesBooks config log)
    (others : ∀ event ∈ more, event.request.duty ≠ .books) : ProvesBooks config (log ++ more) := by
  obtain ⟨listed, ledger, written, books, tokens⟩ := proves
  refine ⟨listed, ledger, written, books.append others, fun tokenId => ?_⟩
  exact (tokens tokenId).imp_right fun excused =>
    ⟨excused.1.mono (List.prefix_append _ _), excused.2⟩

end Logs

/-! ### Sizes -/

/-- A position is the update of a listed one. -/
structure Reports (listed : ExchangePosition) (position : AccountPositionUpdate) : Prop where
  tokenId : listed.tokenId = some position.tokenId
  conditionId : listed.conditionId = some position.conditionId
  size : listed.size = .value position.size
  size_nonneg : 0 ≤ position.size

section Sizes

variable {listed : List ExchangePosition} {positions : List AccountPositionUpdate}
  {ledger : FillLedgerSnapshot}

theorem requiredPositionIdentifier_ok {raw : Option String} {field text : String}
    (required : requiredPositionIdentifier raw field = .ok text) : raw = some text := by
  unfold requiredPositionIdentifier at required
  split at required
  · cases required
  · split at required
    · cases required
    · cases required
      rfl

theorem requiredPositionDecimal_ok {raw : RowDecimal} {field : String} {number : ℚ}
    (required : requiredPositionDecimal raw field = .ok number) : raw = .value number := by
  unfold requiredPositionDecimal at required
  split at required
  · cases required
  · cases required
  · cases required
    rfl

/-- A position that passed its checks has the fields that were checked. -/
theorem rawPosition_ok {position : ExchangePosition} {raw : RawPosition}
    (checked : rawPosition position = .ok raw) :
    position.tokenId = some raw.tokenId ∧ position.conditionId = some raw.conditionId ∧
      position.size = .value raw.size := by
  unfold rawPosition at checked
  obtain ⟨conditionId, condition, checked⟩ := bind_ok_iff.mp checked
  obtain ⟨tokenId, token, checked⟩ := bind_ok_iff.mp checked
  obtain ⟨size, sized, checked⟩ := bind_ok_iff.mp checked
  obtain ⟨initial, -, checked⟩ := bind_ok_iff.mp checked
  obtain ⟨current, -, checked⟩ := bind_ok_iff.mp checked
  split at checked
  · cases checked
    exact ⟨requiredPositionIdentifier_ok token, requiredPositionIdentifier_ok condition,
      requiredPositionDecimal_ok sized⟩
  · cases checked

theorem withOutcome_reports {outcomeMap : Dict (String × String) Outcome}
    {position : ExchangePosition} {raw : RawPosition} {update : AccountPositionUpdate}
    (checked : rawPosition position = .ok raw)
    (updated : raw.withOutcome outcomeMap = .ok update) : Reports position update := by
  obtain ⟨token, condition, size⟩ := rawPosition_ok checked
  unfold RawPosition.withOutcome at updated
  split at updated
  · cases updated
  · cases updated
    exact ⟨token, condition, size, raw.size_nonneg⟩

/-- The positions of a pass report the listed ones, in their order. -/
theorem reports_of_mapM {outcomeMap : Dict (String × String) Outcome} {raws : List RawPosition}
    (checked : listed.mapM rawPosition = .ok raws)
    (updated : raws.mapM (RawPosition.withOutcome outcomeMap) = .ok positions) :
    List.Forall₂ Reports listed positions := by
  have first := mapM_ok_forall₂ checked
  have second := mapM_ok_forall₂ updated
  clear checked updated
  induction first generalizing positions with
  | nil =>
      cases second
      exact .nil
  | cons here _ ih =>
      cases second with
      | cons there later => exact .cons (withOutcome_reports here there) (ih later)

theorem tokenIds_of_reports (reports : List.Forall₂ Reports listed positions) :
    listed.map ExchangePosition.tokenId = (positions.map AccountPositionUpdate.tokenId).map some := by
  induction reports with
  | nil => rfl
  | cons here _ ih => rw [List.map_cons, ih, here.tokenId]; rfl

theorem exists_listed (reports : List.Forall₂ Reports listed positions)
    {position : AccountPositionUpdate} (member : position ∈ positions) :
    ∃ item ∈ listed, Reports item position := by
  induction reports with
  | nil => exact absurd member List.not_mem_nil
  | cons here _ ih =>
      rcases List.mem_cons.mp member with rfl | later
      · exact ⟨_, List.mem_cons_self, here⟩
      · obtain ⟨item, found, reports⟩ := ih later
        exact ⟨item, List.mem_cons_of_mem _ found, reports⟩

/-- The live quantity of a position, if it has one. -/
def liveQuantity (ledger : FillLedgerSnapshot) (position : AccountPositionUpdate) : Option ℚ :=
  if position.size > 0 ∧ position.conditionId ∉ ledger.redeemedConditionIds then some position.size
  else none

theorem liveQuantities_collects
    (distinct : (positions.map AccountPositionUpdate.tokenId).Nodup) :
    (liveQuantities positions ledger).Collects positions AccountPositionUpdate.tokenId
      (liveQuantity ledger) := by
  induction positions using List.reverseRecOn with
  | nil => exact Dict.Collects.empty
  | append_singleton front last ih =>
      rw [List.map_append, List.map_singleton] at distinct
      have earlier := ih (List.nodup_append.mp distinct).1
      have fresh : last.tokenId ∉ front.map AccountPositionUpdate.tokenId := fun member =>
        (List.nodup_append.mp distinct).2.2 _ member _ List.mem_cons_self rfl
      unfold liveQuantities at earlier ⊢
      rw [List.foldl_append, List.foldl_cons, List.foldl_nil]
      split
      · rename_i live
        exact earlier.set fresh (if_pos live)
      · rename_i idle
        exact earlier.skip (if_neg idle)

/-- The compared size of a token is its size on the exchange. -/
theorem exchangeSize_eq (reports : List.Forall₂ Reports listed positions)
    (distinct : (listed.map ExchangePosition.tokenId).Nodup) (tokenId : String) :
    exchangeSize listed ledger tokenId = quantityOf (liveQuantities positions ledger) tokenId := by
  have tokens := tokenIds_of_reports reports
  have collects : (liveQuantities positions ledger).Collects positions
      AccountPositionUpdate.tokenId (liveQuantity ledger) :=
    liveQuantities_collects ((tokens ▸ distinct).of_map _)
  have nodup : (positions.map AccountPositionUpdate.tokenId).Nodup := (tokens ▸ distinct).of_map _
  by_cases member : tokenId ∈ positions.map AccountPositionUpdate.tokenId
  · obtain ⟨position, there, rfl⟩ := List.mem_map.mp member
    obtain ⟨item, among, here⟩ := exists_listed reports there
    have found : listed.find? (fun other => other.tokenId = some position.tokenId) = some item := by
      cases searched : listed.find? (fun other => other.tokenId = some position.tokenId) with
      | none =>
          exact absurd (decide_eq_true here.tokenId) (List.find?_eq_none.mp searched item among)
      | some other =>
          have same : other.tokenId = some position.tokenId := by
            simpa using List.find?_some searched
          rw [List.inj_on_of_nodup_map distinct (List.mem_of_find?_eq_some searched) among
            (same.trans here.tokenId.symm)]
    unfold exchangeSize quantityOf
    rw [found, collects.get?_eq nodup there]
    unfold liveQuantity
    dsimp only
    rw [here.conditionId, here.size, Option.getD_some]
    by_cases redeemed : position.conditionId ∈ ledger.redeemedConditionIds
    · rw [if_pos redeemed, if_neg fun live => live.2 redeemed]
      rfl
    · rw [if_neg redeemed]
      by_cases positive : position.size > 0
      · rw [if_pos ⟨positive, redeemed⟩]
        rfl
      · rw [if_neg fun live => positive live.1]
        exact le_antisymm (not_lt.mp positive) here.size_nonneg
  · have absent : listed.find? (fun other => other.tokenId = some tokenId) = none := by
      refine List.find?_eq_none.mpr fun item among same => member ?_
      have listed_token : some tokenId ∈ listed.map ExchangePosition.tokenId :=
        List.mem_map.mpr ⟨item, among, of_decide_eq_true same⟩
      rw [tokens] at listed_token
      obtain ⟨other, found, same⟩ := List.mem_map.mp listed_token
      exact Option.some.inj same ▸ found
    unfold exchangeSize quantityOf
    rw [absent, collects.get?_eq_none member]
    rfl

end Sizes

/-! ### A pass -/

/-- An event of a pass before it advances the cursors. -/
structure WindowObeys (log : List PassEvent) (event : PassEvent) : Prop where
  obeys : PassObeys log event
  keeps : event.request.duty ≠ .cursors

section Pass

variable {log : List PassEvent} {config : ReconcilerConfig}
  {listed : List (List ExchangePosition)} {ledgers : List FillLedgerSnapshot}
  {written : List (List AccountPositionUpdate)}

/-- A part that leaves the books alone leaves them as they are. -/
theorem window_of_settles {α : Type} {program : PassProgram α} {Post : α → List PassEvent → Prop}
    (obeys : program.Obeys Settles log Post) (books : BookLog log listed ledgers written) :
    program.Obeys WindowObeys log fun value after =>
      BookLog after listed ledgers written ∧ Post value after := by
  refine ((obeys.adds (F := fun event => event.request.duty ≠ .books)
    fun _ _ settles => settles.leaves).weaken fun _ _ settles =>
      ⟨settles.obeys, settles.keeps⟩).mono fun value after both => ?_
  obtain ⟨⟨more, rfl, others⟩, post⟩ := both
  exact ⟨books.append others, post⟩

theorem Settling.window {α : Type} {program : PassProgram α} (settling : Settling program)
    (books : BookLog log listed ledgers written) :
    program.Obeys WindowObeys log fun _ after => BookLog after listed ledgers written :=
  (window_of_settles (settling log) books).mono fun _ _ both => both.1

/-- A request about the books. -/
theorem windowObeys_of_books {event : PassEvent} (books : event.request.duty = .books) :
    WindowObeys log event :=
  ⟨passObeys_of_duty (by rw [books]; nofun) (by rw [books]; nofun), by rw [books]; nofun⟩

theorem readPositions_obeys (books : BookLog log [] [] []) :
    (readPositions config).Obeys WindowObeys log fun positions after =>
      ∃ listed, List.Forall₂ Reports listed positions ∧ BookLog after [listed] [] [] := by
  refine fun answer => ⟨windowObeys_of_books rfl, ?_⟩
  rcases answer with problem | (listed : List ExchangePosition)
  · trivial
  have books : BookLog (log ++ [⟨.exchange .listPositions, .ok listed⟩]) [listed] [] [] :=
    ⟨List.filterMap_append.trans (congrArg (· ++ [listed]) books.listed),
      List.filterMap_append.trans (congrArg (· ++ []) books.ledgers),
      List.filterMap_append.trans (congrArg (· ++ []) books.written)⟩
  refine Program.Obeys.bind (M := fun raws after => listed.mapM rawPosition = .ok raws ∧
    BookLog after [listed] [] []) (Program.Obeys.lift fun raws checked => ⟨checked, books⟩) ?_
  rintro raws after ⟨checked, books⟩
  refine ((positionOutcomes_plain config _).settling.window books).bind
    fun outcomeMap after books => ?_
  exact Program.Obeys.lift fun positions updated => ⟨listed, reports_of_mapM checked updated, books⟩

theorem balancePositions_obeys {listed : List ExchangePosition}
    {positions : List AccountPositionUpdate} (reports : List.Forall₂ Reports listed positions)
    (books : BookLog log [listed] [] []) :
    (balancePositions config positions).Obeys WindowObeys log fun _ after =>
      Iterates after → DistinctTokens after → ProvesBooks config after := by
  refine ((plain_ask rfl).settling.window books).bind fun now log₁ books => ?_
  refine fun answer => ⟨windowObeys_of_books rfl, ?_⟩
  rcases answer with problem | (ledger : FillLedgerSnapshot)
  · trivial
  have books : BookLog (log₁ ++ [⟨.store (.fillLedgerSnapshot (utcMidnight now)), .ok ledger⟩])
      [listed] [ledger] [] :=
    ⟨List.filterMap_append.trans (congrArg (· ++ []) books.listed),
      List.filterMap_append.trans (congrArg (· ++ [ledger]) books.ledgers),
      List.filterMap_append.trans (congrArg (· ++ []) books.written)⟩
  intro answer
  refine ⟨⟨passObeys_of_duty nofun nofun, nofun⟩, ?_⟩
  rcases answer with problem | (tokens : List String)
  · trivial
  refine (window_of_settles (balanceTokens_obeys config _ _ positions tokens).extends
    (books.append fun event member => ?_)).bind fun foreign log₂ both => ?_
  · obtain rfl := List.mem_singleton.mp member
    exact nofun
  obtain ⟨books, longer, near, quarantined⟩ := both
  intro answer
  refine ⟨windowObeys_of_books rfl, ?_⟩
  rcases answer with problem | done
  · trivial
  intro iterates distinct
  have longer₂ := List.prefix_append log₂ [⟨.store (.reconcilePositions
    (positions.filter fun position => position.tokenId ∉ foreign)), .ok done⟩]
  refine ⟨listed, ledger, positions.filter fun position => position.tokenId ∉ foreign,
    ⟨List.filterMap_append.trans (congrArg (· ++ []) books.listed),
      List.filterMap_append.trans (congrArg (· ++ []) books.ledgers),
      List.filterMap_append.trans (congrArg (· ++ [_]) books.written)⟩, fun tokenId => ?_⟩
  have once : (listed.map ExchangePosition.tokenId).Nodup :=
    distinct.earlier longer₂ listed (by rw [books.listed]; exact List.mem_cons_self)
  rw [exchangeSize_eq reports once]
  by_cases excused : tokenId ∈ foreign
  · refine .inr ⟨(quarantined tokenId excused).mono longer₂, fun position member same => ?_⟩
    have kept := of_decide_eq_true (List.mem_filter.mp member).2
    exact kept (same ▸ excused)
  refine .inl ?_
  by_cases compared : tokenId ∈ ((liveQuantities positions ledger).keys ++
      ledger.tokenQuantities.keys).dedup
  · have order := iterates _ tokens (longer₂.subset (longer.subset
      (List.mem_append_right _ List.mem_cons_self)))
    exact near tokenId (order.mem_iff.mpr compared) excused
  · rw [List.mem_dedup, List.mem_append, not_or] at compared
    unfold quantityOf
    rw [Dict.get?_eq_none_iff.mpr compared.1, Dict.get?_eq_none_iff.mpr compared.2,
      Option.getD_none, sub_self, abs_zero]
    decide +kernel

/-- What a pass has proved when it knows its next cursors. -/
theorem reconcileWindow_obeys (books : BookLog log [] [] []) :
    (reconcileWindow config).Obeys WindowObeys log fun _ after =>
      Iterates after → DistinctTokens after → ProvesBooks config after := by
  refine ((plain_ask rfl).settling.window books).bind fun _ _ books => ?_
  refine (repairOrders_plain.settling.window books).bind fun confirmedAbsent _ books => ?_
  refine ((repairTrades_settling config confirmedAbsent).window books).bind fun _ _ books => ?_
  refine ((repairActivities_settling config).window books).bind fun _ _ books => ?_
  refine (readPositions_obeys books).bind fun positions _ read => ?_
  obtain ⟨listed, reports, books⟩ := read
  exact (balancePositions_obeys reports books).bind fun _ _ proves => proves

end Pass

/-! ### Calls -/

/-- An event of a call: only a pass that has proved the books advances the cursors. -/
structure CallObeys (config : ReconcilerConfig) (call : PassCall) (log : List PassEvent)
    (event : PassEvent) : Prop where
  obeys : PassObeys log event
  advances : event.request.duty = .cursors → call = .rest ∧
    (Iterates log → DistinctTokens log → ProvesBooks config log)

/-- What the log of a pass says about its outcome. -/
structure RestPost (config : ReconcilerConfig) (outcome : Except SettlementError Unit)
    (log : List PassEvent) : Prop where
  proves : outcome = .ok () → ProvesBooks config log
  keeps : ∀ problem, outcome = .error problem → ∀ event ∈ log, event.request.duty ≠ .cursors

section Calls

variable {log : List PassEvent} {config : ReconcilerConfig}

theorem WindowObeys.call {call : PassCall} {event : PassEvent} (obeys : WindowObeys log event) :
    CallObeys config call log event :=
  ⟨obeys.obeys, fun cursors => absurd cursors obeys.keeps⟩

theorem Settles.call {call : PassCall} {event : PassEvent} (settles : Settles log event) :
    CallObeys config call log event :=
  ⟨settles.obeys, fun cursors => absurd cursors settles.keeps⟩

/-- The window of a pass, caught. -/
theorem reconcileWindow_attempt (books : BookLog log [] [] [])
    (quiet : ∀ event ∈ log, event.request.duty ≠ .cursors) :
    (reconcileWindow config).attempt.Obeys (CallObeys config .rest) log fun outcome after =>
      (∀ event ∈ after, event.request.duty ≠ .cursors) ∧ ∀ cursors, outcome = .ok cursors →
        Iterates after → DistinctTokens after → ProvesBooks config after := by
  refine (((reconcileWindow_obeys books).attempt
    (F := fun event => event.request.duty ≠ .cursors) fun _ _ obeys => obeys.keeps).weaken
      fun _ _ obeys => obeys.call).mono fun outcome after both => ?_
  obtain ⟨⟨more, rfl, others⟩, proves⟩ := both
  exact ⟨List.forall_mem_append.mpr ⟨quiet, others⟩, proves⟩

/-- A caught pass has advanced the cursors after it proved the books, or not at all. -/
theorem reconcileRestOnce_attempt (books : BookLog log [] [] [])
    (quiet : ∀ event ∈ log, event.request.duty ≠ .cursors) :
    (reconcileRestOnce config).attempt.Obeys (CallObeys config .rest) log fun outcome after =>
      Sound after → DistinctTokens after → RestPost config outcome after := by
  refine (reconcileWindow_attempt books quiet).attempt_bind
    (fun problem after failed _ _ => ⟨nofun, fun _ _ => failed.1⟩) ?_
  rintro cursors after ⟨-, proves⟩ answer
  have proves := proves cursors rfl
  refine ⟨⟨passObeys_of_duty nofun nofun, fun _ => ⟨rfl, proves⟩⟩, ?_⟩
  rcases answer with problem | done
  · exact fun sound => absurd (List.mem_append_right _ List.mem_cons_self)
      (sound.recalls (.advanceCursors cursors) problem)
  · refine fun sound distinct => ⟨fun _ => ?_, nofun⟩
    have longer := List.prefix_append after [⟨.memory (.advanceCursors cursors), .ok done⟩]
    refine (proves (sound.iterates.earlier longer) (distinct.earlier longer)).append
      fun event member => ?_
    obtain rfl := List.mem_singleton.mp member
    exact nofun

theorem reconcileRest_obeys :
    (PassCall.rest.program config).Obeys (CallObeys config .rest) [] fun outcome after =>
      Sound after → DistinctTokens after → RestPost config outcome after := by
  have lock {request : PassRequest} (plain : request.duty = .plain) (log : List PassEvent)
      (answer : Except SettlementError request.Response) :
      CallObeys config .rest log ⟨request, answer⟩ :=
    Settles.call (settles_of_plain plain)
  refine fun answer => ⟨lock rfl _ answer, ?_⟩
  rcases answer with problem | acquired
  · refine fun _ _ => ⟨nofun, fun _ _ event member => ?_⟩
    obtain rfl := List.mem_singleton.mp member
    exact nofun
  show Program.Obeys _ ((reconcileRestOnce config).attempt >>= fun outcome =>
    askPass (.release .reconcile) >>= fun _ => Program.lift outcome).attempt _ _
  rw [Program.attempt_attempt_bind]
  refine (reconcileRestOnce_attempt ⟨rfl, rfl, rfl⟩ fun event member => ?_).bind
    fun outcome after post answer => ⟨lock rfl _ answer, ?_⟩
  · obtain rfl := List.mem_singleton.mp member
    exact nofun
  rcases answer with problem | released
  · exact fun sound => absurd (List.mem_append_right _ List.mem_cons_self)
      (sound.releases .reconcile problem)
  have others : ∀ event ∈ ([⟨.release .reconcile, .ok released⟩] : List PassEvent),
      event.request.duty = .plain := fun event member => by
    obtain rfl := List.mem_singleton.mp member
    rfl
  have longer := List.prefix_append after [⟨.release .reconcile, .ok released⟩]
  cases outcome with
  | ok done =>
      refine fun sound distinct => ⟨fun _ => ?_, nofun⟩
      have proves := (post (sound.earlier longer) (distinct.earlier longer)).proves rfl
      exact proves.append fun event member => by rw [others event member]; nofun
  | error problem =>
      refine fun sound distinct => ⟨nofun, fun _ _ => List.forall_mem_append.mpr ⟨?_, ?_⟩⟩
      · exact (post (sound.earlier longer) (distinct.earlier longer)).keeps problem rfl
      · exact fun event member => by rw [others event member]; nofun

/-- The other calls leave the cursors alone. -/
theorem settling_call {α : Type} {program : PassProgram α} (settling : Settling program)
    (call : PassCall) : program.attempt.Obeys (CallObeys config call) log fun _ _ => True :=
  settling.attempt.weaken (fun _ _ settles => settles.call) log

/-- The events of every call, and the outcome of a pass. -/
theorem PassCall.program_obeys (call : PassCall) :
    (call.program config).Obeys (CallObeys config call) [] fun outcome after =>
      call = .rest → Sound after → DistinctTokens after → RestPost config outcome after := by
  cases call with
  | rest => exact reconcileRest_obeys.mono fun _ _ post _ => post
  | event userEvent =>
      refine (settling_call ?_ _).mono fun _ _ _ => nofun
      cases userEvent with
      | order update => exact (plain_ask rfl).settling
      | trade trade => exact settleTrade_settling config trade
  | reservations rows =>
      exact (settling_call (reserveRows_plain rows).settling _).mono fun _ _ _ => nofun

end Calls

/-! ### Runs -/

section Serve

variable {reconciler next : Reconciler} {event : PassEvent}

/-- The cursors change only when they are advanced. -/
theorem PassServe.cursors (served : PassServe reconciler event next) :
    next.cursors = reconciler.cursors ∨ event.request.duty = .cursors := by
  cases served with
  | recalled request =>
      cases request with
      | advanceCursors cursors => exact .inr rfl
      | _ => exact .inl rfl
  | stored request answer next stored =>
      rcases stored with rfl | ⟨_, _, -, -, _, _, _, -, -, rfl⟩
      · exact .inl rfl
      · exact .inl rfl
  | reserved table row answer next inserts =>
      obtain ⟨_, _, _, -, -, rfl⟩ := inserts
      exact .inl rfl
  | _ => exact .inl rfl

/-- A cursor that is read is the one that is kept. -/
theorem PassServe.tradeAfter (served : PassServe reconciler event next) {tradeAfter : Int}
    (read : event = ⟨.memory .tradeAfter, .ok tradeAfter⟩) :
    tradeAfter = reconciler.cursors.tradeAfter := by
  cases served with
  | recalled request =>
      cases read
      rfl
  | _ => cases read

theorem PassServe.activityStart (served : PassServe reconciler event next) {activityStart : Int}
    (read : event = ⟨.memory .activityStart, .ok activityStart⟩) :
    activityStart = reconciler.cursors.activityStart := by
  cases served with
  | recalled request =>
      cases read
      rfl
  | _ => cases read

/-- What cannot be served. -/
theorem PassServe.possible (served : PassServe reconciler event next) :
    (∀ values order, event = ⟨.iterate values, .ok order⟩ → order.Perm values) ∧
      (∀ request problem, event ≠ ⟨.memory request, .error problem⟩) ∧
      ∀ lock problem, event ≠ ⟨.release lock, .error problem⟩ := by
  cases served with
  | iterated values order perm =>
      refine ⟨fun _ _ same => ?_, fun _ _ => nofun, fun _ _ => nofun⟩
      cases same
      exact perm
  | _ => exact ⟨fun _ _ => nofun, fun _ _ => nofun, fun _ _ => nofun⟩

end Serve

/-- The cursors change only for a pass that has proved the books and does not fail, and a
pass lists from the cursors as they are, trades also from the start. -/
structure AdvancesOnProof {ι : Type} (config : ReconcilerConfig) (calls : ι → PassCall)
    (final pool : PassPool ι) (label : ι × PassEvent) (next : PassPool ι) : Prop where
  advances : next.shared.cursors ≠ pool.shared.cursors → calls label.1 = .rest ∧
    ProvesBooks config (pool.log label.1) ∧
      ∀ problem, final.program label.1 ≠ .done (.error problem)
  readsTradeAfter : ∀ tradeAfter, label.2 = ⟨.memory .tradeAfter, .ok tradeAfter⟩ →
    tradeAfter = pool.shared.cursors.tradeAfter
  readsActivityStart : ∀ activityStart, label.2 = ⟨.memory .activityStart, .ok activityStart⟩ →
    activityStart = pool.shared.cursors.activityStart
  listsTrades : ∀ after, label.2.request = .exchange (.nextTrade after) →
    after = 0 ∨ ReadsTradeAfter (pool.log label.1) after
  listsActivities : ∀ start, label.2.request = .exchange (.nextActivity start) →
    ReadsActivityStart (pool.log label.1) start

section Runs

variable {ι : Type} [DecidableEq ι] {config : ReconcilerConfig}
  {tables : FootprintTable → DurableTable} {calls : ι → PassCall}
  {labels : List (ι × PassEvent)} {final : PassPool ι}

/-- The logs of a run are sound. -/
theorem sound_of_run
    (run : Run (Pool.Step PassServe) (passPool config tables calls) labels final) (i : ι) :
    Sound (final.log i) := by
  have logged : ∀ event ∈ final.log i, (i, event) ∈ labels := fun event member => by
    rw [Pool.log_of_run run i] at member
    exact Pool.mem_own.mp member
  have possible := Pool.possible_of_run (fun _ _ _ served => PassServe.possible served) run
  refine ⟨fun values order member => ?_, fun request problem member => ?_,
    fun lock problem member => ?_⟩
  · exact (possible _ (logged _ member)).1 values order rfl
  · exact (possible _ (logged _ member)).2.1 request problem rfl
  · exact (possible _ (logged _ member)).2.2 lock problem rfl

/-- In every state of a run the calls obey. -/
theorem obeys_of_run
    (run : Run (Pool.Step PassServe) (passPool config tables calls) labels final) (i : ι) :
    (final.program i).Obeys (CallObeys config (calls i)) (final.log i) fun outcome after =>
      calls i = .rest → Sound after → DistinctTokens after → RestPost config outcome after :=
  (Pool.run_obeys (fun i => (calls i).program_obeys) run).1 i

/-- What a pass that is over says. -/
theorem post_of_run {i : ι} {outcome : Except SettlementError Unit}
    (run : Run (Pool.Step PassServe) (passPool config tables calls) labels final)
    (distinct : DistinctTokens (final.log i)) (rest : calls i = .rest)
    (done : final.program i = .done outcome) : RestPost config outcome (final.log i) := by
  have obeys := obeys_of_run run i
  rw [done] at obeys
  exact obeys rest (sound_of_run run i) distinct

/-- A pass that returns has proved the books, and only such a pass changes the cursors. -/
theorem pass_proves_books (distinct : ∀ i, DistinctTokens (final.log i))
    (run : Run (Pool.Step PassServe) (passPool config tables calls) labels final) :
    (∀ i, calls i = .rest → final.program i = .done (.ok ()) →
        ProvesBooks config (final.log i)) ∧
      Run (fun pool label next => Pool.Step PassServe pool label next ∧
          AdvancesOnProof config calls final pool label next)
        (passPool config tables calls) labels final := by
  refine ⟨fun i rest done => (post_of_run run (distinct i) rest done).proves rfl,
    run.of_splits fun front label back mid next split before step after => ?_⟩
  have served := step.serves
  have good : CallObeys config (calls label.1) (mid.log label.1) label.2 := by
    obtain ⟨resume, shared, here, -, -⟩ := step
    have obeys := obeys_of_run before label.1
    rw [here] at obeys
    exact (obeys label.2.answer).1
  have logged : final.log label.1 = mid.log label.1 ++ label.2 :: Pool.own label.1 back := by
    rw [Pool.log_of_run (.cons step after) label.1, Pool.own_cons_self]
  refine ⟨fun changed => ?_, fun _ read => served.tradeAfter read,
    fun _ read => served.activityStart read, good.obeys.trades, good.obeys.activities⟩
  have advances := served.cursors.resolve_left changed
  obtain ⟨rest, proves⟩ := good.advances advances
  have earlier : mid.log label.1 <+: final.log label.1 := logged ▸ List.prefix_append _ _
  refine ⟨rest, proves (sound_of_run before label.1).iterates
    ((distinct label.1).earlier earlier), fun problem failed => ?_⟩
  refine (post_of_run run (distinct label.1) rest failed).keeps problem rfl label.2 ?_ advances
  rw [logged]
  exact List.mem_append_right _ List.mem_cons_self

end Runs

/-! ### A pass that returns -/

/-- The answers of a store without orders, with a ledger. -/
def answerStore (ledger : FillLedgerSnapshot) :
    (request : StoreRequest) → Except SettlementError request.Response
  | .reconcileOrder _ => .ok ()
  | .reconcileOpenOrderSnapshot _ => .ok ([] : List String)
  | .durableOrderIds _ => .ok ([] : List String)
  | .reconcileTrade _ => .ok ()
  | .pendingTradeIds => .ok ([] : List String)
  | .confirmOrdersAbsent _ => .ok ()
  | .reconcileAccountActivity _ => .ok ()
  | .reconcileActivityScope _ _ => .ok ()
  | .recordQuarantine _ => .ok ()
  | .positionOutcomes positions =>
      .ok (positions.foldl (fun outcomeMap key => outcomeMap.set key .yes) .empty)
  | .saveMarket _ => .ok ()
  | .fillLedgerSnapshot _ => .ok ledger
  | .reconcilePositions _ => .ok ()

/-- The answers of an exchange that lists positions only. -/
def answerExchange (positions : List ExchangePosition) :
    (request : ExchangeRequest) → Except SettlementError request.Response
  | .nextOpenOrder => .ok (none : Option UserOrderUpdate)
  | .getOrder _ => .ok (none : Option UserOrderUpdate)
  | .nextTrade _ => .ok (none : Option AccountTrade)
  | .nextTradeOf tradeId => .ok (none : Option { trade : AccountTrade // trade.id = tradeId })
  | .nextActivity _ => .ok (none : Option AccountActivityUpdate)
  | .listPositions => .ok positions
  | .getMarketByCondition _ => .error (.foreign "TimeoutError")

/-- One way to answer every request. -/
def answerPass (positions : List ExchangePosition) (ledger : FillLedgerSnapshot)
    (reconciler : Reconciler) :
    (request : PassRequest) → Except SettlementError request.Response × Reconciler
  | .memory request => (.ok (reconciler.remember request).1, (reconciler.remember request).2)
  | .acquire lock =>
      if lock ∈ reconciler.held then (.error (.foreign "CancelledError"), reconciler)
      else (.ok (), { reconciler with held := lock :: reconciler.held })
  | .release lock => (.ok (), { reconciler with held := reconciler.held.erase lock })
  | .now => (.ok (0 : Instant), reconciler)
  | .iterate values => (.ok values, reconciler)
  | .durableRows table _ => (.ok (reconciler.rows table), reconciler)
  | .store request => (answerStore ledger request, reconciler)
  | .exchange request => (answerExchange positions request, reconciler)
  | .fillCallback _ => (.ok (), reconciler)
  | .reserve table row =>
      if fresh : ((reconciler.rows table ++ [row]).map DurableRow.id).Nodup then
        (.ok (), { reconciler with
          tables := Function.update reconciler.tables table ⟨reconciler.rows table ++ [row], fresh⟩ })
      else (.error (.foreign "APIError"), reconciler)

theorem answerPass_serves (positions : List ExchangePosition) (ledger : FillLedgerSnapshot)
    (reconciler : Reconciler) (request : PassRequest) :
    PassServe reconciler ⟨request, (answerPass positions ledger reconciler request).1⟩
      (answerPass positions ledger reconciler request).2 := by
  cases request with
  | memory request => exact .recalled request
  | acquire lock =>
      by_cases held : lock ∈ reconciler.held
      · rw [show answerPass positions ledger reconciler (.acquire lock) = (.error _, reconciler) from
          if_pos held]
        exact .cancelled lock _
      · rw [show answerPass positions ledger reconciler (.acquire lock) = (.ok (), _) from
          if_neg held]
        exact .acquired lock held
  | release lock => exact .released lock
  | now => exact .clock 0
  | iterate values => exact .iterated values values (.refl values)
  | durableRows table page => exact .read table page
  | store request => exact .stored request _ _ (.inl rfl)
  | exchange request => exact .exchanged request _
  | fillCallback update => exact .called update _
  | reserve table row =>
      by_cases fresh : ((reconciler.rows table ++ [row]).map DurableRow.id).Nodup
      · rw [show answerPass positions ledger reconciler (.reserve table row) = (.ok (), _) from
          dif_pos fresh]
        exact .reserved table row _ _
          ⟨reconciler.rows table, [], _, (List.append_nil _).symm, rfl, rfl⟩
      · rw [show answerPass positions ledger reconciler (.reserve table row) =
          (.error _, reconciler) from dif_neg fresh]
        exact .refused table row _

/-- A ledger without tokens. -/
def emptyLedger : FillLedgerSnapshot :=
  ⟨0, .empty, .empty, .empty, ∅⟩

/-- Quarantine is on, and there is nothing else. -/
def quarantineConfig : ReconcilerConfig :=
  ⟨none, true, false, false⟩

/-- The exchange lists a token of the ledger and a foreign one. -/
def twoPositions : List ExchangePosition :=
  [⟨some "condition", some "foreign", .value 2, .value 1, .value 1, none, none, none⟩,
    ⟨some "condition", some "owned", .value 1, .value 1, .value 1, none, none, none⟩]

def ownedLedger : FillLedgerSnapshot :=
  { emptyLedger with tokenQuantities := Dict.empty.set "owned" 1 }

/-- One pass over an empty store. -/
def onePassPool : PassPool Unit :=
  passPool quarantineConfig (fun _ => ⟨[], List.nodup_nil⟩) fun _ => .rest

/-- The pass of this pool has returned. -/
def hasReturned (pool : PassPool Unit) : Bool :=
  match pool.program () with
  | .done (.ok _) => true
  | _ => false

/-- The pass quarantines the foreign position and proves the books. -/
theorem returning_pass_proves :
    ∃ labels final, Run (Pool.Step PassServe) onePassPool labels final ∧
      final.shared.quarantinedTokens = ["foreign"] ∧ ProvesBooks quarantineConfig (final.log ()) := by
  have replayed : (Pool.replay (fun _ => answerPass twoPositions ownedLedger)
      (List.replicate 27 ()) onePassPool).map
        (fun (result : List (Unit × PassEvent) × PassPool Unit) =>
          decide (hasReturned result.2 = true ∧
            (∀ listed ∈ listedPositions (result.2.log ()),
              (listed.map ExchangePosition.tokenId).Nodup) ∧
            result.2.shared.quarantinedTokens = ["foreign"])) = some true := by
    decide +kernel
  obtain ⟨⟨labels, final⟩, replay, shown⟩ := Option.map_eq_some_iff.mp replayed
  obtain ⟨returned, distinct, quarantined⟩ := of_decide_eq_true shown
  have run := Pool.replay_run (fun (_ : Unit) => answerPass_serves twoPositions ownedLedger) replay
  refine ⟨labels, final, run, quarantined, (pass_proves_books (fun _ => distinct) run).1 () rfl ?_⟩
  unfold hasReturned at returned
  split at returned
  · rename_i done
    exact done
  · cases returned

end Polybot
