import Polybot.Ledger.Conservation

/-!
The cutoff of the replay, and what the replay reports.

`ledgerStep_realized` factors a step into its effect on the books, which no
cutoff enters, and the gain that is counted from the cutoff on. Everything the
snapshot says besides the realised profit is therefore the same for every
`since`, and two cutoffs differ by the gains between them.
-/

namespace Polybot

open Interaction

variable {cutoff : Instant} {state next : LedgerState} {event : LedgerEvent}

/-! ### The books -/

/-- The state without the realised profit. -/
def LedgerState.books (state : LedgerState) : LedgerState :=
  { state with realized := 0 }

/-- What the event adds to the realised profit when it is counted. -/
def gain (state : LedgerState) (event : LedgerEvent) : ℚ :=
  match ledgerStep event.matchedAt state.books event with
  | .ok next => next.realized
  | .error _ => 0

/-- The state reached from `books`, with the realised profit of `state` and the
gain of the event if it is counted. -/
def LedgerState.withGain (books state : LedgerState) (cutoff matchedAt : Instant) : LedgerState :=
  { books with realized := state.realize cutoff matchedAt books.realized }

theorem redeemedState_realized (cutoff matchedAt : Instant) (state : LedgerState)
    (tokens : List String) (amount : ℚ) :
    redeemedState cutoff matchedAt state tokens amount =
      (redeemedState matchedAt matchedAt state.books tokens amount).withGain state cutoff
        matchedAt := by
  simp [redeemedState, LedgerState.withGain, LedgerState.books, LedgerState.realize,
    LedgerState.position]

theorem soldState_realized (cutoff matchedAt : Instant) (state : LedgerState) (fill : LedgerFill) :
    soldState cutoff matchedAt state fill =
      (soldState matchedAt matchedAt state.books fill).withGain state cutoff matchedAt := by
  simp [soldState, LedgerState.withGain, LedgerState.books, LedgerState.realize,
    LedgerState.position]

theorem buyStep_realized (cutoff matchedAt : Instant) (state : LedgerState) (fill : LedgerFill) :
    buyStep state fill = (buyStep state.books fill).withGain state cutoff matchedAt := by
  simp [buyStep, LedgerState.withGain, LedgerState.books, LedgerState.realize,
    LedgerState.position]

theorem marked_realized (cutoff matchedAt : Instant) (state : LedgerState) (event : LedgerEvent) :
    state.marked event = (state.books.marked event).withGain state cutoff matchedAt := by
  simp [LedgerState.marked, LedgerState.withGain, LedgerState.books, LedgerState.realize]

/-- A step is its effect on the books, and its gain if it is counted. -/
theorem ledgerStep_realized (cutoff : Instant) (state : LedgerState) (event : LedgerEvent) :
    ledgerStep cutoff state event =
      (ledgerStep event.matchedAt state.books event).map
        fun next => next.withGain state cutoff event.matchedAt := by
  unfold ledgerStep
  by_cases activity : event.eventType ≠ "FILL"
  · rw [if_pos activity, if_pos activity]
    by_cases unsupported : event.eventType ≠ "REDEEM"
    · rw [if_pos unsupported, if_pos unsupported]
      rfl
    · rw [if_neg unsupported, if_neg unsupported]
      unfold redeemStep
      cases decimal event.row.amountUsd (some 0) "amount_usd" with
      | error problem => rfl
      | ok amount =>
          simp only [Bind.bind, Except.bind, pure, Except.pure]
          by_cases unsound : Text.strip event.row.conditionId = "" ∨ amount < 0
          · rw [if_pos unsound, if_pos unsound]
            rfl
          · rw [if_neg unsound, if_neg unsound]
            rw [show state.books.heldTokens (Text.strip event.row.conditionId) =
              state.heldTokens (Text.strip event.row.conditionId) from rfl]
            by_cases nothing : state.heldTokens (Text.strip event.row.conditionId) = []
            · rw [if_pos nothing, if_pos nothing]
              by_cases owed : amount > 1 / 1000000
              · rw [if_pos owed, if_pos owed]
                rfl
              · rw [if_neg owed, if_neg owed]
                exact congrArg Except.ok (marked_realized _ _ _ _)
            · rw [if_neg nothing, if_neg nothing]
              exact congrArg Except.ok (redeemedState_realized _ _ _ _ _)
  · rw [if_neg activity, if_neg activity, show readFill state.books event.row =
      readFill state event.row from rfl]
    cases readFill state event.row with
    | error problem => rfl
    | ok fill =>
        simp only [Bind.bind, Except.bind]
        cases fill.side with
        | buy => exact congrArg Except.ok (buyStep_realized _ _ _ _)
        | sell =>
            show sellStep _ _ _ _ = (sellStep _ _ _ _).map _
            unfold sellStep
            dsimp only
            rw [show state.books.position fill.tokenId = state.position fill.tokenId from rfl]
            by_cases short : (state.position fill.tokenId).1 ≤ 0 ∨
                fill.size - (state.position fill.tokenId).1 > tolerance
            · rw [if_pos short, if_pos short]
              rfl
            · rw [if_neg short, if_neg short]
              exact congrArg Except.ok (soldState_realized _ _ _ _)

/-- What the cutoff can change in a state is the realised profit. -/
theorem ledgerStep_books (cutoff cutoff' : Instant) {state state' : LedgerState}
    (same : state.books = state'.books) (event : LedgerEvent) :
    (ledgerStep cutoff state event).map LedgerState.books =
      (ledgerStep cutoff' state' event).map LedgerState.books := by
  rw [ledgerStep_realized cutoff, ledgerStep_realized cutoff', same]
  cases ledgerStep event.matchedAt state'.books event <;> rfl

theorem replay_books (cutoff cutoff' : Instant) (events : List LedgerEvent)
    {state state' : LedgerState} (same : state.books = state'.books) :
    (events.foldlM (ledgerStep cutoff) state).map LedgerState.books =
      (events.foldlM (ledgerStep cutoff') state').map LedgerState.books := by
  induction events generalizing state state' with
  | nil => simpa [pure, Except.pure, Except.map] using same
  | cons event events ih =>
      have here := ledgerStep_books cutoff cutoff' same event
      rw [List.foldlM_cons, List.foldlM_cons]
      cases first : ledgerStep cutoff state event with
      | error problem =>
          cases first' : ledgerStep cutoff' state' event with
          | error problem' => simpa [first, first', Except.map, Bind.bind, Except.bind] using here
          | ok next' => simp [first, first', Except.map] at here
      | ok next =>
          cases first' : ledgerStep cutoff' state' event with
          | error problem' => simp [first, first', Except.map] at here
          | ok next' =>
              simp only [first, first', Except.map, Except.ok.injEq] at here
              exact ih here

/-! ### The realised gains -/

theorem realized_of_step (accepted : ledgerStep cutoff state event = .ok next) :
    next.realized = state.realized + if cutoff ≤ event.matchedAt then gain state event else 0 := by
  rw [ledgerStep_realized] at accepted
  unfold gain
  cases books : ledgerStep event.matchedAt state.books event with
  | error problem => simp [books, Except.map] at accepted
  | ok after =>
      simp only [books, Except.map, Except.ok.injEq] at accepted
      subst accepted
      simp only [LedgerState.withGain, LedgerState.realize, ge_iff_le]
      split <;> simp

/-- Only sales and redemptions gain or lose anything. -/
theorem gain_of_other (other : ¬ (event.Sells ∨ event.Redeems)) (state : LedgerState) :
    gain state event = 0 := by
  unfold gain
  cases books : ledgerStep event.matchedAt state.books event with
  | error problem => rfl
  | ok next =>
      cases ledgerStep_cases books with
      | buy fill _ _ => rfl
      | sell fill sells _ _ _ => exact absurd (.inl sells) other
      | redeemNothing redeems _ => exact absurd (.inr redeems) other
      | redeem redeems _ => exact absurd (.inr redeems) other

/-- The gain of every event of a replay. No cutoff enters it: the books that an
event is replayed on do not depend on one. -/
def realizedGains (state : LedgerState) : List LedgerEvent → List (LedgerEvent × ℚ)
  | [] => []
  | event :: events =>
      (event, gain state event) ::
        match ledgerStep event.matchedAt state.books event with
        | .ok next => realizedGains next events
        | .error _ => []

theorem gain_books {state' : LedgerState} (same : state.books = state'.books) :
    gain state event = gain state' event := by
  unfold gain
  rw [same]

theorem realizedGains_books {state' : LedgerState} (same : state.books = state'.books)
    (events : List LedgerEvent) : realizedGains state events = realizedGains state' events := by
  cases events with
  | nil => rfl
  | cons event events =>
      unfold realizedGains
      rw [gain_books same, same]

/-- The gains counted from `cutoff` on. -/
def countedGains (gains : List (LedgerEvent × ℚ)) (cutoff : Instant) : ℚ :=
  ((gains.filter fun entry => cutoff ≤ entry.1.matchedAt).map Prod.snd).sum

theorem countedGains_cons (entry : LedgerEvent × ℚ) (gains : List (LedgerEvent × ℚ))
    (cutoff : Instant) :
    countedGains (entry :: gains) cutoff =
      (if cutoff ≤ entry.1.matchedAt then entry.2 else 0) + countedGains gains cutoff := by
  unfold countedGains
  by_cases counted : cutoff ≤ entry.1.matchedAt <;> simp [counted]

/-- A replay realises the gains from the cutoff on. -/
theorem realized_of_replay {events : List LedgerEvent} {state final : LedgerState}
    (accepted : events.foldlM (ledgerStep cutoff) state = .ok final) :
    final.realized = state.realized + countedGains (realizedGains state events) cutoff := by
  induction events generalizing state with
  | nil =>
      cases accepted
      simp [realizedGains, countedGains]
  | cons event events ih =>
      rw [List.foldlM_cons, Checked.bind_ok_iff] at accepted
      obtain ⟨next, first, rest⟩ := accepted
      have books : (ledgerStep event.matchedAt state.books event).map LedgerState.books =
          .ok next.books := by
        have same : state.books.books = state.books := rfl
        rw [ledgerStep_books event.matchedAt cutoff same, first]
        rfl
      unfold realizedGains
      rw [countedGains_cons]
      cases after : ledgerStep event.matchedAt state.books event with
      | error problem => simp [after, Except.map] at books
      | ok other =>
          simp only [after, Except.map, Except.ok.injEq] at books
          dsimp only
          rw [ih rest, realized_of_step first, realizedGains_books books]
          ring

/-- The gains of the sales and redemptions in `[t₁, t₂)`. -/
def gainsBetween (gains : List (LedgerEvent × ℚ)) (t₁ t₂ : Instant) : ℚ :=
  ((gains.filter fun entry => t₁ ≤ entry.1.matchedAt ∧ entry.1.matchedAt < t₂ ∧
    (entry.1.Sells ∨ entry.1.Redeems)).map Prod.snd).sum

theorem countedGains_sub (state : LedgerState) (events : List LedgerEvent) {t₁ t₂ : Instant}
    (ordered : t₁ ≤ t₂) :
    countedGains (realizedGains state events) t₁ - countedGains (realizedGains state events) t₂ =
      gainsBetween (realizedGains state events) t₁ t₂ := by
  induction events generalizing state with
  | nil => simp [realizedGains, countedGains, gainsBetween]
  | cons event events ih =>
      have rest : ∀ gains : List (LedgerEvent × ℚ),
          gainsBetween ((event, gain state event) :: gains) t₁ t₂ =
            (if t₁ ≤ event.matchedAt ∧ event.matchedAt < t₂ then gain state event else 0) +
              gainsBetween gains t₁ t₂ := by
        intro gains
        unfold gainsBetween
        by_cases within : t₁ ≤ event.matchedAt ∧ event.matchedAt < t₂
        · by_cases matters : event.Sells ∨ event.Redeems
          · simp [within, matters]
          · simp [within, matters, gain_of_other matters]
        · simp [← and_assoc, within]
      have head : (if t₁ ≤ event.matchedAt then gain state event else 0) -
          (if t₂ ≤ event.matchedAt then gain state event else 0) =
            if t₁ ≤ event.matchedAt ∧ event.matchedAt < t₂ then gain state event else 0 := by
        by_cases late : t₂ ≤ event.matchedAt
        · simp [late, ordered.trans late, not_lt.mpr late]
        · by_cases counted : t₁ ≤ event.matchedAt <;> simp [late, counted, not_le.mp late]
      unfold realizedGains
      rw [countedGains_cons, countedGains_cons, rest, ← head]
      cases after : ledgerStep event.matchedAt state.books event with
      | error problem => simp [countedGains, gainsBetween]
      | ok next =>
          dsimp only
          rw [← ih next]
          ring

/-! ### What the replay reports -/

/-- The events at which a replay with this cutoff is clean. -/
def CleanReplay (cutoff : Instant) (events : List LedgerEvent) : Prop :=
  ∀ front event back state, events = front ++ event :: back →
    front.foldlM (ledgerStep cutoff) .initial = .ok state → CleanStep state event

instance (state : LedgerState) (event : LedgerEvent) : Decidable (CleanStep state event) :=
  decidable_of_iff ((event.Sells → event.size ≤ (state.position event.tokenId).1) ∧
    (event.Sells → (state.position event.tokenId).1 - event.size = 0 ∨
      tolerance < (state.position event.tokenId).1 - event.size) ∧
    (event.Redeems → state.heldTokens event.conditionId ≠ [] ∨ event.row.amountUsd.number = 0))
    ⟨fun h => ⟨h.1, h.2.1, h.2.2⟩, fun h => ⟨h.covered, h.leaves, h.releases⟩⟩

/-- `CleanReplay`, checked along the replay. -/
def cleanFrom (cutoff : Instant) (state : LedgerState) : List LedgerEvent → Bool
  | [] => true
  | event :: events =>
      decide (CleanStep state event) &&
        match ledgerStep cutoff state event with
        | .ok next => cleanFrom cutoff next events
        | .error _ => true

theorem cleanReplay_of_cleanFrom {events : List LedgerEvent}
    (checked : cleanFrom cutoff .initial events = true) : CleanReplay cutoff events := by
  intro front event back final split replayed
  revert checked replayed
  subst split
  generalize LedgerState.initial = state
  induction front generalizing state with
  | nil =>
      intro checked replayed
      cases replayed
      exact of_decide_eq_true (Bool.and_eq_true_iff.mp checked).1
  | cons first front ih =>
      intro checked replayed
      rw [List.foldlM_cons, Checked.bind_ok_iff] at replayed
      obtain ⟨next, accepted, replayed⟩ := replayed
      have later := (Bool.and_eq_true_iff.mp checked).2
      rw [accepted] at later
      exact ih next later replayed

/-- The snapshot without the realised profit. -/
def FillLedgerSnapshot.basis (snapshot : FillLedgerSnapshot) : FillLedgerSnapshot :=
  { snapshot with realizedPnlUsd := 0 }

theorem replayFillLedger_ok_iff {rows activities : List LedgerRow} {cutoff : Instant}
    {snapshot : FillLedgerSnapshot} :
    replayFillLedger rows (.aware cutoff) activities = .ok snapshot ↔
      ∃ events final, orderedEvents rows activities = .ok events ∧
        events.foldlM (ledgerStep cutoff) .initial = .ok final ∧ final.snapshot = snapshot := by
  unfold replayFillLedger
  simp only [Checked.bind_ok_iff, pure, Except.pure, Except.ok.injEq]
  constructor
  · rintro ⟨events, ordered, final, replayed, reported⟩
    exact ⟨events, final, ordered, replayed, reported⟩
  · rintro ⟨events, final, ordered, replayed, reported⟩
    exact ⟨events, ordered, final, replayed, reported⟩

/-- The reported costs are the costs of all positions. -/
theorem snapshot_cost {state : LedgerState} (sound : state.Sound) :
    state.snapshot.tokenCostsUsd.sum (fun _ cost => cost) = state.cost := by
  unfold LedgerState.snapshot LedgerState.cost
  rw [Dict.sum_filterMap]
  refine Dict.sum_congr fun token held member => ?_
  have entry := sound token
  rw [position_eq (Dict.get?_eq_some_iff.mpr member)] at entry
  by_cases positive : held.1 > 0
  · simp [positive]
  · have none : held.1 = 0 := le_antisymm (not_lt.mp positive) entry.1
    simp [none, entry.2.2 none]

/-- What is reported of a token is its position. -/
theorem snapshot_quantity {token : String} {quantity : ℚ}
    (reported : state.snapshot.tokenQuantities.get? token = some quantity) :
    0 < quantity ∧ (state.position token).1 = quantity := by
  unfold LedgerState.snapshot at reported
  rw [Dict.get?_filterMap, Option.bind_eq_some_iff] at reported
  obtain ⟨held, found, chosen⟩ := reported
  rw [position_eq found]
  split at chosen
  · rename_i positive
    cases chosen
    exact ⟨positive, rfl⟩
  · cases chosen

theorem snapshot_cost_nonneg {token : String} {cost : ℚ} (sound : state.Sound)
    (reported : state.snapshot.tokenCostsUsd.get? token = some cost) : 0 ≤ cost := by
  unfold LedgerState.snapshot at reported
  rw [Dict.get?_filterMap, Option.bind_eq_some_iff] at reported
  obtain ⟨held, found, chosen⟩ := reported
  have entry := sound token
  rw [position_eq found] at entry
  split at chosen
  · cases chosen
    exact entry.2.1
  · cases chosen

/-- Skipping failed rows beforehand changes nothing. -/
theorem orderedEvents_filter (rows activities : List LedgerRow) :
    orderedEvents (rows.filter fun row => !settlementFailed row) activities =
      orderedEvents rows activities := by
  unfold orderedEvents
  rw [List.filter_filter]
  simp only [Bool.and_self]

/-- A sale beyond the held quantity is not replayed. -/
theorem sell_covered (accepted : ledgerStep cutoff state event = .ok next) (sells : event.Sells) :
    event.size - (state.position event.tokenId).1 ≤ tolerance := by
  cases ledgerStep_cases accepted with
  | buy fill buys _ => exact absurd sells buys.not_sells
  | sell fill _ _ _ covered => exact covered
  | redeemNothing redeems _ => exact absurd redeems sells.not_redeems
  | redeem redeems _ => exact absurd redeems sells.not_redeems

/-- The profit, quantities and costs that a clean replay reports. -/
structure Conserves (events : List LedgerEvent) (snapshot : FillLedgerSnapshot) : Prop where
  profit : snapshot.realizedPnlUsd =
    (events.map LedgerEvent.sellProceeds).sum + (events.map LedgerEvent.redeemAmount).sum -
      (events.map LedgerEvent.buyCost).sum + snapshot.tokenCostsUsd.sum fun _ cost => cost
  quantity : ∀ token quantity, snapshot.tokenQuantities.get? token = some quantity →
    0 < quantity ∧ quantity = (tokenHistory token events).net
  cost : ∀ token cost, snapshot.tokenCostsUsd.get? token = some cost → 0 ≤ cost

theorem conserves_of_clean {rows activities : List LedgerRow} {events : List LedgerEvent}
    {snapshot : FillLedgerSnapshot} (ordered : orderedEvents rows activities = .ok events)
    (accepted : replayFillLedger rows (.aware cutoff) activities = .ok snapshot)
    (clean : CleanReplay cutoff events) (early : ∀ event ∈ events, cutoff ≤ event.matchedAt) :
    Conserves events snapshot := by
  obtain ⟨events', final, ordered', replayed, rfl⟩ := replayFillLedger_ok_iff.mp accepted
  rw [ordered] at ordered'
  cases ordered'
  have run : Run (Replays cutoff) .initial events final := Run.foldlM_iff.mpr replayed
  have counted := run.of_prefixes
    (Q := fun s e => CleanStep s e ∧ cutoff ≤ e.matchedAt)
    fun front event back mid split before =>
      ⟨clean front event back mid split (Run.foldlM_iff.mp before),
        early event (by simp [split])⟩
  obtain ⟨sound, balance⟩ := conserved counted
  refine ⟨?_, fun token quantity reported => ?_, fun _ _ => snapshot_cost_nonneg sound⟩
  · rw [snapshot_cost sound, ← balance]
    show final.realized = _
    ring
  · obtain ⟨positive, held⟩ := snapshot_quantity reported
    refine ⟨positive, held.symm.trans ?_⟩
    exact (tracked (counted.mono fun s e t both => ⟨both.1, both.2.1⟩) token).2

/-- The cutoff does not change the positions and their cost. -/
theorem basis_of_cutoff (rows activities : List LedgerRow) (cutoff cutoff' : Instant) :
    (replayFillLedger rows (.aware cutoff) activities).map FillLedgerSnapshot.basis =
      (replayFillLedger rows (.aware cutoff') activities).map FillLedgerSnapshot.basis := by
  unfold replayFillLedger
  cases orderedEvents rows activities with
  | error problem => simp only [Bind.bind, Except.bind, Except.map]
  | ok events =>
      have books := replay_books cutoff cutoff' events (show LedgerState.initial.books = _ from rfl)
      show (Except.map _ (events.foldlM (ledgerStep cutoff) .initial >>= _)) =
        Except.map _ (events.foldlM (ledgerStep cutoff') .initial >>= _)
      cases first : events.foldlM (ledgerStep cutoff) .initial with
      | error problem =>
          cases second : events.foldlM (ledgerStep cutoff') .initial with
          | error problem' =>
              simpa [first, second, Except.map, Bind.bind, Except.bind] using books
          | ok final' => simp [first, second, Except.map] at books
      | ok final =>
          cases second : events.foldlM (ledgerStep cutoff') .initial with
          | error problem' => simp [first, second, Except.map] at books
          | ok final' =>
              simp only [first, second, Except.map, Except.ok.injEq] at books
              exact congrArg (fun books => Except.ok (LedgerState.snapshot books)) books

/-- A sale beyond the position and the tolerance is refused. -/
theorem oversold_refused {rows activities : List LedgerRow} {cutoff : Instant}
    {front back : List LedgerEvent} {event : LedgerEvent} {state : LedgerState}
    (ordered : orderedEvents rows activities = .ok (front ++ event :: back))
    (before : front.foldlM (ledgerStep cutoff) .initial = .ok state) (sells : event.Sells)
    (beyond : tolerance < event.size - (state.position event.tokenId).1) :
    ∃ problem, replayFillLedger rows (.aware cutoff) activities = .error problem := by
  cases outcome : replayFillLedger rows (.aware cutoff) activities with
  | error problem => exact ⟨problem, rfl⟩
  | ok snapshot =>
      obtain ⟨events, final, ordered', replayed, -⟩ := replayFillLedger_ok_iff.mp outcome
      rw [ordered] at ordered'
      cases ordered'
      rw [List.foldlM_append, Checked.bind_ok_iff] at replayed
      obtain ⟨mid, before', after⟩ := replayed
      rw [before] at before'
      cases before'
      rw [List.foldlM_cons, Checked.bind_ok_iff] at after
      obtain ⟨next, accepted, -⟩ := after
      exact absurd (sell_covered accepted sells) (not_le.mpr beyond)

/-- The fill ledger conserves money. A clean replay whose cutoff is not after
any event accounts for every cent and every share. Whatever the rows are, `since`
changes nothing but the realised profit, two cutoffs differ by the gains of the
sales and redemptions between them, `FAILED` rows have no effect, and a SELL
beyond the held quantity raises. -/
theorem fill_ledger_conserves (rows activities : List LedgerRow) :
    (∀ cutoff events snapshot, orderedEvents rows activities = .ok events →
      replayFillLedger rows (.aware cutoff) activities = .ok snapshot →
      CleanReplay cutoff events → (∀ event ∈ events, cutoff ≤ event.matchedAt) →
      Conserves events snapshot) ∧
    (∀ cutoff cutoff', (replayFillLedger rows (.aware cutoff) activities).map
        FillLedgerSnapshot.basis =
      (replayFillLedger rows (.aware cutoff') activities).map FillLedgerSnapshot.basis) ∧
    (∀ t₁ t₂ events snapshot₁ snapshot₂, t₁ ≤ t₂ → orderedEvents rows activities = .ok events →
      replayFillLedger rows (.aware t₁) activities = .ok snapshot₁ →
      replayFillLedger rows (.aware t₂) activities = .ok snapshot₂ →
      snapshot₁.realizedPnlUsd - snapshot₂.realizedPnlUsd =
        gainsBetween (realizedGains .initial events) t₁ t₂) ∧
    (∀ since, replayFillLedger (rows.filter fun row => !settlementFailed row) since activities =
      replayFillLedger rows since activities) ∧
    (∀ cutoff front event back state, orderedEvents rows activities =
        .ok (front ++ event :: back) →
      front.foldlM (ledgerStep cutoff) .initial = .ok state → event.Sells →
      tolerance < event.size - (state.position event.tokenId).1 →
      ∃ problem, replayFillLedger rows (.aware cutoff) activities = .error problem) := by
  refine ⟨fun cutoff events snapshot => conserves_of_clean,
    fun cutoff cutoff' => basis_of_cutoff rows activities cutoff cutoff', ?_, ?_, ?_⟩
  · intro t₁ t₂ events snapshot₁ snapshot₂ order ordered accepted₁ accepted₂
    obtain ⟨events₁, final₁, ordered₁, replayed₁, rfl⟩ := replayFillLedger_ok_iff.mp accepted₁
    obtain ⟨events₂, final₂, ordered₂, replayed₂, rfl⟩ := replayFillLedger_ok_iff.mp accepted₂
    rw [ordered] at ordered₁ ordered₂
    cases ordered₁
    cases ordered₂
    show final₁.realized - final₂.realized = _
    rw [realized_of_replay replayed₁, realized_of_replay replayed₂, ← countedGains_sub _ _ order]
    ring
  · intro since
    unfold replayFillLedger
    rw [orderedEvents_filter]
  · intro cutoff front event back state ordered before sells beyond
    exact oversold_refused ordered before sells beyond

/-- A fill row of the token `yes` of the condition `condition`. -/
def sampleFill (key side : String) (at' : Instant) (price size fee : ℚ) : LedgerRow :=
  ⟨"CONFIRMED", .stamp (.aware at'), .missing, key, "yes", "condition", side, .value price,
    .value size, .value fee, .missing, "", "", .missing⟩

/-- A redemption of the condition `condition`. -/
def sampleRedeem (key : String) (at' : Instant) (amount : ℚ) : LedgerRow :=
  ⟨"", .missing, .missing, "", "", "condition", "", .missing, .missing, .missing,
    .stamp (.aware at'), "redeem", key, .value amount⟩

/-- Ten shares are bought, four are sold, the rest is redeemed and one more is
bought: the replay is clean and conserves. -/
theorem sampleLedger_conserves :
    ∃ events snapshot, orderedEvents
        [sampleFill "f3" "BUY" 9 (1 / 5) 1 0, sampleFill "f1" "BUY" 1 (2 / 5) 10 (1 / 10),
          sampleFill "f2" "sell" 2 (1 / 2) 4 (1 / 20)] [sampleRedeem "r" 3 6] = .ok events ∧
      Conserves events snapshot := by
  let rows := [sampleFill "f3" "BUY" 9 (1 / 5) 1 0, sampleFill "f1" "BUY" 1 (2 / 5) 10 (1 / 10),
    sampleFill "f2" "sell" 2 (1 / 2) 4 (1 / 20)]
  let activities := [sampleRedeem "r" 3 6]
  obtain ⟨events, ordered, clean, early⟩ := Checked.exists_of_okAnd (show Checked.okAnd
    (orderedEvents rows activities) (fun events => cleanFrom 0 .initial events = true ∧
      ∀ event ∈ events, 0 ≤ event.matchedAt) = true by decide +kernel)
  obtain ⟨snapshot, replayed, -⟩ := Checked.exists_of_okAnd (show Checked.okAnd
    (replayFillLedger rows (.aware 0) activities) (fun _ => True) = true by decide +kernel)
  exact ⟨events, snapshot, ordered, (fill_ledger_conserves rows activities).1 0 events snapshot
    ordered replayed (cleanReplay_of_cleanFrom clean) early⟩

end Polybot
