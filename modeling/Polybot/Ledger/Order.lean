import Mathlib.Data.List.Pairwise
import Mathlib.Data.Prod.Lex
import Mathlib.Data.String.Basic
import Polybot.Ledger.Replay

/-!
The order in which the replay takes events of one instant.

The sort key has `created_at` before the kind of the event. A redemption fills that
slot with its own instant, a fill with the time at which its row was stored, so a fill
of the very instant of a redemption comes first only if it was stored by then.
`replay_follows_reference_iff` is the exact condition for the order by event time and
kind.
-/

namespace Polybot

open Checked

/-! ### Sorting by two relations -/

section Sorting

variable {α : Type} {r s : α → α → Prop} [DecidableRel r] [DecidableRel s]

theorem orderedInsert_congr {a : α} {l : List α} (same : ∀ b ∈ l, r a b ↔ s a b) :
    l.orderedInsert r a = l.orderedInsert s a := by
  induction l with
  | nil => rfl
  | cons b rest ih =>
      obtain ⟨here, later⟩ := List.forall_mem_cons.mp same
      rw [List.orderedInsert, List.orderedInsert, ih later]
      simp only [here]

/-- Relations that agree on the elements of a list sort it alike. -/
theorem insertionSort_congr {l : List α} (same : ∀ a ∈ l, ∀ b ∈ l, r a b ↔ s a b) :
    l.insertionSort r = l.insertionSort s := by
  induction l with
  | nil => rfl
  | cons a rest ih =>
      have tail : rest.insertionSort r = rest.insertionSort s :=
        ih fun b inRest c inRest' => same b (List.mem_cons_of_mem _ inRest) c
          (List.mem_cons_of_mem _ inRest')
      rw [List.insertionSort_cons, List.insertionSort_cons, tail]
      exact orderedInsert_congr fun b member => same a List.mem_cons_self b
        (List.mem_cons_of_mem _ ((List.mem_insertionSort s).mp member))

omit [DecidableRel r] [DecidableRel s] in
/-- In a list that two relations order, one of any two elements is before the other by
both. -/
theorem either_before {l : List α} (byR : l.Pairwise r) (byS : l.Pairwise s) {a b : α}
    (inA : a ∈ l) (inB : b ∈ l) (apart : a ≠ b) : (r a b ∧ s a b) ∨ (r b a ∧ s b a) := by
  have both : l.Pairwise fun a b => (r a b ∧ s a b) ∨ (r b a ∧ s b a) :=
    (byR.and byS).imp Or.inl
  have : Std.Symm fun a b => (r a b ∧ s a b) ∨ (r b a ∧ s b a) := ⟨fun _ _ => Or.symm⟩
  exact both.forall inA inB apart

end Sorting

/-! ### The reference replay -/

/-- By event time, at equal event time fills first. -/
def LedgerEvent.NotAfterReference (a b : LedgerEvent) : Prop :=
  a.matchedAt < b.matchedAt ∨ a.matchedAt = b.matchedAt ∧
    (a.kind < b.kind ∨ a.kind = b.kind ∧
      (a.createdAt < b.createdAt ∨ a.createdAt = b.createdAt ∧ a.key ≤ b.key))

instance : DecidableRel LedgerEvent.NotAfterReference := fun _ _ =>
  inferInstanceAs (Decidable (_ ∨ _ ∧ (_ ∨ _ ∧ (_ ∨ _ ∧ _))))

def referenceEvents (rows activities : List LedgerRow) : Except LedgerError (List LedgerEvent) := do
  let fills ← (rows.filter fun row => !settlementFailed row).mapM fillEvent
  let lifecycle ← activities.mapM activityEvent
  pure ((fills ++ lifecycle).insertionSort LedgerEvent.NotAfterReference)

/-- The replay of the events in the reference order. -/
def referenceReplay (rows : List LedgerRow) (since : Datetime) (activities : List LedgerRow) :
    Except LedgerError FillLedgerSnapshot :=
  match since with
  | .naive => .error .naiveSince
  | .aware cutoff => do
      let events ← referenceEvents rows activities
      let final ← events.foldlM (ledgerStep cutoff) .initial
      pure final.snapshot

/-- No activity comes before a fill of its own instant. -/
def FillsFirst (events : List LedgerEvent) : Prop :=
  events.Pairwise fun earlier later =>
    ¬ (later.kind < earlier.kind ∧ earlier.matchedAt = later.matchedAt)

/-- The replay gives what the reference gives, and takes the fills of an instant before
its activities. -/
structure FollowsReference (rows activities : List LedgerRow) : Prop where
  same : ∀ since, replayFillLedger rows since activities = referenceReplay rows since activities
  fillsFirst : ∀ events, orderedEvents rows activities = .ok events → FillsFirst events

/-! ### Readable rows -/

/-- A cell with a timestamp and its zone. -/
def RowTime.Aware (cell : RowTime) : Prop :=
  ∃ instant, cell = .stamp (.aware instant)

/-- The instant of such a cell. -/
def RowTime.instant : RowTime → Instant
  | .stamp (.aware instant) => instant
  | _ => 0

/-- `row.get("created_at") or matched_at`. -/
def LedgerRow.created (row : LedgerRow) : Instant :=
  if row.createdAt = .missing then row.matchedAt.instant else row.createdAt.instant

/-- The timestamps of the rows can be normalised. -/
structure Readable (rows activities : List LedgerRow) : Prop where
  fills : ∀ row ∈ rows, settlementFailed row = false →
    row.matchedAt.Aware ∧ (row.createdAt = .missing ∨ row.createdAt.Aware)
  activities : ∀ activity ∈ activities, activity.occurredAt.Aware

/-- Every fill of the very instant of an activity was stored by then. -/
def StoredInTime (rows activities : List LedgerRow) : Prop :=
  ∀ row ∈ rows, settlementFailed row = false → ∀ activity ∈ activities,
    row.matchedAt.instant = activity.occurredAt.instant → row.created ≤ activity.occurredAt.instant

section Events

variable {row activity : LedgerRow} {rows activities : List LedgerRow} {event : LedgerEvent}
  {events : List LedgerEvent}

def LedgerRow.asFill (row : LedgerRow) : LedgerEvent :=
  ⟨row.matchedAt.instant, row.created, 0, row.fillKey, "FILL", row⟩

def LedgerRow.asActivity (row : LedgerRow) : LedgerEvent :=
  ⟨row.occurredAt.instant, row.occurredAt.instant, 1, row.activityKey,
    Text.upper row.activityType, row⟩

theorem asUtcDatetime_ok_iff {cell : RowTime} {field : String} {instant : Instant} :
    asUtcDatetime cell field = .ok instant ↔ cell.Aware ∧ instant = cell.instant := by
  cases cell with
  | missing => simp [asUtcDatetime, RowTime.Aware]
  | invalid => simp [asUtcDatetime, RowTime.Aware]
  | stamp datetime =>
      cases datetime with
      | naive => simp [asUtcDatetime, RowTime.Aware]
      | aware other => simp [asUtcDatetime, RowTime.Aware, RowTime.instant, eq_comm]

theorem fillEvent_ok_iff : fillEvent row = .ok event ↔
    (row.matchedAt.Aware ∧ (row.createdAt = .missing ∨ row.createdAt.Aware)) ∧
      event = row.asFill := by
  have cell : (if row.createdAt = .missing then .stamp (.aware row.matchedAt.instant)
      else row.createdAt : RowTime).Aware ↔ row.createdAt = .missing ∨ row.createdAt.Aware := by
    split
    · rename_i absent
      exact ⟨fun _ => .inl absent, fun _ => ⟨_, rfl⟩⟩
    · rename_i given
      exact ⟨.inr, fun aware => aware.resolve_left given⟩
  have created : row.created = (if row.createdAt = .missing then
      .stamp (.aware row.matchedAt.instant) else row.createdAt : RowTime).instant := by
    unfold LedgerRow.created
    split <;> rfl
  unfold fillEvent
  simp only [bind_ok_iff, asUtcDatetime_ok_iff]
  constructor
  · rintro ⟨_, ⟨matched, rfl⟩, _, ⟨stored, rfl⟩, made⟩
    cases made
    exact ⟨⟨matched, cell.mp stored⟩, by unfold LedgerRow.asFill; rw [created]⟩
  · rintro ⟨⟨matched, stored⟩, rfl⟩
    exact ⟨_, ⟨matched, rfl⟩, _, ⟨cell.mpr stored, rfl⟩, by unfold LedgerRow.asFill; rw [created]; rfl⟩

theorem activityEvent_ok_iff : activityEvent activity = .ok event ↔
    activity.occurredAt.Aware ∧ event = activity.asActivity := by
  unfold activityEvent
  simp only [bind_ok_iff, asUtcDatetime_ok_iff]
  constructor
  · rintro ⟨_, ⟨occurred, rfl⟩, made⟩
    cases made
    exact ⟨occurred, rfl⟩
  · rintro ⟨occurred, rfl⟩
    exact ⟨_, ⟨occurred, rfl⟩, rfl⟩

/-- The normalised events, before they are sorted. -/
def normalizedEvents (rows activities : List LedgerRow) :
    Except LedgerError (List LedgerEvent) := do
  let fills ← (rows.filter fun row => !settlementFailed row).mapM fillEvent
  let lifecycle ← activities.mapM activityEvent
  pure (fills ++ lifecycle)

def rowEvents (rows activities : List LedgerRow) : List LedgerEvent :=
  (rows.filter fun row => !settlementFailed row).map LedgerRow.asFill ++
    activities.map LedgerRow.asActivity

theorem normalizedEvents_ok_iff : normalizedEvents rows activities = .ok events ↔
    Readable rows activities ∧ events = rowEvents rows activities := by
  unfold normalizedEvents
  simp only [bind_ok_iff, mapM_ok_iff fun _ _ => fillEvent_ok_iff,
    mapM_ok_iff fun _ _ => activityEvent_ok_iff]
  constructor
  · rintro ⟨_, ⟨fills, rfl⟩, _, ⟨lifecycle, rfl⟩, made⟩
    cases made
    refine ⟨⟨fun row member kept => fills row ?_, lifecycle⟩, rfl⟩
    simpa [kept] using member
  · rintro ⟨readable, rfl⟩
    refine ⟨_, ⟨fun row member => ?_, rfl⟩, _, ⟨readable.activities, rfl⟩, rfl⟩
    obtain ⟨inRows, kept⟩ := List.mem_filter.mp member
    exact readable.fills row inRows (by simpa using kept)

theorem orderedEvents_eq : orderedEvents rows activities =
    (normalizedEvents rows activities).map (List.insertionSort LedgerEvent.NotAfter) := by
  unfold orderedEvents normalizedEvents
  cases (rows.filter fun row => !settlementFailed row).mapM fillEvent with
  | error problem => rfl
  | ok fills => cases activities.mapM activityEvent <;> rfl

theorem referenceEvents_eq : referenceEvents rows activities =
    (normalizedEvents rows activities).map
      (List.insertionSort LedgerEvent.NotAfterReference) := by
  unfold referenceEvents normalizedEvents
  cases (rows.filter fun row => !settlementFailed row).mapM fillEvent with
  | error problem => rfl
  | ok fills => cases activities.mapM activityEvent <;> rfl

end Events

/-! ### The two orders -/

section Orders

variable {a b : LedgerEvent} {rows activities : List LedgerRow}

/-- `item[:4]`, compared as a tuple. -/
def LedgerEvent.sortKey (event : LedgerEvent) : Instant ×ₗ Instant ×ₗ ℕ ×ₗ String :=
  toLex (event.matchedAt, toLex (event.createdAt, toLex (event.kind, event.key)))

theorem notAfter_iff : a.NotAfter b ↔ a.sortKey ≤ b.sortKey := by
  simp [LedgerEvent.NotAfter, LedgerEvent.sortKey, Prod.Lex.toLex_le_toLex]

theorem orderedEvents_sorted {events : List LedgerEvent} :
    (events.insertionSort LedgerEvent.NotAfter).Pairwise LedgerEvent.NotAfter := by
  have : IsTrans LedgerEvent LedgerEvent.NotAfter :=
    ⟨fun _ _ _ first second => notAfter_iff.mpr ((notAfter_iff.mp first).trans (notAfter_iff.mp second))⟩
  have : Std.Total LedgerEvent.NotAfter :=
    ⟨fun a b => (le_total a.sortKey b.sortKey).imp notAfter_iff.mpr notAfter_iff.mpr⟩
  exact List.pairwise_insertionSort _ events

/-- An event of a readable row or activity. -/
inductive Sourced (rows activities : List LedgerRow) : LedgerEvent → Prop where
  | fill (row : LedgerRow) (member : row ∈ rows) (kept : settlementFailed row = false) :
      Sourced rows activities row.asFill
  | activity (row : LedgerRow) (member : row ∈ activities) : Sourced rows activities row.asActivity

theorem sourced_of_mem {event : LedgerEvent} (member : event ∈ rowEvents rows activities) :
    Sourced rows activities event := by
  rcases List.mem_append.mp member with fill | activity
  · obtain ⟨row, kept, rfl⟩ := List.mem_map.mp fill
    obtain ⟨inRows, settled⟩ := List.mem_filter.mp kept
    exact .fill row inRows (by simpa using settled)
  · obtain ⟨row, inActivities, rfl⟩ := List.mem_map.mp activity
    exact .activity row inActivities

/-- Where every fill was stored in time, the two orders compare the same. -/
theorem notAfter_iff_reference (stored : StoredInTime rows activities)
    (sourceA : Sourced rows activities a) (sourceB : Sourced rows activities b) :
    a.NotAfter b ↔ a.NotAfterReference b := by
  unfold LedgerEvent.NotAfter LedgerEvent.NotAfterReference
  cases sourceA with
  | fill row member kept =>
      cases sourceB with
      | fill other _ _ => simp [LedgerRow.asFill]
      | activity other inActivities =>
          have inTime := stored row member kept other inActivities
          simp only [LedgerRow.asFill, LedgerRow.asActivity]
          grind
  | activity row member =>
      cases sourceB with
      | fill other inRows kept =>
          have inTime := stored other inRows kept row member
          simp only [LedgerRow.asFill, LedgerRow.asActivity]
          grind
      | activity other _ => simp [LedgerRow.asActivity]

theorem fillsFirst_of_reference {events : List LedgerEvent}
    (sorted : events.Pairwise LedgerEvent.NotAfterReference) : FillsFirst events := by
  refine sorted.imp fun notAfter ⟨activityFirst, sameInstant⟩ => ?_
  unfold LedgerEvent.NotAfterReference at notAfter
  grind

end Orders

/-- The replay follows the reference exactly where the rows cannot be normalised, or
every fill of the instant of an activity was stored by that instant. -/
theorem replay_follows_reference_iff (rows activities : List LedgerRow) :
    FollowsReference rows activities ↔
      (Readable rows activities → StoredInTime rows activities) := by
  constructor
  · intro follows readable row inRows kept activity inActivities sameInstant
    by_contra late
    have read : normalizedEvents rows activities = .ok (rowEvents rows activities) :=
      normalizedEvents_ok_iff.mpr ⟨readable, rfl⟩
    have fillsFirst := follows.fillsFirst _ (orderedEvents_eq.trans (congrArg _ read))
    have inFill : row.asFill ∈ rowEvents rows activities :=
      List.mem_append_left _ (List.mem_map_of_mem (List.mem_filter.mpr ⟨inRows, by simpa using kept⟩))
    have inActivity : activity.asActivity ∈ rowEvents rows activities :=
      List.mem_append_right _ (List.mem_map_of_mem inActivities)
    have apart : row.asFill ≠ activity.asActivity := by
      simp [LedgerRow.asFill, LedgerRow.asActivity]
    rcases either_before orderedEvents_sorted fillsFirst
      ((List.mem_insertionSort _).mpr inFill) ((List.mem_insertionSort _).mpr inActivity) apart
      with ⟨notAfter, _⟩ | ⟨_, notBefore⟩
    · simp only [LedgerEvent.NotAfter, LedgerRow.asFill, LedgerRow.asActivity] at notAfter
      grind
    · exact notBefore ⟨by simp [LedgerRow.asFill, LedgerRow.asActivity], sameInstant.symm⟩
  · intro stored
    cases read : normalizedEvents rows activities with
    | error problem =>
        have ordered := orderedEvents_eq.trans (congrArg _ read)
        have reference := referenceEvents_eq.trans (congrArg _ read)
        refine ⟨fun since => ?_, fun events made => ?_⟩
        · cases since with
          | naive => rfl
          | aware cutoff => simp only [replayFillLedger, referenceReplay, ordered, reference]; rfl
        · rw [ordered] at made
          cases made
    | ok events =>
        obtain ⟨readable, rfl⟩ := normalizedEvents_ok_iff.mp read
        have inOrder : (rowEvents rows activities).insertionSort LedgerEvent.NotAfter =
            (rowEvents rows activities).insertionSort LedgerEvent.NotAfterReference :=
          insertionSort_congr fun a inA b inB => notAfter_iff_reference (stored readable)
            (sourced_of_mem inA) (sourced_of_mem inB)
        have ordered := orderedEvents_eq.trans (congrArg _ read)
        have reference := referenceEvents_eq.trans (congrArg _ read)
        refine ⟨fun since => ?_, fun events made => ?_⟩
        · cases since with
          | naive => rfl
          | aware cutoff =>
              simp only [replayFillLedger, referenceReplay, ordered, reference, Except.map, inOrder]
        · rw [ordered] at made
          cases made
          refine fillsFirst_of_reference (orderedEvents_sorted.imp_of_mem fun inA inB notAfter => ?_)
          exact (notAfter_iff_reference (stored readable)
            (sourced_of_mem ((List.mem_insertionSort _).mp inA))
            (sourced_of_mem ((List.mem_insertionSort _).mp inB))).mp notAfter

/-- A purchase at the instant of the redemption of its token, stored two seconds later. -/
def lateFill : LedgerRow where
  settlementStatus := "CONFIRMED"
  matchedAt := .stamp (.aware 10)
  createdAt := .stamp (.aware 12)
  fillKey := "fill-1"
  outcomeTokenId := "yes-token"
  conditionId := "condition"
  side := "BUY"
  price := .value (2 / 5)
  size := .value 10
  feePusd := .missing
  occurredAt := .missing
  activityType := ""
  activityKey := ""
  amountUsd := .missing

def redemptionThen : LedgerRow where
  settlementStatus := ""
  matchedAt := .missing
  createdAt := .missing
  fillKey := ""
  outcomeTokenId := ""
  conditionId := "condition"
  side := ""
  price := .missing
  size := .missing
  feePusd := .missing
  occurredAt := .stamp (.aware 10)
  activityType := "REDEEM"
  activityKey := "redeem-1"
  amountUsd := .value 10

/-- The replay takes the redemption first and raises; the reference redeems the tokens. -/
theorem lateFill_reordered :
    replayFillLedger [lateFill] (.aware 0) [redemptionThen] =
        .error (.incomplete "redeem activity has no complete preceding token cost basis") ∧
      (referenceReplay [lateFill] (.aware 0) [redemptionThen]).map (·.realizedPnlUsd) = .ok 6 ∧
      ¬ FollowsReference [lateFill] [redemptionThen] := by
  have raises : replayFillLedger [lateFill] (.aware 0) [redemptionThen] =
      .error (.incomplete "redeem activity has no complete preceding token cost basis") := by
    decide +kernel
  have gains : (referenceReplay [lateFill] (.aware 0) [redemptionThen]).map (·.realizedPnlUsd) =
      .ok 6 := by
    decide +kernel
  refine ⟨raises, gains, fun follows => ?_⟩
  rw [← follows.same, raises] at gains
  cases gains

end Polybot
