import Mathlib.Algebra.BigOperators.Pi
import Polybot.Collections.Checked
import Polybot.Interaction.LockedRow
import Polybot.Interaction.Transition

/-!
The daily AI budget (`0015_product_operations.sql`).

The limit is stored twice: `set_ai_budget_limit` writes it to `ai_budget_settings` and to
the day's row of `ai_usage_daily`, and `consume_ai_budget` copies it from the first to the
second before it counts. The calls of one account within one UTC day run statement by
statement under read-committed: a statement that writes a row waits for the transaction
that has locked it, and a read sees what is committed (`LockedRow`).

A consumption that read the limit before a change was committed writes the old one back
(`raised_limit_written_back`), and a change copies nothing to a row that is inserted but
not committed. Where neither happens the limit in force is respected
(`budget_respected_of_undisturbed`).
-/

namespace Polybot

open Checked Interaction

/-! ### Rows and calls -/

/-- A limit that `ai_budget_settings_limit_range` admits. -/
abbrev RequestLimit := { limit : Int // 20 ≤ limit ∧ limit ≤ 10000 }

/-- The limit of an account that has stored none. -/
def defaultRequestLimit : RequestLimit := ⟨100, by decide⟩

/-- The row of the day in `ai_usage_daily`. -/
structure UsageRow where
  requestUnits : Int
  requestLimit : RequestLimit
  deriving DecidableEq

/-- The row that `consume_ai_budget` returns. -/
structure BudgetAnswer where
  allowed : Bool
  used : Int
  dailyLimit : RequestLimit
  deriving DecidableEq

/-- The update of `consume_ai_budget`, and the select where it finds no row to change. -/
def UsageRow.count (row : UsageRow) (units : Int) : UsageRow × BudgetAnswer :=
  if row.requestUnits + units ≤ row.requestLimit then
    ({ row with requestUnits := row.requestUnits + units },
      ⟨true, row.requestUnits + units, row.requestLimit⟩)
  else (row, ⟨false, row.requestUnits, row.requestLimit⟩)

/-- How far a call has come: the statements of `consume_ai_budget` and of
`set_ai_budget_limit`, and the commit. -/
inductive BudgetCall where
  | consume (units : Int)
  | consumeRead (units : Int) (limit : RequestLimit)
  | consumeUpserted (units : Int)
  | consumeCounted (units : Int) (answer : Option BudgetAnswer)
  | consumed (units : Int) (answer : Option BudgetAnswer)
  | setLimit (requestLimit : Int)
  | setStored (limit : RequestLimit)
  | setCopied (limit : RequestLimit)
  | limitSet (limit : RequestLimit)
  | raised
  | aborted
  deriving DecidableEq

namespace BudgetCall

def NotBegun : BudgetCall → Prop
  | consume _ | setLimit _ => True
  | _ => False

def InFlight : BudgetCall → Prop
  | consumeRead _ _ | consumeUpserted _ | consumeCounted _ _ | setStored _ | setCopied _ => True
  | _ => False

/-- A change that has met the day's row, and is not committed. -/
def Copied : BudgetCall → Prop
  | setCopied _ => True
  | _ => False

instance : DecidablePred InFlight
  | consumeRead _ _ | consumeUpserted _ | consumeCounted _ _ | setStored _ | setCopied _ =>
      .isTrue trivial
  | consume _ | consumed _ _ | setLimit _ | limitSet _ | raised | aborted => .isFalse not_false

instance : DecidablePred Copied
  | setCopied _ => .isTrue trivial
  | consume _ | consumeRead _ _ | consumeUpserted _ | consumeCounted _ _ | consumed _ _ | setLimit _
  | setStored _ | limitSet _ | raised | aborted => .isFalse not_false

end BudgetCall

/-- The units that an answer grants. -/
def grantedUnits (units : Int) (answer : Option BudgetAnswer) : Int :=
  if ∃ row ∈ answer, row.allowed = true then units else 0

/-- The units of a call that was allowed. -/
def BudgetCall.spent : BudgetCall → Int
  | consumed units answer => grantedUnits units answer
  | _ => 0

namespace UsageRow

variable {row : UsageRow} {units : Int}

theorem count_row : (row.count units).1 =
    ⟨row.requestUnits + grantedUnits units (some (row.count units).2), row.requestLimit⟩ := by
  unfold count
  split
  · simp [grantedUnits]
  · simp [grantedUnits]

theorem count_within (allowed : (row.count units).2.allowed = true) :
    (row.count units).2.used ≤ row.requestLimit := by
  unfold count at allowed ⊢
  by_cases fits : row.requestUnits + units ≤ row.requestLimit
  · rw [if_pos fits]
    exact fits
  · rw [if_neg fits] at allowed
    cases allowed

end UsageRow

/-! ### The day of an account -/

variable {ι : Type} [DecidableEq ι]

/-- The two rows of an account, and the calls on it. -/
structure BudgetDay (ι : Type) where
  settings : LockedRow ι RequestLimit
  usage : LockedRow ι UsageRow
  calls : ι → BudgetCall

/-- Why a call does not proceed. -/
inductive BudgetWait where
  | locked
  | over
  deriving DecidableEq

/-- A statement or the commit of a call, or its roll-back. -/
inductive BudgetEvent (ι : Type) where
  | proceeds (i : ι)
  | aborts (i : ι)

/-- The request limit most recently committed, `coalesce(v_limit, 100)`. -/
def limitInForce (settings : LockedRow ι RequestLimit) : RequestLimit :=
  settings.committed.getD defaultRequestLimit

/-- The units that are committed for the day. -/
def unitsCounted (usage : LockedRow ι UsageRow) : Int :=
  match usage.committed with
  | none => 0
  | some row => row.requestUnits

namespace BudgetDay

variable (state : BudgetDay ι) (i : ι)

def became (call : BudgetCall) : BudgetDay ι :=
  { state with calls := Function.update state.calls i call }

/-- The daily row after `insert ... on conflict do update`. -/
def upsertedRow (limit : RequestLimit) : UsageRow :=
  match state.usage.visible i with
  | none => ⟨0, limit⟩
  | some row => { row with requestLimit := limit }

/-- The next statement of a call, or its commit. -/
def proceed : Except BudgetWait (BudgetDay ι) :=
  match state.calls i with
  | .consume units =>
      .ok (state.became i (if 1 ≤ units ∧ units ≤ 10 then
        .consumeRead units ((state.settings.visible i).getD defaultRequestLimit) else .raised))
  | .consumeRead units limit => do
      require (state.usage.Free i) .locked
      .ok { state.became i (.consumeUpserted units) with
        usage := state.usage.write i (state.upsertedRow i limit) }
  | .consumeUpserted units =>
      match state.usage.visible i with
      | none => .ok (state.became i (.consumeCounted units none))
      | some row =>
          .ok { state.became i (.consumeCounted units (some (row.count units).2)) with
            usage := state.usage.write i (row.count units).1 }
  | .consumeCounted units answer =>
      .ok { state.became i (.consumed units answer) with usage := state.usage.commit i }
  | .setLimit requestLimit =>
      if range : 20 ≤ requestLimit ∧ requestLimit ≤ 10000 then do
        require (state.settings.Free i) .locked
        .ok { state.became i (.setStored ⟨requestLimit, range⟩) with
          settings := state.settings.write i ⟨requestLimit, range⟩ }
      else .ok (state.became i .raised)
  | .setStored limit =>
      match state.usage.visible i with
      -- An uncommitted row is not seen, and nothing waits for it.
      | none => .ok (state.became i (.setCopied limit))
      | some row => do
          require (state.usage.Free i) .locked
          .ok { state.became i (.setCopied limit) with
            usage := state.usage.write i { row with requestLimit := limit } }
  | .setCopied limit =>
      .ok { state.became i (.limitSet limit) with
        settings := state.settings.commit i, usage := state.usage.commit i }
  | .consumed _ _ | .limitSet _ | .raised | .aborted => .error .over

/-- A transaction that fails leaves both rows as they were committed. -/
def abort : Except BudgetWait (BudgetDay ι) := do
  require (state.calls i).InFlight .over
  .ok { state.became i .aborted with
    settings := state.settings.rollback i, usage := state.usage.rollback i }

def serve : BudgetEvent ι → Except BudgetWait (BudgetDay ι)
  | .proceeds i => state.proceed i
  | .aborts i => state.abort i

/-- The start of a day: no row, no lock and no call. -/
structure Opened : Prop where
  noCall : ∀ i, (state.calls i).NotBegun
  settings : state.settings.pending = none
  usage : state.usage = .unlocked none

/-- The limit in force is respected. -/
structure Respected [Fintype ι] : Prop where
  /-- From the statement that counts a call to its commit. -/
  within : ∀ i units answer, state.calls i = .consumeCounted units (some answer) →
    answer.allowed = true → answer.used ≤ limitInForce state.settings
  counted : unitsCounted state.usage = ∑ i, (state.calls i).spent
  settled : (∀ i, ¬ (state.calls i).InFlight) → ∀ row ∈ state.usage.committed,
    row.requestLimit = limitInForce state.settings

/-- What keeps the two copies of the limit together: a consumption writes the limit that
is still in force, and neither a consumption nor a change passes an insertion, or the
change that missed it, that is not committed. -/
def Undisturbed : BudgetEvent ι → Prop
  | .proceeds i =>
      match state.calls i with
      | .consumeRead _ limit => limit = limitInForce state.settings ∧
          (state.usage.committed = none → ∀ j, ¬ (state.calls j).Copied)
      | .setStored _ => state.usage.committed = none → state.usage.pending = none
      | _ => True
  | .aborts _ => True

end BudgetDay

/-! ### The locks that the calls hold -/

/-- The locks of a call, and what it has written: a consumption its row under the limit in
force, and a change both copies, or one where there is no row. -/
def BudgetHolds (settings : LockedRow ι RequestLimit) (usage : LockedRow ι UsageRow) (i : ι) :
    BudgetCall → Prop
  | .consumeUpserted _ =>
      settings.Unheld i ∧ usage.pending = some (i, ⟨unitsCounted usage, limitInForce settings⟩)
  | .consumeCounted units answer =>
      settings.Unheld i ∧ usage.pending =
        some (i, ⟨unitsCounted usage + grantedUnits units answer, limitInForce settings⟩) ∧
      ∀ row ∈ answer, row.allowed = true → row.used ≤ limitInForce settings
  | .setStored limit => settings.pending = some (i, limit) ∧ usage.Unheld i
  | .setCopied limit => settings.pending = some (i, limit) ∧
      (usage.committed = none ∧ usage.pending = none ∨
        usage.pending = some (i, ⟨unitsCounted usage, limit⟩))
  | _ => settings.Unheld i ∧ usage.Unheld i

namespace BudgetHolds

variable {settings settings' : LockedRow ι RequestLimit} {usage usage' : LockedRow ι UsageRow}
  {i j : ι} {call : BudgetCall}

omit [DecidableEq ι] in
theorem write_usage {row : UsageRow} (holds : BudgetHolds settings usage j call) (other : j ≠ i)
    (free : usage.Free i)
    (copied : usage.committed = none → usage.pending = none → ¬ call.Copied) :
    BudgetHolds settings (usage.write i row) j call := by
  cases call with
  | consumeUpserted units => exact absurd (free.eq holds.2) other
  | consumeCounted units answer => exact absurd (free.eq holds.2.1) other
  | setStored limit => exact ⟨holds.1, LockedRow.unheld_write other⟩
  | setCopied limit =>
      rcases holds.2 with ⟨absent, unlocked⟩ | held
      · exact absurd trivial (copied absent unlocked)
      · exact absurd (free.eq held) other
  | _ => exact ⟨holds.1, LockedRow.unheld_write other⟩

omit [DecidableEq ι] in
theorem write_settings {limit : RequestLimit} (holds : BudgetHolds settings usage j call)
    (other : j ≠ i) (free : settings.Free i) :
    BudgetHolds (settings.write i limit) usage j call := by
  cases call with
  | setStored limit => exact absurd (free.eq holds.1) other
  | setCopied limit => exact absurd (free.eq holds.1) other
  | _ => exact ⟨LockedRow.unheld_write other, holds.2⟩

theorem commit_usage {row : UsageRow} (holds : BudgetHolds settings usage j call) (other : j ≠ i)
    (held : usage.pending = some (i, row)) : BudgetHolds settings (usage.commit i) j call := by
  have free : usage.Free i := fun lock found => by cases held.symm.trans found; rfl
  rw [LockedRow.commit_held held]
  cases call with
  | consumeUpserted units => exact absurd (free.eq holds.2) other
  | consumeCounted units answer => exact absurd (free.eq holds.2.1) other
  | setCopied limit =>
      rcases holds.2 with ⟨-, unlocked⟩ | held
      · cases held.symm.trans unlocked
      · exact absurd (free.eq held) other
  | _ => exact ⟨holds.1, LockedRow.unheld_unlocked⟩

theorem commit_settings {limit : RequestLimit} (holds : BudgetHolds settings usage j call)
    (other : j ≠ i) (held : settings.pending = some (i, limit)) (free : usage.pending = none) :
    BudgetHolds (settings.commit i) usage j call := by
  have mine : settings.Free i := fun lock found => by cases held.symm.trans found; rfl
  rw [LockedRow.commit_held held]
  cases call with
  | consumeUpserted units => cases holds.2.symm.trans free
  | consumeCounted units answer => cases holds.2.1.symm.trans free
  | setStored limit => exact absurd (mine.eq holds.1) other
  | setCopied limit => exact absurd (mine.eq holds.1) other
  | _ => exact ⟨LockedRow.unheld_unlocked, holds.2⟩

theorem rollback (holds : BudgetHolds settings usage j call) (other : j ≠ i) :
    BudgetHolds (settings.rollback i) (usage.rollback i) j call := by
  have force : limitInForce (settings.rollback i) = limitInForce settings := by
    rw [limitInForce, LockedRow.committed_rollback, limitInForce]
  cases call with
  | consumeUpserted units =>
      rw [LockedRow.rollback_other holds.2 other]
      exact ⟨holds.1.rollback, by rw [force]; exact holds.2⟩
  | consumeCounted units answer =>
      rw [LockedRow.rollback_other holds.2.1 other]
      exact ⟨holds.1.rollback, by rw [force]; exact holds.2⟩
  | setStored limit =>
      rw [LockedRow.rollback_other holds.1 other]
      exact ⟨holds.1, holds.2.rollback⟩
  | setCopied limit =>
      rw [LockedRow.rollback_other holds.1 other]
      refine ⟨holds.1, holds.2.imp (fun absent => ?_) fun held => ?_⟩
      · exact ⟨LockedRow.committed_rollback.trans absent.1,
          LockedRow.pending_rollback_none absent.2⟩
      · rw [LockedRow.rollback_other held other]
        exact held
  | _ => exact ⟨holds.1.rollback, holds.2.rollback⟩

end BudgetHolds

/-! ### What each statement keeps -/

variable [Fintype ι] {state state' : BudgetDay ι} {i : ι} {call : BudgetCall} {units : Int}
  {limit : RequestLimit}

/-- The calls hold their locks, the units are those granted, and the row that is committed
carries the limit in force. -/
structure BudgetKept (state : BudgetDay ι) : Prop where
  holds : ∀ j, BudgetHolds state.settings state.usage j (state.calls j)
  counted : unitsCounted state.usage = ∑ j, (state.calls j).spent
  carried : ∀ row ∈ state.usage.committed, row.requestLimit = limitInForce state.settings

theorem sum_spent_update (calls : ι → BudgetCall) :
    ∑ j, (Function.update calls i call j).spent =
      ∑ j, (calls j).spent + (call.spent - (calls i).spent) := by
  have moved : (fun j => (Function.update calls i call j).spent) =
      Function.update (fun j => (calls j).spent) i call.spent := by
    funext j
    exact Function.apply_update (fun _ => BudgetCall.spent) calls i call j
  rw [moved, Finset.sum_update_of_mem (Finset.mem_univ i),
    Finset.sum_eq_add_sum_sdiff_singleton_of_mem (Finset.mem_univ i) fun j => (calls j).spent]
  omega

namespace BudgetKept

omit [DecidableEq ι] in
theorem of_opened (opened : state.Opened) : BudgetKept state where
  holds := by
    intro j
    have begun := opened.noCall j
    have free : state.settings.Unheld j := .of_pending_none opened.settings
    have unlocked : state.usage.Unheld j := by
      rw [opened.usage]
      exact LockedRow.unheld_unlocked
    cases called : state.calls j with
    | consume _ | setLimit _ => exact ⟨free, unlocked⟩
    | _ =>
        rw [called] at begun
        exact begun.elim
  counted := by
    have none : ∀ j, (state.calls j).spent = 0 := by
      intro j
      have begun := opened.noCall j
      cases called : state.calls j with
      | consumed _ _ =>
          rw [called] at begun
          exact begun.elim
      | _ => rfl
    rw [opened.usage, Finset.sum_eq_zero fun j _ => none j]
    rfl
  carried := by
    rw [opened.usage]
    nofun

omit [DecidableEq ι] in
theorem respected (kept : BudgetKept state) : state.Respected where
  within := by
    intro i units answer counted allowed
    have holds := kept.holds i
    rw [counted] at holds
    exact holds.2.2 answer rfl allowed
  counted := kept.counted
  settled := fun _ => kept.carried

/-- What one call does to its own locks, to those of the others and to what is committed. -/
theorem moved {settings : LockedRow ι RequestLimit} {usage : LockedRow ι UsageRow}
    (kept : BudgetKept state) (own : BudgetHolds settings usage i call)
    (others : ∀ j, j ≠ i → BudgetHolds settings usage j (state.calls j))
    (units : unitsCounted usage = unitsCounted state.usage + (call.spent - (state.calls i).spent))
    (carried : ∀ row ∈ usage.committed, row.requestLimit = limitInForce settings) :
    BudgetKept { state.became i call with settings := settings, usage := usage } where
  holds := by
    intro j
    by_cases same : j = i
    · subst same
      simpa only [BudgetDay.became, Function.update_self] using own
    · simpa only [BudgetDay.became, Function.update_of_ne same] using others j same
  counted := by
    rw [units, kept.counted]
    exact (sum_spent_update state.calls).symm
  carried := carried

/-- A call that touches no row. -/
theorem became (kept : BudgetKept state)
    (own : BudgetHolds state.settings state.usage i call)
    (units : call.spent = (state.calls i).spent) : BudgetKept (state.became i call) :=
  kept.moved own (fun j _ => kept.holds j) (by rw [units]; omega) kept.carried

theorem upserted (kept : BudgetKept state) (called : state.calls i = .consumeRead units limit)
    (free : state.usage.Free i) (inForce : limit = limitInForce state.settings)
    (passes : state.usage.committed = none → ∀ j, ¬ (state.calls j).Copied) :
    BudgetKept { state.became i (.consumeUpserted units) with
      usage := state.usage.write i (state.upsertedRow i limit) } := by
  have holds := kept.holds i
  rw [called] at holds
  have row : state.upsertedRow i limit =
      ⟨unitsCounted state.usage, limitInForce state.settings⟩ := by
    rw [BudgetDay.upsertedRow, LockedRow.visible_unheld holds.2, inForce, unitsCounted]
    cases state.usage.committed <;> rfl
  refine kept.moved ⟨holds.1, ?_⟩ (fun j other => ?_) ?_ kept.carried
  · rw [row]
    rfl
  · exact (kept.holds j).write_usage other free fun absent _ => passes absent j
  · rw [called]
    exact (add_zero _).symm

theorem counts (kept : BudgetKept state) (called : state.calls i = .consumeUpserted units)
    {row : UsageRow} (seen : state.usage.visible i = some row) :
    BudgetKept { state.became i (.consumeCounted units (some (row.count units).2)) with
      usage := state.usage.write i (row.count units).1 } := by
  have holds := kept.holds i
  rw [called] at holds
  obtain rfl := Option.some.inj ((LockedRow.visible_held holds.2).symm.trans seen)
  have free : state.usage.Free i := fun lock found => by cases holds.2.symm.trans found; rfl
  refine kept.moved ⟨holds.1, ?_, ?_⟩ (fun j other => ?_) ?_ kept.carried
  · rw [UsageRow.count_row]
    rfl
  · rintro _ ⟨⟩
    exact UsageRow.count_within
  · exact (kept.holds j).write_usage other free fun _ unlocked => by cases holds.2.symm.trans unlocked
  · rw [called]
    exact (add_zero _).symm

theorem committed {answer : Option BudgetAnswer} (kept : BudgetKept state)
    (called : state.calls i = .consumeCounted units answer) :
    BudgetKept { state.became i (.consumed units answer) with
      usage := state.usage.commit i } := by
  have holds := kept.holds i
  rw [called] at holds
  refine kept.moved ⟨holds.1, ?_⟩ (fun j other => ?_) ?_ ?_
  · rw [LockedRow.commit_held holds.2.1]
    exact LockedRow.unheld_unlocked
  · exact (kept.holds j).commit_usage other holds.2.1
  · rw [LockedRow.commit_held holds.2.1, called]
    simp [unitsCounted, LockedRow.unlocked, BudgetCall.spent]
  · rw [LockedRow.commit_held holds.2.1]
    rintro _ ⟨⟩
    rfl

theorem stored (kept : BudgetKept state) {requestLimit : Int}
    (called : state.calls i = .setLimit requestLimit) (free : state.settings.Free i) :
    BudgetKept { state.became i (.setStored limit) with
      settings := state.settings.write i limit } := by
  have holds := kept.holds i
  rw [called] at holds
  refine kept.moved ⟨rfl, holds.2⟩ (fun j other => (kept.holds j).write_settings other free) ?_
    kept.carried
  rw [called]
  exact (add_zero _).symm

/-- A change that finds no row, and none that is inserted. -/
theorem passed (kept : BudgetKept state) (called : state.calls i = .setStored limit)
    (absent : state.usage.committed = none) (nobody : state.usage.pending = none) :
    BudgetKept (state.became i (.setCopied limit)) := by
  have holds := kept.holds i
  rw [called] at holds
  refine kept.became ⟨holds.1, .inl ⟨absent, nobody⟩⟩ ?_
  rw [called]
  rfl

theorem copied (kept : BudgetKept state) (called : state.calls i = .setStored limit)
    {row : UsageRow} (found : state.usage.committed = some row) (free : state.usage.Free i) :
    BudgetKept { state.became i (.setCopied limit) with
      usage := state.usage.write i { row with requestLimit := limit } } := by
  have holds := kept.holds i
  rw [called] at holds
  refine kept.moved ⟨holds.1, .inr ?_⟩ (fun j other => ?_) ?_ kept.carried
  · simp [unitsCounted, found]
  · exact (kept.holds j).write_usage other free fun absent => by cases absent.symm.trans found
  · rw [called]
    exact (add_zero _).symm

theorem set (kept : BudgetKept state) (called : state.calls i = .setCopied limit) :
    BudgetKept { state.became i (.limitSet limit) with
      settings := state.settings.commit i, usage := state.usage.commit i } := by
  have holds := kept.holds i
  rw [called] at holds
  obtain ⟨stored, ⟨absent, nobody⟩ | copied⟩ := holds
  · rw [LockedRow.commit_unheld (.of_pending_none nobody)]
    refine kept.moved ⟨?_, .of_pending_none nobody⟩ (fun j other => ?_) ?_ ?_
    · rw [LockedRow.commit_held stored]
      exact LockedRow.unheld_unlocked
    · exact (kept.holds j).commit_settings other stored nobody
    · rw [called]
      exact (add_zero _).symm
    · rw [absent]
      nofun
  · refine kept.moved ⟨?_, ?_⟩ (fun j other => ?_) ?_ ?_
    · rw [LockedRow.commit_held stored]
      exact LockedRow.unheld_unlocked
    · rw [LockedRow.commit_held copied]
      exact LockedRow.unheld_unlocked
    · refine ((kept.holds j).commit_usage other copied).commit_settings other stored ?_
      rw [LockedRow.commit_held copied]
      rfl
    · rw [LockedRow.commit_held copied, called]
      exact (add_zero _).symm
    · rw [LockedRow.commit_held copied, LockedRow.commit_held stored]
      rintro _ ⟨⟩
      rfl

theorem aborted (kept : BudgetKept state) (inFlight : (state.calls i).InFlight) :
    BudgetKept { state.became i .aborted with
      settings := state.settings.rollback i, usage := state.usage.rollback i } := by
  refine kept.moved ⟨LockedRow.pending_rollback_self, LockedRow.pending_rollback_self⟩
    (fun j other => (kept.holds j).rollback other) ?_ ?_
  · have nothing : (state.calls i).spent = 0 := by
      cases called : state.calls i with
      | consumed _ _ =>
          rw [called] at inFlight
          exact inFlight.elim
      | _ => rfl
    rw [nothing, unitsCounted, LockedRow.committed_rollback]
    exact (add_zero _).symm
  · rw [limitInForce, LockedRow.committed_rollback, LockedRow.committed_rollback]
    exact kept.carried

theorem proceed (kept : BudgetKept state) (undisturbed : state.Undisturbed (.proceeds i))
    (proceeds : state.proceed i = .ok state') : BudgetKept state' := by
  have holds := kept.holds i
  unfold BudgetDay.proceed at proceeds
  unfold BudgetDay.Undisturbed at undisturbed
  cases called : state.calls i with
  | consume units =>
      rw [called] at holds proceeds
      cases proceeds
      refine kept.became ?_ ?_
      · split <;> exact holds
      · rw [called]
        split <;> rfl
  | consumeRead units limit =>
      simp only [called, require_bind_ok_iff] at proceeds undisturbed
      obtain ⟨free, ⟨⟩⟩ := proceeds
      exact kept.upserted called free undisturbed.1 undisturbed.2
  | consumeUpserted units =>
      rw [called] at holds
      simp only [called] at proceeds
      split at proceeds
      · rename_i unseen
        cases (LockedRow.visible_held holds.2).symm.trans unseen
      · rename_i row seen
        cases proceeds
        exact kept.counts called seen
  | consumeCounted units answer =>
      rw [called] at proceeds
      cases proceeds
      exact kept.committed called
  | setLimit requestLimit =>
      simp only [called] at proceeds
      split at proceeds
      · rw [require_bind_ok_iff] at proceeds
        obtain ⟨free, ⟨⟩⟩ := proceeds
        exact kept.stored called free
      · cases proceeds
        rw [called] at holds
        exact kept.became holds (by rw [called]; rfl)
  | setStored limit =>
      rw [called] at holds
      simp only [called, LockedRow.visible_unheld holds.2] at proceeds undisturbed
      split at proceeds
      · rename_i absent
        cases proceeds
        exact kept.passed called absent (undisturbed absent)
      · rename_i row found
        rw [require_bind_ok_iff] at proceeds
        obtain ⟨free, ⟨⟩⟩ := proceeds
        exact kept.copied called found free
  | setCopied limit =>
      rw [called] at proceeds
      cases proceeds
      exact kept.set called
  | consumed _ _ | limitSet _ | raised | aborted =>
      rw [called] at proceeds
      cases proceeds

theorem step {event : BudgetEvent ι} (kept : BudgetKept state)
    (undisturbed : state.Undisturbed event) (served : state.serve event = .ok state') :
    BudgetKept state' := by
  cases event with
  | proceeds i => exact kept.proceed undisturbed served
  | aborts i =>
      rw [BudgetDay.serve, BudgetDay.abort, require_bind_ok_iff] at served
      obtain ⟨inFlight, ⟨⟩⟩ := served
      exact kept.aborted inFlight

end BudgetKept

/-! ### Every run of a day -/

/-- **The limit in force is respected** in every run of a day whose steps are all
undisturbed. -/
theorem budget_respected_of_undisturbed {start : BudgetDay ι} {events : List (BudgetEvent ι)}
    (opened : start.Opened)
    (run : Run (fun s event t => s.serve event = .ok t ∧ s.Undisturbed event) start events state) :
    state.Respected := by
  refine BudgetKept.respected (run.invariant (fun s event t kept step => ?_) (.of_opened opened))
  exact BudgetKept.step kept step.2 step.1

/-- Three consumptions of ten requests, and a change of the limit to twenty. -/
def loweredLimitDay : BudgetDay (Fin 4) where
  settings := .unlocked none
  usage := .unlocked none
  calls i := if i.val = 3 then .setLimit 20 else .consume 10

theorem loweredLimitDay_opened : loweredLimitDay.Opened where
  noCall := by
    intro i
    match i with
    | 0 | 1 | 2 | 3 => exact trivial
  settings := rfl
  usage := rfl

/-- A consumption that no other call disturbs. -/
theorem budget_respected_alone : ∃ state : BudgetDay (Fin 4),
    state.calls 0 = .consumed 10 (some ⟨true, 10, ⟨100, by decide⟩⟩) ∧ state.Respected := by
  have run : ∃ state : BudgetDay (Fin 4),
      state.calls 0 = .consumed 10 (some ⟨true, 10, ⟨100, by decide⟩⟩) ∧
      Run (fun s event t => s.serve event = .ok t ∧ s.Undisturbed event) loweredLimitDay
        [.proceeds 0, .proceeds 0, .proceeds 0, .proceeds 0] state :=
    ⟨_, by rfl, .cons ⟨rfl, by exact trivial⟩ (.cons ⟨rfl, by exact ⟨rfl, by decide⟩⟩
      (.cons ⟨rfl, by exact trivial⟩ (.cons ⟨rfl, by exact trivial⟩ (.refl _))))⟩
  obtain ⟨state, allowed, undisturbed⟩ := run
  exact ⟨state, allowed, budget_respected_of_undisturbed loweredLimitDay_opened undisturbed⟩

/-- The third consumption reads the limit before the change is committed, and writes it
back afterwards: it is allowed the units 21 to 30 under a limit of twenty, and leaves the
row of the day with a limit of a hundred. -/
theorem lowered_limit_written_back : loweredLimitDay.Opened ∧ ∃ before after counted last,
    Run (fun s event t => s.serve event = .ok t) loweredLimitDay before counted ∧
    ¬ counted.Respected ∧
    Run (fun s event t => s.serve event = .ok t) counted after last ∧
    (∀ i, ¬ (last.calls i).InFlight) ∧ ¬ last.Respected := by
  refine ⟨loweredLimitDay_opened, ?_⟩
  have ends : okAnd ([.proceeds 0, .proceeds 0, .proceeds 0, .proceeds 0, .proceeds 1, .proceeds 1,
      .proceeds 1, .proceeds 1, .proceeds 2, .proceeds 3, .proceeds 3, .proceeds 3, .proceeds 2,
      .proceeds 2].foldlM BudgetDay.serve loweredLimitDay) fun counted =>
        counted.calls 2 = .consumeCounted 10 (some ⟨true, 30, ⟨100, by decide⟩⟩) ∧
        limitInForce counted.settings = ⟨20, by decide⟩ ∧
        okAnd ([.proceeds 2].foldlM BudgetDay.serve counted) fun last =>
          (∀ i, ¬ (last.calls i).InFlight) ∧
          last.usage.committed = some ⟨30, ⟨100, by decide⟩⟩ ∧
          limitInForce last.settings = ⟨20, by decide⟩ := by decide
  obtain ⟨counted, reached, allowed, lowered, later⟩ := exists_of_okAnd ends
  obtain ⟨last, ended, quiet, row, still⟩ := exists_of_okAnd later
  refine ⟨_, _, counted, last, Run.foldlM_iff.mpr reached, ?_, Run.foldlM_iff.mpr ended, quiet, ?_⟩
  · intro respected
    have within := respected.within 2 _ _ allowed rfl
    rw [lowered] at within
    exact absurd within (by decide)
  · intro respected
    have carried := respected.settled quiet _ row
    rw [still] at carried
    exact absurd carried (by decide)

end Polybot
