import Mathlib.Data.List.Induction
import Mathlib.Order.Bounds.Basic
import Polybot.Interaction.Transition
import Polybot.Models

/-!
The equity state of an account (`record_equity_state` of the migrations).

A call reads the clock when its transaction starts and writes when it holds the row. The
row takes the day of the call that was applied last, also where that is an earlier one,
and the next call of the later day rolls over again: `day_start_fixed_iff` says that the
start of a day is fixed once if and only if the days are applied in order.
-/

namespace Polybot

open Interaction

/-- The UTC day of an instant, from its microseconds. -/
def utcDay (now : Instant) : Int :=
  now / 86400000000

/-- A row of `account_risk_state`, with its checks. -/
structure RiskStateRow where
  peakEquity : ℚ
  latestEquity : ℚ
  dayStartEquity : ℚ
  riskDay : Int
  latest_nonneg : 0 ≤ latestEquity
  dayStart_nonneg : 0 ≤ dayStartEquity
  latest_le_peak : latestEquity ≤ peakEquity
  deriving DecidableEq

/-- A call, with the `now()` of its transaction. -/
structure EquityCall where
  now : Instant
  equity : ℚ
  deriving DecidableEq

/-- `utc_today`. -/
def EquityCall.day (call : EquityCall) : Int :=
  utcDay call.now

/-- `record_equity_state`. -/
def recordEquityState (row : Option RiskStateRow) (call : EquityCall) :
    Except String RiskStateRow :=
  if valid : 0 ≤ call.equity then
    match row with
    | none => .ok
        { peakEquity := call.equity
          latestEquity := call.equity
          dayStartEquity := call.equity
          riskDay := call.day
          latest_nonneg := valid
          dayStart_nonneg := valid
          latest_le_peak := le_rfl }
    | some row => .ok
        { peakEquity := max row.peakEquity call.equity
          latestEquity := call.equity
          dayStartEquity := if row.riskDay < call.day then row.latestEquity else row.dayStartEquity
          riskDay := call.day
          latest_nonneg := valid
          dayStart_nonneg := by
            split
            · exact row.latest_nonneg
            · exact row.dayStart_nonneg
          latest_le_peak := le_max_right _ _ }
  else .error "equity must be non-negative"

/-- The row after a call. -/
def applyEquity (row : Option RiskStateRow) (call : EquityCall) : Option RiskStateRow :=
  match recordEquityState row call with
  | .ok after => some after
  | .error _ => row

/-- The row after the calls of an account, in the order in which they are applied. -/
def equityState (calls : List EquityCall) : Option RiskStateRow :=
  calls.foldl applyEquity none

/-- The calls that are not refused. -/
def recordedCalls (calls : List EquityCall) : List EquityCall :=
  calls.filter fun call => 0 ≤ call.equity

/-! ### The law -/

/-- The call is the first one of a later day. -/
def BeginsDay (before : List EquityCall) (call : EquityCall) : Prop :=
  ∀ earlier ∈ recordedCalls before, earlier.day < call.day

instance (before : List EquityCall) (call : EquityCall) : Decidable (BeginsDay before call) :=
  inferInstanceAs (Decidable (∀ earlier ∈ _, _))

/-- What a recorded call does to the row. -/
structure RecordsEquity (before : List EquityCall) (call : EquityCall) (after : RiskStateRow) :
    Prop where
  peak : IsGreatest {equity | ∃ recorded ∈ recordedCalls (before ++ [call]), recorded.equity = equity}
    after.peakEquity
  latest : after.latestEquity = call.equity
  day : ∀ row ∈ equityState before, row.riskDay ≤ after.riskDay
  dayStart : ∀ row ∈ equityState before,
    after.dayStartEquity = if BeginsDay before call then row.latestEquity else row.dayStartEquity

/-- The start of each day is fixed once, at the first call of the day. -/
def DayStartFixed (calls : List EquityCall) : Prop :=
  ∀ before call rest, calls = before ++ call :: rest → 0 ≤ call.equity →
    ∃ after, equityState (before ++ [call]) = some after ∧ RecordsEquity before call after

/-- The days are applied in order. -/
def DaysInOrder (calls : List EquityCall) : Prop :=
  (recordedCalls calls).Pairwise fun earlier later => earlier.day ≤ later.day

instance (calls : List EquityCall) : Decidable (DaysInOrder calls) :=
  inferInstanceAs (Decidable (List.Pairwise _ _))

section Calls

variable {before calls : List EquityCall} {call : EquityCall} {row : RiskStateRow}

theorem equityState_snoc (before : List EquityCall) (call : EquityCall) :
    equityState (before ++ [call]) = applyEquity (equityState before) call :=
  List.foldl_append

theorem recordedCalls_snoc (before : List EquityCall) (call : EquityCall) :
    recordedCalls (before ++ [call]) =
      recordedCalls before ++ if 0 ≤ call.equity then [call] else [] := by
  unfold recordedCalls
  rw [List.filter_append]
  split
  · rename_i valid
    simp [valid]
  · rename_i refused
    simp [refused]

/-- A refused call leaves the row. -/
theorem equityState_refused (refused : ¬ 0 ≤ call.equity) :
    equityState (before ++ [call]) = equityState before := by
  rw [equityState_snoc]
  unfold applyEquity recordEquityState
  rw [dif_neg refused]

/-- The row of the recorded calls: their greatest and their last equity, and the day of
the last. -/
structure RowOf (recorded : List EquityCall) (row : RiskStateRow) : Prop where
  peak : IsGreatest {equity | ∃ call ∈ recorded, call.equity = equity} row.peakEquity
  last : ∃ front last, recorded = front ++ [last] ∧ row.latestEquity = last.equity ∧
    row.riskDay = last.day

/-- Without recorded calls there is no row, with them there is theirs. -/
theorem equityState_spec (calls : List EquityCall) :
    recordedCalls calls = [] ∧ equityState calls = none ∨
      ∃ row, equityState calls = some row ∧ RowOf (recordedCalls calls) row := by
  induction calls using List.reverseRecOn with
  | nil => exact .inl ⟨rfl, rfl⟩
  | append_singleton before call ih =>
      rw [recordedCalls_snoc]
      by_cases valid : 0 ≤ call.equity
      · rw [if_pos valid, equityState_snoc]
        refine .inr ?_
        unfold applyEquity recordEquityState
        rw [dif_pos valid]
        rcases ih with ⟨none, no_row⟩ | ⟨row, stored, peak, -⟩
        · rw [none, no_row]
          refine ⟨_, rfl, ⟨⟨call, by simp, rfl⟩, ?_⟩, [], call, rfl, rfl, rfl⟩
          rintro equity ⟨other, member, rfl⟩
          rw [List.mem_singleton.mp member]
        · rw [stored]
          refine ⟨_, rfl, ⟨?_, ?_⟩, recordedCalls before, call, rfl, rfl, rfl⟩
          · obtain ⟨highest, member, same⟩ := peak.1
            rcases le_total row.peakEquity call.equity with above | below
            · exact ⟨call, by simp, (max_eq_right above).symm⟩
            · exact ⟨highest, List.mem_append_left _ member, same.trans (max_eq_left below).symm⟩
          · rintro equity ⟨other, member, rfl⟩
            rcases List.mem_append.mp member with earlier | now
            · exact (peak.2 ⟨other, earlier, rfl⟩).trans (le_max_left _ _)
            · rw [List.mem_singleton.mp now]
              exact le_max_right _ _
      · rw [if_neg valid, List.append_nil, equityState_refused valid]
        exact ih

/-- What a recorded call writes over a row. -/
theorem equityState_over (valid : 0 ≤ call.equity) (stored : equityState before = some row) :
    ∃ after, equityState (before ++ [call]) = some after ∧ after.latestEquity = call.equity ∧
      after.riskDay = call.day ∧ after.dayStartEquity =
        if row.riskDay < call.day then row.latestEquity else row.dayStartEquity := by
  rw [equityState_snoc, stored]
  unfold applyEquity recordEquityState
  rw [dif_pos valid]
  exact ⟨_, rfl, rfl, rfl, rfl⟩

/-- In order, the row has the latest of the days. -/
theorem days_le_of_inOrder (inOrder : DaysInOrder before) (stored : equityState before = some row) :
    (∃ last ∈ recordedCalls before, row.riskDay = last.day) ∧
      ∀ earlier ∈ recordedCalls before, earlier.day ≤ row.riskDay := by
  rcases equityState_spec before with ⟨-, none⟩ | ⟨other, found, -, front, last, split, -, day⟩
  · rw [stored] at none
    cases none
  · cases stored.symm.trans found
    refine ⟨⟨last, by rw [split]; simp, day⟩, fun earlier member => ?_⟩
    unfold DaysInOrder at inOrder
    rw [split] at member inOrder
    rw [day]
    rcases List.mem_append.mp member with before | now
    · exact (List.pairwise_append.mp inOrder).2.2 earlier before last (List.mem_singleton.mpr rfl)
    · rw [List.mem_singleton.mp now]

/-- In order, the rollover of the row is the first call of a day. -/
theorem rolls_over_iff (inOrder : DaysInOrder before) (stored : equityState before = some row) :
    row.riskDay < call.day ↔ BeginsDay before call := by
  obtain ⟨⟨last, member, day⟩, latest⟩ := days_le_of_inOrder inOrder stored
  exact ⟨fun later earlier among => (latest earlier among).trans_lt later,
    fun begins => day ▸ begins last member⟩

theorem DaysInOrder.front (inOrder : DaysInOrder (before ++ calls)) : DaysInOrder before := by
  unfold DaysInOrder recordedCalls at inOrder ⊢
  rw [List.filter_append] at inOrder
  exact (List.pairwise_append.mp inOrder).1

/-- The law holds up to each recorded call. -/
theorem recordsEquity_of_inOrder (inOrder : DaysInOrder (before ++ [call]))
    (valid : 0 ≤ call.equity) :
    ∃ after, equityState (before ++ [call]) = some after ∧ RecordsEquity before call after := by
  rcases equityState_spec (before ++ [call]) with ⟨none, -⟩ | ⟨after, stored, peak, -⟩
  · rw [recordedCalls_snoc, if_pos valid] at none
    exact absurd none (by simp)
  · refine ⟨after, stored, ?_⟩
    have last := days_le_of_inOrder inOrder stored
    have recorded : ∀ row ∈ equityState before, after.latestEquity = call.equity ∧
        after.riskDay = call.day ∧ after.dayStartEquity =
          if row.riskDay < call.day then row.latestEquity else row.dayStartEquity := by
      intro row found
      obtain ⟨other, here, written⟩ := equityState_over valid found
      cases stored.symm.trans here
      exact written
    refine ⟨peak, ?_, fun row found => ?_, fun row found => ?_⟩
    · cases found : equityState before with
      | some row => exact (recorded row found).1
      | none =>
          rw [equityState_snoc, found] at stored
          unfold applyEquity recordEquityState at stored
          rw [dif_pos valid] at stored
          cases stored
          rfl
    · obtain ⟨⟨earlier, member, day⟩, -⟩ := days_le_of_inOrder inOrder.front found
      rw [day]
      refine last.2 earlier ?_
      rw [recordedCalls_snoc]
      exact List.mem_append_left _ member
    · rw [(recorded row found).2.2]
      exact if_congr (rolls_over_iff inOrder.front found) rfl rfl

/-- The law holds of the front of a list where it holds of the list. -/
theorem DayStartFixed.front (fixed : DayStartFixed (before ++ calls)) : DayStartFixed before := by
  rintro first call rest rfl
  exact fixed first call (rest ++ calls) (by simp)

/-- Where the law holds, no recorded call goes back to an earlier day. -/
theorem inOrder_of_fixed (fixed : DayStartFixed calls) : DaysInOrder calls := by
  induction calls using List.reverseRecOn with
  | nil => exact List.Pairwise.nil
  | append_singleton before call ih =>
      have inOrder := ih fixed.front
      unfold DaysInOrder
      rw [recordedCalls_snoc]
      split
      · rename_i valid
        refine List.pairwise_append.mpr ⟨inOrder, List.pairwise_singleton _ _, ?_⟩
        intro earlier member last now
        rw [List.mem_singleton.mp now]
        rcases equityState_spec before with ⟨none, -⟩ | ⟨row, stored, -⟩
        · rw [none] at member
          cases member
        · obtain ⟨after, written, records⟩ := fixed before call [] rfl valid
          obtain ⟨other, here, -, day, -⟩ := equityState_over valid stored
          cases written.symm.trans here
          exact ((days_le_of_inOrder inOrder stored).2 earlier member).trans
            ((records.day row stored).trans_eq day)
      · rw [List.append_nil]
        exact inOrder

/-- The start of each day is fixed once if and only if the days are applied in order. -/
theorem day_start_fixed_iff (calls : List EquityCall) : DayStartFixed calls ↔ DaysInOrder calls := by
  refine ⟨inOrder_of_fixed, ?_⟩
  rintro inOrder before call rest rfl valid
  have up_to : DaysInOrder ((before ++ [call]) ++ rest) := by
    rwa [List.append_assoc, List.singleton_append]
  exact recordsEquity_of_inOrder up_to.front valid

end Calls

/-! ### A late call -/

/-- Two days, and a call of the first day that is applied after one of the second. -/
def lateCall : List EquityCall :=
  [⟨0, 100⟩, ⟨86400000000, 90⟩, ⟨86399999999, 80⟩, ⟨86400000001, 80⟩]

/-- The second day starts at 100, and again at 80. -/
theorem late_call_rolls_over : ¬ DayStartFixed lateCall ∧
    (equityState (lateCall.take 2)).map RiskStateRow.dayStartEquity = some 100 ∧
      (equityState lateCall).map RiskStateRow.dayStartEquity = some 80 := by
  refine ⟨fun fixed => ?_, by decide, by decide⟩
  exact absurd (inOrder_of_fixed fixed) (by decide)

end Polybot
