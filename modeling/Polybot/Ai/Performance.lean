import Mathlib.Algebra.Order.Floor.Ring
import Mathlib.Data.Rat.Floor
import Mathlib.Tactic.Linarith
import Polybot.Collections.Checked
import Polybot.Collections.Dict
import Polybot.Collections.Sample

/-!
Resolved forecasts and their reliability bins (`performance.py`).

A row of outcomes is a dictionary of values as the database client decodes them; `parse`
is the `Decimal` of a text where it is finite. The ten bins partition the valid rows
(`inBin_unique`, `sum_samples`), and the mean forecast of a bin lies in it (`mean_mem`).
-/

namespace Polybot

/-! ### Values -/

/-- A decoded value; `other` is a value of any other type, with its text and its truth. -/
inductive RowValue where
  | none
  | bool (value : Bool)
  | text (content : String)
  | other (str : String) (truth : Bool)
  deriving DecidableEq

namespace RowValue

def truth : RowValue → Bool
  | none => false
  | bool value => value
  | text content => content ≠ ""
  | other _ truth => truth

/-- `str(value)`. -/
def str : RowValue → String
  | none => "None"
  | bool true => "True"
  | bool false => "False"
  | text content => content
  | other str _ => str

end RowValue

abbrev OutcomeRow := Dict String RowValue

/-- `row.get(key)`. -/
def OutcomeRow.value (row : OutcomeRow) (key : String) : RowValue :=
  (Dict.get? row key).getD .none

section Rows

variable (parse : String → Option ℚ)

def decimalOrNone : RowValue → Option ℚ
  | .none => none
  | .bool _ => none
  | .text content => if content = "" then none else parse content
  | .other str _ => parse str

/-! ### Resolved forecasts -/

structure ResolvedForecast where
  probability : ℚ
  brierScore : ℚ
  logLoss : ℚ
  resolvedYes : Bool
  marketId : String
  deriving DecidableEq

/-- The forecast of a row, unless a number of it is missing or out of range. -/
def resolvedForecast? (row : OutcomeRow) : Option ResolvedForecast := do
  let probability ← decimalOrNone parse (row.value "probability_yes")
  let brier ← decimalOrNone parse (row.value "brier_score")
  let logLoss ← decimalOrNone parse (row.value "log_loss")
  guard (0 ≤ probability ∧ probability ≤ 1 ∧ 0 ≤ brier ∧ 0 ≤ logLoss)
  let marketId := row.value "market_id"
  pure ⟨probability, brier, logLoss, (row.value "resolved_yes").truth,
    if marketId.truth then marketId.str else ""⟩

/-- `resolved_forecasts_from_rows`; a row that is no dictionary is `none`. -/
def resolvedForecastsFromRows (rows : List (Option OutcomeRow)) : List ResolvedForecast :=
  rows.filterMap fun row => row.bind (resolvedForecast? parse)

end Rows

/-! ### Bins -/

/-- `BIN_COUNT`. -/
def binCount : ℕ := 10

/-- `MIN_CALIBRATION_SAMPLES`. -/
def minCalibrationSamples : ℕ := 30

structure CalibrationBin where
  lower : ℚ
  upper : ℚ
  samples : ℕ
  meanForecast : Option ℚ
  observedFrequency : Option ℚ
  deriving DecidableEq

def binLower (index : ℕ) : ℚ := index / binCount
def binUpper (index : ℕ) : ℚ := (index + 1) / binCount

/-- The test of a bin: the last one includes its upper edge. -/
def InBin (index : ℕ) (probability : ℚ) : Prop :=
  (binLower index ≤ probability ∧ probability ≤ binUpper index) ∧
    (index = binCount - 1 ∨ probability < binUpper index)

instance : DecidableRel InBin := fun _ _ => inferInstanceAs (Decidable (_ ∧ _))

def selected (points : List ResolvedForecast) (index : ℕ) : List ResolvedForecast :=
  points.filter fun point => InBin index point.probability

def calibrationBin (points : List ResolvedForecast) (index : ℕ) : CalibrationBin where
  lower := binLower index
  upper := binUpper index
  samples := (selected points index).length
  meanForecast :=
    if selected points index = [] then none
    else some (Sample.mean ((selected points index).map ResolvedForecast.probability))
  observedFrequency :=
    if selected points index = [] then none
    else some (((selected points index).countP ResolvedForecast.resolvedYes : ℕ) /
      (selected points index).length)

def calibrationBins (points : List ResolvedForecast) : List CalibrationBin :=
  (List.range binCount).map (calibrationBin points)

/-- The fields that are computed from the rows, and the usage of the day. -/
structure PerformanceSnapshot where
  sampleSize : ℕ
  resolvedMarkets : ℕ
  brierScore : Option ℚ
  logLoss : Option ℚ
  calibration : List CalibrationBin
  aiUsageUsed : ℤ
  aiUsageLimit : ℤ
  strategyValidation : String

def performanceSnapshotFromRows (parse : String → Option ℚ) (rows : List (Option OutcomeRow))
    (aiUsageUsed aiUsageLimit : ℤ) : PerformanceSnapshot :=
  let points := resolvedForecastsFromRows parse rows
  { sampleSize := points.length
    resolvedMarkets := ((points.map ResolvedForecast.marketId).filter (· ≠ "")).dedup.length
    brierScore :=
      if points = [] then none
      else some (Sample.mean (points.map ResolvedForecast.brierScore))
    logLoss :=
      if points = [] then none else some (Sample.mean (points.map ResolvedForecast.logLoss))
    calibration := calibrationBins points
    aiUsageUsed := aiUsageUsed
    aiUsageLimit := aiUsageLimit
    strategyValidation :=
      if minCalibrationSamples ≤ points.length then "calibrating" else "insufficient_data" }

/-! ### The bins partition the forecasts -/

variable {parse : String → Option ℚ} {rows : List (Option OutcomeRow)}
  {points : List ResolvedForecast} {point : ResolvedForecast} {index other : ℕ} {probability : ℚ}
  {used limit : ℤ}

theorem probability_mem (member : point ∈ resolvedForecastsFromRows parse rows) :
    0 ≤ point.probability ∧ point.probability ≤ 1 := by
  obtain ⟨row, -, found⟩ := List.mem_filterMap.mp member
  obtain ⟨dict, -, read⟩ := Option.bind_eq_some_iff.mp found
  simp only [resolvedForecast?, Checked.option_bind_eq_some_iff,
    Checked.exists_guard_eq_some_iff] at read
  obtain ⟨probability, -, brier, -, logLoss, -, ranges, ⟨⟩⟩ := read
  exact ⟨ranges.1, ranges.2.1⟩

theorem binUpper_le (before : index < other) : binUpper index ≤ binLower other := by
  have le : (index + 1 : ℚ) ≤ other := by exact_mod_cast before
  exact div_le_div_of_nonneg_right le (by norm_num [binCount])

theorem InBin.lt (inBin : InBin index probability) (before : index < other)
    (last : other < binCount) : probability < binLower other := by
  rcases inBin.2 with same | below
  · omega
  · exact below.trans_le (binUpper_le before)

theorem inBin_unique (nonneg : 0 ≤ probability) (le_one : probability ≤ 1) :
    ∃! index, index < binCount ∧ InBin index probability := by
  -- Two bins that hold a probability are one: the first is below the second.
  have apart : ∀ {index other}, index < binCount ∧ InBin index probability →
      other < binCount ∧ InBin other probability → ¬ index < other :=
    fun here there before => absurd there.2.1.1 (not_le.mpr (here.2.lt before there.1))
  suffices found : ∃ index, index < binCount ∧ InBin index probability by
    obtain ⟨index, here⟩ := found
    refine ⟨index, here, fun other there => ?_⟩
    exact le_antisymm (not_lt.mp (apart here there)) (not_lt.mp (apart there here))
  rcases le_one.eq_or_lt with rfl | less
  · refine ⟨binCount - 1, by decide, ?_⟩
    norm_num [InBin, binLower, binUpper, binCount]
  · have scaled : 0 ≤ probability * 10 := by positivity
    have below := Nat.floor_le scaled
    have above := Nat.lt_floor_add_one (probability * 10)
    refine ⟨⌊probability * 10⌋₊, (Nat.floor_lt scaled).mpr ?_, ?_⟩
    · norm_num [binCount]
      linarith
    · rw [InBin, binLower, binUpper, binCount]
      push_cast
      refine ⟨⟨?_, ?_⟩, .inr ?_⟩ <;> linarith

theorem sum_samples : ((performanceSnapshotFromRows parse rows used limit).calibration.map
    CalibrationBin.samples).sum =
      (performanceSnapshotFromRows parse rows used limit).sampleSize := by
  change (((List.range binCount).map (calibrationBin _)).map CalibrationBin.samples).sum = _
  rw [List.map_map]
  refine Sample.sum_length_filter (fun index (point : ResolvedForecast) =>
    InBin index point.probability) fun point member => ?_
  obtain ⟨nonneg, le_one⟩ := probability_mem member
  exact inBin_unique nonneg le_one

/-! ### The values of a bin -/

theorem mem_selected : point ∈ selected points index ↔
    point ∈ points ∧ InBin index point.probability := by
  simp [selected]

/-- The mean forecast of a bin lies in it. -/
theorem mean_mem {forecast : ℚ} (found : forecast ∈ (calibrationBin points index).meanForecast) :
    InBin index forecast := by
  rw [calibrationBin] at found
  split at found
  · cases found
  rename_i some
  cases found
  have nonempty : (selected points index).map ResolvedForecast.probability ≠ [] :=
    fun none => some (List.map_eq_nil_iff.mp none)
  have inBin : ∀ x ∈ (selected points index).map ResolvedForecast.probability, InBin index x := by
    intro x member
    obtain ⟨point, here, rfl⟩ := List.mem_map.mp member
    exact (mem_selected.mp here).2
  refine ⟨⟨?_, ?_⟩, ?_⟩
  · exact Sample.le_mean nonempty fun x member => (inBin x member).1.1
  · exact Sample.mean_le nonempty fun x member => (inBin x member).1.2
  · by_cases last : index = binCount - 1
    · exact .inl last
    · exact .inr (Sample.mean_lt nonempty fun x member => (inBin x member).2.resolve_left last)

end Polybot
