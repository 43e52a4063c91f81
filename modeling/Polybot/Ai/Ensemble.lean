import Polybot.Ai.Calibration
import Polybot.Trading.LargerBudget

/-!
The forecast ensemble (`ai/graph.py`).

`aggregate` combines two passes: the calibrated mean, the union of the intervals and the
smaller confidence, less the disagreement. The union makes both conservative
probabilities no larger than those of a pass, so an entry on the ensemble is no larger
than the entry on either pass alone (`ensemble_entries_smaller`).
-/

namespace Polybot

/-- The forecast of a pass, with its texts. -/
structure PassForecast extends Forecast where
  marketId : String
  evidenceFor : List String
  evidenceAgainst : List String
  assumptions : List String
  invalidationConditions : List String
  sourceIds : List String
  model : String
  rationale : String

/-- A calibrator, as the graph uses it: it maps probabilities to probabilities. -/
structure ForecastCalibrator where
  apply : ℚ → ℚ
  describe : String
  apply_mem : ∀ p, 0 ≤ p → p ≤ 1 → 0 ≤ apply p ∧ apply p ≤ 1

/-- The calibrator of a snapshot of rows. -/
def ForecastCalibrator.ofRows (parse : String → Option ℚ) (rows : List (Option OutcomeRow))
    (used limit : ℤ) (config : CalibrationConfig) : ForecastCalibrator :=
  let calibrator :=
    Calibrator.fromSnapshot (some (performanceSnapshotFromRows parse rows used limit)) config
  { apply := calibrator.apply
    describe := calibrator.describe
    apply_mem := fun _ nonneg le_one =>
      (fromSnapshot_bounded parse rows used limit config).within ⟨nonneg, le_one⟩ }

/-- The graph; `decimalText` is `str` of a `Decimal`. -/
structure ForecastGraph where
  calibrator : Option ForecastCalibrator
  decimalText : ℚ → String

/-- The checks of the constructor of a forecast. -/
def ForecastRanges (probability low high confidence : ℚ) : Prop :=
  (0 ≤ low ∧ high ≤ 1) ∧ (low ≤ probability ∧ probability ≤ high) ∧
    0 ≤ confidence ∧ confidence ≤ 1

instance (probability low high confidence : ℚ) :
    Decidable (ForecastRanges probability low high confidence) :=
  inferInstanceAs (Decidable (_ ∧ _))

namespace ForecastGraph

variable (graph : ForecastGraph) (first second : PassForecast)

def rawProbability : ℚ :=
  (first.probabilityYes + second.probabilityYes) / 2

def disagreement : ℚ :=
  |first.probabilityYes - second.probabilityYes|

def confidence : ℚ :=
  min first.confidence second.confidence * max 0 (1 - disagreement first second)

def probability : ℚ :=
  match graph.calibrator with
  | none => rawProbability first second
  | some calibrator => calibrator.apply (rawProbability first second)

def calibrationNote : String :=
  match graph.calibrator with
  | none => ""
  | some calibrator =>
      let raw := rawProbability first second
      let probability := calibrator.apply raw
      if probability ≠ raw then
        s!" Reliability calibration moved the estimate from {graph.decimalText raw} " ++
          s!"to {graph.decimalText probability} ({calibrator.describe})."
      else ""

def low : ℚ :=
  min (min (min first.probabilityLow second.probabilityLow) (rawProbability first second))
    (graph.probability first second)

def high : ℚ :=
  max (max (max first.probabilityHigh second.probabilityHigh) (rawProbability first second))
    (graph.probability first second)

/-- `_aggregate`, with the id of the new forecast; `none` is a refusal of its constructor. -/
def aggregate (id : String) : Option PassForecast :=
  let probability := graph.probability first second
  let low := graph.low first second
  let high := graph.high first second
  let confidence := confidence first second
  if valid : ForecastRanges probability low high confidence then
    some
      { id := id
        marketId := first.marketId
        probabilityYes := probability
        probabilityLow := low
        probabilityHigh := high
        confidence := confidence
        evidenceFor := (first.evidenceFor ++ second.evidenceFor).eraseDups
        evidenceAgainst := (first.evidenceAgainst ++ second.evidenceAgainst).eraseDups
        assumptions := (first.assumptions ++ second.assumptions).eraseDups
        invalidationConditions :=
          (first.invalidationConditions ++ second.invalidationConditions).eraseDups
        sourceIds := (first.sourceIds ++ second.sourceIds).eraseDups
        model := s!"ensemble:{first.model}+{second.model}"
        rationale := "Deterministic two-pass ensemble; absolute disagreement=" ++
          s!"{graph.decimalText (disagreement first second)}. " ++
          "Intervals were unioned and confidence was penalized." ++
          graph.calibrationNote first second
        low_nonneg := valid.1.1
        high_le_one := valid.1.2
        low_le := valid.2.1.1
        le_high := valid.2.1.2
        confidence_nonneg := valid.2.2.1
        confidence_le_one := valid.2.2.2 }
  else none

/-! ### The ensemble is no bolder than its passes -/

theorem rawProbability_mem (first second : PassForecast) :
    0 ≤ rawProbability first second ∧ rawProbability first second ≤ 1 := by
  have low := first.low_nonneg.trans first.low_le
  have low' := second.low_nonneg.trans second.low_le
  have high := first.le_high.trans first.high_le_one
  have high' := second.le_high.trans second.high_le_one
  unfold rawProbability
  constructor <;> linarith

theorem probability_mem (graph : ForecastGraph) (first second : PassForecast) :
    0 ≤ graph.probability first second ∧ graph.probability first second ≤ 1 := by
  unfold probability
  split
  · exact rawProbability_mem first second
  · obtain ⟨nonneg, le_one⟩ := rawProbability_mem first second
    exact ForecastCalibrator.apply_mem _ _ nonneg le_one

theorem confidence_mem (first second : PassForecast) :
    0 ≤ confidence first second ∧
      confidence first second ≤ min first.confidence second.confidence := by
  have least : 0 ≤ min first.confidence second.confidence :=
    le_min first.confidence_nonneg second.confidence_nonneg
  have penalty : max 0 (1 - disagreement first second) ≤ 1 :=
    max_le zero_le_one (sub_le_self _ (abs_nonneg _))
  exact ⟨mul_nonneg least (le_max_left _ _), mul_le_of_le_one_right least penalty⟩

/-- The constructor never refuses the aggregate. -/
theorem aggregate_ranges (graph : ForecastGraph) (first second : PassForecast) :
    ForecastRanges (graph.probability first second) (graph.low first second)
      (graph.high first second) (confidence first second) := by
  obtain ⟨nonneg, le_one⟩ := graph.probability_mem first second
  obtain ⟨raw_nonneg, raw_le_one⟩ := rawProbability_mem first second
  obtain ⟨confidence_nonneg, confidence_le⟩ := confidence_mem first second
  refine ⟨⟨?_, ?_⟩, ⟨min_le_right _ _, le_max_right _ _⟩, confidence_nonneg, ?_⟩
  · exact le_min (le_min (le_min first.low_nonneg second.low_nonneg) raw_nonneg) nonneg
  · exact max_le (max_le (max_le first.high_le_one second.high_le_one) raw_le_one) le_one
  · exact confidence_le.trans ((min_le_left _ _).trans first.confidence_le_one)

end ForecastGraph

/-- The conservative probability of an outcome, as `choose` passes it to `_buy_candidate`. -/
def Forecast.conservativeProbability (forecast : Forecast) : Outcome → ℚ
  | .yes => forecast.probabilityLow
  | .no => 1 - forecast.probabilityHigh

/-- A forecast with a wider interval and no more confidence. -/
structure Forecast.Cautious (combined pass : Forecast) : Prop where
  low : combined.probabilityLow ≤ pass.probabilityLow
  high : pass.probabilityHigh ≤ combined.probabilityHigh
  confidence : combined.confidence ≤ pass.confidence

theorem Forecast.Cautious.conservative {combined pass : Forecast} (cautious : combined.Cautious pass)
    (outcome : Outcome) :
    combined.conservativeProbability outcome ≤ pass.conservativeProbability outcome := by
  cases outcome with
  | yes => exact cautious.low
  | no => exact sub_le_sub_left cautious.high 1

/-- **The ensemble can only make entries smaller.** -/
theorem ensemble_entries_smaller (graph : ForecastGraph) (first second : PassForecast)
    (id : String) : ∃ combined, graph.aggregate first second id = some combined ∧
      (0 ≤ combined.probabilityLow ∧ combined.probabilityLow ≤ combined.probabilityYes ∧
        combined.probabilityYes ≤ combined.probabilityHigh ∧ combined.probabilityHigh ≤ 1) ∧
      ∀ pass ∈ [first, second], combined.Cautious pass.toForecast ∧
        ∀ (strategy : ValueStrategy) market book outcome portfolio candidate larger,
          strategy.buyCandidate market combined.toForecast book outcome
            (combined.conservativeProbability outcome) portfolio = some candidate →
          strategy.buyCandidate market pass.toForecast book outcome
            (pass.conservativeProbability outcome) portfolio = some larger →
          ValueStrategy.SmallerEntry candidate larger := by
  have ranges := graph.aggregate_ranges first second
  refine ⟨_, dif_pos ranges, ⟨ranges.1.1, ranges.2.1.1, ranges.2.1.2, ranges.1.2⟩, ?_⟩
  suffices cautious : ∀ pass ∈ [first, second], Forecast.Cautious _ pass.toForecast by
    refine fun pass member => ⟨cautious pass member, ?_⟩
    intro strategy market book outcome portfolio candidate larger proposed other
    exact ValueStrategy.buyCandidate_mono ((cautious pass member).conservative outcome)
      proposed other
  have confidence := (ForecastGraph.confidence_mem first second).2
  simp only [List.mem_cons, List.not_mem_nil, or_false, forall_eq_or_imp, forall_eq]
  refine ⟨⟨?_, ?_, confidence.trans (min_le_left _ _)⟩, ?_, ?_, confidence.trans (min_le_right _ _)⟩
  · exact (min_le_left _ _).trans ((min_le_left _ _).trans (min_le_left _ _))
  · exact (le_max_left _ _).trans ((le_max_left _ _).trans (le_max_left _ _))
  · exact (min_le_left _ _).trans ((min_le_left _ _).trans (min_le_right _ _))
  · exact (le_max_right _ _).trans ((le_max_left _ _).trans (le_max_left _ _))

end Polybot
