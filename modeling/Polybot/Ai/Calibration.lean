import Mathlib.Data.List.Sort
import Polybot.Ai.Performance
import Polybot.Arithmetic.Decimal
import Polybot.Arithmetic.Polyline

/-!
Reliability calibration (`ai/calibration.py`).

The curve goes through the bins that have enough samples, each with the running maximum of
the frequencies; `apply` moves a probability a part of the way to it, within two clamps
and a rounding. The anchors of a curve from rows ascend (`anchors_ascending`), so the
sorting and the removal of duplicates leave them as they are, and the correction is
monotone and bounded (`apply_bounded`).
-/

namespace Polybot

open Interpolation

/-- The settings, each in the range that its field admits. -/
structure CalibrationConfig where
  enabled : Bool := true
  minTotalSamples : ℕ := minCalibrationSamples
  minBinSamples : ℕ := 10
  shrinkageSamples : ℕ := 60
  maxAbsoluteShift : ℚ := 15 / 100
  total_pos : 1 ≤ minTotalSamples := by decide
  bin_pos : 1 ≤ minBinSamples := by decide
  shrinkage_pos : 1 ≤ shrinkageSamples := by decide
  shift_range : 0 ≤ maxAbsoluteShift ∧ maxAbsoluteShift ≤ 1 := by norm_num

/-- A point of the curve: what was said, and what happened. -/
structure ReliabilityAnchor where
  forecast : ℚ
  observed : ℚ
  samples : ℕ
  deriving DecidableEq

structure CalibrationCurve where
  anchors : List ReliabilityAnchor
  samples : ℕ

/-! ### Reading the curve -/

/-- The loop over neighbouring anchors. -/
def readSegment (probability : ℚ) : List ReliabilityAnchor → Option ℚ
  | left :: right :: rest =>
      if left.forecast ≤ probability ∧ probability ≤ right.forecast then
        let span := right.forecast - left.forecast
        if span ≤ 0 then some right.observed
        else
          let weight := (probability - left.forecast) / span
          some (left.observed + (right.observed - left.observed) * weight)
      else readSegment probability (right :: rest)
  | _ => none

def CalibrationCurve.interpolate (curve : CalibrationCurve) (probability : ℚ) : ℚ :=
  match curve.anchors with
  | [] => probability
  | first :: rest =>
      let last := (first :: rest).getLast (List.cons_ne_nil _ _)
      if probability ≤ first.forecast then first.observed
      else if last.forecast ≤ probability then last.observed
      else (readSegment probability (first :: rest)).getD last.observed

/-! ### Building the curve -/

/-- The forecast and the frequency of a bin that anchors the curve. -/
def CalibrationBin.usable (config : CalibrationConfig) (bin : CalibrationBin) : Option (ℚ × ℚ) := do
  guard (config.minBinSamples ≤ bin.samples)
  let forecast ← bin.meanForecast
  let observed ← bin.observedFrequency
  guard (0 ≤ forecast ∧ forecast ≤ 1 ∧ 0 ≤ observed ∧ observed ≤ 1)
  pure (forecast, observed)

/-- The anchors of the bins, each at least as high as the ones before it. -/
def anchorsFrom (config : CalibrationConfig) (runningMax : ℚ) :
    List CalibrationBin → List ReliabilityAnchor
  | [] => []
  | bin :: rest =>
      match bin.usable config with
      | none => anchorsFrom config runningMax rest
      | some (forecast, observed) =>
          ⟨forecast, max observed runningMax, bin.samples⟩ ::
            anchorsFrom config (max observed runningMax) rest

/-- One anchor of the loop that keeps one anchor for each forecast. -/
def dedupeStep (deduped : List ReliabilityAnchor) (anchor : ReliabilityAnchor) :
    List ReliabilityAnchor :=
  match deduped.getLast? with
  | none => deduped ++ [anchor]
  | some last =>
      if last.forecast = anchor.forecast then
        if last.samples ≤ anchor.samples then deduped.dropLast ++ [anchor] else deduped
      else deduped ++ [anchor]

def buildCurve (snapshot : Option PerformanceSnapshot) (config : CalibrationConfig) :
    Option CalibrationCurve := do
  guard (config.enabled = true)
  let snapshot ← snapshot
  guard (config.minTotalSamples ≤ snapshot.sampleSize)
  let anchors := anchorsFrom config 0 snapshot.calibration
  guard (anchors ≠ [])
  let deduped := (anchors.insertionSort fun a b => a.forecast ≤ b.forecast).foldl dedupeStep []
  pure ⟨deduped, (deduped.map ReliabilityAnchor.samples).sum⟩

/-! ### Applying it -/

structure Calibrator where
  config : CalibrationConfig
  curve : Option CalibrationCurve

namespace Calibrator

def fromSnapshot (snapshot : Option PerformanceSnapshot) (config : CalibrationConfig) :
    Calibrator :=
  ⟨config, buildCurve snapshot config⟩

/-- The weight of the samples against the hypothetical ones. -/
def weight (calibrator : Calibrator) (curve : CalibrationCurve) : ℚ :=
  let total : ℚ := curve.samples + calibrator.config.shrinkageSamples
  if 0 < total then curve.samples / total else 0

def apply (calibrator : Calibrator) (probability : ℚ) : ℚ :=
  match calibrator.curve with
  | none => probability
  | some curve =>
      let target := curve.interpolate probability
      let adjusted := probability + (target - probability) * calibrator.weight curve
      let shift := calibrator.config.maxAbsoluteShift
      let adjusted := min (max adjusted (probability - shift)) (probability + shift)
      let adjusted := min (max adjusted 0) 1
      Decimal.roundPlaces 6 adjusted

def describe (calibrator : Calibrator) : String :=
  match calibrator.curve with
  | none => "calibration inactive (insufficient resolved forecasts)"
  | some curve => s!"reliability curve from {curve.samples} resolved forecasts"

/-- What the curve says; no curve says what it is asked. -/
def curveValue (calibrator : Calibrator) (probability : ℚ) : ℚ :=
  match calibrator.curve with
  | none => probability
  | some curve => curve.interpolate probability

end Calibrator

/-! ### The anchors ascend -/

variable {config : CalibrationConfig} {bins : List CalibrationBin} {bin : CalibrationBin}
  {anchor : ReliabilityAnchor} {anchors : List ReliabilityAnchor} {runningMax : ℚ}

/-- The mean forecasts of the bins increase. -/
def BinsAscend (bins : List CalibrationBin) : Prop :=
  bins.Pairwise fun bin other =>
    ∀ a ∈ bin.meanForecast, ∀ b ∈ other.meanForecast, a < b

theorem calibrationBins_ascend (points : List ResolvedForecast) :
    BinsAscend (calibrationBins points) := by
  refine List.pairwise_map.mpr (List.pairwise_lt_range.imp_of_mem ?_)
  intro index other _ member before a inBin b inOther
  exact ((mean_mem inBin).lt before (List.mem_range.mp member)).trans_le (mean_mem inOther).1.1

theorem usable_eq_some_iff {forecast observed : ℚ} :
    bin.usable config = some (forecast, observed) ↔
      config.minBinSamples ≤ bin.samples ∧ bin.meanForecast = some forecast ∧
        bin.observedFrequency = some observed ∧
        (0 ≤ forecast ∧ forecast ≤ 1 ∧ 0 ≤ observed ∧ observed ≤ 1) := by
  simp only [CalibrationBin.usable, Checked.option_bind_eq_some_iff,
    Checked.exists_guard_eq_some_iff]
  constructor
  · rintro ⟨enough, _, mean, _, frequency, ranges, ⟨⟩⟩
    exact ⟨enough, mean, frequency, ranges⟩
  · rintro ⟨enough, mean, frequency, ranges⟩
    exact ⟨enough, _, mean, _, frequency, ranges, rfl⟩

/-- An anchor is over a bin, and not below the maximum so far. -/
theorem mem_anchorsFrom (member : anchor ∈ anchorsFrom config runningMax bins)
    (lower : 0 ≤ runningMax) (upper : runningMax ≤ 1) :
    (∃ bin ∈ bins, anchor.forecast ∈ bin.meanForecast) ∧
      (runningMax ≤ anchor.observed ∧ anchor.observed ≤ 1) := by
  induction bins generalizing runningMax with
  | nil => cases member
  | cons bin rest ih =>
      rw [anchorsFrom] at member
      split at member
      · obtain ⟨⟨bin, here, mean⟩, bounds⟩ := ih member lower upper
        exact ⟨⟨bin, List.mem_cons_of_mem _ here, mean⟩, bounds⟩
      · rename_i forecast observed usable
        obtain ⟨-, mean, -, ranges⟩ := usable_eq_some_iff.mp usable
        have below : max observed runningMax ≤ 1 := max_le ranges.2.2.2 upper
        rcases List.mem_cons.mp member with rfl | later
        · exact ⟨⟨bin, List.mem_cons_self, mean⟩, le_max_right _ _, below⟩
        · obtain ⟨⟨bin, here, mean⟩, bounds⟩ := ih later (lower.trans (le_max_right _ _)) below
          refine ⟨⟨bin, List.mem_cons_of_mem _ here, mean⟩, ?_, bounds.2⟩
          exact (le_max_right _ _).trans bounds.1

theorem anchorsFrom_ascending (ascend : BinsAscend bins) (lower : 0 ≤ runningMax)
    (upper : runningMax ≤ 1) :
    Ascending ReliabilityAnchor.forecast ReliabilityAnchor.observed
      (anchorsFrom config runningMax bins) := by
  induction bins generalizing runningMax with
  | nil => exact .nil
  | cons bin rest ih =>
      obtain ⟨first, later⟩ := List.pairwise_cons.mp ascend
      rw [anchorsFrom]
      split
      · exact ih later lower upper
      · rename_i forecast observed usable
        obtain ⟨-, mean, -, ranges⟩ := usable_eq_some_iff.mp usable
        have above : 0 ≤ max observed runningMax := lower.trans (le_max_right _ _)
        have below : max observed runningMax ≤ 1 := max_le ranges.2.2.2 upper
        refine List.pairwise_cons.mpr ⟨fun anchor member => ?_, ih later above below⟩
        obtain ⟨⟨other, here, mean'⟩, bounds⟩ := mem_anchorsFrom member above below
        exact ⟨first other here _ mean _ mean', bounds.1⟩

theorem foldl_dedupeStep (deduped : List ReliabilityAnchor)
    (ascending : (deduped ++ anchors).Pairwise fun a b => a.forecast < b.forecast) :
    anchors.foldl dedupeStep deduped = deduped ++ anchors := by
  induction anchors generalizing deduped with
  | nil => exact (List.append_nil _).symm
  | cons anchor rest ih =>
      have step : dedupeStep deduped anchor = deduped ++ [anchor] := by
        unfold dedupeStep
        split
        · rfl
        · rename_i last found
          have before : last.forecast < anchor.forecast :=
            (List.pairwise_append.mp ascending).2.2 last (List.mem_of_getLast? found) anchor
              List.mem_cons_self
          exact if_neg before.ne
      rw [List.append_cons] at ascending
      rw [List.foldl_cons, step, ih _ ascending, List.append_assoc, List.singleton_append]

/-- A curve whose anchors ascend within the unit interval. -/
structure CalibrationCurve.Sound (curve : CalibrationCurve) : Prop where
  nonempty : curve.anchors ≠ []
  ascending : Ascending ReliabilityAnchor.forecast ReliabilityAnchor.observed curve.anchors
  observed : ∀ anchor ∈ curve.anchors, 0 ≤ anchor.observed ∧ anchor.observed ≤ 1

theorem buildCurve_sound {snapshot : PerformanceSnapshot} {curve : CalibrationCurve}
    (ascend : BinsAscend snapshot.calibration)
    (built : buildCurve (some snapshot) config = some curve) : curve.Sound := by
  simp only [buildCurve, Checked.exists_guard_eq_some_iff, Checked.option_bind_eq_some_iff] at built
  obtain ⟨-, _, ⟨⟩, -, some, ⟨⟩⟩ := built
  have ascending : Ascending ReliabilityAnchor.forecast ReliabilityAnchor.observed
      (anchorsFrom config 0 snapshot.calibration) :=
    anchorsFrom_ascending ascend le_rfl zero_le_one
  have increasing := ascending.imp And.left
  have kept : ((anchorsFrom config 0 snapshot.calibration).insertionSort
      fun a b => a.forecast ≤ b.forecast).foldl dedupeStep [] =
        anchorsFrom config 0 snapshot.calibration := by
    rw [(increasing.imp le_of_lt).insertionSort_eq, foldl_dedupeStep [] increasing,
      List.nil_append]
  refine ⟨?_, ?_, ?_⟩
  · rw [kept]
    exact some
  · rw [kept]
    exact ascending
  · rw [kept]
    exact fun anchor member => (mem_anchorsFrom member le_rfl zero_le_one).2

/-! ### The curve is read as a polyline -/

theorem readSegment_eq {left : ReliabilityAnchor} {rest : List ReliabilityAnchor} {probability : ℚ}
    (ascending : Ascending ReliabilityAnchor.forecast ReliabilityAnchor.observed (left :: rest))
    (after : left.forecast < probability)
    (before : probability < ((left :: rest).getLast (List.cons_ne_nil _ _)).forecast) :
    readSegment probability (left :: rest) = some
      (polyline ReliabilityAnchor.forecast ReliabilityAnchor.observed left rest probability) := by
  induction rest generalizing left with
  | nil => exact absurd before (not_lt.mpr after.le)
  | cons right rest ih =>
      obtain ⟨first, later⟩ := List.pairwise_cons.mp ascending
      have span : ¬ right.forecast - left.forecast ≤ 0 :=
        not_le.mpr (sub_pos.mpr (first right List.mem_cons_self).1)
      rw [readSegment, polyline, if_neg (not_le.mpr after)]
      by_cases here : probability ≤ right.forecast
      · rw [if_pos ⟨after.le, here⟩, if_pos here, if_neg span]
        rfl
      · rw [if_neg fun both => here both.2, if_neg here]
        rw [List.getLast_cons (List.cons_ne_nil _ _)] at before
        exact ih later (not_le.mp here) before

theorem interpolate_eq {curve : CalibrationCurve} {left : ReliabilityAnchor}
    {rest : List ReliabilityAnchor} (anchors : curve.anchors = left :: rest) (sound : curve.Sound)
    (probability : ℚ) : curve.interpolate probability =
      polyline ReliabilityAnchor.forecast ReliabilityAnchor.observed left rest probability := by
  have ascending := sound.ascending
  rw [anchors] at ascending
  simp only [CalibrationCurve.interpolate, anchors]
  split
  · rename_i before
    exact (polyline_before before).symm
  rename_i after
  split
  · rename_i beyond
    exact (polyline_after ascending beyond).symm
  · rename_i inside
    rw [readSegment_eq ascending (not_le.mp after) (not_le.mp inside), Option.getD_some]

theorem interpolate_mono {curve : CalibrationCurve} (sound : curve.Sound) :
    Monotone curve.interpolate := by
  obtain ⟨left, rest, anchors⟩ := List.exists_cons_of_ne_nil sound.nonempty
  have ascending := sound.ascending
  rw [anchors] at ascending
  intro probability higher le
  rw [interpolate_eq anchors sound, interpolate_eq anchors sound]
  exact polyline_mono ascending le

theorem interpolate_mem {curve : CalibrationCurve} (sound : curve.Sound) (probability : ℚ) :
    0 ≤ curve.interpolate probability ∧ curve.interpolate probability ≤ 1 := by
  obtain ⟨left, rest, anchors⟩ := List.exists_cons_of_ne_nil sound.nonempty
  have ascending := sound.ascending
  have observed := sound.observed
  rw [anchors] at ascending observed
  rw [interpolate_eq anchors sound]
  exact ⟨(observed left List.mem_cons_self).1.trans (le_polyline ascending),
    (polyline_le ascending).trans (observed _ (List.getLast_mem _)).2⟩

/-! ### The correction is bounded -/

/-- Half a unit of the last place, 0.0000005. -/
def halfQuantum : ℚ := 1 / 2 / 10 ^ 6

/-- What a correction of probabilities may do. -/
structure BoundedCorrection (shift : ℚ) (curve apply : ℚ → ℚ) : Prop where
  monotone : MonotoneOn apply (Set.Icc 0 1)
  within : Set.MapsTo apply (Set.Icc 0 1) (Set.Icc 0 1)
  moves : ∀ p ∈ Set.Icc (0 : ℚ) 1, |apply p - p| ≤ shift + halfQuantum
  between : ∀ p ∈ Set.Icc (0 : ℚ) 1,
    min p (curve p) - halfQuantum ≤ apply p ∧ apply p ≤ max p (curve p) + halfQuantum

namespace Calibrator

variable {calibrator : Calibrator} {curve : CalibrationCurve} {probability higher : ℚ}

theorem weight_mem : 0 ≤ calibrator.weight curve ∧ calibrator.weight curve ≤ 1 := by
  have positive : (0 : ℚ) < curve.samples + calibrator.config.shrinkageSamples := by
    have shrinks : (1 : ℚ) ≤ calibrator.config.shrinkageSamples := by
      exact_mod_cast calibrator.config.shrinkage_pos
    positivity
  simp only [weight, if_pos positive]
  refine ⟨by positivity, (div_le_one positive).mpr ?_⟩
  exact le_add_of_nonneg_right (Nat.cast_nonneg _)

/-- The correction before the rounding, and before the clamp that it does not need. -/
def shifted (calibrator : Calibrator) (curve : CalibrationCurve) (probability : ℚ) : ℚ :=
  clamp (probability - calibrator.config.maxAbsoluteShift)
    (probability + calibrator.config.maxAbsoluteShift)
    (towards (calibrator.weight curve) (curve.interpolate probability) probability)

theorem shifted_mono (sound : curve.Sound) : Monotone (calibrator.shifted curve) := by
  intro probability higher le
  refine clamp_mono (sub_le_sub_right le _) (add_le_add_left le _) ?_
  exact towards_mono weight_mem.1 weight_mem.2 (interpolate_mono sound le) le

theorem shifted_between (calibrator : Calibrator) (curve : CalibrationCurve) (probability : ℚ) :
    min probability (curve.interpolate probability) ≤ calibrator.shifted curve probability ∧
      calibrator.shifted curve probability ≤ max probability (curve.interpolate probability) := by
  have range := calibrator.config.shift_range.1
  have towards : min probability (curve.interpolate probability) ≤
        towards (calibrator.weight curve) (curve.interpolate probability) probability ∧
      towards (calibrator.weight curve) (curve.interpolate probability) probability ≤
        max probability (curve.interpolate probability) :=
    towards_mem weight_mem.1 weight_mem.2
  have clamped := @clamp_between ℚ _
    (Interpolation.towards (calibrator.weight curve) (curve.interpolate probability) probability)
    probability _ _ (sub_le_self probability range) (le_add_of_nonneg_right range)
  exact ⟨(le_min towards.1 (min_le_left _ _)).trans clamped.1,
    clamped.2.trans (max_le towards.2 (le_max_left _ _))⟩

theorem shifted_moves (calibrator : Calibrator) (curve : CalibrationCurve) (probability : ℚ) :
    |calibrator.shifted curve probability - probability| ≤ calibrator.config.maxAbsoluteShift := by
  have range := calibrator.config.shift_range.1
  obtain ⟨lower, upper⟩ := @clamp_mem ℚ _
    (towards (calibrator.weight curve) (curve.interpolate probability) probability) _ _
    (show probability - calibrator.config.maxAbsoluteShift ≤
      probability + calibrator.config.maxAbsoluteShift by linarith)
  unfold shifted
  rw [abs_le]
  constructor <;> linarith

/-- Within the unit interval the last clamp does nothing. -/
theorem apply_eq (active : calibrator.curve = some curve) (sound : curve.Sound)
    (inUnit : probability ∈ Set.Icc (0 : ℚ) 1) :
    calibrator.apply probability = Decimal.roundPlaces 6 (calibrator.shifted curve probability) ∧
      calibrator.shifted curve probability ∈ Set.Icc (0 : ℚ) 1 := by
  obtain ⟨lower, upper⟩ := interpolate_mem sound probability
  obtain ⟨above, below⟩ := shifted_between calibrator curve probability
  have nonneg : 0 ≤ calibrator.shifted curve probability := (le_min inUnit.1 lower).trans above
  have le_one : calibrator.shifted curve probability ≤ 1 := below.trans (max_le inUnit.2 upper)
  refine ⟨?_, nonneg, le_one⟩
  simp only [apply, active]
  exact congrArg (Decimal.roundPlaces 6) (clamp_of_mem nonneg le_one)

/-- **The correction is bounded and monotone.** -/
theorem apply_bounded (calibrator : Calibrator) (sound : ∀ curve ∈ calibrator.curve, curve.Sound) :
    BoundedCorrection calibrator.config.maxAbsoluteShift calibrator.curveValue calibrator.apply := by
  have range := calibrator.config.shift_range.1
  cases active : calibrator.curve with
  | none =>
      have identity : calibrator.apply = id := by
        funext p
        simp only [apply, active, id_eq]
      have half : (0 : ℚ) ≤ halfQuantum := by norm_num [halfQuantum]
      rw [identity]
      refine ⟨monotone_id.monotoneOn _, Set.mapsTo_id _, fun p _ => ?_, fun p _ => ?_⟩
      · rw [id_eq, sub_self, abs_zero]
        linarith
      · simp only [curveValue, active, min_self, max_self, id_eq]
        constructor <;> linarith
  | some curve =>
      have sound := sound curve active
      have value : calibrator.curveValue = curve.interpolate := by
        funext p
        simp only [curveValue, active]
      rw [value]
      have near (p : ℚ) :
          -halfQuantum ≤ calibrator.shifted curve p -
              Decimal.roundPlaces 6 (calibrator.shifted curve p) ∧
            calibrator.shifted curve p - Decimal.roundPlaces 6 (calibrator.shifted curve p) ≤
              halfQuantum :=
        abs_le.mp (Decimal.abs_sub_roundPlaces_le 6 (calibrator.shifted curve p))
      refine ⟨?_, ?_, fun p inUnit => ?_, fun p inUnit => ?_⟩
      · intro p inUnit q inUnit' le
        rw [(apply_eq active sound inUnit).1, (apply_eq active sound inUnit').1]
        exact Decimal.roundPlaces_mono 6 (shifted_mono sound le)
      · intro p inUnit
        obtain ⟨same, nonneg, le_one⟩ := apply_eq active sound inUnit
        have zero : Decimal.roundPlaces 6 (0 : ℚ) = 0 := by
          exact_mod_cast Decimal.roundPlaces_intCast (K := ℚ) 6 0
        have one : Decimal.roundPlaces 6 (1 : ℚ) = 1 := by
          exact_mod_cast Decimal.roundPlaces_intCast (K := ℚ) 6 1
        rw [same]
        exact ⟨zero.symm.le.trans (Decimal.roundPlaces_mono 6 nonneg),
          (Decimal.roundPlaces_mono 6 le_one).trans one.le⟩
      · rw [(apply_eq active sound inUnit).1]
        have moves := abs_le.mp (calibrator.shifted_moves curve p)
        rw [abs_le]
        constructor <;> linarith [near p]
      · rw [(apply_eq active sound inUnit).1]
        have between := calibrator.shifted_between curve p
        constructor <;> linarith [near p]

end Calibrator

/-! ### Calibration from rows -/

theorem anchorsFrom_eq_nil (thin : ∀ bin ∈ bins, bin.samples < config.minBinSamples) :
    anchorsFrom config runningMax bins = [] := by
  induction bins with
  | nil => rfl
  | cons bin rest ih =>
      have unusable : bin.usable config = none := by
        rw [Option.eq_none_iff_forall_ne_some]
        rintro ⟨forecast, observed⟩ usable
        exact absurd (usable_eq_some_iff.mp usable).1 (not_le.mpr (thin bin List.mem_cons_self))
      rw [anchorsFrom, unusable]
      exact ih fun other member => thin other (List.mem_cons_of_mem _ member)

theorem buildCurve_eq_none {snapshot : PerformanceSnapshot}
    (thin : config.enabled = false ∨ snapshot.sampleSize < config.minTotalSamples ∨
      ∀ bin ∈ snapshot.calibration, bin.samples < config.minBinSamples) :
    buildCurve (some snapshot) config = none := by
  rw [Option.eq_none_iff_forall_ne_some]
  intro curve built
  simp only [buildCurve, Checked.exists_guard_eq_some_iff, Checked.option_bind_eq_some_iff] at built
  obtain ⟨enabled, _, ⟨⟩, enough, some, -⟩ := built
  rcases thin with disabled | few | empty
  · cases enabled.symm.trans disabled
  · exact absurd enough (not_le.mpr few)
  · exact some (anchorsFrom_eq_nil empty)

/-- The calibrator of a snapshot of rows is bounded. -/
theorem fromSnapshot_bounded (parse : String → Option ℚ) (rows : List (Option OutcomeRow))
    (used limit : ℤ) (config : CalibrationConfig) :
    BoundedCorrection config.maxAbsoluteShift
      (Calibrator.fromSnapshot (some (performanceSnapshotFromRows parse rows used limit))
        config).curveValue
      (Calibrator.fromSnapshot (some (performanceSnapshotFromRows parse rows used limit))
        config).apply := by
  refine Calibrator.apply_bounded (Calibrator.fromSnapshot (some _) config) fun curve built => ?_
  exact @buildCurve_sound config (performanceSnapshotFromRows parse rows used limit) curve
    (calibrationBins_ascend _) built

/-- **Calibration is a bounded monotone correction**, for all rows and settings. -/
theorem calibration_bounded (parse : String → Option ℚ) (rows : List (Option OutcomeRow))
    (used limit : ℤ) (config : CalibrationConfig) :
    let snapshot := performanceSnapshotFromRows parse rows used limit
    let calibrator := Calibrator.fromSnapshot (some snapshot) config
    (snapshot.calibration.length = binCount ∧
      (snapshot.calibration.map CalibrationBin.samples).sum = snapshot.sampleSize ∧
      ∀ p ∈ Set.Icc (0 : ℚ) 1, ∃! index, index < binCount ∧ InBin index p) ∧
    BoundedCorrection config.maxAbsoluteShift calibrator.curveValue calibrator.apply ∧
    (config.enabled = false ∨ snapshot.sampleSize < config.minTotalSamples ∨
      (∀ bin ∈ snapshot.calibration, bin.samples < config.minBinSamples) →
        calibrator.apply = id) := by
  intro snapshot calibrator
  refine ⟨⟨?_, sum_samples, fun p inUnit => inBin_unique inUnit.1 inUnit.2⟩, ?_, fun thin => ?_⟩
  · exact (List.length_map ..).trans List.length_range
  · exact fromSnapshot_bounded parse rows used limit config
  · funext p
    have inactive : calibrator.curve = none := buildCurve_eq_none thin
    simp only [Calibrator.apply, inactive, id_eq]

end Polybot
