import Polybot.Control.PersonalConfiguration
import Polybot.Trading.Sizing

/-!
The risk engine under risk policies.

The limits of the settings are overwritten while the process runs, and the engine reads
them at each decision. Stricter limits fail every check that the ceilings fail, so whatever
policies come and go, the engine approves nothing that the deployment's own settings would
refuse (`policies_only_refuse`).
-/

namespace Polybot

/-- The limits among the settings. -/
def Settings.riskLimits (settings : Settings) : RiskLimits
  | .maxOrderUsd => settings.maxOrderUsd
  | .maxTradeRiskPct => settings.maxTradeRiskPct
  | .maxEventExposurePct => settings.maxEventExposurePct
  | .maxBucketExposurePct => settings.maxBucketExposurePct
  | .maxGrossExposurePct => settings.maxGrossExposurePct
  | .dailyLossLimitPct => settings.dailyLossLimitPct
  | .maxDrawdownPct => settings.maxDrawdownPct
  | .minEdge => settings.minEdge

theorem RiskField.percentage_bounds {name : RiskField} {limit : ℚ} (valid : ¬ name.Invalid limit)
    (edge : name ≠ .minEdge) (order : name ≠ .maxOrderUsd) : 0 < limit ∧ limit ≤ 1 := by
  unfold Invalid at valid
  rw [if_neg edge, not_or, not_le, not_and, not_lt] at valid
  exact ⟨valid.1, valid.2 order⟩

theorem RiskField.order_pos {limit : ℚ} (valid : ¬ RiskField.maxOrderUsd.Invalid limit) :
    0 < limit :=
  not_le.mp fun low => valid (.inl low)

/-- The settings with other limits assigned. -/
def Settings.withLimits (settings : Settings) (limits : RiskLimits)
    (valid : ∀ name : RiskField, ¬ name.Invalid (limits name)) : Settings :=
  { settings with
    maxOrderUsd := limits .maxOrderUsd
    maxTradeRiskPct := limits .maxTradeRiskPct
    maxEventExposurePct := limits .maxEventExposurePct
    maxBucketExposurePct := limits .maxBucketExposurePct
    maxGrossExposurePct := limits .maxGrossExposurePct
    dailyLossLimitPct := limits .dailyLossLimitPct
    maxDrawdownPct := limits .maxDrawdownPct
    minEdge := limits .minEdge
    maxOrderUsd_pos := RiskField.order_pos (valid .maxOrderUsd)
    maxTradeRiskPct_bounds :=
      RiskField.percentage_bounds (valid .maxTradeRiskPct) (by decide) (by decide)
    maxEventExposurePct_bounds :=
      RiskField.percentage_bounds (valid .maxEventExposurePct) (by decide) (by decide)
    maxBucketExposurePct_bounds :=
      RiskField.percentage_bounds (valid .maxBucketExposurePct) (by decide) (by decide)
    maxGrossExposurePct_bounds :=
      RiskField.percentage_bounds (valid .maxGrossExposurePct) (by decide) (by decide) }

/-- The deployment that the settings configure. -/
def Settings.deployment (settings : Settings) : Deployment :=
  ⟨settings.accountId, settings.mode, settings.riskLimits⟩

section Gate

variable {settings : Settings} {limits : RiskLimits} {power : DecimalPower}
  {valid : ∀ name : RiskField, ¬ name.Invalid (limits name)} {candidate : TradeCandidate}
  {market : MarketSpec} {book : TimedBook} {portfolio : PortfolioState} {now : Instant}

theorem codeIf_subset {fails fails' : Prop} [Decidable fails] [Decidable fails'] {code : RiskCode}
    (harder : fails → fails') : codeIf fails code ⊆ codeIf fails' code := by
  intro other member
  rw [mem_codeIf] at member ⊢
  exact ⟨harder member.1, member.2⟩

theorem append_subset_append {codes codes' more more' : List RiskCode} (first : codes ⊆ codes')
    (second : more ⊆ more') : codes ++ more ⊆ codes' ++ more' :=
  List.append_subset.mpr ⟨List.subset_append_of_subset_left _ first,
    List.subset_append_of_subset_right _ second⟩

theorem dailyLossBasis_nonneg (funded : 0 ≤ portfolio.bankrollUsd) :
    0 ≤ portfolio.dailyLossBasisUsd := by
  unfold PortfolioState.dailyLossBasisUsd
  split
  · exact funded
  · split
    · exact funded
    · rename_i positive
      exact le_min funded (not_le.mp positive).le

theorem orderCodes_subset
    (strict : ∀ name : RiskField, name.AsStrict (settings.riskLimits name) (limits name)) :
    RiskEngine.orderCodes ⟨settings, power⟩ candidate market book now ⊆
      RiskEngine.orderCodes ⟨settings.withLimits limits valid, power⟩ candidate market book now := by
  have edge : settings.minEdge ≤ limits .minEdge := strict .minEdge
  have order : limits .maxOrderUsd ≤ settings.maxOrderUsd := strict .maxOrderUsd
  unfold RiskEngine.orderCodes
  refine append_subset_append (append_subset_append (append_subset_append (append_subset_append
    (List.Subset.refl _) (codeIf_subset ?_)) (codeIf_subset ?_)) (List.Subset.refl _))
    (List.Subset.refl _)
  · rintro ⟨entry, low⟩
    exact ⟨entry, low.trans_le edge⟩
  · intro large
    exact order.trans_lt large

theorem buyCodes_subset (funded : 0 ≤ portfolio.bankrollUsd)
    (strict : ∀ name : RiskField, name.AsStrict (settings.riskLimits name) (limits name)) :
    RiskEngine.buyCodes ⟨settings, power⟩ candidate market book portfolio ⊆
      RiskEngine.buyCodes ⟨settings.withLimits limits valid, power⟩ candidate market book
        portfolio := by
  have share : ∀ {limit ceiling : ℚ}, limit ≤ ceiling →
      portfolio.bankrollUsd * limit ≤ portfolio.bankrollUsd * ceiling :=
    fun below => mul_le_mul_of_nonneg_left below funded
  unfold RiskEngine.buyCodes
  dsimp only
  refine append_subset_append (append_subset_append (append_subset_append (append_subset_append
    (append_subset_append (append_subset_append (append_subset_append (List.Subset.refl _)
      (codeIf_subset (share (strict .maxTradeRiskPct)).trans_lt))
      (codeIf_subset (share (strict .maxEventExposurePct)).trans_lt))
      (codeIf_subset (share (strict .maxBucketExposurePct)).trans_lt))
      (codeIf_subset (share (strict .maxGrossExposurePct)).trans_lt))
      (codeIf_subset fun lost => lost.trans (neg_le_neg ?_)))
      (codeIf_subset (strict .maxDrawdownPct).trans)) (List.Subset.refl _)
  exact mul_le_mul_of_nonneg_left (strict .dailyLossLimitPct) (dailyLossBasis_nonneg funded)

/-- An approved BUY has a bankroll to pay it from. -/
theorem funded_of_approved (sized : candidate.Valid) (buys : candidate.side = .buy)
    (approved : RiskEngine.buyCodes ⟨settings, power⟩ candidate market book portfolio = []) :
    0 ≤ portfolio.bankrollUsd := by
  have within : ¬ portfolio.bankrollUsd * settings.maxTradeRiskPct <
      RiskEngine.commitment ⟨settings, power⟩ candidate market := by
    intro large
    have member : RiskCode.tradeRiskCapExceeded ∈
        RiskEngine.buyCodes ⟨settings, power⟩ candidate market book portfolio := by
      simp only [RiskEngine.buyCodes, List.mem_append, mem_codeIf]
      exact .inl (.inl (.inl (.inl (.inl (.inl (.inr ⟨large, trivial⟩))))))
    rw [approved] at member
    cases member
  have cost : 0 < RiskEngine.commitment ⟨settings, power⟩ candidate market := by
    unfold RiskEngine.commitment
    rw [buys]
    exact maximumBuyCost_pos sized.size sized.limitPrice.1
  refine not_lt.mp fun negative => within (lt_of_lt_of_le ?_ cost.le)
  exact mul_neg_of_neg_of_pos negative settings.maxTradeRiskPct_bounds.1

/-- Stricter limits approve less. -/
theorem approved_of_stricter (sized : candidate.Valid)
    (strict : ∀ name : RiskField, name.AsStrict (settings.riskLimits name) (limits name))
    (approved : (RiskEngine.evaluateCandidate ⟨settings.withLimits limits valid, power⟩ candidate
      market book portfolio now).approved = true) :
    (RiskEngine.evaluateCandidate ⟨settings, power⟩ candidate market book portfolio now).approved =
      true := by
  unfold RiskEngine.evaluateCandidate at approved ⊢
  rw [decide_eq_true_iff, List.append_eq_nil_iff] at approved ⊢
  obtain ⟨order, rest⟩ := approved
  refine ⟨List.subset_nil.mp (order ▸ orderCodes_subset strict), ?_⟩
  cases side : candidate.side with
  | buy =>
      rw [side] at rest
      exact List.subset_nil.mp
        (rest ▸ buyCodes_subset (funded_of_approved sized side rest) strict)
  | sell =>
      rw [side] at rest
      exact rest

end Gate

theorem limits_valid_after (settings : Settings)
    (configured : ∀ name : RiskField, ¬ name.Invalid (settings.riskLimits name))
    (calls : List SettingsCall) (name : RiskField) :
    ¬ name.Invalid ((settings.deployment.start.after calls).limits name) :=
  (RuntimeSettings.after_governed RuntimeSettings.Governed.start calls).valid configured name

/-- The settings once the policies of the calls were applied. -/
def Settings.afterPolicies (settings : Settings)
    (configured : ∀ name : RiskField, ¬ name.Invalid (settings.riskLimits name))
    (calls : List SettingsCall) : Settings :=
  settings.withLimits (settings.deployment.start.after calls).limits
    (limits_valid_after settings configured calls)

/-- Whatever policies a deployment is given, its risk engine approves only what it approves
under the deployment's own limits. -/
theorem policies_only_refuse (settings : Settings)
    (configured : ∀ name : RiskField, ¬ name.Invalid (settings.riskLimits name))
    (calls : List SettingsCall) (power : DecimalPower) {candidate : TradeCandidate}
    (market : MarketSpec) (book : TimedBook) (portfolio : PortfolioState) (now : Instant)
    (sized : candidate.Valid)
    (approved : (RiskEngine.evaluateCandidate ⟨settings.afterPolicies configured calls, power⟩
      candidate market book portfolio now).approved = true) :
    (RiskEngine.evaluateCandidate ⟨settings, power⟩ candidate market book portfolio now).approved =
      true :=
  have governed : (settings.deployment.start.after calls).Governed settings.deployment _ :=
    RuntimeSettings.after_governed RuntimeSettings.Governed.start calls
  approved_of_stricter sized governed.asStrict approved

theorem standard_limits_valid (name : RiskField) :
    ¬ name.Invalid (Settings.standard.riskLimits name) := by
  cases name <;> norm_num [RiskField.Invalid, Settings.riskLimits, Settings.standard]

/-- A bid for ten shares at one half. -/
def halfBid : TimedBook where
  tokenId := "yes"
  marketId := "market"
  bids := [⟨1 / 2, 10⟩]
  asks := []
  tickSize := 1 / 100
  minimumOrderSize := 1 / 100
  capturedAt := 0
  valid := ⟨BookLevel.valid_tenAtHalf, BookLevel.valid_nil⟩
  tickSize_pos := Literal.hundredth_pos
  minimumOrderSize_pos := Literal.hundredth_pos

/-- The exit of two shares into the bid. -/
def halfExit : TradeCandidate where
  marketId := "market"
  conditionId := none
  eventId := some "event"
  bucket := "bucket"
  tokenId := "yes"
  outcome := .yes
  side := .sell
  conservativeProbability := 0
  expectedPrice := 1 / 2
  limitPrice := 1 / 2
  size := 2
  notionalUsd := 1
  maxCommitmentUsd := none
  feeEstimateUsd := 0
  edgeAfterCosts := 0
  strategy := "risk_exit_v1"
  forecastId := none
  decisionKey := none
  bookCapturedAt := 0

/-- What a portfolio holds that the exit sells of. -/
def halfPortfolio : PortfolioState :=
  { ValueStrategy.livePortfolio with tokenPositions := Dict.empty.set "yes" 10 }

theorem halfExit_valid : halfExit.Valid := by
  refine ⟨by norm_num [halfExit], by norm_num [halfExit], by norm_num [halfExit],
    by norm_num [halfExit], by norm_num [halfExit], ?_, by norm_num [halfExit]⟩
  rintro _ ⟨⟩

/-- The exit passes the gate of a canary, so it passes that of the deployment. -/
theorem canary_exit_approved : (RiskEngine.evaluateCandidate ⟨.standard, .whole⟩ halfExit
    (ValueStrategy.freeMarket "event" "bucket") halfBid halfPortfolio 0).approved = true :=
  policies_only_refuse .standard standard_limits_valid [.applyPolicy none (some .canary)] .whole _ _ _ _
    halfExit_valid (by decide +kernel)

end Polybot
