import Polybot.Models
import Polybot.Collections.Checked
import Mathlib.Logic.Function.Basic
import Mathlib.Algebra.Order.Ring.Rat

/-!
The personal configuration and the deployment's risk ceilings.

The limits of the settings are overwritten in place by each accepted risk policy, and the
settings are also where the ceilings were read from. `policyValues_ok_iff` says what a
policy makes of the ceilings, `RuntimeSettings.next_governed` that a call leaves the limits
to the ceilings and the last accepted call, and `deployment_ceilings_hold` is about every
list of calls.
-/

namespace Polybot

open Checked

/-! ### Limits -/

/-- The names of `RISK_FIELDS`. -/
inductive RiskField where
  | maxOrderUsd
  | maxTradeRiskPct
  | maxEventExposurePct
  | maxBucketExposurePct
  | maxGrossExposurePct
  | dailyLossLimitPct
  | maxDrawdownPct
  | minEdge
  deriving DecidableEq, Repr

/-- `RISK_FIELDS`. -/
def riskFields : List RiskField :=
  [.maxOrderUsd, .maxTradeRiskPct, .maxEventExposurePct, .maxBucketExposurePct,
    .maxGrossExposurePct, .dailyLossLimitPct, .maxDrawdownPct, .minEdge]

theorem RiskField.mem_riskFields (name : RiskField) : name ∈ riskFields := by
  cases name <;> decide

theorem riskFields_nodup : riskFields.Nodup := by
  decide

/-- A dictionary with the keys `RISK_FIELDS`. -/
abbrev RiskLimits := RiskField → ℚ

namespace RiskField

/-- The comparisons a requested limit must not pass. -/
def Invalid (name : RiskField) (requested : ℚ) : Prop :=
  (if name = .minEdge then requested < 0 else requested ≤ 0) ∨ name ≠ .maxOrderUsd ∧ 1 < requested

instance (name : RiskField) (requested : ℚ) : Decidable (name.Invalid requested) := by
  unfold Invalid
  infer_instance

/-- `max` for the edge and `min` for the other limits. -/
def tighter (name : RiskField) (ceiling requested : ℚ) : ℚ :=
  if name = .minEdge then max ceiling requested else min ceiling requested

/-- `limit` is at least as strict as `ceiling`. -/
def AsStrict (name : RiskField) (ceiling limit : ℚ) : Prop :=
  if name = .minEdge then ceiling ≤ limit else limit ≤ ceiling

theorem asStrict_refl (name : RiskField) (ceiling : ℚ) : name.AsStrict ceiling ceiling := by
  unfold AsStrict
  split <;> exact le_rfl

theorem asStrict_tighter (name : RiskField) (ceiling requested : ℚ) :
    name.AsStrict ceiling (name.tighter ceiling requested) := by
  unfold AsStrict tighter
  split
  · exact le_max_left _ _
  · exact min_le_left _ _

theorem tighter_choice (name : RiskField) (ceiling requested : ℚ) :
    name.tighter ceiling requested = ceiling ∨ name.tighter ceiling requested = requested := by
  unfold tighter
  split
  · exact max_choice _ _
  · exact min_choice _ _

end RiskField

/-! ### Policies -/

/-- A `RiskPolicySnapshot`. A requested limit that is not finite is `none`. -/
structure RiskPolicySnapshot where
  id : String
  accountId : String
  version : Int
  status : String
  requested : RiskField → Option ℚ

def RiskPolicySnapshot.inactive : String :=
  "risk policy is not active for this account"

def RiskPolicySnapshot.invalidLimit : String :=
  "risk policy contains an invalid limit"

/-- The policy's own limit of a field, checked. -/
def RiskPolicySnapshot.limit (policy : RiskPolicySnapshot) (name : RiskField) : Except String ℚ :=
  match policy.requested name with
  | some requested =>
      if name.Invalid requested then .error RiskPolicySnapshot.invalidLimit else .ok requested
  | none => .error RiskPolicySnapshot.invalidLimit

/-- `PersonalConfiguration`, as far as policies go. -/
structure PersonalConfiguration where
  ceilings : RiskLimits
  policyId : Option String
  policyVersion : Option Int
  policyLoaded : Bool
  effective : RiskLimits

/-- The settings of the process. -/
structure RuntimeSettings where
  accountId : String
  mode : TradingMode
  limits : RiskLimits
  runtimeConfiguration : Option PersonalConfiguration

/-- The cap of a canary order. -/
def canaryOrderUsd : ℚ := 5

namespace PersonalConfiguration

/-- The body of the loop over the limits. -/
def tightened (policy : RiskPolicySnapshot) (name : RiskField) (ceiling : ℚ) : Except String ℚ := do
  let requested ← policy.limit name
  pure (name.tighter ceiling requested)

/-- The part of `policy_values` before the canary cap. -/
def tightenedValues (configuration : PersonalConfiguration) (settings : RuntimeSettings) :
    Option RiskPolicySnapshot → Except String RiskLimits
  | none => .ok configuration.ceilings
  | some policy => do
      require (policy.accountId = settings.accountId ∧ policy.status = "active")
        RiskPolicySnapshot.inactive
      riskFields.foldlM (fun values name => do
        let value ← tightened policy name (values name)
        pure (Function.update values name value)) configuration.ceilings

/-- `policy_values`. -/
def policyValues (configuration : PersonalConfiguration) (settings : RuntimeSettings)
    (policy : Option RiskPolicySnapshot) (mode : Option TradingMode) : Except String RiskLimits := do
  let values ← configuration.tightenedValues settings policy
  pure (if mode.getD settings.mode = .canary then
    Function.update values .maxOrderUsd (min (values .maxOrderUsd) canaryOrderUsd) else values)

end PersonalConfiguration

namespace RuntimeSettings

variable (settings : RuntimeSettings)

/-- `personal_configuration`: the configuration that the settings hold, else a new one. -/
def personalConfiguration : PersonalConfiguration :=
  settings.runtimeConfiguration.getD ⟨settings.limits, none, none, false, settings.limits⟩

/-- The settings after `personal_configuration`. -/
def configured : RuntimeSettings :=
  { settings with runtimeConfiguration := some settings.personalConfiguration }

/-- `apply_policy` of the configuration of the settings. -/
def applyPolicy (policy : Option RiskPolicySnapshot) (mode : Option TradingMode) :
    RuntimeSettings × Except String Unit :=
  match settings.personalConfiguration.policyValues settings policy mode with
  | .error message => (settings.configured, .error message)
  | .ok values =>
      let configuration : PersonalConfiguration :=
        { settings.personalConfiguration with
          effective := values
          policyId := policy.map (·.id)
          policyVersion := policy.map (·.version)
          policyLoaded := true }
      ({ settings with limits := values, runtimeConfiguration := some configuration }, .ok ())

end RuntimeSettings

/-- What the process does with its settings. -/
inductive SettingsCall where
  | configure
  | applyPolicy (policy : Option RiskPolicySnapshot) (mode : Option TradingMode)
  | setMode (mode : TradingMode)

def RuntimeSettings.next (settings : RuntimeSettings) :
    SettingsCall → RuntimeSettings × Except String Unit
  | .configure => (settings.configured, .ok ())
  | .applyPolicy policy mode => settings.applyPolicy policy mode
  | .setMode mode => ({ settings with mode := mode }, .ok ())

/-- The settings after a list of calls. -/
def RuntimeSettings.after (settings : RuntimeSettings) (calls : List SettingsCall) :
    RuntimeSettings :=
  calls.foldl (fun settings call => (settings.next call).1) settings

/-! ### What a policy makes of the ceilings -/

/-- A policy that the account's configuration takes. -/
structure RiskPolicySnapshot.Accepted (policy : RiskPolicySnapshot) (accountId : String) : Prop where
  accountId : policy.accountId = accountId
  status : policy.status = "active"
  requested : ∀ name, ∃ requested ∈ policy.requested name, ¬ name.Invalid requested

/-- The ceilings, tightened by a policy. -/
def RiskLimits.tightened (ceilings : RiskLimits) (policy : Option RiskPolicySnapshot) :
    RiskLimits := fun name =>
  ((policy.bind (·.requested name)).map (name.tighter (ceilings name))).getD (ceilings name)

/-- An accepted call of `apply_policy`, with the mode it was for. -/
structure AppliedPolicy where
  policy : Option RiskPolicySnapshot
  mode : TradingMode

/-- The limits under an accepted policy. -/
def RiskLimits.under (ceilings : RiskLimits) (applied : AppliedPolicy) : RiskLimits := fun name =>
  let value := ceilings.tightened applied.policy name
  if name = .maxOrderUsd ∧ applied.mode = .canary then min value canaryOrderUsd else value

theorem RiskLimits.asStrict_tightened (ceilings : RiskLimits) (policy : Option RiskPolicySnapshot)
    (name : RiskField) : name.AsStrict (ceilings name) (ceilings.tightened policy name) := by
  unfold tightened
  cases policy.bind (·.requested name) with
  | none => exact name.asStrict_refl _
  | some requested => exact name.asStrict_tighter _ _

theorem RiskLimits.asStrict_under (ceilings : RiskLimits) (applied : AppliedPolicy)
    (name : RiskField) : name.AsStrict (ceilings name) (ceilings.under applied name) := by
  have tightened := ceilings.asStrict_tightened applied.policy name
  unfold under
  dsimp only
  split
  · rename_i capped
    obtain ⟨rfl, -⟩ := capped
    exact (min_le_left _ _).trans tightened
  · exact tightened

theorem RiskLimits.under_canary (ceilings : RiskLimits) {applied : AppliedPolicy}
    (canary : applied.mode = .canary) : ceilings.under applied .maxOrderUsd ≤ canaryOrderUsd := by
  unfold under
  rw [if_pos ⟨rfl, canary⟩]
  exact min_le_right _ _

/-- Valid ceilings stay valid under a policy with valid requests. -/
theorem RiskLimits.valid_under {ceilings : RiskLimits} {applied : AppliedPolicy} {accountId : String}
    (valid : ∀ name : RiskField, ¬ name.Invalid (ceilings name))
    (accepted : ∀ given ∈ applied.policy, given.Accepted accountId) (name : RiskField) :
    ¬ name.Invalid (ceilings.under applied name) := by
  have tightened : ¬ name.Invalid (ceilings.tightened applied.policy name) := by
    unfold RiskLimits.tightened
    cases given : applied.policy with
    | none => exact valid name
    | some policy =>
        obtain ⟨requested, asked, fine⟩ := (accepted policy given).requested name
        rw [Option.bind_some, Option.mem_def.mp asked, Option.map_some, Option.getD_some]
        rcases name.tighter_choice (ceilings name) requested with same | same
        · rw [same]
          exact valid name
        · rw [same]
          exact fine
  unfold under
  dsimp only
  split
  · rename_i capped
    obtain ⟨rfl, -⟩ := capped
    rcases min_choice (ceilings.tightened applied.policy .maxOrderUsd) canaryOrderUsd with same | same
    · rw [same]
      exact tightened
    · rw [same]
      decide
  · exact tightened

/-- The cap of a canary as an assignment. -/
theorem RiskLimits.under_eq (ceilings : RiskLimits) (applied : AppliedPolicy) :
    ceilings.under applied = if applied.mode = .canary then
      Function.update (ceilings.tightened applied.policy) .maxOrderUsd
        (min (ceilings.tightened applied.policy .maxOrderUsd) canaryOrderUsd)
    else ceilings.tightened applied.policy := by
  funext name
  unfold under
  by_cases canary : applied.mode = .canary
  · by_cases here : name = .maxOrderUsd
    · subst here
      simp [canary]
    · simp [canary, here]
  · simp [canary]

theorem RiskPolicySnapshot.limit_ok_iff {policy : RiskPolicySnapshot} {name : RiskField}
    {requested : ℚ} : policy.limit name = .ok requested ↔
      policy.requested name = some requested ∧ ¬ name.Invalid requested := by
  unfold limit
  cases policy.requested name with
  | none => simp
  | some value =>
      by_cases invalid : name.Invalid value
      · simp only [if_pos invalid, Option.some.injEq, reduceCtorEq, false_iff, not_and, not_not]
        rintro rfl
        exact invalid
      · simp only [if_neg invalid, Except.ok.injEq, Option.some.injEq]
        exact ⟨fun same => ⟨same, same ▸ invalid⟩, And.left⟩

namespace PersonalConfiguration

theorem tightened_ok_iff (policy : RiskPolicySnapshot) (name : RiskField) (ceiling value : ℚ) :
    tightened policy name ceiling = .ok value ↔
      (∃ requested ∈ policy.requested name, ¬ name.Invalid requested) ∧
        value = ((policy.requested name).map (name.tighter ceiling)).getD ceiling := by
  unfold tightened
  rw [bind_ok_iff]
  constructor
  · rintro ⟨requested, checked, same⟩
    cases same
    obtain ⟨asked, valid⟩ := RiskPolicySnapshot.limit_ok_iff.mp checked
    exact ⟨⟨requested, asked, valid⟩, by rw [asked]; rfl⟩
  · rintro ⟨⟨requested, asked, valid⟩, rfl⟩
    refine ⟨requested, RiskPolicySnapshot.limit_ok_iff.mpr ⟨asked, valid⟩, ?_⟩
    rw [Option.mem_def.mp asked]
    rfl

/-- A policy is taken as a whole or not at all. -/
theorem tightenedValues_ok_iff {configuration : PersonalConfiguration} {settings : RuntimeSettings}
    {policy : Option RiskPolicySnapshot} {values : RiskLimits} :
    configuration.tightenedValues settings policy = .ok values ↔
      (∀ given ∈ policy, given.Accepted settings.accountId) ∧
        values = configuration.ceilings.tightened policy := by
  cases policy with
  | none =>
      rw [tightenedValues, Except.ok.injEq, eq_comm]
      exact ⟨fun same => ⟨nofun, same⟩, And.right⟩
  | some given =>
      rw [tightenedValues, require_bind_ok_iff,
        foldlM_update_ok_iff (tightened_ok_iff given) riskFields_nodup]
      simp only [RiskField.mem_riskFields, if_true, forall_true_left]
      constructor
      · rintro ⟨⟨account, active⟩, valid, same⟩
        exact ⟨fun _ here => Option.some.inj here ▸ ⟨account, active, valid⟩, same⟩
      · rintro ⟨accepted, same⟩
        obtain ⟨account, active, valid⟩ := accepted given rfl
        exact ⟨⟨account, active⟩, valid, same⟩

/-- What `policy_values` accepts, and what it returns. -/
theorem policyValues_ok_iff {configuration : PersonalConfiguration} {settings : RuntimeSettings}
    {policy : Option RiskPolicySnapshot} {mode : Option TradingMode} {values : RiskLimits} :
    configuration.policyValues settings policy mode = .ok values ↔
      (∀ given ∈ policy, given.Accepted settings.accountId) ∧
        values = configuration.ceilings.under ⟨policy, mode.getD settings.mode⟩ := by
  unfold policyValues
  rw [bind_ok_iff, RiskLimits.under_eq]
  constructor
  · rintro ⟨_, tightened, same⟩
    cases same
    obtain ⟨accepted, rfl⟩ := tightenedValues_ok_iff.mp tightened
    exact ⟨accepted, rfl⟩
  · rintro ⟨accepted, rfl⟩
    exact ⟨_, tightenedValues_ok_iff.mpr ⟨accepted, rfl⟩, rfl⟩

end PersonalConfiguration

/-! ### Runs -/

/-- The last accepted policy once the settings served a call. -/
def SettingsCall.applied (settings : RuntimeSettings) (last : Option AppliedPolicy) :
    SettingsCall → Option AppliedPolicy
  | .applyPolicy policy mode =>
      match (settings.applyPolicy policy mode).2 with
      | .ok () => some ⟨policy, mode.getD settings.mode⟩
      | .error _ => last
  | .configure => last
  | .setMode _ => last

/-- The last accepted policy of a list of calls. -/
def RuntimeSettings.lastApplied (settings : RuntimeSettings) (last : Option AppliedPolicy) :
    List SettingsCall → Option AppliedPolicy
  | [] => last
  | call :: rest => (settings.next call).1.lastApplied (call.applied settings last) rest

/-- What a deployment configures. -/
structure Deployment where
  accountId : String
  mode : TradingMode
  limits : RiskLimits

/-- The settings before their first use. -/
def Deployment.start (deployment : Deployment) : RuntimeSettings :=
  ⟨deployment.accountId, deployment.mode, deployment.limits, none⟩

/-- The limits of a deployment under the last accepted policy. -/
def Deployment.limitsUnder (deployment : Deployment) (last : Option AppliedPolicy) : RiskLimits :=
  (last.map deployment.limits.under).getD deployment.limits

/-- The ceilings and the last accepted policy say what the settings and their configuration
hold. -/
structure RuntimeSettings.Governed (deployment : Deployment) (last : Option AppliedPolicy)
    (settings : RuntimeSettings) : Prop where
  accountId : settings.accountId = deployment.accountId
  accepted : ∀ applied ∈ last, ∀ given ∈ applied.policy, given.Accepted deployment.accountId
  limits : settings.limits = deployment.limitsUnder last
  configuration : settings.personalConfiguration =
    { ceilings := deployment.limits
      policyId := last.bind fun applied => applied.policy.map (·.id)
      policyVersion := last.bind fun applied => applied.policy.map (·.version)
      policyLoaded := last.isSome
      effective := settings.limits }

namespace RuntimeSettings

variable {settings : RuntimeSettings} {deployment : Deployment} {last : Option AppliedPolicy}

@[simp] theorem personalConfiguration_configured :
    settings.configured.personalConfiguration = settings.personalConfiguration :=
  rfl

theorem Governed.start : Governed deployment none deployment.start :=
  ⟨rfl, nofun, rfl, rfl⟩

theorem Governed.configured (governed : Governed deployment last settings) :
    Governed deployment last settings.configured :=
  ⟨governed.accountId, governed.accepted, governed.limits, governed.configuration⟩

theorem Governed.setMode (governed : Governed deployment last settings) (mode : TradingMode) :
    Governed deployment last { settings with mode := mode } :=
  ⟨governed.accountId, governed.accepted, governed.limits, governed.configuration⟩

/-- What an accepted policy leaves. -/
theorem Governed.applied (governed : Governed deployment last settings)
    {policy : Option RiskPolicySnapshot} {mode : Option TradingMode}
    (accepted : (settings.applyPolicy policy mode).2 = .ok ()) :
    Governed deployment (some ⟨policy, mode.getD settings.mode⟩)
      (settings.applyPolicy policy mode).1 := by
  unfold applyPolicy at accepted ⊢
  cases computed : settings.personalConfiguration.policyValues settings policy mode with
  | error message =>
      rw [computed] at accepted
      cases accepted
  | ok values =>
      obtain ⟨valid, rfl⟩ := PersonalConfiguration.policyValues_ok_iff.mp computed
      rw [governed.configuration]
      refine ⟨governed.accountId, ?_, rfl, rfl⟩
      rintro _ ⟨⟩
      exact governed.accountId ▸ valid

/-- A rejected policy only leaves the configuration of the first use. -/
theorem applyPolicy_rejected {policy : Option RiskPolicySnapshot} {mode : Option TradingMode}
    {message : String} (rejected : (settings.applyPolicy policy mode).2 = .error message) :
    (settings.applyPolicy policy mode).1 = settings.configured := by
  unfold applyPolicy at rejected ⊢
  cases computed : settings.personalConfiguration.policyValues settings policy mode with
  | error message => rfl
  | ok values =>
      rw [computed] at rejected
      cases rejected

theorem next_governed (governed : Governed deployment last settings) (call : SettingsCall) :
    Governed deployment (call.applied settings last) (settings.next call).1 := by
  cases call with
  | configure => exact governed.configured
  | setMode mode => exact governed.setMode mode
  | applyPolicy policy mode =>
      unfold SettingsCall.applied next
      dsimp only
      cases answer : (settings.applyPolicy policy mode).2 with
      | ok done => exact governed.applied answer
      | error message =>
          rw [applyPolicy_rejected answer]
          exact governed.configured

theorem after_governed (governed : Governed deployment last settings) (calls : List SettingsCall) :
    Governed deployment (settings.lastApplied last calls) (settings.after calls) := by
  induction calls generalizing settings last with
  | nil => exact governed
  | cons call rest ih => exact ih (next_governed governed call)

theorem Governed.asStrict (governed : Governed deployment last settings) (name : RiskField) :
    name.AsStrict (deployment.limits name) (settings.limits name) := by
  rw [governed.limits]
  cases last with
  | none => exact name.asStrict_refl _
  | some applied => exact deployment.limits.asStrict_under applied name

theorem Governed.canary (governed : Governed deployment last settings) {applied : AppliedPolicy}
    (accepted : applied ∈ last) (canary : applied.mode = .canary) :
    settings.limits .maxOrderUsd ≤ canaryOrderUsd := by
  obtain rfl := Option.mem_def.mp accepted
  rw [governed.limits]
  exact deployment.limits.under_canary canary

/-- The limits are assigned without validation, and stay valid. -/
theorem Governed.valid (governed : Governed deployment last settings)
    (valid : ∀ name : RiskField, ¬ name.Invalid (deployment.limits name)) (name : RiskField) :
    ¬ name.Invalid (settings.limits name) := by
  rw [governed.limits]
  cases last with
  | none => exact valid name
  | some applied => exact RiskLimits.valid_under valid (governed.accepted applied rfl) name

end RuntimeSettings

/-- What the ceilings of a deployment guarantee once its settings served a list of calls. -/
structure Deployment.CeilingsHold (deployment : Deployment) (last : Option AppliedPolicy)
    (settings : RuntimeSettings) : Prop where
  asStrict : ∀ name : RiskField, name.AsStrict (deployment.limits name) (settings.limits name)
  canary : ∀ applied ∈ last, applied.mode = .canary → settings.limits .maxOrderUsd ≤ 5
  governed : settings.Governed deployment last
  valid : (∀ name : RiskField, ¬ name.Invalid (deployment.limits name)) →
    ∀ name : RiskField, ¬ name.Invalid (settings.limits name)
  rejected : ∀ policy mode message, (settings.applyPolicy policy mode).2 = .error message →
    (settings.applyPolicy policy mode).1 = settings.configured ∧
      settings.configured.limits = settings.limits ∧
      settings.configured.personalConfiguration = settings.personalConfiguration

/-- However policies come and go, the ceilings hold. -/
theorem deployment_ceilings_hold (deployment : Deployment) (calls : List SettingsCall) :
    deployment.CeilingsHold (deployment.start.lastApplied none calls)
      (deployment.start.after calls) := by
  have governed := RuntimeSettings.after_governed (@RuntimeSettings.Governed.start deployment) calls
  exact ⟨governed.asStrict, fun _ => governed.canary, governed, governed.valid,
    fun _ _ _ rejected => ⟨RuntimeSettings.applyPolicy_rejected rejected, rfl, rfl⟩⟩

end Polybot
