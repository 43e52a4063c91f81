import Polybot.Control.PersonalConfiguration
import Polybot.Control.Runtime
import Polybot.Interaction.Log

/-!
The trading mode of a personal worker (`align_effective_mode`, `resolve_effective_mode` and
the dispatch of `ModeAwareBroker`).

The dashboard asks for a mode, and the worker adopts it between two cycles. The log of what
the worker does tells the orders apart by the mode and the policy they were sent under:
`modes_are_adopted` says that each of them follows an adoption of both, that real orders
need a deployment that is allowed to send them, and that no other mode or policy is adopted
after a real order before the worker has cleaned up.
-/

namespace Polybot

open Interaction

def liveDisabledNote : String :=
  "本部署未开启实盘能力（POLYBOT_PERSONAL_LIVE_ENABLED=false），desired_mode 已被降级为 paper。"

def liveWithoutSignerNote : String :=
  "本部署没有配置签名私钥，无法进入 canary/live，desired_mode 已被降级为 paper。"

structure ModeDecision where
  desired : TradingMode
  effective : TradingMode
  note : Option String

def resolveEffectiveMode (desired : TradingMode) (liveEnabled signerConfigured : Bool) :
    ModeDecision :=
  if ¬ desired.RealMoney then ⟨desired, desired, none⟩
  else if liveEnabled = false then ⟨desired, .paper, some liveDisabledNote⟩
  else if signerConfigured = false then ⟨desired, .paper, some liveWithoutSignerNote⟩
  else ⟨desired, desired, none⟩

/-- The brokers of a runtime. -/
inductive ModeBackend where
  | paper
  | shadow
  | live
  deriving DecidableEq

/-- A personal deployment as its settings were validated and its runtime built: a real mode
needs the capability and the key. -/
structure PersonalDeployment where
  settings : RuntimeSettings
  liveEnabled : Bool
  /-- a private key is configured, so that a capable deployment has a live broker -/
  signer : Bool
  capable : settings.mode.RealMoney → liveEnabled = true ∧ signer = true

/-- The broker that a mode is routed to: that of `ModeAwareBroker` where the deployment keeps
every mode ready, else the simulator it was started with. -/
def PersonalDeployment.backend (deployment : PersonalDeployment) (mode : TradingMode) :
    ModeBackend :=
  if deployment.liveEnabled = true ∧ deployment.signer = true then
    if mode = .shadow then .shadow
    else if mode.RealMoney then .live
    else .paper
  else if deployment.settings.mode = .shadow then .shadow
  else .paper

/-! ### The worker -/

/-- What the worker does, in the order it does it. -/
inductive ModeEffect where
  /-- `_clear_personal_live_downgrade`, under the settings of a mode -/
  | cleanup (mode : TradingMode) (confirmed : Bool)
  /-- `cancel_all_or_alert` -/
  | cancelAll (reason : String) (confirmed : Bool)
  | adopted (mode : TradingMode) (policyId : Option String)
  /-- the configuration could not be read or applied -/
  | unavailable
  | sent (backend : ModeBackend) (mode : TradingMode) (policyId : Option String)

structure ModeWorker where
  settings : RuntimeSettings
  configurationOk : Bool
  runtimeControlReady : Bool
  confirmedMode : Option TradingMode
  effects : List ModeEffect

/-- What an alignment is told. -/
structure Alignment where
  /-- the desired mode of the profile and the policy; none where `get_configuration` raises -/
  configuration : Option (Option TradingMode × Option RiskPolicySnapshot)
  /-- whether the lease is held and the cleanup is confirmed -/
  cleared : Bool
  /-- the answer to `cancel_all_or_alert` -/
  cancelled : Bool

namespace ModeWorker

variable (worker : ModeWorker)

def emit (effect : ModeEffect) : ModeWorker :=
  { worker with effects := worker.effects ++ [effect] }

/-- The handler of an alignment that fails. -/
def unavailable (alignment : Alignment) : ModeWorker :=
  let closed := { worker with configurationOk := false }.emit .unavailable
  if worker.settings.mode.RealMoney then
    closed.emit (.cancelAll "personal configuration unavailable" alignment.cancelled)
  else closed

def policyId : Option String :=
  worker.settings.personalConfiguration.policyId

/-- Whether another policy was applied before. -/
def policyChanged (policy : Option RiskPolicySnapshot) : Prop :=
  worker.settings.personalConfiguration.policyLoaded = true ∧
    worker.policyId ≠ policy.map RiskPolicySnapshot.id

instance (policy : Option RiskPolicySnapshot) : Decidable (worker.policyChanged policy) :=
  inferInstanceAs (Decidable (_ ∧ _))

/-- The gates closed for a change. -/
def closed : ModeWorker :=
  { worker with configurationOk := false, runtimeControlReady := false, confirmedMode := none }

/-- Mode and limits published. -/
def publish (target : TradingMode) (policy : Option RiskPolicySnapshot) : ModeWorker :=
  let settings := (worker.settings.applyPolicy policy (some target)).1
  { worker with settings := { settings with mode := target }, configurationOk := true }.emit
    (.adopted target (policy.map RiskPolicySnapshot.id))

/-- An alignment under the lock, once the policy was validated. -/
def change (target : TradingMode) (policy : Option RiskPolicySnapshot) (alignment : Alignment) :
    ModeWorker :=
  if target ≠ worker.settings.mode then
    if worker.settings.mode.RealMoney then
      let tidied := worker.closed.emit
        (.cleanup (if target.RealMoney then .paper else target) alignment.cleared)
      if alignment.cleared = true then tidied.publish target policy
      else tidied.unavailable alignment
    else worker.closed.publish target policy
  else if worker.policyChanged policy then
    if worker.settings.mode.RealMoney then
      let tidied := worker.closed.emit (.cancelAll "risk policy changed" alignment.cancelled)
      if alignment.cancelled = true then tidied.publish target policy
      else tidied.unavailable alignment
    else worker.closed.publish target policy
  else worker.publish target policy

/-- `align_effective_mode`. -/
def align (deployment : PersonalDeployment) (alignment : Alignment) : ModeWorker :=
  match alignment.configuration with
  | none => worker.unavailable alignment
  | some (profile, policy) =>
      let target := (resolveEffectiveMode (profile.getD worker.settings.mode)
        deployment.liveEnabled deployment.signer).effective
      match worker.settings.personalConfiguration.policyValues worker.settings policy
          (some target) with
      | .error _ => worker.unavailable alignment
      | .ok _ => worker.change target policy alignment

end ModeWorker

/-- What happens to a worker. -/
inductive ModeEvent where
  | align (alignment : Alignment)
  /-- a tick of `watch_runtime_control` -/
  | watch (ready leaseOk : Bool)
  /-- an order of a cycle; `granted` is what its guards ask for besides the two gates -/
  | submit (granted : Bool)

namespace ModeWorker

variable (deployment : PersonalDeployment)

def serve (worker : ModeWorker) : ModeEvent → ModeWorker
  | .align alignment => worker.align deployment alignment
  | .watch ready leaseOk =>
      let watched := { worker with runtimeControlReady := ready }
      if worker.configurationOk = true ∧ ready = true ∧ leaseOk = true then
        { watched with confirmedMode := some worker.settings.mode }
      else watched
  | .submit granted =>
      if worker.configurationOk = true ∧ worker.runtimeControlReady = true ∧ granted = true then
        worker.emit (.sent (deployment.backend worker.settings.mode) worker.settings.mode
          worker.policyId)
      else worker

/-- The worker before its first alignment. -/
def start : ModeWorker where
  settings := deployment.settings.configured
  configurationOk := false
  runtimeControlReady := false
  confirmedMode := none
  effects := []

/-- The worker after a list of events. -/
def after (events : List ModeEvent) : ModeWorker :=
  events.foldl (serve deployment) (start deployment)

end ModeWorker

/-! ### What the log says -/

/-- The mode and the policy adopted last, if nothing failed since. -/
def adoption : List ModeEffect → Option (TradingMode × Option String) :=
  List.foldl (fun last effect =>
    match effect with
    | .adopted mode policyId => some (mode, policyId)
    | .unavailable => none
    | _ => last) none

/-- Whether the worker cleaned up, or cancelled everything. -/
def CleanedUp (effects : List ModeEffect) : Prop :=
  ∃ mode, ModeEffect.cleanup mode true ∈ effects

def CancelledAll (effects : List ModeEffect) : Prop :=
  ∃ reason, ModeEffect.cancelAll reason true ∈ effects

/-- An order is sent under what was adopted last. -/
def SentAsAdopted (front : List ModeEffect) (effect : ModeEffect) : Prop :=
  ∀ backend mode policyId, effect = .sent backend mode policyId →
    adoption front = some (mode, policyId)

/-- Between a real order and the adoption of another mode there is a cleanup, and between a
real order and the adoption of another policy a cleanup or a cancellation. -/
def TidiedBetween (effect : ModeEffect) (between : List ModeEffect) (later : ModeEffect) : Prop :=
  ∀ mode policyId mode' policyId', effect = .sent .live mode policyId →
    later = .adopted mode' policyId' →
      (mode' ≠ mode → CleanedUp between) ∧
        (policyId' ≠ policyId → CleanedUp between ∨ CancelledAll between)

/-- What a log says of the orders in it. -/
structure ModesAdopted (deployment : PersonalDeployment) (effects : List ModeEffect) : Prop where
  capable : ∀ backend mode policyId, .sent backend mode policyId ∈ effects →
    (backend = .live ↔ mode.RealMoney) ∧
      (mode.RealMoney → deployment.liveEnabled = true ∧ deployment.signer = true)
  adopted : Log.Before SentAsAdopted effects
  tidied : Log.Between TidiedBetween effects

/-- What follows a real order before a mode and a policy can be adopted. -/
def TidyFor (mode : TradingMode) (policyId : Option String) (effect : ModeEffect)
    (back : List ModeEffect) : Prop :=
  ∀ mode' policyId', effect = .sent .live mode' policyId' →
    CleanedUp back ∨ mode' = mode ∧ (policyId' = policyId ∨ CancelledAll back)

section Logs

variable {effects back : List ModeEffect} {effect other : ModeEffect} {mode : TradingMode}
  {policyId : Option String} {deployment : PersonalDeployment}

theorem adoption_snoc (effects : List ModeEffect) (effect : ModeEffect) :
    adoption (effects ++ [effect]) =
      match effect with
      | .adopted mode policyId => some (mode, policyId)
      | .unavailable => none
      | _ => adoption effects := by
  unfold adoption
  rw [List.foldl_append]
  rfl

theorem CleanedUp.mono (cleaned : CleanedUp back) : CleanedUp (back ++ [other]) :=
  cleaned.imp fun _ member => List.mem_append_left _ member

theorem CancelledAll.mono (cancelled : CancelledAll back) : CancelledAll (back ++ [other]) :=
  cancelled.imp fun _ member => List.mem_append_left _ member

theorem TidyFor.mono (tidy : TidyFor mode policyId effect back) (other : ModeEffect) :
    TidyFor mode policyId effect (back ++ [other]) := fun _ _ sent =>
  (tidy _ _ sent).imp CleanedUp.mono (And.imp_right (Or.imp_right CancelledAll.mono))

/-- What is no order leaves the log tidy. -/
theorem tidy_snoc (tidy : Log.Since (TidyFor mode policyId) effects)
    (silent : ∀ backend mode' policyId', effect ≠ .sent backend mode' policyId') :
    Log.Since (TidyFor mode policyId) (effects ++ [effect]) :=
  Log.since_snoc.mpr
    ⟨tidy.imp fun _ _ kept => kept.mono _, fun _ _ sent => (silent _ _ _ sent).elim⟩

theorem tidy_sent (tidy : Log.Since (TidyFor mode policyId) effects) (backend : ModeBackend) :
    Log.Since (TidyFor mode policyId) (effects ++ [.sent backend mode policyId]) := by
  refine Log.since_snoc.mpr ⟨tidy.imp fun _ _ kept => kept.mono _, ?_⟩
  intro mode' policyId' same
  cases same
  exact .inr ⟨rfl, .inl rfl⟩

/-- After a cleanup anything can be adopted. -/
theorem tidy_cleanup (effects : List ModeEffect) (cleaned mode : TradingMode)
    (policyId : Option String) :
    Log.Since (TidyFor mode policyId) (effects ++ [.cleanup cleaned true]) := by
  refine Log.since_snoc.mpr ⟨fun _ _ _ _ _ _ _ => .inl ⟨cleaned, ?_⟩, ?_⟩
  · exact List.mem_append_right _ (List.mem_singleton_self _)
  · intro _ _ same
    cases same

/-- After a cancellation any policy can be adopted. -/
theorem tidy_cancelAll (tidy : Log.Since (TidyFor mode policyId) effects) (reason : String)
    (policyId' : Option String) :
    Log.Since (TidyFor mode policyId') (effects ++ [.cancelAll reason true]) := by
  refine Log.since_snoc.mpr ⟨tidy.imp fun _ _ kept mode' given sent => ?_, ?_⟩
  · refine (kept mode' given sent).imp CleanedUp.mono fun ⟨real, _⟩ => ⟨real, .inr ⟨reason, ?_⟩⟩
    exact List.mem_append_right _ (List.mem_singleton_self _)
  · intro _ _ same
    cases same

/-- Where no order was real under a mode, another one can be adopted. -/
theorem tidy_of_simulated (tidy : Log.Since (TidyFor mode policyId) effects)
    (sound : ModesAdopted deployment effects) (simulated : ¬ mode.RealMoney)
    (mode' : TradingMode) (policyId' : Option String) :
    Log.Since (TidyFor mode' policyId') effects := by
  intro front effect back same real given sent
  obtain cleaned | ⟨rfl, -⟩ := tidy front effect back same real given sent
  · exact .inl cleaned
  · refine (simulated ((sound.capable .live real given ?_).1.mp rfl)).elim
    rw [same, sent]
    exact List.mem_append_right _ List.mem_cons_self

theorem ModesAdopted.start (deployment : PersonalDeployment) : ModesAdopted deployment [] :=
  ⟨fun _ _ _ member => (List.not_mem_nil member).elim, Log.before_nil, Log.between_nil⟩

/-- What is no order keeps the log sound, and an adoption does where the log is tidy for it. -/
theorem ModesAdopted.snoc (sound : ModesAdopted deployment effects)
    (silent : ∀ backend mode' policyId', effect ≠ .sent backend mode' policyId')
    (kept : ∀ mode' policyId', effect = .adopted mode' policyId' →
      Log.Since (TidyFor mode' policyId') effects) :
    ModesAdopted deployment (effects ++ [effect]) where
  capable := by
    intro backend mode policyId member
    obtain old | new := List.mem_append.mp member
    · exact sound.capable _ _ _ old
    · exact (silent _ _ _ (List.mem_singleton.mp new).symm).elim
  adopted := Log.before_snoc.mpr ⟨sound.adopted, fun _ _ _ sent => (silent _ _ _ sent).elim⟩
  tidied := by
    refine Log.between_snoc.mpr ⟨sound.tidied, ?_⟩
    intro front entry back same mode policyId mode' policyId' sent adopts
    obtain cleaned | ⟨rfl, unchanged⟩ := kept _ _ adopts front entry back same _ _ sent
    · exact ⟨fun _ => cleaned, fun _ => .inl cleaned⟩
    · exact ⟨fun other => (other rfl).elim, fun other =>
        .inr (unchanged.resolve_left fun equal => other equal.symm)⟩

/-- An order under the adopted mode and policy keeps the log sound. -/
theorem ModesAdopted.sent (sound : ModesAdopted deployment effects) {backend : ModeBackend}
    (current : adoption effects = some (mode, policyId))
    (routed : backend = .live ↔ mode.RealMoney)
    (capable : mode.RealMoney → deployment.liveEnabled = true ∧ deployment.signer = true) :
    ModesAdopted deployment (effects ++ [.sent backend mode policyId]) where
  capable := by
    intro backend' mode' policyId' member
    obtain old | new := List.mem_append.mp member
    · exact sound.capable _ _ _ old
    · cases List.mem_singleton.mp new
      exact ⟨routed, capable⟩
  adopted := by
    refine Log.before_snoc.mpr ⟨sound.adopted, ?_⟩
    intro backend' mode' policyId' same
    cases same
    exact current
  tidied := by
    refine Log.between_snoc.mpr ⟨sound.tidied, ?_⟩
    intro _ _ _ _ _ _ _ _ _ same
    cases same

end Logs

/-! ### What the worker keeps -/

theorem effective_capable {desired : TradingMode} {liveEnabled signerConfigured : Bool}
    (real : (resolveEffectiveMode desired liveEnabled signerConfigured).effective.RealMoney) :
    liveEnabled = true ∧ signerConfigured = true := by
  unfold resolveEffectiveMode at real
  split at real
  · contradiction
  · split at real
    · simp [TradingMode.RealMoney] at real
    · split at real
      · simp [TradingMode.RealMoney] at real
      · rename_i enabled signer
        exact ⟨by simpa using enabled, by simpa using signer⟩

theorem PersonalDeployment.backend_live_iff (deployment : PersonalDeployment) {mode : TradingMode}
    (capable : mode.RealMoney → deployment.liveEnabled = true ∧ deployment.signer = true) :
    deployment.backend mode = .live ↔ mode.RealMoney := by
  unfold backend
  split
  · cases mode <;> simp [TradingMode.RealMoney]
  · rename_i barred
    have simulated : ¬ mode.RealMoney := fun real => barred (capable real)
    split <;> simp [simulated]

namespace ModeWorker

structure Kept (deployment : PersonalDeployment) (worker : ModeWorker) : Prop where
  sound : ModesAdopted deployment worker.effects
  capable : worker.settings.mode.RealMoney →
    deployment.liveEnabled = true ∧ deployment.signer = true
  current : worker.configurationOk = true →
    adoption worker.effects = some (worker.settings.mode, worker.policyId) ∧
      worker.settings.personalConfiguration.policyLoaded = true
  tidy : Log.Since (TidyFor worker.settings.mode worker.policyId) worker.effects
  loaded : worker.settings.personalConfiguration.policyLoaded = false → ∀ backend mode policyId,
    .sent backend mode policyId ∉ worker.effects

variable {deployment : PersonalDeployment} {worker : ModeWorker} {effect : ModeEffect}
  {target : TradingMode} {policy : Option RiskPolicySnapshot} {alignment : Alignment}

theorem Kept.start (deployment : PersonalDeployment) : Kept deployment (start deployment) :=
  ⟨.start _, deployment.capable, fun shut => (Bool.false_ne_true shut).elim, Log.since_nil,
    fun _ _ _ _ => List.not_mem_nil⟩

/-- A shut worker may log what is neither an order nor an adoption. -/
theorem Kept.emit (kept : Kept deployment worker) (shut : worker.configurationOk = false)
    (silent : ∀ backend mode' policyId', effect ≠ .sent backend mode' policyId')
    (adopts : ∀ mode' policyId', effect ≠ .adopted mode' policyId') :
    Kept deployment (worker.emit effect) where
  sound := kept.sound.snoc silent fun _ _ same => (adopts _ _ same).elim
  capable := kept.capable
  current := fun opened => by
    change worker.configurationOk = true at opened
    rw [shut] at opened
    cases opened
  tidy := tidy_snoc kept.tidy silent
  loaded := fun unloaded backend mode policyId member => by
    obtain old | new := List.mem_append.mp member
    · exact kept.loaded unloaded _ _ _ old
    · exact silent _ _ _ (List.mem_singleton.mp new).symm

theorem Kept.closed (kept : Kept deployment worker) : Kept deployment worker.closed :=
  ⟨kept.sound, kept.capable, fun shut => (Bool.false_ne_true shut).elim, kept.tidy, kept.loaded⟩

theorem Kept.unavailable (kept : Kept deployment worker) :
    Kept deployment (worker.unavailable alignment) := by
  have shut : Kept deployment ({ worker with configurationOk := false }.emit .unavailable) :=
    Kept.emit ⟨kept.sound, kept.capable, fun shut => (Bool.false_ne_true shut).elim, kept.tidy,
      kept.loaded⟩ rfl (fun _ _ _ same => by cases same) (fun _ _ same => by cases same)
  unfold ModeWorker.unavailable
  dsimp only
  split
  · exact shut.emit rfl (fun _ _ _ same => by cases same) (fun _ _ same => by cases same)
  · exact shut

theorem publish_configuration {values : RiskLimits}
    (valid : worker.settings.personalConfiguration.policyValues worker.settings policy
      (some target) = .ok values) :
    (worker.publish target policy).settings.personalConfiguration =
      { worker.settings.personalConfiguration with
        effective := values
        policyId := policy.map RiskPolicySnapshot.id
        policyVersion := policy.map RiskPolicySnapshot.version
        policyLoaded := true } := by
  have held : (worker.publish target policy).settings.runtimeConfiguration =
      some { worker.settings.personalConfiguration with
        effective := values
        policyId := policy.map RiskPolicySnapshot.id
        policyVersion := policy.map RiskPolicySnapshot.version
        policyLoaded := true } := by
    change (worker.settings.applyPolicy policy (some target)).1.runtimeConfiguration = _
    unfold RuntimeSettings.applyPolicy
    rw [valid]
  rw [RuntimeSettings.personalConfiguration, held, Option.getD_some]

/-- Mode and policy can be published where the log is tidy for them. -/
theorem Kept.publish {values : RiskLimits} (kept : Kept deployment worker)
    (valid : worker.settings.personalConfiguration.policyValues worker.settings policy
      (some target) = .ok values)
    (capable : target.RealMoney → deployment.liveEnabled = true ∧ deployment.signer = true)
    (tidy : Log.Since (TidyFor target (policy.map RiskPolicySnapshot.id)) worker.effects) :
    Kept deployment (worker.publish target policy) := by
  have policyId : (worker.publish target policy).policyId = policy.map RiskPolicySnapshot.id := by
    rw [ModeWorker.policyId, publish_configuration valid]
  have loaded :
      (worker.publish target policy).settings.personalConfiguration.policyLoaded = true := by
    rw [publish_configuration valid]
  refine ⟨?_, capable, fun _ => ⟨?_, loaded⟩, ?_, fun unloaded => ?_⟩
  · exact kept.sound.snoc (fun _ _ _ same => by cases same) fun _ _ same => by
      cases same
      exact tidy
  · rw [policyId]
    exact adoption_snoc _ _
  · rw [policyId]
    exact tidy_snoc tidy fun _ _ _ same => by cases same
  · rw [loaded] at unloaded
    cases unloaded

/-- The log is tidy for the same mode and a policy that is no change. -/
theorem Kept.tidy_unchanged (kept : Kept deployment worker)
    (unchanged : ¬ worker.policyChanged policy) :
    Log.Since (TidyFor worker.settings.mode (policy.map RiskPolicySnapshot.id))
      worker.effects := by
  cases loaded : worker.settings.personalConfiguration.policyLoaded with
  | false =>
      intro front effect back same mode policyId sent
      refine (kept.loaded loaded .live mode policyId ?_).elim
      rw [same, sent]
      exact List.mem_append_right _ List.mem_cons_self
  | true =>
      have same : worker.policyId = policy.map RiskPolicySnapshot.id :=
        not_not.mp fun other => unchanged ⟨loaded, other⟩
      rw [← same]
      exact kept.tidy

theorem Kept.change {values : RiskLimits} (kept : Kept deployment worker)
    (valid : worker.settings.personalConfiguration.policyValues worker.settings policy
      (some target) = .ok values)
    (capable : target.RealMoney → deployment.liveEnabled = true ∧ deployment.signer = true) :
    Kept deployment (worker.change target policy alignment) := by
  unfold ModeWorker.change
  split
  · split
    · have tidied : Kept deployment (worker.closed.emit
          (.cleanup (if target.RealMoney then .paper else target) alignment.cleared)) :=
        kept.closed.emit rfl (fun _ _ _ same => by cases same) (fun _ _ same => by cases same)
      dsimp only
      split
      · rename_i cleared
        rw [cleared] at tidied ⊢
        exact tidied.publish valid capable (tidy_cleanup _ _ _ _)
      · exact tidied.unavailable
    · rename_i simulated
      exact kept.closed.publish valid capable (tidy_of_simulated kept.tidy kept.sound simulated _ _)
  · rename_i same
    obtain rfl := not_not.mp same
    split
    · split
      · have tidied : Kept deployment (worker.closed.emit
            (.cancelAll "risk policy changed" alignment.cancelled)) :=
          kept.closed.emit rfl (fun _ _ _ same => by cases same) (fun _ _ same => by cases same)
        dsimp only
        split
        · rename_i cancelled
          rw [cancelled] at tidied ⊢
          exact tidied.publish valid capable (tidy_cancelAll kept.tidy _ _)
        · exact tidied.unavailable
      · rename_i simulated
        exact kept.closed.publish valid capable
          (tidy_of_simulated kept.tidy kept.sound simulated _ _)
    · rename_i unchanged
      exact kept.publish valid capable (kept.tidy_unchanged unchanged)

theorem Kept.align (kept : Kept deployment worker) (alignment : Alignment) :
    Kept deployment (worker.align deployment alignment) := by
  unfold ModeWorker.align
  split
  · exact kept.unavailable
  · dsimp only
    split
    · exact kept.unavailable
    · rename_i valid
      exact kept.change valid effective_capable

theorem Kept.serve (kept : Kept deployment worker) (event : ModeEvent) :
    Kept deployment (worker.serve deployment event) := by
  cases event with
  | align alignment => exact kept.align alignment
  | watch ready leaseOk =>
      unfold ModeWorker.serve
      dsimp only
      split
      · exact ⟨kept.sound, kept.capable, kept.current, kept.tidy, kept.loaded⟩
      · exact ⟨kept.sound, kept.capable, kept.current, kept.tidy, kept.loaded⟩
  | submit granted =>
      unfold ModeWorker.serve
      dsimp only
      split
      · rename_i gates
        obtain ⟨current, loaded⟩ := kept.current gates.1
        refine ⟨kept.sound.sent current (deployment.backend_live_iff kept.capable) kept.capable,
          kept.capable, fun _ => ⟨?_, loaded⟩, tidy_sent kept.tidy _, fun unloaded => ?_⟩
        · exact (adoption_snoc _ _).trans current
        · change worker.settings.personalConfiguration.policyLoaded = false at unloaded
          rw [loaded] at unloaded
          cases unloaded
      · exact kept

theorem after_kept (deployment : PersonalDeployment) (events : List ModeEvent) :
    Kept deployment (after deployment events) := by
  induction events using List.reverseRecOn with
  | nil => exact .start deployment
  | append_singleton events event ih =>
      unfold after at ih ⊢
      rw [List.foldl_append]
      exact ih.serve event

end ModeWorker

/-- However a worker is aligned, watched and used, each order follows an adoption of its mode
and its policy, and a real one is cleaned up after before another mode or policy is adopted. -/
theorem modes_are_adopted (deployment : PersonalDeployment) (events : List ModeEvent) :
    ModesAdopted deployment (ModeWorker.after deployment events).effects :=
  (ModeWorker.after_kept deployment events).sound

end Polybot
