import Polybot.Control.Lease
import Polybot.Reconcile.Payloads

/-!
The runtime control and the personal runtime (`0001_initial.sql`,
`0005_runtime_control_expiry.sql`, `0016_personal_runtime.sql`).

The rows of one account, each with the CHECK constraints of its table as fields, and
the functions that arm, expire, disarm, pause, resume and acknowledge the control,
bind the wallet, record its readiness and move a signed order to `submitting`. Every
function is one transaction at the instant `now`: it returns whether it reported a
row (or `true`) with the state after it, or raises.
-/

namespace Polybot

open Checked

/-! ### Rows -/

/-- `mode in ('canary', 'live')`. -/
def TradingMode.RealMoney (mode : TradingMode) : Prop :=
  mode = canary ∨ mode = live

instance (mode : TradingMode) : Decidable mode.RealMoney :=
  inferInstanceAs (Decidable (_ ∨ _))

/-- A row of `runtime_controls`. -/
@[ext]
structure RuntimeControl where
  mode : TradingMode
  killSwitch : Bool
  acceptNewIntents : Bool
  armed : Bool
  armedUntil : Option Instant
  cancellationPending : Bool
  version : Int
  armed_state : armed = false ∧ acceptNewIntents = false ∧ armedUntil = none ∨
    armed = true ∧ acceptNewIntents = true ∧ mode.RealMoney ∧ killSwitch = false ∧
      cancellationPending = false ∧ armedUntil ≠ none
  version_pos : 0 < version

instance : DecidableEq RuntimeControl := fun _ _ =>
  decidable_of_iff _ RuntimeControl.ext_iff.symm

namespace RuntimeControl

/-- The row that `insert into runtime_controls (account_id)` makes. -/
def fresh : RuntimeControl :=
  ⟨.paper, true, false, false, none, false, 1, by decide, Int.one_pos⟩

variable (control : RuntimeControl)

/-- The control with its kill switch on, at the next version. -/
def stopped (mode : TradingMode) (cancellationPending : Bool) : RuntimeControl :=
  ⟨mode, true, false, false, none, cancellationPending, control.version + 1,
    .inl ⟨rfl, rfl, rfl⟩, Int.lt_add_one_of_le control.version_pos.le⟩

/-- The control armed until an instant, at the next version. -/
def armedAs (mode : TradingMode) (armedUntil : Instant) (real : mode.RealMoney)
    (latched : control.cancellationPending = false) : RuntimeControl :=
  ⟨mode, false, true, true, some armedUntil, control.cancellationPending, control.version + 1,
    .inr ⟨rfl, rfl, real, rfl, latched, Option.some_ne_none _⟩,
    Int.lt_add_one_of_le control.version_pos.le⟩

/-- The control without its cancellation latch, at the next version. -/
def acknowledged (stopped : control.armed = false) : RuntimeControl :=
  { control with
    cancellationPending := false
    version := control.version + 1
    armed_state := by
      rcases control.armed_state with off | on
      · exact .inl off
      · rw [on.1] at stopped
        cases stopped
    version_pos := Int.lt_add_one_of_le control.version_pos.le }

/-- The control is fully stopped. -/
def Stopped : Prop :=
  control.armed = false ∧ control.killSwitch = true ∧ control.acceptNewIntents = false ∧
    control.armedUntil = none

instance : Decidable control.Stopped :=
  inferInstanceAs (Decidable (_ ∧ _ ∧ _ ∧ _))

/-- The arm has not expired. -/
def Unexpired (now : Instant) : Prop :=
  ∃ armedUntil ∈ control.armedUntil, now < armedUntil

instance (now : Instant) : Decidable (control.Unexpired now) :=
  inferInstanceAs (Decidable (∃ armedUntil ∈ control.armedUntil, _))

/-- The `where` clause of arming. -/
def Armable (mode : TradingMode) (expectedVersion : Int) (now : Instant) : Prop :=
  control.version = expectedVersion ∧ control.cancellationPending = false ∧
    (control.Stopped ∨ control.armed = true ∧ control.mode = mode ∧ control.killSwitch = false ∧
      control.acceptNewIntents = true ∧ control.Unexpired now)

instance (mode : TradingMode) (expectedVersion : Int) (now : Instant) :
    Decidable (control.Armable mode expectedVersion now) :=
  inferInstanceAs (Decidable (_ ∧ _ ∧ (_ ∨ _ ∧ _ ∧ _ ∧ _ ∧ _)))

/-- An armed control waits for no cancellation. -/
theorem unlatched_of_armed (armed : control.armed = true) : control.cancellationPending = false := by
  rcases control.armed_state with ⟨off, -⟩ | ⟨-, -, -, -, latched, -⟩
  · rw [off] at armed
    cases armed
  · exact latched

/-- The control, or its account, may still be trading. -/
def Active : Prop :=
  control.armed = true ∨ control.acceptNewIntents = true ∨ control.killSwitch = false ∨
    control.cancellationPending = true

instance : Decidable control.Active :=
  inferInstanceAs (Decidable (_ ∨ _ ∨ _ ∨ _))

end RuntimeControl

/-- `^0x[0-9a-f]{40}$`. -/
def isAddress (text : String) : Bool :=
  match text.toList with
  | '0' :: 'x' :: digits =>
      digits.length = 40 &&
        digits.all fun c => ('0' ≤ c && c ≤ '9') || ('a' ≤ c && c ≤ 'f')
  | _ => false

/-- The public identity of a wallet. -/
structure WalletIdentity where
  signerAddress : String
  depositWalletAddress : String
  chainId : Int
  collateralToken : String
  deriving DecidableEq

/-- The CHECK constraints on the identity of a binding. -/
def WalletIdentity.Shape (identity : WalletIdentity) : Prop :=
  isAddress identity.signerAddress = true ∧ isAddress identity.depositWalletAddress = true ∧
    isAddress identity.collateralToken = true ∧ 0 < identity.chainId

instance (identity : WalletIdentity) : Decidable identity.Shape :=
  inferInstanceAs (Decidable (_ ∧ _ ∧ _ ∧ _))

/-- An identity as `bind_personal_runtime_wallet` stores it. -/
def WalletIdentity.normalized (identity : WalletIdentity) : WalletIdentity :=
  ⟨Text.lower (Text.btrim identity.signerAddress),
    Text.lower (Text.btrim identity.depositWalletAddress), identity.chainId,
    Text.lower (Text.btrim identity.collateralToken)⟩

/-- The readiness columns of a binding, which are null together. -/
@[ext]
structure WalletReadiness where
  ownerId : String
  fencingToken : Int
  balancePusd : ℚ
  allowancesReady : Bool
  checkedAt : Instant
  owner_nonempty : 8 ≤ (Text.btrim ownerId).length
  token_pos : 0 < fencingToken
  balance_nonneg : 0 ≤ balancePusd

instance : DecidableEq WalletReadiness := fun _ _ =>
  decidable_of_iff _ WalletReadiness.ext_iff.symm

/-- A row of `personal_runtime_bindings`. -/
@[ext]
structure PersonalBinding where
  identity : WalletIdentity
  bindingVersion : Int
  paused : Bool
  readiness : Option WalletReadiness
  shape : identity.Shape
  version_pos : 0 < bindingVersion

instance : DecidableEq PersonalBinding := fun _ _ =>
  decidable_of_iff _ PersonalBinding.ext_iff.symm

/-- The columns of an `orders` row that the gates read and write. -/
structure GatedOrder where
  clientOrderId : String
  environment : TradingMode
  status : OrderStatus
  workerFencingToken : Option Int
  attemptCount : Nat
  submissionScope : Option String
  deriving DecidableEq

/-- The rows of one account. -/
structure RuntimeState where
  clock : Instant
  lease : Option WorkerLease
  control : Option RuntimeControl
  binding : Option PersonalBinding
  orders : List GatedOrder
  deriving DecidableEq

namespace RuntimeState

variable (state : RuntimeState)

/-- The control row, inserted where it is missing. -/
def controlRow : RuntimeControl :=
  state.control.getD .fresh

/-- The account with its control row. -/
def withControl (control : RuntimeControl) : RuntimeState :=
  { state with control := some control }

/-! ### The control -/

/-- Whether a transaction reported a row, and the state after it. -/
abbrev Served : Type :=
  Except SqlError (Bool × RuntimeState)

def fifteenMinutes : Duration :=
  seconds 900

/-- The update of both arming functions. -/
def updateArm (mode : TradingMode) (armedUntil : Instant) (expectedVersion : Int) (now : Instant)
    (real : mode.RealMoney) : Bool × RuntimeState :=
  if armable : state.controlRow.Armable mode expectedVersion now then
    (true, state.withControl (state.controlRow.armedAs mode armedUntil real armable.2.1))
  else (false, state.withControl state.controlRow)

/-- `arm_runtime_control`. -/
def armRuntimeControl (mode : TradingMode) (armedUntil : Instant) (expectedVersion : Int)
    (now : Instant) : Served :=
  if real : mode.RealMoney then do
    require (1 ≤ expectedVersion) (.raised "expected runtime control version must be positive")
    require (now < armedUntil ∧ armedUntil ≤ now + fifteenMinutes)
      (.raised "runtime arm expiry must be within the next 15 minutes")
    pure (state.updateArm mode armedUntil expectedVersion now real)
  else .error (.raised "runtime control can only be armed in canary or live mode")

/-- `arm_personal_runtime_control`. -/
def armPersonalRuntimeControl (ownerId : String) (fencingToken : Int) (mode : TradingMode)
    (armedUntil : Instant) (expectedVersion : Int) (now : Instant) : Served :=
  if real : 8 ≤ (Text.btrim ownerId).length ∧ 0 < fencingToken ∧ mode.RealMoney then do
    require (1 ≤ expectedVersion) (.raised "expected runtime control version must be positive")
    require (now < armedUntil ∧ armedUntil ≤ now + fifteenMinutes)
      (.raised "runtime arm expiry must be within the next 15 minutes")
    if (∃ binding ∈ state.binding, binding.paused = false) ∧
        validateWorkerLease state.lease ownerId fencingToken now = true then
      pure (state.updateArm mode armedUntil expectedVersion now real.2.2)
    else pure (false, state)
  else .error (.raised "personal runtime can only be armed in canary or live mode")

/-- `expire_runtime_control`. -/
def expireRuntimeControl (mode : TradingMode) (expectedVersion : Int) (now : Instant) : Served := do
  require mode.RealMoney (.raised "runtime control can only expire in canary or live mode")
  match state.control with
  | none => pure (false, state)
  | some control =>
      if control.mode = mode ∧ control.version = expectedVersion ∧ control.armed = true ∧
          ∃ armedUntil ∈ control.armedUntil, armedUntil ≤ now then
        pure (true, state.withControl (control.stopped control.mode true))
      else pure (false, state)

/-- `disarm_runtime_control`. -/
def disarmRuntimeControl (mode : TradingMode) : Served :=
  .ok (true, state.withControl (state.controlRow.stopped mode (decide mode.RealMoney)))

/-- An order that an acknowledgement waits for. -/
def unresolved (order : GatedOrder) : Bool :=
  order.status ∈ [OrderStatus.signed, .submitting, .unknown]

/-- `acknowledge_runtime_cancellation`. -/
def acknowledgeRuntimeCancellation (expectedVersion : Int) : Served :=
  match state.control with
  | none => .ok (false, state)
  | some control =>
      if ready : (control.version = expectedVersion ∧ control.cancellationPending = true ∧
          control.killSwitch = true ∧ control.armed = false) ∧
          ¬ ∃ order ∈ state.orders, unresolved order = true then
        .ok (true, state.withControl (control.acknowledged ready.1.2.2.2))
      else .ok (false, state)

/-- `set_personal_runtime_paused`. -/
def setPersonalRuntimePaused (paused : Bool) : Served := do
  require (paused = true) (.raised "invalid personal runtime pause request")
  match state.binding with
  | none => pure (false, state)
  | some binding =>
      let control := state.controlRow
      let pending := decide control.mode.RealMoney
      let next :=
        if control.Stopped ∧ control.cancellationPending = pending then control
        else control.stopped control.mode pending
      pure (true,
        { state with
          control := some next
          binding := some { binding with paused := true } })

/-- `resume_personal_runtime`. -/
def resumePersonalRuntime (expectedVersion : Int) : Served := do
  require (0 < expectedVersion) (.raised "invalid personal runtime resume request")
  match state.binding with
  | none => pure (false, state)
  | some binding =>
      if state.controlRow.version = expectedVersion then
        pure (true,
          { state with
            control := some state.controlRow
            binding := some { binding with paused := false } })
      else pure (false, state.withControl state.controlRow)

/-! ### The wallet -/

/-- An order that may still be live. -/
def potentiallyLive (order : GatedOrder) : Bool :=
  order.status ∈ [OrderStatus.created, .signed, .submitting, .submitted, .live, .partiallyFilled,
    .cancelPending, .unknown]

/-- The runtime is not fully stopped, or an order may be live. -/
def Busy : Prop :=
  (∃ control ∈ state.control, control.Active) ∨ ∃ order ∈ state.orders, potentiallyLive order = true

instance : Decidable state.Busy :=
  inferInstanceAs (Decidable ((∃ control ∈ state.control, control.Active) ∨ _))

/-- `bind_personal_runtime_wallet`. -/
def bindPersonalRuntimeWallet (ownerId : String) (fencingToken : Int) (wallet : WalletIdentity)
    (now : Instant) : Served :=
  if valid : (8 ≤ (Text.btrim ownerId).length ∧ 0 < fencingToken) ∧ wallet.normalized.Shape then
    if validateWorkerLease state.lease ownerId fencingToken now = true then
      match state.binding with
      | none =>
          if state.Busy then .ok (false, state)
          else .ok (true,
            { state with
              binding := some ⟨wallet.normalized, 1, false, none, valid.2, Int.one_pos⟩ })
      | some binding =>
          if binding.identity = wallet.normalized then .ok (true, state)
          else if state.Busy then .ok (false, state)
          else .ok (true,
            { state with
              binding := some
                { binding with
                  identity := wallet.normalized
                  bindingVersion := binding.bindingVersion + 1
                  readiness := none
                  shape := valid.2
                  version_pos := Int.lt_add_one_of_le binding.version_pos.le } })
    else .ok (false, state)
  else .error (.raised "invalid personal wallet binding")

/-- `record_personal_wallet_readiness`. -/
def recordPersonalWalletReadiness (ownerId : String) (fencingToken bindingVersion : Int)
    (balancePusd : ℚ) (allowancesReady : Bool) (now : Instant) : Served :=
  if valid : 8 ≤ (Text.btrim ownerId).length ∧ 0 < fencingToken ∧ 0 < bindingVersion ∧
      0 ≤ balancePusd then
    match state.binding with
    | none => .ok (false, state)
    | some binding =>
        if binding.bindingVersion = bindingVersion ∧
            validateWorkerLease state.lease ownerId fencingToken now = true then
          .ok (true,
            { state with
              binding := some
                { binding with
                  readiness := some ⟨ownerId, fencingToken, balancePusd, allowancesReady, now,
                    valid.1, valid.2.1, valid.2.2.2⟩ } })
        else .ok (false, state)
  else .error (.raised "invalid personal wallet readiness")

/-! ### The gate -/

/-- The arguments of `mark_personal_order_submitting`. -/
structure Submission where
  intentHash : String
  ownerId : String
  workerFencingToken : Int
  controlVersion : Int
  mode : TradingMode
  deriving DecidableEq

/-- The control authorises the submission. -/
def Submission.Authorises (submission : Submission) (control : RuntimeControl) (now : Instant) :
    Prop :=
  control.version = submission.controlVersion ∧ control.mode = submission.mode ∧
    control.armed = true ∧ control.acceptNewIntents = true ∧ control.killSwitch = false ∧
    control.cancellationPending = false ∧ control.Unexpired now

instance (submission : Submission) (control : RuntimeControl) (now : Instant) :
    Decidable (submission.Authorises control now) :=
  inferInstanceAs (Decidable (_ ∧ _ ∧ _ ∧ _ ∧ _ ∧ _ ∧ _))

/-- A recent observation of the wallet, by the owner of a lease. -/
def WalletReady (readiness : WalletReadiness) (ownerId : String) (fencingToken : Int)
    (now : Instant) : Prop :=
  0 < readiness.balancePusd ∧ readiness.allowancesReady = true ∧
    now - fifteenMinutes < readiness.checkedAt ∧ readiness.ownerId = ownerId ∧
    readiness.fencingToken = fencingToken

instance (readiness : WalletReadiness) (ownerId : String) (fencingToken : Int) (now : Instant) :
    Decidable (WalletReady readiness ownerId fencingToken now) :=
  inferInstanceAs (Decidable (_ ∧ _ ∧ _ ∧ _ ∧ _))

/-- The binding authorises the submission. -/
def Submission.Funded (submission : Submission) (binding : PersonalBinding) (now : Instant) : Prop :=
  binding.paused = false ∧ ∃ readiness ∈ binding.readiness,
    WalletReady readiness submission.ownerId submission.workerFencingToken now

instance (submission : Submission) (binding : PersonalBinding) (now : Instant) :
    Decidable (submission.Funded binding now) :=
  inferInstanceAs (Decidable (_ ∧ ∃ readiness ∈ binding.readiness, _))

/-- The order that the submission is about is signed for it. -/
def Submission.Matches (submission : Submission) (order : GatedOrder) : Prop :=
  order.clientOrderId = submission.intentHash ∧ order.status = .signed ∧
    order.environment = submission.mode ∧
    order.workerFencingToken = some submission.workerFencingToken

instance (submission : Submission) (order : GatedOrder) : Decidable (submission.Matches order) :=
  inferInstanceAs (Decidable (_ ∧ _ ∧ _ ∧ _))

/-- All mutable authority of the submission. -/
def Authorised (submission : Submission) (now : Instant) : Prop :=
  validateWorkerLease state.lease submission.ownerId submission.workerFencingToken now = true ∧
    (∃ control ∈ state.control, submission.Authorises control now) ∧
    ∃ binding ∈ state.binding, submission.Funded binding now

instance (submission : Submission) (now : Instant) : Decidable (state.Authorised submission now) :=
  inferInstanceAs (Decidable (_ ∧ (∃ control ∈ state.control, _) ∧ ∃ binding ∈ state.binding, _))

/-- The arguments are usable; with others the function returns false. -/
def Submission.Usable (submission : Submission) : Prop :=
  Text.btrim submission.intentHash ≠ "" ∧ submission.intentHash.length ≤ 256 ∧
    submission.mode.RealMoney ∧ 8 ≤ (Text.btrim submission.ownerId).length ∧
    0 < submission.workerFencingToken ∧ 0 < submission.controlVersion

instance (submission : Submission) : Decidable submission.Usable :=
  inferInstanceAs (Decidable (_ ∧ _ ∧ _ ∧ _ ∧ _ ∧ _))

/-- The order after `mark_personal_order_submitting`. -/
def GatedOrder.submitted (order : GatedOrder) : GatedOrder :=
  { order with
    status := .submitting
    attemptCount := order.attemptCount + 1
    submissionScope := some "personal" }

/-- `mark_personal_order_submitting`. The trigger on the update repeats a part of the
authority, so it never rejects. -/
def markPersonalOrderSubmitting (submission : Submission) (now : Instant) : Bool × RuntimeState :=
  if submission.Usable ∧ state.Authorised submission now then
    let marked := state.orders.map fun order =>
      if submission.Matches order then GatedOrder.submitted order else order
    (decide (((state.orders.filter fun order => submission.Matches order).length) = 1),
      { state with orders := marked })
  else (false, state)

end RuntimeState

end Polybot
