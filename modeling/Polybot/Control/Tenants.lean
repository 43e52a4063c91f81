import Polybot.Control.Runtime

/-!
The wallets of the tenants (`0007_secure_multitenant.sql`, `0015_product_operations.sql`).

The tables of all accounts that the lifecycle of a trading wallet and the last gate of
a tenant's order read and write. A row carries the CHECK constraints of its table. Every
function is one transaction at the instant `now`: whether it reported a row (or `true`)
with the state after it, or it raises. A generated id is an argument, and `tie` chooses
among rows that an `order by ... limit 1` leaves equal.
-/

namespace Polybot

open Checked

/-! ### Rows -/

inductive WalletStatus where
  | provisioning
  | pendingVerification
  | active
  | revocationPending
  | revoked
  | failed
  deriving DecidableEq, Repr

inductive CredentialStatus where
  | active
  | pendingVerification
  | revocationPending
  | revoked
  deriving DecidableEq, Repr

inductive CredentialKind where
  | aiApiKey
  | evmSignerKey
  deriving DecidableEq, Repr

/-- `^[0-9a-f]{64}$`. -/
def isFingerprint (text : String) : Bool :=
  text.length = 64 && text.toList.all fun c => ('0' ≤ c && c ≤ '9') || ('a' ≤ c && c ≤ 'f')

/-- The shape of an idempotency key: `^[A-Za-z0-9._:@+-]+$`, of 16 to 128 characters. -/
def isIdempotencyKey (text : String) : Bool :=
  16 ≤ text.length && text.length ≤ 128 && text.toList.all fun c =>
    c.isAlphanum || c ∈ ['.', '_', ':', '@', '+', '-']

/-- `^[a-z0-9_.:-]+$`, of 1 to 64 characters. -/
def isErrorCode (text : String) : Bool :=
  1 ≤ text.length && text.length ≤ 64 && text.toList.all fun c =>
    c.isDigit || c.isLower || c ∈ ['_', '.', ':', '-']

/-- An identity as `complete_trading_wallet_verification` stores it. -/
def WalletIdentity.lowered (identity : WalletIdentity) : WalletIdentity :=
  ⟨Text.lower identity.signerAddress, Text.lower identity.depositWalletAddress, identity.chainId,
    Text.lower identity.collateralToken⟩

/-- An encrypted key. -/
structure CredentialEnvelope where
  cipherAlgorithm : String
  keyVersion : Int
  aadVersion : Int
  nonce : String
  ciphertext : String
  encryptedDataKey : Option String
  fingerprint : String
  lastFour : String
  deriving DecidableEq

/-- The CHECK constraints on an envelope. -/
def CredentialEnvelope.Shape (envelope : CredentialEnvelope) : Prop :=
  (0 < envelope.keyVersion ∧ 0 < envelope.aadVersion) ∧
    (16 ≤ envelope.nonce.length ∧ envelope.nonce.length ≤ 64) ∧
    (20 ≤ envelope.ciphertext.length ∧ envelope.ciphertext.length ≤ 16384) ∧
    (envelope.cipherAlgorithm = "A256GCM" ∧ envelope.encryptedDataKey = none ∨
      envelope.cipherAlgorithm = "RSA-OAEP-256+A256GCM" ∧ ∃ key ∈ envelope.encryptedDataKey,
        256 ≤ key.length ∧ key.length ≤ 2048) ∧
    isFingerprint envelope.fingerprint = true ∧ envelope.lastFour.length = 4

instance (envelope : CredentialEnvelope) : Decidable envelope.Shape :=
  inferInstanceAs (Decidable (_ ∧ _ ∧ _ ∧ (_ ∨ _ ∧ ∃ key ∈ envelope.encryptedDataKey, _) ∧ _ ∧ _))

/-- A row of `credential_refs`. -/
structure CredentialRef where
  accountId : String
  kind : CredentialKind
  provider : String
  label : Option String
  status : CredentialStatus
  envelope : CredentialEnvelope
  revokedAt : Option Instant
  revocation_shape : status = .revoked → revokedAt ≠ none
  deriving DecidableEq

namespace CredentialRef

/-- The credential with a status that is not `revoked`. -/
def withStatus (credential : CredentialRef) (status : CredentialStatus) (open' : status ≠ .revoked) :
    CredentialRef :=
  { credential with
    status := status
    revocation_shape := fun revoked => absurd revoked open' }

/-- The credential revoked at an instant. -/
def revokedAs (credential : CredentialRef) (at' : Instant) : CredentialRef :=
  { credential with
    status := .revoked
    revokedAt := some at'
    revocation_shape := fun _ => Option.some_ne_none _ }

end CredentialRef

/-- Who holds the lifecycle of a wallet, and how long. -/
structure LifecycleLease where
  claimedBy : String
  expiresAt : Instant
  deriving DecidableEq

/-- The readiness columns of a wallet. -/
structure TenantReadiness where
  collateralBalancePusd : ℚ
  allowancesReady : Bool
  readinessCheckedAt : Instant
  deriving DecidableEq

/-- A row of `trading_wallets`. -/
structure TradingWallet where
  accountId : String
  label : Option String
  enrollmentIdempotencyKey : String
  ownerAddress : Option String
  identity : Option WalletIdentity
  signerCredentialId : String
  signatureType : Int
  status : WalletStatus
  version : Int
  lifecycle : Option LifecycleLease
  lifecycleFencingToken : Int
  lifecycleAttemptCount : Nat
  lastErrorCode : Option String
  verifiedAt : Option Instant
  revokedAt : Option Instant
  readiness : Option TenantReadiness
  createdAt : Instant
  active_shape : status = .active → identity ≠ none ∧ verifiedAt ≠ none
  token_nonneg : 0 ≤ lifecycleFencingToken
  deriving DecidableEq

/-- The holder has an unexpired claim under the token. -/
def TradingWallet.HeldBy (wallet : TradingWallet) (claimedBy : String) (fencingToken : Int)
    (now : Instant) : Prop :=
  wallet.lifecycleFencingToken = fencingToken ∧
    ∃ lease ∈ wallet.lifecycle, lease.claimedBy = claimedBy ∧ now < lease.expiresAt

instance (wallet : TradingWallet) (claimedBy : String) (fencingToken : Int) (now : Instant) :
    Decidable (wallet.HeldBy claimedBy fencingToken now) :=
  inferInstanceAs (Decidable (_ ∧ ∃ lease ∈ wallet.lifecycle, _))

/-- Nobody has an unexpired claim. -/
def TradingWallet.Unclaimed (wallet : TradingWallet) (now : Instant) : Prop :=
  ∀ lease ∈ wallet.lifecycle, lease.expiresAt ≤ now

instance (wallet : TradingWallet) (now : Instant) : Decidable (wallet.Unclaimed now) :=
  inferInstanceAs (Decidable (∀ lease ∈ wallet.lifecycle, _))

/-- A row of `risk_policies`. -/
structure RiskPolicy where
  accountId : String
  version : Int
  active : Bool
  deriving DecidableEq

/-- A row of `account_runtime_profiles`. -/
structure RuntimeProfile where
  aiCredentialId : Option String
  tradingWalletId : Option String
  riskPolicyId : Option String
  desiredMode : TradingMode
  autoRunEnabled : Bool
  nextRunAt : Option Instant
  suspended : Bool
  version : Int
  deriving DecidableEq

inductive JobStatus where
  | queued
  | claimed
  | running
  | succeeded
  | failed
  | cancelled
  deriving DecidableEq, Repr

/-- A row of `cycle_jobs`. -/
structure CycleJob where
  accountId : String
  tradingWalletId : Option String
  aiCredentialId : Option String
  riskPolicy : Option (String × Int)
  mode : TradingMode
  idempotencyKey : String
  status : JobStatus
  runAfter : Instant
  requestedRunAfter : Option Instant
  claimedBy : Option String
  fencingToken : Int
  heartbeatAt : Option Instant
  leaseExpiresAt : Option Instant
  attemptCount : Nat
  maxAttempts : Nat
  errorCode : Option String
  startedAt : Option Instant
  completedAt : Option Instant
  resultSummary : Option String
  createdAt : Instant
  deriving DecidableEq

/-- The tables, those with one row for an account by its id. -/
structure TenantState where
  clock : Instant
  wallets : Dict String TradingWallet
  credentials : Dict String CredentialRef
  jobs : Dict String CycleJob
  risks : Dict String RiskPolicy
  profiles : Dict String RuntimeProfile
  controls : Dict String RuntimeControl
  leases : Dict String WorkerLease
  bindings : Dict String PersonalBinding
  orders : Dict String (List GatedOrder)
  deriving DecidableEq

namespace TenantState

variable (state : TenantState)

/-- Whether a transaction reported a row, and the tables after it. -/
abbrev Served : Type :=
  Except SqlError (Bool × TenantState)

/-- The orders of an account. -/
def ordersOf (accountId : String) : List GatedOrder :=
  (state.orders.get? accountId).getD []

/-- The wallet of an account. -/
def walletOf (accountId walletId : String) : Option TradingWallet :=
  (state.wallets.get? walletId).filter fun wallet => wallet.accountId = accountId

/-- The credential of an account. -/
def credentialOf (accountId credentialId : String) : Option CredentialRef :=
  (state.credentials.get? credentialId).filter fun credential => credential.accountId = accountId

/-- Write the wallet and its credential. -/
def withPair (walletId : String) (wallet : TradingWallet) (credentialId : String)
    (credential : CredentialRef) : TenantState :=
  { state with
    wallets := state.wallets.set walletId wallet
    credentials := state.credentials.set credentialId credential }

/-- Write the wallet. -/
def withWallet (walletId : String) (wallet : TradingWallet) : TenantState :=
  { state with wallets := state.wallets.set walletId wallet }

end TenantState

/-- The row that `order by ... limit 1` returns of those that come first. -/
def pick {α : Type} (tie : Nat) (rows : List α) : Option α :=
  rows[tie % rows.length]?

/-! ### Enrollment -/

/-- The arguments of `import_trading_wallet`. -/
structure WalletEnrollment where
  accountId : String
  label : Option String
  ownerAddress : Option String
  signatureType : Int
  idempotencyKey : String
  envelope : CredentialEnvelope
  deriving DecidableEq

/-- The request is well formed. -/
def WalletEnrollment.Usable (enrollment : WalletEnrollment) : Prop :=
  (0 ≤ enrollment.signatureType ∧ enrollment.signatureType ≤ 3) ∧
    isFingerprint enrollment.envelope.fingerprint = true ∧
    ∀ owner ∈ enrollment.ownerAddress, isAddress (Text.lower owner) = true

instance (enrollment : WalletEnrollment) : Decidable enrollment.Usable :=
  inferInstanceAs (Decidable (_ ∧ _ ∧ ∀ owner ∈ enrollment.ownerAddress, _))

/-- The request has the metadata that is stored for the wallet. -/
def WalletEnrollment.Repeats (enrollment : WalletEnrollment) (wallet : TradingWallet) : Prop :=
  wallet.signatureType = enrollment.signatureType ∧
    wallet.ownerAddress = enrollment.ownerAddress.map Text.lower

instance (enrollment : WalletEnrollment) (wallet : TradingWallet) :
    Decidable (enrollment.Repeats wallet) :=
  inferInstanceAs (Decidable (_ ∧ _))

/-- `status in ('pending_verification', 'active', 'revocation_pending')`: all but one. -/
def CredentialStatus.Enrolled (status : CredentialStatus) : Prop :=
  status ≠ revoked

instance (status : CredentialStatus) : Decidable status.Enrolled :=
  inferInstanceAs (Decidable (_ ≠ _))

/-- The signer key is enrolled under the credential. -/
def WalletEnrollment.SameSigner (enrollment : WalletEnrollment) (credential : CredentialRef) : Prop :=
  credential.accountId = enrollment.accountId ∧ credential.kind = .evmSignerKey ∧
    credential.envelope.fingerprint = enrollment.envelope.fingerprint ∧ credential.status.Enrolled

instance (enrollment : WalletEnrollment) (credential : CredentialRef) :
    Decidable (enrollment.SameSigner credential) :=
  inferInstanceAs (Decidable (_ ∧ _ ∧ _ ∧ _))

/-- A label has 1 to 80 characters. -/
def LabelShape (label : Option String) : Prop :=
  ∀ text ∈ label, 1 ≤ text.length ∧ text.length ≤ 80

instance (label : Option String) : Decidable (LabelShape label) :=
  inferInstanceAs (Decidable (∀ text ∈ label, _))

/-- The credential that an enrollment inserts. -/
def WalletEnrollment.credential (enrollment : WalletEnrollment) : CredentialRef where
  accountId := enrollment.accountId
  kind := .evmSignerKey
  provider := "polymarket"
  label := enrollment.label
  status := .pendingVerification
  envelope := enrollment.envelope
  revokedAt := none
  revocation_shape := nofun

/-- The wallet that an enrollment inserts. -/
def WalletEnrollment.wallet (enrollment : WalletEnrollment) (credentialId : String) (now : Instant) :
    TradingWallet where
  accountId := enrollment.accountId
  label := enrollment.label
  enrollmentIdempotencyKey := enrollment.idempotencyKey
  ownerAddress := enrollment.ownerAddress.map Text.lower
  identity := none
  signerCredentialId := credentialId
  signatureType := enrollment.signatureType
  status := .pendingVerification
  version := 1
  lifecycle := none
  lifecycleFencingToken := 0
  lifecycleAttemptCount := 0
  lastErrorCode := none
  verifiedAt := none
  revokedAt := none
  readiness := none
  createdAt := now
  active_shape := nofun
  token_nonneg := le_rfl

namespace TenantState

variable (state : TenantState)

/-- The insertions of an enrollment. -/
def enroll (enrollment : WalletEnrollment) (walletId credentialId : String) (now : Instant) :
    Served := do
  require (enrollment.envelope.Shape ∧ LabelShape enrollment.label)
    (.checkViolation "credential_refs")
  require (state.credentials.get? credentialId = none) (.uniqueViolation "credential_refs_pkey")
  require (¬ ∃ credential ∈ state.credentials.values, enrollment.SameSigner credential)
    (.uniqueViolation "credential_refs_active_signer_fingerprint_uidx")
  require (state.wallets.get? walletId = none) (.uniqueViolation "trading_wallets_pkey")
  pure (true, state.withPair walletId (enrollment.wallet credentialId now) credentialId
    enrollment.credential)

/-- `import_trading_wallet`. -/
def importTradingWallet (enrollment : WalletEnrollment) (walletId credentialId : String)
    (now : Instant) : Served := do
  require (isIdempotencyKey enrollment.idempotencyKey = true)
    (.raised "invalid wallet enrollment idempotency key")
  require enrollment.Usable (.raised "invalid wallet enrollment input")
  match state.wallets.values.find? fun wallet => wallet.accountId = enrollment.accountId ∧
      wallet.enrollmentIdempotencyKey = enrollment.idempotencyKey with
  | some existing => do
      require ((state.credentialOf enrollment.accountId existing.signerCredentialId).map
          (fun credential => credential.envelope.fingerprint) = some enrollment.envelope.fingerprint ∧
          enrollment.Repeats existing)
        (.raised "wallet enrollment idempotency conflict")
      pure (true, state)
  | none =>
      match state.wallets.values.find? fun wallet : TradingWallet =>
          decide (wallet.accountId = enrollment.accountId ∧
            ∃ credential ∈ state.credentialOf wallet.accountId wallet.signerCredentialId,
              enrollment.SameSigner credential) with
      | some existing => do
          require (enrollment.Repeats existing)
            (.raised "signer key is already enrolled with different wallet metadata")
          pure (true, state)
      | none => state.enroll enrollment walletId credentialId now

/-! ### Revocation -/

/-- Cancel the queued jobs of an account. -/
def cancelQueuedJobs (accountId : String) (now : Instant) : TenantState :=
  { state with
    jobs := state.jobs.map fun _ job =>
      if job.accountId = accountId ∧ job.status = .queued then
        { job with
          status := .cancelled
          completedAt := some now }
      else job }

/-- Take the wallet out of the profile of its account. -/
def withoutWallet (accountId walletId : String) : TenantState :=
  { state with
    profiles := state.profiles.map fun owner profile =>
      if owner = accountId ∧ profile.tradingWalletId = some walletId then
        { profile with
          tradingWalletId := none
          desiredMode := .paper
          autoRunEnabled := false
          nextRunAt := none
          version := profile.version + 1 }
      else profile }

/-- `disarm_runtime_control` of an account that has a control, in its own mode. -/
def disarmed (accountId : String) : TenantState :=
  { state with
    controls := state.controls.map fun owner control =>
      if owner = accountId then control.stopped control.mode (decide control.mode.RealMoney)
      else control }

end TenantState

/-- The wallet after the revocation of one that is not active. -/
def TradingWallet.discarded (wallet : TradingWallet) (now : Instant) : TradingWallet :=
  { wallet with
    status := .revoked
    identity := none
    revokedAt := some now
    version := wallet.version + 1
    lifecycle := none
    active_shape := nofun }

/-- The wallet with its revocation under way. -/
def TradingWallet.revoking (wallet : TradingWallet) : TradingWallet :=
  { wallet with
    status := .revocationPending
    version := wallet.version + 1
    active_shape := nofun }

/-- The wallet after its revocation. -/
def TradingWallet.revokedAs (wallet : TradingWallet) (now : Instant) : TradingWallet :=
  { wallet with
    status := .revoked
    revokedAt := some now
    version := wallet.version + 1
    lifecycle := none
    active_shape := nofun }

namespace TenantState

variable (state : TenantState)

/-- Update the credential of an account, where there is one. -/
def updateCredential (accountId credentialId : String) (update : CredentialRef → CredentialRef) :
    TenantState :=
  match state.credentialOf accountId credentialId with
  | none => state
  | some credential =>
      { state with credentials := state.credentials.set credentialId (update credential) }

/-- `request_trading_wallet_revocation`. -/
def requestTradingWalletRevocation (accountId walletId : String) (now : Instant) : Served :=
  match state.walletOf accountId walletId with
  | none => .ok (false, state)
  | some wallet =>
      if wallet.status = .revoked ∨ wallet.status = .revocationPending then .ok (true, state)
      else if wallet.status ≠ .active then
        .ok (true,
          (state.updateCredential accountId wallet.signerCredentialId fun credential =>
            credential.revokedAs (credential.revokedAt.getD now)).withWallet walletId
              (wallet.discarded now))
      else
        .ok (true,
          ((((state.updateCredential accountId wallet.signerCredentialId fun credential =>
            if credential.status = .revoked then credential
            else credential.withStatus .revocationPending nofun).cancelQueuedJobs accountId
              now).withoutWallet accountId walletId).disarmed accountId).withWallet walletId
                wallet.revoking)

/-! ### The lifecycle -/

/-- A verification that has run out of attempts. -/
def exhausted (wallet : TradingWallet) (now : Instant) : Bool :=
  decide (wallet.status = .pendingVerification ∧ 5 ≤ wallet.lifecycleAttemptCount ∧
    wallet.Unclaimed now)

/-- The wallet after its last attempt. -/
def exhaustedAs (wallet : TradingWallet) : TradingWallet :=
  { wallet with
    status := .failed
    lifecycle := none
    lastErrorCode := some "verification_attempts_exhausted"
    active_shape := nofun }

/-- The pending credential of an exhausted verification. -/
def exhaustedSigner (credentialId : String) (credential : CredentialRef) (now : Instant) : Bool :=
  (state.wallets.values.any fun wallet => exhausted wallet now &&
    decide (wallet.accountId = credential.accountId ∧ wallet.signerCredentialId = credentialId)) &&
  credential.status = .pendingVerification

/-- Fail every exhausted verification, and revoke its credential. -/
def failExhausted (now : Instant) : TenantState :=
  { state with
    wallets := state.wallets.map fun _ wallet =>
      if exhausted wallet now then exhaustedAs wallet else wallet
    credentials := state.credentials.map fun credentialId credential =>
      if state.exhaustedSigner credentialId credential now then credential.revokedAs now
      else credential }

/-- The wallets that wait for a worker. -/
def waitingWallets (now : Instant) : List (String × TradingWallet) :=
  state.wallets.entries.filter fun entry => decide (entry.2.Unclaimed now ∧
    (entry.2.status = .revocationPending ∨
      entry.2.status = .pendingVerification ∧ entry.2.lifecycleAttemptCount < 5))

/-- A wallet comes before another: revocations first, then by age. -/
def Before (wallet other : TradingWallet) : Prop :=
  wallet.status = .revocationPending ∧ other.status ≠ .revocationPending ∨
    (wallet.status = .revocationPending ↔ other.status = .revocationPending) ∧
      wallet.createdAt < other.createdAt

instance (wallet other : TradingWallet) : Decidable (Before wallet other) :=
  inferInstanceAs (Decidable (_ ∨ (_ ↔ _) ∧ _))

/-- The waiting wallets that no other comes before. -/
def firstWaiting (now : Instant) : List (String × TradingWallet) :=
  (state.waitingWallets now).filter fun entry =>
    decide (∀ other ∈ state.waitingWallets now, ¬ Before other.2 entry.2)

end TenantState

/-- The wallet after a claim of its lifecycle. -/
def TradingWallet.claimedAs (wallet : TradingWallet) (claimedBy : String) (leaseSeconds : Int)
    (now : Instant) : TradingWallet :=
  { wallet with
    lifecycle := some ⟨claimedBy, now + seconds leaseSeconds⟩
    lifecycleFencingToken := wallet.lifecycleFencingToken + 1
    lifecycleAttemptCount := wallet.lifecycleAttemptCount +
      if wallet.status = .pendingVerification then 1 else 0
    token_nonneg := Int.le_add_one wallet.token_nonneg }

/-- The wallet after a heartbeat. -/
def TradingWallet.extendedTo (wallet : TradingWallet) (expiresAt : Instant) : TradingWallet :=
  { wallet with lifecycle := wallet.lifecycle.map fun lease => { lease with expiresAt := expiresAt } }

/-- The wallet after its verification. -/
def TradingWallet.verifiedAs (wallet : TradingWallet) (identity : WalletIdentity) (now : Instant) :
    TradingWallet :=
  { wallet with
    status := .active
    identity := some identity
    verifiedAt := some now
    version := wallet.version + 1
    lifecycle := none
    lastErrorCode := none
    active_shape := fun _ => ⟨Option.some_ne_none _, Option.some_ne_none _⟩ }

/-- The wallet with its observed readiness. -/
def TradingWallet.observedAs (wallet : TradingWallet) (readiness : TenantReadiness) : TradingWallet :=
  { wallet with readiness := some readiness }

/-- The wallet after a failed verification. -/
def TradingWallet.failedAs (wallet : TradingWallet) (terminal : Bool) (errorCode : String) :
    TradingWallet :=
  { wallet with
    status := if terminal then .failed else .pendingVerification
    lifecycle := none
    lastErrorCode := some errorCode
    active_shape := by cases terminal <;> exact nofun }

namespace TenantState

variable (state : TenantState)

/-- `claim_trading_wallet_lifecycle`. -/
def claimTradingWalletLifecycle (claimedBy : String) (leaseSeconds : Int) (tie : Nat)
    (now : Instant) : Served := do
  require ((1 ≤ claimedBy.length ∧ claimedBy.length ≤ 120) ∧ 10 ≤ leaseSeconds ∧ leaseSeconds ≤ 300)
    (.raised "invalid wallet lifecycle lease")
  let swept := state.failExhausted now
  match pick tie (swept.firstWaiting now) with
  | none => pure (false, swept)
  | some (walletId, wallet) =>
      pure (true, swept.withWallet walletId (wallet.claimedAs claimedBy leaseSeconds now))

/-- The wallet of an account, in one of the statuses, whose lifecycle the holder has. -/
def heldWallet (accountId walletId claimedBy : String) (fencingToken : Int)
    (statuses : List WalletStatus) (now : Instant) : Option TradingWallet :=
  (state.walletOf accountId walletId).filter fun wallet =>
    decide (wallet.status ∈ statuses ∧ wallet.HeldBy claimedBy fencingToken now)

/-- `heartbeat_trading_wallet_lifecycle`. -/
def heartbeatTradingWalletLifecycle (accountId walletId claimedBy : String) (fencingToken : Int)
    (leaseSeconds : Int) (now : Instant) : Served :=
  if 10 ≤ leaseSeconds ∧ leaseSeconds ≤ 300 then
    match state.heldWallet accountId walletId claimedBy fencingToken
        [.pendingVerification, .revocationPending] now with
    | none => .ok (false, state)
    | some wallet =>
        .ok (true, state.withWallet walletId (wallet.extendedTo (now + seconds leaseSeconds)))
  else .ok (false, state)

/-- `complete_trading_wallet_verification`. -/
def completeTradingWalletVerification (accountId walletId claimedBy : String) (fencingToken : Int)
    (identity : WalletIdentity) (now : Instant) : Served := do
  let identity := identity.lowered
  require identity.Shape (.raised "invalid verified wallet environment")
  match state.heldWallet accountId walletId claimedBy fencingToken [.pendingVerification] now with
  | none => pure (false, state)
  | some wallet =>
      match (state.credentialOf accountId wallet.signerCredentialId).filter fun credential =>
          credential.kind = .evmSignerKey ∧ credential.status = .pendingVerification with
      | none => throw (.raised "pending signer credential is unavailable")
      | some credential => do
          require (¬ ∃ entry ∈ state.wallets.entries, entry.1 ≠ walletId ∧
              (entry.2.status = .active ∨ entry.2.status = .revocationPending) ∧
              entry.2.identity.map WalletIdentity.depositWalletAddress =
                some identity.depositWalletAddress)
            (.uniqueViolation "trading_wallets_deposit_address_uidx")
          pure (true, state.withPair walletId (wallet.verifiedAs identity now)
            wallet.signerCredentialId (credential.withStatus .active nofun))

/-- `fail_trading_wallet_verification`. -/
def failTradingWalletVerification (accountId walletId claimedBy : String) (fencingToken : Int)
    (errorCode : String) (retryable : Bool) (now : Instant) : Served := do
  require (isErrorCode errorCode = true) (.raised "invalid wallet verification error code")
  match state.heldWallet accountId walletId claimedBy fencingToken [.pendingVerification] now with
  | none => pure (false, state)
  | some wallet =>
      let terminal := !retryable || decide (5 ≤ wallet.lifecycleAttemptCount)
      let revoked :=
        if terminal then
          state.updateCredential accountId wallet.signerCredentialId fun credential =>
            credential.revokedAs now
        else state
      pure (true, revoked.withWallet walletId (wallet.failedAs terminal errorCode))

/-- `complete_trading_wallet_revocation`. -/
def completeTradingWalletRevocation (accountId walletId claimedBy : String) (fencingToken : Int)
    (now : Instant) : Served :=
  match state.heldWallet accountId walletId claimedBy fencingToken [.revocationPending] now with
  | none => .ok (false, state)
  | some wallet =>
      if ∃ order ∈ state.ordersOf accountId, RuntimeState.potentiallyLive order = true then
        .ok (false, state)
      else
        .ok (true,
          (state.updateCredential accountId wallet.signerCredentialId fun credential =>
            credential.revokedAs now).withWallet walletId (wallet.revokedAs now))

/-- `record_wallet_readiness`. -/
def recordWalletReadiness (accountId walletId : String) (balancePusd : ℚ) (allowancesReady : Bool)
    (now : Instant) : Served := do
  require (0 ≤ balancePusd) (.raised "wallet balance must be non-negative")
  match (state.walletOf accountId walletId).filter fun wallet => wallet.status = .active with
  | none => pure (false, state)
  | some wallet =>
      pure (true, state.withWallet walletId
        (wallet.observedAs ⟨balancePusd, allowancesReady, now⟩))

end TenantState

end Polybot
