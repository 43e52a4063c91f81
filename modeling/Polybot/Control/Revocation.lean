import Polybot.Control.Jobs
import Polybot.Interaction.Transition

/-!
The life of a trading wallet, over any calls by any holders.

A wallet and its signer credential move together, `WalletMoves` lists how. From it:
every reachable pair is allowed, and a wallet whose revocation was requested is never
active again, so no order of a job that uses it passes the gate (`wallets_kept`).
-/

namespace Polybot

open Checked Interaction

/-! ### Calls -/

/-- A call of one of the functions, or what other functions write: the credential of an
AI provider, and the tables beside the wallets and the credentials. -/
inductive TenantCall where
  | importWallet (enrollment : WalletEnrollment) (walletId credentialId : String)
  | requestRevocation (accountId walletId : String)
  | claimLifecycle (claimedBy : String) (leaseSeconds : Int) (tie : Nat)
  | heartbeatLifecycle (accountId walletId claimedBy : String) (fencingToken leaseSeconds : Int)
  | completeVerification (accountId walletId claimedBy : String) (fencingToken : Int)
      (identity : WalletIdentity)
  | failVerification (accountId walletId claimedBy : String) (fencingToken : Int)
      (errorCode : String) (retryable : Bool)
  | completeRevocation (accountId walletId claimedBy : String) (fencingToken : Int)
  | recordReadiness (accountId walletId : String) (balancePusd : ℚ) (allowancesReady : Bool)
  | enqueueJob (request : JobRequest) (jobId newRiskId : String)
  | claimJob (claimedBy : String) (leaseSeconds : Int) (accountId : Option String) (tie : Nat)
  | heartbeatJob (accountId jobId claimedBy : String) (fencingToken leaseSeconds : Int)
  | markJobRunning (accountId jobId claimedBy : String) (fencingToken : Int)
  | completeJob (accountId jobId claimedBy : String) (fencingToken : Int)
      (resultSummary : Option String)
  | failJob (accountId jobId claimedBy : String) (fencingToken : Int) (errorCode : String)
      (retryable : Bool)
  | markSubmitting (submission : TenantState.Submission)
  | storeAiCredential (credentialId : String) (credential : CredentialRef)
  | storeTables (tables : TenantState)

/-- Whether the call reported a row (or `true`), and the tables after it. -/
def TenantCall.serve (state : TenantState) (now : Instant) : TenantCall → TenantState.Served
  | importWallet enrollment walletId credentialId =>
      state.importTradingWallet enrollment walletId credentialId now
  | requestRevocation accountId walletId =>
      state.requestTradingWalletRevocation accountId walletId now
  | claimLifecycle claimedBy leaseSeconds tie =>
      state.claimTradingWalletLifecycle claimedBy leaseSeconds tie now
  | heartbeatLifecycle accountId walletId claimedBy fencingToken leaseSeconds =>
      state.heartbeatTradingWalletLifecycle accountId walletId claimedBy fencingToken leaseSeconds now
  | completeVerification accountId walletId claimedBy fencingToken identity =>
      state.completeTradingWalletVerification accountId walletId claimedBy fencingToken identity now
  | failVerification accountId walletId claimedBy fencingToken errorCode retryable =>
      state.failTradingWalletVerification accountId walletId claimedBy fencingToken errorCode
        retryable now
  | completeRevocation accountId walletId claimedBy fencingToken =>
      state.completeTradingWalletRevocation accountId walletId claimedBy fencingToken now
  | recordReadiness accountId walletId balancePusd allowancesReady =>
      state.recordWalletReadiness accountId walletId balancePusd allowancesReady now
  | enqueueJob request jobId newRiskId => state.enqueueCycleJob request jobId newRiskId now
  | claimJob claimedBy leaseSeconds accountId tie =>
      state.claimNextCycleJob claimedBy leaseSeconds accountId tie now
  | heartbeatJob accountId jobId claimedBy fencingToken leaseSeconds =>
      state.heartbeatCycleJob accountId jobId claimedBy fencingToken leaseSeconds now
  | markJobRunning accountId jobId claimedBy fencingToken =>
      state.markCycleJobRunning accountId jobId claimedBy fencingToken now
  | completeJob accountId jobId claimedBy fencingToken resultSummary =>
      state.completeCycleJob accountId jobId claimedBy fencingToken resultSummary now
  | failJob accountId jobId claimedBy fencingToken errorCode retryable =>
      state.failCycleJob accountId jobId claimedBy fencingToken errorCode retryable now
  | markSubmitting submission => state.markTenantOrderSubmitting submission now
  | storeAiCredential credentialId credential => do
      require (credential.kind = .aiApiKey ∧ ∀ old ∈ state.credentials.get? credentialId,
          old.kind = .aiApiKey) (.raised "not an AI credential")
      pure (true, { state with credentials := state.credentials.set credentialId credential })
  | storeTables tables =>
      .ok (true,
        { tables with
          wallets := state.wallets
          credentials := state.credentials })

/-- A call at an instant, and whether it reported a row. -/
structure TenantLabel where
  call : TenantCall
  now : Instant
  granted : Bool

/-- The tables at a later instant. -/
def TenantState.at (state : TenantState) (now : Instant) : TenantState :=
  { state with clock := now }

/-- A call that is served, or rolled back, at an instant that is not before the last. -/
inductive TenantStep (state : TenantState) (label : TenantLabel) : TenantState → Prop where
  | served (next : TenantState) : state.clock ≤ label.now →
      label.call.serve state label.now = .ok (label.granted, next) →
      TenantStep state label (next.at label.now)
  | rolledBack : state.clock ≤ label.now → label.granted = false →
      TenantStep state label (state.at label.now)

/-! ### What is kept -/

/-- The pairs of statuses that a wallet and its credential can have. -/
def allowedPairs : List (WalletStatus × CredentialStatus) :=
  [(.pendingVerification, .pendingVerification), (.active, .active),
    (.revocationPending, .revocationPending), (.failed, .revoked), (.revoked, .revoked)]

/-- No wallet of the account is held under the token. -/
def TenantState.Unheld (state : TenantState) (accountId walletId claimedBy : String)
    (fencingToken : Int) (now : Instant) : Prop :=
  ∀ wallet ∈ state.walletOf accountId walletId, ¬ wallet.HeldBy claimedBy fencingToken now

/-- No job of the account is held under the token. -/
def TenantState.UnheldJob (state : TenantState) (accountId jobId claimedBy : String)
    (fencingToken : Int) (now : Instant) : Prop :=
  ∀ job ∈ state.jobs.get? jobId, job.accountId = accountId →
    ¬ job.HeldBy claimedBy fencingToken now

/-- A call by somebody who does not hold the wallet or the job: another holder, an old
token or a lapsed lease. -/
def StaleCall (state : TenantState) (now : Instant) : TenantCall → Prop
  | .heartbeatLifecycle accountId walletId claimedBy fencingToken _ =>
      state.Unheld accountId walletId claimedBy fencingToken now
  | .completeVerification accountId walletId claimedBy fencingToken _ =>
      state.Unheld accountId walletId claimedBy fencingToken now
  | .failVerification accountId walletId claimedBy fencingToken _ _ =>
      state.Unheld accountId walletId claimedBy fencingToken now
  | .completeRevocation accountId walletId claimedBy fencingToken =>
      state.Unheld accountId walletId claimedBy fencingToken now
  | .heartbeatJob accountId jobId claimedBy fencingToken _ =>
      state.UnheldJob accountId jobId claimedBy fencingToken now
  | .markJobRunning accountId jobId claimedBy fencingToken =>
      state.UnheldJob accountId jobId claimedBy fencingToken now
  | .completeJob accountId jobId claimedBy fencingToken _ =>
      state.UnheldJob accountId jobId claimedBy fencingToken now
  | .failJob accountId jobId claimedBy fencingToken _ _ =>
      state.UnheldJob accountId jobId claimedBy fencingToken now
  | .markSubmitting submission =>
      state.UnheldJob submission.accountId submission.jobId submission.claimedBy
        submission.jobFencingToken now
  | _ => False

/-- What every run from `start` keeps. -/
structure WalletsKept (start : TenantState) : Prop where
  /-- A wallet and its signer credential are in an allowed pair of statuses. -/
  paired : ∀ history state walletId wallet, Run TenantStep start history state →
    state.wallets.get? walletId = some wallet → ∃ credential,
      state.credentials.get? wallet.signerCredentialId = some credential ∧
        credential.accountId = wallet.accountId ∧ credential.kind = .evmSignerKey ∧
        (wallet.status, credential.status) ∈ allowedPairs
  /-- A stale call changes nothing. -/
  stale : ∀ history state label after, Run TenantStep start history state →
    TenantStep state label after → StaleCall state label.now label.call →
    after = state.at label.now
  /-- After the revocation of a wallet was requested, no order of a job that uses it
  passes the gate. -/
  never_signs : ∀ front between s t u v request mark accountId walletId submission job,
    Run TenantStep start front s → TenantStep s request t → request.granted = true →
    request.call = .requestRevocation accountId walletId → Run TenantStep t between u →
    TenantStep u mark v → mark.granted = true → mark.call = .markSubmitting submission →
    u.jobs.get? submission.jobId = some job → job.tradingWalletId ≠ some walletId
  /-- The end of a revocation writes a credential only when no order of the account may
  be live. -/
  resolved : ∀ history state label after accountId walletId claimedBy fencingToken,
    Run TenantStep start history state → TenantStep state label after →
    label.call = .completeRevocation accountId walletId claimedBy fencingToken →
    after.credentials ≠ state.credentials →
    ∀ order ∈ state.ordersOf accountId, RuntimeState.potentiallyLive order = false

/-! ### How a wallet moves -/

/-- How the statuses of a wallet and its credential move together. -/
inductive WalletMoves : WalletStatus × CredentialStatus → WalletStatus × CredentialStatus → Prop where
  | stayed (pair : WalletStatus × CredentialStatus) : WalletMoves pair pair
  | verified : WalletMoves (.pendingVerification, .pendingVerification) (.active, .active)
  | failed : WalletMoves (.pendingVerification, .pendingVerification) (.failed, .revoked)
  | discarded (status : WalletStatus) (credential : CredentialStatus) :
      status = .pendingVerification ∨ status = .failed →
      WalletMoves (status, credential) (.revoked, .revoked)
  | revoking : WalletMoves (.active, .active) (.revocationPending, .revocationPending)
  | revoked : WalletMoves (.revocationPending, .revocationPending) (.revoked, .revoked)

/-- The wallet is on its way out. -/
def WalletStatus.Closing (status : WalletStatus) : Prop :=
  status = revocationPending ∨ status = revoked

theorem WalletMoves.allowed {before after : WalletStatus × CredentialStatus}
    (moves : WalletMoves before after) (allowed : before ∈ allowedPairs) : after ∈ allowedPairs := by
  cases moves with
  | stayed => exact allowed
  | _ => decide

theorem WalletMoves.closing {before after : WalletStatus × CredentialStatus}
    (moves : WalletMoves before after) (closing : before.1.Closing) : after.1.Closing := by
  cases moves with
  | stayed => exact closing
  | verified => exact absurd closing (by simp [WalletStatus.Closing])
  | failed => exact absurd closing (by simp [WalletStatus.Closing])
  | discarded => exact .inr rfl
  | revoking => exact .inl rfl
  | revoked => exact .inr rfl

/-- What a call does to the wallets and the credentials. -/
inductive PairChange (state after : TenantState) : Prop where
  | kept : after.wallets = state.wallets → after.credentials = state.credentials →
      PairChange state after
  | moved (walletId : String) (wallet wallet' : TradingWallet) (credential credential' : CredentialRef) :
      state.wallets.get? walletId = some wallet →
      state.credentials.get? wallet.signerCredentialId = some credential →
      wallet'.signerCredentialId = wallet.signerCredentialId →
      wallet'.accountId = wallet.accountId → credential'.accountId = credential.accountId →
      credential'.kind = credential.kind →
      WalletMoves (wallet.status, credential.status) (wallet'.status, credential'.status) →
      after.wallets = state.wallets.set walletId wallet' →
      (∀ id, after.credentials.get? id =
        (state.credentials.set wallet.signerCredentialId credential').get? id) →
      PairChange state after
  | swept (now : Instant) : after = state.failExhausted now → PairChange state after
  | enrolled (enrollment : WalletEnrollment) (walletId credentialId : String) (now : Instant) :
      state.credentials.get? credentialId = none → state.wallets.get? walletId = none →
      after = state.withPair walletId (enrollment.wallet credentialId now) credentialId
        enrollment.credential → PairChange state after
  | stored (credentialId : String) (credential : CredentialRef) :
      (∀ old ∈ state.credentials.get? credentialId, old.kind = .aiApiKey) →
      after.wallets = state.wallets →
      after.credentials = state.credentials.set credentialId credential → PairChange state after

/-- Every wallet has its own signer credential, in an allowed pair of statuses. -/
structure TenantState.Paired (state : TenantState) : Prop where
  pairs : ∀ walletId wallet, state.wallets.get? walletId = some wallet → ∃ credential,
    state.credentials.get? wallet.signerCredentialId = some credential ∧
      credential.accountId = wallet.accountId ∧ credential.kind = .evmSignerKey ∧
      (wallet.status, credential.status) ∈ allowedPairs
  own : ∀ walletId other wallet wallet', state.wallets.get? walletId = some wallet →
    state.wallets.get? other = some wallet' →
    wallet.signerCredentialId = wallet'.signerCredentialId → walletId = other

section Pairs

variable {state after : TenantState} {walletId : String} {wallet : TradingWallet}
  {credential : CredentialRef}

theorem TenantState.exhausted_iff {now : Instant} : TenantState.exhausted wallet now = true ↔
    wallet.status = .pendingVerification ∧ 5 ≤ wallet.lifecycleAttemptCount ∧ wallet.Unclaimed now :=
  decide_eq_true_iff

theorem TenantState.Paired.moved (paired : state.Paired) {wallet' : TradingWallet}
    {credential' : CredentialRef} (here : state.wallets.get? walletId = some wallet)
    (known : state.credentials.get? wallet.signerCredentialId = some credential)
    (signer : wallet'.signerCredentialId = wallet.signerCredentialId)
    (account : wallet'.accountId = wallet.accountId)
    (owner : credential'.accountId = credential.accountId)
    (kind : credential'.kind = credential.kind)
    (moves : WalletMoves (wallet.status, credential.status) (wallet'.status, credential'.status))
    (wallets : after.wallets = state.wallets.set walletId wallet')
    (credentials : ∀ id, after.credentials.get? id =
      (state.credentials.set wallet.signerCredentialId credential').get? id) : after.Paired where
  pairs := by
    intro id found there
    rw [wallets, Dict.get?_set_eq_some_iff] at there
    rcases there with ⟨rfl, rfl⟩ | ⟨other, there⟩
    · obtain ⟨old, known', account', kind', allowed⟩ := paired.pairs id wallet here
      obtain rfl : credential = old := Option.some.inj (known.symm.trans known')
      refine ⟨credential', ?_, by rw [owner, account', account], kind.trans kind',
        moves.allowed allowed⟩
      rw [credentials, signer, Dict.get?_set_self]
    · obtain ⟨old, known', rest⟩ := paired.pairs id found there
      refine ⟨old, ?_, rest⟩
      rw [credentials, Dict.get?_set_ne, known']
      exact fun same => other (paired.own id walletId found wallet there here same)
  own := by
    have back : ∀ id found, after.wallets.get? id = some found → ∃ old,
        state.wallets.get? id = some old ∧ old.signerCredentialId = found.signerCredentialId := by
      intro id found there
      rw [wallets, Dict.get?_set_eq_some_iff] at there
      rcases there with ⟨rfl, rfl⟩ | ⟨-, there⟩
      · exact ⟨wallet, here, signer.symm⟩
      · exact ⟨found, there, rfl⟩
    intro id other found found' there there' same
    obtain ⟨old, before, signer⟩ := back id found there
    obtain ⟨old', before', signer'⟩ := back other found' there'
    exact paired.own id other old old' before before' (by rw [signer, signer', same])

/-- A sweep moves the exhausted wallets and their credentials together. -/
theorem TenantState.Paired.swept (paired : state.Paired) (now : Instant) :
    (state.failExhausted now).Paired where
  pairs := by
    intro id found there
    rw [failExhausted, Dict.get?_map, Option.map_eq_some_iff] at there
    obtain ⟨old, here, rfl⟩ := there
    obtain ⟨credential, known, account, kind, allowed⟩ := paired.pairs id old here
    by_cases gone : exhausted old now = true
    · rw [if_pos gone]
      obtain ⟨pending, -⟩ := exhausted_iff.mp gone
      have waiting : credential.status = .pendingVerification := by
        rw [pending] at allowed
        revert allowed
        cases credential.status <;> decide
      have listed : state.exhaustedSigner old.signerCredentialId credential now = true := by
        rw [exhaustedSigner, Bool.and_eq_true, decide_eq_true_iff]
        refine ⟨List.any_eq_true.mpr ⟨old, Dict.mem_values_iff.mpr ⟨id, here⟩, ?_⟩, waiting⟩
        simp [gone, account]
      refine ⟨credential.revokedAs now, ?_, account, kind,
        show (WalletStatus.failed, CredentialStatus.revoked) ∈ allowedPairs by decide⟩
      change (state.credentials.map _).get? old.signerCredentialId = _
      rw [Dict.get?_map, known, Option.map_some, if_pos listed]
    · rw [if_neg gone]
      have unlisted : ¬ state.exhaustedSigner old.signerCredentialId credential now = true := by
        rw [exhaustedSigner, Bool.and_eq_true]
        rintro ⟨listed, -⟩
        obtain ⟨other, member, listed⟩ := List.any_eq_true.mp listed
        obtain ⟨otherId, there⟩ := Dict.mem_values_iff.mp member
        rw [Bool.and_eq_true, decide_eq_true_iff] at listed
        obtain rfl := paired.own id otherId old other here there listed.2.2.symm
        obtain rfl : old = other := Option.some.inj (here.symm.trans there)
        exact gone listed.1
      refine ⟨credential, ?_, account, kind, allowed⟩
      rw [failExhausted, Dict.get?_map, known, Option.map_some, if_neg unlisted]
  own := by
    intro id other found found' there there' same
    rw [failExhausted, Dict.get?_map, Option.map_eq_some_iff] at there there'
    obtain ⟨old, here, rfl⟩ := there
    obtain ⟨old', here', rfl⟩ := there'
    refine paired.own id other old old' here here' ?_
    have signer : ∀ wallet : TradingWallet,
        (if exhausted wallet now = true then exhaustedAs wallet else wallet).signerCredentialId =
          wallet.signerCredentialId := by
      intro wallet
      split <;> rfl
    rw [← signer old, ← signer old', same]

theorem TenantState.Paired.enrolled (paired : state.Paired) {enrollment : WalletEnrollment}
    {credentialId : String} {now : Instant} (unknown : state.credentials.get? credentialId = none) :
    (state.withPair walletId (enrollment.wallet credentialId now) credentialId
      enrollment.credential).Paired where
  pairs := by
    intro id found there
    rw [withPair, Dict.get?_set_eq_some_iff] at there
    rcases there with ⟨rfl, rfl⟩ | ⟨other, there⟩
    · exact ⟨enrollment.credential, Dict.get?_set_self _ _ _, rfl, rfl,
        show (WalletStatus.pendingVerification, CredentialStatus.pendingVerification) ∈
          allowedPairs by decide⟩
    · obtain ⟨credential, known, rest⟩ := paired.pairs id found there
      refine ⟨credential, ?_, rest⟩
      rw [withPair, Dict.get?_set_ne, known]
      rintro same
      rw [same, unknown] at known
      cases known
  own := by
    have old : ∀ id found, state.wallets.get? id = some found →
        found.signerCredentialId ≠ credentialId := by
      rintro id found there rfl
      obtain ⟨credential, known, -⟩ := paired.pairs id found there
      rw [unknown] at known
      cases known
    intro id other found found' there there' same
    rw [withPair, Dict.get?_set_eq_some_iff] at there there'
    rcases there with ⟨rfl, rfl⟩ | ⟨-, there⟩
    · rcases there' with ⟨rfl, -⟩ | ⟨-, there'⟩
      · rfl
      · exact absurd same.symm (old other found' there')
    · rcases there' with ⟨rfl, rfl⟩ | ⟨-, there'⟩
      · exact absurd same (old id found there)
      · exact paired.own id other found found' there there' same

/-- Every change keeps wallets and credentials paired. -/
theorem PairChange.paired (change : PairChange state after) (paired : state.Paired) :
    after.Paired := by
  cases change with
  | kept wallets credentials =>
      refine ⟨?_, ?_⟩
      · rw [wallets, credentials]
        exact paired.pairs
      · rw [wallets]
        exact paired.own
  | moved walletId wallet wallet' credential credential' here known signer account owner kind moves
      wallets credentials =>
      exact paired.moved here known signer account owner kind moves wallets credentials
  | swept now same =>
      rw [same]
      exact paired.swept now
  | enrolled enrollment walletId credentialId now unknown _ same =>
      rw [same]
      exact paired.enrolled unknown
  | stored credentialId credential ai wallets credentials =>
      refine ⟨?_, ?_⟩
      · intro id found there
        rw [wallets] at there
        obtain ⟨old, known, account, kind, allowed⟩ := paired.pairs id found there
        refine ⟨old, ?_, account, kind, allowed⟩
        rw [credentials, Dict.get?_set_ne, known]
        rintro rfl
        exact absurd ((ai old known).symm.trans kind) nofun
      · rw [wallets]
        exact paired.own

/-- The wallet's revocation was requested. -/
def TenantState.Closing (state : TenantState) (walletId : String) : Prop :=
  ∃ wallet, state.wallets.get? walletId = some wallet ∧ wallet.status.Closing

/-- A wallet on its way out stays on it. -/
theorem PairChange.closing (change : PairChange state after) (closing : state.Closing walletId) :
    after.Closing walletId := by
  obtain ⟨wallet, here, out⟩ := closing
  cases change with
  | kept wallets => exact ⟨wallet, by rw [wallets, here], out⟩
  | moved id old new credential credential' there known _ _ _ _ moves wallets =>
      by_cases same : walletId = id
      · subst same
        obtain rfl : wallet = old := Option.some.inj (here.symm.trans there)
        exact ⟨new, by rw [wallets, Dict.get?_set_self], moves.closing out⟩
      · exact ⟨wallet, by rw [wallets, Dict.get?_set_ne _ same, here], out⟩
  | swept now same =>
      refine ⟨wallet, ?_, out⟩
      have stays : TenantState.exhausted wallet now ≠ true := by
        intro gone
        obtain ⟨pending, -⟩ := TenantState.exhausted_iff.mp gone
        rw [pending] at out
        exact absurd out (by simp [WalletStatus.Closing])
      rw [same, TenantState.failExhausted, Dict.get?_map, here, Option.map_some, if_neg stays]
  | enrolled enrollment id credentialId now _ unknown same =>
      refine ⟨wallet, ?_, out⟩
      rw [same, TenantState.withPair, Dict.get?_set_ne, here]
      rintro rfl
      rw [unknown] at here
      cases here
  | stored _ _ _ wallets => exact ⟨wallet, by rw [wallets, here], out⟩

end Pairs

/-! ### What each function does -/

section Functions

variable {state next : TenantState} {accountId walletId claimedBy jobId : String}
  {wallet : TradingWallet} {fencingToken leaseSeconds : Int} {now : Instant} {granted : Bool}

theorem TenantState.walletOf_iff : state.walletOf accountId walletId = some wallet ↔
    state.wallets.get? walletId = some wallet ∧ wallet.accountId = accountId := by
  rw [walletOf, Option.filter_eq_some_iff, decide_eq_true_iff]

theorem TenantState.heldWallet_iff {statuses : List WalletStatus} :
    state.heldWallet accountId walletId claimedBy fencingToken statuses now = some wallet ↔
      state.walletOf accountId walletId = some wallet ∧ wallet.status ∈ statuses ∧
        wallet.HeldBy claimedBy fencingToken now := by
  rw [heldWallet, Option.filter_eq_some_iff, decide_eq_true_iff]

/-- The credential of a wallet, as the functions look it up. -/
theorem TenantState.Paired.signer (paired : state.Paired)
    (here : state.walletOf accountId walletId = some wallet) : ∃ credential,
      state.credentialOf accountId wallet.signerCredentialId = some credential ∧
        state.credentials.get? wallet.signerCredentialId = some credential ∧
        credential.kind = .evmSignerKey ∧ (wallet.status, credential.status) ∈ allowedPairs := by
  obtain ⟨there, account⟩ := walletOf_iff.mp here
  obtain ⟨credential, known, owner, kind, allowed⟩ := paired.pairs walletId wallet there
  refine ⟨credential, ?_, known, kind, allowed⟩
  rw [credentialOf, known, Option.filter_some, if_pos (decide_eq_true (owner.trans account))]

@[simp] theorem TenantState.updateCredential_wallets {credentialId : String}
    {update : CredentialRef → CredentialRef} :
    (state.updateCredential accountId credentialId update).wallets = state.wallets := by
  unfold updateCredential
  split <;> rfl

theorem TenantState.updateCredential_of {credentialId : String}
    {update : CredentialRef → CredentialRef} {credential : CredentialRef}
    (known : state.credentialOf accountId credentialId = some credential) :
    (state.updateCredential accountId credentialId update).credentials =
      state.credentials.set credentialId (update credential) := by
  rw [updateCredential, known]

/-- A write of the wallet alone that keeps its status. -/
theorem PairChange.of_wallet {after : TenantState} (wallet' : TradingWallet) (paired : state.Paired)
    (here : state.wallets.get? walletId = some wallet)
    (signer : wallet'.signerCredentialId = wallet.signerCredentialId)
    (account : wallet'.accountId = wallet.accountId) (status : wallet'.status = wallet.status)
    (wallets : after.wallets = state.wallets.set walletId wallet')
    (credentials : after.credentials = state.credentials) : PairChange state after := by
  obtain ⟨credential, known, -⟩ := paired.pairs walletId wallet here
  refine .moved walletId wallet wallet' credential credential here known signer account rfl rfl ?_
    wallets fun id => ?_
  · rw [status]
    exact .stayed _
  · rw [credentials, Dict.get?_set]
    split
    · rename_i same
      rw [same, known]
    · rfl

/-- A write of the wallet together with its credential. -/
theorem PairChange.of_pair {after : TenantState} (wallet' : TradingWallet)
    (update : CredentialRef → CredentialRef) (paired : state.Paired)
    (here : state.walletOf accountId walletId = some wallet)
    (signer : wallet'.signerCredentialId = wallet.signerCredentialId)
    (account : wallet'.accountId = wallet.accountId)
    (updates : ∀ credential, (update credential).accountId = credential.accountId ∧
      (update credential).kind = credential.kind)
    (moves : ∀ credential, (wallet.status, credential.status) ∈ allowedPairs →
      WalletMoves (wallet.status, credential.status) (wallet'.status, (update credential).status))
    (wallets : after.wallets = state.wallets.set walletId wallet')
    (credentials : after.credentials =
      (state.updateCredential accountId wallet.signerCredentialId update).credentials) :
    PairChange state after := by
  obtain ⟨credential, looked, known, kind, allowed⟩ := paired.signer here
  refine .moved walletId wallet wallet' credential (update credential)
    (TenantState.walletOf_iff.mp here).1 known signer account (updates credential).1
    (updates credential).2 (moves credential allowed) wallets fun id => ?_
  rw [credentials, TenantState.updateCredential_of looked]

theorem TenantState.import_change {enrollment : WalletEnrollment} {credentialId : String}
    (done : state.importTradingWallet enrollment walletId credentialId now = .ok (granted, next)) :
    PairChange state next := by
  unfold importTradingWallet at done
  rw [require_bind_ok_iff, require_bind_ok_iff] at done
  obtain ⟨-, -, done⟩ := done
  split at done
  · rw [require_bind_ok_iff] at done
    obtain ⟨-, done⟩ := done
    cases done
    exact .kept rfl rfl
  · split at done
    · rw [require_bind_ok_iff] at done
      obtain ⟨-, done⟩ := done
      cases done
      exact .kept rfl rfl
    · unfold enroll at done
      rw [require_bind_ok_iff, require_bind_ok_iff, require_bind_ok_iff, require_bind_ok_iff] at done
      obtain ⟨-, unknown, -, fresh, done⟩ := done
      cases done
      exact .enrolled enrollment walletId credentialId now unknown fresh rfl

/-- A granted request leaves the wallet on its way out. -/
theorem TenantState.request_change (paired : state.Paired)
    (done : state.requestTradingWalletRevocation accountId walletId now = .ok (granted, next)) :
    PairChange state next ∧ (granted = true → next.Closing walletId) := by
  unfold requestTradingWalletRevocation at done
  split at done
  · cases done
    refine ⟨.kept rfl rfl, ?_⟩
    intro granted
    cases granted
  · rename_i wallet here
    split at done
    · rename_i gone
      cases done
      refine ⟨.kept rfl rfl, fun _ => ⟨wallet, (walletOf_iff.mp here).1, gone.symm⟩⟩
    · rename_i waiting
      rw [not_or] at waiting
      split at done
      · rename_i inactive
        cases done
        refine ⟨.of_pair (wallet.discarded now)
          (fun credential => credential.revokedAs (credential.revokedAt.getD now)) paired here rfl rfl
          (fun _ => ⟨rfl, rfl⟩) (fun credential allowed => ?_)
          (congrArg (Dict.set · walletId _) updateCredential_wallets) rfl,
          fun _ => ⟨wallet.discarded now, Dict.get?_set_self _ _ _, .inr rfl⟩⟩
        refine .discarded _ _ ?_
        revert allowed inactive waiting
        cases wallet.status <;> simp [allowedPairs]
      · rename_i active
        rw [not_not] at active
        cases done
        refine ⟨.of_pair wallet.revoking
          (fun credential => if credential.status = .revoked then credential
            else credential.withStatus .revocationPending (by rintro ⟨⟩)) paired here rfl rfl
          (fun credential => ?_)
          (fun credential allowed => ?_) (congrArg (Dict.set · walletId _) updateCredential_wallets)
          rfl, fun _ => ⟨wallet.revoking, Dict.get?_set_self _ _ _, .inl rfl⟩⟩
        · split <;> exact ⟨rfl, rfl⟩
        · rw [active] at allowed ⊢
          have same : credential.status = .active := by
            revert allowed
            cases credential.status <;> simp [allowedPairs]
          rw [same, if_neg (by rintro ⟨⟩)]
          exact .revoking

/-- A claim sweeps the exhausted wallets before it takes one. -/
theorem TenantState.claim_change {tie : Nat} (paired : state.Paired)
    (done : state.claimTradingWalletLifecycle claimedBy leaseSeconds tie now = .ok (granted, next)) :
    PairChange state (state.failExhausted now) ∧ PairChange (state.failExhausted now) next := by
  refine ⟨.swept now rfl, ?_⟩
  unfold claimTradingWalletLifecycle at done
  rw [require_bind_ok_iff] at done
  obtain ⟨-, done⟩ := done
  dsimp only at done
  split at done
  · cases done
    exact .kept rfl rfl
  · rename_i id wallet chosen
    cases done
    have member := (List.mem_filter.mp (List.mem_filter.mp (List.mem_of_getElem? chosen)).1).1
    exact .of_wallet (wallet.claimedAs claimedBy leaseSeconds now) (paired.swept now) (Dict.get?_eq_some_iff.mpr member) rfl rfl rfl rfl rfl

theorem TenantState.heartbeat_change (paired : state.Paired)
    (done : state.heartbeatTradingWalletLifecycle accountId walletId claimedBy fencingToken
      leaseSeconds now = .ok (granted, next)) : PairChange state next := by
  unfold heartbeatTradingWalletLifecycle at done
  split at done
  · split at done
    · cases done
      exact .kept rfl rfl
    · rename_i wallet held
      cases done
      exact .of_wallet (wallet.extendedTo (now + seconds leaseSeconds)) paired
        (walletOf_iff.mp (heldWallet_iff.mp held).1).1 rfl rfl rfl rfl rfl
  · cases done
    exact .kept rfl rfl

theorem TenantState.verify_change {identity : WalletIdentity} (paired : state.Paired)
    (done : state.completeTradingWalletVerification accountId walletId claimedBy fencingToken identity
      now = .ok (granted, next)) : PairChange state next := by
  unfold completeTradingWalletVerification at done
  rw [require_bind_ok_iff] at done
  obtain ⟨-, done⟩ := done
  split at done
  · cases done
    exact .kept rfl rfl
  · rename_i wallet held
    obtain ⟨here, status, -⟩ := heldWallet_iff.mp held
    have pending : wallet.status = .pendingVerification := List.mem_singleton.mp status
    split at done
    · cases done
    · rename_i credential found
      rw [require_bind_ok_iff] at done
      obtain ⟨-, done⟩ := done
      cases done
      obtain ⟨looked, waits⟩ := Option.filter_eq_some_iff.mp found
      obtain ⟨kind, waiting⟩ := of_decide_eq_true waits
      obtain ⟨known, looked', there, -, -⟩ := paired.signer here
      obtain rfl : credential = known := Option.some.inj (looked.symm.trans looked')
      refine .moved walletId wallet (wallet.verifiedAs identity.lowered now) credential
        (credential.withStatus .active (by rintro ⟨⟩)) (walletOf_iff.mp here).1 there rfl rfl rfl rfl ?_
        rfl fun _ => rfl
      rw [pending, waiting]
      exact .verified

theorem TenantState.fail_change {errorCode : String} {retryable : Bool} (paired : state.Paired)
    (done : state.failTradingWalletVerification accountId walletId claimedBy fencingToken errorCode
      retryable now = .ok (granted, next)) : PairChange state next := by
  unfold failTradingWalletVerification at done
  rw [require_bind_ok_iff] at done
  obtain ⟨-, done⟩ := done
  split at done
  · cases done
    exact .kept rfl rfl
  · rename_i wallet held
    obtain ⟨here, status, -⟩ := heldWallet_iff.mp held
    have pending : wallet.status = .pendingVerification := List.mem_singleton.mp status
    cases done
    cases terminal : (!retryable || decide (5 ≤ wallet.lifecycleAttemptCount)) with
    | true =>
        refine .of_pair (wallet.failedAs true errorCode)
          (fun credential => credential.revokedAs now) paired here rfl rfl (fun _ => ⟨rfl, rfl⟩) (fun credential allowed => ?_)
          (congrArg (Dict.set · walletId _) updateCredential_wallets) rfl
        rw [pending] at allowed ⊢
        have same : credential.status = .pendingVerification := by
          revert allowed
          cases credential.status <;> simp [allowedPairs]
        rw [same]
        exact .failed
    | false =>
        exact .of_wallet (wallet.failedAs false errorCode) paired (walletOf_iff.mp here).1 rfl rfl
          pending.symm rfl rfl

/-- The end of a revocation moves the pair only while no order of the account may be live. -/
theorem TenantState.revoke_change (paired : state.Paired)
    (done : state.completeTradingWalletRevocation accountId walletId claimedBy fencingToken now =
      .ok (granted, next)) :
    PairChange state next ∧ (next.credentials ≠ state.credentials →
      ∀ order ∈ state.ordersOf accountId, RuntimeState.potentiallyLive order = false) := by
  unfold completeTradingWalletRevocation at done
  split at done
  · cases done
    exact ⟨.kept rfl rfl, fun changed => absurd rfl changed⟩
  · rename_i wallet held
    obtain ⟨here, status, -⟩ := heldWallet_iff.mp held
    have pending : wallet.status = .revocationPending := List.mem_singleton.mp status
    split at done
    · cases done
      exact ⟨.kept rfl rfl, fun changed => absurd rfl changed⟩
    · rename_i resolved
      cases done
      refine ⟨.of_pair (wallet.revokedAs now) (fun credential => credential.revokedAs now)
        paired here rfl rfl (fun _ => ⟨rfl, rfl⟩) (fun credential allowed => ?_) (congrArg (Dict.set · walletId _) updateCredential_wallets)
        rfl, fun _ order member => ?_⟩
      · rw [pending] at allowed ⊢
        have same : credential.status = .revocationPending := by
          revert allowed
          cases credential.status <;> simp [allowedPairs]
        rw [same]
        exact .revoked
      · rw [Bool.eq_false_iff]
        exact fun live => resolved ⟨order, member, live⟩

theorem TenantState.record_change {balancePusd : ℚ} {allowancesReady : Bool} (paired : state.Paired)
    (done : state.recordWalletReadiness accountId walletId balancePusd allowancesReady now =
      .ok (granted, next)) : PairChange state next := by
  unfold recordWalletReadiness at done
  rw [require_bind_ok_iff] at done
  obtain ⟨-, done⟩ := done
  split at done
  · cases done
    exact .kept rfl rfl
  · rename_i wallet found
    cases done
    exact .of_wallet (wallet.observedAs ⟨balancePusd, allowancesReady, now⟩) paired
      (walletOf_iff.mp (Option.filter_eq_some_iff.mp found).1).1 rfl rfl rfl rfl rfl

theorem TenantState.ensure_tables {newRiskId : String} {profile : RuntimeProfile}
    (done : state.ensureAccountRuntimeProfile accountId newRiskId = .ok (profile, next)) :
    next.wallets = state.wallets ∧ next.credentials = state.credentials := by
  unfold ensureAccountRuntimeProfile at done
  obtain ⟨⟨riskId, mid⟩, first, done⟩ := bind_ok_iff.mp done
  cases done
  unfold ensureRiskPolicy at first
  split at first
  · cases first
    exact ⟨rfl, rfl⟩
  · rw [require_bind_ok_iff] at first
    obtain ⟨-, first⟩ := first
    cases first
    exact ⟨rfl, rfl⟩

theorem TenantState.enqueue_change {request : JobRequest} {newRiskId : String}
    (done : state.enqueueCycleJob request jobId newRiskId now = .ok (granted, next)) :
    PairChange state next := by
  unfold enqueueCycleJob at done
  rw [require_bind_ok_iff] at done
  obtain ⟨-, done⟩ := done
  obtain ⟨⟨profile, mid⟩, ensured, done⟩ := bind_ok_iff.mp done
  obtain ⟨wallets, credentials⟩ := ensure_tables ensured
  dsimp only at done
  split at done
  · rw [require_bind_ok_iff] at done
    obtain ⟨-, done⟩ := done
    cases done
    exact .kept wallets credentials
  · simp only [require_bind_ok_iff] at done
    obtain ⟨-, -, -, -, -, -, -, done⟩ := done
    cases done
    exact .kept wallets credentials

theorem TenantState.claimJob_change {account : Option String} {tie : Nat}
    (done : state.claimNextCycleJob claimedBy leaseSeconds account tie now = .ok (granted, next)) :
    PairChange state next := by
  unfold claimNextCycleJob at done
  rw [require_bind_ok_iff] at done
  obtain ⟨-, done⟩ := done
  dsimp only at done
  split at done
  · cases done
    exact .kept rfl rfl
  · cases done
    exact .kept rfl rfl

/-- An update of a job that is not held changes nothing. -/
theorem TenantState.updateHeldJob_cases {update : CycleJob → Option CycleJob}
    (done : state.updateHeldJob accountId jobId claimedBy fencingToken now update = (granted, next)) :
    PairChange state next ∧ (state.UnheldJob accountId jobId claimedBy fencingToken now →
      next = state) := by
  unfold updateHeldJob at done
  split at done
  · cases done
    exact ⟨.kept rfl rfl, fun _ => rfl⟩
  · rename_i job found
    cases done
    refine ⟨.kept rfl rfl, fun unheld => ?_⟩
    obtain ⟨held, here, -⟩ := Option.bind_eq_some_iff.mp found
    obtain ⟨there, mine⟩ := Option.filter_eq_some_iff.mp here
    obtain ⟨account, holds⟩ := of_decide_eq_true mine
    exact absurd holds (unheld held there account)

/-- A submission that passes has a running job with an active wallet; it writes no
wallet and no credential. -/
theorem TenantState.mark_cases {submission : Submission}
    (done : state.markTenantOrderSubmitting submission now = .ok (granted, next)) :
    granted = false ∧ next = state ∨
      state.Authorised submission now ∧ next.wallets = state.wallets ∧
        next.credentials = state.credentials := by
  unfold markTenantOrderSubmitting at done
  split at done
  · rename_i authorised
    rw [require_bind_ok_iff] at done
    obtain ⟨-, done⟩ := done
    cases done
    exact .inr ⟨authorised.2, rfl, rfl⟩
  · cases done
    exact .inl ⟨rfl, rfl⟩

end Functions

/-! ### Steps -/

section Steps

variable {state after next : TenantState} {label : TenantLabel} {walletId : String}

/-- A call changes the pairs in one step, or in two where it sweeps first. -/
theorem TenantCall.changes {call : TenantCall} {now : Instant} {granted : Bool}
    (paired : state.Paired) (done : call.serve state now = .ok (granted, next)) :
    Relation.ReflTransGen PairChange state next := by
  cases call with
  | importWallet enrollment walletId credentialId => exact .single (TenantState.import_change done)
  | requestRevocation accountId walletId =>
      exact .single (TenantState.request_change paired done).1
  | claimLifecycle claimedBy leaseSeconds tie =>
      obtain ⟨swept, taken⟩ := TenantState.claim_change paired done
      exact .tail (.single swept) taken
  | heartbeatLifecycle accountId walletId claimedBy fencingToken leaseSeconds =>
      exact .single (TenantState.heartbeat_change paired done)
  | completeVerification accountId walletId claimedBy fencingToken identity =>
      exact .single (TenantState.verify_change paired done)
  | failVerification accountId walletId claimedBy fencingToken errorCode retryable =>
      exact .single (TenantState.fail_change paired done)
  | completeRevocation accountId walletId claimedBy fencingToken =>
      exact .single (TenantState.revoke_change paired done).1
  | recordReadiness accountId walletId balancePusd allowancesReady =>
      exact .single (TenantState.record_change paired done)
  | enqueueJob request jobId newRiskId => exact .single (TenantState.enqueue_change done)
  | claimJob claimedBy leaseSeconds accountId tie =>
      exact .single (TenantState.claimJob_change done)
  | heartbeatJob accountId jobId claimedBy fencingToken leaseSeconds =>
      change state.heartbeatCycleJob accountId jobId claimedBy fencingToken leaseSeconds now = _ at done
      unfold TenantState.heartbeatCycleJob at done
      split at done
      · exact .single (TenantState.updateHeldJob_cases (Except.ok.inj done)).1
      · cases done
        exact .refl
  | markJobRunning accountId jobId claimedBy fencingToken =>
      exact .single (TenantState.updateHeldJob_cases (Except.ok.inj done)).1
  | completeJob accountId jobId claimedBy fencingToken resultSummary =>
      exact .single (TenantState.updateHeldJob_cases (Except.ok.inj done)).1
  | failJob accountId jobId claimedBy fencingToken errorCode retryable =>
      obtain ⟨-, done⟩ := require_bind_ok_iff.mp done
      exact .single (TenantState.updateHeldJob_cases (Except.ok.inj done)).1
  | markSubmitting submission =>
      rcases TenantState.mark_cases done with ⟨-, rfl⟩ | ⟨-, wallets, credentials⟩
      · exact .refl
      · exact .single (.kept wallets credentials)
  | storeAiCredential credentialId credential =>
      obtain ⟨⟨-, ai⟩, done⟩ := require_bind_ok_iff.mp done
      cases done
      exact .single (.stored credentialId credential ai rfl rfl)
  | storeTables tables =>
      cases done
      exact .single (.kept rfl rfl)

theorem TenantStep.changes (paired : state.Paired) (step : TenantStep state label after) :
    Relation.ReflTransGen PairChange state after := by
  cases step with
  | served next later done =>
      exact .tail (TenantCall.changes paired done) (.kept rfl rfl)
  | rolledBack => exact .single (.kept rfl rfl)

theorem TenantStep.paired (paired : state.Paired) (step : TenantStep state label after) :
    after.Paired := by
  have changes := step.changes paired
  clear step
  induction changes with
  | refl => exact paired
  | tail _ last ih => exact last.paired ih

theorem TenantStep.closing (paired : state.Paired) (step : TenantStep state label after)
    (closing : state.Closing walletId) : after.Closing walletId := by
  have changes := step.changes paired
  clear step
  induction changes with
  | refl => exact closing
  | tail _ last ih => exact last.closing ih

/-- A call by somebody who does not hold the lifecycle finds no wallet. -/
theorem TenantState.heldWallet_of_unheld {accountId claimedBy : String} {fencingToken : Int}
    {statuses : List WalletStatus} {now : Instant}
    (unheld : state.Unheld accountId walletId claimedBy fencingToken now) :
    state.heldWallet accountId walletId claimedBy fencingToken statuses now = none := by
  rw [heldWallet, Option.filter_eq_none_iff]
  intro wallet here holds
  exact unheld wallet here (of_decide_eq_true holds).2

/-- A stale call that is served leaves the tables as they were. -/
theorem TenantCall.stale {call : TenantCall} {now : Instant} {granted : Bool}
    (done : call.serve state now = .ok (granted, next)) (stale : StaleCall state now call) :
    next = state := by
  cases call with
  | heartbeatLifecycle accountId walletId claimedBy fencingToken leaseSeconds =>
      change state.heartbeatTradingWalletLifecycle accountId walletId claimedBy fencingToken
        leaseSeconds now = _ at done
      unfold TenantState.heartbeatTradingWalletLifecycle at done
      rw [TenantState.heldWallet_of_unheld stale] at done
      split at done <;> cases done <;> rfl
  | completeVerification accountId walletId claimedBy fencingToken identity =>
      obtain ⟨-, done⟩ := require_bind_ok_iff.mp done
      rw [TenantState.heldWallet_of_unheld stale] at done
      cases done
      rfl
  | failVerification accountId walletId claimedBy fencingToken errorCode retryable =>
      obtain ⟨-, done⟩ := require_bind_ok_iff.mp done
      rw [TenantState.heldWallet_of_unheld stale] at done
      cases done
      rfl
  | completeRevocation accountId walletId claimedBy fencingToken =>
      change state.completeTradingWalletRevocation accountId walletId claimedBy fencingToken now = _
        at done
      unfold TenantState.completeTradingWalletRevocation at done
      rw [TenantState.heldWallet_of_unheld stale] at done
      cases done
      rfl
  | heartbeatJob accountId jobId claimedBy fencingToken leaseSeconds =>
      change state.heartbeatCycleJob accountId jobId claimedBy fencingToken leaseSeconds now = _ at done
      unfold TenantState.heartbeatCycleJob at done
      split at done
      · exact (TenantState.updateHeldJob_cases (Except.ok.inj done)).2 stale
      · cases done
        rfl
  | markJobRunning accountId jobId claimedBy fencingToken =>
      exact (TenantState.updateHeldJob_cases (Except.ok.inj done)).2 stale
  | completeJob accountId jobId claimedBy fencingToken resultSummary =>
      exact (TenantState.updateHeldJob_cases (Except.ok.inj done)).2 stale
  | failJob accountId jobId claimedBy fencingToken errorCode retryable =>
      obtain ⟨-, done⟩ := require_bind_ok_iff.mp done
      exact (TenantState.updateHeldJob_cases (Except.ok.inj done)).2 stale
  | markSubmitting submission =>
      rcases TenantState.mark_cases done with ⟨-, same⟩ | ⟨authorised, -⟩
      · exact same
      · obtain ⟨-, -, -, job, here, runs, -⟩ := authorised
        exact absurd runs.2.1 (stale job here runs.1)
  | _ => exact stale.elim

end Steps

/-! ### Whole runs -/

section Whole

variable {start state : TenantState} {history : List TenantLabel}

theorem paired_of_run (empty : start.wallets = Dict.empty) (run : Run TenantStep start history state) :
    state.Paired := by
  refine run.invariant (fun _ _ _ paired step => step.paired paired) ⟨?_, ?_⟩
  · intro id wallet here
    rw [empty, Dict.get?_empty] at here
    cases here
  · intro id other wallet wallet' here
    rw [empty, Dict.get?_empty] at here
    cases here

/-- Wallets and their credentials keep together, and a wallet whose revocation was
requested signs no more, in every run from tables without wallets. -/
theorem wallets_kept (empty : start.wallets = Dict.empty) : WalletsKept start where
  paired := by
    intro history state walletId wallet run here
    exact (paired_of_run empty run).pairs walletId wallet here
  stale := by
    intro history state label after _ step stale
    cases step with
    | served next later done => rw [TenantCall.stale done stale]
    | rolledBack => rfl
  never_signs := by
    intro front between s t u v request mark accountId walletId submission job before requests
      granted requested meanwhile marks passed marked here uses
    have paired := paired_of_run empty before
    have closing : t.Closing walletId := by
      cases requests with
      | rolledBack _ refused => exact absurd (granted.symm.trans refused) nofun
      | served next later done =>
          rw [requested] at done
          exact (TenantState.request_change paired done).2 granted
    have closed : u.Closing walletId :=
      (meanwhile.invariant (P := fun state => state.Paired ∧ state.Closing walletId)
        (fun _ _ _ known step => ⟨step.paired known.1, step.closing known.1 known.2⟩)
        ⟨requests.paired paired, closing⟩).2
    cases marks with
    | rolledBack _ refused => exact absurd (passed.symm.trans refused) nofun
    | served next later done =>
        rw [marked] at done
        rcases TenantState.mark_cases done with ⟨refused, -⟩ | ⟨authorised, -⟩
        · exact absurd (passed.symm.trans refused) nofun
        · obtain ⟨-, -, -, found, there, -, -, -, id, traded, wallet, known, active, -⟩ := authorised
          obtain rfl : job = found := Option.some.inj (here.symm.trans there)
          obtain rfl : walletId = id := Option.some.inj (uses.symm.trans traded)
          obtain ⟨closing', known', out⟩ := closed
          obtain rfl : wallet = closing' :=
            Option.some.inj ((TenantState.walletOf_iff.mp known).1.symm.trans known')
          rw [active] at out
          exact absurd out (by simp [WalletStatus.Closing])
  resolved := by
    intro history state label after accountId walletId claimedBy fencingToken run step called changed
    cases step with
    | rolledBack => exact absurd rfl changed
    | served next later done =>
        rw [called] at done
        exact (TenantState.revoke_change (paired_of_run empty run) done).2 changed

end Whole

/-- Tables without rows. -/
def emptyTenants : TenantState :=
  ⟨0, .empty, .empty, .empty, .empty, .empty, .empty, .empty, .empty, .empty⟩

/-- The tables after a call that is served. -/
def TenantState.after (state : TenantState) (call : TenantCall) (now : Instant) : TenantState :=
  match call.serve state now with
  | .ok (_, next) => next.at now
  | .error _ => state.at now

def exampleEnrollment : WalletEnrollment :=
  ⟨"account", none, none, 3, "enrollment-key-0001",
    ⟨"A256GCM", 1, 1, "nonce-of-16-chars", "a-ciphertext-of-20-characters", none,
      "0123456789abcdef0123456789abcdef0123456789abcdef0123456789abcdef", "cdef"⟩⟩

/-- A wallet is enrolled, claimed and verified, and its revocation is requested, claimed and
completed. -/
def exampleLife : List TenantCall :=
  [.importWallet exampleEnrollment "wallet" "signer", .claimLifecycle "worker" 60 0,
    .completeVerification "account" "wallet" "worker" 1
      ⟨"0x1111111111111111111111111111111111111111",
        "0x2222222222222222222222222222222222222222", 137,
        "0x3333333333333333333333333333333333333333"⟩,
    .requestRevocation "account" "wallet", .claimLifecycle "worker" 60 0,
    .completeRevocation "account" "wallet" "worker" 2]

/-- The statuses of the wallet and its credential. -/
def exampleStatuses (state : TenantState) : Option WalletStatus × Option CredentialStatus :=
  ((state.wallets.get? "wallet").map TradingWallet.status,
    (state.credentials.get? "signer").map CredentialRef.status)

theorem exampleLife_kept : WalletsKept emptyTenants ∧
    [1, 3, 4, 6].map (fun calls => exampleStatuses ((exampleLife.take calls).foldl
      (fun state call => state.after call 1) emptyTenants)) =
      [(some .pendingVerification, some .pendingVerification), (some .active, some .active),
        (some .revocationPending, some .revocationPending), (some .revoked, some .revoked)] :=
  ⟨wallets_kept rfl, by decide⟩

end Polybot
