/-
The host's half of a lease (`recovery_store_host_lease.rs`,
`recovery_store_host_lease_ack.rs`, `recovery_store_host_lease_renew.rs`,
`recovery_store_host_lease_revoke.rs`).

* `prepareHostLeaseInstall`, `setHostLeaseGrantDigest`, `completeHostAck`: the
  installation and its acknowledgment;
* `prepareHostLeaseRenew`, `completeHostLeaseRenew`: a renewal in two halves, with
  the pending sequence and deadline kept in between;
* `beginHostLeaseRevoke`, `completeHostLeaseRevoke`,
  `invalidateHostLeasesForRestart`: the end of an installation.
-/
import Mathlib.Tactic
import Sts2Gateway.Recovery.Authority

namespace Sts2Gateway.Recovery

open Procedure Relational Text

/-- The digest check of the host modules, whose message differs. -/
def validateHostDigest (value name : String) : Except RecoveryStoreError Unit :=
  refuse (value.utf8ByteSize ≠ 64 ∨
      ¬ allBytes value fun byte => isHexDigit byte && !isAsciiUppercase byte)
    (.invalidInput (name ++ " must be a lowercase SHA-256 digest"))

inductive HostAckKind where
  | install
  | renew
  | revoke
deriving DecidableEq, Repr

def HostAckKind.state : HostAckKind → RecoveryHostLeaseState
  | .install | .renew => .installed
  | .revoke => .hostRevoked

def HostAckKind.pending : HostAckKind → RecoveryHostLeaseState
  | .install => .pendingHostInstall
  | .renew => .pendingHostRenew
  | .revoke => .pendingHostRevoke

def LeaseRow.binding (row : LeaseRow) : RecoveryHostLeaseBinding where
  leaseId := row.leaseId
  installationId := row.hostInstallationId
  grantDigest := row.hostGrantDigest
  state := row.hostState
  hostInstallGeneration := row.hostInstallGeneration
  hostRenewSequence := row.hostRenewSequence
  hostAckMessageId := row.hostAckMessageId
  hostAckRecordedAtMillis := row.hostAckRecordedAtMillis

/-! ### Row changes -/

/-- The host columns of a pending installation. -/
def LeaseRow.prepareInstall (row : LeaseRow) (hostFenceId : String) (hostFenceGeneration : ℕ)
    (installationId grantDigest : String) : LeaseRow :=
  { row with
    hostFenceId := some hostFenceId
    hostFenceGeneration := some hostFenceGeneration
    hostInstallationId := some installationId
    hostGrantDigest := some grantDigest
    hostState := .pendingHostInstall
    hostInstallGeneration := 0
    hostRenewSequence := 0
    hostAckMessageId := none
    hostAckRecordedAtMillis := none
    pendingExpiresAtMillis := none
    pendingRenewSequence := none }

/-- The host columns that an acknowledgment sets. -/
def LeaseRow.acknowledge (row : LeaseRow) (state : RecoveryHostLeaseState)
    (hostInstallGeneration renewSequence : ℕ) (ackMessageId : String)
    (ackRecordedAtMillis : ℕ) : LeaseRow :=
  { row with
    hostState := state
    hostInstallGeneration
    hostRenewSequence := renewSequence
    hostAckMessageId := some ackMessageId
    hostAckRecordedAtMillis := some ackRecordedAtMillis }

def LeaseRow.prepareRenew (row : LeaseRow) (expires renewSequence : ℕ) : LeaseRow :=
  { row with
    hostState := .pendingHostRenew
    pendingExpiresAtMillis := some expires
    pendingRenewSequence := some renewSequence }

/-- An acknowledged renewal: the pending deadline and sequence become the lease's own. -/
def LeaseRow.completeRenew (row : LeaseRow) (hostInstallGeneration renewSequence : ℕ)
    (ackMessageId : String) (ackRecordedAtMillis expires : ℕ) : LeaseRow :=
  { row.acknowledge .installed hostInstallGeneration renewSequence ackMessageId
      ackRecordedAtMillis with
    expiresAtMillis := expires
    lastRenewSequence := renewSequence
    pendingExpiresAtMillis := none
    pendingRenewSequence := none }

def LeaseRow.beginRevoke (row : LeaseRow) (reason : String) : LeaseRow :=
  { row.revoke reason with hostState := .pendingHostRevoke }

def LeaseRow.setGrantDigest (row : LeaseRow) (grantDigest : String) : LeaseRow :=
  { row with hostGrantDigest := some grantDigest }

namespace LeaseRow

variable (row : LeaseRow) (installationId grantDigest ackMessageId : String)
  (expires renewSequence hostInstallGeneration ackRecordedAtMillis : ℕ)

@[simp] lemma leaseId_prepareInstall (hostFenceId : String) (hostFenceGeneration : ℕ) :
    (row.prepareInstall hostFenceId hostFenceGeneration installationId grantDigest).leaseId =
      row.leaseId := rfl

@[simp] lemma leaseId_acknowledge (state : RecoveryHostLeaseState) :
    (row.acknowledge state hostInstallGeneration renewSequence ackMessageId
      ackRecordedAtMillis).leaseId = row.leaseId := rfl

@[simp] lemma leaseId_prepareRenew :
    (row.prepareRenew expires renewSequence).leaseId = row.leaseId := rfl

@[simp] lemma leaseId_completeRenew :
    (row.completeRenew hostInstallGeneration renewSequence ackMessageId ackRecordedAtMillis
      expires).leaseId = row.leaseId := rfl

@[simp] lemma leaseId_beginRevoke (reason : String) :
    (row.beginRevoke reason).leaseId = row.leaseId := rfl

@[simp] lemma leaseId_setGrantDigest : (row.setGrantDigest grantDigest).leaseId = row.leaseId := rfl

end LeaseRow

namespace GatewayRecoveryStore

variable (store : GatewayRecoveryStore)

def hostLeaseBinding (leaseId : String) :
    Except RecoveryStoreError (Option RecoveryHostLeaseBinding) := do
  validateUuidV4 "lease_id" leaseId
  return (store.leases.find? leaseId).map LeaseRow.binding

def hostLeaseIsReady (leaseId : String) : Except RecoveryStoreError Bool := do
  let binding ← store.hostLeaseBinding leaseId
  return binding.any fun b => b.state = .installed

def requireLease (leaseId : String) : Except RecoveryStoreError LeaseRow :=
  (store.leases.find? leaseId).elim (.error .leaseNotFound) .ok

lemma requireLease_eq_ok {store : GatewayRecoveryStore} {leaseId : String} {row : LeaseRow} :
    store.requireLease leaseId = .ok row ↔ store.leases.find? leaseId = some row := by
  rw [requireLease]
  cases store.leases.find? leaseId <;> simp

/-- A statement on the rows that `due` selects, which must be exactly one, and the
binding of the lease afterwards. -/
def updateBinding (leaseId : String) (due : LeaseRow → Bool) (set : LeaseRow → LeaseRow)
    (hset : ∀ row, (set row).leaseId = row.leaseId) :
    Except RecoveryStoreError (RecoveryHostLeaseBinding × GatewayRecoveryStore) := do
  refuse (store.leases.count due ≠ 1) .staleLease
  let leases := store.leases.update due set hset
  match leases.find? leaseId with
  | some row => return (row.binding, { store with leases })
  | none => .error .leaseNotFound

lemma updateBinding_eq_ok {store : GatewayRecoveryStore} {leaseId : String} {due : LeaseRow → Bool}
    {set : LeaseRow → LeaseRow} {hset : ∀ row, (set row).leaseId = row.leaseId}
    {binding : RecoveryHostLeaseBinding} {after : GatewayRecoveryStore}
    (h : store.updateBinding leaseId due set hset = .ok (binding, after)) :
    store.leases.count due = 1 ∧ after = { store with leases := store.leases.update due set hset } := by
  simp only [updateBinding, except_bind_eq_ok, refuse_eq_ok, not_not] at h
  obtain ⟨_, hone, h⟩ := h
  split at h
  · cases h
    exact ⟨hone, rfl⟩
  · cases h

/-! ### Installation -/

def prepareHostLeaseInstall (leaseId installationId grantDigest hostFenceId : String)
    (hostFenceGeneration nowMillis : ℕ) :
    Except RecoveryStoreError (RecoveryHostLeaseBinding × GatewayRecoveryStore) := do
  validateUuidV4 "lease_id" leaseId
  validateUuidV4 "installation_id" installationId
  validateHostDigest grantDigest "grant_digest"
  validateUuidV4 "host_fence_id" hostFenceId
  validateWire hostFenceGeneration "host_fence_generation"
  validateWire nowMillis "now_millis"
  let row ← store.requireLease leaseId
  refuse (row.expiresAtMillis ≤ nowMillis) .leaseExpired
  row.status.requireActive
  let authority ← store.authority.elim (.error .authorityNotFound) .ok
  refuse (authority.state ≠ .ready ∨ authority.deploymentId ≠ row.deploymentId ∨
      authority.instanceId ≠ row.instanceId ∨
      authority.instanceIncarnation ≠ row.instanceIncarnation ∨
      authority.bootId ≠ row.bootId ∨ authority.authorityGeneration ≠ row.authorityGeneration ∨
      authority.fence.map (·.hostFenceId) ≠ some hostFenceId ∨
      authority.fence.map (·.fenceGeneration) ≠ some hostFenceGeneration)
    .staleLease
  match row.hostInstallationId with
  | some existing => do
    refuse (existing ≠ installationId ∨ row.hostGrantDigest ≠ some grantDigest) .operationConflict
    refuse (row.hostState ≠ .pendingHostInstall ∧ row.hostState ≠ .installed) .operationConflict
    return (row.binding, store)
  | none => do
    refuse (store.leases.rows.any fun r =>
        decide (r.hostInstallationId = some installationId) && decide (r.leaseId ≠ leaseId))
      .operationConflict
    store.updateBinding leaseId (fun r => decide (r.leaseId = leaseId) && r.isActive)
      (fun r => r.prepareInstall hostFenceId hostFenceGeneration installationId grantDigest)
      fun r => r.leaseId_prepareInstall installationId grantDigest hostFenceId hostFenceGeneration

def setHostLeaseGrantDigest (leaseId installationId grantDigest : String) :
    Except RecoveryStoreError (Unit × GatewayRecoveryStore) := do
  validateUuidV4 "lease_id" leaseId
  validateUuidV4 "installation_id" installationId
  validateHostDigest grantDigest "grant_digest"
  let due := fun r : LeaseRow => decide (r.leaseId = leaseId) &&
    decide (r.hostInstallationId = some installationId ∧
      (r.hostState = .pendingHostInstall ∨ r.hostState = .pendingHostRenew ∨
        r.hostState = .pendingHostRevoke))
  refuse (store.leases.count due ≠ 1) .staleLease
  return ((), { store with
    leases := store.leases.update due (fun r => r.setGrantDigest grantDigest)
      fun r => r.leaseId_setGrantDigest grantDigest })

def completeHostAck (kind : HostAckKind) (leaseId installationId grantDigest : String)
    (hostInstallGeneration renewSequence : ℕ) (ackMessageId : String) (ackRecordedAtMillis : ℕ) :
    Except RecoveryStoreError (RecoveryHostLeaseBinding × GatewayRecoveryStore) := do
  validateUuidV4 "lease_id" leaseId
  validateUuidV4 "installation_id" installationId
  validateHostDigest grantDigest "grant_digest"
  validateWire hostInstallGeneration "host_install_generation"
  validateWire renewSequence "renew_sequence"
  validateUuidV4 "ack_message_id" ackMessageId
  validateWire ackRecordedAtMillis "ack_recorded_at_millis"
  refuse (hostInstallGeneration = 0) (.invalidInput "host_install_generation must be positive")
  let row ← store.requireLease leaseId
  -- a revoked lease is past its deadline when a late acknowledgment closes it
  refuse (kind ≠ .revoke ∧ row.expiresAtMillis ≤ ackRecordedAtMillis) .leaseExpired
  refuse (row.hostInstallationId ≠ some installationId ∨ row.hostGrantDigest ≠ some grantDigest)
    .staleLease
  if row.hostState = kind.state ∧ row.hostInstallGeneration = hostInstallGeneration ∧
      (kind ≠ .renew ∨ row.hostRenewSequence = renewSequence) then
    return (row.binding, store)
  else do
    refuse (row.hostState ≠ kind.pending) .staleLease
    store.updateBinding leaseId
      (fun r => decide (r.leaseId = leaseId) && decide (r.hostState = kind.pending ∧
        r.hostInstallationId = some installationId ∧ r.hostGrantDigest = some grantDigest))
      (fun r => r.acknowledge kind.state hostInstallGeneration renewSequence ackMessageId
        ackRecordedAtMillis)
      fun r => r.leaseId_acknowledge ackMessageId renewSequence hostInstallGeneration
        ackRecordedAtMillis kind.state

def completeHostLeaseInstall (leaseId installationId grantDigest : String)
    (hostInstallGeneration : ℕ) (ackMessageId : String) (ackRecordedAtMillis : ℕ) :
    Except RecoveryStoreError (RecoveryHostLeaseBinding × GatewayRecoveryStore) :=
  store.completeHostAck .install leaseId installationId grantDigest hostInstallGeneration 0
    ackMessageId ackRecordedAtMillis

/-! ### Renewal -/

section Token

variable [Sha256]

/-- The first half of a renewal: the deadline of the lease does not move yet. -/
def prepareHostLeaseRenew (proof : RecoveryLeaseProof) (renewSequence nowMillis : ℕ) :
    Except RecoveryStoreError (RecoveryLease × GatewayRecoveryStore) := do
  validateWire renewSequence "renew_sequence"
  validateWire nowMillis "now_millis"
  refuse (renewSequence = 0) (.invalidInput "renew_sequence must be positive")
  validateLeaseProofShape proof
  let current ← store.ensureContext proof nowMillis
  let row ← store.requireLease proof.leaseId
  refuse (row.hostState ≠ .installed ∧ row.hostState ≠ .pendingHostRenew) .hostFenceRequired
  if row.hostState = .pendingHostRenew then
    match row.pendingExpiresAtMillis with
    | some expires =>
      if row.pendingRenewSequence = some renewSequence then
        return ({ current with
          expiresAtMillis := expires
          lastRenewSequence := renewSequence }, store)
      else .error .staleLease
    | none => .error .staleLease
  else do
    refuse (renewSequence ≤ current.lastRenewSequence) .staleLease
    let ttlMillis ← checkedMul current.ttlSeconds 1000
    let candidate ← checkedAdd nowMillis ttlMillis
    let expires := max current.expiresAtMillis candidate
    refuse (expires ≤ current.expiresAtMillis) .leaseExpired
    let due := fun r : LeaseRow => decide (r.leaseId = proof.leaseId) &&
      (r.isActive && decide (r.hostState = .installed ∧ r.lastRenewSequence < renewSequence))
    refuse (store.leases.count due ≠ 1) .staleLease
    return ({ current with
        expiresAtMillis := expires
        lastRenewSequence := renewSequence },
      { store with
        leases := store.leases.update due (fun r => r.prepareRenew expires renewSequence)
          fun r => r.leaseId_prepareRenew expires renewSequence })

end Token

/-- The checks of the second half, which find the lease, and whether the same
acknowledgment has already been taken. -/
def admitHostLeaseRenew (leaseId installationId grantDigest : String)
    (renewSequence expiresAtMillis hostInstallGeneration : ℕ) (ackMessageId : String)
    (ackRecordedAtMillis : ℕ) : Except RecoveryStoreError (LeaseRow × Bool) := do
  validateUuidV4 "lease_id" leaseId
  validateUuidV4 "installation_id" installationId
  validateHostDigest grantDigest "grant_digest"
  validateWire renewSequence "renew_sequence"
  validateWire expiresAtMillis "expires_at_millis"
  validateUuidV4 "ack_message_id" ackMessageId
  validateWire hostInstallGeneration "host_install_generation"
  validateWire ackRecordedAtMillis "ack_recorded_at_millis"
  refuse (renewSequence = 0) (.invalidInput "renew_sequence must be positive")
  refuse (expiresAtMillis = 0 ∨ hostInstallGeneration = 0)
    (.invalidInput "renewal expiry and host generation must be positive")
  let row ← store.requireLease leaseId
  refuse (row.hostInstallationId ≠ some installationId) .staleLease
  refuse (expiresAtMillis ≤ ackRecordedAtMillis) .leaseExpired
  if row.hostState = .installed ∧ row.hostInstallGeneration = hostInstallGeneration ∧
      row.hostRenewSequence = renewSequence ∧ row.hostGrantDigest = some grantDigest then
    return (row, true)
  else do
    -- the sequence is compared with the pending one only, not with the lease's last one
    refuse (row.hostState ≠ .pendingHostRenew ∨ row.pendingRenewSequence ≠ some renewSequence ∨
        row.pendingExpiresAtMillis ≠ some expiresAtMillis ∨
        row.hostInstallGeneration ≠ hostInstallGeneration ∨
        expiresAtMillis ≤ row.expiresAtMillis)
      .staleLease
    return (row, false)

/-- The row of a pending renewal, whose deadline is to be extended. -/
lemma admitHostLeaseRenew_eq_ok {store : GatewayRecoveryStore}
    {leaseId installationId grantDigest : String}
    {renewSequence expiresAtMillis hostInstallGeneration : ℕ} {ackMessageId : String}
    {ackRecordedAtMillis : ℕ} {row : LeaseRow}
    (h : store.admitHostLeaseRenew leaseId installationId grantDigest renewSequence expiresAtMillis
      hostInstallGeneration ackMessageId ackRecordedAtMillis = .ok (row, false)) :
    store.leases.find? leaseId = some row ∧ row.expiresAtMillis < expiresAtMillis := by
  simp only [admitHostLeaseRenew, except_bind_eq_ok, refuse_eq_ok] at h
  obtain ⟨_, -, _, -, _, -, _, -, _, -, _, -, _, -, _, -, _, -, _, -, found, hfound, _, -, _, -, h⟩ :=
    h
  split_ifs at h
  · cases h
  · simp only [except_bind_eq_ok, refuse_eq_ok, not_or] at h
    obtain ⟨_, ⟨-, -, -, -, hexpires⟩, hrow⟩ := h
    cases hrow
    exact ⟨requireLease_eq_ok.mp hfound, not_le.mp hexpires⟩

/-- The second half of a renewal, in one transaction. -/
def completeHostLeaseRenew (leaseId installationId grantDigest : String)
    (renewSequence expiresAtMillis hostInstallGeneration : ℕ) (ackMessageId : String)
    (ackRecordedAtMillis : ℕ) :
    Except RecoveryStoreError (RecoveryHostLeaseBinding × GatewayRecoveryStore) := do
  let (row, repeated) ← store.admitHostLeaseRenew leaseId installationId grantDigest renewSequence
    expiresAtMillis hostInstallGeneration ackMessageId ackRecordedAtMillis
  if repeated then return (row.binding, store)
  else
    store.updateBinding leaseId
      (fun r => decide (r.leaseId = leaseId) && (r.isActive &&
        decide (r.hostState = .pendingHostRenew ∧ r.hostInstallationId = some installationId ∧
          r.hostGrantDigest = some grantDigest ∧ r.pendingRenewSequence = some renewSequence ∧
          r.pendingExpiresAtMillis = some expiresAtMillis)))
      (fun r => r.completeRenew hostInstallGeneration renewSequence ackMessageId
        ackRecordedAtMillis expiresAtMillis)
      fun r => r.leaseId_completeRenew ackMessageId expiresAtMillis renewSequence
        hostInstallGeneration ackRecordedAtMillis

/-! ### Revocation -/

/-- Disables the lease before the host is asked to drop it. -/
def beginHostLeaseRevoke [Sha256] (proof : RecoveryLeaseProof) (reason : String) :
    Except RecoveryStoreError (RecoveryLease × GatewayRecoveryStore) := do
  validateLeaseProofShape proof
  validateIdentity "revoke_reason" reason
  let row ← store.leaseByIdWithToken proof.leaseId proof.fenceToken
  let lease := rowLease row proof.fenceToken
  checkLeaseIdentity lease proof
  refuse (row.hostState ≠ .installed ∧ row.hostState ≠ .pendingHostRevoke) .hostFenceRequired
  if row.hostState = .pendingHostRevoke then return (lease, store)
  else do
    let due := fun r : LeaseRow => decide (r.leaseId = proof.leaseId) &&
      (r.isActive && decide (r.hostState = .installed))
    refuse (store.leases.count due ≠ 1) .staleLease
    return (lease, { store with
      leases := store.leases.update due (fun r => r.beginRevoke reason)
        fun r => r.leaseId_beginRevoke reason })

def completeHostLeaseRevoke (leaseId installationId grantDigest : String)
    (hostInstallGeneration : ℕ) (ackMessageId : String) (ackRecordedAtMillis : ℕ) :
    Except RecoveryStoreError (RecoveryHostLeaseBinding × GatewayRecoveryStore) :=
  store.completeHostAck .revoke leaseId installationId grantDigest hostInstallGeneration 0
    ackMessageId ackRecordedAtMillis

def invalidateHostLeasesForRestart :
    Except RecoveryStoreError (ℕ × GatewayRecoveryStore) :=
  return (store.leases.count LeaseRow.isHostLive,
    { store with leases := invalidateHostLeases store.leases })

end GatewayRecoveryStore

end Sts2Gateway.Recovery
