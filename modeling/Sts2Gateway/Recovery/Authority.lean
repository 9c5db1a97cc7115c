/-
Boots, host fences and leases (`recovery_store_authority.rs`,
`recovery_store_rekey.rs`, `recovery_store_authority_lease.rs`,
`recovery_store_lease.rs`).

* `startBootWithIncarnation`, `rekeyNamespace`: a new boot, which revokes every
  lease and makes every unresolved operation uncertain;
* `completeHostFenceFromHost`: the host's fence makes a boot ready;
* `acquireLease`, `renewLease`, `revokeLease`, `expireLeases`, `validateLease`: the
  life of a lease on the gateway's side.

A fresh random identifier of a call is an argument of it.  A call whose statements
are not one transaction leaves what its earlier statements did.
-/
import Mathlib.Tactic
import Sts2Gateway.Recovery.Store

namespace Sts2Gateway.Recovery

open Procedure Relational Text

/-! ### Bulk statements -/

/-- The host states that a restart invalidates. -/
def RecoveryHostLeaseState.isLive : RecoveryHostLeaseState → Bool
  | .pendingHostInstall | .installed | .pendingHostRenew | .pendingHostRevoke => true
  | .uninstalled | .hostRevoked | .restartInvalidated => false

def LeaseRow.isActive (row : LeaseRow) : Bool := row.status = .active

def LeaseRow.isDue (nowMillis : ℕ) (row : LeaseRow) : Bool :=
  row.isActive && decide (row.expiresAtMillis ≤ nowMillis)

def LeaseRow.isHostLive (row : LeaseRow) : Bool := row.hostState.isLive

def LeaseRow.revoke (row : LeaseRow) (reason : String) : LeaseRow :=
  { row with status := .revoked, revokedReason := some reason }

def LeaseRow.expire (row : LeaseRow) : LeaseRow :=
  { row with status := .expired, revokedReason := some "ttl" }

def LeaseRow.invalidateHost (row : LeaseRow) : LeaseRow :=
  { row with hostState := if row.isHostLive then .restartInvalidated else row.hostState }

/-- The new deadline and sequence of a lease. -/
def LeaseRow.renew (row : LeaseRow) (expires renewSequence : ℕ) : LeaseRow :=
  { row with expiresAtMillis := expires, lastRenewSequence := renewSequence }

namespace LeaseRow

variable (row : LeaseRow)

@[simp] lemma leaseId_revoke (reason : String) : (row.revoke reason).leaseId = row.leaseId := rfl

@[simp] lemma leaseId_expire : row.expire.leaseId = row.leaseId := rfl

@[simp] lemma leaseId_invalidateHost : row.invalidateHost.leaseId = row.leaseId := rfl

@[simp] lemma leaseId_renew (expires renewSequence : ℕ) :
    (row.renew expires renewSequence).leaseId = row.leaseId := rfl

end LeaseRow

/-- `UPDATE leases SET host_state = 'RESTART_INVALIDATED'`. -/
def invalidateHostLeases (leases : Table String LeaseRow LeaseRow.leaseId) :
    Table String LeaseRow LeaseRow.leaseId :=
  leases.update LeaseRow.isHostLive LeaseRow.invalidateHost LeaseRow.leaseId_invalidateHost

def RecoveryOperation.isUnresolved (operation : RecoveryOperation) : Bool :=
  operation.state.unresolved

/-- An unresolved operation whose authority was replaced. -/
def RecoveryOperation.rotate (operation : RecoveryOperation) (nowMillis : ℕ) : RecoveryOperation :=
  { operation with
    state := .unknown
    uncertaintyReason := some .authorityRotated
    updatedAtMillis := nowMillis }

@[simp] lemma RecoveryOperation.key_rotate (operation : RecoveryOperation) (nowMillis : ℕ) :
    (operation.rotate nowMillis).key = operation.key := rfl

def rotateOperations (operations : Table OperationKey RecoveryOperation RecoveryOperation.key)
    (nowMillis : ℕ) : Table OperationKey RecoveryOperation RecoveryOperation.key :=
  operations.update RecoveryOperation.isUnresolved (fun operation => operation.rotate nowMillis)
    fun operation => operation.key_rotate nowMillis

/-! ### Boots -/

def nextGeneration (generation : ℕ) : Except RecoveryStoreError ℕ :=
  if generation + 1 ≤ maxWireInteger then .ok (generation + 1) else .error .counterExhausted

/-- The row of a fresh boot. -/
def bootRow (deploymentId instanceId instanceIncarnation bootId : String) (generation : ℕ)
    (release : RecoveryReleaseSet) (nowMillis : ℕ) : AuthorityRow where
  deploymentId
  instanceId
  instanceIncarnation
  bootId
  authorityGeneration := generation
  release
  createdAtMillis := nowMillis
  state := .fenceRequired
  fence := none

/-- The boot that a fresh row describes. -/
def AuthorityRow.context (row : AuthorityRow) : RecoveryBootContext where
  deploymentId := row.deploymentId
  instanceId := row.instanceId
  instanceIncarnation := row.instanceIncarnation
  bootId := row.bootId
  authorityGeneration := row.authorityGeneration
  release := row.release
  createdAtMillis := row.createdAtMillis
  state := row.state

namespace GatewayRecoveryStore

variable (store : GatewayRecoveryStore)

/-- The generation of the next boot, which the store's authority must allow. -/
def bootGeneration (deploymentId instanceId : String) (release : RecoveryReleaseSet) :
    Except RecoveryStoreError ℕ :=
  match store.authority with
  | some old => do
    refuse (old.deploymentId ≠ deploymentId ∨ old.instanceId ≠ instanceId)
      (.contractMismatch "deployment or instance identity differs from the store")
    refuse (old.release ≠ release) .releaseMismatch
    nextGeneration old.authorityGeneration
  | none => .ok 1

def startBootWithIncarnation (bootId deploymentId instanceId instanceIncarnation : String)
    (release : RecoveryReleaseSet) (nowMillis : ℕ) :
    Except RecoveryStoreError (RecoveryBootContext × GatewayRecoveryStore) := do
  validateUuid "deployment_id" deploymentId
  validateUuid "instance_id" instanceId
  validateUuidV4 "instance_incarnation" instanceIncarnation
  validateWire nowMillis "now_millis"
  release.validate
  let generation ← store.bootGeneration deploymentId instanceId release
  let revoked := store.leases.update LeaseRow.isActive
    (fun row => (row.revoke "incarnation_replaced").invalidateHost)
    fun row => (LeaseRow.leaseId_invalidateHost _).trans (row.leaseId_revoke _)
  let row :=
    bootRow deploymentId instanceId instanceIncarnation bootId generation release nowMillis
  return (row.context,
    { store with
      leases := invalidateHostLeases revoked
      operations := rotateOperations store.operations nowMillis
      authority := some row })

def rekeyNamespace (bootId incarnation deploymentId instanceId : String)
    (release : RecoveryReleaseSet) (nowMillis : ℕ) :
    Except RecoveryStoreError (RecoveryBootContext × GatewayRecoveryStore) := do
  validateUuid "deployment_id" deploymentId
  validateUuid "instance_id" instanceId
  validateWire nowMillis "now_millis"
  release.validate
  let current ← store.currentBoot
  refuse (current.instanceId ≠ instanceId)
    (.contractMismatch "rekey instance identity differs from the restored store")
  refuse (current.release ≠ release) .releaseMismatch
  let generation ← nextGeneration current.authorityGeneration
  let revoked := store.leases.update LeaseRow.isActive (fun row => row.revoke "rekey")
    fun row => row.leaseId_revoke "rekey"
  let row := bootRow deploymentId instanceId incarnation bootId generation release nowMillis
  return (row.context,
    { store with
      leases := invalidateHostLeases revoked
      operations := rotateOperations store.operations nowMillis
      authority := some row })

def completeHostFenceFromHost (boot : RecoveryBootContext) (hostFenceId : String)
    (fenceGeneration nowMillis : ℕ) :
    Except RecoveryStoreError (RecoveryHostFence × GatewayRecoveryStore) := do
  validateUuidV4 "host_fence_id" hostFenceId
  validateWire fenceGeneration "fence_generation"
  validateWire nowMillis "now_millis"
  let current ← store.currentBoot
  refuse (current ≠ boot ∨ current.state ≠ .fenceRequired) .staleLease
  match store.authority with
  | some row => do
    refuse (row.bootId ≠ boot.bootId ∨ row.authorityGeneration ≠ boot.authorityGeneration ∨
        row.state ≠ .fenceRequired)
      .staleLease
    let fence := { hostFenceId, fenceGeneration, hostFenceAt := nowMillis }
    let fenced := { row with state := .ready, fence := some fence }
    return (rowFence fenced fence, { store with authority := some fenced })
  | none => .error .staleLease

/-! ### Leases -/

/-- The leases whose deadline has passed expire. -/
def expireDue (nowMillis : ℕ) : GatewayRecoveryStore :=
  { store with
    leases := store.leases.update (LeaseRow.isDue nowMillis) LeaseRow.expire
      LeaseRow.leaseId_expire }

def expireLeases (nowMillis : ℕ) : Except RecoveryStoreError (ℕ × GatewayRecoveryStore) := do
  validateWire nowMillis "now_millis"
  return (store.leases.count (LeaseRow.isDue nowMillis), store.expireDue nowMillis)

/-- The checks of `acquire_lease` before it expires old leases. -/
def checkLeaseRequest (request : RecoveryLeaseRequest) : Except RecoveryStoreError Unit := do
  validateUuid "deployment_id" request.deploymentId
  validateUuid "instance_id" request.instanceId
  validateUuidV4 "instance_incarnation" request.instanceIncarnation
  validateUuidV4 "boot_id" request.bootId
  validateUuidV4 "host_fence_id" request.hostFenceId
  validateWire request.nowMillis "now_millis"
  validateIdentity "caller_id" request.callerId
  validateIdentity "session_id" request.sessionId
  validateIdentity "host_fence_id" request.hostFenceId
  validateWire request.authorityGeneration "authority_generation"
  validateWire request.hostFenceGeneration "fence_generation"
  refuse (¬ (5 ≤ request.ttlSeconds ∧ request.ttlSeconds ≤ 300) ∨
      request.renewalIntervalSeconds = 0 ∨ request.ttlSeconds ≤ request.renewalIntervalSeconds)
    (.invalidInput "lease policy must satisfy 1 <= renewal < ttl <= 300")
  refuse (request.ttlSeconds ≠ store.config.leaseTtlSeconds ∨
      request.renewalIntervalSeconds ≠ store.config.leaseRenewalIntervalSeconds)
    (.invalidInput "lease policy differs from configured store policy")
  let authority ← store.currentBoot
  refuse (authority.state ≠ .ready ∨ authority.deploymentId ≠ request.deploymentId ∨
      authority.instanceId ≠ request.instanceId ∨
      authority.instanceIncarnation ≠ request.instanceIncarnation ∨
      authority.bootId ≠ request.bootId ∨
      authority.authorityGeneration ≠ request.authorityGeneration)
    .hostFenceRequired
  let fence ← store.currentHostFence
  refuse (fence.hostFenceId ≠ request.hostFenceId ∨
      fence.fenceGeneration ≠ request.hostFenceGeneration ∨
      fence.deploymentId ≠ request.deploymentId ∨ fence.instanceId ≠ request.instanceId ∨
      fence.instanceIncarnation ≠ request.instanceIncarnation ∨ fence.bootId ≠ request.bootId)
    .staleLease

section Token

variable [Sha256]

/-- A row of `INSERT INTO leases`. -/
def grantedRow (request : RecoveryLeaseRequest) (leaseId token : String) (epoch expires : ℕ) :
    LeaseRow where
  leaseId
  deploymentId := request.deploymentId
  instanceId := request.instanceId
  instanceIncarnation := request.instanceIncarnation
  bootId := request.bootId
  authorityGeneration := request.authorityGeneration
  leaseEpoch := epoch
  fenceTokenHash := sha256Hex token.toUTF8
  issuedAtMillis := request.nowMillis
  expiresAtMillis := expires
  ttlSeconds := request.ttlSeconds
  renewalIntervalSeconds := request.renewalIntervalSeconds
  lastRenewSequence := 0
  callerId := request.callerId
  sessionId := request.sessionId
  status := .active
  revokedReason := none
  hostFenceId := none
  hostFenceGeneration := none
  hostInstallationId := none
  hostGrantDigest := none
  hostState := .uninstalled
  hostInstallGeneration := 0
  hostRenewSequence := 0
  hostAckMessageId := none
  hostAckRecordedAtMillis := none
  pendingExpiresAtMillis := none
  pendingRenewSequence := none

/-- The rest of `acquire_lease`, on the store whose old leases have expired. -/
def insertLease (leaseId token : String) (request : RecoveryLeaseRequest) :
    Except RecoveryStoreError (RecoveryLease × GatewayRecoveryStore) := do
  refuse (store.leases.rows.any LeaseRow.isActive) .busy
  let epoch := store.leases.maximum LeaseRow.leaseEpoch + 1
  validateWire epoch "lease_epoch"
  let ttlMillis ← checkedMul request.ttlSeconds 1000
  let expires ← checkedAdd request.nowMillis ttlMillis
  let row := grantedRow request leaseId token epoch expires
  match store.leases.insert row with
  | some leases => return (rowLease row token, { store with leases })
  | none => .error (.sql "UNIQUE constraint failed: leases.lease_id")

/-- The old leases expire in a statement of its own. -/
def acquireLease (leaseId token : String) (request : RecoveryLeaseRequest) :
    Reply RecoveryLease :=
  match store.checkLeaseRequest request with
  | .error e => { answer := .error e, store }
  | .ok () =>
    match store.expireLeases request.nowMillis with
    | .error e => { answer := .error e, store }
    | .ok (_, expired) => commit expired (expired.insertLease leaseId token request)

/-- The checks of `renew_lease` up to the lease's status. -/
def renewable (proof : RecoveryLeaseProof) (renewSequence nowMillis : ℕ) :
    Except RecoveryStoreError LeaseRow := do
  validateWire renewSequence "renew_sequence"
  validateWire nowMillis "now_millis"
  refuse (renewSequence = 0) (.invalidInput "renew_sequence must be positive")
  validateLeaseProofShape proof
  let authority ← store.currentBoot
  refuse (authority.state ≠ .ready ∨ authority.bootId ≠ proof.bootId ∨
      authority.instanceIncarnation ≠ proof.instanceIncarnation ∨
      authority.authorityGeneration ≠ proof.authorityGeneration ∨
      authority.deploymentId ≠ proof.deploymentId ∨ authority.instanceId ≠ proof.instanceId)
    .staleLease
  let row ← store.leaseByIdWithToken proof.leaseId proof.fenceToken
  checkLeaseIdentity (rowLease row proof.fenceToken) proof
  row.status.requireActive
  return row

/-- An unexpired lease is renewed. -/
def renewRow (row : LeaseRow) (proof : RecoveryLeaseProof) (renewSequence nowMillis : ℕ) :
    Except RecoveryStoreError (RecoveryLease × GatewayRecoveryStore) := do
  refuse (renewSequence ≤ row.lastRenewSequence) .staleLease
  let ttlMillis ← checkedMul row.ttlSeconds 1000
  let candidate ← checkedAdd nowMillis ttlMillis
  -- the clock may run backwards, the deadline may not
  let expires := max row.expiresAtMillis candidate
  validateWire expires "expires_at_millis"
  let due := fun r : LeaseRow => decide (r.leaseId = proof.leaseId) &&
    (r.isActive && decide (r.lastRenewSequence < renewSequence))
  refuse (store.leases.count due ≠ 1) .staleLease
  return ({ rowLease row proof.fenceToken with
      expiresAtMillis := expires
      lastRenewSequence := renewSequence },
    { store with
      leases := store.leases.update due (fun r => r.renew expires renewSequence)
        fun r => r.leaseId_renew expires renewSequence })

/-- A lease whose deadline has passed expires on the way. -/
def renewLease (proof : RecoveryLeaseProof) (renewSequence nowMillis : ℕ) : Reply RecoveryLease :=
  match store.renewable proof renewSequence nowMillis with
  | .error e => { answer := .error e, store }
  | .ok row =>
    if row.expiresAtMillis ≤ nowMillis then
      { answer := .error .leaseExpired
        store :=
          { store with
            leases := store.leases.update
              (fun r => decide (r.leaseId = proof.leaseId) && r.isActive) LeaseRow.expire
              LeaseRow.leaseId_expire } }
    else commit store (store.renewRow row proof renewSequence nowMillis)

def revokeLease (proof : RecoveryLeaseProof) (reason : String) :
    Except RecoveryStoreError (Unit × GatewayRecoveryStore) := do
  validateLeaseProofShape proof
  let row ← store.leaseByIdWithToken proof.leaseId proof.fenceToken
  checkLeaseIdentity (rowLease row proof.fenceToken) proof
  validateIdentity "revoke_reason" reason
  let due := fun r : LeaseRow => decide (r.leaseId = proof.leaseId) && r.isActive
  refuse (store.leases.count due ≠ 1) .leaseRevoked
  return ((), { store with
    leases := store.leases.update due (fun r => r.revoke reason)
      fun r => r.leaseId_revoke reason })

def validateLease (proof : RecoveryLeaseProof) (nowMillis : ℕ) : Except RecoveryStoreError Unit := do
  let lease ← store.ensureContext proof nowMillis
  match store.leases.find? lease.leaseId with
  | some row => refuse (row.status ≠ .active) .leaseRevoked
  | none => .error (.sql "Query returned no rows")

end Token

end GatewayRecoveryStore

end Sts2Gateway.Recovery
