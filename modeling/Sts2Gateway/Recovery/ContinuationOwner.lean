/-
Claims of continuation operations (`recovery_store_continuation_owner.rs`,
`recovery_store_continuation_owner_snapshot.rs`).

* `currentOwnerSnapshot`: the owner of the live destination, as the tables show it;
* `claimContinuationOwner`: binds an operation to the lease of that owner;
* `adoptContinuationOwner`, `lookupContinuationOwnerClaim`: its reads.
-/
import Mathlib.Tactic
import Sts2Gateway.Library.Json
import Sts2Gateway.Recovery.Store

namespace Sts2Gateway.Recovery

open CompactJson Procedure Relational Text

def maxRetainedContinuationClaims : ℕ := 4096

def RecoveryContinuationOwner.toJson (owner : RecoveryContinuationOwner) : Json :=
  .obj
    [("deployment_id", .str owner.deploymentId), ("instance_id", .str owner.instanceId),
      ("instance_incarnation", .str owner.instanceIncarnation), ("boot_id", .str owner.bootId),
      ("authority_generation", .num owner.authorityGeneration),
      ("host_fence_id", .str owner.hostFenceId),
      ("host_fence_generation", .num owner.hostFenceGeneration),
      ("lease_id", .str owner.leaseId), ("lease_epoch", .num owner.leaseEpoch),
      ("session_id", .str owner.sessionId),
      ("lease_expires_at_millis", .num owner.leaseExpiresAtMillis)]

def claimDigest [Sha256] (operationId : String) (owner : RecoveryContinuationOwner) : String :=
  sha256Hex (Json.arr [.str operationId, owner.toJson]).toBytes

def validateOwner (owner : RecoveryContinuationOwner) : Except RecoveryStoreError Unit := do
  validateUuid "deployment_id" owner.deploymentId
  validateUuid "instance_id" owner.instanceId
  validateUuidV4 "instance_incarnation" owner.instanceIncarnation
  validateUuidV4 "boot_id" owner.bootId
  validateUuidV4 "host_fence_id" owner.hostFenceId
  validateUuidV4 "lease_id" owner.leaseId
  validateIdentity "session_id" owner.sessionId
  validateWire owner.authorityGeneration "authority_generation"
  validateWire owner.hostFenceGeneration "host_fence_generation"
  validateWire owner.leaseEpoch "lease_epoch"
  validateWire owner.leaseExpiresAtMillis "lease_expires_at_millis"

/-- The row with the greatest epoch, the first of them when there are several. -/
def latestLease : List LeaseRow → Option LeaseRow
  | [] => none
  | row :: rows =>
    match latestLease rows with
    | some later => if row.leaseEpoch < later.leaseEpoch then some later else some row
    | none => some row

/-- The state of an owner whose lease carries its fence and its session. -/
def ownerState (row : LeaseRow) (nowMillis : ℕ) : RecoveryContinuationOwnerState :=
  match row.status with
  | .active =>
    if nowMillis < row.expiresAtMillis then
      if row.hostState = .installed then .available else .unknown
    else .expired
  | .expired => .expired
  | .revoked => .revoked

def ownerStateStoreError : RecoveryContinuationOwnerState → RecoveryStoreError
  | .available => .invalidInput "owner is already available"
  | .absent => .leaseNotFound
  | .expired => .leaseExpired
  | .revoked => .leaseRevoked
  | .unknown => .staleLease

/-- `claim_continuation_owner` has its own table of the same errors. -/
def claimStateStoreError : RecoveryContinuationOwnerState → RecoveryStoreError
  | .expired => .leaseExpired
  | .revoked => .leaseRevoked
  | .absent => .leaseNotFound
  | .unknown | .available => .staleLease

namespace GatewayRecoveryStore

variable (store : GatewayRecoveryStore)

def currentOwnerSnapshot (sessionId : String) (nowMillis : ℕ) :
    Except RecoveryStoreError RecoveryContinuationOwnerSnapshot := do
  let some authority ← store.currentAuthority | return { state := .absent, owner := none }
  if authority.state ≠ .ready then return { state := .unknown, owner := none }
  let some fence := store.currentFence | return { state := .unknown, owner := none }
  if fence.deploymentId ≠ authority.deploymentId ∨ fence.instanceId ≠ authority.instanceId ∨
      fence.instanceIncarnation ≠ authority.instanceIncarnation ∨
      fence.bootId ≠ authority.bootId ∨
      fence.authorityGeneration ≠ authority.authorityGeneration then
    return { state := .unknown, owner := none }
  let some row := latestLease (store.leases.rows.filter fun row =>
      row.deploymentId = authority.deploymentId ∧ row.instanceId = authority.instanceId ∧
        row.instanceIncarnation = authority.instanceIncarnation ∧
        row.bootId = authority.bootId ∧
        row.authorityGeneration = authority.authorityGeneration)
    | return { state := .absent, owner := none }
  let some hostFenceGeneration := row.hostFenceGeneration
    | return { state := .unknown, owner := none }
  let owner :=
    { deploymentId := authority.deploymentId
      instanceId := authority.instanceId
      instanceIncarnation := authority.instanceIncarnation
      bootId := authority.bootId
      authorityGeneration := authority.authorityGeneration
      hostFenceId := fence.hostFenceId
      hostFenceGeneration := fence.fenceGeneration
      leaseId := row.leaseId
      leaseEpoch := row.leaseEpoch
      sessionId := row.sessionId
      leaseExpiresAtMillis := row.expiresAtMillis }
  if row.hostFenceId ≠ some owner.hostFenceId ∨
      hostFenceGeneration ≠ owner.hostFenceGeneration ∨ owner.sessionId ≠ sessionId then
    return { state := .unknown, owner := some owner }
  return { state := ownerState row nowMillis, owner := some owner }

def lookupContinuationOwnerClaim (operationId : String) :
    Except RecoveryStoreError (Option RecoveryContinuationOwnerClaim) := do
  validateUuidV4 "operation_id" operationId
  return store.continuationOwnerClaims.find? operationId

def currentContinuationOwner (sessionId : String) (nowMillis : ℕ) :
    Except RecoveryStoreError RecoveryContinuationOwnerSnapshot := do
  validateIdentity "session_id" sessionId
  validateWire nowMillis "now_millis"
  store.currentOwnerSnapshot sessionId nowMillis

def adoptContinuationOwner (operationId : String) (expectedOwner : RecoveryContinuationOwner)
    (nowMillis : ℕ) : Except RecoveryStoreError RecoveryContinuationOwnerAdoption := do
  validateUuidV4 "operation_id" operationId
  validateOwner expectedOwner
  validateWire nowMillis "now_millis"
  let snapshot ← store.currentOwnerSnapshot expectedOwner.sessionId nowMillis
  refuse (snapshot.state ≠ .available) (ownerStateStoreError snapshot.state)
  let owner ← snapshot.owner.elim
    (.error (.corrupt "available continuation owner omitted its identity")) .ok
  refuse (owner ≠ expectedOwner) .staleLease
  let claim ← (store.continuationOwnerClaims.find? operationId).elim (.error .operationNotFound) .ok
  refuse (claim.owner ≠ owner) .operationConflict
  let currentFence ← store.currentFence.elim (.error .authorityNotFound) .ok
  refuse (currentFence.hostFenceId ≠ owner.hostFenceId ∨
      currentFence.fenceGeneration ≠ owner.hostFenceGeneration ∨
      currentFence.deploymentId ≠ owner.deploymentId ∨
      currentFence.instanceId ≠ owner.instanceId ∨
      currentFence.instanceIncarnation ≠ owner.instanceIncarnation ∨
      currentFence.bootId ≠ owner.bootId ∨
      currentFence.authorityGeneration ≠ owner.authorityGeneration)
    .staleLease
  return { claim, owner, currentFence }

def claimContinuationOwner [Sha256] (operationId : String)
    (expectedOwner : RecoveryContinuationOwner) (nowMillis : ℕ) :
    Except RecoveryStoreError (RecoveryContinuationOwnerClaimResult × GatewayRecoveryStore) := do
  validateUuidV4 "operation_id" operationId
  validateOwner expectedOwner
  validateWire nowMillis "now_millis"
  let requestDigest := claimDigest operationId expectedOwner
  let snapshot ← store.currentOwnerSnapshot expectedOwner.sessionId nowMillis
  refuse (snapshot.state ≠ .available) (claimStateStoreError snapshot.state)
  refuse (snapshot.owner ≠ some expectedOwner) .staleLease
  match store.continuationOwnerClaims.find? operationId with
  | some existing => do
    refuse (existing.requestDigest ≠ requestDigest ∨ existing.owner ≠ expectedOwner)
      .operationConflict
    return (.duplicate existing, store)
  | none => do
    refuse (store.continuationOwnerClaims.rows.any fun claim =>
        decide (claim.owner.leaseId = expectedOwner.leaseId ∧
          claim.owner.leaseEpoch = expectedOwner.leaseEpoch))
      .operationConflict
    refuse (maxRetainedContinuationClaims ≤ store.continuationOwnerClaims.rows.length)
      .capacityExceeded
    let claim := { operationId, requestDigest, owner := expectedOwner, claimedAtMillis := nowMillis }
    match store.continuationOwnerClaims.insert claim with
    | some continuationOwnerClaims =>
      return (.created claim, { store with continuationOwnerClaims })
    | none => .error (.sql "UNIQUE constraint failed: continuation_owner_claims.operation_id")

end GatewayRecoveryStore

end Sts2Gateway.Recovery
