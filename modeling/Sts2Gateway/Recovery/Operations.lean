/-
Recovery operations (`recovery_store_operations.rs`,
`recovery_store_operation_helpers.rs`, `recovery_store_operation_persistence.rs`,
`recovery_store_archive.rs`).

* `recordIntent`, `markDispatched`: an operation before and at its dispatch;
* `validTransition`, `recordOutcome`, `reconcileOperation`: its outcome;
* `archiveResolvedBefore`, `purgeExpiredArchives`: the end of its retention;
* `admitOutcome`: the checks of `recordOutcome`, which find the row to rewrite.
-/
import Mathlib.Tactic
import Sts2Gateway.Recovery.Canonical
import Sts2Gateway.Recovery.Store

namespace Sts2Gateway.Recovery

open Procedure Relational Text

/-! ### Intents -/

section Token

variable [Sha256]

def validateIntent (intent : RecoveryOperationIntent) : Except RecoveryStoreError Unit := do
  [("operation_id", intent.operationId), ("deployment_id", intent.deploymentId),
    ("instance_id", intent.instanceId), ("instance_incarnation", intent.instanceIncarnation),
    ("boot_id", intent.bootId), ("lease_id", intent.leaseId),
    ("expected_state_id", intent.expectedStateId)].forM fun (name, value) =>
      validateIdentity name value
  validateUuidV4 "operation_id" intent.operationId
  validateUuid "deployment_id" intent.deploymentId
  validateUuid "instance_id" intent.instanceId
  validateUuidV4 "instance_incarnation" intent.instanceIncarnation
  validateUuidV4 "boot_id" intent.bootId
  validateUuidV4 "lease_id" intent.leaseId
  validateUuid "expected_state_id" intent.expectedStateId
  validateDigest "schema_digest" intent.schemaDigest
  validateDigest "catalog_digest" intent.catalogDigest
  validateDigest "payload_digest" intent.payloadDigest
  validateWire intent.authorityGeneration "authority_generation"
  validateWire intent.leaseEpoch "lease_epoch"
  validateWire intent.expectedGeneration "expected_generation"
  validateWire intent.nowMillis "now_millis"
  refuse (intent.schemaDigest ≠ runtimeV3SchemaDigest)
    (.contractMismatch "action schema digest is not the approved runtime-v3 profile")
  refuse (intent.canonicalJson = [] ∨ intent.canonicalJson.length > maxRecoveryActionBytes)
    (.invalidInput "canonical action exceeds the recovery bound")
  let canonical ← canonicalizeRecoveryAction intent.canonicalJson
  refuse (canonical ≠ intent.canonicalJson)
    (.contractMismatch "canonical action bytes do not match RCJ-1")
  refuse (sha256Hex ⟨canonical.toArray⟩ ≠ intent.payloadDigest)
    (.contractMismatch "payload digest does not match canonical action bytes")

end Token

def sameIntent (operation : RecoveryOperation) (intent : RecoveryOperationIntent) : Bool :=
  operation.payloadDigest = intent.payloadDigest ∧ operation.schemaDigest = intent.schemaDigest ∧
    operation.canonicalJson = intent.canonicalJson ∧
    operation.deploymentId = intent.deploymentId ∧
    operation.instanceIncarnation = intent.instanceIncarnation ∧
    operation.bootId = intent.bootId ∧
    operation.authorityGeneration = intent.authorityGeneration ∧
    operation.leaseId = intent.leaseId ∧ operation.leaseEpoch = intent.leaseEpoch ∧
    operation.expectedStateId = intent.expectedStateId ∧
    operation.expectedGeneration = intent.expectedGeneration ∧
    operation.catalogDigest = intent.catalogDigest

def RecoveryOperationIntent.operation (intent : RecoveryOperationIntent) : RecoveryOperation where
  operationId := intent.operationId
  deploymentId := intent.deploymentId
  instanceId := intent.instanceId
  instanceIncarnation := intent.instanceIncarnation
  bootId := intent.bootId
  authorityGeneration := intent.authorityGeneration
  leaseId := intent.leaseId
  leaseEpoch := intent.leaseEpoch
  state := .intentRecorded
  payloadDigest := intent.payloadDigest
  schemaDigest := intent.schemaDigest
  canonicalJson := intent.canonicalJson
  expectedStateId := intent.expectedStateId
  expectedGeneration := intent.expectedGeneration
  catalogDigest := intent.catalogDigest
  responseStatus := none
  responseBody := none
  witness := none
  uncertaintyReason := none
  createdAtMillis := intent.nowMillis
  updatedAtMillis := intent.nowMillis

/-! ### Outcomes -/

def validTransition : RecoveryOperationState → RecoveryOperationState → Bool
  | .intentRecorded, .intentRecorded => true
  | .mayHaveBeenDispatched, .mayHaveBeenDispatched => true
  | .accepted, .accepted => true
  | .settled, .settled => true
  | .rejected, .rejected => true
  | .unknown, .unknown => true
  | .reconciled, .reconciled => true
  | .intentRecorded, .mayHaveBeenDispatched => true
  | .intentRecorded, .rejected => true
  | .mayHaveBeenDispatched, .accepted => true
  | .mayHaveBeenDispatched, .settled => true
  | .mayHaveBeenDispatched, .rejected => true
  | .mayHaveBeenDispatched, .unknown => true
  | .accepted, .settled => true
  | .accepted, .unknown => true
  | .unknown, .reconciled => true
  | .accepted, .reconciled => true
  | .mayHaveBeenDispatched, .reconciled => true
  | .intentRecorded, .unknown => true
  | _, _ => false

def validateWitnessShape (operationId : String) (state : RecoveryOperationState)
    (witness : Option RecoveryEffectWitness) : Except RecoveryStoreError Unit := do
  refuse (state = .settled ∧ witness.isNone)
    (.contractMismatch "settled operation requires an operation-specific witness")
  refuse (state = .reconciled ∧ witness.isNone)
    (.contractMismatch "reconciled operation requires an operation-specific witness")
  witness.forM fun witness => do
    refuse (witness.operationId ≠ operationId)
      (.contractMismatch "effect witness is bound to another operation")
    validateUuidV4 "witness_id" witness.witnessId
    validateUuidV4 "operation_id" witness.operationId
    validateDigest "witness_payload_digest" witness.payloadDigest
    validateUuidV4 "witness_boot_id" witness.bootId
    validateUuidV4 "witness_instance_incarnation" witness.instanceIncarnation
    validateUuidV4 "witness_host_fence_id" witness.hostFenceId
    validateIdentity "witness_source" witness.source
    validateUuid "witness_state_id" witness.stateId
    validateDigest "effect_digest" witness.effectDigest
    validateWire witness.generation "witness_generation"
    validateWire witness.observedAtMillis "witness_observed_at_millis"
    refuse (witness.source ≠ "host_game_thread" ∧ witness.source ≠ "host_receipt" ∧
        witness.source ≠ "authoritative_reobserve")
      (.contractMismatch "effect witness source is not authoritative")

def validateWitnessContext (operation : RecoveryOperation)
    (witness : Option RecoveryEffectWitness) : Except RecoveryStoreError Unit :=
  witness.forM fun witness =>
    refuse (witness.payloadDigest ≠ operation.payloadDigest ∨ witness.bootId ≠ operation.bootId ∨
        witness.instanceIncarnation ≠ operation.instanceIncarnation ∨
        witness.generation ≤ operation.expectedGeneration)
      (.contractMismatch "effect witness does not match the operation authority context")

/-- What a caller reports about an operation. -/
structure OutcomeReport where
  instanceId : String
  operationId : String
  state : RecoveryOperationState
  responseStatus : Option UInt16
  responseBody : Option (List UInt8)
  witness : Option RecoveryEffectWitness
  uncertaintyReason : Option RecoveryUncertaintyReason
  nowMillis : ℕ

/-- The row after a report. -/
def RecoveryOperation.withOutcome (operation : RecoveryOperation) (report : OutcomeReport) :
    RecoveryOperation :=
  { operation with
    state := report.state
    responseStatus := report.responseStatus
    responseBody := report.responseBody
    witness := report.witness
    uncertaintyReason := report.uncertaintyReason
    updatedAtMillis := report.nowMillis }

/-- The row of an operation that is about to be dispatched. -/
def RecoveryOperation.dispatch (operation : RecoveryOperation) (nowMillis : ℕ) :
    RecoveryOperation :=
  { operation with state := .mayHaveBeenDispatched, updatedAtMillis := nowMillis }

@[simp] lemma RecoveryOperation.key_withOutcome (operation : RecoveryOperation)
    (report : OutcomeReport) : (operation.withOutcome report).key = operation.key := rfl

@[simp] lemma RecoveryOperation.key_dispatch (operation : RecoveryOperation) (nowMillis : ℕ) :
    (operation.dispatch nowMillis).key = operation.key := rfl

namespace GatewayRecoveryStore

variable (store : GatewayRecoveryStore)

def unresolvedCount : ℕ := store.operations.count fun operation => operation.state.unresolved

def retainedCount : ℕ := store.operations.rows.length + store.operationArchive.rows.length

def archivedCount : ℕ := store.operationArchive.rows.length

def requireOperation (instanceId operationId : String) :
    Except RecoveryStoreError RecoveryOperation :=
  (store.selectOperation (instanceId, operationId)).elim (.error .operationNotFound) .ok

section Token

variable [Sha256]

def recordIntent (proof : RecoveryLeaseProof) (intent : RecoveryOperationIntent) :
    Except RecoveryStoreError (RecoveryIntentResult × GatewayRecoveryStore) := do
  validateIntent intent
  refuse (intent.deploymentId ≠ proof.deploymentId ∨ intent.instanceId ≠ proof.instanceId ∨
      intent.instanceIncarnation ≠ proof.instanceIncarnation ∨ intent.bootId ≠ proof.bootId ∨
      intent.authorityGeneration ≠ proof.authorityGeneration ∨
      intent.leaseId ≠ proof.leaseId ∨ intent.leaseEpoch ≠ proof.leaseEpoch)
    .staleLease
  let _ ← store.ensureContext proof intent.nowMillis
  match store.selectOperation (intent.instanceId, intent.operationId) with
  | some existing => do
    refuse (¬ sameIntent existing intent) .operationConflict
    return (.duplicate existing, store)
  | none => do
    refuse (0 < store.operations.count fun operation =>
        decide (operation.instanceId = intent.instanceId ∧
          operation.instanceIncarnation = intent.instanceIncarnation) &&
            operation.state.unresolved)
      .capacityExceeded
    refuse (store.config.unresolvedCapacity ≤ store.unresolvedCount) .capacityExceeded
    refuse (store.config.retainedCapacity ≤ store.retainedCount) .capacityExceeded
    match store.operations.insert intent.operation with
    | some operations => return (.created intent.operation, { store with operations })
    | none =>
      .error (.sql "UNIQUE constraint failed: operations.instance_id, operations.operation_id")

def markDispatched (proof : RecoveryLeaseProof) (instanceId operationId : String)
    (nowMillis : ℕ) : Except RecoveryStoreError (RecoveryOperation × GatewayRecoveryStore) := do
  validateUuid "instance_id" instanceId
  validateUuidV4 "operation_id" operationId
  let _ ← store.ensureContext proof nowMillis
  let operation ← store.requireOperation instanceId operationId
  refuse (operation.bootId ≠ proof.bootId ∨
      operation.instanceIncarnation ≠ proof.instanceIncarnation ∨
      operation.authorityGeneration ≠ proof.authorityGeneration ∨
      operation.leaseId ≠ proof.leaseId ∨ operation.leaseEpoch ≠ proof.leaseEpoch)
    .staleLease
  refuse (operation.state ≠ .intentRecorded) .invalidTransition
  return (operation.dispatch nowMillis, { store with
    operations := store.operations.update
      (fun o => decide (o.key = (instanceId, operationId)) && decide (o.state = .intentRecorded))
      (fun o => o.dispatch nowMillis) fun o => o.key_dispatch nowMillis })

end Token

/-- The checks of `record_outcome`, and the operation that they found. -/
def admitOutcome (report : OutcomeReport) : Except RecoveryStoreError RecoveryOperation := do
  validateUuid "instance_id" report.instanceId
  validateUuidV4 "operation_id" report.operationId
  refuse (report.responseBody.any fun body => decide (body.length > maxRecoveryResponseBytes))
    (.invalidInput "operation response exceeds the recovery bound")
  validateWire report.nowMillis "now_millis"
  refuse (report.state = .unknown ∧ report.uncertaintyReason.isNone)
    (.contractMismatch "unknown operation requires an uncertainty reason")
  refuse (report.state ≠ .unknown ∧ report.uncertaintyReason.isSome)
    (.contractMismatch "uncertainty reason is only valid for unknown operations")
  validateWitnessShape report.operationId report.state report.witness
  let operation ← store.requireOperation report.instanceId report.operationId
  validateWitnessContext operation report.witness
  report.witness.forM fun witness =>
    let ticketFenceId := (store.ticketForOperation report.instanceId report.operationId).map
      (·.hostFenceId)
    let expectedFenceId := ticketFenceId.or (store.currentFence.map (·.hostFenceId))
    refuse (expectedFenceId ≠ some witness.hostFenceId)
      (.contractMismatch "effect witness does not match the operation host fence")
  refuse (¬ validTransition operation.state report.state) .invalidTransition
  return operation

/-- Only live rows are rewritten: an archived operation is not found here. -/
def recordOutcome (report : OutcomeReport) :
    Except RecoveryStoreError (RecoveryOperation × GatewayRecoveryStore) := do
  let operation ← store.admitOutcome report
  let due := fun o : RecoveryOperation => decide (o.key = operation.key)
  refuse (store.operations.count due ≠ 1) .operationNotFound
  return (operation.withOutcome report, { store with
    operations := store.operations.update due (fun o => o.withOutcome report)
      fun o => o.key_withOutcome report })

def lookupOperation (instanceId operationId payloadDigest : String) :
    Except RecoveryStoreError (Option RecoveryOperation) := do
  validateIdentity "instance_id" instanceId
  validateIdentity "operation_id" operationId
  validateDigest "payload_digest" payloadDigest
  match store.selectOperation (instanceId, operationId) with
  | some operation => do
    refuse (operation.payloadDigest ≠ payloadDigest) .operationConflict
    return some operation
  | none => return none

def reconcileOperation (instanceId operationId payloadDigest : String)
    (witness : Option RecoveryEffectWitness) (nowMillis : ℕ) :
    Except RecoveryStoreError (RecoveryOperation × GatewayRecoveryStore) := do
  let found ← store.lookupOperation instanceId operationId payloadDigest
  let operation ← found.elim (.error .operationNotFound) .ok
  validateWitnessShape operationId .reconciled witness
  match witness with
  | none => return (operation, store)
  | some witness => do
    validateWitnessContext operation (some witness)
    if operation.state = .reconciled then do
      refuse (operation.witness ≠ some witness) .operationConflict
      return (operation, store)
    else do
      refuse (¬ operation.state.unresolved) .invalidTransition
      store.recordOutcome
        { instanceId
          operationId
          state := .reconciled
          responseStatus := operation.responseStatus
          responseBody := operation.responseBody
          witness := some witness
          uncertaintyReason := none
          nowMillis }

/-! ### Retention -/

/-- A resolved operation that was last written at or before the cutoff. -/
def isArchivable (cutoffMillis : ℕ) (operation : RecoveryOperation) : Bool :=
  !operation.state.unresolved && decide (operation.updatedAtMillis ≤ cutoffMillis)

/-- The resolved rows of a cutoff, moved to the archive. -/
def moveArchivable (cutoffMillis nowMillis : ℕ) : GatewayRecoveryStore :=
  { store with
    operationArchive := store.operationArchive.replaceAll
      ((store.operations.rows.filter (isArchivable cutoffMillis)).map fun operation =>
        { operation, archivedAtMillis := nowMillis })
    operations := store.operations.delete (isArchivable cutoffMillis) }

def archiveResolvedBefore (cutoffMillis nowMillis : ℕ) :
    Except RecoveryStoreError (ℕ × GatewayRecoveryStore) := do
  validateWire cutoffMillis "archive_cutoff_millis"
  validateWire nowMillis "now_millis"
  refuse (nowMillis < recoveryTombstoneRetentionMillis)
    (.invalidInput "archive horizon has not elapsed")
  refuse (cutoffMillis > nowMillis - recoveryTombstoneRetentionMillis)
    (.invalidInput "resolved operations must remain retained through the tombstone horizon")
  return (store.operations.count (isArchivable cutoffMillis),
    store.moveArchivable cutoffMillis nowMillis)

def purgeExpiredArchives (nowMillis : ℕ) :
    Except RecoveryStoreError (ℕ × GatewayRecoveryStore) := do
  validateWire nowMillis "now_millis"
  let cutoff := nowMillis - recoveryTombstoneRetentionMillis
  let due := fun archived : ArchivedOperation => decide (archived.archivedAtMillis ≤ cutoff)
  return (store.operationArchive.count due,
    { store with operationArchive := store.operationArchive.delete due })

end GatewayRecoveryStore

end Sts2Gateway.Recovery
