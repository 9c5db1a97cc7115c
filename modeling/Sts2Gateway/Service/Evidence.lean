/-
Operations on the wire (`service_recovery_ops_payload.rs`,
`service_recovery_ops_validation_core.rs`, `service_recovery_ops_validation_payload.rs`,
`service_recovery_dispatch_host_core.rs`).

* `parseOperationRef`, `parseOperationPayload`: the operation that a caller presents;
* `hostOperationIdentityMatches`, `parseHostTicketForContext`,
  `parseHostWitnessForContext`: what an answer of the host says of an operation;
* `validateHostLookupResponse`, `validateHostReconcileResponse`, `parseHostEvidence`: the
  closed shapes of its evidence;
* `hostOutcome`: **the outcome that an answer to a dispatch proves**.
-/
import Mathlib.Data.List.DropRight
import Mathlib.Tactic
import Sts2Gateway.Recovery.Canonical
import Sts2Gateway.Service.Frames

namespace Sts2Gateway.Service

open CompactJson Procedure Recovery Text

/-! ### Base64 -/

/-- Text padded to groups of four. -/
def decodePadded (alphabet : List Char) (value : List Char) : Option (List UInt8) := do
  let body := value.rdropWhile (· = '=')
  guard (value.length = body.length + (4 - body.length % 4) % 4)
  decodeBase64 alphabet body

/-- Text whose padding may be missing, in either alphabet. -/
def decodeEither (value : String) : Option (List UInt8) :=
  let text := value.toList
  let padded := text ++ List.replicate ((4 - text.length % 4) % 4) '='
  (decodePadded base64Chars padded).or (decodePadded base64UrlChars padded)

/-! ### The operation of a caller -/

def contextKeys : List String :=
  ["deployment_id", "instance_id", "instance_incarnation", "boot_id", "authority_generation",
    "lease_id", "lease_epoch"]

def contextShape (value : Json) : Bool :=
  match value.exactObject contextKeys with
  | none => false
  | some object =>
    object.strIs "deployment_id" validUuid && object.strIs "instance_id" validUuid &&
      object.strIs "instance_incarnation" validUuidV4 && object.strIs "boot_id" validUuidV4 &&
      object.strIs "lease_id" validUuidV4 &&
      object.numIs "authority_generation" (fun value => 0 < value) &&
      object.numIs "lease_epoch" fun value => 0 < value

/-- An operation that a caller refers to. -/
structure OperationRef where
  operationId : String
  payloadDigest : String
  originalContext : Json

def parseOperationRef (value : Json) : Option OperationRef := do
  let object ← value.exactObject ["operation_id", "payload_digest", "original_context"]
  let operationId ← (object.get "operation_id").asStr
  let payloadDigest ← (object.get "payload_digest").asStr
  guard (validUuidV4 operationId ∧ validDigest payloadDigest ∧
    contextShape (object.get "original_context"))
  return { operationId, payloadDigest, originalContext := object.get "original_context" }

/-- An operation that a caller submits. -/
structure ParsedOperationPayload extends OperationRef where
  expectedStateId : String
  expectedGeneration : ℕ
  catalogDigest : String
  schemaDigest : String
  canonicalJson : List UInt8

def parseOperationPayload [Sha256] (value : Json) : Option ParsedOperationPayload := do
  let object ← value.exactObject
    ["operation_id", "payload_digest", "original_context", "expected_boundary", "action"]
  let operationId ← (object.get "operation_id").asStr
  let payloadDigest ← (object.get "payload_digest").asStr
  guard (validUuidV4 operationId ∧ validDigest payloadDigest ∧
    contextShape (object.get "original_context"))
  let boundary ← (object.get "expected_boundary").exactObject
    ["state_id", "generation", "catalog_digest"]
  let expectedStateId ← (boundary.get "state_id").asStr
  let expectedGeneration ← (boundary.get "generation").asU64
  let catalogDigest ← (boundary.get "catalog_digest").asStr
  guard (validUuid expectedStateId ∧ validDigest catalogDigest)
  let action ← (object.get "action").exactObject
    ["schema_digest", "canonical_json_b64", "payload_digest"]
  let schemaDigest ← (action.get "schema_digest").asStr
  let encoded := (← (action.get "canonical_json_b64").asStr).toList
  let bytes ← (decodeBase64 base64Chars encoded).or (decodeBase64 base64UrlChars encoded)
  guard (schemaDigest = runtimeV3SchemaDigest ∧
    (action.get "payload_digest").asStr = some payloadDigest)
  let canonicalJson ← (canonicalizeRecoveryAction bytes).toOption
  guard (canonicalJson.length ≤ maxRecoveryActionBytes ∧
    sha256Hex ⟨canonicalJson.toArray⟩ = payloadDigest)
  return {
    operationId
    payloadDigest
    originalContext := object.get "original_context"
    expectedStateId
    expectedGeneration
    catalogDigest
    schemaDigest
    canonicalJson }

def contextMatchesProof (value : Json) (proof : RecoveryLeaseProof) : Bool :=
  (value.get "deployment_id").asStr = some proof.deploymentId ∧
    (value.get "instance_id").asStr = some proof.instanceId ∧
    (value.get "instance_incarnation").asStr = some proof.instanceIncarnation ∧
    (value.get "boot_id").asStr = some proof.bootId ∧
    (value.get "authority_generation").asU64 = some proof.authorityGeneration ∧
    (value.get "lease_id").asStr = some proof.leaseId ∧
    (value.get "lease_epoch").asU64 = some proof.leaseEpoch

def operationContextMatches (operation : RecoveryOperation) (proof : RecoveryLeaseProof) : Bool :=
  operation.deploymentId = proof.deploymentId ∧ operation.instanceId = proof.instanceId ∧
    operation.instanceIncarnation = proof.instanceIncarnation ∧
    operation.bootId = proof.bootId ∧
    operation.authorityGeneration = proof.authorityGeneration ∧
    operation.leaseId = proof.leaseId ∧ operation.leaseEpoch = proof.leaseEpoch

/-! ### The operation of the host -/

/-- A value that names an operation and its original authority. -/
def hostOperationIdentityMatches (value : Json) (operation : RecoveryOperation) : Bool :=
  let context := value.get "original_context"
  (value.get "operation_id").asStr = some operation.operationId ∧
    (value.get "payload_digest").asStr = some operation.payloadDigest ∧
    (context.get "deployment_id").asStr = some operation.deploymentId ∧
    (context.get "instance_id").asStr = some operation.instanceId ∧
    (context.get "instance_incarnation").asStr = some operation.instanceIncarnation ∧
    (context.get "boot_id").asStr = some operation.bootId ∧
    (context.get "authority_generation").asU64 = some operation.authorityGeneration ∧
    (context.get "lease_id").asStr = some operation.leaseId ∧
    (context.get "lease_epoch").asU64 = some operation.leaseEpoch

/-- The same test on the reference of a caller. -/
def operationRefMatches (value : Json) (operation : RecoveryOperation) : Bool :=
  hostOperationIdentityMatches value operation

def parseTicketState : String → Option RecoveryTicketState
  | "ISSUED" => some .issued
  | "ADMITTED" => some .admitted
  | "EXECUTING" => some .executing
  | "EFFECT_WITNESS_RECORDED" => some .effectWitnessRecorded
  | "SETTLED" => some .settled
  | "REJECTED" => some .rejected
  | "UNKNOWN" => some .unknown
  | _ => none

def parseOperationState : String → Option RecoveryOperationState
  | "INTENT_RECORDED" => some .intentRecorded
  | "MAY_HAVE_BEEN_DISPATCHED" => some .mayHaveBeenDispatched
  | "ACCEPTED" => some .accepted
  | "SETTLED" => some .settled
  | "REJECTED" => some .rejected
  | "UNKNOWN" => some .unknown
  | "RECONCILED" => some .reconciled
  | _ => none

/-- A ticket under one boot, incarnation and lease epoch. -/
def parseHostTicketForContext (value : Json) (operation : RecoveryOperation)
    (bootId instanceIncarnation : String) (leaseEpoch : ℕ) (expectedFenceId : Option String) :
    Option RecoveryAdmissionTicket := do
  let object ← value.asObject
  guard (object.length = 10 ∧ value.strIs "ticket_id" validUuidV4 ∧
    (value.get "operation_id").asStr = some operation.operationId ∧
    (value.get "payload_digest").asStr = some operation.payloadDigest ∧
    (value.get "boot_id").asStr = some bootId ∧
    (value.get "instance_incarnation").asStr = some instanceIncarnation ∧
    (value.get "lease_epoch").asU64 = some leaseEpoch ∧
    value.strIs "host_fence_id" validUuidV4 ∧
    (expectedFenceId.isNone ∨ (value.get "host_fence_id").asStr = expectedFenceId))
  return {
    ticketId := ← (value.get "ticket_id").asStr
    operationId := operation.operationId
    payloadDigest := operation.payloadDigest
    bootId
    instanceIncarnation
    leaseEpoch
    hostFenceId := ← (value.get "host_fence_id").asStr
    state := ← parseTicketState (← (value.get "state").asStr)
    issuedAtMillis := ← parseTimestampMillis (← (value.get "issued_at").asStr)
    expiresAtMillis := ← parseTimestampMillis (← (value.get "expires_at").asStr) }

def parseHostTicket (value : Json) (operation : RecoveryOperation) (proof : RecoveryLeaseProof)
    (fence : RecoveryHostFence) : Option RecoveryAdmissionTicket :=
  parseHostTicketForContext value operation proof.bootId proof.instanceIncarnation
    proof.leaseEpoch (some fence.hostFenceId)

def parseHistoricalHostTicket (value : Json) (operation : RecoveryOperation) :
    Option RecoveryAdmissionTicket :=
  parseHostTicketForContext value operation operation.bootId operation.instanceIncarnation
    operation.leaseEpoch none

/-- A witness under one boot and incarnation, and the fence of its ticket. -/
def parseHostWitnessForContext (value : Json) (operation : RecoveryOperation)
    (bootId instanceIncarnation : String) (ticketFenceId : Option String) :
    Option RecoveryEffectWitness := do
  let object ← value.asObject
  let generation ← (value.get "generation").asU64
  guard (object.length = 11 ∧ value.strIs "witness_id" validUuidV4 ∧
    (value.get "operation_id").asStr = some operation.operationId ∧
    (value.get "payload_digest").asStr = some operation.payloadDigest ∧
    (value.get "boot_id").asStr = some bootId ∧
    (value.get "instance_incarnation").asStr = some instanceIncarnation ∧
    ticketFenceId = (value.get "host_fence_id").asStr ∧
    value.strIs "source" (fun source =>
      source ∈ ["host_game_thread", "host_receipt", "authoritative_reobserve"]) ∧
    value.strIs "state_id" validUuid ∧ operation.expectedGeneration < generation ∧
    value.strIs "effect_digest" validDigest)
  return {
    witnessId := ← (value.get "witness_id").asStr
    operationId := operation.operationId
    payloadDigest := operation.payloadDigest
    bootId
    instanceIncarnation
    hostFenceId := ← (value.get "host_fence_id").asStr
    source := ← (value.get "source").asStr
    stateId := ← (value.get "state_id").asStr
    generation
    effectDigest := ← (value.get "effect_digest").asStr
    observedAtMillis := ← parseTimestampMillis (← (value.get "observed_at").asStr) }

def parseHostWitness (value : Json) (operation : RecoveryOperation) (proof : RecoveryLeaseProof)
    (ticketFenceId : Option String) : Option RecoveryEffectWitness :=
  parseHostWitnessForContext value operation proof.bootId proof.instanceIncarnation ticketFenceId

def parseHistoricalHostWitness (value : Json) (operation : RecoveryOperation)
    (ticketFenceId : Option String) : Option RecoveryEffectWitness :=
  parseHostWitnessForContext value operation operation.bootId operation.instanceIncarnation
    ticketFenceId

/-! ### The outcome of a dispatch -/

/-- The state that an answer proves, given whether it carries a ticket and a witness. -/
def hostOutcome (status hostState : String) (ticket witness : Bool) :
    RecoveryOperationState × Option RecoveryUncertaintyReason :=
  let proven := if status = "DUPLICATE" then hostState else status
  if proven = "SETTLED" ∧ witness ∧ ticket then (.settled, none)
  else if proven = "ACCEPTED" ∧ ticket then (.accepted, none)
  else if proven = "MAY_HAVE_BEEN_DISPATCHED" ∧ ticket then (.mayHaveBeenDispatched, none)
  else if status = "REJECTED" then (.rejected, none)
  else (.unknown, some .receiptMissing)

/-! ### Evidence of a lookup or a reconciliation -/

def validateHostResult (value : Json) : Except String String := do
  let object ← okOr (value.exactObject ["status", "retryable", "retry_after_seconds"])
    "host_result_invalid"
  let status ← okOr (object.get "status").asStr "host_result_status_invalid"
  let retryable ← okOr (object.get "retryable").asBool "host_result_retry_invalid"
  let after := object.get "retry_after_seconds"
  refuse (¬ after.isNull ∧ after.asU64.isNone) "host_result_retry_invalid"
  refuse (retryable ∧ after.asU64 ≠ some 1) "host_result_retry_invalid"
  return status

def validateExpectedBoundary (value : Json) (operation : RecoveryOperation) : Bool :=
  match value.exactObject ["state_id", "generation", "catalog_digest"] with
  | none => false
  | some object =>
    (object.get "state_id").asStr = some operation.expectedStateId ∧
      (object.get "generation").asU64 = some operation.expectedGeneration ∧
      (object.get "catalog_digest").asStr = some operation.catalogDigest

def validateOperationAction (value : Json) (operation : RecoveryOperation) : Bool :=
  match value.exactObject ["schema_digest", "canonical_json_b64", "payload_digest"] with
  | none => false
  | some object =>
    (object.get "schema_digest").asStr = some operation.schemaDigest ∧
      (object.get "payload_digest").asStr = some operation.payloadDigest ∧
      ((((object.get "canonical_json_b64").asStr.bind decodeEither).bind fun bytes =>
        (canonicalizeRecoveryAction bytes).toOption) = some operation.canonicalJson)

def uncertaintyReasons : List String :=
  ["transport_lost", "timeout", "gateway_crash", "host_crash", "receipt_missing",
    "authority_rotated"]

/-- A member that is absent, or that a reader makes something of. -/
def readOptional {α : Type} (value : Json) (read : Json → Option α) (error : String) :
    Except String (Option α) :=
  if value.isNull then .ok none else (okOr (read value) error).map some

def operationStateOf (object : Json) : Except String RecoveryOperationState := do
  let name ← okOr (object.get "state").asStr "host_operation_state_invalid"
  okOr (parseOperationState name) "host_operation_state_invalid"

def timeOf (object : Json) (key : String) : Except String ℕ := do
  let text ← okOr (object.get key).asStr "host_operation_time_invalid"
  okOr (parseTimestampMillis text) "host_operation_time_invalid"

def validateHostOperation (value : Json) (operation : RecoveryOperation) (reconcile : Bool) :
    Except String Unit := do
  let object ← okOr (value.exactObject
    ["operation_id", "state", "payload_digest", "original_context", "expected_boundary", "action",
      "ticket", "witness", "uncertainty_reason", "created_at", "updated_at"])
    "host_operation_shape_invalid"
  refuse (¬ hostOperationIdentityMatches value operation) "host_operation_identity_mismatch"
  let state ← operationStateOf object
  let createdAt ← timeOf object "created_at"
  let updatedAt ← timeOf object "updated_at"
  refuse (¬ validateExpectedBoundary (object.get "expected_boundary") operation ∨
    ¬ validateOperationAction (object.get "action") operation ∨ updatedAt < createdAt)
    "host_operation_context_invalid"
  let reason := object.get "uncertainty_reason"
  refuse (¬ reason.isNull ∧ ¬ reason.asStr.any fun reason => reason ∈ uncertaintyReasons)
    "host_operation_uncertainty_invalid"
  let ticket ← readOptional (object.get "ticket") (parseHistoricalHostTicket · operation)
    "host_operation_ticket_invalid"
  let witness ← readOptional (object.get "witness")
    (parseHistoricalHostWitness · operation (ticket.map (·.hostFenceId)))
    "host_operation_witness_invalid"
  refuse (witness.isSome ∧ ticket.isNone) "host_operation_witness_ticket_missing"
  refuse ((state = .settled ∨ state = .reconciled) ∧ (witness.isNone ∨ ticket.isNone))
    "host_operation_settlement_evidence_missing"
  refuse (state = .accepted ∧ witness.isSome) "host_operation_accepted_witness_invalid"
  refuse (reconcile ∧ state = .reconciled ∧ witness.isNone)
    "host_operation_reconciled_witness_missing"

/-- The outcomes that evidence may report. -/
def evidenceStatuses : List String := ["ACCEPTED", "SETTLED", "REJECTED", "UNKNOWN"]

def validateHostLookupResponse (response : Json) (operation : RecoveryOperation) :
    Except String Unit := do
  let payload ← okOr ((response.get "payload").exactObject
    ["result", "operation", "mutation_authorized"]) "host_lookup_payload_invalid"
  refuse (payload.get "mutation_authorized" ≠ .bool false) "host_lookup_mutation_authorized"
  let status ← validateHostResult (payload.get "result")
  if status = "NOT_FOUND" then
    refuse (¬ (payload.get "operation").isNull) "host_lookup_not_found_operation"
  else do
    refuse (status ∉ evidenceStatuses) "host_lookup_result_invalid"
    validateHostOperation (payload.get "operation") operation false

def validateHostReconcileResponse (response : Json) (operation : RecoveryOperation) :
    Except String Unit := do
  let payload ← okOr ((response.get "payload").exactObject ["result", "operation", "witness"])
    "host_reconcile_payload_invalid"
  let status ← validateHostResult (payload.get "result")
  let witness := payload.get "witness"
  if status = "NOT_FOUND" then
    refuse (¬ (payload.get "operation").isNull ∨ ¬ witness.isNull)
      "host_reconcile_not_found_operation"
  else do
    refuse (status ∉ evidenceStatuses) "host_reconcile_result_invalid"
    validateHostOperation (payload.get "operation") operation true
    let operationWitness := (payload.get "operation").get "witness"
    refuse (¬ witness.isNull ∧ ¬ operationWitness.isNull ∧ witness ≠ operationWitness)
      "host_reconcile_witness_mismatch"
    refuse (witness.isNull ≠ operationWitness.isNull) "host_reconcile_witness_missing"

structure HostOperationEvidence where
  resultStatus : String
  operationState : RecoveryOperationState
  ticket : Option RecoveryAdmissionTicket
  witness : Option RecoveryEffectWitness
deriving DecidableEq, Repr

/-- The states that a status may stand for. -/
def statusMatchesState (status : String) (state : RecoveryOperationState) : Bool :=
  match status with
  | "ACCEPTED" => state = .accepted
  | "SETTLED" => state = .settled || state = .reconciled
  | "REJECTED" => state = .rejected
  | "UNKNOWN" =>
    state = .intentRecorded || state = .mayHaveBeenDispatched || state = .unknown ||
      state = .reconciled
  | _ => false

def parseHostEvidence (response : Json) (operation : RecoveryOperation) (reconcile : Bool) :
    Except String HostOperationEvidence := do
  let payload := response.get "payload"
  let resultStatus ← okOr ((payload.get "result").get "status").asStr "host_result_status_invalid"
  let object := payload.get "operation"
  let operationState ← operationStateOf object
  let ticket ← readOptional (object.get "ticket") (parseHistoricalHostTicket · operation)
    "host_operation_ticket_invalid"
  let fenceId := ticket.map (·.hostFenceId)
  let witness ←
    if (payload.get "witness").isNull then
      readOptional (object.get "witness") (parseHistoricalHostWitness · operation fenceId)
        "host_operation_witness_invalid"
    else
      (okOr (parseHistoricalHostWitness (payload.get "witness") operation fenceId)
        "host_reconcile_witness_invalid").map some
  refuse (¬ statusMatchesState resultStatus operationState)
    "host_operation_status_state_mismatch"
  refuse (reconcile ∧ witness.isSome ∧ operationState = .intentRecorded)
    "host_reconcile_witness_state_invalid"
  return { resultStatus, operationState, ticket, witness }

end Sts2Gateway.Service
