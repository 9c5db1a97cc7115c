/-
The gameplay routes of a service with a recovery store (`service_v3.rs`,
`service_recovery_v3.rs`, `service_recovery_v3_translation.rs`, `relay_data` of
`service_lease.rs`).

* `recoveryV3Dispatch`: a gameplay action as a recovery operation, with its retry;
* `runtimeV3RecoveryResponse`: its answer in the terms of the gameplay contract;
* `runtimeV3Request`: **the gameplay routes**, which are admitted by `checkLease`;
* `relayData`: the older routes, relayed as they are.
-/
import Mathlib.Tactic
import Sts2Gateway.Service.Operations

namespace Sts2Gateway.Service

open CompactJson Crash Exchange Procedure Recovery Text

/-! ### Retries -/

/-- A retry repeats the operation that the store has kept. -/
def operationMatchesV3Retry (operation : RecoveryOperation) (proof : RecoveryLeaseProof)
    (action : List UInt8) (stateId : String) (generation : ℕ) : Bool :=
  operationContextMatches operation proof ∧ operation.schemaDigest = runtimeV3SchemaDigest ∧
    operation.canonicalJson = action ∧ operation.expectedStateId = stateId ∧
    operation.expectedGeneration = generation

def catalogRefusal : RecoveryCatalogAdmission → Reply
  | .missing => .error 409 "recovery_catalog_fresh_read_required"
  | .stale => .error 409 "recovery_catalog_stale"
  | .actionNotCurrent => .error 409 "recovery_action_not_current"

/-! ### Translation -/

/-- The members that a state request leaves open. -/
def openMembers : List String :=
  ["state_id", "operation_id", "observation", "legal_actions", "action", "status", "transition",
    "error_code", "wait_for_millis", "wait_outcome", "recovery"]

def runtimeV3StateRequest (request : Json) : Json :=
  openMembers.foldl (fun state field => state.set field .null)
    (request.set "kind" (.str "state_request"))

def runtimeV3UnknownValue (request : Json) (errorCode : String) : Json :=
  ((((runtimeV3StateRequest request).set "kind" (.str "dispatch_action_response")).set
    "operation_id" (request.get "operation_id")).set "status" (.str "unknown")).set
    "error_code" (.str errorCode)

/-- The state of the host as the answer to a settled or rejected action. -/
def runtimeV3Settlement (state request : Json) (settled : Bool) : Json :=
  ((((state.set "kind" (.str "dispatch_action_response")).set
    "operation_id" (request.get "operation_id")).set
    "status" (.str (if settled then "settled" else "rejected"))).set
    "error_code" (if settled then .null else .str "recovery_operation_rejected")).set
    "transition"
      (if settled then .obj
        [("from_generation", request.get "generation"),
          ("to_generation", state.get "generation"), ("state_id", state.get "state_id"),
          ("effect_kind", .str "recovery_operation_settled")]
      else .null)

def runtimeV3RequestStatus : RuntimeV3GameplayForwardError → UInt16
  | .requestBodyOversized => 413
  | .requestBodyRequired | .requestBodyMalformed => 400
  | .responseOversized | .responseMalformed => 502

def runtimeV3ErrorCode : RuntimeV3GameplayForwardError → String
  | .requestBodyRequired => "runtime_v3_body_required"
  | .requestBodyOversized => "runtime_v3_body_oversized"
  | .requestBodyMalformed => "runtime_v3_request_invalid"
  | .responseOversized => "runtime_v3_response_oversized"
  | .responseMalformed => "runtime_v3_response_invalid"

def maxBodyBytes : ℕ := 16 * 1024

/-- A fence that belongs to a lease's authority. -/
def fenceMatchesProof (fence : RecoveryHostFence) (proof : RecoveryLeaseProof) : Bool :=
  fence.deploymentId = proof.deploymentId ∧ fence.instanceId = proof.instanceId ∧
    fence.instanceIncarnation = proof.instanceIncarnation ∧ fence.bootId = proof.bootId ∧
    fence.authorityGeneration = proof.authorityGeneration

/-- A ready boot of a lease's authority. -/
def bootMatchesProof (boot : RecoveryBootContext) (proof : RecoveryLeaseProof) : Bool :=
  boot.state = .ready ∧ boot.deploymentId = proof.deploymentId ∧
    boot.instanceId = proof.instanceId ∧
    boot.instanceIncarnation = proof.instanceIncarnation ∧ boot.bootId = proof.bootId ∧
    boot.authorityGeneration = proof.authorityGeneration

/-- What a gameplay answer changes in the catalog. -/
def RuntimeService.catalogUpdate [Sha256] (service : RuntimeService) (lease : RecoveryLease)
    (route : RuntimeV3GameplayRoute) (response : HttpResponse) : Option RecoveryCatalogCache :=
  if route = .legalActions then service.captureRecoveryCatalog lease response
  else service.observeRecoveryCatalog lease route response

namespace Environment

variable {ε : Type} (env : Environment)

section Hash

variable [Sha256]

/-! ### Dispatch -/

/-- An action whose operation the store already holds is replayed, or dispatched for the
first time. -/
def retryV3Dispatch (operation : RecoveryOperation) (proof : RecoveryLeaseProof)
    (operationId correlation : String) : ServiceM Reply Reply := do
  if operation.state = .intentRecorded then
    let now ← env.recoveryNowMillis
    env.markAndForward proof operationId now correlation
  else env.recoveryOperationReplay operation correlation

def recoveryV3Dispatch (request : HttpRequest) (envelope : Json) : ServiceM Reply Reply := do
  let service ← getState
  let lease ← check (okOr service.recoveryLease (.error 409 "lease_not_active"))
  let _ ← check (okOr service.recoveryFence (.error 503 "recovery_host_fence_required"))
  let action ← check (okOr
    ((canonicalizeRecoveryAction (envelope.get "action").toBytes.data.toList).toOption.filter
      fun action => action.length ≤ maxRecoveryActionBytes)
    (.error 400 "recovery_action_invalid"))
  let operationId ← check (okOr (envelope.get "operation_id").asStr
    (.error 400 "recovery_operation_invalid"))
  let stateId ← check (okOr (envelope.get "state_id").asStr
    (.error 400 "recovery_operation_invalid"))
  let generation ← check (okOr (envelope.get "generation").asU64
    (.error 400 "recovery_operation_invalid"))
  check (refuse (¬ (validUuidV4 operationId ∧ validUuid stateId))
    (.error 400 "recovery_operation_invalid"))
  let payloadDigest := sha256Hex ⟨action.toArray⟩
  let proof := lease.proof
  let correlation := (request.header "x-sts2-correlation-id").getD
    ((envelope.get "correlation_id").asStr.getD "")
  -- a retry consults the durable record before the catalog, which may have moved on
  let existing ← mapError recoveryStoreError (env.readStore fun store =>
    store.lookupOperation proof.instanceId operationId payloadDigest)
  match existing with
  | some operation =>
    check (refuse (¬ operationMatchesV3Retry operation proof action stateId generation)
      (.error 409 "recovery_operation_context_mismatch"))
    env.retryV3Dispatch operation proof operationId correlation
  | none =>
    let catalogDigest ← check
      (((← getState).recoveryCatalogAdmission lease envelope).mapError catalogRefusal)
    let nowMillis ← env.recoveryNowMillis
    let result ← mapError recoveryStoreError (env.recordIntent proof
      { operationId
        deploymentId := proof.deploymentId
        instanceId := proof.instanceId
        instanceIncarnation := proof.instanceIncarnation
        bootId := proof.bootId
        authorityGeneration := proof.authorityGeneration
        leaseId := proof.leaseId
        leaseEpoch := proof.leaseEpoch
        schemaDigest := runtimeV3SchemaDigest
        canonicalJson := action
        payloadDigest
        expectedStateId := stateId
        expectedGeneration := generation
        catalogDigest
        nowMillis })
    match result with
    | .created _ => do
      let now ← env.recoveryNowMillis
      env.markAndForward proof operationId now correlation
    | .duplicate operation => env.retryV3Dispatch operation proof operationId correlation

/-! ### The answer -/

/-- An answer of the gameplay contract that settles nothing. -/
def runtimeV3UnknownResponse (request : Json) (errorCode : String) : Reply :=
  let value := runtimeV3UnknownValue request errorCode
  if (env.runtimeV3.validateResponse .dispatchAction request (.ofJson value)).isOk then
    { status := 503, body := .json value }
  else
    { status := 503, body := .json (.obj [("error", .str "recovery_translation_failed")]) }

def recoveryAuthorityCurrent (proof : RecoveryLeaseProof) : ServiceM ε Bool := do
  env.checkRecoveryDeadline
  let service ← getState
  match service.recoveryLease.filter fun lease => lease.proof = proof with
  | none => return false
  | some lease =>
    let grantMatches ← attempt (env.activeHostGrantMatches lease)
    return service.leaseActive && !service.leaseRevoked && !service.shutdownRequested &&
      service.recoveryFence.any (fenceMatchesProof · proof) &&
      service.recoveryBoot.any (bootMatchesProof · proof) &&
      (match grantMatches with | .ok ready => ready | .error _ => false)

/-- A fresh state of the host under an authority that held before and after the read. -/
def runtimeV3PostRecoveryState (proof : RecoveryLeaseProof) (request : Json) :
    ServiceM Unit Json := do
  env.checkRecoveryDeadline
  let current ← env.recoveryAuthorityCurrent proof
  check (refuse (current = false) ())
  let service ← getState
  let lease ← check (okOr service.recoveryLease ())
  let fence ← check (okOr service.recoveryFence ())
  let stateRequest := runtimeV3StateRequest request
  let answer ← env.forwardMod "GET" RuntimeV3GameplayRoute.state.downstreamPath stateRequest
  let response ← check (answer.mapError fun _ => ())
  env.checkRecoveryDeadline
  let service ← getState
  check (refuse (service.recoveryLease ≠ some lease ∨ service.recoveryFence ≠ some fence) ())
  let current ← env.recoveryAuthorityCurrent proof
  check (refuse (current = false) ())
  check (refuse (response.status ≠ 200 ∨
    ¬ (env.runtimeV3.validateResponse .state stateRequest response.body).isOk) ())
  let state ← check (okOr response.body.json ())
  let catalog := (← getState).observeRecoveryCatalog lease .state response
  modifyState (·.withCatalog catalog)
  check (refuse catalog.isNone ())
  return state

/-- What an answer to a dispatch means for the caller of the gameplay contract. -/
def runtimeV3RecoveryResponse (proof : RecoveryLeaseProof) (request : Json) (hostStatus : UInt16)
    (payload : Json) : ServiceM ε Reply := do
  let operation := payload.get "operation"
  if operation.asObject.isNone then
    return env.runtimeV3UnknownResponse request "recovery_operation_missing"
  if operation.get "operation_id" ≠ request.get "operation_id" then
    return env.runtimeV3UnknownResponse request "recovery_operation_mismatch"
  let status := ((payload.get "result").get "status").asStr.getD ""
  if status ≠ "SETTLED" ∧ status ≠ "REJECTED" then
    return env.runtimeV3UnknownResponse request
      (match status with
        | "ACCEPTED" => "recovery_operation_pending"
        | "UNKNOWN" =>
          (operation.get "uncertainty_reason").asStr.getD "recovery_operation_unknown"
        | _ => "settlement_unproven")
  match ← attempt (env.runtimeV3PostRecoveryState proof request) with
  | .error _ =>
    return env.runtimeV3UnknownResponse request "settlement_observation_unavailable"
  | .ok state =>
    let settled := decide (status = "SETTLED")
    match (state.get "state_id").asStr, (state.get "generation").asU64 with
    | some stateId, some generation =>
      let witness := operation.get "witness"
      if settled && !decide ((witness.get "state_id").asStr = some stateId ∧
          (witness.get "generation").asU64 = some generation) then
        return env.runtimeV3UnknownResponse request "settlement_witness_mismatch"
      if settled && decide (generation ≤ (request.get "generation").asU64.getD (2 ^ 64 - 1)) then
        return env.runtimeV3UnknownResponse request "settlement_generation_invalid"
      let response := runtimeV3Settlement state request settled
      if (env.runtimeV3.validateResponse .dispatchAction request (.ofJson response)).isOk then
        return { status := if settled then 200 else hostStatus, body := .json response }
      return env.runtimeV3UnknownResponse request "settlement_response_invalid"
    | _, _ => return env.runtimeV3UnknownResponse request "settlement_observation_invalid"

def runtimeV3RecoveryDispatch (request : HttpRequest) (envelope : Json) :
    ServiceM Reply Reply := do
  match (← getState).recoveryLease with
  | none => env.recoveryV3Dispatch request envelope
  | some lease =>
    let raw ← merged (env.recoveryV3Dispatch request envelope)
    match raw.body with
    | .frame .operationDispatch _ payload =>
      env.runtimeV3RecoveryResponse lease.proof envelope raw.status payload
    | _ => return raw

/-! ### Routes -/

def runtimeV3Request (route : RuntimeV3GameplayRoute) (request : HttpRequest) :
    ServiceM Reply Reply := do
  env.checkLease request
  check (refuse (¬ request.contentTypeIsJson) (.error 400 "runtime_v3_content_type_required"))
  let envelope ← check ((env.runtimeV3.validateRequest route request).mapError fun error =>
    .error (runtimeV3RequestStatus error) (runtimeV3ErrorCode error))
  if route = .dispatchAction then
    return ← env.runtimeV3RecoveryDispatch request envelope
  let answer ← env.forwardMod (if route.isPost then "POST" else "GET") route.downstreamPath envelope
  let response ← check (answer.mapError fun status =>
    .error status "runtime_v3_downstream_unavailable")
  if env.runtimeV3.isLegalActionsRecovery route envelope response then
    return { status := response.status, body := .relayed response.body }
  check ((env.runtimeV3.validateResponse route envelope response.body).mapError fun error =>
    .error 502 (runtimeV3ErrorCode error))
  let service ← getState
  if let some lease := service.recoveryLease then
    let catalog := service.catalogUpdate lease route response
    modifyState (·.withCatalog catalog)
    check (refuse catalog.isNone (.error 502 "runtime_v3_catalog_observation_invalid"))
  return { status := response.status, body := .relayed response.body }

def relayData (request : HttpRequest) (method path : String) : ServiceM Reply Reply := do
  env.checkLease request
  check (refuse (request.body.size > maxBodyBytes ∨
    (request.body.size ≠ 0 ∧ request.body.json.isNone)) (.error 400 "runtime_body_invalid"))
  let answer ← env.forwardMod method path (request.body.json.getD .null)
  let response ← check (answer.mapError fun status => .error status "downstream_unavailable")
  check (refuse (response.body.size > maxBodyBytes) (.error 502 "downstream_response_oversized"))
  return { status := response.status, body := .relayed response.body }

end Hash

end Environment

end Sts2Gateway.Service
