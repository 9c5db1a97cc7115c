/-
Recovery operations of the service (`service_recovery_dispatch.rs`,
`service_recovery_dispatch_transport.rs`, `service_recovery_dispatch_host_core.rs`,
`service_recovery_ops_core.rs`, `service_recovery_ops_persistence.rs`).

* `submitProof`, `historicalReadProof`, `reconcileProof`: the gateway's own credentials;
* `forwardRecoveryOperation`: **the dispatch of an operation**, which its callers enter
  only after the durable mark;
* `applyHostOperationResponse`, `recoveryOperationUnknown`: how its answer is recorded;
* `recoveryOpsIntent`, `recoveryOpsDispatch`: the two frames of a caller;
* `persistHostEvidence`, `recoveryOpsLookup`, `recoveryOpsReconcile`: what the host knows of
  an operation.
-/
import Mathlib.Tactic
import Sts2Gateway.Recovery.Tickets
import Sts2Gateway.Service.Allocation
import Sts2Gateway.Service.Evidence

namespace Sts2Gateway.Service

open CompactJson Crash Exchange Procedure Recovery Text

/-! ### Credentials -/

section Hash

variable [Sha256]

def urlsafeHmacSha256 (key : List UInt8) (message : String) : String :=
  let normalized := if key.length > 64 then Sha256.digest ⟨key.toArray⟩ else key
  String.ofList (encodeBase64 base64UrlChars (hmacSha256 normalized (utf8 message)))

/-- A proof from a secret of the process environment, when it is set and long enough. -/
def secretProof (encoded : Option String) (purpose : String) (fields : List String) :
    Option String := do
  let encoded ← encoded
  guard (¬ encoded.isEmpty ∧ encoded.utf8ByteSize ≤ 512)
  let secret ← decodePadded base64Chars encoded.toList
  guard (16 ≤ secret.length)
  return urlsafeHmacSha256 secret (purpose ++ "\n" ++ String.intercalate "|" fields)

def timestampForProof (millis : ℕ) : String :=
  String.ofList (timestampFromMillis millis).toList.dropLast ++ "0000Z"

def contractFields : List String :=
  [recoveryContract, recoverySchemaDigest, runtimeV3SchemaDigest]

def submitProof (secrets : RuntimeSecrets) (lease : RecoveryLease)
    (operation : RecoveryOperation) : Option String :=
  secretProof secrets.bootstrapSecret "operation-submit" (contractFields ++
    [lease.deploymentId, lease.instanceId, lease.instanceIncarnation, lease.bootId,
      toString lease.authorityGeneration, lease.leaseId, toString lease.leaseEpoch,
      lease.fenceToken, timestampForProof lease.issuedAtMillis,
      timestampForProof lease.expiresAtMillis, toString lease.ttlSeconds,
      toString lease.renewalIntervalSeconds, operation.operationId, operation.payloadDigest])

def hostFenceProof (secrets : RuntimeSecrets) (boot : RecoveryBootContext) : Option String :=
  secretProof secrets.bootstrapSecret "host-fence" (contractFields ++
    [boot.deploymentId, boot.instanceId, boot.instanceIncarnation, boot.bootId,
      toString boot.authorityGeneration, boot.release.releaseDigest, boot.release.configDigest,
      boot.release.profileDigest, boot.release.runtimeV3SchemaDigest,
      timestampForProof boot.createdAtMillis, bootStateName boot.state])

/-- The identity and the original authority of an operation. -/
def operationFields (operation : RecoveryOperation) : List String :=
  [operation.operationId, operation.payloadDigest, operation.deploymentId, operation.instanceId,
    operation.instanceIncarnation, operation.bootId, toString operation.authorityGeneration,
    operation.leaseId, toString operation.leaseEpoch]

def historicalReadProof (secrets : RuntimeSecrets) (operation : RecoveryOperation) :
    Option String :=
  secretProof secrets.recoveryReadSecret "historical-read"
    (contractFields ++ operationFields operation)

def reconcileProof (secrets : RuntimeSecrets) (operation : RecoveryOperation) (strategy : String)
    (fence : RecoveryHostFence) : Option String :=
  secretProof secrets.recoveryReconcileSecret "reconcile"
    (contractFields ++ operationFields operation ++
      [strategy, fence.hostFenceId, fence.deploymentId, fence.instanceId,
        fence.instanceIncarnation, fence.bootId, toString fence.authorityGeneration,
        toString fence.fenceGeneration, timestampForProof fence.createdAtMillis])

end Hash

/-! ### Wire and memory -/

namespace RuntimeService

variable (service : RuntimeService)

def currentBootFromWire (value : Json) : Option RecoveryBootContext := do
  let current ← service.recoveryBoot
  guard (bootWireShape value ∧ (value.get "deployment_id").asStr = some current.deploymentId ∧
    (value.get "instance_id").asStr = some current.instanceId ∧
    (value.get "instance_incarnation").asStr = some current.instanceIncarnation ∧
    (value.get "boot_id").asStr = some current.bootId ∧
    (value.get "authority_generation").asU64 = some current.authorityGeneration ∧
    (value.get "state").asStr = some (bootStateName current.state) ∧
    parseRelease (value.get "release") = some current.release)
  return current

def currentFenceFromWire (value : Json) : Option RecoveryHostFence := do
  let current ← service.recoveryFence
  let wire ← parseFenceWire value
  guard ({ wire with createdAtMillis := current.createdAtMillis } = current)
  return current

/-- The lease in memory, when a wire value repeats it. -/
def leaseMatchingWire (value : Json) : Option RecoveryLease := do
  let current ← service.recoveryLease
  let wire ← parseLeaseWire value
  guard (wire.proof = current.proof ∧ wire.ttlSeconds = current.ttlSeconds ∧
    wire.renewalIntervalSeconds = current.renewalIntervalSeconds)
  return current

/-! ### The catalog -/

def catalogKey (lease : RecoveryLease) (stateId : String) (gameplayGeneration : ℕ) :
    RecoveryCatalogKey where
  instanceId := service.config.instanceId
  instanceIncarnation := lease.instanceIncarnation
  sessionId := service.config.sessionId
  leaseId := lease.leaseId
  leaseEpoch := lease.leaseEpoch
  stateId
  gameplayGeneration

/-- The boundary that a value of this lease shows. -/
def recoveryCatalogKey (lease : RecoveryLease) (value : Json) : Option RecoveryCatalogKey := do
  let stateId ← (value.get "state_id").asStr
  let gameplayGeneration ← (value.get "generation").asU64
  guard ((value.get "instance_id").asStr = some service.config.instanceId ∧
    (value.get "session_id").asStr = some service.config.sessionId ∧
    (value.get "lease_id").asStr = some lease.leaseId ∧
    (value.get "lease_epoch").asU64 = some lease.leaseEpoch ∧
    lease.instanceId = service.config.instanceId)
  return service.catalogKey lease stateId gameplayGeneration

/-- A changed cache, or the service as it is when the cache refuses. -/
def withCatalog (catalog : Option RecoveryCatalogCache) : RuntimeService :=
  match catalog with
  | some recoveryCatalog => { service with recoveryCatalog }
  | none => service

/-- A settled witness advances the watermark of the lease that it is about. -/
def observeRecoveryWitness (proof : RecoveryLeaseProof) (witness : RecoveryEffectWitness) :
    RuntimeService :=
  service.withCatalog do
    let lease ← service.recoveryLease
    guard (lease.proof = proof)
    service.recoveryCatalog.observe
      (service.catalogKey lease witness.stateId witness.generation)

def captureRecoveryCatalog [Sha256] (lease : RecoveryLease) (response : HttpResponse) :
    Option RecoveryCatalogCache := do
  guard (response.status = 200)
  let key ← service.recoveryCatalogKey lease (← response.body.json)
  service.recoveryCatalog.capture key response.body

/-- The cache after an answer of the host; `none` stands for an answer that it refuses. -/
def observeRecoveryCatalog (lease : RecoveryLease) (route : RuntimeV3GameplayRoute)
    (response : HttpResponse) : Option RecoveryCatalogCache := do
  if response.status ≠ 200 then return service.recoveryCatalog
  let value ← response.body.json
  if ¬ authoritativeObservation route value then return service.recoveryCatalog
  service.recoveryCatalog.observe (← service.recoveryCatalogKey lease value)

def recoveryCatalogAdmission (lease : RecoveryLease) (envelope : Json) :
    Except RecoveryCatalogAdmission String := do
  let key ← okOr (service.recoveryCatalogKey lease envelope) .missing
  refuse (envelope.get "action").asObject.isNone .actionNotCurrent
  service.recoveryCatalog.admission key (envelope.get "action")

end RuntimeService

/-! ### Transport -/

def transportStatus : RecoveryControlTransportFault → UInt16
  | .invalidFrame => 400
  | .requestOversized => 413
  | .invalidConfiguration => 500
  | .unavailableBeforeWrite | .disconnectedAfterWrite | .timeoutAfterWrite => 503
  | .malformedResponse => 502

/-- A reply to an operation that is still open asks for a retry. -/
def operationReply (kind : RecoveryKind) (correlation : String) (operation : RecoveryOperation)
    (members : List (String × Json)) : Reply :=
  let unresolved := operation.state.unresolved
  { status := if unresolved then 503 else 200
    body := .frame kind correlation (.obj
      (("result", responseResult (operationStateName operation.state) unresolved
        (if unresolved then some 1 else none)) :: members)) }

/-- The member that only a lookup or a reconciliation carries. -/
def evidenceMember (kind : RecoveryKind) (witness : Option RecoveryEffectWitness) :
    String × Json :=
  if kind = .operationLookup then ("mutation_authorized", .bool false)
  else ("witness", nullable witnessValue witness)

def recoveryOpsNotFound (kind : RecoveryKind) (correlation : String) : Reply where
  status := 404
  body := .frame kind correlation (.obj
    [("result", responseResult "NOT_FOUND" false none), ("operation", .null),
      evidenceMember kind none])

namespace Environment

variable {ε : Type} (env : Environment)

/-- A fresh frame to the host; the closed frame carries the kind. -/
def forwardFrame (kind : RecoveryKind) (correlation : String) (proof : Option String)
    (payload : Json) : ServiceM ε (Json × ControlAnswer) := do
  let principalId := (← getState).config.callerId
  let messageId ← env.drawV4
  let sentAt ← env.readUnixMillis
  let frame := RecoveryFrame.requestFrame kind principalId correlation proof payload messageId
    (timestampFromMillis sentAt)
  let answer ← env.sendControl (.recovery kind frame)
  return (frame, answer)

/-- The status of an answer and its closed frame, or the status that stands for none. -/
def forwardRecoveryControlResponse (kind : RecoveryKind) (correlation : String)
    (proof : Option String) (payload : Json) : ServiceM UInt16 (UInt16 × Json) := do
  let (frame, answer) ← env.forwardFrame kind correlation proof payload
  let response ← check (answer.mapError transportStatus)
  let value ← check ((RecoveryFrame.parseResponseFrame response.body kind).mapError fun _ => 502)
  check (refuse (value.get "correlation_id" ≠ frame.get "correlation_id") 409)
  return (response.status, value)

def forwardRecoveryControl (kind : RecoveryKind) (correlation : String) (proof : Option String)
    (payload : Json) : ServiceM UInt16 Json := do
  let (status, value) ← env.forwardRecoveryControlResponse kind correlation proof payload
  check (refuse (¬ (200 ≤ status ∧ status < 300)) status)
  return value

/-! ### Outcomes -/

def recoveryOperationValue (operation : RecoveryOperation) : ServiceM ε Json := do
  let ticket ← env.readStoreOk fun store =>
    store.admissionTicketForOperation operation.instanceId operation.operationId
  return operationValue operation ticket

def recordOutcome (report : OutcomeReport) : ServiceM RecoveryStoreError RecoveryOperation :=
  env.transact (.operation (.recordOutcome report)) fun store =>
    commit store (store.recordOutcome report)

/-- The outcome of an operation whose receipt is missing. -/
def unknownReport (operation : RecoveryOperation) (nowMillis : ℕ) : OutcomeReport where
  instanceId := operation.instanceId
  operationId := operation.operationId
  state := .unknown
  responseStatus := none
  responseBody := none
  witness := none
  uncertaintyReason := some .receiptMissing
  nowMillis

def recoveryOperationReplay (operation : RecoveryOperation) (correlation : String) :
    ServiceM ε Reply := do
  let value ← env.recoveryOperationValue operation
  return operationReply .operationDispatch correlation operation [("operation", value)]

def recoveryOperationUnknown (operation : RecoveryOperation) (correlation : String)
    (status : UInt16) : ServiceM Reply Reply := do
  let now ← env.recoveryNowMillis
  let stored ← mapError recoveryStoreError (env.recordOutcome (unknownReport operation now))
  let value ← env.recoveryOperationValue stored
  return {
    status := max status 503
    body := .frame .operationDispatch correlation (.obj
      [("result", responseResult "UNKNOWN" true (some 1)), ("operation", value)]) }

/-! ### Dispatch -/

/-- The lease in memory that a wire value repeats, after its deadline has been checked. -/
def leaseProofFromWire (value : Json) : ServiceM Reply RecoveryLeaseProof := do
  env.checkRecoveryDeadline
  let lease ← check (okOr ((← getState).leaseMatchingWire value)
    (.error 409 "recovery_stale_lease"))
  return lease.proof

section Hash

variable [Sha256]

def requireHostLeaseReady (leaseId : String) : ServiceM Reply Unit := do
  let ready ← mapError recoveryStoreError (env.hostLeaseReady leaseId)
  check (refuse (ready = false) (.error 503 "recovery_host_lease_required"))

def recordHostTicket (proof : RecoveryLeaseProof) (fence : RecoveryHostFence)
    (ticket : RecoveryAdmissionTicket) (nowMillis : ℕ) :
    ServiceM RecoveryStoreError RecoveryAdmissionTicket :=
  env.transact (.ticket (.recordHost proof fence ticket nowMillis)) fun store =>
    commit store (store.recordHostTicket proof fence ticket nowMillis)

/-- The answer to a dispatch, which counts only with the evidence of the host. -/
def applyHostOperationResponse (proof : RecoveryLeaseProof) (operation : RecoveryOperation)
    (correlation : String) (response : Json) : ServiceM Reply Reply := do
  let payload := response.get "payload"
  let hostOperation := payload.get "operation"
  if ¬ hostOperationIdentityMatches hostOperation operation then
    return ← env.recoveryOperationUnknown operation correlation 502
  match (← getState).recoveryFence with
  | none => env.recoveryOperationUnknown operation correlation 503
  | some currentFence =>
    let status := ((payload.get "result").get "status").asStr.getD ""
    let ticket := parseHostTicket (hostOperation.get "ticket") operation proof currentFence
    let witness := parseHostWitness (hostOperation.get "witness") operation proof
      (ticket.map (·.hostFenceId))
    let (state, uncertaintyReason) := hostOutcome status
      ((hostOperation.get "state").asStr.getD "") ticket.isSome witness.isSome
    let now ← env.recoveryNowMillis
    if let some ticket := ticket then
      let _ ← mapError recoveryStoreError (env.recordHostTicket proof currentFence ticket now)
    let stored ← mapError recoveryStoreError (env.recordOutcome
      { instanceId := operation.instanceId
        operationId := operation.operationId
        state
        responseStatus := some 200
        responseBody := some response.toBytes.data.toList
        witness
        uncertaintyReason
        nowMillis := now })
    if stored.state = .settled then
      if let some witness := stored.witness then
        modifyState (·.observeRecoveryWitness proof witness)
    let value ← env.recoveryOperationValue stored
    let unknown := decide (stored.state = .unknown)
    return {
      status := if unknown then 503 else 200
      body := .frame .operationDispatch correlation (.obj
        [("result", responseResult (operationStateName stored.state) unknown
          (if unknown then some 1 else none)), ("operation", value)]) }

/-- The intent frame is sent first, so that the host can retain the complete operation
before it receives the reference; then the dispatch frame, and its answer. -/
def submitOperation (lease : RecoveryLease) (operation : RecoveryOperation) (proof : String) :
    ServiceM UInt16 Json := do
  let intentCorrelation ← env.drawV4
  let intent ← env.forwardRecoveryControl .operationIntent intentCorrelation (some proof)
    (.obj [("lease", leaseValue lease), ("operation", operationIntentValue operation)])
  let payload := intent.get "payload"
  check (refuse (¬ (hostOperationIdentityMatches (payload.get "operation") operation ∧
    (payload.get "result").strIs "status" fun status =>
      status ∈ ["INTENT_RECORDED", "DUPLICATE"])) 409)
  let dispatchCorrelation ← env.drawV4
  env.forwardRecoveryControl .operationDispatch dispatchCorrelation (some proof)
    (.obj [("lease", leaseValue lease), ("operation", operationRefValue operation)])

/-- `mark_dispatched` completed durably before this is entered. -/
def forwardRecoveryOperation (proof : RecoveryLeaseProof) (operation : RecoveryOperation)
    (correlation : String) : ServiceM Reply Reply := do
  modifyState RuntimeService.invalidateRecoveryCatalog
  let service ← getState
  match service.recoveryLease with
  | none => env.recoveryOperationUnknown operation correlation 503
  | some lease =>
    match submitProof service.config.secrets lease operation with
    | none => env.recoveryOperationUnknown operation correlation 503
    | some authProof =>
      match ← attempt (env.submitOperation lease operation authProof) with
      | .error status => env.recoveryOperationUnknown operation correlation status
      | .ok response => env.applyHostOperationResponse proof operation correlation response

/-- The durable mark of an operation, and its dispatch. -/
def markAndForward (proof : RecoveryLeaseProof) (operationId : String) (nowMillis : ℕ)
    (correlation : String) : ServiceM Reply Reply := do
  let operation ← mapError recoveryStoreError <|
    env.transact (.operation (.markDispatched proof proof.instanceId operationId nowMillis))
      fun store =>
        commit store (store.markDispatched proof proof.instanceId operationId nowMillis)
  env.forwardRecoveryOperation proof operation correlation

def recoveryOpsDispatch (frame : RecoveryFrame) : ServiceM Reply Reply := do
  let proof ← env.leaseProofFromWire (frame.payload.get "lease")
  env.requireHostLeaseReady proof.leaseId
  let reference ← check (okOr (parseOperationRef (frame.payload.get "operation"))
    (.error 400 "recovery_operation_ref_invalid"))
  check (refuse (¬ contextMatchesProof reference.originalContext proof)
    (.error 409 "recovery_operation_context_mismatch"))
  let now ← env.recoveryNowMillis
  let found ← mapError recoveryStoreError (env.readStore fun store =>
    store.lookupOperation proof.instanceId reference.operationId reference.payloadDigest)
  let operation ← check (okOr found (.error 404 "recovery_operation_not_found"))
  check (refuse (¬ operationContextMatches operation proof)
    (.error 409 "recovery_operation_context_mismatch"))
  if operation.state = .intentRecorded then
    env.markAndForward proof reference.operationId now frame.correlation
  else env.recoveryOperationReplay operation frame.correlation

/-! ### Intents -/

/-- The durable intent of an operation under a lease. -/
def recordIntent (proof : RecoveryLeaseProof) (intent : RecoveryOperationIntent) :
    ServiceM RecoveryStoreError RecoveryIntentResult :=
  env.transact (.operation (.recordIntent proof intent)) fun store =>
    commit store (store.recordIntent proof intent)

def recoveryOpsIntent (frame : RecoveryFrame) : ServiceM Reply Reply := do
  let proof ← env.leaseProofFromWire (frame.payload.get "lease")
  env.requireHostLeaseReady proof.leaseId
  let parsed ← check (okOr (parseOperationPayload (frame.payload.get "operation"))
    (.error 400 "recovery_operation_invalid"))
  check (refuse (¬ contextMatchesProof parsed.originalContext proof)
    (.error 409 "recovery_operation_context_mismatch"))
  let nowMillis ← env.recoveryNowMillis
  let result ← mapError recoveryStoreError (env.recordIntent proof
    { operationId := parsed.operationId
      deploymentId := proof.deploymentId
      instanceId := proof.instanceId
      instanceIncarnation := proof.instanceIncarnation
      bootId := proof.bootId
      authorityGeneration := proof.authorityGeneration
      leaseId := proof.leaseId
      leaseEpoch := proof.leaseEpoch
      schemaDigest := parsed.schemaDigest
      canonicalJson := parsed.canonicalJson
      payloadDigest := parsed.payloadDigest
      expectedStateId := parsed.expectedStateId
      expectedGeneration := parsed.expectedGeneration
      catalogDigest := parsed.catalogDigest
      nowMillis })
  let (status, operation) := match result with
    | .created operation => ("INTENT_RECORDED", operation)
    | .duplicate operation => ("DUPLICATE", operation)
  let value ← env.recoveryOperationValue operation
  return {
    status := 200
    body := .frame .operationIntent frame.correlation (.obj
      [("result", responseResult status false none), ("operation", value)]) }

end Hash

/-! ### Lookups and reconciliations -/

/-- Whether an operation can no longer change. -/
def isTerminal (state : RecoveryOperationState) : Bool :=
  state = .settled || state = .rejected || state = .reconciled

/-- The state that evidence gives an operation. -/
def evidenceState (operation : RecoveryOperation) (evidence : HostOperationEvidence)
    (reconciliation : Bool) : Except RecoveryStoreError RecoveryOperationState := do
  let state ←
    if evidence.operationState = .reconciled ∨ (reconciliation ∧ evidence.witness.isSome) then
      pure .reconciled
    else
      match evidence.resultStatus with
      | "ACCEPTED" => pure .accepted
      | "SETTLED" => pure .settled
      | "REJECTED" => pure .rejected
      | "UNKNOWN" => pure .unknown
      | _ => .error (.contractMismatch "host recovery result is not an operation outcome")
  -- an uncertain operation is closed only by a read-only witness
  if operation.state = .unknown ∧ state ≠ .reconciled then return .unknown
  return state

/-- The evidence of the host as the operation's outcome: its ticket first, then its state. -/
def persistHostEvidence (operation : RecoveryOperation) (evidence : HostOperationEvidence)
    (responseStatus : UInt16) (response : Json) (reconciliation : Bool) :
    ServiceM RecoveryStoreError RecoveryOperation := do
  let nowMillis ← env.recoveryNowMillis
  if let some ticket := evidence.ticket then
    let _ ← env.transact (.ticket (.recordHistoricalHost operation.instanceId ticket)) fun store =>
      commit store (store.recordHistoricalHostTicket operation.instanceId ticket)
  let state ← check (evidenceState operation evidence reconciliation)
  if isTerminal operation.state ∧ operation.state ≠ state then return operation
  env.recordOutcome
    { instanceId := operation.instanceId
      operationId := operation.operationId
      state
      responseStatus := some responseStatus
      responseBody := some response.toBytes.data.toList
      witness := evidence.witness
      uncertaintyReason := if state = .unknown then some .receiptMissing else none
      nowMillis }

/-- An operation for which the host gave no evidence becomes uncertain, unless it cannot
change any more. -/
def recoveryOpsUnknown (kind : RecoveryKind) (operation : RecoveryOperation)
    (correlation : String) (status : UInt16) : ServiceM Reply Reply := do
  let now ← env.recoveryNowMillis
  let stored ← match ← attempt (env.recordOutcome (unknownReport operation now)) with
    | .ok stored => pure stored
    | .error error =>
      if isTerminal operation.state then pure operation else raise (recoveryStoreError error)
  let value ← env.recoveryOperationValue stored
  let unresolved := stored.state.unresolved
  return {
    status := if unresolved then max status 503 else 200
    body := .frame kind correlation (.obj
      [("result", responseResult
          (if unresolved then "UNKNOWN" else operationStateName stored.state) unresolved
          (if unresolved then some 1 else none)),
        ("operation", value), evidenceMember kind none]) }

/-- One read of the host about an operation, checked and recorded. -/
def requestEvidence (kind : RecoveryKind) (operation : RecoveryOperation)
    (correlation : String) (proof : Option String) (payload : Json) : ServiceM Reply Reply := do
  let reconciliation := decide (kind = .operationReconcile)
  let some proof := proof | env.recoveryOpsUnknown kind operation correlation 503
  match ← attempt (env.forwardRecoveryControlResponse kind correlation (some proof) payload) with
  | .error status => env.recoveryOpsUnknown kind operation correlation status
  | .ok (hostStatus, response) =>
    let validated := if reconciliation then validateHostReconcileResponse response operation
      else validateHostLookupResponse response operation
    if ¬ validated.isOk then
      return ← env.recoveryOpsUnknown kind operation correlation 502
    if (((response.get "payload").get "result").get "status").asStr = some "NOT_FOUND" then
      return recoveryOpsNotFound kind correlation
    match parseHostEvidence response operation reconciliation with
    | .error _ => env.recoveryOpsUnknown kind operation correlation 502
    | .ok evidence =>
      let stored ← mapError recoveryStoreError
        (env.persistHostEvidence operation evidence hostStatus response reconciliation)
      let value ← env.recoveryOperationValue stored
      return operationReply kind correlation stored
        [("operation", value), evidenceMember kind stored.witness]

/-- The operation that a reference names. -/
def findOperation (kind : RecoveryKind) (instanceId : String) (reference : OperationRef)
    (operationRef : Json) (correlation : String) : ServiceM Reply RecoveryOperation := do
  let found ← mapError recoveryStoreError (env.readStore fun store =>
    store.lookupOperation instanceId reference.operationId reference.payloadDigest)
  let operation ← check (okOr found (recoveryOpsNotFound kind correlation))
  check (refuse (¬ operationRefMatches operationRef operation)
    (.error 409 "recovery_operation_context_mismatch"))
  return operation

section Hash

variable [Sha256]

def recoveryOpsLookup (frame : RecoveryFrame) : ServiceM Reply Reply := do
  let operationRef := frame.payload.get "operation"
  let reference ← check (okOr (parseOperationRef operationRef)
    (.error 400 "recovery_operation_ref_invalid"))
  check (refuse ((frame.payload.get "lookup_scope").asStr ≠ some "historical_read")
    (.error 400 "recovery_lookup_scope_invalid"))
  let instanceId ← check (okOr (reference.originalContext.get "instance_id").asStr
    (.error 400 "recovery_operation_ref_invalid"))
  let operation ← env.findOperation .operationLookup instanceId reference operationRef
    frame.correlation
  env.requestEvidence .operationLookup operation frame.correlation
    (historicalReadProof (← getState).config.secrets operation)
    (.obj [("operation", operationRefValue operation),
      ("lookup_scope", .str "historical_read")])

def recoveryOpsReconcile (frame : RecoveryFrame) : ServiceM Reply Reply := do
  let operationRef := frame.payload.get "operation"
  let reference ← check (okOr (parseOperationRef operationRef)
    (.error 400 "recovery_operation_ref_invalid"))
  let fence ← check (okOr ((← getState).currentFenceFromWire (frame.payload.get "current_fence"))
    (.error 409 "recovery_stale_fence"))
  let strategy ← check (okOr ((frame.payload.get "strategy").asStr.filter fun strategy =>
      strategy ∈ ["reobserve", "receipt_lookup", "quarantine"])
    (.error 400 "recovery_strategy_invalid"))
  let instanceId := (reference.originalContext.get "instance_id").asStr.getD ""
  let operation ← env.findOperation .operationReconcile instanceId reference operationRef
    frame.correlation
  env.requestEvidence .operationReconcile operation frame.correlation
    (reconcileProof (← getState).config.secrets operation strategy fence)
    (.obj [("operation", operationRefValue operation), ("strategy", .str strategy),
      ("current_fence", fenceValue fence)])

end Hash

end Environment

end Sts2Gateway.Service
