/-
The requests of a service and the process that serves them
(`service_recovery_route.rs`, `service_recovery_leases.rs`, `service_recovery_lease.rs`,
`service_recovery_owner.rs`, `service_recovery_owner_adopt.rs`, `service_routes.rs`,
`service_runtime.rs`).

* `recoveryRoute`: the frames of the recovery contract;
* `readOwnerSnapshot`, `ownerRoute`: the continuation owner;
* `Request`, `handle`: **every request that touches a recovery lease or the store**;
* `start`: a process over a store, which begins with a boot;
* `Process`, `Input`, `step`: the gateway and its restarts.

A request that fails authorization is refused before it gets here.  The frames of the
continuation owner are given by their payloads.
-/
import Mathlib.Tactic
import Sts2Gateway.Library.Machine
import Sts2Gateway.Service.Gameplay

namespace Sts2Gateway.Service

open CompactJson Crash Exchange Procedure Recovery Text

/-! ### Bootstrap and fence -/

/-- What a bootstrap frame asks for. -/
structure BootstrapRequest where
  deploymentId : String
  instanceId : String
  instanceIncarnation : String
  release : RecoveryReleaseSet
  ttlSeconds : ℕ
  renewalIntervalSeconds : ℕ

def BootstrapRequest.parse (payload : Json) : Except Reply BootstrapRequest := do
  let invalid : Reply := .error 400 "recovery_bootstrap_invalid"
  let deploymentId ← okOr (payload.get "deployment_id").asStr invalid
  let instanceId ← okOr (payload.get "instance_id").asStr invalid
  let instanceIncarnation ← okOr (payload.get "instance_incarnation").asStr invalid
  refuse (¬ (validUuid deploymentId ∧ validUuid instanceId ∧ validUuidV4 instanceIncarnation))
    (.error 400 "recovery_bootstrap_identity_invalid")
  let release ← okOr (parseRelease (payload.get "release"))
    (.error 400 "recovery_bootstrap_release_invalid")
  let invalidPolicy : Reply := .error 400 "recovery_bootstrap_policy_invalid"
  let policy ← okOr ((payload.get "lease_policy").exactObject
    ["ttl_seconds", "renewal_interval_seconds"]) invalidPolicy
  let ttlSeconds ← okOr (policy.get "ttl_seconds").asU64 invalidPolicy
  let renewalIntervalSeconds ← okOr (policy.get "renewal_interval_seconds").asU64 invalidPolicy
  refuse (¬ (5 ≤ ttlSeconds ∧ ttlSeconds ≤ 300) ∨ renewalIntervalSeconds = 0 ∨
    ttlSeconds ≤ renewalIntervalSeconds) invalidPolicy
  return {
    deploymentId
    instanceId
    instanceIncarnation
    release
    ttlSeconds := ttlSeconds
    renewalIntervalSeconds }

/-- A request of this gateway's own deployment, instance, release and lease policy. -/
def BootstrapRequest.isFor (request : BootstrapRequest) (config : RuntimeConfig) : Bool :=
  config.recoveryDeploymentId = request.deploymentId ∧ config.instanceId = request.instanceId ∧
    request.release = config.recoveryRelease ∧ request.ttlSeconds = config.recoveryTtlSeconds ∧
    request.renewalIntervalSeconds = config.recoveryRenewalIntervalSeconds

def recoveryControlError : RecoveryControlTransportFault → Reply
  | .invalidFrame => .error 400 "recovery_host_fence_frame_invalid"
  | .requestOversized => .error 413 "recovery_frame_oversized"
  | .invalidConfiguration => .error 500 "recovery_control_configuration_invalid"
  | .unavailableBeforeWrite => .error 503 "recovery_host_unavailable"
  | .disconnectedAfterWrite | .timeoutAfterWrite | .malformedResponse =>
    .error 503 "recovery_host_fence_outcome_unknown"

namespace RuntimeService

variable (service : RuntimeService)

/-- A new boot: nothing of the old one counts any more. -/
def rebooted (boot : RecoveryBootContext) : RuntimeService :=
  { service with
    recoveryBoot := some boot
    recoveryFence := none
    recoveryLease := none
    allocationCleanupLeaseId := none
    recoveryLeaseDeadline := none
    recoveryHostGrant := none
    leaseActive := false
    leaseRevoked := false }

def fenced (boot : RecoveryBootContext) (fence : RecoveryHostFence) : RuntimeService :=
  { service with
    recoveryBoot := some boot
    recoveryFence := some fence }

end RuntimeService

/-- A frame that answers a request. -/
def frameReply (kind : RecoveryKind) (frame : RecoveryFrame) (status : String)
    (members : List (String × Json)) : Reply where
  status := 200
  body := .frame kind frame.correlation
    (.obj (("result", responseResult status false none) :: members))

namespace Environment

variable {ε : Type} (env : Environment)

def startBoot (deploymentId instanceId incarnation : String) (release : RecoveryReleaseSet)
    (nowMillis : ℕ) : ServiceM RecoveryStoreError RecoveryBootContext := do
  let bootId ← env.drawV4
  env.transact (.authority (.startBoot bootId deploymentId instanceId incarnation release
    nowMillis)) fun store =>
      commit store (store.startBootWithIncarnation bootId deploymentId instanceId incarnation
        release nowMillis)

def recoveryBootstrap (frame : RecoveryFrame) : ServiceM Reply Reply := do
  let request ← check (BootstrapRequest.parse frame.payload)
  check (refuse (¬ request.isFor (← getState).config)
    (.error 409 "recovery_bootstrap_context_mismatch"))
  let now ← env.recoveryNowMillis
  let boot ← mapError recoveryStoreError (env.startBoot request.deploymentId request.instanceId
    request.instanceIncarnation request.release now)
  modifyState (·.rebooted boot)
  return frameReply .bootstrap frame "BOOT_AUTHORITY_CREATED"
    [("boot", bootValue boot), ("fence", .null)]

section Hash

variable [Sha256]

/-- The fence that the host has accepted for a boot. -/
def requestHostFence (frame : RecoveryFrame) (boot : RecoveryBootContext) :
    ServiceM Reply RecoveryHostFence := do
  let proof ← check (okOr (hostFenceProof (← getState).config.secrets boot)
    (.error 503 "recovery_auth_unavailable"))
  let (_, answer) ← env.forwardFrame .hostFence frame.correlation (some proof)
    (.obj [("boot", bootValue boot)])
  let response ← check (answer.mapError recoveryControlError)
  check (refuse (response.status ≠ 200)
    { status := response.status, body := .relayed response.body })
  let value ← check ((RecoveryFrame.parseResponseFrame response.body .hostFence).mapError
    fun _ => .error 503 "recovery_host_fence_outcome_unknown")
  check (refuse (value.get "correlation_id" ≠ frame.value.get "correlation_id")
    (.error 409 "recovery_correlation_mismatch"))
  let payload := value.get "payload"
  check (refuse (((payload.get "result").get "status").asStr ≠ some "FENCE_ACCEPTED")
    (.error 409 "recovery_host_fence_rejected"))
  let fence ← check (okOr (parseFenceWire (payload.get "fence"))
    (.error 502 "recovery_host_fence_response_invalid"))
  check (refuse (¬ sameBootFence fence boot) (.error 409 "recovery_host_fence_context_mismatch"))
  return fence

def completeHostFence (boot : RecoveryBootContext) (hostFence : RecoveryHostFence)
    (nowMillis : ℕ) : ServiceM RecoveryStoreError RecoveryHostFence :=
  env.transact (.authority (.completeHostFence boot hostFence.hostFenceId
    hostFence.fenceGeneration nowMillis)) fun store =>
      commit store (store.completeHostFenceFromHost boot hostFence.hostFenceId
        hostFence.fenceGeneration nowMillis)

def recoveryHostFenceFrame (frame : RecoveryFrame) : ServiceM Reply Reply := do
  let boot ← check (okOr ((← getState).currentBootFromWire (frame.payload.get "boot"))
    (.error 409 "recovery_stale_boot"))
  let hostFence ← env.requestHostFence frame boot
  let now ← env.recoveryNowMillis
  let fence ← mapError recoveryStoreError (env.completeHostFence boot hostFence now)
  let authoritativeBoot ← mapError recoveryStoreError (env.readStore (·.currentBoot))
  -- the durable transition is authoritative
  modifyState (·.fenced authoritativeBoot fence)
  return frameReply .hostFence frame "FENCE_ACCEPTED" [("fence", fenceValue fence)]

/-! ### Leases -/

def installAcquired (frame : RecoveryFrame) (boot : RecoveryBootContext)
    (fence : RecoveryHostFence) (lease : RecoveryLease) : ServiceM Reply Reply := do
  let lease ← mapError HostLeaseFailure.body
    (env.installHostLease boot fence lease frame.correlation)
  return frameReply .leaseAcquire frame "LEASE_ACTIVE" [("lease", leaseValue lease)]

def recoveryLeaseAcquire (frame : RecoveryFrame) : ServiceM Reply Reply := do
  let service ← getState
  let boot ← check (okOr (service.currentBootFromWire (frame.payload.get "boot"))
    (.error 409 "recovery_stale_boot"))
  let fence ← check (okOr (service.currentFenceFromWire (frame.payload.get "fence"))
    (.error 409 "recovery_stale_fence"))
  -- a lost install acknowledgment is retried with the same lease and installation
  match ← env.pendingInstall boot with
  | some pending => env.installAcquired frame boot fence pending
  | none =>
    let lease ← env.acquireLease boot fence
    modifyState (·.withLease lease)
    env.installAcquired frame boot fence lease

def recoveryLeaseRenew (frame : RecoveryFrame) : ServiceM Reply Reply := do
  let proof ← env.leaseProofFromWire (frame.payload.get "lease")
  let sequence ← check (okOr (frame.payload.get "renew_sequence").asU64
    (.error 400 "recovery_renew_sequence_invalid"))
  let lease ← mapError HostLeaseFailure.body
    (env.renewHostLease proof sequence frame.correlation)
  return frameReply .leaseRenew frame "LEASE_RENEWED" [("lease", leaseValue lease)]

def recoveryLeaseRevoke (frame : RecoveryFrame) : ServiceM Reply Reply := do
  let proof ← env.leaseProofFromWire (frame.payload.get "lease")
  let reason ← check (okOr ((frame.payload.get "reason").asStr.filter fun reason =>
    reason ∈ revokeReasons) (.error 400 "recovery_revoke_reason_invalid"))
  -- an external revoke is intentional, including the shutdown reason
  modifyState RuntimeService.clearCleanup
  mapError HostLeaseFailure.body (env.revokeHostLease proof reason frame.correlation)
  return frameReply .leaseRevoke frame "LEASE_REVOKED" []

/-! ### The route -/

/-- A fresh mutation is refused while a stop is in force. -/
def admitKind (service : RuntimeService) (kind : RecoveryKind) : Except Reply Unit :=
  match kind with
  | .leaseAcquire =>
    refuse (service.leaseRevoked ∨ service.shutdownRequested)
      (.error 409 "lease_context_revoked")
  | .leaseRenew | .operationIntent | .operationDispatch => do
    refuse (service.leaseRevoked ∨ service.shutdownRequested)
      (.error 409 "lease_context_revoked")
    refuse (service.leaseActive = false) (.error 409 "lease_not_active")
  | _ => .ok ()

def recoveryFrameError : RecoveryFrameError → Reply
  | .oversized => .error 413 "recovery_frame_oversized"
  | .invalid => .error 400 "recovery_frame_invalid"

/-- A frame of this gateway's own caller. -/
def acceptFrame (service : RuntimeService) (request : HttpRequest) (kind : RecoveryKind) :
    Except Reply RecoveryFrame := do
  refuse (request.header "x-sts2-recovery-capability" ≠ some kind.capability)
    (.error 403 "recovery_capability_forbidden")
  refuse (¬ request.contentTypeIsJson ∨ request.body.size = 0)
    (.error 400 "recovery_frame_required")
  let frame ← (RecoveryFrame.parse request.body kind).mapError recoveryFrameError
  refuse (((frame.value.get "actor").get "principal_id").asStr ≠ some service.config.callerId ∨
    ((frame.value.get "auth").get "principal_id").asStr ≠ some service.config.callerId)
    (.error 403 "recovery_principal_forbidden")
  admitKind service kind
  return frame

def recoveryRoute (kind : RecoveryKind) (request : HttpRequest) : ServiceM Reply Reply := do
  let frame ← check (acceptFrame (← getState) request kind)
  match kind with
  | .bootstrap => env.recoveryBootstrap frame
  | .hostFence => env.recoveryHostFenceFrame frame
  | .leaseAcquire => env.recoveryLeaseAcquire frame
  | .leaseRenew => env.recoveryLeaseRenew frame
  | .leaseRevoke => env.recoveryLeaseRevoke frame
  | .operationIntent => env.recoveryOpsIntent frame
  | .operationDispatch => env.recoveryOpsDispatch frame
  | .operationLookup => env.recoveryOpsLookup frame
  | .operationReconcile => env.recoveryOpsReconcile frame

/-! ### Continuation owners -/

/-- The owner of the live destination, as the tables and the memory show it. -/
def readOwnerSnapshot : ServiceM RecoveryStoreError RecoveryContinuationOwnerSnapshot := do
  env.checkRecoveryDeadline
  let now ← env.recoveryNowMillis
  let service ← getState
  let snapshot ← env.readStore fun store =>
    store.currentContinuationOwner service.config.sessionId now
  if snapshot.state ≠ .available then return snapshot
  let memoryOwner := do
    let lease ← service.recoveryLease
    let fence ← service.recoveryFence
    return ownerOf lease fence service.config.sessionId
  let bootMatches := snapshot.owner.any fun owner => service.recoveryBoot.any fun boot =>
    decide (boot.deploymentId = owner.deploymentId ∧ boot.instanceId = owner.instanceId ∧
      boot.instanceIncarnation = owner.instanceIncarnation ∧ boot.bootId = owner.bootId ∧
      boot.authorityGeneration = owner.authorityGeneration ∧ boot.state = .ready)
  let grantMatches ← match service.recoveryLease with
    | some lease => env.activeHostGrantMatches lease
    | none => pure false
  let memoryIsLive := service.leaseActive && !service.leaseRevoked && !service.shutdownRequested
  let beforeDeadline ←
    if memoryIsLive then
      match service.recoveryLeaseDeadline with
      | some deadline => do
        let instant ← env.readInstant
        pure (decide (instant < deadline))
      | none => pure false
    else pure false
  if beforeDeadline && bootMatches && grantMatches && decide (memoryOwner = snapshot.owner) then
    return snapshot
  return { snapshot with state := .unknown }

def ownerStateName : RecoveryContinuationOwnerState → String
  | .available => "available"
  | .absent => "absent"
  | .expired => "expired"
  | .revoked => "revoked"
  | .unknown => "unknown"

def ownerStateError : RecoveryContinuationOwnerState → Reply
  | .available => .error 409 "continuation_owner_invalid"
  | .absent => .error 404 "continuation_owner_absent"
  | .expired => .error 410 "continuation_owner_expired"
  | .revoked => .error 409 "continuation_owner_revoked"
  | .unknown => .error 503 "continuation_owner_unknown"

def snapshotMembers (snapshot : RecoveryContinuationOwnerSnapshot) : List (String × Json) :=
  [("state", .str (ownerStateName snapshot.state)),
    ("owner", nullable RecoveryContinuationOwner.toJson snapshot.owner)]

def claimValue (claim : RecoveryContinuationOwnerClaim) : Json :=
  .obj [("operation_id", .str claim.operationId), ("request_digest", .str claim.requestDigest),
    ("owner", claim.owner.toJson), ("claimed_at_millis", .num claim.claimedAtMillis)]

/-- The payload of a continuation owner frame. -/
inductive OwnerRequest where
  | read
  | claim (operationId : String) (expectedOwner : RecoveryContinuationOwner)
  | lookup (operationId : String)
  | adopt (operationId : String) (owner : RecoveryContinuationOwner)

/-- A live owner that is the expected one. -/
def expectOwner (expected : RecoveryContinuationOwner) : ServiceM Reply Unit := do
  let live ← mapError recoveryStoreError env.readOwnerSnapshot
  check (refuse (live.state ≠ .available) (ownerStateError live.state))
  check (refuse (live.owner ≠ some expected) (.error 409 "continuation_owner_fence_mismatch"))

def claimOwner (operationId : String) (expectedOwner : RecoveryContinuationOwner) :
    ServiceM Reply Json := do
  env.expectOwner expectedOwner
  let now ← env.recoveryNowMillis
  let result ← mapError recoveryStoreError <|
    env.transact (.owner (.claim operationId expectedOwner now)) fun store =>
      commit store (store.claimContinuationOwner operationId expectedOwner now)
  return match result with
    | .created claim => .obj [("result", .str "CLAIMED"), ("claim", claimValue claim)]
    | .duplicate claim => .obj [("result", .str "DUPLICATE"), ("claim", claimValue claim)]

def lookupClaim (operationId : String) : ServiceM Reply Json := do
  let snapshot ← mapError recoveryStoreError env.readOwnerSnapshot
  let claim ← mapError recoveryStoreError (env.readStore fun store =>
    store.lookupContinuationOwnerClaim operationId)
  return .obj
    [("claim_state", .str (if claim.isSome then "historical" else "not_found")),
      ("claim", nullable claimValue claim), ("current_owner", .obj (snapshotMembers snapshot))]

def adoptOwner (operationId : String) (owner : RecoveryContinuationOwner) :
    ServiceM Reply Json := do
  env.expectOwner owner
  check (refuse (owner.sessionId ≠ (← getState).config.sessionId)
    (.error 409 "continuation_owner_fence_mismatch"))
  let now ← env.recoveryNowMillis
  let adoption ← mapError recoveryStoreError <|
    env.transact (.owner (.adopt operationId owner now)) fun store =>
      query store (store.adoptContinuationOwner operationId owner now)
  -- a deadline that passed during the call must not return authority
  env.expectOwner adoption.owner
  check (refuse (adoption.owner ≠ owner ∨
    (← getState).recoveryFence ≠ some adoption.currentFence)
    (.error 409 "continuation_owner_fence_mismatch"))
  return .obj
    [("result", .str "ADOPTED"), ("claim", claimValue adoption.claim),
      ("owner", adoption.owner.toJson),
      ("recovery_authority", recoveryAuthorityFromOwner adoption.owner adoption.currentFence)]

def ownerRoute (correlation : String) : OwnerRequest → ServiceM Reply Reply
  | .read => do
    let snapshot ← mapError recoveryStoreError env.readOwnerSnapshot
    return {
      status := 200
      body := .ownerFrame "current_owner_response" correlation (.obj (snapshotMembers snapshot)) }
  | .claim operationId expectedOwner => do
    let payload ← env.claimOwner operationId expectedOwner
    return { status := 200, body := .ownerFrame "owner_claim_response" correlation payload }
  | .lookup operationId => do
    let payload ← env.lookupClaim operationId
    return { status := 200, body := .ownerFrame "owner_claim_lookup_response" correlation payload }
  | .adopt operationId owner => do
    let payload ← env.adoptOwner operationId owner
    return { status := 200, body := .ownerFrame "owner_adopt_response" correlation payload }

/-! ### Requests -/

def recoveryReady : ServiceM ε Bool := do
  env.checkRecoveryDeadline
  let service ← getState
  return service.recoveryFence.isSome &&
    service.recoveryBoot.any fun boot => boot.state = .ready

def health : ServiceM Reply Reply := do
  let ready ← env.recoveryReady
  check (refuse (ready = false) (.error 503 "recovery_host_fence_required"))
  let answer ← env.forwardMod "GET" "/health/ready" .null
  let response ← check (answer.mapError fun status => .error status "downstream_unavailable")
  check (refuse (response.status ≠ 200) (.error 503 "downstream_not_ready"))
  let instanceId := (← getState).config.instanceId
  return {
    status := 200
    body := .json (.obj [("status", .str "ready"), ("instance_id", .str instanceId),
      ("downstream", .str "ready")]) }

end Hash

end Environment

/-- A request past authorization.  `guarded` is any other route: it begins with
`check_lease` and touches neither the store nor the lease after that. -/
inductive Request where
  | recovery (kind : RecoveryKind) (request : HttpRequest)
  | owner (correlation : String) (request : Environment.OwnerRequest)
  | allocate (body : Body)
  | release (request : HttpRequest)
  | shutdown (request : HttpRequest)
  | runtimeV3 (route : RuntimeV3GameplayRoute) (request : HttpRequest)
  | relay (request : HttpRequest) (method path : String)
  | guarded (request : HttpRequest)
  | health

section Hash

variable [Sha256]

def Environment.handle (env : Environment) : Request → ServiceM Reply Reply
  | .recovery kind request => env.recoveryRoute kind request
  | .owner correlation request => env.ownerRoute correlation request
  | .allocate body => env.allocate body
  | .release request => env.release request
  | .shutdown request => env.runtimeV2Shutdown request
  | .runtimeV3 route request => env.runtimeV3Request route request
  | .relay request method path => env.relayData request method path
  | .guarded request => do
    env.checkLease request
    return { status := 200, body := .json .null }
  | .health => env.health

/-! ### The process -/

/-- The service behind one process, or the store that a stopped process leaves. -/
inductive Process where
  | up (service : RuntimeService)
  | down (store : GatewayRecoveryStore)

def Process.store : Process → GatewayRecoveryStore
  | .up service => service.recovery
  | .down store => store

/-- The store policy of a configuration. -/
def RuntimeConfig.storeConfig (config : RuntimeConfig) : RecoveryStoreConfig :=
  { RecoveryStoreConfig.default with
    leaseTtlSeconds := config.recoveryTtlSeconds
    leaseRenewalIntervalSeconds := config.recoveryRenewalIntervalSeconds }

/-- The memory of a process before its first boot. -/
def RuntimeService.fresh (config : RuntimeConfig) (store : GatewayRecoveryStore) :
    RuntimeService where
  config
  leaseActive := false
  leaseRevoked := false
  allocationCleanupLeaseId := none
  shutdownRequested := false
  recoveryCatalog := .default
  recovery := { store with config := config.storeConfig }
  recoveryBoot := none
  recoveryFence := none
  recoveryLease := none
  recoveryLeaseDeadline := none
  recoveryLeaseDeadlineLeaseId := none
  recoveryHostGrant := none
  episodeProfile := none
  recoveryClock := { started := 0, wallMillis := 0, lastNowMillis := 0 }

def RuntimeService.booted (service : RuntimeService) (boot : RecoveryBootContext)
    (started wallMillis : ℕ) : RuntimeService :=
  { service with
    recoveryBoot := some boot
    recoveryClock := { started, wallMillis, lastNowMillis := wallMillis } }

namespace Environment

variable (env : Environment)

/-- Every process begins with a boot of its own. -/
def start (config : RuntimeConfig) : ServiceM RecoveryStoreError Unit := do
  let started ← env.readInstant
  let wallMillis ← env.readUnixMillis
  check config.storeConfig.validate
  let incarnation ← env.drawV4
  let boot ← env.startBoot config.recoveryDeploymentId config.instanceId incarnation
    config.recoveryRelease wallMillis
  modifyState (·.booted boot started wallMillis)

end Environment

/-- What one input leaves: the process, the exchanges, and the reply if there is one. -/
structure Outcome where
  process : Process
  log : List Event
  reply : Option Reply

def Environment.serve (env : Environment) (request : Request) (service : RuntimeService) :
    Outcome :=
  match (env.handle request).run { state := service, events := [] } with
  | .ok reply t | .error (.raised reply) t =>
    { process := .up t.state, log := t.events, reply := some reply }
  | .error .crashed t => { process := .down t.state.recovery, log := t.events, reply := none }

def Environment.restart (env : Environment) (config : RuntimeConfig)
    (store : GatewayRecoveryStore) : Outcome :=
  match (env.start config).run { state := .fresh config store, events := [] } with
  | .ok _ t => { process := .up t.state, log := t.events, reply := none }
  | .error _ t => { process := .down t.state.recovery, log := t.events, reply := none }

/-- The retention of operations, which no request asks for. -/
inductive MaintenanceCall where
  | archiveResolvedBefore (cutoffMillis nowMillis : ℕ)
  | purgeExpiredArchives (nowMillis : ℕ)

def MaintenanceCall.call : MaintenanceCall → Call
  | .archiveResolvedBefore cutoffMillis nowMillis =>
    .operation (.archiveResolvedBefore cutoffMillis nowMillis)
  | .purgeExpiredArchives nowMillis => .operation (.purgeExpiredArchives nowMillis)

inductive Input where
  | serve (env : Environment) (request : Request)
  | restart (env : Environment) (config : RuntimeConfig)
  | maintain (call : MaintenanceCall)

def Process.outcome (process : Process) : Input → Outcome
  | .serve env request =>
    match process with
    | .up service => env.serve request service
    | .down _ => { process, log := [], reply := none }
  | .restart env config => env.restart config process.store
  | .maintain call =>
    { process :=
        match process with
        | .up service => .up (service.withStore (next service.recovery call.call))
        | .down store => .down (next store call.call)
      log := []
      reply := none }

def step (process : Process) (input : Input) : Process := (process.outcome input).process

end Hash

end Sts2Gateway.Service
