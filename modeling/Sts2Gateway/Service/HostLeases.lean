/-
The host's half of a lease, as the service drives it (`service_host_lease.rs`,
`service_host_lease_ops.rs`, `service_host_lease_helpers.rs`,
`service_host_lease_readiness.rs`, `service_allocation_cleanup.rs`).

* `grantValue`, `validateAck`, `leaseDeadline`: what the host is asked to hold, what its
  acknowledgment must repeat, and how long the answer counts;
* `activeHostGrantMatches`: **readiness**: the installation is that of the current grant;
* `revokeHostLease`: the durable begin, the frame and the acknowledgment of a revocation;
* `cleanupUnreturnedAllocation`, `retryUnreturnedAllocation`: the end of an allocation
  that no caller has received;
* `installHostLease`, `renewHostLease`: the installation and its renewal.
-/
import Mathlib.Tactic
import Sts2Gateway.Service.State

namespace Sts2Gateway.Service

open CompactJson Crash Exchange Procedure Recovery Text

/-! ### Failures -/

structure HostLeaseFailure where
  status : UInt16
  code : String
deriving DecidableEq, Repr

namespace HostLeaseFailure

def configuration : HostLeaseFailure := ⟨500, "recovery_host_lease_configuration_invalid"⟩
def unknown : HostLeaseFailure := ⟨503, "recovery_host_lease_outcome_unknown"⟩
def expired : HostLeaseFailure := ⟨410, "recovery_lease_expired"⟩
def invalidResponse : HostLeaseFailure := ⟨502, "recovery_host_lease_response_invalid"⟩
def contextMismatch : HostLeaseFailure := ⟨409, "recovery_host_lease_context_mismatch"⟩

def body (failure : HostLeaseFailure) : Reply := .error failure.status failure.code

end HostLeaseFailure

def mapFrameError : HostLeaseFrameError → HostLeaseFailure
  | .configuration => .configuration
  | .oversized => ⟨413, "recovery_host_lease_frame_oversized"⟩
  | .authentication | .invalid => .invalidResponse

def mapStoreError : RecoveryStoreError → HostLeaseFailure
  | .busy | .io _ | .sql _ | .corrupt _ | .persistenceUnavailable | .authorityNotFound
  | .counterExhausted | .backupExists => ⟨503, "recovery_persistence_unavailable"⟩
  | .hostFenceRequired => ⟨503, "recovery_host_not_ready"⟩
  | .leaseExpired => .expired
  | .leaseRevoked | .staleLease | .operationConflict | .invalidTransition | .contractMismatch _
  | .releaseMismatch | .operationNotFound | .admissionTicketExpired | .admissionTicketNotFound
  | .capacityExceeded => ⟨409, "recovery_host_lease_conflict"⟩
  | .leaseNotFound => ⟨404, "recovery_lease_not_found"⟩
  | .invalidInput _ => ⟨400, "recovery_host_lease_invalid"⟩

def mapHostLeaseTransportError : RecoveryControlTransportFault → HostLeaseFailure
  | .invalidConfiguration | .invalidFrame | .requestOversized => .configuration
  | .unavailableBeforeWrite => ⟨503, "recovery_host_lease_unavailable"⟩
  | .disconnectedAfterWrite | .timeoutAfterWrite | .malformedResponse => .unknown

/-- After the request was written its effect on the host is unknowable. -/
def mapHostLeaseResponseError : HostLeaseFrameError → HostLeaseFailure
  | .invalid | .oversized | .authentication => .unknown
  | .configuration => .configuration

/-! ### Grants -/

def grantValue (boot : RecoveryBootContext) (fence : RecoveryHostFence) (lease : RecoveryLease)
    (principalId sessionId : String) : Json :=
  .obj
    [("boot", .obj
      [("deployment_id", .str boot.deploymentId), ("instance_id", .str boot.instanceId),
        ("instance_incarnation", .str boot.instanceIncarnation), ("boot_id", .str boot.bootId),
        ("authority_generation", .num boot.authorityGeneration),
        ("release", releaseValue boot.release),
        ("created_at", .str (timestampFromMillis boot.createdAtMillis)), ("state", .str "READY")]),
      ("fence", fenceValue fence),
      ("lease", .obj
        [("deployment_id", .str lease.deploymentId), ("instance_id", .str lease.instanceId),
          ("instance_incarnation", .str lease.instanceIncarnation),
          ("boot_id", .str lease.bootId), ("authority_generation", .num lease.authorityGeneration),
          ("host_fence_id", .str fence.hostFenceId),
          ("host_fence_generation", .num fence.fenceGeneration),
          ("lease_id", .str lease.leaseId), ("lease_epoch", .num lease.leaseEpoch),
          ("fence_token", .str lease.fenceToken),
          ("issued_at", .str (timestampFromMillis lease.issuedAtMillis)),
          ("expires_at", .str (timestampFromMillis lease.expiresAtMillis)),
          ("ttl_seconds", .num lease.ttlSeconds),
          ("renewal_interval_seconds", .num lease.renewalIntervalSeconds)]),
      ("release", releaseValue boot.release),
      ("gateway", .obj
        [("principal_id", .str principalId), ("instance_id", .str boot.instanceId),
          ("session_id", .str sessionId)])]

/-- The grant of this gateway for a lease. -/
def RuntimeConfig.grantValue (config : RuntimeConfig) (boot : RecoveryBootContext)
    (fence : RecoveryHostFence) (lease : RecoveryLease) : Json :=
  Service.grantValue boot fence lease config.callerId config.sessionId

/-- What an acknowledgment must repeat of a renewal, or of the lease itself. -/
def expectedAck (kind : HostLeaseKind) (lease : RecoveryLease) (renewal : Option (ℕ × ℕ)) :
    Except HostLeaseFailure (Option ℕ × Option ℕ) :=
  match kind, renewal with
  | .install, _ => .ok (none, some lease.expiresAtMillis)
  | .renew, some (sequence, expires) => .ok (some sequence, some expires)
  | .renew, none => .error .invalidResponse
  | .revoke, _ => .ok (none, none)

def validateAck (kind : HostLeaseKind) (ack : HostLeaseAck) (lease : RecoveryLease)
    (fence : RecoveryHostFence) (installationId grantDigest : String)
    (renewal : Option (ℕ × ℕ)) : Except HostLeaseFailure Unit := do
  refuse (ack.installationId ≠ installationId ∨ ack.grantDigest ≠ grantDigest ∨
    ack.bootId ≠ lease.bootId ∨ ack.instanceIncarnation ≠ lease.instanceIncarnation ∨
    ack.hostFenceId ≠ fence.hostFenceId ∨ ack.fenceGeneration ≠ fence.fenceGeneration ∨
    ack.leaseId ≠ lease.leaseId ∨ ack.leaseEpoch ≠ lease.leaseEpoch) .contextMismatch
  let (expectedSequence, expectedExpires) ← expectedAck kind lease renewal
  refuse (ack.renewSequence ≠ expectedSequence ∨ ack.expiresAt ≠ expectedExpires)
    .contextMismatch
  refuse (kind ≠ .revoke ∧ lease.expiresAtMillis ≤ ack.recordedAt) .expired
  refuse (ack.hostInstallGeneration = 0 ∨ ack.messageId.isEmpty) .invalidResponse

/-- The instant at which a lease ends, counted from the moment its request was sent. -/
def leaseDeadline (expiresAtMillis ttlSeconds receivedAt receivedAtWallMillis : ℕ) :
    Except HostLeaseFailure ℕ := do
  refuse (expiresAtMillis ≤ receivedAtWallMillis) .expired
  let ttlMillis ← (checkedMul ttlSeconds 1000).mapError fun _ => .configuration
  return receivedAt + min (expiresAtMillis - receivedAtWallMillis) ttlMillis * 1000000

/-! ### Memory -/

namespace RuntimeService

variable (service : RuntimeService)

def withGrant (grant : HostLeaseGrant) : RuntimeService :=
  { service with recoveryHostGrant := some grant }

/-- No cleanup of a failed allocation is under way any more. -/
def clearCleanup : RuntimeService := { service with allocationCleanupLeaseId := none }

/-- The lease stays in memory only to reconcile a lost acknowledgment. -/
def closeAdmission : RuntimeService :=
  { service with
    leaseActive := false
    leaseRevoked := true
    recoveryLeaseDeadline := none }

/-- The host has dropped the lease.  Only a cleanup lets a fresh allocation in. -/
def finishRevoke (leaseId : String) : RuntimeService :=
  { service with
    allocationCleanupLeaseId := none
    recoveryLease := none
    recoveryLeaseDeadline := none
    recoveryLeaseDeadlineLeaseId := none
    recoveryHostGrant := none
    leaseActive := false
    leaseRevoked :=
      !(decide (service.allocationCleanupLeaseId = some leaseId) && !service.shutdownRequested) }

/-- Every local way in is closed, and the marker of a cleanup is set unless a stop is in
force already. -/
def beginCleanup : RuntimeService :=
  { service.closeAdmission with
    allocationCleanupLeaseId :=
      if service.leaseRevoked || service.shutdownRequested then service.allocationCleanupLeaseId
      else service.recoveryLease.map (·.leaseId) }

def activate (lease : RecoveryLease) : RuntimeService :=
  { service with
    recoveryLease := some lease
    leaseActive := true
    leaseRevoked := false }

/-- The lease ended before it could be activated. -/
def endLease : RuntimeService :=
  { service with
    recoveryLeaseDeadline := none
    leaseActive := false }

def withDeadline (leaseId : Option String) (deadline : Option ℕ) : RuntimeService :=
  { service with
    recoveryLeaseDeadline := deadline
    recoveryLeaseDeadlineLeaseId := leaseId }

end RuntimeService

/-- An acknowledged installation of the lease. -/
def RecoveryHostLeaseBinding.isAcknowledged (binding : RecoveryHostLeaseBinding)
    (leaseId : String) : Bool :=
  binding.state = .installed ∧ binding.leaseId = leaseId ∧ binding.installationId.isSome ∧
    binding.hostInstallGeneration ≠ 0 ∧ binding.hostAckMessageId.isSome ∧
    binding.hostAckRecordedAtMillis.isSome

/-- The lease identity that a request must carry. -/
def leaseHeaders (config : RuntimeConfig) (lease : RecoveryLease) : List (String × String) :=
  [("x-sts2-instance-id", lease.instanceId), ("x-sts2-caller-id", config.callerId),
    ("x-sts2-session-id", config.sessionId), ("x-mcp-session-id", config.mcpSessionId),
    ("x-sts2-lease-id", lease.leaseId), ("x-sts2-lease-epoch", toString lease.leaseEpoch)]

def HttpRequest.carries (request : HttpRequest) (expected : List (String × String)) : Bool :=
  expected.all fun (name, value) => decide (request.header name = some value)

def HttpRequest.correlation (request : HttpRequest) : String :=
  (request.header "x-sts2-correlation-id").getD ""

namespace Environment

variable {ε : Type} (env : Environment)

/-! ### Readiness -/

def hostLeaseBinding (leaseId : String) :
    ServiceM RecoveryStoreError (Option RecoveryHostLeaseBinding) :=
  env.readStore (·.hostLeaseBinding leaseId)

/-- The binding of a lease, when it can be read and is in a state. -/
def bindingIs (leaseId : String) (state : RecoveryHostLeaseState) : ServiceM ε Bool := do
  let binding ← env.readStoreOk (·.hostLeaseBinding leaseId)
  return binding.any fun binding => binding.state = state

section Hash

variable [Sha256]

/-- Readiness binds the acknowledged durable installation to the complete current grant. -/
def activeHostGrantMatches (lease : RecoveryLease) : ServiceM RecoveryStoreError Bool := do
  let service ← getState
  match service.recoveryBoot, service.recoveryFence with
  | some boot, some fence =>
    match ← env.hostLeaseBinding lease.leaseId with
    | none => return false
    | some binding =>
      if ¬ RecoveryHostLeaseBinding.isAcknowledged binding lease.leaseId then return false
      else
        let durableFence ← env.readStore (·.currentHostFence)
        if durableFence ≠ fence then return false
        else
          let grant := service.config.grantValue boot fence lease
          let digest ← check ((grantDigest grant).mapError fun _ =>
            .contractMismatch "current host grant cannot be canonicalized")
          return decide (binding.grantDigest = some digest) &&
            service.recoveryHostGrant.any fun cached =>
              decide (binding.installationId = some cached.installationId ∧
                cached.grantDigest = digest ∧ cached.grant = grant)
  | _, _ => return false

def hostLeaseReady (leaseId : String) : ServiceM RecoveryStoreError Bool := do
  match (← getState).recoveryLease with
  | some lease =>
    if lease.leaseId = leaseId then env.activeHostGrantMatches lease else return false
  | none => return false

end Hash

/-- A revoke may be retried after the host's response was lost: the request carries the
lease in memory, and the host's answer is pending. -/
def pendingHostRevokeMatches (request : HttpRequest) : ServiceM ε Bool := do
  env.checkRecoveryDeadline
  let service ← getState
  match service.recoveryLease with
  | none => return false
  | some lease =>
    let pending ← env.bindingIs lease.leaseId .pendingHostRevoke
    return pending && (request.header "x-sts2-correlation-id").any safeIdentity &&
      request.carries (leaseHeaders service.config lease)

section Hash

variable [Sha256]

/-! ### Frames -/

def forwardHostLease (kind : HostLeaseKind) (frame : Json) : ServiceM HostLeaseFailure Json := do
  let config := (← getState).config
  let answer ← env.sendControl (.hostLease kind frame)
  let response ← check (answer.mapError mapHostLeaseTransportError)
  check (refuse (response.status ≥ 500) .unknown)
  check (refuse (response.status ≠ 200) ⟨response.status, "recovery_host_lease_rejected"⟩)
  let value ← check ((parseResponse response.body kind config.hostLeaseKey
    config.hostPrincipalId).mapError mapHostLeaseResponseError)
  check (refuse (value.get "correlation_id" ≠ frame.get "correlation_id")
    ⟨409, "recovery_host_lease_correlation_mismatch"⟩)
  return value

/-- A signed frame to the host, and the acknowledgment that it answers with. -/
def exchangeHostLease (kind : HostLeaseKind) (correlation : String) (payload : Json) :
    ServiceM HostLeaseFailure Json := do
  let config := (← getState).config
  let messageId ← env.drawV4
  let sentAt ← env.readUnixMillis
  let frame ← check ((requestFrame kind config.callerId correlation payload config.hostLeaseKey
    messageId (timestampFromMillis sentAt)).mapError mapFrameError)
  env.forwardHostLease kind frame

/-- The acknowledgment of a response. -/
def acknowledgment (kind : HostLeaseKind) (response : Json) :
    Except HostLeaseFailure HostLeaseAck := do
  let _ ← okOr (ackStatus response kind) .invalidResponse
  okOr (ackContext response) .invalidResponse

/-! ### Revocation -/

/-- The gateway durably revokes its own authority before the host is asked. -/
def beginHostRevoke (proof : RecoveryLeaseProof) (reason : String) :
    ServiceM HostLeaseFailure RecoveryLease := do
  let lease ← mapError mapStoreError <|
    env.transact (.hostLease (.beginRevoke proof reason)) fun store =>
      commit store (store.beginHostLeaseRevoke proof reason)
  modifyState RuntimeService.closeAdmission
  return lease

/-- The payload of a revocation, from the binding that the store has kept. -/
def revokePayload (lease : RecoveryLease) (reason : String) :
    ServiceM HostLeaseFailure (RecoveryHostFence × String × String × Json) := do
  let service ← getState
  let boot ← check (okOr service.recoveryBoot .configuration)
  let fence ← check (okOr service.recoveryFence .configuration)
  let binding ← mapError mapStoreError (env.hostLeaseBinding lease.leaseId)
  let binding ← check (okOr binding .configuration)
  let installationId ← check (okOr binding.installationId .unknown)
  let grant := service.config.grantValue boot fence lease
  let digest ← check ((grantDigest grant).mapError mapFrameError)
  check (refuse (binding.grantDigest ≠ some digest) .unknown)
  return (fence, installationId, digest,
    .obj [("installation_id", .str installationId), ("grant", grant),
      ("grant_digest", .str digest), ("reason", .str reason)])

def completeHostRevoke (leaseId installationId digest : String) (ack : HostLeaseAck) :
    ServiceM HostLeaseFailure Unit := do
  let _ ← mapError mapStoreError <|
    env.transact (.hostLease (.completeRevoke leaseId installationId digest
        ack.hostInstallGeneration ack.messageId ack.recordedAt)) fun store =>
      commit store (store.completeHostLeaseRevoke leaseId installationId digest
        ack.hostInstallGeneration ack.messageId ack.recordedAt)
  modifyState (·.finishRevoke leaseId)

def revokeHostLease (proof : RecoveryLeaseProof) (reason correlation : String) :
    ServiceM HostLeaseFailure Unit := do
  if reason ≠ "shutdown" then modifyState RuntimeService.clearCleanup
  let lease ← env.beginHostRevoke proof reason
  let (fence, installationId, digest, payload) ← env.revokePayload lease reason
  let response ← env.exchangeHostLease .revoke correlation payload
  let ack ← check (acknowledgment .revoke response)
  check (validateAck .revoke ack lease fence installationId digest none)
  env.completeHostRevoke lease.leaseId installationId digest ack

/-! ### Cleanup -/

/-- A revocation under a fresh correlation whose failure is kept for a retry. -/
def cleanupRevoke (lease : RecoveryLease) : ServiceM ε Unit := do
  let correlation ← env.drawV4
  let _ ← attempt (env.revokeHostLease lease.proof "shutdown" correlation)

def cleanupUnreturnedAllocation : ServiceM ε Unit := do
  let lease := (← getState).recoveryLease
  modifyState RuntimeService.beginCleanup
  match lease with
  | some lease => env.cleanupRevoke lease
  | none => return

/-- Called only after allocation identity validation. -/
def retryUnreturnedAllocation : ServiceM ε Unit := do
  let service ← getState
  match service.recoveryLease with
  | some lease =>
    if service.shutdownRequested = false ∧ service.leaseRevoked ∧
        service.allocationCleanupLeaseId = some lease.leaseId then
      env.cleanupRevoke lease
  | none => return

/-- An expired grant, or an installation already committed, must be retired. -/
def failedInstall (lease : RecoveryLease) (failure : HostLeaseFailure) : ServiceM ε Unit := do
  let installed ← env.bindingIs lease.leaseId .installed
  if failure.status = 410 ∨ installed then env.cleanupUnreturnedAllocation

/-! ### Installation -/

/-- Whether a lease has ended, by the wall clock or by its local deadline. -/
def leaseEnded (lease : RecoveryLease) (nowMillis deadline : ℕ) : ServiceM ε Bool := do
  if lease.expiresAtMillis ≤ nowMillis then return true
  return decide (deadline ≤ (← env.readInstant))

def activateRecoveryLease (lease : RecoveryLease) : ServiceM HostLeaseFailure Unit := do
  let now ← env.recoveryNowMillis
  let deadline ← check (okOr (← getState).recoveryLeaseDeadline .expired)
  if ← env.leaseEnded lease now deadline then
    modifyState RuntimeService.endLease
    raise .expired
  else modifyState (·.activate lease)

def establishInstallDeadline (lease : RecoveryLease) (sendStarted receivedAt : ℕ) :
    ServiceM HostLeaseFailure Unit := do
  let service ← getState
  if service.recoveryLeaseDeadlineLeaseId = some lease.leaseId then
    let deadline ← check (okOr service.recoveryLeaseDeadline .expired)
    if ← env.leaseEnded lease receivedAt deadline then
      modifyState (·.withDeadline (some lease.leaseId) none)
      raise .expired
  else
    modifyState (·.withDeadline (some lease.leaseId) none)
    let deadline ← check (leaseDeadline lease.expiresAtMillis lease.ttlSeconds sendStarted
      receivedAt)
    modifyState (·.withDeadline (some lease.leaseId) (some deadline))

/-- A pending installation is retried only with the grant that memory has kept. -/
def checkPendingInstall (cached : Option HostLeaseGrant) (installation : HostLeaseGrant) :
    Except HostLeaseFailure Unit :=
  refuse (cached ≠ some installation) .unknown

/-- An installation keeps its identifier. -/
def installationIdFor (existing : Option RecoveryHostLeaseBinding) : ServiceM ε String := do
  match existing.bind (·.installationId) with
  | some id => return id
  | none => return (← env.drawV4).val

/-- The installation to ask for, and whether the host holds it already. -/
def prepareHostInstall (boot : RecoveryBootContext) (fence : RecoveryHostFence)
    (lease : RecoveryLease) : ServiceM HostLeaseFailure (HostLeaseGrant × Bool) := do
  let service ← getState
  let grant := service.config.grantValue boot fence lease
  let digest ← check ((grantDigest grant).mapError mapFrameError)
  let existing ← mapError mapStoreError (env.hostLeaseBinding lease.leaseId)
  let installationId ← env.installationIdFor existing
  let installation : HostLeaseGrant := { installationId, grantDigest := digest, grant }
  let installed ← match existing with
    | none => pure false
    | some binding => do
      check (refuse (binding.grantDigest ≠ some digest ∧ binding.state ≠ .uninstalled) .unknown)
      match binding.state with
      | .installed => do
        let matching ← mapError mapStoreError (env.activeHostGrantMatches lease)
        check (refuse (matching = false) .unknown)
        pure true
      | .restartInvalidated => raise .unknown
      | .pendingHostInstall => do
        check (checkPendingInstall service.recoveryHostGrant installation)
        pure false
      | _ => pure false
  if installed then return (installation, true)
  let now ← env.recoveryNowMillis
  let _ ← mapError mapStoreError <|
    env.transact (.hostLease (.prepareInstall lease.leaseId installationId digest
        fence.hostFenceId fence.fenceGeneration now)) fun store =>
      commit store (store.prepareHostLeaseInstall lease.leaseId installationId digest
        fence.hostFenceId fence.fenceGeneration now)
  return (installation, false)

def completeHostInstall (leaseId : String) (installation : HostLeaseGrant) (ack : HostLeaseAck) :
    ServiceM HostLeaseFailure Unit := do
  let _ ← mapError mapStoreError <|
    env.transact (.hostLease (.completeInstall leaseId installation.installationId
        installation.grantDigest ack.hostInstallGeneration ack.messageId
        ack.recordedAt)) fun store =>
      commit store (store.completeHostLeaseInstall leaseId installation.installationId
        installation.grantDigest ack.hostInstallGeneration ack.messageId ack.recordedAt)
  modifyState (·.withGrant installation)

def installHostLeaseInner (boot : RecoveryBootContext) (fence : RecoveryHostFence)
    (lease : RecoveryLease) (correlation : String) : ServiceM HostLeaseFailure RecoveryLease := do
  let sendStarted ← env.readInstant
  let (installation, alreadyInstalled) ← env.prepareHostInstall boot fence lease
  let receivedAt ← env.recoveryNowMillis
  env.establishInstallDeadline lease sendStarted receivedAt
  -- the exact grant is kept before anything that follows can fail
  modifyState (·.withGrant installation)
  if alreadyInstalled then
    env.activateRecoveryLease lease
    return lease
  let response ← env.exchangeHostLease .install correlation
    (.obj [("installation_id", .str installation.installationId), ("grant", installation.grant),
      ("grant_digest", .str installation.grantDigest)])
  let responseReceivedAt ← env.recoveryNowMillis
  env.establishInstallDeadline lease sendStarted responseReceivedAt
  let ack ← check (acknowledgment .install response)
  check (validateAck .install ack lease fence installation.installationId
    installation.grantDigest none)
  env.completeHostInstall lease.leaseId installation ack
  env.activateRecoveryLease lease
  return lease

def installHostLease (boot : RecoveryBootContext) (fence : RecoveryHostFence)
    (lease : RecoveryLease) (correlation : String) : ServiceM HostLeaseFailure RecoveryLease := do
  match ← attempt (env.installHostLeaseInner boot fence lease correlation) with
  | .ok lease => return lease
  | .error failure =>
    env.failedInstall lease failure
    raise failure

/-! ### Renewal -/

/-- The grant of the renewed lease, whose digest the store takes over if it differs. -/
def prepareRenewGrant (candidate : RecoveryLease) :
    ServiceM HostLeaseFailure (RecoveryHostFence × HostLeaseGrant) := do
  let service ← getState
  let boot ← check (okOr service.recoveryBoot .configuration)
  let fence ← check (okOr service.recoveryFence .configuration)
  let binding ← mapError mapStoreError (env.hostLeaseBinding candidate.leaseId)
  let binding ← check (okOr binding .configuration)
  let installationId ← check (okOr binding.installationId .unknown)
  let grant := service.config.grantValue boot fence candidate
  let digest ← check ((grantDigest grant).mapError mapFrameError)
  if binding.grantDigest ≠ some digest then
    mapError mapStoreError <|
      env.transact (.hostLease (.setGrantDigest candidate.leaseId installationId digest))
        fun store =>
          commit store (store.setHostLeaseGrantDigest candidate.leaseId installationId digest)
  return (fence, { installationId, grantDigest := digest, grant })

def completeHostRenew (candidate : RecoveryLease) (sequence : ℕ) (installation : HostLeaseGrant)
    (ack : HostLeaseAck) (deadline : ℕ) : ServiceM HostLeaseFailure Unit := do
  let _ ← mapError mapStoreError <|
    env.transact (.hostLease (.completeRenew candidate.leaseId installation.installationId
        installation.grantDigest sequence candidate.expiresAtMillis ack.hostInstallGeneration
        ack.messageId ack.recordedAt)) fun store =>
      commit store (store.completeHostLeaseRenew candidate.leaseId installation.installationId
        installation.grantDigest sequence candidate.expiresAtMillis ack.hostInstallGeneration
        ack.messageId ack.recordedAt)
  modifyState fun service =>
    (service.withGrant installation).withDeadline (some candidate.leaseId) (some deadline)

def renewHostLease (proof : RecoveryLeaseProof) (sequence : ℕ) (correlation : String) :
    ServiceM HostLeaseFailure RecoveryLease := do
  let sendStarted ← env.readInstant
  let now ← env.recoveryNowMillis
  let candidate ← mapError mapStoreError <|
    env.transact (.hostLease (.prepareRenew proof sequence now)) fun store =>
      commit store (store.prepareHostLeaseRenew proof sequence now)
  let renewalDeadline ← check (leaseDeadline candidate.expiresAtMillis candidate.ttlSeconds
    sendStarted now)
  let (fence, installation) ← env.prepareRenewGrant candidate
  let response ← env.exchangeHostLease .renew correlation
    (.obj [("installation_id", .str installation.installationId), ("grant", installation.grant),
      ("grant_digest", .str installation.grantDigest), ("renew_sequence", .num sequence)])
  let ack ← check (acknowledgment .renew response)
  check (validateAck .renew ack candidate fence installation.installationId
    installation.grantDigest (some (sequence, candidate.expiresAtMillis)))
  let instant ← env.readInstant
  check (refuse (renewalDeadline ≤ instant) .expired)
  env.completeHostRenew candidate sequence installation ack renewalDeadline
  env.activateRecoveryLease candidate
  return candidate

end Hash

end Environment

end Sts2Gateway.Service
