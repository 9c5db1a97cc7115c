/-
Allocation and release (`service_lease.rs`, `service_allocation_context.rs`,
`service_episode_profile.rs`, `runtime_v2_shutdown` of `service_routes.rs`).

* `checkLease`: **the admission of a gameplay request**;
* `recoveryAuthority`, `allocationResponse`: what an allocated caller receives;
* `allocate`: a fresh lease, after the cleanup of one that no caller has received;
* `negotiateEpisodeProfile`, `commitCompletedEpisode`: the profile that lets a release
  reopen admission;
* `release`, `runtimeV2Shutdown`: the two stops of a caller.
-/
import Mathlib.Tactic
import Sts2Gateway.Recovery.ContinuationOwner
import Sts2Gateway.Service.HostLeases

namespace Sts2Gateway.Service

open CompactJson Crash Exchange Procedure Recovery Text

/-! ### Errors of the store -/

/-- Status, code and whether a retry may help. -/
def recoveryStoreErrorCode : RecoveryStoreError → UInt16 × String × Bool
  | .busy => (423, "busy", true)
  | .io _ | .sql _ | .corrupt _ | .persistenceUnavailable => (503, "persistence_unavailable", true)
  | .hostFenceRequired => (503, "host_not_ready", true)
  | .leaseExpired | .admissionTicketExpired => (410, "lease_expired", false)
  | .leaseNotFound | .operationNotFound | .admissionTicketNotFound => (404, "not_found", false)
  | .staleLease => (409, "stale_lease", false)
  | .operationConflict | .invalidTransition | .releaseMismatch | .contractMismatch _ =>
    (409, "conflict", false)
  | .capacityExceeded => (413, "bounds_exceeded", true)
  | .invalidInput _ => (400, "invalid", false)
  | .leaseRevoked => (409, "lease_revoked", false)
  | .authorityNotFound | .counterExhausted | .backupExists =>
    (503, "persistence_unavailable", true)

def recoveryStoreError (error : RecoveryStoreError) : Reply :=
  let (status, code, retryable) := recoveryStoreErrorCode error
  { status
    body := .json (.obj [("error_code", .str ("recovery_" ++ code)), ("retryable", .bool retryable),
      ("retry_after_seconds", nullable .num (if retryable then some 1 else none))]) }

/-! ### Requests -/

structure AllocationRequest where
  instanceId : String
  callerId : String
  sessionId : String
deriving DecidableEq, Repr

/-- A request is an object of three texts, or the array of them. -/
def AllocationRequest.parse (body : Body) : Option AllocationRequest := do
  match ← body.json with
  | .arr [.str instanceId, .str callerId, .str sessionId] =>
    return { instanceId, callerId, sessionId }
  | value =>
    let object ← value.exactObject ["instance_id", "caller_id", "session_id"]
    return {
      instanceId := ← (object.get "instance_id").asStr
      callerId := ← (object.get "caller_id").asStr
      sessionId := ← (object.get "session_id").asStr }

/-- A request of this gateway's own caller. -/
def AllocationRequest.isFor (request : AllocationRequest) (config : RuntimeConfig) : Bool :=
  request.instanceId = config.instanceId ∧ request.callerId = config.callerId ∧
    request.sessionId = config.sessionId

/-! ### Authority of an allocation -/

def allocationContract : String := "watchdog-runtime-allocation-v1"
def allocationSchemaDigest : String :=
  "ee967a95e79fb2f157ce58d2b6d857de42b75f1f5ebfeb82dd9672e3b0f7670b"

def ownerOf (lease : RecoveryLease) (fence : RecoveryHostFence) (sessionId : String) :
    RecoveryContinuationOwner where
  deploymentId := lease.deploymentId
  instanceId := lease.instanceId
  instanceIncarnation := lease.instanceIncarnation
  bootId := lease.bootId
  authorityGeneration := lease.authorityGeneration
  hostFenceId := fence.hostFenceId
  hostFenceGeneration := fence.fenceGeneration
  leaseId := lease.leaseId
  leaseEpoch := lease.leaseEpoch
  sessionId
  leaseExpiresAtMillis := lease.expiresAtMillis

def recoveryAuthorityFromOwner (owner : RecoveryContinuationOwner) (fence : RecoveryHostFence) :
    Json :=
  .obj
    [("contract", .str allocationContract), ("schema_digest", .str allocationSchemaDigest),
      ("context", .obj
        [("deployment_id", .str owner.deploymentId), ("instance_id", .str owner.instanceId),
          ("instance_incarnation", .str owner.instanceIncarnation),
          ("boot_id", .str owner.bootId), ("authority_generation", .num owner.authorityGeneration),
          ("lease_id", .str owner.leaseId), ("lease_epoch", .num owner.leaseEpoch)]),
      ("current_fence", fenceValue fence)]

/-- A lease that belongs to a boot. -/
def sameBootLease (lease : RecoveryLease) (boot : RecoveryBootContext) : Bool :=
  lease.deploymentId = boot.deploymentId ∧ lease.instanceId = boot.instanceId ∧
    lease.instanceIncarnation = boot.instanceIncarnation ∧ lease.bootId = boot.bootId ∧
    lease.authorityGeneration = boot.authorityGeneration

/-- A lease that belongs to a fence. -/
def sameFenceLease (lease : RecoveryLease) (fence : RecoveryHostFence) : Bool :=
  lease.deploymentId = fence.deploymentId ∧ lease.instanceId = fence.instanceId ∧
    lease.instanceIncarnation = fence.instanceIncarnation ∧ lease.bootId = fence.bootId ∧
    lease.authorityGeneration = fence.authorityGeneration

/-! ### The episode profile -/

def episodeProfileName : String := "repeated-episode-lease-v1"
def episodeProfileCapability : String := "sts2-gateway/repeated-episode-lease-v1"
def episodeProfileHeader : String := "x-sts2-episode-profile"
def episodeProfileSchemaDigest : String :=
  "f3a04bab61ce4898eda0fa88cb546441493e49eef19b1e5e0841a3b4ef7c4331"

namespace EpisodeProfile

variable (profile : EpisodeProfile)

/-- The profile that a header asks for; `none` stands for an unsupported one. -/
def negotiate (header : Option String) (boot : RecoveryBootContext) :
    Option (Option EpisodeProfile) :=
  match header with
  | none => some none
  | some value =>
    if value = episodeProfileName then
      some (some {
        bootId := boot.bootId
        instanceIncarnation := boot.instanceIncarnation
        authorityGeneration := boot.authorityGeneration
        releasedEpoch := none })
    else none

def matchesBoot (boot : RecoveryBootContext) : Bool :=
  profile.bootId = boot.bootId ∧ profile.instanceIncarnation = boot.instanceIncarnation ∧
    profile.authorityGeneration = boot.authorityGeneration

def recordCompleted (leaseEpoch : ℕ) : EpisodeProfile :=
  { profile with
    releasedEpoch := some
      (match profile.releasedEpoch with
        | some previous => max previous leaseEpoch
        | none => leaseEpoch) }

def admitsEpoch (leaseEpoch : ℕ) : Bool :=
  profile.releasedEpoch.all fun released => decide (released < leaseEpoch)

def witness : Json :=
  .obj
    [("profile", .str episodeProfileName), ("capability", .str episodeProfileCapability),
      ("schema_digest", .str episodeProfileSchemaDigest), ("scope", .str "deployment"),
      ("admission", .str "explicit-header-negotiated"),
      ("reopen", .str "completed-episode-release"), ("version", .num 1),
      ("released_epoch", nullable .num profile.releasedEpoch)]

end EpisodeProfile

namespace RuntimeService

variable (service : RuntimeService)

def negotiateEpisodeProfile (header : Option String) : Except Reply (Option EpisodeProfile) :=
  match service.recoveryBoot, header with
  | none, none => .ok none
  | none, some _ => .error (.error 503 "episode_profile_boot_required")
  | some boot, header => okOr (EpisodeProfile.negotiate header boot)
      (.error 400 "episode_profile_unsupported")

def episodeAdmissionRefused (boot : RecoveryBootContext) (leaseEpoch : ℕ) : Bool :=
  service.episodeProfile.any fun profile =>
    profile.matchesBoot boot && !profile.admitsEpoch leaseEpoch

def stopIsAlreadyInForce : Bool :=
  service.leaseRevoked || service.shutdownRequested || !service.leaseActive

/-- A refused epoch stays closed. -/
def refuseEpoch : RuntimeService :=
  { service with
    leaseActive := false
    recoveryLease := none
    recoveryLeaseDeadline := none
    recoveryLeaseDeadlineLeaseId := none
    recoveryHostGrant := none
    leaseRevoked := true }

def invalidateRecoveryCatalog : RuntimeService :=
  { service with recoveryCatalog := service.recoveryCatalog.invalidateCurrent }

/-- Whether the profile binds the current boot. -/
def profileBound : Bool :=
  match service.recoveryBoot, service.episodeProfile with
  | some boot, some profile => profile.matchesBoot boot
  | _, _ => false

/-- The next episode may be allocated. -/
def reopenEpisode (releasedEpoch : ℕ) : RuntimeService :=
  { service.invalidateRecoveryCatalog with
    episodeProfile := service.episodeProfile.map (·.recordCompleted releasedEpoch)
    leaseRevoked := false
    recoveryLease := none
    recoveryLeaseDeadline := none
    recoveryLeaseDeadlineLeaseId := none
    recoveryHostGrant := none }

/-- A profile that does not bind the boot, or a stop already in force, keeps the stop. -/
def commitCompletedEpisode (releasedEpoch : ℕ) (stopAlreadyInForce : Bool) : RuntimeService :=
  if !service.profileBound || stopAlreadyInForce then { service with leaseRevoked := true }
  else service.reopenEpisode releasedEpoch

/-- What an acknowledged release changes: a profile that was accepted is armed, and a
profiled release commits its episode. -/
def completeRelease (negotiated : Option EpisodeProfile) (leaseEpoch : ℕ)
    (stopAlreadyInForce : Bool) : RuntimeService :=
  match negotiated with
  | none => service
  | some profile =>
    (if stopAlreadyInForce then service else { service with episodeProfile := some profile })
      |>.commitCompletedEpisode leaseEpoch stopAlreadyInForce

def deactivate : RuntimeService := { service with leaseActive := false }

def requestShutdown : RuntimeService := { service with shutdownRequested := true }

/-- A stopped service. -/
def stop : RuntimeService :=
  { service with
    leaseActive := false
    leaseRevoked := true
    shutdownRequested := true }

/-- A granted lease, which its host does not hold yet. -/
def withLease (lease : RecoveryLease) : RuntimeService :=
  { service with
    recoveryLease := some lease
    leaseActive := false }

end RuntimeService

/-- The members of a reply that name the configured lease. -/
def configuredLease (config : RuntimeConfig) (status : String) : List (String × Json) :=
  [("status", .str status), ("instance_id", .str config.instanceId),
    ("lease_id", .str config.leaseId), ("lease_epoch", .num config.leaseEpoch)]

namespace Environment

variable (env : Environment)

section Hash

variable [Sha256]

/-! ### Admission -/

def validateLease (proof : RecoveryLeaseProof) (nowMillis : ℕ) : ServiceM RecoveryStoreError Unit :=
  env.transact (.lease (.validate proof nowMillis)) fun store =>
    query store (store.validateLease proof nowMillis)

/-- The lease that a gameplay request is admitted under. -/
def checkLease (request : HttpRequest) : ServiceM Reply Unit := do
  env.checkRecoveryDeadline
  let service ← getState
  check (refuse (service.leaseActive = false ∨ service.leaseRevoked ∨ service.shutdownRequested)
    (.error 409 "lease_not_active"))
  let lease ← check (okOr service.recoveryLease (.error 409 "lease_not_active"))
  let now ← env.recoveryNowMillis
  mapError recoveryStoreError (env.validateLease lease.proof now)
  let matching ← mapError recoveryStoreError (env.activeHostGrantMatches lease)
  check (refuse (matching = false) (.error 503 "recovery_host_lease_required"))
  check (refuse (¬ request.carries (leaseHeaders service.config lease))
    (.error 409 "lease_fence_rejected"))
  let correlation ← check (okOr (request.header "x-sts2-correlation-id")
    (.error 400 "correlation_required"))
  check (refuse (¬ safeIdentity correlation) (.error 400 "correlation_invalid"))

/-! ### Allocation -/

/-- What the durable tables must still say of an allocation. -/
def validateDurableAllocation (lease : RecoveryLease) (fence : RecoveryHostFence) :
    ServiceM Reply Unit := do
  let now ← env.recoveryNowMillis
  let durableFence ← mapError recoveryStoreError (env.readStore (·.currentHostFence))
  check (refuse (durableFence ≠ fence) (.error 503 "recovery_allocation_authority_mismatch"))
  mapError recoveryStoreError (env.validateLease lease.proof now)
  let matching ← mapError recoveryStoreError (env.activeHostGrantMatches lease)
  check (refuse (matching = false) (.error 503 "recovery_host_lease_required"))

def validateCurrentAllocation (lease : RecoveryLease) : ServiceM Reply RecoveryHostFence := do
  let service ← getState
  let current ← check (okOr service.recoveryLease (.error 503 "recovery_lease_required"))
  check (refuse (current ≠ lease) (.error 409 "recovery_allocation_lease_mismatch"))
  check (refuse (service.leaseActive = false ∨ service.leaseRevoked ∨ service.shutdownRequested)
    (.error 503 "recovery_lease_not_active"))
  let deadline ← check (okOr service.recoveryLeaseDeadline (.error 410 "recovery_lease_expired"))
  let instant ← env.readInstant
  check (refuse (deadline ≤ instant) (.error 410 "recovery_lease_expired"))
  let boot ← check (okOr service.recoveryBoot (.error 503 "recovery_boot_required"))
  let fence ← check (okOr service.recoveryFence (.error 503 "recovery_host_fence_required"))
  check (refuse (¬ (sameBootLease lease boot ∧ sameFenceLease lease fence))
    (.error 503 "recovery_allocation_authority_mismatch"))
  env.validateDurableAllocation lease fence
  return fence

/-- The immutable authority binding that accompanies a lease. -/
def recoveryAuthority (lease : RecoveryLease) : ServiceM Reply Json := do
  let fence ← env.validateCurrentAllocation lease
  let sessionId := (← getState).config.sessionId
  return recoveryAuthorityFromOwner (ownerOf lease fence sessionId) fence

def allocationResponse (lease : RecoveryLease) : ServiceM Reply Reply := do
  match ← attempt (env.recoveryAuthority lease) with
  | .error failure =>
    env.cleanupUnreturnedAllocation
    raise failure
  | .ok authority =>
    let config := (← getState).config
    return {
      status := 200
      body := .json (.obj
        [("status", .str "allocated"), ("instance_id", .str lease.instanceId),
          ("caller_id", .str config.callerId), ("session_id", .str config.sessionId),
          ("lease_id", .str lease.leaseId), ("lease_epoch", .num lease.leaseEpoch),
          ("fence_token", .str lease.fenceToken),
          ("expires_at_millis", .num lease.expiresAtMillis),
          ("transport", .str "attached-loopback"), ("recovery_authority", authority)]) }

/-- A lease in memory whose installation is pending on the same boot. -/
def pendingInstall {ε : Type} (boot : RecoveryBootContext) : ServiceM ε (Option RecoveryLease) := do
  let service ← getState
  match service.recoveryLease with
  | some lease =>
    if service.leaseActive = false ∧ lease.bootId = boot.bootId then
      let pending ← env.bindingIs lease.leaseId .pendingHostInstall
      return if pending then some lease else none
    else return none
  | none => return none

/-- A lease from the store, under the current fence. -/
def acquireLease (boot : RecoveryBootContext) (fence : RecoveryHostFence) :
    ServiceM Reply RecoveryLease := do
  let nowMillis ← env.recoveryNowMillis
  let config := (← getState).config
  let request : RecoveryLeaseRequest :=
    { deploymentId := boot.deploymentId
      instanceId := boot.instanceId
      instanceIncarnation := boot.instanceIncarnation
      bootId := boot.bootId
      authorityGeneration := boot.authorityGeneration
      hostFenceId := fence.hostFenceId
      hostFenceGeneration := fence.fenceGeneration
      callerId := config.callerId
      sessionId := config.sessionId
      nowMillis
      ttlSeconds := config.recoveryTtlSeconds
      renewalIntervalSeconds := config.recoveryRenewalIntervalSeconds }
  let leaseId ← env.drawV4
  let token ← env.drawToken
  mapError recoveryStoreError <|
    env.transact (.lease (.acquire leaseId token request)) fun store =>
      store.acquireLease leaseId token request

/-- The acquired lease is durably revoked and local admission stays closed. -/
def refuseReleasedEpoch (lease : RecoveryLease) : ServiceM Reply Reply := do
  let _ ← attempt <|
    env.transact (.lease (.revoke lease.proof "shutdown")) fun store =>
      commit store (store.revokeLease lease.proof "shutdown")
  modifyState RuntimeService.refuseEpoch
  raise (.error 409 "lease_context_revoked")

/-- The installation of an allocated lease, and the answer to its caller. -/
def installAllocation (boot : RecoveryBootContext) (fence : RecoveryHostFence)
    (lease : RecoveryLease) : ServiceM Reply Reply := do
  let correlation ← env.drawV4
  let lease ← mapError HostLeaseFailure.body (env.installHostLease boot fence lease correlation)
  env.allocationResponse lease

/-- A fresh lease for a caller. -/
def allocateFresh (boot : RecoveryBootContext) (fence : RecoveryHostFence) :
    ServiceM Reply Reply := do
  let lease ← env.acquireLease boot fence
  if (← getState).episodeAdmissionRefused boot lease.leaseEpoch then
    env.refuseReleasedEpoch lease
  else
    modifyState (·.withLease lease)
    env.installAllocation boot fence lease

/-- The rest of an allocation, once no cleanup closes it. -/
def allocateAdmitted : ServiceM Reply Reply := do
  let service ← getState
  let boot ← check (okOr service.recoveryBoot (.error 503 "recovery_boot_required"))
  let fence ← check (okOr service.recoveryFence (.error 503 "recovery_host_fence_required"))
  match ← env.pendingInstall boot with
  | some lease => env.installAllocation boot fence lease
  | none => env.allocateFresh boot fence

def allocate (body : Body) : ServiceM Reply Reply := do
  let service ← getState
  check (refuse service.shutdownRequested (.error 409 "lease_context_revoked"))
  let allocation ← check (okOr (AllocationRequest.parse body)
    (if service.leaseRevoked then .error 409 "lease_context_revoked"
      else .error 400 "allocation_body_invalid"))
  check (refuse (¬ allocation.isFor service.config) (.error 409 "allocation_identity_rejected"))
  env.retryUnreturnedAllocation
  check (refuse (← getState).leaseRevoked (.error 409 "lease_context_revoked"))
  env.allocateAdmitted

/-! ### Stops -/

/-- A request of the lease's own caller, or the retry of one whose revocation is pending. -/
def checkLeaseOrRetry (request : HttpRequest) : ServiceM Reply Unit := do
  let retry ← env.pendingHostRevokeMatches request
  if ¬ retry then env.checkLease request

def release (request : HttpRequest) : ServiceM Reply Reply := do
  env.checkLeaseOrRetry request
  let stopAlreadyInForce := (← getState).stopIsAlreadyInForce
  modifyState RuntimeService.clearCleanup
  let service ← getState
  let negotiated ← check (service.negotiateEpisodeProfile (request.header episodeProfileHeader))
  let lease ← check (okOr service.recoveryLease (.error 409 "lease_not_active"))
  mapError HostLeaseFailure.body
    (env.revokeHostLease lease.proof "shutdown" request.correlation)
  modifyState fun service =>
    (service.completeRelease negotiated lease.leaseEpoch stopAlreadyInForce).deactivate
  let service ← getState
  let witness := if negotiated.isSome && !stopAlreadyInForce then
      service.episodeProfile.map (·.witness) else none
  return {
    status := 200
    body := .json (.obj (configuredLease service.config "released" ++
      witness.toList.map fun witness => ("episode_profile", witness))) }

def runtimeV2Shutdown (request : HttpRequest) : ServiceM Reply Reply := do
  env.checkLeaseOrRetry request
  modifyState fun service => service.clearCleanup.requestShutdown
  let service ← getState
  let lease ← check (okOr service.recoveryLease (.error 409 "lease_not_active"))
  mapError HostLeaseFailure.body
    (env.revokeHostLease lease.proof "shutdown" request.correlation)
  modifyState RuntimeService.stop
  return { status := 202, body := .json (.obj (configuredLease service.config
    "shutdown_requested")) }

end Hash

end Environment

end Sts2Gateway.Service
