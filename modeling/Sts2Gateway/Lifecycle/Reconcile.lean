/-
Reconciliation of retained operations (`process_lifecycle_recovery.rs`,
`process_lifecycle_recovery_actions.rs`, `process_lifecycle_restart_recovery.rs`, and
the restart of `process_lifecycle_actions.rs`).

* `reconcileRetainedCleanup`, `finishRecovered`, `reconcileLaunch`, `verifyRecord`:
  what becomes of a launch;
* `reconcileStopping`, `reconcileStopIntent`: what becomes of a stop;
* `beginRestart`, `prepareRestartRecovery`, `finishRestart`, `reconcileRestart`,
  `executeRestart`: the fence of a restart, and its replacement;
* `reconcileRecord`: which of them a durable state leads to.
-/
import Sts2Gateway.Lifecycle.Actions

namespace Sts2Gateway.Lifecycle

open ControlPlane (InstanceId OperationId LifecycleState ProcessFault ProcessState StopMode)
open Procedure Exchange Crash

section Procedures

variable (env : Environment)

/-! ### Launches -/

def finishFailedLaunchCleanup (operation : LifecycleOperation) (identity : ProcessIdentity) :
    LifecycleM LifecycleResponse := do
  match ← descendants env identity.process with
  | .error fault => blockCleanup env operation (.process fault)
  | .ok found =>
    if found.isEmpty then
      let operation := operation.setState .failed none (some .identityMismatch)
      persistUpdate env operation
      clearOwnedFor env operation
      return .new operation .failed
    else
      blockCleanup env operation .foreignDescendant

/-- The identity is no longer the retained one: the operation stays blocked and its
reservation held. -/
def blockDrifted (operation : LifecycleOperation) (identity : ProcessIdentity) :
    LifecycleM LifecycleResponse := do
  let operation := operation.setState .blocked (some identity) (some .identityMismatch)
  persistUpdate env operation
  setOwnerProcessForOperation env operation operation.process
  raise .identityMismatch

/-- A retained process that does not match its profile is stopped only while it is
still exactly the retained one, and while its descendants are in scope. -/
def reconcileRetainedCleanup (operation : LifecycleOperation) (identity : ProcessIdentity) :
    LifecycleM LifecycleResponse := do
  match ← inspectIdentity env identity.process with
  | .error fault => unknown env operation (some identity) (some (.process fault))
  | .ok actual =>
    if actual ≠ identity then
      blockDrifted env operation identity
    else
      let lifecycle ← memory
      let profile ← check (lifecycle.profileForOperation operation)
      match ← descendants env identity.process with
      | .error fault => blockCleanup env operation (.process fault)
      | .ok found =>
        if profile.policy.maxDescendants < found.length ∨ (found.any fun descendant =>
            !descendant.matchesProfile operation.instanceId profile) then
          blockCleanup env operation .foreignDescendant
        else
          match ← inspect env identity.process with
          | .error fault => unknown env operation (some identity) (some (.process fault))
          | .ok (.exited _) => finishFailedLaunchCleanup env operation identity
          | .ok .running =>
            match ← stop env identity.process .force with
            | .error fault => blockCleanup env operation (.process fault)
            | .ok () => finishFailedLaunchCleanup env operation identity

def finishRecovered (operation : LifecycleOperation) (launch : ProcessLaunch)
    (profile : LaunchProfile) : LifecycleM LifecycleResponse := do
  let identity := launch.identity
  if identity.matchesProfile operation.instanceId profile = false then
    blockCleanup env
      (operation.setState .starting (some identity) (some .identityMismatch)) .identityMismatch
  else
    match ← verifyStartedIdentity env identity profile with
    | .error failure =>
      blockCleanup env (operation.setState .starting (some identity) (some failure)) failure
    | .ok () =>
      let operation := operation.setState .started (some identity) none
      persistUpdate env operation
      setOwned env operation profile.id identity
      return .new operation .starting

/-- The state of an operation whose process could not be verified. -/
def unverifiedState (inspectionFailure confirmedCleanup : Bool) : LifecycleOperationState :=
  if confirmedCleanup then .failed else if inspectionFailure then .unknown else .blocked

/-- The state of an operation whose process was verified again. -/
def verifiedState : LifecycleAction → LifecycleOperationState
  | .attachExisting _ => .attached
  | _ => .started

/-- An inspection that failed is no proof that the process is gone; only a process
that is seen exited and without descendants is given up. -/
def recordUnverified (operation : LifecycleOperation) (identity : ProcessIdentity)
    (failure : LifecycleFailure) (confirmedCleanup : Bool) : LifecycleM LifecycleResponse := do
  let state := unverifiedState (failure = .process .inspectionFailed) confirmedCleanup
  let failed := operation.setState state (some identity) (some failure)
  persistUpdate env failed
  if confirmedCleanup then
    clearOwnedFor env failed
    raise failure.error
  else if failure ≠ .identityMismatch then
    setOwnerProcessForOperation env failed (some identity)
    raise failure.error
  else
    raise failure.error

def verifyRecord (operation : LifecycleOperation) : LifecycleM LifecycleResponse := do
  let identity ← check (okOr operation.process .identityMismatch)
  let lifecycle ← memory
  let profile ← check (lifecycle.profileForOperation operation)
  match ← verifyStartedIdentity env identity profile with
  | .error failure =>
    if failure = .process .inspectionFailed then
      let confirmed ← confirmExitedWithoutDescendants env identity
      recordUnverified env operation identity failure confirmed
    else
      recordUnverified env operation identity failure false
  | .ok () =>
    if operation.state = .unknown then
      let recovered := operation.setState (verifiedState operation.action) (some identity) none
      persistUpdate env recovered
      setOwned env recovered profile.id identity
      return .new recovered recovered.state.lifecycleState
    else
      setOwned env operation profile.id identity
      return .new operation operation.state.lifecycleState

def reconcileLaunch (operation : LifecycleOperation) : LifecycleM LifecycleResponse := do
  let lifecycle ← memory
  let profile ← check (lifecycle.profileForOperation operation)
  match operation.process with
  | some identity =>
    if identity.matchesProfile operation.instanceId profile = false then
      reconcileRetainedCleanup env operation identity
    else
      verifyRecord env operation
  | none =>
    match ProcessOperationGeneration.forOperation operation profile .launchNew with
    | none => unknown env operation none none
    | some generation =>
      match ← recoverGeneration env generation profile with
      | .ok (.found identity) => finishRecovered env operation ⟨identity⟩ profile
      | .ok .indeterminate => unknown env operation none none
      | .error fault => unknown env operation none (some (.process fault))

/-! ### Stops -/

def reconcileStopping (operation : LifecycleOperation) : LifecycleM LifecycleResponse := do
  match operation.process with
  | none => unknown env operation none none
  | some identity =>
    let lifecycle ← memory
    let profile ← check (lifecycle.profileForOperation operation)
    match ← inspectIdentity env identity.process with
    | .error fault => unknown env operation (some identity) (some (.process fault))
    | .ok actual =>
      if actual ≠ identity ∨ identity.matchesProfile identity.instanceId profile = false then
        let operation := operation.setState .blocked (some identity) (some .identityMismatch)
        persistUpdate env operation
        return .new operation .unknown
      else
        match ← inspect env identity.process with
        | .error fault => unknown env operation (some identity) (some (.process fault))
        | .ok (.exited _) =>
          match ← descendants env identity.process with
          | .error fault => unknown env operation (some identity) (some (.process fault))
          | .ok found =>
            if found.isEmpty then
              let operation := operation.setState .stopped none none
              persistUpdate env operation
              clearOwnedFor env operation
              return .new operation .stopped
            else
              let operation := operation.setState .blocked (some identity)
                (some .foreignDescendant)
              persistUpdate env operation
              return .new operation .failed
        | .ok .running =>
          match ← verifyProcess env identity profile with
          | .error error => blockCleanupLifecycleError env operation error
          | .ok () =>
            finishStop env operation identity
              (match operation.action with
                | .stop mode => mode
                | _ => .force)

def reconcileStopIntent (operation : LifecycleOperation) : LifecycleM LifecycleResponse := do
  let lifecycle ← memory
  match lifecycle.latestAuthorizedExcluding operation.instanceId (some operation.operationId) with
  | none => blockOperation env operation .instanceBusy
  | some previous =>
    match previous.process with
    | none => blockOperation env operation .identityMismatch
    | some identity =>
      let _ ← check (lifecycle.profileForOperation previous)
      let operation := operation.setState .stopping (some identity) operation.failure
      persistUpdate env operation
      reconcileStopping env operation

/-! ### Restarts -/

/-- A restart is authorized under a new epoch, once. -/
def rotateAuthority (operation : LifecycleOperation) (current : AuthorityEpoch) :
    LifecycleM LifecycleOperation := do
  if operation.requestEpoch = operation.authorityEpoch then
    let next ← check (okOr current.next .authorityExhausted)
    remember fun lifecycle => lifecycle.setAuthorityEpoch operation.instanceId next
    return operation.setAuthorityEpoch next
  else
    return operation

/-- The restart with its epoch becomes durable, or the epoch is taken back. -/
def persistRestarting (operation : LifecycleOperation) (identity : ProcessIdentity)
    (current : AuthorityEpoch) : LifecycleM LifecycleOperation := do
  let rotated ← rotateAuthority operation current
  let restarting := rotated.setState .restarting (some identity) operation.failure
  match ← attempt (persistUpdate env restarting) with
  | .ok () => return restarting
  | .error error =>
    if operation.requestEpoch = operation.authorityEpoch then
      remember fun lifecycle => lifecycle.setAuthorityEpoch operation.instanceId current
      raise error
    else
      raise error

def beginRestart (operation : LifecycleOperation) (identity : ProcessIdentity) :
    LifecycleM LifecycleOperation := do
  let lifecycle ← memory
  let current := lifecycle.currentAuthorityEpoch operation.instanceId
  check (refuse (operation.authorityEpoch ≠ current) .staleAuthorityEpoch)
  let restarting ← persistRestarting env operation identity current
  match operation.action with
  | .restart profileId =>
    reserveOwnership env restarting profileId
    return restarting
  | _ => raise .identityMismatch

/-- The epoch is rotated at most once; a reservation that may have failed is made
again before any effect. -/
def prepareRestartRecovery (operation : LifecycleOperation) (profile : LaunchProfile) :
    LifecycleM LifecycleOperation := do
  let identity ← check (okOr operation.process .identityMismatch)
  if operation.requestEpoch = operation.authorityEpoch then
    beginRestart env operation identity
  else
    let lifecycle ← memory
    check (refuse (operation.authorityEpoch ≠
      lifecycle.currentAuthorityEpoch operation.instanceId) .staleAuthorityEpoch)
    reserveOwnership env operation profile.id
    return operation

/-- The previous process is gone: the replacement is recorded, reserved and started. -/
def startReplacement (operation : LifecycleOperation) (profile : LaunchProfile) :
    LifecycleM LifecycleResponse := do
  let operation := operation.setState .restarting none none
  persistUpdate env operation
  reserveOwnership env operation profile.id
  match ProcessOperationGeneration.forOperation operation profile .restartReplacement with
  | none => unknown env operation none none
  | some generation => startAndFinish env operation profile generation

/-- The previous process was stopped or had exited; it must have left no descendants. -/
def replaceWithoutDescendants (operation : LifecycleOperation) (identity : ProcessIdentity)
    (profile : LaunchProfile) : LifecycleM LifecycleResponse := do
  match ← descendants env identity.process with
  | .error fault => processFailure env operation fault
  | .ok found =>
    if found.isEmpty then
      startReplacement env operation profile
    else
      blockCleanup env operation .foreignDescendant

def finishRestart (operation : LifecycleOperation) (profile : LaunchProfile) :
    LifecycleM LifecycleResponse := do
  let identity ← check (okOr operation.process .identityMismatch)
  if identity.matchesProfile operation.instanceId profile = false then
    reconcileRetainedCleanup env operation identity
  else
    match ← inspectIdentity env identity.process with
    | .error fault => processFailure env operation fault
    | .ok actual =>
      if actual ≠ identity then
        blockCleanup env operation .identityMismatch
      else
        match ← inspect env identity.process with
        | .error fault => processFailure env operation fault
        | .ok (.exited _) => replaceWithoutDescendants env operation identity profile
        | .ok .running =>
          match ← verifyProcess env identity profile with
          | .error error => blockCleanupLifecycleError env operation error
          | .ok () =>
            match ← stop env identity.process .force with
            | .error fault => blockOperationWithProcess env operation fault
            | .ok () => replaceWithoutDescendants env operation identity profile

def reconcileRestart (operation : LifecycleOperation) : LifecycleM LifecycleResponse := do
  let lifecycle ← memory
  match operation.process with
  | none =>
    if ProcessOperationGeneration.permitsRestartRecovery operation
        (lifecycle.currentAuthorityEpoch operation.instanceId) = false then
      unknown env operation none none
    else
      let profile ← check (lifecycle.profileForOperation operation)
      match ProcessOperationGeneration.forOperation operation profile .restartReplacement with
      | none => unknown env operation none none
      | some generation =>
        match ← recoverGeneration env generation profile with
        | .ok (.found identity) => finishRecovered env operation ⟨identity⟩ profile
        | .ok .indeterminate => unknown env operation none none
        | .error fault => unknown env operation none (some (.process fault))
  | some _ =>
    let profile ← check (lifecycle.profileForOperation operation)
    let prepared ← prepareRestartRecovery env operation profile
    finishRestart env prepared profile

def reconcileRestartIntent (operation : LifecycleOperation) (profileId : LaunchProfileId) :
    LifecycleM LifecycleResponse := do
  let lifecycle ← memory
  match lifecycle.latestAuthorizedExcluding operation.instanceId (some operation.operationId) with
  | none => blockOperation env operation .identityMismatch
  | some previous =>
    match previous.process with
    | none => blockOperation env operation .identityMismatch
    | some identity =>
      let profile ← check (lifecycle.resolve profileId)
      let previousProfile ← check (lifecycle.profileForOperation previous)
      if previousProfile ≠ profile ∨
          identity.matchesProfile operation.instanceId profile = false then
        blockOperation env operation .identityMismatch
      else
        let restarting ← beginRestart env operation identity
        reconcileRestart env restarting

def executeRestart (operation : LifecycleOperation) (profileId : LaunchProfileId) :
    LifecycleM LifecycleResponse := do
  let lifecycle ← memory
  match lifecycle.latestAuthorizedExcluding operation.instanceId (some operation.operationId) with
  | none => blockOperation env operation .identityMismatch
  | some previous =>
    match previous.process with
    | none => blockOperation env operation .identityMismatch
    | some identity =>
      let profile ← check (lifecycle.resolve profileId)
      let previousProfile ← check (lifecycle.profileForOperation previous)
      let operation := operation.setState .restarting (some identity) none
      persistUpdate env operation
      if profile ≠ previousProfile then
        blockOperation env operation .identityMismatch
      else
        match ← verifyProcess env identity profile with
        | .error error => blockCleanupLifecycleError env operation error
        | .ok () =>
          let restarting ← beginRestart env operation identity
          finishRestart env restarting profile

/-! ### Dispatch -/

/-- An operation that a newer one has superseded is rejected and never resumed. -/
def reconcileRecord (operation : LifecycleOperation) : LifecycleM LifecycleResponse := do
  let lifecycle ← memory
  if operation.state.isActive ∧ lifecycle.retained.operationIsCurrent operation = false then
    blockOperation env operation .instanceBusy
  else
    match operation.state, operation.action with
    | .intentRecorded, .launchNew _ | .starting, .launchNew _ => reconcileLaunch env operation
    | .intentRecorded, .attachExisting identity | .starting, .attachExisting identity =>
      executeAttach env operation identity
    | .intentRecorded, .stop _ | .starting, .stop _ => reconcileStopIntent env operation
    | .intentRecorded, .restart profileId | .starting, .restart profileId =>
      reconcileRestartIntent env operation profileId
    | .unknown, .launchNew _ => reconcileLaunch env operation
    | .unknown, .attachExisting identity => executeAttach env operation identity
    | .unknown, .stop _ =>
      if operation.process.isSome then
        reconcileStopping env operation
      else
        return .new operation .unknown
    | .unknown, .restart _ => reconcileRestart env operation
    | .started, _ | .attached, _ => verifyRecord env operation
    | .stopping, _ => reconcileStopping env operation
    | .restarting, _ => reconcileRestart env operation
    | .blocked, .restart _ => reconcileRestart env operation
    | .blocked, .launchNew _ =>
      if operation.process.isSome then
        reconcileLaunch env operation
      else
        return .new operation operation.state.lifecycleState
    | .blocked, .stop _ =>
      if operation.process.isSome then
        reconcileStopping env operation
      else
        return .new operation operation.state.lifecycleState
    | .blocked, .attachExisting _ => return .new operation operation.state.lifecycleState
    | .stopped, _ | .failed, _ | .rejected, _ =>
      return .new operation operation.state.lifecycleState

end Procedures

end Sts2Gateway.Lifecycle
