/-
The actions of the lifecycle coordinator (`process_lifecycle_verification.rs`,
`process_lifecycle_failures.rs`, `process_lifecycle_actions.rs`).

* `verifyProcess`, `verifyStartedIdentity`, `confirmExitedWithoutDescendants`: what
  the coordinator observes before it trusts a process or its absence;
* `blockOperation`, `blockCleanup`, `processFailure`: how an operation fails;
* `executeLaunch`, `executeAttach`, `executeStop`: the actions that a fresh
  operation runs, and `finishStart`, `finishStop`, which recovery shares.
-/
import Sts2Gateway.Lifecycle.Ports

namespace Sts2Gateway.Lifecycle

open ControlPlane (InstanceId OperationId LifecycleState ProcessFault ProcessState StopMode)
open Procedure Exchange Crash

section Procedures

variable (env : Environment)

/-! ### Verification -/

def verifyDescendants (expected : ProcessIdentity) (profile : LaunchProfile) :
    LifecycleM (Except LifecycleFailure Unit) := do
  match ← descendants env expected.process with
  | .error fault => return .error (.process fault)
  | .ok found =>
    if profile.policy.maxDescendants < found.length then
      return .error .foreignDescendant
    else if found.any fun descendant =>
        !descendant.matchesProfile expected.instanceId profile then
      return .error .foreignDescendant
    else
      return .ok ()

/-- How a failed check of the descendants is reported by `verify_process`. -/
def descendantError : LifecycleFailure → LifecycleError
  | .process fault => .process fault
  | .foreignDescendant => .foreignDescendant
  | _ => .identityMismatch

def verifyProcess (expected : ProcessIdentity) (profile : LaunchProfile) :
    LifecycleM (Except LifecycleError Unit) := do
  if expected.matchesProfile expected.instanceId profile = false then
    return .error .identityMismatch
  else
    match ← inspectIdentity env expected.process with
    | .error fault => return .error (.process fault)
    | .ok actual =>
      if actual ≠ expected then
        return .error .identityMismatch
      else
        match ← inspect env expected.process with
        | .error fault => return .error (.process fault)
        | .ok (.exited _) => return .error (.process .inspectionFailed)
        | .ok .running =>
          let verified ← verifyDescendants env expected profile
          return verified.mapError descendantError

def verifyStartedIdentity (expected : ProcessIdentity) (profile : LaunchProfile) :
    LifecycleM (Except LifecycleFailure Unit) := do
  match ← inspectIdentity env expected.process with
  | .error fault => return .error (.process fault)
  | .ok actual =>
    if actual ≠ expected then
      return .error .identityMismatch
    else if expected.matchesProfile expected.instanceId profile = false then
      return .error .identityMismatch
    else
      match ← inspect env expected.process with
      | .error fault => return .error (.process fault)
      | .ok (.exited _) => return .error (.process .inspectionFailed)
      | .ok .running => verifyDescendants env expected profile

/-- Whether the process is seen exited and without descendants; a failed inspection
is no proof of absence. -/
def confirmExitedWithoutDescendants (expected : ProcessIdentity) : LifecycleM Bool := do
  match ← inspectIdentity env expected.process with
  | .error _ => return false
  | .ok actual =>
    if actual ≠ expected then
      return false
    else
      match ← inspect env expected.process with
      | .ok (.exited _) =>
        match ← descendants env expected.process with
        | .ok found => return found.isEmpty
        | .error _ => return false
      | _ => return false

/-! ### Failures -/

def LifecycleFailure.isProcess : LifecycleFailure → Bool
  | .process _ => true
  | _ => false

def blockOperation (operation : LifecycleOperation) (failure : LifecycleFailure) :
    LifecycleM LifecycleResponse := do
  let lifecycle ← memory
  let state := if failure.isProcess then LifecycleOperationState.blocked else .rejected
  let clearOwner := !failure.isProcess &&
    (lifecycle.retained.row operation.instanceId).any fun owner =>
      owner.operationId = operation.operationId
  let operation := operation.setState state operation.process (some failure)
  persistUpdate env operation
  if clearOwner then
    clearOwnedFor env operation
    raise failure.error
  else
    raise failure.error

def blockOperationWithProcess (operation : LifecycleOperation) (fault : ProcessFault) :
    LifecycleM LifecycleResponse :=
  blockOperation env operation (.process fault)

/-- The row keeps the process that is still to be cleaned up even when the record
cannot be written. -/
def blockCleanup (operation : LifecycleOperation) (failure : LifecycleFailure) :
    LifecycleM LifecycleResponse := do
  let operation := operation.setState .blocked operation.process (some failure)
  setOwnerProcessForOperation env operation operation.process
  persistUpdate env operation
  raise failure.error

def blockCleanupLifecycleError (operation : LifecycleOperation) (error : LifecycleError) :
    LifecycleM LifecycleResponse :=
  match error with
  | .foreignDescendant => blockCleanup env operation .foreignDescendant
  | .identityMismatch => blockCleanup env operation .identityMismatch
  | .process fault => blockCleanup env operation (.process fault)
  | other => raise other

def unknown (operation : LifecycleOperation) (process : Option ProcessIdentity)
    (failure : Option LifecycleFailure) : LifecycleM LifecycleResponse := do
  let operation := operation.setState .unknown process failure
  persistUpdate env operation
  return .new operation .unknown

/-- The faults of a start that say that no process was created. -/
def refusesStart : ProcessFault → Bool
  | .startRejected | .profileRequired | .profileNotApproved => true
  | _ => false

/-- The kind of process that an action creates. -/
def LifecycleAction.generationKind : LifecycleAction → Option ProcessGenerationKind
  | .launchNew _ => some .launchNew
  | .restart _ => some .restartReplacement
  | .attachExisting _ | .stop _ => none

/-- The key of an operation whose action creates a process, and its profile. -/
def ProcessLifecycle.generationOf (lifecycle : ProcessLifecycle) (operation : LifecycleOperation) :
    Option (ProcessOperationGeneration × LaunchProfile) := do
  let kind ← operation.action.generationKind
  let profileId ← operation.action.profileId
  let profile ← (lifecycle.profiles.resolve profileId).toOption
  let generation ← ProcessOperationGeneration.forOperation operation profile kind
  return (generation, profile)

/-- The process of the failed start, where the port can still tell.  One that does
not match the profile is kept as well: it is there to be cleaned up. -/
def recoverStarted (operation : LifecycleOperation) : LifecycleM (Option ProcessIdentity) := do
  let lifecycle ← memory
  match lifecycle.generationOf operation with
  | none => return none
  | some (generation, profile) =>
    match ← recoverGeneration env generation profile with
    | .ok (.found identity) =>
      return (some identity).filter fun identity => identity.instanceId = operation.instanceId
    | _ => return none

def processFailure (operation : LifecycleOperation) (fault : ProcessFault) :
    LifecycleM LifecycleResponse := do
  if operation.process.isNone then
    if refusesStart fault then
      let failed := operation.setState .failed none (some (.process fault))
      persistUpdate env failed
      clearOwnedFor env failed
      raise (.process fault)
    else
      let recovered ← recoverStarted env operation
      let unknown := operation.setState .unknown recovered (some (.process fault))
      persistUpdate env unknown
      setOwnerProcessForOperation env unknown recovered
      raise (.process fault)
  else
    blockOperationWithProcess env operation fault

/-! ### Launches -/

def finishStartFailure (operation : LifecycleOperation) (failure : LifecycleFailure) :
    LifecycleM LifecycleResponse := do
  match operation.process with
  | none => blockOperation env operation failure
  | some identity =>
    let operation := operation.setState .starting (some identity) (some failure)
    match ← stop env identity.process .force with
    | .error fault => blockCleanup env operation (.process fault)
    | .ok () =>
      match ← descendants env identity.process with
      | .error fault => blockCleanup env operation (.process fault)
      | .ok found =>
        if found.isEmpty then
          blockOperation env operation failure
        else
          blockCleanup env operation .foreignDescendant

def finishStart (operation : LifecycleOperation) (launch : ProcessLaunch) (profile : LaunchProfile)
    (state : LifecycleOperationState) : LifecycleM LifecycleResponse := do
  let identity := launch.identity
  if identity.matchesProfile operation.instanceId profile = false then
    finishStartFailure env
      (operation.setState .starting (some identity) (some .identityMismatch)) .identityMismatch
  else
    match ← verifyStartedIdentity env identity profile with
    | .error failure =>
      finishStartFailure env (operation.setState .starting (some identity) (some failure)) failure
    | .ok () =>
      let operation := operation.setState state (some identity) none
      persistUpdate env operation
      setOwned env operation profile.id identity
      return .new operation .starting

/-- The start of a process, and what follows from its answer. -/
def startAndFinish (operation : LifecycleOperation) (profile : LaunchProfile)
    (generation : ProcessOperationGeneration) : LifecycleM LifecycleResponse := do
  let specification := launchSpecForProfile operation.instanceId profile.id
  match ← startGeneration env generation specification profile with
  | .ok launch => finishStart env operation launch profile .started
  | .error .unsupported => processFailure env operation .profileRequired
  | .error (.process fault) => processFailure env operation fault

def executeLaunch (operation : LifecycleOperation) (profileId : LaunchProfileId) :
    LifecycleM LifecycleResponse := do
  let lifecycle ← memory
  let profile ← check (lifecycle.resolve profileId)
  let operation := operation.setState .starting none none
  persistUpdate env operation
  match ProcessOperationGeneration.forOperation operation profile .launchNew with
  | none => unknown env operation none none
  | some generation => startAndFinish env operation profile generation

/-! ### Attachments and stops -/

def executeAttach (operation : LifecycleOperation) (identity : ProcessIdentity) :
    LifecycleM LifecycleResponse := do
  let lifecycle ← memory
  match lifecycle.latestAuthorizedExcluding operation.instanceId (some operation.operationId) with
  | none => blockOperation env operation .unownedAttach
  | some previous =>
    match previous.process with
    | none => blockOperation env operation .unownedAttach
    | some expected =>
      if expected ≠ identity then
        blockOperation env operation .identityMismatch
      else
        let profile ← check (lifecycle.profileForOperation previous)
        let operation := operation.setState .attached (some identity) none
        persistUpdate env operation
        match ← verifyProcess env identity profile with
        | .error error => blockCleanupLifecycleError env operation error
        | .ok () =>
          setOwned env operation profile.id identity
          persistUpdate env operation
          return .new operation .starting

def finishStop (operation : LifecycleOperation) (identity : ProcessIdentity) (mode : StopMode) :
    LifecycleM LifecycleResponse := do
  match ← stop env identity.process mode with
  | .error fault => blockOperationWithProcess env operation fault
  | .ok () =>
    match ← descendants env identity.process with
    | .error fault => blockOperationWithProcess env operation fault
    | .ok found =>
      if found.isEmpty then
        let operation := operation.setState .stopped none none
        persistUpdate env operation
        clearOwnedFor env operation
        return .new operation .stopped
      else
        blockCleanup env operation .foreignDescendant

def executeStop (operation : LifecycleOperation) (mode : StopMode) :
    LifecycleM LifecycleResponse := do
  let lifecycle ← memory
  match lifecycle.latestAuthorizedExcluding operation.instanceId (some operation.operationId) with
  | none => blockOperation env operation .instanceBusy
  | some previous =>
    match previous.process with
    | none => blockOperation env operation .identityMismatch
    | some identity =>
      let profile ← check (lifecycle.profileForOperation previous)
      let operation := operation.setState .stopping (some identity) none
      persistUpdate env operation
      match ← verifyProcess env identity profile with
      | .error error => blockCleanupLifecycleError env operation error
      | .ok () => finishStop env operation identity mode

end Procedures

end Sts2Gateway.Lifecycle
