/-
The state of the lifecycle coordinator and its reads (`process_lifecycle.rs`,
`process_lifecycle_types.rs`, `process_lifecycle_order.rs`,
`process_lifecycle_namespace.rs`, and the reads of `process_lifecycle_ownership.rs`
and `process_lifecycle_verification.rs`).

* `LifecycleRequest`, `LifecycleResponse`, `LifecycleError`: what callers exchange
  with the coordinator;
* `operationOrder`, `ownerOrder`, `operationIsCurrent`: the order of operations and
  the newest one of an instance;
* `latestAuthoritativeRecord`, `latestAuthorizedExcluding`, `occupied`: which
  operation speaks for an instance, and which instances hold capacity;
* `profileForOperation`, `profileIdForRecord`, `ensureProfileNamespaceAvailable`:
  the profiles of operations, and the exclusion of their namespaces.
-/
import Sts2Gateway.Lifecycle.Generation
import Sts2Gateway.Lifecycle.Store

namespace Sts2Gateway.Lifecycle

open Std (ExtTreeMap)
open ControlPlane (InstanceId OperationId Lease LeaseProof LifecycleState ProcessFault StopMode
  FenceFailure LaunchSpec u64Max)
open Procedure Selection

/-! ### Requests and errors -/

structure ProcessLifecycleConfig where
  maxProcesses : ℕ
  maxRecords : ℕ
  deriving DecidableEq, Repr

inductive LifecycleError
  | leaseNotBound
  | fence (failure : FenceFailure)
  | staleAuthorityEpoch
  | authorityExhausted
  | capacityExceeded
  | instanceBusy
  | userDataNamespaceBusy
  | instanceNotFound
  | operationConflict
  | operationNotFound
  | unownedAttach
  | identityMismatch
  | foreignDescendant
  | process (fault : ProcessFault)
  | profile (error : LaunchProfileError)
  | store (error : LifecycleStoreError)
  | invalidState (state : LifecycleState)
  deriving DecidableEq, Repr

structure LifecycleRequest where
  operationId : OperationId
  instanceId : InstanceId
  lease : LeaseProof
  authorityEpoch : AuthorityEpoch
  action : LifecycleAction
  deriving DecidableEq, Repr

structure LifecycleResponse where
  operationId : OperationId
  instanceId : InstanceId
  state : LifecycleState
  operationState : LifecycleOperationState
  process : Option ProcessIdentity
  authorityEpoch : AuthorityEpoch
  failure : Option LifecycleFailure
  deriving DecidableEq, Repr

def LifecycleResponse.new (operation : LifecycleOperation) (state : LifecycleState) :
    LifecycleResponse where
  operationId := operation.operationId
  instanceId := operation.instanceId
  state := state
  operationState := operation.state
  process := operation.process
  authorityEpoch := operation.authorityEpoch
  failure := operation.failure

/-- `failure_error`. -/
def LifecycleFailure.error : LifecycleFailure → LifecycleError
  | .capacityExceeded => .capacityExceeded
  | .instanceBusy => .instanceBusy
  | .unownedAttach => .unownedAttach
  | .identityMismatch => .identityMismatch
  | .foreignDescendant => .foreignDescendant
  | .process fault => .process fault
  | .staleAuthorityEpoch => .staleAuthorityEpoch
  | .store => .store .database
  | .invalidState state => .invalidState state

/-- `same_request`. -/
def sameRequest (operation : LifecycleOperation) (request : LifecycleRequest) : Bool :=
  operation.instanceId = request.instanceId ∧ operation.lease = request.lease ∧
    operation.requestEpoch = request.authorityEpoch ∧ operation.action = request.action

/-- The profile that a launch or a restart names. -/
def LifecycleAction.profileId : LifecycleAction → Option LaunchProfileId
  | .launchNew profileId | .restart profileId => some profileId
  | .attachExisting _ | .stop _ => none

/-- `AuthorityEpoch::next`. -/
def AuthorityEpoch.next (epoch : AuthorityEpoch) : Option AuthorityEpoch :=
  if epoch < u64Max then some (epoch + 1) else none

/-- `LaunchSpec::for_profile`. -/
def launchSpecForProfile (instanceId : InstanceId) (profileId : LaunchProfileId) : LaunchSpec :=
  { instanceId, profileId := some profileId }

/-! ### Orders -/

def operationOrder (operation : LifecycleOperation) : ℕ ×ₗ ℕ ×ₗ ℕ :=
  if operation.sequence = 0 then toLex (0, toLex (operation.operationId, 0))
  else toLex (1, toLex (operation.sequence, operation.operationId))

def ownerOrder (owner : LifecycleOwnership) : ℕ ×ₗ ℕ ×ₗ ℕ :=
  if owner.sequence = 0 then toLex (0, toLex (owner.operationId, 0))
  else toLex (1, toLex (owner.sequence, owner.operationId))

/-! ### Reads of records and rows -/

namespace LifecycleContents

variable (contents : LifecycleContents)

/-- The record of an operation of an instance. -/
def record (instanceId : InstanceId) (operationId : OperationId) : Option LifecycleOperation :=
  contents.records[LifecycleRecordKey.new instanceId operationId]?

/-- The ownership row of an instance. -/
def row (instanceId : InstanceId) : Option LifecycleOwnership := contents.ownership[instanceId]?

def operationCanUpdateOwner (operation : LifecycleOperation) : Bool :=
  (contents.row operation.instanceId).all fun owner => ownerOrder owner ≤ operationOrder operation

def latestRecord (instanceId : InstanceId) : Option LifecycleOperation :=
  maxByKey operationOrder
    (contents.operations.filter fun operation => operation.instanceId = instanceId)

/-- The newest operation of an instance that was not rejected. -/
def latestAuthoritativeRecord (instanceId : InstanceId) : Option LifecycleOperation :=
  maxByKey operationOrder (contents.operations.filter fun operation =>
    operation.instanceId = instanceId ∧ operation.state ≠ .rejected)

/-- Whether an operation is still the newest one of its instance.  Records from
before sequences were issued are compared by their ids. -/
def operationIsCurrent (operation : LifecycleOperation) : Bool :=
  let latest := maxByKey
    (fun candidate : LifecycleOperation =>
      if operation.sequence = 0 ∨ candidate.sequence = 0 then
        toLex (0, toLex (candidate.operationId, 0))
      else operationOrder candidate)
    (contents.operations.filter fun candidate =>
      candidate.instanceId = operation.instanceId ∧ candidate.state ≠ .rejected)
  latest.all fun latest => operation.operationId = latest.operationId ∧
    (operation.sequence = 0 ∨ latest.sequence = 0 ∨
      operationOrder latest ≤ operationOrder operation)

/-- The operation that the row of an instance names. -/
def authoritativeOperation (instanceId : InstanceId) : Option LifecycleOperation :=
  (contents.row instanceId).bind fun owner => contents.record instanceId owner.operationId

def activeOperation (instanceId : InstanceId) : Option LifecycleOperation :=
  ((contents.authoritativeOperation instanceId).filter (·.state.isActive)).or
    ((contents.latestAuthoritativeRecord instanceId).filter (·.state.isActive))

/-- The instances that hold capacity: those with a row, and those whose newest
operation is active. -/
def occupied : Finset InstanceId :=
  (contents.rows.map (·.instanceId)).toFinset ∪
    (contents.operations.map (·.instanceId)).toFinset.filter fun instanceId =>
      (contents.latestAuthoritativeRecord instanceId).any (·.state.isActive) = true

def occupiedCount : ℕ := contents.occupied.card

/-- An attach or a stop names no profile; that of the launch or restart of its
process stands in for it. -/
def profileIdForRecord (operation : LifecycleOperation) : Option LaunchProfileId :=
  match operation.action with
  | .launchNew profileId | .restart profileId => some profileId
  | .attachExisting _ | .stop _ => operation.process.bind fun identity =>
    let launched := maxByKey
      (fun candidate : LifecycleOperation =>
        (toLex (candidate.sequence, candidate.operationId) : ℕ ×ₗ ℕ))
      (contents.operations.filter fun candidate =>
        candidate.instanceId = operation.instanceId ∧ candidate.process = some identity ∧
          candidate.state ≠ .rejected ∧ candidate.action.profileId.isSome)
    launched.bind (·.action.profileId)

end LifecycleContents

/-! ### The coordinator -/

/-- What the coordinator keeps in memory; `retained` holds its records and its
ownership rows. -/
structure ProcessLifecycle where
  config : ProcessLifecycleConfig
  profiles : ApprovedLaunchProfiles
  leases : ExtTreeMap InstanceId Lease compare
  authority : ExtTreeMap InstanceId AuthorityEpoch compare
  retained : LifecycleContents
  owned : ExtTreeMap InstanceId ProcessIdentity compare
  nextSequence : ℕ

namespace ProcessLifecycle

variable (lifecycle : ProcessLifecycle)

def currentAuthorityEpoch (instanceId : InstanceId) : AuthorityEpoch :=
  lifecycle.authority[instanceId]?.getD 1

def setAuthorityEpoch (instanceId : InstanceId) (epoch : AuthorityEpoch) : ProcessLifecycle :=
  { lifecycle with authority := lifecycle.authority.insert instanceId epoch }

def leaseMatches (operation : LifecycleOperation) : Bool :=
  lifecycle.leases[operation.instanceId]?.any fun lease => lease.proof = operation.lease

/-- The active operation with a process that the bound lease authorizes: the one that
the row names, or else the newest one. -/
def latestAuthorizedExcluding (instanceId : InstanceId) (excluded : Option OperationId) :
    Option LifecycleOperation :=
  if lifecycle.retained.ownership.contains instanceId then
    (lifecycle.retained.authoritativeOperation instanceId).filter fun operation =>
      some operation.operationId ≠ excluded ∧ operation.process.isSome ∧
        operation.state.isActive ∧ lifecycle.leaseMatches operation
  else
    (lifecycle.retained.latestAuthoritativeRecord instanceId).bind fun latest =>
      if some latest.operationId ≠ excluded then
        (some latest).filter fun operation =>
          operation.state.isActive ∧ operation.process.isSome ∧ lifecycle.leaseMatches operation
      else maxByKey operationOrder (lifecycle.retained.operations.filter fun operation =>
        operation.instanceId = instanceId ∧ some operation.operationId ≠ excluded ∧
          lifecycle.leaseMatches operation ∧ operation.process.isSome ∧ operation.state.isActive)

def latestAuthorized (instanceId : InstanceId) : Option LifecycleOperation :=
  lifecycle.latestAuthorizedExcluding instanceId none

def resolve (profileId : LaunchProfileId) : Except LifecycleError LaunchProfile :=
  (lifecycle.profiles.resolve profileId).mapError .profile

def profileForOperation (operation : LifecycleOperation) : Except LifecycleError LaunchProfile :=
  match lifecycle.retained.row operation.instanceId with
  | some owner => lifecycle.resolve owner.profileId
  | none =>
    match operation.action with
    | .launchNew profileId | .restart profileId => lifecycle.resolve profileId
    | .attachExisting _ | .stop _ =>
      let candidates := lifecycle.retained.operations.filter fun candidate =>
        candidate.instanceId = operation.instanceId ∧ candidate.process.isSome ∧
          candidate.state.isActive
      okOr (candidates.reverse.findSome? fun candidate =>
        candidate.action.profileId.bind fun profileId =>
          (lifecycle.profiles.resolve profileId).toOption) .instanceNotFound

/-- A profile that no longer resolves counts as a conflict: its namespace is unknown. -/
def sharesNamespace (namespaceOf : UserDataConfig) (profileId : LaunchProfileId) : Bool :=
  match lifecycle.profiles.resolve profileId with
  | .ok existing => existing.userData = namespaceOf
  | .error _ => true

def ensureProfileNamespaceAvailable (instanceId : InstanceId) (profileId : LaunchProfileId) :
    Except LifecycleError Unit := do
  let profile ← lifecycle.resolve profileId
  refuse (lifecycle.retained.rows.any fun owner =>
    decide (owner.instanceId ≠ instanceId) &&
      lifecycle.sharesNamespace profile.userData owner.profileId) .userDataNamespaceBusy
  refuse (lifecycle.retained.operations.any fun operation =>
    decide (operation.instanceId ≠ instanceId) &&
    !lifecycle.retained.ownership.contains operation.instanceId &&
    operation.state.isActive &&
    (lifecycle.retained.latestAuthoritativeRecord operation.instanceId).any fun latest =>
      decide (latest.operationId = operation.operationId) &&
        (lifecycle.retained.profileIdForRecord operation).all
          (lifecycle.sharesNamespace profile.userData)) .userDataNamespaceBusy

end ProcessLifecycle

end Sts2Gateway.Lifecycle
