/-
The calls of the lifecycle coordinator and its runs (`process_lifecycle.rs`,
`process_lifecycle_operations.rs`, `process_lifecycle_ownership.rs`).

* `applyRequest`, `reconcileOperation`: the two calls that act on a process;
* `restore`, `bootstrapOwnership`: a coordinator is rebuilt from its store;
* `System`, `Step`, `next`, `run`: coordinators over one durable store, one after the
  other, each of whose calls a crash may cut short.
-/
import Sts2Gateway.Library.Machine
import Sts2Gateway.Lifecycle.Reconcile

namespace Sts2Gateway.Lifecycle

open Std (ExtTreeMap)
open ControlPlane (InstanceId OperationId Lease LeaseProof Tick FenceFailure)
open Procedure Exchange Crash

/-! ### Admission -/

namespace ProcessLifecycle

variable (lifecycle : ProcessLifecycle)

def validateAction (instanceId : InstanceId) : LifecycleAction → Except LifecycleError Unit
  | .launchNew profileId | .restart profileId => do
    let _ ← lifecycle.resolve profileId
  | .attachExisting identity => refuse (identity.instanceId ≠ instanceId) .identityMismatch
  | .stop _ => .ok ()

/-- The states of an operation that a stop or a restart may follow. -/
def settled : LifecycleOperationState → Bool
  | .started | .attached | .blocked => true
  | _ => false

def reserveAction (instanceId : InstanceId) : LifecycleAction → Except LifecycleError Unit
  | .launchNew profileId => do
    refuse (lifecycle.retained.ownership.contains instanceId ∨
      (lifecycle.retained.activeOperation instanceId).isSome) .instanceBusy
    refuse (lifecycle.config.maxProcesses ≤ lifecycle.retained.occupiedCount) .capacityExceeded
    lifecycle.ensureProfileNamespaceAvailable instanceId profileId
  | .attachExisting identity => do
    let previous ← okOr (lifecycle.latestAuthorized instanceId) .unownedAttach
    refuse (previous.process ≠ some identity) .identityMismatch
    refuse (previous.state ≠ .started ∧ previous.state ≠ .attached) .instanceBusy
  | .stop _ => do
    let previous ← okOr (lifecycle.latestAuthorized instanceId) .instanceNotFound
    refuse (settled previous.state = false) .instanceBusy
  | .restart profileId => do
    let previous ← okOr (lifecycle.latestAuthorized instanceId) .instanceNotFound
    refuse (settled previous.state = false) .instanceBusy
    lifecycle.ensureProfileNamespaceAvailable instanceId profileId

end ProcessLifecycle

section Procedures

variable (env : Environment)

/-! ### Calls -/

def execute (operation : LifecycleOperation) : LifecycleM LifecycleResponse :=
  match operation.action with
  | .launchNew profileId => executeLaunch env operation profileId
  | .attachExisting identity => executeAttach env operation identity
  | .stop mode => executeStop env operation mode
  | .restart profileId => executeRestart env operation profileId

/-- A duplicate of a completed operation that a newer one has superseded gets its
retained result; any other superseded one is rejected. -/
def replay (operation : LifecycleOperation) : LifecycleM LifecycleResponse := do
  let lifecycle ← memory
  if operation.state.isActive ∧ lifecycle.retained.operationIsCurrent operation = false then
    if operation.state = .started ∨ operation.state = .attached then
      return .new operation operation.state.lifecycleState
    else
      blockOperation env operation .instanceBusy
  else
    match operation.state with
    | .started | .attached => verifyRecord env operation
    | .intentRecorded | .starting | .stopping | .restarting | .unknown | .blocked =>
      reconcileRecord env operation
    | .stopped | .failed | .rejected => return .new operation operation.state.lifecycleState

/-- A new operation becomes durable, and a launch reserves its instance, before
anything is done. -/
def accept (request : LifecycleRequest) : LifecycleM LifecycleResponse := do
  let lifecycle ← memory
  check (lifecycle.validateAction request.instanceId request.action)
  check (lifecycle.reserveAction request.instanceId request.action)
  let sequence ← issueSequence
  let operation := (LifecycleOperation.new request.operationId request.instanceId request.lease
    request.authorityEpoch request.action).setSequence sequence
  persistInsert env operation
  match request.action with
  | .launchNew profileId =>
    reserveOwnership env operation profileId
    execute env operation
  | _ => execute env operation

def applyRequest (request : LifecycleRequest) : LifecycleM LifecycleResponse := do
  authenticate env request.instanceId request.lease request.authorityEpoch
  let lifecycle ← memory
  match lifecycle.retained.record request.instanceId request.operationId with
  | some operation =>
    check (refuse (sameRequest operation request = false) .operationConflict)
    replay env operation
  | none => accept env request

def reconcileOperation (lease : LeaseProof) (authorityEpoch : AuthorityEpoch)
    (operationId : OperationId) : LifecycleM LifecycleResponse := do
  authenticate env lease.instanceId lease authorityEpoch
  let lifecycle ← memory
  let operation ← check
    (okOr (lifecycle.retained.record lease.instanceId operationId) .operationNotFound)
  check (refuse (operation.lease ≠ lease) (.fence .wrongLease))
  check (refuse (operation.authorityEpoch ≠ authorityEpoch) .staleAuthorityEpoch)
  reconcileRecord env operation

end Procedures

/-- `bind_lease`. -/
def ProcessLifecycle.bindLease (lifecycle : ProcessLifecycle) (lease : Lease) :
    Except LifecycleError ProcessLifecycle :=
  if (lifecycle.leases[lease.instanceId]?.any fun current => current.proof ≠ lease.proof) then
    .error .identityMismatch
  else .ok { lifecycle with
    leases := lifecycle.leases.insert lease.instanceId lease
    authority := match lifecycle.authority[lease.instanceId]? with
      | some _ => lifecycle.authority
      | none => lifecycle.authority.insert lease.instanceId 1 }

/-! ### Rebuilding -/

/-- What a coordinator is built with. -/
structure Setup where
  config : ProcessLifecycleConfig
  profiles : ApprovedLaunchProfiles
  profileCapacity : ℕ

/-- The epochs of the instances: the largest of their records. -/
def raiseAuthority (authority : ExtTreeMap InstanceId AuthorityEpoch compare)
    (operation : LifecycleOperation) : ExtTreeMap InstanceId AuthorityEpoch compare :=
  authority.insert operation.instanceId
    (match authority[operation.instanceId]? with
      | some current => max current operation.authorityEpoch
      | none => operation.authorityEpoch)

/-- The coordinator that the listed records and rows give, before the rows are checked
against the records. -/
def ProcessLifecycle.load (setup : Setup) (persisted : List LifecycleOperation)
    (persistedOwnership : List LifecycleOwnership) : ProcessLifecycle where
  config := setup.config
  profiles := setup.profiles
  leases := ∅
  authority := persisted.foldl raiseAuthority ∅
  retained := persistedOwnership.foldl LifecycleContents.putOwnership
    (persisted.foldl LifecycleContents.putRecord .empty)
  owned := ∅
  nextSequence := persisted.foldl (fun n operation => max n operation.sequence) 0

namespace LifecycleContents

variable (contents : LifecycleContents)

/-- A row outlives its process when the newest record, no older than the row, is
terminal. -/
def ownerIsStale (owner : LifecycleOwnership) : Bool :=
  (contents.latestRecord owner.instanceId).any fun latest =>
    decide (latest.state = .stopped ∨ latest.state = .failed) &&
      decide (ownerOrder owner ≤ operationOrder latest)

/-- The row that an instance without one gets for its newest active operation. -/
def candidate (instanceId : InstanceId) : Option LifecycleOwnership :=
  if contents.ownership.contains instanceId then none
  else (contents.latestAuthoritativeRecord instanceId).bind fun operation =>
    if operation.state.isActive then
      (contents.profileIdForRecord operation).map fun profileId =>
        { instanceId
          operationId := operation.operationId
          sequence := operation.sequence
          profileId
          process := operation.process }
    else none

def candidates : List LifecycleOwnership :=
  (contents.operations.map (·.instanceId)).dedup.filterMap contents.candidate

end LifecycleContents

section Procedures

variable (env : Environment)

def clearStale (owner : LifecycleOwnership) : LifecycleM Unit := do
  write env (.clearOwnershipIf owner)
  remember fun lifecycle => lifecycle.disown owner.instanceId

/-- The mirror of the processes that rows name. -/
def ProcessLifecycle.mirrorOwned (lifecycle : ProcessLifecycle) : ProcessLifecycle :=
  { lifecycle with
    owned := lifecycle.retained.rows.foldl (fun owned row =>
      match row.process with
      | some identity => owned.insert row.instanceId identity
      | none => owned) lifecycle.owned }

def bootstrapOwnership : LifecycleM Unit := do
  let lifecycle ← memory
  check (refuse (lifecycle.config.maxProcesses < lifecycle.retained.ownership.size)
    .capacityExceeded)
  remember fun lifecycle => { lifecycle with
    nextSequence := lifecycle.retained.rows.foldl (fun n row => max n row.sequence)
      lifecycle.nextSequence }
  check (refuse (lifecycle.retained.rows.any fun row =>
    row.process.any fun process => process.instanceId ≠ row.instanceId) (.store .serialization))
  (lifecycle.retained.rows.filter lifecycle.retained.ownerIsStale).forM (clearStale env)
  remember ProcessLifecycle.mirrorOwned
  let lifecycle ← memory
  lifecycle.retained.candidates.forM (persistOwnership env)

/-- `ProcessLifecycle::new`. -/
def restore (setup : Setup) : LifecycleM Unit := do
  check (refuse (setup.config.maxProcesses = 0 ∨ setup.config.maxRecords = 0) .capacityExceeded)
  check (refuse (setup.profileCapacity = 0) (.profile .capacityExceeded))
  let counted ← readStore env
  check (refuse (setup.config.maxRecords < counted.records.size) .capacityExceeded)
  let listed ← readStore env
  let owners ← readStore env
  remember fun _ => .load setup listed.operations owners.rows
  bootstrapOwnership env

end Procedures

/-! ### Runs -/

/-- A coordinator over its durable store, unless it crashed or was never built, and
the exchanges so far. -/
structure System where
  memory : Option ProcessLifecycle
  store : LifecycleContents
  events : List Event

/-- A store before its first coordinator. -/
def start : System where
  memory := none
  store := .empty
  events := []

namespace System

def callState (system : System) (memory : ProcessLifecycle) : CallState Coordinator Event where
  state := { memory, store := system.store }
  events := system.events

/-- The system when a procedure has ended: memory survives unless it crashed. -/
def ended {α : Type} (result : EStateM.Result (Halt LifecycleError) (CallState Coordinator Event) α) :
    System :=
  match result with
  | .ok _ t | .error (.raised _) t =>
    { memory := some t.state.memory, store := t.state.store, events := t.events }
  | .error .crashed t => { memory := none, store := t.state.store, events := t.events }

end System

/-- What the callers of a coordinator do. -/
inductive Call
  | apply (request : LifecycleRequest)
  | reconcile (lease : LeaseProof) (authorityEpoch : AuthorityEpoch) (operationId : OperationId)
  deriving DecidableEq, Repr

def Call.run (env : Environment) : Call → LifecycleM LifecycleResponse
  | .apply request => applyRequest env request
  | .reconcile lease authorityEpoch operationId =>
    reconcileOperation env lease authorityEpoch operationId

inductive Step
  | rebuild (setup : Setup)
  | bindLease (lease : Lease)
  | call (call : Call)

/-- A coordinator that could not be built is dropped with its store handle. -/
def rebuilt (env : Environment) (setup : Setup) (system : System) : System :=
  match (restore env setup).run (system.callState (.load setup [] [])) with
  | .ok _ t => { memory := some t.state.memory, store := t.state.store, events := t.events }
  | .error _ t => { memory := none, store := t.state.store, events := t.events }

def next (env : Environment) (system : System) : Step → System
  | .rebuild setup => rebuilt env setup system
  | .bindLease lease =>
    { system with memory := system.memory.map fun lifecycle =>
      match lifecycle.bindLease lease with
      | .ok bound => bound
      | .error _ => lifecycle }
  | .call call =>
    match system.memory with
    | none => system
    | some memory => .ended ((call.run env).run (system.callState memory))

def run (env : Environment) : System → List Step → System := Machine.run (next env)

end Sts2Gateway.Lifecycle
