/-
The ports of the lifecycle coordinator and its durable steps (`process_lifecycle.rs`,
`process_lifecycle_ownership.rs`).

* `StoreWrite`, `StoreOutcome`: a mutation of the store, and whether it took effect
  and was acknowledged;
* `Environment`: the outside, whose answers may depend on everything so far, and the
  points at which the gateway crashes;
* `write`, `persistInsert`, `persistUpdate`, `persistOwnership`, `clearOwned`: the
  store first, and memory after it;
* `inMemoryOutcome`: the outcomes of the store in memory.
-/
import Sts2Gateway.Library.Crash
import Sts2Gateway.Lifecycle.Coordinator

namespace Sts2Gateway.Lifecycle

open ControlPlane (InstanceId OperationId ProcessHandle Lease LeaseProof Tick ProcessFault
  ProcessState StopMode FenceFailure LaunchSpec u64Max)
open Procedure Exchange Crash

/-! ### The store -/

inductive StoreWrite
  | insert (operation : LifecycleOperation)
  | update (operation : LifecycleOperation)
  | setOwnership (row : LifecycleOwnership)
  | clearOwnershipIf (row : LifecycleOwnership)
  deriving DecidableEq, Repr

def StoreWrite.call : StoreWrite → StoreCall
  | .insert operation => .insert operation
  | .update operation => .update operation
  | .setOwnership row => .setOwnership row
  | .clearOwnershipIf row => .clearOwnershipIf row

/-- The effect of a mutation that is carried out. -/
def StoreWrite.apply : StoreWrite → LifecycleContents → LifecycleContents
  | .insert operation, contents | .update operation, contents => contents.putRecord operation
  | .setOwnership row, contents => contents.putOwnership row
  | .clearOwnershipIf row, contents => contents.removeOwnership row.instanceId

/-- A mutation is carried out, or fails and leaves the store unchanged, or is carried
out and yet reported as failed. -/
inductive StoreOutcome
  | done
  | refused (error : LifecycleStoreError)
  | lost (error : LifecycleStoreError)
  deriving DecidableEq, Repr

namespace StoreOutcome

def takesEffect : StoreOutcome → Bool
  | .refused _ => false
  | _ => true

def answer : StoreOutcome → Except LifecycleStoreError Unit
  | .done => .ok ()
  | .refused error | .lost error => .error error

end StoreOutcome

/-! ### The outside -/

structure ProcessLaunch where
  identity : ProcessIdentity
  deriving DecidableEq, Repr

/-- What the coordinator exchanged with its ports. -/
inductive Event
  | checkedFence (instanceId : InstanceId) (proof : LeaseProof)
      (answer : Except FenceFailure Unit)
  | inspectedIdentity (process : ProcessHandle) (answer : Except ProcessFault ProcessIdentity)
  | inspected (process : ProcessHandle) (answer : Except ProcessFault ProcessState)
  | listedDescendants (process : ProcessHandle)
      (answer : Except ProcessFault (List ProcessDescendantIdentity))
  | stopped (process : ProcessHandle) (mode : StopMode) (answer : Except ProcessFault Unit)
  | started (generation : ProcessOperationGeneration)
      (answer : Except GenerationStartError ProcessLaunch)
  | recovered (generation : ProcessOperationGeneration)
      (answer : Except ProcessFault GenerationRecovery)
  | read (failure : Option LifecycleStoreError)
  | wrote (write : StoreWrite) (outcome : StoreOutcome)
  deriving DecidableEq

structure Environment where
  now : List Event → Tick
  checkFence : List Event → Option Lease → InstanceId → LeaseProof → Tick →
    Except FenceFailure Unit
  inspectIdentity : List Event → ProcessHandle → Except ProcessFault ProcessIdentity
  inspect : List Event → ProcessHandle → Except ProcessFault ProcessState
  descendants : List Event → ProcessHandle →
    Except ProcessFault (List ProcessDescendantIdentity)
  stop : List Event → ProcessHandle → StopMode → Except ProcessFault Unit
  startGeneration : List Event → ProcessOperationGeneration → LaunchSpec → LaunchProfile →
    Except GenerationStartError ProcessLaunch
  recoverGeneration : List Event → ProcessOperationGeneration → LaunchProfile →
    Except ProcessFault GenerationRecovery
  readFailure : List Event → Option LifecycleStoreError
  write : List Event → LifecycleContents → StoreWrite → StoreOutcome
  crashes : List Event → Bool

/-- Failing calls of the store leave it unchanged. -/
def Environment.Atomic (env : Environment) : Prop :=
  ∀ log contents write error, env.write log contents write ≠ .lost error

/-! ### Durable steps -/

/-- The coordinator and the durable contents of its store. -/
structure Coordinator where
  memory : ProcessLifecycle
  store : LifecycleContents

abbrev LifecycleM := CrashM LifecycleError Coordinator Event

def Coordinator.remember (c : Coordinator) (f : ProcessLifecycle → ProcessLifecycle) :
    Coordinator :=
  { c with memory := f c.memory }

/-- The store after a mutation with an outcome. -/
def Coordinator.wrote (c : Coordinator) (write : StoreWrite) (outcome : StoreOutcome) :
    Coordinator :=
  { c with store := if outcome.takesEffect then write.apply c.store else c.store }

def remember (f : ProcessLifecycle → ProcessLifecycle) : LifecycleM Unit :=
  modifyState fun c => c.remember f

def memory : LifecycleM ProcessLifecycle := (·.memory) <$> getState

section Procedures

variable (env : Environment)

def write (write : StoreWrite) : LifecycleM Unit := do
  let outcome ← interact env.crashes (fun log c => env.write log c.store write)
    fun _ outcome => .wrote write outcome
  modifyState fun c => c.wrote write outcome
  check (outcome.answer.mapError .store)

/-- A read of the store: it fails, or shows the contents. -/
def readStore : LifecycleM LifecycleContents := do
  let failure ← interact env.crashes (fun log _ => env.readFailure log)
    fun _ failure => .read failure
  let c ← getState
  match failure with
  | some error => raise (.store error)
  | none => return c.store

def inspectIdentity (process : ProcessHandle) : LifecycleM (Except ProcessFault ProcessIdentity) :=
  interact env.crashes (fun log _ => env.inspectIdentity log process) fun _ answer =>
    .inspectedIdentity process answer

def inspect (process : ProcessHandle) : LifecycleM (Except ProcessFault ProcessState) :=
  interact env.crashes (fun log _ => env.inspect log process) fun _ answer =>
    .inspected process answer

def descendants (process : ProcessHandle) :
    LifecycleM (Except ProcessFault (List ProcessDescendantIdentity)) :=
  interact env.crashes (fun log _ => env.descendants log process) fun _ answer =>
    .listedDescendants process answer

def stop (process : ProcessHandle) (mode : StopMode) : LifecycleM (Except ProcessFault Unit) :=
  interact env.crashes (fun log _ => env.stop log process mode) fun _ answer =>
    .stopped process mode answer

def startGeneration (generation : ProcessOperationGeneration) (specification : LaunchSpec)
    (profile : LaunchProfile) : LifecycleM (Except GenerationStartError ProcessLaunch) :=
  interact env.crashes (fun log _ => env.startGeneration log generation specification profile)
    fun _ answer => .started generation answer

def recoverGeneration (generation : ProcessOperationGeneration) (profile : LaunchProfile) :
    LifecycleM (Except ProcessFault GenerationRecovery) :=
  interact env.crashes (fun log _ => env.recoverGeneration log generation profile)
    fun _ answer => .recovered generation answer

/-- The bound lease, the fence and the epoch of a caller. -/
def authenticate (instanceId : InstanceId) (proof : LeaseProof) (authorityEpoch : AuthorityEpoch) :
    LifecycleM Unit := do
  let lifecycle ← memory
  let lease ← check (okOr lifecycle.leases[instanceId]? .leaseNotBound)
  let decision ← interact env.crashes
    (fun log _ => env.checkFence log (some lease) instanceId proof (env.now log))
    fun _ answer => .checkedFence instanceId proof answer
  check (decision.mapError .fence)
  check (refuse (lifecycle.currentAuthorityEpoch instanceId ≠ authorityEpoch) .staleAuthorityEpoch)

/-! ### Records -/

def persistInsert (operation : LifecycleOperation) : LifecycleM Unit := do
  let lifecycle ← memory
  check (refuse (operation.key ∉ lifecycle.retained.records ∧
    lifecycle.config.maxRecords ≤ lifecycle.retained.records.size) .capacityExceeded)
  write env (.insert operation)
  remember fun lifecycle => { lifecycle with retained := lifecycle.retained.putRecord operation }

def persistUpdate (operation : LifecycleOperation) : LifecycleM Unit := do
  write env (.update operation)
  remember fun lifecycle => { lifecycle with retained := lifecycle.retained.putRecord operation }

/-! ### Ownership -/

/-- Memory after a row was set: the row, its process and its sequence. -/
def ProcessLifecycle.own (lifecycle : ProcessLifecycle) (row : LifecycleOwnership) :
    ProcessLifecycle :=
  { lifecycle with
    nextSequence := max lifecycle.nextSequence row.sequence
    owned := match row.process with
      | some identity => lifecycle.owned.insert row.instanceId identity
      | none => lifecycle.owned.erase row.instanceId
    retained := lifecycle.retained.putOwnership row }

/-- Memory after the row of an instance was cleared. -/
def ProcessLifecycle.disown (lifecycle : ProcessLifecycle) (instanceId : InstanceId) :
    ProcessLifecycle :=
  { lifecycle with
    retained := lifecycle.retained.removeOwnership instanceId
    owned := lifecycle.owned.erase instanceId }

def persistOwnership (row : LifecycleOwnership) : LifecycleM Unit := do
  write env (.setOwnership row)
  remember fun lifecycle => lifecycle.own row

/-- The row that an operation takes for itself. -/
def ownershipOf (operation : LifecycleOperation) (profileId : LaunchProfileId)
    (process : Option ProcessIdentity) : LifecycleOwnership where
  instanceId := operation.instanceId
  operationId := operation.operationId
  sequence := operation.sequence
  profileId := profileId
  process := process

def reserveOwnership (operation : LifecycleOperation) (profileId : LaunchProfileId) :
    LifecycleM Unit := do
  let lifecycle ← memory
  if lifecycle.retained.operationCanUpdateOwner operation then
    persistOwnership env (ownershipOf operation profileId operation.process)

def setOwned (operation : LifecycleOperation) (profileId : LaunchProfileId)
    (identity : ProcessIdentity) : LifecycleM Unit := do
  let lifecycle ← memory
  if lifecycle.retained.operationCanUpdateOwner operation then
    persistOwnership env (ownershipOf operation profileId (some identity))

def setOwnerProcessForOperation (operation : LifecycleOperation)
    (process : Option ProcessIdentity) : LifecycleM Unit := do
  let lifecycle ← memory
  if lifecycle.retained.operationCanUpdateOwner operation then
    match lifecycle.retained.row operation.instanceId with
    | none => return ()
    | some current => persistOwnership env { current with process }

def clearOwned (instanceId : InstanceId) : LifecycleM Unit := do
  let lifecycle ← memory
  match lifecycle.retained.row instanceId with
  | none => remember fun lifecycle => { lifecycle with owned := lifecycle.owned.erase instanceId }
  | some current =>
    write env (.clearOwnershipIf current)
    remember fun lifecycle => lifecycle.disown instanceId

def clearOwnedFor (operation : LifecycleOperation) : LifecycleM Unit := do
  let lifecycle ← memory
  if lifecycle.retained.operationCanUpdateOwner operation then
    clearOwned env operation.instanceId

def issueSequence : LifecycleM ℕ := do
  let lifecycle ← memory
  let sequence ← check (okOr (if lifecycle.nextSequence < u64Max then
    some (lifecycle.nextSequence + 1) else none) .authorityExhausted)
  remember fun lifecycle => { lifecycle with nextSequence := sequence }
  return sequence

end Procedures

/-! ### The store in memory -/

/-- How the store in memory answers a mutation of its contents. -/
def inMemoryOutcome (contents : LifecycleContents) (write : StoreWrite) : StoreOutcome :=
  match (StoreM.outcome (InMemoryLifecycleStore.call write.call)
    { InMemoryLifecycleStore.new with contents }).1 with
  | .ok _ => .done
  | .error error => .refused error

end Sts2Gateway.Lifecycle
