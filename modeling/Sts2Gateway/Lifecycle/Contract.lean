/-
The data of the process lifecycle (`process_store.rs`, `process_ownership.rs`,
`process_identity.rs`, `process_profile.rs`).

* `LaunchProfile`, `ApprovedLaunchProfiles`: the approved catalog, every profile
  under its own id;
* `ProcessIdentity`, `ProcessDescendantIdentity`: what a process port reports;
* `LifecycleOperation`: one retained operation, with its action and its state;
* `LifecycleOwnership`: the row that says which operation owns an instance;
* `operationOrderKey`, `ownershipPrecedes`: the order of operations and of rows;
* `operationOrderKey_inj`: **operations of one instance differ in their order
  keys when they differ in their ids**.
-/
import Mathlib.Data.Prod.Lex
import Sts2Gateway.ControlPlane.Contract

namespace Sts2Gateway.Lifecycle

open Std (ExtTreeMap)
open ControlPlane (InstanceId OperationId ProcessHandle LeaseProof LifecycleState ProcessFault
  StopMode ProcessState FenceFailure u64Max)
open Procedure

abbrev LaunchProfileId := ℕ

/-- The epoch of the authority over one instance. -/
abbrev AuthorityEpoch := ℕ

/-! ### Launch profiles -/

structure ExecutableIdentity where
  installId : ℕ
  executableId : ℕ
  imageId : ℕ
  deriving DecidableEq, Repr

/-- The namespace that keeps the user data of a process apart. -/
structure UserDataConfig where
  namespaceId : ℕ
  deriving DecidableEq, Repr

structure ProcessPolicy where
  maxDescendants : ℕ
  startTimeoutMillis : ℕ
  stopTimeoutMillis : ℕ
  deriving DecidableEq, Repr

structure LaunchProfile where
  id : LaunchProfileId
  executable : ExecutableIdentity
  userData : UserDataConfig
  policy : ProcessPolicy
  deriving DecidableEq, Repr

inductive LaunchProfileError
  | invalidId | duplicateId | notFound | invalidExecutableIdentity | invalidUserData
  | invalidPolicy | capacityExceeded
  deriving DecidableEq, Repr

/-- The catalog; `insert` files a profile under its own id. -/
structure ApprovedLaunchProfiles where
  profiles : ExtTreeMap LaunchProfileId LaunchProfile compare
  keyed : ∀ id (profile : LaunchProfile), profiles[id]? = some profile → profile.id = id

namespace ApprovedLaunchProfiles

def resolve (catalog : ApprovedLaunchProfiles) (id : LaunchProfileId) :
    Except LaunchProfileError LaunchProfile := okOr catalog.profiles[id]? .notFound

/-- A catalog resolves an id to a profile with that id. -/
lemma id_of_resolve {catalog : ApprovedLaunchProfiles} {id : LaunchProfileId}
    {profile : LaunchProfile} (h : catalog.resolve id = .ok profile) : profile.id = id := by
  refine catalog.keyed id profile ?_
  unfold resolve at h
  cases hfound : catalog.profiles[id]? with
  | none => rw [hfound] at h; cases h
  | some found => rw [hfound] at h; cases h; rfl

end ApprovedLaunchProfiles

/-! ### Process identities -/

structure ProcessIdentity where
  instanceId : InstanceId
  process : ProcessHandle
  pid : ℕ
  birthId : ℕ
  executable : Option ExecutableIdentity
  userData : Option UserDataConfig
  deriving DecidableEq, Repr

def ProcessIdentity.matchesProfile (identity : ProcessIdentity) (instanceId : InstanceId)
    (profile : LaunchProfile) : Bool :=
  identity.process ≠ 0 ∧ identity.pid ≠ 0 ∧ identity.birthId ≠ 0 ∧
    identity.instanceId = instanceId ∧ identity.executable = some profile.executable ∧
    identity.userData = some profile.userData

structure ProcessDescendantIdentity where
  instanceId : InstanceId
  pid : ℕ
  birthId : ℕ
  executable : ExecutableIdentity
  userData : UserDataConfig
  deriving DecidableEq, Repr

def ProcessDescendantIdentity.matchesProfile (descendant : ProcessDescendantIdentity)
    (instanceId : InstanceId) (profile : LaunchProfile) : Bool :=
  descendant.pid ≠ 0 ∧ descendant.birthId ≠ 0 ∧ descendant.instanceId = instanceId ∧
    descendant.executable = profile.executable ∧ descendant.userData = profile.userData

/-! ### Operations -/

inductive LifecycleAction
  | launchNew (profileId : LaunchProfileId)
  | attachExisting (identity : ProcessIdentity)
  | stop (mode : StopMode)
  | restart (profileId : LaunchProfileId)
  deriving DecidableEq, Repr

def LifecycleAction.isLaunchNew : LifecycleAction → Bool
  | .launchNew _ => true
  | _ => false

inductive LifecycleOperationState
  | intentRecorded | starting | started | attached | stopping | restarting | stopped | failed
  | blocked | rejected | unknown
  deriving DecidableEq, Repr

namespace LifecycleOperationState

def isActive : LifecycleOperationState → Bool
  | .stopped | .failed | .rejected => false
  | _ => true

/-- A running process is not ready for play: the readiness boundary decides that. -/
def lifecycleState : LifecycleOperationState → LifecycleState
  | .intentRecorded | .starting | .restarting | .started | .attached => .starting
  | .stopping => .stopping
  | .stopped => .stopped
  | .failed | .blocked | .rejected => .failed
  | .unknown => .unknown

/-- The states of an operation whose effect is still under way. -/
def isInFlight : LifecycleOperationState → Bool
  | .intentRecorded | .starting | .stopping | .restarting => true
  | _ => false

end LifecycleOperationState

inductive LifecycleFailure
  | capacityExceeded
  | instanceBusy
  | unownedAttach
  | identityMismatch
  | foreignDescendant
  | process (fault : ProcessFault)
  | staleAuthorityEpoch
  | store
  | invalidState (state : LifecycleState)
  deriving DecidableEq, Repr

structure LifecycleOperation where
  operationId : OperationId
  instanceId : InstanceId
  lease : LeaseProof
  sequence : ℕ
  requestEpoch : AuthorityEpoch
  authorityEpoch : AuthorityEpoch
  action : LifecycleAction
  state : LifecycleOperationState
  process : Option ProcessIdentity
  failure : Option LifecycleFailure
  deriving DecidableEq, Repr

/-- A record's key: records are ordered by instance, then by operation. -/
abbrev LifecycleRecordKey := InstanceId ×ₗ OperationId

def LifecycleRecordKey.new (instanceId : InstanceId) (operationId : OperationId) :
    LifecycleRecordKey := toLex (instanceId, operationId)

namespace LifecycleOperation

def new (operationId : OperationId) (instanceId : InstanceId) (lease : LeaseProof)
    (authorityEpoch : AuthorityEpoch) (action : LifecycleAction) : LifecycleOperation where
  operationId := operationId
  instanceId := instanceId
  lease := lease
  sequence := 0
  requestEpoch := authorityEpoch
  authorityEpoch := authorityEpoch
  action := action
  state := .intentRecorded
  process := none
  failure := none

variable (operation : LifecycleOperation)

def key : LifecycleRecordKey := .new operation.instanceId operation.operationId

def setState (state : LifecycleOperationState) (process : Option ProcessIdentity)
    (failure : Option LifecycleFailure) : LifecycleOperation :=
  { operation with state, process, failure }

def setSequence (sequence : ℕ) : LifecycleOperation := { operation with sequence }

def setAuthorityEpoch (epoch : AuthorityEpoch) : LifecycleOperation :=
  { operation with authorityEpoch := epoch }

variable {operation}

@[simp] lemma key_setState {state : LifecycleOperationState} {process : Option ProcessIdentity}
    {failure : Option LifecycleFailure} :
    (operation.setState state process failure).key = operation.key := rfl

@[simp] lemma key_setSequence {sequence : ℕ} :
    (operation.setSequence sequence).key = operation.key := rfl

@[simp] lemma key_setAuthorityEpoch {epoch : AuthorityEpoch} :
    (operation.setAuthorityEpoch epoch).key = operation.key := rfl

end LifecycleOperation

/-- `operation_order_key`: records from before sequences were issued come first. -/
def operationOrderKey (operation : LifecycleOperation) : ℕ ×ₗ ℕ ×ₗ ℕ :=
  if operation.sequence = 0 then toLex (0, toLex (operation.operationId, 0))
  else toLex (1, toLex (operation.sequence, operation.operationId))

/-- **Order keys** are distinct for operations with distinct ids. -/
lemma operationOrderKey_inj {a b : LifecycleOperation}
    (h : operationOrderKey a = operationOrderKey b) : a.operationId = b.operationId := by
  unfold operationOrderKey at h
  split_ifs at h with ha hb hb
  · simpa using h
  · simp at h
  · simp at h
  · have : a.sequence = b.sequence ∧ a.operationId = b.operationId := by simpa using h
    exact this.2

/-! ### Ownership -/

/-- A row reserves capacity even while it names no process. -/
structure LifecycleOwnership where
  instanceId : InstanceId
  operationId : OperationId
  sequence : ℕ
  profileId : LaunchProfileId
  process : Option ProcessIdentity
  deriving DecidableEq, Repr

/-- Whether a row of another operation may take the place of the current one. -/
def ownershipPrecedes (current candidate : LifecycleOwnership) : Bool :=
  match current.sequence, candidate.sequence with
  | 0, 0 => current.operationId < candidate.operationId
  | 0, _ => true
  | _, 0 => false
  | current, candidate => current < candidate

inductive LifecycleStoreError
  | database | serialization | notFound | conflict | unsupported
  deriving DecidableEq, Repr

end Sts2Gateway.Lifecycle
