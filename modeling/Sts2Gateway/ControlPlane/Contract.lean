/-
The data of the gateway control plane (`identity.rs`, `lifecycle.rs`,
`ports.rs`, `config.rs`, `error.rs`).

* `Lease`, `LeaseProof`, `evaluateFence`: leases and the fence on a proof;
* `LifecycleState`, `InstanceRecord`: the record of one instance and its marks;
* `Gateway`: the records, the two identity counters and the admission flag;
* `Event`, `Ports`: the exchanges with the clock, the process, readiness and
  transport ports and with the lease policy;
* `evaluateFence_eq_ok`: **a proof passes the fence exactly when it is the proof
  of the current lease and the lease is unexpired**.
-/
import Mathlib.Tactic
import Sts2Gateway.Library.Exchange
import Sts2Gateway.Library.OrderedMap

namespace Sts2Gateway.ControlPlane

open Std Procedure Exchange

/-! ### Identities and leases -/

abbrev CallerId := ℕ
abbrev SessionId := ℕ
abbrev InstanceId := ℕ
abbrev LeaseId := ℕ
abbrev OperationId := ℕ
abbrev LeaseEpoch := ℕ
abbrev ProcessHandle := ℕ

/-- A monotonic time in milliseconds. -/
abbrev Tick := ℕ

/-- The largest value of an unsigned 64-bit counter. -/
def u64Max : ℕ := 2 ^ 64 - 1

def Tick.saturatingAddMillis (tick : Tick) (duration : ℕ) : Tick := min (tick + duration) u64Max

/-- What identifies the holder of a lease. -/
structure LeaseProof where
  instanceId : InstanceId
  callerId : CallerId
  sessionId : SessionId
  leaseId : LeaseId
  epoch : LeaseEpoch
  deriving DecidableEq, Repr

structure Lease where
  instanceId : InstanceId
  callerId : CallerId
  sessionId : SessionId
  leaseId : LeaseId
  epoch : LeaseEpoch
  expiresAt : Tick
  deriving DecidableEq, Repr

namespace Lease

def renewed (lease : Lease) (expiresAt : Tick) : Lease := { lease with expiresAt }

def proof (lease : Lease) : LeaseProof where
  instanceId := lease.instanceId
  callerId := lease.callerId
  sessionId := lease.sessionId
  leaseId := lease.leaseId
  epoch := lease.epoch

@[simp] lemma proof_renewed (lease : Lease) (tick : Tick) :
    (lease.renewed tick).proof = lease.proof := rfl

end Lease

inductive FenceFailure
  | missing | wrongInstance | wrongCaller | wrongSession | wrongLease | staleEpoch | expired
  deriving DecidableEq, Repr

/-- `evaluate_fence`: an expired lease is reported before a proof that is not its own. -/
def evaluateFence (current : Option Lease) (target : InstanceId) (proof : LeaseProof) (now : Tick) :
    Except FenceFailure Unit := do
  refuse (proof.instanceId ≠ target) .wrongInstance
  let current ← current.elim (.error .missing) .ok
  refuse (current.expiresAt ≤ now) .expired
  refuse (current.callerId ≠ proof.callerId) .wrongCaller
  refuse (current.sessionId ≠ proof.sessionId) .wrongSession
  refuse (current.leaseId ≠ proof.leaseId) .wrongLease
  refuse (current.epoch ≠ proof.epoch) .staleEpoch

/-- **The fence.**  A proof passes exactly when it is for the target, agrees with
the current lease in every field that the lease carries beside its instance, and
the lease is unexpired. -/
theorem evaluateFence_eq_ok {current : Option Lease} {target : InstanceId} {proof : LeaseProof}
    {now : Tick} :
    evaluateFence current target proof now = .ok () ↔
      proof.instanceId = target ∧ ∃ lease, current = some lease ∧ now < lease.expiresAt ∧
        lease.callerId = proof.callerId ∧ lease.sessionId = proof.sessionId ∧
        lease.leaseId = proof.leaseId ∧ lease.epoch = proof.epoch := by
  cases current with
  | none => simp [evaluateFence]
  | some lease => simp [evaluateFence]

/-! ### Instance records -/

inductive LifecycleState
  | created | starting | ready | busy | degraded | stopping | stopped | failed | unknown | expired
  deriving DecidableEq, Repr

namespace LifecycleState

def isTerminal : LifecycleState → Bool
  | .stopped | .failed | .expired => true
  | _ => false

def acceptsForwarding : LifecycleState → Bool
  | .ready | .busy => true
  | _ => false

/-- A state that accepts work is not terminal. -/
lemma not_isTerminal_of_acceptsForwarding {state : LifecycleState}
    (h : state.acceptsForwarding = true) : state.isTerminal = false := by
  cases state <;> simp_all [acceptsForwarding, isTerminal]

end LifecycleState

structure InstanceRecord where
  instanceId : InstanceId
  callerId : CallerId
  sessionId : SessionId
  state : LifecycleState
  process : Option ProcessHandle
  lease : Option Lease
  deriving DecidableEq, Repr

namespace InstanceRecord

def new (instanceId : InstanceId) (callerId : CallerId) (sessionId : SessionId) (lease : Lease) :
    InstanceRecord :=
  { instanceId, callerId, sessionId, state := .created, process := none, lease := some lease }

variable (record : InstanceRecord)

def assignProcess (process : ProcessHandle) : InstanceRecord :=
  { record with process := some process, state := .starting }

def setLease (lease : Lease) : InstanceRecord := { record with lease := some lease }

/-- `mark_ready`, `mark_starting`, `mark_busy`, `mark_degraded` and `mark_stopping`:
a move to a state that is not terminal. -/
def markActive (state : LifecycleState) : InstanceRecord := { record with state }

/-- `mark_stopped`, `mark_failed` and `mark_expired`: a move to a terminal state
ends the lease. -/
def markEnded (state : LifecycleState) : InstanceRecord := { record with state, lease := none }

def markReady : InstanceRecord := record.markActive .ready
def markStarting : InstanceRecord := record.markActive .starting
def markBusy : InstanceRecord := record.markActive .busy
def markDegraded : InstanceRecord := record.markActive .degraded
def markStopping : InstanceRecord := record.markActive .stopping
def markStopped : InstanceRecord := record.markEnded .stopped
def markFailed : InstanceRecord := record.markEnded .failed
def markExpired : InstanceRecord := record.markEnded .expired

def clearProcess : InstanceRecord := { record with process := none }

end InstanceRecord

structure InstanceSnapshot where
  instanceId : InstanceId
  callerId : CallerId
  sessionId : SessionId
  state : LifecycleState
  hasProcess : Bool
  lease : Option Lease
  deriving DecidableEq, Repr

def InstanceRecord.snapshot (record : InstanceRecord) : InstanceSnapshot where
  instanceId := record.instanceId
  callerId := record.callerId
  sessionId := record.sessionId
  state := record.state
  hasProcess := record.process.isSome
  lease := record.lease

/-! ### Ports -/

inductive ProcessFault
  | unavailable | startRejected | inspectionFailed | stopFailed | stopTimedOut | profileRequired
  | profileNotApproved | identityMismatch | descendantOutOfScope
  deriving DecidableEq, Repr

/-- What the gateway asks the process port to start; it names no launch profile. -/
structure LaunchSpec where
  instanceId : InstanceId
  profileId : Option ℕ
  deriving DecidableEq, Repr

def LaunchSpec.new (instanceId : InstanceId) : LaunchSpec := { instanceId, profileId := none }

inductive ProcessState
  | running
  | exited (code : Option ℤ)
  deriving DecidableEq, Repr

inductive StopMode
  | graceful | force
  deriving DecidableEq, Repr

inductive Readiness
  | starting | ready | degraded
  deriving DecidableEq, Repr

inductive HealthFault
  | unavailable | malformed
  deriving DecidableEq, Repr

inductive FixedRoute
  | readOnly | command | receipt
  deriving DecidableEq, Repr

structure TransportRequest where
  instanceId : InstanceId
  process : ProcessHandle
  lease : LeaseProof
  operationId : OperationId
  route : FixedRoute
  body : List UInt8
  deriving DecidableEq, Repr

structure TransportResponse where
  status : ℕ
  body : List UInt8
  deriving DecidableEq, Repr

def TransportResponse.bodyLen (response : TransportResponse) : ℕ := response.body.length

inductive TransportFault
  | unavailable | disconnected | rejected
  deriving DecidableEq, Repr

/-- One exchange with a port, and its answer. -/
inductive Event
  | now (tick : Tick)
  | checkFence (target : InstanceId) (proof : LeaseProof) (decision : Except FenceFailure Unit)
  | start (specification : LaunchSpec) (answer : Except ProcessFault ProcessHandle)
  | inspect (process : ProcessHandle) (answer : Except ProcessFault ProcessState)
  | stop (process : ProcessHandle) (mode : StopMode) (answer : Except ProcessFault Unit)
  | probe (target : InstanceId) (process : ProcessHandle) (answer : Except HealthFault Readiness)
  | forward (request : TransportRequest) (answer : Except TransportFault TransportResponse)
  deriving DecidableEq

/-- The ports of a gateway.  Each answer may depend on all exchanges before it. -/
structure Ports where
  now : List Event → Tick
  checkFence : List Event → Option Lease → InstanceId → LeaseProof → Tick →
    Except FenceFailure Unit
  start : List Event → LaunchSpec → Except ProcessFault ProcessHandle
  inspect : List Event → ProcessHandle → Except ProcessFault ProcessState
  stop : List Event → ProcessHandle → StopMode → Except ProcessFault Unit
  probe : List Event → InstanceId → ProcessHandle → Except HealthFault Readiness
  forward : List Event → TransportRequest → Except TransportFault TransportResponse

/-- `DeterministicLeaseDecision`, the policy of a gateway built with `new`. -/
def deterministicLeaseDecision (_ : List Event) :
    Option Lease → InstanceId → LeaseProof → Tick → Except FenceFailure Unit := evaluateFence

/-! ### The gateway -/

/-- The limits of a gateway. -/
structure GatewayConfig where
  capacity : ℕ
  leaseDurationMillis : ℕ
  maxBodyBytes : ℕ
  maxResponseBytes : ℕ
  deriving DecidableEq, Repr

inductive GatewayError
  | admissionClosed
  | capacityExceeded
  | identityExhausted
  | instanceNotFound
  | identityMismatch
  | invalidState (state : LifecycleState)
  | fence (failure : FenceFailure)
  | processStart (fault : ProcessFault)
  | processInspection (fault : ProcessFault)
  | processCrashed
  | processStop (fault : ProcessFault)
  | readiness (fault : HealthFault)
  | bodyTooLarge (limit actual : ℕ)
  | responseTooLarge (limit actual : ℕ)
  | transport (fault : TransportFault)
  deriving DecidableEq, Repr

abbrev Instances := ExtTreeMap InstanceId InstanceRecord compare

structure Gateway where
  config : GatewayConfig
  instances : Instances
  nextInstanceId : ℕ
  nextLeaseId : ℕ
  isAdmitting : Bool

def Gateway.new (config : GatewayConfig) : Gateway where
  config := config
  instances := ∅
  nextInstanceId := 1
  nextLeaseId := 1
  isAdmitting := true

structure Allocation where
  instanceId : InstanceId
  lease : Lease
  deriving DecidableEq, Repr

inductive CleanupStatus
  | cleaned
  | failed (fault : ProcessFault)
  deriving DecidableEq, Repr

structure ExpirationEvent where
  instanceId : InstanceId
  status : CleanupStatus
  deriving DecidableEq, Repr

structure ShutdownReport where
  stopped : ℕ
  failed : ℕ
  deriving DecidableEq, Repr

end Sts2Gateway.ControlPlane
