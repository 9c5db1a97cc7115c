/-
The gateway control plane (`control.rs`, `maintenance.rs`, `fencing.rs`,
`forwarding.rs`).

* `allocate`, `status`, `reconcile`, `renew`, `release`, `cleanup`: the calls on
  one instance;
* `forward`: one request to the process of an instance;
* `expireDue`, `shutdown`: the calls on all instances;
* `Call`, `next`, `run`: calls of the control plane and their runs.
-/
import Mathlib.Tactic
import Sts2Gateway.Library.Machine
import Sts2Gateway.ControlPlane.Contract

namespace Sts2Gateway.ControlPlane

open Std Procedure Exchange

/-- A gateway and its exchanges so far. -/
abbrev Plane := CallState Gateway Event

abbrev GatewayM := CallM GatewayError Gateway Event

section Procedures

variable (ports : Ports)

/-! ### Ports and records -/

def readClock : GatewayM Tick := exchange (fun log _ => ports.now log) fun _ tick => .now tick

def checkFence (current : Option Lease) (target : InstanceId) (proof : LeaseProof) (now : Tick) :
    GatewayM (Except FenceFailure Unit) :=
  exchange (fun log _ => ports.checkFence log current target proof now) fun _ decision =>
    .checkFence target proof decision

def startProcess (specification : LaunchSpec) : GatewayM (Except ProcessFault ProcessHandle) :=
  exchange (fun log _ => ports.start log specification) fun _ answer => .start specification answer

def inspectProcess (process : ProcessHandle) : GatewayM (Except ProcessFault ProcessState) :=
  exchange (fun log _ => ports.inspect log process) fun _ answer => .inspect process answer

def stopProcess (process : ProcessHandle) (mode : StopMode) : GatewayM (Except ProcessFault Unit) :=
  exchange (fun log _ => ports.stop log process mode) fun _ answer => .stop process mode answer

def probe (target : InstanceId) (process : ProcessHandle) :
    GatewayM (Except HealthFault Readiness) :=
  exchange (fun log _ => ports.probe log target process) fun _ answer =>
    .probe target process answer

def transportForward (request : TransportRequest) :
    GatewayM (Except TransportFault TransportResponse) :=
  exchange (fun log _ => ports.forward log request) fun _ answer => .forward request answer

/-- `get_mut` and a change of the record, if there is one. -/
def Gateway.modifyRecord (gateway : Gateway) (target : InstanceId)
    (f : InstanceRecord → InstanceRecord) : Gateway :=
  { gateway with instances := gateway.instances.modify target f }

def modifyRecord (target : InstanceId) (f : InstanceRecord → InstanceRecord) : GatewayM Unit :=
  modifyState fun gateway => gateway.modifyRecord target f

def Gateway.removeRecord (gateway : Gateway) (target : InstanceId) : Gateway :=
  { gateway with instances := gateway.instances.erase target }

def Gateway.insertRecord (gateway : Gateway) (target : InstanceId) (record : InstanceRecord) :
    Gateway :=
  { gateway with instances := gateway.instances.insert target record }

/-- `instances.get`. -/
def getRecord (target : InstanceId) : GatewayM InstanceRecord := do
  let gateway ← getState
  liftM (okOr gateway.instances[target]? GatewayError.instanceNotFound)

/-- The stop of an owned process: only a stop that succeeded gives the handle up,
with the mark that the caller chose; a failed one fails the record. -/
def stopOwned (target : InstanceId) (process : ProcessHandle) (mode : StopMode)
    (mark : InstanceRecord → InstanceRecord) : GatewayM (Except ProcessFault Unit) := do
  match ← stopProcess ports process mode with
  | .ok () =>
    modifyRecord target fun record => mark record.clearProcess
    return .ok ()
  | .error fault =>
    modifyRecord target .markFailed
    return .error fault

/-! ### Expiry -/

def leaseExpired (target : InstanceId) : GatewayM Bool := do
  let gateway ← getState
  match (gateway.instances[target]?).bind (·.lease) with
  | some lease =>
    let now ← readClock ports
    return lease.expiresAt ≤ now
  | none => return false

def expireInstance (target : InstanceId) : GatewayM CleanupStatus := do
  let gateway ← getState
  match (gateway.instances[target]?).bind (·.process) with
  | some process =>
    match ← stopOwned ports target process .force .markExpired with
    | .ok () => return .cleaned
    | .error fault => return .failed fault
  | none =>
    modifyRecord target .markExpired
    return .cleaned

def expireDue : GatewayM (List ExpirationEvent) := do
  let now ← readClock ports
  let gateway ← getState
  let expired := gateway.instances.keys.filter fun target =>
    ((gateway.instances[target]?).bind (·.lease)).any fun lease => lease.expiresAt ≤ now
  expired.mapM fun target => do
    let status ← expireInstance ports target
    return { instanceId := target, status }

/-! ### The fence -/

def validateFence (target : InstanceId) (proof : LeaseProof) : GatewayM Unit := do
  let record ← getRecord target
  let now ← readClock ports
  let decision ← checkFence ports record.lease target proof now
  if decision = .error .expired then
    let _ ← expireInstance ports target
  liftM (decision.mapError GatewayError.fence)

/-! ### Calls on one instance -/

def nextInstance : GatewayM InstanceId := do
  let gateway ← getState
  liftM (refuse (u64Max < gateway.nextInstanceId + 1) GatewayError.identityExhausted)
  modifyState fun gateway => { gateway with nextInstanceId := gateway.nextInstanceId + 1 }
  return gateway.nextInstanceId

def nextLease : GatewayM LeaseId := do
  let gateway ← getState
  liftM (refuse (u64Max < gateway.nextLeaseId + 1) GatewayError.identityExhausted)
  modifyState fun gateway => { gateway with nextLeaseId := gateway.nextLeaseId + 1 }
  return gateway.nextLeaseId

def allocate (callerId : CallerId) (sessionId : SessionId) : GatewayM Allocation := do
  let gateway ← getState
  liftM (refuse (gateway.isAdmitting = false) GatewayError.admissionClosed)
  liftM (refuse (gateway.config.capacity ≤ gateway.instances.size) GatewayError.capacityExceeded)
  let instanceId ← nextInstance
  let leaseId ← nextLease
  let now ← readClock ports
  let lease : Lease :=
    { instanceId, callerId, sessionId, leaseId, epoch := 1
      expiresAt := now.saturatingAddMillis gateway.config.leaseDurationMillis }
  modifyState fun gateway =>
    gateway.insertRecord instanceId (.new instanceId callerId sessionId lease)
  match ← startProcess ports (.new instanceId) with
  | .error fault =>
    modifyState fun gateway => gateway.removeRecord instanceId
    throw (.processStart fault)
  | .ok process =>
    let _ ← getRecord instanceId
    modifyRecord instanceId (·.assignProcess process)
    return { instanceId, lease }

def status (target : InstanceId) : GatewayM InstanceSnapshot := do
  let record ← getRecord target
  return record.snapshot

/-- The state of a running process, as its readiness probe reports it. -/
def observeReadiness (target : InstanceId) (process : ProcessHandle) :
    GatewayM LifecycleState := do
  match ← probe ports target process with
  | .ok .starting =>
    modifyRecord target .markStarting
    return .starting
  | .ok .ready =>
    modifyRecord target .markReady
    return .ready
  | .ok .degraded =>
    modifyRecord target .markDegraded
    return .degraded
  | .error fault =>
    modifyRecord target .markDegraded
    throw (.readiness fault)

def observeProcess (target : InstanceId) (process : ProcessHandle) : GatewayM LifecycleState := do
  match ← inspectProcess ports process with
  | .error fault =>
    modifyRecord target .markDegraded
    throw (.processInspection fault)
  | .ok (.exited _) =>
    modifyRecord target .markFailed
    throw .processCrashed
  | .ok .running => observeReadiness ports target process

def reconcile (target : InstanceId) : GatewayM LifecycleState := do
  let record ← getRecord target
  if record.state.isTerminal then
    return record.state
  if ← leaseExpired ports target then
    match ← expireInstance ports target with
    | .cleaned => return .expired
    | .failed fault => throw (.processStop fault)
  else
    match record.process with
    | none =>
      modifyRecord target .markFailed
      throw (.processInspection .unavailable)
    | some process => observeProcess ports target process

def renew (proof : LeaseProof) : GatewayM Lease := do
  validateFence ports proof.instanceId proof
  let now ← readClock ports
  let gateway ← getState
  let expiresAt := now.saturatingAddMillis gateway.config.leaseDurationMillis
  let record ← getRecord proof.instanceId
  let lease ← liftM (okOr record.lease (GatewayError.fence .missing))
  modifyRecord proof.instanceId (·.setLease (lease.renewed expiresAt))
  return lease.renewed expiresAt

def release (proof : LeaseProof) : GatewayM Unit := do
  validateFence ports proof.instanceId proof
  let target := proof.instanceId
  let record ← getRecord target
  liftM (refuse (record.state.isTerminal = true ∨ record.state = .stopping)
    (GatewayError.invalidState record.state))
  match record.process with
  | some process =>
    modifyRecord target .markStopping
    match ← stopOwned ports target process .graceful .markStopped with
    | .ok () => return ()
    | .error fault => throw (.processStop fault)
  | none => modifyRecord target .markStopped

def cleanup (target : InstanceId) (callerId : CallerId) (sessionId : SessionId) :
    GatewayM Unit := do
  let record ← getRecord target
  liftM (refuse (record.callerId ≠ callerId ∨ record.sessionId ≠ sessionId)
    GatewayError.identityMismatch)
  liftM (refuse (record.state.isTerminal = false) (GatewayError.invalidState record.state))
  match record.process with
  | some process =>
    match ← stopOwned ports target process .force id with
    | .ok () => modifyState fun gateway => gateway.removeRecord target
    | .error fault => throw (.processStop fault)
  | none => modifyState fun gateway => gateway.removeRecord target

/-! ### Forwarding -/

def authorizeForward (target : InstanceId) (proof : LeaseProof) : GatewayM ProcessHandle := do
  validateFence ports target proof
  let record ← getRecord target
  liftM (refuse (record.state.acceptsForwarding = false) (GatewayError.invalidState record.state))
  match record.process with
  | none =>
    modifyRecord target .markDegraded
    throw (.processInspection .unavailable)
  | some process =>
    modifyRecord target .markBusy
    return process

def forward (target : InstanceId) (proof : LeaseProof) (operationId : OperationId)
    (route : FixedRoute) (body : List UInt8) : GatewayM TransportResponse := do
  let gateway ← getState
  liftM (refuse (gateway.config.maxBodyBytes < body.length)
    (GatewayError.bodyTooLarge gateway.config.maxBodyBytes body.length))
  let process ← authorizeForward ports target proof
  match ← transportForward ports
      { instanceId := target, process, lease := proof, operationId, route, body } with
  | .ok response =>
    if response.bodyLen ≤ gateway.config.maxResponseBytes then
      modifyRecord target .markReady
      return response
    else
      modifyRecord target .markDegraded
      throw (.responseTooLarge gateway.config.maxResponseBytes response.bodyLen)
  | .error fault =>
    modifyRecord target .markDegraded
    throw (.transport fault)

/-! ### Shutdown -/

/-- One pass of the loop of `shutdown`. -/
def shutdownInstance (report : ShutdownReport) (target : InstanceId) : GatewayM ShutdownReport := do
  let gateway ← getState
  match gateway.instances[target]? with
  | none => return report
  | some record =>
    match record.process with
    | some process =>
      match ← stopOwned ports target process .graceful .markStopped with
      | .ok () => return { report with stopped := report.stopped + 1 }
      | .error _ => return { report with failed := report.failed + 1 }
    | none =>
      if record.state.isTerminal then
        return report
      modifyRecord target .markStopped
      return { report with stopped := report.stopped + 1 }

def shutdown : GatewayM ShutdownReport := do
  modifyState fun gateway => { gateway with isAdmitting := false }
  let gateway ← getState
  gateway.instances.keys.foldlM (shutdownInstance ports) { stopped := 0, failed := 0 }

/-! ### Runs -/

inductive Call
  | allocate (callerId : CallerId) (sessionId : SessionId)
  | status (target : InstanceId)
  | reconcile (target : InstanceId)
  | renew (proof : LeaseProof)
  | release (proof : LeaseProof)
  | cleanup (target : InstanceId) (callerId : CallerId) (sessionId : SessionId)
  | forward (target : InstanceId) (proof : LeaseProof) (operationId : OperationId)
      (route : FixedRoute) (body : List UInt8)
  | expireDue
  | shutdown

/-- The instance that a call is about, if it is about one. -/
def Call.target (gateway : Gateway) : Call → Option InstanceId
  | .allocate _ _ => some gateway.nextInstanceId
  | .status target | .reconcile target | .cleanup target _ _ | .forward target _ _ _ _ => some target
  | .renew proof | .release proof => some proof.instanceId
  | .expireDue | .shutdown => none

inductive Answer
  | allocated (allocation : Allocation)
  | status (snapshot : InstanceSnapshot)
  | state (state : LifecycleState)
  | renewed (lease : Lease)
  | released
  | removed
  | forwarded (response : TransportResponse)
  | expirations (events : List ExpirationEvent)
  | shutdown (report : ShutdownReport)

def Call.run : Call → GatewayM Answer
  | .allocate callerId sessionId => .allocated <$> ControlPlane.allocate ports callerId sessionId
  | .status target => .status <$> ControlPlane.status target
  | .reconcile target => .state <$> ControlPlane.reconcile ports target
  | .renew proof => .renewed <$> ControlPlane.renew ports proof
  | .release proof => (fun _ => .released) <$> ControlPlane.release ports proof
  | .cleanup target callerId sessionId =>
    (fun _ => .removed) <$> ControlPlane.cleanup ports target callerId sessionId
  | .forward target proof operationId route body =>
    .forwarded <$> ControlPlane.forward ports target proof operationId route body
  | .expireDue => .expirations <$> ControlPlane.expireDue ports
  | .shutdown => .shutdown <$> ControlPlane.shutdown ports

/-- The answer of a call and the plane it leaves; an error keeps what was reached. -/
def perform (plane : Plane) (call : Call) : Except GatewayError Answer × Plane :=
  match (call.run ports).run plane with
  | .ok answer plane => (.ok answer, plane)
  | .error error plane => (.error error, plane)

def next (plane : Plane) (call : Call) : Plane := (perform ports plane call).2

/-- The control plane after a list of calls. -/
abbrev run (plane : Plane) (calls : List Call) : Plane := Machine.run (next ports) plane calls

end Procedures

def start (config : GatewayConfig) : Plane := { state := .new config, events := [] }

/-! ### A sample plane -/

namespace Sample

/-- Ports that answer every request, with a fresh handle for each process. -/
def ports : Ports where
  now _ := 0
  checkFence := deterministicLeaseDecision
  start log _ := .ok log.length
  inspect _ _ := .ok .running
  stop _ _ _ := .ok ()
  probe _ _ _ := .ok .ready
  forward _ _ := .ok { status := 200, body := [] }

def config : GatewayConfig :=
  { capacity := 2, leaseDurationMillis := 100, maxBodyBytes := 16, maxResponseBytes := 16 }

/-- One instance, observed as ready. -/
def calls : List Call := [.allocate 7 9, .reconcile 1]

/-- The proof of its lease. -/
def proof : LeaseProof := { instanceId := 1, callerId := 7, sessionId := 9, leaseId := 1, epoch := 1 }

def request : TransportRequest :=
  { instanceId := 1, process := 1, lease := proof, operationId := 5, route := .command, body := [] }

def forward : Call := .forward 1 proof 5 .command []

end Sample

end Sts2Gateway.ControlPlane
