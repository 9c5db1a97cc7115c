/-
The native process port (`process_native_port.rs`, `process_native_observation.rs`)
and its runs.

* `bindObservation`, `observe`: an observation of a unit, bound to its record;
* `startGeneration`, `recoverGeneration`, `inspectIdentity`, `inspect`,
  `descendants`, `stop`: the calls of the port;
* `openRegistry`, `Step`, `next`, `run`: openings of the port and calls on it, each
  of which a crash may cut short.
-/
import Sts2Gateway.Library.Machine
import Sts2Gateway.Native.Registry

namespace Sts2Gateway.Native

open ControlPlane (InstanceId ProcessHandle ProcessFault ProcessState StopMode LaunchSpec)
open Lifecycle (LaunchProfile LaunchProfileId ProcessIdentity ProcessDescendantIdentity
  ProcessOperationGeneration GenerationStartError GenerationRecovery)
open Procedure Exchange Crash Relational Text

/-! ### Checks -/

namespace NativeProcessPort

variable (port : NativeProcessPort)

def profile (profile : LaunchProfile) : Except ProcessFault NativeProfile :=
  okOr (port.profiles.bindings[profile.id]?.filter fun binding => binding.profile = profile)
    .profileNotApproved

def checkedRecord (record : GenerationRecord) : Except ProcessFault NativeProfile := do
  let binding ← port.profile record.profile
  refuse (record.bootId ≠ port.bootId ∨ binding.digest ≠ record.bindingDigest) .identityMismatch
  return binding

end NativeProcessPort

section Procedures

variable (host : Host)

/-! ### Observation -/

/-- Whether a member of the unit is a process of the profile in its control group. -/
def memberAccepted (binding : NativeProfile) (controlGroup : String) (member : NativeMember) :
    Bool :=
  member.pid ≠ 0 ∧ member.birth ≠ 0 ∧ member.controlGroup = controlGroup ∧
    member.imageDigest = binding.imageDigest ∧ member.executable = binding.executable

/-- The identity that a record has, checked against what was observed, or the one
that its main process gives it. -/
def bindIdentity (record : GenerationRecord) (instanceId : InstanceId) (binding : NativeProfile)
    (mainPid : ℕ) (members : List NativeMember) : Except ProcessFault (Option ProcessIdentity) :=
  match record.identity with
  | some identity => do
    refuse (mainPid ≠ 0 ∧ mainPid ≠ identity.pid) .identityMismatch
    refuse (members.any fun member =>
      decide (member.pid = identity.pid) && decide (member.birth ≠ identity.birthId))
      .identityMismatch
    return some identity
  | none => .ok ((members.find? fun member => member.pid = mainPid).map fun main =>
      { instanceId, process := record.handle, pid := main.pid, birthId := main.birth
        executable := some binding.profile.executable, userData := some binding.profile.userData })

def bindObservation (record : GenerationRecord) (instanceId : InstanceId)
    (binding : NativeProfile) (invocation controlGroup : String) (mainPid : ℕ)
    (members : List NativeMember) : Except ProcessFault GenerationRecord := do
  refuse (isSimpleUuid host invocation = false ∨
    invocation = "00000000000000000000000000000000" ∨
    validGroup controlGroup record.unit = false) .identityMismatch
  refuse ((record.invocation.any fun value => decide (value ≠ invocation)) ∨
    (record.controlGroup.any fun value => decide (value ≠ controlGroup)) ∨
    binding.profile.policy.maxDescendants + 1 < members.length) .identityMismatch
  refuse ((members.all (memberAccepted binding controlGroup)) = false) .identityMismatch
  let identity ← bindIdentity record instanceId binding mainPid members
  return { record with
    identity, invocation := some invocation, controlGroup := some controlGroup }

/-- `registry.save`, as the port reports its failure. -/
def savePort (record : GenerationRecord) : PortM ProcessFault Unit :=
  mapError (fun _ => .unavailable) (save host record)

/-- `controller.empty_group`. -/
def emptyGroup (path : String) : PortM ProcessFault Bool := do
  let answer ← interact host.crashes (fun log _ => host.emptyGroup log path) fun _ answer =>
    .emptyGroup path answer
  check answer

/-- The unit is gone: the process is absent once its bound control group is empty. -/
def observeMissing (record : GenerationRecord) :
    PortM ProcessFault (GenerationRecord × List NativeMember) := do
  match record.controlGroup with
  | none => raise .inspectionFailed
  | some group =>
    if ← emptyGroup host group then
      let record := { record with absent := true }
      savePort host record
      return (record, [])
    else raise .inspectionFailed

/-- The unit is there, and its observation is bound to the record. -/
def observePresent (record : GenerationRecord) (members : List NativeMember) (terminal : Bool) :
    PortM ProcessFault (GenerationRecord × List NativeMember) := do
  check (refuse (record.absent = true ∧ members ≠ []) .identityMismatch)
  if members = [] ∧ terminal = true then
    let group ← check (okOr record.controlGroup .inspectionFailed)
    let empty ← emptyGroup host group
    let record := { record with absent := record.absent || empty }
    savePort host record
    return (record, members)
  else
    savePort host record
    return (record, members)

def observe (record : GenerationRecord) (instanceId : InstanceId) :
    PortM ProcessFault (GenerationRecord × List NativeMember) := do
  let port ← getState
  let binding ← check (port.checkedRecord record)
  check (refuse (record.identity.any fun identity => decide (identity.instanceId ≠ instanceId))
    .identityMismatch)
  if record.dispatched = false then
    return (record, [])
  let answer ← interact host.crashes (fun log _ => host.observe log record binding)
    fun _ answer => .observed record answer
  match ← check answer with
  | .missing => observeMissing host record
  | .present invocation controlGroup mainPid members terminal =>
    let record ← check
      (bindObservation host record instanceId binding invocation controlGroup mainPid members)
    observePresent host record members terminal

/-! ### Calls -/

def current (handle : ProcessHandle) :
    PortM ProcessFault (GenerationRecord × List NativeMember) := do
  let record ← mapError (fun _ => .identityMismatch) (byHandle host handle)
  let identity ← check (okOr record.identity .inspectionFailed)
  observe host record identity.instanceId

def recovered (record : GenerationRecord) (instanceId : InstanceId) :
    PortM ProcessFault GenerationRecovery := do
  let port ← getState
  let _ ← check (port.checkedRecord record)
  if record.dispatched = false then
    return .indeterminate
  let (record, _) ← observe host record instanceId
  match record.identity with
  | some identity => return .found identity
  | none => return .indeterminate

/-- The first dispatch of a record: its user data is claimed, the dispatch is
saved, and only then is the unit started. -/
def dispatch (record : GenerationRecord) (binding : NativeProfile) :
    PortM GenerationStartError GenerationRecord := do
  let claim ← interact host.crashes
    (fun log port => host.claimUserData log binding port.registry.identity)
    fun _ answer => .claimedUserData answer
  check (claim.mapError fun _ => .process .profileNotApproved)
  let record := { record with dispatched := true }
  mapError (fun _ => .process .unavailable) (save host record)
  let answer ← interact host.crashes (fun log _ => host.start log record binding)
    fun _ answer => .started record answer
  check (answer.mapError .process)
  return record

def startGeneration [Sha256] (generation : ProcessOperationGeneration) (specification : LaunchSpec)
    (profile : LaunchProfile) : PortM GenerationStartError ProcessIdentity := do
  check (refuse (specification.profileId ≠ some profile.id ∨
    specification.instanceId ≠ generation.instanceId ∨ generation.profileId ≠ profile.id)
    .unsupported)
  let port ← getState
  let binding ← check ((port.profile profile).mapError .process)
  let image ← interact host.crashes (fun log _ => host.verifyImage log binding) fun _ answer =>
    .verifiedImage answer
  check (image.mapError fun _ => .unsupported)
  let (record, new) ← mapError (fun _ => .process .unavailable)
    (reserve host (generationKey generation) profile binding.digest port.bootId)
  let _ ← check ((port.checkedRecord record).mapError .process)
  let record ← (if new then dispatch host record binding else pure record)
  match ← mapError .process (recovered host record generation.instanceId) with
  | .found identity => return identity
  | .indeterminate => raise (.process .unavailable)

def recoverGeneration [Sha256] (generation : ProcessOperationGeneration) (profile : LaunchProfile) :
    PortM ProcessFault GenerationRecovery := do
  let port ← getState
  let _ ← check (port.profile profile)
  match ← mapError (fun _ => .unavailable) (byKey host (generationKey generation)) with
  | none => return .indeterminate
  | some record =>
    check (refuse (record.profile ≠ profile) .identityMismatch)
    recovered host record generation.instanceId

def inspectIdentity (process : ProcessHandle) : PortM ProcessFault ProcessIdentity := do
  let (record, _) ← current host process
  check (okOr record.identity .inspectionFailed)

def inspect (process : ProcessHandle) : PortM ProcessFault ProcessState := do
  let (record, members) ← current host process
  check (refuse (members = [] ∧ record.absent = false) .inspectionFailed)
  let identity ← check (okOr record.identity .inspectionFailed)
  if members.any fun member =>
      decide (member.pid = identity.pid) && decide (member.birth = identity.birthId) then
    return .running
  else return .exited none

def descendants (process : ProcessHandle) : PortM ProcessFault (List ProcessDescendantIdentity) := do
  let (record, members) ← current host process
  check (refuse (members = [] ∧ record.absent = false) .inspectionFailed)
  let identity ← check (okOr record.identity .inspectionFailed)
  return (members.filter fun member => member.pid ≠ identity.pid).map fun member =>
    { instanceId := identity.instanceId, pid := member.pid, birthId := member.birth
      executable := record.profile.executable, userData := record.profile.userData }

def stop (process : ProcessHandle) (mode : StopMode) : PortM ProcessFault Unit := do
  let (record, _) ← current host process
  if record.absent = true then
    return ()
  let port ← getState
  let binding ← check (port.checkedRecord record)
  let identity ← check (okOr record.identity .inspectionFailed)
  let record := { record with stopping := true }
  savePort host record
  let answer ← interact host.crashes (fun log _ => host.stop log record binding mode)
    fun _ answer => .stopped record mode answer
  check answer
  let (record, _) ← observe host record identity.instanceId
  check (refuse (record.absent = false) .stopTimedOut)

/-! ### Runs -/

inductive Call
  | startGeneration (generation : ProcessOperationGeneration) (specification : LaunchSpec)
      (profile : LaunchProfile)
  | recoverGeneration (generation : ProcessOperationGeneration) (profile : LaunchProfile)
  | inspectIdentity (process : ProcessHandle)
  | inspect (process : ProcessHandle)
  | descendants (process : ProcessHandle)
  | stop (process : ProcessHandle) (mode : StopMode)

inductive Answer
  | started (identity : ProcessIdentity)
  | recovered (recovery : GenerationRecovery)
  | identity (identity : ProcessIdentity)
  | state (state : ProcessState)
  | descendants (descendants : List ProcessDescendantIdentity)
  | stopped

inductive CallError
  | start (error : GenerationStartError)
  | process (fault : ProcessFault)

def Call.run [Sha256] : Call → PortM CallError Answer
  | .startGeneration generation specification profile =>
    .started <$> mapError .start (Native.startGeneration host generation specification profile)
  | .recoverGeneration generation profile =>
    .recovered <$> mapError .process (Native.recoverGeneration host generation profile)
  | .inspectIdentity process => .identity <$> mapError .process (Native.inspectIdentity host process)
  | .inspect process => .state <$> mapError .process (Native.inspect host process)
  | .descendants process => .descendants <$> mapError .process (Native.descendants host process)
  | .stop process mode => (fun _ => .stopped) <$> mapError .process (Native.stop host process mode)

/-- What an opening of the port is given. -/
structure Settings where
  profiles : NativeProfiles
  bootId : String
  capacity : ℕ

/-- The checks of `GenerationRegistry::open` on the registry that it finds. -/
def openRegistry (settings : Settings) (registry : GenerationRegistry) :
    Except NativeProcessError NativeProcessPort := do
  refuse (settings.capacity = 0 ∨ 1024 < settings.capacity) .registry
  refuse (settings.capacity < registry.rows.rows.length) .registry
  registry.rows.rows.forM fun row => discard (decodeRow host row)
  refuse (¬ (registry.rows.rows.map fun row => row.record.unit).Nodup) .registry
  return { profiles := settings.profiles, bootId := settings.bootId
           capacity := settings.capacity, registry }

inductive Step
  | reopen (settings : Settings)
  | call (call : Call)

/-- The durable registry, the port that is open on it, if one is, and the log. -/
structure System where
  registry : GenerationRegistry
  port : Option Settings
  events : List Event

/-- The state in which a call on the open port starts. -/
def System.callState (system : System) (settings : Settings) : CallState NativeProcessPort Event where
  state :=
    { profiles := settings.profiles, bootId := settings.bootId, capacity := settings.capacity
      registry := system.registry }
  events := system.events

/-- What a call leaves, however it ends. -/
def System.after (system : System) (t : CallState NativeProcessPort Event) : System :=
  { system with registry := t.state.registry, events := t.events }

/-- One step: a crash closes the port, and a refused opening leaves none. -/
def next [Sha256] (system : System) : Step → System
  | .reopen settings =>
    match openRegistry host settings system.registry with
    | .ok _ => { system with port := some settings }
    | .error _ => { system with port := none }
  | .call call =>
    match system.port with
    | none => system
    | some settings =>
      match (call.run host).run (system.callState settings) with
      | .ok _ t => system.after t
      | .error .crashed t => { system.after t with port := none }
      | .error (.raised _) t => system.after t

abbrev run [Sha256] (system : System) (steps : List Step) : System :=
  Machine.run (next host) system steps

end Procedures

/-- A new registry, with no port open on it. -/
def start (identity : String) : System where
  registry := .empty identity
  port := none
  events := []

end Sts2Gateway.Native
