/-
The runtime service with a recovery store (`service_state.rs`, `service.rs`,
`service_recovery_state.rs`, `recovery_control.rs`): its memory and its exchanges.

* `RuntimeConfig`, `RuntimeService`: the configuration, and what one process keeps;
* `Event`, `Environment`: the exchanges with the clock, the store, the host and the
  random source, and what answers them;
* `ServiceM`: the procedures of the service, whose early returns are errors;
* `transact`, `readStore`: **one call of the store**, which may fail inside the database;
* `recoveryNowMillis`, `checkRecoveryDeadline`: the clock, and the end of a lease by it.

A service without a recovery store is left out, and so is all that it keeps for the
routes that never touch a recovery lease.
-/
import Mathlib.Tactic
import Sts2Gateway.Library.Crash
import Sts2Gateway.Recovery.Runs
import Sts2Gateway.Service.Catalog

namespace Sts2Gateway.Service

open CompactJson Crash Exchange Procedure Recovery Text

/-! ### The service -/

/-- The secrets of the process environment, in base64. -/
structure RuntimeSecrets where
  bootstrapSecret : Option String
  recoveryReadSecret : Option String
  recoveryReconcileSecret : Option String

structure RuntimeConfig where
  instanceId : String
  callerId : String
  sessionId : String
  mcpSessionId : String
  leaseId : String
  leaseEpoch : ℕ
  recoveryDeploymentId : String
  recoveryRelease : RecoveryReleaseSet
  recoveryTtlSeconds : ℕ
  recoveryRenewalIntervalSeconds : ℕ
  hostLeaseKey : List UInt8
  hostPrincipalId : String
  secrets : RuntimeSecrets

structure HostLeaseGrant where
  installationId : String
  grantDigest : String
  grant : Json
deriving DecidableEq

/-- The repeated-episode profile that a release has negotiated. -/
structure EpisodeProfile where
  bootId : String
  instanceIncarnation : String
  authorityGeneration : ℕ
  /-- Epoch of the most recently completed episode, if any. -/
  releasedEpoch : Option ℕ
deriving DecidableEq, Repr

structure RecoveryClock where
  /-- Nanoseconds of the monotonic clock. -/
  started : ℕ
  wallMillis : ℕ
  lastNowMillis : ℕ
deriving DecidableEq, Repr

structure RuntimeService where
  config : RuntimeConfig
  leaseActive : Bool
  leaseRevoked : Bool
  allocationCleanupLeaseId : Option String
  shutdownRequested : Bool
  recoveryCatalog : RecoveryCatalogCache
  recovery : GatewayRecoveryStore
  recoveryBoot : Option RecoveryBootContext
  recoveryFence : Option RecoveryHostFence
  recoveryLease : Option RecoveryLease
  recoveryLeaseDeadline : Option ℕ
  recoveryLeaseDeadlineLeaseId : Option String
  recoveryHostGrant : Option HostLeaseGrant
  episodeProfile : Option EpisodeProfile
  recoveryClock : RecoveryClock

/-! ### Requests and replies -/

structure HttpRequest where
  headers : List (String × String)
  body : Body

namespace HttpRequest

variable (request : HttpRequest)

def header (name : String) : Option String := request.headers.lookup name

def contentTypeIsJson : Bool := request.header "content-type" = some "application/json"

end HttpRequest

structure HttpResponse where
  status : UInt16
  body : Body

/-- A response body: JSON, a response frame of one of the two contracts around its
payload, or bytes of the host. -/
inductive ReplyBody where
  | json (value : Json)
  | frame (kind : RecoveryKind) (correlation : String) (payload : Json)
  | ownerFrame (kind correlation : String) (payload : Json)
  | relayed (body : Body)

structure Reply where
  status : UInt16
  body : ReplyBody

def jsonError (code : String) : ReplyBody := .json (.obj [("error_code", .str code)])

/-- A refusal. -/
def Reply.error (status : UInt16) (code : String) : Reply := { status, body := jsonError code }

/-- `safe_identity`. -/
def safeIdentity (value : String) : Bool :=
  !value.isEmpty && value.utf8ByteSize ≤ 128 && !containsDots (utf8 value) &&
    allBytes value isIdentityByte

/-! ### Exchanges -/

inductive RecoveryControlTransportFault where
  | invalidFrame
  | requestOversized
  | invalidConfiguration
  | unavailableBeforeWrite
  | disconnectedAfterWrite
  | timeoutAfterWrite
  | malformedResponse
deriving DecidableEq, Repr

/-- What goes to the host over the recovery mux. -/
inductive ControlFrame where
  | recovery (kind : RecoveryKind) (frame : Json)
  | hostLease (kind : HostLeaseKind) (frame : Json)

def ControlFrame.value : ControlFrame → Json
  | .recovery _ frame | .hostLease _ frame => frame

abbrev ControlAnswer := Except RecoveryControlTransportFault HttpResponse

/-- A gameplay request to the host, and its answer or the status that stands for none. -/
abbrev DownstreamAnswer := Except UInt16 HttpResponse

/-- How a statement fails inside the database. -/
inductive DatabaseFault where
  | busy
  | sql (message : String)
  | io (message : String)
deriving DecidableEq, Repr

def DatabaseFault.error : DatabaseFault → RecoveryStoreError
  | .busy => .busy
  | .sql message => .sql message
  | .io message => .io message

/-- A fault of the database; a late one comes after the first statement of a call. -/
structure StoreFault where
  cause : DatabaseFault
  late : Bool
deriving DecidableEq, Repr

inductive Event where
  | unixMillis (millis : ℕ)
  | instant (nanos : ℕ)
  | newV4 (id : String)
  | newToken (token : String)
  | stored (call : Call) (outcome : Except RecoveryStoreError Unit)
  | read (outcome : Except RecoveryStoreError Unit)
  /-- A frame to the host, with the service as it stood when the frame was written. -/
  | control (service : RuntimeService) (frame : ControlFrame) (answer : ControlAnswer)
  | downstream (method path : String) (answer : DownstreamAnswer)

inductive RuntimeV3GameplayForwardError where
  | requestBodyRequired
  | requestBodyOversized
  | requestBodyMalformed
  | responseOversized
  | responseMalformed
deriving DecidableEq, Repr

/-- The checks of the gameplay schemas. -/
structure RuntimeV3Gameplay where
  validateRequest : RuntimeV3GameplayRoute → HttpRequest →
    Except RuntimeV3GameplayForwardError Json
  validateResponse : RuntimeV3GameplayRoute → Json → Body →
    Except RuntimeV3GameplayForwardError Unit
  isLegalActionsRecovery : RuntimeV3GameplayRoute → Json → HttpResponse → Bool

/-- A version 4 UUID of the random source. -/
abbrev UuidV4 := { id : String // validUuidV4 id }

/-- A fence token of the random source. -/
abbrev FenceToken := { token : String // validToken token }

/-- What answers the exchanges, each with the whole log before it. -/
structure Environment where
  crashes : List Event → Bool
  unixMillis : List Event → ℕ
  instant : List Event → ℕ
  newV4 : List Event → UuidV4
  newToken : List Event → FenceToken
  fault : List Event → Option StoreFault
  control : List Event → ControlFrame → ControlAnswer
  downstream : List Event → String → String → Json → DownstreamAnswer
  runtimeV3 : RuntimeV3Gameplay

/-! ### Procedures -/

abbrev ServiceM (Error : Type) := CrashM Error RuntimeService Event

/-- A procedure whose early returns are replies as well. -/
def merged {Error : Type} (p : ServiceM Reply Reply) : ServiceM Error Reply := do
  match ← attempt p with
  | .ok reply => return reply
  | .error reply => return reply

namespace Environment

variable {ε α : Type} (env : Environment)

def readUnixMillis : ServiceM ε ℕ :=
  interact env.crashes (fun log _ => min (env.unixMillis log) (2 ^ 64 - 1)) fun _ => .unixMillis

def readInstant : ServiceM ε ℕ :=
  interact env.crashes (fun log _ => env.instant log) fun _ => .instant

def drawV4 : ServiceM ε UuidV4 :=
  interact env.crashes (fun log _ => env.newV4 log) fun _ id => .newV4 id

def drawToken : ServiceM ε FenceToken :=
  interact env.crashes (fun log _ => env.newToken log) fun _ token => .newToken token

/-- One frame to the host and its answer. -/
def sendControl (frame : ControlFrame) : ServiceM ε ControlAnswer :=
  interact env.crashes (fun log _ => env.control log frame) fun service => .control service frame

def forwardMod (method path : String) (body : Json) : ServiceM ε DownstreamAnswer :=
  interact env.crashes (fun log _ => env.downstream log method path body)
    fun _ => .downstream method path

end Environment

/-! ### The store -/

/-- What a failed call leaves.  The old leases may have expired in a statement of their
own. -/
def StoreFault.leaves (fault : StoreFault) (store : GatewayRecoveryStore) :
    Call → GatewayRecoveryStore
  | .lease (.acquire _ _ request) =>
    match store.checkLeaseRequest request, store.expireLeases request.nowMillis with
    | .ok (), .ok (_, expired) => if fault.late then expired else store
    | _, _ => store
  | _ => store

namespace RuntimeService

variable (service : RuntimeService)

def withStore (recovery : GatewayRecoveryStore) : RuntimeService := { service with recovery }

def withNow (nowMillis : ℕ) : RuntimeService :=
  { service with
    recoveryClock := { service.recoveryClock with lastNowMillis := nowMillis } }

/-- The memory of a lease whose deadline has passed. -/
def dropLease : RuntimeService :=
  { service with
    recoveryLease := none
    recoveryLeaseDeadline := none
    recoveryHostGrant := none
    leaseActive := false }

end RuntimeService

namespace Environment

variable {α : Type} (env : Environment)

/-- One call of the store, under the name `call` in the log. -/
def transact (call : Call) (run : GatewayRecoveryStore → Recovery.Reply α) :
    ServiceM RecoveryStoreError α := fun s =>
  if env.crashes s.events then .error .crashed s
  else
    match env.fault s.events with
    | some fault =>
      .error (.raised fault.cause.error)
        { state := s.state.withStore (fault.leaves s.state.recovery call)
          events := s.events ++ [.stored call (.error fault.cause.error)] }
    | none =>
      match run s.state.recovery with
      | ⟨.ok a, after⟩ =>
        .ok a { state := s.state.withStore after, events := s.events ++ [.stored call (.ok ())] }
      | ⟨.error e, after⟩ =>
        .error (.raised e)
          { state := s.state.withStore after, events := s.events ++ [.stored call (.error e)] }

/-- A query, which may fail as well. -/
def readStore (query : GatewayRecoveryStore → Except RecoveryStoreError α) :
    ServiceM RecoveryStoreError α := do
  let answer ← interact env.crashes
    (fun log service =>
      match env.fault log with
      | some fault => .error fault.cause.error
      | none => query service.recovery)
    fun _ answer => .read (answer.map fun _ => ())
  check answer

/-- A query whose errors count as nothing found. -/
def readStoreOk {ε : Type} (query : GatewayRecoveryStore → Except RecoveryStoreError (Option α)) :
    ServiceM ε (Option α) := do
  match ← attempt (env.readStore query) with
  | .ok found => return found
  | .error _ => return none

/-! ### The clock -/

def recoveryNowMillis {ε : Type} : ServiceM ε ℕ := do
  let wall ← env.readUnixMillis
  let instant ← env.readInstant
  let clock := (← getState).recoveryClock
  let elapsed := min ((instant - clock.started) / 1000000) (2 ^ 64 - 1)
  let monotonic := min (clock.wallMillis + elapsed) (2 ^ 64 - 1)
  let now := max (max wall monotonic) clock.lastNowMillis
  modifyState (·.withNow now)
  return now

def expireLeases (nowMillis : ℕ) : ServiceM RecoveryStoreError ℕ :=
  env.transact (.lease (.expire nowMillis)) fun store => commit store (store.expireLeases nowMillis)

/-- Whether the local deadline of the lease has passed. -/
def deadlinePassed {ε : Type} : ServiceM ε Bool := do
  match (← getState).recoveryLeaseDeadline with
  | some deadline => return decide (deadline ≤ (← env.readInstant))
  | none => return false

def checkRecoveryDeadline {ε : Type} : ServiceM ε Unit := do
  if ← env.deadlinePassed then
    let now ← env.recoveryNowMillis
    let _ ← attempt (env.expireLeases now)
    modifyState RuntimeService.dropLease

end Environment

end Sts2Gateway.Service
