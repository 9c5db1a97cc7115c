/-
The frames of `watchdog-recovery-v1` (`recovery_frame.rs`,
`recovery_frame_validation.rs`) and the values in them (`service_recovery_wire.rs`,
`service_recovery_payload.rs`).

* `RecoveryKind`, `RecoveryFrame`, `RecoveryFrame.parse`: what a caller presents;
* `RecoveryFrame.requestFrame`, `RecoveryFrame.parseResponseFrame`: what goes to the
  host and comes back;
* `parseRelease`, `bootWireShape`, `parseFenceWire`, `parseLeaseWire`: the readers;
* `bootValue`, `fenceValue`, `leaseValue`, `operationRefValue`, `operationIntentValue`,
  `operationValue`: the values that the gateway writes.
-/
import Mathlib.Tactic
import Sts2Gateway.Recovery.Store
import Sts2Gateway.Service.HostLeaseControl

namespace Sts2Gateway.Service

open CompactJson Procedure Recovery Text

/-! ### Kinds -/

inductive RecoveryKind where
  | bootstrap
  | hostFence
  | leaseAcquire
  | leaseRenew
  | leaseRevoke
  | operationIntent
  | operationDispatch
  | operationLookup
  | operationReconcile
deriving DecidableEq, Repr

namespace RecoveryKind

def requestName : RecoveryKind → String
  | .bootstrap => "bootstrap_request"
  | .hostFence => "host_fence_request"
  | .leaseAcquire => "lease_acquire_request"
  | .leaseRenew => "lease_renew_request"
  | .leaseRevoke => "lease_revoke_request"
  | .operationIntent => "operation_intent_request"
  | .operationDispatch => "operation_dispatch_request"
  | .operationLookup => "operation_lookup_request"
  | .operationReconcile => "operation_reconcile_request"

def responseName : RecoveryKind → String
  | .bootstrap => "bootstrap_response"
  | .hostFence => "host_fence_response"
  | .leaseAcquire => "lease_acquire_response"
  | .leaseRenew => "lease_renew_response"
  | .leaseRevoke => "lease_revoke_response"
  | .operationIntent => "operation_intent_response"
  | .operationDispatch => "operation_dispatch_response"
  | .operationLookup => "operation_lookup_response"
  | .operationReconcile => "operation_reconcile_response"

def capability : RecoveryKind → String
  | .bootstrap => "bootstrap"
  | .hostFence => "host_fence"
  | .leaseAcquire => "lease_acquire"
  | .leaseRenew => "lease_renew"
  | .leaseRevoke => "lease_revoke"
  | .operationIntent | .operationDispatch => "operation_submit"
  | .operationLookup => "recovery_read"
  | .operationReconcile => "recovery_reconcile"

/-- The members of a request's payload. -/
def payloadKeys : RecoveryKind → List String
  | .bootstrap =>
    ["deployment_id", "instance_id", "instance_incarnation", "release", "lease_policy"]
  | .hostFence => ["boot"]
  | .leaseAcquire => ["boot", "fence"]
  | .leaseRenew => ["lease", "renew_sequence"]
  | .leaseRevoke => ["lease", "reason"]
  | .operationIntent | .operationDispatch => ["lease", "operation"]
  | .operationLookup => ["operation", "lookup_scope"]
  | .operationReconcile => ["operation", "strategy", "current_fence"]

end RecoveryKind

/-! ### Frames -/

def recoveryContract : String := "watchdog-recovery-v1"
def recoverySchemaDigest : String :=
  "fb934d3157485aaf6e13e6ebbb213ec8a14c7fc6f5eeebc06b7a22c1f0009217"
def maxRecoveryFrameBytes : ℕ := 262144

inductive RecoveryFrameError where
  | invalid
  | oversized
deriving DecidableEq, Repr

/-- A parsed request frame. -/
structure RecoveryFrame where
  value : Json

namespace RecoveryFrame

/-- The shape of a timestamp: a dot may stand after the minutes already. -/
def timestamp (value : Json) : Bool :=
  value.asStr.any fun text =>
    let bytes := utf8 text
    20 ≤ bytes.length && bytes.length ≤ 30 && hasSeparators bytes &&
      bytes.zipIdx.all fun (byte, index) =>
        index == 4 || index == 7 || index == 10 || index == 13 || index == 16 ||
          index == bytes.length - 1 ||
          (isAsciiDigit byte || (byte == 46 && 17 ≤ index && index < bytes.length - 1))

def exactKeys (value : Json) (expected : List String) : Except RecoveryFrameError Unit := do
  let members ← okOr value.asObject .invalid
  refuse (¬ Json.hasExactKeys members expected) .invalid

def roles : List String := ["gateway", "watchdog", "harness", "host", "mod", "operator"]

def actor (value : Json) : Except RecoveryFrameError Unit := do
  exactKeys value ["principal_id", "role"]
  refuse (¬ (value.strIs "principal_id" validUuid ∧
    value.strIs "role" fun role => role ∈ roles)) .invalid

def auth (value : Json) (capability : String) : Except RecoveryFrameError Unit := do
  exactKeys value ["principal_id", "capability", "proof"]
  let proof := value.get "proof"
  refuse (¬ value.strIs "principal_id" validUuid ∨
    (value.get "capability").asStr ≠ some capability ∨
    ¬ proof.isNull ∧ proof.asStr.isNone) .invalid
  refuse (proof.asStr.any fun proof => proof.isEmpty || 512 < proof.utf8ByteSize) .invalid

/-- The checks that requests and responses share. -/
def checkEnvelope (body : Body) (name capability : String) : Except RecoveryFrameError Json := do
  refuse (body.size = 0) .invalid
  refuse (body.size > maxRecoveryFrameBytes) .oversized
  let value ← okOr body.json .invalid
  exactKeys value
    ["contract", "schema_digest", "message_id", "correlation_id", "sent_at", "actor", "auth",
      "kind", "payload"]
  refuse (¬ ((value.get "contract").asStr = some recoveryContract ∧
    (value.get "schema_digest").asStr = some recoverySchemaDigest ∧
    (value.get "kind").asStr = some name ∧ value.strIs "message_id" validUuidV4 ∧
    value.strIs "correlation_id" validUuidV4 ∧ timestamp (value.get "sent_at"))) .invalid
  actor (value.get "actor")
  auth (value.get "auth") capability
  refuse ((value.get "actor").get "principal_id" ≠ (value.get "auth").get "principal_id") .invalid
  return value

def parse (body : Body) (kind : RecoveryKind) : Except RecoveryFrameError RecoveryFrame := do
  let value ← checkEnvelope body kind.requestName kind.capability
  exactKeys (value.get "payload") kind.payloadKeys
  return { value }

def parseResponseFrame (body : Body) (kind : RecoveryKind) : Except RecoveryFrameError Json :=
  checkEnvelope body kind.responseName kind.capability

variable (frame : RecoveryFrame)

def correlation : String := (frame.value.get "correlation_id").asStr.getD ""

def payload : Json := frame.value.get "payload"

/-- A closed request of the control channel between the gateway and the host. -/
def requestFrame (kind : RecoveryKind) (principalId correlation : String) (proof : Option String)
    (payload : Json) (messageId sentAt : String) : Json :=
  .obj
    [("contract", .str recoveryContract),
      ("schema_digest", .str recoverySchemaDigest),
      ("message_id", .str messageId),
      ("correlation_id", .str correlation),
      ("sent_at", .str sentAt),
      ("actor", .obj [("principal_id", .str principalId), ("role", .str "gateway")]),
      ("auth", .obj [("principal_id", .str principalId), ("capability", .str kind.capability),
        ("proof", nullable .str proof)]),
      ("kind", .str kind.requestName),
      ("payload", payload)]

end RecoveryFrame

/-- The `result` member of a response. -/
def responseResult (status : String) (retryable : Bool) (retryAfterSeconds : Option ℕ) : Json :=
  .obj [("status", .str status), ("retryable", .bool retryable),
    ("retry_after_seconds", nullable .num retryAfterSeconds)]

/-! ### Boots and fences -/

def releaseValue (release : RecoveryReleaseSet) : Json :=
  .obj [("release_digest", .str release.releaseDigest), ("config_digest", .str release.configDigest),
    ("profile_digest", .str release.profileDigest),
    ("runtime_v3_schema_digest", .str release.runtimeV3SchemaDigest)]

def parseRelease (value : Json) : Option RecoveryReleaseSet := do
  let object ← value.exactObject
    ["release_digest", "config_digest", "profile_digest", "runtime_v3_schema_digest"]
  let release : RecoveryReleaseSet :=
    { releaseDigest := ← (object.get "release_digest").asStr
      configDigest := ← (object.get "config_digest").asStr
      profileDigest := ← (object.get "profile_digest").asStr
      runtimeV3SchemaDigest := ← (object.get "runtime_v3_schema_digest").asStr }
  guard release.validate.isOk
  return release

def bootStateName : RecoveryBootState → String
  | .fenceRequired => "FENCE_REQUIRED"
  | .ready => "READY"
  | .blocked => "BLOCKED"
  | .revoked => "REVOKED"

def bootWireShape (value : Json) : Bool :=
  match value.exactObject ["deployment_id", "instance_id", "instance_incarnation", "boot_id",
      "authority_generation", "release", "created_at", "state"] with
  | none => false
  | some object =>
    object.strIs "deployment_id" validUuid && object.strIs "instance_id" validUuid &&
      object.strIs "instance_incarnation" validUuidV4 && object.strIs "boot_id" validUuidV4 &&
      object.numIs "authority_generation" (fun value => 0 < value) &&
      (object.get "created_at").asStr.isSome &&
      object.strIs "state" (fun state =>
        state ∈ ["FENCE_REQUIRED", "READY", "BLOCKED", "REVOKED"]) &&
      (parseRelease (object.get "release")).isSome

def bootValue (boot : RecoveryBootContext) : Json :=
  .obj
    [("deployment_id", .str boot.deploymentId), ("instance_id", .str boot.instanceId),
      ("instance_incarnation", .str boot.instanceIncarnation), ("boot_id", .str boot.bootId),
      ("authority_generation", .num boot.authorityGeneration),
      ("release", releaseValue boot.release),
      ("created_at", .str (timestampFromMillis boot.createdAtMillis)),
      ("state", .str (bootStateName boot.state))]

def parseFenceWire (value : Json) : Option RecoveryHostFence := do
  let object ← value.exactObject ["host_fence_id", "deployment_id", "instance_id",
    "instance_incarnation", "boot_id", "authority_generation", "fence_generation", "created_at"]
  let fence : RecoveryHostFence :=
    { hostFenceId := ← (object.get "host_fence_id").asStr
      deploymentId := ← (object.get "deployment_id").asStr
      instanceId := ← (object.get "instance_id").asStr
      instanceIncarnation := ← (object.get "instance_incarnation").asStr
      bootId := ← (object.get "boot_id").asStr
      authorityGeneration := ← (object.get "authority_generation").asU64
      fenceGeneration := ← (object.get "fence_generation").asU64
      createdAtMillis := 0 }
  guard (validUuidV4 fence.hostFenceId ∧ validUuid fence.deploymentId ∧
    validUuid fence.instanceId ∧ validUuidV4 fence.instanceIncarnation ∧
    validUuidV4 fence.bootId ∧ 0 < fence.authorityGeneration ∧ 0 < fence.fenceGeneration ∧
    (object.get "created_at").asStr.isSome)
  return fence

def sameBootFence (fence : RecoveryHostFence) (boot : RecoveryBootContext) : Bool :=
  fence.deploymentId = boot.deploymentId ∧ fence.instanceId = boot.instanceId ∧
    fence.instanceIncarnation = boot.instanceIncarnation ∧ fence.bootId = boot.bootId ∧
    fence.authorityGeneration = boot.authorityGeneration

def fenceValue (fence : RecoveryHostFence) : Json :=
  .obj
    [("host_fence_id", .str fence.hostFenceId), ("deployment_id", .str fence.deploymentId),
      ("instance_id", .str fence.instanceId),
      ("instance_incarnation", .str fence.instanceIncarnation), ("boot_id", .str fence.bootId),
      ("authority_generation", .num fence.authorityGeneration),
      ("fence_generation", .num fence.fenceGeneration),
      ("created_at", .str (timestampFromMillis fence.createdAtMillis))]

/-! ### Leases -/

/-- A lease of the wire says nothing of its times and its sequence. -/
def parseLeaseWire (value : Json) : Option RecoveryLease := do
  let object ← value.exactObject ["deployment_id", "instance_id", "instance_incarnation", "boot_id",
    "authority_generation", "lease_id", "lease_epoch", "fence_token", "issued_at", "expires_at",
    "ttl_seconds", "renewal_interval_seconds"]
  let lease : RecoveryLease :=
    { deploymentId := ← (object.get "deployment_id").asStr
      instanceId := ← (object.get "instance_id").asStr
      instanceIncarnation := ← (object.get "instance_incarnation").asStr
      bootId := ← (object.get "boot_id").asStr
      authorityGeneration := ← (object.get "authority_generation").asU64
      leaseId := ← (object.get "lease_id").asStr
      leaseEpoch := ← (object.get "lease_epoch").asU64
      fenceToken := ← (object.get "fence_token").asStr
      issuedAtMillis := 0
      expiresAtMillis := 0
      ttlSeconds := ← (object.get "ttl_seconds").asU64
      renewalIntervalSeconds := ← (object.get "renewal_interval_seconds").asU64
      lastRenewSequence := 0 }
  guard (validUuid lease.deploymentId ∧ validUuid lease.instanceId ∧
    validUuidV4 lease.instanceIncarnation ∧ validUuidV4 lease.bootId ∧
    validUuidV4 lease.leaseId ∧ 0 < lease.authorityGeneration ∧ 0 < lease.leaseEpoch ∧
    lease.fenceToken.utf8ByteSize = 43 ∧ 5 ≤ lease.ttlSeconds ∧
    0 < lease.renewalIntervalSeconds ∧ lease.renewalIntervalSeconds < lease.ttlSeconds ∧
    (object.get "issued_at").asStr.isSome ∧ (object.get "expires_at").asStr.isSome)
  return lease

def leaseValue (lease : RecoveryLease) : Json :=
  .obj
    [("deployment_id", .str lease.deploymentId), ("instance_id", .str lease.instanceId),
      ("instance_incarnation", .str lease.instanceIncarnation), ("boot_id", .str lease.bootId),
      ("authority_generation", .num lease.authorityGeneration),
      ("lease_id", .str lease.leaseId), ("lease_epoch", .num lease.leaseEpoch),
      ("fence_token", .str lease.fenceToken),
      ("issued_at", .str (timestampFromMillis lease.issuedAtMillis)),
      ("expires_at", .str (timestampFromMillis lease.expiresAtMillis)),
      ("ttl_seconds", .num lease.ttlSeconds),
      ("renewal_interval_seconds", .num lease.renewalIntervalSeconds)]

/-! ### Operations -/

/-- Base64 with the standard alphabet and no padding. -/
def base64Chars : List Char :=
  "ABCDEFGHIJKLMNOPQRSTUVWXYZabcdefghijklmnopqrstuvwxyz0123456789+/".toList

/-- Base64 with the alphabet that is safe in URLs. -/
def base64UrlChars : List Char :=
  "ABCDEFGHIJKLMNOPQRSTUVWXYZabcdefghijklmnopqrstuvwxyz0123456789-_".toList

def encodeBase64 (alphabet : List Char) : List UInt8 → List Char
  | a :: b :: c :: rest =>
    let n := a.toNat * 65536 + b.toNat * 256 + c.toNat
    alphabet.getD (n / 262144) 'A' :: alphabet.getD (n / 4096 % 64) 'A' ::
      alphabet.getD (n / 64 % 64) 'A' :: alphabet.getD (n % 64) 'A' :: encodeBase64 alphabet rest
  | [a, b] =>
    let n := (a.toNat * 256 + b.toNat) * 4
    [alphabet.getD (n / 4096) 'A', alphabet.getD (n / 64 % 64) 'A', alphabet.getD (n % 64) 'A']
  | [a] =>
    let n := a.toNat * 16
    [alphabet.getD (n / 64) 'A', alphabet.getD (n % 64) 'A']
  | [] => []

/-- The six bits of one character. -/
def sextet (alphabet : List Char) (c : Char) : Option ℕ :=
  if c ∈ alphabet then some (alphabet.idxOf c) else none

/-- Unpadded text is read in groups of four; the bits left over must be zero. -/
def decodeBase64 (alphabet : List Char) : List Char → Option (List UInt8)
  | a :: b :: c :: d :: rest => do
    let n := (← sextet alphabet a) * 262144 + (← sextet alphabet b) * 4096 +
      (← sextet alphabet c) * 64 + (← sextet alphabet d)
    return UInt8.ofNat (n / 65536) :: UInt8.ofNat (n / 256 % 256) :: UInt8.ofNat (n % 256) ::
      (← decodeBase64 alphabet rest)
  | [a, b, c] => do
    let n := (← sextet alphabet a) * 4096 + (← sextet alphabet b) * 64 + (← sextet alphabet c)
    guard (n % 4 = 0)
    return [UInt8.ofNat (n / 1024), UInt8.ofNat (n / 4 % 256)]
  | [a, b] => do
    let n := (← sextet alphabet a) * 64 + (← sextet alphabet b)
    guard (n % 16 = 0)
    return [UInt8.ofNat (n / 16)]
  | [_] => none
  | [] => some []

def operationStateName : RecoveryOperationState → String
  | .intentRecorded => "INTENT_RECORDED"
  | .mayHaveBeenDispatched => "MAY_HAVE_BEEN_DISPATCHED"
  | .accepted => "ACCEPTED"
  | .settled => "SETTLED"
  | .rejected => "REJECTED"
  | .unknown => "UNKNOWN"
  | .reconciled => "RECONCILED"

def ticketStateName : RecoveryTicketState → String
  | .issued => "ISSUED"
  | .admitted => "ADMITTED"
  | .executing => "EXECUTING"
  | .effectWitnessRecorded => "EFFECT_WITNESS_RECORDED"
  | .settled => "SETTLED"
  | .rejected => "REJECTED"
  | .unknown => "UNKNOWN"

def uncertaintyName : RecoveryUncertaintyReason → String
  | .transportLost => "transport_lost"
  | .timeout => "timeout"
  | .gatewayCrash => "gateway_crash"
  | .hostCrash => "host_crash"
  | .receiptMissing => "receipt_missing"
  | .authorityRotated => "authority_rotated"

/-- The authority that an operation was recorded under. -/
def originalContext (operation : RecoveryOperation) : Json :=
  .obj
    [("deployment_id", .str operation.deploymentId), ("instance_id", .str operation.instanceId),
      ("instance_incarnation", .str operation.instanceIncarnation),
      ("boot_id", .str operation.bootId),
      ("authority_generation", .num operation.authorityGeneration),
      ("lease_id", .str operation.leaseId), ("lease_epoch", .num operation.leaseEpoch)]

def expectedBoundary (operation : RecoveryOperation) : Json :=
  .obj
    [("state_id", .str operation.expectedStateId), ("generation", .num operation.expectedGeneration),
      ("catalog_digest", .str operation.catalogDigest)]

def actionValue (operation : RecoveryOperation) : Json :=
  .obj
    [("schema_digest", .str operation.schemaDigest),
      ("canonical_json_b64",
        .str (String.ofList (encodeBase64 base64Chars operation.canonicalJson))),
      ("payload_digest", .str operation.payloadDigest)]

def operationRefValue (operation : RecoveryOperation) : Json :=
  .obj
    [("operation_id", .str operation.operationId),
      ("payload_digest", .str operation.payloadDigest),
      ("original_context", originalContext operation)]

def operationIntentValue (operation : RecoveryOperation) : Json :=
  .obj
    [("operation_id", .str operation.operationId),
      ("payload_digest", .str operation.payloadDigest),
      ("original_context", originalContext operation),
      ("expected_boundary", expectedBoundary operation),
      ("action", actionValue operation)]

def ticketValue (ticket : RecoveryAdmissionTicket) : Json :=
  .obj
    [("ticket_id", .str ticket.ticketId), ("operation_id", .str ticket.operationId),
      ("payload_digest", .str ticket.payloadDigest), ("boot_id", .str ticket.bootId),
      ("instance_incarnation", .str ticket.instanceIncarnation),
      ("lease_epoch", .num ticket.leaseEpoch), ("host_fence_id", .str ticket.hostFenceId),
      ("state", .str (ticketStateName ticket.state)),
      ("issued_at", .str (timestampFromMillis ticket.issuedAtMillis)),
      ("expires_at", .str (timestampFromMillis ticket.expiresAtMillis))]

def witnessValue (witness : RecoveryEffectWitness) : Json :=
  .obj
    [("witness_id", .str witness.witnessId), ("operation_id", .str witness.operationId),
      ("payload_digest", .str witness.payloadDigest), ("boot_id", .str witness.bootId),
      ("instance_incarnation", .str witness.instanceIncarnation),
      ("host_fence_id", .str witness.hostFenceId), ("source", .str witness.source),
      ("state_id", .str witness.stateId), ("generation", .num witness.generation),
      ("effect_digest", .str witness.effectDigest),
      ("observed_at", .str (timestampFromMillis witness.observedAtMillis))]

/-- An operation with its ticket, if one can be read. -/
def operationValue (operation : RecoveryOperation) (ticket : Option RecoveryAdmissionTicket) :
    Json :=
  .obj
    [("operation_id", .str operation.operationId),
      ("state", .str (operationStateName operation.state)),
      ("payload_digest", .str operation.payloadDigest),
      ("original_context", originalContext operation),
      ("expected_boundary", expectedBoundary operation),
      ("action", actionValue operation),
      ("ticket", nullable ticketValue ticket),
      ("witness", nullable witnessValue operation.witness),
      ("uncertainty_reason", nullable (.str ∘ uncertaintyName) operation.uncertaintyReason),
      ("created_at", .str (timestampFromMillis operation.createdAtMillis)),
      ("updated_at", .str (timestampFromMillis operation.updatedAtMillis))]

end Sts2Gateway.Service
