/-
The frames of `watchdog-host-lease-control-v1` (`host_lease_control.rs`,
`host_lease_control_crypto.rs`, `host_lease_control_grant.rs`,
`host_lease_control_frames.rs`).

* `canonicalHcj1`, `grantDigest`, `proofForFrame`: the canonical bytes of a value, and
  what is signed;
* `validateGrant`, `validateFrameShape`: the closed shapes;
* `requestFrame`: **the frame that the gateway signs and sends**;
* `parseResponse`, `ackStatus`, `ackContext`: the host's acknowledgment.

A text that is read is the value that the strict reader makes of it, with the members of
an object in the order of their keys.
-/
import Mathlib.Tactic
import Sts2Gateway.Library.JsonAccess
import Sts2Gateway.Recovery.Contract
import Sts2Gateway.Service.Timestamps

namespace Sts2Gateway.Service

open CompactJson Procedure Recovery Text

/-! ### Kinds -/

inductive HostLeaseKind where
  | install
  | renew
  | revoke
deriving DecidableEq, Repr

namespace HostLeaseKind

def requestName : HostLeaseKind → String
  | .install => "lease_install_request"
  | .renew => "lease_renew_request"
  | .revoke => "lease_revoke_request"

def responseName : HostLeaseKind → String
  | .install => "lease_install_response"
  | .renew => "lease_renew_response"
  | .revoke => "lease_revoke_response"

def capability : HostLeaseKind → String
  | .install => "lease_install"
  | .renew => "lease_renew"
  | .revoke => "lease_revoke"

def requestDomain : HostLeaseKind → String
  | .install => "host-lease-control/v1/lease-install-request"
  | .renew => "host-lease-control/v1/lease-renew-request"
  | .revoke => "host-lease-control/v1/lease-revoke-request"

def acknowledgmentDomain : HostLeaseKind → String
  | .install => "host-lease-control/v1/lease-install-ack"
  | .renew => "host-lease-control/v1/lease-renew-ack"
  | .revoke => "host-lease-control/v1/lease-revoke-ack"

end HostLeaseKind

inductive HostLeaseFrameError where
  | invalid
  | oversized
  | authentication
  | configuration
deriving DecidableEq, Repr

def hostLeaseControlContract : String := "watchdog-host-lease-control-v1"
def hostLeaseControlSchemaDigest : String :=
  "e22faf0f7d3cd313a007b65e52058b3c255153d5778dd8124055c283adf977f9"
def maxHostLeaseFrameBytes : ℕ := 262144
def maxHostLeasePayloadBytes : ℕ := 65536
def maxHostLeaseProofBytes : ℕ := 512

/-! ### Scalars -/

def utf8 (value : String) : List UInt8 := value.toUTF8.data.toList

def validUuid (value : String) : Bool :=
  isHyphenatedUuid (utf8 value) && hasRfc4122Variant (utf8 value)

def validUuidV4 (value : String) : Bool := validUuid value && hasVersion4 (utf8 value)

def validDigest (value : String) : Bool :=
  value.utf8ByteSize == 64 && allBytes value fun byte => isHexDigit byte && !isAsciiUppercase byte

def validToken (value : String) : Bool :=
  value.utf8ByteSize == 43 &&
    allBytes value fun byte => isAsciiAlphanumeric byte || byte == 95 || byte == 45

/-- A positive integer of the wire. -/
def validCounter (value : ℕ) : Bool := 1 ≤ value && value ≤ maxWireInteger

/-! ### Canonical bytes -/

/-- A JSON string literal. -/
def writeString (value : String) : List Char := '"' :: (escape value.toList ++ ['"'])

/-- The members of an object, in the order of their keys. -/
def joinMembers (members : List (String × List Char)) : List Char :=
  let sorted := members.insertionSort fun a b => a.1 ≤ b.1
  '{' :: (List.intercalate [','] (sorted.map fun (key, text) => writeString key ++ ':' :: text) ++
    ['}'])

mutual

def writeCanonical : Json → Except HostLeaseFrameError (List Char)
  | .null => .ok "null".toList
  | .bool true => .ok "true".toList
  | .bool false => .ok "false".toList
  | .num n => if n > maxWireInteger then .error .invalid else .ok (Nat.toDigits 10 n)
  | .str value => .ok (writeString value)
  | .arr items => do
    let texts ← writeItems items
    return '[' :: (List.intercalate [','] texts ++ [']'])
  | .obj members => do
    let texts ← writeMembers members
    return joinMembers texts

def writeItems : List Json → Except HostLeaseFrameError (List (List Char))
  | [] => .ok []
  | item :: items => do
    let text ← writeCanonical item
    let texts ← writeItems items
    return text :: texts

def writeMembers : List (String × Json) → Except HostLeaseFrameError (List (String × List Char))
  | [] => .ok []
  | (key, value) :: members => do
    let text ← writeCanonical value
    let texts ← writeMembers members
    return (key, text) :: texts

end

def canonicalHcj1 (value : Json) : Except HostLeaseFrameError (List UInt8) :=
  (fun text => utf8 (String.ofList text)) <$> writeCanonical value

/-! ### Proofs -/

section Hash

variable [Sha256]

def grantDigest (grant : Json) : Except HostLeaseFrameError String :=
  (fun bytes => sha256Hex ⟨bytes.toArray⟩) <$> canonicalHcj1 grant

/-- HMAC with SHA-256 and a key of at most 64 bytes. -/
def hmacSha256 (key message : List UInt8) : List UInt8 :=
  let normalized := key ++ List.replicate (64 - key.length) 0
  let inner := normalized.map (· ^^^ 0x36)
  let outer := normalized.map (· ^^^ 0x5c)
  Sha256.digest ⟨(outer ++ Sha256.digest ⟨(inner ++ message).toArray⟩).toArray⟩

/-- A frame is signed without its proof. -/
def proofForFrame (frame : Json) (domain : String) (secret : List UInt8) : String :=
  let protectedFrame := frame.set "auth" ((frame.get "auth").erase "proof")
  let canonical := (canonicalHcj1 protectedFrame).toOption.getD []
  hexBytes (hmacSha256 secret (utf8 domain ++ 0 :: canonical))

end Hash

/-! ### Shapes -/

def requireObject (value : Json) : Except HostLeaseFrameError (List (String × Json)) :=
  okOr value.asObject .invalid

def exactKeys (members : List (String × Json)) (expected : List String) :
    Except HostLeaseFrameError Unit :=
  refuse (¬ Json.hasExactKeys members expected) .invalid

def validateRelease (value : Json) : Except HostLeaseFrameError Unit := do
  let release ← requireObject value
  let fields := ["release_digest", "config_digest", "profile_digest", "runtime_v3_schema_digest"]
  exactKeys release fields
  refuse (¬ fields.all fun field => value.strIs field validDigest) .invalid

/-- The five fields that a boot, its fence and its lease repeat. -/
def authorityFields : List String :=
  ["deployment_id", "instance_id", "instance_incarnation", "boot_id", "authority_generation"]

/-- Those five fields of one of the three. -/
def validAuthority (value : Json) : Bool :=
  value.strIs "deployment_id" validUuid && value.strIs "instance_id" validUuid &&
    value.strIs "instance_incarnation" validUuidV4 &&
    value.strIs "boot_id" validUuidV4 &&
    value.numIs "authority_generation" validCounter

def validTimestampAt (value : Json) (key : String) : Bool :=
  HostLease.validTimestamp ((value.get key).asStr.getD "")

def timestampMillisAt (value : Json) (key : String) : Except HostLeaseFrameError ℕ :=
  okOr (HostLease.parseTimestampMillis ((value.get key).asStr.getD "")) .invalid

def validateGrant (value : Json) : Except HostLeaseFrameError Unit := do
  let grant ← requireObject value
  exactKeys grant ["boot", "fence", "lease", "release", "gateway"]
  let boot := value.get "boot"
  exactKeys (← requireObject boot)
    ["deployment_id", "instance_id", "instance_incarnation", "boot_id", "authority_generation",
      "release", "created_at", "state"]
  refuse (¬ (validAuthority boot ∧ (boot.get "state").asStr = some "READY" ∧
    validTimestampAt boot "created_at")) .invalid
  validateRelease (boot.get "release")
  let fence := value.get "fence"
  exactKeys (← requireObject fence)
    ["host_fence_id", "deployment_id", "instance_id", "instance_incarnation", "boot_id",
      "authority_generation", "fence_generation", "created_at"]
  refuse (¬ (fence.strIs "host_fence_id" validUuidV4 ∧ validAuthority fence ∧
    fence.numIs "fence_generation" validCounter ∧ validTimestampAt fence "created_at")) .invalid
  let lease := value.get "lease"
  exactKeys (← requireObject lease)
    ["deployment_id", "instance_id", "instance_incarnation", "boot_id", "authority_generation",
      "host_fence_id", "host_fence_generation", "lease_id", "lease_epoch", "fence_token",
      "issued_at", "expires_at", "ttl_seconds", "renewal_interval_seconds"]
  let ttlSeconds := (lease.get "ttl_seconds").asU64.getD 0
  refuse (¬ (validAuthority lease ∧ lease.strIs "host_fence_id" validUuidV4 ∧
    lease.numIs "host_fence_generation" validCounter ∧
    lease.strIs "lease_id" validUuidV4 ∧ lease.numIs "lease_epoch" validCounter ∧
    lease.strIs "fence_token" validToken ∧ validTimestampAt lease "issued_at" ∧
    validTimestampAt lease "expires_at" ∧
    lease.numIs "ttl_seconds" (fun ttl => 1 ≤ ttl && ttl ≤ 300) ∧
    lease.numIs "renewal_interval_seconds" fun renewal =>
      1 ≤ renewal && renewal < ttlSeconds)) .invalid
  let issuedAt ← timestampMillisAt lease "issued_at"
  let expiresAt ← timestampMillisAt lease "expires_at"
  refuse (expiresAt ≤ issuedAt) .invalid
  let _ ← requireObject (value.get "release")
  validateRelease (value.get "release")
  let gateway := value.get "gateway"
  exactKeys (← requireObject gateway) ["principal_id", "instance_id", "session_id"]
  refuse (¬ (gateway.strIs "principal_id" validUuid ∧
    gateway.strIs "instance_id" validUuid ∧
    gateway.strIs "session_id" validUuidV4)) .invalid
  refuse (¬ authorityFields.all fun field =>
    decide (boot.get field = fence.get field ∧ boot.get field = lease.get field)) .invalid
  refuse (fence.get "host_fence_id" ≠ lease.get "host_fence_id" ∨
    fence.get "fence_generation" ≠ lease.get "host_fence_generation" ∨
    boot.get "release" ≠ value.get "release" ∨
    gateway.get "instance_id" ≠ boot.get "instance_id") .invalid

/-- The reasons that end a lease. -/
def revokeReasons : List String :=
  ["operator", "shutdown", "incarnation_replaced", "suspend_ambiguous", "rekey"]

/-- The members of a request's payload. -/
def requestKeys : HostLeaseKind → List String
  | .install => ["installation_id", "grant", "grant_digest"]
  | .renew => ["installation_id", "grant", "grant_digest", "renew_sequence"]
  | .revoke => ["installation_id", "grant", "grant_digest", "reason"]

def validateRequestPayload [Sha256] (payload : Json) (kind : HostLeaseKind) :
    Except HostLeaseFrameError Unit := do
  exactKeys (← requireObject payload) (requestKeys kind)
  refuse (¬ (payload.strIs "installation_id" validUuidV4 ∧
    payload.strIs "grant_digest" validDigest)) .invalid
  let digest ← grantDigest (payload.get "grant")
  refuse (digest ≠ (payload.get "grant_digest").asStr.getD "") .invalid
  validateGrant (payload.get "grant")
  match kind with
  | .renew => refuse (¬ payload.numIs "renew_sequence" validCounter) .invalid
  | .revoke => refuse (¬ payload.strIs "reason" fun reason => reason ∈ revokeReasons) .invalid
  | .install => return

/-- What the host may answer: success of its kind, or one of the refusals. -/
def ackStatuses : HostLeaseKind → List String
  | .install => ["INSTALLED", "DUPLICATE"]
  | .renew => ["RENEWED", "RENEW_DUPLICATE"]
  | .revoke => ["REVOKED", "REVOKE_DUPLICATE"]

def refusalStatuses : List String :=
  ["CONFLICT", "STALE_BOOT", "STALE_FENCE", "RELEASE_MISMATCH", "LEASE_MISMATCH", "EXPIRED",
    "AUTH_REQUIRED", "PERSISTENCE_UNAVAILABLE", "INVALID", "BOUNDS_EXCEEDED"]

def validateResponsePayload (payload : Json) (kind : HostLeaseKind) :
    Except HostLeaseFrameError Unit := do
  exactKeys (← requireObject payload) ["ack"]
  let ack := payload.get "ack"
  exactKeys (← requireObject ack)
    ["result", "installation_id", "grant_digest", "boot_id", "instance_incarnation",
      "host_fence_id", "fence_generation", "lease_id", "lease_epoch", "host_install_generation",
      "recorded_at", "renew_sequence", "expires_at"]
  let result := ack.get "result"
  exactKeys (← requireObject result) ["status", "retryable", "retry_after_seconds"]
  refuse (¬ (result.strIs "status"
        (fun status => status ∈ ackStatuses kind ++ refusalStatuses) ∧
      (result.get "retryable").asBool.isSome ∧
      ((result.get "retry_after_seconds").isNull ∨
        result.numIs "retry_after_seconds" validCounter) ∧
      ack.strIs "installation_id" validUuidV4 ∧ ack.strIs "grant_digest" validDigest ∧
      ack.strIs "boot_id" validUuidV4 ∧ ack.strIs "instance_incarnation" validUuidV4 ∧
      ack.strIs "host_fence_id" validUuidV4 ∧
      ack.numIs "fence_generation" validCounter ∧ ack.strIs "lease_id" validUuidV4 ∧
      ack.numIs "lease_epoch" validCounter ∧
      ack.numIs "host_install_generation" validCounter ∧
      validTimestampAt ack "recorded_at")) .invalid
  refuse ((ack.get "renew_sequence").asU64.any fun sequence => !validCounter sequence) .invalid
  refuse (¬ (ack.get "renew_sequence").isNull ∧ (ack.get "expires_at").asStr.isNone) .invalid
  refuse (¬ (ack.get "expires_at").isNull ∧ ¬ validTimestampAt ack "expires_at") .invalid

def validateFrameShape [Sha256] (value : Json) (kind : HostLeaseKind) (response : Bool) :
    Except HostLeaseFrameError Unit := do
  exactKeys (← requireObject value)
    ["contract", "schema_digest", "message_id", "correlation_id", "sent_at", "actor", "auth",
      "kind", "payload"]
  refuse (¬ ((value.get "contract").asStr = some hostLeaseControlContract ∧
    (value.get "schema_digest").asStr = some hostLeaseControlSchemaDigest ∧
    (value.get "kind").asStr =
      some (if response then kind.responseName else kind.requestName) ∧
    value.strIs "message_id" validUuidV4 ∧ value.strIs "correlation_id" validUuidV4 ∧
    validTimestampAt value "sent_at")) .invalid
  let actor := value.get "actor"
  exactKeys (← requireObject actor) ["principal_id", "role"]
  refuse (¬ (actor.strIs "principal_id" validUuid ∧
    (actor.get "role").asStr = some (if response then "host" else "gateway"))) .invalid
  let auth := value.get "auth"
  exactKeys (← requireObject auth) ["principal_id", "capability", "proof"]
  refuse (¬ (auth.get "principal_id" = actor.get "principal_id" ∧
      auth.strIs "principal_id" validUuid ∧
      (auth.get "capability").asStr = some kind.capability ∧
      auth.strIs "proof" fun proof =>
        !proof.isEmpty && proof.utf8ByteSize ≤ maxHostLeaseProofBytes))
    (if (auth.get "proof").isNull && !response then .invalid else .authentication)
  let payload := value.get "payload"
  let _ ← requireObject payload
  refuse (payload.toBytes.size > maxHostLeasePayloadBytes) .oversized
  if response then validateResponsePayload payload kind
  else do
    validateRequestPayload payload kind
    let grant := payload.get "grant"
    refuse ((grant.get "gateway").get "principal_id" ≠ actor.get "principal_id" ∨
      (grant.get "gateway").get "instance_id" ≠ (grant.get "boot").get "instance_id") .invalid

/-! ### Requests -/

/-- The frame before it is signed. -/
def unsignedFrame (kind : HostLeaseKind) (principalId correlationId : String) (payload : Json)
    (messageId sentAt : String) : Json :=
  .obj
    [("contract", .str hostLeaseControlContract),
      ("schema_digest", .str hostLeaseControlSchemaDigest),
      ("message_id", .str messageId),
      ("correlation_id", .str correlationId),
      ("sent_at", .str sentAt),
      ("actor", .obj [("principal_id", .str principalId), ("role", .str "gateway")]),
      ("auth", .obj [("principal_id", .str principalId), ("capability", .str kind.capability),
        ("proof", .null)]),
      ("kind", .str kind.requestName),
      ("payload", payload)]

/-- A signed request, which must pass the host's own checks on its shape. -/
def requestFrame [Sha256] (kind : HostLeaseKind) (principalId correlationId : String)
    (payload : Json) (secret : List UInt8) (messageId sentAt : String) :
    Except HostLeaseFrameError Json := do
  refuse (¬ validUuid principalId ∨ ¬ validUuidV4 correlationId ∨ secret.length ≠ 32)
    .configuration
  let unsigned := unsignedFrame kind principalId correlationId payload messageId sentAt
  let proof := proofForFrame unsigned kind.requestDomain secret
  let frame := unsigned.set "auth" ((unsigned.get "auth").set "proof" (.str proof))
  validateFrameShape frame kind false
  refuse (frame.toBytes.size > maxHostLeaseFrameBytes) .oversized
  return frame

/-! ### Responses -/

/-- A body as it was received: its length, its value when it is strict JSON, and the
bytes that its member `legal_actions` is written with. -/
structure Body where
  size : ℕ
  json : Option Json
  rawLegalActions : Option (List UInt8)

/-- A body that the gateway wrote itself. -/
def Body.ofJson (value : Json) : Body where
  size := value.toBytes.size
  json := some value
  rawLegalActions := none

/-- An authenticated answer of the host. -/
def parseResponse [Sha256] (body : Body) (kind : HostLeaseKind) (secret : List UInt8)
    (expectedPrincipalId : String) : Except HostLeaseFrameError Json := do
  refuse (secret.length ≠ 32) .configuration
  refuse (body.size > maxHostLeaseFrameBytes) .oversized
  let value ← okOr body.json .invalid
  validateFrameShape value kind true
  refuse (((value.get "actor").get "principal_id").asStr ≠ some expectedPrincipalId ∨
    ((value.get "auth").get "principal_id").asStr ≠ some expectedPrincipalId) .authentication
  let proof ← okOr ((value.get "auth").get "proof").asStr .authentication
  refuse (proof ≠ proofForFrame value kind.acknowledgmentDomain secret) .authentication
  return value

/-- The status of an acknowledgment that says yes. -/
def ackStatus (value : Json) (kind : HostLeaseKind) : Option String :=
  (((value.get "payload").get "ack").get "result").get "status" |>.asStr.filter
    fun status => status ∈ ackStatuses kind

structure HostLeaseAck where
  installationId : String
  grantDigest : String
  bootId : String
  instanceIncarnation : String
  hostFenceId : String
  fenceGeneration : ℕ
  leaseId : String
  leaseEpoch : ℕ
  hostInstallGeneration : ℕ
  recordedAt : ℕ
  renewSequence : Option ℕ
  expiresAt : Option ℕ
  messageId : String
deriving DecidableEq, Repr

def ackContext (value : Json) : Option HostLeaseAck := do
  let ack := (value.get "payload").get "ack"
  return {
    installationId := ← (ack.get "installation_id").asStr
    grantDigest := ← (ack.get "grant_digest").asStr
    bootId := ← (ack.get "boot_id").asStr
    instanceIncarnation := ← (ack.get "instance_incarnation").asStr
    hostFenceId := ← (ack.get "host_fence_id").asStr
    fenceGeneration := ← (ack.get "fence_generation").asU64
    leaseId := ← (ack.get "lease_id").asStr
    leaseEpoch := ← (ack.get "lease_epoch").asU64
    hostInstallGeneration := ← (ack.get "host_install_generation").asU64
    recordedAt := ← HostLease.parseTimestampMillis (← (ack.get "recorded_at").asStr)
    renewSequence := (ack.get "renew_sequence").asU64
    expiresAt := (ack.get "expires_at").asStr.bind HostLease.parseTimestampMillis
    messageId := ← (value.get "message_id").asStr }

end Sts2Gateway.Service
