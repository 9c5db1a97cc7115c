/-
The recovery contract (`recovery_types.rs`, `recovery_types_ticket.rs`,
`recovery_host_lease_types.rs`, `recovery_continuation_owner_types.rs`,
`recovery_validation.rs`): the values that the recovery store hands out and
takes, and the checks on their fields.

* `RecoveryStoreError`: what a call of the store fails with;
* `validateIdentity`, `validateUuid`, `validateUuidV4`, `validateToken`,
  `validateDigest`, `validateWire`: the checks on single fields;
* `RecoveryBootContext`, `RecoveryHostFence`, `RecoveryLease`, `RecoveryLeaseProof`,
  `RecoveryOperation`, `RecoveryEffectWitness`, `RecoveryAdmissionTicket`,
  `RecoveryContinuationOwner`: the records;
* `RecoveryStoreConfig.validate`, `RecoveryReleaseSet.validate`: the checks on
  whole records.
-/
import Mathlib.Tactic
import Sts2Gateway.Library.Procedure
import Sts2Gateway.Library.Text

namespace Sts2Gateway.Recovery

open Procedure Text

/-! ### Constants -/

def runtimeV3SchemaDigest : String :=
  "0ae1d4d1525162da3059c028dcdb70df1d4d2dcf9620c5edd9b543e5f04aacc2"
def maxRecoveryActionBytes : ℕ := 65536
def maxRecoveryResponseBytes : ℕ := 128 * 1024
/-- The largest integer of the JSON wire. -/
def maxWireInteger : ℕ := 9007199254740991
/-- How long a resolved operation stays known. -/
def recoveryTombstoneRetentionMillis : ℕ := 86400000

/-! ### Errors -/

inductive RecoveryStoreError where
  | busy
  | sql (message : String)
  | invalidInput (message : String)
  | contractMismatch (message : String)
  | corrupt (message : String)
  | releaseMismatch
  | authorityNotFound
  | counterExhausted
  | hostFenceRequired
  | leaseNotFound
  | leaseExpired
  | leaseRevoked
  | staleLease
  | invalidTransition
  | operationNotFound
  | operationConflict
  | admissionTicketNotFound
  | admissionTicketExpired
  | capacityExceeded
  | persistenceUnavailable
  | io (message : String)
  | backupExists
deriving DecidableEq, Repr

/-! ### Fields -/

/-- Two neighbouring bytes that are both dots. -/
def containsDots : List UInt8 → Bool
  | a :: b :: rest => (a == 46 && b == 46) || containsDots (b :: rest)
  | _ => false

/-- The bytes of an identity: letters, digits and `-_.:/`. -/
def isIdentityByte (byte : UInt8) : Bool :=
  isAsciiAlphanumeric byte || byte == 45 || byte == 95 || byte == 46 || byte == 58 || byte == 47

def validateIdentity (name value : String) : Except RecoveryStoreError Unit := do
  refuse (value.isEmpty ∨ value.utf8ByteSize > 512 ∨ containsDots value.toUTF8.data.toList)
    (.invalidInput (name ++ " is empty, unsafe, or oversized"))
  refuse (¬ allBytes value isIdentityByte)
    (.invalidInput (name ++ " contains an unsupported character"))

/-- The hyphenated lower-case text of a UUID: 36 bytes, four of them hyphens. -/
def isHyphenatedUuid (bytes : List UInt8) : Bool :=
  bytes.length == 36 &&
    bytes.zipIdx.all fun (byte, i) =>
      if i == 8 || i == 13 || i == 18 || i == 23 then byte == 45 else isLowerHex byte

/-- The variant of a UUID is in the first digit of its fourth group: `8`, `9`, `a` or `b`. -/
def hasRfc4122Variant (bytes : List UInt8) : Bool :=
  bytes[19]? == some 56 || bytes[19]? == some 57 || bytes[19]? == some 97 || bytes[19]? == some 98

/-- The version of a UUID is the first digit of its third group. -/
def hasVersion4 (bytes : List UInt8) : Bool := bytes[14]? == some 52

def validateUuidKind (name value : String) (v4 : Bool) : Except RecoveryStoreError Unit :=
  let bytes := value.toUTF8.data.toList
  refuse (¬ isHyphenatedUuid bytes ∨ ¬ hasRfc4122Variant bytes ∨ v4 ∧ ¬ hasVersion4 bytes)
    (.invalidInput (name ++ " must be a lowercase RFC-4122 UUID"))

def validateUuid (name value : String) : Except RecoveryStoreError Unit :=
  validateUuidKind name value false

def validateUuidV4 (name value : String) : Except RecoveryStoreError Unit :=
  validateUuidKind name value true

def validateToken (name value : String) : Except RecoveryStoreError Unit :=
  refuse (value.utf8ByteSize ≠ 43 ∨
      ¬ allBytes value fun byte => isAsciiAlphanumeric byte || byte == 95 || byte == 45)
    (.invalidInput (name ++ " must be a bounded transport token"))

def validateDigest (name value : String) : Except RecoveryStoreError Unit := do
  refuse (value.utf8ByteSize ≠ 64 ∨ ¬ allBytes value isHexDigit)
    (.invalidInput (name ++ " must be a SHA-256 digest"))
  refuse (¬ allBytes value fun byte => !isAsciiUppercase byte)
    (.invalidInput (name ++ " must be lowercase"))

def validateWire (value : ℕ) (name : String) : Except RecoveryStoreError Unit :=
  refuse (value > maxWireInteger) (.invalidInput (name ++ " exceeds the JSON wire integer bound"))

/-- Addition of unsigned 64-bit integers, if it does not overflow. -/
def checkedAdd (a b : ℕ) : Except RecoveryStoreError ℕ :=
  if a + b < 2 ^ 64 then .ok (a + b) else .error .counterExhausted

/-- Multiplication of unsigned 64-bit integers, if it does not overflow. -/
def checkedMul (a b : ℕ) : Except RecoveryStoreError ℕ :=
  if a * b < 2 ^ 64 then .ok (a * b) else .error .counterExhausted

/-! ### Boots and fences -/

structure RecoveryReleaseSet where
  releaseDigest : String
  configDigest : String
  profileDigest : String
  runtimeV3SchemaDigest : String
deriving DecidableEq, Repr

def RecoveryReleaseSet.validate (release : RecoveryReleaseSet) : Except RecoveryStoreError Unit := do
  [("release_digest", release.releaseDigest), ("config_digest", release.configDigest),
    ("profile_digest", release.profileDigest),
    ("runtime_v3_schema_digest", release.runtimeV3SchemaDigest)].forM fun (name, value) => do
      refuse (value.utf8ByteSize ≠ 64 ∨ ¬ allBytes value isHexDigit)
        (.invalidInput (name ++ " must be a lowercase SHA-256 digest"))
      refuse (¬ allBytes value fun byte => !isAsciiUppercase byte)
        (.invalidInput (name ++ " must be lowercase"))
  refuse (release.runtimeV3SchemaDigest ≠ Recovery.runtimeV3SchemaDigest)
    (.contractMismatch "runtime-v3 schema digest is not the approved frozen profile")

inductive RecoveryBootState where
  | fenceRequired
  | ready
  | blocked
  | revoked
deriving DecidableEq, Repr

structure RecoveryBootContext where
  deploymentId : String
  instanceId : String
  instanceIncarnation : String
  bootId : String
  authorityGeneration : ℕ
  release : RecoveryReleaseSet
  createdAtMillis : ℕ
  state : RecoveryBootState
deriving DecidableEq, Repr

structure RecoveryHostFence where
  hostFenceId : String
  deploymentId : String
  instanceId : String
  instanceIncarnation : String
  bootId : String
  authorityGeneration : ℕ
  fenceGeneration : ℕ
  createdAtMillis : ℕ
deriving DecidableEq, Repr

/-! ### Leases -/

structure RecoveryLease where
  deploymentId : String
  instanceId : String
  instanceIncarnation : String
  bootId : String
  authorityGeneration : ℕ
  leaseId : String
  leaseEpoch : ℕ
  fenceToken : String
  issuedAtMillis : ℕ
  expiresAtMillis : ℕ
  ttlSeconds : ℕ
  renewalIntervalSeconds : ℕ
  lastRenewSequence : ℕ
deriving DecidableEq, Repr

/-- What the owner of a lease presents. -/
structure RecoveryLeaseProof where
  deploymentId : String
  instanceId : String
  instanceIncarnation : String
  bootId : String
  authorityGeneration : ℕ
  leaseId : String
  leaseEpoch : ℕ
  fenceToken : String
deriving DecidableEq, Repr

def RecoveryLease.proof (lease : RecoveryLease) : RecoveryLeaseProof where
  deploymentId := lease.deploymentId
  instanceId := lease.instanceId
  instanceIncarnation := lease.instanceIncarnation
  bootId := lease.bootId
  authorityGeneration := lease.authorityGeneration
  leaseId := lease.leaseId
  leaseEpoch := lease.leaseEpoch
  fenceToken := lease.fenceToken

inductive RecoveryLeaseState where
  | active
  | expired
  | revoked
deriving DecidableEq, Repr

structure RecoveryLeaseRequest where
  deploymentId : String
  instanceId : String
  instanceIncarnation : String
  bootId : String
  authorityGeneration : ℕ
  hostFenceId : String
  hostFenceGeneration : ℕ
  callerId : String
  sessionId : String
  nowMillis : ℕ
  ttlSeconds : ℕ
  renewalIntervalSeconds : ℕ
deriving DecidableEq, Repr

inductive RecoveryHostLeaseState where
  | uninstalled
  | pendingHostInstall
  | installed
  | pendingHostRenew
  | pendingHostRevoke
  | hostRevoked
  | restartInvalidated
deriving DecidableEq, Repr

/-- The public host columns of a lease. -/
structure RecoveryHostLeaseBinding where
  leaseId : String
  installationId : Option String
  grantDigest : Option String
  state : RecoveryHostLeaseState
  hostInstallGeneration : ℕ
  hostRenewSequence : ℕ
  hostAckMessageId : Option String
  hostAckRecordedAtMillis : Option ℕ
deriving DecidableEq, Repr

structure RecoveryStoreConfig where
  unresolvedCapacity : ℕ
  retainedCapacity : ℕ
  leaseTtlSeconds : ℕ
  leaseRenewalIntervalSeconds : ℕ
deriving DecidableEq, Repr

def RecoveryStoreConfig.default : RecoveryStoreConfig where
  unresolvedCapacity := 64
  retainedCapacity := 4096
  leaseTtlSeconds := 30
  leaseRenewalIntervalSeconds := 10

def RecoveryStoreConfig.validate (config : RecoveryStoreConfig) : Except RecoveryStoreError Unit :=
  refuse (config.unresolvedCapacity = 0 ∨ config.retainedCapacity < config.unresolvedCapacity ∨
      ¬ (5 ≤ config.leaseTtlSeconds ∧ config.leaseTtlSeconds ≤ 300) ∨
      config.leaseRenewalIntervalSeconds = 0 ∨
      config.leaseTtlSeconds ≤ config.leaseRenewalIntervalSeconds)
    (.invalidInput "invalid recovery capacity or lease policy")

/-! ### Operations -/

inductive RecoveryOperationState where
  | intentRecorded
  | mayHaveBeenDispatched
  | accepted
  | settled
  | rejected
  | unknown
  | reconciled
deriving DecidableEq, Repr

def RecoveryOperationState.unresolved : RecoveryOperationState → Bool
  | .intentRecorded | .mayHaveBeenDispatched | .accepted | .unknown => true
  | .settled | .rejected | .reconciled => false

inductive RecoveryUncertaintyReason where
  | transportLost
  | timeout
  | gatewayCrash
  | hostCrash
  | receiptMissing
  | authorityRotated
deriving DecidableEq, Repr

structure RecoveryEffectWitness where
  witnessId : String
  operationId : String
  payloadDigest : String
  bootId : String
  instanceIncarnation : String
  hostFenceId : String
  source : String
  stateId : String
  generation : ℕ
  effectDigest : String
  observedAtMillis : ℕ
deriving DecidableEq, Repr

structure RecoveryOperation where
  operationId : String
  deploymentId : String
  instanceId : String
  instanceIncarnation : String
  bootId : String
  authorityGeneration : ℕ
  leaseId : String
  leaseEpoch : ℕ
  state : RecoveryOperationState
  payloadDigest : String
  schemaDigest : String
  canonicalJson : List UInt8
  expectedStateId : String
  expectedGeneration : ℕ
  catalogDigest : String
  responseStatus : Option UInt16
  responseBody : Option (List UInt8)
  witness : Option RecoveryEffectWitness
  uncertaintyReason : Option RecoveryUncertaintyReason
  createdAtMillis : ℕ
  updatedAtMillis : ℕ
deriving DecidableEq, Repr

structure RecoveryOperationIntent where
  operationId : String
  deploymentId : String
  instanceId : String
  instanceIncarnation : String
  bootId : String
  authorityGeneration : ℕ
  leaseId : String
  leaseEpoch : ℕ
  schemaDigest : String
  canonicalJson : List UInt8
  payloadDigest : String
  expectedStateId : String
  expectedGeneration : ℕ
  catalogDigest : String
  nowMillis : ℕ
deriving DecidableEq, Repr

inductive RecoveryIntentResult where
  | created (operation : RecoveryOperation)
  | duplicate (operation : RecoveryOperation)
deriving DecidableEq, Repr

/-! ### Admission tickets -/

inductive RecoveryTicketState where
  | issued
  | admitted
  | executing
  | effectWitnessRecorded
  | settled
  | rejected
  | unknown
deriving DecidableEq, Repr

structure RecoveryAdmissionTicket where
  ticketId : String
  operationId : String
  payloadDigest : String
  bootId : String
  instanceIncarnation : String
  leaseEpoch : ℕ
  hostFenceId : String
  state : RecoveryTicketState
  issuedAtMillis : ℕ
  expiresAtMillis : ℕ
deriving DecidableEq, Repr

/-! ### Continuation owners -/

/-- The identity of the current owner of one live destination, without its secret. -/
structure RecoveryContinuationOwner where
  deploymentId : String
  instanceId : String
  instanceIncarnation : String
  bootId : String
  authorityGeneration : ℕ
  hostFenceId : String
  hostFenceGeneration : ℕ
  leaseId : String
  leaseEpoch : ℕ
  sessionId : String
  leaseExpiresAtMillis : ℕ
deriving DecidableEq, Repr

inductive RecoveryContinuationOwnerState where
  | available
  | absent
  | expired
  | revoked
  | unknown
deriving DecidableEq, Repr

structure RecoveryContinuationOwnerSnapshot where
  state : RecoveryContinuationOwnerState
  owner : Option RecoveryContinuationOwner
deriving DecidableEq, Repr

structure RecoveryContinuationOwnerClaim where
  operationId : String
  requestDigest : String
  owner : RecoveryContinuationOwner
  claimedAtMillis : ℕ
deriving DecidableEq, Repr

inductive RecoveryContinuationOwnerClaimResult where
  | created (claim : RecoveryContinuationOwnerClaim)
  | duplicate (claim : RecoveryContinuationOwnerClaim)
deriving DecidableEq, Repr

structure RecoveryContinuationOwnerAdoption where
  claim : RecoveryContinuationOwnerClaim
  owner : RecoveryContinuationOwner
  currentFence : RecoveryHostFence
deriving DecidableEq, Repr

end Sts2Gateway.Recovery
