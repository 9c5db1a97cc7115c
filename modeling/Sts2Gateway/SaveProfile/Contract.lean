/-
The save-profile contract (`save_profile/types.rs`, `route.rs`, `guidance.rs`,
`ledger_types.rs`, `ledger_validation.rs`, `ledger_response.rs`).

* `SaveProfileId`, `ProfileBaseline`, `UserDataDescriptor`, `LaunchProfileBinding`: the
  identities that an operation names, with their checks;
* `SaveProfileContext`, `SaveProfileAuthority.authorize`: the fence of a caller;
* `SaveProfileForwardRequest`, `SaveProfileForwardResponse`, `SaveProfileResult`,
  `SaveProfileOperationRecord`: what the ledger forwards, receives and retains;
* `validateRequest`, `validateResponse`: the checks on both;
* `unknownResult`, `acceptedResult`, `rejectedResult`: the results without a receipt.
-/
import Mathlib.Data.Prod.Lex
import Mathlib.Tactic
import Sts2Gateway.Library.Procedure
import Sts2Gateway.Library.Text

namespace Sts2Gateway.SaveProfile

open Procedure Text

/-! ### Constants -/

def launchProfileContract : String := "gateway-launch-profile-v1"
def launchProfileId : String := "automation-disposable-v1"
def saveProfileMaxBodyBytes : ℕ := 16 * 1024
def saveProfileMaxIdentityBytes : ℕ := 128
def saveProfileMaxOperationBytes : ℕ := 128
def provenanceOwner : String := "gateway"

/-! ### Identities -/

/-- Letters, digits and `-_.:`. -/
def isIdentityByte (byte : UInt8) : Bool :=
  isAsciiAlphanumeric byte || byte == 45 || byte == 95 || byte == 46 || byte == 58

def validIdentity (value : String) (maximum : ℕ) : Bool :=
  !value.isEmpty && value.utf8ByteSize ≤ maximum && !containsBytes value ".." &&
    !containsBytes value "://" && allBytes value isIdentityByte

def isDigest (value : String) : Bool := value.utf8ByteSize == 64 && allBytes value isLowerHex

structure SaveProfileId where
  asStr : String
deriving DecidableEq, Repr

inductive SaveProfileIdError where
  | invalid
deriving DecidableEq, Repr

def SaveProfileId.tryNew (value : String) : Except SaveProfileIdError SaveProfileId := do
  refuse (¬ validIdentity value saveProfileMaxIdentityBytes) .invalid
  return ⟨value⟩

structure UserDataIdentity where
  value : ℕ
deriving DecidableEq, Repr

structure ProfileBaseline where
  identity : String
  digest : String
deriving DecidableEq, Repr

inductive ProfileBaselineError where
  | invalidIdentity
  | invalidDigest
deriving DecidableEq, Repr

def ProfileBaseline.validate (baseline : ProfileBaseline) : Except ProfileBaselineError Unit := do
  refuse (¬ validIdentity baseline.identity saveProfileMaxIdentityBytes) .invalidIdentity
  refuse (¬ isDigest baseline.digest) .invalidDigest

structure UserDataProvenance where
  owner : String
  instanceId : String
  operationId : String
  contract : String
deriving DecidableEq, Repr

inductive UserDataProvenanceError where
  | invalidIdentity
deriving DecidableEq, Repr

def UserDataProvenance.validate (provenance : UserDataProvenance) :
    Except UserDataProvenanceError Unit :=
  [provenance.owner, provenance.instanceId, provenance.operationId,
    provenance.contract].forM fun value =>
      refuse (¬ validIdentity value saveProfileMaxIdentityBytes) .invalidIdentity

structure UserDataDescriptor where
  identity : UserDataIdentity
  provenance : UserDataProvenance
  baseline : Option ProfileBaseline
deriving DecidableEq, Repr

inductive UserDataDescriptorError where
  | identity
  | provenance (error : UserDataProvenanceError)
  | baseline (error : ProfileBaselineError)
deriving DecidableEq, Repr

def UserDataDescriptor.validate (descriptor : UserDataDescriptor) :
    Except UserDataDescriptorError Unit := do
  refuse (descriptor.identity.value = 0) .identity
  descriptor.provenance.validate.mapError .provenance
  descriptor.baseline.forM fun baseline => baseline.validate.mapError .baseline

structure LaunchProfileBinding where
  contract : String
  profileId : String
  userData : UserDataIdentity
deriving DecidableEq, Repr

inductive LaunchProfileBindingError where
  | contract
  | profile
  | userData
deriving DecidableEq, Repr

def LaunchProfileBinding.validate (binding : LaunchProfileBinding) :
    Except LaunchProfileBindingError Unit := do
  refuse (binding.contract ≠ launchProfileContract) .contract
  refuse (binding.userData.value = 0) .userData
  refuse (¬ validIdentity binding.profileId saveProfileMaxIdentityBytes) .profile
  refuse (binding.profileId ≠ launchProfileId) .profile

/-! ### Fences -/

inductive SaveProfileFenceError where
  | invalidIdentity
  | wrongInstance
  | wrongCaller
  | wrongSession
  | wrongLease
  | staleEpoch
  | expired
deriving DecidableEq, Repr

structure SaveProfileContext where
  instanceId : String
  callerId : String
  sessionId : String
  leaseId : String
  leaseEpoch : ℕ
  correlationId : String
deriving DecidableEq, Repr

namespace SaveProfileContext

def validate (context : SaveProfileContext) : Except SaveProfileFenceError Unit :=
  [context.instanceId, context.callerId, context.sessionId, context.leaseId,
    context.correlationId].forM fun value =>
      refuse (¬ validIdentity value saveProfileMaxIdentityBytes) .invalidIdentity

/-- All but the correlation. -/
def sameFence (context other : SaveProfileContext) : Bool :=
  context.instanceId = other.instanceId && context.callerId = other.callerId &&
    context.sessionId = other.sessionId && context.leaseId = other.leaseId &&
    context.leaseEpoch = other.leaseEpoch

end SaveProfileContext

structure SaveProfileAuthority where
  instanceId : String
  callerId : String
  sessionId : String
  leaseId : String
  leaseEpoch : ℕ
  expiresAtMillis : Option ℕ
deriving DecidableEq, Repr

def SaveProfileAuthority.authorize (authority : SaveProfileAuthority)
    (context : SaveProfileContext) (nowMillis : ℕ) : Except SaveProfileFenceError Unit := do
  context.validate
  refuse (authority.expiresAtMillis.any (· ≤ nowMillis)) .expired
  refuse (authority.instanceId ≠ context.instanceId) .wrongInstance
  refuse (authority.callerId ≠ context.callerId) .wrongCaller
  refuse (authority.sessionId ≠ context.sessionId) .wrongSession
  refuse (authority.leaseId ≠ context.leaseId) .wrongLease
  refuse (authority.leaseEpoch ≠ context.leaseEpoch) .staleEpoch

/-! ### Operations -/

inductive SaveProfileRoute where
  | list
  | current
  | select
  | createDisposable
  | lookup
deriving DecidableEq, Repr

def SaveProfileRoute.isMutation : SaveProfileRoute → Bool
  | .select | .createDisposable => true
  | _ => false

def SaveProfileRoute.requiresBody : SaveProfileRoute → Bool
  | .select | .createDisposable => true
  | _ => false

inductive SaveProfileStatus where
  | accepted
  | settled
  | rejected
  | unknown
  | blocked
  | cancelled
deriving DecidableEq, Repr

/-- No answer has resolved the operation yet. -/
def SaveProfileStatus.isUnresolved : SaveProfileStatus → Bool
  | .accepted | .unknown => true
  | _ => false

structure RecoveryGuidance where
  code : String
  action : String
deriving DecidableEq, Repr

def RecoveryGuidance.forStatus : SaveProfileStatus → Option RecoveryGuidance
  | .unknown => some
    { code := "save_profile_reconcile_required"
      action := "lookup the original operation before retrying" }
  | .blocked => some
    { code := "save_profile_operator_intervention_required"
      action := "inspect the isolated allocation and clear the reported block" }
  | _ => none

inductive SaveProfileOperation where
  | list
  | current
  | select (profileId : SaveProfileId) (baseline : ProfileBaseline)
  | createDisposable (launchProfile : LaunchProfileBinding) (userData : UserDataDescriptor)
deriving DecidableEq, Repr

def SaveProfileOperation.route : SaveProfileOperation → SaveProfileRoute
  | .list => .list
  | .current => .current
  | .select _ _ => .select
  | .createDisposable _ _ => .createDisposable

structure SaveProfileForwardRequest where
  operationId : String
  context : SaveProfileContext
  route : SaveProfileRoute
  operation : SaveProfileOperation
  body : List UInt8
deriving DecidableEq, Repr

structure SaveProfileForwardResponse where
  operationId : String
  context : SaveProfileContext
  route : SaveProfileRoute
  status : SaveProfileStatus
  body : List UInt8
  profileId : Option SaveProfileId
  baseline : Option ProfileBaseline
  userData : Option UserDataDescriptor
  reason : Option String
deriving DecidableEq, Repr

inductive SaveProfileTransportFault where
  | unavailableBeforeWrite
  | rejectedBeforeWrite
  | timeoutAfterWrite
  | disconnectedAfterWrite
  | malformedResponse
deriving DecidableEq, Repr

structure SaveProfileResult where
  operationId : String
  route : SaveProfileRoute
  status : SaveProfileStatus
  body : List UInt8
  profileId : Option SaveProfileId
  baseline : Option ProfileBaseline
  userData : Option UserDataDescriptor
  guidance : Option RecoveryGuidance
deriving DecidableEq, Repr

structure SaveProfileOperationRecord where
  operationId : String
  request : SaveProfileForwardRequest
  status : SaveProfileStatus
  result : Option SaveProfileResult
deriving DecidableEq, Repr

inductive SaveProfileLedgerError where
  | invalidRequest
  | fence (error : SaveProfileFenceError)
  | activeRun
  | baselineRequired
  | operationConflict
  | operationNotFound
  | operationInProgress
  | duplicateSelection
  | capacityExceeded
  | persistenceFailed
  | transport (fault : SaveProfileTransportFault)
  | responseInvalid
deriving DecidableEq, Repr

/-- An instance, and an operation of it: records are ordered by both. -/
abbrev OperationKey := String ×ₗ String

def SaveProfileOperationRecord.key (record : SaveProfileOperationRecord) : OperationKey :=
  toLex (record.request.context.instanceId, record.operationId)

/-! ### Requests -/

namespace SaveProfileForwardRequest

variable (request : SaveProfileForwardRequest)

def key : OperationKey := toLex (request.context.instanceId, request.operationId)

/-- The record of a request that was just taken on. -/
def accepted : SaveProfileOperationRecord where
  operationId := request.operationId
  request := request
  status := .accepted
  result := none

end SaveProfileForwardRequest

def validateOperation (request : SaveProfileForwardRequest) :
    Except SaveProfileLedgerError Unit :=
  match request.operation with
  | .list | .current => .ok ()
  | .select profileId baseline => do
    let _ ← (SaveProfileId.tryNew profileId.asStr).mapError fun _ => .invalidRequest
    baseline.validate.mapError fun _ => .baselineRequired
  | .createDisposable launchProfile userData => do
    launchProfile.validate.mapError fun _ => .invalidRequest
    userData.validate.mapError fun _ => .invalidRequest
    refuse (launchProfile.profileId ≠ launchProfileId ∨
        launchProfile.contract ≠ launchProfileContract ∨
        launchProfile.userData ≠ userData.identity ∨ userData.baseline.isSome ∨
        userData.provenance.owner ≠ provenanceOwner ∨
        userData.provenance.instanceId ≠ request.context.instanceId ∨
        userData.provenance.operationId ≠ request.operationId ∨
        userData.provenance.contract ≠ launchProfileContract)
      .invalidRequest

def validateRequest (request : SaveProfileForwardRequest) : Except SaveProfileLedgerError Unit := do
  request.context.validate.mapError fun _ => .invalidRequest
  refuse (request.operationId.isEmpty ∨
      saveProfileMaxOperationBytes < request.operationId.utf8ByteSize ∨
      ¬ (SaveProfileId.tryNew request.operationId).isOk)
    .invalidRequest
  refuse (saveProfileMaxBodyBytes < request.body.length ∨
      (request.route.requiresBody ∧ request.body = []) ∨
      (¬ request.route.requiresBody ∧ request.body ≠ []))
    .invalidRequest
  refuse (request.operation.route ≠ request.route) .invalidRequest
  validateOperation request

def sameOperationRequest (left right : SaveProfileForwardRequest) : Bool :=
  left.operationId = right.operationId && left.context.sameFence right.context &&
    left.route = right.route && left.operation = right.operation && left.body = right.body

def selectedId (request : SaveProfileForwardRequest) :
    Except SaveProfileLedgerError SaveProfileId :=
  match request.operation with
  | .select profileId baseline => do
    let _ ← (SaveProfileId.tryNew profileId.asStr).mapError fun _ => .invalidRequest
    baseline.validate.mapError fun _ => .baselineRequired
    return profileId
  | _ => .error .invalidRequest

/-! ### Results -/

/-- A result without a receipt. -/
def bareResult (request : SaveProfileForwardRequest) (status : SaveProfileStatus)
    (guidance : Option RecoveryGuidance) : SaveProfileResult where
  operationId := request.operationId
  route := request.route
  status := status
  body := []
  profileId := none
  baseline := none
  userData := none
  guidance := guidance

def unknownResult (request : SaveProfileForwardRequest) : SaveProfileResult :=
  bareResult request .unknown (RecoveryGuidance.forStatus .unknown)

def acceptedResult (request : SaveProfileForwardRequest) : SaveProfileResult :=
  bareResult request .accepted none

def rejectedResult (request : SaveProfileForwardRequest) (status : SaveProfileStatus) :
    SaveProfileResult :=
  bareResult request status (RecoveryGuidance.forStatus status)

/-- What a settlement must repeat of its request. -/
def validateSettlement (request : SaveProfileForwardRequest)
    (response : SaveProfileForwardResponse) : Except SaveProfileLedgerError Unit :=
  match request.route with
  | .select => do
    let expected ← selectedId request
    refuse (response.profileId ≠ some expected ∨ response.baseline = none) .responseInvalid
  | .createDisposable => do
    let userData ← okOr response.userData .responseInvalid
    match request.operation with
    | .createDisposable _ reserved =>
      refuse (response.baseline = none ∨ userData.identity ≠ reserved.identity ∨
          userData.baseline.isSome ∨ userData.provenance.contract ≠ launchProfileContract ∨
          userData.provenance.owner ≠ provenanceOwner ∨
          userData.provenance.instanceId ≠ request.context.instanceId ∨
          userData.provenance.operationId ≠ request.operationId)
        .responseInvalid
    | _ => .error .responseInvalid
  | .list | .current | .lookup => .ok ()

def validateResponse (request : SaveProfileForwardRequest)
    (response : SaveProfileForwardResponse) : Except SaveProfileLedgerError SaveProfileResult := do
  refuse (response.operationId ≠ request.operationId ∨ response.context ≠ request.context ∨
      response.route ≠ request.route ∨ saveProfileMaxBodyBytes < response.body.length)
    .responseInvalid
  refuse (response.baseline.any (fun baseline => !baseline.validate.isOk) ∨
      response.userData.any (fun descriptor => !descriptor.validate.isOk))
    .responseInvalid
  (if response.status = .settled then validateSettlement request response else .ok ())
  return {
    operationId := response.operationId
    route := response.route
    status := response.status
    body := response.body
    profileId := response.profileId
    baseline := response.baseline
    userData := response.userData
    guidance := RecoveryGuidance.forStatus response.status }

end Sts2Gateway.SaveProfile
