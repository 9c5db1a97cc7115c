/-
The user-data provisioner (`save_profile/provisioning.rs`, `provisioning_types.rs`,
`provisioning_validation.rs`, `provisioning_descriptor.rs`, `provisioning_record.rs`,
`user_data_provenance.rs`, and the checks of `durable_store.rs`).

* `UserDataProvisioningRecord`: one attempt to allocate user data, with its request;
* `UserDataRecordStore`: the stored records, each under the key of its operation;
* `UserDataPorts`, `UserDataEvent`: what the ports and the store answer during a call, and
  the calls that were made of them;
* `Provisioning.validate`, `validateSet`, `validateUpdate`: the checks of the records;
* `UserDataProvisioner.new`, `createDisposable`, `reconcile`: the operations;
* `insertCheck`, `updateCheck`: what the durable store checks before it writes.
-/
import Sts2Gateway.Library.OrderedMap
import Sts2Gateway.SaveProfile.Ledger

namespace Sts2Gateway.SaveProfile

open Procedure
open Std (ExtTreeMap)

/-! ### Types -/

inductive UserDataInspection where
  | absent
  | owned (provenance : UserDataProvenance)
  | unknownContents
  | traversal
  | symlinkEscape
deriving DecidableEq, Repr

inductive UserDataPortError where
  | unknownContents
  | traversal
  | symlinkEscape
  | existingContents
  | unavailable
  | timeoutBeforeWrite
  | timeoutAfterWrite
deriving DecidableEq, Repr

structure UserDataCreateRequest where
  descriptor : UserDataDescriptor
  launchProfile : LaunchProfileBinding
deriving DecidableEq, Repr

inductive UserDataCreateOutcome where
  | created (descriptor : UserDataDescriptor)
  | alreadyCreated (descriptor : UserDataDescriptor)
  | timeoutBeforeWrite
  | timeoutAfterWrite
  | unknown
deriving DecidableEq, Repr

inductive UserDataProvisioningStatus where
  | pending
  | created
  | unknown
  | blocked
  | rejected
deriving DecidableEq, Repr

structure UserDataProvisioningRecord where
  operationId : String
  context : SaveProfileContext
  descriptor : UserDataDescriptor
  launchProfile : LaunchProfileBinding
  status : UserDataProvisioningStatus
  guidance : Option RecoveryGuidance
deriving DecidableEq, Repr

def UserDataProvisioningRecord.key (record : UserDataProvisioningRecord) : OperationKey :=
  toLex (record.context.instanceId, record.operationId)

inductive UserDataProvisioningError where
  | invalidRequest
  | operationConflict
  | capacityExceeded
  | operationNotFound
  | staleContext
  | persistenceFailed
  | port (error : UserDataPortError)
deriving DecidableEq, Repr

structure UserDataProvisioningOutcome where
  operationId : String
  status : UserDataProvisioningStatus
  descriptor : Option UserDataDescriptor
  guidance : Option RecoveryGuidance
deriving DecidableEq, Repr

def maxAllocations : ℕ := 64

inductive UserDataIdentityError where
  | invalid
deriving DecidableEq, Repr

def UserDataIdentity.tryNew (value : ℕ) : Except UserDataIdentityError UserDataIdentity := do
  refuse (value = 0) .invalid
  return ⟨value⟩

/-- An addition of 64-bit numbers that does not overflow. -/
def checkedAdd (value more : ℕ) : Option ℕ :=
  if value + more < 2 ^ 64 then some (value + more) else none

def LaunchProfileBinding.tryNew (profileId : String) (userData : UserDataIdentity) :
    Except LaunchProfileBindingError LaunchProfileBinding := do
  let binding : LaunchProfileBinding :=
    { contract := launchProfileContract
      profileId := profileId
      userData := userData }
  binding.validate
  return binding

/-! ### Records -/

namespace Provisioning

def validateOperationId (operationId : String) : Except UserDataProvisioningError Unit :=
  refuse (operationId.isEmpty ∨ saveProfileMaxOperationBytes < operationId.utf8ByteSize ∨
    ¬ (SaveProfileId.tryNew operationId).isOk) .invalidRequest

def validateRequest (context : SaveProfileContext) (operationId profileId : String) :
    Except UserDataProvisioningError Unit := do
  context.validate.mapError fun _ => .invalidRequest
  validateOperationId operationId
  (do
    let binding ← LaunchProfileBinding.tryNew profileId ⟨1⟩
    binding.validate).mapError fun _ => .invalidRequest

/-- `user_data_provenance::validate`. -/
def validateProvenance (provenance : UserDataProvenance) : Except UserDataPortError Unit := do
  provenance.validate.mapError fun _ => .unknownContents
  refuse (provenance.owner ≠ provenanceOwner ∨ provenance.contract ≠ launchProfileContract)
    .unknownContents

/-- The descriptor that is reserved for an operation. -/
def descriptor (context : SaveProfileContext) (operationId : String)
    (identity : UserDataIdentity) : UserDataDescriptor where
  identity := identity
  provenance :=
    { owner := provenanceOwner
      instanceId := context.instanceId
      operationId := operationId
      contract := launchProfileContract }
  baseline := none

def guidance (reason : String) : RecoveryGuidance where
  code := "save_profile_operator_intervention_required"
  action := reason ++ "; inspect the isolated allocation before retrying"

def unknownGuidance : RecoveryGuidance where
  code := "save_profile_reconcile_required"
  action := "lookup the original allocation operation before retrying"

/-- Why a record may be blocked. -/
def blockedReasons : List String :=
  ["unknown existing contents", "allocation path traversal rejected",
    "allocation symlink escape rejected", "foreign allocation ownership",
    "implicit adoption is refused", "allocation provenance mismatch",
    "implicit overwrite is refused"]

/-- The guidance that a status comes with. -/
def guidanceValid (record : UserDataProvisioningRecord) : Bool :=
  match record.status with
  | .pending | .created | .rejected => record.guidance.isNone
  | .unknown => record.guidance = some unknownGuidance
  | .blocked => blockedReasons.any fun reason => record.guidance = some (guidance reason)

def validate (record : UserDataProvisioningRecord) : Except UserDataProvisioningError Unit := do
  validateRequest record.context record.operationId record.launchProfile.profileId
  refuse (¬ record.descriptor.validate.isOk ∨ ¬ record.launchProfile.validate.isOk ∨
    record.descriptor.identity ≠ record.launchProfile.userData ∨
    maxAllocations < record.descriptor.identity.value ∨
    record.descriptor.provenance.instanceId ≠ record.context.instanceId ∨
    record.descriptor.provenance.operationId ≠ record.operationId ∨
    ¬ (validateProvenance record.descriptor.provenance).isOk) .invalidRequest
  refuse (¬ guidanceValid record) .invalidRequest

/-- One record of a set: the operations and the identities before it are not its own. -/
def validateNext (capacity : ℕ) (seen : List OperationKey × List UserDataIdentity)
    (record : UserDataProvisioningRecord) :
    Except UserDataProvisioningError (List OperationKey × List UserDataIdentity) := do
  (validate record).mapError fun _ => .persistenceFailed
  refuse (capacity < record.descriptor.identity.value) .capacityExceeded
  refuse (record.key ∈ seen.1 ∨ record.descriptor.identity ∈ seen.2) .persistenceFailed
  return (record.key :: seen.1, record.descriptor.identity :: seen.2)

def validateSet (records : List UserDataProvisioningRecord) (capacity : ℕ) :
    Except UserDataProvisioningError Unit := do
  refuse (capacity < records.length) .capacityExceeded
  let _ ← records.foldlM (validateNext capacity) ([], [])

def replayMatches (record : UserDataProvisioningRecord) (context : SaveProfileContext)
    (operationId profileId : String) : Bool :=
  record.context.sameFence context && record.operationId = operationId &&
    record.launchProfile.profileId = profileId && (validate record).isOk

def validateUpdate (previous next : UserDataProvisioningRecord) :
    Except UserDataProvisioningError Unit := do
  validate next
  refuse (previous.context ≠ next.context ∨ previous.operationId ≠ next.operationId ∨
    previous.launchProfile ≠ next.launchProfile ∨
    previous.descriptor.identity ≠ next.descriptor.identity ∨
    previous.descriptor.provenance ≠ next.descriptor.provenance ∨
    (previous.descriptor.baseline.isSome ∧
      previous.descriptor.baseline ≠ next.descriptor.baseline) ∨
    (next.status = .pending ∧ previous ≠ next) ∨
    (previous.status = .blocked ∧ previous ≠ next)) .operationConflict

def updateRecord (record : UserDataProvisioningRecord) (status : UserDataProvisioningStatus)
    (descriptor : Option UserDataDescriptor) (guidance : Option RecoveryGuidance) :
    UserDataProvisioningRecord :=
  { record with
    descriptor := descriptor.getD record.descriptor
    status := status
    guidance := guidance }

def outcome (record : UserDataProvisioningRecord) : UserDataProvisioningOutcome where
  operationId := record.operationId
  status := record.status
  descriptor := if record.status = .created then some record.descriptor else none
  guidance := record.guidance

end Provisioning

/-! ### The store and the ports -/

abbrev UserDataRecords := ExtTreeMap OperationKey UserDataProvisioningRecord compare

/-- The stored records: both stores keep each one under the key of its operation. -/
structure UserDataRecordStore where
  records : UserDataRecords
  keyed : ∀ (key : OperationKey) (record : UserDataProvisioningRecord),
    records[key]? = some record → record.key = key

namespace UserDataRecordStore

variable (store : UserDataRecordStore)

/-- The records in the order of their keys. -/
def list : List UserDataProvisioningRecord := store.records.toList.map Prod.snd

/-- A record that was inserted or updated. -/
def put (record : UserDataProvisioningRecord) : UserDataRecordStore where
  records := store.records.insert record.key record
  keyed key found h := by
    rw [OrderedMap.getElem?_insert_if] at h
    split_ifs at h with hkey
    · rw [← Option.some.inj h]
      exact hkey
    · exact store.keyed key found h

/-- What the durable store checks before it inserts a record. -/
def insertCheck (record : UserDataProvisioningRecord) : Except UserDataProvisioningError Unit := do
  Provisioning.validate record
  refuse (record.status ≠ .pending) .invalidRequest
  Provisioning.validateSet store.list maxAllocations
  refuse (store.list.any fun old => old.descriptor.identity = record.descriptor.identity ||
    old.key = record.key) .operationConflict
  refuse (maxAllocations ≤ store.list.length) .capacityExceeded

/-- What the durable store checks before it updates a record. -/
def updateCheck (record : UserDataProvisioningRecord) : Except UserDataProvisioningError Unit := do
  Provisioning.validate record
  Provisioning.validateSet store.list maxAllocations
  let previous ← okOr (store.list.find? fun old => old.key = record.key) .operationNotFound
  Provisioning.validateUpdate previous record

end UserDataRecordStore

/-- The outside of one call: what the ports answer, and the errors of the store's calls that
fail and change nothing. -/
structure UserDataPorts where
  inspect : UserDataIdentity → Except UserDataPortError UserDataInspection
  create : UserDataCreateRequest → Except UserDataPortError UserDataCreateOutcome
  bindDisposable : UserDataIdentity → Except LaunchProfileBindingError LaunchProfileBinding
  insertFault : UserDataProvisioningRecord → Option UserDataProvisioningError
  updateFault : UserDataProvisioningRecord → Option UserDataProvisioningError

/-- A call of a port or of the store, with its answer; a write comes with the store before
it. -/
inductive UserDataEvent where
  | inspected (identity : UserDataIdentity)
      (answer : Except UserDataPortError UserDataInspection)
  | created (request : UserDataCreateRequest)
      (answer : Except UserDataPortError UserDataCreateOutcome)
  | bound (identity : UserDataIdentity)
      (answer : Except LaunchProfileBindingError LaunchProfileBinding)
  | inserted (before : UserDataRecordStore) (record : UserDataProvisioningRecord)
      (fault : Option UserDataProvisioningError)
  | updated (before : UserDataRecordStore) (record : UserDataProvisioningRecord)
      (fault : Option UserDataProvisioningError)

/-! ### The provisioner -/

structure UserDataProvisioner where
  capacity : ℕ
  nextIdentity : ℕ
  store : UserDataRecordStore
  records : UserDataRecords

/-- The answer of a call, the provisioner after it, and the calls that it made. -/
structure ProvisioningReply where
  answer : Except UserDataProvisioningError UserDataProvisioningOutcome
  after : UserDataProvisioner
  events : List UserDataEvent

/-- A reply after further calls. -/
def ProvisioningReply.prepend (reply : ProvisioningReply) (events : List UserDataEvent) :
    ProvisioningReply :=
  { reply with events := events ++ reply.events }

namespace UserDataProvisioner

open Provisioning

/-- The largest stored identity. -/
def largestIdentity (persisted : List UserDataProvisioningRecord) : ℕ :=
  (persisted.map fun record => record.descriptor.identity.value).foldl max 0

/-- The listed records under their keys. -/
def collectRecords (persisted : List UserDataProvisioningRecord) : UserDataRecords :=
  persisted.foldl (fun records record => records.insert record.key record) ∅

def new (capacity : ℕ) (store : UserDataRecordStore)
    (listFault : Option UserDataProvisioningError) :
    Except UserDataProvisioningError UserDataProvisioner := do
  refuse (capacity = 0 ∨ maxAllocations < capacity) .capacityExceeded
  let persisted ← listFault.elim (.ok store.list) .error
  validateSet persisted capacity
  let nextIdentity ← okOr (checkedAdd (largestIdentity persisted) 1) .capacityExceeded
  return {
    capacity, nextIdentity, store
    records := collectRecords persisted }

variable (provisioner : UserDataProvisioner) (ports : UserDataPorts)

/-- An answer that changes nothing. -/
def stay (answer : Except UserDataProvisioningError UserDataProvisioningOutcome) :
    ProvisioningReply := ⟨answer, provisioner, []⟩

/-- A changed record is stored before it is kept. -/
def persist (key : OperationKey) (updated : UserDataProvisioningRecord) : ProvisioningReply :=
  match ports.updateFault updated with
  | some e => ⟨.error e, provisioner, [.updated provisioner.store updated (some e)]⟩
  | none =>
    ⟨.ok (outcome updated),
      { provisioner with
        store := provisioner.store.put updated
        records := provisioner.records.insert key updated },
      [.updated provisioner.store updated none]⟩

def finish (key : OperationKey) (status : UserDataProvisioningStatus)
    (descriptor : Option UserDataDescriptor) (guidance : Option RecoveryGuidance) :
    ProvisioningReply :=
  match provisioner.records[key]? with
  | none => provisioner.stay (.error .operationNotFound)
  | some record => provisioner.persist ports key (updateRecord record status descriptor guidance)

def finishPortError (key : OperationKey) (error : UserDataPortError) : ProvisioningReply :=
  let (status, guidance) := match error with
    | .unknownContents => (.blocked, some (guidance "unknown existing contents"))
    | .traversal => (.blocked, some (guidance "allocation path traversal rejected"))
    | .symlinkEscape => (.blocked, some (guidance "allocation symlink escape rejected"))
    | .existingContents => (.blocked, some (guidance "implicit overwrite is refused"))
    | .timeoutBeforeWrite | .timeoutAfterWrite =>
      (UserDataProvisioningStatus.unknown, some unknownGuidance)
    | .unavailable => (.rejected, none)
  provisioner.finish ports key status none guidance

/-- What the inspection of a reserved identity blocks, unless nothing is there. -/
def reservedBlock : UserDataInspection → Option RecoveryGuidance
  | .absent => none
  | .unknownContents => some (guidance "unknown existing contents")
  | .traversal => some (guidance "allocation path traversal rejected")
  | .symlinkEscape => some (guidance "allocation symlink escape rejected")
  | .owned _ => some (guidance "implicit adoption is refused")

/-- The end of a creation that the port answered. -/
def finishCreate (key : OperationKey) (descriptor : UserDataDescriptor)
    (created : UserDataCreateOutcome) : ProvisioningReply :=
  match created with
  | .created value | .alreadyCreated value =>
    if value.identity ≠ descriptor.identity ∨ value.provenance ≠ descriptor.provenance ∨
        ¬ value.validate.isOk then
      provisioner.finish ports key .blocked none (some (guidance "allocation provenance mismatch"))
    else provisioner.finish ports key .created (some value) none
  | .timeoutBeforeWrite | .timeoutAfterWrite | .unknown =>
    provisioner.finish ports key .unknown none (some unknownGuidance)

/-- The creation of an identity under which nothing is. -/
def createAbsent (key : OperationKey) (request : UserDataCreateRequest) : ProvisioningReply :=
  let reply := match ports.create request with
    | .ok created => provisioner.finishCreate ports key request.descriptor created
    | .error .timeoutBeforeWrite | .error .timeoutAfterWrite =>
      provisioner.finishCreate ports key request.descriptor .unknown
    | .error error => provisioner.finishPortError ports key error
  reply.prepend [.created request (ports.create request)]

def createReserved (key : OperationKey) (launchProfile : LaunchProfileBinding)
    (descriptor : UserDataDescriptor) : ProvisioningReply :=
  let identity := descriptor.identity
  let reply := match ports.inspect identity with
    | .error error => provisioner.finishPortError ports key error
    | .ok inspected =>
      match reservedBlock inspected with
      | some guidance => provisioner.finish ports key .blocked none (some guidance)
      | none => provisioner.createAbsent ports key ⟨descriptor, launchProfile⟩
  reply.prepend [.inspected identity (ports.inspect identity)]

/-- What the inspection of a recorded identity says of its record. -/
def reconciled (record : UserDataProvisioningRecord) :
    UserDataInspection →
      UserDataProvisioningStatus × Option UserDataDescriptor × Option RecoveryGuidance
  | .owned provenance =>
    if provenance = record.descriptor.provenance then (.created, some record.descriptor, none)
    else (.blocked, none, some (guidance "foreign allocation ownership"))
  | .absent => (.unknown, none, some unknownGuidance)
  | .unknownContents => (.blocked, none, some (guidance "unknown existing contents"))
  | .traversal => (.blocked, none, some (guidance "allocation path traversal rejected"))
  | .symlinkEscape => (.blocked, none, some (guidance "allocation symlink escape rejected"))

/-- The record that a reconciliation is about. -/
def reconcilable (context : SaveProfileContext) (operationId : String) :
    Except UserDataProvisioningError UserDataProvisioningRecord := do
  context.validate.mapError fun _ => .invalidRequest
  validateOperationId operationId
  let record ← okOr provisioner.records[(toLex (context.instanceId, operationId) : OperationKey)]?
    .operationNotFound
  refuse (¬ record.context.sameFence context) .staleContext
  return record

def reconcile (context : SaveProfileContext) (operationId : String) : ProvisioningReply :=
  match provisioner.reconcilable context operationId with
  | .error e => provisioner.stay (.error e)
  | .ok record =>
    let key : OperationKey := toLex (context.instanceId, operationId)
    if record.status = .blocked then provisioner.stay (.ok (outcome record))
    else
      let identity := record.descriptor.identity
      let reply := match ports.inspect identity with
        | .error .unavailable =>
          provisioner.finish ports key .unknown none (some unknownGuidance)
        | .error error => provisioner.finishPortError ports key error
        | .ok inspected =>
          let (status, descriptor, guidance) := reconciled record inspected
          provisioner.persist ports key (updateRecord record status descriptor guidance)
      reply.prepend [.inspected identity (ports.inspect identity)]

/-- A reserved identity is bound and stored before it is created. -/
def createBound (key : OperationKey) (context : SaveProfileContext)
    (operationId profileId : String) (identity : UserDataIdentity) : ProvisioningReply :=
  let descriptor := descriptor context operationId identity
  let reply := match ports.bindDisposable identity with
    | .error _ => provisioner.stay (.error (.port .unavailable))
    | .ok launchProfile =>
      if ¬ launchProfile.validate.isOk ∨ launchProfile.userData ≠ identity ∨
          launchProfile.profileId ≠ profileId then
        provisioner.stay (.error .invalidRequest)
      else
        let pending : UserDataProvisioningRecord :=
          { operationId := operationId
            context := context
            descriptor := descriptor
            launchProfile := launchProfile
            status := .pending
            guidance := none }
        let reply := match ports.insertFault pending with
          | some e => provisioner.stay (.error e)
          | none =>
            let stored : UserDataProvisioner :=
              { provisioner with
                store := provisioner.store.put pending
                records := provisioner.records.insert key pending }
            stored.createReserved ports key launchProfile descriptor
        reply.prepend [.inserted provisioner.store pending (ports.insertFault pending)]
  reply.prepend [.bound identity (ports.bindDisposable identity)]

/-- An operation that is not recorded yet takes the next identity. -/
def createFresh (key : OperationKey) (context : SaveProfileContext)
    (operationId profileId : String) : ProvisioningReply :=
  if provisioner.capacity ≤ provisioner.records.size ∨
      provisioner.capacity < provisioner.nextIdentity then
    provisioner.stay (.error .capacityExceeded)
  else
    match UserDataIdentity.tryNew provisioner.nextIdentity,
        checkedAdd provisioner.nextIdentity 1 with
    | .ok identity, some nextIdentity =>
      createBound { provisioner with nextIdentity } ports key context operationId profileId identity
    | _, _ => provisioner.stay (.error .capacityExceeded)

def createDisposable (context : SaveProfileContext) (operationId profileId : String) :
    ProvisioningReply :=
  match Provisioning.validateRequest context operationId profileId with
  | .error e => provisioner.stay (.error e)
  | .ok () =>
    let key : OperationKey := toLex (context.instanceId, operationId)
    match provisioner.records[key]? with
    | some existing =>
      if ¬ replayMatches existing context operationId profileId then
        provisioner.stay (.error .operationConflict)
      else if existing.status = .created then provisioner.reconcile ports context operationId
      else provisioner.stay (.ok (outcome existing))
    | none => provisioner.createFresh ports key context operationId profileId

end UserDataProvisioner

/-! ### Runs -/

/-- A store, and the provisioner that works on it. -/
inductive ProvisioningSystem where
  | stopped (store : UserDataRecordStore)
  | running (provisioner : UserDataProvisioner)

namespace ProvisioningSystem

def store : ProvisioningSystem → UserDataRecordStore
  | .stopped store => store
  | .running provisioner => provisioner.store

/-- A call of a provisioner, or a new provisioner over the same store. -/
inductive Input where
  | restart (capacity : ℕ) (listFault : Option UserDataProvisioningError)
  | createDisposable (ports : UserDataPorts) (context : SaveProfileContext)
      (operationId profileId : String)
  | reconcile (ports : UserDataPorts) (context : SaveProfileContext) (operationId : String)

/-- What comes of an input: the answer of a call, or the error of a restart. -/
inductive Answer where
  | restarted (error : Option UserDataProvisioningError)
  | replied (answer : Except UserDataProvisioningError UserDataProvisioningOutcome)
  | down
deriving DecidableEq

structure Turn where
  answer : Answer
  system : ProvisioningSystem
  events : List UserDataEvent

def ofReply (reply : ProvisioningReply) : Turn :=
  ⟨.replied reply.answer, .running reply.after, reply.events⟩

def turn (system : ProvisioningSystem) : Input → Turn
  | .restart capacity listFault =>
    match UserDataProvisioner.new capacity system.store listFault with
    | .ok provisioner => ⟨.restarted none, .running provisioner, []⟩
    | .error e => ⟨.restarted (some e), .stopped system.store, []⟩
  | .createDisposable ports context operationId profileId =>
    match system with
    | .running provisioner =>
      ofReply (provisioner.createDisposable ports context operationId profileId)
    | .stopped store => ⟨.down, .stopped store, []⟩
  | .reconcile ports context operationId =>
    match system with
    | .running provisioner => ofReply (provisioner.reconcile ports context operationId)
    | .stopped store => ⟨.down, .stopped store, []⟩

/-- The turns of a run. -/
def turns : ProvisioningSystem → List Input → List Turn
  | _, [] => []
  | system, input :: inputs => system.turn input :: turns (system.turn input).system inputs

/-- The system after a run. -/
def run (system : ProvisioningSystem) (inputs : List Input) : ProvisioningSystem :=
  inputs.foldl (fun system input => (system.turn input).system) system

/-- The calls of the ports and of the store in a run. -/
def events (system : ProvisioningSystem) (inputs : List Input) : List UserDataEvent :=
  (system.turns inputs).flatMap Turn.events

end ProvisioningSystem

end Sts2Gateway.SaveProfile
