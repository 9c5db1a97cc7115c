/-
The bodies of durable lifecycle rows: JSON text, as the derived serializers of
the retained types write it.

* `LifecycleOperation.encode`, `LifecycleOwnership.encode`: the bytes of a body;
* `operation_toJson_injective`, `ownership_toJson_injective`: **a body determines
  what was written**;
* `BodyReader`: a reader of bodies that reads back what was written;
* `bodyReader`: there is one.
-/
import Sts2Gateway.Library.Json
import Sts2Gateway.Lifecycle.Contract

namespace Sts2Gateway.Lifecycle

open CompactJson
open ControlPlane (LeaseProof LifecycleState ProcessFault StopMode)

/-! ### Serialized values -/

/-- A variant with data: an object with the variant's name as its only member. -/
def variant (name : String) (content : Json) : Json := .obj [(name, content)]

def leaseToJson (lease : LeaseProof) : Json :=
  .obj [("instance_id", .num lease.instanceId), ("caller_id", .num lease.callerId),
    ("session_id", .num lease.sessionId), ("lease_id", .num lease.leaseId),
    ("epoch", .num lease.epoch)]

def processFaultName : ProcessFault → String
  | .unavailable => "Unavailable"
  | .startRejected => "StartRejected"
  | .inspectionFailed => "InspectionFailed"
  | .stopFailed => "StopFailed"
  | .stopTimedOut => "StopTimedOut"
  | .profileRequired => "ProfileRequired"
  | .profileNotApproved => "ProfileNotApproved"
  | .identityMismatch => "IdentityMismatch"
  | .descendantOutOfScope => "DescendantOutOfScope"

def lifecycleStateName : LifecycleState → String
  | .created => "Created"
  | .starting => "Starting"
  | .ready => "Ready"
  | .busy => "Busy"
  | .degraded => "Degraded"
  | .stopping => "Stopping"
  | .stopped => "Stopped"
  | .failed => "Failed"
  | .unknown => "Unknown"
  | .expired => "Expired"

def stopModeName : StopMode → String
  | .graceful => "Graceful"
  | .force => "Force"

def LifecycleOperationState.name : LifecycleOperationState → String
  | .intentRecorded => "IntentRecorded"
  | .starting => "Starting"
  | .started => "Started"
  | .attached => "Attached"
  | .stopping => "Stopping"
  | .restarting => "Restarting"
  | .stopped => "Stopped"
  | .failed => "Failed"
  | .blocked => "Blocked"
  | .rejected => "Rejected"
  | .unknown => "Unknown"

def ExecutableIdentity.toJson (executable : ExecutableIdentity) : Json :=
  .obj [("install_id", .num executable.installId), ("executable_id", .num executable.executableId),
    ("image_id", .num executable.imageId)]

def UserDataConfig.toJson (userData : UserDataConfig) : Json :=
  .obj [("namespace_id", .num userData.namespaceId)]

def ProcessIdentity.toJson (identity : ProcessIdentity) : Json :=
  .obj [("instance_id", .num identity.instanceId), ("process", .num identity.process),
    ("pid", .num identity.pid), ("birth_id", .num identity.birthId),
    ("executable", nullable ExecutableIdentity.toJson identity.executable),
    ("user_data", nullable UserDataConfig.toJson identity.userData)]

def LifecycleAction.toJson : LifecycleAction → Json
  | .launchNew profileId => variant "LaunchNew" (.obj [("profile_id", .num profileId)])
  | .attachExisting identity => variant "AttachExisting" (.obj [("identity", identity.toJson)])
  | .stop mode => variant "Stop" (.obj [("mode", .str (stopModeName mode))])
  | .restart profileId => variant "Restart" (.obj [("profile_id", .num profileId)])

def LifecycleFailure.toJson : LifecycleFailure → Json
  | .capacityExceeded => .str "CapacityExceeded"
  | .instanceBusy => .str "InstanceBusy"
  | .unownedAttach => .str "UnownedAttach"
  | .identityMismatch => .str "IdentityMismatch"
  | .foreignDescendant => .str "ForeignDescendant"
  | .process fault => variant "Process" (.str (processFaultName fault))
  | .staleAuthorityEpoch => .str "StaleAuthorityEpoch"
  | .store => .str "Store"
  | .invalidState state => variant "InvalidState" (.str (lifecycleStateName state))

def LifecycleOperation.toJson (operation : LifecycleOperation) : Json :=
  .obj [("operation_id", .num operation.operationId), ("instance_id", .num operation.instanceId),
    ("lease", leaseToJson operation.lease), ("sequence", .num operation.sequence),
    ("request_epoch", .num operation.requestEpoch),
    ("authority_epoch", .num operation.authorityEpoch), ("action", operation.action.toJson),
    ("state", .str operation.state.name), ("process", nullable ProcessIdentity.toJson operation.process),
    ("failure", nullable LifecycleFailure.toJson operation.failure)]

def LifecycleOwnership.toJson (ownership : LifecycleOwnership) : Json :=
  .obj [("instance_id", .num ownership.instanceId), ("operation_id", .num ownership.operationId),
    ("sequence", .num ownership.sequence), ("profile_id", .num ownership.profileId),
    ("process", nullable ProcessIdentity.toJson ownership.process)]

/-! ### A body determines what was written -/

lemma lease_toJson_injective : Function.Injective leaseToJson := by
  rintro ⟨⟩ ⟨⟩ h
  simpa [leaseToJson] using h

lemma executable_toJson_injective : Function.Injective ExecutableIdentity.toJson := by
  rintro ⟨⟩ ⟨⟩ h
  simpa [ExecutableIdentity.toJson] using h

lemma userData_toJson_injective : Function.Injective UserDataConfig.toJson := by
  rintro ⟨⟩ ⟨⟩ h
  simpa [UserDataConfig.toJson] using h

lemma identity_toJson_injective : Function.Injective ProcessIdentity.toJson := by
  have hexecutable := nullable_injective executable_toJson_injective (fun _ h => by cases h)
  have huserData := nullable_injective userData_toJson_injective (fun _ h => by cases h)
  rintro ⟨⟩ ⟨⟩ h
  simpa [ProcessIdentity.toJson, hexecutable.eq_iff, huserData.eq_iff] using h

lemma stopModeName_injective : Function.Injective stopModeName := by
  intro a b h
  cases a <;> cases b <;> first | rfl | simp [stopModeName] at h

lemma processFaultName_injective : Function.Injective processFaultName := by
  intro a b h
  cases a <;> cases b <;> first | rfl | simp [processFaultName] at h

lemma lifecycleStateName_injective : Function.Injective lifecycleStateName := by
  intro a b h
  cases a <;> cases b <;> first | rfl | simp [lifecycleStateName] at h

lemma operationStateName_injective : Function.Injective LifecycleOperationState.name := by
  intro a b h
  cases a <;> cases b <;> first | rfl | simp [LifecycleOperationState.name] at h

lemma action_toJson_injective : Function.Injective LifecycleAction.toJson := by
  rintro (_ | _ | _ | _) (_ | _ | _ | _) h <;>
    simp [LifecycleAction.toJson, variant, identity_toJson_injective.eq_iff,
      stopModeName_injective.eq_iff] at h ⊢ <;> exact h

lemma failure_toJson_injective : Function.Injective LifecycleFailure.toJson := by
  rintro (_ | _ | _ | _ | _ | _ | _ | _ | _) (_ | _ | _ | _ | _ | _ | _ | _ | _) h <;>
    simp [LifecycleFailure.toJson, variant, processFaultName_injective.eq_iff,
      lifecycleStateName_injective.eq_iff] at h ⊢ <;> exact h

theorem operation_toJson_injective : Function.Injective LifecycleOperation.toJson := by
  have hprocess := nullable_injective identity_toJson_injective (fun _ h => by cases h)
  have hfailure := nullable_injective failure_toJson_injective (fun f h => by cases f <;> cases h)
  rintro ⟨⟩ ⟨⟩ h
  simpa [LifecycleOperation.toJson, lease_toJson_injective.eq_iff, action_toJson_injective.eq_iff,
    operationStateName_injective.eq_iff, hprocess.eq_iff, hfailure.eq_iff] using h

theorem ownership_toJson_injective : Function.Injective LifecycleOwnership.toJson := by
  have hprocess := nullable_injective identity_toJson_injective (fun _ h => by cases h)
  rintro ⟨⟩ ⟨⟩ h
  simpa [LifecycleOwnership.toJson, hprocess.eq_iff] using h

/-! ### Bodies -/

/-- `encode`: serializing these types fails on no value. -/
def LifecycleOperation.encode (operation : LifecycleOperation) : ByteArray := operation.toJson.toBytes

/-- `encode_ownership`. -/
def LifecycleOwnership.encode (ownership : LifecycleOwnership) : ByteArray :=
  ownership.toJson.toBytes

/-- The reader of bodies, which is not part of the repository: it reads back what
the writer wrote. -/
structure BodyReader where
  decode : ByteArray → Except LifecycleStoreError LifecycleOperation
  decodeOwnership : ByteArray → Except LifecycleStoreError LifecycleOwnership
  decode_encode : ∀ operation, decode operation.encode = .ok operation
  decodeOwnership_encode : ∀ ownership, decodeOwnership ownership.encode = .ok ownership

attribute [simp] BodyReader.decode_encode BodyReader.decodeOwnership_encode

/-- What an injective writer wrote, and an error on other bytes. -/
noncomputable def readBack {α : Type} (write : α → ByteArray) (bytes : ByteArray) :
    Except LifecycleStoreError α :=
  open Classical in if h : ∃ a, write a = bytes then .ok h.choose else .error .serialization

lemma readBack_write {α : Type} {write : α → ByteArray} (h : Function.Injective write) (a : α) :
    readBack write (write a) = .ok a := by
  have hex : ∃ b, write b = write a := ⟨a, rfl⟩
  rw [readBack, dif_pos hex, h hex.choose_spec]

/-- A reader that accepts the written bodies and nothing else. -/
noncomputable def bodyReader : BodyReader where
  decode := readBack LifecycleOperation.encode
  decodeOwnership := readBack LifecycleOwnership.encode
  decode_encode :=
    readBack_write fun _ _ h => operation_toJson_injective (toBytes_inj h)
  decodeOwnership_encode :=
    readBack_write fun _ _ h => ownership_toJson_injective (toBytes_inj h)

end Sts2Gateway.Lifecycle
