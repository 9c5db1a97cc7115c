/-
The journal of save-profile operations (`save_profile/operation_record.rs`,
`operation_store.rs`).

* `RecordCodec`, `encode`, `decode`: records as bytes, over a serializer of their stored
  form that reads back what it wrote;
* `SaveProfileOperationRecord.validate`, `validateUpdate`: what may be written;
* `readRecords`: the rows read back, the newest first;
* `SqliteSaveProfileOperationStore`: the rows of the journal, and the port over them;
* `decode_encode`: **what is written is read back**.

The schema check and the token of the handle that owns the journal are left out: with one
handle at a time they hold.
-/
import Sts2Gateway.SaveProfile.Ledger

namespace Sts2Gateway.SaveProfile

open Procedure

def maxRecordBytes : ℕ := 160 * 1024

/-- Maximum persisted forwarded-operation records in one journal. -/
def saveProfileOperationCapacity : ℕ := 256

/-! ### Records as bytes -/

/-- The private persistence representation of a record. -/
structure Stored where
  version : ℕ
  operationId : String
  request : SaveProfileForwardRequest
  status : SaveProfileStatus
  result : Option SaveProfileResult
deriving DecidableEq, Repr

/-- The serializer of stored records, which reads back what it wrote. -/
structure RecordCodec where
  toVec : Stored → Option (List UInt8)
  fromSlice : List UInt8 → Option Stored
  fromSlice_toVec : ∀ stored bytes, toVec stored = some bytes → fromSlice bytes = some stored

namespace SaveProfileOperationRecord

variable (record : SaveProfileOperationRecord)

def stored : Stored where
  version := 1
  operationId := record.operationId
  request := record.request
  status := record.status
  result := record.result

/-- The receipt that would have left the result. -/
def receipt (result : SaveProfileResult) : SaveProfileForwardResponse where
  operationId := result.operationId
  context := record.request.context
  route := result.route
  status := result.status
  body := result.body
  profileId := result.profileId
  baseline := result.baseline
  userData := result.userData
  reason := none

def validate : Except SaveProfileLedgerError Unit := do
  validateRequest record.request
  refuse (record.operationId ≠ record.request.operationId) .invalidRequest
  match record.result with
  | none => refuse (record.status ≠ .accepted) .invalidRequest
  | some result => do
    refuse (result.status ≠ record.status ∨
        result.guidance ≠ RecoveryGuidance.forStatus record.status ∨
        result.profileId.any fun id => !(SaveProfileId.tryNew id.asStr).isOk)
      .responseInvalid
    let _ ← validateResponse record.request (record.receipt result)

end SaveProfileOperationRecord

namespace RecordCodec

variable (codec : RecordCodec)

def encode (record : SaveProfileOperationRecord) :
    Except SaveProfileLedgerError (List UInt8) := do
  record.validate
  let bytes ← okOr (codec.toVec record.stored) .persistenceFailed
  refuse (maxRecordBytes < bytes.length) .capacityExceeded
  return bytes

def decode (bytes : List UInt8) :
    Except SaveProfileLedgerError SaveProfileOperationRecord := do
  refuse (maxRecordBytes < bytes.length) .persistenceFailed
  let stored ← okOr (codec.fromSlice bytes) .persistenceFailed
  refuse (stored.version ≠ 1) .persistenceFailed
  let record : SaveProfileOperationRecord :=
    { operationId := stored.operationId
      request := stored.request
      status := stored.status
      result := stored.result }
  -- the exact bytes of the writer: no duplicate field and no other spelling
  let written ← codec.encode record
  refuse (written ≠ bytes) .persistenceFailed
  return record

variable {codec} {record : SaveProfileOperationRecord} {bytes : List UInt8}

lemma encode_eq_ok (h : codec.encode record = .ok bytes) :
    record.validate = .ok () ∧ codec.toVec record.stored = some bytes ∧
      bytes.length ≤ maxRecordBytes := by
  rw [encode] at h
  obtain ⟨_, hvalid, h⟩ := except_bind_eq_ok.mp h
  obtain ⟨written, hwritten, h⟩ := except_bind_eq_ok.mp h
  obtain ⟨_, hlength, h⟩ := except_bind_eq_ok.mp h
  obtain rfl := Except.ok.inj h
  exact ⟨hvalid, okOr_eq_ok.mp hwritten, not_lt.mp (refuse_eq_ok.mp hlength)⟩

/-- **What is written is read back.** -/
theorem decode_encode (h : codec.encode record = .ok bytes) : codec.decode bytes = .ok record := by
  obtain ⟨-, hwritten, hlength⟩ := encode_eq_ok h
  have hstored := codec.fromSlice_toVec _ _ hwritten
  simp only [decode, except_bind_eq_ok, refuse_eq_ok, okOr_eq_ok]
  refine ⟨(), not_lt.mpr hlength, record.stored, hstored, (), ?_, bytes, h, (), ?_, rfl⟩
  · exact not_not.mpr rfl
  · exact not_not.mpr rfl

end RecordCodec

def validateUpdate (previous next : SaveProfileOperationRecord) :
    Except SaveProfileLedgerError Unit :=
  refuse (¬ sameOperationRequest previous.request next.request ∨
      previous.request.context ≠ next.request.context ∨
      (¬ previous.status.isUnresolved ∧ previous ≠ next) ∨ next.result = none)
    .operationConflict

/-! ### The journal -/

structure OperationRow where
  instanceId : String
  operationId : String
  body : List UInt8
deriving DecidableEq, Repr

def OperationRow.key (row : OperationRow) : OperationKey := toLex (row.instanceId, row.operationId)

/-- The journal's rows in the order of their sequence, which counts up. -/
structure SqliteSaveProfileOperationStore (codec : RecordCodec) where
  rows : List OperationRow

/-- The rows behind the records that were already read. -/
def readRows (codec : RecordCodec) (records : List SaveProfileOperationRecord) :
    List OperationRow → Except SaveProfileLedgerError (List SaveProfileOperationRecord)
  | [] => .ok records
  | row :: rows => do
    refuse (maxRecordBytes < row.body.length ∨
        ¬ (1 ≤ row.instanceId.length ∧ row.instanceId.length ≤ 128) ∨
        ¬ (1 ≤ row.operationId.length ∧ row.operationId.length ≤ 128))
      .persistenceFailed
    let record ← codec.decode row.body
    refuse (row.instanceId ≠ record.request.context.instanceId ∨
        row.operationId ≠ record.operationId)
      .persistenceFailed
    refuse (records.head?.any fun first =>
        first.request.context.instanceId ≠ record.request.context.instanceId)
      .persistenceFailed
    readRows codec (records ++ [record]) rows

/-- `ORDER BY sequence DESC`. -/
def readRecords (codec : RecordCodec) (rows : List OperationRow) :
    Except SaveProfileLedgerError (List SaveProfileOperationRecord) := do
  refuse (saveProfileOperationCapacity < rows.length) .capacityExceeded
  readRows codec [] rows.reverse

namespace SqliteSaveProfileOperationStore

variable {codec : RecordCodec} (store : SqliteSaveProfileOperationStore codec)

/-- A journal that was just created. -/
def created (codec : RecordCodec) : SqliteSaveProfileOperationStore codec := ⟨[]⟩

def list : Except SaveProfileLedgerError (List SaveProfileOperationRecord) :=
  readRecords codec store.rows

def insert (record : SaveProfileOperationRecord) :
    Except SaveProfileLedgerError (SqliteSaveProfileOperationStore codec) := do
  let body ← codec.encode record
  refuse (record.status ≠ .accepted ∨ record.result.isSome) .invalidRequest
  let records ← readRecords codec store.rows
  refuse (records.any fun old =>
      old.request.context.instanceId ≠ record.request.context.instanceId)
    .operationConflict
  refuse (records.any fun old => old.operationId = record.operationId &&
      old.request.context.instanceId = record.request.context.instanceId)
    .operationConflict
  refuse (saveProfileOperationCapacity ≤ records.length) .capacityExceeded
  return ⟨store.rows ++
    [{ instanceId := record.request.context.instanceId, operationId := record.operationId, body }]⟩

def update (record : SaveProfileOperationRecord) :
    Except SaveProfileLedgerError (SqliteSaveProfileOperationStore codec) := do
  let body ← codec.encode record
  let records ← readRecords codec store.rows
  let previous ← okOr
    (records.find? fun old => old.operationId = record.operationId &&
      old.request.context.instanceId = record.request.context.instanceId)
    .operationNotFound
  validateUpdate previous record
  return ⟨store.rows.map fun row =>
    if row.instanceId = record.request.context.instanceId ∧ row.operationId = record.operationId
    then { row with body } else row⟩

instance : SaveProfileRecordStore (SqliteSaveProfileOperationStore codec) where
  list := list
  insert := insert
  update := update

end SqliteSaveProfileOperationStore

end Sts2Gateway.SaveProfile
