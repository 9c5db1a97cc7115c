/-
The columns of live and archived operations (`recovery_store_sql.rs`,
`recovery_store_operation_persistence.rs`, `recovery_store_archive.rs`).

The tables of the model hold operations; those of the store hold rows of text and
numbers, and an archived operation is a copy of its row, read by another statement.

* `operationColumns`, `archiveColumns`, `operationParams`, `rowOperation`: how an
  operation is written and read;
* `archiveRow`, `select_archiveRow`: **the archived row repeats the live one**, column
  by column, whatever the live row holds;
* `rowOperation_operationParams`, `rowOperation_archiveRow`: an operation whose
  numbers fit their columns is read back, from either table.
-/
import Mathlib.Tactic
import Sts2Gateway.Library.Columns
import Sts2Gateway.Recovery.Contract

namespace Sts2Gateway.Recovery

open Columns

/-! ### Text columns -/

def RecoveryOperationState.asStr : RecoveryOperationState → String
  | .intentRecorded => "INTENT_RECORDED"
  | .mayHaveBeenDispatched => "MAY_HAVE_BEEN_DISPATCHED"
  | .accepted => "ACCEPTED"
  | .settled => "SETTLED"
  | .rejected => "REJECTED"
  | .unknown => "UNKNOWN"
  | .reconciled => "RECONCILED"

def RecoveryOperationState.parse : String → Option RecoveryOperationState
  | "INTENT_RECORDED" => some .intentRecorded
  | "MAY_HAVE_BEEN_DISPATCHED" => some .mayHaveBeenDispatched
  | "ACCEPTED" => some .accepted
  | "SETTLED" => some .settled
  | "REJECTED" => some .rejected
  | "UNKNOWN" => some .unknown
  | "RECONCILED" => some .reconciled
  | _ => none

def RecoveryUncertaintyReason.asStr : RecoveryUncertaintyReason → String
  | .transportLost => "transport_lost"
  | .timeout => "timeout"
  | .gatewayCrash => "gateway_crash"
  | .hostCrash => "host_crash"
  | .receiptMissing => "receipt_missing"
  | .authorityRotated => "authority_rotated"

def parseUncertainty : String → Option RecoveryUncertaintyReason
  | "transport_lost" => some .transportLost
  | "timeout" => some .timeout
  | "gateway_crash" => some .gatewayCrash
  | "host_crash" => some .hostCrash
  | "receipt_missing" => some .receiptMissing
  | "authority_rotated" => some .authorityRotated
  | _ => none

lemma parse_asStr (state : RecoveryOperationState) :
    RecoveryOperationState.parse state.asStr = some state := by
  cases state <;> rfl

lemma parseUncertainty_asStr (reason : RecoveryUncertaintyReason) :
    parseUncertainty reason.asStr = some reason := by
  cases reason <;> rfl

/-- The bytes of a witness: a serializer and the reader of what it writes. -/
class WitnessCodec where
  toVec : RecoveryEffectWitness → List UInt8
  fromSlice : List UInt8 → Option RecoveryEffectWitness
  fromSlice_toVec : ∀ witness, fromSlice (toVec witness) = some witness

/-! ### Rows -/

def operationColumns : List String :=
  ["instance_id", "operation_id", "deployment_id", "instance_incarnation", "boot_id",
    "authority_generation", "lease_id", "lease_epoch", "state", "payload_digest", "schema_digest",
    "canonical_json", "expected_state_id", "expected_generation", "catalog_digest",
    "response_status", "response_body", "witness_json", "uncertainty_reason",
    "created_at_millis", "updated_at_millis"]

def archiveColumns : List String :=
  ["instance_id", "operation_id", "deployment_id", "instance_incarnation", "boot_id",
    "authority_generation", "lease_id", "lease_epoch", "state", "payload_digest", "schema_digest",
    "canonical_json", "expected_state_id", "expected_generation", "catalog_digest",
    "response_status", "response_body", "witness_json", "uncertainty_reason",
    "created_at_millis", "updated_at_millis"]

section Rows

variable [WitnessCodec]

def operationParams (operation : RecoveryOperation) : List Value :=
  [.text operation.instanceId, .text operation.operationId, .text operation.deploymentId,
    .text operation.instanceIncarnation, .text operation.bootId,
    ofNatural operation.authorityGeneration, .text operation.leaseId,
    ofNatural operation.leaseEpoch, .text operation.state.asStr, .text operation.payloadDigest,
    .text operation.schemaDigest, .blob operation.canonicalJson, .text operation.expectedStateId,
    ofNatural operation.expectedGeneration, .text operation.catalogDigest,
    operation.responseStatus.elim .null fun status => ofNatural status.toNat,
    operation.responseBody.elim .null .blob,
    operation.witness.elim .null fun witness => .blob (WitnessCodec.toVec witness),
    operation.uncertaintyReason.elim .null fun reason => .text reason.asStr,
    ofNatural operation.createdAtMillis, ofNatural operation.updatedAtMillis]

/-- A 16-bit column. -/
def readStatus (value : Value) : Option UInt16 := do
  let status ← natural value
  if status < 2 ^ 16 then some (UInt16.ofNat status) else none

def readState (value : Value) : Option RecoveryOperationState :=
  text value >>= RecoveryOperationState.parse

def readWitness (value : Value) : Option RecoveryEffectWitness :=
  blob value >>= WitnessCodec.fromSlice

def readUncertainty (value : Value) : Option RecoveryUncertaintyReason :=
  text value >>= parseUncertainty

/-- An operation from the columns of a selection, by position. -/
def rowOperation : List Value → Option RecoveryOperation
  | [instanceId, operationId, deploymentId, instanceIncarnation, bootId, authorityGeneration,
      leaseId, leaseEpoch, state, payloadDigest, schemaDigest, canonicalJson, expectedStateId,
      expectedGeneration, catalogDigest, responseStatus, responseBody, witnessJson,
      uncertaintyReason, createdAtMillis, updatedAtMillis] => do
    let witness ← nullable readWitness witnessJson
    let uncertainty ← nullable readUncertainty uncertaintyReason
    return {
      instanceId := ← text instanceId
      operationId := ← text operationId
      deploymentId := ← text deploymentId
      instanceIncarnation := ← text instanceIncarnation
      bootId := ← text bootId
      authorityGeneration := ← natural authorityGeneration
      leaseId := ← text leaseId
      leaseEpoch := ← natural leaseEpoch
      state := ← readState state
      payloadDigest := ← text payloadDigest
      schemaDigest := ← text schemaDigest
      canonicalJson := ← blob canonicalJson
      expectedStateId := ← text expectedStateId
      expectedGeneration := ← natural expectedGeneration
      catalogDigest := ← text catalogDigest
      responseStatus := ← nullable readStatus responseStatus
      responseBody := ← nullable blob responseBody
      witness
      uncertaintyReason := uncertainty
      createdAtMillis := ← natural createdAtMillis
      updatedAtMillis := ← natural updatedAtMillis }
  | _ => none

/-- The row of a live operation. -/
def operationRow (operation : RecoveryOperation) : Row :=
  insertRow operationColumns (operationParams operation)

/-- The row that the archiving statement makes of a live one. -/
def archiveRow (row : Row) (nowMillis : ℕ) : Row :=
  insertRow (archiveColumns ++ ["archived_at_millis"])
    (select operationColumns row ++ [ofNatural nowMillis])

/-- The numbers of an operation fit their columns. -/
structure RecoveryOperation.Fits (operation : RecoveryOperation) : Prop where
  authorityGeneration : operation.authorityGeneration < 2 ^ 63
  leaseEpoch : operation.leaseEpoch < 2 ^ 63
  expectedGeneration : operation.expectedGeneration < 2 ^ 63
  createdAtMillis : operation.createdAtMillis < 2 ^ 63
  updatedAtMillis : operation.updatedAtMillis < 2 ^ 63

end Rows

/-! ### Reading back -/

/-- **The archived row repeats the live one.** -/
theorem select_archiveRow (row : Row) (nowMillis : ℕ) :
    select archiveColumns (archiveRow row nowMillis) = select operationColumns row :=
  select_insertRow (by decide) (by simp [select, operationColumns, archiveColumns]) _ _

lemma readStatus_ofNatural (status : UInt16) :
    readStatus (ofNatural status.toNat) = some status := by
  have hstatus : status.toNat < 2 ^ 16 := status.toNat_lt
  have hfits : status.toNat < 2 ^ 63 := by omega
  rw [readStatus, natural_ofNatural hfits, Option.bind_eq_bind, Option.bind_some, if_pos hstatus,
    UInt16.ofNat_toNat]

section Codec

variable [WitnessCodec] {operation : RecoveryOperation}

/-- A live operation is read back. -/
theorem rowOperation_operationParams (h : operation.Fits) :
    rowOperation (operationParams operation) = some operation := by
  have hstatus : nullable readStatus
      (operation.responseStatus.elim .null fun status => ofNatural status.toNat) =
        some operation.responseStatus :=
    nullable_elim readStatus_ofNatural rfl _
  have hbody : nullable blob (operation.responseBody.elim .null .blob) =
      some operation.responseBody :=
    nullable_elim blob_blob rfl _
  have hwitness : nullable readWitness
      (operation.witness.elim .null fun witness => .blob (WitnessCodec.toVec witness)) =
        some operation.witness :=
    nullable_elim WitnessCodec.fromSlice_toVec rfl _
  have huncertainty : nullable readUncertainty
      (operation.uncertaintyReason.elim .null fun reason => .text reason.asStr) =
        some operation.uncertaintyReason :=
    nullable_elim parseUncertainty_asStr rfl _
  have hstate : readState (.text operation.state.asStr) = some operation.state :=
    parse_asStr operation.state
  rw [operationParams, rowOperation]
  simp only [hstatus, hbody, hwitness, huncertainty, hstate, text_text, blob_blob,
    natural_ofNatural h.authorityGeneration, natural_ofNatural h.leaseEpoch,
    natural_ofNatural h.expectedGeneration, natural_ofNatural h.createdAtMillis,
    natural_ofNatural h.updatedAtMillis, Option.bind_eq_bind, Option.bind_some]
  rfl

/-- An operation is read back from the archive as it was read before. -/
theorem rowOperation_archiveRow (h : operation.Fits) (nowMillis : ℕ) :
    rowOperation (select archiveColumns (archiveRow (operationRow operation) nowMillis)) =
      some operation := by
  have hlive : select operationColumns (operationRow operation) = operationParams operation := by
    have hinsert : select operationColumns
        (insertRow (operationColumns ++ []) (operationParams operation ++ [])) =
          operationParams operation :=
      select_insertRow (by decide) (by simp [operationColumns, operationParams]) [] []
    rwa [List.append_nil, List.append_nil] at hinsert
  rw [select_archiveRow, hlive]
  exact rowOperation_operationParams h

end Codec

end Sts2Gateway.Recovery
