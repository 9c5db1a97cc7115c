/-
Admission tickets (`recovery_store_tickets.rs`, `recovery_store_ticket_helpers.rs`).

* `issueAdmissionTicket`: the gateway's ticket for a dispatched operation;
* `validateAdmissionTicket`, `transitionAdmissionTicket`, `expireAdmissionTickets`: its
  use and its end;
* `recordHostTicket`, `recordHistoricalHostTicket`: a ticket that the host owns.
-/
import Mathlib.Tactic
import Sts2Gateway.Recovery.Operations

namespace Sts2Gateway.Recovery

open Procedure Relational Text

def validateFence (fence : RecoveryHostFence) : Except RecoveryStoreError Unit := do
  validateUuidV4 "host_fence_id" fence.hostFenceId
  validateUuid "deployment_id" fence.deploymentId
  validateUuid "instance_id" fence.instanceId
  validateUuidV4 "instance_incarnation" fence.instanceIncarnation
  validateUuidV4 "boot_id" fence.bootId
  validateWire fence.authorityGeneration "authority_generation"
  validateWire fence.fenceGeneration "fence_generation"
  validateWire fence.createdAtMillis "fence_created_at_millis"

def validTicketTransition : RecoveryTicketState → RecoveryTicketState → Bool
  | .issued, .admitted | .issued, .executing | .issued, .effectWitnessRecorded
  | .issued, .settled | .issued, .rejected | .issued, .unknown => true
  | .admitted, .executing | .admitted, .effectWitnessRecorded | .admitted, .settled
  | .admitted, .rejected | .admitted, .unknown => true
  | .executing, .effectWitnessRecorded | .executing, .settled | .executing, .rejected
  | .executing, .unknown => true
  | .effectWitnessRecorded, .settled | .effectWitnessRecorded, .unknown => true
  | _, _ => false

/-- The states in which a ticket can still be used. -/
def RecoveryTicketState.isOpen : RecoveryTicketState → Bool
  | .issued | .admitted | .executing | .effectWitnessRecorded => true
  | .settled | .rejected | .unknown => false

/-- The columns that a ticket repeats from its operation. -/
def checkTicketOperation (operation : RecoveryOperation) (ticket : RecoveryAdmissionTicket) :
    Except RecoveryStoreError Unit :=
  refuse (operation.payloadDigest ≠ ticket.payloadDigest ∨ operation.bootId ≠ ticket.bootId ∨
      operation.instanceIncarnation ≠ ticket.instanceIncarnation ∨
      operation.leaseEpoch ≠ ticket.leaseEpoch)
    .operationConflict

/-- The fields of a ticket that the host sends. -/
def validateHostTicket (ticket : RecoveryAdmissionTicket) : Except RecoveryStoreError Unit := do
  validateUuidV4 "ticket_id" ticket.ticketId
  validateUuidV4 "operation_id" ticket.operationId
  validateDigest "payload_digest" ticket.payloadDigest
  validateUuidV4 "ticket_boot_id" ticket.bootId
  validateUuidV4 "ticket_instance_incarnation" ticket.instanceIncarnation
  validateUuidV4 "ticket_host_fence_id" ticket.hostFenceId
  validateWire ticket.leaseEpoch "ticket_lease_epoch"
  validateWire ticket.issuedAtMillis "ticket_issued_at_millis"
  validateWire ticket.expiresAtMillis "ticket_expires_at_millis"
  refuse (ticket.expiresAtMillis ≤ ticket.issuedAtMillis)
    (.invalidInput "host admission ticket deadline is invalid")

/-- A repeated ticket differs from the retained one in its state only. -/
def checkSameTicket (existing ticket : RecoveryAdmissionTicket) :
    Except RecoveryStoreError Unit := do
  refuse (existing.ticketId ≠ ticket.ticketId ∨ existing.payloadDigest ≠ ticket.payloadDigest ∨
      existing.bootId ≠ ticket.bootId ∨
      existing.instanceIncarnation ≠ ticket.instanceIncarnation ∨
      existing.leaseEpoch ≠ ticket.leaseEpoch ∨ existing.hostFenceId ≠ ticket.hostFenceId ∨
      existing.issuedAtMillis ≠ ticket.issuedAtMillis ∨
      existing.expiresAtMillis ≠ ticket.expiresAtMillis)
    .operationConflict
  refuse (existing.state ≠ ticket.state ∧ ¬ validTicketTransition existing.state ticket.state)
    .invalidTransition

def TicketRow.withState (row : TicketRow) (state : RecoveryTicketState) : TicketRow :=
  { row with ticket := { row.ticket with state } }

@[simp] lemma TicketRow.ticketId_withState (row : TicketRow) (state : RecoveryTicketState) :
    (row.withState state).ticket.ticketId = row.ticket.ticketId := rfl

namespace GatewayRecoveryStore

variable (store : GatewayRecoveryStore)

def insertTicket (instanceId : String) (ticket : RecoveryAdmissionTicket) :
    Except RecoveryStoreError (RecoveryAdmissionTicket × GatewayRecoveryStore) :=
  match store.admissionTickets.insert { ticket, instanceId } with
  | some admissionTickets => .ok (ticket, { store with admissionTickets })
  | none => .error (.sql "UNIQUE constraint failed: admission_tickets.ticket_id")

/-- The end of both host ticket calls: a known ticket moves on, a new one is kept. -/
def storeHostTicket (instanceId : String) (ticket : RecoveryAdmissionTicket) :
    Except RecoveryStoreError (RecoveryAdmissionTicket × GatewayRecoveryStore) :=
  match store.ticketForOperation instanceId ticket.operationId with
  | some existing => do
    checkSameTicket existing ticket
    return (ticket, { store with
      admissionTickets := store.admissionTickets.update
        (fun row => row.ticket.ticketId = ticket.ticketId) (fun row => row.withState ticket.state)
        fun row => row.ticketId_withState ticket.state })
  | none => store.insertTicket instanceId ticket

/-- A historical ticket needs no current lease: its fence is the operation's own. -/
def recordHistoricalHostTicket (instanceId : String) (ticket : RecoveryAdmissionTicket) :
    Except RecoveryStoreError (RecoveryAdmissionTicket × GatewayRecoveryStore) := do
  validateUuid "instance_id" instanceId
  validateHostTicket ticket
  let operation ← store.requireOperation instanceId ticket.operationId
  checkTicketOperation operation ticket
  store.storeHostTicket instanceId ticket

def admissionTicket (ticketId : String) :
    Except RecoveryStoreError (Option RecoveryAdmissionTicket) := do
  validateUuidV4 "ticket_id" ticketId
  return (store.admissionTickets.find? ticketId).map (·.ticket)

def admissionTicketForOperation (instanceId operationId : String) :
    Except RecoveryStoreError (Option RecoveryAdmissionTicket) := do
  validateUuid "instance_id" instanceId
  validateUuidV4 "operation_id" operationId
  return store.ticketForOperation instanceId operationId

def expireAdmissionTickets (nowMillis : ℕ) :
    Except RecoveryStoreError (ℕ × GatewayRecoveryStore) := do
  validateWire nowMillis "now_millis"
  let due := fun row : TicketRow =>
    decide (row.ticket.expiresAtMillis ≤ nowMillis) && row.ticket.state.isOpen
  return (store.admissionTickets.count due, { store with
    admissionTickets := store.admissionTickets.update due (fun row => row.withState .unknown)
      fun row => row.ticketId_withState .unknown })

section Token

variable [Sha256]

def issueAdmissionTicket (ticketId : String) (proof : RecoveryLeaseProof)
    (fence : RecoveryHostFence) (instanceId operationId payloadDigest : String)
    (nowMillis ttlSeconds : ℕ) :
    Except RecoveryStoreError (RecoveryAdmissionTicket × GatewayRecoveryStore) := do
  validateUuid "instance_id" instanceId
  validateUuidV4 "operation_id" operationId
  validateDigest "payload_digest" payloadDigest
  validateWire nowMillis "now_millis"
  validateWire ttlSeconds "ticket_ttl_seconds"
  let lease ← store.ensureContext proof nowMillis
  validateFence fence
  let current ← store.currentHostFence
  refuse (current ≠ fence ∨ fence.instanceId ≠ instanceId ∨ fence.bootId ≠ proof.bootId ∨
      fence.instanceIncarnation ≠ proof.instanceIncarnation ∨
      fence.authorityGeneration ≠ proof.authorityGeneration)
    .staleLease
  refuse (ttlSeconds = 0 ∨ ttlSeconds > 300)
    (.invalidInput "ticket TTL must be between 1 and 300 seconds")
  let ttlMillis ← checkedMul ttlSeconds 1000
  let expiresAtMillis ← checkedAdd nowMillis ttlMillis
  validateWire expiresAtMillis "ticket_expires_at_millis"
  refuse (expiresAtMillis > lease.expiresAtMillis) .leaseExpired
  let operation ← store.requireOperation instanceId operationId
  refuse (operation.payloadDigest ≠ payloadDigest ∨ operation.bootId ≠ proof.bootId ∨
      operation.instanceIncarnation ≠ proof.instanceIncarnation ∨
      operation.leaseEpoch ≠ proof.leaseEpoch)
    .operationConflict
  refuse (operation.state ≠ .mayHaveBeenDispatched) .invalidTransition
  match store.ticketForOperation instanceId operationId with
  | some ticket => do
    refuse (ticket.payloadDigest ≠ payloadDigest) .operationConflict
    return (ticket, store)
  | none =>
    store.insertTicket instanceId
      { ticketId
        operationId
        payloadDigest
        bootId := proof.bootId
        instanceIncarnation := proof.instanceIncarnation
        leaseEpoch := proof.leaseEpoch
        hostFenceId := fence.hostFenceId
        state := .issued
        issuedAtMillis := nowMillis
        expiresAtMillis }

def validateAdmissionTicketInner (proof : RecoveryLeaseProof) (fence : RecoveryHostFence)
    (ticketId : String) (nowMillis : ℕ) (allowTerminalOperation : Bool) :
    Except RecoveryStoreError RecoveryAdmissionTicket := do
  validateUuidV4 "ticket_id" ticketId
  validateWire nowMillis "now_millis"
  let found ← store.admissionTicket ticketId
  let ticket ← found.elim (.error .admissionTicketNotFound) .ok
  validateFence fence
  refuse (ticket.bootId ≠ proof.bootId ∨ ticket.instanceIncarnation ≠ proof.instanceIncarnation ∨
      ticket.leaseEpoch ≠ proof.leaseEpoch ∨ ticket.hostFenceId ≠ fence.hostFenceId)
    .staleLease
  let current ← store.currentHostFence
  refuse (current ≠ fence) .staleLease
  let _ ← store.ensureContext proof nowMillis
  let operation ← store.requireOperation proof.instanceId ticket.operationId
  checkTicketOperation operation ticket
  refuse (¬ allowTerminalOperation ∧ ¬ operation.state.unresolved) .invalidTransition
  refuse (ticket.expiresAtMillis ≤ nowMillis) .admissionTicketExpired
  refuse (¬ ticket.state.isOpen) .invalidTransition
  return ticket

def validateAdmissionTicket (proof : RecoveryLeaseProof) (fence : RecoveryHostFence)
    (ticketId : String) (nowMillis : ℕ) : Except RecoveryStoreError RecoveryAdmissionTicket :=
  store.validateAdmissionTicketInner proof fence ticketId nowMillis false

/-- The ticket states that a resolved operation still admits. -/
def admitsResolved : RecoveryOperationState → RecoveryTicketState → Bool
  | .settled, .settled | .rejected, .rejected | .reconciled, .effectWitnessRecorded
  | .reconciled, .settled => true
  | _, _ => false

def transitionAdmissionTicket (proof : RecoveryLeaseProof) (fence : RecoveryHostFence)
    (ticketId : String) (nextState : RecoveryTicketState) (nowMillis : ℕ) :
    Except RecoveryStoreError (RecoveryAdmissionTicket × GatewayRecoveryStore) := do
  let ticket ← store.validateAdmissionTicketInner proof fence ticketId nowMillis
    (nextState = .effectWitnessRecorded ∨ nextState = .settled ∨ nextState = .rejected)
  let operation ← store.requireOperation proof.instanceId ticket.operationId
  refuse (¬ operation.state.unresolved ∧ ¬ admitsResolved operation.state nextState)
    .invalidTransition
  refuse (¬ validTicketTransition ticket.state nextState) .invalidTransition
  let due := fun row : TicketRow => decide (row.ticket.ticketId = ticketId) &&
    decide (row.ticket.state = ticket.state ∧ nowMillis < row.ticket.expiresAtMillis)
  refuse (store.admissionTickets.count due ≠ 1) .staleLease
  return ({ ticket with state := nextState }, { store with
    admissionTickets := store.admissionTickets.update due (fun row => row.withState nextState)
      fun row => row.ticketId_withState nextState })

def recordHostTicket (proof : RecoveryLeaseProof) (fence : RecoveryHostFence)
    (ticket : RecoveryAdmissionTicket) (nowMillis : ℕ) :
    Except RecoveryStoreError (RecoveryAdmissionTicket × GatewayRecoveryStore) := do
  validateHostTicket ticket
  refuse (ticket.bootId ≠ proof.bootId ∨ ticket.instanceIncarnation ≠ proof.instanceIncarnation ∨
      ticket.leaseEpoch ≠ proof.leaseEpoch ∨ ticket.hostFenceId ≠ fence.hostFenceId ∨
      fence.bootId ≠ proof.bootId ∨ fence.instanceIncarnation ≠ proof.instanceIncarnation ∨
      fence.authorityGeneration ≠ proof.authorityGeneration)
    .staleLease
  let current ← store.currentHostFence
  refuse (current ≠ fence) .staleLease
  let lease ← store.ensureContext proof nowMillis
  refuse (ticket.expiresAtMillis > lease.expiresAtMillis)
    (.contractMismatch "host admission ticket outlives the authenticated lease")
  let operation ← store.requireOperation proof.instanceId ticket.operationId
  checkTicketOperation operation ticket
  refuse (¬ operation.state.unresolved ∧
      ¬ (operation.state = .settled ∧ ticket.state = .settled ∨
        operation.state = .rejected ∧ ticket.state = .rejected))
    .operationConflict
  store.storeHostTicket proof.instanceId ticket

end Token

end GatewayRecoveryStore

end Sts2Gateway.Recovery
