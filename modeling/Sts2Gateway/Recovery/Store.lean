/-
The tables of the recovery store (`recovery_store.rs`, `recovery_store_sql.rs`,
`recovery_store_support.rs`) and the reads that its calls share.

* `AuthorityRow`, `LeaseRow`, `ArchivedOperation`, `TicketRow`: the rows, with
  enumerations for the text columns;
* `GatewayRecoveryStore`: the tables of one open store;
* `currentAuthority`, `currentFence`, `leaseByIdWithToken`, `selectOperation`,
  `ticketForOperation`: the reads;
* `ensureContext`: **the check of a lease proof** that opens most calls, with
  `ensureContext_eq_ok`: what it says of the store;
* `Reply`, `commit`: what a call leaves behind.
-/
import Mathlib.Tactic
import Sts2Gateway.Library.Table
import Sts2Gateway.Recovery.Contract

namespace Sts2Gateway.Recovery

open Procedure Relational Text

/-! ### Rows -/

/-- The three columns that a host fence sets together. -/
structure FenceColumns where
  hostFenceId : String
  fenceGeneration : ℕ
  hostFenceAt : ℕ
deriving DecidableEq, Repr

/-- The single row of the authority. -/
structure AuthorityRow where
  deploymentId : String
  instanceId : String
  instanceIncarnation : String
  bootId : String
  authorityGeneration : ℕ
  release : RecoveryReleaseSet
  createdAtMillis : ℕ
  state : RecoveryBootState
  fence : Option FenceColumns
deriving DecidableEq, Repr

structure LeaseRow where
  leaseId : String
  deploymentId : String
  instanceId : String
  instanceIncarnation : String
  bootId : String
  authorityGeneration : ℕ
  leaseEpoch : ℕ
  fenceTokenHash : String
  issuedAtMillis : ℕ
  expiresAtMillis : ℕ
  ttlSeconds : ℕ
  renewalIntervalSeconds : ℕ
  lastRenewSequence : ℕ
  callerId : String
  sessionId : String
  status : RecoveryLeaseState
  revokedReason : Option String
  hostFenceId : Option String
  hostFenceGeneration : Option ℕ
  hostInstallationId : Option String
  hostGrantDigest : Option String
  hostState : RecoveryHostLeaseState
  hostInstallGeneration : ℕ
  hostRenewSequence : ℕ
  hostAckMessageId : Option String
  hostAckRecordedAtMillis : Option ℕ
  pendingExpiresAtMillis : Option ℕ
  pendingRenewSequence : Option ℕ
deriving DecidableEq, Repr

structure ArchivedOperation where
  operation : RecoveryOperation
  archivedAtMillis : ℕ
deriving DecidableEq, Repr

structure TicketRow where
  ticket : RecoveryAdmissionTicket
  instanceId : String
deriving DecidableEq, Repr

/-- The primary key of an operation. -/
abbrev OperationKey := String × String

def RecoveryOperation.key (operation : RecoveryOperation) : OperationKey :=
  (operation.instanceId, operation.operationId)

/-! ### The store -/

structure GatewayRecoveryStore where
  config : RecoveryStoreConfig
  authority : Option AuthorityRow
  leases : Table String LeaseRow LeaseRow.leaseId
  operations : Table OperationKey RecoveryOperation RecoveryOperation.key
  operationArchive : Table OperationKey ArchivedOperation fun a => a.operation.key
  admissionTickets : Table String TicketRow fun t => t.ticket.ticketId
  continuationOwnerClaims :
    Table String RecoveryContinuationOwnerClaim RecoveryContinuationOwnerClaim.operationId

/-- A store whose schema has just been created. -/
def GatewayRecoveryStore.openWithConfig (config : RecoveryStoreConfig) : GatewayRecoveryStore where
  config
  authority := none
  leases := .empty
  operations := .empty
  operationArchive := .empty
  admissionTickets := .empty
  continuationOwnerClaims := .empty

/-! ### Reads -/

/-- A boot whose stored release set is checked once more. -/
def rowBoot (row : AuthorityRow) : Except RecoveryStoreError RecoveryBootContext := do
  row.release.validate.mapError fun _ => .sql "Query is not read-only"
  return {
    deploymentId := row.deploymentId
    instanceId := row.instanceId
    instanceIncarnation := row.instanceIncarnation
    bootId := row.bootId
    authorityGeneration := row.authorityGeneration
    release := row.release
    createdAtMillis := row.createdAtMillis
    state := row.state }

def rowFence (row : AuthorityRow) (fence : FenceColumns) : RecoveryHostFence where
  hostFenceId := fence.hostFenceId
  deploymentId := row.deploymentId
  instanceId := row.instanceId
  instanceIncarnation := row.instanceIncarnation
  bootId := row.bootId
  authorityGeneration := row.authorityGeneration
  fenceGeneration := fence.fenceGeneration
  createdAtMillis := fence.hostFenceAt

def rowLease (row : LeaseRow) (token : String) : RecoveryLease where
  deploymentId := row.deploymentId
  instanceId := row.instanceId
  instanceIncarnation := row.instanceIncarnation
  bootId := row.bootId
  authorityGeneration := row.authorityGeneration
  leaseId := row.leaseId
  leaseEpoch := row.leaseEpoch
  fenceToken := token
  issuedAtMillis := row.issuedAtMillis
  expiresAtMillis := row.expiresAtMillis
  ttlSeconds := row.ttlSeconds
  renewalIntervalSeconds := row.renewalIntervalSeconds
  lastRenewSequence := row.lastRenewSequence

namespace GatewayRecoveryStore

variable (store : GatewayRecoveryStore)

def currentAuthority : Except RecoveryStoreError (Option RecoveryBootContext) :=
  match store.authority with
  | some row => some <$> rowBoot row
  | none => return none

def currentFence : Option RecoveryHostFence := do
  let row ← store.authority
  let fence ← row.fence
  return rowFence row fence

def currentBoot : Except RecoveryStoreError RecoveryBootContext := do
  (← store.currentAuthority).elim (.error .authorityNotFound) .ok

def currentHostFence : Except RecoveryStoreError RecoveryHostFence :=
  store.currentFence.elim (.error .hostFenceRequired) .ok

/-- A live operation, or an archived one. -/
def selectOperation (key : OperationKey) : Option RecoveryOperation :=
  (store.operations.find? key).or ((store.operationArchive.find? key).map (·.operation))

/-- The first ticket of an operation. -/
def ticketForOperation (instanceId operationId : String) : Option RecoveryAdmissionTicket :=
  (store.admissionTickets.rows.find? fun row =>
    row.instanceId = instanceId ∧ row.ticket.operationId = operationId).map (·.ticket)

end GatewayRecoveryStore

/-- A boot repeats its row. -/
lemma rowBoot_eq_ok {row : AuthorityRow} {boot : RecoveryBootContext} (h : rowBoot row = .ok boot) :
    boot.deploymentId = row.deploymentId ∧ boot.instanceId = row.instanceId ∧
      boot.instanceIncarnation = row.instanceIncarnation ∧ boot.bootId = row.bootId ∧
      boot.authorityGeneration = row.authorityGeneration ∧ boot.release = row.release ∧
      boot.createdAtMillis = row.createdAtMillis ∧ boot.state = row.state := by
  simp only [rowBoot, except_bind_eq_ok] at h
  obtain ⟨_, -, h⟩ := h
  cases h
  exact ⟨rfl, rfl, rfl, rfl, rfl, rfl, rfl, rfl⟩

/-- The current boot is that of the authority's row. -/
lemma currentBoot_eq_ok {store : GatewayRecoveryStore} {boot : RecoveryBootContext}
    (h : store.currentBoot = .ok boot) :
    ∃ a, store.authority = some a ∧ rowBoot a = .ok boot := by
  unfold GatewayRecoveryStore.currentBoot GatewayRecoveryStore.currentAuthority at h
  cases ha : store.authority with
  | none => simp [ha, pure, Except.pure] at h
  | some row =>
    refine ⟨row, rfl, ?_⟩
    rw [ha] at h
    cases hboot : rowBoot row with
    | error e => simp [hboot, Functor.map, Except.map] at h
    | ok b => simpa [hboot, Functor.map, Except.map] using h

/-! ### The lease proof -/

/-- The columns of a lease that its proof repeats. -/
def checkLeaseIdentity (lease : RecoveryLease) (proof : RecoveryLeaseProof) :
    Except RecoveryStoreError Unit :=
  refuse (lease.deploymentId ≠ proof.deploymentId ∨ lease.instanceId ≠ proof.instanceId ∨
      lease.instanceIncarnation ≠ proof.instanceIncarnation ∨ lease.bootId ≠ proof.bootId ∨
      lease.authorityGeneration ≠ proof.authorityGeneration ∨
      lease.leaseEpoch ≠ proof.leaseEpoch)
    .staleLease

def validateLeaseProofShape (proof : RecoveryLeaseProof) : Except RecoveryStoreError Unit := do
  validateUuid "deployment_id" proof.deploymentId
  validateUuid "instance_id" proof.instanceId
  validateUuidV4 "instance_incarnation" proof.instanceIncarnation
  validateUuidV4 "boot_id" proof.bootId
  validateUuidV4 "lease_id" proof.leaseId
  validateToken "fence_token" proof.fenceToken
  validateWire proof.authorityGeneration "authority_generation"
  validateWire proof.leaseEpoch "lease_epoch"

def RecoveryLeaseState.requireActive : RecoveryLeaseState → Except RecoveryStoreError Unit
  | .active => return
  | .expired => .error .leaseExpired
  | .revoked => .error .leaseRevoked

@[simp] lemma requireActive_eq_ok {status : RecoveryLeaseState} {u : Unit} :
    status.requireActive = .ok u ↔ status = .active := by
  cases status <;> simp [RecoveryLeaseState.requireActive, pure, Except.pure]

section Token

variable [Sha256]

def GatewayRecoveryStore.leaseByIdWithToken (store : GatewayRecoveryStore)
    (leaseId token : String) : Except RecoveryStoreError LeaseRow :=
  match store.leases.find? leaseId with
  | some row =>
    if sha256Hex token.toUTF8 = row.fenceTokenHash then .ok row else .error .leaseNotFound
  | none => .error .leaseNotFound

/-- The lease that a proof names, when the proof is its own, it is active and
unexpired, and the authority is still the one it was granted under. -/
def GatewayRecoveryStore.ensureContext (store : GatewayRecoveryStore) (proof : RecoveryLeaseProof)
    (nowMillis : ℕ) : Except RecoveryStoreError RecoveryLease := do
  validateUuid "deployment_id" proof.deploymentId
  validateUuid "instance_id" proof.instanceId
  validateUuidV4 "instance_incarnation" proof.instanceIncarnation
  validateUuidV4 "boot_id" proof.bootId
  validateUuidV4 "lease_id" proof.leaseId
  validateToken "fence_token" proof.fenceToken
  let row ← store.leaseByIdWithToken proof.leaseId proof.fenceToken
  let lease := rowLease row proof.fenceToken
  checkLeaseIdentity lease proof
  row.status.requireActive
  refuse (lease.expiresAtMillis ≤ nowMillis) .leaseExpired
  let authority ← store.currentBoot
  refuse (authority.state ≠ .ready ∨ authority.bootId ≠ proof.bootId ∨
      authority.instanceIncarnation ≠ proof.instanceIncarnation ∨
      authority.authorityGeneration ≠ proof.authorityGeneration)
    .staleLease
  return lease

variable {store : GatewayRecoveryStore} {proof : RecoveryLeaseProof} {nowMillis : ℕ}

lemma leaseByIdWithToken_eq_ok {leaseId token : String} {row : LeaseRow} :
    store.leaseByIdWithToken leaseId token = .ok row ↔
      store.leases.find? leaseId = some row ∧ sha256Hex token.toUTF8 = row.fenceTokenHash := by
  unfold GatewayRecoveryStore.leaseByIdWithToken
  cases store.leases.find? leaseId with
  | none => simp
  | some found =>
    by_cases h : sha256Hex token.toUTF8 = found.fenceTokenHash
    · simp only [h, if_true, Except.ok.injEq, Option.some.injEq]
      exact ⟨fun heq => ⟨heq, heq ▸ rfl⟩, fun heq => heq.1⟩
    · simp only [h, if_false, reduceCtorEq, Option.some.injEq, false_iff, not_and]
      rintro rfl
      exact h

/-- A lease row that a proof names and repeats. -/
structure Presented (store : GatewayRecoveryStore) (proof : RecoveryLeaseProof) (row : LeaseRow) :
    Prop where
  found : store.leases.find? proof.leaseId = some row
  token : sha256Hex proof.fenceToken.toUTF8 = row.fenceTokenHash
  deployment : row.deploymentId = proof.deploymentId
  instanceId : row.instanceId = proof.instanceId
  incarnation : row.instanceIncarnation = proof.instanceIncarnation
  boot : row.bootId = proof.bootId
  generation : row.authorityGeneration = proof.authorityGeneration
  epoch : row.leaseEpoch = proof.leaseEpoch

lemma presented_of_checks {row : LeaseRow}
    (hrow : store.leaseByIdWithToken proof.leaseId proof.fenceToken = .ok row)
    (hidentity : checkLeaseIdentity (rowLease row proof.fenceToken) proof = .ok ()) :
    Presented store proof row := by
  obtain ⟨hfind, htoken⟩ := leaseByIdWithToken_eq_ok.mp hrow
  rw [checkLeaseIdentity, refuse_eq_ok] at hidentity
  simp only [not_or, not_not, rowLease] at hidentity
  obtain ⟨h1, h2, h3, h4, h5, h6⟩ := hidentity
  exact ⟨hfind, htoken, h1, h2, h3, h4, h5, h6⟩

/-- A proof that is good for a mutation now. -/
structure Current (store : GatewayRecoveryStore) (proof : RecoveryLeaseProof) (nowMillis : ℕ)
    (row : LeaseRow) : Prop extends Presented store proof row where
  active : row.status = .active
  unexpired : nowMillis < row.expiresAtMillis
  authority : ∃ a, store.authority = some a ∧ a.state = .ready ∧ a.bootId = proof.bootId ∧
    a.instanceIncarnation = proof.instanceIncarnation ∧
    a.authorityGeneration = proof.authorityGeneration

/-- **What an accepted proof says.** -/
theorem ensureContext_eq_ok {lease : RecoveryLease}
    (h : store.ensureContext proof nowMillis = .ok lease) :
    ∃ row, Current store proof nowMillis row ∧ lease = rowLease row proof.fenceToken := by
  simp only [GatewayRecoveryStore.ensureContext, except_bind_eq_ok, refuse_eq_ok,
    requireActive_eq_ok, not_or, not_not, not_le] at h
  obtain ⟨_, -, _, -, _, -, _, -, _, -, _, -, row, hrow, _, hidentity, _, hactive, _, hexpiry,
    boot, hboot, _, ⟨hready, hbootId, hincarnation, hgeneration⟩, hlease⟩ := h
  obtain ⟨a, ha, haboot⟩ := currentBoot_eq_ok hboot
  obtain ⟨-, -, h3, h4, h5, -, -, h8⟩ := rowBoot_eq_ok haboot
  cases hlease
  refine ⟨row, ⟨presented_of_checks hrow hidentity, hactive, hexpiry, a, ha, ?_⟩, rfl⟩
  rw [← h3, ← h4, ← h5, ← h8]
  exact ⟨hready, hbootId, hincarnation, hgeneration⟩

end Token

/-! ### Calls -/

/-- What a call answers and what it leaves in the store. -/
structure Reply (α : Type) where
  answer : Except RecoveryStoreError α
  store : GatewayRecoveryStore

/-- A transaction: an error leaves the store as it was. -/
def commit {α : Type} (store : GatewayRecoveryStore)
    (transaction : Except RecoveryStoreError (α × GatewayRecoveryStore)) : Reply α :=
  match transaction with
  | .ok (a, after) => { answer := .ok a, store := after }
  | .error e => { answer := .error e, store }

/-- A call that only reads. -/
def query {α : Type} (store : GatewayRecoveryStore) (answer : Except RecoveryStoreError α) :
    Reply α :=
  { answer, store }

lemma commit_cases {α : Type} (store : GatewayRecoveryStore)
    (transaction : Except RecoveryStoreError (α × GatewayRecoveryStore)) :
    (∃ e, transaction = .error e ∧ commit store transaction = ⟨.error e, store⟩) ∨
      ∃ a after, transaction = .ok (a, after) ∧ commit store transaction = ⟨.ok a, after⟩ := by
  cases transaction with
  | error e => exact .inl ⟨e, rfl, rfl⟩
  | ok p => exact .inr ⟨p.1, p.2, rfl, rfl⟩

end Sts2Gateway.Recovery
