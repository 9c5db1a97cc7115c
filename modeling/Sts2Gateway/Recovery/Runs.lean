/-
Runs of the recovery store: every public call, in any order and with any
arguments.

* `Call`, `Answer`, `Call.perform`: the calls by the table they write, with their
  random identifiers as arguments;
* `next`, `GatewayRecoveryStore.run`: the store after a call and after a list of calls;
* `Call.authorizedBy`: the lease proof on whose authority a call acts;
* `perform_operation`, `perform_ticket`, `perform_owner`: **the frames**: which
  tables a call of each kind leaves alone.

A call whose statement fails inside the database is no further case: its
transaction is rolled back, so it leaves the store of an earlier moment of the
same call.  Nor is a store that is closed and opened again under its policy, which
finds the tables as they were.
-/
import Mathlib.Tactic
import Sts2Gateway.Library.Machine
import Sts2Gateway.Recovery.ContinuationOwner
import Sts2Gateway.Recovery.HostLease
import Sts2Gateway.Recovery.Tickets

namespace Sts2Gateway.Recovery

open Machine Procedure Relational Text

/-! ### Calls -/

inductive AuthorityCall where
  | startBoot (bootId deploymentId instanceId instanceIncarnation : String)
      (release : RecoveryReleaseSet) (nowMillis : ℕ)
  | rekeyNamespace (bootId incarnation deploymentId instanceId : String)
      (release : RecoveryReleaseSet) (nowMillis : ℕ)
  | completeHostFence (boot : RecoveryBootContext) (hostFenceId : String)
      (fenceGeneration nowMillis : ℕ)

inductive LeaseCall where
  | acquire (leaseId token : String) (request : RecoveryLeaseRequest)
  | renew (proof : RecoveryLeaseProof) (renewSequence nowMillis : ℕ)
  | revoke (proof : RecoveryLeaseProof) (reason : String)
  | expire (nowMillis : ℕ)
  | validate (proof : RecoveryLeaseProof) (nowMillis : ℕ)

inductive HostLeaseCall where
  | prepareInstall (leaseId installationId grantDigest hostFenceId : String)
      (hostFenceGeneration nowMillis : ℕ)
  | setGrantDigest (leaseId installationId grantDigest : String)
  | completeInstall (leaseId installationId grantDigest : String) (hostInstallGeneration : ℕ)
      (ackMessageId : String) (ackRecordedAtMillis : ℕ)
  | prepareRenew (proof : RecoveryLeaseProof) (renewSequence nowMillis : ℕ)
  | completeRenew (leaseId installationId grantDigest : String)
      (renewSequence expiresAtMillis hostInstallGeneration : ℕ) (ackMessageId : String)
      (ackRecordedAtMillis : ℕ)
  | beginRevoke (proof : RecoveryLeaseProof) (reason : String)
  | completeRevoke (leaseId installationId grantDigest : String) (hostInstallGeneration : ℕ)
      (ackMessageId : String) (ackRecordedAtMillis : ℕ)
  | invalidateForRestart

inductive OperationCall where
  | recordIntent (proof : RecoveryLeaseProof) (intent : RecoveryOperationIntent)
  | markDispatched (proof : RecoveryLeaseProof) (instanceId operationId : String) (nowMillis : ℕ)
  | recordOutcome (report : OutcomeReport)
  | lookup (instanceId operationId payloadDigest : String)
  | reconcile (instanceId operationId payloadDigest : String)
      (witness : Option RecoveryEffectWitness) (nowMillis : ℕ)
  | archiveResolvedBefore (cutoffMillis nowMillis : ℕ)
  | purgeExpiredArchives (nowMillis : ℕ)

inductive TicketCall where
  | issue (ticketId : String) (proof : RecoveryLeaseProof) (fence : RecoveryHostFence)
      (instanceId operationId payloadDigest : String) (nowMillis ttlSeconds : ℕ)
  | validate (proof : RecoveryLeaseProof) (fence : RecoveryHostFence) (ticketId : String)
      (nowMillis : ℕ)
  | transition (proof : RecoveryLeaseProof) (fence : RecoveryHostFence) (ticketId : String)
      (nextState : RecoveryTicketState) (nowMillis : ℕ)
  | recordHost (proof : RecoveryLeaseProof) (fence : RecoveryHostFence)
      (ticket : RecoveryAdmissionTicket) (nowMillis : ℕ)
  | recordHistoricalHost (instanceId : String) (ticket : RecoveryAdmissionTicket)
  | expire (nowMillis : ℕ)

inductive OwnerCall where
  | claim (operationId : String) (expectedOwner : RecoveryContinuationOwner) (nowMillis : ℕ)
  | adopt (operationId : String) (expectedOwner : RecoveryContinuationOwner) (nowMillis : ℕ)

inductive Call where
  | authority (call : AuthorityCall)
  | lease (call : LeaseCall)
  | hostLease (call : HostLeaseCall)
  | operation (call : OperationCall)
  | ticket (call : TicketCall)
  | owner (call : OwnerCall)

inductive Answer where
  | done
  | boot (context : RecoveryBootContext)
  | fence (fence : RecoveryHostFence)
  | lease (lease : RecoveryLease)
  | rows (changed : ℕ)
  | binding (binding : RecoveryHostLeaseBinding)
  | intent (result : RecoveryIntentResult)
  | operation (operation : RecoveryOperation)
  | found (operation : Option RecoveryOperation)
  | ticket (ticket : RecoveryAdmissionTicket)
  | claim (result : RecoveryContinuationOwnerClaimResult)
  | adoption (adoption : RecoveryContinuationOwnerAdoption)

def Reply.map {α β : Type} (f : α → β) (reply : Reply α) : Reply β :=
  { answer := reply.answer.map f, store := reply.store }

def AuthorityCall.perform (store : GatewayRecoveryStore) : AuthorityCall → Reply Answer
  | .startBoot bootId deploymentId instanceId instanceIncarnation release nowMillis =>
    (commit store <| store.startBootWithIncarnation bootId deploymentId instanceId
      instanceIncarnation release nowMillis).map .boot
  | .rekeyNamespace bootId incarnation deploymentId instanceId release nowMillis =>
    (commit store <| store.rekeyNamespace bootId incarnation deploymentId instanceId release
      nowMillis).map .boot
  | .completeHostFence boot hostFenceId fenceGeneration nowMillis =>
    (commit store <| store.completeHostFenceFromHost boot hostFenceId fenceGeneration
      nowMillis).map .fence

section Token

variable [Sha256]

def LeaseCall.perform (store : GatewayRecoveryStore) : LeaseCall → Reply Answer
  | .acquire leaseId token request => (store.acquireLease leaseId token request).map .lease
  | .renew proof renewSequence nowMillis =>
    (store.renewLease proof renewSequence nowMillis).map .lease
  | .revoke proof reason => (commit store <| store.revokeLease proof reason).map fun _ => .done
  | .expire nowMillis => (commit store <| store.expireLeases nowMillis).map .rows
  | .validate proof nowMillis =>
    (query store <| store.validateLease proof nowMillis).map fun _ => .done

def HostLeaseCall.perform (store : GatewayRecoveryStore) : HostLeaseCall → Reply Answer
  | .prepareInstall leaseId installationId grantDigest hostFenceId hostFenceGeneration nowMillis =>
    (commit store <| store.prepareHostLeaseInstall leaseId installationId grantDigest hostFenceId
      hostFenceGeneration nowMillis).map .binding
  | .setGrantDigest leaseId installationId grantDigest =>
    (commit store <| store.setHostLeaseGrantDigest leaseId installationId
      grantDigest).map fun _ => .done
  | .completeInstall leaseId installationId grantDigest hostInstallGeneration ackMessageId
      ackRecordedAtMillis =>
    (commit store <| store.completeHostLeaseInstall leaseId installationId grantDigest
      hostInstallGeneration ackMessageId ackRecordedAtMillis).map .binding
  | .prepareRenew proof renewSequence nowMillis =>
    (commit store <| store.prepareHostLeaseRenew proof renewSequence nowMillis).map .lease
  | .completeRenew leaseId installationId grantDigest renewSequence expiresAtMillis
      hostInstallGeneration ackMessageId ackRecordedAtMillis =>
    (commit store <| store.completeHostLeaseRenew leaseId installationId grantDigest renewSequence
      expiresAtMillis hostInstallGeneration ackMessageId ackRecordedAtMillis).map .binding
  | .beginRevoke proof reason =>
    (commit store <| store.beginHostLeaseRevoke proof reason).map .lease
  | .completeRevoke leaseId installationId grantDigest hostInstallGeneration ackMessageId
      ackRecordedAtMillis =>
    (commit store <| store.completeHostLeaseRevoke leaseId installationId grantDigest
      hostInstallGeneration ackMessageId ackRecordedAtMillis).map .binding
  | .invalidateForRestart => (commit store store.invalidateHostLeasesForRestart).map .rows

def OperationCall.perform (store : GatewayRecoveryStore) : OperationCall → Reply Answer
  | .recordIntent proof intent => (commit store <| store.recordIntent proof intent).map .intent
  | .markDispatched proof instanceId operationId nowMillis =>
    (commit store <| store.markDispatched proof instanceId operationId nowMillis).map .operation
  | .recordOutcome report => (commit store <| store.recordOutcome report).map .operation
  | .lookup instanceId operationId payloadDigest =>
    (query store <| store.lookupOperation instanceId operationId payloadDigest).map .found
  | .reconcile instanceId operationId payloadDigest witness nowMillis =>
    (commit store <| store.reconcileOperation instanceId operationId payloadDigest witness
      nowMillis).map .operation
  | .archiveResolvedBefore cutoffMillis nowMillis =>
    (commit store <| store.archiveResolvedBefore cutoffMillis nowMillis).map .rows
  | .purgeExpiredArchives nowMillis =>
    (commit store <| store.purgeExpiredArchives nowMillis).map .rows

def TicketCall.perform (store : GatewayRecoveryStore) : TicketCall → Reply Answer
  | .issue ticketId proof fence instanceId operationId payloadDigest nowMillis ttlSeconds =>
    (commit store <| store.issueAdmissionTicket ticketId proof fence instanceId operationId
      payloadDigest nowMillis ttlSeconds).map .ticket
  | .validate proof fence ticketId nowMillis =>
    (query store <| store.validateAdmissionTicket proof fence ticketId nowMillis).map .ticket
  | .transition proof fence ticketId nextState nowMillis =>
    (commit store <| store.transitionAdmissionTicket proof fence ticketId nextState
      nowMillis).map .ticket
  | .recordHost proof fence ticket nowMillis =>
    (commit store <| store.recordHostTicket proof fence ticket nowMillis).map .ticket
  | .recordHistoricalHost instanceId ticket =>
    (commit store <| store.recordHistoricalHostTicket instanceId ticket).map .ticket
  | .expire nowMillis => (commit store <| store.expireAdmissionTickets nowMillis).map .rows

def OwnerCall.perform (store : GatewayRecoveryStore) : OwnerCall → Reply Answer
  | .claim operationId expectedOwner nowMillis =>
    (commit store <| store.claimContinuationOwner operationId expectedOwner nowMillis).map .claim
  | .adopt operationId expectedOwner nowMillis =>
    (query store <| store.adoptContinuationOwner operationId expectedOwner nowMillis).map .adoption

def Call.perform (store : GatewayRecoveryStore) : Call → Reply Answer
  | .authority call => call.perform store
  | .lease call => call.perform store
  | .hostLease call => call.perform store
  | .operation call => call.perform store
  | .ticket call => call.perform store
  | .owner call => call.perform store

/-! ### Runs -/

def next (store : GatewayRecoveryStore) (call : Call) : GatewayRecoveryStore :=
  (call.perform store).store

def GatewayRecoveryStore.run (store : GatewayRecoveryStore) (calls : List Call) :
    GatewayRecoveryStore :=
  Machine.run next store calls

/-- The lease proof on whose authority a call acts.  A revocation that is only
repeated needs none. -/
def Call.authorizedBy : Call → Option RecoveryLeaseProof
  | .lease (.renew proof _ _) | .lease (.revoke proof _) | .lease (.validate proof _)
  | .hostLease (.prepareRenew proof _ _)
  | .operation (.recordIntent proof _) | .operation (.markDispatched proof _ _ _)
  | .ticket (.issue _ proof _ _ _ _ _ _) | .ticket (.validate proof _ _ _)
  | .ticket (.transition proof _ _ _ _) | .ticket (.recordHost proof _ _ _) => some proof
  | _ => none

end Token

/-! ### A run -/

namespace Sample

/-- A digest that is cheap to compute, in the place of SHA-256. -/
@[reducible] def sha256 : Sha256 where
  digest bytes := List.replicate 32 (UInt8.ofNat bytes.size)

def deployment : String := "00000000-0000-4000-8000-000000000001"
def instanceId : String := "00000000-0000-4000-8000-000000000002"
def stateId : String := "00000000-0000-4000-8000-000000000003"
def incarnation : String := "00000000-0000-4000-8000-000000000004"
def bootId : String := "00000000-0000-4000-8000-000000000005"
def hostFenceId : String := "00000000-0000-4000-8000-000000000006"
def leaseId : String := "00000000-0000-4000-8000-000000000007"
def installationId : String := "00000000-0000-4000-8000-000000000008"
def ackMessageId : String := "00000000-0000-4000-8000-000000000009"
def fenceToken : String := "0123456789abcdef0123456789abcdef0123456789a"
def digest : String := "aaaaaaaaaaaaaaaaaaaaaaaaaaaaaaaaaaaaaaaaaaaaaaaaaaaaaaaaaaaaaaaa"

def release : RecoveryReleaseSet where
  releaseDigest := digest
  configDigest := digest
  profileDigest := digest
  runtimeV3SchemaDigest := runtimeV3SchemaDigest

def boot : RecoveryBootContext where
  deploymentId := deployment
  instanceId := instanceId
  instanceIncarnation := incarnation
  bootId := bootId
  authorityGeneration := 1
  release := release
  createdAtMillis := 1000
  state := .fenceRequired

def proof : RecoveryLeaseProof where
  deploymentId := deployment
  instanceId := instanceId
  instanceIncarnation := incarnation
  bootId := bootId
  authorityGeneration := 1
  leaseId := leaseId
  leaseEpoch := 1
  fenceToken := fenceToken

/-- A boot, the host's fence and a lease under both. -/
def calls : List Call :=
  [.authority (.startBoot bootId deployment instanceId incarnation release 1000),
    .authority (.completeHostFence boot hostFenceId 1 1001),
    .lease (.acquire leaseId fenceToken
      { deploymentId := deployment
        instanceId := instanceId
        instanceIncarnation := incarnation
        bootId := bootId
        authorityGeneration := 1
        hostFenceId := hostFenceId
        hostFenceGeneration := 1
        callerId := "caller-1"
        sessionId := "session-1"
        nowMillis := 1002
        ttlSeconds := 30
        renewalIntervalSeconds := 10 })]

end Sample

/-! ### Frames -/

/-- What a transaction keeps, its commit keeps. -/
lemma commit_keeps {α : Type} {P : GatewayRecoveryStore → Prop} {store : GatewayRecoveryStore}
    {transaction : Except RecoveryStoreError (α × GatewayRecoveryStore)} {f : α → Answer}
    (hstore : P store) (h : Returns transaction fun (_, after) => P after) :
    P ((commit store transaction).map f).store := by
  rcases commit_cases store transaction with ⟨e, -, hcommit⟩ | ⟨a, after, hok, hcommit⟩
  · rw [hcommit]
    exact hstore
  · rw [hcommit]
    exact h (a, after) hok

/-- The authority and its leases are as they were. -/
structure KeepsAuthority (store after : GatewayRecoveryStore) : Prop where
  config : after.config = store.config
  authority : after.authority = store.authority
  leases : after.leases = store.leases

/-- The operations, live and archived, are as they were. -/
structure KeepsOperations (store after : GatewayRecoveryStore) : Prop where
  config : after.config = store.config
  operations : after.operations = store.operations
  operationArchive : after.operationArchive = store.operationArchive

/-- Only tickets and continuation owners may differ. -/
structure KeepsTables (store after : GatewayRecoveryStore) : Prop extends
  KeepsAuthority store after, KeepsOperations store after

/-- What a call on operations leaves alone. -/
structure OperationsWritten (store after : GatewayRecoveryStore) : Prop extends
    KeepsAuthority store after where
  admissionTickets : after.admissionTickets = store.admissionTickets
  continuationOwnerClaims : after.continuationOwnerClaims = store.continuationOwnerClaims

/-- What a call on tickets leaves alone. -/
structure TicketsWritten (store after : GatewayRecoveryStore) : Prop extends
    KeepsTables store after where
  continuationOwnerClaims : after.continuationOwnerClaims = store.continuationOwnerClaims

lemma KeepsTables.refl (store : GatewayRecoveryStore) : KeepsTables store store :=
  ⟨⟨rfl, rfl, rfl⟩, rfl, rfl⟩

variable {store : GatewayRecoveryStore}

lemma recordOutcome_keeps {report : OutcomeReport} :
    Returns (store.recordOutcome report) fun (_, after) => OperationsWritten store after :=
  .bind fun _ _ => .refuse fun _ => .pure ⟨⟨rfl, rfl, rfl⟩, rfl, rfl⟩

lemma insertTicket_keeps {instanceId : String} {ticket : RecoveryAdmissionTicket} :
    Returns (store.insertTicket instanceId ticket) fun (_, after) => TicketsWritten store after := by
  rw [GatewayRecoveryStore.insertTicket]
  split
  · exact .ok ⟨⟨⟨rfl, rfl, rfl⟩, rfl, rfl⟩, rfl⟩
  · exact .error

lemma storeHostTicket_keeps {instanceId : String} {ticket : RecoveryAdmissionTicket} :
    Returns (store.storeHostTicket instanceId ticket) fun (_, after) => TicketsWritten store after := by
  rw [GatewayRecoveryStore.storeHostTicket]
  split
  · exact .bind fun _ _ => .pure ⟨⟨⟨rfl, rfl, rfl⟩, rfl, rfl⟩, rfl⟩
  · exact insertTicket_keeps

section Token

variable [Sha256]

/-- Calls on operations act under an authority that they leave alone. -/
theorem perform_operation (call : OperationCall) :
    OperationsWritten store (call.perform store).store := by
  have hkept : OperationsWritten store store := ⟨⟨rfl, rfl, rfl⟩, rfl, rfl⟩
  cases call with
  | recordIntent proof intent =>
    refine commit_keeps hkept (.bind fun _ _ => .refuse fun _ => .bind fun _ _ => ?_)
    split
    · exact .refuse fun _ => .pure hkept
    · refine .refuse fun _ => .refuse fun _ => .refuse fun _ => ?_
      split
      · exact .pure ⟨⟨rfl, rfl, rfl⟩, rfl, rfl⟩
      · exact .error
  | markDispatched proof instanceId operationId nowMillis =>
    exact commit_keeps hkept <| .bind fun _ _ => .bind fun _ _ => .bind fun _ _ =>
      .bind fun _ _ => .refuse fun _ => .refuse fun _ => .pure ⟨⟨rfl, rfl, rfl⟩, rfl, rfl⟩
  | recordOutcome report => exact commit_keeps hkept recordOutcome_keeps
  | lookup => exact hkept
  | reconcile instanceId operationId payloadDigest witness nowMillis =>
    refine commit_keeps hkept (.bind fun _ _ => .bind fun operation _ => .bind fun _ _ => ?_)
    cases witness with
    | none => exact .pure hkept
    | some witness =>
      refine .bind fun _ _ => ?_
      split
      · exact .refuse fun _ => .pure hkept
      · exact .refuse fun _ => recordOutcome_keeps
  | archiveResolvedBefore =>
    exact commit_keeps hkept <| .bind fun _ _ => .bind fun _ _ => .refuse fun _ =>
      .refuse fun _ => .pure ⟨⟨rfl, rfl, rfl⟩, rfl, rfl⟩
  | purgeExpiredArchives => exact commit_keeps hkept <| .bind fun _ _ => .pure ⟨⟨rfl, rfl, rfl⟩, rfl, rfl⟩

/-- Calls on tickets write no other table. -/
theorem perform_ticket (call : TicketCall) : TicketsWritten store (call.perform store).store := by
  have hkept : TicketsWritten store store := ⟨.refl store, rfl⟩
  cases call with
  | issue =>
    refine commit_keeps hkept (.bind fun _ _ => .bind fun _ _ => .bind fun _ _ => .bind fun _ _ =>
      .bind fun _ _ => .bind fun _ _ => .bind fun _ _ => .bind fun _ _ => .refuse fun _ =>
      .refuse fun _ => .bind fun _ _ => .bind fun _ _ => .bind fun _ _ => .refuse fun _ =>
      .bind fun _ _ => .refuse fun _ => .refuse fun _ => ?_)
    split
    · exact .refuse fun _ => .pure hkept
    · exact insertTicket_keeps
  | validate => exact hkept
  | transition =>
    exact commit_keeps hkept <| .bind fun _ _ => .bind fun _ _ => .refuse fun _ =>
      .refuse fun _ => .refuse fun _ => .pure ⟨⟨⟨rfl, rfl, rfl⟩, rfl, rfl⟩, rfl⟩
  | recordHost =>
    exact commit_keeps hkept <| .bind fun _ _ => .refuse fun _ => .bind fun _ _ =>
      .refuse fun _ => .bind fun _ _ => .refuse fun _ => .bind fun _ _ => .bind fun _ _ =>
      .refuse fun _ => storeHostTicket_keeps
  | recordHistoricalHost =>
    exact commit_keeps hkept <| .bind fun _ _ => .bind fun _ _ => .bind fun _ _ =>
      .bind fun _ _ => storeHostTicket_keeps
  | expire => exact commit_keeps hkept <| .bind fun _ _ => .pure ⟨⟨⟨rfl, rfl, rfl⟩, rfl, rfl⟩, rfl⟩

/-- Calls on continuation owners write no other table. -/
theorem perform_owner (call : OwnerCall) : KeepsTables store (call.perform store).store := by
  have hkept := KeepsTables.refl store
  cases call with
  | claim =>
    refine commit_keeps hkept (.bind fun _ _ => .bind fun _ _ => .bind fun _ _ => .bind fun _ _ =>
      .refuse fun _ => .refuse fun _ => ?_)
    split
    · exact .refuse fun _ => .pure hkept
    · refine .refuse fun _ => .refuse fun _ => ?_
      dsimp only
      split
      · exact .pure ⟨⟨rfl, rfl, rfl⟩, rfl, rfl⟩
      · exact .error
  | adopt => exact hkept

end Token

end Sts2Gateway.Recovery
