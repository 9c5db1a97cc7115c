/-
What a call can do to a lease.

* `Call.completing`: the pending renewal that a call commits;
* `HostAck`, `Call.hostAck`, `HostAck.Matches`: what an acknowledgment of the host names,
  and the pending row that it is for;
* `LeaseRow.Change`: the changes of one row, each with what the call checked;
* `LeaseStep`: **the leases of a store after any call**: each row is changed in one
  of these ways, or a new one is granted while no other is active;
* `Booted`: what a boot does to the store;
* `next_leases`, `next_authority`: every call makes such a step.
-/
import Mathlib.Tactic
import Sts2Gateway.Recovery.Runs

namespace Sts2Gateway.Recovery

open Machine Procedure Relational Text

/-! ### Changes of a row -/

/-- The row and the sequence of a pending renewal that the call commits. -/
def Call.completing (store : GatewayRecoveryStore) : Call → Option (LeaseRow × ℕ)
  | .hostLease (.completeRenew leaseId installationId grantDigest renewSequence expiresAtMillis
      hostInstallGeneration ackMessageId ackRecordedAtMillis) =>
    match store.admitHostLeaseRenew leaseId installationId grantDigest renewSequence
        expiresAtMillis hostInstallGeneration ackMessageId ackRecordedAtMillis with
    | .ok (row, false) =>
      if row.hostGrantDigest = some grantDigest ∧ row.status = .active then some (row, renewSequence)
      else none
    | _ => none
  | _ => none

/-- What an acknowledgment of the host repeats of its lease.  Only a renewal has a
sequence and a deadline. -/
structure HostAck where
  kind : HostAckKind
  leaseId : String
  installationId : String
  grantDigest : String
  hostInstallGeneration : ℕ
  renewSequence : ℕ
  expiresAtMillis : ℕ
deriving DecidableEq

/-- The acknowledgment that a call brings, without its own identity and time. -/
def Call.hostAck : Call → Option HostAck
  | .hostLease (.completeInstall leaseId installationId grantDigest hostInstallGeneration _ _) =>
    some ⟨.install, leaseId, installationId, grantDigest, hostInstallGeneration, 0, 0⟩
  | .hostLease (.completeRenew leaseId installationId grantDigest renewSequence expiresAtMillis
      hostInstallGeneration _ _) =>
    some ⟨.renew, leaseId, installationId, grantDigest, hostInstallGeneration, renewSequence,
      expiresAtMillis⟩
  | .hostLease (.completeRevoke leaseId installationId grantDigest hostInstallGeneration _ _) =>
    some ⟨.revoke, leaseId, installationId, grantDigest, hostInstallGeneration, 0, 0⟩
  | _ => none

/-- The row that waits for an acknowledgment. -/
structure HostAck.Matches (ack : HostAck) (row : LeaseRow) : Prop where
  pending : row.hostState = ack.kind.pending
  installation : row.hostInstallationId = some ack.installationId
  digest : row.hostGrantDigest = some ack.grantDigest
  sequence : ack.kind = .renew → row.pendingRenewSequence = some ack.renewSequence
  expires : ack.kind = .renew → row.pendingExpiresAtMillis = some ack.expiresAtMillis

inductive LeaseRow.Change (store : GatewayRecoveryStore) (call : Call) (row : LeaseRow) :
    LeaseRow → Prop where
  | kept : Change store call row row
  | expired (active : row.status = .active) : Change store call row row.expire
  | revoked (reason : String) (active : row.status = .active) :
      Change store call row (row.revoke reason)
  | replaced (reason : String) (active : row.status = .active) :
      Change store call row (row.revoke reason).invalidateHost
  | invalidated : Change store call row row.invalidateHost
  | renewed (expires renewSequence : ℕ) (active : row.status = .active)
      (deadline : row.expiresAtMillis ≤ expires) (sequence : row.lastRenewSequence < renewSequence) :
      Change store call row (row.renew expires renewSequence)
  | installPrepared (hostFenceId : String) (hostFenceGeneration : ℕ)
      (installationId grantDigest : String) (active : row.status = .active)
      (uninstalled : row.hostInstallationId = none)
      (authority : ∃ a, store.authority = some a ∧ a.bootId = row.bootId ∧
        a.authorityGeneration = row.authorityGeneration) :
      Change store call row
        (row.prepareInstall hostFenceId hostFenceGeneration installationId grantDigest)
  | digestSet (grantDigest : String)
      (pending : row.hostState = .pendingHostInstall ∨ row.hostState = .pendingHostRenew ∨
        row.hostState = .pendingHostRevoke) :
      Change store call row (row.setGrantDigest grantDigest)
  | acknowledged (kind : HostAckKind) (installationId grantDigest : String)
      (hostInstallGeneration renewSequence : ℕ) (ackMessageId : String) (ackRecordedAtMillis : ℕ)
      (pending : row.hostState = kind.pending)
      (installation : row.hostInstallationId = some installationId)
      (digest : row.hostGrantDigest = some grantDigest)
      (origin : ∃ ack, call.hostAck = some ack ∧ ack.kind = kind ∧ kind ≠ .renew ∧
        ack.leaseId = row.leaseId ∧ ack.Matches row) (fresh : renewSequence = 0) :
      Change store call row (row.acknowledge kind.state hostInstallGeneration renewSequence
        ackMessageId ackRecordedAtMillis)
  | renewPrepared (expires renewSequence : ℕ) (active : row.status = .active)
      (installed : row.hostState = .installed) (deadline : row.expiresAtMillis < expires)
      (sequence : row.lastRenewSequence < renewSequence) :
      Change store call row (row.prepareRenew expires renewSequence)
  | renewCompleted (hostInstallGeneration renewSequence : ℕ) (ackMessageId : String)
      (ackRecordedAtMillis expires : ℕ) (completing : call.completing store = some (row, renewSequence))
      (pending : row.hostState = .pendingHostRenew)
      (pendingSequence : row.pendingRenewSequence = some renewSequence)
      (pendingExpires : row.pendingExpiresAtMillis = some expires)
      (deadline : row.expiresAtMillis < expires)
      (origin : ∃ ack, call.hostAck = some ack ∧ ack.kind = .renew ∧
        ack.leaseId = row.leaseId ∧ ack.renewSequence = renewSequence ∧ ack.Matches row) :
      Change store call row (row.completeRenew hostInstallGeneration renewSequence ackMessageId
        ackRecordedAtMillis expires)
  | revokeBegun (reason : String) (active : row.status = .active)
      (installed : row.hostState = .installed) :
      Change store call row (row.beginRevoke reason)

/-! ### Steps of the table -/

abbrev LeaseTable := Table String LeaseRow LeaseRow.leaseId

/-- What a granted row says of the store that granted it. -/
structure Granted (store : GatewayRecoveryStore) (row : LeaseRow) : Prop where
  active : row.status = .active
  epoch : row.leaseEpoch = store.leases.maximum LeaseRow.leaseEpoch + 1
  sequence : row.lastRenewSequence = 0
  uninstalled : row.hostState = .uninstalled
  installation : row.hostInstallationId = none
  hostSequence : row.hostRenewSequence = 0
  authority : ∃ a, store.authority = some a ∧ a.state = .ready ∧ a.deploymentId = row.deploymentId ∧
    a.instanceId = row.instanceId ∧ a.instanceIncarnation = row.instanceIncarnation ∧
    a.bootId = row.bootId ∧ a.authorityGeneration = row.authorityGeneration

/-- The leases after a call. -/
inductive LeaseStep (store : GatewayRecoveryStore) (call : Call) (leases : LeaseTable) : Prop where
  | changed (rows : ∀ id, Option.Rel (LeaseRow.Change store call) (store.leases.find? id)
      (leases.find? id))
  | granted (row : LeaseRow) (unknown : store.leases.find? row.leaseId = none)
      (granted : Granted store row) (found : leases.find? row.leaseId = some row)
      (others : ∀ id, id ≠ row.leaseId → Option.Rel (LeaseRow.Change store call)
        (store.leases.find? id) (leases.find? id))
      (idle : ∀ id other, id ≠ row.leaseId → leases.find? id = some other →
        other.status ≠ .active)

section Rows

variable {store : GatewayRecoveryStore} {call : Call} {row after : LeaseRow}

lemma isActive_iff : row.isActive = true ↔ row.status = .active := by
  simp [LeaseRow.isActive]

lemma invalidateHost_of_not_live (h : row.isHostLive = false) : row.invalidateHost = row := by
  simp [LeaseRow.invalidateHost, h]

/-- Every change keeps the columns that name a lease and its owner. -/
lemma LeaseRow.Change.identity (h : row.Change store call after) :
    after.leaseId = row.leaseId ∧ after.leaseEpoch = row.leaseEpoch ∧
      after.authorityGeneration = row.authorityGeneration := by
  cases h <;> exact ⟨rfl, rfl, rfl⟩

/-- No change makes a lease active. -/
lemma LeaseRow.Change.active (h : row.Change store call after) (hactive : after.status = .active) :
    row.status = .active := by
  cases h with
  | kept => exact hactive
  | expired hrow => exact hrow
  | revoked _ hrow => exact hrow
  | replaced _ hrow => exact hrow
  | invalidated => exact hactive
  | renewed _ _ hrow => exact hrow
  | installPrepared _ _ _ _ hrow => exact hrow
  | digestSet => exact hactive
  | acknowledged => exact hactive
  | renewPrepared _ _ hrow => exact hrow
  | renewCompleted => exact hactive
  | revokeBegun _ hrow => exact hrow

/-- An update that changes each row it selects. -/
lemma rel_update {p : LeaseRow → Bool} {f : LeaseRow → LeaseRow}
    (hf : ∀ row, (f row).leaseId = row.leaseId)
    (h : ∀ row, store.leases.find? row.leaseId = some row → p row = true →
      row.Change store call (f row)) (id : String) :
    Option.Rel (LeaseRow.Change store call) (store.leases.find? id)
      ((store.leases.update p f hf).find? id) := by
  rw [Table.find?_update]
  cases hfind : store.leases.find? id with
  | none => exact .none
  | some row =>
    refine .some ?_
    have hid := Table.key_of_find? hfind
    cases hp : p row with
    | false => simpa [hp] using LeaseRow.Change.kept
    | true => simpa [hp] using h row (hid ▸ hfind) hp

lemma rel_kept (store : GatewayRecoveryStore) (call : Call) (id : String) :
    Option.Rel (LeaseRow.Change store call) (store.leases.find? id)
      (store.leases.find? id) := by
  cases store.leases.find? id with
  | none => exact .none
  | some row => exact .some .kept

end Rows

/-! ### Boots -/

/-- What a boot does to a lease. -/
def replaceLease (reason : String) (row : LeaseRow) : LeaseRow :=
  if row.isActive then (row.revoke reason).invalidateHost else row.invalidateHost

/-- The generation that the authority has handed out last. -/
def GatewayRecoveryStore.generation (store : GatewayRecoveryStore) : ℕ :=
  store.authority.elim 0 AuthorityRow.authorityGeneration

/-- What a boot leaves behind. -/
structure Booted (store : GatewayRecoveryStore) (boot : RecoveryBootContext)
    (after : GatewayRecoveryStore) : Prop where
  config : after.config = store.config
  authority : ∃ row, after.authority = some row ∧ row.context = boot ∧ row.fence = none
  generation : boot.authorityGeneration = store.generation + 1
  leases : ∃ reason, ∀ id, after.leases.find? id = (store.leases.find? id).map (replaceLease reason)
  operations : ∃ nowMillis, after.operations = rotateOperations store.operations nowMillis
  operationArchive : after.operationArchive = store.operationArchive
  admissionTickets : after.admissionTickets = store.admissionTickets
  continuationOwnerClaims : after.continuationOwnerClaims = store.continuationOwnerClaims
  sameInstance : ∀ a, store.authority = some a → a.instanceId = boot.instanceId

lemma nextGeneration_eq_ok {generation next : ℕ} (h : nextGeneration generation = .ok next) :
    next = generation + 1 ∧ next ≤ maxWireInteger := by
  unfold nextGeneration at h
  split_ifs at h with hle
  cases h
  exact ⟨rfl, hle⟩

lemma find?_invalidateHostLeases (leases : LeaseTable) (id : String) :
    (invalidateHostLeases leases).find? id = (leases.find? id).map LeaseRow.invalidateHost := by
  rw [invalidateHostLeases, Table.find?_update]
  refine congrArg (Option.map · _) (funext fun row => ?_)
  cases hlive : row.isHostLive with
  | true => rfl
  | false => exact (invalidateHost_of_not_live hlive).symm

lemma startBoot_booted {store : GatewayRecoveryStore}
    {bootId deploymentId instanceId instanceIncarnation : String} {release : RecoveryReleaseSet}
    {nowMillis : ℕ} :
    Returns (store.startBootWithIncarnation bootId deploymentId instanceId instanceIncarnation
      release nowMillis) fun (boot, after) => Booted store boot after := by
  refine .bind fun _ _ => .bind fun _ _ => .bind fun _ _ => .bind fun _ _ => .bind fun _ _ =>
    .bind fun generation hgeneration => .pure ?_
  refine ⟨rfl, ⟨_, rfl, rfl, rfl⟩, ?_, ⟨"incarnation_replaced", fun id => ?_⟩, ⟨_, rfl⟩, rfl, rfl,
    rfl, fun a ha => ?_⟩
  · change generation = store.generation + 1
    rw [GatewayRecoveryStore.generation]
    rw [GatewayRecoveryStore.bootGeneration] at hgeneration
    cases hold : store.authority with
    | none =>
      rw [hold] at hgeneration
      cases hgeneration
      rfl
    | some old =>
      simp only [hold, except_bind_eq_ok] at hgeneration
      obtain ⟨_, -, _, -, hnext⟩ := hgeneration
      exact (nextGeneration_eq_ok hnext).1
  · rw [find?_invalidateHostLeases, Table.find?_update, Option.map_map]
    refine congrArg (Option.map · _) (funext fun row => ?_)
    cases hactive : row.isActive with
    | false => simp [replaceLease, hactive]
    | true =>
      have hdead : ((row.revoke "incarnation_replaced").invalidateHost).isHostLive = false := by
        cases hstate : row.hostState <;>
          simp [LeaseRow.invalidateHost, LeaseRow.isHostLive, LeaseRow.revoke, hstate,
            RecoveryHostLeaseState.isLive]
      simp [replaceLease, hactive, invalidateHost_of_not_live hdead]
  · rw [GatewayRecoveryStore.bootGeneration, ha] at hgeneration
    simp only [except_bind_eq_ok, refuse_eq_ok, not_or, not_not] at hgeneration
    obtain ⟨_, ⟨-, hinstance⟩, -⟩ := hgeneration
    exact hinstance

lemma rekeyNamespace_booted {store : GatewayRecoveryStore}
    {bootId incarnation deploymentId instanceId : String} {release : RecoveryReleaseSet}
    {nowMillis : ℕ} :
    Returns (store.rekeyNamespace bootId incarnation deploymentId instanceId release nowMillis)
      fun (boot, after) => Booted store boot after := by
  refine .bind fun _ _ => .bind fun _ _ => .bind fun _ _ => .bind fun _ _ =>
    .bind fun current hcurrent => .refuse fun hinstance => .bind fun _ _ =>
    .bind fun generation hgeneration => .pure ?_
  refine ⟨rfl, ⟨_, rfl, rfl, rfl⟩, ?_, ⟨"rekey", fun id => ?_⟩, ⟨_, rfl⟩, rfl, rfl, rfl,
    fun stored hstored => ?_⟩
  · obtain ⟨a, ha, hboot⟩ := currentBoot_eq_ok hcurrent
    obtain ⟨-, -, -, -, hgen, -⟩ := rowBoot_eq_ok hboot
    change generation = store.generation + 1
    rw [GatewayRecoveryStore.generation, ha, (nextGeneration_eq_ok hgeneration).1, hgen]
    rfl
  · rw [find?_invalidateHostLeases, Table.find?_update, Option.map_map]
    refine congrArg (Option.map · _) (funext fun row => ?_)
    cases hactive : row.isActive <;> simp [replaceLease, hactive]
  · obtain ⟨a, ha, hboot⟩ := currentBoot_eq_ok hcurrent
    rw [hstored] at ha
    cases ha
    exact (rowBoot_eq_ok hboot).2.1.symm.trans (not_not.mp hinstance)

/-- A boot changes each lease, and leaves none active. -/
lemma Booted.leaseStep {store after : GatewayRecoveryStore} {boot : RecoveryBootContext}
    (h : Booted store boot after) (call : Call) : LeaseStep store call after.leases := by
  obtain ⟨reason, hleases⟩ := h.leases
  refine .changed fun id => ?_
  rw [hleases]
  cases store.leases.find? id with
  | none => exact .none
  | some row =>
    refine .some ?_
    rw [replaceLease]
    split_ifs with hactive
    · exact .replaced reason (isActive_iff.mp hactive)
    · exact .invalidated

lemma Booted.idle {store after : GatewayRecoveryStore} {boot : RecoveryBootContext}
    (h : Booted store boot after) {id : String} {row : LeaseRow}
    (hrow : after.leases.find? id = some row) : row.status ≠ .active := by
  obtain ⟨reason, hleases⟩ := h.leases
  rw [hleases, Option.map_eq_some_iff] at hrow
  obtain ⟨old, -, rfl⟩ := hrow
  rw [replaceLease]
  split_ifs with hactive
  · simp [LeaseRow.invalidateHost, LeaseRow.revoke]
  · exact fun heq => hactive (isActive_iff.mpr heq)

lemma Booted.generation_eq {store after : GatewayRecoveryStore} {boot : RecoveryBootContext}
    (h : Booted store boot after) : after.generation = boot.authorityGeneration := by
  obtain ⟨row, hrow, rfl, -⟩ := h.authority
  rw [GatewayRecoveryStore.generation, hrow]
  rfl

/-- What a call on the authority leaves behind. -/
inductive AuthorityStep (store : GatewayRecoveryStore) : Reply Answer → Prop where
  | refused (e : RecoveryStoreError) : AuthorityStep store ⟨.error e, store⟩
  | booted (boot : RecoveryBootContext) (after : GatewayRecoveryStore)
      (booted : Booted store boot after) : AuthorityStep store ⟨.ok (.boot boot), after⟩
  | fenced (row : AuthorityRow) (columns : FenceColumns) (fence : RecoveryHostFence)
      (authority : store.authority = some row) :
      AuthorityStep store ⟨.ok (.fence fence),
        { store with authority := some { row with state := .ready, fence := some columns } }⟩

lemma perform_authority (store : GatewayRecoveryStore) (call : AuthorityCall) :
    AuthorityStep store (call.perform store) := by
  have hcommit : ∀ {α : Type} (transaction : Except RecoveryStoreError (α × GatewayRecoveryStore))
      (f : α → Answer), Returns transaction (fun taken => AuthorityStep store ⟨.ok (f taken.1), taken.2⟩) →
      AuthorityStep store ((commit store transaction).map f) := by
    intro α transaction f h
    rcases commit_cases store transaction with ⟨e, -, hcommit⟩ | ⟨a, after, hok, hcommit⟩
    · rw [hcommit]
      exact .refused e
    · rw [hcommit]
      exact h (a, after) hok
  cases call with
  | startBoot => exact hcommit _ _ fun _ h => .booted _ _ (startBoot_booted _ h)
  | rekeyNamespace => exact hcommit _ _ fun _ h => .booted _ _ (rekeyNamespace_booted _ h)
  | completeHostFence =>
    refine hcommit _ _ (.bind fun _ _ => .bind fun _ _ => .bind fun _ _ => .bind fun _ _ =>
      .refuse fun _ => ?_)
    cases hrow : store.authority with
    | none => exact .error
    | some row => exact .refuse fun _ => .pure (.fenced row _ _ hrow)

/-! ### Calls on leases -/

/-- What a call on leases leaves behind. -/
structure LeasesWritten (store : GatewayRecoveryStore) (call : Call)
    (after : GatewayRecoveryStore) : Prop extends KeepsOperations store after where
  authority : after.authority = store.authority
  leases : LeaseStep store call after.leases
  admissionTickets : after.admissionTickets = store.admissionTickets
  continuationOwnerClaims : after.continuationOwnerClaims = store.continuationOwnerClaims

section Written

variable {store : GatewayRecoveryStore} {call : Call}

lemma LeasesWritten.kept : LeasesWritten store call store :=
  ⟨⟨rfl, rfl, rfl⟩, rfl, .changed (rel_kept store call), rfl, rfl⟩

lemma LeasesWritten.update {p : LeaseRow → Bool} {f : LeaseRow → LeaseRow}
    {hf : ∀ row, (f row).leaseId = row.leaseId}
    (h : ∀ row, store.leases.find? row.leaseId = some row → p row = true →
      row.Change store call (f row)) :
    LeasesWritten store call { store with leases := store.leases.update p f hf } :=
  ⟨⟨rfl, rfl, rfl⟩, rfl, .changed (rel_update hf h), rfl, rfl⟩

/-- A binding update writes the rows that it selects. -/
lemma updateBinding_written {leaseId : String} {due : LeaseRow → Bool} {set : LeaseRow → LeaseRow}
    {hset : ∀ row, (set row).leaseId = row.leaseId}
    (h : ∀ row, store.leases.find? row.leaseId = some row → due row = true →
      row.Change store call (set row)) :
    Returns (store.updateBinding leaseId due set hset) fun (_, after) =>
      LeasesWritten store call after := by
  refine .refuse fun _ => ?_
  dsimp only
  split
  · exact .pure (.update h)
  · exact .error

lemma rel_expireDue (store : GatewayRecoveryStore) (call : Call) (nowMillis : ℕ) (id : String) :
    Option.Rel (LeaseRow.Change store call) (store.leases.find? id)
      ((store.expireDue nowMillis).leases.find? id) := by
  refine rel_update LeaseRow.leaseId_expire (fun row _ hdue => .expired ?_) id
  rw [LeaseRow.isDue, Bool.and_eq_true, isActive_iff] at hdue
  exact hdue.1

lemma expireDue_written (nowMillis : ℕ) :
    LeasesWritten store call (store.expireDue nowMillis) :=
  ⟨⟨rfl, rfl, rfl⟩, rfl, .changed (rel_expireDue store call nowMillis), rfl, rfl⟩

/-- An expiry leaves the epochs alone. -/
lemma maximum_expireDue (nowMillis : ℕ) :
    (store.expireDue nowMillis).leases.maximum LeaseRow.leaseEpoch =
      store.leases.maximum LeaseRow.leaseEpoch :=
  Table.maximum_update LeaseRow.leaseId_expire fun _ => rfl

/-- The checks of a granted lease read the authority as it is. -/
lemma checkLeaseRequest_authority {request : RecoveryLeaseRequest}
    (h : store.checkLeaseRequest request = .ok ()) :
    ∃ a, store.authority = some a ∧ a.state = .ready ∧ a.deploymentId = request.deploymentId ∧
      a.instanceId = request.instanceId ∧ a.instanceIncarnation = request.instanceIncarnation ∧
      a.bootId = request.bootId ∧ a.authorityGeneration = request.authorityGeneration := by
  simp only [GatewayRecoveryStore.checkLeaseRequest, except_bind_eq_ok, refuse_eq_ok] at h
  obtain ⟨_, -, _, -, _, -, _, -, _, -, _, -, _, -, _, -, _, -, _, -, _, -, _, -, _, -, boot, hboot,
    _, hauthority, -⟩ := h
  obtain ⟨a, ha, hrow⟩ := currentBoot_eq_ok hboot
  obtain ⟨h1, h2, h3, h4, h5, -, -, h8⟩ := rowBoot_eq_ok hrow
  simp only [not_or, not_not, h1, h2, h3, h4, h5, h8] at hauthority
  exact ⟨a, ha, hauthority⟩

end Written

section Token

variable [Sha256] {store : GatewayRecoveryStore} {call : Call}

/-- **A lease is granted** when no other is active, under the next epoch. -/
lemma insertLease_eq_ok {leaseId token : String} {request : RecoveryLeaseRequest}
    {lease : RecoveryLease} {after : GatewayRecoveryStore}
    (h : store.insertLease leaseId token request = .ok (lease, after)) :
    (∀ row ∈ store.leases.rows, row.status ≠ .active) ∧ ∃ expires leases,
      store.leases.insert (GatewayRecoveryStore.grantedRow request leaseId token
        (store.leases.maximum LeaseRow.leaseEpoch + 1) expires) = some leases ∧
      lease = rowLease (GatewayRecoveryStore.grantedRow request leaseId token
        (store.leases.maximum LeaseRow.leaseEpoch + 1) expires) token ∧
      after = { store with leases } := by
  simp only [GatewayRecoveryStore.insertLease, except_bind_eq_ok, refuse_eq_ok] at h
  obtain ⟨_, hidle, _, -, _, -, expires, -, h⟩ := h
  refine ⟨fun row hrow hactive => hidle ?_, expires, ?_⟩
  · exact List.any_eq_true.mpr ⟨row, hrow, isActive_iff.mpr hactive⟩
  · split at h
    · rename_i leases hinsert
      cases h
      exact ⟨leases, hinsert, rfl, rfl⟩
    · cases h

/-- What `acquireLease` answers and leaves behind. -/
inductive Acquired (store : GatewayRecoveryStore) (call : Call) (token : String) :
    Reply RecoveryLease → Prop where
  | refused (e : RecoveryStoreError) (after : GatewayRecoveryStore)
      (written : LeasesWritten store call after) : Acquired store call token ⟨.error e, after⟩
  | granted (row : LeaseRow) (after : GatewayRecoveryStore) (granted : Granted store row)
      (found : after.leases.find? row.leaseId = some row)
      (written : LeasesWritten store call after) :
      Acquired store call token ⟨.ok (rowLease row token), after⟩

lemma acquireLease_acquired (store : GatewayRecoveryStore) (call : Call)
    (leaseId token : String) (request : RecoveryLeaseRequest) :
    Acquired store call token (store.acquireLease leaseId token request) := by
  unfold GatewayRecoveryStore.acquireLease
  cases hcheck : store.checkLeaseRequest request with
  | error e => exact .refused e store .kept
  | ok _ =>
    cases hexpire : store.expireLeases request.nowMillis with
    | error e => exact .refused e store .kept
    | ok p =>
      simp only [GatewayRecoveryStore.expireLeases, except_bind_eq_ok] at hexpire
      obtain ⟨_, -, hexpire⟩ := hexpire
      cases hexpire
      dsimp only
      set expired := store.expireDue request.nowMillis with hexpired
      rcases commit_cases expired (expired.insertLease leaseId token request) with
        ⟨e, -, hcommit⟩ | ⟨lease, after, hok, hcommit⟩
      · rw [hcommit]
        exact .refused e expired (expireDue_written _)
      · rw [hcommit]
        obtain ⟨hidle, expires, leases, hinsert, rfl, rfl⟩ := insertLease_eq_ok hok
        rw [hexpired, maximum_expireDue] at hinsert ⊢
        set row := GatewayRecoveryStore.grantedRow request leaseId token
          (store.leases.maximum LeaseRow.leaseEpoch + 1) expires with hrow
        have hgranted : Granted store row :=
          ⟨rfl, rfl, rfl, rfl, rfl, rfl, checkLeaseRequest_authority hcheck⟩
        have hfound : leases.find? row.leaseId = some row := by
          rw [Table.find?_insert hinsert, if_pos rfl]
        have hother : ∀ id, id ≠ row.leaseId →
            leases.find? id = (store.expireDue request.nowMillis).leases.find? id := by
          intro id hid
          rw [Table.find?_insert hinsert, if_neg (Ne.symm hid)]
        have hunknown : store.leases.find? row.leaseId = none := by
          have hrel := rel_expireDue store call request.nowMillis row.leaseId
          rw [(Table.insert_eq_some.mp hinsert).1] at hrel
          cases hstore : store.leases.find? row.leaseId with
          | none => rfl
          | some old =>
            rw [hstore] at hrel
            cases hrel
        refine .granted row _ hgranted hfound ⟨⟨rfl, rfl, rfl⟩, rfl, ?_, rfl, rfl⟩
        refine .granted row hunknown hgranted hfound (fun id hid => ?_) fun id other hid hother' => ?_
        · rw [hother id hid]
          exact rel_expireDue store call request.nowMillis id
        · rw [hother id hid] at hother'
          exact hidle other (Table.mem_of_find? hother')

lemma renewable_presented {proof : RecoveryLeaseProof} {renewSequence nowMillis : ℕ} :
    Returns (store.renewable proof renewSequence nowMillis) fun row =>
      Presented store proof row ∧ row.status = .active := by
  refine .bind fun _ _ => .bind fun _ _ => .refuse fun _ => .bind fun _ _ => .bind fun _ _ =>
    .refuse fun _ => .bind fun row hrow => .bind fun _ hidentity => .bind fun _ hactive => .pure ?_
  exact ⟨presented_of_checks hrow hidentity, requireActive_eq_ok.mp hactive⟩

/-- A statement on the row that a proof names. -/
lemma Presented.only {proof : RecoveryLeaseProof} {row other : LeaseRow}
    (h : Presented store proof row) (hother : store.leases.find? other.leaseId = some other)
    (hid : other.leaseId = proof.leaseId) : other = row := by
  rw [hid, h.found] at hother
  exact (Option.some.inj hother).symm

lemma renewRow_written {proof : RecoveryLeaseProof} {renewSequence nowMillis : ℕ} {row : LeaseRow}
    (h : Presented store proof row) :
    Returns (store.renewRow row proof renewSequence nowMillis) fun (_, after) =>
      LeasesWritten store call after := by
  refine .refuse fun _ => .bind fun _ _ => .bind fun candidate _ => .bind fun _ _ =>
    .refuse fun _ => .pure (.update fun other hfind hdue => ?_)
  simp only [Bool.and_eq_true, decide_eq_true_eq, isActive_iff] at hdue
  obtain ⟨hid, hactive, hsequence⟩ := hdue
  obtain rfl := h.only hfind hid
  exact .renewed _ _ hactive (le_max_left _ _) hsequence

lemma renewLease_written {proof : RecoveryLeaseProof} {renewSequence nowMillis : ℕ} :
    LeasesWritten store call (store.renewLease proof renewSequence nowMillis).store := by
  unfold GatewayRecoveryStore.renewLease
  cases hrenewable : store.renewable proof renewSequence nowMillis with
  | error e => exact .kept
  | ok row =>
    have ⟨hpresented, hactive⟩ := renewable_presented _ hrenewable
    dsimp only
    split_ifs
    · refine .update fun other hfind hdue => .expired ?_
      rw [Bool.and_eq_true, isActive_iff] at hdue
      exact hdue.2
    · rcases commit_cases store (store.renewRow row proof renewSequence nowMillis) with
        ⟨e, -, hcommit⟩ | ⟨lease, after, hok, hcommit⟩
      · rw [hcommit]
        exact .kept
      · rw [hcommit]
        exact renewRow_written hpresented _ hok

/-- **Calls on leases** change rows one by one, or grant a row. -/
theorem perform_lease (call : LeaseCall) :
    LeasesWritten store (.lease call) (call.perform store).store := by
  cases call with
  | acquire leaseId token request =>
    have h := acquireLease_acquired store (.lease (.acquire leaseId token request)) leaseId token
      request
    change LeasesWritten store _ (store.acquireLease leaseId token request).store
    generalize store.acquireLease leaseId token request = reply at h
    cases h with
    | refused e after written => exact written
    | granted row after granted found written => exact written
  | renew proof renewSequence nowMillis => exact renewLease_written
  | revoke proof reason =>
    refine commit_keeps .kept (.bind fun _ _ => .bind fun _ _ => .bind fun _ _ => .bind fun _ _ =>
      .refuse fun _ => .pure (.update fun other _ hdue => .revoked _ ?_))
    rw [Bool.and_eq_true, isActive_iff] at hdue
    exact hdue.2
  | expire nowMillis =>
    exact commit_keeps .kept <| .bind fun _ _ => .pure (expireDue_written nowMillis)
  | validate proof nowMillis => exact .kept

/-! ### Calls on host leases -/

/-- The first half of a renewal keeps the deadline and the sequence for later. -/
lemma prepareHostLeaseRenew_written {proof : RecoveryLeaseProof} {renewSequence nowMillis : ℕ} :
    Returns (store.prepareHostLeaseRenew proof renewSequence nowMillis) fun (_, after) =>
      LeasesWritten store call after := by
  refine .bind fun _ _ => .bind fun _ _ => .refuse fun _ => .bind fun _ _ =>
    .bind fun lease hlease => .bind fun row _ => .refuse fun _ => ?_
  by_cases hpending : row.hostState = .pendingHostRenew
  · rw [if_pos hpending]
    split
    · split_ifs
      · exact .pure .kept
      · exact .error
    · exact .error
  · rw [if_neg hpending]
    refine .refuse fun _ => .bind fun _ _ => .bind fun candidate _ => .refuse fun hlater =>
      .refuse fun _ => .pure (.update fun other hfind hdue => ?_)
    obtain ⟨row, hcurrent, rfl⟩ := ensureContext_eq_ok hlease
    simp only [Bool.and_eq_true, decide_eq_true_eq, isActive_iff] at hdue
    obtain ⟨hid, hactive, hinstalled, hsequence⟩ := hdue
    obtain rfl := hcurrent.toPresented.only hfind hid
    exact .renewPrepared _ _ hactive hinstalled (not_le.mp hlater) hsequence

end Token

section Host

variable {store : GatewayRecoveryStore} {call : Call}

lemma completeHostAck_written {kind : HostAckKind} {leaseId installationId grantDigest : String}
    {hostInstallGeneration : ℕ} {ackMessageId : String} {ackRecordedAtMillis : ℕ}
    (hkind : kind ≠ .renew)
    (hack : call.hostAck =
      some ⟨kind, leaseId, installationId, grantDigest, hostInstallGeneration, 0, 0⟩) :
    Returns (store.completeHostAck kind leaseId installationId grantDigest hostInstallGeneration 0
      ackMessageId ackRecordedAtMillis) fun (_, after) => LeasesWritten store call after := by
  refine .bind fun _ _ => .bind fun _ _ => .bind fun _ _ => .bind fun _ _ => .bind fun _ _ =>
    .bind fun _ _ => .bind fun _ _ => .refuse fun _ => .bind fun _ _ => .refuse fun _ =>
    .refuse fun _ => ?_
  split_ifs
  · exact .pure .kept
  · refine .refuse fun _ => updateBinding_written fun other _ hdue => ?_
    simp only [Bool.and_eq_true, decide_eq_true_eq] at hdue
    obtain ⟨hid, hpending, hinstallation, hdigest⟩ := hdue
    exact .acknowledged kind _ _ _ _ _ _ hpending hinstallation hdigest
      ⟨_, hack, rfl, hkind, hid.symm, hpending, hinstallation, hdigest, fun h => absurd h hkind,
        fun h => absurd h hkind⟩ rfl

lemma completeHostLeaseRenew_written {leaseId installationId grantDigest : String}
    {renewSequence expiresAtMillis hostInstallGeneration : ℕ} {ackMessageId : String}
    {ackRecordedAtMillis : ℕ} :
    Returns (store.completeHostLeaseRenew leaseId installationId grantDigest renewSequence
      expiresAtMillis hostInstallGeneration ackMessageId ackRecordedAtMillis) fun (_, after) =>
        LeasesWritten store (.hostLease (.completeRenew leaseId installationId grantDigest
          renewSequence expiresAtMillis hostInstallGeneration ackMessageId ackRecordedAtMillis))
          after := by
  refine .bind fun (row, repeated) hadmit => ?_
  dsimp only
  split_ifs with hrepeated
  · exact .pure .kept
  · rw [Bool.not_eq_true] at hrepeated
    subst hrepeated
    obtain ⟨hfound, hexpires⟩ :=
      GatewayRecoveryStore.admitHostLeaseRenew_eq_ok hadmit
    refine updateBinding_written fun other hfind hdue => ?_
    simp only [Bool.and_eq_true, decide_eq_true_eq, isActive_iff] at hdue
    obtain ⟨hid, hactive, hpending, hinstallation, hdigest, hsequence, hdeadline⟩ := hdue
    have hother : other = row := by
      rw [hid, hfound] at hfind
      exact (Option.some.inj hfind).symm
    subst hother
    refine .renewCompleted _ _ _ _ _ ?_ hpending hsequence hdeadline hexpires
      ⟨_, rfl, rfl, hid.symm, rfl, hpending, hinstallation, hdigest, fun _ => hsequence,
        fun _ => hdeadline⟩
    simp [Call.completing, hadmit, hdigest, hactive]

end Host

/-- **Calls on host leases** change rows one by one. -/
theorem perform_hostLease [Sha256] {store : GatewayRecoveryStore} (call : HostLeaseCall) :
    LeasesWritten store (.hostLease call) (call.perform store).store := by
  cases call with
  | prepareInstall =>
    refine commit_keeps .kept (.bind fun _ _ => .bind fun _ _ => .bind fun _ _ => .bind fun _ _ =>
      .bind fun _ _ => .bind fun _ _ => .bind fun row hrow => .refuse fun _ =>
      .bind fun _ hactive => .bind fun a ha => .refuse fun hauthority => ?_)
    simp only [not_or, not_not] at hauthority
    obtain ⟨-, -, -, -, hboot, hgeneration, -⟩ := hauthority
    split
    · exact .refuse fun _ => .refuse fun _ => .pure .kept
    · rename_i huninstalled
      refine .refuse fun _ => updateBinding_written fun other hfind hdue => ?_
      rw [Bool.and_eq_true, decide_eq_true_eq, isActive_iff] at hdue
      have hother : other = row := by
        rw [hdue.1, GatewayRecoveryStore.requireLease_eq_ok.mp hrow] at hfind
        exact (Option.some.inj hfind).symm
      subst hother
      refine .installPrepared _ _ _ _ hdue.2 huninstalled ⟨a, ?_, hboot, hgeneration⟩
      cases hstored : store.authority with
      | none =>
        rw [hstored] at ha
        cases ha
      | some stored =>
        rw [hstored] at ha
        cases ha
        rfl
  | setGrantDigest =>
    refine commit_keeps .kept (.bind fun _ _ => .bind fun _ _ => .bind fun _ _ => .refuse fun _ =>
      .pure (.update fun other _ hdue => .digestSet _ ?_))
    simp only [Bool.and_eq_true, decide_eq_true_eq] at hdue
    exact hdue.2.2
  | completeInstall => exact commit_keeps .kept (completeHostAck_written (by decide) rfl)
  | prepareRenew => exact commit_keeps .kept prepareHostLeaseRenew_written
  | completeRenew => exact commit_keeps .kept completeHostLeaseRenew_written
  | beginRevoke =>
    refine commit_keeps .kept (.bind fun _ _ => .bind fun _ _ => .bind fun _ _ => .bind fun _ _ =>
      .refuse fun _ => ?_)
    split_ifs
    · exact .pure .kept
    · refine .refuse fun _ => .pure (.update fun other _ hdue => ?_)
      simp only [Bool.and_eq_true, decide_eq_true_eq, isActive_iff] at hdue
      exact .revokeBegun _ hdue.2.1 hdue.2.2
  | completeRevoke => exact commit_keeps .kept (completeHostAck_written (by decide) rfl)
  | invalidateForRestart =>
    exact commit_keeps .kept (.pure (.update fun _ _ _ => .invalidated))

/-! ### Any call -/

/-- **The leases after any call.** -/
theorem next_leases [Sha256] (store : GatewayRecoveryStore) (call : Call) :
    LeaseStep store call (next store call).leases := by
  have hkept : ∀ after, KeepsAuthority store after → LeaseStep store call after.leases := by
    intro after h
    rw [h.leases]
    exact .changed (rel_kept store call)
  cases call with
  | authority call =>
    have h := perform_authority store call
    change LeaseStep store _ (call.perform store).store.leases
    generalize call.perform store = reply at h
    cases h with
    | refused => exact .changed (rel_kept store _)
    | booted boot after booted => exact booted.leaseStep _
    | fenced => exact .changed (rel_kept store _)
  | lease call => exact (perform_lease call).leases
  | hostLease call => exact (perform_hostLease call).leases
  | operation call => exact hkept _ (perform_operation call).toKeepsAuthority
  | ticket call => exact hkept _ (perform_ticket call).toKeepsAuthority
  | owner call => exact hkept _ (perform_owner call).toKeepsAuthority

/-- Only boots write the authority, apart from the host's fence. -/
theorem next_authority [Sha256] (store : GatewayRecoveryStore) (call : Call)
    (h : ∀ c, call ≠ .authority c) : (next store call).authority = store.authority := by
  cases call with
  | authority call => exact absurd rfl (h call)
  | lease call => exact (perform_lease call).authority
  | hostLease call => exact (perform_hostLease call).authority
  | operation call => exact (perform_operation call).authority
  | ticket call => exact (perform_ticket call).authority
  | owner call => exact (perform_owner call).authority

end Sts2Gateway.Recovery
