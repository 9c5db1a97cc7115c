/-
Stores that differ in what was reported of their operations, and in nothing else
(`recovery_store_operations.rs`, `recovery_store_tickets.rs`).

* `unreported`: an operation without the answer that was last recorded for it;
* `SameButReports`: two stores whose operations are the same but for that;
* `recordOutcome_both`, `markDispatched_both`, `recordHostTicket_both`: **no call looks at
  an earlier report**, so two such stores stay such stores.
-/
import Mathlib.Tactic
import Sts2Gateway.Library.Lockstep
import Sts2Gateway.Recovery.Authority
import Sts2Gateway.Recovery.Tickets

namespace Sts2Gateway.Recovery

open Crash Procedure Relational Text

/-- An operation without what was last reported of it, its state apart. -/
def RecoveryOperation.unreported (operation : RecoveryOperation) : RecoveryOperation :=
  { operation with
    responseStatus := none
    responseBody := none
    witness := none
    uncertaintyReason := none
    updatedAtMillis := 0 }

/-- Two operations that differ in their reports only. -/
def SameUnreported (operation other : RecoveryOperation) : Prop :=
  other.unreported = operation.unreported

/-- A function of an operation that reads no report. -/
lemma SameUnreported.congr {α : Type} {operation other : RecoveryOperation}
    (h : SameUnreported operation other) {f : RecoveryOperation → α}
    (hf : ∀ o, f o.unreported = f o) : f other = f operation :=
  calc f other = f other.unreported := (hf other).symm
    _ = f operation.unreported := congrArg f h
    _ = f operation := hf operation

lemma SameUnreported.state {operation other : RecoveryOperation}
    (h : SameUnreported operation other) : other.state = operation.state :=
  h.congr (f := RecoveryOperation.state) fun _ => rfl

lemma SameUnreported.withOutcome {operation other : RecoveryOperation}
    (h : SameUnreported operation other) (report : OutcomeReport) :
    other.withOutcome report = operation.withOutcome report :=
  h.congr (f := fun o => o.withOutcome report) fun _ => rfl

/-- Two stores whose operations differ in their reports only. -/
structure SameButReports (store after : GatewayRecoveryStore) : Prop where
  rest : after = { store with operations := after.operations }
  found : ∀ key, (after.operations.find? key).map RecoveryOperation.unreported =
    (store.operations.find? key).map RecoveryOperation.unreported

/-- Two transactions that answer alike and leave such stores. -/
def SameTransactions {α : Type} (R : α → α → Prop)
    (x y : Except RecoveryStoreError (α × GatewayRecoveryStore)) : Prop :=
  Both Eq (fun a b => R a.1 b.1 ∧ SameButReports a.2 b.2) x y

namespace SameButReports

lemma refl (store : GatewayRecoveryStore) : SameButReports store store := ⟨rfl, fun _ => rfl⟩

variable {store after : GatewayRecoveryStore}

/-- A statement on operations that reads no report. -/
lemma update (h : SameButReports store after) {p q : RecoveryOperation → Bool}
    {f g : RecoveryOperation → RecoveryOperation} (hf : ∀ o, (f o).key = o.key)
    (hg : ∀ o, (g o).key = o.key)
    (hpq : ∀ o o', SameUnreported o o' → q o' = p o)
    (hfg : ∀ o o', SameUnreported o o' → SameUnreported (f o) (g o')) :
    SameButReports { store with operations := store.operations.update p f hf }
      { after with operations := after.operations.update q g hg } := by
  refine ⟨?_, fun key => ?_⟩
  · rw [h.rest]
  · rw [Table.find?_update, Table.find?_update]
    have hfound := h.found key
    cases hstore : store.operations.find? key with
    | none =>
      rw [hstore] at hfound
      rw [Option.map_eq_none_iff.mp hfound]
      rfl
    | some o =>
      rw [hstore] at hfound
      obtain ⟨o', ho', hsame⟩ := Option.map_eq_some_iff.mp hfound
      rw [ho', Option.map_some, Option.map_some, Option.map_some, Option.map_some,
        hpq o o' hsame]
      cases hp : p o with
      | true => exact congrArg some (hfg o o' hsame)
      | false => exact congrArg some hsame

/-- Two calls of the store that leave its operations alone. -/
lemma keep (h : SameButReports store after) (write : GatewayRecoveryStore → GatewayRecoveryStore)
    (hwrite : ∀ store operations, write { store with operations } =
      { write store with operations }) (hkept : ∀ store, (write store).operations = store.operations) :
    SameButReports (write store) (write after) := by
  refine ⟨?_, fun key => ?_⟩
  · rw [hkept after]
    conv_lhs => rw [h.rest, hwrite]
  · rw [hkept, hkept]
    exact h.found key

lemma selectOperation (h : SameButReports store after) (key : OperationKey) :
    (after.selectOperation key).map RecoveryOperation.unreported =
      (store.selectOperation key).map RecoveryOperation.unreported := by
  have harchive : after.operationArchive = store.operationArchive := by rw [h.rest]
  rw [GatewayRecoveryStore.selectOperation, GatewayRecoveryStore.selectOperation, Option.map_or,
    Option.map_or, h.found, harchive]

/-- The state of an operation is no report. -/
lemma state (h : SameButReports store after) (key : OperationKey) :
    (after.selectOperation key).map RecoveryOperation.state =
      (store.selectOperation key).map RecoveryOperation.state := by
  have hselect := congrArg (Option.map RecoveryOperation.state) (h.selectOperation key)
  rw [Option.map_map, Option.map_map] at hselect
  exact hselect

/-! ### Reads -/

lemma requireOperation (h : SameButReports store after) (instanceId operationId : String) :
    Both Eq SameUnreported (store.requireOperation instanceId operationId)
      (after.requireOperation instanceId operationId) := by
  have hselect := h.selectOperation (instanceId, operationId)
  rw [GatewayRecoveryStore.requireOperation, GatewayRecoveryStore.requireOperation]
  cases hstore : store.selectOperation (instanceId, operationId) with
  | none =>
    rw [hstore] at hselect
    rw [Option.map_eq_none_iff.mp hselect]
    exact .error rfl
  | some operation =>
    rw [hstore] at hselect
    obtain ⟨other, hother, hsame⟩ := Option.map_eq_some_iff.mp hselect
    rw [hother]
    exact .ok hsame

lemma lookupOperation (h : SameButReports store after)
    (instanceId operationId payloadDigest : String) :
    Both Eq (Option.Rel SameUnreported)
      (store.lookupOperation instanceId operationId payloadDigest)
      (after.lookupOperation instanceId operationId payloadDigest) := by
  have hselect := h.selectOperation (instanceId, operationId)
  refine .step fun _ => .step fun _ => .step fun _ => ?_
  cases hstore : store.selectOperation (instanceId, operationId) with
  | none =>
    rw [hstore] at hselect
    rw [Option.map_eq_none_iff.mp hselect]
    exact .ok .none
  | some operation =>
    rw [hstore] at hselect
    obtain ⟨other, hother, hsame⟩ := Option.map_eq_some_iff.mp hselect
    have hdigest : other.payloadDigest = operation.payloadDigest :=
      SameUnreported.congr hsame fun _ => rfl
    rw [hother]
    dsimp only
    rw [hdigest]
    exact .step fun _ => .ok (.some hsame)

/-! ### Calls -/

section Calls

lemma admitOutcome (h : SameButReports store after) (report : OutcomeReport) :
    Both Eq SameUnreported (store.admitOutcome report) (after.admitOutcome report) := by
  have hticket : after.ticketForOperation = store.ticketForOperation := by rw [h.rest]; rfl
  have hfence : after.currentFence = store.currentFence := by rw [h.rest]; rfl
  rw [GatewayRecoveryStore.admitOutcome, GatewayRecoveryStore.admitOutcome, hticket, hfence]
  refine .step fun _ => .step fun _ => .step fun _ => .step fun _ => .step fun _ =>
    .step fun _ => .step fun _ => (h.requireOperation _ _).bind fun operation other hsame => ?_
  have hcontext : validateWitnessContext other report.witness =
      validateWitnessContext operation report.witness :=
    hsame.congr (f := fun o => validateWitnessContext o report.witness) fun _ => rfl
  rw [hcontext, hsame.state]
  exact .step fun _ => .step fun _ => .step fun _ => .ok hsame

/-- A row is live in both, or in neither. -/
lemma count_key (h : SameButReports store after) (key : OperationKey) :
    after.operations.count (fun o => decide (o.key = key)) ≠ 1 ↔
      store.operations.count (fun o => decide (o.key = key)) ≠ 1 := by
  have hfound := congrArg Option.isSome (h.found key)
  rw [Option.isSome_map, Option.isSome_map] at hfound
  rw [not_iff_not, Table.count_key, Table.count_key, ← Option.isSome_iff_exists,
    ← Option.isSome_iff_exists, hfound]

/-- **A report replaces what was reported before**, whatever it was. -/
theorem recordOutcome_both (h : SameButReports store after) (report : OutcomeReport) :
    SameTransactions Eq (store.recordOutcome report) (after.recordOutcome report) := by
  refine (h.admitOutcome report).bind fun operation other hsame => ?_
  have hkey : other.key = operation.key := hsame.congr fun _ => rfl
  have hcount := h.count_key operation.key
  dsimp only
  rw [hkey]
  simp only [refuse, hcount]
  refine .step fun _ => .ok ⟨(hsame.withOutcome report).symm, ?_⟩
  refine h.update _ _ (fun o o' ho => ?_) fun o o' ho => ?_
  · have : o'.key = o.key := ho.congr fun _ => rfl
    rw [this]
  · exact congrArg RecoveryOperation.unreported (ho.withOutcome report)

lemma checkTicketOperation_same {operation other : RecoveryOperation}
    (h : SameUnreported operation other) (ticket : RecoveryAdmissionTicket) :
    checkTicketOperation other ticket = checkTicketOperation operation ticket :=
  h.congr (f := fun o => checkTicketOperation o ticket) fun _ => rfl

lemma withTickets (h : SameButReports store after)
    (admissionTickets : Table String TicketRow fun t => t.ticket.ticketId) :
    SameButReports { store with admissionTickets } { after with admissionTickets } :=
  h.keep (fun store => { store with admissionTickets }) (fun _ _ => rfl) fun _ => rfl

/-- A ticket of the host is stored without a look at the operations. -/
lemma storeHostTicket_both (h : SameButReports store after) (instanceId : String)
    (ticket : RecoveryAdmissionTicket) :
    SameTransactions Eq (store.storeHostTicket instanceId ticket)
      (after.storeHostTicket instanceId ticket) := by
  have hticket : after.ticketForOperation = store.ticketForOperation := by rw [h.rest]; rfl
  have htickets : after.admissionTickets = store.admissionTickets := by rw [h.rest]
  rw [GatewayRecoveryStore.storeHostTicket, GatewayRecoveryStore.storeHostTicket, hticket]
  cases store.ticketForOperation instanceId ticket.operationId with
  | some existing =>
    refine .step fun _ => .ok ⟨rfl, ?_⟩
    rw [htickets]
    exact h.withTickets _
  | none =>
    dsimp only
    rw [GatewayRecoveryStore.insertTicket, GatewayRecoveryStore.insertTicket, htickets]
    cases store.admissionTickets.insert { ticket, instanceId } with
    | none => exact .error rfl
    | some admissionTickets => exact .ok ⟨rfl, h.withTickets admissionTickets⟩

theorem recordHistoricalHostTicket_both (h : SameButReports store after) (instanceId : String)
    (ticket : RecoveryAdmissionTicket) :
    SameTransactions Eq (store.recordHistoricalHostTicket instanceId ticket)
      (after.recordHistoricalHostTicket instanceId ticket) := by
  refine .step fun _ => .step fun _ => (h.requireOperation _ _).bind fun operation other hsame => ?_
  rw [checkTicketOperation_same hsame]
  exact .step fun _ => h.storeHostTicket_both instanceId ticket

lemma expireLeases_both (h : SameButReports store after) (nowMillis : ℕ) :
    SameTransactions Eq (store.expireLeases nowMillis) (after.expireLeases nowMillis) := by
  have hleases : after.leases = store.leases := by rw [h.rest]
  rw [GatewayRecoveryStore.expireLeases, GatewayRecoveryStore.expireLeases, hleases]
  refine .step fun _ => .ok ⟨rfl, ?_⟩
  exact h.keep (fun store => store.expireDue nowMillis) (fun _ _ => rfl) fun _ => rfl

variable [Sha256]

lemma ensureContext_same (h : SameButReports store after) (proof : RecoveryLeaseProof)
    (nowMillis : ℕ) : after.ensureContext proof nowMillis = store.ensureContext proof nowMillis := by
  rw [h.rest]
  rfl

theorem markDispatched_both (h : SameButReports store after) (proof : RecoveryLeaseProof)
    (instanceId operationId : String) (nowMillis : ℕ) :
    SameTransactions SameUnreported (store.markDispatched proof instanceId operationId nowMillis)
      (after.markDispatched proof instanceId operationId nowMillis) := by
  rw [GatewayRecoveryStore.markDispatched, GatewayRecoveryStore.markDispatched,
    h.ensureContext_same]
  refine .step fun _ => .step fun _ => .step fun _ =>
    (h.requireOperation _ _).bind fun operation other hsame => ?_
  have hlease : ∀ p : RecoveryLeaseProof, (other.bootId ≠ p.bootId ∨
      other.instanceIncarnation ≠ p.instanceIncarnation ∨
      other.authorityGeneration ≠ p.authorityGeneration ∨ other.leaseId ≠ p.leaseId ∨
      other.leaseEpoch ≠ p.leaseEpoch) = (operation.bootId ≠ p.bootId ∨
      operation.instanceIncarnation ≠ p.instanceIncarnation ∨
      operation.authorityGeneration ≠ p.authorityGeneration ∨ operation.leaseId ≠ p.leaseId ∨
      operation.leaseEpoch ≠ p.leaseEpoch) := fun p =>
    hsame.congr (f := fun o => o.bootId ≠ p.bootId ∨
      o.instanceIncarnation ≠ p.instanceIncarnation ∨
      o.authorityGeneration ≠ p.authorityGeneration ∨ o.leaseId ≠ p.leaseId ∨
      o.leaseEpoch ≠ p.leaseEpoch) fun _ => rfl
  simp only [refuse, hlease, hsame.state]
  refine .step fun _ => .step fun _ => .ok ⟨?_, h.update _ _ (fun o o' ho => ?_) fun o o' ho => ?_⟩
  · exact congrArg (fun o : RecoveryOperation => o.dispatch 0) hsame
  · have hkey : o'.key = o.key := ho.congr fun _ => rfl
    rw [hkey, ho.state]
  · exact congrArg (fun o : RecoveryOperation => o.dispatch 0) ho

theorem recordHostTicket_both (h : SameButReports store after) (proof : RecoveryLeaseProof)
    (fence : RecoveryHostFence) (ticket : RecoveryAdmissionTicket) (nowMillis : ℕ) :
    SameTransactions Eq (store.recordHostTicket proof fence ticket nowMillis)
      (after.recordHostTicket proof fence ticket nowMillis) := by
  have hfence : after.currentHostFence = store.currentHostFence := by rw [h.rest]; rfl
  rw [GatewayRecoveryStore.recordHostTicket, GatewayRecoveryStore.recordHostTicket,
    h.ensureContext_same, hfence]
  refine .step fun _ => .step fun _ => .step fun _ => .step fun _ => .step fun _ =>
    .step fun _ => (h.requireOperation _ _).bind fun operation other hsame => ?_
  rw [checkTicketOperation_same hsame, hsame.state]
  exact .step fun _ => .step fun _ => h.storeHostTicket_both _ _

end Calls

end SameButReports

end Sts2Gateway.Recovery
