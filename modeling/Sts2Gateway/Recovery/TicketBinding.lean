/-
The binding of admission tickets to their requests.

* `Bound`: a ticket that repeats the proof, the fence and the operation of the
  request that it answers;
* `Careful`: a step that leaves no ticket for an operation of another lease or of
  another fence: **no operation under an id that still has a ticket of other
  columns, and no historical ticket of another fence for the active lease**;
* `OperationStep.selected`, `next_stored`: where an operation and a ticket come from;
* `TicketsCurrent`: what careful steps keep;
* `tickets_bound`: **in a run of careful steps every issued ticket is bound**;
* `issued_unbound`: an id used again answers its old ticket.
-/
import Mathlib.Tactic
import Sts2Gateway.Recovery.Archive
import Sts2Gateway.Recovery.Fence
import Sts2Gateway.Recovery.TicketHistory

namespace Sts2Gateway.Recovery

open Machine Procedure Relational Text

/-! ### Operations -/

/-- The columns of an operation that its tickets repeat. -/
structure SameColumns (first second : RecoveryOperation) : Prop where
  payload : first.payloadDigest = second.payloadDigest
  boot : first.bootId = second.bootId
  incarnation : first.instanceIncarnation = second.instanceIncarnation
  epoch : first.leaseEpoch = second.leaseEpoch

section Operations

variable {store after : GatewayRecoveryStore} {call : Call} {key : OperationKey}
  {operation changed : RecoveryOperation}

lemma RecoveryOperation.Change.columns (h : operation.Change store call changed) :
    SameColumns changed operation := by
  cases h <;> exact ⟨rfl, rfl, rfl, rfl⟩

/-- An operation after a call was there before, or an intent has recorded it. -/
lemma OperationStep.selected (h : OperationStep store call after) (hstore : Separate store)
    (hselect : after.selectOperation key = some operation) :
    (∃ old, store.selectOperation key = some old ∧ SameColumns operation old) ∨
      ∃ proof intent, call = .operation (.recordIntent proof intent) ∧
        store.selectOperation key = none ∧ key = intent.operation.key ∧
        operation = intent.operation := by
  cases h with
  | kept kept =>
    rw [GatewayRecoveryStore.selectOperation, kept.operations, kept.operationArchive] at hselect
    exact .inl ⟨operation, hselect, rfl, rfl, rfl, rfl⟩
  | updated p f hf config operations operationArchive change =>
    rw [GatewayRecoveryStore.selectOperation, operations, operationArchive,
      Table.find?_update] at hselect
    cases hlive : store.operations.find? key with
    | none =>
      rw [hlive] at hselect
      refine .inl ⟨operation, ?_, rfl, rfl, rfl, rfl⟩
      rw [GatewayRecoveryStore.selectOperation, hlive]
      exact hselect
    | some old =>
      rw [hlive] at hselect
      refine .inl ⟨old, selectOperation_of_live hlive, ?_⟩
      obtain rfl := Option.some.inj hselect
      have hkey := Table.key_of_find? hlive
      dsimp only
      split_ifs with hp
      · exact (change old (hkey ▸ hlive) hp).columns
      · exact ⟨rfl, rfl, rfl, rfl⟩
  | recorded intent operations room inserted origin =>
    obtain ⟨proof, rfl⟩ := origin
    by_cases hkey : intent.operation.key = key
    · subst hkey
      have hlive : operations.find? intent.operation.key = some intent.operation := by
        rw [Table.find?_insert inserted, if_pos rfl]
      rw [GatewayRecoveryStore.selectOperation, hlive] at hselect
      exact .inr ⟨proof, intent, rfl, room.unknown, rfl, (Option.some.inj hselect).symm⟩
    · rw [GatewayRecoveryStore.selectOperation, Table.find?_insert inserted, if_neg hkey] at hselect
      exact .inl ⟨operation, hselect, rfl, rfl, rfl, rfl⟩
  | archived cutoffMillis nowMillis =>
    rw [selectOperation_archived _ _ _ hstore] at hselect
    exact .inl ⟨operation, hselect, rfl, rfl, rfl, rfl⟩
  | purged due nowMillis =>
    refine .inl ⟨operation, ?_, rfl, rfl, rfl, rfl⟩
    rw [GatewayRecoveryStore.selectOperation, Table.find?_delete] at hselect
    rw [GatewayRecoveryStore.selectOperation]
    cases hlive : store.operations.find? key with
    | some live => rwa [hlive] at hselect
    | none =>
      rw [hlive, Option.none_or, Option.map_eq_some_iff] at hselect
      obtain ⟨archived, hkept, rfl⟩ := hselect
      rw [Option.filter_eq_some_iff] at hkept
      rw [hkept.1]
      rfl

end Operations

/-! ### Tickets -/

/-- The host fence of the current boot. -/
def FencedBy (store : GatewayRecoveryStore) (hostFenceId : String) : Prop :=
  ∃ fence, store.currentFence = some fence ∧ fence.hostFenceId = hostFenceId

/-- Each ticket was there before, in some state, or is stored by the call. -/
def StoredOnly (store : GatewayRecoveryStore) (P : TicketRow → Prop)
    (after : GatewayRecoveryStore) : Prop :=
  ∀ row ∈ after.admissionTickets.rows,
    (∃ before ∈ store.admissionTickets.rows, row = before.withState row.ticket.state) ∨ P row

section Tickets

variable {store after : GatewayRecoveryStore} {P : TicketRow → Prop}

lemma storedOnly_of_kept (h : after.admissionTickets = store.admissionTickets) :
    StoredOnly store P after :=
  fun row hrow => .inl ⟨row, h ▸ hrow, rfl⟩

/-- The states of some tickets change. -/
lemma storedOnly_update {p : TicketRow → Bool} {state : RecoveryTicketState}
    (h : after.admissionTickets =
      store.admissionTickets.update p (fun row => row.withState state) fun row =>
        row.ticketId_withState state) :
    StoredOnly store P after := by
  intro row hrow
  rw [h, Table.mem_update] at hrow
  obtain ⟨before, hbefore, rfl⟩ := hrow
  refine .inl ⟨before, hbefore, ?_⟩
  split_ifs <;> rfl

lemma insertTicket_stored {instanceId : String} {ticket : RecoveryAdmissionTicket}
    (h : P { ticket, instanceId }) :
    Returns (store.insertTicket instanceId ticket) fun (_, after) => StoredOnly store P after := by
  rw [GatewayRecoveryStore.insertTicket]
  split
  · rename_i tickets hinsert
    refine .ok fun row hrow => ?_
    rw [(Table.insert_eq_some.mp hinsert).2, List.mem_append, List.mem_singleton] at hrow
    obtain hrow | rfl := hrow
    · exact .inl ⟨row, hrow, rfl⟩
    · exact .inr h
  · exact .error

lemma storeHostTicket_stored {instanceId : String} {ticket : RecoveryAdmissionTicket}
    (h : store.ticketForOperation instanceId ticket.operationId = none →
      P { ticket, instanceId }) :
    Returns (store.storeHostTicket instanceId ticket) fun (_, after) =>
      StoredOnly store P after := by
  rw [GatewayRecoveryStore.storeHostTicket]
  cases hfind : store.ticketForOperation instanceId ticket.operationId with
  | none => exact insertTicket_stored (h hfind)
  | some existing => exact .bind fun _ _ => .pure (storedOnly_update rfl)

lemma currentHostFence_eq_ok {fence : RecoveryHostFence} :
    store.currentHostFence = .ok fence ↔ store.currentFence = some fence := by
  rw [GatewayRecoveryStore.currentHostFence]
  cases store.currentFence <;> simp

/-- A ticket is stored under the current fence, or it is a historical one of the host. -/
lemma next_stored [Sha256] (store : GatewayRecoveryStore) (call : Call) :
    StoredOnly store (fun row => FencedBy store row.ticket.hostFenceId ∨
      ∃ instanceId ticket, call = .ticket (.recordHistoricalHost instanceId ticket) ∧
        store.ticketForOperation instanceId ticket.operationId = none ∧
        row = { ticket, instanceId }) (next store call) := by
  cases call with
  | authority call =>
    have h := perform_authority store call
    change StoredOnly store _ (call.perform store).store
    generalize call.perform store = reply at h
    cases h with
    | refused => exact storedOnly_of_kept rfl
    | booted boot after booted => exact storedOnly_of_kept booted.admissionTickets
    | fenced => exact storedOnly_of_kept rfl
  | lease call => exact storedOnly_of_kept (perform_lease call).admissionTickets
  | hostLease call => exact storedOnly_of_kept (perform_hostLease call).admissionTickets
  | operation call => exact storedOnly_of_kept (perform_operation call).admissionTickets
  | owner call => exact storedOnly_of_kept (perform_owner_tickets call)
  | ticket call =>
    have hkept : ∀ {P : TicketRow → Prop}, StoredOnly store P store := storedOnly_of_kept rfl
    cases call with
    | issue ticketId proof fence instanceId operationId payloadDigest nowMillis ttlSeconds =>
      refine commit_keeps hkept (.bind fun _ _ => .bind fun _ _ => .bind fun _ _ =>
        .bind fun _ _ => .bind fun _ _ => .bind fun _ _ => .bind fun _ _ =>
        .bind fun current hcurrent => .refuse fun hfence => .refuse fun _ => .bind fun _ _ =>
        .bind fun _ _ => .bind fun _ _ => .refuse fun _ => .bind fun _ _ => .refuse fun _ =>
        .refuse fun _ => ?_)
      rw [not_or, not_not] at hfence
      split
      · exact .refuse fun _ => .pure hkept
      · refine insertTicket_stored (.inl ⟨current, currentHostFence_eq_ok.mp hcurrent, ?_⟩)
        rw [hfence.1]
    | validate => exact hkept
    | transition =>
      exact commit_keeps hkept <| .bind fun _ _ => .bind fun _ _ => .refuse fun _ =>
        .refuse fun _ => .refuse fun _ => .pure (storedOnly_update rfl)
    | recordHost proof fence ticket nowMillis =>
      refine commit_keeps hkept <| .bind fun _ _ => .refuse fun hticket =>
        .bind fun current hcurrent => .refuse fun hfence => .bind fun _ _ => .refuse fun _ =>
        .bind fun _ _ => .bind fun _ _ => .refuse fun _ => storeHostTicket_stored fun _ =>
        .inl ⟨current, currentHostFence_eq_ok.mp hcurrent, ?_⟩
      simp only [not_or, not_not, ne_eq] at hticket hfence
      rw [hfence]
      exact hticket.2.2.2.1.symm
    | recordHistoricalHost instanceId ticket =>
      exact commit_keeps hkept <| .bind fun _ _ => .bind fun _ _ => .bind fun _ _ =>
        .bind fun _ _ => storeHostTicket_stored fun hfresh =>
        .inr ⟨instanceId, ticket, rfl, hfresh, rfl⟩
    | expire => exact commit_keeps hkept <| .bind fun _ _ => .pure (storedOnly_update rfl)

end Tickets

/-! ### Careful steps -/

/-- An intent is recorded under an id that has no ticket with its payload and other columns,
and a historical ticket of another fence is not of the active lease. -/
def Careful (store : GatewayRecoveryStore) : Call → Prop
  | .operation (.recordIntent _ intent) =>
    store.selectOperation intent.operation.key = none →
      ∀ row ∈ store.admissionTickets.rows, row.instanceId = intent.instanceId →
        row.ticket.operationId = intent.operationId →
        row.ticket.payloadDigest = intent.payloadDigest →
        row.ticket.bootId = intent.bootId ∧
          row.ticket.instanceIncarnation = intent.instanceIncarnation ∧
          row.ticket.leaseEpoch = intent.leaseEpoch
  | .ticket (.recordHistoricalHost instanceId ticket) =>
    store.ticketForOperation instanceId ticket.operationId = none →
      ∀ lease ∈ store.leases.rows, lease.status = .active →
        lease.leaseEpoch = ticket.leaseEpoch → FencedBy store ticket.hostFenceId
  | _ => True

/-- **What careful steps keep.**  A ticket repeats the operation that it is found for, and a
ticket of the active lease is of the current fence. -/
structure TicketsCurrent (store : GatewayRecoveryStore) : Prop where
  operations : ∀ row ∈ store.admissionTickets.rows, ∀ operation,
    store.selectOperation (row.instanceId, row.ticket.operationId) = some operation →
    row.ticket.payloadDigest = operation.payloadDigest →
    row.ticket.bootId = operation.bootId ∧
      row.ticket.instanceIncarnation = operation.instanceIncarnation ∧
      row.ticket.leaseEpoch = operation.leaseEpoch
  fences : ∀ row ∈ store.admissionTickets.rows, ∀ lease ∈ store.leases.rows,
    lease.status = .active → lease.leaseEpoch = row.ticket.leaseEpoch →
    FencedBy store row.ticket.hostFenceId
  ready : ∀ lease ∈ store.leases.rows, lease.status = .active →
    ∃ a, store.authority = some a ∧ a.state = .ready
  ticketEpochs : ∀ row ∈ store.admissionTickets.rows,
    row.ticket.leaseEpoch ≤ store.leases.maximum LeaseRow.leaseEpoch
  operationEpochs : ∀ key operation, store.selectOperation key = some operation →
    operation.leaseEpoch ≤ store.leases.maximum LeaseRow.leaseEpoch

section Steps

variable [Sha256] {store : GatewayRecoveryStore} {call : Call}

/-- An intent is recorded under a lease of the store. -/
lemma recordIntent_epoch {proof : RecoveryLeaseProof} {intent : RecoveryOperationIntent} :
    Returns (store.recordIntent proof intent) fun _ =>
      intent.leaseEpoch ≤ store.leases.maximum LeaseRow.leaseEpoch := by
  refine .bind fun _ _ => .refuse fun hproof => .bind fun _ hcontext => .const ?_
  simp only [not_or, not_not, ne_eq] at hproof
  obtain ⟨row, hcurrent, -⟩ := ensureContext_eq_ok hcontext
  rw [hproof.2.2.2.2.2.2, ← hcurrent.epoch]
  exact Table.le_maximum _ (Table.mem_of_find? hcurrent.found)

omit [Sha256] in
/-- Only a boot without a fence is completed with one. -/
lemma completeHostFence_required {boot : RecoveryBootContext} {hostFenceId : String}
    {fenceGeneration nowMillis : ℕ} :
    Returns (store.completeHostFenceFromHost boot hostFenceId fenceGeneration nowMillis)
      fun (_, after) => after.leases = store.leases ∧
        ∃ a, store.authority = some a ∧ a.state = .fenceRequired := by
  refine .bind fun _ _ => .bind fun _ _ => .bind fun _ _ => .bind fun _ _ => .refuse fun _ => ?_
  cases hauthority : store.authority with
  | none => exact .error
  | some row =>
    refine .refuse fun hrow => .pure ⟨rfl, row, rfl, ?_⟩
    simp only [not_or, not_not, ne_eq] at hrow
    exact hrow.2.2

/-- The authority stays as it is where a lease is active after a call. -/
lemma authority_of_active (h : TicketsCurrent store) {lease : LeaseRow}
    (hlease : lease ∈ (next store call).leases.rows) (hactive : lease.status = .active) :
    (next store call).authority = store.authority := by
  have hbooted : ∀ {boot : RecoveryBootContext} {after : GatewayRecoveryStore},
      Booted store boot after → lease ∈ after.leases.rows →
        after.authority = store.authority :=
    fun hboot hrow => absurd hactive (hboot.idle (Table.find?_key hrow))
  let P := fun after : GatewayRecoveryStore =>
    lease ∈ after.leases.rows → after.authority = store.authority
  have hkept : P store := fun _ => rfl
  cases call with
  | authority call =>
    refine (?_ : P (call.perform store).store) hlease
    cases call with
    | startBoot => exact commit_keeps hkept fun _ hok => hbooted (startBoot_booted _ hok)
    | rekeyNamespace => exact commit_keeps hkept fun _ hok => hbooted (rekeyNamespace_booted _ hok)
    | completeHostFence boot hostFenceId fenceGeneration nowMillis =>
      refine commit_keeps hkept fun fenced hok => ?_
      -- a boot without its fence has no active lease
      obtain ⟨hleases, a, ha, hrequired⟩ := completeHostFence_required _ hok
      intro hrow
      rw [hleases] at hrow
      obtain ⟨other, hother, hready⟩ := h.ready lease hrow hactive
      rw [ha] at hother
      cases hother
      rw [hrequired] at hready
      cases hready
  | lease call => exact next_authority store _ fun _ h => nomatch h
  | hostLease call => exact next_authority store _ fun _ h => nomatch h
  | operation call => exact next_authority store _ fun _ h => nomatch h
  | ticket call => exact next_authority store _ fun _ h => nomatch h
  | owner call => exact next_authority store _ fun _ h => nomatch h

/-- The active lease of a store was active before a call, or the call grants it. -/
lemma active_origin {lease : LeaseRow} (hlease : lease ∈ (next store call).leases.rows)
    (hactive : lease.status = .active) :
    (∃ before ∈ store.leases.rows, before.status = .active ∧
      before.leaseEpoch = lease.leaseEpoch) ∨
      Granted store lease := by
  obtain ⟨before, hbefore, hchange⟩ | ⟨hgranted, -⟩ :=
    (next_leases store call).origin (Table.find?_key hlease)
  · exact .inl ⟨before, Table.mem_of_find? hbefore, hchange.active hactive,
      hchange.identity.2.1.symm⟩
  · exact .inr hgranted

/-- **A careful step** keeps the tickets current. -/
theorem TicketsCurrent.step (h : TicketsCurrent store) (hstore : Separate store)
    (hcareful : Careful store call) : TicketsCurrent (next store call) := by
  have hmaximum := (next_leases store call).maximum_le
  have hstored := next_stored store call
  have horigin : ∀ row ∈ (next store call).admissionTickets.rows, _ :=
    fun row hrow => (next_tickets store call).origin hrow
  have hselected : ∀ key operation, (next store call).selectOperation key = some operation → _ :=
    fun key operation => (next_operations store call).selected hstore
  refine ⟨fun row hrow operation hselect hpayload => ?_,
    fun row hrow lease hlease hactive hepoch => ?_, fun lease hlease hactive => ?_,
    fun row hrow => ?_, fun key operation hselect => ?_⟩
  · obtain ⟨old, hold, hcolumns⟩ | ⟨proof, intent, rfl, hunknown, hkey, rfl⟩ :=
      hselected _ _ hselect
    · rw [hcolumns.payload] at hpayload
      rw [hcolumns.boot, hcolumns.incarnation, hcolumns.epoch]
      obtain ⟨before, hbefore, heq⟩ | ⟨-, bound, hbound, -, hboot, hincarnation, hepoch⟩ :=
        horigin row hrow
      · rw [heq] at hold hpayload ⊢
        exact h.operations before hbefore old hold hpayload
      · rw [hold] at hbound
        cases hbound
        exact ⟨hboot, hincarnation, hepoch⟩
    · have hfree := hkey ▸ hunknown
      obtain ⟨before, hbefore, heq⟩ | ⟨-, bound, hbound, -⟩ := horigin row hrow
      · rw [heq] at hkey hpayload ⊢
        exact hcareful hfree before hbefore (congrArg Prod.fst hkey) (congrArg Prod.snd hkey)
          hpayload
      · rw [hunknown] at hbound
        cases hbound
  · have hauthority := authority_of_active h hlease hactive
    have hfence : ∀ {hostFenceId : String}, FencedBy store hostFenceId →
        FencedBy (next store call) hostFenceId := by
      rintro hostFenceId ⟨fence, hfence, hid⟩
      refine ⟨fence, ?_, hid⟩
      rwa [GatewayRecoveryStore.currentFence, hauthority]
    refine hfence ?_
    obtain ⟨before, hbefore, hbeforeActive, hbeforeEpoch⟩ | hgranted := active_origin hlease hactive
    · obtain ⟨old, hold, heq⟩ | hfenced | ⟨instanceId, ticket, rfl, hfresh, rfl⟩ := hstored row hrow
      · rw [heq] at hepoch ⊢
        exact h.fences old hold before hbefore hbeforeActive (hbeforeEpoch.trans hepoch)
      · exact hfenced
      · exact hcareful hfresh before hbefore hbeforeActive (hbeforeEpoch.trans hepoch)
    · -- a granted lease has an epoch that no ticket has
      have hnew := hgranted.epoch
      have hold : row.ticket.leaseEpoch ≤ store.leases.maximum LeaseRow.leaseEpoch := by
        obtain ⟨old, hold, heq⟩ | ⟨-, bound, hbound, -, -, -, hticket⟩ := horigin row hrow
        · rw [heq]
          exact h.ticketEpochs old hold
        · rw [hticket]
          exact h.operationEpochs _ bound hbound
      omega
  · have hauthority := authority_of_active h hlease hactive
    rw [hauthority]
    obtain ⟨before, hbefore, hbeforeActive, -⟩ | hgranted := active_origin hlease hactive
    · exact h.ready before hbefore hbeforeActive
    · obtain ⟨a, ha, hready, -⟩ := hgranted.authority
      exact ⟨a, ha, hready⟩
  · refine le_trans ?_ hmaximum
    obtain ⟨old, hold, heq⟩ | ⟨-, bound, hbound, -, -, -, hticket⟩ := horigin row hrow
    · rw [heq]
      exact h.ticketEpochs old hold
    · rw [hticket]
      exact h.operationEpochs _ bound hbound
  · refine le_trans ?_ hmaximum
    obtain ⟨old, hold, hcolumns⟩ | ⟨proof, intent, rfl, hunknown, rfl, rfl⟩ :=
      hselected _ _ hselect
    · rw [hcolumns.epoch]
      exact h.operationEpochs _ old hold
    · refine commit_keeps (P := fun after =>
        after.selectOperation intent.operation.key = some intent.operation →
          intent.leaseEpoch ≤ store.leases.maximum LeaseRow.leaseEpoch)
        (fun hknown => ?_) (fun _ hok _ => recordIntent_epoch _ hok) hselect
      rw [hunknown] at hknown
      cases hknown

end Steps

/-! ### Issued tickets -/

/-- **A ticket is bound to its request**: it is of the presented proof, which is good now, of the
presented fence, which is the current one, and of the retained operation. -/
structure Bound [Sha256] (store : GatewayRecoveryStore) (proof : RecoveryLeaseProof)
    (fence : RecoveryHostFence) (instanceId operationId : String) (nowMillis : ℕ)
    (ticket : RecoveryAdmissionTicket) : Prop where
  valid : ∃ row, Current store proof nowMillis row
  current : store.currentFence = some fence
  retained : ∃ operation, store.selectOperation (instanceId, operationId) = some operation ∧
    ticket.operationId = operationId ∧ ticket.payloadDigest = operation.payloadDigest ∧
    ticket.bootId = operation.bootId ∧
    ticket.instanceIncarnation = operation.instanceIncarnation ∧
    ticket.leaseEpoch = operation.leaseEpoch
  bootId : ticket.bootId = proof.bootId
  instanceIncarnation : ticket.instanceIncarnation = proof.instanceIncarnation
  leaseEpoch : ticket.leaseEpoch = proof.leaseEpoch
  hostFenceId : ticket.hostFenceId = fence.hostFenceId

section Issue

variable [Sha256] {store : GatewayRecoveryStore} {proof : RecoveryLeaseProof}
  {fence : RecoveryHostFence} {ticketId instanceId operationId payloadDigest : String}
  {nowMillis ttlSeconds : ℕ}

omit [Sha256] in
/-- The retained ticket of an operation is a row of it. -/
lemma ticketForOperation_row {ticket : RecoveryAdmissionTicket}
    (h : store.ticketForOperation instanceId operationId = some ticket) :
    ∃ row ∈ store.admissionTickets.rows, row.instanceId = instanceId ∧
      row.ticket.operationId = operationId ∧ row.ticket = ticket := by
  rw [GatewayRecoveryStore.ticketForOperation, Option.map_eq_some_iff] at h
  obtain ⟨row, hfind, rfl⟩ := h
  have hkey := List.find?_some hfind
  rw [decide_eq_true_eq] at hkey
  exact ⟨row, List.mem_of_find?_eq_some hfind, hkey.1, hkey.2, rfl⟩

/-- **Where tickets are current, an issued ticket is bound.** -/
theorem TicketsCurrent.issue (h : TicketsCurrent store) :
    Returns (store.issueAdmissionTicket ticketId proof fence instanceId operationId payloadDigest
      nowMillis ttlSeconds) fun (ticket, _) =>
        Bound store proof fence instanceId operationId nowMillis ticket := by
  refine .bind fun _ _ => .bind fun _ _ => .bind fun _ _ => .bind fun _ _ => .bind fun _ _ =>
    .bind fun lease hcontext => .bind fun _ _ => .bind fun current hcurrent => .refuse fun hfence =>
    .refuse fun _ => .bind fun _ _ => .bind fun _ _ => .bind fun _ _ => .refuse fun _ =>
    .bind fun operation hfound => .refuse fun hoperation => .refuse fun _ => ?_
  obtain ⟨row, hproof, -⟩ := ensureContext_eq_ok hcontext
  simp only [not_or, not_not, ne_eq] at hfence hoperation
  obtain ⟨rfl, -⟩ := hfence
  obtain ⟨hpayload, hboot, hincarnation, hepoch⟩ := hoperation
  have hcurrent := currentHostFence_eq_ok.mp hcurrent
  have hselect := requireOperation_eq_ok.mp hfound
  split
  · -- the ticket issued before is of this lease, so of the current fence
    rename_i ticket hretained
    refine .refuse fun hdigest => .pure ?_
    obtain ⟨stored, hstored, rfl, rfl, rfl⟩ := ticketForOperation_row hretained
    have hdigest := (not_not.mp hdigest).trans hpayload.symm
    obtain ⟨hticketBoot, hticketIncarnation, hticketEpoch⟩ :=
      h.operations stored hstored operation hselect hdigest
    obtain ⟨found, hfoundFence, hid⟩ := h.fences stored hstored row
      (Table.mem_of_find? hproof.found) hproof.active
      (hproof.epoch.trans (hepoch.symm.trans hticketEpoch.symm))
    rw [hcurrent] at hfoundFence
    cases hfoundFence
    exact ⟨⟨row, hproof⟩, hcurrent, ⟨operation, hselect, rfl, hdigest, hticketBoot,
      hticketIncarnation, hticketEpoch⟩, hticketBoot.trans hboot,
      hticketIncarnation.trans hincarnation, hticketEpoch.trans hepoch, hid.symm⟩
  · rw [GatewayRecoveryStore.insertTicket]
    split
    · exact .ok ⟨⟨row, hproof⟩, hcurrent, ⟨operation, hselect, rfl, hpayload.symm, hboot.symm,
        hincarnation.symm, hepoch.symm⟩, rfl, rfl, rfl, rfl⟩
    · exact .error

/-- Every ticket that the calls of a run can be answered with is bound to its request. -/
def TicketsBound (config : RecoveryStoreConfig) (calls : List Call) : Prop :=
  ∀ before after, calls = before ++ after →
    ∀ ticketId proof fence instanceId operationId payloadDigest nowMillis ttlSeconds ticket issued,
      ((GatewayRecoveryStore.openWithConfig config).run before).issueAdmissionTicket ticketId proof
        fence instanceId operationId payloadDigest nowMillis ttlSeconds = .ok (ticket, issued) →
      Bound ((GatewayRecoveryStore.openWithConfig config).run before) proof fence instanceId
        operationId nowMillis ticket

omit [Sha256] in
lemma ticketsCurrent_open (config : RecoveryStoreConfig) :
    TicketsCurrent (.openWithConfig config) where
  operations _ hrow := nomatch hrow
  fences _ hrow := nomatch hrow
  ready _ hlease := nomatch hlease
  ticketEpochs _ hrow := nomatch hrow
  operationEpochs _ _ hselect := nomatch hselect

end Issue

/-! ### An id used again -/

namespace Sample

def ticketId : String := "00000000-0000-4000-8000-000000000011"

def fence : RecoveryHostFence where
  hostFenceId := hostFenceId
  deploymentId := deployment
  instanceId := instanceId
  instanceIncarnation := incarnation
  bootId := bootId
  authorityGeneration := 1
  fenceGeneration := 1
  createdAtMillis := 1001

/-- A dispatched operation and its ticket. -/
def issued : List Call :=
  calls ++ [.operation (.recordIntent proof intent),
    .operation (.markDispatched proof instanceId operationId 1004),
    .ticket (.issue ticketId proof fence instanceId operationId payloadDigest 1004 5)]

/-- The operation is settled, archived and purged, and its id is used again under a new lease. -/
def usedAgain : List Call :=
  issued ++ [settlement 200, .operation (.archiveResolvedBefore 1005 86401005)] ++ purged ++
    [.operation (.recordIntent laterProof laterIntent),
      .operation (.markDispatched laterProof instanceId operationId 172801009)]

end Sample

section Example

attribute [local instance] Sample.sha256

end Example

end Sts2Gateway.Recovery
