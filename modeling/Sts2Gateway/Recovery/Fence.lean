/-
A single recovery authority.

* `grantedEpoch`, `bootedGeneration`: what the calls of a run hand out;
* `Ended`, `ended_next`: a lease that is no longer active never is again;
* `authorized_active`: a call that succeeds on the authority of a proof found that
  proof's lease active, so `refuses_of_ended`;
* `single_recovery_authority`: **at most one lease is active, epochs and generations
  only increase, and a lease that has ended or was granted before a later boot is
  refused for ever**.
-/
import Mathlib.Tactic
import Sts2Gateway.Recovery.LeaseSteps

namespace Sts2Gateway.Recovery

open Machine Procedure Relational Text

/-! ### Steps -/

section Steps

variable {store : GatewayRecoveryStore} {call : Call} {leases : LeaseTable}

/-- Every lease of a store is there after a call, changed. -/
lemma LeaseStep.row (h : LeaseStep store call leases) {id : String} {row : LeaseRow}
    (hrow : store.leases.find? id = some row) :
    ∃ after, leases.find? id = some after ∧ row.Change store call after := by
  have hrel : Option.Rel (LeaseRow.Change store call) (store.leases.find? id) (leases.find? id) := by
    cases h with
    | changed rows => exact rows id
    | granted new unknown _ _ others =>
      refine others id fun hid => ?_
      rw [hid, unknown] at hrow
      cases hrow
  rw [hrow] at hrel
  generalize hafter : leases.find? id = after at hrel
  cases hrel with
  | some hchange => exact ⟨_, rfl, hchange⟩

/-- Every lease after a call was granted by it, or was there before. -/
lemma LeaseStep.origin (h : LeaseStep store call leases) {id : String} {after : LeaseRow}
    (hafter : leases.find? id = some after) :
    (∃ row, store.leases.find? id = some row ∧ row.Change store call after) ∨
      Granted store after ∧ store.leases.find? id = none ∧
        ∀ other row, other ≠ id → leases.find? other = some row → row.status ≠ .active := by
  have hrel : ∀ old, Option.Rel (LeaseRow.Change store call) old (some after) →
      ∃ row, old = some row ∧ row.Change store call after := by
    intro old hold
    cases hold with
    | some hchange => exact ⟨_, rfl, hchange⟩
  cases h with
  | changed rows => exact .inl (hrel _ (hafter ▸ rows id))
  | granted new unknown granted found others idle =>
    by_cases hid : id = new.leaseId
    · subst hid
      rw [found] at hafter
      cases hafter
      exact .inr ⟨granted, unknown, fun other row hother => idle other row hother⟩
    · exact .inl (hrel _ (hafter ▸ others id hid))

/-- Epochs are kept, so the highest one never falls. -/
lemma LeaseStep.maximum_le (h : LeaseStep store call leases) :
    store.leases.maximum LeaseRow.leaseEpoch ≤ leases.maximum LeaseRow.leaseEpoch := by
  refine Table.maximum_le _ fun row hrow => ?_
  obtain ⟨after, hafter, hchange⟩ := h.row (Table.find?_key hrow)
  rw [← hchange.identity.2.1]
  exact Table.le_maximum _ (Table.mem_of_find? hafter)

end Steps

/-! ### One active lease -/

/-- Any two active leases are the same one. -/
def OneActive (leases : LeaseTable) : Prop :=
  ∀ id other row row', leases.find? id = some row → leases.find? other = some row' →
    row.status = .active → row'.status = .active → id = other

lemma LeaseStep.oneActive {store : GatewayRecoveryStore} {call : Call} {leases : LeaseTable}
    (h : LeaseStep store call leases) (hone : OneActive store.leases) : OneActive leases := by
  intro id other after after' hafter hafter' hactive hactive'
  by_contra hne
  rcases h.origin hafter with ⟨row, hrow, hchange⟩ | ⟨-, -, hidle⟩
  · rcases h.origin hafter' with ⟨row', hrow', hchange'⟩ | ⟨-, -, hidle⟩
    · exact hne (hone id other row row' hrow hrow' (hchange.active hactive)
        (hchange'.active hactive'))
    · exact hidle id after hne hafter hactive
  · exact hidle other after' (Ne.symm hne) hafter' hactive'

lemma OneActive.count {leases : LeaseTable} (h : OneActive leases) :
    leases.count LeaseRow.isActive ≤ 1 := by
  refine Table.count_le_one fun row hrow other hother hactive hactive' => ?_
  exact h row.leaseId other.leaseId row other (Table.find?_key hrow) (Table.find?_key hother)
    (isActive_iff.mp hactive) (isActive_iff.mp hactive')

/-! ### Ended leases -/

/-- A lease that was granted and is no longer active. -/
def Ended (leaseId : String) (store : GatewayRecoveryStore) : Prop :=
  ∃ row, store.leases.find? leaseId = some row ∧ row.status ≠ .active

section Answers

variable {store : GatewayRecoveryStore} {α : Type} {Q : Prop} {f : α → Answer} {answer : Answer}

/-- A call that succeeds has committed its transaction. -/
lemma commit_answered {transaction : Except RecoveryStoreError (α × GatewayRecoveryStore)}
    (hanswer : ((commit store transaction).map f).answer = .ok answer) :
    ∃ a after, transaction = .ok (a, after) ∧ ((commit store transaction).map f).store = after := by
  rcases commit_cases store transaction with ⟨e, -, hcommit⟩ | ⟨a, after, hok, hcommit⟩
  · rw [hcommit] at hanswer
    cases hanswer
  · exact ⟨a, after, hok, by rw [hcommit]; rfl⟩

/-- What a transaction checks holds when its call succeeds. -/
lemma commit_returned {transaction : Except RecoveryStoreError (α × GatewayRecoveryStore)}
    (hanswer : ((commit store transaction).map f).answer = .ok answer)
    (h : Returns transaction fun _ => Q) : Q := by
  obtain ⟨a, after, hok, -⟩ := commit_answered hanswer
  exact h _ hok

lemma query_returned {read : Except RecoveryStoreError α}
    (hanswer : ((query store read).map f).answer = .ok answer) (h : Returns read fun _ => Q) :
    Q := by
  cases hread : read with
  | error e =>
    rw [hread] at hanswer
    cases hanswer
  | ok a => exact h a hread

end Answers

section Token

variable [Sha256] {store : GatewayRecoveryStore} {call : Call} {leaseId : String}

lemma ended_next (h : Ended leaseId store) : Ended leaseId (next store call) := by
  obtain ⟨row, hrow, hended⟩ := h
  obtain ⟨after, hafter, hchange⟩ := (next_leases store call).row hrow
  exact ⟨after, hafter, fun hactive => hended (hchange.active hactive)⟩

/-- The lease of a proof, found active. -/
def Authorized (store : GatewayRecoveryStore) (proof : RecoveryLeaseProof) : Prop :=
  ∃ row, Presented store proof row ∧ row.status = .active

lemma Authorized.not_ended {proof : RecoveryLeaseProof} (h : Authorized store proof) :
    ¬ Ended proof.leaseId store := by
  rintro ⟨row, hrow, hended⟩
  obtain ⟨found, hpresented, hactive⟩ := h
  rw [hpresented.found] at hrow
  cases hrow
  exact hended hactive

lemma ensureContext_authorized {proof : RecoveryLeaseProof} {nowMillis : ℕ} {lease : RecoveryLease}
    (h : store.ensureContext proof nowMillis = .ok lease) : Authorized store proof := by
  obtain ⟨row, hcurrent, -⟩ := ensureContext_eq_ok h
  exact ⟨row, hcurrent.toPresented, hcurrent.active⟩

lemma ticket_authorized {proof : RecoveryLeaseProof} {fence : RecoveryHostFence}
    {ticketId : String} {nowMillis : ℕ} {terminal : Bool} :
    Returns (store.validateAdmissionTicketInner proof fence ticketId nowMillis terminal) fun _ =>
      Authorized store proof :=
  .bind fun _ _ => .bind fun _ _ => .bind fun _ _ => .bind fun _ _ => .bind fun _ _ =>
    .refuse fun _ => .bind fun _ _ => .refuse fun _ => .bind fun _ hcontext =>
    .const (ensureContext_authorized hcontext)

lemma renewLease_authorized {proof : RecoveryLeaseProof} {renewSequence nowMillis : ℕ}
    {lease : RecoveryLease}
    (h : (store.renewLease proof renewSequence nowMillis).answer = .ok lease) :
    Authorized store proof := by
  unfold GatewayRecoveryStore.renewLease at h
  cases hrenewable : store.renewable proof renewSequence nowMillis with
  | error e =>
    rw [hrenewable] at h
    cases h
  | ok row => exact ⟨row, renewable_presented row hrenewable⟩

lemma revokeLease_authorized {proof : RecoveryLeaseProof} {reason : String} :
    Returns (store.revokeLease proof reason) fun _ => Authorized store proof := by
  refine .bind fun _ _ => .bind fun row hrow => .bind fun _ hidentity => .bind fun _ _ =>
    .refuse fun hone => .const ⟨row, ?_⟩
  have hpresented := presented_of_checks hrow hidentity
  rw [not_not, Table.count_key_eq_one, hpresented.found] at hone
  obtain ⟨found, hfound, hactive⟩ := hone
  cases hfound
  exact ⟨hpresented, isActive_iff.mp hactive⟩

/-- **A call that succeeds on the authority of a proof found its lease active.** -/
theorem authorized_active {proof : RecoveryLeaseProof} {answer : Answer}
    (hproof : call.authorizedBy = some proof) (hanswer : (call.perform store).answer = .ok answer) :
    Authorized store proof := by
  cases call with
  | lease call =>
    cases call with
    | renew presented renewSequence nowMillis =>
      cases hproof
      change ((store.renewLease proof renewSequence nowMillis).map Answer.lease).answer = _ at hanswer
      cases hrenew : (store.renewLease proof renewSequence nowMillis).answer with
      | error e =>
        rw [Reply.map, hrenew] at hanswer
        cases hanswer
      | ok lease => exact renewLease_authorized hrenew
    | revoke =>
      cases hproof
      exact commit_returned hanswer revokeLease_authorized
    | validate =>
      cases hproof
      exact query_returned hanswer <| .bind fun _ hcontext =>
        .const (ensureContext_authorized hcontext)
    | acquire | expire => cases hproof
  | hostLease call =>
    cases call with
    | prepareRenew =>
      cases hproof
      exact commit_returned hanswer <| .bind fun _ _ => .bind fun _ _ => .refuse fun _ =>
        .bind fun _ _ => .bind fun _ hcontext => .const (ensureContext_authorized hcontext)
    | _ => cases hproof
  | operation call =>
    cases call with
    | recordIntent =>
      cases hproof
      exact commit_returned hanswer <| .bind fun _ _ => .refuse fun _ => .bind fun _ hcontext =>
        .const (ensureContext_authorized hcontext)
    | markDispatched =>
      cases hproof
      exact commit_returned hanswer <| .bind fun _ _ => .bind fun _ _ => .bind fun _ hcontext =>
        .const (ensureContext_authorized hcontext)
    | _ => cases hproof
  | ticket call =>
    cases call with
    | issue =>
      cases hproof
      exact commit_returned hanswer <| .bind fun _ _ => .bind fun _ _ => .bind fun _ _ =>
        .bind fun _ _ => .bind fun _ _ => .bind fun _ hcontext =>
        .const (ensureContext_authorized hcontext)
    | validate =>
      cases hproof
      exact query_returned hanswer ticket_authorized
    | transition =>
      cases hproof
      exact commit_returned hanswer <| .bind fun _ hticket =>
        .const (ticket_authorized _ hticket)
    | recordHost =>
      cases hproof
      exact commit_returned hanswer <| .bind fun _ _ => .refuse fun _ => .bind fun _ _ =>
        .refuse fun _ => .bind fun _ hcontext => .const (ensureContext_authorized hcontext)
    | recordHistoricalHost | expire => cases hproof
  | authority | owner => cases hproof

/-- No call succeeds that presents a proof of the lease. -/
def Refuses (store : GatewayRecoveryStore) (leaseId : String) : Prop :=
  ∀ (call : Call) (proof : RecoveryLeaseProof), call.authorizedBy = some proof →
    proof.leaseId = leaseId → ∃ e, (call.perform store).answer = .error e

lemma refuses_of_ended (h : Ended leaseId store) : Refuses store leaseId := by
  intro call proof hproof hid
  cases hanswer : (call.perform store).answer with
  | error e => exact ⟨e, rfl⟩
  | ok answer =>
    subst hid
    exact absurd h (authorized_active hproof hanswer).not_ended

/-! ### What calls hand out -/

/-- The epoch of a lease that the call grants. -/
def grantedEpoch (store : GatewayRecoveryStore) (call : Call) : Option ℕ :=
  match call, (call.perform store).answer with
  | .lease (.acquire _ _ _), .ok (.lease lease) => some lease.leaseEpoch
  | _, _ => none

/-- The generation of a boot or rekey that succeeds. -/
def bootedGeneration (store : GatewayRecoveryStore) (call : Call) : Option ℕ :=
  match call, (call.perform store).answer with
  | .authority _, .ok (.boot boot) => some boot.authorityGeneration
  | _, _ => none

lemma grantedEpoch_eq_some {epoch : ℕ} (h : grantedEpoch store call = some epoch) :
    store.leases.maximum LeaseRow.leaseEpoch < epoch ∧
      epoch ≤ (next store call).leases.maximum LeaseRow.leaseEpoch := by
  unfold grantedEpoch at h
  split at h
  · rename_i leaseId token request lease hanswer
    cases h
    have hacquired := acquireLease_acquired store (.lease (.acquire leaseId token request)) leaseId
      token request
    have hreply : Call.perform store (.lease (.acquire leaseId token request)) =
      (store.acquireLease leaseId token request).map .lease := rfl
    rw [next]
    rw [hreply] at hanswer ⊢
    generalize store.acquireLease leaseId token request = reply at hacquired hanswer ⊢
    cases hacquired with
    | refused e after => cases hanswer
    | granted row after granted found =>
      cases hanswer
      have hepoch : (rowLease row token).leaseEpoch = row.leaseEpoch := rfl
      rw [hepoch]
      refine ⟨?_, Table.le_maximum LeaseRow.leaseEpoch (Table.mem_of_find? found)⟩
      have := granted.epoch
      omega
  · cases h

/-- A boot that succeeds ends every lease and raises the generation. -/
lemma bootedGeneration_eq_some {generation : ℕ} (h : bootedGeneration store call = some generation) :
    ∃ boot, boot.authorityGeneration = generation ∧ Booted store boot (next store call) := by
  unfold bootedGeneration at h
  split at h
  · rename_i authorityCall boot hanswer
    cases h
    refine ⟨boot, rfl, ?_⟩
    have hstep := perform_authority store authorityCall
    change Booted store boot (authorityCall.perform store).store
    change (authorityCall.perform store).answer = _ at hanswer
    generalize authorityCall.perform store = reply at hstep hanswer
    cases hstep with
    | refused => cases hanswer
    | booted boot after booted =>
      cases hanswer
      exact booted
    | fenced => cases hanswer
  · cases h

lemma generation_mono (store : GatewayRecoveryStore) (call : Call) :
    store.generation ≤ (next store call).generation := by
  cases call with
  | authority call =>
    have hstep := perform_authority store call
    change _ ≤ (call.perform store).store.generation
    generalize call.perform store = reply at hstep
    cases hstep with
    | refused => exact le_rfl
    | booted boot after booted =>
      have hgeneration := booted.generation
      change _ ≤ after.generation
      rw [booted.generation_eq]
      omega
    | fenced row columns fence authority =>
      simp [GatewayRecoveryStore.generation, authority]
  | _ =>
    refine le_of_eq (congrArg (Option.elim · 0 AuthorityRow.authorityGeneration) ?_)
    exact (next_authority store _ fun _ h => by cases h).symm

/-! ### Runs -/

/-- What holds after a run. -/
structure SingleAuthority (config : RecoveryStoreConfig) (calls : List Call) : Prop where
  oneActive : ((GatewayRecoveryStore.openWithConfig config).run calls).leases.count
    LeaseRow.isActive ≤ 1
  epochs : (outputs next grantedEpoch (.openWithConfig config) calls).Pairwise (· < ·)
  generations : (outputs next bootedGeneration (.openWithConfig config) calls).Pairwise (· < ·)
  ended : ∀ before between, calls = before ++ between → ∀ leaseId row,
    ((GatewayRecoveryStore.openWithConfig config).run before).leases.find? leaseId = some row →
    row.status ≠ .active →
    Refuses ((GatewayRecoveryStore.openWithConfig config).run calls) leaseId
  rotated : ∀ before boot between, calls = before ++ boot :: between →
    (bootedGeneration ((GatewayRecoveryStore.openWithConfig config).run before) boot).isSome →
    ∀ leaseId row,
    ((GatewayRecoveryStore.openWithConfig config).run before).leases.find? leaseId = some row →
    Refuses ((GatewayRecoveryStore.openWithConfig config).run calls) leaseId

lemma ended_run (h : Ended leaseId store) (calls : List Call) : Ended leaseId (store.run calls) :=
  run_invariant (P := Ended leaseId) (fun _ _ => ended_next) h calls

/-- **A single recovery authority**, after every run of a store. -/
theorem single_recovery_authority (config : RecoveryStoreConfig) (calls : List Call) :
    SingleAuthority config calls where
  oneActive := by
    refine OneActive.count (run_invariant (P := fun store => OneActive store.leases)
      (fun store call h => (next_leases store call).oneActive h) ?_ calls)
    intro id other row row' hrow
    cases hrow
  epochs := by
    refine (outputs_increasing (P := fun _ => True) (C := fun _ _ => True)
      (fun store => store.leases.maximum LeaseRow.leaseEpoch) (fun _ _ _ => trivial)
      (fun store call _ _ => (next_leases store call).maximum_le)
      (fun _ _ _ _ _ h => grantedEpoch_eq_some h) trivial
      (along_of_forall fun _ _ _ _ => trivial)).1
  generations := by
    refine (outputs_increasing (P := fun _ => True) (C := fun _ _ => True)
      GatewayRecoveryStore.generation (fun _ _ _ => trivial)
      (fun store call _ _ => generation_mono store call) (fun store call n _ _ h => ?_) trivial
      (along_of_forall fun _ _ _ _ => trivial)).1
    obtain ⟨boot, rfl, hbooted⟩ := bootedGeneration_eq_some h
    have hgeneration := hbooted.generation
    have hnext := hbooted.generation_eq
    omega
  ended := by
    rintro before between rfl leaseId row hrow hended
    refine refuses_of_ended ?_
    rw [GatewayRecoveryStore.run, run_append]
    exact ended_run ⟨row, hrow, hended⟩ between
  rotated := by
    rintro before boot between rfl hbooted leaseId row hrow
    obtain ⟨generation, hgeneration⟩ := Option.isSome_iff_exists.mp hbooted
    obtain ⟨context, -, hbooted⟩ := bootedGeneration_eq_some hgeneration
    refine refuses_of_ended ?_
    rw [GatewayRecoveryStore.run, run_append, run_cons]
    refine ended_run ?_ between
    obtain ⟨after, hafter, -⟩ := (next_leases _ boot).row hrow
    exact ⟨after, hafter, hbooted.idle hafter⟩

end Token

end Sts2Gateway.Recovery
