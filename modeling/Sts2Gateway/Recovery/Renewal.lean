/-
Renewals of a lease.

A lease is renewed directly, or in two halves: the first keeps a sequence and a
deadline as pending, the second makes them the lease's own.  The second half
compares its sequence with the pending one only, so a direct renewal between the
halves is undone by it.

* `overtaken`: the second half of a renewal that a later sequence has overtaken;
* `Renewed.step`: without one, a call lowers no sequence and no deadline;
* `acceptedSequence`: the sequences that a run accepts for a lease;
* `renewals_monotone`: **no sequence and no deadline falls, and no sequence is
  accepted twice, in runs where no renewal is overtaken**;
* `renewals_not_monotone`: a run in which one is.
-/
import Mathlib.Tactic
import Sts2Gateway.Recovery.Fence

namespace Sts2Gateway.Recovery

open Machine Procedure Relational Text

/-! ### Steps -/

/-- The call commits a pending renewal whose sequence is not above the lease's own. -/
def overtaken (store : GatewayRecoveryStore) (call : Call) : Bool :=
  (call.completing store).any fun (row, renewSequence) => renewSequence ≤ row.lastRenewSequence

/-- A row of the same lease at a later moment. -/
structure Renewed (row after : LeaseRow) : Prop where
  sequence : row.lastRenewSequence ≤ after.lastRenewSequence
  expires : row.expiresAtMillis ≤ after.expiresAtMillis

lemma Renewed.refl (row : LeaseRow) : Renewed row row := ⟨le_rfl, le_rfl⟩

lemma Renewed.trans {row middle after : LeaseRow} (h : Renewed row middle)
    (h' : Renewed middle after) : Renewed row after :=
  ⟨h.sequence.trans h'.sequence, h.expires.trans h'.expires⟩

/-- A change lowers a sequence only by an overtaken renewal. -/
lemma LeaseRow.Change.keeps {store : GatewayRecoveryStore} {call : Call} {row after : LeaseRow}
    (h : row.Change store call after) (hcall : overtaken store call = false) :
    Renewed row after := by
  cases h with
  | renewed expires renewSequence active deadline sequence => exact ⟨sequence.le, deadline⟩
  | renewCompleted _ renewSequence _ _ expires completing _ _ _ deadline =>
    refine ⟨?_, deadline.le⟩
    rw [overtaken, completing] at hcall
    exact (not_le.mp (of_decide_eq_false hcall)).le
  | _ => exact ⟨le_rfl, le_rfl⟩

/-- Every lease is still there, renewed. -/
def AllRenewed (store after : GatewayRecoveryStore) : Prop :=
  ∀ leaseId row, store.leases.find? leaseId = some row →
    ∃ row', after.leases.find? leaseId = some row' ∧ Renewed row row'

section Token

variable [Sha256] {store : GatewayRecoveryStore} {call : Call} {leaseId : String}

lemma allRenewed_next (hcall : overtaken store call = false) :
    AllRenewed store (next store call) := by
  intro leaseId row hrow
  obtain ⟨after, hafter, hchange⟩ := (next_leases store call).row hrow
  exact ⟨after, hafter, hchange.keeps hcall⟩

lemma allRenewed_run {calls : List Call}
    (h : Along next (fun store call => overtaken store call = false) store calls) :
    AllRenewed store (store.run calls) := by
  refine run_relation (P := fun _ => True) (R := AllRenewed) ?_ ?_ (fun _ _ _ => trivial)
    (fun _ _ _ hcall => allRenewed_next hcall) trivial h
  · exact fun store leaseId row hrow => ⟨row, hrow, .refl row⟩
  · intro store middle after h h' leaseId row hrow
    obtain ⟨row', hrow', hrenewed⟩ := h leaseId row hrow
    obtain ⟨row'', hrow'', hrenewed'⟩ := h' leaseId row' hrow'
    exact ⟨row'', hrow'', hrenewed.trans hrenewed'⟩

/-! ### Accepted sequences -/

/-- The sequence that the call makes a lease's own: that of a direct renewal, or
of a pending one that it commits. -/
def acceptedSequence (leaseId : String) (store : GatewayRecoveryStore) (call : Call) : Option ℕ :=
  if (call.perform store).answer.isOk then
    match call with
    | .lease (.renew proof renewSequence _) =>
      if proof.leaseId = leaseId then some renewSequence else none
    | _ => (call.completing store).bind fun (row, renewSequence) =>
      if row.leaseId = leaseId then some renewSequence else none
  else none

/-- The last sequence of a lease, and `0` before it is granted. -/
def lastSequence (leaseId : String) (store : GatewayRecoveryStore) : ℕ :=
  (store.leases.find? leaseId).elim 0 LeaseRow.lastRenewSequence

lemma lastSequence_mono (hcall : overtaken store call = false) :
    lastSequence leaseId store ≤ lastSequence leaseId (next store call) := by
  rw [lastSequence]
  cases hrow : store.leases.find? leaseId with
  | none => exact Nat.zero_le _
  | some row =>
    obtain ⟨after, hafter, hrenewed⟩ := allRenewed_next hcall leaseId row hrow
    rw [lastSequence, hafter]
    exact hrenewed.sequence

/-- A direct renewal found a lower sequence and leaves its own. -/
lemma renewLease_accepts {proof : RecoveryLeaseProof} {renewSequence nowMillis : ℕ}
    {lease : RecoveryLease}
    (h : (store.renewLease proof renewSequence nowMillis).answer = .ok lease) :
    lastSequence proof.leaseId store < renewSequence ∧
      lastSequence proof.leaseId (store.renewLease proof renewSequence nowMillis).store =
        renewSequence := by
  unfold GatewayRecoveryStore.renewLease at h ⊢
  cases hrenewable : store.renewable proof renewSequence nowMillis with
  | error e =>
    rw [hrenewable] at h
    cases h
  | ok row =>
    obtain ⟨hpresented, hactive⟩ := renewable_presented row hrenewable
    rw [hrenewable] at h
    dsimp only at h ⊢
    by_cases hexpired : row.expiresAtMillis ≤ nowMillis
    · rw [if_pos hexpired] at h
      cases h
    · rw [if_neg hexpired] at h ⊢
      rcases commit_cases store (store.renewRow row proof renewSequence nowMillis) with
        ⟨e, -, hcommit⟩ | ⟨renewed, after, hok, hcommit⟩
      · rw [hcommit] at h
        cases h
      · rw [hcommit]
        simp only [GatewayRecoveryStore.renewRow, except_bind_eq_ok, refuse_eq_ok] at hok
        obtain ⟨_, hlater, _, -, candidate, -, _, -, _, -, hok⟩ := hok
        cases hok
        have hlt : row.lastRenewSequence < renewSequence := not_le.mp hlater
        refine ⟨?_, ?_⟩
        · rw [lastSequence, hpresented.found]
          exact hlt
        · rw [lastSequence, Table.find?_update, hpresented.found]
          have hid := Table.key_of_find? hpresented.found
          simp [hid, isActive_iff.mpr hactive, hlt, LeaseRow.renew]

/-- A pending renewal that is committed leaves its sequence. -/
lemma completing_accepts {row : LeaseRow} {renewSequence : ℕ} {answer : Answer}
    (h : call.completing store = some (row, renewSequence))
    (hanswer : (call.perform store).answer = .ok answer) :
    lastSequence row.leaseId store = row.lastRenewSequence ∧
      lastSequence row.leaseId (next store call) = renewSequence := by
  unfold Call.completing at h
  split at h
  · rename_i leaseId installationId grantDigest sequence expiresAtMillis hostInstallGeneration
      ackMessageId ackRecordedAtMillis
    split at h
    · rename_i found hadmit
      split_ifs at h with hdue
      obtain ⟨rfl, rfl⟩ := Prod.mk.inj (Option.some.inj h)
      have hrow := (GatewayRecoveryStore.admitHostLeaseRenew_eq_ok hadmit).1
      have hid := Table.key_of_find? hrow
      obtain ⟨binding, after, hcomplete, hafter⟩ := commit_answered hanswer
      refine ⟨by rw [hid, lastSequence, hrow]; rfl, ?_⟩
      change lastSequence found.leaseId ((commit store _).map Answer.binding).store = sequence
      rw [hafter]
      simp only [GatewayRecoveryStore.completeHostLeaseRenew, hadmit, except_bind_eq_ok,
        Except.ok.injEq, exists_eq_left', Bool.false_eq_true, if_false] at hcomplete
      obtain ⟨hone, rfl⟩ := GatewayRecoveryStore.updateBinding_eq_ok hcomplete
      obtain ⟨other, hother, hmatch⟩ := Table.count_key_eq_one.mp hone
      rw [hrow] at hother
      obtain rfl := Option.some.inj hother
      rw [lastSequence, Table.find?_update, hid, hrow]
      simp only [Option.map_some, hid, decide_true, Bool.true_and, hmatch, if_true, Option.elim_some]
      rfl
    · cases h
  · cases h

/-- What is accepted is above the last sequence, and becomes it. -/
lemma acceptedSequence_eq_some {n : ℕ} (hcall : overtaken store call = false)
    (h : acceptedSequence leaseId store call = some n) :
    lastSequence leaseId store < n ∧ n ≤ lastSequence leaseId (next store call) := by
  unfold acceptedSequence at h
  split_ifs at h with hok
  obtain ⟨answer, hanswer⟩ : ∃ answer, (call.perform store).answer = .ok answer := by
    cases hreply : (call.perform store).answer with
    | error e => simp [hreply, Except.isOk, Except.toBool] at hok
    | ok answer => exact ⟨answer, rfl⟩
  split at h
  · rename_i proof renewSequence nowMillis
    split_ifs at h with hid
    obtain rfl := Option.some.inj h
    subst hid
    change ((store.renewLease proof renewSequence nowMillis).map Answer.lease).answer = _ at hanswer
    cases hrenew : (store.renewLease proof renewSequence nowMillis).answer with
    | error e =>
      rw [Reply.map, hrenew] at hanswer
      cases hanswer
    | ok lease =>
      obtain ⟨hlt, hlast⟩ := renewLease_accepts hrenew
      exact ⟨hlt, hlast.ge⟩
  · rw [Option.bind_eq_some_iff] at h
    obtain ⟨⟨row, renewSequence⟩, hcompleting, h⟩ := h
    dsimp only at h
    split_ifs at h with hid
    cases h
    subst hid
    obtain ⟨hbefore, hafter⟩ := completing_accepts hcompleting hanswer
    rw [hbefore, hafter]
    rw [overtaken, hcompleting] at hcall
    exact ⟨not_le.mp (of_decide_eq_false hcall), le_rfl⟩

/-! ### Runs -/

/-- What a run should keep: a lease that is still active has lost neither sequence
nor deadline since any earlier moment, and no sequence was accepted twice. -/
structure MonotoneRenewals (config : RecoveryStoreConfig) (calls : List Call) : Prop where
  rows : ∀ before between after, calls = before ++ between ++ after → ∀ leaseId row row',
    ((GatewayRecoveryStore.openWithConfig config).run before).leases.find? leaseId = some row →
    ((GatewayRecoveryStore.openWithConfig config).run (before ++ between)).leases.find? leaseId =
      some row' → row'.status = .active → Renewed row row'
  accepted : ∀ leaseId,
    (outputs next (acceptedSequence leaseId) (.openWithConfig config) calls).Pairwise (· < ·)

/-- **Renewals are monotone** in every run where no pending renewal is overtaken. -/
theorem renewals_monotone (config : RecoveryStoreConfig) (calls : List Call)
    (h : Along next (fun store call => overtaken store call = false) (.openWithConfig config)
      calls) : MonotoneRenewals config calls where
  rows := by
    rintro before between after rfl leaseId row row' hrow hrow' -
    have hbetween := (along_append.mp (along_append.mp h).1).2
    rw [GatewayRecoveryStore.run, run_append] at hrow'
    obtain ⟨found, hfound, hrenewed⟩ := allRenewed_run hbetween leaseId row hrow
    rw [GatewayRecoveryStore.run, hrow'] at hfound
    cases hfound
    exact hrenewed
  accepted leaseId := by
    refine (outputs_increasing (P := fun _ => True) (lastSequence leaseId)
      (fun _ _ _ => trivial) (fun _ _ _ hcall => lastSequence_mono hcall)
      (fun _ _ _ _ hcall hn => acceptedSequence_eq_some hcall hn) trivial h).1

end Token

/-! ### An overtaken renewal -/

namespace Sample

/-- An installed lease whose renewal with sequence 5 is pending when a direct
renewal with sequence 10 arrives, from a clock that reads less. -/
def renewals : List Call :=
  calls ++
  [.hostLease (.prepareInstall leaseId installationId digest hostFenceId 1 1003),
    .hostLease (.completeInstall leaseId installationId digest 1 ackMessageId 1004),
    .hostLease (.prepareRenew proof 5 10000),
    .lease (.renew proof 10 2000)]

/-- The acknowledgment of the pending renewal. -/
def acknowledgment : Call :=
  .hostLease (.completeRenew leaseId installationId digest 5 40000 1 ackMessageId 10001)

end Sample

section Example

attribute [local instance] Sample.sha256

/-- The sequence of an active lease falls from 10 to 5. -/
theorem renewals_not_monotone :
    ¬ MonotoneRenewals .default (Sample.renewals ++ [Sample.acknowledgment]) := by
  intro h
  have hrows : ∀ row ∈ ((GatewayRecoveryStore.openWithConfig .default).run
      Sample.renewals).leases.find? Sample.leaseId, ∀ row' ∈ ((GatewayRecoveryStore.openWithConfig
        .default).run (Sample.renewals ++ [Sample.acknowledgment])).leases.find? Sample.leaseId,
      row'.status = .active → row.lastRenewSequence ≤ row'.lastRenewSequence := by
    intro row hrow row' hrow' hactive
    exact (h.rows Sample.renewals [Sample.acknowledgment] [] (by simp) Sample.leaseId row row' hrow
      hrow' hactive).sequence
  revert hrows
  decide +kernel

/-- Without the direct renewal the run is monotone. -/
theorem renewals_monotone_sample :
    MonotoneRenewals .default (Sample.renewals.dropLast ++ [Sample.acknowledgment]) :=
  renewals_monotone .default (Sample.renewals.dropLast ++ [Sample.acknowledgment])
    ⟨by decide +kernel, by decide +kernel, by decide +kernel, by decide +kernel,
      by decide +kernel, by decide +kernel, by decide +kernel, trivial⟩

end Example

end Sts2Gateway.Recovery
