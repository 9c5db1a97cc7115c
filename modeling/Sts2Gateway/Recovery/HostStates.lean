/-
The host's states of a lease, over the runs of a store.

* `HostSound`: what holds of every lease row: it has an installation unless it is
  uninstalled, it is live on the host only under the current boot, and a pending
  renewal is later than the acknowledged one;
* `LeaseRow.Change.installed`: **a lease is installed by an acknowledgment** that its
  pending row matches;
* `LeaseRow.Change.absorbed`: a revoked or invalidated lease stays so;
* `Acknowledged`, `Acknowledged.repeated`: an acknowledgment that was taken is not
  taken again;
* `host_lease_states`: the states of a lease after every run.
-/
import Mathlib
import Sts2Gateway.Recovery.Fence

namespace Sts2Gateway.Recovery

open Machine Procedure Relational Text

/-! ### Rows -/

/-- The boot under which a lease was granted is the store's current one. -/
def BootOf (store : GatewayRecoveryStore) (row : LeaseRow) : Prop :=
  ∃ a, store.authority = some a ∧ a.bootId = row.bootId ∧
    a.authorityGeneration = row.authorityGeneration

/-- What holds of a lease row of a store. -/
structure HostSound (store : GatewayRecoveryStore) (row : LeaseRow) : Prop where
  uninstalled : row.hostInstallationId = none ↔ row.hostState = .uninstalled
  current : row.isHostLive = true → BootOf store row
  generation : row.authorityGeneration ≤ store.generation
  renewed : row.hostRenewSequence ≤ row.lastRenewSequence
  pending : row.hostState = .pendingHostRenew →
    ∃ sequence, row.pendingRenewSequence = some sequence ∧ row.hostRenewSequence < sequence

section Changes

variable {store : GatewayRecoveryStore} {call : Call} {row after : LeaseRow}

/-- An invalidation changes live rows only. -/
lemma invalidateHost_hostState (row : LeaseRow) :
    row.invalidateHost.hostState = .restartInvalidated ∧ row.isHostLive = true ∨
      row.invalidateHost = row ∧ row.isHostLive = false := by
  cases hlive : row.isHostLive with
  | false => exact .inr ⟨invalidateHost_of_not_live hlive, rfl⟩
  | true => exact .inl ⟨by simp [LeaseRow.invalidateHost, hlive], rfl⟩

lemma invalidateHost_not_live (row : LeaseRow) : row.invalidateHost.isHostLive = false := by
  rcases invalidateHost_hostState row with ⟨hdead, -⟩ | ⟨hkept, hdead⟩
  · rw [LeaseRow.isHostLive, hdead]
    rfl
  · rw [hkept, hdead]

lemma invalidateHost_uninstalled (row : LeaseRow) :
    row.invalidateHost.hostState = .uninstalled ↔ row.hostState = .uninstalled := by
  rcases invalidateHost_hostState row with ⟨hdead, hlive⟩ | ⟨hkept, -⟩
  · refine iff_of_false (by rw [hdead]; decide) fun huninstalled => ?_
    rw [LeaseRow.isHostLive, huninstalled] at hlive
    cases hlive
  · rw [hkept]

lemma LeaseRow.Change.boot (h : row.Change store call after) : after.bootId = row.bootId := by
  cases h <;> rfl

/-- A lease becomes live on the host under the current boot. -/
lemma LeaseRow.Change.live (h : row.Change store call after) (hlive : after.isHostLive = true) :
    row.isHostLive = true ∨ BootOf store row := by
  cases h with
  | kept | expired | revoked | renewed => exact .inl hlive
  | replaced | invalidated =>
    rw [invalidateHost_not_live] at hlive
    cases hlive
  | installPrepared _ _ _ _ _ _ authority => exact .inr authority
  | digestSet => exact .inl hlive
  | acknowledged kind _ _ _ _ _ _ pending =>
    rw [LeaseRow.isHostLive, pending]
    cases kind <;> exact .inl rfl
  | renewPrepared _ _ _ installed =>
    rw [LeaseRow.isHostLive, installed]
    exact .inl rfl
  | renewCompleted _ _ _ _ _ _ pending =>
    rw [LeaseRow.isHostLive, pending]
    exact .inl rfl
  | revokeBegun _ _ installed =>
    rw [LeaseRow.isHostLive, installed]
    exact .inl rfl

/-- **A lease is installed by the acknowledgment that it waits for**, of an installation
or of a renewal. -/
theorem LeaseRow.Change.installed (h : row.Change store call after)
    (hinstalled : after.hostState = .installed) :
    row.hostState = .installed ∨
      ∃ ack, call.hostAck = some ack ∧ ack.kind ≠ .revoke ∧ ack.leaseId = row.leaseId ∧
        ack.Matches row := by
  cases h with
  | kept | expired | revoked | renewed => exact .inl hinstalled
  | replaced reason =>
    rcases invalidateHost_hostState (row.revoke reason) with ⟨hdead, -⟩ | ⟨hkept, -⟩
    · rw [hdead] at hinstalled
      cases hinstalled
    · rw [hkept] at hinstalled
      exact .inl hinstalled
  | invalidated =>
    rcases invalidateHost_hostState row with ⟨hdead, -⟩ | ⟨hkept, -⟩
    · rw [hdead] at hinstalled
      cases hinstalled
    · rw [hkept] at hinstalled
      exact .inl hinstalled
  | installPrepared => cases hinstalled
  | digestSet => exact .inl hinstalled
  | acknowledged kind _ _ _ _ _ _ _ _ _ origin =>
    obtain ⟨ack, hack, rfl, -, hid, hmatches⟩ := origin
    refine .inr ⟨ack, hack, fun hrevoke => ?_, hid, hmatches⟩
    change ack.kind.state = .installed at hinstalled
    rw [hrevoke] at hinstalled
    cases hinstalled
  | renewPrepared => cases hinstalled
  | renewCompleted _ _ _ _ _ _ _ _ _ _ origin =>
    obtain ⟨ack, hack, hkind, hid, -, hmatches⟩ := origin
    refine .inr ⟨ack, hack, ?_, hid, hmatches⟩
    rw [hkind]
    decide
  | revokeBegun => cases hinstalled

/-- The states that no call leaves. -/
def RecoveryHostLeaseState.isFinal : RecoveryHostLeaseState → Bool
  | .hostRevoked | .restartInvalidated => true
  | _ => false

lemma not_live_of_final (h : row.hostState.isFinal = true) : row.isHostLive = false := by
  rw [LeaseRow.isHostLive]
  cases hstate : row.hostState <;> rw [hstate] at h <;> first | rfl | cases h

/-- **A revoked or invalidated lease stays so.** -/
theorem LeaseRow.Change.absorbed (h : row.Change store call after) (hrow : HostSound store row)
    (hfinal : row.hostState.isFinal = true) : after.hostState = row.hostState := by
  have hdead := not_live_of_final hfinal
  cases h with
  | kept | expired | revoked | renewed | digestSet => rfl
  | replaced reason =>
    have hrevoked : (row.revoke reason).isHostLive = false := hdead
    rw [invalidateHost_of_not_live hrevoked]
    rfl
  | invalidated => rw [invalidateHost_of_not_live hdead]
  | installPrepared _ _ _ _ _ uninstalled =>
    rw [hrow.uninstalled.mp uninstalled] at hfinal
    cases hfinal
  | acknowledged kind _ _ _ _ _ _ pending =>
    rw [pending] at hfinal
    cases kind <;> cases hfinal
  | renewPrepared _ _ _ installed =>
    rw [installed] at hfinal
    cases hfinal
  | renewCompleted _ _ _ _ _ _ pending =>
    rw [pending] at hfinal
    cases hfinal
  | revokeBegun _ _ installed =>
    rw [installed] at hfinal
    cases hfinal

/-- A row without an installation gets one when it leaves the uninstalled state. -/
lemma LeaseRow.Change.installation (h : row.Change store call after) :
    after.hostInstallationId = row.hostInstallationId ∧
        (after.hostState = .uninstalled ↔ row.hostState = .uninstalled) ∨
      after.hostInstallationId ≠ none ∧ after.hostState ≠ .uninstalled := by
  cases h with
  | kept | expired | revoked | renewed | digestSet => exact .inl ⟨rfl, Iff.rfl⟩
  | replaced reason => exact .inl ⟨rfl, invalidateHost_uninstalled (row.revoke reason)⟩
  | invalidated => exact .inl ⟨rfl, invalidateHost_uninstalled row⟩
  | installPrepared =>
    exact .inr ⟨by simp [LeaseRow.prepareInstall], by simp [LeaseRow.prepareInstall]⟩
  | acknowledged kind _ _ _ _ _ _ _ installation =>
    refine .inr ⟨?_, by cases kind <;> simp [LeaseRow.acknowledge, HostAckKind.state]⟩
    simp [LeaseRow.acknowledge, installation]
  | renewPrepared _ _ _ installed =>
    refine .inl ⟨rfl, iff_of_false (by simp [LeaseRow.prepareRenew]) ?_⟩
    rw [installed]
    decide
  | renewCompleted _ _ _ _ _ _ pending =>
    refine .inl ⟨rfl, iff_of_false ?_ ?_⟩
    · simp [LeaseRow.completeRenew, LeaseRow.acknowledge]
    · rw [pending]
      decide
  | revokeBegun _ _ installed =>
    refine .inl ⟨rfl, iff_of_false (by simp [LeaseRow.beginRevoke]) ?_⟩
    rw [installed]
    decide

/-- A pending renewal is of a later sequence than the acknowledged one. -/
lemma LeaseRow.Change.renewals (h : row.Change store call after) (hrow : HostSound store row) :
    after.hostRenewSequence ≤ after.lastRenewSequence ∧
      (after.hostState = .pendingHostRenew →
        ∃ sequence, after.pendingRenewSequence = some sequence ∧
          after.hostRenewSequence < sequence) := by
  have hle := hrow.renewed
  cases h with
  | kept | expired | revoked | digestSet => exact ⟨hle, hrow.pending⟩
  | renewed _ _ _ _ sequence => exact ⟨hle.trans sequence.le, hrow.pending⟩
  | replaced reason =>
    refine ⟨hle, fun hpending => ?_⟩
    have hdead := invalidateHost_not_live (row.revoke reason)
    rw [LeaseRow.isHostLive, hpending] at hdead
    cases hdead
  | invalidated =>
    refine ⟨hle, fun hpending => ?_⟩
    have hdead := invalidateHost_not_live row
    rw [LeaseRow.isHostLive, hpending] at hdead
    cases hdead
  | installPrepared => exact ⟨Nat.zero_le _, fun hpending => by cases hpending⟩
  | acknowledged kind _ _ _ _ _ _ _ _ _ _ fresh =>
    subst fresh
    exact ⟨Nat.zero_le _, fun hpending => by cases kind <;> cases hpending⟩
  | renewPrepared expires sequence _ _ _ hsequence =>
    exact ⟨hle, fun _ => ⟨sequence, rfl, hle.trans_lt hsequence⟩⟩
  | renewCompleted => exact ⟨le_rfl, fun hpending => by cases hpending⟩
  | revokeBegun => exact ⟨hle, fun hpending => by cases hpending⟩

/-- A change keeps what holds of every row, under an authority of the same boot. -/
lemma LeaseRow.Change.hostSound {next : GatewayRecoveryStore} (h : row.Change store call after)
    (hrow : HostSound store row)
    (hboot : after.isHostLive = true → BootOf store row → BootOf next row)
    (hgeneration : store.generation ≤ next.generation) : HostSound next after where
  uninstalled := by
    rcases h.installation with ⟨hid, hstate⟩ | ⟨hid, hstate⟩
    · rw [hid, hstate]
      exact hrow.uninstalled
    · exact iff_of_false hid hstate
  current hlive := by
    have hstored : BootOf store row := (h.live hlive).elim hrow.current id
    obtain ⟨a, ha, hid, hgen⟩ := hboot hlive hstored
    exact ⟨a, ha, hid.trans h.boot.symm, hgen.trans h.identity.2.2.symm⟩
  generation := by
    rw [h.identity.2.2]
    exact hrow.generation.trans hgeneration
  renewed := (h.renewals hrow).1
  pending := (h.renewals hrow).2

end Changes

/-! ### Stores -/

/-- What holds of every lease row of a store. -/
def HostsSound (store : GatewayRecoveryStore) : Prop :=
  ∀ leaseId row, store.leases.find? leaseId = some row → HostSound store row

/-- A boot leaves no lease live on the host. -/
lemma Booted.not_live {store after : GatewayRecoveryStore} {boot : RecoveryBootContext}
    (h : Booted store boot after) {leaseId : String} {row : LeaseRow}
    (hrow : after.leases.find? leaseId = some row) : row.isHostLive = false := by
  obtain ⟨reason, hleases⟩ := h.leases
  rw [hleases, Option.map_eq_some_iff] at hrow
  obtain ⟨old, -, rfl⟩ := hrow
  rw [replaceLease]
  split_ifs
  · exact invalidateHost_not_live (old.revoke reason)
  · exact invalidateHost_not_live old

section Token

variable [Sha256] {store : GatewayRecoveryStore} {call : Call}

/-- A call replaces the boot or leaves it. -/
lemma boot_next (store : GatewayRecoveryStore) (call : Call) :
    (∃ boot, Booted store boot (next store call)) ∨
      ∀ row, BootOf store row → BootOf (next store call) row := by
  cases call with
  | authority call =>
    have hstep := perform_authority store call
    change (∃ boot, Booted store boot (call.perform store).store) ∨
      ∀ row, BootOf store row → BootOf (call.perform store).store row
    generalize call.perform store = reply at hstep
    cases hstep with
    | refused => exact .inr fun _ h => h
    | booted boot after booted => exact .inl ⟨boot, booted⟩
    | fenced a columns fence authority =>
      refine .inr fun row h => ?_
      obtain ⟨stored, hstored, hid, hgeneration⟩ := h
      rw [authority] at hstored
      cases hstored
      exact ⟨_, rfl, hid, hgeneration⟩
  | _ =>
    refine .inr fun row h => ?_
    obtain ⟨a, ha, hid, hgeneration⟩ := h
    exact ⟨a, (next_authority store _ fun _ h => by cases h).trans ha, hid, hgeneration⟩

/-- **What holds of every row is kept by every call.** -/
theorem hostsSound_next (h : HostsSound store) : HostsSound (next store call) := by
  intro leaseId after hafter
  have hgeneration := generation_mono store call
  rcases (next_leases store call).origin hafter with ⟨row, hrow, hchange⟩ | ⟨hgranted, -⟩
  · refine hchange.hostSound (h leaseId row hrow) (fun hlive hboot => ?_) hgeneration
    rcases boot_next store call with ⟨boot, hbooted⟩ | hkept
    · rw [hbooted.not_live hafter] at hlive
      cases hlive
    · exact hkept row hboot
  · have hlive : after.isHostLive = false := by
      rw [LeaseRow.isHostLive, hgranted.uninstalled]
      rfl
    obtain ⟨a, ha, -, -, -, -, -, hgen⟩ := hgranted.authority
    refine ⟨iff_of_true hgranted.installation hgranted.uninstalled, fun h => ?_, ?_, ?_,
      fun h => ?_⟩
    · rw [hlive] at h
      cases h
    · refine le_trans (le_of_eq ?_) hgeneration
      rw [GatewayRecoveryStore.generation, ha, ← hgen]
      rfl
    · rw [hgranted.hostSequence]
      exact Nat.zero_le _
    · rw [hgranted.uninstalled] at h
      cases h

lemma hostsSound_run (config : RecoveryStoreConfig) (calls : List Call) :
    HostsSound ((GatewayRecoveryStore.openWithConfig config).run calls) :=
  run_invariant (P := HostsSound) (fun _ _ => hostsSound_next)
    (fun leaseId row hrow => by cases hrow) calls

end Token

/-! ### Acknowledgments -/

/-- The row of an acknowledgment that was taken: it waits for it no more. -/
structure Acknowledged (ack : HostAck) (row : LeaseRow) : Prop where
  installation : row.hostInstallationId ≠ none
  installed : row.hostState ≠ .pendingHostInstall
  renewed : ack.kind = .renew →
    ack.renewSequence ≤ row.hostRenewSequence ∨ row.hostState = .hostRevoked
  revoked : ack.kind = .revoke → row.hostState = .hostRevoked

section Acknowledgments

variable {store : GatewayRecoveryStore} {call : Call} {row after : LeaseRow} {ack : HostAck}

/-- An installation is prepared for a lease that has none. -/
lemma LeaseRow.Change.pendingInstall (h : row.Change store call after)
    (hpending : after.hostState = .pendingHostInstall) :
    row.hostState = .pendingHostInstall ∨ row.hostInstallationId = none := by
  cases h with
  | kept | expired | revoked | renewed | digestSet => exact .inl hpending
  | replaced reason =>
    rcases invalidateHost_hostState (row.revoke reason) with ⟨hdead, -⟩ | ⟨hkept, -⟩
    · rw [hdead] at hpending
      cases hpending
    · rw [hkept] at hpending
      exact .inl hpending
  | invalidated =>
    rcases invalidateHost_hostState row with ⟨hdead, -⟩ | ⟨hkept, -⟩
    · rw [hdead] at hpending
      cases hpending
    · rw [hkept] at hpending
      exact .inl hpending
  | installPrepared _ _ _ _ _ uninstalled => exact .inr uninstalled
  | acknowledged kind => cases kind <;> cases hpending
  | renewPrepared | renewCompleted | revokeBegun => cases hpending

/-- The acknowledged sequence of an installed lease grows until the lease is revoked. -/
lemma LeaseRow.Change.hostSequence (h : row.Change store call after) (hrow : HostSound store row)
    (hid : row.hostInstallationId ≠ none) (hinstalled : row.hostState ≠ .pendingHostInstall) :
    row.hostRenewSequence ≤ after.hostRenewSequence ∨ after.hostState = .hostRevoked := by
  cases h with
  | installPrepared _ _ _ _ _ uninstalled => exact absurd uninstalled hid
  | acknowledged kind _ _ _ _ _ _ pending _ _ origin =>
    obtain ⟨-, -, -, hkind, -⟩ := origin
    cases kind with
    | install => exact absurd pending hinstalled
    | renew => exact absurd rfl hkind
    | revoke => exact .inr rfl
  | renewCompleted _ sequence _ _ _ _ pending pendingSequence =>
    obtain ⟨later, hlater, hlt⟩ := hrow.pending pending
    rw [pendingSequence] at hlater
    cases hlater
    exact .inl hlt.le
  | _ => exact .inl le_rfl

/-- An acknowledgment stays taken. -/
lemma Acknowledged.change (h : Acknowledged ack row) (hrow : HostSound store row)
    (hchange : row.Change store call after) : Acknowledged ack after := by
  have hrevoked : row.hostState = .hostRevoked → after.hostState = .hostRevoked := by
    intro hstate
    rw [hchange.absorbed hrow (by rw [hstate]; rfl), hstate]
  refine ⟨?_, fun hpending => ?_, fun hkind => ?_, fun hkind => hrevoked (h.revoked hkind)⟩
  · rcases hchange.installation with ⟨hid, -⟩ | ⟨hid, -⟩
    · rw [hid]
      exact h.installation
    · exact hid
  · exact (hchange.pendingInstall hpending).elim h.installed h.installation
  · rcases h.renewed hkind with hle | hstate
    · exact (hchange.hostSequence hrow h.installation h.installed).imp hle.trans id
    · exact .inr (hrevoked hstate)

/-- A row that has taken an acknowledgment does not wait for it. -/
lemma Acknowledged.not_matches (h : Acknowledged ack row) (hrow : HostSound store row) :
    ¬ ack.Matches row := by
  intro hmatches
  have hpending := hmatches.pending
  cases hkind : ack.kind with
  | install =>
    rw [hkind] at hpending
    exact h.installed hpending
  | renew =>
    rw [hkind] at hpending
    obtain ⟨sequence, hsequence, hlt⟩ := hrow.pending hpending
    rw [hmatches.sequence hkind] at hsequence
    cases hsequence
    rcases h.renewed hkind with hle | hstate
    · omega
    · rw [hpending] at hstate
      cases hstate
  | revoke =>
    rw [hkind, h.revoked hkind] at hpending
    cases hpending

/-- What an accepted acknowledgment says of its lease, before and after. -/
def Taken (store : GatewayRecoveryStore) (ack : HostAck) (after : GatewayRecoveryStore) : Prop :=
  (∃ row, after.leases.find? ack.leaseId = some row ∧ Acknowledged ack row) ∧
    (after = store ∨ ∃ row, store.leases.find? ack.leaseId = some row ∧ ack.Matches row)

/-- An installed or revoked row has taken its acknowledgment. -/
lemma acknowledged_of_state {kind : HostAckKind} (hkind : ack.kind = kind) (hne : kind ≠ .renew)
    (hid : row.hostInstallationId ≠ none) (hstate : row.hostState = kind.state) :
    Acknowledged ack row := by
  refine ⟨hid, ?_, fun hrenew => absurd (hkind.symm.trans hrenew) hne, fun hrevoke => ?_⟩
  · rw [hstate]
    cases kind <;> decide
  · rw [hstate, ← hkind, hrevoke]
    rfl

/-- A binding update writes the row of its lease. -/
lemma updateBinding_found {leaseId : String} {due : LeaseRow → Bool} {set : LeaseRow → LeaseRow}
    {hset : ∀ row, (set row).leaseId = row.leaseId} {binding : RecoveryHostLeaseBinding}
    {after : GatewayRecoveryStore}
    (h : store.updateBinding leaseId due set hset = .ok (binding, after))
    (hrow : store.leases.find? leaseId = some row) (hdue : due row = true) :
    after.leases.find? leaseId = some (set row) := by
  obtain ⟨-, rfl⟩ := GatewayRecoveryStore.updateBinding_eq_ok h
  change (store.leases.update due set hset).find? leaseId = _
  rw [Table.find?_update, hrow, Option.map_some, if_pos hdue]

lemma completeHostAck_taken {kind : HostAckKind} {leaseId installationId grantDigest : String}
    {hostInstallGeneration : ℕ} {ackMessageId : String} {ackRecordedAtMillis : ℕ}
    (hkind : kind ≠ .renew) :
    Returns (store.completeHostAck kind leaseId installationId grantDigest hostInstallGeneration 0
      ackMessageId ackRecordedAtMillis) fun (_, after) => Taken store
        ⟨kind, leaseId, installationId, grantDigest, hostInstallGeneration, 0, 0⟩ after := by
  refine .bind fun _ _ => .bind fun _ _ => .bind fun _ _ => .bind fun _ _ => .bind fun _ _ =>
    .bind fun _ _ => .bind fun _ _ => .refuse fun _ => .bind fun row hrow => .refuse fun _ =>
    .refuse fun hnamed => ?_
  have hfound := GatewayRecoveryStore.requireLease_eq_ok.mp hrow
  rw [not_or, not_not, not_not] at hnamed
  have hid : row.hostInstallationId ≠ none := by
    rw [hnamed.1]
    exact Option.some_ne_none _
  split_ifs with hrepeated
  · exact .pure ⟨⟨row, hfound, acknowledged_of_state rfl hkind hid hrepeated.1⟩, .inl rfl⟩
  · refine .refuse fun hpending => ?_
    rintro ⟨binding, after⟩ hafter
    rw [not_not] at hpending
    have hkey : row.leaseId = leaseId := Table.key_of_find? hfound
    refine ⟨⟨_, updateBinding_found hafter hfound (by simp [hkey, hpending, hnamed]),
      acknowledged_of_state rfl hkind ?_ rfl⟩, .inr ⟨row, hfound, hpending, hnamed.1, hnamed.2,
        fun h => absurd h hkind, fun h => absurd h hkind⟩⟩
    exact hid

lemma completeHostLeaseRenew_taken {leaseId installationId grantDigest : String}
    {renewSequence expiresAtMillis hostInstallGeneration : ℕ} {ackMessageId : String}
    {ackRecordedAtMillis : ℕ} :
    Returns (store.completeHostLeaseRenew leaseId installationId grantDigest renewSequence
      expiresAtMillis hostInstallGeneration ackMessageId ackRecordedAtMillis) fun (_, after) =>
        Taken store ⟨.renew, leaseId, installationId, grantDigest, hostInstallGeneration,
          renewSequence, expiresAtMillis⟩ after := by
  refine .bind fun (row, repeated) hadmit => ?_
  simp only [GatewayRecoveryStore.admitHostLeaseRenew, except_bind_eq_ok, refuse_eq_ok] at hadmit
  obtain ⟨_, -, _, -, _, -, _, -, _, -, _, -, _, -, _, -, _, -, _, -, found, hfound, _, hnamed, _, -,
    hadmit⟩ := hadmit
  rw [GatewayRecoveryStore.requireLease_eq_ok] at hfound
  rw [not_not] at hnamed
  have hid : found.hostInstallationId ≠ none := by
    rw [hnamed]
    exact Option.some_ne_none _
  split_ifs at hadmit with hrepeated
  · cases hadmit
    obtain ⟨hstate, -, hsequence, -⟩ := hrepeated
    refine .pure ⟨⟨row, hfound, hid, ?_, fun _ => .inl hsequence.ge, fun h => by cases h⟩, .inl rfl⟩
    rw [hstate]
    decide
  · simp only [except_bind_eq_ok, refuse_eq_ok, not_or, not_not] at hadmit
    obtain ⟨_, ⟨hstate, hsequence, hexpires, -, -⟩, hadmit⟩ := hadmit
    cases hadmit
    intro (binding, after) hafter
    obtain ⟨hone, -⟩ := GatewayRecoveryStore.updateBinding_eq_ok hafter
    rw [Table.count_key_eq_one, hfound] at hone
    obtain ⟨_, hrow, hdue⟩ := hone
    cases hrow
    have hdigest : row.hostGrantDigest = some grantDigest := by
      simp only [Bool.and_eq_true, decide_eq_true_eq] at hdue
      exact hdue.2.2.2.1
    have hkey : row.leaseId = leaseId := Table.key_of_find? hfound
    refine ⟨⟨_, updateBinding_found hafter hfound ?_, hid, (fun h => by cases h), fun _ => .inl le_rfl,
      (fun h => by cases h)⟩, .inr ⟨row, hfound, hstate, hnamed, hdigest, fun _ => hsequence,
        fun _ => hexpires⟩⟩
    rw [Bool.and_eq_true]
    exact ⟨decide_eq_true hkey, hdue⟩

end Acknowledgments

/-! ### Earlier boots -/

/-- A lease that was granted under an earlier generation. -/
def Outdated (leaseId : String) (store : GatewayRecoveryStore) : Prop :=
  ∃ row, store.leases.find? leaseId = some row ∧ row.authorityGeneration < store.generation

/-- An outdated lease is live nowhere. -/
lemma Outdated.not_live {store : GatewayRecoveryStore} {leaseId : String}
    (h : Outdated leaseId store) (hsound : HostsSound store) :
    ∃ row, store.leases.find? leaseId = some row ∧ row.isHostLive = false := by
  obtain ⟨row, hrow, hlt⟩ := h
  refine ⟨row, hrow, Bool.eq_false_iff.mpr fun hlive => ?_⟩
  obtain ⟨a, ha, -, hgeneration⟩ := (hsound leaseId row hrow).current hlive
  rw [GatewayRecoveryStore.generation, ha, Option.elim_some, hgeneration] at hlt
  exact lt_irrefl _ hlt

/-! ### Runs -/

section Runs

variable [Sha256] {store : GatewayRecoveryStore} {call : Call} {ack : HostAck} {leaseId : String}

/-- An acknowledgment is refused, or taken. -/
lemma hostAck_next (hack : call.hostAck = some ack) :
    (∃ e, (call.perform store).answer = .error e) ∧ next store call = store ∨
      Taken store ack (next store call) := by
  have hcommit : ∀ {transaction : Except RecoveryStoreError
        (RecoveryHostLeaseBinding × GatewayRecoveryStore)},
      Returns transaction (fun (_, after) => Taken store ack after) →
      (∃ e, ((commit store transaction).map Answer.binding).answer = .error e) ∧
          ((commit store transaction).map Answer.binding).store = store ∨
        Taken store ack ((commit store transaction).map Answer.binding).store := by
    intro transaction h
    rcases commit_cases store transaction with ⟨e, -, hcommit⟩ | ⟨binding, after, hok, hcommit⟩
    · rw [hcommit]
      exact .inl ⟨⟨e, rfl⟩, rfl⟩
    · rw [hcommit]
      exact .inr (h _ hok)
  cases call with
  | hostLease call =>
    cases call with
    | completeInstall =>
      cases hack
      exact hcommit (completeHostAck_taken (by decide))
    | completeRenew =>
      cases hack
      exact hcommit completeHostLeaseRenew_taken
    | completeRevoke =>
      cases hack
      exact hcommit (completeHostAck_taken (by decide))
    | _ => cases hack
  | _ => cases hack

/-- The lease of an acknowledgment that was taken. -/
def Holds (ack : HostAck) (store : GatewayRecoveryStore) : Prop :=
  ∃ row, store.leases.find? ack.leaseId = some row ∧ Acknowledged ack row

lemma holds_next (h : Holds ack store) (hsound : HostsSound store) :
    Holds ack (next store call) := by
  obtain ⟨row, hrow, hacknowledged⟩ := h
  obtain ⟨after, hafter, hchange⟩ := (next_leases store call).row hrow
  exact ⟨after, hafter, hacknowledged.change (hsound _ row hrow) hchange⟩

/-- **A repeated acknowledgment changes nothing.** -/
theorem Holds.repeated (h : Holds ack store) (hsound : HostsSound store)
    (hack : call.hostAck = some ack) : next store call = store := by
  obtain ⟨row, hrow, hacknowledged⟩ := h
  rcases hostAck_next hack with ⟨-, hkept⟩ | ⟨-, hkept | ⟨waiting, hwaiting, hmatches⟩⟩
  · exact hkept
  · exact hkept
  · rw [hrow] at hwaiting
    cases hwaiting
    exact absurd hmatches (hacknowledged.not_matches (hsound _ row hrow))

lemma holds_run (h : Holds ack store) (hsound : HostsSound store) (calls : List Call) :
    HostsSound (store.run calls) ∧ Holds ack (store.run calls) :=
  run_invariant (P := fun store => HostsSound store ∧ Holds ack store)
    (fun _ _ h => ⟨hostsSound_next h.1, holds_next h.2 h.1⟩) ⟨hsound, h⟩ calls

lemma outdated_next (h : Outdated leaseId store) : Outdated leaseId (next store call) := by
  obtain ⟨row, hrow, hlt⟩ := h
  obtain ⟨after, hafter, hchange⟩ := (next_leases store call).row hrow
  refine ⟨after, hafter, ?_⟩
  rw [hchange.identity.2.2]
  exact hlt.trans_le (generation_mono store call)

lemma outdated_run (h : Outdated leaseId store) (calls : List Call) :
    Outdated leaseId (store.run calls) :=
  run_invariant (P := Outdated leaseId) (fun _ _ => outdated_next) h calls

/-- A lease in a final state. -/
def Final (leaseId : String) (state : RecoveryHostLeaseState) (store : GatewayRecoveryStore) :
    Prop :=
  ∃ row, store.leases.find? leaseId = some row ∧ row.hostState = state

lemma final_next {state : RecoveryHostLeaseState} (h : Final leaseId state store)
    (hsound : HostsSound store) (hfinal : state.isFinal = true) :
    Final leaseId state (next store call) := by
  obtain ⟨row, hrow, rfl⟩ := h
  obtain ⟨after, hafter, hchange⟩ := (next_leases store call).row hrow
  exact ⟨after, hafter, hchange.absorbed (hsound _ row hrow) hfinal⟩

/-- What holds of the host's states in a run. -/
structure HostLeaseStates (config : RecoveryStoreConfig) (calls : List Call) : Prop where
  installed : ∀ before call between, calls = before ++ call :: between → ∀ leaseId after,
    ((GatewayRecoveryStore.openWithConfig config).run (before ++ [call])).leases.find? leaseId =
      some after → after.hostState = .installed →
    ∃ row, ((GatewayRecoveryStore.openWithConfig config).run before).leases.find? leaseId =
        some row ∧
      (row.hostState = .installed ∨ ∃ ack, call.hostAck = some ack ∧ ack.kind ≠ .revoke ∧
        ack.leaseId = leaseId ∧ ack.Matches row)
  absorbed : ∀ before between, calls = before ++ between → ∀ leaseId row,
    ((GatewayRecoveryStore.openWithConfig config).run before).leases.find? leaseId = some row →
    row.hostState = .restartInvalidated ∨ row.hostState = .hostRevoked →
    ∃ after, ((GatewayRecoveryStore.openWithConfig config).run calls).leases.find? leaseId =
      some after ∧ after.hostState = row.hostState
  ended : ∀ before call between, calls = before ++ call :: between →
    (bootedGeneration ((GatewayRecoveryStore.openWithConfig config).run before) call).isSome ∨
      call = .hostLease .invalidateForRestart →
    ∀ leaseId row, ((GatewayRecoveryStore.openWithConfig config).run
      (before ++ [call])).leases.find? leaseId = some row → row.isHostLive = false
  outdated : ∀ before boot between, calls = before ++ boot :: between →
    (bootedGeneration ((GatewayRecoveryStore.openWithConfig config).run before) boot).isSome →
    ∀ leaseId row,
    ((GatewayRecoveryStore.openWithConfig config).run before).leases.find? leaseId = some row →
    ∃ after, ((GatewayRecoveryStore.openWithConfig config).run calls).leases.find? leaseId =
      some after ∧ after.isHostLive = false
  current : ∀ leaseId row,
    ((GatewayRecoveryStore.openWithConfig config).run calls).leases.find? leaseId = some row →
    row.isHostLive = true → BootOf ((GatewayRecoveryStore.openWithConfig config).run calls) row
  repeated : ∀ before first between again ack, calls = before ++ first :: (between ++ [again]) →
    first.hostAck = some ack → again.hostAck = some ack →
    (first.perform ((GatewayRecoveryStore.openWithConfig config).run before)).answer.isOk →
    (GatewayRecoveryStore.openWithConfig config).run calls =
      (GatewayRecoveryStore.openWithConfig config).run (before ++ first :: between)

/-- **The host's states of a lease**, after every run of a store. -/
theorem host_lease_states (config : RecoveryStoreConfig) (calls : List Call) :
    HostLeaseStates config calls where
  installed := by
    rintro before call between rfl leaseId after hafter hinstalled
    rw [GatewayRecoveryStore.run, run_append] at hafter
    rcases (next_leases _ call).origin hafter with ⟨row, hrow, hchange⟩ | ⟨hgranted, -⟩
    · refine ⟨row, hrow, (hchange.installed hinstalled).imp_right ?_⟩
      rintro ⟨ack, hack, hkind, hid, hmatches⟩
      exact ⟨ack, hack, hkind, hid.trans (Table.key_of_find? hrow), hmatches⟩
    · rw [hgranted.uninstalled] at hinstalled
      cases hinstalled
  absorbed := by
    rintro before between rfl leaseId row hrow hstate
    have hfinal : row.hostState.isFinal = true := by
      rcases hstate with h | h <;> rw [h] <;> rfl
    rw [GatewayRecoveryStore.run, run_append]
    exact (run_invariant (P := fun store => HostsSound store ∧ Final leaseId row.hostState store)
      (fun store call h => ⟨hostsSound_next h.1, final_next h.2 h.1 hfinal⟩)
      ⟨hostsSound_run config before, row, hrow, rfl⟩ between).2
  ended := by
    rintro before call between rfl hcall leaseId row hrow
    rw [GatewayRecoveryStore.run, run_append] at hrow
    rcases hcall with hbooted | rfl
    · obtain ⟨generation, hgeneration⟩ := Option.isSome_iff_exists.mp hbooted
      obtain ⟨boot, -, hbooted⟩ := bootedGeneration_eq_some hgeneration
      exact hbooted.not_live hrow
    · change (invalidateHostLeases _).find? leaseId = some row at hrow
      rw [find?_invalidateHostLeases, Option.map_eq_some_iff] at hrow
      obtain ⟨old, -, rfl⟩ := hrow
      exact invalidateHost_not_live old
  outdated := by
    rintro before boot between rfl hbooted leaseId row hrow
    obtain ⟨generation, hgeneration⟩ := Option.isSome_iff_exists.mp hbooted
    obtain ⟨context, -, hbooted⟩ := bootedGeneration_eq_some hgeneration
    have houtdated : Outdated leaseId
        (next ((GatewayRecoveryStore.openWithConfig config).run before) boot) := by
      obtain ⟨after, hafter, hchange⟩ := (next_leases _ boot).row hrow
      have hsound := (hostsSound_run config before leaseId row hrow).generation
      refine ⟨after, hafter, ?_⟩
      rw [hchange.identity.2.2, hbooted.generation_eq, hbooted.generation]
      omega
    have hsound := hostsSound_run config (before ++ boot :: between)
    rw [GatewayRecoveryStore.run, run_append, run_cons] at hsound ⊢
    exact (outdated_run houtdated between).not_live hsound
  current leaseId row hrow := (hostsSound_run config calls leaseId row hrow).current
  repeated := by
    rintro before first between again ack rfl hfirst hagain hok
    have hsound := hostsSound_run config before
    have htaken : Holds ack (next ((GatewayRecoveryStore.openWithConfig config).run before) first) := by
      rcases hostAck_next hfirst with ⟨⟨e, he⟩, -⟩ | htaken
      · rw [he] at hok
        cases hok
      · exact htaken.1
    obtain ⟨hsound, hheld⟩ := holds_run htaken (hostsSound_next hsound) between
    rw [GatewayRecoveryStore.run, GatewayRecoveryStore.run, run_append, run_append, run_cons,
      run_cons, run_append]
    exact hheld.repeated hsound hagain

end Runs

end Sts2Gateway.Recovery
