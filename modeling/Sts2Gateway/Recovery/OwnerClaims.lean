/-
The claims of continuation operations, over the runs of a store.

* `Available`: the lease of an owner, active, unexpired and installed under the
  current fence, with every field of the owner its own;
* `currentOwnerSnapshot_available`: **what an available snapshot says**;
* `OwnersDistinct`: no two claims of one lease and epoch;
* `continuation_ownership`: claims after every run, and what claiming and adopting
  say and leave alone.
-/
import Mathlib.Tactic
import Sts2Gateway.Recovery.Fence

namespace Sts2Gateway.Recovery

open Machine Procedure Relational Text

/-! ### Snapshots -/

/-- A lease row whose identity an owner repeats. -/
structure OwnedBy (row : LeaseRow) (owner : RecoveryContinuationOwner) : Prop where
  deployment : row.deploymentId = owner.deploymentId
  instanceId : row.instanceId = owner.instanceId
  incarnation : row.instanceIncarnation = owner.instanceIncarnation
  boot : row.bootId = owner.bootId
  generation : row.authorityGeneration = owner.authorityGeneration
  hostFence : row.hostFenceId = some owner.hostFenceId
  hostFenceGeneration : row.hostFenceGeneration = some owner.hostFenceGeneration
  leaseId : row.leaseId = owner.leaseId
  epoch : row.leaseEpoch = owner.leaseEpoch
  session : row.sessionId = owner.sessionId
  expires : row.expiresAtMillis = owner.leaseExpiresAtMillis

/-- The authority under which an owner is live. -/
structure OwnerAuthority (store : GatewayRecoveryStore) (owner : RecoveryContinuationOwner)
    (a : AuthorityRow) : Prop where
  stored : store.authority = some a
  ready : a.state = .ready
  fence : a.fence.map (fun f => (f.hostFenceId, f.fenceGeneration)) =
    some (owner.hostFenceId, owner.hostFenceGeneration)
  boot : a.bootId = owner.bootId
  generation : a.authorityGeneration = owner.authorityGeneration

/-- An owner that may act now. -/
def Available (store : GatewayRecoveryStore) (owner : RecoveryContinuationOwner)
    (nowMillis : ℕ) : Prop :=
  ∃ row a, store.leases.find? owner.leaseId = some row ∧ OwnedBy row owner ∧
    row.status = .active ∧ nowMillis < row.expiresAtMillis ∧ row.hostState = .installed ∧
    OwnerAuthority store owner a

lemma latestLease_mem {rows : List LeaseRow} {row : LeaseRow} (h : latestLease rows = some row) :
    row ∈ rows := by
  induction rows generalizing row with
  | nil => cases h
  | cons first rows ih =>
    rw [latestLease] at h
    cases hlater : latestLease rows with
    | none =>
      rw [hlater] at h
      cases h
      exact List.mem_cons_self ..
    | some later =>
      rw [hlater] at h
      dsimp only at h
      split_ifs at h <;> cases h
      · exact List.mem_cons_of_mem _ (ih hlater)
      · exact List.mem_cons_self ..

lemma ownerState_available {row : LeaseRow} {nowMillis : ℕ}
    (h : ownerState row nowMillis = .available) :
    row.status = .active ∧ nowMillis < row.expiresAtMillis ∧ row.hostState = .installed := by
  rw [ownerState] at h
  cases hstatus : row.status with
  | active =>
    rw [hstatus] at h
    dsimp only at h
    split_ifs at h with hexpires hinstalled
    exact ⟨rfl, hexpires, hinstalled⟩
  | expired | revoked =>
    rw [hstatus] at h
    cases h

/-- The current fence is that of the authority's row. -/
lemma currentFence_eq_some {store : GatewayRecoveryStore} {fence : RecoveryHostFence}
    {a : AuthorityRow} (ha : store.authority = some a) (h : store.currentFence = some fence) :
    ∃ columns, a.fence = some columns ∧ fence = rowFence a columns := by
  rw [GatewayRecoveryStore.currentFence, ha] at h
  cases hcolumns : a.fence with
  | none =>
    rw [Option.bind_eq_bind, Option.bind_some, hcolumns] at h
    cases h
  | some columns =>
    rw [Option.bind_eq_bind, Option.bind_some, hcolumns] at h
    cases h
    exact ⟨columns, rfl, rfl⟩

/-- **An available snapshot** is that of a live lease, and repeats it. -/
theorem currentOwnerSnapshot_available {store : GatewayRecoveryStore} {sessionId : String}
    {nowMillis : ℕ} {snapshot : RecoveryContinuationOwnerSnapshot}
    (h : store.currentOwnerSnapshot sessionId nowMillis = .ok snapshot)
    (havailable : snapshot.state = .available) :
    ∃ owner, snapshot.owner = some owner ∧ Available store owner nowMillis := by
  rw [GatewayRecoveryStore.currentOwnerSnapshot] at h
  obtain ⟨authority, hauthority, h⟩ := except_bind_eq_ok.mp h
  -- every other way out of the reads answers another state
  have hout : ∀ {state owner}, state ≠ .available →
      Except.ok (ε := RecoveryStoreError) (⟨state, owner⟩ : RecoveryContinuationOwnerSnapshot) ≠
        .ok snapshot := by
    intro state owner hstate heq
    cases heq
    exact hstate havailable
  split at h
  swap
  · exact absurd h (hout (by decide))
  rename_i boot
  split_ifs at h with hready
  · exact absurd h (hout (by decide))
  split at h
  swap
  · exact absurd h (hout (by decide))
  rename_i fence hfence
  split_ifs at h
  · exact absurd h (hout (by decide))
  split at h
  swap
  · exact absurd h (hout (by decide))
  rename_i row hrow
  split at h
  swap
  · exact absurd h (hout (by decide))
  rename_i hostFenceGeneration hgeneration
  dsimp only at h
  split_ifs at h with hcolumns
  · exact absurd h (hout (by decide))
  cases h
  have hboot : store.currentBoot = .ok boot := by
    rw [GatewayRecoveryStore.currentBoot, hauthority]
    rfl
  obtain ⟨a, ha, haboot⟩ := currentBoot_eq_ok hboot
  obtain ⟨-, -, -, hbootId, hbootGeneration, -, -, hstate⟩ := rowBoot_eq_ok haboot
  obtain ⟨columns, hfenced, rfl⟩ := currentFence_eq_some ha hfence
  obtain ⟨hmem, hlease⟩ := List.mem_filter.mp (latestLease_mem hrow)
  obtain ⟨h1, h2, h3, h4, h5⟩ := of_decide_eq_true hlease
  simp only [not_or, not_not] at hcolumns
  obtain ⟨hfenceId, hfenceGeneration, -⟩ := hcolumns
  obtain ⟨hactive, hexpires, hinstalled⟩ := ownerState_available havailable
  refine ⟨_, rfl, row, a, Table.find?_key hmem, ⟨h1, h2, h3, h4, h5, hfenceId, ?_, rfl, rfl, rfl, rfl⟩,
    hactive, hexpires, hinstalled, ha, hstate.symm.trans (not_not.mp hready), ?_, hbootId.symm,
    hbootGeneration.symm⟩
  · rw [hgeneration, hfenceGeneration]
  · rw [hfenced]
    rfl

/-! ### Claims -/

/-- The claims of one lease and epoch are the same claim. -/
def OwnersDistinct (store : GatewayRecoveryStore) : Prop :=
  ∀ c ∈ store.continuationOwnerClaims.rows, ∀ d ∈ store.continuationOwnerClaims.rows,
    c.owner.leaseId = d.owner.leaseId → c.owner.leaseEpoch = d.owner.leaseEpoch → c = d

/-- A claim of an operation by an owner, in a store. -/
def Claimed (store : GatewayRecoveryStore) (operationId : String)
    (owner : RecoveryContinuationOwner) : Prop :=
  ∃ claim, store.continuationOwnerClaims.find? operationId = some claim ∧ claim.owner = owner

/-- The claims after a claim that was answered. -/
inductive ClaimStep (store : GatewayRecoveryStore) (operationId : String)
    (owner : RecoveryContinuationOwner) : GatewayRecoveryStore → Prop where
  | repeated (claimed : Claimed store operationId owner) : ClaimStep store operationId owner store
  | created (claim : RecoveryContinuationOwnerClaim)
      (claims : Table String RecoveryContinuationOwnerClaim
        RecoveryContinuationOwnerClaim.operationId)
      (operation : claim.operationId = operationId) (owned : claim.owner = owner)
      (free : ∀ c ∈ store.continuationOwnerClaims.rows,
        ¬ (c.owner.leaseId = owner.leaseId ∧ c.owner.leaseEpoch = owner.leaseEpoch))
      (inserted : store.continuationOwnerClaims.insert claim = some claims) :
      ClaimStep store operationId owner { store with continuationOwnerClaims := claims }

section Claims

variable {store after : GatewayRecoveryStore} {operationId : String}
  {owner : RecoveryContinuationOwner} {nowMillis : ℕ}

/-- **What an answered claim found and left.** -/
theorem claimContinuationOwner_step [Sha256] :
    Returns (store.claimContinuationOwner operationId owner nowMillis) fun (_, after) =>
      Available store owner nowMillis ∧ ClaimStep store operationId owner after := by
  refine .bind fun _ _ => .bind fun _ _ => .bind fun _ _ => .bind fun snapshot hsnapshot =>
    .refuse fun hstate => .refuse fun howner => ?_
  rw [not_not] at hstate howner
  obtain ⟨live, hlive, havailable⟩ := currentOwnerSnapshot_available hsnapshot hstate
  obtain rfl := Option.some.inj (hlive.symm.trans howner)
  cases hfound : store.continuationOwnerClaims.find? operationId with
  | some existing =>
    refine .refuse fun hsame => .pure ⟨havailable, .repeated ⟨existing, hfound, ?_⟩⟩
    rw [not_or, not_not, not_not] at hsame
    exact hsame.2
  | none =>
    refine .refuse fun hfree => .refuse fun _ => ?_
    dsimp only
    split
    · rename_i claims hinsert
      refine .pure ⟨havailable, .created _ claims rfl rfl (fun c hc hlease => hfree ?_) hinsert⟩
      exact List.any_eq_true.mpr ⟨c, hc, decide_eq_true hlease⟩
    · exact .error

/-- **What an answered adoption found.** -/
theorem adoptContinuationOwner_claimed :
    Returns (store.adoptContinuationOwner operationId owner nowMillis) fun adoption =>
      Available store owner nowMillis ∧ Claimed store operationId owner ∧
        adoption.owner = owner ∧ adoption.claim.owner = owner := by
  refine .bind fun _ _ => .bind fun _ _ => .bind fun _ _ => .bind fun snapshot hsnapshot =>
    .refuse fun hstate => .elim fun found hfound => .refuse fun howner =>
    .elim fun claim hclaim => .refuse fun hclaimed => .elim fun _ _ => .refuse fun _ => .pure ?_
  rw [not_not] at hstate howner hclaimed
  subst howner
  obtain ⟨live, hlive, havailable⟩ := currentOwnerSnapshot_available hsnapshot hstate
  obtain rfl := Option.some.inj (hlive.symm.trans hfound)
  exact ⟨havailable, ⟨claim, hclaim, hclaimed⟩, rfl, hclaimed⟩

lemma ClaimStep.claimed (h : ClaimStep store operationId owner after) :
    Claimed after operationId owner := by
  cases h with
  | repeated claimed => exact claimed
  | created claim claims operation owned free inserted =>
    refine ⟨claim, ?_, owned⟩
    change claims.find? operationId = some claim
    rw [Table.find?_insert inserted, if_pos operation]

lemma ClaimStep.kept (h : ClaimStep store operationId owner after)
    {claim : RecoveryContinuationOwnerClaim} (hclaim : claim ∈ store.continuationOwnerClaims.rows) :
    claim ∈ after.continuationOwnerClaims.rows := by
  cases h with
  | repeated => exact hclaim
  | created new claims operation owned free inserted =>
    change claim ∈ claims.rows
    rw [(Table.insert_eq_some.mp inserted).2]
    exact List.mem_append_left _ hclaim

lemma ClaimStep.distinct (h : ClaimStep store operationId owner after)
    (hstore : OwnersDistinct store) : OwnersDistinct after := by
  cases h with
  | repeated => exact hstore
  | created new claims operation owned free inserted =>
    intro c hc d hd hlease hepoch
    change c ∈ claims.rows at hc
    change d ∈ claims.rows at hd
    rw [(Table.insert_eq_some.mp inserted).2, List.mem_append, List.mem_singleton] at hc hd
    rw [← owned] at free
    rcases hc with hc | rfl
    · rcases hd with hd | rfl
      · exact hstore c hc d hd hlease hepoch
      · exact absurd ⟨hlease, hepoch⟩ (free c hc)
    · rcases hd with hd | rfl
      · exact absurd ⟨hlease.symm, hepoch.symm⟩ (free d hd)
      · rfl

end Claims

/-! ### Runs -/

section Runs

variable [Sha256] {store : GatewayRecoveryStore} {call : Call}

/-- A call leaves the claims alone, or answers a claim. -/
lemma claims_next (store : GatewayRecoveryStore) (call : Call) :
    (next store call).continuationOwnerClaims = store.continuationOwnerClaims ∨
      ∃ operationId owner, ClaimStep store operationId owner (next store call) := by
  cases call with
  | authority call =>
    have hstep := perform_authority store call
    refine .inl ?_
    change (call.perform store).store.continuationOwnerClaims = _
    generalize call.perform store = reply at hstep
    cases hstep with
    | refused => rfl
    | booted boot after booted => exact booted.continuationOwnerClaims
    | fenced => rfl
  | lease call => exact .inl (perform_lease call).continuationOwnerClaims
  | hostLease call => exact .inl (perform_hostLease call).continuationOwnerClaims
  | operation call => exact .inl (perform_operation call).continuationOwnerClaims
  | ticket call => exact .inl (perform_ticket call).continuationOwnerClaims
  | owner call =>
    cases call with
    | claim operationId owner nowMillis =>
      refine commit_keeps (P := fun after =>
        after.continuationOwnerClaims = store.continuationOwnerClaims ∨
          ∃ operationId owner, ClaimStep store operationId owner after) (.inl rfl) ?_
      exact fun result hresult =>
        .inr ⟨operationId, owner, (claimContinuationOwner_step result hresult).2⟩
    | adopt => exact .inl rfl

lemma claim_kept_next {claim : RecoveryContinuationOwnerClaim}
    (h : claim ∈ store.continuationOwnerClaims.rows) :
    claim ∈ (next store call).continuationOwnerClaims.rows := by
  rcases claims_next store call with hkept | ⟨_, _, hstep⟩
  · rwa [hkept]
  · exact hstep.kept h

lemma ownersDistinct_next (h : OwnersDistinct store) : OwnersDistinct (next store call) := by
  rcases claims_next store call with hkept | ⟨_, _, hstep⟩
  · rwa [OwnersDistinct, hkept]
  · exact hstep.distinct h

lemma claim_kept_run {claim : RecoveryContinuationOwnerClaim}
    (h : claim ∈ store.continuationOwnerClaims.rows) (calls : List Call) :
    claim ∈ (store.run calls).continuationOwnerClaims.rows :=
  run_invariant (P := fun store : GatewayRecoveryStore =>
    claim ∈ store.continuationOwnerClaims.rows) (fun _ _ => claim_kept_next) h calls

lemma ownersDistinct_run (config : RecoveryStoreConfig) (calls : List Call) :
    OwnersDistinct ((GatewayRecoveryStore.openWithConfig config).run calls) :=
  run_invariant (P := OwnersDistinct) (fun _ _ => ownersDistinct_next)
    (fun c hc => by cases hc) calls

/-- The claims of a run, and what its last store answers. -/
structure ContinuationOwnership (config : RecoveryStoreConfig) (calls : List Call) : Prop where
  operations : ∀ c ∈ ((GatewayRecoveryStore.openWithConfig config).run
      calls).continuationOwnerClaims.rows,
    ∀ d ∈ ((GatewayRecoveryStore.openWithConfig config).run calls).continuationOwnerClaims.rows,
    c.operationId = d.operationId → c = d
  leases : OwnersDistinct ((GatewayRecoveryStore.openWithConfig config).run calls)
  kept : ∀ before between, calls = before ++ between →
    ∀ c ∈ ((GatewayRecoveryStore.openWithConfig config).run before).continuationOwnerClaims.rows,
    c ∈ ((GatewayRecoveryStore.openWithConfig config).run calls).continuationOwnerClaims.rows
  claimed : ∀ operationId owner nowMillis answer,
    (Call.perform ((GatewayRecoveryStore.openWithConfig config).run calls)
      (.owner (.claim operationId owner nowMillis))).answer = .ok answer →
    Available ((GatewayRecoveryStore.openWithConfig config).run calls) owner nowMillis ∧
      Claimed ((GatewayRecoveryStore.openWithConfig config).run
        (calls ++ [.owner (.claim operationId owner nowMillis)])) operationId owner
  adopted : ∀ operationId owner nowMillis adoption,
    (Call.perform ((GatewayRecoveryStore.openWithConfig config).run calls)
      (.owner (.adopt operationId owner nowMillis))).answer = .ok (.adoption adoption) →
    Available ((GatewayRecoveryStore.openWithConfig config).run calls) owner nowMillis ∧
      Claimed ((GatewayRecoveryStore.openWithConfig config).run calls) operationId owner ∧
      adoption.owner = owner ∧ adoption.claim.owner = owner
  adoptUnchanged : ∀ operationId owner nowMillis,
    (GatewayRecoveryStore.openWithConfig config).run
      (calls ++ [.owner (.adopt operationId owner nowMillis)]) =
        (GatewayRecoveryStore.openWithConfig config).run calls
  refusedUnchanged : ∀ operationId owner nowMillis e,
    (Call.perform ((GatewayRecoveryStore.openWithConfig config).run calls)
      (.owner (.claim operationId owner nowMillis))).answer = .error e →
    (GatewayRecoveryStore.openWithConfig config).run
      (calls ++ [.owner (.claim operationId owner nowMillis)]) =
        (GatewayRecoveryStore.openWithConfig config).run calls
  oneOwner : ∀ before between operationId owner nowMillis operationId' owner' nowMillis'
      answer answer',
    calls = before ++ .owner (.claim operationId owner nowMillis) :: between →
    (Call.perform ((GatewayRecoveryStore.openWithConfig config).run before)
      (.owner (.claim operationId owner nowMillis))).answer = .ok answer →
    (Call.perform ((GatewayRecoveryStore.openWithConfig config).run calls)
      (.owner (.claim operationId' owner' nowMillis'))).answer = .ok answer' →
    operationId = operationId' ∨
      owner.leaseId = owner'.leaseId ∧ owner.leaseEpoch = owner'.leaseEpoch →
    operationId = operationId' ∧ owner = owner'

/-- A claim that is answered finds its owner live, and is there afterwards. -/
lemma claim_answered {operationId : String} {owner : RecoveryContinuationOwner} {nowMillis : ℕ}
    {answer : Answer}
    (h : (Call.perform store (.owner (.claim operationId owner nowMillis))).answer = .ok answer) :
    Available store owner nowMillis ∧
      Claimed (next store (.owner (.claim operationId owner nowMillis))) operationId owner := by
  obtain ⟨result, after, hok, hafter⟩ := commit_answered (f := Answer.claim) h
  obtain ⟨havailable, hstep⟩ := claimContinuationOwner_step _ hok
  refine ⟨havailable, ?_⟩
  change Claimed ((commit store _).map Answer.claim).store operationId owner
  rw [hafter]
  exact hstep.claimed

/-- **Owners of continuations are unique**, after every run of a store. -/
theorem continuation_ownership (config : RecoveryStoreConfig) (calls : List Call) :
    ContinuationOwnership config calls where
  operations _ hc _ hd := Table.ext_key hc hd
  leases := ownersDistinct_run config calls
  kept := by
    rintro before between rfl c hc
    rw [GatewayRecoveryStore.run, run_append]
    exact claim_kept_run hc between
  claimed operationId owner nowMillis answer hanswer := by
    rw [GatewayRecoveryStore.run, GatewayRecoveryStore.run, run_append]
    exact claim_answered hanswer
  adopted operationId owner nowMillis adoption hanswer := by
    cases hadopt : ((GatewayRecoveryStore.openWithConfig config).run calls).adoptContinuationOwner
        operationId owner nowMillis with
    | error e =>
      simp only [Call.perform, OwnerCall.perform, Reply.map, query, hadopt] at hanswer
      cases hanswer
    | ok found =>
      simp only [Call.perform, OwnerCall.perform, Reply.map, query, hadopt] at hanswer
      cases hanswer
      exact adoptContinuationOwner_claimed _ hadopt
  adoptUnchanged operationId owner nowMillis := by
    rw [GatewayRecoveryStore.run, run_append]
    rfl
  refusedUnchanged operationId owner nowMillis e hanswer := by
    rw [GatewayRecoveryStore.run, run_append]
    change ((commit _ _).map Answer.claim).answer = .error e at hanswer
    change ((commit _ _).map Answer.claim).store = _
    rcases commit_cases ((GatewayRecoveryStore.openWithConfig config).run calls)
      (((GatewayRecoveryStore.openWithConfig config).run calls).claimContinuationOwner operationId
        owner nowMillis) with ⟨_, -, hcommit⟩ | ⟨result, after, -, hcommit⟩
    · exact congrArg (fun reply => (reply.map Answer.claim).store) hcommit
    · rw [hcommit] at hanswer
      cases hanswer
  oneOwner := by
    rintro before between operationId owner nowMillis operationId' owner' nowMillis' answer answer'
      rfl hfirst hsecond hsame
    obtain ⟨-, c, hc, rfl⟩ := claim_answered hfirst
    obtain ⟨-, d, hd, rfl⟩ := claim_answered hsecond
    obtain rfl := Table.key_of_find? hc
    obtain rfl := Table.key_of_find? hd
    have hkept : c ∈ ((GatewayRecoveryStore.openWithConfig config).run (before ++
        .owner (.claim c.operationId c.owner nowMillis) :: between)).continuationOwnerClaims.rows := by
      rw [GatewayRecoveryStore.run, run_append]
      exact claim_kept_run (Table.mem_of_find? hc) between
    have hc := @claim_kept_next _ _ (.owner (.claim d.operationId d.owner nowMillis')) _ hkept
    have hd := Table.mem_of_find? hd
    have hcd : c = d := by
      rcases hsame with hoperation | ⟨hlease, hepoch⟩
      · exact Table.ext_key hc hd hoperation
      · exact ownersDistinct_next (ownersDistinct_run config _) c hc d hd hlease hepoch
    rw [hcd]
    exact ⟨rfl, rfl⟩

end Runs

end Sts2Gateway.Recovery
