/-
The outcomes of operations.

* `Settlement`, `settled_witnessed`: **a settled or reconciled operation carries a
  witness of its own**, in every state of every run;
* `overwrites`: a report that replaces the outcome of a resolved operation;
* `outcomes_kept_iff`: **a resolved operation keeps its outcome until it is purged
  exactly in the runs without such a report**;
* `outcomes_not_kept`: a run with one.
-/
import Mathlib.Tactic
import Sts2Gateway.Recovery.Retention

namespace Sts2Gateway.Recovery

open Machine Procedure Relational Text

/-! ### Witnesses -/

/-- A settled or reconciled operation has a witness. -/
def Settlement (operation : RecoveryOperation) : Prop :=
  operation.state = .settled ∨ operation.state = .reconciled →
    ∃ witness, operation.witness = some witness ∧ Witnesses witness operation

/-- Each operation, live or archived. -/
def AllSettled (store : GatewayRecoveryStore) : Prop :=
  (∀ operation ∈ store.operations.rows, Settlement operation) ∧
    ∀ archived ∈ store.operationArchive.rows, Settlement archived.operation

section Steps

variable {store after : GatewayRecoveryStore} {call : Call}

lemma RecoveryOperation.Change.settlement {operation changed : RecoveryOperation}
    (h : operation.Change store call changed) : Settlement changed := by
  intro hstate
  cases h with
  | dispatched => simp [RecoveryOperation.dispatch] at hstate
  | rotated => simp [RecoveryOperation.rotate] at hstate
  | reported report admitted =>
    have hadmitted := admitOutcome_eq_ok admitted
    obtain ⟨witness, hwitness⟩ := Option.isSome_iff_exists.mp (hadmitted.witnessed hstate)
    have hbound := hadmitted.bound witness hwitness
    exact ⟨witness, hwitness, hbound.operationId, hbound.payload, hbound.boot, hbound.incarnation,
      hbound.later⟩

lemma OperationStep.allSettled (h : OperationStep store call after) (hstore : AllSettled store) :
    AllSettled after := by
  obtain ⟨hlive, harchive⟩ := hstore
  cases h with
  | kept kept =>
    rw [AllSettled, kept.operations, kept.operationArchive]
    exact ⟨hlive, harchive⟩
  | updated p f hf config operations operationArchive change =>
    rw [AllSettled, operations, operationArchive]
    refine ⟨fun operation hoperation => ?_, harchive⟩
    obtain ⟨old, hold, rfl⟩ := Table.mem_update.mp hoperation
    split_ifs with hp
    · exact (change old (Table.find?_key hold) hp).settlement
    · exact hlive old hold
  | recorded intent operations room inserted =>
    refine ⟨fun operation hoperation => ?_, harchive⟩
    rw [(Table.insert_eq_some.mp inserted).2, List.mem_append, List.mem_singleton] at hoperation
    rcases hoperation with hold | rfl
    · exact hlive operation hold
    · exact fun hstate => by simp [RecoveryOperationIntent.operation] at hstate
  | archived cutoffMillis nowMillis =>
    refine ⟨fun operation hoperation => hlive operation (List.mem_filter.mp hoperation).1,
      fun archived harchived => ?_⟩
    rcases Table.mem_replaceAll harchived with hmoved | hold
    · obtain ⟨operation, hoperation, rfl⟩ := List.mem_map.mp hmoved
      exact hlive operation (List.mem_filter.mp hoperation).1
    · exact harchive archived hold
  | purged due =>
    exact ⟨hlive, fun archived harchived => harchive archived (List.mem_filter.mp harchived).1⟩

end Steps

section Token

variable [Sha256]

/-- **Settled means witnessed**, for every operation that a run has retained. -/
theorem settled_witnessed (config : RecoveryStoreConfig) (calls : List Call) :
    let store := (GatewayRecoveryStore.openWithConfig config).run calls
    (∀ operation ∈ store.operations.rows, Settlement operation) ∧
      ∀ archived ∈ store.operationArchive.rows, Settlement archived.operation := by
  refine run_invariant (P := AllSettled)
    (fun store call h => (next_operations store call).allSettled h) ?_ calls
  exact ⟨fun operation hoperation => (by cases hoperation), fun archived harchived =>
    (by cases harchived)⟩

end Token

/-! ### Outcomes -/

/-- What a caller learns of a resolved operation. -/
def RecoveryOperation.outcome (operation : RecoveryOperation) :
    RecoveryOperationState × Option RecoveryEffectWitness × Option UInt16 × Option (List UInt8) :=
  (operation.state, operation.witness, operation.responseStatus, operation.responseBody)

/-- The call reports another outcome of a live operation that is resolved already. -/
def overwrites (store : GatewayRecoveryStore) : Call → Bool
  | .operation (.recordOutcome report) =>
    match store.admitOutcome report with
    | .ok operation =>
      (store.operations.find? operation.key).isSome && !operation.state.unresolved &&
        decide ((operation.withOutcome report).outcome ≠ operation.outcome)
    | .error _ => false
  | _ => false

/-- The operation of a key has an outcome. -/
def HasOutcome (key : OperationKey)
    (outcome : RecoveryOperationState × Option RecoveryEffectWitness × Option UInt16 ×
      Option (List UInt8)) (store : GatewayRecoveryStore) : Prop :=
  ∃ operation, store.selectOperation key = some operation ∧ operation.outcome = outcome

section Kept

variable {store after : GatewayRecoveryStore} {call : Call} {key : OperationKey}
  {operation : RecoveryOperation}

/-- A change of a resolved operation is a report of its own outcome. -/
lemma RecoveryOperation.Change.outcome {changed : RecoveryOperation}
    (h : operation.Change store call changed)
    (hlive : store.operations.find? operation.key = some operation)
    (hresolved : operation.state.unresolved = false) (hcall : overwrites store call = false) :
    changed.outcome = operation.outcome := by
  cases h with
  | dispatched nowMillis state =>
    rw [state] at hresolved
    cases hresolved
  | rotated nowMillis unresolved =>
    rw [unresolved] at hresolved
    cases hresolved
  | reported report admitted origin =>
    rcases origin with hunresolved | rfl
    · rw [hunresolved] at hresolved
      cases hresolved
    · simpa [overwrites, admitted, hlive, hresolved] using hcall

/-- **A step keeps the outcome of a resolved operation**, or purges it. -/
theorem OperationStep.outcome (h : OperationStep store call after) (hstore : Separate store)
    (hcall : overwrites store call = false) (hselect : store.selectOperation key = some operation)
    (hresolved : operation.state.unresolved = false) :
    HasOutcome key operation.outcome after ∨ after.selectOperation key = none := by
  have hsame : after.selectOperation key = store.selectOperation key →
      HasOutcome key operation.outcome after ∨ after.selectOperation key = none :=
    fun heq => .inl ⟨operation, heq.trans hselect, rfl⟩
  cases h with
  | kept kept =>
    refine hsame ?_
    rw [GatewayRecoveryStore.selectOperation, kept.operations, kept.operationArchive]
    rfl
  | updated p f hf config operations operationArchive change =>
    cases hlive : store.operations.find? key with
    | none =>
      refine hsame ?_
      rw [GatewayRecoveryStore.selectOperation, operations, operationArchive, Table.find?_update,
        GatewayRecoveryStore.selectOperation, hlive]
      rfl
    | some live =>
      have hlive' := selectOperation_of_live hlive
      rw [hselect] at hlive'
      obtain rfl := Option.some.inj hlive'
      have hafter : after.operations.find? key =
          some (if p operation then f operation else operation) := by
        rw [operations, Table.find?_update, hlive]
        rfl
      refine .inl ⟨_, selectOperation_of_live hafter, ?_⟩
      obtain rfl := Table.key_of_find? hlive
      split_ifs with hp
      · exact (change operation hlive hp).outcome hlive hresolved hcall
      · rfl
  | recorded intent operations room inserted =>
    refine hsame ?_
    have hkey : intent.operation.key ≠ key := by
      rintro rfl
      rw [room.unknown] at hselect
      cases hselect
    rw [GatewayRecoveryStore.selectOperation, Table.find?_insert inserted, if_neg hkey]
    rfl
  | archived cutoffMillis nowMillis => exact hsame (selectOperation_archived _ _ key hstore)
  | purged due =>
    cases hlive : store.operations.find? key with
    | some live =>
      refine hsame ?_
      rw [GatewayRecoveryStore.selectOperation, GatewayRecoveryStore.selectOperation, hlive]
      rfl
    | none =>
      rw [GatewayRecoveryStore.selectOperation, hlive, Option.none_or,
        Option.map_eq_some_iff] at hselect
      obtain ⟨archived, harchived, rfl⟩ := hselect
      rw [HasOutcome, GatewayRecoveryStore.selectOperation, hlive, Table.find?_delete, harchived]
      cases hdue : due archived with
      | false => exact .inl ⟨archived.operation, by simp [hdue], rfl⟩
      | true => exact .inr (by simp [hdue])

/-- A report of a live operation is written. -/
lemma recordOutcome_eq_ok {report : OutcomeReport}
    (hadmitted : store.admitOutcome report = .ok operation)
    (hlive : store.operations.count (fun o => decide (o.key = operation.key)) = 1) :
    store.recordOutcome report = .ok (operation.withOutcome report, { store with
      operations := store.operations.update (fun o => decide (o.key = operation.key))
        (fun o => o.withOutcome report) fun o => o.key_withOutcome report }) := by
  rw [GatewayRecoveryStore.recordOutcome, hadmitted]
  change (refuse (store.operations.count _ ≠ 1) RecoveryStoreError.operationNotFound >>= _) = _
  rw [refuse, if_neg (not_not.mpr hlive)]
  rfl

end Kept

/-! ### Runs -/

section Token

variable [Sha256]

/-- What a run should keep: the outcome of an operation that is resolved, until the
operation is no longer retained. -/
def OutcomesKept (config : RecoveryStoreConfig) (calls : List Call) : Prop :=
  ∀ before between after, calls = before ++ between ++ after → ∀ key operation,
    ((GatewayRecoveryStore.openWithConfig config).run before).selectOperation key = some operation →
    operation.state.unresolved = false →
    HasOutcome key operation.outcome
      ((GatewayRecoveryStore.openWithConfig config).run (before ++ between)) ∨
    ∃ xs ys, between = xs ++ ys ∧
      ((GatewayRecoveryStore.openWithConfig config).run (before ++ xs)).selectOperation key = none

/-- Without an overwriting report, a resolved operation keeps its outcome. -/
lemma outcomesKept_of_along {config : RecoveryStoreConfig} {calls : List Call}
    (h : Along next (fun store call => overwrites store call = false) (.openWithConfig config)
      calls) : OutcomesKept config calls := by
  rintro before between after rfl key operation hselect hresolved
  have hbetween := (along_append.mp (along_append.mp h).1).2
  have hrun := run_until (Q := fun store => store.selectOperation key = none)
    (P := fun store => Retained store ∧ HasOutcome key operation.outcome store) ?_
    ⟨retained_run config before, operation, hselect, rfl⟩ hbetween
  · rcases hrun with ⟨-, hkept⟩ | ⟨xs, ys, hsplit, hpurged⟩
    · left
      rwa [GatewayRecoveryStore.run, run_append]
    · right
      refine ⟨xs, ys, hsplit, ?_⟩
      rwa [GatewayRecoveryStore.run, run_append]
  · rintro store call hcall ⟨hretained, other, hother, houtcome⟩
    have hstep := next_operations store call
    have hstate : other.state = operation.state := congrArg Prod.fst houtcome
    rcases hstep.outcome hretained.separate hcall hother (hstate ▸ hresolved) with hkept | hpurged
    · exact .inl ⟨hretained.step hstep, houtcome ▸ hkept⟩
    · exact .inr hpurged

/-- An overwriting report loses the outcome of the operation that it finds. -/
lemma overwrites_loses {store : GatewayRecoveryStore} {call : Call}
    (h : overwrites store call = true) : ∃ key operation,
      store.selectOperation key = some operation ∧ operation.state.unresolved = false ∧
      (next store call).selectOperation key ≠ none ∧
      ¬ HasOutcome key operation.outcome (next store call) := by
  unfold overwrites at h
  split at h
  · rename_i report
    split at h
    · rename_i operation hadmitted
      rw [Bool.and_eq_true, Bool.and_eq_true, Bool.not_eq_true', decide_eq_true_eq] at h
      obtain ⟨⟨hlive, hresolved⟩, hdiffers⟩ := h
      have hfound := (admitOutcome_eq_ok hadmitted).found
      obtain ⟨live, hlive⟩ := Option.isSome_iff_exists.mp hlive
      have hselect := selectOperation_of_live hlive
      have hkey := selectOperation_key hfound
      rw [hkey, hfound] at hselect
      obtain rfl := Option.some.inj hselect
      have hdue : store.operations.count (fun o => decide (o.key = operation.key)) = 1 :=
        Table.count_key.mpr ⟨operation, hlive⟩
      have hnext : (next store (.operation (.recordOutcome report))).selectOperation operation.key =
          some (operation.withOutcome report) := by
        refine selectOperation_of_live ?_
        have hok := recordOutcome_eq_ok hadmitted hdue
        change ((commit store (store.recordOutcome report)).map
          Answer.operation).store.operations.find? _ = _
        rw [hok]
        change (store.operations.update _ _ fun o => o.key_withOutcome report).find? _ = _
        rw [Table.find?_update, hlive]
        simp
      refine ⟨operation.key, operation, hkey ▸ hfound, hresolved, ?_, ?_⟩
      · rw [hnext]
        exact Option.some_ne_none _
      · rintro ⟨other, hother, houtcome⟩
        rw [hnext] at hother
        obtain rfl := Option.some.inj hother
        exact hdiffers houtcome
    · cases h
  · cases h

/-- An outcome that is kept is not overwritten by any call of the run. -/
lemma OutcomesKept.not_overwritten {config : RecoveryStoreConfig} {xs ys : List Call} {call : Call}
    (h : OutcomesKept config (xs ++ call :: ys)) :
    overwrites ((GatewayRecoveryStore.openWithConfig config).run xs) call = false := by
  by_contra hcall
  rw [Bool.not_eq_false] at hcall
  obtain ⟨key, operation, hselect, hresolved, hretained, hlost⟩ := overwrites_loses hcall
  have hnext : (GatewayRecoveryStore.openWithConfig config).run (xs ++ [call]) =
      next ((GatewayRecoveryStore.openWithConfig config).run xs) call := by
    rw [GatewayRecoveryStore.run, run_append]
    rfl
  have hkept := h xs [call] ys (by rw [List.append_assoc]; rfl) key operation hselect hresolved
  rw [hnext] at hkept
  rcases hkept with hkept | ⟨before, between, hbetween, hpurged⟩
  · exact hlost hkept
  · cases before with
    | nil =>
      rw [List.append_nil, hselect] at hpurged
      cases hpurged
    | cons first rest =>
      obtain ⟨rfl, hrest⟩ := List.cons.inj hbetween
      obtain ⟨rfl, -⟩ := List.append_eq_nil_iff.mp hrest.symm
      rw [hnext] at hpurged
      exact hretained hpurged

/-- **A resolved operation keeps its outcome until it is purged** exactly in the runs
without a report that replaces one. -/
theorem outcomes_kept_iff (config : RecoveryStoreConfig) (calls : List Call) :
    OutcomesKept config calls ↔
      Along next (fun store call => overwrites store call = false) (.openWithConfig config)
        calls := by
  refine ⟨fun h => along_of_forall fun xs call ys hsplit => ?_, outcomesKept_of_along⟩
  rw [hsplit] at h
  exact h.not_overwritten

end Token

/-! ### An overwritten outcome -/

namespace Sample

def operationId : String := "00000000-0000-4000-8000-00000000000a"
def witnessId : String := "00000000-0000-4000-8000-00000000000b"

/-- `{"action":{"kind":"end_turn"},"action_id":"action-end-turn"}`. -/
def action : List UInt8 :=
  "\x7b\"action\":\x7b\"kind\":\"end_turn\"\x7d,\"action_id\":\"action-end-turn\"\x7d".toUTF8.toList

/-- The digest of `action`. -/
def payloadDigest : String := "3c3c3c3c3c3c3c3c3c3c3c3c3c3c3c3c3c3c3c3c3c3c3c3c3c3c3c3c3c3c3c3c"

def intent : RecoveryOperationIntent where
  operationId := operationId
  deploymentId := deployment
  instanceId := instanceId
  instanceIncarnation := incarnation
  bootId := bootId
  authorityGeneration := 1
  leaseId := leaseId
  leaseEpoch := 1
  schemaDigest := runtimeV3SchemaDigest
  canonicalJson := action
  payloadDigest := payloadDigest
  expectedStateId := stateId
  expectedGeneration := 1
  catalogDigest := digest
  nowMillis := 1003

def witness : RecoveryEffectWitness where
  witnessId := witnessId
  operationId := operationId
  payloadDigest := payloadDigest
  bootId := bootId
  instanceIncarnation := incarnation
  hostFenceId := hostFenceId
  source := "host_receipt"
  stateId := stateId
  generation := 2
  effectDigest := digest
  observedAtMillis := 1004

/-- A settlement, and the same with another response. -/
def settlement (responseStatus : UInt16) : Call :=
  .operation (.recordOutcome
    { instanceId := instanceId
      operationId := operationId
      state := .settled
      responseStatus := some responseStatus
      responseBody := none
      witness := some witness
      uncertaintyReason := none
      nowMillis := 1005 })

def settled : List Call :=
  calls ++ [.operation (.recordIntent proof intent),
    .operation (.markDispatched proof instanceId operationId 1004), settlement 200]

end Sample

section Example

attribute [local instance] Sample.sha256

/-- A settled operation is reported settled again, with another response. -/
theorem outcomes_not_kept :
    ¬ OutcomesKept .default (Sample.settled ++ [Sample.settlement 500]) := by
  intro h
  have hcall := h.not_overwritten
  revert hcall
  decide +kernel

end Example

end Sts2Gateway.Recovery
