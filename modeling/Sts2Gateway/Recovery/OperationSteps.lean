/-
What a call can do to the operations, live and archived.

* `Admitted`: what the checks of `recordOutcome` say of a report and its operation;
* `RecoveryOperation.Change`: the changes of one live row;
* `OperationStep`: **the two tables after any call**: rows change in place, an
  intent is added, resolved rows move to the archive, or archived rows go;
* `next_operations`: every call makes such a step.
-/
import Mathlib.Tactic
import Sts2Gateway.Recovery.LeaseSteps

namespace Sts2Gateway.Recovery

open Machine Procedure Relational Text

/-! ### Reports -/

/-- A witness of an operation: recorded under the operation's own identity, and of a
later generation than the operation expected. -/
structure Witnesses (witness : RecoveryEffectWitness) (operation : RecoveryOperation) : Prop where
  operationId : witness.operationId = operation.operationId
  payload : witness.payloadDigest = operation.payloadDigest
  boot : witness.bootId = operation.bootId
  incarnation : witness.instanceIncarnation = operation.instanceIncarnation
  later : operation.expectedGeneration < witness.generation

/-- A report whose checks pass, and the operation that they found. -/
structure Admitted (store : GatewayRecoveryStore) (report : OutcomeReport)
    (operation : RecoveryOperation) : Prop where
  found : store.selectOperation (report.instanceId, report.operationId) = some operation
  transition : validTransition operation.state report.state = true
  witnessed : report.state = .settled ∨ report.state = .reconciled → report.witness.isSome
  bound : ∀ witness ∈ report.witness, Witnesses witness operation

/-- A state that is left is unresolved. -/
lemma validTransition_unresolved {state next : RecoveryOperationState}
    (h : validTransition state next = true) (hne : state ≠ next) : state.unresolved = true := by
  cases state <;> cases next <;> first | rfl | exact absurd rfl hne | cases h

section Select

variable {store : GatewayRecoveryStore} {key : OperationKey} {operation : RecoveryOperation}

lemma selectOperation_of_live (h : store.operations.find? key = some operation) :
    store.selectOperation key = some operation := by
  rw [GatewayRecoveryStore.selectOperation, h]
  rfl

lemma selectOperation_key (h : store.selectOperation key = some operation) :
    operation.key = key := by
  rw [GatewayRecoveryStore.selectOperation] at h
  cases hlive : store.operations.find? key with
  | some live =>
    rw [hlive] at h
    cases h
    exact Table.key_of_find? hlive
  | none =>
    rw [hlive, Option.none_or, Option.map_eq_some_iff] at h
    obtain ⟨archived, harchived, rfl⟩ := h
    exact (Table.find?_eq_some.mp harchived).2

lemma requireOperation_eq_ok {instanceId operationId : String} :
    store.requireOperation instanceId operationId = .ok operation ↔
      store.selectOperation (instanceId, operationId) = some operation := by
  rw [GatewayRecoveryStore.requireOperation]
  cases store.selectOperation (instanceId, operationId) <;> simp

/-- A lookup answers the operation under its key. -/
lemma lookupOperation_selects {instanceId operationId payloadDigest : String} :
    Returns (store.lookupOperation instanceId operationId payloadDigest) fun found =>
      store.selectOperation (instanceId, operationId) = found := by
  refine .bind fun _ _ => .bind fun _ _ => .bind fun _ _ => ?_
  split
  · rename_i hselect
    exact .refuse fun _ => .pure hselect
  · rename_i hselect
    exact .pure hselect

end Select

/-- **What the checks of an outcome say.** -/
theorem admitOutcome_eq_ok {store : GatewayRecoveryStore} {report : OutcomeReport}
    {operation : RecoveryOperation} (h : store.admitOutcome report = .ok operation) :
    Admitted store report operation := by
  simp only [GatewayRecoveryStore.admitOutcome, except_bind_eq_ok, refuse_eq_ok, not_not] at h
  obtain ⟨_, -, _, -, _, -, _, -, _, -, _, -, _, hshape, found, hfound, _, hcontext, _, -, _,
    htransition, hok⟩ := h
  cases hok
  have hselect := requireOperation_eq_ok.mp hfound
  simp only [validateWitnessShape, except_bind_eq_ok, refuse_eq_ok, option_forM_eq_ok] at hshape
  obtain ⟨_, hsettled, _, hreconciled, hwitness⟩ := hshape
  rw [validateWitnessContext, option_forM_eq_ok] at hcontext
  refine ⟨hselect, htransition, ?_, fun witness hmem => ?_⟩
  · rw [not_and, Option.isNone_iff_eq_none, ← ne_eq, Option.ne_none_iff_isSome] at hsettled
    rw [not_and, Option.isNone_iff_eq_none, ← ne_eq, Option.ne_none_iff_isSome] at hreconciled
    exact fun hstate => hstate.elim hsettled hreconciled
  · obtain ⟨_, hoperation, -⟩ := hwitness witness hmem
    have hbound := hcontext witness hmem
    rw [refuse_eq_ok] at hbound
    simp only [not_or, not_not, not_le] at hbound
    obtain ⟨hpayload, hboot, hincarnation, hlater⟩ := hbound
    have hkey := congrArg Prod.snd (selectOperation_key hselect)
    exact ⟨(not_not.mp hoperation).trans hkey.symm, hpayload, hboot, hincarnation, hlater⟩

/-! ### Steps -/

/-- The changes of a live row. -/
inductive RecoveryOperation.Change (store : GatewayRecoveryStore) (call : Call)
    (operation : RecoveryOperation) : RecoveryOperation → Prop where
  | dispatched (nowMillis : ℕ) (state : operation.state = .intentRecorded) :
      Change store call operation (operation.dispatch nowMillis)
  | rotated (nowMillis : ℕ) (unresolved : operation.state.unresolved = true) :
      Change store call operation (operation.rotate nowMillis)
  | reported (report : OutcomeReport) (admitted : store.admitOutcome report = .ok operation)
      (origin : operation.state.unresolved = true ∨ call = .operation (.recordOutcome report)) :
      Change store call operation (operation.withOutcome report)

/-- An unresolved operation of one incarnation of an instance. -/
def inFlight (instanceId incarnation : String) (operation : RecoveryOperation) : Bool :=
  decide (operation.instanceId = instanceId ∧ operation.instanceIncarnation = incarnation) &&
    operation.state.unresolved

/-- The capacities that an intent found. -/
structure Room (store : GatewayRecoveryStore) (intent : RecoveryOperationIntent) : Prop where
  unknown : store.selectOperation intent.operation.key = none
  idle : store.operations.count (inFlight intent.instanceId intent.instanceIncarnation) = 0
  unresolved : store.unresolvedCount < store.config.unresolvedCapacity
  retained : store.retainedCount < store.config.retainedCapacity

/-- The live and archived operations after a call. -/
inductive OperationStep (store : GatewayRecoveryStore) (call : Call) :
    GatewayRecoveryStore → Prop where
  | kept {after : GatewayRecoveryStore} (kept : KeepsOperations store after) :
      OperationStep store call after
  | updated {after : GatewayRecoveryStore} (p : RecoveryOperation → Bool)
      (f : RecoveryOperation → RecoveryOperation) (hf : ∀ o, (f o).key = o.key)
      (config : after.config = store.config)
      (operations : after.operations = store.operations.update p f hf)
      (operationArchive : after.operationArchive = store.operationArchive)
      (change : ∀ o, store.operations.find? o.key = some o → p o = true →
        o.Change store call (f o)) : OperationStep store call after
  | recorded (intent : RecoveryOperationIntent)
      (operations : Table OperationKey RecoveryOperation RecoveryOperation.key)
      (room : Room store intent)
      (inserted : store.operations.insert intent.operation = some operations)
      (origin : ∃ proof, call = .operation (.recordIntent proof intent)) :
      OperationStep store call { store with operations }
  | archived (cutoffMillis nowMillis : ℕ)
      (horizon : cutoffMillis + recoveryTombstoneRetentionMillis ≤ nowMillis)
      (origin : call = .operation (.archiveResolvedBefore cutoffMillis nowMillis)) :
      OperationStep store call (store.moveArchivable cutoffMillis nowMillis)
  | purged (due : ArchivedOperation → Bool) (nowMillis : ℕ)
      (expired : ∀ archived, due archived = true →
        archived.archivedAtMillis ≤ nowMillis - recoveryTombstoneRetentionMillis)
      (origin : call = .operation (.purgeExpiredArchives nowMillis)) :
      OperationStep store call { store with
        operationArchive := store.operationArchive.delete due }

/-! ### Calls -/

section Calls

variable {store : GatewayRecoveryStore} {call : Call}

lemma OperationStep.refl : OperationStep store call store := .kept ⟨rfl, rfl, rfl⟩

lemma Booted.operationStep {after : GatewayRecoveryStore} {boot : RecoveryBootContext}
    (h : Booted store boot after) : OperationStep store call after := by
  obtain ⟨nowMillis, hoperations⟩ := h.operations
  rw [rotateOperations] at hoperations
  exact .updated _ _ _ h.config hoperations h.operationArchive fun o _ hunresolved =>
    .rotated nowMillis hunresolved

/-- A report rewrites the live row that its checks found. -/
lemma recordOutcome_step {report : OutcomeReport}
    (origin : ∀ operation, store.admitOutcome report = .ok operation →
      operation.state.unresolved = true ∨ call = .operation (.recordOutcome report)) :
    Returns (store.recordOutcome report) fun (_, after) => OperationStep store call after := by
  refine .bind fun operation hadmitted => .refuse fun _ => .pure ?_
  refine .updated _ _ (fun o => o.key_withOutcome report) rfl rfl rfl fun o ho hkey => ?_
  have hadmit := admitOutcome_eq_ok hadmitted
  have hselect := selectOperation_of_live ho
  rw [of_decide_eq_true hkey, selectOperation_key hadmit.found, hadmit.found] at hselect
  obtain rfl := Option.some.inj hselect
  exact .reported report hadmitted (origin _ hadmitted)

/-- A witness reconciles an unresolved operation only. -/
lemma reconcileOperation_step {instanceId operationId payloadDigest : String}
    {witness : Option RecoveryEffectWitness} {nowMillis : ℕ} :
    Returns (store.reconcileOperation instanceId operationId payloadDigest witness nowMillis)
      fun (_, after) => OperationStep store call after := by
  refine .bind fun found hfound => .bind fun operation hoperation => .bind fun _ _ => ?_
  cases witness with
  | none => exact .pure .refl
  | some witness =>
    refine .bind fun _ _ => ?_
    split
    · exact .refuse fun _ => .pure .refl
    · refine .refuse fun hunresolved => recordOutcome_step fun other hadmitted => .inl ?_
      have hselect := (admitOutcome_eq_ok hadmitted).found
      have hlookup := lookupOperation_selects _ hfound
      rw [hlookup] at hselect
      rw [hselect] at hoperation
      cases hoperation
      exact not_not.mp hunresolved

end Calls

/-- Calls on operations write the live and the archived operations only so. -/
theorem perform_operation_step [Sha256] {store : GatewayRecoveryStore} (call : OperationCall) :
    OperationStep store (.operation call) (call.perform store).store := by
  cases call with
  | recordIntent proof intent =>
    refine commit_keeps .refl (.bind fun _ _ => .refuse fun _ => .bind fun _ _ => ?_)
    split
    · exact .refuse fun _ => .pure .refl
    · rename_i hunknown
      refine .refuse fun hflight => .refuse fun hunresolved => .refuse fun hretained => ?_
      split
      · rename_i operations hinsert
        refine .pure (.recorded intent operations ?_ hinsert ⟨proof, rfl⟩)
        exact ⟨hunknown, Nat.eq_zero_of_not_pos hflight, not_le.mp hunresolved,
          not_le.mp hretained⟩
      · exact .error
  | markDispatched proof instanceId operationId nowMillis =>
    refine commit_keeps .refl (.bind fun _ _ => .bind fun _ _ => .bind fun _ _ =>
      .bind fun _ _ => .refuse fun _ => .refuse fun _ => .pure ?_)
    refine .updated _ _ (fun o => o.key_dispatch nowMillis) rfl rfl rfl fun o _ hdue =>
      .dispatched nowMillis ?_
    rw [Bool.and_eq_true, decide_eq_true_eq, decide_eq_true_eq] at hdue
    exact hdue.2
  | recordOutcome report =>
    exact commit_keeps .refl (recordOutcome_step fun _ _ => .inr rfl)
  | lookup => exact .refl
  | reconcile => exact commit_keeps .refl reconcileOperation_step
  | archiveResolvedBefore cutoffMillis nowMillis =>
    refine commit_keeps .refl <| .bind fun _ _ => .bind fun _ _ => .refuse fun hearly =>
      .refuse fun hlate => .pure (.archived cutoffMillis nowMillis ?_ rfl)
    omega
  | purgeExpiredArchives nowMillis =>
    exact commit_keeps .refl <| .bind fun _ _ =>
      .pure (.purged _ nowMillis (fun _ hdue => of_decide_eq_true hdue) rfl)

/-- **The operations after any call.** -/
theorem next_operations [Sha256] (store : GatewayRecoveryStore) (call : Call) :
    OperationStep store call (next store call) := by
  cases call with
  | authority call =>
    have h := perform_authority store call
    change OperationStep store _ (call.perform store).store
    generalize call.perform store = reply at h
    cases h with
    | refused => exact .refl
    | booted boot after booted => exact booted.operationStep
    | fenced => exact .kept ⟨rfl, rfl, rfl⟩
  | lease call => exact .kept (perform_lease call).toKeepsOperations
  | hostLease call => exact .kept (perform_hostLease call).toKeepsOperations
  | operation call => exact perform_operation_step call
  | ticket call => exact .kept (perform_ticket call).toKeepsOperations
  | owner call => exact .kept (perform_owner call).toKeepsOperations

end Sts2Gateway.Recovery
