/-
The retained operations of a store.

* `find?_archive`, `selectOperation_archived`: **archiving moves rows and hides
  nothing**;
* `Retained`: each operation is live or archived, each incarnation has at most one
  unresolved operation, and both capacities hold;
* `retained_next`, `retention_bounded`: **every run keeps these bounds**.
-/
import Mathlib.Tactic
import Sts2Gateway.Recovery.OperationSteps

namespace Sts2Gateway.Recovery

open Machine Procedure Relational Text

/-! ### The archive -/

/-- No operation is both live and archived. -/
def Separate (store : GatewayRecoveryStore) : Prop :=
  ∀ key operation, store.operations.find? key = some operation →
    store.operationArchive.find? key = none

section Archive

variable {store : GatewayRecoveryStore} (cutoffMillis nowMillis : ℕ) (key : OperationKey)

/-- A live row that is moved is archived under its key; other keys are as they were. -/
lemma find?_archive : (store.moveArchivable cutoffMillis nowMillis).operationArchive.find? key =
    (((store.operations.find? key).filter (GatewayRecoveryStore.isArchivable cutoffMillis)).map
      fun operation => { operation, archivedAtMillis := nowMillis }).or
        (store.operationArchive.find? key) := by
  have hmoved : ∀ rows : List RecoveryOperation,
      (rows.map fun operation => (⟨operation, nowMillis⟩ : ArchivedOperation)).map
        (fun archived => archived.operation.key) = rows.map RecoveryOperation.key := by
    intro rows
    rw [List.map_map]
    rfl
  rw [GatewayRecoveryStore.moveArchivable, Table.find?_replaceAll, List.find?_map]
  · exact congrArg (fun found => (Option.map _ found).or _)
      (Table.find?_filter (GatewayRecoveryStore.isArchivable cutoffMillis) key)
  · rw [hmoved]
    exact store.operations.nodup.sublist (List.filter_sublist.map _)

lemma find?_live : (store.moveArchivable cutoffMillis nowMillis).operations.find? key =
    (store.operations.find? key).filter fun operation =>
      !GatewayRecoveryStore.isArchivable cutoffMillis operation :=
  Table.find?_delete _ key

/-- **Archiving is invisible**: each key selects the operation that it selected. -/
theorem selectOperation_archived (h : Separate store) :
    (store.moveArchivable cutoffMillis nowMillis).selectOperation key =
      store.selectOperation key := by
  rw [GatewayRecoveryStore.selectOperation, GatewayRecoveryStore.selectOperation, find?_archive,
    find?_live]
  cases hlive : store.operations.find? key with
  | none => rfl
  | some operation =>
    rw [h key operation hlive]
    cases harchivable : GatewayRecoveryStore.isArchivable cutoffMillis operation <;>
      simp [harchivable]

end Archive

/-! ### Steps -/

section Steps

variable {store after : GatewayRecoveryStore} {call : Call}

lemma OperationStep.config (h : OperationStep store call after) : after.config = store.config := by
  cases h with
  | kept kept => exact kept.config
  | updated p f hf config => exact config
  | recorded | archived | purged => rfl

/-- A change keeps the identity of an operation, and makes no resolved one unresolved. -/
lemma RecoveryOperation.Change.inFlight {operation changed : RecoveryOperation}
    (h : operation.Change store call changed) {instanceId incarnation : String}
    (hflight : inFlight instanceId incarnation changed = true) :
    Recovery.inFlight instanceId incarnation operation = true := by
  rw [Recovery.inFlight, Bool.and_eq_true] at hflight ⊢
  cases h with
  | dispatched nowMillis state => exact ⟨hflight.1, by rw [state]; rfl⟩
  | rotated nowMillis unresolved => exact ⟨hflight.1, unresolved⟩
  | reported report admitted =>
    refine ⟨hflight.1, ?_⟩
    by_cases hstate : operation.state = report.state
    · rw [hstate]
      exact hflight.2
    · exact validTransition_unresolved (admitOutcome_eq_ok admitted).transition hstate

lemma OperationStep.separate (h : OperationStep store call after) (hstore : Separate store) :
    Separate after := by
  intro key operation hlive
  cases h with
  | kept kept =>
    rw [kept.operations] at hlive
    rw [kept.operationArchive]
    exact hstore key operation hlive
  | updated p f hf config operations operationArchive change =>
    rw [operations, Table.find?_update, Option.map_eq_some_iff] at hlive
    obtain ⟨old, hold, -⟩ := hlive
    rw [operationArchive]
    exact hstore key old hold
  | recorded intent operations room inserted =>
    rw [Table.find?_insert inserted] at hlive
    split_ifs at hlive with hkey
    · have hunknown := room.unknown
      rw [hkey, GatewayRecoveryStore.selectOperation, Option.or_eq_none_iff,
        Option.map_eq_none_iff] at hunknown
      exact hunknown.2
    · exact hstore key operation hlive
  | archived cutoffMillis nowMillis =>
    rw [find?_live, Option.filter_eq_some_iff] at hlive
    obtain ⟨hlive, hkept⟩ := hlive
    rw [Bool.not_eq_true'] at hkept
    rw [find?_archive, hlive, hstore key operation hlive]
    simp [hkept]
  | purged due =>
    rw [Table.find?_delete, hstore key operation hlive]
    rfl

/-- The number of unresolved operations of an incarnation. -/
lemma OperationStep.inFlight_le_one (h : OperationStep store call after)
    {instanceId incarnation : String}
    (hstore : store.operations.count (inFlight instanceId incarnation) ≤ 1) :
    after.operations.count (inFlight instanceId incarnation) ≤ 1 := by
  cases h with
  | kept kept => rwa [kept.operations]
  | updated p f hf config operations operationArchive change =>
    rw [operations]
    refine (Table.count_update_le fun r hr hp hq => ?_).trans hstore
    exact (change r (Table.find?_key hr) hp).inFlight hq
  | recorded intent operations room inserted =>
    change operations.count _ ≤ 1
    rw [Table.count, (Table.insert_eq_some.mp inserted).2, List.countP_append]
    by_cases hnew : inFlight instanceId incarnation intent.operation = true
    · have hidle := room.idle
      rw [inFlight, Bool.and_eq_true, decide_eq_true_eq] at hnew
      obtain ⟨⟨rfl, rfl⟩, -⟩ := hnew
      change List.countP (inFlight intent.operation.instanceId
        intent.operation.instanceIncarnation) store.operations.rows = 0 at hidle
      rw [hidle, Nat.zero_add]
      exact List.countP_le_length
    · rw [List.countP_singleton, if_neg hnew]
      exact hstore
  | archived cutoffMillis nowMillis => exact (Table.count_delete_le _ _).trans hstore
  | purged due => exact hstore

/-- The number of unresolved operations grows by an intent that found room for it. -/
lemma OperationStep.unresolvedCount_le (h : OperationStep store call after)
    (hstore : store.unresolvedCount ≤ store.config.unresolvedCapacity) :
    after.unresolvedCount ≤ store.config.unresolvedCapacity := by
  rw [GatewayRecoveryStore.unresolvedCount] at hstore ⊢
  cases h with
  | kept kept => rwa [kept.operations]
  | updated p f hf config operations operationArchive change =>
    rw [operations]
    refine (Table.count_update_le fun r hr hp hq => ?_).trans hstore
    have hafter : inFlight (f r).instanceId (f r).instanceIncarnation (f r) = true := by
      rw [inFlight, Bool.and_eq_true]
      exact ⟨decide_eq_true ⟨rfl, rfl⟩, hq⟩
    have hbefore := (change r (Table.find?_key hr) hp).inFlight hafter
    rw [inFlight, Bool.and_eq_true] at hbefore
    exact hbefore.2
  | recorded intent operations room inserted =>
    change operations.count _ ≤ _
    rw [Table.count, (Table.insert_eq_some.mp inserted).2, List.countP_append]
    have hroom := room.unresolved
    have hone := List.countP_le_length (l := [intent.operation])
      (p := fun operation : RecoveryOperation => operation.state.unresolved)
    rw [GatewayRecoveryStore.unresolvedCount, Table.count] at hroom
    rw [List.length_singleton] at hone
    omega
  | archived cutoffMillis nowMillis => exact (Table.count_delete_le _ _).trans hstore
  | purged due => exact hstore

/-- The number of retained operations grows by an intent that found room for it. -/
lemma OperationStep.retainedCount_le (h : OperationStep store call after)
    (hstore : store.retainedCount ≤ store.config.retainedCapacity) :
    after.retainedCount ≤ store.config.retainedCapacity := by
  rw [GatewayRecoveryStore.retainedCount] at hstore ⊢
  cases h with
  | kept kept => rwa [kept.operations, kept.operationArchive]
  | updated p f hf config operations operationArchive =>
    rwa [operations, operationArchive, Table.length_update]
  | recorded intent operations room inserted =>
    have hroom := room.retained
    rw [GatewayRecoveryStore.retainedCount] at hroom
    change operations.rows.length + store.operationArchive.rows.length ≤ _
    rw [(Table.insert_eq_some.mp inserted).2, List.length_append, List.length_singleton]
    omega
  | archived cutoffMillis nowMillis =>
    have hsplit := store.operations.length_delete_add
      (GatewayRecoveryStore.isArchivable cutoffMillis)
    have hmoved := store.operationArchive.length_replaceAll_le
      ((store.operations.rows.filter (GatewayRecoveryStore.isArchivable cutoffMillis)).map
        fun operation => { operation, archivedAtMillis := nowMillis })
    rw [List.length_map] at hmoved
    change (store.operations.delete _).rows.length +
      (store.operationArchive.replaceAll _).rows.length ≤ _
    omega
  | purged due =>
    have hkept := List.length_filter_le (fun a => !due a) store.operationArchive.rows
    change store.operations.rows.length + (store.operationArchive.rows.filter _).length ≤ _
    omega

end Steps

/-! ### Runs -/

/-- The bounds on the retained operations of a store. -/
structure Retained (store : GatewayRecoveryStore) : Prop where
  separate : Separate store
  singleFlight : ∀ instanceId incarnation,
    store.operations.count (inFlight instanceId incarnation) ≤ 1
  unresolved : store.unresolvedCount ≤ store.config.unresolvedCapacity
  retained : store.retainedCount ≤ store.config.retainedCapacity

lemma Retained.step {store after : GatewayRecoveryStore} {call : Call} (h : Retained store)
    (hstep : OperationStep store call after) : Retained after where
  separate := hstep.separate h.separate
  singleFlight instanceId incarnation := hstep.inFlight_le_one (h.singleFlight instanceId incarnation)
  unresolved := hstep.config ▸ hstep.unresolvedCount_le h.unresolved
  retained := hstep.config ▸ hstep.retainedCount_le h.retained

lemma retained_open (config : RecoveryStoreConfig) : Retained (.openWithConfig config) where
  separate key operation hlive := by cases hlive
  singleFlight _ _ := Nat.zero_le 1
  unresolved := Nat.zero_le _
  retained := Nat.zero_le _

section Token

variable [Sha256]

lemma retained_run (config : RecoveryStoreConfig) (calls : List Call) :
    Retained ((GatewayRecoveryStore.openWithConfig config).run calls) :=
  run_invariant (P := Retained) (fun store call h => h.step (next_operations store call))
    (retained_open config) calls

/-- **Operations are bounded**, after every run: by one in flight for each
incarnation, by both capacities of the store's policy, and by one table each. -/
theorem retention_bounded (config : RecoveryStoreConfig) (calls : List Call) :
    let store := (GatewayRecoveryStore.openWithConfig config).run calls
    (∀ instanceId incarnation, store.operations.count (inFlight instanceId incarnation) ≤ 1) ∧
      store.unresolvedCount ≤ config.unresolvedCapacity ∧
      store.retainedCount ≤ config.retainedCapacity ∧
      ∀ key, store.operations.find? key = none ∨ store.operationArchive.find? key = none := by
  have h := retained_run config calls
  have hconfig : ((GatewayRecoveryStore.openWithConfig config).run calls).config = config :=
    run_invariant (P := fun store => store.config = config)
      (fun store call hstore => (next_operations store call).config.trans hstore) rfl calls
  have hunresolved := h.unresolved
  have hretained := h.retained
  rw [hconfig] at hunresolved hretained
  refine ⟨h.singleFlight, hunresolved, hretained, fun key => ?_⟩
  cases hlive : ((GatewayRecoveryStore.openWithConfig config).run calls).operations.find? key with
  | none => exact .inl rfl
  | some operation => exact .inr (h.separate key operation hlive)

end Token

end Sts2Gateway.Recovery
