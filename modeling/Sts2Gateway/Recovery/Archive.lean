/-
Archiving and the reuse of operation ids (`recovery_store_archive.rs`).

* `SameAnswers`: two stores that no call on operations can tell apart;
* `sameAnswers_archived`: an archived row leaves such a store behind;
* `live_or_archived`, `archived_or_purged`: the two ways on which an operation id
  leaves its table;
* `archiving_invisible`: **archiving changes no answer**, and an id that was used is
  free again only after a purge that came a whole retention horizon after its archiving.
-/
import Mathlib.Tactic
import Sts2Gateway.Recovery.Outcomes

namespace Sts2Gateway.Recovery

open Machine Procedure Relational Text

/-! ### Stores with the same answers -/

/-- What the answers of the calls on operations depend on. -/
structure SameAnswers (store after : GatewayRecoveryStore) : Prop where
  config : after.config = store.config
  authority : after.authority = store.authority
  leases : after.leases = store.leases
  selected : ∀ key, after.selectOperation key = store.selectOperation key
  unresolved : ∀ p : RecoveryOperation → Bool,
    (∀ operation, p operation = true → operation.state.unresolved = true) →
      after.operations.count p = store.operations.count p
  retained : after.retainedCount = store.retainedCount

section Answers

variable {store after : GatewayRecoveryStore}

lemma SameAnswers.lookupOperation (h : SameAnswers store after)
    (instanceId operationId payloadDigest : String) :
    after.lookupOperation instanceId operationId payloadDigest =
      store.lookupOperation instanceId operationId payloadDigest := by
  rw [GatewayRecoveryStore.lookupOperation, GatewayRecoveryStore.lookupOperation, h.selected]

/-- An id that names no operation is not a live one. -/
lemma find?_live_of_unknown {store : GatewayRecoveryStore} {key : OperationKey}
    (h : store.selectOperation key = none) : store.operations.find? key = none :=
  (Option.or_eq_none_iff.mp h).1

variable [Sha256]

lemma SameAnswers.ensureContext (h : SameAnswers store after) (proof : RecoveryLeaseProof)
    (nowMillis : ℕ) : after.ensureContext proof nowMillis = store.ensureContext proof nowMillis := by
  have hboot : after.currentBoot = store.currentBoot := by
    rw [GatewayRecoveryStore.currentBoot, GatewayRecoveryStore.currentBoot,
      GatewayRecoveryStore.currentAuthority, GatewayRecoveryStore.currentAuthority, h.authority]
  have hlease : after.leaseByIdWithToken proof.leaseId proof.fenceToken =
      store.leaseByIdWithToken proof.leaseId proof.fenceToken := by
    rw [GatewayRecoveryStore.leaseByIdWithToken, GatewayRecoveryStore.leaseByIdWithToken, h.leases]
  rw [GatewayRecoveryStore.ensureContext, GatewayRecoveryStore.ensureContext, hboot, hlease]

lemma SameAnswers.recordIntent (h : SameAnswers store after) (proof : RecoveryLeaseProof)
    (intent : RecoveryOperationIntent) :
    (after.recordIntent proof intent).map Prod.fst =
      (store.recordIntent proof intent).map Prod.fst := by
  have hflight : (after.operations.count fun operation =>
        decide (operation.instanceId = intent.instanceId ∧
          operation.instanceIncarnation = intent.instanceIncarnation) &&
            operation.state.unresolved) =
      store.operations.count fun operation =>
        decide (operation.instanceId = intent.instanceId ∧
          operation.instanceIncarnation = intent.instanceIncarnation) &&
            operation.state.unresolved := by
    refine h.unresolved _ fun operation hp => ?_
    rw [Bool.and_eq_true] at hp
    exact hp.2
  have hunresolved : after.unresolvedCount = store.unresolvedCount :=
    h.unresolved _ fun _ hp => hp
  rw [GatewayRecoveryStore.recordIntent, GatewayRecoveryStore.recordIntent, h.ensureContext,
    h.selected, h.config, hunresolved, h.retained]
  refine map_bind_congr fun _ _ => map_bind_congr fun _ _ => map_bind_congr fun _ _ => ?_
  cases hselect : store.selectOperation (intent.instanceId, intent.operationId) with
  | some existing => exact map_bind_congr fun _ _ => rfl
  | none =>
    dsimp only
    rw [hflight]
    refine map_bind_congr fun _ _ => map_bind_congr fun _ _ => map_bind_congr fun _ _ => ?_
    have hlive : store.operations.find? intent.operation.key = none :=
      find?_live_of_unknown hselect
    have hlive' : after.operations.find? intent.operation.key = none :=
      find?_live_of_unknown ((h.selected _).trans hselect)
    cases hinsert : store.operations.insert intent.operation with
    | none => exact absurd hlive (Table.insert_eq_none.mp hinsert)
    | some operations =>
      cases hinsert' : after.operations.insert intent.operation with
      | none => exact absurd hlive' (Table.insert_eq_none.mp hinsert')
      | some operations' => rfl

end Answers

/-! ### Archived rows -/

section Archived

variable {store : GatewayRecoveryStore} (cutoffMillis nowMillis : ℕ)

/-- An operation that is moved is resolved. -/
lemma not_archivable_of_unresolved {operation : RecoveryOperation}
    (h : operation.state.unresolved = true) :
    GatewayRecoveryStore.isArchivable cutoffMillis operation = false := by
  rw [GatewayRecoveryStore.isArchivable, h]
  rfl

/-- The moved rows leave the live table and enter the archive under new keys. -/
lemma retainedCount_archived (h : Separate store) :
    (store.moveArchivable cutoffMillis nowMillis).retainedCount = store.retainedCount := by
  have hkeys : ∀ rows : List RecoveryOperation,
      (rows.map fun operation => (⟨operation, nowMillis⟩ : ArchivedOperation)).map
        (fun archived => archived.operation.key) = rows.map RecoveryOperation.key := by
    intro rows
    rw [List.map_map]
    rfl
  have hmoved : (store.operationArchive.replaceAll
      ((store.operations.rows.filter (GatewayRecoveryStore.isArchivable cutoffMillis)).map
        fun operation => ⟨operation, nowMillis⟩)).rows.length =
      store.operationArchive.rows.length +
        (store.operations.rows.filter (GatewayRecoveryStore.isArchivable cutoffMillis)).length := by
    rw [Table.length_replaceAll, List.length_map]
    · rw [hkeys]
      exact store.operations.nodup.sublist (List.filter_sublist.map _)
    · intro archived harchived
      obtain ⟨operation, hoperation, rfl⟩ := List.mem_map.mp harchived
      exact h _ operation (Table.find?_key (List.mem_filter.mp hoperation).1)
  have hlive := store.operations.length_delete_add
    (GatewayRecoveryStore.isArchivable cutoffMillis)
  rw [GatewayRecoveryStore.retainedCount, GatewayRecoveryStore.retainedCount]
  change (store.operations.delete _).rows.length + (store.operationArchive.replaceAll _).rows.length =
    store.operations.rows.length + store.operationArchive.rows.length
  omega

/-- **No answer depends on the table** in which a resolved operation is kept. -/
theorem sameAnswers_archived (h : Separate store) :
    SameAnswers store (store.moveArchivable cutoffMillis nowMillis) where
  config := rfl
  authority := rfl
  leases := rfl
  selected key := selectOperation_archived cutoffMillis nowMillis key h
  unresolved _ hp := Table.count_delete fun operation _ hcounted =>
    not_archivable_of_unresolved cutoffMillis (hp operation hcounted)
  retained := retainedCount_archived cutoffMillis nowMillis h

end Archived

/-! ### Ways out of a table -/

section Ways

variable {store after : GatewayRecoveryStore} {call : Call} {key : OperationKey}

/-- A row enters the archive by an archiving call, which stamps it with its clock. -/
lemma OperationStep.archived_of_new (h : OperationStep store call after)
    {archived : ArchivedOperation} (hold : store.operationArchive.find? key ≠ some archived)
    (hnew : after.operationArchive.find? key = some archived) :
    store.operations.find? key = some archived.operation ∧
      ∃ cutoffMillis, cutoffMillis + recoveryTombstoneRetentionMillis ≤ archived.archivedAtMillis ∧
        call = .operation (.archiveResolvedBefore cutoffMillis archived.archivedAtMillis) := by
  cases h with
  | kept kept => exact absurd (kept.operationArchive ▸ hnew) hold
  | updated p f hf config operations operationArchive change =>
    exact absurd (operationArchive ▸ hnew) hold
  | recorded intent operations room inserted => exact absurd hnew hold
  | archived cutoffMillis nowMillis horizon origin =>
    rw [find?_archive] at hnew
    rcases Option.or_eq_some_iff.mp hnew with hmoved | ⟨-, hkept⟩
    · obtain ⟨operation, hoperation, rfl⟩ := Option.map_eq_some_iff.mp hmoved
      exact ⟨(Option.filter_eq_some_iff.mp hoperation).1, cutoffMillis, horizon, origin⟩
    · exact absurd hkept hold
  | purged due nowMillis expired origin =>
    rw [Table.find?_delete] at hnew
    exact absurd (Option.filter_eq_some_iff.mp hnew).1 hold

/-- An operation is forgotten by a purge that finds it archived. -/
lemma OperationStep.purged_of_unknown (h : OperationStep store call after) (hstore : Separate store)
    (hold : store.selectOperation key ≠ none) (hnew : after.selectOperation key = none) :
    ∃ archived nowMillis, store.operationArchive.find? key = some archived ∧
      archived.archivedAtMillis ≤ nowMillis - recoveryTombstoneRetentionMillis ∧
      call = .operation (.purgeExpiredArchives nowMillis) := by
  rw [GatewayRecoveryStore.selectOperation, ne_eq, Option.or_eq_none_iff, not_and_or] at hold
  rw [GatewayRecoveryStore.selectOperation, Option.or_eq_none_iff, Option.map_eq_none_iff] at hnew
  obtain ⟨hlive, harchived⟩ := hnew
  rw [Option.map_eq_none_iff] at hold
  cases h with
  | kept kept =>
    rw [kept.operations] at hlive
    rw [kept.operationArchive] at harchived
    exact absurd hold (by simp [hlive, harchived])
  | updated p f hf config operations operationArchive change =>
    rw [operations, Table.find?_update, Option.map_eq_none_iff] at hlive
    rw [operationArchive] at harchived
    exact absurd hold (by simp [hlive, harchived])
  | recorded intent operations room inserted =>
    have hlive' : store.operations.find? key = none := by
      rw [Table.find?_insert inserted] at hlive
      split_ifs at hlive
      exact hlive
    exact absurd hold (by simp [hlive', harchived])
  | archived cutoffMillis nowMillis =>
    have hselect := selectOperation_archived cutoffMillis nowMillis key hstore
    rw [GatewayRecoveryStore.selectOperation, GatewayRecoveryStore.selectOperation, hlive,
      harchived] at hselect
    obtain ⟨hlive', harchived'⟩ := Option.or_eq_none_iff.mp hselect.symm
    exact absurd hold (by simp [hlive', Option.map_eq_none_iff.mp harchived'])
  | purged due nowMillis expired origin =>
    change store.operations.find? key = none at hlive
    rw [Table.find?_delete, Option.filter_eq_none_iff] at harchived
    cases hfound : store.operationArchive.find? key with
    | none => exact absurd hold (by simp [hlive, hfound])
    | some archived =>
      have hdue : due archived = true := by simpa using harchived archived hfound
      exact ⟨archived, nowMillis, rfl, expired archived hdue, origin⟩

end Ways

/-! ### Runs -/

/-- What an accepted cutoff says, and what it does. -/
lemma archiveResolvedBefore_eq_ok {store after : GatewayRecoveryStore}
    {cutoffMillis nowMillis moved : ℕ}
    (h : store.archiveResolvedBefore cutoffMillis nowMillis = .ok (moved, after)) :
    after = store.moveArchivable cutoffMillis nowMillis := by
  rw [GatewayRecoveryStore.archiveResolvedBefore] at h
  simp only [except_bind_eq_ok] at h
  obtain ⟨_, -, _, -, _, -, _, -, h⟩ := h
  cases h
  rfl

section Token

variable [Sha256]

/-- An intent is recorded for an id that names no operation. -/
lemma recordIntent_created {store after : GatewayRecoveryStore} {proof : RecoveryLeaseProof}
    {intent : RecoveryOperationIntent} {operation : RecoveryOperation}
    (h : store.recordIntent proof intent = .ok (.created operation, after)) :
    store.selectOperation intent.operation.key = none := by
  rw [GatewayRecoveryStore.recordIntent] at h
  simp only [except_bind_eq_ok] at h
  obtain ⟨_, -, _, -, _, -, h⟩ := h
  change store.selectOperation (intent.instanceId, intent.operationId) = none
  cases hselect : store.selectOperation (intent.instanceId, intent.operationId) with
  | none => rfl
  | some existing =>
    rw [hselect] at h
    obtain ⟨_, -, h⟩ := except_bind_eq_ok.mp h
    cases h

/-- A row of the archive of a run was live before the call that archived it. -/
lemma exists_archiving {config : RecoveryStoreConfig} {calls : List Call} {key : OperationKey}
    {archived : ArchivedOperation}
    (h : ((GatewayRecoveryStore.openWithConfig config).run calls).operationArchive.find? key =
      some archived) :
    ∃ before cutoffMillis between,
      calls = before ++ .operation (.archiveResolvedBefore cutoffMillis archived.archivedAtMillis) ::
        between ∧
      cutoffMillis + recoveryTombstoneRetentionMillis ≤ archived.archivedAtMillis ∧
      ((GatewayRecoveryStore.openWithConfig config).run before).operations.find? key =
        some archived.operation := by
  have hopen : (GatewayRecoveryStore.openWithConfig config).operationArchive.find? key ≠
      some archived := fun hfound => by cases hfound
  obtain ⟨before, call, between, rfl, hbefore, hafter⟩ :=
    exists_last_step
      (P := fun store : GatewayRecoveryStore => store.operationArchive.find? key ≠ some archived)
      hopen (not_not.mpr h)
  rw [run_append] at hafter
  obtain ⟨hlive, cutoffMillis, horizon, rfl⟩ :=
    (next_operations _ call).archived_of_new hbefore (not_not.mp hafter)
  exact ⟨before, cutoffMillis, between, rfl, horizon, hlive⟩

/-- **Archiving is invisible**, after every run: a cutoff that the store accepts changes
no lookup, no answer to an intent and not the number of retained operations; and an id
that was in use takes a new intent only after it was archived and then purged, a whole
retention horizon later. -/
theorem archiving_invisible (config : RecoveryStoreConfig) (calls : List Call) :
    let store := (GatewayRecoveryStore.openWithConfig config).run calls
    (∀ cutoffMillis nowMillis moved after,
      store.archiveResolvedBefore cutoffMillis nowMillis = .ok (moved, after) →
        (∀ instanceId operationId payloadDigest,
          after.lookupOperation instanceId operationId payloadDigest =
            store.lookupOperation instanceId operationId payloadDigest) ∧
        (∀ proof intent, (after.recordIntent proof intent).map Prod.fst =
          (store.recordIntent proof intent).map Prod.fst) ∧
        after.retainedCount = store.retainedCount) ∧
    ∀ later proof intent operation recorded,
      store.selectOperation intent.operation.key ≠ none →
      (store.run later).recordIntent proof intent = .ok (.created operation, recorded) →
        ∃ before cutoffMillis archivedAtMillis between kept purgedAtMillis rest used,
          later = kept ++ .operation (.purgeExpiredArchives purgedAtMillis) :: rest ∧
          calls ++ kept = before ++
            .operation (.archiveResolvedBefore cutoffMillis archivedAtMillis) :: between ∧
          ((GatewayRecoveryStore.openWithConfig config).run before).operations.find?
            intent.operation.key = some used ∧
          archivedAtMillis + recoveryTombstoneRetentionMillis ≤ purgedAtMillis := by
  refine ⟨fun cutoffMillis nowMillis moved after haccepted => ?_,
    fun later proof intent operation recorded hused hcreated => ?_⟩
  · have hstore := (retained_run config calls).separate
    rw [archiveResolvedBefore_eq_ok haccepted]
    have hsame := sameAnswers_archived cutoffMillis nowMillis hstore
    exact ⟨hsame.lookupOperation, hsame.recordIntent, hsame.retained⟩
  · obtain ⟨kept, call, rest, rfl, hbefore, hafter⟩ :=
      exists_last_step
        (P := fun store : GatewayRecoveryStore =>
          store.selectOperation intent.operation.key ≠ none)
        hused (not_not.mpr (recordIntent_created hcreated))
    have hreached : run next ((GatewayRecoveryStore.openWithConfig config).run calls) kept =
        (GatewayRecoveryStore.openWithConfig config).run (calls ++ kept) := (run_append ..).symm
    rw [run_append, hreached] at hafter
    rw [hreached] at hbefore
    obtain ⟨archived, purgedAtMillis, harchived, hpurged, rfl⟩ :=
      (next_operations _ call).purged_of_unknown (retained_run config (calls ++ kept)).separate
        hbefore (not_not.mp hafter)
    obtain ⟨before, cutoffMillis, between, hsplit, horizon, hlive⟩ := exists_archiving harchived
    refine ⟨before, cutoffMillis, archived.archivedAtMillis, between, kept, purgedAtMillis, rest,
      archived.operation, rfl, hsplit, hlive, ?_⟩
    have hpositive : 0 < recoveryTombstoneRetentionMillis := by decide
    omega

end Token

/-! ### A run -/

namespace Sample

/-- The settled operation of `settled`, a day later. -/
def archived : List Call := settled ++ [.operation (.archiveResolvedBefore 1005 86401005)]

def laterLeaseId : String := "00000000-0000-4000-8000-00000000000c"

/-- The purge, and a new lease for a new intent under the old id. -/
def purged : List Call :=
  [.operation (.purgeExpiredArchives 172801005), .lease (.expire 172801006),
    .lease (.acquire laterLeaseId fenceToken
      { deploymentId := deployment
        instanceId := instanceId
        instanceIncarnation := incarnation
        bootId := bootId
        authorityGeneration := 1
        hostFenceId := hostFenceId
        hostFenceGeneration := 1
        callerId := "caller-1"
        sessionId := "session-2"
        nowMillis := 172801007
        ttlSeconds := 30
        renewalIntervalSeconds := 10 })]

def laterProof : RecoveryLeaseProof := { proof with leaseId := laterLeaseId, leaseEpoch := 2 }

def laterIntent : RecoveryOperationIntent :=
  { intent with leaseId := laterLeaseId, leaseEpoch := 2, nowMillis := 172801008 }

end Sample

section Example

attribute [local instance] Sample.sha256

/-- The settled operation is archived and found; two days later its id is free again. -/
theorem archiving_invisible_sample :
    (∃ after, ((GatewayRecoveryStore.openWithConfig .default).run
        Sample.settled).archiveResolvedBefore 1005 86401005 = .ok (1, after) ∧
      after.lookupOperation Sample.instanceId Sample.operationId Sample.payloadDigest =
        ((GatewayRecoveryStore.openWithConfig .default).run Sample.settled).lookupOperation
          Sample.instanceId Sample.operationId Sample.payloadDigest) ∧
    ∃ kept purgedAtMillis rest,
      Sample.purged = kept ++ .operation (.purgeExpiredArchives purgedAtMillis) :: rest := by
  constructor
  · have hcount : ((GatewayRecoveryStore.openWithConfig .default).run
        Sample.settled).operations.count (GatewayRecoveryStore.isArchivable 1005) = 1 := by
      decide +kernel
    have haccepted : ((GatewayRecoveryStore.openWithConfig .default).run
        Sample.settled).archiveResolvedBefore 1005 86401005 =
          .ok (1, ((GatewayRecoveryStore.openWithConfig .default).run
            Sample.settled).moveArchivable 1005 86401005) := by
      rw [GatewayRecoveryStore.archiveResolvedBefore, hcount]
      rfl
    exact ⟨_, haccepted,
      ((archiving_invisible .default Sample.settled).1 _ _ _ _ haccepted).1 _ _ _⟩
  · have hused : ((GatewayRecoveryStore.openWithConfig .default).run
        Sample.archived).selectOperation Sample.laterIntent.operation.key ≠ none := by
      decide +kernel
    have hcreated : ((((GatewayRecoveryStore.openWithConfig .default).run Sample.archived).run
        Sample.purged).recordIntent Sample.laterProof Sample.laterIntent).map Prod.fst =
          .ok (.created Sample.laterIntent.operation) := by
      decide +kernel
    cases hrecord : (((GatewayRecoveryStore.openWithConfig .default).run Sample.archived).run
        Sample.purged).recordIntent Sample.laterProof Sample.laterIntent with
    | error e =>
      rw [hrecord] at hcreated
      cases hcreated
    | ok recorded =>
      rw [hrecord] at hcreated
      obtain ⟨_, recorded⟩ := recorded
      obtain rfl := Except.ok.inj hcreated
      obtain ⟨_, _, _, _, kept, purgedAtMillis, rest, _, hpurge, -⟩ :=
        (archiving_invisible .default Sample.archived).2 _ _ _ _ _ hused hrecord
      exact ⟨kept, purgedAtMillis, rest, hpurge⟩

end Example

end Sts2Gateway.Recovery
