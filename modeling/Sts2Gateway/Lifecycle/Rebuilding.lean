/-
A lifecycle coordinator that is rebuilt from its store (`process_lifecycle.rs`,
`process_lifecycle_ownership.rs`).

* `load_retained`: memory holds what the store lists;
* `HasEpoch`, `load_epoch`: the epoch of an instance, as its records give it, is the one that
  a rebuilt coordinator starts from;
* `Reopened`: what a rebuild leaves of the store and adds to the log, however it ends;
* `Loaded`, `Mirrors`: what a coordinator knows when its rebuild succeeded;
* `restore_walks`, `rebuilt_reopened`, `rebuilt_loaded`: **what a rebuild does**.
-/
import Sts2Gateway.Lifecycle.Moves

namespace Sts2Gateway.Lifecycle

open Std (ExtTreeMap)
open ControlPlane (InstanceId OperationId ProcessHandle)
open Procedure Exchange Crash

/-! ### Loading -/

lemma contents_ext {a b : LifecycleContents} (hrecords : a.records = b.records)
    (hownership : a.ownership = b.ownership) : a = b := by
  cases a
  cases b
  subst hrecords
  subst hownership
  rfl

lemma records_foldl_putRecord (operations : List LifecycleOperation) (contents : LifecycleContents) :
    (operations.foldl LifecycleContents.putRecord contents).records =
      operations.foldl (fun records operation => records.insert operation.key operation)
        contents.records ∧
    (operations.foldl LifecycleContents.putRecord contents).ownership = contents.ownership := by
  induction operations generalizing contents with
  | nil => exact ⟨rfl, rfl⟩
  | cons operation operations ih => exact ih (contents.putRecord operation)

lemma ownership_foldl_putOwnership (rows : List LifecycleOwnership) (contents : LifecycleContents) :
    (rows.foldl LifecycleContents.putOwnership contents).ownership =
      rows.foldl (fun ownership row => ownership.insert row.instanceId row) contents.ownership ∧
    (rows.foldl LifecycleContents.putOwnership contents).records = contents.records := by
  induction rows generalizing contents with
  | nil => exact ⟨rfl, rfl⟩
  | cons row rows ih => exact ih (contents.putOwnership row)

/-- **Loading.**  Memory holds what the store lists. -/
theorem load_retained (setup : Setup) (contents : LifecycleContents) :
    (ProcessLifecycle.load setup contents.operations contents.rows).retained = contents := by
  have hrows := ownership_foldl_putOwnership contents.rows
    (contents.operations.foldl LifecycleContents.putRecord .empty)
  have hrecords := records_foldl_putRecord contents.operations .empty
  refine contents_ext ?_ ?_
  · rw [ProcessLifecycle.load, hrows.2, hrecords.1]
    exact OrderedMap.foldl_values contents.records_keyed
  · rw [ProcessLifecycle.load, hrows.1, hrecords.2]
    exact OrderedMap.foldl_values contents.ownership_keyed

/-! ### Epochs -/

/-- The epoch of an instance: the largest of its records, and the first one without any. -/
structure LifecycleContents.HasEpoch (contents : LifecycleContents) (instanceId : InstanceId)
    (epoch : AuthorityEpoch) : Prop where
  largest : ∀ operation ∈ contents.operations, operation.instanceId = instanceId →
    operation.authorityEpoch ≤ epoch
  reached : (∃ operation ∈ contents.operations, operation.instanceId = instanceId ∧
      operation.authorityEpoch = epoch) ∨
    epoch = 1 ∧ ∀ operation ∈ contents.operations, operation.instanceId ≠ instanceId

lemma LifecycleContents.HasEpoch.unique {contents : LifecycleContents} {instanceId : InstanceId}
    {a b : AuthorityEpoch} (ha : contents.HasEpoch instanceId a)
    (hb : contents.HasEpoch instanceId b) : a = b := by
  obtain ⟨x, hx, hxi, rfl⟩ | ⟨rfl, hnone⟩ := ha.reached
  · obtain ⟨y, hy, hyi, rfl⟩ | ⟨rfl, hnone⟩ := hb.reached
    · exact le_antisymm (hb.largest x hx hxi) (ha.largest y hy hyi)
    · exact absurd hxi (hnone x hx)
  · obtain ⟨y, hy, hyi, rfl⟩ | ⟨rfl, -⟩ := hb.reached
    · exact absurd hyi (hnone y hy)
    · rfl

/-- The epochs that a fold over records has reached. -/
lemma authority_foldl (operations : List LifecycleOperation) (instanceId : InstanceId) :
    (∀ operation ∈ operations, operation.instanceId = instanceId →
      ∃ epoch, (operations.foldl raiseAuthority ∅)[instanceId]? = some epoch ∧
        operation.authorityEpoch ≤ epoch) ∧
    ∀ epoch, (operations.foldl raiseAuthority ∅)[instanceId]? = some epoch →
      ∃ operation ∈ operations, operation.instanceId = instanceId ∧
        operation.authorityEpoch = epoch := by
  induction operations using List.reverseRecOn with
  | nil => simp
  | append_singleton operations last ih =>
    obtain ⟨hbelow, hreached⟩ := ih
    rw [List.foldl_append, List.foldl_cons, List.foldl_nil, raiseAuthority]
    simp only [OrderedMap.getElem?_insert_if, List.mem_append, List.mem_singleton]
    by_cases hlast : last.instanceId = instanceId
    · subst hlast
      rw [if_pos rfl]
      cases hcurrent : (operations.foldl raiseAuthority ∅)[last.instanceId]? with
      | none =>
        dsimp only
        refine ⟨?_, ?_⟩
        · rintro operation (hmem | rfl) hinstance
          · obtain ⟨epoch, hepoch, -⟩ := hbelow operation hmem hinstance
            rw [hcurrent] at hepoch
            cases hepoch
          · exact ⟨_, rfl, le_rfl⟩
        · rintro epoch hepoch
          exact ⟨last, .inr rfl, rfl, Option.some.inj hepoch⟩
      | some current =>
        dsimp only
        refine ⟨?_, ?_⟩
        · rintro operation (hmem | rfl) hinstance
          · obtain ⟨epoch, hepoch, hle⟩ := hbelow operation hmem hinstance
            rw [hcurrent] at hepoch
            rw [← Option.some.inj hepoch] at hle
            exact ⟨_, rfl, hle.trans (le_max_left _ _)⟩
          · exact ⟨_, rfl, le_max_right _ _⟩
        · rintro epoch hepoch
          obtain ⟨operation, hmem, hinstance, hequal⟩ := hreached current hcurrent
          rw [← Option.some.inj hepoch]
          rcases max_choice current last.authorityEpoch with hmax | hmax
          · exact ⟨operation, .inl hmem, hinstance, by rw [hequal, hmax]⟩
          · exact ⟨last, .inr rfl, rfl, hmax.symm⟩
    · rw [if_neg hlast]
      refine ⟨?_, fun epoch hepoch => ?_⟩
      · rintro operation (hmem | rfl) hinstance
        · exact hbelow operation hmem hinstance
        · exact absurd hinstance hlast
      · obtain ⟨operation, hmem, hsame⟩ := hreached epoch hepoch
        exact ⟨operation, .inl hmem, hsame⟩

/-- A rebuilt coordinator starts from the epochs of its records. -/
lemma load_epoch (contents : LifecycleContents) (instanceId : InstanceId) :
    contents.HasEpoch instanceId
      ((contents.operations.foldl raiseAuthority ∅)[instanceId]?.getD 1) := by
  obtain ⟨hbelow, hreached⟩ := authority_foldl contents.operations instanceId
  cases hepoch : (contents.operations.foldl raiseAuthority ∅)[instanceId]? with
  | none =>
    have hnone : ∀ operation ∈ contents.operations, operation.instanceId ≠ instanceId := by
      intro operation hmem hinstance
      obtain ⟨epoch, hsome, -⟩ := hbelow operation hmem hinstance
      rw [hepoch] at hsome
      cases hsome
    exact ⟨fun operation hmem hinstance => absurd hinstance (hnone operation hmem),
      .inr ⟨rfl, hnone⟩⟩
  | some epoch =>
    refine ⟨fun operation hmem hinstance => ?_, .inl (hreached epoch hepoch)⟩
    obtain ⟨found, hfound, hle⟩ := hbelow operation hmem hinstance
    rw [hepoch] at hfound
    rw [← Option.some.inj hfound] at hle
    exact hle

/-! ### Mirrors -/

/-- Memory knows exactly the processes that its rows name. -/
def Mirrors (lifecycle : ProcessLifecycle) : Prop :=
  ∀ instanceId identity, lifecycle.owned[instanceId]? = some identity ↔
    ∃ row, lifecycle.retained.row instanceId = some row ∧ row.process = some identity

lemma mirrors_own {lifecycle : ProcessLifecycle} (h : Mirrors lifecycle)
    (row : LifecycleOwnership) : Mirrors (lifecycle.own row) := by
  intro instanceId identity
  rw [ProcessLifecycle.own, LifecycleContents.row, LifecycleContents.getElem?_putOwnership]
  by_cases hinstance : row.instanceId = instanceId
  · simp only [if_pos hinstance, Option.some.injEq, exists_eq_left']
    cases row.process with
    | none => simp [hinstance]
    | some owner => simp [hinstance]
  · simp only [if_neg hinstance]
    cases row.process with
    | none =>
      dsimp only
      rw [OrderedMap.getElem?_erase_if, if_neg hinstance]
      exact h instanceId identity
    | some owner =>
      dsimp only
      rw [OrderedMap.getElem?_insert_if, if_neg hinstance]
      exact h instanceId identity

lemma mirrors_disown {lifecycle : ProcessLifecycle} (h : Mirrors lifecycle)
    (gone : InstanceId) : Mirrors (lifecycle.disown gone) := by
  intro instanceId identity
  rw [ProcessLifecycle.disown, LifecycleContents.row, LifecycleContents.getElem?_removeOwnership]
  dsimp only
  rw [OrderedMap.getElem?_erase_if]
  by_cases hinstance : gone = instanceId
  · simp [if_pos hinstance]
  · simp only [if_neg hinstance]
    exact h instanceId identity

/-- The fold of `mirrorOwned` over rows of distinct instances. -/
lemma owned_foldl (rows : List LifecycleOwnership)
    (hdistinct : rows.Pairwise fun a b => a.instanceId ≠ b.instanceId)
    (instanceId : InstanceId) (identity : ProcessIdentity) :
    (rows.foldl (fun owned row => row.process.elim owned (owned.insert row.instanceId))
      (∅ : ExtTreeMap InstanceId ProcessIdentity compare))[instanceId]? = some identity ↔
      ∃ row ∈ rows, row.instanceId = instanceId ∧ row.process = some identity := by
  induction rows using List.reverseRecOn with
  | nil => simp
  | append_singleton rows last ih =>
    obtain ⟨hrows, -, hlast⟩ := List.pairwise_append.mp hdistinct
    have hother : ∀ row ∈ rows, row.instanceId ≠ last.instanceId :=
      fun row hrow => hlast row hrow last (List.mem_singleton_self _)
    have hbefore := ih hrows
    rw [List.foldl_append, List.foldl_cons, List.foldl_nil]
    simp only [List.mem_append, List.mem_singleton, or_and_right, exists_or, exists_eq_left]
    cases hprocess : last.process with
    | none =>
      rw [Option.elim, hbefore]
      simp
    | some owner =>
      rw [Option.elim, OrderedMap.getElem?_insert_if]
      by_cases hinstance : last.instanceId = instanceId
      · subst hinstance
        have hnone : ¬ ∃ row ∈ rows, row.instanceId = last.instanceId ∧
            row.process = some identity := fun ⟨row, hrow, hsame, _⟩ => hother row hrow hsame
        simp [hnone]
      · rw [if_neg hinstance, hbefore]
        simp [hinstance]

lemma mirrors_mirrorOwned {lifecycle : ProcessLifecycle} (hempty : lifecycle.owned = ∅) :
    Mirrors lifecycle.mirrorOwned := by
  intro instanceId identity
  have hfold : lifecycle.mirrorOwned.owned = lifecycle.retained.rows.foldl
      (fun owned row => row.process.elim owned (owned.insert row.instanceId)) ∅ := by
    rw [ProcessLifecycle.mirrorOwned, hempty]
    refine congrArg (fun f => lifecycle.retained.rows.foldl f ∅) ?_
    funext owned row
    cases row.process <;> rfl
  rw [hfold, owned_foldl _ (LifecycleContents.rows_sorted.imp fun h => h.ne)]
  constructor
  · rintro ⟨row, hrow, rfl, hprocess⟩
    exact ⟨row, LifecycleContents.mem_rows.mp hrow, hprocess⟩
  · rintro ⟨row, hrow, hprocess⟩
    have hinstance := lifecycle.retained.ownership_keyed _ _ hrow
    subst hinstance
    exact ⟨row, LifecycleContents.mem_rows.mpr hrow, rfl, hprocess⟩

/-! ### Rebuilding -/

/-- What a rebuild leaves of the store and adds to the log, however it ends: the records stay,
and nothing is started. -/
structure Reopened (s t : CallState Coordinator Event) : Prop where
  stored : t.state.store.records = s.state.store.records
  log : ∃ more, t.events = s.events ++ more ∧ ∀ event ∈ more, ¬ event.Starts

/-- What memory takes from the store. -/
structure Loaded (setup : Setup) (contents : LifecycleContents) (lifecycle : ProcessLifecycle) :
    Prop where
  config : lifecycle.config = setup.config
  profiles : lifecycle.profiles = setup.profiles
  records : lifecycle.retained.records = contents.records
  authority : lifecycle.authority = contents.operations.foldl raiseAuthority ∅
  room : contents.records.size ≤ setup.config.maxRecords

/-- A row that an instance without one gets for its newest operation that was not rejected,
while that is active. -/
def LifecycleContents.Repairs (contents : LifecycleContents) (row : LifecycleOwnership) : Prop :=
  ∃ operation, contents.latestAuthoritativeRecord row.instanceId = some operation ∧
    operation.state.isActive = true ∧ row.operationId = operation.operationId ∧
    row.sequence = operation.sequence ∧ row.process = operation.process

/-- A coordinator whose rebuild has succeeded: it keeps the rows of the store that are not
stale, and adds none but for its newest active operations. -/
structure Restored (setup : Setup) (contents : LifecycleContents) (lifecycle : ProcessLifecycle) :
    Prop extends Loaded setup contents lifecycle where
  mirrors : Mirrors lifecycle
  kept : ∀ instanceId row, contents.row instanceId = some row →
    contents.ownerIsStale row = false → lifecycle.retained.row instanceId = some row
  origin : ∀ instanceId row, lifecycle.retained.row instanceId = some row →
    contents.row instanceId = some row ∨ contents.Repairs row

/-- Memory and store hold the same, unless a mutation that was reported as failed took effect. -/
def Synced (env : Environment) (s : CallState Coordinator Event) : Prop :=
  env.Atomic → s.state.memory.retained = s.state.store

section Rebuild

variable {env : Environment} {setup : Setup} {s₀ s t : CallState Coordinator Event}

lemma Reopened.refl (s : CallState Coordinator Event) : Reopened s s :=
  ⟨rfl, [], (List.append_nil _).symm, List.forall_mem_nil _⟩

lemma Reopened.append (h : Reopened s₀ s) (hstored : t.state.store.records = s.state.store.records)
    {more : List Event} (hmore : t.events = s.events ++ more)
    (hquiet : ∀ event ∈ more, ¬ event.Starts) : Reopened s₀ t := by
  obtain ⟨log, hlog, hbefore⟩ := h.log
  refine ⟨hstored.trans h.stored, log ++ more, ?_, List.forall_mem_append.mpr ⟨hbefore, hquiet⟩⟩
  rw [hmore, hlog, List.append_assoc]

lemma Synced.persisted {w : StoreWrite} {f : ProcessLifecycle → ProcessLifecycle} (h : Synced env s)
    (hf : (f s.state.memory).retained = w.apply s.state.memory.retained) (events : List Event) :
    Synced env ⟨s.state.persisted w f, events⟩ := by
  intro hatomic
  exact hf.trans (congrArg w.apply (h hatomic))

/-- A change of a row, as a step of a rebuild. -/
lemma persistRow_walks {w : StoreWrite} {f : ProcessLifecycle → ProcessLifecycle}
    (hs : Reopened s₀ s)
    (hrecords : ∀ contents : LifecycleContents, (w.apply contents).records = contents.records) :
    Walks surviving (Reopened s₀) (do write env w; remember f) s fun _ t =>
      t = ⟨s.state.persisted w f, s.events ++ [.wrote w .done]⟩ := by
  have hquiet : ∀ outcome, ∀ event ∈ [Event.wrote w outcome], ¬ event.Starts :=
    fun _ => List.forall_mem_singleton.mpr not_false
  refine walks_persist_of hs (fun outcome error _ _ => ?_) (hs.append (hrecords _) rfl (hquiet _))
  refine hs.append ?_ rfl (hquiet outcome)
  rw [Coordinator.wrote]
  split_ifs
  · exact hrecords _
  · rfl

lemma readStore_walks (hs : Reopened s₀ s) :
    Walks surviving (Reopened s₀) (readStore env) s fun contents t =>
      contents = s.state.store ∧ t.state = s.state := by
  refine Walks.bind (R := fun _ t => t.state = s.state) (.interact hs fun failure _ =>
    ⟨hs.append rfl rfl (List.forall_mem_singleton.mpr not_false), rfl⟩) fun failure t ht hstate => ?_
  refine .getState_bind ?_
  cases failure with
  | some error => exact .raise ht
  | none => exact .pure ht ⟨by rw [hstate], hstate⟩

/-- The stale rows are cleared, and the others stay. -/
lemma clearStale_walks {contents : LifecycleContents} (hs : Reopened s₀ s)
    (hloaded : Loaded setup contents s.state.memory) (hcontents : s.state.memory.retained = contents)
    (hempty : s.state.memory.owned = ∅) (hsynced : Synced env s) :
    Walks surviving (Reopened s₀) ((contents.rows.filter contents.ownerIsStale).forM (clearStale env))
      s fun _ t => Loaded setup contents t.state.memory ∧ t.state.memory.owned = ∅ ∧
        Synced env t ∧ ∀ instanceId,
          t.state.memory.retained.row instanceId = contents.row instanceId ∨
            t.state.memory.retained.row instanceId = none ∧
              ∃ row, contents.row instanceId = some row ∧ contents.ownerIsStale row = true := by
  refine Walks.forM (fun owner howner t ht hR => ?_) hs
    ⟨hloaded, hempty, hsynced, fun instanceId => .inl (by rw [hcontents])⟩
  obtain ⟨hloaded, hempty, hsynced, hrows⟩ := hR
  obtain ⟨hmem, hstale⟩ := List.mem_filter.mp howner
  refine (persistRow_walks ht fun _ => rfl).weaken ?_
  rintro _ u - rfl
  refine ⟨⟨hloaded.config, hloaded.profiles, hloaded.records, hloaded.authority, hloaded.room⟩, ?_,
    hsynced.persisted rfl _, fun instanceId => ?_⟩
  · show t.state.memory.owned.erase owner.instanceId = ∅
    rw [hempty, ExtTreeMap.erase_empty]
  · have hrow : (t.state.memory.retained.removeOwnership owner.instanceId).row instanceId =
        if owner.instanceId = instanceId then none else t.state.memory.retained.row instanceId :=
      LifecycleContents.getElem?_removeOwnership
    by_cases hinstance : owner.instanceId = instanceId
    · rw [if_pos hinstance] at hrow
      refine .inr ⟨hrow, owner, ?_, hstale⟩
      rw [← hinstance]
      exact LifecycleContents.mem_rows.mp hmem
    · rw [if_neg hinstance] at hrow
      exact (hrows instanceId).imp hrow.trans (And.imp_left hrow.trans)

lemma operations_congr {a b : LifecycleContents} (h : a.records = b.records) :
    a.operations = b.operations := by
  rw [LifecycleContents.operations, LifecycleContents.operations, h]

/-- A candidate row is for the newest active operation of an instance without a row. -/
lemma repairs_of_candidate {contents listed : LifecycleContents}
    (hrecords : listed.records = contents.records) {row : LifecycleOwnership}
    (hrow : row ∈ listed.candidates) :
    listed.row row.instanceId = none ∧ contents.Repairs row := by
  obtain ⟨instanceId, -, hcandidate⟩ := List.mem_filterMap.mp hrow
  rw [LifecycleContents.candidate] at hcandidate
  split_ifs at hcandidate with hheld
  obtain ⟨operation, hlatest, hfound⟩ := Option.bind_eq_some_iff.mp hcandidate
  split_ifs at hfound with hactive
  obtain ⟨profileId, -, rfl⟩ := Option.map_eq_some_iff.mp hfound
  refine ⟨?_, operation, ?_, hactive, rfl, rfl, rfl⟩
  · rw [ExtTreeMap.contains_iff_mem] at hheld
    exact ExtTreeMap.getElem?_eq_none hheld
  · rw [LifecycleContents.latestAuthoritativeRecord, ← operations_congr hrecords]
    exact hlatest

/-- The newest active operations get their rows. -/
lemma candidates_walks {contents : LifecycleContents} {lifecycle : ProcessLifecycle}
    (hs : Reopened s₀ s) (hloaded : Loaded setup contents s.state.memory)
    (hlifecycle : s.state.memory = lifecycle) (hmirrors : Mirrors s.state.memory)
    (hsynced : Synced env s) :
    Walks surviving (Reopened s₀) (lifecycle.retained.candidates.forM (persistOwnership env)) s
      fun _ t => Loaded setup contents t.state.memory ∧ Mirrors t.state.memory ∧ Synced env t ∧
        (∀ instanceId row, lifecycle.retained.row instanceId = some row →
          t.state.memory.retained.row instanceId = some row) ∧
        ∀ instanceId row, t.state.memory.retained.row instanceId = some row →
          lifecycle.retained.row instanceId = some row ∨ contents.Repairs row := by
  refine Walks.forM (fun row hrow t ht hR => ?_) hs
    ⟨hloaded, hmirrors, hsynced, fun _ _ h => hlifecycle ▸ h, fun _ _ h => .inl (hlifecycle ▸ h)⟩
  obtain ⟨hloaded', hmirrors, hsynced, hkept, horigin⟩ := hR
  obtain ⟨hnone, hrepairs⟩ : lifecycle.retained.row row.instanceId = none ∧ contents.Repairs row :=
    repairs_of_candidate (hlifecycle ▸ hloaded.records) hrow
  refine (persistRow_walks ht fun _ => rfl).weaken ?_
  rintro _ u - rfl
  have hput : ∀ instanceId, (t.state.memory.retained.putOwnership row).row instanceId =
      if row.instanceId = instanceId then some row else t.state.memory.retained.row instanceId :=
    fun instanceId => LifecycleContents.getElem?_putOwnership
  refine ⟨⟨hloaded'.config, hloaded'.profiles, hloaded'.records, hloaded'.authority,
    hloaded'.room⟩, mirrors_own hmirrors row, hsynced.persisted rfl _, ?_, ?_⟩
  · intro instanceId found hfound
    have hne : row.instanceId ≠ instanceId := by
      rintro rfl
      rw [hnone] at hfound
      cases hfound
    exact (hput instanceId).trans ((if_neg hne).trans (hkept instanceId found hfound))
  · intro instanceId found hfound
    have hfound := (hput instanceId).symm.trans hfound
    split_ifs at hfound
    · exact .inr (Option.some.inj hfound ▸ hrepairs)
    · exact horigin instanceId found hfound

/-- **Rebuilding.**  What a coordinator knows that was rebuilt from its store. -/
theorem restore_walks (env : Environment) (setup : Setup) (s : CallState Coordinator Event) :
    Walks surviving (Reopened s) (restore env setup) s fun _ t =>
      Restored setup s.state.store t.state.memory ∧ Synced env t := by
  have hs := Reopened.refl s
  refine Walks.check_bind hs fun _ _ => Walks.check_bind hs fun _ _ => ?_
  refine (readStore_walks hs).bind ?_
  rintro _ t ht ⟨rfl, hstate⟩
  refine Walks.check_bind ht fun _ hroom => ?_
  refine (readStore_walks ht).bind ?_
  rintro _ u hu ⟨rfl, hstate'⟩
  refine (readStore_walks hu).bind ?_
  rintro _ v hv ⟨rfl, hstate''⟩
  rw [hstate', hstate]
  have hstore : v.state.store = s.state.store := by rw [hstate'', hstate', hstate]
  refine Walks.bind (R := fun _ w => w.state.memory =
    .load setup s.state.store.operations s.state.store.rows ∧ w.state.store = s.state.store)
    (.modifyState (hv.append rfl (List.append_nil _).symm (List.forall_mem_nil _)) ⟨rfl, hstore⟩)
    fun _ w hw hmemory => ?_
  obtain ⟨hmemory, hstored⟩ := hmemory
  have hretained : w.state.memory.retained = s.state.store := by
    rw [hmemory]
    exact load_retained setup s.state.store
  have hloaded : Loaded setup s.state.store w.state.memory :=
    { config := by rw [hmemory]; rfl
      profiles := by rw [hmemory]; rfl
      records := by rw [hretained]
      authority := by rw [hmemory]; rfl
      room := not_lt.mp (refuse_eq_ok.mp hroom) }
  have howned : w.state.memory.owned = ∅ := by
    rw [hmemory]
    rfl
  refine walks_memory_bind (Walks.check_bind hw fun _ _ => ?_)
  refine Walks.bind (R := fun _ x => Loaded setup s.state.store x.state.memory ∧
    x.state.memory.retained = s.state.store ∧ x.state.memory.owned = ∅ ∧
      x.state.store = s.state.store)
    (.modifyState (hw.append rfl (List.append_nil _).symm (List.forall_mem_nil _))
      ⟨⟨hloaded.config, hloaded.profiles, hloaded.records, hloaded.authority, hloaded.room⟩,
        hretained, howned, hstored⟩) ?_
  rintro _ x hx ⟨hloaded, hcontents, hempty, hunchanged⟩
  refine Walks.check_bind hx fun _ _ => ?_
  rw [hretained]
  have hsynced : Synced env x := fun _ => hcontents.trans hunchanged.symm
  refine (clearStale_walks hx hloaded hcontents hempty hsynced).bind ?_
  rintro _ y hy ⟨hloaded, hempty, hsynced, hrows⟩
  refine Walks.bind (R := fun _ z => Loaded setup s.state.store z.state.memory ∧
    Mirrors z.state.memory ∧ Synced env z ∧ z.state.memory.retained = y.state.memory.retained)
    (.modifyState (hy.append rfl (List.append_nil _).symm (List.forall_mem_nil _))
      ⟨⟨hloaded.config, hloaded.profiles, hloaded.records, hloaded.authority, hloaded.room⟩,
        mirrors_mirrorOwned hempty, hsynced, rfl⟩) ?_
  rintro _ z hz ⟨hloaded, hmirrors, hsynced, hcleared⟩
  refine walks_memory_bind ((candidates_walks hz hloaded rfl hmirrors hsynced).weaken ?_)
  rintro _ a - ⟨hloaded, hmirrors, hsynced, hkept, horigin⟩
  refine ⟨⟨hloaded, hmirrors, fun instanceId row hrow hstale => ?_, fun instanceId row hrow => ?_⟩,
    hsynced⟩
  · refine hkept instanceId row ?_
    rw [hcleared]
    rcases hrows instanceId with hsame | ⟨-, other, hother, hstale'⟩
    · rw [hsame, hrow]
    · rw [hrow] at hother
      rw [← Option.some.inj hother, hstale] at hstale'
      cases hstale'
  · rcases horigin instanceId row hrow with hold | hrepairs
    · rw [hcleared] at hold
      rcases hrows instanceId with hsame | ⟨hnone, -⟩
      · exact .inl (hsame ▸ hold)
      · rw [hnone] at hold
        cases hold
    · exact .inr hrepairs

/-- A rebuild leaves the records of the store, whether it succeeds or not. -/
lemma rebuilt_reopened (env : Environment) (setup : Setup) (system : System) :
    (rebuilt env setup system).store.records = system.store.records ∧
      ∃ more, (rebuilt env setup system).events = system.events ++ more ∧
        ∀ event ∈ more, ¬ event.Starts := by
  have h := restore_walks env setup (system.callState (.load setup [] []))
  unfold Walks After at h
  unfold rebuilt
  rcases hrun : (restore env setup).run (system.callState (.load setup [] [])) with
    ⟨_, t⟩ | ⟨⟨⟩ | error, t⟩
  · rw [hrun] at h
    exact ⟨h.1.stored, h.1.log⟩
  · rw [hrun] at h
    obtain ⟨u, hu, hsame⟩ := h
    have hstore : u.state.store = t.state.store := congrArg Prod.fst hsame
    have hevents : u.events = t.events := congrArg Prod.snd hsame
    dsimp only
    rw [← hstore, ← hevents]
    exact ⟨hu.stored, hu.log⟩
  · rw [hrun] at h
    exact ⟨h.stored, h.log⟩

/-- What a rebuilt coordinator knows. -/
lemma rebuilt_restored {env : Environment} {setup : Setup} {system : System}
    {memory : ProcessLifecycle} (h : (rebuilt env setup system).memory = some memory) :
    Restored setup system.store memory ∧
      (env.Atomic → memory.retained = (rebuilt env setup system).store) := by
  have hwalks := restore_walks env setup (system.callState (.load setup [] []))
  unfold Walks After at hwalks
  unfold rebuilt at h ⊢
  cases hrun : (restore env setup).run (system.callState (.load setup [] [])) with
  | ok _ t =>
    rw [hrun] at hwalks h
    obtain rfl := Option.some.inj h
    exact hwalks.2
  | error halt t =>
    rw [hrun] at h
    cases h

end Rebuild

end Sts2Gateway.Lifecycle
