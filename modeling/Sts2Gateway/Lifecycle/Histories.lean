/-
The records of the lifecycle coordinators over whole runs, over a store whose failing calls
leave it unchanged.

* `Agreement`, `agreement_run`: **after every call memory holds what the store holds**, it
  mirrors the processes of its rows, and its epochs are those of the records;
* `Evolves`, `records_evolve`: **records are never lost**: their identities stay, their epochs
  never fall, and one that is at its end stays as it is;
* `restarts_alike`: **a rebuilt coordinator has the same records and epochs**;
* `older_epoch_refused`: **a request under an epoch that has passed is refused** for ever.
-/
import Sts2Gateway.Lifecycle.Runs
import Sts2Gateway.Lifecycle.Stops

namespace Sts2Gateway.Lifecycle

open ControlPlane (InstanceId OperationId ProcessHandle Lease LeaseProof FenceFailure)
open Procedure Exchange Crash

/-! ### Agreement -/

/-- The epochs of records begin at one. -/
def LifecycleContents.Positive (contents : LifecycleContents) : Prop :=
  ∀ operation ∈ contents.operations, 1 ≤ operation.authorityEpoch

/-- Memory and store hold the same, memory mirrors its rows, and the current epochs are those of
the records. -/
structure Agreement (s : CallState Coordinator Event) : Prop where
  retained : s.state.memory.retained = s.state.store
  mirrors : Mirrors s.state.memory
  epochs : ∀ instanceId, s.state.store.HasEpoch instanceId
    (s.state.memory.currentAuthorityEpoch instanceId)
  positive : s.state.store.Positive

section Epochs

variable {contents : LifecycleContents} {old operation : LifecycleOperation}
  {instanceId : InstanceId} {epoch : AuthorityEpoch}

lemma mem_putRecord_self : operation ∈ (contents.putRecord operation).operations :=
  LifecycleContents.mem_operations.mpr (LifecycleContents.getElem?_putRecord.trans (if_pos rfl))

lemma mem_putRecord_other {other : LifecycleOperation} (h : other ∈ contents.operations)
    (hkey : operation.key ≠ other.key) : other ∈ (contents.putRecord operation).operations :=
  LifecycleContents.mem_operations.mpr (LifecycleContents.getElem?_putRecord.trans
    ((if_neg hkey).trans (LifecycleContents.mem_operations.mp h)))

lemma instanceId_of_key {a b : LifecycleOperation} (h : a.key = b.key) :
    a.instanceId = b.instanceId := congrArg (fun key => (ofLex key).1) h

/-- A record of an instance that reaches a new largest epoch. -/
lemma hasEpoch_put (h : contents.HasEpoch instanceId epoch)
    (hinstance : operation.instanceId = instanceId) (hle : epoch ≤ operation.authorityEpoch) :
    (contents.putRecord operation).HasEpoch instanceId operation.authorityEpoch where
  largest other hother hsame := by
    obtain rfl | hmem := mem_putRecord hother
    · exact le_rfl
    · exact (h.largest other hmem hsame).trans hle
  reached := .inl ⟨operation, mem_putRecord_self, hinstance, rfl⟩

/-- A record of another instance. -/
lemma hasEpoch_put_other (h : contents.HasEpoch instanceId epoch)
    (hinstance : operation.instanceId ≠ instanceId) :
    (contents.putRecord operation).HasEpoch instanceId epoch where
  largest other hother hsame := by
    obtain rfl | hmem := mem_putRecord hother
    · exact absurd hsame hinstance
    · exact h.largest other hmem hsame
  reached := by
    refine h.reached.imp ?_ (And.imp_right fun hnone other hother => ?_)
    · rintro ⟨found, hmem, hfound, hepoch⟩
      refine ⟨found, mem_putRecord_other hmem fun hkey => hinstance ?_, hfound, hepoch⟩
      rw [instanceId_of_key hkey, hfound]
    · obtain rfl | hmem := mem_putRecord hother
      · exact hinstance
      · exact hnone other hmem

/-- A record in the place of one with the same epoch. -/
lemma hasEpoch_replace (h : contents.HasEpoch instanceId epoch)
    (hold : contents.records[operation.key]? = some old)
    (hepoch : operation.authorityEpoch = old.authorityEpoch) :
    (contents.putRecord operation).HasEpoch instanceId epoch := by
  have hkey := contents.records_keyed _ _ hold
  have hmem : old ∈ contents.operations := LifecycleContents.mem_operations.mpr (hkey ▸ hold)
  by_cases hinstance : operation.instanceId = instanceId
  · have hsame : old.instanceId = instanceId := (instanceId_of_key hkey).trans hinstance
    refine ⟨fun other hother hother' => ?_, .inl ?_⟩
    · obtain rfl | hother := mem_putRecord hother
      · exact hepoch ▸ h.largest old hmem hsame
      · exact h.largest other hother hother'
    · rcases h.reached with ⟨found, hfound, hfound', hreached⟩ | ⟨-, hnone⟩
      · by_cases hthis : operation.key = found.key
        · have hsome := LifecycleContents.mem_operations.mp hfound
          rw [← hthis, hold] at hsome
          obtain rfl := Option.some.inj hsome
          exact ⟨operation, mem_putRecord_self, hinstance, hepoch.trans hreached⟩
        · exact ⟨found, mem_putRecord_other hfound hthis, hfound', hreached⟩
      · exact absurd hsame (hnone old hmem)
  · exact hasEpoch_put_other h hinstance

lemma positive_put (h : contents.Positive) (hepoch : 1 ≤ operation.authorityEpoch) :
    (contents.putRecord operation).Positive := by
  intro other hother
  obtain rfl | hmem := mem_putRecord hother
  · exact hepoch
  · exact h other hmem

lemma LifecycleContents.HasEpoch.positive (h : contents.HasEpoch instanceId epoch)
    (hpositive : contents.Positive) : 1 ≤ epoch := by
  rcases h.reached with ⟨found, hfound, -, rfl⟩ | ⟨rfl, -⟩
  · exact hpositive found hfound
  · exact le_rfl

end Epochs

section Steps

variable {env : Environment} {s₀ s t : CallState Coordinator Event}

/-- The current epochs after the one of an instance was set. -/
lemma currentAuthorityEpoch_set (lifecycle : ProcessLifecycle) (instanceId other : InstanceId)
    (epoch : AuthorityEpoch) :
    (lifecycle.setAuthorityEpoch instanceId epoch).currentAuthorityEpoch other =
      if instanceId = other then epoch else lifecycle.currentAuthorityEpoch other := by
  rw [ProcessLifecycle.currentAuthorityEpoch, ProcessLifecycle.setAuthorityEpoch]
  dsimp only
  rw [OrderedMap.getElem?_insert_if]
  split_ifs <;> rfl

/-- A record that memory and store get together. -/
lemma Agreement.put (h : Agreement s) {operation : LifecycleOperation}
    {f : ProcessLifecycle → ProcessLifecycle} {w : StoreWrite}
    (hw : w.apply s.state.store = s.state.store.putRecord operation)
    (hretained : (f s.state.memory).retained = s.state.memory.retained.putRecord operation)
    (howned : (f s.state.memory).owned = s.state.memory.owned)
    (hepochs : ∀ instanceId, (s.state.store.putRecord operation).HasEpoch instanceId
      ((f s.state.memory).currentAuthorityEpoch instanceId))
    (hepoch : 1 ≤ operation.authorityEpoch) (events : List Event) :
    Agreement ⟨s.state.persisted w f, events⟩ where
  retained := by
    show (f s.state.memory).retained = w.apply s.state.store
    rw [hretained, hw, h.retained]
  mirrors instanceId identity := by
    show (f s.state.memory).owned[instanceId]? = some identity ↔
      ∃ row, (f s.state.memory).retained.row instanceId = some row ∧ _
    rw [howned, hretained]
    exact h.mirrors instanceId identity
  epochs instanceId := by
    show (w.apply s.state.store).HasEpoch _ _
    rw [hw]
    exact hepochs instanceId
  positive := by
    show (w.apply s.state.store).Positive
    rw [hw]
    exact positive_put h.positive hepoch

/-- Rows that memory and store change together. -/
lemma Agreement.row (h : Agreement s) {f : ProcessLifecycle → ProcessLifecycle} {w : StoreWrite}
    (hretained : (f s.state.memory).retained = w.apply s.state.memory.retained)
    (hrecords : (w.apply s.state.store).records = s.state.store.records)
    (hmirrors : Mirrors (f s.state.memory))
    (hauthority : (f s.state.memory).authority = s.state.memory.authority) (events : List Event) :
    Agreement ⟨s.state.persisted w f, events⟩ where
  retained := hretained.trans (congrArg w.apply h.retained)
  mirrors := hmirrors
  epochs instanceId := by
    have hcurrent : (f s.state.memory).currentAuthorityEpoch instanceId =
        s.state.memory.currentAuthorityEpoch instanceId := by
      rw [ProcessLifecycle.currentAuthorityEpoch, hauthority]
      rfl
    have hoperations := operations_congr hrecords
    have hepoch := h.epochs instanceId
    refine ⟨?_, ?_⟩
    · show ∀ operation ∈ (w.apply s.state.store).operations, _ → _ ≤ _
      rw [hoperations]
      exact hcurrent ▸ hepoch.largest
    · show (∃ operation ∈ (w.apply s.state.store).operations, _) ∨
        _ ∧ ∀ operation ∈ (w.apply s.state.store).operations, _
      rw [hoperations]
      exact hcurrent ▸ hepoch.reached
  positive := by
    show ∀ operation ∈ (w.apply s.state.store).operations, _
    rw [operations_congr hrecords]
    exact h.positive

lemma agreement_step (hatomic : env.Atomic) (h : Agreement s) (hstep : CallStep env s₀ s t) :
    Agreement t := by
  cases hstep with
  | started => exact ⟨h.retained, h.mirrors, h.epochs, h.positive⟩
  | move hmove =>
    cases hmove with
    | asked => exact ⟨h.retained, h.mirrors, h.epochs, h.positive⟩
    | failed w outcome asked error failure =>
      have hkept : s.state.wrote w outcome = s.state := by
        cases outcome with
        | done => cases failure
        | refused => rfl
        | lost lost => exact absurd asked.symm (hatomic _ _ _ lost)
      rw [hkept]
      exact ⟨h.retained, h.mirrors, h.epochs, h.positive⟩
    | inserted operation admitted =>
      have hepoch : operation.authorityEpoch =
          s.state.memory.currentAuthorityEpoch operation.instanceId :=
        congrArg LifecycleOperation.authorityEpoch admitted.fresh
      refine h.put rfl rfl rfl (fun instanceId => ?_)
        (hepoch ▸ (h.epochs operation.instanceId).positive h.positive) _
      show (s.state.store.putRecord operation).HasEpoch instanceId
        (s.state.memory.currentAuthorityEpoch instanceId)
      by_cases hinstance : operation.instanceId = instanceId
      · rw [← hinstance, ← hepoch]
        exact hasEpoch_put (h.epochs operation.instanceId) rfl hepoch.symm.le
      · exact hasEpoch_put_other (h.epochs instanceId) hinstance
    | updated old operation puttable =>
      have hold : s.state.store.records[operation.key]? = some old := h.retained ▸ puttable.held
      have hmem : old ∈ s.state.store.operations := by
        refine LifecycleContents.mem_operations.mpr ?_
        rw [s.state.store.records_keyed _ _ hold]
        exact hold
      exact h.put rfl rfl rfl
        (fun instanceId => hasEpoch_replace (h.epochs instanceId) hold puttable.epoch)
        (puttable.epoch ▸ h.positive old hmem) _
    | rotated old operation held precedes current once epoch process =>
      have hraised : s.state.memory.currentAuthorityEpoch operation.instanceId ≤
          operation.authorityEpoch := by
        rw [← current, epoch]
        exact Nat.le_succ _
      refine h.put rfl rfl rfl (fun instanceId => ?_)
        (((h.epochs operation.instanceId).positive h.positive).trans hraised) _
      show (s.state.store.putRecord operation).HasEpoch instanceId
        ((s.state.memory.setAuthorityEpoch operation.instanceId
          operation.authorityEpoch).currentAuthorityEpoch instanceId)
      rw [currentAuthorityEpoch_set]
      split_ifs with hinstance
      · exact hasEpoch_put (h.epochs instanceId) hinstance (hinstance ▸ hraised)
      · exact hasEpoch_put_other (h.epochs instanceId) hinstance
    | confirmed instanceId =>
      refine ⟨h.retained, h.mirrors, fun other => ?_, h.positive⟩
      show s.state.store.HasEpoch other ((s.state.memory.setAuthorityEpoch instanceId
        (s.state.memory.currentAuthorityEpoch instanceId)).currentAuthorityEpoch other)
      rw [currentAuthorityEpoch_set]
      split_ifs with hinstance
      · exact hinstance ▸ h.epochs instanceId
      · exact h.epochs other
    | sequenced => exact ⟨h.retained, h.mirrors, h.epochs, h.positive⟩
    | owned row => exact h.row rfl rfl (mirrors_own h.mirrors row) rfl _
    | disowned row held => exact h.row rfl rfl (mirrors_disown h.mirrors row.instanceId) rfl _
    | unowned instanceId none_held =>
      refine ⟨h.retained, fun other identity => ?_, h.epochs, h.positive⟩
      show (s.state.memory.owned.erase instanceId)[other]? = some identity ↔ _
      rw [OrderedMap.getElem?_erase_if]
      split_ifs with hinstance
      · subst hinstance
        refine iff_of_false not_false ?_
        rintro ⟨row, hrow, -⟩
        have hrow : s.state.memory.retained.row instanceId = some row := hrow
        rw [none_held] at hrow
        cases hrow
      · exact h.mirrors other identity

end Steps

/-! ### Agreement over runs -/

section Runs

variable {env : Environment} {system : System}

lemma Agreement.bind {memory bound : ProcessLifecycle} {lease : Lease}
    (h : Agreement (system.callState memory)) (hbound : memory.bindLease lease = .ok bound) :
    Agreement (system.callState bound) := by
  rw [ProcessLifecycle.bindLease] at hbound
  split_ifs at hbound
  obtain rfl := Except.ok.inj hbound
  refine ⟨h.retained, h.mirrors, fun instanceId => ?_, h.positive⟩
  have hepoch := h.epochs instanceId
  cases hauthority : memory.authority[lease.instanceId]? with
  | some epoch => simpa only [System.callState, ProcessLifecycle.currentAuthorityEpoch] using hepoch
  | none =>
    have hsame : (memory.setAuthorityEpoch lease.instanceId 1).currentAuthorityEpoch instanceId =
        memory.currentAuthorityEpoch instanceId := by
      rw [currentAuthorityEpoch_set]
      split_ifs with hinstance
      · rw [ProcessLifecycle.currentAuthorityEpoch, ← hinstance, hauthority]
        rfl
      · rfl
    show system.store.HasEpoch instanceId
      ((memory.setAuthorityEpoch lease.instanceId 1).currentAuthorityEpoch instanceId)
    rw [hsame]
    exact hepoch

/-- A rebuild that succeeded gives an agreeing coordinator. -/
lemma agreement_rebuilt (hatomic : env.Atomic) {setup : Setup} {memory : ProcessLifecycle}
    (hpositive : system.store.Positive)
    (hmemory : (rebuilt env setup system).memory = some memory) :
    Agreement ((rebuilt env setup system).callState memory) := by
  obtain ⟨hrestored, hsynced⟩ := rebuilt_restored hmemory
  obtain ⟨hrecords, -⟩ := rebuilt_reopened env setup system
  have hoperations := operations_congr hrecords
  refine ⟨hsynced hatomic, hrestored.mirrors, fun instanceId => ?_, ?_⟩
  · have hepoch := load_epoch system.store instanceId
    refine ⟨?_, ?_⟩
    · show ∀ operation ∈ (rebuilt env setup system).store.operations, _ →
        _ ≤ memory.authority[instanceId]?.getD 1
      rw [hoperations, hrestored.authority]
      exact hepoch.largest
    · show (∃ operation ∈ (rebuilt env setup system).store.operations, _ ∧
          _ = memory.authority[instanceId]?.getD 1) ∨ memory.authority[instanceId]?.getD 1 = 1 ∧
        ∀ operation ∈ (rebuilt env setup system).store.operations, _
      rw [hoperations, hrestored.authority]
      exact hepoch.reached
  · show ∀ operation ∈ (rebuilt env setup system).store.operations, _
    rw [hoperations]
    exact hpositive

/-- A system whose coordinator, while there is one, agrees with its store. -/
abbrev Agrees (system : System) : Prop :=
  system.Holds (fun contents _ => contents.Positive) Agreement

/-- **Agreement.**  After every call memory holds what the store holds, mirrors the processes
of its rows, and has the epochs of the records. -/
theorem agreement_run (hatomic : env.Atomic) (hsystem : Agrees system) (steps : List Step) :
    Agrees (run env system steps) := by
  refine holds_run env _ _ (fun s hs => hs.positive)
    (fun _ _ _ _ _ hs hstep => agreement_step hatomic hs hstep)
    (fun _ _ _ _ hs hbound => hs.bind hbound) (fun setup system hpositive => ?_) hsystem steps
  refine ⟨?_, fun memory hmemory => agreement_rebuilt hatomic hpositive hmemory⟩
  rw [LifecycleContents.Positive, operations_congr (rebuilt_reopened env setup system).1]
  exact hpositive

lemma agrees_start : Agrees start :=
  holds_start fun operation hmem => by
    rw [LifecycleContents.mem_operations] at hmem
    exact absurd hmem (by simp [LifecycleContents.empty])

/-! ### Histories of records -/

/-- Every record is still there, or a later one of the same operation. -/
def Evolves (earlier later : LifecycleContents) : Prop :=
  ∀ (key : LifecycleRecordKey) (old : LifecycleOperation), earlier.records[key]? = some old →
    ∃ new, later.records[key]? = some new ∧ old.Precedes new

lemma Evolves.refl (contents : LifecycleContents) : Evolves contents contents :=
  fun _ old hold => ⟨old, hold, .refl old⟩

lemma Evolves.trans {a b c : LifecycleContents} (hab : Evolves a b) (hbc : Evolves b c) :
    Evolves a c := by
  intro key old hold
  obtain ⟨mid, hmid, hprecedes⟩ := hab key old hold
  obtain ⟨new, hnew, hlater⟩ := hbc key mid hmid
  exact ⟨new, hnew, hprecedes.trans hlater⟩

lemma evolves_of_records {a b : LifecycleContents} (h : b.records = a.records) : Evolves a b :=
  fun key old hold => ⟨old, by rw [h]; exact hold, .refl old⟩

/-- A record that takes the place of none, or of one that it may follow. -/
lemma evolves_put {contents : LifecycleContents} {operation : LifecycleOperation}
    (h : ∀ old, contents.records[operation.key]? = some old → old.Precedes operation) :
    Evolves contents (contents.putRecord operation) := by
  intro key old hold
  by_cases hkey : operation.key = key
  · subst hkey
    exact ⟨operation, LifecycleContents.getElem?_putRecord.trans (if_pos rfl), h old hold⟩
  · exact ⟨old, LifecycleContents.getElem?_putRecord.trans ((if_neg hkey).trans hold), .refl old⟩

lemma evolves_step {s₀ s t : CallState Coordinator Event} (hatomic : env.Atomic) (h : Agreement s)
    (hstep : CallStep env s₀ s t) : Evolves s.state.store t.state.store := by
  have hsome : ∀ {key : LifecycleRecordKey} {operation : LifecycleOperation},
      s.state.memory.retained.records[key]? = some operation →
      ∀ old, s.state.store.records[key]? = some old → old = operation := by
    intro key operation hheld old hold
    rw [h.retained, hold] at hheld
    exact Option.some.inj hheld
  cases hstep with
  | started => exact .refl _
  | move hmove =>
    cases hmove with
    | failed w outcome asked error failure =>
      cases outcome with
      | done => cases failure
      | refused => exact .refl _
      | lost lost => exact absurd asked.symm (hatomic _ _ _ lost)
    | inserted operation admitted =>
      refine evolves_put fun old hold => ?_
      have habsent := admitted.absent
      rw [h.retained, hold] at habsent
      cases habsent
    | updated old operation puttable =>
      exact evolves_put fun found hfound => hsome puttable.held found hfound ▸ puttable.precedes
    | rotated old operation held precedes =>
      exact evolves_put fun found hfound => hsome held found hfound ▸ precedes
    | owned row => exact evolves_of_records rfl
    | disowned row => exact evolves_of_records rfl
    | _ => exact .refl _

/-- What the records of a run become over a later one. -/
lemma evolves_run (hatomic : env.Atomic) (hsystem : Agrees system) (steps : List Step) :
    Evolves system.store (run env system steps).store := by
  have hholds : (run env system steps).Holds
      (fun contents _ => contents.Positive ∧ Evolves system.store contents)
      fun s => Agreement s ∧ Evolves system.store s.state.store := by
    refine holds_run env _ _ (fun s hs => ⟨hs.1.positive, hs.2⟩)
      (fun s₀ s t _ _ hs hstep => ⟨agreement_step hatomic hs.1 hstep,
        hs.2.trans (evolves_step hatomic hs.1 hstep)⟩)
      (fun _ _ _ _ hs hbound => ⟨hs.1.bind hbound, hs.2⟩) (fun setup later hlater => ?_)
      ⟨⟨hsystem.durable, .refl _⟩, fun memory hmemory => ⟨hsystem.live memory hmemory, .refl _⟩⟩ steps
    have hrecords := (rebuilt_reopened env setup later).1
    have hevolves := hlater.2.trans (evolves_of_records hrecords)
    refine ⟨⟨?_, hevolves⟩, fun memory hmemory =>
      ⟨agreement_rebuilt hatomic hlater.1 hmemory, hevolves⟩⟩
    rw [LifecycleContents.Positive, operations_congr hrecords]
    exact hlater.1
  exact hholds.durable.2

end Runs

lemma run_append (env : Environment) (system : System) (steps more : List Step) :
    run env system (steps ++ more) = run env (run env system steps) more :=
  Machine.run_append steps more

namespace Sample

def profile : LaunchProfile where
  id := 1
  executable := { installId := 1, executableId := 1, imageId := 1 }
  userData := { namespaceId := 1 }
  policy := { maxDescendants := 0, startTimeoutMillis := 1000, stopTimeoutMillis := 1000 }

def profiles : ApprovedLaunchProfiles where
  profiles := (∅ : Std.ExtTreeMap LaunchProfileId LaunchProfile compare).insert 1 profile
  keyed id found h := by
    rw [OrderedMap.getElem?_insert_if] at h
    split_ifs at h with hid
    · exact Option.some.inj h ▸ hid
    · rw [Std.ExtTreeMap.getElem?_empty] at h
      cases h

/-- The process of a handle. -/
def process (handle : ProcessHandle) : ProcessIdentity where
  instanceId := 1
  process := handle
  pid := handle
  birthId := handle
  executable := some profile.executable
  userData := some profile.userData

/-- Processes that run until they are stopped, over the store in memory. -/
def world : Environment where
  now _ := 0
  checkFence _ _ _ _ _ := .ok ()
  inspectIdentity _ handle := .ok (process handle)
  inspect log handle :=
    if .stopped handle .force (.ok ()) ∈ log then .ok (.exited none) else .ok .running
  descendants _ _ := .ok []
  stop _ _ _ := .ok ()
  startGeneration _ generation _ _ := .ok ⟨process generation.sequence⟩
  recoverGeneration _ _ _ := .error .inspectionFailed
  readFailure _ := none
  write _ contents w := inMemoryOutcome contents w
  crashes _ := false

def setup : Setup where
  config := { maxProcesses := 2, maxRecords := 8 }
  profiles := profiles
  profileCapacity := 4

def lease : Lease where
  instanceId := 1
  callerId := 1
  sessionId := 1
  leaseId := 1
  epoch := 1
  expiresAt := 100

def request (operationId : OperationId) (action : LifecycleAction) : LifecycleRequest where
  operationId := operationId
  instanceId := 1
  lease := lease.proof
  authorityEpoch := 1
  action := action

/-- A launch. -/
def launched : List Step :=
  [.rebuild setup, .bindLease lease, .call (.apply (request 7 (.launchNew 1)))]

/-- A restart of its process, under the next epoch. -/
def restarted : List Step := [.call (.apply (request 8 (.restart 1)))]

/-- A second coordinator over the same store. -/
def rebuilt : List Step := [.rebuild setup, .bindLease lease]

lemma world_atomic : world.Atomic := by
  intro log contents w error
  show inMemoryOutcome contents w ≠ _
  rw [inMemoryOutcome]
  split
  · exact StoreOutcome.noConfusion
  · exact StoreOutcome.noConfusion

end Sample

/-- **Records.**  Over any calls, crashes and rebuilds, no record is lost: it keeps its lease,
its sequence, its action and the epoch of its request, its own epoch never falls, and once it
is stopped, failed or rejected it stays as it is. -/
theorem records_evolve (env : Environment) (hatomic : env.Atomic) (steps more : List Step) :
    Evolves (run env start steps).store (run env start (steps ++ more)).store := by
  rw [run_append]
  exact evolves_run hatomic (agreement_run hatomic agrees_start steps) more

theorem records_evolve_sample :
    (run Sample.world start Sample.launched).store.operations.map (·.process) =
      [some (Sample.process 1)] ∧
    Evolves (run Sample.world start Sample.launched).store
      (run Sample.world start (Sample.launched ++ Sample.restarted)).store :=
  ⟨by decide +kernel, records_evolve Sample.world Sample.world_atomic _ _⟩

/-! ### Rebuilds -/

/-- A rebuilt coordinator, against the one before. -/
structure RebuildsTo (memory other : ProcessLifecycle) : Prop where
  records : other.retained.records = memory.retained.records
  epochs : ∀ instanceId,
    other.currentAuthorityEpoch instanceId = memory.currentAuthorityEpoch instanceId
  mirrors : Mirrors other
  kept : ∀ instanceId row, memory.retained.row instanceId = some row →
    memory.retained.ownerIsStale row = false → other.retained.row instanceId = some row
  origin : ∀ instanceId row, other.retained.row instanceId = some row →
    memory.retained.row instanceId = some row ∨ memory.retained.Repairs row

/-- Memory is what the store holds, and a coordinator rebuilt from the store is the same again,
but for its rows: the stale ones may go, and the newest active operations may get one. -/
def RestartsAlike (env : Environment) (system : System) : Prop :=
  ∀ memory, system.memory = some memory → memory.retained = system.store ∧ Mirrors memory ∧
    ∀ setup other, (rebuilt env setup system).memory = some other → RebuildsTo memory other

/-- **Restarts.**  So it is after every run over a store whose failing calls leave it unchanged. -/
theorem restarts_alike (env : Environment) (hatomic : env.Atomic) (steps : List Step) :
    RestartsAlike env (run env start steps) := by
  intro memory hmemory
  have hagrees := agreement_run hatomic agrees_start steps
  have hlive := hagrees.live memory hmemory
  have hretained : memory.retained = (run env start steps).store := hlive.retained
  refine ⟨hretained, hlive.mirrors, fun setup other hother => ?_⟩
  have hrestored := (rebuilt_restored hother).1
  rw [← hretained] at hrestored
  refine ⟨hrestored.records, fun instanceId => ?_, hrestored.mirrors, hrestored.kept,
    hrestored.origin⟩
  have hepoch := load_epoch memory.retained instanceId
  rw [← hrestored.authority] at hepoch
  have hcurrent : memory.retained.HasEpoch instanceId (memory.currentAuthorityEpoch instanceId) :=
    hretained ▸ hlive.epochs instanceId
  exact hepoch.unique hcurrent

theorem restarts_alike_sample :
    RestartsAlike Sample.world (run Sample.world start (Sample.launched ++ Sample.restarted)) :=
  restarts_alike Sample.world Sample.world_atomic _

/-! ### Older requests -/

/-- The epoch that a caller presents. -/
def Call.authorityEpoch : Call → AuthorityEpoch
  | .apply request => request.authorityEpoch
  | .reconcile _ authorityEpoch _ => authorityEpoch

def Event.ChecksFence : Event → Prop
  | .checkedFence _ _ _ => True
  | _ => False

/-- A call that does nothing but to ask whether the lease of its caller holds. -/
structure Refused {α : Type} (s : CallState Coordinator Event)
    (r : Except (Halt LifecycleError) α) (t : CallState Coordinator Event) : Prop where
  no_response : ∀ response, r ≠ .ok response
  unchanged : t.state = s.state
  asked : ∃ asked, t.events = s.events ++ asked ∧ ∀ event ∈ asked, event.ChecksFence

lemma authenticate_refused {env : Environment} {α : Type} {s : CallState Coordinator Event}
    {instanceId : InstanceId} {proof : LeaseProof} {epoch : AuthorityEpoch}
    (holder : s.state.memory.currentAuthorityEpoch instanceId ≠ epoch) (p : Unit → LifecycleM α) :
    After (authenticate env instanceId proof epoch >>= p) s (Refused s) := by
  have hquiet : ∀ e, Refused s (.error e : Except (Halt LifecycleError) α) s := fun e =>
    ⟨fun response h => (by cases h), rfl, [], (List.append_nil _).symm, List.forall_mem_nil _⟩
  rw [after_bind, authenticate, after_bind, memory, after_map, after_getState]
  dsimp only [Except.map]
  rw [after_bind]
  refine after_check (fun lease _ => ?_) fun e _ => hquiet _
  dsimp only
  rw [after_bind]
  refine after_interact (hquiet _) ?_
  dsimp only
  have hasked : ∀ (e : Halt LifecycleError) answer, Refused s (.error e : Except _ α)
      ⟨s.state, s.events ++ [.checkedFence instanceId proof answer]⟩ := fun e answer =>
    ⟨fun response h => (by cases h), rfl, _, rfl, List.forall_mem_singleton.mpr trivial⟩
  rw [after_bind]
  refine after_check (fun _ _ => ?_) fun e _ => hasked _ _
  dsimp only
  refine after_check (fun _ hpassed => ?_) fun e _ => hasked _ _
  exact absurd (not_not.mp (refuse_eq_ok.mp hpassed)) holder

/-- **Epochs.**  The epoch of an instance never falls, not even over crashes and rebuilds: once
its records have reached one, every call that presents an older one is refused, and changes
nothing. -/
theorem older_epoch_refused (env : Environment) (hatomic : env.Atomic) (steps more : List Step)
    (call : Call) (epoch : AuthorityEpoch)
    (hepoch : (run env start steps).store.HasEpoch call.instanceId epoch)
    (holder : call.authorityEpoch < epoch) (memory : ProcessLifecycle)
    (hmemory : (run env start (steps ++ more)).memory = some memory) :
    After (call.run env) ((run env start (steps ++ more)).callState memory)
      (Refused ((run env start (steps ++ more)).callState memory)) := by
  have hlive := (agreement_run hatomic agrees_start (steps ++ more)).live memory hmemory
  have hcurrent := hlive.epochs call.instanceId
  have hreached : epoch ≤ memory.currentAuthorityEpoch call.instanceId := by
    rcases hepoch.reached with ⟨old, hold, hinstance, rfl⟩ | ⟨rfl, -⟩
    · obtain ⟨new, hnew, hprecedes⟩ := records_evolve env hatomic steps more old.key old
        (LifecycleContents.mem_operations.mp hold)
      have hmem : new ∈ (run env start (steps ++ more)).store.operations :=
        LifecycleContents.mem_operations.mpr (hprecedes.key ▸ hnew)
      exact hprecedes.epoch.trans (hcurrent.largest new hmem (hprecedes.instanceId.trans hinstance))
    · exact hcurrent.positive hlive.positive
  have hne : memory.currentAuthorityEpoch call.instanceId ≠ call.authorityEpoch :=
    (holder.trans_le hreached).ne'
  cases call with
  | apply request => exact authenticate_refused hne _
  | reconcile lease authorityEpoch operationId => exact authenticate_refused hne _

/-- A stop under the first epoch, when a restart has taken the next one and the coordinator was rebuilt. -/
theorem older_epoch_refused_sample :
    ∃ memory, (run Sample.world start (Sample.launched ++ Sample.restarted ++ Sample.rebuilt)).memory =
        some memory ∧
      After ((Call.apply (Sample.request 9 (.stop .force))).run Sample.world)
        ((run Sample.world start (Sample.launched ++ Sample.restarted ++ Sample.rebuilt)).callState memory)
        (Refused ((run Sample.world start (Sample.launched ++ Sample.restarted ++ Sample.rebuilt)).callState
          memory)) := by
  have hbuilt : (run Sample.world start
      (Sample.launched ++ Sample.restarted ++ Sample.rebuilt)).memory.isSome = true := by decide +kernel
  obtain ⟨memory, hmemory⟩ := Option.isSome_iff_exists.mp hbuilt
  have hlargest : ∀ operation ∈ (run Sample.world start
      (Sample.launched ++ Sample.restarted)).store.operations,
      operation.instanceId = 1 → operation.authorityEpoch ≤ 2 := by decide +kernel
  have hreached : ∃ operation ∈ (run Sample.world start
      (Sample.launched ++ Sample.restarted)).store.operations,
      operation.instanceId = 1 ∧ operation.authorityEpoch = 2 := by decide +kernel
  exact ⟨memory, hmemory, older_epoch_refused Sample.world Sample.world_atomic
    (Sample.launched ++ Sample.restarted) _ (.apply (Sample.request 9 (.stop .force))) 2 ⟨hlargest, .inl hreached⟩ (by decide) memory
    hmemory⟩

end Sts2Gateway.Lifecycle
