/-
The limit on the records of a lifecycle coordinator.

* `Roomy`, `roomy_step`: memory never holds more records than its configuration allows;
* `Within`, `within_next`: neither does the store, while the coordinator that was built with the
  configuration is called, and after it has crashed;
* `records_leave_room`: **a coordinator never locks itself out**: from its rebuild on, the store
  holds no more records than a rebuild with the same configuration accepts.
-/
import Mathlib.Tactic
import Sts2Gateway.Lifecycle.Histories

namespace Sts2Gateway.Lifecycle

open Procedure Exchange Crash
open Std (ExtTreeMap)

/-! ### Calls -/

/-- Memory holds no more records than it may. -/
def Roomy (s : CallState Coordinator Event) : Prop :=
  s.state.memory.retained.records.size ≤ s.state.memory.config.maxRecords

section Calls

variable {env : Environment} {s₀ s t : CallState Coordinator Event}

lemma size_putRecord_le (contents : LifecycleContents) (operation : LifecycleOperation) :
    (contents.putRecord operation).records.size ≤ contents.records.size + 1 :=
  ExtTreeMap.size_insert_le

/-- A record in the place of another one takes no more room. -/
lemma size_putRecord_of_held {contents : LifecycleContents} {old operation : LifecycleOperation}
    (hold : contents.records[operation.key]? = some old) :
    (contents.putRecord operation).records.size = contents.records.size := by
  have hmem : operation.key ∈ contents.records := by
    rw [OrderedMap.mem_iff_getElem?_ne_none, hold]
    exact Option.some_ne_none old
  show (contents.records.insert operation.key operation).size = contents.records.size
  rw [ExtTreeMap.size_insert, if_pos (ExtTreeMap.contains_iff_mem.mpr hmem)]

/-- The configuration of a coordinator never changes. -/
lemma config_step (h : CallStep env s₀ s t) :
    t.state.memory.config = s.state.memory.config := by
  cases h with
  | started => rfl
  | move hmove => cases hmove <;> rfl

/-- **A step of a call keeps the limit.**  Only an admission adds a record, and it asks for room. -/
lemma roomy_step (h : Roomy s) (hstep : CallStep env s₀ s t) : Roomy t := by
  cases hstep with
  | started => exact h
  | move hmove =>
    cases hmove with
    | inserted operation admitted =>
      exact (size_putRecord_le s.state.memory.retained operation).trans admitted.room
    | updated old operation puttable => exact (size_putRecord_of_held puttable.held).le.trans h
    | rotated old operation held => exact (size_putRecord_of_held held).le.trans h
    | _ => exact h

end Calls

/-! ### Runs -/

/-- The steps other than to build a coordinator. -/
def Step.keepsSetup : Step → Bool
  | .rebuild _ => false
  | .bindLease _ | .call _ => true

/-- Store and memory hold no more records than the limit of the coordinator. -/
structure Within (limit : ℕ) (system : System) : Prop where
  stored : system.store.records.size ≤ limit
  live : ∀ memory, system.memory = some memory → Agreement (system.callState memory) ∧
    Roomy (system.callState memory) ∧ memory.config.maxRecords = limit

section Runs

variable {env : Environment} {limit : ℕ} {system : System}

/-- What a call keeps of the limit, even when it ends in a crash. -/
lemma within_path (hatomic : env.Atomic) {s t : CallState Coordinator Event} (hpath : Path env s t)
    (hagreement : Agreement s) (hroomy : Roomy s)
    (hlimit : s.state.memory.config.maxRecords = limit) :
    Agreement t ∧ Roomy t ∧ t.state.memory.config.maxRecords = limit := by
  refine hpath.keeps
    (I := fun u => Agreement u ∧ Roomy u ∧ u.state.memory.config.maxRecords = limit)
    ⟨hagreement, hroomy, hlimit⟩ ?_
  rintro u v - ⟨hu, hroom, hconfig⟩ hstep
  refine ⟨agreement_step hatomic hu hstep, roomy_step hroom hstep, ?_⟩
  rw [config_step hstep]
  exact hconfig

lemma within_next (hatomic : env.Atomic) (h : Within limit system) {step : Step}
    (hstep : step.keepsSetup = true) : Within limit (next env system step) := by
  cases step with
  | rebuild setup => cases hstep
  | bindLease lease =>
    refine ⟨h.stored, fun memory hmemory => ?_⟩
    obtain ⟨old, hold, rfl⟩ := Option.map_eq_some_iff.mp hmemory
    obtain ⟨hagreement, hroomy, hlimit⟩ := h.live old hold
    cases hbound : old.bindLease lease with
    | error e => exact ⟨hagreement, hroomy, hlimit⟩
    | ok bound =>
      refine ⟨hagreement.bind hbound, ?_⟩
      rw [ProcessLifecycle.bindLease] at hbound
      split_ifs at hbound
      obtain rfl := Except.ok.inj hbound
      exact ⟨hroomy, hlimit⟩
  | call call =>
    cases hmemory : system.memory with
    | none =>
      rw [next, hmemory]
      exact h
    | some memory =>
      obtain ⟨hagreement, hroomy, hlimit⟩ := h.live memory hmemory
      obtain ⟨t, hpath, hstore, hevents, hlive⟩ := next_call hmemory env call
      obtain ⟨hend, hroom, hconfig⟩ := within_path hatomic hpath hagreement hroomy hlimit
      constructor
      · rw [hstore, ← hend.retained, ← hconfig]
        exact hroom
      · intro m hm
        have hstate : (next env system (.call call)).callState m = t := by
          rw [System.callState, hstore, hevents, hlive m hm]
        rw [hstate, hlive m hm]
        exact ⟨hend, hroom, hconfig⟩

/-- A coordinator that was built is within the limit of its setup. -/
lemma within_rebuilt (hatomic : env.Atomic) {setup : Setup} (hpositive : system.store.Positive)
    (hbuilt : (rebuilt env setup system).memory.isSome = true) :
    Within setup.config.maxRecords (rebuilt env setup system) := by
  obtain ⟨memory, hmemory⟩ := Option.isSome_iff_exists.mp hbuilt
  obtain ⟨hrestored, -⟩ := rebuilt_restored hmemory
  constructor
  · rw [(rebuilt_reopened env setup system).1]
    exact hrestored.room
  · intro other hother
    obtain rfl := Option.some.inj (hmemory.symm.trans hother)
    refine ⟨agreement_rebuilt hatomic hpositive hmemory, ?_, by rw [hrestored.config]⟩
    show memory.retained.records.size ≤ memory.config.maxRecords
    rw [hrestored.records, hrestored.config]
    exact hrestored.room

end Runs

/-- **A coordinator never locks itself out.**  After it was built, over any calls and crashes, a
store whose failing calls leave it unchanged holds no more records than its setup accepts. -/
theorem records_leave_room (env : Environment) (hatomic : env.Atomic) (steps : List Step)
    (setup : Setup) (calls : List Step)
    (hbuilt : (rebuilt env setup (run env start steps)).memory.isSome = true)
    (hcalls : ∀ step ∈ calls, step.keepsSetup = true) :
    (run env start (steps ++ .rebuild setup :: calls)).store.records.size ≤
      setup.config.maxRecords := by
  have hwithin : ∀ (calls : List Step) (system : System), Within setup.config.maxRecords system →
      (∀ step ∈ calls, step.keepsSetup = true) →
      Within setup.config.maxRecords (run env system calls) := by
    intro calls
    induction calls with
    | nil => exact fun _ h _ => h
    | cons step calls ih =>
      intro system h hkeeps
      exact ih _ (within_next hatomic h (hkeeps step List.mem_cons_self)) fun later hmem =>
        hkeeps later (List.mem_cons_of_mem step hmem)
  have hpositive := (agreement_run hatomic agrees_start steps).durable
  rw [run_append]
  exact (hwithin calls _ (within_rebuilt hatomic hpositive hbuilt) hcalls).stored

theorem records_leave_room_sample :
    (run Sample.world start ([] ++ .rebuild Sample.setup ::
      ([.bindLease Sample.lease, .call (.apply (Sample.request 7 (.launchNew 1)))] ++
        Sample.restarted))).store.records.size ≤ Sample.setup.config.maxRecords :=
  records_leave_room Sample.world Sample.world_atomic [] Sample.setup _ (by decide +kernel)
    (by decide)

end Sts2Gateway.Lifecycle
