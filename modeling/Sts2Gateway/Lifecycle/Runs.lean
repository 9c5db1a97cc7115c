/-
Runs of lifecycle coordinators over one store.

* `Move.log`, `Move.remembered_mono`, `Move.stored_mono`: what every move adds to the log, and
  the records that it keeps;
* `next_call`: a call at the level of a system;
* `System.Holds`, `holds_run`: **what every step of a call keeps and every rebuild gives back
  holds in every run**, whatever the store, the ports and the crashes do.
-/
import Sts2Gateway.Lifecycle.CallPaths
import Sts2Gateway.Lifecycle.Rebuilding

namespace Sts2Gateway.Lifecycle

open ControlPlane (InstanceId OperationId Lease)
open Procedure Exchange Crash

variable {env : Environment} {s₀ s t : CallState Coordinator Event}

/-! ### Moves -/

/-- A move starts nothing. -/
lemma Move.log (h : Move env s₀ s t) :
    t.events = s.events ∨ ∃ event, t.events = s.events ++ [event] ∧ ¬ event.Starts := by
  cases h with
  | asked event asks => exact .inr ⟨event, rfl, asks.plain.not_starts⟩
  | confirmed | sequenced | unowned => exact .inl rfl
  | _ => exact .inr ⟨_, rfl, not_false⟩

lemma mem_putRecord_of_mem {contents : LifecycleContents} {operation : LifecycleOperation}
    {key : LifecycleRecordKey} (h : key ∈ contents.records) :
    key ∈ (contents.putRecord operation).records := by
  rw [OrderedMap.mem_iff_getElem?_ne_none, LifecycleContents.getElem?_putRecord]
  split_ifs
  · exact Option.some_ne_none operation
  · exact OrderedMap.mem_iff_getElem?_ne_none.mp h

/-- No record is removed, from memory or from the store. -/
lemma Move.remembered_mono (h : Move env s₀ s t) {key : LifecycleRecordKey}
    (hkey : key ∈ s.state.memory.retained.records) : key ∈ t.state.memory.retained.records := by
  cases h with
  | inserted | updated | rotated => exact mem_putRecord_of_mem hkey
  | _ => exact hkey

lemma StoreWrite.apply_mono {w : StoreWrite} {contents : LifecycleContents}
    {key : LifecycleRecordKey} (hkey : key ∈ contents.records) :
    key ∈ (w.apply contents).records := by
  cases w with
  | insert | update => exact mem_putRecord_of_mem hkey
  | setOwnership | clearOwnershipIf => exact hkey

lemma Move.stored_mono (h : Move env s₀ s t) {key : LifecycleRecordKey}
    (hkey : key ∈ s.state.store.records) : key ∈ t.state.store.records := by
  cases h with
  | failed w outcome =>
    show key ∈ (s.state.wrote w outcome).store.records
    rw [Coordinator.wrote]
    split_ifs
    · exact StoreWrite.apply_mono hkey
    · exact hkey
  | inserted | updated | rotated => exact mem_putRecord_of_mem hkey
  | _ => exact hkey

/-! ### Calls -/

/-- A call leaves what some state on its path leaves; its memory is that of the state, unless
the coordinator crashed. -/
lemma next_call {system : System} {memory : ProcessLifecycle} (hmemory : system.memory = some memory)
    (env : Environment) (call : Call) :
    ∃ t, Path env (system.callState memory) t ∧
      (next env system (.call call)).store = t.state.store ∧
      (next env system (.call call)).events = t.events ∧
      ∀ m, (next env system (.call call)).memory = some m → m = t.state.memory := by
  have h := call_walks env call (system.callState memory)
  unfold WalksFrom Walks After at h
  rw [next, hmemory]
  dsimp only
  rcases hrun : (call.run env).run (system.callState memory) with ⟨_, t⟩ | ⟨⟨⟩ | error, t⟩
  · rw [hrun] at h
    exact ⟨t, h.1, rfl, rfl, fun m hm => (Option.some.inj hm).symm⟩
  · rw [hrun] at h
    obtain ⟨u, hu, hsame⟩ := h
    exact ⟨u, hu, (congrArg Prod.fst hsame).symm, (congrArg Prod.snd hsame).symm,
      fun m hm => by cases hm⟩
  · rw [hrun] at h
    exact ⟨t, h, rfl, rfl, fun m hm => (Option.some.inj hm).symm⟩

/-- What a step of a call keeps holds along its path. -/
lemma Path.keeps {I : CallState Coordinator Event → Prop} (hs : Path env s₀ s) (hbegan : I s₀)
    (hstep : ∀ s t, Path env s₀ s → I s → CallStep env s₀ s t → I t) : I s := by
  induction hs with
  | refl => exact hbegan
  | tail hpath hnext ih => exact hstep _ _ hpath ih hnext

/-! ### Runs -/

/-- What holds of the store and the log, and of memory while there is a coordinator. -/
structure System.Holds (durable : LifecycleContents → List Event → Prop)
    (live : CallState Coordinator Event → Prop) (system : System) : Prop where
  durable : durable system.store system.events
  live : ∀ memory, system.memory = some memory → live (system.callState memory)

/-- **Runs.**  What every step of a call keeps and every rebuild gives back holds in every
run. -/
theorem holds_run (env : Environment) (durable : LifecycleContents → List Event → Prop)
    (live : CallState Coordinator Event → Prop)
    (hdrop : ∀ s, live s → durable s.state.store s.events)
    (hstep : ∀ s₀ s t, live s₀ → Path env s₀ s → live s → CallStep env s₀ s t → live t)
    (hbind : ∀ (system : System) memory lease bound, live (system.callState memory) →
      memory.bindLease lease = .ok bound → live (system.callState bound))
    (hrebuild : ∀ setup (system : System), durable system.store system.events →
      (rebuilt env setup system).Holds durable live) {system : System}
    (hsystem : system.Holds durable live) (steps : List Step) :
    (run env system steps).Holds durable live := by
  refine Machine.run_invariant (P := System.Holds durable live) (fun system step hs => ?_)
    hsystem steps
  cases step with
  | rebuild setup => exact hrebuild setup system hs.durable
  | bindLease lease =>
    refine ⟨hs.durable, fun memory hmemory => ?_⟩
    obtain ⟨old, hold, rfl⟩ := Option.map_eq_some_iff.mp hmemory
    cases hbound : old.bindLease lease with
    | ok bound => exact hbind system old lease bound (hs.live old hold) hbound
    | error e => exact hs.live old hold
  | call call =>
    cases hmemory : system.memory with
    | none =>
      rw [next, hmemory]
      exact hs
    | some memory =>
      obtain ⟨t, hpath, hstore, hevents, hlive⟩ := next_call hmemory env call
      have hbegan := hs.live memory hmemory
      have ht : live t := hpath.keeps hbegan fun u v hu hulive huv =>
        hstep _ u v hbegan hu hulive huv
      refine ⟨by rw [hstore, hevents]; exact hdrop t ht, fun m hm => ?_⟩
      have hstate : (next env system (.call call)).callState m = t := by
        rw [System.callState, hstore, hevents, hlive m hm]
      rw [hstate]
      exact ht

/-- The empty store, before its first coordinator. -/
lemma holds_start {durable : LifecycleContents → List Event → Prop}
    {live : CallState Coordinator Event → Prop} (h : durable .empty []) :
    Lifecycle.start.Holds durable live :=
  ⟨h, fun memory hmemory => by cases hmemory⟩

end Sts2Gateway.Lifecycle
