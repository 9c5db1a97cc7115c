/-
Cycles of a relation.

* `Cyclic`: something is reached from itself;
* `Settled`: a set that nothing leads out of, and that no cycle goes through;
* `Settled.insert`: **a settled set grows** by something that leads into it only;
* `Settled.not_cyclic`: when everything that leads anywhere is settled, there is no cycle.
-/
import Mathlib.Tactic
import Mathlib.Logic.Relation

namespace Reachability

open Relation

variable {α : Type} {E : α → α → Prop}

/-- Something is reached from itself. -/
def Cyclic (E : α → α → Prop) : Prop := ∃ v, TransGen E v v

lemma cyclic_of_edge {u v : α} (hreach : ReflTransGen E v u) (hedge : E u v) : Cyclic E :=
  ⟨u, TransGen.head' hedge hreach⟩

/-- A cycle stays one where every edge is taken to an edge. -/
lemma Cyclic.map {β : Type} {E' : β → β → Prop} (f : α → β)
    (hedge : ∀ u v, E u v → E' (f u) (f v)) : Cyclic E → Cyclic E' := by
  rintro ⟨v, hcycle⟩
  exact ⟨f v, hcycle.lift f hedge⟩

/-- Nothing leads out of the set, and no cycle goes through it. -/
structure Settled (E : α → α → Prop) (done : Set α) : Prop where
  closed : ∀ u ∈ done, ∀ v, E u v → v ∈ done
  acyclic : ∀ u ∈ done, ¬ TransGen E u u

lemma settled_empty : Settled E ∅ :=
  ⟨fun _ h => absurd h (Set.notMem_empty _), fun _ h => absurd h (Set.notMem_empty _)⟩

variable {done : Set α}

/-- What is reached from a settled set is settled. -/
lemma Settled.mem_of_reach (h : Settled E done) {u v : α} (hu : u ∈ done)
    (hreach : ReflTransGen E u v) : v ∈ done := by
  induction hreach with
  | refl => exact hu
  | tail _ hedge ih => exact h.closed _ ih _ hedge

/-- **A settled set grows** by something that leads into it only. -/
theorem Settled.insert (h : Settled E done) {v : α} (hnew : v ∉ done)
    (hleads : ∀ w, E v w → w ∈ done) : Settled E (insert v done) := by
  constructor
  · rintro u (rfl | hu) w hedge
    · exact Set.mem_insert_of_mem _ (hleads w hedge)
    · exact Set.mem_insert_of_mem _ (h.closed u hu w hedge)
  · rintro u (rfl | hu) hcycle
    · obtain ⟨w, hedge, hback⟩ := TransGen.head'_iff.mp hcycle
      exact hnew (h.mem_of_reach (hleads w hedge) hback)
    · exact h.acyclic u hu hcycle

/-- A cycle goes through something that leads somewhere. -/
theorem Settled.not_cyclic (h : Settled E done) (hall : ∀ u v, E u v → u ∈ done) : ¬ Cyclic E := by
  rintro ⟨v, hcycle⟩
  obtain ⟨w, hedge, -⟩ := TransGen.head'_iff.mp hcycle
  exact h.acyclic v (hall v w hedge) hcycle

end Reachability
