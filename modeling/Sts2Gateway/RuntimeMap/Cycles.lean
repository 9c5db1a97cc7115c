/-
The search for a cycle in a map (`runtime_map_forwarder.rs`).

* `Color`, `visit`, `hasCycle`: the recursive search with its three colours;
* `Continues`: what a visit that finds no cycle does to the colours;
* `visit_spec`: **a visit** ends, finds cycles only, and finishes what it reaches;
* `hasCycle_eq`: the search finds a cycle exactly when there is one.

The search is given as much fuel as there are nodes.  A node that is out of range has no
list of targets, and a search that comes to it has no result, as the source would panic.
-/
import Sts2Gateway.Library.Reachability

namespace Sts2Gateway.RuntimeMap

open Reachability Relation

/-! ### The search -/

inductive Color where
  | unseen
  | active
  | finished
deriving DecidableEq, Repr

abbrev Colors := ℕ → Color

/-- Whether a cycle was found, and the colours afterwards. -/
abbrev Search := Option (Bool × Colors)

/-- The targets of a node, one after another. -/
def scan (visit : ℕ → Colors → Search) : List ℕ → Colors → Search
  | [], colors => some (false, colors)
  | next :: targets, colors =>
    match colors next with
    | .active => some (true, colors)
    | .unseen =>
      match visit next colors with
      | some (false, colors) => scan visit targets colors
      | result => result
    | .finished => scan visit targets colors

def visit (adjacency : List (List ℕ)) : ℕ → ℕ → Colors → Search
  | 0, _, _ => none
  | fuel + 1, index, colors =>
    match adjacency[index]? with
    | none => none
    | some targets =>
      match scan (visit adjacency fuel) targets (Function.update colors index .active) with
      | some (false, colors) => some (false, Function.update colors index .finished)
      | result => result

/-- The nodes that are still unseen, one after another. -/
def searchFrom (visit : ℕ → Colors → Search) : List ℕ → Colors → Search
  | [], colors => some (false, colors)
  | index :: indices, colors =>
    match colors index with
    | .unseen =>
      match visit index colors with
      | some (false, colors) => searchFrom visit indices colors
      | result => result
    | .active | .finished => searchFrom visit indices colors

def hasCycle (adjacency : List (List ℕ)) : Option Bool :=
  (searchFrom (visit adjacency adjacency.length) (List.range adjacency.length)
    fun _ => .unseen).map Prod.fst

/-! ### The graph -/

/-- A node has another one among its targets. -/
def Edge (adjacency : List (List ℕ)) (u v : ℕ) : Prop :=
  ∃ targets, adjacency[u]? = some targets ∧ v ∈ targets

/-- Every target is a node. -/
def InRange (adjacency : List (List ℕ)) : Prop :=
  ∀ targets ∈ adjacency, ∀ v ∈ targets, v < adjacency.length

def finished (colors : Colors) : Set ℕ := {u | colors u = .finished}

def unseen (bound : ℕ) (colors : Colors) : Finset ℕ :=
  (Finset.range bound).filter fun u => colors u = .unseen

/-- What a visit that finds no cycle does: it finishes nodes, and leaves the active ones. -/
structure Continues (before after : Colors) : Prop where
  active : ∀ u, after u = .active ↔ before u = .active
  finished : ∀ u, before u = .finished → after u = .finished

namespace Continues

variable {before between after : Colors}

lemma refl : Continues before before := ⟨fun _ => .rfl, fun _ h => h⟩

lemma trans (h : Continues before between) (h' : Continues between after) :
    Continues before after :=
  ⟨fun u => (h'.active u).trans (h.active u), fun u hu => h'.finished u (h.finished u hu)⟩

/-- No node becomes unseen. -/
lemma unseen (h : Continues before after) {u : ℕ} (hu : after u = .unseen) : before u = .unseen := by
  cases hbefore : before u with
  | unseen => rfl
  | active =>
    rw [(h.active u).mpr hbefore] at hu
    cases hu
  | finished =>
    rw [h.finished u hbefore] at hu
    cases hu

lemma card_unseen_le (h : Continues before after) (bound : ℕ) :
    (RuntimeMap.unseen bound after).card ≤ (RuntimeMap.unseen bound before).card := by
  refine Finset.card_le_card fun u hu => ?_
  rw [RuntimeMap.unseen, Finset.mem_filter] at hu ⊢
  exact ⟨hu.1, h.unseen hu.2⟩

end Continues

section Spec

variable {adjacency : List (List ℕ)}

/-- What a search leaves: a cycle that was found is one; otherwise the colours go on, what is
finished is settled, and so are the given nodes. -/
def Searched (adjacency : List (List ℕ)) (nodes : List ℕ) (before : Colors) (result : Search) :
    Prop :=
  ∃ found after, result = some (found, after) ∧
    (found = true → Cyclic (Edge adjacency)) ∧
    (found = false → Continues before after ∧ Settled (Edge adjacency) (finished after) ∧
      ∀ u ∈ nodes, after u = .finished)

/-- What a visit is asked for: an unseen node in range, reached from every active one, with fuel
for the nodes that are unseen. -/
def Visits (adjacency : List (List ℕ)) (fuel : ℕ) (visit : ℕ → Colors → Search) : Prop :=
  ∀ index colors, index < adjacency.length → colors index = .unseen →
    (unseen adjacency.length colors).card ≤ fuel →
    (∀ u, colors u = .active → ReflTransGen (Edge adjacency) u index) →
    Settled (Edge adjacency) (finished colors) →
    Searched adjacency [index] colors (visit index colors)

/-- The loop over the targets of a node that is active. -/
lemma scan_spec {fuel : ℕ} {visit : ℕ → Colors → Search} (hvisit : Visits adjacency fuel visit)
    {index : ℕ} {targets : List ℕ} {colors : Colors}
    (hedges : ∀ v ∈ targets, Edge adjacency index v ∧ v < adjacency.length)
    (hfuel : (unseen adjacency.length colors).card ≤ fuel)
    (hreach : ∀ u, colors u = .active → ReflTransGen (Edge adjacency) u index)
    (hsettled : Settled (Edge adjacency) (finished colors)) :
    Searched adjacency targets colors (scan visit targets colors) := by
  induction targets generalizing colors with
  | nil => exact ⟨false, colors, rfl, by simp, fun _ => ⟨.refl, hsettled, by simp⟩⟩
  | cons next targets ih =>
    obtain ⟨⟨hedge, hrange⟩, hrest⟩ := List.forall_mem_cons.mp hedges
    rw [scan]
    cases hcolor : colors next with
    | active =>
      exact ⟨true, colors, rfl, fun _ => cyclic_of_edge (hreach next hcolor) hedge, by simp⟩
    | finished =>
      obtain ⟨found, after, hresult, hcycle, hkept⟩ := ih hrest hfuel hreach hsettled
      refine ⟨found, after, hresult, hcycle, fun hnone => ?_⟩
      obtain ⟨hcontinues, hafter, hdone⟩ := hkept hnone
      refine ⟨hcontinues, hafter, ?_⟩
      exact List.forall_mem_cons.mpr ⟨hcontinues.finished next hcolor, hdone⟩
    | unseen =>
      obtain ⟨found, between, hresult, hcycle, hkept⟩ := hvisit next colors hrange hcolor hfuel
        (fun u hu => (hreach u hu).tail hedge) hsettled
      dsimp only
      rw [hresult]
      cases found with
      | true => exact ⟨true, between, rfl, hcycle, by simp⟩
      | false =>
        obtain ⟨hcontinues, hbetween, hnext⟩ := hkept rfl
        obtain ⟨found, after, hresult, hcycle, hkept⟩ := ih hrest
          ((hcontinues.card_unseen_le _).trans hfuel)
          (fun u hu => hreach u ((hcontinues.active u).mp hu)) hbetween
        refine ⟨found, after, hresult, hcycle, fun hnone => ?_⟩
        obtain ⟨hcontinues', hafter, hdone⟩ := hkept hnone
        refine ⟨hcontinues.trans hcontinues', hafter, ?_⟩
        exact List.forall_mem_cons.mpr ⟨hcontinues'.finished next (hnext next (by simp)), hdone⟩

/-- **A visit** ends, finds cycles only, and finishes what it reaches.  It is by induction on
the fuel: a node that is active is not unseen any more. -/
theorem visit_spec (hrange : InRange adjacency) (fuel : ℕ) :
    Visits adjacency fuel (visit adjacency fuel) := by
  induction fuel with
  | zero =>
    intro index colors hindex hcolor hfuel
    have hmem : index ∈ unseen adjacency.length colors := by simp [unseen, hindex, hcolor]
    rw [Finset.card_eq_zero.mp (Nat.le_zero.mp hfuel)] at hmem
    cases hmem
  | succ fuel ih =>
    intro index colors hindex hcolor hfuel hreach hsettled
    have htargets : adjacency[index]? = some adjacency[index] := List.getElem?_eq_getElem hindex
    set entered := Function.update colors index .active with hentered
    have hsame : ∀ u, u ≠ index → entered u = colors u := fun u hu =>
      Function.update_of_ne hu _ _
    have hself : entered index = .active := Function.update_self _ _ _
    have hless : (unseen adjacency.length entered).card ≤ fuel := by
      have hsubset : unseen adjacency.length entered ⊂ unseen adjacency.length colors := by
        refine (Finset.ssubset_iff_of_subset fun u hu => ?_).mpr ⟨index, ?_, ?_⟩
        · rw [unseen, Finset.mem_filter] at hu ⊢
          have hne : u ≠ index := by
            rintro rfl
            rw [hself] at hu
            cases hu.2
          exact ⟨hu.1, hsame u hne ▸ hu.2⟩
        · simp [unseen, hindex, hcolor]
        · simp [unseen, hself]
      have := Finset.card_lt_card hsubset
      omega
    have hfinished : finished entered = finished colors := by
      ext u
      by_cases hu : u = index
      · subst hu
        simp [finished, hself, hcolor]
      · simp [finished, hsame u hu]
    obtain ⟨found, after, hresult, hcycle, hkept⟩ := scan_spec ih
      (fun v hv => ⟨⟨_, htargets, hv⟩, hrange _ (List.getElem_mem hindex) v hv⟩) hless
      (fun u hu => by
        by_cases hne : u = index
        · rw [hne]
        · exact hreach u (hsame u hne ▸ hu)) (hfinished ▸ hsettled)
    rw [visit, htargets]
    dsimp only
    rw [← hentered, hresult]
    cases found with
    | true => exact ⟨true, after, rfl, hcycle, by simp⟩
    | false =>
      obtain ⟨hcontinues, hafter, hdone⟩ := hkept rfl
      have hactive : after index = .active := (hcontinues.active index).mpr hself
      have hclosed : finished (Function.update after index .finished) =
          insert index (finished after) := by
        ext u
        by_cases hu : u = index
        · subst hu
          simp [finished]
        · simp [finished, hu]
      refine ⟨false, _, rfl, by simp, fun _ => ⟨⟨fun u => ?_, fun u hu => ?_⟩, ?_, ?_⟩⟩
      · by_cases hu : u = index
        · subst hu
          simp [hcolor]
        · rw [Function.update_of_ne hu, hcontinues.active, hsame u hu]
      · by_cases hne : u = index
        · rw [hne, Function.update_self]
        · rw [Function.update_of_ne hne]
          exact hcontinues.finished u ((hsame u hne).trans hu)
      · rw [hclosed]
        refine hafter.insert (by simp [finished, hactive]) ?_
        rintro w ⟨targets, hfound, hw⟩
        rw [htargets] at hfound
        obtain rfl := Option.some.inj hfound
        exact hdone w hw
      · simp

lemma card_unseen_le_length (colors : Colors) :
    (unseen adjacency.length colors).card ≤ adjacency.length := by
  calc (unseen adjacency.length colors).card
      ≤ (Finset.range adjacency.length).card := Finset.card_filter_le _ _
    _ = adjacency.length := Finset.card_range _

/-- Between two visits no node is active. -/
lemma searchFrom_spec {visit : ℕ → Colors → Search} (hvisit : Visits adjacency adjacency.length visit)
    {indices : List ℕ} {colors : Colors} (hrange : ∀ u ∈ indices, u < adjacency.length)
    (hidle : ∀ u, colors u ≠ .active) (hsettled : Settled (Edge adjacency) (finished colors)) :
    Searched adjacency indices colors (searchFrom visit indices colors) := by
  induction indices generalizing colors with
  | nil => exact ⟨false, colors, rfl, by simp, fun _ => ⟨.refl, hsettled, by simp⟩⟩
  | cons index indices ih =>
    obtain ⟨hindex, hrest⟩ := List.forall_mem_cons.mp hrange
    rw [searchFrom]
    cases hcolor : colors index with
    | active => exact absurd hcolor (hidle index)
    | finished =>
      obtain ⟨found, after, hresult, hcycle, hkept⟩ := ih hrest hidle hsettled
      refine ⟨found, after, hresult, hcycle, fun hnone => ?_⟩
      obtain ⟨hcontinues, hafter, hdone⟩ := hkept hnone
      refine ⟨hcontinues, hafter, ?_⟩
      exact List.forall_mem_cons.mpr ⟨hcontinues.finished index hcolor, hdone⟩
    | unseen =>
      obtain ⟨found, between, hresult, hcycle, hkept⟩ := hvisit index colors hindex hcolor
        (card_unseen_le_length colors) (fun u hu => absurd hu (hidle u)) hsettled
      dsimp only
      rw [hresult]
      cases found with
      | true => exact ⟨true, between, rfl, hcycle, by simp⟩
      | false =>
        obtain ⟨hcontinues, hbetween, hnext⟩ := hkept rfl
        obtain ⟨found, after, hresult, hcycle, hkept⟩ := ih hrest
          (fun u hu => hidle u ((hcontinues.active u).mp hu)) hbetween
        refine ⟨found, after, hresult, hcycle, fun hnone => ?_⟩
        obtain ⟨hcontinues', hafter, hdone⟩ := hkept hnone
        refine ⟨hcontinues.trans hcontinues', hafter, ?_⟩
        exact List.forall_mem_cons.mpr ⟨hcontinues'.finished index (hnext index (by simp)), hdone⟩

/-- **The search finds a cycle exactly when there is one.** -/
theorem hasCycle_eq (hrange : InRange adjacency) :
    ∃ found, hasCycle adjacency = some found ∧ (found = true ↔ Cyclic (Edge adjacency)) := by
  have hstart : finished (fun _ => .unseen) = ∅ := by
    ext u
    simp [finished]
  have hindices : ∀ u ∈ List.range adjacency.length, u < adjacency.length :=
    fun u hu => List.mem_range.mp hu
  have hidle : ∀ u : ℕ, (fun _ => Color.unseen : Colors) u ≠ .active := by simp
  obtain ⟨found, after, hresult, hcycle, hkept⟩ := searchFrom_spec
    (visit_spec hrange adjacency.length) hindices hidle (hstart ▸ settled_empty)
  refine ⟨found, by rw [hasCycle, hresult]; rfl, hcycle, fun hcyclic => ?_⟩
  cases found with
  | true => rfl
  | false =>
    obtain ⟨-, hsettled, hdone⟩ := hkept rfl
    refine absurd hcyclic (hsettled.not_cyclic ?_)
    rintro u v ⟨targets, htargets, -⟩
    exact hdone u (List.mem_range.mpr (List.getElem?_eq_some_iff.mp htargets).1)

end Spec

end Sts2Gateway.RuntimeMap
