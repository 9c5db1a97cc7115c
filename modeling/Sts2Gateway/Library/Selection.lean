/-
The element with the largest key.

* `maxByKey`: the last one, as `Iterator::max_by_key` chooses it;
* `maxByKey_eq_some`: **where keys are distinct it is the one element that no
  other exceeds**;
* `maxByKey_perm`: so the order in which elements are met does not matter;
* `eq_of_sorted`: neither does it for a list sorted by distinct keys.
-/
import Mathlib.Tactic
import Mathlib.Data.List.Sort

namespace Selection

variable {α κ : Type} [LinearOrder κ] {f : α → κ} {l : List α} {a : α}

/-- The larger of the best element so far and the next; ties go to the next. -/
def better (f : α → κ) (best : Option α) (a : α) : Option α :=
  match best with
  | none => some a
  | some b => if f a < f b then some b else some a

def maxByKey (f : α → κ) (l : List α) : Option α := l.foldl (better f) none

lemma maxByKey_append_singleton : maxByKey f (l ++ [a]) = better f (maxByKey f l) a := by
  rw [maxByKey, List.foldl_append]
  rfl

/-- What is chosen is in the list, and no element exceeds it. -/
lemma maxByKey_spec {m : α} (h : maxByKey f l = some m) : m ∈ l ∧ ∀ x ∈ l, f x ≤ f m := by
  induction l using List.reverseRecOn generalizing m with
  | nil => cases h
  | append_singleton l a ih =>
    rw [maxByKey_append_singleton] at h
    cases hbest : maxByKey f l with
    | none =>
      have hnil : l = [] := by
        cases l using List.reverseRecOn with
        | nil => rfl
        | append_singleton l b =>
          rw [maxByKey_append_singleton] at hbest
          unfold better at hbest
          split at hbest
          · cases hbest
          · split_ifs at hbest
      rw [hbest] at h
      obtain ⟨⟩ := h
      simp [hnil]
    | some b =>
      obtain ⟨hb, hle⟩ := ih hbest
      rw [hbest] at h
      simp only [better] at h
      split_ifs at h with hlt
      · obtain ⟨⟩ := h
        refine ⟨List.mem_append_left _ hb, fun x hx => ?_⟩
        rcases List.mem_append.mp hx with hx | hx
        · exact hle x hx
        · rw [List.mem_singleton.mp hx]
          exact hlt.le
      · obtain ⟨⟩ := h
        refine ⟨List.mem_append_right _ (List.mem_singleton_self _), fun x hx => ?_⟩
        rcases List.mem_append.mp hx with hx | hx
        · exact (hle x hx).trans (not_lt.mp hlt)
        · rw [List.mem_singleton.mp hx]

lemma maxByKey_eq_none : maxByKey f l = none ↔ l = [] := by
  constructor
  · intro h
    cases l using List.reverseRecOn with
    | nil => rfl
    | append_singleton l a =>
      rw [maxByKey_append_singleton] at h
      unfold better at h
      split at h
      · cases h
      · split_ifs at h
  · rintro rfl
    rfl

/-- **The largest key**, where distinct elements have distinct keys. -/
theorem maxByKey_eq_some {m : α} (hinj : ∀ x ∈ l, ∀ y ∈ l, f x = f y → x = y) :
    maxByKey f l = some m ↔ m ∈ l ∧ ∀ x ∈ l, f x ≤ f m := by
  refine ⟨maxByKey_spec, fun ⟨hm, hle⟩ => ?_⟩
  cases hbest : maxByKey f l with
  | none =>
    rw [maxByKey_eq_none.mp hbest] at hm
    cases hm
  | some b =>
    obtain ⟨hb, hb'⟩ := maxByKey_spec hbest
    rw [hinj b hb m hm (le_antisymm (hle b hb) (hb' m hm))]

/-- The order of the list does not matter. -/
lemma maxByKey_perm {l' : List α} (hinj : ∀ x ∈ l, ∀ y ∈ l, f x = f y → x = y)
    (h : ∀ x, x ∈ l ↔ x ∈ l') : maxByKey f l = maxByKey f l' := by
  have hinj' : ∀ x ∈ l', ∀ y ∈ l', f x = f y → x = y := by
    intro x hx y hy
    exact hinj x ((h x).mpr hx) y ((h y).mpr hy)
  refine Option.ext fun m => ?_
  rw [maxByKey_eq_some hinj, maxByKey_eq_some hinj']
  simp only [h]

/-- Two lists with the same elements, both strictly sorted by a key. -/
lemma eq_of_sorted {l l' : List α} (h : ∀ x, x ∈ l ↔ x ∈ l')
    (hl : l.Pairwise fun x y => f x < f y) (hl' : l'.Pairwise fun x y => f x < f y) : l = l' := by
  have hnodup : ∀ {k : List α}, (k.Pairwise fun x y => f x < f y) → k.Nodup := fun hk =>
    hk.imp fun hlt heq => absurd (congrArg f heq) hlt.ne
  have hperm : l.Perm l' := (List.perm_ext_iff_of_nodup (hnodup hl) (hnodup hl')).mpr h
  refine hperm.eq_of_pairwise (fun x y _ _ hxy hyx => ?_) hl hl'
  exact absurd hxy (lt_asymm hyx)

end Selection
