/-
Lists of records under distinct keys.

* `lookup`: the record under a key;
* `Inserted`, `replaced`: a record that enters the list somewhere, and one that takes the
  place of the record with its key;
* `Inserted.lookup`, `lookup_replaced`: what each leaves under a key;
* `find?_inserted`, `find?_replaced_of_ne`, `find?_replaced_first`, `find?_replaced_later`:
  **what each leaves in front**, when the first record with a property counts;
* `getElem?_collect`: the records of a list as a map.
-/
import Mathlib.Tactic
import Sts2Gateway.Library.OrderedMap

namespace Listing

variable {ρ κ : Type} {key : ρ → κ}

/-- The record under a key. -/
def lookup [DecidableEq κ] (key : ρ → κ) (rows : List ρ) (k : κ) : Option ρ :=
  rows.find? fun r => key r = k

/-- A record under a new key enters the list somewhere. -/
structure Inserted (key : ρ → κ) (rows : List ρ) (r : ρ) (after : List ρ) : Prop where
  fresh : ∀ q ∈ rows, key q ≠ key r
  placed : ∃ front back, rows = front ++ back ∧ after = front ++ r :: back

/-- A record takes the place of the one with its key. -/
def replaced [DecidableEq κ] (key : ρ → κ) (rows : List ρ) (r : ρ) : List ρ :=
  rows.map fun q => if key q = key r then r else q

variable {rows after : List ρ} {r : ρ}

/-! ### Insertions -/

lemma mem_inserted (h : Inserted key rows r after) {q : ρ} : q ∈ after ↔ q = r ∨ q ∈ rows := by
  obtain ⟨front, back, rfl, rfl⟩ := h.placed
  simp only [List.mem_append, List.mem_cons]
  tauto

lemma Inserted.nodup (h : Inserted key rows r after) (hnodup : (rows.map key).Nodup) :
    (after.map key).Nodup := by
  have hfresh : key r ∉ rows.map key := by
    intro hr
    obtain ⟨q, hq, heq⟩ := List.mem_map.mp hr
    exact h.fresh q hq heq
  obtain ⟨front, back, rfl, rfl⟩ := h.placed
  rw [List.map_append, List.map_cons, List.nodup_middle, List.nodup_cons, ← List.map_append]
  exact ⟨hfresh, hnodup⟩

lemma Inserted.length (h : Inserted key rows r after) : after.length = rows.length + 1 := by
  obtain ⟨front, back, rfl, rfl⟩ := h.placed
  simp only [List.length_append, List.length_cons]
  omega

lemma find?_inserted {p : ρ → Bool} (h : Inserted key rows r after) (hr : p r = false) :
    after.find? p = rows.find? p := by
  obtain ⟨front, back, rfl, rfl⟩ := h.placed
  simp [List.find?_append, hr]

/-! ### Lookups -/

variable [DecidableEq κ]

lemma lookup_eq_some (hnodup : (rows.map key).Nodup) {k : κ} {q : ρ} :
    lookup key rows k = some q ↔ q ∈ rows ∧ key q = k := by
  constructor
  · intro h
    have hk := List.find?_some h
    exact ⟨List.mem_of_find?_eq_some h, by simpa using hk⟩
  · rintro ⟨hq, rfl⟩
    cases hfind : lookup key rows (key q) with
    | none => exact absurd (List.find?_eq_none.mp hfind q hq) (by simp)
    | some p =>
      have hp := List.find?_some hfind
      have hkey : key p = key q := by simpa using hp
      rw [List.inj_on_of_nodup_map hnodup (List.mem_of_find?_eq_some hfind) hq hkey]

lemma lookup_eq_none {k : κ} : lookup key rows k = none ↔ ∀ q ∈ rows, key q ≠ k := by
  simp [lookup, List.find?_eq_none]

lemma Inserted.lookup (h : Inserted key rows r after) (hnodup : (rows.map key).Nodup) (k : κ) :
    lookup key after k = if key r = k then some r else lookup key rows k := by
  split_ifs with hk
  · exact (lookup_eq_some (h.nodup hnodup)).mpr ⟨(mem_inserted h).mpr (.inl rfl), hk⟩
  · obtain ⟨front, back, rfl, rfl⟩ := h.placed
    simp [Listing.lookup, hk]

@[simp] lemma length_replaced : (replaced key rows r).length = rows.length := List.length_map ..

lemma map_key_replaced : (replaced key rows r).map key = rows.map key := by
  rw [replaced, List.map_map]
  refine List.map_congr_left fun q _ => ?_
  simp only [Function.comp_apply]
  split_ifs with hq
  · exact hq.symm
  · rfl

lemma mem_replaced {q : ρ} (h : q ∈ replaced key rows r) : q = r ∨ q ∈ rows ∧ key q ≠ key r := by
  obtain ⟨p, hp, rfl⟩ := List.mem_map.mp h
  split_ifs with hkey
  · exact .inl rfl
  · exact .inr ⟨hp, hkey⟩

lemma mem_replaced_self {q : ρ} (hq : q ∈ rows) (hkey : key q = key r) : r ∈ replaced key rows r :=
  List.mem_map.mpr ⟨q, hq, if_pos hkey⟩

lemma mem_replaced_of_ne {q : ρ} (hq : q ∈ rows) (hkey : key q ≠ key r) :
    q ∈ replaced key rows r :=
  List.mem_map.mpr ⟨q, hq, if_neg hkey⟩

lemma lookup_replaced (hnodup : (rows.map key).Nodup) (hpresent : ∃ q ∈ rows, key q = key r)
    (k : κ) :
    lookup key (replaced key rows r) k = if key r = k then some r else lookup key rows k := by
  have hnodup' : ((replaced key rows r).map key).Nodup := by rwa [map_key_replaced]
  split_ifs with hk
  · obtain ⟨q, hq, hkey⟩ := hpresent
    exact (lookup_eq_some hnodup').mpr ⟨mem_replaced_self hq hkey, hk⟩
  · cases hfind : lookup key rows k with
    | none =>
      refine lookup_eq_none.mpr fun q hq => ?_
      rcases mem_replaced hq with rfl | ⟨hold, -⟩
      · exact hk
      · exact lookup_eq_none.mp hfind q hold
    | some q =>
      obtain ⟨hq, hkey⟩ := (lookup_eq_some hnodup).mp hfind
      refine (lookup_eq_some hnodup').mpr ⟨mem_replaced_of_ne hq ?_, hkey⟩
      rw [hkey]
      exact Ne.symm hk

/-! ### The first record with a property -/

section First

variable {p : ρ → Bool}

/-- Neither the record nor the one that it replaces has the property. -/
lemma find?_replaced_of_ne (hr : p r = false) (hold : ∀ q ∈ rows, key q = key r → p q = false) :
    (replaced key rows r).find? p = rows.find? p := by
  induction rows with
  | nil => rfl
  | cons q rows ih =>
    have ih := ih fun q' hq' => hold q' (List.mem_cons_of_mem _ hq')
    rw [replaced, List.map_cons, ← replaced]
    split_ifs with hkey
    · rw [List.find?_cons_of_neg (by simp [hr]),
        List.find?_cons_of_neg (by simp [hold q (List.mem_cons_self ..) hkey]), ih]
    · rw [List.find?_cons, List.find?_cons, ih]

/-- The record changes in its place. -/
lemma replaced_append {front back : List ρ} {q : ρ}
    (hnodup : ((front ++ q :: back).map key).Nodup) (hkey : key q = key r) :
    replaced key (front ++ q :: back) r = front ++ r :: back := by
  have hother : ∀ rest : List ρ, (∀ q' ∈ rest, key q' ≠ key r) → replaced key rest r = rest := by
    intro rest hrest
    rw [replaced]
    exact (List.map_congr_left fun q' hq' => if_neg (hrest q' hq')).trans (List.map_id rest)
  rw [List.map_append, List.map_cons, List.nodup_middle, List.nodup_cons, ← List.map_append] at hnodup
  have hne : ∀ q' ∈ front ++ back, key q' ≠ key r := by
    intro q' hq' heq
    exact hnodup.1 (List.mem_map.mpr ⟨q', hq', heq.trans hkey.symm⟩)
  have hfront := hother front fun q' hq' => hne q' (List.mem_append_left _ hq')
  have hback := hother back fun q' hq' => hne q' (List.mem_append_right _ hq')
  rw [replaced] at hfront hback
  rw [replaced, List.map_append, List.map_cons, if_pos hkey, hfront, hback]

/-- Nothing in front of the replaced record has the property that the new one has. -/
lemma find?_replaced_first {front back : List ρ} {q : ρ}
    (hnodup : ((front ++ q :: back).map key).Nodup) (hkey : key q = key r) (hr : p r = true)
    (hfront : ∀ q' ∈ front, p q' = false) :
    (replaced key (front ++ q :: back) r).find? p = some r := by
  have hnone : front.find? p = none :=
    List.find?_eq_none.mpr fun q' hq' => by simp [hfront q' hq']
  rw [replaced_append hnodup hkey, List.find?_append, hnone, Option.none_or,
    List.find?_cons_of_pos hr]

/-- Something in front of the replaced record has the property already. -/
lemma find?_replaced_later {front back : List ρ} {q : ρ}
    (hnodup : ((front ++ q :: back).map key).Nodup) (hkey : key q = key r)
    (hfront : ∃ q' ∈ front, p q' = true) :
    (replaced key (front ++ q :: back) r).find? p = (front ++ q :: back).find? p := by
  obtain ⟨found, hfound⟩ := Option.isSome_iff_exists.mp (List.find?_isSome.mpr hfront)
  rw [replaced_append hnodup hkey, List.find?_append, List.find?_append, hfound]
  rfl

end First

/-! ### The records as a map -/

section Map

open Std

variable {cmp : κ → κ → Ordering} [TransCmp cmp] [LawfulEqCmp cmp]

lemma getElem?_foldl_insert (records : ExtTreeMap κ ρ cmp) (hnodup : (rows.map key).Nodup) (k : κ) :
    (rows.foldl (fun records r => records.insert (key r) r) records)[k]? =
      (lookup key rows k).or records[k]? := by
  induction rows generalizing records with
  | nil => rfl
  | cons r rows ih =>
    obtain ⟨hfresh, hnodup⟩ := List.nodup_cons.mp hnodup
    rw [List.foldl_cons, ih _ hnodup, OrderedMap.getElem?_insert_if, lookup, lookup, List.find?_cons]
    by_cases hk : key r = k
    · have hnone : rows.find? (fun q => decide (key q = k)) = none := by
        refine List.find?_eq_none.mpr fun q hq => ?_
        have hne : key q ≠ key r := fun heq => hfresh (List.mem_map.mpr ⟨q, hq, heq⟩)
        simpa [← hk] using hne
      simp [hk, hnone]
    · simp [hk]

/-- **A list of records under distinct keys, as a map.** -/
theorem getElem?_collect (hnodup : (rows.map key).Nodup) (k : κ) :
    (rows.foldl (fun records r => records.insert (key r) r) (∅ : ExtTreeMap κ ρ cmp))[k]? =
      lookup key rows k := by
  rw [getElem?_foldl_insert ∅ hnodup]
  simp

end Map

end Listing
