/-
Tables with a primary key.

* `Table`: rows in insertion order, no two with the same key;
* `Table.find?`, `count`, `update`, `insert`, `replace`, `delete`, `maximum`: the
  statements of a relational store;
* `find?_eq_some`, `ext_key`: **a key names at most one row**;
* `find?_update`, `find?_insert`, `find?_replace`, `find?_delete`: what each
  statement leaves under a key, so that no proof looks at the row list;
* `count_key_eq_one`: a statement on one key changes one row, or none;
* `length_replaceAll_le`, `count_update_le`, `le_maximum`, `maximum_le`,
  `count_le_one`: bounds on the rows as a whole.
-/
import Mathlib.Tactic

namespace Relational

variable {κ ρ : Type} {key : ρ → κ}

structure Table (κ ρ : Type) (key : ρ → κ) where
  rows : List ρ
  nodup : (rows.map key).Nodup

namespace Table

variable (t : Table κ ρ key)

def empty : Table κ ρ key := ⟨[], List.nodup_nil⟩

/-- `SELECT` by primary key. -/
def find? [DecidableEq κ] (k : κ) : Option ρ := t.rows.find? fun r => key r = k

/-- `SELECT COUNT(*) ... WHERE`, and the number of rows that a statement changes. -/
def count (p : ρ → Bool) : ℕ := t.rows.countP p

/-- `COALESCE(MAX(f), 0)`. -/
def maximum (f : ρ → ℕ) : ℕ := (t.rows.map f).foldr max 0

/-- `UPDATE ... SET f WHERE p`, the primary key left alone. -/
def update (p : ρ → Bool) (f : ρ → ρ) (hf : ∀ r, key (f r) = key r) : Table κ ρ key where
  rows := t.rows.map fun r => if p r then f r else r
  nodup := by
    have hkey : (key ∘ fun r => if p r then f r else r) = key := by
      funext r
      by_cases hp : p r <;> simp [hp, hf]
    rw [List.map_map, hkey]
    exact t.nodup

/-- `DELETE ... WHERE p`. -/
def delete (p : ρ → Bool) : Table κ ρ key where
  rows := t.rows.filter fun r => !p r
  nodup := t.nodup.sublist (List.filter_sublist.map key)

/-- `INSERT`, refused when the primary key is taken. -/
def insert [DecidableEq κ] (r : ρ) : Option (Table κ ρ key) :=
  if h : key r ∈ t.rows.map key then none
  else some
    { rows := t.rows ++ [r]
      nodup := by
        rw [List.map_append, List.map_singleton]
        exact t.nodup.append (List.nodup_singleton _) (by simpa using h) }

/-- `INSERT OR REPLACE`. -/
def replace [DecidableEq κ] (r : ρ) : Table κ ρ key where
  rows := (t.delete fun q => key q = key r).rows ++ [r]
  nodup := by
    rw [List.map_append, List.map_singleton]
    refine (t.delete fun q => key q = key r).nodup.append (List.nodup_singleton _) ?_
    simp [delete]

/-- `INSERT OR REPLACE` of the rows of a query. -/
def replaceAll [DecidableEq κ] (rs : List ρ) : Table κ ρ key :=
  rs.foldl (fun u r => u.replace r) t

variable {t}

/-! ### Keys -/

/-- Rows with the same key are the same row. -/
lemma ext_key {r q : ρ} (hr : r ∈ t.rows) (hq : q ∈ t.rows) (h : key r = key q) : r = q :=
  List.inj_on_of_nodup_map t.nodup hr hq h

section Find

variable [DecidableEq κ]

/-- **A lookup finds the one row with its key.** -/
theorem find?_eq_some {k : κ} {r : ρ} : t.find? k = some r ↔ r ∈ t.rows ∧ key r = k := by
  constructor
  · intro h
    have hk := List.find?_some h
    exact ⟨List.mem_of_find?_eq_some h, by simpa using hk⟩
  · rintro ⟨hr, rfl⟩
    cases hfind : t.find? (key r) with
    | none => exact absurd (List.find?_eq_none.mp hfind r hr) (by simp)
    | some q =>
      have hq := List.find?_some hfind
      rw [ext_key (List.mem_of_find?_eq_some hfind) hr (by simpa using hq)]

lemma find?_eq_none {k : κ} : t.find? k = none ↔ ∀ r ∈ t.rows, key r ≠ k := by
  simp [find?, List.find?_eq_none]

lemma find?_key {r : ρ} (hr : r ∈ t.rows) : t.find? (key r) = some r :=
  find?_eq_some.mpr ⟨hr, rfl⟩

lemma mem_of_find? {k : κ} {r : ρ} (h : t.find? k = some r) : r ∈ t.rows :=
  (find?_eq_some.mp h).1

lemma key_of_find? {k : κ} {r : ρ} (h : t.find? k = some r) : key r = k :=
  (find?_eq_some.mp h).2

@[simp] lemma find?_empty {k : κ} : (empty : Table κ ρ key).find? k = none := rfl

/-! ### Statements -/

@[simp] lemma find?_update (p : ρ → Bool) (f : ρ → ρ) (hf : ∀ r, key (f r) = key r) (k : κ) :
    (t.update p f hf).find? k = (t.find? k).map fun r => if p r then f r else r := by
  have hkey : ((fun r => decide (key r = k)) ∘ fun r => if p r then f r else r) =
      fun r => decide (key r = k) := by
    funext r
    by_cases hp : p r <;> simp [hp, hf]
  rw [find?, update, List.find?_map, hkey]
  rfl

@[simp] lemma find?_delete (p : ρ → Bool) (k : κ) :
    (t.delete p).find? k = (t.find? k).filter fun r => !p r := by
  cases h : t.find? k with
  | none =>
    refine find?_eq_none.mpr fun r hr => ?_
    exact find?_eq_none.mp h r (List.mem_filter.mp hr).1
  | some r =>
    obtain ⟨hr, hk⟩ := find?_eq_some.mp h
    cases hp : p r with
    | false =>
      have hkept : (some r).filter (fun r => !p r) = some r := by simp [hp]
      rw [hkept]
      exact find?_eq_some.mpr ⟨List.mem_filter.mpr ⟨hr, by simp [hp]⟩, hk⟩
    | true =>
      have hnone : (some r).filter (fun r => !p r) = none := by simp [hp]
      rw [hnone]
      refine find?_eq_none.mpr fun q hq hqk => ?_
      obtain ⟨hq, hnot⟩ := List.mem_filter.mp hq
      rw [ext_key hq hr (hqk.trans hk.symm), hp] at hnot
      cases hnot

/-- An insertion found its key free. -/
lemma insert_eq_some {r : ρ} {u : Table κ ρ key} :
    t.insert r = some u ↔ t.find? (key r) = none ∧ u.rows = t.rows ++ [r] := by
  obtain ⟨rows, hnodup⟩ := u
  unfold insert
  split_ifs with h
  · obtain ⟨q, hq, hkey⟩ := List.mem_map.mp h
    simp only [false_iff, not_and]
    exact fun hnone => absurd hkey (find?_eq_none.mp hnone q hq)
  · simp only [Option.some.injEq, Table.mk.injEq, eq_comm (b := rows)]
    refine ⟨fun heq => ⟨?_, heq⟩, fun heq => heq.2⟩
    exact find?_eq_none.mpr fun q hq hkey => h (List.mem_map.mpr ⟨q, hq, hkey⟩)

/-- An insertion found its key taken. -/
lemma insert_eq_none {r : ρ} : t.insert r = none ↔ t.find? (key r) ≠ none := by
  rw [← not_iff_not, not_not]
  constructor
  · intro h
    obtain ⟨u, hu⟩ := Option.ne_none_iff_exists'.mp h
    exact (insert_eq_some.mp hu).1
  · intro h
    have hfree : key r ∉ t.rows.map key := by
      rintro hmem
      obtain ⟨q, hq, hkey⟩ := List.mem_map.mp hmem
      exact find?_eq_none.mp h q hq hkey
    rw [insert, dif_neg hfree]
    exact Option.some_ne_none _

lemma find?_insert {r : ρ} {u : Table κ ρ key} (h : t.insert r = some u) (k : κ) :
    u.find? k = if key r = k then some r else t.find? k := by
  obtain ⟨hnone, hrows⟩ := insert_eq_some.mp h
  rw [find?, hrows, List.find?_append]
  split_ifs with hk
  · subst hk
    have : List.find? (fun q => decide (key q = key r)) t.rows = none := hnone
    simp [this]
  · simp [find?, hk]

lemma find?_replace (r : ρ) (k : κ) :
    (t.replace r).find? k = if key r = k then some r else t.find? k := by
  have hrest : ∀ k, List.find? (fun q => decide (key q = k))
      (t.delete fun q => key q = key r).rows = (t.find? k).filter fun q => key q ≠ key r := by
    intro k
    simpa [find?] using find?_delete (t := t) (fun q => decide (key q = key r)) k
  rw [find?, replace, List.find?_append, hrest]
  cases h : t.find? k with
  | none => split_ifs with hk <;> simp [hk]
  | some q =>
    have hq := key_of_find? h
    split_ifs with hk
    · have hnone : (some q).filter (fun q => key q ≠ key r) = none := by simp [hq, hk]
      rw [hnone]
      simp [hk]
    · have hkept : (some q).filter (fun q => key q ≠ key r) = some q := by simp [hq, Ne.symm hk]
      rw [hkept]
      rfl

/-- Rows that replace others under distinct keys. -/
lemma find?_replaceAll {rs : List ρ} (hrs : (rs.map key).Nodup) (k : κ) :
    (t.replaceAll rs).find? k = ((rs.find? fun r => key r = k).or (t.find? k)) := by
  induction rs generalizing t with
  | nil => simp [replaceAll]
  | cons r rs ih =>
    obtain ⟨hr, hrs⟩ := List.nodup_cons.mp hrs
    have hstep : (t.replaceAll (r :: rs)).find? k = ((t.replace r).replaceAll rs).find? k := rfl
    rw [hstep, ih hrs, find?_replace, List.find?_cons]
    by_cases hk : key r = k
    · have hnone : rs.find? (fun q => decide (key q = k)) = none := by
        refine List.find?_eq_none.mpr fun q hq => ?_
        simp only [decide_eq_true_eq]
        exact fun hqk => hr (List.mem_map.mpr ⟨q, hq, hqk.trans hk.symm⟩)
      simp [hk, hnone]
    · simp [hk]

/-- A query on a key sees the row under it, or none. -/
lemma find?_filter (p : ρ → Bool) (k : κ) :
    (t.rows.filter p).find? (fun r => key r = k) = (t.find? k).filter p := by
  have h := find?_delete (t := t) (fun r => !p r) k
  simpa [find?, delete] using h

/-- A statement that names a key changes the row it finds there, if any. -/
lemma count_key_eq_one {k : κ} {q : ρ → Bool} :
    t.count (fun r => decide (key r = k) && q r) = 1 ↔ ∃ r, t.find? k = some r ∧ q r := by
  have hle : t.rows.countP (fun r => decide (key r = k)) ≤ 1 := by
    have hcount := List.nodup_iff_count_le_one.mp t.nodup k
    rw [List.count_eq_countP, List.countP_map] at hcount
    exact (List.countP_congr fun r _ => by simp).trans_le hcount
  constructor
  · intro hone
    obtain ⟨r, hr, hp⟩ := List.countP_pos_iff.mp (by rw [← count, hone]; omega)
    rw [Bool.and_eq_true, decide_eq_true_eq] at hp
    exact ⟨r, find?_eq_some.mpr ⟨hr, hp.1⟩, hp.2⟩
  · rintro ⟨r, hfind, hq⟩
    obtain ⟨hr, hk⟩ := find?_eq_some.mp hfind
    have hpos : 0 < t.count fun r => decide (key r = k) && q r :=
      List.countP_pos_iff.mpr ⟨r, hr, by simp [hk, hq]⟩
    have hmono : t.count (fun r => decide (key r = k) && q r) ≤
        t.rows.countP fun r => decide (key r = k) :=
      List.countP_mono_left fun q _ hq => (Bool.and_eq_true _ _ ▸ hq).1
    omega

lemma count_key {k : κ} : t.count (fun r => decide (key r = k)) = 1 ↔ ∃ r, t.find? k = some r := by
  simpa using count_key_eq_one (t := t) (k := k) (q := fun _ => true)

end Find

/-! ### All rows -/

@[simp] lemma length_update (p : ρ → Bool) (f : ρ → ρ) (hf : ∀ r, key (f r) = key r) :
    (t.update p f hf).rows.length = t.rows.length := by
  simp [update]

/-- An update counts no more rows when it makes none count. -/
lemma count_update_le {p q : ρ → Bool} {f : ρ → ρ} {hf : ∀ r, key (f r) = key r}
    (h : ∀ r ∈ t.rows, p r = true → q (f r) = true → q r = true) :
    (t.update p f hf).count q ≤ t.count q := by
  rw [count, update, List.countP_map]
  refine List.countP_mono_left fun r hr hq => ?_
  by_cases hp : p r
  · simp only [Function.comp_apply, hp, if_true] at hq
    exact h r hr hp hq
  · simpa [hp] using hq

/-- A deletion that spares the counted rows. -/
lemma count_delete {p q : ρ → Bool} (h : ∀ r ∈ t.rows, q r = true → p r = false) :
    (t.delete p).count q = t.count q := by
  rw [count, count, delete, List.countP_filter]
  refine List.countP_congr fun r hr => ?_
  cases hq : q r with
  | false => simp
  | true => simp [h r hr hq]

lemma count_delete_le (p q : ρ → Bool) : (t.delete p).count q ≤ t.count q :=
  List.filter_sublist.countP_le

/-- The rows that a deletion keeps, and the rows that it selects. -/
lemma length_delete_add (p : ρ → Bool) :
    (t.delete p).rows.length + (t.rows.filter p).length = t.rows.length := by
  rw [delete, Nat.add_comm]
  exact (List.length_eq_length_filter_add p).symm

section Replace

variable [DecidableEq κ]

lemma length_replace_le (r : ρ) : (t.replace r).rows.length ≤ t.rows.length + 1 := by
  rw [replace, List.length_append, List.length_singleton]
  exact Nat.add_le_add_right (List.length_filter_le _ _) 1

lemma length_replaceAll_le (rs : List ρ) :
    (t.replaceAll rs).rows.length ≤ t.rows.length + rs.length := by
  induction rs generalizing t with
  | nil => exact le_rfl
  | cons r rs ih =>
    calc ((t.replace r).replaceAll rs).rows.length
        ≤ (t.replace r).rows.length + rs.length := ih
      _ ≤ t.rows.length + 1 + rs.length := Nat.add_le_add_right (length_replace_le r) _
      _ = t.rows.length + (r :: rs).length := by rw [List.length_cons]; omega

/-- Rows under new keys replace no other. -/
lemma length_replaceAll {rs : List ρ} (hrs : (rs.map key).Nodup)
    (hnew : ∀ r ∈ rs, t.find? (key r) = none) :
    (t.replaceAll rs).rows.length = t.rows.length + rs.length := by
  induction rs generalizing t with
  | nil => rfl
  | cons r rs ih =>
    obtain ⟨hr, hrs⟩ := List.nodup_cons.mp hrs
    have hone : (t.replace r).rows.length = t.rows.length + 1 := by
      have hkept : t.rows.filter (fun q => !decide (key q = key r)) = t.rows := by
        refine List.filter_eq_self.mpr fun q hq => ?_
        have hne := find?_eq_none.mp (hnew r (List.mem_cons_self ..)) q hq
        simp [hne]
      rw [replace, List.length_append, List.length_singleton]
      exact congrArg (fun rows => rows.length + 1) hkept
    have hrest : ∀ q ∈ rs, (t.replace r).find? (key q) = none := by
      intro q hq
      have hne : key r ≠ key q := fun heq => hr (List.mem_map.mpr ⟨q, hq, heq.symm⟩)
      rw [find?_replace, if_neg hne]
      exact hnew q (List.mem_cons_of_mem _ hq)
    calc ((t.replace r).replaceAll rs).rows.length
        = (t.replace r).rows.length + rs.length := ih hrs hrest
      _ = t.rows.length + (r :: rs).length := by rw [hone, List.length_cons]; omega

lemma mem_replaceAll {rs : List ρ} {r : ρ} (h : r ∈ (t.replaceAll rs).rows) :
    r ∈ rs ∨ r ∈ t.rows := by
  induction rs generalizing t with
  | nil => exact .inr h
  | cons q rs ih =>
    rcases ih h with hr | hr
    · exact .inl (List.mem_cons_of_mem _ hr)
    · rcases List.mem_append.mp hr with hr | hr
      · exact .inr (List.mem_filter.mp hr).1
      · exact .inl (List.mem_cons.mpr (.inl (List.mem_singleton.mp hr)))

end Replace

lemma mem_update {p : ρ → Bool} {f : ρ → ρ} {hf : ∀ r, key (f r) = key r} {r : ρ} :
    r ∈ (t.update p f hf).rows ↔ ∃ q ∈ t.rows, (if p q then f q else q) = r := by
  simp [update]

/-- A column that an update keeps on the rows that it changes. -/
lemma map_update {γ : Type} {p : ρ → Bool} {f : ρ → ρ} (hf : ∀ r, key (f r) = key r) {g : ρ → γ}
    (h : ∀ r ∈ t.rows, p r = true → g (f r) = g r) : (t.update p f hf).rows.map g = t.rows.map g := by
  rw [update, List.map_map]
  refine List.map_congr_left fun r hr => ?_
  by_cases hp : p r
  · simp [hp, h r hr hp]
  · simp [hp]

lemma le_maximum (f : ρ → ℕ) {r : ρ} (hr : r ∈ t.rows) : f r ≤ t.maximum f := by
  unfold maximum
  generalize t.rows = rows at hr
  induction rows with
  | nil => cases hr
  | cons q rows ih =>
    rw [List.map_cons, List.foldr_cons]
    rcases List.mem_cons.mp hr with rfl | hr
    · exact le_max_left _ _
    · exact (ih hr).trans (le_max_right _ _)

lemma maximum_le (f : ρ → ℕ) {b : ℕ} (h : ∀ r ∈ t.rows, f r ≤ b) : t.maximum f ≤ b := by
  unfold maximum
  generalize t.rows = rows at h
  induction rows with
  | nil => exact Nat.zero_le b
  | cons q rows ih =>
    rw [List.map_cons, List.foldr_cons]
    exact max_le (h q (List.mem_cons_self ..)) (ih fun r hr => h r (List.mem_cons_of_mem _ hr))

/-- A maximum over a column that an update leaves alone. -/
lemma maximum_update {p : ρ → Bool} {f : ρ → ρ} (hf : ∀ r, key (f r) = key r) {g : ρ → ℕ}
    (hg : ∀ r, g (f r) = g r) : (t.update p f hf).maximum g = t.maximum g := by
  have hcolumn : (g ∘ fun r => if p r then f r else r) = g := by
    funext r
    by_cases hp : p r <;> simp [hp, hg]
  rw [maximum, update, List.map_map, hcolumn]
  rfl

/-- At most one row is counted when any two counted rows have the same key. -/
lemma count_le_one {p : ρ → Bool}
    (h : ∀ r ∈ t.rows, ∀ q ∈ t.rows, p r → p q → key r = key q) : t.count p ≤ 1 := by
  have hsub : ((t.rows.filter p).map key).Nodup :=
    t.nodup.sublist (List.filter_sublist.map key)
  have hall : ∀ r ∈ t.rows.filter p, ∀ q ∈ t.rows.filter p, key r = key q := by
    intro r hr q hq
    exact h r (List.mem_filter.mp hr).1 q (List.mem_filter.mp hq).1
      (List.mem_filter.mp hr).2 (List.mem_filter.mp hq).2
  rw [count, List.countP_eq_length_filter]
  generalize t.rows.filter p = rows at hsub hall
  match rows with
  | [] => simp
  | [_] => simp
  | r :: q :: rest =>
    have hkey := hall r (by simp) q (by simp)
    simp [hkey] at hsub

end Table

end Relational
