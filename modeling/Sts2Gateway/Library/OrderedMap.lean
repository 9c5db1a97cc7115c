/-
Ordered maps with lawful keys.

* `getElem?_insert_if`, `getElem?_erase_if`, `getElem?_modify_if`: lookups by
  equality of keys;
* `erase_insert_of_none`, `modify_insert`, `insert_insert`: what an update
  after an insertion at the same key leaves;
* `size_insert_of_none`, `size_insert_of_mem`: an insertion at a new key takes one place,
  at an old one none;
* `toList_eq_of_sorted`, `toList_insert_of_none`, `toList_insert_of_mem`: what an
  insertion does to the listed entries;
* `foldlM_values`, `foldl_values`: a fold that inserts one entry for each value of a
  map rebuilds the map, with its values mapped;
* `makeRoom`, `latest`, `latest_of_insert`, `held_or_first`: **a bounded map that forgets
  its first key**, against the log of what was put into it.
-/
import Mathlib.Tactic

namespace OrderedMap

open Std

variable {α β γ ρ ε : Type} {cmp : α → α → Ordering} [TransCmp cmp] {t : ExtTreeMap α β cmp}

lemma size_insert_of_none {k : α} {v : β} (h : t[k]? = none) :
    (t.insert k v).size = t.size + 1 := by
  have hk : ¬ k ∈ t := by
    intro hk
    have := ExtTreeMap.getElem?_eq_some_getElem hk
    rw [h] at this
    cases this
  rw [ExtTreeMap.size_insert, if_neg (by simpa [ExtTreeMap.contains_iff_mem] using hk)]

lemma size_insert_of_mem {k : α} {v : β} (h : k ∈ t) : (t.insert k v).size = t.size := by
  rw [ExtTreeMap.size_insert, if_pos (by simpa [ExtTreeMap.contains_iff_mem] using h)]

lemma mem_iff_getElem?_ne_none {k : α} : k ∈ t ↔ t[k]? ≠ none := by
  constructor
  · intro hk h
    have := ExtTreeMap.getElem?_eq_some_getElem hk
    rw [h] at this
    cases this
  · intro h
    by_contra hk
    exact h (ExtTreeMap.getElem?_eq_none hk)

variable [LawfulEqCmp cmp]

/-- A sorted list with the entries of a map lists the map. -/
lemma toList_eq_of_sorted {l : List (α × β)} (hsorted : l.Pairwise fun p q => cmp p.1 q.1 = .lt)
    (hmem : ∀ p, p ∈ l ↔ t[p.1]? = some p.2) : t.toList = l := by
  have hirrefl : ∀ p : α × β, cmp p.1 p.1 ≠ .lt := fun p => by simp [ReflCmp.compare_self]
  have hnodup : ∀ {l : List (α × β)}, l.Pairwise (fun p q => cmp p.1 q.1 = .lt) → l.Nodup := by
    intro l hl
    refine hl.imp fun {p q} hlt heq => ?_
    rw [heq] at hlt
    exact hirrefl q hlt
  have hordered := ExtTreeMap.ordered_keys_toList (t := t)
  refine List.Perm.eq_of_pairwise (fun p q _ _ hpq hqp => ?_) hordered hsorted
    ((List.perm_ext_iff_of_nodup (hnodup hordered) (hnodup hsorted)).mpr fun p => ?_)
  · rw [OrientedCmp.gt_of_lt hpq] at hqp
    cases hqp
  · rw [hmem]
    exact ExtTreeMap.mem_toList_iff_getElem?_eq_some

variable [DecidableEq α]

lemma getElem?_insert_if {k a : α} {v : β} :
    (t.insert k v)[a]? = if k = a then some v else t[a]? := by
  simp [ExtTreeMap.getElem?_insert, LawfulEqCmp.compare_eq_iff_eq]

lemma getElem?_erase_if {k a : α} : (t.erase k)[a]? = if k = a then none else t[a]? := by
  simp [ExtTreeMap.getElem?_erase, LawfulEqCmp.compare_eq_iff_eq]

lemma getElem?_modify_if {k a : α} {f : β → β} :
    (t.modify k f)[a]? = if k = a then t[k]?.map f else t[a]? := by
  simp [ExtTreeMap.getElem?_modify, LawfulEqCmp.compare_eq_iff_eq]

/-- Taking back an insertion at a new key. -/
lemma erase_insert_of_none {k : α} {v : β} (h : t[k]? = none) : (t.insert k v).erase k = t := by
  refine ExtTreeMap.ext_getElem? fun a => ?_
  rw [getElem?_erase_if, getElem?_insert_if]
  by_cases hka : k = a
  · subst hka
    simp [h]
  · simp [hka]

/-- Changing the value that was just inserted. -/
lemma modify_insert {k : α} {v : β} {f : β → β} :
    (t.insert k v).modify k f = t.insert k (f v) := by
  refine ExtTreeMap.ext_getElem? fun a => ?_
  rw [getElem?_modify_if, getElem?_insert_if, getElem?_insert_if, getElem?_insert_if]
  by_cases hka : k = a <;> simp [hka]

/-- A second insertion at a key replaces the first. -/
lemma insert_insert {k : α} {v w : β} : (t.insert k v).insert k w = t.insert k w := by
  refine ExtTreeMap.ext_getElem? fun a => ?_
  simp only [getElem?_insert_if]
  by_cases hka : k = a <;> simp [hka]

/-! ### The listed entries -/

/-- A new entry enters the list of a map somewhere. -/
lemma toList_insert_of_none {k : α} {v : β} (h : t[k]? = none) :
    ∃ front back, t.toList = front ++ back ∧ (t.insert k v).toList = front ++ (k, v) :: back := by
  have hordered := ExtTreeMap.ordered_keys_toList (t := t)
  have hmem : ∀ p, p ∈ t.toList ↔ t[p.1]? = some p.2 := fun p =>
    ExtTreeMap.mem_toList_iff_getElem?_eq_some
  have hne : ∀ p ∈ t.toList, p.1 ≠ k := by
    rintro p hp rfl
    rw [(hmem p).mp hp] at h
    cases h
  have hcases : ∀ p ∈ t.toList, cmp p.1 k = .lt ∨ cmp k p.1 = .lt := by
    intro p hp
    cases hcmp : cmp p.1 k with
    | lt => exact .inl rfl
    | eq => exact absurd (LawfulEqCmp.eq_of_compare hcmp) (hne p hp)
    | gt => exact .inr (OrientedCmp.lt_of_gt hcmp)
  refine ⟨t.toList.filter fun p => cmp p.1 k = .lt, t.toList.filter fun p => cmp k p.1 = .lt,
    toList_eq_of_sorted ?_ fun p => ?_, toList_eq_of_sorted ?_ fun p => ?_⟩
  · refine List.pairwise_append.mpr ⟨hordered.filter _, hordered.filter _, fun p hp q hq => ?_⟩
    have hp := of_decide_eq_true (List.mem_filter.mp hp).2
    exact TransCmp.lt_trans hp (of_decide_eq_true (List.mem_filter.mp hq).2)
  · rw [List.mem_append, List.mem_filter, List.mem_filter, ← hmem, decide_eq_true_eq,
      decide_eq_true_eq, ← and_or_left]
    exact ⟨fun hp => hp.1, fun hp => ⟨hp, hcases p hp⟩⟩
  · refine List.pairwise_append.mpr ⟨hordered.filter _, List.pairwise_cons.mpr
      ⟨fun q hq => of_decide_eq_true (List.mem_filter.mp hq).2, hordered.filter _⟩, ?_⟩
    intro p hp q hq
    have hp := of_decide_eq_true (List.mem_filter.mp hp).2
    rcases List.mem_cons.mp hq with rfl | hq
    · exact hp
    · exact TransCmp.lt_trans hp (of_decide_eq_true (List.mem_filter.mp hq).2)
  · rw [getElem?_insert_if, List.mem_append, List.mem_cons, List.mem_filter, List.mem_filter,
      decide_eq_true_eq, decide_eq_true_eq]
    obtain ⟨a, b⟩ := p
    by_cases hk : k = a
    · subst hk
      rw [if_pos rfl, Option.some.injEq, eq_comm (a := v), Prod.mk.injEq]
      have hself : cmp k k ≠ .lt := by simp [ReflCmp.compare_self]
      simp [hself]
    · rw [if_neg hk, ← hmem]
      have hentry : (a, b) ≠ (k, v) := fun heq => hk (congrArg Prod.fst heq).symm
      constructor
      · rintro (hp | heq | hp)
        · exact hp.1
        · exact absurd heq hentry
        · exact hp.1
      · intro hp
        exact (hcases _ hp).imp (fun hlt => ⟨hp, hlt⟩) fun hlt => .inr ⟨hp, hlt⟩

/-- A new value under an old key stays in its place. -/
lemma toList_insert_of_mem {k : α} {v : β} (h : k ∈ t) :
    (t.insert k v).toList = t.toList.map fun p => if p.1 = k then (k, v) else p := by
  have hmem : ∀ p, p ∈ t.toList ↔ t[p.1]? = some p.2 := fun p =>
    ExtTreeMap.mem_toList_iff_getElem?_eq_some
  have hfst : ∀ p : α × β, (if p.1 = k then (k, v) else p).1 = p.1 := by
    intro p
    split_ifs with hk
    · exact hk.symm
    · rfl
  refine toList_eq_of_sorted ?_ fun p => ?_
  · rw [List.pairwise_map]
    refine ExtTreeMap.ordered_keys_toList.imp fun {p q} hlt => ?_
    rwa [hfst, hfst]
  · rw [getElem?_insert_if, List.mem_map]
    obtain ⟨a, b⟩ := p
    constructor
    · rintro ⟨q, hq, heq⟩
      split_ifs at heq with hk
      · rw [if_pos (congrArg Prod.fst heq)]
        exact congrArg some (congrArg Prod.snd heq)
      · subst heq
        rw [if_neg (Ne.symm hk)]
        exact (hmem _).mp hq
    · intro hfind
      dsimp only at hfind
      split_ifs at hfind with hk
      · obtain ⟨w, hw⟩ := Option.ne_none_iff_exists'.mp (mem_iff_getElem?_ne_none.mp h)
        refine ⟨(k, w), (hmem _).mpr hw, ?_⟩
        rw [if_pos rfl, ← hk, Option.some.inj hfind]
      · exact ⟨(a, b), (hmem _).mpr hfind, if_neg (Ne.symm hk)⟩

/-! ### Rebuilding a map from its values -/

/-- A fold whose step inserts one entry for each element of a list with distinct
keys: what it looks up afterwards. -/
lemma foldlM_insert {step : ExtTreeMap α γ cmp → ρ → Except ε (ExtTreeMap α γ cmp)} {row : β → ρ}
    {f : α → β → γ} :
    ∀ (l : List (α × β)) (acc : ExtTreeMap α γ cmp), l.Pairwise (fun p q => p.1 ≠ q.1) →
      (∀ p ∈ l, acc[p.1]? = none) →
      (∀ p ∈ l, ∀ acc, acc[p.1]? = none → step acc (row p.2) = .ok (acc.insert p.1 (f p.1 p.2))) →
      ∃ m, (l.map fun p => row p.2).foldlM step acc = .ok m ∧
        (∀ p ∈ l, m[p.1]? = some (f p.1 p.2)) ∧
        ∀ a, (∀ p ∈ l, p.1 ≠ a) → m[a]? = acc[a]?
  | [], acc, _, _, _ => ⟨acc, rfl, by simp, by simp⟩
  | p :: l, acc, hd, hfresh, hstep => by
      obtain ⟨hp, hl⟩ := List.pairwise_cons.mp hd
      have hnext : ∀ q ∈ l, (acc.insert p.1 (f p.1 p.2))[q.1]? = none := by
        intro q hq
        rw [getElem?_insert_if, if_neg (hp q hq)]
        exact hfresh q (List.mem_cons_of_mem _ hq)
      obtain ⟨m, hm, hin, hout⟩ := foldlM_insert l (acc.insert p.1 (f p.1 p.2)) hl hnext
        fun q hq => hstep q (List.mem_cons_of_mem _ hq)
      refine ⟨m, ?_, ?_, ?_⟩
      · rw [List.map_cons, List.foldlM_cons, hstep p List.mem_cons_self acc
          (hfresh p List.mem_cons_self)]
        exact hm
      · rintro q (_ | ⟨_, hq⟩)
        · rw [hout p.1 fun q hq => (hp q hq).symm, getElem?_insert_if, if_pos rfl]
        · exact hin q hq
      · intro a ha
        rw [hout a fun q hq => ha q (List.mem_cons_of_mem _ hq), getElem?_insert_if,
          if_neg (ha p List.mem_cons_self)]

/-- **Rebuilding**: folding over the values of a map, one insertion each. -/
theorem foldlM_values {step : ExtTreeMap α γ cmp → ρ → Except ε (ExtTreeMap α γ cmp)}
    (row : β → ρ) (f : α → β → γ)
    (hstep : ∀ k v, t[k]? = some v → ∀ acc : ExtTreeMap α γ cmp, acc[k]? = none →
      step acc (row v) = .ok (acc.insert k (f k v))) :
    (t.toList.map fun p => row p.2).foldlM step ∅ = .ok (t.map f) := by
  have hdistinct : t.toList.Pairwise fun p q => p.1 ≠ q.1 := by
    refine ExtTreeMap.distinct_keys_toList.imp fun h heq => h ?_
    rw [heq]
    exact ReflCmp.compare_self
  obtain ⟨m, hm, hin, hout⟩ := foldlM_insert t.toList (∅ : ExtTreeMap α γ cmp) hdistinct
    (by simp) fun p hp acc => hstep p.1 p.2 (ExtTreeMap.mem_toList_iff_getElem?_eq_some.mp hp) acc
  rw [hm]
  refine congrArg Except.ok (ExtTreeMap.ext_getElem? fun a => ?_)
  rw [ExtTreeMap.getElem?_map]
  cases hv : t[a]? with
  | none =>
    rw [hout a]
    · simp
    · rintro p hp rfl
      rw [ExtTreeMap.mem_toList_iff_getElem?_eq_some.mp hp] at hv
      cases hv
  | some v =>
    rw [hin (a, v) (ExtTreeMap.mem_toList_iff_getElem?_eq_some.mpr hv)]
    rfl

/-- A map whose values know their keys is built again from its values. -/
lemma foldl_values {key : β → α} (hkey : ∀ k v, t[k]? = some v → key v = k) :
    (t.toList.map Prod.snd).foldl (fun acc v => acc.insert (key v) v) ∅ = t := by
  have hfold : ∀ (l : List β) (acc : ExtTreeMap α β cmp),
      l.foldlM (fun acc v => (.ok (acc.insert (key v) v) : Except Unit _)) acc =
        .ok (l.foldl (fun acc v => acc.insert (key v) v) acc) := by
    intro l
    induction l with
    | nil => intro acc; rfl
    | cons v l ih => intro acc; exact ih _
  have hvalues : (t.toList.map fun p => p.2).foldlM
      (fun acc v => (.ok (acc.insert (key v) v) : Except Unit _)) ∅ = .ok (t.map fun _ v => v) :=
    foldlM_values id (fun _ v => v) fun k v hv acc _ => by rw [id, hkey k v hv]
  have hmap : t.map (fun _ v => v) = t := by
    refine ExtTreeMap.ext_getElem? fun a => ?_
    rw [ExtTreeMap.getElem?_map]
    cases t[a]? <;> rfl
  rw [hmap] at hvalues
  exact Except.ok.inj ((hfold _ _).symm.trans hvalues)

/-! ### Bounded maps -/

/-- A map with room for one more entry: a full one forgets its first key. -/
def makeRoom (capacity : ℕ) (t : ExtTreeMap α β cmp) : ExtTreeMap α β cmp :=
  if capacity ≤ t.size then t.minKey?.elim t t.erase else t

/-- What was put under a key last. -/
def latest (log : List (α × β)) (k : α) : Option β := log.reverse.lookup k

lemma latest_concat {log : List (α × β)} {k a : α} {v : β} :
    latest (log ++ [(k, v)]) a = if k = a then some v else latest log a := by
  rw [latest, List.reverse_append, List.reverse_singleton, List.singleton_append, List.lookup_cons]
  by_cases hka : k = a
  · rw [if_pos hka, hka, beq_self_eq_true]
  · rw [if_neg hka, beq_false_of_ne (Ne.symm hka)]
    rfl

/-- A log that maps all its keys to one value. -/
lemma latest_map_const {keys : List α} {k : α} {v : β} (h : k ∈ keys) :
    latest (keys.map fun key => (key, v)) k = some v := by
  induction keys using List.reverseRecOn with
  | nil => exact absurd h List.not_mem_nil
  | append_singleton keys key ih =>
    rw [List.map_append, List.map_singleton, latest_concat]
    rw [List.mem_append, List.mem_singleton] at h
    split_ifs with hkey
    · rfl
    · exact ih (h.resolve_right (Ne.symm hkey))

/-- An entry survives, unless its key is the first of a full map. -/
lemma getElem?_makeRoom (capacity : ℕ) (t : ExtTreeMap α β cmp) (a : α) :
    (makeRoom capacity t)[a]? = t[a]? ∨
      ((makeRoom capacity t)[a]? = none ∧ capacity ≤ t.size ∧ t.minKey? = some a) := by
  rw [makeRoom]
  split_ifs with hfull
  · cases hmin : t.minKey? with
    | none => exact .inl rfl
    | some first =>
      dsimp only [Option.elim]
      rw [getElem?_erase_if]
      split_ifs with hfirst
      · exact .inr ⟨rfl, hfull, by rw [hfirst]⟩
      · exact .inl rfl
  · exact .inl rfl

/-- What a bounded map holds is what was put last, one entry more. -/
lemma latest_of_insert {capacity : ℕ} {log : List (α × β)}
    (h : ∀ a w, t[a]? = some w → latest log a = some w) {k : α} {v : β} {a : α} {w : β}
    (hfind : ((makeRoom capacity t).insert k v)[a]? = some w) :
    latest (log ++ [(k, v)]) a = some w := by
  rw [getElem?_insert_if] at hfind
  rw [latest_concat]
  by_cases hka : k = a
  · rw [if_pos hka] at hfind ⊢
    exact hfind
  · rw [if_neg hka] at hfind ⊢
    obtain hroom | ⟨hroom, -⟩ := getElem?_makeRoom capacity t a
    · exact h a w (hroom ▸ hfind)
    · rw [hroom] at hfind
      cases hfind

/-- A held key is held after one entry more, unless it is the first of a full map. -/
lemma held_or_first (capacity : ℕ) (k : α) {a : α} (v : β) (h : a ∈ t) :
    a ∈ (makeRoom capacity t).insert k v ∨
      (k ≠ a ∧ capacity ≤ t.size ∧ t.minKey? = some a) := by
  rw [mem_iff_getElem?_ne_none] at h ⊢
  rw [getElem?_insert_if]
  by_cases hka : k = a
  · rw [if_pos hka]
    exact .inl (Option.some_ne_none v)
  · rw [if_neg hka]
    obtain hroom | ⟨-, hfull, hfirst⟩ := getElem?_makeRoom capacity t a
    · rw [hroom]
      exact .inl h
    · exact .inr ⟨hka, hfull, hfirst⟩

end OrderedMap
