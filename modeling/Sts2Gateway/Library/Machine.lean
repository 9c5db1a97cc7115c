/-
Runs of a deterministic machine.

* `run`, `outputs`: the state after a list of inputs, and what the steps gave
  out on the way;
* `Along`: a condition on each step of a run, against the state it is taken in;
* `run_invariant`, `run_relation`, `run_until`: what each step keeps, a run keeps;
* `prefixes_iff_along`: what a step keeps under a condition, a run keeps along it;
* `exists_last_step`: what a run loses, one of its steps loses;
* `outputs_nodup`: **what is given out is claimed for ever**;
* `outputs_increasing`: **what is given out against a counter is strictly
  increasing**, so nothing is given out twice.
-/
import Mathlib.Tactic

namespace Machine

variable {σ ι β : Type} (step : σ → ι → σ)

def run (s : σ) (inputs : List ι) : σ := inputs.foldl step s

/-- What the steps of a run give out, in order. -/
def outputs (out : σ → ι → Option β) : σ → List ι → List β
  | _, [] => []
  | s, i :: inputs => (out s i).toList ++ outputs out (step s i) inputs

/-- Each step meets a condition in the state it is taken in. -/
def Along (C : σ → ι → Prop) : σ → List ι → Prop
  | _, [] => True
  | s, i :: inputs => C s i ∧ Along C (step s i) inputs

variable {step} {C : σ → ι → Prop} {s : σ}

@[simp] lemma run_nil : run step s [] = s := rfl

@[simp] lemma run_cons (i : ι) (inputs : List ι) :
    run step s (i :: inputs) = run step (step s i) inputs := rfl

lemma run_append (xs ys : List ι) : run step s (xs ++ ys) = run step (run step s xs) ys :=
  List.foldl_append

lemma outputs_append (out : σ → ι → Option β) (xs ys : List ι) :
    outputs step out s (xs ++ ys) = outputs step out s xs ++ outputs step out (run step s xs) ys := by
  induction xs generalizing s with
  | nil => rfl
  | cons i xs ih => simp [outputs, ih]

lemma outputs_map {γ : Type} (out : σ → ι → Option β) (f : β → γ) (inputs : List ι) :
    outputs step (fun s i => (out s i).map f) s inputs = (outputs step out s inputs).map f := by
  induction inputs generalizing s with
  | nil => rfl
  | cons i inputs ih =>
    rw [outputs, outputs, ih, List.map_append]
    cases out s i <;> rfl

lemma along_append {xs ys : List ι} :
    Along step C s (xs ++ ys) ↔ Along step C s xs ∧ Along step C (run step s xs) ys := by
  induction xs generalizing s with
  | nil => simp [Along]
  | cons i xs ih => simp [Along, ih, and_assoc]

/-- A step of a run that meets the condition along it. -/
lemma Along.at_step {xs ys : List ι} {i : ι} (h : Along step C s (xs ++ i :: ys)) :
    C (run step s xs) i :=
  (along_append.mp h).2.1

/-- A condition that holds at each step that a run can take holds along it. -/
lemma along_of_forall {inputs : List ι}
    (h : ∀ xs i ys, inputs = xs ++ i :: ys → C (run step s xs) i) : Along step C s inputs := by
  induction inputs generalizing s with
  | nil => trivial
  | cons i inputs ih =>
    exact ⟨h [] i inputs rfl, ih fun xs j ys hsplit => h (i :: xs) j ys (by rw [hsplit]; rfl)⟩

section Rules

variable {P : σ → Prop}

/-- **Invariants.**  What each step keeps holds after every run. -/
theorem run_invariant (hstep : ∀ s i, P s → P (step s i)) (hs : P s) (inputs : List ι) :
    P (run step s inputs) := by
  induction inputs generalizing s with
  | nil => exact hs
  | cons i inputs ih => exact ih (hstep s i hs)

/-- **Relations.**  A preorder that relates each step's states relates the ends of a run. -/
theorem run_relation {R : σ → σ → Prop} (hrefl : ∀ s, R s s)
    (htrans : ∀ s t u, R s t → R t u → R s u) (hinv : ∀ s i, P s → P (step s i))
    (hstep : ∀ s i, P s → C s i → R s (step s i)) (hs : P s) {inputs : List ι}
    (halong : Along step C s inputs) : R s (run step s inputs) := by
  induction inputs generalizing s with
  | nil => exact hrefl s
  | cons i inputs ih =>
    exact htrans _ _ _ (hstep s i hs halong.1) (ih (hinv s i hs) halong.2)

/-- **Until.**  What each step keeps or ends holds after a run, unless it has ended. -/
theorem run_until {Q : σ → Prop} (hstep : ∀ s i, C s i → P s → P (step s i) ∨ Q (step s i))
    (hs : P s) {inputs : List ι} (halong : Along step C s inputs) :
    P (run step s inputs) ∨ ∃ xs ys, inputs = xs ++ ys ∧ Q (run step s xs) := by
  induction inputs generalizing s with
  | nil => exact .inl hs
  | cons i inputs ih =>
    rcases hstep s i halong.1 hs with hnext | hended
    · rcases ih hnext halong.2 with hrun | ⟨xs, ys, rfl, hended⟩
      · exact .inl hrun
      · exact .inr ⟨i :: xs, ys, rfl, hended⟩
    · exact .inr ⟨[i], inputs, rfl, hended⟩

/-- **Prefixes.**  What a step keeps exactly under a condition holds in every state of a run
exactly when the condition holds along it. -/
theorem prefixes_iff_along {Q : σ → Prop} (hinv : ∀ s i, P s → P (step s i))
    (hstep : ∀ s i, P s → Q s → (Q (step s i) ↔ C s i)) (hs : P s) (hQ : Q s) (inputs : List ι) :
    (∀ before after, inputs = before ++ after → Q (run step s before)) ↔ Along step C s inputs := by
  induction inputs generalizing s with
  | nil =>
    refine iff_of_true (fun before after hsplit => ?_) trivial
    rw [(List.append_eq_nil_iff.mp hsplit.symm).1]
    exact hQ
  | cons i inputs ih =>
    constructor
    · intro hall
      have hnext : Q (step s i) := hall [i] inputs rfl
      refine ⟨(hstep s i hs hQ).mp hnext, (ih (hinv s i hs) hnext).mp fun before after hsplit => ?_⟩
      exact hall (i :: before) after (by rw [hsplit]; rfl)
    · rintro ⟨hC, halong⟩ before after hsplit
      have hnext : Q (step s i) := (hstep s i hs hQ).mpr hC
      cases before with
      | nil => exact hQ
      | cons j before =>
        obtain ⟨rfl, hrest⟩ := List.cons.inj hsplit
        exact (ih (hinv s i hs) hnext).mpr halong before after hrest

/-- **Losses.**  A condition that a run loses is lost by one of its steps. -/
theorem exists_last_step (hs : P s) {inputs : List ι} (hend : ¬ P (run step s inputs)) :
    ∃ xs i ys, inputs = xs ++ i :: ys ∧ P (run step s xs) ∧ ¬ P (run step s (xs ++ [i])) := by
  induction inputs generalizing s with
  | nil => exact absurd hs hend
  | cons i inputs ih =>
    by_cases hnext : P (step s i)
    · obtain ⟨xs, j, ys, rfl, hbefore, hafter⟩ := ih hnext hend
      exact ⟨i :: xs, j, ys, rfl, hbefore, hafter⟩
    · exact ⟨[], i, inputs, rfl, hs, hnext⟩

/-- **Claims.**  What is given out was unclaimed before and stays claimed from then on, so
nothing is given out twice. -/
theorem outputs_nodup {out : σ → ι → Option β} (Claimed : σ → β → Prop)
    (hinv : ∀ s i, P s → P (step s i))
    (hkept : ∀ s i b, P s → Claimed s b → Claimed (step s i) b)
    (hout : ∀ s i b, P s → out s i = some b → ¬ Claimed s b ∧ Claimed (step s i) b)
    (hs : P s) (inputs : List ι) :
    (outputs step out s inputs).Nodup ∧ ∀ b ∈ outputs step out s inputs, ¬ Claimed s b := by
  induction inputs generalizing s with
  | nil => simp [outputs]
  | cons i inputs ih =>
    obtain ⟨hnodup, hunclaimed⟩ := ih (hinv s i hs)
    have hearlier : ∀ b ∈ outputs step out (step s i) inputs, ¬ Claimed s b :=
      fun b hb hclaimed => hunclaimed b hb (hkept s i b hs hclaimed)
    rw [outputs]
    cases hi : out s i with
    | none => exact ⟨hnodup, hearlier⟩
    | some b =>
      obtain ⟨hfree, hclaimed⟩ := hout s i b hs hi
      simp only [Option.toList_some, List.singleton_append, List.nodup_cons, List.mem_cons,
        forall_eq_or_imp]
      exact ⟨⟨fun hb => hunclaimed b hb hclaimed, hnodup⟩, hfree, hearlier⟩

variable {out : σ → ι → Option ℕ} (counter : σ → ℕ)

/-- **Counters.**  What is above the counter before a step and not above it after
the step is given out in strictly increasing order. -/
theorem outputs_increasing (hinv : ∀ s i, P s → P (step s i))
    (hmono : ∀ s i, P s → C s i → counter s ≤ counter (step s i))
    (hout : ∀ s i n, P s → C s i → out s i = some n → counter s < n ∧ n ≤ counter (step s i))
    (hs : P s) {inputs : List ι} (halong : Along step C s inputs) :
    (outputs step out s inputs).Pairwise (· < ·) ∧ ∀ n ∈ outputs step out s inputs, counter s < n := by
  induction inputs generalizing s with
  | nil => simp [outputs]
  | cons i inputs ih =>
    obtain ⟨hC, halong⟩ := halong
    obtain ⟨hpair, habove⟩ := ih (hinv s i hs) halong
    have hle := hmono s i hs hC
    rw [outputs]
    cases hi : out s i with
    | none => exact ⟨hpair, fun n hn => hle.trans_lt (habove n hn)⟩
    | some m =>
      obtain ⟨hlt, hnext⟩ := hout s i m hs hC hi
      simp only [Option.toList_some, List.singleton_append, List.pairwise_cons, List.mem_cons,
        forall_eq_or_imp]
      exact ⟨⟨fun n hn => hnext.trans_lt (habove n hn), hpair⟩, hlt,
        fun n hn => hle.trans_lt (habove n hn)⟩

end Rules

end Machine
