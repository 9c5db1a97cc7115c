/-
Fallible procedures on a mutable state.

A method that takes its receiver by mutable reference and returns a result is
an `EStateM` computation: an error keeps the state that was reached.

* `refuse`, `okOr`: one guard of a chain of early returns;
* `except_bind_eq_ok`, `refuse_eq_ok`, `list_forM_eq_ok`, `option_forM_eq_ok`:
  what an accepted chain of guards says;
* `Returns`: what every value that a chain returns has, with one rule for each of
  its parts;
* `run_liftM`, `run_throw`: a pure check and an early return leave the state as
  it is.
-/
import Mathlib.Tactic

namespace Procedure

variable {ε σ α β : Type}

/-! ### Guards -/

/-- An early return with `e` when `p` holds. -/
def refuse {ε : Type} (p : Prop) [Decidable p] (e : ε) : Except ε Unit :=
  if p then .error e else .ok ()

/-- A guard lets a value through exactly when its condition fails. -/
@[simp] lemma refuse_eq_ok {p : Prop} [Decidable p] {e : ε} {u : Unit} :
    refuse p e = .ok u ↔ ¬ p := by
  unfold refuse
  split_ifs with h <;> simp [h]

/-- A value that must be there. -/
def okOr (o : Option α) (e : ε) : Except ε α := o.elim (.error e) .ok

@[simp] lemma okOr_none (e : ε) : okOr (none : Option α) e = .error e := rfl

@[simp] lemma okOr_some (a : α) (e : ε) : okOr (some a) e = .ok a := rfl

lemma okOr_eq_ok {o : Option α} {e : ε} {a : α} : okOr o e = .ok a ↔ o = some a := by
  cases o <;> simp

/-- A chain of checks succeeds when each of its parts does. -/
@[simp] lemma except_bind_eq_ok {x : Except ε α} {f : α → Except ε β} {b : β} :
    (x >>= f) = .ok b ↔ ∃ a, x = .ok a ∧ f a = .ok b := by
  cases x <;> simp [bind, Except.bind]

/-- Two chains that begin alike answer alike when what follows does. -/
lemma map_bind_congr {γ : Type} {x : Except ε β} {f g : β → Except ε α} {h : α → γ}
    (hfg : ∀ b, x = .ok b → (f b).map h = (g b).map h) :
    (x >>= f).map h = (x >>= g).map h := by
  cases x with
  | error e => rfl
  | ok b => exact hfg b rfl

/-- A check has only one way to succeed. -/
@[simp] lemma exists_unit_eq_ok {x : Except ε Unit} : (∃ u, x = .ok u) ↔ x = .ok () :=
  ⟨fun ⟨(), h⟩ => h, fun h => ⟨(), h⟩⟩

/-- A checked list is checked at each of its elements. -/
lemma list_forM_eq_ok {xs : List α} {f : α → Except ε Unit} {u : Unit} :
    xs.forM f = .ok u ↔ ∀ x ∈ xs, f x = .ok () := by
  induction xs with
  | nil => simp [List.forM, pure, Except.pure]
  | cons x xs ih =>
    rw [List.forM, except_bind_eq_ok]
    simp only [ih, List.mem_cons, forall_eq_or_imp]
    exact ⟨fun ⟨_, hx, hxs⟩ => ⟨hx, hxs⟩, fun ⟨hx, hxs⟩ => ⟨_, hx, hxs⟩⟩

/-- A fold that succeeds has stepped through each element. -/
lemma foldlM_eq_ok_mem {f : β → α → Except ε β} {xs : List α} {acc result : β}
    (h : xs.foldlM f acc = .ok result) {x : α} (hx : x ∈ xs) :
    ∃ before after, f before x = .ok after := by
  induction xs generalizing acc with
  | nil => cases hx
  | cons y ys ih =>
    obtain ⟨next, hy, hys⟩ := except_bind_eq_ok.mp (List.foldlM_cons (m := Except ε) ▸ h)
    rcases List.mem_cons.mp hx with rfl | hx
    · exact ⟨acc, next, hy⟩
    · exact ih hys hx

/-- An optional field is checked when its value is. -/
lemma option_forM_eq_ok {o : Option α} {f : α → Except ε Unit} {u : Unit} :
    o.forM f = .ok u ↔ ∀ a ∈ o, f a = .ok () := by
  cases o <;> simp [Option.forM, pure, Except.pure]

/-! ### Returned values -/

/-- Each value that a computation returns has a property. -/
def Returns (x : Except ε α) (P : α → Prop) : Prop := ∀ a, x = .ok a → P a

namespace Returns

variable {P : α → Prop}

lemma bind {x : Except ε β} {f : β → Except ε α} (h : ∀ b, x = .ok b → Returns (f b) P) :
    Returns (x >>= f) P := by
  intro a ha
  obtain ⟨b, hb, hf⟩ := except_bind_eq_ok.mp ha
  exact h b hb a hf

/-- What a guard says does not depend on what is returned. -/
lemma const {x : Except ε α} {Q : Prop} (h : Q) : Returns x fun _ => Q := fun _ _ => h

/-- After a guard, its condition fails. -/
lemma refuse {p : Prop} [Decidable p] {e : ε} {f : Unit → Except ε α} (h : ¬ p → Returns (f ()) P) :
    Returns (Procedure.refuse p e >>= f) P :=
  bind fun _ hp => h (refuse_eq_ok.mp hp)

lemma ok {a : α} (h : P a) : Returns (.ok a : Except ε α) P := by
  rintro _ ⟨⟩
  exact h

lemma pure {a : α} (h : P a) : Returns (Pure.pure a : Except ε α) P := ok h

lemma error {e : ε} : Returns (.error e : Except ε α) P := by
  rintro _ ⟨⟩

/-- A value that must be there. -/
lemma elim {o : Option β} {e : ε} {f : β → Except ε α} (h : ∀ b, o = some b → Returns (f b) P) :
    Returns (o.elim (.error e) .ok >>= f) P := by
  cases o with
  | none => exact error
  | some b => exact h b rfl

end Returns

/-! ### Procedures -/

/-- A pure check as a step of a procedure. -/
def ofExcept (x : Except ε α) : EStateM ε σ α := fun s =>
  match x with
  | .ok a => .ok a s
  | .error e => .error e s

instance instMonadLiftExcept : MonadLift (Except ε) (EStateM ε σ) := ⟨ofExcept⟩

/-- A pure check leaves the state as it is. -/
@[simp] lemma run_liftM (x : Except ε α) (s : σ) :
    (liftM x : EStateM ε σ α).run s =
      match x with
      | .ok a => .ok a s
      | .error e => .error e s := rfl

@[simp] lemma run_map (f : α → β) (x : EStateM ε σ α) (s : σ) :
    (f <$> x).run s =
      match x.run s with
      | .ok a s => .ok (f a) s
      | .error e s => .error e s := rfl

/-- An early return keeps the state that was reached. -/
@[simp] lemma run_throw (e : ε) (s : σ) : (throw e : EStateM ε σ α).run s = .error e s := rfl

/-- A mapped error changes no success. -/
@[simp] lemma mapError_eq_ok {ε' : Type} {x : Except ε α} {f : ε → ε'} {a : α} :
    x.mapError f = .ok a ↔ x = .ok a := by
  cases x <;> simp [Except.mapError]

@[simp] lemma isOk_eq_true {x : Except ε Unit} : x.isOk = true ↔ x = .ok () := by
  cases x <;> simp [Except.isOk, Except.toBool]

end Procedure
