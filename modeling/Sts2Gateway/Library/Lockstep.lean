/-
Two runs of procedures in lockstep.

* `Both`, `Endings`: two answers, and two endings of procedures, of the same kind and with
  related parts;
* `Lockstep`: two procedures that start in related states end in related ways;
* `Lockstep.bind`, `Lockstep.attempt`, `Lockstep.interact`: **one rule for each part** of a
  procedure.
-/
import Mathlib.Tactic
import Sts2Gateway.Library.Crash

namespace Crash

open Exchange Procedure

variable {Error Error' Failure Failure' State State' Event α β γ δ : Type}

/-- Two answers of the same kind. -/
inductive Both (E : Error → Error' → Prop) (R : α → β → Prop) :
    Except Error α → Except Error' β → Prop where
  | ok {a : α} {b : β} (values : R a b) : Both E R (.ok a) (.ok b)
  | error {e : Error} {e' : Error'} (errors : E e e') : Both E R (.error e) (.error e')

/-- Two endings of the same kind, in related states. -/
inductive Endings (K : CallState State Event → CallState State' Event → Prop)
    (E : Error → Error' → Prop) (R : α → β → Prop) :
    EStateM.Result (Halt Error) (CallState State Event) α →
      EStateM.Result (Halt Error') (CallState State' Event) β → Prop where
  | ok {a b s t} (values : R a b) (states : K s t) : Endings K E R (.ok a s) (.ok b t)
  | raised {e e' s t} (errors : E e e') (states : K s t) :
      Endings K E R (.error (.raised e) s) (.error (.raised e') t)
  | crashed {s t} (states : K s t) : Endings K E R (.error .crashed s) (.error .crashed t)

/-- Two procedures in related states end in related ways. -/
def Lockstep (K : CallState State Event → CallState State' Event → Prop)
    (E : Error → Error' → Prop) (R : α → β → Prop) (p : CrashM Error State Event α)
    (q : CrashM Error' State' Event β) : Prop :=
  ∀ s t, K s t → Endings K E R (p s) (q t)

lemma Both.map_error {E : Error → Error' → Prop} {F : Failure → Failure' → Prop}
    {R : α → β → Prop} {x : Except Error α} {y : Except Error' β} {f : Error → Failure}
    {g : Error' → Failure'} (h : Both E R x y) (hF : ∀ e e', E e e' → F (f e) (g e')) :
    Both F R (x.mapError f) (y.mapError g) := by
  cases h with
  | ok values => exact .ok values
  | error errors => exact .error (hF _ _ errors)

section Answers

variable {E : Error → Error' → Prop} {R : α → β → Prop} {S : γ → δ → Prop}

lemma Both.refl {x : Except Error α} {R : α → α → Prop} (h : ∀ a, R a a) :
    Both Eq R x x := by
  cases x with
  | ok a => exact .ok (h a)
  | error e => exact .error rfl

lemma Both.bind {x : Except Error α} {y : Except Error' β} {f : α → Except Error γ}
    {g : β → Except Error' δ} (hxy : Both E R x y) (hf : ∀ a b, R a b → Both E S (f a) (g b)) :
    Both E S (x >>= f) (y >>= g) := by
  cases hxy with
  | ok values => exact hf _ _ values
  | error errors => exact .error errors

/-- A part that both have in common, and what follows it. -/
lemma Both.step {x : Except Error α} {f : α → Except Error γ} {g : α → Except Error δ}
    (hf : ∀ a, Both Eq S (f a) (g a)) : Both Eq S (x >>= f) (x >>= g) := by
  cases x with
  | ok a => exact hf a
  | error e => exact .error rfl

end Answers

namespace Lockstep

variable {K : CallState State Event → CallState State' Event → Prop} {E : Error → Error' → Prop}
  {F : Failure → Failure' → Prop} {R : α → β → Prop} {S : γ → δ → Prop}

lemma pure {a : α} {b : β} (h : R a b) :
    Lockstep K E R (Pure.pure a) (Pure.pure b) := fun _ _ hK => .ok h hK

lemma raise {e : Error} {e' : Error'} (h : E e e') :
    Lockstep K E R (Crash.raise e) (Crash.raise e') := fun _ _ hK => .raised h hK

/-- A check refuses both, or lets related values through. -/
lemma check {x : Except Error α} {y : Except Error' β} (h : Both E R x y) :
    Lockstep K E R (Crash.check x) (Crash.check y) := by
  intro s t hK
  cases h with
  | ok values => exact .ok values hK
  | error errors => exact .raised errors hK

/-- **A step, and what follows it.** -/
lemma bind {p : CrashM Error State Event α} {q : CrashM Error' State' Event β}
    {f : α → CrashM Error State Event γ} {g : β → CrashM Error' State' Event δ}
    (hp : Lockstep K E R p q) (hf : ∀ a b, R a b → Lockstep K E S (f a) (g b)) :
    Lockstep K E S (p >>= f) (q >>= g) := by
  intro s t hK
  have h := hp s t hK
  change Endings K E S (EStateM.bind p f s) (EStateM.bind q g t)
  rw [EStateM.bind, EStateM.bind]
  generalize p s = x at h
  generalize q t = y at h
  cases h with
  | ok values states => exact hf _ _ values _ _ states
  | raised errors states => exact .raised errors states
  | crashed states => exact .crashed states

lemma mono {p : CrashM Error State Event α} {q : CrashM Error' State' Event β}
    {E' : Error → Error' → Prop} {R' : α → β → Prop} (h : Lockstep K E R p q)
    (hE : ∀ e e', E e e' → E' e e') (hR : ∀ a b, R a b → R' a b) :
    Lockstep K E' R' p q := by
  intro s t hK
  have hend := h s t hK
  generalize p s = x at hend
  generalize q t = y at hend
  cases hend with
  | ok values states => exact .ok (hR _ _ values) states
  | raised errors states => exact .raised (hE _ _ errors) states
  | crashed states => exact .crashed states

lemma mapError {p : CrashM Error State Event α} {q : CrashM Error' State' Event β}
    {f : Error → Failure} {g : Error' → Failure'} (h : Lockstep K E R p q)
    (hF : ∀ e e', E e e' → F (f e) (g e')) :
    Lockstep K F R (Crash.mapError f p) (Crash.mapError g q) := by
  intro s t hK
  have hend := h s t hK
  rw [Crash.mapError, Crash.mapError]
  generalize p s = x at hend
  generalize q t = y at hend
  cases hend with
  | ok values states => exact .ok values states
  | raised errors states => exact .raised (hF _ _ errors) states
  | crashed states => exact .crashed states

/-- Handled errors are answers like others. -/
lemma attempt {p : CrashM Error State Event α} {q : CrashM Error' State' Event β}
    (h : Lockstep K E R p q) :
    Lockstep K F (Both E R) (Crash.attempt p) (Crash.attempt q) := by
  intro s t hK
  have hend := h s t hK
  rw [Crash.attempt, Crash.attempt]
  generalize p s = x at hend
  generalize q t = y at hend
  cases hend with
  | ok values states => exact .ok (.ok values) states
  | raised errors states => exact .ok (.error errors) states
  | crashed states => exact .crashed states

lemma getState {R : State → State' → Prop} (h : ∀ s t, K s t → R s.state t.state) :
    Lockstep K E R Exchange.getState Exchange.getState := fun s t hK => .ok (h s t hK) hK

lemma modifyState {f : State → State} {g : State' → State'}
    (h : ∀ s t, K s t → K { s with state := f s.state } { t with state := g t.state }) :
    Lockstep K E (fun _ _ => True) (Exchange.modifyState f) (Exchange.modifyState g) :=
  fun s t hK => .ok trivial (h s t hK)

/-- **One exchange** of both, unless both crash before it. -/
lemma interact {crashes crashes' : List Event → Bool} {answer : List Event → State → α}
    {answer' : List Event → State' → β} {event : State → α → Event} {event' : State' → β → Event}
    (hcrashes : ∀ s t, K s t → crashes s.events = crashes' t.events)
    (hanswer : ∀ s t, K s t → R (answer s.events s.state) (answer' t.events t.state))
    (hlog : ∀ s t a b, K s t →
      K { s with events := s.events ++ [event s.state a] }
        { t with events := t.events ++ [event' t.state b] }) :
    Lockstep K E R (Crash.interact crashes answer event)
      (Crash.interact crashes' answer' event') := by
  intro s t hK
  rw [Crash.interact, Crash.interact, ← hcrashes s t hK]
  cases crashes s.events with
  | true => exact .crashed hK
  | false => exact .ok (hanswer s t hK) (hlog s t _ _ hK)

/-- Calls in lockstep leave related states. -/
lemma outcome {p : CrashM Error State Event α} {q : CrashM Error' State' Event β} {s : State}
    {t : State'} (h : Lockstep K E R p q) (hK : K ⟨s, []⟩ ⟨t, []⟩) :
    K ⟨(outcome p s).state, (outcome p s).events⟩ ⟨(outcome q t).state, (outcome q t).events⟩ := by
  have hend := h _ _ hK
  unfold Exchange.outcome
  simp only [EStateM.run]
  generalize p ⟨s, []⟩ = x at hend
  generalize q ⟨t, []⟩ = y at hend
  cases hend with
  | ok _ states => exact states
  | raised _ states => exact states
  | crashed states => exact states

end Lockstep

end Crash
