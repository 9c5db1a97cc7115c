/-
Procedures as walks.

A procedure whose atomic steps keep a condition keeps it in every ending in which its
state survives.  A crash loses a part of the state: of what is left one knows that it is
what some state with the condition would have left.

* `Walks`: what a procedure keeps when it returns, when it raises and when it crashes,
  and what its value has when it returns one, with one rule for each of its parts;
* `Heard`, `Heard.append`, `Heard.snoc`: events that came in some order since an earlier state.
-/
import Sts2Gateway.Library.Crash

namespace Crash

open Exchange Procedure

variable {Error Error' State Event α β δ : Type}

/-! ### Walks -/

/-- The procedure keeps `K` when it returns or raises, and a value that it returns has `Q`.
After a crash, what survives is what a state with `K` would have left. -/
def Walks (survives : CallState State Event → δ) (K : CallState State Event → Prop)
    (p : CrashM Error State Event α) (s : CallState State Event)
    (Q : α → CallState State Event → Prop) : Prop :=
  After p s fun r t =>
    match r with
    | .ok a => K t ∧ Q a t
    | .error (.raised _) => K t
    | .error .crashed => ∃ u, K u ∧ survives u = survives t

namespace Walks

variable {survives : CallState State Event → δ} {K : CallState State Event → Prop}
  {s : CallState State Event} {Q : α → CallState State Event → Prop}

lemma pure {a : α} (hK : K s) (hQ : Q a s) :
    Walks survives K (Pure.pure a : CrashM Error State Event α) s Q := ⟨hK, hQ⟩

lemma raise {error : Error} (hK : K s) : Walks survives K (Crash.raise error) s Q := hK

/-- A step, and what follows it. -/
lemma bind {p : CrashM Error State Event β} {f : β → CrashM Error State Event α}
    {R : β → CallState State Event → Prop} (hp : Walks survives K p s R)
    (hf : ∀ b t, K t → R b t → Walks survives K (f b) t Q) : Walks survives K (p >>= f) s Q := by
  unfold Walks
  rw [after_bind]
  refine After.mono hp fun r t hr => ?_
  cases r with
  | ok b => exact hf b t hr.1 hr.2
  | error halt =>
    cases halt with
    | crashed => exact hr
    | raised error => exact hr

lemma map {p : CrashM Error State Event β} {f : β → α}
    (h : Walks survives K p s fun b t => Q (f b) t) : Walks survives K (f <$> p) s Q := by
  unfold Walks
  rw [after_map]
  refine After.mono h fun r t hr => ?_
  cases r with
  | ok b => exact hr
  | error halt => cases halt <;> exact hr

lemma mono {p : CrashM Error State Event α} {K' : CallState State Event → Prop}
    {Q' : α → CallState State Event → Prop} (h : Walks survives K p s Q) (hK : ∀ t, K t → K' t)
    (hQ : ∀ a t, K t → Q a t → Q' a t) : Walks survives K' p s Q' := by
  refine After.mono h fun r t hr => ?_
  cases r with
  | ok a => exact ⟨hK t hr.1, hQ a t hr.1 hr.2⟩
  | error halt =>
    cases halt with
    | crashed => exact hr.imp fun u hu => ⟨hK u hu.1, hu.2⟩
    | raised error => exact hK t hr

/-- A value with less known about it. -/
lemma weaken {p : CrashM Error State Event α} {Q' : α → CallState State Event → Prop}
    (h : Walks survives K p s Q) (hQ : ∀ a t, K t → Q a t → Q' a t) : Walks survives K p s Q' :=
  h.mono (fun _ ht => ht) hQ

/-- A check that the procedure does not survive leaves its state. -/
lemma check_bind {x : Except Error β} {f : β → CrashM Error State Event α} (hK : K s)
    (hf : ∀ b, x = .ok b → Walks survives K (f b) s Q) :
    Walks survives K (Crash.check x >>= f) s Q := by
  unfold Walks
  rw [after_bind, Crash.check, after_liftM]
  cases x with
  | ok b => exact hf b rfl
  | error e => exact hK

lemma check {x : Except Error α} (hK : K s) (hQ : ∀ a, x = .ok a → Q a s) :
    Walks survives K (Crash.check x) s Q := by
  unfold Walks
  rw [Crash.check, after_liftM]
  cases x with
  | ok a => exact ⟨hK, hQ a rfl⟩
  | error e => exact hK

lemma getState_bind {f : State → CrashM Error State Event α}
    (h : Walks survives K (f s.state) s Q) : Walks survives K (Exchange.getState >>= f) s Q := by
  unfold Walks
  rw [after_bind, after_getState]
  exact h

lemma modifyState {f : State → State} {Q : Unit → CallState State Event → Prop}
    (hK : K { s with state := f s.state }) (hQ : Q () { s with state := f s.state }) :
    Walks survives K (Exchange.modifyState f : CrashM Error State Event Unit) s Q := ⟨hK, hQ⟩

/-- An exchange happens, or a crash comes before it. -/
lemma interact {crashes : List Event → Bool} {answer : List Event → State → α}
    {event : State → α → Event} (hcrashed : K s)
    (h : ∀ a, a = answer s.events s.state →
      K { s with events := s.events ++ [event s.state a] } ∧
        Q a { s with events := s.events ++ [event s.state a] }) :
    Walks survives K (Crash.interact crashes answer event : CrashM Error State Event α) s Q :=
  after_interact ⟨s, hcrashed, rfl⟩ (h _ rfl)

/-- A handled error is a value. -/
lemma attempt {p : CrashM Error State Event α} {E : Error → CallState State Event → Prop}
    (h : After p s fun r t =>
      match r with
      | .ok a => K t ∧ Q a t
      | .error (.raised e) => K t ∧ E e t
      | .error .crashed => ∃ u, K u ∧ survives u = survives t) :
    Walks survives K (Crash.attempt p : CrashM Error' State Event (Except Error α)) s
      fun r t => (∀ a, r = .ok a → Q a t) ∧ ∀ e, r = .error e → E e t := by
  refine after_attempt (After.mono h fun r t hr => ?_)
  cases r with
  | ok a =>
    refine ⟨hr.1, ?_, ?_⟩
    · intro b hb
      rw [← Except.ok.inj hb]
      exact hr.2
    · rintro e ⟨⟩
  | error halt =>
    cases halt with
    | crashed => exact hr
    | raised error =>
      refine ⟨hr.1, ?_, ?_⟩
      · rintro b ⟨⟩
      · intro e he
        rw [← Except.error.inj he]
        exact hr.2

/-- **Loops.**  What each pass keeps, a loop keeps. -/
lemma forM {ι : Type} {f : ι → CrashM Error State Event Unit} {R : CallState State Event → Prop}
    {xs : List ι} (hf : ∀ i ∈ xs, ∀ t, K t → R t → Walks survives K (f i) t fun _ u => R u)
    (hK : K s) (hR : R s) : Walks survives K (xs.forM f) s fun _ t => R t := by
  induction xs generalizing s with
  | nil => exact ⟨hK, hR⟩
  | cons x xs ih =>
    change Walks survives K (f x >>= fun _ => xs.forM f) s _
    refine (hf x List.mem_cons_self s hK hR).bind fun _ t ht hRt => ?_
    exact ih (fun i hi => hf i (List.mem_cons_of_mem _ hi)) ht hRt

end Walks

/-! ### What was heard -/

/-- The events came in this order since the earlier state. -/
def Heard (s₀ s : CallState State Event) (events : List Event) : Prop :=
  ∃ log, s.events = s₀.events ++ log ∧ events.Sublist log

namespace Heard

variable {s₀ s t : CallState State Event} {events : List Event} {event : Event}

lemma nil (s : CallState State Event) : Heard s s [] :=
  ⟨[], (List.append_nil _).symm, List.Sublist.refl _⟩

/-- Later exchanges take nothing away. -/
lemma append (h : Heard s₀ s events) {more : List Event} (ht : t.events = s.events ++ more) :
    Heard s₀ t events := by
  obtain ⟨log, hlog, hsub⟩ := h
  exact ⟨log ++ more, by rw [ht, hlog, List.append_assoc], hsub.trans (List.sublist_append_left _ _)⟩

/-- The last exchange is heard after the others. -/
lemma snoc (h : Heard s₀ s events) (ht : t.events = s.events ++ [event]) :
    Heard s₀ t (events ++ [event]) := by
  obtain ⟨log, hlog, hsub⟩ := h
  exact ⟨log ++ [event], by rw [ht, hlog, List.append_assoc], hsub.append (List.Sublist.refl _)⟩

lemma sublist (h : Heard s₀ s events) {fewer : List Event} (hsub : fewer.Sublist events) :
    Heard s₀ s fewer := by
  obtain ⟨log, hlog, hevents⟩ := h
  exact ⟨log, hlog, hsub.trans hevents⟩

/-- What was heard is among the events since then. -/
lemma sublist_log (h : Heard s₀ s events) {log : List Event} (hlog : s.events = s₀.events ++ log) :
    events.Sublist log := by
  obtain ⟨heard, hheard, hsub⟩ := h
  rw [hheard] at hlog
  rwa [← List.append_cancel_left hlog]

/-- What was heard is in the log. -/
lemma mem (h : Heard s₀ s events) (hmem : event ∈ events) : event ∈ s.events := by
  obtain ⟨log, hlog, hsub⟩ := h
  rw [hlog]
  exact List.mem_append_right _ (hsub.subset hmem)

end Heard

end Crash
