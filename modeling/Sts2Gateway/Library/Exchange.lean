/-
Procedures that exchange messages with the outside.

A call runs on a state and a log; each answer of the outside may depend on the
whole log and on the state, and is recorded in the log.

* `CallM`, `getState`, `modifyState`, `exchange`: the procedures and their steps;
* `handled`: a procedure whose error its caller handles;
* `append_singleton_eq_iff`: where an event stands in a longer log;
* `outcome`: what a call from an empty log leaves behind;
* `outcome_check`, `outcome_getState_bind`, `outcome_throw`: how the outcome of a
  call goes through its checks;
* `After`: what holds of the answer and the state of a procedure, with one rule
  for each of its parts and `After.mapM_rel`, `After.foldlM_rel` for its loops.
-/
import Mathlib.Tactic
import Sts2Gateway.Library.Procedure

namespace Exchange

open Procedure

variable {Error State Event Answer α : Type}

/-- A state and the exchanges so far. -/
structure CallState (State Event : Type) where
  state : State
  events : List Event

abbrev CallM (Error State Event : Type) := EStateM Error (CallState State Event)

def getState : CallM Error State Event State := fun s => .ok s.state s

def modifyState (f : State → State) : CallM Error State Event Unit := fun s =>
  .ok () { s with state := f s.state }

/-- One exchange with the outside. -/
def exchange (answer : List Event → State → α) (event : State → α → Event) :
    CallM Error State Event α := fun s =>
  let a := answer s.events s.state
  .ok a { s with events := s.events ++ [event s.state a] }

/-- A procedure whose error its caller handles. -/
def handled {Error' : Type} (p : CallM Error State Event α) :
    CallM Error' State Event (Except Error α) := fun s =>
  match p.run s with
  | .ok a t => .ok (.ok a) t
  | .error e t => .ok (.error e) t

@[simp] lemma run_getState (s : CallState State Event) :
    (getState : CallM Error State Event State).run s = .ok s.state s := rfl

@[simp] lemma run_modifyState (f : State → State) (s : CallState State Event) :
    (modifyState f : CallM Error State Event Unit).run s = .ok () { s with state := f s.state } :=
  rfl

@[simp] lemma run_exchange (answer : List Event → State → α) (event : State → α → Event)
    (s : CallState State Event) :
    (exchange answer event : CallM Error State Event α).run s =
      .ok (answer s.events s.state)
        { s with events := s.events ++ [event s.state (answer s.events s.state)] } := rfl

/-! ### Logs -/

/-- Where an event stands in a log that was lengthened by one: at its end, or in
the log before. -/
lemma append_singleton_eq_iff {log before after : List Event} {event other : Event} :
    log ++ [event] = before ++ other :: after ↔
      (after = [] ∧ log = before ∧ event = other) ∨
        ∃ rest, after = rest ++ [event] ∧ log = before ++ other :: rest := by
  constructor
  · intro h
    cases after using List.reverseRecOn with
    | nil =>
      obtain ⟨hlog, hlast⟩ := List.append_inj' h rfl
      exact .inl ⟨rfl, hlog, List.singleton_inj.mp hlast⟩
    | append_singleton rest last =>
      have hassoc : log ++ [event] = (before ++ other :: rest) ++ [last] := by
        rw [h, List.append_assoc, List.cons_append]
      obtain ⟨hlog, hlast⟩ := List.append_inj' hassoc rfl
      exact .inr ⟨rest, by rw [List.singleton_inj.mp hlast], hlog⟩
  · rintro (⟨rfl, rfl, rfl⟩ | ⟨rest, rfl, rfl⟩)
    · rfl
    · rw [List.append_assoc, List.cons_append]

/-! ### Outcomes -/

/-- What one call leaves behind. -/
structure Outcome (State Answer Event : Type) where
  answer : Answer
  state : State
  events : List Event

/-- The outcome of a procedure on a state with an empty log. -/
def outcome (p : CallM Error State Event Answer) (state : State) :
    Outcome State (Except Error Answer) Event :=
  match p.run { state, events := [] } with
  | .ok a s => { answer := .ok a, state := s.state, events := s.events }
  | .error e s => { answer := .error e, state := s.state, events := s.events }

lemma outcome_liftM_bind (x : Except Error α) (f : α → CallM Error State Event Answer)
    (state : State) :
    outcome (liftM x >>= f) state =
      match x with
      | .ok a => outcome (f a) state
      | .error e => { answer := .error e, state, events := [] } := by
  cases x <;> rfl

lemma outcome_liftM (x : Except Error Answer) (state : State) :
    outcome (liftM x : CallM Error State Event Answer) state =
      { answer := x, state, events := [] } := by
  cases x <;> rfl

lemma outcome_getState_bind (f : State → CallM Error State Event Answer) (state : State) :
    outcome (getState >>= f) state = outcome (f state) state := rfl

lemma outcome_throw (e : Error) (state : State) :
    outcome (throw e : CallM Error State Event Answer) state =
      { answer := .error e, state, events := [] } := rfl

/-- A check refuses the call, or the call goes on with what the check found. -/
lemma outcome_check {P : Outcome State (Except Error Answer) Event → Prop} {state : State}
    {x : Except Error α} {f : α → CallM Error State Event Answer}
    (hrefused : ∀ e, P { answer := .error e, state, events := [] })
    (h : ∀ a, x = .ok a → P (outcome (f a) state)) : P (outcome (liftM x >>= f) state) := by
  rw [outcome_liftM_bind]
  cases x with
  | ok a => exact h a rfl
  | error e => exact hrefused e

/-! ### Postconditions -/

/-- What holds of the answer of a procedure and of the state that it leaves. -/
def After (p : CallM Error State Event α) (s : CallState State Event)
    (Q : Except Error α → CallState State Event → Prop) : Prop :=
  match p.run s with
  | .ok a t => Q (.ok a) t
  | .error e t => Q (.error e) t

section After

variable {β : Type} {s : CallState State Event} {Q : Except Error α → CallState State Event → Prop}

@[simp] lemma after_pure (a : α) : After (pure a) s Q ↔ Q (.ok a) s := Iff.rfl

@[simp] lemma after_throw (e : Error) : After (throw e) s Q ↔ Q (.error e) s := Iff.rfl

@[simp] lemma after_liftM (x : Except Error α) : After (liftM x) s Q ↔ Q x s := by
  cases x <;> rfl

@[simp] lemma after_getState {Q : Except Error State → CallState State Event → Prop} :
    After getState s Q ↔ Q (.ok s.state) s := Iff.rfl

@[simp] lemma after_modifyState {Q : Except Error Unit → CallState State Event → Prop}
    (f : State → State) : After (modifyState f) s Q ↔ Q (.ok ()) { s with state := f s.state } :=
  Iff.rfl

@[simp] lemma after_exchange (answer : List Event → State → α) (event : State → α → Event) :
    After (exchange answer event) s Q ↔
      Q (.ok (answer s.events s.state))
        { s with events := s.events ++ [event s.state (answer s.events s.state)] } := Iff.rfl

@[simp] lemma after_map (f : β → α) (p : CallM Error State Event β) :
    After (f <$> p) s Q ↔ After p s fun r t => Q (r.map f) t := by
  unfold After
  rw [run_map]
  cases p.run s <;> rfl

@[simp] lemma after_handled {Error' : Type} {p : CallM Error State Event α}
    {Q : Except Error' (Except Error α) → CallState State Event → Prop} :
    After (handled p) s Q ↔ After p s fun r t => Q (.ok r) t := by
  unfold After handled
  cases hp : p.run s <;> simp only [EStateM.run] at hp ⊢ <;> simp only [hp]

/-- A step, and then what follows it unless it failed. -/
@[simp] lemma after_bind {p : CallM Error State Event β} {f : β → CallM Error State Event α} :
    After (p >>= f) s Q ↔
      After p s fun r t =>
        match r with
        | .ok b => After (f b) t Q
        | .error e => Q (.error e) t := by
  unfold After
  change (match EStateM.bind p f s with
    | .ok a t => Q (.ok a) t
    | .error e t => Q (.error e) t) ↔ _
  unfold EStateM.bind
  cases hp : p s <;> simp only [EStateM.run, hp]

lemma After.of_forall {p : CallM Error State Event α} (h : ∀ r t, Q r t) : After p s Q := by
  unfold After
  cases p.run s with
  | ok a t => exact h _ _
  | error e t => exact h _ _

lemma After.mono {p : CallM Error State Event α}
    {R : Except Error α → CallState State Event → Prop} (h : After p s R)
    (hle : ∀ r t, R r t → Q r t) : After p s Q := by
  unfold After at h ⊢
  cases hp : p.run s with
  | ok a t => rw [hp] at h; exact hle _ _ h
  | error e t => rw [hp] at h; exact hle _ _ h

lemma After.and {p : CallM Error State Event α}
    {R : Except Error α → CallState State Event → Prop} (hQ : After p s Q) (hR : After p s R) :
    After p s fun r t => Q r t ∧ R r t := by
  unfold After at hQ hR ⊢
  cases hp : p.run s with
  | ok a t => rw [hp] at hQ hR; exact ⟨hQ, hR⟩
  | error e t => rw [hp] at hQ hR; exact ⟨hQ, hR⟩

/-- A guard refuses, or the procedure goes on. -/
lemma After.refuse {p : Prop} [Decidable p] {e : Error} {f : Unit → CallM Error State Event α}
    (hrefused : p → Q (.error e) s) (h : ¬ p → After (f ()) s Q) :
    After (liftM (Procedure.refuse p e) >>= f) s Q := by
  rw [after_bind, after_liftM]
  by_cases hp : p
  · simpa [Procedure.refuse, hp] using hrefused hp
  · simpa [Procedure.refuse, hp] using h hp

/-- A value that must be there is, or the procedure refuses. -/
lemma After.okOr {o : Option β} {e : Error} {f : β → CallM Error State Event α}
    (hnone : o = none → Q (.error e) s) (h : ∀ b, o = some b → After (f b) s Q) :
    After (liftM (Procedure.okOr o e) >>= f) s Q := by
  rw [after_bind, after_liftM]
  cases o with
  | none => exact hnone rfl
  | some b => exact h b rfl

/-- What holds after a procedure holds of its outcome. -/
lemma After.outcome {p : CallM Error State Event α} {state : State} (h : After p ⟨state, []⟩ Q) :
    Q (outcome p state).answer ⟨(outcome p state).state, (outcome p state).events⟩ := by
  unfold After at h
  unfold Exchange.outcome
  cases hp : p.run ⟨state, []⟩ <;> rw [hp] at h <;> exact h

variable {R : CallState State Event → CallState State Event → Prop}

/-- A step that a preorder relates, and then what follows it. -/
lemma After.bind_rel {p : CallM Error State Event β} {f : β → CallM Error State Event α}
    (htrans : ∀ s t u, R s t → R t u → R s u) (hp : After p s fun _ t => R s t)
    (hf : ∀ b t, After (f b) t fun _ u => R t u) : After (p >>= f) s fun _ u => R s u := by
  rw [after_bind]
  refine hp.mono fun r t ht => ?_
  cases r with
  | ok b => exact (hf b t).mono fun _ u hu => htrans _ _ _ ht hu
  | error e => exact ht

/-- **Loops.**  What relates the states of each pass relates the ends of a loop. -/
theorem After.foldlM_rel {ι : Type} {f : β → ι → CallM Error State Event β}
    (hrefl : ∀ s, R s s) (htrans : ∀ s t u, R s t → R t u → R s u)
    (hf : ∀ b i s, After (f b i) s fun _ t => R s t) (xs : List ι) (b : β) :
    After (xs.foldlM f b) s fun _ t => R s t := by
  induction xs generalizing s b with
  | nil => exact hrefl s
  | cons x xs ih =>
    rw [List.foldlM_cons]
    exact After.bind_rel htrans (hf b x s) fun c t => ih c

theorem After.mapM_rel {ι : Type} {f : ι → CallM Error State Event β}
    (hrefl : ∀ s, R s s) (htrans : ∀ s t u, R s t → R t u → R s u)
    (hf : ∀ i s, After (f i) s fun _ t => R s t) (xs : List ι) :
    After (xs.mapM f) s fun _ t => R s t := by
  induction xs generalizing s with
  | nil => exact hrefl s
  | cons x xs ih =>
    rw [List.mapM_cons]
    refine After.bind_rel htrans (hf x s) fun b t => After.bind_rel htrans ih fun bs u => ?_
    exact hrefl u

end After

end Exchange
