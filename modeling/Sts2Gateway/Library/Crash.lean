/-
Procedures that a crash may cut short.

A crash falls between two exchanges: it ends the procedure where it stands, with
no chance to handle it, and leaves the state that was reached.

* `Halt`, `CrashM`: how a procedure ends early, and the procedures;
* `interact`: one exchange, unless the process crashes before it;
* `raise`, `check`, `mapError`: errors, and a caller's view of them;
* `Ensures`: what a procedure keeps in every ending, and what its value has when
  it returns one, with one rule for each of its parts;
* `Emits`: which events a procedure adds to the log, with the same rules.
-/
import Sts2Gateway.Library.Exchange

namespace Crash

open Exchange Procedure

variable {Error Error' State Event α β : Type}

/-- Why a procedure returns no value. -/
inductive Halt (Error : Type) where
  | crashed
  | raised (error : Error)
  deriving DecidableEq, Repr

def Halt.map (f : Error → Error') : Halt Error → Halt Error'
  | .crashed => .crashed
  | .raised error => .raised (f error)

abbrev CrashM (Error State Event : Type) := CallM (Halt Error) State Event

def raise (error : Error) : CrashM Error State Event α := throw (.raised error)

/-- A pure check as a step of a procedure. -/
def check (x : Except Error α) : CrashM Error State Event α := liftM (x.mapError Halt.raised)

/-- `map_err`. -/
def mapError (f : Error → Error') (p : CrashM Error State Event α) :
    CrashM Error' State Event α := fun s =>
  match p s with
  | .ok a t => .ok a t
  | .error halt t => .error (halt.map f) t

/-- A procedure whose error its caller handles; a crash stays a crash. -/
def attempt (p : CrashM Error State Event α) : CrashM Error' State Event (Except Error α) :=
  fun s =>
    match p s with
    | .ok a t => .ok (.ok a) t
    | .error (.raised error) t => .ok (.error error) t
    | .error .crashed t => .error .crashed t

/-- One exchange with the outside, unless the process crashes before it. -/
def interact (crashes : List Event → Bool) (answer : List Event → State → α)
    (event : State → α → Event) : CrashM Error State Event α := fun s =>
  if crashes s.events then .error .crashed s else exchange answer event s

/-! ### Postconditions -/

section After

variable {s : CallState State Event} {Q : Except (Halt Error) α → CallState State Event → Prop}

lemma after_check {x : Except Error α} (hok : ∀ a, x = .ok a → Q (.ok a) s)
    (herror : ∀ e, x = .error e → Q (.error (.raised e)) s) : After (check x) s Q := by
  rw [check, after_liftM]
  cases x with
  | ok a => exact hok a rfl
  | error e => exact herror e rfl

lemma after_mapError {p : CrashM Error' State Event α} {f : Error' → Error}
    (h : After p s fun r t => Q (r.mapError (Halt.map f)) t) : After (mapError f p) s Q := by
  unfold After at h ⊢
  unfold mapError
  cases hp : p.run s with
  | ok a t =>
    have hrun : p s = .ok a t := hp
    rw [hp] at h
    simp only [EStateM.run, hrun]
    exact h
  | error halt t =>
    have hrun : p s = .error halt t := hp
    rw [hp] at h
    simp only [EStateM.run, hrun]
    exact h

/-- A handled error is a value, and a crash stays one. -/
lemma after_attempt {p : CrashM Error' State Event α}
    {Q : Except (Halt Error) (Except Error' α) → CallState State Event → Prop}
    (h : After p s fun r t =>
      match r with
      | .ok a => Q (.ok (.ok a)) t
      | .error (.raised e) => Q (.ok (.error e)) t
      | .error .crashed => Q (.error .crashed) t) : After (attempt p) s Q := by
  unfold After at h ⊢
  unfold attempt
  cases hp : p.run s with
  | ok a t =>
    have hrun : p s = .ok a t := hp
    rw [hp] at h
    simp only [EStateM.run, hrun]
    exact h
  | error halt t =>
    have hrun : p s = .error halt t := hp
    rw [hp] at h
    simp only [EStateM.run, hrun]
    cases halt <;> exact h

/-- An exchange happens, or a crash comes before it. -/
lemma after_interact {crashes : List Event → Bool} {answer : List Event → State → α}
    {event : State → α → Event} (hcrashed : Q (.error .crashed) s)
    (h : Q (.ok (answer s.events s.state))
      { s with events := s.events ++ [event s.state (answer s.events s.state)] }) :
    After (interact crashes answer event) s Q := by
  unfold After interact
  cases hcrash : crashes s.events with
  | true =>
    simp only [EStateM.run, hcrash, if_true]
    exact hcrashed
  | false =>
    simp only [EStateM.run, hcrash, Bool.false_eq_true, if_false]
    exact h

/-- An exchange happens when no crash comes before it. -/
lemma after_interact_running {crashes : List Event → Bool} {answer : List Event → State → α}
    {event : State → α → Event} (hrunning : crashes s.events = false)
    (h : Q (.ok (answer s.events s.state))
      { s with events := s.events ++ [event s.state (answer s.events s.state)] }) :
    After (interact crashes answer event) s Q := by
  unfold After interact
  simp only [EStateM.run, hrunning, Bool.false_eq_true, if_false]
  exact h

end After

/-! ### What a procedure keeps -/

/-- Every ending of the procedure keeps `K`, and a value that it returns has `Q`. -/
def Ensures (p : CrashM Error State Event α) (s : CallState State Event)
    (K : CallState State Event → Prop) (Q : α → CallState State Event → Prop) : Prop :=
  After p s fun r t => K t ∧ ∀ a, r = .ok a → Q a t

namespace Ensures

variable {s : CallState State Event} {K : CallState State Event → Prop}
  {Q : α → CallState State Event → Prop}

lemma pure {a : α} (hK : K s) (hQ : Q a s) :
    Ensures (Pure.pure a : CrashM Error State Event α) s K Q := by
  refine ⟨hK, ?_⟩
  rintro _ ⟨⟩
  exact hQ

lemma raise {error : Error} (hK : K s) : Ensures (Crash.raise error) s K Q := by
  refine ⟨hK, ?_⟩
  rintro _ ⟨⟩

/-- A check refuses, or lets a value through. -/
lemma check {x : Except Error α} (hK : K s) (hQ : ∀ a, x = .ok a → Q a s) :
    Ensures (Crash.check x) s K Q := by
  unfold Ensures Crash.check
  rw [after_liftM]
  refine ⟨hK, fun a ha => hQ a ?_⟩
  cases x with
  | ok b => cases ha; rfl
  | error e => cases ha

lemma mapError {p : CrashM Error State Event α} {f : Error → Error'} (h : Ensures p s K Q) :
    Ensures (Crash.mapError f p) s K Q := by
  unfold Ensures After at h ⊢
  unfold Crash.mapError
  cases hp : p.run s with
  | ok a t =>
    rw [hp] at h
    have hrun : p s = .ok a t := hp
    simp only [EStateM.run, hrun]
    exact ⟨h.1, fun b hb => h.2 b (congrArg Except.ok (Except.ok.inj hb))⟩
  | error halt t =>
    rw [hp] at h
    have hrun : p s = .error halt t := hp
    simp only [EStateM.run, hrun]
    exact ⟨h.1, fun _ ha => by cases ha⟩

/-- A handled error says nothing about the value that was expected. -/
lemma attempt {p : CrashM Error State Event α} (h : Ensures p s K Q) :
    Ensures (Crash.attempt p : CrashM Error' State Event (Except Error α)) s K
      fun r t => ∀ a, r = .ok a → Q a t := by
  refine after_attempt (After.mono h fun r t ⟨hK, hQ⟩ => ?_)
  cases r with
  | ok a => exact ⟨hK, fun _ hr b hb => hQ b (congrArg Except.ok (by cases hr; cases hb; rfl))⟩
  | error halt =>
    cases halt with
    | crashed => exact ⟨hK, fun _ hr => by cases hr⟩
    | raised error => exact ⟨hK, fun _ hr _ hb => by cases hr; cases hb⟩

/-- A step, and what follows it. -/
lemma bind {p : CrashM Error State Event β} {f : β → CrashM Error State Event α}
    {R : β → CallState State Event → Prop} (hp : Ensures p s K R)
    (hf : ∀ b t, K t → R b t → Ensures (f b) t K Q) : Ensures (p >>= f) s K Q := by
  unfold Ensures
  rw [after_bind]
  refine After.mono hp fun r t ⟨hK, hR⟩ => ?_
  cases r with
  | ok b => exact hf b t hK (hR b rfl)
  | error e => exact ⟨hK, fun _ ha => by cases ha⟩

lemma map {p : CrashM Error State Event β} {f : β → α}
    (h : Ensures p s K fun b t => Q (f b) t) : Ensures (f <$> p) s K Q := by
  unfold Ensures
  rw [after_map]
  refine After.mono h fun r t ⟨hK, hQ⟩ => ⟨hK, fun a ha => ?_⟩
  cases r with
  | ok b => cases ha; exact hQ b rfl
  | error e => cases ha

lemma mono {p : CrashM Error State Event α} {K' : CallState State Event → Prop}
    {Q' : α → CallState State Event → Prop} (h : Ensures p s K Q) (hK : ∀ t, K t → K' t)
    (hQ : ∀ a t, K t → Q a t → Q' a t) : Ensures p s K' Q' :=
  After.mono h fun _ t ⟨hk, hq⟩ => ⟨hK t hk, fun a ha => hQ a t hk (hq a ha)⟩

/-- A check that the procedure does not survive leaves its state. -/
lemma check_bind {x : Except Error β} {f : β → CrashM Error State Event α} (hK : K s)
    (hf : ∀ b, x = .ok b → Ensures (f b) s K Q) : Ensures (Crash.check x >>= f) s K Q := by
  refine (check (Q := fun b t => t = s ∧ x = .ok b) hK fun b hb => ⟨rfl, hb⟩).bind ?_
  rintro b _ _ ⟨rfl, hb⟩
  exact hf b hb

lemma getState_bind {f : State → CrashM Error State Event α} (h : Ensures (f s.state) s K Q) :
    Ensures (Exchange.getState >>= f) s K Q := by
  unfold Ensures
  rw [after_bind, after_getState]
  exact h

lemma modifyState {f : State → State} {Q : Unit → CallState State Event → Prop}
    (hK : K { s with state := f s.state }) (hQ : Q () { s with state := f s.state }) :
    Ensures (Exchange.modifyState f : CrashM Error State Event Unit) s K Q :=
  ⟨hK, fun _ _ => hQ⟩

/-- An exchange happens, or a crash leaves the state before it. -/
lemma interact {crashes : List Event → Bool} {answer : List Event → State → α}
    {event : State → α → Event} (hcrashed : K s)
    (h : ∀ a, a = answer s.events s.state →
      K { s with events := s.events ++ [event s.state a] } ∧
        Q a { s with events := s.events ++ [event s.state a] }) :
    Ensures (Crash.interact crashes answer event : CrashM Error State Event α) s K Q := by
  unfold Ensures After Crash.interact
  obtain ⟨hK, hQ⟩ := h _ rfl
  cases hcrash : crashes s.events with
  | true =>
    simp only [EStateM.run, hcrash, if_true]
    exact ⟨hcrashed, fun _ ha => by cases ha⟩
  | false =>
    simp only [EStateM.run, hcrash, Bool.false_eq_true, if_false, exchange]
    refine ⟨hK, ?_⟩
    rintro _ ⟨⟩
    exact hQ

end Ensures

/-! ### What a procedure adds to the log -/

/-- The procedure adds events of one kind to the log, and takes none away. -/
def Emits (P : Event → Prop) (p : CrashM Error State Event α) : Prop :=
  ∀ s, After p s fun _ t => ∃ added, t.events = s.events ++ added ∧ ∀ event ∈ added, P event

namespace Emits

variable {P : Event → Prop} {s : CallState State Event}

lemma pure (a : α) : Emits P (Pure.pure a : CrashM Error State Event α) :=
  fun _ => ⟨[], (List.append_nil _).symm, List.forall_mem_nil _⟩

lemma raise (error : Error) : Emits P (Crash.raise error : CrashM Error State Event α) :=
  fun _ => ⟨[], (List.append_nil _).symm, List.forall_mem_nil _⟩

lemma check (x : Except Error α) : Emits P (Crash.check x : CrashM Error State Event α) :=
  fun _ => after_liftM _ |>.mpr ⟨[], (List.append_nil _).symm, List.forall_mem_nil _⟩

lemma getState : Emits P (Exchange.getState : CrashM Error State Event State) :=
  fun _ => ⟨[], (List.append_nil _).symm, List.forall_mem_nil _⟩

lemma modifyState (f : State → State) :
    Emits P (Exchange.modifyState f : CrashM Error State Event Unit) :=
  fun _ => ⟨[], (List.append_nil _).symm, List.forall_mem_nil _⟩

/-- An exchange adds its event, unless a crash comes first. -/
lemma interact {crashes : List Event → Bool} {answer : List Event → State → α}
    {event : State → α → Event} (h : ∀ s a, P (event s a)) :
    Emits P (Crash.interact crashes answer event : CrashM Error State Event α) :=
  fun _ => after_interact ⟨[], (List.append_nil _).symm, List.forall_mem_nil _⟩
    ⟨[_], rfl, List.forall_mem_singleton.mpr (h _ _)⟩

lemma bind {p : CrashM Error State Event β} {f : β → CrashM Error State Event α} (hp : Emits P p)
    (hf : ∀ b, Emits P (f b)) : Emits P (p >>= f) := by
  intro s
  rw [after_bind]
  refine (hp s).mono fun r t ⟨added, hadded, hP⟩ => ?_
  cases r with
  | error e => exact ⟨added, hadded, hP⟩
  | ok b =>
    refine (hf b t).mono fun _ u ⟨more, hmore, hQ⟩ => ⟨added ++ more, ?_, ?_⟩
    · rw [hmore, hadded, List.append_assoc]
    · exact fun event hevent => (List.mem_append.mp hevent).elim (hP event) (hQ event)

lemma map {p : CrashM Error State Event β} (f : β → α) (hp : Emits P p) : Emits P (f <$> p) := by
  intro s
  rw [after_map]
  exact hp s

lemma attempt {p : CrashM Error State Event α} (hp : Emits P p) :
    Emits P (Crash.attempt p : CrashM Error' State Event (Except Error α)) := by
  intro s
  refine after_attempt ?_
  refine (hp s).mono fun r t h => ?_
  cases r with
  | ok a => exact h
  | error halt => cases halt <;> exact h

/-- What the added events keep, a procedure keeps in every ending. -/
lemma ensures {p : CrashM Error State Event α} {K : CallState State Event → Prop}
    {Q : α → CallState State Event → Prop} (hp : Emits P p)
    (hK : ∀ t added, t.events = s.events ++ added → (∀ event ∈ added, P event) → K t)
    (hQ : Ensures p s (fun _ => True) Q) : Ensures p s K Q :=
  After.mono ((hp s).and hQ) fun _ t ⟨⟨added, hadded, hP⟩, _, hvalue⟩ =>
    ⟨hK t added hadded hP, hvalue⟩

end Emits

end Crash
