/-
Runs of a service that hands its states to a checkpoint, with crashes and
restarts.

A call exchanges messages with the outside; some of them present a state to a
checkpoint.  A crash may cut a call off after any number of its exchanges, and a
restart reads the last state whose checkpoint succeeded or any later one.

* `Service`, `Durable`, `System`, `Step`: the service, what a restart may find,
  and the runs;
* `Invariant.run`: what every call and every restart keeps holds in every state
  of every run;
* `Invariant.run_state`: the same for what holds between calls only;
* `History.run`: **the same for what relates a state or a call to the exchanges
  of the run so far**;
* `Dispatch.at_most_once`: **a key that is durable before it is dispatched is
  dispatched at most once**.
-/
import Mathlib.Tactic
import Sts2Gateway.Library.Exchange

namespace CheckpointedRun

open Exchange

variable {State Env Call Answer Event Start Key : Type}

/-! ### Services -/

structure Service (State Env Call Answer Event Start : Type) where
  perform : State → Env → Call → Outcome State Answer Event
  /-- The state that an exchange presents to the checkpoint, and its answer. -/
  presented : Event → Option (State × Bool)
  fresh : Start → State
  /-- A fresh state that has read what is persisted of another one, unless it refuses it. -/
  restored : Start → State → Option State

/-- The states that a restart may find. -/
structure Durable (State : Type) where
  /-- The state of the last successful checkpoint. -/
  last : State
  /-- The states handed out since, durable or not. -/
  later : List State

def Durable.candidates (durable : Durable State) : List State := durable.last :: durable.later

/-- The owner may persist the state between calls too. -/
def Durable.add (durable : Durable State) (state : State) : Durable State :=
  { durable with later := durable.later ++ [state] }

/-- A call with its exchanges; no answer when the service died in it. -/
structure CallRecord (Call Answer Event : Type) where
  call : Call
  answer : Option Answer
  events : List Event

structure System (State Call Answer Event : Type) where
  state : State
  durable : Durable State
  trace : List (CallRecord Call Answer Event)

/-- A call that is cut off after some of its exchanges. -/
structure Interrupted (Env Call : Type) where
  env : Env
  call : Call
  exchanges : ℕ

inductive Step (Env Call Start : Type) where
  | call (env : Env) (call : Call)
  /-- The service dies, inside a call or between two, and a fresh one reads the
  candidate that `pick` selects. -/
  | restart (interrupted : Option (Interrupted Env Call)) (pick : ℕ) (start : Start)

namespace System

/-- The current state and those a restart may find. -/
def states (s : System State Call Answer Event) : List State := s.state :: s.durable.candidates

/-- All exchanges, in order. -/
def events (s : System State Call Answer Event) : List Event := s.trace.flatMap (·.events)

end System

namespace Service

variable (S : Service State Env Call Answer Event Start)

/-- What one exchange leaves durable. -/
def absorb (durable : Durable State) (event : Event) : Durable State :=
  match S.presented event with
  | some (state, true) => { last := state, later := [] }
  | some (state, false) => durable.add state
  | none => durable

def after (durable : Durable State) (events : List Event) : Durable State :=
  events.foldl S.absorb durable

/-- The states that some exchanges present. -/
def handed (events : List Event) : List State :=
  events.filterMap fun event => (S.presented event).map Prod.fst

/-- The states of an outcome. -/
def reached (o : Outcome State Answer Event) : List State := o.state :: S.handed o.events

def start (start : Start) : System State Call Answer Event where
  state := S.fresh start
  durable := { last := S.fresh start, later := [] }
  trace := []

/-- What a dying call leaves: its exchanges, not its state. -/
def interrupt (s : System State Call Answer Event) :
    Option (Interrupted Env Call) → System State Call Answer Event
  | none => s
  | some i =>
    let events := (S.perform s.state i.env i.call).events.take i.exchanges
    { s with
      durable := S.after s.durable events
      trace := s.trace ++ [{ call := i.call, answer := none, events }] }

def step (s : System State Call Answer Event) :
    Step Env Call Start → System State Call Answer Event
  | .call env call =>
    let o := S.perform s.state env call
    { state := o.state
      durable := (S.after s.durable o.events).add o.state
      trace := s.trace ++ [{ call, answer := some o.answer, events := o.events }] }
  | .restart interrupted pick start =>
    let died := S.interrupt s interrupted
    match S.restored start (died.durable.candidates.getD pick died.durable.last) with
    | some state => { died with state, durable := died.durable.add state }
    -- the service does not come up, so this is no step of the run
    | none => s

def run (s : System State Call Answer Event) (steps : List (Step Env Call Start)) :
    System State Call Answer Event :=
  steps.foldl S.step s

/-- Calls one after another, without a restart. -/
def calls (s : System State Call Answer Event) (later : List (Env × Call)) :
    System State Call Answer Event :=
  S.run s (later.map fun p => .call p.1 p.2)

/-! ### Candidates -/

variable {S}

/-- A candidate was one before the exchanges or was presented by them. -/
lemma mem_candidates_after {events : List Event} {durable : Durable State} {t : State}
    (ht : t ∈ (S.after durable events).candidates) :
    t ∈ durable.candidates ∨ t ∈ S.handed events := by
  induction events generalizing durable with
  | nil => exact .inl ht
  | cons event events ih =>
    have : t ∈ (S.absorb durable event).candidates ∨ t ∈ S.handed events := ih ht
    rw [absorb] at this
    simp only [handed, List.filterMap_cons]
    cases hp : S.presented event with
    | none =>
      rw [hp] at this
      exact this
    | some p =>
      obtain ⟨state, ok⟩ := p
      rw [hp] at this
      cases ok <;>
        simp only [Durable.candidates, Durable.add, handed, List.mem_cons, List.mem_append,
          List.not_mem_nil, or_false, Option.map_some] at this ⊢ <;>
        tauto

@[simp] lemma mem_candidates_add {durable : Durable State} {state t : State} :
    t ∈ (durable.add state).candidates ↔ t ∈ durable.candidates ∨ t = state := by
  simp [Durable.add, Durable.candidates, or_assoc]

/-- Whatever a restart picks is a candidate. -/
lemma getD_mem_candidates (durable : Durable State) (pick : ℕ) :
    durable.candidates.getD pick durable.last ∈ durable.candidates := by
  rw [List.getD_eq_getElem?_getD]
  cases hpick : durable.candidates[pick]? with
  | none => simp [Durable.candidates]
  | some t => exact List.mem_of_getElem? hpick

lemma handed_take_subset (events : List Event) (exchanges : ℕ) :
    S.handed (events.take exchanges) ⊆ S.handed events :=
  ((List.take_sublist exchanges events).filterMap _).subset

/-- The exchanges of a trace that grew by one call. -/
@[simp] lemma events_concat (s : System State Call Answer Event)
    (record : CallRecord Call Answer Event) (state : State) (durable : Durable State) :
    ({ state, durable, trace := s.trace ++ [record] } : System State Call Answer Event).events =
      s.events ++ record.events := by
  simp [System.events]

/-! ### Invariants of states -/

variable (S) in
/-- What every call and every restart keeps, presented states included. -/
structure Invariant (P : State → Prop) : Prop where
  fresh : ∀ start, P (S.fresh start)
  call : ∀ s env call, P s → ∀ t ∈ S.reached (S.perform s env call), P t
  restored : ∀ start s t, P s → S.restored start s = some t → P t

namespace Invariant

variable {P : State → Prop}

/-- A call cut short leaves no other candidates. -/
lemma interrupt (h : S.Invariant P) {s : System State Call Answer Event}
    (hs : ∀ t ∈ s.states, P t) (interrupted : Option (Interrupted Env Call)) :
    ∀ t ∈ (S.interrupt s interrupted).durable.candidates, P t := by
  intro t ht
  cases interrupted with
  | none => exact hs t (List.mem_cons_of_mem _ ht)
  | some i =>
    rcases mem_candidates_after ht with ht | ht
    · exact hs t (List.mem_cons_of_mem _ ht)
    · exact h.call _ i.env i.call (hs _ List.mem_cons_self) t
        (List.mem_cons_of_mem _ (handed_take_subset _ _ ht))

lemma step (h : S.Invariant P) {s : System State Call Answer Event}
    (hs : ∀ t ∈ s.states, P t) (a : Step Env Call Start) : ∀ t ∈ (S.step s a).states, P t := by
  intro t ht
  cases a with
  | call env call =>
    have hreached := h.call _ env call (hs _ List.mem_cons_self)
    rcases List.mem_cons.mp ht with rfl | ht
    · exact hreached _ List.mem_cons_self
    · rcases mem_candidates_add.mp ht with ht | rfl
      · rcases mem_candidates_after ht with ht | ht
        · exact hs t (List.mem_cons_of_mem _ ht)
        · exact hreached t (List.mem_cons_of_mem _ ht)
      · exact hreached _ List.mem_cons_self
  | restart interrupted pick start =>
    have hcandidates := h.interrupt hs interrupted
    have hrestored := fun u => h.restored start _ u (hcandidates _ (getD_mem_candidates _ pick))
    rw [Service.step] at ht
    split at ht
    next u hu =>
      rcases List.mem_cons.mp ht with rfl | ht
      · exact hrestored _ hu
      · rcases mem_candidates_add.mp ht with ht | rfl
        · exact hcandidates t ht
        · exact hrestored _ hu
    next => exact hs t ht

/-- **What each step keeps holds in every state of every run.** -/
theorem run_from (h : S.Invariant P) (steps : List (Step Env Call Start)) :
    ∀ {s : System State Call Answer Event}, (∀ t ∈ s.states, P t) →
      ∀ t ∈ (S.run s steps).states, P t := by
  induction steps with
  | nil => exact fun hs => hs
  | cons a steps ih => exact fun hs => ih (h.step hs a)

lemma start (h : S.Invariant P) (start : Start) : ∀ t ∈ (S.start start).states, P t := by
  intro t ht
  simp only [System.states, Service.start, Durable.candidates, List.mem_cons, List.not_mem_nil,
    or_false, or_self] at ht
  exact ht ▸ h.fresh start

theorem run (h : S.Invariant P) (start : Start) (steps : List (Step Env Call Start)) :
    ∀ t ∈ (S.run (S.start start) steps).states, P t :=
  h.run_from steps (h.start start)

/-- What holds between calls, though not in each presented state. -/
theorem run_state (h : S.Invariant P) {Q : State → Prop} (hfresh : ∀ start, Q (S.fresh start))
    (hcall : ∀ s env call, P s → Q s → Q (S.perform s env call).state)
    (hrestored : ∀ start s t, P s → S.restored start s = some t → Q t) (start : Start)
    (steps : List (Step Env Call Start)) : Q (S.run (S.start start) steps).state := by
  have hrun : ∀ (steps : List (Step Env Call Start)) (s : System State Call Answer Event),
      (∀ t ∈ s.states, P t) → Q s.state → Q (S.run s steps).state := by
    intro steps
    induction steps with
    | nil => exact fun s _ hq => hq
    | cons a steps ih =>
      refine fun s hs hq => ih _ (h.step hs a) ?_
      cases a with
      | call env call => exact hcall _ env call (hs _ List.mem_cons_self) hq
      | restart interrupted pick start =>
        rw [Service.step]
        split
        next u hu =>
          exact hrestored start _ u (h.interrupt hs interrupted _ (getD_mem_candidates _ pick)) hu
        next => exact hq
  exact hrun steps _ (h.start start) (hfresh start)

end Invariant

/-! ### States and calls against the exchanges so far -/

variable (S) in
/-- What relates a state (`I`) or a call (`R`) to the exchanges of the run so far,
and is never lost when these grow. -/
structure History (P : State → Prop) (I : List Event → State → Prop)
    (R : List Event → CallRecord Call Answer Event → Prop) : Prop where
  mono : ∀ history more s, I history s → I (history ++ more) s
  recordMono : ∀ history more r, R history r → R (history ++ more) r
  fresh : ∀ start, I [] (S.fresh start)
  returned : ∀ history s env call, P s → I history s →
    let o := S.perform s env call
    I (history ++ o.events) o.state ∧
      R (history ++ o.events) { call, answer := some o.answer, events := o.events }
  handed : ∀ history s env call exchanges, P s → I history s →
    let events := (S.perform s env call).events.take exchanges
    (∀ t ∈ S.handed events, I (history ++ events) t) ∧
      R (history ++ events) { call, answer := none, events }
  restored : ∀ history start s t, P s → I history s → S.restored start s = some t → I history t

namespace History

variable {P : State → Prop} {I : List Event → State → Prop}
  {R : List Event → CallRecord Call Answer Event → Prop}

/-- What a history keeps in a system. -/
def Holds (I : List Event → State → Prop) (R : List Event → CallRecord Call Answer Event → Prop)
    (s : System State Call Answer Event) : Prop :=
  (∀ t ∈ s.states, I s.events t) ∧ ∀ r ∈ s.trace, R s.events r

/-- The candidates after some exchanges of a call. -/
lemma candidates (h : S.History P I R) {s : System State Call Answer Event}
    (hP : ∀ t ∈ s.states, P t) (hs : Holds I R s) (env : Env) (call : Call) (exchanges : ℕ) :
    let events := (S.perform s.state env call).events.take exchanges
    ∀ t ∈ (S.after s.durable events).candidates, I (s.events ++ events) t := by
  intro events t ht
  rcases mem_candidates_after ht with ht | ht
  · exact h.mono _ _ _ (hs.1 t (List.mem_cons_of_mem _ ht))
  · exact (h.handed _ _ env call exchanges (hP _ List.mem_cons_self)
      (hs.1 _ List.mem_cons_self)).1 t ht

/-- The calls of a trace that grew by one. -/
lemma records (h : S.History P I R) {s : System State Call Answer Event} (hs : Holds I R s)
    {record : CallRecord Call Answer Event} (hrecord : R (s.events ++ record.events) record) :
    ∀ r ∈ s.trace ++ [record], R (s.events ++ record.events) r := by
  intro r hr
  rcases List.mem_append.mp hr with hr | hr
  · exact h.recordMono _ _ _ (hs.2 r hr)
  · exact List.mem_singleton.mp hr ▸ hrecord

lemma interrupt (h : S.History P I R) {s : System State Call Answer Event}
    (hP : ∀ t ∈ s.states, P t) (hs : Holds I R s) (interrupted : Option (Interrupted Env Call)) :
    (∀ t ∈ (S.interrupt s interrupted).durable.candidates,
      I (S.interrupt s interrupted).events t) ∧
      ∀ r ∈ (S.interrupt s interrupted).trace, R (S.interrupt s interrupted).events r := by
  cases interrupted with
  | none => exact ⟨fun t ht => hs.1 t (List.mem_cons_of_mem _ ht), hs.2⟩
  | some i =>
    simp only [Service.interrupt, events_concat]
    exact ⟨h.candidates hP hs i.env i.call i.exchanges, h.records hs
      (h.handed _ _ i.env i.call i.exchanges (hP _ List.mem_cons_self)
        (hs.1 _ List.mem_cons_self)).2⟩

lemma step (hinv : S.Invariant P) (h : S.History P I R) {s : System State Call Answer Event}
    (hP : ∀ t ∈ s.states, P t) (hs : Holds I R s) (a : Step Env Call Start) :
    Holds I R (S.step s a) := by
  cases a with
  | call env call =>
    obtain ⟨hstate, hrecord⟩ := h.returned _ _ env call (hP _ List.mem_cons_self)
      (hs.1 _ List.mem_cons_self)
    have hcandidates := h.candidates hP hs env call (S.perform s.state env call).events.length
    rw [List.take_length] at hcandidates
    simp only [Holds, Service.step, events_concat]
    refine ⟨fun t ht => ?_, h.records hs hrecord⟩
    rcases List.mem_cons.mp ht with rfl | ht
    · exact hstate
    · rcases mem_candidates_add.mp ht with ht | rfl
      · exact hcandidates t ht
      · exact hstate
  | restart interrupted pick start =>
    obtain ⟨hcandidates, hrecords⟩ := h.interrupt hP hs interrupted
    have hmem := getD_mem_candidates (S.interrupt s interrupted).durable pick
    have hrestored := fun u => h.restored _ start _ u (hinv.interrupt hP interrupted _ hmem)
      (hcandidates _ hmem)
    rw [Service.step]
    split
    next u hu =>
      refine ⟨fun t ht => ?_, hrecords⟩
      rcases List.mem_cons.mp ht with rfl | ht
      · exact hrestored _ hu
      · rcases mem_candidates_add.mp ht with ht | rfl
        · exact hcandidates t ht
        · exact hrestored _ hu
    next => exact hs

/-- **What each step keeps about the exchanges so far holds in every run.** -/
theorem run (hinv : S.Invariant P) (h : S.History P I R) (start : Start)
    (steps : List (Step Env Call Start)) : Holds I R (S.run (S.start start) steps) := by
  have hrun : ∀ (steps : List (Step Env Call Start)) (s : System State Call Answer Event),
      (∀ t ∈ s.states, P t) → Holds I R s → Holds I R (S.run s steps) := by
    intro steps
    induction steps with
    | nil => exact fun s _ hs => hs
    | cons a steps ih => exact fun s hP hs => ih _ (hinv.step hP a) (step hinv h hP hs a)
  refine hrun steps _ (hinv.start start) ⟨fun t ht => ?_, by simp [Service.start]⟩
  simp only [System.states, Service.start, Durable.candidates, List.mem_cons, List.not_mem_nil,
    or_false, or_self] at ht
  rw [ht]
  exact h.fresh start

end History

/-! ### Dispatching a key once -/

variable (S) in
/-- A service that never drops a key it has, and dispatches one only while it is
new and once every state a restart may find has it. -/
structure Dispatch (P : State → Prop) (key : Event → Option Key) (has : State → Key → Prop) :
    Prop where
  kept : ∀ s env call k, P s → has s k → ∀ t ∈ S.reached (S.perform s env call), has t k
  restored : ∀ start s t k, P s → has s k → S.restored start s = some t → has t k
  dispatched : ∀ s env call exchanges, P s →
    let o := S.perform s env call
    let events := o.events.take exchanges
    events.filterMap key = [] ∨ ∃ k, events.filterMap key = [k] ∧ ¬ has s k ∧ has o.state k ∧
      ∀ durable : Durable State, ∀ t ∈ (S.after durable events).candidates, has t k

namespace Dispatch

variable {P : State → Prop} {key : Event → Option Key} {has : State → Key → Prop}

/-- What a run keeps: no key was dispatched twice, and every dispatched key is in
each state that the service has or a restart may find. -/
structure Once (key : Event → Option Key) (has : State → Key → Prop)
    (s : System State Call Answer Event) : Prop where
  nodup : (s.events.filterMap key).Nodup
  kept : ∀ k ∈ s.events.filterMap key, ∀ t ∈ s.states, has t k

/-- The exchanges of a call, cut off or not, dispatch no key again. -/
lemma exchanges (h : S.Dispatch P key has) {s : System State Call Answer Event}
    (hP : ∀ t ∈ s.states, P t) (hs : Once key has s) (env : Env) (call : Call) (exchanges : ℕ) :
    let o := S.perform s.state env call
    let events := o.events.take exchanges
    ((s.events ++ events).filterMap key).Nodup ∧
      ∀ k ∈ (s.events ++ events).filterMap key,
        has o.state k ∧ ∀ t ∈ (S.after s.durable events).candidates, has t k := by
  intro o events
  have hstate := hP _ List.mem_cons_self
  -- a key of an earlier call is in every state this one presents
  have hold : ∀ k ∈ s.events.filterMap key,
      has o.state k ∧ ∀ t ∈ (S.after s.durable events).candidates, has t k := by
    intro k hk
    have hreached := h.kept _ env call k hstate (hs.kept k hk _ List.mem_cons_self)
    refine ⟨hreached _ List.mem_cons_self, fun t ht => ?_⟩
    rcases mem_candidates_after ht with ht | ht
    · exact hs.kept k hk t (List.mem_cons_of_mem _ ht)
    · exact hreached t (List.mem_cons_of_mem _ (handed_take_subset _ _ ht))
  rw [List.filterMap_append]
  rcases h.dispatched _ env call exchanges hstate with hnone | ⟨k, hone, habsent, hhas, hdurable⟩
  · rw [hnone, List.append_nil]
    exact ⟨hs.nodup, hold⟩
  · rw [hone]
    constructor
    · refine List.Nodup.append hs.nodup (List.nodup_singleton k) fun other hother hmem => ?_
      rw [List.mem_singleton.mp hmem] at hother
      exact habsent (hs.kept k hother _ List.mem_cons_self)
    · intro other hother
      rcases List.mem_append.mp hother with hother | hother
      · exact hold other hother
      · rw [List.mem_singleton.mp hother]
        exact ⟨hhas, hdurable s.durable⟩

/-- A service that dies dispatches no key again, and loses none. -/
lemma interrupt (h : S.Dispatch P key has) {s : System State Call Answer Event}
    (hP : ∀ t ∈ s.states, P t) (hs : Once key has s) (interrupted : Option (Interrupted Env Call)) :
    ((S.interrupt s interrupted).events.filterMap key).Nodup ∧
      ∀ k ∈ (S.interrupt s interrupted).events.filterMap key,
        ∀ t ∈ (S.interrupt s interrupted).durable.candidates, has t k := by
  cases interrupted with
  | none => exact ⟨hs.nodup, fun k hk t ht => hs.kept k hk t (List.mem_cons_of_mem _ ht)⟩
  | some i =>
    obtain ⟨hnodup, hkept⟩ := h.exchanges hP hs i.env i.call i.exchanges
    simp only [Service.interrupt, events_concat]
    exact ⟨hnodup, fun k hk => (hkept k hk).2⟩

lemma step (hinv : S.Invariant P) (h : S.Dispatch P key has) {s : System State Call Answer Event}
    (hP : ∀ t ∈ s.states, P t) (hs : Once key has s) (a : Step Env Call Start) :
    Once key has (S.step s a) := by
  cases a with
  | call env call =>
    obtain ⟨hnodup, hkept⟩ := h.exchanges hP hs env call (S.perform s.state env call).events.length
    rw [List.take_length] at hnodup hkept
    constructor
    · simpa only [Service.step, events_concat] using hnodup
    · intro k hk t ht
      simp only [Service.step, events_concat] at hk
      rcases List.mem_cons.mp ht with rfl | ht
      · exact (hkept k hk).1
      · rcases mem_candidates_add.mp ht with ht | rfl
        · exact (hkept k hk).2 t ht
        · exact (hkept k hk).1
  | restart interrupted pick start =>
    obtain ⟨hnodup, hkept⟩ := h.interrupt hP hs interrupted
    have hmem := getD_mem_candidates (S.interrupt s interrupted).durable pick
    rw [Service.step]
    split
    next u hu =>
      refine ⟨hnodup, fun k hk t ht => ?_⟩
      have hrestored := h.restored start _ u k (hinv.interrupt hP interrupted _ hmem)
        (hkept k hk _ hmem) hu
      rcases List.mem_cons.mp ht with rfl | ht
      · exact hrestored
      · rcases mem_candidates_add.mp ht with ht | rfl
        · exact hkept k hk t ht
        · exact hrestored
    next => exact hs

/-- **At most once.**  No run dispatches a key twice, and no state of a run has
lost a key that was dispatched. -/
theorem at_most_once (hinv : S.Invariant P) (h : S.Dispatch P key has) (start : Start)
    (steps : List (Step Env Call Start)) : Once key has (S.run (S.start start) steps) := by
  have hrun : ∀ (steps : List (Step Env Call Start)) (s : System State Call Answer Event),
      (∀ t ∈ s.states, P t) → Once key has s → Once key has (S.run s steps) := by
    intro steps
    induction steps with
    | nil => exact fun s _ hs => hs
    | cons a steps ih => exact fun s hP hs => ih _ (hinv.step hP a) (step hinv h hP hs a)
  exact hrun steps _ (hinv.start start)
    { nodup := List.nodup_nil
      kept := fun k hk => absurd hk List.not_mem_nil }

end Dispatch

end Service

end CheckpointedRun
