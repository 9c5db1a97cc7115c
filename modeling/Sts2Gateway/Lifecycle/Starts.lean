/-
The starts of the lifecycle coordinator.

* `FencedBy`, `starts_fenced`: **a process is started only behind a durable record that says
  so**, at most once in a call, a launch for a new operation and a replacement for a process
  that was seen gone;
* `Event.launches`, `launched_once`: **a launch is started at most once**, over all calls,
  crashes and rebuilds.
-/
import Sts2Gateway.Lifecycle.Runs

namespace Sts2Gateway.Lifecycle

open ControlPlane (InstanceId OperationId ProcessHandle)
open Procedure Exchange Crash

/-! ### The fence of a start -/

/-- What a call has exchanged before it starts a process, for the record of its operation;
`known` are the records in memory when the call began. -/
structure FencedBy (known : Records) (before : List Event)
    (generation : ProcessOperationGeneration) (operation : LifecycleOperation) : Prop where
  key : ∃ profile, ProcessOperationGeneration.forOperation operation profile generation.kind =
    some generation
  wrote : ∃ earlier later, before = earlier ++ .wrote (.update operation) .done :: later ∧
    ∀ event ∈ later, event.Plain
  sequence : operation.sequence ≠ 0
  state : operation.state = generation.kind.startState
  process : operation.process = none
  first : ∀ event ∈ before, ¬ event.Starts
  fresh : generation.kind = .launchNew → known[operation.key]? = none ∧
    ∃ admitted, admitted.key = operation.key ∧
      [.wrote (.insert admitted) .done, .wrote (.update operation) .done].Sublist before
  replaced : generation.kind = .restartReplacement → ∃ identity event,
    ((∃ old, known[operation.key]? = some old ∧ old.process = some identity) ∨
      ∃ old, old.key = operation.key ∧ old.process = some identity ∧
        .wrote (.update old) .done ∈ before) ∧
    Event.Ends identity.process event ∧
    [event, .listedDescendants identity.process (.ok []),
      .wrote (.update operation) .done].Sublist before

section Fence

variable {env : Environment} {s₀ s : CallState Coordinator Event} {before : List Event}
  {generation : ProcessOperationGeneration} {operation : LifecycleOperation}

lemma Startable.fenced (h : Startable s₀ s generation operation)
    (hbefore : s.events = s₀.events ++ before) :
    FencedBy s₀.state.memory.retained.records before generation operation where
  key := h.key
  wrote := by
    obtain ⟨earlier, later, hlog, hplain⟩ := h.wrote
    rw [hlog] at hbefore
    exact ⟨earlier, later, (List.append_cancel_left hbefore).symm, hplain⟩
  sequence := by
    obtain ⟨profile, hkey⟩ := h.key
    exact (ProcessOperationGeneration.forOperation_eq_some.mp hkey).2.1
  state := h.state
  process := h.process
  first := by
    obtain ⟨log, hlog, hquiet⟩ := h.first
    rw [hlog] at hbefore
    rwa [← List.append_cancel_left hbefore]
  fresh hkind := by
    obtain ⟨habsent, admitted, hkey, hheard⟩ := h.fresh hkind
    exact ⟨habsent, admitted, hkey, hheard.sublist_log hbefore⟩
  replaced hkind := by
    obtain ⟨identity, event, hnamed, hends, hheard⟩ := h.replaced hkind
    refine ⟨identity, event, hnamed.imp id ?_, hends, hheard.sublist_log hbefore⟩
    rintro ⟨old, hkey, hprocess, hwrote⟩
    exact ⟨old, hkey, hprocess, (hwrote.sublist_log hbefore).subset (List.mem_singleton_self _)⟩

/-- Every start among the events of a call is fenced, and is the only one. -/
def StartsFenced (known : Records) (events : List Event) : Prop :=
  ∀ before generation answer after, events = before ++ .started generation answer :: after →
    (∃ operation, FencedBy known before generation operation) ∧ ∀ event ∈ after, ¬ event.Starts

variable {known : Records} {events : List Event}

/-- Events none of which is a start. -/
lemma startsFenced_of_quiet (h : ∀ event ∈ events, ¬ event.Starts) : StartsFenced known events := by
  intro before generation answer after hsplit
  refine absurd trivial (h (.started generation answer) ?_)
  rw [hsplit]
  exact List.mem_append_right _ List.mem_cons_self

/-- An exchange that starts nothing comes after every start. -/
lemma StartsFenced.snoc (h : StartsFenced known events) {event : Event} (hevent : ¬ event.Starts) :
    StartsFenced known (events ++ [event]) := by
  intro before generation answer after hsplit
  obtain ⟨-, -, rfl⟩ | ⟨rest, rfl, hrest⟩ := append_singleton_eq_iff.mp hsplit
  · exact absurd trivial hevent
  · obtain ⟨hfenced, hquiet⟩ := h before generation answer rest hrest
    exact ⟨hfenced, List.forall_mem_append.mpr ⟨hquiet, List.forall_mem_singleton.mpr hevent⟩⟩

/-- The first start of a call. -/
lemma startsFenced_start (hquiet : ∀ event ∈ events, ¬ event.Starts)
    (hfenced : FencedBy known events generation operation)
    (answer : Except GenerationStartError ProcessLaunch) :
    StartsFenced known (events ++ [.started generation answer]) := by
  intro before generation' answer' after hsplit
  obtain ⟨rfl, rfl, hevent⟩ | ⟨rest, -, hrest⟩ := append_singleton_eq_iff.mp hsplit
  · obtain ⟨rfl, -⟩ := Event.started.inj hevent
    exact ⟨⟨operation, hfenced⟩, List.forall_mem_nil _⟩
  · refine absurd trivial (hquiet (.started generation' answer') ?_)
    rw [hrest]
    exact List.mem_append_right _ List.mem_cons_self

lemma Path.startsFenced (hs : Path env s₀ s) :
    ∃ log, s.events = s₀.events ++ log ∧
      StartsFenced s₀.state.memory.retained.records log := by
  induction hs with
  | refl =>
    exact ⟨[], (List.append_nil _).symm, startsFenced_of_quiet (List.forall_mem_nil _)⟩
  | @tail s t _ hstep ih =>
    obtain ⟨log, hlog, hfenced⟩ := ih
    cases hstep with
    | move hmove =>
      obtain hsame | ⟨event, hevents, hquiet⟩ := hmove.log
      · exact ⟨log, hsame.trans hlog, hfenced⟩
      · exact ⟨log ++ [event], by rw [hevents, hlog, List.append_assoc], hfenced.snoc hquiet⟩
    | started generation operation startable answer =>
      obtain ⟨first, hfirst, hquiet⟩ := startable.first
      refine ⟨first ++ [.started generation answer], ?_, startsFenced_start hquiet
        (startable.fenced hfirst) answer⟩
      rw [hfirst, List.append_assoc]

end Fence

/-- **Fences.**  Whatever the ports and the store answer, and wherever a crash falls, a call
starts a process only behind a durable record that names no process and says that one is being
started, and it starts one process at most.  A launch is for an operation that the call has
admitted.  A replacement is for a process that the record named, that was stopped or seen
exited, and then seen without descendants. -/
theorem starts_fenced (env : Environment) (call : Call) (c : Coordinator) (log : List Event) :
    After (call.run env) ⟨c, log⟩ fun _ t =>
      ∃ events, t.events = log ++ events ∧ StartsFenced c.memory.retained.records events := by
  refine After.mono (call_walks env call ⟨c, log⟩) fun r t h => ?_
  rcases r with (⟨⟩ | error) | response
  · obtain ⟨u, hu, hsame⟩ := h
    have hevents : u.events = t.events := congrArg Prod.snd hsame
    rw [← hevents]
    exact hu.startsFenced
  · exact h.startsFenced
  · exact h.1.startsFenced

/-! ### Launches over whole runs -/

/-- A start of the process of a launch. -/
def Event.launches (key : LifecycleRecordKey) : Event → Bool
  | .started generation _ => generation.kind = .launchNew ∧
      LifecycleRecordKey.new generation.instanceId generation.operationId = key
  | _ => false

lemma Event.launches_of_not_starts {event : Event} (h : ¬ event.Starts)
    (key : LifecycleRecordKey) : event.launches key = false := by
  cases event with
  | started => exact absurd trivial h
  | _ => rfl

/-- The launches in a log are of records that the store holds, and each is there once. -/
def LaunchesStored (contents : LifecycleContents) (events : List Event) : Prop :=
  ∀ key, events.countP (·.launches key) ≤ 1 ∧
    (events.countP (·.launches key) ≠ 0 → key ∈ contents.records)

/-- Memory knows the launches as well. -/
def LaunchesKnown (s : CallState Coordinator Event) : Prop :=
  LaunchesStored s.state.store s.events ∧
    ∀ key, s.events.countP (·.launches key) ≠ 0 → key ∈ s.state.memory.retained.records

lemma countP_launches_append {events more : List Event} (hquiet : ∀ event ∈ more, ¬ event.Starts)
    (key : LifecycleRecordKey) :
    (events ++ more).countP (·.launches key) = events.countP (·.launches key) := by
  rw [List.countP_append, Nat.add_eq_left, List.countP_eq_zero]
  intro event hevent
  rw [Event.launches_of_not_starts (hquiet event hevent)]
  exact Bool.false_ne_true

lemma key_of_forOperation {operation : LifecycleOperation} {profile : LaunchProfile}
    {kind : ProcessGenerationKind} {generation : ProcessOperationGeneration}
    (h : ProcessOperationGeneration.forOperation operation profile kind = some generation) :
    LifecycleRecordKey.new generation.instanceId generation.operationId = operation.key := by
  rw [(ProcessOperationGeneration.forOperation_eq_some.mp h).2.2.2.2]
  rfl

lemma launchesKnown_step {env : Environment} {s₀ s t : CallState Coordinator Event}
    (hbegan : LaunchesKnown s₀) (hs : LaunchesKnown s) (hstep : CallStep env s₀ s t) :
    LaunchesKnown t := by
  cases hstep with
  | move hmove =>
    have hcount : ∀ key, t.events.countP (·.launches key) = s.events.countP (·.launches key) := by
      intro key
      obtain hsame | ⟨event, hevents, hquiet⟩ := hmove.log
      · rw [hsame]
      · rw [hevents, countP_launches_append (List.forall_mem_singleton.mpr hquiet)]
    refine ⟨fun key => ?_, fun key hkey => ?_⟩
    · rw [hcount key]
      exact ⟨(hs.1 key).1, fun hkey => hmove.stored_mono ((hs.1 key).2 hkey)⟩
    · rw [hcount key] at hkey
      exact hmove.remembered_mono (hs.2 key hkey)
  | started generation operation startable answer =>
    obtain ⟨profile, hgeneration⟩ := startable.key
    have hsame := key_of_forOperation hgeneration
    have hone : ∀ key, (s.events ++ [Event.started generation answer]).countP (·.launches key) =
        s.events.countP (·.launches key) +
          if generation.kind = .launchNew ∧ operation.key = key then 1 else 0 := by
      intro key
      rw [List.countP_append, List.countP_singleton, Event.launches, hsame]
      simp only [decide_eq_true_eq]
    -- A launch that is started has no record in memory when the call begins.
    have hnew : generation.kind = .launchNew → s.events.countP (·.launches operation.key) = 0 := by
      intro hkind
      obtain ⟨log, hlog, hquiet⟩ := startable.first
      rw [hlog, countP_launches_append hquiet]
      by_contra hcount
      exact OrderedMap.mem_iff_getElem?_ne_none.mp (hbegan.2 _ hcount) (startable.fresh hkind).1
    have hmem : ∀ {contents : LifecycleContents} (key : LifecycleRecordKey),
        contents.records[operation.key]? = some operation →
        (s.events.countP (·.launches key) ≠ 0 → key ∈ contents.records) →
        (s.events ++ [Event.started generation answer]).countP (·.launches key) ≠ 0 →
        key ∈ contents.records := by
      intro contents key hfound hbefore hcount
      rw [hone key] at hcount
      split_ifs at hcount with hthis
      · rw [← hthis.2, OrderedMap.mem_iff_getElem?_ne_none, hfound]
        exact Option.some_ne_none _
      · exact hbefore hcount
    refine ⟨fun key => ⟨?_, hmem key startable.durable (hs.1 key).2⟩,
      fun key => hmem key startable.remembered (hs.2 key)⟩
    show (s.events ++ [_]).countP _ ≤ 1
    rw [hone key]
    split_ifs with hthis
    · rw [← hthis.2, hnew hthis.1]
    · exact (hs.1 key).1

/-- **Launches.**  The process of a launch is started at most once, whatever calls, crashes and
rebuilds there are and whatever the store and the port answer. -/
theorem launched_once (env : Environment) (steps : List Step) (instanceId : InstanceId)
    (operationId : OperationId) :
    (run env start steps).events.countP (·.launches (.new instanceId operationId)) ≤ 1 := by
  refine ((holds_run env LaunchesStored LaunchesKnown (fun s hs => hs.1)
    (fun s₀ s t hbegan _ hs hstep => launchesKnown_step hbegan hs hstep) ?_ ?_
    (holds_start fun key => ⟨Nat.zero_le _, fun h => absurd rfl h⟩) steps).durable _).1
  · intro system memory lease bound hs hbound
    rw [ProcessLifecycle.bindLease] at hbound
    split_ifs at hbound
    obtain rfl := Except.ok.inj hbound
    exact hs
  · intro setup system hs
    obtain ⟨hrecords, more, hmore, hquiet⟩ := rebuilt_reopened env setup system
    have hcount : ∀ key, (rebuilt env setup system).events.countP (·.launches key) =
        system.events.countP (·.launches key) := by
      intro key
      rw [hmore, countP_launches_append hquiet]
    have hstored : LaunchesStored (rebuilt env setup system).store
        (rebuilt env setup system).events := by
      intro key
      rw [hcount key, hrecords]
      exact hs key
    refine ⟨hstored, fun memory hmemory => ⟨hstored, fun key hkey => ?_⟩⟩
    show key ∈ memory.retained.records
    rw [(rebuilt_restored hmemory).1.records]
    have hkey : (rebuilt env setup system).events.countP (·.launches key) ≠ 0 := hkey
    rw [hcount key] at hkey
    exact (hs key).2 hkey

end Sts2Gateway.Lifecycle
