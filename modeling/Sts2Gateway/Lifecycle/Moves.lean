/-
The atomic steps of the lifecycle coordinator.

* `SeenGone`, `Named`: what a call has heard of a process, and which process its operation
  has named;
* `LifecycleOperation.Precedes`, `Held`, `Recorded`: how an operation changes, and what memory
  holds of it;
* `Move`, `Startable`, `Path`: **what a call does in one step**, when it may start a process,
  and the states that it passes through;
* `Steady`: what an exchange with a port, or a change of the row, leaves as it was;
* `persistUpdate_walks`, `reserveOwnership_walks`, `authenticate_walks`: the durable steps as
  such moves.
-/
import Sts2Gateway.Library.Walk
import Sts2Gateway.Lifecycle.Operations

namespace Sts2Gateway.Lifecycle

open Std (ExtTreeMap)
open ControlPlane (InstanceId OperationId LeaseProof ProcessHandle ProcessFault ProcessState
  StopMode u64Max)
open Procedure Exchange Crash

/-! ### Exchanges -/

/-- A start of a process. -/
def Event.Starts : Event → Prop
  | .started _ _ => True
  | _ => False

/-- An exchange that neither starts a process nor changes the store. -/
def Event.Asks : Event → Prop
  | .started _ _ | .wrote _ _ => False
  | _ => True

/-- An exchange that neither starts a process nor writes a record. -/
def Event.Plain : Event → Prop
  | .started _ _ | .wrote (.insert _) _ | .wrote (.update _) _ => False
  | _ => True

lemma Event.Asks.plain {event : Event} (h : event.Asks) : event.Plain := by
  cases event with
  | started | wrote => exact h.elim
  | _ => trivial

lemma Event.Plain.not_starts {event : Event} (h : event.Plain) : ¬ event.Starts := by
  cases event with
  | started => exact h.elim
  | _ => exact not_false

/-- The port has stopped a process, or has shown it exited. -/
inductive Event.Ends (process : ProcessHandle) : Event → Prop
  | stopped (mode : StopMode) : Event.Ends process (.stopped process mode (.ok ()))
  | exited (code : Option ℤ) : Event.Ends process (.inspected process (.ok (.exited code)))

/-- During a call the process has ended, and has then been seen without descendants. -/
def SeenGone (s₀ s : CallState Coordinator Event) (process : ProcessHandle) : Prop :=
  ∃ event, Event.Ends process event ∧ Heard s₀ s [event, .listedDescendants process (.ok [])]

/-- Nothing was started since the call began. -/
def Unstarted (s₀ s : CallState Coordinator Event) : Prop :=
  ∃ log, s.events = s₀.events ++ log ∧ ∀ event ∈ log, ¬ event.Starts

/-- The process that the record of a key named when the call began, or was given in it. -/
def Named (s₀ s : CallState Coordinator Event) (key : LifecycleRecordKey)
    (identity : ProcessIdentity) : Prop :=
  (∃ operation, s₀.state.memory.retained.records[key]? = some operation ∧
    operation.process = some identity) ∨
  ∃ operation, operation.key = key ∧ operation.process = some identity ∧
    Heard s₀ s [.wrote (.update operation) .done]

/-! ### Records -/

/-- A record may be replaced by another one of the same operation, and not at all when it is
at its end. -/
structure LifecycleOperation.Precedes (old new : LifecycleOperation) : Prop where
  operationId : new.operationId = old.operationId
  instanceId : new.instanceId = old.instanceId
  lease : new.lease = old.lease
  sequence : new.sequence = old.sequence
  requestEpoch : new.requestEpoch = old.requestEpoch
  action : new.action = old.action
  epoch : old.authorityEpoch ≤ new.authorityEpoch
  frozen : old.state.isActive = false → new = old

namespace LifecycleOperation.Precedes

variable {a b c : LifecycleOperation}

lemma refl (a : LifecycleOperation) : a.Precedes a :=
  ⟨rfl, rfl, rfl, rfl, rfl, rfl, le_rfl, fun _ => rfl⟩

lemma trans (hab : a.Precedes b) (hbc : b.Precedes c) : a.Precedes c where
  operationId := hbc.operationId.trans hab.operationId
  instanceId := hbc.instanceId.trans hab.instanceId
  lease := hbc.lease.trans hab.lease
  sequence := hbc.sequence.trans hab.sequence
  requestEpoch := hbc.requestEpoch.trans hab.requestEpoch
  action := hbc.action.trans hab.action
  epoch := hab.epoch.trans hbc.epoch
  frozen h := by
    obtain rfl := hab.frozen h
    exact hbc.frozen h

lemma setState (ha : a.state.isActive = true) (state : LifecycleOperationState)
    (process : Option ProcessIdentity) (failure : Option LifecycleFailure) :
    a.Precedes (a.setState state process failure) :=
  ⟨rfl, rfl, rfl, rfl, rfl, rfl, le_rfl, fun h => by rw [ha] at h; cases h⟩

lemma key (h : a.Precedes b) : b.key = a.key := by
  rw [LifecycleOperation.key, h.instanceId, h.operationId]
  rfl

end LifecycleOperation.Precedes

/-- A record that may replace the one in memory: it forgets a process only once that was seen
gone. -/
structure Puttable (s₀ s : CallState Coordinator Event) (old operation : LifecycleOperation) :
    Prop where
  held : s.state.memory.retained.records[operation.key]? = some old
  precedes : old.Precedes operation
  epoch : operation.authorityEpoch = old.authorityEpoch
  gone : ∀ identity, old.process = some identity → operation.process = none →
    SeenGone s₀ s identity.process

/-- A new record: what its request says, under the current epoch and the next sequence. -/
structure Admitted (lifecycle : ProcessLifecycle) (operation : LifecycleOperation) : Prop where
  absent : lifecycle.retained.records[operation.key]? = none
  room : lifecycle.retained.records.size < lifecycle.config.maxRecords
  reserved : lifecycle.reserveAction operation.instanceId operation.action = .ok ()
  bound : lifecycle.nextSequence < u64Max
  fresh : operation = (LifecycleOperation.new operation.operationId operation.instanceId
    operation.lease (lifecycle.currentAuthorityEpoch operation.instanceId)
    operation.action).setSequence (lifecycle.nextSequence + 1)

/-- The coordinator after a mutation of its store that succeeded, and what it remembers then. -/
def Coordinator.persisted (c : Coordinator) (w : StoreWrite)
    (f : ProcessLifecycle → ProcessLifecycle) : Coordinator :=
  (c.wrote w .done).remember f

def ProcessLifecycle.putRecord (lifecycle : ProcessLifecycle) (operation : LifecycleOperation) :
    ProcessLifecycle :=
  { lifecycle with retained := lifecycle.retained.putRecord operation }

/-! ### Moves -/

/-- **Moves.**  What a call that began in `s₀` does in one step, other than to start a process.
A change of the store and of memory is one step: no crash comes between them. -/
inductive Move (env : Environment) (s₀ : CallState Coordinator Event) :
    CallState Coordinator Event → CallState Coordinator Event → Prop
  | asked (s : CallState Coordinator Event) (event : Event) (asks : event.Asks) :
      Move env s₀ s ⟨s.state, s.events ++ [event]⟩
  | failed (s : CallState Coordinator Event) (w : StoreWrite) (outcome : StoreOutcome)
      (asked : outcome = env.write s.events s.state.store w) (error : LifecycleStoreError)
      (failure : outcome.answer = .error error) :
      Move env s₀ s ⟨s.state.wrote w outcome, s.events ++ [.wrote w outcome]⟩
  | inserted (s : CallState Coordinator Event) (operation : LifecycleOperation)
      (admitted : Admitted s.state.memory operation) :
      Move env s₀ s ⟨s.state.persisted (.insert operation) fun lifecycle =>
          { lifecycle.putRecord operation with nextSequence := operation.sequence },
        s.events ++ [.wrote (.insert operation) .done]⟩
  | updated (s : CallState Coordinator Event) (old operation : LifecycleOperation)
      (puttable : Puttable s₀ s old operation) :
      Move env s₀ s ⟨s.state.persisted (.update operation) fun lifecycle =>
        lifecycle.putRecord operation, s.events ++ [.wrote (.update operation) .done]⟩
  | rotated (s : CallState Coordinator Event) (old operation : LifecycleOperation)
      (held : s.state.memory.retained.records[operation.key]? = some old)
      (precedes : old.Precedes operation)
      (current : old.authorityEpoch = s.state.memory.currentAuthorityEpoch operation.instanceId)
      (once : old.requestEpoch = old.authorityEpoch)
      (epoch : operation.authorityEpoch = old.authorityEpoch + 1)
      (process : operation.process.isSome = true) :
      Move env s₀ s ⟨s.state.persisted (.update operation) fun lifecycle =>
        (lifecycle.setAuthorityEpoch operation.instanceId operation.authorityEpoch).putRecord
          operation, s.events ++ [.wrote (.update operation) .done]⟩
  | confirmed (s : CallState Coordinator Event) (instanceId : InstanceId) :
      Move env s₀ s ⟨s.state.remember fun lifecycle =>
        lifecycle.setAuthorityEpoch instanceId (lifecycle.currentAuthorityEpoch instanceId),
        s.events⟩
  | sequenced (s : CallState Coordinator Event) :
      Move env s₀ s ⟨s.state.remember fun lifecycle =>
        { lifecycle with nextSequence := lifecycle.nextSequence + 1 }, s.events⟩
  | owned (s : CallState Coordinator Event) (row : LifecycleOwnership) :
      Move env s₀ s ⟨s.state.persisted (.setOwnership row) fun lifecycle => lifecycle.own row,
        s.events ++ [.wrote (.setOwnership row) .done]⟩
  | disowned (s : CallState Coordinator Event) (row : LifecycleOwnership)
      (held : s.state.memory.retained.row row.instanceId = some row) :
      Move env s₀ s ⟨s.state.persisted (.clearOwnershipIf row) fun lifecycle =>
        lifecycle.disown row.instanceId, s.events ++ [.wrote (.clearOwnershipIf row) .done]⟩
  | unowned (s : CallState Coordinator Event) (instanceId : InstanceId)
      (none_held : s.state.memory.retained.row instanceId = none) :
      Move env s₀ s ⟨s.state.remember fun lifecycle =>
        { lifecycle with owned := lifecycle.owned.erase instanceId }, s.events⟩

/-- The process that a replacement takes the place of: the record named it, it has ended, it
was seen without descendants, and after that the record without it became durable. -/
def Replaced (s₀ s : CallState Coordinator Event) (operation : LifecycleOperation) : Prop :=
  ∃ identity event, Named s₀ s operation.key identity ∧ Event.Ends identity.process event ∧
    Heard s₀ s [event, .listedDescendants identity.process (.ok []),
      .wrote (.update operation) .done]

/-- The state that a record has when its process is started. -/
def ProcessGenerationKind.startState : ProcessGenerationKind → LifecycleOperationState
  | .launchNew => .starting
  | .restartReplacement => .restarting

/-- **When a process may be started**: its record is durable and in memory, names no process
yet and says that one is being started; nothing was started before in the call; a launch is a
new operation, and a replacement takes the place of a process that is gone. -/
structure Startable (s₀ s : CallState Coordinator Event) (generation : ProcessOperationGeneration)
    (operation : LifecycleOperation) : Prop where
  key : ∃ profile, ProcessOperationGeneration.forOperation operation profile generation.kind =
    some generation
  remembered : s.state.memory.retained.records[operation.key]? = some operation
  durable : s.state.store.records[operation.key]? = some operation
  wrote : ∃ earlier later, s.events =
    s₀.events ++ (earlier ++ .wrote (.update operation) .done :: later) ∧
      ∀ event ∈ later, event.Plain
  state : operation.state = generation.kind.startState
  process : operation.process = none
  first : Unstarted s₀ s
  fresh : generation.kind = .launchNew →
    s₀.state.memory.retained.records[operation.key]? = none ∧
      ∃ admitted, admitted.key = operation.key ∧
        Heard s₀ s [.wrote (.insert admitted) .done, .wrote (.update operation) .done]
  replaced : generation.kind = .restartReplacement → Replaced s₀ s operation

/-- One step of a call. -/
inductive CallStep (env : Environment) (s₀ : CallState Coordinator Event) :
    CallState Coordinator Event → CallState Coordinator Event → Prop
  | move {s t : CallState Coordinator Event} (move : Move env s₀ s t) : CallStep env s₀ s t
  | started (s : CallState Coordinator Event) (generation : ProcessOperationGeneration)
      (operation : LifecycleOperation) (startable : Startable s₀ s generation operation)
      (answer : Except GenerationStartError ProcessLaunch) :
      CallStep env s₀ s ⟨s.state, s.events ++ [.started generation answer]⟩

/-- The states that a call passes through. -/
abbrev Path (env : Environment) (s₀ : CallState Coordinator Event) : CallState Coordinator Event → Prop :=
  Relation.ReflTransGen (CallStep env s₀) s₀

lemma Path.move {env : Environment} {s₀ s t : CallState Coordinator Event} (hs : Path env s₀ s) (h : Move env s₀ s t) :
    Path env s₀ t := hs.tail (.move h)

/-- The log only grows. -/
lemma Path.heard {env : Environment} {s₀ s : CallState Coordinator Event} (hs : Path env s₀ s) : Heard s₀ s [] := by
  induction hs with
  | refl => exact .nil s₀
  | tail _ hstep ih =>
    cases hstep with
    | move hmove => cases hmove <;> first | exact ih.append rfl | exact ih
    | started => exact ih.append rfl

/-- What a crash leaves: the store and the log. -/
def surviving (s : CallState Coordinator Event) : LifecycleContents × List Event :=
  (s.state.store, s.events)

/-- A procedure each of whose steps is one of a call. -/
abbrev WalksFrom {α : Type} (env : Environment) (s₀ : CallState Coordinator Event) (p : LifecycleM α)
    (s : CallState Coordinator Event) (Q : α → CallState Coordinator Event → Prop) : Prop :=
  Walks surviving (Path env s₀) p s Q

/-! ### What memory holds of an operation -/

section Held

variable {s₀ s t : CallState Coordinator Event} {operation : LifecycleOperation}

/-- Memory holds the operation, still active, under the same epoch; it names no process that
the operation does not name as well. -/
def Held (s : CallState Coordinator Event) (operation : LifecycleOperation) : Prop :=
  ∃ old, s.state.memory.retained.records[operation.key]? = some old ∧
    old.Precedes operation ∧ operation.authorityEpoch = old.authorityEpoch ∧
    old.state.isActive = true ∧ (operation.process = none → old.process = none)

/-- Memory holds the very operation, and it is active. -/
structure Recorded (s : CallState Coordinator Event) (operation : LifecycleOperation) : Prop where
  found : s.state.memory.retained.records[operation.key]? = some operation
  active : operation.state.isActive = true

lemma Recorded.held (h : Recorded s operation) : Held s operation :=
  ⟨operation, h.found, .refl operation, rfl, h.active, id⟩

lemma Held.puttable (h : Held s operation) (s₀ : CallState Coordinator Event) :
    ∃ old, Puttable s₀ s old operation := by
  obtain ⟨old, hfound, hprecedes, hepoch, -, hprocess⟩ := h
  refine ⟨old, hfound, hprecedes, hepoch, fun identity hold hnone => ?_⟩
  rw [hprocess hnone] at hold
  cases hold

/-- A new state, which keeps a process that the operation has. -/
lemma Held.setState (h : Held s operation) {state : LifecycleOperationState}
    {process : Option ProcessIdentity} {failure : Option LifecycleFailure}
    (hprocess : process = none → operation.process = none) :
    Held s (operation.setState state process failure) := by
  obtain ⟨old, hfound, hprecedes, hepoch, hactive, hnone⟩ := h
  refine ⟨old, hfound, ⟨hprecedes.operationId, hprecedes.instanceId, hprecedes.lease,
    hprecedes.sequence, hprecedes.requestEpoch, hprecedes.action, hprecedes.epoch, fun h => ?_⟩,
    hepoch, hactive, fun h => hnone (hprocess h)⟩
  rw [hactive] at h
  cases h

lemma Held.setProcess (h : Held s operation) {state : LifecycleOperationState}
    {identity : ProcessIdentity} {failure : Option LifecycleFailure} :
    Held s (operation.setState state (some identity) failure) :=
  h.setState fun h => by cases h

/-- The process that the operation names is gone: it may be forgotten. -/
lemma Recorded.forget (h : Recorded s operation) {identity : ProcessIdentity}
    (hprocess : operation.process = some identity) (hgone : SeenGone s₀ s identity.process)
    (state : LifecycleOperationState) (failure : Option LifecycleFailure) :
    Puttable s₀ s operation (operation.setState state none failure) where
  held := h.found
  precedes := .setState h.active state none failure
  epoch := rfl
  gone other hother _ := by
    rw [hprocess] at hother
    rwa [← Option.some.inj hother]

end Held

/-! ### Steady steps -/

/-- The records stay as they are, in memory and in the store, and no process is started. -/
structure Steady (s t : CallState Coordinator Event) : Prop where
  remembered : t.state.memory.retained.records = s.state.memory.retained.records
  stored : t.state.store.records = s.state.store.records
  log : ∃ more, t.events = s.events ++ more ∧ ∀ event ∈ more, event.Plain

section Steady

variable {s₀ s t u : CallState Coordinator Event} {operation : LifecycleOperation}
  {events : List Event} {identity : ProcessIdentity} {key : LifecycleRecordKey}

lemma Steady.refl (s : CallState Coordinator Event) : Steady s s :=
  ⟨rfl, rfl, [], (List.append_nil _).symm, List.forall_mem_nil _⟩

lemma Steady.trans (hst : Steady s t) (htu : Steady t u) : Steady s u := by
  obtain ⟨more, hmore, hquiet⟩ := hst.log
  obtain ⟨rest, hrest, hstill⟩ := htu.log
  refine ⟨htu.remembered.trans hst.remembered, htu.stored.trans hst.stored, more ++ rest, ?_,
    List.forall_mem_append.mpr ⟨hquiet, hstill⟩⟩
  rw [hrest, hmore, List.append_assoc]

/-- One exchange that starts nothing and writes no record. -/
lemma Steady.snoc {state : Coordinator} {event : Event}
    (hremembered : state.memory.retained.records = s.state.memory.retained.records)
    (hstored : state.store.records = s.state.store.records) (hevent : event.Plain) :
    Steady s ⟨state, s.events ++ [event]⟩ :=
  ⟨hremembered, hstored, [event], rfl, List.forall_mem_singleton.mpr hevent⟩

lemma Steady.asked (event : Event) (h : event.Asks) : Steady s ⟨s.state, s.events ++ [event]⟩ :=
  .snoc rfl rfl h.plain

lemma Held.steady (h : Held s operation) (hst : Steady s t) : Held t operation := by
  rw [Held, hst.remembered]
  exact h

lemma Recorded.steady (h : Recorded s operation) (hst : Steady s t) : Recorded t operation :=
  ⟨by rw [hst.remembered]; exact h.found, h.active⟩

lemma Steady.heard (hst : Steady s t) (h : Heard s₀ s events) : Heard s₀ t events := by
  obtain ⟨more, hmore, -⟩ := hst.log
  exact h.append hmore

lemma Named.append (h : Named s₀ s key identity) {more : List Event}
    (hmore : t.events = s.events ++ more) : Named s₀ t key identity := by
  refine h.imp id ?_
  rintro ⟨operation, hkey, hprocess, hheard⟩
  exact ⟨operation, hkey, hprocess, hheard.append hmore⟩

lemma Named.steady (h : Named s₀ s key identity) (hst : Steady s t) : Named s₀ t key identity := by
  obtain ⟨more, hmore, -⟩ := hst.log
  exact h.append hmore

lemma Unstarted.append (h : Unstarted s₀ s) {more : List Event}
    (hmore : t.events = s.events ++ more) (hquiet : ∀ event ∈ more, ¬ event.Starts) :
    Unstarted s₀ t := by
  obtain ⟨log, hlog, hbefore⟩ := h
  refine ⟨log ++ more, ?_, List.forall_mem_append.mpr ⟨hbefore, hquiet⟩⟩
  rw [hmore, hlog, List.append_assoc]

lemma Unstarted.wrote (h : Unstarted s₀ s) (state : Coordinator) (w : StoreWrite)
    (outcome : StoreOutcome) : Unstarted s₀ ⟨state, s.events ++ [.wrote w outcome]⟩ :=
  h.append rfl (List.forall_mem_singleton.mpr not_false)

lemma Unstarted.steady (h : Unstarted s₀ s) (hst : Steady s t) : Unstarted s₀ t := by
  obtain ⟨more, hmore, hquiet⟩ := hst.log
  exact h.append hmore fun event hevent => (hquiet event hevent).not_starts

end Steady

/-! ### Durable steps -/

section Durable

variable {env : Environment} {α : Type} {s₀ s : CallState Coordinator Event}
  {Q : α → CallState Coordinator Event → Prop} {operation old : LifecycleOperation}

/-- A read of memory, and what follows it. -/
lemma walks_memory_bind {K : CallState Coordinator Event → Prop}
    {f : ProcessLifecycle → LifecycleM α} (h : Walks surviving K (f s.state.memory) s Q) :
    Walks surviving K (memory >>= f) s Q := by
  unfold Walks
  rw [after_bind, memory, after_map, after_getState]
  exact h

/-- An exchange that asks a port. -/
lemma walks_asks {β : Type} {answer : List Event → Coordinator → β} {event : Coordinator → β → Event}
    (hs : Path env s₀ s) (hasks : ∀ c b, (event c b).Asks) :
    WalksFrom env s₀ (interact env.crashes answer event) s fun b t =>
      t = ⟨s.state, s.events ++ [event s.state b]⟩ :=
  .interact hs fun _ _ => ⟨hs.move (.asked s _ (hasks _ _)), rfl⟩

/-- A mutation of the store, and what memory keeps of it when it succeeded. -/
lemma walks_persist_of {K : CallState Coordinator Event → Prop} {w : StoreWrite}
    {f : ProcessLifecycle → ProcessLifecycle} (hs : K s)
    (hfailed : ∀ outcome error, outcome = env.write s.events s.state.store w →
      outcome.answer = .error error → K ⟨s.state.wrote w outcome, s.events ++ [.wrote w outcome]⟩)
    (hdone : K ⟨s.state.persisted w f, s.events ++ [.wrote w .done]⟩) :
    Walks surviving K (do write env w; remember f) s fun _ t =>
      t = ⟨s.state.persisted w f, s.events ++ [.wrote w .done]⟩ := by
  unfold Walks
  rw [after_bind, write, after_bind]
  refine after_interact ⟨s, hs, rfl⟩ ?_
  dsimp only
  rw [after_bind, after_modifyState]
  dsimp only
  cases houtcome : env.write s.events s.state.store w with
  | done => exact ⟨hdone, rfl⟩
  | refused error | lost error => exact hfailed _ error houtcome.symm rfl

lemma walks_persist {w : StoreWrite} {f : ProcessLifecycle → ProcessLifecycle}
    (hs : Path env s₀ s)
    (hdone : Path env s₀ ⟨s.state.persisted w f, s.events ++ [.wrote w .done]⟩) :
    WalksFrom env s₀ (do write env w; remember f) s fun _ t =>
      t = ⟨s.state.persisted w f, s.events ++ [.wrote w .done]⟩ :=
  walks_persist_of hs (fun outcome error hasked houtcome =>
    hs.move (.failed s w outcome hasked error houtcome)) hdone

/-- A mutation whose failure is handled: it took effect in memory as well, or only the store was
asked, or the process crashed before it. -/
lemma after_attempt_persist {w : StoreWrite} {f : ProcessLifecycle → ProcessLifecycle}
    {Q : Except (Halt LifecycleError) (Except LifecycleError Unit) →
      CallState Coordinator Event → Prop}
    (hcrashed : Q (.error .crashed) s)
    (hdone : Q (.ok (.ok ())) ⟨s.state.persisted w f, s.events ++ [.wrote w .done]⟩)
    (hfailed : ∀ outcome error, outcome = env.write s.events s.state.store w →
      outcome.answer = .error error → Q (.ok (.error (.store error)))
        ⟨s.state.wrote w outcome, s.events ++ [.wrote w outcome]⟩) :
    After (attempt (do write env w; remember f)) s Q := by
  refine after_attempt ?_
  rw [after_bind, write, after_bind]
  refine after_interact hcrashed ?_
  dsimp only
  rw [after_bind, after_modifyState]
  dsimp only
  cases houtcome : env.write s.events s.state.store w with
  | done => exact hdone
  | refused error | lost error => exact hfailed _ error houtcome.symm rfl

lemma persistUpdate_walks (hs : Path env s₀ s) (h : Puttable s₀ s old operation) :
    WalksFrom env s₀ (persistUpdate env operation) s fun _ t =>
      t = ⟨s.state.persisted (.update operation) fun lifecycle => lifecycle.putRecord operation,
        s.events ++ [.wrote (.update operation) .done]⟩ :=
  walks_persist hs (hs.move (.updated s old operation h))

lemma persistOwnership_walks (hs : Path env s₀ s) (row : LifecycleOwnership) :
    WalksFrom env s₀ (persistOwnership env row) s fun _ t => Steady s t := by
  refine (walks_persist hs (hs.move (.owned s row))).weaken ?_
  rintro _ t - rfl
  exact .snoc rfl rfl trivial

lemma reserveOwnership_walks (hs : Path env s₀ s) (operation : LifecycleOperation)
    (profileId : LaunchProfileId) :
    WalksFrom env s₀ (reserveOwnership env operation profileId) s fun _ t => Steady s t := by
  refine walks_memory_bind ?_
  split_ifs
  · exact persistOwnership_walks hs _
  · exact .pure hs (.refl s)

lemma setOwned_walks (hs : Path env s₀ s) (operation : LifecycleOperation)
    (profileId : LaunchProfileId) (identity : ProcessIdentity) :
    WalksFrom env s₀ (setOwned env operation profileId identity) s fun _ t => Steady s t := by
  refine walks_memory_bind ?_
  split_ifs
  · exact persistOwnership_walks hs _
  · exact .pure hs (.refl s)

lemma setOwnerProcess_walks (hs : Path env s₀ s) (operation : LifecycleOperation)
    (process : Option ProcessIdentity) :
    WalksFrom env s₀ (setOwnerProcessForOperation env operation process) s fun _ t => Steady s t := by
  refine walks_memory_bind ?_
  split_ifs
  · cases s.state.memory.retained.row operation.instanceId with
    | none => exact .pure hs (.refl s)
    | some current => exact persistOwnership_walks hs _
  · exact .pure hs (.refl s)

lemma clearOwned_walks (hs : Path env s₀ s) (instanceId : InstanceId) :
    WalksFrom env s₀ (clearOwned env instanceId) s fun _ t => Steady s t := by
  refine walks_memory_bind ?_
  cases hrow : s.state.memory.retained.row instanceId with
  | none =>
    exact ⟨hs.move (.unowned s instanceId hrow), rfl, rfl, [],
      (List.append_nil _).symm, List.forall_mem_nil _⟩
  | some row =>
    have hinstance : row.instanceId = instanceId :=
      s.state.memory.retained.ownership_keyed _ _ hrow
    subst hinstance
    refine (walks_persist hs (hs.move (.disowned s row hrow))).weaken ?_
    rintro _ t - rfl
    exact .snoc rfl rfl trivial

lemma clearOwnedFor_walks (hs : Path env s₀ s) (operation : LifecycleOperation) :
    WalksFrom env s₀ (clearOwnedFor env operation) s fun _ t => Steady s t := by
  refine walks_memory_bind ?_
  split_ifs
  · exact clearOwned_walks hs _
  · exact .pure hs (.refl s)

/-- A caller that passes has the current epoch. -/
lemma authenticate_walks (hs : Path env s₀ s) (instanceId : InstanceId) (proof : LeaseProof)
    (authorityEpoch : AuthorityEpoch) :
    WalksFrom env s₀ (authenticate env instanceId proof authorityEpoch) s fun _ t =>
      Steady s t ∧ t.state = s.state ∧
        s.state.memory.currentAuthorityEpoch instanceId = authorityEpoch := by
  refine walks_memory_bind (Walks.check_bind hs fun lease _ => ?_)
  refine (walks_asks hs ?_).bind ?_
  · exact fun _ _ => trivial
  rintro decision t ht rfl
  refine Walks.check_bind ht fun _ _ => Walks.check ht fun _ hepoch => ?_
  exact ⟨.asked _ trivial, rfl, not_not.mp (refuse_eq_ok.mp hepoch)⟩

end Durable

end Sts2Gateway.Lifecycle
