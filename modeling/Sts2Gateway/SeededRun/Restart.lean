/-
Runs and restarts of the seeded-run ledger.

* `Deployment`, `Ledger.Of`: what an owner keeps across restarts, and the valid
  ledgers it starts from that;
* `Deployment.run`, `run_of`: **every state of every run is a valid ledger**;
* `Ledger.Restorable`: every retained result is a start response;
* `restoreState_persistedState`: **a restorable ledger is restored**, and only
  results that were missing or merely accepted change;
* `restorable_of_restoreState`: no other ledger is.
-/
import Mathlib.Tactic
import Sts2Gateway.Library.CheckpointedRun
import Sts2Gateway.SeededRun.Calls

namespace Sts2Gateway.SeededRun

open Procedure Exchange OrderedMap CheckpointedRun Text

/-! ### Deployments -/

/-- The identity and capacity that an owner keeps across restarts. -/
structure Deployment where
  config : LedgerConfig
  instanceId : String
  sessionId : String
  leaseId : String
  leaseEpoch : ℕ
  capacityPositive : 0 < config.operationCapacity
  instanceChecked : safeIdentity instanceId = true
  sessionChecked : safeIdentity sessionId = true
  leaseChecked : safeIdentity leaseId = true
  epochBound : leaseEpoch ≤ maxGeneration

/-- The generation that a fresh binding starts from. -/
abbrev Construction := { generation : ℕ // generation ≤ maxGeneration }

def Deployment.binding (d : Deployment) (generation : ℕ) : Binding where
  instanceId := d.instanceId
  sessionId := d.sessionId
  leaseId := d.leaseId
  leaseEpoch := d.leaseEpoch
  generation := generation

/-- A ledger as its constructor returns it. -/
def Deployment.fresh (d : Deployment) (c : Construction) : Ledger where
  config := d.config
  binding := d.binding c.1
  operations := ∅

lemma binding_new_eq_ok {instanceId sessionId leaseId : String} {leaseEpoch generation : ℕ}
    {b : Binding} :
    Binding.new instanceId sessionId leaseId leaseEpoch generation = .ok b ↔
      (safeIdentity instanceId = true ∧ safeIdentity sessionId = true ∧
        safeIdentity leaseId = true) ∧ (leaseEpoch ≤ maxGeneration ∧ generation ≤ maxGeneration) ∧
      { instanceId, sessionId, leaseId, leaseEpoch, generation : Binding } = b := by
  simp only [Binding.new, except_bind_eq_ok, list_forM_eq_ok, refuse_eq_ok, not_or, not_lt,
    not_not, List.mem_cons, List.not_mem_nil, or_false, forall_eq_or_imp, forall_eq, pure,
    Except.pure, Except.ok.injEq, exists_const]

/-- The constructors give nothing but fresh ledgers. -/
lemma new_eq_fresh {config : LedgerConfig} {instanceId sessionId leaseId : String}
    {leaseEpoch generation : ℕ} {binding : Binding} {ledger : Ledger}
    (hbinding : Binding.new instanceId sessionId leaseId leaseEpoch generation = .ok binding)
    (h : Ledger.new config binding = .ok ledger) :
    ∃ (d : Deployment) (c : Construction), d.config = config ∧ d.binding c.1 = binding ∧
      ledger = d.fresh c := by
  obtain ⟨⟨hinstance, hsession, hlease⟩, ⟨hepoch, hgen⟩, rfl⟩ := binding_new_eq_ok.mp hbinding
  obtain ⟨_, hcap, hl⟩ := except_bind_eq_ok.mp h
  rw [refuse_eq_ok] at hcap
  cases hl
  exact ⟨⟨config, instanceId, sessionId, leaseId, leaseEpoch, Nat.pos_of_ne_zero hcap, hinstance,
    hsession, hlease, hepoch⟩, ⟨generation, hgen⟩, rfl, rfl, rfl⟩

/-- What a row becomes when it is restored: in-flight and merely accepted work is
uncertain. -/
def Operation.restarted (operation : Operation) : Operation :=
  match operation.result with
  | none =>
    { operation with result := (unknown operation.request "restart_uncertain").toOption }
  | some result =>
    if result.status = some .accepted then
      { operation with result := (unknown operation.request "restart_uncertain").toOption }
    else operation

/-- Every retained result is a start response. -/
def Ledger.Restorable (ledger : Ledger) : Prop :=
  ∀ (id : String) (operation : Operation), ledger.operations[id]? = some operation →
    ∀ r, operation.result = some r → r.kind = .startResponse

/-- What a restart keeps and what it may change. -/
structure RestartEquivalent (before after : Ledger) : Prop where
  config : after.config = before.config
  binding : after.binding = before.binding
  ids : ∀ id : String, after.operations[id]? = none ↔ before.operations[id]? = none
  request : ∀ (id : String) (b a : Operation),
    before.operations[id]? = some b → after.operations[id]? = some a →
    a.request = b.request ∧ a.requestDigest = b.requestDigest
  kept : ∀ (id : String) (b a : Operation) r,
    before.operations[id]? = some b → after.operations[id]? = some a →
    b.result = some r → r.status ≠ some .accepted → a.result = some r
  uncertain : ∀ (id : String) (b a : Operation),
    before.operations[id]? = some b → after.operations[id]? = some a →
    (∀ r ∈ b.result, r.status = some .accepted) →
    ∃ r, a.result = some r ∧ r.status = some .unknown ∧ r.errorCode = some "restart_uncertain"

/-- The ledger that restoring a state leaves. -/
def Deployment.restarted (d : Deployment) (ledger : Ledger) : Ledger where
  config := d.config
  binding := d.binding ledger.binding.generation
  operations := ledger.operations.map fun _ operation => operation.restarted

lemma restarted_row (d : Deployment) (ledger : Ledger) (id : String) :
    (d.restarted ledger).operations[id]? =
      (ledger.operations[id]?).map fun operation => operation.restarted := by
  simp [Deployment.restarted, Std.ExtTreeMap.getElem?_map]

/-- A restart keeps the request and its duplicate-check data. -/
lemma restarted_request (operation : Operation) :
    operation.restarted.request = operation.request ∧
      operation.restarted.requestDigest = operation.requestDigest := by
  unfold Operation.restarted
  split
  · exact ⟨rfl, rfl⟩
  · split_ifs <;> exact ⟨rfl, rfl⟩

/-- Any result that is not merely accepted is kept. -/
lemma restarted_of_resolved {operation : Operation} {r : Message}
    (hr : operation.result = some r) (hne : r.status ≠ some .accepted) :
    operation.restarted = operation := by
  rw [Operation.restarted, hr]
  simp only [hne, if_false]

lemma restartUncertain_checked : (validateIdentity "restart_uncertain").isOk = true := by
  decide +kernel

variable [Sha256]

/-! ### Valid ledgers of a deployment -/

structure Ledger.Of (d : Deployment) (ledger : Ledger) : Prop where
  valid : ledger.Valid
  config : ledger.config = d.config
  identity : ledger.binding = d.binding ledger.binding.generation

lemma fresh_of (d : Deployment) (c : Construction) : (d.fresh c).Of d where
  valid :=
    { generation := c.2
      capacity := by simp [Deployment.fresh]
      rows := by simp [Deployment.fresh] }
  config := rfl
  identity := rfl

/-- A row stays retained when the binding's generation advances. -/
lemma Retained.advance {binding : Binding} {id : String} {operation : Operation}
    (h : Retained binding id operation) {generation : ℕ} (hle : binding.generation ≤ generation) :
    Retained { binding with generation } id operation :=
  ⟨⟨h.admitted.valid, h.admitted.kind, h.admitted.binding⟩, h.id, h.data,
    fun r hr => (h.result r hr).mono hle⟩

section Updates

variable {d : Deployment} {ledger : Ledger} (h : ledger.Of d)
include h

lemma setGeneration_of {generation : ℕ} (hle : ledger.binding.generation ≤ generation)
    (hbound : generation ≤ maxGeneration) : (ledger.setGeneration generation).Of d where
  valid :=
    { generation := hbound
      capacity := h.valid.capacity
      rows := fun id operation hrow => (h.valid.rows id operation hrow).advance hle }
  config := h.config
  identity := by
    rw [Ledger.setGeneration, h.identity]
    rfl

/-- A new row under a fresh id. -/
lemma insert_of {request : Message} {result : Option Message} (hfresh : Fresh ledger request)
    (hresult : ∀ r, result = some r → StoredResult ledger.binding.generation request r) :
    ({ ledger with
        operations := ledger.operations.insert request.operationId (.retained request result) } :
      Ledger).Of d where
  valid :=
    { generation := h.valid.generation
      capacity := by
        rw [size_insert_of_none hfresh.absent]
        exact hfresh.room
      rows := by
        intro id operation hrow
        rw [getElem?_insert_if] at hrow
        split_ifs at hrow with heq
        · subst heq
          cases hrow
          exact ⟨hfresh.admitted, rfl, rfl, hresult⟩
        · exact h.valid.rows id operation hrow }
  config := h.config
  identity := h.identity

/-- A new result for a row that is already there. -/
lemma setResult_of {id : String} {operation : Operation} {result : Message}
    (hop : ledger.operations[id]? = some operation)
    (hstored : StoredResult ledger.binding.generation operation.request result) :
    (ledger.setResult id result).Of d where
  valid :=
    { generation := h.valid.generation
      capacity := by
        rw [Ledger.setResult, Std.ExtTreeMap.size_modify]
        exact h.valid.capacity
      rows := by
        intro other row hother
        rw [Ledger.setResult, getElem?_modify_if] at hother
        split_ifs at hother with heq
        · subst heq
          rw [hop] at hother
          cases hother
          have hret := h.valid.rows _ operation hop
          refine ⟨hret.admitted, hret.id, ?_, ?_⟩
          · rw [hret.data]
            rfl
          · rintro _ ⟨⟩
            exact hstored
        · exact h.valid.rows other row hother }
  config := h.config
  identity := h.identity

end Updates

/-- A start stays fresh when the binding's generation advances. -/
lemma Fresh.setGeneration {ledger : Ledger} {request : Message} (h : Fresh ledger request)
    (generation : ℕ) : Fresh (ledger.setGeneration generation) request :=
  ⟨⟨h.admitted.valid, h.admitted.kind, h.admitted.binding⟩, h.absent, h.room⟩

/-! ### Runs -/

/-- The ledger state that an exchange hands to the checkpoint. -/
def presented : Event → Option (Ledger × Bool)
  | .checkpoint ledger ok => some (ledger, ok)
  | _ => none

/-- The ledger of a deployment as a service. -/
def Deployment.service (d : Deployment) :
    Service Ledger Environment Call (Except LedgerError Message) Event Construction where
  perform := Ledger.perform
  presented := presented
  fresh := d.fresh
  restored := fun c found => ((d.fresh c).restoreState found.persistedState).toOption

abbrev System := CheckpointedRun.System Ledger Call (Except LedgerError Message) Event

/-- A call, or a crash in or between calls with a restart. -/
abbrev Step := CheckpointedRun.Step Environment Call Construction

def Deployment.run (d : Deployment) (c : Construction) (steps : List Step) : System :=
  d.service.run (d.service.start c) steps

lemma mem_handed {d : Deployment} {events : List Event} {l : Ledger} :
    l ∈ d.service.handed events ↔ ∃ ok, Event.checkpoint l ok ∈ events := by
  simp only [Service.handed, List.mem_filterMap, Option.map_eq_some_iff]
  constructor
  · rintro ⟨event, hevent, ⟨presented, ok⟩, hp, rfl⟩
    cases event <;> cases hp
    exact ⟨ok, hevent⟩
  · rintro ⟨ok, hevent⟩
    exact ⟨_, hevent, (l, ok), rfl, rfl⟩

/-- The states of an outcome: the one it leaves and those it presents. -/
lemma mem_reached {d : Deployment} {o : Outcome} {l : Ledger} :
    l ∈ d.service.reached o ↔ l = o.state ∨ ∃ ok, Event.checkpoint l ok ∈ o.events := by
  rw [Service.reached, List.mem_cons, mem_handed]

/-- **One call keeps every state valid**, those it presents included. -/
theorem performed_of {d : Deployment} {ledger : Ledger} (h : ledger.Of d) {call : Call}
    {o : Outcome} (hp : Performed ledger call o) : ∀ l ∈ d.service.reached o, l.Of d := by
  intro l hl
  rw [mem_reached] at hl
  have hrequest : ∀ {request}, Fresh ledger request → request.generation ≤ maxGeneration :=
    fun hfresh => (validate_eq_ok.mp hfresh.admitted.valid).generation
  -- a start that is about to be forwarded
  have hbegun : ∀ {request}, Fresh ledger request →
      ledger.binding.generation ≤ request.generation →
      ((ledger.setGeneration request.generation).begin request).Of d := fun hfresh hle =>
    insert_of (setGeneration_of h hle (hrequest hfresh)) (hfresh.setGeneration _) (by simp)
  cases hp with
  | refused | replayed =>
    simp only [List.not_mem_nil, exists_false, or_false] at hl
    exact hl ▸ h
  | unreconciled request events _ _ hevents =>
    have : l = ledger := by
      rcases hevents with rfl | ⟨receipt, answer, rfl⟩ <;> simpa using hl
    exact this ▸ h
  | stale ok _ hfresh hstored _ =>
    simp only [List.mem_cons, List.not_mem_nil, or_false, Event.checkpoint.injEq,
      exists_and_left, exists_eq, and_true, or_self] at hl
    rw [hl]
    refine insert_of h hfresh ?_
    rintro _ ⟨⟩
    exact hstored
  | undispatched _ hfresh hle =>
    simp only [List.mem_cons, List.not_mem_nil, or_false, Event.checkpoint.injEq,
      exists_and_left, exists_eq, and_true] at hl
    rcases hl with rfl | rfl
    · exact setGeneration_of h hle (hrequest hfresh)
    · exact hbegun hfresh hle
  | stranded _ hfresh hle =>
    simp only [List.mem_cons, List.not_mem_nil, or_false, Event.checkpoint.injEq, reduceCtorEq,
      exists_and_left, exists_eq, and_true, or_self] at hl
    rw [hl]
    exact hbegun hfresh hle
  | dispatched answer generation ok _ hfresh hle hadvanced hbound hstored _ =>
    simp only [List.mem_cons, List.not_mem_nil, or_false, Event.checkpoint.injEq, reduceCtorEq,
      false_or, exists_or, exists_and_left, exists_eq, and_true] at hl
    have hsettled := insert_of (setGeneration_of h (hle.trans hadvanced) hbound)
      (hfresh.setGeneration generation) (fun r hr => Option.some.inj hr ▸ hstored)
    rcases hl with rfl | rfl | rfl
    · exact hsettled
    · exact hbegun hfresh hle
    · exact hsettled
  | reconciled request lookup generation hrow _ _ hle hbound hstored =>
    simp only [List.mem_cons, List.not_mem_nil, or_false, reduceCtorEq, exists_false] at hl
    rw [hl]
    exact setResult_of (setGeneration_of h hle hbound) hrow hstored

/-! ### Restoring a state -/

/-- In-flight and merely accepted work becomes `unknown`. -/
lemma restarted_of_unresolved {binding : Binding} {id : String} {operation : Operation}
    (hret : Retained binding id operation)
    (hopen : ∀ r ∈ operation.result, r.status = some .accepted) :
    ∃ r, unknown operation.request "restart_uncertain" = .ok r ∧
      operation.restarted = .retained operation.request (some r) ∧
      (∀ generation, StoredResult generation operation.request r) ∧ r.kind = .startResponse ∧
      r.status = some .unknown ∧ r.errorCode = some "restart_uncertain" := by
  obtain ⟨r, hr, hstored, hkind, hst, herr⟩ :=
    ownResult_spec hret.admitted (.inr rfl) restartUncertain_checked
  have hr' : unknown operation.request "restart_uncertain" = .ok r := hr
  have hdigest : operation.requestDigest = operation.request.canonicalRequest := by
    rw [hret.data]
    rfl
  refine ⟨r, hr', ?_, hstored, hkind, hst, herr⟩
  rw [Operation.restarted]
  cases hresult : operation.result with
  | none => simp only [hr', Except.toOption, Operation.retained, hdigest]
  | some q =>
    simp only [hopen q hresult, if_true, hr', Except.toOption, Operation.retained, hdigest]

/-- **A retained row is restored**, at any point of the fold where its id is new. -/
lemma restoreOperation_of_retained {ledger fresh : Ledger} {id : String} {operation : Operation}
    (hret : Retained ledger.binding id operation)
    (hbinding : fresh.binding.accepts operation.request = true)
    (hkind : ∀ r, operation.result = some r → r.kind = .startResponse)
    {restored : Operations} (hnew : restored[id]? = none) :
    fresh.restoreOperation ledger.binding restored
        { request := operation.request, result := operation.result } =
      .ok (restored.insert id operation.restarted) := by
  have h1 : operation.request.validate.mapError (fun _ => LedgerError.invalidRequest) = .ok () :=
    mapError_eq_ok.mpr hret.admitted.valid
  have h2 : refuse (operation.request.kind ≠ .startRequest ∨
      ¬ fresh.binding.accepts operation.request ∨ operation.request.operationId ∈ restored)
      LedgerError.invalidRequest = .ok () := by
    rw [refuse_eq_ok, hret.id, mem_iff_getElem?_ne_none]
    simp [hret.admitted.kind, hbinding, hnew]
  rw [Ledger.restoreOperation]
  simp only [h1, h2, bind, Except.bind]
  cases hresult : operation.result with
  | none =>
    obtain ⟨r, hr, hrestarted, -⟩ := restarted_of_unresolved hret (by simp [hresult])
    rw [hrestarted, ← hret.id]
    simp only [hr, pure, Except.pure]
  | some result =>
    have hstored := hret.result result hresult
    have h3 : refuse (result.kind ≠ .startResponse ∨ result.observation.any (fun observation =>
        ledger.binding.generation < observation.generation)) LedgerError.invalidResponse =
          .ok () := by
      rw [refuse_eq_ok]
      rintro (hno | hno)
      · exact hno (hkind result hresult)
      · simp only [Option.any_eq_true, decide_eq_true_eq] at hno
        obtain ⟨o, ho, hlt⟩ := hno
        exact absurd (hstored.observed o ho) (not_le.mpr hlt)
    simp only [hstored.accepted, h3]
    by_cases haccepted : result.status = some .accepted
    · obtain ⟨r, hr, hrestarted, -⟩ :=
        restarted_of_unresolved hret (by simp [hresult, haccepted])
      rw [hrestarted, ← hret.id]
      simp only [haccepted, if_true, hr, pure, Except.pure]
    · have hkept : operation.restarted = .retained operation.request (some result) := by
        rw [restarted_of_resolved hresult haccepted, ← hresult]
        exact hret.data
      rw [hkept, ← hret.id]
      simp only [haccepted, if_false, pure, Except.pure]

/-- **Restoring a restorable ledger's persisted state succeeds.** -/
theorem restoreState_persistedState {d : Deployment} {ledger : Ledger} (h : ledger.Of d)
    (hkinds : ledger.Restorable) {c : Construction} (hle : c.1 ≤ ledger.binding.generation) :
    (d.fresh c).restoreState ledger.persistedState = .ok (d.restarted ledger) := by
  have hnew : Binding.new ledger.persistedState.binding.instanceId
      ledger.persistedState.binding.sessionId ledger.persistedState.binding.leaseId
      ledger.persistedState.binding.leaseEpoch ledger.persistedState.binding.generation =
        .ok ledger.binding := by
    have hchecked : Binding.new d.instanceId d.sessionId d.leaseId d.leaseEpoch
        ledger.binding.generation = .ok (d.binding ledger.binding.generation) :=
      binding_new_eq_ok.mpr ⟨⟨d.instanceChecked, d.sessionChecked, d.leaseChecked⟩,
        ⟨d.epochBound, h.valid.generation⟩, rfl⟩
    rw [Ledger.persistedState, h.identity]
    exact hchecked
  have hlength : ledger.persistedState.operations.length = ledger.operations.size := by
    simp [Ledger.persistedState]
  have hguard : ¬ (ledger.persistedState.binding.instanceId ≠ (d.fresh c).binding.instanceId ∨
      ledger.persistedState.binding.sessionId ≠ (d.fresh c).binding.sessionId ∨
      ledger.persistedState.binding.leaseId ≠ (d.fresh c).binding.leaseId ∨
      ledger.persistedState.binding.leaseEpoch ≠ (d.fresh c).binding.leaseEpoch ∨
      ledger.binding.generation < (d.fresh c).binding.generation ∨
      (d.fresh c).config.operationCapacity < ledger.persistedState.operations.length) := by
    have hcapacity := h.valid.capacity
    rw [h.config] at hcapacity
    rw [hlength, Ledger.persistedState, h.identity]
    simp only [Deployment.fresh, Deployment.binding, ne_eq, not_true, false_or, not_or, not_lt]
    exact ⟨hle, hcapacity⟩
  have haccepts : ∀ request, ledger.binding.accepts request = (d.fresh c).binding.accepts request :=
    fun request => by rw [h.identity]; rfl
  have hops : ledger.persistedState.operations.foldlM
      ((d.fresh c).restoreOperation ledger.binding) ∅ =
        .ok (ledger.operations.map fun _ operation => operation.restarted) :=
    foldlM_values _ _ fun id operation hrow restored hnew =>
      restoreOperation_of_retained (h.valid.rows id operation hrow)
        (haccepts _ ▸ (h.valid.rows id operation hrow).admitted.binding)
        (hkinds id operation hrow) hnew
  have hops' : ledger.persistedState.operations.foldlM
      ((d.fresh c).restoreOperation ledger.persistedState.binding) ∅ =
        .ok (ledger.operations.map fun _ operation => operation.restarted) := hops
  simp only [Ledger.restoreState, hnew, Except.mapError, refuse, if_neg hguard, hops', bind,
    Except.bind, pure, Except.pure]
  rfl

/-- A fresh ledger ahead of a persisted state refuses it. -/
lemma generation_of_restoreState {d : Deployment} {ledger : Ledger} {c : Construction}
    {restored : Ledger}
    (hrestored : (d.fresh c).restoreState ledger.persistedState = .ok restored) :
    c.1 ≤ ledger.binding.generation := by
  simp only [Ledger.restoreState, except_bind_eq_ok, mapError_eq_ok, refuse_eq_ok, not_or] at hrestored
  obtain ⟨validated, hnew, -, ⟨-, -, -, -, hle, -⟩, -⟩ := hrestored
  obtain ⟨-, -, rfl⟩ := binding_new_eq_ok.mp hnew
  exact not_lt.mp hle

/-- **A ledger that is restored was restorable.** -/
theorem restorable_of_restoreState {d : Deployment} {ledger : Ledger}
    {c : Construction} {restored : Ledger}
    (hrestored : (d.fresh c).restoreState ledger.persistedState = .ok restored) :
    ledger.Restorable := by
  intro id operation hrow r hr
  simp only [Ledger.restoreState, except_bind_eq_ok] at hrestored
  obtain ⟨-, -, -, -, operations, hfold, -⟩ := hrestored
  -- the fold went through the row of this operation
  have hitem : ({ request := operation.request, result := operation.result } :
      PersistedOperation) ∈ ledger.persistedState.operations := by
    refine List.mem_map.mpr ⟨(id, operation), ?_, rfl⟩
    exact Std.ExtTreeMap.mem_toList_iff_getElem?_eq_some.mpr hrow
  obtain ⟨before, after, hstep⟩ := foldlM_eq_ok_mem hfold hitem
  simp only [Ledger.restoreOperation, except_bind_eq_ok, hr] at hstep
  obtain ⟨_, _, _, _, _, _, _, hkind, _⟩ := hstep
  rw [refuse_eq_ok, not_or, not_not] at hkind
  exact hkind.1

/-- A restart keeps the binding. -/
lemma restarted_binding {d : Deployment} {ledger : Ledger} (h : ledger.Of d) :
    (d.restarted ledger).binding = ledger.binding :=
  h.identity.symm

/-- A restarted ledger is a ledger of the deployment. -/
lemma restarted_of {d : Deployment} {ledger : Ledger} (h : ledger.Of d) :
    (d.restarted ledger).Of d := by
  refine ⟨⟨h.valid.generation, ?_, ?_⟩, rfl, rfl⟩
  · have hcapacity := h.valid.capacity
    rw [h.config] at hcapacity
    exact (Std.ExtTreeMap.size_map).trans_le hcapacity
  · intro id operation hrow
    rw [restarted_row, Option.map_eq_some_iff] at hrow
    obtain ⟨before, hbefore, rfl⟩ := hrow
    have hret := h.valid.rows id before hbefore
    rw [restarted_binding h]
    by_cases hopen : ∀ r ∈ before.result, r.status = some .accepted
    · obtain ⟨r, -, hrestarted, hstored, -⟩ := restarted_of_unresolved hret hopen
      rw [hrestarted]
      refine ⟨hret.admitted, hret.id, rfl, ?_⟩
      rintro _ ⟨⟩
      exact hstored _
    · push Not at hopen
      obtain ⟨r, hr, hne⟩ := hopen
      rw [restarted_of_resolved hr hne]
      exact hret

/-- **What a restart may change.** -/
theorem restarted_equivalent {d : Deployment} {ledger : Ledger} (h : ledger.Of d) :
    RestartEquivalent ledger (d.restarted ledger) := by
  have hrow : ∀ (id : String) (b a : Operation), ledger.operations[id]? = some b →
      (d.restarted ledger).operations[id]? = some a → a = b.restarted := by
    intro id b a hb ha
    rw [restarted_row, hb] at ha
    exact (Option.some.inj ha).symm
  refine ⟨h.config.symm, restarted_binding h, ?_, ?_, ?_, ?_⟩
  · intro id
    rw [restarted_row, Option.map_eq_none_iff]
  · intro id b a hb ha
    rw [hrow id b a hb ha]
    exact restarted_request b
  · intro id b a r hb ha hr hne
    rw [hrow id b a hb ha, restarted_of_resolved hr hne, hr]
  · intro id b a hb ha hopen
    obtain ⟨r, -, hrestarted, -, -, hst, herr⟩ :=
      restarted_of_unresolved (h.valid.rows id b hb) hopen
    rw [hrow id b a hb ha, hrestarted]
    exact ⟨r, rfl, hst, herr⟩

/-! ### Restart equivalence -/

/-- A restart that succeeds leaves the restarted ledger. -/
lemma restored_eq {d : Deployment} {c : Construction} {ledger restored : Ledger}
    (h : ledger.Of d) (hrestored : d.service.restored c ledger = some restored) :
    restored = d.restarted ledger := by
  cases hread : (d.fresh c).restoreState ledger.persistedState with
  | error e => simp [Deployment.service, hread, Except.toOption] at hrestored
  | ok after =>
    -- what was read back was restorable
    have hkinds := restorable_of_restoreState hread
    have hle : c.1 ≤ ledger.binding.generation := generation_of_restoreState hread
    have hafter := restoreState_persistedState h hkinds hle
    rw [hread, Except.ok.injEq] at hafter
    simp only [Deployment.service, hread, Except.toOption, Option.some.injEq] at hrestored
    rw [← hrestored, hafter]

/-- **Every step keeps every state valid.** -/
theorem of_invariant (d : Deployment) : d.service.Invariant (Ledger.Of d) where
  fresh := fresh_of d
  call := fun _ env call h => performed_of h (perform_cases h.valid env call)
  restored := by
    intro c ledger restored h hrestored
    rw [restored_eq h hrestored]
    exact restarted_of h

/-- **Every state of every run is a valid ledger of its deployment.** -/
theorem run_of (d : Deployment) (c : Construction) (steps : List Step) :
    ∀ l ∈ (d.run c steps).states, l.Of d :=
  (of_invariant d).run c steps

end Sts2Gateway.SeededRun
