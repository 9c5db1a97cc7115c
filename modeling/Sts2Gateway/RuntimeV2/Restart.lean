/-
Restarting the Runtime-v2 ledger from its persisted state.

* `Deployment`, `Deployment.fresh`: what an owner starts ledgers from; the
  public constructors give nothing else (`new_eq_fresh`,
  `newWithRecoveryContract_eq_fresh`);
* `Ledger.Of`: a valid ledger of a deployment;
* `RestartEquivalent`: what a restart may change;
* `restoreState_persistedState`: **restoring a valid ledger's state succeeds**
  and changes only results that were missing or merely accepted;
* `restarted_restarted`: a second restart changes nothing.
-/
import Mathlib.Tactic
import Sts2Gateway.Library.OrderedMap
import Sts2Gateway.RuntimeV2.Invariant

namespace Sts2Gateway.RuntimeV2

open Procedure Exchange OrderedMap

/-! ### Deployments -/

/-- The identity and capacity that an owner keeps across restarts. -/
structure Deployment where
  config : LedgerConfig
  identity : BindingIdentity
  capacityPositive : 0 < config.operationCapacity

/-- An observation that a binding constructor accepts. -/
abbrev CheckedObservation := { o : Observation // o.validate = .ok () }

/-- What an owner constructs a ledger of a deployment with. -/
structure Construction where
  recovery : Option RecoveryContract
  observation : CheckedObservation

/-- A ledger as its constructor returns it. -/
def Deployment.fresh (d : Deployment) (c : Construction) : Ledger where
  config := d.config
  binding := { d.identity with observation := c.observation.1 }
  recovery := c.recovery
  operations := ∅

/-- `RuntimeV2Ledger::new` on a constructed binding gives a fresh ledger. -/
lemma new_eq_fresh {config : LedgerConfig} {binding : Binding} {ledger : Ledger}
    (hbinding : binding.observation.validate = .ok ())
    (h : Ledger.new config binding = .ok ledger) :
    ∃ d : Deployment, d.config = config ∧ d.identity = binding.toBindingIdentity ∧
      ledger = d.fresh ⟨none, ⟨binding.observation, hbinding⟩⟩ := by
  obtain ⟨_, hcap, hl⟩ := except_bind_eq_ok.mp h
  rw [refuse_eq_ok] at hcap
  cases hl
  exact ⟨⟨config, binding.toBindingIdentity, Nat.pos_of_ne_zero hcap⟩, rfl, rfl, rfl⟩

/-- So does the workflow constructor. -/
lemma newWithRecoveryContract_eq_fresh {config : LedgerConfig} {contract : RecoveryContract}
    {observation : Observation} {ledger : Ledger}
    (h : Ledger.newWithRecoveryContract config contract observation = .ok ledger) :
    ∃ (d : Deployment) (o : CheckedObservation), d.config = config ∧
      d.identity.authority = some contract.authority ∧ ledger = d.fresh ⟨some contract, o⟩ := by
  obtain ⟨binding, hb, hnew⟩ := except_bind_eq_ok.mp h
  rw [mapError_eq_ok] at hb
  have hobs := Binding.observation_of_withAuthority hb
  obtain ⟨_, hcap, hl⟩ := except_bind_eq_ok.mp hnew
  rw [refuse_eq_ok] at hcap
  cases hl
  refine ⟨⟨config, binding.toBindingIdentity, Nat.pos_of_ne_zero hcap⟩, ⟨_, hobs⟩, rfl, ?_, rfl⟩
  obtain ⟨_, -, hbinding⟩ := except_bind_eq_ok.mp hb
  cases hbinding
  rfl

/-- A valid ledger of a deployment. -/
structure Ledger.Of (d : Deployment) (ledger : Ledger) : Prop where
  valid : ledger.Valid
  config : ledger.config = d.config
  identity : ledger.binding.toBindingIdentity = d.identity

lemma fresh_of (d : Deployment) (c : Construction) : (d.fresh c).Of d where
  valid :=
    { observation := c.observation.2
      capacity := by simp [Deployment.fresh]
      rows := by simp [Deployment.fresh] }
  config := rfl
  identity := rfl

/-! ### One restored row -/

/-- The row that a restart makes of a row: in-flight and merely accepted work
becomes `unknown`, under the identity of the restarted ledger. -/
def Operation.restarted (ledger : Ledger) (operation : Operation) : Operation :=
  match operation.result with
  | none =>
    { operation with result := (ledger.restartUncertainResponse operation.request).toOption }
  | some result =>
    if result.status = some .accepted then
      { operation with result := (ledger.restartUncertainResponse operation.request).toOption }
    else operation

/-- The ledger's own results depend on its identity only. -/
lemma unknownResponse_congr {a b : Ledger}
    (h : a.binding.toBindingIdentity = b.binding.toBindingIdentity) (request : Message)
    (code : String) : a.unknownResponse request code = b.unknownResponse request code := by
  unfold Ledger.unknownResponse Ledger.resultResponse
  rw [h]

lemma restartUncertain_checked :
    (validateIdentity "sts2.runtime/restart_uncertain").isOk = true := by
  decide +kernel

/-- A stored result passes the restart's own checks. -/
lemma StoredResult.restorable {observation : Observation} {request result : Message}
    (h : StoredResult observation request result) :
    ¬ (¬ responseMatchesRequest request result ∨ ¬ result.validate.isOk ∨
      result.kind ≠ .actionResponse ∨
      result.observation.any (fun o => observation.generation < o.generation) ∨
      (result.status = some .settled ∧ result.generation ≤ request.generation) ∨
      (result.status = some .accepted ∧ result.generation ≠ request.generation)) := by
  have hvalid := isOk_eq_true.mpr (validate_eq_ok.mpr h.checked)
  rintro (hno | hno | hno | hno | ⟨hst, hno⟩ | ⟨hst, hno⟩)
  · exact hno h.matches_request
  · exact hno hvalid
  · exact hno h.kind
  · simp only [Option.any_eq_true, decide_eq_true_eq] at hno
    obtain ⟨o, ho, hlt⟩ := hno
    exact absurd (h.observed o ho) (not_le.mpr hlt)
  · exact absurd (h.settled hst) (not_lt.mpr hno)
  · exact hno (h.accepted hst)

/-- A restart keeps the request and its duplicate-check data. -/
lemma restarted_request (fresh : Ledger) (operation : Operation) :
    (operation.restarted fresh).request = operation.request ∧
      (operation.restarted fresh).requestDigest = operation.requestDigest ∧
      (operation.restarted fresh).canonicalRequest = operation.canonicalRequest := by
  unfold Operation.restarted
  split
  · exact ⟨rfl, rfl, rfl⟩
  · split_ifs <;> exact ⟨rfl, rfl, rfl⟩

/-- In-flight and merely accepted work becomes `unknown`. -/
lemma restarted_of_unresolved {binding : Binding} {fresh : Ledger} {key : OperationKey}
    {operation : Operation} (hret : Retained binding key operation)
    (hid : binding.toBindingIdentity = fresh.binding.toBindingIdentity)
    (hopen : ∀ r ∈ operation.result, r.status = some .accepted) :
    ∃ r, fresh.restartUncertainResponse operation.request = .ok r ∧
      operation.restarted fresh = .retained operation.request (some r) ∧
      (∀ observation, StoredResult observation operation.request r) ∧
      r.status = some .unknown ∧ r.errorCode = some "sts2.runtime/restart_uncertain" := by
  obtain ⟨r, hr, hstored, hst, herr⟩ :=
    unknownResponse_spec (hret.admitted.congr hid) restartUncertain_checked
  have hr' : fresh.restartUncertainResponse operation.request = .ok r := hr
  refine ⟨r, hr', ?_, hstored, hst, herr⟩
  rw [← hret.with_result, Operation.restarted]
  cases hresult : operation.result with
  | none => simp only [hr', Except.toOption]
  | some q => simp only [hopen q hresult, if_true, hr', Except.toOption]

/-- Any other result is kept. -/
lemma restarted_of_resolved {fresh : Ledger} {operation : Operation} {r : Message}
    (hr : operation.result = some r) (hne : r.status ≠ some .accepted) :
    operation.restarted fresh = operation := by
  rw [Operation.restarted, hr]
  simp only [hne, if_false]

/-- **A retained row is restored**, at any point of the fold where its key is new. -/
lemma restoreOperation_of_retained {ledger fresh : Ledger} {key : OperationKey}
    {operation : Operation} (hret : Retained ledger.binding key operation)
    (hid : ledger.binding.toBindingIdentity = fresh.binding.toBindingIdentity)
    {restored : Operations} (hnew : restored[key]? = none) :
    fresh.restoreOperation ledger.binding.observation restored
        { request := operation.request, result := operation.result } =
      .ok (restored.insert key (operation.restarted fresh)) := by
  have hadm := hret.admitted.congr hid
  have h1 : validateActionRequest operation.request = .ok () :=
    validateActionRequest_eq_ok.mpr ⟨hadm.checked, hadm.kind⟩
  have h2 : fresh.validateContext operation.request = .ok () :=
    validateContext_eq_ok.mpr hadm.context
  have h3 : keyFor operation.request = .ok key := keyFor_eq_ok.mpr hadm.key
  have h4 : refuse (key ∈ restored) LedgerError.persistedStateInvalid = .ok () := by
    rw [refuse_eq_ok, mem_iff_getElem?_ne_none, not_not]
    exact hnew
  rw [Ledger.restoreOperation]
  simp only [h1, h2, h3, h4, Except.mapError, bind, Except.bind]
  cases hresult : operation.result with
  | none =>
    obtain ⟨r, hr, hrestarted, -⟩ := restarted_of_unresolved hret hid (by simp [hresult])
    rw [hrestarted]
    simp only [hr, pure, Except.pure]
  | some result =>
    have h5 := refuse_eq_ok (e := LedgerError.persistedStateInvalid) (u := ()) |>.mpr
      (hret.result result hresult).restorable
    simp only [h5]
    by_cases haccepted : result.status = some .accepted
    · obtain ⟨r, hr, hrestarted, -⟩ :=
        restarted_of_unresolved hret hid (by simp [hresult, haccepted])
      rw [hrestarted]
      simp only [haccepted, if_true, hr, pure, Except.pure]
    · have hkept : operation.restarted fresh = .retained operation.request (some result) := by
        rw [restarted_of_resolved hresult haccepted, ← hresult]
        exact hret.data
      rw [hkept]
      simp only [haccepted, if_false, pure, Except.pure]

/-! ### The whole state -/

/-- What a restart keeps and what it may change. -/
structure RestartEquivalent (before after : Ledger) : Prop where
  config : after.config = before.config
  binding : after.binding = before.binding
  keys : ∀ key : OperationKey, after.operations[key]? = none ↔ before.operations[key]? = none
  request : ∀ (key : OperationKey) (b a : Operation),
    before.operations[key]? = some b → after.operations[key]? = some a →
    a.request = b.request ∧ a.requestDigest = b.requestDigest ∧
      a.canonicalRequest = b.canonicalRequest
  kept : ∀ (key : OperationKey) (b a : Operation) r,
    before.operations[key]? = some b → after.operations[key]? = some a →
    b.result = some r → r.status ≠ some .accepted → a.result = some r
  uncertain : ∀ (key : OperationKey) (b a : Operation),
    before.operations[key]? = some b → after.operations[key]? = some a →
    (∀ r ∈ b.result, r.status = some .accepted) →
    ∃ r, a.result = some r ∧ r.status = some .unknown ∧
      r.errorCode = some "sts2.runtime/restart_uncertain"

/-- The ledger that restoring a state leaves. -/
def Ledger.restarted (fresh ledger : Ledger) : Ledger :=
  { fresh.observe ledger.binding.observation with
    operations := ledger.operations.map fun _ operation => operation.restarted fresh }

/-- **Restoring a valid ledger's persisted state succeeds.** -/
theorem restoreState_persistedState {d : Deployment} {ledger : Ledger} (h : ledger.Of d)
    (c : Construction) :
    (d.fresh c).restoreState ledger.persistedState =
      .ok ((d.fresh c).restarted ledger) := by
  set fresh := d.fresh c
  have hid : ledger.binding.toBindingIdentity = fresh.binding.toBindingIdentity := h.identity
  have hboot : ledger.binding.bootEpoch = fresh.binding.bootEpoch := by
    unfold Binding.bootEpoch
    rw [hid]
  have hops : ledger.persistedState.operations.foldlM
      (fresh.restoreOperation ledger.binding.observation) ∅ =
        .ok (ledger.operations.map fun _ operation => operation.restarted fresh) :=
    foldlM_values _ _ fun key operation hrow restored hnew =>
      restoreOperation_of_retained (h.valid.rows key operation hrow) hid hnew
  have hlength : ledger.persistedState.operations.length = ledger.operations.size := by
    simp [Ledger.persistedState]
  have hcapacity : ¬ fresh.config.operationCapacity < ledger.persistedState.operations.length := by
    rw [hlength, not_lt]
    have := h.valid.capacity
    rwa [h.config] at this
  have hsame : ¬ (ledger.persistedState.instanceId ≠ fresh.binding.instanceId ∨
      ledger.persistedState.sessionId ≠ fresh.binding.sessionId ∨
      ledger.persistedState.leaseId ≠ fresh.binding.leaseId ∨
      ledger.persistedState.leaseEpoch ≠ fresh.binding.leaseEpoch ∨
      ledger.persistedState.bootEpoch ≠ fresh.binding.bootEpoch) := by
    simp only [Ledger.persistedState, hboot, hid, ne_eq, not_true, or_self, not_false_eq_true]
  have hrefuse {p : Prop} [Decidable p] {e : LedgerError} (hp : ¬ p) : refuse p e = .ok () :=
    refuse_eq_ok.mpr hp
  have hobs : ledger.persistedState.observation.validate = .ok () := h.valid.observation
  have hops' : ledger.persistedState.operations.foldlM
      (fresh.restoreOperation ledger.persistedState.observation) ∅ =
        .ok (ledger.operations.map fun _ operation => operation.restarted fresh) := hops
  simp only [Ledger.restoreState, hrefuse hsame, hobs, hrefuse hcapacity, hops', Except.mapError,
    bind, Except.bind, pure, Except.pure]
  rfl

/-- A restart keeps the binding. -/
lemma restarted_binding {d : Deployment} {ledger : Ledger} (h : ledger.Of d)
    (c : Construction) :
    ((d.fresh c).restarted ledger).binding = ledger.binding := by
  rcases hb : ledger.binding with ⟨identity, o⟩
  have hid := h.identity
  rw [hb] at hid
  simp only [Ledger.restarted, Ledger.observe, Deployment.fresh, hb]
  exact congrArg (Binding.mk · o) hid.symm

/-- The rows of a restarted ledger. -/
lemma restarted_row (fresh ledger : Ledger) (key : OperationKey) :
    (fresh.restarted ledger).operations[key]? =
      (ledger.operations[key]?).map fun operation => operation.restarted fresh := by
  simp [Ledger.restarted, Std.ExtTreeMap.getElem?_map]

/-- A restarted row is retained in its turn. -/
lemma retained_restarted {binding : Binding} {fresh : Ledger} {key : OperationKey}
    {operation : Operation} (hret : Retained binding key operation)
    (hid : binding.toBindingIdentity = fresh.binding.toBindingIdentity) :
    Retained binding key (operation.restarted fresh) := by
  by_cases hopen : ∀ r ∈ operation.result, r.status = some .accepted
  · obtain ⟨r, -, hrestarted, hstored, -, -⟩ := restarted_of_unresolved hret hid hopen
    rw [hrestarted]
    refine ⟨hret.admitted, rfl, ?_, fun _ => hret.unresolved fun r hr => .inl (hopen r hr)⟩
    rintro _ ⟨⟩
    exact hstored _
  · push Not at hopen
    obtain ⟨r, hr, hne⟩ := hopen
    rw [restarted_of_resolved hr hne]
    exact hret

/-- A restarted ledger is a ledger of the deployment. -/
lemma restarted_of {d : Deployment} {ledger : Ledger} (h : ledger.Of d)
    (c : Construction) :
    ((d.fresh c).restarted ledger).Of d := by
  have hbinding := restarted_binding h c
  refine ⟨⟨?_, ?_, ?_⟩, rfl, rfl⟩
  · rw [hbinding]
    exact h.valid.observation
  · have hcap := h.valid.capacity
    rw [h.config] at hcap
    exact (Std.ExtTreeMap.size_map).trans_le hcap
  · intro key operation hrow
    rw [restarted_row, Option.map_eq_some_iff] at hrow
    obtain ⟨before, hbefore, rfl⟩ := hrow
    rw [hbinding]
    exact retained_restarted (h.valid.rows key before hbefore) h.identity

/-- **What a restart may change.** -/
theorem restarted_equivalent {d : Deployment} {ledger : Ledger} (h : ledger.Of d)
    (c : Construction) :
    RestartEquivalent ledger ((d.fresh c).restarted ledger) := by
  set fresh := d.fresh c
  have hid : ledger.binding.toBindingIdentity = fresh.binding.toBindingIdentity := h.identity
  have hrow : ∀ (key : OperationKey) (b a : Operation), ledger.operations[key]? = some b →
      (fresh.restarted ledger).operations[key]? = some a → a = b.restarted fresh := by
    intro key b a hb ha
    rw [restarted_row, hb] at ha
    exact (Option.some.inj ha).symm
  refine ⟨h.config.symm, restarted_binding h c, ?_, ?_, ?_, ?_⟩
  · intro key
    rw [restarted_row, Option.map_eq_none_iff]
  · intro key b a hb ha
    rw [hrow key b a hb ha]
    exact restarted_request fresh b
  · intro key b a r hb ha hr hne
    rw [hrow key b a hb ha, restarted_of_resolved hr hne, hr]
  · intro key b a hb ha hopen
    obtain ⟨r, -, hrestarted, -, hst, herr⟩ :=
      restarted_of_unresolved (h.valid.rows key b hb) hid hopen
    rw [hrow key b a hb ha, hrestarted]
    exact ⟨r, rfl, hst, herr⟩

/-- **A second restart changes nothing.** -/
theorem restarted_restarted {d : Deployment} {ledger : Ledger} (h : ledger.Of d)
    (first second : Construction) :
    ((d.fresh second).restarted ((d.fresh first).restarted ledger)).operations =
      ((d.fresh first).restarted ledger).operations := by
  refine Std.ExtTreeMap.ext_getElem? fun key => ?_
  rw [restarted_row, restarted_row]
  cases hrow : ledger.operations[key]? with
  | none => rfl
  | some operation =>
    have hret := h.valid.rows key operation hrow
    have hid : ledger.binding.toBindingIdentity =
      (d.fresh first).binding.toBindingIdentity := h.identity
    rw [Option.map_some, Option.map_some]
    by_cases hopen : ∀ r ∈ operation.result, r.status = some .accepted
    · obtain ⟨r, -, hrestarted, -, hst, -⟩ := restarted_of_unresolved hret hid hopen
      rw [hrestarted]
      exact congrArg some (restarted_of_resolved rfl (by simp [hst]))
    · push Not at hopen
      obtain ⟨r, hr, hne⟩ := hopen
      rw [restarted_of_resolved hr hne, restarted_of_resolved hr hne]

end Sts2Gateway.RuntimeV2
