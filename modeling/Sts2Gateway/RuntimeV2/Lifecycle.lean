/-
The lifecycle of a Runtime-v2 result.

* `Ledger.Complete`: between calls every retained operation has a result
  (`run_complete`);
* `Evolves`: what a row may become; `performed_evolves` for one call,
  `calls_evolve` for any number of them;
* `perform_replay`, `perform_conflict`: a repeated key is answered from the row
  or as a conflict, and nothing else happens;
* `result_lifecycle`: the three together, in every state of every run.
-/
import Mathlib.Tactic
import Sts2Gateway.RuntimeV2.Runs

namespace Sts2Gateway.RuntimeV2

open Procedure Exchange OrderedMap CheckpointedRun

/-! ### Every operation has a result -/

/-- Every retained operation has a result. -/
def Ledger.Complete (ledger : Ledger) : Prop :=
  ∀ (key : OperationKey) (operation : Operation), ledger.operations[key]? = some operation →
    operation.result.isSome = true

lemma retain_complete {ledger : Ledger} (h : ledger.Complete) (key : OperationKey)
    (request result : Message) : (ledger.retain key request result).Complete := by
  intro other operation hrow
  rw [Ledger.retain, getElem?_insert_if] at hrow
  split_ifs at hrow
  · cases hrow
    rfl
  · exact h other operation hrow

lemma setResult_complete {ledger : Ledger} (h : ledger.Complete) (key : OperationKey)
    (result : Message) : (ledger.setResult key result).Complete := by
  intro other operation hrow
  rw [Ledger.setResult, getElem?_modify_if] at hrow
  split_ifs at hrow
  · obtain ⟨before, -, rfl⟩ := Option.map_eq_some_iff.mp hrow
    rfl
  · exact h other operation hrow

/-- A call leaves no operation without a result. -/
lemma performed_complete {ledger : Ledger} (h : ledger.Complete) {call : Call} {o : Outcome}
    (hp : Performed ledger call o) : o.state.Complete := by
  cases hp with
  | cancelled => exact retain_complete h _ _ _
  | rejected => exact retain_complete h _ _ _
  | @dispatched key request _ retained observation =>
    exact retain_complete (show (ledger.observe observation).Complete from h) key request retained
  | @reconciled key _ _ _ observation =>
    exact setResult_complete (show (ledger.observe observation).Complete from h) key _
  | _ => exact h

/-- A restart leaves none either. -/
lemma restarted_complete {d : Deployment} {ledger : Ledger} (h : ledger.Of d)
    (c : Construction) :
    ((d.fresh c).restarted ledger).Complete := by
  intro key operation hrow
  rw [restarted_row, Option.map_eq_some_iff] at hrow
  obtain ⟨before, hbefore, rfl⟩ := hrow
  have hret := h.valid.rows key before hbefore
  have hid : ledger.binding.toBindingIdentity =
    (d.fresh c).binding.toBindingIdentity := h.identity
  by_cases hopen : ∀ r ∈ before.result, r.status = some .accepted
  · obtain ⟨r, -, hrestarted, -⟩ := restarted_of_unresolved hret hid hopen
    rw [hrestarted]
    rfl
  · push Not at hopen
    obtain ⟨r, hr, hne⟩ := hopen
    rw [restarted_of_resolved hr hne, hr]
    rfl

/-- **Between calls every retained operation has a result.** -/
theorem run_complete (d : Deployment) (c : Construction) (steps : List Step) :
    (d.run c steps).state.Complete := by
  refine (of_invariant d).run_state ?_ ?_ ?_ c steps
  · intro c key operation hrow
    simp [Deployment.service, Deployment.fresh] at hrow
  · exact fun ledger env call h hc => performed_complete hc (perform_cases h.valid env call)
  · intro c ledger restored h hrestored
    rw [restored_eq h c] at hrestored
    cases hrestored
    exact restarted_complete h c

/-! ### What a row may become -/

/-- A result that an accepted receipt put in place of another, during one of
these reconciliations. -/
def ReplacedBy (records : List CallRecord) (request result : Message) : Prop :=
  ∃ record ∈ records, record.call.reconciled.isSome = true ∧
    ∃ lookup receipt, Event.receipt lookup (.ok (some receipt)) ∈ record.events ∧
      receipt.validate = .ok () ∧
      acceptsReceipt request (storedReceipt request receipt) = true ∧
      result = storedReceipt request receipt

/-- What a row may become over some calls: the request stays, a result is kept
or, while accepted or unknown, replaced by an accepted receipt. -/
structure Evolves (records : List CallRecord) (before after : Operation) : Prop where
  request : after.request = before.request
  requestDigest : after.requestDigest = before.requestDigest
  canonicalRequest : after.canonicalRequest = before.canonicalRequest
  result : ∀ r, before.result = some r → ∃ r', after.result = some r' ∧
    (r' = r ∨ (r.status = some .accepted ∨ r.status = some .unknown) ∧
      ReplacedBy records before.request r')

lemma Evolves.refl (records : List CallRecord) (operation : Operation) :
    Evolves records operation operation :=
  ⟨rfl, rfl, rfl, fun r hr => ⟨r, hr, .inl rfl⟩⟩

lemma ReplacedBy.mono {records more : List CallRecord} {request result : Message}
    (h : ReplacedBy records request result) (hsub : records ⊆ more) :
    ReplacedBy more request result := by
  obtain ⟨record, hrecord, hrest⟩ := h
  exact ⟨record, hsub hrecord, hrest⟩

/-- Two stretches of calls, one after the other. -/
lemma Evolves.trans {first second : List CallRecord} {a b c : Operation}
    (hab : Evolves first a b) (hbc : Evolves second b c) : Evolves (first ++ second) a c where
  request := hbc.request.trans hab.request
  requestDigest := hbc.requestDigest.trans hab.requestDigest
  canonicalRequest := hbc.canonicalRequest.trans hab.canonicalRequest
  result := by
    intro r hr
    obtain ⟨r', hr', h⟩ := hab.result r hr
    obtain ⟨r'', hr'', h'⟩ := hbc.result r' hr'
    rw [hab.request] at h'
    refine ⟨r'', hr'', ?_⟩
    rcases h with rfl | ⟨hopen, hby⟩
    · exact h'.imp_right fun ⟨ho, hby⟩ => ⟨ho, hby.mono (List.subset_append_right _ _)⟩
    · right
      refine ⟨hopen, ?_⟩
      rcases h' with rfl | ⟨-, hby'⟩
      · exact hby.mono (List.subset_append_left _ _)
      · exact hby'.mono (List.subset_append_right _ _)

/-- **One call** drops no operation and changes no resolved result. -/
theorem performed_evolves {ledger : Ledger} {call : Call} {o : Outcome}
    (hp : Performed ledger call o) (answer : Option (Except LedgerError Message))
    {key : OperationKey} {operation : Operation}
    (hrow : ledger.operations[key]? = some operation) :
    ∃ after, o.state.operations[key]? = some after ∧
      Evolves [{ call, answer, events := o.events }] operation after := by
  have hkept : ∀ (l : Ledger) (other : OperationKey) (request result : Message),
      l.operations = ledger.operations → ledger.operations[other]? = none →
      (l.retain other request result).operations[key]? = some operation := by
    intro l other request result hl habsent
    rw [Ledger.retain, hl, getElem?_insert_if, if_neg]
    · exact hrow
    · rintro rfl
      rw [hrow] at habsent
      cases habsent
  cases hp with
  | cancelled _ hfresh =>
    exact ⟨operation, hkept ledger _ _ _ rfl hfresh.absent, .refl _ _⟩
  | rejected _ hfresh =>
    exact ⟨operation, hkept ledger _ _ _ rfl hfresh.absent, .refl _ _⟩
  | @dispatched _ _ _ _ observation _ _ _ hfresh =>
    exact ⟨operation, hkept (ledger.observe observation) _ _ _ rfl hfresh.absent, .refl _ _⟩
  | @reconciled other before request receipt observation lookup hcall hother hsome hopen hvalid _ _
      haccepts _ =>
    by_cases hkey : other = key
    · subst hkey
      rw [hrow] at hother
      cases hother
      refine ⟨{ operation with result := some (storedReceipt operation.request receipt) }, ?_,
        rfl, rfl, rfl, fun r hr => ⟨_, rfl, .inr ⟨hopen r hr, ?_⟩⟩⟩
      · rw [Ledger.setResult, getElem?_modify_if, if_pos rfl]
        exact congrArg _ hrow
      · exact ⟨_, List.mem_singleton_self _, by simp [hcall], lookup, receipt,
          List.mem_singleton_self _, hvalid, haccepts, rfl⟩
    · refine ⟨operation, ?_, .refl _ _⟩
      rw [Ledger.setResult, getElem?_modify_if, if_neg hkey]
      exact hrow
  | _ => exact ⟨operation, hrow, .refl _ _⟩

/-- **Any sequence of calls** drops no operation and changes no resolved result. -/
theorem calls_evolve {d : Deployment} (later : List (Environment × Call)) :
    ∀ s : System, (∀ l ∈ s.states, l.Of d) →
      ∃ records, (d.service.calls s later).trace = s.trace ++ records ∧
        ∀ (key : OperationKey) (operation : Operation),
          s.state.operations[key]? = some operation →
          ∃ after, (d.service.calls s later).state.operations[key]? = some after ∧
            Evolves records operation after := by
  induction later with
  | nil => exact fun s _ => ⟨[], by simp [Service.calls, Service.run],
      fun key operation hrow => ⟨operation, hrow, .refl _ _⟩⟩
  | cons p later ih =>
    intro s h
    have hledger : s.state.Of d := h _ List.mem_cons_self
    have hp := perform_cases hledger.valid p.1 p.2
    obtain ⟨records, htrace, hrows⟩ :=
      ih (d.service.step s (.call p.1 p.2)) ((of_invariant d).step h _)
    set o := s.state.perform p.1 p.2
    refine ⟨[{ call := p.2, answer := some o.answer, events := o.events }] ++ records, ?_,
      fun key operation hrow => ?_⟩
    · exact htrace.trans (List.append_assoc _ _ _)
    · obtain ⟨mid, hmid, hfirst⟩ := performed_evolves hp _ hrow
      obtain ⟨after, hafter, hsecond⟩ := hrows key mid hmid
      exact ⟨after, hafter, hfirst.trans hsecond⟩

/-! ### Repeated keys -/

/-- The action request of a submission or a cancellation. -/
def Call.requested (call : Call) : Option Message := call.submitted.or call.cancelled

/-- A submission or cancellation under a retained key is answered from the row
and asks nothing of the outside. -/
lemma perform_existing {ledger : Ledger} {call : Call} {key : OperationKey} {request : Message}
    {existing : Operation} (env : Environment) (hauthority : ledger.authorize call = .ok ())
    (hcall : call.requested = some request) (hadmitted : Admitted ledger.binding key request)
    (hrow : ledger.operations[key]? = some existing) :
    ledger.perform env call =
      { answer := ledger.replayOrConflict existing request, state := ledger, events := [] } := by
  have h1 : validateActionRequest request = .ok () :=
    validateActionRequest_eq_ok.mpr ⟨hadmitted.checked, hadmitted.kind⟩
  have h2 : keyFor request = .ok key := keyFor_eq_ok.mpr hadmitted.key
  have h3 : ledger.validateContext request = .ok () := validateContext_eq_ok.mpr hadmitted.context
  have hsubmit : ∀ env, outcome (submitActionInner env request) ledger =
      { answer := ledger.replayOrConflict existing request, state := ledger, events := [] } := by
    intro env
    simp only [submitActionInner, outcome_getState_bind, h1, h2, h3, outcome_liftM_bind, hrow,
      outcome_liftM]
  rw [Ledger.perform, Call.run, outcome_getState_bind, hauthority, outcome_liftM_bind]
  obtain ⟨authority, method⟩ := call
  cases method with
  | submitAction r =>
    obtain rfl : r = request := Option.some.inj hcall
    exact hsubmit _
  | submitActionWithCheckpoint r =>
    obtain rfl : r = request := Option.some.inj hcall
    exact hsubmit _
  | cancelBeforeDispatch r =>
    obtain rfl : r = request := Option.some.inj hcall
    simp only [Method.run, cancelBeforeDispatchInner, outcome_getState_bind, h1, h2, h3,
      outcome_liftM_bind, hrow, outcome_liftM]
  | reconcile r => cases hcall
  | acceptStateResponse r response => cases hcall

/-- Two requests under one key are fenced alike. -/
lemma Admitted.of_key {binding : Binding} {key : OperationKey} {request other : Message}
    (h : Admitted binding key other) (hchecked : request.Checked)
    (hkind : request.kind = .actionRequest) (hkey : request.operationKey = some key) :
    Admitted binding key request := by
  refine ⟨hchecked, hkind, ?_, hkey⟩
  have hother := h.key
  simp only [Message.operationKey, Option.map_eq_some_iff] at hkey hother
  obtain ⟨id, -, rfl⟩ := hkey
  obtain ⟨id', -, hsame⟩ := hother
  simp only [OperationKey.mk.injEq] at hsame
  have hcontext := Binding.fenceFailure_eq_none.mp h.context
  rw [Binding.fenceFailure_eq_none]
  exact ⟨hsame.1 ▸ hcontext.1, hsame.2.1 ▸ hcontext.2.1, hsame.2.2.1 ▸ hcontext.2.2.1,
    hsame.2.2.2.1 ▸ hcontext.2.2.2⟩

section Repeated

variable {ledger : Ledger} (hv : ledger.Valid) {call : Call} {key : OperationKey}
  {request : Message} {operation : Operation} (env : Environment)
  (hauthority : ledger.authorize call = .ok ()) (hcall : call.requested = some request)
  (hvalid : validateActionRequest request = .ok ()) (hkey : request.operationKey = some key)
  (hrow : ledger.operations[key]? = some operation)
include hv hauthority hcall hvalid hkey hrow

/-- **The same semantic request** gets the stored result under its own correlation. -/
theorem perform_replay {result : Message} (hresult : operation.result = some result)
    (hsame : request.clearCorrelation = operation.request.clearCorrelation) :
    ledger.perform env call =
      { answer := .ok { result with correlationId := request.correlationId }, state := ledger
        events := [] } := by
  have hret := hv.rows key operation hrow
  obtain ⟨hchecked, hkind⟩ := validateActionRequest_eq_ok.mp hvalid
  have hbytes := idempotencyCanonicalJson_eq_iff.mpr hsame.symm
  have hdigest := requestDigest_congr hbytes
  rw [perform_existing env hauthority hcall (hret.admitted.of_key hchecked hkind hkey) hrow,
    Ledger.replayOrConflict, if_pos, hresult]
  rw [hret.data]
  exact ⟨hdigest, hbytes⟩

/-- **Other semantics under the same key** are answered as a conflict. -/
theorem perform_conflict (hother : request.clearCorrelation ≠ operation.request.clearCorrelation) :
    ∃ response, ledger.perform env call =
        { answer := .ok response, state := ledger, events := [] } ∧
      response.status = some .rejected ∧ response.errorCode = some "idempotency_conflict" := by
  have hret := hv.rows key operation hrow
  obtain ⟨hchecked, hkind⟩ := validateActionRequest_eq_ok.mp hvalid
  have hadmitted := hret.admitted.of_key hchecked hkind hkey
  obtain ⟨r, hr, -, hst, herr⟩ :=
    refusal_spec hadmitted hv.observation (.inl rfl) idempotencyConflict_checked
  refine ⟨r, ?_, hst, herr⟩
  rw [perform_existing env hauthority hcall hadmitted hrow, Ledger.replayOrConflict, if_neg, hr]
  rw [hret.data]
  exact fun h => hother (idempotencyCanonicalJson_eq_iff.mp h.2).symm

end Repeated

end Sts2Gateway.RuntimeV2
