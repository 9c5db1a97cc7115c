/-
Evidence and the generation fence of Runtime-v2.

* `Evidence`: a settled result is a downstream message of the run, forwarded or
  received, that repeats the request and witnesses its own later generation;
* `performed_evidence`: one call stores and returns no other settled result;
* `performed_advances`: one call never takes the observation back;
* `evidence_and_fence`: both, over every run.
-/
import Mathlib.Tactic
import Sts2Gateway.RuntimeV2.Lifecycle

namespace Sts2Gateway.RuntimeV2

open Procedure Exchange OrderedMap CheckpointedRun

/-! ### Evidence -/

/-- The downstream message behind a settled result, among the exchanges of a run. -/
inductive Downstream (events : List Event) (request result : Message) : Prop
  /-- The answer to forwarding this very request. -/
  | forwarded (hevent : Event.forward request (.ok result) ∈ events)
      (hvalid : result.validate = .ok ())
  /-- A retained receipt read by a reconciliation, stored under the request's correlation. -/
  | received (lookup : ReceiptRequest) (receipt : Message)
      (hevent : Event.receipt lookup (.ok (some receipt)) ∈ events)
      (hvalid : receipt.validate = .ok ())
      (hcorrelation : receipt.correlationId = lookup.message.correlationId)
      (hresult : result = storedReceipt request receipt)

/-- What stands behind a settled result of a request. -/
structure Evidence (events : List Event) (request result : Message) : Prop where
  downstream : Downstream events request result
  identity : responseMatchesRequest request result = true
  kind : result.kind = .actionResponse
  witness : ∃ w, result.effectWitness = some w ∧ w.kind = effectKind ∧
    w.generation = result.generation
  later : request.generation < result.generation

lemma Downstream.mono {events more : List Event} {request result : Message}
    (h : Downstream events request result) (hsub : events ⊆ more) :
    Downstream more request result := by
  cases h with
  | forwarded hevent hvalid => exact .forwarded (hsub hevent) hvalid
  | received lookup receipt hevent hvalid hcorrelation hresult =>
    exact .received lookup receipt (hsub hevent) hvalid hcorrelation hresult

/-- A settled result that may be stored and comes from downstream is evidence. -/
lemma StoredResult.evidence {observation : Observation} {events : List Event}
    {request result : Message} (h : StoredResult observation request result)
    (hsettled : result.status = some .settled) (hdown : Downstream events request result) :
    Evidence events request result :=
  ⟨hdown, h.matches_request, h.kind, h.checked.witness_of_settled h.kind hsettled,
    h.settled hsettled⟩

/-- Every settled result of a ledger has its evidence. -/
def Ledger.Evidenced (events : List Event) (ledger : Ledger) : Prop :=
  ∀ (key : OperationKey) (operation : Operation), ledger.operations[key]? = some operation →
    ∀ result, operation.result = some result → result.status = some .settled →
      Evidence events operation.request result

lemma Ledger.Evidenced.mono {events more : List Event} {ledger : Ledger}
    (h : ledger.Evidenced events) (hsub : events ⊆ more) : ledger.Evidenced more :=
  fun key operation hrow result hresult hsettled =>
    { h key operation hrow result hresult hsettled with
      downstream := (h key operation hrow result hresult hsettled).downstream.mono hsub }

/-- Inserting a row keeps the evidence when the row has it. -/
lemma insert_evidenced {events : List Event} {ledger : Ledger} (h : ledger.Evidenced events)
    {key : OperationKey} {request : Message} {result : Option Message}
    (hrow : ∀ r, result = some r → r.status = some .settled → Evidence events request r) :
    ({ ledger with operations := ledger.operations.insert key (.retained request result) } :
      Ledger).Evidenced events := by
  intro other operation hother r hr hsettled
  rw [getElem?_insert_if] at hother
  split_ifs at hother
  · cases hother
    exact hrow r hr hsettled
  · exact h other operation hother r hr hsettled

/-- A result that is not settled needs no evidence. -/
lemma evidence_of_unsettled {events : List Event} {request result : Message} {status : Status}
    (hstatus : result.status = some status) (hne : status ≠ .settled) :
    ∀ r, some result = some r → r.status = some .settled → Evidence events request r := by
  rintro _ ⟨⟩ hsettled
  rw [hstatus] at hsettled
  exact absurd (Option.some.inj hsettled) hne

/-- The evidence of a dispatch is the answer it forwarded for. -/
lemma evidence_of_dispatch {events : List Event} {known observation : Observation}
    {request result : Message} {answer : Except TransportFault Message}
    (hlearned : Learned known request observation result)
    (hsettled : result.status = some .settled → answer = .ok result)
    (hevent : Event.forward request answer ∈ events) :
    ∀ r, some result = some r → r.status = some .settled → Evidence events request r := by
  rintro _ ⟨⟩ hst
  rw [hsettled hst] at hevent
  exact hlearned.stored.evidence hst
    (.forwarded hevent (validate_eq_ok.mpr hlearned.stored.checked))

/-- **One call** leaves settled results with evidence only. -/
theorem performed_evidence {events : List Event} {ledger : Ledger} (h : ledger.Evidenced events)
    {call : Call} {o : Outcome} (hp : Performed ledger call o) :
    o.state.Evidenced (events ++ o.events) := by
  have hmore : ledger.Evidenced (events ++ o.events) := h.mono (List.subset_append_left _ _)
  cases hp with
  | cancelled _ _ _ _ hstatus =>
    exact insert_evidenced hmore (evidence_of_unsettled hstatus (by decide))
  | rejected _ _ _ hstatus =>
    exact insert_evidenced hmore (evidence_of_unsettled hstatus (by decide))
  | @dispatched _ _ _ _ observation answer ok _ _ _ hlearned hsettled hretained =>
    refine insert_evidenced (show (ledger.observe observation).Evidenced _ from hmore) ?_
    rcases hretained with ⟨-, rfl⟩ | ⟨-, hstatus, -⟩
    · exact evidence_of_dispatch hlearned hsettled (by simp)
    · exact evidence_of_unsettled hstatus (by decide)
  | @reconciled other before request receipt observation lookup _ hother _ _ hvalid hlookup
      hcorrelation _ hlearned =>
    intro key operation hrow r hr hst
    rw [Ledger.setResult, getElem?_modify_if] at hrow
    split_ifs at hrow with hkey
    · obtain ⟨row, hrow', rfl⟩ := Option.map_eq_some_iff.mp hrow
      have hsame : row = before := Option.some.inj (hrow'.symm.trans hother)
      subst hsame
      cases hr
      exact hlearned.stored.evidence hst (.received lookup receipt
        (List.mem_append_right _ (List.mem_singleton_self _)) hvalid
        (by rw [hcorrelation, hlookup]) rfl)
    · exact hmore key operation hrow r hr hst
  | _ => exact hmore

/-- **So does every state it presents**, however many of its exchanges took place. -/
theorem presented_evidence {events : List Event} {ledger : Ledger} (h : ledger.Evidenced events)
    {call : Call} {o : Outcome} (hp : Performed ledger call o) (exchanges : ℕ) {l : Ledger}
    {saved : Bool} (hl : Event.checkpoint l saved ∈ o.events.take exchanges) :
    l.Evidenced (events ++ o.events.take exchanges) := by
  have hmore : ledger.Evidenced (events ++ o.events.take exchanges) :=
    h.mono (List.subset_append_left _ _)
  cases hp with
  | rejected _ _ _ hstatus | unrejected _ _ _ hstatus =>
    obtain rfl : l = ledger.retain _ _ _ := by
      cases exchanges <;> simp at hl
      exact hl.1
    exact insert_evidenced hmore (evidence_of_unsettled hstatus (by decide))
  | undispatched =>
    obtain rfl : l = ledger.begin _ _ := by
      cases exchanges <;> simp at hl
      exact hl.1
    exact insert_evidenced hmore (by simp)
  | @dispatched _ _ _ _ observation answer ok _ _ _ hlearned hsettled hretained =>
    match exchanges with
    | 0 => simp at hl
    | 1 | 2 =>
      simp only [List.take_succ_cons, List.take_zero, List.mem_cons, Event.checkpoint.injEq,
        reduceCtorEq, List.not_mem_nil, or_false] at hl
      rw [hl.1]
      exact insert_evidenced hmore (by simp)
    | n + 3 =>
      simp only [List.take_succ_cons, List.take_nil, List.mem_cons, Event.checkpoint.injEq,
        reduceCtorEq, List.not_mem_nil, or_false, false_or] at hl
      rcases hl with ⟨rfl, -⟩ | ⟨rfl, -⟩
      · exact insert_evidenced hmore (by simp)
      · exact insert_evidenced (show (ledger.observe observation).Evidenced _ from hmore)
          (evidence_of_dispatch hlearned hsettled (by simp))
  | unreconciled evs _ _ hevents =>
    rcases hevents with rfl | ⟨receipt, answer, rfl⟩ <;> cases exchanges <;> simp at hl
  | reconciled => cases exchanges <;> simp at hl
  | _ => simp at hl

/-- **A settled answer is a stored result**, up to its kind and correlation. -/
theorem performed_returned {ledger : Ledger} {call : Call} {o : Outcome}
    (hp : Performed ledger call o) {m : Message} (hanswer : o.answer = .ok m)
    (hsettled : m.status = some .settled) :
    ∃ (key : OperationKey) (operation : Operation) (result : Message),
      o.state.operations[key]? = some operation ∧ operation.result = some result ∧
        result.status = some .settled ∧
        m = { result with kind := m.kind, correlationId := m.correlationId } := by
  cases hp with
  | refused _ | unrejected _ _ _ _ | undispatched _ _ _ => cases hanswer
  | @replayed key operation result _ hrow hresult =>
    cases hanswer
    exact ⟨key, operation, result, hrow, hresult, hsettled, rfl⟩
  | conflicted hstatus | rejected _ _ _ hstatus | cancelled _ _ _ _ hstatus
  | observed hstatus _ _ =>
    cases hanswer
    rw [hstatus] at hsettled
    cases hsettled
  | @dispatched key request _ retained observation _ _ _ _ _ _ _ _ =>
    cases hanswer
    refine ⟨key, .retained request (some m), m, ?_, rfl, hsettled, rfl⟩
    rw [Ledger.retain, getElem?_insert_if, if_pos rfl]
  | @unreconciled key operation _ result _ hrow hresult _ =>
    cases hanswer
    exact ⟨key, operation, result, hrow, hresult, hsettled, rfl⟩
  | @reconciled key operation _ receipt _ _ _ hrow _ _ _ _ _ _ _ =>
    cases hanswer
    refine ⟨key, { operation with result := some (storedReceipt operation.request receipt) },
      storedReceipt operation.request receipt, ?_, rfl, hsettled, rfl⟩
    rw [Ledger.setResult, getElem?_modify_if, if_pos rfl]
    exact congrArg _ hrow

/-- **One call** never takes the observation back. -/
theorem performed_advances {ledger : Ledger} {call : Call} {o : Outcome}
    (hp : Performed ledger call o) :
    ledger.binding.observation.generation ≤ o.state.binding.observation.generation := by
  cases hp with
  | dispatched _ _ _ _ _ hlearned => exact hlearned.advances
  | reconciled _ _ _ _ _ _ _ _ _ hlearned => exact hlearned.advances
  | observed _ _ hle => exact hle
  | _ => exact le_rfl

/-- A restart keeps settled results. -/
lemma restarted_evidenced {d : Deployment} {ledger : Ledger} (h : ledger.Of d)
    {events : List Event} (hev : ledger.Evidenced events) (c : Construction) :
    ((d.fresh c).restarted ledger).Evidenced events := by
  intro key operation hrow result hresult hsettled
  rw [restarted_row, Option.map_eq_some_iff] at hrow
  obtain ⟨before, hbefore, rfl⟩ := hrow
  have hret := h.valid.rows key before hbefore
  have hid : ledger.binding.toBindingIdentity =
    (d.fresh c).binding.toBindingIdentity := h.identity
  by_cases hopen : ∀ r ∈ before.result, r.status = some .accepted
  · obtain ⟨r, -, hrestarted, -, hst, -⟩ := restarted_of_unresolved hret hid hopen
    rw [hrestarted] at hresult
    cases hresult
    rw [hst] at hsettled
    cases hsettled
  · push Not at hopen
    obtain ⟨r, hr, hne⟩ := hopen
    rw [restarted_of_resolved hr hne] at hresult ⊢
    exact hev key before hbefore result hresult hsettled

/-! ### Runs -/

lemma Evidence.mono {events more : List Event} {request result : Message}
    (h : Evidence events request result) (hsub : events ⊆ more) : Evidence more request result :=
  { h with downstream := h.downstream.mono hsub }

/-- A settled answer of a call is, up to its kind and correlation, a result with
its evidence. -/
def CallRecord.Evidenced (events : List Event) (record : CallRecord) : Prop :=
  ∀ m, record.answer = some (.ok m) → m.status = some .settled →
    ∃ request result, Evidence events request result ∧
      m = { result with kind := m.kind, correlationId := m.correlationId }

/-- **One step** keeps the evidence of every settled result, stored or returned. -/
lemma evidence_rule (d : Deployment) :
    d.service.History (Ledger.Of d) (fun events ledger => ledger.Evidenced events)
      CallRecord.Evidenced where
  mono := fun _ _ _ h => h.mono (List.subset_append_left _ _)
  recordMono := by
    intro history more record h m hanswer hsettled
    obtain ⟨request, result, hev, hm⟩ := h m hanswer hsettled
    exact ⟨request, result, hev.mono (List.subset_append_left _ _), hm⟩
  fresh := by
    intro c key operation hrow
    simp [Deployment.service, Deployment.fresh] at hrow
  returned := by
    intro history ledger env call h hev o
    have hp : Performed ledger call o := perform_cases h.valid env call
    have hstored := performed_evidence hev hp
    refine ⟨hstored, fun m hanswer hsettled => ?_⟩
    obtain ⟨key, operation, result, hrow, hresult, hst, hm⟩ :=
      performed_returned hp (Option.some.inj hanswer) hsettled
    exact ⟨operation.request, result, hstored key operation hrow result hresult hst, hm⟩
  handed := by
    intro history ledger env call exchanges h hev events
    have hp : Performed ledger call (d.service.perform ledger env call) :=
      perform_cases h.valid env call
    refine ⟨fun l hl => ?_, fun m hanswer _ => by cases hanswer⟩
    obtain ⟨saved, hl⟩ := mem_handed.mp hl
    exact presented_evidence hev hp exchanges hl
  restored := by
    intro history c ledger restored h hev hrestored
    rw [restored_eq h c] at hrestored
    cases hrestored
    exact restarted_evidenced h hev c

/-- Over any calls the observation's generation never decreases. -/
theorem calls_advance {d : Deployment} (later : List (Environment × Call)) :
    ∀ s : System, (∀ l ∈ s.states, l.Of d) →
      s.state.binding.observation.generation ≤
        (d.service.calls s later).state.binding.observation.generation := by
  induction later with
  | nil => exact fun s _ => le_rfl
  | cons p later ih =>
    intro s hof
    have hledger := hof _ List.mem_cons_self
    exact (performed_advances (perform_cases hledger.valid p.1 p.2)).trans
      (ih (d.service.step s (.call p.1 p.2)) ((of_invariant d).step hof _))

end Sts2Gateway.RuntimeV2
