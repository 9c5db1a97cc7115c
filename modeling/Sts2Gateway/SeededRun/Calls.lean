/-
What one call of the seeded-run ledger can do.

* `StoredResult`, `Retained`, `Ledger.Valid`: what holds of every retained row;
* `Fresh`, `Performed`: every outcome of a public method, with its log and the
  ledger it leaves;
* `perform_cases`: **on a valid ledger each call is one of them**.
-/
import Mathlib.Tactic
import Sts2Gateway.Library.OrderedMap
import Sts2Gateway.SeededRun.Ledger

namespace Sts2Gateway.SeededRun

open Procedure Exchange OrderedMap Text

/-! ### The binding's generation -/

/-- An adopted generation is not behind the binding's. -/
lemma adopt_cases (ledger : Ledger) (request : Message) :
    ledger.adopt request = ledger ∨ ledger.adopt request =
      ledger.setGeneration request.generation ∧ ledger.binding.generation ≤ request.generation := by
  unfold Ledger.adopt
  split_ifs with h
  · exact .inr ⟨rfl, h.2⟩
  · exact .inl rfl

/-- A start that may be forwarded is at the binding's generation. -/
lemma adopt_of_current {ledger : Ledger} {request : Message}
    (h : request.generation = (ledger.adopt request).binding.generation) :
    ledger.adopt request = ledger.setGeneration request.generation ∧
      ledger.binding.generation ≤ request.generation := by
  rcases adopt_cases ledger request with hsame | hnew
  · rw [hsame] at h ⊢
    rw [h]
    exact ⟨rfl, le_rfl⟩
  · exact hnew

/-- A stale start has adopted nothing. -/
lemma adopt_of_stale {ledger : Ledger} {request : Message}
    (h : request.generation ≠ (ledger.adopt request).binding.generation) :
    ledger.adopt request = ledger := by
  rcases adopt_cases ledger request with hsame | ⟨hnew, -⟩
  · exact hsame
  · rw [hnew] at h
    exact absurd rfl h

/-! ### Updates of one row -/

namespace Ledger

lemma remove_begin {ledger : Ledger} {request : Message}
    (h : ledger.operations[request.operationId]? = none) :
    (ledger.begin request).remove request.operationId = ledger := by
  simp only [begin, remove, erase_insert_of_none h]

/-- The result of a forwarded start, with the generation it advances to. -/
lemma settle_begin (ledger : Ledger) (request result : Message) :
    (ledger.begin request).setResult request.operationId result = ledger.retain request result := by
  simp only [begin, setResult, retain, modify_insert]
  rfl

end Ledger

/-! ### The ledger's own error codes -/

def ownCodes : List String :=
  ["stale_generation", "downstream_timeout", "downstream_unavailable",
    "downstream_malformed_response"]

lemma ownCodes_checked : ownCodes.all (fun code => (validateIdentity code).isOk) = true := by
  decide +kernel

/-- The codes pass the check that they are stored under. -/
lemma ownCode_checked {code : String} (h : code ∈ ownCodes) :
    (validateIdentity code).isOk = true := List.all_eq_true.mp ownCodes_checked code h

lemma staleGeneration_checked : (validateIdentity "stale_generation").isOk = true :=
  ownCode_checked (by simp [ownCodes])

variable [Sha256]

/-! ### The invariant of a row -/

/-- A result that may stand beside its request, while the binding is at a
generation. -/
structure StoredResult (generation : ℕ) (request result : Message) : Prop where
  accepted : acceptForwarded request result = .ok result
  observed : ∀ o ∈ result.observation, o.generation ≤ generation

/-- A start that the ledger admits. -/
structure Admitted (binding : Binding) (request : Message) : Prop where
  valid : request.validate = .ok ()
  kind : request.kind = .startRequest
  binding : binding.accepts request = true

structure Retained (binding : Binding) (id : String) (operation : Operation) : Prop where
  admitted : Admitted binding operation.request
  id : operation.request.operationId = id
  data : operation = .retained operation.request operation.result
  result : ∀ r, operation.result = some r → StoredResult binding.generation operation.request r

structure Ledger.Valid (ledger : Ledger) : Prop where
  generation : ledger.binding.generation ≤ maxGeneration
  capacity : ledger.operations.size ≤ ledger.config.operationCapacity
  rows : ∀ (id : String) operation, ledger.operations[id]? = some operation →
    Retained ledger.binding id operation

lemma StoredResult.mono {before after : ℕ} {request result : Message}
    (h : StoredResult before request result) (hle : before ≤ after) :
    StoredResult after request result :=
  ⟨h.accepted, fun o ho => (h.observed o ho).trans hle⟩

/-! ### What acceptance says -/

/-- The ledger keeps an accepted answer as it is. -/
lemma acceptForwarded_eq_ok {request response result : Message} :
    acceptForwarded request response = .ok result ↔
      result = response ∧ response.Checked ∧
        (response.kind = .startResponse ∨ response.kind = .reconcileResponse) ∧
        response.correlationId = request.correlationId ∧
        repeatsStart request response = true := by
  simp only [acceptForwarded, except_bind_eq_ok, mapError_eq_ok, refuse_eq_ok, not_or, not_and,
    not_not, pure, Except.pure, Except.ok.injEq]
  constructor
  · rintro ⟨⟨⟩, hvalid, -, ⟨hkind, hcorrelation, hrepeats⟩, rfl⟩
    refine ⟨rfl, validate_eq_ok.mp hvalid, ?_, hcorrelation, hrepeats⟩
    by_cases hstart : response.kind = .startResponse
    · exact .inl hstart
    · exact .inr (hkind hstart)
  · rintro ⟨rfl, hc, hkind, hcorrelation, hrepeats⟩
    refine ⟨(), validate_eq_ok.mpr hc, (), ⟨fun hstart => ?_, hcorrelation, hrepeats⟩, rfl⟩
    exact hkind.resolve_left hstart

/-- An accepted receipt is stored as an accepted answer. -/
lemma acceptReceipt_stored {original reconcile receipt result : Message}
    (ho : original.Checked) (h : acceptReceipt original reconcile receipt = .ok result) :
    result = receipt ∧ acceptForwarded original (storedReceipt original receipt) =
      .ok (storedReceipt original receipt) := by
  simp only [acceptReceipt, except_bind_eq_ok, mapError_eq_ok, refuse_eq_ok, not_or, not_not, pure,
    Except.pure, Except.ok.injEq] at h
  obtain ⟨⟨⟩, hvalid, -, ⟨hkind, -, hrepeats⟩, rfl⟩ := h
  exact ⟨rfl, acceptForwarded_eq_ok.mpr ⟨rfl,
    (validate_eq_ok.mp hvalid).as_startResponse hkind ho.correlationId, .inl rfl, rfl, hrepeats⟩⟩

/-- The ledger's own results for an admitted start. -/
lemma ownResult_spec {binding : Binding} {request : Message} (h : Admitted binding request)
    {status : Status} (hstatus : status = .rejected ∨ status = .unknown) {code : String}
    (hcode : (validateIdentity code).isOk = true) :
    ∃ r, ownResult request status code = .ok r ∧ (∀ generation, StoredResult generation request r) ∧
      r.kind = .startResponse ∧ r.status = some status ∧ r.errorCode = some code := by
  have hc := validate_eq_ok.mp h.valid
  obtain ⟨seed, mode, context, hseed, hmode, hcontext, hdigest⟩ :=
    hc.fields_of_startRequest h.kind
  have hresult := hc.resultWithContext h.kind mode hseed hcontext hstatus
    (isOk_eq_true.mp hcode)
  refine ⟨_, by rw [ownResult, hcontext, hseed, hmode], fun _ => ⟨?_, ?_⟩, rfl, rfl, rfl⟩
  · refine acceptForwarded_eq_ok.mpr ⟨rfl, hresult, .inl rfl, rfl, ?_⟩
    simp [repeatsStart, Message.resultWithContext, Message.base, hseed, hmode, hcontext, hdigest]
  · simp [Message.resultWithContext]

/-! ### Advancing the generation -/

/-- A result advances the generation to what it observes, and never back. -/
lemma advanceGeneration_spec (ledger : Ledger) {request result : Message}
    (hv : ledger.binding.generation ≤ maxGeneration)
    (haccepted : acceptForwarded request result = .ok result) :
    ∃ generation, ledger.advanceGeneration result = ledger.setGeneration generation ∧
      ledger.binding.generation ≤ generation ∧ generation ≤ maxGeneration ∧
      StoredResult generation request result := by
  obtain ⟨-, hc, hkind, -, -⟩ := acceptForwarded_eq_ok.mp haccepted
  cases hobs : result.observation with
  | none =>
    refine ⟨ledger.binding.generation, ?_, le_rfl, hv, haccepted, by simp [hobs]⟩
    unfold Ledger.advanceGeneration
    rw [hobs]
    split <;> first | rfl | simp_all
  | some o =>
    have hstatus := hc.observation_of_result hkind hobs
    have hadvance : ledger.advanceGeneration result =
        if ledger.binding.generation < o.generation then ledger.setGeneration o.generation
        else ledger := by
      simp [Ledger.advanceGeneration, hstatus, hobs]
    have hbound : o.generation ≤ maxGeneration := by
      have hvalid := hc.observation o hobs
      simp only [Observation.validate, except_bind_eq_ok, refuse_eq_ok, not_lt] at hvalid
      exact hvalid.choose_spec.1
    by_cases hahead : ledger.binding.generation < o.generation
    · refine ⟨o.generation, by rw [hadvance, if_pos hahead], hahead.le, hbound, haccepted, ?_⟩
      rw [hobs]
      rintro _ ⟨⟩
      exact le_rfl
    · refine ⟨ledger.binding.generation, by rw [hadvance, if_neg hahead]; rfl, le_rfl, hv,
        haccepted, ?_⟩
      rw [hobs]
      rintro _ ⟨⟩
      exact not_lt.mp hahead

/-! ### The outcomes -/

/-- The request of a start, with or without a checkpoint. -/
def Call.submitted : Call → Option Message
  | .submitStart request | .submitStartWithCheckpoint request => some request
  | .reconcile _ => none

/-- A start that the ledger admits under a new id. -/
structure Fresh (ledger : Ledger) (request : Message) : Prop where
  admitted : Admitted ledger.binding request
  absent : ledger.operations[request.operationId]? = none
  room : ledger.operations.size < ledger.config.operationCapacity

/-- The answer of a call whose last checkpoint answered `ok`. -/
def answered (ok : Bool) (result : Message) : Except LedgerError Message :=
  if ok then .ok result else .error .persistenceFailed

/-- The outcomes of a call on a valid ledger. -/
inductive Performed (ledger : Ledger) (call : Call) : Outcome → Prop
  /-- Nothing was asked and nothing changed. -/
  | refused (error : LedgerError) :
      Performed ledger call { answer := .error error, state := ledger, events := [] }
  /-- A repeated start. -/
  | replayed {id : String} {operation : Operation} {result : Message} (request : Message)
      (hrow : ledger.operations[id]? = some operation) (hresult : operation.result = some result) :
      Performed ledger call
        { answer := .ok (replayForRequest result request), state := ledger, events := [] }
  /-- A start behind the binding's generation: its refusal is kept, durable or not. -/
  | stale {request response : Message} (ok : Bool) (hcall : call.submitted = some request)
      (hfresh : Fresh ledger request)
      (hstored : StoredResult ledger.binding.generation request response)
      (hkind : response.kind = .startResponse) :
      Performed ledger call
        { answer := answered ok response, state := ledger.retain request response
          events := [.checkpoint (ledger.retain request response) ok] }
  /-- Not forwarded, because the first checkpoint failed; an adopted generation stays. -/
  | undispatched {request : Message} (hcall : call.submitted = some request)
      (hfresh : Fresh ledger request) (hle : ledger.binding.generation ≤ request.generation) :
      Performed ledger call
        { answer := .error .persistenceFailed, state := ledger.setGeneration request.generation
          events := [.checkpoint ((ledger.setGeneration request.generation).begin request) false] }
  /-- Forwarded, but the answer is not accepted: the operation has no result. -/
  | stranded {request response : Message} {error : LedgerError}
      (hcall : call.submitted = some request) (hfresh : Fresh ledger request)
      (hle : ledger.binding.generation ≤ request.generation)
      (hrefused : acceptForwarded request response = .error error) :
      Performed ledger call
        { answer := .error error, state := (ledger.setGeneration request.generation).begin request
          events := [.checkpoint ((ledger.setGeneration request.generation).begin request) true,
            .forward request (.ok response)] }
  /-- Forwarded once; the result is an accepted answer or the ledger's own. -/
  | dispatched {request result : Message} (answer : Except TransportFault Message)
      (generation : ℕ) (ok : Bool) (hcall : call.submitted = some request)
      (hfresh : Fresh ledger request) (hle : ledger.binding.generation ≤ request.generation)
      (hadvanced : request.generation ≤ generation) (hbound : generation ≤ maxGeneration)
      (hstored : StoredResult generation request result)
      (hkind : answer = .ok result ∨ result.kind = .startResponse) :
      Performed ledger call
        { answer := answered ok result
          state := (ledger.setGeneration generation).retain request result
          events := [.checkpoint ((ledger.setGeneration request.generation).begin request) true,
            .forward request answer,
            .checkpoint ((ledger.setGeneration generation).retain request result) ok] }
  /-- A reconciliation that returns the result as it is stored. -/
  | unreconciled {id : String} {operation : Operation} {result : Message} (request : Message)
      (events : List Event) (hrow : ledger.operations[id]? = some operation)
      (hresult : operation.result = some result)
      (hevents : events = [] ∨ ∃ receipt answer, events = [.receipt receipt answer]) :
      Performed ledger call
        { answer := .ok (asReconcileResponse result request), state := ledger, events }
  /-- A reconciliation whose receipt replaces an accepted or unknown result. -/
  | reconciled {id : String} {operation : Operation} {result receipt : Message}
      (request : Message) (lookup : ReceiptRequest) (generation : ℕ)
      (hrow : ledger.operations[id]? = some operation) (hresult : operation.result = some result)
      (hopen : result.status = some .accepted ∨ result.status = some .unknown)
      (hle : ledger.binding.generation ≤ generation) (hbound : generation ≤ maxGeneration)
      (hstored : StoredResult generation operation.request
        (storedReceipt operation.request receipt)) :
      Performed ledger call
        { answer := .ok (asReconcileResponse receipt request)
          state := (ledger.setGeneration generation).setResult id
            (storedReceipt operation.request receipt)
          events := [.receipt lookup (.ok (some receipt))] }

/-! ### Running the pieces -/

/-- A check refuses the call, or the call goes on with what the check found. -/
lemma performed_check {ledger : Ledger} {call : Call} {α : Type} {x : Except LedgerError α}
    {f : α → LedgerM Message}
    (h : ∀ a, x = .ok a → Performed ledger call (outcome (f a) ledger)) :
    Performed ledger call (outcome (liftM x >>= f) ledger) :=
  outcome_check .refused h

/-- A forwarded start gets a result that may be stored, unless its answer is refused. -/
lemma resolveForwarded_cases {binding : Binding} {request : Message}
    (h : Admitted binding request) (answer : Except TransportFault Message) :
    (∃ result, resolveForwarded request answer = .ok result ∧
      acceptForwarded request result = .ok result ∧
      (answer = .ok result ∨ result.kind = .startResponse)) ∨
    ∃ response error, answer = .ok response ∧ resolveForwarded request answer = .error error ∧
      acceptForwarded request response = .error error := by
  have hown : ∀ code, (validateIdentity code).isOk = true →
      ∃ result, unknown request code = .ok result ∧
        acceptForwarded request result = .ok result ∧
        (answer = .ok result ∨ result.kind = .startResponse) := by
    intro code hcode
    obtain ⟨r, hr, hstored, hkind, -⟩ := ownResult_spec h (.inr rfl) hcode
    exact ⟨r, hr, (hstored 0).accepted, .inr hkind⟩
  cases answer with
  | ok response =>
    cases haccept : acceptForwarded request response with
    | ok result =>
      obtain ⟨rfl, -⟩ := acceptForwarded_eq_ok.mp haccept
      exact .inl ⟨result, haccept, haccept, .inl rfl⟩
    | error error => exact .inr ⟨response, error, rfl, haccept, haccept⟩
  | error fault =>
    left
    cases fault with
    | timeout => exact hown _ (ownCode_checked (by simp [ownCodes]))
    | unavailableBeforeWrite => exact hown _ (ownCode_checked (by simp [ownCodes]))
    | malformedResponse => exact hown _ (ownCode_checked (by simp [ownCodes]))

section Operations

variable {ledger : Ledger} {call : Call} {request : Message}

lemma rejectStale_performed (env : Environment) (hcall : call.submitted = some request)
    (hfresh : Fresh ledger request) :
    Performed ledger call (outcome (rejectStale env request) ledger) := by
  obtain ⟨r, hr, hstored, hkind, -⟩ :=
    ownResult_spec hfresh.admitted (.inl rfl) staleGeneration_checked
  have hresponse : rejected request "stale_generation" = .ok r := hr
  rw [rejectStale, hresponse, outcome_liftM_bind]
  cases hok : env.checkpoint [] (ledger.retain request r).persistedState with
  | true =>
    simpa [outcome, hok, answered] using Performed.stale true hcall hfresh (hstored _) hkind
  | false =>
    simpa [outcome, hok, answered] using Performed.stale false hcall hfresh (hstored _) hkind

lemma dispatch_performed (env : Environment) (hcall : call.submitted = some request)
    (hfresh : Fresh ledger request) (hle : ledger.binding.generation ≤ request.generation) :
    Performed ledger call
      (outcome (modifyState (·.setGeneration request.generation) >>= fun _ => dispatch env request)
        ledger) := by
  set current := ledger.setGeneration request.generation with hcurrent
  set begun := current.begin request with hbegun
  have hgen : current.binding.generation ≤ maxGeneration :=
    (validate_eq_ok.mp hfresh.admitted.valid).generation
  cases hok : env.checkpoint [] begun.persistedState with
  | false =>
    have hremoved : begun.remove request.operationId = current := Ledger.remove_begin hfresh.absent
    simpa [outcome, dispatch, ← hcurrent, ← hbegun, hok, hremoved] using
      Performed.undispatched hcall hfresh hle
  | true =>
    generalize hanswer : env.forward [.checkpoint begun true] request = answer
    obtain ⟨result, hresolved, haccepted, hkind⟩ | ⟨response, error, rfl, hresolved, hrefused⟩ :=
      resolveForwarded_cases hfresh.admitted answer
    · obtain ⟨generation, hadvance, hadvanced, hbound, hstored⟩ :=
        advanceGeneration_spec (current.retain request result) hgen haccepted
      set settled := (ledger.setGeneration generation).retain request result
      have hsettled : (begun.setResult request.operationId result).advanceGeneration result =
          settled := by
        rw [hbegun, Ledger.settle_begin, hadvance]
        rfl
      cases hok2 : env.checkpoint [.checkpoint begun true, .forward request answer]
          settled.persistedState with
      | true =>
        simpa [outcome, dispatch, ← hcurrent, ← hbegun, hok, hanswer, hresolved, hsettled, hok2,
          answered] using
          Performed.dispatched answer generation true hcall hfresh hle hadvanced hbound hstored hkind
      | false =>
        simpa [outcome, dispatch, ← hcurrent, ← hbegun, hok, hanswer, hresolved, hsettled, hok2,
          answered] using
          Performed.dispatched answer generation false hcall hfresh hle hadvanced hbound hstored
            hkind
    · simpa [outcome, dispatch, ← hcurrent, ← hbegun, hok, hanswer, hresolved] using
        Performed.stranded hcall hfresh hle hrefused

lemma submitStart_performed (env : Environment) (hcall : call.submitted = some request) :
    Performed ledger call (outcome (submitStartWithCheckpoint env request) ledger) := by
  rw [submitStartWithCheckpoint]
  refine performed_check fun _ hvalid => performed_check fun _ hkind => ?_
  rw [outcome_getState_bind]
  refine performed_check fun _ hbinding => ?_
  rw [mapError_eq_ok] at hvalid
  rw [refuse_eq_ok, not_not] at hkind
  rw [Ledger.validateBinding, refuse_eq_ok, not_not] at hbinding
  cases hrow : ledger.operations[request.operationId]? with
  | some existing =>
    dsimp only
    rw [outcome_liftM, replayOrConflict]
    cases hconflict : refuse (existing.requestDigest ≠ request.canonicalRequest)
        LedgerError.operationConflict with
    | error e => exact .refused e
    | ok _ =>
      cases hresult : existing.result with
      | none => exact .refused _
      | some result => exact .replayed request hrow hresult
  | none =>
    dsimp only
    split_ifs with hfull hstale
    · exact .refused _
    · -- a stale start adopted nothing
      have hfresh : Fresh ledger request := ⟨⟨hvalid, hkind, hbinding⟩, hrow, not_le.mp hfull⟩
      have hadopt := adopt_of_stale hstale
      have := rejectStale_performed env hcall hfresh
      simpa [outcome, hadopt] using this
    · have hfresh : Fresh ledger request := ⟨⟨hvalid, hkind, hbinding⟩, hrow, not_le.mp hfull⟩
      obtain ⟨hadopt, hle⟩ := adopt_of_current (not_not.mp hstale)
      have := dispatch_performed env hcall hfresh hle
      simpa [outcome, hadopt] using this

/-- A reconciliation reads at most one receipt and changes at most its own row. -/
lemma reconcile_performed (hv : ledger.Valid) (env : Environment) :
    Performed ledger call (outcome (reconcile env request) ledger) := by
  rw [reconcile]
  refine performed_check fun _ _ => performed_check fun _ _ => ?_
  rw [outcome_getState_bind]
  refine performed_check fun _ _ => performed_check fun _ _ => ?_
  cases hrow : ledger.operations[request.operationId]? with
  | none => exact .refused _
  | some operation =>
    dsimp only
    cases hresult : operation.result with
    | none => exact .refused _
    | some result =>
      dsimp only
      split_ifs with hterminal
      · exact .unreconciled request [] hrow hresult (.inl rfl)
      · have hret := hv.rows _ operation hrow
        have hopen : result.status = some .accepted ∨ result.status = some .unknown := by tauto
        generalize hlookup : (⟨request, request.operationId⟩ : ReceiptRequest) = lookup
        cases hanswer : env.receipt [] lookup with
        | error fault =>
          simpa [outcome, hanswer] using
            Performed.unreconciled request [.receipt lookup (.error fault)] hrow hresult
              (.inr ⟨_, _, rfl⟩)
        | ok receipt =>
          cases receipt with
          | none =>
            simpa [outcome, hanswer] using
              Performed.unreconciled request [.receipt lookup (.ok none)] hrow hresult
                (.inr ⟨_, _, rfl⟩)
          | some receipt =>
            cases haccept : acceptReceipt operation.request request receipt with
            | error e =>
              simpa [outcome, hanswer, haccept] using
                Performed.unreconciled request [.receipt lookup (.ok (some receipt))] hrow hresult
                  (.inr ⟨_, _, rfl⟩)
            | ok accepted =>
              obtain ⟨rfl, hstored⟩ :=
                acceptReceipt_stored (validate_eq_ok.mp hret.admitted.valid) haccept
              obtain ⟨generation, hadvance, hle, hbound, hstored⟩ := advanceGeneration_spec
                (ledger.setResult request.operationId
                  (storedReceipt operation.request accepted)) hv.generation hstored
              have hsettled : (ledger.setResult request.operationId
                  (storedReceipt operation.request accepted)).advanceGeneration
                    (storedReceipt operation.request accepted) =
                  (ledger.setGeneration generation).setResult request.operationId
                    (storedReceipt operation.request accepted) := by
                rw [hadvance]
                rfl
              simpa [outcome, hanswer, haccept, hsettled] using
                Performed.reconciled request lookup generation hrow hresult hopen hle hbound hstored

/-- **Every call** on a valid ledger has one of the listed outcomes. -/
theorem perform_cases (hv : ledger.Valid) (env : Environment) (call : Call) :
    Performed ledger call (ledger.perform env call) := by
  cases call with
  | submitStart request => exact submitStart_performed _ rfl
  | submitStartWithCheckpoint request => exact submitStart_performed _ rfl
  | reconcile request => exact reconcile_performed hv _

end Operations

end Sts2Gateway.SeededRun
