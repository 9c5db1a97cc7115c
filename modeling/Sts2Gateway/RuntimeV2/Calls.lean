/-
What one call of the Runtime-v2 ledger can do.

* `Performed`: every outcome of a public method, with its log and the ledger it
  leaves; the facts that later results need are fields of each case;
* `perform_cases`: on a valid ledger each call is one of them.

Every result about runs is a case analysis on `Performed`; no later proof
unfolds the methods again, except those about what one given call returns.
-/
import Mathlib.Tactic
import Sts2Gateway.Library.OrderedMap
import Sts2Gateway.RuntimeV2.Invariant

namespace Sts2Gateway.RuntimeV2

open Procedure Exchange OrderedMap

/-! ### Updates of one row -/

namespace Ledger

lemma remove_retain {ledger : Ledger} {key : OperationKey} {request result : Message}
    (h : ledger.operations[key]? = none) :
    (ledger.retain key request result).remove key = ledger := by
  simp only [retain, remove, erase_insert_of_none h]

lemma remove_begin {ledger : Ledger} {key : OperationKey} {request : Message}
    (h : ledger.operations[key]? = none) :
    (ledger.begin key request).remove key = ledger := by
  simp only [begin, remove, erase_insert_of_none h]

lemma setResult_observe_begin (ledger : Ledger) (observation : Observation) (key : OperationKey)
    (request result : Message) :
    ((ledger.begin key request).observe observation).setResult key result =
      (ledger.observe observation).retain key request result := by
  simp only [begin, observe, setResult, retain, modify_insert]
  rfl

lemma setResult_retain (ledger : Ledger) (key : OperationKey) (request first second : Message) :
    (ledger.retain key request first).setResult key second = ledger.retain key request second := by
  simp only [setResult, retain, modify_insert]
  rfl

end Ledger

/-! ### The outcomes -/

/-- The request of a submission, with or without a checkpoint. -/
def Call.submitted (call : Call) : Option Message :=
  match call.method with
  | .submitAction request | .submitActionWithCheckpoint request => some request
  | _ => none

/-- The request of a cancellation. -/
def Call.cancelled (call : Call) : Option Message :=
  match call.method with
  | .cancelBeforeDispatch request => some request
  | _ => none

/-- The request of a reconciliation. -/
def Call.reconciled (call : Call) : Option Message :=
  match call.method with
  | .reconcile request => some request
  | _ => none

/-- A request that the ledger admits under a new key. -/
structure Fresh (ledger : Ledger) (key : OperationKey) (request : Message) : Prop where
  admitted : Admitted ledger.binding key request
  absent : ledger.operations[key]? = none
  room : ledger.operations.size < ledger.config.operationCapacity

/-- The outcomes of a call on a valid ledger. -/
inductive Performed (ledger : Ledger) (call : Call) : Outcome → Prop
  /-- Nothing was asked and nothing changed. -/
  | refused (error : LedgerError) :
      Performed ledger call { answer := .error error, state := ledger, events := [] }
  /-- A duplicate submission or cancellation. -/
  | replayed {key : OperationKey} {operation : Operation} {result : Message}
      (correlationId : String) (hrow : ledger.operations[key]? = some operation)
      (hresult : operation.result = some result) :
      Performed ledger call
        { answer := .ok { result with correlationId }, state := ledger, events := [] }
  /-- A submission or cancellation that reuses a key with other semantics. -/
  | conflicted {response : Message} (hstatus : response.status = some .rejected) :
      Performed ledger call { answer := .ok response, state := ledger, events := [] }
  | cancelled {key : OperationKey} {request response : Message}
      (hcall : call.cancelled = some request) (hfresh : Fresh ledger key request)
      (hgen : request.generation = ledger.binding.observation.generation)
      (hstored : StoredResult ledger.binding.observation request response)
      (hstatus : response.status = some .cancelled) :
      Performed ledger call
        { answer := .ok response, state := ledger.retain key request response, events := [] }
  /-- Refused by the gateway before dispatch, and durably so. -/
  | rejected {key : OperationKey} {request response : Message}
      (hcall : call.submitted = some request) (hfresh : Fresh ledger key request)
      (hstored : StoredResult ledger.binding.observation request response)
      (hstatus : response.status = some .rejected) :
      Performed ledger call
        { answer := .ok response, state := ledger.retain key request response
          events := [.checkpoint (ledger.retain key request response) true] }
  /-- Refused before dispatch, but the refusal could not be made durable. -/
  | unrejected {key : OperationKey} {request response : Message}
      (hcall : call.submitted = some request) (hfresh : Fresh ledger key request)
      (hstored : StoredResult ledger.binding.observation request response)
      (hstatus : response.status = some .rejected) :
      Performed ledger call
        { answer := .error .persistenceFailed, state := ledger
          events := [.checkpoint (ledger.retain key request response) false] }
  /-- Not dispatched, because the first checkpoint failed. -/
  | undispatched {key : OperationKey} {request : Message}
      (hcall : call.submitted = some request) (hfresh : Fresh ledger key request)
      (hgen : request.generation = ledger.binding.observation.generation) :
      Performed ledger call
        { answer := .error .persistenceFailed, state := ledger
          events := [.checkpoint (ledger.begin key request) false] }
  /-- Forwarded once; `retained` is the downstream result, or `unknown` when the
  second checkpoint failed. -/
  | dispatched {key : OperationKey} {request result retained : Message} {observation : Observation}
      (answer : Except TransportFault Message) (ok : Bool)
      (hcall : call.submitted = some request) (hfresh : Fresh ledger key request)
      (hgen : request.generation = ledger.binding.observation.generation)
      (hlearned : Learned ledger.binding.observation request observation result)
      (hsettled : result.status = some .settled → answer = .ok result)
      (hretained : ok = true ∧ retained = result ∨
        ok = false ∧ retained.status = some .unknown ∧ StoredResult observation request retained) :
      Performed ledger call
        { answer := .ok retained
          state := (ledger.observe observation).retain key request retained
          events := [.checkpoint (ledger.begin key request) true, .forward request answer,
            .checkpoint ((ledger.observe observation).retain key request result) ok] }
  /-- A reconciliation that returns the result as it is stored. -/
  | unreconciled {key : OperationKey} {operation : Operation} {request result : Message}
      (events : List Event) (hrow : ledger.operations[key]? = some operation)
      (hresult : operation.result = some result)
      (hevents : events = [] ∨ ∃ receipt answer, events = [.receipt receipt answer]) :
      Performed ledger call
        { answer := .ok (asReconcileResponse result request), state := ledger, events }
  /-- A reconciliation whose receipt replaces an accepted or unknown result. -/
  | reconciled {key : OperationKey} {operation : Operation}
      {request receipt : Message} {observation : Observation} (lookup : ReceiptRequest)
      (hcall : call.reconciled = some request)
      (hrow : ledger.operations[key]? = some operation)
      (hsome : operation.result.isSome = true) (hopen : Unresolved operation.result)
      (hvalid : receipt.validate = .ok ()) (hlookup : lookup.message = request)
      (hcorrelation : receipt.correlationId = request.correlationId)
      (haccepts : acceptsReceipt operation.request (storedReceipt operation.request receipt) = true)
      (hlearned : Learned ledger.binding.observation operation.request observation
        (storedReceipt operation.request receipt)) :
      Performed ledger call
        { answer := .ok (asReconcileResponse (storedReceipt operation.request receipt) request)
          state := (ledger.observe observation).setResult key
            (storedReceipt operation.request receipt)
          events := [.receipt lookup (.ok (some receipt))] }
  /-- A state response advanced the observation. -/
  | observed {response : Message} {observation : Observation}
      (hstatus : response.status = none) (hvalid : observation.validate = .ok ())
      (hle : ledger.binding.observation.generation ≤ observation.generation) :
      Performed ledger call
        { answer := .ok response, state := ledger.observe observation, events := [] }

/-! ### Running the pieces -/

/-- A check refuses the call, or the call goes on with what the check found. -/
lemma performed_check {ledger : Ledger} {call : Call} {α : Type} {x : Except LedgerError α}
    {f : α → LedgerM Message}
    (h : ∀ a, x = .ok a → Performed ledger call (outcome (f a) ledger)) :
    Performed ledger call (outcome (liftM x >>= f) ledger) :=
  outcome_check .refused h

lemma persistenceUncertain_checked :
    (validateIdentity "sts2.runtime/persistence_uncertain").isOk = true :=
  ownCode_checked (by simp [ownCodes])

lemma cancelledBeforeDispatch_checked :
    (validateIdentity "sts2.runtime/cancelled_before_dispatch").isOk = true :=
  ownCode_checked (by simp [ownCodes])

lemma acceptStateResponseInner_performed {ledger : Ledger} {call : Call}
    {request response : Message} :
    Performed ledger call (outcome (acceptStateResponseInner request response) ledger) := by
  rw [acceptStateResponseInner, outcome_getState_bind]
  split_ifs with hrefuse
  · exact .refused _
  · push Not at hrefuse
    refine performed_check fun _ hcontext => ?_
    cases hobs : response.observation with
    | none => exact .refused _
    | some observation =>
      dsimp only
      split_ifs with hstale
      · exact .refused _
      · obtain ⟨-, -, hvalid, hkind, -⟩ := hrefuse
        have hc := validate_eq_ok.mp (isOk_eq_true.mp hvalid)
        have hstatus : response.status = none := by
          have hshape := hc.shape
          simp only [Message.shapeMatches, hkind, Bool.and_eq_true,
            Option.isNone_iff_eq_none] at hshape
          exact hshape.1.1.2
        exact .observed hstatus (hc.observation observation hobs) (not_lt.mp hstale)

section Operations

variable {ledger : Ledger} (hv : ledger.Valid) {call : Call} {key : OperationKey}
  {request : Message}
include hv

lemma rejectBeforeDispatch_performed (env : Environment) {errorCode : String}
    (hcode : (validateIdentity errorCode).isOk = true) (hcall : call.submitted = some request)
    (hfresh : Fresh ledger key request) :
    Performed ledger call
      (outcome (rejectBeforeDispatch env key request errorCode) ledger) := by
  obtain ⟨r, hr, hstored, hst, -⟩ := refusal_spec hfresh.admitted hv.observation (.inl rfl) hcode
  have hresponse :
      ledger.rejectedResponse request errorCode ledger.binding.observation = .ok r := hr
  rw [rejectBeforeDispatch, outcome_getState_bind, hresponse, outcome_liftM_bind]
  cases hok : env.checkpoint [] (ledger.retain key request r).persistedState with
  | true =>
    simpa [outcome, hok] using Performed.rejected hcall hfresh hstored hst
  | false =>
    simpa [outcome, hok, Ledger.remove_retain hfresh.absent] using
      Performed.unrejected hcall hfresh hstored hst

/-- The admitted request as the ledger sees it once it is retained. -/
lemma dispatch_performed (env : Environment) (hcall : call.submitted = some request)
    (hfresh : Fresh ledger key request)
    (hgen : request.generation = ledger.binding.observation.generation) :
    Performed ledger call (outcome (dispatch env key request) ledger) := by
  set begun := ledger.begin key request with hbegun
  have hadmitted : Admitted begun.binding key request := hfresh.admitted
  cases hok : env.checkpoint [] begun.persistedState with
  | false =>
    have hremoved : begun.remove key = ledger := Ledger.remove_begin hfresh.absent
    simpa [outcome, dispatch, ← hbegun, hok, hremoved] using
      Performed.undispatched hcall hfresh hgen
  | true =>
    obtain ⟨result, observation, hrun, hlearned, hsettled⟩ := resolveForwarded_run
      (s := { state := begun, events := [.checkpoint begun true,
        .forward request (env.forward [.checkpoint begun true] request)] })
      hadmitted hv.observation hgen (env.forward [.checkpoint begun true] request)
    set settled := (ledger.observe observation).retain key request result
    have hset : (begun.observe observation).setResult key result = settled :=
      Ledger.setResult_observe_begin ledger observation key request result
    -- the ledger answers `unknown` itself when the second checkpoint fails
    obtain ⟨uncertain, huncertain, hstored, hst, -⟩ := unknownResponse_spec
      (hfresh.admitted.congr
        (rfl : ledger.binding.toBindingIdentity = settled.binding.toBindingIdentity))
      persistenceUncertain_checked
    have hretained : (settled.setResult key uncertain) =
        (ledger.observe observation).retain key request uncertain :=
      Ledger.setResult_retain _ _ _ _ _
    have hunknown : settled.persistenceUncertainResponse request = .ok uncertain := huncertain
    cases hok2 : env.checkpoint [.checkpoint begun true,
        .forward request (env.forward [.checkpoint begun true] request)] settled.persistedState with
    | true =>
      simpa [outcome, dispatch, ← hbegun, hok, hrun, hset, hok2] using
        Performed.dispatched _ true hcall hfresh hgen hlearned hsettled (.inl ⟨rfl, rfl⟩)
    | false =>
      simpa [outcome, dispatch, ← hbegun, hok, hrun, hset, hok2, hunknown, hretained] using
        Performed.dispatched _ false hcall hfresh hgen hlearned hsettled
          (.inr ⟨rfl, hst, hstored observation⟩)

/-- A duplicate is replayed, a reuse with other semantics is answered as a conflict. -/
lemma replayOrConflict_performed (hadmitted : Admitted ledger.binding key request)
    {existing : Operation} (hrow : ledger.operations[key]? = some existing) :
    Performed ledger call
      (outcome (liftM (ledger.replayOrConflict existing request)) ledger) := by
  rw [outcome_liftM, Ledger.replayOrConflict]
  split_ifs
  · cases hresult : existing.result with
    | none => exact .refused _
    | some result => exact .replayed request.correlationId hrow hresult
  · obtain ⟨r, hr, -, hst, -⟩ :=
      refusal_spec hadmitted hv.observation (.inl rfl) idempotencyConflict_checked
    rw [hr]
    exact .conflicted hst

lemma submitActionInner_performed (env : Environment) (hcall : call.submitted = some request) :
    Performed ledger call (outcome (submitActionInner env request) ledger) := by
  rw [submitActionInner, outcome_getState_bind]
  refine performed_check fun _ hvalid => performed_check fun key hkey =>
    performed_check fun _ hcontext => ?_
  obtain ⟨hchecked, hkind⟩ := validateActionRequest_eq_ok.mp hvalid
  have hadmitted : Admitted ledger.binding key request :=
    ⟨hchecked, hkind, validateContext_eq_ok.mp hcontext, keyFor_eq_ok.mp hkey⟩
  cases hrow : ledger.operations[key]? with
  | some existing => exact replayOrConflict_performed hv hadmitted hrow
  | none =>
    dsimp only
    split_ifs with hfull hgen hready
    · exact .refused _
    · exact rejectBeforeDispatch_performed hv env (ownCode_checked (by simp [ownCodes])) hcall
        ⟨hadmitted, hrow, not_le.mp hfull⟩
    · -- the host is ready: the phase decides
      have hfresh : Fresh ledger key request := ⟨hadmitted, hrow, not_le.mp hfull⟩
      cases ledger.binding.observation.combatPhase with
      | outsideCombat =>
        exact rejectBeforeDispatch_performed hv env (ownCode_checked (by simp [ownCodes])) hcall
          hfresh
      | enemyTurn =>
        exact rejectBeforeDispatch_performed hv env (ownCode_checked (by simp [ownCodes])) hcall
          hfresh
      | playerTurn => exact dispatch_performed hv env hcall hfresh (not_not.mp hgen)
    · exact rejectBeforeDispatch_performed hv env (ownCode_checked (by simp [ownCodes])) hcall
        ⟨hadmitted, hrow, not_le.mp hfull⟩

lemma cancelBeforeDispatchInner_performed (hcall : call.cancelled = some request) :
    Performed ledger call (outcome (cancelBeforeDispatchInner request) ledger) := by
  rw [cancelBeforeDispatchInner, outcome_getState_bind]
  refine performed_check fun _ hvalid => performed_check fun key hkey =>
    performed_check fun _ hcontext => ?_
  obtain ⟨hchecked, hkind⟩ := validateActionRequest_eq_ok.mp hvalid
  have hadmitted : Admitted ledger.binding key request :=
    ⟨hchecked, hkind, validateContext_eq_ok.mp hcontext, keyFor_eq_ok.mp hkey⟩
  cases hrow : ledger.operations[key]? with
  | some existing => exact replayOrConflict_performed hv hadmitted hrow
  | none =>
    dsimp only
    split_ifs with hfull hgen
    · exact .refused _
    · exact .refused _
    · obtain ⟨r, hr, hstored, hst, -⟩ :=
        refusal_spec hadmitted hv.observation (.inr rfl) cancelledBeforeDispatch_checked
      rw [hr, outcome_liftM_bind]
      exact .cancelled hcall ⟨hadmitted, hrow, not_le.mp hfull⟩ (not_not.mp hgen) hstored hst

/-- A reconciliation reads at most one receipt and changes at most its own row. -/
lemma reconcileInner_performed (env : Environment) (hcall : call.reconciled = some request) :
    Performed ledger call (outcome (reconcileInner env request) ledger) := by
  rw [reconcileInner, outcome_getState_bind]
  refine performed_check fun _ hvalid => performed_check fun key hkey =>
    performed_check fun _ hcontext => ?_
  split_ifs with hgen
  · exact .refused _
  · cases hrow : ledger.operations[key]? with
    | none => exact .refused _
    | some operation =>
      dsimp only
      cases hresult : operation.result with
      | none => exact .refused _
      | some result =>
        dsimp only
        split_ifs with hterminal
        · exact .unreconciled [] hrow hresult (.inl rfl)
        · cases haction : operation.request.action with
          | none => exact .refused _
          | some action =>
            have hret := hv.rows key operation hrow
            have hopen : Unresolved operation.result := by
              rw [hresult]
              rintro _ ⟨⟩
              tauto
            dsimp only
            generalize hlookup : (⟨request, key, action⟩ : ReceiptRequest) = lookup
            cases hanswer : env.receipt [] lookup with
            | error fault =>
              simpa [outcome, hanswer] using
                Performed.unreconciled [.receipt lookup (.error fault)] hrow hresult
                  (.inr ⟨_, _, rfl⟩)
            | ok receipt =>
              cases receipt with
              | none =>
                simpa [outcome, hanswer] using
                  Performed.unreconciled [.receipt lookup (.ok none)] hrow hresult
                    (.inr ⟨_, _, rfl⟩)
              | some receipt =>
                -- the receipt is judged after it was read
                obtain hrun | ⟨observation, hrun, hlearned, hreceipt, hcorrelation, haccepts⟩ :=
                  acceptReceipt_run
                    (s := { state := ledger, events := [.receipt lookup (.ok (some receipt))] })
                    hret.admitted hv.observation (hret.unresolved hopen) request receipt
                · simpa [outcome, hanswer, hrun] using
                    Performed.unreconciled [.receipt lookup (.ok (some receipt))] hrow hresult
                      (.inr ⟨_, _, rfl⟩)
                · simpa [outcome, hanswer, hrun] using
                    Performed.reconciled lookup hcall hrow (by simp [hresult]) hopen hreceipt
                      (by rw [← hlookup]) hcorrelation haccepts hlearned

/-- **Every call** on a valid ledger has one of the listed outcomes. -/
theorem perform_cases (env : Environment) (call : Call) :
    Performed ledger call (ledger.perform env call) := by
  rw [Ledger.perform, Call.run, outcome_getState_bind]
  refine performed_check fun _ _ => ?_
  obtain ⟨authority, method⟩ := call
  cases method with
  | submitAction request => exact submitActionInner_performed hv _ rfl
  | submitActionWithCheckpoint request => exact submitActionInner_performed hv _ rfl
  | cancelBeforeDispatch request => exact cancelBeforeDispatchInner_performed hv rfl
  | reconcile request => exact reconcileInner_performed hv _ rfl
  | acceptStateResponse request response => exact acceptStateResponseInner_performed

end Operations

end Sts2Gateway.RuntimeV2
