/-
The invariant of the Runtime-v2 ledger and the results that keep it.

* `StoredResult`: what every stored result satisfies against its request and
  the observation it was stored under;
* `Retained`, `Ledger.Valid`: every row is restorable as it stands;
* `resultResponse_spec`: the ledger's own results never fail to validate;
* `acceptForwardedResponse_run`, `responseForTransportFault_run`,
  `acceptReceipt_run`: what the three acceptance paths return and learn.
-/
import Mathlib.Tactic
import Sts2Gateway.RuntimeV2.Ledger

namespace Sts2Gateway.RuntimeV2

open Procedure Exchange

/-! ### The invariant -/

/-- A result that may stand beside its request under an observation. -/
structure StoredResult (observation : Observation) (request result : Message) : Prop where
  matches_request : responseMatchesRequest request result = true
  checked : result.Checked
  kind : result.kind = .actionResponse
  observed : ∀ o ∈ result.observation, o.generation ≤ observation.generation
  settled : result.status = some .settled → request.generation < result.generation
  accepted : result.status = some .accepted → result.generation = request.generation

/-- A request that passed the checks of a binding. -/
structure Admitted (binding : Binding) (key : OperationKey) (request : Message) : Prop where
  checked : request.Checked
  kind : request.kind = .actionRequest
  context : binding.fenceFailure request = none
  key : request.operationKey = some key

/-- A result that a reconciliation may still replace. -/
def Unresolved (result : Option Message) : Prop :=
  ∀ r ∈ result, r.status = some .accepted ∨ r.status = some .unknown

/-- A retained row under its key. -/
structure Retained (binding : Binding) (key : OperationKey) (operation : Operation) : Prop where
  admitted : Admitted binding key operation.request
  data : operation = .retained operation.request operation.result
  result : ∀ r ∈ operation.result, StoredResult binding.observation operation.request r
  unresolved : Unresolved operation.result →
    operation.request.generation ≤ binding.observation.generation

/-- The invariant of a ledger between and inside calls. -/
structure Ledger.Valid (ledger : Ledger) : Prop where
  observation : ledger.binding.observation.validate = .ok ()
  capacity : ledger.operations.size ≤ ledger.config.operationCapacity
  rows : ∀ key operation, ledger.operations[key]? = some operation →
    Retained ledger.binding key operation

/-- A retained row with another result keeps its duplicate-check data. -/
lemma Retained.with_result {binding : Binding} {key : OperationKey} {operation : Operation}
    (h : Retained binding key operation) (result : Option Message) :
    { operation with result } = Operation.retained operation.request result := by
  have hdata := h.data
  rcases operation with ⟨digest, canonical, request, stored⟩
  simp only [Operation.retained, Operation.mk.injEq] at hdata ⊢
  exact ⟨hdata.1, hdata.2.1, trivial, trivial⟩

/-! ### Admission -/

lemma validateActionRequest_eq_ok {request : Message} :
    validateActionRequest request = .ok () ↔ request.Checked ∧ request.kind = .actionRequest := by
  simp [validateActionRequest, validate_eq_ok, and_comm]

lemma keyFor_eq_ok {request : Message} {key : OperationKey} :
    keyFor request = .ok key ↔ request.operationKey = some key := by
  unfold keyFor
  cases request.operationKey <;> simp

lemma validateContext_eq_ok {ledger : Ledger} {request : Message} :
    ledger.validateContext request = .ok () ↔ ledger.binding.fenceFailure request = none := by
  unfold Ledger.validateContext
  cases ledger.binding.fenceFailure request <;> simp

/-- The fence looks at the identity only. -/
lemma fenceFailure_congr {a b : Binding} (h : a.toBindingIdentity = b.toBindingIdentity)
    (request : Message) : a.fenceFailure request = b.fenceFailure request := by
  unfold Binding.fenceFailure
  rw [h]

lemma Admitted.congr {a b : Binding} (h : a.toBindingIdentity = b.toBindingIdentity)
    {key : OperationKey} {request : Message} (ha : Admitted a key request) :
    Admitted b key request :=
  ⟨ha.checked, ha.kind, (fenceFailure_congr h request) ▸ ha.context, ha.key⟩

/-- All ten fields agree. -/
lemma responseMatchesRequest_iff {request response : Message} :
    responseMatchesRequest request response = true ↔
      response.protocolVersion = request.protocolVersion ∧
        response.schemaDigest = request.schemaDigest ∧
        response.provenance = request.provenance ∧
        response.correlationId = request.correlationId ∧
        response.instanceId = request.instanceId ∧ response.sessionId = request.sessionId ∧
        response.leaseId = request.leaseId ∧ response.leaseEpoch = request.leaseEpoch ∧
        response.operationId = request.operationId ∧ response.action = request.action := by
  simp [responseMatchesRequest, and_assoc]

/-! ### The ledger's own results -/

def ownCodes : List String :=
  ["sts2.runtime/unknown_after_disconnect", "sts2.runtime/downstream_unavailable",
    "sts2.runtime/downstream_rejected", "sts2.runtime/timeout_before_write",
    "sts2.runtime/disconnected_before_write", "sts2.runtime/persistence_uncertain",
    "idempotency_conflict", "sts2.runtime/cancelled_before_dispatch",
    "sts2.game-core/stale_generation", "sts2.runtime/host_not_ready",
    "sts2.game-core/outside_combat", "sts2.game-core/not_player_turn"]

lemma ownCodes_checked : ownCodes.all (fun code => (validateIdentity code).isOk) = true := by
  decide +kernel

/-- The codes pass the check that they are stored under. -/
lemma ownCode_checked {code : String} (h : code ∈ ownCodes) :
    (validateIdentity code).isOk = true := List.all_eq_true.mp ownCodes_checked code h

lemma disconnect_checked :
    (validateIdentity "sts2.runtime/unknown_after_disconnect").isOk = true :=
  ownCode_checked (by simp [ownCodes])

lemma idempotencyConflict_checked : (validateIdentity "idempotency_conflict").isOk = true :=
  ownCode_checked (by simp [ownCodes])

/-- **The ledger's own results never fail to validate**: a refusal with a checked
observation, or an `unknown` without one. -/
lemma resultResponse_spec {ledger : Ledger} {key : OperationKey} {request : Message}
    (ha : Admitted ledger.binding key request) {status : Status} {observation : Option Observation}
    {code : String} (hcode : validateIdentity code = .ok ())
    (hobs : ∀ o ∈ observation, o.validate = .ok ())
    (hshape : status = .unknown ∧ observation = none ∨
      (status = .rejected ∨ status = .cancelled) ∧ observation.isSome = true) :
    ∃ r, ledger.resultResponse request status observation (some code) none .actionResponse = .ok r ∧
      responseMatchesRequest request r = true ∧ r.Checked ∧ r.kind = .actionResponse ∧
      r.status = some status ∧ r.observation = observation ∧ r.errorCode = some code := by
  obtain ⟨id, action, hid, haction, -⟩ := ha.checked.fields_of_actionRequest ha.kind
  obtain ⟨hinst, hsess, hlease, hepoch⟩ := Binding.fenceFailure_eq_none.mp ha.context
  have hmeta := metadata_validate_eq_ok.mp ledger.binding.metadataChecked
  let r := Message.result ledger.binding.metadata request.correlationId ledger.binding.instanceId
    ledger.binding.sessionId ledger.binding.leaseId ledger.binding.leaseEpoch
    (observation.elim request.generation (·.generation)) id action status observation (some code)
    none .actionResponse
  have hgen : r.generation ≤ maxGeneration := by
    cases observation with
    | none => exact ha.checked.generation
    | some o =>
      have ho := hobs o rfl
      simp only [Observation.validate, except_bind_eq_ok, refuse_eq_ok, not_lt,
        exists_const] at ho
      exact ho.2
  have hchecked : r.Checked := {
    protocolVersion := congrArg (·.protocolVersion) hmeta
    schemaDigest := congrArg (·.schemaDigest) hmeta
    provenance := congrArg (·.provenance) hmeta
    correlationId := ha.checked.correlationId
    instanceId := ledger.binding.instanceChecked
    sessionId := ledger.binding.sessionChecked
    leaseId := ledger.binding.leaseChecked
    leaseEpoch := ledger.binding.epochBound
    generation := hgen
    operationId := by
      rintro _ ⟨⟩
      exact ha.checked.operationId id hid
    observation := hobs
    action := by
      rintro _ ⟨⟩
      exact ha.checked.action action haction
    errorCode := by
      rintro _ ⟨⟩
      exact hcode
    effectWitness := by rintro _ ⟨⟩
    shape := by
      rcases hshape with ⟨rfl, rfl⟩ | ⟨rfl | rfl, hsome⟩
      · rfl
      all_goals
        obtain ⟨o, rfl⟩ := Option.isSome_iff_exists.mp hsome
        simp [r, Message.shapeMatches, Message.resultFieldsMatchStatus, Message.result,
          Message.observationGenerationMatches] }
  refine ⟨r, ?_, ?_, hchecked, rfl, rfl, rfl, rfl⟩
  · rw [Ledger.resultResponse, hid, haction]
    have hvalid := validate_eq_ok.mpr hchecked
    simp only [r] at hvalid
    simp only [hvalid, Except.mapError]
    rfl
  · rw [responseMatchesRequest_iff]
    refine ⟨?_, ?_, ?_, rfl, hinst.symm, hsess.symm, hlease.symm, hepoch.symm, hid.symm,
      haction.symm⟩
    · rw [ha.checked.protocolVersion]
      exact congrArg (·.protocolVersion) hmeta
    · rw [ha.checked.schemaDigest]
      exact congrArg (·.schemaDigest) hmeta
    · rw [ha.checked.provenance]
      exact congrArg (·.provenance) hmeta

/-- A refusal under the current observation may be stored. -/
lemma refusal_spec {ledger : Ledger} {key : OperationKey} {request : Message}
    (ha : Admitted ledger.binding key request)
    (hv : ledger.binding.observation.validate = .ok ()) {status : Status}
    (hstatus : status = .rejected ∨ status = .cancelled) {code : String}
    (hcode : (validateIdentity code).isOk = true) :
    ∃ r, ledger.resultResponse request status (some ledger.binding.observation) (some code) none
        .actionResponse = .ok r ∧
      StoredResult ledger.binding.observation request r ∧ r.status = some status ∧
      r.errorCode = some code := by
  have hcurrent : ∀ o ∈ some ledger.binding.observation, o.validate = .ok () := by
    rintro _ ⟨⟩
    exact hv
  obtain ⟨r, hr, hmatch, hchecked, hkind, hst, hobs, herr⟩ :=
    resultResponse_spec ha (isOk_eq_true.mp hcode) hcurrent (.inr ⟨hstatus, rfl⟩)
  refine ⟨r, hr, ⟨hmatch, hchecked, hkind, ?_, ?_, ?_⟩, hst, herr⟩
  · rw [hobs]
    rintro _ ⟨⟩
    exact le_rfl
  all_goals
    rw [hst]
    rintro ⟨⟩
    simp at hstatus

/-- An `unknown` result may be stored under any observation. -/
lemma unknownResponse_spec {ledger : Ledger} {key : OperationKey} {request : Message}
    (ha : Admitted ledger.binding key request) {code : String}
    (hcode : (validateIdentity code).isOk = true) :
    ∃ r, ledger.unknownResponse request code = .ok r ∧
      (∀ observation, StoredResult observation request r) ∧ r.status = some .unknown ∧
      r.errorCode = some code := by
  obtain ⟨r, hr, hmatch, hchecked, hkind, hst, hobs, herr⟩ :=
    resultResponse_spec ha (isOk_eq_true.mp hcode) (by simp) (.inl ⟨rfl, rfl⟩)
  refine ⟨r, hr, fun observation => ⟨hmatch, hchecked, hkind, ?_, ?_, ?_⟩, hst, herr⟩
  · rw [hobs]
    rintro _ ⟨⟩
  all_goals
    rw [hst]
    rintro ⟨⟩

/-! ### The acceptance paths -/

/-- What a call may learn from downstream: an observation that does not go back
and a result that may stand under it. -/
structure Learned (known : Observation) (request : Message) (observation : Observation)
    (result : Message) : Prop where
  checked : observation.validate = .ok ()
  advances : known.generation ≤ observation.generation
  stored : StoredResult observation request result

/-- A stored result that leaves the observation alone. -/
lemma Learned.of_stored {known : Observation} {request result : Message}
    (hv : known.validate = .ok ()) (h : StoredResult known request result) :
    Learned known request known result :=
  ⟨hv, le_rfl, h⟩

/-- A transport fault is answered by the ledger itself. -/
lemma responseForTransportFault_run {s : CallState} {key : OperationKey} {request : Message}
    (ha : Admitted s.state.binding key request)
    (hv : s.state.binding.observation.validate = .ok ()) (fault : TransportFault) :
    ∃ result, (responseForTransportFault request fault).run s = .ok result s ∧
      Learned s.state.binding.observation request s.state.binding.observation result ∧
      (result.status = some .rejected ∨ result.status = some .unknown) := by
  have hrejected : ∀ code, (validateIdentity code).isOk = true → ∃ result,
      s.state.rejectedResponse request code s.state.binding.observation = .ok result ∧
        Learned s.state.binding.observation request s.state.binding.observation result ∧
        (result.status = some .rejected ∨ result.status = some .unknown) := by
    intro code hcode
    obtain ⟨r, hr, hstored, hst, -⟩ := refusal_spec ha hv (.inl rfl) hcode
    exact ⟨r, hr, .of_stored hv hstored, .inl hst⟩
  have hunknown : ∃ result, s.state.unknownAfterDisconnect request = .ok result ∧
      Learned s.state.binding.observation request s.state.binding.observation result ∧
      (result.status = some .rejected ∨ result.status = some .unknown) := by
    obtain ⟨r, hr, hstored, hst, -⟩ := unknownResponse_spec ha disconnect_checked
    exact ⟨r, hr, .of_stored hv (hstored _), .inr hst⟩
  have hrun : ∀ x : Except LedgerError Message, (∃ result, x = .ok result ∧
      Learned s.state.binding.observation request s.state.binding.observation result ∧
      (result.status = some .rejected ∨ result.status = some .unknown)) →
      ∃ result, (liftM x : LedgerM Message).run s = .ok result s ∧
        Learned s.state.binding.observation request s.state.binding.observation result ∧
        (result.status = some .rejected ∨ result.status = some .unknown) := by
    rintro x ⟨result, rfl, h⟩
    exact ⟨result, rfl, h⟩
  cases fault with
  | unavailableBeforeWrite => exact hrun _ (hrejected _ (ownCode_checked (by simp [ownCodes])))
  | rejectedBeforeWrite => exact hrun _ (hrejected _ (ownCode_checked (by simp [ownCodes])))
  | timeoutBeforeWrite => exact hrun _ (hrejected _ (ownCode_checked (by simp [ownCodes])))
  | disconnectedBeforeWrite => exact hrun _ (hrejected _ (ownCode_checked (by simp [ownCodes])))
  | timeoutAfterWrite => exact hrun _ hunknown
  | disconnectedAfterWrite => exact hrun _ hunknown
  | malformedResponse => exact hrun _ hunknown
  | receiptUnavailable => exact hrun _ hunknown

/-- A checked message's observation is in bounds. -/
lemma observed_settled {request response : Message} {o : Observation} (hc : response.Checked)
    (hmatch : responseMatchesRequest request response = true)
    (hkind : response.kind = .actionResponse) (hstatus : response.status = some .settled)
    (ho : response.observation = some o) (hfresh : request.generation < o.generation) :
    StoredResult o request response := by
  obtain ⟨o', ho', hgen⟩ := hc.observation_of_result hkind (by simp [hstatus])
  obtain rfl : o = o' := Option.some.inj (ho.symm.trans ho')
  refine ⟨hmatch, hc, hkind, ?_, fun _ => hgen ▸ hfresh, fun h => ?_⟩
  · rw [ho]
    rintro _ ⟨⟩
    exact le_rfl
  · rw [hstatus] at h
    cases h

/-- An answer that is not settled may stand under the current observation when
its own is not ahead. -/
lemma observed_unsettled {observation o : Observation} {request response : Message}
    (hc : response.Checked) (hmatch : responseMatchesRequest request response = true)
    (hkind : response.kind = .actionResponse) (hstatus : response.status ≠ some .settled)
    (ho : response.observation = some o) (hle : o.generation ≤ observation.generation)
    (haccepted : response.status = some .accepted → o.generation = request.generation) :
    StoredResult observation request response := by
  refine ⟨hmatch, hc, hkind, ?_, fun h => absurd h hstatus, fun h => ?_⟩
  · rw [ho]
    rintro _ ⟨⟩
    exact hle
  · obtain ⟨o', ho', hgen⟩ := hc.observation_of_result hkind (by simp [h])
    obtain rfl : o = o' := Option.some.inj (ho.symm.trans ho')
    rw [← hgen, haccepted h]

/-- **A forwarded answer** is kept, with the observation it settles, or turned
into `unknown`; a settled result is the downstream message itself. -/
lemma acceptForwardedResponse_run {s : CallState} {key : OperationKey} {request : Message}
    (ha : Admitted s.state.binding key request)
    (hv : s.state.binding.observation.validate = .ok ())
    (hgen : request.generation = s.state.binding.observation.generation) (response : Message) :
    ∃ result observation, (acceptForwardedResponse request response).run s =
        .ok result { s with state := s.state.observe observation } ∧
      Learned s.state.binding.observation request observation result ∧
      (result.status = some .settled → result = response) := by
  by_cases hrefuse : ¬ responseMatchesRequest request response ∨ ¬ response.validate.isOk ∨
      response.kind ≠ .actionResponse ∨ ¬ acceptsForwarded s.state request response
  · obtain ⟨r, hr, hstored, hst, -⟩ := unknownResponse_spec ha disconnect_checked
    refine ⟨r, s.state.binding.observation, ?_, .of_stored hv (hstored _), ?_⟩
    · simp only [acceptForwardedResponse, EStateM.run_bind, run_getState]
      rw [if_pos hrefuse, run_liftM, Ledger.unknownAfterDisconnect, hr]
      rfl
    · rw [hst]
      rintro ⟨⟩
  · have hkeep := hrefuse
    push Not at hkeep
    obtain ⟨hmatch, hvalid, hkind, haccept⟩ := hkeep
    have hc := validate_eq_ok.mp (isOk_eq_true.mp hvalid)
    have hrun : (acceptForwardedResponse request response).run s =
        .ok response { s with state := s.state.learnForwarded response } := by
      simp only [acceptForwardedResponse, EStateM.run_bind, run_getState]
      rw [if_neg hrefuse]
      rfl
    rw [hrun]
    -- the statuses that are kept leave the observation alone, except `settled`
    cases hst : response.status with
    | none => simp [acceptsForwarded, hst] at haccept
    | some status =>
      cases status with
      | settled =>
        simp only [acceptsForwarded, hst, Bool.and_eq_true, Option.any_eq_true,
          decide_eq_true_eq] at haccept
        obtain ⟨⟨o, ho, hfresh⟩, -⟩ := haccept
        refine ⟨response, o, ?_, ⟨hc.observation o ho, ?_, ?_⟩, fun _ => rfl⟩
        · simp [Ledger.learnForwarded, hst, ho]
        · exact (hgen ▸ hfresh).le
        · exact observed_settled hc hmatch hkind hst ho hfresh
      | accepted =>
        simp only [acceptsForwarded, hst, Bool.and_eq_true, Option.any_eq_true,
          decide_eq_true_eq] at haccept
        obtain ⟨⟨⟨o, ho, hogen, hsame⟩, -⟩, -⟩ := haccept
        refine ⟨response, s.state.binding.observation,
          by simp [Ledger.learnForwarded, hst], .of_stored hv
          (observed_unsettled hc hmatch hkind (by simp [hst]) ho (hsame ▸ le_rfl) fun _ => hogen),
          fun _ => rfl⟩
      | rejected =>
        simp only [acceptsForwarded, hst, Bool.and_eq_true, Option.any_eq_true,
          decide_eq_true_eq] at haccept
        obtain ⟨⟨⟨o, ho, hsame⟩, -⟩, -⟩ := haccept
        exact ⟨response, s.state.binding.observation,
          by simp [Ledger.learnForwarded, hst], .of_stored hv
          (observed_unsettled hc hmatch hkind (by simp [hst]) ho hsame.le (by simp [hst])),
          fun _ => rfl⟩
      | unknown => simp [acceptsForwarded, hst] at haccept
      | cancelled => simp [acceptsForwarded, hst] at haccept

/-- **A dispatch** ends in a result that may be retained, whatever was answered. -/
lemma resolveForwarded_run {s : CallState} {key : OperationKey} {request : Message}
    (ha : Admitted s.state.binding key request)
    (hv : s.state.binding.observation.validate = .ok ())
    (hgen : request.generation = s.state.binding.observation.generation)
    (answer : Except TransportFault Message) :
    ∃ result observation, (resolveForwarded request answer).run s =
        .ok result { s with state := s.state.observe observation } ∧
      Learned s.state.binding.observation request observation result ∧
      (result.status = some .settled → answer = .ok result) := by
  cases answer with
  | ok response =>
    obtain ⟨result, observation, hrun, hlearned, hsettled⟩ :=
      acceptForwardedResponse_run ha hv hgen response
    exact ⟨result, observation, hrun, hlearned, fun h => congrArg _ (hsettled h).symm⟩
  | error fault =>
    obtain ⟨result, hrun, hlearned, hst⟩ := responseForTransportFault_run ha hv fault
    refine ⟨result, s.state.binding.observation, hrun, hlearned, fun h => ?_⟩
    rw [h] at hst
    simp at hst

/-- What an accepted receipt teaches the ledger. -/
lemma learnReceipt_spec {ledger : Ledger} {request receipt stored : Message}
    (hv : ledger.binding.observation.validate = .ok ())
    (hgen : request.generation ≤ ledger.binding.observation.generation)
    (hc : stored.Checked) (hmatch : responseMatchesRequest request stored = true)
    (hkind : stored.kind = .actionResponse) (hstatus : stored.status = receipt.status)
    (hobs : stored.observation = receipt.observation)
    (haccept : acceptsReceipt request stored = true) :
    ∃ observation, ledger.learnReceipt receipt = ledger.observe observation ∧
      Learned ledger.binding.observation request observation stored := by
  have hsame : ∀ o, stored.status ≠ some .settled → stored.observation = some o →
      o.generation = request.generation →
      ledger.learnReceipt receipt = ledger.observe ledger.binding.observation ∧
        Learned ledger.binding.observation request ledger.binding.observation stored := by
    intro o hst ho hogen
    refine ⟨?_, .of_stored hv (observed_unsettled hc hmatch hkind hst ho (hogen ▸ hgen)
      fun _ => hogen)⟩
    rw [hstatus] at hst
    unfold Ledger.learnReceipt
    split
    · rename_i h _
      exact absurd h hst
    · rfl
  unfold acceptsReceipt at haccept
  split at haccept
  · rename_i hst
    simp only [Bool.and_eq_true, Option.any_eq_true, decide_eq_true_eq] at haccept
    obtain ⟨⟨o, ho, hfresh⟩, -⟩ := haccept
    have hlearn : ledger.learnReceipt receipt =
        if ledger.binding.observation.generation < o.generation then ledger.observe o
        else ledger := by
      simp [Ledger.learnReceipt, ← hstatus, hst, ← hobs, ho]
    have hstored := observed_settled hc hmatch hkind hst ho hfresh
    by_cases hahead : ledger.binding.observation.generation < o.generation
    · refine ⟨o, by rw [hlearn, if_pos hahead], hc.observation o ho, hahead.le, hstored⟩
    · -- the gateway already knows a later observation and keeps it
      refine ⟨ledger.binding.observation, by rw [hlearn, if_neg hahead, Ledger.observe_self], hv,
        le_rfl, { hstored with observed := ?_ }⟩
      rw [ho]
      rintro _ ⟨⟩
      exact not_lt.mp hahead
  · rename_i hst
    simp only [Option.any_eq_true, decide_eq_true_eq] at haccept
    obtain ⟨o, ho, hogen⟩ := haccept
    exact ⟨_, hsame o (by simp [hst]) ho hogen⟩
  · rename_i hst
    simp only [Option.any_eq_true, decide_eq_true_eq] at haccept
    obtain ⟨o, ho, hogen⟩ := haccept
    exact ⟨_, hsame o (by simp [hst]) ho hogen⟩
  · cases haccept

/-- **A receipt** is refused without a trace, or kept under the original
correlation with the observation it settles. -/
lemma acceptReceipt_run {s : CallState} {key : OperationKey} {request : Message}
    (ha : Admitted s.state.binding key request)
    (hv : s.state.binding.observation.validate = .ok ())
    (hgen : request.generation ≤ s.state.binding.observation.generation)
    (reconcileRequest receipt : Message) :
    (acceptReceipt request reconcileRequest receipt).run s = .ok none s ∨
      ∃ observation, (acceptReceipt request reconcileRequest receipt).run s =
          .ok (some (storedReceipt request receipt))
            { s with state := s.state.observe observation } ∧
        Learned s.state.binding.observation request observation (storedReceipt request receipt) ∧
        receipt.validate = .ok () ∧ receipt.correlationId = reconcileRequest.correlationId ∧
        acceptsReceipt request (storedReceipt request receipt) = true := by
  by_cases hrefuse : receipt.correlationId ≠ reconcileRequest.correlationId ∨
      ¬ responseMatchesRequest request (storedReceipt request receipt) ∨
      ¬ receipt.validate.isOk ∨ receipt.kind ≠ .actionResponse ∨
      ¬ acceptsReceipt request (storedReceipt request receipt)
  · left
    rw [acceptReceipt]
    exact congrArg (fun p : LedgerM (Option Message) => p.run s) (if_pos hrefuse)
  · right
    have hrun : (acceptReceipt request reconcileRequest receipt).run s =
        .ok (some (storedReceipt request receipt))
          { s with state := s.state.learnReceipt receipt } := by
      rw [acceptReceipt]
      exact congrArg (fun p : LedgerM (Option Message) => p.run s) (if_neg hrefuse)
    push Not at hrefuse
    obtain ⟨hcorr, hmatch, hvalid, hkind, haccept⟩ := hrefuse
    have hvalid := isOk_eq_true.mp hvalid
    have hc : (storedReceipt request receipt).Checked :=
      (validate_eq_ok.mp hvalid).with_correlationId ha.checked.correlationId
    have hstatus : (storedReceipt request receipt).status = receipt.status := rfl
    obtain ⟨observation, hlearn, hlearned⟩ :=
      learnReceipt_spec hv hgen hc hmatch hkind hstatus rfl haccept
    exact ⟨observation, by rw [hrun, hlearn], hlearned, hvalid, hcorr, haccept⟩

end Sts2Gateway.RuntimeV2
