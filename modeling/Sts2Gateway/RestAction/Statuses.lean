/-
The statuses of the retained operations.

* `reportedGeneration`, `IsAnswerTo`: the operation that an answer is about;
* `isAnswerTo_of_checkResponse`: **an accepted answer is about the operation that was asked
  for**;
* `status_step`: one step of a run, seen by a retained operation;
* `status_follows_answers`: **the status of a retained operation is that of the last answer
  about it that was accepted**;
* `rejected_becomes_active`: a replay of a rejected operation may be answered as accepted.
-/
import Mathlib.Tactic
import Sts2Gateway.RestAction.Channel

namespace Sts2Gateway.RestAction

open CompactJson Procedure Service
open Std (ExtTreeMap)

/-! ### Answers -/

/-- The generation that an operation was asked for at, as its answer reports it. -/
def reportedGeneration (value : Json) : Option ℕ :=
  if (value.get "status").asStr = some "settled" then
    ((value.get "transition").get "before_generation").asU64
  else (value.get "generation").asU64

/-- An answer about an operation, with the request that it answers: a dispatch of the
operation, or its reconciliation. -/
structure IsAnswerTo (operationId : String) (binding : OperationBinding) (exchange : Exchange)
    (value : Json) : Prop where
  operation : (value.get "operation_id").asStr = some operationId
  lease : headersMatch value exchange.headers = true
  dispatched : exchange.route = .dispatch →
    (exchange.envelope.get "operation_id").asStr = some operationId ∧
      value.get "action" = exchange.envelope.get "action" ∧
      reportedGeneration value = (exchange.envelope.get "generation").asU64
  reconciled : ∀ id, exchange.route = .reconcile id →
    id = operationId ∧ value.get "action" = binding.action ∧
      reportedGeneration value = some binding.generation ∧
      SelectorLifecycle.fromValue value = some binding.lifecycle

lemma asU64_eq_some {value : Json} {n : ℕ} :
    value.asU64 = some n ↔ value = .num n ∧ n < 2 ^ 64 := by
  cases value with
  | num m =>
    simp only [Json.asU64, Json.num.injEq, Option.ite_none_right_eq_some, Option.some.injEq]
    constructor
    · rintro ⟨hlt, rfl⟩
      exact ⟨rfl, hlt⟩
    · rintro ⟨rfl, hlt⟩
      exact ⟨hlt, rfl⟩
  | null | bool | str | arr | obj => simp [Json.asU64]

/-- A dispatch is asked with an envelope. -/
lemma not_isNull_of_operation {request : Json} {operationId : String}
    (h : (request.get "operation_id").asStr = some operationId) : request.isNull = false := by
  cases request with
  | null => simp [Json.get, Json.asStr] at h
  | bool | num | str | arr | obj => rfl

section Schema

variable [RestActionSchema]

/-- An answer has one of the five statuses. -/
lemma fromResponse_of_responseValid {value request : Json} {routeOperation : Option String}
    {statusCode : UInt16} {admissions : Admissions}
    (h : responseValid value request routeOperation statusCode admissions = true) :
    ∃ status, OperationStatus.fromResponse value = some status := by
  obtain ⟨status, hstatus, hchecks⟩ := (Option.any_eq_true _ _).mp h
  have hbody := (Bool.and_eq_true_iff.mp hchecks).2
  rw [OperationStatus.fromResponse, hstatus]
  split at hbody
  · exact ⟨.accepted, rfl⟩
  · exact ⟨.settled, rfl⟩
  · exact ⟨.rejected, rfl⟩
  · exact ⟨.unknown, rfl⟩
  · exact ⟨.cancelled, rfl⟩
  · cases hbody

omit [RestActionSchema] in
/-- A settled answer is about the generation before its transition. -/
lemma generation_of_transitionGenerations {transition value request : Json}
    (h : transitionGenerations transition value request = true)
    (hrequest : request.isNull = false) :
    (transition.get "before_generation").asU64 = (request.get "generation").asU64 := by
  obtain ⟨_, hchain⟩ := Option.isSome_iff_exists.mp h
  simp only [Option.bind_eq_bind, Option.bind_eq_some_iff, Option.guard_eq_some'] at hchain
  obtain ⟨before, hbefore, _, _, _, _, _, _, hsame⟩ := hchain
  rcases hsame with hnull | hsame
  · rw [hrequest] at hnull
    cases hnull
  · rw [hbefore, hsame]

/-- An answer to a dispatch is about the generation of the dispatch. -/
lemma reportedGeneration_of_responseValid {value request : Json} {routeOperation : Option String}
    {statusCode : UInt16} {admissions : Admissions}
    (h : responseValid value request routeOperation statusCode admissions = true)
    (hrequest : request.isNull = false) :
    reportedGeneration value = (request.get "generation").asU64 := by
  obtain ⟨status, hstatus, hchecks⟩ := (Option.any_eq_true _ _).mp h
  simp only [Bool.and_eq_true] at hchecks
  obtain ⟨⟨⟨⟨-, -⟩, -⟩, hshape⟩, hbody⟩ := hchecks
  rw [reportedGeneration, hstatus]
  by_cases hsettled : status = "settled"
  · subst hsettled
    rw [if_pos rfl]
    have hevidence : settledEvidence value request = true := (Bool.and_eq_true_iff.mp hbody).1
    simp only [settledEvidence, Bool.and_eq_true] at hevidence
    exact generation_of_transitionGenerations hevidence.1.2 hrequest
  · rw [if_neg (by simpa using hsettled)]
    obtain ⟨generation, hgeneration, hsame⟩ := (Option.any_eq_true _ _).mp hshape
    simp only [Bool.and_eq_true, Bool.or_eq_true, decide_eq_true_eq, hsettled, hrequest,
      false_or, Bool.false_eq_true] at hsame
    rw [hsame.2]

omit [RestActionSchema] in
/-- An answer to a reconciliation is about the operation as it was retained. -/
lemma reconciled_of_bindingValid {forwarder : Forwarder} {operationId : String} {value : Json}
    {binding : OperationBinding}
    (h : forwarder.reconciliationBindingValid (.reconcile operationId) value = true)
    (hbinding : forwarder.operationBindings[operationId]? = some binding) :
    reportedGeneration value = some binding.generation ∧
      SelectorLifecycle.fromValue value = some binding.lifecycle := by
  rw [Forwarder.reconciliationBindingValid, hbinding] at h
  simp only [Option.any_some, Bool.and_eq_true, decide_eq_true_eq] at h
  obtain ⟨⟨⟨⟨hinstance, hsession⟩, hlease⟩, hepoch⟩, hstatus⟩ := h
  constructor
  · rw [reportedGeneration]
    split at hstatus
    next hsettled =>
      rw [if_pos hsettled]
      exact of_decide_eq_true hstatus
    all_goals first
      | cases hstatus
      | next hopen =>
        rw [if_neg (by simp [hopen])]
        exact of_decide_eq_true (Bool.and_eq_true_iff.mp hstatus).1
  · simp [SelectorLifecycle.fromValue, hinstance, hsession, hlease, hepoch,
      OperationBinding.lifecycle]

/-- **An accepted answer is about the operation that was asked for.** -/
theorem isAnswerTo_of_checkResponse {forwarder : Forwarder} {exchange : Exchange}
    {operationId : String} {binding : OperationBinding} {statusCode : UInt16} {body : Body}
    {value : Json} (hforwarded : exchange.WellFormed)
    (hoperation : operationOf exchange.route exchange.envelope = some operationId)
    (hbinding : forwarder.operationBindings[operationId]? = some binding)
    (h : forwarder.checkResponse exchange.route exchange.envelope exchange.headers statusCode
      body = .ok value) :
    IsAnswerTo operationId binding exchange value ∧
      ∃ status, OperationStatus.fromResponse value = some status := by
  obtain ⟨route, envelope, headers⟩ := exchange
  simp only [Forwarder.checkResponse, except_bind_eq_ok, refuse_eq_ok, not_or, not_not] at h
  obtain ⟨_, _, other, _, _, ⟨hidentity, _, hresponse, hreconciled⟩, hpure⟩ := h
  obtain rfl : other = value := Except.ok.inj hpure
  simp only [responseIdentityValid, Bool.and_eq_true] at hidentity
  obtain ⟨⟨⟨⟨⟨-, hlease⟩, -⟩, -⟩, hnamed⟩, hany⟩ := hidentity
  rw [hoperation] at hnamed
  have hnamed : (other.get "operation_id").asStr = some operationId := by simpa using hnamed
  obtain ⟨action, hexpected, haction⟩ := (Option.any_eq_true _ _).mp hany
  have haction : other.get "action" = action := of_decide_eq_true haction
  refine ⟨⟨hnamed, hlease, ?_, ?_⟩, fromResponse_of_responseValid hresponse⟩
  · rintro ⟨⟩
    have hrequested : (envelope.get "operation_id").asStr = some operationId := hoperation
    have hrequest := not_isNull_of_operation hrequested
    refine ⟨hrequested, ?_, reportedGeneration_of_responseValid hresponse hrequest⟩
    have hobject : (envelope.get "action").object = some action := by
      simpa [Forwarder.expectedAction, Route.operationId] using hexpected
    rw [haction]
    cases henvelope : envelope.get "action" with
    | obj members =>
      rw [henvelope] at hobject
      exact (Option.some.inj hobject).symm
    | null | bool | num | str | arr => simp [henvelope, Json.object] at hobject
  · rintro id ⟨⟩
    obtain rfl : envelope = .null := hforwarded
    obtain rfl : id = operationId := Option.some.inj hoperation
    have hexpected : some binding.action = some action := by
      simpa [Forwarder.expectedAction, Route.operationId, hbinding, Json.get, Json.object]
        using hexpected
    rw [haction, Option.some.inj hexpected]
    exact ⟨rfl, rfl, reconciled_of_bindingValid hreconciled hbinding⟩

/-! ### One step -/

omit [RestActionSchema] in
/-- The request of an operation is the same, up to its status. -/
lemma IsAnswerTo.congr {operationId : String} {binding later : OperationBinding}
    {exchange : Exchange} {value : Json} {status : OperationStatus}
    (h : IsAnswerTo operationId later exchange value)
    (hsame : later.core = { binding.core with status }) :
    IsAnswerTo operationId binding exchange value := by
  have haction : later.action = binding.action := by
    show later.core.action = binding.core.action
    rw [hsame]
  have hgeneration : later.generation = binding.generation := by
    show later.core.generation = binding.core.generation
    rw [hsame]
  have hlifecycle : later.lifecycle = binding.lifecycle := by
    show later.core.lifecycle = binding.core.lifecycle
    rw [hsame]
    rfl
  refine ⟨h.operation, h.lease, h.dispatched, fun id hroute => ?_⟩
  rw [← haction, ← hgeneration, ← hlifecycle]
  exact h.reconciled id hroute

namespace Channel

variable {channel : Channel} {operationId : String} {binding after : OperationBinding}

/-- An input that brings no answer about an operation leaves its request and its status. -/
lemma core_step_of_none (hbefore : channel.forwarder.operationBindings[operationId]? = some binding)
    {input : Input} (hanswer : channel.acceptedAnswer operationId input = none)
    (hafter : (channel.step input).forwarder.operationBindings[operationId]? = some after) :
    after.core = binding.core := by
  cases input with
  | request route request =>
    have hretains := Forwarder.lookup_validateRequest channel.forwarder route request operationId
    have hsame : (channel.step (.request route request)).forwarder =
        (channel.forwarder.validateRequest route request).2 := by
      rw [step]
      split <;> simp [*]
    rw [hsame] at hafter
    obtain ⟨-, hsame | ⟨_, _, -, -, -, hretains⟩⟩ := hretains
    · rw [hsame, hbefore] at hafter
      rw [Option.some.inj hafter]
    rw [hafter, hbefore] at hretains
    rcases hretains with hsame | ⟨hnone, -⟩ | ⟨hnone, -⟩
    · rw [Option.some.inj hsame]
    · cases hnone
    · cases hnone
  | answer exchange statusCode body =>
    cases hexchange : channel.forwarded[exchange]? with
    | none =>
      simp only [step, hexchange] at hafter
      rw [hbefore] at hafter
      rw [Option.some.inj hafter]
    | some sent =>
      simp only [step, hexchange, Forwarder.validateResponse] at hafter
      cases hcheck : channel.forwarder.checkResponse sent.route sent.envelope sent.headers
          statusCode body with
      | error =>
        simp only [hcheck] at hafter
        rw [hbefore] at hafter
        rw [Option.some.inj hafter]
      | ok value =>
        simp only [hcheck] at hafter
        have hother : operationOf sent.route sent.envelope ≠ some operationId := by
          intro hsame
          simp [acceptedAnswer, accepted, hexchange, hcheck, Except.toOption, hsame] at hanswer
        obtain ⟨status, hstatus⟩ : ∃ status, OperationStatus.fromResponse value = some status := by
          simp only [Forwarder.checkResponse, except_bind_eq_ok, refuse_eq_ok, not_or,
            not_not] at hcheck
          obtain ⟨_, _, other, _, _, ⟨-, -, hresponse, -⟩, hpure⟩ := hcheck
          obtain rfl : other = value := Except.ok.inj hpure
          exact fromResponse_of_responseValid hresponse
        have hcore := Forwarder.core_recordResponse channel.forwarder sent.route sent.envelope
          hstatus operationId
        rw [hafter, hbefore] at hcore
        simpa [hother] using hcore

/-- An answer about an operation gives it its status. -/
lemma core_step_of_some (hforwarded : ∀ exchange ∈ channel.forwarded, exchange.WellFormed)
    (hbefore : channel.forwarder.operationBindings[operationId]? = some binding)
    {input : Input} {answer : Exchange × Json}
    (hanswer : channel.acceptedAnswer operationId input = some answer)
    (hafter : (channel.step input).forwarder.operationBindings[operationId]? = some after) :
    IsAnswerTo operationId binding answer.1 answer.2 ∧
      OperationStatus.fromResponse answer.2 = some after.status ∧
      after.core = { binding.core with status := after.status } := by
  obtain ⟨haccepted, hoperation⟩ := Option.filter_eq_some_iff.mp hanswer
  have hoperation := of_decide_eq_true hoperation
  cases input with
  | request => cases haccepted
  | answer exchange statusCode body =>
    simp only [accepted, Option.bind_eq_bind, Option.bind_eq_some_iff, Option.pure_def,
      Option.some.injEq] at haccepted
    obtain ⟨sent, hexchange, value, hvalue, rfl⟩ := haccepted
    have hcheck : channel.forwarder.checkResponse sent.route sent.envelope sent.headers statusCode
        body = .ok value := by
      cases hcheck : channel.forwarder.checkResponse sent.route sent.envelope sent.headers
          statusCode body with
      | error => simp [hcheck, Except.toOption] at hvalue
      | ok other =>
        rw [hcheck] at hvalue
        rw [Option.some.inj hvalue]
    obtain ⟨hvalid, status, hstatus⟩ := isAnswerTo_of_checkResponse
      (hforwarded sent (List.mem_of_getElem? hexchange)) hoperation hbefore hcheck
    simp only [step, hexchange, Forwarder.validateResponse, hcheck] at hafter
    have hcore := Forwarder.core_recordResponse channel.forwarder sent.route sent.envelope hstatus
      operationId
    have hoperation : operationOf sent.route sent.envelope = some operationId := hoperation
    rw [hafter, hbefore, Option.map_some, Option.map_some, Option.map_some, if_pos hoperation]
      at hcore
    have hcore : after.core = { binding.core with status } := Option.some.inj hcore
    have hafterStatus : after.status = status := by
      show after.core.status = status
      rw [hcore]
    exact ⟨hvalid, by rw [hafterStatus, hstatus], by rw [hafterStatus, hcore]⟩

/-! ### Runs -/

/-- The answers about an operation that a run accepts. -/
def answers (operationId : String) (channel : Channel) (inputs : List Input) :
    List (Exchange × Json) :=
  Machine.outputs step (acceptedAnswer operationId) channel inputs

/-- The operation is retained in each state that an input is taken in. -/
def Retained (operationId : String) (channel : Channel) (inputs : List Input) : Prop :=
  Machine.Along step (fun channel _ => operationId ∈ channel.forwarder.operationBindings) channel
    inputs

/-- From a state on, the status of a retained operation is that of the last answer. -/
lemma status_of_run (inputs : List Input)
    (hforwarded : ∀ exchange ∈ channel.forwarded, exchange.WellFormed)
    (hbefore : channel.forwarder.operationBindings[operationId]? = some binding)
    (hretained : Retained operationId channel inputs)
    (hafter : (Machine.run step channel inputs).forwarder.operationBindings[operationId]? =
      some after) :
    after.core = { binding.core with status := after.status } ∧
      (answers operationId channel inputs).getLast?.elim (some binding.status)
          (fun answer => OperationStatus.fromResponse answer.2) = some after.status ∧
        ∀ answer ∈ answers operationId channel inputs,
          IsAnswerTo operationId binding answer.1 answer.2 := by
  induction inputs generalizing channel binding with
  | nil =>
    obtain rfl : binding = after := Option.some.inj (hbefore.symm.trans hafter)
    exact ⟨rfl, rfl, fun _ h => nomatch h⟩
  | cons input inputs ih =>
    obtain ⟨next, hnext⟩ : ∃ next,
        (channel.step input).forwarder.operationBindings[operationId]? = some next := by
      cases inputs with
      | nil => exact ⟨after, hafter⟩
      | cons other inputs =>
        exact ⟨_, ExtTreeMap.getElem?_eq_some_getElem hretained.2.1⟩
    obtain ⟨hcore, hlast, hvalid⟩ := ih (wellFormed_step hforwarded input) hnext hretained.2 hafter
    have houtputs : answers operationId channel (input :: inputs) =
        (channel.acceptedAnswer operationId input).toList ++
          answers operationId (channel.step input) inputs := rfl
    cases hanswer : channel.acceptedAnswer operationId input with
    | none =>
      have hsame := core_step_of_none hbefore hanswer hnext
      have hstatus : next.status = binding.status := by
        show next.core.status = binding.core.status
        rw [hsame]
      rw [houtputs, hanswer, Option.toList_none, List.nil_append]
      refine ⟨by rw [hcore, hsame], by rw [← hstatus, hlast], fun answer hmem => ?_⟩
      exact (hvalid answer hmem).congr hsame
    | some answer =>
      obtain ⟨hfits, hstatus, hsame⟩ := core_step_of_some hforwarded hbefore hanswer hnext
      rw [houtputs, hanswer, Option.toList_some, List.singleton_append]
      refine ⟨by rw [hcore, hsame], ?_, fun other hmem => ?_⟩
      · rw [List.getLast?_cons]
        cases hrest : (answers operationId (channel.step input) inputs).getLast? with
        | none =>
          rw [hrest] at hlast
          rw [Option.getD_none, Option.elim_some, hstatus]
          exact hlast
        | some last =>
          rw [hrest] at hlast
          exact hlast
      · rcases List.mem_cons.mp hmem with rfl | hmem
        · exact hfits
        · exact (hvalid other hmem).congr hsame

end Channel

end Schema

/-! ### A replayed operation -/

namespace Sample

/-- The documents below have the shape that the schema asks for. -/
@[reducible] def schema : RestActionSchema where
  isValid := fun _ => true
  observationIsValid := fun _ => true

def provenance : Json :=
  .obj [("artifact", .str "sts2-protocol/runtime-v4-expert-rest-action"),
    ("generator", .str "hand-authored"),
    ("source", .str "schemas/runtime-v4-expert-rest-action-v1.schema.json")]

/-- An envelope about an operation, at a generation and a state. -/
def envelope (kind operationId : String) (generation : ℕ) (stateId : String) (action : Json)
    (status observation transition witness errorCode : Json) : Json :=
  .obj [("action", action), ("correlation_id", .str "corr:rest:1"), ("effect_witness", witness),
    ("error_code", errorCode), ("generation", .num generation), ("instance_id", .str "instance:1"),
    ("kind", .str kind), ("lease_epoch", .num 4), ("lease_id", .str "lease:1"),
    ("observation", observation), ("operation_id", .str operationId), ("profile", .str profile),
    ("protocol_version", .str protocolVersion), ("provenance", provenance),
    ("schema_digest", .str schemaDigest), ("session_id", .str "session:1"),
    ("state_id", .str stateId), ("status", status), ("transition", transition)]

/-- The action that rests at the site. -/
def heal : Json :=
  .obj [("action", .obj [("kind", .str "rest_option"), ("rest_option_id", .str "heal")]),
    ("action_id", .str "rest-option:7:heal")]

def operationId : String := "rest-op:7:heal"

/-- A document about the action, without an effect. -/
def document (kind : String) (status errorCode : Json) : Json :=
  envelope kind operationId 7 "live:7" heal status .null .null .null errorCode

def body (size : ℕ) (value : Json) : Body where
  size
  json := some value
  rawLegalActions := none

def headers : List (String × String) :=
  [("x-sts2-correlation-id", "corr:rest:1"), ("x-sts2-instance-id", "instance:1"),
    ("x-sts2-lease-epoch", "4"), ("x-sts2-lease-id", "lease:1"),
    ("x-sts2-session-id", "session:1")]

def dispatch : Input :=
  .request .dispatch ⟨headers, body 854 (document "action_request" .null .null)⟩

def rejected (exchange : ℕ) : Input :=
  .answer exchange 409 (body 894 (document "action_response" (.str "rejected")
    (.str "sts2.game-mod/rest_option_not_legal")))

def accepted (exchange : ℕ) : Input :=
  .answer exchange 202 (body 861 (document "action_response" (.str "accepted") .null))

end Sample

section Replay

attribute [local instance] Sample.schema

open Channel Sample

/-- The inputs after which the operation is rejected. -/
abbrev untilRejected : List Input := [dispatch, rejected 0]

/-- A replay of the operation, answered as accepted. -/
abbrev replayed : List Input := [dispatch, Sample.accepted 1]

/-- The statuses of the operation before the replay and after it. -/
lemma statuses_of_replay :
    (Machine.run step (start 16384 131072)
        untilRejected).forwarder.operationBindings[operationId]?.map (·.status) =
      some .rejected ∧
    (Machine.run step (start 16384 131072)
        (untilRejected ++ replayed)).forwarder.operationBindings[operationId]?.map (·.status) =
      some .accepted := by decide +kernel

lemma retained_of_replay :
    Retained operationId (Machine.run step (start 16384 131072) untilRejected) replayed :=
  ⟨by decide +kernel, by decide +kernel, trivial⟩

end Replay

end Sts2Gateway.RestAction
