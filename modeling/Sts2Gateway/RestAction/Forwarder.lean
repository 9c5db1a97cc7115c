/-
The forwarder of rest-site actions (`runtime_v4_expert_rest_action_forwarder.rs`,
`runtime_v4_expert_rest_action_forwarder_wire.rs`,
`runtime_v4_expert_rest_action_forwarder_operations.rs`,
`runtime_v4_expert_rest_action_forwarder_selectors.rs`).

* `requestValid`, `responseIdentityValid`, `actionAdmitted`: the checks on the wire;
* `retainOperationBinding`, `recordOperationStatus`: **the table of operations**;
* `recordAdmission`, `recordCompletion`: **the tables of selections**;
* `validateRequest`, `validateResponse`: a request to the host, and the answer of the host.
-/
import Mathlib.Tactic
import Sts2Gateway.RestAction.Semantics

namespace Sts2Gateway.RestAction

open CompactJson Procedure Service

/-! ### The wire -/

def objectJson (body : Body) : Option Json := body.json.bind Json.object

/-- The envelope repeats the headers. -/
def headersMatch (value : Json) (headers : HttpRequest) : Bool :=
  [("instance_id", "x-sts2-instance-id"), ("session_id", "x-sts2-session-id"),
      ("lease_id", "x-sts2-lease-id"), ("correlation_id", "x-sts2-correlation-id")].all
    (fun (field, header) => (headers.header header).any fun headerValue =>
      identityString headerValue nativeIdentityBytes &&
        (value.get field).asStr = some headerValue) &&
  (value.get "lease_epoch").asU64 =
    ((headers.header "x-sts2-lease-epoch").filter fun epoch =>
      identityString epoch nativeIdentityBytes).bind GameInformation.parseU64

/-- The members of an action, by its kind. -/
def actionFields (kind : String) : Option (List String) :=
  match kind with
  | "rest_option" => some ["kind", "rest_option_id"]
  | "select_card" => some ["kind", "selection_id", "rest_option_id", "card_id"]
  | "select_player" => some ["kind", "selection_id", "rest_option_id", "player_id"]
  | "confirm_selection" | "cancel_selection" => some ["kind", "selection_id", "rest_option_id"]
  | _ => none

def validActionPayload (value : Json) : Bool :=
  Option.isSome do
    let members ← value.asObject
    let kind ← (value.get "kind").asStr
    let fields ← actionFields kind
    guard (members.length = fields.length ∧ fields.all fun field =>
      (value.member field).any fun member => field = "kind" || identity member)

def validAction (value : Json) : Bool :=
  value.asObject.any (fun members => members.length = 2) && identity (value.get "action_id") &&
    validActionPayload (value.get "action")

/-- A selection is gone on with as the admitted catalog says. -/
def actionAdmitted (value : Json) (admissions : Admissions) : Bool :=
  ((value.get "action").get "action").object.any fun payload =>
    match (payload.get "selection_id").asStr with
    | none => (payload.get "kind").asStr = some "rest_option"
    | some selectionId =>
      Option.isSome do
        let admission ← admissions[selectionId]?
        let lifecycle ← SelectorLifecycle.fromValue value
        guard (admission.lifecycle = lifecycle)
        let generation ← (value.get "generation").asU64
        guard (generation = admission.generation)
        let actionId ← ((value.get "action").get "action_id").asStr
        guard (admission.legalActions[actionId]? = some payload)

def requestNeedsSelectorReservation (value : Json) : Bool :=
  let action := (value.get "action").get "action"
  (action.get "kind").asStr = some "rest_option" &&
    match (action.get "rest_option_id").asStr with
    | some "smith" | some "mend" => true
    | _ => false

/-- The operation that a request or an answer is about. -/
def operationOf (route : Route) (request : Json) : Option String :=
  route.operationId.or (request.get "operation_id").asStr

def requestValid [RestActionSchema] (value : Json) (headers : HttpRequest) : Bool :=
  (value.get "protocol_version").asStr = some protocolVersion &&
    (value.get "schema_digest").asStr = some schemaDigest &&
    (value.get "profile").asStr = some profile &&
    (value.get "kind").asStr = some "action_request" && (value.get "status").isNull &&
    (value.get "observation").isNull && (value.get "transition").isNull &&
    (value.get "effect_witness").isNull && (value.get "error_code").isNull &&
    headersMatch value headers && identity (value.get "state_id") &&
    identity (value.get "operation_id") && validAction (value.get "action") &&
    RestActionSchema.isValid value

def responseIdentityValid (value : Json) (route : Route) (request : Json) (headers : HttpRequest)
    (expectedAction : Option Json) : Bool :=
  (value.get "protocol_version").asStr = some protocolVersion &&
    (value.get "schema_digest").asStr = some schemaDigest &&
    (value.get "profile").asStr = some profile &&
    (value.get "kind").asStr = some "action_response" && headersMatch value headers &&
    identity (value.get "state_id") && identity (value.get "operation_id") &&
    ((operationOf route request).any fun operationId =>
      (value.get "operation_id").asStr = some operationId) &&
    expectedAction.any fun action => value.get "action" = action

namespace Forwarder

variable (forwarder : Forwarder)

/-! ### Operations -/

/-- The binding of the operation that an answer is about. -/
def bindingFor (route : Route) (request : Json) : Option OperationBinding :=
  (operationOf route request).bind fun operationId => forwarder.operationBindings[operationId]?

/-- What is retained of a new operation. -/
def newBinding (value : Json) : Option OperationBinding := do
  return {
    action := value.get "action"
    generation := ← (value.get "generation").asU64
    stateId := ← (value.get "state_id").asStr
    instanceId := ← (value.get "instance_id").asStr
    sessionId := ← (value.get "session_id").asStr
    leaseId := ← (value.get "lease_id").asStr
    leaseEpoch := ← (value.get "lease_epoch").asU64
    status := .pending
    selectorContext :=
      (((value.get "action").get "action").get "selection_id").asStr.bind fun selectionId =>
        forwarder.selectorAdmissions[selectionId]?.map fun admission => (selectionId, admission)
    completedSelector := none }

/-- The first operation, by its name, whose answer was terminal. -/
def terminalOperation : Option String :=
  (forwarder.operationBindings.toList.find? fun entry => entry.2.status.isTerminal).map Prod.fst

/-- A full table forgets a terminal operation. -/
def reclaimed : Option Forwarder :=
  if forwarder.operationBindings.size ≥ maxOperationBindings then
    forwarder.terminalOperation.map fun terminalId =>
      { forwarder with operationBindings := forwarder.operationBindings.erase terminalId }
  else some forwarder

def retainOperationBinding (operationId : String) (value : Json) : Bool × Forwarder :=
  match forwarder.reclaimed with
  | none => (false, forwarder)
  | some forwarder =>
    match forwarder.newBinding value with
    | none => (false, forwarder)
    | some binding =>
      (true, { forwarder with
        operationBindings := forwarder.operationBindings.insert operationId binding })

/-- An answer to a reconciliation is about the operation as it was retained. -/
def reconciliationBindingValid (route : Route) (value : Json) : Bool :=
  match route with
  | .dispatch => true
  | .reconcile operationId =>
    forwarder.operationBindings[operationId]?.any fun binding =>
      (value.get "instance_id").asStr = some binding.instanceId &&
        (value.get "session_id").asStr = some binding.sessionId &&
        (value.get "lease_id").asStr = some binding.leaseId &&
        (value.get "lease_epoch").asU64 = some binding.leaseEpoch &&
        match (value.get "status").asStr with
        | some "settled" =>
          ((value.get "transition").get "before_generation").asU64 = some binding.generation
        | some "accepted" | some "rejected" | some "unknown" | some "cancelled" =>
          (value.get "generation").asU64 = some binding.generation &&
            (value.get "state_id").asStr = some binding.stateId
        | _ => false

/-- A change of the binding of an operation that is retained. -/
def modifyBinding (operationId : Option String) (change : OperationBinding → OperationBinding) :
    Forwarder :=
  match operationId with
  | none => forwarder
  | some operationId =>
    { forwarder with operationBindings := forwarder.operationBindings.modify operationId change }

def recordOperationStatus (route : Route) (request value : Json) : Forwarder :=
  match OperationStatus.fromResponse value with
  | none => forwarder
  | some status =>
    forwarder.modifyBinding (operationOf route request) fun binding => { binding with status }

/-! ### Selections -/

def reserveSelectorAdmission (operationId : String) : Option Forwarder :=
  if operationId ∈ forwarder.selectorReservations then some forwarder
  else if forwarder.selectorAdmissions.size + forwarder.selectorReservations.card ≥
      maxSelectorAdmissions then none
  else
    some { forwarder with
      selectorReservations := insert operationId forwarder.selectorReservations }

def releaseSelectorReservation (operationId : Option String) : Forwarder :=
  match operationId with
  | none => forwarder
  | some operationId =>
    { forwarder with selectorReservations := forwarder.selectorReservations.erase operationId }

/-- A retained operation remembers that the selection went past a catalog. -/
def completedSelectorBlocks (selectionId : String) (candidate : SelectorAdmission) : Bool :=
  forwarder.operationBindings.toList.any fun entry =>
    entry.2.completedSelector.any fun (completedId, tombstone) =>
      completedId = selectionId && tombstone.lifecycle = candidate.lifecycle &&
        candidate.generation ≤ tombstone.generation

/-- The shared catalog of a selection gives way to a newer one of its lease, or to the one of
another lease that was dispatched to. -/
def shouldAdvance (request : Json) (selectionId : String) (admission : SelectorAdmission) :
    Bool :=
  forwarder.selectorAdmissions[selectionId]?.all fun current =>
    (current.lifecycle = admission.lifecycle && current.generation < admission.generation) ||
      (current.lifecycle ≠ admission.lifecycle && !request.isNull)

/-- An operation without a catalog of its own is given the shared one. -/
def captureContext (operationId : Option String) (selectionId : String)
    (admission : SelectorAdmission) : Forwarder :=
  forwarder.modifyBinding operationId fun binding =>
    if binding.selectorContext.isNone then
      { binding with
        selectorContext := some (selectionId,
          forwarder.selectorAdmissions[selectionId]?.getD admission) }
    else binding

/-- A catalog that a transition shows, in an answer to an operation. -/
def recordAdmission (operationId : Option String) (request : Json) (selectionId : String)
    (admission : SelectorAdmission) : Forwarder :=
  if forwarder.selectorAdmissions.size < maxSelectorAdmissions ∨
      selectionId ∈ forwarder.selectorAdmissions then
    let next := (forwarder.releaseSelectorReservation operationId).captureContext operationId
      selectionId admission
    if forwarder.shouldAdvance request selectionId admission then
      { next with selectorAdmissions := next.selectorAdmissions.insert selectionId admission }
    else next
  else forwarder

/-- The binding is about a selection under a lease. -/
def related (binding : OperationBinding) (selectionId : String) (lifecycle : SelectorLifecycle) :
    Bool :=
  binding.selectorContext.any (fun (id, context) =>
      id = selectionId && context.lifecycle = lifecycle) ||
    binding.completedSelector.any (fun (id, context) =>
      id = selectionId && context.lifecycle = lifecycle) ||
    binding.selectionId = some selectionId && binding.lifecycle = lifecycle

/-- The tombstone of a completed selection on a binding that is about it. -/
def bury (selectionId : String) (admission : SelectorAdmission) (binding : OperationBinding) :
    OperationBinding :=
  if related binding selectionId admission.lifecycle &&
      binding.completedSelector.all (fun (_, context) => context.lifecycle = admission.lifecycle)
  then { binding with completedSelector := some (selectionId, admission) }
  else binding

/-- The end of a selection, in an answer to an operation that went on from its last catalog. -/
def recordCompletion (operationId : Option String) (selectionId : String)
    (lifecycle : SelectorLifecycle) (beforeGeneration : ℕ) : Forwarder :=
  let operationContext := operationId.bind fun operationId =>
    forwarder.operationBindings[operationId]?.bind (·.selectorContext)
  match forwarder.selectorAdmissions[selectionId]? with
  | none => forwarder
  | some current =>
    if current.lifecycle = lifecycle ∧ current.generation = beforeGeneration ∧
        operationContext = some (selectionId, current) then
      let buried : Forwarder := { forwarder with
        selectorAdmissions := forwarder.selectorAdmissions.erase selectionId
        operationBindings := forwarder.operationBindings.map fun _ binding =>
          bury selectionId current binding }
      buried.modifyBinding operationId fun binding =>
        { binding with completedSelector := some (selectionId, current) }
    else forwarder

/-- A reservation is given back with an answer that opens no selection. -/
def releaseAnswered (operationId : Option String) (value : Json) : Forwarder :=
  let kind := ((value.get "transition").get "kind").asStr
  let opens := kind = some "rest_option_selection_requested" ∨
    kind = some "rest_option_selection_progressed"
  if (value.get "status").asStr = some "rejected" ∨ (value.get "status").asStr = some "cancelled" ∨
      ((value.get "status").asStr = some "settled" ∧ ¬ opens) then
    forwarder.releaseSelectorReservation operationId
  else forwarder

def recordSelectorAdmission (route : Route) (request value : Json) : Forwarder :=
  let operationId := operationOf route request
  let transition := value.get "transition"
  match (transition.get "kind").asStr with
  | some "rest_option_selection_requested" | some "rest_option_selection_progressed" =>
    match (SelectorLifecycle.fromValue value).bind (admissionFromTransition transition) with
    | none => forwarder
    | some (selectionId, admission) =>
      if forwarder.completedSelectorBlocks selectionId admission then
        forwarder.releaseSelectorReservation operationId
      else
        (forwarder.recordAdmission operationId request selectionId admission).releaseAnswered
          operationId value
  | some "rest_option_selection_completed" =>
    match (transition.get "selection_id").asStr, SelectorLifecycle.fromValue value,
      (transition.get "before_generation").asU64 with
    | some selectionId, some lifecycle, some beforeGeneration =>
      (forwarder.recordCompletion operationId selectionId lifecycle
        beforeGeneration).releaseAnswered operationId value
    | _, _, _ => forwarder
  | _ => forwarder.releaseAnswered operationId value

/-! ### Answers -/

/-- The action that an answer has to repeat: that of the request, or that of the operation. -/
def expectedAction (route : Route) (request : Json) : Option Json :=
  (request.get "action").object.or
    ((route.operationId.bind fun operationId => forwarder.operationBindings[operationId]?).map
      (·.action))

/-- The shared catalogs, with the completed one of an operation before the one that it was
admitted with. -/
def admissionsFor (route : Route) (request : Json) : Admissions :=
  match forwarder.bindingFor route request with
  | none => forwarder.selectorAdmissions
  | some binding =>
    let insertContext (admissions : Admissions) (context : Option (String × SelectorAdmission)) :=
      context.elim admissions fun (selectionId, admission) =>
        admissions.insert selectionId admission
    insertContext (insertContext forwarder.selectorAdmissions binding.completedSelector)
      binding.selectorContext

section Schema

variable [RestActionSchema]

/-- The answer of the host passes its checks. -/
def checkResponse (route : Route) (request : Json) (headers : HttpRequest) (statusCode : UInt16)
    (body : Body) : Except ForwardError Json := do
  refuse (body.size > forwarder.maxResponseBytes) .responseOversized
  let value ← okOr (objectJson body) .responseMalformed
  refuse (¬ responseIdentityValid value route request headers
      (forwarder.expectedAction route request) ∨
    ¬ RestActionSchema.isValid value ∨
    ¬ responseValid value request route.operationId statusCode
      (forwarder.admissionsFor route request) ∨
    ¬ forwarder.reconciliationBindingValid route value) .responseMalformed
  return value

/-- What an accepted answer leaves in the tables. -/
def recordResponse (route : Route) (request value : Json) : Forwarder :=
  (forwarder.recordSelectorAdmission route request value).recordOperationStatus route request value

def validateResponse (route : Route) (request : Json) (headers : HttpRequest)
    (statusCode : UInt16) (body : Body) : Except ForwardError Unit × Forwarder :=
  match forwarder.checkResponse route request headers statusCode body with
  | .error e => (.error e, forwarder)
  | .ok value => (.ok (), forwarder.recordResponse route request value)

/-! ### Requests -/

/-- A request for an operation repeats the retained one, or it is admitted as a new one. -/
def checkRequest (route : Route) (request : HttpRequest) : Except ForwardError Json := do
  refuse (request.body.size > forwarder.maxRequestBytes ∨
    request.body.size > nativeRequestBodyBytes) .requestBodyOversized
  match route with
  | .reconcile _ =>
    refuse (request.body.size ≠ 0) .requestBodyForbidden
    return .null
  | .dispatch =>
    refuse (request.body.size = 0) .requestBodyRequired
    let value ← okOr (objectJson request.body) .requestBodyMalformed
    refuse (¬ requestValid value request) .requestBodyMalformed
    let binding := forwarder.bindingFor route value
    refuse ((value.get "operation_id").asStr.isSome ∧ ¬ binding.any (·.isReplay value) ∧
      ¬ actionAdmitted value forwarder.selectorAdmissions) .requestBodyMalformed
    refuse (binding.any fun binding => !binding.isReplay value) .requestBodyMalformed
    return value

/-- Room for a new operation, and for the selection that it may open. -/
def admitOperation (operationId : String) (value : Json) : Except ForwardError Json × Forwarder :=
  let needsSelectorReservation := requestNeedsSelectorReservation value
  match if needsSelectorReservation then forwarder.reserveSelectorAdmission operationId
    else some forwarder with
  | none => (.error .selectorCapacity, forwarder)
  | some reserved =>
    match reserved.retainOperationBinding operationId value with
    | (true, retained) => (.ok value, retained)
    | (false, kept) =>
      (.error .operationCapacity,
        if needsSelectorReservation then kept.releaseSelectorReservation (some operationId)
        else kept)

def validateRequest (route : Route) (request : HttpRequest) :
    Except ForwardError Json × Forwarder :=
  match forwarder.checkRequest route request with
  | .error e => (.error e, forwarder)
  | .ok value =>
    match (value.get "operation_id").asStr with
    | none => (.ok value, forwarder)
    | some operationId =>
      if operationId ∈ forwarder.operationBindings then (.ok value, forwarder)
      else forwarder.admitOperation operationId value

/-- The status that an answer of the host is relayed with. -/
def candidateHttpStatus (downstreamStatus : UInt16) (body : Body) :
    Except ForwardError UInt16 := do
  refuse (body.size > forwarder.maxResponseBytes) .responseOversized
  let value ← okOr (objectJson body) .responseMalformed
  let envelopeStatus := (value.get "status").asStr
  let candidateStatus ← okOr (match envelopeStatus with
    | some "accepted" => some 202
    | some "settled" => some 200
    | some "rejected" => some 409
    | some "unknown" =>
      if downstreamStatus = 200 then some 404
      else if [404, 408, 502, 504].contains downstreamStatus then some downstreamStatus
      -- an unavailable reconciliation is a bad gateway to the caller
      else if downstreamStatus = 503 then some 502
      else none
    | some "cancelled" => some 499
    | _ => none) .responseMalformed
  refuse (downstreamStatus ≠ 200 ∧ downstreamStatus ≠ candidateStatus ∧
    ¬ (envelopeStatus = some "unknown" ∧ downstreamStatus = 503)) .responseMalformed
  return candidateStatus

end Schema

end Forwarder

end Sts2Gateway.RestAction
