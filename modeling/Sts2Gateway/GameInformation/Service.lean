/-
The game-information route of the runtime service (`game_information_forwarder.rs`,
`game_information_capabilities.rs`, `service_game_information.rs`,
`service_game_information_errors.rs`).

* `GameInformationForwarder.validateRequest`, `validateResponse`: the envelope around a
  query and around its answer;
* `GameInformationCapabilities.admitQuery`, `responseWithinBudget`: what the producer has
  advertised;
* `cursorIsCompatible`, `rememberNextCursor`: **the bindings of cursors**;
* `gameInformationRequest`, `gameInformationCapabilities`: one request, with the answers of
  the lease check and of the producer;
* `Input`, `step`: the service over its requests.

The schema of the envelope is checked by a validator outside this repository.  The reads of
the content manifest, the lookup binding and the live bootstrap are left out: they write
neither the capabilities nor the bindings of cursors.
-/
import Mathlib.Tactic
import Sts2Gateway.Library.OrderedMap
import Sts2Gateway.GameInformation.Payload

namespace Sts2Gateway.GameInformation

open CompactJson Procedure Service
open Std (ExtTreeMap)

/-- The validator of the game-information schema. -/
class GameInformationSchema where
  isValid : Json → Bool

/-! ### Envelopes -/

def schemaDigest : String := "376845b0c86b4afcd2c79ffba753eb7e7e416f5410da26b4dae970cfee2221d9"
def protocolVersion : String := "game-information-query-v1"
def artifact : String := "sts2-protocol/game-information-query-v1"
def schemaSource : String := "schemas/game-information-query-v1.schema.json"
def generator : String := "hand-authored"
def maxResponseBytes : ℕ := maxMessageBytes

structure GameInformationForwarder where
  maxRequestBytes : ℕ
  maxResponseBytes : ℕ
  contentManifestId : String
  runId : String
deriving DecidableEq, Repr

inductive GameInformationResponseError where
  | oversized
  | invalid
deriving DecidableEq, Repr

structure ValidatedGameInformationResponse where
  value : Json
  producerError : Bool
deriving DecidableEq

def provenanceValid (value : Option Json) : Bool :=
  value.any fun value =>
    match value with
    | .obj members =>
      members.length = 3 && value.str? "artifact" = some artifact &&
        value.str? "source" = some schemaSource && value.str? "generator" = some generator
    | _ => false

def correlationMatches (value : Json) (headers : HttpRequest) : Bool :=
  value.str? "correlation_id" = headers.header "x-sts2-correlation-id"

def errorResponseValid (value : Json) : Bool :=
  value.member "query" = some .null && value.member "result" = some .null &&
    value.member "capabilities" = some .null &&
    ((value.member "error").bind Json.object).any fun error => (error.str? "code").isSome

section Schema

variable [GameInformationSchema]

def baseValid (value : Json) : Bool :=
  value.str? "protocol_version" = some protocolVersion &&
    value.str? "schema_digest" = some schemaDigest && provenanceValid (value.member "provenance") &&
    GameInformationSchema.isValid value

namespace GameInformationForwarder

variable (forwarder : GameInformationForwarder)

def validateRequest (route : GameInformationRoute) (request : HttpRequest) :
    Except GameInformationRequestError Json := do
  refuse (request.body.size = 0) .required
  refuse (request.body.size > forwarder.maxRequestBytes) .oversized
  refuse (¬ route.isQuery) .invalid
  let value ← okOr request.body.json .invalid
  refuse (¬ baseValid value ∨ value.str? "kind" ≠ some "query_request" ∨
    ¬ correlationMatches value request) .invalid
  let query ← okOr (value.member "query") .invalid
  validateQuery route query request forwarder.contentManifestId forwarder.runId
  return value

def validateResponse (route : GameInformationRoute) (request : Option Json) (headers : HttpRequest)
    (response : HttpResponse) :
    Except GameInformationResponseError ValidatedGameInformationResponse := do
  refuse (response.body.size > forwarder.maxResponseBytes ∨
    response.body.size > GameInformation.maxResponseBytes) .oversized
  let value ← okOr response.body.json .invalid
  refuse (¬ baseValid value ∨ ¬ correlationMatches value headers) .invalid
  if value.str? "kind" = some "error_response" then
    refuse (response.status / 100 = 2 ∨ ¬ errorResponseValid value) .invalid
    return ⟨value, true⟩
  else
    refuse (response.status ≠ 200) .invalid
    let valid :=
      if route = .capabilities then
        value.str? "kind" = some "capabilities_response" && validateCapabilities value
      else
        value.str? "kind" = some "query_response" &&
          request.any fun request => validateQueryResponse request value
            forwarder.contentManifestId forwarder.runId headers
    refuse (¬ valid) .invalid
    return ⟨value, false⟩

end GameInformationForwarder

end Schema

/-! ### Capabilities -/

structure GameInformationProducerAuthority where
  producerAddress : String
  instanceId : String
  callerId : String
  sessionId : String
  leaseId : String
  leaseEpoch : ℕ
  contentManifestId : String
  runId : String
deriving DecidableEq, Repr

structure GameInformationLimits where
  pageItems : ℕ
  itemBytes : ℕ
  pageBytes : ℕ
  textBytes : ℕ
deriving DecidableEq, Repr

structure GameInformationCapabilities where
  queryKinds : List String
  entityKinds : List String
  projections : List String
  detailLevels : List String
  fields : List String
  limits : GameInformationLimits
  maxMessageBytes : ℕ
  maxCursorBytes : ℕ
  supportsLive : Bool
deriving DecidableEq, Repr

structure BoundGameInformationCapabilities where
  authority : GameInformationProducerAuthority
  capabilities : GameInformationCapabilities
deriving DecidableEq, Repr

inductive GameInformationCapabilityAdmission where
  | allowed
  | unsupported
  | limit
deriving DecidableEq, Repr

def parseCapabilities (value : Json) : Option GameInformationCapabilities := do
  let capabilities ← (value.member "capabilities").bind Json.object
  let strings := fun name => ((capabilities.member name).bind Json.asArray).bind
    fun items => items.mapM Json.asStr
  let queryKinds ← strings "query_kinds"
  let entityKinds ← strings "entity_kinds"
  let projections ← strings "projections"
  let detailLevels ← strings "detail_levels"
  let fields ← strings "fields"
  let limits ← (capabilities.member "limits").bind Json.object
  return {
    queryKinds
    entityKinds
    projections
    detailLevels
    fields
    limits :=
      { pageItems := ← limits.u64? "page_items"
        itemBytes := ← limits.u64? "item_bytes"
        pageBytes := ← limits.u64? "page_bytes"
        textBytes := ← limits.u64? "text_bytes" }
    maxMessageBytes := ← capabilities.u64? "max_message_bytes"
    maxCursorBytes := ← capabilities.u64? "max_cursor_bytes"
    supportsLive := ← ((capabilities.member "snapshot_policy").bind
      (·.member "supports_live")).bind Json.asBool }

namespace GameInformationCapabilities

variable (capabilities : GameInformationCapabilities)

/-- A text member that the producer has advertised. -/
def advertises (advertised : List String) (query : Json) (key : String) : Bool :=
  (query.str? key).any fun value => advertised.any fun other => other = value

def withinLimits (limits : Json) : Bool :=
  ((limits.u64? "page_items").any fun value => value ≤ capabilities.limits.pageItems) &&
    ((limits.u64? "item_bytes").any fun value => value ≤ capabilities.limits.itemBytes) &&
    ((limits.u64? "page_bytes").any fun value => value ≤ capabilities.limits.pageBytes) &&
    ((limits.u64? "text_bytes").any fun value => value ≤ capabilities.limits.textBytes)

/-- The refusals of a query, in the order of the checks. -/
def admission (route : GameInformationRoute) (request : Json) (bodySize : ℕ) :
    Except GameInformationCapabilityAdmission Unit := do
  let kind ← okOr route.queryKind .unsupported
  refuse (¬ capabilities.queryKinds.any fun advertised => advertised = kind) .unsupported
  let query ← okOr (request.member "query") .unsupported
  refuse (¬ advertises capabilities.entityKinds query "entity_kind") .unsupported
  refuse (¬ advertises capabilities.projections query "projection") .unsupported
  refuse (¬ advertises capabilities.detailLevels query "detail_level") .unsupported
  let fields ← okOr ((query.member "fields").bind Json.asArray) .unsupported
  refuse (fields.any fun field => field.asStr.all fun field =>
    !capabilities.fields.any fun advertised => advertised = field) .unsupported
  let mode := (query.member "binding").bind (·.str? "mode")
  refuse ((mode ≠ some "static" ∧ mode ≠ some "live") ∨
    (mode = some "live" ∧ ¬ capabilities.supportsLive)) .unsupported
  refuse (bodySize > capabilities.maxMessageBytes ∨ (query.str? "cursor").any
    fun value => decide (value.utf8ByteSize > capabilities.maxCursorBytes)) .limit
  let limits ← okOr ((query.member "limits").bind Json.object) .unsupported
  refuse (¬ capabilities.withinLimits limits) .limit

def admitQuery (route : GameInformationRoute) (request : Json) (bodySize : ℕ) :
    GameInformationCapabilityAdmission :=
  match capabilities.admission route request bodySize with
  | .ok () => .allowed
  | .error refusal => refusal

end GameInformationCapabilities

/-- The cursor of the next page that an answer gives. -/
def nextCursor (response : Json) : Option String :=
  ((response.member "result").bind (·.member "page")).bind (·.str? "next_cursor")

def GameInformationCapabilities.responseWithinBudget (capabilities : GameInformationCapabilities)
    (response : Json) (bodySize : ℕ) : Bool :=
  bodySize ≤ capabilities.maxMessageBytes &&
    (nextCursor response).all fun cursor => cursor.utf8ByteSize ≤ capabilities.maxCursorBytes

/-! ### Errors -/

inductive ReadError where
  | cancelled
  | oversized
  | malformed
  | timeout
  | unavailable
deriving DecidableEq, Repr

def gameInformationRequestError : GameInformationRequestError → Reply
  | .required => .error 400 "game_information_body_required"
  | .oversized => .error 413 "game_information_request_oversized"
  | .invalid => .error 400 "game_information_request_invalid"
  | .scope => .error 409 "game_information_scope_rejected"
  | .limit => .error 413 "game_information_limits_rejected"

def gameInformationResponseError : GameInformationResponseError → Reply
  | .oversized => .error 502 "game_information_response_oversized"
  | .invalid => .error 502 "game_information_response_invalid"

def gameInformationTransportError : ReadError → Reply
  | .cancelled => .error 499 "game_information_cancelled"
  | .oversized => gameInformationResponseError .oversized
  | .malformed => gameInformationResponseError .invalid
  | .timeout => .error 504 "game_information_downstream_timeout"
  | .unavailable => .error 503 "game_information_downstream_unavailable"

/-! ### The service -/

def maxCursorBindings : ℕ := 64

abbrev CursorBindings := ExtTreeMap String Json compare

/-- What the runtime service keeps for these routes.  The authority is the configured one,
or that of the current lease. -/
structure GameInformationService where
  gameInformation : GameInformationForwarder
  authority : GameInformationProducerAuthority
  capabilities : Option BoundGameInformationCapabilities
  cursorBindings : CursorBindings

/-- A request, as the route finds it: whether it was cancelled, and what the lease check
says. -/
structure GameInformationCall where
  cancelled : Bool
  leaseCheck : Except Reply Unit
  request : HttpRequest

/-- What goes to the producer. -/
structure Forwarded where
  path : String
  body : Body
  maxResponseBytes : ℕ

/-- The end of a request. -/
structure Served where
  reply : Reply
  service : GameInformationService
  forwarded : Option Forwarded

def relay (response : HttpResponse) : Reply where
  status := response.status
  body := .relayed response.body

namespace GameInformationService

variable (service : GameInformationService)

/-- The end of a request that did not reach the producer. -/
def stop (reply : Reply) : Served := ⟨reply, service, none⟩

/-- The capabilities of the current authority. -/
def boundCapabilities : Option GameInformationCapabilities :=
  (service.capabilities.filter fun bound => bound.authority = service.authority).map
    (·.capabilities)

def cursorIsCompatible (request : Json) : Bool :=
  (request.member "query").any fun query =>
    (cursor query).all fun cursor =>
      cursor.utf8ByteSize ≤ maxCursorBytes &&
        service.cursorBindings[cursor]?.all fun binding => normalizedQuery query = some binding

/-- The binding that an answer issues: its cursor, and the query without its cursor. -/
def issued (request response : Json) : Option (String × Json) := do
  let query ← request.member "query"
  let cursor ← nextCursor response
  let binding ← normalizedQuery query
  return (cursor, binding)

def rememberNextCursor (request response : Json) : GameInformationService :=
  match issued request response with
  | some (cursor, binding) =>
    if cursor.utf8ByteSize > maxCursorBytes then service
    else
      { service with
        cursorBindings :=
          (OrderedMap.makeRoom maxCursorBindings service.cursorBindings).insert cursor binding }
  | none => service

section Schema

variable [GameInformationSchema]

/-- What a query is forwarded with. -/
structure Admitted where
  query : Json
  operation : GameInformationRoute
  maxResponseBytes : ℕ

/-- The route that a query selects. -/
def operationOf (route : GameInformationRoute) (query : Json) :
    Except GameInformationRequestError GameInformationRoute :=
  if route = .query then
    okOr (((query.member "query").bind (·.str? "query_kind")).bind
      GameInformationRoute.fromQueryKind) .invalid
  else .ok route

/-- The checks of a query before its cursor is looked at. -/
def validated (route : GameInformationRoute) (request : HttpRequest) :
    Except Reply (Json × GameInformationRoute) := do
  refuse (¬ request.contentTypeIsJson) (.error 400 "game_information_content_type_required")
  let query ← (service.gameInformation.validateRequest route request).mapError
    gameInformationRequestError
  let operation ← (operationOf route query).mapError gameInformationRequestError
  return (query, operation)

def staleCursor : Reply := .error 409 "game_information_stale_cursor"

/-- The checks of a query before it is forwarded. -/
def admitted (route : GameInformationRoute) (request : HttpRequest) : Except Reply Admitted := do
  let (query, operation) ← service.validated route request
  refuse (¬ service.cursorIsCompatible query) staleCursor
  let unavailable : Reply := .error 503 "game_information_capabilities_unavailable"
  let capabilities ← okOr service.boundCapabilities unavailable
  match capabilities.admitQuery operation query request.body.size with
  | .allowed =>
    return ⟨query, operation, min capabilities.maxMessageBytes GameInformation.maxResponseBytes⟩
  | .unsupported => .error unavailable
  | .limit => .error (.error 413 "game_information_limits_rejected")

/-- The checks of the answer to a query, which is relayed either way: whether it is an
accepted one, and no error of the producer. -/
def accepted (admitted : Admitted) (request : HttpRequest) (response : HttpResponse) :
    Except Reply (Option Json) := do
  let validated ← (service.gameInformation.validateResponse admitted.operation
    (some admitted.query) request response).mapError gameInformationResponseError
  if validated.producerError then return none
  else
    let capabilities ← okOr service.boundCapabilities
      (.error 502 "game_information_capabilities_unavailable")
    refuse (¬ capabilities.responseWithinBudget validated.value response.body.size)
      (.error 502 "game_information_response_invalid")
    return some validated.value

/-- A query and the producer's answer to it. -/
def forwardQuery (route : GameInformationRoute) (request : HttpRequest)
    (answer : Except ReadError HttpResponse) : Served :=
  match service.admitted route request with
  | .error reply => service.stop reply
  | .ok admitted =>
    let forwarded : Forwarded :=
      ⟨admitted.operation.downstreamPath, request.body, admitted.maxResponseBytes⟩
    match answer with
    | .error error => ⟨gameInformationTransportError error, service, some forwarded⟩
    | .ok response =>
      match service.accepted admitted request response with
      | .error reply => ⟨reply, service, some forwarded⟩
      | .ok none => ⟨relay response, service, some forwarded⟩
      | .ok (some value) =>
        ⟨relay response, service.rememberNextCursor admitted.query value, some forwarded⟩

/-- A request before its route is looked at. -/
def guarded (call : GameInformationCall) (next : Served) : Served :=
  if call.cancelled then service.stop (gameInformationTransportError .cancelled)
  else
    match call.leaseCheck with
    | .error reply => service.stop reply
    | .ok () => next

/-- A request of one of the query routes. -/
def gameInformationRequest (route : GameInformationRoute) (call : GameInformationCall)
    (answer : Except ReadError HttpResponse) : Served :=
  service.guarded call (service.forwardQuery route call.request answer)

def withCapabilities (capabilities : Option BoundGameInformationCapabilities) :
    GameInformationService :=
  { service with capabilities }

/-- The errors of a read of the capabilities. -/
def capabilitiesTransportError : ReadError → Reply
  | .cancelled => gameInformationTransportError .cancelled
  | .oversized => gameInformationResponseError .oversized
  | .timeout => .error 504 "game_information_capabilities_timeout"
  | .malformed => gameInformationResponseError .invalid
  | .unavailable => .error 503 "game_information_capabilities_unavailable"

/-- A read of the capabilities, which drops the old ones first. -/
def gameInformationCapabilities (call : GameInformationCall)
    (answer : Except ReadError HttpResponse) : Served :=
  service.guarded call <|
    let cleared := service.withCapabilities none
    if call.request.body.size ≠ 0 then
      cleared.stop (.error 400 "game_information_capabilities_body_forbidden")
    else
      let forwarded : Forwarded :=
        ⟨GameInformationRoute.capabilities.downstreamPath, call.request.body,
          GameInformation.maxResponseBytes⟩
      match answer with
      | .error error => ⟨capabilitiesTransportError error, cleared, some forwarded⟩
      | .ok response =>
        match service.gameInformation.validateResponse .capabilities none call.request response with
        | .error error => ⟨gameInformationResponseError error, cleared, some forwarded⟩
        | .ok ⟨_, true⟩ => ⟨relay response, cleared, some forwarded⟩
        | .ok ⟨value, false⟩ =>
          match parseCapabilities value with
          | none => ⟨gameInformationResponseError .invalid, cleared, some forwarded⟩
          | some capabilities =>
            ⟨relay response, cleared.withCapabilities (some ⟨service.authority, capabilities⟩),
              some forwarded⟩

/-- A service that has just been built. -/
def new (gameInformation : GameInformationForwarder)
    (authority : GameInformationProducerAuthority) : GameInformationService where
  gameInformation
  authority
  capabilities := none
  cursorBindings := ∅

end Schema

end GameInformationService

/-! ### Runs -/

/-- A query, a read of the capabilities, or another lease, which changes the authority. -/
inductive Input where
  | query (route : GameInformationRoute) (isQuery : route.isQuery) (call : GameInformationCall)
      (answer : Except ReadError HttpResponse)
  | capabilities (call : GameInformationCall) (answer : Except ReadError HttpResponse)
  | authority (authority : GameInformationProducerAuthority)

def step [GameInformationSchema] (service : GameInformationService) :
    Input → GameInformationService
  | .query route _ call answer => (service.gameInformationRequest route call answer).service
  | .capabilities call answer => (service.gameInformationCapabilities call answer).service
  | .authority authority => { service with authority }

end Sts2Gateway.GameInformation
