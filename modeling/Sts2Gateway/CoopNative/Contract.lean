/-
The contract of native co-op play (`coop_native.rs`, `coop_native_forwarder.rs`,
`coop_native_forwarder_relations.rs`).

* `CoopNativeRoute`: the six routes, each with the kinds of its envelopes;
* `requestRelations`, `responseRelations`: **how an answer has to fit its request**;
* `CoopNativeForwarder.validateRequest`, `validateResponse`: the envelope of a caller, and
  that of the host;
* `isBoundedError`: the one answer of the host that is no envelope.

The schema of the envelope is checked by a validator outside this repository; all that is
used of it is that some kinds of envelopes name an operation.  A member that the schema
requires is read as `null` where there is none.
-/
import Mathlib.Tactic
import Sts2Gateway.GameInformation.Payload

namespace Sts2Gateway.CoopNative

open CompactJson Procedure Service

/-! ### Routes -/

inductive CoopNativeRoute where
  | observation
  | legalCatalog
  | localAction
  | sharedVote
  | rejoin
  | recover
deriving DecidableEq, Repr

namespace CoopNativeRoute

def downstreamPath : CoopNativeRoute → String
  | .observation => "/api/v1/coop/native/observation"
  | .legalCatalog => "/api/v1/coop/native/legal-catalog"
  | .localAction => "/api/v1/coop/native/action"
  | .sharedVote => "/api/v1/coop/native/vote"
  | .rejoin => "/api/v1/coop/native/rejoin"
  | .recover => "/api/v1/coop/native/recover"

/-- A recovery is asked for in the envelope that also answers it. -/
def requestKind : CoopNativeRoute → Option String
  | .observation => none
  | .legalCatalog => some "legal_catalog_request"
  | .localAction => some "local_action_request"
  | .sharedVote => some "shared_vote_request"
  | .rejoin => some "rejoin_request"
  | .recover => some "recovery_response"

def responseKind : CoopNativeRoute → String
  | .observation => "observation"
  | .legalCatalog => "legal_catalog_response"
  | .localAction | .sharedVote => "effect_response"
  | .rejoin | .recover => "recovery_response"

/-- The routes that start an operation. -/
def starts : CoopNativeRoute → Bool
  | .localAction | .sharedVote | .rejoin => true
  | .observation | .legalCatalog | .recover => false

end CoopNativeRoute

/-- The kinds of the envelopes that name an operation. -/
def operationKinds : List String :=
  ["local_action_request", "shared_vote_request", "rejoin_request", "recovery_response"]

/-- The validator of the co-op schema. -/
class CoopNativeSchema where
  isValid : Json → Bool
  /-- The schema requires an operation of these kinds. -/
  names_operation : ∀ value kind, isValid value = true → (value.get "kind").asStr = some kind →
    kind ∈ operationKinds → (value.get "operation_id").asStr.isSome = true

/-! ### Relations -/

def requestRelations (route : CoopNativeRoute) (value : Json) : Bool :=
  match route.requestKind with
  | none => (value.get "kind").asStr = some "observation"
  | some kind =>
    (value.get "kind").asStr = some kind && (value.get "status").isNull &&
      (value.get "observation").isNull && (value.get "effect").isNull &&
      (value.get "receipt").isNull && (value.get "catalog").isNull &&
      match route with
      | .legalCatalog => (value.get "operation_id").isNull
      | .localAction => (value.get "action").asObject.isSome && (value.get "vote").isNull
      | .sharedVote => (value.get "vote").asObject.isSome && (value.get "action").isNull
      | .rejoin => ((value.get "recovery").get "kind").asStr = some "rejoin"
      | .recover => ((value.get "recovery").get "kind").asStr = some "reconcile"
      | .observation => false

def receiptObservationRelations (observation receipt : Json) : Bool :=
  receipt.get "state_digest" = observation.get "state_digest" &&
    receipt.get "authority_id" = observation.get "authority_id" &&
    receipt.get "authority_epoch" = observation.get "host_authority_epoch" &&
    receipt.get "checkpoint_id" = observation.get "checkpoint_id"

/-- Numbers in order, where a missing one comes first. -/
def u64Lt : Option ℕ → Option ℕ → Bool
  | _, none => false
  | none, some _ => true
  | some m, some n => m < n

def settledEffectRelations (request value receipt : Json) : Bool :=
  let expected := (request.get "expected_host_generation").asU64
  let observation := value.get "observation"
  (value.get "effect").object.any fun effect =>
    (effect.get "operation_id").asStr = (request.get "operation_id").asStr &&
      (effect.get "from_generation").asU64 = expected &&
      effect.get "to_generation" = observation.get "host_generation" &&
      u64Lt (effect.get "from_generation").asU64 (effect.get "to_generation").asU64 &&
      effect.get "state_digest" = observation.get "state_digest" &&
      effect.get "authority_id" = observation.get "authority_id" &&
      effect.get "authority_epoch" = observation.get "host_authority_epoch" &&
      effect.get "checkpoint_id" = observation.get "checkpoint_id" &&
      receipt.get "before_host_generation" = effect.get "from_generation" &&
      receipt.get "after_host_generation" = effect.get "to_generation"

/-- The generations of a receipt, by the status of the effect. -/
def effectStatusRelations (status : String) (request value observation receipt : Json) : Bool :=
  let before := receipt.get "before_host_generation"
  let after := receipt.get "after_host_generation"
  match status with
  | "settled" => settledEffectRelations request value receipt
  | "accepted" | "unknown" =>
    before = request.get "expected_host_generation" &&
      before = observation.get "host_generation" && after.isNull
  | "rejected" => before = observation.get "host_generation" && after.isNull
  | _ => false

/-- The answer to an action or a vote. -/
def effectResponseRelations (request value : Json) : Bool :=
  Option.isSome do
    let operationId ← (request.get "operation_id").asStr
    let observation ← (value.get "observation").object
    let receipt ← (value.get "receipt").object
    let status ← (value.get "status").asStr
    guard ((value.get "operation_id").asStr = some operationId ∧
      (receipt.get "operation_id").asStr = some operationId ∧
      receipt.get "status" = value.get "status" ∧
      receiptObservationRelations observation receipt)
    guard (effectStatusRelations status request value observation receipt)

/-- The receipt of a recovery whose outcome is open. -/
def openReceiptRelations (recoveryKind : String) (request observation receipt : Json) : Bool :=
  let before := receipt.get "before_host_generation"
  let after := receipt.get "after_host_generation"
  match (receipt.get "status").asStr with
  | some "accepted" =>
    if recoveryKind = "rejoin" then
      before = request.get "expected_host_generation" && after = observation.get "host_generation"
    else after.isNull
  | some "unknown" => after.isNull
  | _ => false

/-- The kind and the receipt of a recovery, by its status. -/
def recoveryStatusRelations (route : CoopNativeRoute) (status recoveryKind : String)
    (request value observation receipt : Json) : Bool :=
  match status with
  | "unknown" =>
    (decide (route = .rejoin ∧ recoveryKind = "rejoin") ||
        decide (route = .recover ∧ recoveryKind = "reconcile")) &&
      receipt.get "before_host_generation" = observation.get "host_generation" &&
      openReceiptRelations recoveryKind request observation receipt
  | "settled" | "rejected" =>
    recoveryKind = "reconcile" && receipt.get "status" = value.get "status" &&
      (status ≠ "settled" ||
        receipt.get "after_host_generation" = observation.get "host_generation")
  | _ => false

/-- The answer to a rejoin or a recovery. -/
def recoveryResponseRelations (route : CoopNativeRoute) (request value : Json) : Bool :=
  Option.isSome do
    let operationId ← (request.get "operation_id").asStr
    let recoveryKind ← ((value.get "recovery").get "kind").asStr
    guard ((value.get "operation_id").asStr = some operationId)
    let status ← (value.get "status").asStr
    let observation ← (value.get "observation").object
    let receipt ← (value.get "receipt").object
    guard ((receipt.get "operation_id").asStr = some operationId ∧
      receiptObservationRelations observation receipt)
    guard (recoveryStatusRelations route status recoveryKind request value observation receipt)

/-- The actions and the votes of a catalog are told apart by what they name. -/
def catalogRelations (catalog : Json) : Bool :=
  Option.isSome do
    let actorPeer ← (catalog.get "actor_peer").asStr
    let actions ← (catalog.get "actions").asArray
    let votes ← (catalog.get "votes").asArray
    let actionIds ← actions.mapM fun action => (action.get "action_id").asStr
    guard actionIds.Nodup
    guard (votes.all fun vote => (vote.get "voter_peer").asStr = some actorPeer)
    let voteIds ← votes.mapM fun vote => do
      return (← (vote.get "proposal_id").asStr, ← (vote.get "choice").asStr)
    guard voteIds.Nodup

def observationRelations (route : CoopNativeRoute) (status : UInt16) (value : Json) : Bool :=
  route = .observation && status = 200 && (value.get "operation_id").isNull &&
    (value.get "actor_peer").isNull && (value.get "expected_host_generation").isNull &&
    (value.get "status").isNull && (value.get "observation").asObject.isSome &&
    (value.get "effect").isNull && (value.get "recovery").isNull &&
    (value.get "catalog").isNull && (value.get "receipt").isNull

def legalCatalogRelations (request value : Json) : Bool :=
  let catalog := value.get "catalog"
  (value.get "operation_id").isNull && value.get "actor_peer" = request.get "actor_peer" &&
    value.get "expected_host_generation" = request.get "expected_host_generation" &&
    (value.get "observation").asObject.isSome && catalog.asObject.isSome &&
    catalog.get "actor_peer" = value.get "actor_peer" &&
    catalog.get "host_generation" = (value.get "observation").get "host_generation" &&
    catalog.get "host_generation" = request.get "expected_host_generation" &&
    catalogRelations catalog && (value.get "status").isNull && (value.get "effect").isNull &&
    (value.get "recovery").isNull && (value.get "receipt").isNull

def responseRelations (route : CoopNativeRoute) (request : Option Json) (status : UInt16)
    (value : Json) : Bool :=
  match request with
  | none => observationRelations route status value
  | some request =>
    let rejected := decide ((value.get "status").asStr = some "rejected")
    (decide (status = 200 ∧ rejected = false) || decide (status = 409 ∧ rejected = true)) &&
      match route with
      | .legalCatalog => legalCatalogRelations request value
      | .localAction | .sharedVote => effectResponseRelations request value
      | .rejoin | .recover => recoveryResponseRelations route request value
      | .observation => false

/-! ### The forwarder -/

def schemaDigest : String := "2f3bc99e53080fa11b39592b64fb0ab964a16f568719a2622d0b2caf766ab629"
def protocolVersion : String := "coop-native-v1"
def artifact : String := "sts2-protocol/coop-native-v1"
def schemaSource : String := "schemas/coop-native-v1.schema.json"
def generator : String := "hand-authored"
def maxErrorBytes : ℕ := 1024

structure CoopNativeForwarder where
  maxRequestBytes : ℕ
  maxResponseBytes : ℕ
deriving DecidableEq, Repr

inductive CoopNativeForwardError where
  | requestBodyRequired
  | requestBodyForbidden
  | requestBodyOversized
  | requestBodyMalformed
  | responseOversized
  | responseMalformed
deriving DecidableEq, Repr

def provenanceValid (value : Json) : Bool :=
  (value.get "provenance").asObject.any fun members =>
    members.length = 3 && members.lookup "artifact" = some (.str artifact) &&
      members.lookup "source" = some (.str schemaSource) &&
      members.lookup "generator" = some (.str generator)

/-- The envelope repeats the headers. -/
def headersMatch (value : Json) (headers : HttpRequest) : Bool :=
  [("correlation_id", "x-sts2-correlation-id"), ("instance_id", "x-sts2-instance-id"),
      ("session_id", "x-sts2-session-id"), ("lease_id", "x-sts2-lease-id")].all
    (fun (field, header) => (value.get field).asStr = headers.header header) &&
  (value.get "lease_epoch").asU64 =
    (headers.header "x-sts2-lease-epoch").bind GameInformation.parseU64

def validErrorCode (value : String) : Bool :=
  !value.isEmpty && value.utf8ByteSize ≤ 256 &&
    Text.allBytes value fun byte =>
      (97 ≤ byte && byte ≤ 122) || isAsciiDigit byte || byte == 95

/-- The refusals of the host come outside the envelope, with one member. -/
def isBoundedError (response : HttpResponse) : Bool :=
  (response.status = 400 || response.status = 409 || response.status = 503) &&
    response.body.size ≠ 0 && response.body.size ≤ maxErrorBytes &&
    response.body.json.any fun value => value.asObject.any fun members =>
      members.length = 1 && (value.get "error_code").asStr.any validErrorCode

section Schema

variable [CoopNativeSchema]

def parseAndValidate (body : Body) : Option Json :=
  body.json.filter fun value =>
    (value.get "protocol_version").asStr = some protocolVersion &&
      (value.get "schema_digest").asStr = some schemaDigest && provenanceValid value &&
      CoopNativeSchema.isValid value

namespace CoopNativeForwarder

variable (forwarder : CoopNativeForwarder)

def validateRequest (route : CoopNativeRoute) (request : HttpRequest) :
    Except CoopNativeForwardError (Option Json) := do
  if route = .observation then
    refuse (request.body.size ≠ 0) .requestBodyForbidden
    return none
  else
    refuse (request.body.size = 0) .requestBodyRequired
    refuse (request.body.size > forwarder.maxRequestBytes) .requestBodyOversized
    let value ← okOr (parseAndValidate request.body) .requestBodyMalformed
    refuse ((value.get "kind").asStr ≠ route.requestKind ∨ ¬ headersMatch value request ∨
      ¬ requestRelations route value) .requestBodyMalformed
    return some value

def validateResponse (route : CoopNativeRoute) (request : Option Json) (headers : HttpRequest)
    (response : HttpResponse) : Except CoopNativeForwardError Json := do
  refuse (response.body.size > forwarder.maxResponseBytes) .responseOversized
  let value ← okOr (parseAndValidate response.body) .responseMalformed
  refuse ((value.get "kind").asStr ≠ some route.responseKind ∨ ¬ headersMatch value headers ∨
    ¬ responseRelations route request response.status value) .responseMalformed
  return value

end CoopNativeForwarder

end Schema

/-! ### What the checks say -/

variable [CoopNativeSchema] {forwarder : CoopNativeForwarder} {route : CoopNativeRoute}
  {headers : HttpRequest}

/-- A request about an operation names it. -/
lemma operation_of_validateRequest {envelope : Option Json}
    (h : forwarder.validateRequest route headers = .ok envelope)
    (hroute : route.starts = true ∨ route = .recover) :
    ∃ value operationId, envelope = some value ∧
      (value.get "operation_id").asStr = some operationId := by
  rw [CoopNativeForwarder.validateRequest, if_neg (by rintro rfl; simp [CoopNativeRoute.starts]
    at hroute)] at h
  simp only [except_bind_eq_ok, refuse_eq_ok, okOr_eq_ok] at h
  obtain ⟨_, _, _, _, value, hvalue, _, hchecks, hpure⟩ := h
  have hkind : (value.get "kind").asStr = route.requestKind := by
    by_contra hne
    exact hchecks (.inl hne)
  obtain ⟨-, hvalid⟩ := Option.filter_eq_some_iff.mp hvalue
  have hschema : CoopNativeSchema.isValid value = true := (Bool.and_eq_true_iff.mp hvalid).2
  have hnamed : ∃ kind ∈ operationKinds, route.requestKind = some kind := by
    cases route with
    | observation | legalCatalog => simp [CoopNativeRoute.starts] at hroute
    | localAction | sharedVote | rejoin | recover =>
      exact ⟨_, by decide, rfl⟩
  obtain ⟨kind, hmem, hsome⟩ := hnamed
  have hoperation := CoopNativeSchema.names_operation value kind hschema (hkind.trans hsome) hmem
  obtain ⟨operationId, hid⟩ := Option.isSome_iff_exists.mp hoperation
  exact ⟨value, operationId, (Except.ok.inj hpure).symm, hid⟩

/-- The answer to a request about an operation is about the same one. -/
lemma operation_of_validateResponse {request value : Json} {response : HttpResponse}
    (h : forwarder.validateResponse route (some request) headers response = .ok value)
    (hroute : route.starts = true ∨ route = .recover) :
    (value.get "operation_id").asStr = (request.get "operation_id").asStr := by
  simp only [CoopNativeForwarder.validateResponse, except_bind_eq_ok, refuse_eq_ok] at h
  obtain ⟨_, _, other, _, _, hchecks, hpure⟩ := h
  obtain rfl := Except.ok.inj hpure
  have hrelations : responseRelations route (some request) response.status other = true := by
    by_contra hne
    exact hchecks (.inr (.inr hne))
  have hroutes := (Bool.and_eq_true_iff.mp hrelations).2
  have heffect : effectResponseRelations request other = true →
      (other.get "operation_id").asStr = (request.get "operation_id").asStr := by
    intro heffect
    rw [effectResponseRelations] at heffect
    obtain ⟨_, hchain⟩ := Option.isSome_iff_exists.mp heffect
    simp only [Option.bind_eq_bind, Option.bind_eq_some_iff, Option.guard_eq_some'] at hchain
    obtain ⟨operationId, hid, _, _, _, _, _, _, _, ⟨hsame, -⟩, -⟩ := hchain
    rw [hsame, hid]
  have hrecovery : recoveryResponseRelations route request other = true →
      (other.get "operation_id").asStr = (request.get "operation_id").asStr := by
    intro hrecovery
    rw [recoveryResponseRelations] at hrecovery
    obtain ⟨_, hchain⟩ := Option.isSome_iff_exists.mp hrecovery
    simp only [Option.bind_eq_bind, Option.bind_eq_some_iff, Option.guard_eq_some'] at hchain
    obtain ⟨operationId, hid, _, _, _, hsame, -⟩ := hchain
    rw [hsame, hid]
  cases route with
  | observation | legalCatalog => simp [CoopNativeRoute.starts] at hroute
  | localAction | sharedVote => exact heffect hroutes
  | rejoin | recover => exact hrecovery hroutes

end Sts2Gateway.CoopNative
