/-
The native co-op routes of the runtime service (`service_coop_native.rs`,
`service_coop_native_return.rs`).

* `CoopNativePeerBinding`, `CoopNativePendingOperation`: the peer that this gateway serves, and
  the operation whose outcome is open;
* `admitCoopNativeOperation`, `recordCoopNativeReturn`, `clearRejectedCoopNativePending`: **how
  an operation becomes pending, and how it is resolved**;
* `coopNativeRequest`: one request, with the answers of the lease check and of the host;
* `constantTimeEqual_iff`: the comparison of tokens that looks at every byte.
-/
import Mathlib.Tactic
import Sts2Gateway.Service.CanonicalForm
import Sts2Gateway.CoopNative.Contract

namespace Sts2Gateway.CoopNative

open CompactJson Procedure Service

/-! ### Tokens -/

/-- Texts of one length whose bytes show no difference. -/
def constantTimeEqual (provided : Option String) (expected : String) : Bool :=
  provided.any fun provided =>
    (utf8 provided).length = (utf8 expected).length &&
      ((utf8 provided).zip (utf8 expected)).foldl
        (fun difference pair => difference ||| (pair.1 ^^^ pair.2)) 0 = 0

/-- Differences add up, and never cancel. -/
lemma foldl_difference {pairs : List (UInt8 × UInt8)} {difference : UInt8} :
    pairs.foldl (fun difference pair => difference ||| (pair.1 ^^^ pair.2)) difference = 0 ↔
      difference = 0 ∧ ∀ pair ∈ pairs, pair.1 = pair.2 := by
  induction pairs generalizing difference with
  | nil => simp
  | cons pair pairs ih =>
    rw [List.foldl_cons, ih, UInt8.or_eq_zero_iff, UInt8.xor_eq_zero_iff, List.forall_mem_cons,
      and_assoc]

lemma eq_of_zip {α : Type} {xs ys : List α} (hlength : xs.length = ys.length)
    (h : ∀ pair ∈ xs.zip ys, pair.1 = pair.2) : xs = ys := by
  refine List.ext_getElem hlength fun n hx hy => ?_
  have hpair := h (xs[n], ys[n]) (List.mem_iff_getElem.mpr
    ⟨n, by rw [List.length_zip]; exact lt_min hx hy, List.getElem_zip⟩)
  exact hpair

lemma constantTimeEqual_iff {provided : Option String} {expected : String} :
    constantTimeEqual provided expected = true ↔ provided = some expected := by
  cases provided with
  | none => simp [constantTimeEqual]
  | some provided =>
    rw [constantTimeEqual, Option.any_some, Bool.and_eq_true, decide_eq_true_eq,
      decide_eq_true_eq, foldl_difference, Option.some_inj]
    constructor
    · rintro ⟨hlength, -, hpairs⟩
      exact utf8_inj (eq_of_zip hlength hpairs)
    · rintro rfl
      refine ⟨rfl, rfl, fun pair hpair => ?_⟩
      obtain ⟨n, hn, rfl⟩ := List.mem_iff_getElem.mp hpair
      rw [List.getElem_zip]

/-! ### The service -/

structure CoopNativePeerBinding where
  peerToken : String
  peerId : String
  instanceId : String
  sessionId : String
  leaseId : String
  leaseEpoch : ℕ
deriving DecidableEq, Repr

structure CoopNativePendingOperation where
  route : CoopNativeRoute
  operationId : String
  binding : CoopNativePeerBinding
  authorityId : Option String
  authorityEpoch : Option String
deriving DecidableEq, Repr

/-- What the runtime service keeps for these routes.  The binding is configured when the process
starts. -/
structure CoopNativeService where
  coopNative : CoopNativeForwarder
  peerBinding : Option CoopNativePeerBinding
  pending : Option CoopNativePendingOperation

/-- A request, as the route finds it, and what the lease check says. -/
structure CoopNativeCall where
  leaseCheck : Except Reply Unit
  request : HttpRequest

/-- A request that was sent to the host, and its answer or the status that stands for none. -/
structure Forwarded where
  route : CoopNativeRoute
  request : HttpRequest
  envelope : Option Json
  answer : DownstreamAnswer

/-- The end of a request. -/
structure Served where
  reply : Reply
  service : CoopNativeService
  forwarded : Option Forwarded

def CoopNativePeerBinding.matches (binding : CoopNativePeerBinding) (request : HttpRequest) :
    Bool :=
  request.header "x-sts2-instance-id" = some binding.instanceId &&
    request.header "x-sts2-session-id" = some binding.sessionId &&
    request.header "x-sts2-lease-id" = some binding.leaseId &&
    (request.header "x-sts2-lease-epoch").bind GameInformation.parseU64 =
      some binding.leaseEpoch

def sameBinding (left right : CoopNativePeerBinding) : Bool :=
  constantTimeEqual (some left.peerToken) right.peerToken && left.peerId = right.peerId &&
    left.instanceId = right.instanceId && left.sessionId = right.sessionId &&
    left.leaseId = right.leaseId && left.leaseEpoch = right.leaseEpoch

def requestError : CoopNativeForwardError → Reply
  | .requestBodyRequired => .error 400 "coop_native_body_required"
  | .requestBodyForbidden => .error 400 "coop_native_body_forbidden"
  | .requestBodyOversized => .error 413 "coop_native_body_oversized"
  | .requestBodyMalformed => .error 400 "coop_native_request_invalid"
  | .responseOversized => .error 502 "coop_native_response_oversized"
  | .responseMalformed => .error 502 "coop_native_response_invalid"

/-- The operation that a request names. -/
def operationOf (envelope : Option Json) : Option String :=
  envelope.bind fun envelope => (envelope.get "operation_id").asStr

/-- The routes whose envelopes name the acting peer. -/
def CoopNativeRoute.namesActor : CoopNativeRoute → Bool
  | .legalCatalog | .localAction | .sharedVote | .rejoin => true
  | .observation | .recover => false

def unconfigured : Reply := .error 503 "coop_native_peer_binding_unconfigured"

def responseInvalid : Reply := .error 502 "coop_native_response_invalid"

namespace CoopNativeService

variable (service : CoopNativeService)

def withPending (pending : Option CoopNativePendingOperation) : CoopNativeService :=
  { service with pending }

def validateCoopNativeBinding (request : HttpRequest) (route : CoopNativeRoute)
    (envelope : Option Json) : Except Reply Unit := do
  let binding ← okOr service.peerBinding unconfigured
  refuse (binding.matches request = false) (.error 409 "coop_native_route_binding_stale")
  refuse (constantTimeEqual (request.header "x-sts2-peer-token") binding.peerToken = false)
    (.error 401 "coop_native_peer_unauthorized")
  refuse (route.namesActor = true ∧
    envelope.any fun value => decide ((value.get "actor_peer").asStr ≠ some binding.peerId))
    (.error 409 "coop_native_peer_substitution_rejected")

def admitCoopNativeOperation (route : CoopNativeRoute) (envelope : Option Json) :
    Except Reply CoopNativeService :=
  match operationOf envelope with
  | none => .ok service
  | some operationId =>
    match route with
    | .localAction | .sharedVote | .rejoin => do
      refuse (service.pending.isSome = true) (.error 409 "coop_native_operation_pending")
      let binding ← okOr service.peerBinding unconfigured
      return service.withPending (some
        { route, operationId, binding, authorityId := none, authorityEpoch := none })
    | .recover => do
      let pending ← okOr service.pending (.error 409 "coop_native_operation_not_pending")
      refuse (pending.operationId ≠ operationId ∨
        (service.peerBinding.any fun binding => sameBinding binding pending.binding) = false)
        (.error 409 "coop_native_recovery_binding_rejected")
      return service
    | .observation | .legalCatalog => .ok service

/-- The one local peer of the host is the bound one. -/
def validateCoopNativeReturnLocalPeer (response : Body) : Except Reply Unit := do
  let binding ← okOr service.peerBinding unconfigured
  let value ← okOr response.json responseInvalid
  let mismatch : Reply := .error 409 "coop_native_local_peer_mismatch"
  let peers ← okOr ((value.get "observation").get "peers").asArray mismatch
  match peers.filter fun peer => (peer.get "role").asStr = some "local" with
  | [peer] => refuse ((peer.get "peer_token").asStr ≠ some binding.peerId) mismatch
  | _ => .error mismatch

def observedAuthorityId (value : Json) : Option String :=
  ((value.get "observation").get "authority_id").asStr

def observedAuthorityEpoch (value : Json) : Option String :=
  ((value.get "observation").get "host_authority_epoch").asStr

/-- An answer that settles or rejects its operation. -/
def terminal (value : Json) : Bool :=
  (value.get "status").asStr = some "settled" || (value.get "status").asStr = some "rejected"

/-- The pending operation after an answer about it: none when it is resolved, and otherwise
bound to the authority of the answer. -/
def recordCoopNativeReturn (route : CoopNativeRoute) (request : Option Json) (response : Body) :
    Except Reply CoopNativeService :=
  match operationOf request with
  | none => .ok service
  | some operationId =>
    if route.starts = false ∧ route ≠ .recover then .ok service
    else do
      let pending ← okOr service.pending (.error 502 "coop_native_return_binding_missing")
      refuse (pending.operationId ≠ operationId ∨ (route ≠ .recover ∧ pending.route ≠ route))
        (.error 502 "coop_native_return_binding_rejected")
      let value ← okOr response.json responseInvalid
      refuse (pending.authorityId.isSome = true ∧ pending.authorityEpoch.isSome = true ∧
        (observedAuthorityId value ≠ pending.authorityId ∨
          observedAuthorityEpoch value ≠ pending.authorityEpoch))
        (.error 409 "coop_native_authority_changed")
      return service.withPending (if terminal value then none else some
        { pending with
          authorityId := observedAuthorityId value
          authorityEpoch := observedAuthorityEpoch value })

/-- The host has refused the very request that is pending. -/
def clearRejectedCoopNativePending (route : CoopNativeRoute) (request : Option Json) :
    CoopNativeService :=
  match operationOf request with
  | none => service
  | some operationId =>
    if service.pending.any fun pending =>
        pending.route = route && pending.operationId = operationId then service.withPending none
    else service

section Schema

variable [CoopNativeSchema]

/-- The checks of a request before it is forwarded. -/
def admitted (route : CoopNativeRoute) (call : CoopNativeCall) :
    Except Reply (Option Json × CoopNativeService) := do
  call.leaseCheck
  refuse (route ≠ .observation ∧ call.request.contentTypeIsJson = false)
    (.error 400 "coop_native_content_type_required")
  let envelope ← (service.coopNative.validateRequest route call.request).mapError requestError
  service.validateCoopNativeBinding call.request route envelope
  let admitted ← service.admitCoopNativeOperation route envelope
  return (envelope, admitted)

/-- What an answer that passed its validation does. -/
def returned (route : CoopNativeRoute) (envelope : Option Json) (response : Body) :
    Except Reply CoopNativeService := do
  service.validateCoopNativeReturnLocalPeer response
  service.recordCoopNativeReturn route envelope response

def relay (response : HttpResponse) : Reply where
  status := response.status
  body := .relayed response.body

/-- The end of a request that was admitted, by the answer to it. -/
def answered (forwarded : Forwarded) : Reply × CoopNativeService :=
  match forwarded.answer with
  | .error status => (.error status "coop_native_downstream_unavailable", service)
  | .ok response =>
    match service.coopNative.validateResponse forwarded.route forwarded.envelope
        forwarded.request response with
    | .ok _ =>
      match service.returned forwarded.route forwarded.envelope response.body with
      | .ok service => (relay response, service)
      | .error reply => (reply, service)
    | .error _ =>
      if isBoundedError response then
        (relay response,
          if response.status = 400 ∨ response.status = 409 then
            service.clearRejectedCoopNativePending forwarded.route forwarded.envelope
          else service)
      else (responseInvalid, service)

def coopNativeRequest (route : CoopNativeRoute) (call : CoopNativeCall)
    (answer : DownstreamAnswer) : Served :=
  match service.admitted route call with
  | .error reply => ⟨reply, service, none⟩
  | .ok (envelope, admitted) =>
    let forwarded : Forwarded := ⟨route, call.request, envelope, answer⟩
    let (reply, after) := admitted.answered forwarded
    ⟨reply, after, some forwarded⟩

/-- A service that has just been built. -/
def new (coopNative : CoopNativeForwarder) (peerBinding : Option CoopNativePeerBinding) :
    CoopNativeService where
  coopNative
  peerBinding
  pending := none

end Schema

end CoopNativeService

/-! ### Runs -/

/-- The service and what it has sent to the host, in order. -/
structure System where
  service : CoopNativeService
  forwards : List Forwarded

structure Input where
  route : CoopNativeRoute
  call : CoopNativeCall
  answer : DownstreamAnswer

def start (coopNative : CoopNativeForwarder) (peerBinding : Option CoopNativePeerBinding) :
    System where
  service := .new coopNative peerBinding
  forwards := []

def next [CoopNativeSchema] (system : System) (input : Input) : System :=
  let served := system.service.coopNativeRequest input.route input.call input.answer
  { service := served.service
    forwards := system.forwards ++ served.forwarded.toList }

def run [CoopNativeSchema] : System → List Input → System := Machine.run next

end Sts2Gateway.CoopNative
