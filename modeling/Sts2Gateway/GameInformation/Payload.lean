/-
Game-information queries and their answers (`game_information.rs`,
`game_information_payload.rs`, `game_information_payload_response.rs`).

* `GameInformationRoute`: the routes, each with the query kind that it takes;
* `validateQuery`: **the checks of a query** against the content, the run and the headers;
* `normalizedQuery`, `cursor`: a query without its cursor, and the cursor;
* `validateQueryResponse`, `validateCapabilities`: the checks of the producer's answers.

Lengths are those of the compact text.  A query and its answer are compared member by
member, in the order in which the parser keeps the members.
-/
import Mathlib.Tactic
import Sts2Gateway.Service.State

namespace Sts2Gateway.GameInformation

open CompactJson Procedure Service

/-! ### Routes -/

inductive GameInformationRoute where
  | capabilities
  | contentManifest
  | lookupBinding
  | liveObservationBootstrap
  | query
  | list
  | search
  | get
  | detail
  | availability
deriving DecidableEq, Repr

namespace GameInformationRoute

def isQuery : GameInformationRoute → Bool
  | .capabilities | .contentManifest | .lookupBinding | .liveObservationBootstrap => false
  | .query | .list | .search | .get | .detail | .availability => true

def queryKind : GameInformationRoute → Option String
  | .capabilities | .contentManifest | .lookupBinding | .liveObservationBootstrap | .query => none
  | .list => some "list"
  | .search => some "search"
  | .get => some "get"
  | .detail => some "detail"
  | .availability => some "availability"

def fromQueryKind (kind : String) : Option GameInformationRoute :=
  [list, search, get, detail, availability].find? fun route => route.queryKind = some kind

def downstreamPath : GameInformationRoute → String
  | .capabilities => "/api/v1/game-information/capabilities"
  | .contentManifest => "/api/v1/game-information/content-manifest"
  | .lookupBinding => "/api/v1/game-information/lookup-binding"
  | .liveObservationBootstrap => "/api/v1/game-information/live-observation-bootstrap"
  | .query => ""
  | .list => "/api/v1/game-information/list"
  | .search => "/api/v1/game-information/search"
  | .get => "/api/v1/game-information/get"
  | .detail => "/api/v1/game-information/detail"
  | .availability => "/api/v1/game-information/availability"

end GameInformationRoute

/-! ### Bounds -/

def maxPageItems : ℕ := 32
def maxItemBytes : ℕ := 4096
def maxPageBytes : ℕ := 65536
def maxTextBytes : ℕ := 4096
def maxMessageBytes : ℕ := 262144
def maxCursorBytes : ℕ := 512

/-- A number member between one and a bound. -/
def boundedMember (limits : Json) (key : String) (bound : ℕ) : Bool :=
  (limits.u64? key).any fun value => 1 ≤ value ∧ value ≤ bound

def limitsWithinGatewayBudget (limits : Option Json) : Bool :=
  limits.any fun limits =>
    boundedMember limits "page_items" maxPageItems &&
      boundedMember limits "item_bytes" maxItemBytes &&
      boundedMember limits "page_bytes" maxPageBytes &&
      boundedMember limits "text_bytes" maxTextBytes

/-! ### Queries -/

inductive GameInformationRequestError where
  | required
  | oversized
  | invalid
  | scope
  | limit
deriving DecidableEq, Repr

/-- A sum of two 64-bit numbers that stops at the largest. -/
def saturatingAdd (a b : ℕ) : ℕ := min (a + b) (2 ^ 64 - 1)

/-- A decimal number of 64 bits, with a plus sign or without. -/
def parseU64 (text : String) : Option ℕ :=
  let digits := match text.toList with
    | '+' :: digits => digits
    | digits => digits
  if digits ≠ [] ∧ digits.all Char.isDigit then
    let value := digits.foldl (fun value digit => 10 * value + (digit.toNat - 48)) 0
    if value < 2 ^ 64 then some value else none
  else none

/-- A query without its cursor. -/
def normalizedQuery (query : Json) : Option Json :=
  query.object.map fun query => query.erase "cursor"

def cursor (query : Json) : Option String := query.str? "cursor"

def instanceMatchesHeaders (inst : Json) (request : HttpRequest) (runId : String) : Bool :=
  inst.str? "instance_id" = request.header "x-sts2-instance-id" &&
    inst.str? "run_id" = some runId &&
    inst.u64? "epoch" = (request.header "x-sts2-lease-epoch").bind parseU64

def targetMatchesContent (target : Option Json) (contentManifestId : String) : Bool :=
  (target.bind Json.object).any fun target =>
    ((target.member "definition_ref").bind Json.object).all fun reference =>
      reference.str? "content_manifest_id" = some contentManifestId

def filtersValid (filters : Option Json) (mode : String) (request : HttpRequest)
    (contentManifestId : String) : Bool :=
  (filters.bind Json.object).any fun filters =>
    let definitions := ((filters.member "definition_refs").bind Json.asArray).any fun items =>
      items.all fun item => item.str? "content_manifest_id" = some contentManifestId
    let instanceValid := ((filters.member "instance_ids").bind Json.asArray).any fun items =>
      if mode = "static" then items.isEmpty
      else if mode = "live" then
        items.all fun item => item.asStr.any fun id =>
          some id = request.header "x-sts2-instance-id"
      else false
    definitions && instanceValid

def validateStaticQuery (query binding : Json) : Except GameInformationRequestError Unit := do
  refuse (binding.str? "visibility_scope" ≠ some "public" ∨
    binding.member "instance_ref" ≠ some .null ∨ binding.member "snapshot_ref" ≠ some .null ∨
    query.member "parent_observation" ≠ some .null) .scope
  refuse (((query.member "target").bind Json.object).bind (·.member "instance_ref") ≠
    some .null) .scope

def snapshotGenerationMatches (snapshot query : Json) : Bool :=
  ((query.member "parent_observation").bind (·.u64? "state_generation")).all fun generation =>
    some generation = snapshot.u64? "state_generation"

def parentMatchesSnapshot (query instanceRef snapshotRef : Json) : Bool :=
  (query.member "parent_observation").any fun parent =>
    parent = .null ||
      (parent.member "instance_ref" = some instanceRef &&
        parent.member "snapshot_ref" = some snapshotRef &&
        parent.member "state_generation" = snapshotRef.member "state_generation")

def validateLiveQuery (query binding : Json) (request : HttpRequest) (runId : String) :
    Except GameInformationRequestError Unit := do
  refuse (binding.str? "visibility_scope" ≠ some "player") .scope
  let instanceRef ← okOr ((binding.member "instance_ref").bind Json.object) .invalid
  let snapshotRef ← okOr ((binding.member "snapshot_ref").bind Json.object) .invalid
  refuse (¬ instanceMatchesHeaders instanceRef request runId ∨
    snapshotRef.member "instance_ref" ≠ some instanceRef ∨
    ¬ snapshotGenerationMatches snapshotRef query ∨
    ¬ parentMatchesSnapshot query instanceRef snapshotRef) .scope
  refuse (((query.member "target").bind (·.member "instance_ref")).any
    fun target => decide (target ≠ instanceRef)) .scope

def validateQuery (route : GameInformationRoute) (query : Json) (request : HttpRequest)
    (contentManifestId runId : String) : Except GameInformationRequestError Unit := do
  let queryKind ← okOr (query.str? "query_kind") .invalid
  refuse (route.queryKind.any (fun expected => decide (expected ≠ queryKind)) ∨
    (route = .query ∧ (GameInformationRoute.fromQueryKind queryKind).isNone) ∨
    route = .capabilities) .invalid
  let binding ← okOr ((query.member "binding").bind Json.object) .invalid
  refuse (binding.str? "content_manifest_id" ≠ some contentManifestId) .scope
  let mode ← okOr (binding.str? "mode") .invalid
  refuse (¬ limitsWithinGatewayBudget ((query.member "limits").bind Json.object)) .limit
  refuse (¬ targetMatchesContent (query.member "target") contentManifestId ∨
    ¬ filtersValid (query.member "filters") mode request contentManifestId) .scope
  if mode = "static" then validateStaticQuery query binding
  else if mode = "live" then validateLiveQuery query binding request runId
  else .error .invalid

/-! ### Answers -/

/-- The length of the compact text. -/
def measured (value : Json) : ℕ := value.toBytes.size

def resultGenerationValid (result query : Json) (mode : Option String) : Bool :=
  if mode = some "static" then
    result.member "result_generation" = some .null &&
      result.member "parent_observation" = some .null
  else if mode = some "live" then
    let generation := ((query.member "binding").bind (·.member "snapshot_ref")).bind
      (·.member "state_generation")
    result.member "result_generation" = generation &&
      result.member "parent_observation" = query.member "parent_observation"
  else false

/-- A member that is missing or null. -/
def absent (value : Option Json) : Bool := value.all Json.isNull

def pageBoundsValid (page query : Json) : Bool :=
  ((query.member "limits").bind Json.object).any fun limits =>
    ((page.member "items").bind Json.asArray).any fun items =>
      ((page.member "accounting").bind Json.object).any fun accounting =>
        let finalPage := decide (page.member "final_page" = some (.bool true))
        let limit := fun key => (limits.u64? key).getD 0
        let measuredPageBytes := measured (page.erase "accounting")
        let measuredPayloadBytes := measured (.arr items)
        let measuredItemBytes := (items.map measured).foldr max 0
        finalPage == absent (page.member "next_cursor") &&
          items.length ≤ limit "page_items" &&
          measuredItemBytes ≤ limit "item_bytes" &&
          measuredPageBytes ≤ limit "page_bytes" &&
          measuredPayloadBytes ≤ limit "page_bytes" &&
          accounting.u64? "item_count" = some items.length &&
          accounting.u64? "item_bytes" = some measuredItemBytes &&
          accounting.u64? "payload_bytes" = some measuredPayloadBytes &&
          accounting.u64? "page_bytes" = some measuredPageBytes &&
          (accounting.u64? "text_bytes").any fun bytes => bytes ≤ limit "text_bytes"

def itemInstanceValid (item query : Json) (mode : Option String) (request : HttpRequest)
    (runId : String) : Bool :=
  if mode = some "static" then item.member "instance_ref" = some .null
  else if mode = some "live" then
    ((item.member "instance_ref").bind Json.object).any fun inst =>
      some inst = (query.member "binding").bind (·.member "instance_ref") &&
        instanceMatchesHeaders inst request runId
  else false

def fieldAvailabilityValid (field : Json) : Bool :=
  (field.str? "availability").any fun availability =>
    let available := decide (availability = "available")
    (!absent (field.member "value")) == available && (!absent (field.member "reason")) == !available

def fieldTextBytes (field : Json) : ℕ :=
  if field.str? "availability" ≠ some "available" then 0
  else
    match field.member "value" with
    | some (.str value) => value.utf8ByteSize
    | some (.arr values) => ((values.filterMap Json.asStr).map String.utf8ByteSize).sum
    | _ => 0

/-- An item of the content, with fields that say whether they are available. -/
def itemValid (item query : Json) (mode : Option String) (contentManifestId runId : String)
    (request : HttpRequest) : Bool :=
  item.object.isSome && ((item.member "definition_ref").bind Json.object).any fun definition =>
    definition.str? "content_manifest_id" = some contentManifestId &&
      definition.member "entity_kind" = query.member "entity_kind" &&
      itemInstanceValid item query mode request runId &&
      ((item.member "fields").bind Json.asArray).any fun fields =>
        fields.all fun field => field.object.isSome && fieldAvailabilityValid field

/-- The texts of the available fields of an item. -/
def itemTextBytes (item : Json) : List ℕ :=
  (((item.member "fields").bind Json.asArray).getD []).map fieldTextBytes

def itemsValid (page query : Json) (mode : Option String) (contentManifestId runId : String)
    (request : HttpRequest) : Bool :=
  ((page.member "items").bind Json.asArray).any fun items =>
    (items.all fun item => itemValid item query mode contentManifestId runId request) &&
      ((page.member "accounting").bind (·.u64? "text_bytes")).any fun declared =>
        declared = (items.flatMap itemTextBytes).foldl saturatingAdd 0

def cursorBindingValid (page query : Json) : Bool :=
  let binding := page.member "cursor_binding"
  !((page.str? "next_cursor").isSome && absent binding) &&
    binding.all fun binding =>
      binding = .null || (normalizedQuery query).any fun normalized => binding = normalized

def totalsValid (page : Json) : Bool :=
  decide (page.member "total_count_known" = some (.bool true)) ==
    !absent (page.member "total_count")

def validateQueryResponse (request response : Json) (contentManifestId runId : String)
    (headers : HttpRequest) : Bool :=
  (request.member "query").any fun requestQuery =>
    response.member "query" = some requestQuery &&
      ((response.member "result").bind Json.object).any fun result =>
        result.member "read_only" = some (.bool true) &&
          ((result.member "page").bind Json.object).any fun page =>
            let mode := (requestQuery.member "binding").bind (·.str? "mode")
            page.member "limits" = requestQuery.member "limits" &&
              resultGenerationValid result requestQuery mode &&
              pageBoundsValid page requestQuery &&
              itemsValid page requestQuery mode contentManifestId runId headers &&
              cursorBindingValid page requestQuery && totalsValid page

def validateCapabilities (value : Json) : Bool :=
  ((value.member "capabilities").bind Json.object).any fun capabilities =>
    ((capabilities.member "limits").bind Json.object).any fun limits =>
      capabilities.str? "profile" = some "game-information-query-v1" &&
        (((capabilities.member "query_kinds").bind Json.asArray).any fun kinds => !kinds.isEmpty) &&
        limitsWithinGatewayBudget (some limits) &&
        ((capabilities.u64? "max_message_bytes").any fun bytes => bytes ≤ maxMessageBytes) &&
        ((capabilities.u64? "max_cursor_bytes").any fun bytes => bytes ≤ maxCursorBytes) &&
        ((capabilities.member "snapshot_policy").bind Json.object).any fun policy =>
          policy.member "supports_live" = some (.bool true)

end Sts2Gateway.GameInformation
