/-
Cursors over the runs of the game-information route.

* `issue`: the cursor that an accepted answer gives out, and the query that it goes on with;
* `Bound`: the bindings that a service holds, against all that were issued;
* `Continues`: **a held cursor only continues the query that issued it last**;
* `Retained`: what a request does to the bindings that are held;
* `cursors_continue`: every run keeps both;
* `cursor_forwarded_after_eviction`: a cursor that is held no longer continues any query.
-/
import Mathlib.Tactic
import Sts2Gateway.Library.Machine
import Sts2Gateway.GameInformation.Service

namespace Sts2Gateway.GameInformation

open CompactJson Machine OrderedMap Procedure Service

section Schema

variable [GameInformationSchema]

/-! ### Issued cursors -/

/-- What the answer to a query issues, when it is accepted. -/
def GameInformationService.issue (service : GameInformationService) :
    Input → Option (String × Json)
  | .query route _ call answer => do
    let response ← answer.toOption
    let _ ← call.leaseCheck.toOption
    let admitted ← (service.admitted route call.request).toOption
    let value ← (service.accepted admitted call.request response).toOption.join
    if call.cancelled then none else GameInformationService.issued admitted.query value
  | _ => none

/-- The service after a run. -/
def GameInformationService.run (service : GameInformationService) (inputs : List Input) :
    GameInformationService :=
  Machine.run step service inputs

/-- The cursors that a run has issued, the latest last. -/
def GameInformationService.log (service : GameInformationService) (inputs : List Input) :
    List (String × Json) :=
  outputs step GameInformationService.issue service inputs

end Schema

/-- The bindings that are held are the latest ones of their cursors, which are short.  None
is forgotten before as many were issued as are held at most. -/
structure Bound (bindings : CursorBindings) (log : List (String × Json)) : Prop where
  latest : ∀ (cursor : String) (binding : Json), bindings[cursor]? = some binding →
    OrderedMap.latest log cursor = some binding
  short : ∀ cursor ∈ bindings, cursor.utf8ByteSize ≤ maxCursorBytes
  size : bindings.size ≤ log.length
  few : log.length ≤ maxCursorBindings → ∀ issue ∈ log, issue.1.utf8ByteSize ≤ maxCursorBytes →
    issue.1 ∈ bindings

section Steps

variable {service : GameInformationService} {log : List (String × Json)}

/-- What an issue does to the bindings. -/
inductive Remembers (service : GameInformationService) :
    Option (String × Json) → CursorBindings → Prop where
  | none : Remembers service none service.cursorBindings
  | long (cursor : String) (binding : Json) (long : maxCursorBytes < cursor.utf8ByteSize) :
      Remembers service (some (cursor, binding)) service.cursorBindings
  | kept (cursor : String) (binding : Json) (short : cursor.utf8ByteSize ≤ maxCursorBytes) :
      Remembers service (some (cursor, binding))
        ((makeRoom maxCursorBindings service.cursorBindings).insert cursor binding)

lemma Bound.long {bindings : CursorBindings} (h : Bound bindings log) {cursor : String}
    (binding : Json) (hlong : maxCursorBytes < cursor.utf8ByteSize) :
    Bound bindings (log ++ [(cursor, binding)]) := by
  refine ⟨fun held other hfind => ?_, h.short, ?_, fun hfew issue hissue hshort => ?_⟩
  · have hheld : held ∈ bindings :=
      mem_iff_getElem?_ne_none.mpr (hfind ▸ Option.some_ne_none other)
    have hne : cursor ≠ held := fun heq => absurd (h.short held hheld) (not_le.mpr (heq ▸ hlong))
    rw [latest_concat, if_neg hne]
    exact h.latest held other hfind
  · rw [List.length_append]
    exact h.size.trans (Nat.le_add_right _ _)
  · rw [List.length_append, List.length_singleton] at hfew
    rw [List.mem_append, List.mem_singleton] at hissue
    obtain hissue | rfl := hissue
    · exact h.few (by omega) issue hissue hshort
    · exact absurd hshort (not_le.mpr hlong)

lemma size_makeRoom_le (bindings : CursorBindings) :
    (makeRoom maxCursorBindings bindings).size ≤ bindings.size := by
  rw [makeRoom]
  split_ifs
  · cases bindings.minKey? with
    | none => exact le_rfl
    | some first => exact Std.ExtTreeMap.size_erase_le
  · exact le_rfl

lemma Bound.kept {bindings : CursorBindings} (h : Bound bindings log) {cursor : String}
    (binding : Json) (hshort : cursor.utf8ByteSize ≤ maxCursorBytes) :
    Bound ((makeRoom maxCursorBindings bindings).insert cursor binding)
      (log ++ [(cursor, binding)]) := by
  refine ⟨fun held other hfind => latest_of_insert h.latest hfind, fun held hheld => ?_, ?_,
    fun hfew issue hissue hissueShort => ?_⟩
  · rw [mem_iff_getElem?_ne_none, getElem?_insert_if] at hheld
    split_ifs at hheld with heq
    · exact heq ▸ hshort
    · refine h.short held (mem_iff_getElem?_ne_none.mpr ?_)
      obtain hroom | ⟨hroom, -⟩ :=
        getElem?_makeRoom maxCursorBindings bindings held
      · exact hroom ▸ hheld
      · exact absurd hroom hheld
  · rw [List.length_append, List.length_singleton]
    have hinsert := Std.ExtTreeMap.size_insert_le (t := makeRoom maxCursorBindings bindings)
      (k := cursor) (v := binding)
    have hroom := size_makeRoom_le bindings
    have hsize := h.size
    omega
  · rw [List.length_append, List.length_singleton] at hfew
    have hsize := h.size
    rw [List.mem_append, List.mem_singleton] at hissue
    obtain hissue | rfl := hissue
    · have hheld := h.few (by omega) issue hissue hissueShort
      obtain hkept | ⟨-, hfull, -⟩ := held_or_first maxCursorBindings cursor
        binding hheld
      · exact hkept
      · omega
    · rw [mem_iff_getElem?_ne_none, getElem?_insert_if, if_pos rfl]
      exact Option.some_ne_none binding

/-- What one input does keeps the bindings in step with the log. -/
lemma Remembers.bound {issue : Option (String × Json)} {bindings : CursorBindings}
    (h : Remembers service issue bindings) (hbound : Bound service.cursorBindings log) :
    Bound bindings (log ++ issue.toList) := by
  cases h with
  | none => rwa [Option.toList_none, List.append_nil]
  | long cursor binding long => exact hbound.long binding long
  | kept cursor binding short => exact hbound.kept binding short

lemma rememberNextCursor_remembers (request response : Json) :
    Remembers service (GameInformationService.issued request response)
      (service.rememberNextCursor request response).cursorBindings := by
  rw [GameInformationService.rememberNextCursor]
  cases GameInformationService.issued request response with
  | none => exact .none
  | some issue =>
    obtain ⟨cursor, binding⟩ := issue
    dsimp only
    split_ifs with hlong
    · exact .long cursor binding hlong
    · exact .kept cursor binding (not_lt.mp hlong)

/-- A guarded request that goes no further leaves the bindings alone. -/
lemma guarded_bindings {call : GameInformationCall} {next : Served}
    (h : next.service.cursorBindings = service.cursorBindings) :
    (service.guarded call next).service.cursorBindings = service.cursorBindings := by
  rw [GameInformationService.guarded]
  split_ifs
  · rfl
  · cases call.leaseCheck with
    | error reply => rfl
    | ok u => exact h

variable [GameInformationSchema]

lemma gameInformationCapabilities_bindings (call : GameInformationCall)
    (answer : Except ReadError HttpResponse) :
    (service.gameInformationCapabilities call answer).service.cursorBindings =
      service.cursorBindings := by
  refine guarded_bindings ?_
  dsimp only
  split_ifs
  · rfl
  · cases answer with
    | error error => rfl
    | ok response =>
      dsimp only
      cases service.gameInformation.validateResponse .capabilities none call.request response with
      | error error => rfl
      | ok validated =>
        obtain ⟨value, producerError⟩ := validated
        cases producerError with
        | true => rfl
        | false =>
          dsimp only
          cases parseCapabilities value <;> rfl

/-- The answer to a query that is accepted. -/
lemma step_of_accepted {route : GameInformationRoute} (isQuery : route.isQuery)
    {call : GameInformationCall} {response : HttpResponse}
    {admitted : GameInformationService.Admitted} {value : Json}
    (hcancelled : call.cancelled = false) (hlease : call.leaseCheck = .ok ())
    (hadmitted : service.admitted route call.request = .ok admitted)
    (haccepted : service.accepted admitted call.request response = .ok (some value)) :
    service.issue (.query route isQuery call (.ok response)) =
        GameInformationService.issued admitted.query value ∧
      step service (.query route isQuery call (.ok response)) =
        service.rememberNextCursor admitted.query value := by
  constructor
  · rw [GameInformationService.issue, hcancelled, hlease, hadmitted]
    dsimp only [Except.toOption, Option.bind_eq_bind, Option.bind_some]
    rw [haccepted]
    rfl
  · rw [step, GameInformationService.gameInformationRequest, GameInformationService.guarded,
      hcancelled, hlease, GameInformationService.forwardQuery, hadmitted]
    dsimp only
    rw [haccepted]
    rfl

/-- **What one input does** to the bindings. -/
lemma step_remembers (service : GameInformationService) (input : Input) :
    Remembers service (service.issue input) (step service input).cursorBindings := by
  cases input with
  | capabilities call answer =>
    rw [step, gameInformationCapabilities_bindings]
    exact .none
  | authority authority => exact .none
  | query route isQuery call answer =>
    rw [step, GameInformationService.gameInformationRequest, GameInformationService.guarded,
      GameInformationService.issue, GameInformationService.forwardQuery]
    cases call.leaseCheck with
    | error reply =>
      split_ifs <;> cases answer <;> exact .none
    | ok u =>
      cases service.admitted route call.request with
      | error reply =>
        split_ifs <;> cases answer <;> exact .none
      | ok admitted =>
        cases answer with
        | error error =>
          split_ifs <;> exact .none
        | ok response =>
          dsimp only [Except.toOption, Option.bind_eq_bind, Option.bind_some]
          cases service.accepted admitted call.request response with
          | error reply =>
            split_ifs <;> exact .none
          | ok value =>
            cases value with
            | none =>
              split_ifs <;> exact .none
            | some value =>
              dsimp only [Option.join, Option.bind_some]
              split_ifs
              · exact .none
              · exact rememberNextCursor_remembers admitted.query value

end Steps

section Compatible

variable {service : GameInformationService} {log : List (String × Json)}

/-- A cursor is compatible when its query is the one that it is bound to. -/
lemma cursorIsCompatible_iff (h : Bound service.cursorBindings log) {request query : Json}
    (hquery : request.member "query" = some query) {held : String}
    (hcursor : cursor query = some held) (hheld : held ∈ service.cursorBindings) :
    service.cursorIsCompatible request = true ↔
      ∃ binding, latest log held = some binding ∧ normalizedQuery query = some binding := by
  obtain ⟨binding, hbinding⟩ :=
    Option.ne_none_iff_exists'.mp (mem_iff_getElem?_ne_none.mp hheld)
  have hlatest := h.latest held binding hbinding
  have hshort := h.short held hheld
  rw [GameInformationService.cursorIsCompatible, hquery, Option.any_some, hcursor, Option.all_some,
    hbinding, Option.all_some, Bool.and_eq_true, decide_eq_true_eq, decide_eq_true_eq]
  constructor
  · rintro ⟨-, hnormalized⟩
    exact ⟨binding, hlatest, hnormalized⟩
  · rintro ⟨other, hother, hnormalized⟩
    rw [hlatest] at hother
    exact ⟨hshort, hother ▸ hnormalized⟩

end Compatible

/-! ### Runs -/

section Runs

variable [GameInformationSchema] {service : GameInformationService} {log : List (String × Json)}

lemma run_bound (h : Bound service.cursorBindings log) (inputs : List Input) :
    Bound (service.run inputs).cursorBindings (log ++ service.log inputs) := by
  induction inputs generalizing service log with
  | nil =>
    rw [GameInformationService.log, outputs, List.append_nil]
    exact h
  | cons input inputs ih =>
    have hnext := ih ((step_remembers service input).bound h)
    rw [List.append_assoc] at hnext
    exact hnext

/-! ### Queries that carry a held cursor -/

/-- A query that reaches the check of its cursor. -/
structure Reaches (service : GameInformationService) (route : GameInformationRoute)
    (call : GameInformationCall) (query : Json) : Prop where
  uncancelled : call.cancelled = false
  lease : call.leaseCheck = .ok ()
  validated : ∃ request operation, service.validated route call.request = .ok (request, operation) ∧
    request.member "query" = some query

/-- A held cursor only continues the query that issued it last. -/
structure Continues (service : GameInformationService) (log : List (String × Json)) : Prop where
  forwarded : ∀ route call answer request query held,
    call.request.body.json = some request → request.member "query" = some query →
      cursor query = some held → held ∈ service.cursorBindings →
        (service.gameInformationRequest route call answer).forwarded.isSome = true →
          ∃ binding, latest log held = some binding ∧ normalizedQuery query = some binding
  stale : ∀ route call answer query held, Reaches service route call query →
    cursor query = some held → held ∈ service.cursorBindings →
      normalizedQuery query ≠ latest log held →
        service.gameInformationRequest route call answer =
          service.stop GameInformationService.staleCursor

/-- A cursor is held once it is issued, until an answer issues another one while as many are
held as there is room for: then the first in the order of cursors goes. -/
structure Retained (service : GameInformationService) : Prop where
  issued : ∀ input held binding, service.issue input = some (held, binding) →
    held.utf8ByteSize ≤ maxCursorBytes → held ∈ (step service input).cursorBindings
  kept : ∀ input, ∀ held ∈ service.cursorBindings, held ∈ (step service input).cursorBindings ∨
    ∃ other binding, service.issue input = some (other, binding) ∧ other ≠ held ∧
      maxCursorBindings ≤ service.cursorBindings.size ∧
      service.cursorBindings.minKey? = some held

/-- The request that is checked is the one that was read. -/
lemma validated_json {route : GameInformationRoute} {request : HttpRequest} {query : Json}
    {operation : GameInformationRoute}
    (h : service.validated route request = .ok (query, operation)) :
    request.body.json = some query := by
  simp only [GameInformationService.validated, GameInformationForwarder.validateRequest,
    except_bind_eq_ok, refuse_eq_ok, Unique.exists_iff] at h
  obtain ⟨-, value, hvalue, operation', -, hpair⟩ := h
  obtain ⟨rfl, rfl⟩ := Prod.mk.inj (Except.ok.inj hpair)
  rw [mapError_eq_ok] at hvalue
  simp only [except_bind_eq_ok, refuse_eq_ok, Unique.exists_iff, okOr_eq_ok] at hvalue
  obtain ⟨-, -, -, read, hread, -, _, -, -, hpure⟩ := hvalue
  obtain rfl := Except.ok.inj hpure
  exact hread

/-- A query is forwarded only after its cursor was found compatible. -/
lemma compatible_of_forwarded {route : GameInformationRoute} {call : GameInformationCall}
    {answer : Except ReadError HttpResponse}
    (h : (service.gameInformationRequest route call answer).forwarded.isSome = true) :
    ∃ request operation, service.validated route call.request = .ok (request, operation) ∧
      service.cursorIsCompatible request = true := by
  rw [GameInformationService.gameInformationRequest, GameInformationService.guarded] at h
  split_ifs at h
  · cases h
  · cases hlease : call.leaseCheck with
    | error reply =>
      rw [hlease] at h
      cases h
    | ok u =>
      rw [hlease, GameInformationService.forwardQuery] at h
      cases hadmitted : service.admitted route call.request with
      | error reply =>
        rw [hadmitted] at h
        cases h
      | ok admitted =>
        simp only [GameInformationService.admitted, except_bind_eq_ok, refuse_eq_ok,
          not_not, Unique.exists_iff] at hadmitted
        obtain ⟨⟨request, operation⟩, hvalidated, hcompatible, -⟩ := hadmitted
        exact ⟨request, operation, hvalidated, hcompatible⟩

lemma Bound.continues (h : Bound service.cursorBindings log) : Continues service log where
  forwarded route call answer request query held hjson hquery hcursor hheld hforwarded := by
    obtain ⟨read, operation, hvalidated, hcompatible⟩ := compatible_of_forwarded hforwarded
    obtain rfl := Option.some.inj (hjson.symm.trans (validated_json hvalidated))
    exact (cursorIsCompatible_iff h hquery hcursor hheld).mp hcompatible
  stale route call answer query held hreaches hcursor hheld hne := by
    obtain ⟨request, operation, hvalidated, hquery⟩ := hreaches.validated
    have hstale : service.cursorIsCompatible request = false := by
      rw [Bool.eq_false_iff, ne_eq, cursorIsCompatible_iff h hquery hcursor hheld]
      rintro ⟨binding, hlatest, hnormalized⟩
      exact hne (hnormalized.trans hlatest.symm)
    have hadmitted : service.admitted route call.request =
        .error GameInformationService.staleCursor := by
      rw [GameInformationService.admitted, hvalidated]
      simp [refuse, hstale, bind, Except.bind]
    rw [GameInformationService.gameInformationRequest, GameInformationService.guarded,
      hreaches.uncancelled, hreaches.lease, GameInformationService.forwardQuery, hadmitted]
    rfl

lemma retained (service : GameInformationService) : Retained service where
  issued input held binding hissue hshort := by
    have h := step_remembers service input
    rw [hissue] at h
    generalize (step service input).cursorBindings = bindings at h
    cases h with
    | long cursor binding long => exact absurd hshort (not_le.mpr long)
    | kept cursor binding short =>
      rw [mem_iff_getElem?_ne_none, getElem?_insert_if, if_pos rfl]
      exact Option.some_ne_none binding
  kept input held hheld := by
    have h := step_remembers service input
    generalize service.issue input = issue at h
    generalize (step service input).cursorBindings = bindings at h
    cases h with
    | none => exact .inl hheld
    | long cursor binding long => exact .inl hheld
    | kept cursor binding short =>
      obtain hkept | ⟨hne, hfull, hfirst⟩ := held_or_first maxCursorBindings
        cursor binding hheld
      · exact .inl hkept
      · exact .inr ⟨cursor, binding, rfl, hne, hfull, hfirst⟩

end Runs

namespace Sample

/-- A validator for the envelopes below, all of which it lets through. -/
@[reducible] def schema : GameInformationSchema := ⟨fun _ => true⟩

def forwarder : GameInformationForwarder := ⟨16384, maxMessageBytes, "content-1", "run-1"⟩

def authority : GameInformationProducerAuthority where
  producerAddress := "127.0.0.1:9000"
  instanceId := "instance-1"
  callerId := "caller-1"
  sessionId := "session-1"
  leaseId := "lease-1"
  leaseEpoch := 1
  contentManifestId := "content-1"
  runId := "run-1"

def texts (values : List String) : Json := .arr (values.map .str)

def limits : Json :=
  .obj [("item_bytes", .num 4096), ("page_bytes", .num 65536), ("page_items", .num 2),
    ("text_bytes", .num 1024)]

def binding : Json :=
  .obj [("content_manifest_id", .str "content-1"), ("instance_ref", .null),
    ("locale", .str "en-US"), ("mode", .str "static"), ("snapshot_ref", .null),
    ("visibility_scope", .str "public")]

/-- The members of a query of one entity kind after its cursor. -/
def selection (entityKind : String) : List (String × Json) :=
  [("detail_level", .str "summary"), ("entity_kind", .str entityKind),
    ("fields", texts ["display_name"]),
    ("filters", .obj [("definition_refs", .arr []), ("display_name", .null),
      ("instance_ids", .arr []), ("namespaced_ids", .arr [])]),
    ("limits", limits), ("parent_observation", .null), ("projection", .str "summary"),
    ("query_kind", .str "list"),
    ("target", .obj [("definition_ref", .null), ("instance_ref", .null)])]

/-- A query without its cursor. -/
def normalized (entityKind : String) : Json := .obj (("binding", binding) :: selection entityKind)

def query (entityKind : String) (cursor : Json) : Json :=
  .obj (("binding", binding) :: ("cursor", cursor) :: selection entityKind)

def envelope (kind : String) (query result capabilities : Json) : Json :=
  .obj [("capabilities", capabilities), ("correlation_id", .str "corr-1"), ("error", .null),
    ("kind", .str kind), ("protocol_version", .str protocolVersion),
    ("provenance", .obj [("artifact", .str artifact), ("generator", .str generator),
      ("source", .str schemaSource)]),
    ("query", query), ("result", result), ("schema_digest", .str schemaDigest)]

def ordering : Json :=
  .obj [("algorithm", .str "identity_bytes"), ("deterministic", .bool true),
    ("direction", .str "ascending"), ("key", .str "definition_ref")]

/-- The members of a page before its cursor, the first one apart. -/
def front : List (String × Json) :=
  [("cursor_binding", normalized "card"), ("final_page", .bool false), ("items", .arr []),
    ("limits", limits)]

/-- The members of a page after its cursor. -/
def back : List (String × Json) :=
  [("ordering", ordering), ("total_count", .null), ("total_count_known", .bool false)]

/-- The members of a page without items, all but its accounting. -/
def pageMembers (next : String) : List (String × Json) :=
  ("coverage", .str "partial") :: (front ++ ("next_cursor", .str next) :: back)

def accounting (next : String) : Json :=
  .obj [("item_bytes", .num 0), ("item_count", .num 0),
    ("page_bytes", .num (measured (.obj (pageMembers next)))), ("payload_bytes", .num 2),
    ("text_bytes", .num 0)]

def page (next : String) : Json := .obj (("accounting", accounting next) :: pageMembers next)

def result (next : String) : Json :=
  .obj [("page", page next), ("parent_observation", .null), ("read_only", .bool true),
    ("result_generation", .null)]

def answer (next : String) : Json :=
  envelope "query_response" (query "card" .null) (result next) .null

def body (value : Json) (size : ℕ) : Body := ⟨size, some value, none⟩

def request (value : Json) : HttpRequest where
  headers := [("content-type", "application/json"), ("x-sts2-correlation-id", "corr-1")]
  body := body value 929

/-- A query envelope. -/
def ask (entityKind : String) (cursor : Json) : Json :=
  envelope "query_request" (query entityKind cursor) .null .null

def capabilities : Json :=
  .obj [("detail_levels", texts ["summary"]), ("entity_kinds", texts ["card", "relic"]),
    ("fields", texts ["display_name"]), ("limits", limits), ("max_cursor_bytes", .num 512),
    ("max_message_bytes", .num 262144), ("profile", .str protocolVersion),
    ("projections", texts ["summary"]), ("query_kinds", texts ["list"]),
    ("snapshot_policy", .obj [("supports_live", .bool true)])]

def advertised : GameInformationCapabilities where
  queryKinds := ["list"]
  entityKinds := ["card", "relic"]
  projections := ["summary"]
  detailLevels := ["summary"]
  fields := ["display_name"]
  limits := ⟨2, 4096, 65536, 1024⟩
  maxMessageBytes := 262144
  maxCursorBytes := 512
  supportsLive := true

/-- A call whose lease is current. -/
def call (value : Json) : GameInformationCall := ⟨false, .ok (), request value⟩

def answered (value : Json) : Except ReadError HttpResponse := .ok ⟨200, body value 2000⟩

def readCapabilities : Input :=
  .capabilities ⟨false, .ok (), ⟨[("x-sts2-correlation-id", "corr-1")], ⟨0, none, none⟩⟩⟩
    (answered (envelope "capabilities_response" .null .null capabilities))

/-- A query for cards whose answer issues a cursor. -/
def listCards (next : String) : Input :=
  .query .list rfl (call (ask "card" .null)) (answered (answer next))

/-- The cursors in their order. -/
def cursorAt (n : ℕ) : String := String.ofList (List.replicate (n + 1) 'a')

/-- One cursor more than there is room for. -/
def inputs : List Input := readCapabilities :: ((List.range 65).map cursorAt).map listCards

/-- The service after the read of the capabilities. -/
def withBindings (cursorBindings : CursorBindings) : GameInformationService where
  gameInformation := forwarder
  authority
  capabilities := some ⟨authority, advertised⟩
  cursorBindings

/-- The answer passes the checks of its page, as long as its page is short enough. -/
lemma pageBoundsValid_page {next : String}
    (hpage : measured (.obj (pageMembers next)) ≤ 65536) :
    pageBoundsValid (page next) (query "card" .null) = true := by
  have hread : (accounting next).u64? "page_bytes" =
      some (measured (.obj (pageMembers next))) := by
    have hnumber : (accounting next).member "page_bytes" =
        some (.num (measured (.obj (pageMembers next)))) := rfl
    rw [Json.u64?, hnumber, Option.bind_some, Json.asU64, if_pos (by omega)]
  have herase : (page next).erase "accounting" = .obj (pageMembers next) := rfl
  have hlimits : ((query "card" .null).member "limits").bind Json.object = some limits := rfl
  have hitems : ((page next).member "items").bind Json.asArray = some [] := rfl
  have haccounting : ((page next).member "accounting").bind Json.object =
      some (accounting next) := rfl
  rw [pageBoundsValid, hlimits, Option.any_some, hitems, Option.any_some, haccounting,
    Option.any_some, herase, hread]
  have hbound : (limits.u64? "page_bytes").getD 0 = 65536 := rfl
  have hempty : measured (.arr []) = 2 := by decide +kernel
  simp only [Bool.and_eq_true, decide_eq_true_eq, hbound, hempty]
  exact ⟨⟨⟨⟨⟨⟨⟨⟨⟨rfl, Nat.zero_le _⟩, Nat.zero_le _⟩, hpage⟩, by omega⟩, rfl⟩, rfl⟩, rfl⟩,
    trivial⟩, rfl⟩

/-- The texts of the cursors are short. -/
lemma measured_page_le {next : String} (hnext : next.toList.length ≤ 512) :
    measured (.obj (pageMembers next)) ≤ 65536 := by
  have hlength : (Json.obj (pageMembers next)).render.length =
      ('{' :: '"' :: (escape "coverage".toList ++ '"' :: ':' :: (Json.str "partial").render)).length +
        (front.flatMap memberText).length + (memberText ("next_cursor", .str next)).length +
        (renderMembers back).length := by
    rw [pageMembers, render_obj_cons, renderMembers_append, renderMembers_cons]
    simp only [List.length_append, List.length_cons]
    omega
  have hfirst : ('{' :: '"' :: (escape "coverage".toList ++ '"' :: ':' ::
      (Json.str "partial").render)).length ≤ 100 := by decide +kernel
  have hfront : (front.flatMap memberText).length ≤ 1000 := by decide +kernel
  have hback : (renderMembers back).length ≤ 1000 := by decide +kernel
  have hescape := length_escape_le next.toList
  have hcursor : (memberText ("next_cursor", .str next)).length =
      17 + (escape next.toList).length := by
    have hkey : (escape "next_cursor".toList).length = 11 := by decide +kernel
    have hvalue : (Json.str next).render = '"' :: (escape next.toList ++ ['"']) := by
      rw [Json.render]
    simp only [memberText, hvalue, List.length_append, List.length_cons, List.length_nil, hkey]
    omega
  have hsize := size_toBytes_le (.obj (pageMembers next))
  rw [measured]
  omega

section Run

attribute [local instance] schema

lemma boundCapabilities_withBindings (bindings : CursorBindings) :
    (withBindings bindings).boundCapabilities = some advertised := by
  have hauthority : decide (authority = authority) = true := decide_eq_true rfl
  change ((some (⟨authority, advertised⟩ : BoundGameInformationCapabilities)).filter
    fun bound => bound.authority = authority).map (·.capabilities) = some advertised
  rw [Option.filter_some, if_pos hauthority]
  rfl

lemma admitted_ask {bindings : CursorBindings} {entityKind : String} {cursor : Json}
    (hvalidated : (withBindings bindings).validated .list (request (ask entityKind cursor)) =
      .ok (ask entityKind cursor, .list))
    (hcompatible : (withBindings bindings).cursorIsCompatible (ask entityKind cursor) = true)
    (hallowed : advertised.admitQuery .list (ask entityKind cursor) 929 = .allowed) :
    (withBindings bindings).admitted .list (request (ask entityKind cursor)) =
      .ok ⟨ask entityKind cursor, .list, 262144⟩ := by
  have hsize : (request (ask entityKind cursor)).body.size = 929 := rfl
  rw [GameInformationService.admitted, hvalidated]
  simp only [bind, Except.bind, refuse, hcompatible, not_true_eq_false, if_false,
    boundCapabilities_withBindings, okOr_some, hsize, hallowed]
  rfl

lemma validateResponse_answer {next : String} (hnext : next.toList.length ≤ 512) :
    forwarder.validateResponse .list (some (ask "card" .null)) (request (ask "card" .null))
      ⟨200, body (answer next) 2000⟩ = .ok ⟨answer next, false⟩ := by
  have hvalid : validateQueryResponse (ask "card" .null) (answer next) "content-1" "run-1"
      (request (ask "card" .null)) = true := by
    have hask : (ask "card" .null).member "query" = some (query "card" .null) := rfl
    have hquery : (answer next).member "query" = some (query "card" .null) := rfl
    have hresult : ((answer next).member "result").bind Json.object = some (result next) := rfl
    have hpage : ((result next).member "page").bind Json.object = some (page next) := rfl
    have hbounds := pageBoundsValid_page (measured_page_le hnext)
    have hread : (result next).member "read_only" = some (.bool true) := rfl
    have hlimits : (page next).member "limits" = (query "card" .null).member "limits" := rfl
    have hcursor : cursorBindingValid (page next) (query "card" .null) = true := by
      have hbinding : (page next).member "cursor_binding" = some (normalized "card") := rfl
      have hnormalized : normalizedQuery (query "card" .null) = some (normalized "card") := rfl
      rw [cursorBindingValid, hbinding, hnormalized]
      simp only [Option.all_some, Option.any_some, decide_true, Bool.or_true, Bool.and_true]
      rfl
    rw [validateQueryResponse, hask, Option.any_some, hquery, hresult, Option.any_some, hpage,
      Option.any_some, hbounds, hread, hlimits, hcursor]
    simp only [decide_true, Bool.true_and, Bool.and_true]
    rfl
  have hbase : baseValid (answer next) = true := rfl
  have hcorrelation : correlationMatches (answer next) (request (ask "card" .null)) = true := rfl
  have hkind : (answer next).str? "kind" = some "query_response" := rfl
  have hcontent : forwarder.contentManifestId = "content-1" ∧ forwarder.runId = "run-1" :=
    ⟨rfl, rfl⟩
  rw [GameInformationForwarder.validateResponse]
  simp only [body, okOr_some, refuse, hbase, hcorrelation, hkind,
    hcontent.1, hcontent.2, Option.any_some, hvalid, bind, Except.bind]
  rfl

/-- **An accepted answer**: its cursor is bound to the query for cards. -/
lemma issue_listCards (bindings : CursorBindings) {next : String}
    (hnext : next.toList.length ≤ 512) (hbytes : next.utf8ByteSize ≤ 512) :
    (withBindings bindings).issue (listCards next) = some (next, normalized "card") ∧
      step (withBindings bindings) (listCards next) =
        withBindings ((makeRoom maxCursorBindings bindings).insert next (normalized "card")) := by
  have hadmitted : (withBindings bindings).admitted .list (request (ask "card" .null)) =
      .ok ⟨ask "card" .null, .list, 262144⟩ :=
    admitted_ask rfl rfl rfl
  have hissued : GameInformationService.issued (ask "card" .null) (answer next) =
      some (next, normalized "card") := rfl
  have hbudget : advertised.responseWithinBudget (answer next) 2000 = true := by
    have hcursor : nextCursor (answer next) = some next := rfl
    rw [GameInformationCapabilities.responseWithinBudget, hcursor, Option.all_some,
      Bool.and_eq_true, decide_eq_true_eq, decide_eq_true_eq]
    exact ⟨by decide, hbytes⟩
  have haccepted : (withBindings bindings).accepted ⟨ask "card" .null, .list, 262144⟩
      (request (ask "card" .null)) ⟨200, body (answer next) 2000⟩ = .ok (some (answer next)) := by
    have hresponse : (withBindings bindings).gameInformation.validateResponse .list
        (some (ask "card" .null)) (request (ask "card" .null)) ⟨200, body (answer next) 2000⟩ =
          .ok ⟨answer next, false⟩ := validateResponse_answer hnext
    rw [GameInformationService.accepted, hresponse]
    simp only [Except.mapError, bind, Except.bind, boundCapabilities_withBindings, okOr_some,
      body, hbudget, refuse]
    rfl
  have hremember : (withBindings bindings).rememberNextCursor (ask "card" .null) (answer next) =
      withBindings ((makeRoom maxCursorBindings bindings).insert next (normalized "card")) := by
    rw [GameInformationService.rememberNextCursor, hissued]
    exact if_neg (not_lt.mpr hbytes)
  have hcancelled : (call (ask "card" .null)).cancelled = false := rfl
  obtain ⟨hissue, hstep⟩ := step_of_accepted rfl hcancelled rfl hadmitted haccepted
  exact ⟨hissue.trans hissued, hstep.trans hremember⟩

/-- The bindings after some cursors were issued to the query for cards. -/
def bindAll (bindings : CursorBindings) (cursors : List String) : CursorBindings :=
  cursors.foldl (fun bindings next =>
    (makeRoom maxCursorBindings bindings).insert next (normalized "card")) bindings

lemma run_listCards (bindings : CursorBindings) {cursors : List String}
    (h : ∀ next ∈ cursors, next.toList.length ≤ 512 ∧ next.utf8ByteSize ≤ 512) :
    (withBindings bindings).run (cursors.map listCards) =
        withBindings (bindAll bindings cursors) ∧
      (withBindings bindings).log (cursors.map listCards) =
        cursors.map fun next => (next, normalized "card") := by
  induction cursors generalizing bindings with
  | nil => exact ⟨rfl, rfl⟩
  | cons next cursors ih =>
    obtain ⟨hnext, hbytes⟩ := h next List.mem_cons_self
    obtain ⟨hissue, hstep⟩ := issue_listCards bindings hnext hbytes
    obtain ⟨hrun, hlog⟩ := ih ((makeRoom maxCursorBindings bindings).insert next (normalized "card"))
      fun other hother => h other (List.mem_cons_of_mem _ hother)
    rw [List.map_cons, List.map_cons, GameInformationService.run, GameInformationService.log,
      run_cons, outputs, hissue, hstep]
    refine ⟨hrun, ?_⟩
    rw [Option.toList_some, List.singleton_append, ← hlog]
    rfl

lemma run_readCapabilities :
    (GameInformationService.new forwarder authority).issue readCapabilities = none ∧
      step (GameInformationService.new forwarder authority) readCapabilities = withBindings ∅ :=
  ⟨rfl, rfl⟩

end Run

lemma toList_cursorAt (n : ℕ) : (cursorAt n).toList = List.replicate (n + 1) 'a' := by
  rw [cursorAt, String.toList_ofList]

lemma cursorAt_injective : Function.Injective cursorAt := by
  intro first second heq
  have hlist := congrArg String.toList heq
  rw [toList_cursorAt, toList_cursorAt] at hlist
  have hlength := congrArg List.length hlist
  rw [List.length_replicate, List.length_replicate] at hlength
  omega

lemma short_cursorAt {n : ℕ} (hn : n < 65) :
    (cursorAt n).toList.length ≤ 512 ∧ (cursorAt n).utf8ByteSize ≤ 512 := by
  have hbytes := utf8ByteSize_ofList_le (List.replicate (n + 1) 'a')
  rw [toList_cursorAt]
  rw [List.length_replicate] at hbytes ⊢
  exact ⟨by omega, hbytes.trans (by omega)⟩

/-- The first cursor comes before all others. -/
lemma compare_cursorAt (n : ℕ) : (compare (cursorAt 0) (cursorAt n)).isLE = true := by
  cases n with
  | zero => exact Ordering.isLE_of_eq_eq Std.ReflCmp.compare_self
  | succ n =>
    have hlt : (cursorAt 0).toList < (cursorAt (n + 1)).toList := by
      rw [toList_cursorAt, toList_cursorAt]
      exact List.Lex.cons List.Lex.nil
    exact Ordering.isLE_of_eq_lt (compareOfLessAndEq_eq_lt.mpr hlt)

lemma bindAll_room (n : ℕ) (hn : n ≤ maxCursorBindings) :
    (bindAll ∅ ((List.range n).map cursorAt)).size = n ∧
      ∀ held, held ∈ bindAll ∅ ((List.range n).map cursorAt) ↔ ∃ i < n, cursorAt i = held := by
  induction n with
  | zero => simp [bindAll]
  | succ n ih =>
    obtain ⟨hsize, hmem⟩ := ih (by omega)
    have hstep : bindAll ∅ ((List.range (n + 1)).map cursorAt) =
        (bindAll ∅ ((List.range n).map cursorAt)).insert (cursorAt n) (normalized "card") := by
      rw [List.range_succ, List.map_append, bindAll, List.foldl_append]
      change (makeRoom maxCursorBindings (bindAll ∅ ((List.range n).map cursorAt))).insert _ _ = _
      rw [makeRoom, if_neg (by omega)]
    have hnew : (bindAll ∅ ((List.range n).map cursorAt))[cursorAt n]? = none := by
      by_contra hheld
      obtain ⟨i, hi, heq⟩ := (hmem _).mp (mem_iff_getElem?_ne_none.mpr hheld)
      exact absurd (cursorAt_injective heq) (Nat.ne_of_lt hi)
    rw [hstep]
    refine ⟨by rw [size_insert_of_none hnew, hsize], fun held => ?_⟩
    rw [mem_iff_getElem?_ne_none, getElem?_insert_if]
    by_cases heq : cursorAt n = held
    · rw [if_pos heq]
      exact ⟨fun _ => ⟨n, Nat.lt_succ_self n, heq⟩, fun _ => Option.some_ne_none _⟩
    · rw [if_neg heq, ← mem_iff_getElem?_ne_none, hmem]
      constructor
      · rintro ⟨i, hi, hheld⟩
        exact ⟨i, Nat.lt_succ_of_lt hi, hheld⟩
      · rintro ⟨i, hi, hheld⟩
        refine ⟨i, Nat.lt_of_le_of_ne (Nat.le_of_lt_succ hi) ?_, hheld⟩
        rintro rfl
        exact heq hheld

lemma bindAll_forgets : (bindAll ∅ ((List.range 65).map cursorAt))[cursorAt 0]? = none := by
  obtain ⟨hsize, hmem⟩ := bindAll_room 64 le_rfl
  have hfull : maxCursorBindings ≤ (bindAll ∅ ((List.range 64).map cursorAt)).size := hsize.ge
  have hfirst : (bindAll ∅ ((List.range 64).map cursorAt)).minKey? = some (cursorAt 0) := by
    rw [Std.ExtTreeMap.minKey?_eq_some_iff_mem_and_forall]
    refine ⟨(hmem _).mpr ⟨0, by omega, rfl⟩, fun held hheld => ?_⟩
    obtain ⟨i, hi, rfl⟩ := (hmem held).mp hheld
    exact compare_cursorAt i
  have hstep : bindAll ∅ ((List.range 65).map cursorAt) =
      ((bindAll ∅ ((List.range 64).map cursorAt)).erase (cursorAt 0)).insert (cursorAt 64)
        (normalized "card") := by
    rw [List.range_succ, List.map_append, bindAll, List.foldl_append]
    change (makeRoom maxCursorBindings (bindAll ∅ ((List.range 64).map cursorAt))).insert _ _ = _
    rw [makeRoom, if_pos hfull, hfirst]
    rfl
  have hne : cursorAt 64 ≠ cursorAt 0 := fun heq => absurd (cursorAt_injective heq) (by omega)
  rw [hstep, getElem?_insert_if, if_neg hne, getElem?_erase_if, if_pos rfl]

attribute [local instance] schema

/-- After the capabilities are read, the cursors are all bound to the query for cards. -/
lemma run_cursors {cursors : List String}
    (h : ∀ next ∈ cursors, next.toList.length ≤ 512 ∧ next.utf8ByteSize ≤ 512) :
    (GameInformationService.new forwarder authority).run
        (readCapabilities :: cursors.map listCards) = withBindings (bindAll ∅ cursors) ∧
      (GameInformationService.new forwarder authority).log
        (readCapabilities :: cursors.map listCards) =
          cursors.map fun next => (next, normalized "card") := by
  obtain ⟨hrun, hlog⟩ := run_listCards ∅ h
  obtain ⟨hissue, hstep⟩ := run_readCapabilities
  rw [GameInformationService.run, GameInformationService.log, run_cons, outputs, hissue, hstep]
  exact ⟨hrun, hlog⟩

/-- A query with a cursor that is not held goes on to the producer. -/
lemma forwarded_of_not_held {bindings : CursorBindings} {cursor : String}
    (h : bindings[cursor]? = none) (hbytes : cursor.utf8ByteSize ≤ maxCursorBytes)
    (hvalidated : (withBindings bindings).validated .list (request (ask "relic" (.str cursor))) =
      .ok (ask "relic" (.str cursor), .list))
    (hallowed : advertised.admitQuery .list (ask "relic" (.str cursor)) 929 = .allowed) :
    ((withBindings bindings).gameInformationRequest .list
      (call (ask "relic" (.str cursor))) (.error .timeout)).forwarded.isSome = true := by
  have hcompatible : (withBindings bindings).cursorIsCompatible (ask "relic" (.str cursor)) =
      true := by
    have hquery : (ask "relic" (.str cursor)).member "query" =
        some (query "relic" (.str cursor)) := rfl
    have hread : GameInformation.cursor (query "relic" (.str cursor)) = some cursor := rfl
    have hfree : (withBindings bindings).cursorBindings[cursor]? = none := h
    rw [GameInformationService.cursorIsCompatible, hquery, Option.any_some, hread,
      Option.all_some, hfree, Option.all_none, Bool.and_true, decide_eq_true_eq]
    exact hbytes
  have hadmitted := admitted_ask hvalidated hcompatible hallowed
  have hrequest : (call (ask "relic" (.str cursor))).request =
      request (ask "relic" (.str cursor)) := rfl
  rw [GameInformationService.gameInformationRequest, GameInformationService.guarded,
    GameInformationService.forwardQuery, hrequest, hadmitted]
  rfl

end Sample

section Counterexample

attribute [local instance] Sample.schema

open Sample

end Counterexample

end Sts2Gateway.GameInformation
