/-
One outstanding co-op operation.

* `Forwarded.returned`, `Forwarded.refused`: what the host's answer to a request says;
* `Resolved`: an operation is resolved by the refusal of its own request, or by an answer that
  settles or rejects it under the authority that its first open answer has named;
* `CoopNativePendingOperation.after`, `answered_pending`: what an answer makes of the pending
  operation;
* `History`, `one_operation_outstanding`: **no operation is sent to the host before the one before
  it is resolved**, and a recovery is sent for the open operation only.
-/
import Mathlib.Tactic
import Sts2Gateway.Library.Exchange
import Sts2Gateway.Library.Machine
import Sts2Gateway.CoopNative.Service

namespace Sts2Gateway.CoopNative

open CompactJson Exchange Procedure Service
open CoopNativeService (observedAuthorityId observedAuthorityEpoch terminal)

lemma toOption_eq_some {ε α : Type} {x : Except ε α} {a : α} :
    x.toOption = some a ↔ x = .ok a := by
  cases x <;> simp [Except.toOption]

/-! ### The pending operation -/

namespace CoopNativePendingOperation

/-- The authority that a pending operation is bound to. -/
def authority (pending : CoopNativePendingOperation) : Option (String × String) :=
  pending.authorityId.bind fun id => pending.authorityEpoch.map fun epoch => (id, epoch)

/-- An answer of another authority than the one that the operation is bound to. -/
def changes (pending : CoopNativePendingOperation) (value : Json) : Prop :=
  pending.authorityId.isSome = true ∧ pending.authorityEpoch.isSome = true ∧
    (observedAuthorityId value ≠ pending.authorityId ∨ observedAuthorityEpoch value ≠ pending.authorityEpoch)

instance (pending : CoopNativePendingOperation) (value : Json) :
    Decidable (pending.changes value) := inferInstanceAs (Decidable (_ ∧ _))

variable {pending : CoopNativePendingOperation} {value : Json}

lemma authority_eq_some {id epoch : String} : pending.authority = some (id, epoch) ↔
    pending.authorityId = some id ∧ pending.authorityEpoch = some epoch := by
  rw [authority, Option.bind_eq_some_iff]
  constructor
  · rintro ⟨found, hid, hepoch⟩
    obtain ⟨other, hother, hpair⟩ := Option.map_eq_some_iff.mp hepoch
    obtain ⟨rfl, rfl⟩ := Prod.mk.inj hpair
    exact ⟨hid, hother⟩
  · rintro ⟨hid, hepoch⟩
    exact ⟨id, hid, by rw [hepoch]; rfl⟩

/-- An answer agrees with the authority that the operation is bound to. -/
lemma not_changes : ¬ pending.changes value ↔ ∀ id epoch, pending.authority = some (id, epoch) →
    observedAuthorityId value = some id ∧ observedAuthorityEpoch value = some epoch := by
  simp only [authority_eq_some, changes, Option.isSome_iff_exists]
  constructor
  · rintro h id epoch ⟨hid, hepoch⟩
    rw [← hid, ← hepoch]
    by_contra hne
    exact h ⟨⟨id, hid⟩, ⟨epoch, hepoch⟩, not_and_or.mp hne⟩
  · rintro h ⟨⟨id, hid⟩, ⟨epoch, hepoch⟩, hne⟩
    obtain ⟨hsameId, hsameEpoch⟩ := h id epoch ⟨hid, hepoch⟩
    rw [hid, hepoch] at hne
    exact hne.elim (absurd hsameId) (absurd hsameEpoch)

end CoopNativePendingOperation

variable [CoopNativeSchema] (forwarder : CoopNativeForwarder)
  (peerBinding : Option CoopNativePeerBinding)

/-! ### Answers -/

namespace Forwarded

variable (forwarded : Forwarded)

/-- The operation that a request is about. -/
def operation : Option String := operationOf forwarded.envelope

/-- The envelope of an answer that passed its validation and shows the bound peer. -/
def returned : Option Json :=
  match forwarded.answer with
  | .error _ => none
  | .ok response =>
    ((forwarder.validateResponse forwarded.route forwarded.envelope forwarded.request
      response).toOption).filter fun _ =>
        ((CoopNativeService.new forwarder peerBinding).validateCoopNativeReturnLocalPeer
          response.body).isOk

/-- The host has refused the request, and says so outside the contract. -/
def refused : Bool :=
  match forwarded.answer with
  | .error _ => false
  | .ok response =>
    !(forwarder.validateResponse forwarded.route forwarded.envelope forwarded.request
      response).toOption.isSome && isBoundedError response &&
      (response.status = 400 || response.status = 409)

/-- The authority that an answer about an operation names when it leaves it open. -/
def names (operationId : String) : Option (String × String) :=
  if forwarded.operation = some operationId then
    (forwarded.returned forwarder peerBinding).bind fun value =>
      if terminal value then none
      else (observedAuthorityId value).bind fun id => (observedAuthorityEpoch value).map fun epoch => (id, epoch)
  else none

/-- An answer that settles or rejects an operation, under an authority if one was named. -/
structure Settles (operationId : String) (authority : Option (String × String)) : Prop where
  about : forwarded.operation = some operationId
  ends : ∃ value, forwarded.returned forwarder peerBinding = some value ∧
    (value.get "operation_id").asStr = some operationId ∧ terminal value = true ∧
    ∀ id epoch, authority = some (id, epoch) →
      observedAuthorityId value = some id ∧ observedAuthorityEpoch value = some epoch

/-- A request of the bound peer. -/
structure Bound : Prop where
  bound : ∃ binding, peerBinding = some binding ∧
    binding.matches forwarded.request = true ∧
    forwarded.request.header "x-sts2-peer-token" = some binding.peerToken ∧
    (forwarded.route.namesActor = true → ∀ value, forwarded.envelope = some value →
      (value.get "actor_peer").asStr = some binding.peerId)

end Forwarded

/-- The authority that the first open answer has named. -/
def namedBy (operationId : String) (turn : List Forwarded) : Option (String × String) :=
  turn.findSome? fun forwarded => forwarded.names forwarder peerBinding operationId

/-- What was sent since an operation was has resolved it. -/
def Resolved (operationId : String) (turn : List Forwarded) : Prop :=
  (∃ first rest, turn = first :: rest ∧ first.refused forwarder = true) ∨
    ∃ earlier answer later, turn = earlier ++ answer :: later ∧
      answer.Settles forwarder peerBinding operationId
        (namedBy forwarder peerBinding operationId earlier)

/-- **Histories.**  What a process sends to the host. -/
structure History (forwards : List Forwarded) : Prop where
  one : ∀ before first between second after,
    forwards = before ++ first :: (between ++ second :: after) →
      first.route.starts = true → second.route.starts = true →
        ∃ operationId, first.operation = some operationId ∧
          Resolved forwarder peerBinding operationId (first :: between)
  recovers : ∀ before recover after, forwards = before ++ recover :: after →
    recover.route = .recover → ∃ operationId earlier first between,
      recover.operation = some operationId ∧ before = earlier ++ first :: between ∧
        first.route.starts = true ∧ first.operation = some operationId ∧
        (∀ forwarded ∈ between, forwarded.route.starts = false) ∧
        ¬ Resolved forwarder peerBinding operationId (first :: between)
  bound : ∀ forwarded ∈ forwards, forwarded.Bound peerBinding

section Turns

variable {forwarder peerBinding} {operationId : String} {turn : List Forwarded}
  {forwarded : Forwarded}

lemma resolved_append (h : Resolved forwarder peerBinding operationId turn)
    (more : List Forwarded) : Resolved forwarder peerBinding operationId (turn ++ more) := by
  obtain ⟨first, rest, rfl, hrefused⟩ | ⟨earlier, answer, later, rfl, hsettles⟩ := h
  · exact .inl ⟨first, rest ++ more, rfl, hrefused⟩
  · exact .inr ⟨earlier, answer, later ++ more, List.append_assoc _ _ _, hsettles⟩

lemma resolved_snoc : Resolved forwarder peerBinding operationId (turn ++ [forwarded]) ↔
    Resolved forwarder peerBinding operationId turn ∨
      turn = [] ∧ forwarded.refused forwarder = true ∨
      forwarded.Settles forwarder peerBinding operationId
        (namedBy forwarder peerBinding operationId turn) := by
  constructor
  · rintro (⟨first, rest, hturn, hrefused⟩ | ⟨earlier, answer, later, hturn, hsettles⟩)
    · cases turn with
      | nil =>
        obtain ⟨rfl, -⟩ := List.cons.inj hturn
        exact .inr (.inl ⟨rfl, hrefused⟩)
      | cons head tail =>
        obtain ⟨rfl, -⟩ := List.cons.inj hturn
        exact .inl (.inl ⟨head, tail, rfl, hrefused⟩)
    · obtain ⟨rfl, rfl, rfl⟩ | ⟨rest, -, hrest⟩ := append_singleton_eq_iff.mp hturn
      · exact .inr (.inr hsettles)
      · exact .inl (.inr ⟨earlier, answer, rest, hrest, hsettles⟩)
  · rintro (h | ⟨rfl, hrefused⟩ | hsettles)
    · exact resolved_append h _
    · exact .inl ⟨forwarded, [], rfl, hrefused⟩
    · exact .inr ⟨turn, forwarded, [], rfl, hsettles⟩

lemma not_resolved_nil : ¬ Resolved forwarder peerBinding operationId [] := by
  rintro (⟨first, rest, h, -⟩ | ⟨earlier, answer, later, h, -⟩)
  · cases h
  · exact absurd h.symm (List.append_ne_nil_of_right_ne_nil _ (List.cons_ne_nil _ _))

lemma namedBy_snoc : namedBy forwarder peerBinding operationId (turn ++ [forwarded]) =
    (namedBy forwarder peerBinding operationId turn).or
      (forwarded.names forwarder peerBinding operationId) := by
  rw [namedBy, List.findSome?_append]
  cases h : forwarded.names forwarder peerBinding operationId with
  | none => rw [List.findSome?_cons, h, List.findSome?_nil]; rfl
  | some authority => rw [List.findSome?_cons, h]; rfl

end Turns

/-! ### What an answer makes of it -/

namespace CoopNativePendingOperation

/-- The pending operation after an answer to it, or to a recovery of it. -/
def after (pending : CoopNativePendingOperation) (forwarded : Forwarded) :
    Option CoopNativePendingOperation :=
  if forwarded.refused forwarder = true ∧ forwarded.route = pending.route then none
  else
    match forwarded.returned forwarder peerBinding with
    | none => some pending
    | some value =>
      if pending.changes value then some pending
      else if terminal value then none
      else some
        { pending with
          authorityId := observedAuthorityId value
          authorityEpoch := observedAuthorityEpoch value }

variable {forwarder peerBinding} {pending later : CoopNativePendingOperation}
  {forwarded : Forwarded}

/-- What stays pending is the same operation. -/
lemma same_of_after (h : pending.after forwarder peerBinding forwarded = some later) :
    later.route = pending.route ∧ later.operationId = pending.operationId := by
  rw [after] at h
  split_ifs at h
  cases hreturned : forwarded.returned forwarder peerBinding with
  | none =>
    rw [hreturned] at h
    obtain rfl := Option.some.inj h
    exact ⟨rfl, rfl⟩
  | some value =>
    rw [hreturned] at h
    dsimp only at h
    split_ifs at h <;> obtain rfl := Option.some.inj h <;> exact ⟨rfl, rfl⟩

end CoopNativePendingOperation

/-- What was sent since the operation was, while it is pending. -/
structure Turn (pending : CoopNativePendingOperation) (turn : List Forwarded) : Prop where
  unresolved : ¬ Resolved forwarder peerBinding pending.operationId turn
  named : namedBy forwarder peerBinding pending.operationId turn = pending.authority

section Pending

variable {forwarder peerBinding} {pending later : CoopNativePendingOperation}
  {turn : List Forwarded} {forwarded : Forwarded} {response : HttpResponse} {value : Json}
  {operationId : String} {authority : Option (String × String)}

/-- A validated answer is the parsed body. -/
lemma json_of_validateResponse {route : CoopNativeRoute} {request : Option Json}
    {headers : HttpRequest}
    (h : forwarder.validateResponse route request headers response = .ok value) :
    response.body.json = some value := by
  simp only [CoopNativeForwarder.validateResponse, except_bind_eq_ok, refuse_eq_ok,
    okOr_eq_ok] at h
  obtain ⟨_, _, other, hother, _, _, hpure⟩ := h
  obtain rfl := Except.ok.inj hpure
  exact (Option.filter_eq_some_iff.mp hother).1

lemma Forwarded.returned_eq_some : forwarded.returned forwarder peerBinding = some value ↔
    ∃ response, forwarded.answer = .ok response ∧
      forwarder.validateResponse forwarded.route forwarded.envelope forwarded.request response =
        .ok value ∧
      (CoopNativeService.new forwarder peerBinding).validateCoopNativeReturnLocalPeer
        response.body = .ok () := by
  rw [Forwarded.returned]
  cases forwarded.answer with
  | error status =>
    exact iff_of_false (by simp) (by rintro ⟨_, h, -⟩; cases h)
  | ok response =>
    rw [Option.filter_eq_some_iff, toOption_eq_some, isOk_eq_true]
    constructor
    · rintro ⟨hvalid, hpeer⟩
      exact ⟨response, rfl, hvalid, hpeer⟩
    · rintro ⟨other, hother, hvalid, hpeer⟩
      obtain rfl := Except.ok.inj hother
      exact ⟨hvalid, hpeer⟩

/-- An answer that is no refusal. -/
lemma not_refused_of_returned (h : forwarded.returned forwarder peerBinding = some value) :
    forwarded.refused forwarder = false := by
  obtain ⟨response, hanswer, hvalid, -⟩ := Forwarded.returned_eq_some.mp h
  rw [Forwarded.refused, hanswer]
  dsimp only
  rw [hvalid]
  rfl

lemma settles_iff (habout : forwarded.operation = some operationId)
    (hroute : forwarded.route.starts = true ∨ forwarded.route = .recover)
    (hreturned : forwarded.returned forwarder peerBinding = some value) :
    forwarded.Settles forwarder peerBinding operationId authority ↔ terminal value = true ∧
      ∀ id epoch, authority = some (id, epoch) →
        observedAuthorityId value = some id ∧ observedAuthorityEpoch value = some epoch := by
  constructor
  · rintro ⟨-, other, hother, -, hends⟩
    obtain rfl := Option.some.inj (hreturned.symm.trans hother)
    exact hends
  · rintro ⟨hterminal, hagrees⟩
    refine ⟨habout, value, hreturned, ?_, hterminal, hagrees⟩
    obtain ⟨response, -, hvalid, -⟩ := Forwarded.returned_eq_some.mp hreturned
    obtain ⟨request, hrequest, hid⟩ := Option.bind_eq_some_iff.mp habout
    rw [hrequest] at hvalid
    rw [operation_of_validateResponse hvalid hroute, hid]

lemma not_settles_of_returned (hreturned : forwarded.returned forwarder peerBinding = none) :
    ¬ forwarded.Settles forwarder peerBinding operationId authority := by
  rintro ⟨-, value, hvalue, -⟩
  rw [hreturned] at hvalue
  cases hvalue

namespace Turn

/-- A request about no operation. -/
lemma quiet (h : Turn forwarder peerBinding pending turn) (hquiet : forwarded.operation = none)
    (hturn : turn ≠ []) : Turn forwarder peerBinding pending (turn ++ [forwarded]) where
  unresolved := by
    rw [resolved_snoc]
    rintro (hresolved | ⟨hnil, -⟩ | hsettles)
    · exact h.unresolved hresolved
    · exact hturn hnil
    · rw [hsettles.about] at hquiet
      cases hquiet
  named := by
    rw [namedBy_snoc, h.named, Forwarded.names, hquiet, if_neg (Option.some_ne_none _).symm,
      Option.or_none]

/-- A new operation. -/
lemma fresh {route : CoopNativeRoute} {binding : CoopNativePeerBinding} :
    Turn forwarder peerBinding
      { route, operationId, binding, authorityId := none, authorityEpoch := none } [] :=
  ⟨not_resolved_nil, rfl⟩

variable (h : Turn forwarder peerBinding pending turn)
  (habout : forwarded.operation = some pending.operationId)
  (hroute : forwarded.route.starts = true ∨ forwarded.route = .recover)
  (hfirst : turn = [] ↔ forwarded.route = pending.route)

include h habout hroute hfirst

/-- An answer that clears the pending operation has resolved it. -/
lemma resolved (hafter : pending.after forwarder peerBinding forwarded = none) :
    Resolved forwarder peerBinding pending.operationId (turn ++ [forwarded]) := by
  rw [resolved_snoc]
  rw [CoopNativePendingOperation.after] at hafter
  split at hafter
  case isTrue hrefused => exact .inr (.inl ⟨hfirst.mpr hrefused.2, hrefused.1⟩)
  case isFalse =>
    cases hreturned : forwarded.returned forwarder peerBinding with
    | none =>
      rw [hreturned] at hafter
      cases hafter
    | some value =>
      rw [hreturned] at hafter
      dsimp only at hafter
      split_ifs at hafter with hchanges hterminal
      refine .inr (.inr ((settles_iff habout hroute hreturned).mpr ⟨hterminal, ?_⟩))
      rw [h.named]
      exact CoopNativePendingOperation.not_changes.mp hchanges

/-- Every other answer leaves it open, and the first authority that was named stays. -/
lemma after (hafter : pending.after forwarder peerBinding forwarded = some later) :
    Turn forwarder peerBinding later (turn ++ [forwarded]) := by
  have hid := (CoopNativePendingOperation.same_of_after hafter).2
  rw [CoopNativePendingOperation.after] at hafter
  split at hafter
  case isTrue => cases hafter
  case isFalse hrefused =>
    have hopen : ¬ (turn = [] ∧ forwarded.refused forwarder = true) := fun hthis =>
      hrefused ⟨hthis.2, hfirst.mp hthis.1⟩
    cases hreturned : forwarded.returned forwarder peerBinding with
    | none =>
      rw [hreturned] at hafter
      obtain rfl := Option.some.inj hafter
      refine ⟨?_, ?_⟩
      · rw [resolved_snoc]
        rintro (hresolved | hthis | hsettles)
        · exact h.unresolved hresolved
        · exact hopen hthis
        · exact not_settles_of_returned hreturned hsettles
      · rw [namedBy_snoc, h.named, Forwarded.names, if_pos habout, hreturned, Option.bind_none,
          Option.or_none]
    | some value =>
      have hnames : forwarded.names forwarder peerBinding pending.operationId =
          if terminal value then none else (observedAuthorityId value).bind fun id =>
            (observedAuthorityEpoch value).map fun epoch => (id, epoch) := by
        rw [Forwarded.names, if_pos habout, hreturned, Option.bind_some]
      rw [hreturned] at hafter
      dsimp only at hafter
      split_ifs at hafter with hchanges hterminal
      · obtain rfl := Option.some.inj hafter
        refine ⟨?_, ?_⟩
        · rw [resolved_snoc, settles_iff habout hroute hreturned, h.named]
          rintro (hresolved | hthis | ⟨-, hagrees⟩)
          · exact h.unresolved hresolved
          · exact hopen hthis
          · exact CoopNativePendingOperation.not_changes.mpr hagrees hchanges
        · obtain ⟨⟨id, hid⟩, ⟨epoch, hepoch⟩⟩ :=
            And.intro (Option.isSome_iff_exists.mp hchanges.1)
              (Option.isSome_iff_exists.mp hchanges.2.1)
          rw [namedBy_snoc, h.named, CoopNativePendingOperation.authority_eq_some.mpr ⟨hid, hepoch⟩,
            Option.some_or]
      · obtain rfl := Option.some.inj hafter
        refine ⟨?_, ?_⟩
        · rw [resolved_snoc, settles_iff habout hroute hreturned]
          rintro (hresolved | hthis | ⟨hends, -⟩)
          · exact h.unresolved hresolved
          · exact hopen hthis
          · exact hterminal hends
        · show namedBy forwarder peerBinding pending.operationId (turn ++ [forwarded]) = _
          rw [namedBy_snoc, h.named, hnames, if_neg hterminal]
          cases hauthority : pending.authority with
          | none => rfl
          | some authority =>
            obtain ⟨hsameId, hsameEpoch⟩ :=
              CoopNativePendingOperation.not_changes.mp hchanges _ _ hauthority
            rw [CoopNativePendingOperation.authority, hsameId, hsameEpoch]
            rfl

end Turn

end Pending

/-! ### One request -/

section Requests

variable {service after : CoopNativeService} {route : CoopNativeRoute} {call : CoopNativeCall}
  {envelope : Option Json} {forwarded : Forwarded} {pending : CoopNativePendingOperation}

/-- A request that neither starts an operation nor recovers one names none. -/
lemma operation_of_quiet {forwarder : CoopNativeForwarder} {request : HttpRequest}
    (h : forwarder.validateRequest route request = .ok envelope) (hstarts : route.starts = false)
    (hrecover : route ≠ .recover) : operationOf envelope = none := by
  cases route with
  | localAction | sharedVote | rejoin => cases hstarts
  | recover => exact absurd rfl hrecover
  | observation =>
    rw [CoopNativeForwarder.validateRequest, if_pos rfl] at h
    simp only [except_bind_eq_ok, refuse_eq_ok] at h
    obtain ⟨_, _, hpure⟩ := h
    obtain rfl := Except.ok.inj hpure
    rfl
  | legalCatalog =>
    rw [CoopNativeForwarder.validateRequest, if_neg (by decide)] at h
    simp only [except_bind_eq_ok, refuse_eq_ok, okOr_eq_ok] at h
    obtain ⟨_, _, _, _, value, _, _, hchecks, hpure⟩ := h
    obtain rfl := Except.ok.inj hpure
    have hrelations : requestRelations .legalCatalog value = true := by
      by_contra hne
      exact hchecks (.inr (.inr hne))
    have hnull : (value.get "operation_id").isNull = true := by
      simp only [requestRelations, CoopNativeRoute.requestKind, Bool.and_eq_true] at hrelations
      exact hrelations.2
    show (value.get "operation_id").asStr = none
    cases hvalue : value.get "operation_id" with
    | null => rfl
    | _ => rw [hvalue] at hnull; cases hnull

/-- How a request is admitted. -/
inductive Admission (service : CoopNativeService) (route : CoopNativeRoute)
    (envelope : Option Json) : CoopNativeService → Prop
  | quiet (starts : route.starts = false) (recover : route ≠ .recover)
      (operation : operationOf envelope = none) : Admission service route envelope service
  | starts (binding : CoopNativePeerBinding) (operationId : String)
      (starts : route.starts = true) (operation : operationOf envelope = some operationId)
      (free : service.pending = none) :
      Admission service route envelope (service.withPending (some
        { route, operationId, binding, authorityId := none, authorityEpoch := none }))
  | recovers (pending : CoopNativePendingOperation) (recover : route = .recover)
      (operation : operationOf envelope = some pending.operationId)
      (held : service.pending = some pending) : Admission service route envelope service

omit [CoopNativeSchema] in
lemma admission_of_admitOperation
    (h : service.admitCoopNativeOperation route envelope = .ok after)
    (hquiet : route.starts = false → route ≠ .recover → operationOf envelope = none)
    (hnamed : route.starts = true ∨ route = .recover → ∃ operationId,
      operationOf envelope = some operationId) : Admission service route envelope after := by
  by_cases hroute : route.starts = true ∨ route = .recover
  · obtain ⟨operationId, hoperation⟩ := hnamed hroute
    rw [CoopNativeService.admitCoopNativeOperation, hoperation] at h
    cases route with
    | observation | legalCatalog => simp [CoopNativeRoute.starts] at hroute
    | localAction | sharedVote | rejoin =>
      simp only [except_bind_eq_ok, refuse_eq_ok, okOr_eq_ok] at h
      obtain ⟨_, hfree, binding, hbinding, hpure⟩ := h
      obtain rfl := Except.ok.inj hpure
      exact .starts binding operationId rfl hoperation
        (Option.not_isSome_iff_eq_none.mp hfree)
    | recover =>
      simp only [except_bind_eq_ok, refuse_eq_ok, okOr_eq_ok] at h
      obtain ⟨pending, hpending, _, hsame, hpure⟩ := h
      obtain rfl := Except.ok.inj hpure
      have hid : pending.operationId = operationId := by
        by_contra hne
        exact hsame (.inl hne)
      exact .recovers pending rfl (hid ▸ hoperation) hpending
  · obtain ⟨hstarts, hrecover⟩ := not_or.mp hroute
    have hstarts := Bool.eq_false_iff.mpr hstarts
    have hoperation := hquiet hstarts hrecover
    rw [CoopNativeService.admitCoopNativeOperation, hoperation] at h
    obtain rfl := Except.ok.inj h
    exact .quiet hstarts hrecover hoperation

omit [CoopNativeSchema] in
lemma bound_of_validateBinding {answer : DownstreamAnswer}
    (h : service.validateCoopNativeBinding call.request route envelope = .ok ()) :
    Forwarded.Bound service.peerBinding ⟨route, call.request, envelope, answer⟩ := by
  simp only [CoopNativeService.validateCoopNativeBinding, except_bind_eq_ok, refuse_eq_ok,
    okOr_eq_ok] at h
  obtain ⟨binding, hbinding, _, hmatches, _, htoken, hactor⟩ := h
  refine ⟨binding, hbinding, by simpa using hmatches,
    constantTimeEqual_iff.mp (by simpa using htoken), fun hroute value hvalue => ?_⟩
  by_contra hne
  refine hactor ⟨hroute, ?_⟩
  rw [show envelope = some value from hvalue, Option.any_some]
  exact decide_eq_true hne

lemma admitted_eq_ok (h : service.admitted route call = .ok (envelope, after))
    (answer : DownstreamAnswer) : Admission service route envelope after ∧
      Forwarded.Bound service.peerBinding ⟨route, call.request, envelope, answer⟩ := by
  simp only [CoopNativeService.admitted, except_bind_eq_ok, mapError_eq_ok] at h
  obtain ⟨_, _, _, _, found, hvalid, _, hbinding, admitted, hadmitted, hpure⟩ := h
  obtain ⟨rfl, rfl⟩ := Prod.mk.inj (Except.ok.inj hpure)
  refine ⟨admission_of_admitOperation hadmitted (operation_of_quiet hvalid) fun hroute => ?_,
    bound_of_validateBinding hbinding⟩
  obtain ⟨value, operationId, rfl, hid⟩ := operation_of_validateRequest hvalid hroute
  exact ⟨operationId, hid⟩

/-- An answer about no operation changes nothing. -/
lemma answered_quiet (h : forwarded.operation = none) :
    (service.answered forwarded).2 = service := by
  have hoperation : operationOf forwarded.envelope = none := h
  rw [CoopNativeService.answered]
  cases forwarded.answer with
  | error status => rfl
  | ok response =>
    dsimp only
    cases service.coopNative.validateResponse forwarded.route forwarded.envelope
        forwarded.request response with
    | error e =>
      dsimp only
      rw [CoopNativeService.clearRejectedCoopNativePending, hoperation]
      split_ifs <;> rfl
    | ok value =>
      dsimp only
      cases hreturned : service.returned forwarded.route forwarded.envelope response.body with
      | error reply => rfl
      | ok later =>
        simp only [CoopNativeService.returned, CoopNativeService.recordCoopNativeReturn,
          hoperation, except_bind_eq_ok] at hreturned
        obtain ⟨_, -, hpure⟩ := hreturned
        exact (Except.ok.inj hpure).symm

omit [CoopNativeSchema] in
lemma withPending_self (h : service.pending = some pending) :
    service.withPending (some pending) = service := by
  rw [← h]
  rfl

/-- **Answers.**  What an answer to the pending operation, or to a recovery of it, does. -/
lemma answered_pending (hpending : service.pending = some pending)
    (habout : forwarded.operation = some pending.operationId)
    (hroute : forwarded.route.starts = true ∨ forwarded.route = .recover)
    (hsame : forwarded.route ≠ .recover → forwarded.route = pending.route) :
    (service.answered forwarded).2 =
      service.withPending (pending.after service.coopNative service.peerBinding forwarded) := by
  have hoperation : operationOf forwarded.envelope = some pending.operationId := habout
  cases hanswer : forwarded.answer with
  | error status =>
    rw [CoopNativeService.answered, hanswer, CoopNativePendingOperation.after,
      Forwarded.refused, Forwarded.returned, hanswer]
    simp [withPending_self hpending]
  | ok response =>
    cases hvalid : service.coopNative.validateResponse forwarded.route forwarded.envelope
        forwarded.request response with
    | error e =>
      have hreturned : forwarded.returned service.coopNative service.peerBinding = none := by
        rw [Forwarded.returned, hanswer]
        dsimp only
        rw [hvalid]
        rfl
      have hrefused : forwarded.refused service.coopNative =
          (isBoundedError response && (response.status = 400 || response.status = 409)) := by
        rw [Forwarded.refused, hanswer]
        dsimp only
        rw [hvalid]
        rfl
      rw [CoopNativeService.answered, hanswer]
      dsimp only
      rw [hvalid]
      dsimp only
      rw [CoopNativePendingOperation.after, hrefused, hreturned,
        CoopNativeService.clearRejectedCoopNativePending, hoperation]
      dsimp only
      rw [hpending, Option.any_some]
      by_cases hbounded : isBoundedError response = true
      · by_cases hstatus : response.status = 400 ∨ response.status = 409
        · by_cases hthis : forwarded.route = pending.route
          · simp [hbounded, hstatus, hthis]
          · have hother : pending.route ≠ forwarded.route := fun h => hthis h.symm
            simp [hbounded, hstatus, hthis, hother, withPending_self hpending]
        · simp [hbounded, hstatus, withPending_self hpending]
      · simp [hbounded, withPending_self hpending]
    | ok value =>
      have hjson := json_of_validateResponse hvalid
      rw [CoopNativeService.answered, hanswer]
      dsimp only
      rw [hvalid]
      dsimp only
      cases hpeer : service.validateCoopNativeReturnLocalPeer response.body with
      | error reply =>
        have hreturned : forwarded.returned service.coopNative service.peerBinding = none := by
          rw [Option.eq_none_iff_forall_ne_some]
          intro other hother
          obtain ⟨found, hfound, -, hlocal⟩ := Forwarded.returned_eq_some.mp hother
          obtain rfl := Except.ok.inj (hanswer.symm.trans hfound)
          cases hpeer.symm.trans hlocal
        have hrefused : forwarded.refused service.coopNative = false := by
          rw [Forwarded.refused, hanswer]
          dsimp only
          rw [hvalid]
          rfl
        rw [CoopNativeService.returned, hpeer, CoopNativePendingOperation.after, hrefused,
          hreturned, if_neg (by simp)]
        exact (withPending_self hpending).symm
      | ok _ =>
        have hreturned : forwarded.returned service.coopNative service.peerBinding = some value :=
          Forwarded.returned_eq_some.mpr ⟨response, hanswer, hvalid, hpeer⟩
        have hrecords : ¬ (forwarded.route.starts = false ∧ forwarded.route ≠ .recover) := by
          rintro ⟨hstarts, hrecover⟩
          rcases hroute with hthis | hthis
          · rw [hstarts] at hthis
            cases hthis
          · exact hrecover hthis
        have hmatch : ¬ (pending.operationId ≠ pending.operationId ∨
            (forwarded.route ≠ .recover ∧ pending.route ≠ forwarded.route)) := by
          rintro (hne | ⟨hrecover, hne⟩)
          · exact hne rfl
          · exact hne (hsame hrecover).symm
        have hrecord : service.returned forwarded.route forwarded.envelope response.body =
            service.recordCoopNativeReturn forwarded.route forwarded.envelope response.body := by
          rw [CoopNativeService.returned, hpeer]
          rfl
        rw [CoopNativePendingOperation.after, not_refused_of_returned hreturned, hreturned,
          if_neg (by simp), hrecord, CoopNativeService.recordCoopNativeReturn, hoperation]
        dsimp only
        rw [if_neg hrecords, hpending, okOr_some, hjson, okOr_some]
        have hpass : ∀ e : Reply, refuse (pending.operationId ≠ pending.operationId ∨
            (forwarded.route ≠ .recover ∧ pending.route ≠ forwarded.route)) e = .ok () :=
          fun e => refuse_eq_ok.mpr hmatch
        simp only [bind, Except.bind, hpass]
        by_cases hchanges : pending.changes value
        · have hstop : ∀ e : Reply, refuse (pending.authorityId.isSome = true ∧
              pending.authorityEpoch.isSome = true ∧
              (observedAuthorityId value ≠ pending.authorityId ∨
                observedAuthorityEpoch value ≠ pending.authorityEpoch)) e = .error e :=
            fun e => if_pos hchanges
          rw [if_pos hchanges, withPending_self hpending]
          simp only [hstop]
        · have hgo : ∀ e : Reply, refuse (pending.authorityId.isSome = true ∧
              pending.authorityEpoch.isSome = true ∧
              (observedAuthorityId value ≠ pending.authorityId ∨
                observedAuthorityEpoch value ≠ pending.authorityEpoch)) e = .ok () :=
            fun e => if_neg hchanges
          rw [if_neg hchanges]
          simp only [hgo, pure, Except.pure]

end Requests

/-! ### Histories -/

section Histories

variable {forwarder peerBinding} {forwards before rest : List Forwarded}
  {first forwarded : Forwarded} {pending : CoopNativePendingOperation} {operationId : String}

variable (forwarder peerBinding) in
/-- Every operation that was sent is resolved. -/
def AllResolved (forwards : List Forwarded) : Prop :=
  ∀ before first rest, forwards = before ++ first :: rest → first.route.starts = true →
    ∃ operationId, first.operation = some operationId ∧
      Resolved forwarder peerBinding operationId (first :: rest)

variable (forwarder peerBinding) in
/-- The pending operation was sent last, and is open. -/
def Begun (pending : CoopNativePendingOperation) (forwards : List Forwarded) : Prop :=
  ∃ before first rest, forwards = before ++ first :: rest ∧ first.route = pending.route ∧
    first.route.starts = true ∧ first.operation = some pending.operationId ∧
    (∀ forwarded ∈ rest, forwarded.route.starts = false) ∧
    Turn forwarder peerBinding pending (first :: rest)

lemma AllResolved.quiet (h : AllResolved forwarder peerBinding forwards)
    (hquiet : forwarded.route.starts = false) :
    AllResolved forwarder peerBinding (forwards ++ [forwarded]) := by
  intro before first rest hsplit hstarts
  obtain ⟨-, -, rfl⟩ | ⟨more, rfl, hmore⟩ := append_singleton_eq_iff.mp hsplit
  · rw [hquiet] at hstarts
    cases hstarts
  · obtain ⟨operationId, hoperation, hresolved⟩ := h before first more hmore hstarts
    exact ⟨operationId, hoperation, resolved_append hresolved [forwarded]⟩

/-- The last operation is resolved, and those before it were when it was sent. -/
lemma allResolved_of_last (h : History forwarder peerBinding (before ++ first :: rest))
    (hstarts : first.route.starts = true) (hoperation : first.operation = some operationId)
    (hquiet : ∀ forwarded ∈ rest, forwarded.route.starts = false)
    (hresolved : Resolved forwarder peerBinding operationId (first :: rest)) :
    AllResolved forwarder peerBinding (before ++ first :: rest) := by
  intro before' first' rest' hsplit hstarts'
  obtain ⟨middle, hbefore, hlast⟩ | ⟨middle, hbefore, hlast⟩ :=
    List.append_eq_append_iff.mp hsplit
  · cases middle with
    | nil =>
      obtain ⟨rfl, rfl⟩ := List.cons.inj hlast
      exact ⟨operationId, hoperation, hresolved⟩
    | cons head tail =>
      obtain ⟨-, hrest⟩ := List.cons.inj hlast
      have hthis := hquiet first' (hrest ▸ List.mem_append_right _ List.mem_cons_self)
      rw [hthis] at hstarts'
      cases hstarts'
  · cases middle with
    | nil =>
      obtain ⟨rfl, rfl⟩ := List.cons.inj hlast
      exact ⟨operationId, hoperation, hresolved⟩
    | cons head tail =>
      obtain ⟨rfl, rfl⟩ := List.cons.inj hlast
      obtain ⟨found, hfound, hfirst⟩ := h.one before' first' tail first rest
        (by rw [hbefore, List.append_assoc]; rfl) hstarts' hstarts
      exact ⟨found, hfound, resolved_append hfirst (first :: rest)⟩

lemma History.snoc (h : History forwarder peerBinding forwards)
    (hbound : forwarded.Bound peerBinding)
    (hstarts : forwarded.route.starts = true → AllResolved forwarder peerBinding forwards)
    (hrecovers : forwarded.route = .recover → ∃ pending,
      Begun forwarder peerBinding pending forwards ∧
        forwarded.operation = some pending.operationId) :
    History forwarder peerBinding (forwards ++ [forwarded]) where
  one before first between second after hsplit hfirst hsecond := by
    rw [← List.cons_append, ← List.append_assoc] at hsplit
    obtain ⟨-, hlog, rfl⟩ | ⟨more, -, hmore⟩ := append_singleton_eq_iff.mp hsplit
    · exact hstarts hsecond before first between hlog hfirst
    · refine h.one before first between second more ?_ hfirst hsecond
      rw [hmore, List.append_assoc, List.cons_append]
  recovers before recover after hsplit hrecover := by
    obtain ⟨-, rfl, rfl⟩ | ⟨more, -, hmore⟩ := append_singleton_eq_iff.mp hsplit
    · obtain ⟨pending, ⟨earlier, first, between, hlog, -, hfirst, hoperation, hquiet, hturn⟩,
        habout⟩ := hrecovers hrecover
      exact ⟨pending.operationId, earlier, first, between, habout, hlog, hfirst, hoperation, hquiet,
        hturn.unresolved⟩
    · exact h.recovers before recover more hmore hrecover
  bound other hother := by
    obtain hother | hother := List.mem_append.mp hother
    · exact h.bound other hother
    · rwa [List.mem_singleton.mp hother]

variable (forwarder peerBinding) in
/-- The state of a service, against what it has sent. -/
structure Sound (system : System) : Prop where
  configured : system.service.coopNative = forwarder
  served : system.service.peerBinding = peerBinding
  history : History forwarder peerBinding system.forwards
  free : system.service.pending = none → AllResolved forwarder peerBinding system.forwards
  begun : ∀ pending, system.service.pending = some pending →
    Begun forwarder peerBinding pending system.forwards

/-- What a pending operation becomes when it, or a recovery of it, is answered. -/
lemma Sound.answered {service : CoopNativeService} {operation : CoopNativePendingOperation}
    (hconfigured : service.coopNative = forwarder) (hserved : service.peerBinding = peerBinding)
    (hpending : service.pending = some operation)
    (habout : forwarded.operation = some operation.operationId)
    (hroute : forwarded.route.starts = true ∨ forwarded.route = .recover)
    (hsame : forwarded.route ≠ .recover → forwarded.route = operation.route)
    (hhistory : History forwarder peerBinding (forwards ++ [forwarded]))
    (hsplit : forwards ++ [forwarded] = before ++ first :: rest)
    (hfirst : first.route = operation.route) (hstarts : first.route.starts = true)
    (hoperation : first.operation = some operation.operationId)
    (hquiet : ∀ other ∈ rest, other.route.starts = false)
    (hresolved : operation.after forwarder peerBinding forwarded = none →
      Resolved forwarder peerBinding operation.operationId (first :: rest))
    (hlater : ∀ later, operation.after forwarder peerBinding forwarded = some later →
      Turn forwarder peerBinding later (first :: rest)) :
    Sound forwarder peerBinding
      ⟨(service.answered forwarded).2, forwards ++ [forwarded]⟩ := by
  rw [answered_pending hpending habout hroute hsame, hconfigured, hserved]
  refine ⟨hconfigured, hserved, hhistory, fun hfree => ?_, fun later hafter => ?_⟩
  · show AllResolved forwarder peerBinding (forwards ++ [forwarded])
    rw [hsplit] at hhistory ⊢
    exact allResolved_of_last hhistory hstarts hoperation hquiet (hresolved hfree)
  · obtain ⟨hlaterRoute, hlaterId⟩ := CoopNativePendingOperation.same_of_after hafter
    exact ⟨before, first, rest, hsplit, by rw [hlaterRoute, hfirst], hstarts,
      by rw [hlaterId, hoperation], hquiet, hlater later hafter⟩

lemma Sound.next {system : System} (h : Sound forwarder peerBinding system) (input : Input) :
    Sound forwarder peerBinding (next system input) := by
  cases hadmitted : system.service.admitted input.route input.call with
  | error reply =>
    have hnext : CoopNative.next system input = system := by
      rw [CoopNative.next, CoopNativeService.coopNativeRequest, hadmitted]
      dsimp only
      rw [Option.toList_none, List.append_nil]
    rw [hnext]
    exact h
  | ok found =>
    obtain ⟨envelope, admitted⟩ := found
    obtain ⟨hadmission, hbound⟩ := admitted_eq_ok hadmitted input.answer
    rw [h.served] at hbound
    have hnext : CoopNative.next system input =
        ⟨(admitted.answered ⟨input.route, input.call.request, envelope, input.answer⟩).2,
          system.forwards ++ [⟨input.route, input.call.request, envelope, input.answer⟩]⟩ := by
      rw [CoopNative.next, CoopNativeService.coopNativeRequest, hadmitted]
      rfl
    rw [hnext]
    cases hadmission with
    | quiet hstarts hrecover hoperation =>
      have hnone : Forwarded.operation
          ⟨input.route, input.call.request, envelope, input.answer⟩ = none := hoperation
      rw [answered_quiet hnone]
      refine ⟨h.configured, h.served, h.history.snoc hbound (fun hthis => ?_) fun hthis => ?_,
        fun hfree => (h.free hfree).quiet hstarts, fun pending hpending => ?_⟩
      · rw [show input.route.starts = true from hthis] at hstarts
        cases hstarts
      · exact absurd hthis hrecover
      · obtain ⟨before, first, rest, hlog, hroute, hfirst, habout, hquiet, hturn⟩ :=
          h.begun pending hpending
        refine ⟨before, first, rest ++ [_], by rw [hlog, List.append_assoc]; rfl, hroute, hfirst,
          habout, List.forall_mem_append.mpr ⟨hquiet, List.forall_mem_singleton.mpr hstarts⟩,
          hturn.quiet hnone (List.cons_ne_nil _ _)⟩
    | starts binding operationId hstarts hoperation hfree =>
      have hhistory := h.history.snoc hbound (fun _ => h.free hfree) fun hthis => by
        rw [show input.route = .recover from hthis] at hstarts
        cases hstarts
      refine Sound.answered h.configured h.served rfl hoperation (.inl hstarts) (fun _ => rfl)
        hhistory rfl rfl hstarts hoperation (List.forall_mem_nil _)
        (Turn.fresh.resolved hoperation (.inl hstarts) (iff_of_true rfl rfl)) fun later hlater =>
          Turn.fresh.after hoperation (.inl hstarts) (iff_of_true rfl rfl) hlater
    | recovers pending hrecover hoperation held =>
      obtain ⟨before, first, rest, hlog, hroute, hfirst, habout, hquiet, hturn⟩ :=
        h.begun pending held
      have hrecovers : CoopNativeRoute.starts .recover = false := rfl
      have hnot : input.route.starts = false := by rw [hrecover, hrecovers]
      have hhistory := h.history.snoc hbound (fun hthis => by
        rw [show input.route.starts = true from hthis] at hnot
        cases hnot) fun _ => ⟨pending, h.begun pending held, hoperation⟩
      have hsplit : system.forwards ++
          [⟨input.route, input.call.request, envelope, input.answer⟩] = before ++ first :: (rest ++
            [⟨input.route, input.call.request, envelope, input.answer⟩]) := by
        rw [hlog, List.append_assoc]
        rfl
      have hother : first :: rest = [] ↔ input.route = pending.route := by
        refine iff_of_false (List.cons_ne_nil _ _) fun hthis => ?_
        rw [hroute, ← hthis, hrecover] at hfirst
        cases hfirst
      refine Sound.answered h.configured h.served held hoperation (.inr hrecover)
        (fun hthis => absurd hrecover hthis) hhistory hsplit hroute hfirst habout
        (List.forall_mem_append.mpr ⟨hquiet, List.forall_mem_singleton.mpr hnot⟩)
        (hturn.resolved hoperation (.inr hrecover) hother) fun later hlater =>
          hturn.after hoperation (.inr hrecover) hother hlater

end Histories

end Sts2Gateway.CoopNative
