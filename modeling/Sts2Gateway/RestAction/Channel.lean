/-
The forwarder over its requests and the answers to them, in any order.

* `Channel`, `Input`, `step`: the forwarder, with the requests that it let through to the
  host; each of them may be answered at any later time, more than once or never;
* `acceptedAnswer`: an answer about an operation that the forwarder accepts;
* `lookup_validateRequest`: **a request forgets only terminal operations**, and retains a new
  one without a status;
* `core_recordSelectorAdmission`, `lookup_recordOperationStatus`: of a retained operation, an
  answer writes the status and the catalogs;
* `forwarded_wellFormed`: what was let through.
-/
import Mathlib.Tactic
import Sts2Gateway.Library.Machine
import Sts2Gateway.RestAction.Forwarder

namespace Sts2Gateway.RestAction

open CompactJson Procedure Service
open Std (ExtTreeMap)

/-- A request that was let through, with its validated envelope. -/
structure Exchange where
  route : Route
  envelope : Json
  headers : HttpRequest

structure Channel where
  forwarder : Forwarder
  forwarded : List Exchange

inductive Input where
  | request (route : Route) (request : HttpRequest)
  | answer (exchange : ℕ) (statusCode : UInt16) (body : Body)

namespace Channel

def start (maxRequestBytes maxResponseBytes : ℕ) : Channel where
  forwarder := .new maxRequestBytes maxResponseBytes
  forwarded := []

section Schema

variable [RestActionSchema]

def step (channel : Channel) : Input → Channel
  | .request route request =>
    match channel.forwarder.validateRequest route request with
    | (.ok envelope, forwarder) =>
      { forwarder, forwarded := channel.forwarded ++ [⟨route, envelope, request⟩] }
    | (.error _, forwarder) => { channel with forwarder }
  | .answer exchange statusCode body =>
    match channel.forwarded[exchange]? with
    | none => channel
    | some ⟨route, envelope, headers⟩ =>
      { channel with
        forwarder :=
          (channel.forwarder.validateResponse route envelope headers statusCode body).2 }

/-- An answer that is accepted, with the request that it answers. -/
def accepted (channel : Channel) : Input → Option (Exchange × Json)
  | .request _ _ => none
  | .answer exchange statusCode body => do
    let exchange ← channel.forwarded[exchange]?
    let value ← (channel.forwarder.checkResponse exchange.route exchange.envelope
      exchange.headers statusCode body).toOption
    return (exchange, value)

/-- An answer about an operation that is accepted. -/
def acceptedAnswer (operationId : String) (channel : Channel) (input : Input) :
    Option (Exchange × Json) :=
  (channel.accepted input).filter fun answer =>
    operationOf answer.1.route answer.1.envelope = some operationId

end Schema

end Channel

/-- The request of an operation and its status, without the catalogs. -/
def OperationBinding.core (binding : OperationBinding) : OperationBinding :=
  { binding with selectorContext := none, completedSelector := none }

namespace Forwarder

variable {forwarder : Forwarder}

/-! ### Requests -/

lemma lookup_reclaimed {reclaimed : Forwarder} (h : forwarder.reclaimed = some reclaimed)
    (id : String) :
    reclaimed.operationBindings[id]? = forwarder.operationBindings[id]? ∨
      reclaimed.operationBindings[id]? = none ∧
        ∃ binding, forwarder.operationBindings[id]? = some binding ∧
          binding.status.isTerminal = true := by
  rw [Forwarder.reclaimed] at h
  split_ifs at h with hfull
  · obtain ⟨terminalId, hterminal, rfl⟩ := Option.map_eq_some_iff.mp h
    obtain ⟨⟨_, binding⟩, hfind, rfl⟩ := Option.map_eq_some_iff.mp hterminal
    have hlookup := ExtTreeMap.mem_toList_iff_getElem?_eq_some.mp (List.mem_of_find?_eq_some hfind)
    have hended := List.find?_some hfind
    rw [OrderedMap.getElem?_erase_if]
    split_ifs with hid
    · subst hid
      exact .inr ⟨rfl, binding, hlookup, hended⟩
    · exact .inl rfl
  · obtain rfl := Option.some.inj h
    exact .inl rfl

lemma admissions_reclaimed {reclaimed : Forwarder} (h : forwarder.reclaimed = some reclaimed) :
    reclaimed.selectorAdmissions = forwarder.selectorAdmissions := by
  rw [Forwarder.reclaimed] at h
  split_ifs at h
  · obtain ⟨_, _, rfl⟩ := Option.map_eq_some_iff.mp h
    rfl
  · rw [Option.some.inj h]

/-- What is retained of a new operation depends on the shared catalogs only. -/
lemma newBinding_congr {other : Forwarder}
    (h : other.selectorAdmissions = forwarder.selectorAdmissions) (value : Json) :
    other.newBinding value = forwarder.newBinding value := by
  rw [newBinding, newBinding, h]

/-- What happens to the operation of an identity: nothing, it is forgotten when it was
terminal, or it is retained anew. -/
def Retains (forwarder : Forwarder) (value : Json) (before after : Option OperationBinding) :
    Prop :=
  after = before ∨
    (after = none ∧ ∃ binding, before = some binding ∧ binding.status.isTerminal = true) ∨
    (before = none ∧ ∃ binding, after = some binding ∧ forwarder.newBinding value = some binding)

lemma lookup_retainOperationBinding {operationId : String}
    (hnew : forwarder.operationBindings[operationId]? = none) (value : Json) (id : String) :
    Retains forwarder value forwarder.operationBindings[id]?
        (forwarder.retainOperationBinding operationId value).2.operationBindings[id]? ∧
      (forwarder.retainOperationBinding operationId value).2.selectorAdmissions =
        forwarder.selectorAdmissions := by
  rw [retainOperationBinding]
  split
  next => exact ⟨.inl rfl, rfl⟩
  next reclaimed hreclaimed =>
    have hkept : Retains forwarder value forwarder.operationBindings[id]?
        reclaimed.operationBindings[id]? := (lookup_reclaimed hreclaimed id).imp_right .inl
    have hadmissions := admissions_reclaimed hreclaimed
    split
    next => exact ⟨hkept, hadmissions⟩
    next binding hbinding =>
      rw [newBinding_congr hadmissions] at hbinding
      refine ⟨?_, hadmissions⟩
      rw [OrderedMap.getElem?_insert_if]
      split_ifs with hid
      · exact .inr (.inr ⟨by rw [← hid, hnew], binding, rfl, hbinding⟩)
      · exact hkept

lemma reserveSelectorAdmission_keeps {operationId : String} {reserved : Forwarder}
    (h : forwarder.reserveSelectorAdmission operationId = some reserved) :
    reserved.operationBindings = forwarder.operationBindings ∧
      reserved.selectorAdmissions = forwarder.selectorAdmissions := by
  rw [reserveSelectorAdmission] at h
  split_ifs at h
  · rw [Option.some.inj h]
    exact ⟨rfl, rfl⟩
  · rw [← Option.some.inj h]
    exact ⟨rfl, rfl⟩

lemma bindings_releaseSelectorReservation (operationId : Option String) :
    (forwarder.releaseSelectorReservation operationId).operationBindings =
      forwarder.operationBindings := by
  cases operationId <;> rfl

lemma admissions_releaseSelectorReservation (operationId : Option String) :
    (forwarder.releaseSelectorReservation operationId).selectorAdmissions =
      forwarder.selectorAdmissions := by
  cases operationId <;> rfl

lemma lookup_admitOperation {operationId : String}
    (hnew : forwarder.operationBindings[operationId]? = none) (value : Json) (id : String) :
    Retains forwarder value forwarder.operationBindings[id]?
        (forwarder.admitOperation operationId value).2.operationBindings[id]? ∧
      (forwarder.admitOperation operationId value).2.selectorAdmissions =
        forwarder.selectorAdmissions := by
  rw [admitOperation]
  split
  next => exact ⟨.inl rfl, rfl⟩
  next reserved hreserved =>
    obtain ⟨hbindings, hadmissions⟩ : reserved.operationBindings = forwarder.operationBindings ∧
        reserved.selectorAdmissions = forwarder.selectorAdmissions := by
      split_ifs at hreserved
      · exact reserveSelectorAdmission_keeps hreserved
      · rw [Option.some.inj hreserved]
        exact ⟨rfl, rfl⟩
    have hretained := lookup_retainOperationBinding (hbindings ▸ hnew) value id
    rw [hbindings, hadmissions, Retains, newBinding_congr hadmissions] at hretained
    split
    next retained heq =>
      rw [heq] at hretained
      exact hretained
    next kept heq =>
      rw [heq] at hretained
      split_ifs
      · rw [bindings_releaseSelectorReservation, admissions_releaseSelectorReservation]
        exact hretained
      · exact hretained

section Schema

variable [RestActionSchema]

/-- **A request forgets only terminal operations**, and retains the operation that it starts. -/
theorem lookup_validateRequest (forwarder : Forwarder) (route : Route) (request : HttpRequest)
    (id : String) :
    let after := (forwarder.validateRequest route request).2
    after.selectorAdmissions = forwarder.selectorAdmissions ∧
      (after.operationBindings = forwarder.operationBindings ∨
        ∃ value operationId, forwarder.checkRequest route request = .ok value ∧
          (value.get "operation_id").asStr = some operationId ∧
          forwarder.operationBindings[operationId]? = none ∧
          Retains forwarder value forwarder.operationBindings[id]?
            after.operationBindings[id]?) := by
  rw [validateRequest]
  split
  next => exact ⟨rfl, .inl rfl⟩
  next value hcheck =>
    split
    next => exact ⟨rfl, .inl rfl⟩
    next operationId hid =>
      split_ifs with hmem
      · exact ⟨rfl, .inl rfl⟩
      · have hnew := ExtTreeMap.getElem?_eq_none hmem
        obtain ⟨hretains, hadmissions⟩ := lookup_admitOperation hnew value id
        exact ⟨hadmissions, .inr ⟨value, operationId, hcheck, hid, hnew, hretains⟩⟩

/-- An operation after a request is one from before, or the new one. -/
lemma retained_of_validateRequest (forwarder : Forwarder) {route : Route} {request : HttpRequest}
    {id : String} {binding : OperationBinding}
    (h : (forwarder.validateRequest route request).2.operationBindings[id]? = some binding) :
    forwarder.operationBindings[id]? = some binding ∨
      ∃ value operationId, forwarder.checkRequest route request = .ok value ∧
        (value.get "operation_id").asStr = some operationId ∧
        forwarder.operationBindings[operationId]? = none ∧
        forwarder.newBinding value = some binding := by
  obtain ⟨-, hsame | ⟨value, operationId, hcheck, hid, hfresh, hretains⟩⟩ :=
    forwarder.lookup_validateRequest route request id
  · exact .inl (hsame ▸ h)
  rcases hretains with hsame | ⟨hnone, -⟩ | ⟨-, new, hnew, hvalue⟩
  · exact .inl (hsame ▸ h)
  · rw [h] at hnone
    cases hnone
  · rw [h] at hnew
    exact .inr ⟨value, operationId, hcheck, hid, hfresh, Option.some.inj hnew ▸ hvalue⟩

end Schema

/-! ### Answers -/

lemma lookup_modifyBinding (operationId : Option String)
    (change : OperationBinding → OperationBinding) (id : String) :
    (forwarder.modifyBinding operationId change).operationBindings[id]? =
      if operationId = some id then forwarder.operationBindings[id]?.map change
      else forwarder.operationBindings[id]? := by
  cases operationId with
  | none => rfl
  | some operationId =>
    simp only [modifyBinding, OrderedMap.getElem?_modify_if, Option.some.injEq]
    split_ifs with hid
    · rw [hid]
    · rfl

/-- The retained operations are the same, with the same requests and the same statuses. -/
def SameCores (before after : Forwarder) : Prop :=
  ∀ id : String, after.operationBindings[id]?.map OperationBinding.core =
    before.operationBindings[id]?.map OperationBinding.core

lemma SameCores.refl : SameCores forwarder forwarder := fun _ => rfl

lemma SameCores.trans {before between after : Forwarder} (h : SameCores before between)
    (h' : SameCores between after) : SameCores before after := fun id => (h' id).trans (h id)

lemma SameCores.of_eq {before after : Forwarder}
    (h : after.operationBindings = before.operationBindings) : SameCores before after :=
  fun id => by rw [h]

lemma sameCores_modifyBinding (operationId : Option String)
    {change : OperationBinding → OperationBinding}
    (h : ∀ binding, (change binding).core = binding.core) :
    SameCores forwarder (forwarder.modifyBinding operationId change) := by
  intro id
  rw [lookup_modifyBinding]
  split_ifs
  · rw [Option.map_map]
    exact congrFun (congrArg Option.map (funext h)) _
  · rfl

lemma sameCores_releaseAnswered (operationId : Option String) (value : Json) :
    SameCores forwarder (forwarder.releaseAnswered operationId value) := by
  rw [releaseAnswered]
  split_ifs
  · exact .of_eq (bindings_releaseSelectorReservation operationId)
  · exact .refl

lemma core_bury (selectionId : String) (admission : SelectorAdmission)
    (binding : OperationBinding) : (bury selectionId admission binding).core = binding.core := by
  rw [bury]
  split_ifs <;> rfl

lemma sameCores_recordAdmission (operationId : Option String) (request : Json)
    (selectionId : String) (admission : SelectorAdmission) :
    SameCores forwarder (forwarder.recordAdmission operationId request selectionId admission) := by
  have hcapture : ∀ next : Forwarder,
      SameCores next (next.captureContext operationId selectionId admission) := by
    intro next
    refine sameCores_modifyBinding operationId fun binding => ?_
    split_ifs <;> rfl
  have hnext : SameCores forwarder ((forwarder.releaseSelectorReservation
      operationId).captureContext operationId selectionId admission) :=
    (SameCores.of_eq (bindings_releaseSelectorReservation operationId)).trans (hcapture _)
  rw [recordAdmission]
  split_ifs
  · exact hnext.trans (.of_eq rfl)
  · exact hnext
  · exact .refl

lemma sameCores_recordCompletion (operationId : Option String) (selectionId : String)
    (lifecycle : SelectorLifecycle) (beforeGeneration : ℕ) :
    SameCores forwarder
      (forwarder.recordCompletion operationId selectionId lifecycle beforeGeneration) := by
  rw [recordCompletion]
  split
  next => exact .refl
  next current _ =>
    split_ifs
    · refine SameCores.trans (fun id => ?_) (sameCores_modifyBinding operationId fun _ => rfl)
      rw [ExtTreeMap.getElem?_map, Option.map_map]
      exact congrFun (congrArg Option.map (funext fun binding => core_bury _ _ binding)) _
    · exact .refl

lemma sameCores_opened (forwarder : Forwarder) (route : Route) (request value : Json) :
    SameCores forwarder
      (match (SelectorLifecycle.fromValue value).bind
          (admissionFromTransition (value.get "transition")) with
        | none => forwarder
        | some (selectionId, admission) =>
          if forwarder.completedSelectorBlocks selectionId admission then
            forwarder.releaseSelectorReservation (operationOf route request)
          else (forwarder.recordAdmission (operationOf route request) request selectionId
            admission).releaseAnswered (operationOf route request) value) := by
  split
  · exact .refl
  · split_ifs
    · exact .of_eq (bindings_releaseSelectorReservation _)
    · exact (sameCores_recordAdmission _ _ _ _).trans (sameCores_releaseAnswered _ _)

/-- What an answer writes of a selection leaves the requests and the statuses. -/
theorem sameCores_recordSelectorAdmission (forwarder : Forwarder) (route : Route)
    (request value : Json) :
    SameCores forwarder (forwarder.recordSelectorAdmission route request value) := by
  have hopened := sameCores_opened forwarder route request value
  rw [recordSelectorAdmission]
  split
  · exact hopened
  · exact hopened
  · split
    · exact (sameCores_recordCompletion _ _ _ _).trans (sameCores_releaseAnswered _ _)
    · exact .refl
  · exact sameCores_releaseAnswered _ _

/-- What an accepted answer leaves of an operation is its request, with the status of the
answer if the answer is about the operation. -/
theorem core_recordResponse (forwarder : Forwarder) (route : Route) (request : Json) {value : Json}
    {status : OperationStatus}
    (hstatus : OperationStatus.fromResponse value = some status) (id : String) :
    (forwarder.recordResponse route request value).operationBindings[id]?.map
        OperationBinding.core =
      (forwarder.operationBindings[id]?.map OperationBinding.core).map fun binding =>
        if operationOf route request = some id then { binding with status } else binding := by
  have hsame := sameCores_recordSelectorAdmission forwarder route request value id
  rw [recordResponse, recordOperationStatus, hstatus]
  simp only [lookup_modifyBinding]
  rw [← hsame]
  split_ifs
  · rw [Option.map_map, Option.map_map]
    rfl
  · rw [Option.map_id']

end Forwarder

/-! ### What is let through -/

section Schema

variable [RestActionSchema]

/-- A dispatch with a valid envelope, or a reconciliation without one. -/
def Exchange.WellFormed (exchange : Exchange) : Prop :=
  match exchange.route with
  | .dispatch => requestValid exchange.envelope exchange.headers = true
  | .reconcile _ => exchange.envelope = .null

namespace Forwarder

variable {forwarder : Forwarder}

lemma wellFormed_of_checkRequest {route : Route} {request : HttpRequest} {envelope : Json}
    (h : forwarder.checkRequest route request = .ok envelope) :
    Exchange.WellFormed ⟨route, envelope, request⟩ := by
  cases route with
  | reconcile =>
    rw [checkRequest] at h
    obtain ⟨_, _, h⟩ := except_bind_eq_ok.mp h
    obtain ⟨_, _, h⟩ := except_bind_eq_ok.mp h
    exact (Except.ok.inj h).symm
  | dispatch =>
    rw [checkRequest] at h
    obtain ⟨_, _, h⟩ := except_bind_eq_ok.mp h
    simp only [except_bind_eq_ok, refuse_eq_ok] at h
    obtain ⟨_, _, value, _, _, hvalid, _, _, _, _, h⟩ := h
    obtain rfl := Except.ok.inj h
    exact not_not.mp hvalid

/-- A request is let through with the envelope that was checked. -/
lemma checkRequest_of_validateRequest {route : Route} {request : HttpRequest} {envelope : Json}
    {after : Forwarder} (h : forwarder.validateRequest route request = (.ok envelope, after)) :
    forwarder.checkRequest route request = .ok envelope := by
  rw [validateRequest] at h
  split at h
  next => cases h
  next value hcheck =>
    have hvalue : value = envelope := by
      split at h
      · exact Except.ok.inj (Prod.mk.inj h).1
      · split_ifs at h
        · exact Except.ok.inj (Prod.mk.inj h).1
        · rw [admitOperation] at h
          split at h
          · cases h
          · split at h
            · exact Except.ok.inj (Prod.mk.inj h).1
            · cases h
    rw [hcheck, hvalue]

end Forwarder

namespace Channel

variable {channel : Channel}

/-- A step lets a request through or leaves the requests as they are. -/
lemma forwarded_step (input : Input) :
    (channel.step input).forwarded = channel.forwarded ∨
      ∃ exchange : Exchange, (channel.step input).forwarded = channel.forwarded ++ [exchange] ∧
        exchange.WellFormed := by
  cases input with
  | request route request =>
    rw [step]
    split
    next envelope forwarder heq =>
      exact .inr ⟨_, rfl, Forwarder.wellFormed_of_checkRequest
        (Forwarder.checkRequest_of_validateRequest heq)⟩
    next => exact .inl rfl
  | answer exchange statusCode body =>
    rw [step]
    split <;> exact .inl rfl

lemma wellFormed_step (h : ∀ exchange ∈ channel.forwarded, exchange.WellFormed) (input : Input) :
    ∀ exchange ∈ (channel.step input).forwarded, exchange.WellFormed := by
  rcases forwarded_step input with hsame | ⟨new, hnew, hvalid⟩
  · rw [hsame]
    exact h
  · intro exchange hmem
    rw [hnew, List.mem_append, List.mem_singleton] at hmem
    rcases hmem with hmem | rfl
    · exact h exchange hmem
    · exact hvalid

/-- What was let through in a run. -/
theorem forwarded_wellFormed (maxRequestBytes maxResponseBytes : ℕ) (inputs : List Input) :
    ∀ exchange ∈ (Machine.run step (start maxRequestBytes maxResponseBytes) inputs).forwarded,
      exchange.WellFormed :=
  Machine.run_invariant
    (P := fun channel : Channel => ∀ exchange ∈ channel.forwarded, exchange.WellFormed)
    (fun _ input h => wellFormed_step h input) (by simp [start]) inputs

end Channel

end Schema

end Sts2Gateway.RestAction
