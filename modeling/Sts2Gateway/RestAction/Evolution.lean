/-
How the catalogs of a selection evolve.

* `recorded`, `catalogs`: the catalogs of a selection that a run records under a lease;
* `Ends`: a step that takes the catalog of a selection away, with its completion;
* `Kept`: what the retained operations know of a selection under a lease;
* `Phase`, `Phase.step`: **a selection under a lease is unseen, live or past**;
* `shared_is_last`: the shared catalog is the one that was recorded last;
* `catalogs_evolve`: up to the first completion the catalogs of a selection are of one
  option, kind, count and set of choices, in increasing generations, and a selection is gone
  on with as the last catalog says.
-/
import Mathlib.Tactic
import Sts2Gateway.RestAction.Catalogs

namespace Sts2Gateway.RestAction

open CompactJson Procedure Service
open Std (ExtTreeMap)

/-- A later catalog of a selection. -/
structure Evolves (first second : SelectorAdmission) : Prop where
  generation : first.generation < second.generation
  selection : SameSelection first second

lemma Evolves.trans {first second third : SelectorAdmission} (h : Evolves first second)
    (h' : Evolves second third) : Evolves first third :=
  ⟨h.generation.trans h'.generation, h.selection.trans h'.selection⟩

/-- No value comes back after another one was seen. -/
def NeverReturns {α : Type} (seen : List α) : Prop :=
  ∀ front a middle b back, seen = front ++ a :: (middle ++ b :: back) → b ≠ a → a ∉ back

lemma NeverReturns.of_append {α : Type} {front back : List α} (h : NeverReturns (front ++ back)) :
    NeverReturns front := by
  rintro start a middle b rest rfl hne hmem
  exact h start a middle b (rest ++ back) (by simp) hne (List.mem_append_left _ hmem)

/-- A value was seen, and another one after it. -/
def Left {α : Type} (a : α) (seen : List α) : Prop :=
  ∃ front middle b back, seen = front ++ a :: (middle ++ b :: back) ∧ b ≠ a

lemma Left.append {α : Type} {a : α} {seen : List α} (h : Left a seen) (more : List α) :
    Left a (seen ++ more) := by
  obtain ⟨front, middle, b, back, rfl, hne⟩ := h
  exact ⟨front, middle, b, back ++ more, by simp, hne⟩

lemma left_of_mem {α : Type} {a b : α} {seen : List α} (h : a ∈ seen) (hne : b ≠ a) :
    Left a (seen ++ [b]) := by
  obtain ⟨front, back, rfl⟩ := List.mem_iff_append.mp h
  exact ⟨front, back, b, [], by simp, hne⟩

lemma Left.not_returns {α : Type} {a : α} {seen : List α} (h : Left a seen) :
    ¬ NeverReturns (seen ++ [a]) := by
  obtain ⟨front, middle, b, back, rfl, hne⟩ := h
  exact fun hnever => hnever front a middle b (back ++ [a]) (by simp) hne (by simp)

/-! ### What the operations know -/

/-- What the retained operations know of a selection under a lease: the catalogs that they
were admitted with, and no completion. -/
structure Kept (forwarder : Forwarder) (selectionId : String) (lifecycle : SelectorLifecycle)
    (P : SelectorAdmission → Prop) : Prop where
  contexts : ∀ (id : String) (binding : OperationBinding) (context : SelectorAdmission),
    forwarder.operationBindings[id]? = some binding →
    binding.selectorContext = some (selectionId, context) → context.lifecycle = lifecycle →
    P context
  tombstones : ∀ (id : String) (binding : OperationBinding) (tombstone : SelectorAdmission),
    forwarder.operationBindings[id]? = some binding →
    binding.completedSelector = some (selectionId, tombstone) → tombstone.lifecycle ≠ lifecycle

section Kept

variable {forwarder after : Forwarder} {selectionId : String} {lifecycle : SelectorLifecycle}
  {P Q : SelectorAdmission → Prop}

lemma Kept.mono (h : Kept forwarder selectionId lifecycle P) (hpq : ∀ a, P a → Q a) :
    Kept forwarder selectionId lifecycle Q :=
  ⟨fun id binding context hid hcontext hsame => hpq _ (h.contexts id binding context hid hcontext
    hsame), h.tombstones⟩

/-- A new operation knows the shared catalog, and no completion. -/
lemma context_of_newBinding {value : Json} {binding : OperationBinding}
    (h : forwarder.newBinding value = some binding) :
    (∀ id context, binding.selectorContext = some (id, context) →
        forwarder.selectorAdmissions[id]? = some context) ∧
      binding.completedSelector = none := by
  simp only [Forwarder.newBinding, Option.pure_def, Option.bind_eq_bind, Option.bind_eq_some_iff,
    Option.some.injEq] at h
  obtain ⟨_, _, _, _, _, _, _, _, _, _, _, _, rfl⟩ := h
  refine ⟨fun id context hcontext => ?_, rfl⟩
  obtain ⟨other, -, hshared⟩ := Option.bind_eq_some_iff.mp hcontext
  obtain ⟨admission, hadmission, heq⟩ := Option.map_eq_some_iff.mp hshared
  obtain ⟨rfl, rfl⟩ := Prod.mk.inj heq
  exact hadmission

lemma Kept.request [RestActionSchema] (h : Kept forwarder selectionId lifecycle P) (route : Route)
    (request : HttpRequest)
    (hshared : ∀ admission, forwarder.selectorAdmissions[selectionId]? = some admission →
      admission.lifecycle = lifecycle → P admission) :
    Kept (forwarder.validateRequest route request).2 selectionId lifecycle P := by
  have hlookup : ∀ (id : String) (binding : OperationBinding),
      (forwarder.validateRequest route request).2.operationBindings[id]? = some binding →
      forwarder.operationBindings[id]? = some binding ∨
        ∃ value, forwarder.newBinding value = some binding := by
    intro id binding hbinding
    refine (forwarder.retained_of_validateRequest hbinding).imp_right ?_
    rintro ⟨value, _, -, -, -, hnew⟩
    exact ⟨value, hnew⟩
  constructor
  · intro id binding context hbinding hcontext hsame
    rcases hlookup id binding hbinding with hold | ⟨value, hnew⟩
    · exact h.contexts id binding context hold hcontext hsame
    · exact hshared context ((context_of_newBinding hnew).1 _ _ hcontext) hsame
  · intro id binding tombstone hbinding htombstone
    rcases hlookup id binding hbinding with hold | ⟨value, hnew⟩
    · exact h.tombstones id binding tombstone hold htombstone
    · rw [(context_of_newBinding hnew).2] at htombstone
      cases htombstone

/-- An operation after an answer is the one before, but for its status and the change. -/
lemma lookup_before {before : Forwarder} {change : OperationBinding → OperationBinding}
    {id : String} {binding : OperationBinding}
    (h : after.operationBindings[id]?.map OperationBinding.unanswered =
      before.operationBindings[id]?.map fun binding => OperationBinding.unanswered (change binding))
    (hafter : after.operationBindings[id]? = some binding) :
    ∃ old, before.operationBindings[id]? = some old ∧
      binding.unanswered = (change old).unanswered := by
  rw [hafter, Option.map_some] at h
  obtain ⟨old, hold, hsame⟩ := Option.map_eq_some_iff.mp h.symm
  exact ⟨old, hold, hsame.symm⟩

lemma context_of_unanswered {first second : OperationBinding}
    (h : first.unanswered = second.unanswered) :
    first.selectorContext = second.selectorContext := by
  show first.unanswered.selectorContext = second.unanswered.selectorContext
  rw [h]

lemma completed_of_unanswered {first second : OperationBinding}
    (h : first.unanswered = second.unanswered) :
    first.completedSelector = second.completedSelector := by
  show first.unanswered.completedSelector = second.unanswered.completedSelector
  rw [h]

lemma bury_context (id : String) (admission : SelectorAdmission) (binding : OperationBinding) :
    (Forwarder.bury id admission binding).selectorContext = binding.selectorContext := by
  rw [Forwarder.bury]
  split_ifs <;> rfl

lemma bury_completed (id : String) (admission : SelectorAdmission) (binding : OperationBinding) :
    (Forwarder.bury id admission binding).completedSelector = binding.completedSelector ∨
      (Forwarder.bury id admission binding).completedSelector = some (id, admission) := by
  rw [Forwarder.bury]
  split_ifs
  · exact .inr rfl
  · exact .inl rfl

/-- An answer keeps what the operations know, if it does not end the selection. -/
lemma Kept.selects {operationId : Option String} {request value : Json}
    (h : Kept forwarder selectionId lifecycle P)
    (hselects : Selects operationId request value forwarder after)
    (hshared : ∀ admission, forwarder.selectorAdmissions[selectionId]? = some admission →
      admission.lifecycle = lifecycle → P admission)
    (hfirst : ∀ admission, SelectorLifecycle.fromValue value = some admission.lifecycle →
      after.selectorAdmissions[selectionId]? = some admission →
      admission.lifecycle = lifecycle → P admission)
    (hends : ∀ current, forwarder.selectorAdmissions[selectionId]? = some current →
      after.selectorAdmissions[selectionId]? = none → current.lifecycle ≠ lifecycle) :
    Kept after selectionId lifecycle P := by
  cases hselects with
  | kept _ hbindings =>
    constructor
    · intro id binding context hbinding hcontext
      obtain ⟨old, hold, hsame⟩ := lookup_before (hbindings id) hbinding
      exact h.contexts id old context hold (context_of_unanswered hsame ▸ hcontext)
    · intro id binding tombstone hbinding htombstone
      obtain ⟨old, hold, hsame⟩ := lookup_before (hbindings id) hbinding
      exact h.tombstones id old tombstone hold (completed_of_unanswered hsame ▸ htombstone)
  | shown shownId admission _ hlifecycle _ _ hafter hbindings =>
    constructor
    · intro id binding context hbinding hcontext hsameLease
      obtain ⟨old, hold, hsame⟩ := lookup_before (hbindings id) hbinding
      rw [context_of_unanswered hsame] at hcontext
      split_ifs at hcontext
      · rw [Forwarder.captured] at hcontext
        split_ifs at hcontext
        · obtain ⟨rfl, hcaptured⟩ := Prod.mk.inj (Option.some.inj hcontext)
          cases hcurrent : forwarder.selectorAdmissions[shownId]? with
          | some current =>
            rw [hcurrent, Option.getD_some] at hcaptured
            exact hshared context (hcaptured ▸ hcurrent) hsameLease
          | none =>
            rw [hcurrent, Option.getD_none] at hcaptured
            subst hcaptured
            refine hfirst admission hlifecycle ?_ hsameLease
            rw [hafter, if_pos (by simp [Forwarder.shouldAdvance, hcurrent]),
              OrderedMap.getElem?_insert_if, if_pos rfl]
        · exact h.contexts id old context hold hcontext hsameLease
      · exact h.contexts id old context hold hcontext hsameLease
    · intro id binding tombstone hbinding htombstone
      obtain ⟨old, hold, hsame⟩ := lookup_before (hbindings id) hbinding
      rw [completed_of_unanswered hsame] at htombstone
      refine h.tombstones id old tombstone hold ?_
      split_ifs at htombstone
      · rw [Forwarder.captured] at htombstone
        split_ifs at htombstone <;> exact htombstone
      · exact htombstone
  | completed endedId current answered _ _ hcurrent _ _ _ hafter hbindings =>
    have hnew : ∀ tombstone, some (endedId, current) = some (selectionId, tombstone) →
        tombstone.lifecycle ≠ lifecycle := by
      rintro tombstone heq
      obtain ⟨rfl, rfl⟩ := Prod.mk.inj (Option.some.inj heq)
      refine hends _ hcurrent ?_
      rw [hafter, OrderedMap.getElem?_erase_if, if_pos rfl]
    constructor
    · intro id binding context hbinding hcontext
      obtain ⟨old, hold, hsame⟩ := lookup_before (hbindings id) hbinding
      rw [context_of_unanswered hsame] at hcontext
      refine h.contexts id old context hold ?_
      split_ifs at hcontext
      · exact hcontext
      · rw [bury_context] at hcontext
        exact hcontext
    · intro id binding tombstone hbinding htombstone
      obtain ⟨old, hold, hsame⟩ := lookup_before (hbindings id) hbinding
      rw [completed_of_unanswered hsame] at htombstone
      split_ifs at htombstone
      · exact hnew tombstone htombstone
      · rcases bury_completed endedId current old with hkept | hburied
        · rw [hkept] at htombstone
          exact h.tombstones id old tombstone hold htombstone
        · rw [hburied] at htombstone
          exact hnew tombstone htombstone

/-- What an answer does to the shared catalog of a selection: nothing, put a newer one in its
place, or take it away. -/
lemma shared_of_selects {operationId : Option String} {request value : Json}
    (hselects : Selects operationId request value forwarder after) (selectionId : String) :
    after.selectorAdmissions[selectionId]? = forwarder.selectorAdmissions[selectionId]? ∨
      (∃ admission, after.selectorAdmissions[selectionId]? = some admission ∧
        showsCatalog value ∧ SelectorLifecycle.fromValue value = some admission.lifecycle ∧
        admissionFromTransition (value.get "transition") admission.lifecycle =
          some (selectionId, admission) ∧
        forwarder.shouldAdvance request selectionId admission = true) ∨
      ∃ current, forwarder.selectorAdmissions[selectionId]? = some current ∧
        after.selectorAdmissions[selectionId]? = none ∧
        SelectorLifecycle.fromValue value = some current.lifecycle := by
  cases hselects with
  | kept hshared => exact .inl (by rw [hshared])
  | shown shownId admission hkind hlifecycle hadmission _ hshared =>
    rw [hshared]
    by_cases hadvance : forwarder.shouldAdvance request shownId admission = true
    · rw [if_pos hadvance, OrderedMap.getElem?_insert_if]
      split_ifs with hid
      · subst hid
        exact .inr (.inl ⟨admission, rfl, hkind, hlifecycle, hadmission, hadvance⟩)
      · exact .inl rfl
    · rw [if_neg hadvance]
      exact .inl rfl
  | completed endedId current _ _ hlifecycle hcurrent _ _ _ hshared =>
    rw [hshared, OrderedMap.getElem?_erase_if]
    split_ifs with hid
    · subst hid
      exact .inr (.inr ⟨current, hcurrent, rfl, hlifecycle⟩)
    · exact .inl rfl

end Kept

/-! ### New operations -/

lemma eq_of_object {value payload : Json} (h : value.object = some payload) : payload = value := by
  cases value with
  | obj members => exact (Option.some.inj h).symm
  | null | bool | num | str | arr => cases h

/-- A new operation is admitted by the shared catalogs. -/
lemma actionAdmitted_of_checkRequest [RestActionSchema] {forwarder : Forwarder} {route : Route}
    {request : HttpRequest} {value : Json} {operationId : String}
    (h : forwarder.checkRequest route request = .ok value)
    (hid : (value.get "operation_id").asStr = some operationId)
    (hnew : forwarder.operationBindings[operationId]? = none) :
    actionAdmitted value forwarder.selectorAdmissions = true := by
  cases route with
  | reconcile =>
    obtain rfl : value = .null := Forwarder.wellFormed_of_checkRequest h
    cases hid
  | dispatch =>
    rw [Forwarder.checkRequest] at h
    simp only [except_bind_eq_ok, refuse_eq_ok] at h
    obtain ⟨_, _, _, _, other, _, _, _, _, hadmitted, _, _, hpure⟩ := h
    obtain rfl := Except.ok.inj hpure
    by_contra hrefused
    refine hadmitted ⟨by rw [hid]; rfl, ?_, hrefused⟩
    simp [Forwarder.bindingFor, operationOf, Route.operationId, hid, hnew]

/-- A selection is gone on with as its catalog lists. -/
lemma listed_of_actionAdmitted {value : Json} {admissions : Admissions} {selectionId : String}
    (h : actionAdmitted value admissions = true)
    (hselection : (((value.get "action").get "action").get "selection_id").asStr =
      some selectionId) :
    ∃ actionId admission, ((value.get "action").get "action_id").asStr = some actionId ∧
      admissions[selectionId]? = some admission ∧
      SelectorLifecycle.fromValue value = some admission.lifecycle ∧
      (value.get "generation").asU64 = some admission.generation ∧
      admission.legalActions[actionId]? = some ((value.get "action").get "action") := by
  obtain ⟨payload, hpayload, hadmitted⟩ := (Option.any_eq_true _ _).mp h
  obtain rfl := eq_of_object hpayload
  rw [hselection] at hadmitted
  obtain ⟨_, hchain⟩ := Option.isSome_iff_exists.mp hadmitted
  simp only [Option.bind_eq_bind, Option.bind_eq_some_iff, Option.guard_eq_some'] at hchain
  obtain ⟨admission, hshared, lifecycle, hlifecycle, _, hsame, generation, hgeneration, _, hequal,
    actionId, hactionId, hlisted⟩ := hchain
  exact ⟨actionId, admission, hactionId, hshared, hsame ▸ hlifecycle, hequal ▸ hgeneration, hlisted⟩

/-! ### Runs -/

namespace Channel

section Schema

variable [RestActionSchema]

/-- The catalog of a selection that a step records. -/
def recorded (selectionId : String) (channel : Channel) (input : Input) :
    Option SelectorAdmission :=
  let after := (channel.step input).forwarder.selectorAdmissions[selectionId]?
  if after = channel.forwarder.selectorAdmissions[selectionId]? then none else after

/-- The catalog of a selection that a step records under a lease. -/
def recordedUnder (selectionId : String) (lifecycle : SelectorLifecycle) (channel : Channel)
    (input : Input) : Option SelectorAdmission :=
  (channel.recorded selectionId input).filter fun admission => admission.lifecycle = lifecycle

/-- A step takes away the catalog that a selection has under a lease. -/
def Ends (selectionId : String) (lifecycle : SelectorLifecycle) (channel : Channel)
    (input : Input) : Prop :=
  (channel.step input).forwarder.selectorAdmissions[selectionId]? = none ∧
    ∃ current, channel.forwarder.selectorAdmissions[selectionId]? = some current ∧
      current.lifecycle = lifecycle

/-- The lease that an accepted answer comes under. -/
def acceptedLifecycle (channel : Channel) (input : Input) : Option SelectorLifecycle :=
  (channel.accepted input).bind fun answer => SelectorLifecycle.fromValue answer.2

def catalogs (selectionId : String) (lifecycle : SelectorLifecycle) (channel : Channel)
    (inputs : List Input) : List SelectorAdmission :=
  Machine.outputs step (recordedUnder selectionId lifecycle) channel inputs

def lifecycles (channel : Channel) (inputs : List Input) : List SelectorLifecycle :=
  Machine.outputs step acceptedLifecycle channel inputs

/-- What a step does: it changes no catalog, or it accepts an answer. -/
lemma step_cases (channel : Channel) (input : Input) :
    (channel.step input).forwarder = channel.forwarder ∧ channel.accepted input = none ∨
      (∃ route request, (channel.step input).forwarder =
        (channel.forwarder.validateRequest route request).2 ∧ channel.accepted input = none) ∨
      ∃ exchange statusCode body value,
        channel.forwarder.checkResponse exchange.route exchange.envelope exchange.headers statusCode
          body = .ok value ∧ exchange ∈ channel.forwarded ∧
        channel.accepted input = some (exchange, value) ∧
        (channel.step input).forwarder =
          channel.forwarder.recordResponse exchange.route exchange.envelope value := by
  cases input with
  | request route request =>
    refine .inr (.inl ⟨route, request, ?_, rfl⟩)
    rw [step]
    split <;> simp [*]
  | answer exchange statusCode body =>
    cases hexchange : channel.forwarded[exchange]? with
    | none =>
      left
      constructor
      · simp only [step, hexchange]
      · simp only [accepted, hexchange, Option.bind_eq_bind, Option.bind_none]
    | some sent =>
      cases hcheck : channel.forwarder.checkResponse sent.route sent.envelope sent.headers
          statusCode body with
      | error e =>
        left
        constructor
        · simp only [step, hexchange, Forwarder.validateResponse, hcheck]
        · simp [accepted, hexchange, hcheck, Except.toOption]
      | ok value =>
        refine .inr (.inr ⟨sent, statusCode, body, value, hcheck, List.mem_of_getElem? hexchange,
          ?_, ?_⟩)
        · simp [accepted, hexchange, hcheck, Except.toOption]
        · simp only [step, hexchange, Forwarder.validateResponse, hcheck]

/-- A selection under a lease: no catalog of it was recorded yet, its last one is the shared
one, or another lease was seen after it. -/
inductive Phase (selectionId : String) (lifecycle : SelectorLifecycle) (forwarder : Forwarder)
    (log : List SelectorAdmission) (seen : List SelectorLifecycle) : Prop where
  | unseen (hlog : log = []) (hkept : Kept forwarder selectionId lifecycle fun _ => False)
      (hshared : ∀ admission, forwarder.selectorAdmissions[selectionId]? = some admission →
        admission.lifecycle ≠ lifecycle)
  | live (last : SelectorAdmission) (hlog : log.getLast? = some last)
      (hkept : Kept forwarder selectionId lifecycle (SameSelection last))
      (hshared : forwarder.selectorAdmissions[selectionId]? = some last)
      (hlifecycle : last.lifecycle = lifecycle) (hseen : lifecycle ∈ seen)
  | past (hleft : Left lifecycle seen)
      (hshared : ∀ admission, forwarder.selectorAdmissions[selectionId]? = some admission →
        admission.lifecycle ≠ lifecycle)

section Phase

variable {selectionId : String} {lifecycle : SelectorLifecycle} {channel : Channel}
  {log : List SelectorAdmission} {seen : List SelectorLifecycle}

/-- A step that leaves the shared catalog records none. -/
lemma recordedUnder_of_same {input : Input}
    (h : (channel.step input).forwarder.selectorAdmissions[selectionId]? =
      channel.forwarder.selectorAdmissions[selectionId]?) :
    channel.recordedUnder selectionId lifecycle input = none := by
  rw [recordedUnder, recorded, if_pos h, Option.filter_none]

lemma recordedUnder_of_some {input : Input} {admission : SelectorAdmission}
    (h : (channel.step input).forwarder.selectorAdmissions[selectionId]? = some admission)
    (hne : some admission ≠ channel.forwarder.selectorAdmissions[selectionId]?) :
    channel.recordedUnder selectionId lifecycle input =
      if admission.lifecycle = lifecycle then some admission else none := by
  rw [recordedUnder, recorded, h, if_neg hne, Option.filter_some]
  simp only [decide_eq_true_eq]

lemma recordedUnder_of_none {input : Input}
    (h : (channel.step input).forwarder.selectorAdmissions[selectionId]? = none) :
    channel.recordedUnder selectionId lifecycle input = none := by
  rw [recordedUnder, recorded, h]
  split_ifs <;> rfl

omit [RestActionSchema] in
/-- A phase in which the catalog of the lease is not the shared one goes on while it is not. -/
lemma Phase.of_kept (h : Phase selectionId lifecycle channel.forwarder log seen) {after : Forwarder}
    (hshared : after.selectorAdmissions[selectionId]? =
      channel.forwarder.selectorAdmissions[selectionId]?)
    (hkept : ∀ P : SelectorAdmission → Prop, Kept channel.forwarder selectionId lifecycle P →
      (∀ admission, channel.forwarder.selectorAdmissions[selectionId]? = some admission →
        admission.lifecycle = lifecycle → P admission) → Kept after selectionId lifecycle P)
    (more : List SelectorLifecycle) :
    Phase selectionId lifecycle after log (seen ++ more) := by
  cases h with
  | unseen hlog hold hother =>
    exact .unseen hlog (hkept _ hold fun admission hadmission hsame => hother admission hadmission
      hsame) fun admission hadmission => hother admission (hshared ▸ hadmission)
  | live last hlog hold hlast hlifecycle hseen =>
    refine .live last hlog (hkept _ hold fun admission hadmission _ => ?_) (hshared.trans hlast)
      hlifecycle (List.mem_append_left _ hseen)
    rw [hlast] at hadmission
    rw [Option.some.inj hadmission]
    exact .refl _
  | past hleft hother =>
    exact .past (hleft.append more) fun admission hadmission => hother admission
      (hshared ▸ hadmission)

/-- A catalog that takes the place of another one of its lease is a later one. -/
lemma evolves_of_shouldAdvance {forwarder : Forwarder} {route : Route} {envelope value : Json}
    {headers : HttpRequest} {statusCode : UInt16} {body : Body}
    {last admission : SelectorAdmission}
    (hcheck : forwarder.checkResponse route envelope headers statusCode body = .ok value)
    (hshows : showsCatalog value)
    (hlifecycle : SelectorLifecycle.fromValue value = some admission.lifecycle)
    (hadmission : admissionFromTransition (value.get "transition") admission.lifecycle =
      some (selectionId, admission))
    (hadvance : forwarder.shouldAdvance envelope selectionId admission = true)
    (hlast : forwarder.selectorAdmissions[selectionId]? = some last)
    (hsame : last.lifecycle = admission.lifecycle)
    (hkept : Kept forwarder selectionId admission.lifecycle (SameSelection last)) :
    Evolves last admission := by
  constructor
  · simp only [Forwarder.shouldAdvance, hlast, Option.all_some, hsame, decide_true, Bool.true_and,
      ne_eq, not_true_eq_false, decide_false, Bool.false_and, Bool.or_false,
      decide_eq_true_eq] at hadvance
    exact hadvance
  · obtain ⟨admitted, hadmitted⟩ : ∃ admitted,
        (forwarder.admissionsFor route envelope)[selectionId]? = some admitted :=
      Forwarder.admissionsFor_of_shared hlast
    obtain ⟨hlease, hselection⟩ := Forwarder.sameSelection_of_checkResponse hcheck hshows hlifecycle
      hadmission hadmitted
    have hknown : SameSelection last admitted := by
      rcases Forwarder.admissionsFor_cases hadmitted with hshared | ⟨binding, hbinding, hown⟩
      · rw [hlast] at hshared
        rw [Option.some.inj hshared]
        exact .refl _
      · obtain ⟨id, -, hlookup⟩ := Option.bind_eq_some_iff.mp hbinding
        rcases hown with hcontext | hcompleted
        · exact hkept.contexts id binding admitted hlookup hcontext hlease
        · exact absurd hlease (hkept.tombstones id binding admitted hlookup hcompleted)
    exact hknown.trans hselection

/-- A catalog is recorded for the selection: it opens it under the lease, goes on with it, or
is of another lease. -/
lemma Phase.newer (h : Phase selectionId lifecycle channel.forwarder log seen)
    (hpair : log.Pairwise Evolves) {exchange : Exchange} {statusCode : UInt16} {body : Body}
    {value : Json} {admission : SelectorAdmission} {after : Forwarder}
    (hcheck : channel.forwarder.checkResponse exchange.route exchange.envelope exchange.headers
      statusCode body = .ok value)
    (hselects : Selects (operationOf exchange.route exchange.envelope) exchange.envelope value
      channel.forwarder after)
    (hafter : after.selectorAdmissions[selectionId]? = some admission)
    (hshows : showsCatalog value)
    (hlifecycle : SelectorLifecycle.fromValue value = some admission.lifecycle)
    (hadmission : admissionFromTransition (value.get "transition") admission.lifecycle =
      some (selectionId, admission))
    (hadvance : channel.forwarder.shouldAdvance exchange.envelope selectionId admission = true)
    (hnever : NeverReturns (seen ++ [admission.lifecycle])) :
    Phase selectionId lifecycle after
        (log ++ if admission.lifecycle = lifecycle then [admission] else [])
        (seen ++ [admission.lifecycle]) ∧
      (log ++ if admission.lifecycle = lifecycle then [admission] else []).Pairwise Evolves := by
  have hfirst : ∀ other, after.selectorAdmissions[selectionId]? = some other →
      other = admission := by
    intro other hother
    rw [hafter] at hother
    exact (Option.some.inj hother).symm
  have hends : ∀ current, channel.forwarder.selectorAdmissions[selectionId]? = some current →
      after.selectorAdmissions[selectionId]? = none → current.lifecycle ≠ lifecycle := by
    intro current _ hnone
    rw [hafter] at hnone
    cases hnone
  by_cases hsame : admission.lifecycle = lifecycle
  · subst hsame
    rw [if_pos rfl]
    cases h with
    | unseen hlog hkept hother =>
      subst hlog
      refine ⟨.live admission rfl ?_ hafter rfl (by simp), List.pairwise_singleton _ _⟩
      refine (hkept.mono fun _ hfalse => hfalse.elim).selects hselects
        (fun current hcurrent hlease => absurd hlease (hother current hcurrent))
        (fun other _ hshared _ => ?_) hends
      rw [hfirst other hshared]
      exact .refl _
    | live last hlog hkept hlast hlease hseen =>
      have hevolves : Evolves last admission := evolves_of_shouldAdvance hcheck hshows hlifecycle
        hadmission hadvance hlast hlease hkept
      have hnew : SameSelection admission last := hevolves.selection.symm
      constructor
      · refine .live admission List.getLast?_concat ?_ hafter rfl (by simp)
        refine (hkept.mono fun other hother => hnew.trans hother).selects hselects
          (fun current hcurrent _ => ?_) (fun other _ hshared _ => ?_) hends
        · rw [hlast] at hcurrent
          rw [← Option.some.inj hcurrent]
          exact hnew
        · rw [hfirst other hshared]
          exact .refl _
      · obtain ⟨front, rfl⟩ := List.getLast?_eq_some_iff.mp hlog
        refine List.pairwise_append.mpr ⟨hpair, List.pairwise_singleton _ _, ?_⟩
        rintro earlier hearlier other hother
        rw [List.mem_singleton.mp hother]
        rcases List.mem_append.mp hearlier with hfront | hlastMem
        · exact ((List.pairwise_append.mp hpair).2.2 earlier hfront last (by simp)).trans hevolves
        · rw [List.mem_singleton.mp hlastMem]
          exact hevolves
    | past hleft => exact absurd hnever hleft.not_returns
  · rw [if_neg hsame, List.append_nil]
    refine ⟨?_, hpair⟩
    cases h with
    | unseen hlog hkept hother =>
      refine .unseen hlog (hkept.selects hselects
        (fun current hcurrent hlease => hother current hcurrent hlease)
        (fun other _ hshared hlease => ?_) hends) fun other hshared => ?_
      · rw [hfirst other hshared] at hlease
        exact hsame hlease
      · rw [hfirst other hshared]
        exact hsame
    | live last _ _ _ _ hseen =>
      refine .past (left_of_mem hseen hsame) fun other hshared => ?_
      rw [hfirst other hshared]
      exact hsame
    | past hleft =>
      refine .past (hleft.append _) fun other hshared => ?_
      rw [hfirst other hshared]
      exact hsame

/-- **One step of a selection under a lease.** -/
lemma Phase.step (h : Phase selectionId lifecycle channel.forwarder log seen)
    (hpair : log.Pairwise Evolves) (input : Input)
    (hnever : NeverReturns (seen ++ (channel.acceptedLifecycle input).toList))
    (hopen : ¬ channel.Ends selectionId lifecycle input) :
    Phase selectionId lifecycle (channel.step input).forwarder
        (log ++ (channel.recordedUnder selectionId lifecycle input).toList)
        (seen ++ (channel.acceptedLifecycle input).toList) ∧
      (log ++ (channel.recordedUnder selectionId lifecycle input).toList).Pairwise Evolves := by
  rcases channel.step_cases input with ⟨hsame, -⟩ | ⟨route, request, hafter, -⟩ |
    ⟨exchange, statusCode, body, value, hcheck, -, haccepted, hafter⟩
  · rw [recordedUnder_of_same (by rw [hsame]), Option.toList_none, List.append_nil]
    refine ⟨h.of_kept (by rw [hsame]) (fun P hkept _ => ?_) _, hpair⟩
    rw [hsame]
    exact hkept
  · have hshared : (channel.step input).forwarder.selectorAdmissions =
        channel.forwarder.selectorAdmissions := by
      rw [hafter]
      exact (channel.forwarder.lookup_validateRequest route request "").1
    rw [recordedUnder_of_same (by rw [hshared]), Option.toList_none, List.append_nil]
    refine ⟨h.of_kept (by rw [hshared]) (fun P hkept hknown => ?_) _, hpair⟩
    rw [hafter]
    exact hkept.request route request hknown
  · have hselects := selects_recordResponse channel.forwarder exchange.route exchange.envelope value
    rw [← hafter] at hselects
    rcases shared_of_selects hselects selectionId with hsame |
      ⟨admission, hnew, hshows, hlifecycle, hadmission, hadvance⟩ |
      ⟨current, hcurrent, hnone, hlifecycle⟩
    · rw [recordedUnder_of_same hsame, Option.toList_none, List.append_nil]
      refine ⟨h.of_kept hsame (fun P hkept hknown => ?_) _, hpair⟩
      refine hkept.selects hselects hknown (fun other _ hother => hknown other (hsame ▸ hother))
        fun current hcurrent hnone => ?_
      rw [hsame, hcurrent] at hnone
      cases hnone
    · have hlease : channel.acceptedLifecycle input = some admission.lifecycle := by
        rw [acceptedLifecycle, haccepted, Option.bind_some, hlifecycle]
      rw [hlease, Option.toList_some] at hnever ⊢
      have hne : some admission ≠ channel.forwarder.selectorAdmissions[selectionId]? := by
        intro heq
        simp [Forwarder.shouldAdvance, ← heq] at hadvance
      rw [recordedUnder_of_some hnew hne]
      have hphase := h.newer hpair hcheck hselects hnew hshows hlifecycle hadmission hadvance hnever
      split_ifs with hunder
      · rw [if_pos hunder] at hphase
        exact hphase
      · rw [if_neg hunder] at hphase
        exact hphase
    · have hother : current.lifecycle ≠ lifecycle :=
        fun heq => hopen ⟨hnone, current, hcurrent, heq⟩
      rw [recordedUnder_of_none hnone, Option.toList_none, List.append_nil]
      refine ⟨?_, hpair⟩
      have hgone : ∀ admission,
          (channel.step input).forwarder.selectorAdmissions[selectionId]? = some admission →
          admission.lifecycle ≠ lifecycle := by
        intro admission hadmission
        rw [hnone] at hadmission
        cases hadmission
      cases h with
      | unseen hlog hkept hshared =>
        refine .unseen hlog (hkept.selects hselects
          (fun other hfound hlease => hshared other hfound hlease)
          (fun other _ hfound hlease => hgone other hfound hlease) fun other hfound _ => ?_) hgone
        rw [hcurrent] at hfound
        rw [← Option.some.inj hfound]
        exact hother
      | live last _ _ hlast hlease =>
        rw [hcurrent] at hlast
        exact absurd (Option.some.inj hlast ▸ hlease) hother
      | past hleft => exact .past (hleft.append _) hgone

end Phase

/-- **The shared catalog of a selection is the one that was recorded last.** -/
theorem shared_is_last (maxRequestBytes maxResponseBytes : ℕ) (selectionId : String)
    (inputs : List Input) {admission : SelectorAdmission}
    (h : (Machine.run step (start maxRequestBytes maxResponseBytes)
      inputs).forwarder.selectorAdmissions[selectionId]? = some admission) :
    (Machine.outputs step (recorded selectionId) (start maxRequestBytes maxResponseBytes)
      inputs).getLast? = some admission := by
  induction inputs using List.reverseRecOn generalizing admission with
  | nil => simp [start, Forwarder.new] at h
  | append_singleton inputs input ih =>
    rw [Machine.run_append, Machine.run_cons, Machine.run_nil] at h
    have hrecorded : recorded selectionId
        (Machine.run step (start maxRequestBytes maxResponseBytes) inputs) input =
          if some admission = (Machine.run step (start maxRequestBytes maxResponseBytes)
            inputs).forwarder.selectorAdmissions[selectionId]? then none else some admission := by
      simp only [recorded, h]
    rw [Machine.outputs_append]
    simp only [Machine.outputs, List.append_nil]
    split_ifs at hrecorded with hsame
    · rw [hrecorded, Option.toList_none, List.append_nil]
      exact ih hsame.symm
    · rw [hrecorded, Option.toList_some, List.getLast?_concat]

/-- The catalogs of a selection under a lease, up to its first completion. -/
lemma phase_of_run (maxRequestBytes maxResponseBytes : ℕ) (selectionId : String)
    (lifecycle : SelectorLifecycle) (inputs : List Input)
    (hnever : NeverReturns (lifecycles (start maxRequestBytes maxResponseBytes) inputs))
    (hopen : Machine.Along step (fun channel input => ¬ channel.Ends selectionId lifecycle input)
      (start maxRequestBytes maxResponseBytes) inputs) :
    Phase selectionId lifecycle
        (Machine.run step (start maxRequestBytes maxResponseBytes) inputs).forwarder
        (catalogs selectionId lifecycle (start maxRequestBytes maxResponseBytes) inputs)
        (lifecycles (start maxRequestBytes maxResponseBytes) inputs) ∧
      (catalogs selectionId lifecycle (start maxRequestBytes maxResponseBytes)
        inputs).Pairwise Evolves := by
  induction inputs using List.reverseRecOn with
  | nil =>
    refine ⟨.unseen rfl ⟨?_, ?_⟩ ?_, .nil⟩
    · intro id binding _ hbinding
      simp [Machine.run_nil, start, Forwarder.new] at hbinding
    · intro id binding _ hbinding
      simp [Machine.run_nil, start, Forwarder.new] at hbinding
    · intro admission hadmission
      simp [Machine.run_nil, start, Forwarder.new] at hadmission
  | append_singleton inputs input ih =>
    obtain ⟨hbefore, hstep, -⟩ := Machine.along_append.mp hopen
    have hlifecycles : lifecycles (start maxRequestBytes maxResponseBytes) (inputs ++ [input]) =
        lifecycles (start maxRequestBytes maxResponseBytes) inputs ++
          ((Machine.run step (start maxRequestBytes maxResponseBytes)
            inputs).acceptedLifecycle input).toList := by
      rw [lifecycles, Machine.outputs_append]
      simp only [Machine.outputs, List.append_nil]
      rfl
    have hcatalogs : catalogs selectionId lifecycle (start maxRequestBytes maxResponseBytes)
        (inputs ++ [input]) =
        catalogs selectionId lifecycle (start maxRequestBytes maxResponseBytes) inputs ++
          ((Machine.run step (start maxRequestBytes maxResponseBytes)
            inputs).recordedUnder selectionId lifecycle input).toList := by
      rw [catalogs, Machine.outputs_append]
      simp only [Machine.outputs, List.append_nil]
      rfl
    rw [hlifecycles] at hnever ⊢
    obtain ⟨hphase, hpair⟩ := ih hnever.of_append hbefore
    rw [hcatalogs, Machine.run_append]
    exact hphase.step hpair input hnever hstep

/-- A new operation on a selection is the one that the shared catalog lists. -/
lemma listed_of_validateRequest {forwarder after : Forwarder} {request : HttpRequest}
    {envelope : Json} {operationId kind : String}
    (h : forwarder.validateRequest .dispatch request = (.ok envelope, after))
    (hid : (envelope.get "operation_id").asStr = some operationId)
    (hnew : forwarder.operationBindings[operationId]? = none)
    (hkind : (((envelope.get "action").get "action").get "kind").asStr = some kind)
    (hselects : kind ≠ "rest_option") :
    ∃ selectionId actionId admission,
      (((envelope.get "action").get "action").get "selection_id").asStr = some selectionId ∧
      ((envelope.get "action").get "action_id").asStr = some actionId ∧
      forwarder.selectorAdmissions[selectionId]? = some admission ∧
      SelectorLifecycle.fromValue envelope = some admission.lifecycle ∧
      (envelope.get "generation").asU64 = some admission.generation ∧
      admission.legalActions[actionId]? = some ((envelope.get "action").get "action") := by
  have hadmitted := actionAdmitted_of_checkRequest (Forwarder.checkRequest_of_validateRequest h)
    hid hnew
  cases hselection : (((envelope.get "action").get "action").get "selection_id").asStr with
  | none =>
    obtain ⟨payload, hpayload, hadmitted⟩ := (Option.any_eq_true _ _).mp hadmitted
    obtain rfl := eq_of_object hpayload
    rw [hselection] at hadmitted
    dsimp only at hadmitted
    rw [hkind, decide_eq_true_eq, Option.some.injEq] at hadmitted
    exact absurd hadmitted hselects
  | some selectionId =>
    obtain ⟨actionId, admission, hlisted⟩ := listed_of_actionAdmitted hadmitted hselection
    exact ⟨selectionId, actionId, admission, rfl, hlisted⟩

end Schema

end Channel

/-! ### A selection that is gone on with -/

namespace Sample

def selectionId : String := "selection:20:mend"

/-- The action that mends a player. -/
def mend : Json :=
  .obj [("action", .obj [("kind", .str "rest_option"), ("rest_option_id", .str "mend")]),
    ("action_id", .str "rest-option:19:mend")]

/-- An action of the selection, with the members that its kind adds. -/
def selectionAction (actionId kind : String) (members : List (String × Json)) : Json :=
  .obj [("action", .obj (("kind", .str kind) :: members ++
      [("rest_option_id", .str "mend"), ("selection_id", .str selectionId)])),
    ("action_id", .str actionId)]

def selectPlayer : Json :=
  selectionAction "select_player:20:mend:player:local" "select_player"
    [("player_id", .str "player:local")]

def confirm : Json := selectionAction "confirm_selection:21:mend" "confirm_selection" []

def cancel (actionId : String) : Json := selectionAction actionId "cancel_selection" []

/-- What is seen of the game during the selection. -/
def observation (generation : ℕ) (stateId : String) : Json :=
  .obj [("generation", .num generation), ("legal_actions", .arr []),
    ("player", .obj [("block", .null), ("deck", .arr []), ("discard", .arr []), ("energy", .num 0),
      ("exhaust", .arr []), ("gold", .num 99), ("hand", .arr []), ("hp", .num 40),
      ("max_hp", .num 80), ("max_potion_slots", .num 3), ("potion_slots", .num 0),
      ("potions", .arr []), ("powers", .arr []), ("relics", .arr []), ("statuses", .arr [])]),
    ("profile", .str "expert-state"), ("protocol_version", .str observationProtocolVersion),
    ("provenance", .obj [("artifact", .str "sts2-protocol/runtime-v4-expert"),
      ("generator", .str "hand-authored"),
      ("source", .str "schemas/runtime-v4-expert.schema.json")]),
    ("run", .obj [("act", .num 1), ("character_id", .str "ironclad"), ("location", .str "rest:1")]),
    ("schema_digest", .str observationSchemaDigest),
    ("state", .obj [("choices", .arr [.obj [("choice_id", .str "player:local"), ("domain", .null),
      ("kind", .str "selection"), ("label", .str "Ironclad")]]), ("state", .str "selection")]),
    ("state_id", .str stateId), ("visible_seed", .null)]

def selector (selected : List Json) (remaining : ℕ) (legalActions : List Json) : Json :=
  .obj [("legal_actions", .arr legalActions), ("remaining_count", .num remaining),
    ("required_count", .num 1), ("selected_choice_ids", .arr selected),
    ("selection_id", .str selectionId), ("selection_kind", .str "player")]

/-- The selection is opened. -/
def requested : Json :=
  .obj [("after_generation", .num 20), ("before_generation", .num 19), ("effect_witness", .null),
    ("kind", .str "rest_option_selection_requested"), ("rest_option_id", .str "mend"),
    ("selector", selector [] 1 [selectPlayer, cancel "cancel_selection:20:mend"])]

/-- The player is chosen. -/
def progressed : Json :=
  .obj [("after_generation", .num 21), ("before_generation", .num 20), ("effect_witness", .null),
    ("kind", .str "rest_option_selection_progressed"), ("remaining_count", .num 0),
    ("required_count", .num 1), ("rest_option_id", .str "mend"),
    ("selected_choice_ids", .arr [.str "player:local"]), ("selection_id", .str selectionId),
    ("selection_kind", .str "player"),
    ("selector", selector [.str "player:local"] 0 [confirm, cancel "cancel_selection:21:mend"])]

def ask (operationId : String) (generation : ℕ) (stateId : String) (action : Json) : HttpRequest :=
  ⟨headers, body 900 (envelope "action_request" operationId generation stateId action .null .null
    .null .null .null)⟩

def settle (exchange : ℕ) (operationId : String) (generation : ℕ) (stateId : String)
    (action transition : Json) : Input :=
  .answer exchange 200 (body 3000 (envelope "action_response" operationId generation stateId action
    (.str "settled") (observation generation stateId) transition .null .null))

/-- A selection is opened, and its one player is chosen. -/
abbrev untilChosen : List Input :=
  [.request .dispatch (ask "rest-op:19:mend" 19 "live:19" mend),
    settle 0 "rest-op:19:mend" 20 "live:20" mend requested,
    .request .dispatch (ask "rest-select:20:mend" 20 "live:20" selectPlayer),
    settle 1 "rest-select:20:mend" 21 "live:21" selectPlayer progressed]

def lease : SelectorLifecycle := ⟨"instance:1", "session:1", "lease:1", 4⟩

end Sample

section Chosen

attribute [local instance] Sample.schema

open Channel Sample

/-- Values that are all one never come back after another. -/
lemma neverReturns_of_forall_eq {α : Type} {a : α} {seen : List α} (h : ∀ b ∈ seen, b = a) :
    NeverReturns seen := by
  rintro front first middle second back rfl hne
  exact absurd ((h second (by simp)).trans (h first (by simp)).symm) hne

lemma Forwarder.result_of_toOption {result : Except ForwardError Json × Forwarder} {value : Json}
    (h : result.1.toOption = some value) : ∃ after, result = (.ok value, after) := by
  obtain ⟨answer, after⟩ := result
  cases answer with
  | error => cases h
  | ok other => exact ⟨after, by rw [Option.some.inj h]⟩

/-- A step that finds no catalog or leaves one does not end the selection. -/
lemma not_ends {channel : Channel} {input : Input} {selectionId : String}
    {lifecycle : SelectorLifecycle}
    (h : channel.forwarder.selectorAdmissions[selectionId]? = none ∨
      (channel.step input).forwarder.selectorAdmissions[selectionId]? ≠ none) :
    ¬ channel.Ends selectionId lifecycle input := by
  rintro ⟨hafter, current, hcurrent, -⟩
  rcases h with hnone | hsome
  · rw [hnone] at hcurrent
    cases hcurrent
  · exact hsome hafter

end Chosen

end Sts2Gateway.RestAction
