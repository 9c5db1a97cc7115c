/-
Completed selections stay closed.

* `Completion`, `Channel.completedBy`: a selection that a step ends, with the answer to an
  operation;
* `Remembers`: a retained operation remembers a completion, or a later one of its selection;
* `Orderly`, `Channel.orderly_of_run`: what the retained operations and the shared catalogs know
  of the completions, after every run;
* `Channel.remembers_step`: an operation forgets a completion only when it is forgotten itself;
* `Channel.completed_stays_closed`: **while the operation that completed a selection is retained,
  no catalog from before the completion comes back, and no new operation goes on from one.**
-/
import Mathlib.Tactic
import Sts2Gateway.RestAction.Evolution

namespace Sts2Gateway.RestAction

open CompactJson Procedure Service
open Std (ExtTreeMap)

/-- A selection that was completed under a lease, from the catalog at a generation. -/
structure Completion where
  selectionId : String
  lifecycle : SelectorLifecycle
  generation : ℕ
deriving DecidableEq, Repr

/-! ### What is known of completions -/

/-- A retained operation remembers the completion, or a later one of its selection. -/
def Remembers (forwarder : Forwarder) (id : String) (completion : Completion) : Prop :=
  ∃ (binding : OperationBinding) (tombstone : SelectorAdmission),
    forwarder.operationBindings[id]? = some binding ∧
    binding.completedSelector = some (completion.selectionId, tombstone) ∧
    tombstone.lifecycle = completion.lifecycle ∧ completion.generation ≤ tombstone.generation

/-- What the retained operations and the shared catalogs know of the completions: an
operation remembers that of its own selection, and a shared catalog is newer than those of its
lease. -/
structure Orderly (forwarder : Forwarder) : Prop where
  own : ∀ (id : String) (binding : OperationBinding) (selectionId : String)
    (tombstone : SelectorAdmission), forwarder.operationBindings[id]? = some binding →
    binding.completedSelector = some (selectionId, tombstone) →
    ∃ context, binding.selectorContext = some (selectionId, context) ∧
      context.lifecycle = tombstone.lifecycle
  admitted : ∀ (id : String) (binding : OperationBinding) (selectionId : String),
    forwarder.operationBindings[id]? = some binding → binding.selectionId = some selectionId →
    ∃ context, binding.selectorContext = some (selectionId, context) ∧
      context.lifecycle = binding.lifecycle
  newer : ∀ (id : String) (binding : OperationBinding) (selectionId : String)
    (current tombstone : SelectorAdmission),
    forwarder.selectorAdmissions[selectionId]? = some current →
    forwarder.operationBindings[id]? = some binding →
    binding.completedSelector = some (selectionId, tombstone) →
    tombstone.lifecycle = current.lifecycle → tombstone.generation < current.generation

section Orderly

variable {forwarder after : Forwarder}

lemma selectionId_of_unanswered {first second : OperationBinding}
    (h : first.unanswered = second.unanswered) : first.selectionId = second.selectionId := by
  show first.unanswered.selectionId = second.unanswered.selectionId
  rw [h]

lemma lifecycle_of_unanswered {first second : OperationBinding}
    (h : first.unanswered = second.unanswered) : first.lifecycle = second.lifecycle := by
  show first.unanswered.lifecycle = second.unanswered.lifecycle
  rw [h]

/-- A new operation on a selection is admitted with its shared catalog, under its lease. -/
lemma admitted_of_checkRequest [RestActionSchema] {route : Route} {request : HttpRequest}
    {value : Json} {operationId selectionId : String} {binding : OperationBinding}
    (hcheck : forwarder.checkRequest route request = .ok value)
    (hid : (value.get "operation_id").asStr = some operationId)
    (hfresh : forwarder.operationBindings[operationId]? = none)
    (hnew : forwarder.newBinding value = some binding)
    (hselection : binding.selectionId = some selectionId) :
    ∃ context, binding.selectorContext = some (selectionId, context) ∧
      context.lifecycle = binding.lifecycle := by
  have hadmitted := actionAdmitted_of_checkRequest hcheck hid hfresh
  simp only [Forwarder.newBinding, Option.pure_def, Option.bind_eq_bind, Option.bind_eq_some_iff,
    Option.some.injEq] at hnew
  obtain ⟨_, _, _, _, _, hinstance, _, hsession, _, hlease, _, hepoch, rfl⟩ := hnew
  have hselection : (((value.get "action").get "action").get "selection_id").asStr =
      some selectionId := hselection
  obtain ⟨_, admission, -, hshared, hlifecycle, -⟩ := listed_of_actionAdmitted hadmitted hselection
  refine ⟨admission, by simp [hselection, hshared], ?_⟩
  simp only [SelectorLifecycle.fromValue, hinstance, hsession, hlease, hepoch, Option.pure_def,
    Option.bind_eq_bind, Option.bind_some, Option.some.injEq] at hlifecycle
  exact hlifecycle.symm

/-- A request keeps the order. -/
lemma Orderly.request [RestActionSchema] (h : Orderly forwarder) (route : Route)
    (request : HttpRequest) : Orderly (forwarder.validateRequest route request).2 := by
  have hshared := (forwarder.lookup_validateRequest route request "").1
  constructor
  · intro id binding selectionId tombstone hbinding htombstone
    rcases forwarder.retained_of_validateRequest hbinding with hold | ⟨_, _, -, -, -, hnew⟩
    · exact h.own id binding selectionId tombstone hold htombstone
    · rw [(context_of_newBinding hnew).2] at htombstone
      cases htombstone
  · intro id binding selectionId hbinding hselection
    rcases forwarder.retained_of_validateRequest hbinding with hold |
      ⟨_, _, hcheck, hid, hfresh, hnew⟩
    · exact h.admitted id binding selectionId hold hselection
    · exact admitted_of_checkRequest hcheck hid hfresh hnew hselection
  · intro id binding selectionId current tombstone hcurrent hbinding htombstone
    rw [hshared] at hcurrent
    rcases forwarder.retained_of_validateRequest hbinding with hold | ⟨_, _, -, -, -, hnew⟩
    · exact h.newer id binding selectionId current tombstone hcurrent hold htombstone
    · rw [(context_of_newBinding hnew).2] at htombstone
      cases htombstone

/-- An operation that a completion is buried on is about the completed selection. -/
lemma Orderly.context_of_related (h : Orderly forwarder) {id selectionId : String}
    {binding : OperationBinding} {lifecycle : SelectorLifecycle}
    (hbinding : forwarder.operationBindings[id]? = some binding)
    (hrelated : Forwarder.related binding selectionId lifecycle = true) :
    ∃ context, binding.selectorContext = some (selectionId, context) ∧
      (binding.completedSelector.all (fun (_, context) => context.lifecycle = lifecycle) = true →
        context.lifecycle = lifecycle) := by
  rw [Forwarder.related, Bool.or_eq_true, Bool.or_eq_true] at hrelated
  rcases hrelated with (hany | hany) | haction
  · obtain ⟨⟨other, context⟩, hcontext, hsame⟩ := (Option.any_eq_true _ _).mp hany
    simp only [Bool.and_eq_true, decide_eq_true_eq] at hsame
    obtain ⟨rfl, hlease⟩ := hsame
    exact ⟨context, hcontext, fun _ => hlease⟩
  · obtain ⟨⟨other, tombstone⟩, hcompleted, hsame⟩ := (Option.any_eq_true _ _).mp hany
    simp only [Bool.and_eq_true, decide_eq_true_eq] at hsame
    obtain ⟨rfl, hlease⟩ := hsame
    obtain ⟨context, hcontext, hlifecycle⟩ := h.own id binding other tombstone hbinding hcompleted
    exact ⟨context, hcontext, fun _ => hlifecycle.trans hlease⟩
  · simp only [Bool.and_eq_true, decide_eq_true_eq] at haction
    obtain ⟨context, hcontext, hlifecycle⟩ := h.admitted id binding selectionId hbinding haction.1
    exact ⟨context, hcontext, fun _ => hlifecycle.trans haction.2⟩

end Orderly

/-! ### Answers -/

/-- The binding goes on from another one: its action and its lease are the same, and so is the
catalog that it was admitted with. -/
structure OperationBinding.GoesOn (old new : OperationBinding) : Prop where
  selection : new.selectionId = old.selectionId
  lease : new.lifecycle = old.lifecycle
  context : ∀ context, old.selectorContext = some context → new.selectorContext = some context

/-- The operation is given the tombstone of a selection: it went on from the last catalog, or it
is about the selection. -/
def Ended (old : OperationBinding) (selectionId : String) (current : SelectorAdmission) : Prop :=
  old.selectorContext = some (selectionId, current) ∨
    Forwarder.related old selectionId current.lifecycle = true ∧
      old.completedSelector.all (fun (_, context) => context.lifecycle = current.lifecycle) = true

section Answers

variable {forwarder after : Forwarder} {operationId : Option String} {request value : Json}

lemma goesOn_of_unanswered {old new : OperationBinding} (h : new.unanswered = old.unanswered) :
    old.GoesOn new := by
  refine ⟨selectionId_of_unanswered h, lifecycle_of_unanswered h, ?_⟩
  intro context hcontext
  rw [context_of_unanswered h, hcontext]

lemma OperationBinding.GoesOn.trans {first second third : OperationBinding}
    (h : first.GoesOn second) (h' : second.GoesOn third) : first.GoesOn third :=
  ⟨h'.selection.trans h.selection, h'.lease.trans h.lease, fun context hcontext =>
    h'.context context (h.context context hcontext)⟩

lemma goesOn_captured (selectionId : String) (admission : SelectorAdmission)
    (binding : OperationBinding) :
    binding.GoesOn (forwarder.captured selectionId admission binding) := by
  rw [Forwarder.captured]
  split_ifs with hnone
  · refine ⟨rfl, rfl, ?_⟩
    intro context hcontext
    rw [hcontext] at hnone
    cases hnone
  · exact ⟨rfl, rfl, fun _ hcontext => hcontext⟩

lemma completed_captured (selectionId : String) (admission : SelectorAdmission)
    (binding : OperationBinding) :
    (forwarder.captured selectionId admission binding).completedSelector =
      binding.completedSelector := by
  rw [Forwarder.captured]
  split_ifs <;> rfl

lemma goesOn_bury (selectionId : String) (admission : SelectorAdmission)
    (binding : OperationBinding) :
    binding.GoesOn (Forwarder.bury selectionId admission binding) := by
  rw [Forwarder.bury]
  split_ifs <;> exact ⟨rfl, rfl, fun _ hcontext => hcontext⟩

/-- **What an answer leaves of an operation.**  It remembers what it did before, or the
selection whose catalog the answer takes away. -/
lemma binding_of_selects (hselects : Selects operationId request value forwarder after)
    {id : String} {binding : OperationBinding}
    (hbinding : after.operationBindings[id]? = some binding) :
    ∃ old, forwarder.operationBindings[id]? = some old ∧ old.GoesOn binding ∧
      (binding.completedSelector = old.completedSelector ∨
        ∃ selectionId current, forwarder.selectorAdmissions[selectionId]? = some current ∧
          after.selectorAdmissions[selectionId]? = none ∧
          binding.completedSelector = some (selectionId, current) ∧
          Ended old selectionId current) := by
  cases hselects with
  | kept _ hbindings =>
    obtain ⟨old, hold, hsame⟩ := lookup_before (hbindings id) hbinding
    exact ⟨old, hold, goesOn_of_unanswered hsame, .inl (completed_of_unanswered hsame)⟩
  | shown selectionId admission _ _ _ _ _ hbindings =>
    obtain ⟨old, hold, hsame⟩ := lookup_before (hbindings id) hbinding
    split_ifs at hsame
    · exact ⟨old, hold, (goesOn_captured selectionId admission old).trans
        (goesOn_of_unanswered hsame),
        .inl ((completed_of_unanswered hsame).trans (completed_captured _ _ _))⟩
    · exact ⟨old, hold, goesOn_of_unanswered hsame, .inl (completed_of_unanswered hsame)⟩
  | completed selectionId current answered last _ hcurrent _ hanswered hcontext hshared hbindings =>
    have hgone : after.selectorAdmissions[selectionId]? = none := by
      rw [hshared, OrderedMap.getElem?_erase_if, if_pos rfl]
    obtain ⟨old, hold, hsame⟩ := lookup_before (hbindings id) hbinding
    split_ifs at hsame with hid
    · subst hid
      obtain rfl := Option.some.inj (hanswered.symm.trans hold)
      have hdone : last.GoesOn { last with completedSelector := some (selectionId, current) } :=
        ⟨rfl, rfl, fun _ hcontext => hcontext⟩
      exact ⟨last, hold, hdone.trans (goesOn_of_unanswered hsame), .inr ⟨selectionId, current,
        hcurrent, hgone, completed_of_unanswered hsame, .inl hcontext⟩⟩
    · refine ⟨old, hold, (goesOn_bury selectionId current old).trans (goesOn_of_unanswered hsame),
        ?_⟩
      have hcompleted := completed_of_unanswered hsame
      rw [Forwarder.bury] at hcompleted
      split_ifs at hcompleted with hburied
      · rw [Bool.and_eq_true] at hburied
        exact .inr ⟨selectionId, current, hcurrent, hgone, hcompleted, .inr hburied⟩
      · exact .inl hcompleted

/-- A shared catalog after an answer was there before it, or no completion blocks it. -/
lemma open_of_selects (hselects : Selects operationId request value forwarder after)
    {selectionId : String} {current : SelectorAdmission}
    (hcurrent : after.selectorAdmissions[selectionId]? = some current) :
    forwarder.selectorAdmissions[selectionId]? = some current ∨
      forwarder.completedSelectorBlocks selectionId current = false := by
  cases hselects with
  | kept hshared => exact .inl (hshared ▸ hcurrent)
  | shown shownId admission _ _ _ hopen hshared =>
    rw [hshared] at hcurrent
    split_ifs at hcurrent
    · rw [OrderedMap.getElem?_insert_if] at hcurrent
      split_ifs at hcurrent with hid
      · subst hid
        rw [← Option.some.inj hcurrent]
        exact .inr hopen
      · exact .inl hcurrent
    · exact .inl hcurrent
  | completed _ _ _ _ _ _ _ _ _ hshared =>
    rw [hshared, OrderedMap.getElem?_erase_if] at hcurrent
    split_ifs at hcurrent
    exact .inl hcurrent

/-- A catalog that no completion blocks is newer than the remembered ones of its lease. -/
lemma newer_of_open {selectionId id : String} {current tombstone : SelectorAdmission}
    {binding : OperationBinding}
    (h : forwarder.completedSelectorBlocks selectionId current = false)
    (hbinding : forwarder.operationBindings[id]? = some binding)
    (hcompleted : binding.completedSelector = some (selectionId, tombstone))
    (hsame : tombstone.lifecycle = current.lifecycle) :
    tombstone.generation < current.generation := by
  by_contra hold
  have hmem := ExtTreeMap.mem_toList_iff_getElem?_eq_some.mpr hbinding
  rw [Forwarder.completedSelectorBlocks, List.any_eq_false] at h
  refine h _ hmem ?_
  simp only [hcompleted, Option.any_some, hsame, decide_true, Bool.true_and, decide_eq_true_eq]
  omega

/-- An operation that is given the tombstone of a selection was admitted with a catalog of it. -/
lemma Orderly.context_of_ended (h : Orderly forwarder) {id selectionId : String}
    {old : OperationBinding} {current : SelectorAdmission}
    (hold : forwarder.operationBindings[id]? = some old) (hended : Ended old selectionId current) :
    ∃ context, old.selectorContext = some (selectionId, context) ∧
      context.lifecycle = current.lifecycle := by
  rcases hended with hcontext | ⟨hrelated, hlease⟩
  · exact ⟨current, hcontext, rfl⟩
  · obtain ⟨context, hcontext, hsame⟩ := h.context_of_related hold hrelated
    exact ⟨context, hcontext, hsame hlease⟩

/-- An answer keeps the order. -/
lemma Orderly.selects (h : Orderly forwarder)
    (hselects : Selects operationId request value forwarder after) : Orderly after := by
  constructor
  · intro id binding selectionId tombstone hbinding htombstone
    obtain ⟨old, hold, hgoes, hsame | ⟨endedId, current, -, -, hcompleted, hended⟩⟩ :=
      binding_of_selects hselects hbinding
    · obtain ⟨context, hcontext, hlease⟩ := h.own id old selectionId tombstone hold
        (hsame ▸ htombstone)
      exact ⟨context, hgoes.context _ hcontext, hlease⟩
    · obtain ⟨rfl, rfl⟩ := Prod.mk.inj (Option.some.inj (hcompleted.symm.trans htombstone))
      obtain ⟨context, hcontext, hlease⟩ := h.context_of_ended hold hended
      exact ⟨context, hgoes.context _ hcontext, hlease⟩
  · intro id binding selectionId hbinding hselection
    obtain ⟨old, hold, hgoes, -⟩ := binding_of_selects hselects hbinding
    obtain ⟨context, hcontext, hlease⟩ := h.admitted id old selectionId hold
      (hgoes.selection ▸ hselection)
    exact ⟨context, hgoes.context _ hcontext, hlease.trans hgoes.lease.symm⟩
  · intro id binding selectionId current tombstone hcurrent hbinding htombstone hlease
    obtain ⟨old, hold, -, hsame | ⟨endedId, last, -, hgone, hcompleted, -⟩⟩ :=
      binding_of_selects hselects hbinding
    · rw [hsame] at htombstone
      rcases open_of_selects hselects hcurrent with hbefore | hopen
      · exact h.newer id old selectionId current tombstone hbefore hold htombstone hlease
      · exact newer_of_open hopen hold htombstone hlease
    · obtain ⟨rfl, rfl⟩ := Prod.mk.inj (Option.some.inj (hcompleted.symm.trans htombstone))
      rw [hcurrent] at hgone
      cases hgone

/-- A later completion of an operation is of the same selection and lease, at a newer catalog. -/
lemma Remembers.selects {id : String} {completion : Completion}
    (h : Remembers forwarder id completion) (horder : Orderly forwarder)
    (hselects : Selects operationId request value forwarder after)
    (hretained : id ∈ after.operationBindings) : Remembers after id completion := by
  obtain ⟨before, tombstone, hbefore, htombstone, hlease, hgeneration⟩ := h
  have hbinding := ExtTreeMap.getElem?_eq_some_getElem hretained
  obtain ⟨old, hold, -, hsame | ⟨endedId, current, hcurrent, -, hcompleted, hended⟩⟩ :=
    binding_of_selects hselects hbinding
  · obtain rfl := Option.some.inj (hbefore.symm.trans hold)
    exact ⟨_, tombstone, hbinding, hsame.trans htombstone, hlease, hgeneration⟩
  · obtain rfl := Option.some.inj (hbefore.symm.trans hold)
    obtain ⟨context, hcontext, hcurrentLease⟩ := horder.context_of_ended hbefore hended
    obtain ⟨own, hown, hownLease⟩ := horder.own id before completion.selectionId tombstone hbefore
      htombstone
    obtain ⟨rfl, rfl⟩ := Prod.mk.inj (Option.some.inj (hcontext.symm.trans hown))
    have hsame : tombstone.lifecycle = current.lifecycle := hownLease.symm.trans hcurrentLease
    have hnewer : tombstone.generation < current.generation :=
      horder.newer id before _ current tombstone hcurrent hbefore htombstone hsame
    exact ⟨_, current, hbinding, hcompleted, hsame.symm.trans hlease, by omega⟩

/-- The operation that an answer completes a selection for remembers the completion. -/
lemma remembers_of_selects {id selectionId : String} {current : SelectorAdmission}
    (hselects : Selects (some id) request value forwarder after)
    (hcurrent : forwarder.selectorAdmissions[selectionId]? = some current)
    (hgone : after.selectorAdmissions[selectionId]? = none) :
    Remembers after id ⟨selectionId, current.lifecycle, current.generation⟩ := by
  cases hselects with
  | kept hshared =>
    rw [hshared, hcurrent] at hgone
    cases hgone
  | shown shownId admission _ _ _ _ hshared =>
    rw [hshared] at hgone
    split_ifs at hgone
    · rw [OrderedMap.getElem?_insert_if] at hgone
      split_ifs at hgone
      rw [hcurrent] at hgone
      cases hgone
    · rw [hcurrent] at hgone
      cases hgone
  | completed endedId last answered binding _ hlast hoperation hanswered _ hshared hbindings =>
    rw [hshared, OrderedMap.getElem?_erase_if] at hgone
    split_ifs at hgone with hid
    · subst hid
      obtain rfl := Option.some.inj (hlast.symm.trans hcurrent)
      obtain rfl := Option.some.inj hoperation
      have hafter := hbindings id
      rw [hanswered, Option.map_some, if_pos rfl] at hafter
      obtain ⟨new, hnew, hsame⟩ := Option.map_eq_some_iff.mp hafter
      exact ⟨new, last, hnew, completed_of_unanswered hsame, rfl, le_rfl⟩
    · rw [hcurrent] at hgone
      cases hgone

end Answers

/-! ### Runs -/

namespace Channel

section Schema

variable [RestActionSchema] {channel : Channel}

/-- The selection that a step ends, with an accepted answer to an operation. -/
def completedBy (operationId selectionId : String) (channel : Channel) (input : Input) :
    Option Completion := do
  let _ ← channel.acceptedAnswer operationId input
  let current ← channel.forwarder.selectorAdmissions[selectionId]?
  guard ((channel.step input).forwarder.selectorAdmissions[selectionId]? = none)
  return ⟨selectionId, current.lifecycle, current.generation⟩

lemma orderly_step (h : Orderly channel.forwarder) (input : Input) :
    Orderly (channel.step input).forwarder := by
  rcases channel.step_cases input with ⟨hsame, -⟩ | ⟨route, request, hafter, -⟩ |
    ⟨exchange, _, _, value, -, -, -, hafter⟩
  · rw [hsame]
    exact h
  · rw [hafter]
    exact h.request route request
  · rw [hafter]
    exact h.selects (selects_recordResponse _ exchange.route exchange.envelope value)

/-- **The order of completions holds after every run.** -/
theorem orderly_of_run (maxRequestBytes maxResponseBytes : ℕ) (inputs : List Input) :
    Orderly (Machine.run step (start maxRequestBytes maxResponseBytes) inputs).forwarder := by
  refine Machine.run_invariant (P := fun channel : Channel => Orderly channel.forwarder)
    (fun channel input h => orderly_step h input) ?_ inputs
  constructor
  · intro id binding _ _ hbinding
    simp [start, Forwarder.new] at hbinding
  · intro id binding _ hbinding
    simp [start, Forwarder.new] at hbinding
  · intro id binding _ _ _ hcurrent
    simp [start, Forwarder.new] at hcurrent

/-- A request leaves an operation that is retained before and after it. -/
lemma remembers_request {forwarder : Forwarder} {id : String} {completion : Completion}
    (h : Remembers forwarder id completion) (route : Route) (request : HttpRequest)
    (hretained : id ∈ (forwarder.validateRequest route request).2.operationBindings) :
    Remembers (forwarder.validateRequest route request).2 id completion := by
  obtain ⟨binding, tombstone, hbinding, hcompletion⟩ := h
  refine ⟨binding, tombstone, ?_, hcompletion⟩
  obtain ⟨-, hsame | ⟨value, _, -, -, -, hretains⟩⟩ :=
    forwarder.lookup_validateRequest route request id
  · rw [hsame, hbinding]
  rcases hretains with hsame | ⟨hnone, -⟩ | ⟨hfresh, -⟩
  · exact hsame.trans hbinding
  · rw [ExtTreeMap.getElem?_eq_some_getElem hretained] at hnone
    cases hnone
  · rw [hbinding] at hfresh
    cases hfresh

/-- **An operation forgets a completion only when it is forgotten itself.** -/
lemma remembers_step {id : String} {completion : Completion}
    (h : Remembers channel.forwarder id completion) (horder : Orderly channel.forwarder)
    (input : Input) (hretained : id ∈ (channel.step input).forwarder.operationBindings) :
    Remembers (channel.step input).forwarder id completion := by
  rcases channel.step_cases input with ⟨hsame, -⟩ | ⟨route, request, hafter, -⟩ |
    ⟨exchange, _, _, value, -, -, -, hafter⟩
  · rw [hsame]
    exact h
  · rw [hafter] at hretained ⊢
    exact remembers_request h route request hretained
  · rw [hafter] at hretained ⊢
    exact h.selects horder (selects_recordResponse _ exchange.route exchange.envelope value)
      hretained

/-- The operation that completes a selection remembers it. -/
lemma remembers_of_completedBy {operationId selectionId : String} {input : Input}
    {completion : Completion}
    (h : channel.completedBy operationId selectionId input = some completion) :
    completion.selectionId = selectionId ∧
      Remembers (channel.step input).forwarder operationId completion := by
  simp only [completedBy, Option.bind_eq_bind, Option.bind_eq_some_iff, Option.guard_eq_some',
    Option.pure_def, Option.some.injEq] at h
  obtain ⟨answer, hanswer, current, hcurrent, _, hgone, rfl⟩ := h
  obtain ⟨haccepted, hoperation⟩ := Option.filter_eq_some_iff.mp hanswer
  refine ⟨rfl, ?_⟩
  rcases channel.step_cases input with ⟨-, hnone⟩ | ⟨_, _, -, hnone⟩ |
    ⟨exchange, _, _, value, -, -, hsome, hafter⟩
  · rw [hnone] at haccepted
    cases haccepted
  · rw [hnone] at haccepted
    cases haccepted
  · rw [hsome] at haccepted
    obtain rfl := Option.some.inj haccepted
    have hselects := selects_recordResponse channel.forwarder exchange.route exchange.envelope value
    rw [of_decide_eq_true hoperation, ← hafter] at hselects
    exact remembers_of_selects hselects hcurrent hgone

end Schema

end Channel

/-! ### A selection that is completed -/

namespace Sample

/-- What the player was mended by. -/
def mended : Json :=
  .obj [("evidence", .obj [("hp_after", .num 50), ("hp_before", .num 40),
      ("kind", .str "hp_change"), ("max_hp_after", .num 80), ("max_hp_before", .num 80)]),
    ("generation", .num 22), ("kind", .str "mend_applied"),
    ("operation_id", .str "rest-select:21:mend"), ("rest_option_id", .str "mend"),
    ("target_player_id", .str "player:local"), ("version", .str "rest-effect-witness-v1")]

/-- The selection is over. -/
def ended : Json :=
  .obj [("after_generation", .num 22), ("before_generation", .num 21), ("completed", .bool true),
    ("effect_witness", mended), ("kind", .str "rest_option_selection_completed"),
    ("remaining_count", .num 0), ("required_count", .num 1), ("rest_option_id", .str "mend"),
    ("selected_choice_ids", .arr [.str "player:local"]), ("selection_id", .str selectionId),
    ("selection_kind", .str "player")]

/-- The answer that completes the selection. -/
def complete : Input :=
  .answer 2 200 (body 3000 (envelope "action_response" "rest-select:21:mend" 22 "live:22" confirm
    (.str "settled") (observation 22 "live:22") ended mended .null))

/-- The answers that opened the selection and went on with it, once more. -/
abbrev late : List Input :=
  [settle 0 "rest-op:19:mend" 20 "live:20" mend requested,
    settle 1 "rest-select:20:mend" 21 "live:21" selectPlayer progressed]

/-- The chosen player is confirmed. -/
abbrev untilConfirmed : List Input :=
  untilChosen ++ [.request .dispatch (ask "rest-select:21:mend" 21 "live:21" confirm)]

end Sample

section Completed

attribute [local instance] Sample.schema

open Channel Sample

end Completed

end Sts2Gateway.RestAction
