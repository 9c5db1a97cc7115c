/-
What the answers of the host do to the catalogs of the selections.

* `SameSelection`, `sameSelection_of_selectorValid`: **an accepted catalog is of the selection
  that the admitted one is of**;
* `Selects`, `selects_recordResponse`: the three things that an accepted answer does to the
  tables of selections;
* `AdmittedBefore`, `lookup_of_validateRequest`: the catalog that a new operation is admitted
  with.
-/
import Mathlib.Tactic
import Sts2Gateway.RestAction.Statuses

namespace Sts2Gateway.RestAction

open CompactJson Procedure Service
open Std (ExtTreeMap)

/-! ### Catalogs of one selection -/

/-- Two catalogs of one selection. -/
structure SameSelection (first second : SelectorAdmission) : Prop where
  optionId : first.optionId = second.optionId
  selectionKind : first.selectionKind = second.selectionKind
  requiredCount : first.requiredCount = second.requiredCount
  choiceIds : first.choiceIds = second.choiceIds

lemma SameSelection.refl (admission : SelectorAdmission) : SameSelection admission admission :=
  ⟨rfl, rfl, rfl, rfl⟩

lemma SameSelection.symm {first second : SelectorAdmission} (h : SameSelection first second) :
    SameSelection second first :=
  ⟨h.optionId.symm, h.selectionKind.symm, h.requiredCount.symm, h.choiceIds.symm⟩

lemma SameSelection.trans {first second third : SelectorAdmission} (h : SameSelection first second)
    (h' : SameSelection second third) : SameSelection first third :=
  ⟨h.optionId.trans h'.optionId, h.selectionKind.trans h'.selectionKind,
    h.requiredCount.trans h'.requiredCount, h.choiceIds.trans h'.choiceIds⟩

/-- A selector's choices are those of its legal actions. -/
lemma legalChoiceIds_of_read {value selector transition : Json}
    {visibleIds selectedIds : Finset String}
    {admission : Option SelectorAdmission} {legal : List Json} {before after : LegalActions}
    (h : legal.foldlM (readLegalAction value selector transition visibleIds selectedIds admission)
      before = some after) :
    after.legalChoiceIds =
      before.legalChoiceIds ∪ (legal.filterMap selectionChoiceId).toFinset := by
  induction legal generalizing before with
  | nil =>
    obtain rfl := Option.some.inj h
    simp
  | cons action legal ih =>
    obtain ⟨next, hnext, hrest⟩ := Option.bind_eq_some_iff.mp h
    rw [ih hrest]
    simp only [readLegalAction, Option.bind_eq_bind, Option.bind_eq_some_iff, Option.guard_eq_some',
      Option.pure_def, Option.some.injEq] at hnext
    obtain ⟨_, _, _, _, _, _, _, _, rfl⟩ := hnext
    cases hchoice : selectionChoiceId action with
    | none => simp [hchoice]
    | some choice =>
      rw [List.filterMap_cons, hchoice, List.toFinset_cons, Option.elim_some, Finset.insert_union,
        Finset.union_insert]

/-- **An accepted catalog is of the selection that the admitted one is of.** -/
theorem sameSelection_of_selectorValid {value transition : Json} {admissions : Admissions}
    {reconciling : Bool} {lifecycle : SelectorLifecycle} {selectionId : String}
    {admission admitted : SelectorAdmission}
    (hvalid : selectorValid value transition admissions reconciling = true)
    (hlifecycle : SelectorLifecycle.fromValue value = some lifecycle)
    (hadmission : admissionFromTransition transition lifecycle = some (selectionId, admission))
    (hadmitted : admissions[selectionId]? = some admitted) :
    admitted.lifecycle = lifecycle ∧ SameSelection admitted admission := by
  simp only [admissionFromTransition, Option.bind_eq_bind, Option.bind_eq_some_iff, Option.pure_def,
    Option.some.injEq, Prod.mk.injEq] at hadmission
  obtain ⟨selector, hselector, _, hselectionId, optionId, hoption, kind, hkind, required, hrequired,
    _, _, selected, hselected, selectedIds, hselectedIds, legal, hlegal, _, _, rfl, rfl⟩ :=
    hadmission
  obtain ⟨_, hchain⟩ := Option.isSome_iff_exists.mp hvalid
  simp only [Option.bind_eq_bind, Option.bind_eq_some_iff, Option.guard_eq_some'] at hchain
  obtain ⟨_, hselector', _, hlifecycle', read, hread, _, hallows, _, hlegalRead, _, _, _, hcatalog,
    _⟩ := hchain
  obtain rfl := Option.some.inj (hselector.symm.trans hselector')
  obtain rfl := Option.some.inj (hlifecycle.symm.trans hlifecycle')
  simp only [readSelector, Option.bind_eq_bind, Option.bind_eq_some_iff, Option.guard_eq_some',
    Option.pure_def, Option.some.injEq] at hread
  obtain ⟨_, _, _, _, _, _, _, hkind', _, hrequired', _, hselected', _, _, _, hselectionId', _, _,
    _, _, _, hselectedIds', visibleIds, _, _, _, _, hlegal', rfl⟩ := hread
  obtain rfl := Option.some.inj (hrequired.symm.trans hrequired')
  obtain rfl := Option.some.inj (hselected.symm.trans hselected')
  obtain rfl := Option.some.inj (hselectionId.symm.trans hselectionId')
  obtain rfl := Option.some.inj (hlegal.symm.trans hlegal')
  obtain rfl := Option.some.inj (hkind.symm.trans hkind')
  -- the choices of the new catalog are the visible ones
  have hchoices : selectedIds ∪ (legal.filterMap selectionChoiceId).toFinset = visibleIds := by
    rw [legalChoiceIds_of_read hlegalRead, Finset.empty_union] at hcatalog
    rw [idsSet] at hselectedIds'
    split_ifs at hselectedIds'
    rw [Option.some.inj (hselectedIds.symm.trans hselectedIds')]
    exact hcatalog
  simp only [hadmitted, Option.elim_some, admissionAllows, selectorAdmissionGenerationAndProgress,
    Bool.and_eq_true, decide_eq_true_eq] at hallows
  obtain ⟨⟨⟨⟨hsame, hoption'⟩, hkind'⟩, hcount⟩, hvisible, -⟩ := hallows
  exact ⟨hsame, (Option.some.inj (hoption.symm.trans hoption')).symm, hkind', hcount,
    by rw [hvisible, hchoices]⟩

/-! ### What an answer does -/

/-- An operation without its status. -/
def OperationBinding.unanswered (binding : OperationBinding) : OperationBinding :=
  { binding with status := .pending }

/-- The kinds of the transitions that show a catalog. -/
def showsCatalog (value : Json) : Prop :=
  ((value.get "transition").get "kind").asStr = some "rest_option_selection_requested" ∨
    ((value.get "transition").get "kind").asStr = some "rest_option_selection_progressed"

/-- The context that the first catalog of an operation leaves on it. -/
def Forwarder.captured (forwarder : Forwarder) (selectionId : String)
    (admission : SelectorAdmission) (binding : OperationBinding) : OperationBinding :=
  if binding.selectorContext.isNone then
    { binding with
      selectorContext := some (selectionId,
        forwarder.selectorAdmissions[selectionId]?.getD admission) }
  else binding

/-- What an accepted answer does to the catalogs: nothing, show one, or end a selection. -/
inductive Selects (operationId : Option String) (request value : Json)
    (before after : Forwarder) : Prop where
  | kept (hshared : after.selectorAdmissions = before.selectorAdmissions)
      (hbindings : ∀ id : String, after.operationBindings[id]?.map OperationBinding.unanswered =
        before.operationBindings[id]?.map OperationBinding.unanswered)
  | shown (selectionId : String) (admission : SelectorAdmission) (hkind : showsCatalog value)
      (hlifecycle : SelectorLifecycle.fromValue value = some admission.lifecycle)
      (hadmission : admissionFromTransition (value.get "transition") admission.lifecycle =
        some (selectionId, admission))
      (hopen : before.completedSelectorBlocks selectionId admission = false)
      (hshared : after.selectorAdmissions =
        if before.shouldAdvance request selectionId admission then
          before.selectorAdmissions.insert selectionId admission
        else before.selectorAdmissions)
      (hbindings : ∀ id : String, after.operationBindings[id]?.map OperationBinding.unanswered =
        before.operationBindings[id]?.map fun binding => OperationBinding.unanswered <|
          if operationId = some id then before.captured selectionId admission binding else binding)
  | completed (selectionId : String) (current : SelectorAdmission) (answered : String)
      (binding : OperationBinding)
      (hlifecycle : SelectorLifecycle.fromValue value = some current.lifecycle)
      (hcurrent : before.selectorAdmissions[selectionId]? = some current)
      (hoperation : operationId = some answered)
      (hanswered : before.operationBindings[answered]? = some binding)
      (hcontext : binding.selectorContext = some (selectionId, current))
      (hshared : after.selectorAdmissions = before.selectorAdmissions.erase selectionId)
      (hbindings : ∀ id : String, after.operationBindings[id]?.map OperationBinding.unanswered =
        before.operationBindings[id]?.map fun binding => OperationBinding.unanswered <|
          if answered = id then { binding with completedSelector := some (selectionId, current) }
          else Forwarder.bury selectionId current binding)

lemma admissions_modifyBinding (forwarder : Forwarder) (operationId : Option String)
    (change : OperationBinding → OperationBinding) :
    (forwarder.modifyBinding operationId change).selectorAdmissions =
      forwarder.selectorAdmissions := by
  cases operationId <;> rfl

/-- A catalog says which lease it was seen under. -/
lemma lifecycle_of_admissionFromTransition {transition : Json} {lifecycle : SelectorLifecycle}
    {selectionId : String} {admission : SelectorAdmission}
    (h : admissionFromTransition transition lifecycle = some (selectionId, admission)) :
    admission.lifecycle = lifecycle := by
  simp only [admissionFromTransition, Option.bind_eq_bind, Option.bind_eq_some_iff, Option.pure_def,
    Option.some.injEq, Prod.mk.injEq] at h
  obtain ⟨_, _, _, _, _, _, _, _, _, _, _, _, _, _, _, _, _, _, _, _, -, rfl⟩ := h
  rfl

/-- The tables of selections and of operations are as they were, statuses apart. -/
def SameSelections (before after : Forwarder) : Prop :=
  after.selectorAdmissions = before.selectorAdmissions ∧
    after.operationBindings = before.operationBindings

lemma sameSelections_releaseSelectorReservation (forwarder : Forwarder)
    (operationId : Option String) :
    SameSelections forwarder (forwarder.releaseSelectorReservation operationId) :=
  ⟨Forwarder.admissions_releaseSelectorReservation operationId,
    Forwarder.bindings_releaseSelectorReservation operationId⟩

lemma sameSelections_releaseAnswered (forwarder : Forwarder) (operationId : Option String)
    (value : Json) : SameSelections forwarder (forwarder.releaseAnswered operationId value) := by
  rw [Forwarder.releaseAnswered]
  split_ifs
  · exact sameSelections_releaseSelectorReservation forwarder operationId
  · exact ⟨rfl, rfl⟩

/-- The status of an answer leaves the selections. -/
lemma selections_recordOperationStatus (forwarder : Forwarder) (route : Route)
    (request value : Json) :
    (forwarder.recordOperationStatus route request value).selectorAdmissions =
        forwarder.selectorAdmissions ∧
      ∀ id : String,
        (forwarder.recordOperationStatus route request value).operationBindings[id]?.map
            OperationBinding.unanswered =
          forwarder.operationBindings[id]?.map OperationBinding.unanswered := by
  rw [Forwarder.recordOperationStatus]
  cases OperationStatus.fromResponse value with
  | none => exact ⟨rfl, fun _ => rfl⟩
  | some status =>
    refine ⟨admissions_modifyBinding _ _ _, fun id => ?_⟩
    dsimp only
    rw [Forwarder.lookup_modifyBinding]
    split_ifs
    · rw [Option.map_map]
      rfl
    · rfl

section Selects

variable {operationId : Option String} {request value : Json} {before between after : Forwarder}

/-- Statuses and reservations do not count. -/
lemma Selects.of_same (h : Selects operationId request value before between)
    (hshared : after.selectorAdmissions = between.selectorAdmissions)
    (hbindings : ∀ id : String, after.operationBindings[id]?.map OperationBinding.unanswered =
      between.operationBindings[id]?.map OperationBinding.unanswered) :
    Selects operationId request value before after := by
  cases h with
  | kept hkept hsame =>
    exact .kept (hshared.trans hkept) fun id => (hbindings id).trans (hsame id)
  | shown selectionId admission hkind hlifecycle hadmission hopen hkept hsame =>
    exact .shown selectionId admission hkind hlifecycle hadmission hopen (hshared.trans hkept)
      fun id => (hbindings id).trans (hsame id)
  | completed selectionId current answered binding hlifecycle hcurrent hoperation hanswered hcontext
      hkept hsame =>
    exact .completed selectionId current answered binding hlifecycle hcurrent hoperation hanswered
      hcontext (hshared.trans hkept) fun id => (hbindings id).trans (hsame id)

lemma SameSelections.selects (h : SameSelections before after) :
    Selects operationId request value before after :=
  .kept h.1 fun id => by rw [h.2]

lemma SameSelections.following (hsame : SameSelections between after)
    (h : Selects operationId request value before between) :
    Selects operationId request value before after :=
  h.of_same hsame.1 fun id => by rw [hsame.2]

lemma selects_recordAdmission {selectionId : String} {admission : SelectorAdmission}
    (hkind : showsCatalog value)
    (hlifecycle : SelectorLifecycle.fromValue value = some admission.lifecycle)
    (hadmission : admissionFromTransition (value.get "transition") admission.lifecycle =
      some (selectionId, admission))
    (hopen : before.completedSelectorBlocks selectionId admission = false) :
    Selects operationId request value before
      (before.recordAdmission operationId request selectionId admission) := by
  have hreleased := sameSelections_releaseSelectorReservation before operationId
  -- the catalog that an operation is given is the shared one of the state before
  have hcaptured : ∀ id : String,
      ((before.releaseSelectorReservation operationId).captureContext operationId selectionId
        admission).operationBindings[id]?.map OperationBinding.unanswered =
        before.operationBindings[id]?.map fun binding => OperationBinding.unanswered <|
          if operationId = some id then before.captured selectionId admission binding
          else binding := by
    intro id
    rw [Forwarder.captureContext, Forwarder.lookup_modifyBinding, hreleased.1, hreleased.2]
    split_ifs
    · rw [Option.map_map]
      rfl
    · rfl
  have hadmissions : ((before.releaseSelectorReservation operationId).captureContext operationId
      selectionId admission).selectorAdmissions = before.selectorAdmissions := by
    rw [Forwarder.captureContext, admissions_modifyBinding, hreleased.1]
  rw [Forwarder.recordAdmission]
  split_ifs with hroom hadvance
  · refine .shown selectionId admission hkind hlifecycle hadmission hopen ?_ hcaptured
    rw [if_pos hadvance]
    exact congrArg (fun admissions : Admissions => admissions.insert selectionId admission)
      hadmissions
  · refine .shown selectionId admission hkind hlifecycle hadmission hopen ?_ hcaptured
    rw [if_neg hadvance, hadmissions]
  · exact .kept rfl fun _ => rfl

lemma selects_recordCompletion {selectionId : String} {lifecycle : SelectorLifecycle}
    {beforeGeneration : ℕ} (hlifecycle : SelectorLifecycle.fromValue value = some lifecycle) :
    Selects operationId request value before
      (before.recordCompletion operationId selectionId lifecycle beforeGeneration) := by
  rw [Forwarder.recordCompletion]
  split
  next => exact .kept rfl fun _ => rfl
  next current hcurrent =>
    split_ifs with hmatches
    · obtain ⟨hsame, -, hcontext⟩ := hmatches
      obtain ⟨answered, hanswered, hcontext⟩ := Option.bind_eq_some_iff.mp hcontext
      obtain ⟨binding, hbinding, hcontext⟩ := Option.bind_eq_some_iff.mp hcontext
      refine .completed selectionId current answered binding (hsame ▸ hlifecycle) hcurrent hanswered
        hbinding hcontext (admissions_modifyBinding _ _ _) fun id => ?_
      rw [Forwarder.lookup_modifyBinding, hanswered, ExtTreeMap.getElem?_map]
      simp only [Option.some.injEq]
      split_ifs with hid
      · rw [Option.map_map, Option.map_map]
        refine congrFun (congrArg Option.map (funext fun other => ?_)) _
        simp only [Function.comp_apply, Forwarder.bury]
        split_ifs <;> rfl
      · rw [Option.map_map]
        rfl
    · exact .kept rfl fun _ => rfl

lemma selects_shown (forwarder : Forwarder) (route : Route) (request value : Json)
    (hkind : showsCatalog value) : Selects (operationOf route request) request value forwarder
      (match (SelectorLifecycle.fromValue value).bind
          (admissionFromTransition (value.get "transition")) with
        | none => forwarder
        | some (selectionId, admission) =>
          if forwarder.completedSelectorBlocks selectionId admission then
            forwarder.releaseSelectorReservation (operationOf route request)
          else (forwarder.recordAdmission (operationOf route request) request selectionId
            admission).releaseAnswered (operationOf route request) value) := by
  split
  next => exact .kept rfl fun _ => rfl
  next selectionId admission hread =>
    obtain ⟨lifecycle, hlifecycle, hadmission⟩ := Option.bind_eq_some_iff.mp hread
    obtain rfl := lifecycle_of_admissionFromTransition hadmission
    split_ifs with hblocked
    · exact (sameSelections_releaseSelectorReservation forwarder _).selects
    · exact (sameSelections_releaseAnswered _ _ _).following
        (selects_recordAdmission hkind hlifecycle hadmission (by simpa using hblocked))

/-- **What an accepted answer does to the catalogs.** -/
theorem selects_recordResponse (forwarder : Forwarder) (route : Route) (request value : Json) :
    Selects (operationOf route request) request value forwarder
      (forwarder.recordResponse route request value) := by
  have hshown := selects_shown forwarder route request value
  have hrecorded : Selects (operationOf route request) request value forwarder
      (forwarder.recordSelectorAdmission route request value) := by
    rw [Forwarder.recordSelectorAdmission]
    split
    next hkind => exact hshown (.inl hkind)
    next hkind => exact hshown (.inr hkind)
    next =>
      split
      next hlifecycle _ =>
        exact (sameSelections_releaseAnswered _ _ _).following (selects_recordCompletion hlifecycle)
      next => exact .kept rfl fun _ => rfl
    next => exact (sameSelections_releaseAnswered _ _ _).selects
  obtain ⟨hshared, hbindings⟩ := selections_recordOperationStatus
    (forwarder.recordSelectorAdmission route request value) route request value
  exact hrecorded.of_same hshared hbindings

end Selects

/-! ### What an answer has been checked against -/

namespace Forwarder

variable {forwarder : Forwarder} {route : Route} {request : Json} {binding : OperationBinding}

/-- The catalog of an operation's own comes before its completed one and the shared one. -/
lemma admissionsFor_of_context {selectionId : String} {context : SelectorAdmission}
    (hbinding : forwarder.bindingFor route request = some binding)
    (hcontext : binding.selectorContext = some (selectionId, context)) :
    (forwarder.admissionsFor route request)[selectionId]? = some context := by
  rw [admissionsFor, hbinding]
  simp only [hcontext, Option.elim_some, OrderedMap.getElem?_insert_if, if_true]

/-- A catalog that an answer is checked against is that of its operation, the one that its
operation's selection was completed with, or the shared one. -/
lemma admissionsFor_cases {selectionId : String} {admitted : SelectorAdmission}
    (h : (forwarder.admissionsFor route request)[selectionId]? = some admitted) :
    forwarder.selectorAdmissions[selectionId]? = some admitted ∨
      ∃ binding, forwarder.bindingFor route request = some binding ∧
        (binding.selectorContext = some (selectionId, admitted) ∨
          binding.completedSelector = some (selectionId, admitted)) := by
  rw [admissionsFor] at h
  split at h
  next => exact .inl h
  next binding hbinding =>
    have hinsert : ∀ (admissions : Admissions) (context : Option (String × SelectorAdmission)),
        (context.elim admissions fun entry =>
          admissions.insert entry.1 entry.2)[selectionId]? = some admitted →
        context = some (selectionId, admitted) ∨ admissions[selectionId]? = some admitted := by
      rintro admissions (_ | ⟨id, admission⟩) hfound
      · exact .inr hfound
      · rw [Option.elim_some, OrderedMap.getElem?_insert_if] at hfound
        split_ifs at hfound with hid
        · obtain rfl := Option.some.inj hfound
          exact .inl (by rw [← hid])
        · exact .inr hfound
    rcases hinsert _ _ h with hcontext | h
    · exact .inr ⟨binding, hbinding, .inl hcontext⟩
    rcases hinsert _ _ h with hcompleted | h
    · exact .inr ⟨binding, hbinding, .inr hcompleted⟩
    · exact .inl h

/-- A shared catalog is there to be checked against, or another one of the selection is. -/
lemma admissionsFor_of_shared {selectionId : String} {current : SelectorAdmission}
    (h : forwarder.selectorAdmissions[selectionId]? = some current) :
    ∃ admitted, (forwarder.admissionsFor route request)[selectionId]? = some admitted := by
  have hinsert : ∀ (admissions : Admissions) (context : Option (String × SelectorAdmission)),
      (∃ admitted, admissions[selectionId]? = some admitted) →
      ∃ admitted, (context.elim admissions fun entry =>
        admissions.insert entry.1 entry.2)[selectionId]? = some admitted := by
    rintro admissions (_ | ⟨id, admission⟩) hfound
    · exact hfound
    · rw [Option.elim_some, OrderedMap.getElem?_insert_if]
      split_ifs
      · exact ⟨admission, rfl⟩
      · exact hfound
  rw [admissionsFor]
  split
  · exact ⟨current, h⟩
  · exact hinsert _ _ (hinsert _ _ ⟨current, h⟩)

section Schema

variable [RestActionSchema] {headers : HttpRequest} {statusCode : UInt16} {body : Body}
  {value : Json}

lemma responseValid_of_checkResponse
    (h : forwarder.checkResponse route request headers statusCode body = .ok value) :
    responseValid value request route.operationId statusCode
      (forwarder.admissionsFor route request) = true := by
  simp only [checkResponse, except_bind_eq_ok, refuse_eq_ok, not_or, not_not] at h
  obtain ⟨_, _, other, _, _, ⟨-, -, hresponse, -⟩, hpure⟩ := h
  obtain rfl : other = value := Except.ok.inj hpure
  exact hresponse

/-- A transition comes with an answer that settles its operation. -/
lemma settled_of_checkResponse
    (h : forwarder.checkResponse route request headers statusCode body = .ok value)
    {kind : String} (hkind : ((value.get "transition").get "kind").asStr = some kind) :
    settled value request (forwarder.admissionsFor route request) = true := by
  obtain ⟨status, _, hchecks⟩ := (Option.any_eq_true _ _).mp (responseValid_of_checkResponse h)
  have hbody := (Bool.and_eq_true_iff.mp hchecks).2
  have hnull : (value.get "transition").isNull = true → False := by
    intro hnull
    cases htransition : value.get "transition" with
    | null =>
      rw [htransition] at hkind
      cases hkind
    | bool | num | str | arr | obj =>
      rw [htransition] at hnull
      cases hnull
  split at hbody
  · simp only [accepted, Bool.and_eq_true] at hbody
    exact (hnull hbody.1.1.2).elim
  · exact hbody
  all_goals first
    | cases hbody
    | simp only [rejectedOrUncertain, Bool.and_eq_true] at hbody
      exact (hnull hbody.1.1.2).elim

/-- **A catalog that is accepted is of the selection that it was checked against.** -/
theorem sameSelection_of_checkResponse
    (h : forwarder.checkResponse route request headers statusCode body = .ok value)
    (hshows : showsCatalog value) {selectionId : String} {admission admitted : SelectorAdmission}
    (hlifecycle : SelectorLifecycle.fromValue value = some admission.lifecycle)
    (hadmission : admissionFromTransition (value.get "transition") admission.lifecycle =
      some (selectionId, admission))
    (hadmitted : (forwarder.admissionsFor route request)[selectionId]? = some admitted) :
    admitted.lifecycle = admission.lifecycle ∧ SameSelection admitted admission := by
  have hselector : selectorValid value (value.get "transition")
      (forwarder.admissionsFor route request) request.isNull = true := by
    rcases hshows with hkind | hkind
    all_goals
      have hsettled := settled_of_checkResponse h hkind
      simp only [settled, hkind, Bool.and_eq_true] at hsettled
      exact hsettled.2.2
  exact sameSelection_of_selectorValid hselector hlifecycle hadmission hadmitted

end Schema

end Forwarder

end Sts2Gateway.RestAction
