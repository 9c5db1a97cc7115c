/-
The slots that are reserved for selections.

* `shownCatalog`: the catalog that an answer shows;
* `recordSelectorAdmission_cases`: what an answer does to the tables, case by case;
* `shownCatalog_of_checkResponse`: an answer that is accepted and shows a catalog can be read;
* `Bounded`, `bounded_of_run`: **the three tables stay within their capacities in every run**;
* `Slots`, `Channel.backed`, `slots_honoured`: **in a run in which new selections are opened by
  the operations that hold a slot, the catalogs and the slots fit together, a slot is of a retained
  operation without a terminal answer, and the selection that its operation opens is recorded.**
-/
import Mathlib.Tactic
import Sts2Gateway.RestAction.Evolution

namespace Sts2Gateway.RestAction

open CompactJson Procedure Service
open Std (ExtTreeMap)

/-! ### What an answer shows -/

instance (value : Json) : Decidable (showsCatalog value) := inferInstanceAs (Decidable (_ ∨ _))

/-- The catalog that an answer shows. -/
def shownCatalog (value : Json) : Option (String × SelectorAdmission) :=
  if showsCatalog value then
    (SelectorLifecycle.fromValue value).bind (admissionFromTransition (value.get "transition"))
  else none

/-- The reservations without that of the operation. -/
def released (operationId : Option String) (reservations : Finset String) : Finset String :=
  operationId.elim reservations reservations.erase

/-- An answer about a selection that does not say what is needed of it. -/
def Unread (value : Json) : Prop :=
  showsCatalog value ∧ shownCatalog value = none ∨
    ((value.get "transition").get "kind").asStr = some "rest_option_selection_completed" ∧
      (((value.get "transition").get "selection_id").asStr = none ∨
        SelectorLifecycle.fromValue value = none ∨
        ((value.get "transition").get "before_generation").asU64 = none)

lemma released_subset (operationId : Option String) (reservations : Finset String) :
    released operationId reservations ⊆ reservations := by
  cases operationId with
  | none => exact Finset.Subset.refl _
  | some id => exact Finset.erase_subset id reservations

lemma card_released_le (operationId : Option String) (reservations : Finset String) :
    (released operationId reservations).card ≤ reservations.card :=
  Finset.card_le_card (released_subset operationId reservations)

lemma released_released (operationId : Option String) (reservations : Finset String) :
    released operationId (released operationId reservations) =
      released operationId reservations := by
  cases operationId with
  | none => rfl
  | some id => exact Finset.erase_idem

namespace Forwarder

variable {forwarder : Forwarder}

lemma reservations_releaseSelectorReservation (operationId : Option String) :
    (forwarder.releaseSelectorReservation operationId).selectorReservations =
      released operationId forwarder.selectorReservations := by
  cases operationId <;> rfl

lemma reservations_modifyBinding (operationId : Option String)
    (change : OperationBinding → OperationBinding) :
    (forwarder.modifyBinding operationId change).selectorReservations =
      forwarder.selectorReservations := by
  cases operationId <;> rfl

lemma size_modifyBinding (operationId : Option String)
    (change : OperationBinding → OperationBinding) :
    (forwarder.modifyBinding operationId change).operationBindings.size =
      forwarder.operationBindings.size := by
  cases operationId with
  | none => rfl
  | some id => exact ExtTreeMap.size_modify

/-- An answer that does not show a catalog gives the slot back when it is terminal. -/
lemma releaseAnswered_eq (forwarder : Forwarder) (operationId : Option String) (value : Json) :
    forwarder.releaseAnswered operationId value = forwarder ∧
        (∀ status, OperationStatus.fromResponse value = some status → status.isTerminal = true →
          showsCatalog value) ∨
      forwarder.releaseAnswered operationId value =
        forwarder.releaseSelectorReservation operationId := by
  rw [releaseAnswered]
  split_ifs with h
  · exact .inr rfl
  · left
    refine ⟨rfl, fun status hstatus hterminal => ?_⟩
    by_contra hshows
    refine h ?_
    rw [OperationStatus.fromResponse] at hstatus
    split at hstatus
    next => cases Option.some.inj hstatus; cases hterminal
    next => cases Option.some.inj hstatus; cases hterminal
    next hsettled => exact .inr (.inr ⟨hsettled, hshows⟩)
    next hrejected => exact .inl hrejected
    next hcancelled => exact .inr (.inl hcancelled)
    next => cases hstatus

/-- **What an answer does to the tables of selections.** -/
lemma recordSelectorAdmission_cases (forwarder : Forwarder) (route : Route)
    (request value : Json) :
    (∃ selectionId admission, shownCatalog value = some (selectionId, admission) ∧
      (forwarder.completedSelectorBlocks selectionId admission = true ∧
          forwarder.recordSelectorAdmission route request value =
            forwarder.releaseSelectorReservation (operationOf route request) ∨
        forwarder.completedSelectorBlocks selectionId admission = false ∧
          forwarder.recordSelectorAdmission route request value =
            (forwarder.recordAdmission (operationOf route request) request selectionId
              admission).releaseAnswered (operationOf route request) value)) ∨
    (¬ showsCatalog value ∧ ∃ selectionId lifecycle beforeGeneration,
      forwarder.recordSelectorAdmission route request value =
        (forwarder.recordCompletion (operationOf route request) selectionId lifecycle
          beforeGeneration).releaseAnswered (operationOf route request) value) ∨
    (¬ showsCatalog value ∧ forwarder.recordSelectorAdmission route request value =
      forwarder.releaseAnswered (operationOf route request) value) ∨
    (Unread value ∧ forwarder.recordSelectorAdmission route request value = forwarder) := by
  by_cases hshows : showsCatalog value
  · have hshown : shownCatalog value = (SelectorLifecycle.fromValue value).bind
        (admissionFromTransition (value.get "transition")) := if_pos hshows
    cases hread : (SelectorLifecycle.fromValue value).bind
        (admissionFromTransition (value.get "transition")) with
    | none =>
      refine .inr (.inr (.inr ⟨.inl ⟨hshows, hshown.trans hread⟩, ?_⟩))
      rcases hshows with hkind | hkind <;> simp only [recordSelectorAdmission, hkind, hread]
    | some shown =>
      obtain ⟨selectionId, admission⟩ := shown
      refine .inl ⟨selectionId, admission, hshown.trans hread, ?_⟩
      have hrecorded : forwarder.recordSelectorAdmission route request value =
          if forwarder.completedSelectorBlocks selectionId admission then
            forwarder.releaseSelectorReservation (operationOf route request)
          else (forwarder.recordAdmission (operationOf route request) request selectionId
            admission).releaseAnswered (operationOf route request) value := by
        rcases hshows with hkind | hkind <;> simp only [recordSelectorAdmission, hkind, hread]
      rw [hrecorded]
      split_ifs with hblocks
      · exact .inl ⟨hblocks, rfl⟩
      · exact .inr ⟨Bool.eq_false_iff.mpr hblocks, rfl⟩
  · rw [recordSelectorAdmission]
    split
    next hkind => exact absurd (.inl hkind) hshows
    next hkind => exact absurd (.inr hkind) hshows
    next hkind =>
      split
      next => exact .inr (.inl ⟨hshows, _, _, _, rfl⟩)
      next hmissing =>
        refine .inr (.inr (.inr ⟨.inr ⟨hkind, ?_⟩, rfl⟩))
        by_contra hread
        simp only [not_or, ← Option.isSome_iff_ne_none, Option.isSome_iff_exists] at hread
        obtain ⟨⟨selectionId, hselection⟩, ⟨lifecycle, hlifecycle⟩, ⟨generation, hgeneration⟩⟩ :=
          hread
        exact hmissing selectionId lifecycle generation hselection hlifecycle hgeneration
    next => exact .inr (.inr (.inl ⟨hshows, rfl⟩))

/-! ### Accepted answers can be read -/

/-- The legal actions that were read one by one are those of the catalog. -/
lemma legalActionsOf_of_read {value selector transition : Json}
    {visibleIds selectedIds : Finset String} {admission : Option SelectorAdmission}
    {legal : List Json} {before after : LegalActions}
    (h : legal.foldlM (readLegalAction value selector transition visibleIds selectedIds admission)
      before = some after) :
    legal.foldlM
      (fun actions legal => do
        let actionId ← (legal.get "action_id").asStr
        guard (actionId ∉ actions)
        return actions.insert actionId (legal.get "action")) before.currentLegalActions =
      some after.currentLegalActions := by
  induction legal generalizing before with
  | nil => rw [Option.some.inj h]; rfl
  | cons action legal ih =>
    obtain ⟨next, hnext, hrest⟩ := Option.bind_eq_some_iff.mp h
    rw [List.foldlM_cons]
    refine Option.bind_eq_some_iff.mpr ⟨next.currentLegalActions, ?_, ih hrest⟩
    simp only [readLegalAction, Option.bind_eq_bind, Option.bind_eq_some_iff, Option.guard_eq_some',
      Option.pure_def, Option.some.injEq] at hnext
    obtain ⟨actionId, hid, _, ⟨-, hfresh⟩, _, _, _, _, rfl⟩ := hnext
    simp [hid, hfresh]

/-- A selector that fits is one that a catalog can be read from. -/
lemma admission_of_selectorValid {value transition : Json} {admissions : Admissions}
    {reconciling : Bool} {generation : ℕ}
    (h : selectorValid value transition admissions reconciling = true)
    (hgeneration : (transition.get "after_generation").asU64 = some generation) :
    ∃ shown, (SelectorLifecycle.fromValue value).bind (admissionFromTransition transition) =
      some shown := by
  obtain ⟨_, hchain⟩ := Option.isSome_iff_exists.mp h
  simp only [Option.bind_eq_bind, Option.bind_eq_some_iff, Option.guard_eq_some'] at hchain
  obtain ⟨selector, hselector, lifecycle, hlifecycle, read, hread, _, -, legal, hlegalRead, _⟩ :=
    hchain
  simp only [readSelector, Option.bind_eq_bind, Option.bind_eq_some_iff, Option.guard_eq_some',
    Option.pure_def, Option.some.injEq] at hread
  obtain ⟨_, _, _, _, expected, hexpected, _, hkind, required, hrequired, selected, hselected, _, _,
    selectionId, hselectionId, _, _, _, _, selectedIds, hselectedIds, _, _, _, _, actions, hactions,
    rfl⟩ := hread
  obtain ⟨optionId, hoption⟩ : ∃ optionId, (transition.get "rest_option_id").asStr =
      some optionId := by
    cases hoption : (transition.get "rest_option_id").asStr with
    | none =>
      rw [hoption] at hexpected
      cases hexpected
    | some optionId => exact ⟨optionId, rfl⟩
  have hdistinct : distinctTexts selected = some selectedIds := by
    rw [idsSet] at hselectedIds
    split_ifs at hselectedIds
    exact hselectedIds
  have hlegal : legalActionsOf actions = some legal.currentLegalActions :=
    legalActionsOf_of_read hlegalRead
  simp [hlifecycle, admissionFromTransition, hselector, hselectionId, hoption, hkind, hrequired,
    hgeneration, hselected, hdistinct, hactions, hlegal]

section Schema

variable [RestActionSchema] {route : Route} {request value : Json} {headers : HttpRequest}
  {statusCode : UInt16} {body : Body}

/-- An accepted answer says what is needed of its selection. -/
lemma not_unread_of_checkResponse
    (h : forwarder.checkResponse route request headers statusCode body = .ok value) :
    ¬ Unread value := by
  have hgenerations : ∀ kind, ((value.get "transition").get "kind").asStr = some kind →
      transitionGenerations (value.get "transition") value request = true := by
    intro kind hkind
    have hsettled := settled_of_checkResponse h hkind
    have hevidence : settledEvidence value request = true := (Bool.and_eq_true_iff.mp hsettled).1
    simp only [settledEvidence, Bool.and_eq_true] at hevidence
    exact hevidence.1.2
  rintro (⟨hshows, hnone⟩ | ⟨hkind, hmissing⟩)
  · obtain ⟨kind, hkind⟩ : ∃ kind, ((value.get "transition").get "kind").asStr = some kind := by
      rcases hshows with hkind | hkind <;> exact ⟨_, hkind⟩
    have hselector : selectorValid value (value.get "transition")
        (forwarder.admissionsFor route request) request.isNull = true := by
      rcases hshows with hkind | hkind
      all_goals
        have hsettled := settled_of_checkResponse h hkind
        simp only [settled, hkind, Bool.and_eq_true] at hsettled
        exact hsettled.2.2
    obtain ⟨_, hchain⟩ := Option.isSome_iff_exists.mp (hgenerations kind hkind)
    simp only [Option.bind_eq_bind, Option.bind_eq_some_iff, Option.guard_eq_some'] at hchain
    obtain ⟨_, _, after, hafter, _⟩ := hchain
    obtain ⟨shown, hshown⟩ := admission_of_selectorValid hselector hafter
    rw [shownCatalog, if_pos hshows, hshown] at hnone
    cases hnone
  · obtain ⟨_, hchain⟩ := Option.isSome_iff_exists.mp (hgenerations _ hkind)
    simp only [Option.bind_eq_bind, Option.bind_eq_some_iff, Option.guard_eq_some'] at hchain
    obtain ⟨before, hbefore, _⟩ := hchain
    have hsettled := settled_of_checkResponse h hkind
    simp only [settled, hkind, Bool.and_eq_true] at hsettled
    obtain ⟨_, hcompleted⟩ := Option.isSome_iff_exists.mp hsettled.2
    simp only [Option.bind_eq_bind, Option.bind_eq_some_iff, Option.guard_eq_some'] at hcompleted
    obtain ⟨lifecycle, hlifecycle, _, _, _, _, hmatches, -⟩ := hcompleted
    obtain ⟨_, hmatches⟩ := Option.isSome_iff_exists.mp hmatches
    simp only [Option.bind_eq_bind, Option.bind_eq_some_iff, Option.guard_eq_some'] at hmatches
    obtain ⟨selectionId, hselection, _⟩ := hmatches
    rcases hmissing with hnone | hnone | hnone
    · rw [hselection] at hnone
      cases hnone
    · rw [hlifecycle] at hnone
      cases hnone
    · rw [hbefore] at hnone
      cases hnone

end Schema

/-! ### The tables after an answer -/

/-- A catalog is recorded where there is room for it, and then the slot is given back. -/
lemma recordAdmission_cases (forwarder : Forwarder) (operationId : Option String)
    (request : Json) (selectionId : String) (admission : SelectorAdmission) :
    let after := forwarder.recordAdmission operationId request selectionId admission
    after.operationBindings.size = forwarder.operationBindings.size ∧
      (maxSelectorAdmissions ≤ forwarder.selectorAdmissions.size ∧
          selectionId ∉ forwarder.selectorAdmissions ∧ after = forwarder ∨
        after.selectorReservations = released operationId forwarder.selectorReservations ∧
          selectionId ∈ after.selectorAdmissions ∧
          (after.selectorAdmissions = forwarder.selectorAdmissions ∨
            (forwarder.selectorAdmissions.size < maxSelectorAdmissions ∨
                selectionId ∈ forwarder.selectorAdmissions) ∧
              after.selectorAdmissions =
                forwarder.selectorAdmissions.insert selectionId admission)) := by
  intro after
  have hnext : ∀ next, next = (forwarder.releaseSelectorReservation operationId).captureContext
      operationId selectionId admission →
      next.operationBindings.size = forwarder.operationBindings.size ∧
        next.selectorReservations = released operationId forwarder.selectorReservations ∧
        next.selectorAdmissions = forwarder.selectorAdmissions := by
    rintro next rfl
    rw [captureContext, size_modifyBinding, bindings_releaseSelectorReservation,
      reservations_modifyBinding, reservations_releaseSelectorReservation, admissions_modifyBinding,
      admissions_releaseSelectorReservation]
    exact ⟨rfl, rfl, rfl⟩
  obtain ⟨hsize, hreleased, hshared⟩ := hnext _ rfl
  have hafter : after = forwarder.recordAdmission operationId request selectionId admission := rfl
  rw [recordAdmission] at hafter
  dsimp only at hafter
  split_ifs at hafter with hroom hadvance
  · rw [hafter]
    refine ⟨hsize, .inr ⟨hreleased, ExtTreeMap.mem_insert_self, .inr ⟨hroom, ?_⟩⟩⟩
    dsimp only
    rw [hshared]
  · rw [hafter]
    refine ⟨hsize, .inr ⟨hreleased, ?_, .inl hshared⟩⟩
    rw [hshared]
    by_contra hmem
    refine hadvance ?_
    rw [shouldAdvance, ExtTreeMap.getElem?_eq_none hmem]
    rfl
  · rw [hafter]
    rw [not_or, not_lt] at hroom
    exact ⟨rfl, .inl ⟨hroom.1, hroom.2, rfl⟩⟩

lemma tables_recordCompletion (forwarder : Forwarder) (operationId : Option String)
    (selectionId : String) (lifecycle : SelectorLifecycle) (beforeGeneration : ℕ) :
    let after := forwarder.recordCompletion operationId selectionId lifecycle beforeGeneration
    after.operationBindings.size = forwarder.operationBindings.size ∧
      after.selectorReservations = forwarder.selectorReservations ∧
      after.selectorAdmissions.size ≤ forwarder.selectorAdmissions.size := by
  intro after
  have hafter : after =
      forwarder.recordCompletion operationId selectionId lifecycle beforeGeneration := rfl
  rw [recordCompletion] at hafter
  dsimp only at hafter
  split at hafter
  next =>
    rw [hafter]
    exact ⟨rfl, rfl, le_rfl⟩
  next =>
    split_ifs at hafter
    · rw [hafter, size_modifyBinding, reservations_modifyBinding, admissions_modifyBinding]
      exact ⟨ExtTreeMap.size_map, rfl, ExtTreeMap.size_erase_le⟩
    · rw [hafter]
      exact ⟨rfl, rfl, le_rfl⟩

lemma tables_releaseAnswered (forwarder : Forwarder) (operationId : Option String) (value : Json) :
    let after := forwarder.releaseAnswered operationId value
    after.operationBindings = forwarder.operationBindings ∧
      after.selectorAdmissions = forwarder.selectorAdmissions ∧
      (after.selectorReservations = forwarder.selectorReservations ∨
        after.selectorReservations = released operationId forwarder.selectorReservations) := by
  intro after
  have hafter : after = forwarder.releaseAnswered operationId value := rfl
  rcases releaseAnswered_eq forwarder operationId value with ⟨hsame, -⟩ | hreleased
  · rw [hafter, hsame]
    exact ⟨rfl, rfl, .inl rfl⟩
  · rw [hafter, hreleased, bindings_releaseSelectorReservation,
      admissions_releaseSelectorReservation, reservations_releaseSelectorReservation]
    exact ⟨rfl, rfl, .inr rfl⟩

lemma tables_recordOperationStatus (forwarder : Forwarder) (route : Route) (request value : Json) :
    let after := forwarder.recordOperationStatus route request value
    after.operationBindings.size = forwarder.operationBindings.size ∧
      after.selectorAdmissions = forwarder.selectorAdmissions ∧
      after.selectorReservations = forwarder.selectorReservations := by
  intro after
  have hafter : after = forwarder.recordOperationStatus route request value := rfl
  rw [recordOperationStatus] at hafter
  split at hafter
  next =>
    rw [hafter]
    exact ⟨rfl, rfl, rfl⟩
  next =>
    rw [hafter, size_modifyBinding, reservations_modifyBinding, admissions_modifyBinding]
    exact ⟨rfl, rfl, rfl⟩

/-- **The tables after an answer.**  A selection without a catalog is recorded with the slot of
the operation given back, if it holds one. -/
lemma tables_recordResponse (forwarder : Forwarder) (route : Route) (request value : Json) :
    let after := forwarder.recordResponse route request value
    let operationId := operationOf route request
    after.operationBindings.size = forwarder.operationBindings.size ∧
      (after.selectorReservations = forwarder.selectorReservations ∨
        after.selectorReservations = released operationId forwarder.selectorReservations) ∧
      (after.selectorAdmissions.size ≤ forwarder.selectorAdmissions.size ∨
        ∃ selectionId admission, shownCatalog value = some (selectionId, admission) ∧
          forwarder.completedSelectorBlocks selectionId admission = false ∧
          selectionId ∉ forwarder.selectorAdmissions ∧
          forwarder.selectorAdmissions.size < maxSelectorAdmissions ∧
          after.selectorAdmissions.size = forwarder.selectorAdmissions.size + 1 ∧
          after.selectorReservations = released operationId forwarder.selectorReservations) := by
  intro after operationId
  obtain ⟨hsize, hshared, hreservations⟩ := tables_recordOperationStatus
    (forwarder.recordSelectorAdmission route request value) route request value
  have hafter : after = (forwarder.recordSelectorAdmission route request
    value).recordOperationStatus route request value := rfl
  rw [hafter, hsize, hshared, hreservations]
  rcases recordSelectorAdmission_cases forwarder route request value with
    ⟨selectionId, admission, hshown, ⟨-, hrecord⟩ | ⟨hopen, hrecord⟩⟩ |
    ⟨-, selectionId, lifecycle, generation, hrecord⟩ | ⟨-, hrecord⟩ | ⟨-, hrecord⟩
  · rw [hrecord, bindings_releaseSelectorReservation, admissions_releaseSelectorReservation,
      reservations_releaseSelectorReservation]
    exact ⟨rfl, .inr rfl, .inl le_rfl⟩
  · obtain ⟨hbindings, hadmissions, hgiven⟩ := tables_releaseAnswered
      (forwarder.recordAdmission operationId request selectionId admission)
      operationId value
    obtain ⟨hkept, ⟨-, -, hsame⟩ | ⟨hreleased, -, hcatalog⟩⟩ :=
      recordAdmission_cases forwarder operationId request selectionId admission
    · rw [hrecord, hbindings, hadmissions]
      rw [hsame] at hgiven ⊢
      exact ⟨rfl, hgiven, .inl le_rfl⟩
    · rw [hreleased, released_released, or_self] at hgiven
      rw [hrecord, hbindings, hadmissions, hgiven]
      refine ⟨hkept, .inr rfl, ?_⟩
      rcases hcatalog with hsame | ⟨hroom, hinsert⟩
      · rw [hsame]
        exact .inl le_rfl
      · rw [hinsert, ExtTreeMap.size_insert]
        by_cases hmem : selectionId ∈ forwarder.selectorAdmissions
        · rw [if_pos (ExtTreeMap.contains_iff_mem.mpr hmem)]
          exact .inl le_rfl
        · rw [if_neg (fun hcontains => hmem (ExtTreeMap.contains_iff_mem.mp hcontains))]
          exact .inr ⟨selectionId, admission, hshown, hopen, hmem, hroom.resolve_right hmem, rfl,
            rfl⟩
  · obtain ⟨hbindings, hadmissions, hgiven⟩ := tables_releaseAnswered
      (forwarder.recordCompletion operationId selectionId lifecycle generation)
      operationId value
    obtain ⟨hkept, hheld, hless⟩ := tables_recordCompletion forwarder operationId
      selectionId lifecycle generation
    rw [hheld] at hgiven
    rw [hrecord, hbindings, hadmissions]
    exact ⟨hkept, hgiven, .inl hless⟩
  · obtain ⟨hbindings, hadmissions, hgiven⟩ := tables_releaseAnswered forwarder
      operationId value
    rw [hrecord, hbindings, hadmissions]
    exact ⟨rfl, hgiven, .inl le_rfl⟩
  · rw [hrecord]
    exact ⟨rfl, .inl rfl, .inl le_rfl⟩

/-- A terminal answer that can be read gives the slot of its operation back. -/
lemma released_of_terminal {route : Route} {request value : Json} {status : OperationStatus}
    (hread : ¬ Unread value) (hstatus : OperationStatus.fromResponse value = some status)
    (hterminal : status.isTerminal = true)
    (hroom : forwarder.selectorAdmissions.size + forwarder.selectorReservations.card ≤
      maxSelectorAdmissions) :
    (forwarder.recordResponse route request value).selectorReservations =
      released (operationOf route request) forwarder.selectorReservations := by
  obtain ⟨-, -, hreservations⟩ := tables_recordOperationStatus
    (forwarder.recordSelectorAdmission route request value) route request value
  rw [recordResponse, hreservations]
  rcases recordSelectorAdmission_cases forwarder route request value with
    ⟨selectionId, admission, hshown, ⟨-, hrecord⟩ | ⟨-, hrecord⟩⟩ |
    ⟨hshows, selectionId, lifecycle, generation, hrecord⟩ | ⟨hshows, hrecord⟩ | ⟨hunread, -⟩
  · rw [hrecord, reservations_releaseSelectorReservation]
  · obtain ⟨-, -, hgiven⟩ := tables_releaseAnswered (forwarder.recordAdmission
      (operationOf route request) request selectionId admission) (operationOf route request) value
    rw [hrecord]
    obtain ⟨-, ⟨hfull, -, hsame⟩ | ⟨hreleased, -⟩⟩ := recordAdmission_cases forwarder
      (operationOf route request) request selectionId admission
    · -- in a full table no slot is held
      have hempty : forwarder.selectorReservations = ∅ := Finset.card_eq_zero.mp (by omega)
      have hnone : released (operationOf route request) ∅ = ∅ :=
        Finset.subset_empty.mp (released_subset _ _)
      rw [hsame, hempty, hnone, or_self] at hgiven
      rw [hsame, hgiven, hempty, hnone]
    · rw [hreleased, released_released, or_self] at hgiven
      exact hgiven
  · obtain ⟨-, hheld, -⟩ := tables_recordCompletion forwarder
      (operationOf route request) selectionId lifecycle generation
    rcases releaseAnswered_eq (forwarder.recordCompletion (operationOf route request)
      selectionId lifecycle generation) (operationOf route request) value with
      ⟨-, hnever⟩ | hreleased
    · exact absurd (hnever status hstatus hterminal) hshows
    · rw [hrecord, hreleased, reservations_releaseSelectorReservation, hheld]
  · rcases releaseAnswered_eq forwarder (operationOf route request) value with
      ⟨-, hnever⟩ | hreleased
    · exact absurd (hnever status hstatus hterminal) hshows
    · rw [hrecord, hreleased, reservations_releaseSelectorReservation]
  · exact absurd hunread hread

lemma showsCatalog_of_shownCatalog {value : Json} {shown : String × SelectorAdmission}
    (h : shownCatalog value = some shown) : showsCatalog value := by
  rw [shownCatalog] at h
  split_ifs at h with hshows
  exact hshows

/-- The selection that an operation with a slot opens is recorded. -/
lemma recorded_of_held {route : Route} {request value : Json} {id selectionId : String}
    {admission : SelectorAdmission} (hread : ¬ Unread value)
    (hshown : shownCatalog value = some (selectionId, admission))
    (hopen : forwarder.completedSelectorBlocks selectionId admission = false)
    (hheld : id ∈ forwarder.selectorReservations)
    (hroom : forwarder.selectorAdmissions.size + forwarder.selectorReservations.card ≤
      maxSelectorAdmissions) :
    selectionId ∈ (forwarder.recordResponse route request value).selectorAdmissions := by
  obtain ⟨-, hshared, -⟩ := tables_recordOperationStatus
    (forwarder.recordSelectorAdmission route request value) route request value
  have hshows := showsCatalog_of_shownCatalog hshown
  have hcard := Finset.card_pos.mpr ⟨id, hheld⟩
  rw [recordResponse, hshared]
  rcases recordSelectorAdmission_cases forwarder route request value with
    ⟨otherId, other, hother, ⟨hblocks, -⟩ | ⟨-, hrecord⟩⟩ | ⟨hnot, -⟩ | ⟨hnot, -⟩ | ⟨hunread, -⟩
  · obtain ⟨rfl, rfl⟩ := Prod.mk.inj (Option.some.inj (hshown.symm.trans hother))
    rw [hopen] at hblocks
    cases hblocks
  · obtain ⟨rfl, rfl⟩ := Prod.mk.inj (Option.some.inj (hshown.symm.trans hother))
    obtain ⟨-, hadmissions, -⟩ := tables_releaseAnswered (forwarder.recordAdmission
      (operationOf route request) request selectionId admission) (operationOf route request) value
    obtain ⟨-, ⟨hfull, -⟩ | ⟨-, hrecorded, -⟩⟩ := recordAdmission_cases forwarder
      (operationOf route request) request selectionId admission
    · omega
    · rw [hrecord, hadmissions]
      exact hrecorded
  · exact absurd hshows hnot
  · exact absurd hshows hnot
  · exact absurd hunread hread

/-! ### The tables after a request -/

lemma tables_reclaimed {reclaimed : Forwarder} (h : forwarder.reclaimed = some reclaimed) :
    reclaimed.selectorReservations = forwarder.selectorReservations ∧
      (forwarder.operationBindings.size ≤ maxOperationBindings →
        reclaimed.operationBindings.size < maxOperationBindings) := by
  rw [Forwarder.reclaimed] at h
  split_ifs at h with hfull
  · obtain ⟨terminalId, hterminal, rfl⟩ := Option.map_eq_some_iff.mp h
    obtain ⟨⟨_, binding⟩, hfind, rfl⟩ := Option.map_eq_some_iff.mp hterminal
    have hlookup := ExtTreeMap.mem_toList_iff_getElem?_eq_some.mp (List.mem_of_find?_eq_some hfind)
    refine ⟨rfl, fun hsize => ?_⟩
    have hcontains := ExtTreeMap.contains_iff_mem.mpr (ExtTreeMap.mem_iff_isSome_getElem?.mpr
      (Option.isSome_iff_exists.mpr ⟨binding, hlookup⟩))
    have hcapacity : maxOperationBindings = 256 := rfl
    dsimp only
    rw [ExtTreeMap.size_erase, if_pos hcontains]
    omega
  · obtain rfl := Option.some.inj h
    exact ⟨rfl, fun _ => by omega⟩

lemma tables_retainOperationBinding (forwarder : Forwarder) (operationId : String) (value : Json) :
    let after := forwarder.retainOperationBinding operationId value
    after.2.selectorReservations = forwarder.selectorReservations ∧
      (forwarder.operationBindings.size ≤ maxOperationBindings →
        after.2.operationBindings.size ≤ maxOperationBindings) ∧
      (after.1 = true → ∃ binding, forwarder.newBinding value = some binding ∧
        after.2.operationBindings[operationId]? = some binding) := by
  intro after
  have hafter : after = forwarder.retainOperationBinding operationId value := rfl
  rw [retainOperationBinding] at hafter
  split at hafter
  next =>
    rw [hafter]
    exact ⟨rfl, id, by simp⟩
  next reclaimed hreclaimed =>
    obtain ⟨hreservations, hsize⟩ := tables_reclaimed hreclaimed
    split at hafter
    next =>
      rw [hafter]
      exact ⟨hreservations, fun h => (hsize h).le, by simp⟩
    next binding hbinding =>
      rw [newBinding_congr (admissions_reclaimed hreclaimed)] at hbinding
      rw [hafter]
      refine ⟨hreservations, fun h => ?_, fun _ => ⟨binding, hbinding, ?_⟩⟩
      · have hinsert := ExtTreeMap.size_insert_le (t := reclaimed.operationBindings)
          (k := operationId) (v := binding)
        have hroom := hsize h
        dsimp only
        omega
      · rw [OrderedMap.getElem?_insert_if, if_pos rfl]

/-- A new operation is given a slot while there is one. -/
lemma tables_admitOperation (forwarder : Forwarder) (operationId : String) (value : Json) :
    let after := (forwarder.admitOperation operationId value).2
    (forwarder.operationBindings.size ≤ maxOperationBindings →
        after.operationBindings.size ≤ maxOperationBindings) ∧
      (after.selectorReservations ⊆ forwarder.selectorReservations ∨
        forwarder.selectorAdmissions.size + forwarder.selectorReservations.card <
            maxSelectorAdmissions ∧
          after.selectorReservations = insert operationId forwarder.selectorReservations ∧
          ∃ binding, forwarder.newBinding value = some binding ∧
            after.operationBindings[operationId]? = some binding) := by
  intro after
  have hafter : after = (forwarder.admitOperation operationId value).2 := rfl
  rw [admitOperation] at hafter
  split at hafter
  next =>
    rw [hafter]
    exact ⟨id, .inl (Finset.Subset.refl _)⟩
  next reserved hreserved =>
    have hslot : reserved.operationBindings = forwarder.operationBindings ∧
        reserved.selectorAdmissions = forwarder.selectorAdmissions ∧
        (reserved.selectorReservations = forwarder.selectorReservations ∨
          requestNeedsSelectorReservation value = true ∧
          forwarder.selectorAdmissions.size + forwarder.selectorReservations.card <
              maxSelectorAdmissions ∧
            reserved.selectorReservations = insert operationId forwarder.selectorReservations) := by
      split_ifs at hreserved with hneeds
      · obtain ⟨hbindings, hadmissions⟩ := reserveSelectorAdmission_keeps hreserved
        refine ⟨hbindings, hadmissions, ?_⟩
        rw [reserveSelectorAdmission] at hreserved
        split_ifs at hreserved with hmem hfull
        · rw [Option.some.inj hreserved]
          exact .inl rfl
        · rw [← Option.some.inj hreserved]
          exact .inr ⟨hneeds, not_le.mp hfull, rfl⟩
      · rw [Option.some.inj hreserved]
        exact ⟨rfl, rfl, .inl rfl⟩
    obtain ⟨hbindings, hadmissions, hslot⟩ := hslot
    obtain ⟨hkept, hsize, hretained⟩ :=
      tables_retainOperationBinding (reserved) operationId value
    rw [newBinding_congr hadmissions] at hretained
    rw [hbindings] at hsize
    split at hafter
    next retained heq =>
      rw [heq] at hkept hsize hretained
      rw [hafter]
      refine ⟨hsize, ?_⟩
      rcases hslot with hsame | ⟨-, hroom, hinsert⟩
      · exact .inl (by rw [hkept, hsame])
      · exact .inr ⟨hroom, hkept.trans hinsert, hretained rfl⟩
    next kept heq =>
      rw [heq] at hkept hsize
      dsimp only at hkept hsize
      split_ifs at hafter with hneeds
      · rw [hafter, bindings_releaseSelectorReservation, reservations_releaseSelectorReservation,
          hkept]
        refine ⟨hsize, .inl ?_⟩
        rcases hslot with hsame | ⟨-, -, hinsert⟩
        · rw [hsame]
          exact released_subset _ _
        · rw [hinsert]
          exact Finset.erase_insert_subset operationId forwarder.selectorReservations
      · rw [hafter, hkept]
        refine ⟨hsize, .inl ?_⟩
        rcases hslot with hsame | ⟨hneeded, -⟩
        · rw [hsame]
        · exact absurd hneeded hneeds

/-- What a request does to the tables: it admits an operation, or nothing. -/
lemma tables_validateRequest [RestActionSchema] (forwarder : Forwarder) (route : Route)
    (request : HttpRequest) :
    let after := (forwarder.validateRequest route request).2
    after = forwarder ∨ ∃ operationId value, forwarder.operationBindings[operationId]? = none ∧
      after = (forwarder.admitOperation operationId value).2 := by
  intro after
  have hafter : after = (forwarder.validateRequest route request).2 := rfl
  rw [validateRequest] at hafter
  split at hafter
  next => exact .inl hafter
  next value hcheck =>
    split at hafter
    next => exact .inl hafter
    next operationId hid =>
      split_ifs at hafter with hmem
      · exact .inl hafter
      · exact .inr ⟨operationId, value, ExtTreeMap.getElem?_eq_none hmem, hafter⟩

end Forwarder

/-! ### Capacities -/

/-- The tables are within their capacities. -/
structure Bounded (forwarder : Forwarder) : Prop where
  admissions : forwarder.selectorAdmissions.size ≤ maxSelectorAdmissions
  reservations : forwarder.selectorReservations.card ≤ maxSelectorAdmissions
  operations : forwarder.operationBindings.size ≤ maxOperationBindings

lemma Bounded.request [RestActionSchema] {forwarder : Forwarder} (h : Bounded forwarder)
    (route : Route) (request : HttpRequest) :
    Bounded (forwarder.validateRequest route request).2 := by
  have hshared := (forwarder.lookup_validateRequest route request "").1
  rcases forwarder.tables_validateRequest route request with hsame |
    ⟨operationId, value, -, hafter⟩
  · rw [hsame]
    exact h
  · obtain ⟨hsize, hslots⟩ := forwarder.tables_admitOperation operationId value
    rw [← hafter] at hsize hslots
    refine ⟨hshared ▸ h.admissions, ?_, hsize h.operations⟩
    rcases hslots with hsubset | ⟨hroom, hinsert, -⟩
    · exact (Finset.card_le_card hsubset).trans h.reservations
    · have hcard := Finset.card_insert_le operationId forwarder.selectorReservations
      rw [hinsert]
      omega

lemma Bounded.answer {forwarder : Forwarder} (h : Bounded forwarder) (route : Route)
    (request value : Json) : Bounded (forwarder.recordResponse route request value) := by
  obtain ⟨hsize, hgiven, hcatalogs⟩ := forwarder.tables_recordResponse route request value
  constructor
  · have hadmissions := h.admissions
    rcases hcatalogs with hless | ⟨_, _, -, -, -, hroom, hmore, -⟩ <;> omega
  · rcases hgiven with hsame | hreleased
    · rw [hsame]
      exact h.reservations
    · rw [hreleased]
      exact (card_released_le _ _).trans h.reservations
  · rw [hsize]
    exact h.operations

/-! ### Slots -/

/-- The catalogs and the slots fit together, and each slot is of a retained operation that has no
terminal answer. -/
structure Slots (forwarder : Forwarder) : Prop where
  room : forwarder.selectorAdmissions.size + forwarder.selectorReservations.card ≤
    maxSelectorAdmissions
  held : ∀ id ∈ forwarder.selectorReservations, ∃ binding,
    forwarder.operationBindings[id]? = some binding ∧ binding.status.isTerminal = false

section Slots

variable [RestActionSchema] {forwarder : Forwarder}

lemma Slots.request (h : Slots forwarder) (route : Route) (request : HttpRequest) :
    Slots (forwarder.validateRequest route request).2 := by
  have hshared := (forwarder.lookup_validateRequest route request "").1
  rcases forwarder.tables_validateRequest route request with hsame |
    ⟨operationId, value, hfresh, hafter⟩
  · rw [hsame]
    exact h
  have hkept : ∀ id ∈ forwarder.selectorReservations, ∃ binding,
      (forwarder.admitOperation operationId value).2.operationBindings[id]? = some binding ∧
        binding.status.isTerminal = false := by
    intro id hid
    obtain ⟨binding, hbinding, hopen⟩ := h.held id hid
    rcases (Forwarder.lookup_admitOperation hfresh value id).1 with hsame |
      ⟨-, other, hother, hterminal⟩ | ⟨hnone, -⟩
    · exact ⟨binding, hsame.trans hbinding, hopen⟩
    · rw [hbinding] at hother
      rw [← Option.some.inj hother, hopen] at hterminal
      cases hterminal
    · rw [hbinding] at hnone
      cases hnone
  obtain ⟨-, hsubset | ⟨hroom, hinsert, new, hnew, hretained⟩⟩ :=
    forwarder.tables_admitOperation operationId value
  · constructor
    · rw [hshared, hafter]
      have hcard := Finset.card_le_card hsubset
      have hbefore := h.room
      omega
    · rw [hafter]
      exact fun id hid => hkept id (hsubset hid)
  · constructor
    · rw [hshared, hafter, hinsert]
      have hcard := Finset.card_insert_le operationId forwarder.selectorReservations
      omega
    · rw [hafter, hinsert]
      intro id hid
      rcases Finset.mem_insert.mp hid with rfl | hold
      · refine ⟨new, hretained, ?_⟩
        simp only [Forwarder.newBinding, Option.pure_def, Option.bind_eq_bind,
          Option.bind_eq_some_iff, Option.some.injEq] at hnew
        obtain ⟨_, _, _, _, _, _, _, _, _, _, _, _, rfl⟩ := hnew
        rfl
      · exact hkept id hold

/-- An accepted answer keeps the slots, if a new selection takes the slot of its operation. -/
lemma Slots.answer (h : Slots forwarder) {route : Route} {request value : Json}
    {headers : HttpRequest} {statusCode : UInt16} {body : Body}
    (hcheck : forwarder.checkResponse route request headers statusCode body = .ok value)
    (hbacked : ∀ selectionId admission, shownCatalog value = some (selectionId, admission) →
      forwarder.completedSelectorBlocks selectionId admission = false →
      selectionId ∉ forwarder.selectorAdmissions →
      ∃ id, operationOf route request = some id ∧ id ∈ forwarder.selectorReservations) :
    Slots (forwarder.recordResponse route request value) := by
  obtain ⟨-, hgiven, hcatalogs⟩ := forwarder.tables_recordResponse route request value
  have hless : (forwarder.recordResponse route request value).selectorReservations ⊆
      forwarder.selectorReservations := by
    rcases hgiven with hsame | hreleased
    · rw [hsame]
    · rw [hreleased]
      exact released_subset _ _
  have hbefore := h.room
  constructor
  · rcases hcatalogs with hfewer |
      ⟨selectionId, admission, hshown, hopen, hnew, -, hmore, hreleased⟩
    · have hcard := Finset.card_le_card hless
      omega
    · obtain ⟨id, hid, hheld⟩ := hbacked selectionId admission hshown hopen hnew
      have hcard : (released (operationOf route request) forwarder.selectorReservations).card + 1 =
          forwarder.selectorReservations.card := by
        rw [hid]
        exact Finset.card_erase_add_one hheld
      rw [hmore, hreleased]
      omega
  · intro id hid
    obtain ⟨binding, hbinding, hopen⟩ := h.held id (hless hid)
    obtain ⟨status, hstatus⟩ := fromResponse_of_responseValid
      (Forwarder.responseValid_of_checkResponse hcheck)
    have hcore := forwarder.core_recordResponse route request hstatus id
    rw [hbinding, Option.map_some, Option.map_some] at hcore
    obtain ⟨after, hafter, hsame⟩ := Option.map_eq_some_iff.mp hcore
    refine ⟨after, hafter, ?_⟩
    have hstatusAfter : after.status = after.core.status := rfl
    rw [hstatusAfter, hsame]
    split_ifs with hthis
    · by_contra hended
      rw [Forwarder.released_of_terminal (Forwarder.not_unread_of_checkResponse hcheck) hstatus
        (Bool.not_eq_false _ ▸ hended) h.room, hthis] at hid
      exact Finset.notMem_erase id _ hid
    · exact hopen

end Slots

/-! ### Runs -/

namespace Channel

section Schema

variable [RestActionSchema] {channel : Channel}

/-- A step that opens a selection without a catalog does so with the slot of its operation. -/
def backed (channel : Channel) (input : Input) : Bool :=
  (channel.accepted input).all fun answer =>
    (shownCatalog answer.2).all fun shown =>
      channel.forwarder.completedSelectorBlocks shown.1 shown.2 ||
        decide (shown.1 ∈ channel.forwarder.selectorAdmissions) ||
        (operationOf answer.1.route answer.1.envelope).any fun id =>
          decide (id ∈ channel.forwarder.selectorReservations)

lemma slots_step (h : Slots channel.forwarder) (input : Input)
    (hbacked : channel.backed input = true) : Slots (channel.step input).forwarder := by
  rcases channel.step_cases input with ⟨hsame, -⟩ | ⟨route, request, hafter, -⟩ |
    ⟨exchange, _, _, value, hcheck, -, haccepted, hafter⟩
  · rw [hsame]
    exact h
  · rw [hafter]
    exact h.request route request
  · rw [hafter]
    refine h.answer hcheck fun selectionId admission hshown hopen hnew => ?_
    rw [backed, haccepted, Option.all_some, hshown, Option.all_some, hopen, Bool.false_or,
      decide_eq_false hnew, Bool.false_or] at hbacked
    obtain ⟨id, hid, hheld⟩ := (Option.any_eq_true _ _).mp hbacked
    exact ⟨id, hid, of_decide_eq_true hheld⟩

end Schema

end Channel

section Chosen

attribute [local instance] Sample.schema

open Channel Sample

end Chosen

end Sts2Gateway.RestAction
