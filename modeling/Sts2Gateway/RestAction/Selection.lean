/-
The checks of a selection (`runtime_v4_expert_rest_action_selection.rs`,
`runtime_v4_expert_rest_action_selection_visibility.rs`,
`runtime_v4_expert_rest_action_selection_completion.rs`).

* `validSelectionAction`, `readLegalAction`: one legal action of a selector;
* `selectorAdmissionGenerationAndProgress`: **how a catalog has to follow the admitted one**;
* `readSelector`, `selectorValid`: the selector of a transition that opens a selection or goes
  on with it;
* `completionMatchesAdmission`, `completedSelectionIdsAreValid`: the choices of a transition
  that completes a selection.
-/
import Mathlib.Tactic
import Sts2Gateway.RestAction.Contract

namespace Sts2Gateway.RestAction

open CompactJson
open Std (ExtTreeMap)

/-! ### Visible choices -/

/-- The choices of the observation, each of them there once. -/
def visibleChoiceIds (value : Json) : Option (Finset String) := do
  let choices ← (((value.get "observation").get "state").get "choices").asArray
  idsSet (choices.map (·.get "choice_id"))

/-- The choice that an action makes under a member is visible and not made yet. -/
def visibleChoice (field : String) (value action selector : Json) : Bool :=
  (action.member field).any fun id =>
    (visibleChoiceIds value).any (fun choices => id.asStr.any fun id => id ∈ choices) &&
      !(selector.get "selected_choice_ids").asArray.any fun selected => selected.any (· = id)

def visibleCard : Json → Json → Json → Bool := visibleChoice "card_id"

def visiblePlayer : Json → Json → Json → Bool := visibleChoice "player_id"

def selectedActionIsVisible (value transition : Json) : Bool :=
  let selector := transition.get "selector"
  ((transition.get "selected_choice_ids").asArray.or
      (selector.get "selected_choice_ids").asArray).any fun selected =>
    match (transition.get "selection_kind").asStr.or (selector.get "selection_kind").asStr with
    | some "card" | some "player" =>
      (visibleChoiceIds value).any fun choices =>
        selected.all fun choice => choice.asStr.any fun choice => choice ∈ choices
    | _ => false

/-! ### The selector of a transition -/

def validSelectionAction (value legal selector transition : Json) : Bool :=
  (legal.get "action").object.any fun action =>
    (action.get "kind").asStr.any fun kind =>
      identity (legal.get "action_id") && identity (action.get "selection_id") &&
        identity (action.get "rest_option_id") &&
        action.member "selection_id" = selector.member "selection_id" &&
        action.member "rest_option_id" = transition.member "rest_option_id" &&
        match kind with
        | "confirm_selection" | "cancel_selection" =>
          action.asObject.any fun members => members.length = 3
        | "select_card" =>
          (selector.get "selection_kind").asStr = some "card" &&
            action.asObject.any (fun members => members.length = 4) &&
            identity (action.get "card_id") && visibleCard value action selector
        | "select_player" =>
          (selector.get "selection_kind").asStr = some "player" &&
            action.asObject.any (fun members => members.length = 4) &&
            identity (action.get "player_id") && visiblePlayer value action selector
        | _ => false

/-- The legal actions that were read so far.  Their keys are the identities seen. -/
structure LegalActions where
  currentLegalActions : ExtTreeMap String Json compare
  legalChoiceIds : Finset String
  hasConfirm : Bool

/-- One more legal action of a selector. -/
def readLegalAction (value selector transition : Json) (visibleIds selectedIds : Finset String)
    (admission : Option SelectorAdmission) (read : LegalActions) (legal : Json) :
    Option LegalActions := do
  let actionId ← (legal.get "action_id").asStr
  guard (validSelectionAction value legal selector transition ∧
    actionId ∉ read.currentLegalActions)
  let choice := selectionChoiceId legal
  guard (choice.all fun choice =>
    choice ∈ visibleIds && choice ∉ selectedIds && choice ∉ read.legalChoiceIds)
  guard (admission.all fun admission => choice.all fun choice => choice ∈ admission.choiceIds)
  return {
    currentLegalActions := read.currentLegalActions.insert actionId (legal.get "action")
    legalChoiceIds :=
      choice.elim read.legalChoiceIds fun choice => insert choice read.legalChoiceIds
    hasConfirm :=
      read.hasConfirm || ((legal.get "action").get "kind").asStr = some "confirm_selection" }

/-- The admitted catalog stands at a generation with the choices that are made by then. -/
def standsAt (admission : SelectorAdmission) (generation : Json) (selectedIds : Finset String) :
    Bool :=
  admission.generation = generation.asU64.getD (2 ^ 64 - 1) &&
    admission.selectedChoiceIds = selectedIds

/-- The admitted catalog stands at a generation, and one more choice is made by then. -/
def progressesFrom (admission : SelectorAdmission) (generation : Json)
    (selectedIds : Finset String) : Bool :=
  admission.generation = generation.asU64.getD (2 ^ 64 - 1) &&
    decide (admission.selectedChoiceIds ⊆ selectedIds) &&
    selectedIds.card = admission.selectedChoiceIds.card + 1

/-- A catalog repeats the admitted one or goes on from it. -/
def selectorAdmissionGenerationAndProgress (admission : SelectorAdmission) (transition : Json)
    (visibleIds selectedIds : Finset String) (reconciling : Bool) : Bool :=
  let atProgressAfter := standsAt admission (transition.get "after_generation") selectedIds
  let atProgressBefore := progressesFrom admission (transition.get "before_generation") selectedIds
  admission.choiceIds = visibleIds &&
    match (transition.get "kind").asStr, reconciling with
    | some "rest_option_selection_progressed", true => atProgressBefore || atProgressAfter
    | _, true => atProgressAfter
    | some "rest_option_selection_requested", false => atProgressAfter
    | some "rest_option_selection_progressed", false => atProgressBefore
    | _, false => false

/-- The kind of the choices that an option asks for. -/
def expectedSelectionKind (option : Option String) : Option String :=
  match option with
  | some "smith" => some "card"
  | some "mend" => some "player"
  | _ => none

/-- What an admitted catalog asks of the next one. -/
def admissionAllows (admission : SelectorAdmission) (lifecycle : SelectorLifecycle)
    (transition : Json) (expectedKind : String) (required : ℕ)
    (visibleIds selectedIds : Finset String) (reconciling : Bool) : Bool :=
  admission.lifecycle = lifecycle &&
    (transition.get "rest_option_id").asStr = some admission.optionId &&
    admission.selectionKind = expectedKind && admission.requiredCount = required &&
    selectorAdmissionGenerationAndProgress admission transition visibleIds selectedIds reconciling

/-- The members that a progressed transition repeats from its selector. -/
def progressedFields : List String :=
  ["selection_id", "selection_kind", "required_count", "selected_choice_ids", "remaining_count"]

/-- What a selector says. -/
structure SelectorReading where
  selectionId : String
  selectionKind : String
  required : ℕ
  remaining : ℕ
  selectedIds : Finset String
  visibleIds : Finset String
  legalActions : List Json

/-- The selector of a transition, when it fits the option and the observation. -/
def readSelector (value transition selector : Json) : Option SelectorReading := do
  guard (selector.asObject.any fun members => members.length = 6)
  guard ((transition.get "kind").asStr = some "rest_option_selection_progressed" →
    progressedFields.all fun field => selector.get field = transition.get field)
  let selectionKind ← expectedSelectionKind (transition.get "rest_option_id").asStr
  guard ((selector.get "selection_kind").asStr = some selectionKind)
  let required ← (selector.get "required_count").asU64
  let selected ← (selector.get "selected_choice_ids").asArray
  let remaining ← (selector.get "remaining_count").asU64
  let selectionId ← (selector.get "selection_id").asStr
  guard (identity (selector.get "selection_id") ∧ identity (transition.get "rest_option_id") ∧
    ((transition.get "kind").asStr = some "rest_option_selection_progressed" →
      identity (transition.get "selection_id")))
  guard (selected.length ≤ required ∧ remaining = required - selected.length)
  let selectedIds ← idsSet selected
  let visibleIds ← visibleChoiceIds value
  guard (selectedIds ⊆ visibleIds)
  let legalActions ← (selector.get "legal_actions").asArray
  return { selectionId, selectionKind, required, remaining, selectedIds, visibleIds, legalActions }

/-- The selector of a transition fits the observation and the admitted catalog. -/
def selectorValid (value transition : Json) (admissions : Admissions) (reconciling : Bool) :
    Bool :=
  Option.isSome do
    let selector ← (transition.get "selector").object
    let lifecycle ← SelectorLifecycle.fromValue value
    let read ← readSelector value transition selector
    let admission := admissions[read.selectionId]?
    -- progress and completion require an observed catalog
    guard (admission.elim
      ((transition.get "kind").asStr = some "rest_option_selection_requested" : Bool)
      fun admission => admissionAllows admission lifecycle transition read.selectionKind
        read.required read.visibleIds read.selectedIds reconciling)
    let legal ← read.legalActions.foldlM
      (readLegalAction value selector transition read.visibleIds read.selectedIds admission)
      ⟨∅, ∅, false⟩
    -- at the admitted generation the catalog is the admitted one
    guard (admission.all fun admission =>
      !(admission.generation = (transition.get "after_generation").asU64.getD (2 ^ 64 - 1) &&
        admission.legalActions ≠ legal.currentLegalActions))
    let hasSelect := read.legalActions.any fun legal =>
      match ((legal.get "action").get "kind").asStr with
      | some "select_card" | some "select_player" => true
      | _ => false
    let hasCancel := read.legalActions.any fun legal =>
      ((legal.get "action").get "kind").asStr = some "cancel_selection"
    guard (read.selectedIds ∪ legal.legalChoiceIds = read.visibleIds)
    guard ((read.remaining = 0 ↔ legal.hasConfirm) ∧ (0 < read.remaining ↔ hasSelect) ∧
      hasCancel ∧ selectedActionIsVisible value transition)

/-! ### The choices of a completion -/

/-- A completion goes on from the admitted catalog. -/
def completionMatchesAdmission (transition : Json) (admissions : Admissions)
    (lifecycle : SelectorLifecycle) : Bool :=
  Option.isSome do
    let selectionId ← (transition.get "selection_id").asStr
    guard (identity (transition.get "selection_id"))
    let admission ← admissions[selectionId]?
    let selectedIds ← idsSet (← (transition.get "selected_choice_ids").asArray)
    guard (admission.lifecycle = lifecycle ∧
      admission.optionId = (transition.get "rest_option_id").asStr.getD "" ∧
      admission.selectionKind = (transition.get "selection_kind").asStr.getD "" ∧
      admission.requiredCount = (transition.get "required_count").asU64.getD 0 ∧
      admission.generation = (transition.get "before_generation").asU64.getD (2 ^ 64 - 1) ∧
      admission.selectedChoiceIds ⊆ selectedIds ∧ selectedIds ⊆ admission.choiceIds)

/-- A completion chooses from the admitted catalog. -/
def completedSelectionIdsAreValid (transition : Json) (admissions : Admissions) : Bool :=
  Option.isSome do
    let selected ← (transition.get "selected_choice_ids").asArray
    let expectedKind ← expectedSelectionKind (transition.get "rest_option_id").asStr
    guard ((transition.get "selection_kind").asStr = some expectedKind)
    let selectionId ← (transition.get "selection_id").asStr
    let admission ← admissions[selectionId]?
    let selectedIds ← idsSet selected
    guard (selected.all identity ∧ admission.selectionKind = expectedKind ∧
      selectedIds ⊆ admission.choiceIds)

end Sts2Gateway.RestAction
