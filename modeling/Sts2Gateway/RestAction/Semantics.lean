/-
What an answer to a rest-site action has to say
(`runtime_v4_expert_rest_action_semantics.rs`, `runtime_v4_expert_rest_action_observation.rs`).

* `evidenceHasEffect`, `completedEffectValid`: the witness of an effect, option by option;
* `completedSelectionValid`: a transition that completes a selection;
* `settled`: **an answer that settles its operation**;
* `responseValid`: an answer against its request, its route and the admitted catalogs.
-/
import Mathlib.Tactic
import Sts2Gateway.RestAction.Selection

namespace Sts2Gateway.RestAction

open CompactJson

/-! ### Effects -/

def hpEvidenceHasEffect (evidence : Json) : Bool :=
  Option.isSome do
    let before ← (evidence.get "hp_before").asU64
    let after ← (evidence.get "hp_after").asU64
    let maxBefore ← (evidence.get "max_hp_before").asU64
    let maxAfter ← (evidence.get "max_hp_after").asU64
    guard ((evidence.get "kind").asStr = some "hp_change" ∧ before ≤ maxBefore ∧
      after ≤ maxAfter ∧ before < after)

def nativeEvidenceMatches (value evidence : Json) : Bool :=
  (evidence.get "kind").asStr = some "native_completion" &&
    identity (evidence.get "completion_id") &&
    evidence.get "native_state_id" = (value.get "observation").get "state_id"

/-- Evidence of one kind that names at least one thing. -/
def changeEvidence (kind field : String) (evidence : Json) : Bool :=
  (evidence.get "kind").asStr = some kind &&
    (evidence.get field).asArray.any fun ids => !ids.isEmpty

def evidenceHasEffect (value witness : Json) (option : String) : Bool :=
  let evidence := witness.get "evidence"
  match option with
  | "heal" => hpEvidenceHasEffect evidence
  | "mend" =>
    match (evidence.get "kind").asStr with
    | some "hp_change" => hpEvidenceHasEffect evidence
    | some "native_completion" => nativeEvidenceMatches value evidence
    | _ => false
  | "smith" => changeEvidence "card_change" "upgraded_card_ids" evidence
  | "clone" => changeEvidence "card_change" "added_card_ids" evidence
  | "cook" => changeEvidence "card_change" "removed_card_ids" evidence
  | "dig" | "hatch" => changeEvidence "relic_change" "added_relic_ids" evidence
  | "kindle" => nativeEvidenceMatches value evidence
  | "lift" =>
    match (evidence.get "kind").asStr with
    | some "stat_change" => true
    | some "native_completion" => nativeEvidenceMatches value evidence
    | _ => false
  | _ => false

/-- The kind of the witness of an option. -/
def expectedEffect (option : String) : Option String :=
  match option with
  | "clone" => some "clone_applied"
  | "cook" => some "cook_applied"
  | "dig" => some "dig_applied"
  | "hatch" => some "hatch_applied"
  | "heal" => some "heal_applied"
  | "kindle" => some "kindle_applied"
  | "lift" => some "lift_applied"
  | "smith" => some "smith_applied"
  | "mend" => some "mend_applied"
  | _ => none

/-- The witness of a completed selection is about the choices that were made. -/
def witnessMatchesChoices (root transition : Json) (option : String) : Bool :=
  match option with
  | "smith" =>
    (root.get "evidence").get "upgraded_card_ids" = transition.get "selected_choice_ids"
  | "mend" =>
    root.get "target_player_id" =
      ((transition.get "selected_choice_ids").asArray.bind List.head?).getD .null
  | _ => true

def completedEffectValid (value transition : Json) : Bool :=
  Option.isSome do
    let root ← (value.get "effect_witness").object
    guard (transition.get "effect_witness" = value.get "effect_witness" ∧
      (root.get "version").asStr = some "rest-effect-witness-v1" ∧
      root.get "operation_id" = value.get "operation_id" ∧
      root.get "rest_option_id" = transition.get "rest_option_id" ∧
      root.get "generation" = value.get "generation")
    let option ← (transition.get "rest_option_id").asStr
    let expected ← expectedEffect option
    guard ((root.get "kind").asStr = some expected ∧ evidenceHasEffect value root option)
    guard ((transition.get "kind").asStr = some "rest_option_selection_completed" →
      witnessMatchesChoices root transition option)

def completedOptionValid (value transition : Json) : Bool :=
  (transition.get "completed").asBool = some true && completedEffectValid value transition

/-- The retained catalog binds the choices of a completion, when the selector is gone. -/
def completedSelectionValid (value transition : Json) (admissions : Admissions) : Bool :=
  Option.isSome do
    let lifecycle ← SelectorLifecycle.fromValue value
    let selected ← (transition.get "selected_choice_ids").asArray
    guard ((transition.get "remaining_count").asU64 = some 0 ∧
      (transition.get "completed").asBool = some true ∧
      (transition.get "required_count").asU64 = some selected.length)
    guard (completionMatchesAdmission transition admissions lifecycle ∧
      completedSelectionIdsAreValid transition admissions ∧ completedEffectValid value transition)

/-! ### Answers -/

def httpStatusMatches (status : String) (code : UInt16) : Bool :=
  match status with
  | "accepted" => code = 202
  | "settled" => code = 200
  | "rejected" => code = 400 || code = 409
  | "unknown" => code = 404 || code = 408 || code = 502 || code = 504
  | "cancelled" => code = 499
  | _ => false

def operationMatches (value request : Json) (routeOperation : Option String) : Bool :=
  (routeOperation.or (request.get "operation_id").asStr).any fun operationId =>
    (value.get "operation_id").asStr = some operationId

def actionMatchesRequest (value request : Json) : Bool :=
  request.isNull || value.get "action" = request.get "action"

def generationShape (value request : Json) (status : String) : Bool :=
  (value.get "generation").asU64.any fun generation =>
    generation ≤ maxGeneration &&
      (status = "settled" || request.isNull || value.get "generation" = request.get "generation")

def accepted (value : Json) : Bool :=
  (value.get "action").object.isSome && (value.get "observation").isNull &&
    (value.get "transition").isNull && (value.get "effect_witness").isNull &&
    (value.get "error_code").isNull

def rejectedOrUncertain (value : Json) : Bool :=
  (value.get "action").object.isSome && (value.get "observation").isNull &&
    (value.get "transition").isNull && (value.get "effect_witness").isNull &&
    identity (value.get "error_code")

def transitionGenerations (transition value request : Json) : Bool :=
  Option.isSome do
    let before ← (transition.get "before_generation").asU64
    let after ← (transition.get "after_generation").asU64
    let generation ← (value.get "generation").asU64
    guard (before < after ∧ after = generation)
    guard (request.isNull ∨ (request.get "generation").asU64 = some before)

/-- The last of the choices that are made by the end of a transition. -/
def lastChoice (transition : Json) : Option Json :=
  (transition.get "selected_choice_ids").asArray.bind List.getLast?

def actionMatchesProgress (transition payload : Json) (actionKind : String) : Bool :=
  let expected := match (transition.get "selection_kind").asStr with
    | some "card" => some "select_card"
    | some "player" => some "select_player"
    | _ => none
  some actionKind = expected && payload.member "selection_id" = transition.member "selection_id" &&
    (lastChoice transition).any fun choice =>
      (payload.member "card_id").or (payload.member "player_id") = some choice

def actionMatchesCompletion (transition payload : Json) (actionKind : String) : Bool :=
  payload.member "selection_id" = transition.member "selection_id" &&
    match (transition.get "selection_kind").asStr, actionKind with
    | _, "confirm_selection" => true
    | some "card", "select_card" => payload.member "card_id" = lastChoice transition
    | some "player", "select_player" => payload.member "player_id" = lastChoice transition
    | _, _ => false

def actionMatchesTransition (value transition : Json) : Bool :=
  Option.isSome do
    let payload ← ((value.get "action").get "action").object
    let actionKind ← (payload.get "kind").asStr
    let optionId ← (transition.get "rest_option_id").asStr
    guard ((payload.get "rest_option_id").asStr = some optionId)
    guard (match (transition.get "kind").asStr with
      | some "rest_option_completed" | some "rest_option_selection_requested" =>
        actionKind = "rest_option"
      | some "rest_option_selection_progressed" =>
        actionMatchesProgress transition payload actionKind
      | some "rest_option_selection_completed" =>
        actionMatchesCompletion transition payload actionKind
      | _ => false : Bool)

section Schema

variable [RestActionSchema]

def observationValid (value : Json) : Bool :=
  (value.get "protocol_version").asStr = some observationProtocolVersion &&
    (value.get "schema_digest").asStr = some observationSchemaDigest &&
    RestActionSchema.observationIsValid value

/-- The observation and the transition of an answer that settles its operation. -/
def settledEvidence (value request : Json) : Bool :=
  let observation := value.get "observation"
  let transition := value.get "transition"
  observation.object.isSome && observationValid observation &&
    observation.get "state_id" = value.get "state_id" &&
    observation.get "generation" = value.get "generation" &&
    transition.object.isSome && transitionGenerations transition value request &&
    actionMatchesTransition value transition

def settled (value request : Json) (admissions : Admissions) : Bool :=
  let transition := value.get "transition"
  settledEvidence value request &&
    match (transition.get "kind").asStr with
    | some "rest_option_selection_requested" | some "rest_option_selection_progressed" =>
      (transition.get "effect_witness").isNull && (value.get "effect_witness").isNull &&
        selectorValid value transition admissions request.isNull
    | some "rest_option_selection_completed" => completedSelectionValid value transition admissions
    | some "rest_option_completed" => completedOptionValid value transition
    | _ => false

def responseValid (value request : Json) (routeOperation : Option String) (statusCode : UInt16)
    (admissions : Admissions) : Bool :=
  (value.get "status").asStr.any fun status =>
    httpStatusMatches status statusCode && operationMatches value request routeOperation &&
      actionMatchesRequest value request && generationShape value request status &&
      match status with
      | "accepted" => accepted value
      | "settled" => settled value request admissions
      | "rejected" | "unknown" | "cancelled" => rejectedOrUncertain value
      | _ => false

end Schema

end Sts2Gateway.RestAction
