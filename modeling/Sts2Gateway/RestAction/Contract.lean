/-
The data of the candidate rest-site actions (`runtime_v4_expert_rest_action.rs`,
`runtime_v4_expert_rest_action_forwarder_operations.rs`,
`runtime_v4_expert_rest_action_selection_admission.rs`).

* `Route`: the dispatch of an action, and the reconciliation of an operation;
* `SelectorLifecycle`, `SelectorAdmission`: **the catalog of a selection**, and the lease
  that it was seen under;
* `OperationStatus`, `OperationBinding`: what is retained of an operation;
* `Forwarder`: the three tables.

The two schemas are checked by validators outside this repository.  A member that a schema
requires is read as `null` where there is none.
-/
import Mathlib.Tactic
import Sts2Gateway.GameInformation.Payload
import Sts2Gateway.Library.OrderedMap

namespace Sts2Gateway.RestAction

open CompactJson Service
open Std (ExtTreeMap)

/-- The validators of the schema of the envelope and of that of the observation. -/
class RestActionSchema where
  isValid : Json → Bool
  observationIsValid : Json → Bool

/-! ### Routes and bounds -/

inductive Route where
  | dispatch
  | reconcile (operationId : String)
deriving DecidableEq, Repr

namespace Route

def isDispatch : Route → Bool
  | .dispatch => true
  | .reconcile _ => false

def operationId : Route → Option String
  | .dispatch => none
  | .reconcile operationId => some operationId

end Route

def protocolVersion : String := "runtime-v4-expert-rest-action-v1"
def schemaDigest : String := "bb3555fae28eb1f79d08a15e9884696a579e4c20836f5016509f17e0f4c36fbd"
def profile : String := "expert-rest-action"
def observationProtocolVersion : String := "runtime-v4-expert"
def observationSchemaDigest : String :=
  "0ee034d5da83f34e9fa0ba23038738d56ef8cfccb1c6e752af3ab63d212c8e42"
def nativeRequestBodyBytes : ℕ := 16 * 1024
def nativeIdentityBytes : ℕ := 128
def maxGeneration : ℕ := 9007199254740991
def maxOperationBindings : ℕ := 256
def maxSelectorAdmissions : ℕ := 128

/-! ### Identities -/

def identityString (value : String) (maxBytes : ℕ) : Bool :=
  !value.isEmpty && value.utf8ByteSize ≤ maxBytes && !Text.containsBytes value ".." &&
    Text.allBytes value fun byte =>
      Text.isAsciiAlphanumeric byte || byte == 45 || byte == 95 || byte == 46 || byte == 58 ||
        byte == 47

def identity (value : Json) : Bool :=
  value.asStr.any fun value => identityString value nativeIdentityBytes

/-- The texts of a list, each of them there once. -/
def distinctTexts (values : List Json) : Option (Finset String) :=
  values.foldlM
    (fun ids value => do
      let id ← value.asStr
      guard (id ∉ ids)
      return insert id ids) ∅

def idsSet (values : List Json) : Option (Finset String) :=
  if values.all identity then distinctTexts values else none

/-! ### Selections -/

structure SelectorLifecycle where
  instanceId : String
  sessionId : String
  leaseId : String
  leaseEpoch : ℕ
deriving DecidableEq, Repr

def SelectorLifecycle.fromValue (value : Json) : Option SelectorLifecycle := do
  return {
    instanceId := ← (value.get "instance_id").asStr
    sessionId := ← (value.get "session_id").asStr
    leaseId := ← (value.get "lease_id").asStr
    leaseEpoch := ← (value.get "lease_epoch").asU64 }

structure SelectorAdmission where
  optionId : String
  selectionKind : String
  requiredCount : ℕ
  generation : ℕ
  lifecycle : SelectorLifecycle
  choiceIds : Finset String
  selectedChoiceIds : Finset String
  legalActions : ExtTreeMap String Json compare
deriving DecidableEq

abbrev Admissions := ExtTreeMap String SelectorAdmission compare

/-- The card or the player that a legal action chooses. -/
def selectionChoiceId (legal : Json) : Option String := do
  let action ← (legal.get "action").object
  match (action.get "kind").asStr with
  | some "select_card" => (action.get "card_id").asStr
  | some "select_player" => (action.get "player_id").asStr
  | _ => none

/-- The legal actions of a selector, by their identity. -/
def legalActionsOf (legalActions : List Json) : Option (ExtTreeMap String Json compare) :=
  legalActions.foldlM
    (fun actions legal => do
      let actionId ← (legal.get "action_id").asStr
      guard (actionId ∉ actions)
      return actions.insert actionId (legal.get "action")) ∅

/-- The catalog that a transition opens or goes on with. -/
def admissionFromTransition (transition : Json) (lifecycle : SelectorLifecycle) :
    Option (String × SelectorAdmission) := do
  let selector ← (transition.get "selector").object
  let selectionId ← (selector.get "selection_id").asStr
  let optionId ← (transition.get "rest_option_id").asStr
  let selectionKind ← (selector.get "selection_kind").asStr
  let requiredCount ← (selector.get "required_count").asU64
  let generation ← (transition.get "after_generation").asU64
  let selectedChoiceIds ← distinctTexts (← (selector.get "selected_choice_ids").asArray)
  let legal ← (selector.get "legal_actions").asArray
  let legalActions ← legalActionsOf legal
  return (selectionId, {
    optionId, selectionKind, requiredCount, generation, lifecycle
    choiceIds := selectedChoiceIds ∪ (legal.filterMap selectionChoiceId).toFinset
    selectedChoiceIds, legalActions })

/-! ### Operations -/

inductive OperationStatus where
  | pending
  | accepted
  | unknown
  | settled
  | rejected
  | cancelled
deriving DecidableEq, Repr

namespace OperationStatus

def fromResponse (value : Json) : Option OperationStatus :=
  match (value.get "status").asStr with
  | some "accepted" => some .accepted
  | some "unknown" => some .unknown
  | some "settled" => some .settled
  | some "rejected" => some .rejected
  | some "cancelled" => some .cancelled
  | _ => none

def isTerminal : OperationStatus → Bool
  | .settled | .rejected | .cancelled => true
  | .pending | .accepted | .unknown => false

end OperationStatus

/-- What is retained of an operation: its request, its status, the catalog that admitted it,
and the catalog that its selection was completed with. -/
structure OperationBinding where
  action : Json
  generation : ℕ
  stateId : String
  instanceId : String
  sessionId : String
  leaseId : String
  leaseEpoch : ℕ
  status : OperationStatus
  selectorContext : Option (String × SelectorAdmission)
  completedSelector : Option (String × SelectorAdmission)
deriving DecidableEq

abbrev Bindings := ExtTreeMap String OperationBinding compare

namespace OperationBinding

variable (binding : OperationBinding)

/-- A request for the operation as it was retained. -/
def isReplay (value : Json) : Bool :=
  binding.action = value.get "action" &&
    binding.generation = (value.get "generation").asU64.getD (2 ^ 64 - 1) &&
    (value.get "state_id").asStr = some binding.stateId &&
    (value.get "instance_id").asStr = some binding.instanceId &&
    (value.get "session_id").asStr = some binding.sessionId &&
    (value.get "lease_id").asStr = some binding.leaseId &&
    binding.leaseEpoch = (value.get "lease_epoch").asU64.getD (2 ^ 64 - 1)

/-- The lease that the operation was retained under. -/
def lifecycle : SelectorLifecycle where
  instanceId := binding.instanceId
  sessionId := binding.sessionId
  leaseId := binding.leaseId
  leaseEpoch := binding.leaseEpoch

/-- The selection that the action is about. -/
def selectionId : Option String := ((binding.action.get "action").get "selection_id").asStr

end OperationBinding

/-! ### The forwarder -/

inductive ForwardError where
  | requestBodyRequired
  | requestBodyForbidden
  | requestBodyOversized
  | requestBodyMalformed
  | operationCapacity
  | selectorCapacity
  | responseOversized
  | responseMalformed
deriving DecidableEq, Repr

structure Forwarder where
  maxRequestBytes : ℕ
  maxResponseBytes : ℕ
  selectorAdmissions : Admissions
  selectorReservations : Finset String
  operationBindings : Bindings
deriving DecidableEq

def Forwarder.new (maxRequestBytes maxResponseBytes : ℕ) : Forwarder where
  maxRequestBytes
  maxResponseBytes
  selectorAdmissions := ∅
  selectorReservations := ∅
  operationBindings := ∅

end Sts2Gateway.RestAction
