/-
The Runtime-v2 operation ledger (`runtime_v2/ledger.rs`, `ledger_dispatch.rs`,
`ledger_persistence.rs`, `ledger_receipts.rs`).

A method on `&mut self` is a procedure on `CallState`, the ledger and the log of
what the call asked the outside: the forwarding port, the receipt port and the
caller's checkpoint.  Their answers come from an `Environment` and may depend on
everything the call did before.

* `Ledger`, `PersistedState`, `Ledger.persistedState`, `Ledger.restoreState`;
* `submitActionInner`, `cancelBeforeDispatchInner`, `reconcileInner`,
  `acceptStateResponseInner`: the four operations behind the public methods;
* `Call`, `Call.run`: the public methods, with and without owner authority;
* `Ledger.perform`: one call on a ledger, with its answer and its log.
-/
import Mathlib
import Sts2Gateway.Library.Exchange
import Sts2Gateway.RuntimeV2.Binding

namespace Sts2Gateway.RuntimeV2

open Procedure Exchange

/-! ### Data -/

structure LedgerConfig where
  operationCapacity : ℕ
deriving DecidableEq, Repr

structure Operation where
  requestDigest : UInt64
  canonicalRequest : ByteArray
  request : Message
  result : Option Message
deriving DecidableEq

/-- The retained operations in key order. -/
abbrev Operations := Std.ExtTreeMap OperationKey Operation

structure Ledger where
  config : LedgerConfig
  binding : Binding
  recovery : Option RecoveryContract
  operations : Operations

structure PersistedOperation where
  request : Message
  result : Option Message
deriving DecidableEq, Repr

/-- The state needed to reconstruct a ledger after a restart. -/
structure PersistedState where
  instanceId : String
  sessionId : String
  leaseId : String
  leaseEpoch : ℕ
  bootEpoch : Option String
  observation : Observation
  operations : List PersistedOperation
deriving DecidableEq, Repr

/-- A read-only retained-receipt lookup. -/
structure ReceiptRequest where
  message : Message
  key : OperationKey
  action : Action
deriving DecidableEq, Repr

inductive TransportFault where
  | unavailableBeforeWrite
  | rejectedBeforeWrite
  | timeoutBeforeWrite
  | disconnectedBeforeWrite
  | timeoutAfterWrite
  | disconnectedAfterWrite
  | malformedResponse
  | receiptUnavailable
deriving DecidableEq, Repr

inductive LedgerError where
  | invalidRequest (error : ValidationError)
  | missingOperationId
  | capacityExceeded
  | operationNotFound
  | operationInProgress
  | fence (failure : FenceFailure)
  | staleGeneration (expected actual : ℕ)
  | zeroCapacity
  | persistedStateMismatch
  | persistedStateInvalid
  | persistenceFailed
  | recovery (error : RecoveryError)
deriving DecidableEq, Repr

/-! ### The outside of a call -/

/-- One exchange of a call with the outside.  A checkpoint is handed the
persisted state of the ledger it names. -/
inductive Event where
  | checkpoint (presented : Ledger) (ok : Bool)
  | forward (request : Message) (answer : Except TransportFault Message)
  | receipt (request : ReceiptRequest) (answer : Except TransportFault (Option Message))

/-- The outside of a call: each answer may depend on the call's log. -/
structure Environment where
  checkpoint : List Event → PersistedState → Bool
  forward : List Event → Message → Except TransportFault Message
  receipt : List Event → ReceiptRequest → Except TransportFault (Option Message)

abbrev CallState := Exchange.CallState Ledger Event

abbrev LedgerM := CallM LedgerError Ledger Event

namespace Ledger

/-! ### Construction and persistence -/

def newInner (config : LedgerConfig) (binding : Binding) (recovery : Option RecoveryContract) :
    Except LedgerError Ledger := do
  refuse (config.operationCapacity = 0) .zeroCapacity
  return { config, binding, recovery, operations := ∅ }

/-- A ledger with a fixed positive capacity. -/
def new (config : LedgerConfig) (binding : Binding) : Except LedgerError Ledger :=
  newInner config binding none

/-- A workflow ledger whose operations require the owner authority proof. -/
def newWithRecoveryContract (config : LedgerConfig) (contract : RecoveryContract)
    (observation : Observation) : Except LedgerError Ledger := do
  let binding ← (Binding.withAuthority contract.authority observation).mapError .invalidRequest
  newInner config binding (some contract)

def persistedState (ledger : Ledger) : PersistedState where
  instanceId := ledger.binding.instanceId
  sessionId := ledger.binding.sessionId
  leaseId := ledger.binding.leaseId
  leaseEpoch := ledger.binding.leaseEpoch
  bootEpoch := ledger.binding.bootEpoch
  observation := ledger.binding.observation
  operations := ledger.operations.toList.map fun (_, operation) =>
    { request := operation.request, result := operation.result }

/-- The binding after the gateway learned an observation. -/
def observe (ledger : Ledger) (observation : Observation) : Ledger :=
  { ledger with binding := { ledger.binding with observation } }

@[simp] lemma observe_self (ledger : Ledger) :
    ledger.observe ledger.binding.observation = ledger := rfl

/-! ### Request checks and results -/

def validateContext (ledger : Ledger) (request : Message) : Except LedgerError Unit :=
  match ledger.binding.fenceFailure request with
  | some failure => .error (.fence failure)
  | none => .ok ()

/-- A result for a request in the binding's identity, validated before it is used. -/
def resultResponse (ledger : Ledger) (request : Message) (status : Status)
    (observation : Option Observation) (errorCode : Option String)
    (effectWitness : Option EffectWitness) (kind : MessageKind) : Except LedgerError Message :=
  match request.operationId, request.action with
  | none, _ => .error .missingOperationId
  | some _, none => .error (.invalidRequest .resultShape)
  | some operationId, some action => do
    let generation := observation.elim request.generation (·.generation)
    let response := Message.result ledger.binding.metadata request.correlationId
      ledger.binding.instanceId ledger.binding.sessionId ledger.binding.leaseId
      ledger.binding.leaseEpoch generation operationId action status observation errorCode
      effectWitness kind
    response.validate.mapError .invalidRequest
    return response

def rejectedResponse (ledger : Ledger) (request : Message) (errorCode : String)
    (observation : Observation) : Except LedgerError Message :=
  ledger.resultResponse request .rejected (some observation) (some errorCode) none .actionResponse

/-- The four `unknown` results of the ledger: they differ in their error code. -/
def unknownResponse (ledger : Ledger) (request : Message) (errorCode : String) :
    Except LedgerError Message :=
  ledger.resultResponse request .unknown none (some errorCode) none .actionResponse

def restartUncertainResponse (ledger : Ledger) (request : Message) : Except LedgerError Message :=
  ledger.unknownResponse request "sts2.runtime/restart_uncertain"

def persistenceUncertainResponse (ledger : Ledger) (request : Message) :
    Except LedgerError Message :=
  ledger.unknownResponse request "sts2.runtime/persistence_uncertain"

/-- A downstream answer that the ledger cannot use. -/
def unknownAfterDisconnect (ledger : Ledger) (request : Message) : Except LedgerError Message :=
  ledger.unknownResponse request "sts2.runtime/unknown_after_disconnect"

end Ledger

def validateActionRequest (request : Message) : Except LedgerError Unit := do
  request.validate.mapError .invalidRequest
  refuse (request.kind ≠ .actionRequest) (.invalidRequest .resultShape)

def validateReconcileRequest (request : Message) : Except LedgerError Unit := do
  request.validate.mapError .invalidRequest
  refuse (request.kind ≠ .reconcileRequest) (.invalidRequest .resultShape)

def keyFor (request : Message) : Except LedgerError OperationKey :=
  match request.operationKey with
  | some key => .ok key
  | none => .error .missingOperationId

/-- An operation with the duplicate-check data of its request. -/
def Operation.retained (request : Message) (result : Option Message) : Operation where
  requestDigest := request.requestDigest
  canonicalRequest := request.idempotencyCanonicalJson
  request := request
  result := result

/-- All ten fields a downstream answer must repeat. -/
def responseMatchesRequest (request response : Message) : Bool :=
  response.protocolVersion = request.protocolVersion && response.schemaDigest = request.schemaDigest
    && response.provenance = request.provenance && response.correlationId = request.correlationId
    && response.instanceId = request.instanceId && response.sessionId = request.sessionId
    && response.leaseId = request.leaseId && response.leaseEpoch = request.leaseEpoch
    && response.operationId = request.operationId && response.action = request.action

def asReconcileResponse (result request : Message) : Message :=
  { result with kind := .reconcileResponse, correlationId := request.correlationId }

namespace Ledger

def replayOrConflict (ledger : Ledger) (existing : Operation) (request : Message) :
    Except LedgerError Message :=
  if existing.requestDigest = request.requestDigest ∧
      existing.canonicalRequest = request.idempotencyCanonicalJson then
    match existing.result with
    | none => .error .operationInProgress
    | some result => .ok { result with correlationId := request.correlationId }
  else
    ledger.resultResponse request .rejected (some ledger.binding.observation)
      (some "idempotency_conflict") none .actionResponse

def retain (ledger : Ledger) (key : OperationKey) (request result : Message) : Ledger :=
  { ledger with operations := ledger.operations.insert key (.retained request (some result)) }

/-- An operation that is about to be dispatched: its result is still missing. -/
def begin (ledger : Ledger) (key : OperationKey) (request : Message) : Ledger :=
  { ledger with operations := ledger.operations.insert key (.retained request none) }

def setResult (ledger : Ledger) (key : OperationKey) (result : Message) : Ledger :=
  { ledger with operations :=
      ledger.operations.modify key fun operation => { operation with result := some result } }

def remove (ledger : Ledger) (key : OperationKey) : Ledger :=
  { ledger with operations := ledger.operations.erase key }

/-! ### Restart -/

/-- One persisted row: in-flight or merely accepted work becomes `unknown`. -/
def restoreOperation (ledger : Ledger) (persisted : Observation) (restored : Operations)
    (row : PersistedOperation) : Except LedgerError Operations := do
  (validateActionRequest row.request).mapError fun _ => .persistedStateInvalid
  (ledger.validateContext row.request).mapError fun _ => .persistedStateInvalid
  let key ← (keyFor row.request).mapError fun _ => .persistedStateInvalid
  refuse (key ∈ restored) .persistedStateInvalid
  let result ← match row.result with
    | none => ledger.restartUncertainResponse row.request
    | some result => do
      refuse (¬ responseMatchesRequest row.request result ∨ ¬ result.validate.isOk ∨
        result.kind ≠ .actionResponse ∨
        result.observation.any (fun observation => persisted.generation < observation.generation) ∨
        (result.status = some .settled ∧ result.generation ≤ row.request.generation) ∨
        (result.status = some .accepted ∧ result.generation ≠ row.request.generation))
        .persistedStateInvalid
      if result.status = some .accepted then ledger.restartUncertainResponse row.request
      else pure result
  return restored.insert key (.retained row.request (some result))

/-- Restores state; an error leaves the ledger as it was. -/
def restoreState (ledger : Ledger) (persisted : PersistedState) : Except LedgerError Ledger := do
  refuse (persisted.instanceId ≠ ledger.binding.instanceId ∨
    persisted.sessionId ≠ ledger.binding.sessionId ∨ persisted.leaseId ≠ ledger.binding.leaseId ∨
    persisted.leaseEpoch ≠ ledger.binding.leaseEpoch ∨
    persisted.bootEpoch ≠ ledger.binding.bootEpoch) .persistedStateMismatch
  persisted.observation.validate.mapError fun _ => .persistedStateInvalid
  refuse (ledger.config.operationCapacity < persisted.operations.length) .persistedStateInvalid
  let restored ← persisted.operations.foldlM (ledger.restoreOperation persisted.observation) ∅
  return { ledger.observe persisted.observation with operations := restored }

/-! ### Authority -/

def rejectImplicitWorkflowAuthority (ledger : Ledger) : Except LedgerError Unit :=
  refuse ledger.recovery.isSome (.recovery .authorityRequired)

def validateWorkflowAuthority (ledger : Ledger) (authority : Authority) (needsReceipt : Bool) :
    Except LedgerError Unit :=
  match ledger.recovery with
  | none => .error (.recovery .authorityRequired)
  | some contract => do
    (contract.validateAuthority authority).mapError .recovery
    if needsReceipt then contract.requireReceiptAccess.mapError .recovery else pure ()

end Ledger

/-! ### Exchanges with the outside -/

/-- Hands the persisted state to the caller's checkpoint. -/
@[simp] def checkpoint (env : Environment) : LedgerM Bool :=
  exchange (fun events ledger => env.checkpoint events ledger.persistedState) .checkpoint

@[simp] def forwardRuntimeV2 (env : Environment) (request : Message) :
    LedgerM (Except TransportFault Message) :=
  exchange (fun events _ => env.forward events request) fun _ => .forward request

@[simp] def readRuntimeV2Receipt (env : Environment) (request : ReceiptRequest) :
    LedgerM (Except TransportFault (Option Message)) :=
  exchange (fun events _ => env.receipt events request) fun _ => .receipt request

/-! ### Accepting downstream answers -/

def responseForTransportFault (request : Message) (fault : TransportFault) : LedgerM Message := do
  let ledger ← getState
  let rejected (errorCode : String) :=
    ledger.rejectedResponse request errorCode ledger.binding.observation
  match fault with
  | .unavailableBeforeWrite => rejected "sts2.runtime/downstream_unavailable"
  | .rejectedBeforeWrite => rejected "sts2.runtime/downstream_rejected"
  | .timeoutBeforeWrite => rejected "sts2.runtime/timeout_before_write"
  | .disconnectedBeforeWrite => rejected "sts2.runtime/disconnected_before_write"
  | .timeoutAfterWrite | .disconnectedAfterWrite | .malformedResponse | .receiptUnavailable =>
    ledger.unknownAfterDisconnect request

/-- The forwarded answers that are retained as they are, by status. -/
def acceptsForwarded (ledger : Ledger) (request response : Message) : Bool :=
  match response.status with
  | some .accepted =>
    response.observation.any (fun observation =>
      observation.generation = request.generation && observation = ledger.binding.observation)
      && response.effectWitness.isNone && response.errorCode.isNone
  | some .settled =>
    response.observation.any (fun observation => request.generation < observation.generation)
      && response.effectWitness.any (fun witness => witness.generation = response.generation)
  | some .rejected =>
    response.observation.any (fun observation =>
      observation.generation = ledger.binding.observation.generation)
      && response.effectWitness.isNone && response.errorCode.isSome
  | some .unknown | some .cancelled | none => false

/-- Only a settled answer advances the gateway's observation. -/
def Ledger.learnForwarded (ledger : Ledger) (response : Message) : Ledger :=
  match response.status, response.observation with
  | some .settled, some observation => ledger.observe observation
  | _, _ => ledger

def acceptForwardedResponse (request response : Message) : LedgerM Message := do
  let ledger ← getState
  if ¬ responseMatchesRequest request response ∨ ¬ response.validate.isOk ∨
      response.kind ≠ .actionResponse ∨ ¬ acceptsForwarded ledger request response then
    ledger.unknownAfterDisconnect request
  else do
    modifyState (·.learnForwarded response)
    return response

/-- The result of a dispatch, from what the forwarding port answered. -/
def resolveForwarded (request : Message) : Except TransportFault Message → LedgerM Message
  | .ok response => acceptForwardedResponse request response
  | .error fault => responseForTransportFault request fault

/-- The receipts that replace an accepted or unknown result, by status. -/
def acceptsReceipt (actionRequest receipt : Message) : Bool :=
  match receipt.status with
  | some .settled =>
    receipt.observation.any (fun observation => actionRequest.generation < observation.generation)
      && receipt.effectWitness.any (fun witness => witness.generation = receipt.generation)
  | some .accepted | some .rejected =>
    receipt.observation.any (fun observation => observation.generation = actionRequest.generation)
  | _ => false

/-- A settled receipt advances the observation when it is ahead of it. -/
def Ledger.learnReceipt (ledger : Ledger) (receipt : Message) : Ledger :=
  match receipt.status, receipt.observation with
  | some .settled, some observation =>
    if ledger.binding.observation.generation < observation.generation then
      ledger.observe observation
    else ledger
  | _, _ => ledger

/-- The retained form of a receipt: replayable for the original request. -/
def storedReceipt (actionRequest receipt : Message) : Message :=
  { receipt with correlationId := actionRequest.correlationId }

/-- Accepts a receipt for the original request. -/
def acceptReceipt (actionRequest reconcileRequest receipt : Message) :
    LedgerM (Option Message) := do
  let stored := storedReceipt actionRequest receipt
  if receipt.correlationId ≠ reconcileRequest.correlationId ∨
      ¬ responseMatchesRequest actionRequest stored ∨ ¬ receipt.validate.isOk ∨
      receipt.kind ≠ .actionResponse ∨ ¬ acceptsReceipt actionRequest stored then
    return none
  else do
    modifyState (·.learnReceipt receipt)
    return some stored

/-! ### The four operations -/

/-- A request that the gateway refuses itself: retained, then made durable, and
dropped again when that fails. -/
def rejectBeforeDispatch (env : Environment) (key : OperationKey) (request : Message)
    (errorCode : String) : LedgerM Message := do
  let ledger ← getState
  let response ← ledger.rejectedResponse request errorCode ledger.binding.observation
  modifyState (·.retain key request response)
  if ← checkpoint env then
    return response
  else
    modifyState (·.remove key)
    throw .persistenceFailed

/-- An admitted request: durable without a result, forwarded once, then durable
with its result. -/
def dispatch (env : Environment) (key : OperationKey) (request : Message) : LedgerM Message := do
  modifyState (·.begin key request)
  if ← checkpoint env then
    let answer ← forwardRuntimeV2 env request
    let response ← resolveForwarded request answer
    modifyState (·.setResult key response)
    if ← checkpoint env then
      return response
    else
      let uncertain ← (← getState).persistenceUncertainResponse request
      modifyState (·.setResult key uncertain)
      return uncertain
  else
    modifyState (·.remove key)
    throw .persistenceFailed

/-- The phases in which the fixed action is refused. -/
def phaseError : CombatPhase → Option String
  | .outsideCombat => some "sts2.game-core/outside_combat"
  | .enemyTurn => some "sts2.game-core/not_player_turn"
  | .playerTurn => none

def submitActionInner (env : Environment) (request : Message) : LedgerM Message := do
  let ledger ← getState
  validateActionRequest request
  let key ← keyFor request
  ledger.validateContext request
  match ledger.operations[key]? with
  | some existing => ledger.replayOrConflict existing request
  | none =>
    if ledger.config.operationCapacity ≤ ledger.operations.size then
      throw .capacityExceeded
    else if request.generation ≠ ledger.binding.observation.generation then
      rejectBeforeDispatch env key request "sts2.game-core/stale_generation"
    else if ¬ ledger.binding.observation.hostReady then
      rejectBeforeDispatch env key request "sts2.runtime/host_not_ready"
    else
      match phaseError ledger.binding.observation.combatPhase with
      | some errorCode => rejectBeforeDispatch env key request errorCode
      | none => dispatch env key request

def cancelBeforeDispatchInner (request : Message) : LedgerM Message := do
  let ledger ← getState
  validateActionRequest request
  let key ← keyFor request
  ledger.validateContext request
  match ledger.operations[key]? with
  | some existing => ledger.replayOrConflict existing request
  | none =>
    if ledger.config.operationCapacity ≤ ledger.operations.size then
      throw .capacityExceeded
    else if request.generation ≠ ledger.binding.observation.generation then
      throw (.staleGeneration ledger.binding.observation.generation request.generation)
    else do
      let response ← ledger.resultResponse request .cancelled (some ledger.binding.observation)
        (some "sts2.runtime/cancelled_before_dispatch") none .actionResponse
      modifyState (·.retain key request response)
      return response

def reconcileInner (env : Environment) (request : Message) : LedgerM Message := do
  let ledger ← getState
  validateReconcileRequest request
  let key ← keyFor request
  ledger.validateContext request
  if request.generation ≠ ledger.binding.observation.generation then
    throw (.staleGeneration ledger.binding.observation.generation request.generation)
  else
    match ledger.operations[key]? with
    | none => throw .operationNotFound
    | some operation =>
      match operation.result with
      | none => throw .operationInProgress
      | some result =>
        if result.status ≠ some .accepted ∧ result.status ≠ some .unknown then
          return asReconcileResponse result request
        else
          match operation.request.action with
          | none => throw .missingOperationId
          | some action =>
            -- a fault of the receipt port reads as no receipt
            match ← readRuntimeV2Receipt env { message := request, key, action } with
            | .ok (some receipt) =>
              match ← acceptReceipt operation.request request receipt with
              | some accepted =>
                modifyState (·.setResult key accepted)
                return asReconcileResponse accepted request
              | none => return asReconcileResponse result request
            | _ => return asReconcileResponse result request

/-- Records an authoritative observation; it never dispatches. -/
def acceptStateResponseInner (request response : Message) : LedgerM Message := do
  let ledger ← getState
  if ¬ request.validate.isOk ∨ request.kind ≠ .stateRequest ∨ ¬ response.validate.isOk ∨
      response.kind ≠ .stateResponse ∨ ¬ responseMatchesRequest request response then
    throw (.invalidRequest .resultShape)
  else do
    ledger.validateContext request
    match response.observation with
    | none => throw (.invalidRequest .resultShape)
    | some observation =>
      if observation.generation < ledger.binding.observation.generation then
        throw (.staleGeneration ledger.binding.observation.generation observation.generation)
      else do
        modifyState (·.observe observation)
        return response

/-! ### The public methods -/

/-- The operation that a public method performs.  `submitAction` passes a
checkpoint that always succeeds. -/
inductive Method where
  | submitAction (request : Message)
  | submitActionWithCheckpoint (request : Message)
  | cancelBeforeDispatch (request : Message)
  | reconcile (request : Message)
  | acceptStateResponse (request response : Message)

/-- A public method with its arguments; an authority selects its
`_with_authority` variant. -/
structure Call where
  authority : Option Authority
  method : Method

/-- The environment of a method that passes the checkpoint `|_| Ok(())`. -/
def Environment.withoutCheckpoint (env : Environment) : Environment :=
  { env with checkpoint := fun _ _ => true }

def Method.run (env : Environment) : Method → LedgerM Message
  | .submitAction request => submitActionInner env.withoutCheckpoint request
  | .submitActionWithCheckpoint request => submitActionInner env request
  | .cancelBeforeDispatch request => cancelBeforeDispatchInner request
  | .reconcile request => reconcileInner env request
  | .acceptStateResponse request response => acceptStateResponseInner request response

/-- Only reconciliation needs retained receipts. -/
def Method.needsReceipt : Method → Bool
  | .reconcile _ => true
  | _ => false

/-- The admission check of a call: without an authority the ledger must have no
recovery contract, with one the contract must accept it. -/
def Ledger.authorize (ledger : Ledger) (call : Call) : Except LedgerError Unit :=
  match call.authority with
  | none => ledger.rejectImplicitWorkflowAuthority
  | some authority => ledger.validateWorkflowAuthority authority call.method.needsReceipt

/-- A public method: admission, then the operation behind it. -/
def Call.run (env : Environment) (call : Call) : LedgerM Message := do
  let ledger ← getState
  ledger.authorize call
  call.method.run env

/-- What one call leaves behind. -/
abbrev Outcome := Exchange.Outcome Ledger (Except LedgerError Message) Event

/-- One call of a public method on a ledger. -/
def Ledger.perform (ledger : Ledger) (env : Environment) (call : Call) : Outcome :=
  outcome (call.run env) ledger

end Sts2Gateway.RuntimeV2
