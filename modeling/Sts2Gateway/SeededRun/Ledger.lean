/-
The seeded-run ledger (`seeded_run/ledger.rs`, `ledger_responses.rs`,
`ledger_persistence.rs`).

* `Binding`, `Ledger`, `PersistedState`: the fixed identity with its moving
  generation, the retained operations and what is made durable of them;
* `Ledger.acceptForwarded`, `Ledger.acceptReceipt`: the answers that may be
  stored;
* `submitStartWithCheckpoint`, `reconcile`: the two operations;
* `Ledger.restoreState`: reading a persisted state back;
* `Ledger.perform`: one call on a ledger, with its answer and its log.
-/
import Mathlib
import Sts2Gateway.Library.Exchange
import Sts2Gateway.SeededRun.Contract

namespace Sts2Gateway.SeededRun

open Procedure Exchange Text

/-! ### Data -/

/-- Identity and lease fence of one isolated downstream instance. -/
structure Binding where
  instanceId : String
  sessionId : String
  leaseId : String
  leaseEpoch : ℕ
  generation : ℕ
deriving DecidableEq, Repr

structure LedgerConfig where
  operationCapacity : ℕ
deriving DecidableEq, Repr

structure Operation where
  requestDigest : ByteArray
  request : Message
  result : Option Message
deriving DecidableEq

/-- The retained operations in the order of their ids. -/
abbrev Operations := Std.ExtTreeMap String Operation

structure Ledger where
  config : LedgerConfig
  binding : Binding
  operations : Operations

structure PersistedOperation where
  request : Message
  result : Option Message
deriving DecidableEq, Repr

structure PersistedState where
  binding : Binding
  operations : List PersistedOperation
deriving DecidableEq, Repr

structure ReceiptRequest where
  message : Message
  operationId : String
deriving DecidableEq, Repr

inductive TransportFault where
  | unavailableBeforeWrite
  | timeout
  | malformedResponse
deriving DecidableEq, Repr

inductive LedgerError where
  | zeroCapacity
  | invalidBinding
  | invalidRequest
  | invalidResponse
  | capacityExceeded
  | operationNotFound
  | operationInProgress
  | operationConflict
  | staleGeneration
  | fenceRejected
  | persistenceFailed
deriving DecidableEq, Repr

/-! ### The outside of a call -/

/-- One exchange of a call with the outside.  A checkpoint is handed the
persisted state of the ledger it names. -/
inductive Event where
  | checkpoint (presented : Ledger) (ok : Bool)
  | forward (request : Message) (answer : Except TransportFault Message)
  | receipt (request : ReceiptRequest) (answer : Except TransportFault (Option Message))

/-- The outside of a call: each answer may depend on the call's log. -/
structure Environment where
  checkpoint : List Event → PersistedState → Bool
  forward : List Event → Message → Except TransportFault Message
  receipt : List Event → ReceiptRequest → Except TransportFault (Option Message)

abbrev CallState := Exchange.CallState Ledger Event

abbrev LedgerM := CallM LedgerError Ledger Event

/-! ### Bindings -/

namespace Binding

def new (instanceId sessionId leaseId : String) (leaseEpoch generation : ℕ) :
    Except LedgerError Binding := do
  [instanceId, sessionId, leaseId].forM fun identity =>
    refuse (¬ safeIdentity identity) .invalidBinding
  refuse (maxGeneration < leaseEpoch ∨ maxGeneration < generation) .invalidBinding
  return { instanceId, sessionId, leaseId, leaseEpoch, generation }

/-- The request has the binding's identity; its generation is not looked at. -/
def accepts (b : Binding) (request : Message) : Bool :=
  b.instanceId = request.instanceId && b.sessionId = request.sessionId &&
    b.leaseId = request.leaseId && b.leaseEpoch = request.leaseEpoch

end Binding

/-! ### Answers and results -/

/-- An operation with the duplicate-check data of its request. -/
def Operation.retained (request : Message) (result : Option Message) : Operation where
  requestDigest := request.canonicalRequest
  request := request
  result := result

/-- What a result must repeat of its start: everything but the kind and, for a
receipt, the correlation. -/
def repeatsStart (request response : Message) : Bool :=
  response.instanceId = request.instanceId && response.sessionId = request.sessionId &&
    response.leaseId = request.leaseId && response.leaseEpoch = request.leaseEpoch &&
    response.generation = request.generation && response.operationId = request.operationId &&
    response.requestedSeed = request.requestedSeed && response.runMode = request.runMode &&
    response.contextDigest = request.contextDigest &&
    response.selectedContext = request.selectedContext

section Digest

variable [Sha256]

/-- A forwarded answer, of either response kind. -/
def acceptForwarded (request response : Message) : Except LedgerError Message := do
  response.validate.mapError fun _ => .invalidResponse
  refuse ((response.kind ≠ .startResponse ∧ response.kind ≠ .reconcileResponse) ∨
    response.correlationId ≠ request.correlationId ∨ ¬ repeatsStart request response)
    .invalidResponse
  return response

def acceptReceipt (original reconcile response : Message) : Except LedgerError Message := do
  response.validate.mapError fun _ => .invalidResponse
  refuse (response.kind ≠ .reconcileResponse ∨
    response.correlationId ≠ reconcile.correlationId ∨ ¬ repeatsStart original response)
    .invalidResponse
  return response

end Digest

/-- The ledger's own results: they differ in their status and error code. -/
def ownResult (request : Message) (status : Status) (errorCode : String) :
    Except LedgerError Message :=
  match request.selectedContext, request.requestedSeed, request.runMode with
  | some context, some requestedSeed, some runMode =>
    .ok (Message.resultWithContext request.provenance
      { correlationId := request.correlationId
        instanceId := request.instanceId
        sessionId := request.sessionId
        leaseId := request.leaseId
        leaseEpoch := request.leaseEpoch
        generation := request.generation }
      .startResponse request.operationId requestedSeed runMode context status none none none
      (some errorCode))
  | _, _, _ => .error .invalidRequest

def rejected (request : Message) (errorCode : String) : Except LedgerError Message :=
  ownResult request .rejected errorCode

def unknown (request : Message) (errorCode : String) : Except LedgerError Message :=
  ownResult request .unknown errorCode

def replayForRequest (result request : Message) : Message :=
  { result with correlationId := request.correlationId }

def asReconcileResponse (response request : Message) : Message :=
  { response with kind := .reconcileResponse, correlationId := request.correlationId }

/-- A receipt is stored as the start's response, under the start's correlation. -/
def storedReceipt (original receipt : Message) : Message :=
  { receipt with kind := .startResponse, correlationId := original.correlationId }

namespace Ledger

/-! ### Updates -/

def new (config : LedgerConfig) (binding : Binding) : Except LedgerError Ledger := do
  refuse (config.operationCapacity = 0) .zeroCapacity
  return { config, binding, operations := ∅ }

def setGeneration (ledger : Ledger) (generation : ℕ) : Ledger :=
  { ledger with binding := { ledger.binding with generation } }

/-- An empty ledger takes the generation of the first start that is not behind it. -/
def adopt (ledger : Ledger) (request : Message) : Ledger :=
  if ledger.operations.isEmpty ∧ ledger.binding.generation ≤ request.generation then
    ledger.setGeneration request.generation
  else ledger

/-- A settled result advances the binding's generation. -/
def advanceGeneration (ledger : Ledger) (response : Message) : Ledger :=
  match response.status, response.observation with
  | some .settled, some observation =>
    if ledger.binding.generation < observation.generation then
      ledger.setGeneration observation.generation
    else ledger
  | _, _ => ledger

def retain (ledger : Ledger) (request response : Message) : Ledger :=
  { ledger with operations :=
      ledger.operations.insert request.operationId (.retained request (some response)) }

/-- An operation that is about to be forwarded: its result is still missing. -/
def begin (ledger : Ledger) (request : Message) : Ledger :=
  { ledger with operations :=
      ledger.operations.insert request.operationId (.retained request none) }

def remove (ledger : Ledger) (operationId : String) : Ledger :=
  { ledger with operations := ledger.operations.erase operationId }

def setResult (ledger : Ledger) (operationId : String) (result : Message) : Ledger :=
  { ledger with operations := ledger.operations.modify operationId fun operation =>
      { operation with result := some result } }

def validateBinding (ledger : Ledger) (request : Message) : Except LedgerError Unit :=
  refuse (¬ ledger.binding.accepts request) .fenceRejected

/-! ### Persistence -/

def persistedState (ledger : Ledger) : PersistedState where
  binding := ledger.binding
  operations := ledger.operations.toList.map fun (_, operation) =>
    { request := operation.request, result := operation.result }

section Digest

variable [Sha256]

/-- One persisted row: in-flight or merely accepted work becomes `unknown`. -/
def restoreOperation (ledger : Ledger) (persisted : Binding) (restored : Operations)
    (item : PersistedOperation) : Except LedgerError Operations := do
  item.request.validate.mapError fun _ => .invalidRequest
  refuse (item.request.kind ≠ .startRequest ∨ ¬ ledger.binding.accepts item.request ∨
    item.request.operationId ∈ restored) .invalidRequest
  let result ← match item.result with
    | some result => do
      let _ ← acceptForwarded item.request result
      -- a forwarded answer may be of the other response kind, a restored one may not
      refuse (result.kind ≠ .startResponse ∨ result.observation.any (fun observation =>
        persisted.generation < observation.generation)) .invalidResponse
      if result.status = some .accepted then unknown item.request "restart_uncertain"
      else pure result
    | none => unknown item.request "restart_uncertain"
  return restored.insert item.request.operationId (.retained item.request (some result))

/-- Restores state; an error leaves the ledger as it was. -/
def restoreState (ledger : Ledger) (persisted : PersistedState) : Except LedgerError Ledger := do
  let validated ← (Binding.new persisted.binding.instanceId persisted.binding.sessionId
    persisted.binding.leaseId persisted.binding.leaseEpoch
    persisted.binding.generation).mapError fun _ => .invalidBinding
  refuse (persisted.binding.instanceId ≠ ledger.binding.instanceId ∨
    persisted.binding.sessionId ≠ ledger.binding.sessionId ∨
    persisted.binding.leaseId ≠ ledger.binding.leaseId ∨
    persisted.binding.leaseEpoch ≠ ledger.binding.leaseEpoch ∨
    validated.generation < ledger.binding.generation ∨
    ledger.config.operationCapacity < persisted.operations.length) .invalidBinding
  let operations ← persisted.operations.foldlM (ledger.restoreOperation persisted.binding) ∅
  return { ledger.setGeneration persisted.binding.generation with operations }

end Digest

end Ledger

/-! ### Exchanges with the outside -/

/-- Hands the persisted state to the caller's checkpoint. -/
@[simp] def checkpoint (env : Environment) : LedgerM Bool :=
  exchange (fun events ledger => env.checkpoint events ledger.persistedState) .checkpoint

@[simp] def forwardSeededRun (env : Environment) (request : Message) :
    LedgerM (Except TransportFault Message) :=
  exchange (fun events _ => env.forward events request) fun _ => .forward request

@[simp] def readSeededRunReceipt (env : Environment) (request : ReceiptRequest) :
    LedgerM (Except TransportFault (Option Message)) :=
  exchange (fun events _ => env.receipt events request) fun _ => .receipt request

/-! ### The operations -/

section Digest

variable [Sha256]

/-- The result of a forwarded start, from what the port answered. -/
def resolveForwarded (request : Message) : Except TransportFault Message → Except LedgerError Message
  | .ok response => acceptForwarded request response
  | .error .timeout => unknown request "downstream_timeout"
  | .error .unavailableBeforeWrite => unknown request "downstream_unavailable"
  | .error .malformedResponse => unknown request "downstream_malformed_response"

/-- A duplicate start. -/
def replayOrConflict (existing : Operation) (request : Message) : Except LedgerError Message := do
  refuse (existing.requestDigest ≠ request.canonicalRequest) .operationConflict
  match existing.result with
  | some result => return replayForRequest result request
  | none => .error .operationInProgress

/-- A start that is behind the binding is refused, and the refusal is kept even
when the checkpoint fails. -/
def rejectStale (env : Environment) (request : Message) : LedgerM Message := do
  let response ← rejected request "stale_generation"
  modifyState (·.retain request response)
  if ← checkpoint env then
    return response
  else
    throw .persistenceFailed

/-- The two-checkpoint dispatch.  An answer that is not accepted leaves the
operation without a result. -/
def dispatch (env : Environment) (request : Message) : LedgerM Message := do
  modifyState (·.begin request)
  if ← checkpoint env then
    let answer ← forwardSeededRun env request
    let result ← resolveForwarded request answer
    modifyState fun ledger => (ledger.setResult request.operationId result).advanceGeneration result
    if ← checkpoint env then
      return result
    else
      throw .persistenceFailed
  else
    modifyState (·.remove request.operationId)
    throw .persistenceFailed

def submitStartWithCheckpoint (env : Environment) (request : Message) : LedgerM Message := do
  request.validate.mapError fun _ => LedgerError.invalidRequest
  refuse (request.kind ≠ .startRequest) LedgerError.invalidRequest
  let ledger ← getState
  ledger.validateBinding request
  match ledger.operations[request.operationId]? with
  | some existing => replayOrConflict existing request
  | none =>
    if ledger.config.operationCapacity ≤ ledger.operations.size then
      throw .capacityExceeded
    else do
      modifyState (·.adopt request)
      if request.generation ≠ (ledger.adopt request).binding.generation then
        rejectStale env request
      else
        dispatch env request

def reconcile (env : Environment) (request : Message) : LedgerM Message := do
  request.validate.mapError fun _ => LedgerError.invalidRequest
  refuse (request.kind ≠ .reconcileRequest) LedgerError.invalidRequest
  let ledger ← getState
  ledger.validateBinding request
  refuse (request.generation ≠ ledger.binding.generation) LedgerError.staleGeneration
  match ledger.operations[request.operationId]? with
  | none => throw .operationNotFound
  | some operation =>
    match operation.result with
    | none => throw .operationInProgress
    | some result =>
      if result.status ≠ some .accepted ∧ result.status ≠ some .unknown then
        return asReconcileResponse result request
      else
        -- a fault of the receipt port reads as no receipt
        match ← readSeededRunReceipt env
            { message := request, operationId := request.operationId } with
        | .ok (some receipt) =>
          match acceptReceipt operation.request request receipt with
          | .ok receipt => do
            let stored := storedReceipt operation.request receipt
            modifyState fun ledger =>
              (ledger.setResult request.operationId stored).advanceGeneration stored
            return asReconcileResponse receipt request
          | .error _ => return asReconcileResponse result request
        | _ => return asReconcileResponse result request

/-! ### Calls -/

/-- The environment of a method that passes the checkpoint `|_| Ok(())`. -/
def Environment.withoutCheckpoint (env : Environment) : Environment :=
  { env with checkpoint := fun _ _ => true }

/-- A public method with its arguments. -/
inductive Call where
  | submitStart (request : Message)
  | submitStartWithCheckpoint (request : Message)
  | reconcile (request : Message)

def Call.run (env : Environment) : Call → LedgerM Message
  | .submitStart request => SeededRun.submitStartWithCheckpoint env.withoutCheckpoint request
  | .submitStartWithCheckpoint request => SeededRun.submitStartWithCheckpoint env request
  | .reconcile request => SeededRun.reconcile env request

/-- What one call leaves behind. -/
abbrev Outcome := Exchange.Outcome Ledger (Except LedgerError Message) Event

/-- One call of a public method on a ledger. -/
def Ledger.perform (ledger : Ledger) (env : Environment) (call : Call) : Outcome :=
  outcome (call.run env) ledger

end Digest

end Sts2Gateway.SeededRun
