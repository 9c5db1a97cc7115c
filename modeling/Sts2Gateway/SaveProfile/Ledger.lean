/-
The save-profile ledger (`save_profile/ledger.rs`, and the store port and the store in
memory of `ledger_types.rs`).

* `SaveProfileRecordStore`, `InMemorySaveProfileRecordStore`: the port for the records,
  and the store that keeps them under their keys;
* `Ports`: what the game-mod answers during a call, and whether the store fails;
* `SaveProfileLedger.new`, `submit`, `reconcile`, `callerDisconnected`: the operations of
  the ledger;
* `accept`, `dispatch`: the two halves of a submission, before and after the request is
  forwarded.
-/
import Mathlib.Data.String.Basic
import Sts2Gateway.Library.OrderedMap
import Sts2Gateway.SaveProfile.Contract

namespace Sts2Gateway.SaveProfile

open Procedure
open Std (ExtTreeMap LawfulEqCmp)

instance : LawfulEqCmp (compare : OperationKey → OperationKey → Ordering) where
  compare_self := Std.ReflCmp.compare_self
  eq_of_compare {first second} h := by
    have hboth : (compare (ofLex first).1 (ofLex second).1).then
        (compare (ofLex first).2 (ofLex second).2) = .eq := h
    obtain ⟨hinstance, hoperation⟩ := Ordering.then_eq_eq.mp hboth
    exact Prod.ext (LawfulEqCmp.eq_of_compare hinstance) (LawfulEqCmp.eq_of_compare hoperation)

abbrev Records := ExtTreeMap OperationKey SaveProfileOperationRecord compare

/-! ### Stores -/

class SaveProfileRecordStore (σ : Type) where
  list : σ → Except SaveProfileLedgerError (List SaveProfileOperationRecord)
  insert : σ → SaveProfileOperationRecord → Except SaveProfileLedgerError σ
  update : σ → SaveProfileOperationRecord → Except SaveProfileLedgerError σ

structure InMemorySaveProfileRecordStore where
  records : Records

namespace InMemorySaveProfileRecordStore

variable (store : InMemorySaveProfileRecordStore)

def default : InMemorySaveProfileRecordStore := ⟨∅⟩

/-- The values in the order of their keys. -/
def list : Except SaveProfileLedgerError (List SaveProfileOperationRecord) :=
  .ok (store.records.toList.map Prod.snd)

def insert (record : SaveProfileOperationRecord) :
    Except SaveProfileLedgerError InMemorySaveProfileRecordStore := do
  refuse store.records[record.key]?.isSome .operationConflict
  return ⟨store.records.insert record.key record⟩

def update (record : SaveProfileOperationRecord) :
    Except SaveProfileLedgerError InMemorySaveProfileRecordStore := do
  refuse store.records[record.key]?.isNone .operationNotFound
  return ⟨store.records.insert record.key record⟩

instance : SaveProfileRecordStore InMemorySaveProfileRecordStore where
  list := list
  insert := insert
  update := update

end InMemorySaveProfileRecordStore

/-- The outside of one call: the answers of the forwarding port, and the errors of the
store's calls that fail. -/
structure Ports where
  forward : Except SaveProfileTransportFault SaveProfileForwardResponse
  lookup : Except SaveProfileTransportFault (Option SaveProfileForwardResponse)
  listFault : Option SaveProfileLedgerError
  insertFault : Option SaveProfileLedgerError
  updateFault : Option SaveProfileLedgerError

/-- A call of the store, unless it fails and changes nothing. -/
def faulty {α : Type} (fault : Option SaveProfileLedgerError)
    (call : Except SaveProfileLedgerError α) : Except SaveProfileLedgerError α :=
  fault.elim call .error

/-! ### Ledgers -/

structure SaveProfileLedger (σ : Type) where
  capacity : ℕ
  authority : SaveProfileAuthority
  store : σ
  records : Records
  selected : Option SaveProfileId
  pendingSelection : Option String

/-- The answer of a call, and the ledger after it. -/
structure Reply (σ : Type) where
  answer : Except SaveProfileLedgerError SaveProfileResult
  ledger : SaveProfileLedger σ

/-- A settled selection. -/
def SaveProfileResult.isSelection (result : SaveProfileResult) : Bool :=
  result.route = .select && result.status = .settled

/-- A selection without a final answer. -/
def SaveProfileOperationRecord.isPending (record : SaveProfileOperationRecord) : Bool :=
  record.request.route = .select && record.status.isUnresolved

/-- The profile of the first settled selection that is listed. -/
def selectedOf (persisted : List SaveProfileOperationRecord) : Option SaveProfileId :=
  ((persisted.filterMap (·.result)).find? (·.isSelection)).bind (·.profileId)

def pendingOf (persisted : List SaveProfileOperationRecord) : Option String :=
  (persisted.find? (·.isPending)).map (·.operationId)

/-- The listed records under their keys. -/
def collect (persisted : List SaveProfileOperationRecord) : Records :=
  persisted.foldl (fun records record => records.insert record.key record) ∅

namespace SaveProfileLedger

variable {σ : Type} [SaveProfileRecordStore σ]

def new (capacity : ℕ) (authority : SaveProfileAuthority) (store : σ) (ports : Ports) :
    Except SaveProfileLedgerError (SaveProfileLedger σ) := do
  refuse (capacity = 0) .capacityExceeded
  let persisted ← faulty ports.listFault (SaveProfileRecordStore.list store)
  refuse (capacity < persisted.length) .capacityExceeded
  refuse (persisted.any fun record => record.request.context.instanceId ≠ authority.instanceId)
    (.fence .wrongInstance)
  return {
    capacity, authority, store
    records := collect persisted
    selected := selectedOf persisted
    pendingSelection := pendingOf persisted }

variable (ledger : SaveProfileLedger σ)

/-- The selection that a result leaves behind. -/
def applySelection (result : SaveProfileResult) : SaveProfileLedger σ :=
  if result.route = .select then
    match result.status with
    | .settled => { ledger with selected := result.profileId, pendingSelection := none }
    | .rejected | .blocked | .cancelled => { ledger with pendingSelection := none }
    | .accepted | .unknown => ledger
  else ledger

def persistResult (ports : Ports) (key : OperationKey) (result : SaveProfileResult) :
    Except SaveProfileLedgerError (SaveProfileLedger σ) := do
  let record ← okOr ledger.records[key]? .operationNotFound
  let record := { record with status := result.status, result := some result }
  let store ← faulty ports.updateFault (SaveProfileRecordStore.update ledger.store record)
  return { ledger with store, records := ledger.records.insert key record }.applySelection result

/-- A result is persisted before the call answers. -/
def answerPersisted (ports : Ports) (key : OperationKey) (result : SaveProfileResult)
    (answer : Except SaveProfileLedgerError SaveProfileResult) : Reply σ :=
  match ledger.persistResult ports key result with
  | .ok after => ⟨answer, after⟩
  | .error e => ⟨.error e, ledger⟩

/-- What is forwarded is answered. -/
def dispatch (ports : Ports) (request : SaveProfileForwardRequest) : Reply σ :=
  let persist := ledger.answerPersisted ports request.key
  match ports.forward with
  | .error .timeoutAfterWrite | .error .disconnectedAfterWrite =>
    persist (unknownResult request) (.ok (unknownResult request))
  | .error .unavailableBeforeWrite | .error .rejectedBeforeWrite =>
    persist (rejectedResult request .rejected) (.ok (rejectedResult request .rejected))
  | .error .malformedResponse =>
    persist (unknownResult request) (.error (.transport .malformedResponse))
  | .ok forwarded =>
    match validateResponse request forwarded with
    | .ok result => persist result (.ok result)
    | .error e => persist (unknownResult request) (.error e)

/-- A submission up to its forwarding: it replays a result, or takes the request on. -/
@[irreducible] def accept (ports : Ports) (request : SaveProfileForwardRequest) (nowMillis : ℕ)
    (activeRun : Bool) :
    Except SaveProfileLedgerError (SaveProfileResult ⊕ SaveProfileLedger σ) := do
  (ledger.authority.authorize request.context nowMillis).mapError .fence
  validateRequest request
  refuse (activeRun ∧ request.route.isMutation) .activeRun
  match ledger.records[request.key]? with
  | some existing =>
    refuse (¬ sameOperationRequest existing.request request) .operationConflict
    return .inl (← okOr existing.result .operationInProgress)
  | none =>
    refuse (ledger.capacity ≤ ledger.records.size) .capacityExceeded
    (if request.route = .select then do
      let profileId ← selectedId request
      refuse (ledger.pendingSelection.isSome ∨ ledger.selected = some profileId)
        .duplicateSelection
    else .ok ())
    let store ← faulty ports.insertFault
      (SaveProfileRecordStore.insert ledger.store request.accepted)
    return .inr
      { ledger with
        store
        records := ledger.records.insert request.key request.accepted
        pendingSelection :=
          if request.route = .select then some request.operationId else ledger.pendingSelection }

def submit (ports : Ports) (request : SaveProfileForwardRequest) (nowMillis : ℕ)
    (activeRun : Bool) : Reply σ :=
  match ledger.accept ports request nowMillis activeRun with
  | .error e => ⟨.error e, ledger⟩
  | .ok (.inl result) => ⟨.ok result, ledger⟩
  | .ok (.inr admitted) => admitted.dispatch ports request

/-- The record that a caller asks about, under the fence that it was submitted with. -/
@[irreducible] def fenced (context : SaveProfileContext) (operationId : String) (nowMillis : ℕ) :
    Except SaveProfileLedgerError SaveProfileOperationRecord := do
  (ledger.authority.authorize context nowMillis).mapError .fence
  let record ← okOr ledger.records[(toLex (context.instanceId, operationId) : OperationKey)]?
    .operationNotFound
  refuse (¬ record.request.context.sameFence context) (.fence .wrongSession)
  return record

/-- The result that no later answer changes. -/
def finalResult (record : SaveProfileOperationRecord) : Option SaveProfileResult :=
  record.result.filter fun result => !result.status.isUnresolved

def reconcile (ports : Ports) (context : SaveProfileContext) (operationId : String)
    (nowMillis : ℕ) : Reply σ :=
  match ledger.fenced context operationId nowMillis with
  | .error e => ⟨.error e, ledger⟩
  | .ok record =>
    let persist := ledger.answerPersisted ports (toLex (context.instanceId, operationId))
    match finalResult record with
    | some previous => ⟨.ok previous, ledger⟩
    | none =>
      match ports.lookup with
      | .error error => ⟨.error (.transport error), ledger⟩
      | .ok none => ⟨.ok (record.result.getD (acceptedResult record.request)), ledger⟩
      | .ok (some receipt) =>
        match validateResponse record.request receipt with
        | .ok result => persist result (.ok result)
        | .error e => persist (unknownResult record.request) (.error e)

def callerDisconnected (ports : Ports) (context : SaveProfileContext) (operationId : String)
    (nowMillis : ℕ) : Reply σ :=
  match ledger.fenced context operationId nowMillis with
  | .error e => ⟨.error e, ledger⟩
  | .ok record =>
    match finalResult record with
    | some previous => ⟨.ok previous, ledger⟩
    | none =>
      ledger.answerPersisted ports (toLex (context.instanceId, operationId))
        (unknownResult record.request) (.ok (unknownResult record.request))

def setAuthority (authority : SaveProfileAuthority) : SaveProfileLedger σ :=
  { ledger with authority }

end SaveProfileLedger

end Sts2Gateway.SaveProfile
