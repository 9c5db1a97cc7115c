/-
The lifecycle store in memory (`process_store.rs`, `process_store_memory.rs`).

* `LifecycleContents`: retained operations and ownership rows, each under its own
  key;
* `InMemoryLifecycleStore`: the contents and the faults that a test may switch on;
* `insert`, `update`, `setOwnership`, `clearOwnershipIf`, `clearOwnership`: the
  mutations;
* `StoreCall`, `runCalls`: the operations of a store and their sequences;
* `mem_operations`, `operations_sorted`: **the listed operations are the retained
  ones in the order of their keys**.
-/
import Mathlib.Data.Prod.Lex
import Sts2Gateway.Library.OrderedMap
import Sts2Gateway.Library.Procedure
import Sts2Gateway.Library.Selection
import Sts2Gateway.Lifecycle.Contract

namespace Sts2Gateway.Lifecycle

open Std (ExtTreeMap LawfulEqCmp)
open ControlPlane (InstanceId)
open Procedure Selection

instance : LawfulEqCmp (compare : LifecycleRecordKey → LifecycleRecordKey → Ordering) where
  compare_self := compare_eq_iff_eq.mpr rfl
  eq_of_compare := compare_eq_iff_eq.mp

/-! ### Contents -/

abbrev Records := ExtTreeMap LifecycleRecordKey LifecycleOperation compare

abbrev OwnershipRows := ExtTreeMap InstanceId LifecycleOwnership compare

/-- What a store holds. -/
structure LifecycleContents where
  records : Records
  ownership : OwnershipRows
  records_keyed : ∀ key (operation : LifecycleOperation), records[key]? = some operation →
    operation.key = key
  ownership_keyed : ∀ instanceId (row : LifecycleOwnership), ownership[instanceId]? = some row →
    row.instanceId = instanceId

namespace LifecycleContents

def empty : LifecycleContents where
  records := ∅
  ownership := ∅
  records_keyed := by simp
  ownership_keyed := by simp

variable (contents : LifecycleContents)

/-- The record of an operation, new or in the place of the one it had. -/
def putRecord (operation : LifecycleOperation) : LifecycleContents where
  records := contents.records.insert operation.key operation
  ownership := contents.ownership
  records_keyed := by
    intro key found h
    rw [OrderedMap.getElem?_insert_if] at h
    split_ifs at h with hkey
    · rw [← hkey, Option.some.inj h]
    · exact contents.records_keyed key found h
  ownership_keyed := contents.ownership_keyed

def putOwnership (row : LifecycleOwnership) : LifecycleContents where
  records := contents.records
  ownership := contents.ownership.insert row.instanceId row
  records_keyed := contents.records_keyed
  ownership_keyed := by
    intro instanceId found h
    rw [OrderedMap.getElem?_insert_if] at h
    split_ifs at h with hkey
    · rw [← hkey, Option.some.inj h]
    · exact contents.ownership_keyed instanceId found h

def removeOwnership (instanceId : InstanceId) : LifecycleContents where
  records := contents.records
  ownership := contents.ownership.erase instanceId
  records_keyed := contents.records_keyed
  ownership_keyed := by
    intro other found h
    rw [OrderedMap.getElem?_erase_if] at h
    split_ifs at h
    exact contents.ownership_keyed other found h

/-- The retained operations in the order of their keys. -/
def operations : List LifecycleOperation := contents.records.toList.map Prod.snd

/-- The ownership rows in the order of their instances. -/
def rows : List LifecycleOwnership := contents.ownership.toList.map Prod.snd

/-- Whether the latest operation of the instance, rejected ones aside, keeps a
new active operation out. -/
def conflicts (operation : LifecycleOperation) : Bool :=
  if operation.state.isActive then
    let latest := maxByKey operationOrderKey (contents.operations.filter fun candidate =>
      candidate.instanceId = operation.instanceId ∧ candidate.state ≠ .rejected)
    let hasInFlight := latest.any (·.state.isInFlight)
    let hasActive := latest.any (·.state.isActive)
    hasInFlight || (operation.action.isLaunchNew &&
      (hasActive || contents.ownership.contains operation.instanceId))
  else false

variable {contents}

@[simp] lemma getElem?_putRecord {operation : LifecycleOperation} {key : LifecycleRecordKey} :
    (contents.putRecord operation).records[key]? =
      if operation.key = key then some operation else contents.records[key]? :=
  OrderedMap.getElem?_insert_if

@[simp] lemma ownership_putRecord {operation : LifecycleOperation} :
    (contents.putRecord operation).ownership = contents.ownership := rfl

@[simp] lemma getElem?_putOwnership {row : LifecycleOwnership} {instanceId : InstanceId} :
    (contents.putOwnership row).ownership[instanceId]? =
      if row.instanceId = instanceId then some row else contents.ownership[instanceId]? :=
  OrderedMap.getElem?_insert_if

@[simp] lemma records_putOwnership {row : LifecycleOwnership} :
    (contents.putOwnership row).records = contents.records := rfl

@[simp] lemma getElem?_removeOwnership {gone instanceId : InstanceId} :
    (contents.removeOwnership gone).ownership[instanceId]? =
      if gone = instanceId then none else contents.ownership[instanceId]? :=
  OrderedMap.getElem?_erase_if

@[simp] lemma records_removeOwnership {gone : InstanceId} :
    (contents.removeOwnership gone).records = contents.records := rfl

lemma mem_operations {operation : LifecycleOperation} :
    operation ∈ contents.operations ↔ contents.records[operation.key]? = some operation := by
  unfold operations
  rw [List.mem_map]
  constructor
  · rintro ⟨⟨key, found⟩, hmem, rfl⟩
    have hfound := ExtTreeMap.mem_toList_iff_getElem?_eq_some.mp hmem
    rw [contents.records_keyed key found hfound, hfound]
  · intro h
    exact ⟨(operation.key, operation), ExtTreeMap.mem_toList_iff_getElem?_eq_some.mpr h, rfl⟩

lemma mem_rows {row : LifecycleOwnership} :
    row ∈ contents.rows ↔ contents.ownership[row.instanceId]? = some row := by
  unfold rows
  rw [List.mem_map]
  constructor
  · rintro ⟨⟨instanceId, found⟩, hmem, rfl⟩
    have hfound := ExtTreeMap.mem_toList_iff_getElem?_eq_some.mp hmem
    rw [contents.ownership_keyed instanceId found hfound, hfound]
  · intro h
    exact ⟨(row.instanceId, row), ExtTreeMap.mem_toList_iff_getElem?_eq_some.mpr h, rfl⟩

/-- The listed operations are strictly sorted by their keys. -/
lemma operations_sorted : contents.operations.Pairwise fun a b => a.key < b.key := by
  rw [operations, List.pairwise_map]
  refine ExtTreeMap.ordered_keys_toList.imp_of_mem fun {p q} hp hq hlt => ?_
  have hpkey := contents.records_keyed _ _ (ExtTreeMap.mem_toList_iff_getElem?_eq_some.mp hp)
  have hqkey := contents.records_keyed _ _ (ExtTreeMap.mem_toList_iff_getElem?_eq_some.mp hq)
  rw [hpkey, hqkey]
  exact compare_lt_iff_lt.mp hlt

lemma rows_sorted : contents.rows.Pairwise fun a b => a.instanceId < b.instanceId := by
  rw [rows, List.pairwise_map]
  refine ExtTreeMap.ordered_keys_toList.imp_of_mem fun {p q} hp hq hlt => ?_
  have hpkey := contents.ownership_keyed _ _ (ExtTreeMap.mem_toList_iff_getElem?_eq_some.mp hp)
  have hqkey := contents.ownership_keyed _ _ (ExtTreeMap.mem_toList_iff_getElem?_eq_some.mp hq)
  rw [hpkey, hqkey]
  exact compare_lt_iff_lt.mp hlt

@[simp] lemma length_operations : contents.operations.length = contents.records.size := by
  rw [operations, List.length_map, ExtTreeMap.length_toList]

end LifecycleContents

/-! ### The store in memory -/

/-- The mutations of a store: a refused one returns its error. -/
abbrev StoreM (σ : Type) := EStateM LifecycleStoreError σ

structure InMemoryLifecycleStore where
  contents : LifecycleContents
  failInsert : Bool
  failUpdate : Bool
  failUpdateAfter : Option ℕ

namespace InMemoryLifecycleStore

def new : InMemoryLifecycleStore where
  contents := .empty
  failInsert := false
  failUpdate := false
  failUpdateAfter := none

def insert (operation : LifecycleOperation) : StoreM InMemoryLifecycleStore Unit := do
  let store ← getThe InMemoryLifecycleStore
  liftM (refuse (store.failInsert = true) LifecycleStoreError.database)
  liftM (refuse (operation.key ∈ store.contents.records) LifecycleStoreError.conflict)
  liftM (refuse (store.contents.conflicts operation = true) LifecycleStoreError.conflict)
  modify fun store => { store with contents := store.contents.putRecord operation }

def update (operation : LifecycleOperation) : StoreM InMemoryLifecycleStore Unit := do
  let store ← getThe InMemoryLifecycleStore
  liftM (refuse (store.failUpdate = true ∨ store.failUpdateAfter = some 0)
    LifecycleStoreError.database)
  modify fun store => { store with failUpdateAfter := store.failUpdateAfter.map (· - 1) }
  liftM (refuse (operation.key ∉ store.contents.records) LifecycleStoreError.notFound)
  modify fun store => { store with contents := store.contents.putRecord operation }

/-- The checks of `set_ownership` on the row that the instance has. -/
def checkOwnership (operation : LifecycleOperation) (row : LifecycleOwnership)
    (current : LifecycleOwnership) : Except LifecycleStoreError Unit :=
  if current.operationId ≠ row.operationId then
    refuse (operation.action.isLaunchNew = true ∨ operation.state.isActive = false ∨
      ownershipPrecedes current row = false) .conflict
  else refuse (row.sequence < current.sequence) .conflict

/-- Whether a row may be set: its operation is active and may follow the operation
of the row that the instance has. -/
def checkRow (contents : LifecycleContents) (row : LifecycleOwnership) :
    Except LifecycleStoreError Unit := do
  let operation ← okOr contents.records[LifecycleRecordKey.new row.instanceId row.operationId]?
    .conflict
  refuse (operation.state.isActive = false) .conflict
  contents.ownership[row.instanceId]?.forM (checkOwnership operation row)

def setOwnership (row : LifecycleOwnership) : StoreM InMemoryLifecycleStore Unit := do
  let store ← getThe InMemoryLifecycleStore
  liftM (checkRow store.contents row)
  modify fun store => { store with contents := store.contents.putOwnership row }

def clearOwnershipIf (row : LifecycleOwnership) : StoreM InMemoryLifecycleStore Unit := do
  let store ← getThe InMemoryLifecycleStore
  match store.contents.ownership[row.instanceId]? with
  | none => return ()
  | some current =>
    liftM (refuse (current ≠ row) LifecycleStoreError.conflict)
    modify fun store => { store with contents := store.contents.removeOwnership row.instanceId }

def clearOwnership (instanceId : InstanceId) : StoreM InMemoryLifecycleStore Unit :=
  modify fun store => { store with contents := store.contents.removeOwnership instanceId }

end InMemoryLifecycleStore

/-! ### Calls -/

/-- The operations of `LifecycleRecordStore`. -/
inductive StoreCall
  | get (key : LifecycleRecordKey)
  | insert (operation : LifecycleOperation)
  | update (operation : LifecycleOperation)
  | list
  | count
  | listOwnership
  | setOwnership (row : LifecycleOwnership)
  | clearOwnershipIf (row : LifecycleOwnership)
  | clearOwnership (instanceId : InstanceId)

inductive StoreAnswer
  | done
  | operation (found : Option LifecycleOperation)
  | operations (all : List LifecycleOperation)
  | count (records : ℕ)
  | rows (all : List LifecycleOwnership)
  deriving DecidableEq

/-- A mutation answers that it is done. -/
def StoreM.done {σ : Type} (mutation : StoreM σ Unit) : StoreM σ StoreAnswer := do
  mutation
  return .done

/-- A read of the store, which leaves it as it is. -/
def StoreM.reads {σ α : Type} (answer : α → StoreAnswer)
    (read : σ → Except LifecycleStoreError α) : StoreM σ StoreAnswer := do
  let store ← getThe σ
  let found ← liftM (read store)
  return answer found

def InMemoryLifecycleStore.call : StoreCall → StoreM InMemoryLifecycleStore StoreAnswer
  | .get key => .reads .operation fun store => .ok store.contents.records[key]?
  | .insert operation => .done (insert operation)
  | .update operation => .done (update operation)
  | .list => .reads .operations fun store => .ok store.contents.operations
  | .count => .reads .count fun store => .ok store.contents.records.size
  | .listOwnership => .reads .rows fun store => .ok store.contents.rows
  | .setOwnership row => .done (setOwnership row)
  | .clearOwnershipIf row => .done (clearOwnershipIf row)
  | .clearOwnership instanceId => .done (clearOwnership instanceId)

/-- The answer of a call, and the store after it. -/
def StoreM.outcome {σ : Type} (call : StoreM σ StoreAnswer) (store : σ) :
    Except LifecycleStoreError StoreAnswer × σ :=
  match call.run store with
  | .ok answer store => (.ok answer, store)
  | .error e store => (.error e, store)

/-- The answers of a sequence of calls, and the store after them. -/
def runCalls {σ : Type} (call : StoreCall → StoreM σ StoreAnswer) :
    List StoreCall → σ → List (Except LifecycleStoreError StoreAnswer) × σ
  | [], store => ([], store)
  | c :: calls, store =>
    let first := StoreM.outcome (call c) store
    let rest := runCalls call calls first.2
    (first.1 :: rest.1, rest.2)

end Sts2Gateway.Lifecycle
