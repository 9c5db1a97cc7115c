/-
The durable lifecycle store (`process_store_sqlite.rs`,
`process_store_sqlite_records.rs`, `process_store_sqlite_admission.rs`).

* `OperationRow`, `OwnershipRow`: rows of the two tables, with bodies of bytes;
* `SqliteLifecycleStore`: the tables, the stored coordinator token and the token
  that this store was opened with;
* `canInsertOperation`, `ownershipUpdateAllowed`: the admission of a transaction;
* `SqliteLifecycleStore.call`: the operations of the store.

A statement runs on its table as it is written; a transaction that returns an
error changes nothing.
-/
import Mathlib
import Sts2Gateway.Library.Table
import Sts2Gateway.Lifecycle.Bodies
import Sts2Gateway.Lifecycle.Store

namespace Sts2Gateway.Lifecycle

open ControlPlane (InstanceId OperationId)
open Procedure Relational Selection

/-! ### Tables -/

/-- A row of `lifecycle_operations`; its key columns are signed 64-bit integers. -/
structure OperationRow where
  instanceId : ℤ
  operationId : ℤ
  body : ByteArray
  deriving DecidableEq

def OperationRow.key (row : OperationRow) : ℤ ×ₗ ℤ := toLex (row.instanceId, row.operationId)

/-- A row of `lifecycle_ownership`. -/
structure OwnershipRow where
  instanceId : ℤ
  body : ByteArray
  deriving DecidableEq

abbrev CoordinatorToken := ByteArray

structure SqliteLifecycleStore where
  operations : Table (ℤ ×ₗ ℤ) OperationRow OperationRow.key
  ownership : Table ℤ OwnershipRow OwnershipRow.instanceId
  /-- The token in `lifecycle_coordinator`, which another store may have replaced. -/
  storedToken : CoordinatorToken
  coordinatorToken : CoordinatorToken

namespace SqliteLifecycleStore

/-- `from_connection`: the tables that the database has, with a fresh token. -/
def fromConnection (operations : Table (ℤ ×ₗ ℤ) OperationRow OperationRow.key)
    (ownership : Table ℤ OwnershipRow OwnershipRow.instanceId) (token : CoordinatorToken) :
    SqliteLifecycleStore where
  operations := operations
  ownership := ownership
  storedToken := token
  coordinatorToken := token

/-- `sql_id`. -/
def sqlId (value : ℕ) : Except LifecycleStoreError ℤ :=
  if value < 2 ^ 63 then .ok value else .error .serialization

lemma sqlId_of_lt {value : ℕ} (h : value < 2 ^ 63) : sqlId value = .ok (value : ℤ) := if_pos h

/-- `ensure_token` and `ensure_token_read`. -/
def ensureToken (store : SqliteLifecycleStore) : Except LifecycleStoreError Unit :=
  refuse (store.storedToken ≠ store.coordinatorToken) .conflict

section Statements

variable (reader : BodyReader)

/-! ### Admission -/

/-- `decode_operation_rows`. -/
def decodeOperationRows (store : SqliteLifecycleStore) (instanceId : ℤ) :
    Except LifecycleStoreError (List LifecycleOperation) :=
  (store.operations.rows.filter fun row => row.instanceId = instanceId).mapM fun row =>
    reader.decode row.body

def canInsertOperation (store : SqliteLifecycleStore) (operation : LifecycleOperation)
    (instanceId : ℤ) : Except LifecycleStoreError Bool :=
  if operation.state.isActive = false then .ok true
  else do
    let records ← decodeOperationRows reader store instanceId
    let latest := maxByKey operationOrderKey (records.filter fun candidate =>
      candidate.state ≠ .rejected)
    let hasInFlight := latest.any (·.state.isInFlight)
    if hasInFlight = true then return false
    if operation.action.isLaunchNew = false then return true
    let hasActive := latest.any (·.state.isActive)
    let hasOwnership := (store.ownership.find? instanceId).isSome
    return !hasActive && !hasOwnership

/-- The body of the row under an id, if there is one. -/
def operationUnder (store : SqliteLifecycleStore) (instanceId operationId : ℤ) :
    Except LifecycleStoreError (Option LifecycleOperation) :=
  match store.operations.find? (toLex (instanceId, operationId)) with
  | none => .ok none
  | some row => some <$> reader.decode row.body

def ownershipUnder (store : SqliteLifecycleStore) (instanceId : ℤ) :
    Except LifecycleStoreError (Option LifecycleOwnership) :=
  match store.ownership.find? instanceId with
  | none => .ok none
  | some row => some <$> reader.decodeOwnership row.body

/-- The checks of `ownership_update_allowed` on the row that the instance has. -/
def checkOwnership (operation : LifecycleOperation) (row current : LifecycleOwnership) :
    Except LifecycleStoreError Unit := do
  refuse (current.operationId ≠ row.operationId ∧
    (operation.action.isLaunchNew = true ∨ ownershipPrecedes current row = false)) .conflict
  refuse (current.operationId = row.operationId ∧ row.sequence < current.sequence) .conflict

def ownershipUpdateAllowed (store : SqliteLifecycleStore) (row : LifecycleOwnership)
    (current : Option LifecycleOwnership) : Except LifecycleStoreError Unit := do
  let instanceId ← sqlId row.instanceId
  let operationId ← sqlId row.operationId
  let found ← operationUnder reader store instanceId operationId
  let operation ← okOr found .conflict
  refuse (operation.state.isActive = false) .conflict
  current.forM (checkOwnership operation row)

/-! ### Records -/

def getRecord (key : LifecycleRecordKey) (store : SqliteLifecycleStore) :
    Except LifecycleStoreError (Option LifecycleOperation) := do
  ensureToken store
  let instanceId ← sqlId (ofLex key).1
  let operationId ← sqlId (ofLex key).2
  operationUnder reader store instanceId operationId

def insert (operation : LifecycleOperation) : StoreM SqliteLifecycleStore Unit := do
  let body := operation.encode
  let instanceId ← liftM (sqlId operation.instanceId)
  let operationId ← liftM (sqlId operation.operationId)
  let store ← getThe SqliteLifecycleStore
  liftM (ensureToken store)
  let admitted ← liftM (canInsertOperation reader store operation instanceId)
  liftM (refuse (admitted = false) LifecycleStoreError.conflict)
  let operations ← liftM (okOr (store.operations.insert { instanceId, operationId, body })
    LifecycleStoreError.conflict)
  set { store with operations }

/-- `UPDATE ... SET body` leaves the key columns alone. -/
def OperationRow.setBody (body : ByteArray) (row : OperationRow) : OperationRow := { row with body }

lemma OperationRow.key_setBody (body : ByteArray) (row : OperationRow) :
    (OperationRow.setBody body row).key = row.key := rfl

def update (operation : LifecycleOperation) : StoreM SqliteLifecycleStore Unit := do
  let body := operation.encode
  let instanceId ← liftM (sqlId operation.instanceId)
  let operationId ← liftM (sqlId operation.operationId)
  let store ← getThe SqliteLifecycleStore
  liftM (ensureToken store)
  let named := fun (row : OperationRow) => decide (row.key = toLex (instanceId, operationId))
  liftM (refuse (store.operations.count named ≠ 1) LifecycleStoreError.notFound)
  set { store with operations :=
          store.operations.update named (OperationRow.setBody body) (OperationRow.key_setBody body) }

/-- `SELECT body ... ORDER BY instance_id, operation_id`. -/
def list (store : SqliteLifecycleStore) : Except LifecycleStoreError (List LifecycleOperation) := do
  ensureToken store
  (store.operations.rows.mergeSort fun a b => decide (a.key ≤ b.key)).mapM fun row =>
    reader.decode row.body

def count (store : SqliteLifecycleStore) : Except LifecycleStoreError ℕ := do
  ensureToken store
  return store.operations.rows.length

/-- `SELECT body ... ORDER BY instance_id`. -/
def listOwnership (store : SqliteLifecycleStore) :
    Except LifecycleStoreError (List LifecycleOwnership) := do
  ensureToken store
  (store.ownership.rows.mergeSort fun a b => decide (a.instanceId ≤ b.instanceId)).mapM fun row =>
    reader.decodeOwnership row.body

def setOwnership (row : LifecycleOwnership) : StoreM SqliteLifecycleStore Unit := do
  let body := row.encode
  let instanceId ← liftM (sqlId row.instanceId)
  let store ← getThe SqliteLifecycleStore
  liftM (ensureToken store)
  let current ← liftM (ownershipUnder reader store instanceId)
  liftM (ownershipUpdateAllowed reader store row current)
  set { store with ownership := store.ownership.replace { instanceId, body } }

/-- `DELETE FROM lifecycle_ownership WHERE instance_id = ?`. -/
def deleteOwnership (store : SqliteLifecycleStore) (instanceId : ℤ) : SqliteLifecycleStore :=
  { store with ownership := store.ownership.delete fun row => row.instanceId = instanceId }

def clearOwnershipIf (row : LifecycleOwnership) : StoreM SqliteLifecycleStore Unit := do
  let instanceId ← liftM (sqlId row.instanceId)
  let store ← getThe SqliteLifecycleStore
  liftM (ensureToken store)
  let current ← liftM (ownershipUnder reader store instanceId)
  match current with
  | none => return ()
  | some current =>
    liftM (refuse (current ≠ row) LifecycleStoreError.conflict)
    set (deleteOwnership store instanceId)

def clearOwnership (instanceId : InstanceId) : StoreM SqliteLifecycleStore Unit := do
  let instanceId ← liftM (sqlId instanceId)
  let store ← getThe SqliteLifecycleStore
  liftM (ensureToken store)
  set (deleteOwnership store instanceId)

def call : StoreCall → StoreM SqliteLifecycleStore StoreAnswer
  | .get key => .reads .operation (getRecord reader key)
  | .insert operation => .done (insert reader operation)
  | .update operation => .done (update operation)
  | .list => .reads .operations (list reader)
  | .count => .reads .count count
  | .listOwnership => .reads .rows (listOwnership reader)
  | .setOwnership row => .done (setOwnership reader row)
  | .clearOwnershipIf row => .done (clearOwnershipIf reader row)
  | .clearOwnership instanceId => .done (clearOwnership instanceId)

end Statements

end SqliteLifecycleStore

end Sts2Gateway.Lifecycle
