/-
Backups of a store and their restoration (`recovery_store_backup.rs`).

* `StoreFile`, `BackupFile`, `Files`: the databases under their paths, originals and
  restored copies beside the backups with their provenance;
* `backupTo`, `restoreRekey`: a copy of the tables, and a copy of a copy under a fresh
  boot, after one comparison with the live store that the backup came from;
* `Step`, `Files.next`, `booted`: the steps of a run over all the files, and the boot
  that a step establishes.

A restored store is opened with the default policy.  The steps leave out what only
files can do: symbolic links, damaged or deleted files and failing writes.
-/
import Mathlib.Tactic
import Sts2Gateway.Recovery.Fence

namespace Sts2Gateway.Recovery

open Machine Procedure Relational Text

/-! ### Files -/

/-- The database under a path, and whether an open handle holds its owner lock. -/
structure StoreFile where
  path : String
  store : GatewayRecoveryStore
  locked : Bool

structure BackupProvenance where
  sourcePath : String
  deploymentId : String
  instanceId : String
  authorityGeneration : ℕ
deriving DecidableEq, Repr

structure BackupFile where
  path : String
  tables : GatewayRecoveryStore
  provenance : BackupProvenance

structure Files where
  stores : Table String StoreFile StoreFile.path
  backups : Table String BackupFile BackupFile.path

/-- One store, just created and open. -/
def Files.original (path : String) (config : RecoveryStoreConfig) : Files where
  stores :=
    ⟨[{ path, store := .openWithConfig config, locked := true }], List.nodup_singleton _⟩
  backups := .empty

def StoreFile.withStore (f : GatewayRecoveryStore → GatewayRecoveryStore) (file : StoreFile) :
    StoreFile :=
  { file with store := f file.store }

def StoreFile.withLock (locked : Bool) (file : StoreFile) : StoreFile := { file with locked }

/-- A handle on a closed store, under a policy of its own. -/
def StoreFile.openWithConfig (config : RecoveryStoreConfig) (file : StoreFile) : StoreFile :=
  (file.withStore fun store => { store with config }).withLock true

namespace StoreFile

variable (file : StoreFile)

@[simp] lemma path_withStore (f : GatewayRecoveryStore → GatewayRecoveryStore) :
    (file.withStore f).path = file.path := rfl

@[simp] lemma path_withLock (locked : Bool) : (file.withLock locked).path = file.path := rfl

@[simp] lemma path_openWithConfig (config : RecoveryStoreConfig) :
    (file.openWithConfig config).path = file.path := rfl

end StoreFile

namespace Files

variable (files : Files)

/-- Some file has the path. -/
def occupied (path : String) : Bool :=
  (files.stores.find? path).isSome || (files.backups.find? path).isSome

/-- The store behind an open handle. -/
def openStore (path : String) : Option StoreFile := (files.stores.find? path).filter (·.locked)

/-! ### Calls -/

def backupTo (file : StoreFile) (destination : String) : Except RecoveryStoreError Files := do
  refuse (destination = file.path ∨ files.occupied destination) .backupExists
  let authority ← (← file.store.currentAuthority).elim (.error .authorityNotFound) .ok
  let provenance :=
    { sourcePath := file.path
      deploymentId := authority.deploymentId
      instanceId := authority.instanceId
      authorityGeneration := authority.authorityGeneration }
  match files.backups.insert { path := destination, tables := file.store, provenance } with
  | some backups => return { files with backups }
  | none => .error (.io "backup destination creation failed")

def restoreRekey (source destination bootId incarnation deploymentId instanceId : String)
    (release : RecoveryReleaseSet) (nowMillis : ℕ) :
    Except RecoveryStoreError (RecoveryBootContext × Files) := do
  refuse (¬ files.occupied source) (.io "recovery backup source does not exist")
  refuse (source = destination ∨ files.occupied destination) .backupExists
  validateUuid "deployment_id" deploymentId
  validateUuid "instance_id" instanceId
  validateWire nowMillis "now_millis"
  release.validate
  let backup ← (files.backups.find? source).elim
    (.error (.io "backup provenance read failed")) .ok
  refuse (backup.provenance.sourcePath = "" ∨ backup.provenance.authorityGeneration = 0)
    (.corrupt "backup provenance is incomplete")
  refuse (backup.provenance.instanceId ≠ instanceId)
    (.contractMismatch "backup provenance identity does not match the restore namespace")
  let live ← (files.stores.find? backup.provenance.sourcePath).elim
    (.error (.io "live authority high-water source is unavailable")) .ok
  refuse live.locked .busy
  let authority ← live.store.authority.elim (.error (.sql "Query returned no rows")) .ok
  -- the mark is that of the live store alone: no restoration raises it
  refuse (authority.authorityGeneration ≠ backup.provenance.authorityGeneration)
    (.contractMismatch "backup is older than the live authority high-water mark")
  let (boot, restored) ← GatewayRecoveryStore.rekeyNamespace
    { backup.tables with config := .default } bootId incarnation deploymentId instanceId release
    nowMillis
  match files.stores.insert { path := destination, store := restored, locked := true } with
  | some stores => return (boot, { files with stores })
  | none => .error (.io "backup destination creation failed")

end Files

/-! ### Steps -/

inductive Step where
  | openWithConfig (path : String) (config : RecoveryStoreConfig)
  | close (path : String)
  | call (path : String) (call : Call)
  | backup (path destination : String)
  | restore (source destination bootId incarnation deploymentId instanceId : String)
      (release : RecoveryReleaseSet) (nowMillis : ℕ)

section Token

variable [Sha256]

/-- A step on a store that is not open, and a step that is refused, change nothing. -/
def Files.next (files : Files) : Step → Files
  | .openWithConfig path config =>
    if config.validate.isOk then
      { files with
        stores := files.stores.update (fun file => decide (file.path = path) && !file.locked)
          (fun file => file.openWithConfig config) fun file => file.path_openWithConfig config }
    else files
  | .close path =>
    { files with
      stores := files.stores.update (fun file => decide (file.path = path))
        (fun file => file.withLock false) fun file => file.path_withLock false }
  | .call path call =>
    { files with
      stores := files.stores.update (fun file => decide (file.path = path) && file.locked)
        (fun file => file.withStore fun store => Recovery.next store call)
        fun file => file.path_withStore _ }
  | .backup path destination =>
    match files.openStore path with
    | some file => ((files.backupTo file destination).toOption).getD files
    | none => files
  | .restore source destination bootId incarnation deploymentId instanceId release nowMillis =>
    match files.restoreRekey source destination bootId incarnation deploymentId instanceId release
        nowMillis with
    | .ok (_, after) => after
    | .error _ => files

/-- The boot that a call on a store establishes. -/
def Call.booted (store : GatewayRecoveryStore) (call : Call) : Option RecoveryBootContext :=
  match call, (call.perform store).answer with
  | .authority _, .ok (.boot boot) => some boot
  | _, _ => none

/-- The boot that a step establishes, by a boot, a rekey or a restoration. -/
def booted (files : Files) : Step → Option RecoveryBootContext
  | .call path call => (files.openStore path).bind fun file => call.booted file.store
  | .restore source destination bootId incarnation deploymentId instanceId release nowMillis =>
    (files.restoreRekey source destination bootId incarnation deploymentId instanceId release
      nowMillis).toOption.map Prod.fst
  | _ => none

/-- The tables that a boot, a rekey or a restoration starts from. -/
def Files.bootsFrom (files : Files) : Step → Option GatewayRecoveryStore
  | .call path (.authority _) => (files.openStore path).map (·.store)
  | .restore source _ _ _ _ _ _ _ => (files.backups.find? source).map (·.tables)
  | _ => none

end Token

end Sts2Gateway.Recovery
