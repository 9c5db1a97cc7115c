/-
The durable registry of native process generations (`process_native.rs`,
`process_native_store.rs`, `process_native_store_codec.rs`).

* `GenerationRecord`, `GenerationRegistry`: the record of one process generation
  and the table of records;
* `Host`, `Event`: what the registry and the port ask of the host, and the log;
* `validate`, `overwrites`, `claimed`: the checks of a write;
* `byKey`, `byHandle`, `reserve`, `save`: the operations on the registry;
* `GenerationRecord.Keeps`: what a later record of a generation keeps;
* `keeps_of_not_overwrites`: **what `save` lets through keeps what was saved**.
-/
import Sts2Gateway.Library.Crash
import Sts2Gateway.Library.Table
import Sts2Gateway.Library.Text
import Sts2Gateway.Lifecycle.Generation

namespace Sts2Gateway.Native

open Std (ExtTreeMap)
open ControlPlane (InstanceId ProcessHandle ProcessFault ProcessState StopMode)
open Lifecycle (LaunchProfile LaunchProfileId ProcessIdentity ProcessOperationGeneration)
open Procedure Exchange Crash Relational Text

/-! ### Records -/

inductive NativeProcessError
  | configuration | unsupportedHost | registry | profile
  deriving DecidableEq, Repr

/-- An absolute path, as its components. -/
abbrev Path := List String

structure GenerationRecord where
  key : String
  handle : ℕ
  unit : String
  bootId : String
  profile : LaunchProfile
  bindingDigest : String
  dispatched : Bool
  stopping : Bool
  absent : Bool
  identity : Option ProcessIdentity
  invocation : Option String
  controlGroup : Option String
  deriving DecidableEq

structure NativeMember where
  pid : ℕ
  birth : ℕ
  controlGroup : String
  executable : Path
  imageDigest : String
  deriving DecidableEq

inductive UnitObservation
  | missing
  | present (invocation controlGroup : String) (mainPid : ℕ) (members : List NativeMember)
      (terminal : Bool)
  deriving DecidableEq

/-- A launch profile with what the deployment binds it to. -/
structure NativeProfile where
  profile : LaunchProfile
  executable : Path
  imageDigest : String
  userData : Path
  arguments : List String
  digest : String
  deriving DecidableEq

/-- The bindings that `NativeConfiguration::read` accepts: each under the id of its
profile, with user-data namespaces and directories of its own. -/
structure NativeProfiles where
  bindings : ExtTreeMap LaunchProfileId NativeProfile compare
  keyed : ∀ id (binding : NativeProfile), bindings[id]? = some binding → binding.profile.id = id
  apart : ∀ (id other : LaunchProfileId) (binding second : NativeProfile),
    bindings[id]? = some binding →
    bindings[other]? = some second → id ≠ other →
      binding.profile.userData ≠ second.profile.userData ∧
        ¬ binding.userData <+: second.userData ∧ ¬ second.userData <+: binding.userData

/-! ### The registry -/

structure RegistryRow where
  id : ℕ
  generationKey : String
  record : GenerationRecord
  deriving DecidableEq

/-- `process_generations`, the next id that it assigns, and the identity of the
registry. -/
structure GenerationRegistry where
  rows : Table String RegistryRow RegistryRow.generationKey
  nextId : ℕ
  identity : String

/-- The registry as `initialize` creates it. -/
def GenerationRegistry.empty (identity : String) : GenerationRegistry where
  rows := .empty
  nextId := 1
  identity := identity

/-- How a write ends: it is done, it failed and changed nothing, or it was
committed and reported as failed. -/
inductive Commit
  | done | failed | lost
  deriving DecidableEq, Repr

inductive Event
  | queried (answered : Bool)
  | drewUnit (id : String)
  | reserved (record : GenerationRecord) (commit : Commit)
  | saved (record : GenerationRecord) (commit : Commit)
  | verifiedImage (answer : Except NativeProcessError Unit)
  | claimedUserData (answer : Except NativeProcessError Unit)
  | started (record : GenerationRecord) (answer : Except ProcessFault Unit)
  | observed (record : GenerationRecord) (answer : Except ProcessFault UnitObservation)
  | stopped (record : GenerationRecord) (mode : StopMode) (answer : Except ProcessFault Unit)
  | emptyGroup (path : String) (answer : Except ProcessFault Bool)

/-- The host: its file system, its service manager and the database.  Each answer
may depend on all exchanges before it. -/
structure Host where
  crashes : List Event → Bool
  query : List Event → Bool
  commit : List Event → Commit
  unitId : List Event → String
  parsesUuid : String → Bool
  verifyImage : List Event → NativeProfile → Except NativeProcessError Unit
  claimUserData : List Event → NativeProfile → String → Except NativeProcessError Unit
  start : List Event → GenerationRecord → NativeProfile → Except ProcessFault Unit
  observe : List Event → GenerationRecord → NativeProfile → Except ProcessFault UnitObservation
  stop : List Event → GenerationRecord → NativeProfile → StopMode → Except ProcessFault Unit
  emptyGroup : List Event → String → Except ProcessFault Bool

structure NativeProcessPort where
  profiles : NativeProfiles
  bootId : String
  capacity : ℕ
  registry : GenerationRegistry

abbrev PortM (Error : Type) := CrashM Error NativeProcessPort Event

/-! ### Well-formed records -/

/-- `valid_digest`. -/
def validDigest (value : String) : Bool := value.utf8ByteSize = 64 ∧ allBytes value isLowerHex

/-- `valid_group`: an absolute control group path that ends in the unit. -/
def validGroup (path unit : String) : Bool :=
  path.startsWith "/" ∧ path.utf8ByteSize ≤ 4096 ∧
    path.toList.all (fun c => c ≠ '\x00' ∧ c ≠ '\n' ∧ c ≠ '\x0d') ∧
    ¬ ['/', '/'] <:+: path.toList ∧
    (path.splitOn "/").all (fun part => part ≠ "." ∧ part ≠ "..") ∧
    ((path.splitOn "/").filter (· ≠ "")).getLast? = some unit

def unitName (id : String) : String := "sts2-gateway-" ++ id ++ ".service"

/-- What stands between the prefix and the suffix of a unit name. -/
def unitId (unit : String) : Option String :=
  ((unit.dropPrefix? "sts2-gateway-").bind fun rest => rest.dropSuffix? ".service").map (·.copy)

section Procedures

variable (host : Host)

/-- A UUID in its 32 digits. -/
def isSimpleUuid (value : String) : Bool := value.utf8ByteSize = 32 ∧ host.parsesUuid value

def validate (record : GenerationRecord) : Except NativeProcessError Unit := do
  refuse (validDigest record.key = false) .registry
  refuse (validDigest record.bindingDigest = false) .registry
  refuse (record.handle = 0 ∨ 2 ^ 63 ≤ record.handle) .registry
  refuse (host.parsesUuid record.bootId = false) .registry
  refuse ((unitId record.unit).any (isSimpleUuid host) = false) .registry
  refuse (record.invocation.any fun value => !isSimpleUuid host value) .registry
  refuse (record.controlGroup.any fun value => !validGroup value record.unit) .registry
  refuse (record.dispatched = false ∧
    (record.stopping = true ∨ record.absent = true ∨ record.invocation.isSome)) .registry
  refuse (record.invocation.isSome ≠ record.controlGroup.isSome) .registry
  refuse (record.stopping = true ∧ record.identity = none) .registry
  refuse (record.absent = true ∧ record.controlGroup = none) .registry
  refuse (record.identity.isSome ∧ record.invocation = none) .registry
  refuse (record.identity.any fun identity => decide (identity.process ≠ record.handle) ||
    !identity.matchesProfile identity.instanceId record.profile) .registry

/-- `decode_row`: a row holds a valid record under its own id and key. -/
def decodeRow (row : RegistryRow) : Except NativeProcessError GenerationRecord := do
  validate host row.record
  refuse (row.id = 0 ∨ row.record.handle ≠ row.id ∨ row.record.key ≠ row.generationKey) .registry
  return row.record

/-! ### Operations -/

/-- A query on the registry, which may fail. -/
def query : PortM NativeProcessError GenerationRegistry := do
  let answered ← interact host.crashes (fun log _ => host.query log) fun _ answered =>
    .queried answered
  check (refuse (answered = false) .registry)
  let port ← getState
  return port.registry

/-- A transaction that writes the registry. -/
def commit (event : Commit → Event) (f : GenerationRegistry → GenerationRegistry) :
    PortM NativeProcessError Unit := do
  let outcome ← interact host.crashes (fun log _ => host.commit log) fun _ outcome => event outcome
  match outcome with
  | .done => modifyState fun port => { port with registry := f port.registry }
  | .failed => raise .registry
  | .lost =>
    modifyState fun port => { port with registry := f port.registry }
    raise .registry

def byKey (key : String) : PortM NativeProcessError (Option GenerationRecord) := do
  let registry ← query host
  match registry.rows.find? key with
  | none => return none
  | some row => some <$> check (decodeRow host row)

def byHandle (handle : ProcessHandle) : PortM NativeProcessError GenerationRecord := do
  check (refuse (2 ^ 63 ≤ handle) .registry)
  let registry ← query host
  let row ← check (okOr (registry.rows.rows.find? fun row => row.id = handle) .registry)
  check (decodeRow host row)

/-- Whether a record of the registry occupies the user data of a profile. -/
def claimed (registry : GenerationRegistry) (profile : LaunchProfile) : Bool :=
  registry.rows.rows.any fun row =>
    row.record.profile.userData = profile.userData ∧ row.record.absent = false

def GenerationRegistry.insert (registry : GenerationRegistry) (record : GenerationRecord) :
    GenerationRegistry :=
  match registry.rows.insert { id := registry.nextId, generationKey := record.key, record } with
  | none => registry
  | some rows => { registry with rows, nextId := registry.nextId + 1 }

def reserve (key : String) (profile : LaunchProfile) (digest boot : String) :
    PortM NativeProcessError (GenerationRecord × Bool) := do
  match ← byKey host key with
  | some record => return (record, false)
  | none =>
    let port ← getState
    check (refuse (port.capacity ≤ port.registry.rows.rows.length) .registry)
    check (port.registry.rows.rows.forM fun row => discard (decodeRow host row))
    check (refuse (claimed port.registry profile = true) .registry)
    let id ← interact host.crashes (fun log _ => host.unitId log) fun _ id => .drewUnit id
    let record : GenerationRecord :=
      { key, handle := port.registry.nextId, unit := unitName id, bootId := boot, profile
        bindingDigest := digest, dispatched := false, stopping := false, absent := false
        identity := none, invocation := none, controlGroup := none }
    check (validate host record)
    commit host (.reserved record) fun registry => registry.insert record
    return (record, true)

/-- What `save` refuses to change. -/
def overwrites (before record : GenerationRecord) : Bool :=
  before.handle ≠ record.handle ∨ before.unit ≠ record.unit ∨ before.profile ≠ record.profile ∨
    before.bindingDigest ≠ record.bindingDigest ∨ before.bootId ≠ record.bootId ∨
    (before.dispatched = true ∧ record.dispatched = false) ∨
    (before.stopping = true ∧ record.stopping = false) ∨
    (before.absent = true ∧ record.absent = false) ∨
    (before.identity.isSome ∧ before.identity ≠ record.identity) ∨
    (before.invocation.isSome ∧ before.invocation ≠ record.invocation) ∨
    (before.controlGroup.isSome ∧ before.controlGroup ≠ record.controlGroup)

/-- `UPDATE ... SET record` leaves the key alone. -/
def RegistryRow.setRecord (record : GenerationRecord) (row : RegistryRow) : RegistryRow :=
  { row with record }

lemma RegistryRow.generationKey_setRecord (record : GenerationRecord) (row : RegistryRow) :
    (row.setRecord record).generationKey = row.generationKey := rfl

def GenerationRegistry.update (registry : GenerationRegistry) (record : GenerationRecord) :
    GenerationRegistry :=
  { registry with
    rows := registry.rows.update (fun row => decide (row.generationKey = record.key))
      (RegistryRow.setRecord record) (RegistryRow.generationKey_setRecord record) }

def save (record : GenerationRecord) : PortM NativeProcessError Unit := do
  let found ← byKey host record.key
  let before ← check (okOr found .registry)
  check (refuse (overwrites before record = true) .registry)
  check (validate host record)
  let port ← getState
  commit host (.saved record) fun registry => registry.update record
  check (refuse (port.registry.rows.count (fun row => decide (row.generationKey = record.key)) ≠ 1)
    .registry)

end Procedures

/-- The key of a generation: the digest of its fields. -/
def generationKey [Sha256] (generation : ProcessOperationGeneration) : String :=
  let kind := match generation.kind with
    | .launchNew => 1
    | .restartReplacement => 2
  let fields := [generation.instanceId, generation.operationId, generation.sequence,
    generation.requestEpoch, generation.authorityEpoch, generation.profileId, kind]
  let bigEndian := fun (field : ℕ) =>
    (List.range 8).map fun i => UInt8.ofNat (field / 256 ^ (7 - i))
  sha256Hex ⟨("sts2-process-generation-v1\x00".toUTF8.data.toList ++
    fields.flatMap bigEndian).toArray⟩

/-! ### What a save keeps -/

/-- What a later record of a generation keeps of an earlier one. -/
structure GenerationRecord.Keeps (before after : GenerationRecord) : Prop where
  handle : after.handle = before.handle
  unit : after.unit = before.unit
  profile : after.profile = before.profile
  bindingDigest : after.bindingDigest = before.bindingDigest
  bootId : after.bootId = before.bootId
  dispatched : before.dispatched = true → after.dispatched = true
  stopping : before.stopping = true → after.stopping = true
  absent : before.absent = true → after.absent = true
  identity : ∀ value, before.identity = some value → after.identity = some value
  invocation : ∀ value, before.invocation = some value → after.invocation = some value
  controlGroup : ∀ value, before.controlGroup = some value → after.controlGroup = some value

namespace GenerationRecord.Keeps

variable {before after later : GenerationRecord}

lemma refl (record : GenerationRecord) : record.Keeps record :=
  ⟨rfl, rfl, rfl, rfl, rfl, id, id, id, fun _ => id, fun _ => id, fun _ => id⟩

lemma trans (h : before.Keeps after) (h' : after.Keeps later) : before.Keeps later where
  handle := h'.handle.trans h.handle
  unit := h'.unit.trans h.unit
  profile := h'.profile.trans h.profile
  bindingDigest := h'.bindingDigest.trans h.bindingDigest
  bootId := h'.bootId.trans h.bootId
  dispatched hb := h'.dispatched (h.dispatched hb)
  stopping hb := h'.stopping (h.stopping hb)
  absent hb := h'.absent (h.absent hb)
  identity value hb := h'.identity value (h.identity value hb)
  invocation value hb := h'.invocation value (h.invocation value hb)
  controlGroup value hb := h'.controlGroup value (h.controlGroup value hb)

end GenerationRecord.Keeps

/-- **Write once.**  What `save` lets through keeps what was saved. -/
lemma keeps_of_not_overwrites {before record : GenerationRecord}
    (h : overwrites before record = false) : before.Keeps record := by
  simp only [overwrites, decide_eq_false_iff_not, not_or, not_not, not_and, Bool.not_eq_false]
    at h
  obtain ⟨hhandle, hunit, hprofile, hdigest, hboot, hdispatched, hstopping, habsent, hidentity,
    hinvocation, hgroup⟩ := h
  refine ⟨hhandle.symm, hunit.symm, hprofile.symm, hdigest.symm, hboot.symm, hdispatched,
    hstopping, habsent, fun value hv => ?_, fun value hv => ?_, fun value hv => ?_⟩
  · rw [← hidentity (by rw [hv]; rfl), hv]
  · rw [← hinvocation (by rw [hv]; rfl), hv]
  · rw [← hgroup (by rw [hv]; rfl), hv]

end Sts2Gateway.Native
