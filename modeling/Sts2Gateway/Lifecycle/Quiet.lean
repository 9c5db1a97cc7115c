/-
The procedures of the lifecycle coordinator that stop no process.

* `Event.Quiet`, `Quiet`: exchanges that are no stop, and procedures with no other;
* `quiet_executeAttach`, `quiet_finishRecovered`, `quiet_verifyRecord`: **a process that is
  attached, found again or verified again is not stopped**, whatever the ports answer.
-/
import Sts2Gateway.Lifecycle.Reconcile

namespace Sts2Gateway.Lifecycle

open ControlPlane (InstanceId LeaseProof ProcessHandle ProcessFault)
open Procedure Exchange Crash

/-! ### Procedures that stop nothing -/

/-- An exchange that is no stop. -/
def Event.Quiet : Event → Prop
  | .stopped _ _ _ => False
  | _ => True

section Quiet

variable {env : Environment} {α : Type}

/-- A procedure that stops no process. -/
abbrev Quiet (p : LifecycleM α) : Prop := Emits Event.Quiet p

lemma quiet_memory : Quiet memory := Emits.getState.map _

lemma quiet_remember (f : ProcessLifecycle → ProcessLifecycle) : Quiet (remember f) :=
  Emits.modifyState _

lemma quiet_write (w : StoreWrite) : Quiet (write env w) :=
  (Emits.interact fun _ _ => trivial).bind fun _ => (Emits.modifyState _).bind fun _ => .check _

lemma quiet_inspectIdentity (process : ProcessHandle) : Quiet (inspectIdentity env process) :=
  .interact fun _ _ => trivial

lemma quiet_inspect (process : ProcessHandle) : Quiet (inspect env process) :=
  .interact fun _ _ => trivial

lemma quiet_descendants (process : ProcessHandle) : Quiet (descendants env process) :=
  .interact fun _ _ => trivial

lemma quiet_recoverGeneration (generation : ProcessOperationGeneration) (profile : LaunchProfile) :
    Quiet (recoverGeneration env generation profile) :=
  .interact fun _ _ => trivial

lemma quiet_authenticate (instanceId : InstanceId) (proof : LeaseProof)
    (authorityEpoch : AuthorityEpoch) : Quiet (authenticate env instanceId proof authorityEpoch) :=
  quiet_memory.bind fun _ => (Emits.check _).bind fun _ =>
    (Emits.interact fun _ _ => trivial).bind fun _ => (Emits.check _).bind fun _ => .check _

lemma quiet_persistInsert (operation : LifecycleOperation) : Quiet (persistInsert env operation) :=
  quiet_memory.bind fun _ => (Emits.check _).bind fun _ =>
    (quiet_write _).bind fun _ => quiet_remember _

lemma quiet_persistUpdate (operation : LifecycleOperation) : Quiet (persistUpdate env operation) :=
  (quiet_write _).bind fun _ => quiet_remember _

lemma quiet_persistOwnership (row : LifecycleOwnership) : Quiet (persistOwnership env row) :=
  (quiet_write _).bind fun _ => quiet_remember _

lemma quiet_reserveOwnership (operation : LifecycleOperation) (profileId : LaunchProfileId) :
    Quiet (reserveOwnership env operation profileId) := by
  refine quiet_memory.bind fun lifecycle => ?_
  split
  · exact quiet_persistOwnership _
  · exact .pure _

lemma quiet_setOwned (operation : LifecycleOperation) (profileId : LaunchProfileId)
    (identity : ProcessIdentity) : Quiet (setOwned env operation profileId identity) := by
  refine quiet_memory.bind fun lifecycle => ?_
  split
  · exact quiet_persistOwnership _
  · exact .pure _

lemma quiet_setOwnerProcessForOperation (operation : LifecycleOperation)
    (process : Option ProcessIdentity) :
    Quiet (setOwnerProcessForOperation env operation process) := by
  refine quiet_memory.bind fun lifecycle => ?_
  split
  · split
    · exact .pure _
    · exact quiet_persistOwnership _
  · exact .pure _

lemma quiet_clearOwned (instanceId : InstanceId) : Quiet (clearOwned env instanceId) := by
  refine quiet_memory.bind fun lifecycle => ?_
  split
  · exact quiet_remember _
  · exact (quiet_write _).bind fun _ => quiet_remember _

lemma quiet_clearOwnedFor (operation : LifecycleOperation) :
    Quiet (clearOwnedFor env operation) := by
  refine quiet_memory.bind fun lifecycle => ?_
  split
  · exact quiet_clearOwned _
  · exact .pure _

lemma quiet_issueSequence : Quiet issueSequence :=
  quiet_memory.bind fun _ => (Emits.check _).bind fun _ => (quiet_remember _).bind fun _ => .pure _

lemma quiet_verifyDescendants (expected : ProcessIdentity) (profile : LaunchProfile) :
    Quiet (verifyDescendants env expected profile) := by
  refine (quiet_descendants _).bind fun answer => ?_
  cases answer with
  | error fault => exact .pure _
  | ok found =>
    dsimp only
    split_ifs <;> exact .pure _

lemma quiet_verifyProcess (expected : ProcessIdentity) (profile : LaunchProfile) :
    Quiet (verifyProcess env expected profile) := by
  unfold verifyProcess
  split_ifs with hmatch
  · exact .pure _
  · refine (quiet_inspectIdentity _).bind fun answer => ?_
    cases answer with
    | error fault => exact .pure _
    | ok actual =>
      dsimp only
      split_ifs with hactual
      · exact .pure _
      · refine (quiet_inspect _).bind fun state => ?_
        rcases state with fault | ⟨⟩ | code
        · exact .pure _
        · exact (quiet_verifyDescendants _ _).bind fun _ => .pure _
        · exact .pure _

lemma quiet_verifyStartedIdentity (expected : ProcessIdentity) (profile : LaunchProfile) :
    Quiet (verifyStartedIdentity env expected profile) := by
  refine (quiet_inspectIdentity _).bind fun answer => ?_
  cases answer with
  | error fault => exact .pure _
  | ok actual =>
    dsimp only
    split_ifs with hactual hmatch
    · exact .pure _
    · exact .pure _
    · refine (quiet_inspect _).bind fun state => ?_
      rcases state with fault | ⟨⟩ | code
      · exact .pure _
      · exact quiet_verifyDescendants _ _
      · exact .pure _

lemma quiet_confirmExited (expected : ProcessIdentity) :
    Quiet (confirmExitedWithoutDescendants env expected) := by
  refine (quiet_inspectIdentity _).bind fun answer => ?_
  cases answer with
  | error fault => exact .pure _
  | ok actual =>
    dsimp only
    split_ifs with hactual
    · exact .pure _
    · refine (quiet_inspect _).bind fun state => ?_
      rcases state with fault | ⟨⟩ | code
      · exact .pure _
      · exact .pure _
      · refine (quiet_descendants _).bind fun found => ?_
        cases found <;> exact .pure _

lemma quiet_blockOperation (operation : LifecycleOperation) (failure : LifecycleFailure) :
    Quiet (blockOperation env operation failure) := by
  refine quiet_memory.bind fun lifecycle => (quiet_persistUpdate _).bind fun _ => ?_
  split
  · exact (quiet_clearOwnedFor _).bind fun _ => .raise _
  · exact .raise _

lemma quiet_blockCleanup (operation : LifecycleOperation) (failure : LifecycleFailure) :
    Quiet (blockCleanup env operation failure) :=
  (quiet_setOwnerProcessForOperation _ _).bind fun _ => (quiet_persistUpdate _).bind fun _ =>
    .raise _

lemma quiet_blockCleanupLifecycleError (operation : LifecycleOperation) (error : LifecycleError) :
    Quiet (blockCleanupLifecycleError env operation error) := by
  cases error with
  | foreignDescendant | identityMismatch | process => exact quiet_blockCleanup _ _
  | _ => exact .raise _

lemma quiet_unknown (operation : LifecycleOperation) (process : Option ProcessIdentity)
    (failure : Option LifecycleFailure) : Quiet (unknown env operation process failure) :=
  (quiet_persistUpdate _).bind fun _ => .pure _

lemma quiet_recoverStarted (operation : LifecycleOperation) :
    Quiet (recoverStarted env operation) := by
  refine quiet_memory.bind fun lifecycle => ?_
  cases lifecycle.generationOf operation with
  | none => exact .pure _
  | some pair =>
    refine (quiet_recoverGeneration _ _).bind fun answer => ?_
    rcases answer with fault | identity | ⟨⟩ <;> exact .pure _

lemma quiet_processFailure (operation : LifecycleOperation) (fault : ProcessFault) :
    Quiet (processFailure env operation fault) := by
  unfold processFailure
  split_ifs with hnone hrefused
  · exact (quiet_persistUpdate _).bind fun _ => (quiet_clearOwnedFor _).bind fun _ => .raise _
  · exact (quiet_recoverStarted _).bind fun _ => (quiet_persistUpdate _).bind fun _ =>
      (quiet_setOwnerProcessForOperation _ _).bind fun _ => .raise _
  · exact quiet_blockOperation _ _

lemma quiet_executeAttach (operation : LifecycleOperation) (identity : ProcessIdentity) :
    Quiet (executeAttach env operation identity) := by
  refine quiet_memory.bind fun lifecycle => ?_
  split
  · exact quiet_blockOperation _ _
  · split
    · exact quiet_blockOperation _ _
    · dsimp only
      split_ifs with hother
      · exact quiet_blockOperation _ _
      · refine (Emits.check _).bind fun profile => (quiet_persistUpdate _).bind fun _ =>
          (quiet_verifyProcess _ _).bind fun verified => ?_
        cases verified with
        | error error => exact quiet_blockCleanupLifecycleError _ _
        | ok _ =>
          exact (quiet_setOwned _ _ _).bind fun _ => (quiet_persistUpdate _).bind fun _ => .pure _

lemma quiet_finishFailedLaunchCleanup (operation : LifecycleOperation)
    (identity : ProcessIdentity) :
    Quiet (finishFailedLaunchCleanup env operation identity) := by
  refine (quiet_descendants _).bind fun answer => ?_
  cases answer with
  | error fault => exact quiet_blockCleanup _ _
  | ok found =>
    dsimp only
    split_ifs with hnone
    · exact (quiet_persistUpdate _).bind fun _ => (quiet_clearOwnedFor _).bind fun _ => .pure _
    · exact quiet_blockCleanup _ _

lemma quiet_blockDrifted (operation : LifecycleOperation) (identity : ProcessIdentity) :
    Quiet (blockDrifted env operation identity) :=
  (quiet_persistUpdate _).bind fun _ => (quiet_setOwnerProcessForOperation _ _).bind fun _ =>
    .raise _

/-- A process that the port found again is blocked, never stopped. -/
lemma quiet_finishRecovered (operation : LifecycleOperation) (launch : ProcessLaunch)
    (profile : LaunchProfile) : Quiet (finishRecovered env operation launch profile) := by
  unfold finishRecovered
  dsimp only
  split_ifs with hmatch
  · exact quiet_blockCleanup _ _
  · refine (quiet_verifyStartedIdentity _ _).bind fun verified => ?_
    cases verified with
    | error failure => exact quiet_blockCleanup _ _
    | ok _ =>
      exact (quiet_persistUpdate _).bind fun _ => (quiet_setOwned _ _ _).bind fun _ => .pure _

lemma quiet_recordUnverified (operation : LifecycleOperation) (identity : ProcessIdentity)
    (failure : LifecycleFailure) (confirmedCleanup : Bool) :
    Quiet (recordUnverified env operation identity failure confirmedCleanup) := by
  refine (quiet_persistUpdate _).bind fun _ => ?_
  split_ifs with hconfirmed hmismatch
  · exact (quiet_clearOwnedFor _).bind fun _ => .raise _
  · exact (quiet_setOwnerProcessForOperation _ _).bind fun _ => .raise _
  · exact .raise _

lemma quiet_verifyRecord (operation : LifecycleOperation) :
    Quiet (verifyRecord env operation) := by
  refine (Emits.check _).bind fun identity => quiet_memory.bind fun lifecycle =>
    (Emits.check _).bind fun profile => (quiet_verifyStartedIdentity _ _).bind fun verified => ?_
  cases verified with
  | error failure =>
    dsimp only
    split_ifs with hinspection
    · exact (quiet_confirmExited _).bind fun _ => quiet_recordUnverified _ _ _ _
    · exact quiet_recordUnverified _ _ _ _
  | ok _ =>
    dsimp only
    split_ifs with hunknown
    · exact (quiet_persistUpdate _).bind fun _ => (quiet_setOwned _ _ _).bind fun _ => .pure _
    · exact (quiet_setOwned _ _ _).bind fun _ => .pure _

lemma quiet_rotateAuthority (operation : LifecycleOperation) (current : AuthorityEpoch) :
    Quiet (rotateAuthority operation current) := by
  unfold rotateAuthority
  split_ifs with hfirst
  · exact (Emits.check _).bind fun _ => (quiet_remember _).bind fun _ => .pure _
  · exact .pure _

lemma quiet_persistRestarting (operation : LifecycleOperation) (identity : ProcessIdentity)
    (current : AuthorityEpoch) : Quiet (persistRestarting env operation identity current) := by
  refine (quiet_rotateAuthority _ _).bind fun rotated =>
    (quiet_persistUpdate _).attempt.bind fun persisted => ?_
  cases persisted with
  | ok _ => exact .pure _
  | error error =>
    dsimp only
    split_ifs with hfirst
    · exact (quiet_remember _).bind fun _ => .raise _
    · exact .raise _

lemma quiet_beginRestart (operation : LifecycleOperation) (identity : ProcessIdentity) :
    Quiet (beginRestart env operation identity) := by
  refine quiet_memory.bind fun lifecycle => (Emits.check _).bind fun _ =>
    (quiet_persistRestarting _ _ _).bind fun restarting => ?_
  split
  · exact (quiet_reserveOwnership _ _).bind fun _ => .pure _
  · exact .raise _

lemma quiet_prepareRestartRecovery (operation : LifecycleOperation) (profile : LaunchProfile) :
    Quiet (prepareRestartRecovery env operation profile) := by
  refine (Emits.check _).bind fun identity => ?_
  split
  · exact quiet_beginRestart _ _
  · exact quiet_memory.bind fun _ => (Emits.check _).bind fun _ =>
      (quiet_reserveOwnership _ _).bind fun _ => .pure _

end Quiet

end Sts2Gateway.Lifecycle
