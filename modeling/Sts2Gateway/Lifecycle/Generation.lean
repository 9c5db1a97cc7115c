/-
Process generations (`process_operation_generation.rs`).

* `ProcessOperationGeneration`: the key of one process creation that a retained
  operation authorizes;
* `permitsRestartRecovery`, `forOperation`: the fence of a replacement, and the
  key of an operation with its resolved profile;
* `forOperation_eq_some`: **a key is built only from a sequenced operation whose
  state allows it**.
-/
import Sts2Gateway.Lifecycle.Contract

namespace Sts2Gateway.Lifecycle

open ControlPlane (InstanceId OperationId ProcessFault)

inductive ProcessGenerationKind
  | launchNew | restartReplacement
  deriving DecidableEq, Repr

structure ProcessOperationGeneration where
  instanceId : InstanceId
  operationId : OperationId
  sequence : ℕ
  requestEpoch : AuthorityEpoch
  authorityEpoch : AuthorityEpoch
  profileId : LaunchProfileId
  kind : ProcessGenerationKind
  deriving DecidableEq, Repr

namespace ProcessOperationGeneration

def permitsRestartRecovery (operation : LifecycleOperation) (currentEpoch : AuthorityEpoch) :
    Bool :=
  operation.sequence ≠ 0 ∧ operation.authorityEpoch = currentEpoch ∧
    operation.requestEpoch ≠ operation.authorityEpoch

/-- The profile that the action names, for an action of the kind. -/
def operationProfile (kind : ProcessGenerationKind) (action : LifecycleAction) :
    Option LaunchProfileId :=
  match kind, action with
  | .launchNew, .launchNew profileId => some profileId
  | .restartReplacement, .restart profileId => some profileId
  | _, _ => none

def stateAllows (kind : ProcessGenerationKind) (state : LifecycleOperationState) : Bool :=
  match kind with
  | .launchNew => state = .starting ∨ state = .unknown
  | .restartReplacement => state = .restarting ∨ state = .unknown

def forOperation (operation : LifecycleOperation) (profile : LaunchProfile)
    (kind : ProcessGenerationKind) : Option ProcessOperationGeneration :=
  match operationProfile kind operation.action with
  | none => none
  | some profileId =>
    if operation.sequence = 0 ∨ profile.id ≠ profileId then none
    else if stateAllows kind operation.state = false then none
    else if kind = .restartReplacement ∧ operation.requestEpoch = operation.authorityEpoch then none
    else some
      { instanceId := operation.instanceId
        operationId := operation.operationId
        sequence := operation.sequence
        requestEpoch := operation.requestEpoch
        authorityEpoch := operation.authorityEpoch
        profileId := profileId
        kind := kind }

variable {operation : LifecycleOperation} {profile : LaunchProfile} {kind : ProcessGenerationKind}

/-- **Keys.**  When an operation has a key, and which one. -/
theorem forOperation_eq_some {generation : ProcessOperationGeneration} :
    forOperation operation profile kind = some generation ↔
      operationProfile kind operation.action = some profile.id ∧ operation.sequence ≠ 0 ∧
        stateAllows kind operation.state = true ∧
        (kind = .restartReplacement → operation.requestEpoch ≠ operation.authorityEpoch) ∧
        generation = {
          instanceId := operation.instanceId
          operationId := operation.operationId
          sequence := operation.sequence
          requestEpoch := operation.requestEpoch
          authorityEpoch := operation.authorityEpoch
          profileId := profile.id
          kind := kind } := by
  unfold forOperation
  cases hprofile : operationProfile kind operation.action with
  | none => simp
  | some profileId =>
    dsimp only
    split_ifs with hsequence hstate hepochs
    · simp only [Option.some.injEq, false_iff, not_and]
      rintro rfl hnonzero
      simp [hnonzero] at hsequence
    · simp [hstate]
    · simp [hepochs.1, hepochs.2]
    · simp only [not_or, not_not] at hsequence
      obtain ⟨hnonzero, rfl⟩ := hsequence
      have hallowed : stateAllows kind operation.state = true := by simpa using hstate
      simp only [not_and] at hepochs
      simp only [Option.some.injEq, hnonzero, hallowed, ne_eq, not_false_iff, true_and,
        eq_comm (a := generation)]
      exact ⟨fun h => ⟨hepochs, h⟩, fun h => h.2⟩

end ProcessOperationGeneration

/-- What a start reports when it starts nothing, or may have started something. -/
inductive GenerationStartError
  | unsupported
  | process (fault : ProcessFault)
  deriving DecidableEq, Repr

inductive GenerationRecovery
  | found (identity : ProcessIdentity)
  | indeterminate
  deriving DecidableEq, Repr

end Sts2Gateway.Lifecycle
