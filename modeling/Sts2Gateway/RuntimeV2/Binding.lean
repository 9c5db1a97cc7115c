/-
The owner's authority and the ledger's binding (`runtime_v2/authority.rs`,
`runtime_v2/identity_fence.rs`).

* `Authority`, `BindingIdentity`: identities that carry the proof that their
  constructor accepted them;
* `RecoveryContract.validateAuthority`: identity first, then the boot epoch;
* `Binding.fenceFailure`: the first identity field that differs;
* `fenceFailure_eq_none`: an unfenced request has the binding's identity.
-/
import Mathlib.Tactic
import Sts2Gateway.RuntimeV2.Identity

namespace Sts2Gateway.RuntimeV2

open Procedure

/-! ### Owner authority -/

/-- The owner-issued identity that authorizes one gateway context. -/
structure Authority where
  instanceId : String
  sessionId : String
  leaseId : String
  leaseEpoch : ℕ
  bootEpoch : String
  instanceChecked : validateIdentity instanceId = .ok ()
  sessionChecked : validateIdentity sessionId = .ok ()
  leaseChecked : validateIdentity leaseId = .ok ()
  bootChecked : validateIdentity bootEpoch = .ok ()
  epochBound : leaseEpoch ≤ maxGeneration

/-- Checks the four identities in order, then the epoch. -/
def Authority.new (instanceId sessionId leaseId : String) (leaseEpoch : ℕ) (bootEpoch : String) :
    Except ValidationError Authority :=
  match h : [instanceId, sessionId, leaseId, bootEpoch].forM validateIdentity with
  | .error e => .error e
  | .ok _ =>
    if hepoch : maxGeneration < leaseEpoch then .error .generationBounds
    else
      .ok {
        instanceId, sessionId, leaseId, leaseEpoch, bootEpoch
        instanceChecked := list_forM_eq_ok.mp h _ (by simp)
        sessionChecked := list_forM_eq_ok.mp h _ (by simp)
        leaseChecked := list_forM_eq_ok.mp h _ (by simp)
        bootChecked := list_forM_eq_ok.mp h _ (by simp)
        epochBound := not_lt.mp hepoch }

inductive RecoveryError where
  | authorityRequired
  | authorityMismatch
  | staleBootEpoch
  | receiptRetentionUnavailable
  | invalidReceiptRetention
deriving DecidableEq, Repr

/-- The scope and lifetime of receipts available to recovery. -/
inductive ReceiptRetention where
  | unavailable
  | processLifetime (maxOperations : ℕ)
  | durable (maxOperations retentionSeconds : ℕ)
deriving DecidableEq, Repr

def ReceiptRetention.isAvailable : ReceiptRetention → Bool
  | .unavailable => false
  | _ => true

def ReceiptRetention.validate : ReceiptRetention → Except RecoveryError Unit
  | .unavailable => .ok ()
  | .processLifetime maxOperations => refuse (maxOperations = 0) .invalidReceiptRetention
  | .durable maxOperations retentionSeconds =>
    refuse (maxOperations = 0 ∨ retentionSeconds = 0) .invalidReceiptRetention

/-- Recovery admission contract for workflow-facing use. -/
structure RecoveryContract where
  authority : Authority
  receiptRetention : ReceiptRetention
  retentionChecked : receiptRetention.validate = .ok ()

namespace RecoveryContract

def requireReceiptAccess (c : RecoveryContract) : Except RecoveryError Unit :=
  refuse (¬ c.receiptRetention.isAvailable) .receiptRetentionUnavailable

def validateAuthority (c : RecoveryContract) (presented : Authority) :
    Except RecoveryError Unit := do
  refuse (presented.instanceId ≠ c.authority.instanceId ∨
    presented.sessionId ≠ c.authority.sessionId ∨ presented.leaseId ≠ c.authority.leaseId ∨
    presented.leaseEpoch ≠ c.authority.leaseEpoch) .authorityMismatch
  refuse (presented.bootEpoch ≠ c.authority.bootEpoch) .staleBootEpoch

end RecoveryContract

/-! ### The binding -/

/-- The identity part of a binding, which no call changes. -/
structure BindingIdentity where
  metadata : Metadata
  instanceId : String
  sessionId : String
  leaseId : String
  leaseEpoch : ℕ
  authority : Option Authority
  metadataChecked : metadata.validate = .ok ()
  instanceChecked : validateIdentity instanceId = .ok ()
  sessionChecked : validateIdentity sessionId = .ok ()
  leaseChecked : validateIdentity leaseId = .ok ()
  epochBound : leaseEpoch ≤ maxGeneration

/-- Runtime-v2 identity and the gateway's last known observation. -/
structure Binding extends BindingIdentity where
  observation : Observation

inductive FenceFailure where
  | wrongInstance
  | wrongSession
  | wrongLease
  | staleEpoch
deriving DecidableEq, Repr

namespace Binding

/-- A binding with explicit metadata. -/
def withMetadata (metadata : Metadata) (instanceId sessionId leaseId : String) (leaseEpoch : ℕ)
    (observation : Observation) : Except ValidationError Binding :=
  match hmeta : metadata.validate with
  | .error e => .error e
  | .ok _ =>
    match h : [instanceId, sessionId, leaseId].forM validateIdentity with
    | .error e => .error e
    | .ok _ =>
      if hepoch : maxGeneration < leaseEpoch then .error .generationBounds
      else do
        observation.validate
        return {
          metadata, instanceId, sessionId, leaseId, leaseEpoch, observation
          authority := none
          metadataChecked := hmeta
          instanceChecked := list_forM_eq_ok.mp h _ (by simp)
          sessionChecked := list_forM_eq_ok.mp h _ (by simp)
          leaseChecked := list_forM_eq_ok.mp h _ (by simp)
          epochBound := not_lt.mp hepoch }

/-- A binding with the copied artifact's metadata. -/
def new (instanceId sessionId leaseId : String) (leaseEpoch : ℕ) (observation : Observation) :
    Except ValidationError Binding :=
  withMetadata Metadata.new instanceId sessionId leaseId leaseEpoch observation

/-- A workflow binding with a boot epoch and owner authority. -/
def withAuthority (authority : Authority) (observation : Observation) :
    Except ValidationError Binding := do
  observation.validate
  return {
    metadata := Metadata.new
    instanceId := authority.instanceId
    sessionId := authority.sessionId
    leaseId := authority.leaseId
    leaseEpoch := authority.leaseEpoch
    authority := some authority
    observation
    metadataChecked := metadata_validate_eq_ok.mpr rfl
    instanceChecked := authority.instanceChecked
    sessionChecked := authority.sessionChecked
    leaseChecked := authority.leaseChecked
    epochBound := authority.epochBound }

def bootEpoch (b : Binding) : Option String := b.authority.map (·.bootEpoch)

def fenceFailure (b : Binding) (request : Message) : Option FenceFailure :=
  if request.instanceId ≠ b.instanceId then some .wrongInstance
  else if request.sessionId ≠ b.sessionId then some .wrongSession
  else if request.leaseId ≠ b.leaseId then some .wrongLease
  else if request.leaseEpoch ≠ b.leaseEpoch then some .staleEpoch
  else none

/-- An unfenced request carries the binding's identity. -/
lemma fenceFailure_eq_none {b : Binding} {request : Message} :
    b.fenceFailure request = none ↔
      request.instanceId = b.instanceId ∧ request.sessionId = b.sessionId ∧
        request.leaseId = b.leaseId ∧ request.leaseEpoch = b.leaseEpoch := by
  unfold fenceFailure
  split_ifs <;> simp_all

/-- Every binding that a constructor returns has a checked observation. -/
lemma observation_of_withMetadata {metadata : Metadata} {instanceId sessionId leaseId : String}
    {leaseEpoch : ℕ} {observation : Observation} {b : Binding}
    (h : withMetadata metadata instanceId sessionId leaseId leaseEpoch observation = .ok b) :
    b.observation.validate = .ok () := by
  unfold withMetadata at h
  split at h
  · cases h
  · split at h
    · cases h
    · split_ifs at h
      obtain ⟨_, hobs, hb⟩ := except_bind_eq_ok.mp h
      cases hb
      exact hobs

/-- Every workflow binding that the constructor returns has a checked observation. -/
lemma observation_of_withAuthority {authority : Authority} {observation : Observation} {b : Binding}
    (h : withAuthority authority observation = .ok b) : b.observation.validate = .ok () := by
  obtain ⟨_, hobs, hb⟩ := except_bind_eq_ok.mp h
  cases hb
  exact hobs

end Binding

end Sts2Gateway.RuntimeV2
