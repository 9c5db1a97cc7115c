/-
The Runtime-v2 contract (`runtime_v2/contract_types.rs`, `message_validation.rs`,
`message_constructors.rs`, `helpers.rs`): the message, its bounds and its
kind-specific shape.

* `Message`: a request, a response or a retained receipt;
* `Message.validate`: metadata, bounds, identities and result shape;
* `validate_eq_ok`: what acceptance says, as one structure of facts
  (`Message.Checked`), so that no later proof unfolds the validator;
* `Checked.observation_of_result`, `Checked.witness_of_settled`,
  `Checked.fields_of_actionRequest`: the fields that each accepted shape has.
-/
import Mathlib.Tactic
import Sts2Gateway.Library.Procedure
import Sts2Gateway.Library.Text

namespace Sts2Gateway.RuntimeV2

open Procedure Text

/-! ### Constants of the frozen artifact -/

def protocolVersion : String := "runtime-v2"
def artifact : String := "sts2-protocol/runtime-v2"
def schemaSource : String := "schemas/runtime-v2.schema.json"
def generator : String := "hand-authored"
def schemaDigest : String := "f7963b19c8ed5bbdc02c08e83c7a2e16c4771ed5eb798b29a8208d7a917a86c2"
def actionId : String := "end_turn"
def effectKind : String := "turn_end_settled"
/-- Maximum generation and lease epoch. -/
def maxGeneration : ℕ := 9007199254740991
def maxTurnIndex : ℕ := 1024

/-! ### The message -/

inductive CombatPhase where
  | outsideCombat
  | playerTurn
  | enemyTurn
deriving DecidableEq, Repr

/-- The five operation outcomes. -/
inductive Status where
  | accepted
  | settled
  | rejected
  | unknown
  | cancelled
deriving DecidableEq, Repr

/-- The six message kinds. -/
inductive MessageKind where
  | stateRequest
  | stateResponse
  | actionRequest
  | actionResponse
  | reconcileRequest
  | reconcileResponse
deriving DecidableEq, Repr

structure Provenance where
  artifact : String
  source : String
  generator : String
deriving DecidableEq, Repr

/-- Release metadata required by every message. -/
structure Metadata where
  protocolVersion : String
  schemaDigest : String
  provenance : Provenance
deriving DecidableEq, Repr

structure Observation where
  combatPhase : CombatPhase
  turnIndex : ℕ
  hostReady : Bool
  generation : ℕ
deriving DecidableEq, Repr

/-- The fixed action, without arguments. -/
structure Action where
  actionId : String
deriving DecidableEq, Repr

/-- The witness of a settled end-turn effect. -/
structure EffectWitness where
  kind : String
  generation : ℕ
deriving DecidableEq, Repr

structure Message where
  protocolVersion : String
  schemaDigest : String
  provenance : Provenance
  correlationId : String
  instanceId : String
  sessionId : String
  leaseId : String
  leaseEpoch : ℕ
  generation : ℕ
  kind : MessageKind
  operationId : Option String
  observation : Option Observation
  action : Option Action
  status : Option Status
  errorCode : Option String
  effectWitness : Option EffectWitness
deriving DecidableEq, Repr

inductive ValidationError where
  | metadata
  | provenance
  | invalidIdentity
  | generationBounds
  | observationBounds
  | actionBounds
  | effectBounds
  | resultShape
deriving DecidableEq, Repr

/-! ### Field checks -/

/-- Not empty, at most 128 bytes, letters, digits and dots, underscores,
colons, slashes and dashes only. -/
def validateIdentity (value : String) : Except ValidationError Unit :=
  refuse (value.utf8ByteSize = 0 ∨ 128 < value.utf8ByteSize ∨
    ¬ allBytes value (fun byte =>
      isAsciiAlphanumeric byte || ".-_:/".toUTF8.data.toList.contains byte))
    .invalidIdentity

/-- 64 lower-case hexadecimal digits. -/
def isDigest (value : String) : Bool :=
  value.utf8ByteSize = 64 && allBytes value isLowerHex

def Metadata.new : Metadata where
  protocolVersion := RuntimeV2.protocolVersion
  schemaDigest := RuntimeV2.schemaDigest
  provenance :=
    { artifact := RuntimeV2.artifact, source := schemaSource, generator := RuntimeV2.generator }

def Provenance.validate (p : Provenance) : Except ValidationError Unit :=
  refuse (p.artifact ≠ RuntimeV2.artifact ∨ p.source ≠ schemaSource ∨
    p.generator ≠ RuntimeV2.generator) .provenance

def Metadata.validate (m : Metadata) : Except ValidationError Unit := do
  refuse (m.protocolVersion ≠ RuntimeV2.protocolVersion ∨
    m.schemaDigest ≠ RuntimeV2.schemaDigest ∨ ¬ isDigest m.schemaDigest) .metadata
  m.provenance.validate

def Observation.validate (o : Observation) : Except ValidationError Unit := do
  refuse (maxTurnIndex < o.turnIndex) .observationBounds
  refuse (maxGeneration < o.generation) .generationBounds

def Action.validate (a : Action) : Except ValidationError Unit :=
  refuse (a.actionId ≠ RuntimeV2.actionId) .actionBounds

def EffectWitness.validate (w : EffectWitness) : Except ValidationError Unit := do
  refuse (w.kind ≠ effectKind) .effectBounds
  refuse (maxGeneration < w.generation) .generationBounds

namespace Message

def validateMetadata (m : Message) : Except ValidationError Unit :=
  ({ protocolVersion := m.protocolVersion, schemaDigest := m.schemaDigest,
     provenance := m.provenance } : Metadata).validate

def validateCommonFields (m : Message) : Except ValidationError Unit := do
  [m.correlationId, m.instanceId, m.sessionId, m.leaseId].forM validateIdentity
  refuse (maxGeneration < m.leaseEpoch ∨ maxGeneration < m.generation) .generationBounds
  m.operationId.forM validateIdentity
  m.observation.forM Observation.validate
  m.action.forM Action.validate
  m.errorCode.forM validateIdentity
  m.effectWitness.forM EffectWitness.validate

def observationGenerationMatches (m : Message) : Bool :=
  m.observation.any (fun observation => observation.generation = m.generation)

def resultFieldsMatchStatus (m : Message) : Bool :=
  match m.status with
  | some .accepted =>
    m.observationGenerationMatches && m.errorCode.isNone && m.effectWitness.isNone
  | some .settled =>
    m.observationGenerationMatches && m.errorCode.isNone &&
      m.effectWitness.any (fun witness => witness.generation = m.generation)
  | some .rejected | some .cancelled =>
    m.observationGenerationMatches && m.errorCode.isSome && m.effectWitness.isNone
  | some .unknown => m.observation.isNone && m.errorCode.isSome && m.effectWitness.isNone
  | none => false

/-- The five kind-specific shape checks (`validate_state_request` to
`validate_result`). -/
def shapeMatches (m : Message) : Bool :=
  match m.kind with
  | .stateRequest =>
    m.operationId.isNone && m.observation.isNone && m.action.isNone && m.status.isNone &&
      m.errorCode.isNone && m.effectWitness.isNone
  | .stateResponse =>
    m.operationId.isNone && m.observationGenerationMatches && m.action.isNone &&
      m.status.isNone && m.errorCode.isNone && m.effectWitness.isNone
  | .actionRequest =>
    m.operationId.isSome && m.action.isSome && m.observation.isNone && m.status.isNone &&
      m.errorCode.isNone && m.effectWitness.isNone
  | .reconcileRequest =>
    m.operationId.isSome && m.action.isNone && m.observation.isNone && m.status.isNone &&
      m.errorCode.isNone && m.effectWitness.isNone
  | .actionResponse | .reconcileResponse =>
    m.operationId.isSome && m.action.isSome && m.status.isSome && m.resultFieldsMatchStatus

/-- Validates metadata, bounds, identities and kind-specific result shape. -/
def validate (m : Message) : Except ValidationError Unit := do
  m.validateMetadata
  m.validateCommonFields
  refuse (¬ m.shapeMatches) .resultShape

/-- An action or reconciliation result with explicit result fields. -/
def result (metadata : Metadata) (correlationId instanceId sessionId leaseId : String)
    (leaseEpoch generation : ℕ) (operationId : String) (action : Action) (status : Status)
    (observation : Option Observation) (errorCode : Option String)
    (effectWitness : Option EffectWitness) (kind : MessageKind) : Message where
  protocolVersion := metadata.protocolVersion
  schemaDigest := metadata.schemaDigest
  provenance := metadata.provenance
  correlationId := correlationId
  instanceId := instanceId
  sessionId := sessionId
  leaseId := leaseId
  leaseEpoch := leaseEpoch
  generation := generation
  kind := kind
  operationId := some operationId
  observation := observation
  action := some action
  status := some status
  errorCode := errorCode
  effectWitness := effectWitness

/-- An action request with a stable operation identity. -/
def actionRequest (metadata : Metadata) (correlationId instanceId sessionId leaseId : String)
    (leaseEpoch generation : ℕ) (operationId : String) (action : Action) : Message where
  protocolVersion := metadata.protocolVersion
  schemaDigest := metadata.schemaDigest
  provenance := metadata.provenance
  correlationId := correlationId
  instanceId := instanceId
  sessionId := sessionId
  leaseId := leaseId
  leaseEpoch := leaseEpoch
  generation := generation
  kind := .actionRequest
  operationId := some operationId
  observation := none
  action := some action
  status := none
  errorCode := none
  effectWitness := none

/-! ### What acceptance says -/

/-- The facts about one message that its validation establishes. -/
structure Checked (m : Message) : Prop where
  protocolVersion : m.protocolVersion = Metadata.new.protocolVersion
  schemaDigest : m.schemaDigest = Metadata.new.schemaDigest
  provenance : m.provenance = Metadata.new.provenance
  correlationId : validateIdentity m.correlationId = .ok ()
  instanceId : validateIdentity m.instanceId = .ok ()
  sessionId : validateIdentity m.sessionId = .ok ()
  leaseId : validateIdentity m.leaseId = .ok ()
  leaseEpoch : m.leaseEpoch ≤ maxGeneration
  generation : m.generation ≤ maxGeneration
  operationId : ∀ id ∈ m.operationId, validateIdentity id = .ok ()
  observation : ∀ o ∈ m.observation, o.validate = .ok ()
  action : ∀ a ∈ m.action, a.validate = .ok ()
  errorCode : ∀ e ∈ m.errorCode, validateIdentity e = .ok ()
  effectWitness : ∀ w ∈ m.effectWitness, w.validate = .ok ()
  shape : m.shapeMatches = true

end Message

/-- The copied artifact's own metadata is accepted, and nothing else is. -/
lemma metadata_validate_eq_ok {m : Metadata} : m.validate = .ok () ↔ m = Metadata.new := by
  have hdigest : isDigest RuntimeV2.schemaDigest = true := by decide +kernel
  obtain ⟨version, digest, ⟨artifact, source, generator⟩⟩ := m
  simp only [Metadata.validate, Provenance.validate, except_bind_eq_ok, refuse_eq_ok,
    Metadata.new, Metadata.mk.injEq, Provenance.mk.injEq]
  constructor
  · rintro ⟨-, hmeta, hprov⟩
    push Not at hmeta hprov
    exact ⟨hmeta.1, hmeta.2.1, hprov.1, hprov.2.1, hprov.2.2⟩
  · rintro ⟨rfl, rfl, rfl, rfl, rfl⟩
    simp [hdigest]

lemma validate_new : Metadata.new.validate = .ok () := metadata_validate_eq_ok.mpr rfl

/-- **What `validate` checks**, in one statement. -/
lemma validate_eq_ok {m : Message} : m.validate = .ok () ↔ m.Checked := by
  have hmeta : m.validateMetadata = .ok () ↔
      m.protocolVersion = Metadata.new.protocolVersion ∧
        m.schemaDigest = Metadata.new.schemaDigest ∧ m.provenance = Metadata.new.provenance := by
    rw [Message.validateMetadata, metadata_validate_eq_ok]
    exact ⟨fun h => ⟨congrArg (·.protocolVersion) h, congrArg (·.schemaDigest) h,
      congrArg (·.provenance) h⟩, fun ⟨h1, h2, h3⟩ => by rw [h1, h2, h3]⟩
  simp only [Message.validate, Message.validateCommonFields, except_bind_eq_ok, hmeta,
    option_forM_eq_ok, list_forM_eq_ok, refuse_eq_ok, not_or, not_lt, not_not, List.mem_cons,
    forall_eq_or_imp, List.not_mem_nil, false_imp_iff, implies_true, and_true]
  constructor
  · rintro ⟨-, ⟨h1, h2, h3⟩, -, ⟨-, ⟨h4, h5, h6, h7⟩, -, ⟨h8, h9⟩, -, h10, -, h11,
      -, h12, -, h13, h14⟩, h15⟩
    exact ⟨h1, h2, h3, h4, h5, h6, h7, h8, h9, h10, h11, h12, h13, h14, h15⟩
  · rintro ⟨h1, h2, h3, h4, h5, h6, h7, h8, h9, h10, h11, h12, h13, h14, h15⟩
    exact ⟨(), ⟨h1, h2, h3⟩, (), ⟨(), ⟨h4, h5, h6, h7⟩, (), ⟨h8, h9⟩, (), h10,
      (), h11, (), h12, (), h13, h14⟩, h15⟩

namespace Message

/-- Only the identity check of the correlation looks at the correlation. -/
lemma Checked.with_correlationId {m : Message} (h : m.Checked) {correlationId : String}
    (hc : validateIdentity correlationId = .ok ()) :
    ({ m with correlationId := correlationId } : Message).Checked :=
  { h with correlationId := hc, shape := h.shape }

/-- A result that is not unknown observes its own generation. -/
lemma Checked.observation_of_result {m : Message} (h : m.Checked)
    (hkind : m.kind = .actionResponse) (hstatus : m.status ≠ some .unknown) :
    ∃ o, m.observation = some o ∧ o.generation = m.generation := by
  have hshape := h.shape
  simp only [shapeMatches, hkind, Bool.and_eq_true] at hshape
  have hfields := hshape.2
  have hobs : m.observationGenerationMatches = true := by
    unfold resultFieldsMatchStatus at hfields
    split at hfields <;> simp_all
  simpa [observationGenerationMatches, Option.any_eq_true] using hobs

/-- A settled result carries the witness of its own generation. -/
lemma Checked.witness_of_settled {m : Message} (h : m.Checked) (hkind : m.kind = .actionResponse)
    (hstatus : m.status = some .settled) :
    ∃ w, m.effectWitness = some w ∧ w.kind = effectKind ∧ w.generation = m.generation := by
  have hshape := h.shape
  simp only [shapeMatches, hkind, resultFieldsMatchStatus, hstatus, Bool.and_eq_true,
    Option.any_eq_true, decide_eq_true_eq] at hshape
  obtain ⟨w, hw, hgen⟩ := hshape.2.2
  have hvalid := h.effectWitness w hw
  simp only [EffectWitness.validate, except_bind_eq_ok, refuse_eq_ok, not_not] at hvalid
  exact ⟨w, hw, hvalid.choose_spec.1, hgen⟩

/-- A request with an operation carries its action and its operation id. -/
lemma Checked.fields_of_actionRequest {m : Message} (h : m.Checked)
    (hkind : m.kind = .actionRequest) :
    ∃ id a, m.operationId = some id ∧ m.action = some a ∧ m.observation = none ∧
      m.status = none ∧ m.errorCode = none ∧ m.effectWitness = none := by
  have hshape := h.shape
  simp only [shapeMatches, hkind, Bool.and_eq_true, Option.isSome_iff_exists,
    Option.isNone_iff_eq_none] at hshape
  obtain ⟨⟨⟨⟨⟨⟨id, hid⟩, a, ha⟩, hobs⟩, hstatus⟩, herr⟩, hwit⟩ := hshape
  exact ⟨id, a, hid, ha, hobs, hstatus, herr, hwit⟩

end Message

end Sts2Gateway.RuntimeV2
