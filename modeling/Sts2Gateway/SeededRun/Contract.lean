/-
The seeded-run contract (`seeded_run/types.rs`, `context.rs`, `message.rs`,
`validation.rs`): the message, the selected native context and their checks.

* `Message`: a start or reconcile request, a response or a receipt;
* `Message.validate`: metadata, bounds, context digest and kind-specific shape;
* `validate_eq_ok`: what acceptance says, as one structure of facts
  (`Message.Checked`);
* `Checked.as_startResponse`: an accepted receipt stays accepted as a response
  under another correlation;
* `Checked.resultWithContext`: a refusal or an uncertain result for an accepted
  request is accepted;
* `Message.canonicalRequest`: the bytes that decide whether two starts are one.
-/
import Mathlib.Tactic
import Sts2Gateway.Library.Json
import Sts2Gateway.Library.Procedure
import Sts2Gateway.Library.Text

namespace Sts2Gateway.SeededRun

open Procedure Text CompactJson

/-! ### Constants of the frozen artifact -/

def protocolVersion : String := "seeded-run-v1"
def artifact : String := "sts2-protocol/seeded-run-v1"
def schemaSource : String := "schemas/seeded-run-v1.schema.json"
def generator : String := "hand-authored"
def schemaDigest : String := "5c659f344be78f84e8d783986925d462714f933cac95d18943358992f7d3e2b8"
def maxSeedBytes : ℕ := 64
def maxIdentityBytes : ℕ := 128
def maxContextIdBytes : ℕ := 128
def maxContextTextBytes : ℕ := 128
def maxModifiers : ℕ := 32
def maxActs : ℕ := 8
/-- Maximum generation and lease epoch. -/
def maxGeneration : ℕ := 9007199254740991
def effectKind : String := "run_started"

/-! ### The selected native context -/

inductive GameMode where
  | standard
deriving DecidableEq, Repr

inductive Character where
  | ironclad
deriving DecidableEq, Repr

inductive ProfileKind where
  | fresh
  | existing
deriving DecidableEq, Repr

inductive SavePolicy where
  | disabled
  | enabled
deriving DecidableEq, Repr

/-- A build or profile identity paired with its content digest. -/
structure IdentityDigest where
  identity : String
  digest : String
deriving DecidableEq, Repr

structure ProfileBaseline where
  kind : ProfileKind
  identity : String
  digest : String
deriving DecidableEq, Repr

structure Compatibility where
  game : IdentityDigest
  mod : IdentityDigest
deriving DecidableEq, Repr

/-- A concrete native context bound to one seeded launch. -/
structure SelectionContext where
  contextId : String
  gameMode : GameMode
  character : Character
  ascension : ℕ
  modifiers : List String
  acts : List String
  selectionPolicy : String
  profileBaseline : ProfileBaseline
  savePolicy : SavePolicy
  compatibility : Compatibility
  contextDigest : String
deriving DecidableEq, Repr

/-! ### The message -/

inductive Mode where
  | seededTraining
  | seededReplay
  | diagnostic
deriving DecidableEq, Repr

inductive MessageKind where
  | startRequest
  | startResponse
  | reconcileRequest
  | reconcileResponse
deriving DecidableEq, Repr

inductive Status where
  | accepted
  | settled
  | rejected
  | unknown
  | cancelled
deriving DecidableEq, Repr

/-- The observation returned after an authoritative run launch. -/
structure Observation where
  runStarted : Bool
  hostReady : Bool
  generation : ℕ
  canonicalSeed : String
  selectedContextDigest : Option String
  phaseBefore : String
  phaseAfter : String
  compatibilityIdentity : String
deriving DecidableEq, Repr

structure EffectWitness where
  kind : String
  generation : ℕ
  canonicalSeed : String
deriving DecidableEq, Repr

structure Provenance where
  artifact : String
  source : String
  generator : String
deriving DecidableEq, Repr

structure Message where
  protocolVersion : String
  schemaDigest : String
  provenance : Provenance
  correlationId : String
  instanceId : String
  sessionId : String
  leaseId : String
  leaseEpoch : ℕ
  generation : ℕ
  kind : MessageKind
  operationId : String
  requestedSeed : Option String
  runMode : Option Mode
  selectedContext : Option SelectionContext
  contextDigest : Option String
  status : Option Status
  canonicalSeed : Option String
  observation : Option Observation
  effectWitness : Option EffectWitness
  errorCode : Option String
deriving DecidableEq, Repr

/-- Identity and lease context preserved by every message. -/
structure Context where
  correlationId : String
  instanceId : String
  sessionId : String
  leaseId : String
  leaseEpoch : ℕ
  generation : ℕ

inductive ValidationError where
  | metadata
  | provenance
  | invalidIdentity
  | invalidSeed
  | seedBounds
  | contextDigest
  | invalidContext
  | contextBounds
  | contextOrdering
  | invalidCompatibility
  | contextDigestMismatch
  | contextRequired
  | generationBounds
  | effectWitness
  | requestShape
  | responseShape
  | settlementEvidence
deriving DecidableEq, Repr

/-! ### JSON -/

def GameMode.toJson : GameMode → Json
  | .standard => .str "standard"

def Character.toJson : Character → Json
  | .ironclad => .str "ironclad"

def ProfileKind.toJson : ProfileKind → Json
  | .fresh => .str "fresh"
  | .existing => .str "existing"

def SavePolicy.toJson : SavePolicy → Json
  | .disabled => .str "disabled"
  | .enabled => .str "enabled"

def IdentityDigest.toJson (d : IdentityDigest) : Json :=
  .obj [("identity", .str d.identity), ("digest", .str d.digest)]

def ProfileBaseline.toJson (p : ProfileBaseline) : Json :=
  .obj [("kind", p.kind.toJson), ("identity", .str p.identity), ("digest", .str p.digest)]

def Compatibility.toJson (c : Compatibility) : Json :=
  .obj [("game", c.game.toJson), ("mod", c.mod.toJson)]

/-- The members of a context that its digest covers. -/
def SelectionContext.digestMembers (c : SelectionContext) : List (String × Json) :=
  [("context_id", .str c.contextId), ("game_mode", c.gameMode.toJson),
    ("character", c.character.toJson), ("ascension", .num c.ascension),
    ("modifiers", .arr (c.modifiers.map .str)), ("acts", .arr (c.acts.map .str)),
    ("selection_policy", .str c.selectionPolicy),
    ("profile_baseline", c.profileBaseline.toJson), ("save_policy", c.savePolicy.toJson),
    ("compatibility", c.compatibility.toJson)]

def SelectionContext.toJson (c : SelectionContext) : Json :=
  .obj (c.digestMembers ++ [("context_digest", .str c.contextDigest)])

def Mode.toJson : Mode → Json
  | .seededTraining => .str "seeded_training"
  | .seededReplay => .str "seeded_replay"
  | .diagnostic => .str "diagnostic"

def MessageKind.toJson : MessageKind → Json
  | .startRequest => .str "start_request"
  | .startResponse => .str "start_response"
  | .reconcileRequest => .str "reconcile_request"
  | .reconcileResponse => .str "reconcile_response"

def Status.toJson : Status → Json
  | .accepted => .str "accepted"
  | .settled => .str "settled"
  | .rejected => .str "rejected"
  | .unknown => .str "unknown"
  | .cancelled => .str "cancelled"

def Observation.toJson (o : Observation) : Json :=
  .obj [("run_started", .bool o.runStarted), ("host_ready", .bool o.hostReady),
    ("generation", .num o.generation), ("canonical_seed", .str o.canonicalSeed),
    ("selected_context_digest", nullable .str o.selectedContextDigest),
    ("phase_before", .str o.phaseBefore), ("phase_after", .str o.phaseAfter),
    ("compatibility_identity", .str o.compatibilityIdentity)]

def EffectWitness.toJson (w : EffectWitness) : Json :=
  .obj [("kind", .str w.kind), ("generation", .num w.generation),
    ("canonical_seed", .str w.canonicalSeed)]

def Provenance.toJson (p : Provenance) : Json :=
  .obj [("artifact", .str p.artifact), ("source", .str p.source), ("generator", .str p.generator)]

/-- The members in the order of the struct's fields. -/
def Message.toJson (m : Message) : Json :=
  .obj [("protocol_version", .str m.protocolVersion), ("schema_digest", .str m.schemaDigest),
    ("provenance", m.provenance.toJson), ("correlation_id", .str m.correlationId),
    ("instance_id", .str m.instanceId), ("session_id", .str m.sessionId),
    ("lease_id", .str m.leaseId), ("lease_epoch", .num m.leaseEpoch),
    ("generation", .num m.generation), ("kind", m.kind.toJson),
    ("operation_id", .str m.operationId), ("requested_seed", nullable .str m.requestedSeed),
    ("run_mode", nullable Mode.toJson m.runMode),
    ("selected_context", nullable SelectionContext.toJson m.selectedContext),
    ("context_digest", nullable .str m.contextDigest), ("status", nullable Status.toJson m.status),
    ("canonical_seed", nullable .str m.canonicalSeed),
    ("observation", nullable Observation.toJson m.observation),
    ("effect_witness", nullable EffectWitness.toJson m.effectWitness),
    ("error_code", nullable .str m.errorCode)]

/-- The bytes that identify a start: a retry under another correlation has the same. -/
def Message.canonicalRequest (m : Message) : ByteArray :=
  ({ m with correlationId := "" } : Message).toJson.toBytes

/-! ### Field checks -/

/-- The bytes of identities and of context texts. -/
def isSafeByte (byte : UInt8) : Bool :=
  isAsciiAlphanumeric byte || "._:/-".toUTF8.data.toList.contains byte

/-- The ledger's own check of a binding's identities. -/
def safeIdentity (value : String) : Bool :=
  value.utf8ByteSize ≠ 0 && value.utf8ByteSize ≤ maxIdentityBytes && allBytes value isSafeByte

def validateIdentity (value : String) : Except ValidationError Unit :=
  refuse (value.utf8ByteSize = 0 ∨ maxIdentityBytes < value.utf8ByteSize ∨
    ¬ allBytes value isSafeByte) .invalidIdentity

def validateSeed (value : String) : Except ValidationError Unit := do
  refuse (value.utf8ByteSize = 0) .invalidSeed
  refuse (maxSeedBytes < value.utf8ByteSize) .seedBounds
  refuse (value.toList.any isControl) .invalidSeed

/-- 64 lower-case hexadecimal digits. -/
def isDigest (value : String) : Bool :=
  value.utf8ByteSize = 64 && allBytes value isLowerHex

def validateContextText (value : String) (maximum : ℕ) (error : ValidationError) :
    Except ValidationError Unit :=
  refuse (value.utf8ByteSize = 0 ∨ maximum < value.utf8ByteSize ∨ value.toList.any isControl ∨
    ¬ allBytes value isSafeByte) error

def IdentityDigest.validate (d : IdentityDigest) (error : ValidationError) :
    Except ValidationError Unit := do
  validateContextText d.identity maxContextIdBytes error
  refuse (¬ isDigest d.digest) .contextDigest

def ProfileBaseline.validate (p : ProfileBaseline) : Except ValidationError Unit := do
  validateContextText p.identity maxContextIdBytes .invalidContext
  refuse (¬ isDigest p.digest) .contextDigest

/-- Some neighbours are not in strictly increasing order. -/
def disordered : List String → Bool
  | a :: b :: rest => ¬ a < b || disordered (b :: rest)
  | _ => false

section Digest

variable [Sha256]

/-- The digest of a context's canonical, digest-independent fields. -/
def SelectionContext.canonicalDigest (c : SelectionContext) : String :=
  sha256Hex (Json.obj c.digestMembers).toBytes

/-- Validates the native selection and its content-addressed identity. -/
def SelectionContext.validate (c : SelectionContext) : Except ValidationError Unit := do
  validateContextText c.contextId maxContextIdBytes .invalidContext
  refuse (20 < c.ascension) .contextBounds
  refuse (maxModifiers < c.modifiers.length ∨ c.acts = [] ∨ maxActs < c.acts.length) .contextBounds
  c.modifiers.forM fun modifier =>
    validateContextText modifier maxContextTextBytes .invalidContext
  c.acts.forM fun act => validateContextText act maxContextTextBytes .invalidContext
  refuse (disordered c.modifiers ∨ ¬ c.acts.Nodup) .contextOrdering
  validateContextText c.selectionPolicy maxContextTextBytes .invalidContext
  c.profileBaseline.validate
  c.compatibility.game.validate .invalidCompatibility
  c.compatibility.mod.validate .invalidCompatibility
  refuse (¬ isDigest c.contextDigest) .contextDigest
  refuse (c.canonicalDigest ≠ c.contextDigest) .contextDigestMismatch

def Observation.validate (o : Observation) : Except ValidationError Unit := do
  refuse (maxGeneration < o.generation) .generationBounds
  validateSeed o.canonicalSeed
  o.selectedContextDigest.forM fun digest => refuse (¬ isDigest digest) .contextDigest
  validateIdentity o.phaseBefore
  validateIdentity o.phaseAfter
  validateIdentity o.compatibilityIdentity

def EffectWitness.validate (w : EffectWitness) : Except ValidationError Unit := do
  refuse (w.kind ≠ effectKind) .effectWitness
  refuse (maxGeneration < w.generation) .generationBounds
  validateSeed w.canonicalSeed

/-- The provenance of the copied artifact. -/
def Provenance.default : Provenance where
  artifact := SeededRun.artifact
  source := schemaSource
  generator := SeededRun.generator

def Provenance.validate (p : Provenance) : Except ValidationError Unit :=
  refuse (p.artifact ≠ SeededRun.artifact ∨ p.source ≠ schemaSource ∨
    p.generator ≠ SeededRun.generator) .provenance

namespace Message

/-- No result field is present. -/
def withoutResult (m : Message) : Bool :=
  m.status.isNone && m.canonicalSeed.isNone && m.observation.isNone && m.effectWitness.isNone &&
    m.errorCode.isNone

def validateStartRequest (m : Message) : Except ValidationError Unit := do
  refuse m.selectedContext.isNone .contextRequired
  refuse (¬ (m.requestedSeed.isSome && m.runMode.isSome && m.withoutResult)) .requestShape

def validateReconcileRequest (m : Message) : Except ValidationError Unit :=
  refuse (¬ (m.requestedSeed.isNone && m.runMode.isNone && m.selectedContext.isNone &&
    m.contextDigest.isNone && m.withoutResult)) .requestShape

def observationContextMatches (m : Message) (observation : Observation) : Bool :=
  match m.selectedContext with
  | some selectedContext => observation.selectedContextDigest = some selectedContext.contextDigest
  | none => observation.selectedContextDigest.isNone

/-- The settlement checks once all three pieces of evidence are there. -/
def settlementMatches (m : Message) (canonicalSeed : String) (observation : Observation)
    (witness : EffectWitness) : Bool :=
  observation.runStarted && observation.hostReady && observation.canonicalSeed = canonicalSeed &&
    witness.kind = effectKind && witness.canonicalSeed = canonicalSeed &&
    witness.generation = observation.generation && m.generation < observation.generation &&
    m.observationContextMatches observation && m.errorCode.isNone

def validateResult (m : Message) : Except ValidationError Unit := do
  refuse (m.kind ≠ .startResponse ∧ m.kind ≠ .reconcileResponse) .responseShape
  refuse (m.requestedSeed.isNone ∨ m.runMode.isNone ∨ m.status.isNone) .responseShape
  refuse m.selectedContext.isNone .contextRequired
  match m.status with
  | some .accepted =>
    refuse (¬ (m.canonicalSeed.isNone && m.observation.isNone && m.effectWitness.isNone &&
      m.errorCode.isNone)) .responseShape
  | some .settled =>
    match m.canonicalSeed, m.observation, m.effectWitness with
    | some canonicalSeed, some observation, some witness =>
      refuse (¬ m.settlementMatches canonicalSeed observation witness) .responseShape
    | _, _, _ => .error .settlementEvidence
  | some .rejected | some .cancelled | some .unknown =>
    refuse (¬ (m.canonicalSeed.isNone && m.observation.isNone && m.effectWitness.isNone &&
      m.errorCode.isSome)) .responseShape
  | none => .error .responseShape

/-- The context and its digest are both there and agree, or neither is. -/
def validateContext (m : Message) : Except ValidationError Unit :=
  match m.selectedContext with
  | some selectedContext => do
    selectedContext.validate
    refuse (m.contextDigest ≠ some selectedContext.contextDigest) .contextDigestMismatch
  | none => refuse m.contextDigest.isSome .contextRequired

/-- The kind-specific shape. -/
def validateShape (m : Message) : Except ValidationError Unit :=
  match m.kind with
  | .startRequest => m.validateStartRequest
  | .reconcileRequest => m.validateReconcileRequest
  | .startResponse | .reconcileResponse => m.validateResult

/-- Validates metadata, bounds and kind-specific result shape. -/
def validate (m : Message) : Except ValidationError Unit := do
  refuse (m.protocolVersion ≠ SeededRun.protocolVersion ∨ m.schemaDigest ≠ SeededRun.schemaDigest ∨
    ¬ isDigest m.schemaDigest) .metadata
  m.provenance.validate
  [m.correlationId, m.instanceId, m.sessionId, m.leaseId, m.operationId].forM validateIdentity
  refuse (maxGeneration < m.leaseEpoch ∨ maxGeneration < m.generation) .generationBounds
  m.requestedSeed.forM validateSeed
  m.canonicalSeed.forM validateSeed
  m.errorCode.forM validateIdentity
  m.contextDigest.forM fun digest => refuse (¬ isDigest digest) .contextDigest
  m.validateContext
  m.observation.forM Observation.validate
  m.effectWitness.forM EffectWitness.validate
  m.validateShape

/-! ### Constructors -/

def base (metadata : Provenance) (context : Context) (kind : MessageKind) (operationId : String)
    (requestedSeed : Option String) (runMode : Option Mode) (contextDigest : Option String) :
    Message where
  protocolVersion := SeededRun.protocolVersion
  schemaDigest := SeededRun.schemaDigest
  provenance := metadata
  correlationId := context.correlationId
  instanceId := context.instanceId
  sessionId := context.sessionId
  leaseId := context.leaseId
  leaseEpoch := context.leaseEpoch
  generation := context.generation
  kind := kind
  operationId := operationId
  requestedSeed := requestedSeed
  runMode := runMode
  selectedContext := none
  contextDigest := contextDigest
  status := none
  canonicalSeed := none
  observation := none
  effectWitness := none
  errorCode := none

/-- A launch request carrying a native context. -/
def startRequestWithContext (metadata : Provenance) (context : Context)
    (operationId requestedSeed : String) (runMode : Mode) (selectedContext : SelectionContext) :
    Message :=
  { base metadata context .startRequest operationId (some requestedSeed) (some runMode)
      (some selectedContext.contextDigest) with
    selectedContext := some selectedContext }

/-- A read-only reconciliation request. -/
def reconcileRequest (metadata : Provenance) (context : Context) (operationId : String) :
    Message :=
  base metadata context .reconcileRequest operationId none none none

/-- A lifecycle result carrying the selected native context. -/
def resultWithContext (metadata : Provenance) (context : Context) (kind : MessageKind)
    (operationId requestedSeed : String) (runMode : Mode) (selectedContext : SelectionContext)
    (status : Status) (canonicalSeed : Option String) (observation : Option Observation)
    (effectWitness : Option EffectWitness) (errorCode : Option String) : Message :=
  { base metadata context kind operationId (some requestedSeed) (some runMode)
      (some selectedContext.contextDigest) with
    selectedContext := some selectedContext
    status := some status
    canonicalSeed, observation, effectWitness, errorCode }

/-! ### What acceptance says -/

/-- The facts about one message that its validation establishes. -/
structure Checked (m : Message) : Prop where
  protocolVersion : m.protocolVersion = SeededRun.protocolVersion
  schemaDigest : m.schemaDigest = SeededRun.schemaDigest
  provenance : m.provenance.validate = .ok ()
  correlationId : validateIdentity m.correlationId = .ok ()
  instanceId : validateIdentity m.instanceId = .ok ()
  sessionId : validateIdentity m.sessionId = .ok ()
  leaseId : validateIdentity m.leaseId = .ok ()
  operationId : validateIdentity m.operationId = .ok ()
  leaseEpoch : m.leaseEpoch ≤ maxGeneration
  generation : m.generation ≤ maxGeneration
  requestedSeed : ∀ seed ∈ m.requestedSeed, validateSeed seed = .ok ()
  canonicalSeed : ∀ seed ∈ m.canonicalSeed, validateSeed seed = .ok ()
  errorCode : ∀ code ∈ m.errorCode, validateIdentity code = .ok ()
  contextDigest : ∀ digest ∈ m.contextDigest, isDigest digest = true
  context : m.validateContext = .ok ()
  observation : ∀ o ∈ m.observation, o.validate = .ok ()
  effectWitness : ∀ w ∈ m.effectWitness, w.validate = .ok ()
  shape : m.validateShape = .ok ()

end Message

/-- **What `validate` checks**, in one statement. -/
lemma validate_eq_ok {m : Message} : m.validate = .ok () ↔ m.Checked := by
  have hdigest : isDigest SeededRun.schemaDigest = true := by decide +kernel
  simp only [Message.validate, except_bind_eq_ok, option_forM_eq_ok, list_forM_eq_ok,
    refuse_eq_ok, not_or, not_lt, not_not, List.mem_cons, forall_eq_or_imp, List.not_mem_nil,
    false_imp_iff, implies_true, and_true]
  constructor
  · rintro ⟨-, ⟨h1, h2, -⟩, ⟨⟩, h3, -, ⟨h4, h5, h6, h7, h8⟩, -, ⟨h9, h10⟩, -, h11, -, h12, -, h13,
      -, h14, ⟨⟩, h15, -, h16, -, h17, h18⟩
    exact ⟨h1, h2, h3, h4, h5, h6, h7, h8, h9, h10, h11, h12, h13, h14, h15, h16, h17, h18⟩
  · rintro ⟨h1, h2, h3, h4, h5, h6, h7, h8, h9, h10, h11, h12, h13, h14, h15, h16, h17, h18⟩
    exact ⟨(), ⟨h1, h2, h2 ▸ hdigest⟩, (), h3, (), ⟨h4, h5, h6, h7, h8⟩, (), ⟨h9, h10⟩, (), h11,
      (), h12, (), h13, (), h14, (), h15, (), h16, (), h17, h18⟩

namespace Message

/-- A start request carries its seed, its mode and its context, and no result. -/
lemma Checked.fields_of_startRequest {m : Message} (h : m.Checked)
    (hkind : m.kind = .startRequest) :
    ∃ seed mode context, m.requestedSeed = some seed ∧ m.runMode = some mode ∧
      m.selectedContext = some context ∧ m.contextDigest = some context.contextDigest := by
  have hshape := h.shape
  have hcontext := h.context
  simp only [validateShape, hkind, validateStartRequest, except_bind_eq_ok, refuse_eq_ok,
    not_not, Bool.and_eq_true, Option.isSome_iff_exists] at hshape
  obtain ⟨-, hsome, ⟨⟨seed, hseed⟩, mode, hmode⟩, -⟩ := hshape
  cases hselected : m.selectedContext with
  | none => simp [hselected] at hsome
  | some context =>
    simp only [validateContext, hselected, except_bind_eq_ok, refuse_eq_ok, not_not] at hcontext
    exact ⟨seed, mode, context, hseed, hmode, rfl, hcontext.choose_spec.2⟩

/-- Only a settled result observes anything. -/
lemma Checked.observation_of_result {m : Message} (h : m.Checked)
    (hkind : m.kind = .startResponse ∨ m.kind = .reconcileResponse) {o : Observation}
    (ho : m.observation = some o) : m.status = some .settled := by
  have hshape := h.shape
  have hresult : m.validateResult = .ok () := by
    rcases hkind with hkind | hkind <;> rwa [validateShape, hkind] at hshape
  simp only [validateResult, except_bind_eq_ok] at hresult
  obtain ⟨-, -, -, -, -, -, hfields⟩ := hresult
  split at hfields <;> simp_all

/-- A receipt is as good as the response it replaces, under any correlation. -/
lemma Checked.as_startResponse {m : Message} (h : m.Checked) (hkind : m.kind = .reconcileResponse)
    {correlationId : String} (hc : validateIdentity correlationId = .ok ()) :
    ({ m with kind := .startResponse, correlationId } : Message).Checked := by
  have hshape := h.shape
  rw [validateShape, hkind] at hshape
  refine { h with correlationId := hc, context := h.context, shape := ?_ }
  simp only [validateShape, validateResult, except_bind_eq_ok, refuse_eq_ok] at hshape ⊢
  obtain ⟨-, -, h'⟩ := hshape
  exact ⟨(), by simp, h'⟩

/-- A refused or uncertain result of an accepted start is accepted. -/
lemma Checked.resultWithContext {m : Message} (h : m.Checked) (hkind : m.kind = .startRequest)
    {seed : String} (mode : Mode) {context : SelectionContext}
    (hseed : m.requestedSeed = some seed) (hcontext : m.selectedContext = some context)
    {status : Status} (hstatus : status = .rejected ∨ status = .unknown) {code : String}
    (hcode : validateIdentity code = .ok ()) :
    (Message.resultWithContext m.provenance
      ⟨m.correlationId, m.instanceId, m.sessionId, m.leaseId, m.leaseEpoch, m.generation⟩
      .startResponse m.operationId seed mode context status none none none (some code)).Checked := by
  obtain ⟨seed', mode', context', -, -, hcontext', hdigest⟩ := h.fields_of_startRequest hkind
  obtain rfl : context = context' := Option.some.inj (hcontext.symm.trans hcontext')
  have hvalid := h.context
  rw [validateContext, hcontext, except_bind_eq_ok] at hvalid
  refine ⟨rfl, rfl, h.provenance, h.correlationId, h.instanceId, h.sessionId, h.leaseId,
    h.operationId, h.leaseEpoch, h.generation, ?_, by simp [Message.resultWithContext, base], ?_,
    ?_, ?_, by simp [Message.resultWithContext], by simp [Message.resultWithContext], ?_⟩
  · rintro _ ⟨⟩
    exact h.requestedSeed seed hseed
  · rintro _ ⟨⟩
    exact hcode
  · rintro _ ⟨⟩
    exact h.contextDigest _ hdigest
  · obtain ⟨_, hselected, -⟩ := hvalid
    simp [validateContext, Message.resultWithContext, base, hselected, refuse, bind, Except.bind]
  · rcases hstatus with rfl | rfl <;>
      simp [validateShape, validateResult, Message.resultWithContext, base, refuse, bind,
        Except.bind]

end Message

end Digest

end Sts2Gateway.SeededRun
