/-
The current operation of an instance (`process_lifecycle_order.rs`).

* `LifecycleContents.authoritative`: the operations of an instance that were not rejected;
* `isCurrent_sequenced`, `isCurrent_legacy`: what makes an operation current, with a sequence
  and without one;
* `OneCurrent`: at most one operation is current, the one that the order of the stores puts
  last;
* `oneCurrent_iff`: **which sets of records have one current operation**.
-/
import Sts2Gateway.Lifecycle.Coordinator
import Sts2Gateway.Lifecycle.StoreAgreement

namespace Sts2Gateway.Lifecycle

open ControlPlane (InstanceId OperationId)
open Selection

/-! ### The operations of an instance -/

/-- The operations of an instance that were not rejected. -/
def LifecycleContents.authoritative (contents : LifecycleContents) (instanceId : InstanceId) :
    List LifecycleOperation :=
  contents.operations.filter fun candidate =>
    candidate.instanceId = instanceId ∧ candidate.state ≠ .rejected

variable {contents : LifecycleContents} {instanceId : InstanceId} {a b : LifecycleOperation}

lemma mem_authoritative : a ∈ contents.authoritative instanceId ↔
    contents.records[a.key]? = some a ∧ a.instanceId = instanceId ∧ a.state ≠ .rejected := by
  rw [LifecycleContents.authoritative, List.mem_filter, LifecycleContents.mem_operations,
    decide_eq_true_eq]

/-- The operations of one instance are told apart by their ids. -/
lemma authoritative_inj (ha : a ∈ contents.authoritative instanceId)
    (hb : b ∈ contents.authoritative instanceId) (hid : a.operationId = b.operationId) :
    a = b := by
  obtain ⟨harow, hainstance, -⟩ := mem_authoritative.mp ha
  obtain ⟨hbrow, hbinstance, -⟩ := mem_authoritative.mp hb
  have hkey : a.key = b.key := by
    rw [LifecycleOperation.key, LifecycleOperation.key, hainstance, hbinstance, hid]
  rw [hkey, hbrow] at harow
  exact (Option.some.inj harow).symm

lemma order_injOn : ∀ x ∈ contents.authoritative instanceId,
    ∀ y ∈ contents.authoritative instanceId, operationOrderKey x = operationOrderKey y → x = y :=
  fun _ hx _ hy hkey => authoritative_inj hx hy (operationOrderKey_inj hkey)

/-! ### Current operations -/

/-- An operation with a sequence is current when it is last in the order of the stores. -/
lemma isCurrent_sequenced (ha : a ∈ contents.authoritative instanceId) (hsequence : a.sequence ≠ 0) :
    contents.operationIsCurrent a = true ↔
      maxByKey operationOrderKey (contents.authoritative instanceId) = some a := by
  have hinstance := (mem_authoritative.mp ha).2.1
  have hkeys : (fun candidate : LifecycleOperation =>
      if a.sequence = 0 ∨ candidate.sequence = 0 then
        toLex (0, toLex (candidate.operationId, 0))
      else operationOrder candidate) = operationOrderKey := by
    funext candidate
    by_cases hlegacy : candidate.sequence = 0
    · rw [if_pos (.inr hlegacy), operationOrderKey, if_pos hlegacy]
    · rw [if_neg (not_or.mpr ⟨hsequence, hlegacy⟩)]
      rfl
  have hlist : (contents.operations.filter fun candidate =>
      candidate.instanceId = a.instanceId ∧ candidate.state ≠ .rejected) =
        contents.authoritative instanceId := by
    rw [hinstance]
    rfl
  rw [LifecycleContents.operationIsCurrent, hkeys, hlist]
  cases hlatest : maxByKey operationOrderKey (contents.authoritative instanceId) with
  | none =>
    rw [maxByKey_eq_none.mp hlatest] at ha
    cases ha
  | some latest =>
    obtain ⟨hmem, hle⟩ := maxByKey_spec hlatest
    simp only [Option.all_some, decide_eq_true_eq, Option.some.injEq]
    constructor
    · rintro ⟨hid, -⟩
      exact authoritative_inj hmem ha hid.symm
    · rintro rfl
      exact ⟨rfl, .inr (.inr le_rfl)⟩

/-- An operation without a sequence is current when no id exceeds its own. -/
lemma isCurrent_legacy (ha : a ∈ contents.authoritative instanceId) (hsequence : a.sequence = 0) :
    contents.operationIsCurrent a = true ↔
      ∀ x ∈ contents.authoritative instanceId, x.operationId ≤ a.operationId := by
  have hinstance := (mem_authoritative.mp ha).2.1
  have hlist : (contents.operations.filter fun candidate =>
      candidate.instanceId = a.instanceId ∧ candidate.state ≠ .rejected) =
        contents.authoritative instanceId := by
    rw [hinstance]
    rfl
  have hkeys : (fun candidate : LifecycleOperation =>
      if a.sequence = 0 ∨ candidate.sequence = 0 then
        toLex (0, toLex (candidate.operationId, 0))
      else operationOrder candidate) =
        fun candidate => toLex (0, toLex (candidate.operationId, 0)) := by
    funext candidate
    rw [if_pos (.inl hsequence)]
  have hle_iff : ∀ x y : LifecycleOperation,
      (toLex (0, toLex (x.operationId, 0)) : ℕ ×ₗ ℕ ×ₗ ℕ) ≤ toLex (0, toLex (y.operationId, 0)) ↔
        x.operationId ≤ y.operationId := by
    intro x y
    simp only [Prod.Lex.toLex_le_toLex, lt_self_iff_false, le_refl, and_true, true_and, false_or]
    exact le_iff_lt_or_eq.symm
  rw [LifecycleContents.operationIsCurrent, hkeys, hlist]
  generalize hlatest : maxByKey (fun candidate : LifecycleOperation =>
    (toLex (0, toLex (candidate.operationId, 0)) : ℕ ×ₗ ℕ ×ₗ ℕ))
      (contents.authoritative instanceId) = latest
  cases latest with
  | none =>
    rw [maxByKey_eq_none.mp hlatest] at ha
    cases ha
  | some latest =>
    obtain ⟨hmem, hle⟩ := maxByKey_spec hlatest
    simp only [Option.all_some, decide_eq_true_eq]
    constructor
    · rintro ⟨hid, -⟩ x hx
      rw [hid]
      exact (hle_iff x latest).mp (hle x hx)
    · intro hmax
      have hid : a.operationId = latest.operationId :=
        le_antisymm ((hle_iff a latest).mp (hle a ha)) (hmax latest hmem)
      exact ⟨hid, .inl hsequence⟩

/-! ### One current operation -/

/-- At most one operation of an instance is current, the last one in the order of the
stores. -/
structure OneCurrent (contents : LifecycleContents) (instanceId : InstanceId) : Prop where
  unique : ∀ a ∈ contents.authoritative instanceId, ∀ b ∈ contents.authoritative instanceId,
    contents.operationIsCurrent a = true → contents.operationIsCurrent b = true → a = b
  last : ∀ a ∈ contents.authoritative instanceId, contents.operationIsCurrent a = true →
    maxByKey operationOrderKey (contents.authoritative instanceId) = some a

/-- The greatest id is that of an operation without a sequence, beside one with a sequence. -/
def LegacyAhead (contents : LifecycleContents) (instanceId : InstanceId) : Prop :=
  ∃ legacy ∈ contents.authoritative instanceId, legacy.sequence = 0 ∧
    (∀ x ∈ contents.authoritative instanceId, x.operationId ≤ legacy.operationId) ∧
    ∃ sequenced ∈ contents.authoritative instanceId, sequenced.sequence ≠ 0

/-- An operation with a sequence follows one without. -/
lemma order_legacy_lt (ha : a.sequence = 0) (hb : b.sequence ≠ 0) :
    operationOrderKey a < operationOrderKey b := by
  rw [operationOrderKey, operationOrderKey, if_pos ha, if_neg hb, Prod.Lex.toLex_lt_toLex]
  exact .inl Nat.zero_lt_one

/-- Where no operation has a sequence, the order of the stores is that of the ids. -/
lemma order_legacy_le (ha : a.sequence = 0) (hb : b.sequence = 0)
    (hle : a.operationId ≤ b.operationId) : operationOrderKey a ≤ operationOrderKey b := by
  rw [operationOrderKey, operationOrderKey, if_pos ha, if_pos hb]
  simp only [Prod.Lex.toLex_le_toLex, lt_self_iff_false, le_refl, and_true, true_and, false_or]
  exact le_iff_lt_or_eq.mp hle

/-- **One current operation.**  At most one operation of an instance is current, and it is the
last one, exactly when the greatest id is not that of a record without a sequence beside
one with a sequence. -/
theorem oneCurrent_iff (contents : LifecycleContents) (instanceId : InstanceId) :
    OneCurrent contents instanceId ↔ ¬ LegacyAhead contents instanceId := by
  constructor
  · rintro hone ⟨legacy, hlegacy, hzero, hmax, sequenced, hsequenced, hnonzero⟩
    have hlast := hone.last legacy hlegacy ((isCurrent_legacy hlegacy hzero).mpr hmax)
    have hle := (maxByKey_spec hlast).2 sequenced hsequenced
    exact absurd (order_legacy_lt hzero hnonzero) (not_lt.mpr hle)
  · intro hnone
    have hlast : ∀ a ∈ contents.authoritative instanceId, contents.operationIsCurrent a = true →
        maxByKey operationOrderKey (contents.authoritative instanceId) = some a := by
      intro a ha hcurrent
      by_cases hsequence : a.sequence = 0
      · have hmax := (isCurrent_legacy ha hsequence).mp hcurrent
        have hall : ∀ x ∈ contents.authoritative instanceId, x.sequence = 0 := by
          intro x hx
          by_contra hx0
          exact hnone ⟨a, ha, hsequence, hmax, x, hx, hx0⟩
        rw [maxByKey_eq_some order_injOn]
        exact ⟨ha, fun x hx => order_legacy_le (hall x hx) hsequence (hmax x hx)⟩
      · exact (isCurrent_sequenced ha hsequence).mp hcurrent
    refine ⟨fun a ha b hb hacurrent hbcurrent => ?_, hlast⟩
    have hsame := (hlast a ha hacurrent).symm.trans (hlast b hb hbcurrent)
    exact Option.some.inj hsame

namespace Sample

/-- A launch from before sequences were issued. -/
def legacyLaunch (instanceId : InstanceId) (operationId : OperationId) : LifecycleOperation :=
  (launch instanceId operationId).setSequence 0

/-- Two launches on one instance: the older one has the greater id. -/
def mixedRecords : LifecycleContents :=
  (LifecycleContents.empty.putRecord (legacyLaunch 1 10)).putRecord (launch 1 5)

end Sample

/-- A legacy operation and a sequenced one, both current. -/
theorem two_current : ¬ OneCurrent Sample.mixedRecords 1 := by
  intro hone
  have hcurrent : (Sample.mixedRecords.authoritative 1).all
      Sample.mixedRecords.operationIsCurrent = true := by decide +kernel
  have hmem : Sample.mixedRecords.authoritative 1 =
      [Sample.launch 1 5, Sample.legacyLaunch 1 10] := by decide +kernel
  rw [hmem] at hcurrent
  have hlaunch : Sample.launch 1 5 ∈ Sample.mixedRecords.authoritative 1 := by
    rw [hmem]
    exact List.mem_cons_self
  have hlegacy : Sample.legacyLaunch 1 10 ∈ Sample.mixedRecords.authoritative 1 := by
    rw [hmem]
    exact List.mem_cons_of_mem _ List.mem_cons_self
  have hsame := hone.unique _ hlaunch _ hlegacy (List.all_eq_true.mp hcurrent _ (by simp))
    (List.all_eq_true.mp hcurrent _ (by simp))
  exact absurd (congrArg LifecycleOperation.operationId hsame) (by decide)

end Sts2Gateway.Lifecycle
