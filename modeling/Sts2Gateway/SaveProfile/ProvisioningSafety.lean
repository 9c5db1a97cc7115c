/-
User-data provisioning never adopts, overwrites or shares.

* `validateSet_eq_ok`: what the check of a set says;
* `Sound`: the invariant of a provisioner: the records that it keeps are the stored ones,
  each valid, with identities of their own below the next one;
* `UserDataEvent.Accepted`: **a write that the durable store accepts**;
* `Isolated`: what one turn of a run may do;
* `CreatedOnce`: each operation and each identity is created at most once;
* `user_data_provisioning_isolated`: every run does no more.
-/
import Sts2Gateway.SaveProfile.ProvisioningCourses

namespace Sts2Gateway.SaveProfile

open Procedure Provisioning
open Std (ExtTreeMap)

/-! ### Sets of records -/

section Sets

variable {capacity : ℕ} {records : List UserDataProvisioningRecord}

lemma validateNext_eq_ok {seen after : List OperationKey × List UserDataIdentity}
    {record : UserDataProvisioningRecord} :
    validateNext capacity seen record = .ok after ↔
      (validate record = .ok () ∧ record.descriptor.identity.value ≤ capacity) ∧
        (record.key ∉ seen.1 ∧ record.descriptor.identity ∉ seen.2) ∧
        after = (record.key :: seen.1, record.descriptor.identity :: seen.2) := by
  simp only [validateNext, except_bind_eq_ok, refuse_eq_ok, Unique.exists_iff, mapError_eq_ok,
    not_or, not_lt, and_assoc, pure, Except.pure, Except.ok.injEq, eq_comm (b := after)]

/-- A set is let through when each record is, and none repeats an operation or an identity,
of the set or of those seen before. -/
lemma foldlM_validateNext (capacity : ℕ) (records : List UserDataProvisioningRecord)
    (seen : List OperationKey × List UserDataIdentity) :
    (∃ after, records.foldlM (validateNext capacity) seen = .ok after) ↔
      (∀ record ∈ records, validate record = .ok () ∧
        record.descriptor.identity.value ≤ capacity) ∧
      (∀ record ∈ records, record.key ∉ seen.1 ∧ record.descriptor.identity ∉ seen.2) ∧
      (records.map UserDataProvisioningRecord.key).Nodup ∧
      (records.map fun record => record.descriptor.identity).Nodup := by
  induction records generalizing seen with
  | nil => simp [pure, Except.pure]
  | cons record records ih =>
    have hstep : (∃ after, (record :: records).foldlM (validateNext capacity) seen = .ok after) ↔
        (validate record = .ok () ∧ record.descriptor.identity.value ≤ capacity) ∧
        (record.key ∉ seen.1 ∧ record.descriptor.identity ∉ seen.2) ∧
        ∃ after, records.foldlM (validateNext capacity)
          (record.key :: seen.1, record.descriptor.identity :: seen.2) = .ok after := by
      simp only [List.foldlM_cons, except_bind_eq_ok, validateNext_eq_ok]
      constructor
      · rintro ⟨after, _, ⟨hvalid, hnew, rfl⟩, hrest⟩
        exact ⟨hvalid, hnew, after, hrest⟩
      · rintro ⟨hvalid, hnew, after, hrest⟩
        exact ⟨after, _, ⟨hvalid, hnew, rfl⟩, hrest⟩
    rw [hstep, ih, List.forall_mem_cons, List.forall_mem_cons]
    simp only [List.map_cons, List.nodup_cons, List.mem_cons, not_or, List.mem_map, not_exists,
      not_and]
    constructor
    · rintro ⟨hvalid, hnew, hvalids, hnews, hkeys, hids⟩
      exact ⟨⟨hvalid, hvalids⟩, ⟨hnew, fun r hr => ⟨(hnews r hr).1.2, (hnews r hr).2.2⟩⟩,
        ⟨fun r hr => (hnews r hr).1.1, hkeys⟩, fun r hr => (hnews r hr).2.1, hids⟩
    · rintro ⟨⟨hvalid, hvalids⟩, ⟨hnew, hnews⟩, ⟨hkey, hkeys⟩, hid, hids⟩
      exact ⟨hvalid, hnew, hvalids, fun r hr => ⟨⟨hkey r hr, (hnews r hr).1⟩,
        hid r hr, (hnews r hr).2⟩, hkeys, hids⟩

/-- A set is let through when it fits, each record is valid, and none shares an operation or
an identity. -/
lemma validateSet_eq_ok : validateSet records capacity = .ok () ↔
    records.length ≤ capacity ∧
      (∀ record ∈ records, validate record = .ok () ∧
        record.descriptor.identity.value ≤ capacity) ∧
      (records.map UserDataProvisioningRecord.key).Nodup ∧
      (records.map fun record => record.descriptor.identity).Nodup := by
  have hfold := foldlM_validateNext capacity records ([], [])
  simp only [List.not_mem_nil, not_false_eq_true, and_self, implies_true, true_and] at hfold
  rw [← hfold, validateSet]
  simp only [except_bind_eq_ok, refuse_eq_ok, Unique.exists_iff, not_lt, pure, Except.pure,
    and_true]

end Sets

/-! ### The stored records -/

namespace UserDataRecordStore

variable {store : UserDataRecordStore} {record : UserDataProvisioningRecord}

lemma mem_list : record ∈ store.list ↔ store.records[record.key]? = some record := by
  rw [list, List.mem_map]
  constructor
  · rintro ⟨⟨key, found⟩, hmem, rfl⟩
    have hfound := ExtTreeMap.mem_toList_iff_getElem?_eq_some.mp hmem
    rwa [store.keyed key found hfound]
  · intro h
    exact ⟨(record.key, record), ExtTreeMap.mem_toList_iff_getElem?_eq_some.mpr h, rfl⟩

lemma length_list : store.list.length = store.records.size := by
  rw [list, List.length_map, ExtTreeMap.length_toList]

lemma nodup_keys : (store.list.map UserDataProvisioningRecord.key).Nodup := by
  have hkeys : store.list.map UserDataProvisioningRecord.key = store.records.toList.map Prod.fst := by
    rw [list, List.map_map]
    refine List.map_congr_left fun p hp => ?_
    exact store.keyed p.1 p.2 (ExtTreeMap.mem_toList_iff_getElem?_eq_some.mp hp)
  rw [hkeys, List.Nodup, List.pairwise_map]
  refine ExtTreeMap.distinct_keys_toList.imp fun h heq => h ?_
  rw [heq]
  exact Std.ReflCmp.compare_self

lemma collect_list (store : UserDataRecordStore) :
    UserDataProvisioner.collectRecords store.list = store.records :=
  OrderedMap.foldl_values store.keyed

/-- The record of an operation, in the list. -/
lemma find?_list {key : OperationKey} :
    (store.list.find? fun old => old.key = key) = store.records[key]? := by
  cases hfound : store.records[key]? with
  | none =>
    rw [List.find?_eq_none]
    intro old hold
    rw [mem_list] at hold
    simp only [decide_eq_true_eq]
    rintro rfl
    rw [hfound] at hold
    cases hold
  | some found =>
    have hkey := store.keyed key found hfound
    have hmem : found ∈ store.list := mem_list.mpr (hkey ▸ hfound)
    cases hfind : store.list.find? fun old => old.key = key with
    | none =>
      rw [List.find?_eq_none] at hfind
      exact absurd (decide_eq_true hkey) (hfind found hmem)
    | some old =>
      have hold := List.find?_some hfind
      rw [decide_eq_true_eq] at hold
      have hlisted := mem_list.mp (List.mem_of_find?_eq_some hfind)
      rw [hold, hfound] at hlisted
      exact hlisted.symm

end UserDataRecordStore

/-! ### The invariant -/

/-- Two records of a map have two identities. -/
def Distinct (records : UserDataRecords) : Prop :=
  ∀ (key₁ key₂ : OperationKey) (record₁ record₂ : UserDataProvisioningRecord),
    records[key₁]? = some record₁ → records[key₂]? = some record₂ →
    record₁.descriptor.identity = record₂.descriptor.identity → key₁ = key₂

/-- The records that a provisioner keeps are the stored ones, each valid, with identities of
their own below the next one. -/
structure Sound (provisioner : UserDataProvisioner) : Prop where
  capacity_pos : 0 < provisioner.capacity
  capacity_le : provisioner.capacity ≤ maxAllocations
  kept : provisioner.records = provisioner.store.records
  valid : ∀ (key : OperationKey) (record : UserDataProvisioningRecord),
    provisioner.records[key]? = some record → validate record = .ok ()
  distinct : Distinct provisioner.records
  below : ∀ (key : OperationKey) (record : UserDataProvisioningRecord),
    provisioner.records[key]? = some record →
      record.descriptor.identity.value < provisioner.nextIdentity
  within : ∀ (key : OperationKey) (record : UserDataProvisioningRecord),
    provisioner.records[key]? = some record →
      record.descriptor.identity.value ≤ provisioner.capacity
  size_le : provisioner.records.size ≤ provisioner.capacity
  next_pos : 0 < provisioner.nextIdentity

/-- The identities of distinct records, as a list. -/
lemma nodup_identities {store : UserDataRecordStore} (hdistinct : Distinct store.records) :
    (store.list.map fun record => record.descriptor.identity).Nodup := by
  refine List.Nodup.map_on (fun first hfirst second hsecond heq => ?_)
    (List.Nodup.of_map _ store.nodup_keys)
  have hfound := UserDataRecordStore.mem_list.mp hfirst
  have hother := UserDataRecordStore.mem_list.mp hsecond
  have hkey := hdistinct _ _ _ _ hfound hother heq
  rw [hkey, hother] at hfound
  exact (Option.some.inj hfound).symm

/-- A store whose records pass the check of a set. -/
lemma validateSet_list {store : UserDataRecordStore} {capacity : ℕ}
    (hsize : store.records.size ≤ capacity)
    (hvalid : ∀ (key : OperationKey) (record : UserDataProvisioningRecord),
      store.records[key]? = some record →
        validate record = .ok () ∧ record.descriptor.identity.value ≤ capacity)
    (hdistinct : Distinct store.records) : validateSet store.list capacity = .ok () := by
  refine validateSet_eq_ok.mpr ⟨by rwa [store.length_list], fun record hrecord => ?_,
    store.nodup_keys, nodup_identities hdistinct⟩
  exact hvalid _ _ (UserDataRecordStore.mem_list.mp hrecord)

section Sound

variable {provisioner : UserDataProvisioner}

lemma Sound.validateSet (h : Sound provisioner) :
    validateSet provisioner.store.list maxAllocations = .ok () := by
  have hkept := h.kept
  refine validateSet_list ?_ (fun key record hrecord => ?_) (hkept ▸ h.distinct)
  · rw [← hkept]
    exact h.size_le.trans h.capacity_le
  · rw [← hkept] at hrecord
    exact ⟨h.valid key record hrecord, (h.within key record hrecord).trans h.capacity_le⟩

lemma Sound.taken (h : Sound provisioner) : Sound provisioner.taken where
  capacity_pos := h.capacity_pos
  capacity_le := h.capacity_le
  kept := h.kept
  valid := h.valid
  distinct := h.distinct
  below key record hrecord := Nat.lt_succ_of_lt (h.below key record hrecord)
  within := h.within
  size_le := h.size_le
  next_pos := Nat.succ_pos _

/-- A new record is stored with an identity that no other one has. -/
lemma Sound.reserved (h : Sound provisioner) {pending : UserDataProvisioningRecord}
    (hreserves : Reserves provisioner pending) : Sound (provisioner.reserved pending) := by
  have hfind : ∀ {key : OperationKey} {record : UserDataProvisioningRecord},
      (provisioner.reserved pending).records[key]? = some record →
        (pending.key = key ∧ record = pending) ∨ provisioner.records[key]? = some record := by
    intro key record hrecord
    rw [UserDataProvisioner.reserved, OrderedMap.getElem?_insert_if] at hrecord
    split_ifs at hrecord with hkey
    · exact .inl ⟨hkey, (Option.some.inj hrecord).symm⟩
    · exact .inr hrecord
  have hnew : ∀ {key : OperationKey} {record : UserDataProvisioningRecord},
      provisioner.records[key]? = some record →
        record.descriptor.identity ≠ pending.descriptor.identity := by
    intro key record hrecord heq
    have := h.below key record hrecord
    rw [heq, hreserves.identity] at this
    exact lt_irrefl _ this
  refine ⟨h.capacity_pos, h.capacity_le, ?_, fun key record hrecord => ?_, ?_,
    fun key record hrecord => ?_, fun key record hrecord => ?_, ?_, Nat.succ_pos _⟩
  · rw [UserDataProvisioner.reserved, h.kept]
    rfl
  · obtain ⟨-, rfl⟩ | hold := hfind hrecord
    · exact hreserves.valid h.capacity_le
    · exact h.valid key record hold
  · intro key₁ key₂ record₁ record₂ h₁ h₂ heq
    obtain ⟨rfl, rfl⟩ | hold₁ := hfind h₁
    · obtain ⟨rfl, -⟩ | hold₂ := hfind h₂
      · rfl
      · exact absurd heq.symm (hnew hold₂)
    · obtain ⟨rfl, rfl⟩ | hold₂ := hfind h₂
      · exact absurd heq (hnew hold₁)
      · exact h.distinct _ _ _ _ hold₁ hold₂ heq
  · change record.descriptor.identity.value < provisioner.nextIdentity + 1
    obtain ⟨-, rfl⟩ | hold := hfind hrecord
    · rw [hreserves.identity]
      exact Nat.lt_succ_self _
    · exact Nat.lt_succ_of_lt (h.below key record hold)
  · obtain ⟨-, rfl⟩ | hold := hfind hrecord
    · rw [hreserves.identity]
      exact hreserves.within
    · exact h.within key record hold
  · rw [UserDataProvisioner.reserved, OrderedMap.size_insert_of_none hreserves.fresh]
    exact hreserves.room

lemma Sound.key_eq (h : Sound provisioner) {key : OperationKey}
    {record : UserDataProvisioningRecord} (hrecord : provisioner.records[key]? = some record) :
    record.key = key := by
  rw [h.kept] at hrecord
  exact provisioner.store.keyed key record hrecord

/-- After a record was changed. -/
def UserDataProvisioner.changed (provisioner : UserDataProvisioner)
    (updated : UserDataProvisioningRecord) : UserDataProvisioner :=
  { provisioner with
    store := provisioner.store.put updated
    records := provisioner.records.insert updated.key updated }

/-- A permitted change of a record keeps its identity. -/
lemma Sound.changed (h : Sound provisioner) {key : OperationKey}
    {record : UserDataProvisioningRecord} (hrecord : provisioner.records[key]? = some record)
    {status : UserDataProvisioningStatus} {descriptor : Option UserDataDescriptor}
    {guidance : Option RecoveryGuidance}
    (hpermitted : Permitted record status descriptor guidance) :
    Sound (provisioner.changed (updateRecord record status descriptor guidance)) := by
  have hkey : (updateRecord record status descriptor guidance).key = key := by
    rw [← h.key_eq hrecord]
    rfl
  have hfind : ∀ {other : OperationKey} {found : UserDataProvisioningRecord},
      (provisioner.changed (updateRecord record status descriptor guidance)).records[other]? =
        some found → ∃ old, provisioner.records[other]? = some old ∧
          found.descriptor.identity = old.descriptor.identity ∧
          (validate old = .ok () → validate found = .ok ()) := by
    intro other found hfound
    rw [UserDataProvisioner.changed, OrderedMap.getElem?_insert_if, hkey] at hfound
    split_ifs at hfound with hother
    · obtain rfl := hother
      obtain rfl := Option.some.inj hfound
      exact ⟨record, hrecord, hpermitted.updated_identity, hpermitted.validate_updated⟩
    · exact ⟨found, hfound, rfl, id⟩
  refine ⟨h.capacity_pos, h.capacity_le, ?_, fun other found hfound => ?_, ?_,
    fun other found hfound => ?_, fun other found hfound => ?_, ?_, h.next_pos⟩
  · rw [UserDataProvisioner.changed, h.kept]
    rfl
  · obtain ⟨old, hold, -, hvalid⟩ := hfind hfound
    exact hvalid (h.valid other old hold)
  · intro key₁ key₂ record₁ record₂ h₁ h₂ heq
    obtain ⟨old₁, hold₁, hid₁, -⟩ := hfind h₁
    obtain ⟨old₂, hold₂, hid₂, -⟩ := hfind h₂
    exact h.distinct _ _ _ _ hold₁ hold₂ (hid₁ ▸ hid₂ ▸ heq)
  · obtain ⟨old, hold, hid, -⟩ := hfind hfound
    rw [hid]
    exact h.below other old hold
  · obtain ⟨old, hold, hid, -⟩ := hfind hfound
    rw [hid]
    exact h.within other old hold
  · have hmem : key ∈ provisioner.records :=
      OrderedMap.mem_iff_getElem?_ne_none.mpr (by rw [hrecord]; exact Option.some_ne_none _)
    rw [UserDataProvisioner.changed, hkey, OrderedMap.size_insert_of_mem hmem]
    exact h.size_le

/-- No listed identity is above the largest one. -/
lemma le_largestIdentity {persisted : List UserDataProvisioningRecord}
    {record : UserDataProvisioningRecord} (h : record ∈ persisted) :
    record.descriptor.identity.value ≤ UserDataProvisioner.largestIdentity persisted := by
  have hfold : ∀ (values : List ℕ) (start : ℕ), start ≤ values.foldl max start ∧
      ∀ value ∈ values, value ≤ values.foldl max start := by
    intro values
    induction values with
    | nil => exact fun start => ⟨le_rfl, fun _ h => nomatch h⟩
    | cons first values ih =>
      intro start
      obtain ⟨hstart, hvalues⟩ := ih (max start first)
      refine ⟨(le_max_left start first).trans hstart, fun value hvalue => ?_⟩
      obtain rfl | hvalue := List.mem_cons.mp hvalue
      · exact (le_max_right start value).trans hstart
      · exact hvalues value hvalue
  exact (hfold _ 0).2 _ (List.mem_map_of_mem h)

/-- A new provisioner over a store that it accepts. -/
lemma new_sound {capacity : ℕ} {store : UserDataRecordStore}
    {listFault : Option UserDataProvisioningError}
    (h : UserDataProvisioner.new capacity store listFault = .ok provisioner) :
    Sound provisioner ∧ provisioner.store = store ∧ provisioner.capacity = capacity ∧
      provisioner.nextIdentity = UserDataProvisioner.largestIdentity store.list + 1 := by
  simp only [UserDataProvisioner.new, except_bind_eq_ok, refuse_eq_ok, Unique.exists_iff,
    not_or, not_lt] at h
  obtain ⟨⟨hpos, hcapacity⟩, persisted, hlist, hset, nextIdentity, hnext, h⟩ := h
  obtain rfl := Except.ok.inj h
  obtain rfl : store.list = persisted := by
    cases listFault with
    | none => exact Except.ok.inj hlist
    | some e => cases hlist
  have hnext : nextIdentity = UserDataProvisioner.largestIdentity store.list + 1 := by
    have hadd := okOr_eq_ok.mp hnext
    rw [checkedAdd] at hadd
    split_ifs at hadd
    exact (Option.some.inj hadd).symm
  have hrecords := store.collect_list
  obtain ⟨hlength, hvalid, -, hidentities⟩ := validateSet_eq_ok.mp hset
  have hmem : ∀ {key : OperationKey} {record : UserDataProvisioningRecord},
      store.records[key]? = some record → record ∈ store.list := by
    intro key record hrecord
    rw [UserDataRecordStore.mem_list, store.keyed key record hrecord]
    exact hrecord
  refine ⟨⟨Nat.pos_of_ne_zero hpos, hcapacity, hrecords, ?_, ?_, ?_, ?_, ?_,
    hnext ▸ Nat.succ_pos _⟩, rfl, rfl, hnext⟩ <;> dsimp only <;> rw [hrecords]
  · exact fun key record hrecord => (hvalid record (hmem hrecord)).1
  · intro key₁ key₂ record₁ record₂ h₁ h₂ heq
    have hsame := List.inj_on_of_nodup_map hidentities (hmem h₁) (hmem h₂) heq
    rw [← store.keyed key₁ record₁ h₁, ← store.keyed key₂ record₂ h₂, hsame]
  · intro key record hrecord
    rw [hnext]
    exact Nat.lt_succ_of_le (le_largestIdentity (hmem hrecord))
  · exact fun key record hrecord => (hvalid record (hmem hrecord)).2
  · rwa [← store.length_list]

end Sound

/-! ### Writes that the durable store accepts -/

/-- The durable store lets a write through, and the set that it leaves behind. -/
def UserDataEvent.Accepted : UserDataEvent → Prop
  | .inserted before record _ =>
    before.insertCheck record = .ok () ∧
      validateSet (before.put record).list maxAllocations = .ok ()
  | .updated before record _ =>
    before.updateCheck record = .ok () ∧
      validateSet (before.put record).list maxAllocations = .ok ()
  | _ => True

section Accepted

variable {provisioner : UserDataProvisioner}

/-- **A pending record** is accepted. -/
lemma accepted_inserted (h : Sound provisioner) {pending : UserDataProvisioningRecord}
    (hreserves : Reserves provisioner pending) (fault : Option UserDataProvisioningError) :
    (UserDataEvent.inserted provisioner.store pending fault).Accepted := by
  refine ⟨?_, (h.reserved hreserves).validateSet⟩
  have hkept := h.kept
  have hroom := hreserves.room
  have hcapacity := h.capacity_le
  have hsize : provisioner.store.list.length = provisioner.records.size := by
    rw [UserDataRecordStore.length_list, hkept]
  simp only [UserDataRecordStore.insertCheck, except_bind_eq_ok, refuse_eq_ok, Unique.exists_iff]
  refine ⟨hreserves.valid h.capacity_le, fun hne => hne hreserves.status, h.validateSet, ?_,
    by omega⟩
  rw [List.any_eq_true]
  rintro ⟨old, hold, hsame⟩
  rw [UserDataRecordStore.mem_list, ← hkept] at hold
  rw [Bool.or_eq_true, decide_eq_true_eq, decide_eq_true_eq] at hsame
  obtain hsame | hsame := hsame
  · have := h.below _ old hold
    rw [hsame, hreserves.identity] at this
    exact lt_irrefl _ this
  · rw [hsame, hreserves.fresh] at hold
    cases hold

/-- **A changed record** is accepted. -/
lemma accepted_updated (h : Sound provisioner) {key : OperationKey}
    {record : UserDataProvisioningRecord} (hrecord : provisioner.records[key]? = some record)
    (hblocked : record.status ≠ .blocked) {status : UserDataProvisioningStatus}
    {descriptor : Option UserDataDescriptor} {guidance : Option RecoveryGuidance}
    (hpermitted : Permitted record status descriptor guidance)
    (fault : Option UserDataProvisioningError) :
    (UserDataEvent.updated provisioner.store
      (updateRecord record status descriptor guidance) fault).Accepted := by
  refine ⟨?_, (h.changed hrecord hpermitted).validateSet⟩
  have hvalid := h.valid key record hrecord
  have hfind : (provisioner.store.list.find? fun old =>
      old.key = (updateRecord record status descriptor guidance).key) = some record := by
    rw [UserDataRecordStore.find?_list, ← h.kept]
    change provisioner.records[record.key]? = some record
    rwa [h.key_eq hrecord]
  simp only [UserDataRecordStore.updateCheck, except_bind_eq_ok, Unique.exists_iff, hfind,
    okOr_some, Except.ok.injEq, exists_eq_left']
  exact ⟨hpermitted.validate_updated hvalid, h.validateSet,
    hpermitted.validateUpdate_updated hvalid hblocked⟩

end Accepted

/-! ### Turns -/

/-- The operation that a creation is for. -/
def UserDataCreateRequest.operation (request : UserDataCreateRequest) : OperationKey :=
  toLex (request.descriptor.provenance.instanceId, request.descriptor.provenance.operationId)

def UserDataEvent.createdRequest : UserDataEvent → Option UserDataCreateRequest
  | .created request _ => some request
  | _ => none

/-- The creations that the port was asked for. -/
def createdRequests (events : List UserDataEvent) : List UserDataCreateRequest :=
  events.filterMap UserDataEvent.createdRequest

/-- What one turn may do to the stored records. -/
structure Isolated (store : UserDataRecordStore) (turn : ProvisioningSystem.Turn) : Prop where
  /-- The records of a provisioner are the stored ones, with identities of their own. -/
  distinct : ∀ provisioner, turn.system = .running provisioner →
    provisioner.records = provisioner.store.records ∧
      (provisioner.store.list.map fun record => record.descriptor.identity).Nodup
  /-- A creation follows the stored intent of a new operation with a new identity, and an
  inspection that found nothing under it. -/
  created : ∀ request answer, UserDataEvent.created request answer ∈ turn.events →
    (∃ bound before pending rest, turn.events =
      bound :: .inserted before pending none ::
        .inspected request.descriptor.identity (.ok .absent) :: .created request answer :: rest ∧
      pending.status = .pending ∧ request = ⟨pending.descriptor, pending.launchProfile⟩ ∧
      pending.key = request.operation) ∧
    store.records[request.operation]? = none ∧
    ∀ (key : OperationKey) (record : UserDataProvisioningRecord),
      store.records[key]? = some record →
        record.descriptor.identity ≠ request.descriptor.identity
  /-- At most one creation, for a record that stays. -/
  single : (createdRequests turn.events).length ≤ 1
  recorded : ∀ request ∈ createdRequests turn.events, ∃ record,
    turn.system.store.records[request.operation]? = some record ∧
      record.descriptor.identity = request.descriptor.identity
  /-- No record is lost, or gets another identity. -/
  kept : ∀ (key : OperationKey) (record : UserDataProvisioningRecord),
    store.records[key]? = some record → ∃ after, turn.system.store.records[key]? = some after ∧
      after.descriptor.identity = record.descriptor.identity
  /-- A record becomes created on an answer with its own identity and provenance. -/
  confirmed : ∀ (key : OperationKey) (record : UserDataProvisioningRecord),
    turn.system.store.records[key]? = some record → record.status = .created →
      store.records[key]? = some record ∨ ∃ answer ∈ turn.events,
        answer.Confirms record.descriptor.identity record.descriptor.provenance
  frozen : ∀ (key : OperationKey) (record : UserDataProvisioningRecord),
    store.records[key]? = some record → record.status = .blocked →
      turn.system.store.records[key]? = some record
  accepted : ∀ event ∈ turn.events, event.Accepted

section Turns

variable {provisioner : UserDataProvisioner} {ports : UserDataPorts}

lemma Sound.distinct_list (h : Sound provisioner) :
    provisioner.records = provisioner.store.records ∧
      (provisioner.store.list.map fun record => record.descriptor.identity).Nodup :=
  ⟨h.kept, nodup_identities (h.kept ▸ h.distinct)⟩

/-- Where nothing was created, no creation is listed. -/
lemma created_not_mem {events : List UserDataEvent} (h : createdRequests events = [])
    {request : UserDataCreateRequest}
    {answer : Except UserDataPortError UserDataCreateOutcome} :
    UserDataEvent.created request answer ∉ events := by
  intro hmem
  have hrequest : request ∈ createdRequests events := List.mem_filterMap.mpr ⟨_, hmem, rfl⟩
  rw [h] at hrequest
  cases hrequest

/-- A turn that leaves the stored records as they are. -/
lemma isolated_of_unchanged {store : UserDataRecordStore} {turn : ProvisioningSystem.Turn}
    (hsound : ∀ provisioner, turn.system = .running provisioner → Sound provisioner)
    (hstore : turn.system.store = store) (hcreated : createdRequests turn.events = [])
    (haccepted : ∀ event ∈ turn.events, event.Accepted) : Isolated store turn where
  distinct provisioner hrunning := (hsound provisioner hrunning).distinct_list
  created _ _ hmem := absurd hmem (created_not_mem hcreated)
  single := by rw [hcreated]; exact Nat.zero_le _
  recorded request hrequest := by
    rw [hcreated] at hrequest
    cases hrequest
  kept key record hrecord := ⟨record, hstore ▸ hrecord, rfl⟩
  confirmed key record hrecord _ := .inl (hstore ▸ hrecord)
  frozen key record hrecord _ := hstore ▸ hrecord
  accepted := haccepted

/-- A change is persisted, or the store fails and nothing changes. -/
lemma Changes.cases {key : OperationKey} {record : UserDataProvisioningRecord}
    {answer : UserDataEvent} {reply : ProvisioningReply} (hkey : record.key = key)
    (h : Changes provisioner ports key record answer reply) :
    ∃ status descriptor guidance, Verdict record answer status descriptor guidance ∧
      ((∃ e, reply.after = provisioner ∧ reply.events = [.updated provisioner.store
          (updateRecord record status descriptor guidance) (some e)]) ∨
        (reply.after = provisioner.changed (updateRecord record status descriptor guidance) ∧
          reply.events = [.updated provisioner.store
            (updateRecord record status descriptor guidance) none])) := by
  obtain ⟨status, descriptor, guidance, hverdict, rfl⟩ := h
  refine ⟨status, descriptor, guidance, hverdict, ?_⟩
  have hupdated : (updateRecord record status descriptor guidance).key = key := hkey
  rw [UserDataProvisioner.persist, UserDataProvisioner.changed, hupdated]
  cases ports.updateFault (updateRecord record status descriptor guidance) with
  | some e => exact .inl ⟨e, rfl, rfl⟩
  | none => exact .inr ⟨rfl, rfl⟩

/-- What a change of one record does to the store. -/
structure Changed (store : UserDataRecordStore) (answer : UserDataEvent)
    (reply : ProvisioningReply) : Prop where
  sound : Sound reply.after
  accepted : ∀ event ∈ reply.events, event.Accepted
  quiet : createdRequests reply.events = []
  kept : ∀ (key : OperationKey) (record : UserDataProvisioningRecord),
    store.records[key]? = some record → ∃ after, reply.after.store.records[key]? = some after ∧
      after.descriptor.identity = record.descriptor.identity
  confirmed : ∀ (key : OperationKey) (record : UserDataProvisioningRecord),
    reply.after.store.records[key]? = some record → record.status = .created →
      store.records[key]? = some record ∨
        answer.Confirms record.descriptor.identity record.descriptor.provenance
  frozen : ∀ (key : OperationKey) (record : UserDataProvisioningRecord),
    store.records[key]? = some record → record.status = .blocked →
      reply.after.store.records[key]? = some record

/-- **A change** touches one record that is not blocked. -/
lemma Changes.changed {key : OperationKey} {record : UserDataProvisioningRecord}
    {answer : UserDataEvent} {reply : ProvisioningReply} (hsound : Sound provisioner)
    (hrecord : provisioner.records[key]? = some record) (hblocked : record.status ≠ .blocked)
    (h : Changes provisioner ports key record answer reply) :
    Changed provisioner.store answer reply := by
  have hstored : provisioner.store.records[key]? = some record := hsound.kept ▸ hrecord
  obtain ⟨status, descriptor, guidance, hverdict, ⟨e, hafter, hevents⟩ | ⟨hafter, hevents⟩⟩ :=
    h.cases (hsound.key_eq hrecord)
  · refine ⟨hafter ▸ hsound, ?_, by rw [hevents]; rfl, ?_, ?_, ?_⟩
    · intro event hevent
      rw [hevents, List.mem_singleton] at hevent
      rw [hevent]
      exact accepted_updated hsound hrecord hblocked hverdict.permitted _
    · rw [hafter]
      exact fun _ found hfound => ⟨found, hfound, rfl⟩
    · rw [hafter]
      exact fun _ _ hfound _ => .inl hfound
    · rw [hafter]
      exact fun _ _ hfound _ => hfound
  · have hkey : (updateRecord record status descriptor guidance).key = key := by
      rw [← hsound.key_eq hrecord]
      rfl
    have hlookup : ∀ other : OperationKey, reply.after.store.records[other]? =
        if key = other then some (updateRecord record status descriptor guidance)
        else provisioner.store.records[other]? := by
      intro other
      rw [hafter, UserDataProvisioner.changed, UserDataRecordStore.put,
        OrderedMap.getElem?_insert_if, hkey]
    refine ⟨hafter ▸ hsound.changed hrecord hverdict.permitted, ?_, by rw [hevents]; rfl,
      fun other found hfound => ?_, fun other found hfound hcreated => ?_,
      fun other found hfound hfrozen => ?_⟩
    · intro event hevent
      rw [hevents, List.mem_singleton] at hevent
      rw [hevent]
      exact accepted_updated hsound hrecord hblocked hverdict.permitted _
    · rw [hlookup]
      split_ifs with hother
      · rw [← hother, hstored] at hfound
        rw [← Option.some.inj hfound]
        exact ⟨_, rfl, hverdict.permitted.updated_identity⟩
      · exact ⟨found, hfound, rfl⟩
    · rw [hlookup] at hfound
      split_ifs at hfound with hother
      · obtain rfl := Option.some.inj hfound
        rw [hverdict.permitted.updated_identity, hverdict.permitted.updated_provenance]
        exact .inr (hverdict.confirmed hcreated)
      · exact .inl hfound
    · rw [hlookup]
      split_ifs with hother
      · rw [← hother, hstored] at hfound
        rw [← Option.some.inj hfound] at hfrozen
        exact absurd hfrozen hblocked
      · exact hfound

/-- A reconciliation creates nothing. -/
lemma isolated_reconciled {identity : UserDataIdentity}
    {answer : Except UserDataPortError UserDataInspection} {reply : ProvisioningReply}
    (h : Changed provisioner.store (.inspected identity answer) reply) :
    Isolated provisioner.store
      (ProvisioningSystem.ofReply (reply.prepend [.inspected identity answer])) := by
  have hcreated : createdRequests (reply.prepend [.inspected identity answer]).events = [] := h.quiet
  refine ⟨?_, fun request creation hmem => absurd hmem (created_not_mem hcreated), ?_,
    fun request hrequest => ?_, h.kept, fun key record hrecord hstatus => ?_, h.frozen, ?_⟩
  · rintro _ ⟨⟩
    exact h.sound.distinct_list
  · exact hcreated ▸ Nat.zero_le 1
  · rw [ProvisioningSystem.ofReply, hcreated] at hrequest
    cases hrequest
  · exact (h.confirmed key record hrecord hstatus).imp id fun hconfirms =>
      ⟨_, List.mem_cons_self, hconfirms⟩
  · exact List.forall_mem_cons.mpr ⟨trivial, h.accepted⟩

section Reserved

variable {pending : UserDataProvisioningRecord}

lemma reserved_lookup (key : OperationKey) :
    (provisioner.reserved pending).store.records[key]? =
      if pending.key = key then some pending else provisioner.store.records[key]? := by
  rw [UserDataProvisioner.reserved, UserDataRecordStore.put, OrderedMap.getElem?_insert_if]

/-- A pending record names its own operation. -/
lemma operation_pending (hvalid : validate pending = .ok ()) :
    (⟨pending.descriptor, pending.launchProfile⟩ : UserDataCreateRequest).operation =
      pending.key := by
  obtain ⟨-, -, -, -, -, hinstance, hoperation, -⟩ := validate_eq_ok.mp hvalid
  rw [UserDataCreateRequest.operation, UserDataProvisioningRecord.key, hinstance, hoperation]

/-- A creation is for the pending record that was stored. -/
lemma isolated_created (hsound : Sound provisioner) (hreserves : Reserves provisioner pending)
    {bound : UserDataEvent} (hbound : ∃ identity answer, bound = .bound identity answer)
    {before : List UserDataEvent} {answer : UserDataEvent} (hprobe : Probe pending before answer)
    {reply : ProvisioningReply}
    (h : Changed (provisioner.reserved pending).store answer reply) :
    Isolated provisioner.store (ProvisioningSystem.ofReply (reply.prepend
      ([bound, .inserted provisioner.store pending none] ++ (before ++ [answer])))) := by
  have hvalid := hreserves.valid hsound.capacity_le
  have hfresh : provisioner.store.records[pending.key]? = none := hsound.kept ▸ hreserves.fresh
  have hother : ∀ {key : OperationKey} {record : UserDataProvisioningRecord},
      provisioner.store.records[key]? = some record → pending.key ≠ key := by
    rintro key record hrecord rfl
    rw [hfresh] at hrecord
    cases hrecord
  have hnone : createdRequests [bound, .inserted provisioner.store pending none] = [] := by
    obtain ⟨_, _, rfl⟩ := hbound
    rfl
  have hrequests : createdRequests (reply.prepend
      ([bound, .inserted provisioner.store pending none] ++ (before ++ [answer]))).events =
        createdRequests (before ++ [answer]) := by
    have hquiet := h.quiet
    rw [createdRequests] at hnone hquiet
    rw [createdRequests, ProvisioningReply.prepend, List.filterMap_append, List.filterMap_append,
      hnone, hquiet, List.nil_append, List.append_nil, createdRequests]
  have hpending : ∀ request ∈ createdRequests (before ++ [answer]),
      request = ⟨pending.descriptor, pending.launchProfile⟩ := by
    intro request hrequest
    cases hprobe with
    | inspected answer => cases hrequest
    | created answer => exact List.mem_singleton.mp hrequest
  have hcreation : ∀ request creation, UserDataEvent.created request creation ∈
      (reply.prepend ([bound, .inserted provisioner.store pending none] ++
        (before ++ [answer]))).events → UserDataEvent.created request creation ∈ before ++ [answer] := by
    intro request creation hmem
    obtain hmem | hmem := List.mem_append.mp hmem
    · obtain hmem | hmem := List.mem_append.mp hmem
      · exact absurd hmem (created_not_mem hnone)
      · exact hmem
    · exact absurd hmem (created_not_mem h.quiet)
  refine ⟨?_, fun request creation hmem => ?_, ?_, fun request hrequest => ?_,
    fun key record hrecord => ?_, fun key record hrecord hstatus => ?_,
    fun key record hrecord hblocked => ?_, ?_⟩
  · rintro _ ⟨⟩
    exact h.sound.distinct_list
  · have hmem := hcreation request creation hmem
    obtain rfl := hpending request (List.mem_filterMap.mpr ⟨_, hmem, rfl⟩)
    refine ⟨?_, by rwa [operation_pending hvalid], fun key record hrecord heq => ?_⟩
    · cases hprobe with
      | inspected answer => exact absurd hmem (created_not_mem rfl)
      | created answer =>
        have hlast : UserDataEvent.created ⟨pending.descriptor, pending.launchProfile⟩ creation =
            .created ⟨pending.descriptor, pending.launchProfile⟩ answer := by
          simpa using hmem
        rw [hlast]
        exact ⟨bound, _, pending, reply.events, rfl, hreserves.status, rfl,
          (operation_pending hvalid).symm⟩
    · rw [← hsound.kept] at hrecord
      have hlt := hsound.below key record hrecord
      rw [heq, hreserves.identity] at hlt
      exact lt_irrefl _ hlt
  · rw [ProvisioningSystem.ofReply, hrequests]
    cases hprobe with
    | inspected answer => exact Nat.zero_le 1
    | created answer => exact le_rfl
  · rw [ProvisioningSystem.ofReply, hrequests] at hrequest
    rw [hpending request hrequest, operation_pending hvalid]
    exact h.kept pending.key pending (by rw [reserved_lookup, if_pos rfl])
  · refine h.kept key record ?_
    rwa [reserved_lookup, if_neg (hother hrecord)]
  · obtain hold | hconfirms := h.confirmed key record hrecord hstatus
    · rw [reserved_lookup] at hold
      split_ifs at hold with hkey
      · rw [← Option.some.inj hold, hreserves.status] at hstatus
        cases hstatus
      · exact .inl hold
    · exact .inr ⟨answer, by simp [ProvisioningSystem.ofReply, ProvisioningReply.prepend],
        hconfirms⟩
  · refine h.frozen key record ?_ hblocked
    rwa [reserved_lookup, if_neg (hother hrecord)]
  · refine List.forall_mem_append.mpr ⟨List.forall_mem_append.mpr ⟨?_, ?_⟩, h.accepted⟩
    · obtain ⟨_, _, rfl⟩ := hbound
      exact List.forall_mem_cons.mpr ⟨trivial, List.forall_mem_singleton.mpr
        (accepted_inserted hsound hreserves _)⟩
    · cases hprobe with
      | inspected answer => exact List.forall_mem_singleton.mpr trivial
      | created answer =>
        exact List.forall_mem_cons.mpr ⟨trivial, List.forall_mem_singleton.mpr trivial⟩

end Reserved

/-- **Each course of a call** is isolated, and leaves a sound provisioner. -/
lemma Course.isolated {reply : ProvisioningReply} (hsound : Sound provisioner)
    (h : Course provisioner ports reply) :
    Sound reply.after ∧ Isolated provisioner.store (ProvisioningSystem.ofReply reply) := by
  have hrunning : ∀ {reply : ProvisioningReply}, Sound reply.after → ∀ other,
      (ProvisioningSystem.ofReply reply).system = .running other → Sound other := by
    rintro reply hafter other ⟨⟩
    exact hafter
  cases h with
  | stayed answer =>
    exact ⟨hsound, isolated_of_unchanged (hrunning hsound) rfl rfl fun _ h => nomatch h⟩
  | unbound error bound hbound within =>
    obtain ⟨identity, answer, rfl⟩ := hbound
    refine ⟨hsound.taken, isolated_of_unchanged (hrunning hsound.taken) rfl rfl ?_⟩
    exact List.forall_mem_singleton.mpr trivial
  | unstored error bound hbound pending reserves =>
    obtain ⟨identity, answer, rfl⟩ := hbound
    refine ⟨hsound.taken, isolated_of_unchanged (hrunning hsound.taken) rfl rfl ?_⟩
    exact List.forall_mem_cons.mpr ⟨trivial, List.forall_mem_singleton.mpr
      (accepted_inserted hsound reserves _)⟩
  | created bound hbound pending reserves before answer probe reply changes =>
    have hpending : (provisioner.reserved pending).records[pending.key]? = some pending := by
      rw [(hsound.reserved reserves).kept, reserved_lookup, if_pos rfl]
    have hchanged := changes.changed (hsound.reserved reserves) hpending
      (by rw [reserves.status]; decide)
    exact ⟨hchanged.sound, isolated_created hsound reserves hbound probe hchanged⟩
  | reconciled key record found hblocked answer reply changes =>
    have hchanged := changes.changed hsound found hblocked
    exact ⟨hchanged.sound, isolated_reconciled hchanged⟩

end Turns

/-! ### Runs -/

namespace ProvisioningSystem

/-- A running provisioner is sound. -/
def Good (system : ProvisioningSystem) : Prop :=
  ∀ provisioner, system = .running provisioner → Sound provisioner

variable {system : ProvisioningSystem}

lemma good_stopped (store : UserDataRecordStore) : Good (.stopped store) := fun _ h => nomatch h

/-- **One turn** of a run. -/
lemma turn_isolated (h : system.Good) (input : Input) :
    (system.turn input).system.Good ∧ Isolated system.store (system.turn input) := by
  have hreply : ∀ {provisioner : UserDataProvisioner} {ports : UserDataPorts}
      {reply : ProvisioningReply}, system = .running provisioner →
        (Sound provisioner → Course provisioner ports reply) →
          (ofReply reply).system.Good ∧ Isolated system.store (ofReply reply) := by
    intro provisioner ports reply hsystem hcourse
    obtain ⟨hafter, hisolated⟩ := (hcourse (h _ hsystem)).isolated (h _ hsystem)
    rw [hsystem]
    refine ⟨?_, hisolated⟩
    rintro other ⟨⟩
    exact hafter
  have hdown : ∀ store answer, system.store = store →
      Good (.stopped store) ∧ Isolated system.store ⟨answer, .stopped store, []⟩ := by
    rintro store answer rfl
    exact ⟨good_stopped _, isolated_of_unchanged (fun _ h => nomatch h) rfl rfl fun _ h => nomatch h⟩
  cases input with
  | restart capacity listFault =>
    rw [turn]
    cases hnew : UserDataProvisioner.new capacity system.store listFault with
    | error e => exact hdown _ _ rfl
    | ok provisioner =>
      obtain ⟨hsound, hstore, -⟩ := new_sound hnew
      have hgood : Good (.running provisioner) := by
        rintro other ⟨⟩
        exact hsound
      exact ⟨hgood, isolated_of_unchanged hgood hstore rfl fun _ h => nomatch h⟩
  | createDisposable ports context operationId profileId =>
    cases system with
    | stopped store => exact hdown store _ rfl
    | running provisioner =>
      exact hreply rfl fun hsound => createDisposable_course ports hsound.capacity_le
        hsound.valid context operationId profileId
  | reconcile ports context operationId =>
    cases system with
    | stopped store => exact hdown store _ rfl
    | running provisioner =>
      exact hreply rfl fun hsound =>
        reconcile_course ports hsound.valid context operationId

lemma run_cons (input : Input) (inputs : List Input) :
    system.run (input :: inputs) = (system.turn input).system.run inputs := rfl

lemma run_append (inputs more : List Input) :
    system.run (inputs ++ more) = (system.run inputs).run more :=
  List.foldl_append

lemma events_cons (input : Input) (inputs : List Input) :
    system.events (input :: inputs) =
      (system.turn input).events ++ (system.turn input).system.events inputs := rfl

lemma run_good (h : system.Good) (inputs : List Input) : (system.run inputs).Good := by
  induction inputs generalizing system with
  | nil => exact h
  | cons input inputs ih => exact ih (turn_isolated h input).1

/-- A blocked record stays as it is. -/
lemma run_frozen (h : system.Good) (inputs : List Input) {key : OperationKey}
    {record : UserDataProvisioningRecord} (hrecord : system.store.records[key]? = some record)
    (hblocked : record.status = .blocked) :
    (system.run inputs).store.records[key]? = some record := by
  induction inputs generalizing system with
  | nil => exact hrecord
  | cons input inputs ih =>
    obtain ⟨hgood, hisolated⟩ := turn_isolated h input
    exact ih hgood (hisolated.frozen key record hrecord hblocked)

end ProvisioningSystem

/-- No operation and no identity is created twice. -/
structure CreatedOnce (events : List UserDataEvent) : Prop where
  operations : ((createdRequests events).map UserDataCreateRequest.operation).Nodup
  identities : ((createdRequests events).map fun request => request.descriptor.identity).Nodup

/-- A request for an operation and an identity that no stored record has. -/
def Unrecorded (store : UserDataRecordStore) (request : UserDataCreateRequest) : Prop :=
  store.records[request.operation]? = none ∧
    ∀ (key : OperationKey) (record : UserDataProvisioningRecord),
      store.records[key]? = some record →
        record.descriptor.identity ≠ request.descriptor.identity

/-- What a turn leaves unrecorded was so before it. -/
lemma Isolated.unrecorded {store : UserDataRecordStore} {turn : ProvisioningSystem.Turn}
    (h : Isolated store turn) {request : UserDataCreateRequest}
    (hafter : Unrecorded turn.system.store request) : Unrecorded store request := by
  refine ⟨?_, fun key record hrecord heq => ?_⟩
  · by_contra hsome
    obtain ⟨record, hrecord⟩ := Option.ne_none_iff_exists'.mp hsome
    obtain ⟨after, hfound, -⟩ := h.kept _ record hrecord
    rw [hafter.1] at hfound
    cases hfound
  · obtain ⟨after, hfound, hid⟩ := h.kept key record hrecord
    exact hafter.2 key after hfound (hid.trans heq)

/-- **Each creation of a run** is for an operation and an identity that were not recorded, and
so for no other creation's. -/
lemma run_createdOnce {system : ProvisioningSystem} (h : system.Good)
    (inputs : List ProvisioningSystem.Input) :
    CreatedOnce (system.events inputs) ∧
      ∀ request ∈ createdRequests (system.events inputs), Unrecorded system.store request := by
  induction inputs generalizing system with
  | nil => exact ⟨⟨List.nodup_nil, List.nodup_nil⟩, fun _ h => nomatch h⟩
  | cons input inputs ih =>
    obtain ⟨hgood, hisolated⟩ := ProvisioningSystem.turn_isolated h input
    obtain ⟨⟨hoperations, hidentities⟩, hunrecorded⟩ := ih hgood
    have hsplit : createdRequests (system.events (input :: inputs)) =
        createdRequests (system.turn input).events ++
          createdRequests ((system.turn input).system.events inputs) := by
      rw [ProvisioningSystem.events_cons, createdRequests, List.filterMap_append]
      rfl
    have hnew : ∀ request ∈ createdRequests (system.turn input).events,
        Unrecorded system.store request := by
      intro request hrequest
      obtain ⟨event, hevent, hcreated⟩ := List.mem_filterMap.mp hrequest
      cases event with
      | created other answer =>
        obtain rfl := Option.some.inj hcreated
        exact (hisolated.created _ answer hevent).2
      | inspected _ _ | bound _ _ | inserted _ _ _ | updated _ _ _ => cases hcreated
    have hfirst : ∀ {α : Type} (f : UserDataCreateRequest → α),
        ((createdRequests (system.turn input).events).map f).Nodup := by
      intro α f
      have hsingle := hisolated.single
      match hlist : createdRequests (system.turn input).events with
      | [] => exact List.nodup_nil
      | [request] => exact List.nodup_singleton _
      | _ :: _ :: _ =>
        rw [hlist] at hsingle
        simp at hsingle
    refine ⟨⟨?_, ?_⟩, ?_⟩
    · rw [hsplit, List.map_append, List.nodup_append]
      refine ⟨hfirst _, hoperations, fun operation hearly later hlater heq => ?_⟩
      obtain ⟨request, hrequest, rfl⟩ := List.mem_map.mp hearly
      obtain ⟨other, hother, rfl⟩ := List.mem_map.mp hlater
      obtain ⟨record, hrecord, -⟩ := hisolated.recorded request hrequest
      rw [heq, (hunrecorded other hother).1] at hrecord
      cases hrecord
    · rw [hsplit, List.map_append, List.nodup_append]
      refine ⟨hfirst _, hidentities, fun identity hearly later hlater heq => ?_⟩
      obtain ⟨request, hrequest, rfl⟩ := List.mem_map.mp hearly
      obtain ⟨other, hother, rfl⟩ := List.mem_map.mp hlater
      obtain ⟨record, hrecord, hid⟩ := hisolated.recorded request hrequest
      exact (hunrecorded other hother).2 _ record hrecord (hid.trans heq)
    · intro request hrequest
      rw [hsplit] at hrequest
      obtain hrequest | hrequest := List.mem_append.mp hrequest
      · exact hnew request hrequest
      · exact hisolated.unrecorded (hunrecorded request hrequest)

/-- **User-data provisioning never adopts, overwrites or shares**: in every run over any store,
with any answers of the ports and any failures of the store, no operation and no identity is
created twice; each turn is isolated; and a blocked record stays as it is. -/
theorem user_data_provisioning_isolated (store : UserDataRecordStore)
    (inputs : List ProvisioningSystem.Input) :
    CreatedOnce (ProvisioningSystem.events (.stopped store) inputs) ∧
      (∀ input, Isolated (ProvisioningSystem.run (.stopped store) inputs).store
        ((ProvisioningSystem.run (.stopped store) inputs).turn input)) ∧
      ∀ (more : List ProvisioningSystem.Input) (key : OperationKey)
        (record : UserDataProvisioningRecord),
        (ProvisioningSystem.run (.stopped store) inputs).store.records[key]? = some record →
          record.status = .blocked →
            (ProvisioningSystem.run (.stopped store) (inputs ++ more)).store.records[key]? =
              some record := by
  have hgood := ProvisioningSystem.good_stopped store
  refine ⟨(run_createdOnce hgood inputs).1, fun input => ?_, fun more key record hrecord hblocked => ?_⟩
  · exact (ProvisioningSystem.turn_isolated (ProvisioningSystem.run_good hgood inputs) input).2
  · rw [ProvisioningSystem.run_append]
    exact ProvisioningSystem.run_frozen (ProvisioningSystem.run_good hgood inputs) more hrecord
      hblocked

end Sts2Gateway.SaveProfile
