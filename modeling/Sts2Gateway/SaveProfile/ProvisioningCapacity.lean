/-
What a refused allocation costs.

* `observe`: what is seen of a run: the answers, and the calls of the ports and the store;
* `RebuiltOver`, `exists_rebuilt`: the provisioner that `new` builds over the same store;
* `Early`: the allocations that are refused before they take an identity;
* `Spent`, `observe_spent`: provisioners without identities left behave alike;
* `refused_allocation_free_iff`: **a refused allocation leaves a provisioner that behaves as
  one built again exactly when it took no identity, and none was taken in vain before**;
* `refused_allocation_costs`: the only identity, taken by a refused binding.
-/
import Sts2Gateway.SaveProfile.ProvisioningSafety

namespace Sts2Gateway.SaveProfile

open Procedure Provisioning
open Std (ExtTreeMap)

/-! ### Behaviour -/

/-- What is seen of a run. -/
def ProvisioningSystem.observe (system : ProvisioningSystem) (inputs : List Input) :
    List (Answer × List UserDataEvent) :=
  (system.turns inputs).map fun turn => (turn.answer, turn.events)

/-- The provisioner that is built over the same store. -/
def RebuiltOver (provisioner rebuilt : UserDataProvisioner) : Prop :=
  UserDataProvisioner.new provisioner.capacity provisioner.store none = .ok rebuilt

/-- Refused before an identity is taken. -/
def Early (provisioner : UserDataProvisioner) (context : SaveProfileContext)
    (operationId profileId : String) : Prop :=
  Provisioning.validateRequest context operationId profileId ≠ .ok () ∨
    provisioner.records[(toLex (context.instanceId, operationId) : OperationKey)]? ≠ none ∨
    provisioner.capacity ≤ provisioner.records.size ∨
    provisioner.capacity < provisioner.nextIdentity

/-- The largest stored identity. -/
def UserDataProvisioner.largest (provisioner : UserDataProvisioner) : ℕ :=
  largestIdentity provisioner.store.list

section RebuiltOver

variable {provisioner rebuilt : UserDataProvisioner}

lemma largestIdentity_lt {persisted : List UserDataProvisioningRecord} {bound : ℕ}
    (hpos : 0 < bound) (h : ∀ record ∈ persisted, record.descriptor.identity.value < bound) :
    UserDataProvisioner.largestIdentity persisted < bound := by
  have hfold : ∀ (values : List ℕ) (start : ℕ), start < bound → (∀ value ∈ values, value < bound) →
      values.foldl max start < bound := by
    intro values
    induction values with
    | nil => exact fun start hstart _ => hstart
    | cons first values ih =>
      intro start hstart hvalues
      rw [List.forall_mem_cons] at hvalues
      exact ih _ (max_lt hstart hvalues.1) hvalues.2
  refine hfold _ 0 hpos fun value hvalue => ?_
  obtain ⟨record, hrecord, rfl⟩ := List.mem_map.mp hvalue
  exact h record hrecord

lemma Sound.mem_list (h : Sound provisioner) {record : UserDataProvisioningRecord} :
    record ∈ provisioner.store.list ↔ provisioner.records[record.key]? = some record := by
  rw [UserDataRecordStore.mem_list, h.kept]

lemma Sound.largest_le (h : Sound provisioner) : provisioner.largest ≤ provisioner.capacity :=
  Nat.le_of_lt_succ (largestIdentity_lt (Nat.succ_pos _) fun record hrecord =>
    Nat.lt_succ_of_le (h.within _ record (h.mem_list.mp hrecord)))

/-- A sound provisioner can be built again; only the next identity may differ. -/
lemma exists_rebuilt (h : Sound provisioner) :
    ∃ rebuilt, RebuiltOver provisioner rebuilt ∧
      rebuilt = { provisioner with nextIdentity := provisioner.largest + 1 } := by
  have hset : validateSet provisioner.store.list provisioner.capacity = .ok () := by
    refine validateSet_list (h.kept ▸ h.size_le) (fun key record hrecord => ?_)
      (h.kept ▸ h.distinct)
    rw [← h.kept] at hrecord
    exact ⟨h.valid key record hrecord, h.within key record hrecord⟩
  have hadd : checkedAdd (UserDataProvisioner.largestIdentity provisioner.store.list) 1 =
      some (provisioner.largest + 1) := checkedAdd_one (h.largest_le.trans h.capacity_le)
  have hrecords : UserDataProvisioner.collectRecords provisioner.store.list =
      provisioner.records := provisioner.store.collect_list.trans h.kept.symm
  have hcapacity : ¬ (provisioner.capacity = 0 ∨ maxAllocations < provisioner.capacity) := by
    have := h.capacity_pos
    have := h.capacity_le
    omega
  refine ⟨_, ?_, rfl⟩
  simp only [RebuiltOver, UserDataProvisioner.new, except_bind_eq_ok, refuse_eq_ok, Unique.exists_iff]
  refine ⟨hcapacity, provisioner.store.list, rfl, hset, _, okOr_eq_ok.mpr hadd, ?_⟩
  rw [hrecords]
  rfl

/-- As many records as identities up to the largest, at most. -/
lemma Sound.size_le_largest (h : Sound provisioner) :
    provisioner.records.size ≤ provisioner.largest := by
  have hnodup : (provisioner.store.list.map fun record =>
      record.descriptor.identity.value).Nodup := by
    have hids := h.distinct_list.2
    have hvalue : Function.Injective UserDataIdentity.value := fun first second heq => by
      cases first
      cases second
      exact congrArg _ heq
    have hmap := hids.map hvalue
    rwa [List.map_map] at hmap
  have hsubset : (provisioner.store.list.map fun record => record.descriptor.identity.value) ⊆
      List.range' 1 provisioner.largest := by
    intro value hvalue
    obtain ⟨record, hrecord, rfl⟩ := List.mem_map.mp hvalue
    have hpos := identity_pos (h.valid _ record (h.mem_list.mp hrecord))
    have hle := le_largestIdentity hrecord
    rw [List.mem_range'_1]
    rw [UserDataProvisioner.largest]
    omega
  have hlength := (hnodup.subperm hsubset).length_le
  rwa [List.length_map, List.length_range', UserDataRecordStore.length_list, ← h.kept] at hlength

end RebuiltOver

/-! ### Provisioners without identities left -/

namespace UserDataProvisioner

/-- The same provisioner with another next identity. -/
def withNext (provisioner : UserDataProvisioner) (next : ℕ) : UserDataProvisioner :=
  { provisioner with nextIdentity := next }

end UserDataProvisioner

/-- The same reply of a provisioner with another next identity. -/
def ProvisioningReply.withNext (reply : ProvisioningReply) (next : ℕ) : ProvisioningReply :=
  { reply with after := reply.after.withNext next }

section WithNext

variable (provisioner : UserDataProvisioner) (ports : UserDataPorts) (next : ℕ)

lemma persist_withNext (key : OperationKey) (updated : UserDataProvisioningRecord) :
    (provisioner.withNext next).persist ports key updated =
      (provisioner.persist ports key updated).withNext next := by
  rw [UserDataProvisioner.persist, UserDataProvisioner.persist]
  cases ports.updateFault updated <;> rfl

lemma finish_withNext (key : OperationKey) (status : UserDataProvisioningStatus)
    (descriptor : Option UserDataDescriptor) (guidance : Option RecoveryGuidance) :
    (provisioner.withNext next).finish ports key status descriptor guidance =
      (provisioner.finish ports key status descriptor guidance).withNext next := by
  rw [UserDataProvisioner.finish, UserDataProvisioner.finish]
  have hrecords : (provisioner.withNext next).records = provisioner.records := rfl
  rw [hrecords]
  cases provisioner.records[key]? with
  | none => rfl
  | some record => exact persist_withNext provisioner ports next key _

lemma finishPortError_withNext (key : OperationKey) (error : UserDataPortError) :
    (provisioner.withNext next).finishPortError ports key error =
      (provisioner.finishPortError ports key error).withNext next := by
  cases error <;> exact finish_withNext provisioner ports next key _ _ _

lemma reconcile_withNext (context : SaveProfileContext) (operationId : String) :
    (provisioner.withNext next).reconcile ports context operationId =
      (provisioner.reconcile ports context operationId).withNext next := by
  have hsame : (provisioner.withNext next).reconcilable context operationId =
      provisioner.reconcilable context operationId := rfl
  rw [UserDataProvisioner.reconcile, UserDataProvisioner.reconcile, hsame]
  cases provisioner.reconcilable context operationId with
  | error e => rfl
  | ok record =>
    dsimp only
    split_ifs
    · rfl
    · cases ports.inspect record.descriptor.identity with
      | error error =>
        cases error with
        | unavailable =>
          exact congrArg (fun reply : ProvisioningReply => reply.prepend _)
            (finish_withNext provisioner ports next _ _ _ _)
        | unknownContents | traversal | symlinkEscape | existingContents | timeoutBeforeWrite
        | timeoutAfterWrite =>
          exact congrArg (fun reply : ProvisioningReply => reply.prepend _)
            (finishPortError_withNext provisioner ports next _ _)
      | ok inspected =>
        exact congrArg (fun reply : ProvisioningReply => reply.prepend _)
          (persist_withNext provisioner ports next _ _)

/-- No allocation is admitted once the identities are spent. -/
lemma createDisposable_withNext (hspent : provisioner.capacity < provisioner.nextIdentity)
    (hnext : provisioner.capacity < next) (context : SaveProfileContext)
    (operationId profileId : String) :
    (provisioner.withNext next).createDisposable ports context operationId profileId =
      (provisioner.createDisposable ports context operationId profileId).withNext next := by
  rw [UserDataProvisioner.createDisposable, UserDataProvisioner.createDisposable]
  cases Provisioning.validateRequest context operationId profileId with
  | error e => rfl
  | ok u =>
    have hrecords : (provisioner.withNext next).records = provisioner.records := rfl
    dsimp only
    rw [hrecords]
    cases provisioner.records[(toLex (context.instanceId, operationId) : OperationKey)]? with
    | none =>
      dsimp only
      rw [UserDataProvisioner.createFresh, UserDataProvisioner.createFresh, if_pos (.inr hnext),
        if_pos (.inr hspent)]
      rfl
    | some existing =>
      dsimp only
      split_ifs
      · exact reconcile_withNext provisioner ports next context operationId
      · rfl
      · rfl

end WithNext

section Spent

variable {provisioner : UserDataProvisioner} {ports : UserDataPorts}

/-- A change of a record takes no identity. -/
lemma Changes.next {key : OperationKey} {record : UserDataProvisioningRecord}
    {answer : UserDataEvent} {reply : ProvisioningReply}
    (h : Changes provisioner ports key record answer reply) :
    reply.after.capacity = provisioner.capacity ∧
      reply.after.nextIdentity = provisioner.nextIdentity := by
  obtain ⟨status, descriptor, guidance, -, rfl⟩ := h
  rw [UserDataProvisioner.persist]
  split <;> exact ⟨rfl, rfl⟩

/-- No identity is taken once they are spent. -/
lemma Course.next_of_spent {reply : ProvisioningReply} (h : Course provisioner ports reply)
    (hspent : provisioner.capacity < provisioner.nextIdentity) :
    reply.after.capacity = provisioner.capacity ∧
      reply.after.nextIdentity = provisioner.nextIdentity := by
  cases h with
  | stayed answer => exact ⟨rfl, rfl⟩
  | unbound error bound hbound within => exact absurd within (Nat.not_le.mpr hspent)
  | unstored error bound hbound pending reserves =>
    exact absurd reserves.within (Nat.not_le.mpr hspent)
  | created bound hbound pending reserves before answer probe reply changes =>
    exact absurd reserves.within (Nat.not_le.mpr hspent)
  | reconciled key record found hblocked answer reply changes => exact changes.next

/-- **Provisioners without identities left** behave alike. -/
lemma observe_spent (hsound : Sound provisioner)
    (hspent : provisioner.capacity < provisioner.nextIdentity) {next : ℕ}
    (hnext : provisioner.capacity < next) (inputs : List ProvisioningSystem.Input) :
    ProvisioningSystem.observe (.running (provisioner.withNext next)) inputs =
      ProvisioningSystem.observe (.running provisioner) inputs := by
  induction inputs generalizing provisioner with
  | nil => rfl
  | cons input inputs ih =>
    have hreply : ∀ {ports : UserDataPorts} {reply : ProvisioningReply},
        Course provisioner ports reply →
          (ProvisioningSystem.observe (.running (reply.withNext next).after) inputs) =
            ProvisioningSystem.observe (.running reply.after) inputs := by
      intro ports reply hcourse
      obtain ⟨hcapacity, hidentity⟩ := hcourse.next_of_spent hspent
      exact ih (hcourse.isolated hsound).1 (by rw [hcapacity, hidentity]; exact hspent)
        (by rwa [hcapacity])
    cases input with
    | restart capacity listFault => rfl
    | createDisposable ports context operationId profileId =>
      have hcourse := createDisposable_course ports hsound.capacity_le hsound.valid
        context operationId profileId
      have hturn := createDisposable_withNext provisioner ports next hspent hnext context
        operationId profileId
      refine congrArg₂ List.cons ?_ ?_
      · dsimp only [ProvisioningSystem.turn]
        rw [hturn]
        rfl
      · dsimp only [ProvisioningSystem.turn]
        rw [hturn]
        exact hreply hcourse
    | reconcile ports context operationId =>
      have hcourse := reconcile_course ports hsound.valid context operationId
      have hturn := reconcile_withNext provisioner ports next context operationId
      refine congrArg₂ List.cons ?_ ?_
      · dsimp only [ProvisioningSystem.turn]
        rw [hturn]
        rfl
      · dsimp only [ProvisioningSystem.turn]
        rw [hturn]
        exact hreply hcourse

end Spent

/-! ### A fresh operation -/

/-- The context of an operation that tells two provisioners apart. -/
def probeContext : SaveProfileContext where
  instanceId := "instance"
  callerId := "caller"
  sessionId := "session"
  leaseId := "lease"
  leaseEpoch := 1
  correlationId := "correlation"

/-- One operation after another. -/
def probeOperation (index : ℕ) : String := String.ofList (List.replicate (index + 1) 'a')

lemma probeOperation_valid : ∀ index < 65,
    Provisioning.validateRequest probeContext (probeOperation index) launchProfileId = .ok () := by
  decide +kernel

/-- Some operation is not recorded: there are more of them than a provisioner keeps. -/
lemma exists_fresh {provisioner : UserDataProvisioner} (h : Sound provisioner) :
    ∃ operationId, Provisioning.validateRequest probeContext operationId launchProfileId = .ok () ∧
      provisioner.records[(toLex (probeContext.instanceId, operationId) : OperationKey)]? = none := by
  by_contra hnone
  push Not at hnone
  have hinj : Function.Injective fun index =>
      (toLex (probeContext.instanceId, probeOperation index) : OperationKey) := by
    intro first second heq
    have hoperation : probeOperation first = probeOperation second :=
      congrArg (fun key : OperationKey => (ofLex key).2) heq
    have hlength := congrArg String.length hoperation
    simpa [probeOperation] using hlength
  have hsubset : ((List.range 65).map fun index =>
      (toLex (probeContext.instanceId, probeOperation index) : OperationKey)) ⊆
        provisioner.store.list.map UserDataProvisioningRecord.key := by
    intro key hkey
    obtain ⟨index, hindex, rfl⟩ := List.mem_map.mp hkey
    obtain ⟨record, hrecord⟩ := Option.ne_none_iff_exists'.mp
      (hnone _ (probeOperation_valid index (List.mem_range.mp hindex)))
    have hown := h.key_eq hrecord
    refine List.mem_map.mpr ⟨record, h.mem_list.mpr ?_, hown⟩
    rwa [hown]
  have hlength := ((List.nodup_range.map hinj).subperm hsubset).length_le
  have hsize := h.size_le
  have hcapacity := h.capacity_le
  rw [List.length_map, List.length_map, List.length_range, UserDataRecordStore.length_list,
    ← h.kept] at hlength
  rw [maxAllocations] at hcapacity
  omega

section Distinguish

variable {provisioner : UserDataProvisioner} {ports : UserDataPorts} {operationId : String}

/-- An admitted operation is bound to the next identity first. -/
lemma events_of_room (ports : UserDataPorts) (hsound : Sound provisioner)
    (hrequest : Provisioning.validateRequest probeContext operationId launchProfileId = .ok ())
    (hfresh : provisioner.records[(toLex (probeContext.instanceId, operationId) : OperationKey)]? =
      none)
    (hroom : provisioner.records.size < provisioner.capacity)
    (hwithin : provisioner.nextIdentity ≤ provisioner.capacity) (hpos : provisioner.nextIdentity ≠ 0) :
    (provisioner.createDisposable ports probeContext operationId launchProfileId).events.head? =
      some (.bound ⟨provisioner.nextIdentity⟩
        (ports.bindDisposable ⟨provisioner.nextIdentity⟩)) := by
  have hfull : ¬ (provisioner.capacity ≤ provisioner.records.size ∨
      provisioner.capacity < provisioner.nextIdentity) := by omega
  rw [UserDataProvisioner.createDisposable, hrequest]
  dsimp only
  rw [hfresh]
  dsimp only
  rw [UserDataProvisioner.createFresh, if_neg hfull,
    checkedAdd_one (hwithin.trans hsound.capacity_le), UserDataIdentity.tryNew, refuse, if_neg hpos]
  rfl

/-- Nothing is called when no identity is left. -/
lemma events_of_full
    (hrequest : Provisioning.validateRequest probeContext operationId launchProfileId = .ok ())
    (hfresh : provisioner.records[(toLex (probeContext.instanceId, operationId) : OperationKey)]? =
      none)
    (hfull : provisioner.capacity < provisioner.nextIdentity) :
    (provisioner.createDisposable ports probeContext operationId launchProfileId).events = [] := by
  rw [UserDataProvisioner.createDisposable, hrequest]
  dsimp only
  rw [hfresh]
  dsimp only
  rw [UserDataProvisioner.createFresh, if_pos (.inr hfull)]
  rfl

/-- Ports that refuse everything. -/
def refusingPorts : UserDataPorts where
  inspect _ := .error .unavailable
  create _ := .error .unavailable
  bindDisposable _ := .error .profile
  insertFault _ := some .persistenceFailed
  updateFault _ := some .persistenceFailed

/-- **A provisioner that took an identity in vain** is told apart from one built again, while
the latter still has one. -/
lemma observe_ne (hsound : Sound provisioner) (hleft : provisioner.largest < provisioner.capacity)
    (hpos : provisioner.nextIdentity ≠ 0)
    (hnext : provisioner.nextIdentity ≠ provisioner.largest + 1) :
    ∃ inputs, ProvisioningSystem.observe (.running provisioner) inputs ≠
      ProvisioningSystem.observe (.running (provisioner.withNext (provisioner.largest + 1)))
        inputs := by
  obtain ⟨operationId, hrequest, hfresh⟩ := exists_fresh hsound
  obtain ⟨rebuilt, hrebuilt, rfl⟩ := exists_rebuilt hsound
  have hrebuiltSound := (new_sound hrebuilt).1
  have hroom := hsound.size_le_largest.trans_lt hleft
  refine ⟨[.createDisposable refusingPorts probeContext operationId launchProfileId], fun heq => ?_⟩
  have hother := events_of_room refusingPorts hrebuiltSound hrequest hfresh hroom hleft
    (Nat.succ_ne_zero _)
  have hevents : (provisioner.createDisposable refusingPorts probeContext operationId
        launchProfileId).events =
      ((provisioner.withNext (provisioner.largest + 1)).createDisposable refusingPorts probeContext
        operationId launchProfileId).events :=
    congrArg (fun seen => (seen.head?.map Prod.snd).getD []) heq
  change ((provisioner.withNext (provisioner.largest + 1)).createDisposable refusingPorts
    probeContext operationId launchProfileId).events.head? = _ at hother
  rw [← hevents] at hother
  obtain hfull | hwithin := Nat.lt_or_ge provisioner.capacity provisioner.nextIdentity
  · rw [events_of_full hrequest hfresh hfull] at hother
    cases hother
  · rw [events_of_room _ hsound hrequest hfresh hroom hwithin hpos, Option.some.injEq] at hother
    injection hother with hidentity
    injection hidentity with hvalue
    exact hnext hvalue

end Distinguish

/-! ### Refused allocations -/

section Refused

variable {provisioner : UserDataProvisioner} {ports : UserDataPorts} {context : SaveProfileContext}
  {operationId profileId : String} {e : UserDataProvisioningError}

/-- A reconciliation that fails changes nothing. -/
lemma Changes.after_of_error {key : OperationKey} {record : UserDataProvisioningRecord}
    {answer : UserDataEvent} {reply : ProvisioningReply}
    (h : Changes provisioner ports key record answer reply) (hanswer : reply.answer = .error e) :
    reply.after = provisioner := by
  obtain ⟨status, descriptor, guidance, -, rfl⟩ := h
  rw [UserDataProvisioner.persist] at hanswer ⊢
  cases hfault : ports.updateFault (updateRecord record status descriptor guidance) with
  | some error => rfl
  | none =>
    rw [hfault] at hanswer
    cases hanswer

lemma reconcile_after_of_error (hsound : Sound provisioner)
    (hanswer : (provisioner.reconcile ports context operationId).answer = .error e) :
    (provisioner.reconcile ports context operationId).after = provisioner := by
  rw [UserDataProvisioner.reconcile] at hanswer ⊢
  cases hrecord : provisioner.reconcilable context operationId with
  | error error => rfl
  | ok record =>
    have hfound := reconcilable_eq_ok hrecord
    rw [hrecord] at hanswer
    dsimp only at hanswer ⊢
    split_ifs at hanswer ⊢ with hblocked
    · rfl
    · cases hinspect : ports.inspect record.descriptor.identity with
      | error error =>
        rw [hinspect] at hanswer
        have hchanges : Changes provisioner ports _ record (.inspected record.descriptor.identity
            (.error error)) (provisioner.finishPortError ports _ error) :=
          finishPortError_changes hfound error
        cases error with
        | unavailable =>
          have hunknown : Changes provisioner ports _ record (.inspected
              record.descriptor.identity (.error .unavailable)) _ :=
            finish_changes_bare hfound Permitted.unknown (by decide)
          exact hunknown.after_of_error hanswer
        | unknownContents | traversal | symlinkEscape | existingContents | timeoutBeforeWrite
        | timeoutAfterWrite => exact hchanges.after_of_error hanswer
      | ok inspected =>
        rw [hinspect] at hanswer
        exact (persist_changes (reconciled_verdict (hsound.valid _ record hfound)
          inspected)).after_of_error hanswer

/-- Where nothing is stored, a taken identity is all that changes. -/
lemma createBound_after {key : OperationKey} {identity : UserDataIdentity}
    (hstored : ∀ before record, UserDataEvent.inserted before record none ∉
      (provisioner.taken.createBound ports key context operationId profileId identity).events) :
    (provisioner.taken.createBound ports key context operationId profileId identity).after =
      provisioner.taken := by
  rw [UserDataProvisioner.createBound] at hstored ⊢
  cases hbind : ports.bindDisposable identity with
  | error error => rfl
  | ok launchProfile =>
    rw [hbind] at hstored
    dsimp only at hstored ⊢
    split_ifs at hstored ⊢ with hinvalid
    · rfl
    · cases hfault : ports.insertFault
        { operationId := operationId
          context := context
          descriptor := descriptor context operationId identity
          launchProfile := launchProfile
          status := .pending
          guidance := none } with
      | some error => rfl
      | none =>
        rw [hfault] at hstored
        exact absurd (List.mem_append_right _ (List.mem_append_left _ (List.mem_singleton_self _)))
          (hstored _ _)

/-- An allocation that is refused early leaves the provisioner as it was; any other that
fails without storing a record takes an identity. -/
lemma early_or_taken (hsound : Sound provisioner)
    (hanswer : (provisioner.createDisposable ports context operationId profileId).answer = .error e)
    (hstored : ∀ before record, UserDataEvent.inserted before record none ∉
      (provisioner.createDisposable ports context operationId profileId).events) :
    (Early provisioner context operationId profileId ∧
      (provisioner.createDisposable ports context operationId profileId).after = provisioner) ∨
    (¬ Early provisioner context operationId profileId ∧
      (provisioner.createDisposable ports context operationId profileId).after =
        provisioner.taken ∧ provisioner.nextIdentity ≤ provisioner.capacity) := by
  rw [UserDataProvisioner.createDisposable] at hanswer hstored ⊢
  cases hrequest : Provisioning.validateRequest context operationId profileId with
  | error error => exact .inl ⟨.inl (by simp [hrequest]), rfl⟩
  | ok u =>
    rw [hrequest] at hanswer hstored
    dsimp only at hanswer hstored ⊢
    cases hrecord : provisioner.records[(toLex (context.instanceId, operationId) : OperationKey)]?
      with
    | some existing =>
      rw [hrecord] at hanswer hstored
      dsimp only at hanswer hstored ⊢
      refine .inl ⟨.inr (.inl (by simp [hrecord])), ?_⟩
      split_ifs at hanswer hstored ⊢ with hreplay hcreated
      · exact reconcile_after_of_error hsound hanswer
      · rfl
      · rfl
    | none =>
      rw [hrecord] at hanswer hstored
      dsimp only at hanswer hstored ⊢
      rw [UserDataProvisioner.createFresh] at hanswer hstored ⊢
      split_ifs at hanswer hstored ⊢ with hfull
      · exact .inl ⟨.inr (.inr hfull), rfl⟩
      · have hearly : ¬ Early provisioner context operationId profileId := by
          rintro (hinvalid | hfound | hfull')
          · exact hinvalid hrequest
          · exact hfound hrecord
          · exact hfull hfull'
        rw [not_or, not_le, not_lt] at hfull
        rw [checkedAdd_one (hfull.2.trans hsound.capacity_le), UserDataIdentity.tryNew, refuse,
          if_neg hsound.next_pos.ne'] at hanswer hstored ⊢
        exact .inr ⟨hearly, createBound_after hstored, hfull.2⟩

/-- Behaves as the provisioner that is built again over the same store. -/
def Refreshed (provisioner : UserDataProvisioner) : Prop :=
  ∃ rebuilt, RebuiltOver provisioner rebuilt ∧ ∀ later,
    ProvisioningSystem.observe (.running provisioner) later =
      ProvisioningSystem.observe (.running rebuilt) later

/-- A provisioner behaves as one built again exactly when no identity was taken in vain, or
none is left. -/
lemma refreshed_iff (hsound : Sound provisioner) : Refreshed provisioner ↔
    provisioner.nextIdentity = provisioner.largest + 1 ∨
      provisioner.capacity ≤ provisioner.largest := by
  obtain ⟨rebuilt, hrebuilt, hnext⟩ := exists_rebuilt hsound
  have hbelow : provisioner.largest < provisioner.nextIdentity :=
    largestIdentity_lt hsound.next_pos fun record hrecord =>
      hsound.below _ record (hsound.mem_list.mp hrecord)
  constructor
  · rintro ⟨other, hother, hsame⟩
    obtain rfl : rebuilt = other := Except.ok.inj (hrebuilt.symm.trans hother)
    by_contra hne
    rw [not_or, not_le] at hne
    obtain ⟨inputs, hinputs⟩ := observe_ne hsound hne.2 hsound.next_pos.ne' hne.1
    rw [hnext] at hsame
    exact hinputs (hsame inputs)
  · rintro (heq | hspent)
    · refine ⟨rebuilt, hrebuilt, fun later => ?_⟩
      rw [hnext, ← heq]
    · refine ⟨rebuilt, hrebuilt, fun later => ?_⟩
      have hsame := observe_spent hsound (hspent.trans_lt hbelow)
        (Nat.lt_succ_of_le hspent : provisioner.capacity < provisioner.largest + 1) later
      rw [hnext]
      exact hsame.symm

end Refused

/-- **A refused allocation** leaves a provisioner that behaves as one built again over the
same store exactly when it was refused before it took an identity, and none was taken in
vain before, or none is left. -/
theorem refused_allocation_free_iff (store : UserDataRecordStore)
    (inputs : List ProvisioningSystem.Input) (provisioner : UserDataProvisioner)
    (hrun : ProvisioningSystem.run (.stopped store) inputs = .running provisioner)
    (ports : UserDataPorts) (context : SaveProfileContext) (operationId profileId : String)
    (e : UserDataProvisioningError)
    (hanswer : (provisioner.createDisposable ports context operationId profileId).answer = .error e)
    (hstored : ∀ before record, UserDataEvent.inserted before record none ∉
      (provisioner.createDisposable ports context operationId profileId).events) :
    Refreshed (provisioner.createDisposable ports context operationId profileId).after ↔
      Early provisioner context operationId profileId ∧
        (provisioner.nextIdentity = provisioner.largest + 1 ∨
          provisioner.capacity ≤ provisioner.largest) := by
  have hsound : Sound provisioner :=
    ProvisioningSystem.run_good (ProvisioningSystem.good_stopped store) inputs _ hrun
  obtain ⟨hearly, hafter⟩ | ⟨hlate, hafter, hwithin⟩ := early_or_taken hsound hanswer hstored
  · rw [hafter, refreshed_iff hsound]
    exact (and_iff_right hearly).symm
  · have hbelow : provisioner.largest < provisioner.nextIdentity :=
      largestIdentity_lt hsound.next_pos fun record hrecord =>
        hsound.below _ record (hsound.mem_list.mp hrecord)
    rw [hafter, refreshed_iff hsound.taken]
    refine iff_of_false ?_ fun h => hlate h.1
    change ¬ (provisioner.nextIdentity + 1 = provisioner.largest + 1 ∨
      provisioner.capacity ≤ provisioner.largest)
    omega


/-! ### One identity -/

/-- A store without records. -/
def UserDataRecordStore.empty : UserDataRecordStore where
  records := ∅
  keyed _ _ h := by simp at h

/-- A provisioner of one identity, built over a store without records. -/
def soleProvisioner : UserDataProvisioner where
  capacity := 1
  nextIdentity := 1
  store := .empty
  records := ∅

/-- A call without an operation identifier. -/
theorem refused_allocation_free_unnamed :
    Refreshed (soleProvisioner.createDisposable refusingPorts probeContext "" "").after ↔
      Early soleProvisioner probeContext "" "" ∧
        (soleProvisioner.nextIdentity = soleProvisioner.largest + 1 ∨
          soleProvisioner.capacity ≤ soleProvisioner.largest) :=
  refused_allocation_free_iff .empty [.restart 1 none] soleProvisioner (by rfl) refusingPorts
    probeContext "" "" .invalidRequest (by rfl)
    (fun _ _ h => by
      have hevents : (soleProvisioner.createDisposable refusingPorts probeContext "" "").events =
        [] := by rfl
      rw [hevents] at h
      cases h)

/-- Ports that bind each identity and find nothing, without a creation. -/
def bindingPorts : UserDataPorts where
  inspect _ := .error .unavailable
  create _ := .error .unavailable
  bindDisposable identity := .ok ⟨launchProfileContract, launchProfileId, identity⟩
  insertFault _ := none
  updateFault _ := none

/-- The provisioner after a binding was refused. -/
def exhaustedProvisioner : UserDataProvisioner :=
  (soleProvisioner.createDisposable refusingPorts probeContext "a" launchProfileId).after

/-- The answers to one more allocation. -/
def nextAnswers (provisioner : UserDataProvisioner) : List ProvisioningSystem.Answer :=
  (ProvisioningSystem.observe (.running provisioner)
    [.createDisposable bindingPorts probeContext "b" launchProfileId]).map Prod.fst

/-- **A refused binding takes the only identity**: the next allocation is refused, which a
provisioner built again over the same store admits. -/
theorem refused_allocation_costs :
    ProvisioningSystem.run (.stopped .empty) [.restart 1 none] = .running soleProvisioner ∧
      (soleProvisioner.createDisposable refusingPorts probeContext "a" launchProfileId).answer =
        .error (.port .unavailable) ∧
      (soleProvisioner.createDisposable refusingPorts probeContext "a" launchProfileId).events =
        [.bound ⟨1⟩ (.error .profile)] ∧
      RebuiltOver exhaustedProvisioner soleProvisioner ∧
      nextAnswers exhaustedProvisioner = [.replied (.error .capacityExceeded)] ∧
      nextAnswers soleProvisioner ≠ [.replied (.error .capacityExceeded)] ∧
      ¬ Refreshed exhaustedProvisioner := by
  have hrebuilt : RebuiltOver exhaustedProvisioner soleProvisioner := by rfl
  have hrefused : nextAnswers exhaustedProvisioner = [.replied (.error .capacityExceeded)] := by
    decide +kernel
  have hadmitted : nextAnswers soleProvisioner ≠ [.replied (.error .capacityExceeded)] := by
    decide +kernel
  refine ⟨rfl, rfl, rfl, hrebuilt, hrefused, hadmitted, ?_⟩
  rintro ⟨rebuilt, hother, hsame⟩
  obtain rfl : soleProvisioner = rebuilt := Except.ok.inj (hrebuilt.symm.trans hother)
  refine hadmitted (Eq.trans ?_ hrefused)
  rw [nextAnswers, nextAnswers, hsame]

end Sts2Gateway.SaveProfile
