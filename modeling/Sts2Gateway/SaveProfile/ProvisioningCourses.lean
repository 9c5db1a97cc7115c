/-
What the calls of a user-data provisioner do.

* `validate_eq_ok`: what a valid record says;
* `Permitted`, `validateUpdate_of_permitted`: **the changes of a record that the durable
  store accepts**;
* `Reserves`: a record that is taken on, and what the provisioner says of it;
* `UserDataEvent.Confirms`, `Verdict`: what the port answered, and the change that follows;
* `Course`, `createDisposable_course`, `reconcile_course`: **what each call does**: it
  stays, it is refused after it took an identity, or it changes one record once.
-/
import Sts2Gateway.SaveProfile.Provisioning

namespace Sts2Gateway.SaveProfile

open Procedure Provisioning

/-! ### Valid records -/

section Valid

variable {record : UserDataProvisioningRecord}

lemma validate_eq_ok : validate record = .ok () ↔
    Provisioning.validateRequest record.context record.operationId
        record.launchProfile.profileId = .ok () ∧
      record.descriptor.validate = .ok () ∧ record.launchProfile.validate = .ok () ∧
      record.descriptor.identity = record.launchProfile.userData ∧
      record.descriptor.identity.value ≤ maxAllocations ∧
      record.descriptor.provenance.instanceId = record.context.instanceId ∧
      record.descriptor.provenance.operationId = record.operationId ∧
      validateProvenance record.descriptor.provenance = .ok () ∧ guidanceValid record = true := by
  rw [validate]
  simp only [except_bind_eq_ok, refuse_eq_ok, Unique.exists_iff, not_or, not_not, isOk_eq_true,
    not_lt, and_assoc, ne_eq]

/-- A valid record has an identity. -/
lemma identity_pos (h : validate record = .ok ()) : 0 < record.descriptor.identity.value := by
  obtain ⟨-, hdescriptor, -⟩ := validate_eq_ok.mp h
  rw [UserDataDescriptor.validate, except_bind_eq_ok] at hdescriptor
  obtain ⟨_, hidentity, -⟩ := hdescriptor
  rw [refuse_eq_ok] at hidentity
  omega

end Valid

/-! ### Changes of a record -/

/-- A change that keeps the request and the allocation of a record, with the guidance that
its status comes with. -/
structure Permitted (record : UserDataProvisioningRecord) (status : UserDataProvisioningStatus)
    (descriptor : Option UserDataDescriptor) (guidance : Option RecoveryGuidance) : Prop where
  settled : status ≠ .pending
  guidance : guidanceValid (updateRecord record status descriptor guidance) = true
  identity : ∀ value ∈ descriptor, value.identity = record.descriptor.identity
  provenance : ∀ value ∈ descriptor, value.provenance = record.descriptor.provenance
  valid : ∀ value ∈ descriptor, value.validate = .ok ()
  baseline : ∀ value ∈ descriptor, record.descriptor.baseline.isSome →
    value.baseline = record.descriptor.baseline

section Permitted

variable {record : UserDataProvisioningRecord} {status : UserDataProvisioningStatus}
  {descriptor : Option UserDataDescriptor} {guidance : Option RecoveryGuidance}

/-- A change without a descriptor of its own. -/
lemma Permitted.bare (hsettled : status ≠ .pending)
    (hguidance : guidanceValid (updateRecord record status none guidance) = true) :
    Permitted record status none guidance where
  settled := hsettled
  guidance := hguidance
  identity _ h := nomatch h
  provenance _ h := nomatch h
  valid _ h := nomatch h
  baseline _ h := nomatch h

lemma Permitted.blocked {reason : String} (h : reason ∈ blockedReasons) :
    Permitted record .blocked none (some (Provisioning.guidance reason)) := by
  refine .bare (by decide) ?_
  rw [guidanceValid]
  exact List.any_eq_true.mpr ⟨reason, h, decide_eq_true rfl⟩

lemma Permitted.unknown : Permitted record .unknown none (some unknownGuidance) :=
  .bare (by decide) (by rw [guidanceValid]; exact decide_eq_true rfl)

lemma Permitted.rejected : Permitted record .rejected none none :=
  .bare (by decide) rfl

namespace Permitted

variable (h : Permitted record status descriptor guidance)

include h

lemma updated_identity :
    (updateRecord record status descriptor guidance).descriptor.identity =
      record.descriptor.identity := by
  cases descriptor with
  | none => rfl
  | some value => exact h.identity value rfl

lemma updated_provenance :
    (updateRecord record status descriptor guidance).descriptor.provenance =
      record.descriptor.provenance := by
  cases descriptor with
  | none => rfl
  | some value => exact h.provenance value rfl

/-- A permitted change keeps a record valid. -/
lemma validate_updated (hvalid : validate record = .ok ()) :
    validate (updateRecord record status descriptor guidance) = .ok () := by
  rw [validate_eq_ok] at hvalid ⊢
  obtain ⟨hrequest, hdescriptor, hlaunch, hidentity, hbound, hinstance, hoperation, hprovenance,
    -⟩ := hvalid
  rw [h.updated_identity, h.updated_provenance]
  refine ⟨hrequest, ?_, hlaunch, hidentity, hbound, hinstance, hoperation, hprovenance,
    h.guidance⟩
  cases descriptor with
  | none => exact hdescriptor
  | some value => exact h.valid value rfl

/-- **The durable store accepts a permitted change** of a record that is not blocked. -/
theorem validateUpdate_updated (hvalid : validate record = .ok ())
    (hblocked : record.status ≠ .blocked) :
    Provisioning.validateUpdate record (updateRecord record status descriptor guidance) = .ok () := by
  rw [Provisioning.validateUpdate, except_bind_eq_ok]
  refine ⟨(), h.validate_updated hvalid, ?_⟩
  rw [refuse_eq_ok]
  rintro (hne | hne | hne | hne | hne | ⟨hsome, hne⟩ | ⟨hpending, -⟩ | ⟨hblocked', -⟩)
  · exact hne rfl
  · exact hne rfl
  · exact hne rfl
  · exact hne h.updated_identity.symm
  · exact hne h.updated_provenance.symm
  · cases descriptor with
    | none => exact hne rfl
    | some value => exact hne (h.baseline value rfl hsome).symm
  · exact h.settled hpending
  · exact hblocked hblocked'

end Permitted

end Permitted

/-! ### Answers of the port -/

/-- An answer of the port that carries an identity and its provenance. -/
def UserDataEvent.Confirms (event : UserDataEvent) (identity : UserDataIdentity)
    (provenance : UserDataProvenance) : Prop :=
  match event with
  | .inspected asked (.ok (.owned found)) => asked = identity ∧ found = provenance
  | .created request (.ok (.created value)) | .created request (.ok (.alreadyCreated value)) =>
    request.descriptor.identity = identity ∧ value.identity = identity ∧
      value.provenance = provenance
  | _ => False

/-- The change of a record that follows the last answer of the port. -/
structure Verdict (record : UserDataProvisioningRecord) (answer : UserDataEvent)
    (status : UserDataProvisioningStatus) (descriptor : Option UserDataDescriptor)
    (guidance : Option RecoveryGuidance) : Prop where
  permitted : Permitted record status descriptor guidance
  confirmed : status = .created →
    answer.Confirms record.descriptor.identity record.descriptor.provenance

/-- A reply that changes one record once. -/
def Changes (provisioner : UserDataProvisioner) (ports : UserDataPorts) (key : OperationKey)
    (record : UserDataProvisioningRecord) (answer : UserDataEvent) (reply : ProvisioningReply) :
    Prop :=
  ∃ status descriptor guidance, Verdict record answer status descriptor guidance ∧
    reply = provisioner.persist ports key (updateRecord record status descriptor guidance)

section Changes

variable {provisioner : UserDataProvisioner} {ports : UserDataPorts} {key : OperationKey}
  {record : UserDataProvisioningRecord} {answer : UserDataEvent}

lemma finish_changes (hrecord : provisioner.records[key]? = some record)
    {status : UserDataProvisioningStatus} {descriptor : Option UserDataDescriptor}
    {guidance : Option RecoveryGuidance}
    (hverdict : Verdict record answer status descriptor guidance) :
    Changes provisioner ports key record answer
      (provisioner.finish ports key status descriptor guidance) := by
  refine ⟨status, descriptor, guidance, hverdict, ?_⟩
  rw [UserDataProvisioner.finish, hrecord]

/-- A change that confirms nothing. -/
lemma finish_changes_bare (hrecord : provisioner.records[key]? = some record)
    {status : UserDataProvisioningStatus} {guidance : Option RecoveryGuidance}
    (hpermitted : Permitted record status none guidance) (hstatus : status ≠ .created) :
    Changes provisioner ports key record answer
      (provisioner.finish ports key status none guidance) :=
  finish_changes hrecord ⟨hpermitted, fun hcreated => absurd hcreated hstatus⟩

lemma finishPortError_changes (hrecord : provisioner.records[key]? = some record)
    (error : UserDataPortError) :
    Changes provisioner ports key record answer (provisioner.finishPortError ports key error) := by
  cases error with
  | unknownContents => exact finish_changes_bare hrecord (.blocked (by decide)) (by decide)
  | traversal => exact finish_changes_bare hrecord (.blocked (by decide)) (by decide)
  | symlinkEscape => exact finish_changes_bare hrecord (.blocked (by decide)) (by decide)
  | existingContents => exact finish_changes_bare hrecord (.blocked (by decide)) (by decide)
  | unavailable => exact finish_changes_bare hrecord .rejected (by decide)
  | timeoutBeforeWrite => exact finish_changes_bare hrecord .unknown (by decide)
  | timeoutAfterWrite => exact finish_changes_bare hrecord .unknown (by decide)

end Changes

/-! ### Creations -/

/-- The calls of the port before its last answer: a creation follows an inspection that found
nothing. -/
inductive Probe (record : UserDataProvisioningRecord) : List UserDataEvent → UserDataEvent → Prop
  | inspected (answer : Except UserDataPortError UserDataInspection) :
    Probe record [] (.inspected record.descriptor.identity answer)
  | created (answer : Except UserDataPortError UserDataCreateOutcome) :
    Probe record [.inspected record.descriptor.identity (.ok .absent)]
      (.created ⟨record.descriptor, record.launchProfile⟩ answer)

section Creation

variable {provisioner : UserDataProvisioner} {ports : UserDataPorts} {key : OperationKey}
  {record : UserDataProvisioningRecord}

/-- The end of a creation confirms a record only with the record's own identity and
provenance. -/
lemma finishCreate_changes (hrecord : provisioner.records[key]? = some record)
    (hbaseline : record.descriptor.baseline = none)
    {answered : Except UserDataPortError UserDataCreateOutcome} {created : UserDataCreateOutcome}
    (hcreated : answered = .ok created ∨ created = .unknown) :
    Changes provisioner ports key record
      (.created ⟨record.descriptor, record.launchProfile⟩ answered)
      (provisioner.finishCreate ports key record.descriptor created) := by
  have hvalue : ∀ value, (answered = .ok (.created value) ∨ answered = .ok (.alreadyCreated value)) →
      Changes provisioner ports key record
        (.created ⟨record.descriptor, record.launchProfile⟩ answered)
        (if value.identity ≠ record.descriptor.identity ∨
            value.provenance ≠ record.descriptor.provenance ∨ ¬ value.validate.isOk then
          provisioner.finish ports key .blocked none
            (some (guidance "allocation provenance mismatch"))
        else provisioner.finish ports key .created (some value) none) := by
    intro value hanswered
    split_ifs with hforeign
    · exact finish_changes_bare hrecord (.blocked (by decide)) (by decide)
    · rw [not_or, not_or, not_not, not_not, not_not, isOk_eq_true] at hforeign
      obtain ⟨hidentity, hprovenance, hvalid⟩ := hforeign
      refine finish_changes hrecord ⟨⟨by decide, rfl, ?_, ?_, ?_, ?_⟩, fun _ => ?_⟩
      · rintro _ ⟨⟩
        exact hidentity
      · rintro _ ⟨⟩
        exact hprovenance
      · rintro _ ⟨⟩
        exact hvalid
      · rintro _ ⟨⟩ hsome
        rw [hbaseline] at hsome
        cases hsome
      · obtain rfl | rfl := hanswered <;> exact ⟨rfl, hidentity, hprovenance⟩
  cases created with
  | created value => exact hvalue value (hcreated.imp id fun h => nomatch h)
  | alreadyCreated value =>
    refine hvalue value (.inr ?_)
    exact hcreated.elim id fun h => nomatch h
  | timeoutBeforeWrite => exact finish_changes_bare hrecord .unknown (by decide)
  | timeoutAfterWrite => exact finish_changes_bare hrecord .unknown (by decide)
  | unknown => exact finish_changes_bare hrecord .unknown (by decide)

lemma createAbsent_changes (hrecord : provisioner.records[key]? = some record)
    (hbaseline : record.descriptor.baseline = none) :
    ∃ answer reply, Changes provisioner ports key record
        (.created ⟨record.descriptor, record.launchProfile⟩ answer) reply ∧
      provisioner.createAbsent ports key ⟨record.descriptor, record.launchProfile⟩ =
        reply.prepend [.created ⟨record.descriptor, record.launchProfile⟩ answer] := by
  refine ⟨ports.create ⟨record.descriptor, record.launchProfile⟩, _, ?_, rfl⟩
  cases ports.create ⟨record.descriptor, record.launchProfile⟩ with
  | ok created => exact finishCreate_changes hrecord hbaseline (.inl rfl)
  | error error =>
    cases error with
    | timeoutBeforeWrite => exact finishCreate_changes hrecord hbaseline (.inr rfl)
    | timeoutAfterWrite => exact finishCreate_changes hrecord hbaseline (.inr rfl)
    | unknownContents | traversal | symlinkEscape | existingContents | unavailable =>
      exact finishPortError_changes hrecord _

/-- What follows the reservation: an inspection, and a creation only where nothing is. -/
lemma createReserved_changes (ports : UserDataPorts)
    (hrecord : provisioner.records[key]? = some record)
    (hbaseline : record.descriptor.baseline = none) :
    ∃ before answer reply, Probe record before answer ∧
      Changes provisioner ports key record answer reply ∧
      provisioner.createReserved ports key record.launchProfile record.descriptor =
        reply.prepend (before ++ [answer]) := by
  rw [UserDataProvisioner.createReserved]
  cases ports.inspect record.descriptor.identity with
  | error error => exact ⟨[], _, _, .inspected _, finishPortError_changes hrecord error, rfl⟩
  | ok inspected =>
    cases inspected with
    | absent =>
      obtain ⟨answer, reply, hchanges, hcreate⟩ := createAbsent_changes hrecord hbaseline
      refine ⟨_, _, reply, .created answer, hchanges, ?_⟩
      dsimp only [UserDataProvisioner.reservedBlock]
      rw [hcreate]
      rfl
    | owned _ | unknownContents | traversal | symlinkEscape =>
      exact ⟨[], _, _, .inspected _, finish_changes_bare hrecord (.blocked (by decide)) (by decide),
        rfl⟩

end Creation

/-! ### Courses -/

namespace UserDataProvisioner

variable (provisioner : UserDataProvisioner)

/-- After the next identity was taken. -/
def taken : UserDataProvisioner :=
  { provisioner with nextIdentity := provisioner.nextIdentity + 1 }

/-- After a record was stored for it. -/
def reserved (pending : UserDataProvisioningRecord) : UserDataProvisioner :=
  { provisioner.taken with
    store := provisioner.store.put pending
    records := provisioner.records.insert pending.key pending }

end UserDataProvisioner

/-- A new record that takes the next identity. -/
structure Reserves (provisioner : UserDataProvisioner) (pending : UserDataProvisioningRecord) :
    Prop where
  fresh : provisioner.records[pending.key]? = none
  room : provisioner.records.size < provisioner.capacity
  identity : pending.descriptor.identity.value = provisioner.nextIdentity
  within : provisioner.nextIdentity ≤ provisioner.capacity
  status : pending.status = .pending
  baseline : pending.descriptor.baseline = none
  valid : provisioner.capacity ≤ maxAllocations → validate pending = .ok ()

/-- What a call does. -/
inductive Course (provisioner : UserDataProvisioner) (ports : UserDataPorts) :
    ProvisioningReply → Prop
  | stayed (answer : Except UserDataProvisioningError UserDataProvisioningOutcome) :
    Course provisioner ports (provisioner.stay answer)
  | unbound (error : UserDataProvisioningError) (bound : UserDataEvent)
      (hbound : ∃ identity answer, bound = .bound identity answer)
      (within : provisioner.nextIdentity ≤ provisioner.capacity) :
    Course provisioner ports ⟨.error error, provisioner.taken, [bound]⟩
  | unstored (error : UserDataProvisioningError) (bound : UserDataEvent)
      (hbound : ∃ identity answer, bound = .bound identity answer)
      (pending : UserDataProvisioningRecord) (reserves : Reserves provisioner pending) :
    Course provisioner ports ⟨.error error, provisioner.taken,
      [bound, .inserted provisioner.store pending (some error)]⟩
  | created (bound : UserDataEvent) (hbound : ∃ identity answer, bound = .bound identity answer)
      (pending : UserDataProvisioningRecord) (reserves : Reserves provisioner pending)
      (before : List UserDataEvent) (answer : UserDataEvent) (probe : Probe pending before answer)
      (reply : ProvisioningReply)
      (changes : Changes (provisioner.reserved pending) ports pending.key pending answer reply) :
    Course provisioner ports (reply.prepend
      ([bound, .inserted provisioner.store pending none] ++ (before ++ [answer])))
  | reconciled (key : OperationKey) (record : UserDataProvisioningRecord)
      (found : provisioner.records[key]? = some record) (hblocked : record.status ≠ .blocked)
      (answer : Except UserDataPortError UserDataInspection) (reply : ProvisioningReply)
      (changes : Changes provisioner ports key record
        (.inspected record.descriptor.identity answer) reply) :
    Course provisioner ports (reply.prepend [.inspected record.descriptor.identity answer])

section Courses

lemma prepend_prepend (reply : ProvisioningReply) (events earlier : List UserDataEvent) :
    (reply.prepend events).prepend earlier = reply.prepend (earlier ++ events) := by
  simp only [ProvisioningReply.prepend, List.append_assoc]

variable {provisioner : UserDataProvisioner} {ports : UserDataPorts}

lemma reconcilable_eq_ok {context : SaveProfileContext} {operationId : String}
    {record : UserDataProvisioningRecord}
    (h : provisioner.reconcilable context operationId = .ok record) :
    provisioner.records[(toLex (context.instanceId, operationId) : OperationKey)]? =
      some record := by
  simp only [UserDataProvisioner.reconcilable, except_bind_eq_ok] at h
  obtain ⟨_, -, _, -, found, hfound, _, -, h⟩ := h
  obtain rfl := Except.ok.inj h
  exact okOr_eq_ok.mp hfound

lemma persist_changes {key : OperationKey} {record : UserDataProvisioningRecord}
    {answer : UserDataEvent} {status : UserDataProvisioningStatus}
    {descriptor : Option UserDataDescriptor} {guidance : Option RecoveryGuidance}
    (hverdict : Verdict record answer status descriptor guidance) :
    Changes provisioner ports key record answer
      (provisioner.persist ports key (updateRecord record status descriptor guidance)) :=
  ⟨status, descriptor, guidance, hverdict, rfl⟩

/-- The change that an inspection makes of a recorded identity. -/
lemma reconciled_verdict {record : UserDataProvisioningRecord}
    (hvalid : validate record = .ok ()) (inspected : UserDataInspection) :
    Verdict record (.inspected record.descriptor.identity (.ok inspected))
      (UserDataProvisioner.reconciled record inspected).1
      (UserDataProvisioner.reconciled record inspected).2.1
      (UserDataProvisioner.reconciled record inspected).2.2 := by
  have hblocked : ∀ reason ∈ blockedReasons,
      Verdict record (.inspected record.descriptor.identity (.ok inspected)) .blocked none
        (some (guidance reason)) := fun reason h =>
    ⟨.blocked h, fun hcreated => nomatch hcreated⟩
  cases inspected with
  | absent => exact ⟨.unknown, fun hcreated => nomatch hcreated⟩
  | unknownContents => exact hblocked _ (by decide)
  | traversal => exact hblocked _ (by decide)
  | symlinkEscape => exact hblocked _ (by decide)
  | owned provenance =>
    rw [UserDataProvisioner.reconciled]
    split_ifs with hown
    · refine ⟨⟨(fun h => nomatch h), rfl, ?_, ?_, ?_, ?_⟩, fun _ => ⟨rfl, hown⟩⟩
      · rintro _ ⟨⟩
        rfl
      · rintro _ ⟨⟩
        rfl
      · rintro _ ⟨⟩
        exact (validate_eq_ok.mp hvalid).2.1
      · rintro _ ⟨⟩ _
        rfl
    · exact hblocked _ (by decide)

lemma reconcile_course (ports : UserDataPorts) (hvalid : ∀ (key : OperationKey) (record : UserDataProvisioningRecord),
      provisioner.records[key]? = some record → validate record = .ok ())
    (context : SaveProfileContext) (operationId : String) :
    Course provisioner ports (provisioner.reconcile ports context operationId) := by
  rw [UserDataProvisioner.reconcile]
  cases hrecord : provisioner.reconcilable context operationId with
  | error e => exact .stayed _
  | ok record =>
    have hfound := reconcilable_eq_ok hrecord
    dsimp only
    split_ifs with hblocked
    · exact .stayed _
    · cases ports.inspect record.descriptor.identity with
      | error error =>
        cases error with
        | unavailable =>
          exact .reconciled _ record hfound hblocked _ _
            (finish_changes_bare hfound .unknown (by decide))
        | unknownContents | traversal | symlinkEscape | existingContents | timeoutBeforeWrite
        | timeoutAfterWrite =>
          exact .reconciled _ record hfound hblocked _ _ (finishPortError_changes hfound _)
      | ok inspected =>
        exact .reconciled _ record hfound hblocked _ _
          (persist_changes (reconciled_verdict (hvalid _ record hfound) inspected))

/-- A request that is let through names no baseline, and its pending record is valid. -/
lemma validate_pending {context : SaveProfileContext} {operationId profileId : String}
    (hrequest : Provisioning.validateRequest context operationId profileId = .ok ())
    {launchProfile : LaunchProfileBinding} (hlaunch : launchProfile.validate = .ok ())
    {identity : UserDataIdentity} (hidentity : launchProfile.userData = identity)
    (hprofile : launchProfile.profileId = profileId) (hpos : identity.value ≠ 0)
    (hbound : identity.value ≤ maxAllocations) :
    validate
      { operationId := operationId
        context := context
        descriptor := descriptor context operationId identity
        launchProfile := launchProfile
        status := .pending
        guidance := none } = .ok () := by
  obtain ⟨_, hcontext, _, hoperation, -⟩ : ∃ u, context.validate.mapError _ = .ok u ∧
      ∃ u, validateOperationId operationId = .ok u ∧ _ := by
    rw [Provisioning.validateRequest] at hrequest
    simpa only [except_bind_eq_ok] using hrequest
  have hinstance : validIdentity context.instanceId saveProfileMaxIdentityBytes = true := by
    rw [mapError_eq_ok, SaveProfileContext.validate, list_forM_eq_ok] at hcontext
    have h := hcontext context.instanceId (by simp)
    rwa [refuse_eq_ok, not_not] at h
  have hid : validIdentity operationId saveProfileMaxIdentityBytes = true := by
    rw [validateOperationId, refuse_eq_ok, not_or, not_or, not_not] at hoperation
    have h := hoperation.2.2
    rw [SaveProfileId.tryNew, refuse] at h
    by_contra hinvalid
    rw [if_pos hinvalid] at h
    cases h
  have hprovenance : (descriptor context operationId identity).provenance.validate = .ok () := by
    rw [UserDataProvenance.validate, list_forM_eq_ok]
    intro value hvalue
    rw [refuse_eq_ok, not_not]
    simp only [descriptor, List.mem_cons, List.not_mem_nil, or_false] at hvalue
    obtain rfl | rfl | rfl | rfl := hvalue
    · decide
    · exact hinstance
    · exact hid
    · decide
  refine validate_eq_ok.mpr ⟨hprofile ▸ hrequest, ?_, hlaunch, hidentity.symm, hbound, rfl, rfl, ?_,
    rfl⟩
  · simp only [UserDataDescriptor.validate, except_bind_eq_ok, refuse_eq_ok, mapError_eq_ok]
    exact ⟨(), hpos, (), hprovenance, rfl⟩
  · simp only [validateProvenance, except_bind_eq_ok, refuse_eq_ok, mapError_eq_ok]
    exact ⟨(), hprovenance, fun h => h.elim (fun h => h rfl) fun h => h rfl⟩

lemma createBound_course {key : OperationKey} {context : SaveProfileContext}
    {operationId profileId : String} {identity : UserDataIdentity}
    (hkey : key = toLex (context.instanceId, operationId))
    (hrequest : Provisioning.validateRequest context operationId profileId = .ok ())
    (hfresh : provisioner.records[key]? = none)
    (hroom : provisioner.records.size < provisioner.capacity)
    (hwithin : provisioner.nextIdentity ≤ provisioner.capacity) (hpos : provisioner.nextIdentity ≠ 0)
    (hidentity : identity.value = provisioner.nextIdentity) :
    Course provisioner ports
      (provisioner.taken.createBound ports key context operationId profileId identity) := by
  rw [UserDataProvisioner.createBound]
  cases ports.bindDisposable identity with
  | error error => exact .unbound _ _ ⟨_, _, rfl⟩ hwithin
  | ok launchProfile =>
    dsimp only
    split_ifs with hinvalid
    · exact .unbound _ _ ⟨_, _, rfl⟩ hwithin
    · rw [not_or, not_or, not_not, not_not, not_not, isOk_eq_true] at hinvalid
      obtain ⟨hlaunch, huserData, hprofile⟩ := hinvalid
      obtain ⟨pending, hpending⟩ : ∃ pending : UserDataProvisioningRecord, pending =
          { operationId := operationId
            context := context
            descriptor := descriptor context operationId identity
            launchProfile := launchProfile
            status := .pending
            guidance := none } := ⟨_, rfl⟩
      have hpendingKey : pending.key = key := by rw [hpending, hkey, UserDataProvisioningRecord.key]
      have hreserves : Reserves provisioner pending := by
        refine ⟨hpendingKey ▸ hfresh, hroom, ?_, hwithin, ?_, ?_, fun hcapacity => ?_⟩
        · rw [hpending]
          exact hidentity
        · rw [hpending]
        · rw [hpending]
          rfl
        · rw [hpending]
          exact validate_pending hrequest hlaunch huserData hprofile (hidentity ▸ hpos)
            (by omega)
      rw [← hpending, ← hpendingKey]
      cases ports.insertFault pending with
      | some error => exact .unstored _ _ ⟨_, _, rfl⟩ pending hreserves
      | none =>
        have hrecord : (provisioner.reserved pending).records[pending.key]? = some pending := by
          rw [UserDataProvisioner.reserved, OrderedMap.getElem?_insert_if, if_pos rfl]
        have hlaunchProfile : pending.launchProfile = launchProfile := by rw [hpending]
        have hdescriptor : pending.descriptor = descriptor context operationId identity := by
          rw [hpending]
        obtain ⟨before, answer, reply, hprobe, hchanges, hreply⟩ :=
          createReserved_changes ports hrecord hreserves.baseline
        have hcourse := Course.created (.bound identity (.ok launchProfile)) ⟨_, _, rfl⟩ pending
          hreserves before answer hprobe reply hchanges
        rw [hlaunchProfile, hdescriptor] at hreply
        change Course provisioner ports (((provisioner.reserved pending).createReserved ports
          pending.key launchProfile (descriptor context operationId identity)).prepend _ |>.prepend _)
        rw [hreply, prepend_prepend, prepend_prepend]
        exact hcourse

/-- A capacity that a new identity stays within is far from an overflow. -/
lemma checkedAdd_one {value : ℕ} (h : value ≤ maxAllocations) :
    checkedAdd value 1 = some (value + 1) := by
  rw [maxAllocations] at h
  rw [checkedAdd, if_pos (by norm_num; omega)]

lemma createFresh_course {key : OperationKey} {context : SaveProfileContext}
    {operationId profileId : String} (hkey : key = toLex (context.instanceId, operationId))
    (hcapacity : provisioner.capacity ≤ maxAllocations)
    (hrequest : Provisioning.validateRequest context operationId profileId = .ok ())
    (hfresh : provisioner.records[key]? = none) :
    Course provisioner ports
      (provisioner.createFresh ports key context operationId profileId) := by
  rw [UserDataProvisioner.createFresh]
  split_ifs with hfull
  · exact .stayed _
  · rw [not_or, not_le, not_lt] at hfull
    obtain ⟨hroom, hwithin⟩ := hfull
    rw [checkedAdd_one (hwithin.trans hcapacity), UserDataIdentity.tryNew]
    by_cases hzero : provisioner.nextIdentity = 0
    · rw [refuse, if_pos hzero]
      exact .stayed _
    · rw [refuse, if_neg hzero]
      exact createBound_course hkey hrequest hfresh hroom hwithin hzero rfl

lemma createDisposable_course (ports : UserDataPorts)
    (hcapacity : provisioner.capacity ≤ maxAllocations)
    (hvalid : ∀ (key : OperationKey) (record : UserDataProvisioningRecord),
      provisioner.records[key]? = some record → validate record = .ok ())
    (context : SaveProfileContext) (operationId profileId : String) :
    Course provisioner ports
      (provisioner.createDisposable ports context operationId profileId) := by
  rw [UserDataProvisioner.createDisposable]
  cases hrequest : Provisioning.validateRequest context operationId profileId with
  | error e => exact .stayed _
  | ok u =>
    dsimp only
    cases hrecord : provisioner.records[(toLex (context.instanceId, operationId) : OperationKey)]?
      with
    | some existing =>
      dsimp only
      split_ifs with hreplay hcreated
      · exact reconcile_course ports hvalid context operationId
      · exact .stayed _
      · exact .stayed _
    | none => exact createFresh_course rfl hcapacity hrequest hrecord

end Courses

end Sts2Gateway.SaveProfile
