/-
What the calls of a save-profile ledger do.

* `Settles`, `Answers`: **what a settled result says of its own request**;
* `SaveProfileOperationRecord.Sound`: the records that a ledger writes;
* `Admitted`, `Recorded`: the two changes of a ledger, a request that is taken on and a
  result that is persisted;
* `Call`, `Call.perform`, `Performed`, `perform_performed`: **what each call does**, as at
  most one of the first and then at most one of the second.
-/
import Sts2Gateway.SaveProfile.Ledger

namespace Sts2Gateway.SaveProfile

open Procedure

/-! ### Settlements -/

/-- A baseline, well formed. -/
def SaveProfileResult.HasBaseline (result : SaveProfileResult) : Prop :=
  ∃ baseline, result.baseline = some baseline ∧ baseline.validate = .ok ()

/-- What a settled result says of its own request: the profile that was asked for, or the
user data that was reserved, and whose they are. -/
def Settles (request : SaveProfileForwardRequest) (result : SaveProfileResult) : Prop :=
  match request.operation with
  | .select profileId _ => result.profileId = some profileId ∧ result.HasBaseline
  | .createDisposable _ reserved => result.HasBaseline ∧
    ∃ userData, result.userData = some userData ∧ userData.identity = reserved.identity ∧
      userData.baseline = none ∧
      userData.provenance =
        { owner := provenanceOwner
          instanceId := request.context.instanceId
          operationId := request.operationId
          contract := launchProfileContract }
  | .list | .current => True

/-- A result of a request, which settles it if it is settled. -/
structure Answers (request : SaveProfileForwardRequest) (result : SaveProfileResult) : Prop where
  operationId : result.operationId = request.operationId
  route : result.route = request.route
  settled : result.status = .settled → Settles request result

section Responses

variable {request : SaveProfileForwardRequest} {response : SaveProfileForwardResponse}

lemma bareResult_answers {status : SaveProfileStatus} {guidance : Option RecoveryGuidance}
    (h : status ≠ .settled) : Answers request (bareResult request status guidance) where
  operationId := rfl
  route := rfl
  settled hsettled := absurd hsettled h

lemma unknownResult_answers : Answers request (unknownResult request) :=
  bareResult_answers (by decide)

lemma rejectedResult_answers : Answers request (rejectedResult request .rejected) :=
  bareResult_answers (by decide)

lemma selectedId_eq_ok {profileId : SaveProfileId} (h : selectedId request = .ok profileId) :
    ∃ baseline, request.operation = .select profileId baseline := by
  rw [selectedId] at h
  split at h
  · rename_i found baseline hoperation
    simp only [except_bind_eq_ok] at h
    obtain ⟨_, -, _, -, h⟩ := h
    obtain rfl := Except.ok.inj h
    exact ⟨baseline, hoperation⟩
  · cases h

/-- The baseline of a response is well formed when its check let it through. -/
lemma baseline_of_checked {baseline : Option ProfileBaseline}
    (hchecked : ¬ baseline.any (fun baseline => !baseline.validate.isOk) = true)
    (hsome : baseline ≠ none) : ∃ b, baseline = some b ∧ b.validate = .ok () := by
  obtain ⟨b, rfl⟩ := Option.ne_none_iff_exists'.mp hsome
  refine ⟨b, rfl, ?_⟩
  cases hb : b.validate with
  | ok u => rfl
  | error e =>
    rw [Option.any_some, hb] at hchecked
    exact absurd rfl hchecked

/-- A settlement that is let through settles the request. -/
lemma validateSettlement_settles {result : SaveProfileResult}
    (hroute : request.operation.route = request.route)
    (hsettled : validateSettlement request response = .ok ())
    (hbaseline : response.baseline ≠ none → result.HasBaseline)
    (hprofile : result.profileId = response.profileId)
    (huserData : result.userData = response.userData) : Settles request result := by
  rw [validateSettlement] at hsettled
  rw [Settles]
  cases hoperation : request.operation with
  | list => trivial
  | current => trivial
  | select profileId baseline =>
    rw [hoperation] at hroute
    rw [← hroute] at hsettled
    obtain ⟨expected, hexpected, hsettled⟩ := except_bind_eq_ok.mp hsettled
    obtain ⟨_, hfound⟩ := selectedId_eq_ok hexpected
    rw [hoperation] at hfound
    obtain ⟨rfl, -⟩ := SaveProfileOperation.select.inj hfound
    rw [refuse_eq_ok, not_or, not_not] at hsettled
    exact ⟨hprofile.trans hsettled.1, hbaseline hsettled.2⟩
  | createDisposable launchProfile reserved =>
    rw [hoperation] at hroute
    rw [← hroute] at hsettled
    obtain ⟨userData, hfound, hsettled⟩ := except_bind_eq_ok.mp hsettled
    rw [hoperation] at hsettled
    simp only [refuse_eq_ok, not_or, not_not] at hsettled
    obtain ⟨hsome, hidentity, hnone, hcontract, howner, hinstance, hid⟩ := hsettled
    refine ⟨hbaseline hsome, userData, huserData.trans (okOr_eq_ok.mp hfound), hidentity, ?_, ?_⟩
    · simpa using hnone
    · obtain ⟨identity, ⟨owner, instanceId, operationId, contract⟩, baseline⟩ := userData
      simp only at hcontract howner hinstance hid
      rw [hcontract, howner, hinstance, hid]

/-- **A response that is let through answers the request.** -/
theorem validateResponse_answers (hroute : request.operation.route = request.route) :
    Returns (validateResponse request response) (Answers request) := by
  refine .refuse fun hsame => .refuse fun hchecked => .bind fun _ hsettlement => .pure ?_
  rw [not_or, not_or, not_or, not_not, not_not, not_not] at hsame
  rw [not_or] at hchecked
  obtain ⟨hid, -, hresponseRoute, -⟩ := hsame
  refine ⟨hid, hresponseRoute, fun hsettled => ?_⟩
  change response.status = .settled at hsettled
  rw [if_pos hsettled] at hsettlement
  exact validateSettlement_settles hroute hsettlement
    (fun hsome => baseline_of_checked hchecked.1 hsome) rfl rfl

/-- The result of a receipt. -/
def received (request : SaveProfileForwardRequest) (response : SaveProfileForwardResponse) :
    SaveProfileResult :=
  match validateResponse request response with
  | .ok result => result
  | .error _ => unknownResult request

/-- The result of a request that was forwarded. -/
def forwardedResult (request : SaveProfileForwardRequest) :
    Except SaveProfileTransportFault SaveProfileForwardResponse → SaveProfileResult
  | .ok response => received request response
  | .error .unavailableBeforeWrite | .error .rejectedBeforeWrite =>
    rejectedResult request .rejected
  | .error .timeoutAfterWrite | .error .disconnectedAfterWrite | .error .malformedResponse =>
    unknownResult request

lemma received_answers (hroute : request.operation.route = request.route) :
    Answers request (received request response) := by
  rw [received]
  cases hvalid : validateResponse request response with
  | ok result => exact validateResponse_answers hroute _ hvalid
  | error e => exact unknownResult_answers

lemma forwardedResult_answers (hroute : request.operation.route = request.route)
    (answer : Except SaveProfileTransportFault SaveProfileForwardResponse) :
    Answers request (forwardedResult request answer) := by
  cases answer with
  | ok response => exact received_answers hroute
  | error fault =>
    cases fault with
    | unavailableBeforeWrite | rejectedBeforeWrite => exact rejectedResult_answers
    | timeoutAfterWrite | disconnectedAfterWrite | malformedResponse =>
      exact unknownResult_answers

end Responses

/-! ### Records -/

/-- The records that a ledger writes. -/
structure SaveProfileOperationRecord.Sound (record : SaveProfileOperationRecord) : Prop where
  operationId : record.operationId = record.request.operationId
  route : record.request.operation.route = record.request.route
  unanswered : record.result = none → record.status = .accepted
  answered : ∀ result, record.result = some result →
    result.status = record.status ∧ Answers record.request result

/-- The record with a result. -/
def SaveProfileOperationRecord.withResult (record : SaveProfileOperationRecord)
    (result : SaveProfileResult) : SaveProfileOperationRecord :=
  { record with status := result.status, result := some result }

namespace SaveProfileOperationRecord

variable {record : SaveProfileOperationRecord} {result : SaveProfileResult}

@[simp] lemma key_withResult : (record.withResult result).key = record.key := rfl

lemma Sound.withResult (h : record.Sound) (hanswers : Answers record.request result) :
    (record.withResult result).Sound where
  operationId := h.operationId
  route := h.route
  unanswered hnone := by cases hnone
  answered found hfound := by
    obtain rfl := Option.some.inj hfound
    exact ⟨rfl, hanswers⟩

/-- A record without a final result is unresolved. -/
lemma Sound.unresolved (h : record.Sound) (hfinal : SaveProfileLedger.finalResult record = none) :
    record.status.isUnresolved = true := by
  rw [SaveProfileLedger.finalResult] at hfinal
  cases hresult : record.result with
  | none =>
    rw [h.unanswered hresult]
    rfl
  | some result =>
    rw [hresult, Option.filter_eq_none_iff] at hfinal
    rw [← (h.answered result hresult).1]
    simpa using hfinal result rfl

end SaveProfileOperationRecord

variable {σ : Type}

/-- The record that a caller asks about. -/
lemma fenced_found {ledger : SaveProfileLedger σ} {context : SaveProfileContext}
    {operationId : String} {nowMillis : ℕ} {record : SaveProfileOperationRecord}
    (h : ledger.fenced context operationId nowMillis = .ok record) :
    ledger.records[(toLex (context.instanceId, operationId) : OperationKey)]? = some record := by
  simp only [SaveProfileLedger.fenced, except_bind_eq_ok, okOr_eq_ok] at h
  obtain ⟨_, -, found, hfound, _, -, h⟩ := h
  rw [hfound, Except.ok.inj h]

/-- The ledger of a submission that was taken on. -/
def taken (outcome : Except SaveProfileLedgerError (SaveProfileResult ⊕ SaveProfileLedger σ)) :
    Option (SaveProfileLedger σ) :=
  match outcome with
  | .ok (.inr admitted) => some admitted
  | .ok (.inl _) => none
  | .error _ => none

/-- The record that was asked about, while it has no final result. -/
def unanswered (outcome : Except SaveProfileLedgerError SaveProfileOperationRecord) :
    Option SaveProfileOperationRecord :=
  outcome.toOption.filter fun record => (SaveProfileLedger.finalResult record).isNone

lemma taken_eq_some
    {outcome : Except SaveProfileLedgerError (SaveProfileResult ⊕ SaveProfileLedger σ)}
    {admitted : SaveProfileLedger σ} (h : taken outcome = some admitted) :
    outcome = .ok (.inr admitted) := by
  rcases outcome with e | (result | found)
  · cases h
  · cases h
  · rw [taken, Option.some.injEq] at h
    rw [h]

lemma unanswered_eq_some
    {outcome : Except SaveProfileLedgerError SaveProfileOperationRecord}
    {record : SaveProfileOperationRecord} (h : unanswered outcome = some record) :
    outcome = .ok record ∧ SaveProfileLedger.finalResult record = none := by
  rw [unanswered, Option.filter_eq_some_iff] at h
  obtain ⟨hsome, hfinal⟩ := h
  cases outcome with
  | error e => cases hsome
  | ok found =>
    rw [Except.toOption, Option.some.injEq] at hsome
    exact ⟨by rw [hsome], Option.isNone_iff_eq_none.mp hfinal⟩

lemma unanswered_ok {record : SaveProfileOperationRecord}
    (h : SaveProfileLedger.finalResult record = none) : unanswered (.ok record) = some record := by
  simp [unanswered, Except.toOption, Option.filter_some, h]

lemma unanswered_final {record : SaveProfileOperationRecord} {result : SaveProfileResult}
    (h : SaveProfileLedger.finalResult record = some result) : unanswered (.ok record) = none := by
  simp [unanswered, Except.toOption, Option.filter_some, h]

/-! ### Selections -/

section Selections

variable {ledger : SaveProfileLedger σ}

@[simp] lemma store_applySelection (result : SaveProfileResult) :
    (ledger.applySelection result).store = ledger.store := by
  rw [SaveProfileLedger.applySelection]
  split_ifs
  · split <;> rfl
  · rfl

@[simp] lemma records_applySelection (result : SaveProfileResult) :
    (ledger.applySelection result).records = ledger.records := by
  rw [SaveProfileLedger.applySelection]
  split_ifs
  · split <;> rfl
  · rfl

/-- An unresolved result and one of another route leave the pending selection alone. -/
lemma pendingSelection_applySelection {result : SaveProfileResult}
    (h : result.route = .select → result.status.isUnresolved = true) :
    (ledger.applySelection result).pendingSelection = ledger.pendingSelection := by
  rw [SaveProfileLedger.applySelection]
  split_ifs with hroute
  · have hunresolved := h hroute
    cases hstatus : result.status with
    | accepted => rfl
    | unknown => rfl
    | settled | rejected | blocked | cancelled =>
      rw [hstatus] at hunresolved
      cases hunresolved
  · rfl

/-- A settled selection alone changes the selected profile. -/
lemma selected_applySelection (ledger : SaveProfileLedger σ) {result : SaveProfileResult} :
    (ledger.applySelection result).selected =
      if result.isSelection then result.profileId else ledger.selected := by
  rw [SaveProfileLedger.applySelection, SaveProfileResult.isSelection]
  by_cases hroute : result.route = .select
  · rw [if_pos hroute]
    cases hstatus : result.status <;> simp [hroute]
  · simp [hroute]

/-- A final answer of a selection leaves none pending. -/
lemma pendingSelection_of_final (ledger : SaveProfileLedger σ) {result : SaveProfileResult}
    (hroute : result.route = .select) (hfinal : result.status.isUnresolved = false) :
    (ledger.applySelection result).pendingSelection = none := by
  rw [SaveProfileLedger.applySelection, if_pos hroute]
  cases hstatus : result.status with
  | accepted | unknown =>
    rw [hstatus] at hfinal
    cases hfinal
  | settled | rejected | blocked | cancelled => rfl

end Selections

/-! ### Changes of a ledger -/

variable [SaveProfileRecordStore σ]

/-- A request is taken on. -/
structure Admitted (ledger : SaveProfileLedger σ) (request : SaveProfileForwardRequest)
    (after : SaveProfileLedger σ) : Prop where
  route : request.operation.route = request.route
  instanceId : ledger.authority.instanceId = request.context.instanceId
  fresh : ledger.records[request.key]? = none
  room : ledger.records.size < ledger.capacity
  alone : request.route = .select → ledger.pendingSelection = none
  distinct : request.route = .select → ∃ profileId baseline,
    request.operation = .select profileId baseline ∧ ledger.selected ≠ some profileId
  written : ∃ store, SaveProfileRecordStore.insert ledger.store request.accepted = .ok store ∧
    after =
      { ledger with
        store
        records := ledger.records.insert request.key request.accepted
        pendingSelection :=
          if request.route = .select then some request.operationId else ledger.pendingSelection }

/-- A result is persisted for a record that had no final one. -/
structure Recorded (ledger : SaveProfileLedger σ) (key : OperationKey)
    (record : SaveProfileOperationRecord) (result : SaveProfileResult)
    (after : SaveProfileLedger σ) : Prop where
  found : ledger.records[key]? = some record
  unresolved : SaveProfileLedger.finalResult record = none
  answers : record.request.operation.route = record.request.route → Answers record.request result
  written : ∃ store,
    SaveProfileRecordStore.update ledger.store (record.withResult result) = .ok store ∧
      after = SaveProfileLedger.applySelection
        { ledger with store, records := ledger.records.insert key (record.withResult result) }
        result

lemma Recorded.selected {ledger after : SaveProfileLedger σ} {key : OperationKey}
    {record : SaveProfileOperationRecord} {result : SaveProfileResult}
    (h : Recorded ledger key record result after) :
    after.selected = if result.isSelection then result.profileId else ledger.selected := by
  obtain ⟨store, -, rfl⟩ := h.written
  exact selected_applySelection _

section Ledger

variable {ledger : SaveProfileLedger σ} {ports : Ports}

lemma faulty_eq_ok {α : Type} {fault : Option SaveProfileLedgerError}
    {call : Except SaveProfileLedgerError α} {a : α} (h : faulty fault call = .ok a) :
    fault = none ∧ call = .ok a := by
  cases fault with
  | none => exact ⟨rfl, h⟩
  | some e => cases h

lemma validateRequest_route {request : SaveProfileForwardRequest}
    (h : validateRequest request = .ok ()) : request.operation.route = request.route := by
  simp only [validateRequest, except_bind_eq_ok, refuse_eq_ok, not_not] at h
  obtain ⟨_, -, _, -, _, -, _, hroute, -⟩ := h
  exact hroute

lemma authorize_instance {authority : SaveProfileAuthority} {context : SaveProfileContext}
    {nowMillis : ℕ} (h : authority.authorize context nowMillis = .ok ()) :
    authority.instanceId = context.instanceId := by
  simp only [SaveProfileAuthority.authorize, except_bind_eq_ok, refuse_eq_ok, not_not] at h
  obtain ⟨_, -, _, -, _, hinstance, -⟩ := h
  exact hinstance

/-- A submission that is taken on. -/
lemma accept_admitted {request : SaveProfileForwardRequest} {nowMillis : ℕ} {activeRun : Bool}
    {after : SaveProfileLedger σ}
    (h : ledger.accept ports request nowMillis activeRun = .ok (.inr after)) :
    Admitted ledger request after := by
  simp only [SaveProfileLedger.accept, except_bind_eq_ok, mapError_eq_ok] at h
  obtain ⟨_, hauthorized, _, hvalid, _, -, h⟩ := h
  cases hfresh : ledger.records[request.key]? with
  | some existing =>
    rw [hfresh] at h
    simp only [except_bind_eq_ok] at h
    obtain ⟨_, -, result, -, h⟩ := h
    cases h
  | none =>
    rw [hfresh] at h
    simp only [except_bind_eq_ok, refuse_eq_ok, not_le] at h
    obtain ⟨_, hroom, _, hselect, store, hinsert, h⟩ := h
    have hselect : request.route = .select → ledger.pendingSelection = none ∧
        ∃ profileId baseline, request.operation = .select profileId baseline ∧
          ledger.selected ≠ some profileId := by
      intro hroute
      rw [if_pos hroute] at hselect
      obtain ⟨expected, hexpected, hselect⟩ := except_bind_eq_ok.mp hselect
      obtain ⟨baseline, hoperation⟩ := selectedId_eq_ok hexpected
      rw [refuse_eq_ok, not_or] at hselect
      exact ⟨by simpa using hselect.1, expected, baseline, hoperation, hselect.2⟩
    exact {
      route := validateRequest_route hvalid
      instanceId := authorize_instance hauthorized
      fresh := hfresh
      room := hroom
      alone := fun hroute => (hselect hroute).1
      distinct := fun hroute => (hselect hroute).2
      written := ⟨store, (faulty_eq_ok hinsert).2, (Sum.inr.inj (Except.ok.inj h)).symm⟩ }

/-- A persisted result is recorded, unless the store fails. -/
lemma recorded_of_persistResult {key : OperationKey} {record : SaveProfileOperationRecord}
    {result : SaveProfileResult} {after : SaveProfileLedger σ}
    (hfound : ledger.records[key]? = some record)
    (hfinal : SaveProfileLedger.finalResult record = none)
    (hanswers : record.request.operation.route = record.request.route →
      Answers record.request result)
    (h : ledger.persistResult ports key result = .ok after) :
    Recorded ledger key record result after := by
  refine ⟨hfound, hfinal, hanswers, ?_⟩
  simp only [SaveProfileLedger.persistResult, except_bind_eq_ok, okOr_eq_ok] at h
  obtain ⟨found, hrecord, store, hstore, hafter⟩ := h
  rw [hfound] at hrecord
  obtain rfl := Option.some.inj hrecord
  exact ⟨store, (faulty_eq_ok hstore).2, (Except.ok.inj hafter).symm⟩

end Ledger

/-! ### Calls -/

inductive Call where
  | submit (request : SaveProfileForwardRequest) (nowMillis : ℕ) (activeRun : Bool)
  | reconcile (context : SaveProfileContext) (operationId : String) (nowMillis : ℕ)
  | callerDisconnected (context : SaveProfileContext) (operationId : String) (nowMillis : ℕ)

namespace Call

def perform (ledger : SaveProfileLedger σ) (ports : Ports) : Call → Reply σ
  | .submit request nowMillis activeRun => ledger.submit ports request nowMillis activeRun
  | .reconcile context operationId nowMillis =>
    ledger.reconcile ports context operationId nowMillis
  | .callerDisconnected context operationId nowMillis =>
    ledger.callerDisconnected ports context operationId nowMillis

/-- The ledger in which the call forwards a request, and the request. -/
def forwards (ledger : SaveProfileLedger σ) (ports : Ports) :
    Call → Option (SaveProfileLedger σ × SaveProfileForwardRequest)
  | .submit request nowMillis activeRun =>
    (taken (ledger.accept ports request nowMillis activeRun)).map fun admitted => (admitted, request)
  | .reconcile _ _ _ | .callerDisconnected _ _ _ => none

end Call

/-- A result that a call persists: in which ledger, and for which record. -/
structure Persisting (σ : Type) where
  ledger : SaveProfileLedger σ
  key : OperationKey
  record : SaveProfileOperationRecord
  result : SaveProfileResult

/-- The result that the call persists. -/
def Call.persists (ledger : SaveProfileLedger σ) (ports : Ports) : Call → Option (Persisting σ)
  | .submit request nowMillis activeRun =>
    (taken (ledger.accept ports request nowMillis activeRun)).map fun admitted =>
      { ledger := admitted
        key := request.key
        record := request.accepted
        result := forwardedResult request ports.forward }
  | .reconcile context operationId nowMillis =>
    (unanswered (ledger.fenced context operationId nowMillis)).bind fun record =>
      ports.lookup.toOption.join.map fun receipt =>
        { ledger
          key := toLex (context.instanceId, operationId)
          record
          result := received record.request receipt }
  | .callerDisconnected context operationId nowMillis =>
    (unanswered (ledger.fenced context operationId nowMillis)).map fun record =>
      { ledger
        key := toLex (context.instanceId, operationId)
        record
        result := unknownResult record.request }

section Perform

variable {ledger : SaveProfileLedger σ} {ports : Ports} {call : Call}

/-- The ledger after its store was asked to write, whatever the store answers. -/
def Persisting.after (persisting : Persisting σ) (ports : Ports) : SaveProfileLedger σ :=
  ((persisting.ledger.persistResult ports persisting.key persisting.result).toOption).getD
    persisting.ledger

lemma answerPersisted_ledger (ledger : SaveProfileLedger σ) (ports : Ports) (key : OperationKey)
    (record : SaveProfileOperationRecord) (result : SaveProfileResult)
    (answer : Except SaveProfileLedgerError SaveProfileResult) :
    (ledger.answerPersisted ports key result answer).ledger =
      Persisting.after { ledger, key, record, result } ports := by
  rw [SaveProfileLedger.answerPersisted, Persisting.after]
  dsimp only
  cases ledger.persistResult ports key result <;> rfl

lemma dispatch_ledger (ledger : SaveProfileLedger σ) (ports : Ports)
    (request : SaveProfileForwardRequest) :
    (ledger.dispatch ports request).ledger =
      Persisting.after
        { ledger
          key := request.key
          record := request.accepted
          result := forwardedResult request ports.forward } ports := by
  rw [SaveProfileLedger.dispatch]
  cases hforward : ports.forward with
  | error fault =>
    cases fault <;> exact answerPersisted_ledger ledger ports request.key request.accepted _ _
  | ok response =>
    dsimp only
    rw [forwardedResult, received]
    cases hvalid : validateResponse request response <;>
      exact answerPersisted_ledger ledger ports request.key request.accepted _ _

/-- **What each call leaves**: what it persists, in the ledger that takes its request on. -/
theorem perform_ledger (ledger : SaveProfileLedger σ) (ports : Ports) (call : Call) :
    (call.perform ledger ports).ledger =
      (call.persists ledger ports).elim ledger fun persisting => persisting.after ports := by
  cases call with
  | submit request nowMillis activeRun =>
    rw [Call.persists, Call.perform, SaveProfileLedger.submit]
    cases ledger.accept ports request nowMillis activeRun with
    | error e => rfl
    | ok outcome =>
      cases outcome with
      | inl result => rfl
      | inr admitted => exact dispatch_ledger admitted ports request
  | reconcile context operationId nowMillis =>
    rw [Call.persists, Call.perform, SaveProfileLedger.reconcile]
    cases ledger.fenced context operationId nowMillis with
    | error e => rfl
    | ok record =>
      dsimp only
      cases hfinal : SaveProfileLedger.finalResult record with
      | some previous =>
        rw [unanswered_final hfinal]
        rfl
      | none =>
        rw [unanswered_ok hfinal]
        rcases hlookup : ports.lookup with fault | (_ | receipt)
        · rfl
        · rfl
        · simp only [Except.toOption, Option.bind_some, Option.join_some, Option.map_some,
            Option.elim_some, received]
          cases validateResponse record.request receipt <;>
            exact answerPersisted_ledger ledger ports _ record _ _
  | callerDisconnected context operationId nowMillis =>
    rw [Call.persists, Call.perform, SaveProfileLedger.callerDisconnected]
    cases ledger.fenced context operationId nowMillis with
    | error e => rfl
    | ok record =>
      dsimp only
      cases hfinal : SaveProfileLedger.finalResult record with
      | some previous =>
        rw [unanswered_final hfinal]
        rfl
      | none =>
        rw [unanswered_ok hfinal]
        exact answerPersisted_ledger ledger ports _ record _ _

lemma Admitted.found {request : SaveProfileForwardRequest} {admitted : SaveProfileLedger σ}
    (h : Admitted ledger request admitted) :
    admitted.records[request.key]? = some request.accepted := by
  obtain ⟨store, -, rfl⟩ := h.written
  rw [OrderedMap.getElem?_insert_if, if_pos rfl]

/-- A call forwards a request that it has taken on, and persists its result. -/
lemma forwards_admitted {admitted : SaveProfileLedger σ} {request : SaveProfileForwardRequest}
    (h : call.forwards ledger ports = some (admitted, request)) :
    Admitted ledger request admitted ∧ call.persists ledger ports = some
      { ledger := admitted
        key := request.key
        record := request.accepted
        result := forwardedResult request ports.forward } := by
  cases call with
  | submit submitted nowMillis activeRun =>
    obtain ⟨found, htaken, hfound⟩ := Option.map_eq_some_iff.mp h
    obtain ⟨rfl, rfl⟩ := Prod.mk.inj hfound
    rw [Call.persists, htaken]
    exact ⟨accept_admitted (taken_eq_some htaken), rfl⟩
  | reconcile | callerDisconnected => cases h

/-- What a call persists without forwarding answers a record of the ledger. -/
structure Persists (ledger : SaveProfileLedger σ) (persisting : Persisting σ) : Prop where
  same : persisting.ledger = ledger
  found : ledger.records[persisting.key]? = some persisting.record
  unresolved : SaveProfileLedger.finalResult persisting.record = none
  answers : persisting.record.request.operation.route = persisting.record.request.route →
    Answers persisting.record.request persisting.result

lemma persists_of_silent {persisting : Persisting σ} (hsilent : call.forwards ledger ports = none)
    (h : call.persists ledger ports = some persisting) : Persists ledger persisting := by
  cases call with
  | submit request nowMillis activeRun =>
    rw [Call.forwards, Option.map_eq_none_iff] at hsilent
    rw [Call.persists, hsilent] at h
    cases h
  | reconcile context operationId nowMillis =>
    obtain ⟨record, hrecord, h⟩ := Option.bind_eq_some_iff.mp h
    obtain ⟨receipt, -, rfl⟩ := Option.map_eq_some_iff.mp h
    obtain ⟨hfenced, hfinal⟩ := unanswered_eq_some hrecord
    exact ⟨rfl, fenced_found hfenced, hfinal, fun hroute => received_answers hroute⟩
  | callerDisconnected context operationId nowMillis =>
    obtain ⟨record, hrecord, rfl⟩ := Option.map_eq_some_iff.mp h
    obtain ⟨hfenced, hfinal⟩ := unanswered_eq_some hrecord
    exact ⟨rfl, fenced_found hfenced, hfinal, fun _ => unknownResult_answers⟩

/-- What a call does: it takes on the request that it forwards, and persists a result. -/
inductive Performed (ledger : SaveProfileLedger σ) :
    Option (SaveProfileLedger σ × SaveProfileForwardRequest) → SaveProfileLedger σ → Prop
  | kept : Performed ledger none ledger
  | recorded (key : OperationKey) (record : SaveProfileOperationRecord)
      (result : SaveProfileResult) {after : SaveProfileLedger σ}
      (recorded : Recorded ledger key record result after) : Performed ledger none after
  | forwarded {request : SaveProfileForwardRequest} {admitted : SaveProfileLedger σ}
      (admits : Admitted ledger request admitted) :
      Performed ledger (some (admitted, request)) admitted
  | answered {request : SaveProfileForwardRequest} {admitted : SaveProfileLedger σ}
      (admits : Admitted ledger request admitted) (result : SaveProfileResult)
      {after : SaveProfileLedger σ}
      (recorded : Recorded admitted request.key request.accepted result after) :
      Performed ledger (some (admitted, request)) after

/-- **What each call does.** -/
theorem perform_performed (ledger : SaveProfileLedger σ) (ports : Ports) (call : Call) :
    Performed ledger (call.forwards ledger ports) (call.perform ledger ports).ledger := by
  rw [perform_ledger]
  cases hforwards : call.forwards ledger ports with
  | some taken =>
    obtain ⟨admitted, request⟩ := taken
    obtain ⟨hadmitted, hpersists⟩ := forwards_admitted hforwards
    rw [hpersists, Option.elim_some, Persisting.after]
    cases hpersist : admitted.persistResult ports request.key
        (forwardedResult request ports.forward) with
    | error e => exact .forwarded hadmitted
    | ok after =>
      exact .answered hadmitted _ (recorded_of_persistResult hadmitted.found rfl
        (fun hroute => forwardedResult_answers hroute _) hpersist)
  | none =>
    cases hpersists : call.persists ledger ports with
    | none => exact .kept
    | some persisting =>
      obtain ⟨rfl, hfound, hunresolved, hanswers⟩ := persists_of_silent hforwards hpersists
      rw [Option.elim_some, Persisting.after]
      cases hpersist : persisting.ledger.persistResult ports persisting.key persisting.result with
      | error e => exact .kept
      | ok after =>
        exact .recorded _ persisting.record _
          (recorded_of_persistResult hfound hunresolved hanswers hpersist)

/-- What a call keeps of a ledger, its two changes keep. -/
lemma performed_keeps {P : SaveProfileLedger σ → Prop}
    {forwarded : Option (SaveProfileLedger σ × SaveProfileForwardRequest)}
    (hadmitted : ∀ {ledger request after}, P ledger → Admitted ledger request after → P after)
    (hrecorded : ∀ {ledger key record result after}, P ledger →
      Recorded ledger key record result after → P after)
    {after : SaveProfileLedger σ} (hledger : P ledger) (h : Performed ledger forwarded after) :
    P after := by
  cases h with
  | kept => exact hledger
  | recorded key record result recorded => exact hrecorded hledger recorded
  | forwarded admits => exact hadmitted hledger admits
  | answered admits result recorded => exact hrecorded (hadmitted hledger admits) recorded

/-- What a call persists, it persists in a ledger that it has taken the request on in, if any. -/
lemma persists_cases {ports : Ports} {call : Call} {persisting : Persisting σ}
    (h : call.persists ledger ports = some persisting) :
    Persists persisting.ledger persisting ∧ (persisting.ledger = ledger ∨
      ∃ request, Admitted ledger request persisting.ledger ∧
        persisting.record = request.accepted) := by
  cases hforwards : call.forwards ledger ports with
  | some taken =>
    obtain ⟨admitted, request⟩ := taken
    obtain ⟨hadmitted, hpersists⟩ := forwards_admitted hforwards
    rw [hpersists] at h
    obtain rfl := Option.some.inj h
    exact ⟨⟨rfl, hadmitted.found, rfl, fun hroute => forwardedResult_answers hroute _⟩,
      .inr ⟨request, hadmitted, rfl⟩⟩
  | none =>
    have hpersists := persists_of_silent hforwards h
    have hsame := hpersists.same
    rw [← hsame] at hpersists
    exact ⟨hpersists, .inl hsame⟩

end Perform

end Sts2Gateway.SaveProfile
