/-
Safety of the save-profile ledger.

* `Process`, `Step`, `next`: a ledger that runs over its store, stops anywhere and is
  built again from it;
* `StoreSound`, `Tracks`: the state of a store, and of a ledger over it;
* `Tracks.admitted`, `Tracks.recorded`, `tracks_new`: each change keeps them;
* `SaveProfileSafety`, `save_profile_safety`: **a request is forwarded once and after its
  record was stored, one selection is pending at most, final results stay and settle their
  own request, and the ledger mirrors its store**, over either store.
-/
import Sts2Gateway.Library.Machine
import Sts2Gateway.SaveProfile.Calls
import Sts2Gateway.SaveProfile.Stores

namespace Sts2Gateway.SaveProfile

open Listing Machine Procedure

/-! ### Processes -/

inductive Process (σ : Type) where
  | running (ledger : SaveProfileLedger σ)
  | stopped (store : σ)

def Process.store {σ : Type} : Process σ → σ
  | .running ledger => ledger.store
  | .stopped store => store

inductive Step where
  | new (capacity : ℕ) (authority : SaveProfileAuthority) (ports : Ports)
  | call (ports : Ports) (call : Call)
  | setAuthority (authority : SaveProfileAuthority)
  | stop
  /-- The process stops in a submission that was taken on, before or after it is forwarded. -/
  | stopInSubmit (ports : Ports) (request : SaveProfileForwardRequest) (nowMillis : ℕ)
      (activeRun forwarded : Bool)

section Steps

variable {σ : Type} [SaveProfileRecordStore σ]

def next (process : Process σ) (step : Step) : Process σ :=
  match process, step with
  | .stopped store, .new capacity authority ports =>
    match SaveProfileLedger.new capacity authority store ports with
    | .ok ledger => .running ledger
    | .error _ => .stopped store
  | .running ledger, .call ports call => .running (call.perform ledger ports).ledger
  | .running ledger, .setAuthority authority => .running (ledger.setAuthority authority)
  | .running ledger, .stop => .stopped ledger.store
  | .running ledger, .stopInSubmit ports request nowMillis activeRun _ =>
    match (Call.submit request nowMillis activeRun).forwards ledger ports with
    | some (admitted, _) => .stopped admitted.store
    | none => .stopped ledger.store
  | process, _ => process

/-- The ledger in which a step forwards a request, and the request. -/
def forwards (process : Process σ) (step : Step) :
    Option (SaveProfileLedger σ × SaveProfileForwardRequest) :=
  match process, step with
  | .running ledger, .call ports call => call.forwards ledger ports
  | .running ledger, .stopInSubmit ports request nowMillis activeRun forwarded =>
    if forwarded then (Call.submit request nowMillis activeRun).forwards ledger ports else none
  | _, _ => none

end Steps

/-! ### Sound stores and ledgers -/

section Tracks

variable {σ : Type} [SaveProfileRecordStore σ] [LawfulRecordStore σ]

open LawfulRecordStore (rows)

/-- The records that ledgers leave in a store. -/
structure StoreSound (store : σ) : Prop where
  sound : LawfulRecordStore.Sound store
  records : ∀ record ∈ rows store, record.Sound
  onePending : ∀ record ∈ rows store, ∀ other ∈ rows store, record.isPending = true →
    other.isPending = true → record.key = other.key

/-- A ledger that mirrors its store and knows its pending selection. -/
structure Tracks (ledger : SaveProfileLedger σ) : Prop extends StoreSound ledger.store where
  mirrors : ∀ key : OperationKey,
    ledger.records[key]? = lookup SaveProfileOperationRecord.key (rows ledger.store) key
  pending : ∀ record ∈ rows ledger.store, record.isPending = true →
    ledger.pendingSelection = some record.operationId

variable {ledger after : SaveProfileLedger σ} {store : σ}

lemma key_operationId {record other : SaveProfileOperationRecord} (h : record.key = other.key) :
    record.operationId = other.operationId :=
  congrArg (fun key : OperationKey => (ofLex key).2) h

/-! ### Requests that are taken on -/

lemma Admitted.inserted {request : SaveProfileForwardRequest} (h : Admitted ledger request after)
    (hledger : Tracks ledger) :
    LawfulRecordStore.Sound after.store ∧
      Inserted SaveProfileOperationRecord.key (rows ledger.store) request.accepted
        (rows after.store) := by
  obtain ⟨store, hinsert, rfl⟩ := h.written
  exact LawfulRecordStore.insert_ok hledger.sound hinsert

lemma accepted_sound {request : SaveProfileForwardRequest}
    (h : request.operation.route = request.route) : request.accepted.Sound where
  operationId := rfl
  route := h
  unanswered _ := rfl
  answered _ hresult := by cases hresult

lemma Tracks.admitted {request : SaveProfileForwardRequest} (hledger : Tracks ledger)
    (h : Admitted ledger request after) : Tracks after := by
  obtain ⟨hsound, hinserted⟩ := h.inserted hledger
  -- a selection is taken on only while none is pending
  have hidle : request.accepted.isPending = true → ∀ record ∈ rows ledger.store,
      record.isPending = false := by
    intro hpending record hrecord
    have hroute : request.route = .select := by
      rw [SaveProfileOperationRecord.isPending, Bool.and_eq_true, decide_eq_true_eq] at hpending
      exact hpending.1
    by_contra hother
    have hsome := hledger.pending record hrecord (Bool.not_eq_false _ ▸ hother)
    rw [h.alone hroute] at hsome
    cases hsome
  refine { sound := hsound, records := ?_, onePending := ?_, mirrors := ?_, pending := ?_ }
  · intro record hrecord
    rcases (mem_inserted hinserted).mp hrecord with rfl | hold
    · exact accepted_sound h.route
    · exact hledger.records record hold
  · intro record hrecord other hother hpending hpending'
    rcases (mem_inserted hinserted).mp hrecord with rfl | hold
    · rcases (mem_inserted hinserted).mp hother with rfl | hold'
      · rfl
      · rw [hidle hpending other hold'] at hpending'
        cases hpending'
    · rcases (mem_inserted hinserted).mp hother with rfl | hold'
      · rw [hidle hpending' record hold] at hpending
        cases hpending
      · exact hledger.onePending record hold other hold' hpending hpending'
  · intro key
    rw [hinserted.lookup (LawfulRecordStore.nodup hledger.sound)]
    obtain ⟨store, -, rfl⟩ := h.written
    rw [OrderedMap.getElem?_insert_if, hledger.mirrors key]
    rfl
  · intro record hrecord hpending
    obtain ⟨store, hinsert, rfl⟩ := h.written
    rcases (mem_inserted hinserted).mp hrecord with rfl | hold
    · rw [SaveProfileOperationRecord.isPending, Bool.and_eq_true, decide_eq_true_eq] at hpending
      exact if_pos hpending.1
    · have hsome := hledger.pending record hold hpending
      refine (if_neg fun hroute => ?_).trans hsome
      rw [h.alone hroute] at hsome
      cases hsome

/-! ### Results that are persisted -/

lemma Tracks.mem (hledger : Tracks ledger) {key : OperationKey}
    {record : SaveProfileOperationRecord} (h : ledger.records[key]? = some record) :
    record ∈ rows ledger.store ∧ record.key = key := by
  rw [hledger.mirrors] at h
  exact (lookup_eq_some (LawfulRecordStore.nodup hledger.sound)).mp h

lemma Recorded.replaced {key : OperationKey} {record : SaveProfileOperationRecord}
    {result : SaveProfileResult} (h : Recorded ledger key record result after)
    (hledger : Tracks ledger) :
    LawfulRecordStore.Sound after.store ∧ rows after.store =
      replaced SaveProfileOperationRecord.key (rows ledger.store) (record.withResult result) := by
  obtain ⟨store, hupdate, rfl⟩ := h.written
  obtain ⟨hsound, -, hrows⟩ := LawfulRecordStore.update_ok hledger.sound hupdate
  rw [store_applySelection]
  exact ⟨hsound, hrows⟩

lemma Recorded.answered {key : OperationKey} {record : SaveProfileOperationRecord}
    {result : SaveProfileResult} (h : Recorded ledger key record result after)
    (hledger : Tracks ledger) : Answers record.request result :=
  h.answers (hledger.records record (hledger.mem h.found).1).route

/-- The record of a result had no final answer. -/
lemma Recorded.wasUnresolved {key : OperationKey} {record : SaveProfileOperationRecord}
    {result : SaveProfileResult} (h : Recorded ledger key record result after)
    (hledger : Tracks ledger) : record.status.isUnresolved = true :=
  (hledger.records record (hledger.mem h.found).1).unresolved h.unresolved

lemma isPending_withResult {record : SaveProfileOperationRecord} {result : SaveProfileResult}
    (hroute : result.route = record.request.route) :
    (record.withResult result).isPending = true ↔
      result.route = .select ∧ result.status.isUnresolved = true := by
  rw [hroute, SaveProfileOperationRecord.isPending, Bool.and_eq_true, decide_eq_true_eq]
  exact Iff.rfl

lemma Tracks.recorded {key : OperationKey} {record : SaveProfileOperationRecord}
    {result : SaveProfileResult} (hledger : Tracks ledger)
    (h : Recorded ledger key record result after) : Tracks after := by
  obtain ⟨hsound, hrows⟩ := h.replaced hledger
  obtain ⟨hmem, hkey⟩ := hledger.mem h.found
  have hanswers := h.answered hledger
  have hunresolved := h.wasUnresolved hledger
  -- a pending selection that stays pending was pending before
  have hwas : (record.withResult result).isPending = true → record.isPending = true := by
    intro hpending
    rw [isPending_withResult hanswers.route, hanswers.route] at hpending
    rw [SaveProfileOperationRecord.isPending, hunresolved, Bool.and_true, decide_eq_true_eq]
    exact hpending.1
  have hold : ∀ other ∈ rows after.store, other.isPending = true →
      ∃ earlier ∈ rows ledger.store, earlier.isPending = true ∧ earlier.key = other.key := by
    intro other hother hpending
    rw [hrows] at hother
    rcases mem_replaced hother with rfl | ⟨hother, -⟩
    · exact ⟨record, hmem, hwas hpending, rfl⟩
    · exact ⟨other, hother, hpending, rfl⟩
  refine { sound := hsound, records := ?_, onePending := ?_, mirrors := ?_, pending := ?_ }
  · intro other hother
    rw [hrows] at hother
    rcases mem_replaced hother with rfl | ⟨hother, -⟩
    · exact (hledger.records record hmem).withResult hanswers
    · exact hledger.records other hother
  · intro first hfirst second hsecond hpending hpending'
    obtain ⟨earlier, hearlier, hwaiting, hsame⟩ := hold first hfirst hpending
    obtain ⟨earlier', hearlier', hwaiting', hsame'⟩ := hold second hsecond hpending'
    rw [← hsame, ← hsame']
    exact hledger.onePending earlier hearlier earlier' hearlier' hwaiting hwaiting'
  · intro k
    have hpresent : ∃ earlier ∈ rows ledger.store, earlier.key = (record.withResult result).key :=
      ⟨record, hmem, rfl⟩
    rw [hrows, lookup_replaced (LawfulRecordStore.nodup hledger.sound) hpresent,
      ← hledger.mirrors k, SaveProfileOperationRecord.key_withResult, hkey]
    obtain ⟨store, -, rfl⟩ := h.written
    rw [records_applySelection, OrderedMap.getElem?_insert_if]
  · intro other hother hpending
    obtain ⟨earlier, hearlier, hwaiting, hsame⟩ := hold other hother hpending
    have hsome := hledger.pending earlier hearlier hwaiting
    rw [← key_operationId hsame, ← hsome]
    obtain ⟨store, -, rfl⟩ := h.written
    refine pendingSelection_applySelection fun hroute => ?_
    -- the pending record is the one that is written, as no other selection is pending
    have hself : record.isPending = true := by
      rw [SaveProfileOperationRecord.isPending, hunresolved, ← hanswers.route, hroute]
      rfl
    have hsameKey := hledger.onePending earlier hearlier record hmem hwaiting hself
    rw [hrows] at hother
    rcases mem_replaced hother with rfl | ⟨-, hne⟩
    · exact ((isPending_withResult hanswers.route).mp hpending).2
    · exact absurd (hsame.symm.trans hsameKey) hne

/-! ### Rebuilt ledgers -/

/-- The first pending selection that is listed is the only one. -/
lemma pendingOf_eq (h : StoreSound store) {record : SaveProfileOperationRecord}
    (hrecord : record ∈ rows store) (hpending : record.isPending = true) :
    pendingOf (rows store) = some record.operationId := by
  obtain ⟨found, hfound⟩ := Option.isSome_iff_exists.mp
    (List.find?_isSome.mpr ⟨record, hrecord, hpending⟩)
  have hsame := h.onePending found (List.mem_of_find?_eq_some hfound) record hrecord
    (List.find?_some hfound) hpending
  rw [pendingOf, hfound, Option.map_some, key_operationId hsame]

lemma new_eq_ok {capacity : ℕ} {authority : SaveProfileAuthority} {ports : Ports}
    (h : StoreSound store)
    (hnew : SaveProfileLedger.new capacity authority store ports = .ok ledger) :
    0 < capacity ∧ (rows store).length ≤ capacity ∧
      (∀ record ∈ rows store, record.request.context.instanceId = authority.instanceId) ∧
      ledger =
        { capacity, authority, store
          records := collect (rows store)
          selected := selectedOf (rows store)
          pendingSelection := pendingOf (rows store) } := by
  simp only [SaveProfileLedger.new, except_bind_eq_ok, refuse_eq_ok, not_lt] at hnew
  obtain ⟨_, hcapacity, persisted, hlist, _, hlength, _, hinstance, hledger⟩ := hnew
  obtain ⟨-, hlist⟩ := faulty_eq_ok hlist
  rw [LawfulRecordStore.list_eq h.sound] at hlist
  obtain rfl := Except.ok.inj hlist
  refine ⟨Nat.pos_of_ne_zero hcapacity, hlength, fun record hrecord => ?_,
    (Except.ok.inj hledger).symm⟩
  by_contra hne
  exact hinstance (List.any_eq_true.mpr ⟨record, hrecord, by simpa using hne⟩)

lemma tracks_new {capacity : ℕ} {authority : SaveProfileAuthority} {ports : Ports}
    (h : StoreSound store) :
    Returns (SaveProfileLedger.new capacity authority store ports) Tracks := by
  intro ledger hnew
  obtain ⟨-, -, -, rfl⟩ := new_eq_ok h hnew
  exact {
    toStoreSound := h
    mirrors := getElem?_collect (LawfulRecordStore.nodup h.sound)
    pending := fun record hrecord hpending => pendingOf_eq h hrecord hpending }

/-! ### Steps -/

/-- The records of a process. -/
def Process.rows (process : Process σ) : List SaveProfileOperationRecord :=
  LawfulRecordStore.rows process.store

def Process.Sound : Process σ → Prop
  | .running ledger => Tracks ledger
  | .stopped store => StoreSound store

lemma Process.Sound.storeSound {process : Process σ} (h : process.Sound) :
    StoreSound process.store := by
  cases process with
  | running ledger => exact h.toStoreSound
  | stopped store => exact h

lemma Tracks.performed {forwarded : Option (SaveProfileLedger σ × SaveProfileForwardRequest)}
    (hledger : Tracks ledger) (h : Performed ledger forwarded after) : Tracks after :=
  performed_keeps (P := Tracks) (fun hledger => hledger.admitted) (fun hledger => hledger.recorded)
    hledger h

lemma sound_next {process : Process σ} (h : process.Sound) (step : Step) :
    (next process step).Sound := by
  cases process with
  | running ledger =>
    cases step with
    | new capacity authority ports => exact h
    | call ports call => exact Tracks.performed h (perform_performed ledger ports call)
    | setAuthority authority => exact ⟨h.toStoreSound, h.mirrors, h.pending⟩
    | stop => exact h.toStoreSound
    | stopInSubmit ports request nowMillis activeRun forwarded =>
      rw [next]
      cases hforwards : (Call.submit request nowMillis activeRun).forwards ledger ports with
      | none => exact h.toStoreSound
      | some taken => exact (Tracks.admitted h (forwards_admitted hforwards).1).toStoreSound
  | stopped store =>
    cases step with
    | new capacity authority ports =>
      rw [next]
      cases hnew : SaveProfileLedger.new capacity authority store ports with
      | error e => exact h
      | ok ledger => exact tracks_new h ledger hnew
    | call | setAuthority | stop | stopInSubmit => exact h

/-! ### Records that stay -/

/-- What later records keep of earlier ones: the final ones, and every key. -/
structure Retains (earlier later : List SaveProfileOperationRecord) : Prop where
  final : ∀ record ∈ earlier, record.status.isUnresolved = false → record ∈ later
  keys : ∀ record ∈ earlier, ∃ other ∈ later, other.key = record.key

lemma Retains.refl (records : List SaveProfileOperationRecord) : Retains records records where
  final _ hrecord _ := hrecord
  keys record hrecord := ⟨record, hrecord, rfl⟩

lemma Retains.trans {first second third : List SaveProfileOperationRecord}
    (h : Retains first second) (h' : Retains second third) : Retains first third where
  final record hrecord hfinal := h'.final record (h.final record hrecord hfinal) hfinal
  keys record hrecord := by
    obtain ⟨other, hother, hsame⟩ := h.keys record hrecord
    obtain ⟨last, hlast, hsame'⟩ := h'.keys other hother
    exact ⟨last, hlast, hsame'.trans hsame⟩

lemma Admitted.retains {request : SaveProfileForwardRequest} (h : Admitted ledger request after)
    (hledger : Tracks ledger) : Retains (rows ledger.store) (rows after.store) := by
  obtain ⟨-, hinserted⟩ := h.inserted hledger
  have hkept : ∀ record ∈ rows ledger.store, record ∈ rows after.store :=
    fun record hrecord => (mem_inserted hinserted).mpr (.inr hrecord)
  exact ⟨fun record hrecord _ => hkept record hrecord,
    fun record hrecord => ⟨record, hkept record hrecord, rfl⟩⟩

lemma Recorded.retains {key : OperationKey} {record : SaveProfileOperationRecord}
    {result : SaveProfileResult} (h : Recorded ledger key record result after)
    (hledger : Tracks ledger) : Retains (rows ledger.store) (rows after.store) := by
  obtain ⟨-, hrows⟩ := h.replaced hledger
  obtain ⟨hmem, -⟩ := hledger.mem h.found
  have hunresolved := h.wasUnresolved hledger
  rw [hrows]
  refine ⟨fun other hother hfinal => mem_replaced_of_ne hother fun hsame => ?_,
    fun other hother => ?_⟩
  · rw [SaveProfileOperationRecord.key_withResult] at hsame
    rw [List.inj_on_of_nodup_map (LawfulRecordStore.nodup hledger.sound) hother hmem hsame,
      hunresolved] at hfinal
    cases hfinal
  · by_cases hsame : other.key = (record.withResult result).key
    · exact ⟨_, mem_replaced_self hother hsame, hsame.symm⟩
    · exact ⟨other, mem_replaced_of_ne hother hsame, rfl⟩

lemma Performed.retains {forwarded : Option (SaveProfileLedger σ × SaveProfileForwardRequest)}
    (h : Performed ledger forwarded after) (hledger : Tracks ledger) :
    Retains (rows ledger.store) (rows after.store) := by
  cases h with
  | kept => exact .refl _
  | recorded key record result recorded => exact recorded.retains hledger
  | forwarded admits => exact admits.retains hledger
  | answered admits result recorded =>
    exact (admits.retains hledger).trans (recorded.retains (hledger.admitted admits))

lemma retains_next {process : Process σ} (h : process.Sound) (step : Step) :
    Retains process.rows (next process step).rows := by
  cases process with
  | running ledger =>
    cases step with
    | call ports call => exact (perform_performed ledger ports call).retains h
    | stopInSubmit ports request nowMillis activeRun forwarded =>
      rw [next]
      cases hforwards : (Call.submit request nowMillis activeRun).forwards ledger ports with
      | none => exact .refl _
      | some taken => exact (forwards_admitted hforwards).1.retains h
    | new | setAuthority | stop => exact .refl _
  | stopped store =>
    cases step with
    | new capacity authority ports =>
      rw [next]
      cases hnew : SaveProfileLedger.new capacity authority store ports with
      | error e => exact .refl _
      | ok ledger =>
        obtain ⟨-, -, -, rfl⟩ := new_eq_ok h hnew
        exact .refl _
    | call | setAuthority | stop | stopInSubmit => exact .refl _

/-- A step that forwards a request took it on, and keeps its record. -/
lemma forwards_next {process : Process σ} (h : process.Sound) {step : Step}
    {admitted : SaveProfileLedger σ} {request : SaveProfileForwardRequest}
    (hforwards : forwards process step = some (admitted, request)) :
    (∀ record ∈ process.rows, record.key ≠ request.key) ∧
      request.accepted ∈ rows admitted.store ∧
        Retains (rows admitted.store) (next process step).rows := by
  have hadmitted : ∀ {ledger : SaveProfileLedger σ}, Tracks ledger →
      Admitted ledger request admitted →
      (∀ record ∈ rows ledger.store, record.key ≠ request.key) ∧
        request.accepted ∈ rows admitted.store := by
    intro ledger hledger hadmitted
    obtain ⟨-, hinserted⟩ := hadmitted.inserted hledger
    exact ⟨hinserted.fresh, (mem_inserted hinserted).mpr (.inl rfl)⟩
  cases process with
  | running ledger =>
    cases step with
    | call ports call =>
      have hperformed := perform_performed ledger ports call
      have hforwards : call.forwards ledger ports = some (admitted, request) := hforwards
      obtain ⟨hfresh, hstored⟩ := hadmitted h (forwards_admitted hforwards).1
      refine ⟨hfresh, hstored, ?_⟩
      change Retains _ (rows (call.perform ledger ports).ledger.store)
      rw [hforwards] at hperformed
      generalize (call.perform ledger ports).ledger = after at hperformed
      cases hperformed with
      | forwarded admits => exact .refl _
      | answered admits result recorded => exact recorded.retains (Tracks.admitted h admits)
    | stopInSubmit ports request' nowMillis activeRun forwarded =>
      rw [forwards] at hforwards
      split_ifs at hforwards
      obtain ⟨hfresh, hstored⟩ := hadmitted h (forwards_admitted hforwards).1
      refine ⟨hfresh, hstored, ?_⟩
      rw [next, hforwards]
      exact .refl _
    | new | setAuthority | stop => cases hforwards
  | stopped store => cases hforwards

/-! ### Runs -/

/-- What holds after a run over a store. -/
structure SaveProfileSafety (store : σ) (steps : List Step) : Prop where
  listed : SaveProfileRecordStore.list (run next (.stopped store) steps).store =
    .ok (run next (.stopped store) steps).rows
  forwardedOnce : (outputs next (fun process step => (forwards process step).map fun forwarded =>
    forwarded.2.key) (.stopped store) steps).Nodup
  forwardedStored : ∀ before step after, steps = before ++ step :: after →
    ∀ ledger request, forwards (run next (.stopped store) before) step = some (ledger, request) →
      SaveProfileRecordStore.list ledger.store = .ok (rows ledger.store) ∧
        request.accepted ∈ rows ledger.store
  onePending : ∀ record ∈ (run next (.stopped store) steps).rows,
    ∀ other ∈ (run next (.stopped store) steps).rows, record.isPending = true →
      other.isPending = true → record = other
  pendingSelection : ∀ ledger, run next (.stopped store) steps = .running ledger →
    ∀ record ∈ rows ledger.store, record.isPending = true →
      ledger.pendingSelection = some record.operationId
  finalKept : ∀ before after, steps = before ++ after →
    ∀ record ∈ (run next (.stopped store) before).rows, record.status.isUnresolved = false →
      record ∈ (run next (.stopped store) steps).rows
  mirrored : ∀ ledger, run next (.stopped store) steps = .running ledger →
    ∀ key, ledger.records[key]? = lookup SaveProfileOperationRecord.key (rows ledger.store) key
  settled : ∀ record ∈ (run next (.stopped store) steps).rows,
    ∀ result, record.result = some result → result.status = record.status ∧
      (result.status = .settled → Settles record.request result)

lemma sound_run {process : Process σ} (h : process.Sound) (steps : List Step) :
    (run next process steps).Sound :=
  run_invariant (P := Process.Sound) (fun _ step h => sound_next h step) h steps

lemma retains_run {process : Process σ} (h : process.Sound) (steps : List Step) :
    Retains process.rows (run next process steps).rows :=
  run_relation (P := Process.Sound) (C := fun _ _ => True)
    (R := fun process later => Retains process.rows later.rows) (fun _ => .refl _)
    (fun _ _ _ => .trans) (fun _ step h => sound_next h step)
    (fun _ step h _ => retains_next h step) h (along_of_forall fun _ _ _ _ => trivial)

/-- Every run from a sound store is safe. -/
lemma safety_of_sound {store : σ} (h : StoreSound store) (steps : List Step) :
    SaveProfileSafety store steps := by
  have hstart : (Process.stopped store).Sound := h
  have hend := (sound_run hstart steps).storeSound
  refine {
    listed := LawfulRecordStore.list_eq hend.sound
    forwardedOnce := ?_
    forwardedStored := ?_
    onePending := ?_
    pendingSelection := ?_
    finalKept := ?_
    mirrored := ?_
    settled := ?_ }
  · refine (outputs_nodup (P := Process.Sound)
      (fun process key => ∃ record ∈ process.rows, record.key = key)
      (fun _ step h => sound_next h step) ?_ ?_ hstart steps).1
    · rintro process step key hsound ⟨record, hrecord, rfl⟩
      exact (retains_next hsound step).keys record hrecord
    · intro process step key hsound hout
      obtain ⟨⟨admitted, request⟩, hforwards, rfl⟩ := Option.map_eq_some_iff.mp hout
      obtain ⟨hfresh, hstored, hretains⟩ := forwards_next hsound hforwards
      exact ⟨fun ⟨record, hrecord, hkey⟩ => hfresh record hrecord hkey,
        hretains.keys request.accepted hstored⟩
  · rintro before step after rfl ledger request hforwards
    have hsound := sound_run hstart before
    have hledger : Tracks ledger := by
      cases hprocess : run next (.stopped store) before with
      | stopped => rw [hprocess] at hforwards; cases hforwards
      | running earlier =>
        rw [hprocess] at hforwards hsound
        cases step with
        | call ports call => exact Tracks.admitted hsound (forwards_admitted hforwards).1
        | stopInSubmit ports request' nowMillis activeRun forwarded =>
          rw [forwards] at hforwards
          split_ifs at hforwards
          exact Tracks.admitted hsound (forwards_admitted hforwards).1
        | new | setAuthority | stop => cases hforwards
    exact ⟨LawfulRecordStore.list_eq hledger.sound, (forwards_next hsound hforwards).2.1⟩
  · intro record hrecord other hother hpending hpending'
    exact List.inj_on_of_nodup_map (LawfulRecordStore.nodup hend.sound) hrecord hother
      (hend.onePending record hrecord other hother hpending hpending')
  · intro ledger hledger record hrecord hpending
    have hsound := sound_run hstart steps
    rw [hledger] at hsound
    exact Tracks.pending hsound record hrecord hpending
  · rintro before after rfl record hrecord hfinal
    rw [run_append]
    exact (retains_run (sound_run hstart before) after).final record hrecord hfinal
  · intro ledger hledger
    have hsound := sound_run hstart steps
    rw [hledger] at hsound
    exact Tracks.mirrors hsound
  · intro record hrecord result hresult
    obtain ⟨hstatus, hanswers⟩ := (hend.records record hrecord).answered result hresult
    exact ⟨hstatus, hanswers.settled⟩

end Tracks

/-! ### The two stores -/

lemma storeSound_default : StoreSound InMemorySaveProfileRecordStore.default where
  sound key record hrecord := by cases hrecord
  records record hrecord := by cases hrecord
  onePending record hrecord := by cases hrecord

lemma storeSound_created (codec : RecordCodec) :
    StoreSound (SqliteSaveProfileOperationStore.created codec) where
  sound := ⟨[], SqliteSaveProfileOperationStore.written_created⟩
  records record hrecord := by cases hrecord
  onePending record hrecord := by cases hrecord

end Sts2Gateway.SaveProfile
