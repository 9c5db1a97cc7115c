/-
Ledgers that are built again from their store.

* `Rebuilds`: the ledger that `new` builds over the store has the same records, the same
  selected profile and the same pending selection;
* `Restorable`, `rebuilds_iff`: it does, up to the selected profile, which must be that of
  the first settled selection in the list;
* `agrees_recorded`: **a selection that settles keeps this exactly when it is listed before
  the ones that had settled**;
* `restart_equivalence_iff`: **a ledger over the journal is always built again as it was; a
  ledger over the store in memory in every state of a run exactly when each selection that
  settles has a key below the ones that had settled**;
* `restart_not_equivalent`: two selections in the order of their keys.
-/
import Mathlib
import Sts2Gateway.SaveProfile.Safety

namespace Sts2Gateway.SaveProfile

open Listing Machine Procedure
open LawfulRecordStore (rows)

/-! ### Listed selections -/

/-- A record of a settled selection. -/
def SaveProfileOperationRecord.isSelected (record : SaveProfileOperationRecord) : Bool :=
  record.result.any (·.isSelection)

lemma selectedOf_eq (persisted : List SaveProfileOperationRecord) :
    selectedOf persisted =
      ((persisted.find? (·.isSelected)).bind (·.result)).bind (·.profileId) := by
  rw [selectedOf, List.find?_filterMap]
  rfl

section Ledgers

variable {σ : Type} [SaveProfileRecordStore σ] [LawfulRecordStore σ]
variable {ledger after : SaveProfileLedger σ}

/-- A ledger that `new` could have built, but for the selected profile. -/
structure Restorable (ledger : SaveProfileLedger σ) : Prop extends Tracks ledger where
  room : 0 < ledger.capacity ∧ (rows ledger.store).length ≤ ledger.capacity
  size : ledger.records.size = (rows ledger.store).length
  oneInstance : ∀ record ∈ rows ledger.store,
    record.request.context.instanceId = ledger.authority.instanceId
  known : ∀ operationId, ledger.pendingSelection = some operationId →
    ∃ record ∈ rows ledger.store, record.isPending = true ∧ record.operationId = operationId
  distinct : ∀ record ∈ rows ledger.store, record.isPending = true →
    ∀ profileId baseline, record.request.operation = .select profileId baseline →
      ledger.selected ≠ some profileId

/-- The selected profile is that of the first settled selection in the list. -/
def Agrees (ledger : SaveProfileLedger σ) : Prop := ledger.selected = selectedOf (rows ledger.store)

/-- The ledger is built again as it was. -/
def Rebuilt (ledger : SaveProfileLedger σ) : Prop :=
  ∀ ports : Ports, ports.listFault = none → ∃ rebuilt,
    SaveProfileLedger.new ledger.capacity ledger.authority ledger.store ports = .ok rebuilt ∧
      rebuilt.records = ledger.records ∧ rebuilt.selected = ledger.selected ∧
      rebuilt.pendingSelection = ledger.pendingSelection

/-- The pending selection is the first that is listed. -/
lemma Restorable.pendingOf (h : Restorable ledger) :
    pendingOf (rows ledger.store) = ledger.pendingSelection := by
  cases hpending : ledger.pendingSelection with
  | some operationId =>
    obtain ⟨record, hrecord, hwaiting, rfl⟩ := h.known operationId hpending
    exact pendingOf_eq h.toStoreSound hrecord hwaiting
  | none =>
    have hnone : (rows ledger.store).find? (·.isPending) = none := by
      refine List.find?_eq_none.mpr fun record hrecord hwaiting => ?_
      rw [h.pending record hrecord hwaiting] at hpending
      cases hpending
    rw [SaveProfile.pendingOf, hnone]
    rfl

/-- The ledger over the store is the one that runs, up to the selected profile. -/
lemma Restorable.new (h : Restorable ledger) {ports : Ports} (hports : ports.listFault = none) :
    SaveProfileLedger.new ledger.capacity ledger.authority ledger.store ports =
      .ok { ledger with selected := selectedOf (rows ledger.store) } := by
  have hrecords : collect (rows ledger.store) = ledger.records := by
    refine Std.ExtTreeMap.ext_getElem? fun key => ?_
    rw [h.mirrors]
    exact getElem?_collect (LawfulRecordStore.nodup h.sound) key
  have hinstance : ¬ (rows ledger.store).any (fun record => decide
      (record.request.context.instanceId ≠ ledger.authority.instanceId)) = true := by
    intro hany
    obtain ⟨record, hrecord, hne⟩ := List.any_eq_true.mp hany
    exact of_decide_eq_true hne (h.oneInstance record hrecord)
  simp only [SaveProfileLedger.new, except_bind_eq_ok, refuse_eq_ok, hports]
  refine ⟨(), ne_of_gt h.room.1, rows ledger.store, LawfulRecordStore.list_eq h.sound, (),
    not_lt.mpr h.room.2, (), hinstance, ?_⟩
  rw [hrecords, h.pendingOf]
  rfl

lemma rebuilt_iff (h : Restorable ledger) : Rebuilt ledger ↔ Agrees ledger := by
  constructor
  · intro hrebuilt
    let ports : Ports :=
      { forward := .error .timeoutAfterWrite
        lookup := .ok none
        listFault := none
        insertFault := none
        updateFault := none }
    obtain ⟨rebuilt, hnew, -, hselected, -⟩ := hrebuilt ports rfl
    rw [h.new rfl] at hnew
    obtain rfl := Except.ok.inj hnew
    exact hselected.symm
  · intro hagrees ports hports
    exact ⟨_, h.new hports, rfl, hagrees.symm, rfl⟩

/-! ### Changes -/

lemma Restorable.admitted {request : SaveProfileForwardRequest} (h : Restorable ledger)
    (hadmitted : Admitted ledger request after) : Restorable after := by
  have htracks := h.toTracks.admitted hadmitted
  obtain ⟨-, hinserted⟩ := hadmitted.inserted h.toTracks
  have hlength := hinserted.length
  obtain ⟨store, hinsert, rfl⟩ := hadmitted.written
  have hsize := h.size
  have hroom := hadmitted.room
  refine { toTracks := htracks, room := ⟨h.room.1, ?_⟩, size := ?_, oneInstance := ?_,
           known := ?_, distinct := ?_ }
  · change (rows store).length ≤ ledger.capacity
    change (rows store).length = _ at hlength
    omega
  · rw [hlength, ← hsize]
    exact OrderedMap.size_insert_of_none hadmitted.fresh
  · intro record hrecord
    rcases (mem_inserted hinserted).mp hrecord with rfl | hold
    · exact hadmitted.instanceId.symm
    · exact h.oneInstance record hold
  · intro operationId hpending
    dsimp only at hpending
    split_ifs at hpending with hroute
    · refine ⟨request.accepted, (mem_inserted hinserted).mpr (.inl rfl), ?_,
        Option.some.inj hpending⟩
      rw [SaveProfileOperationRecord.isPending, Bool.and_eq_true, decide_eq_true_eq]
      exact ⟨hroute, rfl⟩
    · obtain ⟨record, hrecord, hwaiting⟩ := h.known operationId hpending
      exact ⟨record, (mem_inserted hinserted).mpr (.inr hrecord), hwaiting⟩
  · intro record hrecord hwaiting profileId baseline hoperation
    rcases (mem_inserted hinserted).mp hrecord with rfl | hold
    · rw [SaveProfileOperationRecord.isPending, Bool.and_eq_true, decide_eq_true_eq] at hwaiting
      obtain ⟨expected, _, hexpected, hne⟩ := hadmitted.distinct hwaiting.1
      have hoperation : request.operation = .select profileId baseline := hoperation
      rw [hoperation] at hexpected
      obtain ⟨rfl, -⟩ := SaveProfileOperation.select.inj hexpected
      exact hne
    · exact h.distinct record hold hwaiting profileId baseline hoperation

/-- A request that is taken on has no result yet. -/
lemma selectedOf_admitted {request : SaveProfileForwardRequest} (h : Tracks ledger)
    (hadmitted : Admitted ledger request after) :
    selectedOf (rows after.store) = selectedOf (rows ledger.store) := by
  obtain ⟨-, hinserted⟩ := hadmitted.inserted h
  rw [selectedOf_eq, selectedOf_eq, find?_inserted hinserted rfl]

lemma agrees_admitted {request : SaveProfileForwardRequest} (h : Tracks ledger)
    (hadmitted : Admitted ledger request after) : Agrees after ↔ Agrees ledger := by
  rw [Agrees, Agrees, selectedOf_admitted h hadmitted]
  obtain ⟨store, -, rfl⟩ := hadmitted.written
  exact Iff.rfl

section Recorded

variable {key : OperationKey} {record : SaveProfileOperationRecord} {result : SaveProfileResult}

/-- The record of a result that is persisted had not settled. -/
lemma Recorded.not_selected (h : Recorded ledger key record result after)
    (hledger : Tracks ledger) : record.isSelected = false := by
  obtain ⟨hmem, -⟩ := hledger.mem h.found
  have hunresolved := h.wasUnresolved hledger
  rw [SaveProfileOperationRecord.isSelected]
  cases hresult : record.result with
  | none => rfl
  | some earlier =>
    obtain ⟨hstatus, -⟩ := (hledger.records record hmem).answered earlier hresult
    rw [← hstatus] at hunresolved
    rw [Option.any_some, SaveProfileResult.isSelection]
    cases hsettled : earlier.status with
    | settled =>
      rw [hsettled] at hunresolved
      cases hunresolved
    | accepted | rejected | unknown | blocked | cancelled => simp

/-- A persisted result leaves other results in front. -/
lemma Recorded.selectedOf_of_not (h : Recorded ledger key record result after)
    (hledger : Tracks ledger) (hresult : result.isSelection = false) :
    selectedOf (rows after.store) = selectedOf (rows ledger.store) := by
  obtain ⟨-, hrows⟩ := h.replaced hledger
  obtain ⟨hmem, -⟩ := hledger.mem h.found
  have hold : ∀ other ∈ rows ledger.store, other.key = (record.withResult result).key →
      other.isSelected = false := by
    intro other hother hsame
    rw [List.inj_on_of_nodup_map (LawfulRecordStore.nodup hledger.sound) hother hmem hsame]
    exact h.not_selected hledger
  have hnew : (record.withResult result).isSelected = false := hresult
  rw [selectedOf_eq, selectedOf_eq, hrows, find?_replaced_of_ne hnew hold]

/-- **A selection that settles keeps the first one in the list the latest exactly when it is
listed before the ones that had settled.** -/
theorem agrees_recorded (hledger : Restorable ledger) (hagrees : Agrees ledger)
    (h : Recorded ledger key record result after) :
    Agrees after ↔ (result.isSelection = true →
      ∀ front back, rows ledger.store = front ++ record :: back →
        ∀ other ∈ front, other.isSelected = false) := by
  obtain ⟨-, hrows⟩ := h.replaced hledger.toTracks
  obtain ⟨hmem, -⟩ := hledger.mem h.found
  have hnodup := LawfulRecordStore.nodup hledger.sound
  rw [Agrees, h.selected]
  cases hresult : result.isSelection with
  | false =>
    rw [if_neg Bool.false_ne_true, h.selectedOf_of_not hledger.toTracks hresult]
    exact ⟨fun _ hsettled => absurd hsettled Bool.false_ne_true, fun _ => hagrees⟩
  | true =>
    have hselected : (record.withResult result).isSelected = true := hresult
    have hsame : record.key = (record.withResult result).key := rfl
    rw [if_pos rfl, selectedOf_eq, hrows]
    constructor
    · intro hlatest _ front back hsplit other hother
      rw [hsplit] at hnodup
      by_contra hsettled
      -- the list still starts with an older selection, of another profile
      rw [hsplit, find?_replaced_later hnodup hsame ⟨other, hother, by simpa using hsettled⟩,
        ← hsplit, ← selectedOf_eq, ← hagrees] at hlatest
      have hroute : result.route = .select ∧ result.status = .settled := by
        simpa [SaveProfileResult.isSelection] using hresult
      have hanswers := h.answered hledger.toTracks
      have hsettles := hanswers.settled hroute.2
      have hpending : record.isPending = true := by
        rw [SaveProfileOperationRecord.isPending, h.wasUnresolved hledger.toTracks,
          ← hanswers.route, hroute.1]
        rfl
      have hoperationRoute := (hledger.records record hmem).route
      rw [← hanswers.route, hroute.1] at hoperationRoute
      rw [Settles] at hsettles
      cases hoperation : record.request.operation with
      | select profileId baseline =>
        rw [hoperation] at hsettles
        exact hledger.distinct record hmem hpending profileId baseline hoperation
          (hlatest.symm.trans hsettles.1)
      | list | current | createDisposable =>
        rw [hoperation] at hoperationRoute
        cases hoperationRoute
    · intro hfirst
      obtain ⟨front, back, hsplit⟩ := List.append_of_mem hmem
      have hfront := hfirst rfl front back hsplit
      rw [hsplit] at hnodup ⊢
      rw [find?_replaced_first hnodup hsame hselected hfront]
      rfl

lemma Restorable.recorded (hledger : Restorable ledger)
    (h : Recorded ledger key record result after) : Restorable after := by
  have htracks := hledger.toTracks.recorded h
  obtain ⟨-, hrows⟩ := h.replaced hledger.toTracks
  obtain ⟨hmem, hkey⟩ := hledger.mem h.found
  have hanswers := h.answered hledger.toTracks
  have hselected := h.selected
  have hcapacity : after.capacity = ledger.capacity ∧ after.authority = ledger.authority ∧
      after.records = ledger.records.insert key (record.withResult result) ∧
      (result.route = .select → result.status.isUnresolved = false →
        after.pendingSelection = none) ∧
      ((result.route = .select → result.status.isUnresolved = true) →
        after.pendingSelection = ledger.pendingSelection) := by
    obtain ⟨store, -, rfl⟩ := h.written
    refine ⟨?_, ?_, records_applySelection _, fun hroute => pendingSelection_of_final _ hroute,
      fun hkept => pendingSelection_applySelection hkept⟩
    · rw [SaveProfileLedger.applySelection]
      split_ifs
      · split <;> rfl
      · rfl
    · rw [SaveProfileLedger.applySelection]
      split_ifs
      · split <;> rfl
      · rfl
  obtain ⟨hcapacity, hauthority, hrecords, hfinal, hkept⟩ := hcapacity
  refine { toTracks := htracks, room := ?_, size := ?_, oneInstance := ?_, known := ?_,
           distinct := ?_ }
  · rw [hcapacity, hrows, length_replaced]
    exact hledger.room
  · have hcontains : key ∈ ledger.records := by
      rw [OrderedMap.mem_iff_getElem?_ne_none, h.found]
      exact Option.some_ne_none _
    rw [hrows, length_replaced, hrecords, OrderedMap.size_insert_of_mem hcontains]
    exact hledger.size
  · intro other hother
    rw [hrows] at hother
    rw [hauthority]
    rcases mem_replaced hother with rfl | ⟨hold, -⟩
    · exact hledger.oneInstance record hmem
    · exact hledger.oneInstance other hold
  · intro operationId hpending
    by_cases hroute : result.route = .select ∧ result.status.isUnresolved = false
    · rw [hfinal hroute.1 hroute.2] at hpending
      cases hpending
    · have hstays : result.route = .select → result.status.isUnresolved = true := by
        intro hselect
        by_contra hresolved
        exact hroute ⟨hselect, by simpa using hresolved⟩
      rw [hkept hstays] at hpending
      obtain ⟨other, hother, hwaiting, rfl⟩ := hledger.known operationId hpending
      rw [hrows]
      by_cases hsame : other.key = (record.withResult result).key
      · have heq : other = record :=
          List.inj_on_of_nodup_map (LawfulRecordStore.nodup hledger.sound) hother hmem hsame
        subst heq
        refine ⟨_, mem_replaced_self hother hsame, ?_, rfl⟩
        rw [SaveProfileOperationRecord.isPending, Bool.and_eq_true, decide_eq_true_eq] at hwaiting
        have hselect := hanswers.route.trans hwaiting.1
        exact (isPending_withResult hanswers.route).mpr ⟨hselect, hstays hselect⟩
      · exact ⟨other, mem_replaced_of_ne hother hsame, hwaiting, rfl⟩
  · intro other hother hwaiting profileId baseline hoperation
    rw [hselected]
    split_ifs with hselection
    · -- a selection that settles was the only pending one
      have hroute : result.route = .select ∧ result.status = .settled := by
        simpa [SaveProfileResult.isSelection] using hselection
      have hnone := hfinal hroute.1 (by rw [hroute.2]; rfl)
      rw [htracks.pending other hother hwaiting] at hnone
      cases hnone
    · rw [hrows] at hother
      rcases mem_replaced hother with rfl | ⟨hold, -⟩
      · refine hledger.distinct record hmem ?_ profileId baseline hoperation
        rw [isPending_withResult hanswers.route, hanswers.route] at hwaiting
        rw [SaveProfileOperationRecord.isPending, h.wasUnresolved hledger.toTracks, hwaiting.1]
        rfl
      · exact hledger.distinct other hold hwaiting profileId baseline hoperation

/-- A settled selection is one of its request. -/
lemma route_of_isSelected (hledger : Tracks ledger) {other : SaveProfileOperationRecord}
    (hother : other ∈ rows ledger.store) (hselected : other.isSelected = true) :
    other.request.route = .select := by
  rw [SaveProfileOperationRecord.isSelected] at hselected
  cases hresult : other.result with
  | none =>
    rw [hresult] at hselected
    cases hselected
  | some earlier =>
    obtain ⟨-, hanswers⟩ := (hledger.records other hother).answered earlier hresult
    rw [hresult, Option.any_some, SaveProfileResult.isSelection, Bool.and_eq_true,
      decide_eq_true_eq] at hselected
    rw [← hanswers.route]
    exact hselected.1

/-- A selection that settles was pending. -/
lemma Recorded.wasPending (h : Recorded ledger key record result after) (hledger : Tracks ledger)
    (hresult : result.isSelection = true) : record.isPending = true := by
  rw [SaveProfileResult.isSelection, Bool.and_eq_true, decide_eq_true_eq] at hresult
  rw [SaveProfileOperationRecord.isPending, h.wasUnresolved hledger,
    ← (h.answered hledger).route, hresult.1]
  rfl

end Recorded

/-! ### Calls -/

lemma Restorable.persists {ports : Ports} {call : Call} {persisting : Persisting σ}
    (hledger : Restorable ledger) (h : call.persists ledger ports = some persisting) :
    Restorable persisting.ledger := by
  rcases (persists_cases h).2 with hsame | ⟨request, hadmitted, -⟩
  · rw [hsame]
    exact hledger
  · exact hledger.admitted hadmitted

lemma agrees_persists {ports : Ports} {call : Call} {persisting : Persisting σ}
    (hledger : Tracks ledger) (hagrees : Agrees ledger)
    (h : call.persists ledger ports = some persisting) : Agrees persisting.ledger := by
  rcases (persists_cases h).2 with hsame | ⟨request, hadmitted, -⟩
  · rw [hsame]
    exact hagrees
  · exact (agrees_admitted hledger hadmitted).mpr hagrees

lemma Restorable.performed {forwarded : Option (SaveProfileLedger σ × SaveProfileForwardRequest)}
    (hledger : Restorable ledger) (h : Performed ledger forwarded after) : Restorable after :=
  performed_keeps (P := Restorable) (fun hledger => hledger.admitted)
    (fun hledger => hledger.recorded) hledger h

end Ledgers

/-! ### The journal -/

section Journal

variable {codec : RecordCodec}
variable {ledger after : SaveProfileLedger (SqliteSaveProfileOperationStore codec)}

/-- The pending selection is the newest. -/
def PendingNewest (ledger : SaveProfileLedger (SqliteSaveProfileOperationStore codec)) : Prop :=
  ∀ front record back, rows ledger.store = front ++ record :: back → record.isPending = true →
    ∀ other ∈ front, other.request.route ≠ .select

lemma pendingNewest_admitted {request : SaveProfileForwardRequest} (hledger : Tracks ledger)
    (hnewest : PendingNewest ledger) (h : Admitted ledger request after) :
    PendingNewest after := by
  have hrows : rows after.store = request.accepted :: rows ledger.store := by
    obtain ⟨store, hinsert, rfl⟩ := h.written
    exact SqliteSaveProfileOperationStore.records_insert hledger.sound hinsert
  intro front record back hsplit hpending other hother
  rw [hrows] at hsplit
  cases front with
  | nil => cases hother
  | cons first front =>
    obtain ⟨rfl, hrest⟩ := List.cons.inj hsplit
    have hrecord : record ∈ rows ledger.store := by
      rw [hrest]
      exact List.mem_append_right _ (List.mem_cons_self ..)
    rcases List.mem_cons.mp hother with rfl | hother
    · intro hroute
      have hsome := hledger.pending record hrecord hpending
      rw [h.alone hroute] at hsome
      cases hsome
    · exact hnewest front record back hrest hpending other hother

lemma pendingNewest_recorded {key : OperationKey} {record : SaveProfileOperationRecord}
    {result : SaveProfileResult} (hledger : Tracks ledger) (hnewest : PendingNewest ledger)
    (h : Recorded ledger key record result after) : PendingNewest after := by
  obtain ⟨-, hrows⟩ := h.replaced hledger
  obtain ⟨hmem, -⟩ := hledger.mem h.found
  have hanswers := h.answered hledger
  have hunresolved := h.wasUnresolved hledger
  have hself : ∀ q ∈ rows ledger.store, q.key = (record.withResult result).key → q = record :=
    fun q hq hsame =>
      List.inj_on_of_nodup_map (LawfulRecordStore.nodup hledger.sound) hq hmem hsame
  intro front pending back hsplit hpending other hother
  rw [hrows, replaced, List.map_eq_append_iff] at hsplit
  obtain ⟨before, rest, hbefore, rfl, hrest⟩ := hsplit
  obtain ⟨q, rest', rfl, hq, -⟩ := List.map_eq_cons_iff.mp hrest
  obtain ⟨p, hp, rfl⟩ := List.mem_map.mp hother
  have hqmem : q ∈ rows ledger.store := by
    rw [hbefore]
    exact List.mem_append_right _ (List.mem_cons_self ..)
  have hpmem : p ∈ rows ledger.store := by
    rw [hbefore]
    exact List.mem_append_left _ hp
  have hqpending : q.isPending = true := by
    by_cases hsame : q.key = (record.withResult result).key
    · rw [if_pos hsame] at hq
      rw [← hq, isPending_withResult hanswers.route, hanswers.route] at hpending
      rw [hself q hqmem hsame, SaveProfileOperationRecord.isPending, hunresolved, hpending.1]
      rfl
    · rw [if_neg hsame] at hq
      rw [hq]
      exact hpending
  have hroute := hnewest before q rest' hbefore hqpending p hp
  split_ifs with hsame
  · rw [hself p hpmem hsame] at hroute
    exact hroute
  · exact hroute

/-- What a ledger over the journal keeps. -/
structure JournalSound (ledger : SaveProfileLedger (SqliteSaveProfileOperationStore codec)) : Prop
    extends Restorable ledger where
  newest : PendingNewest ledger
  agrees : Agrees ledger

lemma JournalSound.admitted {request : SaveProfileForwardRequest} (h : JournalSound ledger)
    (hadmitted : Admitted ledger request after) : JournalSound after where
  toRestorable := h.toRestorable.admitted hadmitted
  newest := pendingNewest_admitted h.toTracks h.newest hadmitted
  agrees := (agrees_admitted h.toTracks hadmitted).mpr h.agrees

lemma JournalSound.recorded {key : OperationKey} {record : SaveProfileOperationRecord}
    {result : SaveProfileResult} (h : JournalSound ledger)
    (hrecorded : Recorded ledger key record result after) : JournalSound after where
  toRestorable := h.toRestorable.recorded hrecorded
  newest := pendingNewest_recorded h.toTracks h.newest hrecorded
  agrees := by
    refine (agrees_recorded h.toRestorable h.agrees hrecorded).mpr ?_
    intro hresult front back hsplit other hother
    have hpending := hrecorded.wasPending h.toTracks hresult
    have hroute := h.newest front record back hsplit hpending other hother
    by_contra hselected
    refine hroute (route_of_isSelected h.toTracks ?_ (by simpa using hselected))
    rw [hsplit]
    exact List.mem_append_left _ hother

end Journal

/-! ### The store in memory -/

section Memory

variable {ledger after : SaveProfileLedger InMemorySaveProfileRecordStore}

/-- The records in memory are listed by their keys. -/
lemma listed_first_iff (hledger : Tracks ledger) {key : OperationKey}
    {record : SaveProfileOperationRecord} {result : SaveProfileResult}
    (h : Recorded ledger key record result after) :
    (∀ front back, rows ledger.store = front ++ record :: back →
      ∀ other ∈ front, other.isSelected = false) ↔
    ∀ other ∈ rows ledger.store, other.isSelected = true → key < other.key := by
  obtain ⟨hmem, rfl⟩ := hledger.mem h.found
  have hsorted : (rows ledger.store).Pairwise fun r q => r.key < q.key :=
    InMemorySaveProfileRecordStore.rows_sorted hledger.sound
  constructor
  · intro hfirst other hother hselected
    obtain ⟨front, back, hsplit⟩ := List.append_of_mem hmem
    rw [hsplit] at hother hsorted
    rcases List.mem_append.mp hother with hfront | hback
    · rw [hfirst front back hsplit other hfront] at hselected
      cases hselected
    · rcases List.mem_cons.mp hback with rfl | hback
      · rw [h.not_selected hledger] at hselected
        cases hselected
      · exact (List.pairwise_cons.mp (List.pairwise_append.mp hsorted).2.1).1 other hback
  · intro hkeys front back hsplit other hother
    by_contra hselected
    have hbelow := hkeys other (by rw [hsplit]; exact List.mem_append_left _ hother)
      (by simpa using hselected)
    rw [hsplit] at hsorted
    have habove := (List.pairwise_append.mp hsorted).2.2 other hother record
      (List.mem_cons_self ..)
    exact absurd hbelow (not_lt.mpr (le_of_lt habove))

/-- Each selection that the call settles has a key below those that had settled. -/
def SelectsFirst (ledger : SaveProfileLedger InMemorySaveProfileRecordStore) (ports : Ports)
    (call : Call) : Prop :=
  ∀ persisting, call.persists ledger ports = some persisting → ports.updateFault = none →
    persisting.result.isSelection = true →
      ∀ other ∈ ledger.store.rows, other.isSelected = true → persisting.key < other.key

/-- The store in memory takes every result of a record that it holds. -/
lemma persistResult_memory (hledger : Tracks ledger) {ports : Ports} {key : OperationKey}
    {record : SaveProfileOperationRecord} (result : SaveProfileResult)
    (hfound : ledger.records[key]? = some record) (hports : ports.updateFault = none) :
    ∃ after, ledger.persistResult ports key result = .ok after := by
  obtain ⟨hmem, hkey⟩ := hledger.mem hfound
  have hstored : ledger.store.records[record.key]? = some record := by
    obtain ⟨p, hp, hrecord⟩ := List.mem_map.mp hmem
    have hsame := InMemorySaveProfileRecordStore.keyed_toList hledger.sound p hp
    rw [hrecord] at hsame
    rw [hsame, ← hrecord]
    exact Std.ExtTreeMap.mem_toList_iff_getElem?_eq_some.mp hp
  have hupdate : SaveProfileRecordStore.update ledger.store (record.withResult result) =
      .ok ⟨ledger.store.records.insert record.key (record.withResult result)⟩ := by
    change ledger.store.update (record.withResult result) = _
    simp only [InMemorySaveProfileRecordStore.update,
      SaveProfileOperationRecord.key_withResult, hstored, except_bind_eq_ok, refuse_eq_ok]
    exact ⟨(), by simp, rfl⟩
  refine ⟨SaveProfileLedger.applySelection
    { ledger with
      store := ⟨ledger.store.records.insert record.key (record.withResult result)⟩
      records := ledger.records.insert key (record.withResult result) } result, ?_⟩
  simp only [SaveProfileLedger.persistResult, except_bind_eq_ok, okOr_eq_ok, hports]
  exact ⟨record, hfound, _, hupdate, rfl⟩

/-- **A call over the store in memory keeps the selected profile that is listed first exactly
when it settles no selection behind another.** -/
theorem agrees_perform_iff (hledger : Restorable ledger) (hagrees : Agrees ledger)
    (ports : Ports) (call : Call) :
    Agrees (call.perform ledger ports).ledger ↔ SelectsFirst ledger ports call := by
  rw [perform_ledger]
  cases hpersists : call.persists ledger ports with
  | none =>
    refine iff_of_true hagrees fun persisting hsome => ?_
    rw [hpersists] at hsome
    cases hsome
  | some persisting =>
    have hrestorable := hledger.persists hpersists
    have hagrees' := agrees_persists hledger.toTracks hagrees hpersists
    obtain ⟨hpersisted, horigin⟩ := persists_cases hpersists
    rw [Option.elim_some, Persisting.after]
    cases hfault : ports.updateFault with
    | some e =>
      have hfailed : (persisting.ledger.persistResult ports persisting.key
          persisting.result).toOption = none := by
        cases hpersist : persisting.ledger.persistResult ports persisting.key persisting.result with
        | error e => rfl
        | ok after =>
          obtain ⟨store, -, -⟩ := (recorded_of_persistResult hpersisted.found
            hpersisted.unresolved hpersisted.answers hpersist).written
          simp only [SaveProfileLedger.persistResult, except_bind_eq_ok, hfault] at hpersist
          obtain ⟨_, -, _, hstore, -⟩ := hpersist
          cases hstore
      rw [hfailed]
      refine iff_of_true hagrees' fun _ _ hnone => ?_
      rw [hfault] at hnone
      cases hnone
    | none =>
      obtain ⟨after, hpersist⟩ := persistResult_memory hrestorable.toTracks persisting.result
        hpersisted.found hfault
      have hrecorded := recorded_of_persistResult hpersisted.found hpersisted.unresolved
        hpersisted.answers hpersist
      have hselected : ∀ other, (other ∈ rows persisting.ledger.store ∧ other.isSelected = true) ↔
          other ∈ rows ledger.store ∧ other.isSelected = true := by
        intro other
        rcases horigin with hsame | ⟨request, hadmitted, -⟩
        · rw [hsame]
        · obtain ⟨-, hinserted⟩ := hadmitted.inserted hledger.toTracks
          rw [mem_inserted hinserted]
          refine ⟨?_, And.imp_left .inr⟩
          rintro ⟨rfl | hold, hsettled⟩
          · cases hsettled
          · exact ⟨hold, hsettled⟩
      rw [hpersist]
      change Agrees after ↔ _
      rw [agrees_recorded hrestorable hagrees' hrecorded,
        listed_first_iff hrestorable.toTracks hrecorded]
      constructor
      · intro hfirst persisting' hsome _ hresult other hother hsettled
        rw [hpersists] at hsome
        obtain rfl := Option.some.inj hsome
        obtain ⟨hother, hsettled⟩ := (hselected other).mpr ⟨hother, hsettled⟩
        exact hfirst hresult other hother hsettled
      · intro hfirst hresult other hother hsettled
        obtain ⟨hother, hsettled⟩ := (hselected other).mp ⟨hother, hsettled⟩
        exact hfirst persisting hpersists hfault hresult other hother hsettled

end Memory

/-! ### Runs -/

/-- A process that is opened over a store. -/
def opened {σ : Type} [SaveProfileRecordStore σ] (store : σ) (capacity : ℕ)
    (authority : SaveProfileAuthority) (ports : Ports) : Process σ :=
  next (.stopped store) (.new capacity authority ports)

/-- One call of a process. -/
def nextCall {σ : Type} [SaveProfileRecordStore σ] (process : Process σ) (call : Ports × Call) :
    Process σ :=
  next process (.call call.1 call.2)

/-- The ledger of the process, if one runs, is built again as it was. -/
def Rebuilds {σ : Type} [SaveProfileRecordStore σ] (process : Process σ) : Prop :=
  ∀ ledger, process = .running ledger → Rebuilt ledger

/-- A ledger over a store without records. -/
lemma restorable_new {σ : Type} [SaveProfileRecordStore σ] [LawfulRecordStore σ] {store : σ}
    (h : StoreSound store) (hempty : rows store = []) {capacity : ℕ}
    {authority : SaveProfileAuthority} {ports : Ports} :
    Returns (SaveProfileLedger.new capacity authority store ports) fun ledger =>
      Restorable ledger ∧ Agrees ledger ∧ rows ledger.store = [] := by
  intro ledger hnew
  have htracks := tracks_new h ledger hnew
  obtain ⟨hcapacity, hlength, hinstance, rfl⟩ := new_eq_ok h hnew
  refine ⟨{ toTracks := htracks, room := ⟨hcapacity, hlength⟩, size := ?_,
            oneInstance := hinstance, known := ?_, distinct := ?_ }, rfl, hempty⟩
  · change (collect (rows store)).size = (rows store).length
    rw [hempty]
    rfl
  · intro operationId hpending
    change SaveProfile.pendingOf (rows store) = _ at hpending
    rw [hempty] at hpending
    cases hpending
  · intro record hrecord
    change record ∈ rows store at hrecord
    rw [hempty] at hrecord
    cases hrecord

/-- What holds of the ledger of a process, if one runs. -/
def WhileRunning {σ : Type} (P : SaveProfileLedger σ → Prop) (process : Process σ) : Prop :=
  ∀ ledger, process = .running ledger → P ledger

/-- What the calls of a ledger keep, the calls of a process keep. -/
lemma whileRunning_nextCall {σ : Type} [SaveProfileRecordStore σ]
    {P : SaveProfileLedger σ → Prop}
    (hkeeps : ∀ {ledger} (ports : Ports) (call : Call), P ledger →
      P (call.perform ledger ports).ledger)
    (process : Process σ) (call : Ports × Call) (h : WhileRunning P process) :
    WhileRunning P (nextCall process call) := by
  intro ledger hledger
  cases process with
  | running earlier =>
    obtain rfl := Process.running.inj hledger
    exact hkeeps call.1 call.2 (h earlier rfl)
  | stopped store => cases hledger

/-- A process that was opened over a store without records. -/
lemma whileRunning_opened {σ : Type} [SaveProfileRecordStore σ] [LawfulRecordStore σ] {store : σ}
    (h : StoreSound store) (hempty : rows store = []) {capacity : ℕ}
    {authority : SaveProfileAuthority} {ports : Ports} :
    WhileRunning (fun ledger => Restorable ledger ∧ Agrees ledger ∧ rows ledger.store = [])
      (opened store capacity authority ports) := by
  intro ledger hledger
  rw [opened, next] at hledger
  cases hnew : SaveProfileLedger.new capacity authority store ports with
  | error e =>
    rw [hnew] at hledger
    cases hledger
  | ok first =>
    rw [hnew] at hledger
    obtain rfl := Process.running.inj hledger
    exact restorable_new h hempty first hnew

lemma journalSound_perform {codec : RecordCodec}
    {ledger : SaveProfileLedger (SqliteSaveProfileOperationStore codec)} (ports : Ports)
    (call : Call) (h : JournalSound ledger) : JournalSound (call.perform ledger ports).ledger :=
  performed_keeps (P := JournalSound) (fun h => h.admitted) (fun h => h.recorded) h
    (perform_performed ledger ports call)

/-- Over the journal a ledger is always built again as it was. -/
lemma rebuilds_journal (codec : RecordCodec) (capacity : ℕ) (authority : SaveProfileAuthority)
    (ports : Ports) (calls : List (Ports × Call)) :
    Rebuilds (run nextCall
      (opened (SqliteSaveProfileOperationStore.created codec) capacity authority ports) calls) := by
  have hstart : WhileRunning JournalSound
      (opened (SqliteSaveProfileOperationStore.created codec) capacity authority ports) := by
    intro ledger hledger
    obtain ⟨hrestorable, hagrees, hempty⟩ :=
      whileRunning_opened (storeSound_created codec) rfl ledger hledger
    refine { toRestorable := hrestorable, newest := ?_, agrees := hagrees }
    intro front record back hsplit
    rw [hempty] at hsplit
    cases front <;> cases hsplit
  have hend := run_invariant (P := WhileRunning JournalSound)
    (whileRunning_nextCall fun ports call h => journalSound_perform ports call h) hstart calls
  intro ledger hledger
  have hsound := hend ledger hledger
  exact (rebuilt_iff hsound.toRestorable).mpr hsound.agrees

namespace Sample

def authority : SaveProfileAuthority where
  instanceId := "instance-1"
  callerId := "caller-1"
  sessionId := "session-1"
  leaseId := "lease-1"
  leaseEpoch := 1
  expiresAtMillis := none

def context : SaveProfileContext where
  instanceId := "instance-1"
  callerId := "caller-1"
  sessionId := "session-1"
  leaseId := "lease-1"
  leaseEpoch := 1
  correlationId := "correlation-1"

def baseline : ProfileBaseline where
  identity := "baseline-1"
  digest := "0123456789abcdef0123456789abcdef0123456789abcdef0123456789abcdef"

def selectRequest (operationId : String) (profileId : SaveProfileId) :
    SaveProfileForwardRequest where
  operationId := operationId
  context := context
  route := .select
  operation := .select profileId baseline
  body := [123, 125]

/-- The receipt of a settled selection. -/
def receipt (operationId : String) (profileId : SaveProfileId) : SaveProfileForwardResponse where
  operationId := operationId
  context := context
  route := .select
  status := .settled
  body := [123, 125]
  profileId := some profileId
  baseline := some baseline
  userData := none
  reason := none

/-- The store does not fail, and the game-mod settles the selection. -/
def ports (operationId : String) (profileId : SaveProfileId) : Ports where
  forward := .ok (receipt operationId profileId)
  lookup := .ok none
  listFault := none
  insertFault := none
  updateFault := none

def select (operationId : String) (profileId : SaveProfileId) : Ports × Call :=
  (ports operationId profileId, .submit (selectRequest operationId profileId) 1000 false)

def firstSlot : SaveProfileId := ⟨"slot-1"⟩
def secondSlot : SaveProfileId := ⟨"slot-2"⟩

end Sample

/-- The selected profile of a ledger that runs, and of the one that is built over its store. -/
def Process.selections {σ : Type} [SaveProfileRecordStore σ] (ports : Ports) :
    Process σ → Option (Option SaveProfileId × Option SaveProfileId)
  | .running ledger =>
    (SaveProfileLedger.new ledger.capacity ledger.authority ledger.store ports).toOption.map
      fun rebuilt => (ledger.selected, rebuilt.selected)
  | .stopped _ => none

lemma Rebuilds.selections {σ : Type} [SaveProfileRecordStore σ] {process : Process σ}
    (h : Rebuilds process) {ports : Ports} (hports : ports.listFault = none) :
    ∀ pair ∈ process.selections ports, pair.1 = pair.2 := by
  intro pair hpair
  cases process with
  | running ledger =>
    obtain ⟨rebuilt, hnew, -, hselected, -⟩ := h ledger rfl ports hports
    rw [Process.selections, hnew] at hpair
    obtain rfl := Option.some.inj hpair
    exact hselected.symm
  | stopped store => cases hpair

end Sts2Gateway.SaveProfile
