/-
The two record stores as lists of records under distinct keys.

* `LawfulRecordStore`: what the ledger relies on of a store;
* `keyed_insert`, `Written`: the state of each store, kept by its writes;
* `readRecords_written`: **the rows of a journal are read back, the newest first**.
-/
import Sts2Gateway.Library.Listing
import Sts2Gateway.SaveProfile.OperationStore

namespace Sts2Gateway.SaveProfile

open Procedure Listing

/-- A store that lists its records, each under its own key. -/
class LawfulRecordStore (σ : Type) [SaveProfileRecordStore σ] where
  Sound : σ → Prop
  rows : σ → List SaveProfileOperationRecord
  list_eq : ∀ {s}, Sound s → SaveProfileRecordStore.list s = .ok (rows s)
  nodup : ∀ {s}, Sound s → ((rows s).map SaveProfileOperationRecord.key).Nodup
  insert_ok : ∀ {s r t}, Sound s → SaveProfileRecordStore.insert s r = .ok t →
    Sound t ∧ Inserted SaveProfileOperationRecord.key (rows s) r (rows t)
  update_ok : ∀ {s r t}, Sound s → SaveProfileRecordStore.update s r = .ok t →
    Sound t ∧ (∃ q ∈ rows s, q.key = r.key) ∧
      rows t = replaced SaveProfileOperationRecord.key (rows s) r

/-! ### The store in memory -/

namespace InMemorySaveProfileRecordStore

variable {store : InMemorySaveProfileRecordStore}

/-- Each record is under its own key. -/
def Keyed (store : InMemorySaveProfileRecordStore) : Prop :=
  ∀ key (record : SaveProfileOperationRecord), store.records[key]? = some record →
    record.key = key

lemma keyed_insert (h : Keyed store) (record : SaveProfileOperationRecord) :
    Keyed ⟨store.records.insert record.key record⟩ := by
  intro key found hfound
  rw [OrderedMap.getElem?_insert_if] at hfound
  split_ifs at hfound with hkey
  · rw [← Option.some.inj hfound]
    exact hkey
  · exact h key found hfound

/-- The listed records. -/
def rows (store : InMemorySaveProfileRecordStore) : List SaveProfileOperationRecord :=
  store.records.toList.map Prod.snd

lemma keyed_toList (h : Keyed store) : ∀ p ∈ store.records.toList, p.2.key = p.1 :=
  fun p hp => h p.1 p.2 (Std.ExtTreeMap.mem_toList_iff_getElem?_eq_some.mp hp)

/-- The records are listed in the order of their keys. -/
lemma rows_sorted (h : Keyed store) : store.rows.Pairwise fun r q => r.key < q.key := by
  rw [rows, List.pairwise_map]
  refine Std.ExtTreeMap.ordered_keys_toList.imp_of_mem fun {p q} hp hq hlt => ?_
  rw [keyed_toList h p hp, keyed_toList h q hq]
  exact compare_lt_iff_lt.mp hlt

lemma rows_nodup (h : Keyed store) : (store.rows.map SaveProfileOperationRecord.key).Nodup := by
  rw [List.Nodup, List.pairwise_map]
  exact (rows_sorted h).imp fun hlt => ne_of_lt hlt

lemma rows_inserted (h : Keyed store) {record : SaveProfileOperationRecord}
    (hfresh : store.records[record.key]? = none) :
    Inserted SaveProfileOperationRecord.key store.rows record
      (rows ⟨store.records.insert record.key record⟩) := by
  constructor
  · intro q hq heq
    obtain ⟨p, hp, rfl⟩ := List.mem_map.mp hq
    rw [keyed_toList h p hp] at heq
    rw [← heq, Std.ExtTreeMap.mem_toList_iff_getElem?_eq_some.mp hp] at hfresh
    cases hfresh
  · obtain ⟨front, back, hlist, hafter⟩ := OrderedMap.toList_insert_of_none
      (v := record) hfresh
    refine ⟨front.map Prod.snd, back.map Prod.snd, ?_, ?_⟩
    · rw [rows, hlist, List.map_append]
    · rw [rows, hafter, List.map_append, List.map_cons]

lemma rows_replaced (h : Keyed store) {record : SaveProfileOperationRecord}
    (hpresent : record.key ∈ store.records) :
    rows ⟨store.records.insert record.key record⟩ =
      replaced SaveProfileOperationRecord.key store.rows record := by
  rw [rows, OrderedMap.toList_insert_of_mem hpresent, replaced, rows, List.map_map, List.map_map]
  refine List.map_congr_left fun p hp => ?_
  simp only [Function.comp_apply, keyed_toList h p hp]
  split_ifs <;> rfl

instance : LawfulRecordStore InMemorySaveProfileRecordStore where
  Sound := Keyed
  rows := rows
  list_eq _ := rfl
  nodup := rows_nodup
  insert_ok {s r t} h hinsert := by
    change s.insert r = .ok t at hinsert
    rw [insert] at hinsert
    obtain ⟨_, hfresh, hinserted⟩ := except_bind_eq_ok.mp hinsert
    obtain rfl := Except.ok.inj hinserted
    rw [refuse_eq_ok, Option.not_isSome_iff_eq_none] at hfresh
    exact ⟨keyed_insert h r, rows_inserted h hfresh⟩
  update_ok {s r t} h hupdate := by
    change s.update r = .ok t at hupdate
    rw [update] at hupdate
    obtain ⟨_, hpresent, hupdated⟩ := except_bind_eq_ok.mp hupdate
    obtain rfl := Except.ok.inj hupdated
    rw [refuse_eq_ok, Option.isNone_iff_eq_none] at hpresent
    obtain ⟨q, hq⟩ := Option.ne_none_iff_exists'.mp hpresent
    refine ⟨keyed_insert h r, ⟨q, ?_, h _ _ hq⟩, ?_⟩
    · exact List.mem_map.mpr
        ⟨(r.key, q), Std.ExtTreeMap.mem_toList_iff_getElem?_eq_some.mpr hq, rfl⟩
    · exact rows_replaced h (OrderedMap.mem_iff_getElem?_ne_none.mpr hpresent)

end InMemorySaveProfileRecordStore

/-! ### The journal -/

/-- The row of a record that was written. -/
structure Wrote (codec : RecordCodec) (row : OperationRow) (record : SaveProfileOperationRecord) :
    Prop where
  encoded : codec.encode record = .ok row.body
  instanceId : row.instanceId = record.request.context.instanceId
  operationId : row.operationId = record.operationId

lemma Wrote.key {codec : RecordCodec} {row : OperationRow} {record : SaveProfileOperationRecord}
    (h : Wrote codec row record) : row.key = record.key := by
  rw [OperationRow.key, h.instanceId, h.operationId]
  rfl

/-- A valid identity is a short text that is not empty. -/
lemma length_of_validIdentity {value : String}
    (h : validIdentity value saveProfileMaxIdentityBytes = true) :
    1 ≤ value.length ∧ value.length ≤ 128 := by
  simp only [validIdentity, Bool.and_eq_true, Bool.not_eq_true', decide_eq_true_eq] at h
  obtain ⟨⟨⟨⟨hempty, hbytes⟩, -⟩, -⟩, -⟩ := h
  constructor
  · rw [Nat.one_le_iff_ne_zero]
    intro hzero
    rw [String.length_eq_zero_iff] at hzero
    rw [hzero] at hempty
    exact absurd hempty (by decide)
  · exact (Text.length_le_utf8ByteSize value).trans hbytes

/-- The rows of records that were written, in the order of their sequence. -/
structure Written (codec : RecordCodec) (rows : List OperationRow)
    (records : List SaveProfileOperationRecord) : Prop where
  wrote : List.Forall₂ (Wrote codec) rows records
  nodup : (records.map SaveProfileOperationRecord.key).Nodup
  oneInstance : ∀ r ∈ records, ∀ q ∈ records,
    r.request.context.instanceId = q.request.context.instanceId
  bounded : rows.length ≤ saveProfileOperationCapacity

section Codec

variable {codec : RecordCodec} {row : OperationRow} {record : SaveProfileOperationRecord}

/-- A record that may be written has short identities. -/
lemma validate_identities (h : record.validate = .ok ()) :
    validIdentity record.request.context.instanceId saveProfileMaxIdentityBytes = true ∧
      validIdentity record.operationId saveProfileMaxIdentityBytes = true := by
  rw [SaveProfileOperationRecord.validate] at h
  obtain ⟨_, hrequest, h⟩ := except_bind_eq_ok.mp h
  obtain ⟨_, hid, -⟩ := except_bind_eq_ok.mp h
  have hid := not_not.mp (refuse_eq_ok.mp hid)
  rw [validateRequest] at hrequest
  obtain ⟨_, hcontext, hrequest⟩ := except_bind_eq_ok.mp hrequest
  obtain ⟨_, hoperation, -⟩ := except_bind_eq_ok.mp hrequest
  constructor
  · rw [mapError_eq_ok, SaveProfileContext.validate, list_forM_eq_ok] at hcontext
    have hvalid := hcontext record.request.context.instanceId (List.mem_cons_self ..)
    rw [refuse_eq_ok, not_not] at hvalid
    exact hvalid
  · rw [hid]
    rw [refuse_eq_ok, not_or, not_or, not_not] at hoperation
    have htry := hoperation.2.2
    by_contra hinvalid
    rw [SaveProfileId.tryNew, refuse, if_pos hinvalid] at htry
    cases htry

/-- A row that was written is read back. -/
lemma readRows_wrote {rows : List OperationRow} {records : List SaveProfileOperationRecord}
    (hwrote : List.Forall₂ (Wrote codec) rows records) :
    ∀ read : List SaveProfileOperationRecord,
      (∀ r ∈ read ++ records, ∀ q ∈ read ++ records,
        r.request.context.instanceId = q.request.context.instanceId) →
      readRows codec read rows = .ok (read ++ records) := by
  induction hwrote with
  | nil =>
    intro read _
    rw [readRows, List.append_nil]
  | @cons row record rows records hrow _ ih =>
    intro read hinstance
    obtain ⟨hvalid, -, hlength⟩ := RecordCodec.encode_eq_ok hrow.encoded
    obtain ⟨hinstanceId, hoperationId⟩ := validate_identities hvalid
    have hinstanceLength := length_of_validIdentity hinstanceId
    have hoperationLength := length_of_validIdentity hoperationId
    rw [← hrow.instanceId] at hinstanceLength
    rw [← hrow.operationId] at hoperationLength
    have hhead : ¬ read.head?.any (fun first =>
        decide (first.request.context.instanceId ≠ record.request.context.instanceId)) = true := by
      cases read with
      | nil => simp
      | cons first rest =>
        have hsame := hinstance first (List.mem_cons_self ..) record (by simp)
        simp [hsame]
    have hrest := ih (read ++ [record]) (by simpa using hinstance)
    rw [List.append_assoc] at hrest
    simp only [readRows, except_bind_eq_ok, refuse_eq_ok]
    refine ⟨(), ?_, record, RecordCodec.decode_encode hrow.encoded, (), ?_, (), hhead, hrest⟩
    · omega
    · simp [hrow.instanceId, hrow.operationId]

/-- **The rows of a journal are read back, the newest first.** -/
theorem readRecords_written {rows : List OperationRow} {records : List SaveProfileOperationRecord}
    (h : Written codec rows records) : readRecords codec rows = .ok records.reverse := by
  have hread := readRows_wrote (List.forall₂_reverse_iff.mpr h.wrote) [] (by
    simpa using h.oneInstance)
  rw [readRecords, except_bind_eq_ok]
  exact ⟨(), refuse_eq_ok.mpr (not_lt.mpr h.bounded), hread⟩

end Codec

namespace SqliteSaveProfileOperationStore

variable {codec : RecordCodec} {store : SqliteSaveProfileOperationStore codec}

/-- The listed records. -/
def records (store : SqliteSaveProfileOperationStore codec) : List SaveProfileOperationRecord :=
  (readRecords codec store.rows).toOption.getD []

lemma records_written {written : List SaveProfileOperationRecord}
    (h : Written codec store.rows written) : store.records = written.reverse := by
  rw [records, readRecords_written h]
  rfl

lemma written_created : Written codec (created codec).rows [] where
  wrote := .nil
  nodup := List.nodup_nil
  oneInstance := by simp
  bounded := Nat.zero_le _

/-- Insertions write the newest record. -/
lemma insert_written {record : SaveProfileOperationRecord}
    {after : SqliteSaveProfileOperationStore codec} {written : List SaveProfileOperationRecord}
    (h : Written codec store.rows written) (hinsert : store.insert record = .ok after) :
    (∀ q ∈ written, q.key ≠ record.key) ∧ Written codec after.rows (written ++ [record]) := by
  simp only [insert, except_bind_eq_ok, refuse_eq_ok, readRecords_written h, Except.ok.injEq,
    exists_eq_left', pure, Except.pure] at hinsert
  obtain ⟨body, hbody, -, -, -, hinstance, -, hfresh, -, hbounded, rfl⟩ := hinsert
  have hsame : ∀ q ∈ written,
      q.request.context.instanceId = record.request.context.instanceId := by
    intro q hq
    by_contra hne
    exact hinstance (List.any_eq_true.mpr ⟨q, List.mem_reverse.mpr hq, by simpa using hne⟩)
  have hnew : ∀ q ∈ written, q.key ≠ record.key := by
    intro q hq hkey
    have hoperation : q.operationId = record.operationId :=
      congrArg (fun key : OperationKey => (ofLex key).2) hkey
    refine hfresh (List.any_eq_true.mpr ⟨q, List.mem_reverse.mpr hq, ?_⟩)
    simp [hoperation, hsame q hq]
  refine ⟨hnew, ?_, ?_, ?_, ?_⟩
  · exact List.rel_append h.wrote (.cons ⟨hbody, rfl, rfl⟩ .nil)
  · rw [List.map_append, List.map_singleton]
    refine h.nodup.append (List.nodup_singleton _) ?_
    intro key hkey hrecord
    obtain ⟨q, hq, rfl⟩ := List.mem_map.mp hkey
    exact hnew q hq (List.mem_singleton.mp hrecord)
  · intro r hr q hq
    have hall : ∀ r ∈ written ++ [record],
        r.request.context.instanceId = record.request.context.instanceId := by
      intro r hr
      rcases List.mem_append.mp hr with hr | hr
      · exact hsame r hr
      · rw [List.mem_singleton.mp hr]
    rw [hall r hr, hall q hq]
  · have hlength := h.wrote.length_eq
    rw [List.length_reverse] at hbounded
    rw [List.length_append, List.length_singleton]
    omega

/-- The newest record is listed first. -/
lemma records_insert {record : SaveProfileOperationRecord}
    {after : SqliteSaveProfileOperationStore codec}
    (h : ∃ written, Written codec store.rows written) (hinsert : store.insert record = .ok after) :
    after.records = record :: store.records := by
  obtain ⟨written, h⟩ := h
  obtain ⟨-, hafter⟩ := insert_written h hinsert
  rw [records_written h, records_written hafter, List.reverse_append]
  rfl

/-- Updates write the record in its place. -/
lemma update_written {record : SaveProfileOperationRecord}
    {after : SqliteSaveProfileOperationStore codec} {written : List SaveProfileOperationRecord}
    (h : Written codec store.rows written) (hupdate : store.update record = .ok after) :
    (∃ q ∈ written, q.key = record.key) ∧
      Written codec after.rows (replaced SaveProfileOperationRecord.key written record) := by
  simp only [update, except_bind_eq_ok, okOr_eq_ok, readRecords_written h, Except.ok.injEq,
    exists_eq_left', pure, Except.pure] at hupdate
  obtain ⟨body, hbody, previous, hprevious, -, -, rfl⟩ := hupdate
  have hfound := List.find?_some hprevious
  simp only [Bool.and_eq_true, decide_eq_true_eq] at hfound
  have hmem := List.mem_reverse.mp (List.mem_of_find?_eq_some hprevious)
  have hkey : previous.key = record.key := by
    rw [SaveProfileOperationRecord.key, SaveProfileOperationRecord.key, hfound.1, hfound.2]
  refine ⟨⟨previous, hmem, hkey⟩, ?_, ?_, ?_, ?_⟩
  · rw [replaced, List.forall₂_map_left_iff, List.forall₂_map_right_iff]
    refine h.wrote.imp fun row q hrow => ?_
    have hiff : (row.instanceId = record.request.context.instanceId ∧
        row.operationId = record.operationId) ↔ q.key = record.key := by
      rw [hrow.instanceId, hrow.operationId, SaveProfileOperationRecord.key,
        SaveProfileOperationRecord.key, toLex_inj, Prod.mk.injEq]
    by_cases hq : q.key = record.key
    · rw [if_pos (hiff.mpr hq), if_pos hq]
      exact ⟨hbody, (hiff.mpr hq).1, (hiff.mpr hq).2⟩
    · rw [if_neg fun hrow => hq (hiff.mp hrow), if_neg hq]
      exact hrow
  · rw [map_key_replaced]
    exact h.nodup
  · have hall : ∀ r ∈ replaced SaveProfileOperationRecord.key written record,
        r.request.context.instanceId = previous.request.context.instanceId := by
      intro r hr
      rcases mem_replaced hr with rfl | ⟨hr, -⟩
      · exact hfound.2.symm
      · exact h.oneInstance r hr previous hmem
    intro r hr q hq
    rw [hall r hr, hall q hq]
  · rw [List.length_map]
    exact h.bounded

instance : LawfulRecordStore (SqliteSaveProfileOperationStore codec) where
  Sound store := ∃ written, Written codec store.rows written
  rows := records
  list_eq := by
    rintro s ⟨written, h⟩
    rw [records_written h]
    exact readRecords_written h
  nodup := by
    rintro s ⟨written, h⟩
    rw [records_written h, List.map_reverse, List.nodup_reverse]
    exact h.nodup
  insert_ok := by
    rintro s r t ⟨written, h⟩ hinsert
    obtain ⟨hfresh, hafter⟩ := insert_written h hinsert
    refine ⟨⟨_, hafter⟩, ?_, [], s.records, rfl, records_insert ⟨written, h⟩ hinsert⟩
    rw [records_written h]
    exact fun q hq => hfresh q (List.mem_reverse.mp hq)
  update_ok := by
    rintro s r t ⟨written, h⟩ hupdate
    obtain ⟨⟨q, hq, hkey⟩, hafter⟩ := update_written h hupdate
    refine ⟨⟨_, hafter⟩, ?_, ?_⟩
    · rw [records_written h]
      exact ⟨q, List.mem_reverse.mpr hq, hkey⟩
    · rw [records_written h, records_written hafter, replaced, replaced, List.map_reverse]

end SqliteSaveProfileOperationStore

end Sts2Gateway.SaveProfile
