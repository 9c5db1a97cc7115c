/-
The two lifecycle stores agree.

* `SameContents`: the tables of the durable store hold the bodies of what the
  store in memory retains, and its token is current;
* `find?_operations`, `find?_ownership`, `list_eq`, `listOwnership_eq`: what a
  query on such tables returns;
* `canInsertOperation_eq`: **the admission transaction decides as the store in
  memory does**;
* `call_agrees`: one call keeps `SameContents` and has one answer;
* `stores_agree`: **so does every sequence of calls** whose ids are signed 64-bit
  integers;
* `stores_disagree`: an instance id beyond them is retained by one store and
  refused by the other.
-/
import Mathlib
import Sts2Gateway.Lifecycle.SqliteStore

namespace Sts2Gateway.Lifecycle

open ControlPlane (InstanceId OperationId)
open Procedure Relational Selection

/-! ### Rows -/

namespace OperationRow

def of (operation : LifecycleOperation) : OperationRow where
  instanceId := operation.instanceId
  operationId := operation.operationId
  body := operation.encode

end OperationRow

def OwnershipRow.of (row : LifecycleOwnership) : OwnershipRow where
  instanceId := row.instanceId
  body := row.encode

/-- The key columns of a record. -/
def LifecycleRecordKey.columns (key : LifecycleRecordKey) : ℤ ×ₗ ℤ :=
  toLex (((ofLex key).1 : ℤ), ((ofLex key).2 : ℤ))

lemma columns_inj {a b : LifecycleRecordKey} : a.columns = b.columns ↔ a = b := by
  constructor
  · intro h
    have hpair := congrArg ofLex h
    have hfst : ((ofLex a).1 : ℤ) = (ofLex b).1 := congrArg Prod.fst hpair
    have hsnd : ((ofLex a).2 : ℤ) = (ofLex b).2 := congrArg Prod.snd hpair
    exact congrArg toLex (Prod.ext (by exact_mod_cast hfst) (by exact_mod_cast hsnd))
  · rintro rfl
    rfl

lemma columns_le {a b : LifecycleRecordKey} : a.columns ≤ b.columns ↔ a ≤ b := by
  simp only [LifecycleRecordKey.columns, Prod.Lex.le_iff, ofLex_toLex, Nat.cast_lt, Nat.cast_inj,
    Nat.cast_le]

@[simp] lemma key_of (operation : LifecycleOperation) :
    (OperationRow.of operation).key = operation.key.columns := rfl

/-- The rows that write a list of items, in any order. -/
def Writes {ρ α : Type} (write : α → ρ) (rows : List ρ) (items : List α) : Prop :=
  ∃ l : List α, rows = l.map write ∧ ∀ a, a ∈ l ↔ a ∈ items

namespace Writes

variable {ρ α κ μ : Type} {write : α → ρ} {items : List α}

/-- A row is found where its item is. -/
lemma find?_eq [DecidableEq κ] {key : ρ → κ} {t : Table κ ρ key} {k : κ} {found : Option α}
    (h : Writes write t.rows items) (hsome : ∀ a, found = some a → a ∈ items ∧ key (write a) = k)
    (hnone : found = none → ∀ a ∈ items, key (write a) ≠ k) : t.find? k = found.map write := by
  obtain ⟨l, hrows, hmem⟩ := h
  cases found with
  | none =>
    refine Table.find?_eq_none.mpr fun row hrow hkey => ?_
    rw [hrows] at hrow
    obtain ⟨a, ha, rfl⟩ := List.mem_map.mp hrow
    exact hnone rfl a ((hmem a).mp ha) hkey
  | some a =>
    obtain ⟨ha, hkey⟩ := hsome a rfl
    refine Table.find?_eq_some.mpr ⟨?_, hkey⟩
    rw [hrows]
    exact List.mem_map_of_mem ((hmem a).mpr ha)

/-- Rows sorted by a column that orders them as their items are ordered. -/
lemma mergeSort_eq [LinearOrder κ] [LinearOrder μ] {f : α → κ} {column : ρ → μ} {rows : List ρ}
    (h : Writes write rows items) (hnodup : (rows.map column).Nodup)
    (hle : ∀ a b, column (write a) ≤ column (write b) ↔ f a ≤ f b)
    (hsorted : items.Pairwise fun a b => f a < f b) :
    rows.mergeSort (fun a b => decide (column a ≤ column b)) = items.map write := by
  obtain ⟨l, hrows, hmem⟩ := h
  have hstrict : (rows.mergeSort fun a b => decide (column a ≤ column b)).Pairwise
      fun a b => column a < column b := by
    have hne : (rows.mergeSort fun a b => decide (column a ≤ column b)).Pairwise
        fun a b => column a ≠ column b :=
      List.pairwise_map.mp (((List.mergeSort_perm rows _).map column).nodup_iff.mpr hnodup)
    have hsort : (rows.mergeSort fun a b => decide (column a ≤ column b)).Pairwise
        fun a b => decide (column a ≤ column b) = true := by
      refine List.pairwise_mergeSort (fun a b c hab hbc => ?_) (fun a b => ?_) rows
      · exact decide_eq_true ((of_decide_eq_true hab).trans (of_decide_eq_true hbc))
      · simpa using le_total (column a) (column b)
    exact (hsort.and hne).imp fun hab => lt_of_le_of_ne (of_decide_eq_true hab.1) hab.2
  refine eq_of_sorted (fun row => ?_) hstrict ?_
  · rw [List.mem_mergeSort, hrows, List.mem_map, List.mem_map]
    simp only [hmem]
  · rw [List.pairwise_map]
    refine hsorted.imp fun {a b} hab => ?_
    exact lt_of_not_ge fun hba => absurd ((hle b a).mp hba) (not_le_of_gt hab)

lemma append {rows : List ρ} {items' : List α} {a : α} (h : Writes write rows items)
    (hmem : ∀ b, b ∈ items' ↔ b ∈ items ∨ b = a) : Writes write (rows ++ [write a]) items' := by
  obtain ⟨l, hrows, hl⟩ := h
  refine ⟨l ++ [a], by rw [hrows, List.map_append, List.map_singleton], fun b => ?_⟩
  rw [List.mem_append, List.mem_singleton, hl, hmem]

lemma filter {rows : List ρ} {items' : List α} {p : ρ → Bool} (h : Writes write rows items)
    (hmem : ∀ b, b ∈ items' ↔ b ∈ items ∧ p (write b) = true) :
    Writes write (rows.filter p) items' := by
  obtain ⟨l, hrows, hl⟩ := h
  refine ⟨l.filter (p ∘ write), by rw [hrows, List.filter_map], fun b => ?_⟩
  rw [List.mem_filter, hl, hmem]
  rfl

lemma map {rows : List ρ} {items' : List α} {f : ρ → ρ} {g : α → α} (h : Writes write rows items)
    (hwrite : ∀ a, f (write a) = write (g a)) (hmem : ∀ b, b ∈ items' ↔ ∃ a ∈ items, g a = b) :
    Writes write (rows.map f) items' := by
  obtain ⟨l, hrows, hl⟩ := h
  refine ⟨l.map g, ?_, fun b => ?_⟩
  · rw [hrows, List.map_map, List.map_map]
    exact List.map_congr_left fun a _ => hwrite a
  · simp only [List.mem_map, hl, hmem]

end Writes

/-- The durable store has the contents of the store in memory, whose faults are
off, and its token is the stored one. -/
structure SameContents (memory : InMemoryLifecycleStore) (sqlite : SqliteLifecycleStore) :
    Prop where
  noInsertFault : memory.failInsert = false
  noUpdateFault : memory.failUpdate = false
  noLaterFault : memory.failUpdateAfter = none
  current : sqlite.storedToken = sqlite.coordinatorToken
  operations : Writes OperationRow.of sqlite.operations.rows memory.contents.operations
  ownership : Writes OwnershipRow.of sqlite.ownership.rows memory.contents.rows

/-! ### Queries -/

section Queries

variable {reader : BodyReader} {memory : InMemoryLifecycleStore} {sqlite : SqliteLifecycleStore}

lemma mapM_decode (l : List LifecycleOperation) :
    (l.map OperationRow.of).mapM (fun row => reader.decode row.body) = .ok l := by
  induction l with
  | nil => rfl
  | cons operation l ih =>
    rw [List.map_cons, List.mapM_cons, ih]
    have hhead : reader.decode (OperationRow.of operation).body = .ok operation :=
      reader.decode_encode operation
    rw [hhead]
    rfl

lemma mapM_decodeOwnership (l : List LifecycleOwnership) :
    (l.map OwnershipRow.of).mapM (fun row => reader.decodeOwnership row.body) = .ok l := by
  induction l with
  | nil => rfl
  | cons row l ih =>
    rw [List.map_cons, List.mapM_cons, ih]
    have hhead : reader.decodeOwnership (OwnershipRow.of row).body = .ok row :=
      reader.decodeOwnership_encode row
    rw [hhead]
    rfl

variable (h : SameContents memory sqlite)

include h

lemma find?_operations (key : LifecycleRecordKey) :
    sqlite.operations.find? key.columns = memory.contents.records[key]?.map OperationRow.of := by
  refine h.operations.find?_eq (fun operation hfound => ?_) fun hnone operation hmem hkey => ?_
  · have hkey := memory.contents.records_keyed key operation hfound
    exact ⟨LifecycleContents.mem_operations.mpr (hkey ▸ hfound), by rw [key_of, hkey]⟩
  · have hfound := LifecycleContents.mem_operations.mp hmem
    rw [key_of, columns_inj] at hkey
    rw [hkey, hnone] at hfound
    cases hfound

lemma find?_ownership (instanceId : InstanceId) :
    sqlite.ownership.find? (instanceId : ℤ) =
      memory.contents.ownership[instanceId]?.map OwnershipRow.of := by
  refine h.ownership.find?_eq (fun row hfound => ?_) fun hnone row hmem hkey => ?_
  · have hkey := memory.contents.ownership_keyed instanceId row hfound
    exact ⟨LifecycleContents.mem_rows.mpr (hkey ▸ hfound), congrArg Nat.cast hkey⟩
  · have hfound := LifecycleContents.mem_rows.mp hmem
    have hinstance : row.instanceId = instanceId := Int.natCast_inj.mp hkey
    rw [hinstance, hnone] at hfound
    cases hfound

lemma operationUnder_eq (key : LifecycleRecordKey) :
    SqliteLifecycleStore.operationUnder reader sqlite (ofLex key).1 (ofLex key).2 =
      .ok memory.contents.records[key]? := by
  have hfind := find?_operations h key
  unfold SqliteLifecycleStore.operationUnder
  unfold LifecycleRecordKey.columns at hfind
  rw [hfind]
  cases memory.contents.records[key]? with
  | none => rfl
  | some operation => exact congrArg (some <$> ·) (reader.decode_encode operation)

lemma ownershipUnder_eq (instanceId : InstanceId) :
    SqliteLifecycleStore.ownershipUnder reader sqlite instanceId =
      .ok memory.contents.ownership[instanceId]? := by
  unfold SqliteLifecycleStore.ownershipUnder
  rw [find?_ownership h instanceId]
  cases memory.contents.ownership[instanceId]? with
  | none => rfl
  | some row => exact congrArg (some <$> ·) (reader.decodeOwnership_encode row)

lemma ensureToken_eq : sqlite.ensureToken = .ok () := by
  simp [SqliteLifecycleStore.ensureToken, h.current]

lemma sortedRows_eq :
    sqlite.operations.rows.mergeSort (fun a b => decide (a.key ≤ b.key)) =
      memory.contents.operations.map OperationRow.of :=
  h.operations.mergeSort_eq sqlite.operations.nodup
    (fun a b => columns_le (a := a.key) (b := b.key)) LifecycleContents.operations_sorted

/-- The query of all operations lists them in the order of the map. -/
lemma list_eq : SqliteLifecycleStore.list reader sqlite = .ok memory.contents.operations := by
  unfold SqliteLifecycleStore.list
  rw [ensureToken_eq h, sortedRows_eq h, mapM_decode]
  rfl

lemma count_eq : sqlite.count = .ok memory.contents.records.size := by
  have hlength : sqlite.operations.rows.length = memory.contents.records.size := by
    have hsort := congrArg List.length (sortedRows_eq h)
    rwa [List.length_mergeSort, List.length_map, LifecycleContents.length_operations] at hsort
  unfold SqliteLifecycleStore.count
  rw [ensureToken_eq h, hlength]
  rfl

lemma listOwnership_eq :
    SqliteLifecycleStore.listOwnership reader sqlite = .ok memory.contents.rows := by
  have hsort := h.ownership.mergeSort_eq sqlite.ownership.nodup
    (fun a b => Int.ofNat_le (m := a.instanceId) (n := b.instanceId))
    LifecycleContents.rows_sorted
  unfold SqliteLifecycleStore.listOwnership
  rw [ensureToken_eq h, hsort, mapM_decodeOwnership]
  rfl

/-- The rows of one instance are the bodies of its operations. -/
lemma decodeOperationRows_eq (instanceId : InstanceId) :
    ∃ l, SqliteLifecycleStore.decodeOperationRows reader sqlite instanceId = .ok l ∧
      ∀ operation, operation ∈ l ↔
        operation ∈ memory.contents.operations ∧ operation.instanceId = instanceId := by
  obtain ⟨l, hrows, hmem⟩ := h.operations
  refine ⟨l.filter fun operation => operation.instanceId = instanceId, ?_, fun operation => ?_⟩
  · unfold SqliteLifecycleStore.decodeOperationRows
    rw [hrows, List.filter_map]
    have hcolumn : ((fun row : OperationRow => decide (row.instanceId = (instanceId : ℤ))) ∘
        OperationRow.of) = fun operation => decide (operation.instanceId = instanceId) := by
      funext operation
      exact decide_eq_decide.mpr Int.natCast_inj
    rw [hcolumn, mapM_decode]
  · rw [List.mem_filter, hmem, decide_eq_true_eq]

/-- **Admission.**  The transaction admits an operation exactly when the store in
memory sees no conflict. -/
lemma canInsertOperation_eq (operation : LifecycleOperation) :
    SqliteLifecycleStore.canInsertOperation reader sqlite operation operation.instanceId =
      .ok (!memory.contents.conflicts operation) := by
  obtain ⟨l, hdecode, hmem⟩ := @decodeOperationRows_eq reader _ _ h operation.instanceId
  have howner : (sqlite.ownership.find? (operation.instanceId : ℤ)).isSome =
      memory.contents.ownership.contains operation.instanceId := by
    rw [find?_ownership h, Option.isSome_map]
    exact Std.ExtTreeMap.isSome_getElem?_eq_contains
  have hlatest : maxByKey operationOrderKey (l.filter fun candidate => candidate.state ≠ .rejected) =
      maxByKey operationOrderKey (memory.contents.operations.filter fun candidate =>
        candidate.instanceId = operation.instanceId ∧ candidate.state ≠ .rejected) := by
    have hretained : ∀ a, a ∈ l.filter (fun candidate => candidate.state ≠ .rejected) →
        a.instanceId = operation.instanceId ∧ memory.contents.records[a.key]? = some a := by
      intro a ha
      obtain ⟨ha, hinstance⟩ := (hmem a).mp (List.mem_filter.mp ha).1
      exact ⟨hinstance, LifecycleContents.mem_operations.mp ha⟩
    refine maxByKey_perm (fun a ha b hb hkey => ?_) fun a => ?_
    · obtain ⟨ha, hafound⟩ := hretained a ha
      obtain ⟨hb, hbfound⟩ := hretained b hb
      have hab : a.key = b.key := by
        rw [LifecycleOperation.key, LifecycleOperation.key, ha, hb, operationOrderKey_inj hkey]
      rw [hab, hbfound] at hafound
      exact (Option.some.inj hafound).symm
    · simp only [List.mem_filter, hmem, decide_eq_true_eq, and_assoc]
  unfold SqliteLifecycleStore.canInsertOperation LifecycleContents.conflicts
  cases hactive : operation.state.isActive with
  | false => simp
  | true =>
    simp only [Bool.true_eq_false, if_false, if_true, hdecode, howner, bind, Except.bind, hlatest]
    generalize maxByKey operationOrderKey _ = latest
    cases latest.any (·.state.isInFlight) <;> cases operation.action.isLaunchNew <;>
      simp [pure, Except.pure]

end Queries

/-! ### Calls -/

/-- Two results with one answer, and related states. -/
def SameResult {σ τ α : Type} (R : σ → τ → Prop) :
    EStateM.Result LifecycleStoreError σ α → EStateM.Result LifecycleStoreError τ α → Prop
  | .ok a s, .ok b t => a = b ∧ R s t
  | .error e s, .error f t => e = f ∧ R s t
  | _, _ => False

/-- The ids that a call names are signed 64-bit integers. -/
def StoreCall.InRange : StoreCall → Prop
  | .get key => (ofLex key).1 < 2 ^ 63 ∧ (ofLex key).2 < 2 ^ 63
  | .insert operation | .update operation =>
    operation.instanceId < 2 ^ 63 ∧ operation.operationId < 2 ^ 63
  | .setOwnership row | .clearOwnershipIf row =>
    row.instanceId < 2 ^ 63 ∧ row.operationId < 2 ^ 63
  | .clearOwnership instanceId => instanceId < 2 ^ 63
  | .list | .count | .listOwnership => True

section Calls

variable {reader : BodyReader} {memory : InMemoryLifecycleStore} {sqlite : SqliteLifecycleStore}

/-- What both stores hold after a new record. -/
lemma sameContents_insert (h : SameContents memory sqlite) {operation : LifecycleOperation}
    (hnew : memory.contents.records[operation.key]? = none) :
    ∃ operations, sqlite.operations.insert (.of operation) = some operations ∧
      SameContents { memory with contents := memory.contents.putRecord operation }
        { sqlite with operations } := by
  have hfree : sqlite.operations.find? (OperationRow.of operation).key = none := by
    rw [key_of, find?_operations h, hnew]
    rfl
  obtain ⟨operations, hinsert⟩ := Option.ne_none_iff_exists'.mp
    (mt Table.insert_eq_none.mp (not_not.mpr hfree))
  refine ⟨operations, hinsert, { h with operations := ?_ }⟩
  rw [(Table.insert_eq_some.mp hinsert).2]
  refine h.operations.append fun b => ?_
  rw [LifecycleContents.mem_operations, LifecycleContents.mem_operations,
    LifecycleContents.getElem?_putRecord]
  split_ifs with hkey
  · rw [← hkey, hnew]
    simp [eq_comm]
  · refine ⟨.inl, fun hb => hb.resolve_right ?_⟩
    rintro rfl
    exact hkey rfl

/-- What both stores hold after a record took the place of its older self. -/
lemma sameContents_update (h : SameContents memory sqlite) {operation old : LifecycleOperation}
    (hold : memory.contents.records[operation.key]? = some old) :
    SameContents { memory with contents := memory.contents.putRecord operation }
      { sqlite with
        operations := sqlite.operations.update
          (fun row => decide (row.key = operation.key.columns))
          (SqliteLifecycleStore.OperationRow.setBody operation.encode)
          (SqliteLifecycleStore.OperationRow.key_setBody operation.encode) } := by
  refine { h with operations := ?_ }
  have hwrite : ∀ a : LifecycleOperation,
      (if decide ((OperationRow.of a).key = operation.key.columns) = true then
        SqliteLifecycleStore.OperationRow.setBody operation.encode (OperationRow.of a)
      else OperationRow.of a) = OperationRow.of (if a.key = operation.key then operation else a) := by
    intro a
    simp only [key_of, columns_inj, decide_eq_true_eq]
    split_ifs with hkey
    · have hpair := Prod.ext_iff.mp (toLex.injective hkey)
      exact OperationRow.mk.injEq .. ▸ ⟨congrArg Nat.cast hpair.1, congrArg Nat.cast hpair.2, rfl⟩
    · rfl
  refine h.operations.map hwrite fun b => ?_
  rw [LifecycleContents.mem_operations, LifecycleContents.getElem?_putRecord]
  constructor
  · intro hb
    split_ifs at hb with hkey
    · obtain ⟨⟩ := hb
      have hkeyed := memory.contents.records_keyed _ _ hold
      refine ⟨old, LifecycleContents.mem_operations.mpr (by rw [hkeyed, hold]), if_pos hkeyed⟩
    · exact ⟨b, LifecycleContents.mem_operations.mpr hb, if_neg (Ne.symm hkey)⟩
  · rintro ⟨a, ha, hab⟩
    have hfound := LifecycleContents.mem_operations.mp ha
    split_ifs at hab with hkey
    · rw [← hab, if_pos rfl]
    · rw [← hab, if_neg (Ne.symm hkey), hfound]

lemma sameContents_delete (h : SameContents memory sqlite) (instanceId : InstanceId) :
    SameContents { memory with contents := memory.contents.removeOwnership instanceId }
      (sqlite.deleteOwnership instanceId) := by
  refine { h with ownership := h.ownership.filter fun b => ?_ }
  have hcolumn : (OwnershipRow.of b).instanceId = (instanceId : ℤ) ↔ instanceId = b.instanceId := by
    rw [eq_comm]
    exact Int.natCast_inj
  rw [LifecycleContents.mem_rows, LifecycleContents.mem_rows,
    LifecycleContents.getElem?_removeOwnership]
  simp only [hcolumn, Bool.not_eq_true', decide_eq_false_iff_not]
  split_ifs with hinstance
  · simp [hinstance]
  · simp [hinstance]

lemma sameContents_replace (h : SameContents memory sqlite) (row : LifecycleOwnership) :
    SameContents { memory with contents := memory.contents.putOwnership row }
      { sqlite with ownership := sqlite.ownership.replace (.of row) } := by
  have hdelete := (sameContents_delete h row.instanceId).ownership
  refine { h with ownership := hdelete.append fun b => ?_ }
  rw [LifecycleContents.mem_rows, LifecycleContents.mem_rows,
    LifecycleContents.getElem?_putOwnership, LifecycleContents.getElem?_removeOwnership]
  split_ifs with hinstance
  · simp [eq_comm]
  · refine ⟨.inl, fun hb => hb.resolve_right ?_⟩
    rintro rfl
    exact hinstance rfl

/-- What SQLite makes of an insert, by what the store in memory holds. -/
lemma sqlite_insert_eq (h : SameContents memory sqlite) {operation : LifecycleOperation}
    (hinstance : operation.instanceId < 2 ^ 63) (hoperation : operation.operationId < 2 ^ 63) :
    (SqliteLifecycleStore.insert reader operation).run sqlite =
      if memory.contents.conflicts operation = true then .error .conflict sqlite
      else match sqlite.operations.insert (.of operation) with
        | none => .error .conflict sqlite
        | some operations => .ok () { sqlite with operations } := by
  unfold SqliteLifecycleStore.insert
  have hrow : ({ instanceId := operation.instanceId, operationId := operation.operationId
                 body := operation.encode } : OperationRow) = .of operation := rfl
  by_cases hconflict : memory.contents.conflicts operation = true <;>
    cases hinsert : sqlite.operations.insert (.of operation) <;>
    simp [refuse, SqliteLifecycleStore.sqlId_of_lt hinstance, ensureToken_eq h, hrow, hinsert,
      SqliteLifecycleStore.sqlId_of_lt hoperation, canInsertOperation_eq h, hconflict]

lemma insert_agrees (h : SameContents memory sqlite) {operation : LifecycleOperation}
    (hinstance : operation.instanceId < 2 ^ 63) (hoperation : operation.operationId < 2 ^ 63) :
    SameResult SameContents ((InMemoryLifecycleStore.insert operation).run memory)
      ((SqliteLifecycleStore.insert reader operation).run sqlite) := by
  have hmemory : (InMemoryLifecycleStore.insert operation).run memory =
      if operation.key ∈ memory.contents.records ∨ memory.contents.conflicts operation = true then
        .error .conflict memory
      else .ok () { memory with contents := memory.contents.putRecord operation } := by
    unfold InMemoryLifecycleStore.insert
    by_cases hheld : operation.key ∈ memory.contents.records <;>
      by_cases hconflict : memory.contents.conflicts operation = true <;>
      simp [refuse, h.noInsertFault, hheld, hconflict]
  rw [hmemory, sqlite_insert_eq h hinstance hoperation]
  cases hfound : memory.contents.records[operation.key]? with
  | none =>
    obtain ⟨operations, hinsert, hsame⟩ := sameContents_insert h hfound
    have hfree : operation.key ∉ memory.contents.records := fun hmem =>
      OrderedMap.mem_iff_getElem?_ne_none.mp hmem hfound
    rw [hinsert]
    by_cases hconflict : memory.contents.conflicts operation = true
    · rw [if_pos (.inr hconflict), if_pos hconflict]
      exact ⟨rfl, h⟩
    · rw [if_neg (by simp [hfree, hconflict]), if_neg hconflict]
      exact ⟨rfl, hsame⟩
  | some old =>
    have hheld : operation.key ∈ memory.contents.records :=
      OrderedMap.mem_iff_getElem?_ne_none.mpr (by simp [hfound])
    have htaken : sqlite.operations.insert (.of operation) = none := by
      rw [Table.insert_eq_none, key_of, find?_operations h, hfound]
      exact Option.some_ne_none _
    rw [if_pos (.inl hheld), htaken]
    split_ifs <;> exact ⟨rfl, h⟩

lemma update_agrees (h : SameContents memory sqlite) {operation : LifecycleOperation}
    (hinstance : operation.instanceId < 2 ^ 63) (hoperation : operation.operationId < 2 ^ 63) :
    SameResult SameContents ((InMemoryLifecycleStore.update operation).run memory)
      ((SqliteLifecycleStore.update operation).run sqlite) := by
  have hmemory : (InMemoryLifecycleStore.update operation).run memory =
      if operation.key ∉ memory.contents.records then .error .notFound memory
      else .ok () { memory with contents := memory.contents.putRecord operation } := by
    obtain ⟨contents, insertFault, updateFault, laterFault⟩ := memory
    obtain rfl : updateFault = false := h.noUpdateFault
    obtain rfl : laterFault = none := h.noLaterFault
    unfold InMemoryLifecycleStore.update
    by_cases hheld : operation.key ∈ contents.records <;> simp [refuse, hheld]
  have hkey : toLex ((operation.instanceId : ℤ), (operation.operationId : ℤ)) =
      operation.key.columns := rfl
  have hsqlite : (SqliteLifecycleStore.update operation).run sqlite =
      if sqlite.operations.count (fun row => decide (row.key = operation.key.columns)) ≠ 1 then
        .error .notFound sqlite
      else .ok () { sqlite with
        operations := sqlite.operations.update
          (fun row => decide (row.key = operation.key.columns))
          (SqliteLifecycleStore.OperationRow.setBody operation.encode)
          (SqliteLifecycleStore.OperationRow.key_setBody operation.encode) } := by
    unfold SqliteLifecycleStore.update
    by_cases hcount : sqlite.operations.count
        (fun row => decide (row.key = operation.key.columns)) = 1 <;>
      simp [refuse, SqliteLifecycleStore.sqlId_of_lt hinstance, ensureToken_eq h, hkey, hcount,
        SqliteLifecycleStore.sqlId_of_lt hoperation]
  rw [hmemory, hsqlite]
  cases hfound : memory.contents.records[operation.key]? with
  | none =>
    have hfree : operation.key ∉ memory.contents.records := fun hmem =>
      OrderedMap.mem_iff_getElem?_ne_none.mp hmem hfound
    rw [if_pos hfree, if_pos (by rw [Ne, Table.count_key, find?_operations h, hfound]; simp)]
    exact ⟨rfl, h⟩
  | some old =>
    have hheld : operation.key ∈ memory.contents.records :=
      OrderedMap.mem_iff_getElem?_ne_none.mpr (by simp [hfound])
    have hcount : sqlite.operations.count
        (fun row => decide (row.key = operation.key.columns)) = 1 := by
      rw [Table.count_key, find?_operations h, hfound]
      exact ⟨_, rfl⟩
    rw [if_neg (not_not.mpr hheld), if_neg (not_not.mpr hcount)]
    exact ⟨rfl, sameContents_update h hfound⟩

/-- The two stores check a row against the one that the instance has in one way,
the operation being active. -/
lemma checkOwnership_eq {operation : LifecycleOperation} {row current : LifecycleOwnership}
    (hactive : operation.state.isActive = true) :
    SqliteLifecycleStore.checkOwnership operation row current =
      InMemoryLifecycleStore.checkOwnership operation row current := by
  unfold SqliteLifecycleStore.checkOwnership InMemoryLifecycleStore.checkOwnership
  by_cases hsame : current.operationId = row.operationId
  · simp [refuse, hsame, bind, Except.bind]
  · by_cases hbad : operation.action.isLaunchNew = true ∨ ownershipPrecedes current row = false <;>
      simp [refuse, hsame, hactive, hbad, bind, Except.bind]

lemma ownershipUpdateAllowed_eq (h : SameContents memory sqlite) {row : LifecycleOwnership}
    (hinstance : row.instanceId < 2 ^ 63) (hoperation : row.operationId < 2 ^ 63) :
    SqliteLifecycleStore.ownershipUpdateAllowed reader sqlite row
      memory.contents.ownership[row.instanceId]? =
        InMemoryLifecycleStore.checkRow memory.contents row := by
  have hunder : SqliteLifecycleStore.operationUnder reader sqlite row.instanceId row.operationId =
      .ok memory.contents.records[LifecycleRecordKey.new row.instanceId row.operationId]? :=
    operationUnder_eq h (.new row.instanceId row.operationId)
  unfold SqliteLifecycleStore.ownershipUpdateAllowed InMemoryLifecycleStore.checkRow
  rw [SqliteLifecycleStore.sqlId_of_lt hinstance, SqliteLifecycleStore.sqlId_of_lt hoperation]
  simp only [bind, Except.bind, hunder]
  cases memory.contents.records[LifecycleRecordKey.new row.instanceId row.operationId]? with
  | none => rfl
  | some operation =>
    cases hactive : operation.state.isActive with
    | false => simp [refuse, hactive]
    | true =>
      simp only [okOr_some, hactive, refuse, Bool.true_eq_false, if_false]
      cases memory.contents.ownership[row.instanceId]? with
      | none => rfl
      | some current => exact checkOwnership_eq hactive

lemma setOwnership_agrees (h : SameContents memory sqlite) {row : LifecycleOwnership}
    (hinstance : row.instanceId < 2 ^ 63) (hoperation : row.operationId < 2 ^ 63) :
    SameResult SameContents ((InMemoryLifecycleStore.setOwnership row).run memory)
      ((SqliteLifecycleStore.setOwnership reader row).run sqlite) := by
  have hrow : ({ instanceId := row.instanceId, body := row.encode } : OwnershipRow) = .of row := rfl
  have hsame := sameContents_replace h row
  unfold InMemoryLifecycleStore.setOwnership SqliteLifecycleStore.setOwnership
  cases hchecks : InMemoryLifecycleStore.checkRow memory.contents row with
  | ok _ =>
    simp [SameResult, hchecks, SqliteLifecycleStore.sqlId_of_lt hinstance, ensureToken_eq h,
      ownershipUnder_eq h, ownershipUpdateAllowed_eq h hinstance hoperation, hrow, hsame]
  | error e =>
    simp [SameResult, hchecks, SqliteLifecycleStore.sqlId_of_lt hinstance, ensureToken_eq h,
      ownershipUnder_eq h, ownershipUpdateAllowed_eq h hinstance hoperation, h]

lemma clearOwnershipIf_agrees (h : SameContents memory sqlite) {row : LifecycleOwnership}
    (hinstance : row.instanceId < 2 ^ 63) :
    SameResult SameContents ((InMemoryLifecycleStore.clearOwnershipIf row).run memory)
      ((SqliteLifecycleStore.clearOwnershipIf reader row).run sqlite) := by
  have hsame := sameContents_delete h row.instanceId
  unfold InMemoryLifecycleStore.clearOwnershipIf SqliteLifecycleStore.clearOwnershipIf
  cases hfound : memory.contents.ownership[row.instanceId]? with
  | none =>
    simp [SameResult, SqliteLifecycleStore.sqlId_of_lt hinstance, ensureToken_eq h,
      ownershipUnder_eq h, hfound, h]
  | some current =>
    by_cases hcurrent : current = row
    · simp [SameResult, SqliteLifecycleStore.sqlId_of_lt hinstance, ensureToken_eq h,
        ownershipUnder_eq h, hfound, hcurrent, refuse, hsame]
    · simp [SameResult, SqliteLifecycleStore.sqlId_of_lt hinstance, ensureToken_eq h,
        ownershipUnder_eq h, hfound, hcurrent, refuse, h]

lemma clearOwnership_agrees (h : SameContents memory sqlite) {instanceId : InstanceId}
    (hinstance : instanceId < 2 ^ 63) :
    SameResult SameContents ((InMemoryLifecycleStore.clearOwnership instanceId).run memory)
      ((SqliteLifecycleStore.clearOwnership instanceId).run sqlite) := by
  have hsame := sameContents_delete h instanceId
  unfold InMemoryLifecycleStore.clearOwnership SqliteLifecycleStore.clearOwnership
  simp [SameResult, SqliteLifecycleStore.sqlId_of_lt hinstance, ensureToken_eq h, hsame]

lemma SameResult.done {σ τ : Type} {R : σ → τ → Prop} {p : StoreM σ Unit} {q : StoreM τ Unit}
    {s : σ} {t : τ} (h : SameResult R (p.run s) (q.run t)) :
    SameResult R ((StoreM.done p).run s) ((StoreM.done q).run t) := by
  unfold StoreM.done
  cases hp : p.run s <;> cases hq : q.run t <;> simp_all [SameResult]

lemma SameResult.reads {σ τ α : Type} {R : σ → τ → Prop} {answer : α → StoreAnswer}
    {f : σ → Except LifecycleStoreError α} {g : τ → Except LifecycleStoreError α} {s : σ} {t : τ}
    (hR : R s t) (h : f s = g t) :
    SameResult R ((StoreM.reads answer f).run s) ((StoreM.reads answer g).run t) := by
  unfold StoreM.reads
  cases hg : g t <;> simp [h, hg, SameResult, hR]

lemma SameResult.outcome {σ τ : Type} {R : σ → τ → Prop} {p : StoreM σ StoreAnswer}
    {q : StoreM τ StoreAnswer} {s : σ} {t : τ} (h : SameResult R (p.run s) (q.run t)) :
    (p.outcome s).1 = (q.outcome t).1 ∧ R (p.outcome s).2 (q.outcome t).2 := by
  unfold StoreM.outcome
  cases hp : p.run s <;> cases hq : q.run t <;> simp_all [SameResult]

/-- **One call** has one answer, and leaves the same contents. -/
theorem call_agrees (h : SameContents memory sqlite) {call : StoreCall} (hrange : call.InRange) :
    SameResult SameContents ((InMemoryLifecycleStore.call call).run memory)
      ((SqliteLifecycleStore.call reader call).run sqlite) := by
  cases call with
  | get key =>
    refine SameResult.reads h ?_
    unfold SqliteLifecycleStore.getRecord
    rw [ensureToken_eq h, SqliteLifecycleStore.sqlId_of_lt hrange.1,
      SqliteLifecycleStore.sqlId_of_lt hrange.2]
    exact (operationUnder_eq h key).symm
  | insert operation => exact (insert_agrees h hrange.1 hrange.2).done
  | update operation => exact (update_agrees h hrange.1 hrange.2).done
  | list => exact SameResult.reads h (list_eq h).symm
  | count => exact SameResult.reads h (count_eq h).symm
  | listOwnership => exact SameResult.reads h (listOwnership_eq h).symm
  | setOwnership row => exact (setOwnership_agrees h hrange.1 hrange.2).done
  | clearOwnershipIf row => exact (clearOwnershipIf_agrees h hrange.1).done
  | clearOwnership instanceId => exact (clearOwnership_agrees h hrange).done

end Calls

/-- **The stores agree.**  Started from the same contents, the two stores give one
answer to each of a sequence of calls whose ids are signed 64-bit integers; after
them (and so after each of them) they hold and list the same operations and rows,
and the authority of the durable store is still current. -/
theorem stores_agree (reader : BodyReader) (memory : InMemoryLifecycleStore)
    (sqlite : SqliteLifecycleStore) (h : SameContents memory sqlite) (calls : List StoreCall)
    (hrange : ∀ call ∈ calls, call.InRange) :
    let inMemory := runCalls InMemoryLifecycleStore.call calls memory
    let durable := runCalls (SqliteLifecycleStore.call reader) calls sqlite
    inMemory.1 = durable.1 ∧ SameContents inMemory.2 durable.2 ∧
      SqliteLifecycleStore.list reader durable.2 = .ok inMemory.2.contents.operations ∧
      SqliteLifecycleStore.listOwnership reader durable.2 = .ok inMemory.2.contents.rows := by
  have hruns : (runCalls InMemoryLifecycleStore.call calls memory).1 =
      (runCalls (SqliteLifecycleStore.call reader) calls sqlite).1 ∧
      SameContents (runCalls InMemoryLifecycleStore.call calls memory).2
        (runCalls (SqliteLifecycleStore.call reader) calls sqlite).2 := by
    induction calls generalizing memory sqlite with
    | nil => exact ⟨rfl, h⟩
    | cons call calls ih =>
      have hcall := (@call_agrees reader _ _ h _ (hrange call (List.mem_cons_self ..))).outcome
      obtain ⟨hanswers, hsame⟩ := ih _ _ hcall.2 fun c hc => hrange c (List.mem_cons_of_mem _ hc)
      exact ⟨congrArg₂ List.cons hcall.1 hanswers, hsame⟩
  exact ⟨hruns.1, hruns.2, list_eq hruns.2, listOwnership_eq hruns.2⟩

/-- Two new stores are empty. -/
lemma sameContents_new (token : CoordinatorToken) :
    SameContents .new (.fromConnection .empty .empty token) where
  noInsertFault := rfl
  noUpdateFault := rfl
  noLaterFault := rfl
  current := rfl
  operations := ⟨[], rfl, fun _ => Iff.rfl⟩
  ownership := ⟨[], rfl, fun _ => Iff.rfl⟩

namespace Sample

/-- A launch on an instance, started and owned. -/
def launch (instanceId : InstanceId) (operationId : OperationId) : LifecycleOperation :=
  (LifecycleOperation.new operationId instanceId
    { instanceId, callerId := 1, sessionId := 1, leaseId := 1, epoch := 1 } 1
    (.launchNew 5)).setSequence 1

def row (instanceId : InstanceId) (operationId : OperationId) : LifecycleOwnership :=
  { instanceId, operationId, sequence := 1, profileId := 5, process := none }

/-- A launch, its ownership row, a second launch and a listing. -/
def calls : List StoreCall :=
  [.insert (launch 1 3), .setOwnership (row 1 3), .insert (launch 1 4), .listOwnership, .count]

end Sample

theorem stores_agree_sample :
    (runCalls (SqliteLifecycleStore.call bodyReader) Sample.calls
      (.fromConnection .empty .empty ByteArray.empty)).1 =
        [.ok .done, .ok .done, .error .conflict, .ok (.rows [Sample.row 1 3]), .ok (.count 1)] :=
  (stores_agree bodyReader .new (.fromConnection .empty .empty ByteArray.empty)
    (sameContents_new _) Sample.calls
    (by simp [Sample.calls, StoreCall.InRange, Sample.launch, Sample.row, LifecycleOperation.new,
      LifecycleOperation.setSequence])).1.symm.trans (by decide +kernel)

/-- The operation ids alone that a call names are signed 64-bit integers. -/
def StoreCall.OperationInRange : StoreCall → Prop
  | .get key => (ofLex key).2 < 2 ^ 63
  | .insert operation | .update operation => operation.operationId < 2 ^ 63
  | .setOwnership row | .clearOwnershipIf row => row.operationId < 2 ^ 63
  | .clearOwnership _ | .list | .count | .listOwnership => True

/-- An instance id beyond the signed 64-bit integers is one that only the store in
memory retains. -/
theorem stores_disagree :
    ¬ ∀ (reader : BodyReader) (memory : InMemoryLifecycleStore) (sqlite : SqliteLifecycleStore),
      SameContents memory sqlite → ∀ calls : List StoreCall,
        (∀ call ∈ calls, call.OperationInRange) →
          (runCalls InMemoryLifecycleStore.call calls memory).1 =
            (runCalls (SqliteLifecycleStore.call reader) calls sqlite).1 := by
  intro hagree
  have hanswers := hagree bodyReader .new (.fromConnection .empty .empty ByteArray.empty)
    (sameContents_new _) [.insert (Sample.launch (2 ^ 63) 3)] (by
      simp [StoreCall.OperationInRange, Sample.launch, LifecycleOperation.new,
        LifecycleOperation.setSequence])
  have hmemory : (runCalls InMemoryLifecycleStore.call [.insert (Sample.launch (2 ^ 63) 3)]
      .new).1 = [.ok .done] := by decide +kernel
  have hsqlite : (runCalls (SqliteLifecycleStore.call bodyReader)
      [.insert (Sample.launch (2 ^ 63) 3)]
      (.fromConnection .empty .empty ByteArray.empty)).1 = [.error .serialization] := rfl
  rw [hmemory, hsqlite] at hanswers
  cases hanswers

end Sts2Gateway.Lifecycle
