/-
Authority generations across copies of a store.

* `GatewayRecoveryStore.identity`, `FilesStep`, `files_step`: **what one step does to
  the boots of the files**: it keeps them, or raises the tables that it boots from by one;
* `History`: the boots of a run reach every generation up to the greatest, all of one
  instance;
* `BootsNewest`: the step boots from the tables with the greatest generation;
* `generations_distinct_iff`: **no two boots of a run carry the same generation exactly
  when every boot, rekey and restoration of the run starts from the greatest**;
* `generations_repeated`: a backup that is restored twice.
-/
import Mathlib.Tactic
import Sts2Gateway.Recovery.Backup

namespace Sts2Gateway.Recovery

open Machine Procedure Relational Text

/-! ### One store -/

/-- The instance and the generation of the current boot. -/
def GatewayRecoveryStore.identity (store : GatewayRecoveryStore) : Option (String × ℕ) :=
  store.authority.map fun a => (a.instanceId, a.authorityGeneration)

lemma generation_eq_identity (store : GatewayRecoveryStore) :
    store.generation = store.identity.elim 0 Prod.snd := by
  rw [GatewayRecoveryStore.generation, GatewayRecoveryStore.identity]
  cases store.authority <;> rfl

/-- The identity of a boot. -/
def RecoveryBootContext.identity (boot : RecoveryBootContext) : String × ℕ :=
  (boot.instanceId, boot.authorityGeneration)

lemma Booted.identity {store after : GatewayRecoveryStore} {boot : RecoveryBootContext}
    (h : Booted store boot after) : after.identity = some boot.identity := by
  obtain ⟨row, hrow, rfl, -⟩ := h.authority
  rw [GatewayRecoveryStore.identity, hrow]
  rfl

section Token

variable [Sha256] {store : GatewayRecoveryStore} {call : Call} {boot : RecoveryBootContext}

lemma booted_of_call (h : call.booted store = some boot) :
    Booted store boot (Recovery.next store call) := by
  unfold Call.booted at h
  split at h
  · rename_i authorityCall context hanswer
    cases h
    have hstep := perform_authority store authorityCall
    change Booted store _ (authorityCall.perform store).store
    change (authorityCall.perform store).answer = _ at hanswer
    generalize authorityCall.perform store = reply at hstep hanswer
    cases hstep with
    | refused => cases hanswer
    | booted boot after booted =>
      cases hanswer
      exact booted
    | fenced => cases hanswer
  · cases h

/-- A call that establishes no boot keeps the current one. -/
lemma identity_kept (h : call.booted store = none) :
    (Recovery.next store call).identity = store.identity := by
  cases call with
  | authority call =>
    have hstep := perform_authority store call
    change (call.perform store).store.identity = _
    simp only [Call.booted, Call.perform] at h
    generalize call.perform store = reply at hstep h
    cases hstep with
    | refused => rfl
    | booted boot after booted => cases h
    | fenced row columns fence authority =>
      rw [GatewayRecoveryStore.identity, GatewayRecoveryStore.identity, authority]
      rfl
  | _ =>
    rw [GatewayRecoveryStore.identity, GatewayRecoveryStore.identity,
      next_authority store _ fun _ h => by cases h]

end Token


/-! ### The files -/

def StoreFile.identity (file : StoreFile) : Option (String × ℕ) := file.store.identity

def BackupFile.identity (backup : BackupFile) : Option (String × ℕ) := backup.tables.identity

/-- The boots that some copy of the tables records. -/
def Files.identities (files : Files) : List (Option (String × ℕ)) :=
  files.stores.rows.map StoreFile.identity ++ files.backups.rows.map BackupFile.identity

/-- The greatest generation of the stores. -/
def Files.newest (files : Files) : ℕ := files.stores.maximum fun file => file.store.generation

/-- What a step does that establishes no boot. -/
structure Kept (files after : Files) : Prop where
  stores : after.stores.rows.map StoreFile.identity = files.stores.rows.map StoreFile.identity
  backups : ∀ backup ∈ after.backups.rows, backup ∈ files.backups.rows ∨
    ∃ file ∈ files.stores.rows, file.identity.isSome ∧ backup.identity = file.identity

/-- What a step does that boots from the tables. -/
structure BootedFrom (files : Files) (tables : GatewayRecoveryStore) (boot : RecoveryBootContext)
    (after : Files) : Prop where
  source : (∃ backup ∈ files.backups.rows, backup.tables = tables) ∨
    ∃ file ∈ files.stores.rows, file.store = tables ∧ file ∉ after.stores.rows
  generation : boot.authorityGeneration = tables.generation + 1
  sameInstance : ∀ i, tables.identity = some i → boot.instanceId = i.1
  backups : after.backups = files.backups
  reached : some boot.identity ∈ after.stores.rows.map StoreFile.identity
  stores : ∀ file ∈ after.stores.rows, file.identity = some boot.identity ∨
    file ∈ files.stores.rows
  grown : ∀ file ∈ files.stores.rows, ∃ later ∈ after.stores.rows,
    file.store.generation ≤ later.store.generation

/-- What a step does to the boots of the files. -/
inductive FilesStep (files : Files) :
    Option GatewayRecoveryStore → Option RecoveryBootContext → Files → Prop
  | kept {source : Option GatewayRecoveryStore} {after : Files} (kept : Kept files after) :
      FilesStep files source none after
  | booted {tables : GatewayRecoveryStore} {boot : RecoveryBootContext} {after : Files}
      (booted : BootedFrom files tables boot after) :
      FilesStep files (some tables) (some boot) after

section Files

variable {files after : Files}

lemma Kept.refl (files : Files) : Kept files files where
  stores := rfl
  backups _ hbackup := .inl hbackup

/-- An update of the stores that keeps their boots. -/
lemma kept_update {p : StoreFile → Bool} {f : StoreFile → StoreFile}
    (hf : ∀ file, (f file).path = file.path)
    (h : ∀ file ∈ files.stores.rows, p file = true → (f file).identity = file.identity) :
    Kept files { files with stores := files.stores.update p f hf } where
  stores := Table.map_update hf h
  backups _ hbackup := .inl hbackup

lemma mem_openStore {path : String} {file : StoreFile} (h : files.openStore path = some file) :
    file ∈ files.stores.rows ∧ file.path = path ∧ file.locked = true := by
  rw [Files.openStore, Option.filter_eq_some_iff] at h
  obtain ⟨hfind, hlocked⟩ := h
  exact ⟨Table.mem_of_find? hfind, Table.key_of_find? hfind, hlocked⟩

lemma openStore_of_mem {file : StoreFile} (h : file ∈ files.stores.rows)
    (hlocked : file.locked = true) : files.openStore file.path = some file := by
  rw [Files.openStore, Option.filter_eq_some_iff]
  exact ⟨Table.find?_key h, hlocked⟩

lemma le_newest {file : StoreFile} (h : file ∈ files.stores.rows) :
    file.store.generation ≤ files.newest :=
  Table.le_maximum (fun file : StoreFile => file.store.generation) h

lemma Kept.mem_identities (h : Kept files after) {i : Option (String × ℕ)}
    (hi : i ∈ after.identities) : i ∈ files.identities := by
  rcases List.mem_append.mp hi with hi | hi
  · rw [h.stores] at hi
    exact List.mem_append_left _ hi
  · obtain ⟨backup, hbackup, rfl⟩ := List.mem_map.mp hi
    rcases h.backups backup hbackup with hold | ⟨file, hfile, -, heq⟩
    · exact List.mem_append_right _ (List.mem_map_of_mem hold)
    · rw [heq]
      exact List.mem_append_left _ (List.mem_map_of_mem hfile)

lemma BootedFrom.mem_identities {tables : GatewayRecoveryStore} {boot : RecoveryBootContext}
    (h : BootedFrom files tables boot after) {i : Option (String × ℕ)}
    (hi : i ∈ after.identities) : i = some boot.identity ∨ i ∈ files.identities := by
  rcases List.mem_append.mp hi with hi | hi
  · obtain ⟨file, hfile, rfl⟩ := List.mem_map.mp hi
    refine (h.stores file hfile).imp_right fun hold => ?_
    exact List.mem_append_left _ (List.mem_map_of_mem hold)
  · rw [h.backups] at hi
    exact .inr (List.mem_append_right _ hi)

lemma BootedFrom.mem_source {tables : GatewayRecoveryStore} {boot : RecoveryBootContext}
    (h : BootedFrom files tables boot after) : tables.identity ∈ files.identities := by
  rcases h.source with ⟨backup, hbackup, rfl⟩ | ⟨file, hfile, rfl, -⟩
  · exact List.mem_append_right _ (List.mem_map_of_mem hbackup)
  · exact List.mem_append_left _ (List.mem_map_of_mem hfile)

/-- A backup records the boot that it was taken under. -/
lemma backupTo_kept {file : StoreFile} {destination : String} (hfile : file ∈ files.stores.rows) :
    Returns (files.backupTo file destination) (Kept files) := by
  refine .bind fun _ _ => .bind fun found hfound => .elim fun authority hauthority => ?_
  have hsome : file.identity.isSome := by
    rw [hauthority, GatewayRecoveryStore.currentAuthority] at hfound
    cases hrow : file.store.authority with
    | none =>
      rw [hrow] at hfound
      cases hfound
    | some row =>
      rw [StoreFile.identity, GatewayRecoveryStore.identity, hrow]
      rfl
  dsimp only
  split
  · rename_i backups hinsert
    refine .pure ⟨rfl, fun backup hbackup => ?_⟩
    rw [(Table.insert_eq_some.mp hinsert).2, List.mem_append, List.mem_singleton] at hbackup
    rcases hbackup with hold | rfl
    · exact .inl hold
    · exact .inr ⟨file, hfile, hsome, rfl⟩
  · exact .error

lemma restoreRekey_bootedFrom
    {source destination bootId incarnation deploymentId instanceId : String}
    {release : RecoveryReleaseSet} {nowMillis : ℕ} :
    Returns (files.restoreRekey source destination bootId incarnation deploymentId instanceId
      release nowMillis) fun (boot, after) => ∃ backup, files.backups.find? source = some backup ∧
        BootedFrom files backup.tables boot after := by
  refine .bind fun _ _ => .bind fun _ _ => .bind fun _ _ => .bind fun _ _ => .bind fun _ _ =>
    .bind fun _ _ => .elim fun backup hbackup => .bind fun _ _ => .bind fun _ _ =>
    .elim fun live hlive => .bind fun _ _ => .elim fun authority hauthority => .bind fun _ _ =>
    .bind fun rekeyed hrekeyed => ?_
  obtain ⟨boot, restored⟩ := rekeyed
  have hbooted := rekeyNamespace_booted _ hrekeyed
  dsimp only
  split
  · rename_i stores hinsert
    have hrows := (Table.insert_eq_some.mp hinsert).2
    refine .pure ⟨backup, hbackup, ?_, hbooted.generation, ?_, rfl, ?_, ?_, ?_⟩
    · exact .inl ⟨backup, Table.mem_of_find? hbackup, rfl⟩
    · intro i hi
      obtain ⟨a, ha, rfl⟩ := Option.map_eq_some_iff.mp hi
      exact (hbooted.sameInstance a ha).symm
    · refine List.mem_map.mpr ⟨{ path := destination, store := restored, locked := true }, ?_,
        hbooted.identity⟩
      rw [hrows]
      exact List.mem_append_right _ (List.mem_singleton_self _)
    · intro later hlater
      rw [hrows, List.mem_append, List.mem_singleton] at hlater
      rcases hlater with hold | rfl
      · exact .inr hold
      · exact .inl hbooted.identity
    · intro file hfile
      exact ⟨file, by rw [hrows]; exact List.mem_append_left _ hfile, le_rfl⟩
  · exact .error

/-! ### Histories -/

/-- The boots of a run reach every generation up to the greatest, all of one instance. -/
inductive History (files : Files) : List RecoveryBootContext → Prop
  | fresh (stores : files.stores.rows.map StoreFile.identity = [none])
      (backups : files.backups.rows = []) : History files []
  | settled (instanceId : String) {boots : List RecoveryBootContext}
      (instances : ∀ boot ∈ boots, boot.instanceId = instanceId)
      (reached : ∀ i ∈ files.identities, ∃ generation, i = some (instanceId, generation) ∧
        ∀ n, 0 < n → n ≤ generation → ∃ boot ∈ boots, boot.authorityGeneration = n) :
      History files boots

lemma History.kept {after : Files} {boots : List RecoveryBootContext} (h : History files boots)
    (hkept : Kept files after) : History after boots := by
  cases h with
  | fresh stores backups =>
    refine .fresh (hkept.stores.trans stores) (List.eq_nil_iff_forall_not_mem.mpr ?_)
    intro backup hbackup
    rcases hkept.backups backup hbackup with hold | ⟨file, hfile, hsome, -⟩
    · rw [backups] at hold
      cases hold
    · have hnone : file.identity ∈ files.stores.rows.map StoreFile.identity :=
        List.mem_map_of_mem hfile
      rw [stores, List.mem_singleton] at hnone
      rw [hnone] at hsome
      cases hsome
  | settled instanceId instances reached =>
    exact .settled instanceId instances fun i hi => reached i (hkept.mem_identities hi)

lemma History.raised {after : Files} {boots : List RecoveryBootContext}
    {tables : GatewayRecoveryStore} {boot : RecoveryBootContext} (h : History files boots)
    (hbooted : BootedFrom files tables boot after) : History after (boots ++ [boot]) := by
  have hgeneration := hbooted.generation
  rw [generation_eq_identity] at hgeneration
  cases h with
  | fresh stores backups =>
    obtain ⟨blank, hrows, hnone⟩ := List.map_eq_singleton_iff.mp stores
    rcases hbooted.source with ⟨backup, hbackup, -⟩ | ⟨file, hfile, rfl, hreplaced⟩
    · rw [backups] at hbackup
      cases hbackup
    · rw [hrows, List.mem_singleton] at hfile
      subst hfile
      refine .settled boot.instanceId (fun later hlater => ?_) fun i hi => ?_
      · rw [List.mem_singleton.mp hlater]
      · have hi : i = some boot.identity := by
          rcases List.mem_append.mp hi with hi | hi
          · obtain ⟨later, hlater, rfl⟩ := List.mem_map.mp hi
            refine (hbooted.stores later hlater).resolve_right fun hold => ?_
            rw [hrows, List.mem_singleton] at hold
            exact hreplaced (hold ▸ hlater)
          · rw [hbooted.backups, backups] at hi
            cases hi
        subst hi
        refine ⟨boot.authorityGeneration, rfl, fun n hpos hle => ⟨boot, by simp, ?_⟩⟩
        change file.store.identity = none at hnone
        rw [hnone] at hgeneration
        change boot.authorityGeneration = 0 + 1 at hgeneration
        omega
  | settled instanceId instances reached =>
    obtain ⟨generation, hsource, hbelow⟩ := reached _ hbooted.mem_source
    have hinstance : boot.instanceId = instanceId := hbooted.sameInstance _ hsource
    rw [hsource] at hgeneration
    change boot.authorityGeneration = generation + 1 at hgeneration
    refine .settled instanceId (fun later hlater => ?_) fun i hi => ?_
    · rcases List.mem_append.mp hlater with hold | hnew
      · exact instances later hold
      · rw [List.mem_singleton.mp hnew, hinstance]
    · rcases hbooted.mem_identities hi with rfl | hold
      · refine ⟨boot.authorityGeneration, by rw [← hinstance]; rfl, fun n hpos hle => ?_⟩
        rcases Nat.lt_or_ge generation n with hlt | hge
        · exact ⟨boot, by simp, by omega⟩
        · obtain ⟨earlier, hearlier, heq⟩ := hbelow n hpos hge
          exact ⟨earlier, List.mem_append_left _ hearlier, heq⟩
      · obtain ⟨reachedGeneration, rfl, hreached⟩ := reached i hold
        refine ⟨reachedGeneration, rfl, fun n hpos hle => ?_⟩
        obtain ⟨earlier, hearlier, heq⟩ := hreached n hpos hle
        exact ⟨earlier, List.mem_append_left _ hearlier, heq⟩

end Files

section Token

variable [Sha256] {files : Files}

/-- A call that boots an open store. -/
lemma call_bootedFrom {path : String} {file : StoreFile} {call : Call} {boot : RecoveryBootContext}
    (hfile : files.openStore path = some file) (hboot : call.booted file.store = some boot) :
    BootedFrom files file.store boot (files.next (.call path call)) := by
  obtain ⟨hmem, hpath, hlocked⟩ := mem_openStore hfile
  have hbooted := booted_of_call hboot
  have hnext : ∀ later, later ∈ (files.next (.call path call)).stores.rows ↔
      ∃ q ∈ files.stores.rows, (if decide (q.path = path) && q.locked then
        q.withStore fun store => Recovery.next store call else q) = later :=
    fun later => @Table.mem_update _ _ _ files.stores _ _ (fun q => q.path_withStore _) later
  -- the update changes the row of the open store alone
  have hselected : ∀ q ∈ files.stores.rows, (decide (q.path = path) && q.locked) = true →
      q = file := by
    intro q hq hselected
    rw [Bool.and_eq_true, decide_eq_true_eq] at hselected
    exact Table.ext_key hq hmem (hselected.1.trans hpath.symm)
  have hcond : (decide (file.path = path) && file.locked) = true := by simp [hpath, hlocked]
  have hreached : file.withStore (fun store => Recovery.next store call) ∈
      (files.next (.call path call)).stores.rows :=
    (hnext _).mpr ⟨file, hmem, by rw [if_pos hcond]⟩
  have hgeneration := hbooted.generation_eq.trans hbooted.generation
  refine ⟨.inr ⟨file, hmem, rfl, fun hkept => ?_⟩, hbooted.generation, ?_, rfl, ?_, ?_, ?_⟩
  · obtain ⟨q, hq, hlater⟩ := (hnext file).mp hkept
    split_ifs at hlater with hc
    · rw [hselected q hq hc] at hlater
      have heq : Recovery.next file.store call = file.store := congrArg StoreFile.store hlater
      rw [heq] at hgeneration
      omega
    · exact hc (hlater ▸ hcond)
  · intro i hi
    obtain ⟨a, ha, rfl⟩ := Option.map_eq_some_iff.mp hi
    exact (hbooted.sameInstance a ha).symm
  · exact List.mem_map.mpr ⟨_, hreached, hbooted.identity⟩
  · intro later hlater
    obtain ⟨q, hq, rfl⟩ := (hnext later).mp hlater
    split_ifs with hc
    · rw [hselected q hq hc]
      exact .inl hbooted.identity
    · exact .inr hq
  · intro q hq
    by_cases hc : (decide (q.path = path) && q.locked) = true
    · refine ⟨_, hreached, ?_⟩
      rw [hselected q hq hc]
      exact generation_mono file.store call
    · exact ⟨q, (hnext q).mpr ⟨q, hq, by rw [if_neg hc]⟩, le_rfl⟩

/-- A call that boots no open store. -/
lemma call_kept {path : String} {call : Call}
    (h : booted files (.call path call) = none) : Kept files (files.next (.call path call)) := by
  refine kept_update _ fun file hfile hselected => ?_
  rw [Bool.and_eq_true, decide_eq_true_eq] at hselected
  obtain ⟨rfl, hlocked⟩ := hselected
  have hnone : call.booted file.store = none := by
    rw [booted, openStore_of_mem hfile hlocked] at h
    exact h
  exact identity_kept hnone

/-- **A step keeps the boots of the files, or raises the tables that it boots from.** -/
theorem files_step (files : Files) (step : Step) :
    FilesStep files (files.bootsFrom step) (booted files step) (files.next step) := by
  cases step with
  | openWithConfig path config =>
    refine .kept ?_
    rw [Files.next]
    split_ifs
    · exact kept_update _ fun _ _ _ => rfl
    · exact .refl files
  | close path => exact .kept (kept_update _ fun _ _ _ => rfl)
  | backup path destination =>
    refine .kept ?_
    rw [Files.next]
    cases hopen : files.openStore path with
    | none => exact .refl files
    | some file =>
      dsimp only
      cases hbackup : files.backupTo file destination with
      | error e => exact .refl files
      | ok after => exact backupTo_kept (mem_openStore hopen).1 _ hbackup
  | call path call =>
    cases hbooted : booted files (.call path call) with
    | none => exact .kept (call_kept hbooted)
    | some boot =>
      obtain ⟨file, hfile, hboot⟩ := Option.bind_eq_some_iff.mp hbooted
      have hsource : files.bootsFrom (.call path call) = some file.store := by
        cases call with
        | authority call => rw [Files.bootsFrom, hfile]; rfl
        | _ => cases hboot
      rw [hsource]
      exact .booted (call_bootedFrom hfile hboot)
  | restore source destination bootId incarnation deploymentId instanceId release nowMillis =>
    rw [Files.next, booted]
    cases hrestore : files.restoreRekey source destination bootId incarnation deploymentId
        instanceId release nowMillis with
    | error e => exact .kept (.refl files)
    | ok result =>
      obtain ⟨backup, hbackup, hbooted⟩ := restoreRekey_bootedFrom result hrestore
      rw [Files.bootsFrom, hbackup]
      exact .booted hbooted

lemma History.next {boots : List RecoveryBootContext} (h : History files boots) (step : Step) :
    History (files.next step) (boots ++ (booted files step).toList) := by
  have hstep := files_step files step
  generalize files.next step = after, Recovery.booted files step = boot,
    files.bootsFrom step = source at hstep ⊢
  cases hstep with
  | kept kept => simpa using h.kept kept
  | booted booted => exact h.raised booted

lemma history_run {boots : List RecoveryBootContext} (h : History files boots)
    (steps : List Step) :
    History (run Files.next files steps) (boots ++ outputs Files.next booted files steps) := by
  induction steps generalizing files boots with
  | nil => simpa [outputs] using h
  | cons step steps ih =>
    have hnext := ih (h.next step)
    rw [List.append_assoc] at hnext
    exact hnext

/-- The step boots from tables of the greatest generation, if it boots. -/
def BootsNewest (files : Files) (step : Step) : Prop :=
  (booted files step).isSome → ∀ tables, files.bootsFrom step = some tables →
    files.newest ≤ tables.generation

lemma newest_mono (files : Files) (step : Step) : files.newest ≤ (files.next step).newest := by
  have hstep := files_step files step
  generalize files.next step = after, booted files step = boot,
    files.bootsFrom step = source at hstep ⊢
  refine Table.maximum_le _ fun file hfile => ?_
  cases hstep with
  | kept kept =>
    have hmem : file.identity ∈ after.stores.rows.map StoreFile.identity := by
      rw [kept.stores]
      exact List.mem_map_of_mem hfile
    obtain ⟨later, hlater, heq⟩ := List.mem_map.mp hmem
    have hgeneration : file.store.generation = later.store.generation := by
      rw [generation_eq_identity, generation_eq_identity]
      exact congrArg (Option.elim · 0 Prod.snd) heq.symm
    rw [hgeneration]
    exact le_newest hlater
  | booted booted =>
    obtain ⟨later, hlater, hle⟩ := booted.grown file hfile
    exact hle.trans (le_newest hlater)

/-- A boot from the newest tables is newer than every store, and the newest from then on. -/
lemma booted_above {step : Step} (hnewest : BootsNewest files step) {generation : ℕ}
    (h : (booted files step).map RecoveryBootContext.authorityGeneration = some generation) :
    files.newest < generation ∧ generation ≤ (files.next step).newest := by
  obtain ⟨boot, hboot, rfl⟩ := Option.map_eq_some_iff.mp h
  have hstep := files_step files step
  have hnewest := hnewest (by rw [hboot]; rfl)
  rw [hboot] at hstep
  generalize files.next step = after, files.bootsFrom step = source at hstep hnewest ⊢
  cases hstep with
  | booted booted =>
    have hgeneration := booted.generation
    have hle := hnewest _ rfl
    obtain ⟨later, hlater, hidentity⟩ := List.mem_map.mp booted.reached
    have hlast : later.store.generation = boot.authorityGeneration := by
      rw [generation_eq_identity]
      exact congrArg (Option.elim · 0 Prod.snd) hidentity
    exact ⟨by omega, hlast.symm.trans_le (le_newest hlater)⟩

/-- A boot from older tables repeats the generation of an earlier boot. -/
lemma History.repeated {boots : List RecoveryBootContext} (h : History files boots)
    {step : Step} (hnewest : ¬ BootsNewest files step) :
    ∃ boot, Recovery.booted files step = some boot ∧ ∃ earlier ∈ boots,
      earlier.instanceId = boot.instanceId ∧
        earlier.authorityGeneration = boot.authorityGeneration := by
  rw [BootsNewest] at hnewest
  push Not at hnewest
  obtain ⟨hsome, tables, hsource, hlt⟩ := hnewest
  obtain ⟨boot, hboot⟩ := Option.isSome_iff_exists.mp hsome
  refine ⟨boot, hboot, ?_⟩
  have hstep := files_step files step
  rw [hboot, hsource] at hstep
  cases hstep with
  | booted hbooted =>
    have hgeneration := hbooted.generation
    obtain ⟨file, hfile, hnewer⟩ : ∃ file ∈ files.stores.rows,
        tables.generation < file.store.generation := by
      by_contra hnone
      push Not at hnone
      exact absurd (Table.maximum_le _ hnone) (not_le.mpr hlt)
    have hfileMem : file.store.identity ∈ files.identities :=
      List.mem_append_left _ (List.mem_map_of_mem hfile)
    cases h with
    | fresh stores backups =>
      have hnone : file.identity ∈ files.stores.rows.map StoreFile.identity :=
        List.mem_map_of_mem hfile
      rw [stores, List.mem_singleton] at hnone
      rw [generation_eq_identity file.store] at hnewer
      change _ < file.identity.elim 0 Prod.snd at hnewer
      rw [hnone] at hnewer
      exact absurd hnewer (Nat.not_lt_zero _)
    | settled instanceId instances reached =>
      obtain ⟨latest, hlatest, hbelow⟩ := reached _ hfileMem
      obtain ⟨generation, hidentity, -⟩ := reached _ hbooted.mem_source
      have hinstance : boot.instanceId = instanceId := hbooted.sameInstance _ hidentity
      rw [generation_eq_identity file.store, hlatest] at hnewer
      change tables.generation < latest at hnewer
      obtain ⟨earlier, hearlier, heq⟩ := hbelow boot.authorityGeneration (by omega) (by omega)
      exact ⟨earlier, hearlier, (instances earlier hearlier).trans hinstance.symm, heq⟩

/-- Any two boots of one instance have different generations. -/
def Distinct (boots : List RecoveryBootContext) : Prop :=
  boots.Pairwise fun boot later =>
    boot.instanceId = later.instanceId → boot.authorityGeneration ≠ later.authorityGeneration

/-- **No two boots of a run carry the same generation exactly when each boot, rekey and
restoration starts from the greatest generation of the stores.** -/
theorem generations_distinct_iff (path : String) (config : RecoveryStoreConfig)
    (steps : List Step) :
    Distinct (outputs Files.next booted (.original path config) steps) ↔
      Along Files.next BootsNewest (.original path config) steps := by
  constructor
  · intro hdistinct
    refine along_of_forall fun before step after hsplit => ?_
    by_contra hnewest
    subst hsplit
    have hhistory : History (Files.original path config) [] := .fresh rfl rfl
    obtain ⟨boot, hboot, earlier, hearlier, hinstance, hgeneration⟩ :=
      (history_run hhistory before).repeated hnewest
    rw [outputs_append, outputs, hboot] at hdistinct
    have hpair := (List.pairwise_append.mp hdistinct).2.2 earlier hearlier boot
      (List.mem_append_left _ (List.mem_singleton_self _))
    exact hpair hinstance hgeneration
  · intro hnewest
    have hincreasing := (outputs_increasing (P := fun _ => True) Files.newest
      (fun _ _ _ => trivial) (fun files step _ _ => newest_mono files step)
      (fun _ _ _ _ hnewest hboot => booted_above hnewest hboot) trivial hnewest).1
    rw [outputs_map, List.pairwise_map] at hincreasing
    exact hincreasing.imp fun hlt _ heq => absurd heq (ne_of_lt hlt)

end Token

/-! ### A backup restored twice -/

namespace Sample

def secondBootId : String := "00000000-0000-4000-8000-00000000000d"
def secondIncarnation : String := "00000000-0000-4000-8000-00000000000e"
def thirdBootId : String := "00000000-0000-4000-8000-00000000000f"
def thirdIncarnation : String := "00000000-0000-4000-8000-000000000010"

/-- A store that is booted, backed up and closed, and whose backup is restored to two paths. -/
def restoredTwice : List Step :=
  [.call "recovery.sqlite"
      (.authority (.startBoot bootId deployment instanceId incarnation release 1000)),
    .backup "recovery.sqlite" "backup.sqlite",
    .close "recovery.sqlite",
    .restore "backup.sqlite" "second.sqlite" secondBootId secondIncarnation deployment instanceId
      release 2000,
    .restore "backup.sqlite" "third.sqlite" thirdBootId thirdIncarnation deployment instanceId
      release 3000]

end Sample

section Example

attribute [local instance] Sample.sha256

/-- Both restorations establish the second generation. -/
theorem generations_repeated :
    ¬ Distinct (outputs Files.next booted (.original "recovery.sqlite" .default)
      Sample.restoredTwice) := by
  rw [Distinct]
  decide +kernel

end Example

end Sts2Gateway.Recovery
