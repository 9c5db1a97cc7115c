/-
The discipline of the native registry.

* `Sound`: what the registry and the log keep between exchanges;
* `Follows`: what a call leaves of the records that it found;
* `Within`, `Calm`: both, and the same without a start;
* `save_calm`, `reserve_calm`, `observe_calm`, `dispatch_within`: what each part of
  a call keeps;
* `call_within`, `next_follows`: **so does every call**, wherever a crash or a fault
  ends it;
* `registry_discipline`: starts, write-once fields, user data and absence in every
  reachable state.
-/
import Mathlib
import Sts2Gateway.Native.Port

namespace Sts2Gateway.Native

open ControlPlane (InstanceId ProcessHandle ProcessFault StopMode LaunchSpec)
open Lifecycle (LaunchProfile LaunchProfileId ProcessOperationGeneration)
open Procedure Exchange Crash Relational Text

/-! ### Starts -/

/-- The generation key of a start. -/
def Event.startedKey : Event → Option String
  | .started record _ => some record.key
  | _ => none

/-- The generation keys of the starts so far. -/
def startedKeys (log : List Event) : List String := log.filterMap Event.startedKey

@[simp] lemma startedKeys_append {log other : List Event} :
    startedKeys (log ++ other) = startedKeys log ++ startedKeys other :=
  List.filterMap_append

lemma startedKeys_quiet {log : List Event} {event : Event} (h : event.startedKey = none) :
    startedKeys (log ++ [event]) = startedKeys log := by
  simp [startedKeys, h]

/-! ### What holds between exchanges -/

/-- What the registry and the log keep. -/
structure Sound (registry : GenerationRegistry) (log : List Event) : Prop where
  /-- Rows hold records under their own ids and keys. -/
  keyed : ∀ row ∈ registry.rows.rows, row.record.key = row.generationKey
  /-- Records that are not absent have user data of their own. -/
  exclusive : ∀ row ∈ registry.rows.rows, ∀ other ∈ registry.rows.rows,
    row.record.absent = false → other.record.absent = false →
      row.record.profile.userData = other.record.profile.userData → row = other
  once : (startedKeys log).Nodup
  reserved : ∀ key ∈ startedKeys log, registry.rows.find? key ≠ none
  savedFirst : ∀ before record answer after, log = before ++ .started record answer :: after →
    record.dispatched = true ∧ .saved record .done ∈ before

/-- The call has seen an event. -/
def Seen (s t : CallState NativeProcessPort Event) (event : Event) : Prop :=
  ∃ new, t.events = s.events ++ new ∧ event ∈ new

/-- What a later state keeps of the rows that a call found; a record became absent
only after its control group was seen empty. -/
structure Follows (s t : CallState NativeProcessPort Event) : Prop where
  log : ∃ new, t.events = s.events ++ new
  rows : ∀ row ∈ s.state.registry.rows.rows, ∃ later,
    t.state.registry.rows.find? row.generationKey = some later ∧ later.id = row.id ∧
      row.record.Keeps later.record ∧
      (row.record.absent = false → later.record.absent = true →
        ∃ group, later.record.controlGroup = some group ∧ Seen s t (.emptyGroup group (.ok true)))

/-- What holds in the course of a call that started in a state. -/
structure Within (s t : CallState NativeProcessPort Event) : Prop where
  sound : Sound t.state.registry t.events
  follows : Follows s t

/-- The same, while nothing is started. -/
structure Calm (s : CallState NativeProcessPort Event) (keys : List String)
    (t : CallState NativeProcessPort Event) : Prop where
  within : Within s t
  keys : startedKeys t.events = keys

section Rules

variable {host : Host} {s t : CallState NativeProcessPort Event} {keys : List String}
  {record : GenerationRecord}

/-- A later state of the call, with the registry as it was. -/
structure Later (t u : CallState NativeProcessPort Event) : Prop where
  state : u.state = t.state
  log : ∃ new, u.events = t.events ++ new

lemma Later.refl : Later t t := ⟨rfl, [], (List.append_nil _).symm⟩

lemma Later.trans {u v : CallState NativeProcessPort Event} (h : Later t u) (h' : Later u v) :
    Later t v := by
  obtain ⟨new, hnew⟩ := h.log
  obtain ⟨new', hnew'⟩ := h'.log
  exact ⟨h'.state.trans h.state, new ++ new', by rw [hnew', hnew, List.append_assoc]⟩

lemma Seen.later {u : CallState NativeProcessPort Event} {event : Event} (h : Seen s t event)
    (hlog : ∃ new, u.events = t.events ++ new) : Seen s u event := by
  obtain ⟨new, hevents, hmem⟩ := h
  obtain ⟨rest, hrest⟩ := hlog
  exact ⟨new ++ rest, by rw [hrest, hevents, List.append_assoc], List.mem_append_left _ hmem⟩

/-- An event that starts nothing. -/
lemma Sound.quiet {registry : GenerationRegistry} {log : List Event} {event : Event}
    (h : Sound registry log) (hquiet : event.startedKey = none) :
    Sound registry (log ++ [event]) where
  keyed := h.keyed
  exclusive := h.exclusive
  once := by rw [startedKeys_quiet hquiet]; exact h.once
  reserved := by rw [startedKeys_quiet hquiet]; exact h.reserved
  savedFirst := by
    intro before record answer after hlog
    rcases append_singleton_eq_iff.mp hlog with ⟨-, -, rfl⟩ | ⟨rest, -, hlog⟩
    · cases hquiet
    · exact h.savedFirst before record answer rest hlog

lemma Follows.append {event : Event} (h : Follows s t) :
    Follows s { t with events := t.events ++ [event] } where
  log := by
    obtain ⟨new, hevents⟩ := h.log
    exact ⟨new ++ [event], by rw [hevents, List.append_assoc]⟩
  rows row hrow := by
    obtain ⟨later, hfind, hid, hkeeps, habsent⟩ := h.rows row hrow
    refine ⟨later, hfind, hid, hkeeps, fun hbefore hafter => ?_⟩
    obtain ⟨group, hgroup, hseen⟩ := habsent hbefore hafter
    exact ⟨group, hgroup, hseen.later ⟨[event], rfl⟩⟩

lemma Calm.quiet {event : Event} (h : Calm s keys t) (hquiet : event.startedKey = none) :
    Calm s keys { t with events := t.events ++ [event] } where
  within := ⟨h.within.sound.quiet hquiet, h.within.follows.append⟩
  keys := by rw [startedKeys_quiet hquiet]; exact h.keys

/-- An exchange that starts nothing. -/
lemma calm_interact {α : Type} {answer : List Event → NativeProcessPort → α}
    {event : NativeProcessPort → α → Event} {Error : Type} (h : Calm s keys t)
    (hquiet : ∀ port a, (event port a).startedKey = none) :
    Ensures (interact host.crashes answer event : PortM Error α) t (Calm s keys) fun a u =>
      Later t u ∧ u.events = t.events ++ [event t.state a] :=
  Ensures.interact h fun _ _ => ⟨h.quiet (hquiet _ _), ⟨rfl, _, rfl⟩, rfl⟩

/-! ### The registry -/

lemma decodeRow_eq_ok {row : RegistryRow} (h : decodeRow host row = .ok record) :
    record = row.record ∧ record.key = row.generationKey := by
  unfold decodeRow at h
  obtain ⟨_, _, h⟩ := except_bind_eq_ok.mp h
  obtain ⟨_, hrow, h⟩ := except_bind_eq_ok.mp h
  obtain ⟨⟩ := h
  simp only [refuse_eq_ok, not_or, not_not] at hrow
  exact ⟨rfl, hrow.2.2⟩

lemma query_calm (h : Calm s keys t) :
    Ensures (query host) t (Calm s keys) fun registry u =>
      Later t u ∧ registry = t.state.registry := by
  unfold query
  refine (calm_interact h fun _ _ => rfl).bind fun answered u hu ⟨hlater, _⟩ => ?_
  refine .check_bind hu fun _ _ => .getState_bind ?_
  exact .pure hu ⟨hlater, by rw [hlater.state]⟩

/-- A lookup by key finds the record of the row under it. -/
lemma byKey_calm (h : Calm s keys t) {key : String} :
    Ensures (byKey host key) t (Calm s keys) fun found u =>
      Later t u ∧ (found = none → t.state.registry.rows.find? key = none) ∧
        ∀ record, found = some record → ∃ row,
          t.state.registry.rows.find? key = some row ∧ row.record = record ∧ record.key = key := by
  unfold byKey
  refine (query_calm h).bind fun registry u hu ⟨hlater, hregistry⟩ => ?_
  subst hregistry
  cases hfind : t.state.registry.rows.find? key with
  | none => exact .pure hu ⟨hlater, fun _ => rfl, fun record hnone => by cases hnone⟩
  | some row =>
    refine Ensures.map (Ensures.check hu fun record hrow => ?_)
    obtain ⟨rfl, hkey⟩ := decodeRow_eq_ok hrow
    refine ⟨hlater, ?_, ?_⟩
    · rintro ⟨⟩
    · rintro _ ⟨⟩
      exact ⟨row, rfl, rfl, hkey.trans (Table.key_of_find? hfind)⟩

lemma byHandle_calm (h : Calm s keys t) {handle : ProcessHandle} :
    Ensures (byHandle host handle) t (Calm s keys) fun record u =>
      Later t u ∧ ∃ row,
        t.state.registry.rows.find? record.key = some row ∧ row.record = record := by
  unfold byHandle
  refine .check_bind h fun _ _ => ?_
  refine (query_calm h).bind fun registry u hu ⟨hlater, hregistry⟩ => ?_
  subst hregistry
  refine .check_bind hu fun row hfound => Ensures.check hu fun record hrow => ?_
  obtain ⟨rfl, hkey⟩ := decodeRow_eq_ok hrow
  have hmem := List.mem_of_find?_eq_some (okOr_eq_ok.mp hfound)
  exact ⟨hlater, row, Table.find?_eq_some.mpr ⟨hmem, hkey.symm⟩, rfl⟩

/-- A transaction commits its write, or changes nothing. -/
lemma commit_calm {event : Commit → Event} {f : GenerationRegistry → GenerationRegistry}
    (h : Calm s keys t) (hquiet : ∀ outcome, (event outcome).startedKey = none)
    (hwrite : ∀ u, Calm s keys u → Later t u →
      Calm s keys { u with state := { u.state with registry := f u.state.registry } }) :
    Ensures (commit host event f) t (Calm s keys) fun _ u =>
      u.state = { t.state with registry := f t.state.registry } ∧ event .done ∈ u.events := by
  unfold commit
  refine (calm_interact h fun _ outcome => hquiet outcome).bind fun outcome u hu ⟨hlater, hlog⟩ => ?_
  have hnext := hwrite u hu hlater
  cases outcome with
  | failed => exact .raise hu
  | done =>
    refine .modifyState hnext ⟨by rw [hlater.state], ?_⟩
    show event .done ∈ u.events
    rw [hlog]
    exact List.mem_append_right _ (List.mem_singleton_self _)
  | lost =>
    exact (Ensures.modifyState (Q := fun _ _ => True) hnext trivial).bind fun _ v hv _ => .raise hv

/-! ### Saves -/

/-- A record that is marked absent was loaded so. -/
def Loaded (t : CallState NativeProcessPort Event) (record : GenerationRecord) : Prop :=
  record.absent = true → ∃ row,
    t.state.registry.rows.find? record.key = some row ∧ row.record.absent = true

/-- A record that is marked absent was loaded so, or its group was seen empty. -/
def Justified (s t : CallState NativeProcessPort Event) (record : GenerationRecord) : Prop :=
  Loaded t record ∨
    ∃ group, record.controlGroup = some group ∧ Seen s t (.emptyGroup group (.ok true))

lemma Loaded.later {u : CallState NativeProcessPort Event} (h : Loaded t record)
    (hlater : Later t u) : Loaded u record := by
  rw [Loaded, hlater.state]
  exact h

lemma Justified.later {u : CallState NativeProcessPort Event} (h : Justified s t record)
    (hlater : Later t u) : Justified s u record :=
  h.imp (fun hloaded => hloaded.later hlater) fun ⟨group, hgroup, hseen⟩ =>
    ⟨group, hgroup, hseen.later hlater.log⟩

section Update

variable {registry : GenerationRegistry} {log : List Event} {row : RegistryRow}

lemma find?_update {key : String} : (registry.update record).rows.find? key =
    (registry.rows.find? key).map fun row =>
      if row.generationKey = record.key then row.setRecord record else row := by
  unfold GenerationRegistry.update
  rw [Table.find?_update]
  simp only [decide_eq_true_eq]

lemma mem_update {after : RegistryRow} : after ∈ (registry.update record).rows.rows ↔
    ∃ row ∈ registry.rows.rows,
      (if row.generationKey = record.key then row.setRecord record else row) = after := by
  unfold GenerationRegistry.update
  rw [Table.mem_update]
  simp only [decide_eq_true_eq]

/-- What an update leaves of each row. -/
lemma keeps_update (hrow : registry.rows.find? record.key = some row)
    (hkeeps : row.record.Keeps record) {other : RegistryRow} (hother : other ∈ registry.rows.rows) :
    other.record.Keeps
      (if other.generationKey = record.key then other.setRecord record else other).record := by
  split_ifs with hkey
  · have hsame : registry.rows.find? record.key = some other :=
      Table.find?_eq_some.mpr ⟨hother, hkey⟩
    rw [hrow] at hsame
    obtain ⟨⟩ := hsame
    exact hkeeps
  · exact .refl _

lemma Sound.update (h : Sound registry log) (hrow : registry.rows.find? record.key = some row)
    (hkeeps : row.record.Keeps record) : Sound (registry.update record) log where
  keyed := by
    intro after hafter
    obtain ⟨other, hother, hset⟩ := mem_update.mp hafter
    rw [← hset]
    split_ifs with hkey
    · exact hkey.symm
    · exact h.keyed other hother
  exclusive := by
    intro after hafter after' hafter' habsent habsent' hsame
    obtain ⟨other, hother, hset⟩ := mem_update.mp hafter
    obtain ⟨other', hother', hset'⟩ := mem_update.mp hafter'
    have hk := keeps_update hrow hkeeps hother
    have hk' := keeps_update hrow hkeeps hother'
    rw [hset] at hk
    rw [hset'] at hk'
    have hsame' : other = other' := by
      refine h.exclusive other hother other' hother' ?_ ?_ ?_
      · exact Bool.eq_false_iff.mpr fun habs => absurd (hk.absent habs) (by simp [habsent])
      · exact Bool.eq_false_iff.mpr fun habs => absurd (hk'.absent habs) (by simp [habsent'])
      · rw [← hk.profile, ← hk'.profile, hsame]
    rw [← hset, ← hset', hsame']
  once := h.once
  reserved key hkey := by
    rw [find?_update]
    exact fun hnone => h.reserved key hkey (Option.map_eq_none_iff.mp hnone)
  savedFirst := h.savedFirst

lemma Follows.update (h : Follows s t)
    (hrow : t.state.registry.rows.find? record.key = some row) (hkeeps : row.record.Keeps record)
    (hjustified : Justified s t record) :
    Follows s { t with state := { t.state with registry := t.state.registry.update record } } where
  log := h.log
  rows earlier hearlier := by
    obtain ⟨later, hfind, hid, hk, habsent⟩ := h.rows earlier hearlier
    have hlater := keeps_update hrow hkeeps (Table.find?_eq_some.mp hfind).1
    refine ⟨if later.generationKey = record.key then later.setRecord record else later, ?_, ?_,
      hk.trans hlater, fun hbefore hafter => ?_⟩
    · rw [find?_update, hfind]
      rfl
    · split_ifs <;> exact hid
    · cases hheld : later.record.absent with
      | true =>
        obtain ⟨group, hgroup, hseen⟩ := habsent hbefore hheld
        exact ⟨group, hlater.controlGroup group hgroup, hseen⟩
      | false =>
        -- the save marked the record absent: it was not loaded so
        split_ifs at hafter ⊢ with hkey
        · have hsame : t.state.registry.rows.find? record.key = some later :=
            Table.find?_eq_some.mpr ⟨(Table.find?_eq_some.mp hfind).1, hkey⟩
          rcases hjustified with hloaded | ⟨group, hgroup, hseen⟩
          · obtain ⟨loaded, hloaded, habs⟩ := hloaded hafter
            rw [hsame] at hloaded
            obtain ⟨⟩ := hloaded
            rw [hheld] at habs
            cases habs
          · exact ⟨group, hgroup, hseen⟩
        · rw [hheld] at hafter
          cases hafter

end Update

/-- **Saves.**  A save keeps every record that was there, and leaves the saved one. -/
lemma save_calm (h : Calm s keys t) (hjustified : Justified s t record) :
    Ensures (save host record) t (Calm s keys) fun _ u =>
      .saved record .done ∈ u.events ∧
        ∃ row, u.state.registry.rows.find? record.key = some row ∧ row.record = record := by
  unfold save
  refine (byKey_calm h).bind fun found u hu ⟨hlater, _, hfound⟩ => ?_
  refine .check_bind hu fun before hbefore => ?_
  obtain ⟨row, hrow, rfl, -⟩ := hfound before (okOr_eq_ok.mp hbefore)
  refine .check_bind hu fun _ hchecked => ?_
  have hkeeps : row.record.Keeps record :=
    keeps_of_not_overwrites (by simpa using refuse_eq_ok.mp hchecked)
  refine .check_bind hu fun _ _ => .getState_bind ?_
  have hwrite : ∀ v, Calm s keys v → Later u v → Calm s keys
      { v with state := { v.state with registry := v.state.registry.update record } } := by
    intro v hv huv
    have htv := hlater.trans huv
    have hvrow : v.state.registry.rows.find? record.key = some row := by rw [htv.state, hrow]
    exact ⟨⟨hv.within.sound.update hvrow hkeeps,
      hv.within.follows.update hvrow hkeeps (hjustified.later htv)⟩, hv.keys⟩
  refine (commit_calm hu (fun _ => rfl) hwrite).bind fun _ w hw ⟨hstate, hlog⟩ => ?_
  refine Ensures.check hw fun _ _ => ⟨hlog, row.setRecord record, ?_, rfl⟩
  rw [hstate, hlater.state, find?_update, hrow, Option.map_some,
    if_pos (Table.key_of_find? hrow)]

/-! ### Reservations -/

section Insert

variable {registry : GenerationRegistry} {log : List Event}

/-- A reservation at a new key adds its row. -/
lemma rows_insert (hnew : registry.rows.find? record.key = none) :
    registry.rows.insert { id := registry.nextId, generationKey := record.key, record } =
      some (registry.insert record).rows := by
  obtain ⟨rows, hrows⟩ := Option.ne_none_iff_exists'.mp
    (mt Table.insert_eq_none.mp (not_not.mpr hnew) : registry.rows.insert
      { id := registry.nextId, generationKey := record.key, record } ≠ none)
  rw [GenerationRegistry.insert, hrows]

lemma Sound.insert (h : Sound registry log) (hnew : registry.rows.find? record.key = none)
    (hfree : claimed registry record.profile = false) : Sound (registry.insert record) log := by
  have hinsert := rows_insert hnew
  have hrows := (Table.insert_eq_some.mp hinsert).2
  have hfree : ∀ row ∈ registry.rows.rows, row.record.absent = false →
      row.record.profile.userData ≠ record.profile.userData := by
    intro row hrow habsent hsame
    have := List.any_eq_false.mp hfree row hrow
    simp [hsame, habsent] at this
  refine ⟨fun row hrow => ?_, fun row hrow other hother habsent habsent' hsame => ?_, h.once,
    fun key hkey => ?_, h.savedFirst⟩
  · rw [hrows, List.mem_append, List.mem_singleton] at hrow
    rcases hrow with hrow | rfl
    · exact h.keyed row hrow
    · rfl
  · rw [hrows, List.mem_append, List.mem_singleton] at hrow hother
    rcases hrow with hrow | rfl <;> rcases hother with hother | rfl
    · exact h.exclusive row hrow other hother habsent habsent' hsame
    · exact absurd hsame (hfree row hrow habsent)
    · exact absurd hsame.symm (hfree other hother habsent')
    · rfl
  · rw [Table.find?_insert hinsert]
    split_ifs
    · exact Option.some_ne_none _
    · exact h.reserved key hkey

lemma Follows.insert (h : Follows s t)
    (hnew : t.state.registry.rows.find? record.key = none) :
    Follows s { t with state := { t.state with registry := t.state.registry.insert record } } where
  log := h.log
  rows earlier hearlier := by
    obtain ⟨later, hfind, hid, hkeeps, habsent⟩ := h.rows earlier hearlier
    have hne : record.key ≠ earlier.generationKey := by
      intro hkey
      rw [hkey, hfind] at hnew
      cases hnew
    refine ⟨later, ?_, hid, hkeeps, habsent⟩
    show (t.state.registry.insert record).rows.find? earlier.generationKey = some later
    rw [Table.find?_insert (rows_insert hnew), if_neg hne, hfind]

end Insert

/-- **Reservations.**  A new record has a key that no start had. -/
lemma reserve_calm (h : Calm s keys t) {key digest boot : String} {profile : LaunchProfile} :
    Ensures (reserve host key profile digest boot) t (Calm s keys) fun reserved u =>
      Loaded u reserved.1 ∧ (reserved.2 = true → reserved.1.key ∉ keys) := by
  unfold reserve
  refine (byKey_calm h).bind fun found u hu ⟨hlater, hnone, hsome⟩ => ?_
  cases found with
  | some record =>
    obtain ⟨row, hrow, hrecord, hkey⟩ := hsome record rfl
    refine .pure hu ⟨fun habsent => ⟨row, ?_, hrecord ▸ habsent⟩, by simp⟩
    rw [hlater.state, hkey, hrow]
  | none =>
    have hnew := hnone rfl
    have hunused : key ∉ keys := by
      intro hmem
      rw [← h.keys] at hmem
      exact h.within.sound.reserved key hmem hnew
    refine .getState_bind (.check_bind hu fun _ _ => .check_bind hu fun _ _ => ?_)
    refine .check_bind hu fun _ hchecked => ?_
    have hfree : claimed u.state.registry profile = false := by
      simpa using refuse_eq_ok.mp hchecked
    refine (calm_interact hu fun _ _ => rfl).bind fun id v hv ⟨huv, _⟩ => ?_
    refine .check_bind hv fun _ _ => ?_
    refine (commit_calm hv (fun _ => rfl) fun w hw hvw => ?_).bind fun _ w hw _ => ?_
    · have hstate := hvw.state.trans huv.state
      have hnew' : w.state.registry.rows.find? key = none := by
        rw [hstate, hlater.state, hnew]
      exact ⟨⟨hw.within.sound.insert hnew' (by rw [hstate]; exact hfree),
        hw.within.follows.insert hnew'⟩, hw.keys⟩
    · exact .pure hw ⟨fun habsent => absurd habsent Bool.false_ne_true, fun _ => hunused⟩

/-! ### Observations -/

/-- A save through the port leaves the record as the registry has it. -/
lemma savePort_calm (h : Calm s keys t) (hjustified : Justified s t record) :
    Ensures (savePort host record) t (Calm s keys) fun _ u => Loaded u record := by
  refine ((save_calm h hjustified).mapError).mono (fun _ hu => hu) fun _ u hu ⟨_, hrow⟩ => ?_
  obtain ⟨row, hrow, hrecord⟩ := hrow
  exact fun habsent => ⟨row, hrow, hrecord ▸ habsent⟩

lemma emptyGroup_calm (h : Calm s keys t) {path : String} :
    Ensures (emptyGroup host path) t (Calm s keys) fun empty u =>
      Later t u ∧ (empty = true → Seen s u (.emptyGroup path (.ok true))) := by
  unfold emptyGroup
  refine (calm_interact h fun _ _ => rfl).bind fun answer u hu ⟨hlater, hlog⟩ => ?_
  refine Ensures.check hu fun empty hanswer => ⟨hlater, fun hempty => ?_⟩
  obtain ⟨new, hnew⟩ := h.within.follows.log
  refine ⟨new ++ [.emptyGroup path answer], by rw [hlog, hnew, List.append_assoc], ?_⟩
  rw [hanswer, hempty]
  exact List.mem_append_right _ (List.mem_singleton_self _)

lemma observeMissing_calm (h : Calm s keys t) :
    Ensures (observeMissing host record) t (Calm s keys) fun observed u =>
      Loaded u observed.1 := by
  unfold observeMissing
  cases record.controlGroup with
  | none => exact .raise h
  | some group =>
    refine (emptyGroup_calm h).bind fun empty u hu ⟨hlater, hseen⟩ => ?_
    cases empty with
    | false => exact .raise hu
    | true =>
      simp only [if_true]
      have hjustified : Justified s u
          { record with absent := true, controlGroup := some group } :=
        .inr ⟨group, rfl, hseen rfl⟩
      exact (savePort_calm hu hjustified).bind fun _ v hv hloaded => .pure hv hloaded

lemma observePresent_calm (h : Calm s keys t) (hloaded : Loaded t record)
    {members : List NativeMember} {terminal : Bool} :
    Ensures (observePresent host record members terminal) t (Calm s keys) fun observed u =>
      Loaded u observed.1 := by
  unfold observePresent
  refine .check_bind h fun _ _ => ?_
  split_ifs with hended
  · refine .check_bind h fun group hchecked => ?_
    have hgroup := okOr_eq_ok.mp hchecked
    refine (emptyGroup_calm h).bind fun empty w hw ⟨hlater, hseen⟩ => ?_
    have hjustified : Justified s w { record with absent := record.absent || empty } := by
      cases empty with
      | true => exact .inr ⟨group, hgroup, hseen rfl⟩
      | false =>
        refine .inl fun habsent => hloaded.later hlater ?_
        simpa using habsent
    exact (savePort_calm hw hjustified).bind fun _ x hx hloaded => .pure hx hloaded
  · exact (savePort_calm h (.inl hloaded)).bind fun _ v hv hloaded => .pure hv hloaded

/-- Binding an observation marks no record absent. -/
lemma absent_bindObservation {bound : GenerationRecord} {instanceId : InstanceId}
    {binding : NativeProfile} {invocation controlGroup : String} {mainPid : ℕ}
    {members : List NativeMember}
    (h : bindObservation host record instanceId binding invocation controlGroup mainPid members =
      .ok bound) : bound.key = record.key ∧ bound.absent = record.absent := by
  unfold bindObservation at h
  obtain ⟨_, _, h⟩ := except_bind_eq_ok.mp h
  obtain ⟨_, _, h⟩ := except_bind_eq_ok.mp h
  obtain ⟨_, _, h⟩ := except_bind_eq_ok.mp h
  obtain ⟨_, _, h⟩ := except_bind_eq_ok.mp h
  obtain ⟨⟩ := h
  exact ⟨rfl, rfl⟩

/-- **Observations.**  What is observed is saved, and no more is marked absent than
was seen empty. -/
lemma observe_calm (h : Calm s keys t) (hloaded : Loaded t record) {instanceId : InstanceId} :
    Ensures (observe host record instanceId) t (Calm s keys) fun observed u =>
      Loaded u observed.1 := by
  unfold observe
  refine .getState_bind ?_
  refine .check_bind h fun binding _ => ?_
  refine .check_bind h fun _ _ => ?_
  split_ifs with hdispatched
  · exact .pure h hloaded
  · refine (calm_interact h fun _ _ => rfl).bind fun answer x hx ⟨hlater, _⟩ => ?_
    refine .check_bind hx fun observed _ => ?_
    cases observed with
    | missing => exact observeMissing_calm hx
    | present invocation controlGroup mainPid members terminal =>
      refine .check_bind hx fun bound hbound => observePresent_calm hx ?_
      obtain ⟨hkey, habsent⟩ := absent_bindObservation hbound
      rw [Loaded, hkey, habsent]
      exact hloaded.later hlater

/-! ### Calls -/

lemma current_calm (h : Calm s keys t) {handle : ProcessHandle} :
    Ensures (current host handle) t (Calm s keys) fun observed u => Loaded u observed.1 := by
  unfold current
  refine ((byHandle_calm h).mapError).bind fun record u hu ⟨hlater, row, hrow, hrecord⟩ => ?_
  have hloaded : Loaded t record := fun habsent => ⟨row, hrow, hrecord ▸ habsent⟩
  refine .check_bind hu fun identity _ => ?_
  exact observe_calm hu (hloaded.later hlater)

lemma recovered_calm (h : Calm s keys t) (hloaded : Loaded t record) {instanceId : InstanceId} :
    Ensures (recovered host record instanceId) t (Calm s keys) fun _ _ => True := by
  unfold recovered
  refine .getState_bind ?_
  refine .check_bind h fun binding _ => ?_
  split_ifs with hdispatched
  · exact .pure h trivial
  · refine (observe_calm h hloaded).bind fun ⟨record, members⟩ w hw _ => ?_
    dsimp only
    split
    · exact .pure hw trivial
    · exact .pure hw trivial

/-- **Dispatch.**  A record whose key was never started is started once, after its
dispatch was saved. -/
lemma dispatch_within (h : Calm s keys t) (hloaded : Loaded t record) (hunused : record.key ∉ keys)
    {binding : NativeProfile} :
    Ensures (dispatch host record binding) t (Within s) fun record u => Loaded u record := by
  unfold dispatch
  refine Ensures.bind (R := fun _ u => Calm s keys u ∧ Later t u)
    ((calm_interact h fun _ _ => rfl).mono (fun _ hu => hu.within) fun _ u hu hq => ⟨hu, hq.1⟩)
    fun claim u hu ⟨hcalm, hlater⟩ => ?_
  refine .check_bind hu fun _ _ => ?_
  have hjustified : Justified s u { record with dispatched := true } :=
    .inl (hloaded.later hlater)
  refine Ensures.bind (R := fun _ w => Calm s keys w ∧
    .saved { record with dispatched := true } .done ∈ w.events ∧
      ∃ row, w.state.registry.rows.find? record.key = some row ∧
        row.record = { record with dispatched := true })
    ((save_calm hcalm hjustified).mapError.mono (fun _ hw => hw.within) fun _ w hw hq => ⟨hw, hq⟩)
    fun _ w hw ⟨hcalm, hsaved, row, hrow, hrecord⟩ => ?_
  have hstarted : ∀ answer : Except ProcessFault Unit, Within s { w with
      events := w.events ++ [.started { record with dispatched := true } answer] } := by
    intro answer
    refine ⟨⟨hw.sound.keyed, hw.sound.exclusive, ?_, ?_, ?_⟩, hw.follows.append⟩
    · rw [startedKeys_append, hcalm.keys]
      refine List.Nodup.append ?_ (List.nodup_singleton _) ?_
      · rw [← hcalm.keys]
        exact hw.sound.once
      · simpa [startedKeys, Event.startedKey] using hunused
    · intro key hkey
      rw [startedKeys_append, List.mem_append] at hkey
      rcases hkey with hkey | hkey
      · exact hw.sound.reserved key hkey
      · have : key = record.key := by simpa [startedKeys, Event.startedKey] using hkey
        rw [this, hrow]
        exact Option.some_ne_none _
    · intro before started answer' after hlog
      rcases append_singleton_eq_iff.mp hlog with ⟨-, rfl, hevent⟩ | ⟨rest, -, hlog⟩
      · obtain ⟨rfl, -⟩ := Event.started.inj hevent
        exact ⟨rfl, hsaved⟩
      · exact hw.sound.savedFirst before started answer' rest hlog
  refine (Ensures.interact (Q := fun _ x => Loaded x { record with dispatched := true }) hw
    fun answer _ => ⟨hstarted answer, fun habsent => ⟨row, hrow, hrecord ▸ habsent⟩⟩).bind
    fun answer x hx hloaded => ?_
  refine .check_bind hx fun _ _ => ?_
  exact .pure hx hloaded

lemma startGeneration_within [Sha256] (h : Within s t) {generation : ProcessOperationGeneration}
    {specification : LaunchSpec} {profile : LaunchProfile} :
    Ensures (startGeneration host generation specification profile) t (Within s)
      fun _ _ => True := by
  have hcalm : Calm s (startedKeys t.events) t := ⟨h, rfl⟩
  unfold startGeneration
  refine .check_bind h fun _ _ => ?_
  refine .getState_bind ?_
  refine .check_bind h fun binding _ => ?_
  refine Ensures.bind (R := fun _ x => Calm s (startedKeys t.events) x)
    ((calm_interact hcalm fun _ _ => rfl).mono (fun _ hx => hx.within) fun _ x hx _ => hx)
    fun image x hx hcalm => ?_
  refine .check_bind hx fun _ _ => ?_
  refine Ensures.bind (R := fun reserved z => Calm s (startedKeys t.events) z ∧
    Loaded z reserved.1 ∧ (reserved.2 = true → reserved.1.key ∉ startedKeys t.events))
    ((reserve_calm hcalm).mapError.mono (fun _ hz => hz.within) fun _ z hz hq => ⟨hz, hq⟩)
    fun ⟨record, new⟩ z hz ⟨hcalm, hloaded, hunused⟩ => ?_
  refine .check_bind hz fun _ _ => ?_
  refine Ensures.bind (R := fun record z => Loaded z record) ?_ fun record z hz hloaded => ?_
  · split_ifs with hnew
    · exact dispatch_within hcalm hloaded (hunused hnew)
    · exact .pure hz hloaded
  · have hcalm : Calm s (startedKeys z.events) z := ⟨hz, rfl⟩
    refine Ensures.bind (R := fun _ _ => True)
      ((recovered_calm hcalm hloaded).mapError.mono (fun _ h => h.within) fun _ _ _ _ => trivial)
      fun recovery t h _ => ?_
    cases recovery with
    | found identity => exact .pure h trivial
    | indeterminate => exact .raise h

lemma recoverGeneration_calm [Sha256] (h : Calm s keys t) {generation : ProcessOperationGeneration}
    {profile : LaunchProfile} :
    Ensures (recoverGeneration host generation profile) t (Calm s keys) fun _ _ => True := by
  unfold recoverGeneration
  refine .getState_bind ?_
  refine .check_bind h fun _ _ => ?_
  refine ((byKey_calm h).mapError).bind fun found w hw ⟨hlater, _, hfound⟩ => ?_
  cases found with
  | none => exact .pure hw trivial
  | some record =>
    obtain ⟨row, hrow, hrecord, hkey⟩ := hfound record rfl
    refine .check_bind hw fun _ _ => ?_
    refine recovered_calm hw fun habsent => ⟨row, ?_, hrecord ▸ habsent⟩
    rw [hlater.state, hkey, hrow]

lemma inspectIdentity_calm (h : Calm s keys t) {process : ProcessHandle} :
    Ensures (inspectIdentity host process) t (Calm s keys) fun _ _ => True := by
  unfold inspectIdentity
  exact (current_calm h).bind fun _ u hu _ => .check hu fun _ _ => trivial

lemma inspect_calm (h : Calm s keys t) {process : ProcessHandle} :
    Ensures (inspect host process) t (Calm s keys) fun _ _ => True := by
  unfold inspect
  refine (current_calm h).bind fun ⟨record, members⟩ u hu _ => ?_
  refine .check_bind hu fun _ _ => .check_bind hu fun identity _ => ?_
  split_ifs <;> exact .pure hu trivial

lemma descendants_calm (h : Calm s keys t) {process : ProcessHandle} :
    Ensures (descendants host process) t (Calm s keys) fun _ _ => True := by
  unfold descendants
  refine (current_calm h).bind fun ⟨record, members⟩ u hu _ => ?_
  exact .check_bind hu fun _ _ => .check_bind hu fun _ _ => .pure hu trivial

lemma stop_calm (h : Calm s keys t) {process : ProcessHandle} {mode : StopMode} :
    Ensures (stop host process mode) t (Calm s keys) fun _ _ => True := by
  unfold stop
  refine (current_calm h).bind ?_
  rintro ⟨record, members⟩ u hu hloaded
  dsimp only
  split_ifs with habsent
  · exact .pure hu trivial
  · refine .getState_bind ?_
    refine .check_bind hu fun _ _ => ?_
    refine .check_bind hu fun identity _ => ?_
    have hjustified : Justified s u { record with stopping := true } := .inl hloaded
    refine (savePort_calm hu hjustified).bind fun _ y hy hloaded => ?_
    refine (calm_interact hy fun _ _ => rfl).bind fun answer z hz hsaved => ?_
    refine .check_bind hz fun _ _ => ?_
    refine (observe_calm hz (hloaded.later hsaved.1)).bind fun observed z hz _ => ?_
    exact .check hz fun _ _ => trivial

/-- **Calls.**  Every call keeps the discipline, wherever it ends. -/
theorem call_within [Sha256] (h : Within s t) (call : Call) :
    Ensures (call.run host) t (Within s) fun _ _ => True := by
  have hcalm : Calm s (startedKeys t.events) t := ⟨h, rfl⟩
  cases call with
  | startGeneration generation specification profile =>
    exact .map (startGeneration_within h).mapError
  | recoverGeneration generation profile =>
    exact .map ((recoverGeneration_calm hcalm).mapError.mono (fun _ hu => hu.within)
      fun _ _ _ _ => trivial)
  | inspectIdentity process =>
    exact .map ((inspectIdentity_calm hcalm).mapError.mono (fun _ hu => hu.within)
      fun _ _ _ _ => trivial)
  | inspect process =>
    exact .map ((inspect_calm hcalm).mapError.mono (fun _ hu => hu.within)
      fun _ _ _ _ => trivial)
  | descendants process =>
    exact .map ((descendants_calm hcalm).mapError.mono (fun _ hu => hu.within)
      fun _ _ _ _ => trivial)
  | stop process mode =>
    exact .map ((stop_calm hcalm).mapError.mono (fun _ hu => hu.within) fun _ _ _ _ => trivial)

end Rules

/-! ### Runs -/

/-- What a step leaves of the rows before it: the log grows, and a row keeps its
id, its key and what its record must keep; a record that the step made absent has a
control group that the step saw empty. -/
structure StepKeeps (before after : System) : Prop where
  log : ∃ new, after.events = before.events ++ new ∧
    ∀ row ∈ before.registry.rows.rows, ∃ later ∈ after.registry.rows.rows,
      later.id = row.id ∧ later.generationKey = row.generationKey ∧
        row.record.Keeps later.record ∧
        (row.record.absent = false → later.record.absent = true →
          ∃ group, later.record.controlGroup = some group ∧ .emptyGroup group (.ok true) ∈ new)

/-- What any number of steps leaves of the rows before them. -/
def RowsKept (before after : System) : Prop :=
  ∀ row ∈ before.registry.rows.rows, ∃ later ∈ after.registry.rows.rows,
    later.id = row.id ∧ later.generationKey = row.generationKey ∧ row.record.Keeps later.record

variable {host : Host} {system : System}

lemma RowsKept.refl (system : System) : RowsKept system system :=
  fun row hrow => ⟨row, hrow, rfl, rfl, .refl _⟩

lemma RowsKept.trans {a b c : System} (h : RowsKept a b) (h' : RowsKept b c) : RowsKept a c := by
  intro row hrow
  obtain ⟨later, hlater, hid, hkey, hkeeps⟩ := h row hrow
  obtain ⟨last, hlast, hid', hkey', hkeeps'⟩ := h' later hlater
  exact ⟨last, hlast, hid'.trans hid, hkey'.trans hkey, hkeeps.trans hkeeps'⟩

lemma StepKeeps.rowsKept {before after : System} (h : StepKeeps before after) :
    RowsKept before after := by
  intro row hrow
  obtain ⟨new, -, hrows⟩ := h.log
  obtain ⟨later, hlater, hid, hkey, hkeeps, -⟩ := hrows row hrow
  exact ⟨later, hlater, hid, hkey, hkeeps⟩

lemma StepKeeps.refl (system : System) (port : Option Settings) :
    StepKeeps system { system with port } := by
  refine ⟨[], (List.append_nil _).symm, fun row hrow => ⟨row, hrow, rfl, rfl, .refl _, ?_⟩⟩
  intro hbefore hafter
  rw [hbefore] at hafter
  cases hafter

/-- A call that starts has changed nothing yet. -/
lemma within_refl {s : CallState NativeProcessPort Event} (h : Sound s.state.registry s.events) :
    Within s s where
  sound := h
  follows := by
    refine ⟨⟨[], (List.append_nil _).symm⟩, fun row hrow => ⟨row, ?_, rfl, .refl _, ?_⟩⟩
    · exact Table.find?_eq_some.mpr ⟨hrow, rfl⟩
    · intro hbefore hafter
      rw [hbefore] at hafter
      cases hafter

/-- What a call keeps, as a step of the system. -/
lemma Within.stepKeeps {settings : Settings} {t : CallState NativeProcessPort Event}
    (h : Within (system.callState settings) t) (port : Option Settings) :
    StepKeeps system { system.after t with port } := by
  obtain ⟨new, hnew⟩ := h.follows.log
  refine ⟨new, hnew, fun row hrow => ?_⟩
  obtain ⟨later, hfind, hid, hkeeps, habsent⟩ := h.follows.rows row hrow
  obtain ⟨hmem, hkey⟩ := Table.find?_eq_some.mp hfind
  refine ⟨later, hmem, hid, hkey, hkeeps, fun hbefore hafter => ?_⟩
  obtain ⟨group, hgroup, seen, hseen, hmem⟩ := habsent hbefore hafter
  rw [hnew] at hseen
  exact ⟨group, hgroup, List.append_cancel_left hseen ▸ hmem⟩

/-- **Steps.**  A step keeps the discipline, wherever a crash ends it. -/
lemma next_keeps [Sha256] (h : Sound system.registry system.events) (step : Step) :
    Sound (next host system step).registry (next host system step).events ∧
      StepKeeps system (next host system step) := by
  cases step with
  | reopen settings =>
    unfold next
    dsimp only
    cases openRegistry host settings system.registry with
    | ok port => exact ⟨h, .refl system _⟩
    | error e => exact ⟨h, .refl system _⟩
  | call call =>
    unfold next
    dsimp only
    cases hport : system.port with
    | none => exact ⟨h, .refl system _⟩
    | some settings =>
      have hcall : Ensures (call.run host) (system.callState settings)
          (Within (system.callState settings)) fun _ _ => True :=
        call_within (within_refl h) call
      unfold Ensures After at hcall
      dsimp only
      cases hrun : (call.run host).run (system.callState settings) with
      | ok answer t =>
        rw [hrun] at hcall
        exact ⟨hcall.1.sound, hcall.1.stepKeeps system.port⟩
      | error halt t =>
        rw [hrun] at hcall
        cases halt with
        | crashed => exact ⟨hcall.1.sound, hcall.1.stepKeeps none⟩
        | raised error => exact ⟨hcall.1.sound, hcall.1.stepKeeps system.port⟩

lemma sound_start (identity : String) : Sound (start identity).registry (start identity).events where
  keyed := by simp [start, GenerationRegistry.empty, Table.empty]
  exclusive := by simp [start, GenerationRegistry.empty, Table.empty]
  once := List.nodup_nil
  reserved := by simp [start, startedKeys]
  savedFirst := by simp [start]

lemma sound_run [Sha256] (identity : String) (steps : List Step) :
    Sound (run host (start identity) steps).registry (run host (start identity) steps).events :=
  Machine.run_invariant (P := fun system : System => Sound system.registry system.events)
    (fun _ step h => (next_keeps h step).1) (sound_start identity) steps

lemma rowsKept_run [Sha256] (h : Sound system.registry system.events) (steps : List Step) :
    RowsKept system (run host system steps) :=
  Machine.run_relation (P := fun system : System => Sound system.registry system.events)
    (C := fun _ _ => True) RowsKept.refl (fun _ _ _ => RowsKept.trans)
    (fun _ step h => (next_keeps h step).1) (fun _ step h _ => (next_keeps h step).2.rowsKept) h
    (Machine.along_of_forall fun _ _ _ _ => trivial)

end Sts2Gateway.Native
