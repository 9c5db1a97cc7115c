/-
Leases, identities and processes of the control plane.

* `RecordValid`, `Valid`: what holds between calls;
* `holders`, `starts`, `stops`: who holds a process, and how often its handle was
  handed over and stopped;
* `Valid.change`, `valid_run`: **every change keeps it**, so every run does;
* `control_plane_sound`: leases, capacity, identities and ownership in every
  reachable state.
-/
import Mathlib.Tactic
import Sts2Gateway.ControlPlane.Effects

namespace Sts2Gateway.ControlPlane

open Procedure Exchange OrderedMap

/-! ### Who holds a process -/

/-- The process of an instance. -/
def Gateway.heldBy (gateway : Gateway) (target : InstanceId) : Option ProcessHandle :=
  (gateway.instances[target]?).bind (·.process)

/-- The instances whose record holds a process. -/
def Gateway.holders (gateway : Gateway) (process : ProcessHandle) : Finset InstanceId :=
  (Finset.range gateway.nextInstanceId).filter fun target => gateway.heldBy target = some process

/-- How often the process port has handed a process over. -/
def starts (process : ProcessHandle) (log : List Event) : ℕ :=
  log.countP fun event => event.started = some process

/-- How often a stop of a process has succeeded. -/
def stops (process : ProcessHandle) (log : List Event) : ℕ :=
  log.countP fun event => event.stopped = some process

/-- The process port hands over no process that it has handed over before and that
was not stopped since. -/
def Exclusive (log : List Event) : Prop :=
  ∀ before event after process, log = before ++ event :: after → event.started = some process →
    starts process before ≤ stops process before

section Logs

variable {process : ProcessHandle} {log : List Event} {event : Event}

@[simp] lemma starts_append {other : List Event} :
    starts process (log ++ other) = starts process log + starts process other :=
  List.countP_append

@[simp] lemma stops_append {other : List Event} :
    stops process (log ++ other) = stops process log + stops process other :=
  List.countP_append

@[simp] lemma starts_singleton :
    starts process [event] = if event.started = some process then 1 else 0 := by
  simp [starts, List.countP_singleton]

@[simp] lemma stops_singleton :
    stops process [event] = if event.stopped = some process then 1 else 0 := by
  simp [stops, List.countP_singleton]

/-- A process is handed over at most once more than it was stopped. -/
lemma Exclusive.starts_le (h : Exclusive log) : starts process log ≤ stops process log + 1 := by
  induction log using List.reverseRecOn with
  | nil => exact Nat.zero_le _
  | append_singleton log event ih =>
    have hprefix : Exclusive log := by
      intro before other after process hlog
      refine h before other (after ++ [event]) process ?_
      rw [hlog, List.append_assoc, List.cons_append]
    have hle := ih hprefix
    rw [starts_append, stops_append, starts_singleton]
    split_ifs with hstarted
    · have := h log event [] process rfl hstarted
      omega
    · omega

/-- A port that never repeats a handle is exclusive. -/
lemma Exclusive.of_nodup (h : (log.filterMap Event.started).Nodup) : Exclusive log := by
  intro before event after process hlog hstarted
  rw [hlog, List.filterMap_append, List.filterMap_cons_some hstarted, List.nodup_append'] at h
  have hnone : starts process before = 0 := by
    refine List.countP_eq_zero.mpr fun earlier hearlier => ?_
    simp only [decide_eq_true_eq]
    intro hsame
    exact h.2.2 (List.mem_filterMap.mpr ⟨earlier, hearlier, hsame⟩) (List.mem_cons_self ..)
  omega

end Logs

/-! ### Records -/

/-- What holds of a record, against the identities that were given out. -/
structure RecordValid (gateway : Gateway) (target : InstanceId) (record : InstanceRecord) :
    Prop where
  key : target < gateway.nextInstanceId
  leased : record.lease.isSome = true ↔ record.state.isTerminal = false
  lease : ∀ lease, record.lease = some lease →
    lease.instanceId = target ∧ lease.leaseId < gateway.nextLeaseId

/-- A lease that a change leaves is the one before, under the same proof. -/
lemma Moves.proof {before after : InstanceRecord} (h : Moves before after) {lease : Lease}
    (hlease : after.lease = some lease) :
    ∃ earlier, before.lease = some earlier ∧ lease.proof = earlier.proof := by
  cases h with
  | kept hstate hsame => exact ⟨lease, hsame ▸ hlease, rfl⟩
  | active hbefore hafter hsame => exact ⟨lease, hsame ▸ hlease, rfl⟩
  | ended hafter hnone =>
    rw [hnone] at hlease
    cases hlease
  | renewed earlier tick hstate hbefore hafter =>
    rw [hafter] at hlease
    obtain ⟨⟩ := hlease
    exact ⟨earlier, hbefore, rfl⟩

/-- A change leaves a lease exactly in the states that are not terminal. -/
lemma Moves.leased {before after : InstanceRecord} (h : Moves before after)
    (hleased : before.lease.isSome = true ↔ before.state.isTerminal = false) :
    after.lease.isSome = true ↔ after.state.isTerminal = false := by
  cases h with
  | kept hstate hsame => rwa [hsame, hstate]
  | active hbefore hafter hsame =>
    rw [hsame]
    simp [hafter, hleased.mpr hbefore]
  | ended hafter hnone => simp [hnone, hafter]
  | renewed lease tick hstate hbefore hafter =>
    rw [hafter, hstate]
    simpa [hbefore] using hleased

lemma RecordValid.moves {gateway : Gateway} {target : InstanceId} {before after : InstanceRecord}
    (h : RecordValid gateway target before) (hmoves : Moves before after) :
    RecordValid gateway target after := by
  refine ⟨h.key, hmoves.leased h.leased, fun lease hlease => ?_⟩
  obtain ⟨earlier, hearlier, hproof⟩ := hmoves.proof hlease
  obtain ⟨hinstance, hid⟩ := h.lease earlier hearlier
  have hsame : lease.instanceId = earlier.instanceId := congrArg LeaseProof.instanceId hproof
  have hsameId : lease.leaseId = earlier.leaseId := congrArg LeaseProof.leaseId hproof
  exact ⟨hsame.trans hinstance, hsameId ▸ hid⟩

/-- Records stay valid while identities are given out. -/
lemma RecordValid.mono {gateway later : Gateway} {target : InstanceId} {record : InstanceRecord}
    (h : RecordValid gateway target record)
    (hinstance : gateway.nextInstanceId ≤ later.nextInstanceId)
    (hlease : gateway.nextLeaseId ≤ later.nextLeaseId) : RecordValid later target record :=
  ⟨h.key.trans_le hinstance, h.leased, fun lease hl =>
    ⟨(h.lease lease hl).1, (h.lease lease hl).2.trans_le hlease⟩⟩

/-! ### The invariant -/

/-- What holds of the control plane between calls. -/
structure Valid (config : GatewayConfig) (s : Plane) : Prop where
  limits : s.state.config = config
  room : s.state.instances.size ≤ config.capacity
  instanceIds : 0 < s.state.nextInstanceId
  leaseIds : 0 < s.state.nextLeaseId
  records : ∀ target record, s.state.instances[target]? = some record →
    RecordValid s.state target record
  conserved : ∀ process, (s.state.holders process).card + stops process s.events =
    starts process s.events
  launches : (s.events.filterMap Event.launches).Pairwise (· < ·)
  launched : ∀ target ∈ s.events.filterMap Event.launches, target < s.state.nextInstanceId

variable {config : GatewayConfig} {ports : Ports} {target : InstanceId} {s t : Plane}

lemma valid_start : Valid config (start config) where
  limits := rfl
  room := by simp [start, Gateway.new]
  instanceIds := Nat.one_pos
  leaseIds := Nat.one_pos
  records := by simp [start, Gateway.new]
  conserved := by simp [start, Gateway.new, Gateway.holders, Gateway.heldBy, stops, starts]
  launches := List.Pairwise.nil
  launched := by simp [start]

/-- The next instance id names no record. -/
lemma Valid.fresh (h : Valid config s) : s.state.instances[s.state.nextInstanceId]? = none := by
  cases hrecord : s.state.instances[s.state.nextInstanceId]? with
  | none => rfl
  | some record => exact absurd (h.records _ _ hrecord).key (lt_irrefl _)

lemma Valid.heldBy_fresh (h : Valid config s) : s.state.heldBy s.state.nextInstanceId = none := by
  rw [Gateway.heldBy, h.fresh]
  rfl

section Holders

variable {gateway later : Gateway} {process other : ProcessHandle}

lemma mem_holders : target ∈ gateway.holders process ↔
    target < gateway.nextInstanceId ∧ gateway.heldBy target = some process := by
  simp [Gateway.holders]

/-- Counters that grow over unused ids add no holder. -/
lemma holders_of_same (hnext : gateway.nextInstanceId ≤ later.nextInstanceId)
    (hheld : ∀ target, later.heldBy target = gateway.heldBy target)
    (hkeys : ∀ target process, gateway.heldBy target = some process →
      target < gateway.nextInstanceId) :
    later.holders process = gateway.holders process := by
  ext target
  rw [mem_holders, mem_holders, hheld]
  exact ⟨fun h => ⟨hkeys _ _ h.2, h.2⟩, fun h => ⟨h.1.trans_le hnext, h.2⟩⟩

/-- A record that takes a process is one more holder of it. -/
lemma card_holders_of_taken (hnext : gateway.nextInstanceId ≤ later.nextInstanceId)
    (hkeys : ∀ target process, gateway.heldBy target = some process →
      target < gateway.nextInstanceId)
    (hlt : target < later.nextInstanceId) (hfree : gateway.heldBy target = none)
    (htaken : later.heldBy target = some other)
    (hrest : ∀ i, i ≠ target → later.heldBy i = gateway.heldBy i) :
    (later.holders process).card = (gateway.holders process).card +
      if some other = some process then 1 else 0 := by
  have hnot : target ∉ gateway.holders process := by simp [mem_holders, hfree]
  have hset : later.holders process =
      if some other = some process then insert target (gateway.holders process)
      else gateway.holders process := by
    ext i
    rw [mem_holders]
    by_cases hi : i = target
    · subst hi
      split_ifs with hsame <;> simp [htaken, hlt, mem_holders, hfree, hsame]
    · rw [hrest i hi]
      have hin : i < later.nextInstanceId ∧ gateway.heldBy i = some process ↔
          i ∈ gateway.holders process := by
        rw [mem_holders]
        exact ⟨fun h => ⟨hkeys _ _ h.2, h.2⟩, fun h => ⟨h.1.trans_le hnext, h.2⟩⟩
      rw [hin]
      split_ifs <;> simp [hi]
  rw [hset]
  split_ifs
  · exact Finset.card_insert_of_notMem hnot
  · rfl

end Holders

lemma Valid.heldBy_lt (h : Valid config s) {process : ProcessHandle}
    (hheld : s.state.heldBy target = some process) : target < s.state.nextInstanceId := by
  obtain ⟨record, hrecord, -⟩ := Option.bind_eq_some_iff.mp hheld
  exact (h.records _ _ hrecord).key

/-! ### Lookups after a change -/

lemma modifyRecord_getElem? {gateway : Gateway} {f : InstanceRecord → InstanceRecord}
    (i : InstanceId) : (gateway.modifyRecord target f).instances[i]? =
      if target = i then gateway.instances[target]?.map f else gateway.instances[i]? := by
  rw [Gateway.modifyRecord, getElem?_modify_if]

lemma launch_getElem? {gateway : Gateway} {record : InstanceRecord} (i : InstanceId) :
    (gateway.launch record).instances[i]? =
      if gateway.nextInstanceId = i then some record else gateway.instances[i]? := by
  rw [Gateway.launch, getElem?_insert_if]

lemma removeRecord_getElem? {gateway : Gateway} (i : InstanceId) :
    (gateway.removeRecord target).instances[i]? =
      if target = i then none else gateway.instances[i]? := by
  rw [Gateway.removeRecord, getElem?_erase_if]

/-- A change of one record leaves valid records. -/
lemma Valid.modify (h : Valid config s) {f : InstanceRecord → InstanceRecord}
    (hf : ∀ record, s.state.instances[target]? = some record → Moves record (f record)) (i : InstanceId)
    (record : InstanceRecord)
    (hrecord : (s.state.modifyRecord target f).instances[i]? = some record) :
    RecordValid s.state i record := by
  rw [modifyRecord_getElem?] at hrecord
  split_ifs at hrecord with hi
  · subst hi
    obtain ⟨before, hbefore, rfl⟩ := Option.map_eq_some_iff.mp hrecord
    exact (h.records _ _ hbefore).moves (hf before hbefore)
  · exact h.records i record hrecord

/-- A change that keeps the process of its record changes no holder. -/
lemma heldBy_modify {gateway : Gateway} {f : InstanceRecord → InstanceRecord}
    (hf : ∀ record, gateway.instances[target]? = some record →
      (f record).process = record.process) (i : InstanceId) :
    (gateway.modifyRecord target f).heldBy i = gateway.heldBy i := by
  rw [Gateway.heldBy, modifyRecord_getElem?, Gateway.heldBy]
  split_ifs with hi
  · subst hi
    cases hrecord : gateway.instances[target]? with
    | none => rfl
    | some record => exact hf record hrecord
  · rfl

/-! ### Every change keeps the invariant -/

/-- An exchange that hands over no process and stops none. -/
lemma Valid.logged (h : Valid config s) {event : Event} (hlaunches : event.launches = none)
    (hstarted : event.started = none) (hstopped : event.stopped = none) :
    Valid config { s with events := s.events ++ [event] } where
  limits := h.limits
  room := h.room
  instanceIds := h.instanceIds
  leaseIds := h.leaseIds
  records := h.records
  conserved process := by simpa [hstarted, hstopped] using h.conserved process
  launches := by simpa [hlaunches] using h.launches
  launched := by simpa [hlaunches] using h.launched

/-- The launch of the next instance is the latest one. -/
lemma Valid.launches_next (h : Valid config s) (tick : Tick)
    (answer : Except ProcessFault ProcessHandle) :
    let log := s.events ++
      [Event.now tick, Event.start (.new s.state.nextInstanceId) answer]
    (log.filterMap Event.launches).Pairwise (· < ·) ∧
      ∀ i ∈ log.filterMap Event.launches, i < s.state.nextInstanceId + 1 := by
  have hlog : (s.events ++ [Event.now tick,
      Event.start (.new s.state.nextInstanceId) answer]).filterMap Event.launches =
      s.events.filterMap Event.launches ++ [s.state.nextInstanceId] := by
    simp only [List.filterMap_append]
    rfl
  dsimp only
  rw [hlog]
  refine ⟨List.pairwise_append.mpr ⟨h.launches, List.pairwise_singleton _ _, ?_⟩, ?_⟩
  · intro i hi j hj
    rw [List.mem_singleton.mp hj]
    exact h.launched i hi
  · intro i hi
    rcases List.mem_append.mp hi with hi | hi
    · exact Nat.lt_succ_of_lt (h.launched i hi)
    · rw [List.mem_singleton.mp hi]
      exact Nat.lt_succ_self _

/-- A change that moves no process and hands none over. -/
lemma Valid.conserved_of_same (h : Valid config s) {later : Gateway} {log : List Event}
    (hnext : s.state.nextInstanceId ≤ later.nextInstanceId)
    (hheld : ∀ i, later.heldBy i = s.state.heldBy i)
    (hstarts : ∀ process, starts process log = starts process s.events)
    (hstops : ∀ process, stops process log = stops process s.events) (process : ProcessHandle) :
    (later.holders process).card + stops process log = starts process log := by
  rw [holders_of_same hnext hheld fun i other => h.heldBy_lt, hstarts, hstops]
  exact h.conserved process

/-- **Every effect keeps the invariant.** -/
theorem Valid.effect (h : Valid config s) (heffect : Effect target s t) : Valid config t := by
  cases heffect with
  | logged event hquiet => exact h.logged hquiet.launches hquiet.started hquiet.stopped
  | closed =>
    exact ⟨h.limits, h.room, h.instanceIds, h.leaseIds,
      fun i record hrecord => (h.records i record hrecord).mono le_rfl le_rfl, h.conserved,
      h.launches, h.launched⟩
  | skipped =>
    exact ⟨h.limits, h.room, Nat.succ_pos _, h.leaseIds,
      fun i record hrecord => (h.records i record hrecord).mono (Nat.le_succ _) le_rfl,
      h.conserved_of_same (Nat.le_succ _) (fun _ => rfl) (fun _ => rfl) fun _ => rfl,
      h.launches, fun i hi => Nat.lt_succ_of_lt (h.launched i hi)⟩
  | refused tick fault htarget =>
    obtain ⟨hlaunches, hlaunched⟩ := h.launches_next tick (.error fault)
    subst htarget
    exact ⟨h.limits, h.room, Nat.succ_pos _, Nat.succ_pos _,
      fun i record hrecord => (h.records i record hrecord).mono (Nat.le_succ _) (Nat.le_succ _),
      h.conserved_of_same (Nat.le_succ _) (fun _ => rfl)
        (fun process => by simp [starts, Event.started])
        fun process => by simp [stops, Event.stopped],
      hlaunches, hlaunched⟩
  | launched tick record lease process htarget hroom hrecord hstate hprocess hinstance hlease =>
    obtain ⟨hlaunches, hlaunched⟩ := h.launches_next tick (.ok process)
    subst htarget
    refine ⟨h.limits, ?_, Nat.succ_pos _, Nat.succ_pos _, ?_, fun other => ?_, hlaunches, hlaunched⟩
    · dsimp only
      rw [Gateway.launch, size_insert_of_none h.fresh]
      exact h.limits ▸ hroom
    · intro i found hfound
      dsimp only at hfound
      rw [launch_getElem?] at hfound
      split_ifs at hfound with hi
      · subst hi
        obtain ⟨⟩ := hfound
        refine ⟨Nat.lt_succ_self _, by simp [hrecord, hstate], fun other hother => ?_⟩
        rw [hrecord] at hother
        obtain ⟨⟩ := hother
        exact ⟨hinstance, hlease ▸ Nat.lt_succ_self _⟩
      · exact (h.records i found hfound).mono (Nat.le_succ _) (Nat.le_succ _)
    · have htaken : (s.state.launch record).heldBy s.state.nextInstanceId = some process := by
        simp [Gateway.heldBy, Gateway.launch, hprocess]
      have hrest : ∀ i, i ≠ s.state.nextInstanceId →
          (s.state.launch record).heldBy i = s.state.heldBy i := by
        intro i hi
        simp [Gateway.heldBy, Gateway.launch, getElem?_insert_if, Ne.symm hi]
      have hcard : ((s.state.launch record).holders other).card =
          (s.state.holders other).card + if some process = some other then 1 else 0 :=
        card_holders_of_taken (Nat.le_succ _) (fun i held => h.heldBy_lt) (Nat.lt_succ_self _)
          h.heldBy_fresh htaken hrest
      have hconserved := h.conserved other
      have hstarts : starts other [Event.now tick, Event.start (.new s.state.nextInstanceId)
          (.ok process)] = if some process = some other then 1 else 0 := by
        simp [starts, List.countP_cons, Event.started]
      have hstops : stops other [Event.now tick, Event.start (.new s.state.nextInstanceId)
          (.ok process)] = 0 := by
        simp [stops, Event.stopped]
      rw [hcard, starts_append, stops_append, hstarts, hstops]
      omega
  | marked f hf =>
    refine ⟨h.limits, ?_, h.instanceIds, h.leaseIds, ?_, ?_, h.launches, h.launched⟩
    · exact (Std.ExtTreeMap.size_modify).trans_le h.room
    · intro i record hrecord
      exact (h.modify (fun found hfound => (hf found hfound).1) i record hrecord).mono le_rfl le_rfl
    · exact h.conserved_of_same le_rfl (heldBy_modify fun record hrecord => (hf record hrecord).2)
        (fun _ => rfl) fun _ => rfl
  | stopped f mode hrecord hprocess hmoves hcleared =>
    rename_i record process
    have hlaunches : (s.events ++ [Event.stop process mode (.ok ())]).filterMap Event.launches =
        s.events.filterMap Event.launches := by
      rw [List.filterMap_append]
      exact List.append_nil _
    refine ⟨h.limits, ?_, h.instanceIds, h.leaseIds, ?_, fun other => ?_, ?_, ?_⟩
    · exact (Std.ExtTreeMap.size_modify).trans_le h.room
    · intro i found hfound
      refine (h.modify (fun before hbefore => ?_) i found hfound).mono le_rfl le_rfl
      rw [hrecord] at hbefore
      obtain ⟨⟩ := hbefore
      exact hmoves
    · have hheld : s.state.heldBy target = some process := by
        rw [Gateway.heldBy, hrecord]
        exact hprocess
      have hfree : (s.state.modifyRecord target f).heldBy target = none := by
        rw [Gateway.heldBy, modifyRecord_getElem?, if_pos rfl, hrecord]
        exact hcleared
      have hrest : ∀ i, i ≠ target →
          s.state.heldBy i = (s.state.modifyRecord target f).heldBy i := by
        intro i hi
        rw [Gateway.heldBy, Gateway.heldBy, modifyRecord_getElem?, if_neg (Ne.symm hi)]
      have hkeys : ∀ i held, (s.state.modifyRecord target f).heldBy i = some held →
          i < s.state.nextInstanceId := by
        intro i held hi
        by_cases hit : i = target
        · exact hit ▸ h.heldBy_lt hheld
        · exact h.heldBy_lt ((hrest i hit).trans hi)
      -- The stop undoes the taking of the process.
      have hcard : (s.state.holders other).card =
          ((s.state.modifyRecord target f).holders other).card +
            if some process = some other then 1 else 0 :=
        card_holders_of_taken le_rfl hkeys (h.heldBy_lt hheld) hfree hheld hrest
      have hconserved := h.conserved other
      rw [starts_append, stops_append, starts_singleton, stops_singleton]
      by_cases hsame : some process = some other
      · simp only [Event.started, Event.stopped, reduceCtorEq, hsame, if_true, if_false] at hcard ⊢
        omega
      · simp only [Event.started, Event.stopped, reduceCtorEq, hsame, if_false] at hcard ⊢
        omega
    · rw [hlaunches]
      exact h.launches
    · rw [hlaunches]
      exact h.launched
  | removed hrecord hprocess =>
    refine ⟨h.limits, Std.ExtTreeMap.size_erase_le.trans h.room, h.instanceIds, h.leaseIds,
      fun i record hi => ?_, ?_, h.launches, h.launched⟩
    · rw [removeRecord_getElem?] at hi
      split_ifs at hi
      exact (h.records i record hi).mono le_rfl le_rfl
    · refine h.conserved_of_same le_rfl (fun i => ?_) (fun _ => rfl) fun _ => rfl
      rw [Gateway.heldBy, removeRecord_getElem?, Gateway.heldBy]
      split_ifs with hi
      · subst hi
        rw [hrecord]
        exact hprocess.symm
      · rfl

lemma Valid.change (h : Valid config s) (hchange : Change target s t) : Valid config t := by
  cases hchange with
  | effect heffect => exact h.effect heffect
  | sent request reply => exact h.logged rfl rfl rfl

lemma Valid.changes (h : Valid config s) (hchanges : Changes s t) : Valid config t := by
  induction hchanges with
  | refl => exact h
  | tail _ hchange ih =>
    obtain ⟨target, hchange⟩ := hchange
    exact ih.change hchange

/-- **The invariant holds after every run.** -/
theorem valid_run (ports : Ports) (config : GatewayConfig) (calls : List Call) :
    Valid config (run ports (start config) calls) :=
  Machine.run_invariant (fun _ _ h => h.changes (next_changes h.fresh)) valid_start calls

/-! ### Identities -/

def Allocation.leaseId (allocation : Allocation) : LeaseId := allocation.lease.leaseId

/-- An identity of the allocation that a call answers with. -/
def issued (ports : Ports) (identity : Allocation → ℕ) (s : Plane) (call : Call) : Option ℕ :=
  match (perform ports s call).1 with
  | .ok (.allocated allocation) => some (identity allocation)
  | _ => none

/-- Identities are never taken back. -/
lemma Changes.counters (h : Changes s t) :
    s.state.nextInstanceId ≤ t.state.nextInstanceId ∧ s.state.nextLeaseId ≤ t.state.nextLeaseId := by
  induction h with
  | refl => exact ⟨le_rfl, le_rfl⟩
  | tail _ hchange ih =>
    refine ⟨ih.1.trans ?_, ih.2.trans ?_⟩
    all_goals
      obtain ⟨target, ⟨⟨⟩⟩ | ⟨⟩⟩ := hchange <;>
        simp [Gateway.launch, Gateway.modifyRecord, Gateway.removeRecord, sent]

/-- An answered allocation has taken the next identities. -/
lemma perform_allocated (h : Valid config s) {call : Call} {allocation : Allocation}
    (hanswer : (perform ports s call).1 = .ok (.allocated allocation)) :
    Allocated s (next ports s call) allocation := by
  refine after_perform ports s call
    (Q := fun r t => r = .ok (.allocated allocation) → Allocated s t allocation) ?_ hanswer
  have hother : ∀ {α : Type} (f : α → Answer) (p : GatewayM α), (∀ a, f a ≠ .allocated allocation) →
      After (f <$> p) s fun r t => r = .ok (.allocated allocation) → Allocated s t allocation := by
    intro α f p hf
    refine (after_map f p).mpr (After.of_forall fun r t hr => ?_)
    cases r with
    | error error => cases hr
    | ok a => exact absurd (Except.ok.inj hr) (hf a)
  cases call with
  | allocate callerId sessionId =>
    refine (after_map _ _).mpr ((allocate_after h.fresh).mono fun r t ht hr => ?_)
    cases r with
    | error error => cases hr
    | ok answered =>
      cases hr
      exact ht.2 _ rfl
  | _ => exact hother _ _ nofun

/-- **Identities are given out once.**  Those of one kind are strictly increasing. -/
theorem issued_increasing (identity : Allocation → ℕ) (counter : Gateway → ℕ)
    (hpositive : ∀ s, Valid config s → 0 < counter s.state)
    (hmono : ∀ s t, Changes s t → counter s.state ≤ counter t.state)
    (htaken : ∀ s t allocation, Allocated s t allocation →
      identity allocation = counter s.state ∧ counter t.state = counter s.state + 1)
    (calls : List Call) :
    (Machine.outputs (next ports) (issued ports identity) (start config) calls).Pairwise
      (· < ·) := by
  refine (Machine.outputs_increasing (P := Valid config)
    (C := fun _ _ => True) (fun s => counter s.state - 1)
    (fun _ _ h => h.changes (next_changes h.fresh)) ?_ ?_ valid_start
    (Machine.along_of_forall fun _ _ _ _ => trivial)).1
  · intro s call h _
    exact Nat.sub_le_sub_right (hmono s _ (next_changes h.fresh)) 1
  · intro s call n h _ hissued
    unfold issued at hissued
    split at hissued
    · rename_i allocation hanswer
      obtain ⟨⟩ := hissued
      obtain ⟨hidentity, hcounter⟩ := htaken _ _ _ (perform_allocated h hanswer)
      have := hpositive s h
      omega
    · cases hissued

/-! ### The main result -/

/-- **The control plane is sound** in every reachable state, whatever the clock and
the ports answer.  An instance has a lease exactly when its state is not terminal;
there are at most as many instances as the capacity; no instance id is launched
twice and no instance or lease id is allocated twice; and a process is held by as
many records as it was handed over without a successful stop, so by exactly one
while the process port hands over no process that is still owned. -/
theorem control_plane_sound (ports : Ports) (config : GatewayConfig) (calls : List Call) :
    let s := run ports (start config) calls
    (∀ (target : InstanceId) record, s.state.instances[target]? = some record →
      (record.lease.isSome = true ↔ record.state.isTerminal = false)) ∧
    s.state.instances.size ≤ config.capacity ∧
    (s.events.filterMap Event.launches).Nodup ∧
    (Machine.outputs (next ports) (issued ports Allocation.instanceId) (start config) calls).Nodup ∧
    (Machine.outputs (next ports) (issued ports Allocation.leaseId) (start config) calls).Nodup ∧
    (∀ process, (s.state.holders process).card + stops process s.events =
      starts process s.events) ∧
    (Exclusive s.events → ∀ process, stops process s.events < starts process s.events →
      ∃! target, s.state.heldBy target = some process) := by
  intro s
  have h : Valid config s := valid_run ports config calls
  refine ⟨fun target record hrecord => (h.records target record hrecord).leased, h.room,
    h.launches.imp fun hlt => ne_of_lt hlt, ?_, ?_, h.conserved, fun hexclusive process howned => ?_⟩
  · exact (issued_increasing Allocation.instanceId Gateway.nextInstanceId
      (fun _ hs => hs.instanceIds) (fun _ _ hc => hc.counters.1)
      (fun _ _ _ ha => ⟨ha.instanceId, ha.nextInstanceId⟩) calls).imp fun hlt => ne_of_lt hlt
  · exact (issued_increasing Allocation.leaseId Gateway.nextLeaseId
      (fun _ hs => hs.leaseIds) (fun _ _ hc => hc.counters.2)
      (fun _ _ _ ha => ⟨ha.leaseId, ha.nextLeaseId⟩) calls).imp fun hlt => ne_of_lt hlt
  · have hconserved := h.conserved process
    have hle : starts process s.events ≤ stops process s.events + 1 := hexclusive.starts_le
    obtain ⟨target, htarget⟩ := Finset.card_eq_one.mp
      (show (s.state.holders process).card = 1 by omega)
    have hmem : ∀ i, s.state.heldBy i = some process ↔ i = target := by
      intro i
      have hin : i ∈ s.state.holders process ↔ i = target := by rw [htarget, Finset.mem_singleton]
      rw [← hin, mem_holders]
      exact ⟨fun hi => ⟨h.heldBy_lt hi, hi⟩, fun hi => hi.2⟩
    exact ⟨target, (hmem target).mpr rfl, fun i hi => (hmem i).mp hi⟩

/-- The process of the sample instance is held by one record. -/
theorem control_plane_sound_sample :
    ∃! target, (run Sample.ports (start Sample.config) Sample.calls).state.heldBy target = some 1 :=
  (control_plane_sound Sample.ports Sample.config Sample.calls).2.2.2.2.2.2
    (Exclusive.of_nodup (by decide +kernel)) 1 (by decide +kernel)

end Sts2Gateway.ControlPlane
