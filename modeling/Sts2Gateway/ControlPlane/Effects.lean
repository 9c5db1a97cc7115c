/-
What a call of the control plane can do.

* `Moves`: how one change leaves the lease and the state of a record;
* `Effect`: the changes of one instance, each with its exchange;
* `Steps`: chains of effects on one instance;
* `validateFence_after`: a refused proof may have expired its target; an accepted
  one has changed nothing;
* `allocate_after`, `reconcile_after`, ..., `shutdown_after`: **each call is a chain
  of effects**, whatever its ports answer;
* `next_effects`, `next_changes_of_target`, `next_changes`: the same for every call.
-/
import Mathlib
import Sts2Gateway.ControlPlane.Gateway

namespace Sts2Gateway.ControlPlane

open Procedure Exchange OrderedMap

/-! ### Effects -/

/-- The process that an exchange hands over to the gateway. -/
def Event.started : Event → Option ProcessHandle
  | .start _ (.ok process) => some process
  | _ => none

/-- The process that an exchange has stopped. -/
def Event.stopped : Event → Option ProcessHandle
  | .stop process _ (.ok ()) => some process
  | _ => none

/-- The instance that an exchange tries to start. -/
def Event.launches : Event → Option InstanceId
  | .start specification _ => some specification.instanceId
  | _ => none

/-- The request that an exchange sends to a process. -/
def Event.sends : Event → Option TransportRequest
  | .forward request _ => some request
  | _ => none

/-- An exchange that hands over no process, stops none and sends no request. -/
structure Event.Quiet (event : Event) : Prop where
  sends : event.sends = none
  launches : event.launches = none
  started : event.started = none
  stopped : event.stopped = none

/-- The lease and the state of a record before and after one change. -/
inductive Moves (before after : InstanceRecord) : Prop
  | kept (hstate : after.state = before.state) (hlease : after.lease = before.lease)
  | active (hbefore : before.state.isTerminal = false) (hafter : after.state.isTerminal = false)
      (hlease : after.lease = before.lease)
  | ended (hafter : after.state.isTerminal = true) (hlease : after.lease = none)
  | renewed (lease : Lease) (tick : Tick) (hstate : after.state = before.state)
      (hbefore : before.lease = some lease) (hafter : after.lease = some (lease.renewed tick))

/-- The next instance, with its record. -/
def Gateway.launch (gateway : Gateway) (record : InstanceRecord) : Gateway :=
  { gateway with
    instances := gateway.instances.insert gateway.nextInstanceId record
    nextInstanceId := gateway.nextInstanceId + 1
    nextLeaseId := gateway.nextLeaseId + 1 }

/-- One change of an instance, with the exchange that it answers; none sends a
request. -/
inductive Effect (target : InstanceId) (s : Plane) : Plane → Prop
  | logged (event : Event) (hquiet : event.Quiet) :
      Effect target s { s with events := s.events ++ [event] }
  | closed : Effect target s { s with state := { s.state with isAdmitting := false } }
  /-- An instance id taken without a lease id. -/
  | skipped :
      Effect target s
        { s with state := { s.state with nextInstanceId := s.state.nextInstanceId + 1 } }
  /-- A start that the process port refused leaves no record. -/
  | refused (tick : Tick) (fault : ProcessFault) (htarget : target = s.state.nextInstanceId) :
      Effect target s
        { state := { s.state with
            nextInstanceId := s.state.nextInstanceId + 1, nextLeaseId := s.state.nextLeaseId + 1 }
          events := s.events ++ [.now tick, .start (.new target) (.error fault)] }
  | launched (tick : Tick) (record : InstanceRecord) (lease : Lease) (process : ProcessHandle)
      (htarget : target = s.state.nextInstanceId)
      (hroom : s.state.instances.size < s.state.config.capacity)
      (hrecord : record.lease = some lease) (hstate : record.state.isTerminal = false)
      (hprocess : record.process = some process) (hinstance : lease.instanceId = target)
      (hlease : lease.leaseId = s.state.nextLeaseId) :
      Effect target s
        { state := s.state.launch record
          events := s.events ++ [.now tick, .start (.new target) (.ok process)] }
  /-- A change that keeps the process of the record. -/
  | marked (f : InstanceRecord → InstanceRecord)
      (hf : ∀ record, s.state.instances[target]? = some record →
        Moves record (f record) ∧ (f record).process = record.process) :
      Effect target s { s with state := s.state.modifyRecord target f }
  /-- A stop that succeeded gives the handle of its record up. -/
  | stopped (f : InstanceRecord → InstanceRecord) {record : InstanceRecord}
      {process : ProcessHandle} (mode : StopMode)
      (hrecord : s.state.instances[target]? = some record)
      (hprocess : record.process = some process) (hmoves : Moves record (f record))
      (hcleared : (f record).process = none) :
      Effect target s
        { state := s.state.modifyRecord target f
          events := s.events ++ [.stop process mode (.ok ())] }
  | removed {record : InstanceRecord} (hrecord : s.state.instances[target]? = some record)
      (hprocess : record.process = none) :
      Effect target s { s with state := s.state.removeRecord target }

/-- A chain of effects on one instance. -/
abbrev Steps (target : InstanceId) : Plane → Plane → Prop :=
  Relation.ReflTransGen (Effect target)

variable {ports : Ports} {target : InstanceId} {s : Plane}

lemma Event.Quiet.now (tick : Tick) : (Event.now tick).Quiet := ⟨rfl, rfl, rfl, rfl⟩

lemma Event.Quiet.checkFence (proof : LeaseProof) (decision : Except FenceFailure Unit) :
    (Event.checkFence target proof decision).Quiet := ⟨rfl, rfl, rfl, rfl⟩

lemma Event.Quiet.inspect (process : ProcessHandle) (answer : Except ProcessFault ProcessState) :
    (Event.inspect process answer).Quiet := ⟨rfl, rfl, rfl, rfl⟩

lemma Event.Quiet.stopFailed (process : ProcessHandle) (mode : StopMode) (fault : ProcessFault) :
    (Event.stop process mode (.error fault)).Quiet := ⟨rfl, rfl, rfl, rfl⟩

lemma Event.Quiet.probe (process : ProcessHandle) (answer : Except HealthFault Readiness) :
    (Event.probe target process answer).Quiet := ⟨rfl, rfl, rfl, rfl⟩

lemma Steps.logged {event : Event} (h : event.Quiet) :
    Steps target s { s with events := s.events ++ [event] } := .single (.logged event h)

/-- A move to a terminal state is always an effect. -/
lemma Steps.ended (state : LifecycleState) (hstate : state.isTerminal = true) :
    Steps target s { s with state := s.state.modifyRecord target (·.markEnded state) } :=
  .single (.marked _ fun _ _ => ⟨.ended hstate rfl, rfl⟩)

/-- A move between states that are not terminal. -/
lemma Steps.active {record : InstanceRecord} (hrecord : s.state.instances[target]? = some record)
    (hbefore : record.state.isTerminal = false) (state : LifecycleState)
    (hafter : state.isTerminal = false) :
    Steps target s { s with state := s.state.modifyRecord target (·.markActive state) } := by
  refine .single (.marked _ fun other hother => ?_)
  rw [hrecord] at hother
  obtain ⟨⟩ := hother
  exact ⟨.active hbefore hafter rfl, rfl⟩

/-- An observation, and the move between active states that it leads to. -/
lemma Steps.observed {record : InstanceRecord} {event : Event} (hquiet : event.Quiet)
    (hrecord : s.state.instances[target]? = some record)
    (hbefore : record.state.isTerminal = false) (state : LifecycleState)
    (hafter : state.isTerminal = false) :
    Steps target s
      { state := s.state.modifyRecord target (·.markActive state)
        events := s.events ++ [event] } := by
  refine (Steps.logged hquiet).trans (Steps.active ?_ hbefore state hafter)
  exact hrecord

/-! ### Procedures -/

/-- `instances.get` finds the record or refuses. -/
@[simp] lemma after_getRecord {Q : Except GatewayError InstanceRecord → Plane → Prop} :
    After (getRecord target) s Q ↔
      Q (okOr s.state.instances[target]? .instanceNotFound) s := by
  simp only [getRecord, after_bind, after_getState, after_liftM]

@[simp] lemma after_modifyRecord {f : InstanceRecord → InstanceRecord}
    {Q : Except GatewayError Unit → Plane → Prop} :
    After (modifyRecord target f) s Q ↔
      Q (.ok ()) { s with state := s.state.modifyRecord target f } := Iff.rfl

lemma getElem?_modifyRecord {gateway : Gateway} {f : InstanceRecord → InstanceRecord}
    {record : InstanceRecord} (h : gateway.instances[target]? = some record) :
    (gateway.modifyRecord target f).instances[target]? = some (f record) := by
  simp [Gateway.modifyRecord, h]

/-- The stop of an owned process: the handle is given up with its record's mark,
or the record has failed and keeps it. -/
lemma stopOwned_after {record : InstanceRecord} {process : ProcessHandle} {mode : StopMode}
    {mark : InstanceRecord → InstanceRecord} (hrecord : s.state.instances[target]? = some record)
    (hprocess : record.process = some process) (hmoves : Moves record (mark record.clearProcess))
    (hmark : (mark record.clearProcess).process = none) :
    After (stopOwned ports target process mode mark) s fun answer t =>
      Steps target s t ∧ (answer = .ok (.ok ()) →
        t.state = s.state.modifyRecord target fun record => mark record.clearProcess) := by
  simp only [stopOwned, stopProcess, after_bind, after_exchange]
  cases hstop : ports.stop s.events process mode with
  | ok =>
    simp only [after_bind, after_modifyRecord, after_pure]
    exact ⟨.single (.stopped _ mode hrecord hprocess hmoves hmark), fun _ => trivial⟩
  | error fault =>
    simp only [after_bind, after_modifyRecord, after_pure]
    refine ⟨(Steps.logged (.stopFailed process mode fault)).trans (Steps.ended .failed rfl), ?_⟩
    rintro ⟨⟩

lemma expireInstance_after : After (expireInstance ports target) s fun _ t => Steps target s t := by
  simp only [expireInstance, after_bind, after_getState]
  cases hprocess : (s.state.instances[target]?).bind (·.process) with
  | none =>
    simp only [after_bind, after_modifyRecord, after_pure]
    exact Steps.ended .expired rfl
  | some process =>
    obtain ⟨record, hrecord, hprocess⟩ := Option.bind_eq_some_iff.mp hprocess
    rw [after_bind]
    refine (stopOwned_after hrecord hprocess (.ended rfl rfl) rfl).mono fun answer t ht => ?_
    rcases answer with _ | (_ | _) <;> exact ht.1

/-- The readings of a call that reached its fence: the clock and the decision. -/
def fenced (ports : Ports) (s : Plane) (target : InstanceId) (proof : LeaseProof) : Plane :=
  { s with events := s.events ++ [.now (ports.now s.events), .checkFence target proof (.ok ())] }

lemma steps_fenced (proof : LeaseProof) : Steps target s (fenced ports s target proof) := by
  have hlog : fenced ports s target proof =
      { s with events := s.events ++ [.now (ports.now s.events)] ++
        [.checkFence target proof (.ok ())] } := by
    simp [fenced]
  rw [hlog]
  exact (Steps.logged (.now _)).trans (Steps.logged (.checkFence proof (.ok ())))

/-- **The fence.**  A refusal is a chain of effects on the target; a proof that
passes was judged against the target's lease at the clock's reading, and nothing
has changed. -/
lemma validateFence_after {proof : LeaseProof} :
    After (validateFence ports target proof) s fun answer t =>
      match answer with
      | .ok () => t = fenced ports s target proof ∧ ∃ record,
          s.state.instances[target]? = some record ∧
          ports.checkFence (s.events ++ [.now (ports.now s.events)]) record.lease target proof
            (ports.now s.events) = .ok ()
      | .error _ => Steps target s t := by
  simp only [validateFence, after_bind, after_getRecord, readClock, checkFence, after_exchange]
  cases hrecord : s.state.instances[target]? with
  | none => exact .refl
  | some record =>
    have hread : Steps target s { s with events := s.events ++ [.now (ports.now s.events)] } :=
      Steps.logged (.now _)
    simp only [okOr_some]
    cases hdecision : ports.checkFence (s.events ++ [.now (ports.now s.events)]) record.lease target
        proof (ports.now s.events) with
    | ok =>
      simpa [fenced, Except.mapError] using hdecision
    | error failure =>
      have hfence : Steps target s
          { s with events := s.events ++ [.now (ports.now s.events)] ++
            [.checkFence target proof (.error failure)] } :=
        hread.trans (Steps.logged (.checkFence proof (.error failure)))
      by_cases hexpired : failure = .expired
      · subst hexpired
        simp only [if_true, after_bind]
        refine expireInstance_after.mono fun answer t ht => ?_
        cases answer with
        | ok => simpa [Except.mapError] using hfence.trans ht
        | error error => exact hfence.trans ht
      · simpa [hexpired, Except.mapError] using hfence

/-! ### Calls on one instance -/

lemma after_nextInstance {Q : Except GatewayError InstanceId → Plane → Prop}
    (hexhausted : Q (.error .identityExhausted) s)
    (h : Q (.ok s.state.nextInstanceId)
      { s with state := { s.state with nextInstanceId := s.state.nextInstanceId + 1 } }) :
    After nextInstance s Q :=
  After.refuse (fun _ => hexhausted) fun _ => h

lemma after_nextLease {Q : Except GatewayError LeaseId → Plane → Prop}
    (hexhausted : Q (.error .identityExhausted) s)
    (h : Q (.ok s.state.nextLeaseId)
      { s with state := { s.state with nextLeaseId := s.state.nextLeaseId + 1 } }) :
    After nextLease s Q :=
  After.refuse (fun _ => hexhausted) fun _ => h

/-- What an allocation that is answered has taken from the counters. -/
structure Allocated (s t : Plane) (allocation : Allocation) : Prop where
  instanceId : allocation.instanceId = s.state.nextInstanceId
  leaseId : allocation.lease.leaseId = s.state.nextLeaseId
  nextInstanceId : t.state.nextInstanceId = s.state.nextInstanceId + 1
  nextLeaseId : t.state.nextLeaseId = s.state.nextLeaseId + 1

lemma allocate_after {callerId : CallerId} {sessionId : SessionId}
    (hfresh : s.state.instances[s.state.nextInstanceId]? = none) :
    After (allocate ports callerId sessionId) s fun answer t =>
      Steps s.state.nextInstanceId s t ∧
        ∀ allocation, answer = .ok allocation → Allocated s t allocation := by
  unfold allocate
  rw [after_bind, after_getState]
  refine After.refuse (fun _ => ⟨.refl, nofun⟩) fun _ => ?_
  refine After.refuse (fun _ => ⟨.refl, nofun⟩) fun hroom => ?_
  rw [after_bind]
  refine after_nextInstance ⟨.refl, nofun⟩ ?_
  dsimp only
  rw [after_bind]
  refine after_nextLease ⟨.single .skipped, nofun⟩ ?_
  simp only [readClock, startProcess, after_bind, after_exchange, after_modifyState]
  cases hstart : ports.start (s.events ++ [.now (ports.now s.events)])
      (.new s.state.nextInstanceId) with
  | error fault =>
    simp only [after_bind, after_modifyState, after_throw]
    have hrefused := Relation.ReflTransGen.single
      (Effect.refused (s := s) (ports.now s.events) fault rfl)
    refine ⟨?_, ?_⟩
    · simpa [Gateway.insertRecord, Gateway.removeRecord, erase_insert_of_none hfresh] using hrefused
    · rintro _ ⟨⟩
  | ok process =>
    simp only [after_bind, after_getRecord, Gateway.insertRecord, getElem?_insert_if, if_true,
      okOr_some, after_modifyRecord, after_pure, Except.ok.injEq]
    refine ⟨?_, ?_⟩
    · simpa [Gateway.modifyRecord, Gateway.launch, modify_insert] using
        Relation.ReflTransGen.single (Effect.launched (s := s) (ports.now s.events)
          _ _ process rfl (not_le.mp hroom) rfl rfl rfl rfl rfl)
    · rintro _ rfl
      exact ⟨rfl, rfl, rfl, rfl⟩

lemma status_after : After (status target) s fun _ t => Steps target s t := by
  simp only [status, after_bind, after_getRecord]
  cases s.state.instances[target]? <;> exact .refl

/-- The observation of a record that is not terminal. -/
lemma observeReadiness_after {record : InstanceRecord} {process : ProcessHandle}
    (hrecord : s.state.instances[target]? = some record)
    (hactive : record.state.isTerminal = false) :
    After (observeReadiness ports target process) s fun _ t => Steps target s t := by
  simp only [observeReadiness, probe, after_bind, after_exchange]
  generalize ports.probe s.events target process = answer
  rcases answer with fault | (_ | _ | _)
  · exact Steps.observed (.probe process _) hrecord hactive .degraded rfl
  · exact Steps.observed (.probe process _) hrecord hactive .starting rfl
  · exact Steps.observed (.probe process _) hrecord hactive .ready rfl
  · exact Steps.observed (.probe process _) hrecord hactive .degraded rfl

lemma observeProcess_after {record : InstanceRecord} {process : ProcessHandle}
    (hrecord : s.state.instances[target]? = some record)
    (hactive : record.state.isTerminal = false) :
    After (observeProcess ports target process) s fun _ t => Steps target s t := by
  simp only [observeProcess, inspectProcess, after_bind, after_exchange]
  generalize ports.inspect s.events process = answer
  have hlog : Steps target s { s with events := s.events ++ [.inspect process answer] } :=
    Steps.logged (.inspect process answer)
  rcases answer with fault | (_ | _)
  · exact Steps.observed (.inspect process _) hrecord hactive .degraded rfl
  · have hready : After (observeReadiness ports target process)
        { s with events := s.events ++ [.inspect process (.ok .running)] } fun _ t =>
          Steps target { s with events := s.events ++ [.inspect process (.ok .running)] } t :=
      observeReadiness_after hrecord hactive
    exact hready.mono fun _ t ht => hlog.trans ht
  · exact hlog.trans (Steps.ended .failed rfl)

/-- The expiry check reads the clock at most, and changes nothing. -/
lemma leaseExpired_after : After (leaseExpired ports target) s fun _ t =>
    Steps target s t ∧ t.state = s.state := by
  simp only [leaseExpired, after_bind, after_getState]
  cases (s.state.instances[target]?).bind (·.lease) with
  | none => exact ⟨.refl, rfl⟩
  | some lease => exact ⟨Steps.logged (.now _), rfl⟩

lemma reconcile_after : After (reconcile ports target) s fun _ t => Steps target s t := by
  unfold reconcile
  rw [after_bind, after_getRecord]
  cases hrecord : s.state.instances[target]? with
  | none => exact .refl
  | some record =>
    dsimp only [okOr_some]
    split_ifs with hterminal
    · exact .refl
    rw [after_bind]
    refine leaseExpired_after.mono fun answer t ht => ?_
    obtain ⟨hlog, hstate⟩ := ht
    cases answer with
    | error error => exact hlog
    | ok expired =>
      dsimp only
      split_ifs with hexpired
      · rw [after_bind]
        refine expireInstance_after.mono fun status u hu => ?_
        rcases status with _ | (_ | _) <;> exact hlog.trans hu
      · cases hprocess : record.process with
        | none => exact hlog.trans (Steps.ended .failed rfl)
        | some process =>
          have hactive : record.state.isTerminal = false := by simpa using hterminal
          exact (observeProcess_after (hstate ▸ hrecord) hactive).mono fun _ u hu => hlog.trans hu

lemma renew_after {proof : LeaseProof} :
    After (renew ports proof) s fun _ t => Steps proof.instanceId s t := by
  unfold renew
  rw [after_bind]
  refine validateFence_after.mono fun answer t ht => ?_
  cases answer with
  | error error => exact ht
  | ok =>
    obtain ⟨rfl, -⟩ := ht
    have hfenced : Steps proof.instanceId s (fenced ports s proof.instanceId proof) :=
      steps_fenced proof
    have hread := hfenced.trans
      (Steps.logged (.now (ports.now (fenced ports s proof.instanceId proof).events)))
    simp only [readClock, after_bind, after_exchange, after_getState, after_getRecord]
    cases hrecord : (fenced ports s proof.instanceId proof).state.instances[proof.instanceId]? with
    | none => exact hread
    | some record =>
      simp only [okOr_some, after_liftM]
      cases hlease : record.lease with
      | none => exact hread
      | some lease =>
        refine hread.trans (.single (.marked _ fun other hother => ?_))
        rw [hrecord] at hother
        obtain ⟨⟩ := hother
        exact ⟨.renewed lease _ rfl hlease rfl, rfl⟩

lemma release_after {proof : LeaseProof} :
    After (release ports proof) s fun _ t => Steps proof.instanceId s t := by
  unfold release
  rw [after_bind]
  refine validateFence_after.mono fun answer t ht => ?_
  cases answer with
  | error error => exact ht
  | ok =>
    obtain ⟨rfl, -⟩ := ht
    have hfenced : Steps proof.instanceId s (fenced ports s proof.instanceId proof) :=
      steps_fenced proof
    dsimp only
    rw [after_bind, after_getRecord]
    cases hrecord : (fenced ports s proof.instanceId proof).state.instances[proof.instanceId]? with
    | none => exact hfenced
    | some record =>
      refine After.refuse (fun _ => hfenced) fun hopen => ?_
      obtain ⟨hterminal, -⟩ := not_or.mp hopen
      have hactive : record.state.isTerminal = false := by simpa using hterminal
      cases hprocess : record.process with
      | none => exact hfenced.trans (Steps.ended .stopped rfl)
      | some process =>
        have hstopping := hfenced.trans (Steps.active hrecord hactive .stopping rfl)
        have hmarked := getElem?_modifyRecord (f := .markStopping) hrecord
        have howned : record.markStopping.process = some process := hprocess
        simp only [after_bind, after_modifyRecord]
        refine (stopOwned_after hmarked howned (.ended rfl rfl) rfl).mono fun answer u hu => ?_
        rcases answer with _ | (_ | _) <;> exact hstopping.trans hu.1

lemma cleanup_after {callerId : CallerId} {sessionId : SessionId} :
    After (cleanup ports target callerId sessionId) s fun _ t => Steps target s t := by
  unfold cleanup
  rw [after_bind, after_getRecord]
  cases hrecord : s.state.instances[target]? with
  | none => exact .refl
  | some record =>
    refine After.refuse (fun _ => .refl) fun _ => After.refuse (fun _ => .refl) fun _ => ?_
    cases hprocess : record.process with
    | none => exact .single (.removed hrecord hprocess)
    | some process =>
      dsimp only
      rw [after_bind]
      refine (stopOwned_after hrecord hprocess (.kept rfl rfl) rfl).mono fun answer t ht => ?_
      obtain ⟨hsteps, hstopped⟩ := ht
      rcases answer with _ | (_ | _)
      · exact hsteps
      · exact hsteps
      · have hcleared : t.state.instances[target]? = some record.clearProcess := by
          rw [hstopped rfl]
          exact getElem?_modifyRecord hrecord
        exact hsteps.trans (.single (.removed hcleared rfl))

/-! ### Forwarding -/

/-- What a forwarded request was judged against. -/
structure Forwardable (ports : Ports) (s : Plane) (target : InstanceId) (proof : LeaseProof)
    (process : ProcessHandle) (record : InstanceRecord) : Prop where
  found : s.state.instances[target]? = some record
  passed : ports.checkFence (s.events ++ [.now (ports.now s.events)]) record.lease target proof
    (ports.now s.events) = .ok ()
  accepts : record.state.acceptsForwarding = true
  owned : record.process = some process

/-- The plane at the moment a request is sent. -/
def authorized (ports : Ports) (s : Plane) (target : InstanceId) (proof : LeaseProof) : Plane :=
  let t := fenced ports s target proof
  { t with state := t.state.modifyRecord target .markBusy }

/-- **Authorization** finds a record whose fence the proof passed, that accepts
work and owns a process, or it refuses. -/
lemma authorizeForward_after {proof : LeaseProof} :
    After (authorizeForward ports target proof) s fun answer t =>
      Steps target s t ∧ ∀ process, answer = .ok process →
        t = authorized ports s target proof ∧
          ∃ record, Forwardable ports s target proof process record := by
  unfold authorizeForward
  rw [after_bind]
  refine validateFence_after.mono fun answer t ht => ?_
  cases answer with
  | error error => exact ⟨ht, nofun⟩
  | ok =>
    obtain ⟨rfl, record, hrecord, hfence⟩ := ht
    have hfenced : Steps target s (fenced ports s target proof) := steps_fenced proof
    have hsame : (fenced ports s target proof).state.instances[target]? = some record := hrecord
    dsimp only
    rw [after_bind, after_getRecord, hsame]
    refine After.refuse (fun _ => ⟨hfenced, nofun⟩) fun haccepts => ?_
    have haccepts : record.state.acceptsForwarding = true := by simpa using haccepts
    have hactive := LifecycleState.not_isTerminal_of_acceptsForwarding haccepts
    cases hprocess : record.process with
    | none => exact ⟨hfenced.trans (Steps.active hsame hactive .degraded rfl), nofun⟩
    | some process =>
      refine ⟨hfenced.trans (Steps.active hsame hactive .busy rfl), ?_⟩
      rintro _ ⟨⟩
      exact ⟨rfl, record, hrecord, hfence, haccepts, hprocess⟩

/-- The plane after a request was sent. -/
def sent (s : Plane) (request : TransportRequest)
    (answer : Except TransportFault TransportResponse) : Plane :=
  { s with events := s.events ++ [.forward request answer] }

/-- **Forwarding** refuses before it sends anything, or it sends one request that
was authorized. -/
lemma forward_after {proof : LeaseProof} {operationId : OperationId} {route : FixedRoute}
    {body : List UInt8} :
    After (forward ports target proof operationId route body) s fun answer t =>
      (Steps target s t ∧ ∃ error, answer = .error error) ∨
      ∃ process record reply, Forwardable ports s target proof process record ∧
        Steps target s (authorized ports s target proof) ∧
        let after := sent (authorized ports s target proof)
          { instanceId := target, process, lease := proof, operationId, route, body } reply
        Steps target after t ∧ t.events = after.events := by
  unfold forward
  rw [after_bind, after_getState]
  refine After.refuse (fun _ => .inl ⟨.refl, _, rfl⟩) fun _ => ?_
  rw [after_bind]
  refine authorizeForward_after.mono fun answer t ht => ?_
  obtain ⟨hsteps, hauthorized⟩ := ht
  cases answer with
  | error error => exact .inl ⟨hsteps, error, rfl⟩
  | ok process =>
    obtain ⟨rfl, record, hforwardable⟩ := hauthorized process rfl
    have hbusy : (authorized ports s target proof).state.instances[target]? =
        some record.markBusy := getElem?_modifyRecord hforwardable.found
    have hsettle : ∀ request reply (state : LifecycleState), state.isTerminal = false →
        Steps target (sent (authorized ports s target proof) request reply)
          { sent (authorized ports s target proof) request reply with
            state := (authorized ports s target proof).state.modifyRecord target
              (·.markActive state) } := by
      intro request reply state hstate
      exact Steps.active (s := sent _ request reply) hbusy rfl state hstate
    simp only [transportForward, after_bind, after_exchange]
    generalize ports.forward (authorized ports s target proof).events
      { instanceId := target, process, lease := proof, operationId, route, body } = reply
    cases reply with
    | error fault =>
      exact .inr ⟨process, record, _, hforwardable, hsteps, hsettle _ _ .degraded rfl, rfl⟩
    | ok response =>
      dsimp only
      split_ifs
      · exact .inr ⟨process, record, _, hforwardable, hsteps, hsettle _ _ .ready rfl, rfl⟩
      · exact .inr ⟨process, record, _, hforwardable, hsteps, hsettle _ _ .degraded rfl, rfl⟩

/-! ### Calls on all instances -/

/-- A change of some instance, or one request sent. -/
inductive Change (target : InstanceId) (s : Plane) : Plane → Prop
  | effect {t : Plane} (heffect : Effect target s t) : Change target s t
  | sent (request : TransportRequest) (reply : Except TransportFault TransportResponse) :
      Change target s (sent s request reply)

/-- A chain of effects, each on some instance. -/
abbrev Effects : Plane → Plane → Prop :=
  Relation.ReflTransGen fun s t => ∃ target, Effect target s t

/-- A chain of changes, each of some instance. -/
abbrev Changes : Plane → Plane → Prop :=
  Relation.ReflTransGen fun s t => ∃ target, Change target s t

lemma Steps.changes {t : Plane} (h : Steps target s t) :
    Relation.ReflTransGen (Change target) s t :=
  Relation.ReflTransGen.mono (fun _ _ => Change.effect) s t h

lemma Steps.anywhere {t : Plane} (h : Steps target s t) : Effects s t :=
  Relation.ReflTransGen.mono (fun _ _ he => Exists.intro target he) s t h

lemma Effects.changes {t : Plane} (h : Effects s t) : Changes s t := by
  refine Relation.ReflTransGen.mono (fun u v huv => ?_) s t h
  obtain ⟨target, heffect⟩ := huv
  exact ⟨target, .effect heffect⟩

lemma expireDue_after : After (expireDue ports) s fun _ t => Effects s t := by
  unfold expireDue
  have hread : Steps 0 s _ := Steps.logged (.now (ports.now s.events))
  refine After.bind_rel (fun _ _ _ => .trans) (Steps.anywhere hread) ?_
  intro now t
  rw [after_bind, after_getState]
  refine After.mapM_rel (fun _ => .refl) (fun _ _ _ => .trans) (fun target s => ?_) _
  refine After.bind_rel (fun _ _ _ => .trans) ?_ fun _ _ => .refl
  exact expireInstance_after.mono fun _ t ht => Steps.anywhere ht

lemma shutdownInstance_after {report : ShutdownReport} :
    After (shutdownInstance ports report target) s fun _ t => Steps target s t := by
  unfold shutdownInstance
  rw [after_bind, after_getState]
  dsimp only
  cases hrecord : s.state.instances[target]? with
  | none => exact .refl
  | some record =>
    dsimp only
    cases hprocess : record.process with
    | some process =>
      dsimp only
      rw [after_bind]
      refine (stopOwned_after hrecord hprocess (.ended rfl rfl) rfl).mono fun answer t ht => ?_
      rcases answer with _ | (_ | _) <;> exact ht.1
    | none =>
      dsimp only
      split_ifs
      · exact .refl
      · exact Steps.ended .stopped rfl

lemma shutdown_after : After (shutdown ports) s fun _ t => Effects s t := by
  unfold shutdown
  refine After.bind_rel (fun _ _ _ => .trans) (Steps.anywhere (.single .closed : Steps 0 s _)) ?_
  intro _ t
  rw [after_bind, after_getState]
  refine After.foldlM_rel (fun _ => .refl) (fun _ _ _ => .trans) (fun report target s => ?_) _ _
  exact shutdownInstance_after.mono fun _ t ht => Steps.anywhere ht

/-! ### Calls -/

lemma after_perform (ports : Ports) (s : Plane) (call : Call)
    {Q : Except GatewayError Answer → Plane → Prop} (h : After (call.run ports) s Q) :
    Q (perform ports s call).1 (next ports s call) := by
  unfold After at h
  unfold next perform
  cases hrun : (call.run ports).run s with
  | ok answer t => rwa [hrun] at h
  | error error t => rwa [hrun] at h

/-- A request that was sent, between the changes of its instance. -/
lemma forward_changes {proof : LeaseProof} {operationId : OperationId} {route : FixedRoute}
    {body : List UInt8} :
    After (forward ports target proof operationId route body) s fun _ t =>
      Relation.ReflTransGen (Change target) s t := by
  refine forward_after.mono fun answer t ht => ?_
  rcases ht with ⟨hsteps, -⟩ | ⟨process, record, reply, -, hbefore, hafter, -⟩
  · exact hsteps.changes
  · exact hbefore.changes.trans (.head (.sent _ reply) hafter.changes)

/-- A call that may send a request. -/
def Call.isForward : Call → Bool
  | .forward .. => true
  | _ => false

/-- A call on one instance that sends no request is a chain of effects on it. -/
lemma next_steps {call : Call} (hfresh : s.state.instances[s.state.nextInstanceId]? = none)
    (hcall : call.isForward = false) (htarget : call.target s.state = some target) :
    Steps target s (next ports s call) := by
  refine after_perform _ _ _ (Q := fun _ t => Steps target s t) ?_
  cases call with
  | allocate callerId sessionId =>
    obtain ⟨⟩ := htarget
    exact (after_map _ _).mpr ((allocate_after hfresh).mono fun _ t ht => ht.1)
  | status other =>
    obtain ⟨⟩ := htarget
    exact (after_map _ _).mpr status_after
  | reconcile other =>
    obtain ⟨⟩ := htarget
    exact (after_map _ _).mpr reconcile_after
  | renew proof =>
    obtain ⟨⟩ := htarget
    exact (after_map _ _).mpr renew_after
  | release proof =>
    obtain ⟨⟩ := htarget
    exact (after_map _ _).mpr release_after
  | cleanup other callerId sessionId =>
    obtain ⟨⟩ := htarget
    exact (after_map _ _).mpr cleanup_after
  | forward => cases hcall
  | expireDue => cases htarget
  | shutdown => cases htarget

/-- **A call that is not a forward** is a chain of effects, each on some instance. -/
theorem next_effects {call : Call} (hfresh : s.state.instances[s.state.nextInstanceId]? = none)
    (hcall : call.isForward = false) : Effects s (next ports s call) := by
  cases htarget : call.target s.state with
  | some target => exact (next_steps hfresh hcall htarget).anywhere
  | none =>
    refine after_perform _ _ _ (Q := fun _ t => Effects s t) ?_
    cases call with
    | expireDue => exact (after_map _ _).mpr expireDue_after
    | shutdown => exact (after_map _ _).mpr shutdown_after
    | _ => cases htarget

/-- **A call on one instance** is a chain of changes of that instance. -/
theorem next_changes_of_target {call : Call}
    (hfresh : s.state.instances[s.state.nextInstanceId]? = none)
    (htarget : call.target s.state = some target) :
    Relation.ReflTransGen (Change target) s (next ports s call) := by
  cases call with
  | forward =>
    obtain ⟨⟩ := htarget
    exact after_perform _ _ _ (Q := fun _ t => Relation.ReflTransGen (Change target) s t)
      ((after_map _ _).mpr forward_changes)
  | _ => exact (next_steps hfresh rfl htarget).changes

/-- **Every call** is a chain of changes, each of some instance. -/
theorem next_changes {call : Call}
    (hfresh : s.state.instances[s.state.nextInstanceId]? = none) :
    Changes s (next ports s call) := by
  cases call with
  | forward other proof operationId route body =>
    exact Relation.ReflTransGen.mono (fun _ _ hc => Exists.intro other hc) s _
      (next_changes_of_target hfresh rfl)
  | _ => exact (next_effects hfresh rfl).changes

end Sts2Gateway.ControlPlane
