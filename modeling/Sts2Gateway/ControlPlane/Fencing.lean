/-
Lease fencing of the control plane.

* `Ports.Fenced`: a lease policy that grants no more than the fence;
* `Fenced.lease`: a granted proof is the target's current, unexpired lease;
* `Change.frame`, `next_frame`: a call on one instance leaves the others alone;
* `Bound`: what a lease id stands for, kept by every change;
* `ended_refused`: a proof whose lease has ended is refused;
* `lease_fencing`: **the fence over whole runs**.
-/
import Mathlib.Tactic
import Sts2Gateway.ControlPlane.Ownership

namespace Sts2Gateway.ControlPlane

open Procedure Exchange OrderedMap

variable {config : GatewayConfig} {ports : Ports} {target : InstanceId} {s t : Plane}
variable {proof : LeaseProof}

/-- A lease policy that grants only what the fence grants. -/
def Ports.Fenced (ports : Ports) : Prop :=
  ∀ log current target proof now, ports.checkFence log current target proof now = .ok () →
    evaluateFence current target proof now = .ok ()

/-- A granted proof is the proof of the target's lease, and the lease is unexpired. -/
lemma Ports.Fenced.lease (hports : ports.Fenced) (h : Valid config s) {log : List Event}
    {record : InstanceRecord} {now : Tick} (hrecord : s.state.instances[target]? = some record)
    (hpassed : ports.checkFence log record.lease target proof now = .ok ()) :
    ∃ lease, record.lease = some lease ∧ lease.proof = proof ∧ now < lease.expiresAt := by
  obtain ⟨hinstance, lease, hlease, hunexpired, hcaller, hsession, hid, hepoch⟩ :=
    evaluateFence_eq_ok.mp (hports _ _ _ _ _ hpassed)
  have hown := ((h.records _ _ hrecord).lease lease hlease).1
  refine ⟨lease, hlease, ?_, hunexpired⟩
  obtain ⟨instanceId, callerId, sessionId, leaseId, epoch⟩ := proof
  simp only [Lease.proof, LeaseProof.mk.injEq]
  exact ⟨hown.trans hinstance.symm, hcaller, hsession, hid, hepoch⟩

/-! ### Exchanges -/

/-- An effect only adds to the log, and sends nothing. -/
lemma Effect.unsent (h : Effect target s t) :
    ∃ new, t.events = s.events ++ new ∧ ∀ event ∈ new, event.sends = none := by
  cases h with
  | logged event hquiet => exact ⟨[event], rfl, by simpa using hquiet.sends⟩
  | refused => exact ⟨_, rfl, by simp [Event.sends]⟩
  | launched => exact ⟨_, rfl, by simp [Event.sends]⟩
  | stopped => exact ⟨_, rfl, by simp [Event.sends]⟩
  | _ => exact ⟨[], (List.append_nil _).symm, by simp⟩

/-- Chains of effects only add to the log, and send nothing. -/
lemma Effects.unsent (h : Effects s t) :
    ∃ new, t.events = s.events ++ new ∧ ∀ event ∈ new, event.sends = none := by
  induction h with
  | refl => exact ⟨[], (List.append_nil _).symm, by simp⟩
  | tail _ heffect ih =>
    obtain ⟨new, hnew, hsends⟩ := ih
    obtain ⟨target, heffect⟩ := heffect
    obtain ⟨added, hadded, hquiet⟩ := heffect.unsent
    refine ⟨new ++ added, by rw [hadded, hnew, List.append_assoc], fun event hevent => ?_⟩
    rcases List.mem_append.mp hevent with hevent | hevent
    · exact hsends event hevent
    · exact hquiet event hevent

/-- The exchanges of a call. -/
def exchanges (ports : Ports) (s : Plane) (call : Call) : List Event :=
  (next ports s call).events.drop s.events.length

/-! ### Frames -/

/-- A change leaves the records of other instances alone. -/
lemma Change.frame (h : Change target s t) {i : InstanceId} (hi : i ≠ target) :
    t.state.instances[i]? = s.state.instances[i]? := by
  cases h with
  | sent => rfl
  | effect heffect =>
    cases heffect with
    | launched tick record lease process htarget =>
      dsimp only
      rw [launch_getElem?, if_neg (htarget ▸ Ne.symm hi)]
    | marked =>
      dsimp only
      rw [modifyRecord_getElem?, if_neg (Ne.symm hi)]
    | stopped =>
      dsimp only
      rw [modifyRecord_getElem?, if_neg (Ne.symm hi)]
    | removed =>
      dsimp only
      rw [removeRecord_getElem?, if_neg (Ne.symm hi)]
    | _ => rfl

/-- **A call on one instance leaves every other record unchanged**, on each of its
branches. -/
theorem next_frame (h : Valid config s) {call : Call} (htarget : call.target s.state = some target)
    {i : InstanceId} (hi : i ≠ target) :
    (next ports s call).state.instances[i]? = s.state.instances[i]? := by
  have hchanges : Relation.ReflTransGen (Change target) s (next ports s call) :=
    next_changes_of_target h.fresh htarget
  generalize next ports s call = t at hchanges ⊢
  induction hchanges with
  | refl => rfl
  | tail _ hchange ih => exact (hchange.frame hi).trans ih

/-! ### Lease ids -/

/-- A lease id that was given out; where its instance has a lease with this id, the
lease's proof is as `Q` says. -/
structure Bound (proof : LeaseProof) (Q : LeaseProof → Prop) (s : Plane) : Prop where
  issued : proof.leaseId < s.state.nextLeaseId
  only : ∀ record lease, s.state.instances[proof.instanceId]? = some record →
    record.lease = some lease → lease.leaseId = proof.leaseId → Q lease.proof

variable {Q : LeaseProof → Prop}

/-- A record changed in place keeps what its lease id stands for. -/
lemma Bound.modify (h : Bound proof Q s) {f : InstanceRecord → InstanceRecord}
    (hf : ∀ record, s.state.instances[target]? = some record → Moves record (f record))
    {log : List Event} :
    Bound proof Q { state := s.state.modifyRecord target f, events := log } := by
  refine ⟨h.issued, fun record lease hrecord hlease hid => ?_⟩
  dsimp only at hrecord
  rw [modifyRecord_getElem?] at hrecord
  split_ifs at hrecord with hi
  · obtain ⟨before, hbefore, rfl⟩ := Option.map_eq_some_iff.mp hrecord
    obtain ⟨earlier, hearlier, hproof⟩ := (hf before hbefore).proof hlease
    have hsame : lease.leaseId = earlier.leaseId := congrArg LeaseProof.leaseId hproof
    exact hproof ▸ h.only before earlier (hi ▸ hbefore) hearlier (hsame.symm.trans hid)
  · exact h.only record lease hrecord hlease hid

lemma Bound.change (h : Bound proof Q s) (hchange : Change target s t) : Bound proof Q t := by
  cases hchange with
  | sent => exact ⟨h.issued, h.only⟩
  | effect heffect =>
    cases heffect with
    | logged => exact ⟨h.issued, h.only⟩
    | closed => exact ⟨h.issued, h.only⟩
    | skipped => exact ⟨h.issued, h.only⟩
    | refused => exact ⟨Nat.lt_succ_of_lt h.issued, h.only⟩
    | launched tick record lease process htarget hroom hrecord hstate hprocess hinstance hlease =>
      refine ⟨Nat.lt_succ_of_lt h.issued, fun found other hfound hother hid => ?_⟩
      dsimp only at hfound
      rw [launch_getElem?] at hfound
      split_ifs at hfound with hi
      · -- A new lease has an id that no proof so far carries.
        obtain ⟨⟩ := hfound
        rw [hrecord] at hother
        obtain ⟨⟩ := hother
        exact absurd (hlease.symm.trans hid) h.issued.ne'
      · exact h.only found other hfound hother hid
    | marked f hf => exact h.modify fun record hrecord => (hf record hrecord).1
    | stopped f mode hrecord hprocess hmoves hcleared =>
      refine h.modify fun record hfound => ?_
      rw [hrecord] at hfound
      obtain ⟨⟩ := hfound
      exact hmoves
    | removed hrecord hprocess =>
      refine ⟨h.issued, fun record lease hfound => ?_⟩
      dsimp only at hfound
      rw [removeRecord_getElem?] at hfound
      split_ifs at hfound
      exact h.only record lease hfound

lemma Bound.run (h : Bound proof Q s) (hvalid : Valid config s) (calls : List Call) :
    Bound proof Q (run ports s calls) := by
  have hstep : ∀ s call, Valid config s ∧ Bound proof Q s →
      Valid config (next ports s call) ∧ Bound proof Q (next ports s call) := by
    intro s call hs
    have hchanges : Changes s (next ports s call) := next_changes hs.1.fresh
    refine ⟨hs.1.changes hchanges, ?_⟩
    generalize next ports s call = t at hchanges ⊢
    induction hchanges with
    | refl => exact hs.2
    | tail _ hchange ih =>
      obtain ⟨target, hchange⟩ := hchange
      exact ih.change hchange
  exact (Machine.run_invariant hstep ⟨hvalid, h⟩ calls).2

/-- The proof of a current lease. -/
def Holds (s : Plane) (proof : LeaseProof) : Prop :=
  ∃ record lease, s.state.instances[proof.instanceId]? = some record ∧
    record.lease = some lease ∧ lease.proof = proof

lemma holds_iff : Holds s proof ↔
    ((s.state.instances[proof.instanceId]?).bind (·.lease)).map Lease.proof = some proof := by
  simp only [Holds, Option.map_eq_some_iff, Option.bind_eq_some_iff]
  constructor
  · rintro ⟨record, lease, hrecord, hlease, hproof⟩
    exact ⟨lease, ⟨record, hrecord, hlease⟩, hproof⟩
  · rintro ⟨lease, ⟨record, hrecord, hlease⟩, hproof⟩
    exact ⟨record, lease, hrecord, hlease, hproof⟩

instance : Decidable (Holds s proof) := decidable_of_iff' _ holds_iff

/-- The id of a current lease stands for its proof. -/
lemma Holds.bound (h : Holds s proof) (hvalid : Valid config s) : Bound proof (· = proof) s := by
  obtain ⟨record, lease, hrecord, hlease, hproof⟩ := h
  have hid : lease.leaseId = proof.leaseId := congrArg LeaseProof.leaseId hproof
  refine ⟨hid ▸ ((hvalid.records _ _ hrecord).lease lease hlease).2, ?_⟩
  intro found other hfound hother _
  rw [hrecord] at hfound
  obtain ⟨⟩ := hfound
  rw [hlease] at hother
  obtain ⟨⟩ := hother
  exact hproof

/-- An id that stands for a proof that is not held stands for none. -/
lemma Bound.ended (h : Bound proof (· = proof) s) (hnot : ¬ Holds s proof) :
    Bound proof (fun _ => False) s :=
  ⟨h.issued, fun record lease hrecord hlease hid =>
    hnot ⟨record, lease, hrecord, hlease, h.only record lease hrecord hlease hid⟩⟩

/-! ### Stale proofs -/

/-- The proof that a call presents to the fence. -/
def Call.presents : Call → Option LeaseProof
  | .renew proof | .release proof | .forward _ proof _ _ _ => some proof
  | _ => none

/-- The fence refuses the proof of a lease that has ended. -/
lemma Bound.refused (h : Bound proof (fun _ => False) s) (hports : ports.Fenced)
    {log : List Event} {record : InstanceRecord} {now : Tick}
    (hrecord : s.state.instances[target]? = some record) :
    ports.checkFence log record.lease target proof now ≠ .ok () := by
  intro hpassed
  obtain ⟨hinstance, lease, hlease, -, -, -, hid, -⟩ :=
    evaluateFence_eq_ok.mp (hports _ _ _ _ _ hpassed)
  exact h.only record lease (hinstance ▸ hrecord) hlease hid

lemma validateFence_refused (h : Bound proof (fun _ => False) s) (hports : ports.Fenced)
    {α : Type} (f : Unit → GatewayM α) :
    After (validateFence ports target proof >>= f) s fun answer _ =>
      ∃ error, answer = .error error := by
  rw [after_bind]
  refine validateFence_after.mono fun answer t ht => ?_
  cases answer with
  | error error => exact ⟨error, rfl⟩
  | ok =>
    obtain ⟨-, record, hrecord, hpassed⟩ := ht
    exact absurd hpassed (h.refused hports hrecord)

/-- **A proof whose lease has ended succeeds in no call.** -/
theorem ended_refused (h : Bound proof (fun _ => False) s) (hports : ports.Fenced) {call : Call}
    (hcall : call.presents = some proof) : ∃ error, (perform ports s call).1 = .error error := by
  refine after_perform ports s call (Q := fun answer _ => ∃ error, answer = .error error) ?_
  have hmap : ∀ {α : Type} (f : α → Answer) (p : GatewayM α),
      (After p s fun answer _ => ∃ error, answer = .error error) →
      After (f <$> p) s fun answer _ => ∃ error, answer = .error error := by
    intro α f p hp
    refine (after_map f p).mpr (hp.mono fun answer t ht => ?_)
    obtain ⟨error, rfl⟩ := ht
    exact ⟨error, rfl⟩
  cases call with
  | renew presented =>
    obtain ⟨⟩ := hcall
    exact hmap _ _ (validateFence_refused h hports _)
  | release presented =>
    obtain ⟨⟩ := hcall
    exact hmap _ _ (validateFence_refused h hports _)
  | forward target presented operationId route body =>
    obtain ⟨⟩ := hcall
    refine hmap _ _ (forward_after.mono fun answer t ht => ?_)
    rcases ht with ⟨-, herror⟩ | ⟨process, record, reply, hforwardable, -⟩
    · exact herror
    · exact absurd hforwardable.passed (h.refused hports hforwardable.found)
  | _ => cases hcall

/-! ### The main result -/

/-- A call that is not a forward sends no request. -/
lemma exchanges_unsent (h : Valid config s) {call : Call} (hcall : call.isForward = false) :
    ∀ event ∈ exchanges ports s call, event.sends = none := by
  have heffects : Effects s (next ports s call) := next_effects h.fresh hcall
  obtain ⟨new, hnew, hsends⟩ := heffects.unsent
  rw [exchanges, hnew, List.drop_left]
  exact hsends

/-- **What a forward call sends** passed the fence at the call's clock reading. -/
theorem exchanges_forward (hports : ports.Fenced) (h : Valid config s) {operationId : OperationId}
    {route : FixedRoute} {body : List UInt8} {request : TransportRequest}
    {reply : Except TransportFault TransportResponse}
    (hsent : Event.forward request reply ∈
      exchanges ports s (.forward target proof operationId route body)) :
    ∃ record lease, s.state.instances[target]? = some record ∧ record.lease = some lease ∧
      lease.proof = proof ∧ ports.now s.events < lease.expiresAt ∧
      record.state.acceptsForwarding = true ∧ record.process = some request.process ∧
      request = ⟨target, request.process, proof, operationId, route, body⟩ ∧
      exchanges ports s (.forward target proof operationId route body) =
        [.now (ports.now s.events), .checkFence target proof (.ok ()), .forward request reply] := by
  have hafter := after_perform ports s (.forward target proof operationId route body)
    (Q := fun _ t =>
      (Steps target s t ∨ ∃ process record answer,
        Forwardable ports s target proof process record ∧
        t.events = (sent (authorized ports s target proof)
          { instanceId := target, process, lease := proof, operationId, route, body }
          answer).events)) ((after_map _ _).mpr (forward_after.mono fun answer t ht => by
      rcases ht with ⟨hsteps, -⟩ | ⟨process, record, reply, hforwardable, -, -, hevents⟩
      · exact .inl hsteps
      · exact .inr ⟨process, record, reply, hforwardable, hevents⟩))
  rcases hafter with hsteps | ⟨process, record, answer, hforwardable, hevents⟩
  · obtain ⟨new, hnew, hsends⟩ := hsteps.anywhere.unsent
    rw [exchanges, hnew, List.drop_left] at hsent
    cases hsends _ hsent
  · have hlog : exchanges ports s (.forward target proof operationId route body) =
        [.now (ports.now s.events), .checkFence target proof (.ok ()),
          .forward { instanceId := target, process, lease := proof, operationId, route, body }
            answer] := by
      rw [exchanges, hevents]
      simp [sent, authorized, fenced]
    rw [hlog] at hsent ⊢
    obtain ⟨lease, hlease, hproof, hunexpired⟩ :=
      hports.lease h hforwardable.found hforwardable.passed
    simp only [List.mem_cons, reduceCtorEq, List.not_mem_nil, or_false, false_or,
      Event.forward.injEq] at hsent
    obtain ⟨rfl, rfl⟩ := hsent
    exact ⟨record, lease, hforwardable.found, hlease, hproof, hunexpired, hforwardable.accepts,
      hforwardable.owned, rfl, rfl⟩

/-- **Lease fencing.**  Under a policy that grants no more than the fence, in every
reachable state: a forward call sends at most one request, and sends it only when
its proof is that of the target's current lease, the lease is unexpired at the
call's clock reading and the instance accepts work, with the instance's own
process; no other call sends one; once a lease has ended, no call with its proof
succeeds in any continuation; and a call on one instance leaves every other record
unchanged. -/
theorem lease_fencing (ports : Ports) (hports : ports.Fenced) (config : GatewayConfig)
    (calls : List Call) :
    let s := run ports (start config) calls
    (∀ call request reply, Event.forward request reply ∈ exchanges ports s call →
      ∃ target proof operationId route body record lease,
        call = .forward target proof operationId route body ∧
        s.state.instances[target]? = some record ∧ record.lease = some lease ∧
        lease.proof = proof ∧ ports.now s.events < lease.expiresAt ∧
        record.state.acceptsForwarding = true ∧ record.process = some request.process ∧
        request = ⟨target, request.process, proof, operationId, route, body⟩ ∧
        exchanges ports s call =
          [.now (ports.now s.events), .checkFence target proof (.ok ()), .forward request reply]) ∧
    (∀ proof later continuation call, Holds s proof → ¬ Holds (run ports s later) proof →
      call.presents = some proof →
      ∃ error, (perform ports (run ports (run ports s later) continuation) call).1 =
        .error error) ∧
    (∀ call target, call.target s.state = some target → ∀ i, i ≠ target →
      (next ports s call).state.instances[i]? = s.state.instances[i]?) := by
  intro s
  have h : Valid config s := valid_run ports config calls
  refine ⟨?_, ?_, fun call target htarget i hi => next_frame h htarget hi⟩
  · intro call request reply hsent
    cases call with
    | forward target proof operationId route body =>
      obtain ⟨record, lease, hconditions⟩ := exchanges_forward hports h hsent
      exact ⟨target, proof, operationId, route, body, record, lease, rfl, hconditions⟩
    | _ => cases exchanges_unsent h rfl _ hsent
  · intro proof later continuation call hholds hnot hcall
    have hlater : Valid config (run ports s later) := by
      have hrun := valid_run ports config (calls ++ later)
      rwa [run, Machine.run_append] at hrun
    exact ended_refused ((((hholds.bound h).run h later).ended hnot).run hlater continuation)
      hports hcall

lemma Sample.ports_fenced : Sample.ports.Fenced := fun _ _ _ _ _ h => h

/-- The sample request is sent, and its proof is refused after a release. -/
theorem lease_fencing_sample :
    let s := run Sample.ports (start Sample.config) Sample.calls
    (∃ target proof operationId route body record lease,
      Sample.forward = .forward target proof operationId route body ∧
      s.state.instances[target]? = some record ∧ record.lease = some lease ∧
      lease.proof = proof ∧ Sample.ports.now s.events < lease.expiresAt ∧
      record.state.acceptsForwarding = true ∧ record.process = some Sample.request.process ∧
      Sample.request = ⟨target, Sample.request.process, proof, operationId, route, body⟩ ∧
      exchanges Sample.ports s Sample.forward =
        [.now (Sample.ports.now s.events), .checkFence target proof (.ok ()),
          .forward Sample.request (.ok { status := 200, body := [] })]) ∧
    ∃ error, (perform Sample.ports (run Sample.ports s [.release Sample.proof]) Sample.forward).1 =
      .error error := by
  have h := lease_fencing Sample.ports Sample.ports_fenced Sample.config Sample.calls
  refine ⟨h.1 Sample.forward Sample.request (.ok { status := 200, body := [] }) (by decide +kernel),
    h.2.1 Sample.proof [.release Sample.proof] [] Sample.forward ?_ ?_ rfl⟩
  · decide +kernel
  · decide +kernel

end Sts2Gateway.ControlPlane
