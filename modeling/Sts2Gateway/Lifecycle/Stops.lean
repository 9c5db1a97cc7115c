/-
The stops of the lifecycle coordinator.

* `Call.Names`, `Justified`: the profiles of the instance of a call, and what must have
  been exchanged before a stop;
* `Since`: what a call keeps of the records and the row that it began with;
* `Guarded`: a procedure whose stops are justified;
* `verifyProcess_checked`: what a verified process has been shown to be;
* `finishStartFailure_guarded`, `finishStop_guarded`, `reconcileRetainedCleanup_guarded`,
  `finishRestart_guarded`: the procedures that stop a process;
* `stops_justified`: **every stop of a call is justified**.
-/
import Sts2Gateway.Lifecycle.Operations
import Sts2Gateway.Lifecycle.Quiet

namespace Sts2Gateway.Lifecycle

open ControlPlane (InstanceId OperationId LeaseProof ProcessHandle ProcessFault ProcessState
  StopMode)
open Procedure Exchange Crash Selection

/-! ### What a stop needs -/

def Call.instanceId : Call → InstanceId
  | .apply request => request.instanceId
  | .reconcile lease _ _ => lease.instanceId

def Call.operationId : Call → OperationId
  | .apply request => request.operationId
  | .reconcile _ _ operationId => operationId

/-- The profile that a call names itself. -/
def Call.profileId : Call → Option LaunchProfileId
  | .apply request => request.action.profileId
  | .reconcile _ _ _ => none

/-- The profiles that the row and the records of its instance name when a call begins, or
the call itself. -/
inductive Call.Names (call : Call) (start : ProcessLifecycle) (profileId : LaunchProfileId) : Prop
  | row (row : LifecycleOwnership) (held : start.retained.row call.instanceId = some row)
      (names : row.profileId = profileId)
  | record (operation : LifecycleOperation) (held : operation ∈ start.retained.operations)
      (same : operation.instanceId = call.instanceId)
      (names : operation.action.profileId = some profileId)
  | call (names : call.profileId = some profileId)

/-- A profile of the instance of a call. -/
def Call.Profile (call : Call) (start : ProcessLifecycle) (profile : LaunchProfile) : Prop :=
  ∃ profileId, call.Names start profileId ∧ start.profiles.resolve profileId = .ok profile

/-- The identity that a record of its instance has when a call begins. -/
def Call.Recorded (call : Call) (start : ProcessLifecycle) (identity : ProcessIdentity) : Prop :=
  ∃ operation ∈ start.retained.operations, operation.instanceId = call.instanceId ∧
    operation.process = some identity

/-- Descendants that a profile allows. -/
def LaunchProfile.Allows (profile : LaunchProfile) (owner : InstanceId)
    (found : List ProcessDescendantIdentity) : Prop :=
  found.length ≤ profile.policy.maxDescendants ∧
    ∀ descendant ∈ found, descendant.matchesProfile owner profile = true

/-- The port has shown the process to be exactly the expected one, running, and with
descendants that its profile allows. -/
structure Checked (expected : ProcessIdentity) (profile : LaunchProfile) (owner : InstanceId)
    (events : List Event) : Prop where
  identified : .inspectedIdentity expected.process (.ok expected) ∈ events
  running : .inspected expected.process (.ok .running) ∈ events
  listed : ∃ found, .listedDescendants expected.process (.ok found) ∈ events ∧
    profile.Allows owner found

/-- A stop after some events of a call: of a process that the call has started, or of the
recorded one, checked against a profile of its instance. -/
inductive Justified (call : Call) (start : ProcessLifecycle) (events : List Event)
    (process : ProcessHandle) : Prop
  | started (generation : ProcessOperationGeneration) (launch : ProcessLaunch)
      (heard : .started generation (.ok launch) ∈ events)
      (handle : launch.identity.process = process)
  | recorded (identity : ProcessIdentity) (profile : LaunchProfile) (owner : InstanceId)
      (recorded : call.Recorded start identity) (named : call.Profile start profile)
      (belongs : owner = call.instanceId ∨ owner = identity.instanceId)
      (checked : Checked identity profile owner events) (handle : identity.process = process)

/-- Each stop among the events of a call is justified by those before it. -/
def StopsJustified (call : Call) (start : ProcessLifecycle) (events : List Event) : Prop :=
  ∀ before process mode answer after, events = before ++ .stopped process mode answer :: after →
    Justified call start before process

section Events

variable {call : Call} {start : ProcessLifecycle} {events added : List Event}
  {process : ProcessHandle}

lemma Checked.append {expected : ProcessIdentity} {profile : LaunchProfile} {owner : InstanceId}
    (h : Checked expected profile owner events) :
    Checked expected profile owner (events ++ added) := by
  obtain ⟨found, hfound, hallowed⟩ := h.listed
  exact ⟨List.mem_append_left _ h.identified, List.mem_append_left _ h.running, found,
    List.mem_append_left _ hfound, hallowed⟩

lemma Justified.append (h : Justified call start events process) :
    Justified call start (events ++ added) process := by
  cases h with
  | started generation launch heard handle =>
    exact .started generation launch (List.mem_append_left _ heard) handle
  | recorded identity profile owner recorded named belongs checked handle =>
    exact .recorded identity profile owner recorded named belongs checked.append handle

lemma stopsJustified_nil : StopsJustified call start [] := by
  intro before process mode answer after h
  cases before <;> cases h

lemma StopsJustified.append (h : StopsJustified call start events)
    (hquiet : ∀ event ∈ added, event.Quiet) : StopsJustified call start (events ++ added) := by
  induction added using List.reverseRecOn with
  | nil => rwa [List.append_nil]
  | append_singleton added event ih =>
    have hadded := ih fun e he => hquiet e (List.mem_append_left _ he)
    intro before process mode answer after hsplit
    rw [← List.append_assoc] at hsplit
    obtain ⟨-, -, rfl⟩ | ⟨rest, -, hrest⟩ := append_singleton_eq_iff.mp hsplit
    · exact (hquiet _ (List.mem_append_right _ (List.mem_singleton_self _))).elim
    · exact hadded before process mode answer rest hrest

lemma StopsJustified.stop (h : StopsJustified call start events)
    (hprocess : Justified call start events process) (mode : StopMode)
    (answer : Except ProcessFault Unit) :
    StopsJustified call start (events ++ [.stopped process mode answer]) := by
  intro before other mode' answer' after hsplit
  obtain ⟨-, rfl, hevent⟩ | ⟨rest, -, hrest⟩ := append_singleton_eq_iff.mp hsplit
  · cases hevent
    exact hprocess
  · exact h before other mode' answer' rest hrest

end Events

/-! ### Memory during a call -/

/-- The operation of a call. -/
structure Call.Owns (call : Call) (start : ProcessLifecycle) (operation : LifecycleOperation) :
    Prop where
  instanceId : operation.instanceId = call.instanceId
  operationId : operation.operationId = call.operationId
  names : ∀ profileId, operation.action.profileId = some profileId → call.Names start profileId

/-- What a call keeps of the memory that it began with: the profiles, and of its instance
the records other than its own.  Whatever the row and its own record name was named before,
or by the call. -/
structure Since (call : Call) (start lifecycle : ProcessLifecycle) : Prop where
  profiles : lifecycle.profiles = start.profiles
  others : ∀ operation ∈ lifecycle.retained.operations, operation.instanceId = call.instanceId →
    operation.operationId ≠ call.operationId → operation ∈ start.retained.operations
  actions : ∀ operation ∈ lifecycle.retained.operations, operation.instanceId = call.instanceId →
    ∀ profileId, operation.action.profileId = some profileId → call.Names start profileId
  row : ∀ row, lifecycle.retained.row call.instanceId = some row →
    call.Names start row.profileId

section Since

variable {call : Call} {start lifecycle : ProcessLifecycle} {operation : LifecycleOperation}

lemma Since.refl (call : Call) (start : ProcessLifecycle) : Since call start start where
  profiles := rfl
  others _ hmem _ _ := hmem
  actions operation hmem hinstance _ hnames := .record operation hmem hinstance hnames
  row row hrow := .row row hrow rfl

/-- Memory with other sequences, epochs or mirrored processes. -/
lemma Since.of_retained {other : ProcessLifecycle} (h : Since call start lifecycle)
    (hprofiles : other.profiles = lifecycle.profiles)
    (hretained : other.retained = lifecycle.retained) : Since call start other where
  profiles := hprofiles.trans h.profiles
  others := by rw [hretained]; exact h.others
  actions := by rw [hretained]; exact h.actions
  row := by rw [hretained]; exact h.row

lemma mem_putRecord {contents : LifecycleContents} {other : LifecycleOperation}
    (h : other ∈ (contents.putRecord operation).operations) :
    other = operation ∨ other ∈ contents.operations := by
  rw [LifecycleContents.mem_operations, LifecycleContents.getElem?_putRecord] at h
  split_ifs at h with hkey
  · exact .inl (Option.some.inj h).symm
  · exact .inr (LifecycleContents.mem_operations.mpr h)

lemma Since.putRecord (h : Since call start lifecycle) (hown : call.Owns start operation) :
    Since call start { lifecycle with retained := lifecycle.retained.putRecord operation } where
  profiles := h.profiles
  others other hmem hinstance hother := by
    obtain rfl | hmem := mem_putRecord hmem
    · exact absurd hown.operationId hother
    · exact h.others other hmem hinstance hother
  actions other hmem hinstance profileId hnames := by
    obtain rfl | hmem := mem_putRecord hmem
    · exact hown.names profileId hnames
    · exact h.actions other hmem hinstance profileId hnames
  row := h.row

lemma Since.own {row : LifecycleOwnership} (h : Since call start lifecycle)
    (hnames : call.Names start row.profileId) : Since call start (lifecycle.own row) where
  profiles := h.profiles
  others := h.others
  actions := h.actions
  row found hfound := by
    have hrow : (lifecycle.retained.putOwnership row).ownership[call.instanceId]? = some found :=
      hfound
    rw [LifecycleContents.getElem?_putOwnership] at hrow
    split_ifs at hrow with hinstance
    · exact Option.some.inj hrow ▸ hnames
    · exact h.row found hrow

/-! ### Reads of memory -/

lemma mem_of_record {contents : LifecycleContents} {instanceId : InstanceId}
    {operationId : OperationId} (h : contents.record instanceId operationId = some operation) :
    operation ∈ contents.operations ∧ operation.instanceId = instanceId ∧
      operation.operationId = operationId := by
  have hkey := contents.records_keyed _ _ h
  refine ⟨LifecycleContents.mem_operations.mpr (hkey ▸ h), ?_, ?_⟩
  · exact congrArg (fun key => (ofLex key).1) hkey
  · exact congrArg (fun key => (ofLex key).2) hkey

/-- The operation that authorizes a stop is another one of the instance. -/
lemma mem_of_latestAuthorizedExcluding {instanceId : InstanceId} {excluded : OperationId}
    {previous : LifecycleOperation}
    (h : lifecycle.latestAuthorizedExcluding instanceId (some excluded) = some previous) :
    previous ∈ lifecycle.retained.operations ∧ previous.instanceId = instanceId ∧
      previous.operationId ≠ excluded := by
  unfold ProcessLifecycle.latestAuthorizedExcluding at h
  split_ifs at h with howned
  · obtain ⟨hrecord, hfilter⟩ := Option.filter_eq_some_iff.mp h
    obtain ⟨owner, -, hrecord⟩ := Option.bind_eq_some_iff.mp hrecord
    obtain ⟨hmem, hinstance, -⟩ := mem_of_record hrecord
    exact ⟨hmem, hinstance, fun heq => (of_decide_eq_true hfilter).1 (congrArg some heq)⟩
  · obtain ⟨latest, hlatest, hfound⟩ := Option.bind_eq_some_iff.mp h
    have hnewest := (maxByKey_spec hlatest).1
    rw [List.mem_filter, decide_eq_true_eq] at hnewest
    split_ifs at hfound with hother
    · obtain ⟨hsame, -⟩ := Option.filter_eq_some_iff.mp hfound
      cases hsame
      exact ⟨hnewest.1, hnewest.2.1, fun heq => hother (congrArg some heq)⟩
    · have hmem := (maxByKey_spec hfound).1
      rw [List.mem_filter, decide_eq_true_eq] at hmem
      exact ⟨hmem.1, hmem.2.1, fun heq => hmem.2.2.1 (congrArg some heq)⟩

/-- The operation that authorizes a stop was recorded before the call. -/
lemma Since.previous {previous : LifecycleOperation} (h : Since call start lifecycle)
    (hown : call.Owns start operation)
    (hprevious : lifecycle.latestAuthorizedExcluding operation.instanceId
      (some operation.operationId) = some previous) :
    previous ∈ start.retained.operations ∧ previous.instanceId = call.instanceId := by
  rw [hown.instanceId, hown.operationId] at hprevious
  obtain ⟨hmem, hinstance, hother⟩ := mem_of_latestAuthorizedExcluding hprevious
  exact ⟨h.others previous hmem hinstance hother, hinstance⟩

lemma Since.resolve {profileId : LaunchProfileId} {profile : LaunchProfile}
    (h : Since call start lifecycle) (hnames : call.Names start profileId)
    (hresolve : lifecycle.resolve profileId = .ok profile) : call.Profile start profile := by
  rw [ProcessLifecycle.resolve, mapError_eq_ok, h.profiles] at hresolve
  exact ⟨profileId, hnames, hresolve⟩

/-- The profile of an operation is one of its instance. -/
lemma Since.profile {profile : LaunchProfile} (h : Since call start lifecycle)
    (hinstance : operation.instanceId = call.instanceId)
    (hnames : ∀ profileId, operation.action.profileId = some profileId →
      call.Names start profileId)
    (hprofile : lifecycle.profileForOperation operation = .ok profile) :
    call.Profile start profile := by
  unfold ProcessLifecycle.profileForOperation at hprofile
  rw [hinstance] at hprofile
  cases hrow : lifecycle.retained.row call.instanceId with
  | some owner =>
    rw [hrow] at hprofile
    exact h.resolve (h.row owner hrow) hprofile
  | none =>
    rw [hrow] at hprofile
    have hcandidates : ∀ {candidates : List LifecycleOperation},
        (∀ candidate ∈ candidates, candidate ∈ lifecycle.retained.operations ∧
          candidate.instanceId = call.instanceId) →
        okOr (candidates.findSome? fun candidate => candidate.action.profileId.bind fun profileId =>
          (lifecycle.profiles.resolve profileId).toOption) LifecycleError.instanceNotFound =
            .ok profile → call.Profile start profile := by
      intro candidates hall hfound
      obtain ⟨candidate, hmem, hcandidate⟩ :=
        List.exists_of_findSome?_eq_some (okOr_eq_ok.mp hfound)
      obtain ⟨profileId, hid, hresolve⟩ := Option.bind_eq_some_iff.mp hcandidate
      obtain ⟨hrecord, hsame⟩ := hall candidate hmem
      refine ⟨profileId, h.actions candidate hrecord hsame profileId hid, ?_⟩
      rw [← h.profiles]
      cases hresolved : lifecycle.profiles.resolve profileId with
      | error e => rw [hresolved] at hresolve; cases hresolve
      | ok found => rw [hresolved] at hresolve; cases hresolve; rfl
    have hfilter : ∀ candidate ∈ (lifecycle.retained.operations.filter fun candidate =>
        candidate.instanceId = call.instanceId ∧ candidate.process.isSome ∧
          candidate.state.isActive).reverse,
        candidate ∈ lifecycle.retained.operations ∧ candidate.instanceId = call.instanceId := by
      intro candidate hmem
      rw [List.mem_reverse, List.mem_filter, decide_eq_true_eq] at hmem
      exact ⟨hmem.1, hmem.2.1⟩
    cases haction : operation.action with
    | launchNew profileId | restart profileId =>
      rw [haction] at hprofile hnames
      exact h.resolve (hnames profileId rfl) hprofile
    | attachExisting identity | stop mode =>
      rw [haction] at hprofile
      exact hcandidates hfilter hprofile

end Since

/-! ### Procedures that keep the memory of a call -/

section Kept

variable {env : Environment} {call : Call} {start : ProcessLifecycle}
  {s : CallState Coordinator Event} {operation : LifecycleOperation}

/-- A read of memory, and what follows it. -/
lemma ensures_memory_bind {α : Type} {K : CallState Coordinator Event → Prop}
    {Q : α → CallState Coordinator Event → Prop} {f : ProcessLifecycle → LifecycleM α}
    (h : Ensures (f s.state.memory) s K Q) : Ensures (memory >>= f) s K Q := by
  unfold Ensures
  rw [after_bind, memory, after_map, after_getState]
  exact h

/-- The memory of a call in some state. -/
def Kept (call : Call) (start : ProcessLifecycle) (s : CallState Coordinator Event) : Prop :=
  Since call start s.state.memory

lemma write_kept (hs : Kept call start s) (w : StoreWrite) :
    Ensures (write env w) s (fun _ => True) fun _ t => Kept call start t := by
  refine (Ensures.interact (Q := fun _ t => Kept call start t) trivial fun _ _ =>
    ⟨trivial, hs⟩).bind fun _ t _ ht => ?_
  refine (Ensures.modifyState (Q := fun _ t => Kept call start t) trivial ht).bind
    fun _ u _ hu => ?_
  exact .check trivial fun _ _ => hu

lemma persistUpdate_kept (hs : Kept call start s) (hown : call.Owns start operation) :
    Ensures (persistUpdate env operation) s (fun _ => True) fun _ t => Kept call start t :=
  (write_kept hs _).bind fun _ _ _ ht => .modifyState trivial (Since.putRecord ht hown)

lemma persistInsert_kept (hs : Kept call start s) (hown : call.Owns start operation) :
    Ensures (persistInsert env operation) s (fun _ => True) fun _ t => Kept call start t := by
  refine ensures_memory_bind (Ensures.check_bind trivial fun _ _ => ?_)
  exact (write_kept hs _).bind fun _ _ _ ht => .modifyState trivial (Since.putRecord ht hown)

lemma issueSequence_kept (hs : Kept call start s) :
    Ensures issueSequence s (fun _ => True) fun _ t => Kept call start t := by
  refine ensures_memory_bind (Ensures.check_bind trivial fun sequence _ => ?_)
  refine (Ensures.modifyState (Q := fun _ t => Kept call start t) trivial
    (Since.of_retained hs rfl rfl)).bind fun _ t _ ht => ?_
  exact .pure trivial ht

lemma reserveOwnership_kept {profileId : LaunchProfileId} (hs : Kept call start s)
    (hnames : call.Names start profileId) :
    Ensures (reserveOwnership env operation profileId) s (fun _ => True)
      fun _ t => Kept call start t := by
  refine ensures_memory_bind ?_
  split_ifs with hcurrent
  · exact (write_kept hs _).bind fun _ _ _ ht => .modifyState trivial (Since.own ht hnames)
  · exact .pure trivial hs

lemma authenticate_memory (instanceId : InstanceId) (proof : LeaseProof)
    (authorityEpoch : AuthorityEpoch) :
    Ensures (authenticate env instanceId proof authorityEpoch) s (fun _ => True)
      fun _ t => t.state.memory = s.state.memory := by
  refine ensures_memory_bind (Ensures.check_bind trivial fun _ _ => ?_)
  refine (Ensures.interact (Q := fun _ t => t.state.memory = s.state.memory) trivial fun _ _ =>
    ⟨trivial, rfl⟩).bind fun _ t _ ht => ?_
  exact Ensures.check_bind trivial fun _ _ => .check trivial fun _ _ => ht

/-! ### Restarts -/

/-- A restart that goes on: it is the operation of the call, for the same process. -/
def Restarting (call : Call) (start : ProcessLifecycle) (process : Option ProcessIdentity)
    (operation : LifecycleOperation) (t : CallState Coordinator Event) : Prop :=
  Kept call start t ∧ call.Owns start operation ∧ operation.process = process

lemma rotateAuthority_kept {current : AuthorityEpoch} (hs : Kept call start s)
    (hown : call.Owns start operation) :
    Ensures (rotateAuthority operation current) s (fun _ => True)
      fun rotated t => Kept call start t ∧ call.Owns start rotated := by
  unfold rotateAuthority
  split_ifs with hfirst
  · refine Ensures.check_bind trivial fun next _ => ?_
    refine (Ensures.modifyState (Q := fun _ t => Kept call start t) trivial
      (Since.of_retained hs rfl rfl)).bind fun _ t _ ht => ?_
    exact .pure trivial ⟨ht, hown.instanceId, hown.operationId, hown.names⟩
  · exact .pure trivial ⟨hs, hown⟩

lemma persistRestarting_kept {identity : ProcessIdentity} {current : AuthorityEpoch}
    (hs : Kept call start s) (hown : call.Owns start operation) :
    Ensures (persistRestarting env operation identity current) s (fun _ => True)
      (Restarting call start (some identity)) := by
  refine (rotateAuthority_kept hs hown).bind fun rotated t _ ⟨ht, hrotated⟩ => ?_
  have hrestarting : call.Owns start
      (rotated.setState .restarting (some identity) operation.failure) :=
    ⟨hrotated.instanceId, hrotated.operationId, hrotated.names⟩
  refine (persistUpdate_kept ht hrestarting).attempt.bind fun persisted u _ hu => ?_
  cases persisted with
  | ok _ => exact .pure trivial ⟨hu () rfl, hrestarting, rfl⟩
  | error error =>
    dsimp only
    split_ifs with hfirst
    · exact (Ensures.modifyState (Q := fun _ _ => True) trivial trivial).bind
        fun _ _ _ _ => .raise trivial
    · exact .raise trivial

lemma beginRestart_kept {identity : ProcessIdentity} (hs : Kept call start s)
    (hown : call.Owns start operation) :
    Ensures (beginRestart env operation identity) s (fun _ => True)
      (Restarting call start (some identity)) := by
  refine ensures_memory_bind (Ensures.check_bind trivial fun _ _ => ?_)
  refine (persistRestarting_kept hs hown).bind fun restarting t _ ⟨ht, hrestarting, hprocess⟩ => ?_
  cases haction : operation.action with
  | restart profileId =>
    have hnames : call.Names start profileId := hown.names profileId (by rw [haction]; rfl)
    exact (reserveOwnership_kept ht hnames).bind fun _ u _ hu =>
      .pure trivial ⟨hu, hrestarting, hprocess⟩
  | _ => exact .raise trivial

lemma prepareRestartRecovery_kept {profile : LaunchProfile} (hs : Kept call start s)
    (hown : call.Owns start operation) (hprofile : call.Profile start profile) :
    Ensures (prepareRestartRecovery env operation profile) s (fun _ => True)
      (Restarting call start operation.process) := by
  refine Ensures.check_bind trivial fun identity hidentity => ?_
  rw [okOr_eq_ok] at hidentity
  split_ifs with hfirst
  · exact hidentity ▸ beginRestart_kept hs hown
  · refine ensures_memory_bind (Ensures.check_bind trivial fun _ _ => ?_)
    obtain ⟨profileId, hnames, hresolve⟩ := hprofile
    rw [← ApprovedLaunchProfiles.id_of_resolve hresolve] at hnames
    exact (reserveOwnership_kept hs hnames).bind fun _ u _ hu => .pure trivial ⟨hu, hown, rfl⟩

end Kept

/-! ### Procedures that stop a process -/

section Stops

variable {env : Environment} {call : Call} {start : ProcessLifecycle} {log : List Event}
  {s : CallState Coordinator Event} {operation : LifecycleOperation}

/-- What the events that were added to a log have. -/
def Added (log : List Event) (P : List Event → Prop) (t : CallState Coordinator Event) : Prop :=
  ∃ added, t.events = log ++ added ∧ P added

lemma Added.and {P Q : List Event → Prop} (hP : Added log P s) (hQ : Added log Q s) :
    Added log (fun events => P events ∧ Q events) s := by
  obtain ⟨added, hadded, hP⟩ := hP
  obtain ⟨same, hsame, hQ⟩ := hQ
  obtain rfl := List.append_cancel_left (hadded.symm.trans hsame)
  exact ⟨added, hadded, hP, hQ⟩

/-- One more exchange. -/
lemma Added.append {P Q : List Event → Prop} {state : Coordinator} {event : Event}
    (hP : Added log P s) (h : ∀ events, P events → Q (events ++ [event])) :
    Added log Q ⟨state, s.events ++ [event]⟩ := by
  obtain ⟨added, hadded, hP⟩ := hP
  exact ⟨added ++ [event], by rw [hadded, List.append_assoc], h added hP⟩

/-- The stops of a call so far are justified. -/
abbrev Sound (call : Call) (start : ProcessLifecycle) (log : List Event) :
    CallState Coordinator Event → Prop :=
  Added log (StopsJustified call start)

/-- A process that the call may stop now. -/
abbrev MayStop (call : Call) (start : ProcessLifecycle) (log : List Event)
    (process : ProcessHandle) : CallState Coordinator Event → Prop :=
  Added log fun events => Justified call start events process

variable {α : Type}

lemma Quiet.sound {p : LifecycleM α} {Q : α → CallState Coordinator Event → Prop} (hp : Quiet p)
    (hs : Sound call start log s) (hQ : Ensures p s (fun _ => True) Q) :
    Ensures p s (Sound call start log) Q := by
  refine hp.ensures (fun t added hadded hquiet => ?_) hQ
  obtain ⟨events, hevents, hsound⟩ := hs
  exact ⟨events ++ added, by rw [hadded, hevents, List.append_assoc], hsound.append hquiet⟩

lemma ensures_trivial {p : LifecycleM α} : Ensures p s (fun _ => True) fun _ _ => True :=
  After.of_forall fun _ _ => ⟨trivial, fun _ _ => trivial⟩

/-- The procedure issues no stop that is not justified. -/
abbrev Guarded (call : Call) (start : ProcessLifecycle) (log : List Event)
    (s : CallState Coordinator Event) (p : LifecycleM α) : Prop :=
  Ensures p s (Sound call start log) fun _ _ => True

lemma Quiet.guarded {p : LifecycleM α} (hp : Quiet p) (hs : Sound call start log s) :
    Guarded call start log s p :=
  hp.sound hs ensures_trivial

/-- A quiet procedure takes no justification away. -/
lemma Quiet.mayStop {p : LifecycleM α} {process : ProcessHandle} (hp : Quiet p)
    (hs : Sound call start log s) (hprocess : MayStop call start log process s) :
    Ensures p s (Sound call start log) fun _ t => MayStop call start log process t := by
  refine hp.sound hs ((hp s).mono fun r t ⟨added, hadded, _⟩ => ⟨trivial, fun _ _ => ?_⟩)
  obtain ⟨events, hevents, hjustified⟩ := hprocess
  exact ⟨events ++ added, by rw [hadded, hevents, List.append_assoc], hjustified.append⟩

lemma stop_guarded {process : ProcessHandle} {mode : StopMode} (hs : Sound call start log s)
    (hprocess : MayStop call start log process s) :
    Guarded call start log s (stop env process mode) := by
  refine Ensures.interact hs fun answer _ => ⟨?_, trivial⟩
  exact (hs.and hprocess).append fun events ⟨hsound, hjustified⟩ =>
    hsound.stop hjustified mode answer

/-! ### Verification -/

/-- One answer of a port is heard, and nothing is forgotten. -/
lemma ensures_hear {P : List Event → Prop} {answer : List Event → Coordinator → α}
    {event : Coordinator → α → Event} (h : Added log P s)
    (hmono : ∀ events e, P events → P (events ++ [e])) :
    Ensures (interact env.crashes answer event : LifecycleM α) s (fun _ => True) fun a t =>
      t.state = s.state ∧ Added log (fun events => P events ∧ event s.state a ∈ events) t := by
  refine .interact trivial fun a _ => ⟨trivial, rfl, h.append fun events hP => ?_⟩
  exact ⟨hmono events _ hP, List.mem_append_right _ (List.mem_singleton_self _)⟩

lemma verifyDescendants_checked {expected : ProcessIdentity} {profile : LaunchProfile}
    (h : Added log (fun events => .inspectedIdentity expected.process (.ok expected) ∈ events ∧
      .inspected expected.process (.ok .running) ∈ events) s) :
    Ensures (verifyDescendants env expected profile) s (fun _ => True) fun r t =>
      t.state = s.state ∧
        (r = .ok () → Added log (Checked expected profile expected.instanceId) t) := by
  refine (ensures_hear h fun _ _ hP => ⟨List.mem_append_left _ hP.1,
    List.mem_append_left _ hP.2⟩).bind fun answer t _ ⟨hstate, hlisted⟩ => ?_
  cases answer with
  | error fault => exact .pure trivial ⟨hstate, fun hr => nomatch hr⟩
  | ok found =>
    dsimp only
    split_ifs with hmany hforeign
    · exact .pure trivial ⟨hstate, fun hr => nomatch hr⟩
    · exact .pure trivial ⟨hstate, fun hr => nomatch hr⟩
    · obtain ⟨events, hevents, ⟨hidentified, hrunning⟩, hfound⟩ := hlisted
      refine .pure trivial ⟨hstate, fun _ => ⟨events, hevents, hidentified, hrunning, found,
        hfound, not_lt.mp hmany, fun descendant hmem => ?_⟩⟩
      by_contra hmatch
      exact hforeign (List.any_eq_true.mpr ⟨descendant, hmem, by simpa using hmatch⟩)

/-- **A verified process** is exactly the expected one, running, with descendants that its
profile allows. -/
lemma verifyProcess_checked {expected : ProcessIdentity} {profile : LaunchProfile}
    (hs : Sound call start log s) :
    Ensures (verifyProcess env expected profile) s (Sound call start log) fun r t =>
      t.state = s.state ∧
        (r = .ok () → Added log (Checked expected profile expected.instanceId) t) := by
  refine (quiet_verifyProcess _ _).sound hs ?_
  obtain ⟨events, hevents, -⟩ := hs
  have hbegin : Added log (fun _ => True) s := ⟨events, hevents, trivial⟩
  unfold verifyProcess
  split_ifs with hmatch
  · exact .pure trivial ⟨rfl, fun hr => nomatch hr⟩
  refine (ensures_hear hbegin fun _ _ h => h).bind fun answer t _ ⟨ht, hidentified⟩ => ?_
  cases answer with
  | error fault => exact .pure trivial ⟨ht, fun hr => nomatch hr⟩
  | ok actual =>
    dsimp only
    split_ifs with hactual
    · exact .pure trivial ⟨ht, fun hr => nomatch hr⟩
    obtain rfl := not_not.mp hactual
    refine (ensures_hear hidentified fun _ _ h => ⟨h.1, List.mem_append_left _ h.2⟩).bind
      fun answer u _ ⟨hu, hrunning⟩ => ?_
    rw [ht] at hu
    rcases answer with fault | ⟨⟩ | code
    · exact .pure trivial ⟨hu, fun hr => nomatch hr⟩
    · obtain ⟨events, hevents, ⟨-, hidentified⟩, hrunning⟩ := hrunning
      refine (verifyDescendants_checked ⟨events, hevents, hidentified, hrunning⟩).bind
        fun r v _ ⟨hv, hchecked⟩ => .pure trivial ⟨hv.trans hu, fun hr => ?_⟩
      exact hchecked (mapError_eq_ok.mp hr)
    · exact .pure trivial ⟨hu, fun hr => nomatch hr⟩

/-! ### Starts -/

lemma finishStartFailure_guarded {failure : LifecycleFailure} (hs : Sound call start log s)
    (hprocess : ∀ identity, operation.process = some identity →
      MayStop call start log identity.process s) :
    Guarded call start log s (finishStartFailure env operation failure) := by
  unfold finishStartFailure
  cases hidentity : operation.process with
  | none => exact (quiet_blockOperation _ _).guarded hs
  | some identity =>
    refine (stop_guarded hs (hprocess identity hidentity)).bind fun answer t ht _ => ?_
    cases answer with
    | error fault => exact (quiet_blockCleanup _ _).guarded ht
    | ok _ =>
      refine ((quiet_descendants _).guarded ht).bind fun answer u hu _ => ?_
      cases answer with
      | error fault => exact (quiet_blockCleanup _ _).guarded hu
      | ok found =>
        dsimp only
        split_ifs with hnone
        · exact (quiet_blockOperation _ _).guarded hu
        · exact (quiet_blockCleanup _ _).guarded hu

/-- A started process may be stopped in the call that started it. -/
lemma finishStart_guarded {launch : ProcessLaunch} {profile : LaunchProfile}
    {state : LifecycleOperationState} (hs : Sound call start log s)
    (hstarted : MayStop call start log launch.identity.process s) :
    Guarded call start log s (finishStart env operation launch profile state) := by
  unfold finishStart
  dsimp only
  split_ifs with hmatch
  · refine finishStartFailure_guarded hs ?_
    rintro _ ⟨⟩
    exact hstarted
  · refine ((quiet_verifyStartedIdentity _ _).mayStop hs hstarted).bind fun r t ht hmay => ?_
    cases r with
    | error failure =>
      refine finishStartFailure_guarded ht ?_
      rintro _ ⟨⟩
      exact hmay
    | ok _ =>
      exact Quiet.guarded ((quiet_persistUpdate _).bind fun _ =>
        (quiet_setOwned _ _ _).bind fun _ => .pure _) ht

lemma startAndFinish_guarded {profile : LaunchProfile} {generation : ProcessOperationGeneration}
    (hs : Sound call start log s) :
    Guarded call start log s (startAndFinish env operation profile generation) := by
  refine Ensures.bind (R := fun answer t => ∀ launch, answer = .ok launch →
    MayStop call start log launch.identity.process t) ?_ fun answer t ht hmay => ?_
  · refine Emits.ensures (P := Event.Quiet) (.interact fun _ _ => trivial) ?_ ?_
    · intro t added hadded hquiet
      obtain ⟨events, hevents, hsound⟩ := hs
      exact ⟨events ++ added, by rw [hadded, hevents, List.append_assoc], hsound.append hquiet⟩
    · refine .interact trivial fun answer _ => ⟨trivial, fun launch hlaunch => ?_⟩
      refine hs.append fun events _ => .started generation launch ?_ rfl
      exact List.mem_append_right _ (hlaunch ▸ List.mem_singleton_self _)
  · rcases answer with (⟨⟩ | fault) | launch
    · exact (quiet_processFailure _ _).guarded ht
    · exact (quiet_processFailure _ _).guarded ht
    · exact finishStart_guarded ht (hmay launch rfl)

lemma executeLaunch_guarded {profileId : LaunchProfileId} (hs : Sound call start log s) :
    Guarded call start log s (executeLaunch env operation profileId) := by
  refine ensures_memory_bind (Ensures.check_bind hs fun profile _ => ?_)
  refine ((quiet_persistUpdate _).guarded hs).bind fun _ t ht _ => ?_
  split
  · exact (quiet_unknown _ _ _).guarded ht
  · exact startAndFinish_guarded ht

/-! ### Stops -/

lemma finishStop_guarded {identity : ProcessIdentity} {mode : StopMode}
    (hs : Sound call start log s) (hprocess : MayStop call start log identity.process s) :
    Guarded call start log s (finishStop env operation identity mode) := by
  refine (stop_guarded hs hprocess).bind fun answer t ht _ => ?_
  cases answer with
  | error fault => exact (quiet_blockOperation _ _).guarded ht
  | ok _ =>
    refine ((quiet_descendants _).guarded ht).bind fun answer u hu _ => ?_
    cases answer with
    | error fault => exact (quiet_blockOperation _ _).guarded hu
    | ok found =>
      dsimp only
      split_ifs with hnone
      · exact Quiet.guarded ((quiet_persistUpdate _).bind fun _ =>
          (quiet_clearOwnedFor _).bind fun _ => .pure _) hu
      · exact (quiet_blockCleanup _ _).guarded hu

/-- The recorded process, once verified, may be stopped. -/
lemma MayStop.of_checked {identity : ProcessIdentity} {profile : LaunchProfile}
    (hrecorded : call.Recorded start identity) (hprofile : call.Profile start profile)
    (h : Added log (Checked identity profile identity.instanceId) s) :
    MayStop call start log identity.process s := by
  obtain ⟨events, hevents, hchecked⟩ := h
  exact ⟨events, hevents, .recorded identity profile _ hrecorded hprofile (.inr rfl) hchecked rfl⟩

lemma executeStop_guarded {mode : StopMode} (hs : Sound call start log s)
    (hkept : Kept call start s) (hown : call.Owns start operation) :
    Guarded call start log s (executeStop env operation mode) := by
  refine ensures_memory_bind ?_
  split
  · exact (quiet_blockOperation _ _).guarded hs
  next previous hprevious =>
  obtain ⟨hheld, hinstance⟩ := hkept.previous hown hprevious
  split
  · exact (quiet_blockOperation _ _).guarded hs
  next identity hidentity =>
  have hrecorded : call.Recorded start identity := ⟨previous, hheld, hinstance, hidentity⟩
  refine Ensures.check_bind hs fun profile hprofile => ?_
  have hnamed := hkept.profile hinstance (fun _ => .record previous hheld hinstance) hprofile
  refine ((quiet_persistUpdate _).guarded hs).bind fun _ t ht _ => ?_
  refine (verifyProcess_checked ht).bind fun r u hu ⟨_, hchecked⟩ => ?_
  cases r with
  | error error => exact (quiet_blockCleanupLifecycleError _ _).guarded hu
  | ok _ => exact finishStop_guarded hu (.of_checked hrecorded hnamed (hchecked rfl))

/-- The processes of the operation that a call resumes. -/
def Holds (call : Call) (start : ProcessLifecycle) (operation : LifecycleOperation) : Prop :=
  ∀ identity, operation.process = some identity → call.Recorded start identity

lemma reconcileStopping_guarded (hs : Sound call start log s) (hkept : Kept call start s)
    (hown : call.Owns start operation) (hholds : Holds call start operation) :
    Guarded call start log s (reconcileStopping env operation) := by
  unfold reconcileStopping
  split
  · exact (quiet_unknown _ _ _).guarded hs
  next identity hidentity =>
  have hrecorded := hholds identity hidentity
  refine ensures_memory_bind (Ensures.check_bind hs fun profile hprofile => ?_)
  have hnamed := hkept.profile hown.instanceId hown.names hprofile
  refine ((quiet_inspectIdentity _).guarded hs).bind fun answer t ht _ => ?_
  cases answer with
  | error fault => exact (quiet_unknown _ _ _).guarded ht
  | ok actual =>
    dsimp only
    split_ifs with hdrifted
    · exact Quiet.guarded ((quiet_persistUpdate _).bind fun _ => .pure _) ht
    refine ((quiet_inspect _).guarded ht).bind fun answer u hu _ => ?_
    rcases answer with fault | ⟨⟩ | code
    · exact (quiet_unknown _ _ _).guarded hu
    · refine (verifyProcess_checked hu).bind fun r v hv ⟨_, hchecked⟩ => ?_
      cases r with
      | error error => exact (quiet_blockCleanupLifecycleError _ _).guarded hv
      | ok _ => exact finishStop_guarded hv (.of_checked hrecorded hnamed (hchecked rfl))
    · refine ((quiet_descendants _).guarded hu).bind fun answer v hv _ => ?_
      cases answer with
      | error fault => exact (quiet_unknown _ _ _).guarded hv
      | ok found =>
        dsimp only
        split_ifs with hnone
        · exact Quiet.guarded ((quiet_persistUpdate _).bind fun _ =>
            (quiet_clearOwnedFor _).bind fun _ => .pure _) hv
        · exact Quiet.guarded ((quiet_persistUpdate _).bind fun _ => .pure _) hv

lemma Call.Owns.setState (hown : call.Owns start operation) (state : LifecycleOperationState)
    (process : Option ProcessIdentity) (failure : Option LifecycleFailure) :
    call.Owns start (operation.setState state process failure) :=
  ⟨hown.instanceId, hown.operationId, hown.names⟩

lemma reconcileStopIntent_guarded (hs : Sound call start log s) (hkept : Kept call start s)
    (hown : call.Owns start operation) :
    Guarded call start log s (reconcileStopIntent env operation) := by
  refine ensures_memory_bind ?_
  split
  · exact (quiet_blockOperation _ _).guarded hs
  next previous hprevious =>
  obtain ⟨hheld, hinstance⟩ := hkept.previous hown hprevious
  split
  · exact (quiet_blockOperation _ _).guarded hs
  next identity hidentity =>
  refine Ensures.check_bind hs fun profile _ => ?_
  have hstopping := hown.setState .stopping (some identity) operation.failure
  refine ((quiet_persistUpdate _).sound hs (persistUpdate_kept hkept hstopping)).bind
    fun _ t ht hkept => reconcileStopping_guarded ht hkept hstopping ?_
  rintro _ ⟨⟩
  exact ⟨previous, hheld, hinstance, hidentity⟩

/-! ### Restarts -/

/-- A retained process that its profile does not match is stopped only as the recorded one,
within the limits of the profile. -/
lemma reconcileRetainedCleanup_guarded {identity : ProcessIdentity}
    (hs : Sound call start log s) (hkept : Kept call start s) (hown : call.Owns start operation)
    (hrecorded : call.Recorded start identity) :
    Guarded call start log s (reconcileRetainedCleanup env operation identity) := by
  obtain ⟨events, hevents, hsound⟩ := hs
  have hbegin : Added log (fun _ => True) s := ⟨events, hevents, trivial⟩
  have hs : Sound call start log s := ⟨events, hevents, hsound⟩
  refine ((quiet_inspectIdentity _).sound hs (ensures_hear hbegin fun _ _ h => h)).bind
    fun answer t ht ⟨hstate, hidentified⟩ => ?_
  cases answer with
  | error fault => exact (quiet_unknown _ _ _).guarded ht
  | ok actual =>
  dsimp only
  split_ifs with hdrifted
  · exact (quiet_blockDrifted _ _).guarded ht
  obtain rfl := not_not.mp hdrifted
  have hkept : Kept call start t := by rw [Kept, hstate]; exact hkept
  refine ensures_memory_bind (Ensures.check_bind ht fun profile hprofile => ?_)
  have hnamed := hkept.profile hown.instanceId hown.names hprofile
  refine ((quiet_descendants _).sound ht (ensures_hear hidentified fun _ _ h =>
    ⟨h.1, List.mem_append_left _ h.2⟩)).bind fun answer u hu ⟨_, hlisted⟩ => ?_
  cases answer with
  | error fault => exact (quiet_blockCleanup _ _).guarded hu
  | ok found =>
  dsimp only
  split_ifs with hforeign
  · exact (quiet_blockCleanup _ _).guarded hu
  refine ((quiet_inspect _).sound hu (ensures_hear hlisted fun _ _ h =>
    ⟨⟨h.1.1, List.mem_append_left _ h.1.2⟩, List.mem_append_left _ h.2⟩)).bind
      fun answer v hv ⟨_, hinspected⟩ => ?_
  rcases answer with fault | ⟨⟩ | code
  · exact (quiet_unknown _ _ _).guarded hv
  · have hallows : profile.Allows call.instanceId found := by
      obtain ⟨hcount, hmatch⟩ := not_or.mp hforeign
      refine ⟨not_lt.mp hcount, fun descendant hmem => ?_⟩
      by_contra hother
      refine hmatch (List.any_eq_true.mpr ⟨descendant, hmem, ?_⟩)
      rw [hown.instanceId]
      simpa using hother
    have hmay : MayStop call start log actual.process v := by
      obtain ⟨events, hevents, ⟨⟨-, hidentified⟩, hfound⟩, hrunning⟩ := hinspected
      exact ⟨events, hevents, .recorded actual profile call.instanceId hrecorded hnamed (.inl rfl)
        ⟨hidentified, hrunning, found, hfound, hallows⟩ rfl⟩
    refine (stop_guarded hv hmay).bind fun answer w hw _ => ?_
    cases answer with
    | error fault => exact (quiet_blockCleanup _ _).guarded hw
    | ok _ => exact (quiet_finishFailedLaunchCleanup _ _).guarded hw
  · exact (quiet_finishFailedLaunchCleanup _ _).guarded hv

lemma reconcileLaunch_guarded (hs : Sound call start log s) (hkept : Kept call start s)
    (hown : call.Owns start operation) (hholds : Holds call start operation) :
    Guarded call start log s (reconcileLaunch env operation) := by
  refine ensures_memory_bind (Ensures.check_bind hs fun profile _ => ?_)
  split
  next identity hidentity =>
    split_ifs with hmatch
    · exact reconcileRetainedCleanup_guarded hs hkept hown (hholds identity hidentity)
    · exact (quiet_verifyRecord _).guarded hs
  · split
    · exact (quiet_unknown _ _ _).guarded hs
    · refine ((quiet_recoverGeneration _ _).guarded hs).bind fun answer t ht _ => ?_
      rcases answer with fault | identity | ⟨⟩
      · exact (quiet_unknown _ _ _).guarded ht
      · exact (quiet_finishRecovered _ _ _).guarded ht
      · exact (quiet_unknown _ _ _).guarded ht

lemma startReplacement_guarded {profile : LaunchProfile} (hs : Sound call start log s) :
    Guarded call start log s (startReplacement env operation profile) := by
  refine ((quiet_persistUpdate _).guarded hs).bind fun _ t ht _ => ?_
  refine ((quiet_reserveOwnership _ _).guarded ht).bind fun _ u hu _ => ?_
  split
  · exact (quiet_unknown _ _ _).guarded hu
  · exact startAndFinish_guarded hu

lemma replaceWithoutDescendants_guarded {identity : ProcessIdentity} {profile : LaunchProfile}
    (hs : Sound call start log s) :
    Guarded call start log s (replaceWithoutDescendants env operation identity profile) := by
  refine ((quiet_descendants _).guarded hs).bind fun answer t ht _ => ?_
  cases answer with
  | error fault => exact (quiet_processFailure _ _).guarded ht
  | ok found =>
    dsimp only
    split_ifs with hnone
    · exact startReplacement_guarded ht
    · exact (quiet_blockCleanup _ _).guarded ht

lemma finishRestart_guarded {profile : LaunchProfile} (hs : Sound call start log s)
    (hkept : Kept call start s) (hown : call.Owns start operation)
    (hholds : Holds call start operation) (hnamed : call.Profile start profile) :
    Guarded call start log s (finishRestart env operation profile) := by
  refine Ensures.check_bind hs fun identity hidentity => ?_
  have hrecorded := hholds identity (okOr_eq_ok.mp hidentity)
  split_ifs with hmatch
  · exact reconcileRetainedCleanup_guarded hs hkept hown hrecorded
  refine ((quiet_inspectIdentity _).guarded hs).bind fun answer t ht _ => ?_
  cases answer with
  | error fault => exact (quiet_processFailure _ _).guarded ht
  | ok actual =>
  dsimp only
  split_ifs with hdrifted
  · exact (quiet_blockCleanup _ _).guarded ht
  refine ((quiet_inspect _).guarded ht).bind fun answer u hu _ => ?_
  rcases answer with fault | ⟨⟩ | code
  · exact (quiet_processFailure _ _).guarded hu
  · refine (verifyProcess_checked hu).bind fun r v hv ⟨_, hchecked⟩ => ?_
    cases r with
    | error error => exact (quiet_blockCleanupLifecycleError _ _).guarded hv
    | ok _ =>
      refine (stop_guarded hv (.of_checked hrecorded hnamed (hchecked rfl))).bind
        fun answer w hw _ => ?_
      cases answer with
      | error fault => exact (quiet_blockOperation _ _).guarded hw
      | ok _ => exact replaceWithoutDescendants_guarded hw
  · exact replaceWithoutDescendants_guarded hu

lemma reconcileRestart_guarded (hs : Sound call start log s) (hkept : Kept call start s)
    (hown : call.Owns start operation) (hholds : Holds call start operation) :
    Guarded call start log s (reconcileRestart env operation) := by
  refine ensures_memory_bind ?_
  split
  · split_ifs with hpermitted
    · exact (quiet_unknown _ _ _).guarded hs
    · refine Ensures.check_bind hs fun profile _ => ?_
      split
      · exact (quiet_unknown _ _ _).guarded hs
      · refine ((quiet_recoverGeneration _ _).guarded hs).bind fun answer t ht _ => ?_
        rcases answer with fault | identity | ⟨⟩
        · exact (quiet_unknown _ _ _).guarded ht
        · exact (quiet_finishRecovered _ _ _).guarded ht
        · exact (quiet_unknown _ _ _).guarded ht
  · refine Ensures.check_bind hs fun profile hprofile => ?_
    have hnamed := hkept.profile hown.instanceId hown.names hprofile
    refine ((quiet_prepareRestartRecovery _ _).sound hs
      (prepareRestartRecovery_kept hkept hown hnamed)).bind
        fun prepared t ht ⟨hkept, hown, hprocess⟩ => ?_
    exact finishRestart_guarded ht hkept hown (by rwa [Holds, hprocess]) hnamed

lemma reconcileRestartIntent_guarded {profileId : LaunchProfileId} (hs : Sound call start log s)
    (hkept : Kept call start s) (hown : call.Owns start operation) :
    Guarded call start log s (reconcileRestartIntent env operation profileId) := by
  refine ensures_memory_bind ?_
  split
  · exact (quiet_blockOperation _ _).guarded hs
  next previous hprevious =>
  obtain ⟨hheld, hinstance⟩ := hkept.previous hown hprevious
  split
  · exact (quiet_blockOperation _ _).guarded hs
  next identity hidentity =>
  refine Ensures.check_bind hs fun profile _ => Ensures.check_bind hs fun previousProfile _ => ?_
  split_ifs with hmismatch
  · exact (quiet_blockOperation _ _).guarded hs
  refine ((quiet_beginRestart _ _).sound hs (beginRestart_kept hkept hown)).bind
    fun restarting t ht ⟨hkept, hown, hprocess⟩ => reconcileRestart_guarded ht hkept hown ?_
  intro found hfound
  rw [hprocess, Option.some.injEq] at hfound
  exact ⟨previous, hheld, hinstance, hfound ▸ hidentity⟩

lemma executeRestart_guarded {profileId : LaunchProfileId} (hs : Sound call start log s)
    (hkept : Kept call start s) (hown : call.Owns start operation) :
    Guarded call start log s (executeRestart env operation profileId) := by
  refine ensures_memory_bind ?_
  split
  · exact (quiet_blockOperation _ _).guarded hs
  next previous hprevious =>
  obtain ⟨hheld, hinstance⟩ := hkept.previous hown hprevious
  split
  · exact (quiet_blockOperation _ _).guarded hs
  next identity hidentity =>
  refine Ensures.check_bind hs fun profile _ => ?_
  refine Ensures.check_bind hs fun previousProfile hprofile => ?_
  have hnamed := hkept.profile hinstance (fun _ => .record previous hheld hinstance) hprofile
  have hrestarting := hown.setState .restarting (some identity) none
  refine ((quiet_persistUpdate _).sound hs (persistUpdate_kept hkept hrestarting)).bind
    fun _ t ht hkept => ?_
  split_ifs with hmismatch
  · exact (quiet_blockOperation _ _).guarded ht
  obtain rfl := not_not.mp hmismatch
  refine (verifyProcess_checked ht).bind fun r u hu ⟨hstate, _⟩ => ?_
  have hkept : Kept call start u := by rw [Kept, hstate]; exact hkept
  cases r with
  | error error => exact (quiet_blockCleanupLifecycleError _ _).guarded hu
  | ok _ =>
    refine ((quiet_beginRestart _ _).sound hu (beginRestart_kept hkept hrestarting)).bind
      fun restarting v hv ⟨hkept, hown, hprocess⟩ =>
        finishRestart_guarded hv hkept hown ?_ hnamed
    intro found hfound
    rw [hprocess, Option.some.injEq] at hfound
    exact ⟨previous, hheld, hinstance, hfound ▸ hidentity⟩

/-! ### Calls -/

/-- A recorded operation, when its call resumes it. -/
lemma owns_of_mem (hheld : operation ∈ start.retained.operations)
    (hinstance : operation.instanceId = call.instanceId)
    (hoperation : operation.operationId = call.operationId) :
    call.Owns start operation ∧ Holds call start operation :=
  ⟨⟨hinstance, hoperation, fun _ hnames => .record operation hheld hinstance hnames⟩,
    fun _ hidentity => ⟨operation, hheld, hinstance, hidentity⟩⟩

lemma reconcileRecord_guarded (hs : Sound call start log s) (hkept : Kept call start s)
    (hown : call.Owns start operation) (hholds : Holds call start operation) :
    Guarded call start log s (reconcileRecord env operation) := by
  refine ensures_memory_bind ?_
  split
  · exact (quiet_blockOperation _ _).guarded hs
  have hlaunch : Guarded call start log s (reconcileLaunch env operation) :=
    reconcileLaunch_guarded hs hkept hown hholds
  have hstop : Guarded call start log s (reconcileStopping env operation) :=
    reconcileStopping_guarded hs hkept hown hholds
  have hrestart : Guarded call start log s (reconcileRestart env operation) :=
    reconcileRestart_guarded hs hkept hown hholds
  have hattach : ∀ identity, Guarded call start log s (executeAttach env operation identity) :=
    fun identity => (quiet_executeAttach _ _).guarded hs
  have hdone : ∀ response : LifecycleResponse,
      Guarded call start log s (pure response : LifecycleM LifecycleResponse) :=
    fun response => .pure hs trivial
  cases operation.state with
  | intentRecorded | starting =>
    cases operation.action with
    | launchNew profileId => exact hlaunch
    | attachExisting identity => exact hattach identity
    | stop mode => exact reconcileStopIntent_guarded hs hkept hown
    | restart profileId => exact reconcileRestartIntent_guarded hs hkept hown
  | unknown =>
    cases operation.action with
    | launchNew profileId => exact hlaunch
    | attachExisting identity => exact hattach identity
    | stop mode =>
      dsimp only
      split_ifs with hprocess
      · exact hstop
      · exact hdone _
    | restart profileId => exact hrestart
  | blocked =>
    cases operation.action with
    | launchNew profileId =>
      dsimp only
      split_ifs with hprocess
      · exact hlaunch
      · exact hdone _
    | attachExisting identity => exact hdone _
    | stop mode =>
      dsimp only
      split_ifs with hprocess
      · exact hstop
      · exact hdone _
    | restart profileId => exact hrestart
  | started | attached => exact (quiet_verifyRecord _).guarded hs
  | stopping => exact hstop
  | restarting => exact hrestart
  | stopped | failed | rejected => exact hdone _

lemma replay_guarded (hs : Sound call start log s) (hkept : Kept call start s)
    (hown : call.Owns start operation) (hholds : Holds call start operation) :
    Guarded call start log s (replay env operation) := by
  refine ensures_memory_bind ?_
  split_ifs with hsuperseded hretained
  · exact .pure hs trivial
  · exact (quiet_blockOperation _ _).guarded hs
  · cases operation.state with
    | started | attached => exact (quiet_verifyRecord _).guarded hs
    | stopped | failed | rejected => exact .pure hs trivial
    | _ => exact reconcileRecord_guarded hs hkept hown hholds

lemma execute_guarded (hs : Sound call start log s) (hkept : Kept call start s)
    (hown : call.Owns start operation) :
    Guarded call start log s (execute env operation) := by
  unfold execute
  cases operation.action with
  | launchNew profileId => exact executeLaunch_guarded hs
  | attachExisting identity => exact (quiet_executeAttach _ _).guarded hs
  | stop mode => exact executeStop_guarded hs hkept hown
  | restart profileId => exact executeRestart_guarded hs hkept hown

lemma accept_guarded {request : LifecycleRequest} (hs : Sound (.apply request) start log s)
    (hkept : Kept (.apply request) start s) :
    Guarded (.apply request) start log s (accept env request) := by
  refine ensures_memory_bind (Ensures.check_bind hs fun _ _ => Ensures.check_bind hs fun _ _ => ?_)
  refine (quiet_issueSequence.sound hs (issueSequence_kept hkept)).bind
    fun sequence t ht hkept => ?_
  have hown : (Call.apply request).Owns start ((LifecycleOperation.new request.operationId
      request.instanceId request.lease request.authorityEpoch request.action).setSequence
        sequence) := ⟨rfl, rfl, fun _ hnames => .call hnames⟩
  refine ((quiet_persistInsert _).sound ht (persistInsert_kept hkept hown)).bind
    fun _ u hu hkept => ?_
  cases haction : request.action with
  | launchNew profileId =>
    have hnames : (Call.apply request).Names start profileId :=
      .call (by rw [Call.profileId, haction]; rfl)
    rw [haction] at hown
    exact ((quiet_reserveOwnership _ _).sound hu (reserveOwnership_kept hkept hnames)).bind
      fun _ v hv hkept => execute_guarded hv hkept hown
  | attachExisting identity | stop mode | restart profileId =>
    rw [haction] at hown
    exact execute_guarded hu hkept hown

lemma applyRequest_guarded {request : LifecycleRequest} (hs : Sound (.apply request) start log s)
    (hstart : s.state.memory = start) :
    Guarded (.apply request) start log s (applyRequest env request) := by
  refine ((quiet_authenticate _ _ _).sound hs (authenticate_memory _ _ _)).bind
    fun _ t ht hmemory => ensures_memory_bind ?_
  rw [hmemory, hstart]
  have hkept : Kept (.apply request) start t := by
    rw [Kept, hmemory, hstart]
    exact .refl _ _
  split
  next operation hrecord =>
    obtain ⟨hheld, hinstance, hoperation⟩ := mem_of_record hrecord
    have howned : Call.Owns (.apply request) start operation ∧ Holds (.apply request) start operation :=
      owns_of_mem hheld hinstance hoperation
    obtain ⟨hown, hholds⟩ := howned
    exact Ensures.check_bind ht fun _ _ => replay_guarded ht hkept hown hholds
  · exact accept_guarded ht hkept

lemma reconcileOperation_guarded {lease : LeaseProof} {authorityEpoch : AuthorityEpoch}
    {operationId : OperationId}
    (hs : Sound (.reconcile lease authorityEpoch operationId) start log s)
    (hstart : s.state.memory = start) :
    Guarded (.reconcile lease authorityEpoch operationId) start log s
      (reconcileOperation env lease authorityEpoch operationId) := by
  refine ((quiet_authenticate _ _ _).sound hs (authenticate_memory _ _ _)).bind
    fun _ t ht hmemory => ensures_memory_bind ?_
  refine Ensures.check_bind ht fun operation hrecord => ?_
  rw [okOr_eq_ok, hmemory, hstart] at hrecord
  have hkept : Kept (.reconcile lease authorityEpoch operationId) start t := by
    rw [Kept, hmemory, hstart]
    exact .refl _ _
  obtain ⟨hheld, hinstance, hoperation⟩ := mem_of_record hrecord
  obtain ⟨hown, hholds⟩ : Call.Owns (.reconcile lease authorityEpoch operationId) start operation ∧
      _ := owns_of_mem hheld hinstance hoperation
  exact Ensures.check_bind ht fun _ _ => Ensures.check_bind ht fun _ _ =>
    reconcileRecord_guarded ht hkept hown hholds

end Stops

end Sts2Gateway.Lifecycle
