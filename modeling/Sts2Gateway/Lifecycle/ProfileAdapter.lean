/-
The adapter of approved launch profiles (`process_adapter.rs`).

* `ApprovedLaunchProfileAdapter`: the catalog, and what the adapter keeps of the
  processes that the wrapped port has started;
* `WrappedPort`, `Event`: the wrapped port, whose answers may depend on everything so far;
* `acceptApprovedLaunch`, `startGeneration`: a start, and the clean-up of a process that
  does not match its profile;
* `stop`, `recoverOwned`, `recoverGeneration`: how a process that is left over is
  cleaned up, and how it is shown until then;
* `Call`, `next`, `run`: one call after another on one adapter;
* `Event.launched`, `Event.Releases`, `Gone`, `Outstanding`: what the exchanges say of a process.
-/
import Sts2Gateway.Library.Machine
import Sts2Gateway.Lifecycle.Ports

namespace Sts2Gateway.Lifecycle.ProfileAdapter

open Std (ExtTreeMap LawfulEqCmp LawfulEqOrd TransCmp)
open ControlPlane (InstanceId ProcessHandle ProcessFault ProcessState StopMode LaunchSpec)
open Procedure Exchange OrderedMap

/-! ### The order of generations -/

/-- The fields of a generation, in the order in which its derived order compares them. -/
def orderKey (generation : ProcessOperationGeneration) :
    ℕ ×ₗ ℕ ×ₗ ℕ ×ₗ ℕ ×ₗ ℕ ×ₗ ℕ ×ₗ ℕ :=
  toLex (generation.instanceId, toLex (generation.operationId, toLex (generation.sequence,
    toLex (generation.requestEpoch, toLex (generation.authorityEpoch,
      toLex (generation.profileId, match generation.kind with
        | .launchNew => 0
        | .restartReplacement => 1))))))

lemma orderKey_inj {a b : ProcessOperationGeneration} (h : orderKey a = orderKey b) : a = b := by
  obtain ⟨_, _, _, _, _, _, kind⟩ := a
  obtain ⟨_, _, _, _, _, _, kind'⟩ := b
  cases kind <;> cases kind' <;> simp_all [orderKey]

abbrev compareGenerations (a b : ProcessOperationGeneration) : Ordering :=
  compareOn orderKey a b

instance : LawfulEqCmp compareGenerations where
  compare_self := compare_eq_iff_eq.mpr rfl
  eq_of_compare h := orderKey_inj (compare_eq_iff_eq.mp h)

/-! ### The adapter -/

structure ApprovedLaunchProfileAdapter where
  profiles : ApprovedLaunchProfiles
  bindings : ExtTreeMap ProcessHandle LaunchProfile compare
  /-- The processes that were started for this adapter and are still to be cleaned up. -/
  unresolved : ExtTreeMap ProcessHandle ProcessIdentity compare
  retainedGenerations : ExtTreeMap ProcessOperationGeneration ProcessHandle compareGenerations
  unresolved_keyed : ∀ process (identity : ProcessIdentity),
    unresolved[process]? = some identity → identity.process = process

namespace ApprovedLaunchProfileAdapter

def new (profiles : ApprovedLaunchProfiles) : ApprovedLaunchProfileAdapter where
  profiles := profiles
  bindings := ∅
  unresolved := ∅
  retainedGenerations := ∅
  unresolved_keyed := by simp

variable (adapter : ApprovedLaunchProfileAdapter)

def profileFor (specification : LaunchSpec) : Except ProcessFault LaunchProfile := do
  let id ← okOr specification.profileId .profileRequired
  (adapter.profiles.resolve id).mapError fun _ => .profileNotApproved

/-- Whether the catalog resolves the profile's id to this very profile. -/
def approves (profile : LaunchProfile) : Prop := adapter.profiles.resolve profile.id = .ok profile

instance (profile : LaunchProfile) : Decidable (adapter.approves profile) :=
  match h : adapter.profiles.resolve profile.id with
  | .ok found =>
    if hsame : found = profile then .isTrue (by rw [approves, h, hsame])
    else .isFalse fun happroved => hsame (Except.ok.inj (h.symm.trans happroved))
  | .error _ => .isFalse fun happroved => nomatch h.symm.trans happroved

/-- A process that is kept for its clean-up. -/
def hold (identity : ProcessIdentity) (profile : LaunchProfile) : ApprovedLaunchProfileAdapter where
  profiles := adapter.profiles
  bindings := adapter.bindings.insert identity.process profile
  unresolved := adapter.unresolved.insert identity.process identity
  retainedGenerations := adapter.retainedGenerations
  unresolved_keyed := by
    intro process found h
    rw [getElem?_insert_if] at h
    split_ifs at h with hprocess
    · rw [← Option.some.inj h, hprocess]
    · exact adapter.unresolved_keyed process found h

def forgetRetained (process : ProcessHandle) : ApprovedLaunchProfileAdapter where
  profiles := adapter.profiles
  bindings := adapter.bindings
  unresolved := adapter.unresolved.erase process
  retainedGenerations := adapter.retainedGenerations.filter fun _ handle => handle ≠ process
  unresolved_keyed := by
    intro other found h
    rw [getElem?_erase_if] at h
    split_ifs at h
    exact adapter.unresolved_keyed other found h

/-- A process that matches its profile. -/
def accept (identity : ProcessIdentity) (profile : LaunchProfile) : ApprovedLaunchProfileAdapter :=
  { adapter with bindings := adapter.bindings.insert identity.process profile }.forgetRetained
    identity.process

/-- A process that is gone. -/
def drop (process : ProcessHandle) : ApprovedLaunchProfileAdapter :=
  { adapter with bindings := adapter.bindings.erase process }.forgetRetained process

/-- A generation whose process is kept for its clean-up. -/
def retainGeneration (generation : ProcessOperationGeneration) (process : ProcessHandle) :
    ApprovedLaunchProfileAdapter :=
  { adapter with
    retainedGenerations := adapter.retainedGenerations.insert generation process }

/-- A process that the wrapped port reports: it is bound, and kept for its clean-up unless it
matches the profile. -/
def adopt (identity : ProcessIdentity) (instanceId : InstanceId) (profile : LaunchProfile) :
    ApprovedLaunchProfileAdapter :=
  if identity.matchesProfile instanceId profile = false then adapter.hold identity profile
  else adapter.accept identity profile

/-- The first process of an instance that is kept for its clean-up. -/
def unresolvedOf (instanceId : InstanceId) : Option ProcessIdentity :=
  (adapter.unresolved.toList.map Prod.snd).find? fun identity => identity.instanceId = instanceId

/-- The process of a generation that is kept for its clean-up. -/
def unresolvedGeneration (generation : ProcessOperationGeneration) : Option ProcessIdentity :=
  adapter.retainedGenerations[generation]?.bind fun handle => adapter.unresolved[handle]?

/-- A process that is to be cleaned up is shown whatever it is; a bound one must still match
its profile. -/
def validateIdentity (identity : ProcessIdentity) : Except ProcessFault ProcessIdentity :=
  if adapter.unresolved.contains identity.process then .ok identity
  else match adapter.bindings[identity.process]? with
    | none => .ok identity
    | some profile =>
      if identity.matchesProfile identity.instanceId profile then .ok identity
      else .error .identityMismatch

variable {adapter} {identity : ProcessIdentity} {profile : LaunchProfile}
  {process other : ProcessHandle} {generation : ProcessOperationGeneration}

lemma unresolved_hold : (adapter.hold identity profile).unresolved[other]? =
    if identity.process = other then some identity else adapter.unresolved[other]? :=
  getElem?_insert_if

lemma unresolved_forgetRetained : (adapter.forgetRetained process).unresolved[other]? =
    if process = other then none else adapter.unresolved[other]? :=
  getElem?_erase_if

lemma retained_forgetRetained (h : adapter.retainedGenerations[generation]? = some other)
    (hne : other ≠ process) :
    (adapter.forgetRetained process).retainedGenerations[generation]? = some other := by
  rw [forgetRetained, ExtTreeMap.getElem?_filter', h]
  simpa using hne

lemma retained_retainGeneration {held : ProcessOperationGeneration} :
    (adapter.retainGeneration held process).retainedGenerations[generation]? =
      if held = generation then some process else adapter.retainedGenerations[generation]? :=
  getElem?_insert_if

/-- A process that is kept is shown, or another one of its instance. -/
lemma unresolvedOf_of_kept (h : adapter.unresolved[identity.process]? = some identity) :
    ∃ found, adapter.unresolvedOf identity.instanceId = some found ∧
      found.instanceId = identity.instanceId ∧
      adapter.unresolved[found.process]? = some found := by
  have hmem : identity ∈ adapter.unresolved.toList.map Prod.snd :=
    List.mem_map.mpr ⟨_, ExtTreeMap.mem_toList_iff_getElem?_eq_some.mpr h, rfl⟩
  cases hfound : adapter.unresolvedOf identity.instanceId with
  | none =>
    have hnone := List.find?_eq_none.mp hfound identity hmem
    simp at hnone
  | some found =>
    have hinstance : found.instanceId = identity.instanceId := by
      simpa using List.find?_some hfound
    obtain ⟨⟨process, _⟩, hentry, rfl⟩ := List.mem_map.mp (List.mem_of_find?_eq_some hfound)
    have hkept := ExtTreeMap.mem_toList_iff_getElem?_eq_some.mp hentry
    refine ⟨_, rfl, hinstance, ?_⟩
    rwa [adapter.unresolved_keyed process _ hkept]

end ApprovedLaunchProfileAdapter

/-! ### The wrapped port -/

inductive Event where
  | startedWithProfile (specification : LaunchSpec) (profile : LaunchProfile)
      (answer : Except ProcessFault ProcessLaunch)
  | startedGeneration (generation : ProcessOperationGeneration) (specification : LaunchSpec)
      (profile : LaunchProfile) (answer : Except GenerationStartError ProcessLaunch)
  | inspected (process : ProcessHandle) (answer : Except ProcessFault ProcessState)
  | inspectedIdentity (process : ProcessHandle) (answer : Except ProcessFault ProcessIdentity)
  | stopped (process : ProcessHandle) (mode : StopMode) (answer : Except ProcessFault Unit)
  | listedDescendants (process : ProcessHandle)
      (answer : Except ProcessFault (List ProcessDescendantIdentity))
  | recoveredOwned (instanceId : InstanceId) (profile : LaunchProfile)
      (answer : Except ProcessFault (Option ProcessIdentity))
  | recoveredGeneration (generation : ProcessOperationGeneration) (profile : LaunchProfile)
      (answer : Except ProcessFault GenerationRecovery)

structure WrappedPort where
  startWithProfile : List Event → LaunchSpec → LaunchProfile → Except ProcessFault ProcessLaunch
  startGeneration : List Event → ProcessOperationGeneration → LaunchSpec → LaunchProfile →
    Except GenerationStartError ProcessLaunch
  inspect : List Event → ProcessHandle → Except ProcessFault ProcessState
  inspectIdentity : List Event → ProcessHandle → Except ProcessFault ProcessIdentity
  stop : List Event → ProcessHandle → StopMode → Except ProcessFault Unit
  descendants : List Event → ProcessHandle →
    Except ProcessFault (List ProcessDescendantIdentity)
  recoverOwned : List Event → InstanceId → LaunchProfile →
    Except ProcessFault (Option ProcessIdentity)
  recoverGeneration : List Event → ProcessOperationGeneration → LaunchProfile →
    Except ProcessFault GenerationRecovery

abbrev AdapterM (Error : Type) := CallM Error ApprovedLaunchProfileAdapter Event

/-! ### Calls -/

section Procedures

variable {ε : Type} (port : WrappedPort)

def askStop (process : ProcessHandle) (mode : StopMode) : AdapterM ε (Except ProcessFault Unit) :=
  exchange (fun log _ => port.stop log process mode) fun _ => .stopped process mode

def askDescendants (process : ProcessHandle) :
    AdapterM ε (Except ProcessFault (List ProcessDescendantIdentity)) :=
  exchange (fun log _ => port.descendants log process) fun _ => .listedDescendants process

/-- The process stays bound while its clean-up is open: a fault hands nothing over to the
caller. -/
def acceptApprovedLaunch (specification : LaunchSpec) (profile : LaunchProfile)
    (launch : ProcessLaunch) : AdapterM ProcessFault ProcessLaunch := do
  let identity := launch.identity
  if identity.matchesProfile specification.instanceId profile = false then
    modifyState fun adapter => adapter.hold identity profile
    match ← askStop port identity.process .force with
    | .error fault => throw fault
    | .ok () =>
      match ← askDescendants port identity.process with
      | .error fault => throw fault
      | .ok found =>
        if found.isEmpty then
          modifyState fun adapter => adapter.drop identity.process
          throw .identityMismatch
        else
          throw .descendantOutOfScope
  else
    modifyState fun adapter => adapter.accept identity profile
    return launch

def startApproved (specification : LaunchSpec) (profile : LaunchProfile) :
    AdapterM ProcessFault ProcessLaunch := do
  let answer ← exchange (fun log _ => port.startWithProfile log specification profile)
    fun _ => .startedWithProfile specification profile
  let launch ← liftM answer
  acceptApprovedLaunch port specification profile launch

def start (specification : LaunchSpec) : AdapterM ProcessFault ProcessHandle := do
  let adapter ← getState
  let profile ← liftM (adapter.profileFor specification)
  let launch ← startApproved port specification profile
  return launch.identity.process

def startWithProfile (specification : LaunchSpec) (profile : LaunchProfile) :
    AdapterM ProcessFault ProcessLaunch := do
  let adapter ← getState
  let approved ← liftM (adapter.profileFor specification)
  liftM (refuse (approved ≠ profile) ProcessFault.profileNotApproved)
  startApproved port specification profile

def startGeneration (generation : ProcessOperationGeneration) (specification : LaunchSpec)
    (profile : LaunchProfile) : AdapterM GenerationStartError ProcessLaunch := do
  let adapter ← getState
  let approved ← liftM ((adapter.profileFor specification).mapError GenerationStartError.process)
  liftM (refuse (approved ≠ profile ∨ generation.instanceId ≠ specification.instanceId ∨
    generation.profileId ≠ profile.id) (GenerationStartError.process .profileNotApproved))
  let answer ← exchange (fun log _ => port.startGeneration log generation specification profile)
    fun _ => .startedGeneration generation specification profile
  let launch ← liftM answer
  match ← handled (acceptApprovedLaunch port specification profile launch) with
  | .ok accepted => return accepted
  | .error fault =>
    modifyState fun adapter =>
      if adapter.unresolved.contains launch.identity.process then
        adapter.retainGeneration generation launch.identity.process
      else adapter
    throw (.process fault)

def inspect (process : ProcessHandle) : AdapterM ProcessFault ProcessState := do
  let answer ← exchange (fun log _ => port.inspect log process) fun _ => .inspected process
  liftM answer

def inspectIdentity (process : ProcessHandle) : AdapterM ProcessFault ProcessIdentity := do
  let answer ← exchange (fun log _ => port.inspectIdentity log process)
    fun _ => .inspectedIdentity process
  let identity ← liftM answer
  let adapter ← getState
  liftM (adapter.validateIdentity identity)

def stop (process : ProcessHandle) (mode : StopMode) : AdapterM ProcessFault Unit := do
  let answer ← askStop port process mode
  liftM answer
  modifyState fun adapter => adapter.drop process

def descendants (process : ProcessHandle) :
    AdapterM ProcessFault (List ProcessDescendantIdentity) := do
  let answer ← askDescendants port process
  liftM answer

def recoverOwned (instanceId : InstanceId) (profile : LaunchProfile) :
    AdapterM ProcessFault (Option ProcessIdentity) := do
  let adapter ← getState
  liftM (refuse (¬ adapter.approves profile) ProcessFault.profileNotApproved)
  match adapter.unresolvedOf instanceId with
  | some identity => return some identity
  | none =>
    let answer ← exchange (fun log _ => port.recoverOwned log instanceId profile)
      fun _ => .recoveredOwned instanceId profile
    match ← liftM answer with
    | none => return none
    | some identity =>
      liftM (refuse (identity.instanceId ≠ instanceId) ProcessFault.identityMismatch)
      modifyState fun adapter => adapter.adopt identity instanceId profile
      return some identity

def recoverGeneration (generation : ProcessOperationGeneration) (profile : LaunchProfile) :
    AdapterM ProcessFault GenerationRecovery := do
  let adapter ← getState
  liftM (refuse (¬ adapter.approves profile ∨ generation.profileId ≠ profile.id)
    ProcessFault.profileNotApproved)
  match adapter.unresolvedGeneration generation with
  | some identity => return .found identity
  | none =>
    let answer ← exchange (fun log _ => port.recoverGeneration log generation profile)
      fun _ => .recoveredGeneration generation profile
    match ← liftM answer with
    | .indeterminate => return .indeterminate
    | .found identity =>
      liftM (refuse (identity.instanceId ≠ generation.instanceId) ProcessFault.identityMismatch)
      modifyState fun adapter => adapter.adopt identity generation.instanceId profile
      return .found identity

end Procedures

/-! ### Runs -/

/-- What a call hands to its caller. -/
inductive Reply where
  | handle (process : ProcessHandle)
  | launch (launch : ProcessLaunch)
  | state (state : ProcessState)
  | identity (identity : ProcessIdentity)
  | stopped
  | descendants (found : List ProcessDescendantIdentity)
  | owned (identity : Option ProcessIdentity)
  | generation (recovery : GenerationRecovery)

/-- The started process that a reply hands over. -/
def Reply.handsOver : Reply → Option ProcessHandle
  | .handle process => some process
  | .launch started => some started.identity.process
  | _ => none

inductive Call where
  | start (specification : LaunchSpec)
  | startWithProfile (specification : LaunchSpec) (profile : LaunchProfile)
  | startGeneration (generation : ProcessOperationGeneration) (specification : LaunchSpec)
      (profile : LaunchProfile)
  | inspect (process : ProcessHandle)
  | inspectIdentity (process : ProcessHandle)
  | stop (process : ProcessHandle) (mode : StopMode)
  | descendants (process : ProcessHandle)
  | recoverOwned (instanceId : InstanceId) (profile : LaunchProfile)
  | recoverGeneration (generation : ProcessOperationGeneration) (profile : LaunchProfile)

/-- A fault of any call. -/
def faults {α : Type} (p : AdapterM ProcessFault α) : AdapterM GenerationStartError α := do
  match ← handled p with
  | .ok a => return a
  | .error fault => throw (.process fault)

def Call.run (port : WrappedPort) : Call → AdapterM GenerationStartError Reply
  | .start specification => .handle <$> faults (ProfileAdapter.start port specification)
  | .startWithProfile specification profile =>
    .launch <$> faults (ProfileAdapter.startWithProfile port specification profile)
  | .startGeneration generation specification profile =>
    .launch <$> ProfileAdapter.startGeneration port generation specification profile
  | .inspect process => .state <$> faults (ProfileAdapter.inspect port process)
  | .inspectIdentity process => .identity <$> faults (ProfileAdapter.inspectIdentity port process)
  | .stop process mode => (fun _ => .stopped) <$> faults (ProfileAdapter.stop port process mode)
  | .descendants process => .descendants <$> faults (ProfileAdapter.descendants port process)
  | .recoverOwned instanceId profile =>
    .owned <$> faults (ProfileAdapter.recoverOwned port instanceId profile)
  | .recoverGeneration generation profile =>
    .generation <$> faults (ProfileAdapter.recoverGeneration port generation profile)

/-- An adapter and everything that it has exchanged with the wrapped port. -/
abbrev System := CallState ApprovedLaunchProfileAdapter Event

def Call.answer (port : WrappedPort) (call : Call) (system : System) :
    Except GenerationStartError Reply :=
  match (call.run port).run system with
  | .ok reply _ => .ok reply
  | .error e _ => .error e

def next (port : WrappedPort) (system : System) (call : Call) : System :=
  match (call.run port).run system with
  | .ok _ after | .error _ after => after

def run (port : WrappedPort) : System → List Call → System := Machine.run (next port)

/-- What holds after a call holds of its answer and of the next state. -/
lemma after_next {port : WrappedPort} {call : Call} {system : System}
    {Q : Except GenerationStartError Reply → System → Prop} (h : After (call.run port) system Q) :
    Q (call.answer port system) (next port system call) := by
  unfold After at h
  unfold Call.answer next
  cases hrun : (call.run port).run system <;> rw [hrun] at h <;> exact h

/-- The exchanges since an earlier state. -/
def since (earlier later : System) : List Event := later.events.drop earlier.events.length

/-! ### What an exchange says of a process -/

namespace Event

/-- The process that a start has created. -/
def launched : Event → Option ProcessIdentity
  | .startedWithProfile _ _ (.ok launch) | .startedGeneration _ _ _ (.ok launch) =>
    some launch.identity
  | _ => none

/-- The generation that a process was created for. -/
def generation : Event → Option ProcessOperationGeneration
  | .startedGeneration generation _ _ (.ok _) => some generation
  | _ => none

/-- The process that the port reports of itself. -/
def reported : Event → Option ProcessIdentity
  | .recoveredOwned _ _ (.ok identity) => identity
  | .recoveredGeneration _ _ (.ok (.found identity)) => some identity
  | event => event.launched

/-- The process that the port has stopped. -/
def halted : Event → Option ProcessHandle
  | .stopped process _ (.ok ()) => some process
  | _ => none

/-- The port has stopped the process, or reports another one under its handle. -/
def Releases (process : ProcessHandle) (event : Event) : Prop :=
  event.halted = some process ∨ ∃ identity, event.reported = some identity ∧
    identity.process = process

/-- A start is for a profile that the catalog has under the id that was asked for. -/
def Approved (profiles : ApprovedLaunchProfiles) : Event → Prop
  | .startedWithProfile specification profile _ =>
    ∃ id, specification.profileId = some id ∧ profiles.resolve id = .ok profile
  | .startedGeneration generation specification profile _ =>
    (∃ id, specification.profileId = some id ∧ profiles.resolve id = .ok profile) ∧
      generation.instanceId = specification.instanceId ∧ generation.profileId = profile.id
  | _ => True

end Event

/-- In the end, the port has stopped the process, and it has left no descendants. -/
def Gone (process : ProcessHandle) (events : List Event) : Prop :=
  ∃ before mode, events =
    before ++ [.stopped process mode (.ok ()), .listedDescendants process (.ok [])]

/-- The process is kept for its clean-up. -/
def Outstanding (system : System) (identity : ProcessIdentity) : Prop :=
  system.state.unresolved[identity.process]? = some identity

end Sts2Gateway.Lifecycle.ProfileAdapter
