/-
The custody of started processes (`process_adapter.rs`).

* `Turn`, `turn_next`: **what a call can do**, one case for each way in which the adapter
  changes;
* `Turn.outstanding`, `Turn.retained`, `Turn.launched`: what becomes of a process that is
  kept, and of one that a call starts;
* `outstanding_run`, `retained_run`: a process that is kept stays so over any later calls;
* `launches_accounted`: **no started process is forgotten**: it is handed over, or gone, or
  kept and shown until the port stops it or reports its handle again, and the port is asked
  to start approved profiles only.
-/
import Sts2Gateway.Lifecycle.ProfileAdapter

namespace Sts2Gateway.Lifecycle.ProfileAdapter

open ControlPlane (InstanceId ProcessHandle ProcessFault ProcessState StopMode LaunchSpec)
open Procedure Exchange

/-! ### What a call can do -/

section Turns

variable {port : WrappedPort} {s t : System}

/-- **Calls.**  A call leaves the adapter as it is, or starts a process and keeps or drops it,
or stops one, or takes one over that the port reports. -/
inductive Turn (s : System) : Except GenerationStartError Reply → System → Prop where
  | unchanged (answer : Except GenerationStartError Reply) (asked : List Event)
      (none_launched : ∀ event ∈ asked, event.launched = none)
      (approved : ∀ event ∈ asked, event.Approved s.state.profiles) :
      Turn s answer ⟨s.state, s.events ++ asked⟩
  | accepted (event : Event) (identity : ProcessIdentity) (profile : LaunchProfile)
      (reply : Reply) (launched : event.launched = some identity)
      (approved : event.Approved s.state.profiles)
      (handed : reply.handsOver = some identity.process) :
      Turn s (.ok reply) ⟨s.state.accept identity profile, s.events ++ [event]⟩
  | held (event : Event) (identity : ProcessIdentity) (profile : LaunchProfile)
      (error : GenerationStartError) (asked : List Event)
      (launched : event.launched = some identity) (approved : event.Approved s.state.profiles)
      (quiet : ∀ event ∈ asked, event.reported = none ∧ event.Approved s.state.profiles) :
      Turn s (.error error)
        ⟨event.generation.elim (s.state.hold identity profile) fun generation =>
          (s.state.hold identity profile).retainGeneration generation identity.process,
          s.events ++ event :: asked⟩
  | dropped (event : Event) (identity : ProcessIdentity) (profile : LaunchProfile)
      (error : GenerationStartError) (launched : event.launched = some identity)
      (approved : event.Approved s.state.profiles) :
      Turn s (.error error)
        ⟨(s.state.hold identity profile).drop identity.process,
          s.events ++ [event, .stopped identity.process .force (.ok ()),
            .listedDescendants identity.process (.ok [])]⟩
  | stopped (process : ProcessHandle) (mode : StopMode) :
      Turn s (.ok .stopped) ⟨s.state.drop process, s.events ++ [.stopped process mode (.ok ())]⟩
  | adopted (event : Event) (identity : ProcessIdentity) (instanceId : InstanceId)
      (profile : LaunchProfile) (reply : Reply) (none_launched : event.launched = none)
      (approved : event.Approved s.state.profiles) (reported : event.reported = some identity) :
      Turn s (.ok reply) ⟨s.state.adopt identity instanceId profile, s.events ++ [event]⟩

/-- What becomes of a process that the port has just started. -/
inductive Acceptance (s : System) (profile : LaunchProfile) (launch : ProcessLaunch) :
    Except ProcessFault ProcessLaunch → System → Prop where
  | accepted : Acceptance s profile launch (.ok launch)
      ⟨s.state.accept launch.identity profile, s.events⟩
  | held (fault : ProcessFault) (asked : List Event)
      (quiet : ∀ event ∈ asked, event.reported = none ∧ ∀ profiles, event.Approved profiles) :
      Acceptance s profile launch (.error fault)
        ⟨s.state.hold launch.identity profile, s.events ++ asked⟩
  | dropped : Acceptance s profile launch (.error .identityMismatch)
      ⟨(s.state.hold launch.identity profile).drop launch.identity.process,
        s.events ++ [.stopped launch.identity.process .force (.ok ()),
          .listedDescendants launch.identity.process (.ok [])]⟩

lemma acceptApprovedLaunch_after (specification : LaunchSpec) (profile : LaunchProfile)
    (launch : ProcessLaunch) :
    After (acceptApprovedLaunch port specification profile launch) s
      (Acceptance s profile launch) := by
  unfold acceptApprovedLaunch
  dsimp only
  split_ifs with hmatch
  · rw [after_bind, after_modifyState]
    dsimp only
    rw [askStop, after_bind, after_exchange]
    dsimp only
    cases port.stop s.events launch.identity.process .force with
    | error fault => exact .held fault [_] (by simp [Event.reported, Event.launched, Event.Approved])
    | ok _ =>
      dsimp only
      rw [askDescendants, after_bind, after_exchange]
      dsimp only
      cases hlisted : port.descendants
          (s.events ++ [.stopped launch.identity.process .force (.ok ())])
          launch.identity.process with
      | error fault =>
        dsimp only
        rw [after_throw, List.append_assoc]
        exact .held fault _ (by simp [Event.reported, Event.launched, Event.Approved])
      | ok found =>
        cases found with
        | nil =>
          dsimp only [List.isEmpty_nil]
          rw [if_pos rfl, after_bind, after_modifyState]
          dsimp only
          rw [after_throw, List.append_assoc]
          exact .dropped
        | cons descendant found =>
          dsimp only [List.isEmpty_cons]
          rw [if_neg Bool.false_ne_true, after_throw, List.append_assoc]
          exact .held _ _ (by simp [Event.reported, Event.launched, Event.Approved])
  · rw [after_bind, after_modifyState]
    exact .accepted

/-- A call that asked nothing. -/
lemma Turn.refused (answer : Except GenerationStartError Reply) : Turn s answer s := by
  have h := Turn.unchanged (s := s) answer [] (by simp) (by simp)
  rwa [List.append_nil] at h

/-- A call that asked the port one thing that has no effect on the adapter. -/
lemma Turn.asked (answer : Except GenerationStartError Reply) {event : Event}
    (hlaunched : event.launched = none) (happroved : event.Approved s.state.profiles) :
    Turn s answer ⟨s.state, s.events ++ [event]⟩ :=
  .unchanged answer [event] (by simpa using hlaunched) (by simpa using happroved)

/-- A call whose caller sees its fault as one of a generation. -/
lemma after_faults {α : Type} {p : AdapterM ProcessFault α} {f : α → Reply}
    {Q : Except GenerationStartError Reply → System → Prop}
    (h : After p s fun r t => Q ((r.map f).mapError .process) t) : After (f <$> faults p) s Q := by
  rw [after_map, faults, after_bind, after_handled]
  refine h.mono fun r t hQ => ?_
  cases r with
  | ok a => exact hQ
  | error fault => exact hQ

lemma profileFor_eq_ok {adapter : ApprovedLaunchProfileAdapter} {specification : LaunchSpec}
    {profile : LaunchProfile} (h : adapter.profileFor specification = .ok profile) :
    ∃ id, specification.profileId = some id ∧ adapter.profiles.resolve id = .ok profile := by
  obtain ⟨id, hid, hresolve⟩ := except_bind_eq_ok.mp h
  exact ⟨id, okOr_eq_ok.mp hid, mapError_eq_ok.mp hresolve⟩

lemma startApproved_after {specification : LaunchSpec} {profile : LaunchProfile}
    (happroved : ∃ id, specification.profileId = some id ∧ s.state.profiles.resolve id = .ok profile)
    {f : ProcessLaunch → Reply}
    (hf : ∀ launch, (f launch).handsOver = some launch.identity.process) :
    After (startApproved port specification profile) s fun r t =>
      Turn s ((r.map f).mapError .process) t := by
  rw [startApproved, after_bind, after_exchange]
  dsimp only
  cases hanswer : port.startWithProfile s.events specification profile with
  | error fault =>
    rw [after_bind, after_liftM]
    exact .asked _ rfl happroved
  | ok launch =>
    rw [after_bind, after_liftM]
    dsimp only
    refine (acceptApprovedLaunch_after _ _ _).mono fun r t haccepted => ?_
    cases haccepted with
    | accepted => exact .accepted _ _ _ _ rfl happroved (hf launch)
    | held fault asked hquiet =>
      rw [List.append_assoc]
      exact .held (.startedWithProfile specification profile (.ok launch)) _ _ _ _ rfl happroved
        fun event hmem => ⟨(hquiet event hmem).1, (hquiet event hmem).2 _⟩
    | dropped =>
      rw [List.append_assoc]
      exact .dropped (.startedWithProfile specification profile (.ok launch)) _ _ _ rfl happroved

lemma start_after (specification : LaunchSpec) :
    After ((Call.start specification).run port) s (Turn s) := by
  refine after_faults ?_
  rw [start, after_bind, after_getState]
  dsimp only
  rw [after_bind, after_liftM]
  cases hprofile : s.state.profileFor specification with
  | error fault => exact .refused _
  | ok profile =>
    dsimp only
    rw [after_bind]
    refine (startApproved_after (f := fun launch => .handle launch.identity.process)
      (profileFor_eq_ok hprofile) fun _ => rfl).mono fun r t hturn => ?_
    cases r with
    | error fault => exact hturn
    | ok launch => exact hturn

lemma startWithProfile_after (specification : LaunchSpec) (profile : LaunchProfile) :
    After ((Call.startWithProfile specification profile).run port) s (Turn s) := by
  refine after_faults ?_
  rw [startWithProfile, after_bind, after_getState]
  dsimp only
  rw [after_bind, after_liftM]
  cases happroved : s.state.profileFor specification with
  | error fault => exact .refused _
  | ok approved =>
    refine After.refuse (fun _ => .refused _) fun hsame => ?_
    obtain rfl := not_not.mp hsame
    exact startApproved_after (profileFor_eq_ok happroved) fun _ => rfl

lemma startGeneration_after (generation : ProcessOperationGeneration) (specification : LaunchSpec)
    (profile : LaunchProfile) :
    After ((Call.startGeneration generation specification profile).run port) s (Turn s) := by
  rw [Call.run, after_map, startGeneration, after_bind, after_getState]
  dsimp only
  rw [after_bind, after_liftM]
  cases hprofile : s.state.profileFor specification with
  | error fault => exact .refused _
  | ok approved =>
    refine After.refuse (fun _ => .refused _) fun hchecks => ?_
    rw [not_or, not_or, not_not, not_not, not_not] at hchecks
    obtain ⟨rfl, hinstance, hid⟩ := hchecks
    have happroved : ∀ answer, (Event.startedGeneration generation specification approved
        answer).Approved s.state.profiles :=
      fun _ => ⟨profileFor_eq_ok hprofile, hinstance, hid⟩
    rw [after_bind, after_exchange]
    dsimp only
    cases hanswer : port.startGeneration s.events generation specification approved with
    | error fault =>
      rw [after_bind, after_liftM]
      exact .asked _ rfl (happroved _)
    | ok launch =>
      rw [after_bind, after_liftM]
      dsimp only
      rw [after_bind, after_handled]
      refine (acceptApprovedLaunch_after _ _ _).mono fun r t haccepted => ?_
      cases haccepted with
      | accepted => exact .accepted _ _ _ _ rfl (happroved _) rfl
      | held fault asked hquiet =>
        dsimp only
        rw [after_bind, after_modifyState, List.append_assoc]
        have hkept : (s.state.hold launch.identity approved).unresolved.contains
            launch.identity.process = true := by
          simp [ApprovedLaunchProfileAdapter.hold]
        dsimp only
        rw [if_pos hkept]
        exact .held (.startedGeneration generation specification approved (.ok launch)) _ _ _ _ rfl
          (happroved _) fun event hmem => ⟨(hquiet event hmem).1, (hquiet event hmem).2 _⟩
      | dropped =>
        dsimp only
        rw [after_bind, after_modifyState, List.append_assoc]
        have hgone : ¬ ((s.state.hold launch.identity approved).drop
            launch.identity.process).unresolved.contains launch.identity.process = true := by
          simp [ApprovedLaunchProfileAdapter.drop, ApprovedLaunchProfileAdapter.forgetRetained]
        dsimp only
        rw [if_neg hgone]
        exact .dropped (.startedGeneration generation specification approved (.ok launch)) _ _ _ rfl
          (happroved _)

lemma stop_after (process : ProcessHandle) (mode : StopMode) :
    After ((Call.stop process mode).run port) s (Turn s) := by
  refine after_faults ?_
  rw [stop, askStop, after_bind, after_exchange]
  dsimp only
  rw [after_bind, after_liftM]
  cases port.stop s.events process mode with
  | error fault => exact .asked _ rfl trivial
  | ok _ => exact .stopped process mode

lemma recoverOwned_after (instanceId : InstanceId) (profile : LaunchProfile) :
    After ((Call.recoverOwned instanceId profile).run port) s (Turn s) := by
  refine after_faults ?_
  rw [recoverOwned, after_bind, after_getState]
  refine After.refuse (fun _ => .refused _) fun _ => ?_
  cases s.state.unresolvedOf instanceId with
  | some identity => exact .refused _
  | none =>
    dsimp only
    rw [after_bind, after_exchange]
    dsimp only
    rw [after_bind, after_liftM]
    rcases port.recoverOwned s.events instanceId profile with fault | ⟨⟩ | identity
    · exact .asked _ rfl trivial
    · exact .asked _ rfl trivial
    · refine After.refuse (fun _ => .asked _ rfl trivial) fun _ => ?_
      rw [after_bind, after_modifyState]
      exact .adopted _ identity instanceId profile _ rfl trivial rfl

lemma recoverGeneration_after (generation : ProcessOperationGeneration) (profile : LaunchProfile) :
    After ((Call.recoverGeneration generation profile).run port) s (Turn s) := by
  refine after_faults ?_
  rw [recoverGeneration, after_bind, after_getState]
  refine After.refuse (fun _ => .refused _) fun _ => ?_
  cases s.state.unresolvedGeneration generation with
  | some identity => exact .refused _
  | none =>
    dsimp only
    rw [after_bind, after_exchange]
    dsimp only
    rw [after_bind, after_liftM]
    rcases port.recoverGeneration s.events generation profile with fault | identity | ⟨⟩
    · exact .asked _ rfl trivial
    · refine After.refuse (fun _ => .asked _ rfl trivial) fun _ => ?_
      rw [after_bind, after_modifyState]
      exact .adopted _ identity generation.instanceId profile _ rfl trivial rfl
    · exact .asked _ rfl trivial

/-- **Every call is such a turn.** -/
theorem turn_next (port : WrappedPort) (s : System) (call : Call) :
    Turn s (call.answer port s) (next port s call) := by
  refine after_next ?_
  cases call with
  | start specification => exact start_after specification
  | startWithProfile specification profile => exact startWithProfile_after specification profile
  | startGeneration generation specification profile =>
    exact startGeneration_after generation specification profile
  | stop process mode => exact stop_after process mode
  | recoverOwned instanceId profile => exact recoverOwned_after instanceId profile
  | recoverGeneration generation profile => exact recoverGeneration_after generation profile
  | inspect process =>
    refine after_faults ?_
    rw [inspect, after_bind, after_exchange]
    exact (after_liftM _).mpr (.asked _ rfl trivial)
  | descendants process =>
    refine after_faults ?_
    rw [descendants, askDescendants, after_bind, after_exchange]
    exact (after_liftM _).mpr (.asked _ rfl trivial)
  | inspectIdentity process =>
    refine after_faults ?_
    rw [inspectIdentity, after_bind, after_exchange]
    dsimp only
    rw [after_bind, after_liftM]
    cases port.inspectIdentity s.events process with
    | error fault => exact .asked _ rfl trivial
    | ok identity =>
      dsimp only
      rw [after_bind, after_getState]
      exact (after_liftM _).mpr (.asked _ rfl trivial)

/-! ### What becomes of a process -/

open ApprovedLaunchProfileAdapter

variable {answer : Except GenerationStartError Reply} {identity : ProcessIdentity}

lemma Turn.events (h : Turn s answer t) : t.events = s.events ++ since s t := by
  cases h <;> simp [since]

lemma reported_of_launched {event : Event} (h : event.launched = some identity) :
    event.reported = some identity := by
  cases event with
  | recoveredOwned | recoveredGeneration => cases h
  | _ => exact h

/-- A process that is kept stays so until the port stops it, or reports its handle again. -/
lemma Turn.outstanding (h : Turn s answer t) (hs : Outstanding s identity)
    (hquiet : ∀ event ∈ since s t, ¬ event.Releases identity.process) :
    Outstanding t identity := by
  have hother : ∀ {event : Event} {found : ProcessIdentity}, event ∈ since s t →
      event.reported = some found → found.process ≠ identity.process :=
    fun hmem hreported hsame => hquiet _ hmem (.inr ⟨_, hreported, hsame⟩)
  cases h with
  | unchanged => exact hs
  | accepted event found profile reply hlaunched =>
    have hne := hother (by simp [since]) (reported_of_launched hlaunched)
    exact unresolved_forgetRetained.trans (if_neg hne ▸ hs)
  | held event found profile error asked hlaunched =>
    have hne := hother (by simp [since]) (reported_of_launched hlaunched)
    have hheld : (s.state.hold found profile).unresolved[identity.process]? = some identity :=
      unresolved_hold.trans (if_neg hne ▸ hs)
    rw [Outstanding]
    cases event.generation with
    | none => exact hheld
    | some generation => exact hheld
  | dropped event found profile error hlaunched =>
    have hne := hother (by simp [since]) (reported_of_launched hlaunched)
    have hheld : (s.state.hold found profile).unresolved[identity.process]? = some identity :=
      unresolved_hold.trans (if_neg hne ▸ hs)
    exact unresolved_forgetRetained.trans (if_neg hne ▸ hheld)
  | stopped process mode =>
    have hne : process ≠ identity.process := fun hsame =>
      hquiet (.stopped process mode (.ok ())) (by simp [since]) (.inl (congrArg some hsame))
    exact unresolved_forgetRetained.trans (if_neg hne ▸ hs)
  | adopted event found instanceId profile reply _ _ hreported =>
    have hne := hother (by simp [since]) hreported
    rw [Outstanding, ApprovedLaunchProfileAdapter.adopt]
    split_ifs
    · exact unresolved_hold.trans (if_neg hne ▸ hs)
    · exact unresolved_forgetRetained.trans (if_neg hne ▸ hs)

/-- So does what is known of the generation that it was started for, until that generation is
started again. -/
lemma Turn.retained {generation : ProcessOperationGeneration} {process : ProcessHandle}
    (h : Turn s answer t) (hs : s.state.retainedGenerations[generation]? = some process)
    (hquiet : ∀ event ∈ since s t, ¬ event.Releases process)
    (hagain : ∀ event ∈ since s t, event.generation ≠ some generation) :
    t.state.retainedGenerations[generation]? = some process := by
  have hother : ∀ {event : Event} {found : ProcessIdentity}, event ∈ since s t →
      event.reported = some found → process ≠ found.process :=
    fun hmem hreported hsame => hquiet _ hmem (.inr ⟨_, hreported, hsame.symm⟩)
  cases h with
  | unchanged => exact hs
  | accepted event found profile reply hlaunched =>
    exact retained_forgetRetained hs (hother (by simp [since]) (reported_of_launched hlaunched))
  | held event found profile error asked =>
    have hnew := hagain event (by simp [since])
    cases hgeneration : event.generation with
    | none => exact hs
    | some started =>
      have hne : started ≠ generation := fun hsame => hnew (by rw [hgeneration, hsame])
      exact retained_retainGeneration.trans (if_neg hne ▸ hs)
  | dropped event found profile error hlaunched =>
    exact retained_forgetRetained hs (hother (by simp [since]) (reported_of_launched hlaunched))
  | stopped stopped mode =>
    refine retained_forgetRetained hs fun hsame => ?_
    exact hquiet (.stopped stopped mode (.ok ())) (by simp [since])
      (.inl (congrArg some hsame.symm))
  | adopted event found instanceId profile reply _ _ hreported =>
    have hne := hother (by simp [since]) hreported
    rw [ApprovedLaunchProfileAdapter.adopt]
    split_ifs
    · exact hs
    · exact retained_forgetRetained hs hne

/-- **Starts.**  A started process is handed over, or gone, or kept, and then also under the
generation that it was started for. -/
lemma Turn.launched {event : Event} (h : Turn s answer t) (hmem : event ∈ since s t)
    (hlaunched : event.launched = some identity) :
    (∃ reply, answer = .ok reply ∧ reply.handsOver = some identity.process) ∨
      Gone identity.process (since s t) ∨
      Outstanding t identity ∧ ∀ generation, event.generation = some generation →
        t.state.retainedGenerations[generation]? = some identity.process := by
  cases h with
  | unchanged answer asked hnone =>
    rw [since, List.drop_left] at hmem
    rw [hnone event hmem] at hlaunched
    cases hlaunched
  | accepted started found profile reply hstarted _ hhanded =>
    rw [since, List.drop_left, List.mem_singleton] at hmem
    obtain rfl := hmem
    obtain rfl := Option.some.inj (hstarted.symm.trans hlaunched)
    exact .inl ⟨reply, rfl, hhanded⟩
  | held started found profile error asked hstarted _ hquiet =>
    rw [since, List.drop_left, List.mem_cons] at hmem
    obtain rfl | hasked := hmem
    · obtain rfl := Option.some.inj (hstarted.symm.trans hlaunched)
      have hheld : (s.state.hold found profile).unresolved[found.process]? = some found :=
        unresolved_hold.trans (if_pos rfl)
      refine .inr (.inr ⟨?_, fun generation hgeneration => ?_⟩)
      · rw [Outstanding]
        cases event.generation with
        | none => exact hheld
        | some generation => exact hheld
      · rw [hgeneration]
        exact retained_retainGeneration.trans (if_pos rfl)
    · have hnone := (hquiet event hasked).1
      rw [reported_of_launched hlaunched] at hnone
      cases hnone
  | dropped started found profile error hstarted =>
    simp only [since, List.drop_left] at hmem ⊢
    have hevent : event = started := by
      rcases List.mem_cons.mp hmem with hstart | hother
      · exact hstart
      · have hnone : event.launched = none := by
          rcases List.mem_pair.mp hother with rfl | rfl <;> rfl
        rw [hnone] at hlaunched
        cases hlaunched
    obtain rfl := hevent
    obtain rfl := Option.some.inj (hstarted.symm.trans hlaunched)
    exact .inr (.inl ⟨[event], .force, rfl⟩)
  | stopped process mode =>
    rw [since, List.drop_left, List.mem_singleton] at hmem
    obtain rfl := hmem
    cases hlaunched
  | adopted found _ _ _ _ hnone =>
    rw [since, List.drop_left, List.mem_singleton] at hmem
    obtain rfl := hmem
    rw [hnone] at hlaunched
    cases hlaunched

lemma Turn.profiles (h : Turn s answer t) : t.state.profiles = s.state.profiles := by
  cases h with
  | held event => cases event.generation <;> rfl
  | adopted event identity instanceId profile =>
    rw [ApprovedLaunchProfileAdapter.adopt]
    split_ifs <;> rfl
  | _ => rfl

lemma Turn.approved (h : Turn s answer t) : ∀ event ∈ since s t, event.Approved s.state.profiles := by
  cases h with
  | unchanged answer asked _ happroved =>
    rw [since, List.drop_left]
    exact happroved
  | accepted event found profile reply _ happroved =>
    rw [since, List.drop_left]
    exact List.forall_mem_singleton.mpr happroved
  | held event found profile error asked _ happroved hquiet =>
    rw [since, List.drop_left]
    exact List.forall_mem_cons.mpr ⟨happroved, fun other hother => (hquiet other hother).2⟩
  | dropped event found profile error _ happroved =>
    simp only [since, List.drop_left]
    exact List.forall_mem_cons.mpr ⟨happroved, by simp [Event.Approved]⟩
  | stopped process mode =>
    rw [since, List.drop_left]
    exact List.forall_mem_singleton.mpr trivial
  | adopted event found instanceId profile reply _ happroved =>
    rw [since, List.drop_left]
    exact List.forall_mem_singleton.mpr happroved

/-! ### Later calls -/

lemma since_run (call : Call) (later : List Call) :
    since s (run port s (call :: later)) =
      since s (next port s call) ++
        since (next port s call) (run port (next port s call) later) := by
  have hevents : ∀ (later : List Call) (s : System),
      (run port s later).events = s.events ++ since s (run port s later) := by
    intro later
    induction later with
    | nil => simp [run, since]
    | cons call later ih =>
      intro s
      have hrest := ih (next port s call)
      rw [(turn_next port s call).events, List.append_assoc] at hrest
      rw [since, run, Machine.run_cons, ← run, hrest, List.drop_left]
  rw [since, run, Machine.run_cons, ← run, hevents later, (turn_next port s call).events,
    List.append_assoc, List.drop_left]

/-- **A process that is kept stays so** while the port neither stops it nor reports its handle
again. -/
lemma outstanding_run (hs : Outstanding s identity) {later : List Call}
    (hquiet : ∀ event ∈ since s (run port s later), ¬ event.Releases identity.process) :
    Outstanding (run port s later) identity := by
  induction later generalizing s with
  | nil => exact hs
  | cons call later ih =>
    rw [since_run, List.forall_mem_append] at hquiet
    exact ih ((turn_next port s call).outstanding hs hquiet.1) hquiet.2

lemma retained_run {generation : ProcessOperationGeneration} {process : ProcessHandle}
    (hs : s.state.retainedGenerations[generation]? = some process) {later : List Call}
    (hquiet : ∀ event ∈ since s (run port s later), ¬ event.Releases process)
    (hagain : ∀ event ∈ since s (run port s later), event.generation ≠ some generation) :
    (run port s later).state.retainedGenerations[generation]? = some process := by
  induction later generalizing s with
  | nil => exact hs
  | cons call later ih =>
    rw [since_run, List.forall_mem_append] at hquiet hagain
    exact ih ((turn_next port s call).retained hs hquiet.1 hagain.1) hquiet.2 hagain.2

/-! ### How a process that is kept is shown -/

/-- A call answers without asking the port, and changes nothing. -/
def Answers (port : WrappedPort) (s : System) (call : Call) (reply : Reply) : Prop :=
  call.answer port s = .ok reply ∧ next port s call = s

lemma answers_of_after {call : Call} {reply : Reply}
    (h : After (call.run port) s fun r t => r = .ok reply ∧ t = s) : Answers port s call reply :=
  after_next h

/-- A recovery of the instance shows the process, or another one of the instance that is kept. -/
lemma recoverOwned_shows (hs : Outstanding s identity) {profile : LaunchProfile}
    (happroved : s.state.approves profile) :
    ∃ found, Answers port s (.recoverOwned identity.instanceId profile) (.owned (some found)) ∧
      found.instanceId = identity.instanceId ∧ Outstanding s found := by
  obtain ⟨found, hfound, hinstance, hkept⟩ := unresolvedOf_of_kept hs
  refine ⟨found, answers_of_after (after_faults ?_), hinstance, hkept⟩
  rw [recoverOwned, after_bind, after_getState]
  refine After.refuse (fun hrefused => absurd happroved hrefused) fun _ => ?_
  rw [hfound]
  exact ⟨rfl, rfl⟩

lemma recoverGeneration_shows {generation : ProcessOperationGeneration}
    (hs : Outstanding s identity)
    (hretained : s.state.retainedGenerations[generation]? = some identity.process)
    {profile : LaunchProfile} (happroved : s.state.approves profile)
    (hid : generation.profileId = profile.id) :
    Answers port s (.recoverGeneration generation profile) (.generation (.found identity)) := by
  have hfound : s.state.unresolvedGeneration generation = some identity := by
    rw [unresolvedGeneration, hretained]
    exact hs
  refine answers_of_after (after_faults ?_)
  rw [recoverGeneration, after_bind, after_getState]
  refine After.refuse (fun hrefused => absurd hrefused ?_) fun _ => ?_
  · rw [not_or, not_not, not_not]
    exact ⟨happroved, hid⟩
  · rw [hfound]
    exact ⟨rfl, rfl⟩

/-! ### Every started process -/

/-- What a process that is left over is shown as: under its instance, and under the generation
it was started for until that generation is started again. -/
structure Shown (port : WrappedPort) (s t : System) (identity : ProcessIdentity)
    (generation : Option ProcessOperationGeneration) : Prop where
  owned : ∀ profile, t.state.approves profile → ∃ found,
    Answers port t (.recoverOwned identity.instanceId profile) (.owned (some found)) ∧
      found.instanceId = identity.instanceId ∧ Outstanding t found
  generation : ∀ started profile, generation = some started → t.state.approves profile →
    started.profileId = profile.id → (∀ event ∈ since s t, event.generation ≠ some started) →
    Answers port t (.recoverGeneration started profile) (.generation (.found identity))

/-- Every process that a call starts is handed over, or stopped without descendants, or kept;
the last is shown after any later calls in which the port neither stops it nor reports its handle
again. -/
def LaunchesAccounted (port : WrappedPort) (s : System) (call : Call) : Prop :=
  ∀ event ∈ since s (next port s call), ∀ identity, event.launched = some identity →
    (∃ reply, call.answer port s = .ok reply ∧ reply.handsOver = some identity.process) ∨
      Gone identity.process (since s (next port s call)) ∨
      ∀ later, (∀ event ∈ since (next port s call) (run port (next port s call) later),
          ¬ event.Releases identity.process) →
        Shown port (next port s call) (run port (next port s call) later) identity
          event.generation

lemma launchesAccounted (port : WrappedPort) (s : System) (call : Call) :
    LaunchesAccounted port s call := by
  intro event hmem identity hlaunched
  obtain hhanded | hgone | ⟨hkept, hgeneration⟩ :=
    (turn_next port s call).launched hmem hlaunched
  · exact .inl hhanded
  · exact .inr (.inl hgone)
  · refine .inr (.inr fun later hquiet => ?_)
    have hstill := outstanding_run hkept hquiet
    refine ⟨fun profile happroved => recoverOwned_shows hstill happroved, ?_⟩
    intro started profile hstarted happroved hid hagain
    exact recoverGeneration_shows hstill (retained_run (hgeneration started hstarted) hquiet hagain)
      happroved hid

/-- An adapter that has just been built. -/
def opened (profiles : ApprovedLaunchProfiles) : System := ⟨.new profiles, []⟩

end Turns

end Sts2Gateway.Lifecycle.ProfileAdapter
