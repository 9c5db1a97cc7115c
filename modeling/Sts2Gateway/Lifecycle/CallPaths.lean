/-
The calls of the lifecycle coordinator as paths of moves.

* `verifyProcess_walks`, `blockOperation_walks`, `finishStart_walks`: what the procedures that
  every action shares do;
* `executeLaunch_walks`, `executeStop_walks`, `finishRestart_walks`: the actions;
* `reconcileRecord_walks`: reconciliation;
* `call_walks`: **every call is a path of moves**, whatever the ports and the store answer and
  wherever it crashes.
-/
import Sts2Gateway.Lifecycle.Moves

namespace Sts2Gateway.Lifecycle

open ControlPlane (InstanceId OperationId LeaseProof ProcessHandle ProcessFault ProcessState
  StopMode u64Max)
open Procedure Exchange Crash

section Walks

variable {env : Environment} {s₀ s : CallState Coordinator Event}
  {operation old : LifecycleOperation} {identity : ProcessIdentity}

/-! ### Asking the port -/

lemma inspectIdentity_walks (hs : Path env s₀ s) (process : ProcessHandle) :
    WalksFrom env s₀ (inspectIdentity env process) s fun answer t =>
      t = ⟨s.state, s.events ++ [.inspectedIdentity process answer]⟩ :=
  walks_asks hs fun _ _ => trivial

lemma inspect_walks (hs : Path env s₀ s) (process : ProcessHandle) :
    WalksFrom env s₀ (inspect env process) s fun answer t =>
      t = ⟨s.state, s.events ++ [.inspected process answer]⟩ :=
  walks_asks hs fun _ _ => trivial

lemma descendants_walks (hs : Path env s₀ s) (process : ProcessHandle) :
    WalksFrom env s₀ (descendants env process) s fun answer t =>
      t = ⟨s.state, s.events ++ [.listedDescendants process answer]⟩ :=
  walks_asks hs fun _ _ => trivial

lemma stop_walks (hs : Path env s₀ s) (process : ProcessHandle) (mode : StopMode) :
    WalksFrom env s₀ (stop env process mode) s fun answer t =>
      t = ⟨s.state, s.events ++ [.stopped process mode answer]⟩ :=
  walks_asks hs fun _ _ => trivial

lemma recoverGeneration_walks (hs : Path env s₀ s) (generation : ProcessOperationGeneration)
    (profile : LaunchProfile) :
    WalksFrom env s₀ (recoverGeneration env generation profile) s fun answer t =>
      t = ⟨s.state, s.events ++ [.recovered generation answer]⟩ :=
  walks_asks hs fun _ _ => trivial

lemma verifyDescendants_walks (hs : Path env s₀ s) (expected : ProcessIdentity)
    (profile : LaunchProfile) :
    WalksFrom env s₀ (verifyDescendants env expected profile) s fun _ t => Steady s t := by
  refine (descendants_walks hs _).bind ?_
  rintro answer t ht rfl
  have hsteady : Steady s ⟨s.state, s.events ++ [.listedDescendants expected.process answer]⟩ :=
    .asked _ trivial
  cases answer with
  | error fault => exact .pure ht hsteady
  | ok found =>
    dsimp only
    split_ifs
    · exact .pure ht hsteady
    · exact .pure ht hsteady
    · exact .pure ht hsteady

lemma verifyProcess_walks (hs : Path env s₀ s) (expected : ProcessIdentity) (profile : LaunchProfile) :
    WalksFrom env s₀ (verifyProcess env expected profile) s fun _ t => Steady s t := by
  unfold verifyProcess
  split_ifs
  · exact .pure hs (.refl s)
  refine (inspectIdentity_walks hs _).bind ?_
  rintro answer t ht rfl
  have hidentified : Steady s ⟨s.state, s.events ++ [.inspectedIdentity expected.process answer]⟩ :=
    .asked _ trivial
  cases answer with
  | error fault => exact .pure ht hidentified
  | ok actual =>
    dsimp only
    split_ifs
    · exact .pure ht hidentified
    refine (inspect_walks ht _).bind ?_
    rintro state u hu rfl
    have hinspected := hidentified.trans (.asked (.inspected expected.process state) trivial)
    rcases state with fault | ⟨⟩ | code
    · exact .pure hu hinspected
    · refine (verifyDescendants_walks hu _ _).bind fun verified v hv hsteady => ?_
      exact .pure hv (hinspected.trans hsteady)
    · exact .pure hu hinspected

lemma verifyStartedIdentity_walks (hs : Path env s₀ s) (expected : ProcessIdentity)
    (profile : LaunchProfile) :
    WalksFrom env s₀ (verifyStartedIdentity env expected profile) s fun _ t => Steady s t := by
  refine (inspectIdentity_walks hs _).bind ?_
  rintro answer t ht rfl
  have hidentified : Steady s ⟨s.state, s.events ++ [.inspectedIdentity expected.process answer]⟩ :=
    .asked _ trivial
  cases answer with
  | error fault => exact .pure ht hidentified
  | ok actual =>
    dsimp only
    split_ifs
    · exact .pure ht hidentified
    · exact .pure ht hidentified
    refine (inspect_walks ht _).bind ?_
    rintro state u hu rfl
    have hinspected := hidentified.trans (.asked (.inspected expected.process state) trivial)
    rcases state with fault | ⟨⟩ | code
    · exact .pure hu hinspected
    · exact (verifyDescendants_walks hu _ _).weaken fun _ _ _ h => hinspected.trans h
    · exact .pure hu hinspected

lemma confirmExited_walks (hs : Path env s₀ s) (expected : ProcessIdentity) :
    WalksFrom env s₀ (confirmExitedWithoutDescendants env expected) s fun _ t => Steady s t := by
  refine (inspectIdentity_walks hs _).bind ?_
  rintro answer t ht rfl
  have hidentified : Steady s ⟨s.state, s.events ++ [.inspectedIdentity expected.process answer]⟩ :=
    .asked _ trivial
  cases answer with
  | error fault => exact .pure ht hidentified
  | ok actual =>
    dsimp only
    split_ifs
    · exact .pure ht hidentified
    refine (inspect_walks ht _).bind ?_
    rintro state u hu rfl
    have hinspected := hidentified.trans (.asked (.inspected expected.process state) trivial)
    rcases state with fault | ⟨⟩ | code
    · exact .pure hu hinspected
    · exact .pure hu hinspected
    · refine (descendants_walks hu _).bind ?_
      rintro listed v hv rfl
      have hlisted := hinspected.trans
        (.asked (.listedDescendants expected.process listed) trivial)
      cases listed with
      | error fault => exact .pure hv hlisted
      | ok found => exact .pure hv hlisted

/-! ### Failures -/

/-- A record that memory holds is replaced. -/
lemma persistHeld_walks (hs : Path env s₀ s) (h : Held s operation) :
    WalksFrom env s₀ (persistUpdate env operation) s fun _ t =>
      t = ⟨s.state.persisted (.update operation) fun lifecycle => lifecycle.putRecord operation,
        s.events ++ [.wrote (.update operation) .done]⟩ := by
  obtain ⟨old, hputtable⟩ := h.puttable s₀
  exact persistUpdate_walks hs hputtable

/-- After that, memory holds the very record. -/
lemma recorded_persisted (s : CallState Coordinator Event) (operation : LifecycleOperation)
    (hactive : operation.state.isActive = true) :
    Recorded ⟨s.state.persisted (.update operation) fun lifecycle => lifecycle.putRecord operation,
      s.events ++ [.wrote (.update operation) .done]⟩ operation :=
  ⟨LifecycleContents.getElem?_putRecord.trans (if_pos rfl), hactive⟩

lemma blockOperation_walks (hs : Path env s₀ s) (h : Held s operation) (failure : LifecycleFailure) :
    WalksFrom env s₀ (blockOperation env operation failure) s fun _ _ => True := by
  refine walks_memory_bind ?_
  refine (persistHeld_walks hs (h.setState id)).bind fun _ t ht _ => ?_
  split
  · exact (clearOwnedFor_walks ht _).bind fun _ u hu _ => .raise hu
  · exact .raise ht

lemma blockCleanup_walks (hs : Path env s₀ s) (h : Held s operation) (failure : LifecycleFailure) :
    WalksFrom env s₀ (blockCleanup env operation failure) s fun _ _ => True :=
  (setOwnerProcess_walks hs _ _).bind fun _ _ ht hsteady =>
    (persistHeld_walks ht ((h.setState id).steady hsteady)).bind fun _ _ hu _ => .raise hu

lemma blockCleanupLifecycleError_walks (hs : Path env s₀ s) (h : Held s operation)
    (error : LifecycleError) :
    WalksFrom env s₀ (blockCleanupLifecycleError env operation error) s fun _ _ => True := by
  cases error with
  | foreignDescendant | identityMismatch | process => exact blockCleanup_walks hs h _
  | _ => exact .raise hs

lemma unknown_walks (hs : Path env s₀ s) (h : Held s operation) {process : Option ProcessIdentity}
    (hprocess : process = none → operation.process = none) (failure : Option LifecycleFailure) :
    WalksFrom env s₀ (unknown env operation process failure) s fun _ _ => True :=
  (persistHeld_walks hs (h.setState hprocess)).bind fun _ _ ht _ => .pure ht trivial

lemma recoverStarted_walks (hs : Path env s₀ s) (operation : LifecycleOperation) :
    WalksFrom env s₀ (recoverStarted env operation) s fun _ t => Steady s t := by
  refine walks_memory_bind ?_
  cases s.state.memory.generationOf operation with
  | none => exact .pure hs (.refl s)
  | some pair =>
    refine (recoverGeneration_walks hs _ _).bind ?_
    rintro answer t ht rfl
    have hsteady : Steady s ⟨s.state, s.events ++ [.recovered pair.1 answer]⟩ := .asked _ trivial
    rcases answer with fault | identity | ⟨⟩
    · exact .pure ht hsteady
    · exact .pure ht hsteady
    · exact .pure ht hsteady

lemma processFailure_walks (hs : Path env s₀ s) (h : Held s operation) (fault : ProcessFault) :
    WalksFrom env s₀ (processFailure env operation fault) s fun _ _ => True := by
  unfold processFailure
  split_ifs with hnone hrefused
  · have hprocess : operation.process = none := Option.isNone_iff_eq_none.mp hnone
    refine (persistHeld_walks hs (h.setState fun _ => hprocess)).bind fun _ t ht _ => ?_
    exact (clearOwnedFor_walks ht _).bind fun _ u hu _ => .raise hu
  · have hprocess : operation.process = none := Option.isNone_iff_eq_none.mp hnone
    refine (recoverStarted_walks hs _).bind fun recovered t ht hsteady => ?_
    refine (persistHeld_walks ht ((h.steady hsteady).setState fun _ => hprocess)).bind
      fun _ u hu _ => ?_
    exact (setOwnerProcess_walks hu _ _).bind fun _ v hv _ => .raise hv
  · exact blockOperation_walks hs h _

/-! ### Started processes -/

lemma finishStartFailure_walks (hs : Path env s₀ s) (h : Held s operation)
    (failure : LifecycleFailure) :
    WalksFrom env s₀ (finishStartFailure env operation failure) s fun _ _ => True := by
  unfold finishStartFailure
  cases operation.process with
  | none => exact blockOperation_walks hs h _
  | some identity =>
    have hheld : Held s (operation.setState .starting (some identity) (some failure)) :=
      h.setProcess
    refine (stop_walks hs _ _).bind ?_
    rintro answer t ht rfl
    have hstopped := hheld.steady
      (.asked (.stopped identity.process .force answer) trivial)
    cases answer with
    | error fault => exact blockCleanup_walks ht hstopped _
    | ok _ =>
      refine (descendants_walks ht _).bind ?_
      rintro listed u hu rfl
      have hlisted := hstopped.steady
        (.asked (.listedDescendants identity.process listed) trivial)
      cases listed with
      | error fault => exact blockCleanup_walks hu hlisted _
      | ok found =>
        dsimp only
        split_ifs
        · exact blockOperation_walks hu hlisted _
        · exact blockCleanup_walks hu hlisted _

lemma finishStart_walks (hs : Path env s₀ s) (h : Held s operation) (launch : ProcessLaunch)
    (profile : LaunchProfile) (state : LifecycleOperationState) :
    WalksFrom env s₀ (finishStart env operation launch profile state) s fun _ _ => True := by
  unfold finishStart
  dsimp only
  split_ifs
  · exact finishStartFailure_walks hs h.setProcess _
  refine (verifyStartedIdentity_walks hs _ _).bind fun verified t ht hsteady => ?_
  have hheld := h.steady hsteady
  cases verified with
  | error failure => exact finishStartFailure_walks ht hheld.setProcess _
  | ok _ =>
    refine (persistHeld_walks ht hheld.setProcess).bind fun _ u hu _ => ?_
    exact (setOwned_walks hu _ _ _).bind fun _ v hv _ => .pure hv trivial

/-- A process is started, and its record follows from the answer. -/
lemma startAndFinish_walks (hs : Path env s₀ s) (h : Recorded s operation) (profile : LaunchProfile)
    {generation : ProcessOperationGeneration} (hstartable : Startable s₀ s generation operation) :
    WalksFrom env s₀ (startAndFinish env operation profile generation) s fun _ _ => True := by
  unfold startAndFinish
  dsimp only
  rw [startGeneration]
  refine Walks.bind (R := fun answer t => t = ⟨s.state, s.events ++ [.started generation answer]⟩)
    (.interact hs fun answer _ => ⟨hs.tail (.started s generation operation hstartable answer), rfl⟩)
    ?_
  rintro answer t ht rfl
  have hheld : Held ⟨s.state, s.events ++ [.started generation answer]⟩ operation := h.held
  rcases answer with (⟨⟩ | fault) | launch
  · exact processFailure_walks ht hheld _
  · exact processFailure_walks ht hheld _
  · exact finishStart_walks ht hheld _ _ _

/-! ### Launches and attachments -/

/-- The call has inserted the record of a new operation. -/
def Inserted (s₀ s : CallState Coordinator Event) (operation : LifecycleOperation) : Prop :=
  s₀.state.memory.retained.records[operation.key]? = none ∧
    ∃ admitted, admitted.key = operation.key ∧ Heard s₀ s [.wrote (.insert admitted) .done]

lemma Inserted.steady {t : CallState Coordinator Event} (h : Inserted s₀ s operation)
    (hsteady : Steady s t) : Inserted s₀ t operation :=
  ⟨h.1, h.2.imp fun _ hadmitted => ⟨hadmitted.1, hsteady.heard hadmitted.2⟩⟩

/-- A new launch becomes durable before its process is started. -/
lemma executeLaunch_walks (hs : Path env s₀ s) (h : Recorded s operation)
    (hprocess : operation.process = none) (hfresh : Inserted s₀ s operation)
    (hfirst : Unstarted s₀ s) (profileId : LaunchProfileId) :
    WalksFrom env s₀ (executeLaunch env operation profileId) s fun _ _ => True := by
  refine walks_memory_bind (Walks.check_bind hs fun profile _ => ?_)
  have hheld : Held s (operation.setState .starting none none) :=
    h.held.setState fun _ => hprocess
  refine (persistHeld_walks hs hheld).bind ?_
  rintro _ t ht rfl
  have hrecorded := recorded_persisted s (operation.setState .starting none none)
    rfl
  cases hgeneration : ProcessOperationGeneration.forOperation (operation.setState .starting none none)
      profile .launchNew with
  | none => exact unknown_walks ht hrecorded.held id _
  | some generation =>
    have hkey := ProcessOperationGeneration.forOperation_eq_some.mp hgeneration
    have hkind : generation.kind = .launchNew := by rw [hkey.2.2.2.2]
    obtain ⟨log, hlog, -⟩ := hs.heard
    obtain ⟨habsent, admitted, hsame, hadmitted⟩ := hfresh
    refine startAndFinish_walks ht hrecorded profile
      { key := ⟨profile, by rw [hkind]; exact hgeneration⟩
        remembered := hrecorded.found
        durable := LifecycleContents.getElem?_putRecord.trans (if_pos rfl)
        wrote := ⟨log, [], by rw [hlog, List.append_assoc], List.forall_mem_nil _⟩
        state := by rw [hkind]; rfl
        process := rfl
        first := hfirst.wrote _ _ _
        fresh := fun _ => ⟨habsent, admitted, hsame, hadmitted.snoc rfl⟩
        replaced := fun hreplacement => by rw [hkind] at hreplacement; cases hreplacement }

lemma executeAttach_walks (hs : Path env s₀ s) (h : Recorded s operation) (identity : ProcessIdentity) :
    WalksFrom env s₀ (executeAttach env operation identity) s fun _ _ => True := by
  refine walks_memory_bind ?_
  cases s.state.memory.latestAuthorizedExcluding operation.instanceId
      (some operation.operationId) with
  | none => exact blockOperation_walks hs h.held _
  | some previous =>
    dsimp only
    cases previous.process with
    | none => exact blockOperation_walks hs h.held _
    | some expected =>
      dsimp only
      split_ifs
      · exact blockOperation_walks hs h.held _
      refine Walks.check_bind hs fun profile _ => ?_
      refine (persistHeld_walks hs h.held.setProcess).bind ?_
      rintro _ t ht rfl
      have hrecorded := recorded_persisted s (operation.setState .attached (some identity) none) rfl
      refine (verifyProcess_walks ht _ _).bind fun verified u hu hsteady => ?_
      have hheld := hrecorded.held.steady hsteady
      cases verified with
      | error error => exact blockCleanupLifecycleError_walks hu hheld _
      | ok _ =>
        refine (setOwned_walks hu _ _ _).bind fun _ v hv hkept => ?_
        exact (persistHeld_walks hv (hheld.steady hkept)).bind fun _ w hw _ => .pure hw trivial

/-! ### Stops -/

lemma finishStop_walks (hs : Path env s₀ s) (h : Recorded s operation)
    (hprocess : operation.process = some identity) (mode : StopMode) :
    WalksFrom env s₀ (finishStop env operation identity mode) s fun _ _ => True := by
  refine (stop_walks hs _ _).bind ?_
  rintro answer t ht rfl
  have hstopped := h.steady (.asked (.stopped identity.process mode answer) trivial)
  cases answer with
  | error fault => exact blockOperation_walks ht hstopped.held _
  | ok _ =>
    refine (descendants_walks ht _).bind ?_
    rintro listed u hu rfl
    have hlisted := hstopped.steady
      (.asked (.listedDescendants identity.process listed) trivial)
    rcases listed with fault | ⟨⟩ | ⟨descendant, found⟩
    · exact blockOperation_walks hu hlisted.held _
    · refine (persistUpdate_walks hu (hlisted.forget hprocess
        ⟨_, .stopped mode, (hs.heard.snoc rfl).snoc rfl⟩ .stopped none)).bind fun _ v hv _ => ?_
      exact (clearOwnedFor_walks hv _).bind fun _ w hw _ => .pure hw trivial
    · exact blockCleanup_walks hu hlisted.held _

lemma executeStop_walks (hs : Path env s₀ s) (h : Recorded s operation) (mode : StopMode) :
    WalksFrom env s₀ (executeStop env operation mode) s fun _ _ => True := by
  refine walks_memory_bind ?_
  cases s.state.memory.latestAuthorizedExcluding operation.instanceId
      (some operation.operationId) with
  | none => exact blockOperation_walks hs h.held _
  | some previous =>
    dsimp only
    cases previous.process with
    | none => exact blockOperation_walks hs h.held _
    | some identity =>
      refine Walks.check_bind hs fun profile _ => ?_
      refine (persistHeld_walks hs h.held.setProcess).bind ?_
      rintro _ t ht rfl
      have hrecorded := recorded_persisted s (operation.setState .stopping (some identity) none) rfl
      refine (verifyProcess_walks ht _ _).bind fun verified u hu hsteady => ?_
      have hverified := hrecorded.steady hsteady
      cases verified with
      | error error => exact blockCleanupLifecycleError_walks hu hverified.held _
      | ok _ => exact finishStop_walks hu hverified rfl mode

/-! ### Reconciliation of launches -/

/-- The process has ended: without descendants, it is given up. -/
lemma finishFailedLaunchCleanup_walks (hs : Path env s₀ s) (h : Recorded s operation)
    (hprocess : operation.process = some identity) {event : Event}
    (hends : Event.Ends identity.process event) (hheard : Heard s₀ s [event]) :
    WalksFrom env s₀ (finishFailedLaunchCleanup env operation identity) s fun _ _ => True := by
  refine (descendants_walks hs _).bind ?_
  rintro listed t ht rfl
  have hlisted := h.steady (.asked (.listedDescendants identity.process listed) trivial)
  rcases listed with fault | ⟨⟩ | ⟨descendant, found⟩
  · exact blockCleanup_walks ht hlisted.held _
  · refine (persistUpdate_walks ht (hlisted.forget hprocess
      ⟨event, hends, hheard.snoc rfl⟩ .failed _)).bind fun _ u hu _ => ?_
    exact (clearOwnedFor_walks hu _).bind fun _ v hv _ => .pure hv trivial
  · exact blockCleanup_walks ht hlisted.held _

lemma blockDrifted_walks (hs : Path env s₀ s) (h : Held s operation) (identity : ProcessIdentity) :
    WalksFrom env s₀ (blockDrifted env operation identity) s fun _ _ => True :=
  (persistHeld_walks hs h.setProcess).bind fun _ _ ht _ =>
    (setOwnerProcess_walks ht _ _).bind fun _ _ hu _ => .raise hu

lemma reconcileRetainedCleanup_walks (hs : Path env s₀ s) (h : Recorded s operation)
    (hprocess : operation.process = some identity) :
    WalksFrom env s₀ (reconcileRetainedCleanup env operation identity) s fun _ _ => True := by
  refine (inspectIdentity_walks hs _).bind ?_
  rintro answer t ht rfl
  have hidentified := h.steady
    (.asked (.inspectedIdentity identity.process answer) trivial)
  cases answer with
  | error fault => exact unknown_walks ht hidentified.held (fun h => by cases h) _
  | ok actual =>
    dsimp only
    split_ifs
    · exact blockDrifted_walks ht hidentified.held _
    refine walks_memory_bind (Walks.check_bind ht fun profile _ => ?_)
    refine (descendants_walks ht _).bind ?_
    rintro listed u hu rfl
    have hlisted := hidentified.steady
      (.asked (.listedDescendants identity.process listed) trivial)
    cases listed with
    | error fault => exact blockCleanup_walks hu hlisted.held _
    | ok found =>
      dsimp only
      split_ifs
      · exact blockCleanup_walks hu hlisted.held _
      refine (inspect_walks hu _).bind ?_
      rintro state v hv rfl
      have hinspected := hlisted.steady (.asked (.inspected identity.process state) trivial)
      rcases state with fault | ⟨⟩ | code
      · exact unknown_walks hv hinspected.held (fun h => by cases h) _
      · refine (stop_walks hv _ _).bind ?_
        rintro stopped w hw rfl
        have hstopped := hinspected.steady
          (.asked (.stopped identity.process .force stopped) trivial)
        cases stopped with
        | error fault => exact blockCleanup_walks hw hstopped.held _
        | ok _ =>
          exact finishFailedLaunchCleanup_walks hw hstopped hprocess (.stopped .force)
            (hv.heard.snoc rfl)
      · exact finishFailedLaunchCleanup_walks hv hinspected hprocess (.exited code)
          (hu.heard.snoc rfl)

lemma finishRecovered_walks (hs : Path env s₀ s) (h : Held s operation) (launch : ProcessLaunch)
    (profile : LaunchProfile) :
    WalksFrom env s₀ (finishRecovered env operation launch profile) s fun _ _ => True := by
  unfold finishRecovered
  dsimp only
  split_ifs
  · exact blockCleanup_walks hs h.setProcess _
  refine (verifyStartedIdentity_walks hs _ _).bind fun verified t ht hsteady => ?_
  have hheld := h.steady hsteady
  cases verified with
  | error failure => exact blockCleanup_walks ht hheld.setProcess _
  | ok _ =>
    refine (persistHeld_walks ht hheld.setProcess).bind fun _ u hu _ => ?_
    exact (setOwned_walks hu _ _ _).bind fun _ v hv _ => .pure hv trivial

lemma recordUnverified_walks (hs : Path env s₀ s) (h : Held s operation) (identity : ProcessIdentity)
    (failure : LifecycleFailure) (confirmedCleanup : Bool) :
    WalksFrom env s₀ (recordUnverified env operation identity failure confirmedCleanup) s
      fun _ _ => True := by
  refine (persistHeld_walks hs h.setProcess).bind fun _ t ht _ => ?_
  split
  · exact (clearOwnedFor_walks ht _).bind fun _ u hu _ => .raise hu
  split
  · exact (setOwnerProcess_walks ht _ _).bind fun _ u hu _ => .raise hu
  · exact .raise ht

lemma verifyRecord_walks (hs : Path env s₀ s) (h : Held s operation) :
    WalksFrom env s₀ (verifyRecord env operation) s fun _ _ => True := by
  refine Walks.check_bind hs fun identity _ => ?_
  refine walks_memory_bind (Walks.check_bind hs fun profile _ => ?_)
  refine (verifyStartedIdentity_walks hs _ _).bind fun verified t ht hsteady => ?_
  have hheld := h.steady hsteady
  cases verified with
  | error failure =>
    dsimp only
    split_ifs
    · refine (confirmExited_walks ht _).bind fun confirmed u hu hseen => ?_
      exact recordUnverified_walks hu (hheld.steady hseen) _ _ _
    · exact recordUnverified_walks ht hheld _ _ _
  | ok _ =>
    dsimp only
    split_ifs
    · refine (persistHeld_walks ht hheld.setProcess).bind fun _ u hu _ => ?_
      exact (setOwned_walks hu _ _ _).bind fun _ v hv _ => .pure hv trivial
    · exact (setOwned_walks ht _ _ _).bind fun _ u hu _ => .pure hu trivial

lemma reconcileLaunch_walks (hs : Path env s₀ s) (h : Recorded s operation) :
    WalksFrom env s₀ (reconcileLaunch env operation) s fun _ _ => True := by
  refine walks_memory_bind (Walks.check_bind hs fun profile _ => ?_)
  cases hprocess : operation.process with
  | some identity =>
    dsimp only
    split_ifs
    · exact reconcileRetainedCleanup_walks hs h hprocess
    · exact verifyRecord_walks hs h.held
  | none =>
    dsimp only
    cases ProcessOperationGeneration.forOperation operation profile .launchNew with
    | none => exact unknown_walks hs h.held (fun _ => hprocess) _
    | some generation =>
      refine (recoverGeneration_walks hs _ _).bind ?_
      rintro answer t ht rfl
      have hheld := h.held.steady (.asked (.recovered generation answer) trivial)
      rcases answer with fault | identity | ⟨⟩
      · exact unknown_walks ht hheld (fun _ => hprocess) _
      · exact finishRecovered_walks ht hheld _ _
      · exact unknown_walks ht hheld (fun _ => hprocess) _

/-! ### Reconciliation of stops -/

lemma reconcileStopping_walks (hs : Path env s₀ s) (h : Recorded s operation) :
    WalksFrom env s₀ (reconcileStopping env operation) s fun _ _ => True := by
  unfold reconcileStopping
  cases hprocess : operation.process with
  | none => exact unknown_walks hs h.held (fun _ => hprocess) _
  | some identity =>
    refine walks_memory_bind (Walks.check_bind hs fun profile _ => ?_)
    refine (inspectIdentity_walks hs _).bind ?_
    rintro answer t ht rfl
    have hidentified := h.steady
      (.asked (.inspectedIdentity identity.process answer) trivial)
    cases answer with
    | error fault => exact unknown_walks ht hidentified.held (fun h => by cases h) _
    | ok actual =>
      dsimp only
      split_ifs
      · exact (persistHeld_walks ht hidentified.held.setProcess).bind
          fun _ u hu _ => .pure hu trivial
      refine (inspect_walks ht _).bind ?_
      rintro state u hu rfl
      have hinspected := hidentified.steady
        (.asked (.inspected identity.process state) trivial)
      rcases state with fault | ⟨⟩ | code
      · exact unknown_walks hu hinspected.held (fun h => by cases h) _
      · refine (verifyProcess_walks hu _ _).bind fun verified v hv hsteady => ?_
        have hverified := hinspected.steady hsteady
        cases verified with
        | error error => exact blockCleanupLifecycleError_walks hv hverified.held _
        | ok _ => exact finishStop_walks hv hverified hprocess _
      · refine (descendants_walks hu _).bind ?_
        rintro listed v hv rfl
        have hlisted := hinspected.steady
          (.asked (.listedDescendants identity.process listed) trivial)
        rcases listed with fault | ⟨⟩ | ⟨descendant, found⟩
        · exact unknown_walks hv hlisted.held (fun h => by cases h) _
        · refine (persistUpdate_walks hv (hlisted.forget hprocess
            ⟨_, .exited code, (ht.heard.snoc rfl).snoc rfl⟩ .stopped none)).bind fun _ w hw _ => ?_
          exact (clearOwnedFor_walks hw _).bind fun _ x hx _ => .pure hx trivial
        · exact (persistHeld_walks hv hlisted.held.setProcess).bind
            fun _ w hw _ => .pure hw trivial

lemma reconcileStopIntent_walks (hs : Path env s₀ s) (h : Recorded s operation) :
    WalksFrom env s₀ (reconcileStopIntent env operation) s fun _ _ => True := by
  refine walks_memory_bind ?_
  cases s.state.memory.latestAuthorizedExcluding operation.instanceId
      (some operation.operationId) with
  | none => exact blockOperation_walks hs h.held _
  | some previous =>
    dsimp only
    cases previous.process with
    | none => exact blockOperation_walks hs h.held _
    | some identity =>
      refine Walks.check_bind hs fun profile _ => ?_
      refine (persistHeld_walks hs h.held.setProcess).bind ?_
      rintro _ t ht rfl
      exact reconcileStopping_walks ht (recorded_persisted s (operation.setState .stopping (some identity) operation.failure) rfl)

/-! ### Restarts -/

/-- The authority of an instance that was raised before a mutation, and is set after it. -/
lemma remember_setAuthorityEpoch (c : Coordinator) (w : StoreWrite) (outcome : StoreOutcome)
    (instanceId : InstanceId) (raised epoch : AuthorityEpoch) :
    (((c.remember fun lifecycle => lifecycle.setAuthorityEpoch instanceId raised).wrote w
      outcome).remember fun lifecycle => lifecycle.setAuthorityEpoch instanceId epoch) =
      (c.wrote w outcome).remember fun lifecycle => lifecycle.setAuthorityEpoch instanceId epoch := by
  simp only [Coordinator.remember, Coordinator.wrote, ProcessLifecycle.setAuthorityEpoch,
    OrderedMap.insert_insert]

/-- A restart that became durable: it names its process. -/
structure RestartBegun (s₀ t : CallState Coordinator Event) (operation restarting : LifecycleOperation)
    (identity : ProcessIdentity) : Prop where
  recorded : Recorded t restarting
  process : restarting.process = some identity
  key : restarting.key = operation.key
  wrote : Heard s₀ t [.wrote (.update restarting) .done]
  first : Unstarted s₀ t

lemma RestartBegun.named {t : CallState Coordinator Event} {restarting : LifecycleOperation}
    (h : RestartBegun s₀ t operation restarting identity) {other : ProcessIdentity}
    (hother : restarting.process = some other) : Named s₀ t restarting.key other :=
  .inr ⟨restarting, rfl, hother, h.wrote⟩

/-- What the durable record of a restart says. -/
lemma restarting_persisted (hs : Path env s₀ s) (hfirst : Unstarted s₀ s)
    {restarting : LifecycleOperation} {f : ProcessLifecycle → ProcessLifecycle}
    (hstate : restarting.state.isActive = true) (hprocess : restarting.process = some identity)
    (hkey : restarting.key = operation.key)
    (hf : (f s.state.memory).retained.records[restarting.key]? = some restarting) :
    RestartBegun s₀ ⟨s.state.persisted (.update restarting) f,
      s.events ++ [.wrote (.update restarting) .done]⟩ operation restarting identity where
  recorded := ⟨hf, hstate⟩
  process := hprocess
  key := hkey
  wrote := hs.heard.snoc rfl
  first := hfirst.wrote _ _ _

/-- The epoch rises with the record, or not at all. -/
lemma persistRestarting_walks (hs : Path env s₀ s) (h : Held s operation) (hfirst : Unstarted s₀ s)
    (identity : ProcessIdentity)
    (hcurrent : operation.authorityEpoch = s.state.memory.currentAuthorityEpoch
      operation.instanceId) :
    WalksFrom env s₀ (persistRestarting env operation identity
      (s.state.memory.currentAuthorityEpoch operation.instanceId)) s fun restarting t =>
        RestartBegun s₀ t operation restarting identity := by
  have hput : ∀ (lifecycle : ProcessLifecycle) (restarting : LifecycleOperation),
      (lifecycle.putRecord restarting).retained.records[restarting.key]? = some restarting :=
    fun lifecycle restarting => LifecycleContents.getElem?_putRecord.trans (if_pos rfl)
  unfold WalksFrom Walks
  rw [persistRestarting, after_bind, rotateAuthority]
  by_cases honce : operation.requestEpoch = operation.authorityEpoch
  · rw [if_pos honce, after_bind, check, after_liftM]
    cases hnext : AuthorityEpoch.next
        (s.state.memory.currentAuthorityEpoch operation.instanceId) with
    | none => exact hs
    | some next =>
      dsimp only [okOr, Option.elim, Except.mapError]
      rw [after_bind, remember, after_modifyState]
      dsimp only
      rw [after_pure]
      dsimp only
      rw [after_bind]
      have hepoch : next = operation.authorityEpoch + 1 := by
        rw [AuthorityEpoch.next] at hnext
        split_ifs at hnext
        rw [hcurrent, Option.some.inj hnext]
      refine after_attempt_persist ⟨s, hs, rfl⟩ ?_ fun outcome error hasked houtcome => ?_
      · obtain ⟨old, hold, hprecedes, hsame, hactive, -⟩ := h
        have hrotated : old.Precedes ((operation.setAuthorityEpoch next).setState .restarting
            (some identity) operation.failure) :=
          ⟨hprecedes.operationId, hprecedes.instanceId, hprecedes.lease, hprecedes.sequence,
            hprecedes.requestEpoch, hprecedes.action, by
              show old.authorityEpoch ≤ next
              rw [hepoch, hsame]
              exact Nat.le_succ _, fun hended => by rw [hactive] at hended; cases hended⟩
        refine ⟨hs.move (.rotated s old ((operation.setAuthorityEpoch next).setState .restarting
          (some identity) operation.failure) hold hrotated (hsame.symm.trans hcurrent)
          (hprecedes.requestEpoch.symm.trans (honce.trans hsame)) (by rw [← hsame]; exact hepoch)
          rfl), ?_⟩
        refine restarting_persisted (f := fun lifecycle =>
          (lifecycle.setAuthorityEpoch operation.instanceId next).putRecord _) hs hfirst rfl rfl rfl ?_
        exact hput _ _
      · dsimp only
        rw [if_pos honce, after_bind, remember, after_modifyState]
        dsimp only
        rw [remember_setAuthorityEpoch]
        exact (hs.move (.failed s _ outcome hasked error houtcome)).move
          (.confirmed _ operation.instanceId)
  · rw [if_neg honce, after_pure]
    dsimp only
    rw [after_bind]
    have hheld : Held s (operation.setState .restarting (some identity) operation.failure) :=
      h.setProcess
    obtain ⟨old, hputtable⟩ := hheld.puttable s₀
    refine after_attempt_persist ⟨s, hs, rfl⟩ ?_ fun outcome error hasked houtcome => ?_
    · exact ⟨hs.move (.updated s old _ hputtable),
        restarting_persisted hs hfirst rfl rfl rfl (hput _ _)⟩
    · dsimp only
      rw [if_neg honce]
      exact hs.move (.failed s _ outcome hasked error houtcome)

lemma RestartBegun.steady {t u : CallState Coordinator Event} {restarting : LifecycleOperation}
    (h : RestartBegun s₀ t operation restarting identity) (hsteady : Steady t u) :
    RestartBegun s₀ u operation restarting identity :=
  ⟨h.recorded.steady hsteady, h.process, h.key, hsteady.heard h.wrote, h.first.steady hsteady⟩

lemma beginRestart_walks (hs : Path env s₀ s) (h : Held s operation) (hfirst : Unstarted s₀ s)
    (identity : ProcessIdentity) :
    WalksFrom env s₀ (beginRestart env operation identity) s fun restarting t =>
      RestartBegun s₀ t operation restarting identity := by
  refine walks_memory_bind (Walks.check_bind hs fun _ hcurrent => ?_)
  refine (persistRestarting_walks hs h hfirst identity (not_not.mp (refuse_eq_ok.mp hcurrent))).bind
    fun restarting t ht hrestarting => ?_
  cases operation.action with
  | restart profileId =>
    exact (reserveOwnership_walks ht _ _).bind fun _ u hu hsteady =>
      .pure hu (hrestarting.steady hsteady)
  | _ => exact .raise ht

/-- A restart that goes on after a crash: its epoch has risen, or rises now. -/
lemma prepareRestartRecovery_walks (hs : Path env s₀ s) (h : Recorded s operation)
    (hnamed : ∀ identity, operation.process = some identity →
      Named s₀ s operation.key identity) (hfirst : Unstarted s₀ s) (profile : LaunchProfile) :
    WalksFrom env s₀ (prepareRestartRecovery env operation profile) s fun prepared t =>
      Recorded t prepared ∧ Unstarted s₀ t ∧ ∀ identity, prepared.process = some identity →
        Named s₀ t prepared.key identity := by
  refine Walks.check_bind hs fun identity hidentity => ?_
  split_ifs
  · refine (beginRestart_walks hs h.held hfirst identity).weaken fun prepared t _ hprepared => ?_
    exact ⟨hprepared.recorded, hprepared.first, fun other hother => hprepared.named hother⟩
  · refine walks_memory_bind (Walks.check_bind hs fun _ _ => ?_)
    refine (reserveOwnership_walks hs _ _).bind fun _ t ht hsteady => .pure ht ?_
    exact ⟨h.steady hsteady, hfirst.steady hsteady,
      fun other hother => (hnamed other hother).steady hsteady⟩

/-- The process of the record is gone: its replacement may be started. -/
lemma startReplacement_walks (hs : Path env s₀ s) (h : Recorded s operation)
    (hprocess : operation.process = some identity) (hnamed : Named s₀ s operation.key identity)
    (hfirst : Unstarted s₀ s) {event : Event} (hends : Event.Ends identity.process event)
    (hheard : Heard s₀ s [event, .listedDescendants identity.process (.ok [])])
    (profile : LaunchProfile) :
    WalksFrom env s₀ (startReplacement env operation profile) s fun _ _ => True := by
  unfold startReplacement
  dsimp only
  refine (persistUpdate_walks hs (h.forget hprocess ⟨event, hends, hheard⟩ .restarting none)).bind ?_
  rintro _ t ht rfl
  have hrecorded := recorded_persisted s (operation.setState .restarting none none) rfl
  refine (reserveOwnership_walks ht _ _).bind fun _ u hu hsteady => ?_
  have hreserved := hrecorded.steady hsteady
  have hdurable : u.state.store.records[operation.key]? =
      some (operation.setState .restarting none none) := by
    rw [hsteady.stored]
    exact LifecycleContents.getElem?_putRecord.trans (if_pos rfl)
  have hreplaced : Replaced s₀ u (operation.setState .restarting none none) := by
    refine ⟨identity, event, ?_, hends, hsteady.heard (hheard.snoc rfl)⟩
    exact (hnamed.append (t := ⟨_, s.events ++ [_]⟩) rfl).steady hsteady
  have hunstarted : Unstarted s₀ u :=
    (hfirst.wrote _ _ _).steady hsteady
  cases hgeneration : ProcessOperationGeneration.forOperation
      (operation.setState .restarting none none) profile .restartReplacement with
  | none => exact unknown_walks hu hreserved.held id _
  | some generation =>
    have hkey := ProcessOperationGeneration.forOperation_eq_some.mp hgeneration
    have hkind : generation.kind = .restartReplacement := by rw [hkey.2.2.2.2]
    obtain ⟨log, hlog, -⟩ := hs.heard
    obtain ⟨more, hmore, hplain⟩ := hsteady.log
    exact startAndFinish_walks hu hreserved profile
      { key := ⟨profile, by rw [hkind]; exact hgeneration⟩
        remembered := hreserved.found
        durable := hdurable
        wrote := ⟨log, more, by rw [hmore, hlog]; simp only [List.append_assoc, List.cons_append,
          List.nil_append], hplain⟩
        state := by rw [hkind]; rfl
        process := rfl
        first := hunstarted
        fresh := fun hlaunch => by rw [hkind] at hlaunch; cases hlaunch
        replaced := fun _ => hreplaced }

lemma replaceWithoutDescendants_walks (hs : Path env s₀ s) (h : Recorded s operation)
    (hprocess : operation.process = some identity) (hnamed : Named s₀ s operation.key identity)
    (hfirst : Unstarted s₀ s) {event : Event} (hends : Event.Ends identity.process event)
    (hheard : Heard s₀ s [event]) (profile : LaunchProfile) :
    WalksFrom env s₀ (replaceWithoutDescendants env operation identity profile) s fun _ _ => True := by
  refine (descendants_walks hs _).bind ?_
  rintro listed t ht rfl
  have hsteady : Steady s ⟨s.state, s.events ++ [.listedDescendants identity.process listed]⟩ :=
    .asked _ trivial
  have hlisted := h.steady hsteady
  rcases listed with fault | ⟨⟩ | ⟨descendant, found⟩
  · exact processFailure_walks ht hlisted.held _
  · exact startReplacement_walks ht hlisted hprocess (hnamed.steady hsteady)
      (hfirst.steady hsteady) hends (hheard.snoc rfl) profile
  · exact blockCleanup_walks ht hlisted.held _

lemma finishRestart_walks (hs : Path env s₀ s) (h : Recorded s operation)
    (hnamed : ∀ identity, operation.process = some identity →
      Named s₀ s operation.key identity) (hfirst : Unstarted s₀ s) (profile : LaunchProfile) :
    WalksFrom env s₀ (finishRestart env operation profile) s fun _ _ => True := by
  refine Walks.check_bind hs fun identity hidentity => ?_
  have hprocess : operation.process = some identity := okOr_eq_ok.mp hidentity
  split_ifs
  · exact reconcileRetainedCleanup_walks hs h hprocess
  refine (inspectIdentity_walks hs _).bind ?_
  rintro answer t ht rfl
  have hidentified : Steady s ⟨s.state, s.events ++ [.inspectedIdentity identity.process answer]⟩ :=
    .asked _ trivial
  cases answer with
  | error fault => exact processFailure_walks ht (h.steady hidentified).held _
  | ok actual =>
    dsimp only
    split_ifs
    · exact blockCleanup_walks ht (h.steady hidentified).held _
    refine (inspect_walks ht _).bind ?_
    rintro state u hu rfl
    have hinspected := hidentified.trans (.asked (.inspected identity.process state) trivial)
    rcases state with fault | ⟨⟩ | code
    · exact processFailure_walks hu (h.steady hinspected).held _
    · refine (verifyProcess_walks hu _ _).bind fun verified v hv hsteady => ?_
      have hverified := hinspected.trans hsteady
      cases verified with
      | error error => exact blockCleanupLifecycleError_walks hv (h.steady hverified).held _
      | ok _ =>
        refine (stop_walks hv _ _).bind ?_
        rintro stopped w hw rfl
        have hstopped := hverified.trans (.asked (.stopped identity.process .force stopped) trivial)
        cases stopped with
        | error fault => exact blockOperation_walks hw (h.steady hstopped).held _
        | ok _ =>
          exact replaceWithoutDescendants_walks hw (h.steady hstopped) hprocess
            ((hnamed identity hprocess).steady hstopped) (hfirst.steady hstopped) (.stopped .force)
            (hv.heard.snoc rfl) profile
    · exact replaceWithoutDescendants_walks hu (h.steady hinspected) hprocess
        ((hnamed identity hprocess).steady hinspected) (hfirst.steady hinspected) (.exited code)
        (ht.heard.snoc rfl) profile

lemma reconcileRestart_walks (hs : Path env s₀ s) (h : Recorded s operation)
    (hnamed : ∀ identity, operation.process = some identity →
      Named s₀ s operation.key identity) (hfirst : Unstarted s₀ s) :
    WalksFrom env s₀ (reconcileRestart env operation) s fun _ _ => True := by
  refine walks_memory_bind ?_
  cases hprocess : operation.process with
  | none =>
    dsimp only
    split_ifs
    · exact unknown_walks hs h.held (fun _ => hprocess) _
    refine Walks.check_bind hs fun profile _ => ?_
    cases ProcessOperationGeneration.forOperation operation profile .restartReplacement with
    | none => exact unknown_walks hs h.held (fun _ => hprocess) _
    | some generation =>
      refine (recoverGeneration_walks hs _ _).bind ?_
      rintro answer t ht rfl
      have hheld := h.held.steady (.asked (.recovered generation answer) trivial)
      rcases answer with fault | identity | ⟨⟩
      · exact unknown_walks ht hheld (fun _ => hprocess) _
      · exact finishRecovered_walks ht hheld _ _
      · exact unknown_walks ht hheld (fun _ => hprocess) _
  | some identity =>
    refine Walks.check_bind hs fun profile _ => ?_
    refine (prepareRestartRecovery_walks hs h hnamed hfirst profile).bind
      fun prepared t ht hprepared => ?_
    exact finishRestart_walks ht hprepared.1 hprepared.2.2 hprepared.2.1 profile

lemma reconcileRestartIntent_walks (hs : Path env s₀ s) (h : Recorded s operation)
    (hfirst : Unstarted s₀ s) (profileId : LaunchProfileId) :
    WalksFrom env s₀ (reconcileRestartIntent env operation profileId) s fun _ _ => True := by
  refine walks_memory_bind ?_
  cases s.state.memory.latestAuthorizedExcluding operation.instanceId
      (some operation.operationId) with
  | none => exact blockOperation_walks hs h.held _
  | some previous =>
    dsimp only
    cases previous.process with
    | none => exact blockOperation_walks hs h.held _
    | some identity =>
      refine Walks.check_bind hs fun profile _ => Walks.check_bind hs fun previousProfile _ => ?_
      split_ifs
      · exact blockOperation_walks hs h.held _
      refine (beginRestart_walks hs h.held hfirst identity).bind fun restarting t ht hbegun => ?_
      exact reconcileRestart_walks ht hbegun.recorded (fun other hother => hbegun.named hother)
        hbegun.first

lemma executeRestart_walks (hs : Path env s₀ s) (h : Recorded s operation) (hfirst : Unstarted s₀ s)
    (profileId : LaunchProfileId) :
    WalksFrom env s₀ (executeRestart env operation profileId) s fun _ _ => True := by
  refine walks_memory_bind ?_
  cases s.state.memory.latestAuthorizedExcluding operation.instanceId
      (some operation.operationId) with
  | none => exact blockOperation_walks hs h.held _
  | some previous =>
    dsimp only
    cases previous.process with
    | none => exact blockOperation_walks hs h.held _
    | some identity =>
      refine Walks.check_bind hs fun profile _ => Walks.check_bind hs fun previousProfile _ => ?_
      refine (persistHeld_walks hs h.held.setProcess).bind ?_
      rintro _ t ht rfl
      have hrecorded := recorded_persisted s
        (operation.setState .restarting (some identity) none) rfl
      split_ifs
      · exact blockOperation_walks ht hrecorded.held _
      refine (verifyProcess_walks ht _ _).bind fun verified u hu hsteady => ?_
      have hverified := hrecorded.steady hsteady
      have hunstarted : Unstarted s₀ u :=
        (hfirst.wrote _ _ _).steady hsteady
      cases verified with
      | error error => exact blockCleanupLifecycleError_walks hu hverified.held _
      | ok _ =>
        refine (beginRestart_walks hu hverified.held hunstarted identity).bind
          fun restarting v hv hbegun => ?_
        exact finishRestart_walks hv hbegun.recorded (fun other hother => hbegun.named hother)
          hbegun.first profile

/-! ### Dispatch -/

/-- An operation that memory holds is reconciled; at its end nothing is done. -/
lemma reconcileRecord_walks (hs : Path env s₀ s)
    (hfound : s.state.memory.retained.records[operation.key]? = some operation)
    (hnamed : ∀ identity, operation.process = some identity →
      Named s₀ s operation.key identity) (hfirst : Unstarted s₀ s) :
    WalksFrom env s₀ (reconcileRecord env operation) s fun _ _ => True := by
  refine walks_memory_bind ?_
  by_cases hsuperseded : operation.state.isActive ∧
      s.state.memory.retained.operationIsCurrent operation = false
  · rw [if_pos hsuperseded]
    exact blockOperation_walks hs (Recorded.held ⟨hfound, hsuperseded.1⟩) _
  rw [if_neg hsuperseded]
  have hrecorded : operation.state.isActive = true → Recorded s operation := fun h => ⟨hfound, h⟩
  cases hstate : operation.state with
  | intentRecorded | starting =>
    have h := hrecorded (by rw [hstate]; rfl)
    cases operation.action with
    | launchNew profileId => exact reconcileLaunch_walks hs h
    | attachExisting identity => exact executeAttach_walks hs h identity
    | stop mode => exact reconcileStopIntent_walks hs h
    | restart profileId => exact reconcileRestartIntent_walks hs h hfirst profileId
  | unknown =>
    have h := hrecorded (by rw [hstate]; rfl)
    cases operation.action with
    | launchNew profileId => exact reconcileLaunch_walks hs h
    | attachExisting identity => exact executeAttach_walks hs h identity
    | stop mode =>
      dsimp only
      split_ifs
      · exact reconcileStopping_walks hs h
      · exact .pure hs trivial
    | restart profileId => exact reconcileRestart_walks hs h hnamed hfirst
  | started | attached => exact verifyRecord_walks hs (hrecorded (by rw [hstate]; rfl)).held
  | stopping => exact reconcileStopping_walks hs (hrecorded (by rw [hstate]; rfl))
  | restarting =>
    exact reconcileRestart_walks hs (hrecorded (by rw [hstate]; rfl)) hnamed hfirst
  | blocked =>
    have h := hrecorded (by rw [hstate]; rfl)
    cases operation.action with
    | restart profileId => exact reconcileRestart_walks hs h hnamed hfirst
    | launchNew profileId =>
      dsimp only
      split_ifs
      · exact reconcileLaunch_walks hs h
      · exact .pure hs trivial
    | stop mode =>
      dsimp only
      split_ifs
      · exact reconcileStopping_walks hs h
      · exact .pure hs trivial
    | attachExisting identity => exact .pure hs trivial
  | stopped | failed | rejected => exact .pure hs trivial

lemma replay_walks (hs : Path env s₀ s)
    (hfound : s.state.memory.retained.records[operation.key]? = some operation)
    (hnamed : ∀ identity, operation.process = some identity →
      Named s₀ s operation.key identity) (hfirst : Unstarted s₀ s) :
    WalksFrom env s₀ (replay env operation) s fun _ _ => True := by
  refine walks_memory_bind ?_
  split_ifs with hsuperseded
  · exact .pure hs trivial
  · exact blockOperation_walks hs (Recorded.held ⟨hfound, hsuperseded.1⟩) _
  cases hstate : operation.state with
  | started | attached =>
    exact verifyRecord_walks hs (Recorded.held ⟨hfound, by rw [hstate]; rfl⟩)
  | intentRecorded | starting | stopping | restarting | unknown | blocked =>
    exact reconcileRecord_walks hs hfound hnamed hfirst
  | stopped | failed | rejected => exact .pure hs trivial

/-! ### Calls -/

lemma execute_walks (hs : Path env s₀ s) (h : Recorded s operation)
    (hprocess : operation.process = none) (hfresh : Inserted s₀ s operation)
    (hfirst : Unstarted s₀ s) :
    WalksFrom env s₀ (execute env operation) s fun _ _ => True := by
  unfold execute
  cases operation.action with
  | launchNew profileId => exact executeLaunch_walks hs h hprocess hfresh hfirst profileId
  | attachExisting identity => exact executeAttach_walks hs h identity
  | stop mode => exact executeStop_walks hs h mode
  | restart profileId => exact executeRestart_walks hs h hfirst profileId

lemma issueSequence_walks (hs : Path env s₀ s) :
    WalksFrom env s₀ issueSequence s fun sequence t =>
      s.state.memory.nextSequence < u64Max ∧ sequence = s.state.memory.nextSequence + 1 ∧
        t = ⟨s.state.remember fun lifecycle => { lifecycle with nextSequence := sequence },
          s.events⟩ := by
  refine walks_memory_bind (Walks.check_bind hs fun sequence hsequence => ?_)
  have hbound := okOr_eq_ok.mp hsequence
  split_ifs at hbound with hless
  obtain rfl := Option.some.inj hbound
  exact ⟨hs.move (.sequenced s), hless, rfl, rfl⟩

/-- A new operation becomes durable before it is executed. -/
lemma accept_walks (hs : Path env s₀ s) (hstate : s.state = s₀.state) (hfirst : Unstarted s₀ s)
    (request : LifecycleRequest)
    (hcurrent : s.state.memory.currentAuthorityEpoch request.instanceId = request.authorityEpoch)
    (hfresh : s.state.memory.retained.record request.instanceId request.operationId = none) :
    WalksFrom env s₀ (accept env request) s fun _ _ => True := by
  refine walks_memory_bind (Walks.check_bind hs fun _ _ => Walks.check_bind hs fun _ hreserved => ?_)
  refine (issueSequence_walks hs).bind ?_
  rintro sequence t ht ⟨hbound, rfl, rfl⟩
  dsimp only
  have hbegan : s₀.state.memory.retained.record request.instanceId request.operationId = none := by
    rw [← hstate]
    exact hfresh
  let operation := (LifecycleOperation.new request.operationId request.instanceId request.lease
    request.authorityEpoch request.action).setSequence (s.state.memory.nextSequence + 1)
  have hinserted : WalksFrom env s₀ (persistInsert env operation)
      ⟨s.state.remember fun lifecycle =>
        { lifecycle with nextSequence := s.state.memory.nextSequence + 1 }, s.events⟩
      fun _ u => Recorded u operation ∧ Unstarted s₀ u ∧ Inserted s₀ u operation := by
    refine walks_memory_bind (Walks.check_bind ht fun _ hroom => ?_)
    have hadmitted : Admitted s.state.memory operation :=
      { absent := hfresh
        room := by
          refine not_le.mp fun hfull => not_and.mp (refuse_eq_ok.mp hroom) ?_ hfull
          intro hmem
          exact OrderedMap.mem_iff_getElem?_ne_none.mp hmem hfresh
        reserved := hreserved
        bound := hbound
        fresh := by
          show operation = (LifecycleOperation.new request.operationId request.instanceId
            request.lease (s.state.memory.currentAuthorityEpoch request.instanceId)
            request.action).setSequence _
          rw [hcurrent] }
    refine (walks_persist ht (hs.move (.inserted s operation hadmitted))).weaken ?_
    rintro _ u - rfl
    exact ⟨⟨LifecycleContents.getElem?_putRecord.trans (if_pos rfl), rfl⟩, hfirst.wrote _ _ _,
      hbegan, operation, rfl, hs.heard.snoc rfl⟩
  refine hinserted.bind fun _ u hu hrecorded => ?_
  split
  · refine (reserveOwnership_walks hu _ _).bind fun _ v hv hsteady => ?_
    exact execute_walks hv (hrecorded.1.steady hsteady) rfl (hrecorded.2.2.steady hsteady)
      (hrecorded.2.1.steady hsteady)
  · exact execute_walks hu hrecorded.1 rfl hrecorded.2.2 hrecorded.2.1

/-- **Calls.**  Every call is a path of moves, however it ends. -/
theorem call_walks (env : Environment) (call : Call) (s : CallState Coordinator Event) :
    WalksFrom env s (call.run env) s fun _ _ => True := by
  have hbegan : Unstarted s s := ⟨[], (List.append_nil _).symm, List.forall_mem_nil _⟩
  cases call with
  | apply request =>
    refine (authenticate_walks .refl _ _ _).bind fun _ t ht hchecked => ?_
    obtain ⟨hsteady, hstate, hcurrent⟩ := hchecked
    refine walks_memory_bind ?_
    cases hrecord : t.state.memory.retained.record request.instanceId request.operationId with
    | some operation =>
      refine Walks.check_bind ht fun _ _ => ?_
      have hkey := t.state.memory.retained.records_keyed _ _ hrecord
      have hfound : t.state.memory.retained.records[operation.key]? = some operation := by
        rw [hkey]
        exact hrecord
      exact replay_walks ht hfound (fun identity hidentity =>
        .inl ⟨operation, by rw [← hstate]; exact hfound, hidentity⟩) (hbegan.steady hsteady)
    | none =>
      refine accept_walks ht hstate (hbegan.steady hsteady) request ?_ hrecord
      rw [hstate]
      exact hcurrent
  | reconcile lease authorityEpoch operationId =>
    refine (authenticate_walks .refl _ _ _).bind fun _ t ht hchecked => ?_
    obtain ⟨hsteady, hstate, -⟩ := hchecked
    refine walks_memory_bind (Walks.check_bind ht fun operation hrecord => ?_)
    have hrecord := okOr_eq_ok.mp hrecord
    have hkey := t.state.memory.retained.records_keyed _ _ hrecord
    have hfound : t.state.memory.retained.records[operation.key]? = some operation := by
      rw [hkey]
      exact hrecord
    refine Walks.check_bind ht fun _ _ => Walks.check_bind ht fun _ _ => ?_
    exact reconcileRecord_walks ht hfound (fun identity hidentity =>
      .inl ⟨operation, by rw [← hstate]; exact hfound, hidentity⟩) (hbegan.steady hsteady)

end Walks

end Sts2Gateway.Lifecycle
