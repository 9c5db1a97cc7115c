/-
Runs of a Runtime-v2 deployment: calls, crashes inside calls and restarts.

* `Deployment.service`, `Deployment.run`: the ledger as a service that hands its
  states to a checkpoint, and its runs;
* `performed_of`: **one call keeps every state of a deployment valid**, those
  it hands to the checkpoint included;
* `run_of`: so does every run;
* `restart_equivalence`: a restart from any state of any run.
-/
import Mathlib.Tactic
import Sts2Gateway.Library.CheckpointedRun
import Sts2Gateway.RuntimeV2.Calls
import Sts2Gateway.RuntimeV2.Restart

namespace Sts2Gateway.RuntimeV2

open Procedure Exchange OrderedMap CheckpointedRun

/-! ### Systems -/

/-- The ledger state that an exchange hands to the checkpoint.  A submission
without a checkpoint counts as one whose checkpoint returned `Ok`, as the source
writes it. -/
def presented : Event → Option (Ledger × Bool)
  | .checkpoint ledger ok => some (ledger, ok)
  | _ => none

/-- The ledger of a deployment as a service. -/
def Deployment.service (d : Deployment) :
    Service Ledger Environment Call (Except LedgerError Message) Event Construction where
  perform := Ledger.perform
  presented := presented
  fresh := d.fresh
  restored := fun c found => ((d.fresh c).restoreState found.persistedState).toOption

lemma mem_handed {d : Deployment} {events : List Event} {l : Ledger} :
    l ∈ d.service.handed events ↔ ∃ ok, Event.checkpoint l ok ∈ events := by
  simp only [Service.handed, List.mem_filterMap, Option.map_eq_some_iff]
  constructor
  · rintro ⟨event, hevent, ⟨presented, ok⟩, hp, rfl⟩
    cases event <;> cases hp
    exact ⟨ok, hevent⟩
  · rintro ⟨ok, hevent⟩
    exact ⟨_, hevent, (l, ok), rfl, rfl⟩

/-- The states of an outcome: the one it leaves and those it presents. -/
lemma mem_reached {d : Deployment} {o : Outcome} {l : Ledger} :
    l ∈ d.service.reached o ↔ l = o.state ∨ ∃ ok, Event.checkpoint l ok ∈ o.events := by
  rw [Service.reached, List.mem_cons, mem_handed]

abbrev CallRecord := CheckpointedRun.CallRecord Call (Except LedgerError Message) Event

/-- A run's state: the ledger, what is durable and the calls so far. -/
abbrev System := CheckpointedRun.System Ledger Call (Except LedgerError Message) Event

/-- A call, or a crash in or between calls with a restart. -/
abbrev Step := CheckpointedRun.Step Environment Call Construction

def Deployment.run (d : Deployment) (c : Construction) (steps : List Step) : System :=
  d.service.run (d.service.start c) steps

/-! ### Keeping the invariant -/

/-- A row stays retained when the gateway learns more. -/
lemma Retained.advance {binding : Binding} {key : OperationKey} {operation : Operation}
    (h : Retained binding key operation) {observation : Observation}
    (hle : binding.observation.generation ≤ observation.generation) :
    Retained { binding with observation } key operation where
  admitted := h.admitted.congr (by rfl)
  data := h.data
  result := fun r hr =>
    { h.result r hr with observed := fun o ho => ((h.result r hr).observed o ho).trans hle }
  unresolved := fun hopen => (h.unresolved hopen).trans hle

section Updates

variable {d : Deployment} {ledger : Ledger} (h : ledger.Of d)
include h

/-- Learning an observation that does not go back. -/
lemma observe_of {observation : Observation} (hvalid : observation.validate = .ok ())
    (hle : ledger.binding.observation.generation ≤ observation.generation) :
    (ledger.observe observation).Of d where
  valid :=
    { observation := hvalid
      capacity := h.valid.capacity
      rows := fun key operation hrow => (h.valid.rows key operation hrow).advance hle }
  config := h.config
  identity := h.identity

/-- A new row under a fresh key. -/
lemma insert_of {key : OperationKey} {request : Message} {result : Option Message}
    (habsent : ledger.operations[key]? = none)
    (hroom : ledger.operations.size < ledger.config.operationCapacity)
    (hrow : Retained ledger.binding key (.retained request result)) :
    ({ ledger with operations := ledger.operations.insert key (.retained request result) } :
      Ledger).Of d where
  valid :=
    { observation := h.valid.observation
      capacity := by
        rw [size_insert_of_none habsent]
        exact hroom
      rows := by
        intro other operation hother
        rw [getElem?_insert_if] at hother
        split_ifs at hother with heq
        · subst heq
          cases hother
          exact hrow
        · exact h.valid.rows other operation hother }
  config := h.config
  identity := h.identity

/-- A new result for a row that is already there. -/
lemma setResult_of {key : OperationKey} {operation : Operation} {result : Message}
    (hop : ledger.operations[key]? = some operation)
    (hrow : Retained ledger.binding key { operation with result := some result }) :
    (ledger.setResult key result).Of d where
  valid :=
    { observation := h.valid.observation
      capacity := by
        rw [Ledger.setResult, Std.ExtTreeMap.size_modify]
        exact h.valid.capacity
      rows := by
        intro other row hother
        rw [Ledger.setResult, getElem?_modify_if] at hother
        split_ifs at hother with heq
        · subst heq
          rw [hop] at hother
          cases hother
          exact hrow
        · exact h.valid.rows other row hother }
  config := h.config
  identity := h.identity

end Updates

/-- A result that may stand beside a fresh request makes a retained row. -/
lemma Fresh.retained {ledger : Ledger} {key : OperationKey} {request result : Message}
    (h : Fresh ledger key request) {observation : Observation}
    (hstored : StoredResult observation request result)
    (hopen : Unresolved (some result) → request.generation ≤ observation.generation) :
    Retained { ledger.binding with observation } key (.retained request (some result)) where
  admitted := h.admitted.congr (by rfl)
  data := rfl
  result := by
    rintro _ ⟨⟩
    exact hstored
  unresolved := hopen

/-- A refusal is not open to a reconciliation. -/
lemma not_unresolved_of_status {result : Message} {status : Status}
    (hstatus : result.status = some status) (hterminal : status ≠ .accepted ∧ status ≠ .unknown) :
    ¬ Unresolved (some result) := by
  intro hopen
  have := hopen result rfl
  rw [hstatus] at this
  simp_all

/-- **One call keeps every state valid**, those it presents included. -/
theorem performed_of {d : Deployment} {ledger : Ledger} (h : ledger.Of d) {call : Call}
    {o : Outcome} (hp : Performed ledger call o) : ∀ l ∈ d.service.reached o, l.Of d := by
  intro l hl
  cases hp with
  | refused _ | replayed _ _ _ | conflicted _ =>
    simp only [mem_reached, List.not_mem_nil, exists_false, or_false] at hl
    exact hl ▸ h
  | unreconciled events _ _ hevents =>
    have : l = ledger := by
      rcases hevents with rfl | ⟨receipt, answer, rfl⟩ <;>
        simpa [mem_reached] using hl
    exact this ▸ h
  | cancelled _ hfresh hgen hstored _ =>
    simp only [mem_reached, List.not_mem_nil, exists_false, or_false] at hl
    rw [hl]
    exact insert_of h hfresh.absent hfresh.room (hfresh.retained hstored fun _ => hgen.le)
  | rejected _ hfresh hstored hstatus =>
    simp only [mem_reached, List.mem_cons, List.not_mem_nil, or_false, Event.checkpoint.injEq,
      exists_and_left, exists_eq, and_true, or_self] at hl
    rw [hl]
    exact insert_of h hfresh.absent hfresh.room (hfresh.retained hstored fun hopen =>
      absurd hopen (not_unresolved_of_status hstatus (by decide)))
  | unrejected _ hfresh hstored hstatus =>
    simp only [mem_reached, List.mem_cons, List.not_mem_nil, or_false, Event.checkpoint.injEq,
      exists_and_left, exists_eq, and_true] at hl
    rcases hl with rfl | rfl
    · exact h
    · exact insert_of h hfresh.absent hfresh.room (hfresh.retained hstored fun hopen =>
        absurd hopen (not_unresolved_of_status hstatus (by decide)))
  | undispatched _ hfresh hgen =>
    simp only [mem_reached, List.mem_cons, List.not_mem_nil, or_false, Event.checkpoint.injEq,
      exists_and_left, exists_eq, and_true] at hl
    rcases hl with rfl | rfl
    · exact h
    · exact insert_of h hfresh.absent hfresh.room
        ⟨hfresh.admitted, rfl, by simp [Operation.retained], fun _ => hgen.le⟩
  | dispatched answer ok _ hfresh hgen hlearned hsettled hretained =>
    have hobserved := observe_of h hlearned.checked hlearned.advances
    have hle := hgen.le.trans hlearned.advances
    simp only [mem_reached, List.mem_cons, List.not_mem_nil, or_false, Event.checkpoint.injEq,
      reduceCtorEq, false_or, exists_or, exists_and_left, exists_eq, and_true] at hl
    rcases hl with rfl | rfl | rfl
    · refine insert_of hobserved hfresh.absent hfresh.room (hfresh.retained ?_ fun _ => hle)
      rcases hretained with ⟨-, rfl⟩ | ⟨-, -, hstored⟩
      · exact hlearned.stored
      · exact hstored
    · exact insert_of h hfresh.absent hfresh.room
        ⟨hfresh.admitted, rfl, by simp [Operation.retained], fun _ => hgen.le⟩
    · exact insert_of hobserved hfresh.absent hfresh.room
        (hfresh.retained hlearned.stored fun _ => hle)
  | reconciled lookup _ hrow _ hopen _ _ _ _ hlearned =>
    simp only [mem_reached, List.mem_cons, List.not_mem_nil, or_false, reduceCtorEq,
      exists_false] at hl
    rw [hl]
    have hret := h.valid.rows _ _ hrow
    refine setResult_of (observe_of h hlearned.checked hlearned.advances) hrow
      ⟨hret.admitted.congr (by rfl), ?_, ?_, fun _ =>
        (hret.unresolved hopen).trans hlearned.advances⟩
    · rw [hret.data]
      rfl
    · rintro _ ⟨⟩
      exact hlearned.stored
  | observed _ hvalid hle =>
    simp only [mem_reached, List.not_mem_nil, exists_false, or_false] at hl
    rw [hl]
    exact observe_of h hvalid hle

/-! ### Whole runs -/

/-- A restart from a valid state gives the restarted ledger. -/
lemma restored_eq {d : Deployment} {ledger : Ledger} (h : ledger.Of d) (c : Construction) :
    d.service.restored c ledger = some ((d.fresh c).restarted ledger) := by
  simp only [Deployment.service, restoreState_persistedState h, Except.toOption]

/-- **Every step keeps every state valid.** -/
theorem of_invariant (d : Deployment) : d.service.Invariant (Ledger.Of d) where
  fresh := fresh_of d
  call := fun ledger env call h => performed_of h (perform_cases h.valid env call)
  restored := by
    intro c ledger restored h hrestored
    rw [restored_eq h c] at hrestored
    cases hrestored
    exact restarted_of h c

/-- **Every state of every run is a valid ledger of its deployment.** -/
theorem run_of (d : Deployment) (c : Construction) (steps : List Step) :
    ∀ l ∈ (d.run c steps).states, l.Of d :=
  (of_invariant d).run c steps

/-- **Restart equivalence.**  Whatever state of a run a restart finds, restoring
its persisted state on a fresh ledger of the deployment succeeds, keeps the
observation, the keys, the requests and every result that is neither missing nor
accepted, makes those two explicit, and a second restart changes nothing. -/
theorem restart_equivalence (d : Deployment) (c : Construction) (steps : List Step) :
    ∀ l ∈ (d.run c steps).states, ∀ first second : Construction,
      ∃ restarted again, (d.fresh first).restoreState l.persistedState = .ok restarted ∧
        RestartEquivalent l restarted ∧
        (d.fresh second).restoreState restarted.persistedState = .ok again ∧
        again.binding = restarted.binding ∧ again.operations = restarted.operations := by
  intro l hl first second
  have hof := run_of d c steps l hl
  have hrestarted := restarted_of hof first
  exact ⟨_, _, restoreState_persistedState hof first, restarted_equivalent hof first,
    restoreState_persistedState hrestarted second, restarted_binding hrestarted second,
    restarted_restarted hof first second⟩

/-! ### A run -/

/-- A deployment with room for two operations. -/
def sampleDeployment : Deployment where
  config := { operationCapacity := 2 }
  identity :=
    { metadata := Metadata.new
      instanceId := "instance-1"
      sessionId := "session-1"
      leaseId := "lease-1"
      leaseEpoch := 3
      authority := none
      metadataChecked := validate_new
      instanceChecked := isOk_eq_true.mp (by decide +kernel)
      sessionChecked := isOk_eq_true.mp (by decide +kernel)
      leaseChecked := isOk_eq_true.mp (by decide +kernel)
      epochBound := by decide }
  capacityPositive := by decide

def sampleConstruction : Construction where
  recovery := none
  observation :=
    ⟨{ combatPhase := .playerTurn, turnIndex := 1, hostReady := true, generation := 7 },
      isOk_eq_true.mp (by decide +kernel)⟩

def sampleRequest : Message :=
  .actionRequest Metadata.new "correlation-1" "instance-1" "session-1" "lease-1" 3 7 "operation-1"
    { actionId := actionId }

/-- Every checkpoint succeeds and the game disconnects after each write. -/
def sampleEnvironment : Environment where
  checkpoint := fun _ _ => true
  forward := fun _ _ => .error .disconnectedAfterWrite
  receipt := fun _ _ => .error .receiptUnavailable

/-- One submission whose answer is lost. -/
def sampleSteps : List Step :=
  [.call sampleEnvironment
    { authority := none, method := .submitActionWithCheckpoint sampleRequest }]

def sampleRun : System := sampleDeployment.run sampleConstruction sampleSteps

/-- The submitted operation survives a restart. -/
theorem restart_equivalence_sample :
    sampleRun.state.operations.size = 1 ∧
      ∃ restarted again,
        (sampleDeployment.fresh sampleConstruction).restoreState
            sampleRun.state.persistedState = .ok restarted ∧
          RestartEquivalent sampleRun.state restarted ∧
          (sampleDeployment.fresh sampleConstruction).restoreState
            restarted.persistedState = .ok again ∧
          again.binding = restarted.binding ∧ again.operations = restarted.operations :=
  ⟨by decide +kernel,
    restart_equivalence sampleDeployment sampleConstruction sampleSteps _ List.mem_cons_self
      sampleConstruction sampleConstruction⟩

end Sts2Gateway.RuntimeV2
