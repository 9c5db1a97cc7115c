/-
Restart equivalence of the seeded-run ledger.

A start may be answered by a message of either response kind and the answer is
stored as it is, but only start responses are restored.

* `AnsweredInKind`: every accepted answer of a run is a start response;
* `presented_restorable`, `performed_restorable`: one call stores nothing else
  then;
* `restarts_iff_restorable`: **a state is restored exactly when it is restorable**,
  and every state of a run answered in kind is;
* `restart_refused`: a run whose state is refused.
-/
import Mathlib.Tactic
import Sts2Gateway.SeededRun.Restart

namespace Sts2Gateway.SeededRun

open Procedure Exchange OrderedMap CheckpointedRun Text

/-! ### Rows with start responses -/

/-- A new row with a start response, or without a result. -/
lemma insert_restorable {ledger : Ledger} (h : ledger.Restorable) {request : Message}
    {result : Option Message} (hkind : ∀ r, result = some r → r.kind = .startResponse) :
    ({ ledger with
        operations := ledger.operations.insert request.operationId (.retained request result) } :
      Ledger).Restorable := by
  intro id operation hrow r hr
  rw [getElem?_insert_if] at hrow
  split_ifs at hrow with heq
  · cases hrow
    exact hkind r hr
  · exact h id operation hrow r hr

lemma setResult_restorable {ledger : Ledger} (h : ledger.Restorable) (id : String)
    {result : Message} (hkind : result.kind = .startResponse) :
    (ledger.setResult id result).Restorable := by
  intro other operation hrow r hr
  rw [Ledger.setResult, getElem?_modify_if] at hrow
  split_ifs at hrow with heq
  · obtain ⟨before, -, rfl⟩ := Option.map_eq_some_iff.mp hrow
    cases hr
    exact hkind
  · exact h other operation hrow r hr

section Digest

variable [Sha256]

/-! ### Answers of the right kind -/

/-- Every forwarded answer that the ledger accepts is a start response. -/
def AnsweredInKind (events : List Event) : Prop :=
  ∀ request response, Event.forward request (.ok response) ∈ events →
    acceptForwarded request response = .ok response → response.kind = .startResponse

lemma AnsweredInKind.mono {events more : List Event} (h : AnsweredInKind more)
    (hsub : events ⊆ more) : AnsweredInKind events :=
  fun request response hmem haccept => h request response (hsub hmem) haccept

/-- The result of a dispatch answered in kind. -/
lemma kind_of_dispatch {generation : ℕ} {request result : Message}
    {answer : Except TransportFault Message} {events : List Event}
    (hanswered : AnsweredInKind events) (hmem : Event.forward request answer ∈ events)
    (hstored : StoredResult generation request result)
    (hkind : answer = .ok result ∨ result.kind = .startResponse) :
    ∀ r, some result = some r → r.kind = .startResponse := by
  rintro _ ⟨⟩
  rcases hkind with rfl | hkind
  · exact hanswered request result hmem hstored.accepted
  · exact hkind

/-- **One call** whose forwarded answer is in kind leaves a restorable ledger. -/
lemma performed_restorable {ledger : Ledger} (h : ledger.Restorable) {call : Call} {o : Outcome}
    (hp : Performed ledger call o) (hanswered : AnsweredInKind o.events) : o.state.Restorable := by
  have hset : ∀ generation, (ledger.setGeneration generation).Restorable := fun _ => h
  cases hp with
  | refused | replayed | unreconciled => exact h
  | stale ok _ _ _ hkind =>
    refine insert_restorable h ?_
    rintro _ ⟨⟩
    exact hkind
  | undispatched => exact hset _
  | stranded => exact insert_restorable (hset _) (by simp)
  | dispatched answer generation ok _ _ _ _ _ hstored hkind =>
    exact insert_restorable (hset _) (kind_of_dispatch hanswered (by simp) hstored hkind)
  | reconciled => exact setResult_restorable (hset _) _ rfl

/-- **So is every state it presents**, however many of its exchanges took place. -/
lemma presented_restorable {ledger : Ledger} (h : ledger.Restorable) {call : Call} {o : Outcome}
    (hp : Performed ledger call o) (exchanges : ℕ)
    (hanswered : AnsweredInKind (o.events.take exchanges)) {l : Ledger} {saved : Bool}
    (hl : Event.checkpoint l saved ∈ o.events.take exchanges) : l.Restorable := by
  have hset : ∀ generation, (ledger.setGeneration generation).Restorable := fun _ => h
  cases hp with
  | refused | replayed => simp at hl
  | unreconciled request events _ _ hevents =>
    rcases hevents with rfl | ⟨receipt, answer, rfl⟩ <;> cases exchanges <;> simp at hl
  | reconciled => cases exchanges <;> simp at hl
  | stale ok _ _ _ hkind =>
    obtain rfl : l = ledger.retain _ _ := by
      cases exchanges <;> simp at hl
      exact hl.1
    refine insert_restorable h ?_
    rintro _ ⟨⟩
    exact hkind
  | undispatched | stranded =>
    obtain rfl : l = (ledger.setGeneration _).begin _ := by
      rcases exchanges with _ | _ | _ <;> simp at hl
      all_goals exact hl.1
    exact insert_restorable (hset _) (by simp)
  | dispatched answer generation ok _ _ _ _ _ hstored hkind =>
    match exchanges with
    | 0 => simp at hl
    | 1 | 2 =>
      simp only [List.take_succ_cons, List.take_zero, List.mem_cons, Event.checkpoint.injEq,
        reduceCtorEq, List.not_mem_nil, or_false] at hl
      rw [hl.1]
      exact insert_restorable (hset _) (by simp)
    | n + 3 =>
      simp only [List.take_succ_cons, List.take_nil, List.mem_cons, Event.checkpoint.injEq,
        reduceCtorEq, List.not_mem_nil, or_false, false_or] at hl
      rcases hl with ⟨rfl, -⟩ | ⟨rfl, -⟩
      · exact insert_restorable (hset _) (by simp)
      · exact insert_restorable (hset _) (kind_of_dispatch hanswered (by simp) hstored hkind)

/-- A restart leaves start responses only. -/
lemma restarted_restorable {d : Deployment} {ledger : Ledger} (h : ledger.Of d)
    (hkinds : ledger.Restorable) : (d.restarted ledger).Restorable := by
  intro id operation hrow r hr
  rw [restarted_row, Option.map_eq_some_iff] at hrow
  obtain ⟨before, hbefore, rfl⟩ := hrow
  have hret := h.valid.rows id before hbefore
  by_cases hopen : ∀ r ∈ before.result, r.status = some .accepted
  · obtain ⟨q, -, hrestarted, -, hkind, -⟩ := restarted_of_unresolved hret hopen
    rw [hrestarted] at hr
    cases hr
    exact hkind
  · push Not at hopen
    obtain ⟨q, hq, hne⟩ := hopen
    rw [restarted_of_resolved hq hne] at hr
    exact hkinds id before hbefore r hr

/-! ### Whole runs -/

/-- **One step** of a run answered in kind leaves restorable states. -/
lemma restorable_rule (d : Deployment) :
    d.service.History (Ledger.Of d) (fun events ledger => AnsweredInKind events → ledger.Restorable)
      (fun _ _ => True) where
  mono := fun history more _ h hanswered =>
    h (hanswered.mono (List.subset_append_left history more))
  recordMono := fun _ _ _ _ => trivial
  fresh := by
    intro c _ id operation hrow
    simp [Deployment.service, Deployment.fresh] at hrow
  returned := by
    intro history ledger env call h hkinds o
    refine ⟨fun hanswered => ?_, trivial⟩
    exact performed_restorable (hkinds (hanswered.mono (List.subset_append_left _ _)))
      (perform_cases h.valid env call) (hanswered.mono (List.subset_append_right _ _))
  handed := by
    intro history ledger env call exchanges h hkinds events
    refine ⟨fun l hl hanswered => ?_, trivial⟩
    obtain ⟨saved, hl⟩ := mem_handed.mp hl
    exact presented_restorable (hkinds (hanswered.mono (List.subset_append_left _ _)))
      (perform_cases h.valid env call) exchanges
      (hanswered.mono (List.subset_append_right _ _)) hl
  restored := by
    intro history c ledger restored h hkinds hrestored hanswered
    rw [restored_eq h hrestored]
    exact restarted_restorable h (hkinds hanswered)

/-- A state is restored, with the same rows, on every fresh ledger of the
deployment that is not ahead of it. -/
def Deployment.Restarts (d : Deployment) (ledger : Ledger) : Prop :=
  ∀ c : Construction, c.1 ≤ ledger.binding.generation →
    ∃ restarted, (d.fresh c).restoreState ledger.persistedState = .ok restarted ∧
      RestartEquivalent ledger restarted

/-- **Restart equivalence.**  A state of a run is restored exactly when each of its
results is a start response; and in a run whose accepted answers are all start
responses, every state is. -/
theorem restarts_iff_restorable (d : Deployment) (c : Construction) (steps : List Step) :
    let s := d.run c steps
    (∀ l ∈ s.states, d.Restarts l ↔ l.Restorable) ∧
      (AnsweredInKind s.events → ∀ l ∈ s.states, d.Restarts l) := by
  intro s
  have hof := run_of d c steps
  have hiff : ∀ l ∈ s.states, d.Restarts l ↔ l.Restorable := by
    intro l hl
    constructor
    · intro h
      obtain ⟨restarted, hrestarted, -⟩ :=
        h ⟨l.binding.generation, (hof l hl).valid.generation⟩ le_rfl
      exact restorable_of_restoreState hrestarted
    · exact fun h c hle => ⟨_, restoreState_persistedState (hof l hl) h hle,
        restarted_equivalent (hof l hl)⟩
  refine ⟨hiff, fun hanswered l hl => (hiff l hl).mpr ?_⟩
  exact ((restorable_rule d).run (of_invariant d) c steps).1 l hl hanswered

end Digest

/-! ### A refused restart -/

section Sample

/-- A native context with its digest. -/
def sampleContext : SelectionContext where
  contextId := "context-1"
  gameMode := .standard
  character := .ironclad
  ascension := 0
  modifiers := []
  acts := ["act-1"]
  selectionPolicy := "fixed"
  profileBaseline :=
    { kind := .fresh
      identity := "profile-1"
      digest := "0000000000000000000000000000000000000000000000000000000000000000" }
  savePolicy := .disabled
  compatibility :=
    { game :=
        { identity := "game-1"
          digest := "0000000000000000000000000000000000000000000000000000000000000000" }
      mod :=
        { identity := "mod-1"
          digest := "0000000000000000000000000000000000000000000000000000000000000000" } }
  contextDigest := "ac865629fb1baef238d3d143ec23a585247905b7c42d438deddad8569e92da95"

/-- SHA-256 of the digested members of `sampleContext`. -/
@[reducible] def sampleSha256 : Sha256 where
  digest := fun _ => [172, 134, 86, 41, 251, 27, 174, 242, 56, 211, 209, 67, 236, 35, 165, 133, 36,
    121, 5, 183, 196, 45, 67, 141, 237, 218, 216, 86, 158, 146, 218, 149]

attribute [local instance] sampleSha256

def sampleDeployment : Deployment where
  config := { operationCapacity := 2 }
  instanceId := "instance-1"
  sessionId := "session-1"
  leaseId := "lease-1"
  leaseEpoch := 3
  capacityPositive := by decide
  instanceChecked := by decide +kernel
  sessionChecked := by decide +kernel
  leaseChecked := by decide +kernel
  epochBound := by decide

def sampleIdentity : Context where
  correlationId := "correlation-1"
  instanceId := "instance-1"
  sessionId := "session-1"
  leaseId := "lease-1"
  leaseEpoch := 3
  generation := 7

def sampleRequest : Message :=
  .startRequestWithContext Provenance.default sampleIdentity "operation-1" "SEED" .diagnostic
    sampleContext

/-- The game answers the start with a message of the other response kind. -/
def sampleEnvironment : Environment where
  checkpoint := fun _ _ => true
  forward := fun _ _ => .ok <|
    .resultWithContext Provenance.default sampleIdentity .reconcileResponse "operation-1" "SEED"
      .diagnostic sampleContext .accepted none none none none
  receipt := fun _ _ => .ok none

def sampleRun : System :=
  sampleDeployment.run ⟨0, by decide⟩
    [.call sampleEnvironment (.submitStartWithCheckpoint sampleRequest)]

/-- The answer is accepted and stored, and the state it is stored in is refused. -/
theorem restart_refused : ¬ ∀ l ∈ sampleRun.states, sampleDeployment.Restarts l := by
  intro h
  obtain ⟨restarted, hrestarted, -⟩ := h _ List.mem_cons_self ⟨0, by decide⟩ (Nat.zero_le _)
  have hrefused : ((sampleDeployment.fresh ⟨0, by decide⟩).restoreState
      sampleRun.state.persistedState).toOption.isNone = true := by
    decide +kernel
  rw [hrestarted] at hrefused
  cases hrefused

end Sample

end Sts2Gateway.SeededRun
