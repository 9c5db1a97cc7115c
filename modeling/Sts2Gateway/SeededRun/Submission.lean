/-
What one start leaves in the seeded-run ledger, by the way it ends.

* `Fresh.Current`, `Ledger.begun`: a start that is to be forwarded, and the ledger with it;
* `Submission`: the ends of a start, each with the answers of the outside that lead to it;
* `submission_cases`: **every start ends in one of them**;
* `strands_none_iff`: **when a start leaves an operation without a result**;
* `traceless_iff`: **when a start that was not forwarded leaves no trace**.
-/
import Mathlib
import Sts2Gateway.SeededRun.Dispatch
import Sts2Gateway.SeededRun.Equivalence

namespace Sts2Gateway.SeededRun

open Procedure Exchange OrderedMap Text

/-! ### The ends of a start -/

/-- The ledger with a start that is about to be forwarded. -/
def Ledger.begun (ledger : Ledger) (request : Message) : Ledger :=
  (ledger.adopt request).begin request

/-- The start names the generation of the binding, or one that an empty ledger adopts. -/
def Ledger.Current (ledger : Ledger) (request : Message) : Prop :=
  request.generation = (ledger.adopt request).binding.generation

instance (ledger : Ledger) (request : Message) : Decidable (ledger.Current request) :=
  inferInstanceAs (Decidable (_ = _))

/-- A start behind the generation of the binding is not at it. -/
lemma ne_generation_of_stale {ledger : Ledger} {request : Message}
    (h : ¬ ledger.Current request) : request.generation ≠ ledger.binding.generation := by
  rw [Ledger.Current, adopt_of_stale h] at h
  exact h

section Digest

variable [Sha256]

/-- The answer of the host to a start, when the call comes so far. -/
def Ledger.hostAnswer (ledger : Ledger) (env : Environment) (request : Message) :
    Except TransportFault Message :=
  env.forward [.checkpoint (ledger.begun request) true] request

/-- The ends of a start. -/
inductive Submission (ledger : Ledger) (env : Environment) (request : Message) : Outcome → Prop
  /-- The start is refused or repeated. -/
  | kept (answer : Except LedgerError Message) (hnot : ¬ Fresh ledger request) :
      Submission ledger env request { answer, state := ledger, events := [] }
  /-- The start is behind the binding, and its refusal is kept. -/
  | stale {response : Message} (ok : Bool) (hfresh : Fresh ledger request)
      (hstale : ¬ ledger.Current request)
      (hrejected : rejected request "stale_generation" = .ok response)
      (hok : env.checkpoint [] (ledger.retain request response).persistedState = ok) :
      Submission ledger env request
        { answer := answered ok response, state := ledger.retain request response
          events := [.checkpoint (ledger.retain request response) ok] }
  /-- The checkpoint before the forward fails. -/
  | undispatched (hfresh : Fresh ledger request) (hcurrent : ledger.Current request)
      (hok : env.checkpoint [] (ledger.begun request).persistedState = false) :
      Submission ledger env request
        { answer := .error .persistenceFailed, state := ledger.setGeneration request.generation
          events := [.checkpoint (ledger.begun request) false] }
  /-- The host answers what is not accepted. -/
  | stranded {response : Message} {error : LedgerError} (hfresh : Fresh ledger request)
      (hcurrent : ledger.Current request)
      (hok : env.checkpoint [] (ledger.begun request).persistedState = true)
      (hanswer : ledger.hostAnswer env request = .ok response)
      (hrefused : acceptForwarded request response = .error error) :
      Submission ledger env request
        { answer := .error error, state := ledger.begun request
          events := [.checkpoint (ledger.begun request) true, .forward request (.ok response)] }
  /-- The start has a result. -/
  | settled {result : Message} (answer : Except LedgerError Message) (generation : ℕ) (ok : Bool)
      (hfresh : Fresh ledger request) (hcurrent : ledger.Current request)
      (hok : env.checkpoint [] (ledger.begun request).persistedState = true)
      (hresolved : resolveForwarded request (ledger.hostAnswer env request) = .ok result) :
      Submission ledger env request
        { answer
          state := (ledger.setGeneration generation).retain request result
          events := [.checkpoint (ledger.begun request) true,
            .forward request (ledger.hostAnswer env request),
            .checkpoint ((ledger.setGeneration generation).retain request result) ok] }

section Ends

variable {ledger : Ledger} {env : Environment} {request : Message}

/-- A check before the ledger is read. -/
lemma submission_check {α : Type} {x : Except LedgerError α} {f : α → LedgerM Message}
    (hnot : (∀ a, x ≠ .ok a) → ¬ Fresh ledger request)
    (h : ∀ a, x = .ok a → Submission ledger env request (outcome (f a) ledger)) :
    Submission ledger env request (outcome (liftM x >>= f) ledger) := by
  rw [outcome_liftM_bind]
  cases x with
  | ok a => exact h a rfl
  | error e => exact .kept _ (hnot fun _ hok => nomatch hok)

lemma rejectStale_submission (hfresh : Fresh ledger request) (hstale : ¬ ledger.Current request) :
    Submission ledger env request (outcome (rejectStale env request) ledger) := by
  obtain ⟨r, hr, -⟩ := ownResult_spec hfresh.admitted (.inl rfl) staleGeneration_checked
  have hrejected : rejected request "stale_generation" = .ok r := hr
  have hend := Submission.stale _ hfresh hstale hrejected (rfl : env.checkpoint []
    (ledger.retain request r).persistedState = _)
  rw [rejectStale, hrejected, outcome_liftM_bind]
  cases hok : env.checkpoint [] (ledger.retain request r).persistedState with
  | true => simpa [outcome, hok, answered] using hend
  | false => simpa [outcome, hok, answered] using hend

lemma dispatch_submission (hfresh : Fresh ledger request) (hcurrent : ledger.Current request) :
    Submission ledger env request (outcome (dispatch env request) (ledger.adopt request)) := by
  obtain ⟨hadopt, hle⟩ := adopt_of_current hcurrent
  have hgen : (ledger.adopt request).binding.generation ≤ maxGeneration := by
    rw [← hcurrent]
    exact (validate_eq_ok.mp hfresh.admitted.valid).generation
  have habsent : (ledger.adopt request).operations[request.operationId]? = none := by
    rw [hadopt]
    exact hfresh.absent
  have hbegun : (ledger.adopt request).begin request = ledger.begun request := rfl
  cases hok : env.checkpoint [] (ledger.begun request).persistedState with
  | false =>
    have hremoved : (ledger.begun request).remove request.operationId =
        ledger.setGeneration request.generation := by
      rw [Ledger.begun, Ledger.remove_begin habsent, hadopt]
    simpa [outcome, dispatch, hbegun, hok, hremoved] using
      Submission.undispatched hfresh hcurrent hok
  | true =>
    generalize hanswer : ledger.hostAnswer env request = answer
    have hforward : env.forward [.checkpoint (ledger.begun request) true] request = answer :=
      hanswer
    obtain ⟨result, hresolved, haccepted, -⟩ | ⟨response, error, rfl, hresolved, hrefused⟩ :=
      resolveForwarded_cases hfresh.admitted answer
    · obtain ⟨generation, hadvance, -⟩ :=
        advanceGeneration_spec ((ledger.adopt request).retain request result) hgen haccepted
      have hsettled : ((ledger.begun request).setResult request.operationId
          result).advanceGeneration result =
            (ledger.setGeneration generation).retain request result := by
        rw [Ledger.begun, Ledger.settle_begin, hadvance, hadopt]
        rfl
      subst hanswer
      have hend := fun answer ok =>
        Submission.settled answer generation ok hfresh hcurrent hok hresolved
      cases hok2 : env.checkpoint [.checkpoint (ledger.begun request) true,
          .forward request (ledger.hostAnswer env request)]
          ((ledger.setGeneration generation).retain request result).persistedState with
      | true =>
        simpa [outcome, dispatch, hbegun, hok, hforward, hresolved, hsettled, hok2] using
          hend (.ok result) true
      | false =>
        simpa [outcome, dispatch, hbegun, hok, hforward, hresolved, hsettled, hok2] using
          hend (.error .persistenceFailed) false
    · simpa [outcome, dispatch, hbegun, hok, hforward, hresolved] using
        Submission.stranded hfresh hcurrent hok hanswer hrefused

end Ends

/-- **The ends of a start.** -/
theorem submission_cases (ledger : Ledger) (env : Environment) (request : Message) :
    Submission ledger env request (ledger.perform env (.submitStartWithCheckpoint request)) := by
  rw [Ledger.perform, Call.run, submitStartWithCheckpoint]
  refine submission_check (fun hnot hfresh => hnot () ?_) fun _ hvalid => ?_
  · rw [hfresh.admitted.valid]
    rfl
  refine submission_check (fun hnot hfresh => hnot () ?_) fun _ hkind => ?_
  · rw [refuse_eq_ok, not_not]
    exact hfresh.admitted.kind
  rw [outcome_getState_bind]
  refine submission_check (fun hnot hfresh => hnot () ?_) fun _ hbinding => ?_
  · rw [Ledger.validateBinding, refuse_eq_ok, not_not]
    exact hfresh.admitted.binding
  rw [mapError_eq_ok] at hvalid
  rw [refuse_eq_ok, not_not] at hkind
  rw [Ledger.validateBinding, refuse_eq_ok, not_not] at hbinding
  cases hrow : ledger.operations[request.operationId]? with
  | some existing =>
    dsimp only
    rw [outcome_liftM]
    refine .kept _ fun hfresh => ?_
    rw [hfresh.absent] at hrow
    cases hrow
  | none =>
    dsimp only
    split_ifs with hfull hstale
    · exact .kept _ fun hfresh => absurd hfresh.room (not_lt.mpr hfull)
    · -- a stale start adopted nothing
      have hfresh : Fresh ledger request := ⟨⟨hvalid, hkind, hbinding⟩, hrow, not_le.mp hfull⟩
      have hend : Submission ledger env request _ := rejectStale_submission hfresh hstale
      simpa [outcome, adopt_of_stale hstale] using hend
    · have hfresh : Fresh ledger request := ⟨⟨hvalid, hkind, hbinding⟩, hrow, not_le.mp hfull⟩
      have hend : Submission ledger env request _ :=
        dispatch_submission hfresh (not_not.mp hstale)
      simpa [outcome] using hend

/-! ### Stranded operations -/

/-- Every retained operation has a result. -/
def NoneStranded (ledger : Ledger) : Prop :=
  ∀ (id : String) operation, ledger.operations[id]? = some operation → operation.result.isSome = true

/-- The host does not answer this start with a message that is not accepted. -/
def AnswersInForm (ledger : Ledger) (env : Environment) (request : Message) : Prop :=
  Fresh ledger request → ledger.Current request →
    env.checkpoint [] (ledger.begun request).persistedState = true →
    ∀ response, ledger.hostAnswer env request = .ok response →
      (acceptForwarded request response).isOk = true

omit [Sha256] in
lemma noneStranded_setGeneration {ledger : Ledger} {generation : ℕ} :
    NoneStranded (ledger.setGeneration generation) ↔ NoneStranded ledger := Iff.rfl

omit [Sha256] in
/-- A retained result strands nothing, and frees nothing that is there. -/
lemma noneStranded_retain {ledger : Ledger} {request result : Message}
    (habsent : ledger.operations[request.operationId]? = none) :
    NoneStranded (ledger.retain request result) ↔ NoneStranded ledger := by
  have hrow : ∀ id : String, (ledger.retain request result).operations[id]? =
      if id = request.operationId then some (.retained request (some result))
      else ledger.operations[id]? := by
    intro id
    rw [Ledger.retain, getElem?_insert_if]
    simp only [eq_comm]
  constructor
  · intro h id operation hold
    have hne : id ≠ request.operationId := by
      rintro rfl
      rw [habsent] at hold
      cases hold
    refine h id operation ?_
    rw [hrow, if_neg hne]
    exact hold
  · intro h id operation hnew
    rw [hrow] at hnew
    split_ifs at hnew with hid
    · obtain rfl := Option.some.inj hnew
      rfl
    · exact h id operation hnew

omit [Sha256] in
/-- An operation that is begun has no result. -/
lemma not_noneStranded_begin (ledger : Ledger) (request : Message) :
    ¬ NoneStranded (ledger.begin request) := by
  intro h
  have hbegun : (ledger.begin request).operations[request.operationId]? =
      some (.retained request none) := by
    rw [Ledger.begin, getElem?_insert_if, if_pos rfl]
  have hresult := h _ _ hbegun
  cases hresult

omit [Sha256] in
/-- A check that does not say that an operation is in progress. -/
lemma not_in_progress_check {ledger : Ledger} {α : Type} {x : Except LedgerError α}
    {f : α → LedgerM Message} (hx : x ≠ .error .operationInProgress)
    (h : ∀ a, x = .ok a → (outcome (f a) ledger).answer ≠ .error .operationInProgress) :
    (outcome (liftM x >>= f) ledger).answer ≠ .error .operationInProgress := by
  rw [outcome_liftM_bind]
  cases x with
  | ok a => exact h a rfl
  | error e => exact fun he => hx (congrArg Except.error (Except.error.inj he))

omit [Sha256] in
lemma refuse_ne_in_progress {p : Prop} [Decidable p] {e : LedgerError}
    (he : e ≠ .operationInProgress) : refuse p e ≠ .error .operationInProgress := by
  unfold refuse
  split_ifs
  · exact fun h => he (Except.error.inj h)
  · exact fun h => nomatch h

lemma validate_ne_in_progress (request : Message) :
    (request.validate.mapError fun _ => LedgerError.invalidRequest) ≠
      .error .operationInProgress := by
  cases request.validate <;> exact fun h => nomatch h

/-- A retained operation that has a result is repeated, not said to be in progress. -/
lemma replay_not_in_progress {ledger : Ledger} (h : NoneStranded ledger) (env : Environment)
    {request : Message} (hrow : ledger.operations[request.operationId]? ≠ none) :
    (ledger.perform env (.submitStartWithCheckpoint request)).answer ≠
      .error .operationInProgress := by
  obtain ⟨operation, hoperation⟩ := Option.ne_none_iff_exists'.mp hrow
  obtain ⟨result, hresult⟩ := Option.isSome_iff_exists.mp (h _ _ hoperation)
  rw [Ledger.perform, Call.run, submitStartWithCheckpoint]
  refine not_in_progress_check (validate_ne_in_progress request) fun _ _ => ?_
  refine not_in_progress_check (refuse_ne_in_progress (by decide)) fun _ _ => ?_
  rw [outcome_getState_bind]
  refine not_in_progress_check (refuse_ne_in_progress (by decide)) fun _ _ => ?_
  rw [hoperation]
  dsimp only
  rw [outcome_liftM, replayOrConflict, hresult]
  have hconflict : refuse (operation.requestDigest ≠ request.canonicalRequest)
      LedgerError.operationConflict ≠ .error .operationInProgress :=
    refuse_ne_in_progress (by decide)
  cases hrefused : refuse (operation.requestDigest ≠ request.canonicalRequest)
      LedgerError.operationConflict with
  | ok _ => rintro ⟨⟩
  | error e =>
    rw [hrefused] at hconflict
    exact fun he => hconflict (congrArg Except.error (Except.error.inj he))

lemma reconcile_not_in_progress {ledger : Ledger} (h : NoneStranded ledger) (env : Environment)
    {request : Message} (hrow : ledger.operations[request.operationId]? ≠ none) :
    (ledger.perform env (.reconcile request)).answer ≠ .error .operationInProgress := by
  obtain ⟨operation, hoperation⟩ := Option.ne_none_iff_exists'.mp hrow
  obtain ⟨result, hresult⟩ := Option.isSome_iff_exists.mp (h _ _ hoperation)
  rw [Ledger.perform, Call.run, reconcile]
  refine not_in_progress_check (validate_ne_in_progress request) fun _ _ => ?_
  refine not_in_progress_check (refuse_ne_in_progress (by decide)) fun _ _ => ?_
  rw [outcome_getState_bind]
  refine not_in_progress_check (refuse_ne_in_progress (by decide)) fun _ _ => ?_
  refine not_in_progress_check (refuse_ne_in_progress (by decide)) fun _ _ => ?_
  rw [hoperation]
  dsimp only
  rw [hresult]
  dsimp only
  split_ifs
  · rintro ⟨⟩
  · generalize hlookup : (⟨request, request.operationId⟩ : ReceiptRequest) = lookup
    cases hanswer : env.receipt [] lookup with
    | error fault => simp [outcome, hanswer]
    | ok receipt =>
      cases receipt with
      | none => simp [outcome, hanswer]
      | some receipt =>
        cases haccept : acceptReceipt operation.request request receipt with
        | error e => simp [outcome, hanswer, haccept]
        | ok accepted => simp [outcome, hanswer, haccept]

/-- Each retained operation has a result, and none is said to be in progress. -/
structure Answerable (ledger : Ledger) : Prop where
  results : NoneStranded ledger
  replays : ∀ env (request : Message), ledger.operations[request.operationId]? ≠ none →
    (ledger.perform env (.submitStartWithCheckpoint request)).answer ≠ .error .operationInProgress
  reconciles : ∀ env (request : Message), ledger.operations[request.operationId]? ≠ none →
    (ledger.perform env (.reconcile request)).answer ≠ .error .operationInProgress

lemma answerable_iff {ledger : Ledger} : Answerable ledger ↔ NoneStranded ledger :=
  ⟨(·.results), fun h =>
    ⟨h, fun env _ => replay_not_in_progress h env, fun env _ => reconcile_not_in_progress h env⟩⟩

/-- **Stranded operations.**  A start leaves each retained operation with a result exactly when
each had one before, and the host does not answer it with what is not accepted. -/
theorem strands_none_iff (ledger : Ledger) (env : Environment) (request : Message) :
    Answerable (ledger.perform env (.submitStartWithCheckpoint request)).state ↔
      NoneStranded ledger ∧ AnswersInForm ledger env request := by
  rw [answerable_iff]
  have hcases := submission_cases ledger env request
  generalize ledger.perform env (.submitStartWithCheckpoint request) = o at hcases
  cases hcases with
  | kept answer hnot => exact (and_iff_left fun hfresh => absurd hfresh hnot).symm
  | stale ok hfresh hstale hrejected hok =>
    rw [noneStranded_retain hfresh.absent]
    exact (and_iff_left fun _ hcurrent => absurd hcurrent hstale).symm
  | undispatched hfresh hcurrent hok =>
    rw [noneStranded_setGeneration]
    refine (and_iff_left fun _ _ hok' => ?_).symm
    rw [hok] at hok'
    cases hok'
  | stranded hfresh hcurrent hok hanswer hrefused =>
    refine iff_of_false (not_noneStranded_begin _ request) fun hboth => ?_
    have haccepted := hboth.2 hfresh hcurrent hok _ hanswer
    rw [hrefused] at haccepted
    cases haccepted
  | @settled result answer generation ok hfresh hcurrent hok hresolved =>
    have habsent : (ledger.setGeneration generation).operations[request.operationId]? = none :=
      hfresh.absent
    rw [noneStranded_retain habsent, noneStranded_setGeneration]
    refine (and_iff_left fun _ _ _ response hresponse => ?_).symm
    rw [hresponse] at hresolved
    rw [show acceptForwarded request response = .ok result from hresolved]
    rfl

end Digest

section Sample

attribute [local instance] sampleSha256

/-- A ledger without operations. -/
def sampleLedger : Ledger := sampleDeployment.fresh ⟨0, Nat.zero_le _⟩

/-- A host that sends a start back as it came. -/
def echo : Environment where
  checkpoint := fun _ _ => true
  forward := fun _ request => .ok request
  receipt := fun _ _ => .ok none

/-- The echo of a start is no response, and the start is left without a result. -/
theorem echoed_start_stranded :
    NoneStranded sampleLedger ∧
      ¬ Answerable (sampleLedger.perform echo (.submitStartWithCheckpoint sampleRequest)).state := by
  refine ⟨fun id operation hrow => ?_, fun h => ?_⟩
  · have hempty : sampleLedger.operations = ∅ := rfl
    rw [hempty, Std.ExtTreeMap.getElem?_empty] at hrow
    cases hrow
  · have hresult : (((sampleLedger.perform echo
        (.submitStartWithCheckpoint sampleRequest)).state.operations["operation-1"]?).any
          (·.result.isNone)) = true := by
      decide +kernel
    obtain ⟨operation, hrow, hnone⟩ := (Option.any_eq_true _ _).mp hresult
    have hsome := h.results _ _ hrow
    rw [Option.isNone_iff_eq_none.mp hnone] at hsome
    cases hsome

end Sample

/-! ### Starts that leave no trace -/

section Traces

variable [Sha256]

/-- A start that fails and is not forwarded leaves the binding and the operations as they
were. -/
def Traceless (ledger : Ledger) (o : Outcome) : Prop :=
  (∃ error, o.answer = .error error) → (∀ request answer, Event.forward request answer ∉ o.events) →
    o.state.binding = ledger.binding ∧ o.state.operations = ledger.operations

/-- The ledger that is handed to the first checkpoint of a start. -/
def Ledger.firstPresented (ledger : Ledger) (request : Message) : Ledger :=
  if ledger.Current request then ledger.begun request
  else
    match rejected request "stale_generation" with
    | .ok response => ledger.retain request response
    | .error _ => ledger

/-- The start comes to its first checkpoint, which fails, and names another generation than
that of the binding. -/
structure Residue (ledger : Ledger) (env : Environment) (request : Message) : Prop where
  fresh : Fresh ledger request
  generation : request.generation ≠ ledger.binding.generation
  checkpoint : env.checkpoint [] (ledger.firstPresented request).persistedState = false

omit [Sha256] in
/-- A retained row is new. -/
lemma retain_ne {ledger : Ledger} {request result : Message}
    (habsent : ledger.operations[request.operationId]? = none) :
    (ledger.retain request result).operations ≠ ledger.operations := by
  intro hsame
  have hself := retain_self ledger request result
  rw [hsame] at hself
  exact hself habsent

/-- **Starts without a trace.**  A start that fails without being forwarded leaves no trace,
unless its first checkpoint fails and it names another generation than the binding. -/
theorem traceless_iff (ledger : Ledger) (env : Environment) (request : Message) :
    Traceless ledger (ledger.perform env (.submitStartWithCheckpoint request)) ↔
      ¬ Residue ledger env request := by
  have hcases := submission_cases ledger env request
  generalize ledger.perform env (.submitStartWithCheckpoint request) = o at hcases
  have hforwarded : ∀ {o : Outcome} {answer}, Event.forward request answer ∈ o.events →
      Traceless ledger o := fun hmem _ hnone => absurd hmem (hnone _ _)
  cases hcases with
  | kept answer hnot =>
    exact iff_of_true (fun _ _ => ⟨rfl, rfl⟩) fun hresidue => hnot hresidue.fresh
  | @stale response ok hfresh hstale hrejected hok =>
    have hpresented : ledger.firstPresented request = ledger.retain request response := by
      rw [Ledger.firstPresented, if_neg hstale, hrejected]
    cases ok with
    | true =>
      refine iff_of_true (fun hfailed => ?_) fun hresidue => ?_
      · obtain ⟨error, herror⟩ := hfailed
        cases herror
      · have hcheckpoint := hresidue.checkpoint
        rw [hpresented, hok] at hcheckpoint
        cases hcheckpoint
    | false =>
      refine iff_of_false (fun htrace => ?_) (not_not.mpr
        ⟨hfresh, ne_generation_of_stale hstale, by rw [hpresented, hok]⟩)
      have hkept := htrace ⟨_, rfl⟩ fun _ _ hmem => by simp at hmem
      exact retain_ne hfresh.absent hkept.2
  | undispatched hfresh hcurrent hok =>
    have hpresented : ledger.firstPresented request = ledger.begun request := if_pos hcurrent
    constructor
    · intro htrace hresidue
      have hkept := htrace ⟨_, rfl⟩ fun _ _ hmem => by simp at hmem
      exact hresidue.generation (congrArg Binding.generation hkept.1)
    · intro hnone _ _
      have hsame : request.generation = ledger.binding.generation := by
        by_contra hne
        exact hnone ⟨hfresh, hne, by rw [hpresented, hok]⟩
      refine ⟨?_, rfl⟩
      change { ledger.binding with generation := request.generation } = ledger.binding
      rw [hsame]
  | stranded hfresh hcurrent hok hanswer hrefused =>
    have hpresented : ledger.firstPresented request = ledger.begun request := if_pos hcurrent
    refine iff_of_true (hforwarded (List.mem_cons_of_mem _ List.mem_cons_self)) fun hresidue => ?_
    have hcheckpoint := hresidue.checkpoint
    rw [hpresented, hok] at hcheckpoint
    cases hcheckpoint
  | settled answer generation ok hfresh hcurrent hok hresolved =>
    have hpresented : ledger.firstPresented request = ledger.begun request := if_pos hcurrent
    refine iff_of_true (hforwarded (List.mem_cons_of_mem _ List.mem_cons_self)) fun hresidue => ?_
    have hcheckpoint := hresidue.checkpoint
    rw [hpresented, hok] at hcheckpoint
    cases hcheckpoint

end Traces

section Sample

attribute [local instance] sampleSha256

/-- A store that takes no checkpoint. -/
def unwritable : Environment where
  checkpoint := fun _ _ => false
  forward := fun _ _ => .error .unavailableBeforeWrite
  receipt := fun _ _ => .ok none

/-- A start that nobody has seen moves the binding to its generation. -/
theorem unwritten_start_leaves_a_trace :
    ¬ Traceless sampleLedger
      (sampleLedger.perform unwritable (.submitStartWithCheckpoint sampleRequest)) := by
  intro h
  have hfailed : (sampleLedger.perform unwritable
      (.submitStartWithCheckpoint sampleRequest)).answer.isOk = false := by
    decide +kernel
  have hunforwarded : (sampleLedger.perform unwritable
      (.submitStartWithCheckpoint sampleRequest)).events.filterMap forwardedId = [] := by
    decide +kernel
  have hmoved : (sampleLedger.perform unwritable
      (.submitStartWithCheckpoint sampleRequest)).state.binding ≠ sampleLedger.binding := by
    decide +kernel
  refine hmoved (h ?_ fun request answer hmem => ?_).1
  · cases hanswer : (sampleLedger.perform unwritable
        (.submitStartWithCheckpoint sampleRequest)).answer with
    | error error => exact ⟨error, rfl⟩
    | ok result =>
      rw [hanswer] at hfailed
      cases hfailed
  · have hid : request.operationId ∈ (sampleLedger.perform unwritable
        (.submitStartWithCheckpoint sampleRequest)).events.filterMap forwardedId :=
      List.mem_filterMap.mpr ⟨_, hmem, rfl⟩
    rw [hunforwarded] at hid
    cases hid

end Sample

end Sts2Gateway.SeededRun
