/-
Lookups for which the host gives no evidence (`service_recovery_ops_core.rs`,
`service_recovery_ops_persistence.rs`).

* `lookupEvidence`: what a lookup makes of the answer of the host;
* `HostRequest`, `RuntimeService.serveAll`: later dispatches, lookups and reconciliations;
* `LeavesNoMark`: no later answer of the host shows that the lookup was made;
* `failed_lookup_marks`: **a failed lookup leaves no mark** exactly on an operation that is
  already uncertain, or can no longer change.
-/
import Mathlib.Tactic
import Sts2Gateway.Library.Machine
import Sts2Gateway.Recovery.Outcomes
import Sts2Gateway.Service.Twins

namespace Sts2Gateway.Service

open CompactJson Crash Exchange Machine Procedure Recovery Text

/-! ### Failed lookups -/

/-- What a lookup makes of the answer to its frame.  An answer that is no evidence is
`none`; an operation that the host does not know has none either, but is an answer. -/
def lookupEvidence (operation : RecoveryOperation) (frame : Json) (answer : ControlAnswer) :
    Option (Option HostOperationEvidence) := do
  let response ← answer.toOption
  let value ← (RecoveryFrame.parseResponseFrame response.body .operationLookup).toOption
  guard (value.get "correlation_id" = frame.get "correlation_id")
  guard ((validateHostLookupResponse value operation).isOk)
  if (((value.get "payload").get "result").get "status").asStr = some "NOT_FOUND" then
    return none
  let evidence ← (parseHostEvidence value operation false).toOption
  return some evidence

/-- The operation that the frame of a lookup names. -/
def lookupKey (frame : RecoveryFrame) : Option OperationKey := do
  let reference ← parseOperationRef (frame.payload.get "operation")
  let instanceId ← (reference.originalContext.get "instance_id").asStr
  return (instanceId, reference.operationId)

/-- The host has answered with evidence about an operation, or that it does not know it. -/
def Heard (operation : RecoveryOperation) (events : List Event) : Prop :=
  ∃ service frame answer, .control service frame answer ∈ events ∧
    (lookupEvidence operation frame.value answer).isSome = true

lemma Heard.mono {operation : RecoveryOperation} {events later : List Event}
    (h : Heard operation events) (hsub : events ⊆ later) : Heard operation later := by
  obtain ⟨service, frame, answer, hmem, hevidence⟩ := h
  exact ⟨service, frame, answer, hsub hmem, hevidence⟩

/-- Whether an event is a frame to the host. -/
def Event.isControl : Event → Bool
  | .control _ _ _ => true
  | _ => false

/-- A host that was never asked was not heard. -/
lemma not_heard_of_no_control {operation : RecoveryOperation} {events : List Event}
    (h : events.all (fun event => !event.isControl) = true) : ¬ Heard operation events := by
  rintro ⟨service, frame, answer, hmem, -⟩
  have hcontrol := List.all_eq_true.mp h _ hmem
  cases hcontrol

/-! ### Later answers of the host -/

/-- A request about an operation that goes to the host. -/
inductive HostRequest where
  | dispatch (frame : RecoveryFrame)
  | lookup (frame : RecoveryFrame)
  | reconcile (frame : RecoveryFrame)

section Hash

variable [Sha256]

def Environment.hostRequest (env : Environment) : HostRequest → ServiceM Reply Reply
  | .dispatch frame => env.recoveryOpsDispatch frame
  | .lookup frame => env.recoveryOpsLookup frame
  | .reconcile frame => env.recoveryOpsReconcile frame

/-- A lookup by a service. -/
def Environment.lookup (env : Environment) (service : RuntimeService) (frame : RecoveryFrame) :
    Exchange.Outcome RuntimeService (Except (Halt Reply) Reply) Event :=
  outcome (env.recoveryOpsLookup frame) service

namespace RuntimeService

/-- A service after requests, each with what the outside answers to it. -/
def serveAll (service : RuntimeService) (later : List (Script × HostRequest)) : RuntimeService :=
  Machine.run (fun service (script, request) =>
    (outcome (script.environment.hostRequest request) service).state) service later

/-- The recorded state of an operation. -/
def recordedState (service : RuntimeService) (key : OperationKey) :
    Option RecoveryOperationState :=
  (service.recovery.selectOperation key).map (·.state)

end RuntimeService

/-- The operation is recorded in the same state now and after any later requests, as by the
service that has not made the lookup, but read the clock. -/
def LeavesNoMark (service after : RuntimeService) (key : OperationKey) : Prop :=
  ∀ later, (after.serveAll later).recordedState key =
    ((service.withNow after.recoveryClock.lastNowMillis).serveAll later).recordedState key

/-- A lookup of an operation that the store retains, to which the host gives no evidence. -/
structure FailedLookup (env : Environment) (service : RuntimeService) (frame : RecoveryFrame)
    (operation : RecoveryOperation) : Prop where
  names : lookupKey frame = some operation.key
  retained : service.recovery.selectOperation operation.key = some operation
  silent : ¬ Heard operation (env.lookup service frame).events

end Hash

/-- An operation that a failed lookup cannot change. -/
def Unmarked (operation : RecoveryOperation) : Prop :=
  operation.state = .unknown ∨ Environment.isTerminal operation.state = true

/-! ### What a lookup leaves -/

/-- The service with another reading of the clock. -/
def Untouched (service after : RuntimeService) : Prop :=
  ∃ nowMillis, after = service.withNow nowMillis

/-- What a lookup leaves: evidence has come, or nothing was written, or the operation is
recorded as uncertain, and then no error is returned. -/
inductive Left (service : RuntimeService) (operation : RecoveryOperation) :
    Except (Halt Reply) Reply → CallState RuntimeService Event → Prop where
  | heard {r t} (heard : Heard operation t.events) : Left service operation r t
  | halted {halt t} (untouched : Untouched service t.state) :
      Left service operation (.error halt) t
  | final {r t} (untouched : Untouched service t.state)
      (terminal : Environment.isTerminal operation.state = true) : Left service operation r t
  | recorded {r t} {nowMillis clock : ℕ} {stored : RecoveryOperation}
      {after : GatewayRecoveryStore}
      (outcome : service.recovery.recordOutcome (Environment.unknownReport operation nowMillis) =
        .ok (stored, after))
      (state : t.state = (service.withNow clock).withStore after)
      (returned : ∀ error, r ≠ .error (.raised error)) : Left service operation r t

section Steps

variable {ε α : Type} (env : Environment) {s : CallState RuntimeService Event}

lemma after_recoveryNowMillis {P : Except (Halt ε) ℕ → CallState RuntimeService Event → Prop}
    (hcrashed : ∀ events, s.events ⊆ events → P (.error .crashed) { s with events })
    (h : ∀ nowMillis events, s.events ⊆ events →
      P (.ok nowMillis) ⟨s.state.withNow nowMillis, events⟩) :
    After env.recoveryNowMillis s P := by
  rw [Environment.recoveryNowMillis, after_bind]
  refine after_interact (hcrashed _ (List.Subset.refl _)) ?_
  dsimp only
  rw [after_bind]
  refine after_interact (hcrashed _ (List.subset_append_left _ _)) ?_
  refine h _ _ ?_
  rw [List.append_assoc]
  exact List.subset_append_left _ _

/-- A call of the store fails and leaves it as it is, or goes through. -/
lemma after_transact {call : Call}
    {run : GatewayRecoveryStore → Except RecoveryStoreError (α × GatewayRecoveryStore)}
    {P : Except (Halt RecoveryStoreError) α → CallState RuntimeService Event → Prop}
    (hcall : ∀ (fault : StoreFault) store, fault.leaves store call = store)
    (hcrashed : P (.error .crashed) s)
    (hraised : ∀ e events, s.events ⊆ events → P (.error (.raised e)) { s with events })
    (hok : ∀ a after events, s.events ⊆ events → run s.state.recovery = .ok (a, after) →
      P (.ok a) ⟨s.state.withStore after, events⟩) :
    After (env.transact call fun store => commit store (run store)) s P := by
  unfold After Environment.transact
  simp only [EStateM.run]
  cases env.crashes s.events with
  | true => exact hcrashed
  | false =>
    simp only [Bool.false_eq_true, if_false]
    cases env.fault s.events with
    | some fault =>
      simp only [hcall]
      exact hraised _ _ (List.subset_append_left _ _)
    | none =>
      dsimp only [commit]
      cases hrun : run s.state.recovery with
      | error e => exact hraised e _ (List.subset_append_left _ _)
      | ok answer =>
        obtain ⟨a, after⟩ := answer
        exact hok a after _ (List.subset_append_left _ _) hrun

lemma after_readStore {query : GatewayRecoveryStore → Except RecoveryStoreError α}
    {P : Except (Halt RecoveryStoreError) α → CallState RuntimeService Event → Prop}
    (hcrashed : P (.error .crashed) s)
    (hraised : ∀ e events, s.events ⊆ events → P (.error (.raised e)) { s with events })
    (hok : ∀ a events, s.events ⊆ events → query s.state.recovery = .ok a →
      P (.ok a) { s with events }) :
    After (env.readStore query) s P := by
  rw [Environment.readStore, after_bind]
  refine after_interact hcrashed ?_
  cases env.fault s.events with
  | some fault => exact hraised _ _ (List.subset_append_left _ _)
  | none =>
    dsimp only
    cases hquery : query s.state.recovery with
    | error e => exact hraised e _ (List.subset_append_left _ _)
    | ok a => exact hok a _ (List.subset_append_left _ _) hquery

/-- A reply that shows an operation. -/
lemma after_shows {operation : RecoveryOperation} {reply : Json → α}
    {P : Except (Halt ε) α → CallState RuntimeService Event → Prop}
    (hcrashed : P (.error .crashed) s)
    (hok : ∀ a events, s.events ⊆ events → P (.ok a) { s with events }) :
    After (env.recoveryOperationValue operation >>= fun value => pure (reply value)) s P := by
  rw [after_bind, Environment.recoveryOperationValue, after_bind, Environment.readStoreOk,
    after_bind]
  refine after_attempt (after_readStore env hcrashed (fun e events hevents => ?_)
    fun a events hevents _ => ?_)
  · exact hok _ _ hevents
  · exact hok _ _ hevents

end Steps

/-! ### What a lookup leaves behind -/

section Walk

variable {env : Environment} {service : RuntimeService} {operation : RecoveryOperation}
  {s : CallState RuntimeService Event}

/-- Without evidence, the operation is recorded as uncertain or nothing is written. -/
lemma recoveryOpsUnknown_left (hs : Untouched service s.state) (kind : RecoveryKind)
    (correlation : String) (status : UInt16) :
    After (env.recoveryOpsUnknown kind operation correlation status) s
      (Left service operation) := by
  obtain ⟨clock, hstate⟩ := hs
  rw [Environment.recoveryOpsUnknown, after_bind]
  refine after_recoveryNowMillis env (fun _ _ => .halted ⟨clock, hstate⟩)
    fun nowMillis events _ => ?_
  dsimp only
  have hnow : Untouched service (s.state.withNow nowMillis) := ⟨nowMillis, by rw [hstate]; rfl⟩
  have hstore : (s.state.withNow nowMillis).recovery = service.recovery := by
    rw [hstate]
    rfl
  rw [after_bind]
  refine after_attempt (after_transact env (fun _ _ => rfl) (.halted hnow) (fun e events _ => ?_)
    fun stored after events _ hrecord => ?_)
  · dsimp only
    split_ifs with hterminal
    · rw [pure_bind]
      exact after_shows env (.halted hnow) fun _ _ _ => .final hnow hterminal
    · exact .halted hnow
  · rw [hstore] at hrecord
    have hwritten : (s.state.withNow nowMillis).withStore after =
        (service.withNow nowMillis).withStore after := by
      rw [hstate]
      rfl
    dsimp only
    rw [pure_bind]
    refine after_shows env ?_ fun _ _ _ => ?_
    · exact .recorded hrecord hwritten fun _ h => nomatch h
    · exact .recorded hrecord hwritten fun _ h => nomatch h

/-- One frame to the host: the answer is logged with the frame that it is read against. -/
lemma forwardRecoveryControlResponse_after {kind : RecoveryKind} {correlation : String}
    {proof : Option String} {payload : Json}
    {P : Except (Halt UInt16) (UInt16 × Json) → CallState RuntimeService Event → Prop}
    (hcrashed : ∀ events, P (.error .crashed) { s with events })
    (hraised : ∀ status events, P (.error (.raised status)) { s with events })
    (hok : ∀ status value events asked frame response,
      .control asked (.recovery kind frame) (.ok response) ∈ events →
      RecoveryFrame.parseResponseFrame response.body kind = .ok value →
      value.get "correlation_id" = frame.get "correlation_id" →
        P (.ok (status, value)) { s with events }) :
    After (env.forwardRecoveryControlResponse kind correlation proof payload) s P := by
  rw [Environment.forwardRecoveryControlResponse, after_bind, Environment.forwardFrame,
    after_bind, after_getState]
  dsimp only
  rw [after_bind]
  refine after_interact (hcrashed _) ?_
  dsimp only
  rw [after_bind]
  refine after_interact (hcrashed _) ?_
  dsimp only
  rw [after_bind]
  refine after_interact (hcrashed _) ?_
  dsimp only
  rw [after_pure]
  dsimp only
  rw [after_bind]
  refine after_check (fun response hresponse => ?_) fun e _ => hraised e _
  rw [mapError_eq_ok] at hresponse
  dsimp only
  rw [after_bind]
  refine after_check (fun value hvalue => ?_) fun e _ => hraised e _
  rw [mapError_eq_ok] at hvalue
  dsimp only
  rw [after_bind]
  refine after_check (fun _ hcorrelation => ?_) fun e _ => hraised e _
  rw [refuse_eq_ok, not_not] at hcorrelation
  refine hok _ value _ s.state _ response (List.mem_append_right _ ?_) hvalue hcorrelation
  rw [hresponse]
  exact List.mem_singleton_self _

/-- The evidence of the host, recorded or not, has been heard. -/
lemma persistHostEvidence_after {evidence : HostOperationEvidence} {responseStatus : UInt16}
    {response : Json} {reply : RecoveryOperation → Json → Reply}
    (hs : Heard operation s.events) :
    After (mapError recoveryStoreError (env.persistHostEvidence operation evidence responseStatus
      response false) >>= fun stored => env.recoveryOperationValue stored >>= fun value =>
        pure (reply stored value)) s (Left service operation) := by
  have hrecord : ∀ (t : CallState RuntimeService Event) report, s.events ⊆ t.events →
      After (env.recordOutcome report) t fun _ u => Heard operation u.events := by
    intro t report ht
    refine after_transact env (fun _ _ => rfl) (hs.mono ht) (fun _ _ h => (hs.mono ht).mono h)
      fun _ _ _ h _ => (hs.mono ht).mono h
  have hpersist : After (env.persistHostEvidence operation evidence responseStatus response false)
      s fun _ u => Heard operation u.events := by
    rw [Environment.persistHostEvidence, after_bind]
    refine after_recoveryNowMillis env (fun _ h => hs.mono h) fun nowMillis events hevents => ?_
    have hstate : ∀ t : CallState RuntimeService Event, s.events ⊆ t.events →
        After (check (Environment.evidenceState operation evidence false) >>= fun state =>
          if Environment.isTerminal operation.state ∧ operation.state ≠ state then pure operation
          else env.recordOutcome
            { instanceId := operation.instanceId
              operationId := operation.operationId
              state
              responseStatus := some responseStatus
              responseBody := some response.toBytes.data.toList
              witness := evidence.witness
              uncertaintyReason := if state = .unknown then some .receiptMissing else none
              nowMillis }) t fun _ u => Heard operation u.events := by
      intro t ht
      rw [after_bind]
      refine after_check (fun state _ => ?_) fun _ _ => hs.mono ht
      dsimp only
      split_ifs
      · exact hs.mono ht
      · exact hrecord t _ ht
      · exact hrecord t _ ht
    dsimp only
    cases evidence.ticket with
    | none => exact hstate _ hevents
    | some ticket =>
      dsimp only
      rw [after_bind]
      refine after_transact env (fun _ _ => rfl) (hs.mono hevents)
        (fun _ _ h => (hs.mono hevents).mono h) fun _ _ _ h _ => hstate _ fun _ he => h (hevents he)
  rw [after_bind]
  refine after_mapError (hpersist.mono fun r t ht => ?_)
  cases r with
  | error e => exact .heard ht
  | ok stored =>
    exact after_shows env (.heard ht) fun _ _ h => .heard (ht.mono h)

/-- What is read of an answer that passes the checks of a lookup. -/
lemma heard_of_answer {asked : RuntimeService} {frame value : Json} {response : HttpResponse}
    {events : List Event}
    (hevent : .control asked (.recovery .operationLookup frame) (.ok response) ∈ events)
    (hvalue : RecoveryFrame.parseResponseFrame response.body .operationLookup = .ok value)
    (hcorrelation : value.get "correlation_id" = frame.get "correlation_id")
    (hvalid : (validateHostLookupResponse value operation).isOk)
    (hread : (((value.get "payload").get "result").get "status").asStr = some "NOT_FOUND" ∨
      (parseHostEvidence value operation false).isOk) : Heard operation events := by
  refine ⟨asked, _, _, hevent, ?_⟩
  have hframe : (ControlFrame.recovery .operationLookup frame).value = frame := rfl
  rw [lookupEvidence, hframe]
  simp only [Except.toOption, Option.bind_eq_bind, Option.bind_some, hvalue, hcorrelation,
    hvalid, guard_true, Option.pure_def]
  split_ifs with hmissing
  · rfl
  · have hevidence := hread.resolve_left hmissing
    cases hparse : parseHostEvidence value operation false with
    | error reason =>
      rw [hparse] at hevidence
      cases hevidence
    | ok evidence => rfl

/-- **What a request for evidence leaves.** -/
lemma requestEvidence_left (hs : Untouched service s.state) (correlation : String)
    (proof : Option String) (payload : Json) :
    After (env.requestEvidence .operationLookup operation correlation proof payload) s
      (Left service operation) := by
  cases proof with
  | none => exact recoveryOpsUnknown_left hs _ _ _
  | some proof =>
    rw [Environment.requestEvidence]
    dsimp only
    rw [after_bind]
    refine after_attempt (forwardRecoveryControlResponse_after (fun _ => .halted hs)
      (fun status events => ?_)
      fun hostStatus value events asked frame response hevent hvalue hcorrelation => ?_)
    · exact recoveryOpsUnknown_left (s := ⟨s.state, events⟩) hs _ _ _
    · dsimp only
      have hlookup : decide (RecoveryKind.operationLookup = .operationReconcile) = false := rfl
      rw [hlookup]
      simp only [Bool.false_eq_true, if_false]
      split_ifs with hvalid hmissing
      · exact .heard (heard_of_answer hevent hvalue hcorrelation hvalid (.inl hmissing))
      · cases hparse : parseHostEvidence value operation false with
        | error reason => exact recoveryOpsUnknown_left (s := ⟨s.state, events⟩) hs _ _ _
        | ok evidence =>
          refine persistHostEvidence_after (heard_of_answer hevent hvalue hcorrelation hvalid
            (.inr ?_))
          rw [hparse]
          rfl
      · exact recoveryOpsUnknown_left (s := ⟨s.state, events⟩) hs _ _ _

section Lookup

variable [Sha256]

/-- **What a lookup leaves.** -/
theorem recoveryOpsLookup_left {frame : RecoveryFrame} (hnames : lookupKey frame = some operation.key)
    (hretained : service.recovery.selectOperation operation.key = some operation) :
    After (env.recoveryOpsLookup frame) ⟨service, []⟩ (Left service operation) := by
  have hservice : Untouched service service := ⟨service.recoveryClock.lastNowMillis, rfl⟩
  rw [Environment.recoveryOpsLookup, after_bind]
  refine after_check (fun reference hreference => ?_) fun _ _ => .halted hservice
  dsimp only
  rw [after_bind]
  refine after_check (fun _ _ => ?_) fun _ _ => .halted hservice
  dsimp only
  rw [after_bind]
  refine after_check (fun instanceId hinstance => ?_) fun _ _ => .halted hservice
  have hkey : operation.key = (instanceId, reference.operationId) := by
    rw [lookupKey, okOr_eq_ok.mp hreference] at hnames
    simp only [Option.bind_eq_bind, Option.bind_some, okOr_eq_ok.mp hinstance] at hnames
    exact (Option.some.inj hnames).symm
  dsimp only
  rw [after_bind, Environment.findOperation, after_bind]
  refine after_mapError (after_readStore env (.halted hservice) (fun _ _ _ => .halted hservice)
    fun found events _ hfound => ?_)
  have hselect := lookupOperation_selects _ hfound
  rw [← hkey, hretained] at hselect
  subst hselect
  dsimp only [Except.mapError]
  rw [after_bind]
  refine after_check (fun other hother => ?_) fun _ _ => .halted hservice
  obtain rfl := Except.ok.inj hother
  dsimp only
  rw [after_bind]
  refine after_check (fun _ _ => ?_) fun _ _ => .halted hservice
  rw [after_pure]
  dsimp only
  rw [after_bind, after_getState]
  exact requestEvidence_left (s := ⟨service, events⟩) hservice _ _ _

end Lookup

end Walk

/-! ### Marks -/

section Marks

variable {service : RuntimeService} {operation stored : RecoveryOperation}
  {after : GatewayRecoveryStore} {nowMillis : ℕ}

/-- What a report of uncertainty found, and what it left. -/
lemma recorded_unknown (hretained : service.recovery.selectOperation operation.key = some operation)
    (h : service.recovery.recordOutcome (Environment.unknownReport operation nowMillis) =
      .ok (stored, after)) :
    validTransition operation.state .unknown = true ∧
      service.recovery.operations.find? operation.key = some operation ∧
      after = { service.recovery with
        operations := service.recovery.operations.update
          (fun o => decide (o.key = operation.key))
          (fun o => o.withOutcome (Environment.unknownReport operation nowMillis))
          fun o => o.key_withOutcome _ } := by
  simp only [GatewayRecoveryStore.recordOutcome, except_bind_eq_ok, refuse_eq_ok, not_not] at h
  obtain ⟨found, hadmitted, _, hone, hpair⟩ := h
  have hfound := admitOutcome_eq_ok hadmitted
  have hselect : service.recovery.selectOperation operation.key = some found := hfound.found
  rw [hretained] at hselect
  obtain rfl := Option.some.inj hselect
  obtain ⟨live, hlive⟩ := Relational.Table.count_key.mp hone
  have hsame := selectOperation_of_live hlive
  rw [hretained] at hsame
  obtain rfl := Option.some.inj hsame
  exact ⟨hfound.transition, hlive, (Prod.mk.inj (Except.ok.inj hpair)).2.symm⟩

/-- A report of what is uncertain already changes nothing but the report. -/
lemma recorded_twin (hstate : operation.state = .unknown)
    (hretained : service.recovery.selectOperation operation.key = some operation)
    (h : service.recovery.recordOutcome (Environment.unknownReport operation nowMillis) =
      .ok (stored, after)) : SameButReports service.recovery after := by
  obtain ⟨-, hlive, rfl⟩ := recorded_unknown hretained h
  refine ⟨rfl, fun key => ?_⟩
  rw [Relational.Table.find?_update]
  cases hfind : service.recovery.operations.find? key with
  | none => rfl
  | some found =>
    rw [Option.map_some, Option.map_some, Option.map_some]
    split_ifs with hkey
    · have hfound : found = operation := by
        have hsame := Relational.Table.find?_key (Relational.Table.mem_of_find? hfind)
        rw [of_decide_eq_true hkey, hlive] at hsame
        exact (Option.some.inj hsame).symm
      subst hfound
      refine congrArg some ?_
      have hreported : ∀ report : OutcomeReport, report.state = found.state →
          (found.withOutcome report).unreported = found.unreported := by
        intro report hsame
        rw [RecoveryOperation.unreported, RecoveryOperation.withOutcome, hsame]
        rfl
      exact hreported _ hstate.symm
    · rfl

variable [Sha256]

/-- Twins stay twins under any later requests. -/
lemma TwinServices.serveAll {other : RuntimeService} (h : TwinServices service other)
    (later : List (Script × HostRequest)) :
    TwinServices (service.serveAll later) (other.serveAll later) := by
  induction later generalizing service other with
  | nil => exact h
  | cons call later ih =>
    obtain ⟨script, request⟩ := call
    refine ih ?_
    have halike : Alike (fun _ _ => True) (script.environment.hostRequest request)
        (script.environment.hostRequest request) := by
      cases request with
      | dispatch frame => exact Alike.recoveryOpsDispatch script frame
      | lookup frame => exact Alike.recoveryOpsLookup script frame
      | reconcile frame => exact Alike.recoveryOpsReconcile script frame
    exact (halike.outcome (s := service) (t := other) ⟨rfl, h⟩).services

omit [Sha256] in
lemma TwinServices.recordedState {other : RuntimeService} (h : TwinServices service other)
    (key : OperationKey) : other.recordedState key = service.recordedState key := by
  obtain ⟨store, hstore, rfl⟩ := h
  exact hstore.state key

/-- Nothing was written. -/
lemma leavesNoMark_of_untouched {last : RuntimeService} (h : Untouched service last)
    (key : OperationKey) : LeavesNoMark service last key := by
  obtain ⟨clock, rfl⟩ := h
  exact fun _ => rfl

/-- The operation was uncertain before. -/
lemma leavesNoMark_of_twin {last : RuntimeService} {clock : ℕ}
    (h : SameButReports service.recovery after)
    (hlast : last = (service.withNow clock).withStore after) (key : OperationKey) :
    LeavesNoMark service last key := by
  subst hlast
  intro later
  have htwins : TwinServices (service.withNow clock) ((service.withNow clock).withStore after) :=
    ⟨after, h, rfl⟩
  exact (htwins.serveAll later).recordedState key

/-- An operation that was not uncertain before is marked. -/
lemma unknown_of_leavesNoMark {last : RuntimeService} {clock : ℕ}
    (hretained : service.recovery.selectOperation operation.key = some operation)
    (h : service.recovery.recordOutcome (Environment.unknownReport operation nowMillis) =
      .ok (stored, after))
    (hlast : last = (service.withNow clock).withStore after)
    (hmark : LeavesNoMark service last operation.key) : operation.state = .unknown := by
  obtain ⟨-, hlive, rfl⟩ := recorded_unknown hretained h
  have hnow := hmark []
  subst hlast
  have hbefore : (service.withNow clock).recordedState operation.key = some operation.state := by
    rw [RuntimeService.recordedState]
    exact congrArg (Option.map RecoveryOperation.state) hretained
  have hafter : ∀ store, ((service.withNow clock).withStore store).recordedState operation.key =
      (store.selectOperation operation.key).map (·.state) := fun _ => rfl
  change RuntimeService.recordedState _ _ =
    (service.withNow clock).recordedState operation.key at hnow
  rw [hbefore, RuntimeService.serveAll, run_nil, hafter, GatewayRecoveryStore.selectOperation,
    Relational.Table.find?_update, hlive, Option.map_some, if_pos (decide_eq_true rfl),
    Option.some_or] at hnow
  exact (Option.some.inj hnow).symm

end Marks

/-- What is claimed of a lookup, by the way it ends: the state of the operation decides
whether an answered lookup leaves a mark, one that is refused leaves none. -/
def Marks [Sha256] (service : RuntimeService) (operation : RecoveryOperation)
    (lookup : Exchange.Outcome RuntimeService (Except (Halt Reply) Reply) Event) : Prop :=
  match lookup.answer with
  | .ok _ => LeavesNoMark service lookup.state operation.key ↔ Unmarked operation
  | .error (.raised _) => LeavesNoMark service lookup.state operation.key
  | .error .crashed => Unmarked operation → LeavesNoMark service lookup.state operation.key

/-- **A failed lookup** of an operation leaves no mark if it is uncertain or final.  Any
other operation is left uncertain, unless the gateway fails before it has recorded that. -/
theorem failed_lookup_marks [Sha256] {env : Environment} {service : RuntimeService}
    {frame : RecoveryFrame} {operation : RecoveryOperation}
    (h : FailedLookup env service frame operation) :
    Marks service operation (env.lookup service frame) := by
  have hwalk : After (env.recoveryOpsLookup frame) ⟨service, []⟩ (Left service operation) :=
    recoveryOpsLookup_left h.names h.retained
  have hleft := hwalk.outcome
  have hsilent := h.silent
  rw [Environment.lookup] at hsilent ⊢
  rw [Marks]
  generalize outcome (env.recoveryOpsLookup frame) service = lookup at hleft hsilent
  obtain ⟨answer, last, events⟩ := lookup
  cases hleft with
  | heard heard => exact absurd heard hsilent
  | halted untouched =>
    rename_i halt
    have hmark := leavesNoMark_of_untouched untouched operation.key
    cases halt with
    | crashed => exact fun _ => hmark
    | raised reply => exact hmark
  | final untouched terminal =>
    have hmark := leavesNoMark_of_untouched untouched operation.key
    cases answer with
    | ok reply => exact iff_of_true hmark (.inr terminal)
    | error halt =>
      cases halt with
      | crashed => exact fun _ => hmark
      | raised reply => exact hmark
  | recorded outcome state returned =>
    -- a report of uncertainty is only taken from an operation that is not final
    have hunknown : Unmarked operation → operation.state = .unknown := by
      rintro (hstate | hterminal)
      · exact hstate
      · have htransition := (recorded_unknown h.retained outcome).1
        revert hterminal htransition
        cases operation.state <;> decide
    have hmark : Unmarked operation → LeavesNoMark service last operation.key := fun hstate =>
      leavesNoMark_of_twin (recorded_twin (hunknown hstate) h.retained outcome) state _
    cases answer with
    | ok reply =>
      exact ⟨fun hnone => .inl (unknown_of_leavesNoMark h.retained outcome state hnone), hmark⟩
    | error halt =>
      cases halt with
      | crashed => exact hmark
      | raised reply => exact absurd rfl (returned reply)

/-! ### A lookup without a read secret -/

namespace Sample

/-- An outside that never fails, but from which the host never answers. -/
def silence : Script where
  crashes _ := false
  unixMillis _ := 1010
  instant _ := 0
  newV4 _ := ⟨Recovery.Sample.ackMessageId, by decide +kernel⟩
  newToken _ := ⟨Recovery.Sample.fenceToken, by decide +kernel⟩
  fault _ := none
  control _ _ := .error .unavailableBeforeWrite
  downstream _ _ _ _ := .error 503
  runtimeV3 := ⟨fun _ _ => .error .requestBodyRequired, fun _ _ _ => .ok (), fun _ _ _ => false⟩

def secrets : RuntimeSecrets where
  bootstrapSecret := none
  recoveryReadSecret := none
  recoveryReconcileSecret := none

def config : RuntimeConfig where
  instanceId := Recovery.Sample.instanceId
  callerId := "caller-1"
  sessionId := "session-1"
  mcpSessionId := "mcp-1"
  leaseId := Recovery.Sample.leaseId
  leaseEpoch := 1
  recoveryDeploymentId := Recovery.Sample.deployment
  recoveryRelease := Recovery.Sample.release
  recoveryTtlSeconds := 30
  recoveryRenewalIntervalSeconds := 10
  hostLeaseKey := []
  hostPrincipalId := Recovery.Sample.deployment
  secrets := secrets

section Hash

variable [Sha256]

/-- A gateway that has just been started over a store. -/
def started (calls : List Call) : RuntimeService where
  config := config
  leaseActive := false
  leaseRevoked := false
  allocationCleanupLeaseId := none
  shutdownRequested := false
  recoveryCatalog := .default
  recovery := (GatewayRecoveryStore.openWithConfig .default).run calls
  recoveryBoot := none
  recoveryFence := none
  recoveryLease := none
  recoveryLeaseDeadline := none
  recoveryLeaseDeadlineLeaseId := none
  recoveryHostGrant := none
  episodeProfile := none
  recoveryClock := ⟨0, 1000, 1000⟩

/-- The store holds an intent that was never dispatched. -/
def intended : RuntimeService :=
  started (Recovery.Sample.calls ++
    [.operation (.recordIntent Recovery.Sample.proof Recovery.Sample.intent)])

end Hash

def key : OperationKey := (Recovery.Sample.instanceId, Recovery.Sample.operationId)

def context : Json :=
  .obj [("deployment_id", .str Recovery.Sample.deployment),
    ("instance_id", .str Recovery.Sample.instanceId),
    ("instance_incarnation", .str Recovery.Sample.incarnation),
    ("boot_id", .str Recovery.Sample.bootId), ("authority_generation", .num 1),
    ("lease_id", .str Recovery.Sample.leaseId), ("lease_epoch", .num 1)]

def reference : Json :=
  .obj [("operation_id", .str Recovery.Sample.operationId),
    ("payload_digest", .str Recovery.Sample.payloadDigest), ("original_context", context)]

/-- The members that the lookup reads of its frame. -/
def frame : RecoveryFrame where
  value := .obj [("correlation_id", .str Recovery.Sample.ackMessageId),
    ("payload", .obj [("operation", reference), ("lookup_scope", .str "historical_read")])]

end Sample

section Example

attribute [local instance] Recovery.Sample.sha256

lemma Sample.failed : FailedLookup Sample.silence.environment Sample.intended Sample.frame
    Recovery.Sample.intent.operation where
  names := by decide +kernel
  retained := by decide +kernel
  silent := by
    have hsilent : (Sample.silence.environment.lookup Sample.intended Sample.frame).events.all
        (fun event => !event.isControl) = true := by decide +kernel
    exact not_heard_of_no_control hsilent

theorem intended_lookup_marks :
    FailedLookup Sample.silence.environment Sample.intended Sample.frame
      Recovery.Sample.intent.operation ∧
    Marks Sample.intended Recovery.Sample.intent.operation
      (Sample.silence.environment.lookup Sample.intended Sample.frame) :=
  ⟨Sample.failed, failed_lookup_marks Sample.failed⟩

/-- A lookup that asks nobody takes a recorded intent out of the reach of a dispatch. -/
theorem failed_lookup_leaves_a_mark :
    FailedLookup Sample.silence.environment Sample.intended Sample.frame
      Recovery.Sample.intent.operation ∧
    ¬ LeavesNoMark Sample.intended
      (Sample.silence.environment.lookup Sample.intended Sample.frame).state
      Recovery.Sample.intent.operation.key := by
  refine ⟨Sample.failed, fun hmark => ?_⟩
  have hnow := hmark []
  revert hnow
  decide +kernel

end Example

end Sts2Gateway.Service
