/-
Evidence of the host that cannot be recorded (`service_recovery_ops_persistence.rs`).

The ticket of an answer and the outcome that it proves are two calls of the store.

* `LeftByFailure`: what a failed call may have written, the ticket and nothing else;
* `failed_evidence_keeps_outcome`: **evidence that is refused leaves the operation and the
  archive as they were**, and the tickets as they were or as its own ticket leaves them;
* `refused_evidence_keeps_ticket`: **evidence whose outcome is refused after its ticket was
  taken in**;
* `rejection_marks_the_ticket`: an answer that is refused, and yet has rejected the ticket.
-/
import Mathlib
import Sts2Gateway.Recovery.TicketBinding
import Sts2Gateway.Service.FailedLookups

namespace Sts2Gateway.Service

open CompactJson Crash Exchange Procedure Recovery Text

/-! ### What a failure leaves -/

/-- What a failed call leaves of the store: all but its tickets, and of these all unless the
evidence carries one that the store takes in. -/
structure LeftByFailure (store : GatewayRecoveryStore) (instanceId : String)
    (ticket : Option RecoveryAdmissionTicket) (after : GatewayRecoveryStore) : Prop where
  written : TicketsWritten store after
  imported : after.admissionTickets = store.admissionTickets ∨
    ∃ carried ∈ ticket, ∃ answer,
      store.recordHistoricalHostTicket instanceId carried = .ok (answer, after)

section Failures

variable {env : Environment} {service : RuntimeService} {store : GatewayRecoveryStore}
  {instanceId : String} {carried answer : RecoveryAdmissionTicket}
  {ticket : Option RecoveryAdmissionTicket} {after : GatewayRecoveryStore}

lemma leftByFailure_refl : LeftByFailure store instanceId ticket store :=
  ⟨⟨⟨⟨rfl, rfl, rfl⟩, rfl, rfl⟩, rfl⟩, .inl rfl⟩

/-- A ticket that the store takes in is written to its tickets only. -/
lemma leftByFailure_imported (hcarried : carried ∈ ticket)
    (h : store.recordHistoricalHostTicket instanceId carried = .ok (answer, after)) :
    LeftByFailure store instanceId ticket after := by
  have hreturns : Returns (store.recordHistoricalHostTicket instanceId carried) fun taken =>
      TicketsWritten store taken.2 :=
    .bind fun _ _ => .bind fun _ _ => .bind fun _ _ => .bind fun _ _ => storeHostTicket_keeps
  exact ⟨hreturns _ h, .inr ⟨carried, hcarried, answer, h⟩⟩

/-- An outcome that is refused leaves the store as it is. -/
lemma recordOutcome_failed {s : CallState RuntimeService Event} (report : OutcomeReport)
    (hs : LeftByFailure store instanceId ticket s.state.recovery) :
    After (env.recordOutcome report) s fun r t =>
      ∀ halt, r = .error halt → LeftByFailure store instanceId ticket t.state.recovery :=
  after_transact env (fun _ _ => rfl) (fun _ _ => hs) (fun _ _ _ _ _ => hs)
    fun _ _ _ _ _ _ hr => nomatch hr

/-- **Evidence that is refused.**  Whatever the store refuses, and whatever fault or crash
comes between its two calls, a call that returns no operation has left all operations, live
and archived, as they were, and the tickets as well, unless the evidence carried one that the
store took in before. -/
theorem failed_evidence_keeps_outcome (env : Environment) (service : RuntimeService)
    (events : List Event) (operation : RecoveryOperation) (evidence : HostOperationEvidence)
    (responseStatus : UInt16) (response : Json) (reconciliation : Bool) :
    After (env.persistHostEvidence operation evidence responseStatus response reconciliation)
      ⟨service, events⟩ fun r t => ∀ halt, r = .error halt →
        LeftByFailure service.recovery operation.instanceId evidence.ticket t.state.recovery := by
  rw [Environment.persistHostEvidence, after_bind]
  refine after_recoveryNowMillis env (fun _ _ _ _ => leftByFailure_refl)
    fun nowMillis events _ => ?_
  -- the outcome, once the ticket has been dealt with
  have houtcome : ∀ t : CallState RuntimeService Event,
      LeftByFailure service.recovery operation.instanceId evidence.ticket t.state.recovery →
      After (check (Environment.evidenceState operation evidence reconciliation) >>= fun state =>
        if Environment.isTerminal operation.state ∧ operation.state ≠ state then pure operation
        else env.recordOutcome
          { instanceId := operation.instanceId
            operationId := operation.operationId
            state
            responseStatus := some responseStatus
            responseBody := some response.toBytes.data.toList
            witness := evidence.witness
            uncertaintyReason := if state = .unknown then some .receiptMissing else none
            nowMillis }) t fun r u => ∀ halt, r = .error halt →
              LeftByFailure service.recovery operation.instanceId evidence.ticket
                u.state.recovery := by
    intro t ht
    rw [after_bind]
    refine after_check (fun state _ => ?_) fun _ _ _ _ => ht
    dsimp only
    split_ifs
    · rintro _ ⟨⟩
    · exact recordOutcome_failed _ ht
    · exact recordOutcome_failed _ ht
  dsimp only
  cases hticket : evidence.ticket with
  | none =>
    rw [hticket] at houtcome
    exact houtcome _ leftByFailure_refl
  | some carried =>
    rw [hticket] at houtcome
    dsimp only
    rw [after_bind]
    refine after_transact env (fun _ _ => rfl) (fun _ _ => leftByFailure_refl)
      (fun _ _ _ _ _ => leftByFailure_refl) fun answer after _ _ himport => ?_
    exact houtcome _ (leftByFailure_imported rfl himport)

end Failures

/-! ### Outcomes that are refused after their ticket -/

/-- An outside on which nothing fails. -/
structure Reliable (env : Environment) : Prop where
  running : ∀ events, env.crashes events = false
  sound : ∀ events, env.fault events = none

section Reliable

variable {env : Environment} {s : CallState RuntimeService Event}

lemma after_transact_reliable {α : Type} {call : Call}
    {run : GatewayRecoveryStore → Except RecoveryStoreError (α × GatewayRecoveryStore)}
    {P : Except (Halt RecoveryStoreError) α → CallState RuntimeService Event → Prop}
    (henv : Reliable env)
    (hraised : ∀ e events, run s.state.recovery = .error e →
      P (.error (.raised e)) ⟨s.state.withStore s.state.recovery, events⟩)
    (hok : ∀ a after events, run s.state.recovery = .ok (a, after) →
      P (.ok a) ⟨s.state.withStore after, events⟩) :
    After (env.transact call fun store => commit store (run store)) s P := by
  unfold After Environment.transact
  simp only [EStateM.run, henv.running, henv.sound, Bool.false_eq_true, if_false]
  dsimp only [commit]
  cases hrun : run s.state.recovery with
  | error e => exact hraised e _ hrun
  | ok answer =>
    obtain ⟨a, after⟩ := answer
    exact hok a after _ hrun

lemma after_recoveryNowMillis_reliable {ε : Type}
    {P : Except (Halt ε) ℕ → CallState RuntimeService Event → Prop} (henv : Reliable env)
    (h : ∀ nowMillis events, P (.ok nowMillis) ⟨s.state.withNow nowMillis, events⟩) :
    After env.recoveryNowMillis s P := by
  rw [Environment.recoveryNowMillis, after_bind]
  refine after_interact_running (henv.running _) ?_
  dsimp only
  rw [after_bind]
  exact after_interact_running (henv.running _) (h _ _)

/-- An outcome is recorded only where the operation can take it. -/
lemma transition_of_recorded {store : GatewayRecoveryStore} {operation : RecoveryOperation}
    {report : OutcomeReport} {recorded : RecoveryOperation × GatewayRecoveryStore}
    (hretained : store.selectOperation (report.instanceId, report.operationId) = some operation)
    (h : store.recordOutcome report = .ok recorded) :
    validTransition operation.state report.state = true := by
  obtain ⟨found, hadmitted, -⟩ := except_bind_eq_ok.mp h
  have hfound := admitOutcome_eq_ok hadmitted
  obtain rfl := Option.some.inj (hfound.found.symm.trans hretained)
  exact hfound.transition

/-- **The ticket first.**  Where the ticket of the evidence is taken in and its outcome is one
that the operation cannot take any more, the call fails and the ticket stays. -/
theorem refused_evidence_keeps_ticket {service : RuntimeService}
    {operation : RecoveryOperation} {evidence : HostOperationEvidence} {responseStatus : UInt16}
    {response : Json} {reconciliation : Bool} {carried answer : RecoveryAdmissionTicket}
    {after : GatewayRecoveryStore} {state : RecoveryOperationState} (henv : Reliable env)
    (hretained : service.recovery.selectOperation operation.key = some operation)
    (hcarried : evidence.ticket = some carried)
    (himported : service.recovery.recordHistoricalHostTicket operation.instanceId carried =
      .ok (answer, after))
    (hstate : Environment.evidenceState operation evidence reconciliation = .ok state)
    (hopen : Environment.isTerminal operation.state = false)
    (htransition : validTransition operation.state state = false) :
    let ending := outcome
      (env.persistHostEvidence operation evidence responseStatus response reconciliation) service
    (∃ e, ending.answer = .error (.raised e)) ∧ ending.state.recovery = after := by
  suffices h : After (env.persistHostEvidence operation evidence responseStatus response
      reconciliation) ⟨service, []⟩ fun r t =>
        (∃ e, r = .error (.raised e)) ∧ t.state.recovery = after from h.outcome
  rw [Environment.persistHostEvidence, after_bind]
  refine after_recoveryNowMillis_reliable henv fun nowMillis events => ?_
  dsimp only
  rw [hcarried]
  dsimp only
  rw [after_bind]
  refine after_transact_reliable henv (fun e _ hrefused => ?_) fun taken imported _ himport => ?_
  · have hsame := hrefused.symm.trans himported
    cases hsame
  obtain ⟨rfl, rfl⟩ := Prod.mk.inj (Except.ok.inj (himport.symm.trans himported))
  dsimp only
  rw [hstate]
  have hleft : LeftByFailure _ _ (some carried) imported := leftByFailure_imported rfl himport
  have hoperations := hleft.written
  have hkept : imported.selectOperation operation.key = some operation := by
    rw [GatewayRecoveryStore.selectOperation, hoperations.operations, hoperations.operationArchive]
    exact hretained
  rw [after_bind]
  refine after_check (fun _ hsame => ?_) (by rintro _ ⟨⟩)
  obtain rfl := Except.ok.inj hsame
  dsimp only
  rw [hopen]
  simp only [Bool.false_eq_true, false_and, if_false]
  refine after_transact_reliable henv (fun e _ _ => ⟨⟨e, rfl⟩, rfl⟩) fun _ _ _ hrecord => ?_
  exact absurd (transition_of_recorded hkept hrecord) (htransition ▸ Bool.false_ne_true)

end Reliable

/-! ### A rejection that comes too late -/

/-- A call that returns an error has written nothing. -/
def AppliedAtomically (env : Environment) (service : RuntimeService)
    (operation : RecoveryOperation) (evidence : HostOperationEvidence) (responseStatus : UInt16)
    (response : Json) (reconciliation : Bool) : Prop :=
  let ending := outcome
    (env.persistHostEvidence operation evidence responseStatus response reconciliation) service
  ∀ error, ending.answer = .error (.raised error) →
    ending.state.recovery.operations = service.recovery.operations ∧
      ending.state.recovery.operationArchive = service.recovery.operationArchive ∧
      ending.state.recovery.admissionTickets = service.recovery.admissionTickets

namespace Sample

/-- The ticket of the dispatched operation. -/
def ticket : RecoveryAdmissionTicket where
  ticketId := Recovery.Sample.ticketId
  operationId := Recovery.Sample.operationId
  payloadDigest := Recovery.Sample.payloadDigest
  bootId := Recovery.Sample.bootId
  instanceIncarnation := Recovery.Sample.incarnation
  leaseEpoch := 1
  hostFenceId := Recovery.Sample.hostFenceId
  state := .issued
  issuedAtMillis := 1004
  expiresAtMillis := 6004

/-- The operation that the host has accepted. -/
def accepted : RecoveryOperation :=
  { Recovery.Sample.intent.operation with
    state := .accepted
    responseStatus := some 200
    updatedAtMillis := 1005 }

section Hash

variable [Sha256]

/-- A gateway over a store with the accepted operation and its ticket. -/
def acceptedService : RuntimeService :=
  started (Recovery.Sample.issued ++
    [.operation (.recordOutcome
      { instanceId := Recovery.Sample.instanceId
        operationId := Recovery.Sample.operationId
        state := .accepted
        responseStatus := some 200
        responseBody := none
        witness := none
        uncertaintyReason := none
        nowMillis := 1005 })])

end Hash

/-- The host answers that it has rejected the operation and its ticket. -/
def rejection : Json :=
  .obj [("payload", .obj
    [("result", responseResult "REJECTED" false none),
      ("operation", operationValue { accepted with state := .rejected }
        (some { ticket with state := .rejected })),
      ("mutation_authorized", .bool false)])]

def rejected : HostOperationEvidence where
  resultStatus := "REJECTED"
  operationState := .rejected
  ticket := some { ticket with state := .rejected }
  witness := none

end Sample

section Example

attribute [local instance] Recovery.Sample.sha256

/-- An accepted operation cannot be rejected any more, but its ticket is. -/
theorem rejection_marks_the_ticket :
    Sample.acceptedService.recovery.selectOperation Sample.accepted.key = some Sample.accepted ∧
    validateHostLookupResponse Sample.rejection Sample.accepted = .ok () ∧
    parseHostEvidence Sample.rejection Sample.accepted false = .ok Sample.rejected ∧
    ¬ AppliedAtomically Sample.silence.environment Sample.acceptedService Sample.accepted
      Sample.rejected 200 Sample.rejection false := by
  have hretained : Sample.acceptedService.recovery.selectOperation Sample.accepted.key =
      some Sample.accepted := by decide +kernel
  refine ⟨hretained, by decide +kernel, by decide +kernel, fun h => ?_⟩
  have hmarked : (Sample.acceptedService.recovery.recordHistoricalHostTicket
      Sample.accepted.instanceId { Sample.ticket with state := .rejected }).map
        (fun imported => imported.2.admissionTickets.rows.map (·.ticket.state)) =
          .ok [.rejected] := by decide +kernel
  have hissued : Sample.acceptedService.recovery.admissionTickets.rows.map (·.ticket.state) =
      [.issued] := by decide +kernel
  have hstate : Environment.evidenceState Sample.accepted Sample.rejected false =
      .ok .rejected := by decide +kernel
  have hreliable : Reliable Sample.silence.environment := ⟨fun _ => rfl, fun _ => rfl⟩
  have hcarried : Sample.rejected.ticket = some { Sample.ticket with state := .rejected } := rfl
  have hopen : Environment.isTerminal Sample.accepted.state = false := rfl
  have hlate : validTransition Sample.accepted.state .rejected = false := rfl
  cases himport : Sample.acceptedService.recovery.recordHistoricalHostTicket
      Sample.accepted.instanceId { Sample.ticket with state := .rejected } with
  | error e =>
    rw [himport] at hmarked
    cases hmarked
  | ok imported =>
    obtain ⟨answer, after⟩ := imported
    obtain ⟨⟨e, hraised⟩, hstore⟩ := refused_evidence_keeps_ticket hreliable hretained hcarried
      himport hstate hopen hlate
    obtain ⟨-, -, hsame⟩ := h e hraised
    rw [himport] at hmarked
    rw [hstore] at hsame
    have hrejected : after.admissionTickets.rows.map (·.ticket.state) = [.rejected] :=
      Except.ok.inj hmarked
    rw [hsame, hissued] at hrejected
    exact absurd hrejected (by decide)

end Example

end Sts2Gateway.Service
