/-
The history of admission tickets over the runs of a recovery store.

* `RecoveryTicketState.Moves`, `Reaches`: the states that a ticket moves through, and
  `Reaches.eq_of_closed`: **a closed ticket stays as it is**;
* `StoredFor`: a ticket that is bound to the operation it is stored for;
* `TicketStep`: **the tickets after any call**: none changes, some move on, or one is
  stored for an operation without one;
* `next_tickets`: every call makes such a step;
* `OneTicket`: at most one ticket for each operation;
* `admission_ticket_history`: every run keeps one ticket for each operation, which only
  moves on.
-/
import Mathlib.Tactic
import Sts2Gateway.Recovery.OperationSteps

namespace Sts2Gateway.Recovery

open Machine Procedure Relational Text

/-! ### States -/

namespace RecoveryTicketState

/-- One move of a ticket, or none. -/
def Moves (state after : RecoveryTicketState) : Prop :=
  after = state ∨ validTicketTransition state after = true

/-- The moves of a ticket one after another. -/
def Reaches : RecoveryTicketState → RecoveryTicketState → Prop :=
  Relation.ReflTransGen fun state after => validTicketTransition state after = true

variable {state after : RecoveryTicketState}

lemma Moves.reaches (h : Moves state after) : Reaches state after := by
  obtain rfl | hvalid := h
  · exact .refl
  · exact .single hvalid

lemma moves_unknown (h : state.isOpen = true) : Moves state .unknown := by
  cases state <;> first | exact .inr rfl | cases h

/-- A state that is left is open. -/
lemma open_of_transition (h : validTicketTransition state after = true) :
    state.isOpen = true := by
  cases state <;> first | rfl | cases h

/-- **A closed ticket** stays as it is. -/
lemma Reaches.eq_of_closed (h : Reaches state after) (hclosed : state.isOpen = false) :
    after = state := by
  induction h with
  | refl => rfl
  | tail _ hstep ih =>
    have hopen := open_of_transition hstep
    rw [ih, hclosed] at hopen
    cases hopen

end RecoveryTicketState

/-! ### Steps -/

/-- A ticket that its operation, live or archived, is found for, with the columns that it
repeats from it. -/
def StoredFor (store : GatewayRecoveryStore) (row : TicketRow) : Prop :=
  ∃ operation, store.selectOperation (row.instanceId, row.ticket.operationId) = some operation ∧
    row.ticket.payloadDigest = operation.payloadDigest ∧ row.ticket.bootId = operation.bootId ∧
    row.ticket.instanceIncarnation = operation.instanceIncarnation ∧
    row.ticket.leaseEpoch = operation.leaseEpoch

/-- The tickets after a call. -/
inductive TicketStep (store after : GatewayRecoveryStore) : Prop where
  | kept (tickets : after.admissionTickets = store.admissionTickets)
  | moved (p : TicketRow → Bool) (state : RecoveryTicketState)
      (tickets : after.admissionTickets =
        store.admissionTickets.update p (fun row => row.withState state) fun row =>
          row.ticketId_withState state)
      (moves : ∀ row ∈ store.admissionTickets.rows, p row = true →
        row.ticket.state.Moves state)
  | stored (row : TicketRow)
      (fresh : store.ticketForOperation row.instanceId row.ticket.operationId = none)
      (bound : StoredFor store row)
      (inserted : store.admissionTickets.insert row = some after.admissionTickets)

section Step

variable {store : GatewayRecoveryStore}

lemma insertTicket_step {instanceId : String} {ticket : RecoveryAdmissionTicket}
    (hfresh : store.ticketForOperation instanceId ticket.operationId = none)
    (hbound : StoredFor store { ticket, instanceId }) :
    Returns (store.insertTicket instanceId ticket) fun (_, after) => TicketStep store after := by
  rw [GatewayRecoveryStore.insertTicket]
  split
  · rename_i tickets hinsert
    exact .ok (.stored _ hfresh hbound hinsert)
  · exact .error

/-- The ticket of an operation is a row of the table. -/
lemma ticketForOperation_mem {instanceId operationId : String} {ticket : RecoveryAdmissionTicket}
    (h : store.ticketForOperation instanceId operationId = some ticket) :
    ∃ row ∈ store.admissionTickets.rows, row.ticket = ticket := by
  rw [GatewayRecoveryStore.ticketForOperation, Option.map_eq_some_iff] at h
  obtain ⟨row, hfind, rfl⟩ := h
  exact ⟨row, List.mem_of_find?_eq_some hfind, rfl⟩

/-- A host's ticket moves the known one on, which has the same primary key. -/
lemma storeHostTicket_step {instanceId : String} {ticket : RecoveryAdmissionTicket}
    (hbound : StoredFor store { ticket, instanceId }) :
    Returns (store.storeHostTicket instanceId ticket) fun (_, after) => TicketStep store after := by
  rw [GatewayRecoveryStore.storeHostTicket]
  cases hfind : store.ticketForOperation instanceId ticket.operationId with
  | none => exact insertTicket_step hfind hbound
  | some existing =>
    refine .bind fun _ hsame => .pure (.moved _ ticket.state rfl fun row hrow hkey => ?_)
    obtain ⟨known, hknown, rfl⟩ := ticketForOperation_mem hfind
    rw [checkSameTicket, except_bind_eq_ok] at hsame
    simp only [refuse_eq_ok, not_or, not_not, Unique.exists_iff, not_and, ne_eq] at hsame
    obtain ⟨⟨hticket, -⟩, hstate⟩ := hsame
    have hrowKnown : row = known :=
      Table.ext_key hrow hknown ((of_decide_eq_true hkey).trans hticket.symm)
    rw [hrowKnown]
    by_cases heq : known.ticket.state = ticket.state
    · exact .inl heq.symm
    · exact .inr (hstate heq)

lemma storedFor_of_check {instanceId : String} {ticket : RecoveryAdmissionTicket}
    {operation : RecoveryOperation} {u : Unit}
    (hfound : store.requireOperation instanceId ticket.operationId = .ok operation)
    (hcheck : checkTicketOperation operation ticket = .ok u) :
    StoredFor store { ticket, instanceId } := by
  rw [checkTicketOperation, refuse_eq_ok] at hcheck
  simp only [not_or, not_not, ne_eq] at hcheck
  obtain ⟨hpayload, hboot, hincarnation, hepoch⟩ := hcheck
  exact ⟨operation, requireOperation_eq_ok.mp hfound, hpayload.symm, hboot.symm,
    hincarnation.symm, hepoch.symm⟩

section Token

variable [Sha256]

/-- Calls on tickets make such a step. -/
lemma perform_ticket_step (call : TicketCall) : TicketStep store (call.perform store).store := by
  have hkept : TicketStep store store := .kept rfl
  cases call with
  | issue ticketId proof fence instanceId operationId payloadDigest nowMillis ttlSeconds =>
    refine commit_keeps hkept (.bind fun _ _ => .bind fun _ _ => .bind fun _ _ => .bind fun _ _ =>
      .bind fun _ _ => .bind fun _ _ => .bind fun _ _ => .bind fun _ _ => .refuse fun _ =>
      .refuse fun _ => .bind fun _ _ => .bind fun _ _ => .bind fun _ _ => .refuse fun _ =>
      .bind fun operation hfound => .refuse fun hbound => .refuse fun _ => ?_)
    cases hfresh : store.ticketForOperation instanceId operationId with
    | some ticket => exact .refuse fun _ => .pure hkept
    | none =>
      simp only [not_or, not_not, ne_eq] at hbound
      obtain ⟨hpayload, hboot, hincarnation, hepoch⟩ := hbound
      exact insertTicket_step hfresh ⟨operation, requireOperation_eq_ok.mp hfound, hpayload.symm,
        hboot.symm, hincarnation.symm, hepoch.symm⟩
  | validate => exact hkept
  | transition proof fence ticketId nextState nowMillis =>
    refine commit_keeps hkept <| .bind fun ticket _ => .bind fun _ _ => .refuse fun _ =>
      .refuse fun hvalid => .refuse fun _ => .pure (.moved _ nextState rfl fun row _ hdue => ?_)
    rw [Bool.and_eq_true, decide_eq_true_eq, decide_eq_true_eq] at hdue
    rw [hdue.2.1]
    exact .inr (not_not.mp hvalid)
  | recordHost proof fence ticket nowMillis =>
    exact commit_keeps hkept <| .bind fun _ _ => .refuse fun _ => .bind fun _ _ =>
      .refuse fun _ => .bind fun _ _ => .refuse fun _ => .bind fun operation hfound =>
      .bind fun _ hcheck => .refuse fun _ =>
        storeHostTicket_step (storedFor_of_check hfound hcheck)
  | recordHistoricalHost instanceId ticket =>
    exact commit_keeps hkept <| .bind fun _ _ => .bind fun _ _ => .bind fun operation hfound =>
      .bind fun _ hcheck => storeHostTicket_step (storedFor_of_check hfound hcheck)
  | expire nowMillis =>
    refine commit_keeps hkept <| .bind fun _ _ => .pure (.moved _ .unknown rfl fun row _ hdue => ?_)
    rw [Bool.and_eq_true] at hdue
    exact RecoveryTicketState.moves_unknown hdue.2

lemma perform_owner_tickets (call : OwnerCall) :
    (call.perform store).store.admissionTickets = store.admissionTickets := by
  cases call with
  | claim =>
    refine commit_keeps (P := fun after => after.admissionTickets = store.admissionTickets) rfl
      (.bind fun _ _ => .bind fun _ _ => .bind fun _ _ => .bind fun _ _ => .refuse fun _ =>
        .refuse fun _ => ?_)
    split
    · exact .refuse fun _ => .pure rfl
    · refine .refuse fun _ => .refuse fun _ => ?_
      dsimp only
      split
      · exact .pure rfl
      · exact .error
  | adopt => rfl

/-- **The tickets after any call.** -/
theorem next_tickets (store : GatewayRecoveryStore) (call : Call) :
    TicketStep store (next store call) := by
  cases call with
  | authority call =>
    have h := perform_authority store call
    change TicketStep store (call.perform store).store
    generalize call.perform store = reply at h
    cases h with
    | refused => exact .kept rfl
    | booted boot after booted => exact .kept booted.admissionTickets
    | fenced => exact .kept rfl
  | lease call => exact .kept (perform_lease call).admissionTickets
  | hostLease call => exact .kept (perform_hostLease call).admissionTickets
  | operation call => exact .kept (perform_operation call).admissionTickets
  | ticket call => exact perform_ticket_step call
  | owner call => exact .kept (perform_owner_tickets call)

end Token

end Step

/-! ### Rows -/

section Rows

variable {store after : GatewayRecoveryStore}

/-- A row goes on: its ticket differs in its state only, which it moves to. -/
def Continues (R : RecoveryTicketState → RecoveryTicketState → Prop) (after : GatewayRecoveryStore)
    (row : TicketRow) : Prop :=
  ∃ state, row.withState state ∈ after.admissionTickets.rows ∧ R row.ticket.state state

/-- No row goes, and each moves on once at most. -/
lemma TicketStep.continues (h : TicketStep store after) {row : TicketRow}
    (hrow : row ∈ store.admissionTickets.rows) : Continues RecoveryTicketState.Moves after row := by
  cases h with
  | kept tickets => exact ⟨row.ticket.state, tickets ▸ hrow, .inl rfl⟩
  | moved p state tickets moves =>
    by_cases hp : p row = true
    · refine ⟨state, ?_, moves row hrow hp⟩
      rw [tickets, Table.mem_update]
      exact ⟨row, hrow, if_pos hp⟩
    · refine ⟨row.ticket.state, ?_, .inl rfl⟩
      rw [tickets, Table.mem_update]
      exact ⟨row, hrow, if_neg hp⟩
  | stored other fresh bound inserted =>
    refine ⟨row.ticket.state, ?_, .inl rfl⟩
    rw [(Table.insert_eq_some.mp inserted).2]
    exact List.mem_append_left _ hrow

/-- A row was there before, or it is stored for an operation without one. -/
lemma TicketStep.origin (h : TicketStep store after) {row : TicketRow}
    (hrow : row ∈ after.admissionTickets.rows) :
    (∃ before ∈ store.admissionTickets.rows, row = before.withState row.ticket.state) ∨
      store.ticketForOperation row.instanceId row.ticket.operationId = none ∧
        StoredFor store row := by
  cases h with
  | kept tickets => exact .inl ⟨row, tickets ▸ hrow, rfl⟩
  | moved p state tickets moves =>
    rw [tickets, Table.mem_update] at hrow
    obtain ⟨before, hbefore, rfl⟩ := hrow
    refine .inl ⟨before, hbefore, ?_⟩
    split_ifs <;> rfl
  | stored other fresh bound inserted =>
    rw [(Table.insert_eq_some.mp inserted).2, List.mem_append, List.mem_singleton] at hrow
    obtain hrow | rfl := hrow
    · exact .inl ⟨row, hrow, rfl⟩
    · exact .inr ⟨fresh, bound⟩

/-! ### One ticket for each operation -/

/-- At most one ticket for each operation of an instance. -/
def OneTicket (store : GatewayRecoveryStore) : Prop :=
  ∀ first ∈ store.admissionTickets.rows, ∀ second ∈ store.admissionTickets.rows,
    first.instanceId = second.instanceId →
      first.ticket.operationId = second.ticket.operationId → first = second

lemma ticketForOperation_eq_none {instanceId operationId : String}
    (h : store.ticketForOperation instanceId operationId = none) {row : TicketRow}
    (hrow : row ∈ store.admissionTickets.rows) (hinstance : row.instanceId = instanceId) :
    row.ticket.operationId ≠ operationId := by
  rw [GatewayRecoveryStore.ticketForOperation, Option.map_eq_none_iff, List.find?_eq_none] at h
  have hne := h row hrow
  rw [decide_eq_true_eq, not_and] at hne
  exact hne hinstance

/-- **No call stores a second ticket** of an operation. -/
lemma TicketStep.oneTicket (h : TicketStep store after) (hone : OneTicket store) :
    OneTicket after := by
  intro first hfirst second hsecond hinstance hoperation
  cases h with
  | kept tickets =>
    rw [tickets] at hfirst hsecond
    exact hone first hfirst second hsecond hinstance hoperation
  | moved p state tickets moves =>
    rw [tickets, Table.mem_update] at hfirst hsecond
    obtain ⟨row, hrow, rfl⟩ := hfirst
    obtain ⟨other, hother, rfl⟩ := hsecond
    have hinstances : ∀ r : TicketRow,
        (if p r = true then r.withState state else r).instanceId = r.instanceId := by
      intro r
      split_ifs <;> rfl
    have hoperations : ∀ r : TicketRow,
        (if p r = true then r.withState state else r).ticket.operationId =
          r.ticket.operationId := by
      intro r
      split_ifs <;> rfl
    rw [hinstances, hinstances] at hinstance
    rw [hoperations, hoperations] at hoperation
    rw [hone row hrow other hother hinstance hoperation]
  | stored row fresh bound inserted =>
    rw [(Table.insert_eq_some.mp inserted).2, List.mem_append, List.mem_singleton] at hfirst hsecond
    obtain hfirst | rfl := hfirst
    · obtain hsecond | rfl := hsecond
      · exact hone first hfirst second hsecond hinstance hoperation
      · exact absurd hoperation (ticketForOperation_eq_none fresh hfirst hinstance)
    · obtain hsecond | rfl := hsecond
      · exact absurd hoperation.symm (ticketForOperation_eq_none fresh hsecond hinstance.symm)
      · rfl

end Rows

/-! ### Runs -/

section Runs

variable [Sha256] {store : GatewayRecoveryStore}

lemma run_oneTicket (h : OneTicket store) (calls : List Call) : OneTicket (store.run calls) :=
  run_invariant (fun store call hstore => (next_tickets store call).oneTicket hstore) h calls

/-- A row goes on through a run. -/
lemma run_continues {row : TicketRow} (h : row ∈ store.admissionTickets.rows)
    (calls : List Call) : Continues RecoveryTicketState.Reaches (store.run calls) row := by
  induction calls generalizing store row with
  | nil => exact ⟨row.ticket.state, h, .refl⟩
  | cons call calls ih =>
    obtain ⟨state, hnext, hmoves⟩ := (next_tickets store call).continues h
    obtain ⟨last, hlast, hreaches⟩ := ih hnext
    exact ⟨last, hlast, hmoves.reaches.trans hreaches⟩

end Runs

/-- **The history of admission tickets.**  After every run, each operation has at most one
ticket; a call moves each ticket on at most once, and stores one only for an operation
without any, bound to it; whatever follows, a ticket differs in its state only, which it
reaches by valid transitions, and a closed ticket stays as it is. -/
theorem admission_ticket_history [Sha256] (config : RecoveryStoreConfig) (calls : List Call) :
    OneTicket ((GatewayRecoveryStore.openWithConfig config).run calls) ∧
      (∀ call, ∀ row ∈ ((GatewayRecoveryStore.openWithConfig config).run
          calls).admissionTickets.rows,
        Continues RecoveryTicketState.Moves
          (next ((GatewayRecoveryStore.openWithConfig config).run calls) call) row) ∧
      (∀ call, ∀ row ∈ (next ((GatewayRecoveryStore.openWithConfig config).run
          calls) call).admissionTickets.rows,
        (∃ before ∈ ((GatewayRecoveryStore.openWithConfig config).run
            calls).admissionTickets.rows, row = before.withState row.ticket.state) ∨
          ((GatewayRecoveryStore.openWithConfig config).run calls).ticketForOperation
              row.instanceId row.ticket.operationId = none ∧
            StoredFor ((GatewayRecoveryStore.openWithConfig config).run calls) row) ∧
      ∀ more, ∀ row ∈ ((GatewayRecoveryStore.openWithConfig config).run
          calls).admissionTickets.rows,
        ∃ state, row.withState state ∈ ((GatewayRecoveryStore.openWithConfig config).run
            (calls ++ more)).admissionTickets.rows ∧ row.ticket.state.Reaches state ∧
          (row.ticket.state = .settled ∨ row.ticket.state = .rejected ∨
            row.ticket.state = .unknown → state = row.ticket.state) := by
  have hopened : OneTicket (GatewayRecoveryStore.openWithConfig config) :=
    fun _ h => nomatch h
  refine ⟨run_oneTicket hopened calls, fun call row hrow => ?_, fun call row hrow => ?_,
    fun more row hrow => ?_⟩
  · exact (next_tickets _ call).continues hrow
  · exact (next_tickets _ call).origin hrow
  · obtain ⟨state, hlast, hreaches⟩ := run_continues hrow more
    refine ⟨state, ?_, hreaches, fun hclosed => hreaches.eq_of_closed ?_⟩
    · rw [GatewayRecoveryStore.run, run_append]
      exact hlast
    · obtain hclosed | hclosed | hclosed := hclosed <;> rw [hclosed] <;> rfl

end Sts2Gateway.Recovery
