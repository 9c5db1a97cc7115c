/-
Twin runs of the service, over stores that differ in what was reported of their operations.

* `Script`: an environment whose answers do not look at the store;
* `Twins`: two services over such stores, after as many exchanges;
* `transact`, `readStore`: **the store answers twins alike** and leaves twins behind;
* `recoveryOpsDispatch`, `recoveryOpsLookup`, `recoveryOpsReconcile`: a dispatch, a lookup
  and a reconciliation go alike in both.
-/
import Mathlib.Tactic
import Sts2Gateway.Recovery.Reports
import Sts2Gateway.Service.Operations

namespace Sts2Gateway.Service

open CompactJson Crash Exchange Procedure Recovery Text

/-! ### Scripts -/

/-- What the outside answers to a call, by the number of exchanges before. -/
structure Script where
  crashes : ℕ → Bool
  unixMillis : ℕ → ℕ
  instant : ℕ → ℕ
  newV4 : ℕ → UuidV4
  newToken : ℕ → FenceToken
  fault : ℕ → Option StoreFault
  control : ℕ → ControlFrame → ControlAnswer
  downstream : ℕ → String → String → Json → DownstreamAnswer
  runtimeV3 : RuntimeV3Gameplay

def Script.environment (script : Script) : Environment where
  crashes log := script.crashes log.length
  unixMillis log := script.unixMillis log.length
  instant log := script.instant log.length
  newV4 log := script.newV4 log.length
  newToken log := script.newToken log.length
  fault log := script.fault log.length
  control log := script.control log.length
  downstream log := script.downstream log.length
  runtimeV3 := script.runtimeV3

/-! ### Twins -/

/-- Two services whose stores differ in reports only. -/
def TwinServices (service other : RuntimeService) : Prop :=
  ∃ store, SameButReports service.recovery store ∧ other = service.withStore store

/-- Two such services after as many exchanges. -/
structure Twins (s t : CallState RuntimeService Event) : Prop where
  length : t.events.length = s.events.length
  services : TwinServices s.state t.state

/-- Two procedures that go on alike from twins. -/
abbrev Alike {ε α β : Type} (R : α → β → Prop) (p : ServiceM ε α) (q : ServiceM ε β) : Prop :=
  Lockstep Twins Eq R p q

/-- Two replies of procedures whose errors may differ as well. -/
abbrev Answers (p q : ServiceM Reply Reply) : Prop :=
  Lockstep Twins (fun _ _ => True) (fun _ _ => True) p q

namespace Alike

variable {ε α β : Type} {R : α → β → Prop} (script : Script)

lemma interact {answer : List Event → RuntimeService → α} {answer' : List Event → RuntimeService → β}
    {event : RuntimeService → α → Event} {event' : RuntimeService → β → Event}
    (h : ∀ s t, Twins s t → R (answer s.events s.state) (answer' t.events t.state)) :
    Alike (ε := ε) R (Crash.interact script.environment.crashes answer event)
      (Crash.interact script.environment.crashes answer' event') := by
  refine Lockstep.interact (fun s t htwins => ?_) h fun s t a b htwins => ?_
  · exact congrArg script.crashes htwins.length.symm
  · refine ⟨?_, htwins.services⟩
    rw [List.length_append, List.length_append, htwins.length]
    rfl

lemma readUnixMillis : Alike (ε := ε) Eq script.environment.readUnixMillis
    script.environment.readUnixMillis :=
  interact script fun s t htwins => by
    change min (script.unixMillis s.events.length) _ = min (script.unixMillis t.events.length) _
    rw [htwins.length]

lemma readInstant : Alike (ε := ε) Eq script.environment.readInstant
    script.environment.readInstant :=
  interact script fun _ _ htwins => congrArg script.instant htwins.length.symm

lemma drawV4 : Alike (ε := ε) Eq script.environment.drawV4 script.environment.drawV4 :=
  interact script fun _ _ htwins => congrArg script.newV4 htwins.length.symm

lemma sendControl (frame : ControlFrame) : Alike (ε := ε) Eq
    (script.environment.sendControl frame) (script.environment.sendControl frame) :=
  interact script fun _ _ htwins =>
    congrArg (fun n => script.control n frame) htwins.length.symm

/-- **One call of the store.** -/
lemma transact {R : α → α → Prop} {call : Call}
    {run : GatewayRecoveryStore → Except RecoveryStoreError (α × GatewayRecoveryStore)}
    (hcall : ∀ (fault : StoreFault) store, fault.leaves store call = store)
    (hrun : ∀ store after, SameButReports store after → SameTransactions R (run store) (run after)) :
    Alike R (script.environment.transact call fun store => commit store (run store))
      (script.environment.transact call fun store => commit store (run store)) := by
  intro s t htwins
  obtain ⟨hlength, store, hstore, hservice⟩ := htwins
  have hcrashes : script.environment.crashes t.events = script.environment.crashes s.events :=
    congrArg script.crashes hlength
  have hfault : script.environment.fault t.events = script.environment.fault s.events :=
    congrArg script.fault hlength
  have hlog : ∀ e e' : Event, (t.events ++ [e]).length = (s.events ++ [e']).length := by
    intro e e'
    rw [List.length_append, List.length_append, hlength]
    rfl
  rw [Environment.transact, Environment.transact, hcrashes, hfault, hservice]
  cases script.environment.crashes s.events with
  | true => exact .crashed ⟨hlength, store, hstore, hservice⟩
  | false =>
    cases script.environment.fault s.events with
    | some fault =>
      simp only [Bool.false_eq_true, if_false, hcall]
      exact .raised rfl ⟨hlog _ _, store, hstore, rfl⟩
    | none =>
      have hboth := hrun s.state.recovery store hstore
      change Both Eq _ (run s.state.recovery) (run store) at hboth
      simp only [Bool.false_eq_true, if_false, commit]
      have hrecovery : (s.state.withStore store).recovery = store := rfl
      rw [hrecovery]
      generalize run s.state.recovery = x at hboth
      generalize run store = y at hboth
      cases hboth with
      | ok values => exact .ok values.1 ⟨hlog _ _, _, values.2, rfl⟩
      | error errors => exact .raised errors ⟨hlog _ _, store, hstore, rfl⟩

/-- A query, which may fail as well. -/
lemma readStore {query : GatewayRecoveryStore → Except RecoveryStoreError α}
    {R : α → α → Prop} (h : ∀ store after, SameButReports store after →
      Both Eq R (query store) (query after)) :
    Alike R (script.environment.readStore query) (script.environment.readStore query) := by
  refine Lockstep.bind (interact script (R := Both Eq R) ?_) fun _ _ hboth => .check hboth
  rintro s t ⟨hlength, store, hstore, hservice⟩
  have hfault : script.environment.fault t.events = script.environment.fault s.events :=
    congrArg script.fault hlength
  rw [hfault, hservice]
  cases script.environment.fault s.events with
  | some fault => exact .error rfl
  | none => exact h s.state.recovery store hstore

/-- A check of values that are the same. -/
lemma check_same (x : Except ε α) : Alike Eq (Crash.check x) (Crash.check x) :=
  Lockstep.check (.refl fun _ => rfl)

lemma getState : Alike (ε := ε) TwinServices Exchange.getState Exchange.getState :=
  Lockstep.getState fun _ _ htwins => htwins.services

lemma readStoreOk {query : GatewayRecoveryStore → Except RecoveryStoreError (Option α)}
    (h : ∀ store after, SameButReports store after → Both Eq Eq (query store) (query after)) :
    Alike (ε := ε) Eq (script.environment.readStoreOk query)
      (script.environment.readStoreOk query) := by
  refine (readStore script h).attempt.bind fun found _ hfound => ?_
  cases hfound with
  | ok values => exact .pure values
  | error errors => exact .pure rfl

lemma expireLeases (nowMillis : ℕ) : Alike Eq (script.environment.expireLeases nowMillis)
    (script.environment.expireLeases nowMillis) :=
  transact script (fun _ _ => rfl) fun _ _ h => h.expireLeases_both nowMillis

/-- A change of the memory that leaves the store alone. -/
lemma modifyState {f : RuntimeService → RuntimeService}
    (hf : ∀ service store, f (service.withStore store) = (f service).withStore store)
    (hstore : ∀ service, (f service).recovery = service.recovery) :
    Alike (ε := ε) (fun _ _ => True) (Exchange.modifyState f) (Exchange.modifyState f) := by
  refine Lockstep.modifyState fun s t htwins => ⟨htwins.length, ?_⟩
  obtain ⟨store, hsame, hservice⟩ := htwins.services
  refine ⟨store, (hstore s.state).symm ▸ hsame, ?_⟩
  rw [hservice]
  exact hf s.state store

lemma recoveryNowMillis : Alike (ε := ε) Eq script.environment.recoveryNowMillis
    script.environment.recoveryNowMillis := by
  refine (readUnixMillis script).bind fun wall _ hwall => ?_
  refine (readInstant script).bind fun instant _ hinstant => ?_
  subst hwall hinstant
  refine getState.bind fun service _ ⟨store, _, hservice⟩ => ?_
  subst hservice
  exact Lockstep.bind (modifyState (fun _ _ => rfl) fun _ => rfl) fun _ _ _ => .pure rfl

lemma recordOutcome (report : OutcomeReport) :
    Alike Eq (script.environment.recordOutcome report)
      (script.environment.recordOutcome report) :=
  transact script (fun _ _ => rfl) fun _ _ h => h.recordOutcome_both report

lemma recoveryOperationValue {operation other : RecoveryOperation}
    (h : SameUnreported operation other) :
    Alike (ε := ε) (fun _ _ => True) (script.environment.recoveryOperationValue operation)
      (script.environment.recoveryOperationValue other) := by
  have hids : (other.instanceId, other.operationId) =
      (operation.instanceId, operation.operationId) :=
    h.congr (f := fun o => (o.instanceId, o.operationId)) fun _ => rfl
  obtain ⟨hinstance, hoperation⟩ := Prod.mk.inj hids
  rw [Environment.recoveryOperationValue, Environment.recoveryOperationValue, hinstance,
    hoperation]
  refine Lockstep.bind (R := Eq) ?_ fun _ _ _ => .pure trivial
  exact readStoreOk script fun store after h => by
    rw [h.rest]
    exact .refl fun _ => rfl

/-- A frame to the host. -/
lemma forwardFrame (kind : RecoveryKind) (correlation : String) (proof : Option String)
    (payload : Json) : Alike (ε := ε) Eq
      (script.environment.forwardFrame kind correlation proof payload)
      (script.environment.forwardFrame kind correlation proof payload) := by
  refine getState.bind fun service _ ⟨store, _, hservice⟩ => ?_
  subst hservice
  refine (drawV4 script).bind fun messageId _ hmessage => ?_
  refine (readUnixMillis script).bind fun sentAt _ hsent => ?_
  subst hmessage hsent
  exact (sendControl script _).bind fun answer _ hanswer => .pure (hanswer ▸ rfl)

lemma forwardRecoveryControlResponse (kind : RecoveryKind) (correlation : String)
    (proof : Option String) (payload : Json) : Alike Eq
      (script.environment.forwardRecoveryControlResponse kind correlation proof payload)
      (script.environment.forwardRecoveryControlResponse kind correlation proof payload) := by
  refine (forwardFrame script kind correlation proof payload).bind fun frame _ hframe => ?_
  subst hframe
  refine (check_same _).bind fun response _ hresponse => ?_
  subst hresponse
  refine (check_same _).bind fun value _ hvalue => ?_
  subst hvalue
  exact (check_same _).bind fun _ _ _ => .pure rfl

lemma forwardRecoveryControl (kind : RecoveryKind) (correlation : String)
    (proof : Option String) (payload : Json) : Alike Eq
      (script.environment.forwardRecoveryControl kind correlation proof payload)
      (script.environment.forwardRecoveryControl kind correlation proof payload) := by
  refine (forwardRecoveryControlResponse script kind correlation proof payload).bind
    fun answer _ hanswer => ?_
  subst hanswer
  exact (check_same _).bind fun _ _ _ => .pure rfl

lemma checkRecoveryDeadline : Alike (ε := ε) (fun _ _ => True)
    script.environment.checkRecoveryDeadline script.environment.checkRecoveryDeadline := by
  have hdeadline : Alike (ε := ε) Eq script.environment.deadlinePassed
      script.environment.deadlinePassed := by
    refine getState.bind fun service _ ⟨store, _, hservice⟩ => ?_
    subst hservice
    have hdeadline : (service.withStore store).recoveryLeaseDeadline =
        service.recoveryLeaseDeadline := rfl
    rw [hdeadline]
    cases service.recoveryLeaseDeadline with
    | none => exact .pure rfl
    | some deadline =>
      exact (readInstant script).bind fun instant _ hinstant => .pure (hinstant ▸ rfl)
  refine hdeadline.bind fun passed _ hpassed => ?_
  subst hpassed
  cases passed with
  | false => exact .pure trivial
  | true =>
    refine (recoveryNowMillis script).bind fun now _ hnow => ?_
    subst hnow
    refine ((expireLeases script now).attempt).bind fun _ _ _ => ?_
    exact modifyState (fun _ _ => rfl) fun _ => rfl

lemma recordHostTicket [Sha256] (proof : RecoveryLeaseProof) (fence : RecoveryHostFence)
    (ticket : RecoveryAdmissionTicket) (nowMillis : ℕ) : Alike Eq
      (script.environment.recordHostTicket proof fence ticket nowMillis)
      (script.environment.recordHostTicket proof fence ticket nowMillis) :=
  transact script (fun _ _ => rfl) fun _ _ h => h.recordHostTicket_both proof fence ticket nowMillis

lemma leaseProofFromWire (value : Json) : Alike Eq (script.environment.leaseProofFromWire value)
    (script.environment.leaseProofFromWire value) := by
  refine (checkRecoveryDeadline script).bind fun _ _ _ => ?_
  refine getState.bind fun service _ ⟨store, _, hservice⟩ => ?_
  subst hservice
  exact Lockstep.bind (check_same _) fun lease _ hlease => .pure (hlease ▸ rfl)

section Hash

variable [Sha256]

lemma activeHostGrantMatches (lease : RecoveryLease) : Alike Eq
    (script.environment.activeHostGrantMatches lease)
    (script.environment.activeHostGrantMatches lease) := by
  refine getState.bind fun service _ ⟨store, _, hservice⟩ => ?_
  subst hservice
  have hboot : (service.withStore store).recoveryBoot = service.recoveryBoot := rfl
  have hfence : (service.withStore store).recoveryFence = service.recoveryFence := rfl
  rw [hboot, hfence]
  cases service.recoveryBoot with
  | none => exact .pure rfl
  | some boot =>
    cases service.recoveryFence with
    | none => exact .pure rfl
    | some fence =>
      have hbinding : Alike Eq (script.environment.hostLeaseBinding lease.leaseId)
          (script.environment.hostLeaseBinding lease.leaseId) :=
        readStore script fun store after h => by
          rw [h.rest]
          exact .refl fun _ => rfl
      have hcurrent : Alike Eq (script.environment.readStore (·.currentHostFence))
          (script.environment.readStore (·.currentHostFence)) :=
        readStore script fun store after h => by
          rw [h.rest]
          exact .refl fun _ => rfl
      refine hbinding.bind fun binding _ heq => ?_
      subst heq
      cases binding with
      | none => exact .pure rfl
      | some binding =>
        dsimp only
        split_ifs
        · refine hcurrent.bind fun durableFence _ heq => ?_
          subst heq
          split_ifs
          · exact .pure rfl
          · refine Lockstep.bind (check_same _) fun digest _ heq => ?_
            subst heq
            exact .pure rfl
        · exact .pure rfl

lemma requireHostLeaseReady (leaseId : String) : Alike Eq
    (script.environment.requireHostLeaseReady leaseId)
    (script.environment.requireHostLeaseReady leaseId) := by
  have hready : Alike Eq (script.environment.hostLeaseReady leaseId)
      (script.environment.hostLeaseReady leaseId) := by
    refine getState.bind fun service _ ⟨store, _, hservice⟩ => ?_
    subst hservice
    have hlease : (service.withStore store).recoveryLease = service.recoveryLease := rfl
    rw [hlease]
    cases service.recoveryLease with
    | none => exact .pure rfl
    | some lease =>
      dsimp only
      split_ifs
      · exact activeHostGrantMatches script lease
      · exact .pure rfl
  refine (hready.mapError fun _ _ heq => congrArg recoveryStoreError heq).bind
    fun ready _ heq => ?_
  subst heq
  exact check_same _

end Hash

/-- An operation that a reference names. -/
lemma found_or {E : Reply → Reply → Prop} {found found' : Option RecoveryOperation}
    (h : Option.Rel SameUnreported found found') (missing : Reply) (hE : E missing missing) :
    Lockstep Twins E SameUnreported (Crash.check (okOr found missing))
      (Crash.check (okOr found' missing)) := by
  cases h with
  | some hsame => exact .check (.ok hsame)
  | none => exact .check (.error hE)

/-- Two replies, or two early ones. -/
lemma answers {R : Reply → Reply → Prop} {p q : ServiceM Reply Reply} (h : Alike R p q) :
    Answers p q :=
  h.mono (fun _ _ _ => trivial) fun _ _ _ => trivial

/-- A reply that shows an operation. -/
lemma shows {operation other : RecoveryOperation} (h : SameUnreported operation other)
    (reply reply' : Json → Reply) :
    Alike (ε := ε) (fun _ _ => True)
      (script.environment.recoveryOperationValue operation >>= fun value => Pure.pure (reply value))
      (script.environment.recoveryOperationValue other >>= fun value => Pure.pure (reply' value)) :=
  (recoveryOperationValue script h).bind fun _ _ _ => .pure trivial

lemma recoveryOperationUnknown (operation : RecoveryOperation) (correlation : String)
    (status : UInt16) : Alike (fun _ _ => True)
      (script.environment.recoveryOperationUnknown operation correlation status)
      (script.environment.recoveryOperationUnknown operation correlation status) := by
  refine (recoveryNowMillis script).bind fun now _ hnow => ?_
  subst hnow
  refine ((recordOutcome script _).mapError fun _ _ heq => congrArg recoveryStoreError heq).bind
    fun stored _ hstored => ?_
  subst hstored
  exact shows script rfl _ _

section Hash

variable [Sha256]

omit [Sha256] in
/-- The watermark of a lease is no part of the store. -/
lemma observeRecoveryWitness (proof : RecoveryLeaseProof) (witness : RecoveryEffectWitness) :
    Alike (ε := ε) (fun _ _ => True)
      (Exchange.modifyState fun service => service.observeRecoveryWitness proof witness)
      (Exchange.modifyState fun service => service.observeRecoveryWitness proof witness) := by
  have hcatalog : ∀ (service : RuntimeService) catalog store,
      (service.withStore store).withCatalog catalog =
        (service.withCatalog catalog).withStore store := by
    intro service catalog store
    cases catalog <;> rfl
  have hkept : ∀ (service : RuntimeService) catalog,
      (service.withCatalog catalog).recovery = service.recovery := by
    intro service catalog
    cases catalog <;> rfl
  exact modifyState (fun service store => hcatalog service _ store) fun service => hkept service _

omit [Sha256] in
/-- The outcome of a dispatch, as it is recorded and shown. -/
lemma reported (proof : RecoveryLeaseProof) (report : OutcomeReport)
    (reply : RecoveryOperation → Json → Reply) :
    Alike (fun _ _ => True)
      (do
        let stored ← Crash.mapError recoveryStoreError (script.environment.recordOutcome report)
        if stored.state = .settled then
          if let some witness := stored.witness then
            Exchange.modifyState (·.observeRecoveryWitness proof witness)
        let value ← script.environment.recoveryOperationValue stored
        return reply stored value)
      (do
        let stored ← Crash.mapError recoveryStoreError (script.environment.recordOutcome report)
        if stored.state = .settled then
          if let some witness := stored.witness then
            Exchange.modifyState (·.observeRecoveryWitness proof witness)
        let value ← script.environment.recoveryOperationValue stored
        return reply stored value) := by
  refine ((recordOutcome script report).mapError fun _ _ heq => congrArg recoveryStoreError heq).bind
    fun stored _ hstored => ?_
  subst hstored
  dsimp only
  split_ifs
  · cases stored.witness with
    | none => exact shows script rfl _ _
    | some witness =>
      exact (observeRecoveryWitness proof witness).bind fun _ _ _ => shows script rfl _ _
  · exact shows script rfl _ _

lemma applyHostOperationResponse (proof : RecoveryLeaseProof) (operation : RecoveryOperation)
    (correlation : String) (response : Json) : Alike (fun _ _ => True)
      (script.environment.applyHostOperationResponse proof operation correlation response)
      (script.environment.applyHostOperationResponse proof operation correlation response) := by
  rw [Environment.applyHostOperationResponse]
  dsimp only
  split_ifs
  swap
  · exact recoveryOperationUnknown script operation correlation 502
  · refine getState.bind fun service _ ⟨store, _, hservice⟩ => ?_
    subst hservice
    have hfence : (service.withStore store).recoveryFence = service.recoveryFence := rfl
    rw [hfence]
    cases service.recoveryFence with
    | none => exact recoveryOperationUnknown script operation correlation 503
    | some currentFence =>
      dsimp only
      refine (recoveryNowMillis script).bind fun now _ hnow => ?_
      subst hnow
      cases parseHostTicket ((((response.get "payload").get "operation")).get "ticket") operation
          proof currentFence with
      | none => exact reported script proof _ _
      | some ticket =>
        exact ((recordHostTicket script proof currentFence ticket now).mapError
          fun _ _ heq => congrArg recoveryStoreError heq).bind fun _ _ _ => reported script proof _ _

omit [Sha256] in
lemma submitOperation (lease : RecoveryLease) (operation : RecoveryOperation) (proof : String) :
    Alike Eq (script.environment.submitOperation lease operation proof)
      (script.environment.submitOperation lease operation proof) := by
  refine (drawV4 script).bind fun intentCorrelation _ heq => ?_
  subst heq
  refine (forwardRecoveryControl script _ _ _ _).bind fun intent _ heq => ?_
  subst heq
  refine Lockstep.bind (check_same _) fun _ _ _ => ?_
  refine (drawV4 script).bind fun dispatchCorrelation _ heq => ?_
  subst heq
  exact forwardRecoveryControl script _ _ _ _

lemma forwardRecoveryOperation (proof : RecoveryLeaseProof) (operation : RecoveryOperation)
    (correlation : String) : Alike (fun _ _ => True)
      (script.environment.forwardRecoveryOperation proof operation correlation)
      (script.environment.forwardRecoveryOperation proof operation correlation) := by
  refine Lockstep.bind (modifyState (fun _ _ => rfl) fun _ => rfl) fun _ _ _ => ?_
  refine getState.bind fun service _ ⟨store, _, hservice⟩ => ?_
  subst hservice
  have hlease : (service.withStore store).recoveryLease = service.recoveryLease := rfl
  have hconfig : (service.withStore store).config = service.config := rfl
  rw [hlease, hconfig]
  cases service.recoveryLease with
  | none => exact recoveryOperationUnknown script operation correlation 503
  | some lease =>
    dsimp only
    cases submitProof service.config.secrets lease operation with
    | none => exact recoveryOperationUnknown script operation correlation 503
    | some authProof =>
      refine (submitOperation script lease operation authProof).attempt.bind
        fun answer _ hanswer => ?_
      cases hanswer with
      | ok values =>
        subst values
        exact applyHostOperationResponse script proof operation correlation _
      | error errors =>
        subst errors
        exact recoveryOperationUnknown script operation correlation _

lemma markAndForward (proof : RecoveryLeaseProof) (operationId : String) (nowMillis : ℕ)
    (correlation : String) : Alike (fun _ _ => True)
      (script.environment.markAndForward proof operationId nowMillis correlation)
      (script.environment.markAndForward proof operationId nowMillis correlation) := by
  refine ((transact script (fun _ _ => rfl) fun _ _ h => h.markDispatched_both proof
    proof.instanceId operationId nowMillis).mapError
      fun _ _ heq => congrArg recoveryStoreError heq).bind fun operation other hsame => ?_
  have hforward : script.environment.forwardRecoveryOperation proof other correlation =
      script.environment.forwardRecoveryOperation proof operation correlation :=
    hsame.congr (f := fun o => script.environment.forwardRecoveryOperation proof o correlation)
      fun _ => rfl
  rw [hforward]
  exact forwardRecoveryOperation script proof operation correlation

lemma recoveryOpsDispatch (frame : RecoveryFrame) : Alike (fun _ _ => True)
    (script.environment.recoveryOpsDispatch frame)
    (script.environment.recoveryOpsDispatch frame) := by
  refine (leaseProofFromWire script _).bind fun proof _ heq => ?_
  subst heq
  refine (requireHostLeaseReady script _).bind fun _ _ _ => ?_
  refine Lockstep.bind (check_same _) fun reference _ heq => ?_
  subst heq
  refine Lockstep.bind (check_same _) fun _ _ _ => ?_
  refine (recoveryNowMillis script).bind fun now _ heq => ?_
  subst heq
  refine ((readStore script fun _ _ h => h.lookupOperation _ _ _).mapError
    fun _ _ heq => congrArg recoveryStoreError heq).bind fun found found' hfound => ?_
  refine (found_or hfound _ rfl).bind fun operation other hsame => ?_
  have hcontext : operationContextMatches other proof = operationContextMatches operation proof :=
    hsame.congr (f := fun o => operationContextMatches o proof) fun _ => rfl
  rw [hcontext, hsame.state]
  refine Lockstep.bind (check_same _) fun _ _ _ => ?_
  split_ifs
  · exact markAndForward script proof _ now _
  · exact shows script hsame _ _

end Hash

/-! ### Lookups and reconciliations -/

lemma recoveryOpsUnknown {operation other : RecoveryOperation}
    (h : SameUnreported operation other) (kind : RecoveryKind) (correlation : String)
    (status : UInt16) : Alike (fun _ _ => True)
      (script.environment.recoveryOpsUnknown kind operation correlation status)
      (script.environment.recoveryOpsUnknown kind other correlation status) := by
  have hreport : ∀ now, Environment.unknownReport other now = Environment.unknownReport operation now := fun now =>
    h.congr (f := fun o => Environment.unknownReport o now) fun _ => rfl
  refine (recoveryNowMillis script).bind fun now _ heq => ?_
  subst heq
  rw [hreport now]
  refine (recordOutcome script _).attempt.bind fun answer answer' hanswer => ?_
  cases hanswer with
  | ok values =>
    subst values
    exact shows script rfl _ _
  | error errors =>
    subst errors
    dsimp only
    rw [h.state]
    split_ifs
    · exact shows script h _ _
    · exact .raise rfl

lemma persistHostEvidence {operation other : RecoveryOperation}
    (h : SameUnreported operation other) (evidence : HostOperationEvidence)
    (responseStatus : UInt16) (response : Json) (reconciliation : Bool) : Alike SameUnreported
      (script.environment.persistHostEvidence operation evidence responseStatus response
        reconciliation)
      (script.environment.persistHostEvidence other evidence responseStatus response
        reconciliation) := by
  have hstate : Environment.evidenceState other evidence reconciliation =
      Environment.evidenceState operation evidence reconciliation :=
    h.congr (f := fun o => Environment.evidenceState o evidence reconciliation) fun _ => rfl
  have hids : (other.instanceId, other.operationId) =
      (operation.instanceId, operation.operationId) :=
    h.congr (f := fun o => (o.instanceId, o.operationId)) fun _ => rfl
  obtain ⟨hinstance, hoperation⟩ := Prod.mk.inj hids
  have hrest : ∀ now, Alike SameUnreported
      (do
        let state ← Crash.check (Environment.evidenceState operation evidence reconciliation)
        if Environment.isTerminal operation.state ∧ operation.state ≠ state then return operation
        script.environment.recordOutcome
          { instanceId := operation.instanceId
            operationId := operation.operationId
            state
            responseStatus := some responseStatus
            responseBody := some response.toBytes.data.toList
            witness := evidence.witness
            uncertaintyReason := if state = .unknown then some .receiptMissing else none
            nowMillis := now })
      (do
        let state ← Crash.check (Environment.evidenceState operation evidence reconciliation)
        if Environment.isTerminal operation.state ∧ operation.state ≠ state then return other
        script.environment.recordOutcome
          { instanceId := operation.instanceId
            operationId := operation.operationId
            state
            responseStatus := some responseStatus
            responseBody := some response.toBytes.data.toList
            witness := evidence.witness
            uncertaintyReason := if state = .unknown then some .receiptMissing else none
            nowMillis := now }) := by
    intro now
    refine Lockstep.bind (check_same _) fun state _ heq => ?_
    subst heq
    by_cases hstays : Environment.isTerminal operation.state ∧ operation.state ≠ state
    · rw [if_pos hstays, if_pos hstays]
      exact .pure h
    · rw [if_neg hstays, if_neg hstays]
      exact (recordOutcome script _).mono (fun _ _ heq => heq) fun _ _ heq => heq ▸ rfl
  rw [Environment.persistHostEvidence, Environment.persistHostEvidence, hstate, hinstance,
    hoperation, h.state]
  refine (recoveryNowMillis script).bind fun now _ heq => ?_
  subst heq
  dsimp only
  cases evidence.ticket with
  | none => exact hrest now
  | some ticket =>
    exact (transact script (fun _ _ => rfl) fun _ _ h =>
      h.recordHistoricalHostTicket_both _ _).bind fun _ _ _ => hrest now

lemma requestEvidence {operation other : RecoveryOperation}
    (h : SameUnreported operation other) (kind : RecoveryKind) (correlation : String)
    (proof : Option String) (payload : Json) : Alike (fun _ _ => True)
      (script.environment.requestEvidence kind operation correlation proof payload)
      (script.environment.requestEvidence kind other correlation proof payload) := by
  cases proof with
  | none => exact recoveryOpsUnknown script h kind correlation 503
  | some proof =>
    refine (forwardRecoveryControlResponse script kind correlation (some proof)
      payload).attempt.bind fun answer answer' hanswer => ?_
    cases hanswer with
    | error errors =>
      subst errors
      exact recoveryOpsUnknown script h kind correlation _
    | ok values =>
      subst values
      rename_i answer
      obtain ⟨hostStatus, response⟩ := answer
      have hlookup : validateHostLookupResponse response other =
          validateHostLookupResponse response operation :=
        h.congr (f := fun o => validateHostLookupResponse response o) fun _ => rfl
      have hreconcile : validateHostReconcileResponse response other =
          validateHostReconcileResponse response operation :=
        h.congr (f := fun o => validateHostReconcileResponse response o) fun _ => rfl
      have hevidence : ∀ reconciliation, parseHostEvidence response other reconciliation =
          parseHostEvidence response operation reconciliation := fun reconciliation =>
        h.congr (f := fun o => parseHostEvidence response o reconciliation) fun _ => rfl
      dsimp only
      rw [hlookup, hreconcile, hevidence]
      generalize (if decide (kind = RecoveryKind.operationReconcile) = true then
        validateHostReconcileResponse response operation
        else validateHostLookupResponse response operation) = validated
      split_ifs
      · exact .pure trivial
      · cases parseHostEvidence response operation (decide (kind = .operationReconcile)) with
        | error reason => exact recoveryOpsUnknown script h kind correlation 502
        | ok evidence =>
          refine ((persistHostEvidence script h evidence hostStatus response _).mapError
            fun _ _ heq => congrArg recoveryStoreError heq).bind fun stored stored' hstored => ?_
          exact shows script hstored _ _
      · exact recoveryOpsUnknown script h kind correlation 502

lemma findOperation (kind : RecoveryKind) (instanceId : String) (reference : OperationRef)
    (operationRef : Json) (correlation : String) : Alike SameUnreported
      (script.environment.findOperation kind instanceId reference operationRef correlation)
      (script.environment.findOperation kind instanceId reference operationRef correlation) := by
  refine ((readStore script fun _ _ h => h.lookupOperation _ _ _).mapError
    fun _ _ heq => congrArg recoveryStoreError heq).bind fun found found' hfound => ?_
  refine (found_or hfound _ rfl).bind fun operation other hsame => ?_
  have hmatches : operationRefMatches operationRef other =
      operationRefMatches operationRef operation :=
    hsame.congr (f := fun o => operationRefMatches operationRef o) fun _ => rfl
  rw [hmatches]
  exact Lockstep.bind (check_same _) fun _ _ _ => .pure hsame

section Hash

variable [Sha256]

lemma recoveryOpsLookup (frame : RecoveryFrame) : Alike (fun _ _ => True)
    (script.environment.recoveryOpsLookup frame) (script.environment.recoveryOpsLookup frame) := by
  refine Lockstep.bind (check_same _) fun reference _ heq => ?_
  subst heq
  refine Lockstep.bind (check_same _) fun _ _ _ => ?_
  refine Lockstep.bind (check_same _) fun instanceId _ heq => ?_
  subst heq
  refine (findOperation script _ _ _ _ _).bind fun operation other hsame => ?_
  refine getState.bind fun service _ ⟨store, _, hservice⟩ => ?_
  subst hservice
  have hproof : historicalReadProof (service.withStore store).config.secrets other =
      historicalReadProof service.config.secrets operation :=
    hsame.congr (f := fun o => historicalReadProof service.config.secrets o) fun _ => rfl
  have hreference : operationRefValue other = operationRefValue operation :=
    hsame.congr (f := operationRefValue) fun _ => rfl
  rw [hproof, hreference]
  exact requestEvidence script hsame _ _ _ _

lemma recoveryOpsReconcile (frame : RecoveryFrame) : Alike (fun _ _ => True)
    (script.environment.recoveryOpsReconcile frame)
    (script.environment.recoveryOpsReconcile frame) := by
  refine Lockstep.bind (check_same _) fun reference _ heq => ?_
  subst heq
  refine getState.bind fun service _ ⟨store, _, hservice⟩ => ?_
  subst hservice
  refine Lockstep.bind (check_same _) fun fence _ heq => ?_
  subst heq
  refine Lockstep.bind (check_same _) fun strategy _ heq => ?_
  subst heq
  refine (findOperation script _ _ _ _ _).bind fun operation other hsame => ?_
  refine getState.bind fun service _ ⟨store, _, hservice⟩ => ?_
  subst hservice
  have hproof : reconcileProof (service.withStore store).config.secrets other strategy fence =
      reconcileProof service.config.secrets operation strategy fence :=
    hsame.congr (f := fun o => reconcileProof service.config.secrets o strategy fence) fun _ => rfl
  have hreference : operationRefValue other = operationRefValue operation :=
    hsame.congr (f := operationRefValue) fun _ => rfl
  rw [hproof, hreference]
  exact requestEvidence script hsame _ _ _ _

end Hash

end Alike

end Sts2Gateway.Service
