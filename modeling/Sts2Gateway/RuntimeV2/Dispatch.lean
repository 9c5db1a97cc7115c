/-
At-most-once dispatch of Runtime-v2 across crashes.

* `forwardedKey`: the operation key that an exchange forwarded;
* `DurablyBegun`: each forward of a call comes after a successful checkpoint of
  its operation without a result;
* `performed_forwards`: what a prefix of one call forwards was new to the
  ledger and is in whatever a restart may find afterwards;
* `performed_keeps`: no call drops a retained key;
* `dispatch_at_most_once`: **no run forwards a key twice**.
-/
import Mathlib.Tactic
import Sts2Gateway.RuntimeV2.Runs

namespace Sts2Gateway.RuntimeV2

open OrderedMap CheckpointedRun

/-- The key under which an exchange dispatched an action. -/
def forwardedKey : Event → Option OperationKey
  | .forward request _ => request.operationKey
  | _ => none

/-- Each forward follows, in the same call, a checkpoint that returned `Ok` for a
state that holds its operation without a result. -/
def DurablyBegun (events : List Event) : Prop :=
  ∀ before request answer after, events = before ++ Event.forward request answer :: after →
    ∃ (key : OperationKey) (presented : Ledger) (operation : Operation),
      request.operationKey = some key ∧ Event.checkpoint presented true ∈ before ∧
        presented.operations[key]? = some operation ∧ operation.request = request ∧
        operation.result = none

/-! ### One call -/

lemma retain_ne_none {ledger : Ledger} {key other : OperationKey} {request result : Message}
    (h : ledger.operations[key]? ≠ none) :
    (ledger.retain other request result).operations[key]? ≠ none := by
  rw [Ledger.retain, getElem?_insert_if]
  split_ifs
  · simp
  · exact h

lemma retain_self_ne_none (ledger : Ledger) (key : OperationKey) (request result : Message) :
    (ledger.retain key request result).operations[key]? ≠ none := by
  rw [Ledger.retain, getElem?_insert_if, if_pos rfl]
  simp

lemma begin_ne_none {ledger : Ledger} {key other : OperationKey} {request : Message}
    (h : ledger.operations[key]? ≠ none) :
    (ledger.begin other request).operations[key]? ≠ none := by
  rw [Ledger.begin, getElem?_insert_if]
  split_ifs
  · simp
  · exact h

lemma begin_self (ledger : Ledger) (key : OperationKey) (request : Message) :
    (ledger.begin key request).operations[key]? = some (.retained request none) := by
  rw [Ledger.begin, getElem?_insert_if, if_pos rfl]

lemma setResult_ne_none {ledger : Ledger} {key other : OperationKey} {result : Message}
    (h : ledger.operations[key]? ≠ none) :
    (ledger.setResult other result).operations[key]? ≠ none := by
  rw [Ledger.setResult, getElem?_modify_if]
  split_ifs with heq
  · subst heq
    simpa using h
  · exact h

/-- **No call drops a key**, in any state it presents. -/
lemma performed_keeps {d : Deployment} {ledger : Ledger} {call : Call} {o : Outcome}
    (hp : Performed ledger call o) {key : OperationKey} (h : ledger.operations[key]? ≠ none) :
    ∀ l ∈ d.service.reached o, l.operations[key]? ≠ none := by
  intro l hl
  rw [mem_reached] at hl
  cases hp with
  | refused _ | replayed _ _ _ | conflicted _ | observed _ _ _ =>
    simp only [List.not_mem_nil, exists_false, or_false] at hl
    rw [hl]
    exact h
  | unreconciled events _ _ hevents =>
    have : l = ledger := by
      rcases hevents with rfl | ⟨receipt, answer, rfl⟩ <;> simpa using hl
    rw [this]
    exact h
  | cancelled =>
    simp only [List.not_mem_nil, exists_false, or_false] at hl
    rw [hl]
    exact retain_ne_none h
  | rejected | unrejected | undispatched =>
    simp only [List.mem_cons, List.not_mem_nil, or_false, Event.checkpoint.injEq, exists_and_left,
      exists_eq, and_true] at hl
    rcases hl with rfl | rfl <;>
      first | exact h | exact retain_ne_none h | exact begin_ne_none h
  | @dispatched _ _ _ _ observation =>
    have h' : (ledger.observe observation).operations[key]? ≠ none := h
    simp only [List.mem_cons, List.not_mem_nil, or_false, Event.checkpoint.injEq, reduceCtorEq,
      false_or, exists_or, exists_and_left, exists_eq, and_true] at hl
    rcases hl with rfl | rfl | rfl
    · exact retain_ne_none h'
    · exact begin_ne_none h
    · exact retain_ne_none h'
  | @reconciled _ _ _ _ observation =>
    have h' : (ledger.observe observation).operations[key]? ≠ none := h
    simp only [List.mem_cons, List.not_mem_nil, or_false, reduceCtorEq, exists_false] at hl
    rw [hl]
    exact setResult_ne_none h'

/-- What a prefix of a call forwards was new to the ledger, and is in the ledger
the call leaves and in everything a restart may find after the prefix. -/
lemma performed_forwards {d : Deployment} {ledger : Ledger} {call : Call} {o : Outcome}
    (hp : Performed ledger call o) (exchanges : ℕ) :
    (o.events.take exchanges).filterMap forwardedKey = [] ∨
      ∃ key, (o.events.take exchanges).filterMap forwardedKey = [key] ∧
        ¬ ledger.operations[key]? ≠ none ∧ o.state.operations[key]? ≠ none ∧
        ∀ durable : Durable Ledger,
          ∀ l ∈ (d.service.after durable (o.events.take exchanges)).candidates,
            l.operations[key]? ≠ none := by
  cases hp with
  | refused _ | replayed _ _ _ | conflicted _ | cancelled | observed _ _ _ =>
    left
    simp
  | rejected | unrejected | undispatched | reconciled =>
    left
    cases exchanges <;> simp [forwardedKey]
  | unreconciled events _ _ hevents =>
    left
    rcases hevents with rfl | ⟨receipt, answer, rfl⟩ <;> cases exchanges <;> simp [forwardedKey]
  | @dispatched key request result retained observation answer ok _ hfresh =>
    have hforward : forwardedKey (.forward request answer) = some key := hfresh.admitted.key
    have hcheckpoint (l : Ledger) (ok : Bool) : forwardedKey (.checkpoint l ok) = none := rfl
    have hbegun : (ledger.begin key request).operations[key]? ≠ none := by
      rw [begin_self]
      simp
    have habsent : ¬ ledger.operations[key]? ≠ none := not_not.mpr hfresh.absent
    -- before the second exchange nothing was forwarded, after it the checkpoint holds the key
    match exchanges with
    | 0 => exact .inl rfl
    | 1 => exact .inl rfl
    | 2 =>
      refine .inr ⟨key, by simp [hforward, hcheckpoint], habsent, retain_self_ne_none _ _ _ _,
        fun durable l hl => ?_⟩
      obtain rfl : l = ledger.begin key request := List.mem_singleton.mp hl
      exact hbegun
    | n + 3 =>
      refine .inr ⟨key, by simp [hforward, hcheckpoint], habsent, retain_self_ne_none _ _ _ _,
        fun durable l hl => ?_⟩
      rw [List.take_of_length_le (by simp)] at hl
      cases ok with
      | true =>
        obtain rfl : l = (ledger.observe observation).retain key request result :=
          List.mem_singleton.mp hl
        exact retain_self_ne_none _ _ _ _
      | false =>
        obtain rfl | rfl : l = ledger.begin key request ∨
            l = (ledger.observe observation).retain key request result :=
          List.mem_pair.mp hl
        · exact hbegun
        · exact retain_self_ne_none _ _ _ _

/-- A prefix of durably begun exchanges is durably begun. -/
lemma DurablyBegun.take {events : List Event} (h : DurablyBegun events) (exchanges : ℕ) :
    DurablyBegun (events.take exchanges) := by
  intro before request answer after heq
  refine h before request answer (after ++ events.drop exchanges) ?_
  rw [← List.cons_append, ← List.append_assoc, ← heq, List.take_append_drop]

/-- **Each forward of a call is durably begun.** -/
lemma performed_begun {ledger : Ledger} {call : Call} {o : Outcome}
    (hp : Performed ledger call o) : DurablyBegun o.events := by
  intro before request answer after heq
  have hmem : Event.forward request answer ∈ o.events := by
    rw [heq]
    simp
  cases hp with
  | @dispatched key r _ _ _ _ _ _ hfresh =>
    -- the checkpoint before the only forward of the call
    obtain ⟨rfl, hbefore⟩ : r = request ∧
        Event.checkpoint (ledger.begin key r) true ∈ before := by
      match before with
      | [] => simp at heq
      | [first] =>
        simp only [List.cons_append, List.nil_append, List.cons.injEq, Event.forward.injEq] at heq
        exact ⟨heq.2.1.1, by simp [heq.1]⟩
      | first :: second :: [] => simp at heq
      | first :: second :: third :: rest => simp at heq
    exact ⟨key, ledger.begin key r, _, hfresh.admitted.key, hbefore, begin_self _ _ _, rfl, rfl⟩
  | unreconciled events _ _ hevents =>
    rcases hevents with rfl | ⟨receipt, answer, rfl⟩ <;> simp at hmem
  | _ => simp at hmem

/-! ### Whole runs -/

/-- The ledger never drops a key, and forwards one only once it is durable. -/
lemma dispatch_rule (d : Deployment) :
    d.service.Dispatch (Ledger.Of d) forwardedKey
      (fun (ledger : Ledger) (key : OperationKey) => ledger.operations[key]? ≠ none) where
  kept := fun ledger env call key h hhas =>
    performed_keeps (perform_cases h.valid env call) hhas
  restored := by
    intro c ledger restored key h hhas hrestored
    rw [restored_eq h c] at hrestored
    cases hrestored
    rw [restarted_row]
    simpa using hhas
  dispatched := fun ledger env call exchanges h =>
    performed_forwards (perform_cases h.valid env call) exchanges

/-- The calls of every run are durably begun, whole or cut short. -/
lemma begun_rule (d : Deployment) :
    d.service.History (Ledger.Of d) (fun _ _ => True) (fun _ r => DurablyBegun r.events) where
  mono := fun _ _ _ _ => trivial
  recordMono := fun _ _ _ h => h
  fresh := fun _ => trivial
  returned := fun _ _ env call h _ => ⟨trivial, performed_begun (perform_cases h.valid env call)⟩
  handed := fun _ _ env call exchanges h _ =>
    ⟨fun _ _ => trivial, (performed_begun (perform_cases h.valid env call)).take exchanges⟩
  restored := fun _ _ _ _ _ _ _ => trivial

/-- **At-most-once dispatch.**  However calls, crashes and restarts interleave and
whatever the ports and the checkpoints answer, no operation key is forwarded
twice, and each forward comes after a successful checkpoint, in the same call,
of a state that holds the operation without a result. -/
theorem dispatch_at_most_once (d : Deployment) (c : Construction) (steps : List Step) :
    let s := d.run c steps
    (∀ key, (s.events.filterMap forwardedKey).count key ≤ 1) ∧
      ∀ record ∈ s.trace, DurablyBegun record.events := by
  have honce := (dispatch_rule d).at_most_once (of_invariant d) c steps
  have hbegun := (begun_rule d).run (of_invariant d) c steps
  exact ⟨fun key => List.nodup_iff_count_le_one.mp honce.nodup key, hbegun.2⟩

end Sts2Gateway.RuntimeV2
