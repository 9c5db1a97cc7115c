/-
At-most-once starts of seeded runs across crashes.

* `forwardedId`: the operation id that an exchange forwarded;
* `performed_keeps`: no call drops a retained id;
* `performed_forwards`: what a prefix of one call forwards was new to the ledger
  and is in whatever a restart may find afterwards;
* `start_at_most_once`: **no run forwards an id twice, and no state of a run has
  lost an id that was forwarded**.
-/
import Mathlib.Tactic
import Sts2Gateway.SeededRun.Restart

namespace Sts2Gateway.SeededRun

open OrderedMap CheckpointedRun Text

/-- The id under which an exchange dispatched a start. -/
def forwardedId : Event → Option String
  | .forward request _ => some request.operationId
  | _ => none

/-! ### One call -/

lemma retain_keeps {ledger : Ledger} {id : String} {request result : Message}
    (h : ledger.operations[id]? ≠ none) : (ledger.retain request result).operations[id]? ≠ none := by
  rw [Ledger.retain, getElem?_insert_if]
  split_ifs
  · simp
  · exact h

lemma begin_keeps {ledger : Ledger} {id : String} {request : Message}
    (h : ledger.operations[id]? ≠ none) : (ledger.begin request).operations[id]? ≠ none := by
  rw [Ledger.begin, getElem?_insert_if]
  split_ifs
  · simp
  · exact h

lemma retain_self (ledger : Ledger) (request result : Message) :
    (ledger.retain request result).operations[request.operationId]? ≠ none := by
  rw [Ledger.retain, getElem?_insert_if, if_pos rfl]
  simp

lemma begin_self (ledger : Ledger) (request : Message) :
    (ledger.begin request).operations[request.operationId]? ≠ none := by
  rw [Ledger.begin, getElem?_insert_if, if_pos rfl]
  simp

lemma setResult_keeps {ledger : Ledger} {id other : String} {result : Message}
    (h : ledger.operations[id]? ≠ none) :
    (ledger.setResult other result).operations[id]? ≠ none := by
  rw [Ledger.setResult, getElem?_modify_if]
  split_ifs with heq
  · subst heq
    simpa using h
  · exact h

section Digest

variable [Sha256] {d : Deployment} {ledger : Ledger} {call : Call} {o : Outcome}

/-- **No call drops an id**, in any state it presents. -/
lemma performed_keeps (hp : Performed ledger call o) {id : String}
    (h : ledger.operations[id]? ≠ none) :
    ∀ l ∈ d.service.reached o, l.operations[id]? ≠ none := by
  intro l hl
  rw [mem_reached] at hl
  have hset : ∀ generation, (ledger.setGeneration generation).operations[id]? ≠ none := fun _ => h
  cases hp with
  | refused | replayed =>
    simp only [List.not_mem_nil, exists_false, or_false] at hl
    rw [hl]
    exact h
  | unreconciled request events _ _ hevents =>
    have : l = ledger := by
      rcases hevents with rfl | ⟨receipt, answer, rfl⟩ <;> simpa using hl
    rw [this]
    exact h
  | stale =>
    simp only [List.mem_singleton, Event.checkpoint.injEq, exists_and_left, exists_eq,
      and_true, or_self] at hl
    rw [hl]
    exact retain_keeps h
  | undispatched =>
    simp only [List.mem_singleton, Event.checkpoint.injEq, exists_and_left, exists_eq,
      and_true] at hl
    rcases hl with rfl | rfl
    · exact hset _
    · exact begin_keeps (hset _)
  | stranded =>
    simp only [List.mem_cons, List.not_mem_nil, or_false, Event.checkpoint.injEq, reduceCtorEq,
      exists_and_left, exists_eq, and_true, or_self] at hl
    rw [hl]
    exact begin_keeps (hset _)
  | dispatched =>
    simp only [List.mem_cons, List.not_mem_nil, or_false, Event.checkpoint.injEq, reduceCtorEq,
      false_or, exists_or, exists_and_left, exists_eq, and_true] at hl
    rcases hl with rfl | rfl | rfl
    · exact retain_keeps (hset _)
    · exact begin_keeps (hset _)
    · exact retain_keeps (hset _)
  | reconciled =>
    simp only [List.mem_singleton, reduceCtorEq, exists_false, or_false] at hl
    rw [hl]
    exact setResult_keeps (hset _)

/-- What a prefix of a call forwards was new to the ledger, and is in the ledger
the call leaves and in everything a restart may find after the prefix. -/
lemma performed_forwards (hp : Performed ledger call o) (exchanges : ℕ) :
    (o.events.take exchanges).filterMap forwardedId = [] ∨
      ∃ id, (o.events.take exchanges).filterMap forwardedId = [id] ∧
        ¬ ledger.operations[id]? ≠ none ∧ o.state.operations[id]? ≠ none ∧
        ∀ durable : Durable Ledger,
          ∀ l ∈ (d.service.after durable (o.events.take exchanges)).candidates,
            l.operations[id]? ≠ none := by
  have hcheckpoint (l : Ledger) (ok : Bool) : forwardedId (.checkpoint l ok) = none := rfl
  have hforward (request : Message) (answer : Except TransportFault Message) :
      forwardedId (.forward request answer) = some request.operationId := rfl
  cases hp with
  | refused | replayed =>
    left
    simp
  | stale | undispatched | reconciled =>
    left
    cases exchanges <;> simp [forwardedId]
  | unreconciled request events _ _ hevents =>
    left
    rcases hevents with rfl | ⟨receipt, answer, rfl⟩ <;> cases exchanges <;> simp [forwardedId]
  | @stranded request response error _ hfresh =>
    -- before the second exchange nothing was forwarded, after it the checkpoint holds the id
    match exchanges with
    | 0 => exact .inl rfl
    | 1 => exact .inl rfl
    | n + 2 =>
      refine .inr ⟨request.operationId, by simp [hcheckpoint, hforward], not_not.mpr hfresh.absent,
        begin_self _ _, fun durable l hl => ?_⟩
      rw [List.take_of_length_le (by simp)] at hl
      obtain rfl : l = (ledger.setGeneration request.generation).begin request :=
        List.mem_singleton.mp hl
      exact begin_self _ _
  | @dispatched request result answer generation ok _ hfresh =>
    match exchanges with
    | 0 => exact .inl rfl
    | 1 => exact .inl rfl
    | 2 =>
      refine .inr ⟨request.operationId, by simp [hcheckpoint, hforward], not_not.mpr hfresh.absent,
        retain_self _ _ _, fun durable l hl => ?_⟩
      obtain rfl : l = (ledger.setGeneration request.generation).begin request :=
        List.mem_singleton.mp hl
      exact begin_self _ _
    | n + 3 =>
      refine .inr ⟨request.operationId, by simp [hcheckpoint, hforward], not_not.mpr hfresh.absent,
        retain_self _ _ _, fun durable l hl => ?_⟩
      rw [List.take_of_length_le (by simp)] at hl
      cases ok with
      | true =>
        obtain rfl : l = (ledger.setGeneration generation).retain request result :=
          List.mem_singleton.mp hl
        exact retain_self _ _ _
      | false =>
        obtain rfl | rfl : l = (ledger.setGeneration request.generation).begin request ∨
            l = (ledger.setGeneration generation).retain request result :=
          List.mem_pair.mp hl
        · exact begin_self _ _
        · exact retain_self _ _ _

/-! ### Whole runs -/

/-- The ledger never drops an id, and forwards one only once it is durable. -/
lemma dispatch_rule (d : Deployment) :
    d.service.Dispatch (Ledger.Of d) forwardedId
      (fun (ledger : Ledger) (id : String) => ledger.operations[id]? ≠ none) where
  kept := fun _ env call _ h hhas => performed_keeps (perform_cases h.valid env call) hhas
  restored := by
    intro c ledger restored id h hhas hrestored
    rw [restored_eq h hrestored, restarted_row]
    simpa using hhas
  dispatched := fun _ env call exchanges h =>
    performed_forwards (perform_cases h.valid env call) exchanges

/-- **At-most-once start.**  However calls, crashes and restarts interleave and
whatever the port and the checkpoints answer, no operation id is forwarded twice,
and an id that was forwarded is retained by the ledger and by every state that a
restart may find. -/
theorem start_at_most_once (d : Deployment) (c : Construction) (steps : List Step) :
    let s := d.run c steps
    (∀ id, (s.events.filterMap forwardedId).count id ≤ 1) ∧
      ∀ id ∈ s.events.filterMap forwardedId, ∀ l ∈ s.states, l.operations[id]? ≠ none := by
  have honce := (dispatch_rule d).at_most_once (of_invariant d) c steps
  exact ⟨fun id => List.nodup_iff_count_le_one.mp honce.nodup id, honce.kept⟩

end Digest

end Sts2Gateway.SeededRun
