/-
What a call writes into the record of its operation.

* `recordAfter`: the record of a key after some exchanges, as the writes that succeeded left it;
* `Path.recordAfter_eq`: memory follows those writes;
* `Follows`, `writes_follow`: **every write follows the record before it**: it forgets a process
  only once that has ended and was seen without descendants, and raises the epoch once at most.
-/
import Sts2Gateway.Lifecycle.Starts

namespace Sts2Gateway.Lifecycle

open ControlPlane (InstanceId OperationId ProcessHandle)
open Procedure Exchange Crash

/-! ### Writes -/

/-- The record that a write which succeeded puts under its key. -/
def Event.recorded : Event → Option LifecycleOperation
  | .wrote (.insert operation) .done | .wrote (.update operation) .done => some operation
  | _ => none

/-- The record of a key after some exchanges; `known` are the records before them. -/
def recordAfter (known : Records) (events : List Event) (key : LifecycleRecordKey) :
    Option LifecycleOperation :=
  events.foldl (fun current event =>
    (event.recorded.filter fun operation => operation.key = key).or current) known[key]?

section Records

variable {known : Records} {events : List Event} {event : Event} {key : LifecycleRecordKey}
  {operation : LifecycleOperation}

lemma recordAfter_snoc : recordAfter known (events ++ [event]) key =
    (event.recorded.filter fun operation => operation.key = key).or
      (recordAfter known events key) := by
  rw [recordAfter, List.foldl_append, List.foldl_cons, List.foldl_nil]
  rfl

lemma recordAfter_quiet (h : event.recorded = none) :
    recordAfter known (events ++ [event]) key = recordAfter known events key := by
  rw [recordAfter_snoc, h]
  rfl

lemma recordAfter_recorded (h : event.recorded = some operation) :
    recordAfter known (events ++ [event]) key =
      if operation.key = key then some operation else recordAfter known events key := by
  rw [recordAfter_snoc, h]
  by_cases hkey : operation.key = key
  · rw [if_pos hkey, Option.filter_some, if_pos (decide_eq_true hkey)]
    rfl
  · rw [if_neg hkey, Option.filter_some, if_neg (by simpa using hkey)]
    rfl

lemma Event.Plain.recorded (h : event.Plain) : event.recorded = none := by
  rcases event with _ | _ | _ | _ | _ | _ | _ | _ | ⟨⟨⟩ | ⟨⟩ | _ | _, _⟩
  case wrote.insert => exact h.elim
  case wrote.update => exact h.elim
  all_goals rfl

end Records

/-! ### What a write follows -/

/-- A write that puts a record in the place of the old one: they are of one operation; it
forgets a process only once that has ended and was seen without descendants; and the epoch
stays, or rises by one, which it does once. -/
structure Follows (before : List Event) (old operation : LifecycleOperation) : Prop where
  precedes : old.Precedes operation
  gone : ∀ identity, old.process = some identity → operation.process = none →
    ∃ event, Event.Ends identity.process event ∧
      [event, .listedDescendants identity.process (.ok [])].Sublist before
  epoch : operation.authorityEpoch = old.authorityEpoch ∨
    operation.authorityEpoch = old.authorityEpoch + 1 ∧ old.requestEpoch = old.authorityEpoch

/-- Every write of a record among the events of a call: a new one has none before it, and every
other one follows the record before it. -/
def WritesFollow (known : Records) (events : List Event) : Prop :=
  ∀ before event after operation, events = before ++ event :: after →
    event.recorded = some operation →
    (event = .wrote (.insert operation) .done ∧ recordAfter known before operation.key = none) ∨
      ∃ old, recordAfter known before operation.key = some old ∧ Follows before old operation

section Writes

variable {env : Environment} {s₀ s t : CallState Coordinator Event} {known : Records}
  {events : List Event} {event : Event} {operation : LifecycleOperation}

lemma WritesFollow.snoc (h : WritesFollow known events)
    (hlast : ∀ operation, event.recorded = some operation →
      (event = .wrote (.insert operation) .done ∧
        recordAfter known events operation.key = none) ∨
      ∃ old, recordAfter known events operation.key = some old ∧ Follows events old operation) :
    WritesFollow known (events ++ [event]) := by
  intro before other after operation hsplit hrecorded
  obtain ⟨-, rfl, rfl⟩ | ⟨rest, -, hrest⟩ := append_singleton_eq_iff.mp hsplit
  · exact hlast operation hrecorded
  · exact h before other rest operation hrest hrecorded

lemma WritesFollow.quiet (h : WritesFollow known events) (hevent : event.recorded = none) :
    WritesFollow known (events ++ [event]) :=
  h.snoc fun operation hsome => by rw [hevent] at hsome; cases hsome

/-- What memory holds during a call is what the call has written, and each write follows the
one before. -/
structure Written (s₀ s : CallState Coordinator Event) (log : List Event) : Prop where
  began : s.events = s₀.events ++ log
  remembered : ∀ key, s.state.memory.retained.records[key]? =
    recordAfter s₀.state.memory.retained.records log key
  follow : WritesFollow s₀.state.memory.retained.records log

variable {log : List Event}

lemma Written.quiet (h : Written s₀ s log) (event : Event) {state : Coordinator}
    (hstate : state.memory.retained.records = s.state.memory.retained.records)
    (hevent : event.recorded = none) :
    Written s₀ ⟨state, s.events ++ [event]⟩ (log ++ [event]) where
  began := by rw [h.began, List.append_assoc]
  remembered key := by
    rw [recordAfter_quiet hevent, ← h.remembered key, ← hstate]
  follow := h.follow.quiet hevent

lemma Written.write (h : Written s₀ s log) {state : Coordinator}
    (hrecorded : event.recorded = some operation)
    (hstate : ∀ key, state.memory.retained.records[key]? =
      if operation.key = key then some operation else s.state.memory.retained.records[key]?)
    (hlast : (event = .wrote (.insert operation) .done ∧
        s.state.memory.retained.records[operation.key]? = none) ∨
      ∃ old, s.state.memory.retained.records[operation.key]? = some old ∧
        Follows log old operation) :
    Written s₀ ⟨state, s.events ++ [event]⟩ (log ++ [event]) where
  began := by rw [h.began, List.append_assoc]
  remembered key := by
    rw [recordAfter_recorded hrecorded, ← h.remembered key]
    exact hstate key
  follow := by
    refine h.follow.snoc fun other hother => ?_
    rw [hrecorded] at hother
    obtain rfl := Option.some.inj hother
    rw [← h.remembered]
    exact hlast

lemma Written.step (h : Written s₀ s log) (hstep : CallStep env s₀ s t) :
    ∃ log, Written s₀ t log := by
  cases hstep with
  | started generation operation startable answer =>
    exact ⟨_, h.quiet (.started generation answer) rfl rfl⟩
  | move hmove =>
    cases hmove with
    | asked event asks => exact ⟨_, h.quiet event rfl asks.plain.recorded⟩
    | failed w outcome asked error failure =>
      refine ⟨_, h.quiet (.wrote w outcome) rfl ?_⟩
      cases outcome with
      | done => cases failure
      | refused | lost => cases w <;> rfl
    | inserted operation admitted =>
      exact ⟨_, h.write rfl (fun key => LifecycleContents.getElem?_putRecord)
        (.inl ⟨rfl, admitted.absent⟩)⟩
    | updated old operation puttable =>
      refine ⟨_, h.write rfl (fun key => LifecycleContents.getElem?_putRecord)
        (.inr ⟨old, puttable.held, puttable.precedes, fun identity hold hnone => ?_,
          .inl puttable.epoch⟩)⟩
      obtain ⟨event, hends, hheard⟩ := puttable.gone identity hold hnone
      exact ⟨event, hends, hheard.sublist_log h.began⟩
    | rotated old operation held precedes current once epoch process =>
      refine ⟨_, h.write rfl (fun key => LifecycleContents.getElem?_putRecord)
        (.inr ⟨old, held, precedes, fun identity _ hnone => ?_, .inr ⟨epoch, once⟩⟩)⟩
      rw [hnone] at process
      cases process
    | confirmed | sequenced | unowned => exact ⟨log, h.began, h.remembered, h.follow⟩
    | owned row => exact ⟨_, h.quiet (.wrote (.setOwnership row) .done) rfl rfl⟩
    | disowned row => exact ⟨_, h.quiet (.wrote (.clearOwnershipIf row) .done) rfl rfl⟩

lemma Path.written (hs : Path env s₀ s) : ∃ log, Written s₀ s log := by
  induction hs with
  | refl =>
    refine ⟨[], (List.append_nil _).symm, fun _ => rfl, fun before event after _ hsplit => ?_⟩
    exact absurd hsplit.symm (List.append_ne_nil_of_right_ne_nil _ (List.cons_ne_nil _ _))
  | tail _ hstep ih =>
    obtain ⟨log, hlog⟩ := ih
    exact hlog.step hstep

end Writes

end Sts2Gateway.Lifecycle
