/-
The synchronization ledger of a co-op session (`coop_session.rs`).

* `CoopSession`: the peers of a session, each with the generation that it reported last;
* `registerPeer`, `updateGeneration`, `disconnect`, `reconnect`: what peers do;
* `advanceConvergedGeneration`: **the generation moves when all peers agree**;
* `snapshot`, `authorizeMutation`: the precondition of a mutation;
* `coop_session_sound`: generations, peers and mutations over every run.
-/
import Mathlib.Tactic
import Sts2Gateway.Library.Machine
import Sts2Gateway.Library.OrderedMap
import Sts2Gateway.Library.Procedure
import Sts2Gateway.ControlPlane.Contract

namespace Sts2Gateway.ControlPlane

open Std (ExtTreeMap)
open Machine OrderedMap Procedure

/-! ### The ledger -/

def maxPeers : ℕ := 4
def maxCoopGeneration : ℕ := 9007199254740991

/-- The role of a peer, given by the owner of the session. -/
inductive CoopPeerRole
  | local
  | ally
deriving DecidableEq, Repr

inductive PeerStatus
  | connected
  | disconnected
deriving DecidableEq, Repr

structure PeerBinding where
  role : CoopPeerRole
  generation : ℕ
  status : PeerStatus
deriving DecidableEq, Repr

inductive CoopSessionError
  | peerCapacity
  | duplicatePeer
  | duplicateLocalPeer
  | unknownPeer
  | generationOutOfBounds
  | missingLocalPeer
  | generationDisagreement
  | mutationSuspended
deriving DecidableEq, Repr

abbrev CoopPeers := ExtTreeMap CallerId PeerBinding compare

structure CoopSession where
  instanceId : InstanceId
  leaseEpoch : LeaseEpoch
  generation : ℕ
  peers : CoopPeers

structure CoopSynchronizationSnapshot where
  instanceId : InstanceId
  leaseEpoch : LeaseEpoch
  generation : ℕ
  peerCount : ℕ
  missingPeers : List CallerId
  disagreement : Bool
  hasLocalPeer : Bool
deriving DecidableEq, Repr

def CoopSynchronizationSnapshot.mutationAllowed (snapshot : CoopSynchronizationSnapshot) : Bool :=
  snapshot.hasLocalPeer && !snapshot.disagreement && snapshot.missingPeers.isEmpty &&
    2 ≤ snapshot.peerCount

namespace CoopSession

def new (instanceId : InstanceId) (leaseEpoch : LeaseEpoch) (generation : ℕ) : CoopSession :=
  { instanceId, leaseEpoch, generation, peers := ∅ }

variable (session : CoopSession)

/-- The peers in the order of their ids. -/
def values : List PeerBinding := session.peers.toList.map Prod.snd

/-- `any` over the peers for a local one. -/
def hasLocalPeer : Bool := session.values.any fun peer => peer.role = .local

def withPeers (peers : CoopPeers) : CoopSession := { session with peers }

def advanceConvergedGeneration : CoopSession :=
  if session.peers.size < 2 then session
  else
    match session.values.find? fun peer => peer.role = .local with
    | none => session
    | some localPeer =>
      if session.generation ≤ localPeer.generation ∧ (session.values.all fun peer =>
          peer.status = .connected && peer.generation = localPeer.generation) then
        { session with generation := localPeer.generation }
      else session

def registerPeer (peerId : CallerId) (role : CoopPeerRole) (generation : ℕ) :
    Except CoopSessionError CoopSession := do
  refuse (maxPeers ≤ session.peers.size ∧ peerId ∉ session.peers) .peerCapacity
  refuse (generation > maxCoopGeneration) .generationOutOfBounds
  refuse (peerId ∈ session.peers) .duplicatePeer
  refuse (generation ≠ session.generation) .generationDisagreement
  refuse (role = .local ∧ session.hasLocalPeer) .duplicateLocalPeer
  return (session.withPeers (session.peers.insert peerId
    { role, generation, status := .connected })).advanceConvergedGeneration

def updateGeneration (peerId : CallerId) (generation : ℕ) :
    Except CoopSessionError CoopSession := do
  refuse (generation > maxCoopGeneration) .generationOutOfBounds
  let peer ← okOr session.peers[peerId]? .unknownPeer
  return (session.withPeers (session.peers.insert peerId
    { peer with generation })).advanceConvergedGeneration

def disconnect (peerId : CallerId) : Except CoopSessionError CoopSession := do
  let peer ← okOr session.peers[peerId]? .unknownPeer
  return session.withPeers (session.peers.insert peerId { peer with status := .disconnected })

def reconnect (peerId : CallerId) (generation : ℕ) : Except CoopSessionError CoopSession := do
  refuse (generation > maxCoopGeneration) .generationOutOfBounds
  let peer ← okOr session.peers[peerId]? .unknownPeer
  return (session.withPeers (session.peers.insert peerId
    { peer with generation, status := .connected })).advanceConvergedGeneration

def snapshot : CoopSynchronizationSnapshot where
  instanceId := session.instanceId
  leaseEpoch := session.leaseEpoch
  generation := session.generation
  peerCount := session.peers.size
  missingPeers := (session.peers.toList.filter fun entry =>
    entry.2.status = .disconnected).map Prod.fst
  disagreement := session.values.any fun peer => peer.generation ≠ session.generation
  hasLocalPeer := session.hasLocalPeer

/-- A precondition of a mutation: the caller is not looked at. -/
def authorizeMutation (generation : ℕ) : Except CoopSessionError Unit := do
  refuse (generation ≠ session.snapshot.generation) .generationDisagreement
  refuse (session.hasLocalPeer = false) .missingLocalPeer
  refuse (session.snapshot.mutationAllowed = false) .mutationSuspended

/-! ### Runs -/

/-- What a peer does. -/
inductive Call
  | registerPeer (peerId : CallerId) (role : CoopPeerRole) (generation : ℕ)
  | updateGeneration (peerId : CallerId) (generation : ℕ)
  | disconnect (peerId : CallerId)
  | reconnect (peerId : CallerId) (generation : ℕ)

def perform : Call → Except CoopSessionError CoopSession
  | .registerPeer peerId role generation => session.registerPeer peerId role generation
  | .updateGeneration peerId generation => session.updateGeneration peerId generation
  | .disconnect peerId => session.disconnect peerId
  | .reconnect peerId generation => session.reconnect peerId generation

/-- A refused call leaves the session as it was. -/
def step (call : Call) : CoopSession :=
  match session.perform call with
  | .ok after => after
  | .error _ => session

/-! ### Peers -/

variable {session}

lemma mem_values {peer : PeerBinding} :
    peer ∈ session.values ↔ ∃ peerId : CallerId, session.peers[peerId]? = some peer := by
  rw [values, List.mem_map]
  constructor
  · rintro ⟨⟨peerId, peer⟩, hmem, rfl⟩
    exact ⟨peerId, ExtTreeMap.mem_toList_iff_getElem?_eq_some.mp hmem⟩
  · rintro ⟨peerId, hpeer⟩
    exact ⟨(peerId, peer), ExtTreeMap.mem_toList_iff_getElem?_eq_some.mpr hpeer, rfl⟩

lemma hasLocalPeer_iff : session.hasLocalPeer = true ↔
    ∃ (peerId : CallerId) (peer : PeerBinding), session.peers[peerId]? = some peer ∧
      peer.role = .local := by
  simp only [hasLocalPeer, List.any_eq_true, mem_values, decide_eq_true_eq]
  constructor
  · rintro ⟨peer, ⟨peerId, hpeer⟩, hrole⟩
    exact ⟨peerId, peer, hpeer, hrole⟩
  · rintro ⟨peerId, peer, hpeer, hrole⟩
    exact ⟨peer, ⟨peerId, hpeer⟩, hrole⟩

/-- Every peer is connected and at a generation. -/
def AllAt (session : CoopSession) (generation : ℕ) : Prop :=
  ∀ (peerId : CallerId) (peer : PeerBinding), session.peers[peerId]? = some peer →
    peer.status = .connected ∧ peer.generation = generation

/-! ### Mutations -/

/-- **A mutation is authorized** when there is a local peer among at least two, and all are
connected and at the generation of the session, which is named. -/
lemma authorizeMutation_isOk {generation : ℕ} :
    (session.authorizeMutation generation).isOk = true ↔
      session.hasLocalPeer = true ∧ 2 ≤ session.peers.size ∧ session.AllAt session.generation ∧
        generation = session.generation := by
  have hmissing : session.snapshot.missingPeers.isEmpty = true ↔
      ∀ (peerId : CallerId) (peer : PeerBinding), session.peers[peerId]? = some peer →
        peer.status = .connected := by
    rw [List.isEmpty_iff, snapshot, List.map_eq_nil_iff, List.filter_eq_nil_iff]
    constructor
    · intro h peerId peer hpeer
      have hmem := ExtTreeMap.mem_toList_iff_getElem?_eq_some.mpr hpeer
      have hstatus := h _ hmem
      cases hcase : peer.status with
      | connected => rfl
      | disconnected =>
        rw [hcase] at hstatus
        exact absurd rfl hstatus
    · rintro h ⟨peerId, peer⟩ hmem
      rw [h peerId peer (ExtTreeMap.mem_toList_iff_getElem?_eq_some.mp hmem)]
      decide
  have hagree : session.snapshot.disagreement = false ↔
      ∀ (peerId : CallerId) (peer : PeerBinding), session.peers[peerId]? = some peer →
        peer.generation = session.generation := by
    rw [snapshot, List.any_eq_false]
    constructor
    · intro h peerId peer hpeer
      have hne := h peer (mem_values.mpr ⟨peerId, hpeer⟩)
      simpa using hne
    · intro h peer hmem
      obtain ⟨peerId, hpeer⟩ := mem_values.mp hmem
      simpa using h peerId peer hpeer
  have hallowed : session.snapshot.mutationAllowed = true ↔
      session.hasLocalPeer = true ∧ session.AllAt session.generation ∧
        2 ≤ session.peers.size := by
    rw [CoopSynchronizationSnapshot.mutationAllowed, Bool.and_eq_true_iff, Bool.and_eq_true_iff,
      Bool.and_eq_true_iff, Bool.not_eq_true', hmissing, hagree, decide_eq_true_eq]
    constructor
    · rintro ⟨⟨⟨hlocal, hgeneration⟩, hstatus⟩, hsize⟩
      exact ⟨hlocal, fun peerId peer hpeer =>
        ⟨hstatus peerId peer hpeer, hgeneration peerId peer hpeer⟩, hsize⟩
    · rintro ⟨hlocal, hall, hsize⟩
      exact ⟨⟨⟨hlocal, fun peerId peer hpeer => (hall peerId peer hpeer).2⟩,
        fun peerId peer hpeer => (hall peerId peer hpeer).1⟩, hsize⟩
  have hok : (session.authorizeMutation generation).isOk = true ↔
      session.authorizeMutation generation = .ok () := by
    cases session.authorizeMutation generation with
    | ok u => exact iff_of_true rfl rfl
    | error e => exact iff_of_false (fun h => nomatch h) fun h => nomatch h
  rw [hok]
  simp only [authorizeMutation, except_bind_eq_ok, refuse_eq_ok, exists_const, not_not,
    Bool.not_eq_false, hallowed]
  constructor
  · rintro ⟨hgeneration, hlocal, -, hall, hsize⟩
    exact ⟨hlocal, hsize, hall, hgeneration⟩
  · rintro ⟨hlocal, hsize, hall, hgeneration⟩
    exact ⟨hgeneration, hlocal, hlocal, hall, hsize⟩

/-! ### One call -/

/-- At most four peers, and at most one local one. -/
structure Bounded (session : CoopSession) : Prop where
  size : session.peers.size ≤ maxPeers
  oneLocal : ∀ (a b : CallerId) (p q : PeerBinding), session.peers[a]? = some p →
    session.peers[b]? = some q → p.role = .local → q.role = .local → a = b

/-- The generation does not fall, and moves only where all peers have come to. -/
structure Advances (session after : CoopSession) : Prop where
  generation : session.generation ≤ after.generation
  agreed : after.generation ≠ session.generation → after.AllAt after.generation

lemma advance_peers : session.advanceConvergedGeneration.peers = session.peers := by
  unfold advanceConvergedGeneration
  split_ifs
  · rfl
  · split
    · rfl
    · split_ifs
      · rfl
      · rfl

lemma advance_advances : Advances session session.advanceConvergedGeneration := by
  have hsame : Advances session session := ⟨le_rfl, fun hne => absurd rfl hne⟩
  unfold advanceConvergedGeneration
  split_ifs with hfew
  · exact hsame
  · split
    · exact hsame
    · rename_i localPeer _
      split_ifs with hconverged
      · refine ⟨hconverged.1, fun _ peerId peer hpeer => ?_⟩
        have hall := List.all_eq_true.mp hconverged.2 peer (mem_values.mpr ⟨peerId, hpeer⟩)
        simpa using hall
      · exact hsame

lemma Bounded.of_peers {after : CoopSession} (h : Bounded session)
    (hpeers : after.peers = session.peers) : Bounded after := by
  obtain ⟨hsize, hlocal⟩ := h
  refine ⟨?_, ?_⟩
  · rw [hpeers]
    exact hsize
  · rw [hpeers]
    exact hlocal

/-- A peer that keeps its role. -/
lemma Bounded.replace (h : Bounded session) {peerId : CallerId} {old peer : PeerBinding}
    (hold : session.peers[peerId]? = some old) (hrole : peer.role = old.role) :
    Bounded (session.withPeers (session.peers.insert peerId peer)) := by
  have hmem : peerId ∈ session.peers := mem_iff_getElem?_ne_none.mpr (by rw [hold]; simp)
  -- the role of every peer is what it was
  have hbefore : ∀ (a : CallerId) (p : PeerBinding),
      (session.peers.insert peerId peer)[a]? = some p →
        ∃ q : PeerBinding, session.peers[a]? = some q ∧ q.role = p.role := by
    intro a p hp
    rw [getElem?_insert_if] at hp
    split_ifs at hp with ha
    · obtain rfl := Option.some.inj hp
      subst ha
      exact ⟨old, hold, hrole.symm⟩
    · exact ⟨p, hp, rfl⟩
  refine ⟨?_, fun a b p q hp hq hplocal hqlocal => ?_⟩
  · rw [withPeers, size_insert_of_mem hmem]
    exact h.size
  · obtain ⟨p', hp', hprole⟩ := hbefore a p hp
    obtain ⟨q', hq', hqrole⟩ := hbefore b q hq
    exact h.oneLocal a b p' q' hp' hq' (hprole.trans hplocal) (hqrole.trans hqlocal)

/-- A new peer, which is local only where there was no local one. -/
lemma Bounded.register (h : Bounded session) {peerId : CallerId} {peer : PeerBinding}
    (hnew : session.peers[peerId]? = none) (hroom : session.peers.size < maxPeers)
    (hlocal : peer.role = .local → session.hasLocalPeer = false) :
    Bounded (session.withPeers (session.peers.insert peerId peer)) := by
  have hnone : peer.role = .local → ∀ (a : CallerId) (p : PeerBinding),
      session.peers[a]? = some p → p.role ≠ .local := by
    intro hrole a p hp hplocal
    have hhas : session.hasLocalPeer = true := hasLocalPeer_iff.mpr ⟨a, p, hp, hplocal⟩
    rw [hlocal hrole] at hhas
    cases hhas
  refine ⟨?_, fun a b p q hp hq hplocal hqlocal => ?_⟩
  · rw [withPeers, size_insert_of_none hnew]
    omega
  · rw [withPeers, getElem?_insert_if] at hp hq
    split_ifs at hp with ha <;> split_ifs at hq with hb
    · exact ha.symm.trans hb
    · obtain rfl := Option.some.inj hp
      exact absurd hqlocal (hnone hplocal b q hq)
    · obtain rfl := Option.some.inj hq
      exact absurd hplocal (hnone hqlocal a p hp)
    · exact h.oneLocal a b p q hp hq hplocal hqlocal

/-- **One call** keeps the bounds and does not move the generation back. -/
theorem step_sound (h : Bounded session) (call : Call) :
    Bounded (session.step call) ∧ Advances session (session.step call) := by
  have hsame : Bounded session ∧ Advances session session :=
    ⟨h, le_rfl, fun hne => absurd rfl hne⟩
  have hadvanced : ∀ peers, Bounded (session.withPeers peers) →
      Bounded (session.withPeers peers).advanceConvergedGeneration ∧
        Advances session (session.withPeers peers).advanceConvergedGeneration := by
    intro peers hpeers
    obtain ⟨hle, hagreed⟩ : Advances (session.withPeers peers) _ := advance_advances
    exact ⟨hpeers.of_peers advance_peers, hle, hagreed⟩
  rw [step]
  cases hperform : session.perform call with
  | error e => exact hsame
  | ok after =>
    dsimp only
    cases call with
    | registerPeer peerId role generation =>
      simp only [perform, registerPeer, except_bind_eq_ok, refuse_eq_ok, exists_const,
        pure, Except.pure, Except.ok.injEq] at hperform
      obtain ⟨hroom, -, hnew, -, hlocal, rfl⟩ := hperform
      have habsent : session.peers[peerId]? = none := by
        by_contra hne
        exact hnew (mem_iff_getElem?_ne_none.mpr hne)
      refine hadvanced _ (h.register habsent ?_ fun hrole => ?_)
      · by_contra hfull
        exact hroom ⟨not_lt.mp hfull, hnew⟩
      · by_contra hhas
        exact hlocal ⟨hrole, by simpa using hhas⟩
    | updateGeneration peerId generation =>
      simp only [perform, updateGeneration, except_bind_eq_ok, refuse_eq_ok, exists_const,
        okOr_eq_ok, pure, Except.pure, Except.ok.injEq] at hperform
      obtain ⟨-, peer, hpeer, rfl⟩ := hperform
      exact hadvanced _ (h.replace hpeer rfl)
    | disconnect peerId =>
      simp only [perform, disconnect, except_bind_eq_ok, okOr_eq_ok, pure, Except.pure,
        Except.ok.injEq] at hperform
      obtain ⟨peer, hpeer, rfl⟩ := hperform
      exact ⟨h.replace hpeer rfl, le_rfl, fun hne => absurd rfl hne⟩
    | reconnect peerId generation =>
      simp only [perform, reconnect, except_bind_eq_ok, refuse_eq_ok, exists_const, okOr_eq_ok,
        pure, Except.pure, Except.ok.injEq] at hperform
      obtain ⟨-, peer, hpeer, rfl⟩ := hperform
      exact hadvanced _ (h.replace hpeer rfl)

lemma bounded_new (instanceId : InstanceId) (leaseEpoch : LeaseEpoch) (generation : ℕ) :
    Bounded (new instanceId leaseEpoch generation) := by
  refine ⟨Nat.zero_le _, fun a b p q hp => ?_⟩
  rw [new, ExtTreeMap.getElem?_empty] at hp
  cases hp

lemma run_bounded (instanceId : InstanceId) (leaseEpoch : LeaseEpoch) (generation : ℕ)
    (calls : List Call) : Bounded (run step (new instanceId leaseEpoch generation) calls) :=
  run_invariant (P := Bounded) (fun _ call h => (step_sound h call).1) (bounded_new _ _ _) calls

lemma run_generation (h : Bounded session) (calls : List Call) :
    session.generation ≤ (run step session calls).generation := by
  induction calls generalizing session with
  | nil => exact le_rfl
  | cons call calls ih =>
    obtain ⟨hnext, hadvances⟩ := step_sound h call
    exact hadvances.generation.trans (ih hnext)

/-- A mutation is authorized exactly when a local peer is registered among two peers or more,
and all are connected and at the generation of the session, which is named. -/
def AuthorizesAgreement (session : CoopSession) : Prop :=
  ∀ named, (session.authorizeMutation named).isOk = true ↔
    session.hasLocalPeer = true ∧ 2 ≤ session.peers.size ∧ session.AllAt session.generation ∧
      named = session.generation

/-- **Sessions.**  In every run the generation moves forward only, to where every peer is; there
are at most four peers and one local one; and mutations are authorized on agreement. -/
theorem coop_session_sound (instanceId : InstanceId) (leaseEpoch : LeaseEpoch) (generation : ℕ)
    (before later : List Call) (call : Call) :
    let session := run step (new instanceId leaseEpoch generation) before
    session.Bounded ∧ session.generation ≤ (run step session later).generation ∧
      Advances session (session.step call) ∧ session.AuthorizesAgreement := by
  have hbounded := run_bounded instanceId leaseEpoch generation before
  exact ⟨hbounded, run_generation hbounded later, (step_sound hbounded call).2,
    fun _ => authorizeMutation_isOk⟩

/-- A mutation is authorized for the local peer alone, under the same conditions. -/
def AuthorizesLocalPeer (session : CoopSession) : Prop :=
  ∀ (caller : CallerId) named, (session.authorizeMutation named).isOk = true ↔
    (∃ peer : PeerBinding, session.peers[caller]? = some peer ∧ peer.role = .local) ∧
      2 ≤ session.peers.size ∧ session.AllAt session.generation ∧ named = session.generation

namespace Sample

/-- A local peer and an ally, both at the generation of the session. -/
def pair : CoopSession :=
  run step (new 1 1 0) [.registerPeer 1 .local 0, .registerPeer 2 .ally 0]

end Sample

/-- A mutation is authorized, whoever asks. -/
theorem ally_authorized : ¬ AuthorizesLocalPeer Sample.pair := by
  intro h
  have hok : (Sample.pair.authorizeMutation 0).isOk = true := by decide +kernel
  obtain ⟨⟨peer, hpeer, hlocal⟩, -⟩ := (h 2 0).mp hok
  have hrole : (Sample.pair.peers[(2 : CallerId)]?).map (·.role) = some .ally := by decide +kernel
  rw [hpeer, Option.map_some, hlocal] at hrole
  cases hrole

end CoopSession

end Sts2Gateway.ControlPlane
