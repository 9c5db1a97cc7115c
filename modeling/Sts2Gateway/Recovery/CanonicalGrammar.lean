/-
The grammar of the canonical bytes of a Runtime-v3 action.

* `Identity`, `RecoveryAction`: the actions of the frozen profile;
* `RecoveryAction.render`: the text of an action, with sorted keys and nothing
  between the tokens;
* `exists_action`, `validateAction_toJson`: the grammar accepts the actions and
  nothing else;
* `canonical_action_grammar`: **the accepted bytes are the texts of the
  actions**, one for each.
-/
import Mathlib
import Sts2Gateway.Recovery.CanonicalText

namespace Sts2Gateway.Recovery

open CompactJson Procedure Text

/-! ### The action grammar -/

/-- A Runtime-v3 identity. -/
structure Identity where
  text : String
  nonempty : text.isEmpty = false
  bounded : text.utf8ByteSize ≤ 512
  plain : allBytes text isIdentityByte = true

/-- The kinds of action that name nothing. -/
inductive BareKind where
  | endTurn
  | skipReward
  | rest
  | confirmVictory
  | saveQuit
  | proceed
  | confirmSelection
  | cancelSelection
deriving DecidableEq

def BareKind.text : BareKind → String
  | .endTurn => "end_turn"
  | .skipReward => "skip_reward"
  | .rest => "rest"
  | .confirmVictory => "confirm_victory"
  | .saveQuit => "save_quit"
  | .proceed => "proceed"
  | .confirmSelection => "confirm_selection"
  | .cancelSelection => "cancel_selection"

/-- The kinds of action that name one thing. -/
inductive NamedKind where
  | startRun
  | selectMapNode
  | chooseReward
  | shopPurchase
  | shopRemove
  | smith
  | selectCard
  | eventChoice
deriving DecidableEq

def NamedKind.text : NamedKind → String
  | .startRun => "start_run"
  | .selectMapNode => "select_map_node"
  | .chooseReward => "choose_reward"
  | .shopPurchase => "shop_purchase"
  | .shopRemove => "shop_remove"
  | .smith => "smith"
  | .selectCard => "select_card"
  | .eventChoice => "event_choice"

/-- The member that holds the name. -/
def NamedKind.field : NamedKind → String
  | .startRun => "character_id"
  | .selectMapNode => "node_id"
  | .chooseReward => "reward_id"
  | .shopPurchase => "item_id"
  | .shopRemove | .smith | .selectCard => "card_id"
  | .eventChoice => "choice_id"

inductive ActionPayload where
  | bare (kind : BareKind)
  | named (kind : NamedKind) (name : Identity)
  | playCard (card : Identity) (target : Option Identity)

/-- An action of the frozen Runtime-v3 profile. -/
structure RecoveryAction where
  actionId : Identity
  payload : ActionPayload

def Identity.toJson (identity : Identity) : Json := .str identity.text

/-- The members of a payload, in the order of their keys. -/
def ActionPayload.members : ActionPayload → List (String × Json)
  | .bare kind => [("kind", .str kind.text)]
  | .named kind name =>
    match kind with
    | .selectMapNode | .chooseReward => [("kind", .str kind.text), (kind.field, name.toJson)]
    | _ => [(kind.field, name.toJson), ("kind", .str kind.text)]
  | .playCard card target =>
    [("card_id", card.toJson), ("kind", .str "play_card"),
      ("target_id", nullable Identity.toJson target)]

def RecoveryAction.toJson (action : RecoveryAction) : Json :=
  .obj [("action", .obj action.payload.members), ("action_id", action.actionId.toJson)]

/-- The rendering of an action: sorted keys, nothing between the tokens, one byte a character. -/
def RecoveryAction.render (action : RecoveryAction) : List UInt8 :=
  asciiBytes action.toJson.render

/-! ### What the grammar accepts -/

/-- An object with the keys that are required has them in their order. -/
lemma keys_of_requireKeys {members : List (String × Json)} {expected keys : List String}
    {name : String} (hmembers : members.Pairwise fun a b => a.1 ≤ b.1)
    (h : requireKeys members expected name = .ok ()) (hkeys : keys.Pairwise (· ≤ ·))
    (hnodup : keys.Nodup) (hexpected : keys.Perm expected) : members.map Prod.fst = keys := by
  have hrequire := refuse_eq_ok.mp h
  rw [not_or, not_not, not_not] at hrequire
  obtain ⟨hlength, hall⟩ := hrequire
  have hsubset : keys ⊆ members.map Prod.fst := by
    intro key hkey
    have hpresent := List.all_eq_true.mp hall key (hexpected.mem_iff.mp hkey)
    obtain ⟨value, hvalue⟩ := Option.isSome_iff_exists.mp hpresent
    obtain ⟨front, back, rfl, _⟩ := List.lookup_eq_some_iff.mp hvalue
    simp
  have hperm : keys.Perm (members.map Prod.fst) := by
    refine (hnodup.subperm hsubset).perm_of_length_le ?_
    rw [List.length_map, hlength, hexpected.length_eq]
  exact hperm.symm.eq_of_pairwise (fun _ _ _ _ => String.le_antisymm)
    (List.pairwise_map.mpr hmembers) hkeys

/-- The text of an identity is what the check of identities lets through. -/
lemma exists_identity {value name : String} (h : validateActionIdentity value name = .ok ()) :
    ∃ identity : Identity, identity.text = value := by
  have hvalue := refuse_eq_ok.mp h
  rw [not_or, not_or, Bool.not_eq_true, not_lt, not_not] at hvalue
  exact ⟨⟨value, hvalue.1, hvalue.2.1, hvalue.2.2⟩, rfl⟩

lemma validateActionIdentity_text (identity : Identity) (name : String) :
    validateActionIdentity identity.text name = .ok () := by
  refine refuse_eq_ok.mpr ?_
  rw [not_or, not_or, Bool.not_eq_true, not_lt, not_not]
  exact ⟨identity.nonempty, identity.bounded, identity.plain⟩

lemma requireString_eq_ok {members : List (String × Json)} {key message value : String} :
    requireString members key message = .ok value ↔ members.lookup key = some (.str value) := by
  unfold requireString
  split
  next found hfound => rw [hfound]; simp
  next hnone => simpa using fun h => hnone _ h

lemma asObject_eq_ok {value : Json} {name : String} {members : List (String × Json)} :
    asObject value name = .ok members ↔ value = .obj members := by
  cases value <;> simp [asObject]

/-- The identity that a member holds. -/
lemma exists_member {members : List (String × Json)} {field : String}
    (h : validateString members field = .ok ()) :
    ∃ identity : Identity, members.lookup field = some identity.toJson := by
  obtain ⟨value, hvalue, hidentity⟩ := except_bind_eq_ok.mp h
  obtain ⟨identity, rfl⟩ := exists_identity hidentity
  exact ⟨identity, requireString_eq_ok.mp hvalue⟩

/-- Each kind of the profile is bare, names one thing or plays a card. -/
lemma identityField_eq_ok {kind : String} {field : Option String}
    (h : identityField kind = .ok field) :
    kind = "play_card" ∨ (field = none ∧ ∃ bare : BareKind, bare.text = kind) ∨
      ∃ named : NamedKind, named.text = kind ∧ field = some named.field := by
  unfold identityField at h
  split at h
  · exact .inr (.inr ⟨.startRun, rfl, (Except.ok.inj h).symm⟩)
  · exact .inr (.inr ⟨.selectMapNode, rfl, (Except.ok.inj h).symm⟩)
  · exact .inr (.inr ⟨.chooseReward, rfl, (Except.ok.inj h).symm⟩)
  · exact .inr (.inr ⟨.shopPurchase, rfl, (Except.ok.inj h).symm⟩)
  · exact .inr (.inr ⟨.shopRemove, rfl, (Except.ok.inj h).symm⟩)
  · exact .inr (.inr ⟨.smith, rfl, (Except.ok.inj h).symm⟩)
  · exact .inr (.inr ⟨.selectCard, rfl, (Except.ok.inj h).symm⟩)
  · exact .inr (.inr ⟨.eventChoice, rfl, (Except.ok.inj h).symm⟩)
  · exact .inl rfl
  · exact .inr (.inl ⟨(Except.ok.inj h).symm, .endTurn, rfl⟩)
  · exact .inr (.inl ⟨(Except.ok.inj h).symm, .skipReward, rfl⟩)
  · exact .inr (.inl ⟨(Except.ok.inj h).symm, .rest, rfl⟩)
  · exact .inr (.inl ⟨(Except.ok.inj h).symm, .confirmVictory, rfl⟩)
  · exact .inr (.inl ⟨(Except.ok.inj h).symm, .saveQuit, rfl⟩)
  · exact .inr (.inl ⟨(Except.ok.inj h).symm, .proceed, rfl⟩)
  · exact .inr (.inl ⟨(Except.ok.inj h).symm, .confirmSelection, rfl⟩)
  · exact .inr (.inl ⟨(Except.ok.inj h).symm, .cancelSelection, rfl⟩)
  · cases h

lemma identityField_bare (kind : BareKind) : identityField kind.text = .ok none := by
  cases kind <;> rfl

lemma identityField_named (kind : NamedKind) : identityField kind.text = .ok (some kind.field) := by
  cases kind <;> rfl

/-- Members with the keys of others, in their order, and their values are the same. -/
lemma members_eq {members expected : List (String × Json)}
    (hkeys : members.map Prod.fst = expected.map Prod.fst) (hnodup : (expected.map Prod.fst).Nodup)
    (hvalues : ∀ entry ∈ expected, members.lookup entry.1 = some entry.2) : members = expected := by
  induction expected generalizing members with
  | nil => exact List.map_eq_nil_iff.mp hkeys
  | cons entry expected ih =>
    obtain ⟨⟨key, value⟩, rest, rfl, rfl, hrest⟩ := List.map_eq_cons_iff.mp hkeys
    obtain ⟨hfresh, hnodup⟩ := List.nodup_cons.mp hnodup
    have hhead := hvalues entry List.mem_cons_self
    rw [List.lookup_cons_self, Option.some.injEq] at hhead
    have htail : ∀ later ∈ expected, rest.lookup later.1 = some later.2 := by
      intro later hlater
      have hne : (later.1 == entry.1) = false := by
        refine beq_eq_false_iff_ne.mpr fun heq => hfresh ?_
        exact heq ▸ List.mem_map_of_mem hlater
      have hlookup := hvalues later (List.mem_cons_of_mem _ hlater)
      rwa [List.lookup_cons, hne] at hlookup
    rw [ih hrest hnodup htail, hhead]

/-- An object with the keys that are required and these values. -/
lemma object_eq {members expected : List (String × Json)} {keys : List String} {name : String}
    (hsorted : members.Pairwise fun a b => a.1 ≤ b.1) (h : requireKeys members keys name = .ok ())
    (hexpected : (expected.map Prod.fst).Pairwise (· < ·))
    (hperm : (expected.map Prod.fst).Perm keys)
    (hvalues : ∀ entry ∈ expected, members.lookup entry.1 = some entry.2) : members = expected := by
  have hnodup : (expected.map Prod.fst).Nodup := hexpected.imp String.ne_of_lt
  have hle : (expected.map Prod.fst).Pairwise (· ≤ ·) := 
    hexpected.imp fun hlt => String.not_lt.mp (String.lt_asymm hlt)
  exact members_eq (keys_of_requireKeys hsorted h hle hnodup hperm) hnodup hvalues

/-- The keys of a payload are in strictly ascending order. -/
lemma members_sorted (payload : ActionPayload) :
    (payload.members.map Prod.fst).Pairwise (· < ·) := by
  cases payload with
  | bare kind => exact List.pairwise_singleton _ _
  | named kind name =>
    cases kind with
    | selectMapNode => show ["kind", "node_id"].Pairwise (· < ·); decide
    | chooseReward => show ["kind", "reward_id"].Pairwise (· < ·); decide
    | startRun => show ["character_id", "kind"].Pairwise (· < ·); decide
    | shopPurchase => show ["item_id", "kind"].Pairwise (· < ·); decide
    | eventChoice => show ["choice_id", "kind"].Pairwise (· < ·); decide
    | shopRemove | smith | selectCard => show ["card_id", "kind"].Pairwise (· < ·); decide
  | playCard card target => show ["card_id", "kind", "target_id"].Pairwise (· < ·); decide

/-- An action that names one thing has two members, in one order or the other. -/
lemma mem_members_named {kind : NamedKind} {name : Identity} {entry : String × Json} :
    entry ∈ (ActionPayload.named kind name).members ↔
      entry = (kind.field, name.toJson) ∨ entry = ("kind", .str kind.text) := by
  cases kind with
  | selectMapNode | chooseReward => simp [ActionPayload.members, or_comm]
  | _ => simp [ActionPayload.members]

lemma keys_named (kind : NamedKind) (name : Identity) :
    ((ActionPayload.named kind name).members.map Prod.fst).Perm [kind.field, "kind"] := by
  cases kind with
  | selectMapNode | chooseReward => exact .swap _ _ _
  | _ => exact .refl _

/-- A payload that the grammar accepts is the payload of an action. -/
lemma exists_payload {members : List (String × Json)} {kind : String} {field : Option String}
    (hsorted : members.Pairwise fun a b => a.1 ≤ b.1)
    (hkind : members.lookup "kind" = some (.str kind))
    (h : (if kind = "play_card" then validatePlayCard members
      else match field with
        | some field => do
          requireKeys members [field, "kind"] kind
          validateString members field
        | none => requireKeys members ["kind"] kind) = Except.ok ())
    (hfield : identityField kind = .ok field) :
    ∃ payload : ActionPayload, payload.members = members := by
  obtain rfl | ⟨rfl, bare, rfl⟩ | ⟨named, rfl, rfl⟩ := identityField_eq_ok hfield
  · obtain ⟨_, hkeys, _, hcard, htarget⟩ : ∃ _, _ ∧ ∃ _, _ ∧ _ := by
      simpa only [if_true, validatePlayCard, except_bind_eq_ok] using h
    obtain ⟨card, hcard⟩ := exists_member hcard
    have htarget : ∃ target : Option Identity,
        members.lookup "target_id" = some (nullable Identity.toJson target) := by
      split at htarget
      next hnull => exact ⟨none, hnull⟩
      next target hlookup =>
        obtain ⟨identity, rfl⟩ := exists_identity htarget
        exact ⟨some identity, hlookup⟩
      next => cases htarget
    obtain ⟨target, htarget⟩ := htarget
    refine ⟨.playCard card target, (object_eq hsorted hkeys (members_sorted _) (.refl _) ?_).symm⟩
    simp only [ActionPayload.members, List.forall_mem_cons]
    exact ⟨hcard, hkind, htarget, List.forall_mem_nil _⟩
  · have hne : bare.text ≠ "play_card" := by cases bare <;> decide
    rw [if_neg hne] at h
    refine ⟨.bare bare, (object_eq hsorted h (members_sorted _) (.refl _) ?_).symm⟩
    simp only [ActionPayload.members, List.forall_mem_cons]
    exact ⟨hkind, List.forall_mem_nil _⟩
  · have hne : named.text ≠ "play_card" := by cases named <;> decide
    rw [if_neg hne] at h
    obtain ⟨_, hkeys, hname⟩ := except_bind_eq_ok.mp h
    obtain ⟨name, hname⟩ := exists_member hname
    refine ⟨.named named name,
      (object_eq hsorted hkeys (members_sorted _) (keys_named named name) ?_).symm⟩
    intro entry hentry
    obtain rfl | rfl := mem_members_named.mp hentry
    · exact hname
    · exact hkind

/-- **What the grammar accepts is an action.** -/
theorem exists_action {value : Json} (hsorted : Sorted value)
    (hvalid : validateAction value = .ok ()) :
    ∃ action : RecoveryAction, action.toJson = value := by
  obtain ⟨root, hroot, h⟩ := except_bind_eq_ok.mp hvalid
  obtain rfl := asObject_eq_ok.mp hroot
  obtain ⟨_, hkeys, h⟩ := except_bind_eq_ok.mp h
  obtain ⟨actionId, hactionId, h⟩ := except_bind_eq_ok.mp h
  obtain ⟨_, hidentity, h⟩ := except_bind_eq_ok.mp h
  rcases hlookup : root.lookup "action" with _ | action
  · rw [hlookup] at h
    cases h
  rw [hlookup] at h
  obtain ⟨payload, hpayload, hgrammar⟩ := except_bind_eq_ok.mp h
  obtain rfl := asObject_eq_ok.mp hpayload
  obtain ⟨kind, hkind, h⟩ := except_bind_eq_ok.mp hgrammar
  obtain ⟨field, hfield, h⟩ := except_bind_eq_ok.mp h
  have hpayloadSorted : payload.Pairwise fun a b => a.1 ≤ b.1 := by
    obtain ⟨front, back, rfl, _⟩ := List.lookup_eq_some_iff.mp hlookup
    exact (sortedMembers_iff.mp hsorted.2 ("action", .obj payload) (by simp)).1
  obtain ⟨payload, rfl⟩ := exists_payload hpayloadSorted (requireString_eq_ok.mp hkind) h hfield
  obtain ⟨identity, rfl⟩ := exists_identity hidentity
  refine ⟨⟨identity, payload⟩, congrArg Json.obj (object_eq hsorted.1 hkeys ?_ (.refl _) ?_).symm⟩
  · show ["action", "action_id"].Pairwise (· < ·)
    decide
  · simp only [List.forall_mem_cons]
    exact ⟨hlookup, requireString_eq_ok.mp hactionId, List.forall_mem_nil _⟩

/-! ### Renderings are accepted -/

lemma requireKeys_map {members : List (String × Json)} {expected : List String} {name : String}
    (hperm : (members.map Prod.fst).Perm expected) :
    requireKeys members expected name = .ok () := by
  refine refuse_eq_ok.mpr ?_
  rw [not_or, not_not, not_not, List.all_eq_true]
  refine ⟨by rw [← hperm.length_eq, List.length_map], fun key hkey => ?_⟩
  rw [Option.isSome_iff_ne_none, ne_eq, List.lookup_eq_none_iff]
  intro hnone
  obtain ⟨entry, hentry, rfl⟩ := List.mem_map.mp (hperm.mem_iff.mpr hkey)
  have hfalse := hnone entry hentry
  simp at hfalse

lemma validateString_toJson {members : List (String × Json)} {field : String} {identity : Identity}
    (h : members.lookup field = some identity.toJson) : validateString members field = .ok () :=
  except_bind_eq_ok.mpr ⟨identity.text, requireString_eq_ok.mpr h,
    validateActionIdentity_text identity field⟩

/-- Every action is in the grammar. -/
lemma validateAction_toJson (action : RecoveryAction) : validateAction action.toJson = .ok () := by
  obtain ⟨actionId, payload⟩ := action
  refine except_bind_eq_ok.mpr ⟨_, rfl, ?_⟩
  refine except_bind_eq_ok.mpr ⟨(), requireKeys_map (.refl _), ?_⟩
  refine except_bind_eq_ok.mpr ⟨_, rfl, ?_⟩
  refine except_bind_eq_ok.mpr ⟨(), validateActionIdentity_text actionId _, ?_⟩
  refine except_bind_eq_ok.mpr ⟨payload.members, rfl, ?_⟩
  cases payload with
  | bare kind =>
    have hne : kind.text ≠ "play_card" := by cases kind <;> decide
    refine except_bind_eq_ok.mpr ⟨kind.text, rfl, ?_⟩
    refine except_bind_eq_ok.mpr ⟨none, identityField_bare kind, ?_⟩
    rw [if_neg hne]
    exact requireKeys_map (.refl _)
  | named kind name =>
    have hne : kind.text ≠ "play_card" := by cases kind <;> decide
    have hkind : (ActionPayload.named kind name).members.lookup "kind" = some (.str kind.text) := by
      cases kind <;> rfl
    have hname : (ActionPayload.named kind name).members.lookup kind.field = some name.toJson := by
      cases kind <;> rfl
    refine except_bind_eq_ok.mpr ⟨kind.text, requireString_eq_ok.mpr hkind, ?_⟩
    refine except_bind_eq_ok.mpr ⟨some kind.field, identityField_named kind, ?_⟩
    rw [if_neg hne]
    exact except_bind_eq_ok.mpr ⟨(), requireKeys_map (keys_named kind name),
      validateString_toJson hname⟩
  | playCard card target =>
    refine except_bind_eq_ok.mpr ⟨"play_card", rfl, ?_⟩
    refine except_bind_eq_ok.mpr ⟨some "card_id", rfl, ?_⟩
    rw [if_pos rfl]
    refine except_bind_eq_ok.mpr ⟨(), requireKeys_map (.refl _), ?_⟩
    refine except_bind_eq_ok.mpr ⟨(), validateString_toJson rfl, ?_⟩
    cases target with
    | none => rfl
    | some target => exact validateActionIdentity_text target _

lemma sorted_toJson (action : RecoveryAction) : Sorted action.toJson := by
  obtain ⟨actionId, payload⟩ := action
  have hle : ∀ {members : List (String × Json)}, (members.map Prod.fst).Pairwise (· < ·) →
      members.Pairwise fun a b => a.1 ≤ b.1 := by
    intro members h
    exact (List.pairwise_map.mp h).imp fun hlt => String.not_lt.mp (String.lt_asymm hlt)
  have hroot : (["action", "action_id"] : List String).Pairwise (· < ·) := by decide
  have hpayload : SortedMembers payload.members := by
    refine sortedMembers_iff.mpr fun entry hentry => ?_
    cases payload with
    | bare kind =>
      obtain rfl := List.mem_singleton.mp hentry
      exact trivial
    | named kind name => cases kind <;> fin_cases hentry <;> exact trivial
    | playCard card target => cases target <;> fin_cases hentry <;> exact trivial
  exact ⟨hle hroot, ⟨hle (members_sorted payload), hpayload⟩, trivial, trivial⟩

/-! ### The text of an action -/

lemma identityText_text (identity : Identity) : IdentityText identity.text.toList := by
  have hchars : ∀ chars : List Char, (∀ byte ∈ chars.utf8Encode.data.toList, isIdentityByte byte) →
      IdentityText chars := by
    intro chars
    induction chars with
    | nil => exact fun _ => List.forall_mem_nil _
    | cons c chars ih =>
      intro h
      rw [List.utf8Encode_cons, ByteArray.data_append, Array.toList_append,
        List.utf8Encode_singleton] at h
      simp only [List.forall_mem_append] at h
      exact identityText_cons.mpr ⟨ascii_of_identityBytes (by simpa using h.1), ih h.2⟩
  refine hchars _ ?_
  rw [String.utf8Encode_toList]
  exact List.all_eq_true.mp identity.plain

lemma plain_identity (identity : Identity) : Plain identity.toJson := identityText_text identity

/-- The keys and the kinds of the grammar are identity text. -/
lemma plainMembers_members (payload : ActionPayload) : PlainMembers payload.members := by
  have hkind : IdentityText "kind".toList := by decide
  refine plainMembers_iff.mpr ?_
  cases payload with
  | bare kind =>
    have htext : IdentityText kind.text.toList := by cases kind <;> decide
    rw [ActionPayload.members, List.forall_mem_singleton]
    exact ⟨hkind, htext⟩
  | named kind name =>
    have hfield : IdentityText kind.field.toList := by cases kind <;> decide
    have htext : IdentityText kind.text.toList := by cases kind <;> decide
    intro entry hentry
    obtain rfl | rfl := mem_members_named.mp hentry
    · exact ⟨hfield, plain_identity name⟩
    · exact ⟨hkind, htext⟩
  | playCard card target =>
    have hcard : IdentityText "card_id".toList := by decide
    have htarget : IdentityText "target_id".toList := by decide
    have htext : IdentityText "play_card".toList := by decide
    have hplain : Plain (nullable Identity.toJson target) := by
      cases target with
      | none => exact trivial
      | some target => exact plain_identity target
    simp only [ActionPayload.members, List.forall_mem_cons]
    exact ⟨⟨hcard, plain_identity card⟩, ⟨hkind, htext⟩, ⟨htarget, hplain⟩, List.forall_mem_nil _⟩

lemma plain_toJson (action : RecoveryAction) : Plain action.toJson := by
  obtain ⟨actionId, payload⟩ := action
  have hnodup : (payload.members.map Prod.fst).Nodup :=
    (members_sorted payload).imp String.ne_of_lt
  have hkeys : (["action", "action_id"] : List String).Nodup := by decide
  have haction : IdentityText "action".toList := by decide
  have hactionId : IdentityText "action_id".toList := by decide
  exact ⟨hkeys, haction, ⟨hnodup, plainMembers_members payload⟩, hactionId,
    plain_identity actionId, trivial⟩

lemma length_identity_le (identity : Identity) : identity.toJson.render.length ≤ 514 := by
  have hlength := length_le_utf8ByteSize identity.text
  have hbounded := identity.bounded
  rw [Identity.toJson, Json.render, escape_plain (identityText_text identity)]
  simp only [List.length_cons, List.length_append, List.length_nil, String.length_toList]
  omega

/-- The keys and the values of a payload are short. -/
lemma length_members_le (payload : ActionPayload) :
    ∀ entry ∈ payload.members, (memberText entry).length ≤ 540 := by
  have hplain := plainMembers_iff.mp (plainMembers_members payload)
  intro entry hentry
  obtain ⟨key, value⟩ := entry
  rw [length_memberText (hplain _ hentry).1]
  suffices h : key.length ≤ 12 ∧ value.render.length ≤ 514 by
    show key.length + value.render.length + 4 ≤ 540
    omega
  cases payload with
  | bare kind =>
    cases List.mem_singleton.mp hentry
    cases kind <;> decide
  | named kind name =>
    obtain h | h := mem_members_named.mp hentry <;> cases h
    · have hkey : kind.field.length ≤ 12 := by cases kind <;> decide
      exact ⟨hkey, length_identity_le name⟩
    · cases kind <;> decide
  | playCard card target =>
    have htarget : (nullable Identity.toJson target).render.length ≤ 514 := by
      cases target with
      | none => decide
      | some target => exact length_identity_le target
    fin_cases hentry
    · exact ⟨by decide, length_identity_le card⟩
    · decide
    · exact ⟨by decide, htarget⟩

/-- An action is far below the recovery bound. -/
lemma length_render_le (action : RecoveryAction) :
    action.render.length ≤ maxRecoveryActionBytes := by
  obtain ⟨actionId, payload⟩ := action
  have hsum : ∀ members : List (String × Json),
      (∀ entry ∈ members, (memberText entry).length ≤ 540) →
      (members.map fun entry => (memberText entry).length).sum ≤ members.length * 540 := by
    intro members h
    refine (List.sum_le_card_nsmul _ 540 ?_).trans_eq ?_
    · intro n hn
      obtain ⟨entry, hentry, rfl⟩ := List.mem_map.mp hn
      exact h entry hentry
    · rw [List.length_map, smul_eq_mul]
  have hcount : payload.members.length ≤ 3 := by
    cases payload with
    | bare kind => simp [ActionPayload.members]
    | named kind name => cases kind <;> simp [ActionPayload.members]
    | playCard card target => simp [ActionPayload.members]
  have hpayload := (length_obj_le payload.members).trans
    (Nat.add_le_add_left (hsum _ (length_members_le payload)) 2)
  have hroot := length_obj_le [("action", .obj payload.members), ("action_id", actionId.toJson)]
  have haction : IdentityText "action".toList := by decide
  have hactionId : IdentityText "action_id".toList := by decide
  have hidentity := length_identity_le actionId
  rw [List.map_cons, List.map_singleton, List.sum_cons, List.sum_singleton,
    length_memberText haction, length_memberText hactionId] at hroot
  have hkeys : "action".length = 6 ∧ "action_id".length = 9 := by decide
  rw [RecoveryAction.render, asciiBytes, List.length_map]
  show (Json.obj [("action", .obj payload.members), ("action_id", actionId.toJson)]).render.length ≤
    65536
  omega

/-! ### One text for each action -/

/-- The bytes of an action as a serializer writes them. -/
lemma toBytes_toJson (action : RecoveryAction) :
    action.toJson.toBytes.data.toList = action.render :=
  Digits.ascii_bytes fun c hc => (isToken_render action.toJson (plain_toJson action) c hc).1

/-- What the reader takes from the text of an action. -/
lemma scanValue_toJson (action : RecoveryAction) :
    scanValue (action.render.length + 1) action.render = .ok (action.toJson, []) := by
  have hlength : action.render.length = action.toJson.render.length := List.length_map _
  have hread := (scanValue_render (action.render.length + 1)).1 action.toJson (plain_toJson action)
    (by omega) []
  rwa [List.append_nil] at hread

lemma depth_toJson (action : RecoveryAction) : depth action.toJson = 2 := by
  obtain ⟨actionId, payload⟩ := action
  have hmembers : depthMembers payload.members = 0 := by
    cases payload with
    | bare kind => rfl
    | named kind name => cases kind <;> rfl
    | playCard card target => cases target <;> rfl
  show max (depthMembers payload.members + 1) (max 0 0) + 1 = 2
  rw [hmembers]
  rfl

/-- The text of each action is accepted. -/
lemma canonicalizeRecoveryAction_render (action : RecoveryAction) :
    canonicalizeRecoveryAction action.render = .ok action.render := by
  have hsort := sortValue_of_sorted _ (sorted_toJson action)
  have hread := scanValue_toJson action
  have hne : action.render ≠ [] := by
    intro hnil
    rw [hnil] at hread
    cases hread
  have hascii : ¬ (action.render.any fun byte => 0x80 ≤ byte) = true := by
    rw [List.any_eq_true]
    rintro ⟨byte, hbyte, hhigh⟩
    obtain ⟨c, hc, rfl⟩ := List.mem_map.mp hbyte
    have hlow := (isToken_render action.toJson (plain_toJson action) c hc).1
    rw [decide_eq_true_eq, UInt8.le_iff_toNat_le, toNat_asciiByte hlow] at hhigh
    exact absurd hlow (not_lt.mpr hhigh)
  have hcanonical : (sortValue action.toJson).toBytes.data.toList = action.render := by
    rw [hsort, toBytes_toJson]
  refine except_bind_eq_ok.mpr ⟨(), refuse_eq_ok.mpr ?_, ?_⟩
  · exact not_or.mpr ⟨hne, not_lt.mpr (length_render_le action)⟩
  refine except_bind_eq_ok.mpr ⟨(), refuse_eq_ok.mpr fun h => hascii h.1, ?_⟩
  refine except_bind_eq_ok.mpr ⟨(), refuse_eq_ok.mpr hascii, ?_⟩
  refine except_bind_eq_ok.mpr ⟨(action.toJson, []), hread, ?_⟩
  refine except_bind_eq_ok.mpr ⟨(), refuse_eq_ok.mpr fun h => h rfl, ?_⟩
  refine except_bind_eq_ok.mpr ⟨(), refuse_eq_ok.mpr ?_, ?_⟩
  · rw [depth_toJson]
    decide
  refine except_bind_eq_ok.mpr ⟨(), ?_, ?_⟩
  · rw [hsort]
    exact validateAction_toJson action
  refine except_bind_eq_ok.mpr ⟨(), refuse_eq_ok.mpr fun h => h hcanonical, ?_⟩
  exact congrArg Except.ok hcanonical

/-- Accepted bytes are the text of an action. -/
lemma exists_action_of_canonical {bytes canonical : List UInt8}
    (h : canonicalizeRecoveryAction bytes = .ok canonical) :
    canonical = bytes ∧ ∃ action : RecoveryAction, action.render = bytes := by
  have hsame := canonicalizeRecoveryAction_eq_ok h
  simp only [canonicalizeRecoveryAction, except_bind_eq_ok, refuse_eq_ok, not_not] at h
  obtain ⟨_, _, _, _, _, _, ⟨value, rest⟩, _, _, _, _, _, _, hvalid, _, hcanonical, _⟩ := h
  obtain ⟨action, haction⟩ := exists_action (sorted_sortValue value) hvalid
  refine ⟨hsame, action, ?_⟩
  rw [← toBytes_toJson, haction, hcanonical]

/-- The action that bytes spell: what the reader takes from them, with members in any order. -/
def Spells (bytes : List UInt8) (action : RecoveryAction) : Prop :=
  ∃ value, scanValue (bytes.length + 1) bytes = .ok (value, []) ∧ sortValue value = action.toJson

/-- The text of an action spells no other. -/
lemma render_of_spells {action other : RecoveryAction} (h : Spells action.render other) :
    other.render = action.render := by
  obtain ⟨value, hread, hsort⟩ := h
  rw [scanValue_toJson] at hread
  cases hread
  rw [sortValue_of_sorted _ (sorted_toJson action)] at hsort
  rw [RecoveryAction.render, ← hsort, RecoveryAction.render]

lemma BareKind.text_injective : Function.Injective BareKind.text := by
  intro a b h
  have hall : ∀ kind : BareKind, kind ∈ [.endTurn, .skipReward, .rest, .confirmVictory, .saveQuit,
      .proceed, .confirmSelection, .cancelSelection] := by
    intro kind
    cases kind <;> decide
  exact List.inj_on_of_nodup_map (f := BareKind.text) (by decide) (hall a) (hall b) h

lemma NamedKind.text_injective : Function.Injective NamedKind.text := by
  intro a b h
  have hall : ∀ kind : NamedKind, kind ∈ [.startRun, .selectMapNode, .chooseReward, .shopPurchase,
      .shopRemove, .smith, .selectCard, .eventChoice] := by
    intro kind
    cases kind <;> decide
  exact List.inj_on_of_nodup_map (f := NamedKind.text) (by decide) (hall a) (hall b) h

lemma Identity.toJson_injective : Function.Injective Identity.toJson := by
  rintro ⟨text, _, _, _⟩ ⟨other, _, _, _⟩ h
  cases h
  rfl

/-- The members of a payload tell which it is. -/
lemma members_injective : Function.Injective ActionPayload.members := by
  intro a b h
  have hkind : a.members.lookup "kind" = b.members.lookup "kind" := congrArg _ h
  have hlength : a.members.length = b.members.length := congrArg _ h
  have hnamed : ∀ (kind : NamedKind) (name : Identity),
      (ActionPayload.named kind name).members.length = 2 := by
    intro kind name
    cases kind <;> rfl
  have hkindNamed : ∀ (kind : NamedKind) (name : Identity),
      (ActionPayload.named kind name).members.lookup "kind" = some (.str kind.text) := by
    intro kind name
    cases kind <;> rfl
  cases a with
  | bare kind =>
    cases b with
    | bare other =>
      cases BareKind.text_injective (Json.str.inj (Option.some.inj hkind))
      rfl
    | named other name => rw [hnamed] at hlength; cases hlength
    | playCard card target => cases hlength
  | named kind name =>
    cases b with
    | bare other => rw [hnamed] at hlength; cases hlength
    | named other otherName =>
      rw [hkindNamed, hkindNamed] at hkind
      cases NamedKind.text_injective (Json.str.inj (Option.some.inj hkind))
      have hfield : ∀ name : Identity,
          (ActionPayload.named kind name).members.lookup kind.field = some name.toJson := by
        intro name
        cases kind <;> rfl
      have hname := congrArg (List.lookup kind.field) h
      rw [hfield, hfield] at hname
      rw [Identity.toJson_injective (Option.some.inj hname)]
    | playCard card target => rw [hnamed] at hlength; cases hlength
  | playCard card target =>
    cases b with
    | bare other => cases hlength
    | named other name => rw [hnamed] at hlength; cases hlength
    | playCard otherCard otherTarget =>
      have hcard := congrArg (List.lookup "card_id") h
      have htarget := congrArg (List.lookup "target_id") h
      have hnull : Function.Injective (nullable Identity.toJson) :=
        nullable_injective Identity.toJson_injective fun _ h => nomatch h
      rw [Identity.toJson_injective (Option.some.inj hcard), hnull (Option.some.inj htarget)]

/-- Two actions with one text are the same action. -/
lemma render_injective : Function.Injective RecoveryAction.render := by
  intro action other h
  have hjson : action.toJson = other.toJson := by
    apply toBytes_inj
    refine ByteArray.ext (Array.toList_inj.mp ?_)
    rw [toBytes_toJson, toBytes_toJson, h]
  obtain ⟨actionId, payload⟩ := action
  obtain ⟨otherId, otherPayload⟩ := other
  have hmembers := Json.obj.inj hjson
  have hpayload := congrArg (List.lookup "action") hmembers
  have hactionId := congrArg (List.lookup "action_id") hmembers
  obtain rfl := members_injective (Json.obj.inj (Option.some.inj hpayload))
  obtain rfl := Identity.toJson_injective (Option.some.inj hactionId)
  rfl

/-- **The canonicalizer accepts exactly its grammar.** Accepted bytes are the text of one action
and are returned unchanged; such a text is of objects with their keys sorted and named once,
in the characters of identities and punctuation; and an action has one accepted text. -/
theorem canonical_action_grammar :
    (∀ bytes canonical : List UInt8, canonicalizeRecoveryAction bytes = .ok canonical ↔
      canonical = bytes ∧ ∃! action : RecoveryAction, action.render = bytes) ∧
    (∀ action : RecoveryAction, Sorted action.toJson ∧ Plain action.toJson ∧
      ∀ byte ∈ action.render, isIdentityByte byte ∨ byte ∈ [34, 44, 58, 123, 125]) ∧
    ∀ (action : RecoveryAction) (bytes other : List UInt8),
      canonicalizeRecoveryAction bytes = .ok bytes → canonicalizeRecoveryAction other = .ok other →
      Spells bytes action → Spells other action → bytes = other := by
  refine ⟨fun bytes canonical => ⟨fun h => ?_, ?_⟩, fun action => ?_, ?_⟩
  · obtain ⟨hsame, action, hrender⟩ := exists_action_of_canonical h
    exact ⟨hsame, action, hrender, fun other hother => render_injective (hother.trans hrender.symm)⟩
  · rintro ⟨rfl, action, rfl, _⟩
    exact canonicalizeRecoveryAction_render action
  · refine ⟨sorted_toJson action, plain_toJson action, fun byte hbyte => ?_⟩
    obtain ⟨c, hc, rfl⟩ := List.mem_map.mp hbyte
    obtain ⟨_, hidentity | hmark⟩ := isToken_render action.toJson (plain_toJson action) c hc
    · exact .inl hidentity
    · fin_cases hmark <;> decide
  · intro action bytes other hbytes hother hspells hotherSpells
    obtain ⟨_, first, rfl⟩ := exists_action_of_canonical hbytes
    obtain ⟨_, second, rfl⟩ := exists_action_of_canonical hother
    exact (render_of_spells hspells).symm.trans (render_of_spells hotherSpells)

end Sts2Gateway.Recovery
