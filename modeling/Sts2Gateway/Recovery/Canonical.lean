/-
The canonical bytes of a Runtime-v3 action (`recovery_canonical.rs`): ASCII JSON
with sorted keys and without whitespace, escapes, numbers or arrays.

* `scanValue`, `scanMembers`, `scanText`: the scanner, which reads one value off
  the front of its input;
* `sortValue`: the value as a serializer with ordered maps writes it;
* `validateAction`: the frozen action grammar;
* `canonicalizeRecoveryAction`: **the bytes that an intent may carry**;
* `canonicalizeRecoveryAction_eq_ok`: accepted bytes are returned unchanged.
-/
import Mathlib.Tactic
import Sts2Gateway.Library.Json
import Sts2Gateway.Recovery.Contract

namespace Sts2Gateway.Recovery

open CompactJson Procedure Text

def invalid (message : String) : RecoveryStoreError := .invalidInput message

/-! ### The scanner -/

/-- The body of a string up to its closing quote, and what follows. -/
def scanText : List UInt8 → Except RecoveryStoreError (List UInt8 × List UInt8)
  | [] => .error (invalid "unterminated JSON string")
  | byte :: rest =>
    if byte = 34 then .ok ([], rest)
    else if byte = 92 then .error (invalid "RCJ-1 does not permit string escapes")
    else if byte ≤ 0x1f then .error (invalid "control characters are not allowed")
    else do
      let (text, rest) ← scanText rest
      return (byte :: text, rest)

/-- One punctuation byte. -/
def expect (byte : UInt8) : List UInt8 → Except RecoveryStoreError (List UInt8)
  | [] => .error (invalid "action JSON punctuation is invalid")
  | b :: rest =>
    if b = byte then .ok rest else .error (invalid "action JSON punctuation is invalid")

def asciiText (bytes : List UInt8) : String :=
  String.ofList (bytes.map fun byte => Char.ofNat byte.toNat)

def scanString (input : List UInt8) : Except RecoveryStoreError (String × List UInt8) := do
  let rest ← expect 34 input
  let (text, rest) ← scanText rest
  return (asciiText text, rest)

def scanLiteral (literal : List UInt8) (value : Json) (input : List UInt8) :
    Except RecoveryStoreError (Json × List UInt8) :=
  if input.take literal.length = literal then .ok (value, input.drop literal.length)
  else .error (invalid "invalid JSON literal")

-- Each call reads at least one byte, so fuel above the length of the input is never used up.
mutual

def scanValue : ℕ → List UInt8 → Except RecoveryStoreError (Json × List UInt8)
  | 0, _ => .error (invalid "action contains an invalid JSON value")
  | fuel + 1, input =>
    match input with
    | [] => .error (invalid "action contains an invalid JSON value")
    | byte :: rest =>
      if byte = 123 then
        match rest with
        | 125 :: rest => .ok (.obj [], rest)
        | rest => do
          let (members, rest) ← scanMembers fuel [] rest
          return (.obj members, rest)
      else if byte = 34 then do
        let (text, rest) ← scanString input
        return (.str text, rest)
      else if byte = 110 then scanLiteral [110, 117, 108, 108] .null input
      else if byte = 116 then scanLiteral [116, 114, 117, 101] (.bool true) input
      else if byte = 102 then scanLiteral [102, 97, 108, 115, 101] (.bool false) input
      else if byte = 91 then .error (invalid "arrays are not allowed in RCJ-1 actions")
      else if byte = 45 ∨ 48 ≤ byte ∧ byte ≤ 57 then
        .error (invalid "numbers are not allowed in RCJ-1 actions")
      else .error (invalid "action contains an invalid JSON value")

/-- The members of an object, after those already read, with its closing brace. -/
def scanMembers : ℕ → List (String × Json) → List UInt8 →
    Except RecoveryStoreError (List (String × Json) × List UInt8)
  | 0, _, _ => .error (invalid "action contains an invalid JSON value")
  | fuel + 1, members, input => do
    let (key, rest) ← scanString input
    refuse (key ∈ members.map Prod.fst) (invalid "duplicate JSON object member")
    let rest ← expect 58 rest
    let (value, rest) ← scanValue fuel rest
    match rest with
    | 125 :: rest => return (members ++ [(key, value)], rest)
    | rest => do
      let rest ← expect 44 rest
      scanMembers fuel (members ++ [(key, value)]) rest

end

/-! ### Values -/

-- How many objects are nested; the reader gives up at 128.
mutual

def depth : Json → ℕ
  | .obj members => depthMembers members + 1
  | _ => 0

def depthMembers : List (String × Json) → ℕ
  | [] => 0
  | (_, value) :: members => max (depth value) (depthMembers members)

end

-- Members in the order of their keys.
mutual

def sortValue : Json → Json
  | .obj members => .obj ((sortMembers members).insertionSort fun a b => a.1 ≤ b.1)
  | value => value

def sortMembers : List (String × Json) → List (String × Json)
  | [] => []
  | (key, value) :: members => (key, sortValue value) :: sortMembers members

end

/-! ### The action grammar -/

def validateActionIdentity (value name : String) : Except RecoveryStoreError Unit :=
  refuse (value.isEmpty ∨ value.utf8ByteSize > 512 ∨ ¬ allBytes value isIdentityByte)
    (invalid (name ++ " is not a Runtime-v3 identity"))

def asObject (value : Json) (name : String) : Except RecoveryStoreError (List (String × Json)) :=
  match value with
  | .obj members => .ok members
  | _ => .error (invalid (name ++ " must be an object"))

def requireKeys (members : List (String × Json)) (expected : List String) (name : String) :
    Except RecoveryStoreError Unit :=
  refuse (members.length ≠ expected.length ∨
      ¬ expected.all fun key => (members.lookup key).isSome)
    (invalid (name ++ " contains unknown or missing fields"))

def requireString (members : List (String × Json)) (key message : String) :
    Except RecoveryStoreError String :=
  match members.lookup key with
  | some (.str value) => .ok value
  | _ => .error (invalid message)

def validateString (members : List (String × Json)) (field : String) :
    Except RecoveryStoreError Unit := do
  let value ← requireString members field (field ++ " must be a string")
  validateActionIdentity value field

/-- The identity that an action of each kind carries. -/
def identityField : String → Except RecoveryStoreError (Option String)
  | "start_run" => .ok (some "character_id")
  | "select_map_node" => .ok (some "node_id")
  | "choose_reward" => .ok (some "reward_id")
  | "shop_purchase" => .ok (some "item_id")
  | "shop_remove" | "smith" | "select_card" => .ok (some "card_id")
  | "event_choice" => .ok (some "choice_id")
  | "play_card" => .ok (some "card_id")
  | "end_turn" | "skip_reward" | "rest" | "confirm_victory" | "save_quit" | "proceed"
  | "confirm_selection" | "cancel_selection" => .ok none
  | _ => .error (invalid "action kind is not in the frozen Runtime-v3 profile")

def validatePlayCard (payload : List (String × Json)) : Except RecoveryStoreError Unit := do
  requireKeys payload ["card_id", "kind", "target_id"] "play_card"
  validateString payload "card_id"
  match payload.lookup "target_id" with
  | some .null => return
  | some (.str target) => validateActionIdentity target "target_id"
  | _ => .error (invalid "play_card target_id must be a string or null")

def validateAction (value : Json) : Except RecoveryStoreError Unit := do
  let root ← asObject value "legal action"
  requireKeys root ["action", "action_id"] "legal action"
  let actionId ← requireString root "action_id" "action_id must be a string"
  validateActionIdentity actionId "action_id"
  let payload ←
    match root.lookup "action" with
    | some action => asObject action "action payload"
    | none => .error (invalid "legal action has no action payload")
  let kind ← requireString payload "kind" "action kind must be a string"
  let field ← identityField kind
  if kind = "play_card" then validatePlayCard payload
  else
    match field with
    | some field => do
      requireKeys payload [field, "kind"] kind
      validateString payload field
    | none => requireKeys payload ["kind"] kind

/-- Validates and returns the exact RCJ-1 bytes accepted for a Runtime-v3 action. -/
def canonicalizeRecoveryAction (bytes : List UInt8) : Except RecoveryStoreError (List UInt8) := do
  refuse (bytes = [] ∨ bytes.length > maxRecoveryActionBytes)
    (invalid "canonical action exceeds the recovery bound")
  refuse ((bytes.any fun byte => 0x80 ≤ byte) ∧ (String.fromUTF8? ⟨bytes.toArray⟩).isNone)
    (invalid "action is not UTF-8")
  refuse (bytes.any fun byte => 0x80 ≤ byte) (invalid "RCJ-1 actions must contain ASCII only")
  let (value, rest) ← scanValue (bytes.length + 1) bytes
  refuse (rest ≠ []) (invalid "action has trailing bytes")
  refuse (128 ≤ depth value) (invalid "action JSON is malformed")
  validateAction (sortValue value)
  let canonical := (sortValue value).toBytes.data.toList
  refuse (canonical ≠ bytes) (.contractMismatch "action bytes are not RCJ-1 canonical")
  return canonical

/-- **Accepted bytes are canonical**: they are returned as they came. -/
theorem canonicalizeRecoveryAction_eq_ok {bytes canonical : List UInt8}
    (h : canonicalizeRecoveryAction bytes = .ok canonical) : canonical = bytes := by
  simp only [canonicalizeRecoveryAction, except_bind_eq_ok, refuse_eq_ok, not_not] at h
  obtain ⟨_, _, _, _, _, _, ⟨value, rest⟩, _, _, _, _, _, _, _, _, hcanonical, hreturn⟩ := h
  cases hreturn
  exact hcanonical

end Sts2Gateway.Recovery
