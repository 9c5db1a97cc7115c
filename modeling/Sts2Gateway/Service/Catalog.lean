/-
The legal actions that the host last offered (`service_recovery_catalog.rs`,
`runtime_v3_gameplay.rs`).

* `RuntimeV3GameplayRoute`: the gameplay routes;
* `RecoveryCatalogKey`, `RecoveryCatalogCache`: the boundary of the game that a catalog
  belongs to, and the three boundaries that the cache keeps;
* `capture`, `observe`, `invalidateCurrent`, `admission`: its operations;
* `exactArrayBytes`, `extractCatalog`: the host's own spelling of the actions.
-/
import Mathlib.Tactic
import Sts2Gateway.Service.Frames

namespace Sts2Gateway.Service

open CompactJson Procedure Recovery Text

/-! ### Routes -/

inductive RuntimeV3GameplayRoute where
  | state
  | legalActions
  | dispatchAction
  | waitForTransition
  | reobserve
  | recover
deriving DecidableEq, Repr

namespace RuntimeV3GameplayRoute

def downstreamPath : RuntimeV3GameplayRoute → String
  | .state => "/api/v3/runtime/state"
  | .legalActions => "/api/v3/runtime/legal-actions"
  | .dispatchAction => "/api/v3/runtime/action"
  | .waitForTransition => "/api/v3/runtime/wait"
  | .reobserve => "/api/v3/runtime/reobserve"
  | .recover => "/api/v3/runtime/recover"

def isPost : RuntimeV3GameplayRoute → Bool
  | .dispatchAction | .waitForTransition | .recover => true
  | .state | .legalActions | .reobserve => false

def responseKind : RuntimeV3GameplayRoute → String
  | .state => "state_response"
  | .legalActions => "legal_actions_response"
  | .dispatchAction => "dispatch_action_response"
  | .waitForTransition => "wait_response"
  | .reobserve => "reobserve_response"
  | .recover => "recover_response"

end RuntimeV3GameplayRoute

/-! ### Raw arrays -/

def isAsciiWhitespace (byte : UInt8) : Bool :=
  byte == 32 || byte == 9 || byte == 10 || byte == 12 || byte == 13

/-- Where the scan of an array stands. -/
structure ArrayScan where
  depth : ℕ
  inString : Bool
  escaped : Bool

/-- One byte of the scan, and whether it closes the array. -/
def ArrayScan.next (scan : ArrayScan) (byte : UInt8) : Option (ArrayScan × Bool) :=
  if scan.inString then
    if scan.escaped then some ({ scan with escaped := false }, false)
    else if byte == 92 then some ({ scan with escaped := true }, false)
    else if byte == 34 then some ({ scan with inString := false }, false)
    else some (scan, false)
  else if byte == 34 then some ({ scan with inString := true }, false)
  else if byte == 91 then some ({ scan with depth := scan.depth + 1 }, false)
  else if byte == 93 then
    if scan.depth = 0 then none
    else some ({ scan with depth := scan.depth - 1 }, scan.depth = 1)
  else some (scan, false)

/-- The bytes up to the one that closes the array, and those after it. -/
def scanArray (scan : ArrayScan) : List UInt8 → Option (List UInt8 × List UInt8)
  | [] => none
  | byte :: bytes =>
    match scan.next byte with
    | none => none
    | some (_, true) => some ([byte], bytes)
    | some (scan, false) =>
      (scanArray scan bytes).map fun (array, rest) => (byte :: array, rest)

def exactArrayBytes (raw : List UInt8) : Option (List UInt8) := do
  let bytes := raw.dropWhile isAsciiWhitespace
  guard (bytes.head? = some 91)
  let (array, rest) ← scanArray { depth := 0, inString := false, escaped := false } bytes
  guard (rest.all isAsciiWhitespace)
  return array

/-- The response, the bytes of its actions and the actions. -/
def extractCatalog (body : Body) : Option (Json × List UInt8 × List Json) := do
  let response ← body.json
  let raw ← exactArrayBytes (← body.rawLegalActions)
  match response.get "legal_actions" with
  | .arr actions => return (response, raw, actions)
  | _ => none

/-! ### The cache -/

structure RecoveryCatalogKey where
  instanceId : String
  instanceIncarnation : String
  sessionId : String
  leaseId : String
  leaseEpoch : ℕ
  stateId : String
  gameplayGeneration : ℕ
deriving DecidableEq, Repr

structure RecoveryCatalog where
  key : RecoveryCatalogKey
  rawLegalActions : List UInt8
  digest : String
  actions : List Json

structure RecoveryCatalogCache where
  current : Option RecoveryCatalog
  observed : Option RecoveryCatalogKey
  /-- Consumed boundary awaiting a fresh authoritative observation. -/
  invalidated : Option RecoveryCatalogKey

def RecoveryCatalogCache.default : RecoveryCatalogCache where
  current := none
  observed := none
  invalidated := none

inductive RecoveryCatalogAdmission where
  | missing
  | stale
  | actionNotCurrent
deriving DecidableEq, Repr

def responseMatchesKey (response : Json) (key : RecoveryCatalogKey) : Bool :=
  (response.get "instance_id").asStr = some key.instanceId ∧
    (response.get "session_id").asStr = some key.sessionId ∧
    (response.get "lease_id").asStr = some key.leaseId ∧
    (response.get "lease_epoch").asU64 = some key.leaseEpoch

def sameAuthorityContext (left right : RecoveryCatalogKey) : Bool :=
  left.instanceId = right.instanceId ∧ left.instanceIncarnation = right.instanceIncarnation ∧
    left.sessionId = right.sessionId ∧ left.leaseId = right.leaseId ∧
    left.leaseEpoch = right.leaseEpoch

namespace RecoveryCatalogCache

variable (cache : RecoveryCatalogCache)

/-- The cache after an observation, unless it is older than the last one. -/
def advanceObservation (key : RecoveryCatalogKey) : Option RecoveryCatalogCache :=
  match cache.observed with
  | none => some { cache with observed := some key }
  | some observed =>
    if ¬ sameAuthorityContext observed key then
      some { cache with current := none, observed := some key }
    else if key.gameplayGeneration < observed.gameplayGeneration ∨
        (key.gameplayGeneration = observed.gameplayGeneration ∧
          key.stateId ≠ observed.stateId) then
      none
    else if observed.gameplayGeneration < key.gameplayGeneration then
      some { cache with current := none, observed := some key }
    else some { cache with observed := some key }

/-- An answer of the legal actions becomes the catalog. -/
def capture [Sha256] (key : RecoveryCatalogKey) (body : Body) : Option RecoveryCatalogCache := do
  let (response, raw, actions) ← extractCatalog body
  guard ((response.get "kind").asStr = some RuntimeV3GameplayRoute.legalActions.responseKind ∧
    responseMatchesKey response key ∧ (response.get "state_id").asStr = some key.stateId ∧
    (response.get "generation").asU64 = some key.gameplayGeneration ∧
    cache.invalidated ≠ some key)
  let advanced ← cache.advanceObservation key
  return { advanced with
    current := some { key, rawLegalActions := raw, digest := sha256Hex ⟨raw.toArray⟩, actions } }

def observe (key : RecoveryCatalogKey) : Option RecoveryCatalogCache :=
  (cache.advanceObservation key).map fun advanced =>
    if advanced.invalidated = some key then { advanced with invalidated := none } else advanced

def invalidateCurrent : RecoveryCatalogCache where
  current := none
  observed := cache.observed
  invalidated := (cache.current.map (·.key)).or cache.observed

def admission (key : RecoveryCatalogKey) (action : Json) :
    Except RecoveryCatalogAdmission String := do
  let catalog ← okOr cache.current .missing
  refuse (catalog.key ≠ key) .stale
  refuse (action ∉ catalog.actions) .actionNotCurrent
  return catalog.digest

end RecoveryCatalogCache

/-- An answer that shows the game as it stands. -/
def authoritativeObservation (route : RuntimeV3GameplayRoute) (response : Json) : Bool :=
  (response.get "observation").asObject.isSome &&
    match route with
    | .state | .reobserve => true
    | .dispatchAction | .waitForTransition | .recover =>
      (response.get "status").asStr = some "settled"
    | .legalActions => false

end Sts2Gateway.Service
