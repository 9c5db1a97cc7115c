/-
Runs of the cache of legal actions (`service_recovery_catalog.rs`).

* `CatalogInput`, `catalogStep`, `accepted`: the operations of the cache, and the boundary that
  one of them is accepted at;
* `step_observed`: **the boundary that was accepted last is the one observed**, and in one
  authority context it is never older than the one before;
* `current_captured`: a current catalog is the one captured last;
* `closed_step`: a consumed boundary stays closed until it is observed again;
* `catalog_discipline`: **a consumed catalog is not reused** as long as its context is kept.
-/
import Mathlib
import Sts2Gateway.Library.Machine
import Sts2Gateway.Recovery.Runs
import Sts2Gateway.Service.Catalog

namespace Sts2Gateway.Service

open CompactJson Machine Procedure Text

/-! ### Operations -/

inductive CatalogInput where
  | capture (key : RecoveryCatalogKey) (body : Body)
  | observe (key : RecoveryCatalogKey)
  | invalidateCurrent

section Hash

variable [Sha256]

/-- A refused operation leaves the cache as it was. -/
def catalogStep (cache : RecoveryCatalogCache) : CatalogInput → RecoveryCatalogCache
  | .capture key body => (cache.capture key body).getD cache
  | .observe key => (cache.observe key).getD cache
  | .invalidateCurrent => cache.invalidateCurrent

/-- The boundary that an operation is accepted at. -/
def accepted (cache : RecoveryCatalogCache) : CatalogInput → Option RecoveryCatalogKey
  | .capture key body => (cache.capture key body).map fun _ => key
  | .observe key => (cache.observe key).map fun _ => key
  | .invalidateCurrent => none

/-- The cache after operations on an empty one. -/
def cacheAfter (inputs : List CatalogInput) : RecoveryCatalogCache :=
  run catalogStep .default inputs

/-- Each boundary that is accepted has the authority context of a key. -/
def Stretch (key : RecoveryCatalogKey) (cache : RecoveryCatalogCache)
    (inputs : List CatalogInput) : Prop :=
  Along catalogStep (fun cache input => ∀ other, accepted cache input = some other →
    sameAuthorityContext key other = true) cache inputs

/-! ### Boundaries -/

omit [Sha256] in
lemma sameAuthorityContext_iff {left right : RecoveryCatalogKey} :
    sameAuthorityContext left right = true ↔
      left.instanceId = right.instanceId ∧ left.instanceIncarnation = right.instanceIncarnation ∧
        left.sessionId = right.sessionId ∧ left.leaseId = right.leaseId ∧
        left.leaseEpoch = right.leaseEpoch := by
  rw [sameAuthorityContext, decide_eq_true_eq]

omit [Sha256] in
/-- A boundary that follows another one of its context, or is the same. -/
lemma sameAuthorityContext_trans {key left right : RecoveryCatalogKey}
    (h : sameAuthorityContext key left = true) (h' : sameAuthorityContext key right = true) :
    sameAuthorityContext left right = true := by
  rw [sameAuthorityContext_iff] at h h' ⊢
  obtain ⟨h1, h2, h3, h4, h5⟩ := h
  obtain ⟨h1', h2', h3', h4', h5'⟩ := h'
  exact ⟨h1.symm.trans h1', h2.symm.trans h2', h3.symm.trans h3', h4.symm.trans h4',
    h5.symm.trans h5'⟩

/-- A boundary of the same context that is later, or the same one. -/
def Follows (key later : RecoveryCatalogKey) : Prop :=
  key.gameplayGeneration < later.gameplayGeneration ∨ later = key

omit [Sha256] in
lemma Follows.trans {first second third : RecoveryCatalogKey} (h : Follows first second)
    (h' : Follows second third) : Follows first third := by
  rcases h' with hlt' | rfl
  · rcases h with hlt | rfl
    · exact .inl (hlt.trans hlt')
    · exact .inl hlt'
  · exact h

section Steps

variable {cache : RecoveryCatalogCache} {input : CatalogInput} {key : RecoveryCatalogKey}

omit [Sha256] in
/-- What an observation that is accepted leaves. -/
lemma advanceObservation_eq_some {after : RecoveryCatalogCache}
    (h : cache.advanceObservation key = some after) :
    after.observed = some key ∧ after.invalidated = cache.invalidated ∧
      (after.current = none ∨ (after.current = cache.current ∧ ∀ observed,
        cache.observed = some observed → observed = key)) ∧
      ∀ observed, cache.observed = some observed → sameAuthorityContext observed key = true →
        Follows observed key := by
  unfold RecoveryCatalogCache.advanceObservation at h
  cases hobserved : cache.observed with
  | none =>
    rw [hobserved] at h
    obtain rfl := Option.some.inj h
    exact ⟨rfl, rfl, .inr ⟨rfl, fun _ hnone => nomatch hnone⟩, fun _ hnone => nomatch hnone⟩
  | some observed =>
    rw [hobserved] at h
    dsimp only at h
    by_cases hcontext : sameAuthorityContext observed key = true
    · rw [if_neg (not_not.mpr hcontext)] at h
      split_ifs at h with hold hnew
      · obtain rfl := Option.some.inj h
        exact ⟨rfl, rfl, .inl rfl, fun other hother _ => by
          rw [← Option.some.inj hother]
          exact .inl hnew⟩
      · -- neither older nor later, and in the same state
        have hsame : observed = key := by
          obtain ⟨hinstance, hincarnation, hsession, hlease, hepoch⟩ :=
            sameAuthorityContext_iff.mp hcontext
          have hgeneration : observed.gameplayGeneration = key.gameplayGeneration := by omega
          have hstate : observed.stateId = key.stateId := by
            by_contra hne
            exact hold (.inr ⟨hgeneration.symm, fun h => hne h.symm⟩)
          cases observed
          cases key
          simp_all
        obtain rfl := Option.some.inj h
        refine ⟨rfl, rfl, .inr ⟨rfl, fun other hother => ?_⟩, fun other hother _ => ?_⟩
        · rw [← Option.some.inj hother]
          exact hsame
        · rw [← Option.some.inj hother]
          exact .inr hsame.symm
    · rw [if_pos hcontext] at h
      obtain rfl := Option.some.inj h
      refine ⟨rfl, rfl, .inl rfl, fun other hother hsame => ?_⟩
      rw [← Option.some.inj hother] at hsame
      exact absurd hsame hcontext

/-- **What is accepted** is observed, and follows what was observed in its context. -/
lemma step_observed (h : accepted cache input = some key) :
    (catalogStep cache input).observed = some key ∧
      ∀ observed, cache.observed = some observed → sameAuthorityContext observed key = true →
        Follows observed key := by
  cases input with
  | capture other body =>
    rw [accepted, Option.map_eq_some_iff] at h
    obtain ⟨after, hcapture, rfl⟩ := h
    rw [catalogStep, hcapture, Option.getD_some]
    rw [RecoveryCatalogCache.capture] at hcapture
    simp only [Option.bind_eq_bind, Option.bind_eq_some_iff, Option.guard_eq_some',
      Option.pure_def, Option.some.injEq] at hcapture
    obtain ⟨_, _, _, _, advanced, hadvanced, rfl⟩ := hcapture
    obtain ⟨hobserved, -, -, hfollows⟩ := advanceObservation_eq_some hadvanced
    exact ⟨hobserved, hfollows⟩
  | observe other =>
    rw [accepted, Option.map_eq_some_iff] at h
    obtain ⟨after, hobserve, rfl⟩ := h
    rw [catalogStep, hobserve, Option.getD_some]
    rw [RecoveryCatalogCache.observe, Option.map_eq_some_iff] at hobserve
    obtain ⟨advanced, hadvanced, rfl⟩ := hobserve
    obtain ⟨hobserved, -, -, hfollows⟩ := advanceObservation_eq_some hadvanced
    refine ⟨?_, hfollows⟩
    split_ifs
    · exact hobserved
    · exact hobserved
  | invalidateCurrent => cases h

/-- What is not accepted observes nothing. -/
lemma step_observed_of_refused (h : accepted cache input = none) :
    (catalogStep cache input).observed = cache.observed := by
  cases input with
  | capture other body =>
    rw [accepted, Option.map_eq_none_iff] at h
    rw [catalogStep, h, Option.getD_none]
  | observe other =>
    rw [accepted, Option.map_eq_none_iff] at h
    rw [catalogStep, h, Option.getD_none]
  | invalidateCurrent => rfl

/-- **The watermark** of one authority context. -/
lemma run_follows {inputs : List CatalogInput} (h : cache.observed = some key)
    (hstretch : Stretch key cache inputs) :
    ∃ later, (run catalogStep cache inputs).observed = some later ∧
      sameAuthorityContext key later = true ∧ Follows key later := by
  have hself : sameAuthorityContext key key = true :=
    sameAuthorityContext_iff.mpr ⟨rfl, rfl, rfl, rfl, rfl⟩
  suffices hrun : ∀ (inputs : List CatalogInput) (cache : RecoveryCatalogCache)
      (now : RecoveryCatalogKey), cache.observed = some now → sameAuthorityContext key now = true →
      Follows key now → Stretch key cache inputs →
      ∃ later, (run catalogStep cache inputs).observed = some later ∧
        sameAuthorityContext key later = true ∧ Follows key later from
    hrun inputs cache key h hself (.inr rfl) hstretch
  intro inputs
  induction inputs with
  | nil => exact fun cache now hnow hsame hfollows _ => ⟨now, hnow, hsame, hfollows⟩
  | cons input inputs ih =>
    intro cache now hnow hsame hfollows hstretch
    rw [run_cons]
    cases haccepted : accepted cache input with
    | none =>
      refine ih _ now ?_ hsame hfollows hstretch.2
      rw [step_observed_of_refused haccepted, hnow]
    | some next =>
      have hnext := hstretch.1 next haccepted
      obtain ⟨hobserved, hlater⟩ := step_observed haccepted
      exact ih _ next hobserved hnext
        (hfollows.trans (hlater now hnow (sameAuthorityContext_trans hsame hnext))) hstretch.2

end Steps

/-! ### Captured catalogs -/

/-- The last of the operations that is an accepted capture, with what it has captured. -/
def LastCapture (cache : RecoveryCatalogCache) (inputs : List CatalogInput)
    (catalog : RecoveryCatalog) : Prop :=
  ∃ earlier body response rest, inputs = earlier ++ .capture catalog.key body :: rest ∧
    accepted (run catalogStep cache earlier) (.capture catalog.key body) = some catalog.key ∧
    extractCatalog body = some (response, catalog.rawLegalActions, catalog.actions) ∧
    catalog.digest = sha256Hex ⟨catalog.rawLegalActions.toArray⟩ ∧
    (∀ input ∈ rest, input ≠ .invalidateCurrent) ∧
    Along catalogStep (fun cache input => ∀ key body, input = .capture key body →
      accepted cache input = none) (run catalogStep cache (earlier ++ [.capture catalog.key body]))
      rest

/-- An operation after a capture that is not one itself. -/
lemma LastCapture.snoc {cache : RecoveryCatalogCache} {inputs : List CatalogInput}
    {catalog : RecoveryCatalog} (h : LastCapture cache inputs catalog) {input : CatalogInput}
    (hkept : input ≠ .invalidateCurrent)
    (hrefused : ∀ key body, input = .capture key body →
      accepted (run catalogStep cache inputs) input = none) :
    LastCapture cache (inputs ++ [input]) catalog := by
  obtain ⟨earlier, body, response, rest, rfl, haccepted, hextract, hdigest, hrest, halong⟩ := h
  have hassoc : earlier ++ CatalogInput.capture catalog.key body :: rest =
      (earlier ++ [.capture catalog.key body]) ++ rest := by
    rw [List.append_assoc, List.singleton_append]
  refine ⟨earlier, body, response, rest ++ [input], by simp, haccepted, hextract, hdigest, ?_, ?_⟩
  · intro other hother
    rcases List.mem_append.mp hother with hmem | hmem
    · exact hrest other hmem
    · rw [List.mem_singleton.mp hmem]
      exact hkept
  · rw [along_append]
    refine ⟨halong, ⟨?_, trivial⟩⟩
    rw [hassoc, run_append] at hrefused
    exact hrefused

/-- **A current catalog** is the one captured last, and was not consumed since. -/
lemma current_captured {cache : RecoveryCatalogCache} (hnone : cache.current = none)
    {inputs : List CatalogInput} {catalog : RecoveryCatalog}
    (h : (run catalogStep cache inputs).current = some catalog) :
    LastCapture cache inputs catalog := by
  induction inputs using List.reverseRecOn generalizing catalog with
  | nil =>
    rw [run_nil, hnone] at h
    cases h
  | append_singleton inputs input ih =>
    rw [run_append, run_cons, run_nil] at h
    cases input with
    | invalidateCurrent => cases h
    | observe key =>
      have hkept : (run catalogStep cache inputs).current = some catalog := by
        rw [catalogStep] at h
        cases hobserve : (run catalogStep cache inputs).observe key with
        | none =>
          rw [hobserve, Option.getD_none] at h
          exact h
        | some after =>
          rw [hobserve, Option.getD_some] at h
          rw [RecoveryCatalogCache.observe, Option.map_eq_some_iff] at hobserve
          obtain ⟨advanced, hadvanced, rfl⟩ := hobserve
          obtain ⟨-, -, hcurrent, -⟩ := advanceObservation_eq_some hadvanced
          have hsame : advanced.current = some catalog := by
            split_ifs at h
            · exact h
            · exact h
          rcases hcurrent with hgone | ⟨hcurrent, -⟩
          · rw [hgone] at hsame
            cases hsame
          · rw [← hcurrent, hsame]
      exact (ih hkept).snoc (fun h => nomatch h) fun _ _ h => nomatch h
    | capture key body =>
      rw [catalogStep] at h
      cases hcapture : (run catalogStep cache inputs).capture key body with
      | none =>
        rw [hcapture, Option.getD_none] at h
        refine (ih h).snoc (fun h => nomatch h) fun _ _ _ => ?_
        rw [accepted, hcapture, Option.map_none]
      | some after =>
        rw [hcapture, Option.getD_some] at h
        have haccepted : accepted (run catalogStep cache inputs) (.capture key body) =
            some key := by
          rw [accepted, hcapture, Option.map_some]
        rw [RecoveryCatalogCache.capture] at hcapture
        simp only [Option.bind_eq_bind, Option.bind_eq_some_iff, Option.guard_eq_some',
          Option.pure_def, Option.some.injEq] at hcapture
        obtain ⟨⟨response, raw, actions⟩, hextract, _, _, advanced, _, rfl⟩ := hcapture
        obtain rfl := Option.some.inj h
        exact ⟨inputs, body, response, [], rfl, haccepted, hextract, rfl,
          List.forall_mem_nil _, trivial⟩

/-! ### Consumed boundaries -/

/-- A current catalog belongs to the boundary that was observed last. -/
def CurrentObserved (cache : RecoveryCatalogCache) : Prop :=
  ∀ catalog, cache.current = some catalog → cache.observed = some catalog.key

lemma currentObserved_step {cache : RecoveryCatalogCache} (h : CurrentObserved cache)
    (input : CatalogInput) : CurrentObserved (catalogStep cache input) := by
  cases input with
  | invalidateCurrent => exact fun _ hcurrent => nomatch hcurrent
  | observe key =>
    rw [catalogStep]
    cases hobserve : cache.observe key with
    | none =>
      rw [Option.getD_none]
      exact h
    | some after =>
      rw [Option.getD_some]
      rw [RecoveryCatalogCache.observe, Option.map_eq_some_iff] at hobserve
      obtain ⟨advanced, hadvanced, rfl⟩ := hobserve
      obtain ⟨hobserved, -, hcurrent, -⟩ := advanceObservation_eq_some hadvanced
      have hkept : CurrentObserved advanced := by
        intro catalog hcatalog
        rcases hcurrent with hgone | ⟨hcurrent, hsame⟩
        · rw [hgone] at hcatalog
          cases hcatalog
        · rw [hcurrent] at hcatalog
          rw [hobserved, hsame _ (h catalog hcatalog)]
      split_ifs
      · exact hkept
      · exact hkept
  | capture key body =>
    rw [catalogStep]
    cases hcapture : cache.capture key body with
    | none =>
      rw [Option.getD_none]
      exact h
    | some after =>
      rw [Option.getD_some]
      rw [RecoveryCatalogCache.capture] at hcapture
      simp only [Option.bind_eq_bind, Option.bind_eq_some_iff, Option.guard_eq_some',
        Option.pure_def, Option.some.injEq] at hcapture
      obtain ⟨_, _, _, _, advanced, hadvanced, rfl⟩ := hcapture
      intro catalog hcatalog
      obtain rfl := Option.some.inj hcatalog
      exact (advanceObservation_eq_some hadvanced).1

lemma currentObserved_after (inputs : List CatalogInput) : CurrentObserved (cacheAfter inputs) := by
  have hempty : CurrentObserved .default := fun _ hcurrent => nomatch hcurrent
  exact run_invariant (P := CurrentObserved) (fun _ input h => currentObserved_step h input) hempty
    inputs

/-- A boundary is closed: a later one of its context has been observed, or it has been consumed
and was observed last. -/
structure Closed (key : RecoveryCatalogKey) (cache : RecoveryCatalogCache) : Prop where
  current : CurrentObserved cache
  observed : ∃ observed, cache.observed = some observed ∧
    sameAuthorityContext key observed = true ∧
    (key.gameplayGeneration < observed.gameplayGeneration ∨
      observed = key ∧ cache.invalidated = some key)

/-- A closed boundary is not captured. -/
lemma Closed.refuses {key : RecoveryCatalogKey} {cache : RecoveryCatalogCache}
    (h : Closed key cache) (body : Body) : accepted cache (.capture key body) = none := by
  obtain ⟨-, observed, hobserved, hsame, hclosed⟩ := h
  cases haccepted : accepted cache (.capture key body) with
  | none => rfl
  | some other =>
    have hother : other = key := by
      rw [accepted, Option.map_eq_some_iff] at haccepted
      obtain ⟨_, -, hkey⟩ := haccepted
      exact hkey.symm
    subst hother
    have hcontext : sameAuthorityContext observed other = true :=
      sameAuthorityContext_trans hsame (sameAuthorityContext_iff.mpr ⟨rfl, rfl, rfl, rfl, rfl⟩)
    rcases hclosed with hlater | ⟨rfl, hinvalidated⟩
    · rcases (step_observed haccepted).2 observed hobserved hcontext with hlt | rfl
      · exact absurd hlt (lt_asymm hlater)
      · exact absurd hlater (lt_irrefl _)
    · rw [accepted, Option.map_eq_some_iff] at haccepted
      obtain ⟨_, hcapture, -⟩ := haccepted
      rw [RecoveryCatalogCache.capture] at hcapture
      simp only [Option.bind_eq_bind, Option.bind_eq_some_iff, Option.guard_eq_some'] at hcapture
      obtain ⟨_, _, _, ⟨_, _, _, _, hinvalid⟩, _⟩ := hcapture
      exact absurd hinvalidated hinvalid

/-- **A closed boundary stays closed** until it is observed, or its context is left. -/
lemma closed_step {key : RecoveryCatalogKey} {cache : RecoveryCatalogCache} (h : Closed key cache)
    {input : CatalogInput}
    (hcontext : ∀ other, accepted cache input = some other → sameAuthorityContext key other = true)
    (hunobserved : input = .observe key → accepted cache input = none) :
    Closed key (catalogStep cache input) := by
  refine ⟨currentObserved_step h.current input, ?_⟩
  have hrefuses := h.refuses
  obtain ⟨hcurrent, observed, hobserved, hsame, hclosed⟩ := h
  cases haccepted : accepted cache input with
  | none =>
    refine ⟨observed, ?_, hsame, ?_⟩
    · rw [step_observed_of_refused haccepted, hobserved]
    · refine hclosed.imp_right fun ⟨hkey, hinvalidated⟩ => ⟨hkey, ?_⟩
      cases input with
      | capture other body =>
        rw [accepted, Option.map_eq_none_iff] at haccepted
        rw [catalogStep, haccepted, Option.getD_none, hinvalidated]
      | observe other =>
        rw [accepted, Option.map_eq_none_iff] at haccepted
        rw [catalogStep, haccepted, Option.getD_none, hinvalidated]
      | invalidateCurrent =>
        -- what is consumed now is what was observed last
        rw [catalogStep, RecoveryCatalogCache.invalidateCurrent]
        cases hcatalog : cache.current with
        | none => rw [Option.map_none, Option.none_or, hobserved, hkey]
        | some catalog =>
          have hlast := hcurrent catalog hcatalog
          rw [hobserved, hkey] at hlast
          rw [Option.map_some, Option.some_or, ← hlast]
  | some next =>
    have hnext := hcontext next haccepted
    obtain ⟨hlast, hfollows⟩ := step_observed haccepted
    have hlater := hfollows observed hobserved (sameAuthorityContext_trans hsame hnext)
    refine ⟨next, hlast, hnext, .inl ?_⟩
    rcases hclosed with hold | ⟨rfl, hinvalidated⟩
    · rcases hlater with hlt | rfl
      · exact hold.trans hlt
      · exact hold
    · rcases hlater with hlt | rfl
      · exact hlt
      · -- the boundary itself is neither captured nor observed
        cases input with
        | capture other body =>
          have hother : other = next := by
            rw [accepted, Option.map_eq_some_iff] at haccepted
            obtain ⟨_, -, hkey⟩ := haccepted
            exact hkey
          subst hother
          rw [hrefuses body] at haccepted
          cases haccepted
        | observe other =>
          have hother : other = next := by
            rw [accepted, Option.map_eq_some_iff] at haccepted
            obtain ⟨_, -, hkey⟩ := haccepted
            exact hkey
          subst hother
          rw [hunobserved rfl] at haccepted
          cases haccepted
        | invalidateCurrent => cases haccepted

/-- The boundary that a consumption closes. -/
def consumed (cache : RecoveryCatalogCache) : Option RecoveryCatalogKey :=
  cache.invalidateCurrent.invalidated

omit [Sha256] in
lemma closed_of_consumed {cache : RecoveryCatalogCache} (h : CurrentObserved cache)
    {key : RecoveryCatalogKey} (hkey : consumed cache = some key) :
    Closed key cache.invalidateCurrent := by
  refine ⟨(fun _ hcurrent => nomatch hcurrent), key, ?_,
    sameAuthorityContext_iff.mpr ⟨rfl, rfl, rfl, rfl, rfl⟩, .inr ⟨rfl, hkey⟩⟩
  have hobserved : cache.invalidateCurrent.observed = cache.observed := rfl
  rw [hobserved]
  rw [consumed, RecoveryCatalogCache.invalidateCurrent] at hkey
  cases hcatalog : cache.current with
  | none =>
    rw [hcatalog, Option.map_none, Option.none_or] at hkey
    exact hkey
  | some catalog =>
    rw [hcatalog, Option.map_some, Option.some_or] at hkey
    exact (h catalog hcatalog).trans hkey

/-- The boundary is observed again on the way. -/
def Reobserved (key : RecoveryCatalogKey) (cache : RecoveryCatalogCache)
    (inputs : List CatalogInput) : Prop :=
  ∃ before after, inputs = before ++ .observe key :: after ∧
    accepted (run catalogStep cache before) (.observe key) = some key

/-- A closed boundary that is not observed stays closed for as long as its context is kept. -/
lemma closed_run {key : RecoveryCatalogKey} {cache : RecoveryCatalogCache} (h : Closed key cache)
    {inputs : List CatalogInput} (hstretch : Stretch key cache inputs)
    (hunobserved : ¬ Reobserved key cache inputs) : Closed key (run catalogStep cache inputs) := by
  induction inputs generalizing cache with
  | nil => exact h
  | cons input inputs ih =>
    refine ih (closed_step h hstretch.1 fun hinput => ?_) hstretch.2 ?_
    · by_contra haccepted
      obtain ⟨other, hother⟩ := Option.ne_none_iff_exists'.mp haccepted
      subst hinput
      have hsame : other = key := by
        rw [accepted, Option.map_eq_some_iff] at hother
        obtain ⟨_, -, hkey⟩ := hother
        exact hkey.symm
      subst hsame
      exact hunobserved ⟨[], inputs, rfl, hother⟩
    · rintro ⟨before, after, rfl, haccepted⟩
      exact hunobserved ⟨input :: before, after, rfl, haccepted⟩

/-! ### Discipline -/

/-- After a consumption an action is admitted only from a catalog that was captured since,
and, at the consumed boundary, only under a condition on the operations in between. -/
def ConsumedStays (inputs : List CatalogInput)
    (C : RecoveryCatalogKey → RecoveryCatalogCache → List CatalogInput → Prop) : Prop :=
  ∀ before since after key action digest,
    inputs = before ++ .invalidateCurrent :: (since ++ after) →
    (cacheAfter (before ++ .invalidateCurrent :: since)).admission key action = .ok digest →
    ∃ between body rest, since = between ++ .capture key body :: rest ∧
      accepted (cacheAfter (before ++ .invalidateCurrent :: between)) (.capture key body) =
        some key ∧
      (consumed (cacheAfter before) = some key →
        C key (cacheAfter (before ++ [.invalidateCurrent])) between)

/-- What is kept over a run of the cache. -/
structure CatalogDiscipline (inputs : List CatalogInput)
    (C : RecoveryCatalogKey → RecoveryCatalogCache → List CatalogInput → Prop) : Prop where
  /-- The boundary that was accepted last is the observed one. -/
  observed : ∀ before input after key, inputs = before ++ input :: after →
    accepted (cacheAfter before) input = some key →
    (cacheAfter (before ++ [input])).observed = some key
  /-- In one authority context the observed generation does not fall, and has one state. -/
  watermark : ∀ before between after key, inputs = before ++ (between ++ after) →
    (cacheAfter before).observed = some key → Stretch key (cacheAfter before) between →
    ∃ later, (cacheAfter (before ++ between)).observed = some later ∧
      key.gameplayGeneration ≤ later.gameplayGeneration ∧
      (key.gameplayGeneration = later.gameplayGeneration → key.stateId = later.stateId)
  /-- An action is admitted from the catalog that was captured last. -/
  admitted : ∀ before after key action digest, inputs = before ++ after →
    (cacheAfter before).admission key action = .ok digest →
    ∃ catalog, LastCapture .default before catalog ∧ catalog.key = key ∧
      action ∈ catalog.actions ∧ digest = catalog.digest
  consumed : ConsumedStays inputs C

omit [Sha256] in
/-- What an admission says of the cache. -/
lemma current_of_admission {cache : RecoveryCatalogCache} {key : RecoveryCatalogKey}
    {action : Json} {digest : String} (h : cache.admission key action = .ok digest) :
    ∃ catalog, cache.current = some catalog ∧ catalog.key = key ∧ action ∈ catalog.actions ∧
      digest = catalog.digest := by
  simp only [RecoveryCatalogCache.admission, except_bind_eq_ok, okOr_eq_ok, refuse_eq_ok,
    not_not, pure, Except.pure, Except.ok.injEq] at h
  obtain ⟨catalog, hcurrent, _, hkey, _, hmem, hdigest⟩ := h
  exact ⟨catalog, hcurrent, hkey, hmem, hdigest.symm⟩

/-- **A consumed catalog is not reused**, unless another authority context was observed in
between. -/
theorem catalog_discipline (inputs : List CatalogInput) :
    CatalogDiscipline inputs fun key cache between =>
      Reobserved key cache between ∨ ¬ Stretch key cache between where
  observed := by
    intro before input after key _ haccepted
    rw [cacheAfter, run_append]
    exact (step_observed haccepted).1
  watermark := by
    intro before between after key _ hobserved hstretch
    obtain ⟨later, hlater, -, hfollows⟩ := run_follows hobserved hstretch
    refine ⟨later, ?_, ?_⟩
    · rw [cacheAfter, run_append]
      exact hlater
    · rcases hfollows with hlt | rfl
      · exact ⟨hlt.le, fun heq => absurd heq hlt.ne⟩
      · exact ⟨le_rfl, fun _ => rfl⟩
  admitted := by
    intro before after key action digest _ hadmitted
    obtain ⟨catalog, hcurrent, hkey, hmem, hdigest⟩ := current_of_admission hadmitted
    exact ⟨catalog, current_captured rfl hcurrent, hkey, hmem, hdigest⟩
  consumed := by
    intro before since after key action digest _ hadmitted
    have hsplit : ∀ later, cacheAfter (before ++ .invalidateCurrent :: later) =
        run catalogStep (cacheAfter before).invalidateCurrent later := by
      intro later
      rw [cacheAfter, run_append]
      rfl
    have hnow : cacheAfter (before ++ [.invalidateCurrent]) =
        (cacheAfter before).invalidateCurrent := hsplit []
    obtain ⟨catalog, hcurrent, rfl, -, -⟩ := current_of_admission hadmitted
    rw [hsplit] at hcurrent
    have hnone : (cacheAfter before).invalidateCurrent.current = none := rfl
    obtain ⟨between, body, response, rest, rfl, haccepted, -⟩ := current_captured hnone hcurrent
    refine ⟨between, body, rest, rfl, ?_, fun hconsumed => ?_⟩
    · rw [hsplit]
      exact haccepted
    · rw [hnow]
      by_contra hnone
      obtain ⟨hunobserved, hstretch⟩ := not_or.mp hnone
      have hclosed := closed_run
        (closed_of_consumed (currentObserved_after before) hconsumed) (not_not.mp hstretch)
        hunobserved
      rw [hclosed.refuses body] at haccepted
      cases haccepted

end Hash

namespace Sample

/-- A boundary under one lease or another. -/
def boundary (leaseId : String) : RecoveryCatalogKey where
  instanceId := "instance-1"
  instanceIncarnation := "incarnation-1"
  sessionId := "session-1"
  leaseId := leaseId
  leaseEpoch := 1
  stateId := "state-1"
  gameplayGeneration := 1

/-- An answer at the boundary of the first lease, with one action. -/
def catalogBody : Body where
  size := 200
  json := some (.obj [("generation", .num 1), ("instance_id", .str "instance-1"),
    ("kind", .str "legal_actions_response"), ("lease_epoch", .num 1), ("lease_id", .str "lease-1"),
    ("legal_actions", .arr [.null]), ("session_id", .str "session-1"),
    ("state_id", .str "state-1")])
  rawLegalActions := some "[null]".toUTF8.toList

/-- A capture and its consumption, and then both under another lease. -/
def consumptions : List CatalogInput :=
  [.capture (boundary "lease-1") catalogBody, .invalidateCurrent,
    .observe (boundary "lease-2"), .invalidateCurrent]

def recaptured : List CatalogInput :=
  consumptions ++ [.capture (boundary "lease-1") catalogBody]

end Sample

section Example

attribute [local instance] Recovery.Sample.sha256

/-- The catalog of the first lease is captured again, and nobody has observed its boundary. -/
theorem consumed_catalog_recaptured : ¬ CatalogDiscipline Sample.recaptured Reobserved := by
  intro h
  have hok : ((cacheAfter Sample.recaptured).admission (Sample.boundary "lease-1") .null).isOk =
      true := by
    decide +kernel
  have hconsumed : consumed (cacheAfter [.capture (Sample.boundary "lease-1") Sample.catalogBody]) =
      some (Sample.boundary "lease-1") := by
    decide +kernel
  cases hadmitted : (cacheAfter Sample.recaptured).admission (Sample.boundary "lease-1") .null with
  | error refusal =>
    rw [hadmitted] at hok
    cases hok
  | ok digest =>
    obtain ⟨between, body, rest, hsince, -, hreobserved⟩ := h.consumed
      [.capture (Sample.boundary "lease-1") Sample.catalogBody]
      [.observe (Sample.boundary "lease-2"), .invalidateCurrent,
        .capture (Sample.boundary "lease-1") Sample.catalogBody] [] _ _ _ rfl hadmitted
    obtain ⟨before, after, rfl, -⟩ := hreobserved hconsumed
    have hmem : CatalogInput.observe (Sample.boundary "lease-1") ∈
        [CatalogInput.observe (Sample.boundary "lease-2"), .invalidateCurrent,
          .capture (Sample.boundary "lease-1") Sample.catalogBody] := by
      rw [hsince]
      simp
    simp [Sample.boundary] at hmem

end Example

end Sts2Gateway.Service
