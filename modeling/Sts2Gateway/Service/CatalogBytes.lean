/-
The host's own spelling of its legal actions (`service_recovery_catalog.rs`).

* `Scans`: a stretch of bytes takes the scan of an array from one state to another;
* `scans_of_spells`: **what a JSON text says inside an array leaves the scan where it was**;
* `exact_array_of_spelling`: the bytes of an array are found between any white space, and
  the digest of a captured catalog is theirs.
-/
import Mathlib.Tactic
import Sts2Gateway.Library.JsonGrammar
import Sts2Gateway.Library.Utf8
import Sts2Gateway.Recovery.Runs
import Sts2Gateway.Service.Catalog

namespace Sts2Gateway.Service

open CompactJson JsonGrammar Text Utf8

/-! ### The scan of a stretch of bytes -/

/-- The scan outside of a string. -/
def outside (depth : ℕ) : ArrayScan := { depth, inString := false, escaped := false }

def inside (depth : ℕ) : ArrayScan := { depth, inString := true, escaped := false }

/-- A stretch of bytes that does not close the array, and where the scan stands after it. -/
def Scans (scan : ArrayScan) (bytes : List UInt8) (after : ArrayScan) : Prop :=
  ∀ rest, scanArray scan (bytes ++ rest) =
    (scanArray after rest).map fun (array, rest) => (bytes ++ array, rest)

namespace Scans

variable {scan between after : ArrayScan} {first second : List UInt8}

lemma nil : Scans scan [] scan := fun rest => by simp

lemma append (h : Scans scan first between) (h' : Scans between second after) :
    Scans scan (first ++ second) after := by
  intro rest
  rw [List.append_assoc, h, h', Option.map_map]
  congr 1
  funext ⟨array, rest⟩
  simp

/-- One byte. -/
lemma byte {byte : UInt8} (h : scan.next byte = some (after, false)) :
    Scans scan [byte] after := by
  intro rest
  rw [List.singleton_append, scanArray, h]
  rfl

/-- Bytes that leave the scan where it is. -/
lemma of_forall {bytes : List UInt8} (h : ∀ byte ∈ bytes, scan.next byte = some (scan, false)) :
    Scans scan bytes scan := by
  induction bytes with
  | nil => exact nil
  | cons byte bytes ih =>
    obtain ⟨hbyte, hrest⟩ := List.forall_mem_cons.mp h
    exact (Scans.byte hbyte).append (ih hrest)

end Scans

lemma ne_of_toNat {byte : UInt8} {n : ℕ} (hn : n < 256) (h : byte.toNat ≠ n) :
    byte ≠ UInt8.ofNat n := by
  rintro rfl
  rw [UInt8.toNat_ofNat'] at h
  omega

/-- Outside of a string only quotes and brackets count. -/
lemma next_outside {depth : ℕ} {byte : UInt8} (hquote : byte ≠ 34) (hopen : byte ≠ 91)
    (hclose : byte ≠ 93) : (outside depth).next byte = some (outside depth, false) := by
  simp [ArrayScan.next, outside, hquote, hopen, hclose]

/-- Inside of a string only quotes and backslashes count. -/
lemma next_inside {depth : ℕ} {byte : UInt8} (hquote : byte ≠ 34) (hbackslash : byte ≠ 92) :
    (inside depth).next byte = some (inside depth, false) := by
  simp [ArrayScan.next, inside, hquote, hbackslash]

/-- A byte that stands for a character that the text does not have. -/
lemma ne_of_notMem {text : List Char} {byte : UInt8} (hbyte : byte ∈ bytesOf text) {c : Char}
    (hascii : c.toNat < 128) (h : c ∉ text) : byte ≠ UInt8.ofNat c.toNat := by
  rintro rfl
  have hvalue : (UInt8.ofNat c.toNat).toNat = c.toNat := by
    rw [UInt8.toNat_ofNat']
    omega
  obtain ⟨d, hd, heq⟩ := mem_of_mem_bytesOf hbyte (hvalue.trans_lt hascii)
  rw [hvalue, Char.toNat_inj] at heq
  exact h (heq ▸ hd)

lemma scans_outside {depth : ℕ} {text : List Char} (hquote : '"' ∉ text) (hopen : '[' ∉ text)
    (hclose : ']' ∉ text) : Scans (outside depth) (bytesOf text) (outside depth) :=
  Scans.of_forall fun _ hbyte => next_outside (ne_of_notMem hbyte (by decide) hquote)
    (ne_of_notMem hbyte (by decide) hopen) (ne_of_notMem hbyte (by decide) hclose)

lemma scans_inside {depth : ℕ} {text : List Char} (hquote : '"' ∉ text) (hbackslash : '\\' ∉ text) :
    Scans (inside depth) (bytesOf text) (inside depth) :=
  Scans.of_forall fun _ hbyte => next_inside (ne_of_notMem hbyte (by decide) hquote)
    (ne_of_notMem hbyte (by decide) hbackslash)

/-! ### Strings -/

/-- A backslash and the character after it. -/
lemma scans_escape {depth : ℕ} {e : Char} (he : e.toNat < 128) :
    Scans (inside depth) (bytesOf ['\\', e]) (inside depth) := by
  have hbytes : bytesOf ['\\', e] = [92] ++ [UInt8.ofNat e.toNat] := by
    rw [bytesOf_cons, bytesOf_cons, bytesOf_nil, Digits.utf8EncodeChar_ascii he]
    rfl
  rw [hbytes]
  have hbackslash : Scans (inside depth) [92] { depth, inString := true, escaped := true } :=
    Scans.byte rfl
  exact hbackslash.append (Scans.byte rfl)

lemma scans_unit {depth : ℕ} {unit : List Char} {n : ℕ} (h : IsUnit unit n) :
    Scans (inside depth) (bytesOf ('\\' :: 'u' :: unit)) (inside depth) := by
  have hplain := plain_of_isUnit h
  have hsplit : bytesOf ('\\' :: 'u' :: unit) = bytesOf ['\\', 'u'] ++ bytesOf unit := rfl
  rw [hsplit]
  refine (scans_escape (by decide)).append (scans_inside ?_ ?_)
  · exact fun hmem => (hplain _ hmem).1 rfl
  · exact fun hmem => (hplain _ hmem).2 rfl

/-- The inside of a string, by induction on how it is spelled. -/
lemma scans_chars {depth : ℕ} {chars text : List Char} (h : SpellsChars chars text) :
    Scans (inside depth) (bytesOf text) (inside depth) := by
  induction h with
  | nil => exact Scans.nil
  | @plain c cs text _ hquote hbackslash _ ih =>
    have hchar : Scans (inside depth) (bytesOf [c]) (inside depth) := by
      refine scans_inside ?_ ?_
      · exact fun hmem => hquote (List.mem_singleton.mp hmem).symm
      · exact fun hmem => hbackslash (List.mem_singleton.mp hmem).symm
    rw [bytesOf_cons]
    rw [bytesOf_cons, bytesOf_nil, List.append_nil] at hchar
    exact hchar.append ih
  | @short e c cs text hescape _ ih =>
    have he : e.toNat < 128 := by
      have hall : ∀ pair ∈ shortEscapes, pair.1.toNat < 128 := by decide
      exact hall _ hescape
    have hsplit : bytesOf ('\\' :: e :: text) = bytesOf ['\\', e] ++ bytesOf text := by simp
    rw [hsplit]
    exact (scans_escape he).append ih
  | @unit c cs unit text hunit _ ih =>
    have hsplit : bytesOf ('\\' :: 'u' :: (unit ++ text)) =
        bytesOf ('\\' :: 'u' :: unit) ++ bytesOf text := by simp
    rw [hsplit]
    exact (scans_unit hunit).append ih
  | @pair c high low cs first second text hfirst hsecond _ _ _ _ ih =>
    have hsplit : bytesOf ('\\' :: 'u' :: (first ++ '\\' :: 'u' :: (second ++ text))) =
        bytesOf ('\\' :: 'u' :: first) ++ (bytesOf ('\\' :: 'u' :: second) ++ bytesOf text) := by
      simp
    rw [hsplit]
    exact (scans_unit hfirst).append ((scans_unit hsecond).append ih)

lemma scans_string {depth : ℕ} {value : String} {text : List Char} (h : SpellsString value text) :
    Scans (outside depth) (bytesOf text) (outside depth) := by
  obtain ⟨chars, hchars, rfl⟩ := h
  have hsplit : bytesOf ('"' :: (chars ++ ['"'])) = [34] ++ (bytesOf chars ++ [34]) := by
    rw [bytesOf_cons, bytesOf_append]
    rfl
  rw [hsplit]
  have hopen : Scans (outside depth) [34] (inside depth) := Scans.byte rfl
  have hclose : Scans (inside depth) [34] (outside depth) := Scans.byte rfl
  exact hopen.append ((scans_chars hchars).append hclose)

/-! ### Values -/

lemma scans_space {depth : ℕ} {text : List Char} (h : IsSpace text) :
    Scans (outside depth) (bytesOf text) (outside depth) := by
  refine scans_outside ?_ ?_ ?_ <;>
  · intro hmem
    have := h _ hmem
    revert this
    decide

/-- A character between the tokens. -/
lemma scans_mark {depth : ℕ} {c : Char} (hc : c ∈ [',', ':', '{', '}']) :
    Scans (outside depth) (bytesOf [c]) (outside depth) := by
  refine scans_outside ?_ ?_ ?_ <;>
  · intro hmem
    rw [← List.mem_singleton.mp hmem] at hc
    revert hc
    decide

lemma scans_numeral {depth : ℕ} {text : List Char} (h : IsNumeral text) :
    Scans (outside depth) (bytesOf text) (outside depth) := by
  refine scans_outside ?_ ?_ ?_ <;>
  · intro hmem
    have := mem_numeral h hmem
    revert this
    decide

/-- The texts that are numerals stand for themselves. -/
def Literal (literal text : List Char) : Prop := IsNumeral literal ∧ text = literal

/-- **What a text says inside an array leaves the scan where it was**, by induction on how it is
spelled; an array inside goes one level down and comes back. -/
theorem scans_of_spells {phrase : Phrase (List Char)} {text : List Char}
    (h : Spells Literal phrase text) (depth : ℕ) :
    Scans (outside (depth + 1)) (bytesOf text) (outside (depth + 1)) := by
  have hopen : ∀ depth, Scans (outside (depth + 1)) (bytesOf ['[']) (outside (depth + 2)) :=
    fun depth => Scans.byte rfl
  have hclose : ∀ depth, Scans (outside (depth + 2)) (bytesOf [']']) (outside (depth + 1)) :=
    fun depth => Scans.byte rfl
  have hjoin : ∀ {depth : ℕ} {first second : List Char},
      Scans (outside depth) (bytesOf first) (outside depth) →
      Scans (outside depth) (bytesOf second) (outside depth) →
      Scans (outside depth) (bytesOf (first ++ second)) (outside depth) := fun hfirst hsecond =>
    bytesOf_append _ _ ▸ hfirst.append hsecond
  have hmark : ∀ {depth : ℕ} {c : Char} {text : List Char}, c ∈ [',', ':', '{', '}'] →
      Scans (outside depth) (bytesOf text) (outside depth) →
      Scans (outside depth) (bytesOf (c :: text)) (outside depth) := fun hc htext =>
    hjoin (scans_mark hc) htext
  have harray : ∀ {depth : ℕ} {text : List Char},
      Scans (outside (depth + 2)) (bytesOf text) (outside (depth + 2)) →
      Scans (outside (depth + 1)) (bytesOf ('[' :: (text ++ [']']))) (outside (depth + 1)) := by
    intro depth text htext
    have hsplit : bytesOf ('[' :: (text ++ [']'])) =
        bytesOf ['['] ++ (bytesOf text ++ bytesOf [']']) := by simp
    rw [hsplit]
    exact (hopen depth).append (htext.append (hclose depth))
  induction h generalizing depth with
  | null | true | false => exact scans_outside (by decide) (by decide) (by decide)
  | num numeral => exact numeral.2 ▸ scans_numeral numeral.1
  | str string => exact scans_string string
  | noItems hspace => exact harray (scans_space hspace)
  | arr _ ih => exact harray (ih (depth + 1))
  | noMembers hspace =>
    exact hmark (by decide) (hjoin (scans_space hspace) (scans_mark (by decide)))
  | obj _ ih => exact hmark (by decide) (hjoin (ih depth) (scans_mark (by decide)))
  | item hbefore _ hafter ih =>
    exact hjoin (scans_space hbefore) (hjoin (ih depth) (scans_space hafter))
  | nextItem hbefore _ hafter _ ih ihRest =>
    exact hjoin (scans_space hbefore) (hjoin (ih depth)
      (hjoin (scans_space hafter) (hmark (by decide) (ihRest depth))))
  | member hbefore hname hbetween hgap _ hafter ih =>
    exact hjoin (scans_space hbefore) (hjoin (scans_string hname) (hjoin (scans_space hbetween)
      (hmark (by decide) (hjoin (scans_space hgap) (hjoin (ih depth) (scans_space hafter))))))
  | nextMember hbefore hname hbetween hgap _ hafter _ ih ihRest =>
    exact hjoin (scans_space hbefore) (hjoin (scans_string hname) (hjoin (scans_space hbetween)
      (hmark (by decide) (hjoin (scans_space hgap) (hjoin (ih depth)
        (hjoin (scans_space hafter) (hmark (by decide) (ihRest depth))))))))

/-- The scan of an array ends at its own bracket. -/
lemma scanArray_of_spells {items : List (JsonTree (List Char))} {text : List Char}
    (h : Spells Literal (.value (.arr items)) text) (rest : List UInt8) :
    (bytesOf text).head? = some 91 ∧
      scanArray (outside 0) (bytesOf text ++ rest) = some (bytesOf text, rest) := by
  obtain ⟨between, hbetween, rfl⟩ : ∃ between,
      Scans (outside 1) (bytesOf between) (outside 1) ∧ text = '[' :: (between ++ [']']) := by
    cases h with
    | noItems hspace => exact ⟨_, scans_space hspace, rfl⟩
    | arr items => exact ⟨_, scans_of_spells items 0, rfl⟩
  have hsplit : bytesOf ('[' :: (between ++ [']'])) = [91] ++ (bytesOf between ++ [93]) := by
    rw [bytesOf_cons, bytesOf_append]
    rfl
  have hopen : Scans (outside 0) [91] (outside 1) := Scans.byte rfl
  have hlast : scanArray (outside 1) (93 :: rest) = some ([93], rest) := rfl
  rw [hsplit]
  refine ⟨rfl, ?_⟩
  rw [List.append_assoc, hopen, List.append_assoc, hbetween, List.singleton_append, hlast]
  rfl

/-- **The bytes of an array are found** between any white space: from its opening bracket to the
closing one, as they are spelled; a catalog that is extracted or captured from such a body has
them, and its digest is theirs. -/
theorem exact_array_of_spelling [Sha256] {items : List (JsonTree (List Char))} {text : List Char}
    {before after : List UInt8} (hbefore : before.all isAsciiWhitespace)
    (hafter : after.all isAsciiWhitespace) (h : Spells Literal (.value (.arr items)) text) :
    exactArrayBytes (before ++ (bytesOf text ++ after)) = some (bytesOf text) ∧
      ∀ body : Body, body.rawLegalActions = some (before ++ (bytesOf text ++ after)) →
        (∀ response raw actions, extractCatalog body = some (response, raw, actions) →
          raw = bytesOf text) ∧
        ∀ cache next key, RecoveryCatalogCache.capture cache key body = some next →
          ∃ catalog, next.current = some catalog ∧ catalog.rawLegalActions = bytesOf text ∧
            catalog.digest = sha256Hex ⟨(bytesOf text).toArray⟩ := by
  have hexact : exactArrayBytes (before ++ (bytesOf text ++ after)) = some (bytesOf text) := by
    obtain ⟨hhead, hscan⟩ := scanArray_of_spells h after
    have hdrop : (before ++ (bytesOf text ++ after)).dropWhile isAsciiWhitespace =
        bytesOf text ++ after := by
      rw [List.dropWhile_append_of_pos (List.all_eq_true.mp hbefore)]
      cases hbytes : bytesOf text with
      | nil =>
        rw [hbytes] at hhead
        cases hhead
      | cons byte bytes =>
        rw [hbytes] at hhead
        obtain rfl := Option.some.inj hhead
        rfl
    have hfirst : (bytesOf text ++ after).head? = some 91 := by
      rw [List.head?_append, hhead]
      rfl
    simp only [exactArrayBytes, hdrop, hfirst, guard_true, Option.bind_eq_bind, Option.pure_def,
      Option.bind_some]
    rw [outside] at hscan
    rw [hscan]
    change Option.bind (guard (after.all isAsciiWhitespace = true)) (fun _ => some (bytesOf text)) =
      some (bytesOf text)
    rw [hafter]
    rfl
  have hextract : ∀ body : Body,
      body.rawLegalActions = some (before ++ (bytesOf text ++ after)) →
      ∀ response raw actions, extractCatalog body = some (response, raw, actions) →
        raw = bytesOf text := by
    intro body hraw response raw actions hread
    simp only [extractCatalog, Option.bind_eq_bind, Option.bind_eq_some_iff, hraw,
      Option.some.injEq, exists_eq_left', hexact] at hread
    obtain ⟨_, -, hactions⟩ := hread
    split at hactions
    · exact (congrArg (fun found => found.2.1) (Option.some.inj hactions)).symm
    · cases hactions
  refine ⟨hexact, fun body hraw => ⟨hextract body hraw, fun cache next key hcapture => ?_⟩⟩
  simp only [RecoveryCatalogCache.capture, Option.bind_eq_bind, Option.bind_eq_some_iff] at hcapture
  obtain ⟨⟨response, raw, actions⟩, hread, -, -, advanced, -, hnext⟩ := hcapture
  obtain rfl := Option.some.inj hnext
  obtain rfl := hextract body hraw response raw actions hread
  exact ⟨_, rfl, rfl, rfl⟩

section Example

attribute [local instance] Recovery.Sample.sha256

/-- The bracket inside of the string does not close the array. -/
theorem bracketed_string_found :
    exactArrayBytes [12, 32, 91, 34, 93, 34, 93, 10] = some [91, 34, 93, 34, 93] := by
  have hitem : Spells Literal (.value (.str "]")) "\"]\"".toList :=
    .str ⟨[']'], .plain (by decide) (by decide) (by decide) .nil, rfl⟩
  have htext : Spells Literal (.value (.arr [.str "]"])) "[\"]\"]".toList :=
    .arr (.item isSpace_nil hitem isSpace_nil)
  have hbefore : [12, 32].all isAsciiWhitespace = true := rfl
  have hafter : [10].all isAsciiWhitespace = true := rfl
  exact (exact_array_of_spelling hbefore hafter htext).1

end Example

end Sts2Gateway.Service
