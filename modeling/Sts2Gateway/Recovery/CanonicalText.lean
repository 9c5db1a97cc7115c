/-
Compact JSON text in the characters of identities.

* `IdentityText`, `Plain`: such text, and the values of objects, texts and
  literals over it whose objects name each member once;
* `scanValue_render`: **such a value is read back from its compact text**;
* `Sorted`, `sorted_sortValue`, `sortValue_of_sorted`: values whose objects have
  their members in the order of their keys;
* `isToken_render`, `length_obj_le`: the characters and the length of a text.
-/
import Mathlib.Tactic
import Sts2Gateway.Library.Digits
import Sts2Gateway.Recovery.Canonical

namespace Sts2Gateway.Recovery

open CompactJson Procedure Text

/-! ### Compact text over identities -/

/-- The bytes of a text in ASCII, one for each character. -/
def asciiBytes (chars : List Char) : List UInt8 := chars.map fun c => UInt8.ofNat c.toNat

/-- Text in the characters of an identity, which a string literal holds as they are. -/
def IdentityText (chars : List Char) : Prop :=
  ∀ c ∈ chars, c.toNat < 128 ∧ isIdentityByte (UInt8.ofNat c.toNat)

instance (chars : List Char) : Decidable (IdentityText chars) :=
  List.decidableBAll _ chars

lemma identityText_cons {c : Char} {chars : List Char} :
    IdentityText (c :: chars) ↔
      (c.toNat < 128 ∧ isIdentityByte (UInt8.ofNat c.toNat)) ∧ IdentityText chars :=
  List.forall_mem_cons

/-- A character of an identity is no control character, quote or backslash. -/
lemma identityChar_ne {c : Char} (hc : c.toNat < 128)
    (h : isIdentityByte (UInt8.ofNat c.toNat)) : 32 < c.toNat ∧ c ≠ '"' ∧ c ≠ '\\' := by
  have hall : ∀ n < 128, isIdentityByte (UInt8.ofNat n) → 34 < n ∧ n ≠ 92 := by decide
  obtain ⟨hlow, hslash⟩ := hall c.toNat hc h
  refine ⟨by omega, ?_, ?_⟩
  · rintro rfl
    exact absurd hlow (by decide)
  · rintro rfl
    exact hslash rfl

lemma escape_plain {chars : List Char} (h : IdentityText chars) : escape chars = chars := by
  induction chars with
  | nil => rfl
  | cons c chars ih =>
    obtain ⟨⟨hhigh, hidentity⟩, hchars⟩ := identityText_cons.mp h
    obtain ⟨hlow, hquote, hslash⟩ := identityChar_ne hhigh hidentity
    have hne : ∀ d : Char, d.toNat < 32 → c ≠ d := by
      rintro d hd rfl
      omega
    have hchar : escapeChar c = [c] := by
      rw [escapeChar, if_neg hquote, if_neg hslash, if_neg (hne _ (by decide)),
        if_neg (hne _ (by decide)), if_neg (hne _ (by decide)), if_neg (hne _ (by decide)),
        if_neg (hne _ (by decide)), if_neg (by omega)]
    rw [escape, hchar, ih hchars, List.singleton_append]

lemma toNat_asciiByte {c : Char} (h : c.toNat < 128) : (UInt8.ofNat c.toNat).toNat = c.toNat := by
  rw [UInt8.toNat_ofNat', Nat.mod_eq_of_lt (by omega)]

/-- The byte of a character is that of no other. -/
lemma asciiByte_ne {c d : Char} (hc : c.toNat < 128) (hd : d.toNat < 128) (h : c ≠ d) :
    UInt8.ofNat c.toNat ≠ UInt8.ofNat d.toNat := by
  intro heq
  have hnat := congrArg UInt8.toNat heq
  rw [toNat_asciiByte hc, toNat_asciiByte hd] at hnat
  exact h (Char.toNat_inj.mp hnat)

lemma scanText_plain {chars : List Char} (h : IdentityText chars) (rest : List UInt8) :
    scanText (asciiBytes chars ++ 34 :: rest) = .ok (asciiBytes chars, rest) := by
  induction chars with
  | nil => rfl
  | cons c chars ih =>
    obtain ⟨⟨hhigh, hidentity⟩, hchars⟩ := identityText_cons.mp h
    obtain ⟨hlow, hquote, hslash⟩ := identityChar_ne hhigh hidentity
    have hcontrol : ¬ UInt8.ofNat c.toNat ≤ 0x1f := by
      rw [UInt8.le_iff_toNat_le, toNat_asciiByte hhigh]
      show ¬ c.toNat ≤ 31
      omega
    have hquote : UInt8.ofNat c.toNat ≠ 34 := asciiByte_ne hhigh (d := '"') (by decide) hquote
    have hslash : UInt8.ofNat c.toNat ≠ 92 := asciiByte_ne hhigh (d := '\\') (by decide) hslash
    show scanText (UInt8.ofNat c.toNat :: (asciiBytes chars ++ 34 :: rest)) = _
    rw [scanText, if_neg hquote, if_neg hslash, if_neg hcontrol, ih hchars]
    rfl

lemma asciiText_asciiBytes {chars : List Char} (h : IdentityText chars) :
    asciiText (asciiBytes chars) = String.ofList chars := by
  rw [asciiText, asciiBytes, List.map_map]
  congr 1
  refine (List.map_congr_left fun c hc => ?_).trans chars.map_id
  show Char.ofNat (UInt8.ofNat c.toNat).toNat = c
  rw [toNat_asciiByte (h c hc).1, Char.ofNat_toNat]

/-- A string literal is read off the front of a text. -/
lemma scanString_plain {value : String} (h : IdentityText value.toList) (rest : List UInt8) :
    scanString (34 :: (asciiBytes value.toList ++ 34 :: rest)) = .ok (value, rest) := by
  have htext := scanText_plain h rest
  rw [scanString]
  change (scanText (asciiBytes value.toList ++ 34 :: rest) >>= _) = _
  rw [htext]
  show Except.ok (asciiText (asciiBytes value.toList), rest) = _
  rw [asciiText_asciiBytes h, String.ofList_toList]

mutual

/-- A value of objects, plain strings and literals, whose objects name each member once. -/
def Plain : Json → Prop
  | .null | .bool _ => True
  | .num _ | .arr _ => False
  | .str value => IdentityText value.toList
  | .obj members => (members.map Prod.fst).Nodup ∧ PlainMembers members

def PlainMembers : List (String × Json) → Prop
  | [] => True
  | (key, value) :: members => IdentityText key.toList ∧ Plain value ∧ PlainMembers members

end

/-- The text of the members of an object, with the closing brace. -/
def membersText (key : String) (value : Json) (members : List (String × Json)) : List Char :=
  '"' :: (escape key.toList ++ '"' :: ':' :: (value.render ++ renderMembers members))

/-- With this fuel, values are read off the front of a text. -/
def ReadsValues (fuel : ℕ) : Prop :=
  ∀ value : Json, Plain value → value.render.length < fuel → ∀ rest : List UInt8,
    scanValue fuel (asciiBytes value.render ++ rest) = .ok (value, rest)

/-- With this fuel, the members of an object are read after those already seen. -/
def ReadsMembers (fuel : ℕ) : Prop :=
  ∀ (key : String) (value : Json) (members seen : List (String × Json)),
    PlainMembers ((key, value) :: members) →
    ((seen ++ (key, value) :: members).map Prod.fst).Nodup →
    (membersText key value members).length ≤ fuel → ∀ rest : List UInt8,
    scanMembers fuel seen (asciiBytes (membersText key value members) ++ rest) =
      .ok (seen ++ (key, value) :: members, rest)

lemma readsValues_succ {fuel : ℕ} (ih : ReadsMembers fuel) : ReadsValues (fuel + 1) := by
  intro value h hfuel rest
  match value with
  | .null => rfl
  | .bool true => rfl
  | .bool false => rfl
  | .num _ => exact h.elim
  | .arr _ => exact h.elim
  | .str text =>
    have hbytes : asciiBytes (Json.str text).render ++ rest =
        34 :: (asciiBytes text.toList ++ 34 :: rest) := by
      rw [Json.render, escape_plain h]
      simp [asciiBytes]
    rw [hbytes]
    exact except_bind_eq_ok.mpr ⟨(text, rest), scanString_plain h rest, rfl⟩
  | .obj [] => rfl
  | .obj ((key, value) :: members) =>
    obtain ⟨hnodup, hmembers⟩ := h
    have htext : (Json.obj ((key, value) :: members)).render =
        '{' :: membersText key value members := render_obj_cons key value members
    rw [htext, List.length_cons] at hfuel
    have hread := ih key value members [] hmembers hnodup (by omega) rest
    rw [htext]
    exact except_bind_eq_ok.mpr ⟨((key, value) :: members, rest), hread, rfl⟩

lemma readsMembers_succ {fuel : ℕ} (hvalues : ReadsValues fuel) (ih : ReadsMembers fuel) :
    ReadsMembers (fuel + 1) := by
  intro key value members seen ⟨hkey, hvalue, hmembers⟩ hnodup hfuel rest
  have hlength : (membersText key value members).length =
      key.toList.length + value.render.length + (renderMembers members).length + 3 := by
    rw [membersText, escape_plain hkey]
    simp only [List.length_cons, List.length_append]
    omega
  have hfresh : key ∉ seen.map Prod.fst := by
    rw [List.map_append, List.nodup_append] at hnodup
    exact fun hmem => hnodup.2.2 key hmem key List.mem_cons_self rfl
  have hbytes : asciiBytes (membersText key value members) ++ rest =
      34 :: (asciiBytes key.toList ++ 34 :: (58 :: (asciiBytes value.render ++
        (asciiBytes (renderMembers members) ++ rest)))) := by
    rw [membersText, escape_plain hkey]
    simp [asciiBytes]
  -- the key, the colon and the value, and then a comma or the closing brace
  rw [hbytes, scanMembers]
  refine except_bind_eq_ok.mpr ⟨_, scanString_plain hkey _, ?_⟩
  refine except_bind_eq_ok.mpr ⟨(), refuse_eq_ok.mpr hfresh, ?_⟩
  refine except_bind_eq_ok.mpr ⟨_, rfl, ?_⟩
  refine except_bind_eq_ok.mpr ⟨_, hvalues value hvalue (by omega) _, ?_⟩
  match members with
  | [] => rfl
  | (nextKey, nextValue) :: members =>
    have hcomma : (renderMembers ((nextKey, nextValue) :: members)).length =
        (membersText nextKey nextValue members).length + 1 := rfl
    have hread := ih nextKey nextValue members (seen ++ [(key, value)]) hmembers
      (by simpa using hnodup) (by omega) rest
    rw [List.append_assoc, List.singleton_append] at hread
    exact hread

/-- **Compact text is read back.** -/
theorem scanValue_render (fuel : ℕ) : ReadsValues fuel ∧ ReadsMembers fuel := by
  induction fuel with
  | zero =>
    refine ⟨fun value _ hfuel => absurd hfuel (Nat.not_lt_zero _), ?_⟩
    intro key value members _ _ _ hfuel
    exact absurd hfuel (Nat.not_succ_le_zero _)
  | succ fuel ih => exact ⟨readsValues_succ ih.2, readsMembers_succ ih.1 ih.2⟩

lemma plainMembers_iff {members : List (String × Json)} :
    PlainMembers members ↔ ∀ entry ∈ members, IdentityText entry.1.toList ∧ Plain entry.2 := by
  induction members with
  | nil => simp [PlainMembers]
  | cons entry members ih =>
    rw [PlainMembers, ih, List.forall_mem_cons]
    tauto

/-! ### Sorted members -/

mutual

/-- The members of each object are in the order of their keys. -/
def Sorted : Json → Prop
  | .obj members => members.Pairwise (fun a b => a.1 ≤ b.1) ∧ SortedMembers members
  | _ => True

def SortedMembers : List (String × Json) → Prop
  | [] => True
  | (_, value) :: members => Sorted value ∧ SortedMembers members

end

lemma sortedMembers_iff {members : List (String × Json)} :
    SortedMembers members ↔ ∀ entry ∈ members, Sorted entry.2 := by
  induction members with
  | nil => simp [SortedMembers]
  | cons entry members ih => rw [SortedMembers, ih, List.forall_mem_cons]

mutual

lemma sorted_sortValue (value : Json) : Sorted (sortValue value) := by
  match value with
  | .null => exact trivial
  | .bool _ => exact trivial
  | .num _ => exact trivial
  | .str _ => exact trivial
  | .arr _ => exact trivial
  | .obj members =>
    rw [sortValue]
    refine ⟨List.pairwise_insertionSort _ _, sortedMembers_iff.mpr fun entry hentry => ?_⟩
    rw [List.mem_insertionSort] at hentry
    exact sortedMembers_iff.mp (sorted_sortMembers members) entry hentry

lemma sorted_sortMembers (members : List (String × Json)) :
    SortedMembers (sortMembers members) := by
  match members with
  | [] => exact trivial
  | (key, value) :: members => exact ⟨sorted_sortValue value, sorted_sortMembers members⟩

end

mutual

lemma sortValue_of_sorted (value : Json) (h : Sorted value) : sortValue value = value := by
  match value with
  | .null => rfl
  | .bool _ => rfl
  | .num _ => rfl
  | .str _ => rfl
  | .arr _ => rfl
  | .obj members =>
    rw [sortValue, sortMembers_of_sorted members h.2, h.1.insertionSort_eq]

lemma sortMembers_of_sorted (members : List (String × Json)) (h : SortedMembers members) :
    sortMembers members = members := by
  match members with
  | [] => rfl
  | (key, value) :: members =>
    rw [sortMembers, sortValue_of_sorted value h.1, sortMembers_of_sorted members h.2]

end

/-! ### Characters -/

/-- The characters of a compact text over identities. -/
def IsToken (c : Char) : Prop :=
  c.toNat < 128 ∧ (isIdentityByte (UInt8.ofNat c.toNat) ∨ c ∈ ['"', ',', ':', '{', '}'])

lemma isToken_of_identityText {chars : List Char} (h : IdentityText chars) :
    ∀ c ∈ chars, IsToken c :=
  fun c hc => ⟨(h c hc).1, .inl (h c hc).2⟩

mutual

lemma isToken_render (value : Json) (h : Plain value) : ∀ c ∈ value.render, IsToken c := by
  match value with
  | .null => simp [Json.render, IsToken, isIdentityByte, isAsciiAlphanumeric]
  | .bool true => simp [Json.render, IsToken, isIdentityByte, isAsciiAlphanumeric]
  | .bool false => simp [Json.render, IsToken, isIdentityByte, isAsciiAlphanumeric]
  | .num _ => exact h.elim
  | .arr _ => exact h.elim
  | .str text =>
    have htext := isToken_of_identityText h
    rw [Json.render, escape_plain h]
    simp only [List.forall_mem_cons, List.forall_mem_append]
    exact ⟨by simp [IsToken], htext, by simp [IsToken], fun _ h => nomatch h⟩
  | .obj [] => simp [Json.render, IsToken]
  | .obj ((key, value) :: members) =>
    obtain ⟨_, hkey, hvalue, hmembers⟩ := h
    have hkeyText := isToken_of_identityText hkey
    have hvalueText := isToken_render value hvalue
    have hmembersText := isToken_renderMembers members hmembers
    rw [render_obj_cons, escape_plain hkey]
    simp only [List.forall_mem_cons, List.forall_mem_append]
    exact ⟨by simp [IsToken], by simp [IsToken], hkeyText, by simp [IsToken], by simp [IsToken],
      hvalueText, hmembersText⟩

lemma isToken_renderMembers (members : List (String × Json)) (h : PlainMembers members) :
    ∀ c ∈ renderMembers members, IsToken c := by
  match members with
  | [] => simp [renderMembers, IsToken]
  | (key, value) :: members =>
    obtain ⟨hkey, hvalue, hmembers⟩ := h
    have hkeyText := isToken_of_identityText hkey
    have hvalueText := isToken_render value hvalue
    have hmembersText := isToken_renderMembers members hmembers
    rw [renderMembers, escape_plain hkey]
    simp only [List.forall_mem_cons, List.forall_mem_append]
    exact ⟨by simp [IsToken], by simp [IsToken], hkeyText, by simp [IsToken], by simp [IsToken],
      hvalueText, hmembersText⟩

end

lemma toNat_lt_of_isIdentityByte {byte : UInt8} (h : isIdentityByte byte) : byte.toNat < 128 := by
  simp only [isIdentityByte, isAsciiAlphanumeric, Bool.or_eq_true, Bool.and_eq_true,
    decide_eq_true_eq, beq_iff_eq, UInt8.le_iff_toNat_le, ← UInt8.toNat_inj, UInt8.reduceToNat] at h
  omega

/-- A character outside ASCII takes bytes that no identity has. -/
lemma ascii_of_identityBytes {c : Char}
    (h : ∀ byte ∈ String.utf8EncodeChar c, isIdentityByte byte) :
    c.toNat < 128 ∧ isIdentityByte (UInt8.ofNat c.toNat) := by
  have hc : c.toNat < 128 := by
    by_contra hc
    have hvalue : ¬ c.val.toNat ≤ 127 := fun hle => hc (Nat.lt_succ_of_le hle)
    have hbound : c.val.toNat < 0x110000 := by
      have hvalid := c.valid
      simp only [UInt32.isValidChar, Nat.isValidChar] at hvalid
      omega
    -- the first of several bytes is at least 192
    obtain ⟨byte, bytes, hbytes, hbyte⟩ : ∃ byte bytes,
        String.utf8EncodeChar c = byte :: bytes ∧ 128 ≤ byte.toNat := by
      unfold String.utf8EncodeChar
      dsimp only
      rw [if_neg hvalue]
      split_ifs <;> refine ⟨_, _, rfl, ?_⟩ <;> rw [UInt8.toNat_ofNat'] <;> omega
    have hidentity := toNat_lt_of_isIdentityByte (h byte (hbytes ▸ List.mem_cons_self))
    omega
  rw [Digits.utf8EncodeChar_ascii hc] at h
  exact ⟨hc, h _ List.mem_cons_self⟩

/-! ### Lengths -/

lemma length_obj_le (members : List (String × Json)) :
    (Json.obj members).render.length ≤
      2 + (members.map fun entry => (memberText entry).length).sum := by
  have htail : ∀ members : List (String × Json), (renderMembers members).length =
      1 + (members.map fun entry => (memberText entry).length).sum := by
    intro members
    induction members with
    | nil => rfl
    | cons entry members ih =>
      rw [renderMembers_cons, List.length_append, ih, List.map_cons, List.sum_cons]
      omega
  cases members with
  | nil => simp [Json.render]
  | cons entry members =>
    obtain ⟨key, value⟩ := entry
    have hlength := htail members
    rw [render_obj_cons, List.map_cons, List.sum_cons]
    have hhead : (memberText (key, value)).length =
        (escape key.toList).length + value.render.length + 4 := by
      simp only [memberText, List.length_cons, List.length_append]
      omega
    simp only [List.length_cons, List.length_append]
    omega

lemma length_memberText {key : String} {value : Json} (h : IdentityText key.toList) :
    (memberText (key, value)).length = key.length + value.render.length + 4 := by
  rw [memberText, escape_plain h]
  simp only [List.length_cons, List.length_append, String.length_toList]
  omega

end Sts2Gateway.Recovery
