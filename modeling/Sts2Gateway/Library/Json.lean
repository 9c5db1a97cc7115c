/-
Compact JSON text and its injectivity.

* `Json`: JSON values whose objects keep their members in order, as a
  serializer that writes the fields of a record one after another does;
* `Json.render`: the compact text, with the escapes of a string literal;
* `render_append_inj`: the text is **prefix free** up to the character that
  follows a number, so a value can be read off the front of any longer text;
* `render_inj`, `toBytes_inj`: two values with the same text, or the same
  bytes, are the same value;
* `renderMembers_append`, `size_toBytes_le`: the length of a text, member by member;
* `Json.weight`, `size_toBytes_le_weight`: a bound on it from the bytes of the strings.
-/
import Mathlib.Tactic

namespace CompactJson

/-- A JSON value with natural numbers and ordered object members. -/
inductive Json where
  | null
  | bool (value : Bool)
  | num (value : Nat)
  | str (value : String)
  | arr (items : List Json)
  | obj (members : List (String × Json))

/-! ### String literals -/

/-- A lower-case hexadecimal digit. -/
def hexDigit (n : Nat) : Char :=
  if n < 10 then Char.ofNat (48 + n) else Char.ofNat (87 + n)

/-- The text of one character inside a string literal: the two mandatory
escapes, the short escapes of the control characters that have one, and
`\u00xx` for the other control characters. -/
def escapeChar (c : Char) : List Char :=
  if c = '"' then ['\\', '"']
  else if c = '\\' then ['\\', '\\']
  else if c = '\x08' then ['\\', 'b']
  else if c = '\x09' then ['\\', 't']
  else if c = '\x0a' then ['\\', 'n']
  else if c = '\x0c' then ['\\', 'f']
  else if c = '\x0d' then ['\\', 'r']
  else if c.toNat < 32 then
    ['\\', 'u', '0', '0', hexDigit (c.toNat / 16), hexDigit (c.toNat % 16)]
  else [c]

/-- The body of a string literal, without its closing quote. -/
def escape : List Char → List Char
  | [] => []
  | c :: cs => escapeChar c ++ escape cs

/-- Reads one hexadecimal digit. -/
def hexValue (c : Char) : Nat :=
  if c.toNat < 58 then c.toNat - 48 else c.toNat - 87

/-- Reads one character of a string literal off the front of a text; the
closing quote is not a character. -/
def unescapeChar : List Char → Option (Char × List Char)
  | '\\' :: '"' :: rest => some ('"', rest)
  | '\\' :: '\\' :: rest => some ('\\', rest)
  | '\\' :: 'b' :: rest => some ('\x08', rest)
  | '\\' :: 't' :: rest => some ('\x09', rest)
  | '\\' :: 'n' :: rest => some ('\x0a', rest)
  | '\\' :: 'f' :: rest => some ('\x0c', rest)
  | '\\' :: 'r' :: rest => some ('\x0d', rest)
  | '\\' :: 'u' :: '0' :: '0' :: hi :: lo :: rest =>
      some (Char.ofNat (16 * hexValue hi + hexValue lo), rest)
  | '\\' :: _ => none
  | '"' :: _ => none
  | c :: rest => some (c, rest)
  | [] => none

/-- A control code is recovered from its two hexadecimal digits. -/
lemma hexValue_control {n : Nat} (hn : n < 32) :
    16 * hexValue (hexDigit (n / 16)) + hexValue (hexDigit (n % 16)) = n := by
  revert n
  decide

/-- Reading a character back from its own text. -/
lemma unescapeChar_escapeChar (c : Char) (rest : List Char) :
    unescapeChar (escapeChar c ++ rest) = some (c, rest) := by
  unfold escapeChar
  split_ifs with h1 h2 h3 h4 h5 h6 h7 h8
  · subst h1; rfl
  · subst h2; rfl
  · subst h3; rfl
  · subst h4; rfl
  · subst h5; rfl
  · subst h6; rfl
  · subst h7; rfl
  · have hc : Char.ofNat c.toNat = c := Char.ofNat_toNat c
    simp [unescapeChar, hexValue_control h8, hc]
  · simp [unescapeChar, h2]

/-- The closing quote is not the start of a character. -/
lemma unescapeChar_quote (rest : List Char) : unescapeChar ('"' :: rest) = none := rfl

/-- String bodies are prefix free up to their closing quote. -/
lemma escape_append_inj {a b r s : List Char}
    (h : escape a ++ '"' :: r = escape b ++ '"' :: s) : a = b ∧ r = s := by
  induction a generalizing b with
  | nil =>
    cases b with
    | nil => simpa [escape] using h
    | cons d ds =>
      have := congrArg unescapeChar h
      simp only [escape, List.nil_append, List.append_assoc, unescapeChar_quote,
        unescapeChar_escapeChar] at this
      cases this
  | cons c cs ih =>
    cases b with
    | nil =>
      have := congrArg unescapeChar h
      simp only [escape, List.nil_append, List.append_assoc, unescapeChar_quote,
        unescapeChar_escapeChar] at this
      cases this
    | cons d ds =>
      have hread := congrArg unescapeChar h
      simp only [escape, List.append_assoc, unescapeChar_escapeChar, Option.some.injEq,
        Prod.mk.injEq] at hread
      obtain ⟨rfl, hrest⟩ := hread
      obtain ⟨rfl, rfl⟩ := ih hrest
      exact ⟨rfl, rfl⟩

/-! ### Values -/

mutual

/-- The compact text of a value. -/
def Json.render : Json → List Char
  | .null => ['n', 'u', 'l', 'l']
  | .bool true => ['t', 'r', 'u', 'e']
  | .bool false => ['f', 'a', 'l', 's', 'e']
  | .num n => Nat.toDigits 10 n
  | .str s => '"' :: (escape s.toList ++ ['"'])
  | .arr [] => ['[', ']']
  | .arr (item :: items) => '[' :: (item.render ++ renderItems items)
  | .obj [] => ['{', '}']
  | .obj ((key, value) :: members) =>
      '{' :: '"' :: (escape key.toList ++ '"' :: ':' :: (value.render ++ renderMembers members))

/-- The text of the array items after the first, with the closing bracket. -/
def renderItems : List Json → List Char
  | [] => [']']
  | item :: items => ',' :: (item.render ++ renderItems items)

/-- The text of the object members after the first, with the closing brace. -/
def renderMembers : List (String × Json) → List Char
  | [] => ['}']
  | (key, value) :: members =>
      ',' :: '"' :: (escape key.toList ++ '"' :: ':' :: (value.render ++ renderMembers members))

end

/-- The rest of a text may follow a value: it does not continue a number. -/
def Delimited (rest : List Char) : Prop := ∀ c ∈ rest.head?, c.isDigit = false

lemma delimited_nil : Delimited [] := by simp [Delimited]

lemma delimited_renderItems (items : List Json) (rest : List Char) :
    Delimited (renderItems items ++ rest) := by
  cases items <;> simp [renderItems, Delimited]

lemma delimited_renderMembers (members : List (String × Json)) (rest : List Char) :
    Delimited (renderMembers members ++ rest) := by
  cases members <;> simp [renderMembers, Delimited]

/-- Two runs of digits that are cut off by a non-digit split at the same place. -/
lemma digits_append_inj {a b r s : List Char} (ha : ∀ c ∈ a, c.isDigit = true)
    (hb : ∀ c ∈ b, c.isDigit = true) (hr : Delimited r) (hs : Delimited s)
    (h : a ++ r = b ++ s) : a = b ∧ r = s := by
  induction a generalizing b with
  | nil =>
    cases b with
    | nil => exact ⟨rfl, h⟩
    | cons d ds =>
      -- `r` would start with the digit `d`
      obtain rfl : r = d :: (ds ++ s) := h
      have hd := hb d (by simp)
      rw [hr d (by simp)] at hd
      cases hd
  | cons c cs ih =>
    cases b with
    | nil =>
      obtain rfl : c :: (cs ++ r) = s := h
      have hc := ha c (by simp)
      rw [hs c (by simp)] at hc
      cases hc
    | cons d ds =>
      obtain ⟨rfl, hrest⟩ := List.cons.inj h
      obtain ⟨rfl, hrs⟩ := ih (fun x hx => ha x (by simp [hx])) (fun x hx => hb x (by simp [hx]))
        hrest
      exact ⟨rfl, hrs⟩

/-- The shape of a value that its first character tells. -/
def Json.shape : Json → Nat
  | .null => 0
  | .bool true => 1
  | .bool false => 2
  | .num _ => 3
  | .str _ => 4
  | .arr _ => 5
  | .obj _ => 6

/-- The shape of the value that starts with a character, `7` for none. -/
def leadShape (c : Char) : Nat :=
  if c = 'n' then 0 else if c = 't' then 1 else if c = 'f' then 2
  else if c = '"' then 4 else if c = '[' then 5 else if c = '{' then 6
  else if c.isDigit then 3 else 7

/-- A digit starts a number and nothing else. -/
lemma leadShape_digit {c : Char} (hc : c.isDigit = true) : leadShape c = 3 := by
  have hne : ∀ d : Char, d.isDigit = false → c ≠ d := by
    rintro d hd rfl
    rw [hc] at hd
    cases hd
  simp [leadShape, hne 'n' (by decide), hne 't' (by decide), hne 'f' (by decide),
    hne '"' (by decide), hne '[' (by decide), hne '{' (by decide), hc]

/-- The first character of a value tells its shape. -/
lemma head_render (v : Json) (rest : List Char) :
    (v.render ++ rest).head?.map leadShape = some v.shape := by
  match v with
  | .null => rfl
  | .bool true => rfl
  | .bool false => rfl
  | .num n =>
    obtain ⟨c, cs, hcs⟩ := List.exists_cons_of_ne_nil (Nat.toDigits_ne_nil (n := n) (b := 10))
    have hc : c.isDigit = true :=
      Nat.isDigit_of_mem_toDigits (by decide) (by decide)
        (hcs ▸ List.mem_cons_self : c ∈ Nat.toDigits 10 n)
    simp [Json.render, hcs, leadShape_digit hc, Json.shape]
  | .str _ => rfl
  | .arr [] => rfl
  | .arr (_ :: _) => rfl
  | .obj [] => rfl
  | .obj ((_, _) :: _) => rfl

/-- No value starts with a closing bracket. -/
lemma render_append_ne_bracket (v : Json) (rest tail : List Char) :
    v.render ++ rest ≠ ']' :: tail := by
  intro h
  have hv := head_render v rest
  rw [h] at hv
  have hshape : v.shape = 7 := (Option.some.inj hv).symm
  cases v with
  | bool b => cases b <;> simp [Json.shape] at hshape
  | _ => simp [Json.shape] at hshape

/-- Equal texts start with values of the same shape. -/
lemma shape_eq_of_render_append {v w : Json} {r s : List Char}
    (h : v.render ++ r = w.render ++ s) : v.shape = w.shape := by
  have hv := head_render v r
  rw [h, head_render w s] at hv
  exact (Option.some.inj hv).symm

/-- The key of a member is read off the front of its text. -/
lemma key_append_inj {k l : String} {r s : List Char}
    (h : escape k.toList ++ '"' :: ':' :: r = escape l.toList ++ '"' :: ':' :: s) :
    k = l ∧ r = s := by
  obtain ⟨hkl, hrs⟩ := escape_append_inj h
  exact ⟨String.toList_inj.mp hkl, (List.cons.inj hrs).2⟩

mutual

/-- **Prefix freeness**: a value can be read off the front of a text whose rest
does not continue a number. -/
theorem render_append_inj (v w : Json) {r s : List Char} (hr : Delimited r) (hs : Delimited s)
    (h : v.render ++ r = w.render ++ s) : v = w ∧ r = s := by
  have hshape := shape_eq_of_render_append h
  match v, w with
  | .null, .null => exact ⟨rfl, by simpa [Json.render] using h⟩
  | .bool true, .bool true => exact ⟨rfl, by simpa [Json.render] using h⟩
  | .bool false, .bool false => exact ⟨rfl, by simpa [Json.render] using h⟩
  | .num n, .num m =>
    simp only [Json.render] at h
    obtain ⟨hnm, hrs⟩ := digits_append_inj
      (fun c hc => Nat.isDigit_of_mem_toDigits (by decide) (by decide) hc)
      (fun c hc => Nat.isDigit_of_mem_toDigits (by decide) (by decide) hc) hr hs h
    have hval := congrArg (fun ds => Nat.ofDigitChars 10 ds 0) hnm
    simp only [Nat.ofDigitChars_ten_toDigits] at hval
    exact ⟨by rw [hval], hrs⟩
  | .str a, .str b =>
    simp only [Json.render, List.cons_append, List.append_assoc, List.nil_append] at h
    obtain ⟨hab, hrs⟩ := escape_append_inj (List.cons.inj h).2
    exact ⟨by rw [String.toList_inj.mp hab], hrs⟩
  | .arr xs, .arr ys =>
    match xs, ys with
    | [], [] => exact ⟨rfl, by simpa [Json.render] using h⟩
    | x :: xs, y :: ys =>
      simp only [Json.render, List.cons_append, List.append_assoc] at h
      obtain ⟨rfl, hrest⟩ := render_append_inj x y (delimited_renderItems _ _)
        (delimited_renderItems _ _) (List.cons.inj h).2
      obtain ⟨rfl, hrs⟩ := renderItems_append_inj xs ys hrest
      exact ⟨rfl, hrs⟩
    | [], y :: ys =>
      simp only [Json.render, List.cons_append, List.append_assoc] at h
      exact absurd (List.cons.inj h).2.symm (render_append_ne_bracket y _ _)
    | x :: xs, [] =>
      simp only [Json.render, List.cons_append, List.append_assoc] at h
      exact absurd (List.cons.inj h).2 (render_append_ne_bracket x _ _)
  | .obj ms, .obj ns =>
    match ms, ns with
    | [], [] => exact ⟨rfl, by simpa [Json.render] using h⟩
    | (k, x) :: ms, (l, y) :: ns =>
      simp only [Json.render, List.cons_append, List.append_assoc] at h
      obtain ⟨rfl, hvalue⟩ := key_append_inj (List.cons.inj (List.cons.inj h).2).2
      obtain ⟨rfl, hrest⟩ := render_append_inj x y (delimited_renderMembers _ _)
        (delimited_renderMembers _ _) hvalue
      obtain ⟨rfl, hrs⟩ := renderMembers_append_inj ms ns hrest
      exact ⟨rfl, hrs⟩
    | [], (l, y) :: ns => simp [Json.render] at h
    | (k, x) :: ms, [] => simp [Json.render] at h

theorem renderItems_append_inj (xs ys : List Json) {r s : List Char}
    (h : renderItems xs ++ r = renderItems ys ++ s) : xs = ys ∧ r = s := by
  match xs, ys with
  | [], [] => exact ⟨rfl, by simpa [renderItems] using h⟩
  | [], _ :: _ => simp [renderItems] at h
  | _ :: _, [] => simp [renderItems] at h
  | x :: xs, y :: ys =>
    simp only [renderItems, List.cons_append, List.append_assoc] at h
    obtain ⟨rfl, hrest⟩ := render_append_inj x y (delimited_renderItems _ _)
      (delimited_renderItems _ _) (List.cons.inj h).2
    obtain ⟨rfl, hrs⟩ := renderItems_append_inj xs ys hrest
    exact ⟨rfl, hrs⟩

theorem renderMembers_append_inj (ms ns : List (String × Json)) {r s : List Char}
    (h : renderMembers ms ++ r = renderMembers ns ++ s) : ms = ns ∧ r = s := by
  match ms, ns with
  | [], [] => exact ⟨rfl, by simpa [renderMembers] using h⟩
  | [], (_, _) :: _ => simp [renderMembers] at h
  | (_, _) :: _, [] => simp [renderMembers] at h
  | (k, x) :: ms, (l, y) :: ns =>
    simp only [renderMembers, List.cons_append, List.append_assoc] at h
    obtain ⟨rfl, hvalue⟩ := key_append_inj (List.cons.inj (List.cons.inj h).2).2
    obtain ⟨rfl, hrest⟩ := render_append_inj x y (delimited_renderMembers _ _)
      (delimited_renderMembers _ _) hvalue
    obtain ⟨rfl, hrs⟩ := renderMembers_append_inj ms ns hrest
    exact ⟨rfl, hrs⟩

end

/-- Two values with the same text are the same value. -/
theorem render_inj {v w : Json} (h : v.render = w.render) : v = w :=
  (render_append_inj v w delimited_nil delimited_nil (by simpa using h)).1

/-- The UTF-8 bytes of a value's text. -/
def Json.toBytes (v : Json) : ByteArray := (String.ofList v.render).toUTF8

/-- Two values with the same bytes are the same value. -/
theorem toBytes_inj {v w : Json} (h : v.toBytes = w.toBytes) : v = w :=
  render_inj (String.ofList_injective (String.toByteArray_inj.mp h))

/-! ### Lengths -/

/-- The text of one object member, with the comma before it. -/
def memberText (entry : String × Json) : List Char :=
  ',' :: '"' :: (escape entry.1.toList ++ '"' :: ':' :: entry.2.render)

lemma render_obj_cons (key : String) (value : Json) (members : List (String × Json)) :
    (Json.obj ((key, value) :: members)).render =
      '{' :: '"' :: (escape key.toList ++ '"' :: ':' ::
        (value.render ++ renderMembers members)) := by
  rw [Json.render]

lemma renderMembers_cons (entry : String × Json) (members : List (String × Json)) :
    renderMembers (entry :: members) = memberText entry ++ renderMembers members := by
  obtain ⟨key, value⟩ := entry
  rw [renderMembers, memberText]
  simp only [List.cons_append, List.append_assoc]

/-- The members of an object are written one after another. -/
lemma renderMembers_append (front back : List (String × Json)) :
    renderMembers (front ++ back) = front.flatMap memberText ++ renderMembers back := by
  induction front with
  | nil => rfl
  | cons entry front ih =>
    rw [List.cons_append, renderMembers_cons, ih, List.flatMap_cons, List.append_assoc]

lemma length_escape_le (chars : List Char) : (escape chars).length ≤ 6 * chars.length := by
  induction chars with
  | nil => exact Nat.le_refl 0
  | cons c chars ih =>
    have hchar : (escapeChar c).length ≤ 6 := by
      unfold escapeChar
      split_ifs <;> simp
    rw [escape, List.length_append, List.length_cons]
    omega

/-- A text has at most four bytes for each character. -/
lemma utf8ByteSize_ofList_le (chars : List Char) :
    (String.ofList chars).utf8ByteSize ≤ 4 * chars.length := by
  change chars.utf8Encode.size ≤ 4 * chars.length
  induction chars with
  | nil => exact Nat.le_refl 0
  | cons c chars ih =>
    have hchar : [c].utf8Encode.size ≤ 4 := by
      rw [List.utf8Encode_singleton, List.size_toByteArray, String.length_utf8EncodeChar]
      exact c.utf8Size_le_four
    rw [List.utf8Encode_cons, ByteArray.size_append, List.length_cons]
    omega

lemma size_toBytes_le (v : Json) : v.toBytes.size ≤ 4 * v.render.length :=
  utf8ByteSize_ofList_le v.render

/-- A text has at least one byte for each character. -/
lemma length_toList_le (s : String) : s.toList.length ≤ s.utf8ByteSize := by
  have hchars : ∀ chars : List Char, chars.length ≤ chars.utf8Encode.size := by
    intro chars
    induction chars with
    | nil => exact Nat.zero_le _
    | cons c chars ih =>
      have hchar : 1 ≤ [c].utf8Encode.size := by
        rw [List.utf8Encode_singleton, List.size_toByteArray, String.length_utf8EncodeChar]
        exact c.utf8Size_pos
      rw [List.utf8Encode_cons, ByteArray.size_append, List.length_cons]
      omega
  have h := hchars s.toList
  rw [← String.size_toByteArray]
  rwa [← String.toByteArray_ofList, String.ofList_toList] at h

mutual

/-- A bound on the length of a text, from the bytes of its strings. -/
def Json.weight : Json → ℕ
  | .null | .bool _ => 5
  | .num n => (Nat.toDigits 10 n).length
  | .str s => 6 * s.utf8ByteSize + 2
  | .arr items => weightItems items + 2
  | .obj members => weightMembers members + 2

def weightItems : List Json → ℕ
  | [] => 0
  | item :: items => item.weight + weightItems items + 1

def weightMembers : List (String × Json) → ℕ
  | [] => 0
  | (key, value) :: members => 6 * key.utf8ByteSize + value.weight + weightMembers members + 4

end

lemma length_quoted_le (s : String) : (escape s.toList).length ≤ 6 * s.utf8ByteSize := by
  have hescape := length_escape_le s.toList
  have hbytes := length_toList_le s
  omega

mutual

lemma length_render_le : ∀ v : Json, v.render.length ≤ v.weight
  | .null => by simp [Json.render, Json.weight]
  | .bool true => by simp [Json.render, Json.weight]
  | .bool false => by simp [Json.render, Json.weight]
  | .num n => by rw [Json.render, Json.weight]
  | .str s => by
      have hquoted := length_quoted_le s
      simp only [Json.render, Json.weight, List.length_cons, List.length_append, List.length_nil]
      omega
  | .arr [] => by simp [Json.render, Json.weight]
  | .arr (item :: items) => by
      have hitem := length_render_le item
      have hitems := length_renderItems_le items
      simp only [Json.render, Json.weight, weightItems, List.length_cons, List.length_append]
      omega
  | .obj [] => by simp [Json.render, Json.weight]
  | .obj ((key, value) :: members) => by
      have hkey := length_quoted_le key
      have hvalue := length_render_le value
      have hmembers := length_renderMembers_le members
      simp only [Json.render, Json.weight, weightMembers, List.length_cons, List.length_append]
      omega

lemma length_renderItems_le : ∀ items : List Json,
    (renderItems items).length ≤ weightItems items + 1
  | [] => by simp [renderItems, weightItems]
  | item :: items => by
      have hitem := length_render_le item
      have hitems := length_renderItems_le items
      simp only [renderItems, weightItems, List.length_cons, List.length_append]
      omega

lemma length_renderMembers_le : ∀ members : List (String × Json),
    (renderMembers members).length ≤ weightMembers members + 1
  | [] => by simp [renderMembers, weightMembers]
  | (key, value) :: members => by
      have hkey := length_quoted_le key
      have hvalue := length_render_le value
      have hmembers := length_renderMembers_le members
      simp only [renderMembers, weightMembers, List.length_cons, List.length_append]
      omega

end

/-- The size of a text, without the text. -/
lemma size_toBytes_le_weight (v : Json) : v.toBytes.size ≤ 4 * v.weight :=
  (size_toBytes_le v).trans (Nat.mul_le_mul_left 4 (length_render_le v))

/-! ### Nullable members -/

/-- A nullable member. -/
def nullable {α : Type} (f : α → Json) : Option α → Json
  | none => .null
  | some a => f a

/-- A nullable member is read back when its value is and is never `null`. -/
lemma nullable_injective {α : Type} {f : α → Json} (hf : Function.Injective f)
    (hnull : ∀ a, f a ≠ .null) : Function.Injective (nullable f) := by
  intro a b h
  cases a with
  | none =>
    cases b with
    | none => rfl
    | some b => exact absurd h.symm (hnull b)
  | some a =>
    cases b with
    | none => exact absurd h (hnull a)
    | some b => rw [hf h]

end CompactJson
