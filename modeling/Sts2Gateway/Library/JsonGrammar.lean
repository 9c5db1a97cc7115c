/-
The grammar of JSON texts.

* `JsonTree`: what a text says, with the members of an object in the order they stand in;
* `IsSpace`, `IsNumeral`, `SpellsChars`: white space, numerals and the inside of a string;
* `Spells`: **the texts of a value**, of the items of an array and of the members of an object.

The grammar takes the texts of a number as a parameter, so that a reader may keep of a number
what it wants.
-/
import Mathlib.Tactic

namespace JsonGrammar

/-! ### Texts -/

/-- A value as it is written. -/
inductive JsonTree (ν : Type) where
  | null
  | bool (value : Bool)
  | num (value : ν)
  | str (value : String)
  | arr (items : List (JsonTree ν))
  | obj (members : List (String × JsonTree ν))

/-- White space between the tokens. -/
def IsSpace (text : List Char) : Prop := ∀ c ∈ text, c = ' ' ∨ c = '\t' ∨ c = '\n' ∨ c = '\r'

def IsDigits (text : List Char) : Prop := text ≠ [] ∧ ∀ c ∈ text, c.isDigit

/-- An integer without leading zeros. -/
def IsInteger (text : List Char) : Prop :=
  IsDigits text ∧ (text.head? = some '0' → text = ['0'])

def IsNumeral (text : List Char) : Prop :=
  ∃ sign whole fraction exponent, text = sign ++ whole ++ fraction ++ exponent ∧
    (sign = [] ∨ sign = ['-']) ∧ IsInteger whole ∧
    (fraction = [] ∨ ∃ digits, fraction = '.' :: digits ∧ IsDigits digits) ∧
    (exponent = [] ∨ ∃ e sign digits, exponent = e :: (sign ++ digits) ∧ (e = 'e' ∨ e = 'E') ∧
      (sign = [] ∨ sign = ['+'] ∨ sign = ['-']) ∧ IsDigits digits)

/-- The characters that stand for one after a backslash. -/
def shortEscapes : List (Char × Char) :=
  [('"', '"'), ('\\', '\\'), ('/', '/'), ('b', '\x08'), ('f', '\x0c'), ('n', '\n'), ('r', '\r'),
    ('t', '\t')]

/-- One hexadecimal digit more. -/
def hexStep (n : ℕ) (c : Char) : Option ℕ :=
  if c.isDigit then some (16 * n + (c.toNat - 48))
  else if 'a' ≤ c ∧ c ≤ 'f' then some (16 * n + (c.toNat - 87))
  else if 'A' ≤ c ∧ c ≤ 'F' then some (16 * n + (c.toNat - 55))
  else none

/-- The number that hexadecimal digits stand for. -/
def hexNumber (text : List Char) : Option ℕ := text.foldlM hexStep 0

/-- A code unit after a backslash. -/
structure IsUnit (text : List Char) (n : ℕ) : Prop where
  length : text.length = 4
  value : hexNumber text = some n

/-- The inside of a string. -/
inductive SpellsChars : List Char → List Char → Prop where
  | nil : SpellsChars [] []
  | plain {c : Char} {cs text : List Char} (printable : 32 ≤ c.toNat) (quote : c ≠ '"')
      (backslash : c ≠ '\\') (rest : SpellsChars cs text) : SpellsChars (c :: cs) (c :: text)
  | short {e c : Char} {cs text : List Char} (escape : (e, c) ∈ shortEscapes)
      (rest : SpellsChars cs text) : SpellsChars (c :: cs) ('\\' :: e :: text)
  | unit {c : Char} {cs unit text : List Char} (hunit : IsUnit unit c.toNat)
      (rest : SpellsChars cs text) : SpellsChars (c :: cs) ('\\' :: 'u' :: (unit ++ text))
  | pair {c : Char} {high low : ℕ} {cs first second text : List Char} (hfirst : IsUnit first high)
      (hsecond : IsUnit second low) (hhigh : 0xd800 ≤ high ∧ high < 0xdc00)
      (hlow : 0xdc00 ≤ low ∧ low < 0xe000)
      (value : c.toNat = 0x10000 + (high - 0xd800) * 0x400 + (low - 0xdc00))
      (rest : SpellsChars cs text) :
      SpellsChars (c :: cs) ('\\' :: 'u' :: (first ++ '\\' :: 'u' :: (second ++ text)))

def SpellsString (value : String) (text : List Char) : Prop :=
  ∃ inside, SpellsChars value.toList inside ∧ text = '"' :: (inside ++ ['"'])

/-- What a piece of a text says: a value, the items of an array, or the members of an object. -/
inductive Phrase (ν : Type) where
  | value (tree : JsonTree ν)
  | items (trees : List (JsonTree ν))
  | members (entries : List (String × JsonTree ν))

/-- **The texts of a phrase**, where the texts of a number are given. -/
inductive Spells {ν : Type} (numerals : ν → List Char → Prop) : Phrase ν → List Char → Prop where
  | null : Spells numerals (.value .null) "null".toList
  | true : Spells numerals (.value (.bool true)) "true".toList
  | false : Spells numerals (.value (.bool false)) "false".toList
  | num {n : ν} {text : List Char} (numeral : numerals n text) :
      Spells numerals (.value (.num n)) text
  | str {value : String} {text : List Char} (string : SpellsString value text) :
      Spells numerals (.value (.str value)) text
  | noItems {space : List Char} (hspace : IsSpace space) :
      Spells numerals (.value (.arr [])) ('[' :: (space ++ [']']))
  | arr {tree : JsonTree ν} {trees : List (JsonTree ν)} {text : List Char}
      (items : Spells numerals (.items (tree :: trees)) text) :
      Spells numerals (.value (.arr (tree :: trees))) ('[' :: (text ++ [']']))
  | noMembers {space : List Char} (hspace : IsSpace space) :
      Spells numerals (.value (.obj [])) ('{' :: (space ++ ['}']))
  | obj {entry : String × JsonTree ν} {entries : List (String × JsonTree ν)} {text : List Char}
      (members : Spells numerals (.members (entry :: entries)) text) :
      Spells numerals (.value (.obj (entry :: entries))) ('{' :: (text ++ ['}']))
  | item {tree : JsonTree ν} {before text after : List Char} (hbefore : IsSpace before)
      (value : Spells numerals (.value tree) text) (hafter : IsSpace after) :
      Spells numerals (.items [tree]) (before ++ (text ++ after))
  | nextItem {tree : JsonTree ν} {trees : List (JsonTree ν)} {before text after rest : List Char}
      (hbefore : IsSpace before) (value : Spells numerals (.value tree) text)
      (hafter : IsSpace after) (items : Spells numerals (.items trees) rest) :
      Spells numerals (.items (tree :: trees)) (before ++ (text ++ (after ++ ',' :: rest)))
  | member {key : String} {tree : JsonTree ν} {before name between gap text after : List Char}
      (hbefore : IsSpace before) (hname : SpellsString key name) (hbetween : IsSpace between)
      (hgap : IsSpace gap) (value : Spells numerals (.value tree) text) (hafter : IsSpace after) :
      Spells numerals (.members [(key, tree)])
        (before ++ (name ++ (between ++ ':' :: (gap ++ (text ++ after)))))
  | nextMember {key : String} {tree : JsonTree ν} {entries : List (String × JsonTree ν)}
      {before name between gap text after rest : List Char} (hbefore : IsSpace before)
      (hname : SpellsString key name) (hbetween : IsSpace between) (hgap : IsSpace gap)
      (value : Spells numerals (.value tree) text) (hafter : IsSpace after)
      (members : Spells numerals (.members entries) rest) :
      Spells numerals (.members ((key, tree) :: entries))
        (before ++ (name ++ (between ++ ':' :: (gap ++ (text ++ (after ++ ',' :: rest))))))

/-! ### Texts without white space -/

lemma isSpace_nil : IsSpace [] := fun _ h => absurd h List.not_mem_nil

section Compact

variable {ν : Type} {numerals : ν → List Char → Prop} {tree : JsonTree ν} {text rest : List Char}

lemma Spells.lastItem (h : Spells numerals (.value tree) text) :
    Spells numerals (.items [tree]) text := by
  have := Spells.item isSpace_nil h isSpace_nil
  rwa [List.nil_append, List.append_nil] at this

lemma Spells.consItem {trees : List (JsonTree ν)} (h : Spells numerals (.value tree) text)
    (hrest : Spells numerals (.items trees) rest) :
    Spells numerals (.items (tree :: trees)) (text ++ ',' :: rest) :=
  Spells.nextItem isSpace_nil h isSpace_nil hrest

variable {key : String} {name : List Char}

lemma Spells.lastMember (hname : SpellsString key name) (h : Spells numerals (.value tree) text) :
    Spells numerals (.members [(key, tree)]) (name ++ ':' :: text) := by
  have := Spells.member isSpace_nil hname isSpace_nil isSpace_nil h isSpace_nil
  rwa [List.nil_append, List.nil_append, List.nil_append, List.append_nil] at this

lemma Spells.consMember {entries : List (String × JsonTree ν)} (hname : SpellsString key name)
    (h : Spells numerals (.value tree) text) (hrest : Spells numerals (.members entries) rest) :
    Spells numerals (.members ((key, tree) :: entries)) (name ++ ':' :: (text ++ ',' :: rest)) :=
  Spells.nextMember isSpace_nil hname isSpace_nil isSpace_nil h isSpace_nil hrest

end Compact

/-! ### Which characters stand where -/

/-- Neither a quote nor a backslash is a hexadecimal digit. -/
lemma plain_of_isUnit {text : List Char} {n : ℕ} (h : IsUnit text n) :
    ∀ c ∈ text, c ≠ '"' ∧ c ≠ '\\' := by
  have hfold : ∀ (text : List Char) (start n : ℕ), text.foldlM hexStep start = some n →
      ∀ c ∈ text, c ≠ '"' ∧ c ≠ '\\' := by
    intro text
    induction text with
    | nil => intro _ _ _ c hc; cases hc
    | cons c text ih =>
      intro start n hread
      rw [List.foldlM_cons] at hread
      obtain ⟨next, hnext, hrest⟩ := Option.bind_eq_some_iff.mp hread
      refine List.forall_mem_cons.mpr ⟨⟨?_, ?_⟩, ih next n hrest⟩
      · rintro rfl
        cases hnext
      · rintro rfl
        cases hnext
  exact hfold text 0 n h.value

/-- The characters of a numeral. -/
lemma mem_numeral {text : List Char} (h : IsNumeral text) {c : Char} (hc : c ∈ text) :
    c.isDigit ∨ c ∈ ['-', '+', '.', 'e', 'E'] := by
  obtain ⟨sign, whole, fraction, exponent, rfl, hsign, hwhole, hfraction, hexponent⟩ := h
  simp only [List.mem_append] at hc
  rcases hc with ((hc | hc) | hc) | hc
  · rcases hsign with rfl | rfl
    · cases hc
    · exact .inr (by simp_all)
  · exact .inl (hwhole.1.2 c hc)
  · rcases hfraction with rfl | ⟨digits, rfl, hdigits⟩
    · cases hc
    · rcases List.mem_cons.mp hc with rfl | hc
      · exact .inr (by decide)
      · exact .inl (hdigits.2 c hc)
  · rcases hexponent with rfl | ⟨e, sign, digits, rfl, he, hsign, hdigits⟩
    · cases hc
    · rcases List.mem_cons.mp hc with rfl | hc
      · rcases he with rfl | rfl <;> exact .inr (by decide)
      · rcases List.mem_append.mp hc with hc | hc
        · rcases hsign with rfl | rfl | rfl
          · cases hc
          · exact .inr (by simp_all)
          · exact .inr (by simp_all)
        · exact .inl (hdigits.2 c hc)

end JsonGrammar
