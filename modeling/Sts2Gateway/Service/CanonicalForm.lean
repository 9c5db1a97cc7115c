/-
The canonical form of lease-control frames (`host_lease_control_crypto.rs`,
`strict_json.rs`, `host_lease_control.rs`).

* `visit`, `parseHcj1`: the strict reader, over a reader of JSON texts;
* `Hcj1`: **a value of the canonical form**, whose objects are sorted and whose numbers are
  integers of the wire;
* `canonicalHcj1_eq`: its canonical bytes are its compact text;
* `parseHcj1_canonical`: which the strict reader reads back;
* `parseRequest`, `proofMessage`: the accepted frames, and what their proofs authenticate;
* `hcj1_canonical_form`: the form is canonical, and no two frames share a proof message.
-/
import Mathlib.Tactic
import Mathlib.Data.String.Basic
import Sts2Gateway.Library.JsonGrammar
import Sts2Gateway.Library.JsonMembers
import Sts2Gateway.Library.JsonValue
import Sts2Gateway.Library.Utf8
import Sts2Gateway.Recovery.Runs
import Sts2Gateway.Service.HostLeaseControl

namespace Sts2Gateway.Service

open CompactJson JsonGrammar Procedure Recovery Text Utf8
open JsonValue (Number)

/-! ### The strict reader -/

/-- A new member of an object, in the place of its key. -/
def insertMember (key : String) (value : Json) : List (String × Json) → List (String × Json)
  | [] => [(key, value)]
  | member :: members =>
    if key < member.1 then (key, value) :: member :: members
    else member :: insertMember key value members

def visitNumber : Number → Option Json
  | .unsigned n => if n > maxWireInteger then none else some (.num n)
  | .negative _ | .float _ => none

mutual

/-- The value of a text, without duplicate members and other numbers. -/
def visit : JsonTree Number → Option Json
  | .null => some .null
  | .bool value => some (.bool value)
  | .num number => visitNumber number
  | .str value => some (.str value)
  | .arr items => (visitSeq items).map .arr
  | .obj members => (visitMap members []).map .obj

def visitSeq : List (JsonTree Number) → Option (List Json)
  | [] => some []
  | item :: items => do
    let value ← visit item
    let values ← visitSeq items
    return value :: values

def visitMap : List (String × JsonTree Number) → List (String × Json) →
    Option (List (String × Json))
  | [], values => some values
  | (key, member) :: members, values => do
    let value ← visit member
    guard (values.lookup key).isNone
    visitMap members (insertMember key value values)

end

/-- A reader of JSON texts. -/
abbrev JsonReader := List UInt8 → Option (JsonTree Number)

def parseHcj1 (reader : JsonReader) (bytes : List UInt8) : Option Json :=
  (reader bytes).bind visit

/-- The texts of a number that a reader keeps as an unsigned integer of 64 bits. -/
def Decimal (number : Number) (text : List Char) : Prop :=
  ∃ n < 2 ^ 64, number = .unsigned n ∧ text = Nat.toDigits 10 n

/-- The reader takes every text of a value for that value. -/
def Reads (reader : JsonReader) (tree : JsonTree Number) : Prop :=
  ∀ text, Spells Decimal (.value tree) text → reader (bytesOf text) = some tree

/-! ### Canonical values -/

def KeysAscend (members : List (String × Json)) : Prop :=
  members.Pairwise fun a b => a.1 < b.1

mutual

/-- Sorted objects, and integers of the wire. -/
def IsHcj1 : Json → Prop
  | .null | .bool _ | .str _ => True
  | .num n => n ≤ maxWireInteger
  | .arr items => AreHcj1 items
  | .obj members => KeysAscend members ∧ MembersHcj1 members

def AreHcj1 : List Json → Prop
  | [] => True
  | item :: items => IsHcj1 item ∧ AreHcj1 items

def MembersHcj1 : List (String × Json) → Prop
  | [] => True
  | (_, value) :: members => IsHcj1 value ∧ MembersHcj1 members

end

/-- **A value of the canonical form.** -/
structure Hcj1 where
  value : Json
  canonical : IsHcj1 value

lemma membersHcj1_iff {members : List (String × Json)} :
    MembersHcj1 members ↔ ∀ member ∈ members, IsHcj1 member.2 := by
  induction members with
  | nil => simp [MembersHcj1]
  | cons member members ih =>
    rw [MembersHcj1, ih, List.forall_mem_cons]

mutual

/-- What the text of a value says. -/
def jsonTree : Json → JsonTree Number
  | .null => .null
  | .bool value => .bool value
  | .num n => .num (.unsigned n)
  | .str value => .str value
  | .arr items => .arr (jsonTrees items)
  | .obj members => .obj (memberTrees members)

def jsonTrees : List Json → List (JsonTree Number)
  | [] => []
  | item :: items => jsonTree item :: jsonTrees items

def memberTrees : List (String × Json) → List (String × JsonTree Number)
  | [] => []
  | (key, value) :: members => (key, jsonTree value) :: memberTrees members

end

/-! ### Canonical bytes -/

lemma intercalate_items (text : List Char) (items : List Json) :
    List.intercalate [','] (text :: items.map Json.render) ++ [']'] = text ++ renderItems items := by
  induction items generalizing text with
  | nil => rw [List.map_nil, List.intercalate_singleton, renderItems]
  | cons item items ih =>
    rw [List.map_cons, List.intercalate_cons_cons, List.append_assoc, ih, renderItems,
      List.append_assoc, List.singleton_append]

/-- The text of a member. -/
def memberLine (member : String × Json) : List Char :=
  writeString member.1 ++ ':' :: member.2.render

lemma intercalate_members (text : List Char) (members : List (String × Json)) :
    List.intercalate [','] (text :: members.map memberLine) ++ ['}'] =
      text ++ renderMembers members := by
  induction members generalizing text with
  | nil => rw [List.map_nil, List.intercalate_singleton, renderMembers]
  | cons member members ih =>
    rw [List.map_cons, List.intercalate_cons_cons, List.append_assoc, ih, renderMembers,
      List.append_assoc, List.singleton_append, memberLine, writeString]
    simp

lemma joinMembers_eq {members : List (String × Json)} (h : KeysAscend members) :
    joinMembers (members.map fun member => (member.1, member.2.render)) =
      (Json.obj members).render := by
  have hsorted : (members.map fun member => (member.1, member.2.render)).Pairwise
      fun a b => a.1 ≤ b.1 := by
    rw [List.pairwise_map]
    exact h.imp fun {a b} hlt => show a.1 ≤ b.1 from le_of_lt hlt
  rw [joinMembers, hsorted.insertionSort_eq, List.map_map]
  cases members with
  | nil => rfl
  | cons member members =>
    have := intercalate_members (memberLine member) members
    rw [Json.render, ← List.cons_append]
    change '{' :: (List.intercalate [','] (memberLine member :: members.map memberLine) ++ ['}']) = _
    rw [this, memberLine, writeString]
    simp

mutual

/-- The canonical text of a value is its compact text. -/
theorem writeCanonical_eq (v : Json) (h : IsHcj1 v) : writeCanonical v = .ok v.render := by
  cases v with
  | null => rfl
  | bool value => cases value <;> rfl
  | num n =>
    rw [IsHcj1] at h
    rw [writeCanonical, if_neg (not_lt.mpr h), Json.render]
  | str value => rfl
  | arr items =>
    rw [IsHcj1] at h
    rw [writeCanonical, writeItems_eq items h]
    cases items with
    | nil => rfl
    | cons item items =>
      change Except.ok ('[' :: (List.intercalate [','] (item.render :: items.map Json.render) ++
        [']'])) = _
      rw [intercalate_items, Json.render]
  | obj members =>
    rw [IsHcj1] at h
    rw [writeCanonical, writeMembers_eq members h.2]
    exact congrArg Except.ok (joinMembers_eq h.1)

theorem writeItems_eq (items : List Json) (h : AreHcj1 items) :
    writeItems items = .ok (items.map Json.render) := by
  cases items with
  | nil => rfl
  | cons item items =>
    rw [AreHcj1] at h
    rw [writeItems, writeCanonical_eq item h.1, writeItems_eq items h.2]
    rfl

theorem writeMembers_eq (members : List (String × Json)) (h : MembersHcj1 members) :
    writeMembers members = .ok (members.map fun member => (member.1, member.2.render)) := by
  cases members with
  | nil => rfl
  | cons member members =>
    obtain ⟨key, value⟩ := member
    rw [MembersHcj1] at h
    rw [writeMembers, writeCanonical_eq value h.1, writeMembers_eq members h.2]
    rfl

end

theorem canonicalHcj1_eq {v : Json} (h : IsHcj1 v) : canonicalHcj1 v = .ok (bytesOf v.render) := by
  rw [canonicalHcj1, writeCanonical_eq v h]
  exact congrArg Except.ok (toUTF8_ofList v.render)

/-! ### What is read back -/

/-- The text of a character is one way to spell it. -/
lemma spells_escapeChar {c : Char} {cs text : List Char} (h : SpellsChars cs text) :
    SpellsChars (c :: cs) (escapeChar c ++ text) := by
  have hunit : ∀ n < 32, hexNumber ['0', '0', hexDigit (n / 16), hexDigit (n % 16)] = some n := by
    decide
  unfold escapeChar
  split_ifs with h1 h2 h3 h4 h5 h6 h7 h8
  · subst h1
    exact .short (e := '"') (by decide) h
  · subst h2
    exact .short (e := '\\') (by decide) h
  · subst h3
    exact .short (e := 'b') (by decide) h
  · subst h4
    exact .short (e := 't') (by decide) h
  · subst h5
    exact .short (e := 'n') (by decide) h
  · subst h6
    exact .short (e := 'f') (by decide) h
  · subst h7
    exact .short (e := 'r') (by decide) h
  · have hcode : IsUnit ['0', '0', hexDigit (c.toNat / 16), hexDigit (c.toNat % 16)] c.toNat :=
      ⟨rfl, hunit _ h8⟩
    exact .unit hcode h
  · exact .plain (not_lt.mp h8) h1 h2 h

lemma spells_escape (chars : List Char) : SpellsChars chars (escape chars) := by
  induction chars with
  | nil => exact .nil
  | cons c chars ih => exact spells_escapeChar ih

lemma spells_writeString (value : String) : SpellsString value (writeString value) :=
  ⟨_, spells_escape _, rfl⟩

mutual

/-- The compact text of a value is one of its texts. -/
theorem spells_render (v : Json) (h : IsHcj1 v) : Spells Decimal (.value (jsonTree v)) v.render := by
  cases v with
  | null => exact .null
  | bool value =>
    cases value with
    | true => exact .true
    | false => exact .false
  | num n =>
    rw [IsHcj1] at h
    have hbound : n < 2 ^ 64 := lt_of_le_of_lt h (by decide)
    exact .num ⟨n, hbound, rfl, rfl⟩
  | str value => exact .str (spells_writeString value)
  | arr items =>
    rw [IsHcj1] at h
    cases items with
    | nil => exact .noItems isSpace_nil
    | cons item items =>
      rw [AreHcj1] at h
      obtain ⟨text, htext, hitems⟩ := spells_items items h.2 (spells_render item h.1)
      rw [Json.render, htext, jsonTree, jsonTrees]
      exact .arr hitems
  | obj members =>
    rw [IsHcj1] at h
    cases members with
    | nil => exact .noMembers isSpace_nil
    | cons member members =>
      obtain ⟨key, value⟩ := member
      obtain ⟨-, hmembers⟩ := h
      rw [MembersHcj1] at hmembers
      obtain ⟨text, htext, hall⟩ := spells_members members hmembers.2 (spells_writeString key)
        (spells_render value hmembers.1)
      have hrender : (Json.obj ((key, value) :: members)).render = '{' :: (text ++ ['}']) := by
        rw [← htext, Json.render, writeString]
        simp
      rw [hrender, jsonTree, memberTrees]
      exact .obj hall

theorem spells_items (items : List Json) (h : AreHcj1 items) {first : JsonTree Number}
    {before : List Char} (hfirst : Spells Decimal (.value first) before) :
    ∃ text, before ++ renderItems items = text ++ [']'] ∧
      Spells Decimal (.items (first :: jsonTrees items)) text := by
  cases items with
  | nil => exact ⟨before, rfl, hfirst.lastItem⟩
  | cons item items =>
    rw [AreHcj1] at h
    obtain ⟨text, htext, hitems⟩ := spells_items items h.2 (spells_render item h.1)
    refine ⟨before ++ ',' :: text, ?_, hfirst.consItem hitems⟩
    rw [renderItems, htext, List.append_assoc, List.cons_append]

theorem spells_members (members : List (String × Json)) (h : MembersHcj1 members) {key : String}
    {first : JsonTree Number} {name before : List Char} (hname : SpellsString key name)
    (hfirst : Spells Decimal (.value first) before) :
    ∃ text, name ++ ':' :: (before ++ renderMembers members) = text ++ ['}'] ∧
      Spells Decimal (.members ((key, first) :: memberTrees members)) text := by
  cases members with
  | nil =>
    refine ⟨name ++ ':' :: before, ?_, .lastMember hname hfirst⟩
    rw [renderMembers, List.append_assoc, List.cons_append]
  | cons member members =>
    obtain ⟨next, value⟩ := member
    rw [MembersHcj1] at h
    obtain ⟨text, htext, hmembers⟩ := spells_members members h.2 (spells_writeString next)
      (spells_render value h.1)
    refine ⟨name ++ ':' :: (before ++ ',' :: text), ?_, .consMember hname hfirst hmembers⟩
    have hrest : renderMembers ((next, value) :: members) = ',' :: (text ++ ['}']) := by
      rw [← htext, renderMembers, writeString]
      simp
    rw [hrest]
    simp

end

/-- A member whose key is above all others comes last. -/
lemma insertMember_last {key : String} {value : Json} {values : List (String × Json)}
    (h : ∀ member ∈ values, member.1 < key) :
    insertMember key value values = values ++ [(key, value)] := by
  induction values with
  | nil => rfl
  | cons member values ih =>
    obtain ⟨hmember, hrest⟩ := List.forall_mem_cons.mp h
    rw [insertMember, if_neg hmember.asymm, ih hrest, List.cons_append]

lemma lookup_none_of_keys {key : String} {values : List (String × Json)}
    (h : ∀ member ∈ values, member.1 ≠ key) : values.lookup key = none :=
  List.lookup_eq_none_iff.mpr fun member hmember => by simpa using (h member hmember).symm

mutual

/-- The strict reader reads a canonical value back. -/
theorem visit_jsonTree (v : Json) (h : IsHcj1 v) : visit (jsonTree v) = some v := by
  cases v with
  | null | bool | str => rfl
  | num n =>
    rw [IsHcj1] at h
    rw [jsonTree, visit, visitNumber, if_neg (not_lt.mpr h)]
  | arr items =>
    rw [IsHcj1] at h
    rw [jsonTree, visit, visitSeq_jsonTrees items h, Option.map_some]
  | obj members =>
    rw [IsHcj1] at h
    rw [jsonTree, visit, visitMap_memberTrees members [] h.2 h.1, Option.map_some,
      List.nil_append]

theorem visitSeq_jsonTrees (items : List Json) (h : AreHcj1 items) :
    visitSeq (jsonTrees items) = some items := by
  cases items with
  | nil => rfl
  | cons item items =>
    rw [AreHcj1] at h
    rw [jsonTrees, visitSeq, visit_jsonTree item h.1, visitSeq_jsonTrees items h.2]
    rfl

theorem visitMap_memberTrees (members values : List (String × Json)) (h : MembersHcj1 members)
    (hascend : KeysAscend (values ++ members)) :
    visitMap (memberTrees members) values = some (values ++ members) := by
  cases members with
  | nil => rw [memberTrees, visitMap, List.append_nil]
  | cons member members =>
    obtain ⟨key, value⟩ := member
    rw [MembersHcj1] at h
    have hbelow : ∀ member ∈ values, member.1 < key := fun member hmember =>
      (List.pairwise_append.mp hascend).2.2 member hmember _ List.mem_cons_self
    have hnew := lookup_none_of_keys fun member hmember => (hbelow member hmember).ne
    rw [List.append_cons] at hascend
    have hrest := visitMap_memberTrees members (values ++ [(key, value)]) h.2 hascend
    rw [memberTrees, visitMap, visit_jsonTree value h.1]
    simp [hnew, insertMember_last hbelow, hrest]

end

/-- **The strict reader reads the canonical bytes of a value back.** -/
theorem parseHcj1_canonical {reader : JsonReader} (v : Hcj1)
    (hreads : Reads reader (jsonTree v.value)) :
    ∃ bytes, canonicalHcj1 v.value = .ok bytes ∧ parseHcj1 reader bytes = some v.value := by
  refine ⟨_, canonicalHcj1_eq v.canonical, ?_⟩
  rw [parseHcj1, hreads _ (spells_render v.value v.canonical)]
  exact visit_jsonTree v.value v.canonical

/-! ### What the strict reader returns -/

lemma mem_insertMember {key : String} {value : Json} {values : List (String × Json)}
    {member : String × Json} :
    member ∈ insertMember key value values ↔ member = (key, value) ∨ member ∈ values := by
  induction values with
  | nil => simp [insertMember]
  | cons first values ih =>
    rw [insertMember]
    split_ifs
    · exact List.mem_cons
    · rw [List.mem_cons, ih, List.mem_cons, or_left_comm]

/-- A new key keeps the keys in order. -/
lemma keysAscend_insertMember {key : String} {value : Json} {values : List (String × Json)}
    (h : KeysAscend values) (hnew : values.lookup key = none) :
    KeysAscend (insertMember key value values) := by
  induction values with
  | nil => exact List.pairwise_singleton _ _
  | cons first values ih =>
    obtain ⟨hfirst, hrest⟩ := List.pairwise_cons.mp h
    have hne : key ≠ first.1 := by
      intro heq
      rw [List.lookup_eq_none_iff] at hnew
      have := hnew first List.mem_cons_self
      simp [heq] at this
    have hother : values.lookup key = none := by
      rw [List.lookup_eq_none_iff] at hnew ⊢
      exact fun member hmember => hnew member (List.mem_cons_of_mem _ hmember)
    rw [insertMember]
    split_ifs with hlt
    · refine List.pairwise_cons.mpr ⟨List.forall_mem_cons.mpr ⟨hlt, fun member hmember => ?_⟩, h⟩
      exact hlt.trans (hfirst member hmember)
    · refine List.pairwise_cons.mpr ⟨fun member hmember => ?_, ih hrest hother⟩
      rcases mem_insertMember.mp hmember with rfl | hmember
      · exact lt_of_le_of_ne (not_lt.mp hlt) hne.symm
      · exact hfirst member hmember

mutual

/-- What the strict reader returns is in the canonical form. -/
theorem isHcj1_of_visit (tree : JsonTree Number) {v : Json} (h : visit tree = some v) :
    IsHcj1 v := by
  cases tree with
  | null | bool | str =>
    rw [visit] at h
    obtain rfl := Option.some.inj h
    exact trivial
  | num number =>
    rw [visit] at h
    cases number with
    | unsigned n =>
      rw [visitNumber] at h
      split_ifs at h with hbound
      obtain rfl := Option.some.inj h
      exact not_lt.mp hbound
    | negative | float => cases h
  | arr items =>
    rw [visit] at h
    obtain ⟨values, hvalues, rfl⟩ := Option.map_eq_some_iff.mp h
    exact areHcj1_of_visitSeq items hvalues
  | obj members =>
    rw [visit] at h
    obtain ⟨values, hvalues, rfl⟩ := Option.map_eq_some_iff.mp h
    exact membersHcj1_of_visitMap members List.Pairwise.nil trivial hvalues

theorem areHcj1_of_visitSeq (items : List (JsonTree Number)) {values : List Json}
    (h : visitSeq items = some values) : AreHcj1 values := by
  cases items with
  | nil =>
    obtain rfl := Option.some.inj h
    exact trivial
  | cons item items =>
    simp only [visitSeq, Option.bind_eq_bind, Option.bind_eq_some_iff] at h
    obtain ⟨value, hvalue, rest, hrest, heq⟩ := h
    obtain rfl := Option.some.inj heq
    exact ⟨isHcj1_of_visit item hvalue, areHcj1_of_visitSeq items hrest⟩

theorem membersHcj1_of_visitMap (members : List (String × JsonTree Number))
    {before values : List (String × Json)} (hascend : KeysAscend before)
    (hbefore : MembersHcj1 before) (h : visitMap members before = some values) :
    KeysAscend values ∧ MembersHcj1 values := by
  cases members with
  | nil =>
    obtain rfl := Option.some.inj h
    exact ⟨hascend, hbefore⟩
  | cons member members =>
    obtain ⟨key, tree⟩ := member
    simp only [visitMap, Option.bind_eq_bind, Option.bind_eq_some_iff,
      Option.guard_eq_some'] at h
    obtain ⟨value, hvalue, -, hnew, hrest⟩ := h
    rw [Option.isNone_iff_eq_none] at hnew
    refine membersHcj1_of_visitMap members (keysAscend_insertMember hascend hnew) ?_ hrest
    rw [membersHcj1_iff] at hbefore ⊢
    intro member hmember
    rcases mem_insertMember.mp hmember with rfl | hmember
    · exact isHcj1_of_visit tree hvalue
    · exact hbefore member hmember

end

lemma isHcj1_of_parseHcj1 {reader : JsonReader} {bytes : List UInt8} {v : Json}
    (h : parseHcj1 reader bytes = some v) : IsHcj1 v := by
  obtain ⟨tree, -, hvisit⟩ := Option.bind_eq_some_iff.mp h
  exact isHcj1_of_visit tree hvisit

/-! ### Frames -/

/-- The domains under which requests and acknowledgments are checked. -/
def IsDomain (domain : String) : Prop :=
  ∃ kind : HostLeaseKind, domain = kind.requestDomain ∨ domain = kind.acknowledgmentDomain

/-- Dropping members of an object, or writing one in its place, keeps the canonical form. -/
lemma isHcj1_withoutProof {members auth : List (String × Json)}
    (h : IsHcj1 (.obj members)) (hauth : members.lookup "auth" = some (.obj auth)) :
    IsHcj1 ((Json.obj members).set "auth" (((Json.obj members).get "auth").erase "proof")) := by
  rw [IsHcj1, membersHcj1_iff] at h
  have hinner : IsHcj1 (.obj auth) := by
    obtain ⟨before, after, hsplit, -⟩ := List.lookup_eq_some_iff.mp hauth
    exact h.2 ("auth", .obj auth) (by simp [hsplit])
  rw [IsHcj1, membersHcj1_iff] at hinner
  have hproof : IsHcj1 ((Json.obj auth).erase "proof") := by
    rw [Json.erase, IsHcj1, membersHcj1_iff]
    exact ⟨hinner.1.filter _, fun member hmember => hinner.2 member (List.mem_filter.mp hmember).1⟩
  have hget : (Json.obj members).get "auth" = .obj auth := by
    rw [Json.get, hauth, Option.getD_some]
  have hpresent : (members.lookup "auth").isSome = true := by
    rw [hauth]
    rfl
  rw [hget, Json.set, if_pos hpresent, IsHcj1, membersHcj1_iff]
  refine ⟨?_, fun member hmember => ?_⟩
  · rw [KeysAscend, List.pairwise_map]
    refine h.1.imp fun {a b} hlt => ?_
    have hkey : ∀ member : String × Json,
        (if member.1 = "auth" then ("auth", (Json.obj auth).erase "proof") else member).1 =
          member.1 := by
      intro member
      split_ifs with hname
      · exact hname.symm
      · rfl
    rw [hkey, hkey]
    exact hlt
  · obtain ⟨old, hold, rfl⟩ := List.mem_map.mp hmember
    split_ifs
    · exact hproof
    · exact h.2 old hold

lemma utf8_inj {s t : String} (h : utf8 s = utf8 t) : s = t := by
  have hbytes : s.toUTF8 = t.toUTF8 :=
    ByteArray.ext (Array.toList_inj.mp h)
  exact String.toByteArray_inj.mp hbytes

/-- The domains have no zero byte. -/
lemma zero_notMem_domain {domain : String} (h : IsDomain domain) : (0 : UInt8) ∉ utf8 domain := by
  obtain ⟨kind, rfl | rfl⟩ := h <;> cases kind <;> decide +kernel

/-- What stands before the first zero byte of two equal texts is equal. -/
lemma append_zero_inj {first second rest tail : List UInt8} (hfirst : (0 : UInt8) ∉ first)
    (hsecond : (0 : UInt8) ∉ second) (h : first ++ 0 :: rest = second ++ 0 :: tail) :
    first = second ∧ rest = tail := by
  induction first generalizing second with
  | nil =>
    cases second with
    | nil => exact ⟨rfl, (List.cons.inj h).2⟩
    | cons byte second =>
      obtain rfl := (List.cons.inj h).1
      exact absurd List.mem_cons_self hsecond
  | cons byte first ih =>
    cases second with
    | nil =>
      obtain rfl := (List.cons.inj h).1
      exact absurd List.mem_cons_self hfirst
    | cons other second =>
      obtain ⟨rfl, hrest⟩ := List.cons.inj h
      obtain ⟨rfl, rfl⟩ := ih (fun hmem => hfirst (List.mem_cons_of_mem _ hmem))
        (fun hmem => hsecond (List.mem_cons_of_mem _ hmem)) hrest
      exact ⟨rfl, rfl⟩

lemma bytesOf_render_inj {v w : Json} (h : bytesOf v.render = bytesOf w.render) : v = w := by
  refine toBytes_inj ?_
  rw [← toUTF8_ofList, ← toUTF8_ofList] at h
  exact ByteArray.ext (Array.toList_inj.mp h)

section Frames

variable [Sha256]

def parseFrame (reader : JsonReader) (bytes : List UInt8) (kind : HostLeaseKind)
    (response : Bool) : Except HostLeaseFrameError Json := do
  refuse (bytes.isEmpty) .invalid
  refuse (bytes.length > maxHostLeaseFrameBytes) .oversized
  let value ← okOr (parseHcj1 reader bytes) .invalid
  validateFrameShape value kind response
  return value

def parseRequest (reader : JsonReader) (bytes : List UInt8) (kind : HostLeaseKind) :
    Except HostLeaseFrameError Json :=
  parseFrame reader bytes kind false

/-- The bytes of an answer, as a body. -/
def Body.read (reader : JsonReader) (bytes : List UInt8) : Body where
  size := bytes.length
  json := parseHcj1 reader bytes
  rawLegalActions := none

/-- A frame that is accepted as a request or as a response. -/
def Accepted (reader : JsonReader) (frame : Json) : Prop :=
  (∃ bytes kind, parseRequest reader bytes kind = .ok frame) ∨
    ∃ bytes kind secret principal,
      parseResponse (Body.read reader bytes) kind secret principal = .ok frame

/-- What the proof of a frame authenticates. -/
def proofMessage (frame : Json) (domain : String) : List UInt8 :=
  utf8 domain ++ 0 :: (canonicalHcj1
    (frame.set "auth" ((frame.get "auth").erase "proof"))).toOption.getD []

/-- Two frames that differ in their proofs at most. -/
def SameButProof (v w : Json) : Prop :=
  (∀ key, key ≠ "auth" → v.member key = w.member key) ∧
    ∀ key, key ≠ "proof" → (v.get "auth").member key = (w.get "auth").member key

/-- A frame of the right shape is an object, and so is its member `auth`. -/
lemma auth_of_validateFrameShape {frame : Json} {kind : HostLeaseKind} {response : Bool}
    (h : validateFrameShape frame kind response = .ok ()) :
    ∃ members auth, frame = .obj members ∧ members.lookup "auth" = some (.obj auth) := by
  simp only [validateFrameShape, except_bind_eq_ok] at h
  obtain ⟨members, hframe, -, -, -, -, -, -, -, -, -, -, auth, hauth, -⟩ := h
  rw [requireObject, okOr_eq_ok] at hframe hauth
  cases frame with
  | obj entries =>
    refine ⟨entries, auth, rfl, ?_⟩
    rw [Json.get] at hauth
    cases hlookup : entries.lookup "auth" with
    | none =>
      rw [hlookup] at hauth
      cases hauth
    | some value =>
      rw [hlookup, Option.getD_some] at hauth
      cases value with
      | obj inner =>
        obtain rfl := Option.some.inj hauth
        rfl
      | null | bool | num | str | arr => cases hauth
  | null | bool | num | str | arr => cases hframe

/-- An accepted frame is in the canonical form, and has a member `auth`. -/
lemma Accepted.shape {reader : JsonReader} {frame : Json} (h : Accepted reader frame) :
    IsHcj1 frame ∧
      ∃ members auth, frame = .obj members ∧ members.lookup "auth" = some (.obj auth) := by
  rcases h with ⟨bytes, kind, hparse⟩ | ⟨bytes, kind, secret, principal, hparse⟩
  · simp only [parseRequest, parseFrame, except_bind_eq_ok, okOr_eq_ok] at hparse
    obtain ⟨-, -, -, -, value, hvalue, _, hshape, hend⟩ := hparse
    obtain rfl : value = frame := Except.ok.inj hend
    exact ⟨isHcj1_of_parseHcj1 hvalue, auth_of_validateFrameShape hshape⟩
  · simp only [parseResponse, except_bind_eq_ok, okOr_eq_ok] at hparse
    obtain ⟨-, -, -, -, value, hvalue, _, hshape, -, -, proof, -, -, -, hend⟩ := hparse
    obtain rfl : value = frame := Except.ok.inj hend
    exact ⟨isHcj1_of_parseHcj1 hvalue, auth_of_validateFrameShape hshape⟩

/-- **Frames with the same proof message** differ in their proofs at most, and are checked under
one domain. -/
theorem same_of_proofMessage {reader : JsonReader} {v w : Json} {first second : String}
    (hv : Accepted reader v) (hw : Accepted reader w) (hfirst : IsDomain first)
    (hsecond : IsDomain second) (h : proofMessage v first = proofMessage w second) :
    SameButProof v w ∧ first = second := by
  obtain ⟨hcanonical, members, auth, rfl, hauth⟩ := hv.shape
  obtain ⟨hcanonical', members', auth', rfl, hauth'⟩ := hw.shape
  rw [proofMessage, proofMessage, canonicalHcj1_eq (isHcj1_withoutProof hcanonical hauth),
    canonicalHcj1_eq (isHcj1_withoutProof hcanonical' hauth')] at h
  obtain ⟨hdomain, hbytes⟩ := append_zero_inj (zero_notMem_domain hfirst)
    (zero_notMem_domain hsecond) h
  have hsame := bytesOf_render_inj hbytes
  refine ⟨⟨fun key hkey => ?_, fun key hkey => ?_⟩, utf8_inj hdomain⟩
  · have hmember := congrArg (fun value => value.member key) hsame
    simp only [Json.member_set, if_neg hkey] at hmember
    exact hmember
  · have hmember := congrArg (fun value => value.member "auth") hsame
    simp only [Json.member_set, if_true, Option.some.injEq] at hmember
    have hinner := congrArg (fun value => value.member key) hmember
    simp only [Json.member_erase, if_neg hkey] at hinner
    exact hinner

/-- **HCJ-1 is a canonical form**: a value is read back from its canonical bytes, which no other
value has; what is read from any text is in the form; and frames that differ in more than their
proofs, or in the domain they are checked under, have different proof messages. -/
theorem hcj1_canonical_form :
    (∀ (reader : JsonReader) (v : Hcj1), Reads reader (jsonTree v.value) →
      ∃ bytes, canonicalHcj1 v.value = .ok bytes ∧ parseHcj1 reader bytes = some v.value) ∧
    (∀ v w : Hcj1, canonicalHcj1 v.value = canonicalHcj1 w.value → v = w) ∧
    (∀ (reader : JsonReader) bytes value, parseHcj1 reader bytes = some value → IsHcj1 value) ∧
    (∀ frame domain secret, proofForFrame frame domain secret =
      hexBytes (hmacSha256 secret (proofMessage frame domain))) ∧
    (∀ (reader : JsonReader) v w first second, Accepted reader v → Accepted reader w →
      IsDomain first → IsDomain second → ¬ SameButProof v w ∨ first ≠ second →
      proofMessage v first ≠ proofMessage w second) := by
  refine ⟨fun _ => parseHcj1_canonical, fun v w h => ?_, fun _ _ _ => isHcj1_of_parseHcj1,
    fun _ _ _ => rfl, fun _ v w first second hv hw hfirst hsecond hdiffer h => ?_⟩
  · rw [canonicalHcj1_eq v.canonical, canonicalHcj1_eq w.canonical] at h
    have hvalue := bytesOf_render_inj (Except.ok.inj h)
    cases v
    cases w
    obtain rfl := hvalue
    rfl
  · obtain ⟨hsame, hdomain⟩ := same_of_proofMessage hv hw hfirst hsecond h
    rcases hdiffer with hdiffer | hdiffer
    · exact hdiffer hsame
    · exact hdiffer hdomain

end Frames

/-! ### An acknowledgment -/

namespace Sample

def principal : String := "6f1c1b1e-93a7-4d51-8f4c-2f7f9a3e5b10"

/-- The acknowledgment of an installation. -/
def ackFrame : Json :=
  .obj [("actor", .obj [("principal_id", .str principal), ("role", .str "host")]),
    ("auth", .obj [("capability", .str "lease_install"), ("principal_id", .str principal),
      ("proof", .str (String.join (List.replicate 32 "60")))]),
    ("contract", .str hostLeaseControlContract),
    ("correlation_id", .str "0c0c0c0c-0c0c-4c0c-8c0c-0c0c0c0c0c0c"),
    ("kind", .str "lease_install_response"),
    ("message_id", .str "7a7a7a7a-7a7a-4a7a-8a7a-7a7a7a7a7a7a"),
    ("payload", .obj [("ack", .obj [("boot_id", .str "1a1a1a1a-1a1a-4a1a-8a1a-1a1a1a1a1a1a"),
      ("expires_at", .null), ("fence_generation", .num 1),
      ("grant_digest", .str (String.join (List.replicate 32 "00"))),
      ("host_fence_id", .str "2b2b2b2b-2b2b-4b2b-8b2b-2b2b2b2b2b2b"),
      ("host_install_generation", .num 1),
      ("installation_id", .str "3d3d3d3d-3d3d-4d3d-8d3d-3d3d3d3d3d3d"),
      ("instance_incarnation", .str "4e4e4e4e-4e4e-4e4e-8e4e-4e4e4e4e4e4e"),
      ("lease_epoch", .num 1), ("lease_id", .str "5f5f5f5f-5f5f-4f5f-8f5f-5f5f5f5f5f5f"),
      ("recorded_at", .str "2024-05-06T07:08:09.000Z"), ("renew_sequence", .null),
      ("result", .obj [("retry_after_seconds", .null), ("retryable", .bool false),
        ("status", .str "INSTALLED")])])]),
    ("schema_digest", .str hostLeaseControlSchemaDigest),
    ("sent_at", .str "2024-05-06T07:08:09.000Z")]

/-- Reads the compact texts of the acknowledgment and of a seven. -/
def reader : JsonReader := fun bytes =>
  if bytes = [55] then some (.num (.unsigned 7))
  else if bytes = bytesOf ackFrame.render then some (jsonTree ackFrame)
  else none

lemma ackFrame_canonical : IsHcj1 ackFrame := by
  simp only [ackFrame, IsHcj1, MembersHcj1, KeysAscend, and_true, true_and]
  decide +kernel

lemma parseHcj1_ackFrame : parseHcj1 reader (bytesOf ackFrame.render) = some ackFrame := by
  have hother : bytesOf ackFrame.render ≠ [55] := by
    intro h
    have hfirst := congrArg List.head? h
    revert hfirst
    decide +kernel
  rw [parseHcj1, reader, if_neg hother, if_pos rfl]
  exact visit_jsonTree ackFrame ackFrame_canonical

end Sample

section Example

attribute [local instance] Recovery.Sample.sha256

lemma Sample.ackFrame_shape : validateFrameShape ackFrame .install true = .ok () := by
  have hsize : ¬ (ackFrame.get "payload").toBytes.size > maxHostLeasePayloadBytes := by
    refine not_lt.mpr ((size_toBytes_le_weight _).trans ?_)
    decide +kernel
  simp only [validateFrameShape, except_bind_eq_ok, refuse_eq_ok, if_true]
  exact ⟨_, rfl, (), by decide +kernel, (), by decide +kernel, _, rfl, (), by decide +kernel, (),
    by decide +kernel, _, rfl, (), by decide +kernel, (), by decide +kernel, _, rfl, (), hsize,
    by decide +kernel⟩

lemma Sample.ackFrame_proof :
    proofForFrame ackFrame HostLeaseKind.install.acknowledgmentDomain (List.replicate 32 0) =
      String.join (List.replicate 32 "60") := by
  have hcanonical := canonicalHcj1_eq (isHcj1_withoutProof ackFrame_canonical rfl)
  rw [ackFrame, proofForFrame, hcanonical]
  decide +kernel

lemma Sample.ackFrame_accepted : Accepted reader ackFrame := by
  have hread : (Body.read reader (bytesOf ackFrame.render)).json = some ackFrame := by
    rw [Body.read, parseHcj1_ackFrame]
  have hsize : ¬ (Body.read reader (bytesOf ackFrame.render)).size > maxHostLeaseFrameBytes := by
    have hbytes := length_bytesOf_le ackFrame.render
    have hrender := length_render_le ackFrame
    have hweight : 4 * ackFrame.weight ≤ maxHostLeaseFrameBytes := by decide +kernel
    exact Nat.not_lt.mpr (by omega : (bytesOf ackFrame.render).length ≤ maxHostLeaseFrameBytes)
  have hproof := ackFrame_proof
  refine .inr ⟨bytesOf ackFrame.render, .install, List.replicate 32 0, principal, ?_⟩
  simp only [parseResponse, except_bind_eq_ok, refuse_eq_ok, okOr_eq_ok]
  refine ⟨(), by decide, (), hsize, ackFrame, hread, (), ackFrame_shape, (), ?_,
    String.join (List.replicate 32 "60"), rfl, (), ?_, rfl⟩
  · decide +kernel
  · exact fun hne => hne hproof.symm

/-- A seven is read back, and an acknowledgment is not taken under another domain. -/
theorem sample_frame_kept_apart :
    (∃ bytes, canonicalHcj1 (.num 7) = .ok bytes ∧
      parseHcj1 Sample.reader bytes = some (.num 7)) ∧
    proofMessage Sample.ackFrame HostLeaseKind.install.acknowledgmentDomain ≠
      proofMessage Sample.ackFrame HostLeaseKind.renew.acknowledgmentDomain := by
  have hseven : Reads Sample.reader (jsonTree (.num 7)) := by
    rintro text (_ | _ | _ | ⟨n, -, heq, rfl⟩)
    cases heq
    have hbytes : bytesOf (Nat.toDigits 10 7) = [55] := by decide +kernel
    rw [hbytes]
    rfl
  have hbound : 7 ≤ maxWireInteger := by decide
  have haccepted := Sample.ackFrame_accepted
  exact ⟨hcj1_canonical_form.1 Sample.reader ⟨.num 7, hbound⟩ hseven,
    hcj1_canonical_form.2.2.2.2 Sample.reader _ _ _ _ haccepted haccepted ⟨.install, .inr rfl⟩
      ⟨.renew, .inr rfl⟩ (.inr (by decide))⟩

end Example

end Sts2Gateway.Service
