/-
Reading JSON values.

* `Json.get`, `Json.asStr`, `Json.asU64`, `Json.asBool`, `Json.asObject`: one member,
  and a value of one kind;
* `Json.member`, `Json.object`, `Json.asArray`: a member that may be missing, and the
  values that have members or items;
* `Json.strIs`, `Json.numIs`: a test of one member;
* `Json.set`, `Json.erase`: one member written or dropped;
* `Json.exactObject`: an object with exactly the named members;
* `Json.decEq`: values are compared by their text.
-/
import Mathlib.Tactic
import Sts2Gateway.Library.Json

namespace CompactJson.Json

/-- Two values are equal when their texts are. -/
def decEq (v w : Json) : Decidable (v = w) :=
  decidable_of_iff (v.render = w.render) ⟨render_inj, congrArg render⟩

instance : DecidableEq Json := decEq

instance : Inhabited Json := ⟨.null⟩

/-- A member of an object, and `null` where there is none. -/
def get (v : Json) (key : String) : Json :=
  match v with
  | .obj members => (members.lookup key).getD .null
  | _ => .null

/-- A member of an object, which may be missing. -/
def member (v : Json) (key : String) : Option Json :=
  match v with
  | .obj members => members.lookup key
  | _ => none

def asStr : Json → Option String
  | .str s => some s
  | _ => none

/-- A number that fits in 64 bits. -/
def asU64 : Json → Option ℕ
  | .num n => if n < 2 ^ 64 then some n else none
  | _ => none

def asBool : Json → Option Bool
  | .bool b => some b
  | _ => none

def asObject : Json → Option (List (String × Json))
  | .obj members => some members
  | _ => none

/-- An object. -/
def object (v : Json) : Option Json :=
  match v with
  | .obj _ => some v
  | _ => none

def asArray : Json → Option (List Json)
  | .arr items => some items
  | _ => none

def isNull : Json → Bool
  | .null => true
  | _ => false

/-- A text member that passes a test. -/
def strIs (v : Json) (key : String) (test : String → Bool) : Bool := (v.get key).asStr.any test

/-- A number member that passes a test. -/
def numIs (v : Json) (key : String) (test : ℕ → Bool) : Bool := (v.get key).asU64.any test

/-- A text member. -/
def str? (v : Json) (key : String) : Option String := (v.member key).bind asStr

/-- A number member. -/
def u64? (v : Json) (key : String) : Option ℕ := (v.member key).bind asU64

/-- An object with one member written, in the place that it has already. -/
def set (v : Json) (key : String) (value : Json) : Json :=
  match v with
  | .obj members =>
    if (members.lookup key).isSome then
      .obj (members.map fun member => if member.1 = key then (key, value) else member)
    else .obj (members ++ [(key, value)])
  | v => v

def erase (v : Json) (key : String) : Json :=
  match v with
  | .obj members => .obj (members.filter fun member => member.1 ≠ key)
  | v => v

/-- The members of an object that are exactly the named ones. -/
def hasExactKeys (members : List (String × Json)) (keys : List String) : Bool :=
  members.length == keys.length && keys.all fun key => (members.lookup key).isSome

/-- An object with exactly the named members. -/
def exactObject (v : Json) (keys : List String) : Option Json :=
  match v with
  | .obj members => if hasExactKeys members keys then some v else none
  | _ => none

end CompactJson.Json
