/-
JSON values with all the numbers that a parser keeps.

* `Number`: an unsigned integer, a negative one, or the bits of a floating-point number;
* `Value`: a value, whose objects hold each member once;
* `Value.get`, `asStr`, `asBool`, `asI64`, `asArray`, `asObject`: one member, and a value of
  one kind.
-/
import Mathlib.Tactic

namespace JsonValue

inductive Number where
  | unsigned (n : ℕ)
  /-- The number below zero by one more than `n`. -/
  | negative (n : ℕ)
  | float (bits : UInt64)
deriving DecidableEq, Repr

inductive Value where
  | null
  | bool (value : Bool)
  | number (value : Number)
  | string (value : String)
  | array (items : List Value)
  | object (members : List (String × Value))

namespace Value

def get (value : Value) (key : String) : Option Value :=
  match value with
  | .object members => members.lookup key
  | _ => none

def asStr : Value → Option String
  | .string value => some value
  | _ => none

def asBool : Value → Option Bool
  | .bool value => some value
  | _ => none

/-- A signed integer of 64 bits. -/
def asI64 : Value → Option ℤ
  | .number (.unsigned n) => if n < 2 ^ 63 then some n else none
  | .number (.negative n) => if n < 2 ^ 63 then some (-n - 1) else none
  | _ => none

def asArray : Value → Option (List Value)
  | .array items => some items
  | _ => none

def asObject : Value → Option (List (String × Value))
  | .object members => some members
  | _ => none

def isNull : Value → Bool
  | .null => true
  | _ => false

/-- A member that is a text. -/
def text (value : Value) (key : String) : Option String := (value.get key).bind asStr

/-- A member that is an array. -/
def items (value : Value) (key : String) : Option (List Value) := (value.get key).bind asArray

end Value

end JsonValue
