/-
The members of an object after one of them is written or dropped.

* `member_set`, `member_erase`: the members of the object afterwards;
* `get_eq_member`: a member that is missing reads as `null`.
-/
import Mathlib.Tactic
import Sts2Gateway.Library.JsonAccess

namespace CompactJson.Json

lemma lookup_cons_if (name : String) (item : Json) (members : List (String × Json))
    (other : String) :
    ((name, item) :: members).lookup other =
      if other = name then some item else members.lookup other := by
  rw [List.lookup_cons]
  by_cases h : other = name
  · simp [h]
  · have hne : (other == name) = false := beq_eq_false_iff_ne.mpr h
    rw [if_neg h, hne]

lemma lookup_replaced (members : List (String × Json)) (key : String) (value : Json)
    (other : String) :
    (members.map fun member => if member.1 = key then (key, value) else member).lookup other =
      if other = key then (members.lookup key).map fun _ => value else members.lookup other := by
  induction members with
  | nil => simp
  | cons member members ih =>
    obtain ⟨name, item⟩ := member
    rw [List.map_cons, lookup_cons_if name item members key, lookup_cons_if name item members other]
    by_cases hname : name = key
    · rw [if_pos hname, lookup_cons_if, ih, hname]
      by_cases hother : other = key
      · simp [hother]
      · simp [hother]
    · rw [if_neg hname, lookup_cons_if, ih, if_neg (Ne.symm hname)]
      by_cases hother : other = key
      · simp [hother, Ne.symm hname]
      · simp [hother]

lemma lookup_dropped (members : List (String × Json)) (key other : String) :
    (members.filter fun member => member.1 ≠ key).lookup other =
      if other = key then none else members.lookup other := by
  induction members with
  | nil => simp
  | cons member members ih =>
    obtain ⟨name, item⟩ := member
    rw [lookup_cons_if name item members other]
    by_cases hname : name = key
    · rw [List.filter_cons_of_neg (by simpa using hname), ih, hname]
      by_cases hother : other = key
      · simp [hother]
      · simp [hother]
    · rw [List.filter_cons_of_pos (by simpa using hname), lookup_cons_if, ih]
      by_cases hother : other = key
      · simp [hother, Ne.symm hname]
      · simp [hother]

/-- One member is written, and the others stay. -/
lemma member_set {members : List (String × Json)} (key : String) (value : Json) (other : String) :
    ((Json.obj members).set key value).member other =
      if other = key then some value else (Json.obj members).member other := by
  rw [set]
  split_ifs with hpresent hother hother
  · obtain ⟨old, hold⟩ := Option.isSome_iff_exists.mp hpresent
    rw [member, lookup_replaced, if_pos hother, hold, Option.map_some]
  · rw [member, lookup_replaced, if_neg hother, member]
  · have habsent : members.lookup key = none := Option.not_isSome_iff_eq_none.mp hpresent
    rw [member, hother, List.lookup_append, habsent]
    simp
  · rw [member, List.lookup_append, member, lookup_cons_if, if_neg hother, List.lookup_nil,
      Option.or_none]

/-- One member is dropped, and the others stay. -/
lemma member_erase (v : Json) (key other : String) :
    (v.erase key).member other = if other = key then none else v.member other := by
  cases v with
  | obj members => exact lookup_dropped members key other
  | null | bool | num | str | arr => simp [erase, member]

/-- A member that is missing reads as `null`. -/
lemma get_eq_member (v : Json) (key : String) : v.get key = (v.member key).getD .null := by
  cases v <;> rfl

end CompactJson.Json
