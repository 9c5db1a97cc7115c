/-
Rows of a dynamically typed table, by column name.

* `Value`, `Row`, `insertRow`, `select`: the values of a row, what `INSERT INTO t
  (columns) VALUES (values)` stores and what `SELECT columns` returns;
* `select_insertRow`: **a selection of the inserted columns returns the inserted
  values**, also when further columns were inserted behind them;
* `text`, `natural`, `blob`, `nullable`: readers of one value;
* `ofNatural`, `natural_ofNatural`: an unsigned number as a 64-bit integer column;
* `nullable_elim`: an optional value is read back.
-/
import Mathlib.Tactic

namespace Columns

inductive Value where
  | null
  | integer (value : ℤ)
  | text (value : String)
  | blob (value : List UInt8)
deriving DecidableEq

/-- The values of a row; a column that no statement wrote is null. -/
abbrev Row := String → Value

/-- `INSERT INTO t (columns) VALUES (values)`. -/
def insertRow (columns : List String) (values : List Value) : Row := fun name =>
  ((columns.zip values).lookup name).getD .null

/-- `SELECT columns FROM t` on one row. -/
def select (columns : List String) (row : Row) : List Value := columns.map row

/-- What is inserted is selected, whatever else is inserted behind it. -/
theorem select_insertRow {columns : List String} {values : List Value} (hnodup : columns.Nodup)
    (hlength : values.length = columns.length) (columns' : List String) (values' : List Value) :
    select columns (insertRow (columns ++ columns') (values ++ values')) = values := by
  induction columns generalizing values with
  | nil => exact (List.length_eq_zero_iff.mp hlength).symm
  | cons column columns ih =>
    cases values with
    | nil => cases hlength
    | cons value values =>
      obtain ⟨hnew, hnodup⟩ := List.nodup_cons.mp hnodup
      have hrest : ∀ name ∈ columns,
          insertRow (column :: columns ++ columns') (value :: values ++ values') name =
            insertRow (columns ++ columns') (values ++ values') name := by
        intro name hname
        have hne : name ≠ column := fun heq => hnew (heq ▸ hname)
        simp [insertRow, List.lookup_cons, beq_false_of_ne hne]
      have hhead : insertRow (column :: columns ++ columns') (value :: values ++ values') column =
          value := by
        simp [insertRow]
      calc select (column :: columns) _
          = value :: select columns (insertRow (columns ++ columns') (values ++ values')) := by
            rw [select, List.map_cons, hhead, select, List.map_congr_left hrest]
        _ = value :: values := by
            rw [ih hnodup (Nat.succ.inj hlength)]

/-! ### Readers -/

def text : Value → Option String
  | .text value => some value
  | _ => none

def blob : Value → Option (List UInt8)
  | .blob value => some value
  | _ => none

/-- An integer that is no negative number. -/
def natural : Value → Option ℕ
  | .integer value => if 0 ≤ value then some value.toNat else none
  | _ => none

/-- A column that may be null. -/
def nullable {α : Type} (read : Value → Option α) : Value → Option (Option α)
  | .null => some none
  | value => some <$> read value

/-- An unsigned 64-bit number, reinterpreted as a signed one. -/
def ofNatural (n : ℕ) : Value := .integer ((n : ℤ).bmod (2 ^ 64))

@[simp] lemma text_text (value : String) : text (.text value) = some value := rfl

@[simp] lemma blob_blob (value : List UInt8) : blob (.blob value) = some value := rfl

/-- A number of fewer than 64 bits is read back. -/
@[simp] lemma natural_ofNatural {n : ℕ} (h : n < 2 ^ 63) : natural (ofNatural n) = some n := by
  have hmod : (n : ℤ).bmod (2 ^ 64) = n := by
    rw [Int.bmod_eq_of_le] <;> omega
  rw [ofNatural, natural, hmod, if_pos (Int.natCast_nonneg n), Int.toNat_natCast]

/-- An optional value is read back when each value is, and none is written as null. -/
lemma nullable_elim {α : Type} {read : Value → Option α} {write : α → Value}
    (hread : ∀ a, read (write a) = some a) (hnull : read .null = none) (o : Option α) :
    nullable read (o.elim .null write) = some o := by
  cases o with
  | none => rfl
  | some a =>
    have hback := hread a
    rw [Option.elim_some]
    cases hwrite : write a with
    | null =>
      rw [hwrite, hnull] at hback
      cases hback
    | integer | text | blob =>
      rw [hwrite] at hback
      rw [nullable, hback]
      · rfl
      · simp

end Columns
