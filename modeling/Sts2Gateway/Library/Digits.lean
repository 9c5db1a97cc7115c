/-
Decimal digits of a fixed width, and text in ASCII.

* `digits`, `value`: the last digits of a number, and the number of a run of digits;
* `value_digits`, `digits_value`: **the two are inverse** on runs of one width;
* `digits_lt`: digits of one width are ordered as their numbers;
* `padded_eq`: the digits of a number with zeros before them;
* `render`, `render_lt`: fields of fixed widths, ordered as the numbers they write;
* `ascii_bytes`: the bytes of a text in ASCII.
-/
import Mathlib.Tactic

namespace Digits

/-- The last `width` digits of a number, the leading ones first. -/
def digits : ℕ → ℕ → List ℕ
  | 0, _ => []
  | width + 1, n => digits width (n / 10) ++ [n % 10]

/-- The number that a run of digits writes. -/
def value (ds : List ℕ) : ℕ := ds.foldl (fun value digit => value * 10 + digit) 0

@[simp] lemma length_digits (width n : ℕ) : (digits width n).length = width := by
  induction width generalizing n with
  | zero => rfl
  | succ width ih => rw [digits, List.length_append, ih, List.length_singleton]

lemma lt_ten_of_mem_digits {width n d : ℕ} (h : d ∈ digits width n) : d < 10 := by
  induction width generalizing n with
  | zero => cases h
  | succ width ih =>
    rw [digits, List.mem_append, List.mem_singleton] at h
    obtain h | rfl := h
    · exact ih h
    · exact Nat.mod_lt n (by norm_num)

@[simp] lemma value_append_singleton (ds : List ℕ) (d : ℕ) :
    value (ds ++ [d]) = value ds * 10 + d := by
  rw [value, List.foldl_append, List.foldl_cons, List.foldl_nil, value]

/-- The digits of a number write it. -/
lemma value_digits {width n : ℕ} (h : n < 10 ^ width) : value (digits width n) = n := by
  induction width generalizing n with
  | zero =>
    rw [pow_zero] at h
    rw [digits, value, List.foldl_nil]
    omega
  | succ width ih =>
    rw [pow_succ] at h
    rw [digits, value_append_singleton, ih (by omega)]
    omega

/-- A run of digits is the digits of its number. -/
lemma digits_value {ds : List ℕ} (h : ∀ d ∈ ds, d < 10) : digits ds.length (value ds) = ds := by
  induction ds using List.reverseRecOn with
  | nil => rfl
  | append_singleton ds d ih =>
    have hd : d < 10 := h d (by simp)
    have hdiv : (value ds * 10 + d) / 10 = value ds := by omega
    have hmod : (value ds * 10 + d) % 10 = d := by omega
    rw [List.length_append, List.length_singleton, digits, value_append_singleton, hdiv, hmod,
      ih fun d hd => h d (List.mem_append_left _ hd)]

lemma value_lt {ds : List ℕ} (h : ∀ d ∈ ds, d < 10) : value ds < 10 ^ ds.length := by
  induction ds using List.reverseRecOn with
  | nil => exact Nat.one_pos
  | append_singleton ds d ih =>
    have hd : d < 10 := h d (by simp)
    have hds := ih fun d hd => h d (List.mem_append_left _ hd)
    rw [value_append_singleton, List.length_append, List.length_singleton, pow_succ]
    omega

lemma value_append (ds es : List ℕ) : value (ds ++ es) = value ds * 10 ^ es.length + value es := by
  induction es using List.reverseRecOn with
  | nil => simp [value]
  | append_singleton es e ih =>
    rw [← List.append_assoc, value_append_singleton, value_append_singleton, ih,
      List.length_append, List.length_singleton, pow_succ]
    ring

/-- The leading digits of a run are its number without the digits after them. -/
lemma value_take {ds : List ℕ} (h : ∀ d ∈ ds, d < 10) (count : ℕ) :
    value (ds.take count) = value ds / 10 ^ (ds.length - count) := by
  have hrest : value (ds.drop count) < 10 ^ (ds.length - count) := by
    rw [← List.length_drop]
    exact value_lt fun d hd => h d (List.mem_of_mem_drop hd)
  have hsplit : value ds =
      value (ds.take count) * 10 ^ (ds.length - count) + value (ds.drop count) := by
    rw [← List.length_drop, ← value_append, List.take_append_drop]
  rw [hsplit, Nat.add_comm, Nat.add_mul_div_right _ _ (by positivity), Nat.div_eq_of_lt hrest,
    zero_add]

/-! ### Order -/

section Order

variable {α : Type} [LT α] {a b s t : List α}

/-- Runs of one length decide the order of what follows them. -/
lemma append_lt_append (h : a < b) (hlength : a.length = b.length) : a ++ s < b ++ t := by
  induction h with
  | nil => simp at hlength
  | rel hlt => exact .rel hlt
  | cons _ ih =>
    rw [List.length_cons, List.length_cons, Nat.add_right_cancel_iff] at hlength
    exact .cons (ih hlength)

/-- What follows equal runs decides their order. -/
lemma append_lt_append_left (a : List α) (h : s < t) : a ++ s < a ++ t := by
  induction a with
  | nil => exact h
  | cons x a ih => exact .cons ih

end Order

/-- Digits of one width are ordered as their numbers. -/
lemma digits_lt {width n m : ℕ} (h : n < m) (hm : m < 10 ^ width) :
    digits width n < digits width m := by
  induction width generalizing n m with
  | zero =>
    rw [pow_zero] at hm
    omega
  | succ width ih =>
    rw [pow_succ] at hm
    rw [digits, digits]
    obtain hlt | heq := lt_or_eq_of_le (Nat.div_le_div_right (c := 10) h.le)
    · exact append_lt_append (ih hlt (by omega)) (by simp)
    · rw [heq]
      exact append_lt_append_left _ (.rel (by omega))

/-! ### Characters and bytes -/

/-- The byte of a digit. -/
def digitByte (d : ℕ) : UInt8 := UInt8.ofNat (48 + d)

lemma toNat_digitByte {d : ℕ} (h : d < 10) : (digitByte d).toNat = 48 + d := by
  rw [digitByte, UInt8.toNat_ofNat']
  omega

lemma digitByte_toNat_sub {byte : UInt8} (h : 48 ≤ byte.toNat) :
    digitByte (byte.toNat - 48) = byte := by
  rw [digitByte, Nat.add_sub_cancel' h, UInt8.ofNat_toNat]

lemma map_digitByte_lt {s t : List ℕ} (h : s < t) (hs : ∀ d ∈ s, d < 10) (ht : ∀ d ∈ t, d < 10) :
    s.map digitByte < t.map digitByte := by
  induction h with
  | nil => exact .nil
  | @rel a _ b _ hlt =>
    refine .rel ?_
    rw [UInt8.lt_iff_toNat_lt, toNat_digitByte (hs a (by simp)), toNat_digitByte (ht b (by simp))]
    omega
  | cons _ ih =>
    exact .cons (ih (fun d hd => hs d (List.mem_cons_of_mem _ hd))
      fun d hd => ht d (List.mem_cons_of_mem _ hd))

/-- The bytes of a number of a fixed width. -/
def digitBytes (width n : ℕ) : List UInt8 := (digits width n).map digitByte

@[simp] lemma length_digitBytes (width n : ℕ) : (digitBytes width n).length = width := by
  rw [digitBytes, List.length_map, length_digits]

lemma digitBytes_lt {width n m : ℕ} (h : n < m) (hm : m < 10 ^ width) :
    digitBytes width n < digitBytes width m :=
  map_digitByte_lt (digits_lt h hm) (fun _ => lt_ten_of_mem_digits) fun _ => lt_ten_of_mem_digits

/-- The digits of a number, with zeros before them up to a width. -/
lemma padded_eq {width n : ℕ} (hpos : 0 < width) (h : n < 10 ^ width) :
    List.replicate (width - (Nat.toDigits 10 n).length) '0' ++ Nat.toDigits 10 n =
      (digits width n).map Nat.digitChar := by
  induction width generalizing n with
  | zero => omega
  | succ width ih =>
    rw [digits, List.map_append, List.map_singleton]
    obtain hlt | hge := Nat.lt_or_ge n 10
    · have hzero : ∀ width, (digits width 0).map Nat.digitChar = List.replicate width '0' := by
        intro width
        induction width with
        | zero => rfl
        | succ width ih =>
          rw [digits, List.map_append, Nat.zero_div, ih, List.replicate_succ']
          rfl
      rw [Nat.toDigits_of_lt_base hlt, Nat.div_eq_of_lt hlt, Nat.mod_eq_of_lt hlt, hzero,
        List.length_singleton, Nat.add_sub_cancel]
    · have hwidth : 0 < width := by
        by_contra hzero
        obtain rfl : width = 0 := by omega
        rw [zero_add, pow_one] at h
        omega
      rw [pow_succ] at h
      rw [Nat.toDigits_of_base_le (by norm_num) hge, List.length_append, List.length_singleton,
        Nat.add_sub_add_right, ← List.append_assoc, ih hwidth (by omega)]

/-- A character in ASCII takes one byte. -/
lemma utf8EncodeChar_ascii {c : Char} (h : c.toNat < 128) :
    String.utf8EncodeChar c = [UInt8.ofNat c.toNat] := by
  have hsize : c.utf8Size = 1 := by
    rw [Char.utf8Size_eq_one_iff, UInt32.le_iff_toNat_le]
    exact Nat.le_of_lt_succ h
  rw [String.utf8EncodeChar_eq_singleton hsize]
  rfl

/-- The bytes of a text in ASCII. -/
lemma ascii_bytes {chars : List Char} (h : ∀ c ∈ chars, c.toNat < 128) :
    (String.ofList chars).toUTF8.data.toList = chars.map fun c => UInt8.ofNat c.toNat := by
  have hencode : ∀ chars : List Char, (∀ c ∈ chars, c.toNat < 128) →
      chars.utf8Encode.data.toList = chars.map fun c => UInt8.ofNat c.toNat := by
    intro chars
    induction chars with
    | nil => intro _; rfl
    | cons c chars ih =>
      intro h
      rw [List.utf8Encode_cons, ByteArray.data_append, Array.toList_append, List.map_cons,
        ih fun c hc => h c (List.mem_cons_of_mem _ hc), List.utf8Encode_singleton,
        utf8EncodeChar_ascii (h c List.mem_cons_self)]
      rfl
  exact hencode chars h

lemma toNat_digitChar {d : ℕ} (h : d < 10) : (Nat.digitChar d).toNat = 48 + d := by
  interval_cases d <;> rfl

/-! ### Fields -/

/-- Numbers in fields of fixed widths, each with a byte after it. -/
def render : List (ℕ × UInt8) → List ℕ → List UInt8
  | (width, mark) :: shape, n :: ns => digitBytes width n ++ mark :: render shape ns
  | _, _ => []

/-- A number fits each field. -/
def Fits (shape : List (ℕ × UInt8)) (ns : List ℕ) : Prop :=
  List.Forall₂ (fun field n => n < 10 ^ field.1) shape ns

lemma fits_nil : Fits [] [] := .nil

lemma fits_cons {width n : ℕ} {mark : UInt8} {shape : List (ℕ × UInt8)} {ns : List ℕ}
    (h : n < 10 ^ width) (hns : Fits shape ns) : Fits ((width, mark) :: shape) (n :: ns) :=
  .cons h hns

/-- **Fields of fixed widths are ordered as the numbers they write.** -/
theorem render_lt {shape : List (ℕ × UInt8)} {ns ms : List ℕ} (h : ns < ms)
    (hns : Fits shape ns) (hms : Fits shape ms) : render shape ns < render shape ms := by
  induction h generalizing shape with
  | nil =>
    cases hns
    cases hms
  | rel hlt =>
    obtain _ | ⟨hn, hns⟩ := hns
    obtain _ | ⟨hm, hms⟩ := hms
    exact append_lt_append (digitBytes_lt hlt hm) (by simp)
  | cons _ ih =>
    obtain _ | ⟨hn, hns⟩ := hns
    obtain _ | ⟨hm, hms⟩ := hms
    exact append_lt_append_left _ (.cons (ih hns hms))

end Digits
