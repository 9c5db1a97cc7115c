/-
Recovery timestamps round-trip.

* `Timestamp`, `Timestamp.text`, `Timestamp.millis`: a date and a time of day that exist,
  the text that writes them, and their milliseconds with the fraction truncated;
* `Laid`: fields between separators, and what the reader takes from them;
* `parseTimestampMillis_eq_some`: **the reader accepts the texts of timestamps since the
  epoch, and nothing else**;
* `timestampFromMillis_eq`: the text of a millisecond count is the text of a timestamp;
* `recovery_timestamps_round_trip`: what is rendered is read back, in the order of the
  bytes.
-/
import Sts2Gateway.Library.Digits
import Sts2Gateway.Service.CivilDays

namespace Sts2Gateway.Service

open Calendar Digits

/-! ### Timestamps -/

/-- A fraction of a second, and the zone. -/
def fractionChars (fraction : List ℕ) : List Char :=
  if fraction = [] then ['Z'] else '.' :: fraction.map Nat.digitChar ++ ['Z']

def fractionBytes (fraction : List ℕ) : List UInt8 :=
  if fraction = [] then [90] else 46 :: fraction.map digitByte ++ [90]

/-- A date of four digits and a time of day, which exist, and the digits of a fraction of a
second. -/
structure Timestamp where
  date : Date
  hour : ℕ
  minute : ℕ
  second : ℕ
  fraction : List ℕ
  year_le : date.year ≤ 9999
  hour_le : hour ≤ 23
  minute_le : minute ≤ 59
  second_le : second ≤ 59
  fraction_digits : ∀ d ∈ fraction, d < 10
  fraction_length : fraction.length ≤ 9

namespace Timestamp

variable (stamp : Timestamp)

/-- The milliseconds since the epoch, with the fraction truncated. -/
def millis : ℤ :=
  (((((stamp.date.dayNumber : ℤ) - epoch.dayNumber) * 24 + stamp.hour) * 60 + stamp.minute) * 60 +
    stamp.second) * 1000 + (value stamp.fraction * 1000 / 10 ^ stamp.fraction.length : ℕ)

def text : String :=
  String.ofList <|
    padded 4 stamp.date.year ++ '-' :: padded 2 stamp.date.month ++ '-' ::
      padded 2 stamp.date.day ++ 'T' :: padded 2 stamp.hour ++ ':' :: padded 2 stamp.minute ++
      ':' :: padded 2 stamp.second ++ fractionChars stamp.fraction

/-- The fields before the seconds, and the byte after each of them. -/
def fieldShape : List (ℕ × UInt8) := [(4, 45), (2, 45), (2, 84), (2, 58), (2, 58)]

def bytes : List UInt8 :=
  render fieldShape
      [stamp.date.year, stamp.date.month, stamp.date.day, stamp.hour, stamp.minute] ++
    (digitBytes 2 stamp.second ++ fractionBytes stamp.fraction)

end Timestamp

section Ascii

/-- A run of ASCII characters, as bytes. -/
def Encodes (chars : List Char) (bytes : List UInt8) : Prop :=
  (∀ c ∈ chars, c.toNat < 128) ∧ chars.map (fun c => UInt8.ofNat c.toNat) = bytes

variable {chars others : List Char} {bytes more : List UInt8}

lemma Encodes.append (h : Encodes chars bytes) (hother : Encodes others more) :
    Encodes (chars ++ others) (bytes ++ more) := by
  refine ⟨fun c hc => ?_, ?_⟩
  · rw [List.mem_append] at hc
    exact hc.elim (h.1 c) (hother.1 c)
  · rw [List.map_append, h.2, hother.2]

lemma Encodes.cons {c : Char} {byte : UInt8} (hc : c.toNat < 128 := by decide)
    (hbyte : UInt8.ofNat c.toNat = byte := by rfl) (h : Encodes chars bytes) :
    Encodes (c :: chars) (byte :: bytes) := by
  refine ⟨fun d hd => ?_, ?_⟩
  · rw [List.mem_cons] at hd
    exact hd.elim (fun heq => heq ▸ hc) (h.1 d)
  · rw [List.map_cons, h.2, hbyte]

lemma encodes_nil : Encodes [] [] := ⟨fun _ h => (List.not_mem_nil h).elim, rfl⟩

lemma encodes_digits {ds : List ℕ} (h : ∀ d ∈ ds, d < 10) :
    Encodes (ds.map Nat.digitChar) (ds.map digitByte) := by
  refine ⟨fun c hc => ?_, ?_⟩
  · obtain ⟨d, hd, rfl⟩ := List.mem_map.mp hc
    have := h d hd
    rw [toNat_digitChar this]
    omega
  · rw [List.map_map]
    refine List.map_congr_left fun d hd => ?_
    rw [Function.comp_apply, toNat_digitChar (h d hd), digitByte]

lemma encodes_padded {width n : ℕ} (hpos : 0 < width) (h : n < 10 ^ width) :
    Encodes (padded width n) (digitBytes width n) := by
  rw [padded, padded_eq hpos h, digitBytes]
  exact encodes_digits fun _ => lt_ten_of_mem_digits

lemma encodes_fraction {fraction : List ℕ} (h : ∀ d ∈ fraction, d < 10) :
    Encodes (fractionChars fraction) (fractionBytes fraction) := by
  rw [fractionChars, fractionBytes]
  split
  · exact .cons (h := encodes_nil)
  · exact .append (.cons (h := encodes_digits h)) (.cons (h := encodes_nil))

lemma Encodes.toUTF8 (h : Encodes chars bytes) :
    (String.ofList chars).toUTF8.data.toList = bytes := by
  rw [ascii_bytes h.1, h.2]

end Ascii

/-- The bytes of a timestamp's text. -/
lemma Timestamp.text_bytes (stamp : Timestamp) :
    stamp.text.toUTF8.data.toList = stamp.bytes := by
  have hmonth := stamp.date.month_le
  have hday := stamp.date.day_le_thirtyOne
  have hyear := stamp.year_le
  have hhour := stamp.hour_le
  have hminute := stamp.minute_le
  have hsecond := stamp.second_le
  refine Encodes.toUTF8 ?_
  simp only [Timestamp.bytes, Timestamp.fieldShape, render, List.append_assoc, List.cons_append,
    List.nil_append]
  refine .append (encodes_padded (by norm_num) (by omega)) (.cons (h := ?_))
  refine .append (encodes_padded (by norm_num) (by omega)) (.cons (h := ?_))
  refine .append (encodes_padded (by norm_num) (by omega)) (.cons (h := ?_))
  refine .append (encodes_padded (by norm_num) (by omega)) (.cons (h := ?_))
  refine .append (encodes_padded (by norm_num) (by omega)) (.cons (h := ?_))
  exact .append (encodes_padded (by norm_num) (by omega)) (encodes_fraction stamp.fraction_digits)

/-! ### Reading -/

/-- A run of digits is read as the number that it writes. -/
lemma parseDigits_eq_some {bytes : List UInt8} {n : ℕ} :
    parseDigits bytes = some n ↔
      bytes ≠ [] ∧ n < 10 ^ bytes.length ∧ bytes = digitBytes bytes.length n := by
  have hvalue : bytes.foldl (fun value digit => value * 10 + (digit.toNat - 48)) 0 =
      value (bytes.map fun digit => digit.toNat - 48) := by
    rw [value, List.foldl_map]
  have hall : bytes.all isAsciiDigit = true ↔ ∀ b ∈ bytes, 48 ≤ b.toNat ∧ b.toNat ≤ 57 := by
    simp [isAsciiDigit, UInt8.le_iff_toNat_le]
  rw [parseDigits, hvalue]
  constructor
  · intro h
    split_ifs at h with hdigits
    obtain rfl := Option.some.inj h
    rw [Bool.and_eq_true, hall] at hdigits
    have hten : ∀ d ∈ bytes.map fun digit => digit.toNat - 48, d < 10 := by
      rintro d hd
      obtain ⟨b, hb, rfl⟩ := List.mem_map.mp hd
      have := hdigits.2 b hb
      omega
    have hlength : (bytes.map fun digit => digit.toNat - 48).length = bytes.length :=
      List.length_map _
    refine ⟨by simpa using hdigits.1, ?_, ?_⟩
    · rw [← hlength]
      exact value_lt hten
    · rw [digitBytes, ← hlength, digits_value hten, List.map_map]
      have hsame : ∀ b ∈ bytes, (digitByte ∘ fun digit => digit.toNat - 48) b = id b := fun b hb =>
        digitByte_toNat_sub (hdigits.2 b hb).1
      rw [List.map_congr_left hsame, List.map_id]
  · rintro ⟨hne, hlt, hbytes⟩
    have hdigits : ∀ b ∈ bytes, 48 ≤ b.toNat ∧ b.toNat ≤ 57 := by
      intro b hb
      rw [hbytes, digitBytes] at hb
      obtain ⟨d, hd, rfl⟩ := List.mem_map.mp hb
      have := lt_ten_of_mem_digits hd
      rw [toNat_digitByte this]
      omega
    have hmap : (bytes.map fun digit => digit.toNat - 48) = digits bytes.length n := by
      have hsame : ∀ d ∈ digits bytes.length n,
          ((fun digit : UInt8 => digit.toNat - 48) ∘ digitByte) d = id d := by
        intro d hd
        rw [Function.comp_apply, toNat_digitByte (lt_ten_of_mem_digits hd), id]
        omega
      conv_lhs => rw [hbytes, digitBytes, List.map_map, List.map_congr_left hsame, List.map_id]
    rw [if_pos, hmap, value_digits hlt]
    rw [Bool.and_eq_true, hall]
    exact ⟨by simpa using hne, hdigits⟩

/-- The bytes from one index on, up to another one and from there. -/
lemma drop_eq_slice {bytes : List UInt8} {start stop : ℕ} (h : start ≤ stop) :
    bytes.drop start = slice bytes start stop ++ bytes.drop stop := by
  rw [slice, List.drop_take, ← Nat.add_sub_of_le h, ← List.drop_drop, Nat.add_sub_cancel_left,
    List.take_append_drop]

lemma drop_eq_cons {bytes : List UInt8} {start : ℕ} {byte : UInt8} (h : bytes[start]? = some byte) :
    bytes.drop start = byte :: bytes.drop (start + 1) := by
  obtain ⟨hlt, hget⟩ := List.getElem?_eq_some_iff.mp h
  rw [List.drop_eq_getElem_cons hlt, hget]

/-- The bytes around the separators. -/
lemma layout {bytes : List UInt8} (hseparators : hasSeparators bytes) :
    bytes = slice bytes 0 4 ++ 45 :: (slice bytes 5 7 ++ 45 :: (slice bytes 8 10 ++ 84 ::
      (slice bytes 11 13 ++ 58 :: (slice bytes 14 16 ++ 58 :: (slice bytes 17 19 ++
        bytes.drop 19))))) := by
  simp only [hasSeparators, Bool.and_eq_true, beq_iff_eq] at hseparators
  obtain ⟨⟨⟨⟨⟨hyear, hmonth⟩, hday⟩, hhour⟩, hminute⟩, -⟩ := hseparators
  calc bytes
      = bytes.drop 0 := rfl
    _ = slice bytes 0 4 ++ bytes.drop 4 := drop_eq_slice (by norm_num)
    _ = _ := by
      rw [drop_eq_cons hyear, drop_eq_slice (show 5 ≤ 7 by norm_num), drop_eq_cons hmonth,
        drop_eq_slice (show 8 ≤ 10 by norm_num), drop_eq_cons hday,
        drop_eq_slice (show 11 ≤ 13 by norm_num), drop_eq_cons hhour,
        drop_eq_slice (show 14 ≤ 16 by norm_num), drop_eq_cons hminute,
        drop_eq_slice (show 17 ≤ 19 by norm_num)]

section Layout

variable {year month day hour minute second tail bytes : List UInt8}

/-- Fields of the lengths that the reader expects, with the separators between them. -/
structure Laid (year month day hour minute second tail bytes : List UInt8) : Prop where
  length_year : year.length = 4
  length_month : month.length = 2
  length_day : day.length = 2
  length_hour : hour.length = 2
  length_minute : minute.length = 2
  length_second : second.length = 2
  eq_append : bytes = year ++ 45 :: (month ++ 45 :: (day ++ 84 :: (hour ++ 58 :: (minute ++ 58 ::
    (second ++ tail)))))

/-- The bytes of a layout, one by one. -/
lemma Laid.expand (h : Laid year month day hour minute second tail bytes) :
    ∃ y₀ y₁ y₂ y₃ m₀ m₁ d₀ d₁ h₀ h₁ n₀ n₁ s₀ s₁, year = [y₀, y₁, y₂, y₃] ∧ month = [m₀, m₁] ∧
      day = [d₀, d₁] ∧ hour = [h₀, h₁] ∧ minute = [n₀, n₁] ∧ second = [s₀, s₁] ∧
      bytes = y₀ :: y₁ :: y₂ :: y₃ :: 45 :: m₀ :: m₁ :: 45 :: d₀ :: d₁ :: 84 :: h₀ :: h₁ :: 58 ::
        n₀ :: n₁ :: 58 :: s₀ :: s₁ :: tail := by
  obtain ⟨hyear, hmonth, hday, hhour, hminute, hsecond, rfl⟩ := h
  obtain ⟨y₀, y₁, y₂, y₃, rfl⟩ : ∃ a b c d, year = [a, b, c, d] := by
    match year, hyear with
    | [a, b, c, d], _ => exact ⟨a, b, c, d, rfl⟩
  obtain ⟨m₀, m₁, rfl⟩ := List.length_eq_two.mp hmonth
  obtain ⟨d₀, d₁, rfl⟩ := List.length_eq_two.mp hday
  obtain ⟨h₀, h₁, rfl⟩ := List.length_eq_two.mp hhour
  obtain ⟨n₀, n₁, rfl⟩ := List.length_eq_two.mp hminute
  obtain ⟨s₀, s₁, rfl⟩ := List.length_eq_two.mp hsecond
  exact ⟨_, _, _, _, _, _, _, _, _, _, _, _, _, _, rfl, rfl, rfl, rfl, rfl, rfl, rfl⟩

/-- The fields of a layout. -/
lemma Laid.slices (h : Laid year month day hour minute second tail bytes) :
    slice bytes 0 4 = year ∧ slice bytes 5 7 = month ∧ slice bytes 8 10 = day ∧
      slice bytes 11 13 = hour ∧ slice bytes 14 16 = minute ∧ slice bytes 17 19 = second := by
  obtain ⟨_, _, _, _, _, _, _, _, _, _, _, _, _, _, rfl, rfl, rfl, rfl, rfl, rfl, rfl⟩ := h.expand
  exact ⟨rfl, rfl, rfl, rfl, rfl, rfl⟩

/-- What stands before the tail of a layout. -/
lemma Laid.front (h : Laid year month day hour minute second tail bytes) :
    ∃ front, front.length = 19 ∧ bytes = front ++ tail := by
  obtain ⟨_, _, _, _, _, _, _, _, _, _, _, _, _, _, -, -, -, -, -, -, hbytes⟩ := h.expand
  exact ⟨[_, _, _, _, _, _, _, _, _, _, _, _, _, _, _, _, _, _, _], rfl, hbytes⟩

/-- The separators of a layout. -/
lemma Laid.hasSeparators (h : Laid year month day hour minute second tail bytes)
    (hlast : tail.getLast? = some 90) : hasSeparators bytes := by
  obtain ⟨front, -, hfront⟩ := h.front
  have hend : bytes.getLast? = some 90 := by
    rw [hfront, List.getLast?_append, hlast]
    rfl
  obtain ⟨_, _, _, _, _, _, _, _, _, _, _, _, _, _, -, -, -, -, -, -, hbytes⟩ := h.expand
  rw [Service.hasSeparators, hend, hbytes]
  rfl

end Layout

/-- The milliseconds of a fraction are its leading digits, scaled. -/
lemma fractionMillis_digits {ds : List ℕ} (hds : ∀ d ∈ ds, d < 10) (hne : ds ≠ []) :
    (if min ds.length 3 = 1 then value (ds.take (min ds.length 3)) * 100
      else if min ds.length 3 = 2 then value (ds.take (min ds.length 3)) * 10
      else value (ds.take (min ds.length 3))) = value ds * 1000 / 10 ^ ds.length := by
  have hpos : 0 < ds.length := List.length_pos_of_ne_nil hne
  rw [value_take hds]
  obtain hone | htwo | hmany : ds.length = 1 ∨ ds.length = 2 ∨ 3 ≤ ds.length := by omega
  · rw [hone]
    norm_num
    omega
  · rw [htwo]
    norm_num
    omega
  · have hpow : 10 ^ ds.length = 10 ^ (ds.length - 3) * 1000 := by
      rw [← Nat.sub_add_cancel hmany, pow_add, Nat.add_sub_cancel]
      norm_num
    rw [min_eq_right hmany, if_neg (by norm_num), if_neg (by norm_num), hpow,
      Nat.mul_div_mul_right _ _ (by norm_num)]

lemma parseDigits_map {ds : List ℕ} (hds : ∀ d ∈ ds, d < 10) (hne : ds ≠ []) :
    parseDigits (ds.map digitByte) = some (value ds) := by
  refine parseDigits_eq_some.mpr ⟨by simpa using hne, ?_, ?_⟩
  · rw [List.length_map]
    exact value_lt hds
  · rw [digitBytes, List.length_map, digits_value hds]

section Fraction

variable {front tail : List UInt8} {fraction : List ℕ}

/-- The byte after the seconds. -/
lemma getElem?_front (hfront : front.length = 19) {byte : UInt8} :
    (front ++ byte :: tail)[19]? = some byte := by
  rw [List.getElem?_append_right hfront.le, hfront, Nat.sub_self, List.getElem?_cons_zero]

/-- The bytes of the fraction. -/
lemma slice_front (hfront : front.length = 19) {byte last : UInt8} :
    slice (front ++ byte :: (tail ++ [last])) 20
      ((front ++ byte :: (tail ++ [last])).length - 1) = tail := by
  have hsplit : front ++ byte :: (tail ++ [last]) = (front ++ [byte]) ++ tail ++ [last] := by simp
  have hlength : (front ++ [byte]).length = 20 := by
    rw [List.length_append, hfront, List.length_singleton]
  rw [slice, hsplit, List.length_append, List.length_singleton, Nat.add_sub_cancel,
    List.take_left', List.drop_left' hlength]
  rfl

/-- The fraction of a timestamp is read as its milliseconds. -/
lemma fractionMillis_fractionBytes (hfront : front.length = 19) (hds : ∀ d ∈ fraction, d < 10)
    (hlength : fraction.length ≤ 9) :
    fractionMillis (front ++ fractionBytes fraction) =
      some (value fraction * 1000 / 10 ^ fraction.length) := by
  rw [fractionMillis, fractionBytes]
  by_cases hnil : fraction = []
  · subst hnil
    rw [if_pos rfl, getElem?_front hfront, if_pos (beq_self_eq_true _), List.length_append, hfront]
    rfl
  · have hpos := List.length_pos_of_ne_nil hnil
    have htake : (fraction.map digitByte).take (min fraction.length 3) =
        (fraction.take (min fraction.length 3)).map digitByte := List.map_take.symm
    have hall : (fraction.map digitByte).all isAsciiDigit = true := by
      rw [List.all_map, List.all_eq_true]
      intro d hd
      have := hds d hd
      rw [Function.comp_apply, isAsciiDigit, Bool.and_eq_true, decide_eq_true_eq,
        decide_eq_true_eq, UInt8.le_iff_toNat_le, UInt8.le_iff_toNat_le, toNat_digitByte this]
      exact ⟨by simp, by simp; omega⟩
    rw [if_neg hnil, List.cons_append, getElem?_front hfront, if_neg (by decide),
      if_neg (by simp [hfront]; omega), slice_front hfront]
    dsimp only
    rw [if_neg (by simp [hnil, hall, hlength]), List.length_map, htake,
      parseDigits_map (fun d hd => hds d (List.mem_of_mem_take hd)) (by simp [hnil])]
    exact congrArg some (fractionMillis_digits hds hnil)

/-- What is read as a fraction is one. -/
lemma fractionBytes_of_fractionMillis (hfront : front.length = 19) {millis : ℕ}
    (hlast : (front ++ tail).getLast? = some 90)
    (h : fractionMillis (front ++ tail) = some millis) :
    ∃ fraction : List ℕ, (∀ d ∈ fraction, d < 10) ∧ fraction.length ≤ 9 ∧
      tail = fractionBytes fraction := by
  obtain _ | ⟨byte, rest⟩ := tail
  · rw [List.append_nil, fractionMillis, List.getElem?_eq_none hfront.le] at h
    simp at h
  rw [fractionMillis, getElem?_front hfront] at h
  by_cases hzone : byte = 90
  · subst hzone
    rw [if_pos (beq_self_eq_true _)] at h
    split_ifs at h with hlength
    obtain rfl : rest = [] := by
      rw [List.length_append, List.length_cons, hfront] at hlength
      exact List.length_eq_zero_iff.mp (by omega)
    exact ⟨[], by simp, by simp, rfl⟩
  · rw [if_neg (by simpa using hzone)] at h
    split_ifs at h with hdot
    rw [not_or, not_not, Option.some.injEq, List.length_append, List.length_cons, hfront] at hdot
    obtain ⟨rfl, hlong⟩ := hdot
    obtain ⟨digitsOf, last, rfl⟩ : ∃ ds last, rest = ds ++ [last] := by
      refine ⟨rest.dropLast, rest.getLast (by rintro rfl; simp at hlong), ?_⟩
      exact (List.dropLast_append_getLast _).symm
    rw [List.getLast?_append_of_ne_nil _ (by simp), ← List.cons_append, List.getLast?_concat,
      Option.some.injEq] at hlast
    subst hlast
    rw [slice_front hfront] at h
    dsimp only at h
    split at h
    · cases h
    rename_i hdigits
    simp only [Bool.or_eq_true, not_or, decide_eq_true_eq, not_lt, Bool.not_eq_true',
      Bool.not_eq_false, List.all_eq_true] at hdigits
    obtain ⟨⟨hne, hnine⟩, hall⟩ := hdigits
    have hbyte : ∀ b ∈ digitsOf, 48 ≤ b.toNat ∧ b.toNat ≤ 57 := by
      intro b hb
      have := hall b hb
      simpa [isAsciiDigit, UInt8.le_iff_toNat_le] using this
    have hsame : ∀ b ∈ digitsOf, (digitByte ∘ fun digit => digit.toNat - 48) b = id b :=
      fun b hb => digitByte_toNat_sub (hbyte b hb).1
    refine ⟨digitsOf.map fun digit => digit.toNat - 48, ?_, by rwa [List.length_map], ?_⟩
    · intro d hd
      obtain ⟨b, hb, rfl⟩ := List.mem_map.mp hd
      have := hbyte b hb
      omega
    · rw [fractionBytes, if_neg (by simpa using hne), List.map_map, List.map_congr_left hsame,
        List.map_id, List.cons_append]

end Fraction

/-- The length of a month in the source. -/
lemma daysInMonth_eq {year month : ℕ} (hpos : 1 ≤ month) (hle : month ≤ 12) :
    daysInMonth year month = monthLength year month := by
  rw [daysInMonth, monthLength, monthLengths]
  by_cases hleap : IsLeap year
  · have hsource : year % 4 = 0 ∧ (year % 100 ≠ 0 ∨ year % 400 = 0) := hleap
    rw [if_pos hleap, if_pos hsource]
    interval_cases month <;> rfl
  · have hsource : ¬ (year % 4 = 0 ∧ (year % 100 ≠ 0 ∨ year % 400 = 0)) := hleap
    rw [if_neg hleap, if_neg hsource]
    interval_cases month <;> rfl

lemma guard_eq_some {p : Prop} [Decidable p] {u : Unit} : (guard p : Option Unit) = some u ↔ p := by
  by_cases h : p <;> simp [guard, h, failure]

/-- Equal bytes are the same text. -/
lemma text_ext {first second : String}
    (h : first.toUTF8.data.toList = second.toUTF8.data.toList) : first = second :=
  String.toByteArray_inj.mp (ByteArray.ext (Array.toList_inj.mp h))

lemma fraction_lt {fraction : List ℕ} (h : ∀ d ∈ fraction, d < 10) :
    value fraction * 1000 / 10 ^ fraction.length < 1000 := by
  rw [Nat.div_lt_iff_lt_mul (by positivity), Nat.mul_comm]
  exact Nat.mul_lt_mul_of_pos_left (value_lt h) (by norm_num)

/-- A field that is read is the digits of its number. -/
lemma slice_eq_digitBytes {bytes : List UInt8} {start stop n : ℕ} (hstop : stop ≤ bytes.length)
    (hn : parseDigits (slice bytes start stop) = some n) :
    n < 10 ^ (stop - start) ∧ slice bytes start stop = digitBytes (stop - start) n := by
  have hlength : (slice bytes start stop).length = stop - start := by
    rw [slice, List.length_drop, List.length_take, min_eq_left hstop]
  obtain ⟨-, hlt, heq⟩ := parseDigits_eq_some.mp hn
  rw [hlength] at hlt heq
  exact ⟨hlt, heq⟩

lemma parseDigits_digitBytes {width n : ℕ} (hpos : 0 < width) (h : n < 10 ^ width) :
    parseDigits (digitBytes width n) = some n := by
  refine parseDigits_eq_some.mpr ⟨?_, ?_, ?_⟩
  · exact List.ne_nil_of_length_pos (by rwa [length_digitBytes])
  · rwa [length_digitBytes]
  · rw [length_digitBytes]

/-- The bytes of a timestamp around its separators. -/
lemma Timestamp.laid (stamp : Timestamp) :
    Laid (digitBytes 4 stamp.date.year) (digitBytes 2 stamp.date.month)
      (digitBytes 2 stamp.date.day) (digitBytes 2 stamp.hour) (digitBytes 2 stamp.minute)
      (digitBytes 2 stamp.second) (fractionBytes stamp.fraction) stamp.bytes where
  length_year := length_digitBytes _ _
  length_month := length_digitBytes _ _
  length_day := length_digitBytes _ _
  length_hour := length_digitBytes _ _
  length_minute := length_digitBytes _ _
  length_second := length_digitBytes _ _
  eq_append := by
    simp only [Timestamp.bytes, Timestamp.fieldShape, render, List.append_assoc, List.cons_append,
      List.nil_append]

lemma getLast?_fractionBytes (fraction : List ℕ) :
    (fractionBytes fraction).getLast? = some 90 := by
  rw [fractionBytes]
  split
  · rfl
  · exact List.getLast?_concat

lemma length_fractionBytes {fraction : List ℕ} (h : fraction.length ≤ 9) :
    1 ≤ (fractionBytes fraction).length ∧ (fractionBytes fraction).length ≤ 11 := by
  rw [fractionBytes]
  split
  · exact ⟨le_rfl, by norm_num⟩
  · simp
    omega

section Reading

variable {bytes : List UInt8} {year month day hour minute second : ℕ}

/-- What passes the checks of the reader is the bytes of a timestamp. -/
lemma stamp_of_fields (hmin : 20 ≤ bytes.length) (hseparators : hasSeparators bytes)
    (hyear : parseDigits (slice bytes 0 4) = some year)
    (hmonth : parseDigits (slice bytes 5 7) = some month)
    (hday : parseDigits (slice bytes 8 10) = some day)
    (hhour : parseDigits (slice bytes 11 13) = some hour)
    (hminute : parseDigits (slice bytes 14 16) = some minute)
    (hsecond : parseDigits (slice bytes 17 19) = some second)
    (hranges : 1 ≤ month ∧ month ≤ 12 ∧ day ≠ 0 ∧ day ≤ daysInMonth year month ∧ hour ≤ 23 ∧
      minute ≤ 59 ∧ second ≤ 59)
    {fraction : ℕ} (hfraction : fractionMillis bytes = some fraction) :
    ∃ stamp : Timestamp, bytes = stamp.bytes ∧ stamp.date.year = year ∧
      stamp.date.month = month ∧ stamp.date.day = day ∧ stamp.hour = hour ∧
      stamp.minute = minute ∧ stamp.second = second ∧
      value stamp.fraction * 1000 / 10 ^ stamp.fraction.length = fraction := by
  obtain ⟨hmonthPos, hmonthLe, hdayPos, hdayLe, hhourLe, hminuteLe, hsecondLe⟩ := hranges
  have hsplit : bytes.take 19 ++ bytes.drop 19 = bytes := List.take_append_drop 19 bytes
  have hfront : (bytes.take 19).length = 19 := by
    rw [List.length_take]
    omega
  have hlast : bytes.getLast? = some 90 := by
    simp only [hasSeparators, Bool.and_eq_true, beq_iff_eq] at hseparators
    exact hseparators.2
  obtain ⟨ds, hds, hnine, htail⟩ := fractionBytes_of_fractionMillis hfront
    (hsplit.symm ▸ hlast) (hsplit.symm ▸ hfraction)
  have hmillis := fractionMillis_fractionBytes hfront hds hnine
  rw [← htail, hsplit, hfraction, Option.some.injEq] at hmillis
  obtain ⟨hyearLt, hyearEq⟩ := slice_eq_digitBytes (by omega) hyear
  have hyearLe : year ≤ 9999 := by omega
  let date : Date := ⟨year, month, day, hmonthPos, hmonthLe, by omega,
    daysInMonth_eq hmonthPos hmonthLe ▸ hdayLe⟩
  refine ⟨⟨date, hour, minute, second, ds, hyearLe, hhourLe, hminuteLe, hsecondLe, hds, hnine⟩,
    ?_, rfl, rfl, rfl, rfl, rfl, rfl, hmillis.symm⟩
  rw [(Timestamp.laid _).eq_append]
  conv_lhs => rw [layout hseparators, hyearEq, (slice_eq_digitBytes (by omega) hmonth).2,
    (slice_eq_digitBytes (by omega) hday).2, (slice_eq_digitBytes (by omega) hhour).2,
    (slice_eq_digitBytes (by omega) hminute).2, (slice_eq_digitBytes (by omega) hsecond).2, htail]

end Reading

/-- **The reader** accepts the texts of timestamps since the epoch, and nothing else; it
answers with their milliseconds. -/
theorem parseTimestampMillis_eq_some {value : String} {millis : ℕ} :
    parseTimestampMillis value = some millis ↔
      ∃ stamp : Timestamp, value = stamp.text ∧ (millis : ℤ) = stamp.millis := by
  simp only [parseTimestampMillis, Option.bind_eq_bind, Option.bind_eq_some_iff, Option.pure_def,
    Option.some.injEq, guard_eq_some, exists_const]
  constructor
  · rintro ⟨⟨hmin, -, hseparators⟩, year, hyear, month, hmonth, day, hday, hour, hhour, minute,
      hminute, second, hsecond, hranges, fraction, hfraction, hdays, hmillis⟩
    obtain ⟨stamp, hbytes, rfl, rfl, rfl, rfl, rfl, rfl, rfl⟩ := stamp_of_fields hmin hseparators
      hyear hmonth hday hhour hminute hsecond hranges hfraction
    refine ⟨stamp, text_ext (hbytes.trans stamp.text_bytes.symm), ?_⟩
    rw [daysFromCivil_eq] at hdays hmillis
    rw [Timestamp.millis, ← hmillis]
    push_cast
    rw [Int.toNat_of_nonneg hdays]
    ring
  · rintro ⟨stamp, rfl, hmillis⟩
    have hlaid := stamp.laid
    obtain ⟨front, hfront, hsplit⟩ := hlaid.front
    obtain ⟨hyear, hmonth, hday, hhour, hminute, hsecond⟩ := hlaid.slices
    obtain ⟨hshort, hlong⟩ := length_fractionBytes stamp.fraction_length
    have hlength : stamp.bytes.length = 19 + (fractionBytes stamp.fraction).length := by
      rw [hsplit, List.length_append, hfront]
    have hfraction := fraction_lt stamp.fraction_digits
    have hdayLe := stamp.date.day_le_thirtyOne
    have hmonthLe := stamp.date.month_le
    have hyearLe := stamp.year_le
    have hhourLe := stamp.hour_le
    have hminuteLe := stamp.minute_le
    have hsecondLe := stamp.second_le
    rw [Timestamp.millis] at hmillis
    have hdays : 0 ≤ (stamp.date.dayNumber : ℤ) - epoch.dayNumber := by omega
    rw [stamp.text_bytes, hyear, hmonth, hday, hhour, hminute, hsecond]
    refine ⟨⟨by omega, by omega, hlaid.hasSeparators (getLast?_fractionBytes _)⟩, _,
      parseDigits_digitBytes (by norm_num) (by omega), _,
      parseDigits_digitBytes (by norm_num) (by omega), _,
      parseDigits_digitBytes (by norm_num) (by omega), _,
      parseDigits_digitBytes (by norm_num) (by omega), _,
      parseDigits_digitBytes (by norm_num) (by omega), _,
      parseDigits_digitBytes (by norm_num) (by omega),
      ⟨stamp.date.month_pos, hmonthLe, ?_, ?_, hhourLe, hminuteLe, hsecondLe⟩, _,
      hsplit ▸ fractionMillis_fractionBytes hfront stamp.fraction_digits stamp.fraction_length,
      ?_, ?_⟩
    · have := stamp.date.day_pos
      omega
    · rw [daysInMonth_eq stamp.date.month_pos hmonthLe]
      exact stamp.date.day_le
    · rwa [daysFromCivil_eq]
    · rw [daysFromCivil_eq]
      omega

/-! ### Rendering -/

/-- The first millisecond of the year 10000. -/
def yearTenThousand : ℕ := (yearStart 10000 - epoch.dayNumber) * 86400000

lemma yearStart_tenThousand : yearStart 10000 = 3652425 := by
  have := yearStart_eq 10000
  omega

lemma yearTenThousand_eq : yearTenThousand = 253402300800000 := by
  have hdays : yearStart 10000 - epoch.dayNumber = 2932897 := by
    rw [epoch_dayNumber, yearStart_tenThousand]
  calc yearTenThousand
      = (yearStart 10000 - epoch.dayNumber) * 86400000 := rfl
    _ = 2932897 * 86400000 := congrArg (· * 86400000) hdays
    _ = 253402300800000 := by norm_num

/-- The fields of a rendered timestamp. -/
def stampShape : List (ℕ × UInt8) := Timestamp.fieldShape ++ [(2, 46), (3, 90)]

/-- The hour, the minute, the second and the millisecond of the day. -/
def timeOfDay (millis : ℕ) : List ℕ :=
  [millis / 1000 % 86400 / 3600, millis / 1000 % 86400 / 60 % 60, millis / 1000 % 86400 % 60,
    millis % 1000]

section Rendering

variable {millis : ℕ}

/-- The day of a millisecond count before the year 10000 is the day of a date of four digits. -/
lemma exists_date (h : millis < yearTenThousand) :
    ∃ date : Date, civilFromDays (millis / 1000 / 86400) = (date.year, date.month, date.day) ∧
      date.dayNumber = millis / 1000 / 86400 + epoch.dayNumber ∧ date.year ≤ 9999 := by
  obtain ⟨date, hcivil, hnumber⟩ := civilFromDays_eq (millis / 1000 / 86400)
  refine ⟨date, hcivil, hnumber, ?_⟩
  by_contra hlate
  have hmono := yearStart_strictMono.monotone (show 10000 ≤ date.year by omega)
  rw [yearTenThousand_eq] at h
  rw [yearStart_tenThousand] at hmono
  rw [Date.dayNumber, epoch_dayNumber] at hnumber
  omega

/-- **What is rendered** is the text of a timestamp, which has the milliseconds that were
given, and whose fields are the date and the time of day. -/
theorem timestampFromMillis_eq (h : millis < yearTenThousand) :
    ∃ stamp : Timestamp, timestampFromMillis millis = stamp.text ∧ stamp.millis = millis ∧
      stamp.date.dayNumber = millis / 1000 / 86400 + epoch.dayNumber ∧
      stamp.bytes = render stampShape
        (stamp.date.year :: stamp.date.month :: stamp.date.day :: timeOfDay millis) := by
  obtain ⟨date, hcivil, hnumber, hyear⟩ := exists_date h
  have hvalue : value (digits 3 (millis % 1000)) = millis % 1000 :=
    value_digits (Nat.mod_lt millis (by norm_num))
  let stamp : Timestamp :=
    { date := date
      hour := millis / 1000 % 86400 / 3600
      minute := millis / 1000 % 86400 / 60 % 60
      second := millis / 1000 % 86400 % 60
      fraction := digits 3 (millis % 1000)
      year_le := hyear
      hour_le := by omega
      minute_le := by omega
      second_le := by omega
      fraction_digits := fun _ => lt_ten_of_mem_digits
      fraction_length := by rw [length_digits]; norm_num }
  have hne : digits 3 (millis % 1000) ≠ [] :=
    List.ne_nil_of_length_pos (by rw [length_digits]; norm_num)
  refine ⟨stamp, ?_, ?_, hnumber, ?_⟩
  · have hpadded : padded 3 (millis % 1000) = (digits 3 (millis % 1000)).map Nat.digitChar :=
      padded_eq (by norm_num) (Nat.mod_lt millis (by norm_num))
    rw [timestampFromMillis, Timestamp.text]
    dsimp only [stamp]
    rw [hcivil, fractionChars, if_neg hne, ← hpadded]
    simp only [List.append_assoc, List.cons_append]
  · rw [Timestamp.millis]
    dsimp only [stamp]
    rw [hvalue, length_digits, hnumber]
    omega
  · simp only [Timestamp.bytes, Timestamp.fieldShape, stampShape, timeOfDay, render,
      fractionBytes, stamp, if_neg hne, digitBytes, List.append_assoc, List.cons_append,
      List.nil_append]

/-- The fields of a rendered timestamp have their widths. -/
lemma fits_stampShape {date : Date} (hyear : date.year ≤ 9999) :
    Fits stampShape (date.year :: date.month :: date.day :: timeOfDay millis) := by
  have hmonth := date.month_le
  have hday := date.day_le_thirtyOne
  exact fits_cons (by omega) (fits_cons (by omega) (fits_cons (by omega) (fits_cons (by omega)
    (fits_cons (by omega) (fits_cons (by omega) (fits_cons (by omega) fits_nil))))))

/-- A later millisecond has a later date, or a later time of the same day. -/
lemma fields_lt {first second : ℕ} (h : first < second) {date later : Date}
    (hdate : date.dayNumber = first / 1000 / 86400 + epoch.dayNumber)
    (hlater : later.dayNumber = second / 1000 / 86400 + epoch.dayNumber) :
    date.year :: date.month :: date.day :: timeOfDay first <
      later.year :: later.month :: later.day :: timeOfDay second := by
  obtain hlt | heq := Nat.lt_or_eq_of_le (show first / 1000 / 86400 ≤ second / 1000 / 86400 by
    omega)
  · have hbefore : date.Before later := Date.dayNumber_lt.mp (by omega)
    rw [Date.Before] at hbefore
    simp only [List.cons_lt_cons_iff]
    tauto
  · obtain rfl : date = later := Date.ext_dayNumber (by omega)
    simp only [timeOfDay, List.cons_lt_cons_iff, lt_irrefl, false_or, true_and]
    omega

end Rendering

/-- **Recovery timestamps round-trip**: up to the end of the year 9999 a rendered timestamp is
read as its milliseconds, and the bytes of later timestamps are greater; and the reader
accepts just the texts of the dates and times of day that exist, with their milliseconds. -/
theorem recovery_timestamps_round_trip :
    (∀ millis < yearTenThousand,
      parseTimestampMillis (timestampFromMillis millis) = some millis) ∧
    (∀ first second, first < second → second < yearTenThousand →
      (timestampFromMillis first).toUTF8.data.toList <
        (timestampFromMillis second).toUTF8.data.toList) ∧
    ∀ value millis, parseTimestampMillis value = some millis ↔
      ∃ stamp : Timestamp, value = stamp.text ∧ (millis : ℤ) = stamp.millis := by
  refine ⟨fun millis h => ?_, fun first second hlt h => ?_, fun _ _ =>
    parseTimestampMillis_eq_some⟩
  · obtain ⟨stamp, htext, hmillis, -⟩ := timestampFromMillis_eq h
    exact parseTimestampMillis_eq_some.mpr ⟨stamp, htext, hmillis.symm⟩
  · obtain ⟨stamp, htext, -, hdate, hbytes⟩ := timestampFromMillis_eq (hlt.trans h)
    obtain ⟨later, htextLater, -, hlater, hbytesLater⟩ := timestampFromMillis_eq h
    rw [htext, htextLater, stamp.text_bytes, later.text_bytes, hbytes, hbytesLater]
    exact render_lt (fields_lt hlt hdate hlater) (fits_stampShape stamp.year_le)
      (fits_stampShape later.year_le)

end Sts2Gateway.Service
