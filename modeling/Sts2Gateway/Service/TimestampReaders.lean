/-
The two readers of the recovery timestamps.

* `Timestamp.undotted`: the text of a timestamp with a digit where its fraction has the dot;
* `HostLease.parseTimestampMillis_eq_some`: **the reader of the host lease frames** accepts the
  texts of timestamps since the epoch, and these;
* `timestamp_readers_agree_iff`: the readers agree on every other text;
* `undotted_read_by_host`: a text that one of them reads and the other does not.
-/
import Sts2Gateway.Service.TimestampRoundTrip

namespace Sts2Gateway.Service

open Calendar Digits

/-! ### A digit in the place of the dot -/

namespace Timestamp

variable (stamp : Timestamp)

/-- The date and the time of day. -/
def frontChars : List Char :=
  padded 4 stamp.date.year ++ '-' :: padded 2 stamp.date.month ++ '-' :: padded 2 stamp.date.day ++
    'T' :: padded 2 stamp.hour ++ ':' :: padded 2 stamp.minute ++ ':' :: padded 2 stamp.second

/-- The text with a digit in the place of the dot. -/
def undotted (digit : ℕ) : String :=
  String.ofList (stamp.frontChars ++
    Nat.digitChar digit :: (stamp.fraction.map Nat.digitChar ++ ['Z']))

def frontBytes : List UInt8 :=
  render fieldShape
      [stamp.date.year, stamp.date.month, stamp.date.day, stamp.hour, stamp.minute] ++
    digitBytes 2 stamp.second

lemma bytes_eq : stamp.bytes = stamp.frontBytes ++ fractionBytes stamp.fraction := by
  rw [bytes, frontBytes, List.append_assoc]

lemma length_frontBytes : stamp.frontBytes.length = 19 := by
  simp [frontBytes, fieldShape, render]

lemma encodes_frontChars : Encodes stamp.frontChars stamp.frontBytes := by
  have hmonth := stamp.date.month_le
  have hday := stamp.date.day_le_thirtyOne
  have hyear := stamp.year_le
  have hhour := stamp.hour_le
  have hminute := stamp.minute_le
  have hsecond := stamp.second_le
  simp only [frontChars, frontBytes, fieldShape, render, List.append_assoc, List.cons_append,
    List.nil_append]
  refine .append (encodes_padded (by norm_num) (by omega)) (.cons (h := ?_))
  refine .append (encodes_padded (by norm_num) (by omega)) (.cons (h := ?_))
  refine .append (encodes_padded (by norm_num) (by omega)) (.cons (h := ?_))
  refine .append (encodes_padded (by norm_num) (by omega)) (.cons (h := ?_))
  refine .append (encodes_padded (by norm_num) (by omega)) (.cons (h := ?_))
  exact encodes_padded (by norm_num) (by omega)

/-- The bytes of the text without the dot. -/
lemma undotted_bytes {digit : ℕ} (h : digit < 10) :
    (stamp.undotted digit).toUTF8.data.toList =
      stamp.frontBytes ++ digitByte digit :: (stamp.fraction.map digitByte ++ [90]) := by
  refine Encodes.toUTF8 (stamp.encodes_frontChars.append (.cons ?_ ?_ (.append
    (encodes_digits stamp.fraction_digits) (.cons (h := encodes_nil)))))
  · rw [toNat_digitChar h]
    omega
  · rw [toNat_digitChar h, digitByte]

end Timestamp

/-! ### The fields -/

lemma isAsciiDigit_digitByte {d : ℕ} (h : d < 10) : isAsciiDigit (digitByte d) = true := by
  have h48 : (48 : UInt8).toNat = 48 := rfl
  have h57 : (57 : UInt8).toNat = 57 := rfl
  rw [isAsciiDigit, Bool.and_eq_true, decide_eq_true_eq, decide_eq_true_eq, UInt8.le_iff_toNat_le,
    UInt8.le_iff_toNat_le, toNat_digitByte h]
  omega

/-- Between its separators the date and the time of day have digits. -/
lemma Timestamp.digit_of_front (stamp : Timestamp) {index : ℕ} {byte : UInt8}
    (h : stamp.frontBytes[index]? = some byte) :
    index ∈ [4, 7, 10, 13, 16] ∨ isAsciiDigit byte = true := by
  have hlaid : Laid (digitBytes 4 stamp.date.year) (digitBytes 2 stamp.date.month)
      (digitBytes 2 stamp.date.day) (digitBytes 2 stamp.hour) (digitBytes 2 stamp.minute)
      (digitBytes 2 stamp.second) [] stamp.frontBytes := by
    refine ⟨length_digitBytes _ _, length_digitBytes _ _, length_digitBytes _ _,
      length_digitBytes _ _, length_digitBytes _ _, length_digitBytes _ _, ?_⟩
    simp only [frontBytes, fieldShape, render, List.append_assoc, List.cons_append,
      List.nil_append, List.append_nil]
  have hdigits : ∀ width n, ∀ b ∈ digitBytes width n, isAsciiDigit b = true := by
    intro width n b hb
    obtain ⟨d, hd, rfl⟩ := List.mem_map.mp hb
    exact isAsciiDigit_digitByte (lt_ten_of_mem_digits hd)
  have hyear := hdigits 4 stamp.date.year
  have hmonth := hdigits 2 stamp.date.month
  have hday := hdigits 2 stamp.date.day
  have hhour := hdigits 2 stamp.hour
  have hminute := hdigits 2 stamp.minute
  have hsecond := hdigits 2 stamp.second
  obtain ⟨_, _, _, _, _, _, _, _, _, _, _, _, _, _, eyear, emonth, eday, ehour, eminute, esecond,
    hbytes⟩ := hlaid.expand
  rw [eyear] at hyear
  rw [emonth] at hmonth
  rw [eday] at hday
  rw [ehour] at hhour
  rw [eminute] at hminute
  rw [esecond] at hsecond
  simp only [List.forall_mem_cons] at hyear hmonth hday hhour hminute hsecond
  have hindex : index < 19 := by
    rw [← stamp.length_frontBytes]
    exact (List.getElem?_eq_some_iff.mp h).1
  rw [hbytes] at h
  interval_cases index
  all_goals first
    | exact .inl (by decide)
    | (obtain rfl := Option.some.inj h
       right
       simp_all only)

section Fields

variable {front tail other : List UInt8}

/-- What stands before the seconds' end does not depend on what follows. -/
lemma slice_append (hfront : front.length = 19) {start stop : ℕ} (h : stop ≤ 19) :
    slice (front ++ tail) start stop = slice (front ++ other) start stop := by
  rw [slice, slice, List.take_append_of_le_length (by omega),
    List.take_append_of_le_length (by omega)]

lemma hasSeparators_append (hfront : front.length = 19)
    (hlast : tail.getLast? = other.getLast?) (hne : tail ≠ []) (hother : other ≠ []) :
    hasSeparators (front ++ tail) = hasSeparators (front ++ other) := by
  have hsame : ∀ index < 19, (front ++ tail)[index]? = (front ++ other)[index]? := by
    intro index h
    rw [List.getElem?_append_left (by omega), List.getElem?_append_left (by omega)]
  rw [hasSeparators, hasSeparators, hsame 4 (by norm_num), hsame 7 (by norm_num),
    hsame 10 (by norm_num), hsame 13 (by norm_num), hsame 16 (by norm_num),
    List.getLast?_append_of_ne_nil _ hne, List.getLast?_append_of_ne_nil _ hother, hlast]

end Fields

/-- The digits of a fraction are those of its bytes. -/
lemma fractionBytes_inj {ds es : List ℕ} (hds : ∀ d ∈ ds, d < 10) (hes : ∀ d ∈ es, d < 10)
    (h : fractionBytes ds = fractionBytes es) : ds = es := by
  have hmap : ∀ l : List ℕ, (∀ d ∈ l, d < 10) →
      (l.map digitByte).map (fun byte => byte.toNat - 48) = l := by
    intro l hl
    rw [List.map_map]
    conv_rhs => rw [← List.map_id l]
    refine List.map_congr_left fun d hd => ?_
    rw [Function.comp_apply, toNat_digitByte (hl d hd), id]
    omega
  rw [fractionBytes, fractionBytes] at h
  split_ifs at h with hnil hnil' hnil'
  · rw [hnil, hnil']
  · cases (List.cons.inj h).1
  · cases (List.cons.inj h).1
  · rw [List.cons_append, List.cons_append, List.cons.injEq] at h
    have hdigits := List.append_cancel_right h.2
    rw [← hmap ds hds, ← hmap es hes, hdigits]

/-! ### The reader of the host lease frames -/

namespace HostLease

/-- The milliseconds of a fraction, scaled and cut off. -/
lemma fractionMillis_digits {ds : List ℕ} :
    (if 3 < ds.length then value ds * 10 ^ (3 - ds.length) / 10 ^ (ds.length - 3)
      else value ds * 10 ^ (3 - ds.length)) = value ds * 1000 / 10 ^ ds.length := by
  split_ifs with hlong
  · have hpow : 10 ^ ds.length = 10 ^ (ds.length - 3) * 1000 := by
      rw [← Nat.sub_add_cancel hlong.le, pow_add, Nat.add_sub_cancel]
      norm_num
    rw [Nat.sub_eq_zero_of_le hlong.le, pow_zero, mul_one, hpow,
      Nat.mul_div_mul_right _ _ (by norm_num)]
  · have hpow : 1000 = 10 ^ (3 - ds.length) * 10 ^ ds.length := by
      rw [← pow_add, Nat.sub_add_cancel (by omega)]
      norm_num
    rw [hpow, ← mul_assoc, Nat.mul_div_cancel _ (by positivity)]

section Fraction

variable {front : List UInt8} {ds : List ℕ}

/-- A fraction of digits is read, whatever byte stands before it. -/
lemma fractionMillis_append (hfront : front.length = 19) (hds : ∀ d ∈ ds, d < 10) (hne : ds ≠ [])
    (byte : UInt8) :
    fractionMillis (front ++ byte :: (ds.map digitByte ++ [90])) =
      some (value ds * 1000 / 10 ^ ds.length) := by
  have hpos := List.length_pos_of_ne_nil hne
  rw [fractionMillis, if_neg (by simp [hfront]; omega), slice_front hfront]
  dsimp only
  rw [parseDigits_map hds hne]
  simp only [Option.bind_eq_bind, Option.bind_some, List.length_map, Option.pure_def]
  rw [fractionMillis_digits]

/-- What is read as a fraction is the end of a timestamp, but for the byte before it. -/
lemma exists_fraction {tail : List UInt8} (hfront : front.length = 19)
    (hmin : 20 ≤ (front ++ tail).length) (hmax : (front ++ tail).length ≤ 30)
    (hlast : (front ++ tail).getLast? = some 90)
    (hbyte : ∀ byte, (front ++ tail)[19]? = some byte → (front ++ tail).length ≠ 20 →
      isAsciiDigit byte = true ∨ byte = 46) {millis : ℕ}
    (h : fractionMillis (front ++ tail) = some millis) :
    ∃ ds : List ℕ, (∀ d ∈ ds, d < 10) ∧ ds.length ≤ 9 ∧
      millis = value ds * 1000 / 10 ^ ds.length ∧
      (tail = fractionBytes ds ∨
        ds ≠ [] ∧ ∃ digit < 10, tail = digitByte digit :: (ds.map digitByte ++ [90])) := by
  obtain _ | ⟨byte, rest⟩ := tail
  · rw [List.append_nil] at hmin
    omega
  obtain rfl | hne := eq_or_ne rest []
  · have hlength : (front ++ [byte]).length = 20 := by rw [List.length_append, hfront]; rfl
    rw [fractionMillis, if_pos hlength, Option.some.injEq] at h
    rw [List.getLast?_concat, Option.some.injEq] at hlast
    subst hlast
    exact ⟨[], by simp, by simp, h.symm, .inl rfl⟩
  obtain ⟨digitsOf, last, rfl⟩ : ∃ ds last, rest = ds ++ [last] :=
    ⟨rest.dropLast, rest.getLast hne, (List.dropLast_append_getLast hne).symm⟩
  rw [List.getLast?_append_of_ne_nil _ (by simp), ← List.cons_append, List.getLast?_concat,
    Option.some.injEq] at hlast
  subst hlast
  have hlength : (front ++ byte :: (digitsOf ++ [90])).length = 21 + digitsOf.length := by
    simp [hfront]
    omega
  have hread := h
  rw [fractionMillis, if_neg (by omega), slice_front hfront] at hread
  obtain ⟨n, hn, -⟩ := Option.bind_eq_some_iff.mp hread
  obtain ⟨hsome, hlt, hdigits⟩ := parseDigits_eq_some.mp hn
  rw [digitBytes] at hdigits
  have hten : ∀ d ∈ digits digitsOf.length n, d < 10 := fun _ => lt_ten_of_mem_digits
  have hds : digits digitsOf.length n ≠ [] := by
    intro hnil
    have := congrArg List.length hnil
    rw [length_digits, List.length_nil] at this
    exact hsome (List.length_eq_zero_iff.mp this)
  refine ⟨digits digitsOf.length n, hten, by rw [length_digits]; omega, ?_, ?_⟩
  · rw [hdigits, fractionMillis_append hfront hten hds] at h
    exact (Option.some.inj h).symm
  · rcases hbyte byte (getElem?_front hfront) (by omega) with hdigit | rfl
    · refine .inr ⟨hds, byte.toNat - 48, ?_, ?_⟩
      · simp only [isAsciiDigit, Bool.and_eq_true, decide_eq_true_eq,
          UInt8.le_iff_toNat_le] at hdigit
        have : (57 : UInt8).toNat = 57 := rfl
        omega
      · simp only [isAsciiDigit, Bool.and_eq_true, decide_eq_true_eq,
          UInt8.le_iff_toNat_le] at hdigit
        rw [digitByte_toNat_sub hdigit.1, ← hdigits]
    · left
      rw [fractionBytes, if_neg hds, ← hdigits, List.cons_append]

end Fraction

/-- The shape of a host timestamp, byte by byte. -/
lemma validTimestamp_iff {value : String} {bytes : List UInt8}
    (hbytes : value.toUTF8.data.toList = bytes) :
    validTimestamp value = true ↔ 20 ≤ bytes.length ∧ bytes.length ≤ 30 ∧ hasSeparators bytes ∧
      ∀ (index : ℕ) (byte : UInt8), bytes[index]? = some byte → index ∈ [4, 7, 10, 13, 16] ∨
        index = bytes.length - 1 ∨ isAsciiDigit byte = true ∨
        byte = 46 ∧ 19 ≤ index ∧ index < bytes.length - 1 := by
  rw [validTimestamp, hbytes]
  dsimp only
  simp only [Bool.and_eq_true, decide_eq_true_eq, List.all_eq_true, Bool.or_eq_true, beq_iff_eq,
    List.mem_cons, List.not_mem_nil, or_false, and_assoc, or_assoc]
  refine and_congr_right fun _ => and_congr_right fun _ => and_congr_right fun _ => ⟨?_, ?_⟩
  · intro h index byte hget
    exact h (byte, index) (List.mk_mem_zipIdx_iff_getElem?.mpr hget)
  · rintro h ⟨byte, index⟩ hmem
    exact h index byte (List.mk_mem_zipIdx_iff_getElem?.mp hmem)

section Reading

variable {value : String} {tail : List UInt8} {millis : ℕ} (stamp : Timestamp)

/-- What follows the seconds of a text that a host reads. -/
structure ReadTail (fraction : List ℕ) (tail : List UInt8) : Prop where
  length_pos : 1 ≤ tail.length
  length_le : tail.length ≤ 11
  last : tail.getLast? = some 90
  bytes : ∀ (index : ℕ) (byte : UInt8), tail[index]? = some byte →
    index = tail.length - 1 ∨ isAsciiDigit byte = true ∨ byte = 46
  read : ∀ front : List UInt8, front.length = 19 →
    fractionMillis (front ++ tail) = some (Digits.value fraction * 1000 / 10 ^ fraction.length)

/-- A run of digits with a dot or a digit before it. -/
lemma readTail_cons {ds : List ℕ} (hds : ∀ d ∈ ds, d < 10) (hlength : ds.length ≤ 9) (hne : ds ≠ [])
    {byte : UInt8} (hbyte : isAsciiDigit byte = true ∨ byte = 46) :
    ReadTail ds (byte :: (ds.map digitByte ++ [90])) := by
  refine ⟨by simp, by simp; omega, ?_, fun index other hget => ?_,
    fun front hfront => fractionMillis_append hfront hds hne byte⟩
  · rw [← List.cons_append, List.getLast?_concat]
  · obtain _ | index := index
    · rw [List.getElem?_cons_zero, Option.some.injEq] at hget
      exact .inr (hget ▸ hbyte)
    · rw [List.getElem?_cons_succ] at hget
      obtain hlt | hge := Nat.lt_or_ge index (ds.map digitByte).length
      · rw [List.getElem?_append_left hlt] at hget
        obtain ⟨d, hd, rfl⟩ := List.mem_map.mp (List.mem_of_getElem? hget)
        exact .inr (.inl (isAsciiDigit_digitByte (hds d hd)))
      · have hend := (List.getElem?_eq_some_iff.mp hget).1
        simp only [List.length_append, List.length_map, List.length_singleton] at hend hge
        left
        simp
        omega

lemma readTail_fractionBytes {ds : List ℕ} (hds : ∀ d ∈ ds, d < 10) (hlength : ds.length ≤ 9) :
    ReadTail ds (fractionBytes ds) := by
  obtain rfl | hne := eq_or_ne ds []
  · refine ⟨le_rfl, by decide, rfl, fun index byte hget => ?_, fun front hfront => ?_⟩
    · obtain ⟨hlt, -⟩ := List.getElem?_eq_some_iff.mp hget
      have hone : (fractionBytes []).length = 1 := rfl
      exact .inl (by omega)
    · rw [fractionMillis, if_pos (by simp [hfront, fractionBytes])]
      rfl
  · rw [fractionBytes, if_neg hne, List.cons_append]
    exact readTail_cons hds hlength hne (.inr rfl)

/-- The date and the time of day of a timestamp are read, whatever reads as its fraction. -/
lemma parse_of_readTail (hbytes : value.toUTF8.data.toList = stamp.frontBytes ++ tail)
    (htail : ReadTail stamp.fraction tail) (hmillis : (millis : ℤ) = stamp.millis) :
    parseTimestampMillis value = some millis := by
  have hfront := stamp.length_frontBytes
  have hfraction := fraction_lt stamp.fraction_digits
  have hdayLe := stamp.date.day_le_thirtyOne
  have hmonthLe := stamp.date.month_le
  have hyearLe := stamp.year_le
  have hhourLe := stamp.hour_le
  have hminuteLe := stamp.minute_le
  have hsecondLe := stamp.second_le
  have hlaid := stamp.laid
  obtain ⟨hpos, hle, hlast, hallowed, hread⟩ := htail
  have hlength : (stamp.frontBytes ++ tail).length = 19 + tail.length := by
    rw [List.length_append, hfront]
  have hshort := (length_fractionBytes stamp.fraction_length).1
  have hseparators : hasSeparators (stamp.frontBytes ++ tail) := by
    rw [hasSeparators_append hfront (hlast.trans (getLast?_fractionBytes stamp.fraction).symm)
      (List.ne_nil_of_length_pos hpos) (List.ne_nil_of_length_pos hshort), ← stamp.bytes_eq]
    exact hlaid.hasSeparators (getLast?_fractionBytes _)
  have hslice : ∀ start stop, stop ≤ 19 → slice (stamp.frontBytes ++ tail) start stop =
      slice stamp.bytes start stop := fun start stop h => by
    rw [stamp.bytes_eq, slice_append hfront h]
  obtain ⟨hyear, hmonth, hday, hhour, hminute, hsecond⟩ := hlaid.slices
  rw [Timestamp.millis] at hmillis
  have hdays : 0 ≤ (stamp.date.dayNumber : ℤ) - epoch.dayNumber := by omega
  simp only [parseTimestampMillis, Option.bind_eq_bind, Option.bind_eq_some_iff, Option.pure_def,
    Option.some.injEq, guard_eq_some, exists_const, hbytes]
  refine ⟨(validTimestamp_iff hbytes).mpr ⟨by omega, by omega, hseparators, ?_⟩,
    stamp.date.year, ?_, stamp.date.month, ?_, stamp.date.day, ?_, stamp.hour, ?_, stamp.minute, ?_,
    stamp.second, ?_, ⟨stamp.date.month_pos, hmonthLe, by have := stamp.date.day_pos; omega,
      hhourLe, hminuteLe, hsecondLe⟩, ?_, _, hread _ hfront, ?_, ?_⟩
  · intro index byte hget
    obtain hlt | hge := Nat.lt_or_ge index 19
    · rw [List.getElem?_append_left (by omega)] at hget
      rcases stamp.digit_of_front hget with hseparator | hdigit
      · exact .inl hseparator
      · exact .inr (.inr (.inl hdigit))
    · rw [List.getElem?_append_right (by omega), hfront] at hget
      rcases hallowed _ _ hget with hend | hdigit | hdot
      · exact .inr (.inl (by omega))
      · exact .inr (.inr (.inl hdigit))
      · obtain ⟨hlt, -⟩ := List.getElem?_eq_some_iff.mp hget
        obtain hend | hbefore := Nat.lt_or_ge index (18 + tail.length)
        · exact .inr (.inr (.inr ⟨hdot, hge, by omega⟩))
        · exact .inr (.inl (by omega))
  · rw [hslice 0 4 (by norm_num), hyear]
    exact parseDigits_digitBytes (by norm_num) (by omega)
  · rw [hslice 5 7 (by norm_num), hmonth]
    exact parseDigits_digitBytes (by norm_num) (by omega)
  · rw [hslice 8 10 (by norm_num), hday]
    exact parseDigits_digitBytes (by norm_num) (by omega)
  · rw [hslice 11 13 (by norm_num), hhour]
    exact parseDigits_digitBytes (by norm_num) (by omega)
  · rw [hslice 14 16 (by norm_num), hminute]
    exact parseDigits_digitBytes (by norm_num) (by omega)
  · rw [hslice 17 19 (by norm_num), hsecond]
    exact parseDigits_digitBytes (by norm_num) (by omega)
  · rw [daysInMonth_eq stamp.date.month_pos hmonthLe]
    exact stamp.date.day_le
  · rwa [daysFromCivil_eq]
  · rw [daysFromCivil_eq]
    omega

/-- What a host reads is laid out as a timestamp, but for the byte before its fraction. -/
lemma stamp_of_parse (h : parseTimestampMillis value = some millis) :
    ∃ stamp : Timestamp, (millis : ℤ) = stamp.millis ∧
      ∃ tail, value.toUTF8.data.toList = stamp.frontBytes ++ tail ∧
        (tail = fractionBytes stamp.fraction ∨ stamp.fraction ≠ [] ∧ ∃ digit < 10,
          tail = digitByte digit :: (stamp.fraction.map digitByte ++ [90])) := by
  simp only [parseTimestampMillis, Option.bind_eq_bind, Option.bind_eq_some_iff, Option.pure_def,
    Option.some.injEq, guard_eq_some, exists_const] at h
  obtain ⟨hvalid, year, hyear, month, hmonth, day, hday, hour, hhour, minute, hminute, second,
    hsecond, ⟨hmonthPos, hmonthLe, hdayPos, hhourLe, hminuteLe, hsecondLe⟩, hdayLe, fraction,
    hfraction, hdays, hmillis⟩ := h
  obtain ⟨hmin, hmax, hseparators, hallowed⟩ := (validTimestamp_iff rfl).mp hvalid
  set bytes := value.toUTF8.data.toList
  have hsplit : bytes.take 19 ++ bytes.drop 19 = bytes := List.take_append_drop 19 bytes
  have hfront : (bytes.take 19).length = 19 := by
    rw [List.length_take]
    omega
  have hlast : bytes.getLast? = some 90 := by
    simp only [hasSeparators, Bool.and_eq_true, beq_iff_eq] at hseparators
    exact hseparators.2
  obtain ⟨ds, hds, hnine, rfl, htail⟩ := exists_fraction hfront (hsplit.symm ▸ hmin)
    (hsplit.symm ▸ hmax) (hsplit.symm ▸ hlast) (fun byte hget hlong => by
      rw [hsplit] at hget hlong
      rcases hallowed 19 byte hget with hseparator | hend | hdigit | ⟨hdot, -⟩
      · simp at hseparator
      · omega
      · exact .inl hdigit
      · exact .inr hdot) (hsplit.symm ▸ hfraction)
  have hslice : ∀ start stop, stop ≤ 19 → slice (bytes.take 19 ++ fractionBytes ds) start stop =
      slice bytes start stop := fun start stop h => by
    conv_rhs => rw [← hsplit]
    exact slice_append hfront h
  have hpos := (length_fractionBytes hnine).1
  have hshort : (bytes.take 19 ++ fractionBytes ds).length = 19 + (fractionBytes ds).length := by
    rw [List.length_append, hfront]
  have hdotted : hasSeparators (bytes.take 19 ++ fractionBytes ds) := by
    have hne : bytes.drop 19 ≠ [] := by
      intro hnil
      have := List.length_drop (i := 19) (l := bytes)
      rw [hnil, List.length_nil] at this
      omega
    rw [← hsplit, List.getLast?_append_of_ne_nil _ hne] at hlast
    rw [hasSeparators_append hfront ((getLast?_fractionBytes _).trans hlast.symm)
      (List.ne_nil_of_length_pos hpos) hne, hsplit]
    exact hseparators
  obtain ⟨stamp, hbytes, rfl, rfl, rfl, rfl, rfl, rfl, hvalue⟩ := stamp_of_fields
    (by omega) hdotted
    (by rw [hslice 0 4 (by norm_num)]; exact hyear) (by rw [hslice 5 7 (by norm_num)]; exact hmonth)
    (by rw [hslice 8 10 (by norm_num)]; exact hday)
    (by rw [hslice 11 13 (by norm_num)]; exact hhour)
    (by rw [hslice 14 16 (by norm_num)]; exact hminute)
    (by rw [hslice 17 19 (by norm_num)]; exact hsecond)
    ⟨hmonthPos, hmonthLe, hdayPos, hdayLe, hhourLe, hminuteLe, hsecondLe⟩
    (fractionMillis_fractionBytes hfront hds hnine)
  rw [stamp.bytes_eq] at hbytes
  obtain ⟨hfrontEq, hfractionEq⟩ := List.append_inj hbytes (hfront.trans stamp.length_frontBytes.symm)
  obtain rfl : ds = stamp.fraction := fractionBytes_inj hds stamp.fraction_digits hfractionEq
  refine ⟨stamp, ?_, bytes.drop 19, by rw [← hfrontEq, hsplit], htail⟩
  rw [daysFromCivil_eq] at hdays hmillis
  rw [Timestamp.millis, ← hmillis]
  push_cast
  rw [Int.toNat_of_nonneg hdays]
  ring

end Reading

/-- **The reader of the host lease frames** accepts the texts of timestamps since the epoch,
with any digit in the place of the dot; it answers with their milliseconds. -/
theorem parseTimestampMillis_eq_some {value : String} {millis : ℕ} :
    parseTimestampMillis value = some millis ↔
      ∃ stamp : Timestamp, (value = stamp.text ∨
        stamp.fraction ≠ [] ∧ ∃ digit < 10, value = stamp.undotted digit) ∧
        (millis : ℤ) = stamp.millis := by
  constructor
  · intro h
    obtain ⟨stamp, hmillis, tail, hbytes, rfl | ⟨hne, digit, hdigit, rfl⟩⟩ := stamp_of_parse h
    · refine ⟨stamp, .inl (text_ext ?_), hmillis⟩
      rw [hbytes, stamp.text_bytes, stamp.bytes_eq]
    · refine ⟨stamp, .inr ⟨hne, digit, hdigit, text_ext ?_⟩, hmillis⟩
      rw [hbytes, stamp.undotted_bytes hdigit]
  · rintro ⟨stamp, rfl | ⟨hne, digit, hdigit, rfl⟩, hmillis⟩
    · exact parse_of_readTail stamp (stamp.text_bytes.trans stamp.bytes_eq)
        (readTail_fractionBytes stamp.fraction_digits stamp.fraction_length) hmillis
    · exact parse_of_readTail stamp (stamp.undotted_bytes hdigit)
        (readTail_cons stamp.fraction_digits stamp.fraction_length hne
          (.inl (isAsciiDigit_digitByte hdigit))) hmillis

end HostLease

/-! ### Agreement -/

/-- A text with a digit in the place of the dot is no timestamp. -/
lemma undotted_ne_text {first second : Timestamp} {digit : ℕ} (h : digit < 10) :
    first.undotted digit ≠ second.text := by
  intro heq
  have hbytes := congrArg (fun value : String => value.toUTF8.data.toList) heq
  rw [first.undotted_bytes h, second.text_bytes, second.bytes_eq] at hbytes
  have htail := (List.append_inj hbytes
    (first.length_frontBytes.trans second.length_frontBytes.symm)).2
  have hdigit := isAsciiDigit_digitByte h
  rw [fractionBytes] at htail
  split_ifs at htail
  · rw [(List.cons.inj htail).1] at hdigit
    cases hdigit
  · rw [List.cons_append] at htail
    rw [(List.cons.inj htail).1] at hdigit
    cases hdigit

/-- **The two readers of the recovery timestamps agree** on a text, unless it is that of a
timestamp since the epoch with a digit in the place of the dot before its fraction: the reader
of the host lease frames accepts such a text, and the reader of the operation evidence does
not. -/
theorem timestamp_readers_agree_iff (value : String) :
    HostLease.parseTimestampMillis value = parseTimestampMillis value ↔
      ¬ ∃ (stamp : Timestamp) (digit : ℕ), digit < 10 ∧ stamp.fraction ≠ [] ∧ 0 ≤ stamp.millis ∧
        value = stamp.undotted digit := by
  constructor
  · rintro hagree ⟨stamp, digit, hdigit, hne, hmillis, rfl⟩
    have hread : HostLease.parseTimestampMillis (stamp.undotted digit) =
        some stamp.millis.toNat :=
      HostLease.parseTimestampMillis_eq_some.mpr ⟨stamp, .inr ⟨hne, digit, hdigit, rfl⟩,
        Int.toNat_of_nonneg hmillis⟩
    obtain ⟨other, htext, -⟩ := parseTimestampMillis_eq_some.mp (hagree.symm.trans hread)
    exact undotted_ne_text hdigit htext
  · intro hother
    refine Option.ext fun millis => ?_
    rw [HostLease.parseTimestampMillis_eq_some, parseTimestampMillis_eq_some]
    constructor
    · rintro ⟨stamp, htext | ⟨hne, digit, hdigit, htext⟩, hmillis⟩
      · exact ⟨stamp, htext, hmillis⟩
      · exact absurd ⟨stamp, digit, hdigit, hne, by omega, htext⟩ hother
    · rintro ⟨stamp, htext, hmillis⟩
      exact ⟨stamp, .inl htext, hmillis⟩

/-- A text that the host lease frames may carry, and the operation evidence may not. -/
theorem undotted_read_by_host :
    ¬ ∀ value, HostLease.parseTimestampMillis value = parseTimestampMillis value := by
  intro hagree
  have h := hagree "2026-07-12T10:20:3045Z"
  revert h
  decide

end Sts2Gateway.Service
