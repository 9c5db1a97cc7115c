/-
The timestamps of the recovery wire (`recovery_frame.rs`,
`service_recovery_dispatch_host_time.rs`, `host_lease_control_crypto.rs`).

* `timestampFromMillis`, `civilFromDays`: the text of a millisecond count;
* `parseTimestampMillis`: the reader of the operation evidence;
* `HostLease.validTimestamp`, `HostLease.parseTimestampMillis`: the shape and the reader
  of the host lease frames, which the source keeps apart from the other one.
-/
import Mathlib.Tactic
import Sts2Gateway.Library.Text

namespace Sts2Gateway.Service

open Text

/-! ### Rendering -/

/-- A number in at least `width` digits. -/
def padded (width n : ℕ) : List Char :=
  let digits := Nat.toDigits 10 n
  List.replicate (width - digits.length) '0' ++ digits

/-- Year, month and day of a day since the epoch, which is never negative here. -/
def civilFromDays (days : ℕ) : ℕ × ℕ × ℕ :=
  let shifted := days + 719468
  let era := shifted / 146097
  let dayOfEra := shifted - era * 146097
  let yearOfEra := (dayOfEra - dayOfEra / 1460 + dayOfEra / 36524 - dayOfEra / 146096) / 365
  let year := yearOfEra + era * 400
  let dayOfYear := dayOfEra - (365 * yearOfEra + yearOfEra / 4 - yearOfEra / 100)
  let monthPrime := (5 * dayOfYear + 2) / 153
  let day := dayOfYear - (153 * monthPrime + 2) / 5 + 1
  let month := if monthPrime < 10 then monthPrime + 3 else monthPrime - 9
  (year + if month ≤ 2 then 1 else 0, month, day)

def timestampFromMillis (millis : ℕ) : String :=
  let seconds := millis / 1000
  let daySeconds := seconds % 86400
  let (year, month, day) := civilFromDays (seconds / 86400)
  String.ofList <|
    padded 4 year ++ '-' :: padded 2 month ++ '-' :: padded 2 day ++
      'T' :: padded 2 (daySeconds / 3600) ++ ':' :: padded 2 (daySeconds / 60 % 60) ++
      ':' :: padded 2 (daySeconds % 60) ++ '.' :: padded 3 (millis % 1000) ++ ['Z']

/-! ### Reading -/

def isAsciiDigit (byte : UInt8) : Bool := 48 ≤ byte && byte ≤ 57

/-- The number that a run of digits writes. -/
def parseDigits (bytes : List UInt8) : Option ℕ :=
  if !bytes.isEmpty && bytes.all isAsciiDigit then
    some (bytes.foldl (fun value digit => value * 10 + (digit.toNat - 48)) 0)
  else none

/-- The bytes from index `start` up to index `stop`. -/
def slice (bytes : List UInt8) (start stop : ℕ) : List UInt8 :=
  (bytes.take stop).drop start

def daysInMonth (year month : ℕ) : ℕ :=
  if month = 2 then
    if year % 4 = 0 ∧ (year % 100 ≠ 0 ∨ year % 400 = 0) then 29 else 28
  else if month = 4 ∨ month = 6 ∨ month = 9 ∨ month = 11 then 30
  else 31

/-- Days since the epoch, negative before it. -/
def daysFromCivil (year month day : ℤ) : ℤ :=
  let year := year - if month ≤ 2 then 1 else 0
  let era := (if 0 ≤ year then year else year - 399).tdiv 400
  let yearOfEra := year - era * 400
  let monthPrime := month + if 2 < month then -3 else 9
  let dayOfYear := (153 * monthPrime + 2).tdiv 5 + day - 1
  let dayOfEra := yearOfEra * 365 + yearOfEra.tdiv 4 - yearOfEra.tdiv 100 + dayOfYear
  era * 146097 + dayOfEra - 719468

/-- The separators that both readers ask for. -/
def hasSeparators (bytes : List UInt8) : Bool :=
  bytes[4]? == some 45 && bytes[7]? == some 45 && bytes[10]? == some 84 &&
    bytes[13]? == some 58 && bytes[16]? == some 58 && bytes.getLast? == some 90

/-- The milliseconds of a fraction of a second, whose further digits are dropped. -/
def fractionMillis (bytes : List UInt8) : Option ℕ :=
  if bytes[19]? == some 90 then if bytes.length = 20 then some 0 else none
  else if bytes[19]? ≠ some 46 ∨ bytes.length < 22 then none
  else
    let digits := slice bytes 20 (bytes.length - 1)
    if digits.isEmpty || 9 < digits.length || !digits.all isAsciiDigit then none
    else do
      let millisDigits := min digits.length 3
      let millis ← parseDigits (digits.take millisDigits)
      return if millisDigits = 1 then millis * 100 else if millisDigits = 2 then millis * 10
        else millis

def parseTimestampMillis (value : String) : Option ℕ := do
  let bytes := value.toUTF8.data.toList
  guard (20 ≤ bytes.length ∧ bytes.length ≤ 30 ∧ hasSeparators bytes)
  let year ← parseDigits (slice bytes 0 4)
  let month ← parseDigits (slice bytes 5 7)
  let day ← parseDigits (slice bytes 8 10)
  let hour ← parseDigits (slice bytes 11 13)
  let minute ← parseDigits (slice bytes 14 16)
  let second ← parseDigits (slice bytes 17 19)
  guard (1 ≤ month ∧ month ≤ 12 ∧ day ≠ 0 ∧ day ≤ daysInMonth year month ∧ hour ≤ 23 ∧
    minute ≤ 59 ∧ second ≤ 59)
  let fraction ← fractionMillis bytes
  let days := daysFromCivil year month day
  guard (0 ≤ days)
  let seconds := days.toNat * 86400 + hour * 3600 + minute * 60 + second
  return seconds * 1000 + fraction

namespace HostLease

/-- Digits where a timestamp has them; a dot may stand anywhere in the fraction. -/
def validTimestamp (value : String) : Bool :=
  let bytes := value.toUTF8.data.toList
  20 ≤ bytes.length && bytes.length ≤ 30 && hasSeparators bytes &&
    bytes.zipIdx.all fun (byte, index) =>
      index == 4 || index == 7 || index == 10 || index == 13 || index == 16 ||
        index == bytes.length - 1 ||
        (isAsciiDigit byte || (byte == 46 && 19 ≤ index && index < bytes.length - 1))

/-- The fraction of a host timestamp: any one byte may stand before it. -/
def fractionMillis (bytes : List UInt8) : Option ℕ :=
  if bytes.length = 20 then some 0
  else do
    let fraction := slice bytes 20 (bytes.length - 1)
    let millis ← parseDigits fraction
    let millis := millis * 10 ^ (3 - fraction.length)
    return if 3 < fraction.length then millis / 10 ^ (fraction.length - 3) else millis

def parseTimestampMillis (value : String) : Option ℕ := do
  guard (validTimestamp value)
  let bytes := value.toUTF8.data.toList
  let year ← parseDigits (slice bytes 0 4)
  let month ← parseDigits (slice bytes 5 7)
  let day ← parseDigits (slice bytes 8 10)
  let hour ← parseDigits (slice bytes 11 13)
  let minute ← parseDigits (slice bytes 14 16)
  let second ← parseDigits (slice bytes 17 19)
  guard (1 ≤ month ∧ month ≤ 12 ∧ day ≠ 0 ∧ hour ≤ 23 ∧ minute ≤ 59 ∧ second ≤ 59)
  guard (day ≤ daysInMonth year month)
  let fraction ← fractionMillis bytes
  let days := daysFromCivil year month day
  guard (0 ≤ days)
  return days.toNat * 86400000 + hour * 3600000 + minute * 60000 + second * 1000 + fraction

end HostLease

end Sts2Gateway.Service
