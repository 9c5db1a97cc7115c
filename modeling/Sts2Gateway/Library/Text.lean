/-
Byte and character classes of bounded text.

* `isAsciiAlphanumeric`, `isAsciiUppercase`, `isHexDigit`, `isLowerHex`,
  `isControl`: the classes;
* `allBytes`, `containsBytes`: a test of each byte of a string's UTF-8 encoding, and
  whether a run of bytes occurs in it;
* `length_le_utf8ByteSize`: a text is no longer than its encoding;
* `hexBytes`, `Sha256`: lower-case hexadecimal text, and SHA-256 as a parameter.
-/
import Mathlib.Tactic

namespace Text

def isAsciiAlphanumeric (byte : UInt8) : Bool :=
  (48 ≤ byte && byte ≤ 57) || (65 ≤ byte && byte ≤ 90) || (97 ≤ byte && byte ≤ 122)

/-- A digit or one of the letters `a` to `f`. -/
def isLowerHex (byte : UInt8) : Bool :=
  (48 ≤ byte && byte ≤ 57) || (97 ≤ byte && byte ≤ 102)

def isAsciiUppercase (byte : UInt8) : Bool := 65 ≤ byte && byte ≤ 90

/-- A hexadecimal digit of either case. -/
def isHexDigit (byte : UInt8) : Bool := isLowerHex byte || (65 ≤ byte && byte ≤ 70)

/-- The control characters of Unicode. -/
def isControl (c : Char) : Bool := c.toNat < 32 || (127 ≤ c.toNat && c.toNat ≤ 159)

def allBytes (value : String) (test : UInt8 → Bool) : Bool := value.toUTF8.data.toList.all test

/-- `str::contains`. -/
def containsBytes (value pattern : String) : Bool :=
  value.toUTF8.data.toList.tails.any pattern.toUTF8.data.toList.isPrefixOf

/-- Each character takes at least one byte. -/
lemma length_le_utf8ByteSize (value : String) : value.length ≤ value.utf8ByteSize := by
  have hchars : ∀ chars : List Char, chars.length ≤ chars.utf8Encode.size := by
    intro chars
    induction chars with
    | nil => simp
    | cons c chars ih =>
      have hone : 1 ≤ [c].utf8Encode.size := by
        have hsize := String.utf8ByteSize_singleton (c := c)
        rw [← String.size_toByteArray, String.toByteArray_singleton] at hsize
        rw [hsize]
        exact c.utf8Size_pos
      rw [List.utf8Encode_cons, ByteArray.size_append, List.length_cons]
      omega
  calc value.length
      = value.toList.length := String.length_toList.symm
    _ ≤ value.toList.utf8Encode.size := hchars _
    _ = value.utf8ByteSize := by rw [String.utf8Encode_toList, String.size_toByteArray]
/-- Two lower-case hexadecimal digits for each byte. -/
def hexBytes (bytes : List UInt8) : String :=
  String.ofList (bytes.flatMap fun byte =>
    [Nat.digitChar (byte.toNat / 16), Nat.digitChar (byte.toNat % 16)])

/-- SHA-256, which a results' user supplies. -/
class Sha256 where
  digest : ByteArray → List UInt8

def sha256Hex [Sha256] (bytes : ByteArray) : String := hexBytes (Sha256.digest bytes)

end Text
