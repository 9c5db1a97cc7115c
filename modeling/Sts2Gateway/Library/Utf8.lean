/-
The UTF-8 bytes of a text.

* `bytesOf`: the bytes, character by character;
* `decode`, `decode_bytesOf`: the text that bytes spell, and that a text is read back;
* `mem_of_mem_bytesOf`: a byte in ASCII is one of the characters.
-/
import Mathlib.Tactic
import Sts2Gateway.Library.Digits

namespace Utf8

/-- The UTF-8 bytes of a text. -/
def bytesOf (text : List Char) : List UInt8 := text.flatMap String.utf8EncodeChar

@[simp] lemma bytesOf_nil : bytesOf [] = [] := rfl

@[simp] lemma bytesOf_cons (c : Char) (text : List Char) :
    bytesOf (c :: text) = String.utf8EncodeChar c ++ bytesOf text := rfl

@[simp] lemma bytesOf_append (text rest : List Char) :
    bytesOf (text ++ rest) = bytesOf text ++ bytesOf rest := List.flatMap_append

/-- A text has at most four bytes for each character. -/
lemma length_bytesOf_le (text : List Char) : (bytesOf text).length ≤ 4 * text.length := by
  induction text with
  | nil => exact Nat.zero_le _
  | cons c text ih =>
    have hchar := c.utf8Size_le_four
    rw [bytesOf_cons, List.length_append, String.length_utf8EncodeChar, List.length_cons]
    omega

lemma toUTF8_ofList (text : List Char) :
    (String.ofList text).toUTF8.data.toList = bytesOf text := by
  change text.utf8Encode.data.toList = bytesOf text
  induction text with
  | nil => rfl
  | cons c text ih =>
    rw [List.utf8Encode_cons, ByteArray.data_append, Array.toList_append, ih,
      List.utf8Encode_singleton, List.data_toByteArray, bytesOf_cons]

/-- The bytes of a character outside ASCII are not in ASCII. -/
lemma toNat_of_mem_utf8EncodeChar {c : Char} (hc : 128 ≤ c.toNat) {byte : UInt8}
    (hbyte : byte ∈ String.utf8EncodeChar c) : 128 ≤ byte.toNat := by
  have hvalue : ¬ c.val.toNat ≤ 127 := fun hle => absurd hc (Nat.not_le.mpr (Nat.lt_succ_of_le hle))
  have hbound : c.val.toNat < 0x110000 := by
    have hvalid := c.valid
    simp only [UInt32.isValidChar, Nat.isValidChar] at hvalid
    omega
  unfold String.utf8EncodeChar at hbyte
  dsimp only at hbyte
  rw [if_neg hvalue] at hbyte
  split_ifs at hbyte <;> simp only [List.mem_cons, List.not_mem_nil, or_false] at hbyte <;>
    rcases hbyte with rfl | hbyte <;> (try rcases hbyte with rfl | hbyte) <;>
    (try rcases hbyte with rfl | rfl) <;> rw [UInt8.toNat_ofNat'] <;> omega

/-- A byte of a text that is in ASCII is one of its characters. -/
lemma mem_of_mem_bytesOf {text : List Char} {byte : UInt8} (hbyte : byte ∈ bytesOf text)
    (hascii : byte.toNat < 128) : ∃ c ∈ text, c.toNat = byte.toNat := by
  obtain ⟨c, hc, hmem⟩ := List.mem_flatMap.mp hbyte
  refine ⟨c, hc, ?_⟩
  rcases Nat.lt_or_ge c.toNat 128 with hlt | hge
  · rw [Digits.utf8EncodeChar_ascii hlt, List.mem_singleton] at hmem
    rw [hmem, UInt8.toNat_ofNat']
    omega
  · have := toNat_of_mem_utf8EncodeChar hge hmem
    omega

/-- The text that bytes spell. -/
def decode (bytes : List UInt8) : Option (List Char) :=
  (ByteArray.utf8Decode? ⟨bytes.toArray⟩).map Array.toList

/-- A text is read back from its bytes. -/
lemma decode_bytesOf (text : List Char) : decode (bytesOf text) = some text := by
  have hbytes : (⟨(bytesOf text).toArray⟩ : ByteArray) = text.utf8Encode := by
    rw [← toUTF8_ofList]
    rfl
  rw [decode, hbytes, List.utf8Decode?_utf8Encode]
  rfl

end Utf8
