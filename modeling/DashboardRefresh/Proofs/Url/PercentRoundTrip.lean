import DashboardRefresh.Url.Percent
import Mathlib.Data.List.Basic

/-!
# Percent encoding and back

Decoding gives back the text that was encoded, as long as the percent sign itself is not kept. The
encoded text is made of the characters that are kept, percent signs and digits, so that a character
that is none of these cannot stand in it.
-/

namespace DashboardRefresh.Percent

/-! ## Digits -/

theorem hexDigit?_hexChar {n : Nat} (h : n < 16) : Text.hexDigit? (hexChar n) = some n := by
  have hall : ∀ n < 16, Text.hexDigit? (hexChar n) = some n := by decide
  exact hall n h

/-- The digits of encoded bytes. -/
def isHexChar (c : Char) : Bool := c.isDigit || ('A' ≤ c && c ≤ 'F')

theorem isHexChar_hexChar {n : Nat} (h : n < 16) : isHexChar (hexChar n) := by
  have hall : ∀ n < 16, isHexChar (hexChar n) := by decide
  exact hall n h

/-! ## Decoding -/

theorem decode_cons_of_ne {c : Char} (hc : c ≠ '%') (cs : List Char) :
    decode (c :: cs) = String.utf8EncodeChar c ++ decode cs := by
  rw [decode]
  intro a b rest heq
  exact absurd heq hc

theorem decode_encodeByte (b : UInt8) (cs : List Char) :
    decode (encodeByte b ++ cs) = b :: decode cs := by
  have hlt : b.toNat < 256 := b.toNat_lt
  have hhigh := hexDigit?_hexChar (n := b.toNat / 16) (by omega)
  have hlow := hexDigit?_hexChar (n := b.toNat % 16) (by omega)
  unfold encodeByte
  rw [List.cons_append, List.cons_append, List.cons_append, List.nil_append, decode, hhigh, hlow]
  have hbyte : 16 * (b.toNat / 16) + b.toNat % 16 = b.toNat := by omega
  dsimp only
  rw [hbyte, UInt8.ofNat_toNat]

theorem decode_encodeBytes (bytes : List UInt8) (cs : List Char) :
    decode (bytes.flatMap encodeByte ++ cs) = bytes ++ decode cs := by
  induction bytes with
  | nil => rfl
  | cons b bytes ih =>
    rw [List.flatMap_cons, List.append_assoc, decode_encodeByte, ih, List.cons_append]

variable {keep : Char → Bool}

theorem decode_encodeChar (hkeep : keep '%' = false) (c : Char) (cs : List Char) :
    decode (encodeChar keep c ++ cs) = String.utf8EncodeChar c ++ decode cs := by
  unfold encodeChar
  split
  · rename_i hkept
    apply decode_cons_of_ne
    rintro rfl
    rw [hkeep] at hkept
    cases hkept
  · exact decode_encodeBytes _ cs

/-- The bytes of an encoded text are those of the text. -/
theorem decode_encode (hkeep : keep '%' = false) (cs : List Char) :
    decode (encode keep cs) = cs.flatMap String.utf8EncodeChar := by
  unfold encode
  induction cs with
  | nil => rfl
  | cons c cs ih => rw [List.flatMap_cons, decode_encodeChar hkeep, ih, List.flatMap_cons]

/-- Bytes that are those of a text are read as this text. -/
theorem decodeText?_of_decode {cs text : List Char}
    (h : decode cs = text.flatMap String.utf8EncodeChar) :
    decodeText? cs = some (String.ofList text) := by
  have hbytes : (⟨(decode cs).toArray⟩ : ByteArray) = text.utf8Encode := by
    rw [h, List.utf8Encode]
    exact ByteArray.ext List.data_toByteArray.symm
  unfold decodeText? String.fromUTF8?
  rw [hbytes, dif_pos ByteArray.isValidUTF8_utf8Encode]
  rfl

theorem decodeText?_encode (hkeep : keep '%' = false) (cs : List Char) :
    decodeText? (encode keep cs) = some (String.ofList cs) :=
  decodeText?_of_decode (decode_encode hkeep cs)

/-! ## The characters of an encoded text -/

theorem mem_encodeByte {b : UInt8} {c : Char} (h : c ∈ encodeByte b) : c = '%' ∨ isHexChar c := by
  have hlt : b.toNat < 256 := b.toNat_lt
  unfold encodeByte at h
  simp only [List.mem_cons, List.not_mem_nil, or_false] at h
  rcases h with rfl | rfl | rfl
  · exact .inl rfl
  · exact .inr (isHexChar_hexChar (by omega))
  · exact .inr (isHexChar_hexChar (by omega))

/-- An encoded text holds nothing but kept characters, percent signs and digits. -/
theorem mem_encode {cs : List Char} {c : Char} (h : c ∈ encode keep cs) :
    keep c ∨ c = '%' ∨ isHexChar c := by
  obtain ⟨d, _, hc⟩ := List.mem_flatMap.1 h
  unfold encodeChar at hc
  split at hc
  · rename_i hkept
    rw [List.mem_singleton.1 hc]
    exact .inl hkept
  · obtain ⟨b, _, hb⟩ := List.mem_flatMap.1 hc
    exact .inr (mem_encodeByte hb)

end DashboardRefresh.Percent
