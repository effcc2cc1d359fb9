import PasswordGrant.Proofs.Utf8
import PasswordGrant.Url.Percent

/-!
# Encoded texts read back

A text in which the percent sign itself is encoded can be read back, whatever else is encoded: every
percent sign begins an encoded byte, and every other character stands for itself.

* `decode_encode` : the bytes of an encoded text are those of the text;
* `encode_injective` : two texts are not encoded alike.
-/

namespace PasswordGrant.Percent

variable {set : Char → Bool}

theorem decode_encodeByte (b : UInt8) (rest : List Char) :
    decode (encodeByte b ++ rest) = b :: decode rest := by
  have hb : b.toNat < 256 := b.toNat_lt
  have hbyte : b.toNat / 16 * 16 + b.toNat % 16 = b.toNat := by omega
  show decode ('%' :: Hex.digit (b.toNat / 16) :: Hex.digit (b.toNat % 16) :: rest) = _
  rw [decode, Hex.value?_digit (by omega), Hex.value?_digit (by omega)]
  simp only [hbyte, UInt8.ofNat_toNat]

theorem decode_encodeBytes (bytes : List UInt8) (rest : List Char) :
    decode (bytes.flatMap encodeByte ++ rest) = bytes ++ decode rest := by
  induction bytes with
  | nil => rfl
  | cons b bytes ih => rw [List.flatMap_cons, List.append_assoc, decode_encodeByte, ih, List.cons_append]

theorem decode_cons {c : Char} (rest : List Char) (h : c ≠ '%') :
    decode (c :: rest) = Utf8.encodeChar c ++ decode rest := by
  rw [decode]
  rintro h l rest rfl
  exact absurd rfl h

theorem decode_encodeChar (hset : set '%' = true) (c : Char) (rest : List Char) :
    decode (encodeChar set c ++ rest) = Utf8.encodeChar c ++ decode rest := by
  by_cases hc : set c = true
  · rw [encodeChar, if_pos hc, decode_encodeBytes]
  · have hpercent : c ≠ '%' := by
      rintro rfl
      exact hc hset
    rw [encodeChar, if_neg hc, List.singleton_append, decode_cons rest hpercent]

/-- A text is read back as its bytes. -/
theorem decode_encode (hset : set '%' = true) (cs : List Char) :
    decode (encode set cs) = Utf8.encode cs := by
  induction cs with
  | nil => rfl
  | cons c cs ih =>
    rw [encode, List.flatMap_cons, decode_encodeChar hset, ← encode, ih]
    rfl

theorem encode_injective (hset : set '%' = true) {cs ds : List Char}
    (h : encode set cs = encode set ds) : cs = ds := by
  have hbytes : Utf8.encode cs = Utf8.encode ds := by
    rw [← decode_encode hset, ← decode_encode hset, h]
  rw [← Utf8.decodeLossy_encode cs, hbytes, Utf8.decodeLossy_encode]

theorem encode_eq_self {cs : List Char} (h : ∀ c ∈ cs, set c = false) : encode set cs = cs := by
  induction cs with
  | nil => rfl
  | cons c cs ih =>
    rw [List.forall_mem_cons] at h
    rw [encode, List.flatMap_cons, encodeChar, h.1, ← encode, ih h.2]
    rfl

end PasswordGrant.Percent
