import PasswordGrant.Form
import PasswordGrant.Proofs.Utf8

/-!
# Forms read back

Writing pairs as a form body and reading the body gives the pairs back, whatever texts they hold. A
written name or value holds neither separator, so the body falls into the same parts again, and each
byte is written in a way that reads back as that byte.

* `decodeComponent_encodeComponent` : a name or a value;
* `splitOn_encodeChars` : the parts of a body are the pairs;
* `decode_encode` : a whole body;
* `isBodyChar`, `isBodyChar_of_mem_encodeChars` : the characters of a body;
* `encode_invertible` : a body holds nothing else, and it tells its pairs.
-/

namespace PasswordGrant.Form

/-! ### One byte -/

theorem plain_char {b : UInt8} (h : isPlain b = true) :
    Utf8.encodeChar (Char.ofNat b.toNat) = [b] ∧ Char.ofNat b.toNat ≠ '%'
      ∧ Char.ofNat b.toNat ≠ '+' ∧ Char.ofNat b.toNat ≠ '&' ∧ Char.ofNat b.toNat ≠ '=' := by
  have all : ∀ n : Fin 256, isPlain (UInt8.ofNat n.val) = true →
      Utf8.encodeChar (Char.ofNat n.val) = [UInt8.ofNat n.val] ∧ Char.ofNat n.val ≠ '%'
        ∧ Char.ofNat n.val ≠ '+' ∧ Char.ofNat n.val ≠ '&' ∧ Char.ofNat n.val ≠ '=' := by
    decide +kernel
  have hb := all ⟨b.toNat, b.toNat_lt⟩
  simp only [UInt8.ofNat_toNat] at hb
  exact hb h

theorem decodeBytes_cons {c : Char} (rest : List Char) (h : c ≠ '%') :
    decodeBytes (c :: rest) = (if c = '+' then [32] else Utf8.encodeChar c) ++ decodeBytes rest := by
  rw [decodeBytes]
  rintro h l rest rfl
  exact absurd rfl h

theorem decodeBytes_percent (b : UInt8) (rest : List Char) :
    decodeBytes ('%' :: Hex.digit (b.toNat / 16) :: Hex.digit (b.toNat % 16) :: rest)
      = b :: decodeBytes rest := by
  have hb : b.toNat < 256 := b.toNat_lt
  have hbyte : b.toNat / 16 * 16 + b.toNat % 16 = b.toNat := by omega
  rw [decodeBytes, Hex.value?_digit (by omega), Hex.value?_digit (by omega)]
  simp only [hbyte, UInt8.ofNat_toNat]

theorem decodeBytes_encodeByte (b : UInt8) (rest : List Char) :
    decodeBytes (encodeByte b ++ rest) = b :: decodeBytes rest := by
  unfold encodeByte
  split
  · obtain ⟨hbyte, hpercent, hplus, -⟩ := plain_char ‹_›
    rw [List.cons_append, List.nil_append, decodeBytes_cons _ hpercent, if_neg hplus, hbyte]
    rfl
  split
  · subst b
    rw [List.cons_append, List.nil_append, decodeBytes_cons _ (by decide)]
    rfl
  · exact decodeBytes_percent b rest

theorem digit_ne_separator {n : Nat} (h : n < 16) : Hex.digit n ≠ '&' ∧ Hex.digit n ≠ '=' := by
  have all : ∀ m : Fin 16, Hex.digit m.val ≠ '&' ∧ Hex.digit m.val ≠ '=' := by decide
  exact all ⟨n, h⟩

theorem ne_separator_of_mem_encodeByte {b : UInt8} {c : Char} (h : c ∈ encodeByte b) :
    c ≠ '&' ∧ c ≠ '=' := by
  have hb : b.toNat < 256 := b.toNat_lt
  unfold encodeByte at h
  split at h
  · rw [List.mem_singleton.mp h]
    exact (plain_char ‹_›).2.2.2
  split at h
  · rw [List.mem_singleton.mp h]
    decide
  · simp only [List.mem_cons, List.not_mem_nil, or_false] at h
    rcases h with rfl | rfl | rfl
    · decide
    · exact digit_ne_separator (by omega)
    · exact digit_ne_separator (by omega)

/-! ### Names and values -/

theorem decodeBytes_flatMap_encodeByte (bytes : List UInt8) :
    decodeBytes (bytes.flatMap encodeByte) = bytes := by
  induction bytes with
  | nil => rfl
  | cons b bytes ih => rw [List.flatMap_cons, decodeBytes_encodeByte, ih]

/-- A written name or value is read back. -/
theorem decodeComponent_encodeComponent (s : String) :
    decodeComponent (encodeComponent s) = s := by
  rw [decodeComponent, encodeComponent, decodeBytes_flatMap_encodeByte, Utf8.decodeLossy_encode,
    String.ofList_toList]

theorem ne_separator_of_mem_encodeComponent {s : String} {c : Char}
    (h : c ∈ encodeComponent s) : c ≠ '&' ∧ c ≠ '=' := by
  obtain ⟨b, -, hc⟩ := List.mem_flatMap.mp h
  exact ne_separator_of_mem_encodeByte hc

/-! ### Pairs -/

theorem decodePair_encodePair (p : String × String) : decodePair (encodePair p) = p := by
  have hname : ∀ c ∈ encodeComponent p.1, (c != '=') = true := fun c hc =>
    bne_iff_ne.mpr (ne_separator_of_mem_encodeComponent hc).2
  rw [decodePair, encodePair, List.takeWhile_append_of_pos hname, List.dropWhile_append_of_pos hname]
  simp [decodeComponent_encodeComponent]

theorem ne_ampersand_of_mem_encodePair {p : String × String} {c : Char} (h : c ∈ encodePair p) :
    (c == '&') = false := by
  rw [encodePair, List.mem_append, List.mem_cons] at h
  rcases h with h | rfl | h
  · exact beq_false_of_ne (ne_separator_of_mem_encodeComponent h).1
  · decide
  · exact beq_false_of_ne (ne_separator_of_mem_encodeComponent h).1

theorem encodePair_ne_nil (p : String × String) : encodePair p ≠ [] := by
  rw [encodePair]
  exact List.append_ne_nil_of_right_ne_nil _ (List.cons_ne_nil _ _)

/-! ### Bodies -/

/-- A body of pairs falls into these pairs. -/
theorem splitOn_encodeChars (p : String × String) (pairs : List (String × String)) :
    Text.splitOn (· == '&') (encodeChars (p :: pairs)) = (p :: pairs).map encodePair := by
  induction pairs generalizing p with
  | nil =>
    rw [encodeChars, Text.splitOn_eq_singleton fun c hc => ne_ampersand_of_mem_encodePair hc]
    rfl
  | cons q rest ih =>
    rw [encodeChars,
      Text.splitOn_append_cons _ (fun c hc => ne_ampersand_of_mem_encodePair hc) (by decide), ih]
    rfl

/-- A body is read back as the pairs it was written from. -/
theorem decode_encode (pairs : List (String × String)) : decode (encode pairs) = pairs := by
  rw [decode, encode, String.toList_ofList]
  cases pairs with
  | nil => rfl
  | cons p rest =>
    have hfull : ∀ cs ∈ (p :: rest).map encodePair, (!cs.isEmpty) = true := by
      intro cs hcs
      obtain ⟨q, -, rfl⟩ := List.mem_map.mp hcs
      simp [encodePair_ne_nil q]
    rw [splitOn_encodeChars, List.filter_eq_self.mpr hfull, List.map_map]
    exact List.map_congr_left (fun q _ => decodePair_encodePair q) |>.trans (List.map_id _)

/-! ### The characters of a body -/

/-- The characters of a body: ASCII letters and digits, the four marks that stand for themselves, and
those that stand for a space, a byte, the end of a pair and the end of a name. -/
def isBodyChar (c : Char) : Bool :=
  c.isAlphanum || "*-._".toList.contains c || "+%&=".toList.contains c

theorem isBodyChar_of_mem_encodeByte {b : UInt8} {c : Char} (h : c ∈ encodeByte b) :
    isBodyChar c = true := by
  have all : ∀ n : Fin 256, (encodeByte (UInt8.ofNat n.val)).all isBodyChar = true := by
    decide +kernel
  have hb := all ⟨b.toNat, b.toNat_lt⟩
  simp only [UInt8.ofNat_toNat] at hb
  exact List.all_eq_true.mp hb c h

theorem isBodyChar_of_mem_encodeComponent {s : String} {c : Char} (h : c ∈ encodeComponent s) :
    isBodyChar c = true := by
  obtain ⟨b, -, hc⟩ := List.mem_flatMap.mp h
  exact isBodyChar_of_mem_encodeByte hc

theorem isBodyChar_of_mem_encodePair {p : String × String} {c : Char} (h : c ∈ encodePair p) :
    isBodyChar c = true := by
  rw [encodePair, List.mem_append, List.mem_cons] at h
  rcases h with hname | rfl | hvalue
  · exact isBodyChar_of_mem_encodeComponent hname
  · decide
  · exact isBodyChar_of_mem_encodeComponent hvalue

/-- Between its pairs a body holds ampersands and nothing else. -/
theorem isBodyChar_of_mem_encodeChars {pairs : List (String × String)} {c : Char}
    (h : c ∈ encodeChars pairs) : isBodyChar c = true := by
  induction pairs using encodeChars.induct with
  | case1 => cases h
  | case2 p => exact isBodyChar_of_mem_encodePair h
  | case3 p q rest ih =>
    rw [encodeChars, List.mem_append, List.mem_cons] at h
    rcases h with hpair | rfl | hrest
    · exact isBodyChar_of_mem_encodePair hpair
    · decide
    · exact ih hrest

/-- Every list of pairs has a body, of ASCII letters, digits and the marks of a form and nothing else. The
body is read back as the pairs, in order and with the texts that were given, so that different lists have
different bodies. -/
theorem encode_invertible (pairs others : List (String × String)) :
    decode (encode pairs) = pairs ∧ (encode pairs = encode others ↔ pairs = others) ∧
      (encode pairs).toList.all isBodyChar = true := by
  refine ⟨decode_encode pairs, ⟨fun hsame => ?_, congrArg encode⟩, ?_⟩
  · calc
      pairs = decode (encode pairs) := (decode_encode pairs).symm
      _ = decode (encode others) := congrArg decode hsame
      _ = others := decode_encode others
  · rw [encode, String.toList_ofList, List.all_eq_true]
    exact fun c hc => isBodyChar_of_mem_encodeChars hc

end PasswordGrant.Form
