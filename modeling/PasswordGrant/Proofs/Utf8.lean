import PasswordGrant.Text.Utf8

/-!
# Texts read back from their bytes

The bytes of a text are read back as that text, by the reader that refuses broken bytes and by the
one that replaces them. A character takes one to four bytes; the first announces the others, and
the second is narrowed where a shorter form or a surrogate would fit. So no other bytes are read as a
character.

* `next_encodeChar` : the first character comes off the front of its own bytes;
* `decodeParts_encode`, `decodeLossy_encode` : a whole text;
* `eq_encodeChar_of_next` : a character that was read stood there in its own bytes;
* `decode?_eq_some_iff` : the bytes that are read as a text.
-/

namespace PasswordGrant.Utf8

/-! ### Bytes as numbers -/

theorem toNat_byte {n : Nat} (h : n < 256) : (UInt8.ofNat n).toNat = n := by
  rw [UInt8.toNat_ofNat']
  omega

theorem ofNat_eq_byte {v : Nat} {b : UInt8} (h : v = b.toNat) : UInt8.ofNat v = b := by
  rw [h, UInt8.ofNat_toNat]

theorem following_cons {n bits low high v : Nat} {rest : List UInt8}
    (hlow : low ≤ v) (hhigh : v ≤ high) (hv : v < 256) :
    following (n + 1) bits low high (UInt8.ofNat v :: rest)
      = following n (bits * 64 + (v - 0x80)) 0x80 0xBF rest := by
  rw [following, toNat_byte hv, if_pos ⟨hlow, hhigh⟩]

theorem following_zero {bits low high v : Nat} {rest : List UInt8} (h : bits = v) :
    following 0 bits low high rest = (some (Char.ofNat v), rest) := by
  rw [following, h]

theorem next_of_leading {v n bits low high : Nat} {rest : List UInt8} (h : 0x80 ≤ v)
    (hv : v < 256) (hl : Leading.ofByte? v = some ⟨n, bits, low, high⟩) :
    next (UInt8.ofNat v) rest = following n bits low high rest := by
  rw [next, toNat_byte hv, if_neg (by omega), hl]

/-! ### Announcements -/

theorem ofByte?_two {v : Nat} (hlow : 0xC2 ≤ v) (hhigh : v ≤ 0xDF) :
    Leading.ofByte? v = some ⟨1, v - 0xC0, 0x80, 0xBF⟩ := by
  rw [Leading.ofByte?, if_pos ⟨hlow, hhigh⟩]

/-- The first of three bytes: the second is narrowed after the first of them, where a shorter form
would fit, and after the one of the surrogates. -/
theorem ofByte?_three {n : Nat} (h : n < 16) :
    Leading.ofByte? (n + 0xE0)
      = some ⟨2, n, if n = 0 then 0xA0 else 0x80, if n = 13 then 0x9F else 0xBF⟩ := by
  by_cases h0 : n = 0
  · subst h0
    rfl
  by_cases h13 : n = 13
  · subst h13
    rfl
  rw [Leading.ofByte?, if_neg (by omega), if_neg (by omega), if_neg (by omega), if_pos (by omega),
    if_neg h0, if_neg h13, Nat.add_sub_cancel]

theorem ofByte?_four {n : Nat} (h : n < 5) :
    Leading.ofByte? (n + 0xF0)
      = some ⟨3, n, if n = 0 then 0x90 else 0x80, if n = 4 then 0x8F else 0xBF⟩ := by
  match n, h with
  | 0, _ | 1, _ | 2, _ | 3, _ | 4, _ => rfl

/-! ### One character -/

theorem next_one {v : Nat} {rest : List UInt8} (h : v ≤ 0x7F) :
    next (UInt8.ofNat v) rest = (some (Char.ofNat v), rest) := by
  rw [next, toNat_byte (by omega), if_pos (by omega)]

theorem next_two {v : Nat} {rest : List UInt8} (hlow : 0x7F < v) (hhigh : v ≤ 0x7FF) :
    next (UInt8.ofNat (v / 64 % 32 + 0xC0)) (UInt8.ofNat (v % 64 + 0x80) :: rest)
      = (some (Char.ofNat v), rest) := by
  rw [next_of_leading (by omega) (by omega) (ofByte?_two (by omega) (by omega)),
    following_cons (by omega) (by omega) (by omega)]
  exact following_zero (by omega)

theorem next_three {v : Nat} {rest : List UInt8} (hlow : 0x7FF < v) (hhigh : v ≤ 0xFFFF)
    (hvalid : v < 0xD800 ∨ 0xDFFF < v) :
    next (UInt8.ofNat (v / 4096 % 16 + 0xE0))
        (UInt8.ofNat (v / 64 % 64 + 0x80) :: UInt8.ofNat (v % 64 + 0x80) :: rest)
      = (some (Char.ofNat v), rest) := by
  rw [next_of_leading (by omega) (by omega) (ofByte?_three (by omega)),
    following_cons (by split <;> omega) (by split <;> omega) (by omega),
    following_cons (by omega) (by omega) (by omega)]
  exact following_zero (by omega)

theorem next_four {v : Nat} {rest : List UInt8} (hlow : 0xFFFF < v) (hhigh : v < 0x110000) :
    next (UInt8.ofNat (v / 262144 % 8 + 0xF0))
        (UInt8.ofNat (v / 4096 % 64 + 0x80) :: UInt8.ofNat (v / 64 % 64 + 0x80)
          :: UInt8.ofNat (v % 64 + 0x80) :: rest)
      = (some (Char.ofNat v), rest) := by
  rw [next_of_leading (by omega) (by omega) (ofByte?_four (by omega)),
    following_cons (by split <;> omega) (by split <;> omega) (by omega),
    following_cons (by omega) (by omega) (by omega),
    following_cons (by omega) (by omega) (by omega)]
  exact following_zero (by omega)

/-- The first character comes off the front of its own bytes, whatever is behind them. -/
theorem next_encodeChar (c : Char) (rest : List UInt8) :
    ∃ b more, encodeChar c = b :: more ∧ next b (more ++ rest) = (some c, rest) := by
  have hc : Char.ofNat c.val.toNat = c := Char.ofNat_toNat c
  have hvalid : c.val.toNat < 0xD800 ∨ 0xDFFF < c.val.toNat ∧ c.val.toNat < 0x110000 := c.valid
  rw [encodeChar, String.utf8EncodeChar]
  split
  · refine ⟨_, _, rfl, ?_⟩
    rw [List.nil_append, next_one ‹_›, hc]
  split
  · refine ⟨_, _, rfl, ?_⟩
    rw [List.cons_append, List.nil_append, next_two (by omega) ‹_›, hc]
  split
  · refine ⟨_, _, rfl, ?_⟩
    rw [List.cons_append, List.cons_append, List.nil_append,
      next_three (by omega) ‹_› (by omega), hc]
  · refine ⟨_, _, rfl, ?_⟩
    rw [List.cons_append, List.cons_append, List.cons_append, List.nil_append,
      next_four (by omega) (by omega), hc]

/-! ### Whole texts -/

theorem decodeParts_encodeChar (c : Char) (rest : List UInt8) :
    decodeParts (encodeChar c ++ rest) = some c :: decodeParts rest := by
  obtain ⟨b, more, hbytes, hnext⟩ := next_encodeChar c rest
  rw [hbytes, List.cons_append, decodeParts_cons, hnext]

/-- The bytes of a text are read as its characters. -/
theorem decodeParts_encode (cs : List Char) : decodeParts (encode cs) = cs.map some := by
  induction cs with
  | nil => rfl
  | cons c rest ih =>
    rw [encode, List.flatMap_cons, decodeParts_encodeChar, ← encode, ih, List.map_cons]

/-- No character of a text is replaced. -/
theorem decodeLossy_encode (cs : List Char) : decodeLossy (encode cs) = cs := by
  rw [decodeLossy, decodeParts_encode, List.map_map]
  exact List.map_id cs

theorem decode?_encode (cs : List Char) : decode? (encode cs) = some cs := by
  rw [decode?, decodeParts_encode]
  induction cs with
  | nil => rfl
  | cons c rest ih =>
    rw [List.map_cons, List.mapM_cons, ih]
    rfl

/-! ### Bytes that are read -/

/-- What a first byte announces, by the number of bytes that follow it. -/
inductive Announced : Nat → Leading → Prop
  | two {n : Nat} (hlow : 2 ≤ n) (hhigh : n < 32) : Announced (n + 0xC0) ⟨1, n, 0x80, 0xBF⟩
  | three {n : Nat} (h : n < 16) :
    Announced (n + 0xE0) ⟨2, n, if n = 0 then 0xA0 else 0x80, if n = 13 then 0x9F else 0xBF⟩
  | four {n : Nat} (h : n < 5) :
    Announced (n + 0xF0) ⟨3, n, if n = 0 then 0x90 else 0x80, if n = 4 then 0x8F else 0xBF⟩

/-- No first byte announces anything else. -/
theorem announced_of_ofByte? {b : Nat} {l : Leading} (h : Leading.ofByte? b = some l) :
    Announced b l := by
  by_cases htwo : 0xC2 ≤ b ∧ b ≤ 0xDF
  · rw [ofByte?_two htwo.1 htwo.2] at h
    cases h
    have := Announced.two (n := b - 0xC0) (by omega) (by omega)
    rwa [Nat.sub_add_cancel (by omega)] at this
  by_cases hthree : 0xE0 ≤ b ∧ b < 0xF0
  · obtain ⟨n, rfl⟩ : ∃ n, b = n + 0xE0 := ⟨b - 0xE0, by omega⟩
    rw [ofByte?_three (by omega)] at h
    cases h
    exact .three (by omega)
  by_cases hfour : 0xF0 ≤ b ∧ b < 0xF5
  · obtain ⟨n, rfl⟩ : ∃ n, b = n + 0xF0 := ⟨b - 0xF0, by omega⟩
    rw [ofByte?_four (by omega)] at h
    cases h
    exact .four (by omega)
  · rw [Leading.ofByte?, if_neg htwo, if_neg (by omega), if_neg (by omega), if_neg (by omega),
      if_neg (by omega), if_neg (by omega), if_neg (by omega)] at h
    cases h

theorem following_eq_some {n bits low high : Nat} {bytes rest : List UInt8} {c : Char}
    (h : following (n + 1) bits low high bytes = (some c, rest)) :
    ∃ b more, bytes = b :: more ∧ low ≤ b.toNat ∧ b.toNat ≤ high ∧
      following n (bits * 64 + (b.toNat - 0x80)) 0x80 0xBF more = (some c, rest) := by
  cases bytes with
  | nil => cases h
  | cons b more =>
    rw [following] at h
    split at h
    case isTrue hb => exact ⟨b, more, rfl, hb.1, hb.2, h⟩
    case isFalse => cases h

theorem following_zero_eq_some {bits low high : Nat} {bytes rest : List UInt8} {c : Char}
    (h : following 0 bits low high bytes = (some c, rest)) : c = Char.ofNat bits ∧ bytes = rest := by
  rw [following] at h
  cases h
  exact ⟨rfl, rfl⟩

theorem encodeChar_ofNat {v : Nat} (h : v < 0xD800 ∨ 0xDFFF < v ∧ v < 0x110000) :
    encodeChar (Char.ofNat v)
      = if v ≤ 0x7F then [UInt8.ofNat v]
        else if v ≤ 0x7FF then [UInt8.ofNat (v / 64 % 32 + 0xC0), UInt8.ofNat (v % 64 + 0x80)]
        else if v ≤ 0xFFFF then
          [UInt8.ofNat (v / 4096 % 16 + 0xE0), UInt8.ofNat (v / 64 % 64 + 0x80),
            UInt8.ofNat (v % 64 + 0x80)]
        else
          [UInt8.ofNat (v / 262144 % 8 + 0xF0), UInt8.ofNat (v / 4096 % 64 + 0x80),
            UInt8.ofNat (v / 64 % 64 + 0x80), UInt8.ofNat (v % 64 + 0x80)] := by
  have hvalid : v.isValidChar := h
  have hv : (Char.ofNat v).val.toNat = v := by
    rw [Char.ofNat, dif_pos hvalid]
    rfl
  rw [encodeChar, String.utf8EncodeChar, hv]

/-- A character that is read off the front of bytes is read off its own bytes. -/
theorem eq_encodeChar_of_next {b : UInt8} {bytes rest : List UInt8} {c : Char}
    (h : next b bytes = (some c, rest)) : b :: bytes = encodeChar c ++ rest := by
  have hb : b.toNat < 256 := b.toNat_lt
  rw [next] at h
  split at h
  case isTrue hone =>
    cases h
    rw [encodeChar_ofNat (by omega), if_pos (by omega), UInt8.ofNat_toNat]
    rfl
  split at h
  · cases h
  case h_2 l hl =>
    -- one byte after the other, and then the bits of all of them
    generalize hn : b.toNat = n at h hl hb
    cases announced_of_ofByte? hl with
    | two hlow hhigh =>
      dsimp only at h
      obtain ⟨b₁, _, rfl, hb₁, hb₁', h⟩ := following_eq_some h
      obtain ⟨hc, hrest⟩ := following_zero_eq_some h
      rw [hc, ← hrest, encodeChar_ofNat (by omega), if_neg (by omega), if_pos (by omega),
        ofNat_eq_byte (b := b) (by omega), ofNat_eq_byte (b := b₁) (by omega)]
      rfl
    | @three n hbits =>
      dsimp only at h
      obtain ⟨b₁, _, rfl, hb₁, hb₁', h⟩ := following_eq_some h
      obtain ⟨b₂, _, rfl, hb₂, hb₂', h⟩ := following_eq_some h
      obtain ⟨hc, hrest⟩ := following_zero_eq_some h
      have hlow : 0x80 ≤ b₁.toNat ∧ (n = 0 → 0xA0 ≤ b₁.toNat) := by split at hb₁ <;> omega
      have hhigh : b₁.toNat ≤ 0xBF ∧ (n = 13 → b₁.toNat ≤ 0x9F) := by split at hb₁' <;> omega
      clear hb₁ hb₁' h hl
      rw [hc, ← hrest, encodeChar_ofNat (by omega), if_neg (by omega), if_neg (by omega), if_pos (by omega),
        ofNat_eq_byte (b := b) (by omega), ofNat_eq_byte (b := b₁) (by omega),
        ofNat_eq_byte (b := b₂) (by omega)]
      rfl
    | @four n hbits =>
      dsimp only at h
      obtain ⟨b₁, _, rfl, hb₁, hb₁', h⟩ := following_eq_some h
      obtain ⟨b₂, _, rfl, hb₂, hb₂', h⟩ := following_eq_some h
      obtain ⟨b₃, _, rfl, hb₃, hb₃', h⟩ := following_eq_some h
      obtain ⟨hc, hrest⟩ := following_zero_eq_some h
      have hlow : 0x80 ≤ b₁.toNat ∧ (n = 0 → 0x90 ≤ b₁.toNat) := by split at hb₁ <;> omega
      have hhigh : b₁.toNat ≤ 0xBF ∧ (n = 4 → b₁.toNat ≤ 0x8F) := by split at hb₁' <;> omega
      clear hb₁ hb₁' h hl
      rw [hc, ← hrest, encodeChar_ofNat (by omega), if_neg (by omega), if_neg (by omega), if_neg (by omega),
        ofNat_eq_byte (b := b) (by omega), ofNat_eq_byte (b := b₁) (by omega),
        ofNat_eq_byte (b := b₂) (by omega), ofNat_eq_byte (b := b₃) (by omega)]
      rfl

theorem eq_map_some_of_mapM_id {parts : List (Option Char)} {cs : List Char}
    (h : parts.mapM id = some cs) : parts = cs.map some := by
  induction parts generalizing cs with
  | nil =>
    cases h
    rfl
  | cons part parts ih =>
    simp only [List.mapM_cons, Option.bind_eq_bind, Option.pure_def, Option.bind_eq_some_iff] at h
    obtain ⟨c, hc, rest, hrest, hcs⟩ := h
    cases hcs
    rw [List.map_cons, ← ih hrest, ← hc, id]

theorem eq_encode_of_decodeParts {bytes : List UInt8} {cs : List Char}
    (h : decodeParts bytes = cs.map some) : bytes = encode cs := by
  induction cs generalizing bytes with
  | nil =>
    cases bytes with
    | nil => rfl
    | cons b rest =>
      rw [decodeParts_cons] at h
      cases h
  | cons c cs ih =>
    cases bytes with
    | nil => cases h
    | cons b rest =>
      rw [decodeParts_cons, List.map_cons, List.cons.injEq] at h
      have hnext : next b rest = (some c, (next b rest).2) := Prod.ext h.1 rfl
      rw [eq_encodeChar_of_next hnext, ih h.2, encode, encode, List.flatMap_cons]

/-- The bytes that are read as a text: its own and no others. -/
theorem decode?_eq_some_iff {bytes : List UInt8} {cs : List Char} :
    decode? bytes = some cs ↔ bytes = encode cs := by
  constructor
  · intro h
    exact eq_encode_of_decodeParts (eq_map_some_of_mapM_id h)
  · rintro rfl
    exact decode?_encode cs

end PasswordGrant.Utf8
