import PasswordGrant.Proofs.Base64
import PasswordGrant.Proofs.Header

/-!
# Base64 in addresses and tokens

The alphabet for addresses is written without padding, and its reader refuses bits that no byte uses.
So reading undoes writing, and writing undoes reading: each list of bytes has one text, and no other
text is read as it.

* `Base64.sextets` : bytes as values of six bits;
* `Base64.decodeValues?_eq_some_iff` : the values that are read as given bytes;
* `Base64.decodeUrl?_eq_some_iff` : the text that is read as given bytes;
* `Base64.not_mem_encodeUrl` : what no such text holds.
-/

namespace PasswordGrant.Base64

/-- Bytes as values of six bits, the last one filled up with zeros. -/
def sextets : List UInt8 → List Nat
  | [] => []
  | [a] => [a.toNat / 4, a.toNat % 4 * 16]
  | [a, b] => [a.toNat / 4, a.toNat % 4 * 16 + b.toNat / 16, b.toNat % 16 * 4]
  | a :: b :: c :: rest =>
    a.toNat / 4 :: (a.toNat % 4 * 16 + b.toNat / 16) :: (b.toNat % 16 * 4 + c.toNat / 64)
      :: c.toNat % 64 :: sextets rest

/-! ### One character -/

/-- The characters of the alphabet are read as the values that they are written for, and no other
character is read. -/
theorem valueUrl?_eq_some_iff {c : Char} {n : Nat} :
    valueUrl? c = some n ↔ n < 64 ∧ c = symbol '-' '_' n := by
  have hself : Char.ofNat c.toNat = c := Char.ofNat_toNat c
  constructor
  · intro h
    simp only [valueUrl?] at h
    split at h
    case isTrue hupper =>
      cases h
      have hsum : 65 + (c.toNat - 65) = c.toNat := by omega
      rw [symbol, if_pos (by omega), hsum, hself]
      exact ⟨by omega, rfl⟩
    split at h
    case isTrue hlower =>
      cases h
      have hsum : 71 + (c.toNat - 71) = c.toNat := by omega
      rw [symbol, if_neg (by omega), if_pos (by omega), hsum, hself]
      exact ⟨by omega, rfl⟩
    split at h
    case isTrue hdigit =>
      cases h
      have hdifference : c.toNat + 4 - 4 = c.toNat := by omega
      rw [symbol, if_neg (by omega), if_neg (by omega), if_pos (by omega), hdifference, hself]
      exact ⟨by omega, rfl⟩
    split at h
    case isTrue hc =>
      cases h
      exact ⟨by decide, hc⟩
    split at h
    case isTrue hc =>
      cases h
      exact ⟨by decide, hc⟩
    case isFalse => cases h
  · rintro ⟨hn, rfl⟩
    have all : ∀ m : Fin 64, valueUrl? (symbol '-' '_' m.val) = some m.val := by decide
    exact all ⟨n, hn⟩

/-- So are texts. -/
theorem mapM_valueUrl?_eq_some_iff {cs : List Char} {ns : List Nat} :
    cs.mapM valueUrl? = some ns ↔ (∀ n ∈ ns, n < 64) ∧ cs = ns.map (symbol '-' '_') := by
  induction cs generalizing ns with
  | nil =>
    cases ns with
    | nil => simp
    | cons n ns => simp
  | cons c cs ih =>
    simp only [List.mapM_cons, Option.bind_eq_bind, Option.pure_def, Option.bind_eq_some_iff, ih,
      valueUrl?_eq_some_iff]
    constructor
    · rintro ⟨n, ⟨hn, rfl⟩, rest, ⟨hrest, rfl⟩, hns⟩
      cases hns
      exact ⟨List.forall_mem_cons.mpr ⟨hn, hrest⟩, rfl⟩
    · rintro ⟨hbound, htext⟩
      cases ns with
      | nil => cases htext
      | cons n ns =>
        rw [List.forall_mem_cons] at hbound
        rw [List.map_cons, List.cons.injEq] at htext
        exact ⟨n, ⟨hbound.1, htext.1⟩, ns, ⟨hbound.2, htext.2⟩, rfl⟩

/-! ### Values of six bits -/

theorem sextets_lt (bytes : List UInt8) : ∀ n ∈ sextets bytes, n < 64 := by
  fun_induction sextets bytes with
  | case1 => exact List.forall_mem_nil _
  | case2 a =>
    have ha : a.toNat < 256 := a.toNat_lt
    simp only [List.forall_mem_cons, List.not_mem_nil, false_implies, implies_true, and_true]
    omega
  | case3 a b =>
    have ha : a.toNat < 256 := a.toNat_lt
    have hb : b.toNat < 256 := b.toNat_lt
    simp only [List.forall_mem_cons, List.not_mem_nil, false_implies, implies_true, and_true]
    omega
  | case4 a b c rest ih =>
    have ha : a.toNat < 256 := a.toNat_lt
    have hb : b.toNat < 256 := b.toNat_lt
    have hc : c.toNat < 256 := c.toNat_lt
    simp only [List.forall_mem_cons]
    exact ⟨by omega, by omega, by omega, by omega, ih⟩

theorem encodeWith_eq_map_sextets (symbol : Nat → Char) (bytes : List UInt8) :
    encodeWith symbol [] bytes = (sextets bytes).map symbol := by
  fun_induction sextets bytes with
  | case1 => rfl
  | case2 a => rfl
  | case3 a b => rfl
  | case4 a b c rest ih => rw [encodeWith, ih]; rfl

theorem decodeValues?_sextets (bytes : List UInt8) : decodeValues? (sextets bytes) = some bytes := by
  fun_induction sextets bytes with
  | case1 => rfl
  | case2 a =>
    have ha : a.toNat < 256 := a.toNat_lt
    rw [decodeValues?, if_pos (by omega), Utf8.ofNat_eq_byte (b := a) (by omega)]
  | case3 a b =>
    have ha : a.toNat < 256 := a.toNat_lt
    have hb : b.toNat < 256 := b.toNat_lt
    rw [decodeValues?, if_pos (by omega), Utf8.ofNat_eq_byte (b := a) (by omega),
      Utf8.ofNat_eq_byte (b := b) (by omega)]
  | case4 a b c rest ih =>
    have ha : a.toNat < 256 := a.toNat_lt
    have hb : b.toNat < 256 := b.toNat_lt
    have hc : c.toNat < 256 := c.toNat_lt
    rw [decodeValues?, ih, Option.map_some, Utf8.ofNat_eq_byte (b := a) (by omega),
      Utf8.ofNat_eq_byte (b := b) (by omega), Utf8.ofNat_eq_byte (b := c) (by omega)]

/-- Values that are read as bytes are the values of those bytes: no bit is left over. -/
theorem eq_sextets_of_decodeValues? {ns : List Nat} {bytes : List UInt8} (hns : ∀ n ∈ ns, n < 64)
    (h : decodeValues? ns = some bytes) : ns = sextets bytes := by
  fun_induction decodeValues? ns generalizing bytes with
  | case1 => cases h; rfl
  | case2 p => cases h
  | case3 p q hzero =>
    cases h
    simp only [List.forall_mem_cons, List.not_mem_nil, false_implies, implies_true, and_true] at hns
    rw [sextets, Utf8.toNat_byte (by omega), List.cons.injEq, List.cons.injEq]
    exact ⟨by omega, by omega, rfl⟩
  | case4 p q hone => cases h
  | case5 p q r hzero =>
    cases h
    simp only [List.forall_mem_cons, List.not_mem_nil, false_implies, implies_true, and_true] at hns
    rw [sextets, Utf8.toNat_byte (by omega), Utf8.toNat_byte (by omega), List.cons.injEq,
      List.cons.injEq, List.cons.injEq]
    exact ⟨by omega, by omega, by omega, rfl⟩
  | case6 p q r hone => cases h
  | case7 p q r s rest ih =>
    obtain ⟨more, hmore, rfl⟩ := Option.map_eq_some_iff.mp h
    simp only [List.forall_mem_cons] at hns
    obtain ⟨hp, hq, hr, hs, hrest⟩ := hns
    rw [sextets, Utf8.toNat_byte (by omega), Utf8.toNat_byte (by omega),
      Utf8.toNat_byte (by omega), ← ih hrest hmore, List.cons.injEq, List.cons.injEq,
      List.cons.injEq, List.cons.injEq]
    exact ⟨by omega, by omega, by omega, by omega, rfl⟩

/-- The values that are read as given bytes. -/
theorem decodeValues?_eq_some_iff {ns : List Nat} {bytes : List UInt8} (hns : ∀ n ∈ ns, n < 64) :
    decodeValues? ns = some bytes ↔ ns = sextets bytes := by
  refine ⟨eq_sextets_of_decodeValues? hns, ?_⟩
  rintro rfl
  exact decodeValues?_sextets bytes

/-! ### Whole texts -/

/-- The text that bytes are written as is read as those bytes, and no other text is. -/
theorem decodeUrl?_eq_some_iff {cs : List Char} {bytes : List UInt8} :
    decodeUrl? cs = some bytes ↔ cs = encodeUrl bytes := by
  rw [encodeUrl, encodeWith_eq_map_sextets, decodeUrl?, Option.bind_eq_some_iff]
  constructor
  · rintro ⟨ns, hns, hbytes⟩
    obtain ⟨hbound, rfl⟩ := mapM_valueUrl?_eq_some_iff.mp hns
    rw [(decodeValues?_eq_some_iff hbound).mp hbytes]
  · rintro rfl
    exact ⟨sextets bytes, mapM_valueUrl?_eq_some_iff.mpr ⟨sextets_lt bytes, rfl⟩,
      decodeValues?_sextets bytes⟩

/-- A text of bytes holds neither the padding nor the point between the parts of a token. -/
theorem not_mem_encodeUrl (bytes : List UInt8) :
    '=' ∉ encodeUrl bytes ∧ '.' ∉ encodeUrl bytes := by
  have hsymbol : ∀ n, n < 64 → symbol '-' '_' n ≠ '=' ∧ symbol '-' '_' n ≠ '.' := by
    have all : ∀ m : Fin 64, symbol '-' '_' m.val ≠ '=' ∧ symbol '-' '_' m.val ≠ '.' := by decide
    exact fun n h => all ⟨n, h⟩
  have hfree := forall_mem_encodeWith (P := fun c => c ≠ '=' ∧ c ≠ '.') hsymbol
    (List.forall_mem_nil _) bytes
  exact ⟨fun hmem => (hfree _ hmem).1 rfl, fun hmem => (hfree _ hmem).2 rfl⟩

end PasswordGrant.Base64
