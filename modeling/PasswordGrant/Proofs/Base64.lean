import PasswordGrant.Base64
import PasswordGrant.Proofs.Utf8

/-!
# Reading base64

A header carries bytes in the standard alphabet, four characters for three bytes, with padding in the
last four. Whoever receives it reads the bytes back, so different bytes are written differently.

* `Base64.value?` : the six bits of a character;
* `Base64.decode?` : the bytes of a text with padding;
* `Base64.decode?_encode` : what was written is read back;
* `Base64.encode_injective` : so no two lists of bytes are written alike.
-/

namespace PasswordGrant.Base64

/-- The six bits that a character of the standard alphabet stands for. -/
def value? (c : Char) : Option Nat := (List.range 64).find? fun n => symbol '+' '/' n == c

/-- The bytes of one group of characters. -/
def group? (cs : List Char) : Option (List UInt8) := (cs.mapM value?).bind decodeValues?

/-- The bytes of a text in the standard alphabet. Only the last four characters may be padded. -/
def decode? : List Char → Option (List UInt8)
  | [] => some []
  | p :: q :: r :: s :: rest =>
    if rest = [] ∧ s = '=' then group? (if r = '=' then [p, q] else [p, q, r])
    else do
      let bytes ← group? [p, q, r, s]
      let more ← decode? rest
      some (bytes ++ more)
  | _ => none

/-! ### One character -/

theorem value?_symbol {n : Nat} (h : n < 64) : value? (symbol '+' '/' n) = some n := by
  have all : ∀ m : Fin 64, value? (symbol '+' '/' m.val) = some m.val := by decide +kernel
  exact all ⟨n, h⟩

theorem symbol_ne_pad {n : Nat} (h : n < 64) : symbol '+' '/' n ≠ '=' := by
  have all : ∀ m : Fin 64, symbol '+' '/' m.val ≠ '=' := by decide
  exact all ⟨n, h⟩

/-! ### One group -/

theorem mapM_value?_symbol {ns : List Nat} (h : ∀ n ∈ ns, n < 64) :
    (ns.map (symbol '+' '/')).mapM value? = some ns := by
  induction ns with
  | nil => rfl
  | cons n ns ih =>
    rw [List.forall_mem_cons] at h
    rw [List.map_cons, List.mapM_cons, value?_symbol h.1, ih h.2]
    rfl

theorem group?_map_symbol (ns : List Nat) (h : ∀ n ∈ ns, n < 64) :
    group? (ns.map (symbol '+' '/')) = decodeValues? ns := by
  rw [group?, mapM_value?_symbol h, Option.bind_some]

theorem group?_one (a : UInt8) :
    group? [symbol '+' '/' (a.toNat / 4), symbol '+' '/' (a.toNat % 4 * 16)] = some [a] := by
  have ha : a.toNat < 256 := a.toNat_lt
  have hgroup := group?_map_symbol [a.toNat / 4, a.toNat % 4 * 16] (by
    simp only [List.forall_mem_cons, List.not_mem_nil, false_implies, implies_true, and_true]
    omega)
  rw [decodeValues?, if_pos (by omega), Utf8.ofNat_eq_byte (b := a) (by omega)] at hgroup
  exact hgroup

theorem group?_two (a b : UInt8) :
    group? [symbol '+' '/' (a.toNat / 4), symbol '+' '/' (a.toNat % 4 * 16 + b.toNat / 16),
      symbol '+' '/' (b.toNat % 16 * 4)] = some [a, b] := by
  have ha : a.toNat < 256 := a.toNat_lt
  have hb : b.toNat < 256 := b.toNat_lt
  have hgroup := group?_map_symbol
    [a.toNat / 4, a.toNat % 4 * 16 + b.toNat / 16, b.toNat % 16 * 4] (by
    simp only [List.forall_mem_cons, List.not_mem_nil, false_implies, implies_true, and_true]
    omega)
  rw [decodeValues?, if_pos (by omega), Utf8.ofNat_eq_byte (b := a) (by omega),
    Utf8.ofNat_eq_byte (b := b) (by omega)] at hgroup
  exact hgroup

theorem group?_three (a b c : UInt8) :
    group? [symbol '+' '/' (a.toNat / 4), symbol '+' '/' (a.toNat % 4 * 16 + b.toNat / 16),
      symbol '+' '/' (b.toNat % 16 * 4 + c.toNat / 64), symbol '+' '/' (c.toNat % 64)]
      = some [a, b, c] := by
  have ha : a.toNat < 256 := a.toNat_lt
  have hb : b.toNat < 256 := b.toNat_lt
  have hc : c.toNat < 256 := c.toNat_lt
  have hgroup := group?_map_symbol [a.toNat / 4, a.toNat % 4 * 16 + b.toNat / 16,
    b.toNat % 16 * 4 + c.toNat / 64, c.toNat % 64] (by
    simp only [List.forall_mem_cons, List.not_mem_nil, false_implies, implies_true, and_true]
    omega)
  rw [decodeValues?, decodeValues?, Option.map_some, Utf8.ofNat_eq_byte (b := a) (by omega),
    Utf8.ofNat_eq_byte (b := b) (by omega), Utf8.ofNat_eq_byte (b := c) (by omega)] at hgroup
  exact hgroup

/-! ### Whole texts -/

/-- What was written is read back. -/
theorem decode?_encode (bytes : List UInt8) : decode? (encode bytes) = some bytes := by
  unfold encode
  fun_induction encodeWith (symbol '+' '/') ['='] bytes with
  | case1 => rfl
  | case2 a => exact group?_one a
  | case3 a b =>
    have hb : b.toNat < 256 := b.toNat_lt
    have hpad : symbol '+' '/' (b.toNat % 16 * 4) ≠ '=' := symbol_ne_pad (by omega)
    rw [decode?, if_pos ⟨rfl, rfl⟩, if_neg hpad, group?_two]
  | case4 a b c rest ih =>
    have hc : c.toNat < 256 := c.toNat_lt
    have hpad : symbol '+' '/' (c.toNat % 64) ≠ '=' := symbol_ne_pad (by omega)
    rw [decode?, if_neg fun h => hpad h.2, group?_three, ih]
    rfl

/-- No two lists of bytes are written alike. -/
theorem encode_injective {s t : List UInt8} (h : encode s = encode t) : s = t :=
  Option.some.inj (by rw [← decode?_encode, h, decode?_encode])

end PasswordGrant.Base64
