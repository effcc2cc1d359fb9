/-!
# Hexadecimal digits

Single digits of base sixteen and bytes as two of them, in either case.

* `digit` and `digitLower` : the character of a value below sixteen;
* `digitsLower` : the digits of any number;
* `value?` : the value of a character, in either case.
-/

namespace PasswordGrant.Hex

/-- The upper-case digit of a value below sixteen. -/
def digit (n : Nat) : Char :=
  if n < 10 then Char.ofNat (48 + n) else Char.ofNat (55 + n)

/-- The lower-case digit of a value below sixteen. -/
def digitLower (n : Nat) : Char :=
  if n < 10 then Char.ofNat (48 + n) else Char.ofNat (87 + n)

/-- The value of a hexadecimal digit in either case. -/
def value? (c : Char) : Option Nat :=
  let n := c.toNat
  if 48 ≤ n ∧ n ≤ 57 then some (n - 48)
  else if 65 ≤ n ∧ n ≤ 70 then some (n - 55)
  else if 97 ≤ n ∧ n ≤ 102 then some (n - 87)
  else none

/-- The lower-case digits of a number, without leading zeros. -/
def digitsLower (n : Nat) : List Char := Nat.toDigits 16 n

theorem value?_digit {n : Nat} (h : n < 16) : value? (digit n) = some n := by
  have all : ∀ m : Fin 16, value? (digit m.val) = some m.val := by decide
  exact all ⟨n, h⟩

theorem value?_digitLower {n : Nat} (h : n < 16) : value? (digitLower n) = some n := by
  have all : ∀ m : Fin 16, value? (digitLower m.val) = some m.val := by decide
  exact all ⟨n, h⟩

end PasswordGrant.Hex
