/-!
# Base64

Three bytes as four characters of six bits. One alphabet is for headers, with padding; the other is
for addresses and tokens, without.

* `encode` : with padding, in the standard alphabet;
* `encodeUrl`, `decodeUrl?` : without padding, in the alphabet for addresses; reading refuses
  unused bits that are not zero, so that each list of bytes has one text.
-/

namespace PasswordGrant.Base64

/-- The character of six bits; the last two characters differ between the alphabets. -/
def symbol (c62 c63 : Char) (n : Nat) : Char :=
  if n < 26 then Char.ofNat (65 + n)
  else if n < 52 then Char.ofNat (71 + n)
  else if n < 62 then Char.ofNat (n - 4)
  else if n = 62 then c62 else c63

/-- The characters of bytes, with `pad` for each character that is missing in the last four. -/
def encodeWith (symbol : Nat → Char) (pad : List Char) : List UInt8 → List Char
  | [] => []
  | [a] =>
    symbol (a.toNat / 4) :: symbol (a.toNat % 4 * 16) :: (pad ++ pad)
  | [a, b] =>
    symbol (a.toNat / 4) :: symbol (a.toNat % 4 * 16 + b.toNat / 16)
      :: symbol (b.toNat % 16 * 4) :: pad
  | a :: b :: c :: rest =>
    symbol (a.toNat / 4) :: symbol (a.toNat % 4 * 16 + b.toNat / 16)
      :: symbol (b.toNat % 16 * 4 + c.toNat / 64) :: symbol (c.toNat % 64)
      :: encodeWith symbol pad rest

/-- Bytes in the standard alphabet, with padding. -/
def encode (bytes : List UInt8) : List Char := encodeWith (symbol '+' '/') ['='] bytes

/-- Bytes in the alphabet for addresses, without padding. -/
def encodeUrl (bytes : List UInt8) : List Char := encodeWith (symbol '-' '_') [] bytes

/-- The six bits of a character of the alphabet for addresses. -/
def valueUrl? (c : Char) : Option Nat :=
  let n := c.toNat
  if 65 ≤ n ∧ n ≤ 90 then some (n - 65)
  else if 97 ≤ n ∧ n ≤ 122 then some (n - 71)
  else if 48 ≤ n ∧ n ≤ 57 then some (n + 4)
  else if c = '-' then some 62
  else if c = '_' then some 63
  else none

/-- The bytes of six-bit values. -/
def decodeValues? : List Nat → Option (List UInt8)
  | [] => some []
  | [_] => none
  | [p, q] => if q % 16 = 0 then some [UInt8.ofNat (p * 4 + q / 16)] else none
  | [p, q, r] =>
    if r % 4 = 0 then
      some [UInt8.ofNat (p * 4 + q / 16), UInt8.ofNat (q % 16 * 16 + r / 4)]
    else none
  | p :: q :: r :: s :: rest =>
    (decodeValues? rest).map fun bytes =>
      UInt8.ofNat (p * 4 + q / 16) :: UInt8.ofNat (q % 16 * 16 + r / 4)
        :: UInt8.ofNat (r % 4 * 64 + s) :: bytes

/-- The bytes of a text in the alphabet for addresses, without padding. -/
def decodeUrl? (cs : List Char) : Option (List UInt8) :=
  (cs.mapM valueUrl?).bind decodeValues?

end PasswordGrant.Base64
