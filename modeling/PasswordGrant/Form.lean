import PasswordGrant.Text.Hex
import PasswordGrant.Text.Split
import PasswordGrant.Text.Utf8

/-!
# Form bodies

Name and value pairs as `application/x-www-form-urlencoded`: ASCII letters, digits and `*-._` stand
for themselves, a space is a plus sign, and every other byte of the UTF-8 form is a percent sign
with two digits.

* `Form.encode` : the body of a list of pairs;
* `Form.decode` : the pairs of a body.
-/

namespace PasswordGrant.Form

/-- The bytes that stand for themselves. -/
def isPlain (b : UInt8) : Bool :=
  let n := b.toNat
  (48 ≤ n && n ≤ 57) || (65 ≤ n && n ≤ 90) || (97 ≤ n && n ≤ 122)
    || n == 42 || n == 45 || n == 46 || n == 95

/-- One byte of a name or a value. -/
def encodeByte (b : UInt8) : List Char :=
  if isPlain b then [Char.ofNat b.toNat]
  else if b = 32 then ['+']
  else ['%', Hex.digit (b.toNat / 16), Hex.digit (b.toNat % 16)]

def encodeComponent (s : String) : List Char := (Utf8.encode s.toList).flatMap encodeByte

def encodePair (p : String × String) : List Char :=
  encodeComponent p.1 ++ '=' :: encodeComponent p.2

def encodeChars : List (String × String) → List Char
  | [] => []
  | [p] => encodePair p
  | p :: q :: rest => encodePair p ++ '&' :: encodeChars (q :: rest)

/-- The body of a list of pairs. -/
def encode (pairs : List (String × String)) : String := String.ofList (encodeChars pairs)

/-! ### Reading a body back -/

/-- The bytes that an encoded name or value stands for. A percent sign without two digits stands
for itself. -/
def decodeBytes : List Char → List UInt8
  | [] => []
  | '%' :: h :: l :: rest =>
    match Hex.value? h, Hex.value? l with
    | some h, some l => UInt8.ofNat (h * 16 + l) :: decodeBytes rest
    | _, _ => 37 :: decodeBytes (h :: l :: rest)
  | c :: rest => (if c = '+' then [32] else Utf8.encodeChar c) ++ decodeBytes rest

def decodeComponent (cs : List Char) : String :=
  String.ofList (Utf8.decodeLossy (decodeBytes cs))

/-- A pair, split at its first equals sign. -/
def decodePair (cs : List Char) : String × String :=
  (decodeComponent (cs.takeWhile (· != '=')), decodeComponent ((cs.dropWhile (· != '=')).drop 1))

/-- The pairs of a body; empty parts are no pairs. -/
def decode (body : String) : List (String × String) :=
  ((Text.splitOn (· == '&') body.toList).filter fun p => !p.isEmpty).map decodePair

end PasswordGrant.Form
