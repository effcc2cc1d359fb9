import PasswordGrant.Text.Hex
import PasswordGrant.Text.Utf8

/-!
# Percent signs in addresses

A character that may not stand in a part of an address is written as the bytes of its UTF-8 form,
each as a percent sign with two digits. Which characters those are depends on the part; characters
beyond ASCII always are.

* the sets `inFragment`, `inQuery`, `inPath`, `inSegment`, `inUserInfo` : what is encoded where;
* `encode` : a text with the characters of a set encoded;
* `decode` : the bytes of a text, encoded ones resolved.
-/

namespace PasswordGrant.Percent

/-- Controls and everything beyond ASCII. -/
def inControls (c : Char) : Bool := c.toNat < 0x20 || 0x7F ≤ c.toNat

/-- What is encoded in a fragment. -/
def inFragment (c : Char) : Bool :=
  inControls c || c = ' ' || c = '"' || c = '<' || c = '>' || c = '\x60'

/-- What is encoded in a query. -/
def inQuery (c : Char) : Bool :=
  inControls c || c = ' ' || c = '"' || c = '#' || c = '<' || c = '>' || c = '\x27'

/-- What is encoded in a path that is read as a whole. -/
def inPath (c : Char) : Bool := inFragment c || c = '#' || c = '?' || c = '\x7b' || c = '\x7d'

/-- What is encoded in a path segment that is put into an address: the separators as well, and
the percent sign, so that a segment says what it said before. -/
def inSegment (c : Char) : Bool := inPath c || c = '/' || c = '%' || c = '\\'

/-- What is encoded in a user name or a password. -/
def inUserInfo (c : Char) : Bool :=
  inPath c || c = '/' || c = ':' || c = ';' || c = '=' || c = '@' || c = '[' || c = '\\'
    || c = ']' || c = '^' || c = '|'

def encodeByte (b : UInt8) : List Char :=
  ['%', Hex.digit (b.toNat / 16), Hex.digit (b.toNat % 16)]

/-- One character: encoded if it is in the set. -/
def encodeChar (set : Char → Bool) (c : Char) : List Char :=
  if set c then (Utf8.encodeChar c).flatMap encodeByte else [c]

/-- A text with the characters of a set encoded. -/
def encode (set : Char → Bool) (cs : List Char) : List Char := cs.flatMap (encodeChar set)

/-- The bytes of a text, encoded ones resolved. A percent sign without two digits stands for
itself. -/
def decode : List Char → List UInt8
  | [] => []
  | '%' :: h :: l :: rest =>
    match Hex.value? h, Hex.value? l with
    | some h, some l => UInt8.ofNat (h * 16 + l) :: decode rest
    | _, _ => 37 :: decode (h :: l :: rest)
  | c :: rest => Utf8.encodeChar c ++ decode rest

/-- The text of encoded bytes, if they are one. -/
def decodeText? (s : String) : Option String :=
  (Utf8.decode? (decode s.toList)).map String.ofList

end PasswordGrant.Percent
