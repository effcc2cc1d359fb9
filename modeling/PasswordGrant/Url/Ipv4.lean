import PasswordGrant.Text.Hex
import PasswordGrant.Text.Split

/-!
# Four-byte addresses

A host whose last label is a number is an address of four bytes. Labels may be decimal, octal after
a zero, or hexadecimal after `0x`, and the last one fills all the bytes that are left.

* `Ipv4.isNumeric` : whether a host claims to be such an address;
* `Ipv4.parse?` : the address; `Ipv4.text` : its usual form.
-/

namespace PasswordGrant.Ipv4

def isDigit (c : Char) : Bool := '0' ≤ c && c ≤ '9'

/-- The value of digits in a base; `none` if one of them is no digit of it. -/
def digitsValue? (base : Nat) (cs : List Char) : Option Nat :=
  cs.foldl (fun acc c => do
    let n ← acc
    let d ← Hex.value? c
    if d < base then some (n * base + d) else none) (some 0)

def number? (label : List Char) : Option Nat :=
  match label with
  | [] => none
  | '0' :: 'x' :: digits => digitsValue? 16 digits
  | '0' :: 'X' :: digits => digitsValue? 16 digits
  | '0' :: d :: digits => digitsValue? 8 (d :: digits)
  | digits => digitsValue? 10 digits

/-- The labels of a host, one empty label at its end left out. -/
def labels (host : List Char) : List (List Char) :=
  let parts := Text.splitOn (· == '.') host
  if parts.length ≠ 1 ∧ parts.getLast? = some [] then parts.dropLast else parts

/-- Whether a host claims to be an address: its last label is a number. -/
def isNumeric (host : List Char) : Bool :=
  match (labels host).getLast? with
  | none => false
  | some label => (!label.isEmpty && label.all isDigit) || (number? label).isSome

/-- The address of numbers: all but the last are bytes, and the last fills what is left. -/
def assemble? : List Nat → Option Nat
  | [] => none
  | numbers =>
    let init := numbers.dropLast
    let last := numbers.getLast?.getD 0
    if init.any (255 < ·) ∨ Nat.pow 256 (4 - init.length) ≤ last then none
    else some (init.foldl (fun acc n => acc * 256 + n) 0 * Nat.pow 256 (4 - init.length) + last)

/-- The address that a host is. -/
def parse? (host : List Char) : Option Nat :=
  let parts := labels host
  if 4 < parts.length then none
  else (parts.mapM number?).bind assemble?

/-- The four bytes in decimal, with points between them. -/
def text (address : Nat) : String :=
  ".".intercalate
    [(address / 16777216 % 256).repr, (address / 65536 % 256).repr, (address / 256 % 256).repr,
     (address % 256).repr]

end PasswordGrant.Ipv4
