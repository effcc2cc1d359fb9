import PasswordGrant.Number.Binary64
import PasswordGrant.Text.Blank

/-!
# Numbers in settings

How the text of a setting is read as a number: whole numbers with a sign, and decimals with a
fraction, an exponent, or the names of the numbers that are not finite.

* `Numeral.integer?`, `Numeral.natural?` : whole numbers of 64 bits;
* `Numeral.float?` : any other number.
-/

namespace PasswordGrant.Numeral

/-- The value of digits; `none` if there are none or others. -/
def digits? (cs : List Char) : Option Nat :=
  if cs.isEmpty || !cs.all Char.isDigit then none
  else some (cs.foldl (fun acc c => acc * 10 + (c.toNat - 48)) 0)

def sign (cs : List Char) : Bool × List Char :=
  match cs with
  | '+' :: rest => (false, rest)
  | '-' :: rest => (true, rest)
  | rest => (false, rest)

/-- A whole number of 64 bits, with an optional sign. -/
def integer? (s : String) : Option Int :=
  let (negative, rest) := sign s.toList
  (digits? rest).bind fun n =>
    if negative then (if n ≤ 0x8000000000000000 then some (-n) else none)
    else if n < 0x8000000000000000 then some n else none

/-- A whole number from zero up, below `2 ^ 64`, with an optional plus sign. -/
def natural? (s : String) : Option Nat :=
  let rest := match s.toList with
    | '+' :: rest => rest
    | rest => rest
  (digits? rest).filter fun n => decide (n < 0x10000000000000000)

def exponent? (cs : List Char) : Option Int :=
  let (negative, rest) := sign cs
  (digits? rest).map fun n => if negative then -n else n

/-- A decimal without its sign: digits with an optional point among them or at either end, and an
optional exponent. -/
def decimal? (negative : Bool) (cs : List Char) : Option Binary64 :=
  let mantissa := cs.takeWhile fun c => c != 'e' && c != 'E'
  let tail := cs.dropWhile fun c => c != 'e' && c != 'E'
  let whole := mantissa.takeWhile (· != '.')
  let fraction := (mantissa.dropWhile (· != '.')).drop 1
  match digits? (whole ++ fraction) with
  | none => none
  | some n =>
    let exponent := match tail with
      | [] => some 0
      | _ :: rest => exponent? rest
    exponent.map fun e => Binary64.ofDecimal negative n (e - fraction.length)

/-- A number, finite or not. -/
def float? (s : String) : Option Binary64 :=
  let (negative, rest) := sign s.toList
  let name := rest.map Char.toLower
  if name = "inf".toList ∨ name = "infinity".toList then some (.infinite negative)
  else if name = "nan".toList then some .nan
  else decimal? negative rest

end PasswordGrant.Numeral
