import PasswordGrant.Number.Binary64

/-!
# The shortest decimal text of a number

A finite number is written with the fewest decimal digits that read back as it; of the decimals
with that many digits, the nearest.

* `Shortest.decimal` : those digits;
* `Binary64.plainText` : positional, whatever the size;
* `Binary64.documentText` : positional from `10 ^ -4` up to below `10 ^ 16`, always with a point,
  and with an exponent of at least two digits beyond.
-/

namespace PasswordGrant

namespace Shortest

/-- Compares decimals `digits * 10 ^ k` with binaries `quarters * 2 ^ (e - 2)` by bringing both to
whole numbers: the decimal's side. -/
def decimalSide (e k : Int) (digits : Nat) : Nat :=
  digits * Nat.pow 10 k.toNat * Nat.pow 2 (2 - e).toNat

def binarySide (e k : Int) (quarters : Nat) : Nat :=
  quarters * Nat.pow 2 (e - 2).toNat * Nat.pow 10 (-k).toNat

/-- Whether a decimal lies in the interval of numbers that round to `m * 2 ^ e`. The gap below is
half as wide where the mantissa is the least of its binade, and the ends belong to the interval
when the mantissa is even. -/
def readsBack (m : Nat) (e k : Int) (digits : Nat) : Bool :=
  let low := if m = 0x10000000000000 ∧ -1074 < e then 4 * m - 1 else 4 * m - 2
  let d := decimalSide e k digits
  if m % 2 = 0 then binarySide e k low ≤ d && d ≤ binarySide e k (4 * m + 2)
  else binarySide e k low < d && d < binarySide e k (4 * m + 2)

/-- The decimal on the grid `10 ^ k` that reads back as the number: of its two neighbours there the
nearer, of two equally near ones the even. -/
def onGrid? (m : Nat) (e k : Int) : Option Nat :=
  let value := binarySide e k (4 * m)
  let below := value / decimalSide e k 1
  let above := below + 1
  let sum := decimalSide e k below + decimalSide e k above
  let belowFirst := 2 * value < sum || (2 * value == sum && below % 2 == 0)
  match readsBack m e k below, readsBack m e k above with
  | true, true => some (if belowFirst then below else above)
  | true, false => some below
  | false, true => some above
  | false, false => none

/-- The number of digits before the point, or minus the number of zeros after it. -/
def pointPosition (m : Nat) (e : Int) : Int :=
  let scaled := m * Nat.pow 2 e.toNat * Nat.pow 10 400 / Nat.pow 2 (-e).toNat
  (Binary64.decimalLength scaled : Int) - 400

def search (m : Nat) (e top : Int) : Nat → Nat → Nat × Int
  | 0, _ => (m, 0)
  | more + 1, places =>
    match onGrid? m e (top - places) with
    | some d => (d, top - places)
    | none => search m e top more (places + 1)

/-- Moves trailing zeros into the exponent. -/
def strip : Nat → Nat × Int → Nat × Int
  | 0, d => d
  | n + 1, (d, k) => if d % 10 = 0 then strip n (d / 10, k + 1) else (d, k)

/-- The fewest digits, and the power of ten of the last of them, that read back as the positive
number `m * 2 ^ e`. Seventeen digits always suffice. -/
def decimal (m : Nat) (e : Int) : Nat × Int :=
  strip 20 (search m e (pointPosition m e) 18 1)

end Shortest

/-- Digits with the point put in, and no exponent. -/
def positional (digits : List Char) (exponent : Int) : List Char :=
  if 0 ≤ exponent then digits ++ List.replicate exponent.toNat '0'
  else
    let before := (digits.length : Int) + exponent
    if before ≤ 0 then '0' :: '.' :: List.replicate (-before).toNat '0' ++ digits
    else digits.take before.toNat ++ '.' :: digits.drop before.toNat

/-- Digits with a point after the first and a signed exponent of at least two digits. -/
def scientific (digits : List Char) (exponent : Int) : List Char :=
  let power := exponent + digits.length - 1
  let size := Nat.toDigits 10 power.natAbs
  let fraction := if digits.length ≤ 1 then [] else '.' :: digits.drop 1
  digits.take 1 ++ fraction ++ 'e' :: (if power < 0 then '-' else '+')
    :: (if size.length < 2 then '0' :: size else size)

namespace Binary64

/-- A number without an exponent, whatever its size. -/
def plainText : Binary64 → String
  | .nan => "NaN"
  | .infinite negative => if negative then "-inf" else "inf"
  | .finite negative m e =>
    let sign := if negative then "-" else ""
    if m = 0 then sign ++ "0"
    else
      let (digits, k) := Shortest.decimal m e
      sign ++ String.ofList (positional (Nat.toDigits 10 digits) k)

/-- A number with a point in every case and no exponent. -/
def pointedText (x : Binary64) : String :=
  let text := x.plainText
  if x.isFinite && !text.toList.contains '.' then text ++ ".0" else text

/-- A number as a document shows it. -/
def documentText : Binary64 → String
  | .finite negative m e =>
    if m = 0 then (Binary64.finite negative m e).pointedText
    else
      let (digits, k) := Shortest.decimal m e
      let power := k + decimalLength digits - 1
      if -4 ≤ power ∧ power < 16 then (Binary64.finite negative m e).pointedText
      else (if negative then "-" else "") ++ String.ofList (scientific (Nat.toDigits 10 digits) k)
  | x => x.plainText

end Binary64

end PasswordGrant
