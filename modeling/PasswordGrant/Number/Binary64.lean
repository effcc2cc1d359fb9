/-!
# Binary floating-point numbers

Numbers of 53 significant bits, as documents and settings hold them, kept as an integer mantissa
and a power of two, so that every operation is exact integer arithmetic followed by one rounding.

* `ofRatio` : the number nearest to a fraction, a tie going to the even mantissa;
* `ofDecimal` : the number nearest to a decimal;
* `timesPowerOfTen`, `overPowerOfTen` : one rounded multiplication or division;
* `toNatSaturating` : the nearest natural number below `2 ^ 64`, a half going up.
-/

namespace PasswordGrant

/-- A binary floating-point number. A finite one is `mantissa * 2 ^ exponent`; the mantissa has 53
bits, or fewer where the exponent is the least one, `-1074`. -/
inductive Binary64 where
  | nan
  | infinite (negative : Bool)
  | finite (negative : Bool) (mantissa : Nat) (exponent : Int)
  deriving DecidableEq, Repr

namespace Binary64

def zero (negative : Bool) : Binary64 := .finite negative 0 (-1074)

/-- The quotient of two numbers, rounded to the nearest integer, a tie to the even one. -/
def roundDiv (num den : Nat) : Nat :=
  let q := num / den
  let r := num % den
  if 2 * r < den then q
  else if den < 2 * r then q + 1
  else if q % 2 = 0 then q else q + 1

/-- `num / (den * 2 ^ e)`, rounded to an integer. -/
def roundScaled (num den : Nat) (e : Int) : Nat :=
  roundDiv (num * Nat.pow 2 (-e).toNat) (den * Nat.pow 2 e.toNat)

/-- Settles a rounded mantissa: one that grew to 54 bits moves up, one that is too large is
infinite. -/
def settle (negative : Bool) (mantissa : Nat) (exponent : Int) : Binary64 :=
  let (m, e) :=
    if mantissa = 0x20000000000000 then (0x10000000000000, exponent + 1) else (mantissa, exponent)
  if m = 0 then zero negative
  else if 971 < e then .infinite negative
  else .finite negative m e

/-- The number nearest to a fraction, a tie going to the even mantissa. -/
def ofRatio (negative : Bool) (num den : Nat) : Binary64 :=
  if num = 0 then zero negative
  else
    let guess : Int := (num.log2 : Int) - (den.log2 : Int) - 53
    let wide := num * Nat.pow 2 (-guess).toNat / (den * Nat.pow 2 guess.toNat)
    let exponent := max (-1074) (if wide < 0x20000000000000 then guess else guess + 1)
    settle negative (roundScaled num den exponent) exponent

/-- The number nearest to `mantissa * 2 ^ exponent`, over a divisor. -/
def ofScaled (negative : Bool) (mantissa : Nat) (exponent : Int) (den : Nat) : Binary64 :=
  ofRatio negative (mantissa * Nat.pow 2 exponent.toNat) (den * Nat.pow 2 (-exponent).toNat)

def decimalLength (n : Nat) : Nat := (Nat.toDigits 10 n).length

/-- The number nearest to `digits * 10 ^ exponent`. -/
def ofDecimal (negative : Bool) (digits : Nat) (exponent : Int) : Binary64 :=
  let top := exponent + decimalLength digits
  if digits = 0 ∨ top < -330 then zero negative
  else if 310 < top then .infinite negative
  else ofRatio negative (digits * Nat.pow 10 exponent.toNat) (Nat.pow 10 (-exponent).toNat)

def ofNat (n : Nat) : Binary64 := ofRatio false n 1

/-- The power `10 ^ k`, rounded, as a mantissa and an exponent. -/
def powerOfTen (k : Nat) : Nat × Int :=
  match ofNat (Nat.pow 10 k) with
  | .finite _ m e => (m, e)
  | _ => (0, 0)

/-- The product with the rounded power `10 ^ k`, rounded. -/
def timesPowerOfTen (k : Nat) : Binary64 → Binary64
  | .finite s m e => let p := powerOfTen k; ofScaled s (m * p.1) (e + p.2) 1
  | x => x

/-- The quotient by the rounded power `10 ^ k`, rounded. -/
def overPowerOfTen (k : Nat) : Binary64 → Binary64
  | .finite s m e => let p := powerOfTen k; ofScaled s m (e - p.2) p.1
  | x => x

def isFinite : Binary64 → Bool
  | .finite .. => true
  | _ => false

def isZero : Binary64 → Bool
  | .finite _ m _ => m == 0
  | _ => false

def neg : Binary64 → Binary64
  | .nan => .nan
  | .infinite s => .infinite (!s)
  | .finite s m e => .finite (!s) m e

/-- The nearest natural number below `2 ^ 64`; a half goes up, and what is out of range goes to the
nearer end. -/
def toNatSaturating : Binary64 → Nat
  | .nan => 0
  | .infinite negative => if negative then 0 else 0xFFFFFFFFFFFFFFFF
  | .finite negative m e =>
    if negative then 0
    else min 0xFFFFFFFFFFFFFFFF
      ((2 * m * Nat.pow 2 e.toNat + Nat.pow 2 (-e).toNat) / (2 * Nat.pow 2 (-e).toNat))

end Binary64

end PasswordGrant
