import PasswordGrant.Unicode.Packed

/-!
# Lower case

Texts in lower case. Most letters have one letter in lower case, whatever stands around them. Two are
different: a capital letter i with a dot keeps the dot as a mark, and the Greek sigma has another form
at the end of a word.

* `lowerChar` : a letter in lower case on its own;
* `lower` : a text in lower case.
-/

namespace PasswordGrant.Unicode

/-- A run of letters at equal steps, each of which has its lower case at the same distance. -/
structure LowerRun where
  start : Nat
  count : Nat
  step : Nat
  distance : Int
  deriving DecidableEq, Repr

/-- Reads runs; the start of each is given by its difference to the one before. -/
def lowerRunsFrom (last : Nat) : List Nat → List LowerRun
  | gap :: shape :: distance :: rest =>
    ⟨last + gap, shape / 2 + 1, shape % 2 + 1, Packed.signed distance⟩
      :: lowerRunsFrom (last + gap) rest
  | _ => []

/-- The runs of all letters that have a single letter in lower case. -/
def lowerRuns : List LowerRun := lowerRunsFrom 0 (Packed.numbers [
  "AtAeAsCjA8AsocAsA4Ab2Ae527f2hA92Aa0Fp15280Ko13240Kg10222Ke20230De10K810Ka10220Ke10Ki20Kq10Km10",
  "240Kq10Ku20Kw15260L410220L430220L410222L223240L61024028041022041022041h2jh2j0413240Ed10C31A32A",
  "40G72h2o0WAq10220I110WAk30220Jt10Cu10Cy192Ha3260290Fg70B424B240Ck22Ci3wAsigAsA80g9n2s0Cb30220d",
  "10234G73uDggAqAsB8x2A6Ah2Ai0u1d2fBn2BpB2BoCCbB2OMkA30OMk60OMkT3DeCEA4B8agBIcBcFK3A94FK3HzD52De",
  "0PG12Bn2Bwefgafgefgefgafh7ffefwefgefgefg2f22D320hc6Dr40hc2f22Eje2f22F720dc2G322Fz20hHa0PAl40QW",
  "p10QPz70AkAauwz02VrAeAgAYuBmBoBo0220VXt10HCv10VWx35260VZv10VY510WA110VZz20230292WBt2Br2Bz32702",
  "AGDmA92Asr2Did2gAp2Az3240BWLv192d0220CLHv3326j2k0CLJf10CLK110CLJt10CLJ910CLJf20CLGn10CLHz10CLG",
  "t10AYk1f2g0Bn10CLJd10BWOr132902632v02WUwAeAsAHnB6B8DwAyB8EckB6csB6gcB682B6AW8BsCkCH8AqAsWJwAqA",
  "sAGNwAuAw"])

def LowerRun.holds (r : LowerRun) (n : Nat) : Bool :=
  r.start ≤ n && (n - r.start) % r.step == 0 && (n - r.start) / r.step < r.count

/-- A letter in lower case, if it has a single one. -/
def lowerChar (c : Char) : Char :=
  match lowerRuns.find? (·.holds c.toNat) with
  | some r => Char.ofNat ((c.toNat : Int) + r.distance).toNat
  | none => c

/-! ### The end of a word -/

/-- Runs of characters that have a case (1) and of others (0). -/
def casedRuns : List (Nat × Nat) := Packed.runs 2 [
  "CkAfaAfBk1i1618A90Ap0Jt076Kj0Azc3Am9Ea1Ba7232701a105010A30Dl0GpeI70B3gB9FAoB301812Bd07AKaDr2bD",
  "PyhcBd25CiJnCiOf2b2B32b2f0101010Ap2Bx0d01450d472b6p850dFe1o1upEk1612j0149a10101070b61278961wAr",
  "43AScBvCVqLpa743mB30181BNEuBjyAnGaEn470C9830109Aa905ASkBd0raDfAQI2dm9BEcAfaAfBN0DfEaAz6AzFel0t",
  "0d030l0t0d03Y01250Bb0hBOsBtoBtFJ0CjATR6CjBCMiDp0Cx032123270n010d0Cl072f0d0Aj0709014d0Rv2Ad0Ad0",
  "Ap0Ad0Ap0Ad0Ap0Ad0Ap0Ad0fCXej0A3abNgCfDQuCrDHmAfaAfaAf"]

def isCased (c : Char) : Bool := Packed.valueAt casedRuns c.toNat == 1

/-- Runs of characters that are passed over within a word (1) and of others (0). -/
def caseIgnorableRuns : List (Nat × Nat) := Packed.runs 2 [
  "B41a1k1Aw101Cw161016123AAwJn6361g301MwdKg181BoBh01030301Be1kbil01Aw1iA5u1Ekf0j07As101AmAhE0lC6",
  "l6121AaAbBc5Be1c3afB8C7C01016f614di3o1s1C6167e1A23Ae123C4163632541Am341k3C41690361A23A6b01C612",
  "107e1c3k3Am1Cc1m1Bq141C01058507c3k3Ak1C6121a183A23Ai3C4367e1A23Ak1Cy1c501Dy12dkhEe12hg10dD03Ag",
  "10101C0r09038l0Azg1Em70b0323Ac365u7o123a1s1E61AGq5AZi5Ak3Am3Am3Ci30de12l4181Bg9Bs1Ck3Au1Fi563g",
  "1a5L4321C610d01012faj21B41eApBo7Bm1090181B6hm3Aq72305C21034105C6f23CibDi50p0d61a143BqCho1AuElX",
  "o105k5o5o5o3m9e3i12129Bo90j01o1upBsAtFH43F85Fw1s1EaArBk1Z01Ay74981E4bE45BHSu1BQebNy1Ee70j01Ai7",
  "De3qAvDa1A85Eo543e14161Ac381Hc3Aezo1B2fAclBi5Bm12723w1A43Cmb2323m1e1Aw1k1Bs105238301Ag1q38301E",
  "i9g5Fo12161AQH61H4xAEsv41mvAu121Ic1c1a1k1Aw101Bk1Bg3Co1A45ABg1Li1H89BE4b0Bb0hAFa50387B6561I43A",
  "Es7Ug3De5CulBo7Fs1BytB8123i5Bo7232161i1Bq5Ay90fCe1m3Buhi721E852103a121Ho14fA43C4341B0d49Jsf250",
  "1A81Dmb016303M67a303Ag3Dof2103Eu1012b01Ek52709Nch03N630161Gy72361AqjB6b27e1gb25Bip03Vid0b01DiA",
  "72d0303Fqb41030d01Cy34101S83k3Bu98101KKkxatACVi9C8dg7BEg1CgxCi303AHZs70d03FWe307JA2Bj2A9AD65gv",
  "2dAm7H65DEwC16Bre1q1A690tBWid0x2d03098CfAs1HurTe1Cc7AB49BC2dF0fEUw9BLVYc1AmEbG2Mb"]

/-- Whether a character is passed over within a word. -/
def isCaseIgnorable (c : Char) : Bool := Packed.valueAt caseIgnorableRuns c.toNat == 1

/-- Whether a word goes on, in the direction in which the characters are given. -/
def goesOn (cs : List Char) : Bool :=
  match cs.dropWhile isCaseIgnorable with
  | [] => false
  | c :: _ => isCased c

/-! ### Texts -/

/-- A character in lower case between what is before it, from the last character to the first, and
what is behind it. -/
def lowerBetween (before : List Char) (c : Char) (behind : List Char) : List Char :=
  if c.toNat = 0x130 then ['i', Char.ofNat 0x307]
  else if c.toNat = 0x3A3 then
    if goesOn before && !goesOn behind then [Char.ofNat 0x3C2] else [Char.ofNat 0x3C3]
  else [lowerChar c]

/-- The rest of a text in lower case. -/
def lowerAfter (before : List Char) : List Char → List Char
  | [] => []
  | c :: rest => lowerBetween before c rest ++ lowerAfter (c :: before) rest

/-- A text in lower case. -/
def lower (cs : List Char) : List Char :=
  if cs.all fun c => c.toNat < 0x80 then cs.map Char.toLower else lowerAfter [] cs

end PasswordGrant.Unicode
