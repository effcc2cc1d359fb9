import PasswordGrant.Unicode.CombiningClass

/-!
# Composed characters

A letter with marks can be written as one character or as several. In the composed form the marks are
in the order of their classes, and everything that can be one character is one.

* `Composite`, `composites` : the characters that are composed of two;
* `decompose`, `reorder`, `compose` : the three steps;
* `normalize` : the composed form.
-/

namespace PasswordGrant.Unicode

/-- A character that is composed of two. -/
structure Composite where
  whole : Nat
  first : Nat
  second : Nat
  deriving DecidableEq, Repr

/-- Reads composites; each number of a composite is given by its difference to the one before. -/
def compositesFrom (last : Composite) : List Nat → List Composite
  | w :: f :: s :: rest =>
    let next : Composite :=
      ⟨last.whole + w, ((last.first : Int) + Packed.signed f).toNat,
        ((last.second : Int) + Packed.signed s).toNat⟩
    next :: compositesFrom next rest
  | _ => []

/-- The characters that are composed of two, the syllables of Hangul apart. -/
def composites : List Composite := compositesFrom ⟨0, 0, 0⟩ (Packed.numbers [
  "EcCmAPo10210210210a10424Am14B510210210c18f10210210c2a912510210210210a3cf10210210c18d3g11021021",
  "0210a10424Am14B510210210c18f10210210c2a912510210210210a3cf10210210c18d20e1C371As01Ar41As01ArAw",
  "1As01AnB51As01Ar21As01Ara1As01Ara1As01Ap01As03Apf1As01Ar41As01Ar21As01ArAu1As01ArAj1As01Anj1As",
  "01Ar81As01Ar21As01ArAs1As01ApB11As03Ap21As01Ar21As01Ar41As01ArAw1As01ArAt4291As01ApB21As02ApB3",
  "1As01ArB41As01ArAh1As05Anl1As01ArB41As01ArAh1As04Apf1As01Ar41As01Ara1As03Alj1As01ArB41As01ArAh",
  "1As01Apl1As01Ar21As01ArB21As01ArAh1As01ApAi1As01ArAh1As03Aph1As01Ar21As01Ar41As01Ar81As01Ar21A",
  "s01ArAm1As01AnB31As01An01As01Arc12d1As01Arc1As01Ara1As0yBdu1As0eAf01As0tBvt1As01Ab01As01Af01As",
  "01Af01As01Eqf1As01Ar51As01Arm1As01Arn1As02C381As01Qw01201Sl01As03Htg1As01Aj01As01AjAk1As01U2Az",
  "1201Bvg1L601ADn04Axl1As03Ad11As01Du21As01Ap01As01r01As01J5s1As01Ar41As01Aj31As01Ar41As01Aj31As",
  "01Ar41As01Af31As01Ar41As01Al31As01Ar41As01Al31As01Ar41As01AvA61As01Ap01As03BfAf1As07B591As01Aj",
  "As1As01FaAx1As01At01As01I761As01Xu51201Z301As0IeBm51AOe02801401402c02c01801Au0qBpe1o01od180140",
  "1401A00qze1o01bd1c01805i010eA8Cqf10g23d4pe5A4d1311mcbl0wAs0n5b10g23d4Aye5Ajd1311mcoBqi120B2E9h",
  "1As0eB301As01Ar41As03Ah31As03I241201Jt01As01Ap01As03Ap71As01Ar81As01Af01As03Ig01201Jf01As01Bb7",
  "1As01Ar81As01Ar61As01Aj51As03Aj01As0H9ZgATu1021Au01At21Ay1DaGq02A30hy0PmAG8AOc8g0360D7H8G810Ae",
  "JkUcUa30Ab10AeB0D6G4AiBwAd12011AeCgG4G2CcFqG27e010220A318A2CjFwEu12011AeCyH6Fe20a16915A6P8AFoA",
  "FuBYcEXoEZu240240240240480A5Ba0240340120260ShNT1MD71As01ApAn1As01ArAk1As01Ars1As01EmBn1As01I1c",
  "1As01ArAk1As01Ars1As01Arj1As01Arc1As01IoBh1201121201KfBg1As01Ar61As01Y2Bb1201Zt21As01Ap51As01A",
  "p61As01ArAk1As01ArAh1As01ArAq1As01Are1As01Ap41As01EoBl1As01I301As01ArAw1As01Ars1As01Apr1As01PG",
  "oAp1201PIhBi1As01Ar71As01ApBf1As01Arc1As01ArAk1As01ApAj1As01ArAk1As01Ars1As01Ar71As01EqBf1As01",
  "Are1As01Duf1201121201N101As01Arc1As01An01As01ArAk1As01PIcAp1201PK5Bi1As01ApBb1As01ArAk1As01LuA",
  "j1201a01201OVi01201PKh01As01ArAk1As01Ars1As01Ar71As01Aph1As01Aro1As01Ar51As01MiBf12012e1201Od9",
  "1As01ArAs1As01ApAx1As01Ar21As01Are1As01Ar11As01ArAk1As01ApAj1As01Ar21As01Ap11As01Ap91As01ArAu1",
  "As01Ars1As01z01oB91641402Nk55QnAk1As01ArAf1As01Eef1As01Ar11As01Ari1As01Arb1As01PG011201PE91120",
  "11112011i12011b1201PE661201POrAm1As01ArAf1As01Arb1As01Em31As01Ar11As01Ari1As01Arb1As01PGw11201",
  "PPve1As01ArAg1As01Af01As01ArAf1As01Emf1As01Ar11As01Ari1As01Arb1As01PHg11201OXx112011112011i120",
  "11b12011As1201Rf01As01ArAf1As01Qgf12011112011i12011b12011As1201S1Ax1As01ArAy1As01ArAf1As01Arb1",
  "As07ASsw1021NXeA312011212011Cm1201NZ7Bl1021NZmA312011212011Cm1201NXnBl1021NY2A31201121203NZvA0",
  "1021OAaA31201121203NYfA01021NYuA312011212011Cm1201OAnBl1021OB2A312011212011Cm1201NZ7Bl1021NZmA",
  "312011212011Cm1201OBfBl1021OBuA312011212011Cm1201NZrBl1021OA6A31201121203OBzA01021OCeA31201121",
  "203OAbA01021OAqA312011212011Cm1202OCjBj2OD0A320220Cm1OAzBl1021OBeA312011212011Cm1201OD7Bl1021O",
  "DmA312011212011Cm1201OD7Cn2802402402c02c02804NW2Cu12012012012012012012012012012012012012012012",
  "01y01201201201201201201201201201201201201201201201Bq012012012012012012012012012012012012012012",
  "01201ODjCh1031ODmCm1ODl01902a51OHi61OJ9Ch10310720Cu5AOd51PV061ODh01h02i51OI261OJxCt24020Cu1OJg",
  "Ct10210Cm1OHjCb1031y74xCo1y01BpCb1031073OMu010210Cm1OKdCb1031c72jA210218Bk1c01B3Cb10310727A41A",
  "P9A35PVgCu1OCx01a02951OJq61OM1Ct2k020CuKiPIap140j40vCc0180130AhBq05a0360oAc0240rAa03e0340260nR",
  "P502RQk0bA301RPh01401RQo01203q01203601207601203e0120360120zAi01c0120140AdBl01201A401207As01201",
  "20120CQ3GK8XUe2402402402402402402402402402402403602402407e0102261102261102261102261102nBx1aDu0",
  "es02402402402402402402402402402402403602402407e0102261102261102261102261102nBx13D201201201204m",
  "0BID4DRH8DROm240fk0CnGsF2120O0ACmACq10AeJ7TkSq10j20qG0N6Mg120XtAWkAWu"])

/-! ### Syllables of Hangul -/

namespace Hangul

def syllableBase : Nat := 0xAC00

def leadBase : Nat := 0x1100

def vowelBase : Nat := 0x1161

def trailBase : Nat := 0x11A7

def leadCount : Nat := 19

def vowelCount : Nat := 21

/-- How many trailing consonants there are, none of them included. -/
def trailCount : Nat := 28

def letters? (c : Char) : Option (List Char) :=
  let n := c.toNat
  if syllableBase ≤ n && n < syllableBase + leadCount * vowelCount * trailCount then
    let i := n - syllableBase
    let trail := i % trailCount
    some ([Char.ofNat (leadBase + i / (vowelCount * trailCount)),
      Char.ofNat (vowelBase + i / trailCount % vowelCount)]
        ++ if trail = 0 then [] else [Char.ofNat (trailBase + trail)])
  else none

/-- The syllable of two characters: a leading consonant and a vowel, or a syllable that ends with its
vowel and a trailing consonant. -/
def join? (a b : Char) : Option Char :=
  let m := a.toNat
  let n := b.toNat
  if leadBase ≤ m && m < leadBase + leadCount && vowelBase ≤ n && n < vowelBase + vowelCount then
    some (Char.ofNat (syllableBase
      + ((m - leadBase) * vowelCount + (n - vowelBase)) * trailCount))
  else if syllableBase ≤ m && m < syllableBase + leadCount * vowelCount * trailCount
      && (m - syllableBase) % trailCount == 0 && trailBase < n && n < trailBase + trailCount then
    some (Char.ofNat (m + (n - trailBase)))
  else none

end Hangul

/-! ### Taking apart -/

/-- A character taken apart, in at most the given number of steps. -/
def decomposeWithin : Nat → Char → List Char
  | 0, c => [c]
  | steps + 1, c =>
    match Hangul.letters? c with
    | some letters => letters
    | none =>
      match composites.find? fun t => t.whole == c.toNat with
      | some t => decomposeWithin steps (Char.ofNat t.first) ++ [Char.ofNat t.second]
      | none => [c]

/-- A character taken apart altogether. No character is composed in more than four steps. -/
def decompose (c : Char) : List Char := if c.toNat < 0x80 then [c] else decomposeWithin 4 c

/-! ### Marks in order -/

/-- Puts a character behind others that are given from the last to the first; a mark goes before the
marks of higher class. -/
def insertMark (c : Char) : List Char → List Char
  | [] => [c]
  | d :: before =>
    if 0 < combiningClass c && combiningClass c < combiningClass d then
      d :: insertMark c before
    else c :: d :: before

/-- A text with marks in the order of their classes. -/
def reorder (cs : List Char) : List Char :=
  (cs.foldl (fun before c => insertMark c before) []).reverse

/-! ### Putting together -/

def join? (a b : Char) : Option Char :=
  match Hangul.join? a b with
  | some c => some c
  | none =>
    (composites.find? fun t => t.first == a.toNat && t.second == b.toNat).map
      fun t => Char.ofNat t.whole

/-- A character that may take marks, and those behind it that it has not taken, from the last to the
first. -/
structure Cluster where
  start : Char
  rest : List Char

def Cluster.chars (k : Cluster) : List Char := k.start :: k.rest.reverse

/-- Whether a character can reach the start of a cluster: nothing of its class or a higher one stands
between. -/
def Cluster.reaches (k : Cluster) (c : Char) : Bool :=
  match k.rest with
  | [] => true
  | d :: _ => combiningClass d < combiningClass c

/-- Puts characters together, cluster by cluster; `none` is the time before the first cluster. -/
def composeFrom : Option Cluster → List Char → List Char
  | none, [] => []
  | some k, [] => k.chars
  | none, c :: cs =>
    if combiningClass c = 0 then composeFrom (some ⟨c, []⟩) cs else c :: composeFrom none cs
  | some k, c :: cs =>
    match (if k.reaches c then join? k.start c else none) with
    | some whole => composeFrom (some ⟨whole, k.rest⟩) cs
    | none =>
      if combiningClass c = 0 then k.chars ++ composeFrom (some ⟨c, []⟩) cs
      else composeFrom (some ⟨k.start, c :: k.rest⟩) cs

/-- A text with its characters put together. -/
def compose (cs : List Char) : List Char := composeFrom none cs

/-- The composed form of a text without characters that the form excludes. -/
def normalize (cs : List Char) : List Char := compose (reorder (cs.flatMap decompose))

end PasswordGrant.Unicode
