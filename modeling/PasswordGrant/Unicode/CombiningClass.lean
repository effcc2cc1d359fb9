import PasswordGrant.Unicode.Packed

/-!
# Marks

Which characters are marks, which combine with the character before them, and in which order marks on
one character are written.

* `isMark` : the general category Mark;
* `combiningClass` : the canonical combining class; marks of class zero keep their places.
-/

namespace PasswordGrant.Unicode

/-- Runs of marks (1) and of other characters (0). -/
def markRuns : List (Nat × Nat) := Packed.runs 2 [
  "APmF7O8dNkBh01030301CylBmA5u1Ekd2b2307Aw1AmAhE0lC6hg1Aa70h0509Bc5CafBaAb0AtBy50z0di3Ak5C210d23",
  "25g1i3Ae125C2109632541Am341k5C210f0505A23A6b05C210d2325c5i3Am1C894507g1B69C010d0507c3k3Ak5C210",
  "d0507c3k3s1m7C030d0507g1i3Ak5Cu16b010fy3Cc12dmfEe12hkdD03Ag1010163BoA3038l0Azg1EiA3A8765052d47",
  "on01i7AM05AZi7Ai5Ak3Am3CiArg1Bg501Fg3Au1Fin6nL49C4j0Al21BmApBo9BkxB2hm5AmpC2rBmA3He50A561a125J",
  "yCjAMyAtFNi5Gs1EaArADqbEs3BLKq70jAq3De3O214161A8961Dk3BqzAezo1B2fAcpBe7BkrAy1Corm1e3Bg5Bq10523",
  "8301B8983M2f03AQH61ANwvuvBB01Li1H89CNq50387B6561I43AEs7Ug3De5CulBo7Fq5BwtB8123i7Bglc1Cc5Ayru3B",
  "e1m5Bmre703E2na121HonA47C030d2325g1i32d49JmzA81DgA3M0d2hAg3DixEupEktN6tMkb03270103Gsd2d41AijB6",
  "d07e1glBivVgf0fDiA70rFqb41030d01Cm90309S87g301Bmd49KLg1atACVi9C8dBF610C1c7Dg1k3AOXc3JAcBj2A9AD",
  "294bef2dAm7H65DEwC16Bre1q1A690tBWid0x2d0309Ei1HudTs1Cc7AB67BC2dF0dBMCIsMb"]

/-- Whether a character is a mark. -/
def isMark (c : Char) : Bool := Packed.valueAt markRuns c.toNat == 1

/-- Runs of characters of one combining class. -/
def combiningClassRuns : List (Nat × Nat) := Packed.runs 241 [
  "GOLnEJaFgZ7FgF0AFwLbZ7LbBU2ZtZ7BA9FoFeSiSsLt0SsZ7FeFgLtFeFhM7FhM7FhCHqBRNaAG6BOYcF4ZhF4SsF6F4A",
  "MvAMlM3F4M3F6FcFeabcdefghiG8klm0n0op0FeF40iRGbBA9uvwLBnrstuvwxyM3LtAG6F4M3F4CVfzYSgATkFpZhF4Fe",
  "FpM30F4M3F4HSmA0GL5FeF4M3F4M3SiFeLtFeF4SsF4FeF4FeF4FeF4M3ANXfATkF4FeBAkF4EWzZh0BGy0Ss0AG6JU6Si",
  "ODzFeSiZhJNhAG6AFwCOf0F4M3F4M3F4SsSirstSsF4M3LtAG6ODz7CVf9MeFeF4M3ZFu7CVf9LBnFeOKo7CVf9ABAp7CV",
  "f9ABAp7CVf9AFKi9ABAp7CVf9AN6BcBjYSg7CVf9AAU0FyCVf9AEQf9AAU0Ik9CBcW2AANbIz9CBcWhSH3LtFR2F40F40F",
  "0MWiClCm0CoZsWpFpCm0M390M3ORdF4ABO370FyTV9F4GBVmSsIIUnFyGL59ANDc9BH9FeAYZaFcAJNmF6FeF4BDCeFeF4",
  "QZm9DW7BA9FpF4LBnAG6AMlM3F40LtM3LtAG6F4ZhYSg7COq9IMpFeF4ATkMPtFyNQl7BNyFyPYu7ALVvSs01AFwM3Z7Fe",
  "0AN7T3F4AGhFeMeM3AXRtM3F4ATkF4M3FiEyF4EmIMeFgM1F4F2FeFhF4FeF4GCCbM3FqZhMfM3T3FeMeFqFeF4FeFqZ7F",
  "eADJE9SsAJA89XKzHExELJ1F2FcFgF6LxZT8FxKLRHjFeT3BNnGYjM3THvM3BRTz9IG09ALP69FR2DP7NJwSiIG09XEa7B",
  "Un9BIGaFe0M3F4FpM3ZsM30FeMCf9BKB59GRSI3qGOScATkATaM3IPG0F4BEX9F4ALBsAG6PPUdF40FeJA3Fe1F4T39APE",
  "wFeF4EQG8ZhCUJ2M3THvSiQSxLtSsF4FeZ7LIcFeF4FeF4AWDn9JGs9CI19NJw97QM8SsLBnFyORd7SH39BAk7ZZx97ASN",
  "x79THvFwCVf9EWzATkMeAG6AZMo9Me7EQaFeYF297BLIm97AFDt9ADC997ACI69BPZ497BNDhFyT37AMWn9UBy9DIt9TOk",
  "9DDCo9BNDh70FyTOk9DEDgFyGIUVsZtNXaATkKXZwFvGLIMv1AZPZdLpMfMeFaAFsATvAZzFpAG6LtGL5ZhAKV3SsAHTTa",
  "ATk0DIiFpATk0M30AG6YLrFeANXfATkCRGqFeOKoZhDZN3M5F4FeIUD7ATaAAU0AMv7"]

/-- The canonical combining class of a character. -/
def combiningClass (c : Char) : Nat := Packed.valueAt combiningClassRuns c.toNat

/-- The combining class of a virama, the mark that takes the vowel from a letter. -/
def viramaClass : Nat := 9

end PasswordGrant.Unicode
