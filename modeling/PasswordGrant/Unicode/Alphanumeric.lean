import PasswordGrant.Unicode.Packed

/-!
# Letters and digits

Which characters are letters or numbers in some script.

* `isAlphanumeric` : the property Alphabetic, or one of the general categories of numbers.
-/

namespace PasswordGrant.Unicode

/-- Runs of letters and numbers (1) and of other characters (0). -/
def alphanumericRuns : List (Nat × Nat) := Packed.runs 2 [
  "BmjcAfaAfBk1c30143050A90Ap0Yf6nq9c101Dq1Ba9032701a105010A30Dl0GpeI70B321aB9B4r01030301eAh67Akl8",
  "C30x6En0f6f6v21uBnoElqBdg3618Ab2A1A0Adcl8Ab0bwBbin4daD70v056t2j0A10f232A70d01474f232301e163092n",
  "2b21650b632A70d03030369632361c701cvk50h050A70d03094h050341s72jg7650f232A70d03094f2323g363092j0d",
  "i30b450743010343454n69450541a1qpop050A90v4f0505e30521272jed070f050A90j094f0505e3a3072j05mp050B9",
  "2f0505018v2A10b050z4Ab0h012deb010faj23oC78da12jB4301090Ab010A1052901a12j27Aq1AoA3mf0Az6A16v0AzC",
  "oC1012taDb2B301812Bd0Rh072d01072B9072At072d01072t0C5072CpqA34vuDr2b4AHf2x0Af8D54lcA3kA5mA3mp050",
  "3mBv2A1q1614jajA6jaDxcBd8CviAp0n6hoB729kBf6AfalB0Aj6Ch2A3kjajo1A83k5BoBv0t0f4jB2Bb2C70lqC1gj4Bp",
  "2hcBd25B870b03418JnB4rkOf2b2B32b2f0101010Ap2Bx0d01450d472b6p850dFc32b8lapEk1612j0149a10101070l2",
  "789610C7ANaCbAeD3AHyAnBJuLpa743g12B301812C3c1uA9gd0d0d0d0d0d0d0d0ArBk1Z05Achc9296Dra50Dz078Bd0E",
  "747iArBmvAqjAmf0tAqjB4tQqNB7CiAUHxCoBj2Nx4AjA2Bl8f4F9B4h2Ep2Cj830109AaA30AtebiBvmCr01ijAab410Bj",
  "8AxoAl4Bt0nslaAp0C1gr2jaA94Ct0101Aa52v27kb2b2bgd0d0Bd0raFt8jaWVnmA96BpRAiTb2EvB2dm98n0p09010303",
  "0EzAsT5yCj2BzB6nFe90GhA0jcAfaAfkDx4b2b2b25Awn0Af0A1030t2rAuFtmBhmC5w3MiAl4BpuAh6AzgAn8Bd8An2Az6",
  "f09BaHr2jaAz6Az6B7eBvml0t0d030l0t0d03CoQ9gA7ifAab0Bb0hCsb210Bf03412A92Ap2B3ehBmA1038At6AfCuC36A",
  "32Br038f050AlihA8Ap0ArAqf0Aja9uBziA72Ah8AfA8dDeD1C0BtoBtcBjejPaAp0Bb0343DaB7eA7k7AgzBiAjA2A9gCv",
  "mAn09iC5g1oAdcjaBt4j67eAx41gCj07gp016A3kz0Av21a7Ced01070t0jcC5cja70f232A70d03094f232341a18dHmCn",
  "05078j85AmCn2301ejI6Bz2dAcbAuCh0141kjB2Bz21cjByAh2r8n6dJ8C5EoDlmf212f030An032327ojCuf2Bj2b0103A",
  "gBt2jwCz81yD1Nkh0Bh0d01sAl8An2A70rD0d030Bf4103050123ejab030B1030701cjQ6A9gx0B945sjDq1sA5BcAY7Em",
  "F5wJvEPeEdsBGjwbHOkAFdRKkAElcAp0jaDd0jaAnyBnu7mj0d0A58A1AL6DtEsD56C5cxCi301m3qMBveBPrBahSBc70d0",
  "30P5s1Ak521q7eUzDX6Ex8p4hcj61LBoA3mA3EyAdGgDp0Cx032123270n010d0Cl072f0d0Aj0709014d0Rv2Ad0Ad0Ap0",
  "Ad0Ap0Ad0Ap0Ad0Ap0Ad0f2BrCUiApabKsd0x2d03098CfAs1F6Bhid2j61QsAnyBf6jZ2Aj6jAO6d07030t0Jx2hBmCr41",
  "416jAQwC90507D6Bh0tJq70Ah0301210j070101a161010105030121010101010301270d0707010j0x85090xAF6pAwAf",
  "aAfaAfEQujBE6CMGbAqHVraLb2LH3qOY5FPcAD3CEmJNd8HXv"]

/-- Whether a character is a letter or a number. -/
def isAlphanumeric (c : Char) : Bool :=
  c.isAlphanum || (0x80 ≤ c.toNat && Packed.valueAt alphanumericRuns c.toNat == 1)

end PasswordGrant.Unicode
