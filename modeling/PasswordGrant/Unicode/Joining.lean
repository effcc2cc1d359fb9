import PasswordGrant.Unicode.Packed

/-!
# Joining

In some scripts letters are written joined. A letter joins at its two sides, at one side or at none,
and some characters are passed over.

* `Joining`, `joining` : the property Joining_Type.
-/

namespace PasswordGrant.Unicode

/-- At which sides a character joins. -/
inductive Joining where
  | none
  | causing
  | dual
  | left
  | right
  | transparent
  deriving DecidableEq, Repr

/-- The kinds in the order in which they are numbered. -/
def Joining.ofNumber : Nat → Joining
  | 1 => .causing
  | 2 => .dual
  | 3 => .left
  | 4 => .right
  | 5 => .transparent
  | _ => .none

/-- Runs of characters that join alike. -/
def joiningRuns : List (Nat × Nat) := Packed.runs 6 [
  "ABo5CTuRnASoA5AQoGh050b0b05KuAt05c20m2424qmB21A248ChB685g0gBkByF848Ag24248a04A56z6b0naAie62Bc5",
  "45esk4Ae4242484Dh64AqgBeak42aeawF6AtD0EeAhu165Cun0Ah0h0tBu4qa24Ak42ghi20k042aoC4d26q4AcAbAkg04",
  "8aw4Be0Cz0EbI0505iAbi5cA5AibDo5Ii5inA65C6bD656bIc5ibib6hc5Dubc5AobIc5it0bi5C6bCiz05Ii5650nA65A",
  "0bAobDu5J05Au5H65c5I050hoh0nA0bAobDo5Ii565u5obC6bDibIcbinA65C6bDo5Ku5A0h05Nu56A5AuAbP656AhAoA5",
  "L0bDc50505I0Bb0t0boAt0EzAc5Pun0z0b6bD0bihBinB056bu5Bc5DM0hFAihDobDubDubJib0A5A656AtAc5Fo261h05",
  "BiNqAubEk52SchibAc5uhAJcb65Ii50A505056AbuAn65GuE5H0nGu50t05o5FiAhAubE6n6b0hI650bc50hIiAb6bY6h0",
  "B50A5i5u5cbAFuJnCI0501bD6tH0tozOuEhSQihWc5OuEbCN6nQobGKI6n0AnE6bM6bAS65c5i5D0bo5C0H83McbD6BzB0",
  "5F6AbD0AtGihGu56n6bFc5K0z6b6bAu5A65Go5Hc50h6bob05FubA65AMi565i5DYXi5DRoBnBiBnAHc5AOchCGc5AKi5X",
  "otJR6h0bonFihi5U6q4040a63sk3q4e464bik4Wu242ge4842a24Com8BD03Ee42nBLcbM6hGue4Bq0Ate4DckaAwnFu20",
  "8g02a84802a2i423Ho5HuBhFo56bAihH0n6bA05J0hEut0AbJ65AubHiAhAin65Ooh650bu565Z05cAbCcbIcbc5F0A5ct",
  "AFcAb6h05Co5Muz05ib0bAMinub0bDcbN0Ab650bQi5056z05Poh6n0tAQ0Ah0bAPib05i5Wun6bi5E6AnFiz6nA65Acz6",
  "hGiB50bBOiA50z05MiCn6A50b0bT6zc50b0A505Kubc505BEobAobHito505AHHoBtuBhCKOitIoA5FRi5JcnMc5DUW6b0",
  "nADC6Gn6CtCLihAcBn6A5DunXihLQoI5iHbA65B65Cit0BhHRiA50Bt6A50b0tPi5ZiA5BJc5J0nCFinFI6A5FoK8AbGMH",
  "Lo5DuOzU6AMz"]

/-- At which sides a character joins. -/
def joining (c : Char) : Joining := .ofNumber (Packed.valueAt joiningRuns c.toNat)

end PasswordGrant.Unicode
