/-!
# Packed tables

The properties of characters come as tables of numbers, and each table as rows of letters and digits.
A number ends with a decimal digit or a lower-case letter, worth 0 to 35; the capital letters before
it are worth 1 to 26 and count in twenty-sixes. Runs of characters with one value are given by their
lengths, from the first character on.

* `Packed.numbers` : the numbers of rows;
* `Packed.runs` : runs of small values;
* `Packed.locate?` : the value at a place, and how far into its run the place is.
-/

namespace PasswordGrant.Packed

def lastDigit? (c : Char) : Option Nat :=
  let n := c.toNat
  if c.isDigit then some (n - 48)
  else if c.isLower then some (n - 87)
  else none

/-- The numbers of a text; `lead` is the worth of the capital letters read so far. -/
def numbersFrom (lead : Nat) : List Char → List Nat
  | [] => []
  | c :: rest =>
    match lastDigit? c with
    | some d => (lead * 36 + d) :: numbersFrom 0 rest
    | none => numbersFrom (lead * 26 + (c.toNat - 64)) rest

/-- The numbers of rows. -/
def numbers (rows : List String) : List Nat :=
  numbersFrom 0 (rows.flatMap String.toList)

/-- Even numbers stand for the numbers from zero up, odd ones for those below zero. -/
def signed (n : Nat) : Int := if n % 2 = 0 then n / 2 else -(n / 2 + 1 : Nat)

/-- The runs of a table with values below a bound: each number is a length less one, times the bound,
plus the value. -/
def runs (bound : Nat) (rows : List String) : List (Nat × Nat) :=
  (numbers rows).map fun n => (n / bound + 1, n % bound)

/-- The value at a place, and how far into its run the place is. -/
def locate? {α : Type} : List (Nat × α) → Nat → Option (α × Nat)
  | [], _ => none
  | (length, value) :: rest, n => if n < length then some (value, n) else locate? rest (n - length)

/-- The value at a place; zero behind the last run. -/
def valueAt (table : List (Nat × Nat)) (n : Nat) : Nat :=
  match locate? table n with
  | some (value, _) => value
  | none => 0

/-! ### Where a place is found -/

def span {α : Type} : List (Nat × α) → Nat
  | [] => 0
  | (length, _) :: rest => length + span rest

/-- A place is found exactly if it lies within the runs. -/
theorem isSome_locate?_iff {α : Type} (table : List (Nat × α)) (n : Nat) :
    (locate? table n).isSome ↔ n < span table := by
  induction table generalizing n with
  | nil => simp [locate?, span]
  | cons run rest ih =>
    obtain ⟨length, value⟩ := run
    by_cases h : n < length
    · simp [locate?, span, h]; omega
    · simp [locate?, span, h, ih]; omega

end PasswordGrant.Packed
