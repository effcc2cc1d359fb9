/-!
# Punycode

A text of any characters written with ASCII ones: those that are ASCII come first, and then, as a
series of numbers, which others are to be put in and where. Numbers are written with the least digit
first, and the digit that ends a number is told by a threshold that adapts to the numbers before.

* `encode`, `decode?` : writing and reading;
* `digitValue?_digitChar` : a written digit reads back.
-/

namespace PasswordGrant.Punycode

/-! ### Digits -/

/-- A digit below 36: letters, and then the decimal digits. -/
def digitChar (d : Nat) : Char :=
  if d < 26 then Char.ofNat (97 + d) else Char.ofNat (48 + (d - 26))

/-- The value of a digit; capital letters are none, because names have been put in lower case. -/
def digitValue? (c : Char) : Option Nat :=
  let n := c.toNat
  if c.isLower then some (n - 97)
  else if c.isDigit then some (n - 48 + 26)
  else none

/-- A written digit reads back. -/
theorem digitValue?_digitChar {d : Nat} (h : d < 36) : digitValue? (digitChar d) = some d := by
  have all : ∀ e ∈ List.range 36, digitValue? (digitChar e) = some e := by decide
  exact all d (List.mem_range.2 h)

/-! ### The threshold -/

/-- The threshold of a digit: its place counts in steps of 36, and it lies between 1 and 26. -/
def threshold (place bias : Nat) : Nat := max 1 (min 26 (place - bias))

theorem one_le_threshold (place bias : Nat) : 1 ≤ threshold place bias := by
  unfold threshold
  omega

theorem threshold_le (place bias : Nat) : threshold place bias ≤ 26 := by
  unfold threshold
  omega

/-- Divides a number by 35 as long as it is above 455, and counts the divisions in steps of 36. -/
def scaleDown (delta steps : Nat) : Nat × Nat :=
  if h : 455 < delta then scaleDown (delta / 35) (steps + 36) else (delta, steps)
termination_by delta
decreasing_by exact Nat.div_lt_self (by omega) (by decide)

/-- The bias after a number; `count` is how many characters there are now. -/
def adapt (delta count : Nat) (first : Bool) : Nat :=
  let delta := if first then delta / 700 else delta / 2
  let (delta, steps) := scaleDown (delta + delta / count) 0
  steps + 36 * delta / (delta + 38)

/-! ### Writing -/

/-- The digits of a number from a place on. -/
def digits (bias place number : Nat) : List Char :=
  let t := threshold place bias
  if number < t then [digitChar number]
  else digitChar (t + (number - t) % (36 - t)) :: digits bias (place + 36) ((number - t) / (36 - t))
termination_by number
decreasing_by
  have := one_le_threshold place bias
  exact Nat.lt_of_le_of_lt (Nat.div_le_self _ _) (by omega)

/-- Where writing stands: the places passed since the last character that was written, the bias, and
how many characters are written. -/
structure Writer where
  passed : Nat
  bias : Nat
  written : Nat

/-- Writes all places of one character while walking over the text; characters below it are in place
already. -/
def writePlaces (basic code : Nat) : Writer → List Char → List Char × Writer
  | w, [] => ([], w)
  | w, c :: rest =>
    if c.toNat < code then writePlaces basic code { w with passed := w.passed + 1 } rest
    else if c.toNat = code then
      let next : Writer :=
        ⟨0, adapt w.passed (w.written + 1) (w.written == basic), w.written + 1⟩
      let (more, last) := writePlaces basic code next rest
      (digits w.bias 36 w.passed ++ more, last)
    else writePlaces basic code w rest

/-- Writes characters in ascending order; `code` is the first that may still come. -/
def writeCodes (text : List Char) (basic : Nat) : Nat → Writer → List Nat → List Char
  | _, _, [] => []
  | code, w, next :: more =>
    let ready := { w with passed := w.passed + (next - code) * (w.written + 1) }
    let (cs, w) := writePlaces basic next ready text
    cs ++ writeCodes text basic (next + 1) { w with passed := w.passed + 1 } more

/-- Puts a number in its place among ascending ones, once. -/
def insertOnce (n : Nat) : List Nat → List Nat
  | [] => [n]
  | m :: ms => if n < m then n :: m :: ms else if n = m then m :: ms else m :: insertOnce n ms

/-- A text written with ASCII characters. -/
def encode (text : List Char) : List Char :=
  let basic := text.filter fun c => c.toNat < 0x80
  let codes := ((text.filter fun c => 0x80 ≤ c.toNat).map Char.toNat).foldr insertOnce []
  basic ++ (if basic.isEmpty then [] else ['-'])
    ++ writeCodes text basic.length 0x80 ⟨0, 72, basic.length⟩ codes

/-! ### Reading -/

/-- Reads a number from a place on: the number, and the text behind it, which is shorter. -/
def number? (bias : Nat) (place weight total : Nat) :
    (cs : List Char) → Option (Nat × { rest : List Char // rest.length < cs.length })
  | [] => none
  | c :: rest =>
    match digitValue? c with
    | none => none
    | some d =>
      let t := threshold place bias
      let total := total + d * weight
      if d < t then some (total, ⟨rest, by simp⟩)
      else
        match number? bias (place + 36) (weight * (36 - t)) total rest with
        | some (n, ⟨tail, shorter⟩) => some (n, ⟨tail, by simp; omega⟩)
        | none => none

/-- The character of a number, if it is one. -/
def char? (n : Nat) : Option Char := if h : n.isValidChar then some (Char.ofNatAux n h) else none

/-- Puts characters in. A number says how many places to pass, counting on from the last place and
character; passing the end of the text goes on to the next character at its beginning. -/
def insertChars? (text : List Char) (code place bias : Nat) (first : Bool) (cs : List Char) :
    Option (List Char) :=
  match cs with
  | [] => some text
  | c :: rest =>
    match number? bias 36 1 0 (c :: rest) with
    | none => none
    | some (n, tail) =>
      let count := text.length + 1
      let code := code + (place + n) / count
      let place := (place + n) % count
      match char? code with
      | none => none
      | some c =>
        insertChars? (text.take place ++ c :: text.drop place) code (place + 1)
          (adapt n count first) false tail.1
termination_by cs.length
decreasing_by
  have shorter := tail.2
  simp only [List.length_cons] at shorter ⊢
  omega

/-- The text that was written with ASCII characters: those before the last hyphen stand for
themselves. -/
def decode? (cs : List Char) : Option (List Char) :=
  let numbers := (cs.reverse.takeWhile (· != '-')).reverse
  let basic := cs.take (cs.length - numbers.length - 1)
  if basic.isEmpty then insertChars? [] 0x80 0 72 true cs
  else insertChars? basic 0x80 0 72 true numbers

end PasswordGrant.Punycode
