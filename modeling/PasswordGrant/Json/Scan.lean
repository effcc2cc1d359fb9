import PasswordGrant.Json.Basic
import PasswordGrant.Json.Fault

/-!
# The small parts of a document

Blanks, words, strings and numbers. A reader takes the unread text and gives a value with the text
that is left, or a fault.

* `skipBlanks`, `readWord` : blanks and the rest of `true`, `false` and `null`;
* `readText` : a string after its opening quote, escapes resolved;
* `readNumber` : a number, with its sign read before;
* `Number.fromParts` : the value of digits and a decimal exponent, in at most four roundings.
-/

namespace PasswordGrant.Json

/-- A reader of values from a text. -/
abbrev Reader (α : Type) := List Char → Except Fault (α × List Char)

/-- Drops spaces, tabs and line ends. -/
def skipBlanks : List Char → List Char
  | [] => []
  | c :: rest =>
    if c = ' ' ∨ c = '\n' ∨ c = '\t' ∨ c = '\r' then skipBlanks rest else c :: rest

/-- Reads the remaining letters of a word. -/
def readWord : List Char → List Char → Except Fault (List Char)
  | [], rest => .ok rest
  | _ :: _, [] => .error (.here .valueUnfinished [])
  | w :: word, c :: rest =>
    if c = w then readWord word rest else .error (.next .wordExpected (c :: rest))

/-! ### Strings -/

def escape? (c : Char) : Option Char :=
  if c = '"' ∨ c = '\\' ∨ c = '/' then some c
  else if c = 'b' then some '\x08'
  else if c = 'f' then some '\x0c'
  else if c = 'n' then some '\n'
  else if c = 'r' then some '\r'
  else if c = 't' then some '\t'
  else none

/-- Reads four hexadecimal digits as a unit of sixteen bits. Fewer than four bytes are an
unfinished string; as a character is at least one byte, the first four characters tell. -/
def readUnit (s : List Char) : Except Fault (Nat × List Char) :=
  let size := Utf8.size (s.take 4)
  if size < 4 then .error ⟨.textUnfinished, s, size, true⟩
  else match s with
    | a :: b :: c :: d :: rest =>
      match Hex.value? a, Hex.value? b, Hex.value? c, Hex.value? d with
      | some a, some b, some c, some d => .ok (((a * 16 + b) * 16 + c) * 16 + d, rest)
      | _, _, _, _ => .error ⟨.badEscape, s, 4, true⟩
    | _ => .error ⟨.badEscape, s, 4, true⟩

/-- Whether a unit is the first half of a pair. -/
def isHigh (n : Nat) : Bool := 0xD800 ≤ n && n ≤ 0xDBFF

/-- Whether a unit is the second half of a pair. -/
def isLow (n : Nat) : Bool := 0xDC00 ≤ n && n ≤ 0xDFFF

/-- Reads what follows `\u`: one unit, or a pair of units that stand for one character. -/
def readUnicode (s : List Char) : Except Fault (Char × List Char) := do
  let (high, rest) ← readUnit s
  if isLow high then .error (.here .loneSurrogate rest)
  else if isHigh high then
    match rest with
    | [] => .error (.here .textUnfinished [])
    | '\\' :: 'u' :: rest => do
      let (low, rest) ← readUnit rest
      if isLow low then
        .ok (Char.ofNat ((high - 0xD800) * 1024 + (low - 0xDC00) + 0x10000), rest)
      else .error (.here .loneSurrogate rest)
    | '\\' :: [] => .error (.here .textUnfinished [])
    | '\\' :: rest => .error (.next .surrogateUnpaired rest)
    | rest => .error (.next .surrogateUnpaired rest)
  else .ok (Char.ofNat high, rest)

def readEscape : List Char → Except Fault (Char × List Char)
  | [] => .error (.here .textUnfinished [])
  | 'u' :: rest => readUnicode rest
  | c :: rest =>
    match escape? c with
    | some d => .ok (d, rest)
    | none => .error (.next .badEscape (c :: rest))

/-- Reads a string after its opening quote. Each step reads at least one character, so the length
of the text bounds the number of steps. -/
def readTextWithin : Nat → List Char → Except Fault (List Char × List Char)
  | 0, rest => .error (.here .textUnfinished rest)
  | _ + 1, [] => .error (.here .textUnfinished [])
  | n + 1, c :: rest =>
    if c = '"' then .ok ([], rest)
    else if c = '\\' then do
      let (d, rest) ← readEscape rest
      let (more, rest) ← readTextWithin n rest
      .ok (d :: more, rest)
    else if c.toNat < 0x20 then .error (.next .controlCharacter (c :: rest))
    else do
      let (more, rest) ← readTextWithin n rest
      .ok (c :: more, rest)

/-- Reads a string after its opening quote. -/
def readText (s : List Char) : Except Fault (String × List Char) := do
  let (cs, rest) ← readTextWithin (s.length + 1) s
  .ok (String.ofList cs, rest)

/-! ### Numbers -/

def isDigit (c : Char) : Bool := '0' ≤ c && c ≤ '9'

def digitValue (c : Char) : Nat := c.toNat - 48

/-- Collects digits while their number stays below `2 ^ 64`; the digits that do not fit are left. -/
def collect (n : Nat) : List Char → Nat × List Char
  | [] => (n, [])
  | c :: rest =>
    let m := n * 10 + digitValue c
    if m < 0x10000000000000000 then collect m rest else (n, c :: rest)

/-- The value of digits and a decimal exponent. An exponent beyond the table of powers is taken in
steps of 308; each step rounds. -/
def Number.scale : Nat → Binary64 → Int → Option Binary64
  | 0, x, _ => some x
  | n + 1, x, exponent =>
    if exponent.natAbs ≤ 308 then
      if 0 ≤ exponent then
        let y := x.timesPowerOfTen exponent.natAbs
        if y.isFinite then some y else none
      else some (x.overPowerOfTen exponent.natAbs)
    else if x.isZero then some x
    else if 0 ≤ exponent then none
    else Number.scale n (x.overPowerOfTen 308) (exponent + 308)

/-- The value of a sign, digits and a decimal exponent; `none` if it is too large. Four steps reach
zero from any digits. -/
def Number.fromParts (positive : Bool) (digits : Nat) (exponent : Int) : Option Binary64 :=
  (Number.scale 6 (Binary64.ofNat digits) exponent).map fun x => if positive then x else x.neg

/-- A float number, or a fault where it is too large. -/
def finishFloat (positive : Bool) (digits : Nat) (exponent : Int) (rest : List Char) :
    Except Fault (Number × List Char) :=
  match Number.fromParts positive digits exponent with
  | some x => .ok (.float x, rest)
  | none => .error (.here .numberTooLarge rest)

/-- Reads exponent digits. An exponent beyond 31 bits makes the number zero, or too large right
where it gets there. -/
def readExponentDigits (positive : Bool) (digits : Nat) (start : Int) (up : Bool) :
    Nat → List Char → Except Fault (Number × List Char)
  | size, [] => finishFloat positive digits
      (max (-2147483648) (min 2147483647 (if up then start + size else start - size))) []
  | size, c :: rest =>
    if isDigit c then
      let next := size * 10 + digitValue c
      if next ≤ 2147483647 then readExponentDigits positive digits start up next rest
      else if digits ≠ 0 ∧ up then .error (.here .numberTooLarge rest)
      else .ok (.float (Binary64.zero (!positive)), rest.dropWhile isDigit)
    else finishFloat positive digits
      (max (-2147483648) (min 2147483647 (if up then start + size else start - size))) (c :: rest)

/-- Reads an exponent after its letter. -/
def readExponent (positive : Bool) (digits : Nat) (start : Int) (s : List Char) :
    Except Fault (Number × List Char) :=
  let (up, s) := match s with
    | '+' :: rest => (true, rest)
    | '-' :: rest => (false, rest)
    | rest => (true, rest)
  match s with
  | [] => .error (.here .valueUnfinished [])
  | c :: rest =>
    if isDigit c then readExponentDigits positive digits start up (digitValue c) rest
    else .error (.next .badNumber (c :: rest))

/-- Reads a fraction after its point. -/
def readFraction (positive : Bool) (digits : Nat) (start : Int) (s : List Char) :
    Except Fault (Number × List Char) :=
  let places := s.takeWhile isDigit
  let rest := s.dropWhile isDigit
  if places.isEmpty then
    match rest with
    | [] => .error (.here .valueUnfinished [])
    | _ => .error (.next .badNumber rest)
  else
    let (all, extra) := collect digits places
    let exponent := start - (places.length - extra.length : Nat)
    match rest with
    | 'e' :: more => readExponent positive all exponent more
    | 'E' :: more => readExponent positive all exponent more
    | _ => finishFloat positive all exponent rest

/-- Goes on after the whole digits of a number; `extra` digits did not fit into 64 bits. -/
def finishNumber (positive : Bool) (digits extra : Nat) (rest : List Char) :
    Except Fault (Number × List Char) :=
  match rest with
  | '.' :: more => readFraction positive digits extra more
  | 'e' :: more => readExponent positive digits extra more
  | 'E' :: more => readExponent positive digits extra more
  | _ =>
    if extra ≠ 0 then finishFloat positive digits extra rest
    else if positive then .ok (.natural digits, rest)
    else if digits = 0 ∨ 0x8000000000000000 < digits then
      .ok (.float (Binary64.ofNat digits).neg, rest)
    else .ok (.negative (-digits), rest)

/-- Reads a number whose sign has been read. -/
def readNumber (positive : Bool) : List Char → Except Fault (Number × List Char)
  | [] => .error (.here .valueUnfinished [])
  | '0' :: rest =>
    match rest with
    | [] => finishNumber positive 0 0 []
    | c :: more =>
      if isDigit c then .error (.next .badNumber (c :: more))
      else finishNumber positive 0 0 (c :: more)
  | c :: rest =>
    if isDigit c then
      let digits := (c :: rest).takeWhile isDigit
      let (whole, extra) := collect 0 digits
      finishNumber positive whole extra.length (rest.dropWhile isDigit)
    else .error (.next .badNumber (c :: rest))

end PasswordGrant.Json
