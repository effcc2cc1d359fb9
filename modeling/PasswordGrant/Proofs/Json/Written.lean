import PasswordGrant.Json.Typed

/-!
# Documents as they are written

A JSON document is a text, and the same value can be written in many ways: with blanks in many places,
with escapes for any character, with members in any order. A written document keeps all of that, so the
texts of written documents are exactly the texts that follow the grammar of JSON.

* `Written.Letter`, `Written.Number` : characters of strings and numbers as they are written;
* `Written.Value`, `Written.Member`, `Written.Item` : values with their blanks;
* `Written.Document` : a whole text; `Written.Document.text` : that text;
* `Written.denotedText?` : the text that a string denotes. Units for halves of surrogate pairs follow the
  grammar of strings, but a half without the other denotes no text.
-/

namespace PasswordGrant.Json.Written

/-! ### Blanks and digits -/

/-- The characters that may stand between the parts of a document. -/
def isBlank (c : Char) : Prop := c = ' ' ∨ c = '\n' ∨ c = '\t' ∨ c = '\r'

/-- Any number of blanks. -/
structure Blanks where
  chars : List Char
  blank : ∀ c ∈ chars, isBlank c

/-- One digit or more. -/
structure Digits where
  first : Char
  more : List Char
  first_isDigit : isDigit first = true
  more_isDigit : ∀ c ∈ more, isDigit c = true

def Digits.chars (d : Digits) : List Char := d.first :: d.more

def Digits.value (d : Digits) : Nat := d.chars.foldl (fun n c => n * 10 + digitValue c) 0

/-! ### Strings -/

/-- The characters that may stand behind a backslash alone, with the characters they stand for. -/
def escapes : List (Char × Char) :=
  [('"', '"'), ('\\', '\\'), ('/', '/'), ('b', '\x08'), ('f', '\x0c'), ('n', '\n'), ('r', '\r'),
   ('t', '\t')]

/-- The unit that four hexadecimal digits stand for. -/
def unit? (a b c d : Char) : Option Nat := do
  let a ← Hex.value? a
  let b ← Hex.value? b
  let c ← Hex.value? c
  let d ← Hex.value? d
  some (((a * 16 + b) * 16 + c) * 16 + d)

/-- One character of a string as it is written: as itself, behind a backslash, or as a unit of sixteen
bits in four hexadecimal digits. -/
inductive Letter where
  | plain (c : Char) (h : 0x20 ≤ c.toNat ∧ c ≠ '"' ∧ c ≠ '\\')
  | escaped (c d : Char) (h : (c, d) ∈ escapes)
  | unit (a b c d : Char) (n : Nat) (h : unit? a b c d = some n)

def Letter.chars : Letter → List Char
  | .plain c _ => [c]
  | .escaped c _ _ => ['\\', c]
  | .unit a b c d _ _ => ['\\', 'u', a, b, c, d]

def lettersChars (ls : List Letter) : List Char := ls.flatMap Letter.chars

def quoted (ls : List Letter) : List Char := '"' :: lettersChars ls ++ ['"']

/-- The characters that a string denotes. The two halves of a surrogate pair stand for one character;
a half without the other stands for none. -/
def denoted? : List Letter → Option (List Char)
  | [] => some []
  | .plain c _ :: ls => (denoted? ls).map (c :: ·)
  | .escaped _ d _ :: ls => (denoted? ls).map (d :: ·)
  | .unit _ _ _ _ n _ :: ls =>
    if isLow n then none
    else if isHigh n then
      match ls with
      | .unit _ _ _ _ m _ :: ls =>
        if isLow m then
          (denoted? ls).map (Char.ofNat ((n - 0xD800) * 1024 + (m - 0xDC00) + 0x10000) :: ·)
        else none
      | _ => none
    else (denoted? ls).map (Char.ofNat n :: ·)

/-- The text that a string denotes. -/
def denotedText? (ls : List Letter) : Option String := (denoted? ls).map String.ofList

/-! ### Numbers -/

/-- An exponent: a letter in either case, an optional sign, and digits. The sign is true for a minus. -/
structure Exponent where
  upper : Bool
  sign : Option Bool
  digits : Digits

def signChars : Option Bool → List Char
  | none => []
  | some true => ['-']
  | some false => ['+']

def Exponent.chars (e : Exponent) : List Char :=
  (if e.upper then 'E' else 'e') :: (signChars e.sign ++ e.digits.chars)

/-- A number: an optional minus sign, digits that begin with a zero only if they are one, and optionally
a fraction and an exponent. -/
structure Number where
  negative : Bool
  whole : Digits
  fraction : Option Digits
  exponent : Option Exponent
  tight : whole.first = '0' → whole.more = []

/-- A fraction as text, if there is one. -/
def fractionChars : Option Digits → List Char
  | none => []
  | some d => '.' :: d.chars

/-- An exponent as text, if there is one. -/
def exponentChars : Option Exponent → List Char
  | none => []
  | some e => e.chars

def Number.unsignedChars (n : Number) : List Char :=
  n.whole.chars ++ (fractionChars n.fraction ++ exponentChars n.exponent)

def Number.chars (n : Number) : List Char :=
  (if n.negative then ['-'] else []) ++ n.unsignedChars

/-- The whole number from zero up that is written without sign, fraction and exponent. -/
def Number.natural? (n : Number) : Option Nat :=
  if n.negative || n.fraction.isSome || n.exponent.isSome then none else some n.whole.value

/-- The number that is kept exactly: one that is written without fraction and exponent and is within 64
bits. A zero with a minus sign is none of them. -/
def Number.kept? (n : Number) : Option Json.Number :=
  if n.fraction.isSome || n.exponent.isSome || decide (0x10000000000000000 ≤ n.whole.value) then none
  else if !n.negative then some (.natural n.whole.value)
  else if n.whole.value = 0 ∨ 0x8000000000000000 < n.whole.value then none
  else some (.negative (-n.whole.value))

/-! ### Values -/

mutual

/-- A value. The blanks of an array or an object are those behind its opening bracket. -/
inductive Value where
  | null
  | flag (b : Bool)
  | number (n : Number)
  | text (letters : List Letter)
  | array (inside : Blanks) (items : List Item)
  | object (inside : Blanks) (members : List Member)

/-- An element of an array with the blanks around it. -/
structure Item where
  before : Blanks
  value : Value
  after : Blanks

/-- A member of an object with the blanks around its name and its value. -/
structure Member where
  before : Blanks
  name : List Letter
  behind : Blanks
  between : Blanks
  value : Value
  after : Blanks

end

mutual

def Value.chars : Value → List Char
  | .null => ['n', 'u', 'l', 'l']
  | .flag true => ['t', 'r', 'u', 'e']
  | .flag false => ['f', 'a', 'l', 's', 'e']
  | .number n => n.chars
  | .text ls => quoted ls
  | .array inside items => '[' :: inside.chars ++ itemsChars items
  | .object inside members => '\x7b' :: inside.chars ++ membersChars members

def Item.chars : Item → List Char
  | ⟨before, value, after⟩ => before.chars ++ (value.chars ++ after.chars)

def Member.chars : Member → List Char
  | ⟨before, name, behind, between, value, after⟩ =>
    before.chars ++ (quoted name ++ (behind.chars ++ ':' ::
      (between.chars ++ (value.chars ++ after.chars))))

/-- The elements of an array up to and with the closing bracket. -/
def itemsChars : List Item → List Char
  | [] => [']']
  | i :: is => i.chars ++ itemsBehind is

/-- Further elements, each behind a comma, up to and with the closing bracket. -/
def itemsBehind : List Item → List Char
  | [] => [']']
  | i :: is => ',' :: (i.chars ++ itemsBehind is)

/-- The members of an object up to and with the closing brace. -/
def membersChars : List Member → List Char
  | [] => ['\x7d']
  | m :: ms => m.chars ++ membersBehind ms

/-- Further members, each behind a comma, up to and with the closing brace. -/
def membersBehind : List Member → List Char
  | [] => ['\x7d']
  | m :: ms => ',' :: (m.chars ++ membersBehind ms)

end

/-- A whole document: a value with the blanks around it. -/
structure Document where
  before : Blanks
  value : Value
  after : Blanks

/-- A document as text. -/
def Document.text (d : Document) : String :=
  String.ofList (d.before.chars ++ (d.value.chars ++ d.after.chars))

end PasswordGrant.Json.Written
