import PasswordGrant.Number.Shortest
import PasswordGrant.Text.Quoted
import PasswordGrant.Text.Utf8

/-!
# What is wrong with a document

A reader of JSON stops at the first problem. It remembers the unread text, from which the line and
the column follow: lines are counted from one, and the column is the number of bytes read on the
line.

* `Problem` : the causes; `Problem.message` : their wording;
* `Fault` : a problem with its place; `Fault.message` : wording and place;
* `Fault.closing` : an unsettled problem takes its place when the enclosing value is left.
-/

namespace PasswordGrant.Json

/-- A value that was found where another kind of value is expected. -/
inductive Found where
  | null
  | bool (b : Bool)
  | natural (n : Nat)
  | negative (i : Int)
  | float (x : Binary64)
  | text (s : String)
  | sequence
  | map
  deriving DecidableEq, Repr

def Found.describe : Found → String
  | .null => "null"
  | .bool b => if b then "boolean `true`" else "boolean `false`"
  | .natural n => "integer `" ++ n.repr ++ "`"
  | .negative i => "integer `" ++ (if i < 0 then "-" else "") ++ i.natAbs.repr ++ "`"
  | .float x => "floating point `" ++ x.documentText ++ "`"
  | .text s => "string " ++ Quoted.quote s
  | .sequence => "sequence"
  | .map => "map"

/-- Why a text is not the document that was expected. -/
inductive Problem where
  | listUnfinished
  | objectUnfinished
  | textUnfinished
  | valueUnfinished
  | colonExpected
  | listSeparatorExpected
  | objectSeparatorExpected
  | wordExpected
  | valueExpected
  | badEscape
  | badNumber
  | numberTooLarge
  | controlCharacter
  | keyNotText
  | loneSurrogate
  | surrogateUnpaired
  | trailingComma
  | trailingCharacters
  | tooDeep
  | duplicateField (name : String)
  | missingField (name : String)
  | wrongType (found : Found) (expected : String)
  | wrongValue (found : Found) (expected : String)
  | wrongLength (length : Nat) (expected : String)
  | unknownVariant (name : String) (expected : List String)
  | noAlternative (type : String)
  deriving DecidableEq, Repr

/-- The wording of a problem. -/
def Problem.message : Problem → String
  | .listUnfinished => "EOF while parsing a list"
  | .objectUnfinished => "EOF while parsing an object"
  | .textUnfinished => "EOF while parsing a string"
  | .valueUnfinished => "EOF while parsing a value"
  | .colonExpected => "expected `:`"
  | .listSeparatorExpected => "expected `,` or `]`"
  | .objectSeparatorExpected => "expected `,` or `\x7d`"
  | .wordExpected => "expected ident"
  | .valueExpected => "expected value"
  | .badEscape => "invalid escape"
  | .badNumber => "invalid number"
  | .numberTooLarge => "number out of range"
  | .controlCharacter => "control character (\\u0000-\\u001F) found while parsing a string"
  | .keyNotText => "key must be a string"
  | .loneSurrogate => "lone leading surrogate in hex escape"
  | .surrogateUnpaired => "unexpected end of hex escape"
  | .trailingComma => "trailing comma"
  | .trailingCharacters => "trailing characters"
  | .tooDeep => "recursion limit exceeded"
  | .duplicateField name => "duplicate field `" ++ name ++ "`"
  | .missingField name => "missing field `" ++ name ++ "`"
  | .wrongType found expected =>
    "invalid type: " ++ found.describe ++ ", expected " ++ expected
  | .wrongValue found expected =>
    "invalid value: " ++ found.describe ++ ", expected " ++ expected
  | .wrongLength length expected =>
    "invalid length " ++ length.repr ++ ", expected " ++ expected
  | .unknownVariant name expected =>
    "unknown variant `" ++ name ++ "`, expected "
      ++ " or ".intercalate (expected.map fun e => "`" ++ e ++ "`")
  | .noAlternative type => "data did not match any variant of untagged enum " ++ type

/-- A problem and its place: the text from there on and how many bytes of it were read. A problem
that is not settled gets its place when the enclosing value is left. -/
structure Fault where
  problem : Problem
  rest : List Char
  taken : Nat
  settled : Bool
  deriving DecidableEq, Repr

namespace Fault

/-- A problem right before the rest. -/
def here (problem : Problem) (rest : List Char) : Fault := ⟨problem, rest, 0, true⟩

/-- A problem with the next byte, which counts as read. -/
def next (problem : Problem) (rest : List Char) : Fault := ⟨problem, rest, 1, true⟩

/-- A problem that the enclosing value places. -/
def unsettled (problem : Problem) (rest : List Char) : Fault := ⟨problem, rest, 0, false⟩

/-- The bytes of the input that were read when the problem was met. -/
def bytesRead (input : List Char) (f : Fault) : List UInt8 :=
  let bytes := Utf8.encode input
  let unread := Utf8.size f.rest
  bytes.take (bytes.length - (unread - f.taken))

/-- The line of the place, counted from one. -/
def line (input : List Char) (f : Fault) : Nat := (f.bytesRead input).count 10 + 1

/-- The bytes read on the line of the place. -/
def column (input : List Char) (f : Fault) : Nat :=
  ((f.bytesRead input).reverse.takeWhile (· != 10)).length

/-- Wording and place. -/
def message (input : List Char) (f : Fault) : String :=
  f.problem.message ++ " at line " ++ (f.line input).repr ++ " column " ++ (f.column input).repr

end Fault

end PasswordGrant.Json
