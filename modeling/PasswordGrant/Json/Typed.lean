import PasswordGrant.Json.Skip

/-!
# Reading a value of one kind

Readers for a value whose kind is known beforehand. Anything else is a fault that tells what was
found and what was expected.

* `readString`, `readNatural`, `readInteger`, `readFlag`, `readStrings` : one kind each;
* `readOptional` : `null` or the kind;
* `readAudience` : a string, an array of strings or `null`, always as a list;
* `readVariant` : one of a few names, as a string or as the only member of an object.
-/

namespace PasswordGrant.Json

/-- What a number is found to be. -/
def Number.found : Number → Found
  | .natural n => .natural n
  | .negative i => .negative i
  | .float x => .float x

/-- The fault of a value of another kind. Scalars are read to tell what they are; an array or an
object is not entered. -/
def wrongType (expected : String) (s : List Char) : Fault :=
  let found (r : Except Fault (Found × List Char)) : Fault :=
    match r with
    | .error f => f
    | .ok (x, rest) => .here (.wrongType x expected) rest
  match s with
  | [] => .here .valueUnfinished []
  | c :: rest =>
    if c = 'n' then found ((readWord ['u', 'l', 'l'] rest).map fun r => (.null, r))
    else if c = 't' then found ((readWord ['r', 'u', 'e'] rest).map fun r => (.bool true, r))
    else if c = 'f' then found ((readWord ['a', 'l', 's', 'e'] rest).map fun r => (.bool false, r))
    else if c = '-' then found ((readNumber false rest).map fun r => (r.1.found, r.2))
    else if isDigit c then found ((readNumber true s).map fun r => (r.1.found, r.2))
    else if c = '"' then found ((readText rest).map fun r => (.text r.1, r.2))
    else if c = '[' then .here (.wrongType .sequence expected) s
    else if c = '\x7b' then .here (.wrongType .map expected) s
    else .next .valueExpected s

/-- Reads a string. -/
def readString (s : List Char) : Except Fault (String × List Char) :=
  match skipBlanks s with
  | [] => .error (.here .valueUnfinished [])
  | c :: rest => if c = '"' then readText rest else .error (wrongType "a string" (c :: rest))

/-- Reads a number and keeps it if `accept` takes it. -/
def readNumberAs {α : Type} (expected : String) (accept : Number → Option α) (s : List Char) :
    Except Fault (α × List Char) :=
  let settle (r : Except Fault (Number × List Char)) : Except Fault (α × List Char) :=
    match r with
    | .error f => .error f
    | .ok (n, rest) =>
      match accept n with
      | some x => .ok (x, rest)
      | none =>
        match n with
        | .float x => .error (.here (.wrongType (.float x) expected) rest)
        | n => .error (.here (.wrongValue n.found expected) rest)
  match skipBlanks s with
  | [] => .error (.here .valueUnfinished [])
  | c :: rest =>
    if c = '-' then settle (readNumber false rest)
    else if isDigit c then settle (readNumber true (c :: rest))
    else .error (wrongType expected (c :: rest))

def Number.toNat? : Number → Option Nat
  | .natural n => some n
  | _ => none

/-- A whole number of 64 bits with a sign. -/
def Number.toInt? : Number → Option Int
  | .natural n => if n < 0x8000000000000000 then some n else none
  | .negative i => some i
  | .float _ => none

/-- Reads a whole number from zero up. -/
def readNatural : Reader Nat := readNumberAs "u64" Number.toNat?

/-- Reads a whole number of either sign. -/
def readInteger : Reader Int := readNumberAs "i64" Number.toInt?

/-- Reads a truth value. -/
def readFlag (s : List Char) : Except Fault (Bool × List Char) :=
  match skipBlanks s with
  | [] => .error (.here .valueUnfinished [])
  | c :: rest =>
    if c = 't' then (readWord ['r', 'u', 'e'] rest).map fun r => (true, r)
    else if c = 'f' then (readWord ['a', 'l', 's', 'e'] rest).map fun r => (false, r)
    else .error (wrongType "a boolean" (c :: rest))

/-- Reads an array of strings. -/
def readStrings (s : List Char) : Except Fault (List String × List Char) :=
  match skipBlanks s with
  | [] => .error (.here .valueUnfinished [])
  | c :: rest =>
    if c = '[' then leaveArray (readElements readString rest)
    else .error (wrongType "a sequence" (c :: rest))

/-- Reads `null` or a value of the kind. -/
def readOptional {α : Type} (value : Reader α) (s : List Char) :
    Except Fault (Option α × List Char) :=
  match skipBlanks s with
  | 'n' :: rest => (readWord ['u', 'l', 'l'] rest).map fun r => (none, r)
  | rest => (value rest).map fun r => (some r.1, r.2)

/-- The audience that a value states: one string, a list of strings, or none. -/
def audienceOf? : Json → Option (List String)
  | .text s => some [s]
  | .array items => items.mapM text?
  | .null => some []
  | _ => none

/-- Reads an audience. The value is read whole before it is looked at, so it is as deep as any
value inside a record may be, and what is wrong with it is placed by the record. -/
def readAudience (s : List Char) : Except Fault (List String × List Char) :=
  match readValue (depthLimit - 1) s with
  | .error f => .error f
  | .ok (v, rest) =>
    match audienceOf? v with
    | some audience => .ok (audience, rest)
    | none => .error (.unsettled (.noAlternative "OneOrMany") rest)

/-- Reads a string, after its opening quote, that must be one of a few names. -/
def readName (expected : List String) (s : List Char) : Except Fault (String × List Char) :=
  match readText s with
  | .error f => .error f
  | .ok (name, rest) =>
    if expected.contains name then .ok (name, rest)
    else .error (.here (.unknownVariant name expected) rest)

def readNull (s : List Char) : Except Fault (List Char) :=
  match skipBlanks s with
  | [] => .error (.here .valueUnfinished [])
  | c :: rest =>
    if c = 'n' then readWord ['u', 'l', 'l'] rest else .error (wrongType "unit" (c :: rest))

/-- Reads an object, after its opening brace, with one of a few names as its only member and `null`
as the value. -/
def readNamedNull (expected : List String) (s : List Char) : Except Fault (String × List Char) :=
  match skipBlanks s with
  | [] => .error (.here .valueUnfinished [])
  | c :: rest =>
    if c = '"' then do
      let (name, rest) ← readName expected rest
      let rest ← readColon rest
      let rest ← readNull rest
      match skipBlanks rest with
      | [] => .error (.here .objectUnfinished [])
      | c :: rest =>
        if c = '\x7d' then .ok (name, rest) else .error (.here .valueExpected (c :: rest))
    else if c = '\x7d' then .error (.next .valueExpected (c :: rest))
    else .error (.next .keyNotText (c :: rest))

/-- Reads one of a few names: as a string, or as the only member of an object. -/
def readVariant (expected : List String) (s : List Char) : Except Fault (String × List Char) :=
  match skipBlanks s with
  | [] => .error (.here .valueUnfinished [])
  | c :: rest =>
    if c = '"' then readName expected rest
    else if c = '\x7b' then readNamedNull expected rest
    else .error (.next .valueExpected (c :: rest))

end PasswordGrant.Json
