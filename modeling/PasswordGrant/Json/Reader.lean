import PasswordGrant.Json.Scan

/-!
# Reading values

Objects and arrays are read by two loops that are told how to read one member or one element. A
loop is bounded by the length of the text, as each round reads a character; nesting is bounded by
the depth that the reader allows.

* `readMembers`, `readElements` : the loops, up to but without the closing bracket;
* `leaveObject`, `leaveArray` : the closing bracket, after success and after a fault;
* `readValue` : any value, within a depth;
* `Json.parse` : a whole document.
-/

namespace PasswordGrant.Json

/-- The deepest nesting of arrays and objects that is read. -/
def depthLimit : Nat := 127

/-! ### Members and elements -/

/-- Reads the name of the next member, after its opening quote, and the member with `member`, which
gets what was gathered, the name and the text after the name. -/
def readMember {σ : Type} (member : σ → String → Reader σ) (acc : σ) (rest : List Char) :
    Except Fault (σ × List Char) := do
  let (name, rest) ← readText rest
  member acc name rest

/-- Reads members up to the closing brace. -/
def readMembersWithin {σ : Type} (member : σ → String → Reader σ) :
    Nat → Bool → σ → List Char → Except Fault (σ × List Char)
  | 0, _, _, s => .error (.here .objectUnfinished s)
  | n + 1, first, acc, s =>
    match skipBlanks s with
    | [] => .error (.here .objectUnfinished [])
    | c :: rest =>
      if c = '\x7d' then .ok (acc, c :: rest)
      else if first then
        if c = '"' then do
          let (acc, rest) ← readMember member acc rest
          readMembersWithin member n false acc rest
        else .error (.next .keyNotText (c :: rest))
      else if c = ',' then
        match skipBlanks rest with
        | [] => .error (.here .valueUnfinished [])
        | d :: rest =>
          if d = '"' then do
            let (acc, rest) ← readMember member acc rest
            readMembersWithin member n false acc rest
          else if d = '\x7d' then .error (.next .trailingComma (d :: rest))
          else .error (.next .keyNotText (d :: rest))
      else .error (.next .objectSeparatorExpected (c :: rest))

/-- Reads the members of an object after its opening brace, up to the closing one. -/
def readMembers {σ : Type} (member : σ → String → Reader σ) (acc : σ) (s : List Char) :
    Except Fault (σ × List Char) :=
  readMembersWithin member (s.length + 1) true acc s

/-- Whether there is another element: after success the rest starts with it, or with the closing
bracket. -/
def nextElement (first : Bool) (s : List Char) : Except Fault (Bool × List Char) :=
  match skipBlanks s with
  | [] => .error (.here .listUnfinished [])
  | c :: rest =>
    if c = ']' then .ok (false, c :: rest)
    else if first then .ok (true, c :: rest)
    else if c = ',' then
      match skipBlanks rest with
      | [] => .error (.here .valueUnfinished [])
      | d :: rest =>
        if d = ']' then .error (.next .trailingComma (d :: rest)) else .ok (true, d :: rest)
    else .error (.next .listSeparatorExpected (c :: rest))

/-- Reads elements up to the closing bracket. -/
def readElementsWithin {α : Type} (element : Reader α) :
    Nat → Bool → List Char → Except Fault (List α × List Char)
  | 0, _, s => .error (.here .listUnfinished s)
  | n + 1, first, s => do
    let (more, rest) ← nextElement first s
    if more then
      let (x, rest) ← element rest
      let (xs, rest) ← readElementsWithin element n false rest
      .ok (x :: xs, rest)
    else .ok ([], rest)

/-- Reads the elements of an array after its opening bracket, up to the closing one. -/
def readElements {α : Type} (element : Reader α) (s : List Char) :
    Except Fault (List α × List Char) :=
  readElementsWithin element (s.length + 1) true s

/-! ### Closing brackets -/

def closeObject (s : List Char) : Except Fault (List Char) :=
  match skipBlanks s with
  | [] => .error (.here .objectUnfinished [])
  | c :: rest =>
    if c = '\x7d' then .ok rest
    else if c = ',' then .error (.next .trailingComma (c :: rest))
    else .error (.next .trailingCharacters (c :: rest))

/-- Reads the closing bracket of an array. -/
def closeArray (s : List Char) : Except Fault (List Char) :=
  match skipBlanks s with
  | [] => .error (.here .listUnfinished [])
  | c :: rest =>
    if c = ']' then .ok rest
    else if c = ',' then
      match skipBlanks rest with
      | ']' :: rest => .error (.next .trailingComma (']' :: rest))
      | rest => .error (.next .trailingCharacters rest)
    else .error (.next .trailingCharacters (c :: rest))

/-- Places a fault that is not settled: blanks and a closing brace count as read. -/
def Fault.leaveObject (f : Fault) : Fault :=
  if f.settled then f
  else match skipBlanks f.rest with
    | '\x7d' :: rest => .here f.problem rest
    | rest => .here f.problem rest

/-- Places a fault that is not settled: blanks and a closing bracket, or a comma with blanks, count
as read. -/
def Fault.leaveArray (f : Fault) : Fault :=
  if f.settled then f
  else match skipBlanks f.rest with
    | ']' :: rest => .here f.problem rest
    | ',' :: rest => .here f.problem (skipBlanks rest)
    | rest => .here f.problem rest

/-- Ends the reading of an object. -/
def leaveObject {α : Type} : Except Fault (α × List Char) → Except Fault (α × List Char)
  | .ok (x, rest) => do
    let rest ← closeObject rest
    .ok (x, rest)
  | .error f => .error f.leaveObject

/-- Ends the reading of an array. -/
def leaveArray {α : Type} : Except Fault (α × List Char) → Except Fault (α × List Char)
  | .ok (x, rest) => do
    let rest ← closeArray rest
    .ok (x, rest)
  | .error f => .error f.leaveArray

/-! ### Values -/

/-- Reads the colon between a name and its value. -/
def readColon (s : List Char) : Except Fault (List Char) :=
  match skipBlanks s with
  | [] => .error (.here .objectUnfinished [])
  | c :: rest => if c = ':' then .ok rest else .error (.next .colonExpected (c :: rest))

/-- Reads the members of an object after its opening brace, each with `value`, and the closing one.
Of a repeated name the last value counts. -/
def readObject (value : Reader Json) (s : List Char) :
    Except Fault (List (String × Json) × List Char) :=
  leaveObject (readMembers (fun members name rest => do
    let rest ← readColon rest
    let (v, rest) ← value rest
    .ok (put name v members, rest)) [] s)

/-- Reads a value in which arrays and objects are nested at most `depth` deep. -/
def readValue (depth : Nat) (s : List Char) : Except Fault (Json × List Char) :=
  match skipBlanks s with
  | [] => .error (.here .valueUnfinished [])
  | c :: rest =>
    if c = 'n' then do
      let rest ← readWord ['u', 'l', 'l'] rest
      .ok (.null, rest)
    else if c = 't' then do
      let rest ← readWord ['r', 'u', 'e'] rest
      .ok (.bool true, rest)
    else if c = 'f' then do
      let rest ← readWord ['a', 'l', 's', 'e'] rest
      .ok (.bool false, rest)
    else if c = '-' then do
      let (n, rest) ← readNumber false rest
      .ok (.number n, rest)
    else if isDigit c then do
      let (n, rest) ← readNumber true (c :: rest)
      .ok (.number n, rest)
    else if c = '"' then do
      let (t, rest) ← readText rest
      .ok (.text t, rest)
    else if c = '[' then
      match depth with
      | 0 => .error (.next .tooDeep (c :: rest))
      | depth + 1 => do
        let (items, rest) ← leaveArray (readElements (readValue depth) rest)
        .ok (.array items, rest)
    else if c = '\x7b' then
      match depth with
      | 0 => .error (.next .tooDeep (c :: rest))
      | depth + 1 => do
        let (members, rest) ← readObject (readValue depth) rest
        .ok (.object members, rest)
    else .error (.next .valueExpected (c :: rest))

/-- Ends a document: nothing but blanks may follow. -/
def finish {α : Type} : Except Fault (α × List Char) → Except Fault α
  | .error f => .error f
  | .ok (x, rest) =>
    match skipBlanks rest with
    | [] => .ok x
    | rest => .error (.next .trailingCharacters rest)

/-- Reads a document of any kind. -/
def parse (s : String) : Except Fault Json := finish (readValue depthLimit s.toList)

end PasswordGrant.Json
