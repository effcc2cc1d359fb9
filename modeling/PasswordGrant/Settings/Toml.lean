import PasswordGrant.Settings.Numeral
import PasswordGrant.Settings.Raw
import PasswordGrant.Text.Hex

/-!
# Settings in TOML

A file of settings: assignments of values to keys, below headers that name tables. Only whether a
text is such a file and what it says matters here, so the reader answers with `none` for any text
that is not.

* `Toml.Value` : the values; `Toml.Statement` : assignments and headers;
* `Toml.statements?` : the statements of a text;
* `Toml.Node`, `Toml.assemble?` : the tables that statements make up;
* `Toml.parse?` : the entries of a file.
-/

namespace PasswordGrant.Toml

/-- A value. Dates and times are kept in their usual text. -/
inductive Value where
  | text (s : String)
  | integer (i : Int)
  | float (x : Binary64)
  | flag (b : Bool)
  | moment (s : String)
  | list (items : List Value)
  | table (entries : List (List String × Value))
  deriving Repr

/-- A line that says something. -/
inductive Statement where
  | assign (key : List String) (value : Value)
  | header (key : List String)
  | arrayHeader (key : List String)
  deriving Repr

/-! ### Blanks, comments and line ends -/

def skipSpaces (cs : List Char) : List Char := cs.dropWhile fun c => c = ' ' || c = '\t'

/-- Controls that stand nowhere, not even in a comment. -/
def isControl (c : Char) : Bool := (c.toNat < 0x20 && c.toNat != 9) || c.toNat == 0x7F

/-- Drops a line end, if there is one. -/
def lineEnd? : List Char → Option (List Char)
  | '\n' :: rest => some rest
  | '\r' :: '\n' :: rest => some rest
  | _ => none

/-- Drops a comment, if there is one, up to its line end. -/
def skipComment? (cs : List Char) : Option (List Char) :=
  match cs with
  | '#' :: rest =>
    let tail := rest.dropWhile fun c => !isControl c
    if tail.isEmpty || (lineEnd? tail).isSome then some tail else none
  | _ => some cs

/-- Drops spaces and a comment, and then a line end or nothing. -/
def endLine? (cs : List Char) : Option (List Char) := do
  let rest ← skipComment? (skipSpaces cs)
  if rest.isEmpty then some [] else lineEnd? rest

def skipLinesWithin : Nat → List Char → Option (List Char)
  | 0, cs => some cs
  | n + 1, cs => do
    let rest ← skipComment? (skipSpaces cs)
    match lineEnd? rest with
    | some more => skipLinesWithin n more
    | none => some rest

def skipLines (cs : List Char) : Option (List Char) := skipLinesWithin (cs.length + 1) cs

/-! ### Strings -/

/-- The character of a number of hexadecimal digits. -/
def codePoint? (digits : Nat) (cs : List Char) : Option (Char × List Char) := do
  let ds := cs.take digits
  if ds.length < digits then none
  else
    let ns ← ds.mapM Hex.value?
    let n := ns.foldl (fun acc d => acc * 16 + d) 0
    if n < 0xD800 ∨ (0xDFFF < n ∧ n ≤ 0x10FFFF) then some (Char.ofNat n, cs.drop digits) else none

/-- Reads an escape after its backslash. -/
def escape? : List Char → Option (Char × List Char)
  | 'b' :: rest => some ('\x08', rest)
  | 't' :: rest => some ('\t', rest)
  | 'n' :: rest => some ('\n', rest)
  | 'f' :: rest => some ('\x0c', rest)
  | 'r' :: rest => some ('\r', rest)
  | 'e' :: rest => some ('\x1b', rest)
  | '"' :: rest => some ('"', rest)
  | '\\' :: rest => some ('\\', rest)
  | 'x' :: rest => codePoint? 2 rest
  | 'u' :: rest => codePoint? 4 rest
  | 'U' :: rest => codePoint? 8 rest
  | _ => none

/-- Reads a string after its opening quote. -/
def basic? : Nat → List Char → Option (List Char × List Char)
  | 0, _ => none
  | _ + 1, [] => none
  | n + 1, c :: rest =>
    if c = '"' then some ([], rest)
    else if c = '\\' then do
      let (d, rest) ← escape? rest
      let (more, rest) ← basic? n rest
      some (d :: more, rest)
    else if isControl c then none
    else do
      let (more, rest) ← basic? n rest
      some (c :: more, rest)

/-- Reads a literal string after its opening quote. -/
def literal? (cs : List Char) : Option (List Char × List Char) :=
  let content := cs.takeWhile fun c => c != '\x27' && !isControl c
  match cs.dropWhile fun c => c != '\x27' && !isControl c with
  | c :: rest => if c = '\x27' then some (content, rest) else none
  | [] => none

/-- Drops the blank lines after a backslash at the end of a line; `none` if the line goes on. -/
def continued? (cs : List Char) : Option (List Char) :=
  (lineEnd? (skipSpaces cs)).map fun rest =>
    rest.dropWhile fun c => c = ' ' || c = '\t' || c = '\n' || c = '\r'

/-- The end of a string in three quotes: up to two more quotes belong to the string. -/
def closing? (q : Char) : List Char → Option (List Char × List Char)
  | a :: b :: c :: rest =>
    if a = q ∧ b = q ∧ c = q then
      match rest with
      | d :: e :: rest' =>
        if d = q ∧ e = q then some ([q, q], rest')
        else if d = q then some ([q], e :: rest')
        else some ([], rest)
      | [d] => if d = q then some ([q], []) else some ([], rest)
      | [] => some ([], [])
    else none
  | _ => none

/-- Reads a string in three quotes after the opening ones; `q` is the quote. -/
def multiline? (q : Char) : Nat → List Char → Option (List Char × List Char)
  | 0, _ => none
  | _ + 1, [] => none
  | n + 1, c :: rest =>
    match closing? q (c :: rest) with
    | some result => some result
    | none =>
      if c = '\\' ∧ q = '"' then
        match continued? rest with
        | some rest => multiline? q n rest
        | none => do
          let (d, rest) ← escape? rest
          let (more, rest) ← multiline? q n rest
          some (d :: more, rest)
      else
        match lineEnd? (c :: rest) with
        | some rest => do
          let (more, rest) ← multiline? q n rest
          some ('\n' :: more, rest)
        | none =>
          if isControl c then none
          else do
            let (more, rest) ← multiline? q n rest
            some (c :: more, rest)

def dropFirstLine (cs : List Char) : List Char := (lineEnd? cs).getD cs

/-- Reads a string of any of the four forms. -/
def string? (cs : List Char) : Option (String × List Char) :=
  let finish (r : Option (List Char × List Char)) : Option (String × List Char) :=
    r.map fun p => (String.ofList p.1, p.2)
  match cs with
  | '"' :: '"' :: '"' :: rest => finish (multiline? '"' (cs.length + 1) (dropFirstLine rest))
  | '\x27' :: '\x27' :: '\x27' :: rest =>
    finish (multiline? '\x27' (cs.length + 1) (dropFirstLine rest))
  | '"' :: rest => finish (basic? (cs.length + 1) rest)
  | '\x27' :: rest => finish (literal? rest)
  | _ => none

/-! ### Keys -/

def isBare (c : Char) : Bool := c.isAlphanum || c = '-' || c = '_'

def simpleKey? (cs : List Char) : Option (String × List Char) :=
  match cs with
  | '"' :: rest => (basic? (cs.length + 1) rest).map fun p => (String.ofList p.1, p.2)
  | '\x27' :: rest => (literal? rest).map fun p => (String.ofList p.1, p.2)
  | _ =>
    let name := cs.takeWhile isBare
    if name.isEmpty then none else some (String.ofList name, cs.dropWhile isBare)

def keyWithin : Nat → List Char → Option (List String × List Char)
  | 0, _ => none
  | n + 1, cs => do
    let (name, rest) ← simpleKey? (skipSpaces cs)
    match skipSpaces rest with
    | '.' :: rest => do
      let (names, rest) ← keyWithin n rest
      some (name :: names, rest)
    | rest => some ([name], rest)

/-- Reads a key and the spaces after it. -/
def key? (cs : List Char) : Option (List String × List Char) := keyWithin (cs.length + 1) cs

/-! ### Numbers, truth values, dates and times -/

/-- Digits with single underscores between them, without the underscores. -/
def ungrouped? (isDigit : Char → Bool) : List Char → Option (List Char)
  | [] => none
  | [c] => if isDigit c then some [c] else none
  | c :: '_' :: rest => if isDigit c then (ungrouped? isDigit rest).map (c :: ·) else none
  | c :: rest => if isDigit c then (ungrouped? isDigit rest).map (c :: ·) else none

/-- A whole number in another base, after its mark. -/
def based? (base : Nat) (cs : List Char) : Option Value := do
  let isDigit (c : Char) : Bool :=
    match Hex.value? c with
    | some d => d < base
    | none => false
  let digits ← ungrouped? isDigit cs
  let n := digits.foldl (fun acc c => acc * base + (Hex.value? c).getD 0) 0
  if n < 0x8000000000000000 then some (.integer n) else none

/-- Digits of a decimal number without needless zeros in front. -/
def decimal? (cs : List Char) : Option (List Char) :=
  match ungrouped? Char.isDigit cs with
  | some ('0' :: _ :: _) => none
  | digits => digits

/-- A number in decimal, after its sign. -/
def decimalNumber? (negative : Bool) (cs : List Char) : Option Value := do
  let sign := if negative then ['-'] else []
  let isMark (c : Char) : Bool := c = '.' || c = 'e' || c = 'E'
  let whole ← decimal? (cs.takeWhile fun c => !isMark c)
  match cs.dropWhile fun c => !isMark c with
  | [] => (Numeral.integer? (String.ofList (sign ++ whole))).map .integer
  | tail => do
    let isPower (c : Char) : Bool := c = 'e' || c = 'E'
    let power := tail.dropWhile fun c => !isPower c
    let fraction ← match tail.takeWhile fun c => !isPower c with
      | [] => some []
      | _ :: digits => (ungrouped? Char.isDigit digits).map ('.' :: ·)
    let exponent ← match power with
      | [] => some []
      | _ :: '+' :: digits => (ungrouped? Char.isDigit digits).map ('e' :: ·)
      | _ :: '-' :: digits => (ungrouped? Char.isDigit digits).map fun ds => 'e' :: '-' :: ds
      | _ :: digits => (ungrouped? Char.isDigit digits).map ('e' :: ·)
    let x ← Numeral.float? (String.ofList (sign ++ whole ++ fraction ++ exponent))
    if x.isFinite then some (.float x) else none

/-- A number of either sign, after its sign. -/
def signed? (negative : Bool) (cs : List Char) : Option Value :=
  if cs = "inf".toList then some (.float (.infinite negative))
  else if cs = "nan".toList then some (.float .nan)
  else decimalNumber? negative cs

def twoDigits? : List Char → Option (Nat × List Char)
  | a :: b :: rest =>
    if a.isDigit && b.isDigit then some ((a.toNat - 48) * 10 + (b.toNat - 48), rest) else none
  | _ => none

def daysIn (year month : Nat) : Nat :=
  if month = 2 then
    if year % 4 = 0 ∧ (year % 100 ≠ 0 ∨ year % 400 = 0) then 29 else 28
  else if month = 4 ∨ month = 6 ∨ month = 9 ∨ month = 11 then 30
  else 31

/-- Reads a date; its text is the one that was read. -/
def date? (cs : List Char) : Option (List Char × List Char) := do
  let (y1, rest) ← twoDigits? cs
  let (y2, rest) ← twoDigits? rest
  match rest with
  | '-' :: rest => do
    let (month, rest) ← twoDigits? rest
    match rest with
    | '-' :: rest => do
      let (day, rest) ← twoDigits? rest
      if 1 ≤ month ∧ month ≤ 12 ∧ 1 ≤ day ∧ day ≤ daysIn (y1 * 100 + y2) month then
        some (cs.take 10, rest)
      else none
    | _ => none
  | _ => none

/-- Reads a fraction of a second, if there is one: nine digits count, and zeros at the end do
not. -/
def fraction? (cs : List Char) : Option (List Char × List Char) :=
  match cs with
  | '.' :: rest =>
    let digits := rest.takeWhile Char.isDigit
    let kept := ((digits.take 9).reverse.dropWhile (· == '0')).reverse
    if digits.isEmpty then none
    else some (if kept.isEmpty then [] else '.' :: kept, rest.dropWhile Char.isDigit)
  | _ => some ([], cs)

/-- Reads a time of day; the seconds may be missing. -/
def time? (cs : List Char) : Option (List Char × List Char) := do
  let (hour, rest) ← twoDigits? cs
  match rest with
  | ':' :: rest => do
    let (minute, rest) ← twoDigits? rest
    if 23 < hour ∨ 59 < minute then none
    else match rest with
      | ':' :: rest => do
        let (second, rest) ← twoDigits? rest
        if 60 < second then none
        else do
          let (fraction, rest) ← fraction? rest
          some (cs.take 8 ++ fraction, rest)
      | rest => some (cs.take 5, rest)
  | _ => none

/-- Reads the distance from universal time, if there is one. -/
def offset? (cs : List Char) : Option (List Char) :=
  match cs with
  | [] => some []
  | ['Z'] => some ['Z']
  | ['z'] => some ['Z']
  | s :: rest => do
    if s ≠ '+' ∧ s ≠ '-' then none
    else do
      let (hour, rest) ← twoDigits? rest
      match rest with
      | ':' :: rest => do
        let (minute, rest) ← twoDigits? rest
        if rest.isEmpty ∧ hour ≤ 23 ∧ minute ≤ 59 then
          some ((if hour = 0 ∧ minute = 0 then '+' else s) :: cs.drop 1)
        else none
      | _ => none

/-- A date, a time of day, or both, in their usual text. -/
def moment? (cs : List Char) : Option Value :=
  let text (s : List Char) : Value := .moment (String.ofList s)
  match date? cs with
  | some (date, []) => some (text date)
  | some (date, c :: rest) =>
    if c = 'T' ∨ c = 't' ∨ c = ' ' then do
      let (time, rest) ← time? rest
      let offset ← offset? rest
      some (text (date ++ 'T' :: time ++ offset))
    else none
  | none =>
    match time? cs with
    | some (time, []) => some (text time)
    | _ => none

/-- The characters of a value without quotes and brackets. -/
def isPlain (c : Char) : Bool := isBare c || c = '+' || c = '.' || c = ':'

/-- The plain text at the front. A space belongs to it between a date and a time of day. -/
def plain (cs : List Char) : List Char × List Char :=
  let word := cs.takeWhile isPlain
  match cs.dropWhile isPlain with
  | ' ' :: rest =>
    if (date? word).isSome ∧ word.length = 10 ∧ (rest.head?.map Char.isDigit).getD false then
      (word ++ ' ' :: rest.takeWhile isPlain, rest.dropWhile isPlain)
    else (word, ' ' :: rest)
  | rest => (word, rest)

/-- A value without quotes and brackets. -/
def plainValue? (cs : List Char) : Option Value :=
  match cs with
  | '+' :: rest => signed? false rest
  | '-' :: rest => signed? true rest
  | '0' :: 'x' :: rest => based? 16 rest
  | '0' :: 'o' :: rest => based? 8 rest
  | '0' :: 'b' :: rest => based? 2 rest
  | _ =>
    if cs = "true".toList then some (.flag true)
    else if cs = "false".toList then some (.flag false)
    else (signed? false cs).or (moment? cs)

/-! ### Values and statements -/

/-- Reads the items of a list after its opening bracket. -/
def items? (value : List Char → Option (Value × List Char)) :
    Nat → List Char → Option (List Value × List Char)
  | 0, _ => none
  | n + 1, cs => do
    let rest ← skipLines cs
    match rest with
    | ']' :: rest => some ([], rest)
    | rest => do
      let (item, rest) ← value rest
      let rest ← skipLines rest
      match rest with
      | ',' :: rest => do
        let (more, rest) ← items? value n rest
        some (item :: more, rest)
      | ']' :: rest => some ([item], rest)
      | _ => none

/-- Reads the entries of a table in braces after the opening one. -/
def entries? (value : List Char → Option (Value × List Char)) :
    Nat → List Char → Option (List (List String × Value) × List Char)
  | 0, _ => none
  | n + 1, cs => do
    let rest ← skipLines cs
    match rest with
    | '\x7d' :: rest => some ([], rest)
    | rest => do
      let (key, rest) ← key? rest
      match rest with
      | '=' :: rest => do
        let (v, rest) ← value (skipSpaces rest)
        let rest ← skipLines rest
        match rest with
        | ',' :: rest => do
          let (more, rest) ← entries? value n rest
          some ((key, v) :: more, rest)
        | '\x7d' :: rest => some ([(key, v)], rest)
        | _ => none
      | _ => none

/-- Reads a value with lists and tables nested at most `depth` deep. -/
def value? (depth : Nat) (cs : List Char) : Option (Value × List Char) :=
  match cs with
  | '[' :: rest =>
    match depth with
    | 0 => none
    | depth + 1 =>
      (items? (value? depth) (rest.length + 1) rest).map fun p => (.list p.1, p.2)
  | '\x7b' :: rest =>
    match depth with
    | 0 => none
    | depth + 1 =>
      (entries? (value? depth) (rest.length + 1) rest).map fun p => (.table p.1, p.2)
  | c :: _ =>
    if c = '"' ∨ c = '\x27' then (string? cs).map fun p => (.text p.1, p.2)
    else
      let (word, rest) := plain cs
      (plainValue? word).map fun v => (v, rest)
  | [] => none

/-- The deepest nesting of lists and tables. -/
def depthLimit : Nat := 80

/-- Reads a statement. -/
def statement? (cs : List Char) : Option (Statement × List Char) :=
  match cs with
  | '[' :: '[' :: rest => do
    let (key, rest) ← key? rest
    match rest with
    | ']' :: ']' :: rest => some (.arrayHeader key, rest)
    | _ => none
  | '[' :: rest => do
    let (key, rest) ← key? rest
    match rest with
    | ']' :: rest => some (.header key, rest)
    | _ => none
  | _ => do
    let (key, rest) ← key? cs
    match rest with
    | '=' :: rest => do
      let (v, rest) ← value? depthLimit (skipSpaces rest)
      some (.assign key v, rest)
    | _ => none

/-- Reads the statements of a text, one a line. -/
def statementsWithin : Nat → List Char → Option (List Statement)
  | 0, _ => none
  | n + 1, cs => do
    let rest ← skipLines cs
    if rest.isEmpty then some []
    else do
      let (s, rest) ← statement? rest
      let rest ← endLine? rest
      let more ← statementsWithin n rest
      some (s :: more)

/-- The statements of a text. -/
def statements? (cs : List Char) : Option (List Statement) := statementsWithin (cs.length + 1) cs

/-! ### Tables -/

/-- How a table came about, which decides what may still be added to it. -/
inductive Origin where
  /-- As a part of the key of a header. -/
  | implied
  /-- By a header. -/
  | header
  /-- As a part of the key of an assignment. -/
  | dotted
  deriving DecidableEq, Repr

/-- A value in its place. -/
inductive Node where
  | leaf (value : Raw)
  | table (origin : Origin) (entries : List (String × Node))
  | array (tables : List (List (String × Node)))

namespace Node

def lookup? (key : String) : List (String × Node) → Option Node
  | [] => none
  | e :: es => if e.1 = key then some e.2 else lookup? key es

/-- Sets an entry in its place, or at the end. -/
def put (key : String) (node : Node) : List (String × Node) → List (String × Node)
  | [] => [(key, node)]
  | e :: es => if e.1 = key then (key, node) :: es else e :: put key node es

/-- Puts a value under a key of an assignment: its first parts name tables that such keys or
headers imply, its last part names nothing yet. -/
def assign? (value : Raw) : List String → List (String × Node) → Option (List (String × Node))
  | [], _ => none
  | [name], es => if (lookup? name es).isSome then none else some (put name (.leaf value) es)
  | name :: names, es =>
    match lookup? name es with
    | none => (assign? value names []).map fun inner => put name (.table .dotted inner) es
    | some (.table .header _) => none
    | some (.table origin inner) =>
      (assign? value names inner).map fun inner => put name (.table origin inner) es
    | some _ => none

/-- Changes the table that a header names; the parts before the last are implied where they are
missing, and of an array the last table is meant. -/
def enter? (final : Option Node → Option Node) :
    List String → List (String × Node) → Option (List (String × Node))
  | [], _ => none
  | [name], es => (final (lookup? name es)).map fun node => put name node es
  | name :: names, es =>
    match lookup? name es with
    | none => (enter? final names []).map fun inner => put name (.table .implied inner) es
    | some (.table origin inner) =>
      (enter? final names inner).map fun inner => put name (.table origin inner) es
    | some (.array tables) =>
      match tables.getLast? with
      | none => none
      | some inner => (enter? final names inner).map fun inner =>
          put name (.array (tables.dropLast ++ [inner])) es
    | some (.leaf _) => none

/-- Begins a table: one that is missing or only implied. -/
def beginTable : Option Node → Option Node
  | none => some (.table .header [])
  | some (.table .implied inner) => some (.table .header inner)
  | some _ => none

def beginElement : Option Node → Option Node
  | none => some (.array [[]])
  | some (.array tables) => some (.array (tables ++ [[]]))
  | some _ => none

/-- Changes the entries of a node that is a table, or of the last table of an array. -/
def change (f : List (String × Node) → Option (List (String × Node))) : Option Node → Option Node
  | some (.table origin inner) => (f inner).map (.table origin)
  | some (.array tables) =>
    tables.getLast?.bind fun inner =>
      (f inner).map fun inner => .array (tables.dropLast ++ [inner])
  | _ => none

end Node

/-- Puts a value under a key inside a table in braces. Tables that the key names on the way have no
source, which tells them apart from closed tables. -/
def place? (value : Raw) : List String → List (String × Raw) → Option (List (String × Raw))
  | [], _ => none
  | [name], es => if (Raw.lookup? name es).isSome then none else some (Raw.put name value es)
  | name :: names, es =>
    match Raw.lookup? name es with
    | none => (place? value names []).map fun inner => Raw.put name (.table none inner) es
    | some (.table none inner) =>
      (place? value names inner).map fun inner => Raw.put name (.table none inner) es
    | some _ => none

def closedTable? (source : Option String) (es : List (List String × Raw)) : Option Raw :=
  (es.foldlM (fun acc e => place? e.2 e.1 acc) []).map (.table source)

mutual

/-- A value as a raw setting of a source. -/
def Value.raw? (source : Option String) : Value → Option Raw
  | .text s => some (.scalar source (.text s))
  | .integer i => some (.scalar source (.integer i))
  | .float x => some (.scalar source (.float x))
  | .flag b => some (.scalar source (.flag b))
  | .moment s => some (.scalar source (.text s))
  | .list vs => (rawItems? source vs).map (.list source)
  | .table es => (rawEntries? source es).bind (closedTable? source)

/-- The items of a list as raw settings. -/
def rawItems? (source : Option String) : List Value → Option (List Raw)
  | [] => some []
  | v :: vs => do
    let r ← v.raw? source
    let rs ← rawItems? source vs
    some (r :: rs)

/-- The entries of a table in braces as raw settings. -/
def rawEntries? (source : Option String) :
    List (List String × Value) → Option (List (List String × Raw))
  | [] => some []
  | (key, v) :: es => do
    let r ← v.raw? source
    let rs ← rawEntries? source es
    some ((key, r) :: rs)

end

/-- Applies statements one after the other; `current` is the key of the last header. -/
def run? (source : Option String) :
    List Statement → List String → List (String × Node) → Option (List (String × Node))
  | [], _, es => some es
  | .header key :: more, _, es =>
    (Node.enter? Node.beginTable key es).bind (run? source more key)
  | .arrayHeader key :: more, _, es =>
    (Node.enter? Node.beginElement key es).bind (run? source more key)
  | .assign key value :: more, current, es => do
    let raw ← value.raw? source
    let es ← match current with
      | [] => Node.assign? raw key es
      | _ => Node.enter? (Node.change (Node.assign? raw key)) current es
    run? source more current es

mutual

def Node.raw (source : Option String) : Node → Raw
  | .leaf v => v
  | .table _ es => .table source (rawFields source es)
  | .array ts => .list source (rawTables source ts)

/-- The entries of a table as raw settings. -/
def rawFields (source : Option String) : List (String × Node) → List (String × Raw)
  | [] => []
  | (key, node) :: es => (key, node.raw source) :: rawFields source es

/-- The tables of an array as raw settings. -/
def rawTables (source : Option String) : List (List (String × Node)) → List Raw
  | [] => []
  | es :: ts => .table source (rawFields source es) :: rawTables source ts

end

/-- The entries of a file. -/
def parse? (source : String) (text : String) : Option (List (String × Raw)) := do
  let lines ← statements? text.toList
  let es ← run? (some source) lines [] []
  some (rawFields (some source) es)

end PasswordGrant.Toml
