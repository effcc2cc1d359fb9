import PasswordGrant.Json.Reader

/-!
# Passing over a value

A member that no one asked for is passed over: its form is checked, its content is not, so halves
of surrogate pairs, numbers of any size and nesting of any depth are let through.

* `skipText`, `skipNumber` : passing over the small parts;
* `skipValue` : passing over any value.
-/

namespace PasswordGrant.Json

/-- Passes over a string after its opening quote. -/
def skipTextWithin : Nat → List Char → Except Fault (List Char)
  | 0, rest => .error (.here .textUnfinished rest)
  | _ + 1, [] => .error (.here .textUnfinished [])
  | n + 1, c :: rest =>
    if c = '"' then .ok rest
    else if c = '\\' then
      match rest with
      | [] => .error (.here .textUnfinished [])
      | 'u' :: rest => do
        let (_, rest) ← readUnit rest
        skipTextWithin n rest
      | d :: more =>
        match escape? d with
        | some _ => skipTextWithin n more
        | none => .error (.next .badEscape (d :: more))
    else if c.toNat < 0x20 then .error (.here .controlCharacter (c :: rest))
    else skipTextWithin n rest

/-- Passes over a string after its opening quote. -/
def skipText (s : List Char) : Except Fault (List Char) := skipTextWithin (s.length + 1) s

def skipExponent (s : List Char) : Except Fault (List Char) :=
  let s := match s with
    | '+' :: rest => rest
    | '-' :: rest => rest
    | rest => rest
  match s with
  | [] => .error (.here .badNumber [])
  | c :: rest => if isDigit c then .ok (rest.dropWhile isDigit) else .error (.next .badNumber s)

/-- Passes over what may follow the whole digits of a number. -/
def skipTail (s : List Char) : Except Fault (List Char) :=
  match s with
  | '.' :: more =>
    match more with
    | [] => .error (.here .badNumber [])
    | c :: _ =>
      if isDigit c then
        match more.dropWhile isDigit with
        | 'e' :: rest => skipExponent rest
        | 'E' :: rest => skipExponent rest
        | rest => .ok rest
      else .error (.next .badNumber more)
  | 'e' :: rest => skipExponent rest
  | 'E' :: rest => skipExponent rest
  | rest => .ok rest

/-- Passes over a number whose sign has been read. -/
def skipNumber : List Char → Except Fault (List Char)
  | [] => .error (.here .badNumber [])
  | '0' :: rest =>
    match rest with
    | [] => .ok []
    | c :: more => if isDigit c then .error (.next .badNumber (c :: more)) else skipTail (c :: more)
  | c :: rest =>
    if isDigit c then skipTail (rest.dropWhile isDigit) else .error (.next .badNumber (c :: rest))

/-- Passes over elements, from the start of one on, and the closing bracket. -/
def skipElements (value : List Char → Except Fault (List Char)) :
    Nat → List Char → Except Fault (List Char)
  | 0, s => .error (.here .listUnfinished s)
  | n + 1, s => do
    let rest ← value s
    match skipBlanks rest with
    | [] => .error (.here .listUnfinished [])
    | c :: rest =>
      if c = ',' then skipElements value n rest
      else if c = ']' then .ok rest
      else .error (.next .listSeparatorExpected (c :: rest))

/-- Passes over members, from the start of one on, and the closing brace. -/
def skipMembers (value : List Char → Except Fault (List Char)) :
    Nat → List Char → Except Fault (List Char)
  | 0, s => .error (.here .objectUnfinished s)
  | n + 1, s =>
    match skipBlanks s with
    | [] => .error (.here .objectUnfinished [])
    | c :: rest =>
      if c = '"' then do
        let rest ← skipText rest
        let rest ← readColon rest
        let rest ← value rest
        match skipBlanks rest with
        | [] => .error (.here .objectUnfinished [])
        | c :: rest =>
          if c = ',' then skipMembers value n rest
          else if c = '\x7d' then .ok rest
          else .error (.next .objectSeparatorExpected (c :: rest))
      else .error (.next .keyNotText (c :: rest))

/-- Passes over a value in which arrays and objects are nested less than the first argument
deep. -/
def skipValueWithin : Nat → List Char → Except Fault (List Char)
  | 0, s => .error (.here .tooDeep s)
  | n + 1, s =>
    match skipBlanks s with
    | [] => .error (.here .valueUnfinished [])
    | c :: rest =>
      if c = 'n' then readWord ['u', 'l', 'l'] rest
      else if c = 't' then readWord ['r', 'u', 'e'] rest
      else if c = 'f' then readWord ['a', 'l', 's', 'e'] rest
      else if c = '-' then skipNumber rest
      else if isDigit c then skipNumber (c :: rest)
      else if c = '"' then skipText rest
      else if c = '[' then
        match skipBlanks rest with
        | [] => .error (.here .listUnfinished [])
        | d :: more =>
          if d = ']' then .ok more
          else skipElements (skipValueWithin n) (more.length + 1) (d :: more)
      else if c = '\x7b' then
        match skipBlanks rest with
        | [] => .error (.here .objectUnfinished [])
        | d :: more =>
          if d = '\x7d' then .ok more
          else skipMembers (skipValueWithin n) (more.length + 1) (d :: more)
      else .error (.next .valueExpected (c :: rest))

/-- Passes over a value. Each level of nesting takes a character, so the length of the text bounds
the depth. -/
def skipValue (s : List Char) : Except Fault (List Char) := skipValueWithin (s.length + 1) s

end PasswordGrant.Json
