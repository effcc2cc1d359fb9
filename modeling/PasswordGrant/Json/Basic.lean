import PasswordGrant.Number.Shortest
import PasswordGrant.Text.Hex

/-!
# JSON values

The values of JSON documents and their compact text.

* `Json` : a value; the members of an object are in document order;
* `Json.put` : sets a member, the last value given for a name being the one that counts;
* `Json.member?` : looks a member up;
* `Json.render` : the compact text of a value.
-/

namespace PasswordGrant

/-- A number of a document: whole numbers within 64 bits are exact, all others are binary. -/
inductive Json.Number where
  | natural (n : Nat)
  | negative (i : Int)
  | float (x : Binary64)
  deriving DecidableEq, Repr

/-- A JSON value. -/
inductive Json where
  | null
  | bool (b : Bool)
  | number (n : Json.Number)
  | text (s : String)
  | array (items : List Json)
  | object (members : List (String × Json))
  deriving Repr

namespace Json

/-- Sets a member: a name that occurs keeps its place and takes the new value. -/
def put (name : String) (value : Json) : List (String × Json) → List (String × Json)
  | [] => [(name, value)]
  | m :: rest => if m.1 = name then (name, value) :: rest else m :: put name value rest

def memberOf? (name : String) : List (String × Json) → Option Json
  | [] => none
  | m :: rest => if m.1 = name then some m.2 else memberOf? name rest

/-- The value of a member of an object. -/
def member? (name : String) : Json → Option Json
  | .object members => memberOf? name members
  | _ => none

/-- The text that a value is, if it is one. -/
def text? : Json → Option String
  | .text s => some s
  | _ => none

def members? : Json → Option (List (String × Json))
  | .object members => some members
  | _ => none

/-! ### The compact text -/

/-- One character of a string: quotes, backslashes and controls are escaped. -/
def escapeChar (c : Char) : List Char :=
  if c = '"' then ['\\', '"']
  else if c = '\\' then ['\\', '\\']
  else if c = '\n' then ['\\', 'n']
  else if c = '\t' then ['\\', 't']
  else if c = '\r' then ['\\', 'r']
  else if c = '\x08' then ['\\', 'b']
  else if c = '\x0c' then ['\\', 'f']
  else if c.toNat < 0x20 then
    ['\\', 'u', '0', '0', Hex.digitLower (c.toNat / 16), Hex.digitLower (c.toNat % 16)]
  else [c]

def renderText (s : String) : List Char :=
  '"' :: s.toList.flatMap escapeChar ++ ['"']

/-- The digits of a number; a number that is not finite has no JSON form and stands as `null`. -/
def Number.render : Number → List Char
  | .natural n => Nat.toDigits 10 n
  | .negative i => '-' :: Nat.toDigits 10 i.natAbs
  | .float x => if x.isFinite then x.documentText.toList else "null".toList

mutual

/-- The compact text of a value. -/
def render : Json → List Char
  | .null => "null".toList
  | .bool b => if b then "true".toList else "false".toList
  | .number n => n.render
  | .text s => renderText s
  | .array items => '[' :: renderItems items
  | .object members => '\x7b' :: renderMembers members

/-- The elements of an array up to and with the closing bracket. -/
def renderItems : List Json → List Char
  | [] => [']']
  | [v] => render v ++ [']']
  | v :: w :: rest => render v ++ ',' :: renderItems (w :: rest)

/-- The members of an object up to and with the closing brace. -/
def renderMembers : List (String × Json) → List Char
  | [] => ['\x7d']
  | [(name, v)] => renderText name ++ ':' :: render v ++ ['\x7d']
  | (name, v) :: m :: rest =>
    renderText name ++ ':' :: render v ++ ',' :: renderMembers (m :: rest)

end

def compact (v : Json) : String := String.ofList v.render

/-! ### Setting and looking up -/

theorem memberOf?_put_self (name : String) (v : Json) (ms : List (String × Json)) :
    memberOf? name (put name v ms) = some v := by
  induction ms with
  | nil => simp [put, memberOf?]
  | cons m rest ih => by_cases h : m.1 = name <;> simp [put, memberOf?, h, ih]

theorem memberOf?_put_of_ne {name other : String} (h : other ≠ name) (v : Json)
    (ms : List (String × Json)) : memberOf? other (put name v ms) = memberOf? other ms := by
  induction ms with
  | nil => simp [put, memberOf?, h.symm]
  | cons m rest ih => grind [put, memberOf?]

end Json

end PasswordGrant
